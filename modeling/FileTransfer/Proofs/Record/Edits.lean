import FileTransfer.Proofs.Record.Kept
import Mathlib.Data.List.Induction
import Mathlib.Data.Nat.Bitwise

/-! Records under edits.

An edit writes one group of fields and keeps the others, a reset writes them all. So what a field
shows after a run of edits is what the last edit of its group wrote since the last reset
(`Follows.edits`, by induction on the run), edits of different groups may change places, and of
edits of one group the last counts. `edits_settled` puts this together for every record on the way
of a run. -/
namespace FileTransfer
namespace FileRecord

/-! ### What edits write -/

/-- The fields that are written together. -/
inductive Group where
  | size
  | index
  | attributes
  | creation
  deriving DecidableEq, Repr

namespace Edit

/-- The group that an edit writes, if it is not a reset. -/
def group? : Edit → Option Group
  | .size _ => some .size
  | .sizeHalves _ => some .size
  | .index _ => some .index
  | .indexHalves _ => some .index
  | .attributes _ => some .attributes
  | .creation _ => some .creation
  | .reset => none

/-- The size that an edit gives, whole or in halves. -/
def size? : Edit → Option Nat
  | .size n => some n.toNat
  | .sizeHalves h => some (h.high.toNat * 4294967296 + h.low.toNat)
  | _ => none

/-- The index that an edit gives, whole or in halves. -/
def index? : Edit → Option Nat
  | .index n => some n.toNat
  | .indexHalves h => some (h.high.toNat * 4294967296 + h.low.toNat)
  | _ => none

def attributes? : Edit → Option UInt32
  | .attributes bits => some bits
  | _ => none

def creation? : Edit → Option Int64
  | .creation nanos => some nanos
  | _ => none

end Edit

/-! ### The last of a run -/

variable {α β : Type} {es : List Edit} {e : Edit}

/-- The edits since the last reset, the newest first. -/
def recent (es : List Edit) : List Edit :=
  es.reverse.takeWhile fun e => decide (e ≠ .reset)

/-- What the last edit of some kind gave since the last reset, if there was one. -/
def latest (given? : Edit → Option α) (es : List Edit) : Option α :=
  (recent es).findSome? given?

theorem latest_concat (given? : Edit → Option α) (es : List Edit) (e : Edit) :
    latest given? (es ++ [e]) =
      if e = .reset then none else (given? e).or (latest given? es) := by
  unfold latest recent
  rw [List.reverse_append, List.reverse_singleton, List.singleton_append, List.takeWhile_cons]
  by_cases he : e = .reset
  · simp [he]
  · simp only [he, ne_eq, not_false_eq_true, decide_true, if_true, if_false, List.findSome?_cons]
    cases given? e <;> rfl

theorem latest_map (given? : Edit → Option α) (f : α → β) (es : List Edit) :
    latest (fun e => (given? e).map f) es = (latest given? es).map f :=
  List.map_findSome?.symm

/-- Where a run starts, as far as it can still be seen: at a blank record after a reset. -/
def origin (r : FileRecord) (es : List Edit) : FileRecord :=
  if .reset ∈ es then blank else r

theorem edits_concat (r : FileRecord) (es : List Edit) (e : Edit) :
    r.edits (es ++ [e]) = (r.edits es).edit e := by
  simp [edits]

/-- What can be read from a record and follows the edits of some kind: such an edit sets it, and no
other edit but a reset touches it. -/
structure Follows (read : FileRecord → β) (given? : Edit → Option β) : Prop where
  edit : ∀ r e, e ≠ .reset → read (r.edit e) = (given? e).getD (read r)

/-- After a run it is what the last edit gave, or else what it was at the start. -/
theorem Follows.edits {read : FileRecord → β} {given? : Edit → Option β}
    (h : Follows read given?) (r : FileRecord) (es : List Edit) :
    read (r.edits es) = (latest given? es).getD (read (r.origin es)) := by
  induction es using List.reverseRecOn with
  | nil => simp [origin, latest, recent, FileRecord.edits]
  | append_singleton es e ih =>
    rw [edits_concat, latest_concat]
    by_cases he : e = .reset
    · simp [he, origin, FileRecord.edit]
    · have horigin : r.origin (es ++ [e]) = r.origin es := by
        simp [origin, Ne.symm he]
      rw [h.edit _ e he, ih, if_neg he, horigin]
      cases given? e <;> rfl

/-! ### What is read from a record -/

theorem toNat_setSize (n : UInt64) (r : FileRecord) : (r.setSize n).size.toNat = n.toNat :=
  congrArg UInt64.toNat (Halves.join_split n)

theorem toNat_setIndex (n : UInt64) (r : FileRecord) : (r.setIndex n).index.toNat = n.toNat :=
  congrArg UInt64.toNat (Halves.join_split n)

/-- What is read without regard to the creation time is kept when this is written. -/
theorem edit_creation (read : FileRecord → β) (r : FileRecord) (nanos : Int64)
    (hread : ∀ t : FileTime, read { r with creation := t } = read r) :
    read (r.edit (.creation nanos)) = read r :=
  hread (.ofNanos nanos)

theorem follows_size : Follows (fun r => r.size.toNat) Edit.size? where
  edit r e he := by
    cases e with
    | size n => exact r.toNat_setSize n
    | sizeHalves h =>
      show h.join.toNat = h.high.toNat * 4294967296 + h.low.toNat
      exact h.toNat_join
    | creation nanos => exact edit_creation (fun r => r.size.toNat) r nanos fun _ => rfl
    | reset => exact absurd rfl he
    | _ => rfl

theorem follows_index : Follows (fun r => r.index.toNat) Edit.index? where
  edit r e he := by
    cases e with
    | index n => exact r.toNat_setIndex n
    | indexHalves h =>
      show h.join.toNat = h.high.toNat * 4294967296 + h.low.toNat
      exact h.toNat_join
    | creation nanos => exact edit_creation (fun r => r.index.toNat) r nanos fun _ => rfl
    | reset => exact absurd rfl he
    | _ => rfl

theorem follows_attributes : Follows attributes Edit.attributes? where
  edit r e he := by
    cases e with
    | creation nanos => exact edit_creation attributes r nanos fun _ => rfl
    | reset => exact absurd rfl he
    | _ => rfl

theorem follows_creation : Follows creation fun e => e.creation?.map .ofNanos where
  edit r e he := by
    cases e with
    | reset => exact absurd rfl he
    | _ => rfl

/-- The fields that no edit but a reset writes. -/
def others (r : FileRecord) : FileTime × FileTime × UInt32 × UInt32 :=
  (r.lastAccess, r.lastWrite, r.volume, r.links)

theorem follows_others : Follows others fun _ => none where
  edit r e he := by
    cases e with
    | creation nanos => exact edit_creation others r nanos fun _ => rfl
    | reset => exact absurd rfl he
    | _ => rfl

theorem latest_none (es : List Edit) : latest (fun _ => (none : Option α)) es = none := by
  simp [latest]

/-- The halves of a number are known from the number. -/
theorem eq_of_toNat_join {h h' : Halves} (hjoin : h.join.toNat = h'.join.toNat) : h = h' :=
  Halves.join_inj.mp (UInt64.toNat_inj.mp hjoin)

/-- A record is no more than what is read from it. -/
theorem eq_of_readings {r q : FileRecord} (hsize : r.size.toNat = q.size.toNat)
    (hindex : r.index.toNat = q.index.toNat) (hattributes : r.attributes = q.attributes)
    (hcreation : r.creation = q.creation) (hothers : r.others = q.others) : r = q := by
  obtain ⟨hsizeHigh, hsizeLow⟩ := Halves.mk.inj (eq_of_toNat_join hsize)
  obtain ⟨hindexHigh, hindexLow⟩ := Halves.mk.inj (eq_of_toNat_join hindex)
  cases r
  cases q
  simp_all [others]

/-! ### Runs of edits -/

/-- What a record shows after a run of edits that began with a blank one. -/
structure Reflects (r : FileRecord) (es : List Edit) : Prop where
  size : r.size.toNat = (latest Edit.size? es).getD 0
  index : r.index.toNat = (latest Edit.index? es).getD 0
  attributes : r.attributes = (latest Edit.attributes? es).getD 0
  directory : r.isDirectory = true ↔
    ∃ bits, latest Edit.attributes? es = some bits ∧ bits.toNat.testBit 4 = true
  creation : ∀ nanos, latest Edit.creation? es = some nanos →
    r.creation.nanos.toInt = nanos.toInt - nanos.toInt.tmod 100
  noSize : latest Edit.size? es = none → r.sizeHigh = 0 ∧ r.sizeLow = 0
  noIndex : latest Edit.index? es = none → r.indexHigh = 0 ∧ r.indexLow = 0
  noCreation : latest Edit.creation? es = none → r.creation = ⟨0, 0⟩
  others : r.lastAccess = ⟨0, 0⟩ ∧ r.lastWrite = ⟨0, 0⟩ ∧ r.volume = 0 ∧ r.links = 0

theorem origin_blank (es : List Edit) : blank.origin es = blank := by
  simp [origin]

theorem isDirectory_iff_testBit (r : FileRecord) :
    r.isDirectory = true ↔ r.attributes.toNat.testBit 4 = true := by
  have hmask : (r.attributes &&& directoryAttribute).toNat =
      (r.attributes.toNat.testBit 4).toNat * 16 := by
    rw [UInt32.toNat_and]
    exact Nat.and_two_pow _ 4
  rw [isDirectory, bne_iff_ne, ne_eq, ← UInt32.toNat_inj, hmask]
  cases r.attributes.toNat.testBit 4 <;> decide

theorem reflects_edits (es : List Edit) : Reflects (blank.edits es) es := by
  have hsize := follows_size.edits blank es
  have hindex := follows_index.edits blank es
  have hattributes := follows_attributes.edits blank es
  have hcreation := follows_creation.edits blank es
  have hothers := follows_others.edits blank es
  rw [origin_blank] at hsize hindex hattributes hcreation hothers
  rw [latest_map] at hcreation
  rw [latest_none] at hothers
  refine
    { size := hsize
      index := hindex
      attributes := hattributes
      directory := ?_
      creation := fun nanos hnanos => ?_
      noSize := fun hnone => ?_
      noIndex := fun hnone => ?_
      noCreation := fun hnone => ?_
      others := ?_ }
  · rw [isDirectory_iff_testBit, hattributes]
    cases latest Edit.attributes? es with
    | none => simp [blank]
    | some bits => simp
  · rw [hcreation, hnanos]
    exact (FileTime.nanos_ofNanos nanos).1
  · rw [hnone] at hsize
    exact Halves.mk.inj (eq_of_toNat_join hsize)
  · rw [hnone] at hindex
    exact Halves.mk.inj (eq_of_toNat_join hindex)
  · rw [hcreation, hnone]
    rfl
  · simpa [others, blank] using hothers

/-- The records on the way of a run are those after each of its beginnings. -/
theorem getElem?_history (r : FileRecord) {es : List Edit} {i : Nat} (hi : i < es.length) :
    (r.history es)[i]? = some (r.edits (es.take (i + 1))) := by
  induction es generalizing r i with
  | nil => exact absurd hi (Nat.not_lt_zero i)
  | cons e es ih =>
    obtain _ | i := i
    · rfl
    · exact ih (r.edit e) (Nat.lt_of_succ_lt_succ hi)

/-! ### The order of edits -/

/-- Two runs with the same last edit of each group, as far as it can still be seen. -/
structure SameEnd (es es' : List Edit) : Prop where
  reset : .reset ∈ es ↔ .reset ∈ es'
  size : latest Edit.size? es = latest Edit.size? es'
  index : latest Edit.index? es = latest Edit.index? es'
  attributes : latest Edit.attributes? es = latest Edit.attributes? es'
  creation : latest Edit.creation? es = latest Edit.creation? es'

theorem SameEnd.edits_eq {es es' : List Edit} (h : SameEnd es es') (r : FileRecord) :
    r.edits es = r.edits es' := by
  have horigin : r.origin es = r.origin es' := by
    simp [origin, h.reset]
  refine eq_of_readings ?_ ?_ ?_ ?_ ?_
  · have hsize := follows_size.edits r
    rw [hsize, hsize, h.size, horigin]
  · have hindex := follows_index.edits r
    rw [hindex, hindex, h.index, horigin]
  · rw [follows_attributes.edits, follows_attributes.edits, h.attributes, horigin]
  · rw [follows_creation.edits, follows_creation.edits, latest_map, latest_map, h.creation, horigin]
  · rw [follows_others.edits, follows_others.edits, latest_none, latest_none, horigin]

/-- The edits of a group are those that give something. -/
structure GivenBy (given? : Edit → Option α) (g : Group) : Prop where
  isSome_iff : ∀ e, (given? e).isSome = true ↔ e.group? = some g

theorem givenBy_size : GivenBy Edit.size? .size where
  isSome_iff e := by cases e <;> simp [Edit.size?, Edit.group?]

theorem givenBy_index : GivenBy Edit.index? .index where
  isSome_iff e := by cases e <;> simp [Edit.index?, Edit.group?]

theorem givenBy_attributes : GivenBy Edit.attributes? .attributes where
  isSome_iff e := by cases e <;> simp [Edit.attributes?, Edit.group?]

theorem givenBy_creation : GivenBy Edit.creation? .creation where
  isSome_iff e := by cases e <;> simp [Edit.creation?, Edit.group?]

section Pairs
variable {e' : Edit} {g g' : Group} {given? : Edit → Option α} {k : Group}

theorem ne_reset_of_group? (he : e.group? = some g) : e ≠ .reset := by
  rintro rfl
  cases he

theorem exists_group? (he : e ≠ .reset) : ∃ g, e.group? = some g := by
  cases e with
  | reset => exact absurd rfl he
  | _ => exact ⟨_, rfl⟩

theorem latest_single (he : e.group? = some g) : latest given? [e] = given? e := by
  have hconcat := latest_concat given? [] e
  rw [if_neg (ne_reset_of_group? he)] at hconcat
  exact hconcat.trans Option.or_none

theorem latest_pair (he : e.group? = some g) (he' : e'.group? = some g') :
    latest given? [e, e'] = (given? e').or (given? e) := by
  have hconcat := latest_concat given? [e] e'
  rwa [if_neg (ne_reset_of_group? he'), latest_single he] at hconcat

theorem GivenBy.latest_comm (h : GivenBy given? k) (he : e.group? = some g)
    (he' : e'.group? = some g') (hne : g ≠ g') : latest given? [e, e'] = latest given? [e', e] := by
  have hfirst := h.isSome_iff e
  have hsecond := h.isSome_iff e'
  rw [latest_pair he he', latest_pair he' he]
  cases hx : given? e with
  | none => simp
  | some x =>
    cases hy : given? e' with
    | none => rfl
    | some y =>
      -- both would be of the one group
      have hg : g = k := Option.some.inj (he.symm.trans (hfirst.mp (by rw [hx]; rfl)))
      have hg' : g' = k := Option.some.inj (he'.symm.trans (hsecond.mp (by rw [hy]; rfl)))
      exact absurd (hg.trans hg'.symm) hne

theorem GivenBy.latest_last (h : GivenBy given? k) (he : e.group? = some g)
    (he' : e'.group? = some g) : latest given? [e, e'] = latest given? [e'] := by
  have hsame : (given? e).isSome = true ↔ (given? e').isSome = true := by
    rw [h.isSome_iff, h.isSome_iff, he, he']
  rw [latest_pair he he', latest_single he']
  cases hy : given? e' with
  | some y => rfl
  | none => simpa [hy] using hsame

/-- Edits of different groups may change places. -/
theorem edit_comm (r : FileRecord) (he : e.group? = some g) (he' : e'.group? = some g')
    (hne : g ≠ g') : (r.edit e).edit e' = (r.edit e').edit e := by
  have hend : SameEnd [e, e'] [e', e] :=
    { reset := by simp [or_comm]
      size := givenBy_size.latest_comm he he' hne
      index := givenBy_index.latest_comm he he' hne
      attributes := givenBy_attributes.latest_comm he he' hne
      creation := givenBy_creation.latest_comm he he' hne }
  exact hend.edits_eq r

/-- Of two edits of one group the second counts. -/
theorem edit_edit (r : FileRecord) (he : e.group? = some g) (he' : e'.group? = some g) :
    (r.edit e).edit e' = r.edit e' := by
  have hend : SameEnd [e, e'] [e'] :=
    { reset := by simp [(ne_reset_of_group? he).symm]
      size := givenBy_size.latest_last he he'
      index := givenBy_index.latest_last he he'
      attributes := givenBy_attributes.latest_last he he'
      creation := givenBy_creation.latest_last he he' }
  exact hend.edits_eq r

end Pairs

/-- Every record on the way of a run of edits from a blank one shows of each group what its last edit
wrote since the last reset, and nothing else. Edits of different groups may change places, of two
edits of one group the second counts, and so any two runs come to the same record if the last edit of
each group is the same. -/
theorem edits_settled :
    (∀ (es : List Edit) (i : Nat), i < es.length →
      ∃ r, (history blank es)[i]? = some r ∧ Reflects r (es.take (i + 1))) ∧
    (∀ (r : FileRecord) (e e' : Edit), e ≠ .reset → e' ≠ .reset →
      (e.group? ≠ e'.group? → (r.edit e).edit e' = (r.edit e').edit e) ∧
      (e.group? = e'.group? → (r.edit e).edit e' = r.edit e')) ∧
    ∀ (r : FileRecord) (es es' : List Edit), SameEnd es es' → r.edits es = r.edits es' := by
  refine ⟨fun es i hi => ⟨_, getElem?_history blank hi, reflects_edits _⟩,
    fun r e e' he he' => ?_, fun r es es' h => h.edits_eq r⟩
  obtain ⟨g, hg⟩ := exists_group? he
  obtain ⟨g', hg'⟩ := exists_group? he'
  rw [hg, hg', ne_eq, Option.some.injEq]
  refine ⟨r.edit_comm hg hg', ?_⟩
  rintro rfl
  exact r.edit_edit hg hg'

/-- A run over both ways to write a size, with a reset in it, stopped before its last edit. -/
theorem edits_settled_after_reset :
    let es : List Edit :=
      [.index 9, .attributes 0x80, .reset, .size 0xFFFFFFFFFFFFFFFF, .sizeHalves ⟨1, 5⟩,
        .creation (-150), .attributes 0x30, .size 0]
    (∃ r, (history blank es)[6]? = some r ∧ r.size.toNat = 4294967301 ∧ r.index.toNat = 0 ∧
      r.isDirectory = true ∧ r.creation.nanos.toInt = -100) ∧
    (∀ r : FileRecord, (r.edit (.size 7)).edit (.indexHalves ⟨7, 0⟩) =
      (r.edit (.indexHalves ⟨7, 0⟩)).edit (.size 7)) ∧
    ∀ r : FileRecord, r.edits es = r.edits [.reset, .creation (-150), .size 0, .attributes 0x30] := by
  intro es
  obtain ⟨hsteps, hpairs, hruns⟩ := edits_settled
  obtain ⟨r, hr, h⟩ := hsteps es 6 (by decide)
  refine ⟨⟨r, hr, h.size, h.index, h.directory.mpr ⟨0x30, rfl, by decide⟩, ?_⟩, fun r => ?_,
    fun r => hruns r es _ ⟨by decide, by decide, by decide, by decide, by decide⟩⟩
  · exact h.creation (-150) rfl
  · exact (hpairs r (.size 7) (.indexHalves ⟨7, 0⟩) (by decide) (by decide)).1 (by decide)

end FileRecord

end FileTransfer
