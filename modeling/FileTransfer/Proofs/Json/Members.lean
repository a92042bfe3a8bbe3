import FileTransfer.Proofs.Json.Field

/-! Reading the members of an object into the slots of a record.

An object says something under each of its names (`Entry.said`). As long as no field was named twice
and all values are of the types of their fields (`Suits`), the slots hold what the fields take from
what was said (`Slots.met`), wherever in the object it stands and whatever else is said there. One
more member either leaves it so or ends the reading (`Slots.readMember_said`), and from this follows
what all members come to (`readMembers_entries`). -/
namespace FileTransfer.Json

/-- The names of the fields of a record. -/
def Fields.names (fs : Fields) : List String :=
  fs.map Prod.fst

/-- Something that an object says: a name and the value under it. -/
abbrev Said := String × Spelled

/-- A member of an object whose name denotes a text. -/
structure Entry where
  member : Member Spelled
  key : String
  spells : characters? member.name = some key.toList

def Entry.said (e : Entry) : Said :=
  (e.key, e.member.value.value)

/-- How often a name stands in an object. -/
def mentions (name : String) (said : List Said) : Nat :=
  (said.map Prod.fst).count name

/-- What was said suits a field: its name stands there once at most, and only with values of its
type. -/
structure Suits (f : String × Kind) (said : List Said) : Prop where
  typed : ∀ m ∈ said, m.1 = f.1 → (f.2.value? m.2).isSome
  once : mentions f.1 said ≤ 1

/-- What a field takes from the first value under its name. -/
def slotOf (f : String × Kind) (said : List Said) : Option f.2.Value :=
  (said.find? fun m => m.1 = f.1).bind fun m => f.2.value? m.2

/-- The slots after some members. -/
def Slots.met : (fs : Fields) → List Said → Slots fs
  | [], _ => ()
  | f :: fs, said => (slotOf f said, met fs said)

/-- What reading the members of an object, or some of them, can come to. -/
inductive Outcome (fs : Fields) (said : List Said) (rest : List Char) :
    Reading (Slots fs × List Char) → Prop where
  | met (suits : ∀ f ∈ fs, Suits f said) : Outcome fs said rest (.ok (.met fs said, rest))
  | twice (f : String × Kind) (field : f ∈ fs) (again : 2 ≤ mentions f.1 said) :
    Outcome fs said rest (.error (.mismatch (.duplicate f.1)))
  | untyped (f : String × Kind) (field : f ∈ fs) (m : Said) (mem : m ∈ said) (name : m.1 = f.1)
    (refused : f.2.value? m.2 = none) (e : Failure) : Outcome fs said rest (.error e)

variable {fs : Fields} {f : String × Kind} {m : Said} {said seen more : List Said}
  {rest : List Char}

/-! ### What is said under a name -/

theorem mentions_append (name : String) (said more : List Said) :
    mentions name (said ++ more) = mentions name said + mentions name more := by
  simp only [mentions, List.map_append, List.count_append]

theorem mentions_cons (name : String) (m : Said) (said : List Said) :
    mentions name (m :: said) = mentions name said + if m.1 = name then 1 else 0 := by
  simp [mentions, List.count_cons]

theorem mentions_eq_zero {name : String} : mentions name said = 0 ↔ ∀ m ∈ said, m.1 ≠ name := by
  rw [mentions, List.count_eq_zero]
  simp only [List.mem_map, not_exists, not_and]

theorem mentions_pos {name : String} : 0 < mentions name said ↔ ∃ m ∈ said, m.1 = name := by
  rw [mentions, List.count_pos_iff, List.mem_map]

/-- A field that is named once takes its value from where it is named. -/
theorem slotOf_of_mem {v : Spelled} (honce : mentions f.1 said ≤ 1) (hmem : (f.1, v) ∈ said) :
    slotOf f said = f.2.value? v := by
  induction said with
  | nil => cases hmem
  | cons m said ih =>
    rw [mentions_cons] at honce
    by_cases hm : m.1 = f.1
    · rw [if_pos hm] at honce
      have hfirst : (f.1, v) = m := by
        refine (List.mem_cons.mp hmem).resolve_right fun htail => ?_
        have hpos : 0 < mentions f.1 said := mentions_pos.mpr ⟨_, htail, rfl⟩
        omega
      rw [← hfirst]
      simp [slotOf]
    · have htail := (List.mem_cons.mp hmem).resolve_left fun h => hm (h ▸ rfl)
      rw [← ih (by omega) htail]
      simp [slotOf, hm]

theorem slotOf_eq_none (h : mentions f.1 said = 0) : slotOf f said = none := by
  have hnone : said.find? (fun m => m.1 = f.1) = none := by
    simpa using mentions_eq_zero.mp h
  rw [slotOf, hnone]
  rfl

theorem Suits.nil : Suits f [] :=
  ⟨nofun, Nat.zero_le 1⟩

theorem Suits.exists_slotOf (h : Suits f said) (hpos : 0 < mentions f.1 said) :
    ∃ x, slotOf f said = some x := by
  obtain ⟨⟨name, v⟩, hmem, rfl⟩ := mentions_pos.mp hpos
  rw [slotOf_of_mem h.once hmem]
  exact Option.isSome_iff_exists.mp (h.typed _ hmem rfl)

/-- What is said under another name makes no difference to a field. -/
theorem slotOf_append_of_ne (h : m.1 ≠ f.1) : slotOf f (seen ++ [m]) = slotOf f seen := by
  simp [slotOf, List.find?_append, h]

theorem Suits.append_of_ne (hs : Suits f seen) (h : m.1 ≠ f.1) : Suits f (seen ++ [m]) where
  typed d hd hname := by
    rcases List.mem_append.mp hd with hd | hd
    · exact hs.typed d hd hname
    · exact absurd (List.mem_singleton.mp hd ▸ hname) h
  once := by
    rw [mentions_append, mentions_cons, if_neg h]
    exact hs.once

/-- The first value under the name of a field. -/
theorem Suits.append_of_eq (hnew : mentions f.1 seen = 0) (hm : m.1 = f.1)
    (htyped : (f.2.value? m.2).isSome) : Suits f (seen ++ [m]) where
  typed d hd hname := by
    rcases List.mem_append.mp hd with hd | hd
    · exact absurd hname (mentions_eq_zero.mp hnew d hd)
    · exact List.mem_singleton.mp hd ▸ htyped
  once := by
    rw [mentions_append, hnew, mentions_cons, if_pos hm]
    exact Nat.le_refl 1

theorem Slots.met_append_of_notMem (h : m.1 ∉ fs.names) : met fs (seen ++ [m]) = met fs seen := by
  induction fs with
  | nil => rfl
  | cons f fs ih =>
    obtain ⟨hne, hrest⟩ := List.ne_and_not_mem_of_not_mem_cons h
    rw [met, met, slotOf_append_of_ne hne, ih hrest]

theorem Slots.met_nil : met fs [] = empty fs := by
  induction fs with
  | nil => rfl
  | cons f fs ih => exact congrArg (none, ·) ih

/-! ### One member -/

namespace Outcome

/-- A field with another name than the member's comes to the fields. -/
theorem cons_of_ne {r : Reading (Slots fs × List Char)} (h : Outcome fs (seen ++ [m]) rest r)
    (hf : Suits f seen) (hne : m.1 ≠ f.1) :
    Outcome (f :: fs) (seen ++ [m]) rest (r.map fun x => ((slotOf f seen, x.1), x.2)) := by
  cases h with
  | met hsuits =>
    have hall : ∀ g ∈ f :: fs, Suits g (seen ++ [m]) :=
      List.forall_mem_cons.mpr ⟨hf.append_of_ne hne, hsuits⟩
    rw [← slotOf_append_of_ne hne]
    exact .met hall
  | twice g hg hagain => exact .twice g (List.mem_cons_of_mem f hg) hagain
  | untyped g hg d hd hname hrefused e =>
    exact .untyped g (List.mem_cons_of_mem f hg) d hd hname hrefused e

/-- A failure stays whatever else the object says. -/
theorem error_append {e : Failure} (h : Outcome fs said rest (.error e)) (more : List Said)
    (rest' : List Char) : Outcome fs (said ++ more) rest' (.error e) := by
  cases h with
  | twice f hf hagain =>
    exact .twice f hf (by rw [mentions_append]; omega)
  | untyped f hf m hm hname hrefused =>
    exact .untyped f hf m (List.mem_append_left more hm) hname hrefused e

end Outcome

theorem readColon_blanks (gap : Blanks) (s : List Char) :
    readColon (gap.chars ++ ':' :: s) = .ok s := by
  rw [readColon, skipBlanks_blanks]
  rfl

/-- The text of a member after its name. -/
def Member.tail (m : Member Spelled) (rest : List Char) : List Char :=
  m.gap.chars ++ (':' :: (m.value.before.chars ++ (m.value.value.chars ++ rest)))

/-- A member after the others: it goes to the slot of its field, or to none, or is refused. -/
theorem Slots.readMember_said (hfs : fs.names.Nodup) (hseen : ∀ f ∈ fs, Suits f seen) (e : Entry)
    (h : Ends rest) :
    Outcome fs (seen ++ [e.said]) rest ((met fs seen).readMember e.key (e.member.tail rest)) := by
  obtain ⟨⟨_, _, gap, ⟨start, v, _⟩⟩, key, _⟩ := e
  simp only [Member.tail, Entry.said]
  induction fs with
  | nil =>
    simp only [readMember, readColon_blanks, bind, Except.bind, skipValue_spelled start v h]
    have hnone : ∀ f ∈ ([] : Fields), Suits f (seen ++ [(key, v)]) := by simp
    exact .met hnone
  | cons f fs ih =>
    obtain ⟨hout, hdistinct⟩ := List.nodup_cons.mp hfs
    obtain ⟨hf, htail⟩ := List.forall_mem_cons.mp hseen
    obtain ⟨name, kind⟩ := f
    by_cases hkey : key = name
    · subst hkey
      by_cases hnew : mentions key seen = 0
      · -- the slot is empty, and the field reads its value
        have hread := kind.read_chars v h
        simp only [met, readMember, slotOf_eq_none (f := (key, kind)) hnew, if_true,
          readColon_blanks, Kind.read_blanks, bind, Except.bind]
        generalize hvalue : kind.value? v = x? at hread
        generalize kind.read (v.chars ++ rest) = r at hread
        cases hread with
        | taken x =>
          have hsuits : Suits (key, kind) (seen ++ [(key, v)]) :=
            .append_of_eq hnew rfl (Option.isSome_iff_exists.mpr ⟨x, hvalue⟩)
          have hothers (g : String × Kind) (hg : g ∈ fs) : Suits g (seen ++ [(key, v)]) :=
            (htail g hg).append_of_ne fun hname => hout (List.mem_map.mpr ⟨g, hg, hname.symm⟩)
          have hslot : slotOf (key, kind) (seen ++ [(key, v)]) = some x :=
            (slotOf_of_mem hsuits.once (by simp)).trans hvalue
          have hslots : met ((key, kind) :: fs) (seen ++ [(key, v)]) = (some x, met fs seen) := by
            rw [met, hslot, met_append_of_notMem hout]
          show Outcome ((key, kind) :: fs) _ rest (.ok ((some x, met fs seen), rest))
          exact hslots ▸ .met (List.forall_mem_cons.mpr ⟨hsuits, hothers⟩)
        | refused e =>
          exact .untyped (key, kind) List.mem_cons_self (key, v) (by simp) rfl hvalue e
      · obtain ⟨x, hx⟩ := hf.exists_slotOf (Nat.pos_of_ne_zero hnew)
        simp only [met, readMember, hx, if_true]
        refine .twice (key, kind) List.mem_cons_self ?_
        have hagain : mentions key (seen ++ [(key, v)]) = mentions key seen + 1 := by
          rw [mentions_append, mentions_cons, if_pos rfl]
          rfl
        exact hagain ▸ Nat.succ_le_succ (Nat.pos_of_ne_zero hnew)
    · have hrest := (ih hdistinct htail).cons_of_ne hf hkey
      simp only [met, readMember, if_neg hkey, bind, Except.bind, pure, Except.pure]
      generalize (met fs seen).readMember key _ = r at hrest ⊢
      cases r <;> exact hrest

/-! ### All members -/

theorem length_le_membersChars (first : Bool) (members : List (Member Spelled)) :
    members.length ≤ (membersChars first members).length := by
  induction members generalizing first with
  | nil => exact Nat.le_refl 0
  | cons m members ih =>
    have hrest := ih false
    simp only [membersChars, List.length_append, List.length_cons]
    omega

/-- The next member, and what stands before it. -/
theorem nextKey_member (first : Bool) (gap : Blanks) (m : Member Spelled)
    (members : List (Member Spelled)) (s : List Char) :
    nextKey first (gap.chars ++ (membersChars first (m :: members) ++ s)) =
      .ok (true, literalChars m.name ++
        m.tail (m.value.after.chars ++ (membersChars false members ++ s))) := by
  obtain ⟨before, name, between, ⟨start, v, after⟩⟩ := m
  have hquote (s : List Char) : skipBlanks (before.chars ++ '"' :: s) = '"' :: s :=
    skipBlanks_blanks before _
  rw [nextKey, skipBlanks_blanks]
  simp only [membersChars, List.append_assoc, List.cons_append, Member.tail]
  cases first with
  | true => simp [commaChars, hquote]
  | false => simp [commaChars, hquote, skipBlanks_cons isBlank_comma]

theorem nextKey_brace (first : Bool) (gap : Blanks) (s : List Char) :
    nextKey first (gap.chars ++ '\x7d' :: s) = .ok (false, s) := by
  rw [nextKey, skipBlanks_blanks]
  rfl

theorem readText_entry (e : Entry) (s : List Char) :
    readText (literalChars e.member.name ++ s) = .ok (e.key, s) := by
  have hread := readText_literalChars e.member.name s
  rw [e.spells, Option.map_some, String.ofList_toList] at hread
  generalize readText (literalChars e.member.name ++ s) = r at hread ⊢
  cases hread
  rfl

/-- The members of an object, of which some were read. -/
theorem readMembers_entries (hfs : fs.names.Nodup) (hseen : ∀ f ∈ fs, Suits f seen)
    (entries : List Entry) (first : Bool) (gap : Blanks) (rest : List Char) {limit : Nat}
    (hlimit : entries.length < limit) :
    Outcome fs (seen ++ entries.map Entry.said) rest
      (readMembers first (.met fs seen)
        (gap.chars ++ (membersChars first (entries.map Entry.member) ++ '\x7d' :: rest))
        limit) := by
  -- the slots hold what was said by the members before, and each member adds what it says
  induction entries generalizing seen first gap limit with
  | nil =>
    cases limit with
    | zero => exact absurd hlimit (Nat.not_lt_zero _)
    | succ limit =>
      simp only [List.map_nil, membersChars, List.nil_append, readMembers, nextKey_brace, bind,
        Except.bind, List.append_nil]
      exact .met hseen
  | cons e entries ih =>
    cases limit with
    | zero => exact absurd hlimit (Nat.not_lt_zero _)
    | succ limit =>
      have hends := Ends.blanks e.member.value.after
        (Ends.members (entries.map Entry.member) rest)
      have hstep := Slots.readMember_said hfs hseen e hends
      have hsaid : seen ++ (e :: entries).map Entry.said =
          seen ++ [e.said] ++ entries.map Entry.said := by simp
      simp only [List.map_cons, readMembers, nextKey_member, readText_entry, bind, Except.bind]
      generalize (Slots.met fs seen).readMember e.key _ = r at hstep ⊢
      cases r with
      | error failure => exact hsaid ▸ hstep.error_append _ rest
      | ok next =>
        cases hstep with
        | met hsuits => exact hsaid ▸ ih hsuits false _ (Nat.lt_of_succ_lt_succ hlimit)

end FileTransfer.Json
