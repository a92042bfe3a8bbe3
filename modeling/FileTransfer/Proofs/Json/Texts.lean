import FileTransfer.Proofs.Json.Elements
import FileTransfer.Proofs.Json.Members
import Mathlib.Data.List.Forall2

/-! Whole texts of objects and lists, read as records.

What the text of an object comes to depends on what it says under the names of the fields alone
(`Verdict`, `Shape.readAll_object`): if each is named once, with a value of its type, the record is
made of these values. The text of a list is read as the record made of its elements
(`Shape.readAll_list`). -/
namespace FileTransfer.Json

/-! ### Texts of objects and lists -/

/-- The text of an object whose names denote texts. -/
structure ObjectText where
  before : Blanks
  gap : Blanks
  entries : List Entry
  after : Blanks

namespace ObjectText

def text (o : ObjectText) : String :=
  String.ofList
    (o.before.chars ++ ((Spelled.object o.gap (o.entries.map Entry.member)).chars ++ o.after.chars))

def said (o : ObjectText) : List Said :=
  o.entries.map Entry.said

end ObjectText

/-- The text of a list. -/
structure ListText where
  before : Blanks
  gap : Blanks
  elements : List (Padded Spelled)
  after : Blanks

namespace ListText

def text (l : ListText) : String :=
  String.ofList (l.before.chars ++ ((Spelled.list l.gap l.elements).chars ++ l.after.chars))

def values (l : ListText) : List Spelled :=
  l.elements.map Padded.value

end ListText

/-- Values that were said under the names of the fields, in the order of the fields. -/
def ValuesOf (fs : Fields) (said : List Said) (values : List Spelled) : Prop :=
  List.Forall₂ (fun f v => (f.1, v) ∈ said) fs values

variable {fs : Fields} {said : List Said}

/-! ### Values under the names of fields -/

/-- What is said under the names of the fields decides how often each is named. -/
theorem mentions_filter {f : String × Kind} (hf : f ∈ fs) (said : List Said) :
    mentions f.1 (said.filter fun m => m.1 ∈ fs.names) = mentions f.1 said := by
  have hname : f.1 ∈ fs.names := List.mem_map_of_mem hf
  induction said with
  | nil => rfl
  | cons m said ih =>
    by_cases hm : m.1 ∈ fs.names
    · rw [List.filter_cons_of_pos (by simpa using hm), mentions_cons, mentions_cons, ih]
    · have hne : m.1 ≠ f.1 := fun h => hm (h ▸ hname)
      rw [List.filter_cons_of_neg (by simpa using hm), mentions_cons, if_neg hne, ih]
      rfl

/-- Two objects that say the same under the names of the fields. -/
theorem agree_of_perm {said other : List Said}
    (h : (said.filter fun m => m.1 ∈ fs.names).Perm (other.filter fun m => m.1 ∈ fs.names))
    {f : String × Kind} (hf : f ∈ fs) :
    mentions f.1 said = mentions f.1 other ∧ ∀ v, (f.1, v) ∈ said ↔ (f.1, v) ∈ other := by
  have hname : f.1 ∈ fs.names := List.mem_map_of_mem hf
  constructor
  · rw [← mentions_filter hf said, ← mentions_filter hf other]
    exact (h.map Prod.fst).count_eq f.1
  · intro v
    have hmem := h.mem_iff (a := (f.1, v))
    simpa [hname] using hmem

theorem ValuesOf.mono {values : List Spelled} {other : List Said}
    (hvalues : ValuesOf fs said values)
    (h : ∀ f ∈ fs, ∀ v, (f.1, v) ∈ said → (f.1, v) ∈ other) : ValuesOf fs other values := by
  induction hvalues with
  | nil => exact .nil
  | cons hv hvalues ih =>
    obtain ⟨hf, htail⟩ := List.forall_mem_cons.mp h
    exact .cons (hf _ hv) (ih htail)

theorem exists_valuesOf (h : ∀ f ∈ fs, 0 < mentions f.1 said) :
    ∃ values, ValuesOf fs said values := by
  induction fs with
  | nil => exact ⟨[], .nil⟩
  | cons f fs ih =>
    obtain ⟨hf, htail⟩ := List.forall_mem_cons.mp h
    obtain ⟨⟨name, v⟩, hmem, rfl⟩ := mentions_pos.mp hf
    obtain ⟨values, hvalues⟩ := ih htail
    exact ⟨v :: values, .cons hmem hvalues⟩

/-! ### Rows -/

/-- The slots are complete if each field was named, and otherwise one that was not is missing. -/
theorem complete_met (hsuits : ∀ f ∈ fs, Suits f said) :
    (∀ f ∈ fs, 0 < mentions f.1 said) ∧ (∃ row, (Slots.met fs said).complete = .ok row) ∨
      ∃ f ∈ fs, mentions f.1 said = 0 ∧
        (Slots.met fs said).complete = .error (.mismatch (.missing f.1)) := by
  induction fs with
  | nil => exact .inl ⟨nofun, (), rfl⟩
  | cons f fs ih =>
    obtain ⟨hf, htail⟩ := List.forall_mem_cons.mp hsuits
    rcases Nat.eq_zero_or_pos (mentions f.1 said) with hnone | hpos
    · refine .inr ⟨f, List.mem_cons_self, hnone, ?_⟩
      rw [Slots.met, slotOf_eq_none hnone, Slots.complete]
    · obtain ⟨x, hx⟩ := hf.exists_slotOf hpos
      have hcomplete : (Slots.met (f :: fs) said).complete =
          (Slots.met fs said).complete.map fun row => (x, row) := by
        rw [Slots.met, hx, Slots.complete]
        rfl
      rw [hcomplete]
      rcases ih htail with ⟨hall, row, hrow⟩ | ⟨g, hg, hnone, hmissing⟩
      · rw [hrow]
        exact .inl ⟨List.forall_mem_cons.mpr ⟨hpos, hall⟩, (x, row), rfl⟩
      · rw [hmissing]
        exact .inr ⟨g, List.mem_cons_of_mem f hg, hnone, rfl⟩

/-- A row that the slots hold is made of the values under the names of the fields. -/
theorem ofValues?_of_complete_met {values : List Spelled} (hvalues : ValuesOf fs said values)
    (hsuits : ∀ f ∈ fs, Suits f said) {row : Row fs}
    (h : (Slots.met fs said).complete = .ok row) : Row.ofValues? fs values = some row := by
  induction hvalues with
  | nil => rfl
  | @cons f v fs values hv hvalues ih =>
    obtain ⟨hf, htail⟩ := List.forall_mem_cons.mp hsuits
    rw [Slots.met, slotOf_of_mem hf.once hv] at h
    rw [Row.ofValues?]
    cases hx : f.2.value? v with
    | none => simp [hx, Slots.complete] at h
    | some x =>
      rw [hx, Slots.complete] at h
      cases hrow : (Slots.met fs said).complete with
      | error e => simp [hrow, Except.map] at h
      | ok more =>
        rw [hrow] at h
        cases h
        rw [Option.bind_some, ih htail hrow]
        rfl

/-! ### Objects and lists -/

/-- What reading an object as a record can come to. -/
inductive Verdict (fs : Fields) (said : List Said) : Reading (Row fs) → Prop where
  | complete (row : Row fs) (suits : ∀ f ∈ fs, Suits f said)
    (named : ∀ f ∈ fs, 0 < mentions f.1 said)
    (ofValues : ∀ values, ValuesOf fs said values → Row.ofValues? fs values = some row) :
    Verdict fs said (.ok row)
  | missing (f : String × Kind) (field : f ∈ fs) (unnamed : mentions f.1 said = 0) :
    Verdict fs said (.error (.mismatch (.missing f.1)))
  | twice (f : String × Kind) (field : f ∈ fs) (again : 2 ≤ mentions f.1 said) :
    Verdict fs said (.error (.mismatch (.duplicate f.1)))
  | untyped (f : String × Kind) (field : f ∈ fs) (m : Said) (mem : m ∈ said) (name : m.1 = f.1)
    (refused : f.2.value? m.2 = none) (e : Failure) : Verdict fs said (.error e)

theorem Outcome.verdict {rest : List Char} {r : Reading (Slots fs × List Char)}
    (h : Outcome fs said rest r) : Verdict fs said (r.bind fun x => x.1.complete) := by
  cases h with
  | met hsuits =>
    show Verdict fs said (Slots.met fs said).complete
    rcases complete_met hsuits with ⟨hnamed, row, hrow⟩ | ⟨f, hf, hnone, hmissing⟩
    · rw [hrow]
      exact .complete row hsuits hnamed fun values hvalues =>
        ofValues?_of_complete_met hvalues hsuits hrow
    · rw [hmissing]
      exact .missing f hf hnone
  | twice f hf hagain => exact .twice f hf hagain
  | untyped f hf m hm hname hrefused e => exact .untyped f hf m hm hname hrefused e

namespace Verdict
variable {r : Reading (Row fs)}

theorem ok_iff (h : Verdict fs said r) :
    (∃ row, r = .ok row) ↔ ∀ f ∈ fs, mentions f.1 said = 1 ∧
      ∀ m ∈ said, m.1 = f.1 → (f.2.value? m.2).isSome := by
  cases h with
  | complete row hsuits hnamed _ =>
    refine ⟨fun _ f hf => ⟨?_, (hsuits f hf).typed⟩, fun _ => ⟨row, rfl⟩⟩
    exact Nat.le_antisymm (hsuits f hf).once (hnamed f hf)
  | missing f hf hnone =>
    refine ⟨nofun, fun hall => ?_⟩
    have hone := (hall f hf).1
    omega
  | twice f hf hagain =>
    refine ⟨nofun, fun hall => ?_⟩
    have hone := (hall f hf).1
    omega
  | untyped f hf m hm hname hrefused e =>
    refine ⟨nofun, fun hall => ?_⟩
    have hsome := (hall f hf).2 m hm hname
    simp [hrefused] at hsome

theorem exists_valuesOf {row : Row fs} (h : Verdict fs said (.ok row)) :
    ∃ values, ValuesOf fs said values := by
  cases h with
  | complete row hsuits hnamed _ => exact Json.exists_valuesOf hnamed

theorem ofValues? {row : Row fs} (h : Verdict fs said (.ok row)) {values : List Spelled}
    (hvalues : ValuesOf fs said values) : Row.ofValues? fs values = some row := by
  cases h with
  | complete row hsuits hnamed hvalue => exact hvalue values hvalues

/-- Where the values of fields are of their types, only a field that is not named once is a reason
to refuse the object. -/
theorem mismatch (h : Verdict fs said r)
    (htyped : ∀ f ∈ fs, ∀ m ∈ said, m.1 = f.1 → (f.2.value? m.2).isSome)
    (hcount : ∃ f ∈ fs, mentions f.1 said ≠ 1) :
    ∃ f ∈ fs, mentions f.1 said = 0 ∧ r = .error (.mismatch (.missing f.1)) ∨
      2 ≤ mentions f.1 said ∧ r = .error (.mismatch (.duplicate f.1)) := by
  cases h with
  | complete row hsuits hnamed _ =>
    obtain ⟨f, hf, hne⟩ := hcount
    exact absurd (Nat.le_antisymm (hsuits f hf).once (hnamed f hf)) hne
  | missing f hf hnone => exact ⟨f, hf, .inl ⟨hnone, rfl⟩⟩
  | twice f hf hagain => exact ⟨f, hf, .inr ⟨hagain, rfl⟩⟩
  | untyped f hf m hm hname hrefused e =>
    have hsome := htyped f hf m hm hname
    simp [hrefused] at hsome

/-- Objects that say the same under the names of the fields are read as the same record. -/
theorem eq_of_perm {other : List Said} {row : Row fs} (h : Verdict fs said (.ok row))
    (h' : Verdict fs other r)
    (hperm : (said.filter fun m => m.1 ∈ fs.names).Perm (other.filter fun m => m.1 ∈ fs.names)) :
    r = .ok row := by
  have hfits := h.ok_iff.mp ⟨row, rfl⟩
  obtain ⟨row', rfl⟩ := h'.ok_iff.mpr fun f hf => by
    obtain ⟨hcount, hsame⟩ := agree_of_perm hperm hf
    obtain ⟨hone, htyped⟩ := hfits f hf
    refine ⟨hcount ▸ hone, ?_⟩
    rintro ⟨name, v⟩ hm rfl
    exact htyped _ ((hsame v).mpr hm) rfl
  obtain ⟨values, hvalues⟩ := h.exists_valuesOf
  have hvalues' := hvalues.mono fun f hf v => ((agree_of_perm hperm hf).2 v).mp
  have hrow : some row' = some row := by rw [← h'.ofValues? hvalues', h.ofValues? hvalues]
  rw [Option.some.inj hrow]

end Verdict

/-- What follows the object is left when its fields are put together. -/
theorem Outcome.complete_eq {rest : List Char} {r : Reading (Slots fs × List Char)}
    (h : Outcome fs said rest r) :
    (r.bind fun x => x.1.complete.map fun row => (row, x.2)) =
      (r.bind fun x => x.1.complete).map fun row => (row, rest) := by
  cases h <;> rfl

/-- Blanks at the end of a text are passed over. -/
theorem readAll_eq {α : Type} {read : List Char → Reading (α × List Char)} {text : String}
    {r : Reading α} (after : Blanks) (h : read text.toList = r.map fun a => (a, after.chars)) :
    readAll read text = r := by
  have hafter : skipBlanks after.chars = [] := by
    have hblanks := skipBlanks_blanks after []
    rwa [List.append_nil] at hblanks
  rw [readAll, h]
  cases r with
  | error e => rfl
  | ok a =>
    simp only [Except.map, bind, Except.bind, hafter]
    rfl

theorem Takes.toOption_readAll {α : Type} {read : List Char → Reading (α × List Char)}
    {text : String} {v? : Option α} (after : Blanks) (h : Takes after.chars v? (read text.toList)) :
    (readAll read text).toOption = v? := by
  generalize hread : read text.toList = r at h
  cases h with
  | taken v => exact congrArg Except.toOption (readAll_eq (r := .ok v) after hread)
  | refused e => exact congrArg Except.toOption (readAll_eq (r := .error e) after hread)

namespace Shape
variable {shape : Shape}

theorem readAll_object (hfs : shape.fields.names.Nodup) (o : ObjectText) :
    Verdict shape.fields o.said (readAll shape.read o.text) := by
  let members := membersChars true (o.entries.map Entry.member) ++ '\x7d' :: o.after.chars
  let s := o.gap.chars ++ members
  have htext : o.text.toList = o.before.chars ++ '\x7b' :: s := by
    simp [ObjectText.text, Spelled.chars, s, members]
  have hread : shape.read o.text.toList =
      (readMembers true (Slots.empty shape.fields) s (s.length + 1)).bind fun x =>
        x.1.complete.map fun row => (row, x.2) := by
    rw [htext, read, skipBlanks_blanks, skipBlanks_cons (by decide)]
    simp only [show '\x7b' ≠ '[' by decide, if_false, if_true, bind, Except.bind, pure, Except.pure]
    generalize readMembers true _ s _ = r
    cases r with
    | error e => rfl
    | ok x =>
      dsimp only
      cases x.1.complete <;> rfl
  have hlimit : o.entries.length < s.length + 1 := by
    have hle := length_le_membersChars true (o.entries.map Entry.member)
    simp only [s, members, List.length_append, List.length_map] at hle ⊢
    omega
  have hmembers := readMembers_entries hfs (fun _ _ => Suits.nil) o.entries true o.gap o.after.chars
    hlimit
  rw [Slots.met_nil] at hmembers
  rw [readAll_eq o.after (hread.trans hmembers.complete_eq)]
  exact hmembers.verdict

theorem readAll_list (shape : Shape) (l : ListText) :
    (readAll shape.read l.text).toOption = Row.ofValues? shape.fields l.values := by
  let s := l.gap.chars ++ (elementsChars true l.elements ++ ']' :: l.after.chars)
  have htext : l.text.toList = l.before.chars ++ '[' :: s := by
    simp [ListText.text, Spelled.chars, s]
  have hread : shape.read l.text.toList = readList shape.listTitle 0 shape.fields s := by
    rw [htext, read, skipBlanks_blanks, skipBlanks_cons (by decide)]
    rfl
  refine Takes.toOption_readAll l.after ?_
  rw [hread]
  exact readList_elements shape.listTitle 0 shape.fields l.gap l.elements

end Shape

end FileTransfer.Json
