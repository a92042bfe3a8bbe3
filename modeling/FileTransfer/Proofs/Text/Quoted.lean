import FileTransfer.Proofs.Text.Numeral
import FileTransfer.Text.Outline

/-! What stands between quotes can be shown.

Texts and byte strings come out of their quotes without a hidden character, whatever they hold
(`Quoted.legible_text`, `Quoted.legible_bytes`), and so does an outline on one line, if what it
writes without quotes can be shown (`Outline.legible_line`). Every character that steers a display
is hidden (`Steers.hidden`), so none of them is left. -/
namespace FileTransfer.Text
open RangeTable

/-- Characters that steer a display instead of being shown: the controls, which are those of the
category Cc, and the separators of lines and of paragraphs. Every line break is among them. -/
def Steers (c : Char) : Prop :=
  c.toNat < 0x20 ∨ (0x7F ≤ c.toNat ∧ c.toNat < 0xA0) ∨ c = '\u2028' ∨ c = '\u2029'

/-- Characters all of which can be shown as they are. -/
def Legible (cs : List Char) : Prop :=
  ∀ c ∈ cs, Quoted.hidden c = false

instance (cs : List Char) : Decidable (Legible cs) :=
  List.decidableBAll (fun c => Quoted.hidden c = false) cs

variable {c : Char} {cs ds : List Char}

/-! ### Hidden characters -/

theorem contains_unprintable (h : c.toNat < 0xA1) :
    unprintable.contains c = true ↔ c.toNat < 0x20 ∨ 0x7F ≤ c.toNat := by
  have hflips : unprintable.flips = 0x0 :: 0x20 :: 0x7F :: 0xA1 :: unprintable.flips.drop 4 := rfl
  rw [contains, hflips, flipsTo_of_le _ _ (Nat.zero_le _)]
  by_cases hlow : c.toNat < 0x20
  · simp [flipsTo_of_lt _ _ hlow, hlow]
  rw [flipsTo_of_le _ _ (Nat.le_of_not_lt hlow)]
  by_cases hmiddle : c.toNat < 0x7F
  · simp [flipsTo_of_lt _ _ hmiddle, hlow, hmiddle]
  · rw [flipsTo_of_le _ _ (Nat.le_of_not_lt hmiddle), flipsTo_of_lt _ _ h]
    simp [Nat.le_of_not_lt hmiddle]

/-- Up to the unbroken space, only the controls and this space are hidden. -/
theorem hidden_iff_of_lt (h : c.toNat < 0xA1) :
    Quoted.hidden c = true ↔ c.toNat < 0x20 ∨ 0x7F ≤ c.toNat := by
  have hignorable : defaultIgnorable.contains c = false := flipsTo_of_lt _ _ (by omega)
  have hextend : graphemeExtend.contains c = false := flipsTo_of_lt _ _ (by omega)
  simp [Quoted.hidden, hignorable, hextend, contains_unprintable h]

theorem Steers.hidden (h : Steers c) : Quoted.hidden c = true := by
  obtain hlow | ⟨hlow, hhigh⟩ | rfl | rfl := h
  · exact (hidden_iff_of_lt (by omega)).mpr (.inl hlow)
  · exact (hidden_iff_of_lt (by omega)).mpr (.inr hlow)
  · decide +kernel
  · decide +kernel

theorem Legible.not_steers (h : Legible cs) (hc : c ∈ cs) : ¬ Steers c := fun hsteers =>
  Bool.noConfusion ((h c hc).symm.trans hsteers.hidden)

@[simp] theorem legible_nil : Legible [] := by
  simp [Legible]

@[simp] theorem legible_cons : Legible (c :: cs) ↔ Quoted.hidden c = false ∧ Legible cs :=
  List.forall_mem_cons

@[simp] theorem legible_append : Legible (cs ++ ds) ↔ Legible cs ∧ Legible ds :=
  List.forall_mem_append

theorem legible_flatMap {α : Type} {f : α → List Char} (h : ∀ a, Legible (f a)) (as : List α) :
    Legible (as.flatMap f) := by
  intro c hc
  obtain ⟨a, -, ha⟩ := List.mem_flatMap.mp hc
  exact h a c ha

/-! ### Numerals -/

theorem hidden_digitChar {d : Nat} (h : d < 16) : Quoted.hidden (Nat.digitChar d) = false := by
  decide +revert

theorem legible_toDigits {b : Nat} (hb : 1 < b) (hle : b ≤ 16) (n : Nat) :
    Legible (Nat.toDigits b n) := by
  intro c hc
  obtain ⟨d, hd, rfl⟩ := Numeral.exists_digitChar_of_mem hb hc
  exact hidden_digitChar (Nat.lt_of_lt_of_le hd hle)

theorem Numeral.legible_int (n : Int) : Legible (Numeral.int n).toList := by
  have hdigits := legible_toDigits (b := 10) (by decide) (by decide) n.natAbs
  unfold int
  split
  · rw [String.toList_append, legible_append]
    exact ⟨by decide, by simpa [nat] using hdigits⟩
  · simpa [nat] using hdigits

theorem Numeral.legible_hexByte (upper : Bool) (b : UInt8) : Legible (Numeral.hexByte upper b) := by
  have hdigit : ∀ n < 16, Quoted.hidden (Numeral.hexDigit upper n) = false := by
    cases upper <;> decide
  have hlt := b.toNat_lt
  simp only [hexByte, legible_cons, legible_nil, and_true]
  exact ⟨hdigit _ (by omega), hdigit _ (by omega)⟩

/-! ### Quotes -/

namespace Quoted

theorem legible_escapeChar (c : Char) : Legible (escapeChar c) := by
  have hhex := legible_toDigits (b := 16) (by decide) (by decide) c.toNat
  unfold escapeChar
  split
  case h_7 =>
    split
    · rw [legible_append, legible_append]
      exact ⟨⟨by decide, hhex⟩, by decide⟩
    · next hshown => simpa using hshown
  all_goals decide

theorem legible_escapeByte (b : UInt8) : Legible (escapeByte b) := by
  rw [escapeByte, legible_append]
  exact ⟨by decide, Numeral.legible_hexByte true b⟩

theorem legible_escapePiece : (p : Utf8.Piece) → Legible (escapePiece p)
  | .scalar c => legible_escapeChar c
  | .broken bytes => legible_flatMap legible_escapeByte bytes

theorem legible_text (s : String) : Legible (text s).toList := by
  have hinner := legible_flatMap legible_escapeChar s.toList
  have hquote : hidden '"' = false := by decide
  simpa [text, hquote] using hinner

theorem legible_bytes (bs : List UInt8) : Legible (bytes bs).toList := by
  have hinner := legible_flatMap legible_escapePiece (Utf8.pieces bs)
  have hquote : hidden '"' = false := by decide
  simpa [bytes, hquote] using hinner

end Quoted

/-! ### Outlines -/

namespace Outline

mutual

/-- What an outline writes without quotes can be shown. -/
def Showable : Outline → Prop
  | .plain s => Legible s.toList
  | .quoted _ => True
  | .quotedBytes _ => True
  | .record name fields => Legible name.toList ∧ FieldsShowable fields
  | .wrapped name inner => Legible name.toList ∧ Showable inner
  | .map entries => EntriesShowable entries

def FieldsShowable : List (String × Outline) → Prop
  | [] => True
  | (name, value) :: rest => Legible name.toList ∧ Showable value ∧ FieldsShowable rest

def EntriesShowable : List (String × Outline) → Prop
  | [] => True
  | (_, value) :: rest => Showable value ∧ EntriesShowable rest

end

mutual

theorem legible_line : (o : Outline) → o.Showable → Legible o.line.toList
  | .plain _, h => h
  | .quoted s, _ => Quoted.legible_text s
  | .quotedBytes bs, _ => Quoted.legible_bytes bs
  | .record name fields, ⟨hname, hfields⟩ => by
    simp only [line, String.toList_append, legible_append]
    exact ⟨⟨⟨hname, by decide⟩, legible_lineFields fields hfields⟩, by decide⟩
  | .wrapped name inner, ⟨hname, hinner⟩ => by
    simp only [line, String.toList_append, legible_append]
    exact ⟨⟨⟨hname, by decide⟩, legible_line inner hinner⟩, by decide⟩
  | .map entries, h => by
    simp only [line, String.toList_append, legible_append]
    exact ⟨⟨by decide, legible_lineEntries entries h⟩, by decide⟩

theorem legible_lineFields :
    (fields : List (String × Outline)) → FieldsShowable fields →
      Legible (lineFields fields).toList
  | [], _ => by decide
  | [(name, value)], ⟨hname, hvalue, _⟩ => by
    simp only [lineFields, String.toList_append, legible_append]
    exact ⟨⟨hname, by decide⟩, legible_line value hvalue⟩
  | (name, value) :: next :: rest, ⟨hname, hvalue, hrest⟩ => by
    have hnext := legible_lineFields (next :: rest) hrest
    simp only [lineFields, String.toList_append, legible_append]
    exact ⟨⟨⟨⟨hname, by decide⟩, legible_line value hvalue⟩, by decide⟩, hnext⟩

theorem legible_lineEntries :
    (entries : List (String × Outline)) → EntriesShowable entries →
      Legible (lineEntries entries).toList
  | [], _ => by decide
  | [(key, value)], ⟨hvalue, _⟩ => by
    simp only [lineEntries, String.toList_append, legible_append]
    exact ⟨⟨Quoted.legible_text key, by decide⟩, legible_line value hvalue⟩
  | (key, value) :: next :: rest, ⟨hvalue, hrest⟩ => by
    have hnext := legible_lineEntries (next :: rest) hrest
    simp only [lineEntries, String.toList_append, legible_append]
    exact ⟨⟨⟨⟨Quoted.legible_text key, by decide⟩, legible_line value hvalue⟩, by decide⟩, hnext⟩

end

end Outline

end FileTransfer.Text
