import FileTransfer.Proofs.Text.Numeral
import FileTransfer.Text.Outline

/-! Diagnostics tell apart what they show.

Between quotes each character is written so that it can be read again and told from what follows it
(`Quoted.unescape?_escapeChar`), and only the quote that closes a text is not escaped. So a text is
told from what follows it (`Quoted.text_append_inj`), and so is a number. From this the same follows
for outlines of one layout, which differ at most in their numbers and their texts (`Outline.Alike`):
on one line or over several, they are written alike just if they are equal
(`Outline.Alike.line_inj`, `Outline.Alike.pretty_inj`). -/
namespace FileTransfer.Text

variable {rest rest' : List Char}

/-! ### Texts between quotes -/

namespace Quoted

/-- The number of a text of hexadecimal digits. -/
def hexNumber (digits : List Char) : Nat :=
  digits.foldl (fun n c => 16 * n + (Numeral.hexValue? c).getD 0) 0

theorem hexNumber_hex (n : Nat) : hexNumber (Numeral.hex n) = n := by
  have hdigit : ∀ d < 16, Numeral.hexValue? (Nat.digitChar d) = some d := by decide
  induction n using Nat.strongRecOn with
  | ind n ih =>
    rw [Numeral.hex, Nat.toDigits_eq_if (by decide)]
    split
    · next hn => simp [hexNumber, hdigit n hn]
    · next hn =>
      have hbefore := ih (n / 16) (by omega)
      rw [hexNumber, Numeral.hex] at hbefore
      rw [hexNumber, List.foldl_append, hbefore]
      simp only [List.foldl_cons, List.foldl_nil, hdigit (n % 16) (by omega), Option.getD_some]
      omega

/-- Reads what follows a backslash: a letter, or a number between braces. -/
def unescapeMark? : List Char → Option (Char × List Char)
  | '0' :: rest => some ('\x00', rest)
  | 't' :: rest => some ('\t', rest)
  | 'n' :: rest => some ('\n', rest)
  | 'r' :: rest => some ('\r', rest)
  | '"' :: rest => some ('"', rest)
  | '\\' :: rest => some ('\\', rest)
  | 'u' :: '\x7b' :: rest =>
    some (Char.ofNat (hexNumber (rest.takeWhile (· != '\x7d'))),
      (rest.dropWhile (· != '\x7d')).drop 1)
  | _ => none

/-- Reads a character as it stands between quotes. A quote that is not escaped is none. -/
def unescape? : List Char → Option (Char × List Char)
  | [] => none
  | c :: rest =>
    if c = '"' then none
    else if c = '\\' then unescapeMark? rest
    else some (c, rest)

/-- A number is read up to its brace. -/
theorem unescape?_number (n : Nat) (rest : List Char) :
    unescape? (['\\', 'u', '\x7b'] ++ Numeral.hex n ++ ['\x7d'] ++ rest) =
      some (Char.ofNat n, rest) := by
  have hbrace : ∀ c ∈ Numeral.hex n, (c != '\x7d') = true := by
    have hdigit : ∀ d < 16, (Nat.digitChar d != '\x7d') = true := by decide
    intro c hc
    obtain ⟨d, hd, rfl⟩ := Numeral.exists_digitChar_of_mem (by decide) hc
    exact hdigit d hd
  have hmark : unescape? (['\\', 'u', '\x7b'] ++ Numeral.hex n ++ ['\x7d'] ++ rest) =
      unescapeMark? ('u' :: '\x7b' :: (Numeral.hex n ++ '\x7d' :: rest)) := by
    simp [unescape?]
  rw [hmark, unescapeMark?, List.takeWhile_append_of_pos hbrace,
    List.dropWhile_append_of_pos hbrace]
  simp [hexNumber_hex]

/-- Every character is read back as it is written, whatever follows it. -/
theorem unescape?_escapeChar (c : Char) (rest : List Char) :
    unescape? (escapeChar c ++ rest) = some (c, rest) := by
  unfold escapeChar
  split
  case h_7 hquote hslash =>
    split
    · rw [unescape?_number, Char.ofNat_toNat]
    · rw [List.cons_append, unescape?, if_neg hquote, if_neg hslash]
      rfl
  all_goals rfl

theorem escaped_append_inj {cs ds : List Char}
    (h : cs.flatMap escapeChar ++ '"' :: rest = ds.flatMap escapeChar ++ '"' :: rest') :
    cs = ds ∧ rest = rest' := by
  -- one character is read off both texts at a time, until neither has one before its quote
  have hquote (s : List Char) : unescape? ('"' :: s) = none := rfl
  induction cs generalizing ds with
  | nil =>
    cases ds with
    | nil => exact ⟨rfl, (List.cons.inj h).2⟩
    | cons d ds =>
      have hread := congrArg unescape? h
      simp [hquote, unescape?_escapeChar] at hread
  | cons c cs ih =>
    have hread := congrArg unescape? h
    cases ds with
    | nil => simp [hquote, unescape?_escapeChar] at hread
    | cons d ds =>
      simp only [List.flatMap_cons, List.append_assoc, unescape?_escapeChar, Option.some.injEq,
        Prod.mk.injEq] at hread
      obtain ⟨rfl, hafter⟩ := hread
      obtain ⟨rfl, hrest⟩ := ih hafter
      exact ⟨rfl, hrest⟩

/-- A text between quotes is told from what follows it. -/
theorem text_append_inj {s t : String} (h : (text s).toList ++ rest = (text t).toList ++ rest') :
    s = t ∧ rest = rest' := by
  simp only [text, String.toList_ofList, List.cons_append, List.append_assoc, List.nil_append,
    List.cons.injEq, true_and] at h
  obtain ⟨hinner, hrest⟩ := escaped_append_inj h
  exact ⟨String.toList_inj.mp hinner, hrest⟩

end Quoted

/-! ### Outlines -/

namespace Outline

mutual

/-- Outlines of one layout: they differ at most in their numbers and in what stands between their
quotes. -/
inductive Alike : Outline → Outline → Prop where
  | refl (o : Outline) : Alike o o
  | number (m n : Int) : Alike (.number m) (.number n)
  | quoted (s t : String) : Alike (.quoted s) (.quoted t)
  | record {fields fields' : List (String × Outline)} (name : String) :
    FieldsAlike fields fields' → Alike (.record name fields) (.record name fields')
  | wrapped {inner inner' : Outline} (name : String) :
    Alike inner inner' → Alike (.wrapped name inner) (.wrapped name inner')

/-- Fields of the same names whose values are of one layout. -/
inductive FieldsAlike : List (String × Outline) → List (String × Outline) → Prop where
  | nil : FieldsAlike [] []
  | cons {value value' : Outline} {fields fields' : List (String × Outline)} (name : String) :
    Alike value value' → FieldsAlike fields fields' →
      FieldsAlike ((name, value) :: fields) ((name, value') :: fields')

end

open Numeral (Ends ends_append)

/-- What is written for two things tells them apart, and each of them from what follows it. -/
structure Told {α : Type} (write : α → String) (a b : α) : Prop where
  cancel : ∀ rest rest', Ends rest → Ends rest' →
    (write a).toList ++ rest = (write b).toList ++ rest' → a = b ∧ rest = rest'

variable {o p : Outline} {fields fields' : List (String × Outline)}

namespace Told

theorem inj {α : Type} {write : α → String} {a b : α} (h : Told write a b) :
    write a = write b ↔ a = b := by
  refine ⟨fun heq => ?_, fun heq => heq ▸ rfl⟩
  exact (h.cancel [] [] nofun nofun (by rw [heq])).1

theorem refl {α : Type} (write : α → String) (a : α) : Told write a a where
  cancel _ _ _ _ heq := ⟨rfl, List.append_cancel_left heq⟩

theorem number {write : Outline → String} (hwrite : ∀ s, write (.plain s) = s) (m n : Int) :
    Told write (.number m) (.number n) where
  cancel _ _ hrest hrest' heq := by
    rw [Outline.number, Outline.number, hwrite, hwrite] at heq
    obtain ⟨rfl, hend⟩ := Numeral.int_append_inj hrest hrest' heq
    exact ⟨rfl, hend⟩

theorem quoted {write : Outline → String} (hwrite : ∀ s, write (.quoted s) = Quoted.text s)
    (s t : String) : Told write (.quoted s) (.quoted t) where
  cancel _ _ _ _ heq := by
    rw [hwrite, hwrite] at heq
    obtain ⟨rfl, hend⟩ := Quoted.text_append_inj heq
    exact ⟨rfl, hend⟩

end Told

/-! ### One line -/

/-- The fields after the first one on one line. -/
def lineMore : List (String × Outline) → String
  | [] => ""
  | field :: fields => ", " ++ lineFields (field :: fields)

theorem lineFields_cons (name : String) (value : Outline) (fields : List (String × Outline)) :
    lineFields ((name, value) :: fields) = name ++ ": " ++ line value ++ lineMore fields := by
  cases fields with
  | nil => simp [lineFields, lineMore]
  | cons field fields => simp [lineFields, lineMore, String.append_assoc]

theorem ends_lineMore (fields : List (String × Outline)) {rest : List Char} (h : Ends rest) :
    Ends ((lineMore fields).toList ++ rest) := by
  cases fields with
  | nil => exact h
  | cons field fields =>
    rw [lineMore, String.toList_append, List.append_assoc]
    exact ends_append (by decide)

namespace Told

theorem lineMore (h : Told lineFields fields fields') (halike : FieldsAlike fields fields') :
    Told lineMore fields fields' where
  cancel rest rest' hrest hrest' heq := by
    cases halike with
    | nil => exact ⟨rfl, heq⟩
    | cons name hvalue hfields =>
      simp only [Outline.lineMore, String.toList_append, List.append_assoc,
        List.append_cancel_left_eq] at heq
      exact h.cancel rest rest' hrest hrest' heq

theorem lineFields_cons (name : String) (hvalue : Told line o p)
    (hfields : Told Outline.lineMore fields fields') :
    Told lineFields ((name, o) :: fields) ((name, p) :: fields') where
  cancel rest rest' hrest hrest' heq := by
    simp only [Outline.lineFields_cons, String.toList_append, List.append_assoc,
      List.append_cancel_left_eq] at heq
    obtain ⟨rfl, hafter⟩ := hvalue.cancel _ _ (ends_lineMore _ hrest) (ends_lineMore _ hrest') heq
    obtain ⟨rfl, hend⟩ := hfields.cancel _ _ hrest hrest' hafter
    exact ⟨rfl, hend⟩

theorem line_record (name : String) (h : Told lineFields fields fields') :
    Told line (.record name fields) (.record name fields') where
  cancel rest rest' _ _ heq := by
    simp only [line, String.toList_append, List.append_assoc, List.append_cancel_left_eq] at heq
    obtain ⟨rfl, hend⟩ := h.cancel _ _ (ends_append (by decide)) (ends_append (by decide)) heq
    exact ⟨rfl, List.append_cancel_left hend⟩

theorem line_wrapped (name : String) (h : Told line o p) :
    Told line (.wrapped name o) (.wrapped name p) where
  cancel rest rest' _ _ heq := by
    simp only [line, String.toList_append, List.append_assoc, List.append_cancel_left_eq] at heq
    obtain ⟨rfl, hend⟩ := h.cancel _ _ (ends_append (by decide)) (ends_append (by decide)) heq
    exact ⟨rfl, List.append_cancel_left hend⟩

end Told

mutual

theorem Alike.told_line : {o p : Outline} → Alike o p → Told line o p
  | _, _, .refl o => .refl line o
  | _, _, .number m n => .number (fun _ => rfl) m n
  | _, _, .quoted s t => .quoted (fun _ => rfl) s t
  | _, _, .record name h => h.told_lineFields.line_record name
  | _, _, .wrapped name h => h.told_line.line_wrapped name

theorem FieldsAlike.told_lineFields : {fields fields' : List (String × Outline)} →
    FieldsAlike fields fields' → Told lineFields fields fields'
  | _, _, .nil => .refl lineFields []
  | _, _, .cons name hvalue h =>
    .lineFields_cons name hvalue.told_line (h.told_lineFields.lineMore h)

end

theorem Alike.line_inj (h : Alike o p) : o.line = p.line ↔ o = p :=
  h.told_line.inj

/-! ### Several lines -/

theorem ends_margin (depth : Nat) {rest : List Char} (h : Ends rest) :
    Ends ((margin depth).toList ++ rest) := by
  rw [margin, String.toList_ofList]
  cases indentStep * depth with
  | zero => exact h
  | succ n => exact ends_append rfl

namespace Told
variable {depth : Nat}

theorem blockFields_cons (name : String) (hvalue : Told (block depth) o p)
    (hfields : Told (blockFields depth) fields fields') :
    Told (blockFields depth) ((name, o) :: fields) ((name, p) :: fields') where
  cancel rest rest' hrest hrest' heq := by
    simp only [blockFields, String.toList_append, List.append_assoc,
      List.append_cancel_left_eq] at heq
    obtain ⟨rfl, hafter⟩ :=
      hvalue.cancel _ _ (ends_append (by decide)) (ends_append (by decide)) heq
    obtain ⟨rfl, hend⟩ := hfields.cancel _ _ hrest hrest' (List.append_cancel_left hafter)
    exact ⟨rfl, hend⟩

theorem block_record (name : String) (h : Told (blockFields (depth + 1)) fields fields') :
    Told (block depth) (.record name fields) (.record name fields') where
  cancel rest rest' _ _ heq := by
    simp only [block, String.toList_append, List.append_assoc, List.append_cancel_left_eq] at heq
    obtain ⟨rfl, hend⟩ := h.cancel _ _ (ends_margin depth (ends_append (by decide)))
      (ends_margin depth (ends_append (by decide))) heq
    simp only [List.append_cancel_left_eq] at hend
    exact ⟨rfl, hend⟩

theorem block_wrapped (name : String) (h : Told (block (depth + 1)) o p) :
    Told (block depth) (.wrapped name o) (.wrapped name p) where
  cancel rest rest' _ _ heq := by
    simp only [block, String.toList_append, List.append_assoc, List.append_cancel_left_eq] at heq
    obtain ⟨rfl, hend⟩ := h.cancel _ _ (ends_append (by decide)) (ends_append (by decide)) heq
    simp only [List.append_cancel_left_eq] at hend
    exact ⟨rfl, hend⟩

end Told

mutual

theorem Alike.told_block : {o p : Outline} → Alike o p → (depth : Nat) → Told (block depth) o p
  | _, _, .refl o, depth => .refl (block depth) o
  | _, _, .number m n, _ => .number (fun _ => rfl) m n
  | _, _, .quoted s t, _ => .quoted (fun _ => rfl) s t
  | _, _, .record name h, depth => (h.told_blockFields (depth + 1)).block_record name
  | _, _, .wrapped name h, depth => (h.told_block (depth + 1)).block_wrapped name

theorem FieldsAlike.told_blockFields : {fields fields' : List (String × Outline)} →
    FieldsAlike fields fields' → (depth : Nat) → Told (blockFields depth) fields fields'
  | _, _, .nil, depth => .refl (blockFields depth) []
  | _, _, .cons name hvalue h, depth =>
    .blockFields_cons name (hvalue.told_block depth) (h.told_blockFields depth)

end

theorem Alike.pretty_inj (h : Alike o p) : o.pretty = p.pretty ↔ o = p :=
  (h.told_block 0).inj

end Outline

end FileTransfer.Text
