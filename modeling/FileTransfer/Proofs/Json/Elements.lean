import FileTransfer.Proofs.Json.Field

/-! Reading a record from a list of the values of its fields.

A list is read as a record just if it has an element for each field and each field takes its element
(`Row.ofValues?`, `readList_elements`), whatever blanks stand between them. -/
namespace FileTransfer.Json

/-- The record whose fields take these values, one for each. -/
def Row.ofValues? : (fs : Fields) → List Spelled → Option (Row fs)
  | [], [] => some ()
  | f :: fs, v :: values =>
    (f.2.value? v).bind fun x => (ofValues? fs values).map fun row => (x, row)
  | _, _ => none

/-- Reads fields as elements of a list, and the end of the list. -/
def readList (expected : String) (met : Nat) (fs : Fields) (s : List Char) :
    Reading (Row fs × List Char) := do
  let (row, rest) ← readElements expected met fs s
  return (row, ← readListEnd rest)

variable {rest : List Char}

/-- A value is found behind the blanks before it, and does not look like the end of a list. -/
theorem exists_skipBlanks_eq_cons (before : Blanks) (v : Spelled) (s : List Char) :
    ∃ c t, c ≠ ']' ∧ v.chars ++ s = c :: t ∧
      skipBlanks (before.chars ++ (v.chars ++ s)) = c :: t := by
  obtain ⟨c, t, hv, hblank, hbracket⟩ := v.exists_chars_eq_cons
  have hchars : v.chars ++ s = c :: (t ++ s) := by rw [hv, List.cons_append]
  refine ⟨c, t ++ s, hbracket, hchars, ?_⟩
  rw [skipBlanks_blanks, hchars, skipBlanks_cons hblank]

/-- The next element starts where its value does. -/
theorem nextElement_element (first : Bool) (gap : Blanks) (p : Padded Spelled)
    (elements : List (Padded Spelled)) (s : List Char) :
    nextElement first (gap.chars ++ (elementsChars first (p :: elements) ++ s)) =
      .ok (some (p.value.chars ++ (p.after.chars ++ (elementsChars false elements ++ s)))) := by
  obtain ⟨before, v, after⟩ := p
  obtain ⟨c, t, hbracket, hchars, hskip⟩ :=
    exists_skipBlanks_eq_cons before v (after.chars ++ (elementsChars false elements ++ s))
  rw [nextElement, skipBlanks_blanks]
  simp only [elementsChars, List.append_assoc, hchars] at hskip ⊢
  cases first with
  | true => simp [commaChars, hskip, hbracket]
  | false => simp [commaChars, skipBlanks_cons isBlank_comma, hskip, hbracket]

theorem nextElement_bracket (first : Bool) (gap : Blanks) (s : List Char) :
    nextElement first (gap.chars ++ ']' :: s) = .ok none := by
  rw [nextElement, skipBlanks_blanks]
  rfl

theorem readListEnd_bracket (gap : Blanks) (s : List Char) :
    readListEnd (gap.chars ++ ']' :: s) = .ok s := by
  rw [readListEnd, skipBlanks_blanks]
  rfl

/-- A list does not end where it has another element. -/
theorem readListEnd_refused (first : Bool) (gap : Blanks) (p : Padded Spelled)
    (elements : List (Padded Spelled)) (s : List Char) :
    readListEnd (gap.chars ++ (elementsChars first (p :: elements) ++ s)) = .error .malformed := by
  obtain ⟨before, v, after⟩ := p
  obtain ⟨c, t, hbracket, hchars, hskip⟩ :=
    exists_skipBlanks_eq_cons before v (after.chars ++ (elementsChars false elements ++ s))
  rw [readListEnd, skipBlanks_blanks]
  simp only [elementsChars, List.append_assoc, hchars] at hskip ⊢
  cases first with
  | true => simp [commaChars, hskip, hbracket]
  | false => simp [commaChars, skipBlanks_cons isBlank_comma]

/-- A field reads its value from the next element, and the other fields read what follows it. -/
theorem readList_cons {expected name : String} {met : Nat} {kind : Kind} {fs : Fields}
    {s t : List Char} (h : nextElement (met == 0) s = .ok (some t)) :
    readList expected met ((name, kind) :: fs) s =
      (kind.read t).bind fun x =>
        (readList expected (met + 1) fs x.2).map fun y => ((x.1, y.1), y.2) := by
  simp only [readList, readElements, h, bind, Except.bind, pure, Except.pure]
  cases kind.read t with
  | error e => rfl
  | ok x =>
    dsimp only
    cases readElements expected (met + 1) fs x.2 with
    | error e => rfl
    | ok y =>
      dsimp only
      cases readListEnd y.2 <;> rfl

/-- The elements of a list, of which some were read. -/
theorem readList_elements (expected : String) (met : Nat) (fs : Fields) (gap : Blanks)
    (elements : List (Padded Spelled)) :
    Takes rest (Row.ofValues? fs (elements.map Padded.value))
      (readList expected met fs
        (gap.chars ++ (elementsChars (met == 0) elements ++ ']' :: rest))) := by
  induction fs generalizing met gap elements with
  | nil =>
    cases elements with
    | nil =>
      show Takes rest (some ()) ((readListEnd (gap.chars ++ ']' :: rest)).map fun s => ((), s))
      rw [readListEnd_bracket]
      exact .taken ()
    | cons p elements =>
      show Takes rest none ((readListEnd _).map fun s => ((), s))
      rw [readListEnd_refused]
      exact .refused _
  | cons f fs ih =>
    obtain ⟨name, kind⟩ := f
    cases elements with
    | nil =>
      simp only [readList, readElements, elementsChars, List.nil_append, nextElement_bracket, bind,
        Except.bind]
      exact .refused _
    | cons p elements =>
      have hends := Ends.blanks p.after (Ends.elements elements rest)
      have hread := kind.read_chars p.value hends
      have hrest := ih (met + 1) p.after elements
      rw [readList_cons (nextElement_element ..), List.map_cons, Row.ofValues?]
      generalize kind.value? p.value = x? at hread ⊢
      generalize kind.read _ = r at hread ⊢
      cases hread with
      | taken x => exact hrest.map fun row => (x, row)
      | refused e => exact .refused e

end FileTransfer.Json
