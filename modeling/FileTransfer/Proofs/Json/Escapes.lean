import FileTransfer.Proofs.Json.Skip

/-! String literals read strictly.

Where the parts of a literal denote characters the literal is read as these, and otherwise it is
refused (`readText_literalChars`). The machine is between two characters again after each part but
the first half of a surrogate pair, which is read together with the part that follows it
(`Literal.read_lead`, `Literal.read_pair`); so the proof goes along the recursion of `characters?`.
-/
namespace FileTransfer.Json

theorem literalChars_cons (p : Piece) (pieces : List Piece) (rest : List Char) :
    literalChars (p :: pieces) ++ rest = p.chars ++ (literalChars pieces ++ rest) := by
  simp [literalChars]

namespace Literal

variable {rest : List Char}

/-- A character that does not close the literal: a step of the machine, then what is left. -/
theorem read_open {state : Literal} {c : Char} (hopen : ¬(state = .plain ∧ c = '"'))
    (rest : List Char) :
    read true state (c :: rest) = (step true c rest state).bind fun r =>
      (read true r.2 rest).map fun t => (r.1 ++ t.1, t.2) := by
  rw [read, if_neg hopen]
  cases step true c rest state with
  | error e => rfl
  | ok r =>
    dsimp only [Except.bind]
    cases read true r.2 rest <;> rfl

/-- A step of the machine on a character that does not close the literal. -/
theorem read_cons {state next : Literal} {c : Char} {out rest : List Char}
    (hopen : ¬(state = .plain ∧ c = '"')) (hstep : step true c rest state = .ok (out, next)) :
    read true state (c :: rest) = (read true next rest).map fun r => (out ++ r.1, r.2) := by
  rw [read_open hopen, hstep]
  rfl

/-- A step that adds nothing to the text. -/
theorem read_silent {state next : Literal} {c : Char} {rest : List Char}
    (hopen : ¬(state = .plain ∧ c = '"')) (hstep : step true c rest state = .ok ([], next)) :
    read true state (c :: rest) = read true next rest := by
  rw [read_cons hopen hstep]
  cases read true next rest <;> rfl

/-- An escape of one letter. -/
theorem read_letter {letter c : Char} (h : ofLetter? letter = some c) (hu : letter ≠ 'u')
    (rest : List Char) :
    read true .plain ('\\' :: letter :: rest) =
      (read true .plain rest).map fun r => (c :: r.1, r.2) := by
  have hslash : step true '\\' (letter :: rest) .plain = .ok ([], .escape) := rfl
  have hletter : step true letter rest .escape = .ok ([c], .plain) := by
    simp [step, hu, h]
  rw [read_silent (by decide) hslash, read_cons (by simp) hletter]
  rfl

/-- Four digits are read as one unit. -/
theorem read_codeUnit (lead : Option Nat) (u : CodeUnit) (rest : List Char) :
    read true (.digits lead 0 0)
        (u.first.char :: u.second.char :: u.third.char :: u.fourth.char :: rest) =
      (unit true lead u.value).bind fun r =>
        (read true r.2 rest).map fun t => (r.1 ++ t.1, t.2) := by
  have hdigit (d : HexDigit) (seen value : Nat) (s : List Char) (hseen : seen < 3) :
      read true (.digits lead seen value) (d.char :: s) =
        read true (.digits lead (seen + 1) (value * 16 + d.value)) s :=
    read_silent (by simp) (by simp [step, d.hasValue, hseen])
  have hlast (value : Nat) : step true u.fourth.char rest (.digits lead 3 value) =
      unit true lead (value * 16 + u.fourth.value) := by
    simp [step, u.fourth.hasValue]
  rw [hdigit _ _ _ _ (by decide), hdigit _ _ _ _ (by decide), hdigit _ _ _ _ (by decide),
    read_open (by simp), hlast]
  simp only [CodeUnit.value, Nat.zero_mul, Nat.zero_add]

theorem read_unit_chars (u : CodeUnit) (s : List Char) :
    read true .plain ((Piece.unit u).chars ++ s) =
      (unit true none u.value).bind fun r =>
        (read true r.2 s).map fun t => (r.1 ++ t.1, t.2) := by
  rw [← read_codeUnit]
  exact (read_silent (by decide) rfl).trans (read_silent (by decide) rfl)

/-- The first half of a surrogate pair waits for the second. -/
theorem read_lead {u : CodeUnit} (htrail : isTrail u.value = false) (hlead : isLead u.value = true)
    (s : List Char) :
    read true .plain ((Piece.unit u).chars ++ s) = read true (.pairSlash u.value) s := by
  have hunit : unit true none u.value = .ok ([], .pairSlash u.value) := by
    simp [unit, htrail, hlead]
  rw [read_unit_chars, hunit]
  show (read true (.pairSlash u.value) s).map _ = _
  cases read true (.pairSlash u.value) s <;> rfl

theorem read_pairSlash (lead : Nat) (s : List Char) :
    read true (.pairSlash lead) ('\\' :: s) = read true (.pairMark lead) s :=
  read_silent (by simp) rfl

theorem read_pair (lead : Nat) (u : CodeUnit) (s : List Char) :
    read true (.pairSlash lead) ((Piece.unit u).chars ++ s) =
      if isTrail u.value then (read true .plain s).map fun t => (pairChar lead u.value :: t.1, t.2)
      else .error .malformed := by
  have hopen : read true (.pairSlash lead) ((Piece.unit u).chars ++ s) =
      (unit true (some lead) u.value).bind fun r =>
        (read true r.2 s).map fun t => (r.1 ++ t.1, t.2) := by
    rw [← read_codeUnit]
    exact (read_pairSlash lead _).trans (read_silent (by simp) rfl)
  rw [hopen]
  cases htrail : isTrail u.value <;> simp [unit, htrail, Except.bind, pairChar]

/-- Nothing but an escape of four digits can follow the first half of a surrogate pair. -/
theorem read_pairSlash_refused {pieces : List Piece}
    (h : ∀ u more, pieces = .unit u :: more → False) (lead : Nat) (rest : List Char) :
    ∃ e, read true (.pairSlash lead) (literalChars pieces ++ rest) = .error e := by
  refine ⟨.malformed, ?_⟩
  cases pieces with
  | nil => rfl
  | cons p pieces =>
    rw [literalChars_cons]
    cases p with
    | plain c hquote hslash hcontrol =>
      show read true (.pairSlash lead) (c :: _) = _
      rw [read_open (by simp)]
      simp [step, hslash, Except.bind]
    | letter l c known =>
      obtain ⟨-, hu⟩ := Expect.ofLetter?_of_mem known
      show read true (.pairSlash lead) ('\\' :: l :: _) = _
      rw [read_pairSlash, read_open (by simp)]
      simp [step, hu, Except.bind]
    | unit u => exact absurd rfl (h u pieces)

/-- A string literal is read as the characters its parts denote, if they do. -/
theorem read_literalChars (pieces : List Piece) (rest : List Char) :
    Takes rest (characters? pieces) (read true .plain (literalChars pieces ++ rest)) := by
  fun_induction characters? pieces with
  | case1 => exact .taken []
  | case2 c hquote hslash hcontrol pieces ih =>
    have hstep (s : List Char) : step true c s .plain = .ok ([c], .plain) := by
      simp [step, hslash, Nat.not_lt.mpr hcontrol]
    rw [literalChars_cons, Piece.chars, List.singleton_append,
      read_cons (fun h => hquote h.2) (hstep _)]
    exact ih.map _
  | case3 l c known pieces ih =>
    obtain ⟨hletter, hu⟩ := Expect.ofLetter?_of_mem known
    have hread := read_letter hletter hu (literalChars pieces ++ rest)
    rw [literalChars_cons]
    exact hread ▸ ih.map _
  | case4 u pieces htrail =>
    have hunit : unit true none u.value = .error .malformed := by simp [unit, htrail]
    rw [literalChars_cons, read_unit_chars, hunit]
    exact .refused _
  | case5 u htrail hlead v pieces hpair ih =>
    rw [literalChars_cons, literalChars_cons, read_lead (by simpa using htrail) hlead, read_pair,
      if_pos hpair]
    exact ih.map _
  | case6 u htrail hlead v pieces hpair =>
    rw [literalChars_cons, literalChars_cons, read_lead (by simpa using htrail) hlead, read_pair,
      if_neg hpair]
    exact .refused _
  | case7 u pieces htrail hlead hnone =>
    obtain ⟨e, he⟩ := read_pairSlash_refused hnone u.value rest
    rw [literalChars_cons, read_lead (by simpa using htrail) hlead, he]
    exact .refused e
  | case8 u pieces htrail hlead ih =>
    have hunit : unit true none u.value = .ok ([Char.ofNat u.value], .plain) := by
      simp [unit, htrail, hlead]
    rw [literalChars_cons, read_unit_chars, hunit]
    exact ih.map _

end Literal

/-- A text is read after its opening quote if all of it denotes characters. -/
theorem readText_literalChars (pieces : List Piece) (rest : List Char) :
    Takes rest ((characters? pieces).map String.ofList)
      (readText (literalChars pieces ++ rest)) := by
  have hread := Literal.read_literalChars pieces rest
  rw [readText]
  generalize characters? pieces = cs? at hread ⊢
  generalize Literal.read true .plain (literalChars pieces ++ rest) = r at hread ⊢
  cases hread with
  | taken cs => exact .taken _
  | refused e => exact .refused e

end FileTransfer.Json
