import FileTransfer.Proofs.Json.Number
import FileTransfer.Proofs.Json.Spelled

/-! Passing over spelled values.

The machine that passes over a value takes all of a spelled one and nothing of what follows it
(`skipValue_spelled`): it comes to the end of the value with the lists and objects open that were
open before it, whatever these are (`skip_chars`). Since nothing is computed on the way, no number
is too large for it and no surrogate has to be one of a pair. -/
namespace FileTransfer.Json

variable {stack : List Frame} {rest : List Char}

/-! ### What follows a value -/

theorem skipBlanks_cons {c : Char} (h : isBlank c = false) (rest : List Char) :
    skipBlanks (c :: rest) = c :: rest := by
  simp [skipBlanks, h]

theorem isBlank_of_isDigit {c : Char} (h : isDigit c = true) : isBlank c = false := by
  rw [Bool.eq_false_iff]
  intro hblank
  simp only [isBlank, Bool.or_eq_true, beq_iff_eq] at hblank
  rcases hblank with ((rfl | rfl) | rfl) | rfl <;> exact absurd h (by decide)

theorem isBlank_cases {c : Char} (h : isBlank c = true) :
    c = ' ' ∨ c = '\n' ∨ c = '\t' ∨ c = '\r' := by
  simpa [isBlank, or_assoc] using h

/-- Blanks do not go on with a number. -/
theorem Ends.blanks (b : Blanks) (h : Ends rest) : Ends (b.chars ++ rest) := by
  cases hb : b.chars with
  | nil => exact h
  | cons c s =>
    have hblank := isBlank_cases (b.blank c (by rw [hb]; exact List.mem_cons_self))
    rintro d ⟨⟩
    rcases hblank with rfl | rfl | rfl | rfl <;> decide

theorem Ends.bracket (rest : List Char) : Ends (']' :: rest) := by
  rintro c ⟨⟩
  decide

theorem Ends.elements (elements : List (Padded Spelled)) (rest : List Char) :
    Ends (elementsChars false elements ++ ']' :: rest) := by
  cases elements with
  | nil => exact .bracket rest
  | cons p elements => exact .comma _

theorem Ends.members (members : List (Member Spelled)) (rest : List Char) :
    Ends (membersChars false members ++ '\x7d' :: rest) := by
  cases members with
  | nil => exact .brace rest
  | cons m members => exact .comma _

namespace Expect

/-- Goes on after a value: with what comes next in the innermost frame, if there is one. -/
def resume : List Frame → List Char → Reading (List Char)
  | [], rest => .ok rest
  | f :: stack, rest => skip .comma (f :: stack) rest

/-! ### Single steps -/

theorem skip_more {e next : Expect} {stack' : List Frame} {c : Char}
    (h : step e stack c rest = .ok (.more next stack')) :
    skip e stack (c :: rest) = skip next stack' rest := by
  rw [skip, h]

theorem skip_after {e : Expect} {stack' : List Frame} {c : Char}
    (h : step e stack c rest = .ok (after stack')) :
    skip e stack (c :: rest) = resume stack' rest := by
  rw [skip, h]
  cases stack' <;> rfl

/-- Where blanks make no difference they are passed over. -/
theorem skip_blanks {e : Expect}
    (h : ∀ c rest, isBlank c = true → step e stack c rest = .ok (.more e stack)) (b : Blanks) :
    skip e stack (b.chars ++ rest) = skip e stack rest := by
  obtain ⟨chars, hblank⟩ := b
  induction chars with
  | nil => rfl
  | cons c chars ih =>
    rw [List.cons_append, skip_more (h c _ (hblank c List.mem_cons_self))]
    exact ih fun d hd => hblank d (List.mem_cons_of_mem c hd)

/-- Blanks before a value, a key or a colon are passed over. -/
theorem skip_before {e : Expect} (he : e ∈ [value, element, member, key, colon]) (b : Blanks) :
    skip e stack (b.chars ++ rest) = skip e stack rest := by
  refine skip_blanks (fun c rest h => ?_) b
  simp only [List.mem_cons, List.not_mem_nil, or_false] at he
  rcases he with rfl | rfl | rfl | rfl | rfl <;> simp [step, h]

theorem resume_blanks (f : Frame) (b : Blanks) :
    resume (f :: stack) (b.chars ++ rest) = resume (f :: stack) rest :=
  skip_blanks (fun c rest h => by cases f <;> simp [step, separator, h]) b

/-- A comma in a list is followed by a value. -/
theorem resume_list_comma (s : List Char) :
    resume (.list :: stack) (',' :: s) = skip .value (.list :: stack) s := by
  rw [resume, skip_more rfl]

/-- A comma in an object is followed by a key. -/
theorem resume_object_comma (s : List Char) :
    resume (.object :: stack) (',' :: s) = skip .key (.object :: stack) s := by
  rw [resume, skip_more rfl]

end Expect

/-! ### Numbers -/

/-- A number begins with a digit after its sign. -/
theorem Numeral.exists_unsigned_eq_cons (n : Numeral) :
    ∃ c s, n.unsigned = c :: s ∧ isDigit c = true := by
  have hdigit := n.whole.digit
  rw [unsigned]
  cases hchars : n.whole.chars with
  | nil => exact absurd hchars n.whole.ne_nil
  | cons c chars => exact ⟨c, _, rfl, hdigit c (by rw [hchars]; exact List.mem_cons_self)⟩

theorem Numeral.exists_chars_eq_cons (n : Numeral) :
    ∃ c s, n.chars = c :: s ∧ (c = '-' ∨ isDigit c = true) := by
  obtain ⟨c, s, hs, hc⟩ := n.exists_unsigned_eq_cons
  rw [chars]
  cases n.negative with
  | true => exact ⟨'-', n.unsigned, rfl, .inl rfl⟩
  | false => exact ⟨c, s, hs, .inr hc⟩

theorem isBlank_of_number {c : Char} (h : c = '-' ∨ isDigit c = true) : isBlank c = false := by
  rcases h with rfl | h
  · rfl
  · exact isBlank_of_isDigit h

namespace Figure

/-- How far a number has come after some more of its characters. -/
def after? : Figure → List Char → Option Figure
  | f, [] => some f
  | f, c :: s => (f.next? c).bind fun g => g.after? s

theorem after?_append (f : Figure) (s t : List Char) :
    f.after? (s ++ t) = (f.after? s).bind fun g => g.after? t := by
  induction s generalizing f with
  | nil => rfl
  | cons c s ih =>
    rw [List.cons_append, after?, after?, Option.bind_assoc]
    exact Option.bind_congr fun g _ => ih g

/-- Digits leave a number where it is if each does. -/
theorem after?_digits {f : Figure} (h : ∀ c, isDigit c = true → f.next? c = some f)
    {digits : List Char} (hdigits : ∀ c ∈ digits, isDigit c = true) : f.after? digits = some f := by
  induction digits with
  | nil => rfl
  | cons c digits ih =>
    rw [after?, h c (hdigits c List.mem_cons_self), Option.bind_some]
    exact ih fun d hd => hdigits d (List.mem_cons_of_mem c hd)

/-- Digits of which the first leads to a place where the others leave the number. -/
theorem after?_start {f g : Figure} (hf : ∀ c, isDigit c = true → f.next? c = some g)
    (hg : ∀ c, isDigit c = true → g.next? c = some g) (d : Digits) : f.after? d.chars = some g := by
  obtain ⟨chars, hne, hdigit⟩ := d
  cases chars with
  | nil => exact absurd rfl hne
  | cons c chars =>
    rw [after?, hf c (hdigit c List.mem_cons_self), Option.bind_some]
    exact after?_digits hg fun d hd => hdigit d (List.mem_cons_of_mem c hd)

theorem next?_whole {c : Char} (h : isDigit c = true) : whole.next? c = some whole := by
  simp [next?, h]

theorem next?_fraction {c : Char} (h : isDigit c = true) : fraction.next? c = some fraction := by
  simp [next?, h]

theorem next?_exponent {c : Char} (h : isDigit c = true) : exponent.next? c = some exponent := by
  simp [next?, h]

/-- The whole part of a number after its sign. -/
theorem after?_whole (n : Numeral) :
    minus.after? n.whole.chars = some zero ∨ minus.after? n.whole.chars = some whole := by
  have hdigit := n.whole.digit
  have hfirst := n.first
  cases hchars : n.whole.chars with
  | nil => exact absurd hchars n.whole.ne_nil
  | cons c chars =>
    rw [hchars] at hdigit hfirst
    by_cases hc : c = '0'
    · subst hc
      obtain rfl := (List.cons.inj (hfirst rfl)).2
      exact .inl rfl
    · have hnext : minus.next? c = some whole := by
        simp [next?, hc, hdigit c List.mem_cons_self]
      rw [after?, hnext, Option.bind_some]
      exact .inr (after?_digits (fun c => next?_whole)
        fun d hd => hdigit d (List.mem_cons_of_mem c hd))

/-- Where a number may go on with an exponent. -/
def MayScale (f : Figure) : Prop :=
  f = zero ∨ f = whole ∨ f = fraction

theorem after?_fraction (n : Numeral) {f : Figure} (h : f = zero ∨ f = whole) :
    ∃ g, f.after? n.fractionChars = some g ∧ MayScale g := by
  rw [Numeral.fractionChars]
  cases n.fraction with
  | none => exact ⟨f, rfl, h.elim .inl fun h => .inr (.inl h)⟩
  | some d =>
    refine ⟨fraction, ?_, .inr (.inr rfl)⟩
    have hpoint : f.next? '.' = some point := by rcases h with rfl | rfl <;> rfl
    have hdigits : point.after? d.chars = some fraction :=
      after?_start (fun c h => by simp [next?, h]) (fun c => next?_fraction) d
    rw [Option.elim_some, after?, hpoint, Option.bind_some, hdigits]

theorem after?_sign (s : Sign) (d : Digits) : mark.after? (s.chars ++ d.chars) = some exponent := by
  have hsigned : markSign.after? d.chars = some exponent :=
    after?_start (fun c h => by simp [next?, h]) (fun c => next?_exponent) d
  cases s with
  | bare =>
    refine after?_start (fun c h => ?_) (fun c => next?_exponent) d
    have hsign : ¬(c = '+' ∨ c = '-') := by
      rintro (rfl | rfl) <;> exact absurd h (by decide)
    simp [next?, hsign, h]
  | plus => exact hsigned
  | minus => exact hsigned

theorem after?_exponent (n : Numeral) {f : Figure} (h : MayScale f) :
    ∃ g, f.after? n.exponentChars = some g ∧ g.complete = true := by
  rw [Numeral.exponentChars]
  cases n.exponent with
  | none => exact ⟨f, rfl, by rcases h with rfl | rfl | rfl <;> rfl⟩
  | some e =>
    refine ⟨exponent, ?_, rfl⟩
    have hmark : f.next? e.mark = some mark := by
      rcases h with rfl | rfl | rfl <;> rcases e.isMark with hm | hm <;> rw [hm] <;> rfl
    rw [Option.elim_some, Exponent.chars, after?, hmark, Option.bind_some, after?_sign]

/-- A number may end where it is spelled to its end. -/
theorem after?_unsigned (n : Numeral) :
    ∃ g, minus.after? n.unsigned = some g ∧ g.complete = true := by
  obtain ⟨f, hwhole, hf⟩ : ∃ f, minus.after? n.whole.chars = some f ∧ (f = zero ∨ f = whole) := by
    rcases after?_whole n with h | h
    · exact ⟨_, h, .inl rfl⟩
    · exact ⟨_, h, .inr rfl⟩
  obtain ⟨g, hfraction, hg⟩ := after?_fraction n hf
  obtain ⟨k, hexponent, hk⟩ := after?_exponent n hg
  refine ⟨k, ?_, hk⟩
  rw [Numeral.unsigned, after?_append, hwhole, Option.bind_some, after?_append, hfraction,
    Option.bind_some, hexponent]

end Figure

namespace Expect

theorem skip_figure {f g : Figure} {s : List Char} (h : f.after? s = some g) :
    skip (.figure f) stack (s ++ rest) = skip (.figure g) stack rest := by
  induction s generalizing f with
  | nil =>
    cases h
    rfl
  | cons c s ih =>
    obtain ⟨k, hk, hs⟩ := Option.bind_eq_some_iff.mp h
    have hstep : step (.figure f) stack c (s ++ rest) = .ok (.more (.figure k) stack) := by
      simp [step, hk]
    rw [List.cons_append, skip_more hstep, ih hs]

/-- A number ends before what does not go on with it. -/
theorem skip_figure_end {f : Figure} (hf : f.complete = true) (h : Ends rest) :
    skip (.figure f) stack rest = resume stack rest := by
  cases rest with
  | nil => cases stack <;> simp [skip, resume, atEnd, hf]
  | cons c rest =>
    obtain ⟨hdigit, hpoint, hmark⟩ := h c rfl
    have hnext : f.next? c = none := by
      cases f <;> simp_all [Figure.next?, Figure.complete]
    have hstep : step (.figure f) stack c rest = separator stack c := by
      simp [step, hnext, hf, hdigit]
    rw [skip, hstep]
    cases stack <;> rfl

/-- A digit starts a number as it goes on after a minus sign. -/
theorem start_digit (stack : List Frame) {c : Char} (h : isDigit c = true) :
    ∃ g, Figure.minus.next? c = some g ∧ start stack c = .ok (.more (.figure g) stack) := by
  by_cases hzero : c = '0'
  · subst hzero
    exact ⟨.zero, rfl, rfl⟩
  · refine ⟨.whole, by simp [Figure.next?, hzero, h], ?_⟩
    unfold start
    split
    case h_8 => exact absurd rfl hzero
    case h_9 => rw [if_pos h]
    all_goals exact absurd h (by decide)

theorem skip_value_digit {c : Char} (h : isDigit c = true) :
    skip .value stack (c :: rest) = skip (.figure .minus) stack (c :: rest) := by
  obtain ⟨g, hnext, hstart⟩ := start_digit stack h
  have hblank := isBlank_of_isDigit h
  have hvalue : step .value stack c rest = .ok (.more (.figure g) stack) := by
    simp [step, hblank, hstart]
  have hfigure : step (.figure .minus) stack c rest = .ok (.more (.figure g) stack) := by
    simp [step, hnext]
  rw [skip_more hvalue, skip_more hfigure]

theorem skip_numeral (n : Numeral) (h : Ends rest) :
    skip .value stack (n.chars ++ rest) = resume stack rest := by
  obtain ⟨f, hf, hcomplete⟩ := Figure.after?_unsigned n
  have hunsigned : skip (.figure .minus) stack (n.unsigned ++ rest) = resume stack rest := by
    rw [skip_figure hf, skip_figure_end hcomplete h]
  rw [← hunsigned, Numeral.chars]
  cases n.negative with
  | true => exact skip_more rfl
  | false =>
    obtain ⟨c, s, hs, hc⟩ := n.exists_unsigned_eq_cons
    show skip .value stack (n.unsigned ++ rest) = _
    rw [hs, List.cons_append, skip_value_digit hc]

/-! ### Texts -/

theorem ofLetter?_of_mem {l c : Char} (h : (l, c) ∈ letterEscapes) :
    Literal.ofLetter? l = some c ∧ l ≠ 'u' := by
  revert l c
  simp only [letterEscapes, List.mem_cons, Prod.mk.injEq, List.not_mem_nil, or_false]
  rintro l c (⟨rfl, rfl⟩ | ⟨rfl, rfl⟩ | ⟨rfl, rfl⟩ | ⟨rfl, rfl⟩ | ⟨rfl, rfl⟩ | ⟨rfl, rfl⟩ |
    ⟨rfl, rfl⟩ | ⟨rfl, rfl⟩) <;> exact ⟨rfl, by decide⟩

/-- A step inside a literal that is passed over, which does not close it. -/
theorem skip_literal {isKey : Bool} {state next : Literal} {c : Char} {out : List Char}
    (hopen : ¬(state = .plain ∧ c = '"'))
    (hstep : Literal.step false c rest state = .ok (out, next)) :
    skip (.literal isKey state) stack (c :: rest) = skip (.literal isKey next) stack rest := by
  refine skip_more ?_
  simp only [step, if_neg hopen, hstep]

/-- Every part of a literal is passed over, also half a surrogate pair. -/
theorem skip_piece (isKey : Bool) (p : Piece) :
    skip (.literal isKey .plain) stack (p.chars ++ rest) =
      skip (.literal isKey .plain) stack rest := by
  have hslash (s : List Char) : skip (.literal isKey .plain) stack ('\\' :: s) =
      skip (.literal isKey .escape) stack s := skip_literal (by decide) rfl
  cases p with
  | plain c hquote hbackslash hcontrol =>
    have hstep : Literal.step false c rest .plain = .ok ([c], .plain) := by
      simp [Literal.step, hbackslash, Nat.not_lt.mpr hcontrol]
    exact skip_literal (fun h => hquote h.2) hstep
  | letter l c known =>
    obtain ⟨hletter, hu⟩ := ofLetter?_of_mem known
    have hstep : Literal.step false l rest .escape = .ok ([c], .plain) := by
      simp [Literal.step, hletter, hu]
    show skip _ stack ('\\' :: l :: rest) = _
    rw [hslash, skip_literal (by simp) hstep]
  | unit u =>
    have hdigit (d : HexDigit) (seen value : Nat) (s : List Char) (hseen : seen < 3) :
        skip (.literal isKey (.digits none seen value)) stack (d.char :: s) =
          skip (.literal isKey (.digits none (seen + 1) (value * 16 + d.value))) stack s := by
      have hstep : Literal.step false d.char s (.digits none seen value) =
          .ok ([], .digits none (seen + 1) (value * 16 + d.value)) := by
        simp [Literal.step, d.hasValue, hseen]
      exact skip_literal (by simp) hstep
    have hlast (d : HexDigit) (value : Nat) :
        skip (.literal isKey (.digits none 3 value)) stack (d.char :: rest) =
          skip (.literal isKey .plain) stack rest := by
      have hstep : Literal.step false d.char rest (.digits none 3 value) = .ok ([], .plain) := by
        simp [Literal.step, d.hasValue, Literal.unit]
      exact skip_literal (by simp) hstep
    have hmark (s : List Char) : skip (.literal isKey .escape) stack ('u' :: s) =
        skip (.literal isKey (.digits none 0 0)) stack s := skip_literal (by decide) rfl
    show skip _ stack ('\\' :: 'u' :: u.first.char :: u.second.char :: u.third.char ::
      u.fourth.char :: rest) = _
    rw [hslash, hmark, hdigit _ _ _ _ (by decide), hdigit _ _ _ _ (by decide),
      hdigit _ _ _ _ (by decide), hlast]

theorem skip_pieces (isKey : Bool) (pieces : List Piece) :
    skip (.literal isKey .plain) stack (pieces.flatMap Piece.chars ++ rest) =
      skip (.literal isKey .plain) stack rest := by
  induction pieces with
  | nil => rfl
  | cons p pieces ih => rw [List.flatMap_cons, List.append_assoc, skip_piece, ih]

theorem skip_text (pieces : List Piece) :
    skip (.literal false .plain) stack (literalChars pieces ++ rest) = resume stack rest := by
  rw [literalChars, List.append_assoc, skip_pieces]
  exact skip_after rfl

theorem skip_key_text (pieces : List Piece) :
    skip (.literal true .plain) stack (literalChars pieces ++ rest) = skip .colon stack rest := by
  rw [literalChars, List.append_assoc, skip_pieces]
  exact skip_more rfl

/-! ### Values -/

end Expect

/-- A value begins with a character that is no blank and ends no list. -/
theorem Spelled.exists_chars_eq_cons (v : Spelled) :
    ∃ c s, v.chars = c :: s ∧ isBlank c = false ∧ c ≠ ']' := by
  cases v with
  | null => exact ⟨_, _, rfl, by decide, by decide⟩
  | bool b => cases b <;> exact ⟨_, _, rfl, by decide, by decide⟩
  | number n =>
    obtain ⟨c, s, hs, hc⟩ := n.exists_chars_eq_cons
    refine ⟨c, s, by rw [chars, hs], isBlank_of_number hc, ?_⟩
    rintro rfl
    exact absurd hc (by decide)
  | text pieces => exact ⟨'"', _, rfl, by decide, by decide⟩
  | list gap elements => exact ⟨'[', _, rfl, by decide, by decide⟩
  | object gap members => exact ⟨'\x7b', _, rfl, by decide, by decide⟩

namespace Expect

/-- After an opening bracket a value is passed over as elsewhere. -/
theorem skip_element (v : Spelled) :
    skip .element stack (v.chars ++ rest) = skip .value stack (v.chars ++ rest) := by
  obtain ⟨c, s, hs, hblank, hc⟩ := v.exists_chars_eq_cons
  have hsame : step .element stack c (s ++ rest) = step .value stack c (s ++ rest) := by
    simp [step, hblank, hc]
  rw [hs, List.cons_append, skip, skip, hsame]

/-- The first element of a list is read like one after a comma. -/
theorem skip_first_element (p : Padded Spelled) (elements : List (Padded Spelled)) :
    skip .element (.list :: stack) (elementsChars true (p :: elements) ++ rest) =
      resume (.list :: stack) (elementsChars false (p :: elements) ++ rest) := by
  obtain ⟨before, v, after⟩ := p
  simp only [elementsChars, commaChars, List.append_assoc]
  calc skip .element (.list :: stack) (before.chars ++ (v.chars ++ _))
    _ = skip .element (.list :: stack) (v.chars ++ _) := skip_before (by decide) before
    _ = skip .value (.list :: stack) (v.chars ++ _) := skip_element v
    _ = skip .value (.list :: stack) (before.chars ++ (v.chars ++ _)) :=
      (skip_before (by decide) before).symm
    _ = resume (.list :: stack) (',' :: (before.chars ++ (v.chars ++ _))) :=
      (resume_list_comma _).symm

/-- The first member of an object is read like one after a comma. -/
theorem skip_first_member (m : Member Spelled) (members : List (Member Spelled)) :
    skip .member (.object :: stack) (membersChars true (m :: members) ++ rest) =
      resume (.object :: stack) (membersChars false (m :: members) ++ rest) := by
  obtain ⟨before, name, gap, start, v, after⟩ := m
  simp only [membersChars, commaChars, List.append_assoc, List.cons_append]
  calc skip .member (.object :: stack) (before.chars ++ '"' :: _)
    _ = skip .member (.object :: stack) ('"' :: _) := skip_before (by decide) before
    _ = skip .key (.object :: stack) ('"' :: _) := (skip_more rfl).trans (skip_more rfl).symm
    _ = skip .key (.object :: stack) (before.chars ++ '"' :: _) :=
      (skip_before (by decide) before).symm
    _ = resume (.object :: stack) (',' :: (before.chars ++ '"' :: _)) :=
      (resume_object_comma _).symm

mutual

/-- Whatever lists and objects are open, all of a value is passed over and nothing after it. -/
theorem skip_chars (stack : List Frame) {rest : List Char} (h : Ends rest) :
    (v : Spelled) → skip .value stack (v.chars ++ rest) = resume stack rest
  | .null => by cases stack <;> rfl
  | .bool true => by cases stack <;> rfl
  | .bool false => by cases stack <;> rfl
  | .number n => skip_numeral n h
  | .text pieces => by
    calc skip .value stack ('"' :: (literalChars pieces ++ rest))
      _ = skip (.literal false .plain) stack (literalChars pieces ++ rest) := skip_more rfl
      _ = resume stack rest := skip_text pieces
  | .list gap elements => by
    have hopen (s : List Char) :
        skip .value stack ('[' :: (gap.chars ++ s)) = skip .element (.list :: stack) s :=
      (skip_more rfl).trans (skip_before (by decide) gap)
    rw [Spelled.chars, List.cons_append, List.append_assoc, hopen, List.append_assoc]
    cases elements with
    | nil => exact skip_after rfl
    | cons p elements =>
      rw [skip_first_element]
      exact skip_elements stack (p :: elements)
  | .object gap members => by
    have hopen (s : List Char) :
        skip .value stack ('\x7b' :: (gap.chars ++ s)) = skip .member (.object :: stack) s :=
      (skip_more rfl).trans (skip_before (by decide) gap)
    rw [Spelled.chars, List.cons_append, List.append_assoc, hopen, List.append_assoc]
    cases members with
    | nil => exact skip_after rfl
    | cons m members =>
      rw [skip_first_member]
      exact skip_members stack (m :: members)

/-- The elements of a list from the comma before the first to the end of the list. -/
theorem skip_elements (stack : List Frame) {rest : List Char} :
    (elements : List (Padded Spelled)) →
      resume (.list :: stack) (elementsChars false elements ++ ']' :: rest) = resume stack rest
  | [] => skip_after rfl
  | ⟨before, v, after⟩ :: elements => by
    have hends := Ends.blanks after (Ends.elements elements rest)
    simp only [elementsChars, commaChars, List.append_assoc]
    calc resume (.list :: stack) (',' :: (before.chars ++ (v.chars ++ _)))
      _ = skip .value (.list :: stack) (before.chars ++ (v.chars ++ _)) := resume_list_comma _
      _ = skip .value (.list :: stack) (v.chars ++ _) := skip_before (by decide) before
      _ = resume (.list :: stack) (after.chars ++ (elementsChars false elements ++ ']' :: rest)) :=
        skip_chars (.list :: stack) hends v
      _ = resume (.list :: stack) (elementsChars false elements ++ ']' :: rest) :=
        resume_blanks .list after
      _ = resume stack rest := skip_elements stack elements

/-- The members of an object from the comma before the first to the end of the object. -/
theorem skip_members (stack : List Frame) {rest : List Char} :
    (members : List (Member Spelled)) →
      resume (.object :: stack) (membersChars false members ++ '\x7d' :: rest) = resume stack rest
  | [] => skip_after rfl
  | ⟨before, name, gap, ⟨start, v, after⟩⟩ :: members => by
    have hends := Ends.blanks after (Ends.members members rest)
    have hquote (s : List Char) : skip .key (.object :: stack) ('"' :: s) =
        skip (.literal true .plain) (.object :: stack) s := skip_more rfl
    have hcolon (s : List Char) : skip .colon (.object :: stack) (':' :: s) =
        skip .value (.object :: stack) s := skip_more rfl
    simp only [membersChars, commaChars, List.append_assoc, List.cons_append]
    calc resume (.object :: stack) (',' :: (before.chars ++ '"' :: _))
      _ = skip .key (.object :: stack) (before.chars ++ '"' :: _) := resume_object_comma _
      _ = skip .key (.object :: stack) ('"' :: _) := skip_before (by decide) before
      _ = skip (.literal true .plain) (.object :: stack) (literalChars name ++ _) := hquote _
      _ = skip .colon (.object :: stack) (gap.chars ++ ':' :: _) := skip_key_text name
      _ = skip .colon (.object :: stack) (':' :: _) := skip_before (by decide) gap
      _ = skip .value (.object :: stack) (start.chars ++ (v.chars ++ _)) := hcolon _
      _ = skip .value (.object :: stack) (v.chars ++ _) := skip_before (by decide) start
      _ = resume (.object :: stack)
          (after.chars ++ (membersChars false members ++ '\x7d' :: rest)) :=
        skip_chars (.object :: stack) hends v
      _ = resume (.object :: stack) (membersChars false members ++ '\x7d' :: rest) :=
        resume_blanks .object after
      _ = resume stack rest := skip_members stack members

end

end Expect

/-- A spelled value is passed over whole, with the blanks before it. -/
theorem skipValue_spelled (before : Blanks) (v : Spelled) (h : Ends rest) :
    skipValue (before.chars ++ (v.chars ++ rest)) = .ok rest := by
  rw [skipValue]
  exact (Expect.skip_before (by decide) before).trans (Expect.skip_chars [] h v)

end FileTransfer.Json
