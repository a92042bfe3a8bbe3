import FileTransfer.Json.Number

/-! Integers of at most 64 bits.

As long as the digits of an integer fit into a word none of them is left over (`absorb_eq`), and a
number is at its end where what follows cannot be part of it (`Ends`, `readTail_of_ends`). The sign
of an integer that fits is not lost (`Fits.ofWord_of_neg`). -/
namespace FileTransfer.Json

/-- What follows a number: the end of the text, or a character that does not go on with it. -/
def Ends (rest : List Char) : Prop :=
  ∀ c ∈ rest.head?, isDigit c = false ∧ c ≠ '.' ∧ isExponentMark c = false

namespace Ends

theorem nil : Ends [] :=
  nofun

theorem comma (rest : List Char) : Ends (',' :: rest) := by
  rintro c ⟨⟩
  decide

theorem brace (rest : List Char) : Ends ('\x7d' :: rest) := by
  rintro c ⟨⟩
  decide

end Ends

namespace Number

theorem le_ofDigitChars (digits : List Char) (word : Nat) :
    word ≤ Nat.ofDigitChars 10 digits word := by
  induction digits generalizing word with
  | nil => exact Nat.le_refl word
  | cons c digits ih =>
    have hnext := ih (10 * word + (c.toNat - '0'.toNat))
    rw [Nat.ofDigitChars_eq_foldl, List.foldl_cons, ← Nat.ofDigitChars_eq_foldl]
    omega

/-- Digits that fit together are all taken into the word. -/
theorem absorb_eq {digits : List Char} {word : Nat}
    (h : Nat.ofDigitChars 10 digits word ≤ wordMax) :
    absorb word digits = (Nat.ofDigitChars 10 digits word, []) := by
  induction digits generalizing word with
  | nil => rfl
  | cons c digits ih =>
    have hnext : Nat.ofDigitChars 10 (c :: digits) word =
        Nat.ofDigitChars 10 digits (word * 10 + digitValue c) := by
      rw [Nat.ofDigitChars_eq_foldl, List.foldl_cons, ← Nat.ofDigitChars_eq_foldl, digitValue,
        Nat.mul_comm]
    rw [hnext] at h ⊢
    have hle := Nat.le_trans (le_ofDigitChars digits _) h
    simp only [absorb, if_pos hle]
    exact ih h

theorem readTail_of_ends {rest : List Char} (h : Ends rest) (negative : Bool) (word : Nat) :
    readTail negative word rest = .ok (ofWord negative word, rest) := by
  cases rest with
  | nil => rfl
  | cons c rest =>
    obtain ⟨-, hpoint, hmark⟩ := h c rfl
    simp [readTail, hpoint, hmark]

/-! ### Signs -/

/-- An integer as it is read. -/
def ofInt (n : Int) : Number :=
  if n < 0 then .negative n else .natural n.toNat

/-- An integer that fits into a word, with a sign or without. -/
structure Fits (n : Int) : Prop where
  least : -0x8000000000000000 ≤ n
  most : n ≤ 0xffffffffffffffff

theorem fits_word (w : UInt32) : Fits w.toNat := by
  have hlt := w.toNat_lt
  exact ⟨by omega, by omega⟩

theorem Fits.natAbs_le {n : Int} (h : Fits n) : n.natAbs ≤ wordMax := by
  obtain ⟨hleast, hmost⟩ := h
  rw [wordMax]
  omega

theorem Fits.ofWord_of_neg {n : Int} (h : Fits n) (hn : n < 0) :
    ofWord true n.natAbs = .ofInt n := by
  obtain ⟨hleast, -⟩ := h
  have hrange : ¬(n.natAbs = 0 ∨ 0x8000000000000000 < n.natAbs) := by omega
  have habs : -(n.natAbs : Int) = n := by omega
  simp only [ofWord, ofInt, if_pos hn, if_neg hrange, habs]
  rfl

theorem ofWord_of_nonneg {n : Int} (hn : 0 ≤ n) : ofWord false n.natAbs = .ofInt n := by
  have habs : n.natAbs = n.toNat := by omega
  simp only [ofWord, ofInt, if_neg (Int.not_lt.mpr hn), habs]
  rfl

end Number

end FileTransfer.Json
