import FileTransfer.Text.Numeral

/-! Decimal numerals: nothing but digits, at least one, no leading zero, and no two numbers share
one, also where text follows them (`int_append_inj`). In any base the digits lie below it
(`exists_digitChar_of_mem`). -/
namespace FileTransfer.Text.Numeral

@[simp] theorem toList_nat (n : Nat) : (nat n).toList = Nat.toDigits 10 n := by
  simp [nat]

/-- The number that a numeral was made of. -/
theorem ofDigitChars_nat (n : Nat) : Nat.ofDigitChars 10 (nat n).toList 0 = n := by
  rw [toList_nat, Nat.ofDigitChars_ten_toDigits]

theorem nat_inj {m n : Nat} : nat m = nat n ↔ m = n := by
  refine ⟨fun h => ?_, fun h => h ▸ rfl⟩
  rw [← ofDigitChars_nat m, h, ofDigitChars_nat]

theorem isDigit_of_mem_nat {n : Nat} {c : Char} (h : c ∈ (nat n).toList) : c.isDigit = true := by
  rw [toList_nat] at h
  exact Nat.isDigit_of_mem_toDigits (by decide) (by decide) h

/-- Each digit of a numeral is that of a number below its base. -/
theorem exists_digitChar_of_mem {b n : Nat} {c : Char} (hb : 1 < b) (h : c ∈ Nat.toDigits b n) :
    ∃ d < b, c = Nat.digitChar d := by
  induction n using Nat.strongRecOn with
  | ind n ih =>
    rw [Nat.toDigits_eq_if hb] at h
    split at h
    · next hn => exact ⟨n, hn, List.mem_singleton.mp h⟩
    · next hn =>
      obtain hfirst | hlast := List.mem_append.mp h
      · exact ih (n / b) (Nat.div_lt_self (by omega) hb) hfirst
      · exact ⟨n % b, Nat.mod_lt n (by omega), List.mem_singleton.mp hlast⟩

theorem nat_ne_nil (n : Nat) : (nat n).toList ≠ [] := by
  rw [toList_nat]
  exact Nat.toDigits_ne_nil

/-- Only the numeral of zero begins with a zero. -/
theorem head?_nat_ne {n : Nat} (h : n ≠ 0) : (nat n).toList.head? ≠ some '0' := by
  rw [toList_nat]
  induction n using Nat.strongRecOn with
  | ind n ih =>
    rw [Nat.toDigits_eq_if (by decide)]
    split
    · next hn =>
      simp only [List.head?_cons, ne_eq, Option.some.injEq, Nat.digitChar_eq_zero]
      exact h
    · next hn =>
      have hfirst := ih (n / 10) (by omega) (by omega)
      rw [List.head?_append]
      cases hd : (Nat.toDigits 10 (n / 10)).head? with
      | none => exact absurd (List.head?_eq_none_iff.mp hd) Nat.toDigits_ne_nil
      | some d => rwa [hd] at hfirst

/-! ### Signs -/

theorem minus_notMem_nat (n : Nat) : '-' ∉ (nat n).toList := fun h =>
  absurd (isDigit_of_mem_nat h) (by decide)

theorem int_inj {m n : Int} : int m = int n ↔ m = n := by
  refine ⟨fun h => ?_, fun h => h ▸ rfl⟩
  have hsign (k l : Nat) : "-" ++ nat k ≠ nat l := fun heq =>
    minus_notMem_nat l (heq ▸ by simp)
  unfold int at h
  split at h
  · split at h
    · have habs := nat_inj.mp ((String.append_right_inj "-").mp h)
      omega
    · exact absurd h (hsign _ _)
  · split at h
    · exact absurd h.symm (hsign _ _)
    · have habs := nat_inj.mp h
      omega

/-- The characters of which numerals are made. -/
def inNumeral (c : Char) : Bool :=
  c.isDigit || c == '-'

theorem inNumeral_of_mem_int {n : Int} {c : Char} (h : c ∈ (int n).toList) :
    inNumeral c = true := by
  have hdigit (hc : c ∈ (nat n.natAbs).toList) : inNumeral c = true := by
    simp [inNumeral, isDigit_of_mem_nat hc]
  unfold int at h
  split at h
  · rw [String.toList_append] at h
    obtain hminus | hc := List.mem_append.mp h
    · obtain rfl := List.mem_singleton.mp hminus
      rfl
    · exact hdigit hc
  · exact hdigit h

/-- What follows a numeral: nothing, or a character that does not go on with it. -/
def Ends (rest : List Char) : Prop :=
  ∀ c ∈ rest.head?, inNumeral c = false

/-- A mark that does not go on with a numeral ends it. -/
theorem ends_append {mark rest : List Char} (h : mark.head?.map inNumeral = some false) :
    Ends (mark ++ rest) := by
  cases mark with
  | nil => simp at h
  | cons c mark => simpa [Ends] using h

/-- A numeral is told from what follows it. -/
theorem int_append_inj {m n : Int} {rest rest' : List Char} (h : Ends rest) (h' : Ends rest')
    (heq : (int m).toList ++ rest = (int n).toList ++ rest') : m = n ∧ rest = rest' := by
  have htake (k : Int) {s : List Char} (hs : Ends s) :
      ((int k).toList ++ s).takeWhile inNumeral = (int k).toList := by
    rw [List.takeWhile_append_of_pos fun c hc => inNumeral_of_mem_int hc]
    cases s with
    | nil => simp
    | cons c s => simp [hs c rfl]
  have hnumeral : (int m).toList = (int n).toList := by
    rw [← htake m h, heq, htake n h']
  rw [hnumeral] at heq
  exact ⟨int_inj.mp (String.toList_inj.mp hnumeral), List.append_cancel_left heq⟩

end FileTransfer.Text.Numeral
