import FileTransfer.Proofs.Json.Escapes

/-! Reading the value of a field from a spelled value.

A field takes its value off the front of a text just if the value that is spelled there has one for
it (`Kind.read_chars`), and then it leaves what follows. An integer is read as itself as long as it
fits 64 bits, and all other numbers are read as floating-point numbers or not at all
(`Number.Floats`), whatever they come to, so that no field takes them. -/
namespace FileTransfer.Json

variable {rest : List Char}

/-! ### Numbers -/

namespace Number

theorem value_eq_ofDigitChars (digits : List Char) :
    value digits = Nat.ofDigitChars 10 digits 0 := by
  rw [Nat.ofDigitChars_eq_foldl, value]
  simp only [digitValue, Nat.mul_comm]

/-- Some of the digits that do not fit together are left over. -/
theorem absorb_ne_nil {digits : List Char} {word : Nat} (hword : word ≤ wordMax)
    (h : wordMax < Nat.ofDigitChars 10 digits word) : (absorb word digits).2 ≠ [] := by
  induction digits generalizing word with
  | nil => exact absurd h (Nat.not_lt.mpr hword)
  | cons c digits ih =>
    rw [Nat.ofDigitChars_eq_foldl, List.foldl_cons, ← Nat.ofDigitChars_eq_foldl,
      Nat.mul_comm 10] at h
    simp only [absorb]
    split
    · next hle => exact ih hle h
    · exact List.cons_ne_nil c digits

/-- What a number may go on with after its digits. -/
def NoDigit (s : List Char) : Prop :=
  ∀ c ∈ s.head?, isDigit c = false

theorem NoDigit.nil : NoDigit [] := by
  simp [NoDigit]

theorem NoDigit.append {s t : List Char} (hs : NoDigit s) (ht : NoDigit t) : NoDigit (s ++ t) := by
  cases s with
  | nil => exact ht
  | cons c s => exact hs

theorem NoDigit.takeWhile {s : List Char} (h : NoDigit s) : s.takeWhile isDigit = [] := by
  cases s with
  | nil => rfl
  | cons c s => simp [h c rfl]

theorem NoDigit.dropWhile {s : List Char} (h : NoDigit s) : s.dropWhile isDigit = s := by
  cases s with
  | nil => rfl
  | cons c s => simp [h c rfl]

/-- Digits are read whole, and are too many or go on with their value. -/
theorem read_digits (negative : Bool) (d : Digits)
    (hd : d.chars.head? = some '0' → d.chars = ['0']) {s : List Char} (hs : NoDigit s) :
    (value d.chars ≤ wordMax ∧ read negative (d.chars ++ s) = readTail negative (value d.chars) s) ∨
      wordMax < value d.chars ∧
        ∃ word extra, read negative (d.chars ++ s) = readLongTail negative word extra s := by
  obtain ⟨chars, hne, hdigit⟩ := d
  cases chars with
  | nil => exact absurd rfl hne
  | cons c digits =>
    by_cases hc : c = '0'
    · subst hc
      obtain rfl := (List.cons.inj (hd rfl)).2
      refine .inl ⟨Nat.zero_le wordMax, ?_⟩
      have hnone : (s.head?.map isDigit).getD false = false := by
        cases s with
        | nil => rfl
        | cons c s => exact hs c rfl
      rw [List.cons_append, List.nil_append, read, if_pos rfl, hnone]
      rfl
    · have htake : (c :: (digits ++ s)).takeWhile isDigit = c :: digits := by
        rw [← List.cons_append, List.takeWhile_append_of_pos hdigit, hs.takeWhile, List.append_nil]
      have hdrop : (c :: (digits ++ s)).dropWhile isDigit = s := by
        rw [← List.cons_append, List.dropWhile_append_of_pos hdigit, hs.dropWhile]
      have hvalue := value_eq_ofDigitChars (c :: digits)
      simp only [List.cons_append, read, if_neg hc, if_pos (hdigit c List.mem_cons_self), htake,
        hdrop]
      by_cases hfits : value (c :: digits) ≤ wordMax
      · rw [absorb_eq (hvalue ▸ hfits), ← hvalue]
        exact .inl ⟨hfits, rfl⟩
      · have hlarge := Nat.not_le.mp hfits
        have hleft := absorb_ne_nil (Nat.zero_le wordMax) (hvalue ▸ hlarge)
        refine .inr ⟨hlarge, (absorb 0 (c :: digits)).1, (absorb 0 (c :: digits)).2.length, ?_⟩
        rw [if_neg (by simpa using hleft)]

/-- A reading that gives a floating-point number, if it gives a number at all. -/
inductive Floats : Reading (Number × List Char) → Prop where
  | failed (e : Failure) : Floats (.error e)
  | float (x : Float) (s : List Char) : Floats (.ok (.float x, s))

theorem floats_done (negative : Bool) (word : Nat) (e : Int) (s : List Char) :
    Floats (done (ofParts negative word e) s) := by
  unfold ofParts
  cases scale? word e with
  | none => exact .failed _
  | some x => exact .float _ s

theorem floats_readExponent (negative : Bool) (word : Nat) (e : Int) (s : List Char) :
    Floats (readExponent negative word e s) := by
  unfold readExponent
  split
  split
  · exact .failed _
  · split
    · exact .failed _
    · dsimp only
      split
      · exact floats_done ..
      · split
        · exact .float ..
        · exact .failed _

theorem floats_readScale (negative : Bool) (word : Nat) (e : Int) (s : List Char) :
    Floats (readScale negative word e s) := by
  unfold readScale
  split
  · exact floats_done ..
  · split
    · exact floats_readExponent ..
    · exact floats_done ..

theorem floats_readFraction (negative : Bool) (word : Nat) (e : Int) (s : List Char) :
    Floats (readFraction negative word e s) := by
  unfold readFraction
  dsimp only
  split
  · exact .failed _
  · exact floats_readScale ..

theorem floats_readLongTail (negative : Bool) (word extra : Nat) (s : List Char) :
    Floats (readLongTail negative word extra s) := by
  unfold readLongTail
  split
  · exact floats_readFraction ..
  · exact floats_readScale ..

theorem floats_ofWord {word : Nat} (h : word = 0 ∨ 0x8000000000000000 < word) (s : List Char) :
    Floats (.ok (ofWord true word, s)) := by
  simp only [ofWord, if_pos h]
  exact .float _ s

end Number

namespace Numeral

theorem noDigit_tail (n : Numeral) (h : Ends rest) :
    Number.NoDigit (n.fractionChars ++ (n.exponentChars ++ rest)) := by
  have hrest : Number.NoDigit rest := fun c hc => (h c hc).1
  have hexponent : Number.NoDigit n.exponentChars := by
    rw [exponentChars]
    cases n.exponent with
    | none => exact .nil
    | some e =>
      rintro c ⟨⟩
      rcases e.isMark with hm | hm <;> rw [hm] <;> decide
  have hfraction : Number.NoDigit n.fractionChars := by
    rw [fractionChars]
    cases n.fraction with
    | none => exact .nil
    | some d =>
      rintro c ⟨⟩
      decide
  exact hfraction.append (hexponent.append hrest)

/-- What follows the whole part of a number with a fraction or an exponent makes it a floating-point
number. -/
theorem floats_tail {n : Numeral} (hn : (n.fraction.isSome || n.exponent.isSome) = true)
    (negative : Bool) (word : Nat) :
    Number.Floats
      (Number.readTail negative word (n.fractionChars ++ (n.exponentChars ++ rest))) := by
  rw [fractionChars, exponentChars]
  cases hf : n.fraction with
  | some d => exact Number.floats_readFraction ..
  | none =>
    cases he : n.exponent with
    | none => simp [hf, he] at hn
    | some e =>
      have hread (s : List Char) : Number.readTail negative word (e.mark :: s) =
          Number.readExponent negative word 0 s := by
        rcases e.isMark with hm | hm <;> rw [hm] <;> rfl
      show Number.Floats (Number.readTail negative word (e.mark :: _))
      rw [hread]
      exact Number.floats_readExponent ..

/-- What follows a number without a fraction and an exponent. -/
theorem tail_eq {n : Numeral} (hn : (n.fraction.isSome || n.exponent.isSome) = false) :
    n.fractionChars ++ (n.exponentChars ++ rest) = rest := by
  rw [fractionChars, exponentChars]
  cases hf : n.fraction <;> cases he : n.exponent <;> simp_all

/-- The outcome of reading a number after its sign: the integer it spells if this fits 64 bits, and
otherwise a floating-point number or none. -/
inductive Reads (n : Numeral) (rest : List Char) : Reading (Number × List Char) → Prop where
  | integer (i : Int) (spelled : n.integer? = some i) (fits : Number.Fits i) :
      Reads n rest (.ok (.ofInt i, rest))
  | other {r : Reading (Number × List Char)} (large : ∀ i, n.integer? = some i → ¬Number.Fits i)
      (floats : Number.Floats r) : Reads n rest r

theorem natAbs_of_integer? {n : Numeral} {i : Int} (h : n.integer? = some i) :
    i.natAbs = Number.value n.whole.chars := by
  unfold integer? at h
  split at h
  · cases h
  · split at h
    · cases h
      rfl
    · split at h
      · cases h
      · cases h
        rw [Int.natAbs_neg, Int.natAbs_natCast]

theorem Reads.of_integer {n : Numeral} (hn : (n.fraction.isSome || n.exponent.isSome) = false)
    (h : Ends rest) (hfits : Number.value n.whole.chars ≤ Number.wordMax) :
    n.Reads rest (Number.readTail n.negative (Number.value n.whole.chars) rest) := by
  have hinteger : n.integer? = if !n.negative then some (Number.value n.whole.chars : Int)
      else if Number.value n.whole.chars = 0 then none
      else some (-(Number.value n.whole.chars : Int)) := by
    simp [integer?, hn]
  rw [Number.readTail_of_ends h]
  generalize Number.value n.whole.chars = word at hfits hinteger
  rw [Number.wordMax] at hfits
  cases hneg : n.negative with
  | false =>
    rw [hneg] at hinteger
    have hvalue : Number.ofWord false word = .ofInt word :=
      Number.ofWord_of_nonneg (Int.natCast_nonneg word)
    rw [hvalue]
    exact .integer word hinteger ⟨by omega, by omega⟩
  | true =>
    rw [hneg] at hinteger
    by_cases hrange : word = 0 ∨ 0x8000000000000000 < word
    · refine .other (fun i hi hi' => ?_) (Number.floats_ofWord hrange rest)
      obtain ⟨hleast, -⟩ := hi'
      rcases hrange with hzero | hlarge
      · simp [hinteger, hzero] at hi
      · simp [hinteger] at hi
        omega
    · have hsome : n.integer? = some (-(word : Int)) := by
        have hzero : word ≠ 0 := fun h => hrange (.inl h)
        simp [hinteger, hzero]
      have hinside : Number.Fits (-(word : Int)) := ⟨by omega, by omega⟩
      have hvalue := hinside.ofWord_of_neg (by omega)
      rw [Int.natAbs_neg, Int.natAbs_natCast] at hvalue
      rw [hvalue]
      exact .integer _ hsome hinside

theorem read_unsigned (n : Numeral) (h : Ends rest) :
    n.Reads rest (Number.read n.negative (n.unsigned ++ rest)) := by
  have hdigits := Number.read_digits n.negative n.whole n.first (n.noDigit_tail h)
  rw [unsigned, List.append_assoc, List.append_assoc]
  cases htail : n.fraction.isSome || n.exponent.isSome with
  | true =>
    refine .other (fun i hi => by simp [integer?, htail] at hi) ?_
    rcases hdigits with ⟨-, hread⟩ | ⟨-, word, extra, hread⟩ <;> rw [hread]
    · exact floats_tail htail ..
    · exact Number.floats_readLongTail ..
  | false =>
    rcases hdigits with ⟨hfits, hread⟩ | ⟨hlarge, word, extra, hread⟩ <;> rw [hread]
    · rw [tail_eq htail]
      exact .of_integer htail h hfits
    · refine .other (fun i hi hfits => ?_) (Number.floats_readLongTail ..)
      exact Nat.not_lt.mpr (natAbs_of_integer? hi ▸ hfits.natAbs_le) hlarge

end Numeral

/-! ### Conversions -/

/-- What a conversion of numbers makes of integers. It refuses floating-point numbers. -/
structure Converts {α : Type} (convert : Number → Reading α) (ofInt? : Int → Option α) : Prop where
  integer : ∀ i a, ofInt? i = some a → convert (.ofInt i) = .ok a
  refused : ∀ i, Number.Fits i → ofInt? i = none → ∃ e, convert (.ofInt i) = .error e
  fits : ∀ i a, ofInt? i = some a → Number.Fits i
  float : ∀ x, ∃ e, convert (.float x) = .error e

theorem ofInt_of_nonneg {i : Int} (h : 0 ≤ i) : Number.ofInt i = .natural i.toNat :=
  if_neg (Int.not_lt.mpr h)

theorem ofInt_of_neg {i : Int} (h : i < 0) : Number.ofInt i = .negative i :=
  if_pos h

theorem converts_word : Converts wordOf wordOfInt? where
  integer i w h := by
    unfold wordOfInt? at h
    split at h
    · next hrange =>
      cases h
      rw [ofInt_of_nonneg hrange.1]
      exact if_pos (by omega)
    · cases h
  refused i _ h := by
    unfold wordOfInt? at h
    split at h
    · cases h
    · next hrange =>
      by_cases hneg : i < 0
      · rw [ofInt_of_neg hneg]
        exact ⟨_, rfl⟩
      · rw [ofInt_of_nonneg (Int.not_lt.mp hneg)]
        exact ⟨_, if_neg (by omega)⟩
  fits i w h := by
    unfold wordOfInt? at h
    split at h
    · next hrange => exact ⟨by omega, by omega⟩
    · cases h
  float x := ⟨_, rfl⟩

theorem converts_long : Converts longOf longOfInt? where
  integer i v h := by
    unfold longOfInt? at h
    split at h
    · next hrange =>
      cases h
      by_cases hneg : i < 0
      · rw [ofInt_of_neg hneg]
        rfl
      · have hnonneg := Int.not_lt.mp hneg
        rw [ofInt_of_nonneg hnonneg]
        refine (if_pos (by omega)).trans ?_
        rw [← Int64.ofInt_eq_ofNat, Int.toNat_of_nonneg hnonneg]
    · cases h
  refused i hfits h := by
    obtain ⟨hleast, -⟩ := hfits
    unfold longOfInt? at h
    split at h
    · cases h
    · next hrange =>
      by_cases hneg : i < 0
      · exact absurd ⟨hleast, by omega⟩ hrange
      · rw [ofInt_of_nonneg (Int.not_lt.mp hneg)]
        exact ⟨_, if_neg (by omega)⟩
  fits i v h := by
    unfold longOfInt? at h
    split at h
    · next hrange => exact ⟨by omega, by omega⟩
    · cases h
  float x := ⟨_, rfl⟩

/-! ### Values -/

theorem skipBlanks_blanks (b : Blanks) (s : List Char) : skipBlanks (b.chars ++ s) = skipBlanks s :=
  List.dropWhile_append_of_pos b.blank

theorem isBlank_comma : isBlank ',' = false := by
  decide

/-- A number is read after its sign, if it has one, and then converted. -/
theorem readNumber_cons {α : Type} {c : Char} {s : List Char} (hc : c = '-' ∨ isDigit c = true)
    (title : String) (convert : Number → Reading α) :
    readNumber title convert (c :: s) =
      (Number.read (c == '-') (if c = '-' then s else c :: s)).bind fun r =>
        (convert r.1).map fun v => (v, r.2) := by
  have hblank : isBlank c = false := by
    rcases hc with rfl | hc
    · decide
    · exact isBlank_of_isDigit hc
  have hstart : (decide (c = '-') || isDigit c) = true := by
    simpa using hc
  rw [readNumber, skipBlanks_cons hblank]
  simp only [hstart, if_true, bind, Except.bind, pure, Except.pure]
  cases Number.read (c == '-') (if c = '-' then s else c :: s) with
  | error e => rfl
  | ok r =>
    dsimp only
    cases convert r.1 <;> rfl

theorem readNumber_numeral {α : Type} (title : String) (convert : Number → Reading α) (n : Numeral)
    (rest : List Char) :
    readNumber title convert (n.chars ++ rest) =
      (Number.read n.negative (n.unsigned ++ rest)).bind fun r =>
        (convert r.1).map fun a => (a, r.2) := by
  cases hneg : n.negative with
  | true =>
    rw [Numeral.chars, hneg]
    exact readNumber_cons (.inl rfl) title convert
  | false =>
    obtain ⟨c, s, hs, hc⟩ := n.exists_unsigned_eq_cons
    have hminus : c ≠ '-' := by
      rintro rfl
      exact absurd hc (by decide)
    have hchars : n.chars ++ rest = c :: (s ++ rest) := by
      simp [Numeral.chars, hneg, hs]
    rw [hchars, hs, readNumber_cons (.inr hc), if_neg hminus, beq_eq_false_iff_ne.mpr hminus]
    rfl

/-- A number is taken as the conversion of the integer it spells. -/
theorem Converts.takes {α : Type} {convert : Number → Reading α} {ofInt? : Int → Option α}
    (hc : Converts convert ofInt?) (title : String) (n : Numeral) (h : Ends rest) :
    Takes rest (n.integer?.bind ofInt?) (readNumber title convert (n.chars ++ rest)) := by
  rw [readNumber_numeral]
  generalize hr : Number.read n.negative (n.unsigned ++ rest) = r
  have hreads := n.read_unsigned h
  rw [hr] at hreads
  cases hreads with
  | integer i hi hfits =>
    rw [hi, Option.bind_some]
    show Takes rest _ ((convert (.ofInt i)).map fun a => (a, rest))
    cases ha : ofInt? i with
    | some a =>
      rw [hc.integer i a ha]
      exact .taken a
    | none =>
      obtain ⟨e, he⟩ := hc.refused i hfits ha
      rw [he]
      exact .refused e
  | other hlarge hfloats =>
    have hnone : n.integer?.bind ofInt? = none := by
      refine Option.bind_eq_none_iff.mpr fun i hi => ?_
      exact Option.eq_none_iff_forall_ne_some.mpr fun a ha => hlarge i hi (hc.fits i a ha)
    rw [hnone]
    cases hfloats with
    | failed e => exact .refused e
    | float x s =>
      obtain ⟨e, he⟩ := hc.float x
      show Takes rest none ((convert (.float x)).map fun a => (a, s))
      rw [he]
      exact .refused e

theorem readNumber_blanks {α : Type} (title : String) (convert : Number → Reading α) (b : Blanks)
    (s : List Char) : readNumber title convert (b.chars ++ s) = readNumber title convert s := by
  rw [readNumber, readNumber, skipBlanks_blanks]

theorem readString_blanks (title : String) (b : Blanks) (s : List Char) :
    readString title (b.chars ++ s) = readString title s := by
  rw [readString, readString, skipBlanks_blanks]

theorem Kind.read_blanks (k : Kind) (b : Blanks) (s : List Char) :
    k.read (b.chars ++ s) = k.read s := by
  cases k with
  | word => exact readNumber_blanks ..
  | long => exact readNumber_blanks ..
  | text => exact readString_blanks ..

/-- Where a number is expected no other value is read. -/
theorem readNumber_refused {α : Type} (title : String) (convert : Number → Reading α) {v : Spelled}
    (h : ∀ n, v ≠ .number n) (rest : List Char) :
    ∃ e, readNumber title convert (v.chars ++ rest) = .error e := by
  cases v with
  | null => exact ⟨_, rfl⟩
  | bool b => cases b <;> exact ⟨_, rfl⟩
  | number n => exact absurd rfl (h n)
  | text pieces => exact ⟨_, rfl⟩
  | list gap elements => exact ⟨_, rfl⟩
  | object gap members => exact ⟨_, rfl⟩

/-- Where a text is expected no other value is read. -/
theorem readString_refused (title : String) {v : Spelled} (h : ∀ pieces, v ≠ .text pieces)
    (rest : List Char) : ∃ e, readString title (v.chars ++ rest) = .error e := by
  cases v with
  | null => exact ⟨_, rfl⟩
  | bool b => cases b <;> exact ⟨_, rfl⟩
  | number n =>
    obtain ⟨c, s, hs, hc⟩ := n.exists_chars_eq_cons
    have hquote : c ≠ '"' := by
      rintro rfl
      exact absurd hc (by decide)
    refine ⟨unexpected title (c :: (s ++ rest)), ?_⟩
    rw [Spelled.chars, hs, List.cons_append, readString, skipBlanks_cons (isBlank_of_number hc)]
    exact if_neg hquote
  | text pieces => exact absurd rfl (h pieces)
  | list gap elements => exact ⟨_, rfl⟩
  | object gap members => exact ⟨_, rfl⟩

/-- A field takes its value from a spelled one if there is one for it, and fails if not. -/
theorem Kind.read_chars (k : Kind) (v : Spelled) (h : Ends rest) :
    Takes rest (k.value? v) (k.read (v.chars ++ rest)) := by
  cases k with
  | word =>
    rw [Kind.read]
    cases v with
    | number n => exact converts_word.takes Kind.word.title n h
    | _ => exact .of_error rfl (readNumber_refused _ _ (by simp) rest)
  | long =>
    rw [Kind.read]
    cases v with
    | number n => exact converts_long.takes Kind.long.title n h
    | _ => exact .of_error rfl (readNumber_refused _ _ (by simp) rest)
  | text =>
    rw [Kind.read]
    cases v with
    | text pieces => exact readText_literalChars pieces rest
    | _ => exact .of_error rfl (readString_refused _ (by simp) rest)

end FileTransfer.Json
