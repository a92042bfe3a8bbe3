import FileTransfer.Json.Value
import FileTransfer.Proofs.Json.Members

/-! What a JSON text says.

A spelled value denotes a value if it is of the kinds that are written here (`Spelled.value?`). The
grammar leaves nothing open: a reader that goes through a text once, from its front, takes from it
what any spelling of it denotes (`Value.takes_chars`), so that a text says one thing at most
(`Means.unique`). -/
namespace FileTransfer.Json

/-! ### Values of spelled values -/

/-- An integer, if it fits 64 bits. -/
def integerOfInt? (i : Int) : Option Int :=
  if -0x8000000000000000 ≤ i ∧ i ≤ 0xffffffffffffffff then some i else none

mutual

/-- The value that is spelled. Lists, truth values and numbers that are no integers of 64 bits are
not among those that are written here. -/
def Spelled.value? : Spelled → Option Value
  | .null => some .null
  | .bool _ => none
  | .number n => (n.integer?.bind integerOfInt?).map .number
  | .text pieces => ((characters? pieces).map String.ofList).map .text
  | .list _ _ => none
  | .object _ members => (membersValue? members).map .object

/-- The members of an object, in their order. -/
def membersValue? : List (Member Spelled) → Option (List (String × Value))
  | [] => some []
  | ⟨_, name, _, ⟨_, v, _⟩⟩ :: rest =>
    ((characters? name).map String.ofList).bind fun key =>
      (Spelled.value? v).bind fun value =>
        (membersValue? rest).map fun members => (key, value) :: members

end

/-! ### Reading values -/

/-- The integer that a number is. -/
def integerOf (n : Number) : Reading Int :=
  match n with
  | .natural k => .ok k
  | .negative k => .ok k
  | .float _ => .error (.mismatch (.type (.number n) "an integer"))

mutual

/-- Reads a value, in at most `limit` rounds. -/
def Value.read (s : List Char) : (limit : Nat) → Reading (Value × List Char)
  | 0 => .error .malformed
  | limit + 1 =>
    match skipBlanks s with
    | [] => .error .cutOff
    | c :: rest =>
      if c = '"' then (readText rest).map fun r => (.text r.1, r.2)
      else if c = '\x7b' then
        (Value.readMembers true rest limit).map fun r => (.object r.1, r.2)
      else if c = 'n' then (word ['u', 'l', 'l'] rest).map fun rest => (.null, rest)
      else (readNumber "an integer" integerOf (c :: rest)).map fun r => (.number r.1, r.2)

/-- Reads the members of an object to its end. -/
def Value.readMembers (first : Bool) (s : List Char) :
    (limit : Nat) → Reading (List (String × Value) × List Char)
  | 0 => .error .malformed
  | limit + 1 => do
    let (more, rest) ← nextKey first s
    if !more then return ([], rest)
    else
      let (key, rest) ← readText rest
      let (v, rest) ← Value.read (← readColon rest) limit
      let (members, rest) ← Value.readMembers false rest limit
      return ((key, v) :: members, rest)

end

/-- Reads a whole text as a value. -/
def Value.ofText (text : String) : Reading Value :=
  readAll (fun s => Value.read s (s.length + 1)) text

/-! ### The reader and the grammar -/

variable {rest : List Char}

theorem converts_integer : Converts integerOf integerOfInt? where
  integer i a h := by
    unfold integerOfInt? at h
    split at h
    · cases h
      by_cases hneg : i < 0
      · rw [ofInt_of_neg hneg]
        rfl
      · rw [ofInt_of_nonneg (Int.not_lt.mp hneg)]
        exact congrArg Except.ok (Int.toNat_of_nonneg (Int.not_lt.mp hneg))
    · cases h
  refused i hfits h := by
    unfold integerOfInt? at h
    rw [if_pos ⟨hfits.least, hfits.most⟩] at h
    cases h
  fits i a h := by
    unfold integerOfInt? at h
    split at h
    · next hrange => exact ⟨hrange.1, hrange.2⟩
    · cases h
  float x := ⟨_, rfl⟩

/-- One part of a text after another. -/
theorem Takes.bind {α β : Type} {rest rest' : List Char} {v? : Option α} {f? : α → Option β}
    {r : Reading (α × List Char)} {f : α × List Char → Reading (β × List Char)}
    (h : Takes rest v? r) (hf : ∀ a, Takes rest' (f? a) (f (a, rest))) :
    Takes rest' (v?.bind f?) (r.bind f) := by
  cases h with
  | taken v => exact hf v
  | refused e => exact .refused e

theorem Value.read_number (n : Numeral) (rest : List Char) (limit : Nat) :
    Value.read (n.chars ++ rest) (limit + 1) =
      (readNumber "an integer" integerOf (n.chars ++ rest)).map fun r => (.number r.1, r.2) := by
  obtain ⟨c, s, hs, hc⟩ := n.exists_chars_eq_cons
  have hne (d : Char) (hd : ¬(d = '-' ∨ isDigit d = true)) : c ≠ d := fun h => hd (h ▸ hc)
  have hquote := hne '"' (by decide)
  have hbrace := hne '\x7b' (by decide)
  have hnull := hne 'n' (by decide)
  rw [hs, List.cons_append, Value.read, skipBlanks_cons (isBlank_of_number hc)]
  simp only [if_neg hquote, if_neg hbrace, if_neg hnull]

theorem Value.read_blanks (b : Blanks) (s : List Char) (limit : Nat) :
    Value.read (b.chars ++ s) limit = Value.read s limit := by
  cases limit with
  | zero => rfl
  | succ limit => rw [Value.read, Value.read, skipBlanks_blanks]

/-- A member is read part by part: its name, its value, and the members after it. -/
theorem Value.readMembers_member (first : Bool) (gap : Blanks) (m : Member Spelled)
    (members : List (Member Spelled)) (s : List Char) (limit : Nat) :
    Value.readMembers first (gap.chars ++ (membersChars first (m :: members) ++ s)) (limit + 1) =
      (readText (literalChars m.name ++
        m.tail (m.value.after.chars ++ (membersChars false members ++ s)))).bind fun key =>
          (readColon key.2).bind fun rest =>
            (Value.read rest limit).bind fun v =>
              (Value.readMembers false v.2 limit).map fun r => ((key.1, v.1) :: r.1, r.2) := by
  rw [Value.readMembers, nextKey_member]
  rfl

mutual

/-- The reader takes from a text what is spelled there, and leaves what follows. -/
theorem Value.takes_chars {rest : List Char} (h : Ends rest) :
    (x : Spelled) → {limit : Nat} → x.chars.length < limit →
      Takes rest x.value? (Value.read (x.chars ++ rest) limit)
  | x, 0, hlimit => absurd hlimit (Nat.not_lt_zero _)
  | .null, limit + 1, _ => .taken Value.null
  | .bool true, limit + 1, _ => .refused _
  | .bool false, limit + 1, _ => .refused _
  | .number n, limit + 1, _ => by
    rw [Spelled.chars, Value.read_number]
    exact (converts_integer.takes "an integer" n h).map Value.number
  | .text pieces, limit + 1, _ => (readText_literalChars pieces rest).map Value.text
  | .list gap elements, limit + 1, _ => .refused _
  | .object gap members, limit + 1, hlimit => by
    -- a round is spent on each value and each member, and each has a character of its own
    have hmembers : (membersChars true members).length < limit := by
      simp only [Spelled.chars, List.length_cons, List.length_append] at hlimit
      omega
    have hread := (Value.takes_members true gap rest members hmembers).map Value.object
    have hbrace : (Spelled.object gap members).chars ++ rest =
        '\x7b' :: (gap.chars ++ (membersChars true members ++ '\x7d' :: rest)) := by
      simp [Spelled.chars]
    rw [hbrace]
    exact hread

/-- The members of an object, from what stands before the first to the end of the object. -/
theorem Value.takes_members (first : Bool) (gap : Blanks) (rest : List Char) :
    (members : List (Member Spelled)) → {limit : Nat} →
      (membersChars first members).length < limit →
      Takes rest (membersValue? members)
        (Value.readMembers first (gap.chars ++ (membersChars first members ++ '\x7d' :: rest))
          limit)
  | members, 0, hlimit => absurd hlimit (Nat.not_lt_zero _)
  | [], limit + 1, _ => by
    rw [membersChars, List.nil_append, Value.readMembers, nextKey_brace]
    exact .taken []
  | ⟨before, name, between, ⟨start, v, after⟩⟩ :: members, limit + 1, hlimit => by
    have hv : v.chars.length < limit := by
      simp only [membersChars, List.length_cons, List.length_append] at hlimit
      omega
    have hmembers : (membersChars false members).length < limit := by
      simp only [membersChars, List.length_cons, List.length_append] at hlimit
      omega
    have hends := Ends.blanks after (Ends.members members rest)
    rw [Value.readMembers_member]
    refine (readText_literalChars name _).bind fun key => ?_
    dsimp only
    rw [Member.tail, readColon_blanks]
    show Takes rest _ ((Value.read (start.chars ++ (v.chars ++ _)) limit).bind _)
    rw [Value.read_blanks]
    exact (Value.takes_chars hends v hv).bind fun value =>
      (Value.takes_members false after rest members hmembers).map ((key, value) :: ·)

end

/-! ### What a text says -/

theorem Takes.eq {α : Type} {v? w? : Option α} {r : Reading (α × List Char)}
    (h : Takes rest v? r) (h' : Takes rest w? r) : v? = w? := by
  cases h <;> cases h' <;> rfl

theorem Spelled.takes_ofText {text : String} (x : Spelled) (h : x.chars = text.toList) :
    Takes [] x.value? (Value.read text.toList (text.toList.length + 1)) := by
  have hread := Value.takes_chars .nil x (Nat.lt_succ_self _)
  rwa [List.append_nil, h] at hread

/-- A text says a value: the grammar has it, whichever way it is spelled it denotes this value, and
so it is read. -/
structure Means (text : String) (v : Value) : Prop where
  spelled : ∃ x : Spelled, x.chars = text.toList
  denotes : ∀ x : Spelled, x.chars = text.toList → x.value? = some v
  read : Value.ofText text = .ok v

/-- One spelling of a text settles what it says. -/
theorem means_of_spelled {text : String} {v : Value} {x : Spelled} (h : x.chars = text.toList)
    (hv : x.value? = some v) : Means text v where
  spelled := ⟨x, h⟩
  denotes y hy := ((y.takes_ofText hy).eq (x.takes_ofText h)).trans hv
  read := by
    have hread := x.takes_ofText h
    rw [hv] at hread
    generalize hr : Value.read text.toList (text.toList.length + 1) = r at hread
    cases hread
    rw [Value.ofText, readAll, hr]
    rfl

theorem Means.unique {text : String} {v w : Value} (h : Means text v) (h' : Means text w) : v = w :=
  Except.ok.inj (h.read.symm.trans h'.read)

end FileTransfer.Json
