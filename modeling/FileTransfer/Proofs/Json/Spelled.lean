import FileTransfer.Json.Shape

/-! JSON texts as the grammar makes them, and what they say.

A spelled value (`Spelled`) is a value with all that its text shows: the blanks between its parts,
the digits of its numbers, the escapes of its texts. Every value that the grammar allows is the text
of one (`Spelled.chars`). What a field of a record takes from it (`Kind.value?`) depends on what is
spelled: an integer is written without a fraction and an exponent, and a text must not break off
inside a surrogate pair. -/
namespace FileTransfer.Json

/-- Blanks between the parts of a value. -/
structure Blanks where
  chars : List Char
  blank : ∀ c ∈ chars, isBlank c = true

/-- Digits, at least one. -/
structure Digits where
  chars : List Char
  ne_nil : chars ≠ []
  digit : ∀ c ∈ chars, isDigit c = true

/-! ### Numbers -/

/-- The sign of an exponent. -/
inductive Sign where
  | bare
  | plus
  | minus

def Sign.chars : Sign → List Char
  | .bare => []
  | .plus => ['+']
  | .minus => ['-']

structure Exponent where
  mark : Char
  isMark : mark = 'e' ∨ mark = 'E'
  sign : Sign
  digits : Digits

def Exponent.chars (e : Exponent) : List Char :=
  e.mark :: (e.sign.chars ++ e.digits.chars)

/-- A number as it is spelled. A zero at its front stands alone. -/
structure Numeral where
  negative : Bool
  whole : Digits
  first : whole.chars.head? = some '0' → whole.chars = ['0']
  fraction : Option Digits
  exponent : Option Exponent

namespace Numeral

def fractionChars (n : Numeral) : List Char :=
  n.fraction.elim [] fun d => '.' :: d.chars

def exponentChars (n : Numeral) : List Char :=
  n.exponent.elim [] Exponent.chars

/-- A number after its sign. -/
def unsigned (n : Numeral) : List Char :=
  n.whole.chars ++ (n.fractionChars ++ n.exponentChars)

def chars (n : Numeral) : List Char :=
  (if n.negative then ['-'] else []) ++ n.unsigned

/-- The integer that is spelled by digits alone. Minus zero is none. -/
def integer? (n : Numeral) : Option Int :=
  if n.fraction.isSome || n.exponent.isSome then none
  else if !n.negative then some (Number.value n.whole.chars)
  else if Number.value n.whole.chars = 0 then none
  else some (-Number.value n.whole.chars)

end Numeral

/-! ### Texts -/

/-- The letters that stand for a character after a backslash. -/
def letterEscapes : List (Char × Char) :=
  [('"', '"'), ('\\', '\\'), ('/', '/'), ('b', '\x08'), ('f', '\x0c'), ('n', '\n'), ('r', '\r'),
    ('t', '\t')]

/-- A hexadecimal digit of either case. -/
structure HexDigit where
  char : Char
  value : Nat
  hasValue : Text.Numeral.hexValue? char = some value

/-- Four hexadecimal digits. -/
structure CodeUnit where
  first : HexDigit
  second : HexDigit
  third : HexDigit
  fourth : HexDigit

def CodeUnit.value (u : CodeUnit) : Nat :=
  ((u.first.value * 16 + u.second.value) * 16 + u.third.value) * 16 + u.fourth.value

/-- A part of a string literal: a character, or an escape. -/
inductive Piece where
  | plain (c : Char) (quote : c ≠ '"') (slash : c ≠ '\\') (control : 0x20 ≤ c.toNat)
  | letter (l c : Char) (known : (l, c) ∈ letterEscapes)
  | unit (u : CodeUnit)

def Piece.chars : Piece → List Char
  | .plain c _ _ _ => [c]
  | .letter l _ _ => ['\\', l]
  | .unit u => ['\\', 'u', u.first.char, u.second.char, u.third.char, u.fourth.char]

/-- A string literal, its opening quote apart. -/
def literalChars (pieces : List Piece) : List Char :=
  pieces.flatMap Piece.chars ++ ['"']

/-- The character of a surrogate pair. -/
def pairChar (lead trail : Nat) : Char :=
  Char.ofNat ((lead - 0xD800) * 0x400 + (trail - 0xDC00) + 0x10000)

/-- The characters that the parts of a string literal denote: the two halves of a surrogate pair
follow each other, and neither stands alone. -/
def characters? : List Piece → Option (List Char)
  | [] => some []
  | .plain c _ _ _ :: rest => (characters? rest).map (c :: ·)
  | .letter _ c _ :: rest => (characters? rest).map (c :: ·)
  | .unit u :: rest =>
    if Literal.isTrail u.value then none
    else if Literal.isLead u.value then
      match rest with
      | .unit v :: rest =>
        if Literal.isTrail v.value then (characters? rest).map (pairChar u.value v.value :: ·)
        else none
      | _ => none
    else (characters? rest).map (Char.ofNat u.value :: ·)

/-! ### Values -/

/-- Something with the blanks before and after it. -/
structure Padded (α : Type) where
  before : Blanks
  value : α
  after : Blanks

/-- A member of an object whose values are of some kind. -/
structure Member (α : Type) where
  before : Blanks
  name : List Piece
  gap : Blanks
  value : Padded α

/-- A value as it is spelled. The gap of a list or an object is what stands before its first part,
or between its brackets if it has none. -/
inductive Spelled where
  | null
  | bool (b : Bool)
  | number (n : Numeral)
  | text (pieces : List Piece)
  | list (gap : Blanks) (elements : List (Padded Spelled))
  | object (gap : Blanks) (members : List (Member Spelled))

/-- What stands between a part and the one before it. -/
def commaChars (first : Bool) : List Char :=
  if first then [] else [',']

mutual

/-- The text of a value. -/
def Spelled.chars : Spelled → List Char
  | .null => ['n', 'u', 'l', 'l']
  | .bool true => ['t', 'r', 'u', 'e']
  | .bool false => ['f', 'a', 'l', 's', 'e']
  | .number n => n.chars
  | .text pieces => '"' :: literalChars pieces
  | .list gap elements => '[' :: (gap.chars ++ (elementsChars true elements ++ [']']))
  | .object gap members => '\x7b' :: (gap.chars ++ (membersChars true members ++ ['\x7d']))

/-- The elements of a list, a comma between two. -/
def elementsChars (first : Bool) : List (Padded Spelled) → List Char
  | [] => []
  | ⟨before, v, after⟩ :: rest =>
    commaChars first ++ (before.chars ++ (v.chars ++ (after.chars ++ elementsChars false rest)))

/-- The members of an object, a comma between two. -/
def membersChars (first : Bool) : List (Member Spelled) → List Char
  | [] => []
  | ⟨before, name, gap, ⟨start, v, after⟩⟩ :: rest =>
    commaChars first ++ (before.chars ++ ('"' :: (literalChars name ++ (gap.chars ++ (':' ::
      (start.chars ++ (v.chars ++ (after.chars ++ membersChars false rest))))))))

end

/-- The 32-bit word that is an integer. -/
def wordOfInt? (i : Int) : Option UInt32 :=
  if 0 ≤ i ∧ i < 0x100000000 then some (UInt32.ofNat i.toNat) else none

/-- The 64-bit integer with a sign that is an integer. -/
def longOfInt? (i : Int) : Option Int64 :=
  if -0x8000000000000000 ≤ i ∧ i < 0x8000000000000000 then some (Int64.ofInt i) else none

/-- What a field takes from a value, if it is of the field's type and in its range. -/
def Kind.value? : (k : Kind) → Spelled → Option k.Value
  | .word, .number n => n.integer?.bind wordOfInt?
  | .long, .number n => n.integer?.bind longOfInt?
  | .text, .text pieces => (characters? pieces).map String.ofList
  | _, _ => none

/-! ### Reading a value -/

/-- The outcome of reading a value, if there is one: it is taken, and the rest is left. -/
inductive Takes {α : Type} (rest : List Char) : Option α → Reading (α × List Char) → Prop where
  | taken (v : α) : Takes rest (some v) (.ok (v, rest))
  | refused (e : Failure) : Takes rest none (.error e)

theorem Takes.of_error {α : Type} {rest : List Char} {v? : Option α} {r : Reading (α × List Char)}
    (hv : v? = none) (hr : ∃ e, r = .error e) : Takes rest v? r := by
  obtain ⟨e, rfl⟩ := hr
  exact hv ▸ .refused e

theorem Takes.map {α β : Type} {rest : List Char} {v? : Option α} {r : Reading (α × List Char)}
    (h : Takes rest v? r) (f : α → β) : Takes rest (v?.map f) (r.map fun x => (f x.1, x.2)) := by
  cases h with
  | taken v => exact .taken (f v)
  | refused e => exact .refused e

end FileTransfer.Json
