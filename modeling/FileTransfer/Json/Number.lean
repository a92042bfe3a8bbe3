import FileTransfer.Json.Failure

/-! Numbers of JSON. Digits are gathered into a 64-bit word as long as they fit; a number with
more of them, a point or an exponent becomes a floating-point number, made from the word by one
multiplication or division with a power of ten. -/
namespace FileTransfer.Json

def isDigit (c : Char) : Bool :=
  decide ('0' ≤ c) && decide (c ≤ '9')

def digitValue (c : Char) : Nat :=
  c.toNat - '0'.toNat

/-- Whether a text goes on with an exponent. -/
def isExponentMark (c : Char) : Bool :=
  c == 'e' || c == 'E'

namespace Number

/-- The largest word. -/
def wordMax : Nat := 0xffffffffffffffff

/-- The largest exponent that is looked at. -/
def exponentMax : Nat := 0x7fffffff

/-- Digits taken into a word while they fit, and those left over. -/
def absorb (word : Nat) : List Char → Nat × List Char
  | [] => (word, [])
  | c :: rest =>
    let next := word * 10 + digitValue c
    if next ≤ wordMax then absorb next rest else (word, c :: rest)

/-- The value of a text of digits. -/
def value (digits : List Char) : Nat :=
  digits.foldl (fun n c => n * 10 + digitValue c) 0

/-- A power of ten up to the largest that a floating-point number can be. -/
def powerOfTen (n : Nat) : Float :=
  Float.ofScientific 1 false n

/-- Makes very small numbers smaller in steps, until the exponent is one that can be divided by. -/
def shrink (x : Float) (e : Int) : Nat → Float × Int
  | 0 => (x, e)
  | steps + 1 =>
    if -308 ≤ e || x == 0 then (x, e) else shrink (x / powerOfTen 308) (e + 308) steps

/-- A word times a power of ten, or nothing if that is too large. -/
def scale? (word : Nat) (e : Int) : Option Float :=
  let x := word.toUInt64.toFloat
  if 0 ≤ e then
    if x == 0 then some x
    else if e ≤ 308 then
      let y := x * powerOfTen e.toNat
      if y.isInf then none else some y
    else none
  else
    let (y, left) := shrink x e 8
    if y == 0 then some y else some (y / powerOfTen (-left).toNat)

/-- A floating-point number from its sign, its word and its exponent. -/
def ofParts (negative : Bool) (word : Nat) (e : Int) : Reading Number :=
  match scale? word e with
  | none => .error .malformed
  | some x => .ok (.float (if negative then -x else x))

/-- An integer from its sign and its word. Minus zero, and what lies below the least word with a
sign, is a floating-point number. -/
def ofWord (negative : Bool) (word : Nat) : Number :=
  if !negative then .natural word
  else if word = 0 ∨ 0x8000000000000000 < word then .float (-word.toUInt64.toFloat)
  else .negative (-word)

/-- Keeps an exponent within 32 bits. -/
def clamp (e : Int) : Int :=
  max (-0x80000000) (min 0x7fffffff e)

/-- A number and what follows it. -/
def done (n : Reading Number) (rest : List Char) : Reading (Number × List Char) :=
  match n with
  | .error e => .error e
  | .ok x => .ok (x, rest)

/-- Reads an exponent after its mark. -/
def readExponent (negative : Bool) (word : Nat) (e : Int) (s : List Char) : Reading (Number × List Char) :=
  let (down, t) := match s with
    | '+' :: rest => (false, rest)
    | '-' :: rest => (true, rest)
    | s => (false, s)
  match t with
  | [] => .error .cutOff
  | c :: _ =>
    if !isDigit c then .error .malformed
    else
      let n := value (t.takeWhile isDigit)
      let rest := t.dropWhile isDigit
      if n ≤ exponentMax then
        done (ofParts negative word (clamp (if down then e - n else e + n))) rest
      else if down ∨ word = 0 then .ok (.float (if negative then -0.0 else 0.0), rest)
      else .error .malformed

/-- Reads an exponent if there is one. -/
def readScale (negative : Bool) (word : Nat) (e : Int) (s : List Char) : Reading (Number × List Char) :=
  match s with
  | [] => done (ofParts negative word e) []
  | c :: rest =>
    if isExponentMark c then readExponent negative word e rest
    else done (ofParts negative word e) (c :: rest)

/-- Reads the digits after a point. Those that no longer fit are dropped. -/
def readFraction (negative : Bool) (word : Nat) (e : Int) (s : List Char) : Reading (Number × List Char) :=
  let digits := s.takeWhile isDigit
  let rest := s.dropWhile isDigit
  if digits.isEmpty then .error (if rest.isEmpty then .cutOff else .malformed)
  else
    let (more, left) := absorb word digits
    readScale negative more (e - (digits.length - left.length : Nat)) rest

/-- Reads what may follow the digits of an integer. -/
def readTail (negative : Bool) (word : Nat) (s : List Char) : Reading (Number × List Char) :=
  match s with
  | [] => .ok (ofWord negative word, [])
  | c :: rest =>
    if c = '.' then readFraction negative word 0 rest
    else if isExponentMark c then readExponent negative word 0 rest
    else .ok (ofWord negative word, c :: rest)

/-- Reads what may follow digits of which some did not fit. -/
def readLongTail (negative : Bool) (word extra : Nat) (s : List Char) : Reading (Number × List Char) :=
  match s with
  | '.' :: rest => readFraction negative word extra rest
  | s => readScale negative word extra s

/-- Reads a number after its sign. A leading zero stands alone. -/
def read (negative : Bool) (s : List Char) : Reading (Number × List Char) :=
  match s with
  | [] => .error .cutOff
  | c :: rest =>
    if c = '0' then
      if (rest.head?.map isDigit).getD false then .error .malformed
      else readTail negative 0 rest
    else if isDigit c then
      let (word, left) := absorb 0 (s.takeWhile isDigit)
      let after := s.dropWhile isDigit
      if left.isEmpty then readTail negative word after
      else readLongTail negative word left.length after
    else .error .malformed

end Number

end FileTransfer.Json
