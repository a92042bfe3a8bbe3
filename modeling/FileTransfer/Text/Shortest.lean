import FileTransfer.Text.Numeral

/-! The shortest decimal that reads back as a binary floating-point number. A positive double is
`m * 2 ^ q`; the reals that round to it form an interval around it. Grids of ever more decimal
digits are tried: the first one with a point in the interval gives the decimal, the nearer of two
such points, the even one if both are equally near. -/
namespace FileTransfer.Text

/-- A positive decimal: the digits as a number, times a power of ten. -/
structure Decimal where
  digits : Nat
  exponent : Int
  deriving DecidableEq, Repr

/-- A positive rational. -/
structure Ratio where
  num : Nat
  den : Nat

namespace Ratio

/-- A natural number times a power of two. -/
def ofBinary (n : Nat) (q : Int) : Ratio :=
  if 0 ≤ q then ⟨n * Nat.pow 2 q.toNat, 1⟩ else ⟨n, Nat.pow 2 (-q).toNat⟩

/-- A natural number times a power of ten. -/
def ofDecimal (n : Nat) (e : Int) : Ratio :=
  if 0 ≤ e then ⟨n * Nat.pow 10 e.toNat, 1⟩ else ⟨n, Nat.pow 10 (-e).toNat⟩

def lt (a b : Ratio) : Bool :=
  decide (a.num * b.den < b.num * a.den)

def le (a b : Ratio) : Bool :=
  decide (a.num * b.den ≤ b.num * a.den)

/-- How far two numbers lie apart. -/
def dist (a b : Ratio) : Ratio :=
  if a.le b then ⟨b.num * a.den - a.num * b.den, a.den * b.den⟩
  else ⟨a.num * b.den - b.num * a.den, a.den * b.den⟩

/-- The exponent of the largest power of ten that is not larger than the number. -/
def magnitude (a : Ratio) : Int :=
  if a.den ≤ a.num then (Nat.toDigits 10 (a.num / a.den)).length - 1
  else
    let places := (Nat.toDigits 10 (a.den / a.num)).length
    if a.den ≤ a.num * Nat.pow 10 (places - 1) then 1 - places else -places

/-- The number as a count of `10 ^ e`, rounded down. -/
def count (a : Ratio) (e : Int) : Nat :=
  if 0 ≤ e then a.num / (a.den * Nat.pow 10 e.toNat)
  else a.num * Nat.pow 10 (-e).toNat / a.den

end Ratio

/-- A positive double: `m * 2 ^ q`, with less room below it where the spacing changes. -/
structure Binary where
  m : Nat
  q : Int
  narrowBelow : Bool
  deriving DecidableEq, Repr

namespace Binary

/-- The magnitude of a finite double, by its bits without the sign. Zero has none. -/
def ofBits? (bits : Nat) : Option Binary :=
  let fraction : Nat := bits % Nat.pow 2 52
  let exponent : Nat := bits / Nat.pow 2 52 % Nat.pow 2 11
  if exponent = 0 then
    if fraction = 0 then none else some ⟨fraction, -1074, false⟩
  else
    some ⟨fraction + Nat.pow 2 52, (exponent : Int) - 1075,
      fraction == 0 && decide (1 < exponent)⟩

def value (b : Binary) : Ratio :=
  .ofBinary b.m b.q

/-- Half way to the next double. -/
def upper (b : Binary) : Ratio :=
  .ofBinary (2 * b.m + 1) (b.q - 1)

/-- Half way to the double before. -/
def lower (b : Binary) : Ratio :=
  if b.narrowBelow then .ofBinary (4 * b.m - 1) (b.q - 2) else .ofBinary (2 * b.m - 1) (b.q - 1)

/-- Whether a number rounds to this double. The ends of the interval do so if `m` is even. -/
def contains (b : Binary) (x : Ratio) : Bool :=
  if b.m % 2 = 0 then b.lower.le x && x.le b.upper else b.lower.lt x && x.lt b.upper

/-- The decimal with the given unit that rounds to the double and is nearest to it. -/
def onGrid? (b : Binary) (e : Int) : Option Decimal :=
  let below := b.value.count e
  let above := below + 1
  let low := Ratio.ofDecimal below e
  let high := Ratio.ofDecimal above e
  let lowFits := decide (0 < below) && b.contains low
  if lowFits && b.contains high then
    let down := b.value.dist low
    let up := b.value.dist high
    if down.lt up || (down.le up && below % 2 == 0) then some ⟨below, e⟩ else some ⟨above, e⟩
  else if lowFits then some ⟨below, e⟩
  else if b.contains high then some ⟨above, e⟩
  else none

/-- The decimal on the first of several grids that has one. -/
def shortestFrom (b : Binary) (e : Int) : Nat → Option Decimal
  | 0 => none
  | tries + 1 => (b.onGrid? e).or (shortestFrom b (e - 1) tries)

/-- The shortest decimal of a double. Seventeen digits always suffice. -/
def shortest (b : Binary) : Decimal :=
  (b.shortestFrom b.value.magnitude 17).getD ⟨b.m, b.q⟩

end Binary

/-- The digits of a decimal without the zeros at its end, and the exponent of its first digit. -/
def Decimal.scientific (d : Decimal) : List Char × Int :=
  let all := Nat.toDigits 10 d.digits
  ((all.reverse.dropWhile (· == '0')).reverse, d.exponent + all.length - 1)

/-- How floating-point numbers are written: the exponents of the first digit between which no
exponent is written. -/
structure FloatStyle where
  least : Int
  most : Int

namespace FloatStyle

/-- Digits laid out by the exponent of the first one. A positional number always has a point and
a digit after it; a scientific one has a point if there is more than one digit, and its exponent
always has a sign. -/
def layout (style : FloatStyle) (digits : List Char) (e : Int) : List Char :=
  if style.least ≤ e ∧ e ≤ style.most then
    if e < 0 then '0' :: '.' :: (List.replicate ((-e).toNat - 1) '0' ++ digits)
    else
      let whole := e.toNat + 1
      let fraction := digits.drop whole
      digits.take whole ++ List.replicate (whole - digits.length) '0' ++ ['.'] ++
        (if fraction.isEmpty then ['0'] else fraction)
  else
    let mantissa := match digits with
      | first :: second :: rest => first :: '.' :: second :: rest
      | short => short
    mantissa ++ ['e', if e < 0 then '-' else '+'] ++ Nat.toDigits 10 e.natAbs

/-- The text of a finite double. -/
def text (style : FloatStyle) (x : Float) : String :=
  let bits := x.toBits.toNat
  let sign := if 0x8000000000000000 ≤ bits then ['-'] else []
  match Binary.ofBits? (bits % 0x8000000000000000) with
  | none => String.ofList (sign ++ ['0', '.', '0'])
  | some b =>
    let (digits, e) := b.shortest.scientific
    String.ofList (sign ++ style.layout digits e)

end FloatStyle

end FileTransfer.Text
