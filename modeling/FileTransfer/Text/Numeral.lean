/-! Numbers as text: decimal for people, hexadecimal and octal for bytes and modes. -/
namespace FileTransfer.Text.Numeral

/-- Decimal digits, no leading zero. -/
def nat (n : Nat) : String :=
  String.ofList (Nat.toDigits 10 n)

/-- Decimal digits, after a minus sign for a negative number. -/
def int (n : Int) : String :=
  if n < 0 then "-" ++ nat n.natAbs else nat n.natAbs

/-- Lower-case hexadecimal digits, no leading zero. -/
def hex (n : Nat) : List Char :=
  Nat.toDigits 16 n

/-- A digit of either case from its value below sixteen. -/
def hexDigit (upper : Bool) (n : Nat) : Char :=
  if n < 10 then Char.ofNat (48 + n) else Char.ofNat ((if upper then 55 else 87) + n)

/-- A byte as two hexadecimal digits. -/
def hexByte (upper : Bool) (b : UInt8) : List Char :=
  [hexDigit upper (b.toNat / 16), hexDigit upper (b.toNat % 16)]

/-- Octal digits, at least three. -/
def octal (n : Nat) : String :=
  let digits := Nat.toDigits 8 n
  String.ofList (List.replicate (3 - digits.length) '0' ++ digits)

/-- The value of a hexadecimal digit of either case. -/
def hexValue? (c : Char) : Option Nat :=
  if '0' ≤ c ∧ c ≤ '9' then some (c.toNat - 48)
  else if 'a' ≤ c ∧ c ≤ 'f' then some (c.toNat - 87)
  else if 'A' ≤ c ∧ c ≤ 'F' then some (c.toNat - 55)
  else none

end FileTransfer.Text.Numeral
