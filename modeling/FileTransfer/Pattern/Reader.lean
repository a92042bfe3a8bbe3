import FileTransfer.Pattern.Complaint
import FileTransfer.Pattern.Tree
import FileTransfer.Text.Blank

/-! Reading a pattern character by character. A reader stands before a character or at the end;
it can be told to pass over blanks and comments between the parts of a pattern. -/
namespace FileTransfer.Pattern

/-- Where a reader stands. -/
structure Cursor where
  rest : List Char
  place : Position := {}
  /-- Whether blanks and comments are passed over. -/
  loose : Bool := false
  /-- The names of groups that were read, and where. -/
  names : List (List Char × Span) := []

/-- Goes over blanks and comments. A comment goes from a hash to the end of its line. -/
def overBlanks (inComment : Bool) : List Char → Position → List Char × Position
  | [], p => ([], p)
  | c :: rest, p =>
    if inComment then overBlanks (c != '\n') rest (p.next c)
    else if Text.isBlank c then overBlanks false rest (p.next c)
    else if c = '#' then overBlanks true rest (p.next c)
    else (c :: rest, p)

namespace Cursor

/-- Past one character. -/
def bump (c : Cursor) : Cursor :=
  match c.rest with
  | [] => c
  | d :: rest => { c with rest, place := c.place.next d }

/-- Past blanks and comments, if they are to be passed over. -/
def skip (c : Cursor) : Cursor :=
  if c.loose then
    let (rest, place) := overBlanks false c.rest c.place
    { c with rest, place }
  else c

/-- The character after the one here and after blanks. A comment is taken for its first character
other than a blank. -/
def beyond? (c : Cursor) : Option Char :=
  let after := c.rest.drop 1
  if c.loose then
    let first := after.dropWhile Text.isBlank
    let first := if first.head? = some '#' then (first.drop 1).dropWhile Text.isBlank else first
    (first.head?).or after.head?
  else after.head?

/-- The stretch of the character here. -/
def charSpan (c : Cursor) : Span :=
  ⟨c.place, c.bump.place⟩

end Cursor

/-- Reads something, or complains. -/
abbrev Reader := StateT Cursor (Except Complaint)

namespace Reader

def fail {α : Type} (m : Mistake) (span : Span) (other : Option Span := none) : Reader α :=
  throw ⟨m, span, other⟩

/-- The character here. -/
def peek? : Reader (Option Char) := do
  return (← get).rest.head?

def isAtEnd : Reader Bool := do
  return (← get).rest.isEmpty

def place : Reader Position := do
  return (← get).place

def charSpan : Reader Span := do
  return (← get).charSpan

/-- The stretch from a place to here. -/
def since (start : Position) : Reader Span := do
  return ⟨start, (← get).place⟩

/-- Goes past one character. -/
def bump : Reader Unit :=
  modify Cursor.bump

/-- Goes past some characters. -/
def bumps : Nat → Reader Unit
  | 0 => return
  | n + 1 => do
    bump
    bumps n

/-- Goes past blanks, if they are to be passed over. -/
def skip : Reader Unit :=
  modify Cursor.skip

/-- Goes past one character and the blanks after it. -/
def advance : Reader Unit := do
  bump
  skip

/-- Goes past a word if it stands here. -/
def takes (word : String) : Reader Bool := do
  if word.toList.isPrefixOf (← get).rest then
    bumps word.length
    return true
  else return false

/-- Takes characters of a kind, at most so many, and passes over the blanks after each. -/
def takeUpTo (kind : Char → Bool) : Nat → Reader (List Char)
  | 0 => return []
  | n + 1 => do
    match ← peek? with
    | some c =>
      if kind c then
        advance
        return c :: (← takeUpTo kind n)
      else return []
    | none => return []

/-- Takes all characters of a kind, and passes over the blanks after each. -/
def takeAll (kind : Char → Bool) : Reader (List Char) := do
  takeUpTo kind (← get).rest.length

/-! ### Numbers -/

def isDigit (c : Char) : Bool :=
  '0' ≤ c && c ≤ '9'

/-- The value of decimal digits. -/
def numberOf (digits : List Char) : Nat :=
  digits.foldl (fun n c => n * 10 + (c.toNat - 48)) 0

/-- The largest number that a pattern may hold. -/
def maxNumber : Nat := 0xffffffff

/-- Reads a number between blanks, and gives it or what to complain of. -/
def number : Reader (Except Complaint Nat) := do
  modify fun c =>
    let blanks := c.rest.takeWhile Text.isBlank
    { c with rest := c.rest.drop blanks.length, place := blanks.foldl Position.next c.place }
  let start ← place
  let digits ← takeAll isDigit
  let span ← since start
  let _ ← takeAll Text.isBlank
  let n := numberOf digits
  if digits.isEmpty then return .error ⟨.countNoNumber, span, none⟩
  else if maxNumber < n then return .error ⟨.numberInvalid, span, none⟩
  else return .ok n

end Reader

end FileTransfer.Pattern
