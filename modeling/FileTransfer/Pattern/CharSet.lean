/-! Sets of characters, as they are put together. The basic characters are those below 128, and
the basic letters are those among them. -/
namespace FileTransfer.Pattern

/-- A set of characters. -/
inductive CharSet where
  | none
  /-- The characters from one to another, both included. -/
  | range (first last : Char)
  | union (a b : CharSet)
  /-- What two sets share. -/
  | both (a b : CharSet)
  /-- What is in the first set only. -/
  | without (a b : CharSet)
  /-- What is in just one of two sets. -/
  | either (a b : CharSet)
  /-- All other characters. -/
  | others (a : CharSet)
  /-- The set with its basic letters in either case. -/
  | anyCase (a : CharSet)
  deriving DecidableEq, Repr

/-- A basic letter in its other case; any other character as it is. -/
def otherCase (c : Char) : Char :=
  if 'a' ≤ c ∧ c ≤ 'z' then Char.ofNat (c.toNat - 32)
  else if 'A' ≤ c ∧ c ≤ 'Z' then Char.ofNat (c.toNat + 32)
  else c

namespace CharSet

/-- Whether a character is in a set. -/
def has (c : Char) : CharSet → Bool
  | .none => false
  | .range first last => first ≤ c && c ≤ last
  | .union a b => a.has c || b.has c
  | .both a b => a.has c && b.has c
  | .without a b => a.has c && !b.has c
  | .either a b => a.has c != b.has c
  | .others a => !a.has c
  | .anyCase a => a.has c || a.has (otherCase c)

/-- A set of one character. -/
def single (c : Char) : CharSet :=
  .range c c

/-- All characters. -/
def all : CharSet :=
  .others .none

/-- A set of ranges. -/
def ofRanges : List (Char × Char) → CharSet
  | [] => .none
  | (first, last) :: rest => .union (.range first last) (ofRanges rest)

/-- Whether a set is seen to hold basic characters only. -/
def isBasic : CharSet → Bool
  | .none => true
  | .range _ last => last.toNat < 128
  | .union a b => a.isBasic && b.isBasic
  | .both a b => a.isBasic || b.isBasic
  | .without a _ => a.isBasic
  | .either a b => a.isBasic && b.isBasic
  | .others _ => false
  | .anyCase a => a.isBasic

end CharSet

end FileTransfer.Pattern
