/-! Places in the text of a pattern, and the stretches between them. Lines and columns are counted
from one, as a reader of the text would. -/
namespace FileTransfer.Pattern

/-- A place before a character of a text, or at its end. -/
structure Position where
  /-- The number of characters before it. -/
  offset : Nat := 0
  line : Nat := 1
  column : Nat := 1
  deriving DecidableEq, Repr, Inhabited

namespace Position

/-- The place after a character. -/
def next (p : Position) (c : Char) : Position :=
  if c = '\n' then ⟨p.offset + 1, p.line + 1, 1⟩ else ⟨p.offset + 1, p.line, p.column + 1⟩

end Position

/-- A stretch of a text. -/
structure Span where
  start : Position
  stop : Position
  deriving DecidableEq, Repr, Inhabited

namespace Span

/-- A stretch of no length. -/
def point (p : Position) : Span := ⟨p, p⟩

/-- From where one stretch starts to where another one stops. -/
def across (a b : Span) : Span := ⟨a.start, b.stop⟩

/-- Whether a stretch lies on one line. -/
def isOneLine (s : Span) : Bool :=
  s.start.line == s.stop.line

/-- Whether a stretch starts first or, where both start, stops first. -/
def precedes (a b : Span) : Bool :=
  a.start.offset < b.start.offset ||
    (a.start.offset == b.start.offset && a.stop.offset ≤ b.stop.offset)

end Span

end FileTransfer.Pattern
