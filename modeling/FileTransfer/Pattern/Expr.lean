import FileTransfer.Pattern.CharSet

/-! What a pattern asks for, and the search for it. Where a part of a text may end is kept as a
row of marks, one for each place of the text; an expression turns the marks at which it may start
into those at which it may end. -/
namespace FileTransfer.Pattern

/-- Something asked of a place between characters. -/
inductive Look where
  | textStart
  | textStop
  | lineStart
  | lineStop
  /-- As the start of a line, where a carriage return ends a line too. -/
  | returnStart
  /-- As the stop of a line, where a carriage return ends a line too. -/
  | returnStop
  /-- A word comes before or after, but not both. -/
  | boundary
  | noBoundary
  | wordStart
  | wordStop
  | wordStartHalf
  | wordStopHalf
  /-- A place that has to do with words of all scripts, which are not known here. -/
  | anyScript
  deriving DecidableEq, Repr

/-- What a pattern asks for. -/
inductive Expr where
  | empty
  | oneOf (set : CharSet)
  | look (l : Look)
  | seq (a b : Expr)
  | alt (a b : Expr)
  /-- At least and at most so many in a row. -/
  | many (least : Nat) (most : Option Nat) (part : Expr)
  deriving DecidableEq, Repr

/-- A place of a text: the characters before and after it. -/
structure Spot where
  before : Option Char
  after : Option Char
  deriving DecidableEq, Repr

namespace Spot

/-- The places of a text after a character. -/
def ofText (before : Option Char) : List Char → List Spot
  | [] => [⟨before, none⟩]
  | c :: rest => ⟨before, some c⟩ :: ofText (some c) rest

/-- Whether a basic character belongs to a word. -/
def isWord (c : Char) : Bool :=
  c.isAlphanum || c == '_'

end Spot

/-- Whether a place is as asked. -/
def Look.holds (s : Spot) (l : Look) : Bool :=
  let word := s.before.any Spot.isWord
  let next := s.after.any Spot.isWord
  match l with
  | .textStart => s.before.isNone
  | .textStop => s.after.isNone
  | .lineStart => s.before.all (· == '\n')
  | .lineStop => s.after.all (· == '\n')
  | .returnStart =>
    s.before.all (· == '\n') || (s.before == some '\r' && s.after != some '\n')
  | .returnStop =>
    s.after.all (· == '\r') || (s.after == some '\n' && s.before != some '\r')
  | .boundary => word != next
  | .noBoundary => word == next
  | .wordStart => !word && next
  | .wordStop => word && !next
  | .wordStartHalf => !word
  | .wordStopHalf => !next
  | .anyScript => false

/-- A mark for each place of a text. -/
abbrev Marks := List Bool

namespace Marks

/-- The marks of two rows. -/
def join (a b : Marks) : Marks :=
  List.zipWith or a b

/-- Those marks at which something holds. -/
def keep (f : Spot → Bool) (spots : List Spot) (m : Marks) : Marks :=
  List.zipWith (fun s b => b && f s) spots m

/-- The marks moved past one character of a set. -/
def move (set : CharSet) (text : List Char) (m : Marks) : Marks :=
  false :: List.zipWith (fun c b => b && set.has c) text m

/-- The marks after exactly so many steps. A row that stays as it is goes on to do so. -/
def times (f : Marks → Marks) : Nat → Marks → Marks
  | 0, m => m
  | n + 1, m =>
    let next := f m
    if next = m then m else times f n next

/-- The marks after at most so many steps. -/
def upTo (f : Marks → Marks) : Nat → Marks → Marks
  | 0, m => m
  | n + 1, m =>
    let next := join m (f m)
    if next = m then m else upTo f n next

end Marks

namespace Expr

/-- The marks at which an expression may end, from those at which it may start. As every step
adds a mark or is the last one, no more steps than there are marks are taken where their number
is not limited. -/
def ends (text : List Char) (spots : List Spot) : Expr → Marks → Marks
  | .empty, m => m
  | .oneOf set, m => Marks.move set text m
  | .look l, m => Marks.keep (fun s => l.holds s) spots m
  | .seq a b, m => ends text spots b (ends text spots a m)
  | .alt a b, m => Marks.join (ends text spots a m) (ends text spots b m)
  | .many least most part, m =>
    Marks.upTo (ends text spots part) ((most.map (· - least)).getD spots.length)
      (Marks.times (ends text spots part) least m)

/-- Whether an expression is found anywhere in a text. -/
def occursIn (e : Expr) (text : List Char) : Bool :=
  let spots := Spot.ofText none text
  (e.ends text spots (List.replicate spots.length true)).contains true

/-- Whether an expression asks for words of all scripts. -/
def asksAnyScript : Expr → Bool
  | .look l => l == .anyScript
  | .seq a b => a.asksAnyScript || b.asksAnyScript
  | .alt a b => a.asksAnyScript || b.asksAnyScript
  | .many _ _ part => part.asksAnyScript
  | _ => false

/-- An expression for parts in a row. -/
def ofList : List Expr → Expr
  | [] => .empty
  | [e] => e
  | e :: rest => .seq e (ofList rest)

/-- A part repeated. Without any repetition it asks for nothing. -/
def repeated (least : Nat) (most : Option Nat) (part : Expr) : Expr :=
  if most = some 0 then .empty else .many least most part

/-! ### Size -/

/-- How much room a set takes in a compiled pattern: a step for each byte of a single character,
a table for basic characters, several tables for others. -/
def setSize (set : CharSet) : Nat :=
  match set with
  | .range first last =>
    if first = last then 32 * first.utf8Size else if set.isBasic then 72 else 424
  | _ => if set.isBasic then 72 else 424

/-- About how much room an expression takes in a compiled pattern, in bytes. Repetitions are
written out. -/
def size : Expr → Nat
  | .empty => 32
  | .oneOf set => setSize set
  | .look _ => 32
  | .seq a b => a.size + b.size
  | .alt a b => a.size + b.size + 40
  | .many least most part =>
    match most with
    | none => max least 1 * part.size + 40
    | some n => n * part.size + (n - least) * 40 + 32

/-- The room that a compiled pattern may take. -/
def maxSize : Nat := 10 * 1024 * 1024

end Expr

end FileTransfer.Pattern
