import FileTransfer.Pattern.Span

/-! The parts of a pattern, as they are written, each with the stretch of text that it stands
on. -/
namespace FileTransfer.Pattern

/-- A character, as itself or by an escape. -/
structure Literal where
  span : Span
  char : Char
  /-- Whether it is written as a byte, by two hexadecimal digits. -/
  isByte : Bool := false
  deriving DecidableEq, Repr

/-- A class with a letter for a name. -/
inductive ShortClass where
  | digit
  | space
  | word
  deriving DecidableEq, Repr

/-- A class of basic characters, with a word for a name. -/
inductive NamedClass where
  | alnum
  | alpha
  | ascii
  | blank
  | cntrl
  | digit
  | graph
  | lower
  | print
  | punct
  | space
  | upper
  | word
  | xdigit
  deriving DecidableEq, Repr

/-- The word for each class of basic characters. -/
def NamedClass.names : List (String × NamedClass) :=
  [("alnum", .alnum), ("alpha", .alpha), ("ascii", .ascii), ("blank", .blank), ("cntrl", .cntrl),
    ("digit", .digit), ("graph", .graph), ("lower", .lower), ("print", .print),
    ("punct", .punct), ("space", .space), ("upper", .upper), ("word", .word),
    ("xdigit", .xdigit)]

/-- Something asked of a place between characters. -/
inductive Assertion where
  | lineStart
  | lineStop
  | textStart
  | textStop
  | boundary
  | noBoundary
  | wordStart
  | wordStop
  /-- No word comes before. -/
  | wordStartHalf
  /-- No word comes after. -/
  | wordStopHalf
  deriving DecidableEq, Repr

/-- The words for the places of a word. -/
def Assertion.names : List (String × Assertion) :=
  [("start", .wordStart), ("end", .wordStop), ("start-half", .wordStartHalf),
    ("end-half", .wordStopHalf)]

/-- A way of reading what follows. -/
inductive Flag where
  /-- Letters stand for those of either case. -/
  | anyCase
  /-- Lines have starts and stops of their own. -/
  | manyLines
  /-- The dot stands for a line end too. -/
  | dotAll
  /-- What takes as much as it can takes as little as it can. -/
  | swapGreed
  /-- Characters are those of all scripts. -/
  | unicode
  /-- A carriage return ends a line too. -/
  | returns
  /-- Blanks and comments are passed over. -/
  | loose
  deriving DecidableEq, Repr

/-- The letter of each way of reading. -/
def Flag.letters : List (Char × Flag) :=
  [('i', .anyCase), ('m', .manyLines), ('s', .dotAll), ('U', .swapGreed), ('u', .unicode),
    ('R', .returns), ('x', .loose)]

/-- Ways of reading that are set or unset. -/
abbrev FlagChanges := List (Flag × Bool)

/-- How two classes are put together. -/
inductive SetOp where
  | both
  | without
  | either
  deriving DecidableEq, Repr

/-- What stands in a class between brackets. -/
inductive ClassSet where
  | empty (span : Span)
  | literal (l : Literal)
  | range (span : Span) (first last : Literal)
  | named (span : Span) (kind : NamedClass) (negated : Bool)
  | short (span : Span) (kind : ShortClass) (negated : Bool)
  | property (span : Span) (name : List Char)
  | bracket (span : Span) (negated : Bool) (set : ClassSet)
  | union (span : Span) (parts : List ClassSet)
  | combine (span : Span) (op : SetOp) (left right : ClassSet)
  deriving Repr

def ClassSet.span : ClassSet → Span
  | .empty s => s
  | .literal l => l.span
  | .range s _ _ => s
  | .named s _ _ => s
  | .short s _ _ => s
  | .property s _ => s
  | .bracket s _ _ => s
  | .union s _ => s
  | .combine s _ _ _ => s

/-- Parts of a class as one, which starts at the given place if there are none. -/
def ClassSet.ofParts (start : Position) : List ClassSet → ClassSet
  | [] => .empty (.point start)
  | [part] => part
  | first :: rest => .union (first.span.across (rest.getLast?.getD first).span) (first :: rest)

/-- A pattern or a part of one. -/
inductive Tree where
  | empty (span : Span)
  | flags (span : Span) (changes : FlagChanges)
  | literal (l : Literal)
  | dot (span : Span)
  | assertion (span : Span) (kind : Assertion)
  | short (span : Span) (kind : ShortClass) (negated : Bool)
  | property (span : Span) (name : List Char)
  | bracket (span : Span) (negated : Bool) (set : ClassSet)
  | repetition (span : Span) (least : Nat) (most : Option Nat) (part : Tree)
  | group (span : Span) (changes : FlagChanges) (part : Tree)
  | concat (span : Span) (parts : List Tree)
  | alternation (span : Span) (parts : List Tree)
  deriving Repr

namespace Tree

def span : Tree → Span
  | .empty s => s
  | .flags s _ => s
  | .literal l => l.span
  | .dot s => s
  | .assertion s _ => s
  | .short s _ _ => s
  | .property s _ => s
  | .bracket s _ _ => s
  | .repetition s _ _ _ => s
  | .group s _ _ => s
  | .concat s _ => s
  | .alternation s _ => s

/-- Parts one after the other as one. -/
def ofParts (span : Span) : List Tree → Tree
  | [] => .empty span
  | [part] => part
  | parts => .concat span parts

/-- Whether something can be repeated: there is something, and it is not just a way of reading. -/
def isRepeatable : Tree → Bool
  | .empty _ => false
  | .flags _ _ => false
  | _ => true

end Tree

/-! ### Depth -/

mutual

/-- The first part of a class that lies too deep where only so many may stand in each other. -/
def ClassSet.tooDeep? (room : Nat) : ClassSet → Option Span
  | .bracket s _ set =>
    match room with
    | 0 => some s
    | room + 1 => set.tooDeep? room
  | .union s parts =>
    match room with
    | 0 => some s
    | room + 1 => ClassSet.anyTooDeep? room parts
  | .combine s _ left right =>
    match room with
    | 0 => some s
    | room + 1 => (left.tooDeep? room).or (right.tooDeep? room)
  | _ => none

def ClassSet.anyTooDeep? (room : Nat) : List ClassSet → Option Span
  | [] => none
  | part :: rest => (part.tooDeep? room).or (ClassSet.anyTooDeep? room rest)

end

mutual

/-- The first part that lies too deep where only so many may stand in each other. -/
def Tree.tooDeep? (room : Nat) : Tree → Option Span
  | .bracket s _ set =>
    match room with
    | 0 => some s
    | room + 1 => set.tooDeep? room
  | .repetition s _ _ part =>
    match room with
    | 0 => some s
    | room + 1 => part.tooDeep? room
  | .group s _ part =>
    match room with
    | 0 => some s
    | room + 1 => part.tooDeep? room
  | .concat s parts =>
    match room with
    | 0 => some s
    | room + 1 => Tree.anyTooDeep? room parts
  | .alternation s parts =>
    match room with
    | 0 => some s
    | room + 1 => Tree.anyTooDeep? room parts
  | _ => none

def Tree.anyTooDeep? (room : Nat) : List Tree → Option Span
  | [] => none
  | part :: rest => (part.tooDeep? room).or (Tree.anyTooDeep? room rest)

end

end FileTransfer.Pattern
