import FileTransfer.Pattern.Bracket
import FileTransfer.Text.Alphanumeric

/-! Reading groups and repetitions, and with them whole patterns. -/
namespace FileTransfer.Pattern.Reader

/-! ### Flags -/

/-- Reads ways of reading up to a colon or the closing bracket, at most so many characters. Those
after a minus sign are unset. What was read is given, last one first, and the minus sign. -/
def flagsUpTo (minus : Option Span) (lone : Bool) (found : List (Flag × Bool × Span)) :
    Nat → Reader FlagChanges
  | 0 => return found.reverse.map fun (flag, on, _) => (flag, on)
  | n + 1 => do
    match ← peek? with
    | none => fail .flagCutOff (.point (← place))
    | some c =>
      let span ← charSpan
      if c = ':' ∨ c = ')' then
        match minus, lone with
        | some dash, true => fail .flagDanglingNegation dash
        | _, _ => return found.reverse.map fun (flag, on, _) => (flag, on)
      else if c = '-' then
        if let some dash := minus then fail .flagNegatedTwice span (some dash)
        bump
        flagsUpTo (some span) true found n
      else
        let some flag := Flag.letters.lookup c | fail .flagUnknown span
        if let some (_, _, earlier) := found.find? fun (other, _, _) => other == flag then
          fail .flagDuplicate span (some earlier)
        bump
        flagsUpTo minus false ((flag, minus.isNone, span) :: found) n

/-- Reads ways of reading up to a colon or the closing bracket. -/
def flagChanges : Reader FlagChanges := do
  flagsUpTo none false [] ((← get).rest.length + 1)

/-! ### Groups -/

/-- Whether a character may stand in the name of a group. -/
def isNameChar (first : Bool) (c : Char) : Bool :=
  if first then c == '_' || (Text.alphanumeric.contains c && !isDigit c)
  else c == '_' || c == '.' || c == '[' || c == ']' || Text.alphanumeric.contains c

/-- Takes the characters of a name, at most so many. -/
def nameChars (first : Bool) : Nat → Reader (List Char)
  | 0 => return []
  | n + 1 => do
    match ← peek? with
    | none => return []
    | some c =>
      if c = '>' then return []
      if !isNameChar first c then fail .nameInvalid (← charSpan)
      bump
      return c :: (← nameChars false n)

/-- Reads the name of a group. No two groups have one name. -/
def groupName : Reader Unit := do
  let start ← place
  let name ← nameChars true (← get).rest.length
  let span ← since start
  if ← isAtEnd then fail .nameUnclosed (.point (← place))
  bump
  if name.isEmpty then fail .nameEmpty (.point start)
  match (← get).names.lookup name with
  | some earlier => fail .nameDuplicate span (some earlier)
  | none => modify fun c => { c with names := (name, span) :: c.names }

/-- How a bracket is to be read. -/
inductive Opening where
  /-- It only sets ways of reading. -/
  | flags (span : Span) (changes : FlagChanges)
  /-- A group with ways of reading of its own. -/
  | group (span : Span) (changes : FlagChanges)

/-- What opens a group that looks around, which no pattern may. -/
def lookAroundMarks : List String :=
  ["?=", "?!", "?<=", "?<!"]

/-- Reads an opening bracket and what belongs to it. -/
def opening : Reader Opening := do
  let span ← charSpan
  bump
  skip
  let inner ← place
  for mark in lookAroundMarks do
    if ← takes mark then fail .lookAround (← since span.start)
  if (← takes "?P<") || (← takes "?<") then
    groupName
    return .group span []
  else if ← takes "?" then
    if ← isAtEnd then fail .groupUnclosed span
    let changes ← flagChanges
    let closed := (← peek?) == some ')'
    bump
    if closed then
      if changes.isEmpty then fail .nothingRepeated (.point inner)
      return .flags (← since span.start) changes
    else return .group span changes
  else return .group span []

/-! ### Repetitions -/

/-- Goes past a mark that asks for as little as possible, which does not change what matches. -/
def lazyMark : Reader Unit := do
  if (← peek?) == some '?' then bump

/-- Takes the last part that was read, which is to be repeated. -/
def repeated (parts : List Tree) : Reader (Tree × List Tree) := do
  match parts with
  | part :: before =>
    if part.isRepeatable then return (part, before)
    else fail .nothingRepeated (.point (← place))
  | [] => fail .nothingRepeated (.point (← place))

/-- A part repeated, up to here. -/
def repetition (least : Nat) (most : Option Nat) (part : Tree) : Reader Tree := do
  return .repetition (← since part.span.start) least most part

/-- Reads the mark for a repetition, with the parts before it. -/
def markedRepetition (least : Nat) (most : Option Nat) (parts : List Tree) :
    Reader (List Tree) := do
  let (part, before) ← repeated parts
  bump
  lazyMark
  return (← repetition least most part) :: before

/-- Reads how often something is repeated, after the opening brace at the start. -/
def counts (start : Position) : Reader (Nat × Option Nat) := do
  if ← isAtEnd then fail .countUnclosed (← since start)
  let least ← number
  if ← isAtEnd then fail .countUnclosed (← since start)
  if (← peek?) == some ',' then
    advance
    if ← isAtEnd then fail .countUnclosed (← since start)
    if (← peek?) == some '\x7d' then return (← least, none)
    else
      let least ← least
      let most ← number
      let most ← most
      if ← isAtEnd then fail .countUnclosed (← since start)
      return (least, some most)
  else
    let n ← least
    return (n, some n)

/-- Reads a repetition with numbers, with the parts before it. -/
def countedRepetition (parts : List Tree) : Reader (List Tree) := do
  let start ← place
  let (part, before) ← repeated parts
  advance
  let (least, most) ← counts start
  if (← peek?) != some '\x7d' then fail .countUnclosed (← since start)
  advance
  lazyMark
  if most.any (· < least) then fail .countInvalid (← since start)
  return (← repetition least most part) :: before

/-! ### Whole patterns -/

/-- Reads a part that is a single character or an escape. -/
def primitive (c : Char) : Reader Tree := do
  if c = '\\' then escape
  else
    let span ← charSpan
    bump
    return match c with
      | '.' => .dot span
      | '^' => .assertion span .lineStart
      | '$' => .assertion span .lineStop
      | _ => .literal { span, char := c }

/-- Sets whether blanks are passed over, if some changes say so. -/
def loosen (changes : FlagChanges) : Reader Unit :=
  modify fun c => { c with loose := (changes.lookup .loose).getD c.loose }

mutual

/-- Reads alternatives up to a closing bracket or the end, given fuel for two calls a character. -/
def alternatives (fuel : Nat) : Reader Tree :=
  match fuel with
  | 0 => return .empty (.point (← place))
  | fuel + 1 => do
    let start ← place
    let first ← parts fuel start []
    moreAlternatives fuel start [first]

/-- Reads more alternatives after those that were read, last one first. -/
def moreAlternatives (fuel : Nat) (start : Position) (before : List Tree) : Reader Tree :=
  match fuel, before with
  | 0, _ => return .alternation (← since start) before.reverse
  | fuel + 1, _ => do
    if (← peek?) == some '|' then
      bump
      let next ← parts fuel (← place) []
      moreAlternatives fuel start (next :: before)
    else match before with
      | [only] => return only
      | _ => return .alternation (← since start) before.reverse

/-- Reads parts one after the other, after those that were read, last one first. -/
def parts (fuel : Nat) (start : Position) (before : List Tree) : Reader Tree :=
  match fuel with
  | 0 => return .ofParts (← since start) before.reverse
  | fuel + 1 => do
    skip
    let finish := do return Tree.ofParts (← since start) before.reverse
    match ← peek? with
    | none => finish
    | some '|' => finish
    | some ')' => finish
    | some '(' => do
      match ← opening with
      | .flags span changes => do
        loosen changes
        parts fuel start (.flags span changes :: before)
      | .group span changes => do
        let loose := (← get).loose
        loosen changes
        let inner ← alternatives fuel
        modify fun c => { c with loose }
        if ← isAtEnd then fail .groupUnclosed span
        bump
        parts fuel start (.group (← since span.start) changes inner :: before)
    | some '[' => do parts fuel start ((← bracket) :: before)
    | some '?' => do parts fuel start (← markedRepetition 0 (some 1) before)
    | some '*' => do parts fuel start (← markedRepetition 0 none before)
    | some '+' => do parts fuel start (← markedRepetition 1 none before)
    | some '\x7b' => do parts fuel start (← countedRepetition before)
    | some c => do parts fuel start ((← primitive c) :: before)

end

/-- Reads a pattern to its end. -/
def pattern : Reader Tree := do
  let tree ← alternatives (2 * (← get).rest.length + 2)
  if !(← isAtEnd) then fail .groupUnopened (← charSpan)
  match tree.tooDeep? maxDepth with
  | some span => fail .tooDeep span
  | none => return tree

end FileTransfer.Pattern.Reader

namespace FileTransfer.Pattern

/-- The parts of a pattern, or what is wrong with it. -/
def Tree.ofText (s : String) : Except Complaint Tree :=
  Reader.pattern.run' { rest := s.toList }

end FileTransfer.Pattern
