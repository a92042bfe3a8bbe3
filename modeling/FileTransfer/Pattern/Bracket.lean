import FileTransfer.Pattern.Escape

/-! Reading classes between brackets: characters, ranges, classes with names, classes in classes,
and operations between them. -/
namespace FileTransfer.Pattern.Reader

/-- The class with a word for a name that stands at the front of a text between brackets and
colons, and its length. -/
def namedClass? (s : List Char) : Option (NamedClass × Bool × Nat) :=
  match s with
  | '[' :: ':' :: after =>
    let negated := after.head? == some '^'
    let body := if negated then after.drop 1 else after
    let name := body.takeWhile (· != ':')
    let closed := [':', ']'].isPrefixOf (body.drop name.length)
    match NamedClass.names.lookup (String.ofList name) with
    | some kind =>
      if closed then some (kind, negated, name.length + (if negated then 5 else 4)) else none
    | none => none
  | _ => none

/-- Reads a character or an escape in a class. -/
def classItem : Reader Tree := do
  match ← peek? with
  | some '\\' => escape
  | c =>
    let span ← charSpan
    bump
    return .literal { span, char := c.getD ' ' }

/-- A part of a pattern as a part of a class. -/
def asClassPart : Tree → Reader ClassSet
  | .literal l => return .literal l
  | .short s kind negated => return .short s kind negated
  | .property s name => return .property s name
  | other => fail .classEscape other.span

/-- A part of a pattern as an end of a range. -/
def asBound : Tree → Reader Literal
  | .literal l => return l
  | other => fail .classRangeBound other.span

/-- Reads a character or a range of a class that starts with the given stretch. A dash before the
closing bracket or before another dash makes no range. -/
def classRange (opening : Span) : Reader ClassSet := do
  let first ← classItem
  skip
  let here ← get
  if here.rest.isEmpty then fail .classUnclosed opening
  if here.rest.head? != some '-' || here.beyond? == some ']' || here.beyond? == some '-' then
    asClassPart first
  else
    advance
    if ← isAtEnd then fail .classUnclosed opening
    let last ← classItem
    let span := first.span.across last.span
    let a ← asBound first
    let b ← asBound last
    if b.char < a.char then fail .classRangeInvalid span
    return .range span a b

/-- How a class begins. -/
structure ClassStart where
  start : Position
  negated : Bool
  /-- Where its first part is expected. -/
  inner : Position
  /-- The dashes, or the bracket, that stand for themselves at its start. -/
  parts : List ClassSet
  /-- All that was read. -/
  opening : Span

/-- Takes the dashes at the start of a class, at most so many. -/
def leadingDashes (start : Position) : Nat → Reader (List ClassSet)
  | 0 => return []
  | n + 1 => do
    if (← peek?) != some '-' then return []
    let dash := ClassSet.literal { span := ← charSpan, char := '-' }
    advance
    if ← isAtEnd then fail .classUnclosed (.point start)
    return dash :: (← leadingDashes start n)

/-- Reads the opening bracket of a class and what has a meaning of its own right after it. -/
def classStart : Reader ClassStart := do
  let start ← place
  advance
  if ← isAtEnd then fail .classUnclosed (← since start)
  let negated := (← peek?) == some '^'
  if negated then
    advance
    if ← isAtEnd then fail .classUnclosed (← since start)
  let inner ← place
  let dashes ← leadingDashes start (← get).rest.length
  let mut parts := dashes
  if dashes.isEmpty && (← peek?) == some ']' then
    parts := [.literal { span := ← charSpan, char := ']' }]
    advance
    if ← isAtEnd then fail .classUnclosed (← since start)
  return { start, negated, inner, parts, opening := ← since start }

/-- What stands before an operation, and the operation. -/
abbrev Pending := Option (SetOp × ClassSet)

/-- Puts a class to what is pending. -/
def settle (pending : Pending) (right : ClassSet) : ClassSet :=
  match pending with
  | none => right
  | some (op, left) => .combine (left.span.across right.span) op left right

/-- The operation that is written by a character twice. -/
def setOps : List (Char × SetOp) :=
  [('&', .both), ('-', .without), ('~', .either)]

/-- The operation that stands here. -/
def setOp? : Reader (Option SetOp) := do
  match (← get).rest with
  | c :: d :: _ => return if c = d then setOps.lookup c else none
  | _ => return none

mutual

/-- Reads a class, given fuel for two calls a character. -/
def classAt (fuel : Nat) : Reader (Span × Bool × ClassSet) :=
  match fuel with
  | 0 => fail .classUnclosed default
  | fuel + 1 => do
    let head ← classStart
    let set ← classRest fuel head.opening none head.inner head.parts.reverse
    return (← since head.start, head.negated, set)

/-- Reads the rest of a class, up to its closing bracket: what is pending before it is given, and
where its parts started, and those that were read, last one first. -/
def classRest (fuel : Nat) (opening : Span) (pending : Pending) (start : Position)
    (parts : List ClassSet) : Reader ClassSet :=
  match fuel with
  | 0 => fail .classUnclosed opening
  | fuel + 1 => do
    skip
    let here ← get
    let all := settle pending (.ofParts start parts.reverse)
    match here.rest.head? with
    | none => fail .classUnclosed opening
    | some ']' => do
      bump
      return all
    | some '[' => do
      match namedClass? here.rest with
      | some (kind, negated, length) => do
        bumps length
        classRest fuel opening pending start (.named (← since here.place) kind negated :: parts)
      | none => do
        let (span, negated, set) ← classAt fuel
        classRest fuel opening pending start (.bracket span negated set :: parts)
    | some _ => do
      match ← setOp? with
      | some op => do
        bumps 2
        classRest fuel opening (some (op, all)) (← place) []
      | none => do
        let part ← classRange opening
        classRest fuel opening pending start (part :: parts)

end

/-- Reads a class. -/
def bracket : Reader Tree := do
  let (span, negated, set) ← classAt (2 * (← get).rest.length + 2)
  return .bracket span negated set

end FileTransfer.Pattern.Reader
