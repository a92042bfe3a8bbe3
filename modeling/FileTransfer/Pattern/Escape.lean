import FileTransfer.Pattern.Reader

/-! Reading escapes: a backslash, and what is meant by the characters after it. -/
namespace FileTransfer.Pattern.Reader

/-- The characters that mean something in a pattern. -/
def metaChars : List Char :=
  ['\\', '.', '+', '*', '?', '(', ')', '|', '[', ']', '\x7b', '\x7d', '^', '$', '#', '&', '-', '~']

def isBasicLetter (c : Char) : Bool :=
  ('a' ≤ c && c ≤ 'z') || ('A' ≤ c && c ≤ 'Z')

/-- Whether a character after a backslash stands for itself. -/
def standsForItself (c : Char) : Bool :=
  metaChars.contains c ||
    (c.toNat < 128 && !isDigit c && !isBasicLetter c && c != '<' && c != '>')

/-- The control characters that have a letter. -/
def controls : List (Char × Char) :=
  [('a', '\x07'), ('f', '\x0c'), ('t', '\t'), ('n', '\n'), ('r', '\r'), ('v', '\x0b')]

/-- The places in a text that have a letter or a bracket. -/
def assertions : List (Char × Assertion) :=
  [('A', .textStart), ('z', .textStop), ('B', .noBoundary), ('<', .wordStart), ('>', .wordStop)]

/-- The classes that have a letter, and whether it stands for all other characters. -/
def shortClasses : List (Char × ShortClass × Bool) :=
  [('d', .digit, false), ('s', .space, false), ('w', .word, false), ('D', .digit, true),
    ('S', .space, true), ('W', .word, true)]

/-! ### Characters by number -/

def isHex (c : Char) : Bool :=
  (Text.Numeral.hexValue? c).isSome

/-- The character of a hexadecimal number, if there is one. -/
def scalar? (digits : List Char) : Option Char :=
  let n := digits.foldl (fun n c => n * 16 + (Text.Numeral.hexValue? c).getD 0) 0
  if h : n.isValidChar then some (Char.ofNatAux n h) else none

/-- Takes so many hexadecimal digits. -/
def hexDigits : Nat → Reader (List Char)
  | 0 => return []
  | n + 1 => do
    match ← peek? with
    | none => fail .escapeCutOff (.point (← place))
    | some c =>
      if isHex c then
        advance
        return c :: (← hexDigits n)
      else fail .hexDigit (← charSpan)

/-- Reads a number of so many digits. -/
def fixedHex (start : Position) (count : Nat) : Reader Literal := do
  let first ← place
  match scalar? (← hexDigits count) with
  | none => fail .hexInvalid (← since first)
  | some char => return { span := ← since start, char, isByte := count == 2 }

/-- Reads a number between braces. -/
def bracedHex (start : Position) : Reader Literal := do
  let brace ← place
  let first := (← charSpan).stop
  advance
  let digits ← takeAll isHex
  match ← peek? with
  | none => fail .escapeCutOff (← since brace)
  | some c =>
    if c != '\x7d' then fail .hexDigit (← charSpan)
    let stop ← place
    advance
    if digits.isEmpty then fail .hexEmpty (← since brace)
    match scalar? digits with
    | none => fail .hexInvalid ⟨first, stop⟩
    | some char => return { span := ← since start, char }

/-- Reads a character given by its number. The letter says how many digits there are without
braces. -/
def hex (start : Position) (letter : Char) : Reader Literal := do
  advance
  match ← peek? with
  | none => fail .escapeCutOff (.point (← place))
  | some '\x7b' => bracedHex start
  | some _ => fixedHex start (if letter = 'x' then 2 else if letter = 'u' then 4 else 8)

/-! ### Properties and places -/

/-- Reads the name of a property: one character, or what stands between braces. -/
def property (start : Position) : Reader Tree := do
  advance
  match ← peek? with
  | none => fail .escapeCutOff (.point (← place))
  | some '\x7b' => do
    advance
    let name ← takeAll (· != '\x7d')
    if ← isAtEnd then fail .escapeCutOff (.point (← place))
    bump
    return .property (← since start) name
  | some c => do
    if c = '\\' then fail .propertyEscape (← charSpan)
    advance
    return .property (← since start) [c]

/-- Reads which place of a word is meant after the letter for its boundary, if that is said. What
looks like a repetition is left alone. -/
def wordPlace (start : Position) : Reader Assertion := do
  let before ← get
  let brace := before.place
  if before.rest.head? != some '\x7b' then return .boundary
  advance
  if ← isAtEnd then fail .boundaryCutOff (← since start)
  let first ← place
  let name ← takeAll fun c => isBasicLetter c || c == '-'
  if name.isEmpty then
    set before
    return .boundary
  if (← peek?) != some '\x7d' then fail .boundaryUnclosed (← since brace)
  let stop ← place
  bump
  match Assertion.names.lookup (String.ofList name) with
  | some kind => return kind
  | none => fail .boundaryUnknown ⟨first, stop⟩

/-! ### All escapes -/

/-- Reads the letter of an escape that is a single letter. -/
def singleEscape (start : Position) (c : Char) : Reader Tree := do
  bump
  let span ← since start
  if standsForItself c then return .literal { span, char := c }
  match controls.lookup c, assertions.lookup c with
  | some char, _ => return .literal { span, char }
  | none, some kind => return .assertion span kind
  | none, none =>
    if c = 'b' then
      let kind ← wordPlace start
      return .assertion (← since start) kind
    else fail .escapeUnknown span

/-- Reads an escape. -/
def escape : Reader Tree := do
  let start ← place
  bump
  match ← peek? with
  | none => fail .escapeCutOff (← since start)
  | some c =>
    if isDigit c then fail .backreference ⟨start, (← charSpan).stop⟩
    else if c = 'x' ∨ c = 'u' ∨ c = 'U' then return .literal (← hex start c)
    else if c = 'p' ∨ c = 'P' then property start
    else match shortClasses.lookup c with
      | some (kind, negated) => do
        bump
        return .short (← since start) kind negated
      | none => singleEscape start c

end FileTransfer.Pattern.Reader
