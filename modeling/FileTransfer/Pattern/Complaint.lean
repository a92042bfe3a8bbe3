import FileTransfer.Pattern.Span
import FileTransfer.Text.Numeral

/-! What can be wrong with a pattern, and how it is reported: the text of the pattern with marks
below the places that are meant, and a sentence. -/
namespace FileTransfer.Pattern

/-- What is wrong at some place of a pattern. -/
inductive Mistake where
  | classEscape
  | classRangeInvalid
  | classRangeBound
  | classUnclosed
  | numberInvalid
  | hexEmpty
  | hexInvalid
  | hexDigit
  | escapeCutOff
  | escapeUnknown
  | flagDanglingNegation
  | flagDuplicate
  | flagNegatedTwice
  | flagCutOff
  | flagUnknown
  | nameDuplicate
  | nameEmpty
  | nameInvalid
  | nameUnclosed
  | groupUnclosed
  | groupUnopened
  | tooDeep
  | countInvalid
  | countNoNumber
  | countUnclosed
  | nothingRepeated
  | boundaryUnclosed
  | boundaryUnknown
  | boundaryCutOff
  | propertyEscape
  | backreference
  | lookAround
  | unicodeNotAllowed
  | brokenText
  | propertyUnknown
  | propertyValueUnknown
  | shortClassUnknown
  | caseUnknown
  deriving DecidableEq, Repr

/-- How many groups, classes and repetitions may stand in each other. -/
def maxDepth : Nat := 250

/-- The sentence about a mistake. -/
def Mistake.message : Mistake → String
  | .classEscape => "invalid escape sequence found in character class"
  | .classRangeInvalid => "invalid character class range, the start must be <= the end"
  | .classRangeBound => "invalid range boundary, must be a literal"
  | .classUnclosed => "unclosed character class"
  | .numberInvalid => "decimal literal invalid"
  | .hexEmpty => "hexadecimal literal empty"
  | .hexInvalid => "hexadecimal literal is not a Unicode scalar value"
  | .hexDigit => "invalid hexadecimal digit"
  | .escapeCutOff => "incomplete escape sequence, reached end of pattern prematurely"
  | .escapeUnknown => "unrecognized escape sequence"
  | .flagDanglingNegation => "dangling flag negation operator"
  | .flagDuplicate => "duplicate flag"
  | .flagNegatedTwice => "flag negation operator repeated"
  | .flagCutOff => "expected flag but got end of regex"
  | .flagUnknown => "unrecognized flag"
  | .nameDuplicate => "duplicate capture group name"
  | .nameEmpty => "empty capture group name"
  | .nameInvalid => "invalid capture group character"
  | .nameUnclosed => "unclosed capture group name"
  | .groupUnclosed => "unclosed group"
  | .groupUnopened => "unopened group"
  | .tooDeep =>
    "exceed the maximum number of nested parentheses/brackets (" ++ Text.Numeral.nat maxDepth ++ ")"
  | .countInvalid => "invalid repetition count range, the start must be <= the end"
  | .countNoNumber => "repetition quantifier expects a valid decimal"
  | .countUnclosed => "unclosed counted repetition"
  | .nothingRepeated => "repetition operator missing expression"
  | .boundaryUnclosed =>
    "special word boundary assertion is either unclosed or contains an invalid character"
  | .boundaryUnknown =>
    "unrecognized special word boundary assertion, valid choices are: start, end, start-half or " ++
      "end-half"
  | .boundaryCutOff =>
    "found either the beginning of a special word boundary or a bounded repetition on a \\b with " ++
      "an opening brace, but no closing brace"
  | .propertyEscape => "invalid Unicode character class"
  | .backreference => "backreferences are not supported"
  | .lookAround => "look-around, including look-ahead and look-behind, is not supported"
  | .unicodeNotAllowed => "Unicode not allowed here"
  | .brokenText => "pattern can match invalid UTF-8"
  | .propertyUnknown => "Unicode property not found"
  | .propertyValueUnknown => "Unicode property value not found"
  | .shortClassUnknown =>
    "Unicode-aware Perl class not found (make sure the unicode-perl feature is enabled)"
  | .caseUnknown =>
    "Unicode-aware case insensitivity matching is not available (make sure the unicode-case " ++
      "feature is enabled)"

/-- A mistake and where it is. A second place shows what it is at odds with. -/
structure Complaint where
  mistake : Mistake
  span : Span
  other : Option Span := none
  deriving DecidableEq, Repr

/-! ### Marking places -/

/-- The lines of a text, each without its end. An end at the end starts no line. -/
def lines : List Char → List (List Char)
  | [] => []
  | c :: rest =>
    if c = '\n' then [] :: lines rest
    else if c = '\r' ∧ rest.head? = some '\n' then lines rest
    else match lines rest with
      | [] => [[c]]
      | line :: more => (c :: line) :: more

def spaces (n : Nat) : List Char :=
  List.replicate n ' '

/-- Marks below the columns of some stretches, in their order, once a number of columns is
passed. -/
def carets (passed : Nat) : List Span → List Char
  | [] => []
  | s :: rest =>
    let gap := s.start.column - 1 - passed
    let width := max 1 (s.stop.column - s.start.column)
    spaces gap ++ List.replicate width '^' ++ carets (passed + gap + width) rest

namespace Complaint

/-- The places to mark, first one first. -/
def places (c : Complaint) : List Span :=
  match c.other with
  | none => [c.span]
  | some o => if o.precedes c.span then [o, c.span] else [c.span, o]

/-- What stands before a line: its number if there are several, else blanks. -/
def margin (width number : Nat) : List Char :=
  if width = 0 then spaces 4
  else
    let digits := (Text.Numeral.nat number).toList
    spaces (width - digits.length) ++ digits ++ [':', ' ']

/-- A line of the pattern, and the marks below it if there are any. -/
def notedLine (c : Complaint) (width : Nat) (line : List Char) (number : Nat) : List (List Char) :=
  let here := c.places.filter fun s => s.isOneLine && s.start.line == number
  let notes := if here.isEmpty then [] else [spaces (if width = 0 then 4 else width + 2) ++ carets 0 here]
  (margin width number ++ line) :: notes

/-- The pattern line by line with marks. -/
def noted (c : Complaint) (pattern : List Char) : List (List Char) :=
  let all := lines pattern
  let count := all.length + (if pattern.getLast? = some '\n' then 1 else 0)
  let width := if count ≤ 1 then 0 else (Text.Numeral.nat count).length
  (all.zipIdx 1).flatMap fun (line, number) => c.notedLine width line number

/-- Where a stretch over several lines lies. -/
def farNote (s : Span) : String :=
  let n := Text.Numeral.nat
  "on line " ++ n s.start.line ++ " (column " ++ n s.start.column ++ ") through line " ++
    n s.stop.line ++ " (column " ++ n (s.stop.column - 1) ++ ")"

/-- The report on a pattern. One of several lines stands between rules. -/
def report (c : Complaint) (pattern : String) : String :=
  let text := pattern.toList
  let noted := (c.noted text).map String.ofList
  let several := text.contains '\n'
  let rule := if several then [String.ofList (List.replicate 79 '~')] else []
  let far := if several then (c.places.filter fun s => !s.isOneLine).map farNote else []
  "\n".intercalate
    ("regex parse error:" :: rule ++ noted ++ rule ++ far ++ ["error: " ++ c.mistake.message])

end Complaint

end FileTransfer.Pattern
