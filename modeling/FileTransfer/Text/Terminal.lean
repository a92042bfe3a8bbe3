import FileTransfer.Text.Utf8

/-! Terminal sequences in a text, and the text as it reads without them. A sequence begins with
the escape character, and the character after that tells what ends it. Control characters go the
way of the sequences, except for the blank ones: all that is left in the end shows. -/
namespace FileTransfer.Text.Terminal

/-! ### Characters -/

/-- The control characters that are blank. -/
def isBlankControl (c : Char) : Bool :=
  c == '\t' || c == '\n' || c == '\x0c' || c == '\r'

/-- A character that is seen, or that moves what is seen. -/
def shows (c : Char) : Bool :=
  (' ' ≤ c && c != '\x7f') || isBlankControl c

/-- The marks, from the space to the slash. They come between the start of a sequence and its
last character. -/
def isMark (c : Char) : Bool :=
  ' ' ≤ c && c ≤ '/'

/-- The characters that parameters are made of, from the zero to the question mark. -/
def isParameter (c : Char) : Bool :=
  '0' ≤ c && c ≤ '?'

/-- The last four of the characters that parameters are made of; they may only come first. -/
def isPrivate (c : Char) : Bool :=
  '<' ≤ c && c ≤ '?'

/-- The characters that end a control sequence, from the at sign to the tilde. -/
def isFinal (c : Char) : Bool :=
  '@' ≤ c && c ≤ '~'

/-- A character that ends a string: one of its bytes is the byte of the string terminator. -/
def endsString (c : Char) : Bool :=
  (String.utf8EncodeChar c).contains 0x9C

/-! ### Sequences -/

/-- Where a reader of a text stands. -/
inductive Place where
  /-- Outside every sequence. -/
  | ground
  /-- Right after the escape character. -/
  | escape
  /-- After the escape character and some marks. -/
  | escapeMarks
  /-- In a control sequence. -/
  | control
  /-- At the start of a device string. -/
  | deviceStart
  /-- In the parameters of a device string. -/
  | deviceParameters
  /-- In the marks of a device string. -/
  | deviceMarks
  /-- In what a device string carries, or in a string of another kind. -/
  | string
  /-- In a title, which a bell ends. -/
  | title
  deriving DecidableEq, Repr

namespace Place

/-- How a character moves on. An escape character starts over, and the two cancelling characters
lead out, wherever they stand. -/
def next (p : Place) (c : Char) : Place :=
  if c = '\x1b' then .escape
  else if c = '\x18' ∨ c = '\x1a' then .ground
  else match p with
    | .ground => .ground
    | .escape =>
      if isMark c then .escapeMarks
      else if c = '[' then .control
      else if c = ']' then .title
      else if c = 'P' then .deviceStart
      else if c = 'X' ∨ c = '^' ∨ c = '_' then .string
      else if isParameter c || isFinal c then .ground
      else .escape
    | .escapeMarks => if isParameter c || isFinal c then .ground else .escapeMarks
    | .control => if isFinal c then .ground else .control
    | .deviceStart =>
      if isMark c then .deviceMarks
      else if isParameter c then .deviceParameters
      else if isFinal c then .string
      else .deviceStart
    | .deviceParameters =>
      if isMark c then .deviceMarks
      else if isPrivate c || isFinal c then .string
      else .deviceParameters
    | .deviceMarks => if isParameter c || isFinal c then .string else .deviceMarks
    | .string => if endsString c then .ground else .string
    | .title => if c = '\x07' then .ground else .title

/-- Whether a character is written that comes after one that was not. Inside of sequences only
blank controls are, and none inside of strings and titles. -/
def writes (p : Place) (c : Char) : Bool :=
  match p with
  | .ground => shows c
  | .escape => isBlankControl c
  | .escapeMarks => isBlankControl c
  | .control => isBlankControl c
  | _ => false

end Place

/-- A reader of a text: its place, and whether it wrote the last character. -/
structure Reader where
  place : Place := .ground
  writing : Bool := false
  deriving DecidableEq, Repr

namespace Reader

/-- Reads a character, and tells whether it is written. What was begun by writing goes on for as
long as the characters show, even if a blank began it inside a sequence. -/
def step (r : Reader) (c : Char) : Bool × Reader :=
  if r.writing && shows c then
    (true, { r with place := if c.toNat < 0x80 then r.place else .ground })
  else
    let written := r.place.writes c
    (written, ⟨r.place.next c, written⟩)

/-- The characters that are written. -/
def filter (r : Reader) : List Char → List Char
  | [] => []
  | c :: rest =>
    let (written, after) := r.step c
    if written then c :: after.filter rest else after.filter rest

end Reader

/-- A text without terminal sequences and control characters. -/
def plain (s : String) : String :=
  String.ofList (({} : Reader).filter s.toList)

end FileTransfer.Text.Terminal
