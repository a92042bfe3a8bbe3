import FileTransfer.Environment
import FileTransfer.Text.Alphanumeric
import FileTransfer.Text.Blank

/-! Settings files: variables with their values, one a line, which are set where the environment
does not set them. Values may be quoted, over several lines, and may name other variables. The
first line that cannot be read ends the reading; what was set before it stays. -/
namespace FileTransfer.Settings

/-! ### Lines

A line ends where the line of the file does, but for lines that end inside quotes or right after a
blank: they are joined with the next one. -/

/-- Where the end of a line of the file falls. -/
inductive Span where
  | complete
  | escape
  | strong
  | strongEscape
  | weak
  | weakEscape
  | blank
  deriving DecidableEq, Repr

/-- How one character moves on; nothing if it starts a comment. -/
def Span.next? (s : Span) (c : Char) : Option Span :=
  match s with
  | .complete =>
    if Text.isBlank c ∧ c ≠ '\n' ∧ c ≠ '\r' then some .blank
    else if c = '\\' then some .escape
    else if c = '"' then some .weak
    else if c = '\'' then some .strong
    else some .complete
  | .blank =>
    if c = '#' then none
    else if c = '\\' then some .escape
    else if c = '"' then some .weak
    else if c = '\'' then some .strong
    else some .complete
  | .escape => some .complete
  | .weak => some (if c = '\\' then .weakEscape else if c = '"' then .complete else .weak)
  | .weakEscape => some .weak
  | .strong => some (if c = '\\' then .strongEscape else if c = '\'' then .complete else .strong)
  | .strongEscape => some .strong

/-- Reads a line of the file: what stands before a comment if there is one, or the state at its
end. -/
def scan (s : Span) : List Char → Except (List Char) Span
  | [] => .ok s
  | c :: rest =>
    match s.next? c with
    | none => .error []
    | some next =>
      match scan next rest with
      | .ok last => .ok last
      | .error before => .error (c :: before)

/-- A line without its end. -/
def chomp (s : List Char) : List Char :=
  match s.reverse with
  | '\n' :: '\r' :: rest => rest.reverse
  | '\n' :: rest => rest.reverse
  | _ => s

/-- The bytes of a file cut after every line end. -/
def physicalLines : List UInt8 → List (List UInt8)
  | [] => []
  | b :: rest =>
    if b = 10 then [b] :: physicalLines rest
    else match physicalLines rest with
      | [] => [[b]]
      | line :: lines => (b :: line) :: lines

/-- Whether a line is all comment. -/
def isComment (s : List Char) : Bool :=
  (Text.trimStart s).head? == some '#'

/-- The lines to be read, after what was kept of the lines before. A last entry of nothing stands
for a line that is no text, or that the file breaks off. -/
def lines (s : Span) (kept : List Char) : List (List UInt8) → List (Option (List Char))
  | [] => if s = .complete then [] else [none]
  | line :: rest =>
    match Text.Utf8.decode? line with
    | none => [none]
    | some text =>
      let all := kept ++ text.toList
      if isComment all then some [] :: lines .complete [] rest
      else match scan s text.toList with
        | .error before => some (kept ++ before) :: lines .complete [] rest
        | .ok .complete => some (chomp all) :: lines .complete [] rest
        | .ok s => lines s all rest

/-! ### Values -/

/-- Where the reading of a value stands. -/
inductive Mode where
  | plain
  | escaped
  /-- Between single quotes, where all stands for itself. -/
  | strong
  /-- After a dollar sign and some letters and digits. -/
  | name (letters : List Char)
  /-- After a dollar sign, a brace and some characters. -/
  | braced (letters : List Char)
  /-- After a blank: only blanks and a comment may follow. -/
  | ending
  deriving DecidableEq, Repr

/-- A value under way: whether it is between double quotes, what comes next, and the text so far,
last character first. -/
structure Draft where
  weak : Bool := false
  mode : Mode := .plain
  text : List Char := []

namespace Draft

def push (d : Draft) (c : Char) : Draft :=
  { d with mode := .plain, text := c :: d.text }

/-- Puts the value of a variable in. -/
def put (value : String → String) (d : Draft) (letters : List Char) : Draft :=
  { d with mode := .plain, text := (value (String.ofList letters)).toList.reverse ++ d.text }

/-- The character that an escaped one stands for. -/
def unescape? (c : Char) : Option Char :=
  if c = 'n' then some '\n'
  else if c = '\\' ∨ c = '\'' ∨ c = '"' ∨ c = '$' ∨ c = ' ' then some c
  else none

/-- One character of a value. Nothing comes out if it may not stand where it does. -/
def step? (value : String → String) (d : Draft) (c : Char) : Option Draft :=
  match d.mode with
  | .ending => if c = ' ' ∨ c = '\t' then some d else none
  | .escaped => (unescape? c).map d.push
  | .strong => some (if c = '\'' then { d with mode := .plain } else { d.push c with mode := .strong })
  | .name letters =>
    if Text.alphanumeric.contains c then some { d with mode := .name (letters ++ [c]) }
    else if c = '\x7b' ∧ letters = [] then some { d with mode := .braced [] }
    else
      let d := d.put value letters
      some (if c = '$' then { d with mode := .name [] } else d.push c)
  | .braced letters =>
    some (if c = '\x7d' then d.put value letters
      else { d with mode := .braced (letters ++ [c]) })
  | .plain =>
    some <|
      if c = '$' then { d with mode := .name [] }
      else if c = '\\' then { d with mode := .escaped }
      else if c = '"' then { d with weak := !d.weak }
      else if d.weak then d.push c
      else if c = '\'' then { d with mode := .strong }
      else if c = ' ' ∨ c = '\t' then { d with mode := .ending }
      else d.push c

/-- The value at its end. Quotes and braces must be closed. -/
def finish? (value : String → String) (d : Draft) : Option String :=
  if d.weak then none
  else match d.mode with
    | .strong => none
    | .braced _ => none
    | .name letters => some (String.ofList (d.put value letters).text.reverse)
    | _ => some (String.ofList d.text.reverse)

/-- Reads a value to its end or to a comment. -/
def read? (value : String → String) (d : Draft) : List Char → Option String
  | [] => d.finish? value
  | c :: rest =>
    if d.mode = .ending ∧ c = '#' then d.finish? value
    else match d.step? value c with
      | none => none
      | some d => read? value d rest

end Draft

/-! ### Assignments -/

/-- A character that may begin a name. -/
def startsName (c : Char) : Bool :=
  ('a' ≤ c && c ≤ 'z') || ('A' ≤ c && c ≤ 'Z') || c == '_'

/-- A character that may go on with a name. -/
def continuesName (c : Char) : Bool :=
  startsName c || ('0' ≤ c && c ≤ '9') || c == '.'

/-- Reads a name, and the blanks after it. -/
def name? (s : List Char) : Option (String × List Char) :=
  if s.head?.any startsName then
    some (String.ofList (s.takeWhile continuesName), Text.trimStart (s.dropWhile continuesName))
  else none

/-- Reads an equals sign. -/
def equals? (s : List Char) : Option (List Char) :=
  match s with
  | '=' :: rest => some rest
  | _ => none

/-- Reads the name of an assignment and its equals sign. The word `export` may come first. -/
def target? (s : List Char) : Option (String × List Char) := do
  let (name, rest) ← name? s
  match equals? rest with
  | some rest => return (name, rest)
  | none =>
    if name = "export" then
      let (name, rest) ← name? rest
      return (name, ← equals? rest)
    else none

/-- What a line says. -/
inductive Line where
  | blank
  /-- A name without a value. -/
  | empty (name : String)
  | value (name value : String)
  | broken
  deriving DecidableEq, Repr

/-- Reads a line. -/
def Line.read (value : String → String) (s : List Char) : Line :=
  let s := Text.trimStart (Text.trimEnd s)
  if s.isEmpty ∨ s.head? = some '#' then .blank
  else match target? s with
    | none => .broken
    | some (name, rest) =>
      let rest := Text.trimStart rest
      if rest.isEmpty ∨ rest.head? = some '#' then .empty name
      else match ({} : Draft).read? value rest with
        | some text => .value name text
        | none => .broken

/-! ### The whole file -/

/-- An environment, and the values that the lines before gave. -/
structure Loaded where
  environment : Environment
  given : List (String × String) := []

namespace Loaded

/-- What a name stands for inside a value: a variable of the environment, else what a line before
gave it, else nothing. -/
def lookup (l : Loaded) (name : String) : String :=
  (l.environment.text? name).getD ((l.given.lookup name).getD "")

/-- Takes a value over. A variable that is set to a text keeps its own. -/
def assign (l : Loaded) (name value : String) : Loaded :=
  { environment := if (l.environment.text? name).isSome then l.environment
      else l.environment.set name value
    given := (name, value) :: l.given }

end Loaded

/-- Takes lines over, up to the first that cannot be read. -/
def load (l : Loaded) : List (Option (List Char)) → Environment
  | [] => l.environment
  | none :: _ => l.environment
  | some s :: rest =>
    match Line.read l.lookup s with
    | .blank => load l rest
    | .empty name => load (l.assign name "") rest
    | .value name value => load (l.assign name value) rest
    | .broken => l.environment

/-- A file without the mark that some editors put at its front. -/
def withoutMark (bytes : List UInt8) : List UInt8 :=
  match bytes with
  | 0xEF :: 0xBB :: 0xBF :: rest => rest
  | _ => bytes

/-- The environment with the settings of a file, where it does not set them itself. -/
def apply (bytes : List UInt8) (env : Environment) : Environment :=
  load ⟨env, []⟩ (lines .complete [] (physicalLines (withoutMark bytes)))

/-- The name of a settings file. -/
def fileName : String := ".env"

end FileTransfer.Settings
