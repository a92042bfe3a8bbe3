import FileTransfer.Json.Failure
import FileTransfer.Text.Numeral

/-! Blanks, words and string literals of JSON. A string literal is read by a small machine, one
character at a time. Read strictly, every escape must denote a character, so that surrogates come
in pairs; a literal that is only passed over may hold any four digits. -/
namespace FileTransfer.Json

/-- The four characters that may stand between the parts of a value. -/
def isBlank (c : Char) : Bool :=
  c == ' ' || c == '\n' || c == '\t' || c == '\r'

/-- A text without the blanks at its front. -/
def skipBlanks (s : List Char) : List Char :=
  s.dropWhile isBlank

/-- Reads the letters of a word. -/
def word : List Char → List Char → Reading (List Char)
  | [], s => .ok s
  | _ :: _, [] => .error .cutOff
  | w :: ws, c :: s => if c = w then word ws s else .error .malformed

/-- Where a machine stands inside a string literal. -/
inductive Literal where
  /-- Between two characters. -/
  | plain
  /-- After a backslash. -/
  | escape
  /-- Among the four digits of an escape, after some of them; the first half of a surrogate pair
  may have come before. -/
  | digits (lead : Option Nat) (seen value : Nat)
  /-- After the first half of a surrogate pair: a backslash must follow. -/
  | pairSlash (lead : Nat)
  /-- After that backslash: a `u` must follow. -/
  | pairMark (lead : Nat)
  deriving DecidableEq, Repr

namespace Literal

/-- The character that a one-letter escape denotes. -/
def ofLetter? (c : Char) : Option Char :=
  match c with
  | '"' => some '"'
  | '\\' => some '\\'
  | '/' => some '/'
  | 'b' => some '\x08'
  | 'f' => some '\x0c'
  | 'n' => some '\n'
  | 'r' => some '\r'
  | 't' => some '\t'
  | _ => none

/-- Whether at least `n` bytes of text are left. -/
def hasBytes (n : Nat) (s : List Char) : Bool :=
  decide (n ≤ (s.take n).foldl (fun k c => k + c.utf8Size) 0)

def isLead (n : Nat) : Bool :=
  decide (0xD800 ≤ n) && decide (n ≤ 0xDBFF)

def isTrail (n : Nat) : Bool :=
  decide (0xDC00 ≤ n) && decide (n ≤ 0xDFFF)

/-- The character after four digits, or what must come next. -/
def unit (strict : Bool) (lead : Option Nat) (n : Nat) : Reading (List Char × Literal) :=
  if !strict then .ok ([], .plain)
  else match lead with
    | some high =>
      if isTrail n then
        .ok ([Char.ofNat ((high - 0xD800) * 0x400 + (n - 0xDC00) + 0x10000)], .plain)
      else .error .malformed
    | none =>
      if isTrail n then .error .malformed
      else if isLead n then .ok ([], .pairSlash n)
      else .ok ([Char.ofNat n], .plain)

/-- One character of a literal, not its closing quote: what it adds to the text, and where the
machine stands after it. Four digits are looked for at once, so that a text with fewer than four
bytes left is cut off whatever they are. -/
def step (strict : Bool) (c : Char) (rest : List Char) :
    Literal → Reading (List Char × Literal)
  | .plain =>
    if c = '\\' then .ok ([], .escape)
    else if c.toNat < 0x20 then .error .malformed
    else .ok ([c], .plain)
  | .escape =>
    if c = 'u' then .ok ([], .digits none 0 0)
    else match ofLetter? c with
      | some d => .ok ([d], .plain)
      | none => .error .malformed
  | .digits lead seen value =>
    match Text.Numeral.hexValue? c with
    | none => .error (if hasBytes (4 - seen) (c :: rest) then .malformed else .cutOff)
    | some d =>
      if seen < 3 then .ok ([], .digits lead (seen + 1) (value * 16 + d))
      else unit strict lead (value * 16 + d)
  | .pairSlash lead => if c = '\\' then .ok ([], .pairMark lead) else .error .malformed
  | .pairMark lead => if c = 'u' then .ok ([], .digits (some lead) 0 0) else .error .malformed

/-- Reads the rest of a literal, up to and with its closing quote. -/
def read (strict : Bool) : Literal → List Char → Reading (List Char × List Char)
  | _, [] => .error .cutOff
  | state, c :: rest =>
    if state = .plain ∧ c = '"' then .ok ([], rest)
    else match step strict c rest state with
      | .error e => .error e
      | .ok (out, next) =>
        match read strict next rest with
        | .error e => .error e
        | .ok (text, left) => .ok (out ++ text, left)

end Literal

/-- Reads a text after its opening quote. -/
def readText (s : List Char) : Reading (String × List Char) :=
  match Literal.read true .plain s with
  | .error e => .error e
  | .ok (text, rest) => .ok (String.ofList text, rest)

end FileTransfer.Json
