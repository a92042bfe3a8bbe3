import FileTransfer.Json.Literal
import FileTransfer.Json.Number

/-! Passing over a JSON value that nobody asks for. A machine with a stack of the open lists and
objects reads the text one character at a time, so that no depth is too great. Numbers are not
computed and escapes need not denote characters; a number that the text breaks off is malformed,
not cut off. -/
namespace FileTransfer.Json

/-- An open list or object. -/
inductive Frame where
  | list
  | object
  deriving DecidableEq, Repr

/-- How far a number has come that is only passed over. -/
inductive Figure where
  | minus
  | zero
  | whole
  | point
  | fraction
  | mark
  | markSign
  | exponent
  deriving DecidableEq, Repr

namespace Figure

/-- Whether a number may end here. -/
def complete : Figure → Bool
  | .zero | .whole | .fraction | .exponent => true
  | _ => false

/-- Where a number goes on with a character, if it does. -/
def next? (f : Figure) (c : Char) : Option Figure :=
  match f with
  | .minus => if c = '0' then some .zero else if isDigit c then some .whole else none
  | .zero => if c = '.' then some .point else if isExponentMark c then some .mark else none
  | .whole =>
    if isDigit c then some .whole
    else if c = '.' then some .point
    else if isExponentMark c then some .mark
    else none
  | .point => if isDigit c then some .fraction else none
  | .fraction =>
    if isDigit c then some .fraction else if isExponentMark c then some .mark else none
  | .mark =>
    if c = '+' ∨ c = '-' then some .markSign else if isDigit c then some .exponent else none
  | .markSign => if isDigit c then some .exponent else none
  | .exponent => if isDigit c then some .exponent else none

end Figure

/-- What comes next in a text that is passed over. -/
inductive Expect where
  /-- A value. -/
  | value
  /-- After an opening bracket: an element or the end of the list. -/
  | element
  /-- After an opening brace: a key or the end of the object. -/
  | member
  /-- After a comma in an object. -/
  | key
  /-- After a key. -/
  | colon
  /-- After a value inside a list or an object. -/
  | comma
  /-- The rest of `null`, `true` or `false`. -/
  | letters (rest : List Char)
  /-- Inside a string literal, which may be a key. -/
  | literal (isKey : Bool) (state : Literal)
  | figure (f : Figure)
  deriving DecidableEq, Repr

/-- What a character does to a machine that passes over a value. -/
inductive Skipped where
  | more (next : Expect) (stack : List Frame)
  /-- The character ends the value. -/
  | done
  /-- The value ended before the character. -/
  | before

namespace Expect

/-- What follows a value: more of the enclosing frame, or the end. -/
def after : List Frame → Skipped
  | [] => .done
  | f :: stack => .more .comma (f :: stack)

/-- Closes the innermost frame. -/
def close : List Frame → Skipped
  | [] => .done
  | _ :: stack => after stack

/-- A character at which a value must start. -/
def start (stack : List Frame) (c : Char) : Reading Skipped :=
  match c with
  | 'n' => .ok (.more (.letters ['u', 'l', 'l']) stack)
  | 't' => .ok (.more (.letters ['r', 'u', 'e']) stack)
  | 'f' => .ok (.more (.letters ['a', 'l', 's', 'e']) stack)
  | '-' => .ok (.more (.figure .minus) stack)
  | '"' => .ok (.more (.literal false .plain) stack)
  | '[' => .ok (.more .element (.list :: stack))
  | '\x7b' => .ok (.more .member (.object :: stack))
  | '0' => .ok (.more (.figure .zero) stack)
  | c => if isDigit c then .ok (.more (.figure .whole) stack) else .error .malformed

/-- A character after a value that is not the last part of the whole: a comma, or the bracket
that closes the innermost frame. -/
def separator (stack : List Frame) (c : Char) : Reading Skipped :=
  match stack with
  | [] => .ok .before
  | .list :: _ =>
    if isBlank c then .ok (.more .comma stack)
    else if c = ',' then .ok (.more .value stack)
    else if c = ']' then .ok (close stack)
    else .error .malformed
  | .object :: _ =>
    if isBlank c then .ok (.more .comma stack)
    else if c = ',' then .ok (.more .key stack)
    else if c = '\x7d' then .ok (close stack)
    else .error .malformed

/-- One character of a text that is passed over. -/
def step (expect : Expect) (stack : List Frame) (c : Char) (rest : List Char) :
    Reading Skipped :=
  match expect with
  | .value => if isBlank c then .ok (.more .value stack) else start stack c
  | .element =>
    if isBlank c then .ok (.more .element stack)
    else if c = ']' then .ok (close stack)
    else start stack c
  | .member =>
    if isBlank c then .ok (.more .member stack)
    else if c = '\x7d' then .ok (close stack)
    else if c = '"' then .ok (.more (.literal true .plain) stack)
    else .error .malformed
  | .key =>
    if isBlank c then .ok (.more .key stack)
    else if c = '"' then .ok (.more (.literal true .plain) stack)
    else .error .malformed
  | .colon =>
    if isBlank c then .ok (.more .colon stack)
    else if c = ':' then .ok (.more .value stack)
    else .error .malformed
  | .comma => separator stack c
  | .letters [] => separator stack c
  | .letters (w :: ws) =>
    if c = w then .ok (if ws.isEmpty then after stack else .more (.letters ws) stack)
    else .error .malformed
  | .literal isKey state =>
    if state = .plain ∧ c = '"' then .ok (if isKey then .more .colon stack else after stack)
    else match Literal.step false c rest state with
      | .error e => .error e
      | .ok (_, next) => .ok (.more (.literal isKey next) stack)
  | .figure f =>
    match f.next? c with
    | some g => .ok (.more (.figure g) stack)
    | none =>
      if f.complete && !(f == .zero && isDigit c) then separator stack c else .error .malformed

/-- What the end of the text means. -/
def atEnd (stack : List Frame) : Expect → Reading (List Char)
  | .figure f =>
    if !f.complete then .error .malformed
    else if stack.isEmpty then .ok []
    else .error .cutOff
  | _ => .error .cutOff

/-- Passes over the rest of a value. -/
def skip : Expect → List Frame → List Char → Reading (List Char)
  | expect, stack, [] => atEnd stack expect
  | expect, stack, c :: rest =>
    match step expect stack c rest with
    | .error e => .error e
    | .ok .done => .ok rest
    | .ok .before => .ok (c :: rest)
    | .ok (.more next stack) => skip next stack rest

end Expect

/-- Passes over a value and the blanks before it. -/
def skipValue (s : List Char) : Reading (List Char) :=
  Expect.skip .value [] s

end FileTransfer.Json
