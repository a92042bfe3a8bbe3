import FileTransfer.Text.Numeral

/-! JSON values and their compact text: no blanks, members in the order given. Sorting a value
puts the members of every object in the order of their names. -/
namespace FileTransfer.Json

/-- A JSON value, of the kinds that are written here. -/
inductive Value where
  | null
  | number (n : Int)
  | text (s : String)
  | object (members : List (String × Value))

/-- A character as it stands in a JSON string. Control characters are escaped, by a letter where
there is one; all others but the quote and the backslash stand for themselves. -/
def escapeChar (c : Char) : List Char :=
  match c with
  | '"' => ['\\', '"']
  | '\\' => ['\\', '\\']
  | '\x08' => ['\\', 'b']
  | '\x0c' => ['\\', 'f']
  | '\n' => ['\\', 'n']
  | '\r' => ['\\', 'r']
  | '\t' => ['\\', 't']
  | c =>
    if c.toNat < 0x20 then
      ['\\', 'u', '0', '0', Text.Numeral.hexDigit false (c.toNat / 16),
        Text.Numeral.hexDigit false (c.toNat % 16)]
    else [c]

/-- A text as a JSON string. -/
def quote (s : String) : String :=
  String.ofList ('"' :: (s.toList.flatMap escapeChar ++ ['"']))

namespace Value

mutual

/-- The compact text of a value. -/
def render : Value → String
  | .null => "null"
  | .number n => Text.Numeral.int n
  | .text s => quote s
  | .object members => "\x7b" ++ renderMembers members ++ "\x7d"

/-- The members of an object, a comma between two. -/
def renderMembers : List (String × Value) → String
  | [] => ""
  | [(name, value)] => quote name ++ ":" ++ render value
  | (name, value) :: rest => quote name ++ ":" ++ render value ++ "," ++ renderMembers rest

end

/-- A member put before the first one whose name is not smaller. -/
def insertMember (name : String) (value : Value) :
    List (String × Value) → List (String × Value)
  | [] => [(name, value)]
  | (other, v) :: rest =>
    if name ≤ other then (name, value) :: (other, v) :: rest
    else (other, v) :: insertMember name value rest

mutual

/-- The value with the members of every object ordered by name. -/
def sorted : Value → Value
  | .null => .null
  | .number n => .number n
  | .text s => .text s
  | .object members => .object (sortedMembers members)

/-- Members ordered by name, their values sorted. -/
def sortedMembers : List (String × Value) → List (String × Value)
  | [] => []
  | (name, value) :: rest => insertMember name (sorted value) (sortedMembers rest)

end

end Value

end FileTransfer.Json
