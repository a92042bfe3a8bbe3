import FileTransfer.Text.Quoted

/-! Values laid out for diagnostics: a named record with its fields, a name around one value, a
map. The same outline is written on one line, or with every field on a line of its own. -/
namespace FileTransfer.Text

/-- The layout of a value, apart from how it is broken into lines. -/
inductive Outline where
  /-- Text written as it is: a number, a truth value, a name. -/
  | plain (s : String)
  /-- Text written between quotes. -/
  | quoted (s : String)
  /-- Bytes written between quotes. -/
  | quotedBytes (bytes : List UInt8)
  | record (name : String) (fields : List (String × Outline))
  | wrapped (name : String) (inner : Outline)
  | map (entries : List (String × Outline))

namespace Outline

/-- A number in an outline. -/
def number (n : Int) : Outline :=
  .plain (Numeral.int n)

def boolText (b : Bool) : String :=
  if b then "true" else "false"

/-- A truth value in an outline. -/
def bool (b : Bool) : Outline :=
  .plain (boolText b)

mutual

/-- The outline on one line. -/
def line : Outline → String
  | .plain s => s
  | .quoted s => Quoted.text s
  | .quotedBytes bs => Quoted.bytes bs
  | .record name fields => name ++ " \x7b " ++ lineFields fields ++ " \x7d"
  | .wrapped name inner => name ++ "(" ++ line inner ++ ")"
  | .map entries => "\x7b" ++ lineEntries entries ++ "\x7d"

/-- Fields on one line, a comma between two. -/
def lineFields : List (String × Outline) → String
  | [] => ""
  | [(name, value)] => name ++ ": " ++ line value
  | (name, value) :: rest => name ++ ": " ++ line value ++ ", " ++ lineFields rest

/-- Entries of a map on one line, a comma between two. -/
def lineEntries : List (String × Outline) → String
  | [] => ""
  | [(key, value)] => Quoted.text key ++ ": " ++ line value
  | (key, value) :: rest => Quoted.text key ++ ": " ++ line value ++ ", " ++ lineEntries rest

end

/-- One step of indentation. -/
def indentStep : Nat := 4

/-- The start of an indented line. -/
def margin (depth : Nat) : String :=
  String.ofList (List.replicate (indentStep * depth) ' ')

mutual

/-- The outline over several lines, its first one already begun at the given depth. -/
def block (depth : Nat) : Outline → String
  | .plain s => s
  | .quoted s => Quoted.text s
  | .quotedBytes bs => Quoted.bytes bs
  | .record name fields =>
    name ++ " \x7b\n" ++ blockFields (depth + 1) fields ++ margin depth ++ "\x7d"
  | .wrapped name inner =>
    name ++ "(\n" ++ margin (depth + 1) ++ block (depth + 1) inner ++ ",\n" ++ margin depth ++ ")"
  | .map [] => "\x7b\x7d"
  | .map (entry :: rest) =>
    "\x7b\n" ++ blockEntries (depth + 1) (entry :: rest) ++ margin depth ++ "\x7d"

/-- Fields, one a line, a comma after each. -/
def blockFields (depth : Nat) : List (String × Outline) → String
  | [] => ""
  | (name, value) :: rest =>
    margin depth ++ name ++ ": " ++ block depth value ++ ",\n" ++ blockFields depth rest

/-- Entries of a map, one a line, a comma after each. -/
def blockEntries (depth : Nat) : List (String × Outline) → String
  | [] => ""
  | (key, value) :: rest =>
    margin depth ++ Quoted.text key ++ ": " ++ block depth value ++ ",\n" ++
      blockEntries depth rest

end

/-- The outline over several lines. -/
def pretty (o : Outline) : String :=
  block 0 o

end Outline

end FileTransfer.Text
