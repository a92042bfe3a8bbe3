import FileTransfer.Text.Quoted
import FileTransfer.Text.Shortest

/-! Why a JSON text is refused. The text can break the grammar, end too early, or say something
that does not fit the type being read; only the last has a message of its own. -/
namespace FileTransfer.Json

/-- A number as read. An integer that fits no 64-bit word, and any number written with a point or
an exponent, is a floating-point number; so is minus zero. -/
inductive Number where
  | natural (n : Nat)
  | negative (n : Int)
  | float (x : Float)

/-- Floating-point numbers from a hundred-thousandth to below ten quadrillion are written without
an exponent. -/
def floatStyle : Text.FloatStyle where
  least := -5
  most := 15

/-- A value met in place of the one expected, as far as it is described. -/
inductive Found where
  | null
  | bool (b : Bool)
  | number (n : Number)
  | text (s : String)
  | list
  | object

namespace Found

/-- The description of a value that was met. -/
def describe : Found → String
  | .null => "null"
  | .bool true => "boolean `true`"
  | .bool false => "boolean `false`"
  | .number (.natural n) => "integer `" ++ Text.Numeral.nat n ++ "`"
  | .number (.negative n) => "integer `" ++ Text.Numeral.int n ++ "`"
  | .number (.float x) => "floating point `" ++ floatStyle.text x ++ "`"
  | .text s => "string " ++ Text.Quoted.text s
  | .list => "sequence"
  | .object => "map"

end Found

/-- How a well-formed text can fail to fit a type. -/
inductive Mismatch where
  /-- A value of another type. -/
  | type (found : Found) (expected : String)
  /-- An integer out of range. -/
  | range (found : Found) (expected : String)
  /-- A list that ends too early. -/
  | length (found : Nat) (expected : String)
  | missing (field : String)
  | duplicate (field : String)
  | variant (found : String) (known : List String)

namespace Mismatch

/-- The message of a mismatch. -/
def message : Mismatch → String
  | .type found expected => "invalid type: " ++ found.describe ++ ", expected " ++ expected
  | .range found expected => "invalid value: " ++ found.describe ++ ", expected " ++ expected
  | .length found expected => "invalid length " ++ Text.Numeral.nat found ++ ", expected " ++ expected
  | .missing field => "missing field `" ++ field ++ "`"
  | .duplicate field => "duplicate field `" ++ field ++ "`"
  | .variant found known =>
    "unknown variant `" ++ found ++ "`, expected one of " ++
      ", ".intercalate (known.map fun name => "`" ++ name ++ "`")

end Mismatch

/-- Why a text is refused. -/
inductive Failure where
  /-- The text breaks the grammar. -/
  | malformed
  /-- The text ends before the value does. -/
  | cutOff
  /-- The text does not fit the type. -/
  | mismatch (m : Mismatch)

/-- The outcome of reading: a reader takes a value off the front of a text and gives it with what
is left of the text. -/
abbrev Reading := Except Failure

end FileTransfer.Json
