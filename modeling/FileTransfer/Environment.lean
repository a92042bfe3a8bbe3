import FileTransfer.Text.Utf8

/-! Variables of the environment: names and values, which may be any bytes. A variable is found by
what it begins with when it is written out, so that a name with an equals sign in it may find a
variable too: its value is then only what follows that part of the value. A variable may have no
name, but then it is not found. -/
namespace FileTransfer

/-- The variables that are set, each name once. -/
structure Environment where
  entries : List (List UInt8 × List UInt8)
  deriving DecidableEq, Repr

namespace Environment

/-- The equals sign between a name and its value. -/
def equals : UInt8 := 61

/-- A variable written out. -/
def written (entry : List UInt8 × List UInt8) : List UInt8 :=
  entry.1 ++ equals :: entry.2

/-- What stands behind a name and an equals sign at the front of a text. -/
def after? (name text : List UInt8) : Option (List UInt8) :=
  if (name ++ [equals]).isPrefixOf text then some (text.drop (name.length + 1)) else none

/-- The value of a name, from the first variable that begins with it. -/
def get? (env : Environment) (name : String) : Option (List UInt8) :=
  if name.isEmpty then none
  else env.entries.findSome? fun entry => after? (Text.Utf8.encode name) (written entry)

/-- The value of a name, if it is a text. -/
def text? (env : Environment) (name : String) : Option String :=
  (env.get? name).bind Text.Utf8.decode?

/-- Whether a variable is set to anything but nothing. -/
def isFilled (env : Environment) (name : String) : Bool :=
  (env.get? name).any fun value => !value.isEmpty

/-- The environment with a variable set. -/
def set (env : Environment) (name value : String) : Environment :=
  let key := Text.Utf8.encode name
  ⟨(key, Text.Utf8.encode value) :: env.entries.filter fun entry => entry.1 != key⟩

end Environment

end FileTransfer
