import FileTransfer.Json.Skip

/-! Reading JSON into records and variants. A record is read from an object, whose members may
come in any order and in any company, or from a list of its fields in their order. The text is
read once from the front, and the first thing that does not fit decides the failure. -/
namespace FileTransfer.Json

/-- The type of a field. -/
inductive Kind where
  /-- A 32-bit word. -/
  | word
  /-- A 64-bit integer with a sign. -/
  | long
  | text
  deriving DecidableEq, Repr

namespace Kind

/-- The values of a field. -/
abbrev Value : Kind → Type
  | .word => UInt32
  | .long => Int64
  | .text => String

/-- What a reader of messages calls the type. -/
def title : Kind → String
  | .word => "u32"
  | .long => "i64"
  | .text => "a string"

end Kind

/-! ### Single values -/

/-- Reads what stands where another type is expected, as far as it is described: a list or an
object is known by its first character. -/
def readFound : List Char → Reading Found
  | [] => .error .malformed
  | c :: rest =>
    match c with
    | 'n' => (word ['u', 'l', 'l'] rest).map fun _ => .null
    | 't' => (word ['r', 'u', 'e'] rest).map fun _ => .bool true
    | 'f' => (word ['a', 'l', 's', 'e'] rest).map fun _ => .bool false
    | '-' => (Number.read true rest).map fun r => .number r.1
    | '"' => (readText rest).map fun r => .text r.1
    | '[' => .ok .list
    | '\x7b' => .ok .object
    | c => if isDigit c then (Number.read false (c :: rest)).map fun r => .number r.1
      else .error .malformed

/-- The failure of a text whose next value is not of the type expected. -/
def unexpected (expected : String) (s : List Char) : Failure :=
  match readFound s with
  | .error e => e
  | .ok found => .mismatch (.type found expected)

/-- The word a number stands for. -/
def wordOf (n : Number) : Reading UInt32 :=
  match n with
  | .natural k =>
    if k < 0x100000000 then .ok (UInt32.ofNat k)
    else .error (.mismatch (.range (.number n) Kind.word.title))
  | .negative _ => .error (.mismatch (.range (.number n) Kind.word.title))
  | .float _ => .error (.mismatch (.type (.number n) Kind.word.title))

/-- The 64-bit integer a number stands for. -/
def longOf (n : Number) : Reading Int64 :=
  match n with
  | .natural k =>
    if k < 0x8000000000000000 then .ok (Int64.ofNat k)
    else .error (.mismatch (.range (.number n) Kind.long.title))
  | .negative k => .ok (Int64.ofInt k)
  | .float _ => .error (.mismatch (.type (.number n) Kind.long.title))

/-- Reads a number and turns it into a value. -/
def readNumber {α : Type} (title : String) (convert : Number → Reading α)
    (s : List Char) : Reading (α × List Char) :=
  match skipBlanks s with
  | [] => .error .cutOff
  | c :: rest =>
    if c = '-' || isDigit c then do
      let (n, rest) ← Number.read (c == '-') (if c = '-' then rest else c :: rest)
      return (← convert n, rest)
    else .error (unexpected title (c :: rest))

/-- Reads a text where one is expected. -/
def readString (title : String) (s : List Char) : Reading (String × List Char) :=
  match skipBlanks s with
  | [] => .error .cutOff
  | c :: rest => if c = '"' then readText rest else .error (unexpected title (c :: rest))

/-- Reads a field's value. -/
def Kind.read : (k : Kind) → List Char → Reading (k.Value × List Char)
  | .word, s => readNumber Kind.word.title wordOf s
  | .long, s => readNumber Kind.long.title longOf s
  | .text, s => readString Kind.text.title s

/-- Passes over the colon between a key and its value. -/
def readColon (s : List Char) : Reading (List Char) :=
  match skipBlanks s with
  | [] => .error .cutOff
  | c :: rest => if c = ':' then .ok rest else .error .malformed

/-! ### Records -/

/-- The declared fields of a record, in order. -/
abbrev Fields := List (String × Kind)

/-- The values of all fields. -/
def Row : Fields → Type
  | [] => Unit
  | f :: fs => f.2.Value × Row fs

/-- The values of the fields met so far. -/
def Slots : Fields → Type
  | [] => Unit
  | f :: fs => Option f.2.Value × Slots fs

namespace Slots

/-- No field met. -/
def empty : (fs : Fields) → Slots fs
  | [] => ()
  | _ :: fs => (none, empty fs)

/-- All values, or the first field that was not met. -/
def complete : {fs : Fields} → Slots fs → Reading (Row fs)
  | [], _ => .ok ()
  | (name, _) :: _, (none, _) => .error (.mismatch (.missing name))
  | _ :: _, (some v, rest) => rest.complete.map fun row => (v, row)

/-- Reads the value of a key, after the key. A field may be met only once, and its second key is
refused before anything after it is read; the value of an unknown key is passed over. -/
def readMember : {fs : Fields} → Slots fs → String → List Char → Reading (Slots fs × List Char)
  | [], _, _, s => do
    let rest ← skipValue (← readColon s)
    return ((), rest)
  | (name, kind) :: _, (slot, slots), key, s =>
    if key = name then
      match slot with
      | some _ => .error (.mismatch (.duplicate name))
      | none => do
        let (v, rest) ← kind.read (← readColon s)
        return ((some v, slots), rest)
    else do
      let (slots, rest) ← slots.readMember key s
      return ((slot, slots), rest)

end Slots

/-- Finds the next key of an object: whether there is one, and what follows its opening quote or
the end of the object. A comma stands before every key but the first. -/
def nextKey (first : Bool) (s : List Char) : Reading (Bool × List Char) :=
  match skipBlanks s with
  | [] => .error .cutOff
  | c :: rest =>
    if c = '\x7d' then .ok (false, rest)
    else if first then
      if c = '"' then .ok (true, rest) else .error .malformed
    else if c = ',' then
      match skipBlanks rest with
      | [] => .error .cutOff
      | d :: rest => if d = '"' then .ok (true, rest) else .error .malformed
    else .error .malformed

/-- Reads the members of an object to its end, in at most `limit` rounds. -/
def readMembers {fs : Fields} (first : Bool) (slots : Slots fs) (s : List Char) :
    (limit : Nat) → Reading (Slots fs × List Char)
  | 0 => .error .malformed
  | limit + 1 => do
    let (more, rest) ← nextKey first s
    if !more then return (slots, rest)
    else
      let (key, rest) ← readText rest
      let (slots, rest) ← slots.readMember key rest
      readMembers false slots rest limit

/-- Finds the next element of a list: where it starts, or nothing if the list ends here. -/
def nextElement (first : Bool) (s : List Char) : Reading (Option (List Char)) :=
  match skipBlanks s with
  | [] => .error .cutOff
  | c :: rest =>
    if c = ']' then .ok none
    else if first then .ok (some (c :: rest))
    else if c = ',' then
      match skipBlanks rest with
      | [] => .error .cutOff
      | d :: rest => if d = ']' then .error .malformed else .ok (some (d :: rest))
    else .error .malformed

/-- Reads the fields of a record as elements of a list, `met` of them having been read. -/
def readElements (expected : String) (met : Nat) : (fs : Fields) → List Char → Reading (Row fs × List Char)
  | [], s => .ok ((), s)
  | (_, kind) :: fs, s => do
    match ← nextElement (met == 0) s with
    | none => .error (.mismatch (.length met expected))
    | some s =>
      let (v, rest) ← kind.read s
      let (row, rest) ← readElements expected (met + 1) fs rest
      return ((v, row), rest)

/-- Passes over the end of a list. -/
def readListEnd (s : List Char) : Reading (List Char) :=
  match skipBlanks s with
  | [] => .error .cutOff
  | c :: rest => if c = ']' then .ok rest else .error .malformed

/-- A record: its name and its fields. -/
structure Shape where
  name : String
  fields : Fields

namespace Shape

/-- What a reader of messages calls the record. -/
def title (shape : Shape) : String :=
  "struct " ++ shape.name

/-- The record as a list of so many elements. -/
def listTitle (shape : Shape) : String :=
  let n := shape.fields.length
  shape.title ++ " with " ++ Text.Numeral.nat n ++ (if n = 1 then " element" else " elements")

/-- Reads a record. -/
def read (shape : Shape) (s : List Char) : Reading (Row shape.fields × List Char) :=
  match skipBlanks s with
  | [] => .error .cutOff
  | c :: rest =>
    if c = '[' then do
      let (row, rest) ← readElements shape.listTitle 0 shape.fields rest
      return (row, ← readListEnd rest)
    else if c = '\x7b' then do
      let (slots, rest) ← readMembers true (Slots.empty shape.fields) rest (rest.length + 1)
      return (← slots.complete, rest)
    else .error (unexpected shape.title (c :: rest))

end Shape

/-! ### Variants -/

/-- The one of several names that was read. -/
def variantOf {α : Type} (known : List (String × α)) (name : String) : Reading α :=
  match known.lookup name with
  | some v => .ok v
  | none => .error (.mismatch (.variant name (known.map Prod.fst)))

/-- Reads the word `null`. -/
def readNull (s : List Char) : Reading (List Char) :=
  match skipBlanks s with
  | [] => .error .cutOff
  | c :: rest =>
    if c = 'n' then word ['u', 'l', 'l'] rest else .error (unexpected "unit" (c :: rest))

/-- Reads the only key of an object of one member, after its brace. Only a text can be a key. -/
def readKey (s : List Char) : Reading (String × List Char) :=
  match skipBlanks s with
  | [] => .error .cutOff
  | c :: rest => if c = '"' then readText rest else .error .malformed

/-- Reads one of several names: as a text, or as the only key of an object, with `null` for its
value. -/
def readVariant {α : Type} (known : List (String × α)) (s : List Char) : Reading (α × List Char) :=
  match skipBlanks s with
  | [] => .error .cutOff
  | c :: rest =>
    if c = '"' then do
      let (name, rest) ← readText rest
      return (← variantOf known name, rest)
    else if c = '\x7b' then do
      let (name, rest) ← readKey rest
      let v ← variantOf known name
      let rest ← readNull (← readColon rest)
      match skipBlanks rest with
      | [] => .error .cutOff
      | c :: rest => if c = '\x7d' then return (v, rest) else .error .malformed
    else .error .malformed

/-- Reads a whole text: nothing but blanks may be left. -/
def readAll {α : Type} (read : List Char → Reading (α × List Char)) (text : String) : Reading α := do
  let (v, rest) ← read text.toList
  if (skipBlanks rest).isEmpty then return v else .error .malformed

end FileTransfer.Json
