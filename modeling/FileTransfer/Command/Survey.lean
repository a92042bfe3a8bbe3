import FileTransfer.Command.Ending

/-! A survey: what a call of the command has to know of the system around it, as lines of text. A
line is a word and what follows it after a space: the number of the user, the time, a variable of
the environment, the bytes of the settings file in hexadecimal digits, and for each path, in
order, its status or the code of the failure to get it. Other lines say nothing. -/
namespace FileTransfer

/-- What is known of the system. -/
structure Survey where
  user : Nat := 0
  time : String := ""
  environment : Environment := ⟨[]⟩
  settings : Option (List UInt8) := none
  /-- What is known of each path, in order. -/
  statuses : List (Except Fault Status) := []

namespace Survey

/-- The number of a text of decimal digits. -/
def nat? (s : List Char) : Option Nat :=
  if s.isEmpty || !s.all Char.isDigit then none
  else some (s.foldl (fun n c => n * 10 + (c.toNat - '0'.toNat)) 0)

/-- The number of a text of decimal digits, which may have a minus sign. -/
def int? (s : List Char) : Option Int :=
  match s with
  | '-' :: digits => (nat? digits).map fun n => -(n : Int)
  | digits => (nat? digits).map fun n => (n : Int)

/-- The bytes of a text of pairs of hexadecimal digits. -/
def bytes? : List Char → Option (List UInt8)
  | [] => some []
  | a :: b :: rest => do
    let high ← Text.Numeral.hexValue? a
    let low ← Text.Numeral.hexValue? b
    return UInt8.ofNat (high * 16 + low) :: (← bytes? rest)
  | [_] => none

/-- The status of eight numbers: the mode, the seconds and nanoseconds of the last access and of
the last change, the size, the links and the index. -/
def status? (numbers : List Int) : Option Status :=
  match numbers with
  | [mode, accessed, accessedNanos, modified, modifiedNanos, size, links, index] =>
    some
      { mode := UInt32.ofNat mode.toNat
        atime := ⟨Int64.ofInt accessed, Int64.ofInt accessedNanos⟩
        mtime := ⟨Int64.ofInt modified, Int64.ofInt modifiedNanos⟩
        size := UInt64.ofNat size.toNat
        links := UInt64.ofNat links.toNat
        index := UInt64.ofNat index.toNat }
  | _ => none

/-- The text before a character and the text after it. -/
def divide (c : Char) (s : List Char) : List Char × List Char :=
  (s.takeWhile (· != c), (s.dropWhile (· != c)).drop 1)

/-- Takes a line in. -/
def read (survey : Survey) (line : String) : Survey :=
  let (word, rest) := divide ' ' line.toList
  match String.ofList word with
  | "user" => { survey with user := (nat? rest).getD survey.user }
  | "time" => { survey with time := String.ofList rest }
  | "variable" =>
    let (name, value) := divide '=' rest
    { survey with
      environment := survey.environment.set (String.ofList name) (String.ofList value) }
  | "settings" => { survey with settings := bytes? rest }
  | "status" =>
    match ((Log.Filter.cutAt ' ' rest).mapM int?).bind status? with
    | some status => { survey with statuses := survey.statuses ++ [.ok status] }
    | none => survey
  | "failure" =>
    match int? rest with
    | some code => { survey with statuses := survey.statuses ++ [.error (.os ⟨code⟩)] }
    | none => survey
  | _ => survey

/-- The survey of some lines. -/
def ofLines (lines : List String) : Survey :=
  lines.foldl read {}

/-- The statuses under their paths. A path of which nothing is known names nothing. -/
def source (survey : Survey) (paths : List Path) (p : Path) : Except Fault Status :=
  ((paths.zip survey.statuses).lookup p).getD (.error (.os .noEntry))

/-- How a call of the command ends with these words after its name, whose tasks run one after the
other. -/
def run (survey : Survey) (program : String) (words : List String) : Ending :=
  let paths := words.map Path.ofString
  let call : Invocation :=
    { program := Text.Utf8.encode program, paths, environment := survey.environment,
      settings := survey.settings, user := survey.user, time := survey.time }
  call.ending (survey.source paths) (Pool.inTurn paths.length)

end Survey

end FileTransfer
