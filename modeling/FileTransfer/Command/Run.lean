import FileTransfer.Command.Pool
import FileTransfer.Command.Settings
import FileTransfer.Credentials.Key
import FileTransfer.Log.Display
import FileTransfer.Log.Filter

/-! The command: for each path it is given it prints the record of the file as a line of JSON, in
the order of the paths. What it logs and the errors go to the second output, the log first. It
fails if any path does, or if there is none. -/
namespace FileTransfer

/-- A call of the command. -/
structure Invocation where
  /-- The name under which the command was called. -/
  program : List UInt8
  paths : List Path
  environment : Environment
  /-- The settings file that was found. -/
  settings : Option (List UInt8)
  /-- The number of the user. -/
  user : Nat
  /-- The time that is written with each record of the log. -/
  time : String

/-- What a call printed and whether it failed. A line may hold line ends of its own. -/
structure Printed where
  /-- The lines of the first output. -/
  out : List String := []
  /-- What the log wrote to the second output. -/
  log : String
  /-- The lines of errors that follow the log. -/
  errors : List String
  failed : Bool
  deriving DecidableEq, Repr

namespace Printed

/-- Lines as one text, each with its end. -/
def joined (lines : List String) : String :=
  String.join (lines.map fun line => line ++ "\n")

/-- The text of the first output. -/
def outText (p : Printed) : String :=
  joined p.out

/-- The text of the second output: the log, and the errors after it. -/
def errText (p : Printed) : String :=
  p.log ++ joined p.errors

end Printed

namespace Invocation

/-- The environment with the settings taken over. -/
def fullEnvironment (i : Invocation) : Environment :=
  match i.settings with
  | some bytes => Settings.apply bytes i.environment
  | none => i.environment

/-- The filter of the log, with complaints about its text. -/
def filter (i : Invocation) : Log.Filter × List String :=
  Log.Filter.ofText ((i.fullEnvironment.text? Log.Filter.variableName).getD Log.Filter.defaultText)

/-- What is logged before any file is asked for. -/
def openingRecords (i : Invocation) : List Log.Record :=
  let value := i.fullEnvironment.get? KeyOptions.variableName
  KeyOptions.choiceRecords value ++
    [⟨.debug, .command,
        "Credential cache key: " ++ (KeyOptions.ofVariable value i.user).name⟩,
      ⟨.info, .command,
        "Querying file information for " ++ Text.Numeral.nat i.paths.length ++ " path(s)"⟩]

/-- How the command is to be called. -/
def usage (i : Invocation) : String :=
  "Usage: " ++ Text.Utf8.lossy i.program ++ " <path>..."

/-- What is written for some records: the complaints about the filter, and the records that pass
it. -/
def logText (i : Invocation) (records : List Log.Record) : String :=
  let (filter, complaints) := i.filter
  let display := Log.Display.ofEnvironment i.fullEnvironment
  Printed.joined complaints ++
    String.join ((records.filter filter.passes).map (display.write i.time))

/-- What is printed once all files were asked for. -/
def printed (i : Invocation) (pool : Pool) : Printed :=
  { out := pool.gathered.lines
    log := i.logText (i.openingRecords ++ pool.log)
    errors := pool.gathered.errors
    failed := pool.gathered.failed }

/-- A call of the command, with what happens among its tasks. -/
def runWith (i : Invocation) (source : Pool.Source) (events : List PoolEvent) : Printed :=
  if i.paths.isEmpty then { log := i.logText [], errors := [i.usage], failed := true }
  else i.printed (Pool.run source (Pool.start i.paths) events)

end Invocation

end FileTransfer
