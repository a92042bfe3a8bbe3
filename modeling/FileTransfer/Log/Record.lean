import FileTransfer.Text.Numeral

/-! Log records: a level, the part of the program that speaks, and a message. -/
namespace FileTransfer.Log

/-- How much a record matters. -/
inductive Level where
  | error
  | warn
  | info
  | debug
  | trace
  deriving DecidableEq, Repr

namespace Level

/-- The name of a level. -/
def name : Level → String
  | .error => "ERROR"
  | .warn => "WARN"
  | .info => "INFO"
  | .debug => "DEBUG"
  | .trace => "TRACE"

/-- How far down a level lies: the records that matter most are at one. -/
def depth : Level → Nat
  | .error => 1
  | .warn => 2
  | .info => 3
  | .debug => 4
  | .trace => 5

end Level

/-- The parts of the program that write records. -/
inductive Speaker where
  | config
  | credentials
  | transfer
  | files
  | logging
  | command
  deriving DecidableEq, Repr

/-- The name under which a part of the program speaks. -/
def Speaker.target : Speaker → String
  | .config => "transfer_platform::utils::config"
  | .credentials => "transfer_platform::utils::cred_cache"
  | .transfer => "transfer_platform::utils::transfer"
  | .files => "transfer_platform::utils::sys::unix"
  | .logging => "transfer_platform::utils::logging"
  | .command => "transfer_info"

/-- One entry of a log. -/
structure Record where
  level : Level
  speaker : Speaker
  message : String
  deriving DecidableEq, Repr

/-- What is logged when a log is asked for a second time. -/
def installedRecord : Record :=
  ⟨.debug, .logging, "Logger already installed"⟩

namespace Record

/-- The record as level, target and message. -/
def text (r : Record) : String :=
  r.level.name ++ " " ++ r.speaker.target ++ " " ++ r.message

/-- The record as a line of a log, with the time at which it was written. Levels are filled up
to five characters. -/
def line (time : String) (r : Record) : String :=
  let level := r.level.name
  "[" ++ time ++ " " ++ level ++ String.ofList (List.replicate (5 - level.length) ' ') ++ " " ++
    r.speaker.target ++ "] " ++ r.message

end Record

end FileTransfer.Log
