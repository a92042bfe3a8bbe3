import FileTransfer.Command.Run
import FileTransfer.Command.SettingsFile
import FileTransfer.Text.Quoted

/-! How a call of the command ends. Before anything else it takes the settings over, and it breaks
down on a value with a zero byte, which no variable can hold: then no file is asked for. Of what is
printed then only the reason is kept here, and not where in the program it came up. -/
namespace FileTransfer

namespace Environment

/-- The variable that was set first of those that no environment can hold: its value has a zero
byte. -/
def unholdable? (env : Environment) : Option (List UInt8 × List UInt8) :=
  env.entries.reverse.find? fun entry => entry.2.contains 0

end Environment

/-- How a call ends. -/
inductive Ending where
  | printed (p : Printed)
  /-- The call broke down, and this is told of it. -/
  | broken (reason : String)
  deriving DecidableEq, Repr

namespace Ending

/-- The code that a call gives back. -/
def exitCode : Ending → UInt32
  | .printed p => if p.failed then 1 else 0
  | .broken _ => 101

/-- The text of the first output. -/
def outText : Ending → String
  | .printed p => p.outText
  | .broken _ => ""

/-- The text of the second output. -/
def errText : Ending → String
  | .printed p => p.errText
  | .broken reason => reason ++ "\n"

end Ending

namespace Invocation

/-- What a call breaks down on, if it does. -/
def breakdown? (i : Invocation) : Option String :=
  i.fullEnvironment.unholdable?.map fun (name, value) =>
    "failed to set environment variable `" ++ Text.Quoted.bytes name ++ "` to `" ++
      Text.Quoted.bytes value ++ "`: " ++ Filesystem.zeroByte.message

/-- How a call ends, with what happens among its tasks. -/
def ending (i : Invocation) (source : Pool.Source) (events : List PoolEvent) : Ending :=
  match i.breakdown? with
  | some reason => .broken reason
  | none => .printed (i.runWith source events)

/-- A call made in the working folder of a file system, which sees a settings file or none. -/
def within (i : Invocation) (fs : Filesystem) : Invocation :=
  { i with settings := fs.settings }

/-- How a call ends that asks a file system. -/
def endingIn (i : Invocation) (fs : Filesystem) (events : List PoolEvent) : Ending :=
  (i.within fs).ending fs.status events

end Invocation

end FileTransfer
