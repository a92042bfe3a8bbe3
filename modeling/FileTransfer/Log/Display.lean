import FileTransfer.Environment
import FileTransfer.Log.Record
import FileTransfer.Text.Terminal

/-! How a log is written out. Its reader is taken to be no terminal, so terminal sequences in the
records are left out unless the environment asks for them. -/
namespace FileTransfer.Log

/-- What becomes of terminal sequences in records. -/
inductive Display where
  | plain
  | asIs
  deriving DecidableEq, Repr

namespace Display

/-- The variable that decides about the display of the log. -/
def styleVariable : String := "RUST_LOG_STYLE"

/-- The variable that forbids terminal sequences in all programs. -/
def refusalVariable : String := "NO_COLOR"

/-- The variable that asks for terminal sequences from all programs. -/
def demandVariable : String := "CLICOLOR_FORCE"

/-- What an environment asks for. The variable of the log goes before those of all programs, and
of these the one that forbids before the one that asks. -/
def ofEnvironment (env : Environment) : Display :=
  match env.text? styleVariable with
  | some "always" => .asIs
  | some "never" => .plain
  | _ =>
    if env.isFilled refusalVariable then .plain
    else if env.isFilled demandVariable then .asIs
    else .plain

/-- A record as it is written out, with its line end. An open sequence goes no further than its
record, and takes the line end with it. -/
def write (d : Display) (time : String) (r : Record) : String :=
  let line := r.line time ++ "\n"
  match d with
  | .plain => Text.Terminal.plain line
  | .asIs => line

end Display

end FileTransfer.Log
