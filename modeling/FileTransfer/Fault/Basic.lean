import FileTransfer.Fault.OsCode
import FileTransfer.Text.Outline

/-! Failures of input and output: a code of the operating system, a kind with a message, or a kind
alone. -/
namespace FileTransfer

/-- A failure of an input or output operation. -/
inductive Fault where
  /-- The operating system refused. -/
  | os (code : OsCode)
  /-- A program refused, with a message of its own and no cause behind it. -/
  | custom (kind : FaultKind) (message : String)
  /-- The request was refused before it was made, with a fixed message. -/
  | fixed (kind : FaultKind) (message : String)
  /-- Only the kind is known. -/
  | bare (kind : FaultKind)
  deriving DecidableEq, Repr

namespace Fault

def kind : Fault → FaultKind
  | .os code => code.kind
  | .custom kind _ => kind
  | .fixed kind _ => kind
  | .bare kind => kind

/-- The code of the operating system, if it was the one that refused. -/
def code? : Fault → Option OsCode
  | .os code => some code
  | _ => none

/-- The text of a failure. -/
def message : Fault → String
  | .os code => code.message ++ " (os error " ++ Text.Numeral.int code.number ++ ")"
  | .custom _ message => message
  | .fixed _ message => message
  | .bare kind => kind.description

def outline : Fault → Text.Outline
  | .os code =>
    .record "Os"
      [("code", .number code.number), ("kind", .plain code.kind.name),
        ("message", .quoted code.message)]
  | .custom kind message =>
    .record "Custom" [("kind", .plain kind.name), ("error", .quoted message)]
  | .fixed kind message =>
    .record "Error" [("kind", .plain kind.name), ("message", .quoted message)]
  | .bare kind => .wrapped "Kind" (.plain kind.name)

end Fault

end FileTransfer
