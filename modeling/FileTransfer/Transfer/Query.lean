import FileTransfer.Error
import FileTransfer.Filesystem.Calls
import FileTransfer.Log.Record
import FileTransfer.Record.Form

/-! Asking for the record of a file. Symbolic links are followed. The status may come from
anywhere; what is done with it is the same. -/
namespace FileTransfer

/-- What is told of an operation that failed: what was tried, and the cause. -/
def failureText (attempt : String) (path : Path) (cause : Fault) : String :=
  attempt ++ " " ++ path.quoted ++ " - Error: " ++ cause.outline.line

/-- The outcome of asking for a file: its record, and what was logged. -/
structure QueryReport where
  result : Except Error FileRecord
  log : List Log.Record

namespace QueryReport

/-- The report for a path whose status was asked for. -/
def ofStatus (path : Path) (status : Except Fault Status) : QueryReport :=
  match status with
  | .ok s =>
    let record := s.toRecord
    ⟨.ok record,
      [⟨.trace, .files, "File info for " ++ path.quoted ++ ": " ++ record.outline.line⟩]⟩
  | .error cause =>
    ⟨.error (.fileStat path cause), [⟨.debug, .files, failureText "stat failed for" path cause⟩]⟩

end QueryReport

/-- The record of the file that a path names. -/
def Filesystem.query (fs : Filesystem) (path : Path) : QueryReport :=
  .ofStatus path (fs.status path)

end FileTransfer
