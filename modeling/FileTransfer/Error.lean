import FileTransfer.Fault.Basic
import FileTransfer.Path

/-! The errors of the library. Each names the operation that failed and carries what caused it;
the message of an error ends in the message of its cause. -/
namespace FileTransfer

/-- Why an operation failed. -/
inductive Error where
  | fileStat (path : Path) (cause : Fault)
  | directoryCreation (path : Path) (cause : Fault)
  | fileOpen (path : Path) (cause : Fault)
  | fileResize (path : Path) (size : Int64) (cause : Fault)
  /-- A token store failed and gave its reason as a text. -/
  | tokenStore (reason : String)
  /-- A token store failed because of another error. -/
  | tokenStoreOver (cause : Error)
  | cacheUnavailable
  deriving DecidableEq, Repr

namespace Error

/-- The name of the operation that failed. -/
def name : Error → String
  | .fileStat .. => "FileStat"
  | .directoryCreation .. => "DirectoryCreation"
  | .fileOpen .. => "FileOpen"
  | .fileResize .. => "FileResize"
  | .tokenStore _ => "TokenStore"
  | .tokenStoreOver _ => "TokenStore"
  | .cacheUnavailable => "CacheUnavailable"

/-- The text of an error. -/
def message : Error → String
  | .fileStat path cause => "stat(" ++ path.shown ++ ") failed: " ++ cause.message
  | .directoryCreation path cause =>
    "failed to create directory " ++ path.shown ++ ": " ++ cause.message
  | .fileOpen path cause => "failed to open " ++ path.shown ++ ": " ++ cause.message
  | .fileResize path size cause =>
    "failed to resize " ++ path.shown ++ " to " ++ Text.Numeral.int size.toInt ++ " bytes: " ++
      cause.message
  | .tokenStore reason => "token store error: " ++ reason
  | .tokenStoreOver cause => "token store error: " ++ cause.message
  | .cacheUnavailable => "credential cache is unavailable"

/-- What is behind an error: another error, a failure of input or output, or just a reason. -/
inductive Cause where
  | fault (f : Fault)
  | reason (s : String)
  | error (e : Error)
  deriving DecidableEq, Repr

/-- The text of a cause. -/
def Cause.message : Cause → String
  | .fault f => f.message
  | .reason s => s
  | .error e => e.message

/-- The cause of an error. -/
def cause? : Error → Option Cause
  | .fileStat _ cause => some (.fault cause)
  | .directoryCreation _ cause => some (.fault cause)
  | .fileOpen _ cause => some (.fault cause)
  | .fileResize _ _ cause => some (.fault cause)
  | .tokenStore reason => some (.reason reason)
  | .tokenStoreOver cause => some (.error cause)
  | .cacheUnavailable => none

/-- The path on which the operation failed. -/
def path? : Error → Option Path
  | .fileStat path _ => some path
  | .directoryCreation path _ => some path
  | .fileOpen path _ => some path
  | .fileResize path _ _ => some path
  | _ => none

/-- The size that was asked for. -/
def size? : Error → Option Int64
  | .fileResize _ size _ => some size
  | _ => none

/-- The failure of input or output behind an error. -/
def fault? (e : Error) : Option Fault :=
  match e.cause? with
  | some (.fault f) => some f
  | _ => none

def outline : Error → Text.Outline
  | .fileStat path cause =>
    .record "FileStat" [("path", path.outline), ("source", cause.outline)]
  | .directoryCreation path cause =>
    .record "DirectoryCreation" [("path", path.outline), ("source", cause.outline)]
  | .fileOpen path cause =>
    .record "FileOpen" [("path", path.outline), ("source", cause.outline)]
  | .fileResize path size cause =>
    .record "FileResize"
      [("path", path.outline), ("size", .number size.toInt), ("source", cause.outline)]
  | .tokenStore reason => .wrapped "TokenStore" (.quoted reason)
  | .tokenStoreOver cause => .wrapped "TokenStore" cause.outline
  | .cacheUnavailable => .plain "CacheUnavailable"

end Error

end FileTransfer
