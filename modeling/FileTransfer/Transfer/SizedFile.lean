import FileTransfer.Transfer.Direction
import FileTransfer.Transfer.Parent

/-! Making a file of a given size. The folders around it are made first; then the file is opened
and emptied, or made; then it is given its size. Each stage has an error of its own, and what
earlier stages did stays. -/
namespace FileTransfer

/-- The permission bits that are asked for a new file. -/
def defaultFileMode : UInt32 := 0o644

/-- An open file: its number, whether each write waits for the disk, whether writes go to the end
of the file, and where the next one goes otherwise. -/
structure Handle where
  file : Nat
  synchronous : Bool
  appending : Bool := false
  offset : Nat := 0
  deriving DecidableEq, Repr

/-- Writes through a handle. -/
def Handle.write (h : Handle) (fs : Filesystem) (bytes : List UInt8) : Handle × Filesystem :=
  ({ h with offset := h.offset + bytes.length }, fs.writeBytes h.file h.offset bytes)

namespace Filesystem

/-- The length for a size that was asked for, which must not be negative. -/
def lengthOf (size : Int64) : Except Fault Nat :=
  if size < 0 then .error (.custom .invalidInput "negative file size")
  else .ok size.toInt.toNat

/-- Gives an open file a size. Size zero needs no change. -/
def sizeFile (fs : Filesystem) (destination : Path) (size : Int64) (h : Handle)
    (made : List Path) (log : List Log.Record) : Report Handle :=
  if size = 0 then ⟨.ok h, fs, made, log⟩
  else match lengthOf size >>= fs.setLength h.file with
    | .ok after =>
      ⟨.ok h, after, made,
        log ++ [⟨.trace, .files,
          "Created " ++ destination.quoted ++ " with " ++ Text.Numeral.int size.toInt ++
            " bytes (write-through: " ++ Text.Outline.boolText h.synchronous ++ ")"⟩]⟩
    | .error cause =>
      ⟨.error (.fileResize destination size cause), fs, made,
        log ++ [⟨.debug, .files, failureText "Failed to size" destination cause⟩]⟩

/-- Makes a file of a size, or empties it and gives it that size. -/
def createSized (fs : Filesystem) (destination : Path) (size : Int64) (synchronous : Bool) :
    Report Handle :=
  let parent := fs.ensureParent destination
  match parent.result with
  | .error e => ⟨.error e, parent.system, parent.made, parent.log⟩
  | .ok () =>
    let access := Node.readBit ||| Node.writeBit
    match parent.system.openEmptied access defaultFileMode destination with
    | .error cause =>
      ⟨.error (.fileOpen destination cause), parent.system, parent.made,
        parent.log ++ [⟨.debug, .files, failureText "Failed to open" destination cause⟩]⟩
    | .ok (file, opened) =>
      opened.sizeFile destination size { file, synchronous } parent.made parent.log

end Filesystem

/-- Backup mode means nothing here: asking for it is logged, and changes nothing. -/
def backupModeRecord (enable : Bool) (d : Direction) : Log.Record :=
  ⟨.trace, .files,
    "Backup mode (" ++ Text.Outline.boolText enable ++ ") n/a for " ++ d.outline.line⟩

end FileTransfer
