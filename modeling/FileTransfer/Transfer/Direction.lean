import FileTransfer.Json.Shape
import FileTransfer.Json.Value
import FileTransfer.Text.Outline

/-! The directions of a transfer job: what kind of place it reads from and what kind it writes to.
A direction is written by its name, which names both kinds in that order. -/
namespace FileTransfer

/-- Where a transfer reads and where it writes. -/
inductive Direction where
  | localBlob
  | localFile
  | blobLocal
  | fileLocal
  | blobBlob
  | fileFile
  | blobFile
  | fileBlob
  deriving DecidableEq, Repr

namespace Direction

/-- The name of a direction. -/
def name : Direction → String
  | .localBlob => "LocalBlob"
  | .localFile => "LocalFile"
  | .blobLocal => "BlobLocal"
  | .fileLocal => "FileLocal"
  | .blobBlob => "BlobBlob"
  | .fileFile => "FileFile"
  | .blobFile => "BlobFile"
  | .fileBlob => "FileBlob"

/-- All directions, in the order in which messages list them. -/
def all : List Direction :=
  [.localBlob, .localFile, .blobLocal, .fileLocal, .blobBlob, .fileFile, .blobFile, .fileBlob]

/-- The directions under their names. -/
def named : List (String × Direction) :=
  all.map fun d => (d.name, d)

def toJson (d : Direction) : Json.Value :=
  .text d.name

def outline (d : Direction) : Text.Outline :=
  .plain d.name

/-- Reads a direction from JSON. -/
def ofJson (text : String) : Json.Reading Direction :=
  Json.readAll (Json.readVariant named) text

/-- The direction of a name. -/
def ofName? (name : String) : Option Direction :=
  named.lookup name

theorem mem_all (d : Direction) : d ∈ all := by
  cases d <;> decide

end Direction

end FileTransfer
