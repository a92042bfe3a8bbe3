import FileTransfer.Json.Shape
import FileTransfer.Json.Value
import FileTransfer.Text.Outline
import FileTransfer.Time.FileTime

/-! The written forms of a file time: JSON, which can be read back, and the diagnostic outline.
Both show the low half before the high one. -/
namespace FileTransfer

/-- A 32-bit word in JSON. -/
def wordJson (w : UInt32) : Json.Value :=
  .number w.toNat

/-- A 32-bit word in an outline. -/
def wordOutline (w : UInt32) : Text.Outline :=
  .number w.toNat

namespace FileTime

def toJson (t : FileTime) : Json.Value :=
  .object [("low_date_time", wordJson t.low), ("high_date_time", wordJson t.high)]

def outline (t : FileTime) : Text.Outline :=
  .record "Filetime"
    [("low_date_time", wordOutline t.low), ("high_date_time", wordOutline t.high)]

/-- The fields of a file time in JSON. -/
def shape : Json.Shape where
  name := "Filetime"
  fields := [("low_date_time", .word), ("high_date_time", .word)]

/-- The file time with these fields. -/
def ofRow (row : Json.Row shape.fields) : FileTime :=
  ⟨row.1, row.2.1⟩

/-- Reads a file time from JSON. -/
def ofJson (text : String) : Json.Reading FileTime :=
  (Json.readAll shape.read text).map ofRow

end FileTime

end FileTransfer
