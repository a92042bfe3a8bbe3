import FileTransfer.Record.FileRecord
import FileTransfer.Time.Form

/-! The written forms of file records: the stored image of thirteen little-endian
words, JSON with the fields in stored order, and the diagnostic outline. -/
namespace FileTransfer

/-- A 32-bit word as four bytes, the lowest first. -/
def littleEndian (w : UInt32) : List UInt8 :=
  [w.toUInt8, (w >>> 8).toUInt8, (w >>> 16).toUInt8, (w >>> 24).toUInt8]

namespace FileRecord

/-- The record as thirteen words, in stored order. -/
def words (r : FileRecord) : List UInt32 :=
  [r.attributes, r.creation.low, r.creation.high, r.lastAccess.low, r.lastAccess.high,
    r.lastWrite.low, r.lastWrite.high, r.volume, r.sizeHigh, r.sizeLow, r.links, r.indexHigh,
    r.indexLow]

/-- The stored image of the record. -/
def image (r : FileRecord) : List UInt8 :=
  r.words.flatMap littleEndian

def toJson (r : FileRecord) : Json.Value :=
  .object
    [("file_attributes", wordJson r.attributes),
      ("creation_time", r.creation.toJson),
      ("last_access_time", r.lastAccess.toJson),
      ("last_write_time", r.lastWrite.toJson),
      ("volume_serial_number", wordJson r.volume),
      ("file_size_high", wordJson r.sizeHigh),
      ("file_size_low", wordJson r.sizeLow),
      ("number_of_links", wordJson r.links),
      ("file_index_high", wordJson r.indexHigh),
      ("file_index_low", wordJson r.indexLow)]

def outline (r : FileRecord) : Text.Outline :=
  .record "PortableFileInfo"
    [("file_attributes", wordOutline r.attributes),
      ("creation_time", r.creation.outline),
      ("last_access_time", r.lastAccess.outline),
      ("last_write_time", r.lastWrite.outline),
      ("volume_serial_number", wordOutline r.volume),
      ("file_size_high", wordOutline r.sizeHigh),
      ("file_size_low", wordOutline r.sizeLow),
      ("number_of_links", wordOutline r.links),
      ("file_index_high", wordOutline r.indexHigh),
      ("file_index_low", wordOutline r.indexLow)]

theorem length_image (r : FileRecord) : r.image.length = 52 := by
  simp [image, words, littleEndian]

end FileRecord

end FileTransfer
