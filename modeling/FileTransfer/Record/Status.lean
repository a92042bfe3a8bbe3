import FileTransfer.Record.FileRecord

/-! The status a file system reports for a file, and the portable record made from it. The record
keeps whether the file is a directory, two of its times, its size, its index and the low 32 bits
of its link count; the time of creation is not reported, so the last change stands for it. -/
namespace FileTransfer

/-- The status of a file, as far as the record needs it. -/
structure Status where
  mode : UInt32
  atime : Timestamp
  mtime : Timestamp
  size : UInt64
  links : UInt64
  index : UInt64
  deriving DecidableEq, Repr

namespace Status

/-- The bits of a mode that give the type of the file. -/
def typeMask : UInt32 := 0o170000

/-- The type bits of a directory. -/
def directoryType : UInt32 := 0o040000

/-- A directory is known by all its type bits; one of them alone also marks devices and
sockets. -/
def isDirectory (s : Status) : Bool :=
  s.mode &&& typeMask == directoryType

/-- The portable record of a status. -/
def toRecord (s : Status) : FileRecord :=
  let written := s.mtime.toFileTime
  FileRecord.setIndex s.index <| FileRecord.setSize s.size
    { attributes := if s.isDirectory then directoryAttribute else normalAttribute
      creation := written
      lastAccess := s.atime.toFileTime
      lastWrite := written
      volume := 0
      links := s.links.toUInt32 }

end Status

end FileTransfer
