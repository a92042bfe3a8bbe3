import FileTransfer.Time.FileTime

/-! The portable file record: what is known of a file, in the shape of a fixed record of thirteen
32-bit words. Sizes and indices of 64 bits are kept as two halves. A record is changed by edits,
each of which writes one group of fields or resets them all. -/
namespace FileTransfer

/-- The halves of a 64-bit number. -/
structure Halves where
  high : UInt32
  low : UInt32
  deriving DecidableEq, Repr, Inhabited

namespace Halves

def split (n : UInt64) : Halves :=
  ⟨(n >>> 32).toUInt32, n.toUInt32⟩

def join (h : Halves) : UInt64 :=
  (h.high.toUInt64 <<< 32) ||| h.low.toUInt64

end Halves

/-- The attribute of a directory. -/
def directoryAttribute : UInt32 := 0x10

/-- The attribute of a file that has no other. -/
def normalAttribute : UInt32 := 0x80

/-- What is known of a file, in the order it is stored. -/
structure FileRecord where
  attributes : UInt32 := 0
  creation : FileTime := ⟨0, 0⟩
  lastAccess : FileTime := ⟨0, 0⟩
  lastWrite : FileTime := ⟨0, 0⟩
  volume : UInt32 := 0
  sizeHigh : UInt32 := 0
  sizeLow : UInt32 := 0
  links : UInt32 := 0
  indexHigh : UInt32 := 0
  indexLow : UInt32 := 0
  deriving DecidableEq, Repr, Inhabited

namespace FileRecord

/-- The record with every field zero. -/
def blank : FileRecord := {}

/-- Whether the directory bit is among the attributes. -/
def isDirectory (r : FileRecord) : Bool :=
  r.attributes &&& directoryAttribute != 0

def size (r : FileRecord) : UInt64 :=
  Halves.join ⟨r.sizeHigh, r.sizeLow⟩

def index (r : FileRecord) : UInt64 :=
  Halves.join ⟨r.indexHigh, r.indexLow⟩

def setSizeHalves (h : Halves) (r : FileRecord) : FileRecord :=
  { r with sizeHigh := h.high, sizeLow := h.low }

def setIndexHalves (h : Halves) (r : FileRecord) : FileRecord :=
  { r with indexHigh := h.high, indexLow := h.low }

def setSize (n : UInt64) (r : FileRecord) : FileRecord :=
  r.setSizeHalves (.split n)

def setIndex (n : UInt64) (r : FileRecord) : FileRecord :=
  r.setIndexHalves (.split n)

/-- A change to a record. -/
inductive Edit where
  | size (n : UInt64)
  | sizeHalves (h : Halves)
  | index (n : UInt64)
  | indexHalves (h : Halves)
  | attributes (bits : UInt32)
  | creation (nanos : Int64)
  | reset
  deriving DecidableEq, Repr

/-- The record after an edit. -/
def edit (r : FileRecord) : Edit → FileRecord
  | .size n => r.setSize n
  | .sizeHalves h => r.setSizeHalves h
  | .index n => r.setIndex n
  | .indexHalves h => r.setIndexHalves h
  | .attributes bits => { r with attributes := bits }
  | .creation nanos => { r with creation := .ofNanos nanos }
  | .reset => blank

/-- The record after each of a list of edits. -/
def history (r : FileRecord) : List Edit → List FileRecord
  | [] => []
  | e :: rest => r.edit e :: history (r.edit e) rest

/-- The record after all of a list of edits. -/
def edits (r : FileRecord) (es : List Edit) : FileRecord :=
  es.foldl edit r

end FileRecord

end FileTransfer
