import FileTransfer.Filesystem.Content
import FileTransfer.Path
import FileTransfer.Record.Status

/-! A file system: files under numbers, and the places at which they are found. A place is the
list of names that lead to it, the last one first, so that the folder around a place is the tail
of the list. A file may have several places; a folder has one. -/
namespace FileTransfer

/-- A name in a folder. -/
abbrev Name := List UInt8

/-- The names that lead to a file, the last one first. -/
abbrev Location := List Name

/-- What a file is. -/
inductive FileKind where
  | regular (content : Content)
  | directory
  /-- A symbolic link, with the path it points at. -/
  | link (target : List UInt8)
  | pipe
  | socket
  | device
  deriving DecidableEq, Repr, Inhabited

/-- The bits that give the type of a file in its status. -/
def FileKind.typeBits : FileKind → UInt32
  | .regular _ => 0o100000
  | .directory => 0o040000
  | .link _ => 0o120000
  | .pipe => 0o010000
  | .socket => 0o140000
  | .device => 0o020000

/-- A file: what it is, its permission bits, whether it belongs to the user, and its times. -/
structure Node where
  kind : FileKind
  mode : UInt32
  mine : Bool := true
  accessed : Timestamp := ⟨0, 0⟩
  modified : Timestamp := ⟨0, 0⟩
  deriving DecidableEq, Repr, Inhabited

namespace Node

/-- The permission bits of a mode. -/
def modeMask : UInt32 := 0o7777

/-- The permission to read a file. -/
def readBit : UInt32 := 4

/-- The permission to write to a file, or to add to a folder. -/
def writeBit : UInt32 := 2

/-- The permission to go through a folder. -/
def searchBit : UInt32 := 1

/-- The permissions to change the names in a folder. -/
def changeBits : UInt32 := writeBit ||| searchBit

/-- Whether the user has a permission: by the owner's bits on a file of the user, by the bits for
all others on any other file. The user is an ordinary one, to whom files may be refused, and is in
no group. -/
def permits (n : Node) (bit : UInt32) : Bool :=
  (if n.mine then n.mode >>> 6 else n.mode) &&& bit == bit

def isDirectory (n : Node) : Bool :=
  n.kind == .directory

/-- The number of bytes that a file reports. Folders report a fixed number. -/
def size (n : Node) : Nat :=
  match n.kind with
  | .regular content => content.length
  | .directory => 4096
  | .link target => target.length
  | _ => 0

/-- The bit that lets a file run with the rights of its owner. -/
def setUserBit : UInt32 := 0o4000

/-- The bit that lets a file run with the rights of its group, and that folders hand down. -/
def setGroupBit : UInt32 := 0o2000

/-- The permission of the group to run a file. -/
def groupRunBit : UInt32 := 0o10

/-- A mode after the content of its file was changed: a file no longer lends the rights of its
owner, nor those of its group if the group may run it. -/
def changedMode (mode : UInt32) : UInt32 :=
  if mode &&& groupRunBit = 0 then mode &&& ~~~setUserBit
  else mode &&& ~~~(setUserBit ||| setGroupBit)

/-- The file with its content changed. What holds no bytes stays as it is. -/
def change (f : Content → Content) (n : Node) : Node :=
  match n.kind with
  | .regular content => { n with kind := .regular (f content), mode := changedMode n.mode }
  | _ => n

end Node

/-- A file system, as one user sees it from a working folder. -/
structure Filesystem where
  names : List (Location × Nat)
  nodes : List Node
  /-- The working folder. -/
  home : Location
  /-- The permission bits that new files do not get. -/
  umask : UInt32 := 0o022
  /-- The greatest length of a file. -/
  maxLength : Nat := 0x7fffffffffffffff
  deriving DecidableEq, Repr

namespace Filesystem

/-- The number of the file at a location. -/
def number? (fs : Filesystem) (loc : Location) : Option Nat :=
  fs.names.lookup loc

/-- The file at a location. -/
def at? (fs : Filesystem) (loc : Location) : Option Node :=
  (fs.number? loc).bind fun i => fs.nodes[i]?

/-- Whether a folder is at a location. -/
def isFolder (fs : Filesystem) (loc : Location) : Bool :=
  (fs.at? loc).any Node.isDirectory

/-- Whether the user has a permission on the file at a location. -/
def permitsAt (fs : Filesystem) (bits : UInt32) (loc : Location) : Bool :=
  (fs.at? loc).any fun n => n.permits bits

/-- How many places a file has. A folder is also in itself and in each folder it holds. -/
def links (fs : Filesystem) (loc : Location) : Nat :=
  if fs.isFolder loc then
    2 + fs.names.countP fun (l, _) => l != [] && l.tail == loc && fs.isFolder l
  else fs.names.countP fun (_, i) => some i == fs.number? loc

/-- The status of the file at a location. -/
def statusAt? (fs : Filesystem) (loc : Location) : Option Status := do
  let i ← fs.number? loc
  let n ← fs.nodes[i]?
  return {
    mode := n.kind.typeBits ||| n.mode &&& Node.modeMask
    atime := n.accessed
    mtime := n.modified
    size := n.size.toUInt64
    links := (fs.links loc).toUInt64
    index := i.toUInt64 }

/-- The file system with a new file at a location. -/
def add (fs : Filesystem) (loc : Location) (n : Node) : Filesystem :=
  { fs with names := fs.names ++ [(loc, fs.nodes.length)], nodes := fs.nodes ++ [n] }

/-- The file system with one file changed. -/
def modify (fs : Filesystem) (i : Nat) (f : Node → Node) : Filesystem :=
  { fs with nodes := fs.nodes.modify i f }

end Filesystem

end FileTransfer
