import FileTransfer.Filesystem.Calls

/-! Setting a file system up and looking it over: files, links and special files made by hand,
modes and times set, and the list of all that lies below the working folder. -/
namespace FileTransfer.Filesystem

/-- The permission bits that are asked for a file made by hand. -/
def fileMode : UInt32 := 0o666

/-- Writes a file anew, and then gives it another length. A file whose length is refused stays
written. -/
def putFile (fs : Filesystem) (p : Path) (bytes : List UInt8) (length : Option Nat) :
    Except Fault Unit × Filesystem :=
  match fs.openEmptied Node.writeBit fileMode p with
  | .error e => (.error e, fs)
  | .ok (i, fs) =>
    let fs := fs.writeBytes i 0 bytes
    match length.map (fs.setLength i) with
    | none => (.ok (), fs)
    | some (.ok fs) => (.ok (), fs)
    | some (.error e) => (.error e, fs)

/-! ### Special files and links -/

/-- Where something made by hand goes: a folder, and a name that it does not hold. A slash after
the name is refused. -/
def freePlace (fs : Filesystem) (p : Path) : Except Fault (Location × Name) := do
  match ← fs.resolve .keep p with
  | .found _ => throw (.os .alreadyExists)
  | .vacant folder name =>
    if p.endsInSlash then throw (.os .noEntry) else return (folder, name)

/-- Makes a file of a special kind, or a symbolic link. -/
def makeSpecial (fs : Filesystem) (p : Path) (kind : FileKind) (mode : UInt32) :
    Except Fault Filesystem := do
  let (folder, name) ← fs.freePlace p
  fs.addIn folder name { kind, mode }

/-- Makes a pipe, which nobody but the user may open. -/
def makePipe (fs : Filesystem) (p : Path) : Except Fault Filesystem :=
  fs.makeSpecial p .pipe (0o600 &&& ~~~fs.umask)

/-- One more than the length of the longest path of a socket. -/
def maxSocketPath : Nat := 108

/-- Makes a socket. A place that is taken counts as an address in use. -/
def makeSocket (fs : Filesystem) (p : Path) : Except Fault Filesystem :=
  if p.bytes.contains 0 then
    .error (.fixed .invalidInput "paths must not contain interior null bytes")
  else if maxSocketPath ≤ p.bytes.length then
    .error (.fixed .invalidInput "path must be shorter than SUN_LEN")
  else match fs.makeSpecial p .socket (0o777 &&& ~~~fs.umask) with
    | .error e => .error (if e = .os .alreadyExists then .os .addressInUse else e)
    | .ok fs => .ok fs

/-- Makes a symbolic link, which has all permissions and points somewhere. -/
def makeLink (fs : Filesystem) (p : Path) (target : List UInt8) : Except Fault Filesystem :=
  if target.isEmpty then .error (.os .noEntry)
  else if maxPath ≤ target.length then .error (.os .nameTooLong)
  else fs.makeSpecial p (.link target) 0o777

/-- Gives a file another place. A folder cannot have two. -/
def makeHardLink (fs : Filesystem) (p target : Path) : Except Fault Filesystem := do
  match ← fs.resolve (if target.endsInSlash then .follow else .keep) target with
  | .vacant _ _ => throw (.os .noEntry)
  | .found loc =>
    let (folder, name) ← fs.freePlace p
    fs.mayChange folder
    match fs.number? loc with
    | some i =>
      if fs.isFolder loc then throw (.os .notPermitted)
      else return { fs with names := fs.names ++ [(name :: folder, i)] }
    | none => throw (.os .noEntry)

/-! ### Changes -/

/-- Changes the file that a path names, which only its owner may do. -/
def modifyAt (fs : Filesystem) (p : Path) (f : Node → Node) : Except Fault Filesystem := do
  let loc ← fs.locate p
  match fs.number? loc, fs.at? loc with
  | some i, some n => if n.mine then return fs.modify i f else throw (.os .notPermitted)
  | _, _ => throw (.os .noEntry)

def setMode (fs : Filesystem) (p : Path) (mode : UInt32) : Except Fault Filesystem :=
  fs.modifyAt p fun n => { n with mode := mode &&& Node.modeMask }

def setTimes (fs : Filesystem) (p : Path) (accessed modified : Timestamp) :
    Except Fault Filesystem :=
  fs.modifyAt p fun n => { n with accessed, modified }

/-- Whether a folder holds nothing. -/
def isBare (fs : Filesystem) (loc : Location) : Bool :=
  fs.names.all fun (l, _) => l == [] || l.tail != loc

/-- Whether all folders at a location and below can be emptied: each can be read, and each that
holds something can be changed. -/
def canEmpty (fs : Filesystem) (loc : Location) : Bool :=
  fs.names.all fun (l, _) => !loc.isSuffixOf l ||
    match fs.at? l with
    | some n => !n.isDirectory || n.permits Node.readBit && (fs.isBare l || n.permits Node.changeBits)
    | none => true

/-- Takes a place away, and all places below it. The file stays if it has another place. With a
slash after it the path has to name a folder, and not through a link. -/
def remove (fs : Filesystem) (p : Path) : Except Fault Filesystem := do
  if p.endsInSlash then
    let _ ← fs.locate p
  match ← fs.resolve .keep p with
  | .found loc =>
    if p.endsInSlash ∧ !fs.isFolder loc then throw (.os .notDirectory)
    fs.mayChange loc.tail
    if fs.canEmpty loc then
      return { fs with names := fs.names.filter fun (l, _) => !loc.isSuffixOf l }
    else throw (.os .accessDenied)
  | .vacant _ _ => throw (.os .noEntry)

/-! ### Looking it over -/

/-- The bytes of the file that a path names. -/
def bytesAt (fs : Filesystem) (p : Path) : Except Fault (List UInt8) := do
  let loc ← fs.locate p
  match fs.at? loc with
  | none => throw (.os .noEntry)
  | some n =>
    if !n.permits Node.readBit then throw (.os .accessDenied)
    else match n.kind with
      | .regular content => return content.toList
      | .directory => throw (.os .isDirectory)
      | .socket => throw (.os .noDevice)
      | _ => return []

/-- A file below the working folder, and the path to it from there. -/
structure Entry where
  path : List UInt8
  node : Node
  deriving DecidableEq, Repr

/-- The names that lead to a location from a folder, first name first, if it lies below. -/
def below? (folder loc : Location) : Option (List Name) :=
  if folder.isSuffixOf loc ∧ folder ≠ loc then
    some (loc.take (loc.length - folder.length)).reverse
  else none

/-- Whether all folders around a location, up to a given one, let their files be seen: they can be
read and gone through. -/
def isSeen (fs : Filesystem) (folder : Location) : Location → Bool
  | [] => true
  | name :: around =>
    if name :: around = folder then true
    else fs.permitsAt (Node.readBit ||| Node.searchBit) around && fs.isSeen folder around

/-- All files below the working folder that can be seen from there, in the order of the bytes of
their paths. -/
def listing (fs : Filesystem) : List Entry :=
  let entries := fs.names.filterMap fun (loc, i) =>
    match below? fs.home loc, fs.nodes[i]? with
    | some names, some node => if fs.isSeen fs.home loc then some ⟨Path.glue names, node⟩ else none
    | _, _ => none
  entries.mergeSort fun a b => decide (a.path ≤ b.path)

end FileTransfer.Filesystem
