import FileTransfer.Filesystem.Walk

/-! What a program can do to a file system: ask for the status of a file, make folders, open a
file anew, and change its length and its bytes. A call that is refused changes nothing. -/
namespace FileTransfer.Filesystem

/-- The status of the file that a path names, links followed. -/
def status (fs : Filesystem) (p : Path) : Except Fault Status := do
  let loc ← fs.locate p
  match fs.statusAt? loc with
  | some s => return s
  | none => throw (.os .noEntry)

/-- Whether the names in a folder may be changed: it may be written to and searched. -/
def mayChange (fs : Filesystem) (folder : Location) : Except Fault Unit :=
  match fs.at? folder with
  | none => .error (.os .noEntry)
  | some f => if f.permits Node.changeBits then .ok () else .error (.os .accessDenied)

/-- Adds a file to a folder, if its names may be changed. -/
def addIn (fs : Filesystem) (folder : Location) (name : Name) (n : Node) :
    Except Fault Filesystem := do
  fs.mayChange folder
  return fs.add (name :: folder) n

/-! ### Folders -/

/-- The permission bits that are asked for a new folder. -/
def folderMode : UInt32 := 0o777

/-- A new folder in another one, which hands down the group if it is marked so. -/
def newFolder (fs : Filesystem) (folder : Location) : Node where
  kind := .directory
  mode := (folderMode &&& ~~~fs.umask) |||
    (((fs.at? folder).map Node.mode).getD 0 &&& Node.setGroupBit)

/-- Makes one folder. -/
def makeFolder (fs : Filesystem) (p : Path) : Except Fault Filesystem := do
  match ← fs.resolve .keep p with
  | .found _ => throw (.os .alreadyExists)
  | .vacant folder name => fs.addIn folder name (fs.newFolder folder)

/-- Makes the first of several nested folders, given from the inside out, and those around it
that are missing. A folder that is there already is no failure. What was made before a failure
stays. -/
def makeNested (fs : Filesystem) : List Path → Except Fault Unit × Filesystem
  | [] => (.error (.fixed .uncategorized "failed to create whole tree"), fs)
  | p :: around =>
    if p.isEmpty then (.ok (), fs)
    else match fs.makeFolder p with
      | .ok fs => (.ok (), fs)
      | .error e =>
        if e.kind = .notFound then
          match fs.makeNested around with
          | (.error e, fs) => (.error e, fs)
          | (.ok (), fs) =>
            match fs.makeFolder p with
            | .ok fs => (.ok (), fs)
            | .error e => (if fs.isFolderAt p then .ok () else .error e, fs)
        else (if fs.isFolderAt p then .ok () else .error e, fs)

/-- Makes a folder and those around it that are missing. -/
def makeFolders (fs : Filesystem) (p : Path) : Except Fault Unit × Filesystem :=
  fs.makeNested p.ancestors

/-! ### Files -/

/-- Opens the file that a path names and empties it, or makes it with the given permission bits.
The number of the file is given back. -/
def openEmptied (fs : Filesystem) (access mode : UInt32) (p : Path) :
    Except Fault (Nat × Filesystem) := do
  match ← fs.resolve .create p with
  | .vacant folder name =>
    let after ← fs.addIn folder name { kind := .regular .empty, mode := mode &&& ~~~fs.umask }
    return (fs.nodes.length, after)
  | .found loc =>
    match fs.number? loc, fs.at? loc with
    | some i, some n =>
      if n.isDirectory then throw (.os .isDirectory)
      else if !n.permits access then throw (.os .accessDenied)
      else if n.kind = .socket then throw (.os .noDevice)
      else return (i, fs.modify i (Node.change fun _ => .empty))
    | _, _ => throw (.os .noEntry)

/-- Changes the length of a file. Only a file that holds bytes has a length to change. -/
def setLength (fs : Filesystem) (i n : Nat) : Except Fault Filesystem :=
  match fs.nodes[i]?.map Node.kind with
  | some (.regular _) =>
    if n ≤ fs.maxLength then .ok (fs.modify i (Node.change (Content.resize n)))
    else .error (.os .fileTooLarge)
  | _ => .error (.os .invalidArgument)

/-- Writes bytes into a file. -/
def writeBytes (fs : Filesystem) (i offset : Nat) (bytes : List UInt8) : Filesystem :=
  fs.modify i (Node.change (Content.write offset bytes))

/-- The content of the file of a number. -/
def contentOf (fs : Filesystem) (i : Nat) : Content :=
  match fs.nodes[i]?.map Node.kind with
  | some (.regular content) => content
  | _ => .empty

end FileTransfer.Filesystem
