import FileTransfer.Fault.Basic
import FileTransfer.Filesystem.Basic

/-! Finding the file that a path names. A path is walked step by step from the root or from the
working folder; the target of a symbolic link is put in place of the link. A walk ends at a file,
or just before one: in a folder, with a last name that it does not hold. -/
namespace FileTransfer

/-- A step of a path. -/
inductive PathStep where
  /-- A single dot. -/
  | here
  /-- Two dots. -/
  | up
  | name (n : Name)
  /-- A slash at the end: what comes before it must be a folder. -/
  | slash
  deriving DecidableEq, Repr

namespace Path

/-- Two dots. -/
def dots : Name := [dot, dot]

/-- The step of a piece, if the piece is not empty. -/
def step? (piece : List UInt8) : Option PathStep :=
  if piece.isEmpty then none
  else if piece = [dot] then some .here
  else if piece = dots then some .up
  else some (.name piece)

/-- The steps of a path. A slash at the end is a step if something comes before it. -/
def steps (bytes : List UInt8) : List PathStep :=
  let all := (cut bytes).filterMap step?
  if bytes.getLast? = some slash ∧ all ≠ [] then all ++ [.slash] else all

/-- Whether a path starts at the root. -/
def isAbsolute (bytes : List UInt8) : Bool :=
  bytes.head? == some slash

end Path

/-- What becomes of the last name of a path. -/
inductive LastName where
  /-- A link there is followed. -/
  | follow
  /-- A link there is kept, and so is a slash after the name. -/
  | keep
  /-- A link there is followed, and a file may be made there: a slash after the name is
  refused. -/
  | create
  deriving DecidableEq, Repr

/-- Where a walk ends. -/
inductive Place where
  | found (loc : Location)
  /-- A folder does not hold the last name. -/
  | vacant (folder : Location) (name : Name)
  deriving DecidableEq, Repr

/-- How far a walk goes without following a link. -/
inductive Progress where
  | ended (r : Except OsCode Place)
  /-- A link in a folder, the path it points at, and the steps after it. -/
  | link (folder : Location) (target : List UInt8) (rest : List PathStep)

namespace Filesystem

/-- The longest name. -/
def maxName : Nat := 255

/-- One more than the length of the longest path. -/
def maxPath : Nat := 4096

/-- The number of links that a walk may follow. -/
def maxLinks : Nat := 40

/-- Whether a walk may go on in a folder. -/
def enter (fs : Filesystem) (loc : Location) : Except OsCode Unit :=
  match fs.at? loc with
  | none => .error .noEntry
  | some n =>
    if !n.isDirectory then .error .notDirectory
    else if !n.permits Node.searchBit then .error .accessDenied
    else .ok ()

/-- Whether nothing is left of a path after its last name. -/
def isLast (rest : List PathStep) : Bool :=
  rest == [] || rest == [.slash]

/-- Walks from a location up to the next link that has to be followed, or to the end. -/
def advance (fs : Filesystem) (last : LastName) : Location → List PathStep → Progress
  | loc, [] => .ended (.ok (.found loc))
  | loc, .slash :: rest =>
    if fs.isFolder loc then advance fs last loc rest else .ended (.error .notDirectory)
  | loc, step :: rest =>
    match fs.enter loc with
    | .error e => .ended (.error e)
    | .ok () =>
      match step with
      | .name n =>
        if last = .create ∧ rest = [.slash] then .ended (.error .isDirectory)
        else if maxName < n.length then .ended (.error .nameTooLong)
        else match fs.at? (n :: loc) with
          | none => .ended (if isLast rest then .ok (.vacant loc n) else .error .noEntry)
          | some node =>
            if last = .keep ∧ isLast rest then .ended (.ok (.found (n :: loc)))
            else match node.kind with
              | .link target => .link loc target rest
              | _ => advance fs last (n :: loc) rest
      | .up => advance fs last loc.tail rest
      | _ => advance fs last loc rest

/-- Walks from a location to the end, following at most the given number of links. -/
def walk (fs : Filesystem) (last : LastName) (links : Nat) (loc : Location)
    (steps : List PathStep) : Except OsCode Place :=
  match fs.advance last loc steps with
  | .ended r => r
  | .link folder target rest =>
    match links with
    | 0 => .error .tooManyLinks
    | links + 1 =>
      fs.walk last links (if Path.isAbsolute target then [] else folder) (Path.steps target ++ rest)

/-- The message about a path that holds a byte which no path may hold. -/
def zeroByte : Fault :=
  .fixed .invalidInput "file name contained an unexpected NUL byte"

/-- Where a path leads. A path with a zero byte is refused without a look at the file system. -/
def resolve (fs : Filesystem) (last : LastName) (p : Path) : Except Fault Place :=
  if p.bytes.contains 0 then .error zeroByte
  else if p.bytes.isEmpty then .error (.os .noEntry)
  else if maxPath ≤ p.bytes.length then .error (.os .nameTooLong)
  else
    let start := if Path.isAbsolute p.bytes then [] else fs.home
    (fs.walk last maxLinks start (Path.steps p.bytes)).mapError .os

/-- The location of the file that a path names, links followed. -/
def locate (fs : Filesystem) (p : Path) : Except Fault Location := do
  match ← fs.resolve .follow p with
  | .found loc => return loc
  | .vacant _ _ => throw (.os .noEntry)

/-- The location of the folder that a path names, if it may be gone into. -/
def entered (fs : Filesystem) (p : Path) : Except Fault Location := do
  let loc ← fs.locate p
  (fs.enter loc).mapError .os
  return loc

/-- Whether a path names a file. -/
def existsAt (fs : Filesystem) (p : Path) : Bool :=
  (fs.locate p).isOk

/-- Whether a path names a folder. -/
def isFolderAt (fs : Filesystem) (p : Path) : Bool :=
  match fs.locate p with
  | .ok loc => fs.isFolder loc
  | .error _ => false

end Filesystem

end FileTransfer
