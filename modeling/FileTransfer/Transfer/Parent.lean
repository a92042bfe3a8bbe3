import FileTransfer.Transfer.Query

/-! Making the folders that a destination needs. Those of its lexical ancestors that name nothing
are noted before anything is made; if the parent can be made they are reported, outermost first.
A parent that turns out to be there after a failure counts as made. -/
namespace FileTransfer

/-- The outcome of an operation on a file system: its result, the file system after it, the
folders it reported as made, and what was logged. -/
structure Report (α : Type) where
  result : Except Error α
  system : Filesystem
  made : List Path
  log : List Log.Record

/-- The parent of a destination, if it has one that is not empty. -/
def Path.folder? (p : Path) : Option Path :=
  p.parent?.filter fun q => !q.isEmpty

namespace Filesystem

/-- Of a path and its ancestors, nearest first, those that name nothing, up to the first one that
names something. -/
def missing (fs : Filesystem) (p : Path) : List Path :=
  p.ancestors.takeWhile fun q => !q.isEmpty && !fs.existsAt q

/-- Makes a folder that is not there, and reports what was missing before. -/
def makeParent (fs : Filesystem) (parent : Path) : Report Unit :=
  let missing := fs.missing parent
  match fs.makeFolders parent with
  | (.ok (), after) => ⟨.ok (), after, missing.reverse, []⟩
  | (.error cause, after) =>
    if after.isFolderAt parent then
      ⟨.ok (), after, missing.reverse,
        [⟨.trace, .transfer, "Parent " ++ parent.quoted ++ " was created concurrently"⟩]⟩
    else
      ⟨.error (.directoryCreation parent cause), after, [],
        [⟨.debug, .transfer, failureText "Failed to create directory" parent cause⟩]⟩

/-- Sees to it that the parent of a destination is a folder. -/
def ensureParent (fs : Filesystem) (destination : Path) : Report Unit :=
  match destination.folder? with
  | none => ⟨.ok (), fs, [], []⟩
  | some parent => if fs.isFolderAt parent then ⟨.ok (), fs, [], []⟩ else fs.makeParent parent

end Filesystem

end FileTransfer
