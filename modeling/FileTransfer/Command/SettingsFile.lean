import FileTransfer.Command.Settings
import FileTransfer.Filesystem.Walk

/-! Finding the settings file: in the working folder, or else in the nearest folder around it that
has one. What stands there under its name and is no file is passed by; a failure other than its
absence ends the search. -/
namespace FileTransfer

namespace Filesystem

/-- The path of a location, from the root. -/
def pathOf (loc : Location) : Path :=
  ⟨loc.reverse.flatMap fun name => Path.slash :: name⟩

/-- What a folder says about the search for a settings file. -/
inductive SettingsSearch where
  /-- The search goes on in the folder around. -/
  | onward
  /-- The search ends here, without a file if it cannot be read. -/
  | ended (bytes : Option (List UInt8))

/-- Looks for a settings file in a folder. -/
def settingsIn (fs : Filesystem) (folder : Location) : SettingsSearch :=
  match fs.locate ((pathOf folder).child (Text.Utf8.encode Settings.fileName)) with
  | .error e => if e.kind = .notFound then .onward else .ended none
  | .ok loc =>
    match fs.at? loc with
    | none => .onward
    | some node =>
      match node.kind with
      | .regular content =>
        .ended (if node.permits Node.readBit then some content.toList else none)
      | _ => .onward

/-- The settings file of a folder or, if it has none, of the nearest folder around it that has
one. -/
def settingsFrom (fs : Filesystem) : (folder : Location) → Option (List UInt8)
  | [] =>
    match fs.settingsIn [] with
    | .onward => none
    | .ended bytes => bytes
  | name :: around =>
    match fs.settingsIn (name :: around) with
    | .onward => fs.settingsFrom around
    | .ended bytes => bytes

/-- The settings file that the working folder sees. -/
def settings (fs : Filesystem) : Option (List UInt8) :=
  fs.settingsFrom fs.home

end Filesystem

end FileTransfer
