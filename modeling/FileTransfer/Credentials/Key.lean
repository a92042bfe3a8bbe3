import FileTransfer.Json.Shape
import FileTransfer.Log.Record
import FileTransfer.Text.Outline
import FileTransfer.Text.Utf8

/-! The key under which a token is cached. It comes from a variable of the environment, or is
made of a fixed stem and the number of the user, so that no user meets the token of another. -/
namespace FileTransfer

/-- The choice of a key. -/
structure KeyOptions where
  name : String
  deriving DecidableEq, Repr

namespace KeyOptions

/-- The variable that names the key. -/
def variableName : String := "TRANSFER_CRED_CACHE_KEY"

/-- The stem of a user's own key. -/
def defaultStem : String := "transfer-oauth-token"

/-- The key of a user: a stem, a hyphen and the user's number. -/
def forUser (stem : String) (user : Nat) : KeyOptions :=
  ⟨stem ++ "-" ++ Text.Numeral.nat user⟩

/-- The text of a variable, if it is set to a text that is not empty. -/
def usable? (value : Option (List UInt8)) : Option String :=
  (value.bind Text.Utf8.decode?).filter fun s => !s.isEmpty

/-- The key that the value of the variable gives to a user. -/
def ofVariable (value : Option (List UInt8)) (user : Nat) : KeyOptions :=
  match usable? value with
  | some name => ⟨name⟩
  | none => forUser defaultStem user

/-- What is logged when a key is chosen: that it came from the variable, if it did. -/
def choiceRecords (value : Option (List UInt8)) : List Log.Record :=
  match usable? value with
  | some _ => [⟨.debug, .config, "Using credential cache key from " ++ variableName⟩]
  | none => []

def outline (k : KeyOptions) : Text.Outline :=
  .record "CredCacheOptions" [("key_name", .quoted k.name)]

/-- The fields of a choice of a key in JSON. -/
def shape : Json.Shape where
  name := "CredCacheOptions"
  fields := [("key_name", .text)]

/-- Reads a choice of a key from JSON. -/
def ofJson (text : String) : Json.Reading KeyOptions :=
  (Json.readAll shape.read text).map fun row => ⟨row.1⟩

end KeyOptions

end FileTransfer
