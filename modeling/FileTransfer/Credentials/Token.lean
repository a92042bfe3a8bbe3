import FileTransfer.Json.Shape
import FileTransfer.Json.Value
import FileTransfer.Text.Outline

/-! Access tokens and their written forms. JSON shows all of a token and can be read back; the
diagnostic outline hides its two secrets. -/
namespace FileTransfer

/-- A token as it was handed out. -/
structure Token where
  access : String := ""
  refresh : String := ""
  expiresOn : Int64 := 0
  type : String := ""
  tenant : String := ""
  directory : String := ""
  deriving DecidableEq, Repr, Inhabited

namespace Token

/-- The text that stands for a secret. -/
def redacted : String := "<redacted>"

def toJson (t : Token) : Json.Value :=
  .object
    [("access_token", .text t.access),
      ("refresh_token", .text t.refresh),
      ("expires_on", .number t.expiresOn.toInt),
      ("token_type", .text t.type),
      ("tenant", .text t.tenant),
      ("active_directory_endpoint", .text t.directory)]

def outline (t : Token) : Text.Outline :=
  .record "OAuthTokenInfo"
    [("access_token", .quoted redacted),
      ("refresh_token", .quoted redacted),
      ("expires_on", .number t.expiresOn.toInt),
      ("token_type", .quoted t.type),
      ("tenant", .quoted t.tenant),
      ("active_directory_endpoint", .quoted t.directory)]

/-- The fields of a token in JSON. -/
def shape : Json.Shape where
  name := "OAuthTokenInfo"
  fields :=
    [("access_token", .text),
      ("refresh_token", .text),
      ("expires_on", .long),
      ("token_type", .text),
      ("tenant", .text),
      ("active_directory_endpoint", .text)]

/-- The token with these fields. -/
def ofRow (row : Json.Row shape.fields) : Token :=
  let (access, refresh, expiresOn, type, tenant, directory, _) := row
  { access, refresh, expiresOn, type, tenant, directory }

/-- Reads a token from JSON. -/
def ofJson (text : String) : Json.Reading Token :=
  (Json.readAll shape.read text).map ofRow

end Token

end FileTransfer
