import FileTransfer.Command.Ending
import FileTransfer.Command.Pool
import FileTransfer.Command.Run
import FileTransfer.Command.Settings
import FileTransfer.Command.SettingsFile
import FileTransfer.Command.Survey
import FileTransfer.Credentials.Cache
import FileTransfer.Credentials.Fleet
import FileTransfer.Credentials.Key
import FileTransfer.Credentials.Store
import FileTransfer.Credentials.Threads
import FileTransfer.Credentials.Token
import FileTransfer.Environment
import FileTransfer.Error
import FileTransfer.Fault.Basic
import FileTransfer.Fault.Kind
import FileTransfer.Fault.OsCode
import FileTransfer.Filesystem.Basic
import FileTransfer.Filesystem.Calls
import FileTransfer.Filesystem.Content
import FileTransfer.Filesystem.Setup
import FileTransfer.Filesystem.Walk
import FileTransfer.Json.Failure
import FileTransfer.Json.Literal
import FileTransfer.Json.Number
import FileTransfer.Json.Shape
import FileTransfer.Json.Skip
import FileTransfer.Json.Value
import FileTransfer.Log.Display
import FileTransfer.Log.Filter
import FileTransfer.Log.Record
import FileTransfer.Main
import FileTransfer.Path
import FileTransfer.Pattern.Basic
import FileTransfer.Pattern.Bracket
import FileTransfer.Pattern.CharSet
import FileTransfer.Pattern.Complaint
import FileTransfer.Pattern.Escape
import FileTransfer.Pattern.Expr
import FileTransfer.Pattern.Group
import FileTransfer.Pattern.Meaning
import FileTransfer.Pattern.Reader
import FileTransfer.Pattern.Span
import FileTransfer.Pattern.Tree
import FileTransfer.Record.FileRecord
import FileTransfer.Record.Form
import FileTransfer.Record.Status
import FileTransfer.Text.Alphanumeric
import FileTransfer.Text.Blank
import FileTransfer.Text.DefaultIgnorable
import FileTransfer.Text.GraphemeExtend
import FileTransfer.Text.Numeral
import FileTransfer.Text.Outline
import FileTransfer.Text.Quoted
import FileTransfer.Text.RangeTable
import FileTransfer.Text.Shortest
import FileTransfer.Text.Terminal
import FileTransfer.Text.Unprintable
import FileTransfer.Text.Utf8
import FileTransfer.Time.Clock
import FileTransfer.Time.FileTime
import FileTransfer.Time.Form
import FileTransfer.Transfer.Direction
import FileTransfer.Transfer.Parent
import FileTransfer.Transfer.Query
import FileTransfer.Transfer.SizedFile
import FileTransfer.Proofs.Credentials.History
import FileTransfer.Proofs.Credentials.Turns
import FileTransfer.Proofs.Credentials.Transcript
import FileTransfer.Proofs.Credentials.FailStop
import FileTransfer.Proofs.Credentials.LastWrite
import FileTransfer.Proofs.Filesystem.Growth
import FileTransfer.Proofs.Filesystem.Effects
import FileTransfer.Proofs.Filesystem.Walks
import FileTransfer.Proofs.Filesystem.Rooted
import FileTransfer.Proofs.Filesystem.NewFolders
import FileTransfer.Proofs.Filesystem.SameFolders
import FileTransfer.Proofs.Filesystem.SameShape
import FileTransfer.Proofs.Path.Ancestors
import FileTransfer.Proofs.Filesystem.Prefixes
import FileTransfer.Proofs.Filesystem.Links
import FileTransfer.Proofs.Filesystem.Opened
import FileTransfer.Proofs.Transfer.Reported
import FileTransfer.Proofs.Transfer.Recorded
import FileTransfer.Proofs.Transfer.SizedFile
import FileTransfer.Proofs.Transfer.Untouched
import FileTransfer.Proofs.Transfer.Inspected
import FileTransfer.Proofs.Time.Clock
import FileTransfer.Proofs.Record.Kept
import FileTransfer.Proofs.Command.Schedule
import FileTransfer.Proofs.Command.Inert
import FileTransfer.Proofs.Json.RoundTrip
import FileTransfer.Proofs.Credentials.Scope
import FileTransfer.Proofs.Credentials.Secrets
import FileTransfer.Proofs.Credentials.Transparent
import FileTransfer.Proofs.Transfer.AllOrNothing
import FileTransfer.Proofs.Transfer.Again
import FileTransfer.Proofs.Transfer.Lineage
import FileTransfer.Proofs.Record.Described
import FileTransfer.Proofs.Time.Window
import FileTransfer.Proofs.Time.Order
import FileTransfer.Proofs.Json.ByName
import FileTransfer.Proofs.Text.Subparts
import FileTransfer.Proofs.Json.Meaning
import FileTransfer.Proofs.Json.Rendered
import FileTransfer.Proofs.Command.Lines
import FileTransfer.Proofs.Command.AnyOrder
import FileTransfer.Proofs.Time.Views
import FileTransfer.Proofs.Record.Edits
import FileTransfer.Proofs.Record.Layout
import FileTransfer.Proofs.Json.Figures
import FileTransfer.Proofs.Record.Forms
import FileTransfer.Proofs.Text.Quoted
import FileTransfer.Proofs.Transfer.Logged
import FileTransfer.Proofs.Text.Readable
import FileTransfer.Proofs.Time.Aliases
import FileTransfer.Proofs.Credentials.Shown
import FileTransfer.Proofs.Error.Causes
