import FileTransfer.Credentials.Token
import FileTransfer.Proofs.Json.Record
import FileTransfer.Time.Form

/-! Values that are the same after they were written and read.

A text form round-trips (`RoundTrips`) as soon as every text that is written is read as the value it
was written from. For records in JSON this is `Json.Shape.readAll_render`; `json_roundTrips` is what
follows for tokens, whatever texts they hold, and for file times. -/
namespace FileTransfer

/-- Reading what was written gives the value back, and writing that gives the same text, so that two
values have the same text only if they are equal. -/
structure RoundTrips {α : Type} (write : α → String) (read : String → Json.Reading α) : Prop where
  reads : ∀ v, read (write v) = .ok v
  rewrites : ∀ v, (read (write v)).map write = .ok (write v)
  apart : ∀ v w, write v = write w ↔ v = w

theorem roundTrips_of_reads {α : Type} {write : α → String} {read : String → Json.Reading α}
    (h : ∀ v, read (write v) = .ok v) : RoundTrips write read where
  reads := h
  rewrites := by
    intro v
    rw [h v]
    rfl
  apart := by
    intro v w
    refine ⟨fun heq => ?_, fun heq => heq ▸ rfl⟩
    have hread := h v
    rw [heq, h w] at hread
    exact (Except.ok.inj hread).symm

/-- The fields of a token, in the order in which they are written. -/
def Token.row (t : Token) : Json.Row Token.shape.fields :=
  (t.access, t.refresh, t.expiresOn, t.type, t.tenant, t.directory, ())

theorem Token.toJson_eq (t : Token) : t.toJson = .object t.row.members :=
  rfl

/-- The halves of a file time, in the order in which they are written. -/
def FileTime.row (t : FileTime) : Json.Row FileTime.shape.fields :=
  (t.low, t.high, ())

theorem FileTime.toJson_eq (t : FileTime) : t.toJson = .object t.row.members :=
  rfl

/-- Every token and every file time can be read back from its JSON text, and no two have the same
text. -/
theorem json_roundTrips :
    RoundTrips (fun t : Token => t.toJson.render) Token.ofJson ∧
      RoundTrips (fun t : FileTime => t.toJson.render) FileTime.ofJson := by
  constructor
  · refine roundTrips_of_reads fun t => ?_
    rw [Token.ofJson, t.toJson_eq, Json.Shape.readAll_render (by decide)]
    rfl
  · refine roundTrips_of_reads fun t => ?_
    rw [FileTime.ofJson, t.toJson_eq, Json.Shape.readAll_render (by decide)]
    rfl

end FileTransfer
