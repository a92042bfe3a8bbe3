import FileTransfer.Proofs.Text.Quoted
import FileTransfer.Transfer.SizedFile

/-! What operations on files say in the log.

A path and the cause of a failure go into a record between quotes only, and the rest of its message
is names and numbers, so no path forges a second record or steers a display, whatever its bytes are
and whatever fails (`log_contained`). -/
namespace FileTransfer
open Text (Legible Steers)
open Text.Outline (Showable FieldsShowable)

/-- A record of the two quietest levels whose message is one line and steers no display. -/
structure Log.Record.Contained (r : Log.Record) : Prop where
  quiet : r.level = .debug ∨ r.level = .trace
  clean : ∀ c ∈ r.message.toList, ¬ Steers c

/-! ### What the messages are made of -/

theorem Path.legible_quoted (p : Path) : Legible p.quoted.toList :=
  Text.Quoted.legible_bytes p.bytes

theorem FaultKind.legible_name (k : FaultKind) : Legible k.name.toList := by
  cases k <;> decide

theorem Fault.showable_outline (f : Fault) : f.outline.Showable := by
  have hkind := f.kind.legible_name
  cases f with
  | os code =>
    have hcode := Text.Numeral.legible_int code.number
    simp only [outline, Showable, FieldsShowable, Text.Outline.number, and_true]
    exact ⟨by decide, by decide, hcode, by decide, hkind, by decide⟩
  | custom kind message =>
    simp only [outline, Showable, FieldsShowable, and_true]
    exact ⟨by decide, by decide, hkind, by decide⟩
  | fixed kind message =>
    simp only [outline, Showable, FieldsShowable, and_true]
    exact ⟨by decide, by decide, hkind, by decide⟩
  | bare kind =>
    simp only [outline, Showable]
    exact ⟨by decide, hkind⟩

theorem FileRecord.showable_outline (r : FileRecord) : r.outline.Showable := by
  simp only [outline, FileTime.outline, wordOutline, Text.Outline.number, Showable, FieldsShowable,
    Text.Numeral.legible_int, true_and, and_true]
  decide

theorem Direction.legible_name (d : Direction) : Legible d.name.toList := by
  cases d <;> decide

theorem Text.Outline.legible_boolText (b : Bool) : Legible (boolText b).toList := by
  cases b <;> decide

theorem legible_failureText {attempt : String} (h : Legible attempt.toList) (path : Path)
    (cause : Fault) : Legible (failureText attempt path cause).toList := by
  have hcause := Text.Outline.legible_line _ cause.showable_outline
  simp only [failureText, String.toList_append, Text.legible_append]
  exact ⟨⟨⟨⟨h, by decide⟩, path.legible_quoted⟩, by decide⟩, hcause⟩

/-! ### Records -/

theorem Log.Record.Contained.debug {speaker : Log.Speaker} {message : String}
    (h : Legible message.toList) : Contained ⟨.debug, speaker, message⟩ :=
  ⟨.inl rfl, fun _ hc => h.not_steers hc⟩

theorem Log.Record.Contained.trace {speaker : Log.Speaker} {message : String}
    (h : Legible message.toList) : Contained ⟨.trace, speaker, message⟩ :=
  ⟨.inr rfl, fun _ hc => h.not_steers hc⟩

open Log.Record (Contained)

/-- Whatever status or failure a path is answered with, what is logged of it is contained. -/
theorem QueryReport.contained_ofStatus (path : Path) (status : Except Fault Status) :
    ∀ r ∈ (ofStatus path status).log, r.Contained := by
  cases status with
  | ok s =>
    have hrecord := Text.Outline.legible_line _ s.toRecord.showable_outline
    refine List.forall_mem_singleton.mpr (.trace ?_)
    simp only [String.toList_append, Text.legible_append]
    exact ⟨⟨⟨by decide, path.legible_quoted⟩, by decide⟩, hrecord⟩
  | error cause =>
    exact List.forall_mem_singleton.mpr (.debug (legible_failureText (by decide) path cause))

theorem contained_backupModeRecord (enable : Bool) (d : Direction) :
    (backupModeRecord enable d).Contained := by
  refine .trace ?_
  simp only [String.toList_append, Text.legible_append]
  exact ⟨⟨⟨by decide, Text.Outline.legible_boolText enable⟩, by decide⟩, d.legible_name⟩

namespace Filesystem
variable {fs : Filesystem} {log : List Log.Record}

theorem contained_makeParent (fs : Filesystem) (parent : Path) :
    ∀ r ∈ (fs.makeParent parent).log, r.Contained := by
  have hconcurrent : Contained
      ⟨.trace, .transfer, "Parent " ++ parent.quoted ++ " was created concurrently"⟩ := by
    refine .trace ?_
    simp only [String.toList_append, Text.legible_append]
    exact ⟨⟨by decide, parent.legible_quoted⟩, by decide⟩
  unfold makeParent
  split
  · exact List.forall_mem_nil _
  · next cause after _ =>
    split
    · exact List.forall_mem_singleton.mpr hconcurrent
    · exact List.forall_mem_singleton.mpr
        (.debug (legible_failureText (by decide) parent cause))

theorem contained_ensureParent (fs : Filesystem) (destination : Path) :
    ∀ r ∈ (fs.ensureParent destination).log, r.Contained := by
  unfold ensureParent
  split
  · exact List.forall_mem_nil _
  · split
    · exact List.forall_mem_nil _
    · exact fs.contained_makeParent _

/-- Giving a file its size adds nothing to a log but what is contained. -/
theorem contained_sizeFile (hlog : ∀ r ∈ log, r.Contained) (destination : Path) (size : Int64)
    (h : Handle) (made : List Path) :
    ∀ r ∈ (fs.sizeFile destination size h made log).log, r.Contained := by
  have hcreated : Contained
      ⟨.trace, .files, "Created " ++ destination.quoted ++ " with " ++
        Text.Numeral.int size.toInt ++ " bytes (write-through: " ++
        Text.Outline.boolText h.synchronous ++ ")"⟩ := by
    have hsize := Text.Numeral.legible_int size.toInt
    have hsynchronous := Text.Outline.legible_boolText h.synchronous
    refine .trace ?_
    simp only [String.toList_append, Text.legible_append]
    exact ⟨⟨⟨⟨⟨⟨by decide, destination.legible_quoted⟩, by decide⟩, hsize⟩, by decide⟩,
      hsynchronous⟩, by decide⟩
  unfold sizeFile
  split
  · exact hlog
  · split
    · exact List.forall_mem_append.mpr ⟨hlog, List.forall_mem_singleton.mpr hcreated⟩
    · next cause _ =>
      exact List.forall_mem_append.mpr ⟨hlog, List.forall_mem_singleton.mpr
        (.debug (legible_failureText (by decide) destination cause))⟩

theorem contained_createSized (fs : Filesystem) (destination : Path) (size : Int64)
    (synchronous : Bool) :
    ∀ r ∈ (fs.createSized destination size synchronous).log, r.Contained := by
  have hparent := fs.contained_ensureParent destination
  unfold createSized
  dsimp only
  split
  · exact hparent
  · split
    · next cause _ =>
      exact List.forall_mem_append.mpr ⟨hparent, List.forall_mem_singleton.mpr
        (.debug (legible_failureText (by decide) destination cause))⟩
    · exact contained_sizeFile hparent destination size _ _

end Filesystem

/-! ### Nothing is forged -/

/-- What the operations on files try, as they put it when it fails. -/
def attempts : List String :=
  ["stat failed for", "Failed to create directory", "Failed to open", "Failed to size"]

/-- **No path forges a record**: whatever a file system holds and whatever bytes a path has, each
record of each operation is contained. The status of a path may come from anywhere, and a failure
may have any cause. -/
theorem log_contained (fs : Filesystem) (path : Path) :
    (∀ r ∈ (fs.query path).log, r.Contained) ∧
    (∀ status, ∀ r ∈ (QueryReport.ofStatus path status).log, r.Contained) ∧
    (∀ r ∈ (fs.ensureParent path).log, r.Contained) ∧
    (∀ size synchronous, ∀ r ∈ (fs.createSized path size synchronous).log, r.Contained) ∧
    (∀ enable d, (backupModeRecord enable d).Contained) ∧
    ∀ attempt ∈ attempts, ∀ speaker cause,
      Contained ⟨.debug, speaker, failureText attempt path cause⟩ := by
  have hattempts : ∀ attempt ∈ attempts, Legible attempt.toList := by decide
  refine ⟨QueryReport.contained_ofStatus path _, QueryReport.contained_ofStatus path,
    fs.contained_ensureParent path, fs.contained_createSized path, contained_backupModeRecord, ?_⟩
  intro attempt hattempt speaker cause
  exact .debug (legible_failureText (hattempts attempt hattempt) path cause)

/-- A path that ends its line, clears the screen and closes its quotes, and holds a byte of no
character: first nothing is there, then a file is made there. -/
theorem log_contained_hostile :
    let path : Path := ⟨[0x0A, 0x1B, 0x5B, 0x32, 0x4A, 0x22, 0xFF]⟩
    let root : Node := { kind := .directory, mode := 0o755 }
    let fs : Filesystem := { names := [([], 0)], nodes := [root], home := [] }
    let missed : Log.Record :=
      ⟨.debug, .files, "stat failed for \"\\n\\u\x7b1b\x7d[2J\\\"\\xFF\" - Error: " ++
        "Os \x7b code: 2, kind: NotFound, message: \"No such file or directory\" \x7d"⟩
    let created : Log.Record :=
      ⟨.trace, .files, "Created \"\\n\\u\x7b1b\x7d[2J\\\"\\xFF\" with 5 bytes (write-through: true)"⟩
    (fs.query path).log = [missed] ∧ missed.Contained ∧
      (fs.createSized path 5 true).log = [created] ∧ created.Contained := by
  intro path root fs missed created
  have hmissed : (fs.query path).log = [missed] := by decide +kernel
  have hcreated : (fs.createSized path 5 true).log = [created] := by decide +kernel
  obtain ⟨hquery, -, -, hcreate, -, -⟩ := log_contained fs path
  exact ⟨hmissed, hquery missed (by simp [hmissed]), hcreated,
    hcreate 5 true created (by simp [hcreated])⟩

end FileTransfer
