import FileTransfer.Proofs.Command.Inert
import FileTransfer.Proofs.Json.Rendered
import FileTransfer.Proofs.Text.Subparts

/-! Printed lines, read back.

Whatever bytes a path has and whatever its record holds, the line for them is one line and says just
two things: the path as it is shown, and the ten fields of the record (`lineOf_readsBack`). Since it
says nothing else, two lines are the same only if both things are (`lineOf_inj`), and what is printed
is cut into its lines at the line ends (`splitOn_outText`). `lines_readBack` puts this together. -/
namespace FileTransfer

/-! ### What a line says -/

/-- What is said of a time: its halves, in the order of their names. -/
def FileTime.said (t : FileTime) : Json.Value :=
  .object [("high_date_time", .number t.high.toNat), ("low_date_time", .number t.low.toNat)]

/-- What is said of a record: its fields, in the order of their names. -/
def FileRecord.said (r : FileRecord) : Json.Value :=
  .object
    [("creation_time", r.creation.said),
      ("file_attributes", .number r.attributes.toNat),
      ("file_index_high", .number r.indexHigh.toNat),
      ("file_index_low", .number r.indexLow.toNat),
      ("file_size_high", .number r.sizeHigh.toNat),
      ("file_size_low", .number r.sizeLow.toNat),
      ("last_access_time", r.lastAccess.said),
      ("last_write_time", r.lastWrite.said),
      ("number_of_links", .number r.links.toNat),
      ("volume_serial_number", .number r.volume.toNat)]

/-- What a line says: a record and the text of a path. -/
def lineSaid (text : String) (r : FileRecord) : Json.Value :=
  .object [("info", r.said), ("path", .text text)]

theorem sorted_lineSaid (text : String) (r : FileRecord) :
    (Json.Value.object [("path", .text text), ("info", r.toJson)]).sorted = lineSaid text r :=
  rfl

theorem inRange_lineSaid (text : String) (r : FileRecord) : (lineSaid text r).InRange := by
  simp [lineSaid, FileRecord.said, FileTime.said, Json.Value.InRange, Json.MembersInRange,
    Json.Number.fits_word]

theorem toNat_word_inj {v w : UInt32} : (v.toNat : Int) = w.toNat ↔ v = w :=
  Int.ofNat_inj.trans UInt32.toNat_inj

theorem FileTime.said_inj {t u : FileTime} : t.said = u.said ↔ t = u := by
  refine ⟨fun h => ?_, fun h => h ▸ rfl⟩
  cases t
  cases u
  simp only [said, Json.Value.object.injEq, List.cons.injEq, Prod.mk.injEq, true_and, and_true,
    Json.Value.number.injEq, toNat_word_inj] at h
  obtain ⟨rfl, rfl⟩ := h
  rfl

theorem FileRecord.said_inj {r q : FileRecord} : r.said = q.said ↔ r = q := by
  refine ⟨fun h => ?_, fun h => h ▸ rfl⟩
  cases r
  cases q
  simp only [said, Json.Value.object.injEq, List.cons.injEq, Prod.mk.injEq, true_and, and_true,
    Json.Value.number.injEq, toNat_word_inj, FileTime.said_inj] at h
  obtain ⟨rfl, rfl, rfl, rfl, rfl, rfl, rfl, rfl, rfl, rfl⟩ := h
  rfl

/-! ### What is read back from a line -/

/-- A line from which a path and a record are read back: it is one line, and it says the record and
the path as it is shown, which is the path itself if this is a text. -/
structure ReadsBack (line : String) (p : Path) (r : FileRecord) : Prop where
  unbroken : Json.Unbroken line.toList
  meaning : ∃ text : String, Json.Means line (lineSaid text r) ∧
    Text.Utf8.Shown p.bytes text.toList ∧ ∀ s, p.bytes = Text.Utf8.encode s → text = s

namespace Gathered
variable {p q : Path} {r r' : FileRecord}

theorem lineOf_eq (p : Path) (r : FileRecord) : lineOf p r = (lineSaid p.shown r).render := by
  rw [lineOf, sorted_lineSaid]

theorem lineOf_readsBack (p : Path) (r : FileRecord) : ReadsBack (lineOf p r) p r where
  unbroken := Json.Value.unbroken_render _
  meaning := by
    refine ⟨p.shown, ?_, Text.Utf8.shown_iff.mpr rfl, fun s hs => ?_⟩
    · rw [lineOf_eq]
      exact Json.Value.means_render (inRange_lineSaid p.shown r)
    · rw [Path.shown, hs, Text.Utf8.lossy_encode]

/-- Two lines are the same if the same is shown of the paths and the records are the same. -/
theorem lineOf_inj : lineOf p r = lineOf q r' ↔ p.shown = q.shown ∧ r = r' := by
  rw [lineOf_eq, lineOf_eq, Json.Value.render_inj (inRange_lineSaid _ _) (inRange_lineSaid _ _)]
  simp [lineSaid, FileRecord.said_inj, and_comm]

end Gathered

/-! ### What is read back from the output -/

theorem Printed.splitOn_joined {lines : List String} (h : ∀ line ∈ lines, '\n' ∉ line.toList) :
    (joined lines).toList.splitOn '\n' = lines.map String.toList ++ [[]] := by
  induction lines with
  | nil => rfl
  | cons line lines ih =>
    obtain ⟨hline, hlines⟩ := List.forall_mem_cons.mp h
    have htext : (joined (line :: lines)).toList =
        line.toList ++ '\n' :: (joined lines).toList := by
      simp [joined]
    have hplain : ∀ c ∈ line.toList, (c == '\n') = false := by
      rintro c hc
      exact beq_eq_false_iff_ne.mpr fun heq => hline (heq ▸ hc)
    rw [List.splitOn_eq_splitOnP] at ih ⊢
    rw [htext, List.splitOnP_append_cons_of_forall_mem hplain '\n' (by decide), ih hlines]
    rfl

namespace Invocation
variable {i : Invocation} {source : Pool.Source} {events : List PoolEvent}

/-- Whatever happens among the tasks, all that is printed are lines for paths and records. -/
theorem exists_lineOf {line : String} (h : line ∈ (i.runWith source events).out) :
    ∃ p r, line = Gathered.lineOf p r := by
  unfold runWith at h
  split at h
  · cases h
  · have hcollected := (Pool.collected_start source i.paths).run events
    rw [printed, hcollected.gathered] at h
    obtain ⟨e, -, he⟩ := List.mem_filterMap.mp h
    cases e with
    | found p r => exact ⟨p, r, (Option.some.inj he).symm⟩
    | failed => cases he
    | lost => cases he

/-- What is printed is cut into its lines at the line ends. -/
theorem splitOn_outText (i : Invocation) (source : Pool.Source) (events : List PoolEvent) :
    (i.runWith source events).outText.toList.splitOn '\n' =
      (i.runWith source events).out.map String.toList ++ [[]] := by
  refine Printed.splitOn_joined fun line hline => ?_
  obtain ⟨p, r, rfl⟩ := exists_lineOf hline
  exact (Gathered.lineOf_readsBack p r).unbroken.newline_notMem

theorem out_runWith (h : Pool.Completes source i.paths events) :
    (i.runWith source events).out = i.paths.filterMap (Pool.lineFor source) := by
  unfold runWith
  split
  · next hempty =>
    rw [List.isEmpty_iff.mp hempty]
    rfl
  · rw [printed, (Pool.run_of_isDone h.unbroken h.done).1]

end Invocation

/-- The line for any path, of any bytes, and any record is one line from which both are read back.
For paths that are texts it is another line for another path or another record. And once a call has
all its answers, what it printed is cut at its line ends into the lines for the paths whose status it
got, in their order. -/
theorem lines_readBack :
    (∀ (p : Path) (r : FileRecord), ReadsBack (Gathered.lineOf p r) p r) ∧
    (∀ (s t : String) (r r' : FileRecord),
      Gathered.lineOf (.ofString s) r = Gathered.lineOf (.ofString t) r' ↔ s = t ∧ r = r') ∧
    ∀ (i : Invocation) (source : Pool.Source) (events : List PoolEvent),
      Pool.Completes source i.paths events →
      (i.runWith source events).outText.toList.splitOn '\n' =
        (i.paths.filterMap (Pool.lineFor source)).map String.toList ++ [[]] := by
  refine ⟨Gathered.lineOf_readsBack, fun s t r r' => ?_, fun i source events h => ?_⟩
  · rw [Gathered.lineOf_inj]
    simp only [Path.shown, Path.ofString, Text.Utf8.lossy_encode]
  · rw [i.splitOn_outText, Invocation.out_runWith h]

/-- A path with a line end, a quote and the beginning of a character that breaks off. -/
theorem lines_readBack_broken_path :
    let p : Path := ⟨[0x61, 0x0A, 0x22, 0xF0, 0x9F]⟩
    let i : Invocation :=
      { program := [], paths := [p], environment := ⟨[]⟩, settings := none, user := 0,
        time := "now" }
    let status : Status := ⟨0o100644, ⟨0, 0⟩, ⟨0, 0⟩, 5, 1, 2⟩
    let source : Pool.Source := fun _ => .ok status
    let events := Pool.inTurn 1
    let line := Gathered.lineOf p status.toRecord
    Pool.Completes source i.paths events ∧
      (i.runWith source events).outText.toList.splitOn '\n' = [line.toList, []] ∧
      ReadsBack line p status.toRecord ∧ Text.Utf8.Shown p.bytes "a\n\"\uFFFD".toList := by
  intro p i status source events line
  have hcompletes : Pool.Completes source i.paths events :=
    ⟨by simp [events, Pool.inTurn], Pool.isDone_inTurn i.paths⟩
  have hshown : Text.Utf8.Shown p.bytes "a\n\"\uFFFD".toList :=
    Text.Utf8.shown_iff.mpr (by decide)
  obtain ⟨hline, -, hout⟩ := lines_readBack
  exact ⟨hcompletes, hout i source events hcompletes, hline p status.toRecord, hshown⟩

end FileTransfer
