import FileTransfer.Command.Ending
import FileTransfer.Proofs.Command.Schedule
import FileTransfer.Proofs.Filesystem.SameShape

/-! What has no say in what the command prints. The environment and the settings file decide what is
logged; the lines, the errors and the code that is given back are those of the statuses of the paths,
whatever is logged and in whatever order the tasks run. So they stay the same when the environment,
the settings file or what other files hold is changed, as long as no path leads to a file that was
changed and the settings can be taken over (`endingIn_inert`). -/
namespace FileTransfer

namespace Pool
variable {source source' : Source} {paths : List Path} {events events' : List PoolEvent}

/-- A run in which no task breaks down and all ends are taken. -/
structure Completes (source : Source) (paths : List Path) (events : List PoolEvent) : Prop where
  unbroken : ∀ task reason, .lose task reason ∉ events
  done : ((start paths).run source events).isDone = true

/-- What is gathered in the end is settled by what is said of the paths. -/
theorem Completes.gathered (h : Completes source paths events)
    (h' : Completes source' paths events') (hsame : ∀ p ∈ paths, source' p = source p) :
    ((start paths).run source' events').gathered = ((start paths).run source events).gathered := by
  have hline : paths.filterMap (lineFor source') = paths.filterMap (lineFor source) :=
    List.filterMap_congr fun p hp => by rw [lineFor, lineFor, hsame p hp]
  have herror : paths.filterMap (errorFor source') = paths.filterMap (errorFor source) :=
    List.filterMap_congr fun p hp => by rw [errorFor, errorFor, hsame p hp]
  rw [(run_of_isDone h.unbroken h.done).1, (run_of_isDone h'.unbroken h'.done).1, hline, herror]

end Pool

namespace Invocation
variable {i j : Invocation} {source source' : Pool.Source} {events events' : List PoolEvent}

theorem runWith_of_paths (i : Invocation) (hpaths : i.paths ≠ []) (source : Pool.Source)
    (events : List PoolEvent) :
    i.runWith source events = i.printed ((Pool.start i.paths).run source events) :=
  if_neg (by simpa using hpaths)

/-- Calls of the same program with the same paths, of which the same is said, print the same but
for the log. -/
theorem runWith_inert (hprogram : j.program = i.program) (hpaths : j.paths = i.paths)
    (hsame : ∀ p ∈ i.paths, source' p = source p) (h : Pool.Completes source i.paths events)
    (h' : Pool.Completes source' i.paths events') :
    (j.runWith source' events').out = (i.runWith source events).out ∧
      (j.runWith source' events').errors = (i.runWith source events).errors ∧
      (j.runWith source' events').failed = (i.runWith source events).failed := by
  have hgathered := h.gathered h' hsame
  unfold runWith
  rw [hpaths]
  by_cases hempty : i.paths.isEmpty = true
  · rw [if_pos hempty, if_pos hempty]
    refine ⟨rfl, ?_, rfl⟩
    show [j.usage] = [i.usage]
    rw [usage, usage, hprogram]
  · rw [if_neg hempty, if_neg hempty]
    simp only [printed, hgathered, and_self]

/-- What a call writes to the second output: complaints about its filter and records that pass it,
and after these the errors. -/
theorem errText_runWith (i : Invocation) (source : Pool.Source) (events : List PoolEvent) :
    ∃ records, (i.runWith source events).errText =
      i.logText records ++ Printed.joined (i.runWith source events).errors := by
  unfold runWith
  split
  · exact ⟨[], rfl⟩
  · exact ⟨_, rfl⟩

variable {fs fs' : Filesystem}

/-- Two calls of the same program with the same paths, with any environments, in two file systems
that are the same but for what files hold, settings files among them. No path leads to a file that
holds something else, and neither call breaks down over its settings. Then the lines, the errors, the
line on usage among them, and the code that is given back are the same. Only the logs before the
errors may differ: the complaints about a filter, and the records that pass it. -/
theorem endingIn_inert (hfs : fs.SameShape fs') (hprogram : j.program = i.program)
    (hpaths : j.paths = i.paths)
    (hargs : ∀ p ∈ i.paths, ∀ loc, fs.locate p = .ok loc → fs'.at? loc = fs.at? loc)
    (hi : (i.within fs).breakdown? = none) (hj : (j.within fs').breakdown? = none)
    (h : Pool.Completes fs.status i.paths events)
    (h' : Pool.Completes fs'.status i.paths events') :
    ∃ p p' : Printed, i.endingIn fs events = .printed p ∧ j.endingIn fs' events' = .printed p' ∧
      p'.out = p.out ∧ p'.errors = p.errors ∧
      (j.endingIn fs' events').exitCode = (i.endingIn fs events).exitCode ∧
      (i.paths = [] → p.errors = [i.usage]) ∧
      (∃ records, p.errText = (i.within fs).logText records ++ Printed.joined p.errors) ∧
      ∃ records, p'.errText = (j.within fs').logText records ++ Printed.joined p.errors := by
  have hsame (q : Path) (hq : q ∈ i.paths) : fs'.status q = fs.status q :=
    hfs.status (hargs q hq)
  have hend : i.endingIn fs events = .printed ((i.within fs).runWith fs.status events) := by
    rw [endingIn, ending, hi]
  have hend' : j.endingIn fs' events' = .printed ((j.within fs').runWith fs'.status events') := by
    rw [endingIn, ending, hj]
  obtain ⟨hout, herrors, hfailed⟩ :=
    runWith_inert (i := i.within fs) (j := j.within fs') hprogram hpaths hsame h h'
  have herrText' := (j.within fs').errText_runWith fs'.status events'
  rw [herrors] at herrText'
  refine ⟨_, _, hend, hend', hout, herrors, ?_, fun hnone => ?_, errText_runWith _ _ _, herrText'⟩
  · rw [hend, hend', Ending.exitCode, Ending.exitCode, hfailed]
  · have hempty : (i.within fs).paths.isEmpty = true := List.isEmpty_iff.mpr hnone
    rw [runWith, if_pos hempty]
    rfl

/-- A working folder with a settings file and a file of five bytes. -/
def folderWith (settings : List UInt8) : Filesystem where
  names := [([], 0), ([Text.Utf8.encode Settings.fileName], 1), ([Text.Utf8.encode "b"], 2)]
  nodes := [{ kind := .directory, mode := 0o755 },
    { kind := .regular ⟨settings, 0⟩, mode := 0o644 }, { kind := .regular ⟨[], 5⟩, mode := 0o644 }]
  home := []

theorem sameShape_folderWith (a b : List UInt8) : (folderWith a).SameShape (folderWith b) where
  home := rfl
  names := rfl
  nodes := .cons (Node.like_refl _) (.cons (.inr ⟨_, _, rfl, rfl⟩) (.cons (Node.like_refl _) .nil))

/-- Two such folders differ in the settings file only. -/
theorem at?_folderWith (a b : List UInt8) {loc : Location}
    (h : loc ≠ [Text.Utf8.encode Settings.fileName]) :
    (folderWith b).at? loc = (folderWith a).at? loc := by
  have hnumber : (folderWith b).number? loc = (folderWith a).number? loc := rfl
  rw [Filesystem.at?, Filesystem.at?, hnumber]
  cases hi : (folderWith a).number? loc with
  | none => rfl
  | some i =>
    -- the settings file has one place
    have hi' : i ≠ 1 := by
      rintro rfl
      obtain ⟨before, after, hnames, -⟩ := List.lookup_eq_some_iff.mp hi
      have hmem : (loc, 1) ∈ (folderWith a).names := by simp [hnames]
      simp [folderWith, h] at hmem
    obtain _ | _ | i := i
    · rfl
    · exact absurd rfl hi'
    · rfl

/-- A call that logs all, and one that logs nothing with a key that is no text; they see settings
files of which one cannot be read, and their tasks run in different orders. -/
theorem endingIn_inert_silent :
    let i : Invocation :=
      { program := [], paths := [Path.ofString "b", Path.ofString "x"],
        environment := ⟨[(Text.Utf8.encode Log.Filter.variableName, Text.Utf8.encode "trace")]⟩,
        settings := none, user := 0, time := "now" }
    let j : Invocation :=
      { i with environment := ⟨[(Text.Utf8.encode KeyOptions.variableName, [255])]⟩ }
    let fs := folderWith (Text.Utf8.encode "A=1\nB=\"")
    let fs' := folderWith (Text.Utf8.encode "RUST_LOG=off")
    ∃ p p' : Printed, i.endingIn fs (Pool.inTurn 2) = .printed p ∧
      j.endingIn fs' [.ask 1, .ask 0, .finish 1, .finish 0, .collect, .collect] = .printed p' ∧
      p'.out = p.out ∧ p'.errors = p.errors := by
  intro i j fs fs'
  have hargs : ∀ p ∈ i.paths, ∀ loc, fs.locate p = .ok loc → fs'.at? loc = fs.at? loc := by
    intro p hp loc hloc
    have hb : fs.locate (Path.ofString "b") = .ok [Text.Utf8.encode "b"] := by decide +kernel
    have hx : fs.locate (Path.ofString "x") = .error (.os .noEntry) := by decide +kernel
    obtain rfl | rfl := List.mem_pair.mp hp
    · cases hb.symm.trans hloc
      decide +kernel
    · cases hx.symm.trans hloc
  have hfs : fs.SameShape fs' := sameShape_folderWith _ _
  have h : Pool.Completes fs.status i.paths (Pool.inTurn 2) :=
    ⟨by simp [Pool.inTurn, List.range_succ], by decide +kernel⟩
  have h' : Pool.Completes fs'.status i.paths
      [.ask 1, .ask 0, .finish 1, .finish 0, .collect, .collect] := ⟨by simp, by decide +kernel⟩
  obtain ⟨p, p', hi, hj, hout, herrors, -⟩ :=
    endingIn_inert (i := i) (j := j) hfs rfl rfl hargs (by decide +kernel) (by decide +kernel) h h'
  exact ⟨p, p', hi, hj, hout, herrors⟩

/-- A path that leads to the settings file shows its size; and a zero byte in the value of a setting
ends the call before anything is asked for. -/
theorem settings_shown :
    let i : Invocation :=
      { program := [], paths := [Path.ofString ".env"], environment := ⟨[]⟩, settings := none,
        user := 0, time := "now" }
    let j : Invocation := { i with paths := [Path.ofString "b"] }
    let one := folderWith (Text.Utf8.encode "A=1")
    let two := folderWith (Text.Utf8.encode "A=12")
    let zero := folderWith [65, 61, 0]
    (∀ loc, loc ≠ [Text.Utf8.encode Settings.fileName] →
      two.at? loc = one.at? loc ∧ zero.at? loc = one.at? loc) ∧
    (i.endingIn one (Pool.inTurn 1)).outText ≠ (i.endingIn two (Pool.inTurn 1)).outText ∧
    (j.endingIn one (Pool.inTurn 1)).exitCode = 0 ∧
    (j.endingIn zero (Pool.inTurn 1)).exitCode = 101 := by
  intro i j one two zero
  refine ⟨fun loc h => ⟨at?_folderWith _ _ h, at?_folderWith _ _ h⟩, ?_, ?_, ?_⟩
  · decide +kernel
  · decide +kernel
  · decide +kernel

end Invocation

end FileTransfer
