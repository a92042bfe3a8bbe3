import FileTransfer.Proofs.Filesystem.NewFolders
import FileTransfer.Proofs.Filesystem.SameFolders
import FileTransfer.Transfer.SizedFile

/-! Which new folders are reported. Every folder that comes into being is where one of the paths
leads that were noted as missing (`ensureParent_new`). These are reported if the parent is there in
the end, also when a later stage fails; if it is not, nothing is reported, though folders around it
may have been made and stay (`reported_iff`). -/
namespace FileTransfer.Filesystem

variable {fs : Filesystem} {loc : Location}

/-- A folder is there that was not. -/
def NewFolder (fs after : Filesystem) (loc : Location) : Prop :=
  after.isFolder loc = true ∧ fs.isFolder loc = false

/-- Each new folder is where a reported path leads. -/
def Reported (fs after : Filesystem) (made : List Path) : Prop :=
  ∀ loc, NewFolder fs after loc → ∃ p ∈ made, after.locate p = .ok loc

/-- What is left of an attempt to make a folder that is not there. -/
theorem makeParent_built (fs : Filesystem) (parent : Path) :
    ∃ qs, Built fs qs (fs.makeParent parent).system ∧ qs.Sublist (fs.missing parent).reverse := by
  obtain ⟨qs, hqs, hsub⟩ := fs.makeNested_built parent.ancestors
  refine ⟨qs, ?_, hsub⟩
  unfold makeParent
  cases hm : fs.makeFolders parent with
  | mk result after =>
    have hafter : (fs.makeNested parent.ancestors).2 = after := congrArg Prod.snd hm
    rw [hafter] at hqs
    cases result with
    | ok => exact hqs
    | error e =>
      dsimp only
      split <;> exact hqs

/-- The paths that were missing are reported, unless the parent could not be made. -/
theorem makeParent_made (fs : Filesystem) (parent : Path) :
    (fs.makeParent parent).result = .ok () ∧
        (fs.makeParent parent).made = (fs.missing parent).reverse ∨
      (fs.makeParent parent).result ≠ .ok () ∧ (fs.makeParent parent).made = [] := by
  unfold makeParent
  cases fs.makeFolders parent with
  | mk result after =>
    cases result with
    | ok => exact .inl ⟨rfl, rfl⟩
    | error e =>
      dsimp only
      split
      · exact .inl ⟨rfl, rfl⟩
      · exact .inr ⟨nofun, rfl⟩

/-- What a call to see to the parent did: nothing, or an attempt to make it. -/
theorem ensureParent_cases (fs : Filesystem) (destination : Path) :
    fs.ensureParent destination = ⟨.ok (), fs, [], []⟩ ∨
      ∃ parent, destination.folder? = some parent ∧ fs.isFolderAt parent = false ∧
        fs.ensureParent destination = fs.makeParent parent := by
  unfold ensureParent
  cases destination.folder? with
  | none => exact .inl rfl
  | some parent =>
    dsimp only
    split
    · exact .inl rfl
    · next h => exact .inr ⟨parent, rfl, Bool.eq_false_iff.mpr h, rfl⟩

/-- Whatever the outcome, folders were made one after the other, for paths that were noted as
missing. If the parent is there in the end, these paths were reported. -/
theorem ensureParent_built (fs : Filesystem) (destination : Path) :
    ∃ qs, Built fs qs (fs.ensureParent destination).system ∧
      (∀ q ∈ qs, ∃ parent, destination.folder? = some parent ∧ q ∈ fs.missing parent) ∧
      ((fs.ensureParent destination).result = .ok () →
        ∀ q ∈ qs, q ∈ (fs.ensureParent destination).made) := by
  obtain h | ⟨parent, hparent, -, h⟩ := fs.ensureParent_cases destination
  · rw [h]
    exact ⟨[], .nil, nofun, nofun⟩
  · rw [h]
    obtain ⟨qs, hqs, hsub⟩ := fs.makeParent_built parent
    refine ⟨qs, hqs, fun q hq => ⟨parent, hparent, List.mem_reverse.mp (hsub.mem hq)⟩, ?_⟩
    intro hok q hq
    obtain ⟨-, hmade⟩ | ⟨hfail, -⟩ := fs.makeParent_made parent
    · rw [hmade]
      exact hsub.mem hq
    · exact absurd hok hfail

theorem ensureParent_numbered (hn : fs.Numbered) (destination : Path) :
    (fs.ensureParent destination).system.Numbered := by
  obtain ⟨qs, hqs, -⟩ := fs.ensureParent_built destination
  exact hqs.numbered hn

/-- Whatever the outcome, the call is a run of system calls. -/
theorem ensureParent_run (fs : Filesystem) (destination : Path) :
    Relation.ReflTransGen Step fs (fs.ensureParent destination).system := by
  obtain ⟨qs, hqs, -⟩ := fs.ensureParent_built destination
  exact hqs.run

/-- Whatever the outcome, each new folder is where a path leads that was noted as missing. -/
theorem ensureParent_new (hn : fs.Numbered) {destination : Path}
    (hnew : NewFolder fs (fs.ensureParent destination).system loc) :
    ∃ parent, destination.folder? = some parent ∧ ∃ p ∈ fs.missing parent,
      (fs.ensureParent destination).system.locate p = .ok loc := by
  obtain ⟨qs, hqs, hmissing, -⟩ := fs.ensureParent_built destination
  obtain ⟨q, hq, hloc⟩ := hqs.locate_new hn hnew.1 hnew.2
  obtain ⟨parent, hparent, hm⟩ := hmissing q hq
  exact ⟨parent, hparent, q, hm, hloc⟩

/-- If the parent is there in the end, every new folder was reported. -/
theorem ensureParent_reported (hn : fs.Numbered) {destination : Path}
    (hok : (fs.ensureParent destination).result = .ok ()) :
    Reported fs (fs.ensureParent destination).system (fs.ensureParent destination).made := by
  intro loc hnew
  obtain ⟨qs, hqs, -, hmade⟩ := fs.ensureParent_built destination
  obtain ⟨q, hq, hloc⟩ := hqs.locate_new hn hnew.1 hnew.2
  exact ⟨q, hmade hok q hq, hloc⟩

/-- If the parent could not be made nothing is reported. -/
theorem ensureParent_made_of_failed {destination : Path}
    (hfail : (fs.ensureParent destination).result ≠ .ok ()) :
    (fs.ensureParent destination).made = [] := by
  obtain h | ⟨parent, -, -, h⟩ := fs.ensureParent_cases destination
  · rw [h]
  · rw [h] at hfail ⊢
    obtain ⟨hok, -⟩ | ⟨-, hmade⟩ := fs.makeParent_made parent
    · exact absurd hok hfail
    · exact hmade

/-! ### Files of a given size -/

theorem sizeFile_made (fs : Filesystem) (destination : Path) (size : Int64) (h : Handle)
    (made : List Path) (log : List Log.Record) :
    (fs.sizeFile destination size h made log).made = made := by
  unfold sizeFile
  split
  · rfl
  · split <;> rfl

theorem sizeFile_sameFolders (fs : Filesystem) (destination : Path) (size : Int64) (h : Handle)
    (made : List Path) (log : List Log.Record) :
    fs.SameFolders (fs.sizeFile destination size h made log).system := by
  unfold sizeFile
  split
  · exact .refl fs
  · split
    · next after hs =>
      cases hlen : lengthOf size with
      | error e => rw [hlen] at hs; cases hs
      | ok n => rw [hlen] at hs; exact setLength_sameFolders hs
    · exact .refl fs

/-- Beyond the parent nothing is reported, and no folder is made. -/
theorem createSized_sameFolders (hn : fs.Numbered) (destination : Path) (size : Int64)
    (synchronous : Bool) :
    (fs.createSized destination size synchronous).made = (fs.ensureParent destination).made ∧
      (fs.ensureParent destination).system.SameFolders
        (fs.createSized destination size synchronous).system := by
  unfold createSized
  dsimp only
  split
  · exact ⟨rfl, .refl _⟩
  · split
    · exact ⟨rfl, .refl _⟩
    · next file opened ho =>
      have hopened := openEmptied_sameFolders (ensureParent_numbered hn destination) ho
      exact ⟨sizeFile_made .., hopened.trans (sizeFile_sameFolders ..)⟩

theorem SameFolders.newFolder_iff {mid after : Filesystem} (h : mid.SameFolders after) :
    NewFolder fs after loc ↔ NewFolder fs mid loc := by
  rw [NewFolder, NewFolder, h.isFolder]

theorem SameFolders.reported {mid after : Filesystem} (h : mid.SameFolders after) {made : List Path}
    (hr : Reported fs mid made) : Reported fs after made := by
  intro loc hnew
  obtain ⟨p, hp, hloc⟩ := hr loc (h.newFolder_iff.mp hnew)
  exact ⟨p, hp, h.later.locate hloc⟩

/-- All new folders are reported just if the parent is there in the end or there are none, whether
the parent is made by itself or on the way to a file. -/
theorem reported_iff (hn : fs.Numbered) (destination : Path) (size : Int64) (synchronous : Bool) :
    let parent := fs.ensureParent destination
    let file := fs.createSized destination size synchronous
    (Reported fs parent.system parent.made ↔
      parent.result = .ok () ∨ ∀ loc, ¬ NewFolder fs parent.system loc) ∧
    (Reported fs file.system file.made ↔
      parent.result = .ok () ∨ ∀ loc, ¬ NewFolder fs file.system loc) := by
  intro parent file
  obtain ⟨hmade, hsame⟩ := createSized_sameFolders hn destination size synchronous
  -- a list that is empty names no folder at all
  have unreported {after : Filesystem} (hr : Reported fs after []) (loc : Location) :
      ¬ NewFolder fs after loc := by
    intro hnew
    obtain ⟨p, hp, -⟩ := hr loc hnew
    cases hp
  by_cases hok : parent.result = .ok ()
  · have hparent := ensureParent_reported hn hok
    have hfile : Reported fs file.system file.made := by
      rw [hmade]
      exact hsame.reported hparent
    exact ⟨iff_of_true hparent (.inl hok), iff_of_true hfile (.inl hok)⟩
  · have hempty : parent.made = [] := ensureParent_made_of_failed hok
    rw [hempty, hmade.trans hempty]
    refine ⟨⟨fun hr => .inr (unreported hr), fun h loc hnew => ?_⟩,
      ⟨fun hr => .inr (unreported hr), fun h loc hnew => ?_⟩⟩
    · exact absurd hnew (h.resolve_left hok loc)
    · exact absurd hnew (h.resolve_left hok loc)

/-- A working folder that holds a file. -/
def blocked : Filesystem where
  names := [([], 0), ([Text.Utf8.encode "b"], 1)]
  nodes := [{ kind := .directory, mode := 0o755 }, { kind := .regular .empty, mode := 0o644 }]
  home := []

/-- A parent that can be made: both folders are reported. -/
theorem reported_nested :
    let destination := Path.ofString "a/c/f"
    let parent := blocked.ensureParent destination
    blocked.Numbered ∧ parent.made = [Path.ofString "a", Path.ofString "a/c"] ∧
      Reported blocked parent.system parent.made := by
  intro destination parent
  have hn : blocked.Numbered := by
    unfold Numbered
    decide
  have hmade : parent.made = [Path.ofString "a", Path.ofString "a/c"] := by decide +kernel
  have hok : parent.result.isOk = true := by decide +kernel
  refine ⟨hn, hmade, (reported_iff hn destination 0 false).1.mpr (.inl ?_)⟩
  show parent.result = .ok ()
  cases hr : parent.result with
  | ok => rfl
  | error e => rw [hr] at hok; cases hok

/-- A parent that is a file behind a folder that is missing: the folder is made and stays, and is
not reported. -/
theorem unreported_behind_new_folder :
    let parent := blocked.ensureParent (Path.ofString "a/../b/f")
    NewFolder blocked parent.system [Text.Utf8.encode "a"] ∧
      ¬ Reported blocked parent.system parent.made := by
  intro parent
  have hnew : NewFolder blocked parent.system [Text.Utf8.encode "a"] :=
    ⟨by decide +kernel, by decide +kernel⟩
  have hempty : parent.made = [] := by decide +kernel
  refine ⟨hnew, fun hr => ?_⟩
  obtain ⟨p, hp, -⟩ := hr _ hnew
  rw [hempty] at hp
  cases hp

end FileTransfer.Filesystem
