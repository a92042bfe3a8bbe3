import FileTransfer.Proofs.Filesystem.Opened
import FileTransfer.Proofs.Transfer.Recorded

/-! Files of a given size. A call goes through three stages, and its result and what it leaves
behind follow from the last one that it got to (`Course`): the file is open and has its size
(`createSized_ok`), or a stage failed and what was done before it stays (`createSized_failed`). -/
namespace FileTransfer.Filesystem

variable {fs : Filesystem} {loc : Location} {destination : Path} {size : Int64}
  {synchronous : Bool}

/-! ### Stages -/

/-- Opens the file of a destination to read and write it, as the second stage does. -/
def openDestination (fs : Filesystem) (destination : Path) : Except Fault (Nat × Filesystem) :=
  fs.openEmptied (Node.readBit ||| Node.writeBit) defaultFileMode destination

/-- The ways a call can go, each with its result and the file system after it. -/
inductive Course (fs : Filesystem) (destination : Path) (size : Int64) (synchronous : Bool) :
    Except Error Handle → Filesystem → Prop
  | noFolder {e : Error} :
    (fs.ensureParent destination).result = .error e →
    Course fs destination size synchronous (.error e) (fs.ensureParent destination).system
  | notOpened {cause : Fault} :
    (fs.ensureParent destination).result = .ok () →
    (fs.ensureParent destination).system.openDestination destination = .error cause →
    Course fs destination size synchronous (.error (.fileOpen destination cause))
      (fs.ensureParent destination).system
  | notSized {i : Nat} {opened : Filesystem} {cause : Fault} :
    (fs.ensureParent destination).result = .ok () →
    (fs.ensureParent destination).system.openDestination destination = .ok (i, opened) →
    size ≠ 0 → lengthOf size >>= opened.setLength i = .error cause →
    Course fs destination size synchronous (.error (.fileResize destination size cause)) opened
  | empty {i : Nat} {opened : Filesystem} :
    (fs.ensureParent destination).result = .ok () →
    (fs.ensureParent destination).system.openDestination destination = .ok (i, opened) →
    size = 0 →
    Course fs destination size synchronous (.ok { file := i, synchronous }) opened
  | sized {i k : Nat} {opened after : Filesystem} :
    (fs.ensureParent destination).result = .ok () →
    (fs.ensureParent destination).system.openDestination destination = .ok (i, opened) →
    size.toInt = k → opened.setLength i k = .ok after →
    Course fs destination size synchronous (.ok { file := i, synchronous }) after

/-- The length for a size is the size, unless it is negative. -/
theorem lengthOf_eq_ok {k : Nat} : lengthOf size = .ok k ↔ size.toInt = k := by
  have hsign : size < 0 ↔ size.toInt < 0 := Int64.lt_iff_toInt_lt
  unfold lengthOf
  split
  · next h =>
    have hneg := hsign.mp h
    exact ⟨nofun, fun hk => by omega⟩
  · next h =>
    have hpos : ¬ size.toInt < 0 := fun hlt => h (hsign.mpr hlt)
    rw [Except.ok.injEq]
    omega

/-- A call goes one of these ways. -/
theorem createSized_course (fs : Filesystem) (destination : Path) (size : Int64)
    (synchronous : Bool) :
    Course fs destination size synchronous (fs.createSized destination size synchronous).result
      (fs.createSized destination size synchronous).system := by
  unfold createSized
  dsimp only
  cases hparent : (fs.ensureParent destination).result with
  | error e => exact .noFolder hparent
  | ok =>
    dsimp only
    cases hopen : (fs.ensureParent destination).system.openDestination destination with
    | error cause =>
      have hfailed := hopen
      rw [openDestination] at hfailed
      rw [hfailed]
      exact .notOpened hparent hopen
    | ok result =>
      obtain ⟨i, opened⟩ := result
      have hdone := hopen
      rw [openDestination] at hdone
      rw [hdone]
      dsimp only
      unfold sizeFile
      by_cases hz : size = 0
      · rw [if_pos hz]
        exact .empty hparent hopen hz
      · rw [if_neg hz]
        cases hs : lengthOf size >>= opened.setLength i with
        | error cause => exact .notSized hparent hopen hz hs
        | ok after =>
          obtain ⟨k, hk, hset⟩ := bind_eq_ok.mp hs
          exact .sized hparent hopen (lengthOf_eq_ok.mp hk) hset

/-! ### Success -/

/-- The permissions of a new file are those asked for, and stay so when it gets its size. -/
theorem changedMode_default (mask : UInt32) :
    Node.changedMode (defaultFileMode &&& mask) = defaultFileMode &&& mask := by
  have huser : defaultFileMode &&& ~~~Node.setUserBit = defaultFileMode := rfl
  have hboth : defaultFileMode &&& ~~~(Node.setUserBit ||| Node.setGroupBit) = defaultFileMode :=
    rfl
  unfold Node.changedMode
  split
  · rw [UInt32.and_assoc, UInt32.and_comm mask, ← UInt32.and_assoc, huser]
  · rw [UInt32.and_assoc, UInt32.and_comm mask, ← UInt32.and_assoc, hboth]

/-- A file at a location is a new one, with the permissions asked for, or one that was there before,
under the same number and with the same permissions. -/
def NewOrKept (fs after : Filesystem) (loc : Location) (i : Nat) (mode : UInt32) : Prop :=
  (fs.at? loc = none ∧
    ∃ n, after.at? loc = some n ∧ n.mode = defaultFileMode &&& ~~~fs.umask) ∨
  ∃ c, fs.Holds loc i mode c

/-- A file that was opened anew and given a length holds that many zeros, where its path leads. -/
theorem openDestination_sized (hn : fs.Numbered)
    (hd : (fs.ensureParent destination).system.NotSpecial destination)
    {i k : Nat} {opened after : Filesystem}
    (hopen : (fs.ensureParent destination).system.openDestination destination = .ok (i, opened))
    (hsize : k = 0 ∧ after = opened ∨ opened.setLength i k = .ok after) :
    ∃ loc mode, after.locate destination = .ok loc ∧
      after.Holds loc i mode (Content.resize k .empty) ∧ NewOrKept fs after loc i mode := by
  have hadded := ensureParent_foldersAdded hn destination
  obtain ⟨loc, mode, hloc, hholds, hwas⟩ :=
    openEmptied_opened (ensureParent_numbered hn destination) hd hopen
  have hlater : opened.Extends after := by
    obtain ⟨-, rfl⟩ | hset := hsize
    · exact .refl _
    · exact (setLength_sameFolders hset).later
  have hsized : after.Holds loc i mode (Content.resize k .empty) := by
    obtain ⟨rfl, rfl⟩ | hset := hsize
    · exact hholds
    · exact hholds.setLength hset
  refine ⟨loc, mode, hlater.locate hloc, hsized, ?_⟩
  obtain ⟨hfree, hnew⟩ | ⟨c, hold⟩ := hwas
  · left
    constructor
    · cases hat : fs.at? loc with
      | none => rfl
      | some n => rw [hadded.kept loc n hat] at hfree; cases hfree
    · rw [hadded.umask] at hnew
      obtain ⟨-, rfl⟩ | hset := hsize
      · exact ⟨_, hnew, rfl⟩
      · obtain ⟨-, rfl⟩ := setLength_eq_ok hset
        refine ⟨_, by rw [at?_modify, hnew, Option.map_some, if_pos hholds.number], ?_⟩
        rw [Node.change_regular rfl, changedMode_default]
  · exact .inr ⟨c, hadded.holds_iff.mp hold⟩

/-- A handle at the start of a file of a size, where the destination leads. The file is all zeros;
what is written through the handle stands before the zeros that are left. -/
structure Ready (fs after : Filesystem) (destination : Path) (size : Int64) (synchronous : Bool)
    (h : Handle) : Prop where
  synchronous : h.synchronous = synchronous
  appending : h.appending = false
  offset : h.offset = 0
  file : ∃ (k : Nat) (loc : Location) (mode : UInt32), size.toInt = k ∧
    after.locate destination = .ok loc ∧ NewOrKept fs after loc h.file mode ∧
    (∃ c, after.Holds loc h.file mode c ∧ c.toList = List.replicate k 0) ∧
    ∀ bytes, ∃ c, (h.write after bytes).2.Holds loc h.file mode c ∧
      c.toList = bytes ++ List.replicate (k - bytes.length) 0

theorem openDestination_ready (hn : fs.Numbered)
    (hd : (fs.ensureParent destination).system.NotSpecial destination)
    {i k : Nat} {opened after : Filesystem} (hk : size.toInt = k)
    (hopen : (fs.ensureParent destination).system.openDestination destination = .ok (i, opened))
    (hsize : k = 0 ∧ after = opened ∨ opened.setLength i k = .ok after) :
    Ready fs after destination size synchronous { file := i, synchronous } where
  synchronous := rfl
  appending := rfl
  offset := rfl
  file := by
    obtain ⟨loc, mode, hloc, hholds, hwas⟩ := openDestination_sized hn hd hopen hsize
    exact ⟨k, loc, mode, hk, hloc, hwas, ⟨_, hholds, Content.toList_resize_empty k⟩,
      fun bytes => ⟨_, hholds.writeBytes 0 bytes, Content.toList_write_zeros k bytes⟩⟩

theorem Course.ready (hn : fs.Numbered)
    (hd : (fs.ensureParent destination).system.NotSpecial destination) {h : Handle}
    {after : Filesystem} (hcourse : Course fs destination size synchronous (.ok h) after) :
    Ready fs after destination size synchronous h := by
  cases hcourse with
  | empty _ hopen hz => exact openDestination_ready hn hd (by rw [hz]; rfl) hopen (.inl ⟨rfl, rfl⟩)
  | sized _ hopen hk hset => exact openDestination_ready hn hd hk hopen (.inr hset)

/-- Where every stage can be taken a handle is given back. -/
theorem Course.exists_handle {result : Except Error Handle} {after opened : Filesystem} {i : Nat}
    (hcourse : Course fs destination size synchronous result after)
    (hparent : (fs.ensureParent destination).result = .ok ())
    (hopen : (fs.ensureParent destination).system.openDestination destination = .ok (i, opened))
    (hsize : size = 0 ∨
      0 < size.toInt ∧ ∃ after, opened.setLength i size.toInt.toNat = .ok after) :
    ∃ h, result = .ok h := by
  cases hcourse with
  | noFolder hfailed => rw [hparent] at hfailed; cases hfailed
  | notOpened _ hfailed => rw [hopen] at hfailed; cases hfailed
  | empty => exact ⟨_, rfl⟩
  | sized => exact ⟨_, rfl⟩
  | notSized _ hopen' hz hfailed =>
    rw [hopen] at hopen'
    cases hopen'
    obtain hzero | ⟨hpos, after, hset⟩ := hsize
    · exact absurd hzero hz
    · have hlength : lengthOf size = .ok size.toInt.toNat := lengthOf_eq_ok.mpr (by omega)
      rw [bind_eq_ok.mpr ⟨_, hlength, hset⟩] at hfailed
      cases hfailed

/-- A handle that is given back is ready. A call gives one back if the folders are there, the file
opens, and its size needs no change or can be set. -/
theorem createSized_ok (hn : fs.Numbered) (destination : Path) (size : Int64) (synchronous : Bool)
    (hd : (fs.ensureParent destination).system.NotSpecial destination) :
    let parent := fs.ensureParent destination
    let report := fs.createSized destination size synchronous
    (∀ h, report.result = .ok h → Ready fs report.system destination size synchronous h) ∧
    (parent.result = .ok () → ∀ i opened,
      parent.system.openDestination destination = .ok (i, opened) →
      size = 0 ∨ 0 < size.toInt ∧ (∃ after, opened.setLength i size.toInt.toNat = .ok after) →
      ∃ h, report.result = .ok h) := by
  intro parent report
  have hcourse : Course fs destination size synchronous report.result report.system :=
    fs.createSized_course destination size synchronous
  constructor
  · intro h hok
    rw [hok] at hcourse
    exact hcourse.ready hn hd
  · intro hparent i opened hopen hsize
    exact hcourse.exists_handle hparent hopen hsize

/-- A working folder with a file of three bytes that lends the rights of its owner, a second name
for it, and a link to that. -/
def stored : Filesystem where
  names := [([], 0), ([Text.Utf8.encode "b"], 1), ([Text.Utf8.encode "c"], 1),
    ([Text.Utf8.encode "l"], 2)]
  nodes := [{ kind := .directory, mode := 0o755 },
    { kind := .regular ⟨[1, 2, 3], 0⟩, mode := 0o4640 },
    { kind := .link (Text.Utf8.encode "c"), mode := 0o777 }]
  home := []

/-- A file behind a link, and behind a folder that is made on the way: it keeps its number. -/
theorem createSized_ok_behind_link :
    let destination := Path.ofString "x/../l"
    let report := stored.createSized destination 5 true
    stored.Numbered ∧ (stored.ensureParent destination).system.NotSpecial destination ∧
      report.result = .ok { file := 1, synchronous := true } ∧
      Ready stored report.system destination 5 true { file := 1, synchronous := true } := by
  intro destination report
  have hn : stored.Numbered := by
    unfold Numbered
    decide
  have hloc : (stored.ensureParent destination).system.locate destination =
      .ok [Text.Utf8.encode "c"] := by decide +kernel
  have hat : (stored.ensureParent destination).system.at? [Text.Utf8.encode "c"] =
      some { kind := .regular ⟨[1, 2, 3], 0⟩, mode := 0o4640 } := by decide +kernel
  have hd : (stored.ensureParent destination).system.NotSpecial destination := by
    intro loc n hl hnode
    cases hloc.symm.trans hl
    cases hat.symm.trans hnode
    exact .inr ⟨_, rfl⟩
  have hok : report.result = .ok { file := 1, synchronous := true } := by decide +kernel
  exact ⟨hn, hd, hok, (createSized_ok hn destination 5 true hd).1 _ hok⟩

/-- A working folder with a pipe and a link to a device, which takes all bytes and keeps none. -/
def special : Filesystem where
  names := [([], 0), ([Text.Utf8.encode "p"], 1), ([Text.Utf8.encode "dev"], 2),
    ([Text.Utf8.encode "null", Text.Utf8.encode "dev"], 3), ([Text.Utf8.encode "n"], 4)]
  nodes := [{ kind := .directory, mode := 0o755 }, { kind := .pipe, mode := 0o600 },
    { kind := .directory, mode := 0o755 }, { kind := .device, mode := 0o666, mine := false },
    { kind := .link (Text.Utf8.encode "/dev/null"), mode := 0o777 }]
  home := []

/-- A destination behind a missing folder leads nowhere at first, and to a device once the folder is
made: a handle is given back, and what is written through it is lost. -/
theorem written_to_device :
    let destination := Path.ofString "a/../n"
    let report := special.createSized destination 0 false
    special.locate destination = .error (.os .noEntry) ∧
      ∃ h, report.result = .ok h ∧ ∃ loc, report.system.locate destination = .ok loc ∧
        report.system.number? loc = some h.file ∧
        ∀ i mode c, (h.write report.system [120]).2.Holds loc i mode c → c.toList ≠ [120] := by
  intro destination report
  refine ⟨by decide +kernel, { file := 3, synchronous := false }, by decide +kernel,
    [Text.Utf8.encode "null", Text.Utf8.encode "dev"], by decide +kernel, by decide +kernel, ?_⟩
  intro i mode c hholds
  obtain ⟨n, hn, hk, -⟩ := hholds.file
  have hat : (report.system.writeBytes 3 0 [120]).at?
      [Text.Utf8.encode "null", Text.Utf8.encode "dev"] =
      some { kind := .device, mode := 0o666, mine := false } := by decide +kernel
  cases hat.symm.trans hn
  cases hk

/-! ### Failure -/

/-- What a failed call leaves behind, by the stage that failed: the folders that were made, or also
an empty file where the destination leads. -/
inductive FailedAt (fs : Filesystem) (destination : Path) (size : Int64) :
    Error → Filesystem → Prop
  /-- No folder to put the file in: the error of that stage is handed on. -/
  | folders {folder : Path} {cause : Fault} :
    destination.folder? = some folder →
    (fs.ensureParent destination).result = .error (.directoryCreation folder cause) →
    fs.FoldersAdded (fs.ensureParent destination).system →
    FailedAt fs destination size (.directoryCreation folder cause)
      (fs.ensureParent destination).system
  /-- The folders are there, and the file could not be opened. -/
  | opening {cause : Fault} :
    (fs.ensureParent destination).result = .ok () →
    (fs.ensureParent destination).system.openDestination destination = .error cause →
    fs.FoldersAdded (fs.ensureParent destination).system →
    FailedAt fs destination size (.fileOpen destination cause) (fs.ensureParent destination).system
  /-- The file was opened and emptied, and could not be given its size. -/
  | sizing {i : Nat} {opened : Filesystem} {cause : Fault} {loc : Location} {mode : UInt32} :
    (fs.ensureParent destination).result = .ok () →
    (fs.ensureParent destination).system.openDestination destination = .ok (i, opened) →
    opened.locate destination = .ok loc → opened.Holds loc i mode .empty →
    FailedAt fs destination size (.fileResize destination size cause) opened

theorem ensureParent_eq_error {e : Error} (h : (fs.ensureParent destination).result = .error e) :
    ∃ folder cause, destination.folder? = some folder ∧ e = .directoryCreation folder cause := by
  obtain hdone | ⟨folder, hfolder, -, hmake⟩ := fs.ensureParent_cases destination
  · rw [hdone] at h
    cases h
  · rw [hmake, makeParent] at h
    cases hm : fs.makeFolders folder with
    | mk result after =>
      simp only [hm] at h
      cases result with
      | ok => cases h
      | error cause =>
        dsimp only at h
        split at h
        · cases h
        · exact ⟨folder, cause, hfolder, (Except.error.inj h).symm⟩

/-- A call that failed did so at one of its stages. -/
theorem Course.failedAt (hn : fs.Numbered)
    (hd : (fs.ensureParent destination).system.NotSpecial destination) {e : Error}
    {after : Filesystem} (hcourse : Course fs destination size synchronous (.error e) after) :
    FailedAt fs destination size e after := by
  have hadded := ensureParent_foldersAdded hn destination
  cases hcourse with
  | noFolder hfailed =>
    obtain ⟨folder, cause, hfolder, rfl⟩ := ensureParent_eq_error hfailed
    exact .folders hfolder hfailed hadded
  | notOpened hparent hfailed => exact .opening hparent hfailed hadded
  | notSized hparent hopen _ _ =>
    obtain ⟨loc, mode, hloc, hholds, -⟩ :=
      openEmptied_opened (ensureParent_numbered hn destination) hd hopen
    exact .sizing hparent hopen hloc hholds

/-- Folders that cannot be made end the call. -/
theorem Course.of_parent_failed {result : Except Error Handle} {after : Filesystem} {e : Error}
    (hcourse : Course fs destination size synchronous result after)
    (he : (fs.ensureParent destination).result = .error e) : result = .error e := by
  cases hcourse with
  | noFolder hfailed => cases hfailed.symm.trans he; rfl
  | notOpened hparent => rw [hparent] at he; cases he
  | notSized hparent => rw [hparent] at he; cases he
  | empty hparent => rw [hparent] at he; cases he
  | sized hparent => rw [hparent] at he; cases he

/-- A negative size is refused once the file is open. -/
theorem Course.of_negative {result : Except Error Handle} {after opened : Filesystem} {i : Nat}
    (hcourse : Course fs destination size synchronous result after) (hneg : size < 0)
    (hparent : (fs.ensureParent destination).result = .ok ())
    (hopen : (fs.ensureParent destination).system.openDestination destination = .ok (i, opened)) :
    ∃ cause, result = .error (.fileResize destination size cause) ∧
      cause.kind = .invalidInput := by
  have hrefused : lengthOf size = .error (.custom .invalidInput "negative file size") := by
    rw [lengthOf, if_pos hneg]
  cases hcourse with
  | noFolder hfailed => rw [hparent] at hfailed; cases hfailed
  | notOpened _ hfailed => rw [hopen] at hfailed; cases hfailed
  | empty _ _ hz => rw [hz] at hneg; exact absurd hneg (by decide)
  | sized _ _ hk => rw [lengthOf_eq_ok.mpr hk] at hrefused; cases hrefused
  | notSized _ _ _ hfailed =>
    rw [hrefused] at hfailed
    cases hfailed
    exact ⟨_, rfl, rfl⟩

/-- A call that gives back an error, and so no handle, failed at just one of its stages, with the
error of that stage. It leaves behind what the stages before did, folders reported as they are made.
If the folders cannot be made the call fails with that error, and a negative size is refused as such
once the file is open. -/
theorem createSized_failed (hn : fs.Numbered) (destination : Path) (size : Int64)
    (synchronous : Bool) (hd : (fs.ensureParent destination).system.NotSpecial destination) :
    let parent := fs.ensureParent destination
    let report := fs.createSized destination size synchronous
    (∀ e, report.result = .error e →
      FailedAt fs destination size e report.system ∧ report.made = parent.made) ∧
    (∀ e, parent.result = .error e → report.result = .error e) ∧
    (size < 0 → parent.result = .ok () → ∀ i opened,
      parent.system.openDestination destination = .ok (i, opened) →
      ∃ cause, report.result = .error (.fileResize destination size cause) ∧
        cause.kind = .invalidInput) := by
  intro parent report
  have hmade : report.made = parent.made :=
    (createSized_sameFolders hn destination size synchronous).1
  have hcourse : Course fs destination size synchronous report.result report.system :=
    fs.createSized_course destination size synchronous
  refine ⟨fun e he => ⟨?_, hmade⟩, fun e he => hcourse.of_parent_failed he,
    fun hneg hparent i opened hopen => hcourse.of_negative hneg hparent hopen⟩
  rw [he] at hcourse
  exact hcourse.failedAt hn hd

/-- A negative size: both folders and an empty file stay. -/
theorem createSized_failed_negative :
    let destination := Path.ofString "x/y/f"
    let report := linked.createSized destination (-1) false
    linked.Numbered ∧ (linked.ensureParent destination).system.NotSpecial destination ∧
      report.made = [Path.ofString "x", Path.ofString "x/y"] ∧
      ∃ cause, report.result = .error (.fileResize destination (-1) cause) ∧
        cause.kind = .invalidInput ∧
        FailedAt linked destination (-1) (.fileResize destination (-1) cause) report.system := by
  intro destination report
  have hn : linked.Numbered := rooted_linked.numbered
  have hnone : (linked.ensureParent destination).system.locate destination =
      .error (.os .noEntry) := by decide +kernel
  have hd : (linked.ensureParent destination).system.NotSpecial destination := by
    intro loc n hl
    cases hnone.symm.trans hl
  obtain ⟨hfailed, -, hneg⟩ := createSized_failed hn destination (-1) false hd
  have hopened : ∃ i opened,
      (linked.ensureParent destination).system.openDestination destination = .ok (i, opened) := by
    cases ho : (linked.ensureParent destination).system.openDestination destination with
    | ok result => exact ⟨result.1, result.2, rfl⟩
    | error e =>
      have hok : ((linked.ensureParent destination).system.openDestination destination).isOk =
          true := by decide +kernel
      rw [ho] at hok
      cases hok
  obtain ⟨i, opened, hopen⟩ := hopened
  obtain ⟨cause, hresult, hkind⟩ := hneg (by decide) (by decide +kernel) i opened hopen
  exact ⟨hn, hd, by decide +kernel, cause, hresult, hkind, (hfailed _ hresult).1⟩

/-- A destination behind a missing folder leads nowhere at first, and to a pipe once the folder is
made: the pipe has no size to change, and no empty file is left. -/
theorem pipe_not_sized :
    let destination := Path.ofString "a/../p"
    let report := special.createSized destination 5 false
    special.locate destination = .error (.os .noEntry) ∧
      report.result = .error (.fileResize destination 5 (.os .invalidArgument)) ∧
      ∃ loc, report.system.locate destination = .ok loc ∧
        ∀ i mode c, ¬ report.system.Holds loc i mode c := by
  intro destination report
  refine ⟨by decide +kernel, by decide +kernel, [Text.Utf8.encode "p"], by decide +kernel, ?_⟩
  intro i mode c hholds
  obtain ⟨n, hn, hk, -⟩ := hholds.file
  have hat : report.system.at? [Text.Utf8.encode "p"] =
      some { kind := .pipe, mode := 0o600 } := by decide +kernel
  cases hat.symm.trans hn
  cases hk

end FileTransfer.Filesystem
