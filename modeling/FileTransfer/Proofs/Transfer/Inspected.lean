import FileTransfer.Proofs.Filesystem.Links
import FileTransfer.Proofs.Record.Kept
import FileTransfer.Proofs.Transfer.Untouched
import FileTransfer.Transfer.Query

/-! What a query says of a file that was made. The file has the size that was asked for, and no path
tells it from another: all that lead to it, through links or by another name, get the same record
(`createSized_inspected`). What was reported as made is said to be a folder. -/
namespace FileTransfer

namespace Filesystem

variable {fs mid after : Filesystem} {loc l : Location} {p destination : Path} {i k : Nat}
  {n : Node} {size : Int64} {synchronous : Bool}

/-! ### Statuses -/

/-- The type bits of a status are those of its file: a mode has none of its own. -/
theorem typeBits_mask (n : Node) :
    (n.kind.typeBits ||| n.mode &&& Node.modeMask) &&& Status.typeMask = n.kind.typeBits := by
  have hmask : Node.modeMask &&& Status.typeMask = 0 := rfl
  rw [or_and_mask _ _ hmask]
  cases n.kind <;> simp only [FileKind.typeBits] <;> rfl

theorem typeBits_eq_directoryType (n : Node) :
    (n.kind.typeBits == Status.directoryType) = n.isDirectory := by
  rw [Node.isDirectory]
  cases n.kind <;> rfl

/-- The status of a file, by what is known of it under its number. -/
theorem statusAt?_of_number (hi : fs.number? loc = some i) (hn : fs.nodes[i]? = some n) :
    fs.statusAt? loc = some
      { mode := n.kind.typeBits ||| n.mode &&& Node.modeMask, atime := n.accessed
        mtime := n.modified, size := n.size.toUInt64, links := (fs.links loc).toUInt64
        index := i.toUInt64 } := by
  simp [statusAt?, hi, hn]

theorem isDirectory_status {s : Status} (hi : fs.number? loc = some i)
    (hn : fs.nodes[i]? = some n) (hs : fs.statusAt? loc = some s) :
    s.isDirectory = n.isDirectory := by
  rw [statusAt?_of_number hi hn] at hs
  cases hs
  rw [Status.isDirectory, typeBits_mask, typeBits_eq_directoryType]

theorem at?_of_number (hi : fs.number? loc = some i) (hn : fs.nodes[i]? = some n) :
    fs.at? loc = some n := by
  rw [at?, hi, Option.bind_some, hn]

/-- A file other than a folder has one status, whichever of its places it is looked at. -/
theorem statusAt?_alias (hi : fs.number? loc = some i) (hi' : fs.number? l = some i)
    (hn : fs.nodes[i]? = some n) (hd : n.isDirectory = false) :
    fs.statusAt? l = fs.statusAt? loc := by
  have hfile : fs.isFolder loc = false := by rw [isFolder_of_at? (at?_of_number hi hn), hd]
  have hfile' : fs.isFolder l = false := by rw [isFolder_of_at? (at?_of_number hi' hn), hd]
  have hlinks : fs.links l = fs.links loc := by
    simp only [links, hfile, hfile', Bool.false_eq_true, if_false, hi, hi']
  rw [statusAt?_of_number hi hn, statusAt?_of_number hi' hn, hlinks]

theorem query_of_status {s : Status} (hloc : fs.locate p = .ok loc)
    (hs : fs.statusAt? loc = some s) : (fs.query p).result = .ok s.toRecord := by
  have hstatus : fs.status p = .ok s := by
    simp only [status, hloc]
    exact bind_eq_ok.mpr ⟨loc, rfl, by rw [hs]; rfl⟩
  rw [query, hstatus]
  rfl

/-! ### The file that was made -/

/-- A path leads to the file of a number. -/
def Reaches (fs : Filesystem) (p : Path) (i : Nat) : Prop :=
  ∃ loc, fs.locate p = .ok loc ∧ fs.number? loc = some i

/-- What a destination leads to once its parent was seen to is no link. -/
theorem FoldersAdded.noLink (h : fs.FoldersAdded mid) (hw : mid.Rooted) (hd : fs.NotSpecial p)
    (hr : mid.resolve .create p = .ok (.found loc)) : mid.NoLink loc := by
  obtain ⟨hz, he, hm, hwalk⟩ := resolve_eq_ok.mp hr
  have hcreate : LastName.create ≠ .keep := nofun
  refine walk_noLink hw hcreate (fun hs => ?_) hwalk
  -- a path without steps leads where it starts, and did so before
  have hstart : mid.startOf p = fs.startOf p := by rw [startOf, startOf, h.home]
  have hloc : fs.locate p = .ok (fs.startOf p) := by
    refine locate_eq_ok.mpr (resolve_eq_ok.mpr ⟨hz, he, hm, ?_⟩)
    rw [hs, walk, advance_nil]
  intro n target hn hk
  rw [hstart] at hn
  obtain hold | ⟨-, hdir, -⟩ := h.added _ _ hn
  · obtain hdir | ⟨c, hc⟩ := hd _ _ hloc hold
    · rw [Node.isDirectory, hk] at hdir
      cases hdir
    · rw [hk] at hc
      cases hc
  · rw [Node.isDirectory, hk] at hdir
    cases hdir

/-- The file of a number is where a path leads, is no folder, and has a size. -/
structure Sized (fs : Filesystem) (p : Path) (i k : Nat) : Prop where
  reaches : fs.Reaches p i
  file : ∃ n, fs.nodes[i]? = some n ∧ n.isDirectory = false ∧ n.size = k

theorem size_change_empty (hd : n.isDirectory = false) (hk : ∀ target, n.kind ≠ .link target) :
    (n.change fun _ => .empty).size = 0 := by
  unfold Node.change Node.size
  cases hkind : n.kind with
  | directory => rw [Node.isDirectory, hkind] at hd; cases hd
  | link target => exact absurd hkind (hk target)
  | regular c => rfl
  | pipe | socket | device => simp [hkind]

theorem sized_opened (hn : mid.Numbered) {access mode : UInt32}
    (hlink : ∀ loc, mid.resolve .create p = .ok (.found loc) → mid.NoLink loc)
    (ho : mid.openEmptied access mode p = .ok (i, after)) : Sized after p i 0 := by
  obtain ⟨folder, name, hr, rfl, rfl⟩ | ⟨loc, n, hr, hi, hat, hd, rfl⟩ := openEmptied_eq_ok ho
  · obtain ⟨hloc, hnumber, -, hfile⟩ := created hn hr (mode &&& ~~~mid.umask)
    exact ⟨⟨_, hloc, hnumber⟩, _, hfile, rfl, rfl⟩
  · have hext := extends_modify mid i (Node.like_change fun _ => .empty)
    have hloc := hext.locate (locate_eq_ok.mpr (resolve_follow_of_create hr))
    have hold : mid.nodes[i]? = some n := by rwa [at?, hi, Option.bind_some] at hat
    refine ⟨⟨loc, hloc, hi⟩, n.change fun _ => .empty, ?_, ?_, ?_⟩
    · rw [getElem?_modify_self, hold]
      rfl
    · rw [(n.like_change _).isDirectory_eq, hd]
    · exact size_change_empty hd fun target => hlink loc hr n target hat

theorem Sized.setLength (h : Sized mid p i 0) (hs : mid.setLength i k = .ok after) :
    Sized after p i k := by
  have hregular : ∃ c, mid.nodes[i]?.map Node.kind = some (.regular c) := by
    unfold Filesystem.setLength at hs
    split at hs
    · next hc => exact ⟨_, hc⟩
    · cases hs
  obtain ⟨-, rfl⟩ := setLength_eq_ok hs
  obtain ⟨⟨loc, hloc, hi⟩, n, hn, hd, -⟩ := h
  have hext := extends_modify mid i (Node.like_change (Content.resize k))
  refine ⟨⟨loc, hext.locate hloc, hi⟩, n.change (Content.resize k), ?_, ?_, ?_⟩
  · rw [getElem?_modify_self, hn]
    rfl
  · rw [(n.like_change _).isDirectory_eq, hd]
  · obtain ⟨c, hc⟩ := hregular
    rw [hn] at hc
    rw [Node.change_regular (Option.some.inj hc)]
    exact c.length_resize k

/-- A handle is to the file where the destination leads, which has the size that was asked for. -/
theorem Course.exists_sized (hw : fs.Rooted) (hd : fs.NotSpecial destination) {h : Handle}
    (hcourse : Course fs destination size synchronous (.ok h) after) :
    ∃ k : Nat, size.toInt = k ∧ Sized after destination h.file k := by
  have hmid := hw.run (fs.ensureParent_run destination)
  have hlink (loc : Location) (hr : (fs.ensureParent destination).system.resolve .create
      destination = .ok (.found loc)) : (fs.ensureParent destination).system.NoLink loc :=
    (ensureParent_foldersAdded hw.numbered destination).noLink hmid hd hr
  cases hcourse with
  | empty _ hopen hz => exact ⟨0, by rw [hz]; rfl, sized_opened hmid.numbered hlink hopen⟩
  | @sized i k _ _ _ hopen hk hset =>
    exact ⟨k, hk, (sized_opened hmid.numbered hlink hopen).setLength hset⟩

/-! ### Folders that were made -/

/-- Whatever the outcome, a query of what was reported as made says that it is a folder. -/
theorem createSized_made_isDirectory (hn : fs.Numbered) (destination : Path) (size : Int64)
    (synchronous : Bool) : ∀ q ∈ (fs.createSized destination size synchronous).made,
      ∃ r, ((fs.createSized destination size synchronous).system.query q).result = .ok r ∧
        r.isDirectory = true := by
  intro q hq
  obtain ⟨hmade, hsame⟩ := createSized_sameFolders hn destination size synchronous
  rw [hmade] at hq
  have hok : (fs.ensureParent destination).result = .ok () := by
    by_contra hfail
    rw [ensureParent_made_of_failed hfail] at hq
    cases hq
  obtain ⟨loc, hloc, hf⟩ := isFolderAt_iff.mp (ensureParent_made_isFolderAt hn hok q hq)
  obtain ⟨n, hat, hdir⟩ := isFolder_iff.mp ((hsame.isFolder loc).trans hf)
  obtain ⟨i, hi, hnode⟩ := Option.bind_eq_some_iff.mp hat
  have hs := statusAt?_of_number hi hnode
  refine ⟨_, query_of_status (hsame.later.locate hloc) hs, ?_⟩
  have hd := isDirectory_status hi hnode hs
  rw [hdir, Status.isDirectory, beq_iff_eq] at hd
  have hattributes := (Status.attributes_toRecord _).trans (if_pos hd)
  rw [FileRecord.isDirectory, hattributes]
  rfl

theorem not_isDirectory_normal {r : FileRecord} (h : r.attributes = normalAttribute) :
    r.isDirectory = false := by
  rw [FileRecord.isDirectory, h]
  rfl

/-- The record of a file that has a size, read off any of its places. -/
theorem Sized.query (h : Sized fs destination i k) (hk : k < 18446744073709551616) :
    ∃ record : FileRecord, (∀ p, fs.Reaches p i → (fs.query p).result = .ok record) ∧
      record.attributes = normalAttribute ∧ record.size.toNat = k ∧
      record.sizeHigh.toNat = k / 4294967296 ∧ record.sizeLow.toNat = k % 4294967296 := by
  obtain ⟨⟨loc, -, hi⟩, n, hn, hd, hsize⟩ := h
  have hs := statusAt?_of_number hi hn
  have hk : n.size.toUInt64.toNat = k := by
    rw [Nat.toUInt64, UInt64.toNat_ofNat', hsize]
    exact Nat.mod_eq_of_lt hk
  refine ⟨Status.toRecord _, fun p ⟨l, hl, hi'⟩ =>
    query_of_status hl ((statusAt?_alias hi hi' hn hd).trans hs), ?_, ?_, ?_, ?_⟩
  · have hfile := isDirectory_status hi hn hs
    rw [hd, Status.isDirectory, beq_eq_false_iff_ne] at hfile
    exact (Status.attributes_toRecord _).trans (if_neg hfile)
  · exact (congrArg UInt64.toNat (Halves.join_split _)).trans hk
  · exact (Halves.toNat_high _).trans (by rw [hk])
  · exact (Halves.toNat_low _).trans (by rw [hk])

/-- Once a file was made for a destination that led to nothing special, all paths that lead to the
file, the destination among them, are answered with the same record: that of a plain file of the size
that was asked for. Of every path that was reported as made it is said to be a folder. -/
theorem createSized_inspected (hw : fs.Rooted) (destination : Path) (size : Int64)
    (synchronous : Bool) (hd : fs.NotSpecial destination) {h : Handle}
    (hok : (fs.createSized destination size synchronous).result = .ok h) :
    let report := fs.createSized destination size synchronous
    report.system.Reaches destination h.file ∧
    (∃ record : FileRecord,
      (∀ p, report.system.Reaches p h.file → (report.system.query p).result = .ok record) ∧
      record.isDirectory = false ∧ record.attributes = normalAttribute ∧
      (record.size.toNat : Int) = size.toInt ∧
      (record.sizeHigh.toNat : Int) = size.toInt / 4294967296 ∧
      (record.sizeLow.toNat : Int) = size.toInt % 4294967296) ∧
    ∀ q ∈ report.made, ∃ record, (report.system.query q).result = .ok record ∧
      record.isDirectory = true := by
  intro report
  have hcourse := fs.createSized_course destination size synchronous
  rw [hok] at hcourse
  obtain ⟨k, hk, hsized⟩ := hcourse.exists_sized hw hd
  have hlt : k < 18446744073709551616 := by
    have hmax := size.toInt_lt
    omega
  obtain ⟨record, hall, hattributes, hsize, hhigh, hlow⟩ := hsized.query hlt
  refine ⟨hsized.reaches, ⟨record, hall, not_isDirectory_normal hattributes, hattributes, ?_, ?_, ?_⟩,
    createSized_made_isDirectory hw.numbered destination size synchronous⟩
  all_goals omega

/-- A file behind a folder that is made on the way and a link, with two names: by either of them, and
through the link, it is found to have its new size. -/
theorem createSized_inspected_alias :
    let report := stored.createSized (Path.ofString "x/../l") 4294967301 true
    ∃ record : FileRecord, (report.system.query (Path.ofString "b")).result = .ok record ∧
      (report.system.query (Path.ofString "x/../l")).result = .ok record ∧
      record.size.toNat = 4294967301 ∧ record.sizeHigh.toNat = 1 ∧ record.sizeLow.toNat = 5 ∧
      ∃ folder : FileRecord, (report.system.query (Path.ofString "x")).result = .ok folder ∧
        folder.isDirectory = true := by
  intro report
  have hnone : stored.locate (Path.ofString "x/../l") = .error (.os .noEntry) := by decide +kernel
  have hd : stored.NotSpecial (Path.ofString "x/../l") := by
    intro loc n hl
    rw [hnone] at hl
    cases hl
  have hok : report.result = .ok { file := 1, synchronous := true } := by decide +kernel
  obtain ⟨hreach, ⟨record, hall, -, -, hsize, hhigh, hlow⟩, hmade⟩ :=
    createSized_inspected rooted_stored _ _ _ hd hok
  have hb : report.system.Reaches (Path.ofString "b") 1 :=
    ⟨[Text.Utf8.encode "b"], by decide +kernel, by decide +kernel⟩
  have hint : Int64.toInt 4294967301 = 4294967301 := by decide
  rw [hint] at hsize hhigh hlow
  exact ⟨record, hall _ hb, hall _ hreach, by omega, by omega, by omega,
    hmade (Path.ofString "x") (by decide +kernel)⟩

end Filesystem

end FileTransfer
