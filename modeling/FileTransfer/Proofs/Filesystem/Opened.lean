import FileTransfer.Proofs.Filesystem.NewFolders
import FileTransfer.Proofs.Filesystem.SameFolders

/-! Files that are opened anew. The path leads to the file whose number is given back; it is a new
one without content, or the one that was there, without its content (`openEmptied_opened`). Content
that is changed stays with its file, and so do the permissions. -/
namespace FileTransfer

/-! ### Content -/

theorem Content.toList_resize_empty (n : Nat) :
    (Content.resize n .empty).toList = List.replicate n 0 := by
  simp [Content.toList, Content.resize, Content.empty]

/-- Bytes written at the start of zeros. -/
theorem Content.toList_write_zeros (n : Nat) (bytes : List UInt8) :
    ((Content.resize n .empty).write 0 bytes).toList =
      bytes ++ List.replicate (n - bytes.length) 0 := by
  simp [Content.toList, Content.write, Content.resize, Content.empty, Content.length]

/-- A change of content takes no permissions away. -/
theorem Node.changedMode_permissions (mode : UInt32) :
    Node.changedMode mode &&& Filesystem.permissionBits = mode &&& Filesystem.permissionBits := by
  have huser : ~~~Node.setUserBit &&& Filesystem.permissionBits = Filesystem.permissionBits := rfl
  have hboth : ~~~(Node.setUserBit ||| Node.setGroupBit) &&& Filesystem.permissionBits =
      Filesystem.permissionBits := rfl
  unfold Node.changedMode
  split
  · rw [UInt32.and_assoc, huser]
  · rw [UInt32.and_assoc, hboth]

theorem Node.change_regular {n : Node} {c : Content} (hk : n.kind = .regular c)
    (f : Content → Content) :
    n.change f = { n with kind := .regular (f c), mode := Node.changedMode n.mode } := by
  unfold Node.change
  rw [hk]

namespace Filesystem

variable {fs fs' : Filesystem} {loc : Location} {p : Path} {i : Nat}

/-- A file that holds content is at a location, under a number and with permissions. -/
structure Holds (fs : Filesystem) (loc : Location) (i : Nat) (mode : UInt32) (c : Content) :
    Prop where
  number : fs.number? loc = some i
  file : ∃ n, fs.at? loc = some n ∧ n.kind = .regular c ∧ n.mode &&& permissionBits = mode

/-- A change of content changes just that. -/
theorem Holds.modify {mode : UInt32} {c : Content} (h : fs.Holds loc i mode c)
    (f : Content → Content) : (fs.modify i (Node.change f)).Holds loc i mode (f c) where
  number := h.number
  file := by
    obtain ⟨n, hn, hk, hm⟩ := h.file
    refine ⟨n.change f, by rw [at?_modify, hn, Option.map_some, if_pos h.number], ?_⟩
    rw [Node.change_regular hk]
    exact ⟨rfl, by rw [Node.changedMode_permissions, hm]⟩

theorem Holds.setLength {mode : UInt32} {c : Content} (h : fs.Holds loc i mode c) {n : Nat}
    (hs : fs.setLength i n = .ok fs') : fs'.Holds loc i mode (c.resize n) := by
  obtain ⟨-, rfl⟩ := setLength_eq_ok hs
  exact h.modify _

theorem Holds.writeBytes {mode : UInt32} {c : Content} (h : fs.Holds loc i mode c) (offset : Nat)
    (bytes : List UInt8) : (fs.writeBytes i offset bytes).Holds loc i mode (c.write offset bytes) :=
  h.modify _

/-- A path leads to nothing, to a file that holds content or to a folder. -/
def NotSpecial (fs : Filesystem) (p : Path) : Prop :=
  ∀ loc n, fs.locate p = .ok loc → fs.at? loc = some n →
    n.isDirectory = true ∨ ∃ c, n.kind = .regular c

theorem number?_add (hn : fs.Numbered) (hv : fs.at? loc = none) (n : Node) :
    (fs.add loc n).number? loc = some fs.nodes.length := by
  have hnone := hn.number?_eq_none hv
  rw [number?] at hnone ⊢
  rw [add, List.lookup_append, hnone, List.lookup_cons_self]
  rfl

/-- A file that was made at the free name a path ended at is where the path leads, under a new
number. -/
theorem created (hn : fs.Numbered) {folder : Location} {name : Name}
    (hr : fs.resolve .create p = .ok (.vacant folder name)) (mode : UInt32) :
    let file : Node := { kind := .regular .empty, mode }
    let after := fs.add (name :: folder) file
    after.locate p = .ok (name :: folder) ∧
      after.number? (name :: folder) = some fs.nodes.length ∧
      after.at? (name :: folder) = some file ∧ after.nodes[fs.nodes.length]? = some file := by
  intro file after
  have hv := (resolve_vacant hr).2
  have hnumber : after.number? (name :: folder) = some fs.nodes.length := number?_add hn hv file
  have hat : after.at? (name :: folder) = some file := by rw [at?_add hn hv, if_pos rfl]
  have hlink (target : List UInt8) : file.kind ≠ .link target := by simp [file]
  have hcreated := (extends_add hn hv file).resolve_created hr hat hlink
  refine ⟨locate_eq_ok.mpr (resolve_follow_of_create hcreated), hnumber, hat, ?_⟩
  rwa [at?, hnumber, Option.bind_some] at hat

/-- A file that was opened anew is where its path leads, and has no content. It is new, with the
permissions asked for, or it was there, under the same number and with the same permissions. -/
theorem openEmptied_opened (hn : fs.Numbered) (hp : fs.NotSpecial p) {access mode : UInt32}
    (ho : fs.openEmptied access mode p = .ok (i, fs')) :
    ∃ loc granted, fs'.locate p = .ok loc ∧ fs'.Holds loc i granted .empty ∧
      (fs.at? loc = none ∧ fs'.at? loc =
          some { kind := .regular .empty, mode := mode &&& ~~~fs.umask } ∨
        ∃ c, fs.Holds loc i granted c) := by
  obtain ⟨folder, name, hr, rfl, rfl⟩ | ⟨l, n, hr, hi, hat, hd, rfl⟩ := openEmptied_eq_ok ho
  · obtain ⟨hloc, hnumber, hat, -⟩ := created hn hr (mode &&& ~~~fs.umask)
    exact ⟨name :: folder, _, hloc, ⟨hnumber, _, hat, rfl, rfl⟩,
      .inl ⟨(resolve_vacant hr).2, hat⟩⟩
  · have hl := locate_eq_ok.mpr (resolve_follow_of_create hr)
    obtain ⟨c, hk⟩ := (hp l n hl hat).resolve_left (Bool.eq_false_iff.mp hd)
    have hold : fs.Holds l i (n.mode &&& permissionBits) c := ⟨hi, n, hat, hk, rfl⟩
    exact ⟨l, _, (extends_modify fs i (Node.like_change _)).locate hl, hold.modify _,
      .inr ⟨c, hold⟩⟩

/-- Where only folders were added, a file that holds content was there before. -/
theorem FoldersAdded.holds_iff (h : fs.FoldersAdded fs') {mode : UInt32} {c : Content} :
    fs'.Holds loc i mode c ↔ fs.Holds loc i mode c := by
  constructor
  · intro hnow
    obtain ⟨n, hn, hk, hm⟩ := hnow.file
    obtain hold | ⟨-, hd, -⟩ := h.added loc n hn
    · cases hj : fs.number? loc with
      | none => rw [at?, hj] at hold; cases hold
      | some j =>
        have hnumber := hnow.number
        rw [h.number? loc j hj] at hnumber
        exact ⟨by rw [hj, hnumber], n, hold, hk, hm⟩
    · rw [Node.isDirectory, hk] at hd
      cases hd
  · intro hold
    obtain ⟨n, hn, hk, hm⟩ := hold.file
    exact ⟨h.number? loc i hold.number, n, h.kept loc n hn, hk, hm⟩

end Filesystem

end FileTransfer
