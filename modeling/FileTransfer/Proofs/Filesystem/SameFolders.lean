import FileTransfer.Proofs.Filesystem.Walks

/-! Opening, emptying and sizing files. None of these makes a folder or takes one away, and every
path that led somewhere still does. -/
namespace FileTransfer.Filesystem

variable {fs fs' : Filesystem} {loc : Location} {p : Path}

/-- A later file system with the same folders. -/
structure SameFolders (fs fs' : Filesystem) : Prop where
  later : fs.Extends fs'
  isFolder : ∀ loc, fs'.isFolder loc = fs.isFolder loc

theorem SameFolders.refl (fs : Filesystem) : fs.SameFolders fs where
  later := .refl fs
  isFolder _ := rfl

theorem SameFolders.trans {fs₁ fs₂ fs₃ : Filesystem} (h : fs₁.SameFolders fs₂)
    (h' : fs₂.SameFolders fs₃) : fs₁.SameFolders fs₃ where
  later := h.later.trans h'.later
  isFolder loc := (h'.isFolder loc).trans (h.isFolder loc)

theorem sameFolders_modify (fs : Filesystem) (i : Nat) {f : Node → Node}
    (hf : ∀ n : Node, n.Like (f n)) : fs.SameFolders (fs.modify i f) where
  later := extends_modify fs i hf
  isFolder := by
    intro loc
    rw [Filesystem.isFolder, at?_modify, Filesystem.isFolder]
    cases fs.at? loc with
    | none => rfl
    | some n =>
      show Node.isDirectory (if _ then f n else n) = n.isDirectory
      split
      · exact (hf n).isDirectory_eq
      · rfl

theorem sameFolders_add (hn : fs.Numbered) (hv : fs.at? loc = none) {n : Node}
    (hd : n.isDirectory = false) : fs.SameFolders (fs.add loc n) where
  later := extends_add hn hv n
  isFolder := by
    intro l
    rw [Filesystem.isFolder, at?_add hn hv, Filesystem.isFolder]
    by_cases hl : l = loc
    · subst hl
      rw [if_pos rfl, hv, Option.any_some, hd, Option.any_none]
    · rw [if_neg hl]

theorem openEmptied_sameFolders (hn : fs.Numbered) {access mode : UInt32} {i : Nat}
    (ho : fs.openEmptied access mode p = .ok (i, fs')) : fs.SameFolders fs' := by
  obtain ⟨folder, name, hr, -, rfl⟩ | ⟨l, n, -, -, -, -, rfl⟩ := openEmptied_eq_ok ho
  · exact sameFolders_add hn (resolve_vacant hr).2 rfl
  · exact sameFolders_modify fs i (Node.like_change _)

theorem setLength_sameFolders {i n : Nat} (hs : fs.setLength i n = .ok fs') :
    fs.SameFolders fs' := by
  obtain ⟨-, rfl⟩ := setLength_eq_ok hs
  exact sameFolders_modify fs i (Node.like_change _)

end FileTransfer.Filesystem
