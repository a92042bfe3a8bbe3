import FileTransfer.Filesystem.Basic

/-! File systems that grow: what was found stays, and new files come into places that were free.
A new file is alone at its place as long as every name leads to a file that is there (`Numbered`).
Files may change their bytes; nothing else that a walk looks at changes (`Extends`). -/
namespace FileTransfer

/-- The same file for every walk: the two are equal, or both hold bytes. -/
def Node.Like (n n' : Node) : Prop :=
  n' = n ∨ ∃ c c', n.kind = .regular c ∧ n'.kind = .regular c'

theorem Node.like_refl (n : Node) : n.Like n := .inl rfl

theorem Node.Like.trans {n₁ n₂ n₃ : Node} (h : n₁.Like n₂) (h' : n₂.Like n₃) : n₁.Like n₃ := by
  obtain rfl | ⟨c₁, c₂, h₁, h₂⟩ := h
  · exact h'
  · obtain rfl | ⟨_, c₃, _, h₃⟩ := h'
    · exact .inr ⟨c₁, c₂, h₁, h₂⟩
    · exact .inr ⟨c₁, c₃, h₁, h₃⟩

theorem Node.Like.isDirectory_eq {n n' : Node} (h : n.Like n') :
    n'.isDirectory = n.isDirectory := by
  obtain rfl | ⟨c, c', hc, hc'⟩ := h
  · rfl
  · rw [isDirectory, isDirectory, hc, hc']
    rfl

theorem Node.Like.eq_of_isDirectory {n n' : Node} (h : n.Like n') (hd : n.isDirectory = true) :
    n' = n := by
  obtain rfl | ⟨_, _, hc, _⟩ := h
  · rfl
  · rw [isDirectory, hc] at hd
    cases hd

theorem Node.like_change (f : Content → Content) (n : Node) : n.Like (n.change f) := by
  unfold change
  split
  · next hc => exact .inr ⟨_, _, hc, rfl⟩
  · exact n.like_refl

namespace Filesystem
variable {fs fs' : Filesystem} {loc : Location}

theorem isFolder_iff :
    fs.isFolder loc = true ↔ ∃ n, fs.at? loc = some n ∧ n.isDirectory = true := by
  rw [isFolder, Option.any_eq_true]

theorem isFolder_of_at? {n : Node} (h : fs.at? loc = some n) : fs.isFolder loc = n.isDirectory := by
  rw [isFolder, h, Option.any_some]

/-! ### New files and changed ones -/

/-- Every name leads to a file that is there. -/
def Numbered (fs : Filesystem) : Prop :=
  ∀ entry ∈ fs.names, entry.2 < fs.nodes.length

theorem Numbered.add (h : fs.Numbered) (loc : Location) (n : Node) : (fs.add loc n).Numbered := by
  intro entry he
  simp only [Filesystem.add, List.mem_append, List.mem_singleton, List.length_append,
    List.length_singleton] at he ⊢
  obtain he | rfl := he
  · exact Nat.lt_succ_of_lt (h entry he)
  · exact Nat.lt_succ_self _

theorem Numbered.modify (h : fs.Numbered) (i : Nat) (f : Node → Node) :
    (fs.modify i f).Numbered := by
  intro entry he
  rw [Filesystem.modify, List.length_modify]
  exact h entry he

theorem Numbered.number_lt (h : fs.Numbered) {i : Nat} (hi : fs.number? loc = some i) :
    i < fs.nodes.length := by
  obtain ⟨before, after, hnames, _⟩ := List.lookup_eq_some_iff.mp hi
  exact h (loc, i) (by simp [hnames])

/-- A place without a file has no number either. -/
theorem Numbered.number?_eq_none (h : fs.Numbered) (hv : fs.at? loc = none) :
    fs.number? loc = none := by
  cases hi : fs.number? loc with
  | none => rfl
  | some i =>
    rw [at?, hi, Option.bind_some, List.getElem?_eq_none_iff] at hv
    exact absurd (h.number_lt hi) (Nat.not_lt.mpr hv)

theorem at?_add (h : fs.Numbered) (hv : fs.at? loc = none) (n : Node) (l : Location) :
    (fs.add loc n).at? l = if l = loc then some n else fs.at? l := by
  have hnone := h.number?_eq_none hv
  simp only [at?, number?, add, List.lookup_append] at hnone ⊢
  by_cases hl : l = loc
  · subst hl
    simp [hnone]
  · have hne : (l == loc) = false := by simpa using hl
    cases hi : fs.names.lookup l with
    | none => simp [hl, List.lookup_cons, hne]
    | some i =>
      have hlt : i < fs.nodes.length := h.number_lt hi
      simp [hl, List.getElem?_append_left hlt]

theorem at?_modify (fs : Filesystem) (i : Nat) (f : Node → Node) (l : Location) :
    (fs.modify i f).at? l =
      (fs.at? l).map fun n => if fs.number? l = some i then f n else n := by
  have hnumber : (fs.modify i f).number? l = fs.number? l := rfl
  rw [at?, at?, hnumber]
  cases fs.number? l with
  | none => rfl
  | some j =>
    simp only [modify, Option.bind_some, List.getElem?_modify]
    by_cases hij : i = j
    · simp [hij]
    · simp [hij, Ne.symm hij]

/-- What is found in a file system is found in a later one, unless bytes changed. -/
structure Extends (fs fs' : Filesystem) : Prop where
  home : fs'.home = fs.home
  at? : ∀ loc n, fs.at? loc = some n → ∃ n', fs'.at? loc = some n' ∧ n.Like n'

theorem Extends.refl (fs : Filesystem) : fs.Extends fs where
  home := rfl
  at? _ n hn := ⟨n, hn, n.like_refl⟩

theorem Extends.trans {fs₁ fs₂ fs₃ : Filesystem} (h : fs₁.Extends fs₂) (h' : fs₂.Extends fs₃) :
    fs₁.Extends fs₃ where
  home := h'.home.trans h.home
  at? := by
    intro loc n₁ h₁
    obtain ⟨n₂, h₂, hlike⟩ := h.at? loc n₁ h₁
    obtain ⟨n₃, h₃, hlike'⟩ := h'.at? loc n₂ h₂
    exact ⟨n₃, h₃, hlike.trans hlike'⟩

theorem extends_add (h : fs.Numbered) (hv : fs.at? loc = none) (n : Node) :
    fs.Extends (fs.add loc n) where
  home := rfl
  at? := by
    intro l m hm
    refine ⟨m, ?_, m.like_refl⟩
    rw [at?_add h hv, if_neg, hm]
    rintro rfl
    rw [hm] at hv
    cases hv

theorem extends_modify (fs : Filesystem) (i : Nat) {f : Node → Node}
    (hf : ∀ n : Node, n.Like (f n)) : fs.Extends (fs.modify i f) where
  home := rfl
  at? := by
    intro l n hn
    rw [at?_modify, hn]
    refine ⟨_, rfl, ?_⟩
    split
    · exact hf n
    · exact n.like_refl

theorem Extends.isFolder (h : fs.Extends fs') (hf : fs.isFolder loc = true) :
    fs'.isFolder loc = true := by
  obtain ⟨n, hn, hd⟩ := isFolder_iff.mp hf
  obtain ⟨n', hn', hlike⟩ := h.at? loc n hn
  rw [isFolder_of_at? hn', hlike.eq_of_isDirectory hd, hd]

end Filesystem

end FileTransfer
