import FileTransfer.Proofs.Filesystem.Walks
import Mathlib.Logic.Relation

/-! File systems in which every file lies in a folder (`Rooted`). A free place then has nothing
below it, so that a folder that is new is bare. Every call keeps this, and so does every run of
calls (`Rooted.run`) that starts with a root alone (`rooted_root`). -/
namespace FileTransfer.Filesystem

variable {fs fs' : Filesystem} {loc folder : Location} {name : Name} {n : Node} {p : Path}

/-- Every name leads to a file that is there, and each file but the root is in a folder. -/
structure Rooted (fs : Filesystem) : Prop where
  numbered : fs.Numbered
  inFolder : ∀ name folder, (fs.at? (name :: folder)).isSome → fs.isFolder folder = true

/-- Where no folder is there is nothing in it. -/
theorem Rooted.at?_eq_none (h : fs.Rooted) (hf : fs.isFolder folder = false) (name : Name) :
    fs.at? (name :: folder) = none := by
  cases ha : fs.at? (name :: folder) with
  | none => rfl
  | some n =>
    rw [h.inFolder name folder (by rw [ha]; rfl)] at hf
    cases hf

/-- It is enough to look at the places that have a name. -/
theorem rooted_of_names (hn : fs.Numbered)
    (h : ∀ entry ∈ fs.names, entry.1 = [] ∨ fs.isFolder entry.1.tail = true) : fs.Rooted where
  numbered := hn
  inFolder := by
    intro name folder hs
    cases hi : fs.number? (name :: folder) with
    | none => rw [at?, hi] at hs; cases hs
    | some i =>
      obtain ⟨before, after, hnames, -⟩ := List.lookup_eq_some_iff.mp hi
      obtain h | h := h (name :: folder, i) (by simp [hnames])
      · cases h
      · exact h

theorem Rooted.add (h : fs.Rooted) (hv : fs.at? (name :: folder) = none)
    (hf : fs.isFolder folder = true) (n : Node) : (fs.add (name :: folder) n).Rooted where
  numbered := h.numbered.add _ _
  inFolder := by
    have hext := extends_add h.numbered hv n
    intro name' folder' hn
    rw [at?_add h.numbered hv] at hn
    split at hn
    · next hloc =>
      obtain ⟨-, rfl⟩ := List.cons.inj hloc
      exact hext.isFolder hf
    · exact hext.isFolder (h.inFolder name' folder' hn)

theorem Rooted.modify (h : fs.Rooted) (i : Nat) {f : Node → Node}
    (hf : ∀ n : Node, (f n).isDirectory = n.isDirectory) : (fs.modify i f).Rooted where
  numbered := h.numbered.modify _ _
  inFolder := by
    intro name folder hn
    rw [at?_modify, Option.isSome_map] at hn
    obtain ⟨n, hn, hd⟩ := isFolder_iff.mp (h.inFolder name folder hn)
    refine isFolder_iff.mpr ⟨_, by rw [at?_modify, hn]; rfl, ?_⟩
    split
    · rw [hf, hd]
    · exact hd

/-! ### Calls -/

theorem Rooted.makeFolder (h : fs.Rooted) (hm : fs.makeFolder p = .ok fs') : fs'.Rooted := by
  obtain ⟨folder, name, hr, rfl⟩ := makeFolder_eq_ok hm
  obtain ⟨hf, hv⟩ := resolve_vacant hr
  exact h.add hv hf _

theorem Rooted.openEmptied (h : fs.Rooted) {access mode : UInt32} {i : Nat}
    (ho : fs.openEmptied access mode p = .ok (i, fs')) : fs'.Rooted := by
  obtain ⟨folder, name, hr, -, rfl⟩ | ⟨loc, n, -, -, -, -, rfl⟩ := openEmptied_eq_ok ho
  · obtain ⟨hf, hv⟩ := resolve_vacant hr
    exact h.add hv hf _
  · exact h.modify _ fun n => (n.like_change _).isDirectory_eq

theorem Rooted.setLength (h : fs.Rooted) {i n : Nat} (hs : fs.setLength i n = .ok fs') :
    fs'.Rooted := by
  obtain ⟨-, rfl⟩ := setLength_eq_ok hs
  exact h.modify _ fun n => (n.like_change _).isDirectory_eq

theorem Rooted.writeBytes (h : fs.Rooted) (i offset : Nat) (bytes : List UInt8) :
    (fs.writeBytes i offset bytes).Rooted :=
  h.modify _ fun n => (n.like_change _).isDirectory_eq

theorem Rooted.makeSpecial (h : fs.Rooted) {kind : FileKind} {mode : UInt32}
    (hm : fs.makeSpecial p kind mode = .ok fs') : fs'.Rooted := by
  obtain ⟨folder, name, hr, rfl⟩ := makeSpecial_eq_ok hm
  obtain ⟨hf, hv⟩ := resolve_vacant hr
  exact h.add hv hf _

/-- A second name for a file changes nothing at the other places. -/
theorem at?_name (h : fs.Numbered) (hv : fs.at? loc = none) (i : Nat) (l : Location) :
    ({ fs with names := fs.names ++ [(loc, i)] } : Filesystem).at? l =
      if l = loc then fs.nodes[i]? else fs.at? l := by
  have hnone := h.number?_eq_none hv
  simp only [at?, number?, List.lookup_append] at hnone ⊢
  by_cases hl : l = loc
  · subst hl
    simp [hnone]
  · have hne : (l == loc) = false := by simpa using hl
    cases fs.names.lookup l <;> simp [hl, List.lookup_cons, hne]

theorem Rooted.makeHardLink (h : fs.Rooted) {target : Path}
    (hm : fs.makeHardLink p target = .ok fs') : fs'.Rooted where
  numbered := h.numbered.makeHardLink hm
  inFolder := by
    obtain ⟨old, i, folder, name, -, -, hr, rfl⟩ := makeHardLink_eq_ok hm
    obtain ⟨hf, hv⟩ := resolve_vacant hr
    -- the folders that were there are elsewhere
    have kept (l : Location) (hl : fs.isFolder l = true) :
        ({ fs with names := fs.names ++ [(name :: folder, i)] } : Filesystem).isFolder l =
          true := by
      obtain ⟨n, hn, hd⟩ := isFolder_iff.mp hl
      refine isFolder_iff.mpr ⟨n, ?_, hd⟩
      rw [at?_name h.numbered hv, if_neg, hn]
      rintro rfl
      rw [hn] at hv
      cases hv
    intro name' folder' hn
    rw [at?_name h.numbered hv] at hn
    split at hn
    · next hloc =>
      obtain ⟨-, rfl⟩ := List.cons.inj hloc
      exact kept folder' hf
    · exact kept folder' (h.inFolder name' folder' hn)

theorem Rooted.setMode (h : fs.Rooted) {mode : UInt32} (hm : fs.setMode p mode = .ok fs') :
    fs'.Rooted := by
  obtain ⟨i, rfl⟩ := modifyAt_eq_ok hm
  exact h.modify _ fun _ => rfl

theorem Rooted.setTimes (h : fs.Rooted) {accessed modified : Timestamp}
    (hm : fs.setTimes p accessed modified = .ok fs') : fs'.Rooted := by
  obtain ⟨i, rfl⟩ := modifyAt_eq_ok hm
  exact h.modify _ fun _ => rfl

theorem at?_filter (fs : Filesystem) (keep : Location → Bool) (l : Location) :
    ({ fs with names := fs.names.filter fun entry => keep entry.1 } : Filesystem).at? l =
      if keep l then fs.at? l else none := by
  have lookup : (fs.names.filter fun entry => keep entry.1).lookup l =
      if keep l then fs.names.lookup l else none := by
    induction fs.names with
    | nil => simp
    | cons entry more ih =>
      obtain ⟨loc, i⟩ := entry
      by_cases hl : l = loc
      · subst hl
        cases hk : keep l with
        | true => simp [hk]
        | false => simpa [hk] using ih
      · have hne : (l == loc) = false := by simpa using hl
        cases hk : keep loc <;> simp [hk, List.lookup_cons, hne, ih]
  simp only [at?, number?, lookup]
  split <;> rfl

theorem Rooted.remove (h : fs.Rooted) (hr : fs.remove p = .ok fs') : fs'.Rooted where
  numbered := h.numbered.remove hr
  inFolder := by
    obtain ⟨loc, rfl⟩ := remove_eq_ok hr
    have hat (l : Location) := fs.at?_filter (fun l => !loc.isSuffixOf l) l
    intro name folder hn
    rw [hat] at hn
    cases hin : loc.isSuffixOf (name :: folder) with
    | true => simp [hin] at hn
    | false =>
      -- what is left was not below the place, and so its folder was not either
      have hout : loc.isSuffixOf folder = false := by
        rw [Bool.eq_false_iff, ne_eq, List.isSuffixOf_iff_suffix] at hin ⊢
        exact fun hs => hin (hs.trans (List.suffix_cons name folder))
      simp only [hin, Bool.not_false, if_true] at hn
      obtain ⟨n, hn, hd⟩ := isFolder_iff.mp (h.inFolder name folder hn)
      exact isFolder_iff.mpr ⟨n, by rw [hat, hout, hn]; rfl, hd⟩

/-! ### Runs of calls -/

/-- What one call makes of a file system. -/
inductive Step : Filesystem → Filesystem → Prop
  | makeFolder {fs fs' : Filesystem} {p : Path} : fs.makeFolder p = .ok fs' → Step fs fs'
  | openEmptied {fs fs' : Filesystem} {access mode : UInt32} {p : Path} {i : Nat} :
    fs.openEmptied access mode p = .ok (i, fs') → Step fs fs'
  | setLength {fs fs' : Filesystem} {i n : Nat} : fs.setLength i n = .ok fs' → Step fs fs'
  | writeBytes (fs : Filesystem) (i offset : Nat) (bytes : List UInt8) :
    Step fs (fs.writeBytes i offset bytes)
  | makeSpecial {fs fs' : Filesystem} {p : Path} {kind : FileKind} {mode : UInt32} :
    fs.makeSpecial p kind mode = .ok fs' → Step fs fs'
  | makeHardLink {fs fs' : Filesystem} {p target : Path} :
    fs.makeHardLink p target = .ok fs' → Step fs fs'
  | setMode {fs fs' : Filesystem} {p : Path} {mode : UInt32} :
    fs.setMode p mode = .ok fs' → Step fs fs'
  | setTimes {fs fs' : Filesystem} {p : Path} {accessed modified : Timestamp} :
    fs.setTimes p accessed modified = .ok fs' → Step fs fs'
  | remove {fs fs' : Filesystem} {p : Path} : fs.remove p = .ok fs' → Step fs fs'

theorem Rooted.step (h : fs.Rooted) (hs : Step fs fs') : fs'.Rooted := by
  cases hs with
  | makeFolder hm => exact h.makeFolder hm
  | openEmptied ho => exact h.openEmptied ho
  | setLength hs => exact h.setLength hs
  | writeBytes i offset bytes => exact h.writeBytes i offset bytes
  | makeSpecial hm => exact h.makeSpecial hm
  | makeHardLink hm => exact h.makeHardLink hm
  | setMode hm => exact h.setMode hm
  | setTimes hm => exact h.setTimes hm
  | remove hr => exact h.remove hr

theorem Rooted.run (h : fs.Rooted) (hr : Relation.ReflTransGen Step fs fs') : fs'.Rooted := by
  induction hr with
  | refl => exact h
  | tail _ hs ih => exact ih.step hs

/-- A root that holds nothing, seen from wherever. -/
theorem rooted_root (root : Node) (home : Location) (umask : UInt32) (maxLength : Nat) :
    Rooted { names := [([], 0)], nodes := [root], home, umask, maxLength } := by
  refine rooted_of_names (fun entry he => ?_) (fun entry he => ?_)
  · obtain rfl := List.mem_singleton.mp he
    exact Nat.zero_lt_one
  · obtain rfl := List.mem_singleton.mp he
    exact .inl rfl

end FileTransfer.Filesystem
