import FileTransfer.Proofs.Filesystem.Rooted

/-! The folders that come into being when nested folders are made. Whether the call succeeds or
stops on the way, it made folders one after the other (`Built`), for some of the paths that named
nothing before, outermost first (`makeNested_built`); each folder that is there now and was not
before is where one of these paths leads (`Built.locate_new`); and folders are all that was added
(`Built.foldersAdded`). -/
namespace FileTransfer.Filesystem

variable {fs fs' mid : Filesystem} {loc : Location} {p : Path} {qs rs : List Path}

/-! ### One folder -/

theorem makeFolder_of_found (hp : fs.resolve .keep p = .ok (.found loc)) :
    fs.makeFolder p = .error (.os .alreadyExists) := by
  unfold makeFolder
  rw [hp]
  rfl

/-- A path that leads somewhere is refused as taken. -/
theorem makeFolder_of_existsAt (hp : fs.existsAt p = true) :
    fs.makeFolder p = .error (.os .alreadyExists) := by
  obtain ⟨l, hl⟩ := resolve_keep_of_existsAt hp
  exact makeFolder_of_found hl

/-- A folder that was made is where its path leads, and is all that is new. -/
theorem makeFolder_spec (hn : fs.Numbered) (hm : fs.makeFolder p = .ok fs') :
    fs.Extends fs' ∧ ∃ loc, fs'.locate p = .ok loc ∧ fs'.isFolder loc = true ∧
      fs.isFolder loc = false ∧ ∀ l, fs'.isFolder l = true → l = loc ∨ fs.isFolder l = true := by
  obtain ⟨folder, name, hr, rfl⟩ := makeFolder_eq_ok hm
  have hv := (resolve_vacant hr).2
  have hext := extends_add hn hv (fs.newFolder folder)
  have hat (l : Location) := at?_add hn hv (fs.newFolder folder) l
  have hself : (fs.add (name :: folder) (fs.newFolder folder)).isFolder (name :: folder) = true :=
    isFolder_of_at? (by rw [hat, if_pos rfl])
  have hfree : fs.isFolder (name :: folder) = false := by rw [isFolder, hv, Option.any_none]
  refine ⟨hext, name :: folder, hext.locate_vacant hr hself, hself, hfree, fun l hl => ?_⟩
  by_cases hloc : l = name :: folder
  · exact .inl hloc
  · right
    rw [isFolder, hat, if_neg hloc] at hl
    exact hl

/-- The bits that say who may read, write to and run a file. -/
def permissionBits : UInt32 := 0o777

/-- A file system after folders were added, which have the permissions that are asked for. What was
there is as it was. -/
structure FoldersAdded (fs fs' : Filesystem) : Prop where
  home : fs'.home = fs.home
  umask : fs'.umask = fs.umask
  number? : ∀ loc i, fs.number? loc = some i → fs'.number? loc = some i
  kept : ∀ loc n, fs.at? loc = some n → fs'.at? loc = some n
  added : ∀ loc n, fs'.at? loc = some n → fs.at? loc = some n ∨
    fs.at? loc = none ∧ n.isDirectory = true ∧
      n.mode &&& permissionBits = folderMode &&& ~~~fs.umask

theorem FoldersAdded.refl (fs : Filesystem) : fs.FoldersAdded fs where
  home := rfl
  umask := rfl
  number? _ _ hi := hi
  kept _ _ hn := hn
  added _ _ hn := .inl hn

theorem FoldersAdded.trans {fs₁ fs₂ fs₃ : Filesystem} (h : fs₁.FoldersAdded fs₂)
    (h' : fs₂.FoldersAdded fs₃) : fs₁.FoldersAdded fs₃ where
  home := h'.home.trans h.home
  umask := h'.umask.trans h.umask
  number? loc i hi := h'.number? loc i (h.number? loc i hi)
  kept loc n hn := h'.kept loc n (h.kept loc n hn)
  added := by
    intro loc n hn
    obtain hn | ⟨hnone, hd, hmode⟩ := h'.added loc n hn
    · exact h.added loc n hn
    · cases hold : fs₁.at? loc with
      | none => exact .inr ⟨rfl, hd, by rw [hmode, h.umask]⟩
      | some m =>
        rw [h.kept loc m hold] at hnone
        cases hnone

theorem FoldersAdded.extends (h : fs.FoldersAdded fs') : fs.Extends fs' where
  home := h.home
  at? loc n hn := ⟨n, h.kept loc n hn, n.like_refl⟩

/-- Bits outside a mask do not show through it. -/
theorem or_and_mask (a b : UInt32) {extra mask : UInt32} (h : extra &&& mask = 0) :
    (a ||| b &&& extra) &&& mask = a &&& mask := by
  have hdistrib : (a ||| b &&& extra) &&& mask = a &&& mask ||| b &&& (extra &&& mask) := by
    apply UInt32.eq_of_toBitVec_eq
    ext i hi
    simp only [UInt32.toBitVec_and, UInt32.toBitVec_or, BitVec.getElem_and, BitVec.getElem_or]
    cases a.toBitVec[i] <;> cases b.toBitVec[i] <;> simp
  rw [hdistrib, h, UInt32.and_zero, UInt32.or_zero]

/-- A mask takes nothing from bits that it does not hold. -/
theorem and_not_eq_self_iff {bits mask : UInt32} : bits &&& ~~~mask = bits ↔ mask &&& bits = 0 := by
  have hparts : bits &&& ~~~mask ||| mask &&& bits = bits := by
    apply UInt32.eq_of_toBitVec_eq
    ext i hi
    simp only [UInt32.toBitVec_and, UInt32.toBitVec_or, UInt32.toBitVec_not, BitVec.getElem_and,
      BitVec.getElem_or, BitVec.getElem_not]
    cases bits.toBitVec[i] <;> cases mask.toBitVec[i] <;> rfl
  have hapart : mask &&& (bits &&& ~~~mask) = 0 := by
    rw [UInt32.and_comm bits, ← UInt32.and_assoc, UInt32.and_not_self, UInt32.zero_and]
  constructor
  · intro h
    rwa [h] at hapart
  · intro h
    rwa [h, UInt32.or_zero] at hparts

/-- A new folder may hand down its group; its permissions are those asked for. -/
theorem newFolder_permissions (fs : Filesystem) (folder : Location) :
    (fs.newFolder folder).mode &&& permissionBits = folderMode &&& ~~~fs.umask := by
  have hgroup : Node.setGroupBit &&& permissionBits = 0 := rfl
  have hmode : permissionBits = folderMode := rfl
  calc (fs.newFolder folder).mode &&& permissionBits
      = folderMode &&& ~~~fs.umask &&& permissionBits := or_and_mask _ _ hgroup
    _ = folderMode &&& ~~~fs.umask := by
      rw [hmode, UInt32.and_comm, ← UInt32.and_assoc, UInt32.and_self]

theorem foldersAdded_makeFolder (hn : fs.Numbered) (hm : fs.makeFolder p = .ok fs') :
    fs.FoldersAdded fs' := by
  obtain ⟨folder, name, hr, rfl⟩ := makeFolder_eq_ok hm
  have hv := (resolve_vacant hr).2
  have hat (l : Location) := at?_add hn hv (fs.newFolder folder) l
  refine ⟨rfl, rfl, fun loc i hi => ?_, fun loc n hloc => ?_, fun loc n hloc => ?_⟩
  · rw [number?] at hi ⊢
    rw [add, List.lookup_append, hi]
    rfl
  · rw [hat, if_neg, hloc]
    rintro rfl
    rw [hloc] at hv
    cases hv
  · rw [hat] at hloc
    split at hloc
    · next hl =>
      cases hloc
      exact .inr ⟨by rw [hl, hv], rfl, fs.newFolder_permissions folder⟩
    · exact .inl hloc

/-! ### One after the other -/

/-- Folders made one after the other, for these paths. -/
inductive Built : Filesystem → List Path → Filesystem → Prop
  | nil {fs : Filesystem} : Built fs [] fs
  | cons {fs mid fs' : Filesystem} {p : Path} {qs : List Path} :
      fs.makeFolder p = .ok mid → Built mid qs fs' → Built fs (p :: qs) fs'

theorem Built.append (h : Built fs qs mid) (h' : Built mid rs fs') : Built fs (qs ++ rs) fs' := by
  induction h with
  | nil => exact h'
  | cons hm _ ih => exact .cons hm (ih h')

theorem Built.numbered (h : Built fs qs fs') (hn : fs.Numbered) : fs'.Numbered := by
  induction h with
  | nil => exact hn
  | cons hm _ ih => exact ih (hn.makeFolder hm)

theorem Built.run (h : Built fs qs fs') : Relation.ReflTransGen Step fs fs' := by
  induction h with
  | nil => exact .refl
  | cons hm _ ih => exact .head (.makeFolder hm) ih

theorem Built.foldersAdded (h : Built fs qs fs') (hn : fs.Numbered) : fs.FoldersAdded fs' := by
  induction h with
  | nil => exact .refl _
  | cons hm _ ih => exact (foldersAdded_makeFolder hn hm).trans (ih (hn.makeFolder hm))

theorem Built.extends (h : Built fs qs fs') (hn : fs.Numbered) : fs.Extends fs' :=
  (h.foldersAdded hn).extends

/-- Each of the paths was one that a folder could be made for. -/
theorem Built.makeFolder_of_mem (h : Built fs qs fs') {q : Path} (hq : q ∈ qs) :
    ∃ before after : Filesystem, before.makeFolder q = .ok after := by
  induction h with
  | nil => cases hq
  | @cons fs mid fs' p qs hm _ ih =>
    obtain rfl | hq := List.mem_cons.mp hq
    · exact ⟨fs, mid, hm⟩
    · exact ih hq

/-- Each new folder is where one of the paths leads. -/
theorem Built.locate_new (h : Built fs qs fs') (hn : fs.Numbered)
    (hnew : fs'.isFolder loc = true) (hold : fs.isFolder loc = false) :
    ∃ q ∈ qs, fs'.locate q = .ok loc := by
  induction h with
  | nil => rw [hnew] at hold; cases hold
  | @cons fs mid fs' p qs hm hrest ih =>
    have hmid := hn.makeFolder hm
    obtain ⟨_, made, hmade, _, _, hfolders⟩ := makeFolder_spec hn hm
    cases hin : mid.isFolder loc with
    | false =>
      obtain ⟨q, hq, hloc⟩ := ih hmid hnew hin
      exact ⟨q, List.mem_cons_of_mem p hq, hloc⟩
    | true =>
      obtain rfl | h := hfolders loc hin
      · exact ⟨p, List.mem_cons_self, (hrest.extends hmid).locate hmade⟩
      · rw [h] at hold
        cases hold

/-- Making nested folders makes folders for some of the paths that name nothing, up to the first
one that names something, from the last one on. -/
theorem makeNested_built (fs : Filesystem) (ps : List Path) :
    ∃ qs, Built fs qs (fs.makeNested ps).2 ∧
      qs.Sublist (ps.takeWhile fun q => !q.isEmpty && !fs.existsAt q).reverse := by
  induction ps with
  | nil => exact ⟨[], .nil, List.nil_sublist _⟩
  | cons p around ih =>
    unfold makeNested
    by_cases he : p.isEmpty = true
    · rw [if_pos he]
      exact ⟨[], .nil, List.nil_sublist _⟩
    rw [if_neg he]
    -- a path that names something is refused as taken, so that the call ends there
    have missing (hm : fs.makeFolder p ≠ .error (.os .alreadyExists)) :
        ((p :: around).takeWhile fun q => !q.isEmpty && !fs.existsAt q).reverse =
          (around.takeWhile fun q => !q.isEmpty && !fs.existsAt q).reverse ++ [p] := by
      have hex : fs.existsAt p ≠ true := fun hex => hm (makeFolder_of_existsAt hex)
      simp [he, hex]
    cases hm : fs.makeFolder p with
    | ok made =>
      refine ⟨[p], .cons hm .nil, ?_⟩
      rw [missing (by rw [hm]; nofun)]
      exact List.sublist_append_right _ _
    | error e =>
      by_cases hk : e.kind = .notFound
      · have hne : fs.makeFolder p ≠ .error (.os .alreadyExists) := by
          rw [hm]
          rintro ⟨⟩
          cases hk
        obtain ⟨qs, hqs, hsub⟩ := ih
        simp only [missing hne, hk, if_true]
        cases hr : fs.makeNested around with
        | mk result mid =>
          rw [hr] at hqs
          have hstop := hsub.trans (List.sublist_append_left _ [p])
          cases result with
          | error e' => exact ⟨qs, hqs, hstop⟩
          | ok =>
            dsimp only
            cases hagain : mid.makeFolder p with
            | error e' => exact ⟨qs, hqs, hstop⟩
            | ok made => exact ⟨qs ++ [p], hqs.append (.cons hagain .nil), hsub.append_right [p]⟩
      · simp only [hk, if_false]
        exact ⟨[], .nil, List.nil_sublist _⟩

theorem isFolderAt_of_makeFolder (hn : fs.Numbered) (hm : fs.makeFolder p = .ok fs') :
    fs'.isFolderAt p = true := by
  obtain ⟨-, loc, hloc, hf, -⟩ := makeFolder_spec hn hm
  exact isFolderAt_iff.mpr ⟨loc, hloc, hf⟩

/-- If nested folders can be made, the innermost one is there. -/
theorem makeNested_isFolderAt (hn : fs.Numbered) (hne : p.isEmpty = false) {around : List Path}
    (hm : fs.makeNested (p :: around) = (.ok (), fs')) : fs'.isFolderAt p = true := by
  rw [makeNested, if_neg (Bool.eq_false_iff.mp hne)] at hm
  -- a failure counts as success if the folder is there
  have there {after : Filesystem} {e : Fault}
      (h : (if after.isFolderAt p then Except.ok () else .error e, after) = (Except.ok (), fs')) :
      fs'.isFolderAt p = true := by
    obtain ⟨hif, rfl⟩ := Prod.mk.inj h
    split at hif
    · assumption
    · cases hif
  cases hmake : fs.makeFolder p with
  | ok made =>
    rw [hmake] at hm
    obtain ⟨-, rfl⟩ := Prod.mk.inj hm
    exact isFolderAt_of_makeFolder hn hmake
  | error e =>
    simp only [hmake] at hm
    split at hm
    · obtain ⟨qs, hqs, -⟩ := fs.makeNested_built around
      cases hr : fs.makeNested around with
      | mk result mid =>
        rw [hr] at hm hqs
        cases result with
        | error e => cases hm
        | ok =>
          dsimp only at hm
          cases hagain : mid.makeFolder p with
          | ok made =>
            rw [hagain] at hm
            obtain ⟨-, rfl⟩ := Prod.mk.inj hm
            exact isFolderAt_of_makeFolder (hqs.numbered hn) hagain
          | error e =>
            rw [hagain] at hm
            exact there hm
    · exact there hm

end FileTransfer.Filesystem
