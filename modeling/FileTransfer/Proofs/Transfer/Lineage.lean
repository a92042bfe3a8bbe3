import FileTransfer.Proofs.Transfer.Recorded

/-! The shape of what is reported, also where paths have two dots. If the parent is there in the
end, the report is a line of lexical ancestors, each the parent of the next, down to the parent of
the destination: they named nothing before the call, all around them were folders, and they lead to
folders now (`Lineage`). It is empty just if there was nothing to make, and if the parent could not
be made nothing is reported (`ensureParent_lineage`). -/
namespace FileTransfer.Filesystem

variable {fs after : Filesystem} {p first parent destination : Path}

/-- Paths from one that was missing down to a parent, each right above the next one. -/
structure Lineage (fs after : Filesystem) (parent : Path) (made : List Path) : Prop where
  chain : made.IsChain fun outer inner => inner.parent? = some outer
  last : made.getLast? = some parent
  ancestors : ∀ p ∈ made, p ∈ parent.ancestors
  missing : ∀ p ∈ made, fs.existsAt p = false
  around : ∀ first ∈ made.head?, ∀ outer ∈ first.parents,
    outer.isEmpty = false → fs.isFolderAt outer = true
  folders : ∀ p ∈ made, after.isFolderAt p = true

/-- Above a path for which a folder can be made there are folders. -/
theorem isFolderAt_around {made : Filesystem} (hp : p.parent? = some first)
    (hm : fs.makeFolder first = .ok made) :
    ∀ outer ∈ first.parents, outer.isEmpty = false → fs.isFolderAt outer = true := by
  obtain ⟨folder, name, hr, -⟩ := makeFolder_eq_ok hm
  exact isFolderAt_of_isChain (ancestors_isChain hp) hr

/-- An ancestor of a parent is itself a parent. -/
theorem exists_parent?_of_mem (hp : destination.parent? = some parent)
    (hfirst : first ∈ parent.ancestors) : ∃ p : Path, p.parent? = some first := by
  rw [Path.ancestors_of_parent? hp] at hfirst
  obtain ⟨p, -, h⟩ := exists_rel_of_mem destination.parent?_isChain hfirst
  exact ⟨p, h⟩

/-- The missing paths, outermost first, lead down to the parent. -/
theorem missing_lineage (fs : Filesystem) (parent : Path) :
    (fs.missing parent).reverse.IsChain fun outer inner => inner.parent? = some outer := by
  have hall := parent.parent?_isChain
  obtain ⟨rest, hrest⟩ : fs.missing parent <+: parent.ancestors := List.takeWhile_prefix _
  rw [← hrest] at hall
  exact List.isChain_reverse.mpr (List.isChain_append.mp hall).1

/-- A parent that is not there is the first of the missing paths. -/
theorem head?_missing (h : fs.missing parent ≠ []) : (fs.missing parent).head? = some parent := by
  rw [missing, Path.ancestors, List.takeWhile_cons] at h ⊢
  split
  · rfl
  · next hp => rw [if_neg hp] at h; exact absurd rfl h

/-- What is reported are the missing paths, and a folder could be made for the first of them. -/
theorem ensureParent_made_missing (hn : fs.Numbered)
    (hok : (fs.ensureParent destination).result = .ok ())
    (hmade : (fs.ensureParent destination).made ≠ []) :
    ∃ parent first next, destination.parent? = some parent ∧
      (fs.ensureParent destination).made = (fs.missing parent).reverse ∧
      (fs.missing parent).reverse.head? = some first ∧ fs.makeFolder first = .ok next := by
  obtain h | ⟨parent, first, rest, qs, hfolder, hmissing, heq, hbuilt, -, -⟩ :=
    ensureParent_ok hn hok
  · rw [h] at hmade
    exact absurd rfl hmade
  · obtain ⟨hp, -⟩ := folder?_eq_some.mp hfolder
    cases hbuilt with
    | cons hmake _ =>
      refine ⟨parent, first, _, hp, heq.trans hmissing.symm, ?_, hmake⟩
      rw [hmissing]
      rfl

theorem ensureParent_made (hn : fs.Numbered)
    (hok : (fs.ensureParent destination).result = .ok ())
    (hmade : (fs.ensureParent destination).made ≠ []) :
    ∃ parent, destination.parent? = some parent ∧
      Lineage fs (fs.ensureParent destination).system parent (fs.ensureParent destination).made := by
  have hfolders := ensureParent_made_isFolderAt hn hok
  obtain ⟨parent, first, next, hp, hlist, hfirst, hmake⟩ := ensureParent_made_missing hn hok hmade
  rw [hlist] at hmade hfolders ⊢
  have hmem (p : Path) (h : p ∈ (fs.missing parent).reverse) : p ∈ fs.missing parent :=
    List.mem_reverse.mp h
  have hancestors (p : Path) (h : p ∈ (fs.missing parent).reverse) : p ∈ parent.ancestors :=
    List.takeWhile_subset _ (hmem p h)
  refine ⟨parent, hp, fs.missing_lineage parent, ?_, hancestors,
    fun p h => (mem_missing (hmem p h)).2, ?_, hfolders⟩
  · rw [List.getLast?_reverse]
    exact head?_missing (by simpa using hmade)
  · intro first' hfirst'
    obtain rfl : first = first' := Option.some.inj (hfirst.symm.trans hfirst')
    obtain ⟨inner, hinner⟩ := exists_parent?_of_mem hp
      (hancestors first (List.mem_of_mem_head? hfirst))
    exact isFolderAt_around hinner hmake

/-- If the parent is there in the end, nothing is reported just if there was nothing to make. -/
theorem ensureParent_made_eq_nil_iff (hn : fs.Numbered)
    (hok : (fs.ensureParent destination).result = .ok ()) :
    (fs.ensureParent destination).made = [] ↔ ∀ parent, destination.parent? = some parent →
      parent.isEmpty = true ∨ fs.isFolderAt parent = true := by
  constructor
  · intro hmade parent hp
    by_contra! hnew
    obtain ⟨hne, hold⟩ := hnew
    have hfolder := folder?_eq_some.mpr ⟨hp, Bool.eq_false_iff.mpr hne⟩
    have hnow := ensureParent_isFolderAt hn hfolder hok
    obtain h | ⟨_, _, _, _, _, _, hcons, -⟩ := ensureParent_ok hn hok
    · rw [h] at hnow
      exact hold hnow
    · rw [hcons] at hmade
      cases hmade
  · intro h
    rw [ensureParent_of_there h]

/-- What is reported if the parent is there in the end: nothing, just if there was nothing to make,
or else the missing paths down to the parent. If it is not there nothing is reported. -/
theorem ensureParent_lineage (hn : fs.Numbered) (destination : Path) :
    let report := fs.ensureParent destination
    (report.result ≠ .ok () → report.made = []) ∧
    (report.result = .ok () →
      (report.made = [] ∨ ∃ parent, destination.parent? = some parent ∧
        Lineage fs report.system parent report.made) ∧
      (report.made = [] ↔ ∀ parent, destination.parent? = some parent →
        parent.isEmpty = true ∨ fs.isFolderAt parent = true)) := by
  intro report
  refine ⟨ensureParent_made_of_failed, fun hok => ⟨?_, ensureParent_made_eq_nil_iff hn hok⟩⟩
  by_cases hmade : report.made = []
  · exact .inl hmade
  · exact .inr (ensureParent_made hn hok hmade)

/-- Two dots behind a missing folder: three paths are reported, and the second leads to a folder
that was there. Nothing is reported for a parent that is a link to a folder, nor for one with a zero
byte, which cannot be made. -/
theorem ensureParent_lineage_linked :
    let report := linked.ensureParent (Path.ofString "l/a/../b/f")
    linked.Numbered ∧ report.result = .ok () ∧
      report.made = [Path.ofString "l/a", Path.ofString "l/a/..", Path.ofString "l/a/../b"] ∧
      Lineage linked report.system (Path.ofString "l/a/../b") report.made ∧
      (linked.ensureParent (Path.ofString "l/f")).made = [] ∧
      (linked.ensureParent ⟨[97, 0, 47, 102]⟩).made = [] := by
  intro report
  have hn := rooted_linked.numbered
  have hok : report.result = .ok () := by decide +kernel
  have hmade : report.made =
      [Path.ofString "l/a", Path.ofString "l/a/..", Path.ofString "l/a/../b"] := by decide +kernel
  have hparent : (Path.ofString "l/a/../b/f").parent? = some (Path.ofString "l/a/../b") := by
    decide +kernel
  refine ⟨hn, hok, hmade, ?_, ?_, ?_⟩
  · obtain hempty | ⟨parent, hp, h⟩ := ((ensureParent_lineage hn _).2 hok).1
    · rw [hmade] at hempty
      cases hempty
    · obtain rfl := Option.some.inj (hparent.symm.trans hp)
      exact h
  · refine ((ensureParent_lineage hn (Path.ofString "l/f")).2 (by decide +kernel)).2.mpr ?_
    intro parent hp
    obtain rfl : Path.ofString "l" = parent := Option.some.inj hp
    exact .inr (by decide +kernel)
  · refine (ensureParent_lineage hn ⟨[97, 0, 47, 102]⟩).1 fun h => ?_
    have hfail : (linked.ensureParent ⟨[97, 0, 47, 102]⟩).result.isOk = false := by decide +kernel
    rw [h] at hfail
    cases hfail

end FileTransfer.Filesystem
