import FileTransfer.Proofs.Filesystem.Prefixes
import FileTransfer.Proofs.Transfer.Reported
import Mathlib.Data.List.Nodup
import Mathlib.Data.List.TakeWhile

/-! Whether what is reported is new. If the parent is there in the end, the first path that was
missing leads to a new folder, and each further one that ends in a name to a new folder in the one
before (`locate_chain`). A path that ends in two dots leads back to a folder that was there or is
reported already, and this is all that can go wrong (`onlyNew_iff`). Without two dots the report is
exactly the new folders, outermost first (`ensureParent_exact`). -/
namespace FileTransfer.Filesystem

variable {fs after : Filesystem} {loc : Location} {p q parent destination : Path}

/-- Each path leads to a new folder, and no two lead to the same one. -/
structure OnlyNew (fs after : Filesystem) (made : List Path) : Prop where
  new : ∀ p ∈ made, ∃ loc, after.locate p = .ok loc ∧ NewFolder fs after loc
  distinct : (made.map after.locate).Nodup

/-- A folder right inside another one. -/
def Inside (outer inner : Location) : Prop :=
  ∃ name, inner = name :: outer

theorem nodup_of_inside {locs : List Location} (h : locs.IsChain Inside) : locs.Nodup := by
  have hlength : locs.IsChain fun outer inner => outer.length < inner.length := by
    refine h.imp fun outer inner hin => ?_
    obtain ⟨name, rfl⟩ := hin
    exact Nat.lt_succ_self _
  have htrans : IsTrans Location fun outer inner => outer.length < inner.length :=
    ⟨fun _ _ _ => Nat.lt_trans⟩
  refine (List.isChain_iff_pairwise.mp hlength).imp fun hlt heq => ?_
  rw [heq] at hlt
  exact absurd hlt (Nat.lt_irrefl _)

/-! ### Paths below one another -/

theorem folder?_eq_some : destination.folder? = some parent ↔
    destination.parent? = some parent ∧ parent.isEmpty = false := by
  rw [Path.folder?, Option.filter_eq_some_iff, Bool.not_eq_true']

/-- The ancestors of a parent, each below the next one. -/
theorem ancestors_isChain (h : destination.parent? = some parent) :
    parent.ancestors.IsChain fun inner outer => outer.Below inner := by
  rw [Path.ancestors_of_parent? h]
  exact destination.parents_isChain

/-- All paths above one that leads anywhere lead to folders. -/
theorem isFolderAt_of_isChain {ps : List Path} {last : LastName} {place : Place}
    (hc : (p :: ps).IsChain fun inner outer => outer.Below inner)
    (hr : fs.resolve last p = .ok place) :
    ∀ q ∈ ps, q.isEmpty = false → fs.isFolderAt q = true := by
  induction ps generalizing p last place with
  | nil => nofun
  | cons outer rest ih =>
    obtain ⟨hb, hrest⟩ := List.isChain_cons_cons.mp hc
    intro q hq hne
    have houter (hne : outer.isEmpty = false) : fs.isFolderAt outer = true :=
      isFolderAt_of_below hb hne hr
    obtain rfl | hq := List.mem_cons.mp hq
    · exact houter hne
    · have hfolder := houter ?_
      · obtain ⟨l, hl, -⟩ := isFolderAt_iff.mp hfolder
        exact ih hrest (locate_eq_ok.mp hl) q hq hne
      -- nothing is above the empty path
      · cases rest with
        | nil => cases hq
        | cons next _ => exact (List.isChain_cons_cons.mp hrest).1.inner_isEmpty

/-- In a chain each element but the first stands in the relation to the one before it. -/
theorem exists_rel_of_mem {α : Type} {r : α → α → Prop} {a b : α} {l : List α}
    (hc : (a :: l).IsChain r) (hb : b ∈ l) : ∃ c ∈ a :: l, r c b := by
  induction l generalizing a with
  | nil => cases hb
  | cons x rest ih =>
    obtain ⟨hx, hrest⟩ := List.isChain_cons_cons.mp hc
    obtain rfl | hb := List.mem_cons.mp hb
    · exact ⟨a, List.mem_cons_self, hx⟩
    · obtain ⟨c, hcmem, hr⟩ := ih hrest hb
      exact ⟨c, List.mem_cons_of_mem a hcmem, hr⟩

/-! ### Missing paths -/

theorem mem_missing (h : q ∈ fs.missing parent) : q.isEmpty = false ∧ fs.existsAt q = false := by
  have hq := List.mem_takeWhile_imp h
  simpa using hq

/-- The missing paths, outermost first, each below the one before. -/
theorem missing_isChain (fs : Filesystem) (h : destination.parent? = some parent) :
    (fs.missing parent).reverse.IsChain Path.Below := by
  have hall := ancestors_isChain h
  obtain ⟨rest, hrest⟩ : fs.missing parent <+: parent.ancestors := List.takeWhile_prefix _
  rw [← hrest] at hall
  exact List.isChain_reverse.mpr (List.isChain_append.mp hall).1

/-- A path that a folder can be made for is not below a missing one. -/
theorem not_below_missing (hq : q ∈ fs.missing parent) (hb : q.Below p) :
    fs.makeFolder p ≠ .ok after := by
  intro hm
  obtain ⟨hne, hex⟩ := mem_missing hq
  obtain ⟨folder, name, hr, -⟩ := makeFolder_eq_ok hm
  rw [existsAt_of_isFolderAt (isFolderAt_of_below hb hne hr)] at hex
  cases hex

theorem makeParent_isFolderAt (hn : fs.Numbered) (hne : parent.isEmpty = false)
    (hok : (fs.makeParent parent).result = .ok ()) :
    (fs.makeParent parent).system.isFolderAt parent = true := by
  unfold makeParent at hok ⊢
  cases hm : fs.makeFolders parent with
  | mk result after =>
    rw [hm] at hok
    cases result with
    | ok => exact makeNested_isFolderAt hn hne hm
    | error e =>
      dsimp only at hok ⊢
      split
      · assumption
      · next hf => rw [if_neg hf] at hok; cases hok

/-- What a call did that ended with the parent there: nothing, or it made folders, the first of
them for the outermost missing path. -/
theorem ensureParent_ok (hn : fs.Numbered)
    (hok : (fs.ensureParent destination).result = .ok ()) :
    fs.ensureParent destination = ⟨.ok (), fs, [], []⟩ ∨
    ∃ parent first rest qs, destination.folder? = some parent ∧
      (fs.missing parent).reverse = first :: rest ∧
      (fs.ensureParent destination).made = first :: rest ∧
      Built fs (first :: qs) (fs.ensureParent destination).system ∧ qs.Sublist rest ∧
      (fs.ensureParent destination).system.isFolderAt parent = true := by
  obtain h | ⟨parent, hparent, hold, h⟩ := fs.ensureParent_cases destination
  · exact .inl h
  right
  obtain ⟨hp, hne⟩ := folder?_eq_some.mp hparent
  rw [h] at hok ⊢
  have hnow := makeParent_isFolderAt hn hne hok
  have hmade : (fs.makeParent parent).made = (fs.missing parent).reverse := by
    obtain ⟨-, hmade⟩ | ⟨hfail, -⟩ := fs.makeParent_made parent
    · exact hmade
    · exact absurd hok hfail
  obtain ⟨qs, hqs, hsub⟩ := fs.makeParent_built parent
  generalize (fs.makeParent parent).system = after at hqs hnow ⊢
  cases hqs with
  | nil => rw [hold] at hnow; cases hnow
  | @cons _ mid _ q qs hq hrest =>
    cases hmissing : (fs.missing parent).reverse with
    | nil => rw [hmissing] at hsub; cases hsub
    | cons first rest =>
      rw [hmissing] at hsub hmade
      obtain hsub | ⟨_, hcons, hsub⟩ := List.sublist_cons_iff.mp hsub
      · -- the first folder made would be one below a missing path
        have hchain := fs.missing_isChain hp
        rw [hmissing] at hchain
        obtain ⟨outer, houter, hb⟩ := exists_rel_of_mem hchain (hsub.mem List.mem_cons_self)
        rw [← hmissing, List.mem_reverse] at houter
        exact absurd hq (not_below_missing houter hb)
      · obtain ⟨rfl, rfl⟩ := List.cons.inj hcons
        exact ⟨parent, q, rest, qs, hparent, hmissing, hmade, .cons hq hrest, hsub, hnow⟩

/-! ### What the paths lead to -/

/-- Paths below one another, of which the first leads to a new folder and none ends in two dots,
lead to new folders one inside the other. -/
theorem locate_chain (hw : fs.Rooted) (ha : fs.FoldersAdded after) {ps : List Path}
    (hc : (p :: ps).IsChain Path.Below) (hp : after.locate p = .ok loc)
    (hnew : NewFolder fs after loc) (hps : ∀ q ∈ p :: ps, q.isEmpty = false)
    (hf : ∀ q ∈ ps, after.isFolderAt q = true) (hup : ∀ q ∈ ps, q.endsUp = false) :
    ∃ locs : List Location, (p :: ps).map after.locate = (loc :: locs).map .ok ∧
      (loc :: locs).IsChain Inside ∧ ∀ l ∈ loc :: locs, NewFolder fs after l := by
  induction ps generalizing p loc with
  | nil =>
    refine ⟨[], by rw [List.map_singleton, hp]; rfl, .singleton _, fun l hl => ?_⟩
    obtain rfl := List.mem_singleton.mp hl
    exact hnew
  | cons q rest ih =>
    obtain ⟨hb, hrest⟩ := List.isChain_cons_cons.mp hc
    obtain ⟨inner, hq, hinner⟩ := isFolderAt_iff.mp (hf q List.mem_cons_self)
    obtain ⟨outer, n, node, houter, hnode, hloc⟩ :=
      locate_below hb (hps p List.mem_cons_self) (hup q List.mem_cons_self) hq
    rw [hp] at houter
    cases houter
    -- nothing was in a folder that was not there, so that what is in it now is a new folder
    have hfree := hw.at?_eq_none hnew.2 n
    have hd : node.isDirectory = true := by
      obtain hold | ⟨-, hd, -⟩ := ha.added _ _ hnode
      · rw [hfree] at hold
        cases hold
      · exact hd
    obtain rfl := hloc hd
    have hnew' : NewFolder fs after (n :: loc) :=
      ⟨hinner, by rw [isFolder, hfree, Option.any_none]⟩
    obtain ⟨locs, hmap, hinside, hall⟩ := ih hrest hq hnew'
      (fun r hr => hps r (List.mem_cons_of_mem p hr))
      (fun r hr => hf r (List.mem_cons_of_mem q hr))
      (fun r hr => hup r (List.mem_cons_of_mem q hr))
    refine ⟨(n :: loc) :: locs, ?_, .cons_cons ⟨n, rfl⟩ hinside, fun l hl => ?_⟩
    · rw [List.map_cons, hp, hmap]
      rfl
    · obtain rfl | hl := List.mem_cons.mp hl
      · exact hnew
      · exact hall l hl

/-- If the parent is there in the end, all that was reported leads to folders. -/
theorem ensureParent_made_isFolderAt (hn : fs.Numbered)
    (hok : (fs.ensureParent destination).result = .ok ()) :
    ∀ q ∈ (fs.ensureParent destination).made,
      (fs.ensureParent destination).system.isFolderAt q = true := by
  obtain h | ⟨parent, first, rest, qs, hparent, hmissing, hmade, -, -, hnow⟩ :=
    ensureParent_ok hn hok
  · rw [h]
    nofun
  · obtain ⟨hp, -⟩ := folder?_eq_some.mp hparent
    intro q hq
    rw [hmade, ← hmissing, List.mem_reverse] at hq
    obtain rfl | habove := List.mem_cons.mp (List.takeWhile_subset _ hq)
    · exact hnow
    · obtain ⟨l, hl, -⟩ := isFolderAt_iff.mp hnow
      exact isFolderAt_of_isChain (ancestors_isChain hp) (locate_eq_ok.mp hl) q habove
        (mem_missing hq).1

/-- If no reported path ends in two dots, the report leads from one new folder into the next. -/
theorem ensureParent_chain (hw : fs.Rooted)
    (hok : (fs.ensureParent destination).result = .ok ())
    (hup : ∀ q ∈ (fs.ensureParent destination).made, q.endsUp = false) :
    ∃ locs : List Location,
      (fs.ensureParent destination).made.map (fs.ensureParent destination).system.locate =
        locs.map .ok ∧
      locs.IsChain Inside ∧ ∀ l ∈ locs, NewFolder fs (fs.ensureParent destination).system l := by
  have hfolders := ensureParent_made_isFolderAt hw.numbered hok
  obtain h | ⟨parent, first, rest, qs, hparent, hmissing, hmade, hbuilt, -, -⟩ :=
    ensureParent_ok hw.numbered hok
  · rw [h]
    exact ⟨[], rfl, .nil, nofun⟩
  · obtain ⟨hp, -⟩ := folder?_eq_some.mp hparent
    have hchain := fs.missing_isChain hp
    rw [hmade] at hfolders hup ⊢
    rw [hmissing] at hchain
    have hnonempty (q : Path) (hq : q ∈ first :: rest) : q.isEmpty = false := by
      rw [← hmissing, List.mem_reverse] at hq
      exact (mem_missing hq).1
    have hadded := hbuilt.foldersAdded hw.numbered
    generalize (fs.ensureParent destination).system = after at *
    cases hbuilt with
    | @cons _ mid _ _ _ hmake hrest =>
      have hmid := hw.numbered.makeFolder hmake
      obtain ⟨-, loc, hloc, hf, hfree, -⟩ := makeFolder_spec hw.numbered hmake
      have hlater := hrest.extends hmid
      obtain ⟨locs, hmap, hinside, hall⟩ := locate_chain hw hadded hchain (hlater.locate hloc)
        ⟨hlater.isFolder hf, hfree⟩ hnonempty
        (fun q hq => hfolders q (List.mem_cons_of_mem first hq))
        (fun q hq => hup q (List.mem_cons_of_mem first hq))
      exact ⟨loc :: locs, hmap, hinside, hall⟩

theorem onlyNew_of_chain {made : List Path} {locs : List Location}
    (hmap : made.map after.locate = locs.map .ok) (hc : locs.IsChain Inside)
    (hnew : ∀ l ∈ locs, NewFolder fs after l) : OnlyNew fs after made where
  new := by
    intro p hp
    have hmem : after.locate p ∈ locs.map Except.ok := by
      rw [← hmap]
      exact List.mem_map_of_mem hp
    obtain ⟨loc, hloc, heq⟩ := List.mem_map.mp hmem
    exact ⟨loc, heq.symm, hnew loc hloc⟩
  distinct := by
    rw [hmap]
    exact (nodup_of_inside hc).map fun _ _ h => Except.ok.inj h

/-- A reported path that ends in two dots leads to a folder that was there, or to one that is
reported under another path as well. -/
theorem not_onlyNew_of_endsUp (hn : fs.Numbered) (hp : p ∈ (fs.ensureParent destination).made)
    (hup : p.endsUp = true) :
    ¬ OnlyNew fs (fs.ensureParent destination).system (fs.ensureParent destination).made := by
  intro h
  have hok : (fs.ensureParent destination).result = .ok () := by
    by_contra hfail
    rw [ensureParent_made_of_failed hfail] at hp
    cases hp
  obtain ⟨loc, hloc, hnew⟩ := h.new p hp
  -- the new folder was made for a path, and that is not this one
  obtain ⟨qs, hqs, -, hmade⟩ := fs.ensureParent_built destination
  obtain ⟨q, hq, hqloc⟩ := hqs.locate_new hn hnew.1 hnew.2
  obtain ⟨before, made, hmake⟩ := hqs.makeFolder_of_mem hq
  obtain rfl : p = q := List.inj_on_of_nodup_map h.distinct hp (hmade hok q hq)
    (hloc.trans hqloc.symm)
  obtain ⟨folder, name, hr, -⟩ := makeFolder_eq_ok hmake
  exact resolve_ne_vacant_of_endsUp hup folder name hr

/-- What is reported is new and reported once just if no reported path ends in two dots. -/
theorem onlyNew_iff (hw : fs.Rooted) (destination : Path) :
    OnlyNew fs (fs.ensureParent destination).system (fs.ensureParent destination).made ↔
      ∀ p ∈ (fs.ensureParent destination).made, p.endsUp = false := by
  constructor
  · intro h p hp
    by_contra hup
    exact not_onlyNew_of_endsUp hw.numbered hp (by simpa using hup) h
  · intro hup
    by_cases hok : (fs.ensureParent destination).result = .ok ()
    · obtain ⟨locs, hmap, hc, hnew⟩ := ensureParent_chain hw hok hup
      exact onlyNew_of_chain hmap hc hnew
    · rw [ensureParent_made_of_failed hok]
      exact ⟨nofun, .nil⟩

/-- A working folder that holds a folder and a link to it. -/
def linked : Filesystem where
  names := [([], 0), ([Text.Utf8.encode "d"], 1), ([Text.Utf8.encode "l"], 2)]
  nodes := [{ kind := .directory, mode := 0o755 }, { kind := .directory, mode := 0o2755 },
    { kind := .link (Text.Utf8.encode "d/../d"), mode := 0o777 }]
  home := []

theorem rooted_linked : linked.Rooted := by
  have hn : linked.Numbered := by
    unfold Numbered
    decide
  exact rooted_of_names hn (by decide +kernel)

/-- Two dots behind a link are no two dots at the end of a path. -/
theorem onlyNew_behind_link :
    let parent := linked.ensureParent (Path.ofString "l/../d/.//x/y/f")
    linked.Rooted ∧
      parent.made = [Path.ofString "l/../d/.//x", Path.ofString "l/../d/.//x/y"] ∧
      OnlyNew linked parent.system parent.made := by
  intro parent
  have hmade : parent.made = [Path.ofString "l/../d/.//x", Path.ofString "l/../d/.//x/y"] := by
    decide +kernel
  refine ⟨rooted_linked, hmade, (onlyNew_iff rooted_linked _).mpr fun p hp => ?_⟩
  rw [show (linked.ensureParent _).made = _ from hmade] at hp
  revert p
  decide +kernel

/-- Two dots behind a folder that is missing: the working folder, which was there, is reported. -/
theorem reported_working_folder :
    let parent := linked.ensureParent (Path.ofString "a/../b/f")
    parent.made = [Path.ofString "a", Path.ofString "a/..", Path.ofString "a/../b"] ∧
      parent.system.locate (Path.ofString "a/..") = .ok linked.home ∧
      ¬ NewFolder linked parent.system linked.home ∧
      ¬ OnlyNew linked parent.system parent.made := by
  intro parent
  have hmade : parent.made = [Path.ofString "a", Path.ofString "a/..", Path.ofString "a/../b"] := by
    decide +kernel
  have hloc : parent.system.locate (Path.ofString "a/..") = .ok linked.home := by
    decide +kernel
  have hold : ¬ NewFolder linked parent.system linked.home := by
    rintro ⟨-, hfree⟩
    revert hfree
    decide +kernel
  refine ⟨hmade, hloc, hold, fun h => ?_⟩
  obtain ⟨loc, hnew, hfolder⟩ := h.new (Path.ofString "a/..") (by rw [hmade]; decide)
  rw [hloc] at hnew
  cases hnew
  exact hold hfolder

/-! ### Paths without two dots -/

/-- A path without two dots is below paths without two dots. -/
theorem endsUp_of_isChain {ps : List Path}
    (hc : (p :: ps).IsChain fun inner outer => outer.Below inner)
    (hp : PathStep.up ∉ Path.steps p.bytes) : ∀ q ∈ p :: ps, q.endsUp = false := by
  induction ps generalizing p with
  | nil =>
    intro q hq
    obtain rfl := List.mem_singleton.mp hq
    exact Path.endsUp_eq_false hp
  | cons outer rest ih =>
    obtain ⟨hb, hrest⟩ := List.isChain_cons_cons.mp hc
    have houter : PathStep.up ∉ Path.steps outer.bytes := by
      obtain ⟨heres, step, hsteps, -⟩ := hb.steps
      rw [hsteps, List.append_assoc] at hp
      exact fun hmem => hp (List.mem_append_left _ hmem)
    intro q hq
    obtain rfl | hq := List.mem_cons.mp hq
    · exact Path.endsUp_eq_false hp
    · exact ih hrest houter q hq

theorem ensureParent_isFolderAt (hn : fs.Numbered) (hp : destination.folder? = some parent)
    (hok : (fs.ensureParent destination).result = .ok ()) :
    (fs.ensureParent destination).system.isFolderAt parent = true := by
  obtain ⟨-, hne⟩ := folder?_eq_some.mp hp
  unfold ensureParent at hok ⊢
  rw [hp] at hok ⊢
  dsimp only at hok ⊢
  split
  · assumption
  · next hf =>
    rw [if_neg hf] at hok
    exact makeParent_isFolderAt hn hne hok

theorem ensureParent_foldersAdded (hn : fs.Numbered) (destination : Path) :
    fs.FoldersAdded (fs.ensureParent destination).system := by
  obtain ⟨qs, hqs, -⟩ := fs.ensureParent_built destination
  exact hqs.foldersAdded hn

/-- A new folder has the permissions that were asked for. -/
theorem FoldersAdded.permissions (h : fs.FoldersAdded after) (hnew : NewFolder fs after loc) :
    ∃ n, after.at? loc = some n ∧ n.mode &&& permissionBits = folderMode &&& ~~~fs.umask := by
  obtain ⟨n, hn, hd⟩ := isFolder_iff.mp hnew.1
  obtain hold | ⟨-, -, hmode⟩ := h.added loc n hn
  · have hfree := hnew.2
    rw [isFolder_of_at? hold, hd] at hfree
    cases hfree
  · exact ⟨n, hn, hmode⟩

/-- Nothing that is reported ends in two dots if the parent has none. -/
theorem endsUp_of_made (hn : fs.Numbered) (hp : destination.parent? = some parent)
    (hplain : PathStep.up ∉ Path.steps parent.bytes)
    (hok : (fs.ensureParent destination).result = .ok ()) :
    ∀ q ∈ (fs.ensureParent destination).made, q.endsUp = false := by
  intro q hq
  obtain h | ⟨parent', first, rest, qs, hfolder, hmissing, hmade, -⟩ := ensureParent_ok hn hok
  · rw [h] at hq
    cases hq
  · obtain ⟨hp', -⟩ := folder?_eq_some.mp hfolder
    rw [hp'] at hp
    cases hp
    rw [hmade, ← hmissing, List.mem_reverse] at hq
    exact endsUp_of_isChain (ancestors_isChain hp') hplain q (List.takeWhile_subset _ hq)

/-- Where there is nothing to make, nothing is reported and nothing changes. -/
theorem ensureParent_of_there (h : ∀ parent, destination.parent? = some parent →
    parent.isEmpty = true ∨ fs.isFolderAt parent = true) :
    fs.ensureParent destination = ⟨.ok (), fs, [], []⟩ := by
  obtain hdone | ⟨parent, hfolder, hold, -⟩ := fs.ensureParent_cases destination
  · exact hdone
  · obtain ⟨hp, hne⟩ := folder?_eq_some.mp hfolder
    obtain he | hf := h parent hp
    · rw [he] at hne
      cases hne
    · rw [hf] at hold
      cases hold

/-- Where the parent has no two dots and is there in the end, the report is exactly the new
folders, each once, one inside the other, with the permissions asked for. Where there is nothing to
make, nothing is reported and nothing changes. -/
theorem ensureParent_exact (hw : fs.Rooted) (destination : Path) :
    let report := fs.ensureParent destination
    (∀ parent, destination.parent? = some parent → PathStep.up ∉ Path.steps parent.bytes →
      report.result = .ok () →
        (parent.isEmpty = false → report.system.isFolderAt parent = true) ∧
        ∃ locs : List Location, report.made.map report.system.locate = locs.map .ok ∧
          (∀ loc, loc ∈ locs ↔ NewFolder fs report.system loc) ∧ locs.Nodup ∧
          locs.IsChain Inside ∧ ∀ loc ∈ locs, ∃ n, report.system.at? loc = some n ∧
            n.mode &&& permissionBits = folderMode &&& ~~~fs.umask) ∧
    ((∀ parent, destination.parent? = some parent →
        parent.isEmpty = true ∨ fs.isFolderAt parent = true) →
      report = ⟨.ok (), fs, [], []⟩) := by
  intro report
  refine ⟨fun parent hparent hplain hok => ⟨fun hne => ?_, ?_⟩, ensureParent_of_there⟩
  · exact ensureParent_isFolderAt hw.numbered (folder?_eq_some.mpr ⟨hparent, hne⟩) hok
  · have hup := endsUp_of_made hw.numbered hparent hplain hok
    obtain ⟨locs, hmap, hinside, hnew⟩ := ensureParent_chain hw hok hup
    have hiff (loc : Location) : loc ∈ locs ↔ NewFolder fs report.system loc := by
      refine ⟨hnew loc, fun h => ?_⟩
      obtain ⟨p, hp, hloc⟩ := ensureParent_reported hw.numbered hok loc h
      have hmem : Except.ok loc ∈ report.made.map report.system.locate := by
        rw [← hloc]
        exact List.mem_map_of_mem hp
      rw [hmap] at hmem
      obtain ⟨l, hl, heq⟩ := List.mem_map.mp hmem
      cases heq
      exact hl
    exact ⟨locs, hmap, hiff, nodup_of_inside hinside, hinside,
      fun loc hloc => (ensureParent_foldersAdded hw.numbered _).permissions (hnew loc hloc)⟩

/-- Two folders behind a link, whose target has two dots: both are reported, and no others are new.
A parent that is a link to a folder is left alone. -/
theorem ensureParent_exact_behind_link :
    let report := linked.ensureParent (Path.ofString "l//./x/y/f")
    let x : Location := [Text.Utf8.encode "x", Text.Utf8.encode "d"]
    linked.Rooted ∧ report.result = .ok () ∧
      report.made = [Path.ofString "l//./x", Path.ofString "l//./x/y"] ∧
      (∀ loc, NewFolder linked report.system loc ↔ loc = x ∨ loc = Text.Utf8.encode "y" :: x) ∧
      linked.ensureParent (Path.ofString "l/f") = ⟨.ok (), linked, [], []⟩ := by
  intro report x
  have hok : report.result = .ok () := by decide +kernel
  have hmade : report.made = [Path.ofString "l//./x", Path.ofString "l//./x/y"] := by
    decide +kernel
  have hlocs : report.made.map report.system.locate =
      [x, Text.Utf8.encode "y" :: x].map .ok := by decide +kernel
  have hparent : (Path.ofString "l//./x/y/f").parent? = some (Path.ofString "l//./x/y") := by
    decide +kernel
  obtain ⟨-, locs, hmap, hiff, -⟩ :=
    (ensureParent_exact rooted_linked (Path.ofString "l//./x/y/f")).1 _ hparent
      (by decide +kernel) hok
  obtain rfl : locs = [x, Text.Utf8.encode "y" :: x] := by
    refine List.map_injective_iff.mpr (fun _ _ h => Except.ok.inj h) (hmap.symm.trans ?_)
    exact hlocs
  refine ⟨rooted_linked, hok, hmade, fun loc => ?_, ?_⟩
  · rw [← hiff loc, List.mem_pair]
  · refine (ensureParent_exact rooted_linked (Path.ofString "l/f")).2 fun parent hp => ?_
    obtain rfl : Path.ofString "l" = parent := Option.some.inj hp
    exact .inr (by decide +kernel)

end FileTransfer.Filesystem
