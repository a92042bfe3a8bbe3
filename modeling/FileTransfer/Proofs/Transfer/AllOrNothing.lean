import FileTransfer.Proofs.Transfer.SizedFile

/-! All or nothing. The parent of a destination, and what is above it, may be in the way: a name
that is taken but does not lead to a folder. Then nothing is made and nothing is reported, whatever
the path looks like (`ensureParent_blocked`). If nothing is in the way and folders can be made where
they are missing, a plain parent is there in the end (`makeNested_made`). Together these say just when
the call succeeds, and that it changes nothing otherwise (`ensureParent_all_or_nothing`). -/
namespace FileTransfer.Filesystem

variable {fs before after mid : Filesystem} {loc folder : Location} {links : Nat} {n : Name}
  {p q inner outer parent destination : Path}

/-- There is something under the last name of a path, if only a link that leads nowhere. -/
def HasEntry (fs : Filesystem) (p : Path) : Prop :=
  ∃ loc, fs.resolve .keep p = .ok (.found loc)

instance (fs : Filesystem) (p : Path) : Decidable (fs.HasEntry p) :=
  match h : fs.resolve .keep p with
  | .ok (.found loc) => isTrue ⟨loc, h⟩
  | .ok (.vacant _ _) => isFalse fun ⟨_, hr⟩ => by cases h.symm.trans hr
  | .error _ => isFalse fun ⟨_, hr⟩ => by cases h.symm.trans hr

theorem HasEntry.isEmpty (h : fs.HasEntry p) : p.isEmpty = false := by
  obtain ⟨loc, hr⟩ := h
  exact (resolve_eq_ok.mp hr).2.1

/-! ### Something in the way -/

/-- Where a name is taken by what is no folder, no folder can be made for any of the nested paths:
not above it, where all are there, and not below it. -/
theorem makeFolder_ne_ok_of_blocked {ps : List Path}
    (hc : ps.IsChain fun inner outer => outer.Below inner) (hq : q ∈ ps) (he : fs.HasEntry q)
    (hf : fs.isFolderAt q = false) (hp : p ∈ ps) : fs.makeFolder p ≠ .ok after := by
  intro hm
  obtain ⟨loc, hr⟩ := he
  obtain ⟨folder, name, hv, -⟩ := makeFolder_eq_ok hm
  obtain ⟨inside, above, rfl⟩ := List.append_of_mem hq
  obtain hp | hp := List.mem_append.mp hp
  · obtain ⟨inside, between, rfl⟩ := List.append_of_mem hp
    rw [List.append_assoc] at hc
    have hfolder := isFolderAt_of_isChain (List.isChain_append.mp hc).2.1 hv q (by simp)
      (HasEntry.isEmpty ⟨loc, hr⟩)
    rw [hfolder] at hf
    cases hf
  · obtain rfl | hp := List.mem_cons.mp hp
    · rw [makeFolder_of_found hr] at hm
      cases hm
    · have hne := (resolve_eq_ok.mp hv).2.1
      have hfolder := isFolderAt_of_isChain (List.isChain_append.mp hc).2.1 hr p hp hne
      rw [makeFolder_of_existsAt (existsAt_of_isFolderAt hfolder)] at hm
      cases hm

/-- A call that finds something in the way says so of the parent, and nothing comes of it. -/
theorem ensureParent_blocked (hn : fs.Numbered) (hparent : destination.folder? = some parent)
    (hq : q ∈ parent.ancestors) (he : fs.HasEntry q) (hf : fs.isFolderAt q = false) :
    (∃ cause, (fs.ensureParent destination).result =
        .error (.directoryCreation parent cause)) ∧
      (fs.ensureParent destination).made = [] ∧ (fs.ensureParent destination).system = fs := by
  obtain ⟨hp, -⟩ := folder?_eq_some.mp hparent
  have hc := ancestors_isChain hp
  have hsame : (fs.ensureParent destination).system = fs := by
    obtain ⟨qs, hqs, hmissing, -⟩ := fs.ensureParent_built destination
    generalize (fs.ensureParent destination).system = after at hqs ⊢
    cases hqs with
    | nil => rfl
    | @cons _ mid _ first qs hm hrest =>
      obtain ⟨parent', hparent', hfirst⟩ := hmissing first List.mem_cons_self
      cases hparent.symm.trans hparent'
      exact absurd hm (makeFolder_ne_ok_of_blocked hc hq he hf (List.takeWhile_subset _ hfirst))
  have hfail : (fs.ensureParent destination).result ≠ .ok () := by
    intro hok
    have hnow := ensureParent_isFolderAt hn hparent hok
    rw [hsame] at hnow
    obtain rfl | habove := List.mem_cons.mp hq
    · rw [hnow] at hf
      cases hf
    · obtain ⟨loc, hloc, -⟩ := isFolderAt_iff.mp hnow
      have hfolder := isFolderAt_of_isChain hc (locate_eq_ok.mp hloc) q habove he.isEmpty
      rw [hfolder] at hf
      cases hf
  refine ⟨?_, ensureParent_made_of_failed hfail, hsame⟩
  cases hr : (fs.ensureParent destination).result with
  | ok => exact absurd hr hfail
  | error e =>
    obtain ⟨parent', cause, hparent', rfl⟩ := ensureParent_eq_error hr
    cases hparent.symm.trans hparent'
    exact ⟨cause, rfl⟩

/-! ### Plain paths -/

/-- A path without two dots and without a zero byte that keeps to the limits. -/
structure Plain (p : Path) : Prop where
  noUp : PathStep.up ∉ Path.steps p.bytes
  noZero : p.bytes.contains 0 = false
  short : p.bytes.length < maxPath
  names : ∀ n, .name n ∈ Path.steps p.bytes → n.length ≤ maxName

theorem Plain.of_below (h : Plain inner) (hb : outer.Below inner) : Plain outer := by
  obtain ⟨rest, hbytes⟩ := hb.bytes
  obtain ⟨heres, step, hsteps, -⟩ := hb.steps
  have hmem (s : PathStep) (hs : s ∈ Path.steps outer.bytes) : s ∈ Path.steps inner.bytes := by
    rw [hsteps, List.append_assoc]
    exact List.mem_append_left _ hs
  refine ⟨fun hup => h.noUp (hmem _ hup), ?_, ?_, fun n hn => h.names n (hmem _ hn)⟩
  · have hzero := h.noZero
    rw [← hbytes, List.contains_append, Bool.or_eq_false_iff] at hzero
    exact hzero.1
  · have hshort := h.short
    rw [← hbytes, List.length_append] at hshort
    omega

/-- A plain path is looked up by a walk. -/
theorem Plain.resolve (h : Plain p) (hne : p.isEmpty = false) (fs : Filesystem) (last : LastName) :
    fs.resolve last p =
      (fs.walk last maxLinks (fs.startOf p) (Path.steps p.bytes)).mapError .os := by
  have hbytes : p.bytes.isEmpty = false := hne
  simp only [Filesystem.resolve, h.noZero, hbytes, Nat.not_le.mpr h.short, Bool.false_eq_true,
    if_false, startOf]

/-- The steps of a plain path below one that is not empty end in a name. -/
theorem Plain.steps (h : Plain inner) (hb : outer.Below inner) (hne : outer.isEmpty = false) :
    ∃ heres n, Path.steps inner.bytes = Path.steps outer.bytes ++ (heres ++ [.name n]) ∧
      (∀ s ∈ heres, s = .here) ∧ n.length ≤ maxName := by
  obtain ⟨heres, step, hsteps, hh, hslash, hhere⟩ := hb.steps
  rw [List.append_assoc] at hsteps
  have hmem : step ∈ Path.steps inner.bytes := by simp [hsteps]
  cases step with
  | slash => exact absurd rfl hslash
  | here => rw [hhere rfl] at hne; cases hne
  | up => exact absurd hmem h.noUp
  | name n => exact ⟨heres, n, hsteps, hh, h.names n hmem⟩

/-- A plain path is looked up where the path above it leads: by a walk to its last name. If that one
leads nowhere, so does this one. -/
theorem Plain.resolve_below (h : Plain inner) (hb : outer.Below inner)
    (hne : outer.isEmpty = false) (fs : Filesystem) (last : LastName) :
    (∃ l links heres n, fs.locate outer = .ok l ∧ (∀ s ∈ heres, s = .here) ∧
      n.length ≤ maxName ∧
      fs.resolve last inner = (fs.walk last links l (heres ++ [.name n])).mapError .os) ∨
    ∃ e, fs.resolve last inner = .error (.os e) ∧
      (fs.resolve .follow outer = .error (.os e) ∨
        e = .noEntry ∧ ∃ folder name, fs.resolve .follow outer = .ok (.vacant folder name)) := by
  obtain ⟨heres, n, hsteps, hh, hn⟩ := h.steps hb hne
  have hlast : isLast (heres ++ [.name n]) = false := isLast_append rfl heres
  have hstart : fs.startOf inner = fs.startOf outer := by rw [startOf, startOf, hb.absolute]
  have houter := (h.of_below hb).resolve hne fs .follow
  rw [h.resolve hb.inner_isEmpty, hsteps, hstart]
  obtain ⟨l, links, hfound, hgo⟩ | ⟨e, hlost, he⟩ :=
    walk_append hlast last maxLinks (fs.startOf outer) (Path.steps outer.bytes)
  · left
    rw [hfound] at houter
    exact ⟨l, links, heres, n, locate_eq_ok.mpr houter, hh, hn, by rw [hgo]⟩
  · right
    refine ⟨e, by rw [hlost]; rfl, ?_⟩
    obtain he | ⟨rfl, folder, name, hvacant⟩ := he
    · exact .inl (by rw [houter, he]; rfl)
    · exact .inr ⟨rfl, folder, name, by rw [houter, hvacant]; rfl⟩

/-! ### Names that are missing -/

/-- A path ends at a free name, or before it for want of a folder. -/
def Lacks (fs : Filesystem) (p : Path) : Prop :=
  fs.resolve .keep p = .error (.os .noEntry) ∨
    ∃ folder name, fs.resolve .keep p = .ok (.vacant folder name)

/-- Below a name that is missing no folder can be made yet: its own is not found. -/
theorem Lacks.below (h : fs.Lacks outer) (hp : Plain inner) (hb : outer.Below inner)
    (hne : outer.isEmpty = false) : fs.resolve .keep inner = .error (.os .noEntry) := by
  have hlost : fs.resolve .follow outer = .error (.os .noEntry) ∨
      ∃ folder name, fs.resolve .follow outer = .ok (.vacant folder name) := by
    obtain h | ⟨folder, name, h⟩ := h
    · exact .inl (resolve_follow_of_keep h (by simp))
    · exact .inr ⟨folder, name, resolve_follow_of_keep h (by simp)⟩
  obtain ⟨l, _, _, _, hl, -⟩ | ⟨e, hinner, he | ⟨rfl, -⟩⟩ := hp.resolve_below hb hne fs .keep
  · rw [locate_eq_ok] at hl
    obtain h | ⟨folder, name, h⟩ := hlost <;> cases hl.symm.trans h
  · obtain h | ⟨folder, name, h⟩ := hlost
    · cases he.symm.trans h
      exact hinner
    · cases he.symm.trans h
  · exact hinner

/-! ### Folders in new folders -/

/-- The permissions of the owner to change the names in a folder. -/
def ownerChangeBits : UInt32 := Node.changeBits <<< 6

/-- A new folder may be changed by who made it, unless the mask takes that away. -/
theorem newFolder_permits (h : fs.umask &&& ownerChangeBits = 0) (folder : Location) :
    (fs.newFolder folder).permits Node.changeBits = true := by
  have hgroup : Node.setGroupBit &&& ownerChangeBits = 0 := rfl
  have howner : ownerChangeBits &&& folderMode = ownerChangeBits := rfl
  have hmode : (fs.newFolder folder).mode &&& ownerChangeBits = ownerChangeBits :=
    calc (fs.newFolder folder).mode &&& ownerChangeBits
        = folderMode &&& ~~~fs.umask &&& ownerChangeBits := or_and_mask _ _ hgroup
      _ = ownerChangeBits &&& folderMode &&& ~~~fs.umask := by
        rw [UInt32.and_comm, ← UInt32.and_assoc]
      _ = ownerChangeBits := by rw [howner, and_not_eq_self_iff.mpr h]
  have hbits : ownerChangeBits >>> 6 = Node.changeBits := rfl
  have hshift := congrArg (fun mode : UInt32 => mode >>> 6) hmode
  rw [UInt32.shiftRight_and, hbits] at hshift
  exact beq_iff_eq.mpr hshift

theorem permits_search_of_change {node : Node} (h : node.permits Node.changeBits = true) :
    node.permits Node.searchBit = true := by
  have hbits : Node.searchBit = Node.changeBits &&& Node.searchBit := rfl
  rw [Node.permits, beq_iff_eq] at h ⊢
  rw [hbits, ← UInt32.and_assoc, h]

/-- Single dots before a name that a folder does not hold lead to this name. -/
theorem walk_heres_vacant {heres : List PathStep} (hh : ∀ s ∈ heres, s = .here)
    (he : fs.enter folder = .ok ()) (hv : fs.at? (n :: folder) = none) (hn : n.length ≤ maxName) :
    fs.walk .keep links folder (heres ++ [.name n]) = .ok (.vacant folder n) := by
  have hadvance : fs.advance .keep folder (heres ++ [.name n]) = .ended (.ok (.vacant folder n)) := by
    induction heres with
    | nil =>
      rw [List.nil_append, advance_cons]
      simp [move, he, pick, Nat.not_lt.mpr hn, hv, isLast]
    | cons first rest ih =>
      obtain rfl := hh first List.mem_cons_self
      rw [List.cons_append, advance_cons]
      simpa only [move, he] using ih fun s hs => hh s (List.mem_cons_of_mem _ hs)
  rw [walk, hadvance]

/-- In a folder that was just made another one can be made. -/
theorem makeFolder_inside (hw : before.Rooted) (hmask : before.umask &&& ownerChangeBits = 0)
    (hm : before.makeFolder outer = .ok mid) (hp : Plain inner) (hb : outer.Below inner) :
    ∃ after, mid.makeFolder inner = .ok after := by
  obtain ⟨folder, name, hr, hmid⟩ := makeFolder_eq_ok hm
  have hne := (resolve_eq_ok.mp hr).2.1
  have hv := (resolve_vacant hr).2
  have hat (l : Location) : mid.at? l =
      if l = name :: folder then some (before.newFolder folder) else before.at? l := by
    rw [hmid]
    exact at?_add hw.numbered hv (before.newFolder folder) l
  have hself : mid.at? (name :: folder) = some (before.newFolder folder) := by rw [hat, if_pos rfl]
  have hpermits := newFolder_permits hmask folder
  have henter : mid.enter (name :: folder) = .ok () :=
    enter_eq_ok.mpr ⟨_, hself, rfl, permits_search_of_change hpermits⟩
  -- the new folder holds nothing, since nothing was in it when it was not there
  have hfree (n : Name) : mid.at? (n :: name :: folder) = none := by
    have hnew : n :: name :: folder ≠ name :: folder := List.cons_ne_self _ _
    rw [hat, if_neg hnew]
    exact hw.at?_eq_none (by rw [isFolder, hv, Option.any_none]) n
  have houter : mid.locate outer = .ok (name :: folder) :=
    (foldersAdded_makeFolder hw.numbered hm).extends.locate_vacant hr (isFolder_of_enter henter)
  obtain ⟨n, hvacant⟩ : ∃ n, mid.resolve .keep inner = .ok (.vacant (name :: folder) n) := by
    rw [locate_eq_ok] at houter
    obtain ⟨l, links, heres, n, hl, hh, hn, hinner⟩ | ⟨e, -, he | ⟨-, _, _, he⟩⟩ :=
      hp.resolve_below hb hne mid .keep
    · cases (locate_eq_ok.mp hl).symm.trans houter
      rw [walk_heres_vacant hh henter (hfree n) hn] at hinner
      exact ⟨n, hinner⟩
    · cases he.symm.trans houter
    · cases he.symm.trans houter
  refine ⟨mid.add (n :: name :: folder) (mid.newFolder (name :: folder)), ?_⟩
  unfold makeFolder
  rw [hvacant]
  show mid.addIn (name :: folder) n _ = _
  rw [addIn, mayChange, hself]
  dsimp only
  rw [if_pos hpermits]
  rfl

/-! ### Nothing in the way -/

/-- A folder can be made for a path or one above it if its name is missing from a folder that is
there, which for the first name of a path is the working folder, and in each new folder another
one. -/
structure Grants (fs : Filesystem) (p : Path) : Prop where
  makes : ∀ inner ∈ p.ancestors, ∀ outer ∈ inner.parent?,
    (outer.isEmpty = true ∨ fs.isFolderAt outer = true) → ¬ fs.HasEntry inner →
    (fs.makeFolder inner).isOk = true
  owner : fs.umask &&& ownerChangeBits = 0

/-- If nothing is in the way of a plain parent that is missing, nested folders are made down to
it. -/
theorem makeNested_made (hw : fs.Rooted) (hd : destination.parent? = some p) (hp : Plain p)
    (hg : fs.Grants p) (hne : p.isEmpty = false) (hmissing : ¬ fs.HasEntry p)
    (hclear : ∀ q ∈ p.ancestors, fs.HasEntry q → fs.isFolderAt q = true) :
    fs.Lacks p ∧ ∃ before after, Rooted before ∧ before.umask = fs.umask ∧
      before.makeFolder p = .ok after ∧ fs.makeNested p.ancestors = (.ok (), after) := by
  generalize hps : p.parents = ps
  induction ps generalizing p destination with
  | nil =>
    -- the outermost path is the root, which is there
    obtain rfl | rfl := Path.top_of_parent? hd hps
    · cases hne
    · exact absurd ⟨[], rfl⟩ hmissing
  | cons q rest ih =>
    have hq : p.parent? = some q := by rw [Path.parent?, hps, List.head?_cons]
    have hancestors : q.ancestors = q :: rest := (Path.ancestors_of_parent? hq).trans hps
    have habove : ∀ r ∈ q.ancestors, r ∈ p.ancestors := by
      intro r hr
      rw [Path.ancestors, hps, ← hancestors]
      exact List.mem_cons_of_mem p hr
    have hb : q.Below p := by
      have hchain := ancestors_isChain hd
      rw [Path.ancestors, hps] at hchain
      exact (List.isChain_cons_cons.mp hchain).1
    have hnested : fs.makeNested p.ancestors = fs.makeNested (p :: q.ancestors) := by
      rw [Path.ancestors, hps, hancestors]
    rw [hnested, makeNested, if_neg (Bool.eq_false_iff.mp hne)]
    by_cases hthere : q.isEmpty = true ∨ fs.isFolderAt q = true
    · obtain ⟨after, hm⟩ := isOk_iff.mp (hg.makes p List.mem_cons_self q hq hthere hmissing)
      obtain ⟨folder, name, hr, -⟩ := makeFolder_eq_ok hm
      exact ⟨.inr ⟨folder, name, hr⟩, fs, after, hw, rfl, hm, by rw [hm]⟩
    · obtain ⟨hnotEmpty, hnotFolder⟩ := not_or.mp hthere
      have hqne := Bool.eq_false_iff.mpr hnotEmpty
      have hqmissing : ¬ fs.HasEntry q := fun he =>
        hnotFolder (hclear q (habove q List.mem_cons_self) he)
      have hqgrants : fs.Grants q :=
        ⟨fun inner hinner => hg.makes inner (habove inner hinner), hg.owner⟩
      obtain ⟨hlacks, before, mid, hbefore, hmask, hmake, hmid⟩ :=
        ih hq (hp.of_below hb) hqgrants hqne hqmissing (fun r hr => hclear r (habove r hr))
          (List.cons.inj hancestors).2
      have hr := hlacks.below hp hb hqne
      have hrefused : fs.makeFolder p = .error (.os .noEntry) := by
        unfold makeFolder
        rw [hr]
        rfl
      have howner : before.umask &&& ownerChangeBits = 0 := by rw [hmask, hg.owner]
      obtain ⟨after, hm⟩ := makeFolder_inside hbefore howner hmake hp hb
      refine ⟨.inl hr, mid, after, hbefore.makeFolder hmake, ?_, hm, ?_⟩
      · exact (foldersAdded_makeFolder hbefore.numbered hmake).umask.trans hmask
      · have hkind : (Fault.os .noEntry).kind = .notFound := rfl
        rw [hrefused]
        simp only [hkind, if_true, hmid, hm]

/-- If nothing is in the way of a plain parent, it is there in the end. -/
theorem ensureParent_clear (hw : fs.Rooted) (hparent : destination.folder? = some parent)
    (hp : Plain parent) (hg : fs.Grants parent)
    (hclear : ∀ q ∈ parent.ancestors, fs.HasEntry q → fs.isFolderAt q = true) :
    (fs.ensureParent destination).result = .ok () := by
  obtain ⟨hd, hne⟩ := folder?_eq_some.mp hparent
  rw [ensureParent, hparent]
  dsimp only
  by_cases hf : fs.isFolderAt parent = true
  · rw [if_pos hf]
  · have hmissing : ¬ fs.HasEntry parent := fun he => hf (hclear parent List.mem_cons_self he)
    obtain ⟨-, before, after, -, -, -, hm⟩ := makeNested_made hw hd hp hg hne hmissing hclear
    rw [if_neg hf, makeParent, makeFolders, hm]

/-- The parent of a destination is plain, and folders can be made where they are missing. Then the
call succeeds just if, of the parent and the paths above it, each whose name is taken leads to a
folder. If it fails, it says so of the parent as it was given, nothing is reported, and nothing
changes. -/
theorem ensureParent_all_or_nothing (hw : fs.Rooted) (destination parent : Path)
    (hparent : destination.folder? = some parent) (hp : Plain parent) (hg : fs.Grants parent) :
    let report := fs.ensureParent destination
    (report.result = .ok () ↔
      ∀ q ∈ parent.ancestors, fs.HasEntry q → fs.isFolderAt q = true) ∧
    (report.result ≠ .ok () →
      (∃ cause, report.result = .error (.directoryCreation parent cause)) ∧
      report.made = [] ∧ report.system = fs) := by
  intro report
  have hclear := ensureParent_clear hw hparent hp hg
  refine ⟨⟨fun hok q hq he => ?_, hclear⟩, fun hfail => ?_⟩
  · by_contra hf
    obtain ⟨⟨cause, hresult⟩, -⟩ :=
      ensureParent_blocked hw.numbered hparent hq he (Bool.eq_false_iff.mpr hf)
    cases hok.symm.trans hresult
  · obtain ⟨q, hq⟩ := not_forall.mp fun h => hfail (hclear h)
    obtain ⟨hmem, hq⟩ := Classical.not_imp.mp hq
    obtain ⟨he, hf⟩ := Classical.not_imp.mp hq
    exact ensureParent_blocked hw.numbered hparent hmem he (Bool.eq_false_iff.mpr hf)

/-- A working folder that holds a folder, a link to it, and a link to what is not there. -/
def astray : Filesystem where
  names := [([], 0), ([Text.Utf8.encode "d"], 1), ([Text.Utf8.encode "l"], 2),
    ([Text.Utf8.encode "g"], 3)]
  nodes := [{ kind := .directory, mode := 0o755 }, { kind := .directory, mode := 0o755 },
    { kind := .link (Text.Utf8.encode "d"), mode := 0o777 },
    { kind := .link (Text.Utf8.encode "gone/g"), mode := 0o777 }]
  home := []

theorem rooted_astray : astray.Rooted := by
  have hn : astray.Numbered := by
    unfold Numbered
    decide
  exact rooted_of_names hn (by decide +kernel)

/-- Below a link to a folder two folders are made. Below one that leads nowhere nothing is. -/
theorem ensureParent_all_or_nothing_astray :
    let made := astray.ensureParent (Path.ofString "l//./x/y/f")
    let refused := astray.ensureParent (Path.ofString "g/x/f")
    made.result = .ok () ∧
      (∃ cause, refused.result = .error (.directoryCreation (Path.ofString "g/x") cause)) ∧
      refused.made = [] ∧ refused.system = astray := by
  intro made refused
  have hplain : Plain (Path.ofString "l//./x/y") := by
    refine ⟨by decide +kernel, by decide +kernel, by decide +kernel, fun n hn => ?_⟩
    have hsteps : Path.steps (Path.ofString "l//./x/y").bytes =
        [.name [108], .here, .name [120], .name [121]] := by decide +kernel
    simp only [hsteps, List.mem_cons, PathStep.name.injEq, reduceCtorEq, List.not_mem_nil,
      or_false, false_or] at hn
    obtain rfl | rfl | rfl := hn <;> decide
  have hplain' : Plain (Path.ofString "g/x") := by
    refine ⟨by decide +kernel, by decide +kernel, by decide +kernel, fun n hn => ?_⟩
    have hsteps : Path.steps (Path.ofString "g/x").bytes = [.name [103], .name [120]] := by
      decide +kernel
    simp only [hsteps, List.mem_cons, PathStep.name.injEq, List.not_mem_nil, or_false] at hn
    obtain rfl | rfl := hn <;> decide
  have hclear : ∀ q ∈ (Path.ofString "l//./x/y").ancestors,
      astray.HasEntry q → astray.isFolderAt q = true := by decide +kernel
  have hblocked : ¬ ∀ q ∈ (Path.ofString "g/x").ancestors,
      astray.HasEntry q → astray.isFolderAt q = true := by decide +kernel
  have hsuccess := ensureParent_all_or_nothing rooted_astray (Path.ofString "l//./x/y/f")
    (Path.ofString "l//./x/y") (by decide +kernel) hplain ⟨by decide +kernel, rfl⟩
  have hfailure := ensureParent_all_or_nothing rooted_astray (Path.ofString "g/x/f")
    (Path.ofString "g/x") (by decide +kernel) hplain' ⟨by decide +kernel, rfl⟩
  exact ⟨hsuccess.1.mpr hclear, hfailure.2 fun hok => hblocked (hfailure.1.mp hok)⟩

end FileTransfer.Filesystem
