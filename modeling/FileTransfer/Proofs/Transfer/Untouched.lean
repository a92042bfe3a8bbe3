import FileTransfer.Proofs.Transfer.SizedFile

/-! What a call leaves alone. Making the parent of a destination takes nothing away: each place
leads to the file it led to, each file is what it was, and all that is new are folders that hold
only one another and that prefixes of the parent lead to (`MadeFor`). Making a file of a size goes
on from there and touches one file, the one that the destination leads to, under all its names
(`OnlyFile`). `nothing_else_touched` puts both together, whatever the outcome. -/
namespace FileTransfer

/-! ### Content -/

/-- All bytes are zero. -/
def Content.Blank (c : Content) : Prop :=
  ∀ b ∈ c.toList, b = 0

theorem Content.blank_empty : Content.Blank .empty := nofun

theorem Content.Blank.resize {c : Content} (h : c.Blank) (n : Nat) : (c.resize n).Blank := by
  intro b hb
  obtain hb | hb := List.mem_append.mp hb
  · exact h b (List.mem_append_left _ (List.mem_of_mem_take hb))
  · exact List.eq_of_mem_replicate hb

namespace Filesystem

variable {fs mid after : Filesystem} {loc : Location} {p destination : Path} {i k : Nat}
  {except : Option Nat}

/-! ### Files that are left alone -/

/-- Each place leads to the file it led to before, and each file, save one if so said, is what it
was: a folder, a link with its target or the same bytes, with the same mode. -/
structure KeptBut (except : Option Nat) (fs after : Filesystem) : Prop where
  number? : ∀ loc i, fs.number? loc = some i → after.number? loc = some i
  file : ∀ i n, fs.nodes[i]? = some n → some i ≠ except →
    ∃ n', after.nodes[i]? = some n' ∧ n'.kind = n.kind ∧ n'.mode = n.mode

theorem KeptBut.refl (except : Option Nat) (fs : Filesystem) : KeptBut except fs fs where
  number? _ _ hi := hi
  file _ n hn _ := ⟨n, hn, rfl, rfl⟩

theorem KeptBut.trans (h : KeptBut except fs mid) (h' : KeptBut except mid after) :
    KeptBut except fs after where
  number? loc i hi := h'.number? loc i (h.number? loc i hi)
  file := by
    intro i n hn hi
    obtain ⟨m, hm, hkind, hmode⟩ := h.file i n hn hi
    obtain ⟨n', hn', hkind', hmode'⟩ := h'.file i m hm hi
    exact ⟨n', hn', hkind'.trans hkind, hmode'.trans hmode⟩

theorem keptBut_add (fs : Filesystem) (loc : Location) (n : Node) :
    KeptBut none fs (fs.add loc n) where
  number? l i hi := by
    rw [Filesystem.number?] at hi ⊢
    rw [add, List.lookup_append, hi]
    rfl
  file i m hm _ := by
    obtain ⟨hlt, -⟩ := List.getElem?_eq_some_iff.mp hm
    exact ⟨m, by rw [add, List.getElem?_append_left hlt, hm], rfl, rfl⟩

theorem getElem?_modify_ne (fs : Filesystem) {j : Nat} (h : i ≠ j) (f : Node → Node) :
    (fs.modify i f).nodes[j]? = fs.nodes[j]? := by
  rw [modify, List.getElem?_modify]
  cases fs.nodes[j]? <;> simp [h]

theorem getElem?_modify_self (fs : Filesystem) (i : Nat) (f : Node → Node) :
    (fs.modify i f).nodes[i]? = fs.nodes[i]?.map f := by
  rw [modify, List.getElem?_modify]
  cases fs.nodes[i]? <;> simp

theorem keptBut_modify (fs : Filesystem) (i : Nat) (f : Node → Node) :
    KeptBut (some i) fs (fs.modify i f) where
  number? _ _ hi := hi
  file j n hn hj := by
    have hne : i ≠ j := fun h => hj (by rw [h])
    exact ⟨n, by rw [getElem?_modify_ne fs hne, hn], rfl, rfl⟩

/-- A file that comes after all others is none of them. -/
theorem KeptBut.modify_new (h : KeptBut none fs mid) (hi : fs.nodes.length ≤ i)
    (f : Node → Node) : KeptBut none fs (mid.modify i f) where
  number? := h.number?
  file := by
    intro j n hn hj
    obtain ⟨n', hn', hsame⟩ := h.file j n hn hj
    obtain ⟨hlt, -⟩ := List.getElem?_eq_some_iff.mp hn
    have hne : i ≠ j := by omega
    exact ⟨n', by rw [getElem?_modify_ne mid hne, hn'], hsame⟩

/-! ### Folders that are made -/

theorem Built.kept {qs : List Path} (h : Built fs qs after) : KeptBut none fs after := by
  induction h with
  | nil => exact .refl _ _
  | cons hm _ ih =>
    obtain ⟨folder, name, -, rfl⟩ := makeFolder_eq_ok hm
    exact (keptBut_add _ _ _).trans ih

theorem ensureParent_kept (fs : Filesystem) (destination : Path) :
    KeptBut none fs (fs.ensureParent destination).system := by
  obtain ⟨qs, hqs, -⟩ := fs.ensureParent_built destination
  exact hqs.kept

/-- A folder made for a destination: nothing was at its place, all that is in it are folders that
are new too, and a prefix of the parent leads to it. -/
structure MadeFor (fs after : Filesystem) (destination : Path) (loc : Location) : Prop where
  free : fs.at? loc = none
  folder : after.isFolder loc = true
  bare : ∀ name, (after.at? (name :: loc)).isSome → NewFolder fs after (name :: loc)
  named : ∃ parent, destination.folder? = some parent ∧ ∃ p ∈ parent.ancestors,
    p.bytes <+: parent.bytes ∧ after.locate p = .ok loc

/-- Each ancestor of a parent is spelled as the parent begins. -/
theorem isPrefix_of_mem_ancestors {parent : Path} (hp : destination.parent? = some parent) :
    ∀ q ∈ parent.ancestors, q.bytes <+: parent.bytes := by
  have hchain : parent.ancestors.IsChain fun inner outer => outer.bytes <+: inner.bytes :=
    (ancestors_isChain hp).imp fun _ _ hb => hb.bytes
  have htrans : IsTrans Path fun inner outer => outer.bytes <+: inner.bytes :=
    ⟨fun _ _ _ h h' => h'.trans h⟩
  intro q hq
  obtain rfl | hq := List.mem_cons.mp hq
  · exact List.prefix_rfl
  · exact List.rel_of_pairwise_cons (List.isChain_iff_pairwise.mp hchain) hq

/-- What is new after the parent was seen to is a folder made for the destination. -/
theorem madeFor_of_free (hw : fs.Rooted) (hfree : fs.number? loc = none)
    (hi : (fs.ensureParent destination).system.number? loc = some i) :
    MadeFor fs (fs.ensureParent destination).system destination loc := by
  have hadded := ensureParent_foldersAdded hw.numbered destination
  have hnumbered := ensureParent_numbered hw.numbered destination
  -- whatever is at a place where nothing was is a new folder
  have new {l : Location} {n : Node} (hold : fs.at? l = none)
      (hn : (fs.ensureParent destination).system.at? l = some n) :
      NewFolder fs (fs.ensureParent destination).system l := by
    obtain hn' | ⟨-, hd, -⟩ := hadded.added l n hn
    · rw [hold] at hn'
      cases hn'
    · exact ⟨isFolder_iff.mpr ⟨n, hn, hd⟩, by rw [isFolder, hold, Option.any_none]⟩
  have hold : fs.at? loc = none := by rw [at?, hfree, Option.bind_none]
  obtain ⟨n, hn⟩ : ∃ n, (fs.ensureParent destination).system.at? loc = some n := by
    have hlt := hnumbered.number_lt hi
    exact ⟨_, by rw [at?, hi, Option.bind_some, List.getElem?_eq_getElem hlt]⟩
  have hnew := new hold hn
  obtain ⟨parent, hparent, q, hq, hloc⟩ := ensureParent_new hw.numbered hnew
  have hmem : q ∈ parent.ancestors := List.takeWhile_subset _ hq
  refine ⟨hold, hnew.1, fun name hs => ?_, parent, hparent, q, hmem,
    isPrefix_of_mem_ancestors (folder?_eq_some.mp hparent).1 q hmem, hloc⟩
  obtain ⟨m, hm⟩ := Option.isSome_iff_exists.mp hs
  exact new (hw.at?_eq_none hnew.2 name) hm

/-! ### The one file -/

/-- A file before and after it was emptied and given a length: its bytes are all zeros, and its
permissions are what they were. What holds no bytes stays as it is. -/
inductive Emptied : Node → Node → Prop
  | regular {n n' : Node} {c c' : Content} (before : n.kind = .regular c)
      (after : n'.kind = .regular c') (blank : c'.Blank)
      (permissions : n'.mode &&& permissionBits = n.mode &&& permissionBits) : Emptied n n'
  | special {n : Node} (holds : ∀ c, n.kind ≠ .regular c) : Emptied n n

theorem emptied_change (n : Node) : Emptied n (n.change fun _ => .empty) := by
  cases hk : n.kind with
  | regular c =>
    rw [Node.change_regular hk]
    exact .regular hk rfl Content.blank_empty (Node.changedMode_permissions _)
  | directory | link target | pipe | socket | device =>
    rw [Node.change, hk]
    exact .special (by simp [hk])

theorem Emptied.resize {n n' : Node} (h : Emptied n n') (k : Nat) :
    Emptied n (n'.change (Content.resize k)) := by
  cases h with
  | regular before after blank permissions =>
    rw [Node.change_regular after]
    exact .regular before rfl (blank.resize k)
      (by rw [Node.changedMode_permissions, permissions])
  | special holds =>
    have hsame : n.change (Content.resize k) = n := by
      unfold Node.change
      split
      · next hk => exact absurd hk (holds _)
      · rfl
    rw [hsame]
    exact .special holds

/-- Of all files only one is touched, which a path leads to, at all places that have its number: it
is made at a free name, all zeros, or it was there and is emptied and given a length. -/
inductive OnlyFile (before after : Filesystem) (p : Path) (i : Nat) : Prop
  | made {loc : Location} {n : Node} {c : Content} (free : before.at? loc = none)
      (fresh : before.nodes.length ≤ i) (kept : KeptBut none before after)
      (places : ∀ l, l ≠ loc → after.number? l = before.number? l)
      (leads : after.locate p = .ok loc) (number : after.number? loc = some i)
      (file : after.nodes[i]? = some n) (regular : n.kind = .regular c) (blank : c.Blank)
  | emptied {loc : Location} {n n' : Node} (leads : before.locate p = .ok loc)
      (number : before.number? loc = some i) (kept : KeptBut (some i) before after)
      (places : ∀ l, after.number? l = before.number? l) (old : before.nodes[i]? = some n)
      (file : after.nodes[i]? = some n') (emptied : Emptied n n')

theorem onlyFile_opened (hn : fs.Numbered) {access mode : UInt32}
    (ho : fs.openEmptied access mode p = .ok (i, after)) : OnlyFile fs after p i := by
  obtain ⟨folder, name, hr, rfl, rfl⟩ | ⟨loc, n, hr, hi, hat, -, rfl⟩ := openEmptied_eq_ok ho
  · obtain ⟨hloc, hnumber, -, hfile⟩ := created hn hr (mode &&& ~~~fs.umask)
    refine .made (resolve_vacant hr).2 (Nat.le_refl _) (keptBut_add _ _ _) (fun l hl => ?_) hloc
      hnumber hfile rfl Content.blank_empty
    have hne : (l == name :: folder) = false := by simpa using hl
    rw [Filesystem.number?, Filesystem.number?, add, List.lookup_append, List.lookup_cons, hne]
    simp
  · have hold : fs.nodes[i]? = some n := by rwa [at?, hi, Option.bind_some] at hat
    exact .emptied (locate_eq_ok.mpr (resolve_follow_of_create hr)) hi (keptBut_modify _ _ _)
      (fun _ => rfl) hold (by rw [getElem?_modify_self, hold]; rfl) (emptied_change n)

theorem OnlyFile.setLength (h : OnlyFile fs mid p i) (hs : mid.setLength i k = .ok after) :
    OnlyFile fs after p i := by
  obtain ⟨-, rfl⟩ := setLength_eq_ok hs
  cases h with
  | made free fresh kept places leads number file regular blank =>
    have hext := extends_modify mid i (Node.like_change (Content.resize k))
    refine .made free fresh (kept.modify_new fresh _) places (hext.locate leads) number
      (by rw [getElem?_modify_self, file]; rfl) ?_ (blank.resize k)
    rw [Node.change_regular regular]
  | emptied leads number kept places old file emptied =>
    exact .emptied leads number (kept.trans (keptBut_modify _ _ _)) places old
      (by rw [getElem?_modify_self, file]; rfl) (emptied.resize k)

/-- Beyond the folders a call touches nothing, or one file. -/
theorem Course.onlyFile (hn : fs.Numbered) {size : Int64} {synchronous : Bool}
    {result : Except Error Handle} (h : Course fs destination size synchronous result after) :
    after = (fs.ensureParent destination).system ∨
      ∃ i, OnlyFile (fs.ensureParent destination).system after destination i := by
  have hparent := ensureParent_numbered hn destination
  cases h with
  | noFolder | notOpened => exact .inl rfl
  | notSized _ hopen | empty _ hopen => exact .inr ⟨_, onlyFile_opened hparent hopen⟩
  | sized _ hopen _ hset => exact .inr ⟨_, (onlyFile_opened hparent hopen).setLength hset⟩

/-- Whatever the outcome: seeing to the parent leaves all files and places alone, and what is new are
folders made for the destination. Making the file touches nothing more than the one file that the
destination leads to once the parent was seen to, which is where it led before if it led
anywhere. -/
theorem nothing_else_touched (hw : fs.Rooted) (destination : Path) (size : Int64)
    (synchronous : Bool) :
    let parent := fs.ensureParent destination
    let file := fs.createSized destination size synchronous
    KeptBut none fs parent.system ∧
    (∀ loc i, parent.system.number? loc = some i →
      fs.number? loc = some i ∨ MadeFor fs parent.system destination loc) ∧
    (file.system = parent.system ∨ ∃ i, OnlyFile parent.system file.system destination i) ∧
    ∀ loc, fs.locate destination = .ok loc → parent.system.locate destination = .ok loc := by
  intro parent file
  have hkept : KeptBut none fs parent.system := fs.ensureParent_kept destination
  refine ⟨hkept, fun loc i hi => ?_,
    (fs.createSized_course destination size synchronous).onlyFile hw.numbered, fun loc hloc => ?_⟩
  · cases hold : fs.number? loc with
    | none => exact .inr (madeFor_of_free hw hold hi)
    | some j =>
      have hsame := hkept.number? loc j hold
      rw [hi] at hsame
      exact .inl hsame.symm
  · exact (ensureParent_foldersAdded hw.numbered destination).extends.locate hloc

theorem rooted_stored : stored.Rooted := by
  have hn : stored.Numbered := by
    unfold Numbered
    decide
  exact rooted_of_names hn (by decide +kernel)

/-- A destination behind a folder that is made on the way, a link and a second name of its file: the
folder is new and bare, and only the file is touched. -/
theorem nothing_else_touched_behind_link :
    let destination := Path.ofString "x/../l"
    let parent := stored.ensureParent destination
    let file := stored.createSized destination 5 true
    stored.Rooted ∧ KeptBut none stored parent.system ∧
      MadeFor stored parent.system destination [Text.Utf8.encode "x"] ∧
      ∃ i, OnlyFile parent.system file.system destination i := by
  intro destination parent file
  obtain ⟨hkept, hadded, hfile, -⟩ := nothing_else_touched rooted_stored destination 5 true
  have hnew : parent.system.number? [Text.Utf8.encode "x"] = some 3 := by decide +kernel
  have hold : stored.number? [Text.Utf8.encode "x"] ≠ some 3 := by decide +kernel
  have hchanged : file.system ≠ parent.system := by decide +kernel
  exact ⟨rooted_stored, hkept, (hadded _ _ hnew).resolve_left hold, hfile.resolve_left hchanged⟩

end Filesystem

end FileTransfer
