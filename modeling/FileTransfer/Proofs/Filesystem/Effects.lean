import FileTransfer.Filesystem.Setup
import FileTransfer.Proofs.Filesystem.Growth

/-! What each call does to a file system when it is not refused, and that every call keeps the
numbering: a file system that calls lead to is `Numbered` if the first one was. -/
namespace FileTransfer

/-- What comes of one call after another comes of the second one. -/
theorem bind_eq_ok {ε α β : Type} {x : Except ε α} {f : α → Except ε β} {b : β} :
    x >>= f = .ok b ↔ ∃ a, x = .ok a ∧ f a = .ok b := by
  cases x with
  | error e => exact ⟨nofun, nofun⟩
  | ok a => exact ⟨fun h => ⟨a, rfl, h⟩, fun ⟨_, ha, h⟩ => by cases ha; exact h⟩

theorem isOk_iff {ε α : Type} {x : Except ε α} : x.isOk = true ↔ ∃ a, x = .ok a := by
  cases x with
  | error e => exact ⟨nofun, nofun⟩
  | ok a => exact ⟨fun _ => ⟨a, rfl⟩, fun _ => rfl⟩

namespace Filesystem

variable {fs fs' : Filesystem} {p : Path}

/-! ### Folders and files -/

theorem addIn_eq_ok {folder : Location} {name : Name} {n : Node}
    (ha : fs.addIn folder name n = .ok fs') : fs' = fs.add (name :: folder) n := by
  obtain ⟨_, _, ha⟩ := bind_eq_ok.mp ha
  cases ha
  rfl

/-- All that making a folder does: it adds one at the free name that the path ended at. -/
theorem makeFolder_eq_ok (hm : fs.makeFolder p = .ok fs') :
    ∃ folder name, fs.resolve .keep p = .ok (.vacant folder name) ∧
      fs' = fs.add (name :: folder) (fs.newFolder folder) := by
  obtain ⟨place, hr, hm⟩ := bind_eq_ok.mp hm
  cases place with
  | found l => cases hm
  | vacant folder name => exact ⟨folder, name, hr, addIn_eq_ok hm⟩

/-- All that opening a file anew does: it adds a file at a free name, or empties the one it
found. -/
theorem openEmptied_eq_ok {access mode : UInt32} {i : Nat}
    (ho : fs.openEmptied access mode p = .ok (i, fs')) :
    (∃ folder name, fs.resolve .create p = .ok (.vacant folder name) ∧ i = fs.nodes.length ∧
      fs' = fs.add (name :: folder) { kind := .regular .empty, mode := mode &&& ~~~fs.umask }) ∨
    ∃ loc n, fs.resolve .create p = .ok (.found loc) ∧ fs.number? loc = some i ∧
      fs.at? loc = some n ∧ n.isDirectory = false ∧
      fs' = fs.modify i (Node.change fun _ => .empty) := by
  obtain ⟨place, hr, ho⟩ := bind_eq_ok.mp ho
  cases place with
  | vacant folder name =>
    obtain ⟨after, ha, ho⟩ := bind_eq_ok.mp ho
    cases ho
    exact .inl ⟨folder, name, hr, rfl, addIn_eq_ok ha⟩
  | found l =>
    right
    dsimp only at ho
    split at ho
    · next j n hi hn =>
      split at ho
      · cases ho
      · next hd =>
        split at ho
        · cases ho
        · split at ho
          · cases ho
          · cases ho
            exact ⟨l, n, hr, hi, hn, Bool.eq_false_iff.mpr hd, rfl⟩
    · cases ho

theorem setLength_eq_ok {i n : Nat} (hs : fs.setLength i n = .ok fs') :
    n ≤ fs.maxLength ∧ fs' = fs.modify i (Node.change (Content.resize n)) := by
  unfold setLength at hs
  split at hs
  · split at hs
    · next hle =>
      cases hs
      exact ⟨hle, rfl⟩
    · cases hs
  · cases hs

/-! ### Files made by hand -/

theorem freePlace_eq_ok {folder : Location} {name : Name}
    (hf : fs.freePlace p = .ok (folder, name)) :
    fs.resolve .keep p = .ok (.vacant folder name) := by
  obtain ⟨place, hr, hf⟩ := bind_eq_ok.mp hf
  cases place with
  | found l => cases hf
  | vacant folder' name' =>
    dsimp only at hf
    split at hf
    · cases hf
    · cases hf
      exact hr

theorem makeSpecial_eq_ok {kind : FileKind} {mode : UInt32}
    (hm : fs.makeSpecial p kind mode = .ok fs') :
    ∃ folder name, fs.resolve .keep p = .ok (.vacant folder name) ∧
      fs' = fs.add (name :: folder) { kind, mode } := by
  obtain ⟨⟨folder, name⟩, hf, hm⟩ := bind_eq_ok.mp hm
  exact ⟨folder, name, freePlace_eq_ok hf, addIn_eq_ok hm⟩

theorem makeHardLink_eq_ok {target : Path} (hm : fs.makeHardLink p target = .ok fs') :
    ∃ old i folder name, fs.number? old = some i ∧ fs.isFolder old = false ∧
      fs.resolve .keep p = .ok (.vacant folder name) ∧
      fs' = { fs with names := fs.names ++ [(name :: folder, i)] } := by
  obtain ⟨place, _, hm⟩ := bind_eq_ok.mp hm
  cases place with
  | vacant folder name => cases hm
  | found old =>
    obtain ⟨⟨folder, name⟩, hplace, hm⟩ := bind_eq_ok.mp hm
    obtain ⟨_, _, hm⟩ := bind_eq_ok.mp hm
    split at hm
    · next i hi =>
      split at hm
      · cases hm
      · next hf =>
        cases hm
        exact ⟨old, i, folder, name, hi, Bool.eq_false_iff.mpr hf, freePlace_eq_ok hplace, rfl⟩
    · cases hm

theorem modifyAt_eq_ok {f : Node → Node} (hm : fs.modifyAt p f = .ok fs') :
    ∃ i, fs' = fs.modify i f := by
  obtain ⟨loc, _, hm⟩ := bind_eq_ok.mp hm
  split at hm
  · next i n hi hn =>
    split at hm
    · cases hm
      exact ⟨i, rfl⟩
    · cases hm
  · cases hm

theorem remove_eq_ok (hr : fs.remove p = .ok fs') :
    ∃ loc : Location,
      fs' = { fs with names := fs.names.filter fun (l, _) => !loc.isSuffixOf l } := by
  unfold remove at hr
  split at hr
  case' isTrue => obtain ⟨_, _, hr⟩ := bind_eq_ok.mp hr
  -- a path that ends in a slash was looked up before; from here on both cases are the same
  all_goals
    obtain ⟨place, _, hr⟩ := bind_eq_ok.mp hr
    cases place with
    | vacant folder name => cases hr
    | found loc =>
      dsimp only at hr
      split at hr
      · cases hr
      · obtain ⟨_, _, hr⟩ := bind_eq_ok.mp hr
        split at hr
        · cases hr
          exact ⟨loc, rfl⟩
        · cases hr

/-! ### Numbering -/

theorem Numbered.makeFolder (h : fs.Numbered) (hm : fs.makeFolder p = .ok fs') : fs'.Numbered := by
  obtain ⟨folder, name, _, rfl⟩ := makeFolder_eq_ok hm
  exact h.add _ _

theorem Numbered.openEmptied (h : fs.Numbered) {access mode : UInt32} {i : Nat}
    (ho : fs.openEmptied access mode p = .ok (i, fs')) : fs'.Numbered := by
  obtain ⟨folder, name, _, _, rfl⟩ | ⟨loc, n, _, _, _, _, rfl⟩ := openEmptied_eq_ok ho
  · exact h.add _ _
  · exact h.modify _ _

theorem Numbered.setLength (h : fs.Numbered) {i n : Nat} (hs : fs.setLength i n = .ok fs') :
    fs'.Numbered := by
  obtain ⟨_, rfl⟩ := setLength_eq_ok hs
  exact h.modify _ _

theorem Numbered.writeBytes (h : fs.Numbered) (i offset : Nat) (bytes : List UInt8) :
    (fs.writeBytes i offset bytes).Numbered :=
  h.modify _ _

theorem Numbered.makeSpecial (h : fs.Numbered) {kind : FileKind} {mode : UInt32}
    (hm : fs.makeSpecial p kind mode = .ok fs') : fs'.Numbered := by
  obtain ⟨folder, name, _, rfl⟩ := makeSpecial_eq_ok hm
  exact h.add _ _

theorem Numbered.makeHardLink (h : fs.Numbered) {target : Path}
    (hm : fs.makeHardLink p target = .ok fs') : fs'.Numbered := by
  obtain ⟨old, i, folder, name, hi, _, _, rfl⟩ := makeHardLink_eq_ok hm
  intro entry he
  obtain he | he := List.mem_append.mp he
  · exact h entry he
  · obtain rfl := List.mem_singleton.mp he
    exact h.number_lt hi

theorem Numbered.modifyAt (h : fs.Numbered) {f : Node → Node} (hm : fs.modifyAt p f = .ok fs') :
    fs'.Numbered := by
  obtain ⟨i, rfl⟩ := modifyAt_eq_ok hm
  exact h.modify _ _

theorem Numbered.remove (h : fs.Numbered) (hr : fs.remove p = .ok fs') : fs'.Numbered := by
  obtain ⟨loc, rfl⟩ := remove_eq_ok hr
  exact fun entry he => h entry (List.mem_filter.mp he).1

end Filesystem

end FileTransfer
