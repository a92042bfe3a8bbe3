import FileTransfer.Filesystem.Calls
import FileTransfer.Proofs.Filesystem.Walks
import Mathlib.Data.List.Forall2

/-! File systems that are the same but for what files hold. No walk looks at what a file holds, so
that every path leads to the same place in both, or is refused with the same failure
(`SameShape.locate`); and the status of a file that holds the same is the same
(`SameShape.status`). -/
namespace FileTransfer.Filesystem

/-- The same files at the same places, seen from the same folder, except that files which hold bytes
may hold others. -/
structure SameShape (fs fs' : Filesystem) : Prop where
  home : fs'.home = fs.home
  names : fs'.names = fs.names
  nodes : List.Forall₂ Node.Like fs.nodes fs'.nodes

namespace SameShape
variable {fs fs' : Filesystem} {last : LastName} {rest : List PathStep} {p : Path}

theorem number? (h : fs.SameShape fs') (loc : Location) : fs'.number? loc = fs.number? loc := by
  rw [Filesystem.number?, Filesystem.number?, h.names]

theorem node {ns ns' : List Node} (h : List.Forall₂ Node.Like ns ns') (i : Nat) :
    ns[i]? = none ∧ ns'[i]? = none ∨ ∃ n n', ns[i]? = some n ∧ ns'[i]? = some n' ∧ n.Like n' := by
  induction h generalizing i with
  | nil => exact .inl ⟨rfl, rfl⟩
  | cons hlike _ ih =>
    cases i with
    | zero => exact .inr ⟨_, _, rfl, rfl, hlike⟩
    | succ i => exact ih i

/-- A place is free in both, or both have files there that are the same for every walk. -/
theorem at? (h : fs.SameShape fs') (loc : Location) :
    fs.at? loc = none ∧ fs'.at? loc = none ∨
      ∃ n n', fs.at? loc = some n ∧ fs'.at? loc = some n' ∧ n.Like n' := by
  rw [Filesystem.at?, Filesystem.at?, h.number?]
  cases fs.number? loc with
  | none => exact .inl ⟨rfl, rfl⟩
  | some i => exact node h.nodes i

/-! ### Walks -/

theorem isFolder (h : fs.SameShape fs') (loc : Location) : fs'.isFolder loc = fs.isFolder loc := by
  obtain ⟨hn, hn'⟩ | ⟨n, n', hn, hn', hlike⟩ := h.at? loc
  · rw [Filesystem.isFolder, Filesystem.isFolder, hn, hn']
  · rw [isFolder_of_at? hn, isFolder_of_at? hn', hlike.isDirectory_eq]

theorem enter (h : fs.SameShape fs') (loc : Location) : fs'.enter loc = fs.enter loc := by
  unfold Filesystem.enter
  obtain ⟨hn, hn'⟩ | ⟨n, n', hn, hn', hlike⟩ := h.at? loc
  · rw [hn, hn']
  · rw [hn, hn']
    cases hd : n.isDirectory with
    | true => rw [hlike.eq_of_isDirectory hd]
    | false => simp only [hlike.isDirectory_eq, hd, Bool.not_false, if_true]

theorem pick (h : fs.SameShape fs') (last : LastName) (loc : Location) (rest : List PathStep)
    (n : Name) : fs'.pick last loc rest n = fs.pick last loc rest n := by
  unfold Filesystem.pick
  obtain ⟨hn, hn'⟩ | ⟨node, node', hn, hn', hlike⟩ := h.at? (n :: loc)
  · rw [hn, hn']
  · rw [hn, hn']
    obtain rfl | ⟨c, c', hk, hk'⟩ := hlike
    · rfl
    · simp only [hk, hk']

theorem move (h : fs.SameShape fs') (last : LastName) (loc : Location) (rest : List PathStep)
    (step : PathStep) : fs'.move last loc rest step = fs.move last loc rest step := by
  cases step with
  | slash => simp only [Filesystem.move, h.isFolder]
  | here => simp only [Filesystem.move, h.enter]
  | up => simp only [Filesystem.move, h.enter]
  | name n => simp only [Filesystem.move, h.enter, h.pick]

theorem advance (h : fs.SameShape fs') (last : LastName) (loc : Location)
    (steps : List PathStep) : fs'.advance last loc steps = fs.advance last loc steps := by
  induction steps generalizing loc with
  | nil => rfl
  | cons step rest ih =>
    rw [advance_cons, advance_cons, h.move]
    cases fs.move last loc rest step with
    | stop r => rfl
    | go loc' => exact ih loc'

theorem walk (h : fs.SameShape fs') (last : LastName) (links : Nat) (loc : Location)
    (steps : List PathStep) : fs'.walk last links loc steps = fs.walk last links loc steps := by
  induction links generalizing loc steps with
  | zero =>
    rw [Filesystem.walk, Filesystem.walk, h.advance]
  | succ links ih =>
    rw [Filesystem.walk, Filesystem.walk, h.advance]
    cases fs.advance last loc steps with
    | ended r => rfl
    | link folder target rest => exact ih _ _

/-- Every path leads to the same place, or is refused in the same way. -/
theorem locate (h : fs.SameShape fs') (p : Path) : fs'.locate p = fs.locate p := by
  simp only [Filesystem.locate, resolve, h.walk, h.home]

/-! ### Statuses -/

theorem links (h : fs.SameShape fs') (loc : Location) : fs'.links loc = fs.links loc := by
  simp only [Filesystem.links, h.isFolder, h.names, h.number?]

/-- A path that does not lead to a file that holds other bytes has the same status. -/
theorem status (h : fs.SameShape fs')
    (hp : ∀ loc, fs.locate p = .ok loc → fs'.at? loc = fs.at? loc) :
    fs'.status p = fs.status p := by
  cases hloc : fs.locate p with
  | error e => rw [Filesystem.status, Filesystem.status, h.locate, hloc]; rfl
  | ok loc =>
    have hstatus : fs'.statusAt? loc = fs.statusAt? loc := by
      have hat := hp loc hloc
      rw [Filesystem.at?, Filesystem.at?, h.number?] at hat
      rw [statusAt?, statusAt?, h.number?, h.links]
      cases hi : fs.number? loc with
      | none => rfl
      | some i =>
        rw [hi, Option.bind_some, Option.bind_some] at hat
        simp [hat]
    simp only [Filesystem.status, h.locate, hloc, hstatus, bind, Except.bind]

end SameShape

end FileTransfer.Filesystem
