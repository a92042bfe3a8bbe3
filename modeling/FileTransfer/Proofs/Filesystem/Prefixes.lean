import FileTransfer.Proofs.Filesystem.Walks
import FileTransfer.Proofs.Path.Ancestors

/-! Walks of a path through the paths above it. What walks to the end of some steps walks their
first part to a location and goes on from there (`found_of_walk_append`); so a path that leads
anywhere leads through each path above it, and that one names a folder (`resolve_below`). -/
namespace FileTransfer

/-- Whether the last step of a path is two dots. -/
def Path.endsUp (p : Path) : Bool :=
  (steps p.bytes).getLast? == some .up

theorem Path.endsUp_eq_false {p : Path} (h : PathStep.up ∉ steps p.bytes) : p.endsUp = false := by
  rw [endsUp, beq_eq_false_iff_ne]
  exact fun hl => h (List.mem_of_getLast? hl)

namespace Filesystem
variable {fs : Filesystem} {last : LastName} {loc l : Location} {links : Nat}
  {steps rest more : List PathStep} {step : PathStep} {place : Place}

theorem isLast_append (hm : isLast more = false) (steps : List PathStep) :
    isLast (steps ++ more) = false := by
  simp only [isLast, Bool.or_eq_false_iff, beq_eq_false_iff_ne] at hm ⊢
  refine ⟨by simp [hm.1], fun h => ?_⟩
  obtain ⟨-, hs⟩ | ⟨-, hs⟩ := List.append_eq_singleton_iff.mp h
  · exact hm.2 hs
  · exact hm.1 hs

/-- Only a walk that keeps links stops at a file before all its steps are taken. -/
theorem pick_ne_found (hl : last ≠ .keep) (n : Name) :
    fs.pick last loc rest n ≠ .stop (.ended (.ok (.found l))) := by
  unfold pick
  by_cases hc : last = .create ∧ rest = [.slash]
  · rw [if_pos hc]
    nofun
  · rw [if_neg hc]
    by_cases hn : maxName < n.length
    · rw [if_pos hn]
      nofun
    · rw [if_neg hn]
      cases fs.at? (n :: loc) with
      | none => cases isLast rest <;> nofun
      | some node =>
        dsimp only
        rw [if_neg fun hk => hl hk.1]
        cases node.kind <;> nofun

theorem move_ne_found (hl : last ≠ .keep) (step : PathStep) :
    fs.move last loc rest step ≠ .stop (.ended (.ok (.found l))) := by
  cases step with
  | slash => simp only [move]; split <;> simp
  | here => simp only [move]; split <;> simp
  | up => simp only [move]; split <;> simp
  | name n =>
    simp only [move]
    split
    · simp
    · exact pick_ne_found hl n

/-- The same move, with more steps after it: what was the last name no longer is. -/
def Move.before (more : List PathStep) : Move → Move
  | .go loc => .go loc
  | .stop (.link folder target rest) => .stop (.link folder target (rest ++ more))
  | .stop (.ended (.error e)) => .stop (.ended (.error e))
  | .stop (.ended (.ok _)) => .stop (.ended (.error .noEntry))

theorem pick_append (hm : isLast more = false) (n : Name) :
    fs.pick last loc (rest ++ more) n = (fs.pick .follow loc rest n).before more := by
  have hl := isLast_append hm rest
  have hslash : rest ++ more ≠ [.slash] := by
    intro h
    rw [h] at hl
    cases hl
  simp only [pick, hslash, hl, reduceCtorEq, and_false, false_and, if_false]
  by_cases hn : maxName < n.length
  · rw [if_pos hn, if_pos hn]
    rfl
  · rw [if_neg hn, if_neg hn]
    cases fs.at? (n :: loc) with
    | none => cases isLast rest <;> rfl
    | some node =>
      dsimp only
      cases node.kind <;> rfl

theorem move_append (hm : isLast more = false) (step : PathStep) :
    fs.move last loc (rest ++ more) step = (fs.move .follow loc rest step).before more := by
  cases step with
  | slash =>
    simp only [move]
    split <;> rfl
  | here =>
    simp only [move]
    cases fs.enter loc <;> rfl
  | up =>
    simp only [move]
    cases fs.enter loc <;> rfl
  | name n =>
    simp only [move]
    cases fs.enter loc with
    | error e => rfl
    | ok => exact pick_append hm n

/-- A walk of some steps and more is a walk of these, and from where it ends a walk of the rest. -/
theorem advance_append (hm : isLast more = false) (loc : Location) (steps : List PathStep) :
    fs.advance last loc (steps ++ more) =
      match fs.advance .follow loc steps with
      | .ended (.ok (.found l)) => fs.advance last l more
      | .ended (.ok (.vacant _ _)) => .ended (.error .noEntry)
      | .ended (.error e) => .ended (.error e)
      | .link folder target rest => .link folder target (rest ++ more) := by
  induction steps generalizing loc with
  | nil => rfl
  | cons step rest ih =>
    rw [List.cons_append, advance_cons, advance_cons, move_append hm]
    cases hmove : fs.move .follow loc rest step with
    | go l => exact ih l
    | stop r =>
      cases r with
      | link folder target rest => rfl
      | ended result =>
        cases result with
        | error e => rfl
        | ok place =>
          cases place with
          | vacant folder name => rfl
          | found l =>
            have hfollow : LastName.follow ≠ .keep := nofun
            exact absurd hmove (move_ne_found hfollow step)

/-- A walk of some steps and more goes on from where the first ones lead. If they lead nowhere it is
refused as they are, and at a free name for want of a folder. -/
theorem walk_append (hm : isLast more = false) (last : LastName) (links : Nat) (loc : Location)
    (steps : List PathStep) :
    (∃ l links', fs.walk .follow links loc steps = .ok (.found l) ∧
      fs.walk last links loc (steps ++ more) = fs.walk last links' l more) ∨
    ∃ e, fs.walk last links loc (steps ++ more) = .error e ∧
      (fs.walk .follow links loc steps = .error e ∨
        e = .noEntry ∧ ∃ folder name, fs.walk .follow links loc steps = .ok (.vacant folder name)) := by
  fun_induction walk fs .follow links loc steps with
  | case1 links loc steps r ha =>
    rw [walk, advance_append hm, ha]
    cases r with
    | error e => exact .inr ⟨e, rfl, .inl rfl⟩
    | ok place =>
      cases place with
      | vacant folder name => exact .inr ⟨.noEntry, rfl, .inr ⟨rfl, folder, name, rfl⟩⟩
      | found l => exact .inl ⟨l, links, rfl, by rw [walk]⟩
  | case2 loc steps folder target rest ha =>
    rw [walk, advance_append hm, ha]
    exact .inr ⟨.tooManyLinks, rfl, .inl rfl⟩
  | case3 loc steps folder target rest ha links ih =>
    have hlink : fs.walk last (links + 1) loc (steps ++ more) =
        fs.walk last links (if Path.isAbsolute target then [] else folder)
          (Path.steps target ++ rest ++ more) := by
      rw [walk, advance_append hm, ha, List.append_assoc]
    rw [hlink]
    exact ih

/-- What walks some steps and more walks the first ones to a location, and the rest from there. -/
theorem found_of_walk_append (hm : isLast more = false)
    (hw : fs.walk last links loc (steps ++ more) = .ok place) :
    ∃ l links', fs.walk .follow links loc steps = .ok (.found l) ∧
      fs.walk last links' l more = .ok place := by
  obtain ⟨l, links', hfirst, hrest⟩ | ⟨e, hfail, -⟩ := walk_append hm last links loc steps
  · exact ⟨l, links', hfirst, hrest.symm.trans hw⟩
  · rw [hw] at hfail
    cases hfail

/-- Single dots before the last step need a folder that may be gone into, as that step does. -/
theorem walk_heres {heres : List PathStep} (hh : ∀ s ∈ heres, s = .here) (hs : step ≠ .slash)
    (hw : fs.walk last links loc (heres ++ [step]) = .ok place) :
    fs.enter loc = .ok () ∧ fs.walk last links loc [step] = .ok place := by
  induction heres with
  | nil =>
    refine ⟨?_, hw⟩
    cases he : fs.enter loc with
    | ok => rfl
    | error e =>
      rw [List.nil_append, walk, advance_cons] at hw
      cases step with
      | slash => exact absurd rfl hs
      | here => simp [move, he] at hw
      | up => simp [move, he] at hw
      | name n => simp [move, he] at hw
  | cons first more ih =>
    obtain rfl := hh first List.mem_cons_self
    refine ih (fun s hs => hh s (List.mem_cons_of_mem _ hs)) ?_
    rw [List.cons_append, walk, advance_cons] at hw
    rw [walk]
    cases he : fs.enter loc with
    | error e => simp [move, he] at hw
    | ok => simpa only [move, he] using hw

/-! ### Whole paths -/

variable {inner outer p : Path}

/-- A path below another leads anywhere only through a folder that the other one leads to. -/
theorem resolve_below (hb : outer.Below inner) (hr : fs.resolve last inner = .ok place) :
    ∃ l links step, (outer.isEmpty = false → fs.locate outer = .ok l) ∧ fs.enter l = .ok () ∧
      fs.walk last links l [step] = .ok place ∧ (Path.steps inner.bytes).getLast? = some step ∧
      step ≠ .slash ∧ (step = .here → outer.isEmpty = true) := by
  obtain ⟨hz, -, hm, hw⟩ := resolve_eq_ok.mp hr
  obtain ⟨heres, step, hsteps, hh, hs, hhere⟩ := hb.steps
  have hlast : isLast (heres ++ [step]) = false := isLast_append (by simpa [isLast] using hs) heres
  rw [hsteps, List.append_assoc] at hw
  obtain ⟨l, links, houter, hrest⟩ := found_of_walk_append hlast hw
  obtain ⟨he, hstep⟩ := walk_heres hh hs hrest
  refine ⟨l, links, step, fun hne => ?_, he, hstep, by rw [hsteps, List.getLast?_concat], hs, hhere⟩
  have hstart : fs.startOf inner = fs.startOf outer := by rw [startOf, startOf, hb.absolute]
  rw [hstart] at houter
  obtain ⟨after, hbytes⟩ := hb.bytes
  rw [← hbytes] at hz hm
  rw [List.contains_append, Bool.or_eq_false_iff] at hz
  rw [List.length_append] at hm
  exact locate_eq_ok.mpr (resolve_eq_ok.mpr ⟨hz.1, hne, by omega, houter⟩)

/-- A path below another leads nowhere unless the other one names a folder. -/
theorem isFolderAt_of_below (hb : outer.Below inner) (hne : outer.isEmpty = false)
    (hr : fs.resolve last inner = .ok place) : fs.isFolderAt outer = true := by
  obtain ⟨l, links, step, hl, he, -⟩ := resolve_below hb hr
  exact isFolderAt_iff.mpr ⟨l, hl hne, isFolder_of_enter he⟩

/-- The step to a name finds what the folder holds under it; only a link leads elsewhere. -/
theorem walk_name_found {n : Name} (hl : last ≠ .keep)
    (hw : fs.walk last links loc [.name n] = .ok (.found l)) :
    ∃ node, fs.at? (n :: loc) = some node ∧ (node.isDirectory = true → l = n :: loc) := by
  rw [walk, advance_cons] at hw
  cases he : fs.enter loc with
  | error e => simp [move, he] at hw
  | ok =>
    by_cases hlength : maxName < n.length
    · simp [move, he, pick, hlength] at hw
    · cases hn : fs.at? (n :: loc) with
      | none => simp [move, he, pick, hlength, hn, isLast] at hw
      | some node =>
        refine ⟨node, rfl, fun hd => ?_⟩
        have hkind : node.kind = .directory := by simpa [Node.isDirectory] using hd
        simp [move, he, pick, hlength, hn, hl, hkind] at hw
        exact hw.symm

/-- Where a path below another leads: to what is in the folder of the other one under the last
name, or elsewhere through a link. -/
theorem locate_below (hb : outer.Below inner) (hne : outer.isEmpty = false)
    (hup : inner.endsUp = false) (hr : fs.locate inner = .ok loc) :
    ∃ l n node, fs.locate outer = .ok l ∧ fs.at? (n :: l) = some node ∧
      (node.isDirectory = true → loc = n :: l) := by
  obtain ⟨l, links, step, houter, -, hw, hlast, hslash, hhere⟩ :=
    resolve_below hb (locate_eq_ok.mp hr)
  have hfollow : LastName.follow ≠ .keep := nofun
  cases step with
  | slash => exact absurd rfl hslash
  | here => rw [hhere rfl] at hne; cases hne
  | up => rw [Path.endsUp, hlast] at hup; cases hup
  | name n =>
    obtain ⟨node, hnode, hd⟩ := walk_name_found hfollow hw
    exact ⟨l, n, node, houter hne, hnode, hd⟩

/-- A path whose last step is two dots never ends at a free name. -/
theorem resolve_ne_vacant_of_endsUp (hp : p.endsUp = true) (folder : Location) (name : Name) :
    fs.resolve last p ≠ .ok (.vacant folder name) := by
  intro hr
  obtain ⟨-, -, -, hw⟩ := resolve_eq_ok.mp hr
  obtain ⟨before, hsteps⟩ := List.getLast?_eq_some_iff.mp (beq_iff_eq.mp hp)
  rw [hsteps] at hw
  obtain ⟨l, links, -, hup⟩ := found_of_walk_append rfl hw
  rw [walk, advance_cons] at hup
  cases he : fs.enter l with
  | error e => simp [move, he] at hup
  | ok => simp [move, he] at hup

end Filesystem

end FileTransfer
