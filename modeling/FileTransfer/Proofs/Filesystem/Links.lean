import FileTransfer.Proofs.Filesystem.Prefixes
import FileTransfer.Proofs.Filesystem.Rooted

/-! What a walk that follows links ends at. It goes on from folders only, and it steps onto a link
just to go on from there; so it ends at a link only if it started there and had no step to take
(`walk_noLink`). -/
namespace FileTransfer.Filesystem

variable {fs : Filesystem} {last : LastName} {loc l folder : Location} {links : Nat}
  {steps rest : List PathStep} {step : PathStep}

/-- Around a folder there are folders, up to the root. -/
theorem Rooted.isFolder_nil (h : fs.Rooted) (hf : fs.isFolder loc = true) :
    fs.isFolder [] = true := by
  induction loc with
  | nil => exact hf
  | cons name folder ih =>
    obtain ⟨n, hn, -⟩ := isFolder_iff.mp hf
    exact ih (h.inFolder name folder (by rw [hn]; rfl))

theorem Rooted.isFolder_tail (h : fs.Rooted) (hf : fs.isFolder loc = true) :
    fs.isFolder loc.tail = true := by
  cases loc with
  | nil => exact hf
  | cons name folder =>
    obtain ⟨n, hn, -⟩ := isFolder_iff.mp hf
    exact h.inFolder name folder (by rw [hn]; rfl)

/-- There is no link at a location. -/
def NoLink (fs : Filesystem) (loc : Location) : Prop :=
  ∀ n target, fs.at? loc = some n → n.kind ≠ .link target

theorem noLink_of_isFolder (hf : fs.isFolder loc = true) : fs.NoLink loc := by
  intro n target hn hk
  rw [isFolder_of_at? hn, Node.isDirectory, hk] at hf
  cases hf

theorem pick_go {n : Name} (hp : fs.pick last loc rest n = .go l) : fs.NoLink l := by
  unfold pick at hp
  split at hp
  · cases hp
  · split at hp
    · cases hp
    · split at hp
      · cases hp
      · next node hnode =>
        split at hp
        · cases hp
        · split at hp
          · cases hp
          · next hkind =>
            obtain rfl : n :: loc = l := Move.go.inj hp
            intro m target hm
            rw [hnode] at hm
            cases hm
            exact hkind target

/-- A walk goes on to what is no link. -/
theorem move_go (hw : fs.Rooted) (hm : fs.move last loc rest step = .go l) : fs.NoLink l := by
  cases step with
  | slash =>
    simp only [move] at hm
    split at hm
    · next hf => cases hm; exact noLink_of_isFolder hf
    · cases hm
  | here =>
    simp only [move] at hm
    cases he : fs.enter loc with
    | error e => rw [he] at hm; cases hm
    | ok => rw [he] at hm; cases hm; exact noLink_of_isFolder (isFolder_of_enter he)
  | up =>
    simp only [move] at hm
    cases he : fs.enter loc with
    | error e => rw [he] at hm; cases hm
    | ok =>
      rw [he] at hm
      cases hm
      exact noLink_of_isFolder (hw.isFolder_tail (isFolder_of_enter he))
  | name n =>
    simp only [move] at hm
    cases he : fs.enter loc with
    | error e => rw [he] at hm; cases hm
    | ok => rw [he] at hm; exact pick_go hm

theorem pick_link {n : Name} {target : List UInt8} {after : List PathStep}
    (hp : fs.pick last loc rest n = .stop (.link folder target after)) : folder = loc := by
  unfold pick at hp
  split at hp
  · cases hp
  · split at hp
    · cases hp
    · split at hp
      · cases hp
      · split at hp
        · cases hp
        · split at hp
          · cases hp; rfl
          · cases hp

/-- A link that is met lies in a folder. -/
theorem move_link {target : List UInt8} {after : List PathStep}
    (hm : fs.move last loc rest step = .stop (.link folder target after)) :
    fs.isFolder folder = true := by
  cases step with
  | slash => simp only [move] at hm; split at hm <;> cases hm
  | here => simp only [move] at hm; split at hm <;> cases hm
  | up => simp only [move] at hm; split at hm <;> cases hm
  | name n =>
    simp only [move] at hm
    cases he : fs.enter loc with
    | error e => rw [he] at hm; cases hm
    | ok =>
      rw [he] at hm
      rw [pick_link hm]
      exact isFolder_of_enter he

theorem advance_link {target : List UInt8} {after : List PathStep}
    (ha : fs.advance last loc steps = .link folder target after) : fs.isFolder folder = true := by
  induction steps generalizing loc with
  | nil => cases ha
  | cons step rest ih =>
    rw [advance_cons] at ha
    cases hm : fs.move last loc rest step with
    | go l => rw [hm] at ha; exact ih ha
    | stop r =>
      rw [hm] at ha
      obtain rfl : r = _ := ha
      exact move_link hm

theorem advance_noLink (hw : fs.Rooted) (hl : last ≠ .keep) (hs : steps = [] → fs.NoLink loc)
    (ha : fs.advance last loc steps = .ended (.ok (.found l))) : fs.NoLink l := by
  induction steps generalizing loc with
  | nil => cases ha; exact hs rfl
  | cons step rest ih =>
    rw [advance_cons] at ha
    cases hm : fs.move last loc rest step with
    | go l' => rw [hm] at ha; exact ih (fun _ => move_go hw hm) ha
    | stop r =>
      rw [hm] at ha
      obtain rfl : r = _ := ha
      exact absurd hm (move_ne_found hl step)

/-- A walk that follows links and has a step to take does not end at a link. -/
theorem walk_noLink (hw : fs.Rooted) (hl : last ≠ .keep) (hs : steps = [] → fs.NoLink loc)
    (h : fs.walk last links loc steps = .ok (.found l)) : fs.NoLink l := by
  fun_induction walk fs last links loc steps with
  | case1 links loc steps r ha =>
    rw [h] at ha
    exact advance_noLink hw hl hs ha
  | case2 => cases h
  | case3 loc steps folder target rest ha links ih =>
    have hf := advance_link ha
    refine ih (fun _ => noLink_of_isFolder ?_) h
    split
    · exact hw.isFolder_nil hf
    · exact hf

end FileTransfer.Filesystem
