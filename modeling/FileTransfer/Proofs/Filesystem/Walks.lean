import FileTransfer.Proofs.Filesystem.Effects

/-! Walks in file systems that grow. A walk is taken apart into its moves, so that what holds of one
move holds of a walk and of the search for a whole path: what a path led to before it still leads to
(`Extends.locate`), and where a path found a free name it leads to the folder or the file that was
put there (`Extends.locate_vacant`, `Extends.resolve_created`). -/
namespace FileTransfer

/-- Whether it is settled where a walk goes: it ended at a file, or met a link. -/
def Progress.Settled : Progress → Prop
  | .ended (.ok (.found _)) => True
  | .link _ _ _ => True
  | _ => False

namespace Filesystem
variable {fs fs' : Filesystem} {loc : Location}

/-! ### Moves -/

theorem enter_eq_ok : fs.enter loc = .ok () ↔
    ∃ n, fs.at? loc = some n ∧ n.isDirectory = true ∧ n.permits Node.searchBit = true := by
  unfold enter
  cases fs.at? loc with
  | none => simp
  | some n =>
    by_cases hd : n.isDirectory = true
    · by_cases hp : n.permits Node.searchBit = true
      · simp [hd, hp]
      · simp [hd, hp]
    · simp [hd]

theorem isFolder_of_enter (he : fs.enter loc = .ok ()) : fs.isFolder loc = true := by
  obtain ⟨n, hn, hd, -⟩ := enter_eq_ok.mp he
  exact isFolder_iff.mpr ⟨n, hn, hd⟩

theorem Extends.enter (h : fs.Extends fs') (he : fs.enter loc = .ok ()) :
    fs'.enter loc = .ok () := by
  obtain ⟨n, hn, hd, hp⟩ := enter_eq_ok.mp he
  obtain ⟨n', hn', hlike⟩ := h.at? loc n hn
  rw [hlike.eq_of_isDirectory hd] at hn'
  exact enter_eq_ok.mpr ⟨n, hn', hd, hp⟩

/-- What one step of a path does: it ends the walk for now, or leads on to a location. -/
inductive Move where
  | stop (r : Progress)
  | go (loc : Location)

/-- The move to a name in a folder, with more steps after it. -/
def pick (fs : Filesystem) (last : LastName) (loc : Location) (rest : List PathStep) (n : Name) :
    Move :=
  if last = .create ∧ rest = [.slash] then .stop (.ended (.error .isDirectory))
  else if maxName < n.length then .stop (.ended (.error .nameTooLong))
  else match fs.at? (n :: loc) with
    | none => .stop (.ended (if isLast rest then .ok (.vacant loc n) else .error .noEntry))
    | some node =>
      if last = .keep ∧ isLast rest then .stop (.ended (.ok (.found (n :: loc))))
      else match node.kind with
        | .link target => .stop (.link loc target rest)
        | _ => .go (n :: loc)

/-- The move of a step at a location, with more steps after it. -/
def move (fs : Filesystem) (last : LastName) (loc : Location) (rest : List PathStep) :
    PathStep → Move
  | .slash => if fs.isFolder loc then .go loc else .stop (.ended (.error .notDirectory))
  | step =>
    match fs.enter loc with
    | .error e => .stop (.ended (.error e))
    | .ok () =>
      match step with
      | .name n => fs.pick last loc rest n
      | .up => .go loc.tail
      | _ => .go loc

@[simp] theorem advance_nil (fs : Filesystem) (last : LastName) (loc : Location) :
    fs.advance last loc [] = .ended (.ok (.found loc)) := rfl

/-- A walk is one move after another. -/
theorem advance_cons (fs : Filesystem) (last : LastName) (loc : Location) (step : PathStep)
    (rest : List PathStep) :
    fs.advance last loc (step :: rest) =
      match fs.move last loc rest step with
      | .stop r => r
      | .go loc' => fs.advance last loc' rest := by
  cases step with
  | slash =>
    simp only [advance, move]
    split <;> rfl
  | here =>
    simp only [advance, move]
    cases fs.enter loc <;> rfl
  | up =>
    simp only [advance, move]
    cases fs.enter loc <;> rfl
  | name n =>
    simp only [advance, move, pick]
    cases fs.enter loc with
    | error e => rfl
    | ok =>
      by_cases hc : last = .create ∧ rest = [.slash]
      · simp only [hc, and_self, if_true]
      · simp only [hc, if_false]
        by_cases hm : maxName < n.length
        · simp only [hm, if_true]
        · simp only [hm, if_false]
          cases fs.at? (n :: loc) with
          | none => rfl
          | some node =>
            by_cases hk : last = .keep ∧ isLast rest = true
            · simp only [hk, and_self, if_true]
            · simp only [hk, if_false]
              cases node.kind <;> rfl

def Move.Settled : Move → Prop
  | .stop r => Progress.Settled r
  | .go _ => True

variable {last : LastName} {rest steps : List PathStep} {step : PathStep} {n : Name}

theorem Extends.pick (h : fs.Extends fs') (hs : (fs.pick last loc rest n).Settled) :
    fs'.pick last loc rest n = fs.pick last loc rest n := by
  unfold Filesystem.pick at hs ⊢
  by_cases hc : last = .create ∧ rest = [.slash]
  · rw [if_pos hc, if_pos hc]
  · rw [if_neg hc] at hs ⊢
    rw [if_neg hc]
    by_cases hm : maxName < n.length
    · rw [if_pos hm, if_pos hm]
    · rw [if_neg hm] at hs ⊢
      rw [if_neg hm]
      cases ha : fs.at? (n :: loc) with
      | none =>
        rw [ha] at hs
        revert hs
        cases isLast rest <;> exact False.elim
      | some node =>
        obtain ⟨node', ha', hlike⟩ := h.at? _ _ ha
        rw [ha']
        obtain rfl | ⟨c, c', hk, hk'⟩ := hlike
        · rfl
        · simp only [hk, hk']

theorem Extends.move (h : fs.Extends fs') (hs : (fs.move last loc rest step).Settled) :
    fs'.move last loc rest step = fs.move last loc rest step := by
  have entered (hne : step ≠ .slash) : fs.enter loc = .ok () := by
    cases he : fs.enter loc with
    | ok => rfl
    | error e => cases step <;> simp_all [Filesystem.move, Move.Settled, Progress.Settled]
  cases step with
  | slash =>
    by_cases hf : fs.isFolder loc = true
    · simp only [Filesystem.move, hf, h.isFolder hf]
    · simp [Filesystem.move, hf, Move.Settled, Progress.Settled] at hs
  | here => simp only [Filesystem.move, entered nofun, h.enter (entered nofun)]
  | up => simp only [Filesystem.move, entered nofun, h.enter (entered nofun)]
  | name n =>
    simp only [Filesystem.move, entered nofun, h.enter (entered nofun)] at hs ⊢
    exact h.pick hs

/-- A walk that is settled goes the same way later. -/
theorem Extends.advance (h : fs.Extends fs') (hs : (fs.advance last loc steps).Settled) :
    fs'.advance last loc steps = fs.advance last loc steps := by
  induction steps generalizing loc with
  | nil => rfl
  | cons step rest ih =>
    rw [advance_cons] at hs ⊢
    rw [advance_cons]
    cases hm : fs.move last loc rest step with
    | stop r =>
      rw [hm] at hs
      rw [h.move (by rw [hm]; exact hs), hm]
    | go loc' =>
      rw [hm] at hs
      rw [h.move (by rw [hm]; trivial), hm]
      exact ih hs

/-- What a walk finds it finds later. -/
theorem Extends.walk (h : fs.Extends fs') {links : Nat} {l : Location}
    (hw : fs.walk last links loc steps = .ok (.found l)) :
    fs'.walk last links loc steps = .ok (.found l) := by
  fun_induction Filesystem.walk fs last links loc steps with
  | case1 links loc steps r ha =>
    rw [hw] at ha
    rw [Filesystem.walk, h.advance (by rw [ha]; trivial), ha]
  | case2 => cases hw
  | case3 loc steps folder target rest ha links ih =>
    rw [Filesystem.walk, h.advance (by rw [ha]; trivial), ha]
    exact ih hw

/-! ### The last name -/

/-- How a walk may end where one that follows links goes on: a link is found if links are kept, and
a slash is refused if a file may be made. -/
def EndsElse : LastName → Except OsCode Place → Prop
  | .follow, _ => False
  | .keep, r => ∃ l, r = .ok (.found l)
  | .create, r => r = .error .isDirectory

theorem pick_last (fs : Filesystem) (last : LastName) (loc : Location) (rest : List PathStep)
    (n : Name) :
    fs.pick last loc rest n = fs.pick .follow loc rest n ∨
    ∃ r, EndsElse last r ∧ fs.pick last loc rest n = .stop (.ended r) := by
  cases last with
  | follow => exact .inl rfl
  | keep =>
    simp only [pick, reduceCtorEq, false_and, if_false]
    by_cases hm : maxName < n.length
    · exact .inl (by rw [if_pos hm, if_pos hm])
    · rw [if_neg hm, if_neg hm]
      cases fs.at? (n :: loc) with
      | none => exact .inl rfl
      | some node =>
        by_cases hl : isLast rest = true
        · exact .inr ⟨_, ⟨n :: loc, rfl⟩, by simp only [hl, and_self, if_true]⟩
        · exact .inl (if_neg fun hc => hl hc.2)
  | create =>
    by_cases hs : rest = [.slash]
    · exact .inr ⟨_, rfl, by rw [pick, if_pos ⟨rfl, hs⟩]⟩
    · exact .inl (by simp only [pick, hs, reduceCtorEq, and_false, false_and, if_false])

theorem move_last (fs : Filesystem) (last : LastName) (loc : Location) (rest : List PathStep)
    (step : PathStep) :
    fs.move last loc rest step = fs.move .follow loc rest step ∨
    ∃ r, EndsElse last r ∧ fs.move last loc rest step = .stop (.ended r) := by
  cases step with
  | slash => exact .inl rfl
  | here => exact .inl rfl
  | up => exact .inl rfl
  | name n =>
    simp only [move]
    cases fs.enter loc with
    | error e => exact .inl rfl
    | ok => exact fs.pick_last last loc rest n

/-- A walk goes where one that follows links goes, or ends as only its kind does. -/
theorem advance_last (fs : Filesystem) (last : LastName) (loc : Location)
    (steps : List PathStep) :
    fs.advance last loc steps = fs.advance .follow loc steps ∨
    ∃ r, EndsElse last r ∧ fs.advance last loc steps = .ended r := by
  induction steps generalizing loc with
  | nil => exact .inl rfl
  | cons step rest ih =>
    rw [advance_cons, advance_cons]
    obtain hm | ⟨r, hr, hm⟩ := fs.move_last last loc rest step
    · rw [hm]
      cases fs.move .follow loc rest step with
      | stop r => exact .inl rfl
      | go loc' => exact ih loc'
    · exact .inr ⟨r, hr, by rw [hm]⟩

theorem walk_last (fs : Filesystem) (last : LastName) (links : Nat) (loc : Location)
    (steps : List PathStep) :
    fs.walk last links loc steps = fs.walk .follow links loc steps ∨
    EndsElse last (fs.walk last links loc steps) := by
  fun_induction walk fs .follow links loc steps with
  | case1 links loc steps r ha =>
    obtain h | ⟨r, hr, h⟩ := fs.advance_last last loc steps
    · exact .inl (by rw [walk, h, ha])
    · exact .inr (by rw [walk, h]; exact hr)
  | case2 loc steps folder target rest ha =>
    obtain h | ⟨r, hr, h⟩ := fs.advance_last last loc steps
    · exact .inl (by rw [walk, h, ha])
    · exact .inr (by rw [walk, h]; exact hr)
  | case3 loc steps folder target rest ha links ih =>
    obtain h | ⟨r, hr, h⟩ := fs.advance_last last loc steps
    · rw [walk, h, ha]
      exact ih
    · exact .inr (by rw [walk, h]; exact hr)

/-! ### Free names -/

theorem pick_vacant {folder : Location} {name : Name}
    (hp : fs.pick last loc rest n = .stop (.ended (.ok (.vacant folder name)))) :
    folder = loc ∧ name = n ∧ isLast rest = true ∧ fs.at? (n :: loc) = none ∧
      ¬ (last = .create ∧ rest = [.slash]) ∧ ¬ maxName < n.length := by
  unfold pick at hp
  by_cases hc : last = .create ∧ rest = [.slash]
  · rw [if_pos hc] at hp
    cases hp
  · rw [if_neg hc] at hp
    by_cases hm : maxName < n.length
    · rw [if_pos hm] at hp
      cases hp
    · rw [if_neg hm] at hp
      cases ha : fs.at? (n :: loc) with
      | some node =>
        rw [ha] at hp
        by_cases hk : last = .keep ∧ isLast rest = true
        · simp [hk] at hp
        · simp only [hk, if_false] at hp
          cases hkind : node.kind <;> simp [hkind] at hp
      | none =>
        rw [ha] at hp
        cases hl : isLast rest with
        | false => simp [hl] at hp
        | true =>
          simp only [hl, if_true] at hp
          cases hp
          exact ⟨rfl, rfl, rfl, rfl, hc, hm⟩

/-- A move that ends at a free name is the move to this name, in a folder that may be gone into. -/
theorem move_vacant {folder : Location} {name : Name}
    (hm : fs.move last loc rest step = .stop (.ended (.ok (.vacant folder name)))) :
    step = .name name ∧ folder = loc ∧ fs.enter loc = .ok () ∧
      fs.pick last loc rest name = .stop (.ended (.ok (.vacant loc name))) := by
  cases step with
  | slash => simp only [move] at hm; split at hm <;> cases hm
  | here => simp only [move] at hm; split at hm <;> cases hm
  | up => simp only [move] at hm; split at hm <;> cases hm
  | name n =>
    simp only [move] at hm
    cases he : fs.enter loc with
    | error e => rw [he] at hm; cases hm
    | ok =>
      rw [he] at hm
      obtain ⟨rfl, rfl, _⟩ := pick_vacant hm
      exact ⟨rfl, rfl, rfl, hm⟩

theorem advance_vacant {folder : Location} {name : Name}
    (ha : fs.advance last loc steps = .ended (.ok (.vacant folder name))) :
    fs.isFolder folder = true ∧ fs.at? (name :: folder) = none := by
  induction steps generalizing loc with
  | nil => cases ha
  | cons step rest ih =>
    rw [advance_cons] at ha
    cases hm : fs.move last loc rest step with
    | go loc' => rw [hm] at ha; exact ih ha
    | stop r =>
      rw [hm] at ha
      obtain rfl : r = _ := ha
      obtain ⟨rfl, rfl, he, hp⟩ := move_vacant hm
      exact ⟨isFolder_of_enter he, (pick_vacant hp).2.2.2.1⟩

/-- What a walk finds at a free name once a file is put there: any file but a link. After a slash
it has to be a folder, which a walk that may make a file does not get to. -/
structure Fills (fs : Filesystem) (last : LastName) (loc : Location) : Prop where
  walks : last ≠ .keep
  isThere : ∃ node, fs.at? loc = some node ∧ ∀ target, node.kind ≠ .link target
  isFolder : last = .create ∨ fs.isFolder loc = true

theorem fills_folder (hl : last ≠ .keep) (hf : fs.isFolder loc = true) : fs.Fills last loc where
  walks := hl
  isThere := by
    obtain ⟨node, hnode, hd⟩ := isFolder_iff.mp hf
    have hkind : node.kind = .directory := by simpa [Node.isDirectory] using hd
    exact ⟨node, hnode, by simp [hkind]⟩
  isFolder := .inr hf

/-- A walk that ended at a free name goes to the file that was put there. -/
theorem Extends.advance_vacant (h : fs.Extends fs') {folder : Location}
    {name : Name} (ha : fs.advance last loc steps = .ended (.ok (.vacant folder name)))
    (hf : fs'.Fills last (name :: folder)) :
    fs'.advance last loc steps = .ended (.ok (.found (name :: folder))) := by
  induction steps generalizing loc with
  | nil => cases ha
  | cons step rest ih =>
    rw [advance_cons] at ha ⊢
    cases hm : fs.move last loc rest step with
    | go loc' =>
      rw [hm] at ha
      rw [h.move (by rw [hm]; trivial), hm]
      exact ih ha
    | stop r =>
      rw [hm] at ha
      obtain rfl : r = _ := ha
      obtain ⟨rfl, rfl, he, hp⟩ := move_vacant hm
      obtain ⟨-, -, hrest, -, hc, hlength⟩ := pick_vacant hp
      obtain ⟨node, hnode, hkind⟩ := hf.isThere
      have hmove : fs'.move last folder rest (.name name) = .go (name :: folder) := by
        -- that it is no link is what `hkind` says
        simp only [Filesystem.move, h.enter he, Filesystem.pick, if_neg hc, if_neg hlength,
          hnode, hf.walks, false_and, if_false]
      rw [hmove]
      -- at most a slash is left, and then the walk is in a folder
      simp only [isLast, Bool.or_eq_true, beq_iff_eq] at hrest
      obtain rfl | rfl := hrest
      · rfl
      · have hin := hf.isFolder.resolve_left fun hcreate => hc ⟨hcreate, rfl⟩
        show fs'.advance last (name :: folder) [.slash] = _
        simp [advance_cons, Filesystem.move, hin]

theorem walk_vacant {links : Nat} {folder : Location} {name : Name}
    (hw : fs.walk last links loc steps = .ok (.vacant folder name)) :
    fs.isFolder folder = true ∧ fs.at? (name :: folder) = none := by
  fun_induction walk with
  | case1 links loc steps r ha =>
    rw [hw] at ha
    exact advance_vacant ha
  | case2 => cases hw
  | case3 loc steps folder target rest ha links ih => exact ih hw

theorem Extends.walk_vacant (h : fs.Extends fs') {links : Nat} {folder : Location} {name : Name}
    (hw : fs.walk last links loc steps = .ok (.vacant folder name))
    (hf : fs'.Fills last (name :: folder)) :
    fs'.walk last links loc steps = .ok (.found (name :: folder)) := by
  fun_induction Filesystem.walk fs last links loc steps with
  | case1 links loc steps r ha =>
    rw [hw] at ha
    rw [Filesystem.walk, h.advance_vacant ha hf]
  | case2 => cases hw
  | case3 loc steps target path rest ha links ih =>
    rw [Filesystem.walk, h.advance (by rw [ha]; trivial), ha]
    exact ih hw

/-! ### Whole paths -/

/-- Where a walk for a path starts. -/
def startOf (fs : Filesystem) (p : Path) : Location :=
  if Path.isAbsolute p.bytes then [] else fs.home

theorem resolve_eq_ok {p : Path} {place : Place} :
    fs.resolve last p = .ok place ↔
      p.bytes.contains 0 = false ∧ p.bytes.isEmpty = false ∧ p.bytes.length < maxPath ∧
        fs.walk last maxLinks (fs.startOf p) (Path.steps p.bytes) = .ok place := by
  unfold resolve
  cases hz : p.bytes.contains 0 with
  | true => simp
  | false =>
    cases he : p.bytes.isEmpty with
    | true => simp
    | false =>
      by_cases hm : maxPath ≤ p.bytes.length
      · simp [hm, Nat.not_lt.mpr hm]
      · simp only [Bool.false_eq_true, if_false, hm, Nat.not_le.mp hm, true_and]
        show Except.mapError Fault.os (fs.walk last maxLinks (fs.startOf p) _) = _ ↔ _
        cases fs.walk last maxLinks (fs.startOf p) (Path.steps p.bytes) with
        | error e => exact ⟨nofun, nofun⟩
        | ok place' => exact ⟨fun h => by cases h; rfl, fun h => by cases h; rfl⟩

theorem locate_eq_ok {p : Path} :
    fs.locate p = .ok loc ↔ fs.resolve .follow p = .ok (.found loc) := by
  constructor
  · intro h
    obtain ⟨place, hr, hp⟩ := bind_eq_ok.mp h
    cases place with
    | found l => cases hp; exact hr
    | vacant folder name => cases hp
  · intro h
    exact bind_eq_ok.mpr ⟨.found loc, h, rfl⟩

theorem existsAt_iff {p : Path} : fs.existsAt p = true ↔ ∃ l, fs.locate p = .ok l :=
  isOk_iff

theorem isFolderAt_iff {p : Path} :
    fs.isFolderAt p = true ↔ ∃ l, fs.locate p = .ok l ∧ fs.isFolder l = true := by
  unfold isFolderAt
  cases fs.locate p with
  | error e => simp
  | ok l => simp

theorem existsAt_of_isFolderAt {p : Path} (h : fs.isFolderAt p = true) : fs.existsAt p = true := by
  obtain ⟨l, hl, -⟩ := isFolderAt_iff.mp h
  exact existsAt_iff.mpr ⟨l, hl⟩

theorem Extends.startOf (h : fs.Extends fs') (p : Path) : fs'.startOf p = fs.startOf p := by
  rw [Filesystem.startOf, Filesystem.startOf, h.home]

/-- A path that leads somewhere leads there later, whatever becomes of its last name. -/
theorem Extends.resolve (h : fs.Extends fs') {p : Path} (hp : fs.resolve last p = .ok (.found loc)) :
    fs'.resolve last p = .ok (.found loc) := by
  obtain ⟨hz, he, hm, hw⟩ := resolve_eq_ok.mp hp
  exact resolve_eq_ok.mpr ⟨hz, he, hm, by rw [h.startOf]; exact h.walk hw⟩

theorem Extends.locate (h : fs.Extends fs') {p : Path} (hp : fs.locate p = .ok loc) :
    fs'.locate p = .ok loc :=
  locate_eq_ok.mpr (h.resolve (locate_eq_ok.mp hp))

/-- A path leads where it leads with links followed, or its search ends as only its kind does. -/
theorem resolve_last (fs : Filesystem) (last : LastName) (p : Path) :
    fs.resolve last p = fs.resolve .follow p ∨
    ∃ r : Except OsCode Place, EndsElse last r ∧ fs.resolve last p = r.mapError .os := by
  unfold resolve
  split
  · exact .inl rfl
  · split
    · exact .inl rfl
    · split
      · exact .inl rfl
      · obtain h | h := fs.walk_last last maxLinks (fs.startOf p) (Path.steps p.bytes)
        · exact .inl (congrArg (Except.mapError Fault.os) h)
        · exact .inr ⟨_, h, rfl⟩

/-- A path that leads somewhere leads somewhere if links at its end are kept. -/
theorem resolve_keep_of_existsAt {p : Path} (hp : fs.existsAt p = true) :
    ∃ l, fs.resolve .keep p = .ok (.found l) := by
  obtain ⟨l, hl⟩ := existsAt_iff.mp hp
  obtain h | ⟨r, ⟨l', rfl⟩, h⟩ := fs.resolve_last .keep p
  · exact ⟨l, h.trans (locate_eq_ok.mp hl)⟩
  · exact ⟨l', h⟩

/-- Where nothing is found with links kept, the search with links followed ends the same way. -/
theorem resolve_follow_of_keep {p : Path} {r : Except Fault Place} (hr : fs.resolve .keep p = r)
    (hfound : ∀ l, r ≠ .ok (.found l)) : fs.resolve .follow p = r := by
  obtain h | ⟨_, ⟨l, rfl⟩, h⟩ := fs.resolve_last .keep p
  · exact h.symm.trans hr
  · exact absurd (hr.symm.trans h) (hfound l)

theorem resolve_vacant {p : Path} {folder : Location} {name : Name}
    (hp : fs.resolve last p = .ok (.vacant folder name)) :
    fs.isFolder folder = true ∧ fs.at? (name :: folder) = none := by
  obtain ⟨_, _, _, hw⟩ := resolve_eq_ok.mp hp
  exact walk_vacant hw

/-- A path that ended at a free name leads to the file that was put there. -/
theorem Extends.resolve_vacant (h : fs.Extends fs') {p : Path} {folder : Location} {name : Name}
    (hp : fs.resolve last p = .ok (.vacant folder name)) (hf : fs'.Fills last (name :: folder)) :
    fs'.resolve last p = .ok (.found (name :: folder)) := by
  obtain ⟨hz, he, hm, hw⟩ := resolve_eq_ok.mp hp
  exact resolve_eq_ok.mpr ⟨hz, he, hm, by rw [h.startOf]; exact h.walk_vacant hw hf⟩

theorem Extends.locate_vacant (h : fs.Extends fs') {p : Path} {folder : Location} {name : Name}
    (hp : fs.resolve .keep p = .ok (.vacant folder name))
    (hf : fs'.isFolder (name :: folder) = true) : fs'.locate p = .ok (name :: folder) := by
  have hfollow : LastName.follow ≠ .keep := nofun
  exact locate_eq_ok.mpr
    (h.resolve_vacant (resolve_follow_of_keep hp (by simp)) (fills_folder hfollow hf))

/-- Where a file would be opened is where the path leads. -/
theorem resolve_follow_of_create {p : Path} {place : Place}
    (hp : fs.resolve .create p = .ok place) : fs.resolve .follow p = .ok place := by
  obtain h | ⟨r, hr, h⟩ := fs.resolve_last .create p
  · exact h.symm.trans hp
  · obtain rfl : r = .error .isDirectory := hr
    cases h.symm.trans hp

/-- A file that was made at the free name a path ended at is opened there. -/
theorem Extends.resolve_created (h : fs.Extends fs') {p : Path} {folder : Location} {name : Name}
    (hp : fs.resolve .create p = .ok (.vacant folder name)) {node : Node}
    (hnode : fs'.at? (name :: folder) = some node) (hkind : ∀ target, node.kind ≠ .link target) :
    fs'.resolve .create p = .ok (.found (name :: folder)) :=
  h.resolve_vacant hp ⟨nofun, ⟨node, hnode, hkind⟩, .inl rfl⟩

end Filesystem

end FileTransfer
