import FileTransfer.Command.Run
import FileTransfer.Proofs.Log.Decisive

/-! What the collector has in the end does not depend on the order in which the tasks run and end.

At any time each task can end with one thing only as long as it does not break down, the answer to
its path (`Settles`), and the collector has taken in the ends of the first tasks, in their order
(`Collected`). So once it is done it has the ends of all tasks in the order of the paths, and of what
was logged only its own records are loud (`Collected.of_isDone`, `run_of_isDone`). -/
namespace FileTransfer

/-! ### What a task ends with -/

namespace TaskEnd

/-- The line that is printed for an end. -/
def line? : TaskEnd → Option String
  | .found path record => some (Gathered.lineOf path record)
  | _ => none

/-- The error text of an end. -/
def errorText? : TaskEnd → Option String
  | .found .. => none
  | .failed error => some error.message
  | .lost reason => some reason

end TaskEnd

namespace Gathered

/-- What is gathered from some ends, taken in this order. -/
def ofEnds (ends : List TaskEnd) : Gathered :=
  ⟨ends.filterMap TaskEnd.line?, ends.filterMap TaskEnd.errorText?⟩

theorem ofEnds_concat (ends : List TaskEnd) (e : TaskEnd) :
    ofEnds (ends ++ [e]) = (ofEnds ends).take e := by
  cases e <;> simp [ofEnds, take, TaskEnd.line?, TaskEnd.errorText?]

end Gathered

theorem isLoud_of_mem_takeRecords {e : TaskEnd} {r : Log.Record} (h : r ∈ Gathered.takeRecords e) :
    r.isLoud = true := by
  cases e with
  | found => cases h
  | failed error =>
    rw [List.mem_singleton.mp h]
    rfl
  | lost reason =>
    rw [List.mem_singleton.mp h]
    rfl

theorem isLoud_of_mem_report {p : Path} {status : Except Fault Status} {r : Log.Record}
    (h : r ∈ (QueryReport.ofStatus p status).log) : r.isLoud = false := by
  cases status with
  | ok s =>
    rw [List.mem_singleton.mp h]
    rfl
  | error cause =>
    rw [List.mem_singleton.mp h]
    rfl

namespace Pool
variable (source : Source) {pool : Pool} {paths : List Path}

/-- The end of a task that asks for a path and does not break down. -/
def answer (p : Path) : TaskEnd :=
  .ofReport p (.ofStatus p (source p))

/-- What a task ends with if it does not break down any more. -/
def outcome : Task → TaskEnd
  | .waiting p => answer source p
  | .answered a => a
  | .ended e => e

/-- What the tasks of a pool end with. -/
def outcomes (pool : Pool) : List TaskEnd :=
  pool.tasks.map (outcome source)

theorem outcomes_start : (start paths).outcomes source = paths.map (answer source) := by
  simp [outcomes, start, outcome, Function.comp_def]

/-! ### One event -/

/-- What an event can do: nothing; a step of one task that has not ended, with records that are not
loud, after which the task ends with the same unless it breaks down by this step; or the taking of
the next end. -/
inductive Step (pool : Pool) (event : PoolEvent) : Pool → Prop where
  | idle : Step pool event pool
  | task {i : Nat} {before after : Task} {records : List Log.Record}
      (present : pool.tasks[i]? = some before) (running : ∀ e, before ≠ .ended e)
      (quiet : ∀ r ∈ records, r.isLoud = false)
      (kept : outcome source after = outcome source before ∨
        ∃ reason, event = .lose i reason ∧ outcome source after = .lost reason) :
      Step pool event { pool with tasks := pool.tasks.set i after, log := pool.log ++ records }
  | taken {e : TaskEnd} (ended : pool.tasks[pool.collected]? = some (.ended e)) :
      Step pool event
        { pool with
          collected := pool.collected + 1
          gathered := pool.gathered.take e
          log := pool.log ++ Gathered.takeRecords e }

theorem step_cases (pool : Pool) (event : PoolEvent) :
    Step source pool event (pool.step source event) := by
  cases event with
  | ask i =>
    simp only [step]
    split
    · next p h =>
      exact .task h (by simp) (fun r hr => isLoud_of_mem_report hr) (.inl rfl)
    · exact .idle
  | finish i =>
    simp only [step]
    split
    · next answer h =>
      rw [← List.append_nil pool.log]
      exact .task h (by simp) (by simp) (.inl rfl)
    · exact .idle
  | lose i reason =>
    simp only [step]
    split
    · exact .idle
    · next hrunning =>
      cases h : pool.tasks[i]? with
      | none =>
        rw [List.set_eq_of_length_le (List.getElem?_eq_none_iff.mp h)]
        exact .idle
      | some before =>
        rw [← List.append_nil pool.log]
        refine .task h (fun e he => hrunning e ?_) (by simp) (.inr ⟨reason, rfl, rfl⟩)
        rw [h, he]
  | collect =>
    simp only [step]
    split
    · next e h => exact .taken h
    · exact .idle

theorem length_step (pool : Pool) (event : PoolEvent) :
    (pool.step source event).tasks.length = pool.tasks.length := by
  have hstep := step_cases source pool event
  generalize pool.step source event = next at hstep ⊢
  cases hstep with
  | idle => rfl
  | task => exact List.length_set
  | taken => rfl

/-! ### What the tasks end with -/

variable {source} {past events : List PoolEvent} {ends : List TaskEnd}

/-- What the task of a path may end with, as far as events go: the answer to the path, or a reason
for which one of the events breaks it down. -/
inductive MayEnd (source : Source) (events : List PoolEvent) (i : Nat) (p : Path) :
    TaskEnd → Prop where
  | answered : MayEnd source events i p (answer source p)
  | lost {reason : String} (breakdown : .lose i reason ∈ events) :
    MayEnd source events i p (.lost reason)

/-- An end for each of some paths, in their order, with which its task may end. -/
structure Settles (source : Source) (paths : List Path) (events : List PoolEvent)
    (ends : List TaskEnd) : Prop where
  length : ends.length = paths.length
  each : ∀ (i : Nat) (p : Path), paths[i]? = some p →
    ∃ e, ends[i]? = some e ∧ MayEnd source events i p e

theorem MayEnd.mono {i : Nat} {p : Path} {e : TaskEnd} (h : MayEnd source past i p e)
    (hsubset : past ⊆ events) : MayEnd source events i p e := by
  cases h with
  | answered => exact .answered
  | lost breakdown => exact .lost (hsubset breakdown)

theorem Settles.mono (h : Settles source paths past ends) (hsubset : past ⊆ events) :
    Settles source paths events ends where
  length := h.length
  each i p hp := by
    obtain ⟨e, he, hmay⟩ := h.each i p hp
    exact ⟨e, he, hmay.mono hsubset⟩

theorem settles_start (source : Source) (paths : List Path) :
    Settles source paths [] ((start paths).outcomes source) := by
  rw [outcomes_start]
  refine ⟨List.length_map _, fun i p hp => ⟨answer source p, ?_, .answered⟩⟩
  rw [List.getElem?_map, hp]
  rfl

theorem Settles.step (h : Settles source paths past (pool.outcomes source)) (event : PoolEvent) :
    Settles source paths (past ++ [event]) ((pool.step source event).outcomes source) := by
  have hpast : past ⊆ past ++ [event] := List.subset_append_left ..
  have hstep := step_cases source pool event
  generalize pool.step source event = next at hstep ⊢
  cases hstep with
  | idle => exact h.mono hpast
  | taken => exact h.mono hpast
  | @task i before after _ present _ _ kept =>
    have houtcomes : (pool.tasks.set i after).map (outcome source) =
        (pool.outcomes source).set i (outcome source after) := List.map_set
    have hbefore : (pool.outcomes source)[i]? = some (outcome source before) := by
      rw [outcomes, List.getElem?_map, present]
      rfl
    obtain ⟨hi, hget⟩ := List.getElem?_eq_some_iff.mp hbefore
    show Settles source paths _ ((pool.tasks.set i after).map (outcome source))
    rw [houtcomes]
    obtain hkept | ⟨reason, rfl, hlost⟩ := kept
    · rw [hkept, ← hget, List.set_getElem_self]
      exact h.mono hpast
    · rw [hlost]
      refine ⟨List.length_set.trans h.length, fun k p hp => ?_⟩
      by_cases hk : i = k
      · subst hk
        exact ⟨.lost reason, List.getElem?_set_self hi, .lost (by simp)⟩
      · obtain ⟨e, he, hmay⟩ := h.each k p hp
        exact ⟨e, by rw [List.getElem?_set_ne hk, he], hmay.mono hpast⟩

/-- Whatever happens, each task of a run ends as it may. -/
theorem Settles.run (h : Settles source paths past (pool.outcomes source))
    (events : List PoolEvent) :
    Settles source paths (past ++ events) ((pool.run source events).outcomes source) := by
  induction events generalizing pool past with
  | nil => rwa [List.append_nil]
  | cons event rest ih =>
    rw [List.append_cons]
    exact ih (h.step event)

/-- Where no task breaks down the ends are the answers. -/
theorem Settles.eq_answers (h : Settles source paths events ends)
    (hlose : ∀ i reason, .lose i reason ∉ events) : ends = paths.map (answer source) := by
  refine List.ext_getElem? fun i => ?_
  rw [List.getElem?_map]
  cases hp : paths[i]? with
  | none =>
    rw [List.getElem?_eq_none_iff] at hp
    exact List.getElem?_eq_none_iff.mpr (h.length ▸ hp)
  | some p =>
    obtain ⟨e, he, hmay⟩ := h.each i p hp
    rw [he]
    cases hmay with
    | answered => rfl
    | lost breakdown => exact absurd breakdown (hlose _ _)

variable (source)

/-! ### What the collector has -/

/-- The collector has taken in the ends of the first tasks, in their order, and all that was logged
aloud was logged for them. -/
structure Collected (pool : Pool) : Prop where
  ended : ∀ k, k < pool.collected → ∃ e, pool.tasks[k]? = some (.ended e)
  gathered : pool.gathered = .ofEnds ((pool.outcomes source).take pool.collected)
  loud : pool.log.filter Log.Record.isLoud =
    ((pool.outcomes source).take pool.collected).flatMap Gathered.takeRecords

theorem collected_start (paths : List Path) : Collected source (start paths) where
  ended := by simp [start]
  gathered := by simp [start, Gathered.ofEnds]
  loud := by simp [start]

variable {source}

theorem Collected.step (h : Collected source pool) (event : PoolEvent) :
    Collected source (pool.step source event) := by
  have hstep := step_cases source pool event
  generalize pool.step source event = next at hstep ⊢
  cases hstep with
  | idle => exact h
  | @task i before after records present running quiet _ =>
    -- a task that has not ended lies beyond those that were collected
    have hbeyond : pool.collected ≤ i := by
      refine Nat.le_of_not_lt fun hlt => ?_
      obtain ⟨e, he⟩ := h.ended i hlt
      rw [present] at he
      exact running e (Option.some.inj he)
    have htake : ((pool.tasks.set i after).map (outcome source)).take pool.collected =
        (pool.outcomes source).take pool.collected := by
      rw [List.map_set, List.take_set_of_le hbeyond, outcomes]
    refine ⟨fun k hk => ?_, ?_, ?_⟩
    · rw [List.getElem?_set_ne (Nat.ne_of_gt (Nat.lt_of_lt_of_le hk hbeyond))]
      exact h.ended k hk
    · exact h.gathered.trans (congrArg Gathered.ofEnds htake.symm)
    · have hquiet : records.filter Log.Record.isLoud = [] :=
        List.filter_eq_nil_iff.mpr fun r hr => by simp [quiet r hr]
      rw [List.filter_append, hquiet, List.append_nil, h.loud]
      exact congrArg (List.flatMap Gathered.takeRecords) htake.symm
  | @taken e ended =>
    have hnext : (pool.outcomes source)[pool.collected]? = some e := by
      rw [outcomes, List.getElem?_map, ended]
      rfl
    have htake : (pool.outcomes source).take (pool.collected + 1) =
        (pool.outcomes source).take pool.collected ++ [e] := by
      rw [List.take_add_one, hnext]
      rfl
    refine ⟨fun k hk => ?_, ?_, ?_⟩
    · rcases Nat.lt_succ_iff_lt_or_eq.mp hk with hk | rfl
      · exact h.ended k hk
      · exact ⟨e, ended⟩
    · show pool.gathered.take e = _
      rw [h.gathered, ← Gathered.ofEnds_concat, ← htake]
      rfl
    · have hloud : (Gathered.takeRecords e).filter Log.Record.isLoud = Gathered.takeRecords e :=
        List.filter_eq_self.mpr fun r hr => isLoud_of_mem_takeRecords hr
      rw [List.filter_append, hloud, h.loud, ← List.flatMap_singleton Gathered.takeRecords e,
        ← List.flatMap_append, ← htake]
      rfl

/-! ### Whole runs -/

theorem Collected.run (h : Collected source pool) (events : List PoolEvent) :
    Collected source (pool.run source events) := by
  induction events generalizing pool with
  | nil => exact h
  | cons event rest ih => exact ih (h.step event)

theorem length_run (pool : Pool) (events : List PoolEvent) :
    (pool.run source events).tasks.length = pool.tasks.length := by
  induction events generalizing pool with
  | nil => rfl
  | cons event rest ih => exact (ih _).trans (length_step source pool event)

/-- Once the collector is done it has the ends of all tasks. -/
theorem Collected.of_isDone (h : Collected source pool) (hdone : pool.isDone = true) :
    pool.gathered = .ofEnds (pool.outcomes source) ∧
      pool.log.filter Log.Record.isLoud =
        (pool.outcomes source).flatMap Gathered.takeRecords := by
  have hall : (pool.outcomes source).take pool.collected = pool.outcomes source := by
    refine List.take_of_length_le (Nat.le_of_eq ?_)
    rw [outcomes, List.length_map]
    exact (beq_iff_eq.mp hdone).symm
  rw [← hall]
  exact ⟨h.gathered, h.loud⟩

variable (source)

/-- The line for a path whose status the source has. -/
def lineFor (p : Path) : Option String :=
  match source p with
  | .ok status => some (Gathered.lineOf p status.toRecord)
  | .error _ => none

/-- The error text for a path whose status the source does not have. -/
def errorFor (p : Path) : Option String :=
  match source p with
  | .ok _ => none
  | .error cause => some (Error.fileStat p cause).message

/-- The record of a path that failed. -/
def warning (text : String) : Log.Record :=
  ⟨.warn, .command, text⟩

variable {source} in
theorem answer_of_ok {p : Path} {status : Status} (h : source p = .ok status) :
    answer source p = .found p status.toRecord := by
  rw [answer, h]
  rfl

variable {source} in
theorem answer_of_error {p : Path} {cause : Fault} (h : source p = .error cause) :
    answer source p = .failed (.fileStat p cause) := by
  rw [answer, h]
  rfl

theorem line?_answer (p : Path) : (answer source p).line? = lineFor source p := by
  cases h : source p with
  | ok status =>
    rw [answer_of_ok h, lineFor, h]
    rfl
  | error cause =>
    rw [answer_of_error h, lineFor, h]
    rfl

theorem errorText?_answer (p : Path) : (answer source p).errorText? = errorFor source p := by
  cases h : source p with
  | ok status =>
    rw [answer_of_ok h, errorFor, h]
    rfl
  | error cause =>
    rw [answer_of_error h, errorFor, h]
    rfl

theorem takeRecords_answer (p : Path) :
    Gathered.takeRecords (answer source p) = (errorFor source p).toList.map warning := by
  cases h : source p with
  | ok status =>
    rw [answer_of_ok h, errorFor, h]
    rfl
  | error cause =>
    rw [answer_of_error h, errorFor, h]
    rfl

theorem ofEnds_answers (paths : List Path) : Gathered.ofEnds (paths.map (answer source)) =
    ⟨paths.filterMap (lineFor source), paths.filterMap (errorFor source)⟩ := by
  simp only [Gathered.ofEnds, List.filterMap_map, Function.comp_def, line?_answer,
    errorText?_answer]

theorem takeRecords_answers (paths : List Path) :
    (paths.map (answer source)).flatMap Gathered.takeRecords =
      (paths.filterMap (errorFor source)).map warning := by
  induction paths with
  | nil => rfl
  | cons p rest ih =>
    rw [List.map_cons, List.flatMap_cons, ih, takeRecords_answer, List.filterMap_cons]
    cases errorFor source p <;> rfl

variable {source}

variable (source) in
/-- The next task asks, ends and is collected at once. -/
theorem run_task {p : Path} (h : pool.tasks[pool.collected]? = some (.waiting p)) :
    let after := pool.run source [.ask pool.collected, .finish pool.collected, .collect]
    after.collected = pool.collected + 1 ∧
      after.tasks = pool.tasks.set pool.collected (.ended (answer source p)) := by
  have hlt := (List.getElem?_eq_some_iff.mp h).1
  have hset (t : Task) : (pool.tasks.set pool.collected t)[pool.collected]? = some t :=
    List.getElem?_set_self hlt
  simp only [run, List.foldl_cons, List.foldl_nil, step, h, hset, List.set_set, answer,
    and_self]

theorem run_inTurn {n : Nat} (hn : n ≤ paths.length) :
    ((start paths).run source (inTurn n)).collected = n ∧
      ∀ j, n ≤ j →
        ((start paths).run source (inTurn n)).tasks[j]? = paths[j]?.map Task.waiting := by
  induction n with
  | zero => exact ⟨rfl, fun j _ => List.getElem?_map⟩
  | succ n ih =>
    obtain ⟨hcollected, hwaiting⟩ := ih (Nat.le_of_succ_le hn)
    have hlast : inTurn (n + 1) = inTurn n ++ [.ask n, .finish n, .collect] := by
      simp [inTurn, List.range_succ]
    have happend : (start paths).run source (inTurn (n + 1)) =
        ((start paths).run source (inTurn n)).run source [.ask n, .finish n, .collect] := by
      rw [hlast]
      exact List.foldl_append
    rw [happend]
    generalize (start paths).run source (inTurn n) = pool at hcollected hwaiting ⊢
    subst hcollected
    have hnext := hwaiting pool.collected (Nat.le_refl _)
    rw [List.getElem?_eq_getElem hn] at hnext
    obtain ⟨hcount, htasks⟩ := run_task source hnext
    refine ⟨hcount, fun j hj => ?_⟩
    rw [htasks, List.getElem?_set_ne (Nat.ne_of_lt hj)]
    exact hwaiting j (Nat.le_of_succ_le hj)

/-- The collector is done when all tasks had their turn. -/
theorem isDone_inTurn (paths : List Path) :
    ((start paths).run source (inTurn paths.length)).isDone = true := by
  have hlength : ((start paths).run source (inTurn paths.length)).tasks.length = paths.length :=
    (length_run _ _).trans (List.length_map _)
  exact beq_iff_eq.mpr ((run_inTurn (Nat.le_refl _)).1.trans hlength.symm)

/-- A run without breakdowns whose collector is done gathered the lines and the error texts of the
paths in their order, and of the log only the warnings are loud. -/
theorem run_of_isDone {events : List PoolEvent} (hlose : ∀ i reason, .lose i reason ∉ events)
    (hdone : ((start paths).run source events).isDone = true) :
    ((start paths).run source events).gathered =
        ⟨paths.filterMap (lineFor source), paths.filterMap (errorFor source)⟩ ∧
      ((start paths).run source events).log.filter Log.Record.isLoud =
        (paths.filterMap (errorFor source)).map warning := by
  have h := ((collected_start source paths).run events).of_isDone hdone
  have hends := ((settles_start source paths).run events).eq_answers hlose
  rwa [hends, ofEnds_answers, takeRecords_answers] at h

end Pool

end FileTransfer
