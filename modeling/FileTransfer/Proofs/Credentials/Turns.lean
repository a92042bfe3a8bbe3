import FileTransfer.Proofs.Credentials.History

/-! Many threads on one cache, in any order of steps.

Whatever the order of the steps and whatever the store does, a history is serial: whole calls one
after the other, and then the call that is under way, if one is (`Serial`). `calls_take_turns` says
what a caller can rely on: one thread in the store at most, the lock held just as long as it has to
be, one store call for each call, and the results and the state that the store gives to the calls
in the order of the lock. -/
namespace FileTransfer

theorem Store.run_concat {σ : Type} (store : Store σ) (s : σ) (key : String) (rs : List Request)
    (r : Request) :
    store.run s key (rs ++ [r]) =
      ((store.run s key rs).1 ++ [(store.perform (store.run s key rs).2 key r).1],
        (store.perform (store.run s key rs).2 key r).2) := by
  induction rs generalizing s with
  | nil => rfl
  | cons q rest ih => simp only [List.cons_append, Store.run, ih]

namespace Phase

/-- Whether a thread is in the store. -/
def isInside : Phase → Bool
  | .inside _ => true
  | _ => false

/-- Whether a thread is between taking the lock and giving it back. -/
def holds : Phase → Bool
  | .inside _ => true
  | .leaving _ _ => true
  | _ => false

end Phase

namespace Crew
variable {σ : Type} {store : Store σ} {key : String}

/-! ### The call that is under way -/

/-- How far the call that holds the lock has come, if there is one. -/
inductive Stage where
  | free
  | inside (turn : Turn)
  /-- The store call is over. If the store broke down, the call stays as it is. -/
  | after (turn : Turn) (o : Outcome)

namespace Stage

/-- What the call has done so far. -/
def events : Stage → List CrewEvent
  | .free => []
  | .inside t => [.acquired t]
  | .after t o => [.acquired t, .called t o]

/-- The store call that was made, and how it ended. -/
def served : Stage → List (Turn × Outcome)
  | .after t o => [(t, o)]
  | _ => []

/-- The turn whose store call is still to be made. -/
def waiting : Stage → List Turn
  | .inside t => [t]
  | _ => []

/-- The thread that makes the call. -/
def thread? : Stage → Option Nat
  | .free => none
  | .inside t => some t.thread
  | .after t _ => some t.thread

/-- The phase of a thread whose store call is over. -/
def phaseAfter (r : Request) (o : Outcome) : Phase :=
  if Cache.breaks o then .gone else .leaving r o

theorem isInside_phaseAfter (r : Request) (o : Outcome) : (phaseAfter r o).isInside = false := by
  unfold phaseAfter
  split <;> rfl

/-- The phase of each thread. -/
def phaseOf (i : Nat) : Stage → Phase
  | .free => .outside
  | .inside t => if t.thread = i then .inside t.request else .outside
  | .after t o => if t.thread = i then phaseAfter t.request o else .outside

theorem eq_inside {stage : Stage} {i : Nat} {r : Request} (h : stage.phaseOf i = .inside r) :
    stage = .inside ⟨i, r⟩ := by
  cases stage with
  | free => cases h
  | inside t =>
    simp only [phaseOf] at h
    split at h
    · next hi =>
      cases h
      rw [← hi]
    · cases h
  | after t o =>
    simp only [phaseOf, phaseAfter] at h
    split at h
    · split at h <;> cases h
    · cases h

theorem eq_after {stage : Stage} {i : Nat} {r : Request} {o : Outcome}
    (h : stage.phaseOf i = .leaving r o) :
    stage = .after ⟨i, r⟩ o ∧ Cache.breaks o = false := by
  cases stage with
  | free => cases h
  | inside t =>
    simp only [phaseOf] at h
    split at h <;> cases h
  | after t o' =>
    simp only [phaseOf, phaseAfter] at h
    split at h
    · next hi =>
      split at h
      · cases h
      · next hb =>
        cases h
        exact ⟨by rw [← hi], by simpa using hb⟩
    · cases h

end Stage

/-! ### Serial histories -/

/-- The requests of a thread among some turns. -/
def requestsOf (i : Nat) (turns : List Turn) : List Request :=
  (turns.filter fun t => t.thread == i).map Turn.request

/-- What a thread got from some calls. -/
def resultsOf (i : Nat) (calls : List (Turn × Outcome)) : List (Request × Outcome) :=
  (calls.filter fun call => call.1.thread == i).map fun call => (call.1.request, call.2)

@[simp] theorem requestsOf_append (i : Nat) (a b : List Turn) :
    requestsOf i (a ++ b) = requestsOf i a ++ requestsOf i b := by
  simp [requestsOf]

@[simp] theorem resultsOf_append (i : Nat) (a b : List (Turn × Outcome)) :
    resultsOf i (a ++ b) = resultsOf i a ++ resultsOf i b := by
  simp [resultsOf]

theorem requestsOf_self (i : Nat) (r : Request) : requestsOf i [⟨i, r⟩] = [r] := by
  simp [requestsOf]

theorem requestsOf_other {i j : Nat} (h : i ≠ j) (r : Request) : requestsOf j [⟨i, r⟩] = [] := by
  simp [requestsOf, h]

theorem resultsOf_self (i : Nat) (r : Request) (o : Outcome) :
    resultsOf i [(⟨i, r⟩, o)] = [(r, o)] := by
  simp [resultsOf]

theorem resultsOf_other {i j : Nat} (h : i ≠ j) (r : Request) (o : Outcome) :
    resultsOf j [(⟨i, r⟩, o)] = [] := by
  simp [resultsOf, h]

/-- A thread after some calls of the crew and in the midst of another: it is where that call puts
it, it has the results of its own calls, and it had or has yet to make the calls it was given, in
their order. -/
structure Accounted (work : List (List Request)) (turns : List Turn)
    (done : List (Turn × Outcome)) (stage : Stage) (i : Nat) (t : Thread) : Prop where
  phase : t.phase = stage.phaseOf i
  results : t.results = resultsOf i done
  requests : work[i]? = some (requestsOf i turns ++ t.pending)

variable (store key) in
/-- A crew that made some whole calls one after the other, and is in the midst of another. -/
structure Serial (work : List (List Request)) (s : σ) (history : List CrewEvent) (c : Crew σ)
    (done : List (Turn × Outcome)) (stage : Stage) : Prop where
  history : history = done.flatMap CrewEvent.whole ++ stage.events
  turns : c.turns = (done ++ stage.served).map Prod.fst ++ stage.waiting
  locked : c.locked = stage.thread?.isSome
  present : ∀ i, stage.thread? = some i → i < c.threads.length
  returned : ∀ call ∈ done, Cache.breaks call.2 = false
  active : c.active = stage.waiting.length
  completed : c.completed = done.length
  replies : store.run s key ((done ++ stage.served).map fun call => call.1.request) =
    ((done ++ stage.served).map Prod.snd, c.state)
  threads : ∀ i t, c.threads[i]? = some t → Accounted work c.turns done stage i t

theorem serial_start (work : List (List Request)) (s : σ) :
    Serial store key work s [] (start work s) [] .free where
  history := rfl
  turns := rfl
  locked := rfl
  present := fun _ h => nomatch h
  returned := fun _ h => nomatch h
  active := by
    simp [active, start, Stage.waiting]
  completed := by
    have hnone : (start work s).threads.flatMap Thread.results = [] := by
      simp [start]
    rw [completed, hnone]
    rfl
  replies := rfl
  threads := by
    intro i t ht
    simp only [start, List.getElem?_map, Option.map_eq_some_iff] at ht
    obtain ⟨pending, hw, rfl⟩ := ht
    exact ⟨rfl, rfl, hw⟩

/-- Of the threads of a list one is changed. -/
theorem getElem?_set_cases {threads : List Thread} {i j : Nat} {t u : Thread}
    (h : (threads.set i u)[j]? = some t) : i = j ∧ t = u ∨ i ≠ j ∧ threads[j]? = some t := by
  by_cases hij : i = j
  · subst hij
    obtain ⟨hi, _⟩ := List.getElem?_eq_some_iff.mp h
    rw [List.length_set] at hi
    rw [List.getElem?_set_self hi] at h
    cases h
    exact .inl ⟨rfl, rfl⟩
  · rw [List.getElem?_set_ne hij] at h
    exact .inr ⟨hij, h⟩

theorem length_results_set {threads : List Thread} {i : Nat} {t u : Thread}
    (h : threads[i]? = some t) :
    ((threads.set i u).flatMap Thread.results).length + t.results.length =
      (threads.flatMap Thread.results).length + u.results.length := by
  induction threads generalizing i with
  | nil => cases h
  | cons a rest ih =>
    cases i with
    | zero =>
      cases h
      simp only [List.set_cons_zero, List.flatMap_cons, List.length_append]
      omega
    | succ i =>
      have := ih (i := i) h
      simp only [List.set_cons_succ, List.flatMap_cons, List.length_append]
      omega

/-- How many calls have ended, after one thread was changed. -/
theorem completed_set {c d : Crew σ} {i n : Nat} {t u : Thread} (h : c.threads[i]? = some t)
    (hd : d.threads = c.threads.set i u)
    (hn : c.completed + u.results.length = n + t.results.length) : d.completed = n := by
  have hs := length_results_set (u := u) h
  simp only [completed, hd] at hn ⊢
  omega

/-- How many threads are in the store, after one was changed. -/
theorem active_set {c d : Crew σ} {i n : Nat} {t u : Thread} (h : c.threads[i]? = some t)
    (hd : d.threads = c.threads.set i u)
    (hn : c.active + (if u.phase.isInside then 1 else 0) =
      n + (if t.phase.isInside then 1 else 0)) : d.active = n := by
  obtain ⟨hi, rfl⟩ := List.getElem?_eq_some_iff.mp h
  have hle := List.boole_getElem_le_countP (p := fun t : Thread => t.phase.isInside) hi
  have hset := List.countP_set (p := fun t : Thread => t.phase.isInside) (a := u) hi
  have hc : c.active = c.threads.countP fun t => t.phase.isInside := rfl
  have hd' : d.active = d.threads.countP fun t => t.phase.isInside := rfl
  rw [hd, hset] at hd'
  omega

variable {work : List (List Request)} {s : σ} {history : List CrewEvent} {c : Crew σ}
  {done : List (Turn × Outcome)} {stage : Stage}

/-- A lock that is free is taken: a call is begun. -/
theorem Serial.acquire (h : Serial store key work s history c done stage) {i : Nat} {t : Thread}
    {r : Request} {rest : List Request} (ht : c.threads[i]? = some t) (hr : t.pending = r :: rest)
    (hl : c.locked = false) :
    Serial store key work s (history ++ [.acquired ⟨i, r⟩])
      { c with
        locked := true
        threads := c.threads.set i { t with phase := .inside r, pending := rest }
        turns := c.turns ++ [⟨i, r⟩] }
      done (.inside ⟨i, r⟩) := by
  have hi := (List.getElem?_eq_some_iff.mp ht).1
  have hfree : stage = .free := by
    have hs := h.locked
    rw [hl] at hs
    cases stage with
    | free => rfl
    | _ => cases hs
  subst hfree
  have hp : t.phase = .outside := (h.threads i t ht).phase
  have hturns := h.turns
  have hreplies := h.replies
  simp only [Stage.served, Stage.waiting, List.append_nil] at hturns hreplies
  exact
    { history := by rw [h.history]; simp [Stage.events]
      turns := by simp [hturns, Stage.served, Stage.waiting]
      locked := rfl
      present := by
        intro j hj
        cases hj
        simpa using hi
      returned := h.returned
      active := active_set ht rfl (by rw [h.active, hp]; rfl)
      completed := completed_set ht rfl (by rw [h.completed])
      replies := by simpa [Stage.served] using hreplies
      threads := by
        intro j u hu
        rcases getElem?_set_cases hu with ⟨rfl, rfl⟩ | ⟨hij, hu⟩
        · have ha := h.threads i t ht
          refine ⟨by simp [Stage.phaseOf], ha.results, ?_⟩
          rw [ha.requests, requestsOf_append, requestsOf_self, hr]
          simp
        · have ha := h.threads j u hu
          refine ⟨?_, ha.results, ?_⟩
          · rw [ha.phase]
            simp [Stage.phaseOf, hij]
          · rw [ha.requests, requestsOf_append, requestsOf_other hij]
            simp }

/-- The call under way reaches the store, which answers, fails or breaks down. -/
theorem Serial.call (h : Serial store key work s history c done stage) {i : Nat} {t : Thread}
    {r : Request} {o : Outcome} {s' : σ} (ht : c.threads[i]? = some t) (hp : t.phase = .inside r)
    (ho : store.perform c.state key r = (o, s')) :
    Serial store key work s (history ++ [.called ⟨i, r⟩ o])
      { c with
        threads := c.threads.set i { t with phase := Stage.phaseAfter r o }
        state := s' }
      done (.after ⟨i, r⟩ o) := by
  have hi := (List.getElem?_eq_some_iff.mp ht).1
  have hstage : stage = .inside ⟨i, r⟩ := Stage.eq_inside ((h.threads i t ht).phase.symm.trans hp)
  subst hstage
  have hreplies := h.replies
  simp only [Stage.served, List.append_nil] at hreplies
  exact
    { history := by rw [h.history]; simp [Stage.events]
      turns := by simp [h.turns, Stage.served, Stage.waiting]
      locked := h.locked
      present := by
        intro j hj
        cases hj
        simpa using hi
      returned := h.returned
      active := active_set ht rfl (by rw [h.active, hp, Stage.isInside_phaseAfter]; rfl)
      completed := completed_set ht rfl (by rw [h.completed])
      replies := by
        -- the new store call comes after those that were made before it
        rw [Stage.served, List.map_append, List.map_append, List.map_singleton, List.map_singleton,
          Store.run_concat, hreplies, ho]
      threads := by
        intro j u hu
        rcases getElem?_set_cases hu with ⟨rfl, rfl⟩ | ⟨hij, hu⟩
        · have ha := h.threads i t ht
          exact ⟨by simp [Stage.phaseOf], ha.results, ha.requests⟩
        · have ha := h.threads j u hu
          refine ⟨?_, ha.results, ha.requests⟩
          rw [ha.phase]
          simp [Stage.phaseOf, hij] }

/-- A store call that came back ends: its outcome is handed over, and the lock is free. -/
theorem Serial.release (h : Serial store key work s history c done stage) {i : Nat} {t : Thread}
    {r : Request} {o : Outcome} (ht : c.threads[i]? = some t) (hp : t.phase = .leaving r o) :
    Serial store key work s (history ++ [.released ⟨i, r⟩ o])
      { c with
        locked := false
        threads := c.threads.set i { t with phase := .outside, results := t.results ++ [(r, o)] } }
      (done ++ [(⟨i, r⟩, o)]) .free := by
  obtain ⟨rfl, hb⟩ := Stage.eq_after ((h.threads i t ht).phase.symm.trans hp)
  exact
    { history := by rw [h.history]; simp [Stage.events, CrewEvent.whole]
      turns := by simpa [Stage.served, Stage.waiting] using h.turns
      locked := rfl
      present := fun _ he => nomatch he
      returned := by
        intro call hc
        rcases List.mem_append.mp hc with hc | hc
        · exact h.returned call hc
        · rw [List.mem_singleton.mp hc]
          exact hb
      active := active_set ht rfl (by rw [h.active, hp]; rfl)
      completed := completed_set ht rfl (by
        rw [h.completed, List.length_append, List.length_append]
        simp only [List.length_singleton]
        omega)
      replies := by simpa [Stage.served] using h.replies
      threads := by
        intro j u hu
        rcases getElem?_set_cases hu with ⟨rfl, rfl⟩ | ⟨hij, hu⟩
        · have ha := h.threads i t ht
          refine ⟨rfl, ?_, ha.requests⟩
          rw [resultsOf_append, resultsOf_self, ha.results]
        · have ha := h.threads j u hu
          refine ⟨?_, ?_, ha.requests⟩
          · rw [ha.phase]
            simp [Stage.phaseOf, hij]
          · rw [resultsOf_append, resultsOf_other hij, List.append_nil, ha.results] }

/-- What one step keeps. -/
theorem Serial.step (h : Serial store key work s history c done stage) {e : CrewEvent} {d : Crew σ}
    (hs : Step store key c e d) :
    ∃ done' stage', Serial store key work s (history ++ [e]) d done' stage' := by
  cases hs with
  | acquire ht _ hr hl => exact ⟨_, _, h.acquire ht hr hl⟩
  | call ht hp ho => exact ⟨_, _, h.call ht hp ho⟩
  | release ht hp => exact ⟨_, _, h.release ht hp⟩

/-- What a whole run keeps. -/
theorem serial_of_steps (h : Steps store key (start work s) history c) :
    ∃ done stage, Serial store key work s history c done stage := by
  induction h with
  | refl => exact ⟨_, _, serial_start work s⟩
  | snoc _ last ih =>
    obtain ⟨_, _, hd⟩ := ih
    exact hd.step last

/-! ### What a caller can rely on -/

/-- The lock is held while a thread uses it, and for good once the store broke down. -/
theorem Serial.locked_iff (h : Serial store key work s history c done stage) :
    c.locked = true ↔
      (∃ t ∈ c.threads, t.phase.holds = true) ∨ ∃ e ∈ history, e.breaks = true := by
  constructor
  · intro hl
    rw [h.locked] at hl
    obtain ⟨i, hi⟩ := Option.isSome_iff_exists.mp hl
    have hlt := h.present i hi
    have ht : c.threads[i]? = some c.threads[i] := List.getElem?_eq_getElem hlt
    have hp := (h.threads i _ ht).phase
    cases stage with
    | free => cases hi
    | inside turn =>
      cases hi
      refine .inl ⟨_, List.getElem_mem hlt, ?_⟩
      simp [hp, Stage.phaseOf, Phase.holds]
    | after turn o =>
      cases hi
      by_cases hb : Cache.breaks o = true
      · refine .inr ⟨.called turn o, ?_, hb⟩
        simp [h.history, Stage.events]
      · refine .inl ⟨_, List.getElem_mem hlt, ?_⟩
        simp [hp, Stage.phaseOf, Stage.phaseAfter, hb, Phase.holds]
  · intro hu
    rw [h.locked]
    cases stage with
    | inside turn => rfl
    | after turn o => rfl
    | free =>
      exfalso
      rcases hu with ⟨t, ht, hh⟩ | ⟨e, he, hb⟩
      · obtain ⟨i, hi⟩ := List.getElem?_of_mem ht
        rw [(h.threads i t hi).phase] at hh
        cases hh
      · -- whole calls came back from the store
        rw [h.history, Stage.events, List.append_nil, List.mem_flatMap] at he
        obtain ⟨call, hc, he⟩ := he
        simp only [CrewEvent.whole, List.mem_cons, List.not_mem_nil, or_false] at he
        rcases he with rfl | rfl | rfl
        · cases hb
        · rw [CrewEvent.breaks, h.returned call hc] at hb
          cases hb
        · cases hb

/-- Any number of threads call one cache, each as often as it likes, in any order of steps and on
any store. Every run of a schedule has a history. After every history one thread at most is in the
store; the lock is held just if a thread is between taking it and giving it back or the store broke
down before; and the history is that of whole calls, with one store call each, followed by the call
that is under way. The turns of these calls are the turns at the lock, their outcomes and the state
are those of the store called for one after the other, and each thread has the results of its own
calls, which it made in its order. A store whose answers vary has what they depend on in its
state. -/
theorem calls_take_turns (store : Store σ) (key : String) (work : List (List Request)) (s : σ) :
    (∀ schedule, ∃ history,
      Steps store key (start work s) history ((start work s).run store key schedule)) ∧
    ∀ history c, Steps store key (start work s) history c →
      c.active ≤ 1 ∧
      (c.locked = true ↔
        (∃ t ∈ c.threads, t.phase.holds = true) ∨ ∃ e ∈ history, e.breaks = true) ∧
      ∃ (done : List (Turn × Outcome)) (stage : Stage),
        history = done.flatMap CrewEvent.whole ++ stage.events ∧
        c.completed = done.length ∧
        c.turns = (done ++ stage.served).map Prod.fst ++ stage.waiting ∧
        store.run s key ((done ++ stage.served).map fun call => call.1.request) =
          ((done ++ stage.served).map Prod.snd, c.state) ∧
        ∀ i t, c.threads[i]? = some t → Accounted work c.turns done stage i t := by
  refine ⟨exists_steps _, fun history c h => ?_⟩
  obtain ⟨done, stage, hs⟩ := serial_of_steps h
  refine ⟨?_, hs.locked_iff, done, stage, hs.history, hs.completed, hs.turns, hs.replies,
    hs.threads⟩
  rw [hs.active]
  cases stage with
  | inside turn => exact Nat.le_refl 1
  | _ => exact Nat.zero_le 1

/-- A store that counts its calls and breaks down when it is to save. -/
def fragile : Store Nat where
  perform n _ r :=
    match r with
    | .save _ => (.broke "torn", n + 1)
    | _ => (.answered .done, n + 1)

/-- One thread asks and loads, another saves and breaks the store: the load is never made. -/
theorem calls_take_turns_fragile :
    let c : Crew Nat := (start [[.save {}], [.has, .load]] 0).run fragile "k" [1, 1, 1, 0, 0, 1]
    let history : List CrewEvent :=
      [.acquired ⟨1, .has⟩, .called ⟨1, .has⟩ (.answered .done),
        .released ⟨1, .has⟩ (.answered .done),
        .acquired ⟨0, .save {}⟩, .called ⟨0, .save {}⟩ (.broke "torn")]
    Steps fragile "k" (start [[.save {}], [.has, .load]] 0) history c ∧ c.active ≤ 1 ∧
      c.locked = true ∧ ∃ e ∈ history, e.breaks = true := by
  intro c history
  have h : Steps fragile "k" (start [[.save {}], [.has, .load]] 0) history c :=
    ((((Steps.refl.snoc (.acquire rfl rfl rfl rfl)).snoc (.call rfl rfl rfl)).snoc
      (.release rfl rfl)).snoc (.acquire rfl rfl rfl rfl)).snoc (.call rfl rfl rfl)
  obtain ⟨hactive, hlocked, _⟩ := (calls_take_turns fragile "k" _ 0).2 history c h
  have hbreak : ∃ e ∈ history, e.breaks = true := by decide
  exact ⟨h, hactive, hlocked.mpr (.inr hbreak), hbreak⟩

end Crew

end FileTransfer
