import FileTransfer.Credentials.Threads
import Mathlib.Data.List.Induction

/-! Many threads on one cache: the steps they take, and the histories of their runs. A step of a
thread takes the lock, makes the store call or gives the lock back (`Step`), and the history of a
run is what its steps did, first to last (`Steps`). Schedules and histories are the same runs:
every schedule has a history (`exists_steps`), and every history has a schedule
(`run_of_steps`). -/
namespace FileTransfer

/-- What a step did: in which turn and, from the store call on, how the call ended. -/
inductive CrewEvent where
  | acquired (turn : Turn)
  | called (turn : Turn) (o : Outcome)
  | released (turn : Turn) (o : Outcome)
  deriving DecidableEq, Repr

namespace CrewEvent

/-- The turn that an event belongs to. -/
def turn : CrewEvent → Turn
  | .acquired t => t
  | .called t _ => t
  | .released t _ => t

/-- Whether the store broke down. -/
def breaks : CrewEvent → Bool
  | .called _ o => Cache.breaks o
  | _ => false

/-- All that a whole call does, by its turn and its outcome: the lock is taken, the store is called
once, the lock is given back. -/
def whole (call : Turn × Outcome) : List CrewEvent :=
  [.acquired call.1, .called call.1 call.2, .released call.1 call.2]

end CrewEvent

namespace Crew
variable {σ : Type} {store : Store σ} {key : String}

variable (store key) in
/-- A step of one thread of a crew. -/
inductive Step (c : Crew σ) : CrewEvent → Crew σ → Prop where
  | acquire {i : Nat} {t : Thread} {r : Request} {rest : List Request}
      (thread : c.threads[i]? = some t) (outside : t.phase = .outside)
      (next : t.pending = r :: rest) (free : c.locked = false) :
      Step c (.acquired ⟨i, r⟩)
        { c with
          locked := true
          threads := c.threads.set i { t with phase := .inside r, pending := rest }
          turns := c.turns ++ [⟨i, r⟩] }
  | call {i : Nat} {t : Thread} {r : Request} {o : Outcome} {s : σ}
      (thread : c.threads[i]? = some t) (inside : t.phase = .inside r)
      (result : store.perform c.state key r = (o, s)) :
      Step c (.called ⟨i, r⟩ o)
        { c with
          threads := c.threads.set i
            { t with phase := if Cache.breaks o then .gone else .leaving r o }
          state := s }
  | release {i : Nat} {t : Thread} {r : Request} {o : Outcome}
      (thread : c.threads[i]? = some t) (leaving : t.phase = .leaving r o) :
      Step c (.released ⟨i, r⟩ o)
        { c with
          locked := false
          threads := c.threads.set i
            { t with phase := .outside, results := t.results ++ [(r, o)] } }

/-- The steps are those that threads take. -/
theorem step?_eq_some_iff {c d : Crew σ} {i : Nat} :
    c.step? store key i = some d ↔ ∃ e, e.turn.thread = i ∧ Step store key c e d := by
  constructor
  · intro h
    unfold step? at h
    split at h
    · cases h
    · next t ht =>
      split at h
      · next r rest hp hr =>
        split at h
        · cases h
        · next hl =>
          cases h
          exact ⟨_, rfl, .acquire ht hp hr (by simpa using hl)⟩
      · next r hp =>
        cases h
        exact ⟨_, rfl, .call ht hp rfl⟩
      · next r o hp =>
        cases h
        exact ⟨_, rfl, .release ht hp⟩
      · cases h
      · cases h
  · rintro ⟨e, rfl, h⟩
    cases h with
    | acquire ht hp hr hl => simp [step?, CrewEvent.turn, ht, hp, hr, hl]
    | call ht hp ho => simp [step?, CrewEvent.turn, ht, hp, ho]
    | release ht hp => simp [step?, CrewEvent.turn, ht, hp]

variable (store key) in
/-- Any number of steps, and what they did. -/
inductive Steps (c : Crew σ) : List CrewEvent → Crew σ → Prop where
  | refl : Steps c [] c
  | snoc {history : List CrewEvent} {d d' : Crew σ} {e : CrewEvent}
      (before : Steps c history d) (last : Step store key d e d') : Steps c (history ++ [e]) d'

theorem run_concat (c : Crew σ) (schedule : List Nat) (i : Nat) :
    c.run store key (schedule ++ [i]) =
      ((c.run store key schedule).step? store key i).getD (c.run store key schedule) := by
  simp [run]

/-- A history is the run of its own schedule. -/
theorem run_of_steps {c d : Crew σ} {history : List CrewEvent} (h : Steps store key c history d) :
    c.run store key (history.map fun e => e.turn.thread) = d := by
  induction h with
  | refl => rfl
  | snoc _ last ih =>
    rw [List.map_append, List.map_singleton, run_concat, ih,
      step?_eq_some_iff.mpr ⟨_, rfl, last⟩]
    rfl

/-- Every schedule has a history: that of the steps which could be taken. -/
theorem exists_steps (c : Crew σ) (schedule : List Nat) :
    ∃ history, Steps store key c history (c.run store key schedule) := by
  induction schedule using List.reverseRecOn with
  | nil => exact ⟨[], .refl⟩
  | append_singleton schedule i ih =>
    obtain ⟨history, h⟩ := ih
    rw [run_concat]
    cases hs : (c.run store key schedule).step? store key i with
    | none => exact ⟨history, h⟩
    | some d =>
      obtain ⟨e, _, he⟩ := step?_eq_some_iff.mp hs
      exact ⟨history ++ [e], h.snoc he⟩

end Crew

end FileTransfer
