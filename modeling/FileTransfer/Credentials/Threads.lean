import FileTransfer.Credentials.Cache

/-! Many threads on one cache. Each thread has calls to make; a call takes the lock, runs in the
store and gives the lock back, and these are steps of their own between which other threads may
move. Any order of steps is a schedule; a thread that cannot move stays where it is. -/
namespace FileTransfer

/-- Where a thread stands. -/
inductive Phase where
  /-- Between two calls, or waiting for the lock. -/
  | outside
  /-- In the store, with the lock. -/
  | inside (r : Request)
  /-- Back from the store, with the lock. -/
  | leaving (r : Request) (o : Outcome)
  /-- Gone in a store that broke down. -/
  | gone
  deriving DecidableEq, Repr

/-- A thread: where it stands, the calls it has yet to make, and how those before ended. -/
structure Thread where
  phase : Phase := .outside
  pending : List Request
  results : List (Request × Outcome) := []
  deriving DecidableEq, Repr

/-- A thread's turn at the lock, and what it asked. -/
structure Turn where
  thread : Nat
  request : Request
  deriving DecidableEq, Repr

/-- Threads on one cache. -/
structure Crew (σ : Type) where
  locked : Bool
  threads : List Thread
  state : σ
  /-- The turns at the lock, first to last. -/
  turns : List Turn := []

namespace Crew

variable {σ : Type}

/-- Threads with calls to make and a free lock. -/
def start (work : List (List Request)) (s : σ) : Crew σ :=
  ⟨false, work.map fun pending => { pending }, s, []⟩

/-- The next step of a thread, if it can take one. -/
def step? (store : Store σ) (key : String) (c : Crew σ) (i : Nat) : Option (Crew σ) :=
  match c.threads[i]? with
  | none => none
  | some t =>
    match t.phase, t.pending with
    | .outside, r :: rest =>
      if c.locked then none
      else some
        { c with
          locked := true
          threads := c.threads.set i { t with phase := .inside r, pending := rest }
          turns := c.turns ++ [⟨i, r⟩] }
    | .inside r, _ =>
      let (o, s) := store.perform c.state key r
      let phase := if Cache.breaks o then .gone else .leaving r o
      some { c with threads := c.threads.set i { t with phase }, state := s }
    | .leaving r o, _ =>
      some
        { c with
          locked := false
          threads := c.threads.set i
            { t with phase := .outside, results := t.results ++ [(r, o)] } }
    | .outside, [] => none
    | .gone, _ => none

/-- The crew after a schedule. -/
def run (store : Store σ) (key : String) (c : Crew σ) (schedule : List Nat) : Crew σ :=
  schedule.foldl (fun c i => (c.step? store key i).getD c) c

/-- The crews passed on the way through a schedule, the first one included. -/
def trace (store : Store σ) (key : String) (c : Crew σ) : List Nat → List (Crew σ)
  | [] => [c]
  | i :: rest => c :: trace store key ((c.step? store key i).getD c) rest

/-- How many threads are in the store. -/
def active (c : Crew σ) : Nat :=
  c.threads.countP fun t => match t.phase with
    | .inside _ => true
    | _ => false

/-- How many calls have ended. -/
def completed (c : Crew σ) : Nat :=
  (c.threads.flatMap Thread.results).length

/-- Every thread in turn, again and again. -/
def rounds (threads : Nat) : Nat → List Nat
  | 0 => []
  | n + 1 => List.range threads ++ rounds threads n

/-- The calls of a worker: always the same one, by the worker's number. -/
def work (worker rounds : Nat) : List Request :=
  List.replicate rounds
    (match worker % 4 with
      | 0 => .has
      | 1 => .remove
      | 2 => .save {}
      | _ => .load)

end Crew

end FileTransfer
