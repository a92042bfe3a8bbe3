import FileTransfer.Json.Value
import FileTransfer.Transfer.Query

/-! Asking for many files at once. Each path is a task of its own. A task asks for its file and ends
with the answer, or it breaks down before it ends; a collector takes what the tasks ended with, in
the order of the paths. An event is a step of a task or a look of the collector, and any list of
events may happen: a step that cannot be taken changes nothing. -/
namespace FileTransfer

/-- What a task ended with. -/
inductive TaskEnd where
  | found (path : Path) (record : FileRecord)
  | failed (error : Error)
  /-- The task broke down, and this is told of it. -/
  | lost (reason : String)
  deriving DecidableEq, Repr

/-- The end of a task that asked for a path and got this report. -/
def TaskEnd.ofReport (path : Path) (report : QueryReport) : TaskEnd :=
  match report.result with
  | .ok record => .found path record
  | .error e => .failed e

/-- What a run gathered: a line for each path that was found, and an error text for each that was
not. -/
structure Gathered where
  lines : List String := []
  errors : List String := []
  deriving DecidableEq, Repr

namespace Gathered

/-- The line for a path and its record, as an object whose members stand in order of name. -/
def lineOf (p : Path) (r : FileRecord) : String :=
  (Json.Value.object [("path", .text p.shown), ("info", r.toJson)]).sorted.render

/-- Takes in what a task ended with. -/
def take (g : Gathered) : TaskEnd → Gathered
  | .found path record => { g with lines := g.lines ++ [lineOf path record] }
  | .failed error => { g with errors := g.errors ++ [error.message] }
  | .lost reason => { g with errors := g.errors ++ [reason] }

/-- What is logged when it is taken in: an error, if there is one. -/
def takeRecords : TaskEnd → List Log.Record
  | .found .. => []
  | .failed error => [⟨.warn, .command, error.message⟩]
  | .lost reason => [⟨.error, .command, "File info task failed: " ++ reason⟩]

/-- Whether any path failed. -/
def failed (g : Gathered) : Bool :=
  !g.errors.isEmpty

end Gathered

/-- Where a task stands. -/
inductive Task where
  | waiting (path : Path)
  /-- It has its answer, and has yet to end. -/
  | answered (answer : TaskEnd)
  | ended (outcome : TaskEnd)
  deriving DecidableEq, Repr

/-- The tasks of a run, how many of them were collected, and what was gathered and logged. -/
structure Pool where
  tasks : List Task
  collected : Nat := 0
  gathered : Gathered := {}
  log : List Log.Record := []
  deriving DecidableEq, Repr

/-- What happens in a pool. -/
inductive PoolEvent where
  /-- A task asks for its file, and logs the answer. -/
  | ask (task : Nat)
  /-- A task ends with its answer. -/
  | finish (task : Nat)
  /-- A task breaks down. -/
  | lose (task : Nat) (reason : String)
  /-- The collector takes the next end, if its task has ended. -/
  | collect
  deriving DecidableEq, Repr

namespace Pool

/-- What a pool asks its questions of. -/
abbrev Source := Path → Except Fault Status

/-- A pool with a task for each path. -/
def start (paths : List Path) : Pool :=
  { tasks := paths.map .waiting }

/-- The pool after an event. -/
def step (source : Source) (pool : Pool) : PoolEvent → Pool
  | .ask i =>
    match pool.tasks[i]? with
    | some (.waiting p) =>
      let report := QueryReport.ofStatus p (source p)
      { pool with
        tasks := pool.tasks.set i (.answered (.ofReport p report))
        log := pool.log ++ report.log }
    | _ => pool
  | .finish i =>
    match pool.tasks[i]? with
    | some (.answered answer) => { pool with tasks := pool.tasks.set i (.ended answer) }
    | _ => pool
  | .lose i reason =>
    match pool.tasks[i]? with
    | some (.ended _) => pool
    | _ => { pool with tasks := pool.tasks.set i (.ended (.lost reason)) }
  | .collect =>
    match pool.tasks[pool.collected]? with
    | some (.ended outcome) =>
      { pool with
        collected := pool.collected + 1
        gathered := pool.gathered.take outcome
        log := pool.log ++ Gathered.takeRecords outcome }
    | _ => pool

/-- The pool after a list of events. -/
def run (source : Source) (pool : Pool) (events : List PoolEvent) : Pool :=
  events.foldl (step source) pool

/-- Whether all ends were taken. -/
def isDone (pool : Pool) : Bool :=
  pool.collected == pool.tasks.length

/-- One task after the other, each collected as soon as it ends. -/
def inTurn (n : Nat) : List PoolEvent :=
  (List.range n).flatMap fun i => [.ask i, .finish i, .collect]

end Pool

end FileTransfer
