import FileTransfer.Credentials.Cache

/-! Several caches over several stores, which they may share. Steps are taken on one cache at a
time; with a step a fault may be laid in wait, which hits the store call that the step makes, if
it makes one. -/
namespace FileTransfer

/-- What a store is made to do in place of its work, or after it. -/
inductive StoreFault where
  /-- Fail without doing the work. -/
  | fails (e : Error)
  /-- Break down before the work, or after it. -/
  | breaks (reason : String) (after : Bool)
  deriving DecidableEq, Repr

namespace Store

variable {σ : Type}

/-- The store with a fault laid on its next call. -/
def withFault (store : Store σ) : Option StoreFault → Store σ
  | none => store
  | some (.fails e) => ⟨fun s _ _ => (.failed e, s)⟩
  | some (.breaks reason false) => ⟨fun s _ _ => (.broke reason, s)⟩
  | some (.breaks reason true) => ⟨fun s key r => (.broke reason, (store.perform s key r).2)⟩

end Store

/-- A cache and the number of the store it uses. -/
structure Member where
  cache : Cache
  slot : Nat
  deriving DecidableEq, Repr

/-- Caches and the states of their stores. -/
structure Fleet (σ : Type) where
  members : List Member
  stores : List σ

/-- What is asked of a cache. -/
inductive CacheAction where
  | call (r : Request)
  /-- The name of its key, for which no lock is needed. -/
  | keyName
  deriving DecidableEq, Repr

/-- A step on one cache of a fleet. -/
structure FleetStep where
  member : Nat
  action : CacheAction
  fault : Option StoreFault := none
  deriving DecidableEq, Repr

/-- How a step ends. -/
inductive Reply where
  | called (o : CacheOutcome)
  | named (key : String)
  /-- There is no such cache. -/
  | absent
  deriving DecidableEq, Repr

namespace Fleet

variable {σ : Type}

/-- Caches on one store. -/
def shared (keys : List String) (s : σ) : Fleet σ :=
  ⟨keys.map fun key => ⟨⟨key, false⟩, 0⟩, [s]⟩

/-- Caches each with a store of its own. -/
def separate (keys : List String) (s : σ) : Fleet σ :=
  ⟨keys.zipIdx.map fun (key, i) => ⟨⟨key, false⟩, i⟩, keys.map fun _ => s⟩

/-- What a step shows: its reply, and the calls that reached a store. -/
structure Observation where
  reply : Reply
  calls : List StoreCall
  deriving DecidableEq, Repr

/-- One step. A fault that meets no store call is dropped. -/
def step (store : Store σ) (f : Fleet σ) (step : FleetStep) : Observation × Fleet σ :=
  match f.members[step.member]? with
  | none => (⟨.absent, []⟩, f)
  | some m =>
    match step.action with
    | .keyName => (⟨.named m.cache.key, []⟩, f)
    | .call r =>
      match f.stores[m.slot]? with
      | none => (⟨.absent, []⟩, f)
      | some s =>
        let e := m.cache.perform (store.withFault step.fault) s r
        (⟨.called e.outcome, e.calls⟩,
          ⟨f.members.set step.member { m with cache := e.cache }, f.stores.set m.slot e.state⟩)

/-- A run of steps: what each shows, and the fleet after them. -/
def run (store : Store σ) (f : Fleet σ) : List FleetStep → List Observation × Fleet σ
  | [] => ([], f)
  | s :: rest =>
    let (seen, f) := f.step store s
    let (more, f) := run store f rest
    (seen :: more, f)

/-- The records written when the caches of a fleet are made. -/
def creationRecords (f : Fleet σ) : List Log.Record :=
  f.members.map fun m => m.cache.creationRecord

end Fleet

end FileTransfer
