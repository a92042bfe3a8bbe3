import FileTransfer.Credentials.Key
import FileTransfer.Credentials.Store
import FileTransfer.Log.Record

/-! A cache of one token: a key, and a lock on the store that is taken for each call. The lock is
given back when the store answers or fails. If the store breaks down the lock is never given
back, so that no later call on this cache reaches a store left half written; and since no lock is
given back after that, none is ever found to be spoiled. -/
namespace FileTransfer

/-- A cache: its key, and whether its lock is held for good. -/
structure Cache where
  key : String
  stuck : Bool := false
  deriving DecidableEq, Repr

/-- A call that reached a store. -/
structure StoreCall where
  request : Request
  key : String
  deriving DecidableEq, Repr

/-- A store call written out. -/
def StoreCall.text (c : StoreCall) : String :=
  c.request.name ++ " " ++ c.key

/-- How a call on a cache ends. -/
inductive CacheOutcome where
  | finished (o : Outcome)
  /-- The lock is held for good, and the caller waits forever. -/
  | blocked
  deriving DecidableEq, Repr

namespace Cache

variable {σ : Type}

/-- A new cache for a key. -/
def ofKey (options : KeyOptions) : Cache :=
  ⟨options.name, false⟩

/-- The record written when a cache is made. -/
def creationRecord (c : Cache) : Log.Record :=
  ⟨.debug, .credentials, "Credential cache created for key " ++ c.key⟩

/-- Whether a store call leaves the lock held. -/
def breaks : Outcome → Bool
  | .broke _ => true
  | _ => false

/-- What a call on a cache leads to. -/
structure Effect (σ : Type) where
  outcome : CacheOutcome
  cache : Cache
  state : σ
  /-- The calls that reached the store. -/
  calls : List StoreCall

/-- A call on a cache: one store call under the cache's key, unless the lock is held for good. -/
def perform (c : Cache) (store : Store σ) (s : σ) (r : Request) : Effect σ :=
  if c.stuck then ⟨.blocked, c, s, []⟩
  else
    let (outcome, s) := store.perform s c.key r
    ⟨.finished outcome, { c with stuck := breaks outcome }, s, [⟨r, c.key⟩]⟩

/-- Several calls one after the other: their outcomes, the cache and the state of the store. -/
def run (c : Cache) (store : Store σ) (s : σ) : List Request → List CacheOutcome × Cache × σ
  | [] => ([], c, s)
  | r :: rest =>
    let e := c.perform store s r
    let (outcomes, c, s) := run e.cache store e.state rest
    (e.outcome :: outcomes, c, s)

end Cache

end FileTransfer
