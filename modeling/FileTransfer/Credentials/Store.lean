import FileTransfer.Credentials.Token
import FileTransfer.Error

/-! Token stores. A store is a machine that takes requests under a key: it answers, fails with an
error, or breaks down. Two stores are given: one keeps tokens in memory, the other stands for a
session keyring and never holds anything. -/
namespace FileTransfer

/-- What a store is asked to do with the token under a key. -/
inductive Request where
  | has
  | remove
  | save (t : Token)
  | load
  deriving DecidableEq, Repr

/-- The name of a request. -/
def Request.name : Request → String
  | .has => "has"
  | .remove => "remove"
  | .save _ => "save"
  | .load => "load"

/-- What a store answers. -/
inductive Answer where
  | present (b : Bool)
  | done
  | token (t : Option Token)
  deriving DecidableEq, Repr

/-- How a call of a store ends. -/
inductive Outcome where
  | answered (a : Answer)
  | failed (e : Error)
  /-- The store broke down and the call never returned. -/
  | broke (reason : String)
  deriving DecidableEq, Repr

/-- A store with states of type `σ`. -/
structure Store (σ : Type) where
  perform : σ → String → Request → Outcome × σ

namespace Store

variable {σ : Type}

/-- Whether a store says that it holds a token. -/
def holds (store : Store σ) (s : σ) (key : String) : Bool :=
  decide ((store.perform s key .has).1 = .answered (.present true))

/-- Of some keys those that a store holds, in order, each once. -/
def held (store : Store σ) (s : σ) (keys : List String) : List String :=
  (keys.eraseDups.filter (store.holds s)).mergeSort fun a b => decide (a ≤ b)

/-- Several requests one after the other under one key: their outcomes, and the state after
them. -/
def run (store : Store σ) (s : σ) (key : String) : List Request → List Outcome × σ
  | [] => ([], s)
  | r :: rest =>
    let (outcome, s) := store.perform s key r
    let (outcomes, s) := store.run s key rest
    (outcome :: outcomes, s)

end Store

/-! ### Tokens in memory -/

/-- Tokens under their keys, each key once. -/
structure MemoryStore where
  tokens : List (String × Token) := []
  deriving DecidableEq, Repr, Inhabited

namespace MemoryStore

/-- The token under a key. -/
def get? (m : MemoryStore) (key : String) : Option Token :=
  m.tokens.lookup key

def erase (m : MemoryStore) (key : String) : MemoryStore :=
  ⟨m.tokens.filter fun entry => entry.1 != key⟩

def insert (m : MemoryStore) (key : String) (t : Token) : MemoryStore :=
  ⟨(key, t) :: (m.erase key).tokens⟩

def size (m : MemoryStore) : Nat :=
  m.tokens.length

/-- A store in memory always answers. -/
def perform (m : MemoryStore) (key : String) : Request → Answer × MemoryStore
  | .has => (.present (m.get? key).isSome, m)
  | .remove => (.done, m.erase key)
  | .save t => (.done, m.insert key t)
  | .load => (.token (m.get? key), m)

def outline (m : MemoryStore) : Text.Outline :=
  .record "MemoryStore" [("tokens", .map (m.tokens.map fun entry => (entry.1, entry.2.outline)))]

/-- The store whose states are tokens in memory. -/
def store : Store MemoryStore where
  perform m key r := let (a, m) := m.perform key r; (.answered a, m)

end MemoryStore

/-! ### The session keyring -/

/-- The state of a session keyring: whether its permissions were set. Nothing ever sets them. -/
structure SessionKeyring where
  permissionsSet : Bool := false
  deriving DecidableEq, Repr, Inhabited

namespace SessionKeyring

/-- Every request is granted, and nothing is ever found. -/
def answer : Request → Answer
  | .has => .present false
  | .remove => .done
  | .save _ => .done
  | .load => .token none

def outline (k : SessionKeyring) : Text.Outline :=
  .record "SessionKeyring" [("is_perm_set", .bool k.permissionsSet)]

/-- The store that forgets everything. -/
def store : Store SessionKeyring where
  perform k _ r := (.answered (answer r), k)

end SessionKeyring

end FileTransfer
