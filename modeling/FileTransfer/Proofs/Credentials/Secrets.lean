import FileTransfer.Credentials.Fleet

/-! The secrets of a token can be had from a load and nowhere else.

A veil over the secrets of a token (`Token.veiled`) is carried to requests, answers, steps and whole
stores. A store that acts on veiled tokens as it does on the tokens themselves, and that shows the
same under the veil, is discreet (`Discreet`), and what a run on it shows is what the veiled run
shows. So two runs that are the same under the veil show the same: `secrets_hidden` says so of tokens
in memory and of the session keyring, called directly or through caches. -/
namespace FileTransfer

/-! ### The veil -/

/-- The token with both secrets covered. -/
def Token.veiled (t : Token) : Token :=
  { t with access := redacted, refresh := redacted }

def Request.veiled : Request → Request
  | .save t => .save t.veiled
  | r => r

def Answer.veiled : Answer → Answer
  | .token t => .token (t.map Token.veiled)
  | a => a

def Outcome.veiled : Outcome → Outcome
  | .answered a => .answered a.veiled
  | o => o

def CacheOutcome.veiled : CacheOutcome → CacheOutcome
  | .finished o => .finished o.veiled
  | .blocked => .blocked

def Reply.veiled : Reply → Reply
  | .called o => .called o.veiled
  | r => r

def StoreCall.veiled (c : StoreCall) : StoreCall :=
  { c with request := c.request.veiled }

def CacheAction.veiled : CacheAction → CacheAction
  | .call r => .call r.veiled
  | .keyName => .keyName

/-- The step with the secrets covered of the token that it saves, if it saves one. -/
def FleetStep.veiled (st : FleetStep) : FleetStep :=
  { st with action := st.action.veiled }

/-- Under the veil tokens are the same if they agree in all but their secrets. -/
theorem Token.veiled_eq_iff {t u : Token} :
    t.veiled = u.veiled ↔ t.expiresOn = u.expiresOn ∧ t.type = u.type ∧ t.tenant = u.tenant ∧
      t.directory = u.directory := by
  simp [veiled]

theorem Token.veiled_veiled (t : Token) : t.veiled.veiled = t.veiled := rfl

theorem Token.outline_veiled (t : Token) : t.veiled.outline = t.outline := rfl

theorem Answer.veiled_veiled (a : Answer) : a.veiled.veiled = a.veiled := by
  cases a with
  | token t => cases t <;> simp [veiled, Token.veiled_veiled]
  | present b => rfl
  | done => rfl

theorem Outcome.veiled_veiled (o : Outcome) : o.veiled.veiled = o.veiled := by
  cases o with
  | answered a => simp [veiled, Answer.veiled_veiled]
  | failed e => rfl
  | broke reason => rfl

theorem Reply.veiled_veiled (r : Reply) : r.veiled.veiled = r.veiled := by
  cases r with
  | called o =>
    cases o with
    | finished o => simp [veiled, CacheOutcome.veiled, Outcome.veiled_veiled]
    | blocked => rfl
  | named key => rfl
  | absent => rfl

theorem Cache.breaks_veiled (o : Outcome) : Cache.breaks o.veiled = Cache.breaks o := by
  cases o <;> rfl

theorem StoreCall.text_veiled (c : StoreCall) : c.veiled.text = c.text := by
  obtain ⟨r, key⟩ := c
  cases r <;> rfl

/-! ### What can be seen -/

/-- What can be seen of a store: which of some keys it holds, and its diagnostic text on one line and
over several lines, if it has one text. -/
structure Sight where
  held : List String
  texts : Option (String × String)
  deriving DecidableEq, Repr

/-- Tokens in memory are shown in no fixed order, so that only at most one token has one text. -/
def MemoryStore.sight (keys : List String) (m : MemoryStore) : Sight where
  held := store.held m keys
  texts := if m.size ≤ 1 then some (m.outline.line, m.outline.pretty) else none

def SessionKeyring.sight (keys : List String) (k : SessionKeyring) : Sight where
  held := store.held k keys
  texts := some (k.outline.line, k.outline.pretty)

/-- What direct calls of a store show, one after the other: how each ends, the secrets of a loaded
token apart, and the store after it. -/
def Store.watch {σ : Type} (store : Store σ) (look : σ → Sight) (s : σ) :
    List StoreCall → List (Outcome × Sight)
  | [] => []
  | c :: rest =>
    let (o, s) := store.perform s c.key c.request
    (o.veiled, look s) :: store.watch look s rest

namespace Fleet
variable {σ : Type}

/-- What a step shows: the reply, the secrets of a loaded token apart, the store calls with their keys,
and the stores after it. -/
structure Glimpse where
  reply : Reply
  calls : List String
  stores : List Sight
  deriving DecidableEq, Repr

/-- What the steps of a run show, one after the other. -/
def watch (store : Store σ) (look : σ → Sight) (f : Fleet σ) : List FleetStep → List Glimpse
  | [] => []
  | st :: rest =>
    let (o, f) := f.step store st
    ⟨o.reply.veiled, o.calls.map StoreCall.text, f.stores.map look⟩ :: watch store look f rest

/-- All that a run shows: its log, which are the records written when its caches were made, and its
steps. Calls of caches and of stores log nothing, so no step adds to the log. -/
structure Account where
  records : List Log.Record
  glimpses : List Glimpse
  deriving DecidableEq, Repr

def account (store : Store σ) (look : σ → Sight) (f : Fleet σ) (steps : List FleetStep) : Account :=
  ⟨f.creationRecords, f.watch store look steps⟩

/-- The fleet with its stores under a cover. -/
def covered (cover : σ → σ) (f : Fleet σ) : Fleet σ :=
  { f with stores := f.stores.map cover }

end Fleet

/-! ### Discreet stores -/

section
variable {σ : Type} {store : Store σ} {cover : σ → σ} {look : σ → Sight}

/-- A store that acts on veiled tokens as it does on the tokens, with the cover that this puts over
its states, and that shows the same under the cover. -/
structure Discreet (store : Store σ) (cover : σ → σ) (look : σ → Sight) : Prop where
  perform : ∀ s key r, store.perform (cover s) key r.veiled =
    ((store.perform s key r).1.veiled, cover (store.perform s key r).2)
  sight : ∀ s, look (cover s) = look s

namespace Discreet

theorem withFault (h : Discreet store cover look) (fault : Option StoreFault) :
    Discreet (store.withFault fault) cover look where
  perform s key r := by
    match fault with
    | none => exact h.perform s key r
    | some (.fails e) => rfl
    | some (.breaks reason false) => rfl
    | some (.breaks reason true) =>
      simp only [Store.withFault, h.perform]
      rfl
  sight := h.sight

/-- A veiled call shows the call under the veil. -/
theorem cachePerform (h : Discreet store cover look) (c : Cache) (s : σ) (r : Request) :
    c.perform store (cover s) r.veiled =
      let e := c.perform store s r
      ⟨e.outcome.veiled, e.cache, cover e.state, e.calls.map StoreCall.veiled⟩ := by
  cases hc : c.stuck with
  | true => simp [Cache.perform, hc, CacheOutcome.veiled]
  | false =>
    simp [Cache.perform, hc, h.perform, Cache.breaks_veiled, CacheOutcome.veiled, StoreCall.veiled]

/-- A veiled step shows the step under the veil. -/
theorem step (h : Discreet store cover look) (f : Fleet σ) (st : FleetStep) :
    (f.covered cover).step store st.veiled =
      let (o, g) := f.step store st
      (⟨o.reply.veiled, o.calls.map StoreCall.veiled⟩, g.covered cover) := by
  unfold Fleet.step
  simp only [Fleet.covered, FleetStep.veiled]
  cases f.members[st.member]? with
  | none => rfl
  | some m =>
    cases st.action with
    | keyName => rfl
    | call r =>
      simp only [CacheAction.veiled, List.getElem?_map]
      cases f.stores[m.slot]? with
      | none => rfl
      | some s =>
        simp only [Option.map_some, (h.withFault st.fault).cachePerform, List.map_set]
        rfl

/-- A veiled run shows what the run shows. -/
theorem watch (h : Discreet store cover look) (f : Fleet σ) (steps : List FleetStep) :
    (f.covered cover).watch store look (steps.map FleetStep.veiled) = f.watch store look steps := by
  induction steps generalizing f with
  | nil => rfl
  | cons st rest ih =>
    have hstores (g : Fleet σ) : (g.covered cover).stores.map look = g.stores.map look := by
      simp [Fleet.covered, Function.comp_def, h.sight]
    have hcalls (calls : List StoreCall) :
        (calls.map StoreCall.veiled).map StoreCall.text = calls.map StoreCall.text := by
      simp [Function.comp_def, StoreCall.text_veiled]
    simp only [List.map_cons, Fleet.watch, h.step, Reply.veiled_veiled, hcalls, hstores, ih]

/-- Runs that are the same under the veil show the same. -/
theorem account_congr (h : Discreet store cover look) (f : Fleet σ) {steps steps' : List FleetStep}
    (hs : steps.map FleetStep.veiled = steps'.map FleetStep.veiled) :
    f.account store look steps = f.account store look steps' := by
  have hwatch : f.watch store look steps = f.watch store look steps' := by
    rw [← h.watch f steps, hs, h.watch f steps']
  rw [Fleet.account, Fleet.account, hwatch]

/-- Veiled direct calls show what the calls show. -/
theorem storeWatch (h : Discreet store cover look) (s : σ) (calls : List StoreCall) :
    store.watch look (cover s) (calls.map StoreCall.veiled) = store.watch look s calls := by
  induction calls generalizing s with
  | nil => rfl
  | cons c rest ih =>
    have hc : store.perform (cover s) c.veiled.key c.veiled.request =
        ((store.perform s c.key c.request).1.veiled, cover (store.perform s c.key c.request).2) :=
      h.perform s c.key c.request
    simp only [List.map_cons, Store.watch, hc, Outcome.veiled_veiled, h.sight, ih]

/-- Direct calls that are the same under the veil show the same. -/
theorem storeWatch_congr (h : Discreet store cover look) (s : σ) {calls calls' : List StoreCall}
    (hc : calls.map StoreCall.veiled = calls'.map StoreCall.veiled) :
    store.watch look s calls = store.watch look s calls' := by
  rw [← h.storeWatch s calls, hc, h.storeWatch s calls']

end Discreet

end

/-! ### Tokens in memory -/

namespace MemoryStore

/-- The store with the secrets of all its tokens covered. -/
def veiled (m : MemoryStore) : MemoryStore :=
  ⟨m.tokens.map fun entry => (entry.1, entry.2.veiled)⟩

theorem get?_veiled (m : MemoryStore) (key : String) :
    m.veiled.get? key = (m.get? key).map Token.veiled := by
  obtain ⟨tokens⟩ := m
  simp only [get?, veiled]
  induction tokens with
  | nil => rfl
  | cons entry rest ih =>
    obtain ⟨k, t⟩ := entry
    cases hk : key == k with
    | true => simp [List.lookup_cons, hk]
    | false => simpa [List.lookup_cons, hk] using ih

theorem erase_veiled (m : MemoryStore) (key : String) :
    m.veiled.erase key = (m.erase key).veiled := by
  simp [erase, veiled, List.filter_map, Function.comp_def]

theorem insert_veiled (m : MemoryStore) (key : String) (t : Token) :
    m.veiled.insert key t.veiled = (m.insert key t).veiled := by
  rw [insert, erase_veiled]
  rfl

theorem outline_veiled (m : MemoryStore) : m.veiled.outline = m.outline := by
  simp [outline, veiled, Token.outline_veiled]

theorem perform_veiled (m : MemoryStore) (key : String) (r : Request) :
    m.veiled.perform key r.veiled = ((m.perform key r).1.veiled, (m.perform key r).2.veiled) := by
  cases r with
  | has => simp [perform, Request.veiled, Answer.veiled, get?_veiled]
  | remove => simp [perform, Request.veiled, Answer.veiled, erase_veiled]
  | save t => simp [perform, Request.veiled, Answer.veiled, insert_veiled]
  | load => simp [perform, Request.veiled, Answer.veiled, get?_veiled]

theorem holds_veiled (m : MemoryStore) (key : String) : store.holds m.veiled key = store.holds m key := by
  simp [Store.holds, store, perform, get?_veiled]

theorem sight_veiled (keys : List String) (m : MemoryStore) : m.veiled.sight keys = m.sight keys := by
  have hheld : store.held m.veiled keys = store.held m keys := by
    rw [Store.held, Store.held, funext (holds_veiled m)]
  have hsize : m.veiled.size = m.size := List.length_map ..
  simp only [sight, hheld, hsize, outline_veiled]

/-- A store in memory is discreet. -/
theorem discreet (keys : List String) : Discreet store veiled (sight keys) where
  perform m key r := by
    simp only [store, perform_veiled]
    rfl
  sight := sight_veiled keys

end MemoryStore

/-! ### The session keyring -/

/-- A session keyring is discreet: it takes no notice of tokens. -/
theorem SessionKeyring.discreet (keys : List String) : Discreet store id (sight keys) where
  perform k key r := by cases r <;> rfl
  sight k := rfl

/-! ### Two runs -/

/-- Tokens have the same diagnostic texts if they differ only in their secrets. Two runs of the same
steps on the same caches, or of the same direct calls, whose saved tokens differ only in their
secrets, show the same: all replies, the tokens found by loads with their secrets apart, errors,
breakdowns and blocked calls, the store calls, and after each step the keys that are held and the
texts of the stores. The log of a run holds what was logged when its caches were made, before any
token was there: calls log nothing. -/
theorem secrets_hidden :
    (∀ t u : Token,
      (t.veiled = u.veiled ↔ t.expiresOn = u.expiresOn ∧ t.type = u.type ∧ t.tenant = u.tenant ∧
        t.directory = u.directory) ∧
      (t.veiled = u.veiled →
        t.outline.line = u.outline.line ∧ t.outline.pretty = u.outline.pretty)) ∧
    (∀ (keys : List String) (steps steps' : List FleetStep),
      steps.map FleetStep.veiled = steps'.map FleetStep.veiled →
      (∀ f : Fleet MemoryStore, f.account MemoryStore.store (MemoryStore.sight keys) steps =
        f.account MemoryStore.store (MemoryStore.sight keys) steps') ∧
      (∀ f : Fleet SessionKeyring, f.account SessionKeyring.store (SessionKeyring.sight keys) steps =
        f.account SessionKeyring.store (SessionKeyring.sight keys) steps')) ∧
    (∀ (keys : List String) (calls calls' : List StoreCall),
      calls.map StoreCall.veiled = calls'.map StoreCall.veiled →
      (∀ m, MemoryStore.store.watch (MemoryStore.sight keys) m calls =
        MemoryStore.store.watch (MemoryStore.sight keys) m calls') ∧
      (∀ k, SessionKeyring.store.watch (SessionKeyring.sight keys) k calls =
        SessionKeyring.store.watch (SessionKeyring.sight keys) k calls')) := by
  refine ⟨fun t u => ⟨Token.veiled_eq_iff, fun h => ?_⟩, fun keys steps steps' h => ?_,
    fun keys calls calls' h => ?_⟩
  · rw [← t.outline_veiled, h, u.outline_veiled]
    exact ⟨rfl, rfl⟩
  · exact ⟨fun f => (MemoryStore.discreet keys).account_congr f h,
      fun f => (SessionKeyring.discreet keys).account_congr f h⟩
  · exact ⟨fun m => (MemoryStore.discreet keys).storeWatch_congr m h,
      fun k => (SessionKeyring.discreet keys).storeWatch_congr k h⟩

/-- Two caches with one key on one store, and a store called directly. Another secret is saved in each
run, found by a load, and left behind when the store breaks down. -/
theorem secrets_hidden_shared :
    let steps (t : Token) : List FleetStep :=
      [⟨0, .call (.save t), none⟩, ⟨1, .call .load, none⟩,
        ⟨1, .call (.save t), some (.breaks "torn" true)⟩, ⟨1, .call .load, none⟩,
        ⟨0, .call .has, some (.fails .cacheUnavailable)⟩, ⟨1, .keyName, none⟩]
    let calls (t : Token) : List StoreCall := [⟨.save t, "k"⟩, ⟨.load, "k"⟩, ⟨.remove, "k"⟩]
    let t : Token := { access := "a", tenant := "x" }
    let u : Token := { access := "b", refresh := "c", tenant := "x" }
    let f : Fleet MemoryStore := .shared ["k", "k"] {}
    let look := MemoryStore.sight ["k"]
    t ≠ u ∧ t.outline.line = u.outline.line ∧
      (steps t).map FleetStep.veiled = (steps u).map FleetStep.veiled ∧
      f.account MemoryStore.store look (steps t) = f.account MemoryStore.store look (steps u) ∧
      (calls t).map StoreCall.veiled = (calls u).map StoreCall.veiled ∧
      MemoryStore.store.watch look {} (calls t) = MemoryStore.store.watch look {} (calls u) := by
  intro steps calls t u f look
  have htoken : t.veiled = u.veiled := rfl
  have hsteps : (steps t).map FleetStep.veiled = (steps u).map FleetStep.veiled := rfl
  have hcalls : (calls t).map StoreCall.veiled = (calls u).map StoreCall.veiled := rfl
  obtain ⟨htokens, hfleets, hstores⟩ := secrets_hidden
  exact ⟨by decide, ((htokens t u).2 htoken).1, hsteps,
    (hfleets ["k"] (steps t) (steps u) hsteps).1 f, hcalls,
    (hstores ["k"] (calls t) (calls u) hcalls).1 {}⟩

end FileTransfer
