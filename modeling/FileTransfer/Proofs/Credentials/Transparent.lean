import FileTransfer.Credentials.Cache

/-! A cache adds nothing to its store but the lock. As long as the store does not break down, calls
on a cache are calls on the store under the key of the cache: `transparent` says so for every store
and all calls, whatever the store answers and however it fails. -/
namespace FileTransfer.Cache

variable {σ : Type} {store : Store σ} {c : Cache} {s : σ}

/-- What each of several calls leads to, first to last. -/
def effects (c : Cache) (store : Store σ) (s : σ) : List Request → List (Effect σ)
  | [] => []
  | r :: rest =>
    let e := c.perform store s r
    e :: effects e.cache store e.state rest

/-! ### One call -/

/-- A call on a free cache is the call of its store. -/
theorem perform_free (hc : c.stuck = false) (r : Request) :
    c.perform store s r =
      ⟨.finished (store.perform s c.key r).1,
        { c with stuck := breaks (store.perform s c.key r).1 },
        (store.perform s c.key r).2, [⟨r, c.key⟩]⟩ := by
  simp [perform, hc]

/-- A call in which the store does not break down leaves the cache as it was. -/
theorem perform_unbroken (hc : c.stuck = false) {r : Request}
    (hr : breaks (store.perform s c.key r).1 = false) :
    c.perform store s r =
      ⟨.finished (store.perform s c.key r).1, c, (store.perform s c.key r).2, [⟨r, c.key⟩]⟩ := by
  rw [perform_free hc, hr, ← hc]

/-! ### Many calls -/

/-- Where the store itself would not break down, a free cache shows what the store shows, stays
free, and leaves the store in the state in which it would be. -/
theorem run_of_unbroken (hc : c.stuck = false) {requests : List Request}
    (h : ∀ o ∈ (store.run s c.key requests).1, breaks o = false) :
    c.run store s requests =
      ((store.run s c.key requests).1.map .finished, c, (store.run s c.key requests).2) := by
  induction requests generalizing s with
  | nil => rfl
  | cons r rest ih =>
    simp only [Store.run, List.forall_mem_cons] at h
    have hrest := ih h.2
    simp only [run, perform_unbroken hc h.1, hrest, Store.run, List.map_cons]

/-- Each call makes one store call, with its own request and the key of the cache, and hands back
the outcome of this call. -/
theorem effects_of_unbroken (hc : c.stuck = false) {requests : List Request}
    (h : ∀ o ∈ (store.run s c.key requests).1, breaks o = false) :
    (c.effects store s requests).map (fun e => (e.outcome, e.calls)) =
      List.zipWith (fun r o => (.finished o, [⟨r, c.key⟩])) requests
        (store.run s c.key requests).1 := by
  induction requests generalizing s with
  | nil => rfl
  | cons r rest ih =>
    simp only [Store.run, List.forall_mem_cons] at h
    have hrest := ih h.2
    simp only [effects, perform_unbroken hc h.1, hrest, Store.run, List.map_cons,
      List.zipWith_cons_cons]

/-- If no call on a free cache breaks the store down, no such call on the store itself does. -/
theorem unbroken_of_run (hc : c.stuck = false) {requests : List Request}
    (h : ∀ o, .finished o ∈ (c.run store s requests).1 → breaks o = false) :
    ∀ o ∈ (store.run s c.key requests).1, breaks o = false := by
  induction requests generalizing s with
  | nil => simp [Store.run]
  | cons r rest ih =>
    have hr : breaks (store.perform s c.key r).1 = false :=
      h _ (by simp [run, perform_free hc])
    have hrest := ih fun o ho => h o (by
      simp only [run, perform_unbroken hc hr, List.mem_cons]
      exact Or.inr ho)
    simp only [Store.run, List.forall_mem_cons]
    exact ⟨hr, hrest⟩

/-- Calls on a new cache and the same calls on its store, for any store. A call breaks the store
down on one side just if one does on the other. If none does, the cache shows what the store shows
and leaves it in the same state, each call makes one store call, with its own request and under the
key of the cache, and the next call is not blocked. -/
theorem transparent (store : Store σ) (s : σ) (options : KeyOptions) (requests : List Request) :
    let cached := (ofKey options).run store s requests
    let direct := store.run s options.name requests
    ((∀ o, .finished o ∈ cached.1 → breaks o = false) ↔ ∀ o ∈ direct.1, breaks o = false) ∧
    ((∀ o ∈ direct.1, breaks o = false) →
      cached.1 = direct.1.map .finished ∧
      cached.2.2 = direct.2 ∧
      ((ofKey options).effects store s requests).map (fun e => (e.outcome, e.calls)) =
        List.zipWith (fun r o => (.finished o, [⟨r, options.name⟩])) requests direct.1 ∧
      ∀ r, (cached.2.1.perform store cached.2.2 r).outcome ≠ .blocked) := by
  intro cached direct
  have hc : (ofKey options).stuck = false := rfl
  have same (h : ∀ o ∈ direct.1, breaks o = false) :
      cached = (direct.1.map .finished, ofKey options, direct.2) :=
    run_of_unbroken hc h
  refine ⟨⟨unbroken_of_run hc, fun h o ho => ?_⟩, fun h => ?_⟩
  · rw [same h, List.mem_map] at ho
    obtain ⟨o', ho', heq⟩ := ho
    cases heq
    exact h _ ho'
  · rw [same h]
    refine ⟨rfl, rfl, effects_of_unbroken hc h, fun r => ?_⟩
    rw [perform_free hc]
    exact nofun

/-- A store that counts its calls and has nothing but errors to give, of any kind. -/
theorem transparent_failing :
    let store : Store Nat := ⟨fun n key r => (match r with
      | .has => .failed .cacheUnavailable
      | .load => .failed (.tokenStoreOver (.tokenStoreOver (.tokenStore key)))
      | _ => .answered (.present true), n + 1)⟩
    let requests : List Request := [.load, .has, .save {}, .load]
    let cached := (ofKey ⟨"k"⟩).run store 0 requests
    (∀ o ∈ (store.run 0 "k" requests).1, breaks o = false) ∧
      cached.1 = (store.run 0 "k" requests).1.map .finished ∧ cached.2.2 = 4 ∧
      ∀ r, (cached.2.1.perform store cached.2.2 r).outcome ≠ .blocked := by
  intro store requests cached
  have hdirect : ∀ o ∈ (store.run 0 "k" requests).1, breaks o = false := by decide
  obtain ⟨houtcomes, hstate, -, hnext⟩ := (transparent store 0 ⟨"k"⟩ requests).2 hdirect
  exact ⟨hdirect, houtcomes, hstate, hnext⟩

end FileTransfer.Cache
