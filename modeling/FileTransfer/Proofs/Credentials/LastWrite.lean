import FileTransfer.Proofs.Credentials.Transcript

/-! Caches on one store in memory: what is found under a key is what was last written there.

A step writes under the key of its cache if the store did its work: the step was not blocked, and
the fault laid with it, if any, comes after the work (`written?`). `load_finds_lastWrite` says of
every run that a load finds what the last of the steps before it wrote under its key, whichever
cache with this key wrote it, and that steps on caches with other keys can be left out. -/
namespace FileTransfer

/-- What a request writes: a token, or the absence of one. -/
def Request.writes? : Request → Option (Option Token)
  | .save t => some (some t)
  | .remove => some none
  | _ => none

/-- Whether the store does its work in a step with a fault. -/
def StoreFault.spares : Option StoreFault → Bool
  | none => true
  | some (.fails _) => false
  | some (.breaks _ after) => after

namespace MemoryStore

theorem get?_erase (m : MemoryStore) (k key : String) :
    (m.erase k).get? key = if k = key then none else m.get? key := by
  obtain ⟨tokens⟩ := m
  simp only [get?, erase]
  induction tokens with
  | nil => simp
  | cons entry rest ih =>
    obtain ⟨k', t⟩ := entry
    by_cases hk : k' = k
    · subst hk
      by_cases hkey : k' = key
      · simpa [hkey] using ih
      · have hne : (key == k') = false := by simpa using Ne.symm hkey
        simpa [hkey, List.lookup_cons, hne] using ih
    · by_cases hkey : key = k'
      · subst hkey
        simp [hk, Ne.symm hk]
      · have hne : (key == k') = false := by simpa using hkey
        simpa [hk, List.lookup_cons, hne] using ih

theorem get?_insert (m : MemoryStore) (k key : String) (t : Token) :
    (m.insert k t).get? key = if k = key then some t else m.get? key := by
  by_cases hk : k = key
  · subst hk
    simp [insert, get?]
  · have hne : (key == k) = false := by simpa using Ne.symm hk
    have herase := get?_erase m k key
    rw [if_neg hk] at herase ⊢
    simp only [get?, insert, List.lookup_cons, hne] at herase ⊢
    exact herase

/-- A request under a key changes what is found under this key, and nothing else. -/
theorem get?_perform (m : MemoryStore) (k key : String) (r : Request) :
    (m.perform k r).2.get? key = if k = key then r.writes?.getD (m.get? key) else m.get? key := by
  cases r with
  | has => simp [perform, Request.writes?]
  | remove => simp [perform, Request.writes?, get?_erase]
  | save t => simp [perform, Request.writes?, get?_insert]
  | load => simp [perform, Request.writes?]

theorem state_withFault (m : MemoryStore) (k : String) (r : Request) (fault : Option StoreFault) :
    ((store.withFault fault).perform m k r).2 =
      if StoreFault.spares fault then (m.perform k r).2 else m := by
  match fault with
  | none => rfl
  | some (.fails _) => rfl
  | some (.breaks _ false) => rfl
  | some (.breaks _ true) => rfl

/-- How a request ends depends on what is found under its key. -/
theorem outcome_congr {m n : MemoryStore} {k : String} (h : m.get? k = n.get? k) (r : Request)
    (fault : Option StoreFault) :
    ((store.withFault fault).perform m k r).1 = ((store.withFault fault).perform n k r).1 := by
  match fault with
  | none => cases r <;> simp [Store.withFault, store, perform, h]
  | some (.fails _) => rfl
  | some (.breaks _ false) => rfl
  | some (.breaks _ true) => rfl

end MemoryStore

namespace Fleet
variable {keys : List String} {m n : MemoryStore} {f g : Fleet MemoryStore}

/-- What a step wrote under a key. -/
def written? (keys : List String) (key : String) (p : FleetStep × Observation) :
    Option (Option Token) :=
  if keys[p.1.member]? = some key ∧ p.2.reply ≠ .called .blocked ∧ StoreFault.spares p.1.fault then
    match p.1.action with
    | .call r => r.writes?
    | .keyName => none
  else none

/-- What was last written under a key. -/
def lastWrite? (keys : List String) (key : String) (seen : List (FleetStep × Observation)) :
    Option (Option Token) :=
  (seen.filterMap (written? keys key)).getLast?

theorem written?_other {key : String} {p : FleetStep × Observation}
    (h : keys[p.1.member]? ≠ some key) : written? keys key p = none := by
  simp [written?, h]

theorem lastWrite?_cons (key : String) (p : FleetStep × Observation)
    (seen : List (FleetStep × Observation)) :
    lastWrite? keys key (p :: seen) = (lastWrite? keys key seen).or (written? keys key p) := by
  unfold lastWrite?
  cases hp : written? keys key p with
  | none => simp [hp]
  | some w =>
    rw [List.filterMap_cons_some hp, List.getLast?_cons]
    cases (seen.filterMap (written? keys key)).getLast? <;> rfl

/-- Caches with these keys on one store with these tokens. -/
structure OnOne (keys : List String) (m : MemoryStore) (f : Fleet MemoryStore) : Prop where
  stores : f.stores = [m]
  keys : ∀ i : Nat, f.members[i]?.map (fun x => x.cache.key) = keys[i]?
  slots : ∀ (i : Nat) x, f.members[i]? = some x → x.slot = 0

theorem onOne_shared (keys : List String) (m : MemoryStore) : OnOne keys m (shared keys m) where
  stores := rfl
  keys := by
    intro i
    simp [shared, Function.comp_def]
  slots := by
    intro i x hx
    simp only [shared, List.getElem?_map, Option.map_eq_some_iff] at hx
    obtain ⟨_, _, rfl⟩ := hx
    rfl

theorem OnOne.placed (h : OnOne keys m f) : f.Placed := by
  intro x hx
  obtain ⟨i, hi⟩ := List.getElem?_of_mem hx
  rw [h.slots i x hi, h.stores]
  exact Nat.zero_lt_one

theorem OnOne.key (h : OnOne keys m f) {i : Nat} {x : Member} (hx : f.members[i]? = some x) :
    keys[i]? = some x.cache.key := by
  rw [← h.keys i, hx]
  rfl

/-- What a step leaves are the same caches on one store. -/
theorem OnOne.of_step (h : OnOne keys m f) (st : FleetStep)
    (hstores : (f.step MemoryStore.store st).2.stores = [n]) :
    OnOne keys n (f.step MemoryStore.store st).2 where
  stores := hstores
  keys := by
    intro i
    rw [← h.keys i, members_step h.placed, Option.map_map]
    rfl
  slots := by
    intro i x hx
    rw [members_step h.placed, Option.map_eq_some_iff] at hx
    obtain ⟨y, hy, rfl⟩ := hx
    exact h.slots i y hy

/-- A call on a free cache is the store's, with the fault that was laid. -/
theorem OnOne.step_free (h : OnOne keys m f) {st : FleetStep} {x : Member}
    (hx : f.members[st.member]? = some x) {r : Request} (ha : st.action = .call r)
    (hs : x.cache.stuck = false) :
    let result := (MemoryStore.store.withFault st.fault).perform m x.cache.key r
    (f.step MemoryStore.store st).1 = ⟨.called (.finished result.1), [⟨r, x.cache.key⟩]⟩ ∧
      (f.step MemoryStore.store st).2.stores = [result.2] := by
  intro result
  have hslot : f.stores[x.slot]? = some m := by
    rw [h.slots _ x hx, h.stores]
    rfl
  rw [step_reached MemoryStore.store hx ha hslot hs rfl, h.slots _ x hx, h.stores]
  exact ⟨rfl, rfl⟩

/-- What one step does to the tokens: what it writes. -/
theorem OnOne.step (h : OnOne keys m f) (st : FleetStep) :
    ∃ m', OnOne keys m' (f.step MemoryStore.store st).2 ∧ ∀ key, m'.get? key =
      (written? keys key (st, (f.step MemoryStore.store st).1)).getD (m.get? key) := by
  -- a step that leaves the fleet as it is writes nothing
  have idle : ∀ o, f.step MemoryStore.store st = (o, f) →
      (∀ key, written? keys key (st, o) = none) →
      ∃ m', OnOne keys m' (f.step MemoryStore.store st).2 ∧ ∀ key, m'.get? key =
        (written? keys key (st, (f.step MemoryStore.store st).1)).getD (m.get? key) := by
    intro o hstep hnone
    rw [hstep]
    exact ⟨m, h, fun key => by rw [hnone key]; rfl⟩
  cases hx : f.members[st.member]? with
  | none =>
    refine idle _ (step_absent hx) fun key => written?_other ?_
    rw [← h.keys st.member, hx]
    exact nofun
  | some x =>
    cases ha : st.action with
    | keyName => exact idle _ (step_keyName hx ha) fun key => by simp [written?, ha]
    | call r =>
      cases hs : x.cache.stuck with
      | true => exact idle _ (step_blocked h.placed hx ha hs) fun key => by simp [written?]
      | false =>
        obtain ⟨hseen, hstores⟩ := h.step_free hx ha hs
        refine ⟨_, h.of_step st hstores, fun key => ?_⟩
        rw [hseen, MemoryStore.state_withFault]
        simp only [written?, h.key hx, ha, Option.some.injEq]
        cases StoreFault.spares st.fault with
        | false => simp
        | true =>
          by_cases hk : x.cache.key = key
          · simp [MemoryStore.get?_perform, hk]
          · simp [MemoryStore.get?_perform, hk]

/-- What a whole run does to the tokens: under each key there is what was last written. -/
theorem OnOne.after (h : OnOne keys m f) (steps : List FleetStep) :
    ∃ m', OnOne keys m' (f.after MemoryStore.store steps) ∧ ∀ key, m'.get? key =
      (lastWrite? keys key (f.transcript MemoryStore.store steps)).getD (m.get? key) := by
  induction steps generalizing f m with
  | nil => exact ⟨m, h, fun key => rfl⟩
  | cons st rest ih =>
    obtain ⟨m₁, h₁, hget₁⟩ := h.step st
    obtain ⟨m', h', hget'⟩ := ih h₁
    refine ⟨m', h', fun key => ?_⟩
    rw [hget', hget₁, transcript_cons, lastWrite?_cons]
    cases lastWrite? keys key
      ((f.step MemoryStore.store st).2.transcript MemoryStore.store rest) <;> rfl

/-! ### Steps with other keys -/

/-- Two fleets that nobody who uses one key can tell apart. -/
structure Alike (keys : List String) (key : String) (f g : Fleet MemoryStore) : Prop where
  found : ∃ m n, OnOne keys m f ∧ OnOne keys n g ∧ m.get? key = n.get? key
  members : ∀ i : Nat, keys[i]? = some key → f.members[i]? = g.members[i]?

variable {key : String} {st : FleetStep}

/-- A step with another key can be left out. -/
theorem Alike.step_other (h : Alike keys key f g) (hk : keys[st.member]? ≠ some key) :
    Alike keys key (f.step MemoryStore.store st).2 g := by
  obtain ⟨m, n, hf, hg, hget⟩ := h.found
  obtain ⟨m', hf', hget'⟩ := hf.step st
  refine ⟨⟨m', n, hf', hg, ?_⟩, fun i hi => ?_⟩
  · rw [hget', written?_other hk]
    exact hget
  · have hne : (st.member == i) = false := by
      rw [beq_eq_false_iff_ne]
      rintro rfl
      exact hk hi
    rw [members_step hf.placed, ← h.members i hi, hne]
    simp

/-- A step with the key shows the same on both sides. -/
theorem Alike.reply_own (h : Alike keys key f g) (hk : keys[st.member]? = some key) :
    (f.step MemoryStore.store st).1 = (g.step MemoryStore.store st).1 := by
  obtain ⟨m, n, hf, hg, hget⟩ := h.found
  have hmembers := h.members _ hk
  cases hx : f.members[st.member]? with
  | none => rw [step_absent hx, step_absent (hmembers ▸ hx)]
  | some x =>
    have hy : g.members[st.member]? = some x := hmembers ▸ hx
    cases ha : st.action with
    | keyName => rw [step_keyName hx ha, step_keyName hy ha]
    | call r =>
      cases hs : x.cache.stuck with
      | true => rw [step_blocked hf.placed hx ha hs, step_blocked hg.placed hy ha hs]
      | false =>
        obtain rfl : x.cache.key = key := Option.some.inj ((hf.key hx).symm.trans hk)
        rw [(hf.step_free hx ha hs).1, (hg.step_free hy ha hs).1, MemoryStore.outcome_congr hget]

/-- A step with the key leaves both sides alike. -/
theorem Alike.step_own (h : Alike keys key f g) (hk : keys[st.member]? = some key) :
    Alike keys key (f.step MemoryStore.store st).2 (g.step MemoryStore.store st).2 := by
  obtain ⟨m, n, hf, hg, hget⟩ := h.found
  obtain ⟨m', hf', hm'⟩ := hf.step st
  obtain ⟨n', hg', hn'⟩ := hg.step st
  refine ⟨⟨m', n', hf', hg', ?_⟩, fun i hi => ?_⟩
  · rw [hm', hn', h.reply_own hk, hget]
  · rw [members_step hf.placed, members_step hg.placed, h.reply_own hk, h.members i hi]

/-- Leaving out every step with another key shows the same in all that stay. -/
theorem Alike.transcript (h : Alike keys key f g) (steps : List FleetStep) :
    g.transcript MemoryStore.store (steps.filter fun st => keys[st.member]? == some key) =
      (f.transcript MemoryStore.store steps).filter
        fun p => keys[p.1.member]? == some key := by
  induction steps generalizing f g with
  | nil => rfl
  | cons st rest ih =>
    by_cases hk : keys[st.member]? = some key
    · have hkeep : (keys[st.member]? == some key) = true := by simp [hk]
      rw [List.filter_cons_of_pos (by exact hkeep), transcript_cons, transcript_cons,
        List.filter_cons_of_pos (by exact hkeep), h.reply_own hk, ih (h.step_own hk)]
    · have hdrop : ¬ (keys[st.member]? == some key) = true := by simp [hk]
      rw [List.filter_cons_of_neg (by exact hdrop), transcript_cons,
        List.filter_cons_of_neg (by exact hdrop), ih (h.step_other hk)]

/-! ### What is found -/

/-- A load or a question for a token that is neither blocked nor faulted, after some steps. -/
theorem OnOne.finds (h : OnOne keys m f) (hk : keys[st.member]? = some key)
    (hfault : st.fault = none)
    (hreply : (f.step MemoryStore.store st).1.reply ≠ .called .blocked) {r : Request}
    (ha : st.action = .call r) :
    (f.step MemoryStore.store st).1.reply =
      .called (.finished (.answered (m.perform key r).1)) := by
  have hx := h.keys st.member
  rw [hk, Option.map_eq_some_iff] at hx
  obtain ⟨x, hx, rfl⟩ := hx
  cases hs : x.cache.stuck with
  | true => rw [step_blocked h.placed hx ha hs] at hreply; exact absurd rfl hreply
  | false => rw [(h.step_free hx ha hs).1, hfault]; rfl

/-- In every run of caches on one store in memory, a load that is neither blocked nor faulted finds
what the last write under its key left there, and a question for a token is answered by whether a
load would find one. Steps with other keys show nothing of themselves: in the run without them all
other steps show the same. -/
theorem load_finds_lastWrite (keys : List String) (steps : List FleetStep) :
    (∀ before st o rest key,
      (shared keys {}).transcript MemoryStore.store steps = before ++ (st, o) :: rest →
      keys[st.member]? = some key → st.fault = none → o.reply ≠ .called .blocked →
        (st.action = .call .load → o.reply =
          .called (.finished (.answered (.token (lastWrite? keys key before).join)))) ∧
        (st.action = .call .has → o.reply =
          .called (.finished (.answered (.present (lastWrite? keys key before).join.isSome))))) ∧
    ∀ key,
      (shared keys {}).transcript MemoryStore.store
          (steps.filter fun st => keys[st.member]? == some key) =
        ((shared keys {}).transcript MemoryStore.store steps).filter
          fun p => keys[p.1.member]? == some key := by
  have hstart := onOne_shared keys {}
  constructor
  · intro before st o rest key h hk hfault hreply
    obtain ⟨hbefore, rfl⟩ := eq_of_transcript_eq h
    obtain ⟨m, hm, hget⟩ := hstart.after (before.map Prod.fst)
    have hfound : m.get? key = (lastWrite? keys key before).join := by
      rw [hget, ← hbefore]
      cases lastWrite? keys key before <;> rfl
    rw [← hfound]
    exact ⟨hm.finds hk hfault hreply, hm.finds hk hfault hreply⟩
  · exact fun key => (Alike.mk ⟨{}, {}, hstart, hstart, rfl⟩ fun i _ => rfl).transcript steps

/-- A save that breaks the store after its work is found by the next cache with the key, and not by
a cache with another one. -/
theorem load_finds_torn_save :
    let t : Token := { access := "a" }
    let steps : List FleetStep :=
      [⟨0, .call (.save t), some (.breaks "torn" true)⟩, ⟨2, .call .remove, none⟩]
    let load : FleetStep := ⟨1, .call .load, none⟩
    let f := shared ["k", "k", "l"] {}
    let before := f.transcript MemoryStore.store steps
    lastWrite? ["k", "k", "l"] "k" before = some (some t) ∧
      ((f.after MemoryStore.store steps).step MemoryStore.store load).1.reply =
        .called (.finished (.answered (.token (some t)))) := by
  intro t steps load f before
  have hlast : lastWrite? ["k", "k", "l"] "k" before = some (some t) := by decide
  have h := (load_finds_lastWrite ["k", "k", "l"] (steps ++ [load])).1 before load _ [] "k"
    rfl rfl rfl (by decide)
  rw [hlast] at h
  exact ⟨hlast, h.1 rfl⟩

end Fleet

end FileTransfer
