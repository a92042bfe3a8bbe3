import FileTransfer.Credentials.Fleet

/-! Runs of a fleet, step by step, with what each step showed.

`step_keyName`, `step_blocked` and `step_reached` are all that a step on a cache can do: it asks
for the key, it meets a lock that is held for good, or it makes one store call. What a whole run
does to a cache follows: its key and its store stay, and its lock is held for good once the store
broke down in one of its steps (`members_after`). -/
namespace FileTransfer

/-- A member whose lock is held for good from now on, or stays as it is. -/
def Member.hold (m : Member) (broke : Bool) : Member :=
  { m with cache := { m.cache with stuck := m.cache.stuck || broke } }

@[simp] theorem Member.hold_false (m : Member) : m.hold false = m := by
  simp [hold]

@[simp] theorem Member.hold_hold (m : Member) (a b : Bool) :
    (m.hold a).hold b = m.hold (a || b) := by
  simp [hold, Bool.or_assoc]

namespace Fleet

/-- Whether a step showed that the store broke down. -/
def Observation.broke (o : Observation) : Bool :=
  match o.reply with
  | .called (.finished o) => Cache.breaks o
  | _ => false

variable {σ : Type} {store : Store σ} {f : Fleet σ} {m : Member} {st : FleetStep}

/-- Every cache of a fleet has a store. -/
def Placed (f : Fleet σ) : Prop :=
  ∀ m ∈ f.members, m.slot < f.stores.length

/-- A fleet on which nothing was done yet. -/
structure Fresh (f : Fleet σ) : Prop where
  placed : f.Placed
  free : ∀ m ∈ f.members, m.cache.stuck = false

theorem fresh_shared (keys : List String) (s : σ) : (shared keys s).Fresh where
  placed := by
    intro m hm
    obtain ⟨key, _, rfl⟩ := List.mem_map.mp hm
    exact Nat.zero_lt_one
  free := by
    intro m hm
    obtain ⟨key, _, rfl⟩ := List.mem_map.mp hm
    rfl

theorem Placed.of_getElem? (hf : f.Placed) {i : Nat} (hm : f.members[i]? = some m) :
    m.slot < f.stores.length := by
  obtain ⟨hi, rfl⟩ := List.getElem?_eq_some_iff.mp hm
  exact hf _ (List.getElem_mem hi)

/-! ### One step -/

theorem set_of_getElem? {α : Type} {l : List α} {i : Nat} {a : α} (h : l[i]? = some a) :
    l.set i a = l := by
  obtain ⟨hi, rfl⟩ := List.getElem?_eq_some_iff.mp h
  exact List.set_getElem_self hi

theorem step_absent (hm : f.members[st.member]? = none) :
    f.step store st = (⟨.absent, []⟩, f) := by
  simp [step, hm]

theorem step_keyName (hm : f.members[st.member]? = some m) (ha : st.action = .keyName) :
    f.step store st = (⟨.named m.cache.key, []⟩, f) := by
  simp [step, hm, ha]

/-- A call on a cache whose lock is held changes nothing. -/
theorem step_blocked (hf : f.Placed) (hm : f.members[st.member]? = some m) {r : Request}
    (ha : st.action = .call r) (hs : m.cache.stuck = true) :
    f.step store st = (⟨.called .blocked, []⟩, f) := by
  have hp := List.getElem?_eq_getElem (hf.of_getElem? hm)
  simp [step, hm, ha, hp, Cache.perform, hs, set_of_getElem? hm, set_of_getElem? hp]

variable (store) in
/-- A call on any other cache makes one store call, under the key of the cache. -/
theorem step_reached (hm : f.members[st.member]? = some m) {r : Request} {s s' : σ} {o : Outcome}
    (ha : st.action = .call r) (hp : f.stores[m.slot]? = some s) (hs : m.cache.stuck = false)
    (ho : (store.withFault st.fault).perform s m.cache.key r = (o, s')) :
    f.step store st =
      (⟨.called (.finished o), [⟨r, m.cache.key⟩]⟩,
        ⟨f.members.set st.member (m.hold (Cache.breaks o)), f.stores.set m.slot s'⟩) := by
  simp [step, hm, ha, hp, Cache.perform, hs, ho, Member.hold]

/-- What becomes of each cache: nothing, unless the step was its own and the store broke down. -/
theorem members_step (hf : f.Placed) (st : FleetStep) (i : Nat) :
    (f.step store st).2.members[i]? =
      f.members[i]?.map fun m => m.hold (st.member == i && (f.step store st).1.broke) := by
  cases hm : f.members[st.member]? with
  | none => simp [step_absent hm, Observation.broke]
  | some m =>
    cases ha : st.action with
    | keyName => simp [step_keyName hm ha, Observation.broke]
    | call r =>
      cases hs : m.cache.stuck with
      | true => simp [step_blocked hf hm ha hs, Observation.broke]
      | false =>
        have hp := List.getElem?_eq_getElem (hf.of_getElem? hm)
        rw [step_reached store hm ha hp hs rfl]
        by_cases hi : st.member = i
        · subst hi
          obtain ⟨hlt, rfl⟩ := List.getElem?_eq_some_iff.mp hm
          simp [hlt, Observation.broke]
        · have hne : (st.member == i) = false := by simpa using hi
          simp [List.getElem?_set_ne hi, hne]

variable (store) in
theorem stores_step_length (f : Fleet σ) (st : FleetStep) :
    (f.step store st).2.stores.length = f.stores.length := by
  unfold step
  split
  · rfl
  · split
    · rfl
    · split
      · rfl
      · simp

variable (store) in
theorem Placed.step (hf : f.Placed) (st : FleetStep) : (f.step store st).2.Placed := by
  intro m' hm'
  obtain ⟨i, hi⟩ := List.getElem?_of_mem hm'
  rw [members_step hf, Option.map_eq_some_iff] at hi
  obtain ⟨m, hm, rfl⟩ := hi
  rw [stores_step_length]
  exact hf.of_getElem? (m := m) hm

/-! ### Whole runs -/

/-- The fleet after some steps. -/
def after (store : Store σ) (f : Fleet σ) (steps : List FleetStep) : Fleet σ :=
  (f.run store steps).2

/-- The steps of a run, each with what it showed. -/
def transcript (store : Store σ) (f : Fleet σ) (steps : List FleetStep) :
    List (FleetStep × Observation) :=
  steps.zip (f.run store steps).1

@[simp] theorem after_nil : f.after store [] = f := rfl

@[simp] theorem after_cons (st : FleetStep) (rest : List FleetStep) :
    f.after store (st :: rest) = (f.step store st).2.after store rest := rfl

@[simp] theorem transcript_nil : f.transcript store [] = [] := rfl

@[simp] theorem transcript_cons (st : FleetStep) (rest : List FleetStep) :
    f.transcript store (st :: rest) =
      (st, (f.step store st).1) :: (f.step store st).2.transcript store rest := rfl

theorem transcript_append (f : Fleet σ) (a b : List FleetStep) :
    f.transcript store (a ++ b) =
      f.transcript store a ++ (f.after store a).transcript store b := by
  induction a generalizing f with
  | nil => rfl
  | cons st rest ih => simp only [List.cons_append, transcript_cons, after_cons, ih]

variable (store) in
theorem map_fst_transcript (f : Fleet σ) (steps : List FleetStep) :
    (f.transcript store steps).map Prod.fst = steps := by
  induction steps generalizing f with
  | nil => rfl
  | cons st rest ih => simp only [transcript_cons, List.map_cons, ih]

/-- A place in a transcript: the steps before it, and the step that showed it. -/
theorem eq_of_transcript_eq {steps : List FleetStep} {before rest : List (FleetStep × Observation)}
    {o : Observation} (h : f.transcript store steps = before ++ (st, o) :: rest) :
    before = f.transcript store (before.map Prod.fst) ∧
      o = ((f.after store (before.map Prod.fst)).step store st).1 := by
  have hs : steps = before.map Prod.fst ++ st :: rest.map Prod.fst := by
    rw [← map_fst_transcript store f steps, h]
    simp
  rw [hs, transcript_append, transcript_cons] at h
  have hlen : (f.transcript store (before.map Prod.fst)).length = before.length := by
    rw [← List.length_map (f := Prod.fst), map_fst_transcript, List.length_map]
  obtain ⟨hb, hr⟩ := List.append_inj h hlen
  injection hr with hr _
  injection hr with _ ho
  exact ⟨hb.symm, ho.symm⟩

variable (store) in
theorem Placed.after (hf : f.Placed) (steps : List FleetStep) : (f.after store steps).Placed := by
  induction steps generalizing f with
  | nil => exact hf
  | cons st rest ih => exact ih (hf.step store st)

/-- Whether the store broke down in a step on a cache. -/
def panicked (seen : List (FleetStep × Observation)) (i : Nat) : Bool :=
  seen.any fun p => p.1.member == i && p.2.broke

/-- What becomes of each cache in a run: its lock is held for good once the store broke down in one
of its steps, and nothing else changes. -/
theorem members_after (hf : f.Placed) (steps : List FleetStep) (i : Nat) :
    (f.after store steps).members[i]? =
      f.members[i]?.map fun m => m.hold (panicked (f.transcript store steps) i) := by
  induction steps generalizing f with
  | nil => simp [panicked]
  | cons st rest ih =>
    rw [after_cons, ih (hf.step store st), members_step hf, Option.map_map]
    congr 1
    funext m
    simp [panicked, Function.comp]

variable (store) in
/-- In a run that began fresh a lock is held just if the store broke down in a step on its cache. -/
theorem Fresh.member_after (hf : f.Fresh) (steps : List FleetStep) {i : Nat}
    (hm : f.members[i]? = some m) :
    (f.after store steps).members[i]? =
      some ⟨⟨m.cache.key, panicked (f.transcript store steps) i⟩, m.slot⟩ := by
  obtain ⟨hi, rfl⟩ := List.getElem?_eq_some_iff.mp hm
  rw [members_after hf.placed, hm]
  simp [Member.hold, hf.free _ (List.getElem_mem hi)]

end Fleet

end FileTransfer
