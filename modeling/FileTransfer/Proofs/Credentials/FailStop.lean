import FileTransfer.Proofs.Credentials.Transcript

/-! A cache whose store broke down stops for good, and nothing else does.

`fail_stop` says so of every run of a fleet: a call reaches the store just if no earlier step on its
cache broke the store; from then on calls on this cache are blocked, change nothing and use up no
fault, while its key can still be asked for; and the run without the blocked steps of a cache shows
the same in all its steps and ends in the same fleet. -/
namespace FileTransfer.Fleet

variable {σ : Type} {store : Store σ} {f : Fleet σ} {m : Member} {st : FleetStep}

/-! ### Calls on one cache -/

/-- A step that was blocked changed nothing. -/
theorem step_of_reply_blocked (hf : f.Placed)
    (h : (f.step store st).1.reply = .called .blocked) : (f.step store st).2 = f := by
  cases hm : f.members[st.member]? with
  | none => rw [step_absent hm]
  | some m =>
    cases ha : st.action with
    | keyName => rw [step_keyName hm ha]
    | call r =>
      cases hs : m.cache.stuck with
      | true => rw [step_blocked hf hm ha hs]
      | false =>
        have hp := List.getElem?_eq_getElem (hf.of_getElem? hm)
        rw [step_reached store hm ha hp hs rfl] at h
        cases h

variable (store) in
/-- After any steps the key of a cache can be asked for. -/
theorem Fresh.key_after (hf : f.Fresh) (before : List FleetStep)
    (hm : f.members[st.member]? = some m) (ha : st.action = .keyName) :
    (f.after store before).step store st = (⟨.named m.cache.key, []⟩, f.after store before) := by
  rw [step_keyName (hf.member_after store before hm) ha]

/-- After steps on it that did not break the store a cache makes one store call for each call, and
stays free unless the store breaks down. -/
theorem Fresh.call_reaches (hf : f.Fresh) (before : List FleetStep)
    (hm : f.members[st.member]? = some m) {r : Request} (ha : st.action = .call r)
    (hp : panicked (f.transcript store before) st.member = false) :
    ∃ outcome, ((f.after store before).step store st).1 =
        ⟨.called (.finished outcome), [⟨r, m.cache.key⟩]⟩ ∧
      (Cache.breaks outcome = false →
        ((f.after store before).step store st).2.members = (f.after store before).members) := by
  have hmember := hf.member_after store before hm
  rw [hp] at hmember
  have hslot := List.getElem?_eq_getElem ((hf.placed.after store before).of_getElem? hmember)
  have hstep := step_reached store hmember ha hslot rfl rfl
  refine ⟨_, congrArg Prod.fst hstep, fun hb => ?_⟩
  rw [hstep, hb, Member.hold_false]
  exact set_of_getElem? hmember

/-- Once a step on it broke the store, a cache blocks every call. -/
theorem Fresh.call_blocked (hf : f.Fresh) (before : List FleetStep)
    (hm : f.members[st.member]? = some m) {r : Request} (ha : st.action = .call r)
    (hp : panicked (f.transcript store before) st.member = true) :
    (f.after store before).step store st = (⟨.called .blocked, []⟩, f.after store before) := by
  have hmember := hf.member_after store before hm
  rw [hp] at hmember
  exact step_blocked (hf.placed.after store before) hmember ha rfl

/-! ### Runs without the blocked steps of a cache -/

/-- A run without the blocked steps of a cache: its steps, each with what it showed. -/
def unblocked (i : Nat) (seen : List (FleetStep × Observation)) : List (FleetStep × Observation) :=
  seen.filter fun p => !(p.1.member == i && p.2.reply == .called .blocked)

variable (store) in
/-- The blocked steps of a cache can be left out of a run. -/
theorem transcript_unblocked (hf : f.Placed) (steps : List FleetStep) (i : Nat) :
    f.transcript store ((unblocked i (f.transcript store steps)).map Prod.fst) =
        unblocked i (f.transcript store steps) ∧
      f.after store ((unblocked i (f.transcript store steps)).map Prod.fst) =
        f.after store steps := by
  induction steps generalizing f with
  | nil => exact ⟨rfl, rfl⟩
  | cons st rest ih =>
    obtain ⟨hseen, hafter⟩ := ih (hf.step store st)
    simp only [unblocked] at hseen hafter ⊢
    rw [transcript_cons, List.filter_cons]
    split
    · simp only [List.map_cons, transcript_cons, after_cons, hseen, hafter, and_self]
    · next hb =>
      simp only [Bool.not_eq_true', Bool.not_eq_false, Bool.and_eq_true, beq_iff_eq] at hb
      rw [step_of_reply_blocked hf hb.2] at hseen hafter ⊢
      exact ⟨hseen, by rw [hafter, after_cons, step_of_reply_blocked hf hb.2]⟩

/-- Leaving out the blocked steps of a cache leaves the steps on every other cache. -/
theorem filter_unblocked {i j : Nat} (h : j ≠ i) (seen : List (FleetStep × Observation)) :
    (unblocked i seen).filter (fun p => p.1.member == j) =
      seen.filter fun p => p.1.member == j := by
  rw [unblocked, List.filter_filter]
  refine List.filter_congr fun p _ => ?_
  by_cases hp : p.1.member = j
  · simp [hp, h]
  · simp [hp]

/-- Caches with stores of their own or with shared ones, in any run of steps and with any faults.
Asking for a key shows the key and changes nothing. A call makes one store call if the store never
broke down in an earlier step on its cache, and none otherwise: then it is blocked and leaves the
fleet as it is, whatever fault was laid with it. A call in which the store does not break down
leaves every lock as it was. Without the blocked steps of a cache all other steps show the same. -/
theorem fail_stop (hf : f.Fresh) (store : Store σ) (steps : List FleetStep) :
    (∀ before st o rest, f.transcript store steps = before ++ (st, o) :: rest →
      ∀ m, f.members[st.member]? = some m →
        let g := f.after store (before.map Prod.fst)
        (st.action = .keyName → o = ⟨.named m.cache.key, []⟩ ∧ (g.step store st).2 = g) ∧
        ∀ r, st.action = .call r →
          (o.calls ≠ [] ↔ panicked before st.member = false) ∧
          (panicked before st.member = false →
            (∃ outcome, o = ⟨.called (.finished outcome), [⟨r, m.cache.key⟩]⟩) ∧
              (o.broke = false → (g.step store st).2.members = g.members)) ∧
          (panicked before st.member = true →
            o = ⟨.called .blocked, []⟩ ∧ ∀ fault, g.step store { st with fault } = (o, g))) ∧
    ∀ i,
      let kept := unblocked i (f.transcript store steps)
      f.transcript store (kept.map Prod.fst) = kept ∧
      f.after store (kept.map Prod.fst) = f.after store steps ∧
      ∀ j, j ≠ i → (f.transcript store (kept.map Prod.fst)).filter (fun p => p.1.member == j) =
        (f.transcript store steps).filter fun p => p.1.member == j := by
  constructor
  · intro before st o rest h m hm g
    obtain ⟨hbefore, rfl⟩ := eq_of_transcript_eq h
    refine ⟨fun ha => ?_, fun r ha => ?_⟩
    · have hstep := hf.key_after store (before.map Prod.fst) hm ha
      exact ⟨congrArg Prod.fst hstep, congrArg Prod.snd hstep⟩
    · cases hp : panicked before st.member with
      | false =>
        rw [hbefore] at hp
        obtain ⟨outcome, ho, hkeep⟩ := hf.call_reaches (before.map Prod.fst) hm ha hp
        rw [ho]
        exact ⟨by simp, fun _ => ⟨⟨outcome, rfl⟩, hkeep⟩, fun hc => nomatch hc⟩
      | true =>
        rw [hbefore] at hp
        have hstep := hf.call_blocked (before.map Prod.fst) hm ha hp
        rw [hstep]
        refine ⟨by simp, (fun hc => nomatch hc), fun _ => ⟨rfl, fun fault => ?_⟩⟩
        have hm' : f.members[{ st with fault }.member]? = some m := hm
        exact hf.call_blocked (before.map Prod.fst) hm' ha hp
  · intro i kept
    obtain ⟨hseen, hafter⟩ := transcript_unblocked store hf.placed steps i
    exact ⟨hseen, hafter, fun j hj => by rw [hseen]; exact filter_unblocked hj _⟩

/-- Two caches with one key on one store, which breaks down in a step on the second one: the error
before that was handed back, and the fault after it is never met. -/
theorem fail_stop_shared :
    let f : Fleet MemoryStore := shared ["k", "k"] {}
    let before : List FleetStep :=
      [⟨0, .call (.save {}), none⟩, ⟨1, .call .load, some (.fails .cacheUnavailable)⟩,
        ⟨1, .call .remove, some (.breaks "torn" true)⟩]
    let st : FleetStep := ⟨1, .call .load, some (.breaks "again" false)⟩
    let g := f.after MemoryStore.store before
    f.Fresh ∧ panicked (f.transcript MemoryStore.store before) 1 = true ∧
      ∀ fault, g.step MemoryStore.store { st with fault } = (⟨.called .blocked, []⟩, g) := by
  intro f before st g
  have hf : f.Fresh := fresh_shared _ _
  have hp : panicked (f.transcript MemoryStore.store before) 1 = true := by decide
  have h := (fail_stop hf MemoryStore.store (before ++ [st])).1
    (f.transcript MemoryStore.store before) st ⟨.called .blocked, []⟩ [] rfl ⟨⟨"k", false⟩, 0⟩ rfl
  exact ⟨hf, hp, ((h.2 .load rfl).2.2 hp).2⟩

end FileTransfer.Fleet
