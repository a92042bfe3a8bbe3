import FileTransfer.Proofs.Command.Inert
import Mathlib.Data.List.Chain

/-! What is behind an error, and how its text tells it.

An error has a cause unless a cache was unavailable, and its text ends in the text of its cause
(`Error.tells_of_cause?`). The cause may be an error with a cause of its own; so the causes of an
error form a chain (`Error.causes`), and each text in it ends in all the texts after it
(`Error.chain_causes`). What the command prints for a path that failed ends in the text of its cause
as well (`Error.causes_told`). -/
namespace FileTransfer
namespace Error

/-- The cause of a cause. Only an error may have one. -/
def Cause.cause? : Cause → Option Cause
  | .fault _ => none
  | .reason _ => none
  | .error e => e.cause?

/-- What is behind an error, the nearest first. -/
def causes : Error → List Cause
  | .tokenStoreOver cause => .error cause :: cause.causes
  | e => e.cause?.toList

/-- A text that ends in a colon and the text of a cause. -/
def Tells (text : String) (c : Cause) : Prop :=
  ∃ before, text = before ++ ": " ++ c.message

theorem Tells.trans {text : String} {c d : Cause} (h : Tells text c) (h' : Tells c.message d) :
    Tells text d := by
  obtain ⟨before, rfl⟩ := h
  obtain ⟨between, hbetween⟩ := h'
  refine ⟨before ++ ": " ++ between, ?_⟩
  rw [hbetween]
  simp only [String.append_assoc]

/-! ### One step -/

theorem cause?_eq_none_iff {e : Error} : e.cause? = none ↔ e = .cacheUnavailable := by
  cases e <;> simp [cause?]

theorem tells_of_cause? {e : Error} {c : Cause} (h : e.cause? = some c) : Tells e.message c := by
  -- where the colon stands in one literal with what comes before it
  have hfailed : ") failed: " = ") failed" ++ ": " := by decide
  have hbytes : " bytes: " = " bytes" ++ ": " := by decide
  have hstore : "token store error: " = "token store error" ++ ": " := by decide
  cases e with
  | fileStat path cause =>
    obtain rfl := Option.some.inj h
    refine ⟨"stat(" ++ path.shown ++ ") failed", ?_⟩
    show "stat(" ++ path.shown ++ ") failed: " ++ cause.message = _
    simp only [hfailed, String.append_assoc]
    rfl
  | directoryCreation path cause =>
    obtain rfl := Option.some.inj h
    exact ⟨"failed to create directory " ++ path.shown, rfl⟩
  | fileOpen path cause =>
    obtain rfl := Option.some.inj h
    exact ⟨"failed to open " ++ path.shown, rfl⟩
  | fileResize path size cause =>
    obtain rfl := Option.some.inj h
    refine ⟨"failed to resize " ++ path.shown ++ " to " ++ Text.Numeral.int size.toInt ++ " bytes",
      ?_⟩
    show "failed to resize " ++ path.shown ++ " to " ++ Text.Numeral.int size.toInt ++ " bytes: " ++
      cause.message = _
    simp only [hbytes, String.append_assoc]
    rfl
  | tokenStore reason =>
    obtain rfl := Option.some.inj h
    exact ⟨"token store error", congrArg (· ++ reason) hstore⟩
  | tokenStoreOver cause =>
    obtain rfl := Option.some.inj h
    exact ⟨"token store error", congrArg (· ++ cause.message) hstore⟩
  | cacheUnavailable => cases h

theorem Cause.tells_of_cause? {c d : Cause} (h : c.cause? = some d) : Tells c.message d := by
  cases c with
  | fault | reason => cases h
  | error e => exact Error.tells_of_cause? h

/-! ### The chain -/

/-- A chain of causes, each the cause of the one before it, up to one that has none. Each text in it
ends in the text of every later one. -/
structure Chain (chain : List Cause) : Prop where
  linked : chain.IsChain fun c d => c.cause? = some d
  told : chain.Pairwise fun c d => Tells c.message d
  ended : ∀ c ∈ chain.getLast?, c.cause? = none

theorem linked_causes (e : Error) :
    (Cause.error e :: e.causes).IsChain fun c d => c.cause? = some d := by
  induction e with
  | tokenStoreOver cause ih => exact .cons_cons rfl ih
  | cacheUnavailable => exact .singleton _
  | fileStat | directoryCreation | fileOpen | fileResize | tokenStore =>
    exact .cons_cons rfl (.singleton _)

theorem told_causes (e : Error) :
    (Cause.error e :: e.causes).Pairwise fun c d => Tells c.message d := by
  have hsteps := e.linked_causes.imp fun _ _ => Cause.tells_of_cause?
  have : Trans (fun c d : Cause => Tells c.message d) (fun c d => Tells c.message d)
    (fun c d => Tells c.message d) := ⟨Tells.trans⟩
  exact hsteps.pairwise

theorem ended_causes (e : Error) :
    ∀ c ∈ (Cause.error e :: e.causes).getLast?, c.cause? = none := by
  induction e with
  | tokenStoreOver cause ih =>
    rw [causes, List.getLast?_cons_cons]
    exact ih
  | cacheUnavailable | fileStat | directoryCreation | fileOpen | fileResize | tokenStore =>
    rintro c ⟨⟩
    rfl

theorem chain_causes (e : Error) : Chain (.error e :: e.causes) where
  linked := e.linked_causes
  told := e.told_causes
  ended := e.ended_causes

theorem head?_causes (e : Error) : e.causes.head? = e.cause? := by
  cases e <;> rfl

/-- The innermost cause of an error ends the text of the error. -/
theorem exists_innermost {e : Error} (h : e ≠ .cacheUnavailable) :
    ∃ c ∈ e.causes.getLast?, c.cause? = none ∧ Tells e.message c := by
  have hchain := chain_causes e
  cases hcauses : e.causes with
  | nil =>
    have hnone : e.cause? = none := by rw [← head?_causes, hcauses, List.head?_nil]
    exact absurd (cause?_eq_none_iff.mp hnone) h
  | cons c causes =>
    rw [hcauses] at hchain
    have hlast := List.getLast?_eq_some_getLast (List.cons_ne_nil c causes)
    have hended := hchain.ended
    rw [List.getLast?_cons_cons] at hended
    exact ⟨_, hlast, hended _ hlast, (List.pairwise_cons.mp hchain.told).1 _ (List.getLast_mem _)⟩

end Error

/-! ### What the command prints -/

theorem Invocation.errors_runWith {i : Invocation} {source : Pool.Source} {events : List PoolEvent}
    (hpaths : i.paths ≠ []) (h : Pool.Completes source i.paths events) :
    (i.runWith source events).errors = i.paths.filterMap (Pool.errorFor source) := by
  rw [i.runWith_of_paths hpaths, printed, (Pool.run_of_isDone h.unbroken h.done).1]

theorem Pool.errorFor_eq_some_iff {source : Source} {p : Path} {text : String} :
    errorFor source p = some text ↔
      ∃ cause, source p = .error cause ∧ (Error.fileStat p cause).message = text := by
  cases h : source p <;> simp [errorFor, h]

/-- An error has a cause unless a cache was unavailable. Its text ends in the text of its cause, and
so does the text of each cause in the chain behind it, so that it ends in the text of the innermost
one. Each text that the command prints is that of an error about a path that failed, and ends in the
text of the failure. -/
theorem Error.causes_told :
    (∀ e : Error, e.cause? = none ↔ e = .cacheUnavailable) ∧
    (∀ (e : Error) (c : Cause), e.cause? = some c → Tells e.message c) ∧
    (∀ e : Error, Chain (.error e :: e.causes)) ∧
    (∀ e : Error, e ≠ .cacheUnavailable →
      ∃ c ∈ e.causes.getLast?, c.cause? = none ∧ Tells e.message c) ∧
    ∀ (i : Invocation) (source : Pool.Source) (events : List PoolEvent), i.paths ≠ [] →
      Pool.Completes source i.paths events →
      ∀ text ∈ (i.runWith source events).errors, ∃ p ∈ i.paths, ∃ cause,
        source p = .error cause ∧ text = (fileStat p cause).message ∧
          Tells text (.fault cause) := by
  refine ⟨fun e => cause?_eq_none_iff, fun e c => tells_of_cause?, chain_causes,
    fun e => exists_innermost, ?_⟩
  intro i source events hpaths hcompletes text htext
  rw [Invocation.errors_runWith hpaths hcompletes] at htext
  obtain ⟨p, hp, herror⟩ := List.mem_filterMap.mp htext
  obtain ⟨cause, hcause, rfl⟩ := Pool.errorFor_eq_some_iff.mp herror
  exact ⟨p, hp, cause, hcause, rfl, tells_of_cause? rfl⟩

/-- An error about a path that is no text, inside two errors of stores, and a call of the command
that fails with it. -/
theorem Error.causes_told_nested :
    let p : Path := ⟨[0x61, 0xFF]⟩
    let cause : Fault := .os .noEntry
    let inner : Error := .fileStat p cause
    let e : Error := .tokenStoreOver (.tokenStoreOver inner)
    let i : Invocation :=
      { program := [], paths := [p], environment := ⟨[]⟩, settings := none, user := 0,
        time := "now" }
    let source : Pool.Source := fun _ => .error cause
    let events := Pool.inTurn 1
    e.cause? = some (.error (.tokenStoreOver inner)) ∧
      Tells e.message (.error (.tokenStoreOver inner)) ∧
      e ≠ .cacheUnavailable ∧ e.causes.getLast? = some (.fault cause) ∧
      Tells e.message (.fault cause) ∧
      i.paths ≠ [] ∧ Pool.Completes source i.paths events ∧
      inner.message ∈ (i.runWith source events).errors ∧ Tells inner.message (.fault cause) := by
  intro p cause inner e i source events
  have hcompletes : Pool.Completes source i.paths events :=
    ⟨by simp [events, Pool.inTurn], Pool.isDone_inTurn i.paths⟩
  have hprinted : inner.message ∈ (i.runWith source events).errors := by
    rw [Invocation.errors_runWith (List.cons_ne_nil _ _) hcompletes]
    exact List.mem_singleton.mpr rfl
  have he : e ≠ .cacheUnavailable := by simp [e]
  obtain ⟨-, hnearest, -, hinnermost, htold⟩ := causes_told
  obtain ⟨c, hlast, -, hc⟩ := hinnermost e he
  obtain rfl : Cause.fault cause = c := Option.some.inj hlast
  obtain ⟨q, hq, cause', hcause', htext, htells⟩ :=
    htold i source events (List.cons_ne_nil _ _) hcompletes _ hprinted
  obtain rfl : cause = cause' := Except.error.inj hcause'
  exact ⟨rfl, hnearest e _ rfl, he, rfl, hc, List.cons_ne_nil _ _, hcompletes, hprinted, htells⟩

end FileTransfer
