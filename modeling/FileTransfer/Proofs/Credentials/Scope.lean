import FileTransfer.Credentials.Key
import FileTransfer.Proofs.Credentials.LastWrite
import FileTransfer.Proofs.Text.Numeral
import FileTransfer.Proofs.Text.Utf8

/-! Keys keep users apart.

A user's key determines stem and user (`KeyOptions.forUser_inj`), since a numeral holds no hyphen.
A variable that gives a text is the key (`KeyOptions.ofVariable_of_gives`); any other leaves the user
with that key. So of two users whose variables give nothing neither meets the tokens of the other:
`users_apart` says so of all runs in which they share a store, with any other users. -/
namespace FileTransfer

/-! ### Keys -/

/-- Two texts with a separator between two parts are cut the same, if it is not in the second part. -/
theorem append_separator_inj {α : Type} {a b c d : List α} {x : α} (hb : x ∉ b) (hd : x ∉ d)
    (h : a ++ x :: b = c ++ x :: d) : a = c ∧ b = d := by
  rcases List.append_eq_append_iff.mp h with ⟨e, rfl, he⟩ | ⟨e, rfl, he⟩
  · cases e with
    | nil => simpa using he
    | cons y e =>
      cases he
      simp at hb
  · cases e with
    | nil => simpa using he.symm
    | cons y e =>
      cases he
      simp at hd

namespace KeyOptions

theorem hyphen_not_mem_nat (n : Nat) : '-' ∉ (Text.Numeral.nat n).toList :=
  fun h => absurd (Text.Numeral.isDigit_of_mem_nat h) (by decide)

theorem toList_forUser (stem : String) (user : Nat) :
    (forUser stem user).name.toList = stem.toList ++ '-' :: (Text.Numeral.nat user).toList := by
  simp [forUser]

/-- A user's key is the key of this stem and this user only, even if stems end in numbers. -/
theorem forUser_inj {p q : String} {u v : Nat} :
    (forUser p u).name = (forUser q v).name ↔ p = q ∧ u = v := by
  constructor
  · intro h
    have hlist := congrArg String.toList h
    rw [toList_forUser, toList_forUser] at hlist
    obtain ⟨hstem, huser⟩ :=
      append_separator_inj (hyphen_not_mem_nat u) (hyphen_not_mem_nat v) hlist
    exact ⟨String.toList_inj.mp hstem, Text.Numeral.nat_inj.mp (String.toList_inj.mp huser)⟩
  · rintro ⟨rfl, rfl⟩
    rfl

/-- A variable that gives a key: it is set to a text that is not empty. -/
def Gives (value : Option (List UInt8)) (name : String) : Prop :=
  name ≠ "" ∧ value = some (Text.Utf8.encode name)

theorem usable?_eq_some_iff {value : Option (List UInt8)} {name : String} :
    usable? value = some name ↔ Gives value name := by
  have hempty : (!name.isEmpty) = true ↔ name ≠ "" := by simp
  rw [usable?, Option.filter_eq_some_iff, Option.bind_eq_some_iff, hempty, Gives, and_comm]
  refine and_congr_right fun _ => ⟨?_, fun h => ⟨_, h, Text.Utf8.decode?_eq_some_iff.mpr rfl⟩⟩
  rintro ⟨bytes, rfl, h⟩
  rw [Text.Utf8.decode?_eq_some_iff.mp h]

theorem ofVariable_of_gives {value : Option (List UInt8)} {name : String} (h : Gives value name)
    (user : Nat) : ofVariable value user = ⟨name⟩ := by
  rw [ofVariable, usable?_eq_some_iff.mpr h]

theorem ofVariable_of_not_gives {value : Option (List UInt8)} (h : ∀ name, ¬ Gives value name)
    (user : Nat) : ofVariable value user = forUser defaultStem user := by
  have hnone : usable? value = none :=
    Option.eq_none_iff_forall_ne_some.mpr fun name hn => h name (usable?_eq_some_iff.mp hn)
  rw [ofVariable, hnone]

end KeyOptions

/-! ### Users who share a store -/

/-- A user of a cache, and the value that the variable has for this user. -/
structure Owner where
  user : Nat
  value : Option (List UInt8)
  deriving DecidableEq, Repr

/-- The key of the user's cache. -/
def Owner.key (o : Owner) : String :=
  (KeyOptions.ofVariable o.value o.user).name

theorem Owner.key_of_not_gives {o : Owner} (h : ∀ name, ¬ KeyOptions.Gives o.value name) :
    o.key = (KeyOptions.forUser KeyOptions.defaultStem o.user).name := by
  rw [key, KeyOptions.ofVariable_of_not_gives h]

/-- Whether a step is on a cache of a user. -/
def FleetStep.isOf (owners : List Owner) (user : Nat) (st : FleetStep) : Bool :=
  owners[st.member]?.map Owner.user == some user

/-- Nothing is lost by leaving out first what is left out in the end. -/
theorem filter_filter_of_imp {α : Type} {p q : α → Bool} (h : ∀ a, p a = true → q a = true)
    (l : List α) : (l.filter q).filter p = l.filter p := by
  rw [List.filter_filter]
  exact List.filter_congr fun a _ => Bool.and_eq_left_iff_imp.mpr (h a)

namespace Fleet

/-- Runs with the same steps under a key show the same in them. -/
theorem transcript_filter_congr {keys : List String} {key : String} {steps steps' : List FleetStep}
    (h : (steps.filter fun st => keys[st.member]? == some key) =
      steps'.filter fun st => keys[st.member]? == some key) :
    (((shared keys {}).transcript MemoryStore.store steps).filter
        fun p => keys[p.1.member]? == some key) =
      ((shared keys {}).transcript MemoryStore.store steps').filter
        fun p => keys[p.1.member]? == some key := by
  have hstart := onOne_shared keys {}
  have halike : Alike keys key (shared keys {}) (shared keys {}) :=
    ⟨⟨{}, {}, hstart, hstart, rfl⟩, fun _ _ => rfl⟩
  rw [← halike.transcript, ← halike.transcript, h]

variable {owners : List Owner} {user : Nat} {st : FleetStep}

/-- A user whose variable gives nothing acts under the key of this user's number. -/
theorem key_of_isOf
    (hnone : ∀ o ∈ owners, o.user = user → ∀ name, ¬ KeyOptions.Gives o.value name)
    (h : st.isOf owners user = true) :
    (owners.map Owner.key)[st.member]? =
      some (KeyOptions.forUser KeyOptions.defaultStem user).name := by
  simp only [FleetStep.isOf, beq_iff_eq, Option.map_eq_some_iff] at h
  obtain ⟨o, ho, rfl⟩ := h
  rw [List.getElem?_map, ho, Option.map_some,
    Owner.key_of_not_gives (hnone o (List.mem_of_getElem? ho) rfl)]

end Fleet

/-- A user's key belongs to one stem and one user. A variable that gives a text is the key, and any
other leaves the user with the key of the default stem. Of two users whose variables give nothing,
the steps of one change nothing in what the steps of the other show, in any run of caches on one
store in memory that these and other users have. -/
theorem users_apart :
    (∀ p q u v, (KeyOptions.forUser p u).name = (KeyOptions.forUser q v).name ↔ p = q ∧ u = v) ∧
    (∀ value user,
      (∀ name, KeyOptions.Gives value name → (KeyOptions.ofVariable value user).name = name) ∧
      ((∀ name, ¬ KeyOptions.Gives value name) →
        KeyOptions.ofVariable value user = KeyOptions.forUser KeyOptions.defaultStem user)) ∧
    ∀ (owners : List Owner) (u v : Nat) (steps : List FleetStep), u ≠ v →
      (∀ o ∈ owners, o.user = u ∨ o.user = v → ∀ name, ¬ KeyOptions.Gives o.value name) →
      let f := Fleet.shared (owners.map Owner.key) {}
      ((f.transcript MemoryStore.store (steps.filter fun st => !st.isOf owners v)).filter
          fun p => p.1.isOf owners u) =
        (f.transcript MemoryStore.store steps).filter fun p => p.1.isOf owners u := by
  refine ⟨fun p q u v => KeyOptions.forUser_inj, fun value user => ⟨fun name h => ?_, fun h => ?_⟩,
    fun owners u v steps huv hnone => ?_⟩
  · rw [KeyOptions.ofVariable_of_gives h]
  · exact KeyOptions.ofVariable_of_not_gives h user
  · intro f
    let keyed : FleetStep → Bool := fun st =>
      (owners.map Owner.key)[st.member]? ==
        some (KeyOptions.forUser KeyOptions.defaultStem u).name
    have hown : ∀ st : FleetStep, st.isOf owners u = true → keyed st = true := fun st h =>
      beq_iff_eq.mpr (Fleet.key_of_isOf (fun o ho hu => hnone o ho (.inl hu)) h)
    have hother : ∀ st : FleetStep, keyed st = true → (!st.isOf owners v) = true := by
      intro st hkeyed
      rw [Bool.not_eq_true']
      refine Bool.eq_false_iff.mpr fun hv => huv ?_
      have hkey := Fleet.key_of_isOf (fun o ho hu => hnone o ho (.inr hu)) hv
      exact (KeyOptions.forUser_inj.mp
        (Option.some.inj ((beq_iff_eq.mp hkeyed).symm.trans hkey))).2
    -- the steps under the key of the one user are the same in both runs
    have hsame : ((steps.filter fun st => !st.isOf owners v).filter keyed) = steps.filter keyed :=
      filter_filter_of_imp hother steps
    have hkept : ∀ seen : List (FleetStep × Fleet.Observation),
        ((seen.filter fun p => keyed p.1).filter fun p => p.1.isOf owners u) =
          seen.filter fun p => p.1.isOf owners u :=
      filter_filter_of_imp fun p => hown p.1
    rw [← hkept, Fleet.transcript_filter_congr hsame, hkept]

/-- One user's variable is not set and the other's is empty: what the one saves the other's removal
does not take away. -/
theorem users_apart_removal :
    let owners : List Owner := [⟨1, none⟩, ⟨12, some []⟩]
    let steps : List FleetStep :=
      [⟨0, .call (.save { access := "a" }), none⟩, ⟨1, .call .remove, none⟩, ⟨0, .call .load, none⟩]
    let f := Fleet.shared (owners.map Owner.key) {}
    (KeyOptions.ofVariable (some (Text.Utf8.encode "k")) 1).name = "k" ∧
      KeyOptions.ofVariable none 1 = KeyOptions.forUser KeyOptions.defaultStem 1 ∧
      ((f.transcript MemoryStore.store (steps.filter fun st => !st.isOf owners 12)).filter
          fun p => p.1.isOf owners 1) =
        (f.transcript MemoryStore.store steps).filter fun p => p.1.isOf owners 1 := by
  intro owners steps f
  refine ⟨(users_apart.2.1 _ 1).1 "k" ⟨by decide, rfl⟩, (users_apart.2.1 none 1).2 nofun,
    users_apart.2.2 owners 1 12 steps (by decide) ?_⟩
  have hempty : KeyOptions.usable? (some []) = none := by decide
  intro o ho _ name hname
  have husable := KeyOptions.usable?_eq_some_iff.mpr hname
  have howner : o = ⟨1, none⟩ ∨ o = ⟨12, some []⟩ := by simpa [owners] using ho
  rcases howner with rfl | rfl
  · cases husable
  · cases hempty.symm.trans husable

end FileTransfer
