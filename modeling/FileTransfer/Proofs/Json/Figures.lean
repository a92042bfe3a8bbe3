import FileTransfer.Proofs.Json.Record

/-! The numbers in a text.

`figures` finds the numbers of any text, from left to right: its longest runs of digits. Where the
names and texts of a value hold no digits, the numbers in its written form are those of the value, in
the order of its members (`Value.figures_render`). -/
namespace FileTransfer.Json

/-- The numbers in a text, from left to right. -/
def figures (s : List Char) : List Nat :=
  ((s.splitOnP fun c => !isDigit c).filter fun run => !run.isEmpty).map
    (Nat.ofDigitChars 10 · 0)

/-- A text without digits. -/
def Digitless (s : List Char) : Prop :=
  ∀ c ∈ s, isDigit c = false

instance (s : List Char) : Decidable (Digitless s) :=
  List.decidableBAll (fun c => isDigit c = false) s

variable {s rest : List Char} {c : Char}

theorem figures_nil : figures [] = [] := rfl

theorem figures_cons (h : isDigit c = false) (s : List Char) : figures (c :: s) = figures s := by
  have hsplit : (c :: s).splitOnP (fun c => !isDigit c) = [] :: s.splitOnP fun c => !isDigit c :=
    List.splitOnP_append_cons_of_forall_mem (List.forall_mem_nil _) c (by simp [h]) s
  simp [figures, hsplit]

theorem Digitless.figures_append (h : Digitless s) (rest : List Char) :
    figures (s ++ rest) = figures rest := by
  induction s with
  | nil => rfl
  | cons c s ih =>
    obtain ⟨hc, hs⟩ := List.forall_mem_cons.mp h
    rw [List.cons_append, figures_cons hc, ih hs]

/-- A numeral is read as the number that it was made of, if no digit follows it. -/
theorem figures_nat (n : Nat) (h : Number.NoDigit rest) :
    figures ((Text.Numeral.nat n).toList ++ rest) = n :: figures rest := by
  have hdigits : ∀ c ∈ (Text.Numeral.nat n).toList, (!isDigit c) = false := by
    intro c hc
    rw [isDigit_of_mem_nat hc]
    rfl
  cases rest with
  | nil =>
    rw [List.append_nil, figures_nil, figures, List.splitOnP_eq_singleton hdigits]
    simp
  | cons c rest =>
    have hc : isDigit c = false := h c rfl
    have hsep : (!isDigit c) = true := by simp [hc]
    rw [figures_cons hc, figures, List.splitOnP_append_cons_of_forall_mem hdigits c hsep]
    simp [figures]

/-! ### The numbers of a value -/

mutual

/-- The numbers in a value, in the order in which they are written. -/
def Value.numbers : Value → List Nat
  | .null => []
  | .number n => [n.toNat]
  | .text _ => []
  | .object members => membersNumbers members

def membersNumbers : List (String × Value) → List Nat
  | [] => []
  | (_, v) :: rest => Value.numbers v ++ membersNumbers rest

end

mutual

/-- The names and texts in a value hold no digits, and its numbers have no sign. -/
def Value.Counted : Value → Prop
  | .null => True
  | .number n => 0 ≤ n
  | .text s => Digitless (quote s).toList
  | .object members => MembersCounted members

def MembersCounted : List (String × Value) → Prop
  | [] => True
  | (name, v) :: rest => Digitless (quote name).toList ∧ Value.Counted v ∧ MembersCounted rest

end

theorem figures_int {n : Int} (hn : 0 ≤ n) (h : Number.NoDigit rest) :
    figures ((Text.Numeral.int n).toList ++ rest) = n.toNat :: figures rest := by
  have hnat : n.natAbs = n.toNat := by omega
  rw [Text.Numeral.int, if_neg (Int.not_lt.mpr hn), hnat]
  exact figures_nat n.toNat h

mutual

theorem Value.figures_render {rest : List Char} (hrest : Number.NoDigit rest) :
    (v : Value) → v.Counted → figures (v.render.toList ++ rest) = v.numbers ++ figures rest
  | .null, _ => by
    have hnull : Digitless "null".toList := by decide
    exact hnull.figures_append rest
  | .number n, h => figures_int h hrest
  | .text s, h => Digitless.figures_append h rest
  | .object members, h => by
    have hopen : isDigit '\x7b' = false := by decide
    have hclose : isDigit '\x7d' = false := by decide
    have hbrace : Number.NoDigit ('\x7d' :: rest) := by simp [Number.NoDigit, hclose]
    have hmembers := figures_members hbrace members h
    rw [figures_cons hclose] at hmembers
    simpa [Value.render, figures_cons hopen, Value.numbers] using hmembers

theorem figures_members {rest : List Char} (hrest : Number.NoDigit rest) :
    (members : List (String × Value)) → MembersCounted members →
      figures ((Value.renderMembers members).toList ++ rest) =
        membersNumbers members ++ figures rest
  | [], _ => rfl
  | (name, v) :: members, ⟨hname, hv, hmembers⟩ => by
    have hcolon : isDigit ':' = false := by decide
    have hcomma : isDigit ',' = false := by decide
    cases members with
    | nil =>
      have hvalue := Value.figures_render hrest v hv
      simpa [Value.renderMembers, hname.figures_append, figures_cons hcolon, membersNumbers]
        using hvalue
    | cons m members =>
      have hnext := figures_members hrest (m :: members) hmembers
      have hmore : Number.NoDigit (',' :: ((Value.renderMembers (m :: members)).toList ++ rest)) := by
        simp [Number.NoDigit, hcomma]
      have hvalue := Value.figures_render hmore v hv
      rw [figures_cons hcomma, hnext] at hvalue
      simpa [Value.renderMembers, hname.figures_append, figures_cons hcolon, membersNumbers]
        using hvalue

end

end FileTransfer.Json
