import FileTransfer.Proofs.Json.Meaning
import FileTransfer.Proofs.Json.Record

/-! Values as they are written.

The compact text of a value says this value and no other, whatever its texts hold, if its integers
fit 64 bits (`Value.means_render`); so two such values are written alike only if they are equal
(`Value.render_inj`). It is one line (`Value.unbroken_render`): what would end a line in one of its
texts is written as an escape. -/
namespace FileTransfer.Json

/-! ### What is written is read -/

mutual

/-- All integers in a value fit 64 bits. -/
def Value.InRange : Value → Prop
  | .null => True
  | .number n => Number.Fits n
  | .text _ => True
  | .object members => MembersInRange members

def MembersInRange : List (String × Value) → Prop
  | [] => True
  | (_, v) :: rest => Value.InRange v ∧ MembersInRange rest

end

theorem integerOfInt?_of_fits {n : Int} (h : Number.Fits n) : integerOfInt? n = some n :=
  if_pos ⟨h.least, h.most⟩

theorem membersValue?_cons (e : Entry) (members : List (Member Spelled)) :
    membersValue? (e.member :: members) =
      e.said.2.value?.bind fun v =>
        (membersValue? members).map fun rest => (e.key, v) :: rest := by
  obtain ⟨⟨before, name, gap, ⟨start, x, after⟩⟩, key, hkey⟩ := e
  rw [membersValue?, hkey, Option.map_some, Option.bind_some, String.ofList_toList]
  rfl

mutual

/-- The text of a value is one of its spellings. -/
theorem Value.exists_spelled :
    (v : Value) → v.InRange → ∃ x : Spelled, x.chars = v.render.toList ∧ x.value? = some v
  | .null, _ => ⟨.null, rfl, rfl⟩
  | .number n, h => by
    refine ⟨.number (.ofInt n), Numeral.chars_ofInt n, ?_⟩
    rw [Spelled.value?, Numeral.integer?_ofInt, Option.bind_some, integerOfInt?_of_fits h]
    rfl
  | .text s, _ => by
    obtain ⟨pieces, hpieces, hcharacters⟩ := exists_literal s
    refine ⟨.text pieces, hpieces, ?_⟩
    rw [Spelled.value?, hcharacters, Option.map_some, Option.map_some, String.ofList_toList]
  | .object members, h => by
    obtain ⟨entries, hentries, hvalue⟩ := exists_entries members h
    refine ⟨.object .empty (entries.map Entry.member), ?_, ?_⟩
    · have hmembers := membersChars_of_writes hentries
      simp [Spelled.chars, Value.render, Blanks.empty, hmembers]
    · rw [Spelled.value?, hvalue]
      rfl

/-- The members of an object are written one by one. -/
theorem exists_entries :
    (members : List (String × Value)) → MembersInRange members →
      ∃ entries, List.Forall₂ Entry.Writes entries members ∧
        membersValue? (entries.map Entry.member) = some members
  | [], _ => ⟨[], .nil, rfl⟩
  | (name, v) :: rest, h => by
    obtain ⟨hv, hrest⟩ := h
    obtain ⟨x, hx, hvalue⟩ := Value.exists_spelled v hv
    obtain ⟨entries, hentries, hmembers⟩ := exists_entries rest hrest
    obtain ⟨e, he, hsaid⟩ := exists_entry name hx
    refine ⟨e :: entries, .cons he hentries, ?_⟩
    rw [List.map_cons, membersValue?_cons, hmembers, he.key, hsaid, hvalue]
    rfl

end

theorem Value.means_render {v : Value} (h : v.InRange) : Means v.render v := by
  obtain ⟨x, hx, hvalue⟩ := v.exists_spelled h
  exact means_of_spelled hx hvalue

theorem Value.render_inj {v w : Value} (hv : v.InRange) (hw : w.InRange) :
    v.render = w.render ↔ v = w :=
  ⟨fun h => (means_render hv).unique (h ▸ means_render hw), fun h => h ▸ rfl⟩

/-! ### What is written is one line -/

/-- No character stands before the space in the order of characters, and so none ends a line. -/
def Unbroken (s : List Char) : Prop :=
  ∀ c ∈ s, 0x20 ≤ c.toNat

namespace Unbroken
variable {s t : List Char}

theorem append (hs : Unbroken s) (ht : Unbroken t) : Unbroken (s ++ t) :=
  List.forall_mem_append.mpr ⟨hs, ht⟩

theorem newline_notMem (h : Unbroken s) : '\n' ∉ s :=
  fun hmem => absurd (h '\n' hmem) (by decide)

end Unbroken

theorem unbroken_escapeChar (c : Char) : Unbroken (escapeChar c) := by
  have hdigit : ∀ n < 16, 0x20 ≤ (Text.Numeral.hexDigit false n).toNat := by decide
  unfold escapeChar
  split
  case h_8 =>
    split
    next hcontrol =>
      have hhigh := hdigit (c.toNat / 16) (by omega)
      have hlow := hdigit (c.toNat % 16) (by omega)
      simp [Unbroken, hhigh, hlow]
    next hplain => simpa [Unbroken] using hplain
  all_goals simp [Unbroken]

theorem unbroken_quote (s : String) : Unbroken (quote s).toList := by
  have hescaped : Unbroken (s.toList.flatMap escapeChar) := by
    intro c hc
    obtain ⟨d, -, hd⟩ := List.mem_flatMap.mp hc
    exact unbroken_escapeChar d c hd
  have hquote : Unbroken ['"'] := by simp [Unbroken]
  rw [quote, String.toList_ofList]
  exact hquote.append (hescaped.append hquote)

theorem unbroken_int (n : Int) : Unbroken (Text.Numeral.int n).toList := by
  have hnat (k : Nat) : Unbroken (Text.Numeral.nat k).toList := by
    intro c hc
    have hdigit := Text.Numeral.isDigit_of_mem_nat hc
    simp only [Char.isDigit, Bool.and_eq_true, decide_eq_true_eq] at hdigit
    exact Nat.le_trans (by decide) (UInt32.le_iff_toNat_le.mp hdigit.1)
  have hminus : Unbroken "-".toList := by simp [Unbroken]
  rw [Text.Numeral.int]
  split
  · rw [String.toList_append]
    exact hminus.append (hnat _)
  · exact hnat _

mutual

theorem Value.unbroken_render : (v : Value) → Unbroken v.render.toList
  | .null => by simp [Unbroken, Value.render]
  | .number n => unbroken_int n
  | .text s => unbroken_quote s
  | .object members => by
    have hmembers := unbroken_members members
    have hopen : Unbroken "\x7b".toList := by simp [Unbroken]
    have hclose : Unbroken "\x7d".toList := by simp [Unbroken]
    rw [Value.render, String.toList_append, String.toList_append]
    exact (hopen.append hmembers).append hclose

theorem unbroken_members :
    (members : List (String × Value)) → Unbroken (Value.renderMembers members).toList
  | [] => by simp [Unbroken, Value.renderMembers]
  | (name, v) :: rest => by
    have hcolon : Unbroken ":".toList := by simp [Unbroken]
    have hfirst : Unbroken ((quote name).toList ++ ":".toList ++ v.render.toList) :=
      ((unbroken_quote name).append hcolon).append (Value.unbroken_render v)
    have hrest := unbroken_members rest
    cases rest with
    | nil => simpa only [Value.renderMembers, String.toList_append] using hfirst
    | cons m rest =>
      have hcomma : Unbroken ",".toList := by simp [Unbroken]
      simp only [Value.renderMembers, String.toList_append]
      exact (hfirst.append hcomma).append hrest

end

end FileTransfer.Json
