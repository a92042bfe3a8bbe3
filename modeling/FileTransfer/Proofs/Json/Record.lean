import FileTransfer.Json.Value
import FileTransfer.Proofs.Json.Texts
import FileTransfer.Proofs.Text.Numeral

/-! Records as they are written, read back.

What is written for the value of a field is one of the spellings of this value
(`Kind.exists_spelled`), so what is written for a record is an object that says the value of each
field under its name (`Row.exists_entries`). It is read as this record (`Shape.readAll_render`),
whatever the fields are, if no two have the same name. -/
namespace FileTransfer.Json

def Blanks.empty : Blanks where
  chars := []
  blank := by simp

/-! ### Integers -/

theorem isDigit_of_mem_nat {n : Nat} {c : Char} (h : c ∈ (Text.Numeral.nat n).toList) :
    isDigit c = true :=
  Text.Numeral.isDigit_of_mem_nat h

/-- The digits that are written for a natural number. -/
def Digits.ofNat (n : Nat) : Digits where
  chars := (Text.Numeral.nat n).toList
  ne_nil := Text.Numeral.nat_ne_nil n
  digit _ h := isDigit_of_mem_nat h

namespace Numeral

/-- An integer as it is written. -/
def ofInt (n : Int) : Numeral where
  negative := decide (n < 0)
  whole := .ofNat n.natAbs
  first h := by
    have hzero : n.natAbs = 0 :=
      Decidable.byContradiction fun hne => Text.Numeral.head?_nat_ne hne h
    rw [hzero]
    rfl
  fraction := none
  exponent := none

theorem chars_ofInt (n : Int) : (ofInt n).chars = (Text.Numeral.int n).toList := by
  have hunsigned : (ofInt n).unsigned = (Text.Numeral.nat n.natAbs).toList := List.append_nil _
  rw [chars, hunsigned, Text.Numeral.int]
  by_cases hneg : n < 0 <;> simp [ofInt, hneg]

theorem integer?_ofInt (n : Int) : (ofInt n).integer? = some n := by
  have hvalue : Number.value (ofInt n).whole.chars = n.natAbs :=
    (Number.value_eq_ofDigitChars _).trans (Text.Numeral.ofDigitChars_nat n.natAbs)
  by_cases hneg : n < 0
  · have hsign : (ofInt n).negative = true := decide_eq_true hneg
    have hzero : n.natAbs ≠ 0 := by omega
    rw [integer?, hvalue, hsign]
    show (if n.natAbs = 0 then none else some (-(n.natAbs : Int))) = some n
    rw [if_neg hzero, Int.ofNat_natAbs_of_nonpos (Int.le_of_lt hneg), Int.neg_neg]
  · have hsign : (ofInt n).negative = false := decide_eq_false hneg
    rw [integer?, hvalue, hsign]
    exact congrArg some (Int.natAbs_of_nonneg (Int.not_lt.mp hneg))

end Numeral

theorem wordOfInt?_toNat (w : UInt32) : wordOfInt? w.toNat = some w := by
  have hlt := w.toNat_lt
  rw [wordOfInt?, if_pos ⟨by omega, by omega⟩, Int.toNat_natCast, UInt32.ofNat_toNat]

theorem longOfInt?_toInt (i : Int64) : longOfInt? i.toInt = some i := by
  have hlt := i.toInt_lt
  have hle := i.le_toInt
  rw [longOfInt?, if_pos ⟨by omega, by omega⟩, Int64.ofInt_toInt]

/-! ### Texts -/

theorem hexValue?_hexDigit :
    ∀ n < 16, Text.Numeral.hexValue? (Text.Numeral.hexDigit false n) = some n := by
  decide

/-- A part of a literal that denotes a character, whatever follows it. -/
def Piece.Denotes (p : Piece) (c : Char) : Prop :=
  ∀ rest, characters? (p :: rest) = (characters? rest).map (c :: ·)

/-- An escape of four digits, of which the first two are zeros. -/
theorem exists_unit {c : Char} (h : c.toNat < 0x20) :
    ∃ u : CodeUnit, (Piece.unit u).chars = ['\\', 'u', '0', '0',
        Text.Numeral.hexDigit false (c.toNat / 16), Text.Numeral.hexDigit false (c.toNat % 16)] ∧
      (Piece.unit u).Denotes c := by
  let zero : HexDigit := ⟨'0', 0, by decide⟩
  let u : CodeUnit :=
    ⟨zero, zero, ⟨_, _, hexValue?_hexDigit (c.toNat / 16) (by omega)⟩,
      ⟨_, _, hexValue?_hexDigit (c.toNat % 16) (by omega)⟩⟩
  have hvalue : u.value = c.toNat := by
    simp only [CodeUnit.value, u, zero]
    omega
  refine ⟨u, rfl, fun rest => ?_⟩
  have htrail : Literal.isTrail c.toNat = false := by simp [Literal.isTrail]; omega
  have hlead : Literal.isLead c.toNat = false := by simp [Literal.isLead]; omega
  rw [characters?.eq_def]
  simp [hvalue, htrail, hlead, Char.ofNat_toNat]

/-- Each character is written as itself or as an escape. -/
theorem exists_piece (c : Char) : ∃ p : Piece, p.chars = escapeChar c ∧ p.Denotes c := by
  unfold escapeChar
  split
  case h_8 hquote hslash _ _ _ _ _ =>
    split
    next hcontrol =>
      obtain ⟨u, hchars, hdenotes⟩ := exists_unit hcontrol
      exact ⟨.unit u, hchars, hdenotes⟩
    next hplain => exact ⟨.plain c hquote hslash (Nat.not_lt.mp hplain), rfl, fun _ => rfl⟩
  all_goals exact ⟨.letter _ _ (by decide), rfl, fun _ => rfl⟩

theorem exists_pieces (s : List Char) :
    ∃ pieces, pieces.flatMap Piece.chars = s.flatMap escapeChar ∧ characters? pieces = some s := by
  induction s with
  | nil => exact ⟨[], rfl, rfl⟩
  | cons c s ih =>
    obtain ⟨p, hp, hdenotes⟩ := exists_piece c
    obtain ⟨pieces, hpieces, hcharacters⟩ := ih
    refine ⟨p :: pieces, ?_, ?_⟩
    · rw [List.flatMap_cons, List.flatMap_cons, hp, hpieces]
    · rw [hdenotes, hcharacters, Option.map_some]

/-- A text in quotes. -/
theorem exists_literal (s : String) :
    ∃ pieces, '"' :: literalChars pieces = (quote s).toList ∧
      characters? pieces = some s.toList := by
  obtain ⟨pieces, hpieces, hcharacters⟩ := exists_pieces s.toList
  refine ⟨pieces, ?_, hcharacters⟩
  simp [literalChars, quote, hpieces]

/-! ### Fields -/

/-- What is written for the value of a field. -/
def Kind.toJson : (k : Kind) → k.Value → Json.Value
  | .word, w => .number w.toNat
  | .long, i => .number i.toInt
  | .text, s => .text s

/-- What is written for the value of a field is spelled so that the field takes the value from it.
-/
theorem Kind.exists_spelled (k : Kind) (v : k.Value) :
    ∃ x : Spelled, x.chars = (k.toJson v).render.toList ∧ k.value? x = some v := by
  cases k with
  | word => exact ⟨.number (.ofInt (UInt32.toNat v)), Numeral.chars_ofInt _, by
      rw [Kind.value?, Numeral.integer?_ofInt, Option.bind_some, wordOfInt?_toNat]⟩
  | long => exact ⟨.number (.ofInt (Int64.toInt v)), Numeral.chars_ofInt _, by
      rw [Kind.value?, Numeral.integer?_ofInt, Option.bind_some, longOfInt?_toInt]⟩
  | text =>
    obtain ⟨pieces, hpieces, hcharacters⟩ := exists_literal v
    refine ⟨.text pieces, hpieces, ?_⟩
    rw [Kind.value?, hcharacters, Option.map_some, String.ofList_toList]

variable {fs : Fields} {said : List Said}

/-- A record as the members of an object. -/
def Row.members : {fs : Fields} → Row fs → List (String × Json.Value)
  | [], _ => []
  | (name, kind) :: _, (v, row) => (name, kind.toJson v) :: members row

theorem Row.names_members (row : Row fs) : row.members.map Prod.fst = fs.names := by
  induction fs with
  | nil => rfl
  | cons f fs ih => exact congrArg (f.1 :: ·) (ih row.2)

/-- A member as it is written. -/
structure Entry.Writes (e : Entry) (m : String × Json.Value) : Prop where
  key : e.key = m.1
  chars : membersChars true [e.member] = (quote m.1).toList ++ ':' :: m.2.render.toList

/-- A value under a name, with no blanks. -/
theorem exists_entry (name : String) {x : Spelled} {v : Json.Value}
    (h : x.chars = v.render.toList) :
    ∃ e : Entry, e.Writes (name, v) ∧ e.said = (name, x) := by
  obtain ⟨pieces, hpieces, hcharacters⟩ := exists_literal name
  let e : Entry := ⟨⟨.empty, pieces, .empty, ⟨.empty, x, .empty⟩⟩, name, hcharacters⟩
  refine ⟨e, ⟨rfl, ?_⟩, rfl⟩
  simp [membersChars, commaChars, e, Blanks.empty, h, ← hpieces]

theorem membersChars_cons (first : Bool) (m : Member Spelled) (members : List (Member Spelled)) :
    membersChars first (m :: members) =
      commaChars first ++ (membersChars true [m] ++ membersChars false members) := by
  simp [membersChars, commaChars]

theorem membersChars_of_writes {entries : List Entry} {members : List (String × Json.Value)}
    (h : List.Forall₂ Entry.Writes entries members) :
    membersChars true (entries.map Entry.member) = (Value.renderMembers members).toList := by
  induction h with
  | nil => rfl
  | cons hm htail ih =>
    cases htail with
    | nil => simp [Value.renderMembers, hm.chars]
    | @cons e m entries members hm' htail' =>
      have hcomma : membersChars false ((e :: entries).map Entry.member) =
          ',' :: membersChars true ((e :: entries).map Entry.member) := rfl
      rw [List.map_cons, membersChars_cons, hm.chars, hcomma, ih]
      simp [Value.renderMembers, commaChars]

theorem names_of_writes {entries : List Entry} {members : List (String × Json.Value)}
    (h : List.Forall₂ Entry.Writes entries members) :
    (entries.map Entry.said).map Prod.fst = members.map Prod.fst := by
  induction h with
  | nil => rfl
  | cons hm htail ih => exact congrArg₂ List.cons hm.key ih

/-- What is written for a record says the values of its fields under their names. -/
theorem Row.exists_entries (row : Row fs) :
    ∃ entries : List Entry, List.Forall₂ Entry.Writes entries row.members ∧
      Row.ofValues? fs ((entries.map Entry.said).map Prod.snd) = some row := by
  induction fs with
  | nil => exact ⟨[], .nil, rfl⟩
  | cons f fs ih =>
    obtain ⟨name, kind⟩ := f
    obtain ⟨v, row⟩ := row
    obtain ⟨entries, hentries, hvalues⟩ := ih row
    obtain ⟨x, hx, hvalue⟩ := kind.exists_spelled v
    obtain ⟨e, he, hsaid⟩ := exists_entry name hx
    refine ⟨e :: entries, .cons he hentries, ?_⟩
    rw [List.map_cons, List.map_cons, hsaid, Row.ofValues?, hvalue, Option.bind_some, hvalues]
    rfl

/-! ### Records -/

/-- The values of an object that names the fields in their order and nothing else. -/
theorem valuesOf_of_names (h : said.map Prod.fst = fs.names) :
    ValuesOf fs said (said.map Prod.snd) := by
  induction fs generalizing said with
  | nil =>
    obtain rfl := List.map_eq_nil_iff.mp h
    exact .nil
  | cons f fs ih =>
    cases said with
    | nil => cases h
    | cons m said =>
      obtain ⟨hname, hrest⟩ := List.cons.inj h
      have htail := (ih hrest).mono fun f _ v hv => List.mem_cons_of_mem m hv
      exact .cons (hname ▸ List.mem_cons_self) htail

theorem exists_value_of_names (h : said.map Prod.fst = fs.names) {row : Row fs}
    (hvalues : Row.ofValues? fs (said.map Prod.snd) = some row) :
    ∀ f ∈ fs, ∃ v, (f.1, v) ∈ said ∧ (f.2.value? v).isSome := by
  induction fs generalizing said with
  | nil => simp
  | cons f fs ih =>
    cases said with
    | nil => cases h
    | cons m said =>
      obtain ⟨hname, hrest⟩ := List.cons.inj h
      obtain ⟨x, hx, more⟩ := Option.bind_eq_some_iff.mp hvalues
      obtain ⟨row', hrow, -⟩ := Option.map_eq_some_iff.mp more
      refine List.forall_mem_cons.mpr ⟨⟨m.2, hname ▸ List.mem_cons_self, ?_⟩, fun g hg => ?_⟩
      · exact Option.isSome_iff_exists.mpr ⟨x, hx⟩
      · obtain ⟨v, hv, hsome⟩ := ih hrest hrow g hg
        exact ⟨v, List.mem_cons_of_mem m hv, hsome⟩

namespace Shape
variable {shape : Shape}

/-- An object that names the fields in their order and nothing else. -/
theorem readAll_inOrder (hfs : shape.fields.names.Nodup) (o : ObjectText)
    (hnames : o.said.map Prod.fst = shape.fields.names) {row : Row shape.fields}
    (h : Row.ofValues? shape.fields (o.said.map Prod.snd) = some row) :
    readAll shape.read o.text = .ok row := by
  have hobject := readAll_object hfs o
  have hcount (f : String × Kind) (hf : f ∈ shape.fields) : mentions f.1 o.said = 1 := by
    have hname : f.1 ∈ shape.fields.names := List.mem_map_of_mem hf
    rw [mentions, hnames, hfs.count, if_pos hname]
  obtain ⟨row', hrow⟩ := hobject.ok_iff.mpr fun f hf => by
    refine ⟨hcount f hf, ?_⟩
    rintro ⟨name, w⟩ hm rfl
    obtain ⟨v, hv, hsome⟩ := exists_value_of_names hnames h f hf
    have honce := Nat.le_of_eq (hcount f hf)
    rwa [← slotOf_of_mem honce hm, slotOf_of_mem honce hv]
  rw [hrow] at hobject
  have hsame := hobject.ofValues? (valuesOf_of_names hnames)
  rw [hrow, Option.some.inj (hsame.symm.trans h)]

/-- The text of a record is read as this record. -/
theorem readAll_render (hfs : shape.fields.names.Nodup) (row : Row shape.fields) :
    readAll shape.read (Value.object row.members).render = .ok row := by
  obtain ⟨entries, hentries, hvalues⟩ := row.exists_entries
  let o : ObjectText := ⟨.empty, .empty, entries, .empty⟩
  have htext : o.text = (Value.object row.members).render := by
    have hmembers := membersChars_of_writes hentries
    apply String.toList_inj.mp
    simp [ObjectText.text, Spelled.chars, Value.render, Blanks.empty, o, hmembers]
  have hnames : o.said.map Prod.fst = shape.fields.names := by
    rw [← row.names_members]
    exact names_of_writes hentries
  rw [← htext]
  exact readAll_inOrder hfs o hnames hvalues

end Shape

end FileTransfer.Json
