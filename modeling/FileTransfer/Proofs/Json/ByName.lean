import FileTransfer.Credentials.Key
import FileTransfer.Credentials.Token
import FileTransfer.Proofs.Json.Texts
import FileTransfer.Time.Form

/-! What a record that is read from JSON depends on.

An object is read as a record just if it names each field once and says something of the field's
type under the name; the record is then made of these values, wherever they stand and whatever
stands besides them, and is the one that the list of these values is read as (`ReadsByName`). So it
is for every record whose fields have different names (`Shape.readsByName`), and thus for file
times, tokens and choices of a key (`records_readByName`). -/
namespace FileTransfer
namespace Json

/-- A record, built from a row of fields, is read from objects by the names of its fields. -/
structure ReadsByName {α : Type} (shape : Shape) (build : Row shape.fields → α)
    (read : String → Reading α) : Prop where
  /-- An object is read just if each field is named once, with a value of its type. -/
  reads_iff : ∀ o : ObjectText, (∃ a, read o.text = .ok a) ↔
    ∀ f ∈ shape.fields, mentions f.1 o.said = 1 ∧
      ∀ m ∈ o.said, m.1 = f.1 → (f.2.value? m.2).isSome
  /-- The record is built from the values of the fields alone. -/
  built : ∀ (o : ObjectText) (a : α), read o.text = .ok a →
    ∃ values, ValuesOf shape.fields o.said values ∧
      (Row.ofValues? shape.fields values).map build = some a
  /-- Neither the order of the members nor those that are no fields make a difference. -/
  unmoved : ∀ o p : ObjectText,
    (o.said.filter fun m => m.1 ∈ shape.fields.names).Perm
      (p.said.filter fun m => m.1 ∈ shape.fields.names) →
    ∀ a, read o.text = .ok a → read p.text = .ok a
  /-- The list of the values of the fields is read as the same record. -/
  listed : ∀ (o : ObjectText) (l : ListText), ValuesOf shape.fields o.said l.values →
    ∀ a, read o.text = .ok a → read l.text = .ok a
  /-- If values of the fields are of their types, a field that is not named once is named in the
  failure, which is a mismatch. -/
  mismatch : ∀ o : ObjectText,
    (∀ f ∈ shape.fields, ∀ m ∈ o.said, m.1 = f.1 → (f.2.value? m.2).isSome) →
    (∃ f ∈ shape.fields, mentions f.1 o.said ≠ 1) →
    ∃ f ∈ shape.fields,
      mentions f.1 o.said = 0 ∧ read o.text = .error (.mismatch (.missing f.1)) ∨
        2 ≤ mentions f.1 o.said ∧ read o.text = .error (.mismatch (.duplicate f.1))

theorem map_eq_ok {α β : Type} {r : Reading α} {f : α → β} {b : β} :
    r.map f = .ok b ↔ ∃ a, r = .ok a ∧ f a = b := by
  cases r with
  | error e => exact ⟨nofun, nofun⟩
  | ok a =>
    refine ⟨fun h => ⟨a, rfl, Except.ok.inj h⟩, ?_⟩
    rintro ⟨_, ⟨⟩, rfl⟩
    rfl

theorem eq_ok_of_toOption {α : Type} {r : Reading α} {a : α} (h : r.toOption = some a) :
    r = .ok a := by
  cases r with
  | error e => cases h
  | ok b => exact congrArg Except.ok (Option.some.inj h)

/-- Every record whose fields have different names is read from objects by these names. -/
theorem Shape.readsByName {shape : Shape} (hfs : shape.fields.names.Nodup) {α : Type}
    (build : Row shape.fields → α) :
    ReadsByName shape build fun text => (readAll shape.read text).map build where
  reads_iff o := by
    have hobject := readAll_object hfs o
    rw [← hobject.ok_iff]
    simp only [map_eq_ok]
    exact ⟨fun ⟨_, row, h, _⟩ => ⟨row, h⟩, fun ⟨row, h⟩ => ⟨build row, row, h, rfl⟩⟩
  built o a h := by
    obtain ⟨row, hrow, rfl⟩ := map_eq_ok.mp h
    have hobject := readAll_object hfs o
    rw [hrow] at hobject
    obtain ⟨values, hvalues⟩ := hobject.exists_valuesOf
    exact ⟨values, hvalues, by rw [hobject.ofValues? hvalues, Option.map_some]⟩
  unmoved o p hperm a h := by
    obtain ⟨row, hrow, rfl⟩ := map_eq_ok.mp h
    have hobject := readAll_object hfs o
    rw [hrow] at hobject
    have hother := hobject.eq_of_perm (readAll_object hfs p) hperm
    simp only [hother]
    rfl
  listed o l hvalues a h := by
    obtain ⟨row, hrow, rfl⟩ := map_eq_ok.mp h
    have hobject := readAll_object hfs o
    rw [hrow] at hobject
    have hlist := readAll_list shape l
    rw [hobject.ofValues? hvalues] at hlist
    have hread := eq_ok_of_toOption hlist
    simp only [hread]
    rfl
  mismatch o htyped hcount := by
    obtain ⟨f, hf, ⟨hnone, h⟩ | ⟨hagain, h⟩⟩ := (readAll_object hfs o).mismatch htyped hcount
    · exact ⟨f, hf, .inl ⟨hnone, by rw [h]; rfl⟩⟩
    · exact ⟨f, hf, .inr ⟨hagain, by rw [h]; rfl⟩⟩

end Json

/-- File times, tokens and choices of a key are read from JSON by the names of their fields. -/
theorem records_readByName :
    Json.ReadsByName FileTime.shape FileTime.ofRow FileTime.ofJson ∧
      Json.ReadsByName Token.shape Token.ofRow Token.ofJson ∧
      Json.ReadsByName KeyOptions.shape (fun row => ⟨row.1⟩) KeyOptions.ofJson :=
  ⟨Json.Shape.readsByName (by decide) _, Json.Shape.readsByName (by decide) _,
    Json.Shape.readsByName (by decide) _⟩

/-- Fields in another order, one with an escape in its name, and a member that is no field. -/
example :
    (FileTime.ofJson
      "\x7b\"high_date_time\": 2, \"x\": [\x7b\x7d], \"low\\u005fdate_time\" :1\x7d").toOption =
      some ⟨1, 2⟩ := by
  decide

end FileTransfer
