import FileTransfer.Proofs.Json.Figures
import FileTransfer.Proofs.Json.Rendered
import FileTransfer.Proofs.Record.Layout

/-! The two written forms of a file record.

The stored image of a record is its words with nothing between them, and these are the numbers in its
JSON text, from left to right (`figures_toJson`). The record comes back from its image by the places
of the words and from its text by the names of the fields, so that either form is that of one record
only (`forms_agree`). -/
namespace FileTransfer

/-! ### Reading the forms -/

/-- The member of an object that has a name. -/
def Json.Value.member? (name : String) : Json.Value → Option Json.Value
  | .object members => members.lookup name
  | _ => none

/-- The 32-bit word that stands under a name. -/
def wordUnder? (name : String) (v : Json.Value) : Option UInt32 :=
  match v.member? name with
  | some (.number n) => Json.wordOfInt? n
  | _ => none

/-- The file time that an object shows. -/
def FileTime.ofValue? (v : Json.Value) : Option FileTime := do
  let low ← wordUnder? "low_date_time" v
  let high ← wordUnder? "high_date_time" v
  return ⟨low, high⟩

theorem wordUnder?_of_member {name : String} {v : Json.Value} {w : UInt32}
    (h : v.member? name = some (wordJson w)) : wordUnder? name v = some w := by
  rw [wordUnder?, h]
  exact Json.wordOfInt?_toNat w

theorem FileTime.ofValue?_toJson (t : FileTime) : FileTime.ofValue? t.toJson = some t := by
  have hlow : wordUnder? "low_date_time" t.toJson = some t.low := wordUnder?_of_member rfl
  have hhigh : wordUnder? "high_date_time" t.toJson = some t.high := wordUnder?_of_member rfl
  rw [FileTime.ofValue?, hlow, hhigh]
  rfl

namespace FileRecord

/-- The record with these words, if they are thirteen. -/
def ofWords? : List UInt32 → Option FileRecord
  | [attributes, creationLow, creationHigh, accessLow, accessHigh, writeLow, writeHigh, volume,
      sizeHigh, sizeLow, links, indexHigh, indexLow] =>
    some
      { attributes
        creation := ⟨creationLow, creationHigh⟩
        lastAccess := ⟨accessLow, accessHigh⟩
        lastWrite := ⟨writeLow, writeHigh⟩
        volume, sizeHigh, sizeLow, links, indexHigh, indexLow }
  | _ => none

/-- The record that is stored as these bytes. -/
def ofImage? (bytes : List UInt8) : Option FileRecord :=
  (wordsOf? bytes).bind ofWords?

/-- The record that an object shows. -/
def ofValue? (v : Json.Value) : Option FileRecord := do
  let attributes ← wordUnder? "file_attributes" v
  let creation ← (v.member? "creation_time").bind FileTime.ofValue?
  let lastAccess ← (v.member? "last_access_time").bind FileTime.ofValue?
  let lastWrite ← (v.member? "last_write_time").bind FileTime.ofValue?
  let volume ← wordUnder? "volume_serial_number" v
  let sizeHigh ← wordUnder? "file_size_high" v
  let sizeLow ← wordUnder? "file_size_low" v
  let links ← wordUnder? "number_of_links" v
  let indexHigh ← wordUnder? "file_index_high" v
  let indexLow ← wordUnder? "file_index_low" v
  return { attributes, creation, lastAccess, lastWrite, volume, sizeHigh, sizeLow, links, indexHigh,
           indexLow }

/-- The record that a JSON text shows. -/
def ofText? (text : String) : Option FileRecord :=
  (Json.Value.ofText text).toOption.bind ofValue?

/-! ### The image -/

theorem ofWords?_eq_some_iff {ws : List UInt32} {r : FileRecord} :
    ofWords? ws = some r ↔ ws = r.words := by
  constructor
  · intro h
    unfold ofWords? at h
    split at h
    · cases h
      rfl
    · cases h
  · rintro rfl
    rfl

/-- A record has one image, and no other bytes are read as it. -/
theorem ofImage?_eq_some_iff {bytes : List UInt8} {r : FileRecord} :
    ofImage? bytes = some r ↔ bytes = r.image := by
  simp only [ofImage?, Option.bind_eq_some_iff, wordsOf?_eq_some_iff, ofWords?_eq_some_iff]
  constructor
  · rintro ⟨ws, rfl, rfl⟩
    rfl
  · rintro rfl
    exact ⟨r.words, rfl, rfl⟩

/-! ### The text -/

theorem inRange_toJson (r : FileRecord) : r.toJson.InRange := by
  simp [toJson, FileTime.toJson, wordJson, Json.Value.InRange, Json.MembersInRange,
    Json.Number.fits_word]

theorem ofValue?_toJson (r : FileRecord) : ofValue? r.toJson = some r := by
  have htime {name : String} {t : FileTime} (h : r.toJson.member? name = some t.toJson) :
      (r.toJson.member? name).bind FileTime.ofValue? = some t := by
    rw [h, Option.bind_some, t.ofValue?_toJson]
  have hattributes : wordUnder? "file_attributes" r.toJson = some r.attributes :=
    wordUnder?_of_member rfl
  have hcreation : (r.toJson.member? "creation_time").bind FileTime.ofValue? = some r.creation :=
    htime rfl
  have hlastAccess : (r.toJson.member? "last_access_time").bind FileTime.ofValue? =
      some r.lastAccess := htime rfl
  have hlastWrite : (r.toJson.member? "last_write_time").bind FileTime.ofValue? =
      some r.lastWrite := htime rfl
  have hvolume : wordUnder? "volume_serial_number" r.toJson = some r.volume :=
    wordUnder?_of_member rfl
  have hsizeHigh : wordUnder? "file_size_high" r.toJson = some r.sizeHigh :=
    wordUnder?_of_member rfl
  have hsizeLow : wordUnder? "file_size_low" r.toJson = some r.sizeLow :=
    wordUnder?_of_member rfl
  have hlinks : wordUnder? "number_of_links" r.toJson = some r.links :=
    wordUnder?_of_member rfl
  have hindexHigh : wordUnder? "file_index_high" r.toJson = some r.indexHigh :=
    wordUnder?_of_member rfl
  have hindexLow : wordUnder? "file_index_low" r.toJson = some r.indexLow :=
    wordUnder?_of_member rfl
  rw [ofValue?, hattributes, hcreation, hlastAccess, hlastWrite, hvolume, hsizeHigh, hsizeLow,
    hlinks, hindexHigh, hindexLow]
  rfl

theorem ofText?_of_read {text : String} {v : Json.Value} (h : Json.Value.ofText text = .ok v) :
    ofText? text = ofValue? v := by
  rw [ofText?, h]
  rfl

theorem ofText?_render (r : FileRecord) : ofText? r.toJson.render = some r :=
  (ofText?_of_read (Json.Value.means_render r.inRange_toJson).read).trans r.ofValue?_toJson

theorem counted_toJson (r : FileRecord) : r.toJson.Counted := by
  simp only [toJson, FileTime.toJson, wordJson, Json.Value.Counted, Json.MembersCounted,
    Int.natCast_nonneg, true_and, and_true]
  decide

/-- The numbers in the text of a record are its words. -/
theorem figures_toJson (r : FileRecord) :
    Json.figures r.toJson.render.toList = r.words.map UInt32.toNat := by
  have hfigures := Json.Value.figures_render Json.Number.NoDigit.nil r.toJson r.counted_toJson
  rw [List.append_nil, Json.figures_nil, List.append_nil] at hfigures
  exact hfigures

/-! ### Both forms -/

/-- The forms of a record: its image is how it is stored, with no cell left open; read as words it
gives the numbers of the text; and the record comes back from either. -/
structure FormsAgree (r : FileRecord) : Prop where
  cells : r.stored.cells = r.image.map some
  length : r.image.length = 52
  numbers : ∃ ws, wordsOf? r.image = some ws ∧ ws.length = 13 ∧
    Json.figures r.toJson.render.toList = ws.map UInt32.toNat
  fromImage : ofImage? r.image = some r
  fromText : ofText? r.toJson.render = some r

theorem formsAgree (r : FileRecord) : FormsAgree r where
  cells := r.cells_stored
  length := r.length_image
  numbers := ⟨r.words, wordsOf?_eq_some_iff.mpr rfl, rfl, r.figures_toJson⟩
  fromImage := ofImage?_eq_some_iff.mpr rfl
  fromText := r.ofText?_render

/-- The image and the text of a record hold the same thirteen numbers in the same order, and the
record comes back from either. So two records with one image, or with one text, are one record. -/
theorem forms_agree :
    (∀ r : FileRecord, FormsAgree r) ∧
    ∀ r q : FileRecord, (r.image = q.image ↔ r.toJson.render = q.toJson.render) ∧
      (r.toJson.render = q.toJson.render ↔ r = q) := by
  have himage {r q : FileRecord} : r.image = q.image ↔ r = q := by
    refine ⟨fun h => ?_, fun h => h ▸ rfl⟩
    have hq := q.formsAgree.fromImage
    rw [← h, r.formsAgree.fromImage] at hq
    exact Option.some.inj hq
  have htext {r q : FileRecord} : r.toJson.render = q.toJson.render ↔ r = q := by
    refine ⟨fun h => ?_, fun h => h ▸ rfl⟩
    have hq := q.formsAgree.fromText
    rw [← h, r.formsAgree.fromText] at hq
    exact Option.some.inj hq
  exact ⟨formsAgree, fun r q => ⟨himage.trans htext.symm, htext⟩⟩

end FileRecord

end FileTransfer
