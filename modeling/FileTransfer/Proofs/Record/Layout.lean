import FileTransfer.Record.Form

/-! How values are stored.

A scalar is stored at a multiple of its own length, the fields of a record one after the other at
places that fit them, and a record is filled up to a multiple of what its fields need. What is left
open between them holds no byte. Where all scalars have one length nothing is left open
(`Stored.gapless`), so a file record is stored as the words of its image and no more
(`FileRecord.cells_stored`). From these bytes the words are read back (`wordsOf?_eq_some_iff`). -/
namespace FileTransfer

/-! ### Storing -/

/-- A value that is stored: the bytes of a scalar, or the fields of a record in their order. -/
inductive Stored where
  | scalar (bytes : List UInt8)
  | record (fields : List Stored)

namespace Stored

mutual

/-- What the place of a value is a multiple of. -/
def alignment : Stored → Nat
  | .scalar bytes => bytes.length
  | .record fields => alignmentOf fields

def alignmentOf : List Stored → Nat
  | [] => 1
  | f :: rest => max (alignment f) (alignmentOf rest)

end

/-- What is left open from a place to the next multiple of an alignment. -/
def gap (alignment place : Nat) : List (Option UInt8) :=
  List.replicate ((alignment - place % alignment) % alignment) none

mutual

/-- The cells that a value takes, each with its byte if it holds one. -/
def cells : Stored → List (Option UInt8)
  | .scalar bytes => bytes.map some
  | .record fields =>
    let placed := cellsAfter [] fields
    placed ++ gap (alignmentOf fields) placed.length

/-- The cells of a record, from those of its first fields on. -/
def cellsAfter (before : List (Option UInt8)) : List Stored → List (Option UInt8)
  | [] => before
  | f :: rest => cellsAfter (before ++ gap (alignment f) before.length ++ cells f) rest

end

/-- A byte and a word leave three cells open between them. -/
example : (record [.scalar [1], .scalar [2, 3, 4, 5]]).cells =
    [some 1, none, none, none, some 2, some 3, some 4, some 5] := by
  decide

mutual

/-- The bytes of a value, whatever stands between them. -/
def bytes : Stored → List UInt8
  | .scalar bytes => bytes
  | .record fields => bytesOf fields

def bytesOf : List Stored → List UInt8
  | [] => []
  | f :: rest => bytes f ++ bytesOf rest

end

mutual

/-- All scalars in a value have one length. -/
def Uniform (n : Nat) : Stored → Prop
  | .scalar bytes => bytes.length = n
  | .record fields => UniformAll n fields

def UniformAll (n : Nat) : List Stored → Prop
  | [] => True
  | f :: rest => Uniform n f ∧ UniformAll n rest

end

theorem gap_eq_nil {alignment place : Nat} (h : alignment ∣ place) : gap alignment place = [] := by
  rw [gap, Nat.mod_eq_zero_of_dvd h, Nat.sub_zero, Nat.mod_self, List.replicate_zero]

/-- A value that fills its cells, and may stand wherever another one of its kind ends. -/
structure Gapless (n : Nat) (s : Stored) : Prop where
  cells : s.cells = s.bytes.map some
  alignment : s.alignment ∣ n
  length : n ∣ s.bytes.length

/-- Fields that fill their cells, from any place on at which one of them may stand. -/
structure GaplessAll (n : Nat) (fields : List Stored) : Prop where
  cells : ∀ before : List (Option UInt8), n ∣ before.length →
    cellsAfter before fields = before ++ (bytesOf fields).map some
  alignment : alignmentOf fields ∣ n
  length : n ∣ (bytesOf fields).length

mutual

theorem gapless {n : Nat} : (s : Stored) → s.Uniform n → Gapless n s
  | .scalar bytes, h =>
    { cells := rfl
      alignment := h ▸ Nat.dvd_refl _
      length := h ▸ Nat.dvd_refl _ }
  | .record fields, h => by
    have hall := gaplessAll fields h
    have hplaced : cellsAfter [] fields = (bytesOf fields).map some :=
      hall.cells [] (Nat.dvd_zero n)
    have hgap : gap (alignmentOf fields) ((bytesOf fields).map some).length = [] := by
      rw [List.length_map]
      exact gap_eq_nil (Nat.dvd_trans hall.alignment hall.length)
    exact
      { cells := by rw [cells, hplaced, hgap, List.append_nil, bytes]
        alignment := hall.alignment
        length := hall.length }

theorem gaplessAll {n : Nat} : (fields : List Stored) → UniformAll n fields → GaplessAll n fields
  | [], _ =>
    { cells := fun before _ => (List.append_nil before).symm
      alignment := Nat.one_dvd n
      length := Nat.dvd_zero n }
  | f :: rest, ⟨hf, hrest⟩ => by
    have hfirst := gapless f hf
    have hall := gaplessAll rest hrest
    refine { cells := fun before hbefore => ?_, alignment := ?_, length := ?_ }
    · have hgap : gap f.alignment before.length = [] :=
        gap_eq_nil (Nat.dvd_trans hfirst.alignment hbefore)
      have hnext : n ∣ (before ++ f.bytes.map some).length := by
        rw [List.length_append, List.length_map]
        exact Nat.dvd_add hbefore hfirst.length
      rw [cellsAfter, hgap, hfirst.cells, List.append_nil, hall.cells _ hnext, bytesOf,
        List.map_append, List.append_assoc]
    · rw [alignmentOf, Nat.max_def]
      split
      · exact hall.alignment
      · exact hfirst.alignment
    · rw [bytesOf, List.length_append]
      exact Nat.dvd_add hfirst.length hall.length

end

end Stored

/-- A word as it is stored. -/
def storedWord (w : UInt32) : Stored :=
  .scalar (littleEndian w)

/-- A file time as it is stored, the low half first. -/
def FileTime.stored (t : FileTime) : Stored :=
  .record [storedWord t.low, storedWord t.high]

namespace FileRecord

/-- A file record as it is stored, field by field. -/
def stored (r : FileRecord) : Stored :=
  .record
    [storedWord r.attributes, r.creation.stored, r.lastAccess.stored, r.lastWrite.stored,
      storedWord r.volume, storedWord r.sizeHigh, storedWord r.sizeLow, storedWord r.links,
      storedWord r.indexHigh, storedWord r.indexLow]

/-- A file record is stored as its image, with no cell left open. -/
theorem cells_stored (r : FileRecord) : r.stored.cells = r.image.map some := by
  have huniform : r.stored.Uniform 4 := by
    simp [stored, FileTime.stored, storedWord, Stored.Uniform, Stored.UniformAll, littleEndian]
  have hbytes : r.stored.bytes = r.image := by
    simp [stored, FileTime.stored, storedWord, Stored.bytes, Stored.bytesOf, image, words]
  rw [(Stored.gapless _ huniform).cells, hbytes]

end FileRecord

/-! ### Reading words -/

/-- The word of four bytes, the lowest first. -/
def wordOf (a b c d : UInt8) : UInt32 :=
  .ofNat (a.toNat + 256 * b.toNat + 65536 * c.toNat + 16777216 * d.toNat)

/-- The words that bytes are, if they are whole words. -/
def wordsOf? : List UInt8 → Option (List UInt32)
  | [] => some []
  | a :: b :: c :: d :: rest => (wordsOf? rest).map (wordOf a b c d :: ·)
  | _ => none

theorem toNat_wordOf (a b c d : UInt8) : (wordOf a b c d).toNat =
    a.toNat + 256 * b.toNat + 65536 * c.toNat + 16777216 * d.toNat := by
  have ha := a.toNat_lt
  have hb := b.toNat_lt
  have hc := c.toNat_lt
  have hd := d.toNat_lt
  rw [wordOf, UInt32.toNat_ofNat']
  exact Nat.mod_eq_of_lt (by omega)

/-- The bytes of a word as numbers. -/
theorem toNat_littleEndian (w : UInt32) : (littleEndian w).map UInt8.toNat =
    [w.toNat % 256, w.toNat / 256 % 256, w.toNat / 65536 % 256, w.toNat / 16777216 % 256] := by
  have hshift (k : UInt32) : (w >>> k).toNat = w.toNat / 2 ^ (k.toNat % 32) := by
    rw [UInt32.toNat_shiftRight, Nat.shiftRight_eq_div_pow]
  simp only [littleEndian, List.map_cons, List.map_nil, UInt32.toNat_toUInt8, hshift]
  rfl

theorem littleEndian_eq_iff {w : UInt32} {a b c d : UInt8} :
    littleEndian w = [a, b, c, d] ↔ wordOf a b c d = w := by
  have ha := a.toNat_lt
  have hb := b.toNat_lt
  have hc := c.toNat_lt
  have hd := d.toNat_lt
  have hw := w.toNat_lt
  have hbytes : littleEndian w = [a, b, c, d] ↔
      (littleEndian w).map UInt8.toNat = [a, b, c, d].map UInt8.toNat :=
    (List.map_inj_right fun _ _ => UInt8.toNat_inj.mp).symm
  rw [hbytes, toNat_littleEndian, ← UInt32.toNat_inj, toNat_wordOf]
  simp only [List.map_cons, List.map_nil, List.cons.injEq, and_true]
  omega

/-- Bytes are the words of just one list of words. -/
theorem wordsOf?_eq_some_iff {bytes : List UInt8} {ws : List UInt32} :
    wordsOf? bytes = some ws ↔ bytes = ws.flatMap littleEndian := by
  constructor
  · intro h
    fun_induction wordsOf? bytes generalizing ws with
    | case1 =>
      cases h
      rfl
    | case2 a b c d rest ih =>
      obtain ⟨vs, hvs, rfl⟩ := Option.map_eq_some_iff.mp h
      rw [List.flatMap_cons, littleEndian_eq_iff.mpr rfl, ← ih hvs]
      rfl
    | case3 => cases h
  · rintro rfl
    induction ws with
    | nil => rfl
    | cons w ws ih =>
      obtain ⟨a, b, c, d, h⟩ : ∃ a b c d, littleEndian w = [a, b, c, d] := ⟨_, _, _, _, rfl⟩
      have hfirst (rest : List UInt8) : wordsOf? ([a, b, c, d] ++ rest) =
          (wordsOf? rest).map (wordOf a b c d :: ·) := rfl
      rw [List.flatMap_cons, h, hfirst, ih, littleEndian_eq_iff.mp h]
      rfl

end FileTransfer
