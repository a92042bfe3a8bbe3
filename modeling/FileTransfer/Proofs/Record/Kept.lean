import FileTransfer.Proofs.Time.Clock
import FileTransfer.Record.Status

/-! What a record keeps of a status.

The halves of a number hold all of it, and a file time holds the whole ticks of its timestamp. So
two statuses give the same record just if they agree on being a directory, in size and index, in the
low half of the link count and in the whole ticks of both times (`toRecord_eq_iff`). -/
namespace FileTransfer

namespace Halves

theorem toNat_high (n : UInt64) : (split n).high.toNat = n.toNat / 4294967296 := by
  have hlt := n.toNat_lt
  have hshift : (n >>> 32).toNat = n.toNat / 4294967296 := by
    rw [UInt64.toNat_shiftRight]
    exact Nat.shiftRight_eq_div_pow _ 32
  rw [split, UInt64.toNat_toUInt32, hshift]
  omega

theorem toNat_low (n : UInt64) : (split n).low.toNat = n.toNat % 4294967296 :=
  n.toNat_toUInt32

theorem split_inj {a b : UInt64} : split a = split b ↔ a = b := by
  refine ⟨fun h => UInt64.toNat_inj.mp ?_, congrArg split⟩
  have hhigh : a.toNat / 4294967296 = b.toNat / 4294967296 := by
    rw [← toNat_high, h, toNat_high]
  have hlow : a.toNat % 4294967296 = b.toNat % 4294967296 := by
    rw [← toNat_low, h, toNat_low]
  omega

theorem toNat_join (h : Halves) : h.join.toNat = h.high.toNat * 4294967296 + h.low.toNat := by
  have hhigh := h.high.toNat_lt
  have hlow : h.low.toNat < 2 ^ 32 := h.low.toNat_lt
  have hshift : (h.high.toUInt64 <<< 32).toNat = h.high.toNat <<< 32 := by
    rw [UInt64.toNat_shiftLeft, UInt32.toNat_toUInt64]
    refine Nat.mod_eq_of_lt ?_
    rw [Nat.shiftLeft_eq, show UInt64.toNat 32 % 64 = 32 from rfl]
    omega
  rw [join, UInt64.toNat_or, hshift, UInt32.toNat_toUInt64,
    ← Nat.shiftLeft_add_eq_or_of_lt hlow, Nat.shiftLeft_eq]

theorem join_split (n : UInt64) : join (split n) = n := by
  rw [← UInt64.toNat_inj, toNat_join, toNat_high, toNat_low]
  omega

theorem split_join (h : Halves) : split h.join = h := by
  have hhigh : (split h.join).high = h.high := by
    have hlow := h.low.toNat_lt
    rw [← UInt32.toNat_inj, toNat_high, toNat_join]
    omega
  have hlow : (split h.join).low = h.low := by
    have hlt := h.low.toNat_lt
    rw [← UInt32.toNat_inj, toNat_low, toNat_join]
    omega
  show Halves.mk (split h.join).high (split h.join).low = h
  rw [hhigh, hlow]

theorem join_inj {a b : Halves} : a.join = b.join ↔ a = b :=
  ⟨fun h => by rw [← split_join a, h, split_join], congrArg join⟩

end Halves

namespace Timestamp

/-- Whole ticks from the start of 1970 to a timestamp, as far as its nanoseconds fit a word. A part
of a tick is dropped toward zero. -/
def wholeTicks (t : Timestamp) : Int :=
  (wrap t.total).tdiv 100

theorem toFileTime_eq_iff {a b : Timestamp} :
    a.toFileTime = b.toFileTime ↔ a.wholeTicks = b.wholeTicks := by
  simp only [toFileTime, FileTime.ofSeconds, FileTime.ofNanos, FileTime.ofTicks_inj,
    nanosToTicks_eq_iff, toInt_seconds_add_nanos, wholeTicks, total]

/-- What is less than a tick before the start of 1970 is not told from what is less than one after
it. -/
example : wholeTicks ⟨-1, 999999901⟩ = wholeTicks ⟨0, 99⟩ := by decide

end Timestamp

namespace Status

theorem attributes_toRecord (s : Status) : s.toRecord.attributes =
    if s.mode &&& typeMask = directoryType then directoryAttribute else normalAttribute := by
  show (if s.isDirectory then directoryAttribute else normalAttribute) = _
  simp only [isDirectory, beq_iff_eq]

theorem attributes_eq_iff {a b : Status} : a.toRecord.attributes = b.toRecord.attributes ↔
    (a.mode &&& typeMask = directoryType ↔ b.mode &&& typeMask = directoryType) := by
  have hne : directoryAttribute ≠ normalAttribute := by decide
  rw [attributes_toRecord, attributes_toRecord]
  by_cases ha : a.mode &&& typeMask = directoryType <;>
    by_cases hb : b.mode &&& typeMask = directoryType <;> simp [ha, hb, hne, hne.symm]

theorem links_eq_iff {a b : Status} : a.toRecord.links = b.toRecord.links ↔
    a.links.toNat % 4294967296 = b.links.toNat % 4294967296 := by
  rw [← UInt32.toNat_inj]
  exact Iff.rfl

/-- The fields of a record, the halves of each number together. The time of creation is that of the
last change. -/
theorem toRecord_eq_iff_fields {a b : Status} : a.toRecord = b.toRecord ↔
    a.toRecord.attributes = b.toRecord.attributes ∧ Halves.split a.size = Halves.split b.size ∧
      Halves.split a.index = Halves.split b.index ∧ a.toRecord.links = b.toRecord.links ∧
      a.mtime.toFileTime = b.mtime.toFileTime ∧ a.atime.toFileTime = b.atime.toFileTime := by
  constructor
  · intro h
    refine ⟨congrArg FileRecord.attributes h, ?_, ?_, congrArg FileRecord.links h,
      congrArg FileRecord.lastWrite h, congrArg FileRecord.lastAccess h⟩
    · exact congrArg (fun r => Halves.mk r.sizeHigh r.sizeLow) h
    · exact congrArg (fun r => Halves.mk r.indexHigh r.indexLow) h
  · rintro ⟨hattributes, hsize, hindex, hlinks, hmtime, hatime⟩
    have hrecord (s : Status) : s.toRecord =
        { attributes := s.toRecord.attributes, creation := s.mtime.toFileTime,
          lastAccess := s.atime.toFileTime, lastWrite := s.mtime.toFileTime, volume := 0,
          sizeHigh := (Halves.split s.size).high, sizeLow := (Halves.split s.size).low,
          links := s.toRecord.links, indexHigh := (Halves.split s.index).high,
          indexLow := (Halves.split s.index).low } := rfl
    rw [hrecord a, hrecord b, hattributes, hsize, hindex, hlinks, hmtime, hatime]

/-- Two statuses give the same record just if both or neither are of a directory by all type bits,
the sizes and the indices are equal, the link counts are equal in their low 32 bits, and the times
of the last change and of the last access are equal in whole ticks. Nothing else counts. -/
theorem toRecord_eq_iff (a b : Status) : a.toRecord = b.toRecord ↔
    (a.mode &&& typeMask = directoryType ↔ b.mode &&& typeMask = directoryType) ∧
      a.size = b.size ∧ a.index = b.index ∧
      a.links.toNat % 4294967296 = b.links.toNat % 4294967296 ∧
      a.mtime.wholeTicks = b.mtime.wholeTicks ∧ a.atime.wholeTicks = b.atime.wholeTicks := by
  rw [toRecord_eq_iff_fields, attributes_eq_iff, links_eq_iff, Halves.split_inj, Halves.split_inj,
    Timestamp.toFileTime_eq_iff, Timestamp.toFileTime_eq_iff]

end Status

end FileTransfer
