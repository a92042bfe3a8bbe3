import FileTransfer.Proofs.Record.Kept

/-! What the record of a status says.

Each field of a record says one thing of the status it was made from (`Describes`): the numbers are
whole in their two halves, the link count is cut, one attribute of two says whether the file is a
directory, and the times are those of the last change and of the last access. Together they leave
nothing open, so a record describes a status just if it was made from it (`describes_iff`). -/
namespace FileTransfer
namespace FileRecord

/-- What a record says of a status. It is said of a directory that it is one, and of nothing else,
devices and sockets included; the last change stands for the time of creation. -/
structure Describes (r : FileRecord) (s : Status) : Prop where
  size : r.size = s.size
  index : r.index = s.index
  links : r.links.toNat = s.links.toNat % 4294967296
  volume : r.volume = 0
  attributes : r.attributes = 0x10 ∨ r.attributes = 0x80
  directory : r.isDirectory = true ↔ s.mode &&& 0o170000 = 0o040000
  creation : r.creation.ticks.toInt = s.mtime.wholeTicks + 116444736000000000
  lastAccess : r.lastAccess.ticks.toInt = s.atime.wholeTicks + 116444736000000000
  lastWrite : r.lastWrite.ticks.toInt = s.mtime.wholeTicks + 116444736000000000

theorem isDirectory_iff {r : FileRecord} (h : r.attributes = 0x10 ∨ r.attributes = 0x80) :
    r.isDirectory = true ↔ r.attributes = 0x10 := by
  unfold isDirectory
  rcases h with h | h <;> rw [h] <;> decide

/-- A status leaves nothing open in a record that describes it. -/
theorem Describes.unique {r q : FileRecord} {s : Status} (hr : r.Describes s)
    (hq : q.Describes s) : r = q := by
  have hattributes : r.attributes = q.attributes := by
    have hsame : r.attributes = 0x10 ↔ q.attributes = 0x10 := by
      rw [← isDirectory_iff hr.attributes, ← isDirectory_iff hq.attributes, hr.directory,
        hq.directory]
    rcases hr.attributes with h | h <;> rcases hq.attributes with h' | h' <;> simp_all
  have hsize : Halves.mk r.sizeHigh r.sizeLow = Halves.mk q.sizeHigh q.sizeLow :=
    Halves.join_inj.mp (hr.size.trans hq.size.symm)
  have hindex : Halves.mk r.indexHigh r.indexLow = Halves.mk q.indexHigh q.indexLow :=
    Halves.join_inj.mp (hr.index.trans hq.index.symm)
  have hlinks : r.links = q.links := UInt32.toNat_inj.mp (hr.links.trans hq.links.symm)
  have htime {a b : FileTime} (h : a.ticks.toInt = b.ticks.toInt) : a = b :=
    FileTime.ticks_inj.mp (Int64.toInt_inj.mp h)
  obtain ⟨hsizeHigh, hsizeLow⟩ := Halves.mk.inj hsize
  obtain ⟨hindexHigh, hindexLow⟩ := Halves.mk.inj hindex
  cases r
  cases q
  simp only [mk.injEq]
  exact ⟨hattributes, htime (hr.creation.trans hq.creation.symm),
    htime (hr.lastAccess.trans hq.lastAccess.symm), htime (hr.lastWrite.trans hq.lastWrite.symm),
    hr.volume.trans hq.volume.symm, hsizeHigh, hsizeLow, hlinks, hindexHigh, hindexLow⟩

end FileRecord

theorem Timestamp.toInt_ticks_toFileTime (t : Timestamp) :
    t.toFileTime.ticks.toInt = t.wholeTicks + 116444736000000000 := by
  rw [toFileTime, FileTime.ofSeconds, FileTime.ticks_ofNanos, toInt_nanosToTicks,
    toInt_seconds_add_nanos]
  rfl

namespace Status

theorem describes_toRecord (s : Status) : s.toRecord.Describes s where
  size := Halves.join_split s.size
  index := Halves.join_split s.index
  links := rfl
  volume := rfl
  attributes := by
    rw [attributes_toRecord]
    split
    · exact .inl rfl
    · exact .inr rfl
  directory := by
    unfold FileRecord.isDirectory
    rw [attributes_toRecord]
    split
    · next h => exact iff_of_true (by decide) h
    · next h => exact iff_of_false (by decide) h
  creation := s.mtime.toInt_ticks_toFileTime
  lastAccess := s.atime.toInt_ticks_toFileTime
  lastWrite := s.mtime.toInt_ticks_toFileTime

/-- A record describes a status just if it is the one that is made from it. -/
theorem describes_iff (r : FileRecord) (s : Status) : r.Describes s ↔ r = s.toRecord := by
  refine ⟨fun h => h.unique s.describes_toRecord, ?_⟩
  rintro rfl
  exact s.describes_toRecord

/-- A socket has the type bit of a directory and is none. -/
example : (toRecord ⟨0o140755, default, default, 0, 0, 0⟩).isDirectory = false := by decide

end Status

end FileTransfer
