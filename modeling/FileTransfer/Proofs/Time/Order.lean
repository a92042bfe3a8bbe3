import FileTransfer.Proofs.Record.Kept

/-! File times in order.

A file time can be compared by its halves, by its 64 bits and by its tick count. The first two agree
for all pairs of halves, and the tick count agrees with them just for two file times of one sign
(`ticks_lt_iff_before`). The ticks of a number of nanoseconds are never negative, so that all three
give the order of the whole ticks, on both sides of 1970 (`order_ofNanos`). -/
namespace FileTransfer
namespace FileTime

variable {a b : FileTime}

/-- Smaller in the high half, or equal there and smaller in the low half. -/
def Before (a b : FileTime) : Prop :=
  a.high < b.high ∨ a.high = b.high ∧ a.low < b.low

instance (a b : FileTime) : Decidable (Before a b) :=
  inferInstanceAs (Decidable (_ ∨ _))

/-! ### Three ways to compare -/

theorem before_iff : a.Before b ↔
    a.high.toNat * 4294967296 + a.low.toNat < b.high.toNat * 4294967296 + b.low.toNat := by
  have ha := a.low.toNat_lt
  have hb := b.low.toNat_lt
  rw [Before, UInt32.lt_iff_toNat_lt, UInt32.lt_iff_toNat_lt, ← UInt32.toNat_inj]
  omega

theorem toNat_toBits (t : FileTime) : t.toBits.toNat = t.high.toNat * 4294967296 + t.low.toNat :=
  Halves.toNat_join ⟨t.high, t.low⟩

theorem toBits_lt_iff_before : a.toBits < b.toBits ↔ a.Before b := by
  rw [UInt64.lt_iff_toNat_lt, toNat_toBits, toNat_toBits, before_iff]

/-- Tick counts are in the order of their halves just if both have a sign or none has. -/
theorem ticks_lt_iff_before : (a.ticks < b.ticks ↔ a.Before b) ↔
    (a.ticks.toInt < 0 ↔ b.ticks.toInt < 0) := by
  have ha := a.toInt_ticks_emod
  have hb := b.toInt_ticks_emod
  have hafits := toInt_fits a.ticks
  have hbfits := toInt_fits b.ticks
  unfold Fits at hafits hbfits
  rw [Int64.lt_iff_toInt_lt, before_iff]
  omega

/-! ### The order of what is counted -/

/-- Two file times stand to one another as two numbers do, in whatever way they are compared. -/
structure InOrder (a b : FileTime) (x y : Int) : Prop where
  before : a.Before b ↔ x < y
  equal : a.high = b.high ∧ a.low = b.low ↔ x = y
  ticks : a.ticks < b.ticks ↔ x < y
  bits : a.toBits < b.toBits ↔ x < y

theorem eq_iff_halves : a = b ↔ a.high = b.high ∧ a.low = b.low := by
  cases a
  cases b
  simp only [mk.injEq, and_comm]

theorem ticks_ofNanos_nonneg (nanos : Int64) : 0 ≤ (ofNanos nanos).ticks.toInt := by
  obtain ⟨hmin, -⟩ := tdiv_tick_fits nanos
  rw [ticks_ofNanos, toInt_nanosToTicks]
  omega

theorem inOrder_ofNanos (n m : Int64) :
    InOrder (ofNanos n) (ofNanos m) (n.toInt.tdiv 100) (m.toInt.tdiv 100) := by
  have hn := ticks_ofNanos_nonneg n
  have hm := ticks_ofNanos_nonneg m
  have hticks : (ofNanos n).ticks < (ofNanos m).ticks ↔ n.toInt.tdiv 100 < m.toInt.tdiv 100 := by
    rw [Int64.lt_iff_toInt_lt, ticks_ofNanos, ticks_ofNanos, toInt_nanosToTicks,
      toInt_nanosToTicks, Int.add_lt_add_iff_right]
  have hsign : (ofNanos n).ticks.toInt < 0 ↔ (ofNanos m).ticks.toInt < 0 := by omega
  have hbefore := (ticks_lt_iff_before.mpr hsign).symm.trans hticks
  exact
    { before := hbefore
      equal := by rw [← eq_iff_halves, ← ticks_inj, ticks_ofNanos, ticks_ofNanos,
        nanosToTicks_eq_iff]
      ticks := hticks
      bits := toBits_lt_iff_before.trans hbefore }

end FileTime

/-- Timestamps whose nanoseconds fit are in the order of their whole ticks. -/
theorem Timestamp.inOrder_toFileTime {s t : Timestamp} (hs : Fits s.total) (ht : Fits t.total) :
    FileTime.InOrder s.toFileTime t.toFileTime (s.total.tdiv 100) (t.total.tdiv 100) := by
  have hnanos {u : Timestamp} (hu : Fits u.total) :
      (u.seconds * nanosPerSecond + u.nanos).toInt = u.total := by
    rw [toInt_seconds_add_nanos]
    exact wrap_of_fits hu
  have h := FileTime.inOrder_ofNanos (s.seconds * nanosPerSecond + s.nanos)
    (t.seconds * nanosPerSecond + t.nanos)
  rwa [hnanos hs, hnanos ht] at h

namespace FileTime

/-- The file times of any two numbers of nanoseconds are in the order of their whole ticks, compared
by their halves, their tick counts or their bits. So are the times in the records of two files, as
long as the nanoseconds of each fit a word. -/
theorem order_ofNanos :
    (∀ n m : Int64, InOrder (ofNanos n) (ofNanos m) (n.toInt.tdiv 100) (m.toInt.tdiv 100)) ∧
    ∀ s t : Status,
      (Fits s.mtime.total → Fits t.mtime.total →
        InOrder s.toRecord.lastWrite t.toRecord.lastWrite
          (s.mtime.total.tdiv 100) (t.mtime.total.tdiv 100)) ∧
      (Fits s.atime.total → Fits t.atime.total →
        InOrder s.toRecord.lastAccess t.toRecord.lastAccess
          (s.atime.total.tdiv 100) (t.atime.total.tdiv 100)) :=
  ⟨inOrder_ofNanos, fun _ _ =>
    ⟨Timestamp.inOrder_toFileTime, Timestamp.inOrder_toFileTime⟩⟩

/-- A file that was changed a tick before 1970 comes before one that was changed at its start; less
than a tick makes no difference. -/
theorem order_around_unixEpoch :
    let status (seconds nanos : Int64) : Status := ⟨0, default, ⟨seconds, nanos⟩, 0, 0, 0⟩
    let written (seconds nanos : Int64) := (status seconds nanos).toRecord.lastWrite
    (written (-1) 999999900).Before (written 0 0) ∧
      (written (-1) 999999900).ticks < (written 0 0).ticks ∧
      ((written (-1) 999999901).high = (written 0 0).high ∧
        (written (-1) 999999901).low = (written 0 0).low) ∧
      (ofNanos (-9223372036854775808)).toBits < (ofNanos 9223372036854775807).toBits := by
  intro status written
  have hstart : Fits (Timestamp.mk 0 0).total := ⟨by decide, by decide⟩
  have htick : Fits (Timestamp.mk (-1) 999999900).total := ⟨by decide, by decide⟩
  have hless : Fits (Timestamp.mk (-1) 999999901).total := ⟨by decide, by decide⟩
  obtain ⟨hnanos, hrecords⟩ := order_ofNanos
  have h := (hrecords (status (-1) 999999900) (status 0 0)).1 htick hstart
  have hsame := (hrecords (status (-1) 999999901) (status 0 0)).1 hless hstart
  exact ⟨h.before.mpr (by decide), h.ticks.mpr (by decide), hsame.equal.mpr (by decide),
    (hnanos _ _).bits.mpr (by decide)⟩

end FileTime

end FileTransfer
