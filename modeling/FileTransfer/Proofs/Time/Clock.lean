import FileTransfer.Proofs.Time.Ticks
import FileTransfer.Time.Clock

/-! Readings of the clock as numbers of nanoseconds.

The offset of a timestamp is the one span of time with less than a second in its nanoseconds that
measures the way from the start of 1970 (`Measures`). Its file time is that of the timestamp, also
where the number of nanoseconds wraps, for both are made of the same number (`offset_agrees`). -/
namespace FileTransfer

/-- Nanoseconds from the start of 1970 to a timestamp, without bounds. -/
def Timestamp.total (t : Timestamp) : Int :=
  t.seconds.toInt * 1000000000 + t.nanos.toInt

/-- The length of a span in nanoseconds. -/
def Span.total (s : Span) : Nat :=
  s.seconds.toNat * 1000000000 + s.nanos.toNat

theorem toInt_nanosPerSecond : nanosPerSecond.toInt = 1000000000 := by decide

/-! ### File times from nanoseconds -/

theorem toInt_seconds_add_nanos (seconds nanos : Int64) :
    (seconds * nanosPerSecond + nanos).toInt =
      wrap (seconds.toInt * 1000000000 + nanos.toInt) := by
  rw [Int64.toInt_add, Int64.toInt_mul, toInt_nanosPerSecond]
  exact Int.bmod_add_bmod

/-- Seconds and nanoseconds only count by their sum. -/
theorem FileTime.ofSeconds_congr {a b c d : Int64}
    (h : a.toInt * 1000000000 + b.toInt = c.toInt * 1000000000 + d.toInt) :
    ofSeconds a b = ofSeconds c d := by
  have hsum : a * nanosPerSecond + b = c * nanosPerSecond + d := by
    rw [← Int64.toInt_inj, toInt_seconds_add_nanos, toInt_seconds_add_nanos, h]
  rw [ofSeconds, ofSeconds, hsum]

/-! ### Spans that measure timestamps -/

theorem Span.eq_of_total {s u : Span} (hs : s.nanos.toNat < 1000000000)
    (hu : u.nanos.toNat < 1000000000) (h : s.total = u.total) : s = u := by
  unfold total at h
  have hseconds : s.seconds = u.seconds := UInt64.toNat_inj.mp (by omega)
  have hnanos : s.nanos = u.nanos := UInt32.toNat_inj.mp (by omega)
  show Span.mk s.seconds s.nanos = u
  rw [hseconds, hnanos]

namespace Offset

/-- An offset that leads from the start of 1970 to a timestamp, with less than a second in its
nanoseconds. It leads back only to what lies before. -/
inductive Measures : Offset → Timestamp → Prop where
  | after {s : Span} {t : Timestamp} (nanos : s.nanos.toNat < 1000000000)
      (total : t.total = s.total) : Measures (.after s) t
  | before {s : Span} {t : Timestamp} (nanos : s.nanos.toNat < 1000000000) (past : 0 < s.total)
      (total : t.total = -s.total) : Measures (.before s) t

theorem Measures.unique {o p : Offset} {t : Timestamp} (ho : o.Measures t) (hp : p.Measures t) :
    o = p := by
  cases ho with
  | after hon ho =>
    cases hp with
    | after hpn hp => rw [Span.eq_of_total hon hpn (by omega)]
    | before _ hpast hp => omega
  | before hon hpast ho =>
    cases hp with
    | after _ hp => omega
    | before hpn _ hp => rw [Span.eq_of_total hon hpn (by omega)]

/-- The casts of the parts of an offset to words with a sign, and their negations for an offset
back, each with the result that it has without bounds. -/
inductive NoWrap : Offset → Prop where
  | after {s : Span} (seconds : s.seconds.toInt64.toInt = s.seconds.toNat)
      (nanos : s.nanos.toUInt64.toInt64.toInt = s.nanos.toNat) : NoWrap (.after s)
  | before {s : Span} (seconds : s.seconds.toInt64.toInt = s.seconds.toNat)
      (nanos : s.nanos.toUInt64.toInt64.toInt = s.nanos.toNat)
      (secondsBack : (-s.seconds.toInt64).toInt = -s.seconds.toNat)
      (nanosBack : (-s.nanos.toUInt64.toInt64).toInt = -s.nanos.toNat) : NoWrap (.before s)

theorem noWrap_after {s : Span} (h : s.seconds.toNat < 9223372036854775808) :
    (Offset.after s).NoWrap :=
  .after (toInt_toInt64_of_lt h) (toInt_half _)

theorem noWrap_before {s : Span} (h : s.seconds.toNat < 9223372036854775808) :
    (Offset.before s).NoWrap := by
  have hseconds := toInt_toInt64_of_lt h
  have hnanos := toInt_half s.nanos
  have hlt := s.nanos.toNat_lt
  refine .before hseconds hnanos ?_ ?_
  · rw [toInt_neg_of_fits ⟨by omega, by omega⟩, hseconds]
  · rw [toInt_neg_of_fits ⟨by omega, by omega⟩, hnanos]

/-- An offset whose parts keep their values gives the file time of what it measures. -/
theorem NoWrap.toFileTime {o : Offset} {t : Timestamp} (hw : o.NoWrap) (hm : o.Measures t) :
    o.toFileTime = t.toFileTime := by
  cases hm with
  | after _ htotal =>
    cases hw with
    | after hseconds hnanos =>
      refine FileTime.ofSeconds_congr ?_
      rw [hseconds, hnanos]
      simp only [Timestamp.total, Span.total] at htotal
      omega
  | before _ _ htotal =>
    cases hw with
    | before _ _ hseconds hnanos =>
      refine FileTime.ofSeconds_congr ?_
      rw [hseconds, hnanos]
      simp only [Timestamp.total, Span.total] at htotal
      omega

theorem measures_after {t : Timestamp} {seconds : UInt64} {nanos : UInt32}
    (hs : seconds.toNat < 9223372036854775808) (hn : nanos.toNat < 1000000000)
    (ht : t.total = seconds.toNat * 1000000000 + nanos.toNat) :
    (Offset.after ⟨seconds, nanos⟩).Measures t ∧ (Offset.after ⟨seconds, nanos⟩).NoWrap := by
  refine ⟨.after hn ?_, noWrap_after hs⟩
  simp only [Span.total]
  omega

theorem measures_before {t : Timestamp} {seconds : UInt64} {nanos : UInt32}
    (hs : seconds.toNat < 9223372036854775808) (hn : nanos.toNat < 1000000000)
    (hpast : t.total < 0) (ht : t.total = -(seconds.toNat * 1000000000 + nanos.toNat)) :
    (Offset.before ⟨seconds, nanos⟩).Measures t ∧ (Offset.before ⟨seconds, nanos⟩).NoWrap := by
  refine ⟨.before hn ?_ ?_, noWrap_before hs⟩ <;> simp only [Span.total] <;> omega

end Offset

/-! ### The offset of a timestamp -/

/-- What a word with a sign keeps as one without, if it is not negative. -/
theorem toNat_of_nonneg {w : Int64} (h : 0 ≤ w.toInt) : (w.toUInt64.toNat : Int) = w.toInt := by
  obtain ⟨-, hmax⟩ := toInt_fits w
  rw [toNat_toUInt64]
  omega

/-- A small word keeps its value in a half. -/
theorem toNat_half_of_lt {w : Int64} (h : 0 ≤ w.toInt) (hlt : w.toInt < 4294967296) :
    (w.toUInt64.toUInt32.toNat : Int) = w.toInt := by
  have hnat := toNat_of_nonneg h
  rw [UInt64.toNat_toUInt32]
  omega

namespace Timestamp
variable {t : Timestamp}

theorem offset_measures (hmin : -9223372036854775808 < t.seconds.toInt) (hnanos : 0 ≤ t.nanos.toInt)
    (hlt : t.nanos.toInt < 1000000000) : t.offset.Measures t ∧ t.offset.NoWrap := by
  obtain ⟨-, hmax⟩ := toInt_fits t.seconds
  have hone := Int64.toInt_one
  have hsecond := toInt_nanosPerSecond
  have htotal : t.total = t.seconds.toInt * 1000000000 + t.nanos.toInt := rfl
  unfold offset
  split
  · next h =>
    rw [Int64.le_iff_toInt_le, Int64.toInt_zero] at h
    have hs := toNat_of_nonneg h
    have hn := toNat_half_of_lt hnanos (by omega)
    exact Offset.measures_after (by omega) (by omega) (by omega)
  · next h =>
    rw [Int64.le_iff_toInt_le, Int64.toInt_zero] at h
    have hneg : (-t.seconds).toInt = -t.seconds.toInt := toInt_neg_of_fits ⟨by omega, by omega⟩
    split
    · next h0 =>
      have hs := toNat_of_nonneg (w := -t.seconds) (by omega)
      have hn : t.nanos.toInt = 0 := by rw [h0, Int64.toInt_zero]
      refine Offset.measures_before (by omega) (by decide) (by omega) ?_
      rw [UInt32.toNat_zero]
      omega
    · next h0 =>
      rw [← Int64.toInt_inj, Int64.toInt_zero] at h0
      -- part of the second before the timestamp is borrowed
      have hborrow : (-t.seconds - 1).toInt = -t.seconds.toInt - 1 := by
        rw [toInt_sub_of_fits ⟨by omega, by omega⟩, hneg, Int64.toInt_one]
      have hrest : (nanosPerSecond - t.nanos).toInt = 1000000000 - t.nanos.toInt := by
        rw [toInt_sub_of_fits ⟨by omega, by omega⟩, toInt_nanosPerSecond]
      have hs := toNat_of_nonneg (w := -t.seconds - 1) (by omega)
      have hn := toNat_half_of_lt (w := nanosPerSecond - t.nanos) (by omega) (by omega)
      exact Offset.measures_before (by omega) (by omega) (by omega) (by omega)

/-- A timestamp with its nanoseconds between zero and a second and its seconds not the least has
one offset that measures it. The file time of the offset is that of the timestamp, and no cast or
negation on the way to it wraps, whether or not the number of nanoseconds does. -/
theorem offset_agrees (hmin : -9223372036854775808 < t.seconds.toInt) (hnanos : 0 ≤ t.nanos.toInt)
    (hlt : t.nanos.toInt < 1000000000) :
    (∀ o : Offset, o.Measures t ↔ o = t.offset) ∧ t.offset.toFileTime = t.toFileTime ∧
      t.offset.NoWrap := by
  obtain ⟨hmeasures, hwrap⟩ := offset_measures hmin hnanos hlt
  refine ⟨fun o => ⟨fun ho => ho.unique hmeasures, ?_⟩, hwrap.toFileTime hmeasures, hwrap⟩
  rintro rfl
  exact hmeasures

/-- The first timestamp that has an offset but for its nanoseconds: their number wraps. -/
theorem offset_agrees_first :
    let t : Timestamp := ⟨-9223372036854775807, 1⟩
    0 ≤ t.nanos.toInt ∧ t.nanos.toInt < 1000000000 ∧ -9223372036854775808 < t.seconds.toInt ∧
      wrap t.total ≠ t.total ∧ t.offset = .before ⟨9223372036854775806, 999999999⟩ ∧
      t.offset.toFileTime = t.toFileTime := by
  intro t
  have hmin : -9223372036854775808 < t.seconds.toInt := by decide
  have hnanos : 0 ≤ t.nanos.toInt := by decide
  have hlt : t.nanos.toInt < 1000000000 := by decide
  exact ⟨hnanos, hlt, hmin, by decide, by decide, (offset_agrees hmin hnanos hlt).2.1⟩

end Timestamp

end FileTransfer
