import FileTransfer.Proofs.Time.Clock

/-! Where the arithmetic of file times is exact.

A tick count has its true number of nanoseconds just if this number fits a word, and these are just
the tick counts that are the count of some number of nanoseconds (`ticksToNanos_window`). Seconds and
nanoseconds give the true tick count just if their total fits a word, whatever the steps on the way
to it do (`ticks_ofSeconds_iff`). What wraps differs from the true number by far more than the ticks
that a division drops, so that no wrong result is right by accident. -/
namespace FileTransfer

/-! ### What wraps -/

theorem wrap_fits (n : Int) : Fits (wrap n) :=
  ⟨Int.le_bmod (by decide), Int.bmod_lt (by decide)⟩

theorem wrap_eq_iff {n : Int} : wrap n = n ↔ Fits n :=
  ⟨fun h => h ▸ wrap_fits n, wrap_of_fits⟩

/-- A number that wraps does not keep its whole ticks. -/
theorem tdiv_wrap_eq_iff {n : Int} : (wrap n).tdiv 100 = n.tdiv 100 ↔ Fits n := by
  refine ⟨fun h => wrap_eq_iff.mp ?_, fun h => by rw [wrap_of_fits h]⟩
  have hcycle : wrap n % 18446744073709551616 = n % 18446744073709551616 := Int.bmod_emod
  have hsum := Int.mul_tdiv_add_tmod n 100
  have hwrapped := Int.mul_tdiv_add_tmod (wrap n) 100
  have hleast (m : Int) : -100 < m.tmod 100 := Int.lt_tmod_of_pos m (by decide)
  have hmost (m : Int) : m.tmod 100 < 100 := Int.tmod_lt_of_pos m (by decide)
  -- both numbers are less than a tick from the same whole ticks, and a whole cycle apart if at all
  have hn := And.intro (hleast n) (hmost n)
  have hw := And.intro (hleast (wrap n)) (hmost (wrap n))
  omega

/-! ### Ticks to nanoseconds -/

/-- The tick counts less than a word's worth of nanoseconds away from 1970. -/
def InWindow (ticks : Int64) : Prop :=
  24211015631452242 ≤ ticks.toInt ∧ ticks.toInt ≤ 208678456368547758

theorem inWindow_iff_fits {ticks : Int64} :
    InWindow ticks ↔ Fits (100 * (ticks.toInt - 116444736000000000)) := by
  unfold InWindow Fits
  omega

theorem toInt_ticksToNanos (ticks : Int64) :
    (ticksToNanos ticks).toInt = wrap (100 * (ticks.toInt - 116444736000000000)) := by
  rw [ticksToNanos, Int64.toInt_mul, Int64.toInt_sub, toInt_unixEpoch, toInt_nanosPerTick,
    Int.mul_comm 100]
  exact Int.bmod_mul_bmod

theorem inWindow_nanosToTicks (nanos : Int64) : InWindow (nanosToTicks nanos) := by
  obtain ⟨hmin, hmax⟩ := tdiv_tick_fits nanos
  have hticks := toInt_nanosToTicks nanos
  exact ⟨by omega, by omega⟩

theorem nanosToTicks_ticksToNanos {ticks : Int64} (h : InWindow ticks) :
    nanosToTicks (ticksToNanos ticks) = ticks := by
  rw [← Int64.toInt_inj, toInt_nanosToTicks, toInt_ticksToNanos,
    wrap_of_fits (inWindow_iff_fits.mp h), Int.mul_tdiv_cancel_left _ (by decide)]
  omega

/-- The nanoseconds of a tick count are its distance from 1970 just if the tick count comes back from
them, which is so in one window of tick counts. The same window holds what any number of nanoseconds
gives. -/
theorem ticksToNanos_window (ticks : Int64) :
    ((ticksToNanos ticks).toInt = 100 * (ticks.toInt - 116444736000000000) ↔ InWindow ticks) ∧
      (nanosToTicks (ticksToNanos ticks) = ticks ↔ InWindow ticks) ∧
      ((∃ nanos, nanosToTicks nanos = ticks) ↔ InWindow ticks) := by
  refine ⟨?_, ⟨fun h => ?_, nanosToTicks_ticksToNanos⟩, ?_, fun h => ?_⟩
  · rw [toInt_ticksToNanos, wrap_eq_iff, inWindow_iff_fits]
  · rw [← h]
    exact inWindow_nanosToTicks _
  · rintro ⟨nanos, rfl⟩
    exact inWindow_nanosToTicks nanos
  · exact ⟨ticksToNanos ticks, nanosToTicks_ticksToNanos h⟩

/-! ### Seconds and nanoseconds to ticks -/

namespace FileTime

theorem toInt_ticks_ofSeconds (seconds nanos : Int64) :
    (ofSeconds seconds nanos).ticks.toInt =
      (wrap (seconds.toInt * 1000000000 + nanos.toInt)).tdiv 100 + 116444736000000000 := by
  rw [ofSeconds, ticks_ofNanos, toInt_nanosToTicks, toInt_seconds_add_nanos]

/-- Seconds and nanoseconds give the tick count of their total, a part of a tick dropped toward zero,
just if the total fits a word. -/
theorem ticks_ofSeconds_iff (seconds nanos : Int64) :
    (ofSeconds seconds nanos).ticks.toInt =
        (seconds.toInt * 1000000000 + nanos.toInt).tdiv 100 + 116444736000000000 ↔
      -9223372036854775808 ≤ seconds.toInt * 1000000000 + nanos.toInt ∧
        seconds.toInt * 1000000000 + nanos.toInt < 9223372036854775808 := by
  rw [toInt_ticks_ofSeconds, Int.add_left_inj]
  exact tdiv_wrap_eq_iff

/-- The seconds alone may have more nanoseconds than fit: this is the first time of all whose total
does. -/
example : (-9223372037 : Int64).toInt * 1000000000 < -9223372036854775808 ∧
    (ofSeconds (-9223372037) 145224192).nanos = -9223372036854775800 := by
  decide

end FileTime

end FileTransfer
