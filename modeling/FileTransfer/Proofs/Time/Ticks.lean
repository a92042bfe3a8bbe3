import FileTransfer.Time.FileTime

/-! Nanoseconds and ticks as numbers without bounds.

A word is compared with the number that the same arithmetic gives without bounds (`wrap`). Cutting a
tick count in halves and putting it together again is exact for every count (`ticks_ofTicks`), and
the ticks of a number of nanoseconds always fit (`toInt_nanosToTicks`). So nanoseconds come back
from a file time rounded toward zero to whole ticks, and no step on the way there and back wraps
(`nanos_ofNanos`). -/
namespace FileTransfer

/-! ### Words as numbers -/

/-- What a word with a sign keeps of a number. -/
def wrap (n : Int) : Int :=
  n.bmod 18446744073709551616

/-- Whether a word with a sign keeps all of a number. -/
def Fits (n : Int) : Prop :=
  -9223372036854775808 ≤ n ∧ n < 9223372036854775808

theorem wrap_of_fits {n : Int} (h : Fits n) : wrap n = n :=
  Int.bmod_eq_of_le h.1 h.2

theorem wrap_emod (n : Int) : wrap (n % 18446744073709551616) = wrap n :=
  Int.emod_bmod n 18446744073709551616

theorem emod_wrap (n : Int) : wrap n % 18446744073709551616 = n % 18446744073709551616 :=
  Int.bmod_emod

theorem toInt_fits (w : Int64) : Fits w.toInt :=
  ⟨w.le_toInt, w.toInt_lt⟩

theorem toInt_sub_of_fits {a b : Int64} (h : Fits (a.toInt - b.toInt)) :
    (a - b).toInt = a.toInt - b.toInt :=
  (Int64.toInt_sub a b).trans (wrap_of_fits h)

theorem toInt_neg_of_fits {a : Int64} (h : Fits (-a.toInt)) : (-a).toInt = -a.toInt :=
  (Int64.toInt_neg a).trans (wrap_of_fits h)

theorem toNat_toUInt64 (w : Int64) : (w.toUInt64.toNat : Int) = w.toInt % 18446744073709551616 := by
  have hmod : w.toInt % 18446744073709551616 = w.toBitVec.toNat % 18446744073709551616 := by
    rw [← Int64.toInt_toBitVec, BitVec.toInt_eq_toNat_bmod]
    exact Int.bmod_emod
  have hlt := w.toBitVec.isLt
  rw [hmod, ← Int64.toNat_toBitVec]
  omega

theorem toInt_toInt64 (w : UInt64) : w.toInt64.toInt = wrap w.toNat := by
  rw [← Int64.toInt_toBitVec, UInt64.toBitVec_toInt64, BitVec.toInt_eq_toNat_bmod]
  rfl

theorem toInt_toInt64_of_lt {w : UInt64} (h : w.toNat < 9223372036854775808) :
    w.toInt64.toInt = w.toNat :=
  (toInt_toInt64 w).trans (wrap_of_fits ⟨by omega, by omega⟩)

/-- A half of a word is a small number, and stays the same in a whole one. -/
theorem toInt_half (w : UInt32) : w.toUInt64.toInt64.toInt = w.toNat :=
  toInt_toInt64_of_lt (Nat.lt_trans w.toNat_lt (by decide))

/-! ### Ticks in halves -/

namespace FileTime

theorem toNat_low (ticks : Int64) :
    ((ofTicks ticks).low.toNat : Int) = ticks.toInt % 4294967296 := by
  have hmask : (ticks &&& 0xFFFFFFFF).toUInt64.toNat = ticks.toUInt64.toNat % 4294967296 := by
    rw [Int64.toUInt64_and, UInt64.toNat_and]
    exact Nat.and_two_pow_sub_one_eq_mod _ 32
  have hnat := toNat_toUInt64 ticks
  rw [ofTicks, UInt64.toNat_toUInt32, hmask]
  omega

theorem toNat_high (ticks : Int64) :
    ((ofTicks ticks).high.toNat : Int) = ticks.toInt / 4294967296 % 4294967296 := by
  have hshift : (ticks >>> 32).toInt = ticks.toInt / 4294967296 := by
    rw [← Int64.toInt_toBitVec, Int64.toBitVec_shiftRight]
    exact (BitVec.toInt_sshiftRight ..).trans (Int.shiftRight_eq_div_pow _ 32)
  have hnat := toNat_toUInt64 (ticks >>> 32)
  rw [hshift] at hnat
  rw [ofTicks, UInt64.toNat_toUInt32]
  omega

theorem toInt_shifted (high : UInt32) :
    (high.toUInt64.toInt64 <<< 32).toInt = wrap (high.toNat * 4294967296) := by
  rw [← Int64.toInt_toBitVec, Int64.toBitVec_shiftLeft, UInt64.toBitVec_toInt64,
    BitVec.toInt_eq_toNat_bmod]
  have hshift : (high.toUInt64.toBitVec <<< (32 : Int64).toBitVec.smod 64).toNat =
      high.toNat * 4294967296 % 18446744073709551616 := by
    rw [← Nat.shiftLeft_eq high.toNat 32]
    rfl
  rw [hshift]
  exact (congrArg wrap (Int.natCast_emod _ _)).trans (wrap_emod _)

theorem toInt_ticks (t : FileTime) :
    t.ticks.toInt = wrap (t.high.toNat * 4294967296 + t.low.toNat) := by
  rw [ticks, Int64.toInt_add, toInt_shifted, toInt_half]
  exact Int.bmod_add_bmod

/-- Every tick count comes back from its halves. -/
theorem ticks_ofTicks (ticks : Int64) : (ofTicks ticks).ticks = ticks := by
  have hnumber : ticks.toInt / 4294967296 % 4294967296 * 4294967296 + ticks.toInt % 4294967296 =
      ticks.toInt % 18446744073709551616 := by
    omega
  rw [← Int64.toInt_inj, toInt_ticks, toNat_high, toNat_low, hnumber, wrap_emod,
    wrap_of_fits (toInt_fits ticks)]

theorem ofTicks_inj {a b : Int64} : ofTicks a = ofTicks b ↔ a = b :=
  ⟨fun h => by rw [← ticks_ofTicks a, h, ticks_ofTicks], congrArg ofTicks⟩

/-- A tick count differs from what its halves say by a whole cycle if at all. -/
theorem toInt_ticks_emod (t : FileTime) :
    t.ticks.toInt % 18446744073709551616 = t.high.toNat * 4294967296 + t.low.toNat := by
  have hhigh := t.high.toNat_lt
  have hlow := t.low.toNat_lt
  have hwrap : t.ticks.toInt % 18446744073709551616 =
      (t.high.toNat * 4294967296 + t.low.toNat : Int) % 18446744073709551616 := by
    rw [toInt_ticks]
    exact Int.bmod_emod
  omega

/-- Every pair of halves comes back from its tick count. -/
theorem ofTicks_ticks (t : FileTime) : ofTicks t.ticks = t := by
  have hhigh := t.high.toNat_lt
  have hlow := t.low.toNat_lt
  have hcycle := t.toInt_ticks_emod
  have hlowEq : (ofTicks t.ticks).low = t.low := by
    have hword := toNat_low t.ticks
    rw [← UInt32.toNat_inj]
    omega
  have hhighEq : (ofTicks t.ticks).high = t.high := by
    have hword := toNat_high t.ticks
    rw [← UInt32.toNat_inj]
    omega
  show FileTime.mk (ofTicks t.ticks).low (ofTicks t.ticks).high = t
  rw [hlowEq, hhighEq]

theorem ticks_inj {a b : FileTime} : a.ticks = b.ticks ↔ a = b :=
  ⟨fun h => by rw [← ofTicks_ticks a, h, ofTicks_ticks], congrArg ticks⟩

end FileTime

/-! ### Nanoseconds and ticks -/

theorem toInt_unixEpoch : unixEpoch.toInt = 116444736000000000 := by decide

theorem toInt_nanosPerTick : nanosPerTick.toInt = 100 := by decide

/-- The whole ticks of a number of nanoseconds stay far from the bounds of a word. -/
theorem tdiv_tick_fits (nanos : Int64) :
    -92233720368547758 ≤ nanos.toInt.tdiv 100 ∧ nanos.toInt.tdiv 100 ≤ 92233720368547758 := by
  obtain ⟨hmin, hmax⟩ := toInt_fits nanos
  have hsign : Int.sign 100 = 1 := rfl
  rw [Int.tdiv_eq_ediv, hsign]
  split <;> omega

theorem toInt_div_nanosPerTick (nanos : Int64) :
    (nanos / nanosPerTick).toInt = nanos.toInt.tdiv 100 := by
  obtain ⟨hmin, hmax⟩ := tdiv_tick_fits nanos
  rw [Int64.toInt_div, toInt_nanosPerTick]
  exact wrap_of_fits ⟨by omega, by omega⟩

/-- The tick count of any number of nanoseconds fits. -/
theorem toInt_nanosToTicks (nanos : Int64) :
    (nanosToTicks nanos).toInt = nanos.toInt.tdiv 100 + 116444736000000000 := by
  obtain ⟨hmin, hmax⟩ := tdiv_tick_fits nanos
  rw [nanosToTicks, Int64.toInt_add, toInt_div_nanosPerTick, toInt_unixEpoch]
  exact wrap_of_fits ⟨by omega, by omega⟩

theorem toInt_ticks_sub_unixEpoch (nanos : Int64) :
    (nanosToTicks nanos - unixEpoch).toInt = nanos.toInt.tdiv 100 := by
  obtain ⟨hmin, hmax⟩ := tdiv_tick_fits nanos
  have hnumber : (nanosToTicks nanos).toInt - unixEpoch.toInt = nanos.toInt.tdiv 100 := by
    rw [toInt_nanosToTicks, toInt_unixEpoch, Int.add_sub_cancel]
  rw [toInt_sub_of_fits ⟨by omega, by omega⟩, hnumber]

theorem nanosToTicks_eq_iff {a b : Int64} :
    nanosToTicks a = nanosToTicks b ↔ a.toInt.tdiv 100 = b.toInt.tdiv 100 := by
  rw [← Int64.toInt_inj, toInt_nanosToTicks, toInt_nanosToTicks, Int.add_left_inj]

namespace FileTime

theorem ticks_ofNanos (nanos : Int64) : (ofNanos nanos).ticks = nanosToTicks nanos :=
  ticks_ofTicks _

/-- Of the nanoseconds that a file time is made of it keeps whole ticks. -/
theorem toInt_nanos_ofNanos (nanos : Int64) :
    (ofNanos nanos).nanos.toInt = nanos.toInt.tdiv 100 * 100 := by
  obtain ⟨hmin, hmax⟩ := tdiv_tick_fits nanos
  rw [FileTime.nanos, ticks_ofNanos, ticksToNanos, Int64.toInt_mul, toInt_ticks_sub_unixEpoch,
    toInt_nanosPerTick]
  exact wrap_of_fits ⟨by omega, by omega⟩

/-- The steps of arithmetic from nanoseconds to a file time and back, each with the result that it
has without bounds. -/
structure NoWrap (nanos : Int64) (t : FileTime) : Prop where
  divided : (nanos / nanosPerTick).toInt = nanos.toInt.tdiv nanosPerTick.toInt
  counted : (nanosToTicks nanos).toInt = (nanos / nanosPerTick).toInt + unixEpoch.toInt
  shifted : (t.high.toUInt64.toInt64 <<< 32).toInt = t.high.toNat * 4294967296
  joined : t.ticks.toInt = (t.high.toUInt64.toInt64 <<< 32).toInt + t.low.toNat
  moved : (t.ticks - unixEpoch).toInt = t.ticks.toInt - unixEpoch.toInt
  scaled : t.nanos.toInt = (t.ticks - unixEpoch).toInt * nanosPerTick.toInt

theorem noWrap_ofNanos (nanos : Int64) : NoWrap nanos (ofNanos nanos) := by
  obtain ⟨hmin, hmax⟩ := tdiv_tick_fits nanos
  have hticks : (ofNanos nanos).ticks.toInt = nanos.toInt.tdiv 100 + 116444736000000000 := by
    rw [ticks_ofNanos, toInt_nanosToTicks]
  have hhigh : ((ofNanos nanos).high.toNat : Int) = (ofNanos nanos).ticks.toInt / 4294967296 := by
    rw [ofNanos, toNat_high, ticks_ofTicks, toInt_nanosToTicks]
    omega
  have hlow : ((ofNanos nanos).low.toNat : Int) = (ofNanos nanos).ticks.toInt % 4294967296 := by
    rw [ofNanos, toNat_low, ticks_ofTicks]
  have hshifted : ((ofNanos nanos).high.toUInt64.toInt64 <<< 32).toInt =
      (ofNanos nanos).high.toNat * 4294967296 := by
    rw [toInt_shifted]
    exact wrap_of_fits ⟨by omega, by omega⟩
  have hmoved : ((ofNanos nanos).ticks - unixEpoch).toInt = nanos.toInt.tdiv 100 := by
    rw [ticks_ofNanos, toInt_ticks_sub_unixEpoch]
  exact
    { divided := toInt_div_nanosPerTick nanos
      counted := by rw [toInt_nanosToTicks, toInt_div_nanosPerTick, toInt_unixEpoch]
      shifted := hshifted
      joined := by rw [hshifted, hhigh, hlow]; omega
      moved := by rw [hmoved, hticks, toInt_unixEpoch, Int.add_sub_cancel]
      scaled := by rw [toInt_nanos_ofNanos, hmoved, toInt_nanosPerTick] }

/-- Nanoseconds come back from a file time rounded toward zero to whole ticks, so they come back as
they were just if they are whole ticks. The scalar conversions there and back agree with those
through the halves, and no step of either wraps. -/
theorem nanos_ofNanos (nanos : Int64) :
    (ofNanos nanos).nanos.toInt = nanos.toInt - nanos.toInt.tmod 100 ∧
      ((ofNanos nanos).nanos = nanos ↔ nanos.toInt.tmod 100 = 0) ∧
      ticksToNanos (nanosToTicks nanos) = (ofNanos nanos).nanos ∧
      NoWrap nanos (ofNanos nanos) := by
  have hsum := Int.mul_tdiv_add_tmod nanos.toInt 100
  have hnanos := toInt_nanos_ofNanos nanos
  refine ⟨by omega, ?_, by rw [FileTime.nanos, ticks_ofNanos], noWrap_ofNanos nanos⟩
  rw [← Int64.toInt_inj]
  omega

example : (ofNanos (-150)).nanos = -100 := by decide

end FileTime

end FileTransfer
