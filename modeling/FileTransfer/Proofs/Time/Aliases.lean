import FileTransfer.Proofs.Time.Views
import FileTransfer.Proofs.Time.Window
import Mathlib.Data.Int.ModEq
import Mathlib.Data.Set.Card

/-! Tick counts with one reading.

The nanoseconds of a tick count are its distance from 1970 times 100. Of this factor the 4 pushes
the two top bits out of the word, and the 25, which is odd, loses nothing (`scaled_emod_iff`). So
two tick counts are read alike just if they agree in all but these two bits
(`ticksToNanos_eq_iff`), and what is read is any number that 4 divides and no other
(`exists_ticksToNanos_iff`). A file time shares its reading with the three others that have its low
half and, but for two bits, its high half (`nanos_shared`). -/
namespace FileTransfer

/-! ### The factor -/

theorem wrap_inj {m n : Int} :
    wrap m = wrap n ↔ m % 18446744073709551616 = n % 18446744073709551616 := by
  refine ⟨fun h => ?_, fun h => ?_⟩
  · rw [← emod_wrap m, h, emod_wrap]
  · rw [← wrap_emod m, h, wrap_emod]

theorem scaled_emod_iff {a b : Int} :
    100 * a % 18446744073709551616 = 100 * b % 18446744073709551616 ↔
      a % 4611686018427387904 = b % 4611686018427387904 := by
  refine ⟨fun h => ?_, fun h => ?_⟩
  · -- the factor goes, and of the modulus what it shares with the factor
    have hgcd : Int.gcd 18446744073709551616 100 = 4 := by decide
    have hcancelled := Int.ModEq.cancel_left_div_gcd (by decide) h
    rw [hgcd] at hcancelled
    exact hcancelled
  · have hscaled := Int.ModEq.mul_left' (c := 100) h
    exact hscaled.of_dvd ⟨25, by decide⟩

/-- What undoes the factor 25 in the bits that a reading keeps. -/
def unscale : Int := 1106804644422573097

theorem scaled_unscale {n : Int} (h : 4 ∣ n) :
    100 * (unscale * (n / 4)) % 18446744073709551616 = n % 18446744073709551616 := by
  rw [unscale]
  omega

/-! ### Tick counts -/

theorem ticksToNanos_eq_iff {s t : Int64} :
    ticksToNanos s = ticksToNanos t ↔
      s.toInt % 4611686018427387904 = t.toInt % 4611686018427387904 := by
  rw [← Int64.toInt_inj, toInt_ticksToNanos, toInt_ticksToNanos, wrap_inj, scaled_emod_iff]
  omega

theorem four_dvd_ticksToNanos (ticks : Int64) : 4 ∣ (ticksToNanos ticks).toInt := by
  have hcycle := emod_wrap (100 * (ticks.toInt - 116444736000000000))
  rw [toInt_ticksToNanos]
  omega

theorem toInt_ticksToNanos_ofInt (n : Int) :
    (ticksToNanos (.ofInt (n + 116444736000000000))).toInt = wrap (100 * n) := by
  have hcycle := emod_wrap (n + 116444736000000000)
  have hticks : (Int64.ofInt (n + 116444736000000000)).toInt = wrap (n + 116444736000000000) :=
    Int64.toInt_ofInt
  rw [toInt_ticksToNanos, hticks, wrap_inj, scaled_emod_iff]
  omega

theorem exists_ticksToNanos_iff {nanos : Int64} :
    (∃ ticks, ticksToNanos ticks = nanos) ↔ 4 ∣ nanos.toInt := by
  refine ⟨?_, fun h => ?_⟩
  · rintro ⟨ticks, rfl⟩
    exact four_dvd_ticksToNanos ticks
  · refine ⟨.ofInt (unscale * (nanos.toInt / 4) + 116444736000000000), ?_⟩
    rw [← Int64.toInt_inj, toInt_ticksToNanos_ofInt, wrap_inj.mpr (scaled_unscale h),
      wrap_of_fits (toInt_fits nanos)]

/-! ### File times -/

namespace FileTime
variable {t u : FileTime}

/-- File times with one low half whose high halves differ at most in their two top bits. -/
structure Aliased (t u : FileTime) : Prop where
  low : t.low = u.low
  high : t.high.toNat % 1073741824 = u.high.toNat % 1073741824

theorem nanos_eq_iff : t.nanos = u.nanos ↔ Aliased t u := by
  have ht := t.toInt_ticks_emod
  have hu := u.toInt_ticks_emod
  have htlow := t.low.toNat_lt
  have hulow := u.low.toNat_lt
  rw [nanos, nanos, ticksToNanos_eq_iff]
  refine ⟨fun h => ⟨?_, ?_⟩, fun h => ?_⟩
  · rw [← UInt32.toNat_inj]
    omega
  · omega
  · obtain ⟨hlow, hhigh⟩ := h
    rw [← UInt32.toNat_inj] at hlow
    omega

theorem nanos_ofBits_eq_iff {a b : UInt64} :
    (ofBits a).nanos = (ofBits b).nanos ↔
      a.toNat % 4611686018427387904 = b.toNat % 4611686018427387904 := by
  have hcycle (bits : UInt64) :
      bits.toInt64.toInt % 18446744073709551616 = bits.toNat % 18446744073709551616 := by
    rw [toInt_toInt64, emod_wrap]
  have ha := hcycle a
  have hb := hcycle b
  rw [nanos, nanos, ofBits, ofBits, ticks_ofTicks, ticks_ofTicks, ticksToNanos_eq_iff]
  omega

/-- The file times that share the reading of one. -/
def aliases (t : FileTime) : List FileTime :=
  [0, 0x40000000, 0x80000000, 0xC0000000].map fun turn => { t with high := t.high + turn }

theorem mem_aliases_iff : u ∈ t.aliases ↔ Aliased u t := by
  have hturned (turn : UInt32) : u = { t with high := t.high + turn } ↔
      u.high.toNat = (t.high.toNat + turn.toNat) % 4294967296 ∧ u.low = t.low := by
    rw [eq_iff_halves, ← UInt32.toNat_inj, UInt32.toNat_add]
  have ht := t.high.toNat_lt
  have hu := u.high.toNat_lt
  simp only [aliases, List.map_cons, List.map_nil, List.mem_cons, List.not_mem_nil, or_false,
    hturned, ← or_and_right, UInt32.reduceToNat]
  constructor
  · rintro ⟨hhigh, hlow⟩
    exact ⟨hlow, by omega⟩
  · rintro ⟨hlow, hhigh⟩
    exact ⟨by omega, hlow⟩

theorem nodup_aliases (t : FileTime) : t.aliases.Nodup := by
  have hturned : Function.Injective fun turn : UInt32 => { t with high := t.high + turn } := by
    intro a b h
    simpa using h
  exact List.Nodup.map hturned (by decide)

/-- A reading is that of four file times, and what is no reading is that of none. -/
theorem ncard_nanos (n : Int64) :
    {t : FileTime | t.nanos = n}.ncard = if 4 ∣ n.toInt then 4 else 0 := by
  split
  · next h =>
    obtain ⟨ticks, rfl⟩ := exists_ticksToNanos_iff.mpr h
    have hticks : (ofTicks ticks).nanos = ticksToNanos ticks := by rw [nanos, ticks_ofTicks]
    have hshared : {t : FileTime | t.nanos = ticksToNanos ticks} =
        (ofTicks ticks).aliases.toFinset := by
      ext u
      have hu := (nanos_eq_iff (t := u) (u := ofTicks ticks)).trans mem_aliases_iff.symm
      rw [hticks] at hu
      simpa using hu
    rw [hshared, Set.ncard_coe_finset, List.toFinset_card_of_nodup (nodup_aliases _)]
    exact List.length_map _
  · next h =>
    have hnone : {t : FileTime | t.nanos = n} = ∅ := by
      refine Set.eq_empty_of_forall_notMem fun u hu => h ?_
      rw [← show u.nanos = n from hu]
      exact four_dvd_ticksToNanos u.ticks
    rw [hnone, Set.ncard_empty]

/-- Tick counts have one reading just if they agree modulo 2 to the 62nd, and the readings are the
numbers that 4 divides. So file times have one reading just if they differ at most in their two top
bits, whether they are given by their halves or by their 64 bits, and each reading is that of
exactly four of them. -/
theorem nanos_shared :
    (∀ s t : Int64, ticksToNanos s = ticksToNanos t ↔
      s.toInt % 4611686018427387904 = t.toInt % 4611686018427387904) ∧
    (∀ n : Int64, (∃ ticks, ticksToNanos ticks = n) ↔ 4 ∣ n.toInt) ∧
    (∀ t u : FileTime, t.nanos = u.nanos ↔ Aliased t u) ∧
    (∀ a b : UInt64, (ofBits a).nanos = (ofBits b).nanos ↔
      a.toNat % 4611686018427387904 = b.toNat % 4611686018427387904) ∧
    ∀ n : Int64, {t : FileTime | t.nanos = n}.ncard = if 4 ∣ n.toInt then 4 else 0 :=
  ⟨fun _ _ => ticksToNanos_eq_iff, fun _ => exists_ticksToNanos_iff, fun _ _ => nanos_eq_iff,
    fun _ _ => nanos_ofBits_eq_iff, ncard_nanos⟩

/-- The start of 1970 and a time whose tick count is negative. -/
example : (ofTicks unixEpoch).nanos = 0 ∧ (ofTicks (unixEpoch + 0x8000000000000000)).nanos = 0 := by
  decide

end FileTime

end FileTransfer
