import FileTransfer.Proofs.Time.Order

/-! Three views of a file time: two halves, a tick count, 64 bits without a sign.

Each view is got back from each other one, and the tick count is the 64 bits read with a sign
(`views_agree`). The tick count is put together by a sum where the bits are put together by an
"or": the high half takes the sign with it when it is shifted, and what is added to it falls
into bits that are all zero (`noCarry`), so that the sum neither overflows nor differs. -/
namespace FileTransfer

/-- A number with a sign and one without are the same 64 bits: the sign bit counts for its place
below zero in the one and above it in the other. -/
structure SameBits (signed : Int64) (bits : UInt64) : Prop where
  word : signed.toBitVec = bits.toBitVec
  number : signed.toInt =
    if bits.toNat < 9223372036854775808 then (bits.toNat : Int)
    else bits.toNat - 18446744073709551616

theorem sameBits_toInt64 (bits : UInt64) : SameBits bits.toInt64 bits where
  word := UInt64.toBitVec_toInt64 bits
  number := by
    have hlt := bits.toNat_lt
    have hfits := toInt_fits bits.toInt64
    have hcycle : bits.toInt64.toInt % 18446744073709551616 = bits.toNat % 18446744073709551616 := by
      rw [toInt_toInt64]
      exact Int.bmod_emod
    unfold Fits at hfits
    split <;> omega

namespace FileTime

/-- The halves of a file time, as those of a number. -/
def halves (t : FileTime) : Halves :=
  ⟨t.high, t.low⟩

/-! ### The tick count and the bits -/

theorem toUInt64_ticks (t : FileTime) : t.ticks.toUInt64 = t.toBits := by
  have hcycle := t.toInt_ticks_emod
  have hword := toNat_toUInt64 t.ticks
  rw [← UInt64.toNat_inj, toNat_toBits]
  omega

theorem ticks_eq_toInt64 (t : FileTime) : t.ticks = t.toBits.toInt64 := by
  rw [← toUInt64_ticks, Int64.toInt64_toUInt64]

theorem ofBits_toBits (t : FileTime) : ofBits t.toBits = t := by
  rw [ofBits, ← ticks_eq_toInt64, ofTicks_ticks]

theorem toBits_ofBits (bits : UInt64) : (ofBits bits).toBits = bits := by
  rw [← toUInt64_ticks, ofBits, ticks_ofTicks, UInt64.toUInt64_toInt64]

/-- A tick count is cut as its bits are. -/
theorem halves_ofTicks (ticks : Int64) : (ofTicks ticks).halves = .split ticks.toUInt64 := by
  have hjoin : (ofTicks ticks).halves.join = ticks.toUInt64 := by
    show (ofTicks ticks).toBits = ticks.toUInt64
    rw [← toUInt64_ticks, ticks_ofTicks]
  rw [← Halves.join_inj, hjoin, Halves.join_split]

/-! ### The sum -/

/-- How the tick count is put together: the high half, read with a sign, moves up without losing a
bit; the low half is added to it without overflow; and an "or" would have done the same. -/
structure NoCarry (t : FileTime) : Prop where
  shifted : (t.high.toUInt64.toInt64 <<< 32).toInt = t.high.toInt32.toInt * 4294967296
  added : t.ticks.toInt = (t.high.toUInt64.toInt64 <<< 32).toInt + t.low.toNat
  joined : t.ticks = t.halves.join.toInt64

theorem toInt_shifted_signed (high : UInt32) :
    (high.toUInt64.toInt64 <<< 32).toInt = high.toInt32.toInt * 4294967296 := by
  have hlt := high.toNat_lt
  have hfits := toInt_fits (high.toUInt64.toInt64 <<< 32)
  have hleast := high.toInt32.le_toInt
  have hmost := high.toInt32.toInt_lt
  have hshifted : (high.toUInt64.toInt64 <<< 32).toInt % 18446744073709551616 =
      high.toNat * 4294967296 % 18446744073709551616 := by
    rw [toInt_shifted]
    exact Int.bmod_emod
  have hsigned : high.toInt32.toInt % 4294967296 = high.toNat % 4294967296 := by
    rw [← Int32.toInt_toBitVec, UInt32.toBitVec_toInt32, BitVec.toInt_eq_toNat_bmod]
    exact Int.bmod_emod
  unfold Fits at hfits
  omega

theorem noCarry (t : FileTime) : NoCarry t where
  shifted := toInt_shifted_signed t.high
  added := by
    have hlow := t.low.toNat_lt
    have hleast := t.high.toInt32.le_toInt
    have hmost := t.high.toInt32.toInt_lt
    have hfits : Fits ((t.high.toUInt64.toInt64 <<< 32).toInt + t.low.toNat) := by
      rw [toInt_shifted_signed]
      exact ⟨by omega, by omega⟩
    rw [ticks, Int64.toInt_add, toInt_half]
    exact wrap_of_fits hfits
  joined := ticks_eq_toInt64 t

/-- A file time comes back from its tick count and from its bits, which are one word read with a
sign and without; every tick count and all bits come back from their file time, whose halves are
those of the word. The sum in the tick count stays within bounds and is the "or" of the halves. -/
theorem views_agree :
    (∀ t : FileTime, ofTicks t.ticks = t ∧ ofBits t.toBits = t ∧ SameBits t.ticks t.toBits ∧
      NoCarry t) ∧
    (∀ ticks : Int64, (ofTicks ticks).ticks = ticks ∧
      (ofTicks ticks).halves = .split ticks.toUInt64) ∧
    ∀ bits : UInt64, (ofBits bits).toBits = bits ∧ (ofBits bits).halves = .split bits := by
  refine ⟨fun t => ⟨t.ofTicks_ticks, t.ofBits_toBits, ?_, t.noCarry⟩,
    fun ticks => ⟨ticks_ofTicks ticks, halves_ofTicks ticks⟩,
    fun bits => ⟨toBits_ofBits bits, ?_⟩⟩
  · rw [ticks_eq_toInt64]
    exact sameBits_toInt64 t.toBits
  · rw [ofBits, halves_ofTicks, UInt64.toUInt64_toInt64]

/-- The last tick of all, with the top bit of every half set. -/
example : (ofTicks (-1)).halves = ⟨0xFFFFFFFF, 0xFFFFFFFF⟩ ∧ (ofTicks (-1)).ticks = -1 ∧
    (ofTicks (-1)).toBits = 0xFFFFFFFFFFFFFFFF := by
  decide

end FileTime

end FileTransfer
