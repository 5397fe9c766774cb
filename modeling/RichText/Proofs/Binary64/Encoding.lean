import Mathlib
import RichText.Binary64

namespace RichText.Binary64

open Float.Model Float.Model.UnpackedFloat

/-! ### Bits in and out -/

theorem toNat_unpackExponent (v : BitVec Format.binary64.numBits) :
    (unpackExponent v).toNat = (v.toNat >>> 52) % 2048 := by
  simp [unpackExponent]

theorem toBits_ofBits {b : UInt64} (h : (b.toNat >>> 52) % 2048 ≠ 2047) :
    (Float.ofBits b).toBits = b := by
  have hnan : @isNaNBits .binary64 b.toBitVec = false := by
    have hexp := @toNat_unpackExponent b.toBitVec
    refine decide_eq_false fun hbits => h ?_
    rw [hbits.1] at hexp
    exact hexp.symm
  have hpack := @pack_unpack .binary64 b.toBitVec (by decide)
  rw [hnan] at hpack
  exact congrArg UInt64.ofBitVec hpack

/-! ### The double of a significand -/

variable {m e units : Nat}

/-- A significand with its exponent as a double has them. -/
structure Normal (m e : Nat) : Prop where
  lt : m < 2 ^ 53
  le : e = 0 ∨ 2 ^ 52 ≤ m
  exponent_le : e ≤ 2045

theorem toNat_toBits_assemble (h : Normal m e) (negative : Bool) :
    (assemble negative m e).toBits.toNat = negative.toNat * 2 ^ 63 + e * 2 ^ 52 + m := by
  obtain ⟨hlt, -, he⟩ := h
  have hbits : min ((e <<< 52) + m) (2047 <<< 52) = e * 2 ^ 52 + m := by
    rw [Nat.shiftLeft_eq]
    omega
  unfold assemble
  rw [hbits]
  dsimp only
  rw [toBits_ofBits]
  · cases negative <;> simp <;> omega
  · cases negative <;> simp [Nat.shiftRight_eq_div_pow] <;> omega

theorem exponentField_eq (x : Float) : exponentField x = x.toBits.toNat / 2 ^ 52 % 2048 := by
  rw [exponentField, Nat.shiftRight_eq_div_pow]
  rfl

theorem fractionField_eq (x : Float) : fractionField x = x.toBits.toNat % 2 ^ 52 := rfl

theorem exponentField_assemble (h : Normal m e) (negative : Bool) :
    exponentField (assemble negative m e) = if m < 2 ^ 52 then 0 else e + 1 := by
  have hsign := negative.toNat_le
  rw [exponentField_eq, toNat_toBits_assemble h]
  obtain ⟨hlt, hle, he⟩ := h
  split <;> omega

theorem fractionField_assemble (h : Normal m e) (negative : Bool) :
    fractionField (assemble negative m e) = m % 2 ^ 52 := by
  rw [fractionField_eq, toNat_toBits_assemble h]
  omega

theorem isFinite_assemble (h : Normal m e) (negative : Bool) :
    isFinite (assemble negative m e) = true := by
  have he := h.exponent_le
  rw [isFinite, exponentField_assemble h, bne_iff_ne]
  split <;> omega

theorem signBit_assemble (h : Normal m e) (negative : Bool) :
    signBit (assemble negative m e) = negative := by
  rw [signBit, toNat_toBits_assemble h, Nat.shiftRight_eq_div_pow]
  obtain ⟨hlt, -, he⟩ := h
  cases negative <;> simp <;> omega

theorem magnitude_assemble (h : Normal m e) (negative : Bool) :
    magnitude (assemble negative m e) = m <<< e := by
  rw [magnitude, mantissa, scale, exponentField_assemble h, fractionField_assemble h]
  obtain ⟨hlt, hle, -⟩ := h
  by_cases hm : m < 2 ^ 52
  · obtain rfl : e = 0 := by omega
    rw [if_pos hm, if_pos rfl, Nat.mod_eq_of_lt hm]
  · have hmant : 2 ^ 52 + m % 2 ^ 52 = m := by omega
    rw [if_neg hm, if_neg (by omega)]
    exact congrArg (· <<< e) hmant

/-! ### Magnitudes that are those of a double -/

def Representable (units : Nat) : Prop :=
  ∃ m e, m < 2 ^ 53 ∧ e ≤ 2045 ∧ units = m <<< e

theorem shiftRight_stepExponent_lt (units : Nat) : units >>> stepExponent units < 2 ^ 53 := by
  have hself : units < 2 ^ (units.log2 + 1) := Nat.lt_log2_self
  have hpow : units.log2 + 1 ≤ 53 + stepExponent units := by
    rw [stepExponent]
    omega
  rw [Nat.shiftRight_eq_div_pow]
  refine Nat.div_lt_of_lt_mul (hself.trans_le ?_)
  rw [Nat.mul_comm]
  calc 2 ^ (units.log2 + 1) ≤ 2 ^ (53 + stepExponent units) :=
        Nat.pow_le_pow_right Nat.zero_lt_two hpow
    _ = 2 ^ 53 * 2 ^ stepExponent units := Nat.pow_add 2 53 _

theorem le_shiftRight_stepExponent (units : Nat) (h : stepExponent units ≠ 0) :
    2 ^ 52 ≤ units >>> stepExponent units := by
  have hlog : units.log2 = 52 + stepExponent units := by
    rw [stepExponent] at h ⊢
    omega
  have hne : units ≠ 0 := by
    rintro rfl
    exact h rfl
  rw [Nat.shiftRight_eq_div_pow, Nat.le_div_iff_mul_le (Nat.two_pow_pos _)]
  calc 2 ^ 52 * 2 ^ stepExponent units = 2 ^ units.log2 := by
        rw [hlog]
        exact (Nat.pow_add 2 52 _).symm
    _ ≤ units := Nat.log2_self_le hne

/-- The significand and the exponent that `ofMagnitude` takes lose nothing. -/
theorem normal_stepExponent (h : Representable units) :
    Normal (units >>> stepExponent units) (stepExponent units) ∧
      (units >>> stepExponent units) <<< stepExponent units = units := by
  obtain ⟨m, e, hm, he, hunits⟩ := h
  rw [Nat.shiftLeft_eq] at hunits
  have hlog : stepExponent units ≤ e := by
    by_cases hzero : units = 0
    · rw [hzero]
      exact Nat.zero_le e
    · have hlt : units.log2 < 53 + e := by
        rw [Nat.log2_lt hzero, hunits, Nat.pow_add]
        exact Nat.mul_lt_mul_of_pos_right hm (Nat.two_pow_pos e)
      rw [stepExponent]
      omega
  refine ⟨⟨shiftRight_stepExponent_lt units, ?_, hlog.trans he⟩, ?_⟩
  · rw [or_iff_not_imp_left]
    exact le_shiftRight_stepExponent units
  · rw [Nat.shiftRight_eq_div_pow, Nat.shiftLeft_eq, hunits]
    rw [hunits] at hlog
    exact Nat.div_mul_cancel (Dvd.dvd.mul_left (pow_dvd_pow 2 hlog) m)

theorem isFinite_ofMagnitude (h : Representable units) (negative : Bool) :
    isFinite (ofMagnitude negative units) = true :=
  isFinite_assemble (normal_stepExponent h).1 negative

theorem signBit_ofMagnitude (h : Representable units) (negative : Bool) :
    signBit (ofMagnitude negative units) = negative :=
  signBit_assemble (normal_stepExponent h).1 negative

theorem magnitude_ofMagnitude (h : Representable units) (negative : Bool) :
    magnitude (ofMagnitude negative units) = units :=
  (magnitude_assemble (normal_stepExponent h).1 negative).trans (normal_stepExponent h).2

end RichText.Binary64
