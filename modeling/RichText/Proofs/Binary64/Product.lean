import RichText.Proofs.Binary64.Encoding

namespace RichText.Binary64

open Float.Model Float.Model.UnpackedFloat

theorem toNat_implicit (m : BitVec 52) : (1#1 ++ m).toNat = 2 ^ 52 + m.toNat := by
  rw [BitVec.toNat_append, ← Nat.shiftLeft_add_eq_or_of_lt m.isLt]
  rfl

theorem mantissa_shiftRight_le (em : ExtendedMantissa) (k : Nat) :
    (em >>> k).mantissa ≤ em.mantissa := by
  change (Nat.repeat ExtendedMantissa.shiftRightOne k em).mantissa ≤ em.mantissa
  induction k with
  | zero => exact Nat.le_refl _
  | succ k ih => exact (Nat.div_le_self _ 2).trans ih

theorem roundedMantissa_le (em : ExtendedMantissa) : em.roundedMantissa ≤ em.mantissa + 1 := by
  rw [ExtendedMantissa.roundedMantissa]
  unfold Accuracy.roundToNearestEven
  split <;> omega

theorem shiftToTargetExponent_snd_le (m : Nat) (e : Int) (a : Accuracy) (c : Nat)
    (hm : m < 2 ^ 107) (he : e ≤ c) : (shiftToTargetExponent .binary64 m e a).2 ≤ c + 54 := by
  have hlog : m.log2 ≤ 106 := by
    by_cases hzero : m = 0
    · rw [hzero]; decide
    · exact Nat.le_of_lt_succ ((Nat.log2_lt hzero).2 hm)
  have hbits : Format.binary64.mantissaBits = 53 := rfl
  have hmin : Format.binary64.minExponent = -1074 := rfl
  simp only [shiftToTargetExponent, shiftToExponent, Format.targetExponent, totalExponent, hbits,
    hmin]
  omega

theorem mantissa_shiftToTargetExponent_le (m : Nat) (e : Int) (a : Accuracy) :
    (shiftToTargetExponent .binary64 m e a).1.mantissa ≤ m := by
  refine (mantissa_shiftRight_le _ _).trans ?_
  unfold ExtendedMantissa.ofMantissaAndAccuracy
  split <;> exact Nat.le_refl m

/-- Zero, or a significand of at most `b` bits with an exponent of at most `c`. -/
def Fits (b : Nat) (c : Int) : Float.Model.UnpackedFloat → Prop
  | .zero _ => True
  | .finite _ m e _ => m < 2 ^ b ∧ e ≤ c
  | _ => False

/-- The significand is shifted once before it is rounded and once after, and neither makes the
exponent much larger. -/
theorem fits_roundWithAccuracy (s : Sign) {m : Nat} {e : Int} (hm : m < 2 ^ 106) (he : e ≤ 0) :
    Fits 107 108 (roundWithAccuracy .binary64 s m e .exact) := by
  have hexp := shiftToTargetExponent_snd_le m e .exact 0 (by omega) he
  have hmant := mantissa_shiftToTargetExponent_le m e .exact
  unfold roundWithAccuracy
  generalize shiftToTargetExponent .binary64 m e .exact = first at hexp hmant ⊢
  have hround := roundedMantissa_le first.1
  have hexp' :=
    shiftToTargetExponent_snd_le first.1.roundedMantissa first.2 .exact 54 (by omega) hexp
  have hmant' := mantissa_shiftToTargetExponent_le first.1.roundedMantissa first.2 .exact
  dsimp only
  split
  · trivial
  · exact ⟨by omega, hexp'⟩

theorem fits_mul {u v : Float.Model.UnpackedFloat} (hu : Fits 53 0 u) (hv : Fits 53 0 v) :
    Fits 107 108 (UnpackedFloat.mul .binary64 u v) := by
  cases u with
  | infinity | notANumber => cases hu
  | zero s =>
    cases v with
    | infinity | notANumber => cases hv
    | zero | finite => trivial
  | finite s m e =>
    cases v with
    | infinity | notANumber => cases hv
    | zero => trivial
    | finite s' m' e' =>
      obtain ⟨hm, he⟩ := hu
      obtain ⟨hm', he'⟩ := hv
      refine fits_roundWithAccuracy _ ?_ (by omega)
      have hprod : m * m' < 2 ^ 53 * 2 ^ 53 := Nat.mul_lt_mul'' hm hm'
      exact hprod.trans_eq (by decide)

theorem unpackExponent_pack {u : Float.Model.UnpackedFloat} {b : Nat} (h : Fits b 108 u) :
    (unpackExponent (UnpackedFloat.pack .binary64 u)).toNat ≠ 2047 := by
  cases u with
  | infinity | notANumber => cases h
  | zero s => cases s <;> decide
  | finite s m e =>
    obtain ⟨-, he⟩ := h
    have hbias : Format.binary64.exponentBias = 1023 := rfl
    have hexp : (e + (1023 : Nat) + (52 : Nat)).toNat ≤ 1183 := by omega
    rw [UnpackedFloat.pack]
    dsimp only
    rw [hbias, if_neg (by omega)]
    split
    · rw [unpackExponent_packComponents, BitVec.toNat_ofNat]
      omega
    · rw [unpackExponent_packComponents]
      decide

theorem fits_unpack {x : Float} (h : exponentField x ≤ 1075) : Fits 53 0 x.toModel.unpack := by
  have hexp : exponentField x = (@unpackExponent .binary64 x.toBits.toBitVec).toNat :=
    (toNat_unpackExponent _).symm
  have hbias : Format.binary64.exponentBias = 1023 := rfl
  have hm : (@unpackMantissa .binary64 x.toBits.toBitVec).toNat < 2 ^ 52 :=
    (@unpackMantissa .binary64 x.toBits.toBitVec).isLt
  rw [hexp] at h
  change Fits 53 0 (UnpackedFloat.unpack .binary64 x.toBits.toBitVec)
  rw [UnpackedFloat.unpack]
  dsimp only
  split
  next hinf =>
    rw [hinf] at h
    exact absurd h (by decide)
  · split
    next hzero =>
      have hnat : (@unpackExponent .binary64 x.toBits.toBitVec).toNat = 0 := by
        rw [hzero]
        rfl
      split
      · trivial
      · exact ⟨by omega, by omega⟩
    next =>
      have happ := toNat_implicit (@unpackMantissa .binary64 x.toBits.toBitVec)
      exact ⟨by omega, by omega⟩

theorem isFinite_mul {x y : Float} (hx : exponentField x ≤ 1075) (hy : exponentField y ≤ 1075) :
    isFinite (x * y) = true := by
  have hexp : exponentField (x * y) = (@unpackExponent .binary64 (x * y).toBits.toBitVec).toNat :=
    (toNat_unpackExponent _).symm
  rw [isFinite, hexp, bne_iff_ne]
  exact unpackExponent_pack (fits_mul (fits_unpack hx) (fits_unpack hy))

end RichText.Binary64
