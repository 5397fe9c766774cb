import RichText.Proofs.Binary64.Encoding
import RichText.Text.Basic

namespace RichText

namespace Binary64

variable {x y : Float} {n w : Nat}

structure Whole (y : Float) (w : Nat) : Prop where
  isFinite : isFinite y = true
  magnitude_eq : magnitude y = w <<< unitExponent

theorem Whole.wholePart_eq (h : Whole y w) : wholePart y = w := by
  rw [wholePart, h.magnitude_eq, Nat.shiftLeft_shiftRight]

theorem units_pos : 0 < 1 <<< unitExponent := by
  rw [Nat.one_shiftLeft]
  exact Nat.two_pow_pos _

theorem whole_of_fractionPart (hx : isFinite x = true) (h : fractionPart x = 0) :
    Whole x (wholePart x) := by
  refine ⟨hx, ?_⟩
  rw [wholePart, Nat.shiftRight_eq_div_pow, Nat.shiftLeft_eq]
  rw [fractionPart, Nat.one_shiftLeft] at h
  exact (Nat.div_mul_cancel (Nat.dvd_of_mod_eq_zero h)).symm

/-- A fraction takes at least one of the significand's bits. -/
theorem scale_lt_of_fractionPart (h : fractionPart x ≠ 0) : scale x < unitExponent := by
  by_contra hle
  refine h ?_
  rw [fractionPart, magnitude, Nat.shiftLeft_eq, Nat.one_shiftLeft]
  exact Nat.mod_eq_zero_of_dvd ((pow_dvd_pow 2 (Nat.le_of_not_lt hle)).mul_left _)

theorem wholePart_lt_of_fractionPart (h : fractionPart x ≠ 0) : wholePart x < 2 ^ 52 := by
  have hfrac : fractionField x < 2 ^ 52 := Nat.mod_lt _ (by decide)
  have hscale := scale_lt_of_fractionPart h
  have hmant : mantissa x < 2 ^ 52 * 2 := by
    have hone : (1 <<< 52 : Nat) = 2 ^ 52 := rfl
    rw [mantissa, hone]
    split <;> omega
  have hsplit : unitExponent = scale x + 1 + (unitExponent - (scale x + 1)) := by omega
  rw [wholePart, magnitude, hsplit, Nat.shiftRight_add, Nat.shiftRight_add,
    Nat.shiftLeft_shiftRight]
  refine (Nat.shiftRight_le _ _).trans_lt ?_
  rw [Nat.shiftRight_one]
  exact Nat.div_lt_of_lt_mul (by omega)

theorem representable_whole (h : n < 2 ^ 53) : Representable (n <<< unitExponent) :=
  ⟨n, unitExponent, h, by decide, rfl⟩

theorem whole_ofWhole (h : n < 2 ^ 53) (negative : Bool) : Whole (ofWhole negative n) n :=
  ⟨isFinite_ofMagnitude (representable_whole h) negative,
    magnitude_ofMagnitude (representable_whole h) negative⟩

theorem signBit_ofWhole (h : n < 2 ^ 53) (negative : Bool) :
    signBit (ofWhole negative n) = negative :=
  signBit_ofMagnitude (representable_whole h) negative

/-- `w` is the whole part of `x`, or the number above it where `x` has a fraction. -/
def Beside (x : Float) (w : Nat) : Prop :=
  w = wholePart x ∨ fractionPart x ≠ 0 ∧ w = wholePart x + 1

/-- What the rounded double of `x` is, whichever way it is rounded. A zero may lose its sign. -/
def Rounded (x y : Float) : Prop :=
  ∃ w, Beside x w ∧ Whole y w ∧ (w ≠ 0 → signBit y = signBit x)

theorem rounded_ofWhole {negative : Bool} (hx : fractionPart x ≠ 0) (hw : Beside x w)
    (hsign : w ≠ 0 → negative = signBit x) : Rounded x (ofWhole negative w) := by
  have hpart := wholePart_lt_of_fractionPart hx
  have hlt : w < 2 ^ 53 := by
    obtain rfl | ⟨-, rfl⟩ := hw
    · omega
    · omega
  exact ⟨w, hw, whole_ofWhole hlt negative, fun hne => (signBit_ofWhole hlt _).trans (hsign hne)⟩

theorem hasFraction_iff (hx : isFinite x = true) : hasFraction x = true ↔ fractionPart x ≠ 0 := by
  rw [hasFraction, hx, Bool.true_and, bne_iff_ne]

theorem rounded_self (hx : isFinite x = true) (h : ¬ hasFraction x = true) : Rounded x x := by
  rw [hasFraction_iff hx, not_not] at h
  exact ⟨wholePart x, .inl rfl, whole_of_fractionPart hx h, fun _ => rfl⟩

theorem rounded_truncate (hx : isFinite x = true) : Rounded x (truncate x) := by
  rw [truncate]
  split
  next h =>
    rw [hasFraction_iff hx] at h
    exact rounded_ofWhole h (.inl rfl) fun _ => rfl
  next h => exact rounded_self hx h

theorem rounded_expand (hx : isFinite x = true) : Rounded x (expand x) := by
  rw [expand]
  split
  next h =>
    rw [hasFraction_iff hx] at h
    exact rounded_ofWhole h (.inr ⟨h, rfl⟩) fun _ => rfl
  next h => exact rounded_self hx h

theorem rounded_round (hx : isFinite x = true) : Rounded x (round x) := by
  rw [round]
  split
  · exact rounded_truncate hx
  · exact rounded_expand hx

theorem fractionPart_ne_of_isTie (h : isTie x = true) : fractionPart x ≠ 0 := by
  intro hzero
  rw [isTie, Bool.and_eq_true, beq_iff_eq, hzero] at h
  exact units_pos.ne h.2

theorem rounded_evenNeighbour (h : isTie x = true) : Rounded x (evenNeighbour x) := by
  have hne := fractionPart_ne_of_isTie h
  have hw : Beside x (wholePart x + wholePart x % 2) := by
    obtain heven | hodd := Nat.mod_two_eq_zero_or_one (wholePart x)
    · exact .inl (by rw [heven, Nat.add_zero])
    · exact .inr ⟨hne, by rw [hodd]⟩
  refine rounded_ofWhole hne hw fun hnonzero => ?_
  rw [bne_iff_ne.2 hnonzero, Bool.and_true]

theorem truncate_of_not_isFinite (h : isFinite x = false) : truncate x = x := by
  rw [truncate, hasFraction, h]
  rfl

theorem expand_of_not_isFinite (h : isFinite x = false) : expand x = x := by
  rw [expand, hasFraction, h]
  rfl

end Binary64

open Binary64

/-- Every way to round gives a whole number that is next to the one it is given. -/
theorem Rounding.rounded_apply (r : Rounding) {x : Float} (hx : isFinite x = true) :
    Rounded x (r.apply x) := by
  cases r with
  | up => exact rounded_expand hx
  | down => exact rounded_truncate hx
  | ceiling =>
    rw [apply, ceil]
    split
    · exact rounded_truncate hx
    · exact rounded_expand hx
  | floor =>
    rw [apply, Binary64.floor]
    split
    · exact rounded_expand hx
    · exact rounded_truncate hx
  | halfUp => exact rounded_round hx
  | halfDown =>
    rw [apply]
    split
    · exact rounded_truncate hx
    · exact rounded_round hx
  | halfEven =>
    rw [apply]
    split
    next h => exact rounded_evenNeighbour h
    next => exact rounded_round hx

theorem Rounding.apply_of_not_isFinite (r : Rounding) {x : Float} (hx : isFinite x = false) :
    r.apply x = x := by
  have hround : Binary64.round x = x := by
    rw [Binary64.round, truncate_of_not_isFinite hx, expand_of_not_isFinite hx, ite_self]
  have htie : ¬ isTie x = true := by
    rw [isTie, hx]
    exact Bool.false_ne_true
  cases r with
  | up => exact expand_of_not_isFinite hx
  | down => exact truncate_of_not_isFinite hx
  | ceiling =>
    rw [apply, ceil, truncate_of_not_isFinite hx, expand_of_not_isFinite hx, ite_self]
  | floor =>
    rw [apply, Binary64.floor, truncate_of_not_isFinite hx, expand_of_not_isFinite hx, ite_self]
  | halfUp => exact hround
  | halfDown | halfEven => rw [apply, if_neg htie, hround]

end RichText
