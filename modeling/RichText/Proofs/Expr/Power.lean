import Mathlib.Data.Int.ModEq
import Mathlib.RingTheory.Coprime.Lemmas
import Mathlib.RingTheory.Int.Basic
import RichText.Expr.Eval

namespace RichText

/-! ### Powers that wrap around -/

theorem power_ofInt (z : Int) (n : Nat) : power (Int64.ofInt z) n = Int64.ofInt (z ^ n) := by
  induction n using Nat.strongRecOn generalizing z with
  | ind n ih =>
    by_cases h : n = 0
    · rw [power, dif_pos h, h, pow_zero]
      rfl
    · have hhalf : power (Int64.ofInt z * Int64.ofInt z) (n / 2) =
          Int64.ofInt (z ^ (2 * (n / 2))) := by
        rw [← Int64.ofInt_mul, ih (n / 2) (by omega) (z * z), pow_mul, pow_two]
      rw [power, dif_neg h, hhalf]
      by_cases hodd : n % 2 = 1
      · have hsplit : n = 2 * (n / 2) + 1 := by omega
        rw [if_pos hodd, ← Int64.ofInt_mul, ← pow_succ', ← hsplit]
      · have hsplit : n = 2 * (n / 2) := by omega
        rw [if_neg hodd, ← hsplit]

theorem power_eq_ofInt (base : Int64) (n : Nat) : power base n = Int64.ofInt (base.toInt ^ n) := by
  rw [← power_ofInt, Int64.ofInt_toInt]

theorem power_add (base : Int64) (m n : Nat) :
    power base (m + n) = power base m * power base n := by
  simp only [power_eq_ofInt, pow_add, Int64.ofInt_mul]

theorem toInt_power (base : Int64) (n : Nat) :
    (power base n).toInt ≡ base.toInt ^ n [ZMOD 2 ^ 64] := by
  rw [power_eq_ofInt, Int64.toInt_ofInt]
  exact Int.bmod_emod

/-! ### Exponents past the largest that counts -/

theorem pow_modEq_zero_of_even {z : Int} (h : Even z) {n : Nat} (hn : 64 ≤ n) :
    z ^ n ≡ 0 [ZMOD 2 ^ 64] :=
  Int.modEq_zero_iff_dvd.2 ((pow_dvd_pow 2 hn).trans (pow_dvd_pow_of_dvd h.two_dvd n))

theorem pow_modEq_pow_add_iff_of_odd {z : Int} (h : Odd z) (m n : Nat) :
    z ^ m ≡ z ^ (m + n) [ZMOD 2 ^ 64] ↔ z ^ n ≡ 1 [ZMOD 2 ^ 64] := by
  have hprime : IsCoprime ((2 : Int) ^ 64) (z ^ m) := (Int.isCoprime_two_left.2 h).pow
  have hfactor : z ^ (m + n) - z ^ m = z ^ m * (z ^ n - 1) := by ring
  rw [Int.modEq_iff_dvd, hfactor, Int.modEq_comm, Int.modEq_iff_dvd]
  exact ⟨hprime.dvd_of_dvd_mul_left, fun hdvd => hdvd.mul_left _⟩

/-- Where a power with the largest exponent that counts is the right one for `n`. -/
def Saturates (z : Int) (n : Nat) : Prop :=
  n < 2 ^ 32 ∨ Even z ∨ z ^ (n - (2 ^ 32 - 1)) ≡ 1 [ZMOD 2 ^ 64]

theorem pow_min_modEq_iff (z : Int) (n : Nat) :
    z ^ min n maxExponent ≡ z ^ n [ZMOD 2 ^ 64] ↔ Saturates z n := by
  unfold Saturates
  have hmax : maxExponent = 2 ^ 32 - 1 := rfl
  by_cases hn : n < 2 ^ 32
  · rw [Nat.min_eq_left (by omega)]
    exact iff_of_true rfl (.inl hn)
  rw [Nat.min_eq_right (by omega)]
  obtain heven | hodd := Int.even_or_odd z
  · have hleft := pow_modEq_zero_of_even heven (n := maxExponent) (by omega)
    have hright := pow_modEq_zero_of_even heven (n := n) (by omega)
    exact iff_of_true (hleft.trans hright.symm) (.inr (.inl heven))
  · have hsplit : n = maxExponent + (n - (2 ^ 32 - 1)) := by omega
    have hpow := pow_modEq_pow_add_iff_of_odd hodd maxExponent (n - (2 ^ 32 - 1))
    rw [← hsplit] at hpow
    rw [hpow]
    exact ⟨fun h => .inr (.inr h), fun h =>
      (h.resolve_left hn).resolve_left (Int.not_even_iff_odd.2 hodd)⟩

theorem ofInt_eq_of_modEq {a b : Int} (h : a ≡ b [ZMOD 2 ^ 64]) :
    Int64.ofInt a = Int64.ofInt b := by
  rw [Int64.ofInt_eq_iff_bmod_eq_toInt, Int64.toInt_ofInt, ← Int.emod_bmod, ← Int.emod_bmod b]
  exact congrArg (Int.bmod · Int64.size) h

theorem power_min_eq {base : Int64} {n : Nat} (h : Saturates base.toInt n) :
    power base (min n maxExponent) = power base n := by
  rw [power_eq_ofInt, power_eq_ofInt, ofInt_eq_of_modEq ((pow_min_modEq_iff base.toInt n).2 h)]

/-! ### The operator on integers -/

variable {σ : Type} {ctx : Context σ}

theorem apply_pow (hctx : ∀ n : Int64, ctx.coercion.asNumber (.int n) = .int n) (base : Int64)
    {e : Int64} (he : 0 ≤ e) :
    Op.pow.apply ctx (.int base) (.int e) =
      pure (.int (power base (min e.toInt.toNat maxExponent))) := by
  change pure ((ctx.coercion.asNumber (.int base)).arith .pow (ctx.coercion.asNumber (.int e))) = _
  rw [hctx, hctx, Number.arith, intArith, intPower, if_neg (Int64.not_lt.2 he)]

theorem apply_mul (hctx : ∀ n : Int64, ctx.coercion.asNumber (.int n) = .int n) (l r : Int64) :
    Op.mul.apply ctx (.int l) (.int r) = pure (.int (l * r)) := by
  change pure ((ctx.coercion.asNumber (.int l)).arith .mul (ctx.coercion.asNumber (.int r))) = _
  rw [hctx, hctx]
  rfl

/-- On integers the power operator is exact modulo `2 ^ 64`, unless the base is odd and the exponent
has more than 32 bits. It is then the power with the largest exponent of 32 bits, which is right
just if what is left out comes to one. -/
theorem apply_pow_exact (ctx : Context σ)
    (hctx : ∀ n : Int64, ctx.coercion.asNumber (.int n) = .int n) (base : Int64) :
    (∀ e : Int64, 0 ≤ e → ∃ x : Int64, Op.pow.apply ctx (.int base) (.int e) = pure (.int x) ∧
      x.toInt ≡ base.toInt ^ min e.toInt.toNat (2 ^ 32 - 1) [ZMOD 2 ^ 64] ∧
      (x.toInt ≡ base.toInt ^ e.toInt.toNat [ZMOD 2 ^ 64] ↔
        Saturates base.toInt e.toInt.toNat)) ∧
    ∀ d e : Int64, 0 ≤ d → 0 ≤ e → d.toInt + e.toInt < 2 ^ 63 →
      d.toInt + e.toInt < 2 ^ 32 ∨ Even base.toInt →
      Op.pow.apply ctx (.int base) (.int (d + e)) = (do
        let l ← Op.pow.apply ctx (.int base) (.int d)
        let r ← Op.pow.apply ctx (.int base) (.int e)
        Op.mul.apply ctx l r) := by
  refine ⟨fun e he => ⟨_, apply_pow hctx base he, toInt_power base _, ?_⟩,
    fun d e hd he hfit hsum => ?_⟩
  · rw [← pow_min_modEq_iff]
    have hpower := toInt_power base (min e.toInt.toNat maxExponent)
    exact ⟨hpower.symm.trans, hpower.trans⟩
  · have hdi : 0 ≤ d.toInt := Int64.le_iff_toInt_le.1 hd
    have hei : 0 ≤ e.toInt := Int64.le_iff_toInt_le.1 he
    have hadd : (d + e).toInt = d.toInt + e.toInt := by
      rw [Int64.toInt_add, Int.bmod_eq_of_le (by omega) (by omega)]
    have hde : 0 ≤ d + e := by
      rw [Int64.le_iff_toInt_le, hadd]
      exact Int.add_nonneg hdi hei
    have hsat : ∀ {n : Nat}, (n : Int) ≤ d.toInt + e.toInt → Saturates base.toInt n :=
      fun hn => hsum.elim (fun h => .inl (by omega)) fun h => .inr (.inl h)
    rw [apply_pow hctx base hde, apply_pow hctx base hd, apply_pow hctx base he,
      power_min_eq (hsat (by omega)), power_min_eq (hsat (by omega)),
      power_min_eq (hsat (by omega)), hadd, Int.toNat_add hdi hei, power_add, pure_bind, pure_bind,
      apply_mul hctx]

theorem apply_pow_exact_large :
    let ctx : Context Unit := { var := fun _ => pure none }
    (∃ x : Int64, Op.pow.apply ctx (.int 3) (.int 50) = pure (.int x) ∧
      x.toInt ≡ 3 ^ 50 [ZMOD 2 ^ 64]) ∧
    Op.pow.apply ctx (.int 6) (.int 4294967298) = (do
      let l ← Op.pow.apply ctx (.int 6) (.int 4294967296)
      let r ← Op.pow.apply ctx (.int 6) (.int 2)
      Op.mul.apply ctx l r) := by
  intro ctx
  constructor
  · obtain ⟨hexact, -⟩ := apply_pow_exact ctx (fun _ => rfl) 3
    obtain ⟨x, hx, -, hiff⟩ := hexact 50 (by decide)
    exact ⟨x, hx, hiff.2 (.inl (by decide))⟩
  · obtain ⟨-, hadd⟩ := apply_pow_exact ctx (fun _ => rfl) 6
    exact hadd 4294967296 2 (by decide) (by decide) (by decide) (.inr (by decide))

theorem not_apply_pow_exact :
    ¬ ∀ base e : Int64, 0 ≤ e → ∃ x : Int64,
      Op.pow.apply ({ var := fun _ => pure none } : Context Unit) (.int base) (.int e) =
        pure (.int x) ∧ x.toInt ≡ base.toInt ^ e.toInt.toNat [ZMOD 2 ^ 64] := by
  intro h
  obtain ⟨x, hx, hexact⟩ := h (-1) 4294967296 (by decide)
  rw [apply_pow (fun _ => rfl) (-1) (by decide)] at hx
  obtain rfl := Value.int.inj (congrArg (fun m => (m.run ()).1) hx)
  have hpower := toInt_power (-1) (min (4294967296 : Int64).toInt.toNat maxExponent)
  have hsat := (pow_min_modEq_iff _ _).1 (hpower.symm.trans hexact)
  obtain hlt | heven | hone := hsat
  · exact absurd hlt (by decide)
  · exact absurd heven (by decide)
  · exact absurd hone (by decide)

end RichText
