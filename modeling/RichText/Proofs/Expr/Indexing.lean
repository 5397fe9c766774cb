import Mathlib.Data.Int.Init
import RichText.Expr.Eval

namespace RichText

/-! ### Positions in a sequence -/

theorem wrapIndex_eq_some_iff {len i : Nat} {index : Int64} :
    wrapIndex len index = some i ↔ i < len ∧ (index.toInt = i ∨ index.toInt = i - len) := by
  have hneg : index < 0 ↔ index.toInt < 0 := Int64.lt_iff_toInt_lt
  unfold wrapIndex
  simp only [hneg, Option.ite_none_right_eq_some, Option.some.injEq]
  by_cases h : index.toInt < 0
  · rw [if_pos h]
    omega
  · rw [if_neg h]
    omega

theorem wrapIndex_eq_none_iff {len : Nat} {index : Int64} :
    wrapIndex len index = none ↔ index.toInt < -len ∨ len ≤ index.toInt := by
  have hneg : index < 0 ↔ index.toInt < 0 := Int64.lt_iff_toInt_lt
  unfold wrapIndex
  simp only [hneg, ite_eq_right_iff, reduceCtorEq, imp_false]
  by_cases h : index.toInt < 0
  · rw [if_pos h]
    omega
  · rw [if_neg h]
    omega

theorem nth_eq_of_lt {items : List Value} {i : Nat} (hi : i < items.length) {index : Int64}
    (h : index.toInt = i ∨ index.toInt = i - items.length) : nth items index = items[i] := by
  have hwrap : wrapIndex items.length index = some i := wrapIndex_eq_some_iff.2 ⟨hi, h⟩
  rw [nth, hwrap, Option.bind_some, List.getElem?_eq_getElem hi, Option.getD_some]

theorem nth_eq_null {items : List Value} {index : Int64}
    (h : index.toInt < -items.length ∨ items.length ≤ index.toInt) : nth items index = .null := by
  rw [nth, wrapIndex_eq_none_iff.2 h]
  rfl

/-! ### Ranges -/

def rangeLength (a b : Int64) : Nat :=
  if b ≤ a then 0 else min (b.toInt - a.toInt + 1).toNat 65536

def rangeInts (a b : Int64) : List Int64 :=
  (List.range (rangeLength a b)).map fun (i : Nat) => .ofInt (a.toInt + i)

theorem toInt_succ {a b : Int64} (h : a < b) : (a + 1).toInt = a.toInt + 1 := by
  have hlt : a.toInt < b.toInt := Int64.lt_iff_toInt_lt.1 h
  have hlow := a.le_toInt
  have hhigh := b.toInt_lt
  have hone : (1 : Int64).toInt = 1 := rfl
  rw [Int64.toInt_add, hone, Int.bmod_eq_of_le (by omega) (by omega)]

/-- Counting ends at the upper end or with the number of items that are taken. -/
theorem countUp_eq {a b : Int64} (h : a ≤ b) (n : Nat) : countUp n a b =
    (List.range (min n (b.toInt - a.toInt + 1).toNat)).map fun (i : Nat) =>
      Int64.ofInt (a.toInt + i) := by
  induction n generalizing a with
  | zero => rw [Nat.zero_min]; rfl
  | succ n ih =>
    have hle : a.toInt ≤ b.toInt := Int64.le_iff_toInt_le.1 h
    have hfirst : Int64.ofInt (a.toInt + (0 : Nat)) = a := by
      rw [Int.natCast_zero, Int.add_zero, Int64.ofInt_toInt]
    rw [countUp]
    by_cases hlt : a < b
    · have hsucc := toInt_succ hlt
      have hlti : a.toInt < b.toInt := Int64.lt_iff_toInt_lt.1 hlt
      have hnext : a + 1 ≤ b := Int64.le_iff_toInt_le.2 (by omega)
      have hlen : min (n + 1) (b.toInt - a.toInt + 1).toNat =
          min n (b.toInt - (a + 1).toInt + 1).toNat + 1 := by
        rw [hsucc]
        omega
      rw [if_pos hlt, ih hnext, hlen, List.range_succ_eq_map, List.map_cons, hfirst, List.map_map,
        hsucc]
      refine congrArg (a :: ·) (List.map_congr_left fun i _ => congrArg Int64.ofInt ?_)
      omega
    · have hsame : a = b := Int64.le_antisymm h (Int64.not_lt.1 hlt)
      have hlen : min (n + 1) (b.toInt - a.toInt + 1).toNat = 1 := by
        rw [hsame]
        omega
      rw [if_neg hlt, if_pos hsame, hlen, List.range_one, List.map_singleton, hfirst]

theorem rangeItems_eq (a b : Int64) : rangeItems a b = (rangeInts a b).map .int := by
  unfold rangeItems rangeInts rangeLength
  by_cases h : b ≤ a
  · rw [if_pos h, if_pos h]
    rfl
  · have hle : a ≤ b := Int64.le_of_lt (Int64.not_le.1 h)
    have hlen : min (if b.toInt - a.toInt + 1 > maxRangeLength then maxRangeLength
        else (b.toInt - a.toInt + 1).toNat) (b.toInt - a.toInt + 1).toNat =
          min (b.toInt - a.toInt + 1).toNat 65536 := by
      have hmax : maxRangeLength = 65536 := rfl
      split <;> omega
    rw [if_neg h, if_neg h]
    dsimp only
    rw [countUp_eq hle, hlen]

theorem length_rangeInts (a b : Int64) : (rangeInts a b).length = rangeLength a b := by
  rw [rangeInts, List.length_map, List.length_range]

theorem add_le_of_lt_rangeLength {a b : Int64} {i : Nat} (h : i < rangeLength a b) :
    a.toInt + i ≤ b.toInt := by
  unfold rangeLength at h
  by_cases hba : b ≤ a
  · rw [if_pos hba] at h
    exact absurd h (Nat.not_lt_zero i)
  · rw [if_neg hba] at h
    omega

theorem toInt_ofInt_add {a b : Int64} {i : Nat} (h : i < rangeLength a b) :
    (Int64.ofInt (a.toInt + i)).toInt = a.toInt + i := by
  have hlow := a.le_toInt
  have hhigh := b.toInt_lt
  have hb := add_le_of_lt_rangeLength h
  exact Int64.toInt_ofInt_of_le (by omega) (by omega)

theorem map_toInt_rangeInts (a b : Int64) :
    (rangeInts a b).map Int64.toInt =
      (List.range (rangeLength a b)).map fun (i : Nat) => a.toInt + i := by
  rw [rangeInts, List.map_map]
  refine List.map_congr_left fun i hi => ?_
  exact toInt_ofInt_add (List.mem_range.1 hi)

theorem nth_rangeInts {a b k : Int64} {i : Nat} (hi : i < rangeLength a b)
    (h : k.toInt = i ∨ k.toInt = i - rangeLength a b) :
    ∃ x : Int64, nth ((rangeInts a b).map .int) k = .int x ∧ x.toInt = a.toInt + i := by
  have hlen : ((rangeInts a b).map Value.int).length = rangeLength a b := by
    rw [List.length_map, length_rangeInts]
  refine ⟨.ofInt (a.toInt + i), ?_, toInt_ofInt_add hi⟩
  rw [nth_eq_of_lt (hlen.symm ▸ hi) (hlen.symm ▸ h)]
  simp [rangeInts]

theorem nth_rangeInts_eq_null {a b k : Int64}
    (h : k.toInt < -rangeLength a b ∨ rangeLength a b ≤ k.toInt) :
    nth ((rangeInts a b).map .int) k = .null := by
  refine nth_eq_null ?_
  rwa [List.length_map, length_rangeInts]

variable {σ : Type}

/-- A range counts up from its lower end without wrapping around, and it is indexed from either of
its ends. -/
theorem subscript_range (env : Environment σ) (readField : Value → String → StateM σ Value)
    (a b k : Int64) :
    let ctx : Context σ := { var := env, readField := readField }
    let range : Expr := .binary .range (.atom (.int a)) (.atom (.int b))
    ∃ items : List Int64, ∃ v : Value,
      range.eval ctx = pure (.list (items.map .int)) ∧
      items.map Int64.toInt = (List.range (rangeLength a b)).map (fun (i : Nat) => a.toInt + i) ∧
      (range.subscript (.atom (.int k))).eval ctx = pure v ∧
      (0 ≤ k.toInt → k.toInt < rangeLength a b →
        ∃ x : Int64, v = .int x ∧ x.toInt = a.toInt + k.toInt) ∧
      (-rangeLength a b ≤ k.toInt → k.toInt < 0 →
        ∃ x : Int64, v = .int x ∧ x.toInt = a.toInt + rangeLength a b + k.toInt) ∧
      (k.toInt < -rangeLength a b ∨ rangeLength a b ≤ k.toInt → v = .null) := by
  intro ctx range
  have hrange : range.eval ctx = pure (.list ((rangeInts a b).map .int)) := by
    rw [← rangeItems_eq]
    rfl
  refine ⟨rangeInts a b, nth ((rangeInts a b).map .int) k, hrange, map_toInt_rangeInts a b, ?_,
    fun hk hlt => ?_, fun hk hneg => ?_, nth_rangeInts_eq_null⟩
  · rw [Expr.eval, hrange]
    rfl
  · obtain ⟨i, hi⟩ := Int.eq_ofNat_of_zero_le hk
    obtain ⟨x, hx, hval⟩ := nth_rangeInts (a := a) (b := b) (k := k) (i := i) (by omega) (.inl hi)
    exact ⟨x, hx, by omega⟩
  · obtain ⟨i, hi⟩ := Int.eq_ofNat_of_zero_le (a := rangeLength a b + k.toInt) (by omega)
    obtain ⟨x, hx, hval⟩ :=
      nth_rangeInts (a := a) (b := b) (k := k) (i := i) (by omega) (.inr (by omega))
    exact ⟨x, hx, by omega⟩

theorem subscript_range_capped :
    ∃ x : Int64,
      ((Expr.binary .range (.atom (.int .minValue)) (.atom (.int .maxValue))).subscript
        (.atom (.int (-1)))).eval
          { var := fun _ => pure none, readField := fun _ _ => pure .null : Context Unit } =
        pure (.int x) ∧
      x.toInt = -9223372036854710273 := by
  obtain ⟨-, v, -, -, hv, -, hneg, -⟩ :=
    subscript_range (fun _ => pure none : Environment Unit) (fun _ _ => pure .null) .minValue
      .maxValue (-1)
  have hlen : rangeLength .minValue .maxValue = 65536 := by decide
  have hkey : (-1 : Int64).toInt = -1 := by decide
  have hlow : Int64.minValue.toInt = -9223372036854775808 := by decide
  obtain ⟨x, rfl, hx⟩ := hneg (by omega) (by omega)
  exact ⟨x, hv, by omega⟩

end RichText
