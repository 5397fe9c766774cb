import Mathlib.Data.List.TakeWhile
import RichText.Proofs.Text.Trim
import RichText.Value.Coercion

namespace RichText

namespace Decimal

variable {c : Char} {cs : List Char}

/-! ### Texts that are no numerals -/

def isNumeralChar (c : Char) : Bool := c.isDigit || ['+', '-', '.', 'e', 'E'].contains c

theorem isDigit_of_not_numeral (hc : isNumeralChar c = false) : c.isDigit = false :=
  (Bool.or_eq_false_iff.1 hc).1

theorem mem_splitSign (hc : isNumeralChar c = false) (h : c ∈ cs) : c ∈ (splitSign cs).2 := by
  unfold splitSign
  split
  · obtain rfl | h := List.mem_cons.1 h
    · cases hc
    · exact h
  · obtain rfl | h := List.mem_cons.1 h
    · cases hc
    · exact h
  · exact h

theorem integer?_eq_none (hc : isNumeralChar c = false) (h : c ∈ cs) : integer? cs = none := by
  refine if_neg fun hdigits => ?_
  have hdigit := List.all_eq_true.1 hdigits.2 c (mem_splitSign hc h)
  rw [isDigit_of_not_numeral hc] at hdigit
  cases hdigit

theorem int64?_eq_none (hc : isNumeralChar c = false) (h : c ∈ cs) : int64? cs = none := by
  rw [int64?, integer?_eq_none hc h, Option.bind_none]

theorem exponent?_eq_none (hc : isNumeralChar c = false) (h : c ∈ cs) : exponent? cs = none := by
  cases cs with
  | nil => cases h
  | cons d ds =>
    by_cases hd : d = 'e' ∨ d = 'E'
    · have hmem : c ∈ ds := by
        refine (List.mem_cons.1 h).resolve_left ?_
        rintro rfl
        obtain rfl | rfl := hd <;> cases hc
      rw [exponent?, if_pos hd, integer?_eq_none hc hmem]
    · rw [exponent?, if_neg hd]

theorem mem_dropWhile_isDigit (hc : isNumeralChar c = false) (h : c ∈ cs) :
    c ∈ cs.dropWhile Char.isDigit := by
  rw [← List.takeWhile_append_dropWhile (p := Char.isDigit) (l := cs)] at h
  refine (List.mem_append.1 h).resolve_left fun hmem => ?_
  have hdigit := List.mem_takeWhile_imp hmem
  rw [isDigit_of_not_numeral hc] at hdigit
  cases hdigit

/-- What is left behind the digits still has the character, and so is no exponent. -/
theorem float?_eq_none (hc : isNumeralChar c = false) (h : c ∈ cs) : float? cs = none := by
  have hrest := mem_dropWhile_isDigit hc (mem_splitSign hc h)
  unfold float?
  dsimp only
  split
  next ds hds =>
    rw [hds] at hrest
    have hmem : c ∈ ds := by
      refine (List.mem_cons.1 hrest).resolve_left ?_
      rintro rfl
      cases hc
    simp only [exponent?_eq_none hc (mem_dropWhile_isDigit hc hmem), Option.map_none, ite_self]
  next => simp only [exponent?_eq_none hc hrest, Option.map_none, ite_self]

/-! ### Integers, written and read again -/

theorem ofDigits_digitChars (n : Nat) : ofDigits (digitChars n) = n := by
  rw [ofDigits, digitChars]
  exact Nat.ofDigitChars_eq_foldl.symm.trans Nat.ofDigitChars_ten_toDigits

theorem isDigit_of_mem_digitChars {n : Nat} (h : c ∈ digitChars n) : c.isDigit = true :=
  Nat.isDigit_of_mem_toDigits (by decide) (by decide) h

theorem toList_toString (n : Int) :
    (toString n).toList = (if n < 0 then ['-'] else []) ++ digitChars n.natAbs := by
  rw [Int.toString_eq_repr, Int.repr_eq_if]
  by_cases hn : n < 0
  · have habs : (-n).toNat = n.natAbs := by omega
    rw [if_neg (Int.not_le.2 hn), if_pos hn, habs, String.toList_append, Nat.toList_repr]
    rfl
  · have habs : n.toNat = n.natAbs := by omega
    rw [if_pos (Int.not_lt.1 hn), if_neg hn, habs, Nat.toList_repr]
    rfl

theorem toList_toString_ne_nil (n : Int) : (toString n).toList ≠ [] := by
  rw [toList_toString]
  exact List.append_ne_nil_of_right_ne_nil _ Nat.toDigits_ne_nil

theorem mem_toString {n : Int} (h : c ∈ (toString n).toList) : c.isDigit = true ∨ c = '-' := by
  rw [toList_toString] at h
  obtain h | h := List.mem_append.1 h
  · split at h
    · exact .inr (List.mem_singleton.1 h)
    · cases h
  · exact .inl (isDigit_of_mem_digitChars h)

theorem integer?_toString (n : Int) : integer? (toString n).toList = some n := by
  have hdigits : digitChars n.natAbs ≠ [] ∧ (digitChars n.natAbs).all Char.isDigit = true :=
    ⟨Nat.toDigits_ne_nil, List.all_eq_true.2 fun _ => isDigit_of_mem_digitChars⟩
  have hread : ∀ negative, splitSign (toString n).toList = (negative, digitChars n.natAbs) →
      integer? (toString n).toList =
        some (if negative = true then -(n.natAbs : Int) else n.natAbs) := by
    intro negative hsign
    rw [integer?, hsign]
    dsimp only
    rw [if_pos hdigits, ofDigits_digitChars]
  by_cases hn : n < 0
  · rw [hread true (by rw [toList_toString, if_pos hn]; rfl), if_pos rfl]
    exact congrArg some (by omega)
  · have hsign : splitSign (digitChars n.natAbs) = (false, digitChars n.natAbs) := by
      unfold splitSign
      split
      next ds hds => cases isDigit_of_mem_digitChars (hds ▸ List.mem_cons_self)
      next ds hds => cases isDigit_of_mem_digitChars (hds ▸ List.mem_cons_self)
      next => rfl
    rw [hread false (by rw [toList_toString, if_neg hn, List.nil_append, hsign]),
      if_neg Bool.false_ne_true]
    exact congrArg some (by omega)

theorem int64?_toString (n : Int64) : int64? (toString n.toInt).toList = some n := by
  rw [int64?, integer?_toString, Option.bind_some,
    if_pos ⟨Int64.minValue_le_toInt n, Int64.toInt_le n⟩, Int64.ofInt_toInt]

theorem isBlank_of_isDigit (h : c.isDigit = true) : isBlank c = false := by
  have hrange : 48 ≤ c.toNat ∧ c.toNat ≤ 57 := by
    simpa [Char.isDigit, UInt32.le_iff_toNat_le] using h
  simp [isBlank]
  omega

theorem isBlank_of_mem_toString {n : Int} (h : c ∈ (toString n).toList) : isBlank c = false := by
  obtain h | rfl := mem_toString h
  · exact isBlank_of_isDigit h
  · rfl

theorem trimmed_toString (n : Int) : Trimmed (toString n).toList :=
  trimmed_of_forall fun _ => isBlank_of_mem_toString

end Decimal

theorem Value.intText_eq (n : Int64) : intText n = toString n.toInt := by
  refine String.toList_injective ?_
  rw [Decimal.toList_toString, intText]
  split
  · rw [String.toList_append, String.toList_ofList, String.toList_ofList]
  · rw [String.toList_ofList]
    rfl

end RichText
