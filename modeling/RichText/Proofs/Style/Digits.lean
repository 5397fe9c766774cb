import Mathlib.Algebra.Group.Nat.Defs
import RichText.Proofs.Text.Trim
import RichText.Style.Color

namespace RichText

namespace Hexadecimal

theorem digitValue?_lastDigit (n : Nat) : digitValue? (lastDigit n) = some (n % 16) := by
  have hdigit : ∀ m < 16, digitValue? (Nat.digitChar m).toUpper = some m := by decide
  exact hdigit (n % 16) (Nat.mod_lt n (by decide))

theorem length_digits (width n : Nat) : (digits width n).length = width := by
  induction width generalizing n with
  | zero => rfl
  | succ width ih => rw [digits, List.length_append, ih, List.length_singleton]

theorem ofDigits?_concat (ds : List Char) (d : Char) : ofDigits? (ds ++ [d]) =
    (ofDigits? ds).bind fun m => (digitValue? d).map (16 * m + ·) := by
  rw [ofDigits?, List.foldlM_append]
  simp [ofDigits?]

theorem ofDigits?_digits (width n : Nat) : ofDigits? (digits width n) = some (n % 16 ^ width) := by
  induction width generalizing n with
  | zero => rw [pow_zero, Nat.mod_one]; rfl
  | succ width ih =>
    have hsplit : n % 16 ^ (width + 1) = 16 * (n / 16 % 16 ^ width) + n % 16 := by
      rw [pow_succ', Nat.mod_mul, Nat.add_comm]
    rw [digits, ofDigits?_concat, ih, digitValue?_lastDigit, hsplit]
    rfl

theorem isBlank_of_mem_digits {width n : Nat} {c : Char} (h : c ∈ digits width n) :
    isBlank c = false := by
  have hdigit : ∀ m < 16, isBlank (Nat.digitChar m).toUpper = false := by decide
  induction width generalizing n with
  | zero => cases h
  | succ width ih =>
    obtain h | h := List.mem_append.1 h
    · exact ih h
    · rw [List.mem_singleton.1 h]
      exact hdigit (n % 16) (Nat.mod_lt n (by decide))

end Hexadecimal

namespace Color

def argbText (c : Color) : List Char := '#' :: Hexadecimal.digits 8 c.argb.toNat

theorem isBlank_of_mem_argbText {c : Color} {x : Char} (h : x ∈ c.argbText) :
    isBlank x = false := by
  obtain rfl | h := List.mem_cons.1 h
  · rfl
  · exact Hexadecimal.isBlank_of_mem_digits h

theorem parseChars_argbText (c : Color) : parseChars c.argbText = some c := by
  have hhex : ofHex? (Hexadecimal.digits 8 c.argb.toNat) = some c := by
    have hroom : c.argb.toNat % 16 ^ 8 = c.argb.toNat := Nat.mod_eq_of_lt c.argb.toNat_lt
    rw [ofHex?, Hexadecimal.ofDigits?_digits, hroom, Option.bind_some, Hexadecimal.length_digits]
    exact congrArg (fun n => some (Color.mk n)) (UInt32.ofNat_toNat)
  have htrim : trimBlanks c.argbText = c.argbText :=
    (trimmed_of_forall fun x hx => isBlank_of_mem_argbText hx).trimBlanks
  rw [parseChars, htrim]
  change (ofHex? (Hexadecimal.digits 8 c.argb.toNat)).or _ = some c
  rw [hhex, Option.some_or]

end Color

end RichText
