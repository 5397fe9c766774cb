import RichText.Proofs.Directive.Assignment

namespace RichText

theorem Binary64.ofInt_zero : ofInt 0 = 0 := by decide

namespace Value

open Decimal

variable {u v : Value} {n : Int64} {left right : String}

/-! ### The readings of one value as a number -/

theorem intOfText_eq (s : String) : intOfText s = (numberOfText s).toInt := by
  unfold intOfText numberOfText
  dsimp only
  cases int64? (trimBlanks s.toList) with
  | some n => rfl
  | none => cases float? (trimBlanks s.toList) <;> rfl

theorem floatOfText_eq (s : String) : floatOfText s = (numberOfText s).toFloat := by
  unfold floatOfText numberOfText
  dsimp only
  cases int64? (trimBlanks s.toList) with
  | some n => rfl
  | none =>
    cases float? (trimBlanks s.toList) with
    | some x => rfl
    | none => exact Binary64.ofInt_zero.symm

theorem asInt_eq (v : Value) : v.asInt = v.asNumber.toInt := by
  cases v with
  | null | int _ | float _ => rfl
  | bool _ | str _ | list _ | map _ | object _ _ _ _ | markup _ _ => exact intOfText_eq _

theorem asFloat_eq (v : Value) : v.asFloat = v.asNumber.toFloat := by
  cases v with
  | null => exact Binary64.ofInt_zero.symm
  | int _ | float _ => rfl
  | bool _ | str _ | list _ | map _ | object _ _ _ _ | markup _ _ => exact floatOfText_eq _

/-- The integer and the double that a value is read as are those of the number that it is read
as. -/
theorem numeric_readings_agree (v : Value) :
    v.asInt = v.asNumber.toInt ∧ v.asFloat = v.asNumber.toFloat :=
  ⟨asInt_eq v, asFloat_eq v⟩

/-! ### Integers in texts and in lists -/

theorem numberOfText_toString (hleft : left.toList.all isBlank = true)
    (hright : right.toList.all isBlank = true) :
    numberOfText (left ++ toString n.toInt ++ right) = .int n := by
  have htrim :
      trimBlanks (left ++ toString n.toInt ++ right).toList = (toString n.toInt).toList := by
    rw [String.toList_append, String.toList_append,
      trimBlanks_append (List.all_eq_true.1 hleft) (List.all_eq_true.1 hright)
        (trimmed_toString n.toInt)]
  unfold numberOfText
  dsimp only
  rw [htrim, int64?_toString]

theorem asStr_int (n : Int64) : (int n).asStr = toString n.toInt := intText_eq n

theorem numberOfText_asStr (n : Int64) : numberOfText (int n).asStr = .int n := by
  have hbare : toString n.toInt = "" ++ toString n.toInt ++ "" := by simp
  rw [asStr_int, hbare, numberOfText_toString rfl rfl]

/-- A value begins with itself, and a list begins with what its first item begins with. -/
inductive BeginsWith : Value → Value → Prop
  | self (u : Value) : BeginsWith u u
  | list {u v : Value} {vs : List Value} : v.BeginsWith u → BeginsWith (.list (v :: vs)) u

theorem BeginsWith.asStr (h : v.BeginsWith u) : v.asStr = u.asStr := by
  induction h with
  | self => rfl
  | list _ ih => rw [Value.asStr, ih]

theorem BeginsWith.asNumber (h : v.BeginsWith u) (hu : u.asNumber = numberOfText u.asStr) :
    v.asNumber = u.asNumber := by
  have htext := h.asStr
  cases h with
  | self => rfl
  | list _ => exact (congrArg numberOfText htext).trans hu.symm

end Value

namespace Directive

variable {n : Int}

theorem isPlain_of_mem_toString {c : Char} (h : c ∈ (toString n).toList) : isPlain c = true := by
  have hmark : c ≠ '"' := by
    rintro rfl
    obtain h | h := Decimal.mem_toString h <;> cases h
  rw [isPlain, Decimal.isBlank_of_mem_toString h, Bool.not_false, Bool.true_and, bne_iff_ne]
  exact hmark

theorem tokens_toString (n : Int) : tokens (toString n).toList = [(toString n).toList] := by
  have hplain : (toString n).toList.all isPlain = true :=
    List.all_eq_true.2 fun _ => isPlain_of_mem_toString
  have htokens := tokens_arguments (toString n).toList []
  rwa [argument, if_pos ⟨Decimal.toList_toString_ne_nil n, hplain⟩, arguments, List.flatMap_nil,
    List.append_nil] at htokens

end Directive

namespace Config

theorem isValueText_toString (n : Int) : IsValueText (toString n) where
  ne_empty h := Decimal.toList_toString_ne_nil n (by rw [h]; rfl)
  trimmed := Decimal.trimmed_toString n
  single h := by cases Decimal.isBlank_of_mem_toString h

theorem load_set_int {name : String} (hname : IsVariable name) (n : Int64) :
    load ("/set " ++ name ++ "=" ++ toString n.toInt) = ({ vars := [(name, .int n)] }, []) := by
  obtain ⟨first, rest, htokens, hload, -⟩ := exists_load_set hname (isValueText_toString n.toInt)
  obtain ⟨rfl, rfl⟩ := List.cons.inj (htokens.symm.trans (Directive.tokens_toString n.toInt))
  rw [hload, Directive.scalar, Decimal.int64?_toString]

end Config

/-- An integer is read again from its text, also with blanks around it and at the head of lists of
any depth, and a directive that gives a variable this text binds it to the integer. -/
theorem Value.integer_readings (n : Int64) :
    (∀ v : Value, v.BeginsWith (.int n) →
      v.asStr = toString n.toInt ∧ v.asInt = n ∧ v.asNumber = .int n) ∧
    (∀ left right : String, left.toList.all isBlank = true → right.toList.all isBlank = true →
      ∀ v : Value, v.BeginsWith (.str (left ++ toString n.toInt ++ right)) →
        v.asInt = n ∧ v.asNumber = .int n) ∧
    ∀ name, Config.IsVariable name →
      Config.load ("/set " ++ name ++ "=" ++ toString n.toInt) =
        ({ vars := [(name, .int n)] }, []) := by
  have hint : ∀ {v : Value}, v.asNumber = .int n → v.asInt = n := by
    intro v hv
    rw [asInt_eq, hv]
    rfl
  refine ⟨fun v hv => ?_, fun left right hleft hright v hv => ?_, fun name hname =>
    Config.load_set_int hname n⟩
  · have hnumber : v.asNumber = .int n := hv.asNumber (numberOfText_asStr n).symm
    exact ⟨hv.asStr.trans (asStr_int n), hint hnumber, hnumber⟩
  · have hnumber : v.asNumber = .int n :=
      (hv.asNumber rfl).trans (numberOfText_toString hleft hright)
    exact ⟨hint hnumber, hnumber⟩

theorem Value.integer_readings_least :
    (list [list [int Int64.minValue, null], bool true]).asInt = Int64.minValue ∧
      (list [list [int Int64.minValue, null], bool true]).asNumber = .int Int64.minValue ∧
      (str "\t-9223372036854775808\n").asNumber = .int Int64.minValue ∧
      Config.load "/set x=-9223372036854775808" =
        ({ vars := [("x", .int Int64.minValue)] }, []) := by
  have htext : toString Int64.minValue.toInt = "-9223372036854775808" := by decide
  obtain ⟨hlists, htexts, hload⟩ := integer_readings Int64.minValue
  obtain ⟨-, hint, hnumber⟩ := hlists _ (.list (.list (.self _)))
  obtain ⟨-, hspaced⟩ := htexts "\t" "\n" (by decide) (by decide) _ (.self _)
  have hset := hload "x" ⟨by decide, by decide, by decide⟩
  rw [htext] at hspaced hset
  exact ⟨hint, hnumber, hspaced, hset⟩

end RichText
