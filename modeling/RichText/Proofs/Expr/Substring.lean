import Mathlib.Data.List.FinRange
import Mathlib.Data.List.Flatten
import RichText.Proofs.Expr.Indexing

namespace RichText

/-! ### The slices that there are -/

/-- The last `k` characters, last first, for a bound of `-k`. -/
def reversedSuffix (cs : List Char) (bound : Int64) : List Char :=
  if bound < 0 then (cs.drop (cs.length - bound.toInt.natAbs)).reverse else []

def countedPrefix (cs : List Char) (bound : Int64) : List Char :=
  if bound < 0 then cs.take bound.toInt.natAbs else []

def slice (cs : List Char) (first last : Int) : List Char :=
  if 0 ≤ first ∧ first ≤ last then (cs.take (last.toNat + 1)).drop first.toNat else []

theorem slice?_eq_some {cs : List Char} {a b : Nat} (hab : a ≤ b) (hb : b ≤ cs.length) :
    slice? cs a b = some ((cs.take b).drop a) := if_pos ⟨hab, hb⟩

theorem suffix?_eq (cs : List Char) (bound : Int64) :
    suffix? cs bound.toInt = some (reversedSuffix cs bound) := by
  have hneg : bound < 0 ↔ bound.toInt < 0 := Int64.lt_iff_toInt_lt
  have hlen : cs.length - clamp cs.length bound.toInt = cs.length - bound.toInt.natAbs := by
    unfold clamp
    omega
  unfold suffix? reversedSuffix
  simp only [hneg]
  split
  · rw [hlen, slice?_eq_some (Nat.sub_le ..) (Nat.le_refl _), List.take_length]
    rfl
  · rfl

theorem prefix?_eq (cs : List Char) (bound : Int64) :
    prefix? cs bound.toInt = some (countedPrefix cs bound) := by
  have hneg : bound < 0 ↔ bound.toInt < 0 := Int64.lt_iff_toInt_lt
  unfold prefix? countedPrefix
  simp only [hneg]
  split
  · rw [slice?_eq_some (Nat.zero_le _) (clamp_le ..), List.drop_zero, clamp,
      ← List.take_eq_take_min]
  · rfl

theorem window?_eq (cs : List Char) (first last : Int) :
    window? cs first last = some (slice cs first last) := by
  have hbounds : 0 ≤ first ∧ 0 ≤ last ∧ first ≤ last ↔ 0 ≤ first ∧ first ≤ last := by omega
  unfold window? slice
  simp only [hbounds]
  split
  next h =>
    have hstart : clamp cs.length first = min first.toNat cs.length := by
      unfold clamp
      omega
    have hlast : clamp cs.length last = min last.toNat cs.length := by
      unfold clamp
      omega
    split
    next hlt =>
      have htake : cs.take (min (clamp cs.length last) (cs.length - 1) + 1) =
          cs.take (last.toNat + 1) := by
        rw [List.take_eq_take_iff]
        omega
      have hfirst : clamp cs.length first = first.toNat := by omega
      rw [slice?_eq_some (by omega) (by omega), htake, hfirst]
    next hge =>
      have hnil : (cs.take (last.toNat + 1)).drop first.toNat = [] := by
        rw [List.drop_eq_nil_iff, List.length_take]
        omega
      rw [hnil]
  next => rfl

theorem substringOf_eq (s : String) (lower upper : Option Int64) :
    substringOf s lower upper = String.ofList (lower.elim [] (reversedSuffix s.toList) ++
      upper.elim [] (countedPrefix s.toList) ++ slice s.toList (lower.elim 0 Int64.toInt)
        (upper.elim (s.toList.length - 1) Int64.toInt)) := by
  have hfront : (lower.elim (some []) fun lower => suffix? s.toList lower.toInt) =
      some (lower.elim [] (reversedSuffix s.toList)) := by
    cases lower with
    | none => rfl
    | some bound => exact suffix?_eq s.toList bound
  have hmiddle : (upper.elim (some []) fun upper => prefix? s.toList upper.toInt) =
      some (upper.elim [] (countedPrefix s.toList)) := by
    cases upper with
    | none => rfl
    | some bound => exact prefix?_eq s.toList bound
  refine Option.get_of_eq_some _ ?_
  simp only [substring?, hfront, hmiddle, window?_eq, Option.bind_eq_bind, Option.bind_some]
  rfl

/-! ### Positions in a text -/

def tailPositions (n : Nat) (bound : Int64) : List (Fin n) :=
  if bound < 0 then ((List.finRange n).drop (n - min bound.toInt.natAbs n)).reverse else []

def headPositions (n : Nat) (bound : Int64) : List (Fin n) :=
  if bound < 0 then (List.finRange n).take (min bound.toInt.natAbs n) else []

/-- The positions from `first` to `last`, both included, unless one of them is negative. -/
def innerPositions (n : Nat) (first last : Int) : List (Fin n) :=
  if 0 ≤ first ∧ 0 ≤ last then (List.finRange n).filter fun i => first ≤ i ∧ i ≤ last else []

/-- Where a substring of a text of `n` characters is read. -/
def substringPositions (n : Nat) (lower upper : Option Int64) : List (Fin n) :=
  lower.elim [] (tailPositions n) ++ upper.elim [] (headPositions n) ++
    innerPositions n (lower.elim 0 Int64.toInt) (upper.elim (n - 1) Int64.toInt)

theorem map_get_tailPositions (cs : List Char) (bound : Int64) :
    (tailPositions cs.length bound).map cs.get = reversedSuffix cs bound := by
  unfold tailPositions reversedSuffix
  by_cases h : bound < 0
  · have hlen : cs.length - min bound.toInt.natAbs cs.length = cs.length - bound.toInt.natAbs := by
      omega
    rw [if_pos h, if_pos h, List.map_reverse, List.map_drop, List.map_get_finRange, hlen]
  · rw [if_neg h, if_neg h, List.map_nil]

theorem map_get_headPositions (cs : List Char) (bound : Int64) :
    (headPositions cs.length bound).map cs.get = countedPrefix cs bound := by
  unfold headPositions countedPrefix
  by_cases h : bound < 0
  · rw [if_pos h, if_pos h, List.map_take, List.map_get_finRange, ← List.take_eq_take_min]
  · rw [if_neg h, if_neg h, List.map_nil]

theorem map_get_window {α : Type} (l : List α) (a b : Nat) :
    ((List.finRange l.length).filter fun i => a ≤ i.val ∧ i.val < b).map l.get =
      (l.take b).drop a := by
  induction l generalizing a b with
  | nil => simp
  | cons x rest ih =>
    -- the positions after the first are those of the rest, moved up by one
    have hsucc : (((List.finRange rest.length).map Fin.succ).filter fun i : Fin (rest.length + 1) =>
        a ≤ i.val ∧ i.val < b).map (x :: rest).get = (rest.take (b - 1)).drop (a - 1) := by
      rw [← ih, List.filter_map, List.map_map]
      refine congrArg _ (List.filter_congr fun i _ => ?_)
      rw [Function.comp_apply, Fin.val_succ, decide_eq_decide]
      omega
    change (((List.finRange (rest.length + 1)).filter _).map _) = _
    rw [List.finRange_succ, List.filter_cons]
    cases b with
    | zero => simp
    | succ b => cases a <;> simpa using hsucc

theorem map_get_innerPositions (cs : List Char) (first last : Int) :
    (innerPositions cs.length first last).map cs.get = slice cs first last := by
  unfold innerPositions slice
  by_cases h : 0 ≤ first ∧ 0 ≤ last
  · have hwindow := map_get_window cs first.toNat (last.toNat + 1)
    have hfilter : ((List.finRange cs.length).filter fun i => first ≤ i.val ∧ i.val ≤ last) =
        (List.finRange cs.length).filter fun i => first.toNat ≤ i.val ∧ i.val < last.toNat + 1 :=
      List.filter_congr fun i _ => by rw [decide_eq_decide]; omega
    rw [if_pos h, hfilter, hwindow]
    by_cases hle : first ≤ last
    · rw [if_pos ⟨h.1, hle⟩]
    · rw [if_neg fun hfl => hle hfl.2, List.drop_eq_nil_iff, List.length_take]
      omega
  · rw [if_neg h, if_neg fun hfl => h ⟨hfl.1, Int.le_trans hfl.1 hfl.2⟩, List.map_nil]

theorem toList_substringOf (s : String) (lower upper : Option Int64) :
    (substringOf s lower upper).toList =
      (substringPositions s.toList.length lower upper).map s.toList.get := by
  have htail : (lower.elim [] (tailPositions s.toList.length)).map s.toList.get =
      lower.elim [] (reversedSuffix s.toList) := by
    cases lower with
    | none => rfl
    | some bound => exact map_get_tailPositions s.toList bound
  have hhead : (upper.elim [] (headPositions s.toList.length)).map s.toList.get =
      upper.elim [] (countedPrefix s.toList) := by
    cases upper with
    | none => rfl
    | some bound => exact map_get_headPositions s.toList bound
  rw [substringOf_eq, String.toList_ofList, substringPositions, List.map_append, List.map_append,
    htail, hhead, map_get_innerPositions]

/-! ### Bounds that are not negative -/

variable {s : String} {i : Int64}

theorem reversedSuffix_of_nonneg (cs : List Char) (h : 0 ≤ i) : reversedSuffix cs i = [] :=
  if_neg (Int64.not_lt.2 h)

theorem countedPrefix_of_nonneg (cs : List Char) (h : 0 ≤ i) : countedPrefix cs i = [] :=
  if_neg (Int64.not_lt.2 h)

theorem toInt_nonneg (h : 0 ≤ i) : 0 ≤ i.toInt := Int64.le_iff_toInt_le.1 h

theorem substringOf_none_some (s : String) (h : 0 ≤ i) :
    substringOf s none (some i) = String.ofList (s.toList.take (i.toInt.toNat + 1)) := by
  have hslice : slice s.toList 0 i.toInt = s.toList.take (i.toInt.toNat + 1) :=
    if_pos ⟨Int.le_refl 0, toInt_nonneg h⟩
  rw [substringOf_eq]
  change String.ofList ([] ++ countedPrefix s.toList i ++ slice s.toList 0 i.toInt) = _
  rw [countedPrefix_of_nonneg s.toList h, hslice]
  rfl

theorem substringOf_some_none (s : String) (h : 0 ≤ i) :
    substringOf s (some i) none = String.ofList (s.toList.drop i.toInt.toNat) := by
  have hi := toInt_nonneg h
  have hslice : slice s.toList i.toInt (s.toList.length - 1) = s.toList.drop i.toInt.toNat := by
    unfold slice
    by_cases hle : i.toInt ≤ s.toList.length - 1
    · rw [if_pos ⟨hi, hle⟩, List.take_of_length_le (by omega)]
    · rw [if_neg fun h => hle h.2, List.drop_of_length_le (by omega)]
  rw [substringOf_eq]
  change String.ofList (reversedSuffix s.toList i ++ [] ++
    slice s.toList i.toInt (s.toList.length - 1)) = _
  rw [reversedSuffix_of_nonneg s.toList h, hslice]
  rfl

theorem substringOf_some_some_self (s : String) (h : 0 ≤ i) {k : Nat} (hk : k < s.toList.length)
    (hi : i.toInt = k) :
    substringOf s (some i) (some i) = String.singleton s.toList[k] := by
  have hslice : slice s.toList i.toInt i.toInt = [s.toList[k]] := by
    rw [hi, slice, if_pos ⟨Int.natCast_nonneg k, Int.le_refl _⟩, Int.toNat_natCast]
    exact List.drop_take_succ_eq_cons_getElem ..
  rw [substringOf_eq]
  change String.ofList (reversedSuffix s.toList i ++ countedPrefix s.toList i ++
    slice s.toList i.toInt i.toInt) = _
  rw [reversedSuffix_of_nonneg s.toList h, countedPrefix_of_nonneg s.toList h, hslice,
    String.singleton_eq_ofList]
  rfl

theorem nthChar_eq_substringOf (s : String) (h : 0 ≤ i) (hlt : i.toInt < s.toList.length) :
    nthChar s i = .str (substringOf s (some i) (some i)) := by
  obtain ⟨k, hk⟩ := Int.eq_ofNat_of_zero_le (toInt_nonneg h)
  have hlen : k < s.toList.length := by omega
  have hwrap : wrapIndex s.toList.length i = some k := wrapIndex_eq_some_iff.2 ⟨hlen, .inl hk⟩
  rw [substringOf_some_some_self s h hlen hk, nthChar]
  simp only [hwrap, Option.bind_some, List.getElem?_eq_getElem hlen]
  rfl

variable {σ : Type}

/-- A substring is read off at positions of the text. A text splits at every index, and between an
index and itself it has the character there. -/
theorem substringOf_reads (ctx : Context σ) (s : String) :
    (∀ lower upper, (substringOf s lower upper).toList =
      (substringPositions s.length lower upper).map fun i => s.toList[i]) ∧
    (∀ i : Int64, 0 ≤ i → i < Int64.maxValue →
      substringOf s none (some i) ++ substringOf s (some (i + 1)) none = s) ∧
    (∀ key : Value, 0 ≤ ctx.coercion.asInt key → (ctx.coercion.asInt key).toInt < s.length →
      ctx.subscript (.str s) key = pure (.str
        (substringOf s (some (ctx.coercion.asInt key)) (some (ctx.coercion.asInt key))))) := by
  refine ⟨toList_substringOf s, fun i h hmax => ?_,
    fun key h hlt => congrArg pure (nthChar_eq_substringOf s h hlt)⟩
  have hsucc : 0 ≤ i + 1 := by
    rw [Int64.le_iff_toInt_le, toInt_succ hmax]
    exact Int.le_add_one (toInt_nonneg h)
  have hnat : (i + 1).toInt.toNat = i.toInt.toNat + 1 := by
    rw [toInt_succ hmax]
    exact Int.toNat_add_nat (toInt_nonneg h) 1
  rw [substringOf_none_some s h, substringOf_some_none s hsucc, hnat, ← String.ofList_append,
    List.take_append_drop, String.ofList_toList]

theorem substringOf_reads_accented :
    (substringOf "né" (some .minValue) (some (-1))).toList = ['é', 'n', 'n'] ∧
      substringOf "né" none (some 0) ++ substringOf "né" (some 1) none = "né" ∧
      ({ var := fun _ => pure none : Context Unit }.subscript (.str "né") (.int 1)) =
        pure (.str (substringOf "né" (some 1) (some 1))) := by
  obtain ⟨hread, hsplit, hchar⟩ :=
    substringOf_reads ({ var := fun _ => pure none } : Context Unit) "né"
  refine ⟨?_, hsplit 0 (by decide) (by decide), hchar (.int 1) (by decide) (by decide)⟩
  rw [hread]
  decide

end RichText
