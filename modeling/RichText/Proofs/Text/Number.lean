import RichText.Proofs.Binary64.Product
import RichText.Proofs.Binary64.Whole
import RichText.Proofs.Decimal.Numeral
import RichText.Text.Number

namespace RichText

open Decimal

/-! ### Digits of a count -/

namespace Decimal

variable {m : Nat}

theorem eq_zero_of_digitChars (h : digitChars m = ['0']) : m = 0 := by
  rw [← ofDigits_digitChars m, h]
  rfl

theorem digitChars_of_head? : (digitChars m).head? = some '0' → digitChars m = ['0'] := by
  induction m using Nat.strongRecOn with
  | _ m ih =>
    intro h
    by_cases hm : m < 10
    · have hone : digitChars m = [m.digitChar] := Nat.toDigits_of_lt_base hm
      rw [hone, List.head?_cons, Option.some_inj] at h
      rw [hone, h]
    · have hsplit : digitChars m = digitChars (m / 10) ++ [(m % 10).digitChar] :=
        Nat.toDigits_of_base_le (by decide) (Nat.le_of_not_lt hm)
      have hne : digitChars (m / 10) ≠ [] := Nat.toDigits_ne_nil
      rw [hsplit, List.head?_append_of_ne_nil _ hne] at h
      have hzero := eq_zero_of_digitChars (ih (m / 10) (by omega) h)
      omega

theorem digitChars_append_zeros (hm : 0 < m) (d : Nat) :
    digitChars m ++ List.replicate d '0' = digitChars (m * Nat.pow 10 d) := by
  induction d with
  | zero =>
    rw [List.replicate_zero, List.append_nil]
    exact congrArg digitChars (Nat.mul_one m).symm
  | succ d ih =>
    have hpos : 0 < m * Nat.pow 10 d := Nat.mul_pos hm (Nat.pow_pos (by decide))
    have hstep : 10 * (m * Nat.pow 10 d) + 0 = m * Nat.pow 10 (d + 1) := by
      change 10 * (m * Nat.pow 10 d) = m * (Nat.pow 10 d * 10)
      ring
    rw [List.replicate_succ', ← List.append_assoc, ih, ← hstep]
    exact Nat.toDigits_append_toDigits (b := 10) (d := 0) (by decide) hpos (by decide)

theorem padLeft_append_zeros (m d : Nat) :
    padLeft (d + 1) '0' (digitChars m ++ List.replicate d '0') =
      padLeft (d + 1) '0' (digitChars (m * Nat.pow 10 d)) := by
  obtain rfl | hm := Nat.eq_zero_or_pos m
  · have hzero : digitChars 0 = ['0'] := rfl
    rw [Nat.zero_mul, hzero, padLeft, padLeft, List.length_append, List.length_replicate,
      List.length_singleton, Nat.add_comm 1 d, Nat.sub_self, List.replicate_zero, List.nil_append,
      Nat.add_sub_cancel, ← List.replicate_succ', List.replicate_succ]
    rfl
  · rw [digitChars_append_zeros hm]

theorem length_padLeft (width : Nat) (c : Char) (ds : List Char) :
    (padLeft width c ds).length = max width ds.length := by
  rw [padLeft, List.length_append, List.length_replicate]
  omega

theorem any_padLeft (width : Nat) (ds : List Char) :
    (padLeft width '0' ds).any (· ≠ '0') = ds.any (· ≠ '0') := by
  rw [padLeft, List.any_append, List.any_replicate]
  split <;> rfl

theorem isDigit_of_mem_padLeft {c : Char} {width : Nat}
    (h : c ∈ padLeft width '0' (digitChars m)) : c.isDigit = true := by
  obtain h | h := List.mem_append.1 h
  · rw [List.eq_of_mem_replicate h]
    rfl
  · exact isDigit_of_mem_digitChars h

theorem take_padLeft_of_head? {places : Nat} {cs : List Char}
    (hcs : padLeft (places + 1) '0' (digitChars m) = cs)
    (h : (cs.take (cs.length - places)).head? = some '0') :
    cs.take (cs.length - places) = ['0'] := by
  have hlen := length_padLeft (places + 1) '0' (digitChars m)
  rw [hcs] at hlen
  rw [List.head?_take, if_neg (by omega)] at h
  by_cases hm : (digitChars m).length ≤ places
  · have hone : cs.length - places = 1 := by omega
    rw [hone, List.take_one, h]
    rfl
  · obtain rfl : digitChars m = cs := by
      rw [← hcs, padLeft, Nat.sub_eq_zero_of_le (by omega)]
      rfl
    rw [digitChars_of_head? h] at hm ⊢
    obtain rfl : places = 0 := by simpa using hm
    rfl

end Decimal

/-! ### The symbols of a language -/

namespace NumberSymbols

/-- The characters that stand between or before digits. -/
def isMark (s : NumberSymbols) (c : Char) : Bool := c = '-' || s.group.contains c || c = s.decimal

/-- The groups are told apart, and no separator can be taken for the decimal symbol, a digit or a
sign. -/
def Legible (s : NumberSymbols) : Prop :=
  s.group ≠ [] ∧ s.decimal ∉ s.group ∧
    (s.decimal :: s.group).all (fun c => !c.isDigit && c != '-') = true

instance (s : NumberSymbols) : Decidable s.Legible := inferInstanceAs (Decidable (_ ∧ _ ∧ _))

theorem Legible.foreign {s : NumberSymbols} (hs : s.Legible) {c : Char}
    (hc : c ∈ s.decimal :: s.group) : c.isDigit = false ∧ c ≠ '-' := by
  simpa using List.all_eq_true.1 hs.2.2 c hc

theorem legible_english : english.Legible := by decide

theorem legible_ofLanguage (language : String) : (ofLanguage language).Legible := by
  unfold ofLanguage
  split
  · decide
  · split
    · decide
    · split <;> decide

theorem legible_ofTag? (tag : String) : ((ofTag? tag).getD english).Legible := by
  have hnamed : ∀ (b : Bool) (language : String),
      ((if b = true then some (ofLanguage language) else none).getD english).Legible := by
    intro b language
    cases b
    · exact legible_english
    · exact legible_ofLanguage language
  unfold ofTag?
  dsimp only
  split
  · exact hnamed _ _
  · exact hnamed _ _
  · exact legible_english

theorem isMark_of_isDigit {s : NumberSymbols} (hs : s.Legible) {c : Char}
    (h : c.isDigit = true) : s.isMark c = false := by
  have hne : ∀ d ∈ s.decimal :: s.group, c ≠ d := by
    rintro d hd rfl
    rw [(hs.foreign hd).1] at h
    cases h
  have hminus : c ≠ '-' := by
    rintro rfl
    cases h
  have hgroup : c ∉ s.group := fun hc => hne c (List.mem_cons_of_mem _ hc) rfl
  simp [isMark, hminus, hgroup, hne s.decimal List.mem_cons_self]

end NumberSymbols

namespace NumberFormat

/-! ### Groups of three -/

/-- The digits `ds` in groups, all but the first of exactly three. -/
structure InThrees (ds first : List Char) (rest : List (List Char)) : Prop where
  digits_eq : first ++ rest.flatten = ds
  pos : 0 < first.length
  le_three : first.length ≤ 3
  length_eq : ∀ g ∈ rest, g.length = 3

variable {ds first : List Char} {rest : List (List Char)}

theorem InThrees.length_add (h : InThrees ds first rest) :
    first.length + 3 * rest.length = ds.length := by
  have hrest : rest.map List.length = List.replicate rest.length 3 := by
    rw [List.eq_replicate_iff]
    refine ⟨List.length_map .., fun n hn => ?_⟩
    obtain ⟨g, hg, rfl⟩ := List.mem_map.1 hn
    exact h.length_eq g hg
  rw [← h.digits_eq, List.length_append, List.length_flatten, hrest, List.sum_replicate_nat,
    Nat.mul_comm]

theorem InThrees.newGroup (h : InThrees ds first rest) (hfull : first.length = 3) (c : Char) :
    InThrees (c :: ds) [c] (first :: rest) where
  digits_eq := congrArg (c :: ·) h.digits_eq
  pos := Nat.one_pos
  le_three := by simp
  length_eq := List.forall_mem_cons.2 ⟨hfull, h.length_eq⟩

theorem InThrees.extend (h : InThrees ds first rest) (hopen : first.length ≠ 3) (c : Char) :
    InThrees (c :: ds) (c :: first) rest where
  digits_eq := congrArg (c :: ·) h.digits_eq
  pos := Nat.succ_pos _
  le_three := Nat.lt_of_le_of_ne h.le_three hopen
  length_eq := h.length_eq

theorem exists_groupThousands (separator : List Char) (ds : List Char) (hne : ds ≠ []) :
    ∃ first rest, InThrees ds first rest ∧
      groupThousands separator ds = separator.intercalate (first :: rest) := by
  induction ds with
  | nil => cases hne rfl
  | cons c ds ih =>
    rw [groupThousands]
    by_cases hds : ds = []
    · subst hds
      refine ⟨[c], [], ⟨rfl, Nat.one_pos, by simp, fun _ h => nomatch h⟩, ?_⟩
      rw [if_neg (fun h => h.1 rfl), List.intercalate_singleton]
      rfl
    · obtain ⟨first, rest, h, hgroups⟩ := ih hds
      have hlen := h.length_add
      have hpos := h.pos
      have hle := h.le_three
      rw [hgroups]
      by_cases hfull : first.length = 3
      · refine ⟨[c], first :: rest, h.newGroup hfull c, ?_⟩
        rw [if_pos ⟨hds, by omega⟩, List.intercalate_cons_cons]
        rfl
      · refine ⟨c :: first, rest, h.extend hfull c, ?_⟩
        rw [if_neg (fun hthree => hfull (by omega))]
        cases rest with
        | nil => rw [List.intercalate_singleton, List.intercalate_singleton]; rfl
        | cons g rest => rw [List.intercalate_cons_cons, List.intercalate_cons_cons]; rfl

theorem filter_intercalate {p : Char → Bool} {separator : List Char}
    (hp : ∀ c ∈ separator, p c = false) (groups : List (List Char)) :
    (separator.intercalate groups).filter p = groups.flatten.filter p := by
  have hsep : separator.filter p = [] :=
    List.filter_eq_nil_iff.2 fun c hc => Bool.eq_false_iff.1 (hp c hc)
  induction groups with
  | nil => rfl
  | cons g groups ih =>
    cases groups with
    | nil => rw [List.intercalate_singleton, List.flatten_singleton]
    | cons g' groups =>
      rw [List.intercalate_cons_cons, List.flatten_cons, List.filter_append, List.filter_append,
        hsep, List.append_nil, ih, List.filter_append]

/-! ### Written numbers -/

/-- The parts of a number that is written with `places` digits behind its decimal symbol. -/
structure Written (places : Nat) where
  minus : Bool
  whole : List Char
  first : List Char
  rest : List (List Char)
  fraction : List Char
  inThrees : InThrees whole first rest
  lead : whole.head? = some '0' → whole = ['0']
  length_fraction : fraction.length = places
  isDigit : ∀ c ∈ whole ++ fraction, c.isDigit = true

namespace Written

variable {places : Nat}

def digits (w : Written places) : List Char := w.whole ++ w.fraction

def sign (w : Written places) : List Char := if w.minus then ['-'] else []

def text (s : NumberSymbols) (w : Written places) : List Char :=
  w.sign ++ s.group.intercalate (w.first :: w.rest) ++
    if places = 0 then [] else s.decimal :: w.fraction

variable {s : NumberSymbols} {p : Char → Bool}

theorem filter_text (hp : ∀ c ∈ s.decimal :: s.group, p c = false) (w : Written places) :
    (w.text s).filter p = w.sign.filter p ++ w.digits.filter p := by
  have hfraction : (if places = 0 then [] else s.decimal :: w.fraction).filter p =
      w.fraction.filter p := by
    split
    next h => rw [List.eq_nil_of_length_eq_zero (w.length_fraction.trans h)]
    next => rw [List.filter_cons, hp s.decimal List.mem_cons_self]; rfl
  rw [text, List.filter_append, List.filter_append, hfraction,
    filter_intercalate fun c hc => hp c (List.mem_cons_of_mem _ hc), List.flatten_cons,
    w.inThrees.digits_eq, digits, List.filter_append, List.append_assoc]

theorem filter_sign (hp : p '-' = false) (w : Written places) : w.sign.filter p = [] := by
  rw [sign]
  split
  · rw [List.filter_cons, hp]
    rfl
  · rfl

theorem delete_marks (hs : s.Legible) (w : Written places) :
    (w.text s).filter (fun c => !s.isMark c) = w.digits := by
  have hmark : ∀ c ∈ s.decimal :: s.group, (!s.isMark c) = false := by
    intro c hc
    obtain rfl | hc := List.mem_cons.1 hc
    · simp [NumberSymbols.isMark]
    · simp [NumberSymbols.isMark, hc]
  rw [filter_text hmark, filter_sign (by simp [NumberSymbols.isMark]), List.nil_append,
    List.filter_eq_self]
  intro c hc
  rw [NumberSymbols.isMark_of_isDigit hs (w.isDigit c hc)]
  rfl

theorem minus_mem_text (hs : s.Legible) (w : Written places) :
    '-' ∈ w.text s ↔ w.minus = true := by
  have hmarks : ∀ c ∈ s.decimal :: s.group, decide (c = '-') = false :=
    fun _ hc => decide_eq_false (hs.foreign hc).2
  have hdigits : '-' ∉ w.digits := fun h => nomatch w.isDigit _ h
  have hmem : '-' ∈ w.text s ↔ '-' ∈ (w.text s).filter (· = '-') := by simp
  rw [hmem, filter_text hmarks, List.mem_append, List.mem_filter, List.mem_filter, sign]
  simp [hdigits]

end Written

/-! ### Layout -/

theorem layout_congr (symbols : NumberSymbols) (negative : Bool) {digits : Nat}
    {ds es : List Char} (h : padLeft (digits + 1) '0' ds = padLeft (digits + 1) '0' es) :
    layout symbols negative digits ds = layout symbols negative digits es := by
  rw [layout, layout, h, ← any_padLeft (digits + 1) ds, h, any_padLeft]

theorem exists_written (symbols : NumberSymbols) (negative : Bool) (digits count : Nat) :
    ∃ w : Written digits, layout symbols negative digits (digitChars count) = w.text symbols ∧
      w.digits = padLeft (digits + 1) '0' (digitChars count) ∧
      w.minus = (negative && w.digits.any (· ≠ '0')) := by
  have hlen := length_padLeft (digits + 1) '0' (digitChars count)
  have hany := any_padLeft (digits + 1) (digitChars count)
  have hdigit : ∀ c ∈ padLeft (digits + 1) '0' (digitChars count), c.isDigit = true :=
    fun _ => isDigit_of_mem_padLeft
  unfold layout
  generalize hcs : padLeft (digits + 1) '0' (digitChars count) = cs at *
  have hne : cs.take (cs.length - digits) ≠ [] := by
    refine List.ne_nil_of_length_pos ?_
    rw [List.length_take]
    omega
  obtain ⟨first, rest, hgroups, htext⟩ := exists_groupThousands symbols.group _ hne
  have hsplit := List.take_append_drop (cs.length - digits) cs
  refine ⟨⟨negative && cs.any (· ≠ '0'), cs.take (cs.length - digits), first, rest,
    cs.drop (cs.length - digits), hgroups, take_padLeft_of_head? hcs, ?_, ?_⟩, ?_, hsplit, ?_⟩
  · rw [List.length_drop]
    omega
  · rw [hsplit]
    exact hdigit
  · rw [Written.text, Written.sign, ← htext, hany]
  · exact congrArg (fun ds => negative && ds.any (· ≠ '0')) hsplit.symm

/-! ### The number that is written -/

/-- The double whose rounding tells how many units of the last place there are. -/
def product (n : Float) (digits : Nat) : Float := n * Float.ofNat (Nat.pow 10 digits)

/-- `count` units of the last of `digits` places are what is written for `n`. -/
inductive Counts (mode : Rounding) (n : Float) (digits : Nat) : Nat → Prop
  /-- The rounded product, and with it a whole number next to the product. -/
  | scaled {count : Nat} (beside : Binary64.Beside (product n digits) count)
      (whole : Binary64.Whole (mode.apply (product n digits)) count) : Counts mode n digits count
  /-- Where the product is past the range, `n` is a whole number itself. -/
  | whole {w : Nat} (past : Binary64.isFinite (product n digits) = false)
      (whole : Binary64.Whole n w) : Counts mode n digits (w * Nat.pow 10 digits)

theorem exponentField_pow_ten : ∀ digits < 13,
    Binary64.exponentField (Float.ofNat (Nat.pow 10 digits)) ≤ 1075 := by
  decide

theorem isFinite_product {n : Float} {digits : Nat} (hdigits : digits ≤ 12)
    (hn : Binary64.fractionPart n ≠ 0) : Binary64.isFinite (product n digits) = true := by
  have hscale := Binary64.scale_lt_of_fractionPart hn
  rw [Binary64.scale, Binary64.unitExponent] at hscale
  exact Binary64.isFinite_mul (by omega) (exponentField_pow_ten digits (by omega))

theorem scaledDigits_eq (mode : Rounding) (n : Float) (digits : Nat) :
    scaledDigits mode n digits =
      if Binary64.isFinite (mode.apply (product n digits)) = true then
        digitChars (Binary64.wholePart (mode.apply (product n digits)))
      else digitChars (Binary64.wholePart n) ++ List.replicate digits '0' :=
  rfl

theorem exists_counts (mode : Rounding) {n : Float} {digits : Nat}
    (hn : Binary64.isFinite n = true) (hdigits : digits ≤ 12) :
    ∃ count, Counts mode n digits count ∧
      padLeft (digits + 1) '0' (scaledDigits mode n digits) =
        padLeft (digits + 1) '0' (digitChars count) := by
  rw [scaledDigits_eq]
  by_cases hproduct : Binary64.isFinite (product n digits) = true
  · obtain ⟨count, hbeside, hwhole, -⟩ := mode.rounded_apply hproduct
    refine ⟨count, .scaled hbeside hwhole, ?_⟩
    rw [if_pos hwhole.isFinite, hwhole.wholePart_eq]
  · have hfraction : Binary64.fractionPart n = 0 := by
      by_contra hne
      exact hproduct (isFinite_product hdigits hne)
    have hwhole := Binary64.whole_of_fractionPart hn hfraction
    have hpast := Bool.eq_false_iff.2 hproduct
    rw [mode.apply_of_not_isFinite hpast, if_neg hproduct]
    exact ⟨_, .whole hpast hwhole, padLeft_append_zeros _ _⟩

/-- The text of a number, which has the parts `w` and says that there are `count` units of the last
of `digits` places. -/
structure Formatted (symbols : NumberSymbols) (mode : Rounding) (n : Float) (digits : Nat)
    (text : List Char) (count : Nat) (w : Written digits) : Prop where
  legible : symbols.Legible
  counts : Counts mode n digits count
  text_eq : text = w.text symbols
  digits_eq : w.digits = padLeft (digits + 1) '0' (digitChars count)
  deleted : text.filter (fun c => !symbols.isMark c) = padLeft (digits + 1) '0' (digitChars count)
  minus_iff : '-' ∈ text ↔ n < 0 ∧ ∃ c ∈ w.digits, c ≠ '0'

end NumberFormat

open NumberFormat

/-- A finite number is written with an optional minus sign, its whole part in groups of three from
the right and exactly as many fraction digits as are asked for, up to twelve. The digits are those
of the rounded count, padded with zeros. -/
theorem formatNumber_formatted (n : Float) (locale : String) (fractionDigits : Nat)
    (rounding : String) (hn : Binary64.isFinite n = true) :
    ∃ count w, Formatted ((NumberSymbols.ofTag? locale).getD .english)
      ((Rounding.ofName? rounding).getD .halfEven) n (min fractionDigits 12)
      (formatNumber n locale fractionDigits rounding).value.toList count w := by
  have hlegible := NumberSymbols.legible_ofTag? locale
  obtain ⟨count, hcounts, hpad⟩ := exists_counts ((Rounding.ofName? rounding).getD .halfEven) hn
    (Nat.min_le_right fractionDigits 12)
  obtain ⟨w, htext, hdigits, hminus⟩ := exists_written
    ((NumberSymbols.ofTag? locale).getD .english) (decide (n < 0)) (min fractionDigits 12) count
  have hvalue : (formatNumber n locale fractionDigits rounding).value.toList =
      w.text ((NumberSymbols.ofTag? locale).getD .english) := by
    rw [formatNumber, hn, ← htext, ← layout_congr _ _ hpad]
    exact String.toList_ofList
  refine ⟨count, w, hlegible, hcounts, hvalue, hdigits, ?_, ?_⟩
  · rw [hvalue, Written.delete_marks hlegible, hdigits]
  · rw [hvalue, Written.minus_mem_text hlegible, hminus]
    simp

theorem formatNumber_formatted_negative :
    Binary64.isFinite (-1234567.891) = true ∧
    (formatNumber (-1234567.891) "de_DE" 2 "HALF_EVEN").value = "-1.234.567,89" ∧
    ∃ count w,
      Formatted ⟨['.'], ','⟩ .halfEven (-1234567.891) 2 "-1.234.567,89".toList count w := by
  have hfinite : Binary64.isFinite (-1234567.891) = true := by decide +kernel
  have hvalue : (formatNumber (-1234567.891) "de_DE" 2 "HALF_EVEN").value = "-1.234.567,89" := by
    decide +kernel
  have hsymbols : (NumberSymbols.ofTag? "de_DE").getD .english = ⟨['.'], ','⟩ := by decide +kernel
  have hmode : (Rounding.ofName? "HALF_EVEN").getD .halfEven = .halfEven := by decide +kernel
  have h := formatNumber_formatted (-1234567.891) "de_DE" 2 "HALF_EVEN" hfinite
  rw [hsymbols, hmode, hvalue] at h
  exact ⟨hfinite, hvalue, h⟩

end RichText
