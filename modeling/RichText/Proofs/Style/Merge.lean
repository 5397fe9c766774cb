import RichText.Style.Basic

namespace RichText

section

variable {α : Type}

theorem overlay_none (base : Option α) : overlay base none = base := rfl

theorem none_overlay (top : Option α) : overlay none top = top := by
  cases top <;> rfl

theorem overlay_self (a : Option α) : overlay a a = a := by
  cases a <;> rfl

theorem overlay_assoc (a b c : Option α) :
    overlay a (overlay b c) = overlay (overlay a b) c := by
  cases c <;> rfl

theorem overlay_overlay (base a : Option α) : overlay (overlay base a) a = overlay base a := by
  rw [← overlay_assoc, overlay_self]

theorem overlay_changed [DecidableEq α] (a base : Option α) :
    overlay base (changed a base) = overlay base a := by
  unfold changed
  by_cases ha : a = base
  · rw [if_pos ha, overlay_none, ha, overlay_self]
  · rw [if_neg ha]

theorem changed_none [DecidableEq α] (base : Option α) : changed none base = none := ite_self none

theorem changed_self [DecidableEq α] (a : Option α) : changed a a = none := if_pos rfl

end

namespace Decoration

def single (i : Nat) : Decoration := ⟨BitVec.twoPow 8 i⟩

theorem flags_eq : flags = [0, 1, 2, 3, 4].map single := rfl

theorem bit_single {i j : Nat} : (single i).bit j = (decide (i < 8) && decide (i = j)) :=
  BitVec.getLsbD_twoPow i j

theorem bit_all {i : Nat} : all.bit i = decide (i < 5) := by
  by_cases hi : i < 8
  · match i with
    | 0 | 1 | 2 | 3 | 4 | 5 | 6 | 7 => rfl
  · have hall : all.bit i = false := BitVec.getLsbD_of_ge _ _ (Nat.le_of_not_lt hi)
    rw [hall, decide_eq_false (by omega)]

theorem contains_single {s : Decoration} {i : Nat} (hi : i < 8) :
    s.contains (single i) = s.bit i := by
  rw [Bool.eq_iff_iff, contains_iff]
  constructor
  · exact fun h => h i (by simp only [bit_single, hi, decide_true, Bool.and_self])
  · intro h j hj
    rw [bit_single, Bool.and_eq_true, decide_eq_true_iff, decide_eq_true_iff] at hj
    rwa [← hj.2]

end Decoration

namespace Decorations

open Decoration (single flags_eq bit_single bit_all contains_single contains_iff bit_put bit_union
  bit_inter bit_sdiff bit_empty)

variable {i : Nat}

def state (d : Decorations) (i : Nat) : Option Bool :=
  if d.set.bit i then some (d.on.bit i) else none

/-- No bit is on without having a state, so the states are all there is. -/
theorem ext_state {d e : Decorations} (h : ∀ i, d.state i = e.state i) : d = e := by
  have hset : d.set = e.set := Decoration.ext_bit fun i => by
    have hi := h i
    unfold state at hi
    cases hd : d.set.bit i <;> cases he : e.set.bit i <;> simp [hd, he] at hi ⊢
  have hon : d.on = e.on := Decoration.ext_bit fun i => by
    have hi := h i
    have hd := contains_iff.1 d.normal i
    have he := contains_iff.1 e.normal i
    unfold state at hi
    rw [hset] at hi hd
    cases hs : e.set.bit i with
    | true => simpa only [hs, if_true, Option.some.injEq] using hi
    -- here the bit is off in both of them, since what is on has a state
    | false =>
      rw [hs] at hd he
      exact Bool.eq_iff_iff.2
        ⟨fun h => absurd (hd h) (by decide), fun h => absurd (he h) (by decide)⟩
  cases d
  cases e
  cases hset
  cases hon
  rfl

theorem get_single (d : Decorations) (hi : i < 8) : d.get (single i) = d.state i := by
  rw [get, state, contains_single hi, contains_single hi]

theorem contains_enabled {d : Decorations} {flag : Decoration} :
    d.enabled.contains flag = true ↔ d.get flag = some true := by
  have hboth : d.enabled.contains flag = true ↔
      d.set.contains flag = true ∧ d.on.contains flag = true := by
    rw [enabled, contains_iff, contains_iff, contains_iff, ← forall_and]
    refine forall_congr' fun i => ?_
    rw [bit_inter, Bool.and_eq_true, ← imp_and]
  rw [hboth, get]
  split <;> simp [*]

@[simp] theorem state_empty : ({} : Decorations).state i = none := by
  simp [state]

@[simp] theorem state_put (d : Decorations) (flag : Decoration) (on : Bool) :
    (d.put flag on).state i = if flag.bit i then some on else d.state i := by
  cases hf : flag.bit i <;> simp [state, put, hf]

@[simp] theorem state_overlay (base top : Decorations) :
    (base.overlay top).state i = RichText.overlay (base.state i) (top.state i) := by
  have hnormal := contains_iff.1 top.normal i
  cases hb : base.set.bit i <;> cases ht : top.set.bit i <;>
    simp [state, overlay, RichText.overlay, hb, ht]

theorem state_note (d base acc : Decorations) {k : Nat} (hk : k < 8) :
    (d.note base acc (single k)).state i =
      if i = k then RichText.overlay (acc.state i) (changed (d.state i) (base.state i))
      else acc.state i := by
  rw [note, get_single d hk, get_single base hk]
  by_cases hik : i = k
  · subst hik
    rw [if_pos rfl]
    cases hd : d.state i with
    | none => rw [changed_none]; rfl
    | some on =>
      rw [changed]
      by_cases hb : base.state i = some on
      · simp only [hb, if_true]; rfl
      · simp only [hb, Ne.symm hb, if_false, state_put, bit_single, hk, decide_true, Bool.and_self,
          if_true]
        rfl
  · rw [if_neg hik]
    split
    · split
      · rfl
      · simp only [state_put, bit_single, Ne.symm hik, decide_false, Bool.and_false]
        rfl
    · rfl

theorem state_foldl_note (d base acc : Decorations) {ks : List Nat} (hks : ∀ k ∈ ks, k < 8) :
    ((ks.map single).foldl (d.note base) acc).state i =
      if i ∈ ks then RichText.overlay (acc.state i) (changed (d.state i) (base.state i))
      else acc.state i := by
  induction ks generalizing acc with
  | nil => rw [if_neg List.not_mem_nil]; rfl
  | cons k ks ih =>
    rw [List.map_cons, List.foldl_cons, ih _ fun j hj => hks j (List.mem_cons_of_mem k hj),
      state_note d base acc (hks k List.mem_cons_self)]
    -- a bit that occurs again has been noted already, and is noted no other way
    by_cases hik : i = k
    · rw [if_pos hik, if_pos (List.mem_cons.2 (.inl hik)), overlay_overlay, ite_self]
    · rw [if_neg hik]
      simp only [List.mem_cons, hik, false_or]

theorem state_diff (d base : Decorations) :
    (d.diff base).state i = if i < 5 then changed (d.state i) (base.state i) else none := by
  rw [diff, flags_eq, state_foldl_note d base _ (by decide), state_empty, none_overlay]
  have hmem : i ∈ [0, 1, 2, 3, 4] ↔ i < 5 := by
    simp only [List.mem_cons, List.not_mem_nil, or_false]
    omega
  simp only [hmem]

theorem empty_overlay (top : Decorations) : overlay {} top = top :=
  ext_state fun i => by rw [state_overlay, state_empty, none_overlay]

theorem overlay_empty (base : Decorations) : base.overlay {} = base :=
  ext_state fun i => by rw [state_overlay, state_empty, overlay_none]

theorem overlay_self (d : Decorations) : d.overlay d = d :=
  ext_state fun i => by rw [state_overlay, RichText.overlay_self]

theorem overlay_assoc (a b c : Decorations) :
    a.overlay (b.overlay c) = (a.overlay b).overlay c :=
  ext_state fun i => by simp only [state_overlay, RichText.overlay_assoc]

theorem diff_self (d : Decorations) : d.diff d = {} :=
  ext_state fun i => by rw [state_diff, changed_self, ite_self, state_empty]

/-! ### The bits that stand for no decoration -/

/-- All states but those of the bits that stand for no decoration. -/
def known (d : Decorations) : Decorations where
  set := d.set ∩ .all
  on := d.on ∩ .all
  normal := contains_iff.2 fun i h => by
    rw [bit_inter, Bool.and_eq_true] at h ⊢
    exact h.imp_left (contains_iff.1 d.normal i)

theorem state_known (d : Decorations) : d.known.state i = if i < 5 then d.state i else none := by
  unfold state known
  rw [bit_inter, bit_inter, bit_all]
  by_cases hi : i < 5 <;> simp [hi]

theorem overlay_diff (d base : Decorations) : base.overlay (d.diff base) = base.overlay d.known :=
  ext_state fun i => by
    rw [state_overlay, state_overlay, state_diff, state_known]
    split
    · exact overlay_changed _ _
    · rfl

theorem known_overlay (base top : Decorations) :
    (base.overlay top).known = base.known.overlay top.known :=
  ext_state fun i => by
    simp only [state_known, state_overlay]
    split <;> rfl

def Declared (d : Decorations) : Prop := Decoration.all.contains d.set = true

instance (d : Decorations) : Decidable d.Declared := inferInstanceAs (Decidable (_ = true))

theorem declared_iff_state {d : Decorations} : d.Declared ↔ ∀ i, 5 ≤ i → d.state i = none := by
  rw [Declared, contains_iff]
  refine forall_congr' fun i => ?_
  rw [bit_all, decide_eq_true_iff, state]
  cases d.set.bit i <;> simp

theorem Declared.known_eq {d : Decorations} (h : d.Declared) : d.known = d :=
  ext_state fun i => by
    rw [state_known]
    split
    · rfl
    · next hi => exact (declared_iff_state.1 h i (Nat.le_of_not_lt hi)).symm

theorem declared_empty : Declared {} := declared_iff_state.2 fun _ _ => state_empty

theorem Declared.put {d : Decorations} (h : d.Declared) {flag : Decoration}
    (hflag : Decoration.all.contains flag = true) (on : Bool) : (d.put flag on).Declared := by
  refine declared_iff_state.2 fun i hi => ?_
  have hbit : ¬ flag.bit i := fun hf => by
    have := contains_iff.1 hflag i hf
    rw [bit_all, decide_eq_true_iff] at this
    omega
  rw [state_put, if_neg hbit, declared_iff_state.1 h i hi]

theorem Declared.overlay {base top : Decorations} (hbase : base.Declared) (htop : top.Declared) :
    (base.overlay top).Declared :=
  declared_iff_state.2 fun i hi => by
    rw [state_overlay, declared_iff_state.1 hbase i hi, declared_iff_state.1 htop i hi]
    rfl

end Decorations

namespace Style

theorem merge_empty (s : Style) : s.merge empty = s := by
  simp only [merge, empty, overlay_none, Decorations.overlay_empty]

theorem empty_merge (s : Style) : empty.merge s = s := by
  simp only [merge, empty, none_overlay, Decorations.empty_overlay]

theorem merge_assoc (a b c : Style) : a.merge (b.merge c) = (a.merge b).merge c := by
  simp only [merge, overlay_assoc, Decorations.overlay_assoc]

theorem diff_self (s : Style) : s.diff s = empty := by
  simp only [diff, changed_self, Decorations.diff_self]
  rfl

def known (s : Style) : Style := { s with decorations := s.decorations.known }

def Declared (s : Style) : Prop := s.decorations.Declared

instance (s : Style) : Decidable s.Declared := inferInstanceAs (Decidable s.decorations.Declared)

theorem Declared.known_eq {s : Style} (h : s.Declared) : s.known = s := by
  rw [known, Decorations.Declared.known_eq h]

theorem Declared.merge {base top : Style} (hbase : base.Declared) (htop : top.Declared) :
    (base.merge top).Declared := Decorations.Declared.overlay hbase htop

theorem known_merge (base top : Style) : (base.merge top).known = base.known.merge top.known := by
  simp only [known, merge, Decorations.known_overlay]

/-- The difference from a base gives all of the style that stands for something. -/
theorem merge_diff (s base : Style) : base.merge (s.diff base) = base.merge s.known := by
  simp only [merge, diff, known, overlay_changed, Decorations.overlay_diff]

/-- Every field that `base` sets is set in `s`, and beyond the bits that stand for a decoration `s`
is like `base`. -/
def Extends (base s : Style) : Prop := base.merge s.known = s

theorem Extends.refl (s : Style) : Extends s s := by
  rw [Extends, ← Style.merge_diff, diff_self, merge_empty]

theorem Extends.merge {base s : Style} (h : Extends base s) {top : Style} (htop : top.Declared) :
    Extends base (s.merge top) := by
  unfold Extends at h ⊢
  rw [known_merge, merge_assoc, h, htop.known_eq]

theorem Extends.merge_diff {base s : Style} (h : Extends base s) :
    base.merge (s.diff base) = s := (Style.merge_diff s base).trans h

end Style

end RichText
