import Mathlib.Data.Int.Init
import RichText.Expr.Eval

namespace RichText

namespace Value

/-! ### What a value has in it -/

/-- The values that a list or a map holds. A host object keeps its fields to itself. -/
def children : Value → List Value
  | .list items => items
  | .map entries => entries.map Prod.snd
  | _ => []

inductive Part (u : Value) : Value → Prop
  | self : u.Part u
  | child {v w : Value} : v ∈ w.children → u.Part v → u.Part w

def FloatFree (v : Value) : Prop := ∀ x, ¬(float x).Part v

/-- What has one identity in both values is one and the same in both. -/
def Coherent (u v : Value) : Prop :=
  ∀ a b : Value, a.Part u → b.Part v → ∀ id, a.identity? = some id → b.identity? = some id → a = b

variable {u v w : Value}

theorem part_iff : u.Part w ↔ u = w ∨ ∃ v ∈ w.children, u.Part v := by
  constructor
  · intro h
    cases h with
    | self => exact .inl rfl
    | child hv h => exact .inr ⟨_, hv, h⟩
  · rintro (rfl | ⟨v, hv, h⟩)
    · exact .self
    · exact .child hv h

theorem FloatFree.child (h : w.FloatFree) (hv : v ∈ w.children) : v.FloatFree :=
  fun x hx => h x (.child hv hx)

theorem FloatFree.entry {entries : List (String × Value)} (h : (map entries).FloatFree) :
    ∀ e ∈ entries, e.2.FloatFree :=
  fun _ he => h.child (List.mem_map_of_mem he)

theorem Coherent.child {u' v' : Value} (h : u.Coherent v) (hu : u' ∈ u.children)
    (hv : v' ∈ v.children) : u'.Coherent v' :=
  fun a b ha hb => h a b (.child hu ha) (.child hv hb)

/-! ### Equality -/

theorem isNull_iff : v.isNull = true ↔ v = .null := by
  cases v <;> simp [isNull]

mutual

theorem beq_comm : ∀ u v : Value, u.FloatFree → u.beq v = v.beq u
  | .null, v, _ => by cases v <;> rfl
  | .int _, v, _ => by
    cases v with
    | int n => exact BEq.comm
    | _ => rfl
  | .float x, _, h => absurd .self (h x)
  | .bool _, v, _ => by
    cases v with
    | bool b => exact BEq.comm
    | _ => rfl
  | .str _, v, _ => by
    cases v with
    | str s => exact BEq.comm
    | _ => rfl
  | .list us, v, h => by
    cases v with
    | list vs => rw [beq, beq, beqList_comm us vs fun _ hu => h.child hu]
    | _ => rfl
  | .map es, v, h => by
    cases v with
    | map fs => rw [beq, beq, beqEntries_comm es fs h.entry]
    | _ => rfl
  | .object .., v, _ => by
    cases v with
    | object id _ _ _ => exact BEq.comm
    | _ => rfl
  | .markup .., v, _ => by
    cases v with
    | markup id _ _ => exact BEq.comm
    | _ => rfl

theorem beqList_comm : ∀ us vs : List Value, (∀ u ∈ us, u.FloatFree) →
    beqList us vs = beqList vs us
  | [], [], _ => rfl
  | [], _ :: _, _ => rfl
  | _ :: _, [], _ => rfl
  | u :: us, v :: vs, h => by
    obtain ⟨hu, hus⟩ := List.forall_mem_cons.1 h
    rw [beqList, beqList, beq_comm u v hu, beqList_comm us vs hus]

theorem beqEntries_comm : ∀ es fs : List (String × Value), (∀ e ∈ es, e.2.FloatFree) →
    beqEntries es fs = beqEntries fs es
  | [], [], _ => rfl
  | [], _ :: _, _ => rfl
  | _ :: _, [], _ => rfl
  | (k, u) :: es, (l, v) :: fs, h => by
    obtain ⟨hu, hes⟩ := List.forall_mem_cons.1 h
    rw [beqEntries, beqEntries, beq_comm u v hu, beqEntries_comm es fs hes, BEq.comm (a := k)]

end

/-- Equal values are read as one text. A list is read as its first item, so that the induction is
on first items alone. -/
theorem asStr_eq_of_beq : ∀ u v : Value, u.FloatFree → u.Coherent v → u.beq v = true →
    u.asStr = v.asStr
  | .null, v, _, _, h => by
    cases v with
    | null => rfl
    | _ => cases h
  | .int _, v, _, _, h => by
    cases v with
    | int n => rw [eq_of_beq h]
    | _ => cases h
  | .float x, _, hfree, _, _ => absurd .self (hfree x)
  | .bool _, v, _, _, h => by
    cases v with
    | bool b => rw [eq_of_beq h]
    | _ => cases h
  | .str _, v, _, _, h => by
    cases v with
    | str s => rw [eq_of_beq h]
    | _ => cases h
  | .list [], v, _, _, h => by
    cases v with
    | list vs =>
      cases vs with
      | nil => rfl
      | cons => cases h
    | _ => cases h
  | .list (u :: us), v, hfree, hone, h => by
    cases v with
    | list vs =>
      cases vs with
      | nil => cases h
      | cons v vs =>
        rw [beq, beqList, Bool.and_eq_true] at h
        rw [asStr, asStr]
        exact asStr_eq_of_beq u v (hfree.child List.mem_cons_self)
          (hone.child List.mem_cons_self List.mem_cons_self) h.1
    | _ => cases h
  | .map [], v, _, _, h => by
    cases v with
    | map fs =>
      cases fs with
      | nil => rfl
      | cons => cases h
    | _ => cases h
  | .map ((_, _) :: _), v, _, _, h => by
    cases v with
    | map fs =>
      cases fs with
      | nil => cases h
      | cons f fs =>
        rw [beq, beqEntries, Bool.and_eq_true, Bool.and_eq_true] at h
        exact eq_of_beq h.1.1
    | _ => cases h
  | .object id type display fields, v, _, hone, h => by
    cases v with
    | object id' type' display' fields' =>
      obtain rfl : id = id' := eq_of_beq h
      rw [hone _ _ .self .self id rfl rfl]
    | _ => cases h
  | .markup id display node, v, _, hone, h => by
    cases v with
    | markup id' display' node' =>
      obtain rfl : id = id' := eq_of_beq h
      rw [hone _ _ .self .self id rfl rfl]
    | _ => cases h

theorem asNumber_eq_of_beq (hfree : u.FloatFree) (hone : u.Coherent v) (h : u.beq v = true) :
    u.asNumber = v.asNumber := by
  have htext : numberOfText u.asStr = numberOfText v.asStr :=
    congrArg numberOfText (asStr_eq_of_beq u v hfree hone h)
  cases u with
  | float x => exact absurd .self (hfree x)
  | null =>
    cases v with
    | null => rfl
    | _ => cases h
  | int m =>
    cases v with
    | int n => rw [eq_of_beq h]
    | _ => cases h
  | bool | str | list | map | object | markup =>
    cases v with
    | null | int | float => cases h
    | _ => exact htext

end Value

/-! ### Order -/

namespace Number

theorem compareFloat_swap (x y : Float) :
    compareFloat y x = (compareFloat x y).map Ordering.swap := by
  unfold compareFloat
  cases Binary64.units? x with
  | none => cases Binary64.units? y <;> rfl
  | some m =>
    cases Binary64.units? y with
    | none => rfl
    | some n => exact congrArg some (Int.compare_swap m n).symm

theorem order_swap (a b : Number) : b.order a = (a.order b).map Ordering.swap := by
  cases a with
  | int x =>
    cases b with
    | int y => exact congrArg some (Int.compare_swap x.toInt y.toInt).symm
    | float y => exact compareFloat_swap _ _
  | float x => cases b <;> exact compareFloat_swap _ _

theorem order_eq_lt_iff (a b : Number) : a.order b = some .lt ↔ b.order a = some .gt := by
  rw [order_swap a b]
  rcases a.order b with _ | _ | _ | _ <;> simp

end Number

/-! ### The six comparisons -/

namespace Op

variable {σ : Type} {ctx : Context σ} {l r : Value}

def Holds (ctx : Context σ) (op : Op) (l r : Value) : Prop :=
  op.combine ctx.coercion l r = .bool true

theorem holds_eq : Holds ctx .eq l r ↔ l.beq r = true := by
  simp only [Holds, combine, Value.bool.injEq]
  rfl

theorem holds_ne : Holds ctx .ne l r ↔ l.beq r = false := by
  simp only [Holds, combine, Value.bool.injEq, Bool.not_eq_true']
  rfl

theorem holds_lt :
    Holds ctx .lt l r ↔
      (ctx.coercion.asNumber l).order (ctx.coercion.asNumber r) = some .lt := by
  simp only [Holds, combine, Value.bool.injEq, beq_iff_eq]

theorem holds_gt :
    Holds ctx .gt l r ↔
      (ctx.coercion.asNumber l).order (ctx.coercion.asNumber r) = some .gt := by
  simp only [Holds, combine, Value.bool.injEq, beq_iff_eq]

theorem holds_gt_iff_lt : Holds ctx .gt l r ↔ Holds ctx .lt r l := by
  rw [holds_gt, holds_lt, Number.order_eq_lt_iff]

theorem holds_le :
    Holds ctx .le l r ↔ (l = .null ∨ r = .null) ∨ Holds ctx .eq l r ∨ Holds ctx .lt l r := by
  rw [holds_eq, holds_lt, ← Value.isNull_iff, ← Value.isNull_iff]
  simp only [Holds, combine, equalOrAbsent, Value.bool.injEq, Bool.or_eq_true, beq_iff_eq,
    or_assoc]
  rfl

theorem holds_ge :
    Holds ctx .ge l r ↔ (l = .null ∨ r = .null) ∨ Holds ctx .eq l r ∨ Holds ctx .gt l r := by
  rw [holds_eq, holds_gt, ← Value.isNull_iff, ← Value.isNull_iff]
  simp only [Holds, combine, equalOrAbsent, Value.bool.injEq, Bool.or_eq_true, beq_iff_eq,
    or_assoc]
  rfl

theorem holds_eq_comm (hl : l.FloatFree) : Holds ctx .eq l r ↔ Holds ctx .eq r l := by
  rw [holds_eq, holds_eq, Value.beq_comm l r hl]

theorem not_holds_lt_of_eq (hcoercion : ctx.coercion = {}) (hl : l.FloatFree)
    (hone : l.Coherent r) (h : Holds ctx .eq l r) : ¬Holds ctx .lt l r ∧ ¬Holds ctx .gt l r := by
  have hnumber : l.asNumber = r.asNumber := Value.asNumber_eq_of_beq hl hone (holds_eq.1 h)
  have hself := Number.order_eq_lt_iff r.asNumber r.asNumber
  rw [holds_lt, holds_gt, hcoercion]
  dsimp only
  rw [hnumber]
  constructor
  · intro hlt
    rw [hself.1 hlt] at hlt
    cases hlt
  · intro hgt
    rw [hself.2 hgt] at hgt
    cases hgt

/-- The comparisons agree with one another on a value without doubles and any other, in which host
objects of one identity are one object. -/
theorem comparisons_agree (env : Environment σ) (readField : Value → String → StateM σ Value)
    (hl : l.FloatFree) (hone : l.Coherent r) :
    let ctx : Context σ := { var := env, readField := readField }
    (∀ op ∈ [Op.eq, .ne, .lt, .gt, .le, .ge], ∃ b,
      op.combine ctx.coercion l r = .bool b ∧ op.apply ctx l r = pure (.bool b)) ∧
    (Holds ctx .lt l r ↔ Holds ctx .gt r l) ∧
    (Holds ctx .le l r ↔ Holds ctx .ge r l) ∧
    (Holds ctx .eq l r ↔ Holds ctx .eq r l) ∧
    (Holds ctx .eq l r ↔ ¬Holds ctx .ne l r) ∧
    ¬(Holds ctx .lt l r ∧ Holds ctx .eq l r) ∧
    ¬(Holds ctx .gt l r ∧ Holds ctx .eq l r) ∧
    ¬(Holds ctx .lt l r ∧ Holds ctx .gt l r) ∧
    (l ≠ .null → r ≠ .null →
      (Holds ctx .le l r ↔ Holds ctx .lt l r ∨ Holds ctx .eq l r) ∧
      (Holds ctx .le l r → Holds ctx .ge l r → Holds ctx .eq l r)) ∧
    (l = .null ∨ r = .null → Holds ctx .le l r ∧ Holds ctx .ge l r) := by
  intro ctx
  have hequal : Holds ctx .eq l r → ¬Holds ctx .lt l r ∧ ¬Holds ctx .gt l r :=
    not_holds_lt_of_eq rfl hl hone
  have horder : ¬(Holds ctx .lt l r ∧ Holds ctx .gt l r) := by
    rintro ⟨hlt, hgt⟩
    cases (holds_lt.1 hlt).symm.trans (holds_gt.1 hgt)
  refine ⟨?_, holds_gt_iff_lt.symm, ?_, holds_eq_comm hl, ?_, fun h => (hequal h.2).1 h.1,
    fun h => (hequal h.2).2 h.1, horder, fun hl' hr' => ?_,
    fun h => ⟨holds_le.2 (.inl h), holds_ge.2 (.inl h)⟩⟩
  · simp only [List.forall_mem_cons]
    exact ⟨⟨_, rfl, rfl⟩, ⟨_, rfl, rfl⟩, ⟨_, rfl, rfl⟩, ⟨_, rfl, rfl⟩, ⟨_, rfl, rfl⟩, ⟨_, rfl, rfl⟩,
      nofun⟩
  · rw [holds_le, holds_ge, holds_eq_comm hl, holds_gt_iff_lt, or_comm (a := l = .null)]
  · rw [holds_eq, holds_ne, Bool.not_eq_false]
  · have hnull : ¬(l = .null ∨ r = .null) := not_or.2 ⟨hl', hr'⟩
    rw [holds_le, holds_ge, or_iff_right hnull, or_iff_right hnull,
      or_comm (b := Holds ctx .lt l r)]
    refine ⟨.rfl, fun hle hge => ?_⟩
    obtain hlt | heq := hle
    · exact hge.resolve_right fun hgt => horder ⟨hlt, hgt⟩
    · exact heq

def score : Value := .object 7 "Score" "41" [("best", .float 0)]

theorem part_scores {v : Value} (h : v.Part (.list [score, .null])) :
    v = .list [score, .null] ∨ v = score ∨ v = .null := by
  simpa [score, Value.part_iff (w := .list _), Value.part_iff (w := .object ..),
    Value.part_iff (w := .null), Value.children] using h

theorem part_limits {v : Value} (h : v.Part (.map [("4.2e1", score)])) :
    v = .map [("4.2e1", score)] ∨ v = score := by
  simpa [score, Value.part_iff (w := .map _), Value.part_iff (w := .object ..),
    Value.children] using h

theorem comparisons_agree_nested :
    let ctx : Context Unit := { var := fun _ => pure none }
    Holds ctx .gt (.map [("4.2e1", score)]) (.list [score, .null]) ∧
      ¬Holds ctx .eq (.list [score, .null]) (.map [("4.2e1", score)]) ∧
      Holds ctx .le (.list [score, .null]) (.map [("4.2e1", score)]) ∧
      ¬Holds ctx .ge (.list [score, .null]) (.map [("4.2e1", score)]) ∧
      Holds ctx .ge (.list [score, .null]) .null := by
  intro ctx
  have hfree : (Value.list [score, .null]).FloatFree := by
    intro x hx
    obtain h | h | h := part_scores hx <;> cases h
  have hone : (Value.list [score, .null]).Coherent (.map [("4.2e1", score)]) := by
    intro a b ha hb id ha' hb'
    obtain rfl | rfl | rfl := part_scores ha
    · cases ha'
    · obtain rfl | rfl := part_limits hb
      · cases hb'
      · rfl
    · cases ha'
  have hnull : (Value.list [score, .null]).Coherent .null := by
    intro a b _ hb id _ hb'
    obtain rfl | ⟨_, hv, -⟩ := Value.part_iff.1 hb
    · cases hb'
    · cases hv
  have hlt : Holds ctx .lt (.list [score, .null]) (.map [("4.2e1", score)]) :=
    holds_lt.2 (by decide +kernel)
  obtain ⟨-, hgt, -, -, -, heq, -, -, hle, -⟩ :=
    comparisons_agree ctx.var ctx.readField hfree hone
  obtain ⟨-, -, -, -, -, -, -, -, -, habsent⟩ :=
    comparisons_agree ctx.var ctx.readField hfree hnull
  obtain ⟨hle, hboth⟩ := hle nofun nofun
  have hne : ¬Holds ctx .eq (.list [score, .null]) (.map [("4.2e1", score)]) :=
    fun h => heq ⟨hlt, h⟩
  exact ⟨hgt.1 hlt, hne, hle.2 (.inl hlt), fun h => hne (hboth (hle.2 (.inl hlt)) h),
    (habsent (.inr rfl)).2⟩

end Op

end RichText
