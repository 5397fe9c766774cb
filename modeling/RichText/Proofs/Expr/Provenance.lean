import RichText.Expr.Eval
import RichText.Proofs.Keyed

namespace RichText

variable {σ α β : Type}

namespace Value

mutual

def markups : Value → List (Nat × Node)
  | .list items => itemMarkups items
  | .map entries => entryMarkups entries
  | .object _ _ _ fields => entryMarkups fields
  | .markup id _ node => [(id, node)]
  | .null | .int _ | .float _ | .bool _ | .str _ => []

def itemMarkups : List Value → List (Nat × Node)
  | [] => []
  | v :: vs => markups v ++ itemMarkups vs

def entryMarkups : List (String × Value) → List (Nat × Node)
  | [] => []
  | (_, v) :: rest => markups v ++ entryMarkups rest

end

def Within (M : Nat × Node → Prop) (v : Value) : Prop := ∀ m ∈ v.markups, M m

variable {M : Nat × Node → Prop}

theorem within_of_nil {v : Value} (h : v.markups = []) : v.Within M := by
  rw [Within, h]
  exact List.forall_mem_nil M

theorem within_list {items : List Value} : (list items).Within M ↔ ∀ v ∈ items, v.Within M := by
  have h : (∀ m ∈ itemMarkups items, M m) ↔ ∀ v ∈ items, v.Within M := by
    induction items with
    | nil => simp [itemMarkups]
    | cons v rest ih => rw [itemMarkups, List.forall_mem_append, ih, List.forall_mem_cons, Within]
  rw [Within, markups, h]

theorem within_entries {entries : List (String × Value)} :
    (∀ m ∈ entryMarkups entries, M m) ↔ ∀ e ∈ entries, e.2.Within M := by
  induction entries with
  | nil => simp [entryMarkups]
  | cons e rest ih => rw [entryMarkups, List.forall_mem_append, ih, List.forall_mem_cons, Within]

theorem within_map {entries : List (String × Value)} :
    (map entries).Within M ↔ ∀ e ∈ entries, e.2.Within M := by
  rw [Within, markups, within_entries]

theorem within_ofEntries {entries : List (String × Value)} (h : ∀ e ∈ entries, e.2.Within M) :
    (ofEntries entries).Within M := within_map.2 (Keyed.forall_ofList h)

theorem within_markup {id : Nat} {display : String} {node : Node} :
    (markup id display node).Within M ↔ M (id, node) := by
  simp [Within, markups]

theorem within_asList {v : Value} (h : v.Within M) : ∀ item ∈ v.asList, item.Within M := by
  cases v with
  | list items => exact within_list.1 h
  | map entries =>
    intro item hitem
    obtain ⟨e, -, rfl⟩ := List.mem_map.1 hitem
    exact within_of_nil rfl
  | _ =>
    intro item hitem
    obtain rfl := List.mem_singleton.1 hitem
    exact h

end Value

def Gives (Q : α → Prop) (m : StateM σ α) : Prop := ∀ s, Q (m.run s).1

namespace Gives

variable {Q : α → Prop}

theorem pure {a : α} (h : Q a) : Gives Q (pure a : StateM σ α) := fun _ => h

theorem bind {R : β → Prop} {m : StateM σ α} {f : α → StateM σ β} (hm : Gives Q m)
    (hf : ∀ a, Q a → Gives R (f a)) : Gives R (m >>= f) := fun s => hf _ (hm s) _

theorem trivial (m : StateM σ α) : Gives (fun _ => True) m := fun _ => True.intro

end Gives

structure Context.Within (M : Nat × Node → Prop) (ctx : Context σ) : Prop where
  var : ∀ name, Gives (fun v => ∀ a ∈ v, a.Within M) (ctx.var name)
  readField : ∀ target field, target.Within M → Gives (·.Within M) (ctx.readField target field)

variable {M : Nat × Node → Prop} {ctx : Context σ}

theorem within_getD {v : Option Value} (h : ∀ a ∈ v, a.Within M) : (v.getD .null).Within M := by
  cases v with
  | none => exact Value.within_of_nil rfl
  | some a => exact h a rfl

theorem within_nth {items : List Value} (h : ∀ v ∈ items, v.Within M) (index : Int64) :
    (nth items index).Within M := by
  refine within_getD fun a ha => ?_
  obtain ⟨i, -, hi⟩ := Option.bind_eq_some_iff.1 ha
  exact h a (List.mem_of_getElem? hi)

theorem Context.Within.subscript (h : ctx.Within M) {target : Value} (ht : target.Within M)
    (key : Value) : Gives (·.Within M) (ctx.subscript target key) := by
  cases target with
  | map entries =>
    refine .pure (within_getD fun a ha => ?_)
    obtain ⟨before, later, rfl, -⟩ := List.lookup_eq_some_iff.1 ha
    exact Value.within_map.1 ht _ (List.mem_append_right before List.mem_cons_self)
  | list items => exact .pure (within_nth (Value.within_list.1 ht) _)
  | str s =>
    refine .pure (within_getD fun a ha => ?_)
    obtain ⟨c, -, rfl⟩ := Option.map_eq_some_iff.1 ha
    exact Value.within_of_nil rfl
  | object | markup => exact h.readField _ _ ht
  | _ => exact .pure (Value.within_of_nil rfl)

theorem Number.within_arith (op : Op) (a b : Number) : (a.arith op b).Within M := by
  cases a <;> cases b <;> exact Value.within_of_nil rfl

theorem within_rangeItems (a b : Int64) : ∀ v ∈ rangeItems a b, v.Within M := by
  intro v hv
  unfold rangeItems at hv
  split at hv
  · cases hv
  · obtain ⟨i, -, rfl⟩ := List.mem_map.1 hv
    exact Value.within_of_nil rfl

theorem Op.within_combine (cx : Coercion) (op : Op) {l r : Value} (hl : l.Within M)
    (hr : r.Within M) : (op.combine cx l r).Within M := by
  cases op with
  | add | sub | mul | div | rem | pow => exact Number.within_arith _ _ _
  | coalesce =>
    change (if l.isNull then r else l).Within M
    split
    · exact hr
    · exact hl
  | range => exact Value.within_list.2 (within_rangeItems _ _)
  | _ => exact Value.within_of_nil rfl

theorem Op.within_apply (h : ctx.Within M) (op : Op) {l r : Value} (hl : l.Within M)
    (hr : r.Within M) : Gives (·.Within M) (op.apply ctx l r) := by
  cases op with
  | member => exact h.subscript hl r
  | _ => exact .pure (Op.within_combine ctx.coercion _ hl hr)

theorem Op.within_applyUnary (ctx : Context σ) (op : Op) (v : Value) :
    (op.applyUnary ctx v).Within M := by
  cases op with
  | not =>
    change (if v.isNull then Value.null else .bool !(ctx.coercion.asBool v)).Within M
    split <;> exact Value.within_of_nil rfl
  | neg =>
    simp only [Op.applyUnary]
    split <;> exact Value.within_of_nil rfl
  | _ => exact Value.within_of_nil rfl

namespace Expr

mutual

/-- Evaluation only finds markup that there is already. -/
theorem within_eval (h : ctx.Within M) : ∀ e : Expr, Gives (·.Within M) (e.eval ctx)
  | .atom a => by
    rw [eval]
    cases a with
    | ident name => exact (h.var name).bind fun v hv => .pure (within_getD hv)
    | _ => exact .pure (Value.within_of_nil rfl)
  | .unary op e => by
    rw [eval]
    exact (within_eval h e).bind fun v _ => .pure (op.within_applyUnary ctx v)
  | .binary op l r => by
    cases op with
    | coalesce =>
      rw [eval]
      refine (within_eval h l).bind fun v hv => ?_
      by_cases hn : v.isNull = true
      · rw [if_pos hn]
        exact within_eval h r
      · rw [if_neg hn]
        exact .pure hv
    | member =>
      rw [eval]
      refine (within_eval h l).bind fun target ht => ?_
      cases r.fieldName? with
      | some name => exact h.subscript ht _
      | none => exact (within_eval h r).bind fun key _ => h.subscript ht key
    | _ =>
      simp only [eval]
      exact (within_eval h l).bind fun _ hl => (within_eval h r).bind fun _ hr =>
        Op.within_apply h _ hl hr
  | .subscript target key => by
    rw [eval]
    exact (within_eval h target).bind fun _ ht => (within_eval h key).bind fun k _ =>
      h.subscript ht k
  | .cond test yes no => by
    rw [eval]
    refine (within_eval h test).bind fun c _ => ?_
    by_cases hc : ctx.coercion.asBool c = true
    · rw [if_pos hc]
      exact within_eval h yes
    · rw [if_neg hc]
      exact within_eval h no
  | .substring text lower upper => by
    rw [eval]
    exact (Gives.trivial _).bind fun _ _ => (Gives.trivial _).bind fun _ _ =>
      (Gives.trivial _).bind fun _ _ => .pure (Value.within_of_nil rfl)
  | .array items => by
    rw [eval]
    exact (within_evalList h items).bind fun _ hvs => .pure (Value.within_list.2 hvs)

theorem within_evalList (h : ctx.Within M) :
    ∀ es : List Expr, Gives (fun vs => ∀ v ∈ vs, v.Within M) (evalList ctx es)
  | [] => .pure fun _ hv => absurd hv List.not_mem_nil
  | e :: es => by
    rw [evalList]
    exact (within_eval h e).bind fun _ hv => (within_evalList h es).bind fun _ hvs =>
      .pure (List.forall_mem_cons.2 ⟨hv, hvs⟩)

end

end Expr

end RichText
