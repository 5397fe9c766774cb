import RichText.Proofs.Expr.Asking
import RichText.Style.Delta

namespace RichText

variable {σ : Type} {ctx : Context σ} {var : Environment σ}

namespace Expr

def Avoids (hidden : String → Prop) (e : Expr) : Prop := ∀ name ∈ e.identifiers, ¬ hidden name

mutual

theorem eval_congr : ∀ e : Expr, (∀ name ∈ e.identifiers, var name = ctx.var name) →
    e.eval { ctx with var } = e.eval ctx
  | .atom a, h => by
    rw [eval, eval]
    cases a with
    | ident name => simp only [Atom.eval, h name List.mem_cons_self]
    | _ => rfl
  | .unary op e, h => by
    rw [eval, eval, eval_congr e h]
    rfl
  | .binary op l r, h => by
    cases op with
    | member =>
      rw [eval, eval]
      cases hr : r.fieldName? with
      -- the name of a field is not looked up, and is none of the identifiers
      | some name =>
        obtain rfl := eq_ident_of_fieldName? hr
        rw [eval_congr l h]
        rfl
      | none =>
        rw [identifiers_member hr, List.forall_mem_append] at h
        rw [eval_congr l h.1, eval_congr r h.2]
        rfl
    | coalesce =>
      rw [identifiers, List.forall_mem_append] at h
      rw [eval, eval, eval_congr l h.1, eval_congr r h.2]
      all_goals exact nofun
    | _ =>
      simp only [identifiers, List.forall_mem_append] at h
      simp only [eval, eval_congr l h.1, eval_congr r h.2]
      rfl
  | .subscript target key, h => by
    rw [identifiers, List.forall_mem_append] at h
    rw [eval, eval, eval_congr target h.1, eval_congr key h.2]
    rfl
  | .cond test yes no, h => by
    rw [identifiers, List.forall_mem_append, List.forall_mem_append] at h
    rw [eval, eval, eval_congr test h.1, eval_congr yes h.2.1, eval_congr no h.2.2]
  | .substring text lower upper, h => by
    rw [identifiers, List.forall_mem_append, List.forall_mem_append] at h
    rw [eval, eval, eval_congr text h.1, evalOption_congr lower h.2.1,
      evalOption_congr upper h.2.2]
  | .array items, h => by rw [eval, eval, evalList_congr items h]

theorem evalOption_congr : ∀ e? : Option Expr,
    (∀ name ∈ optionIdentifiers e?, var name = ctx.var name) →
      evalOption { ctx with var } e? = evalOption ctx e?
  | none, _ => rfl
  | some e, h => by rw [evalOption, evalOption, eval_congr e h]

theorem evalList_congr : ∀ es : List Expr,
    (∀ name ∈ listIdentifiers es, var name = ctx.var name) →
      evalList { ctx with var } es = evalList ctx es
  | [], _ => rfl
  | e :: es, h => by
    rw [listIdentifiers, List.forall_mem_append] at h
    rw [evalList, evalList, eval_congr e h.1, evalList_congr es h.2]

end

theorem mem_listIdentifiers {name : String} {es : List Expr} :
    name ∈ listIdentifiers es ↔ ∃ e ∈ es, name ∈ e.identifiers := by
  induction es with
  | nil => simp [listIdentifiers]
  | cons e rest ih => simp [listIdentifiers, ih]

end Expr

namespace StyleDelta

def exprs (d : StyleDelta) : List Expr :=
  d.shadow.toList ++ (d.opacity.toList ++ (d.decorations.map Prod.snd ++ (d.color.toList ++
    (d.font.toList ++ ((d.click.map Prod.snd).toList ++ (d.hover.toList ++ d.insertion.toList))))))

section

variable {ctx ctx' : Context σ} (hc : ctx'.coercion = ctx.coercion)

include hc

theorem evalStringField_congr {e? : Option Expr} (h : ∀ e ∈ e?.toList, e.eval ctx' = e.eval ctx) :
    evalStringField ctx' e? = evalStringField ctx e? := by
  cases e? with
  | none => rfl
  | some e => simp only [evalStringField, evalString, hc, h e (by simp)]

theorem evalColor_congr {e? : Option Expr} (h : ∀ e ∈ e?.toList, e.eval ctx' = e.eval ctx) :
    evalColor ctx' e? = evalColor ctx e? := by
  cases e? with
  | none => rfl
  | some e => simp only [evalColor, hc, h e (by simp)]

theorem evalShadow_congr {d : StyleDelta}
    (hshadow : ∀ e ∈ d.shadow.toList, e.eval ctx' = e.eval ctx)
    (hopacity : ∀ e ∈ d.opacity.toList, e.eval ctx' = e.eval ctx) :
    d.evalShadow ctx' = d.evalShadow ctx := by
  unfold evalShadow
  rw [evalColor_congr hc hshadow, hc]
  refine congrArg _ (funext fun color? => ?_)
  cases color? with
  | none => rfl
  | some color =>
    cases hd : d.opacity with
    | none => rfl
    | some e => simp only [hopacity e (by simp [hd])]

theorem evalDecorations_congr {flags : List (Decoration × Expr)} (acc : Decorations)
    (h : ∀ e ∈ flags.map Prod.snd, e.eval ctx' = e.eval ctx) :
    evalDecorations ctx' flags acc = evalDecorations ctx flags acc := by
  induction flags generalizing acc with
  | nil => rfl
  | cons f rest ih =>
    rw [List.map_cons, List.forall_mem_cons] at h
    simp only [evalDecorations, h.1, hc, ih _ h.2]

theorem evalClick_congr {click : Option (ClickAction × Expr)}
    (h : ∀ e ∈ (click.map Prod.snd).toList, e.eval ctx' = e.eval ctx) :
    evalClick ctx' click = evalClick ctx click := by
  cases click with
  | none => rfl
  | some c => simp only [evalClick, evalString, hc, h c.2 (by simp)]

theorem evaluate_congr {d : StyleDelta} (h : ∀ e ∈ d.exprs, e.eval ctx' = e.eval ctx) :
    d.evaluate ctx' = d.evaluate ctx := by
  simp only [exprs, List.forall_mem_append] at h
  obtain ⟨hshadow, hopacity, hdecorations, hcolor, hfont, hclick, hhover, hinsertion⟩ := h
  rw [evaluate, evaluate, evalShadow_congr hc hshadow hopacity,
    evalDecorations_congr hc _ hdecorations,
    evalColor_congr hc hcolor, evalStringField_congr hc hfont, evalClick_congr hc hclick,
    evalStringField_congr hc hhover, evalStringField_congr hc hinsertion]

end

end StyleDelta

end RichText
