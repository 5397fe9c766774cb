import RichText.Style.Delta

namespace RichText

variable {σ α β : Type}

def Steady (m : StateM σ α) : Prop := ∃ a, ∀ s, m.run s = (a, s)

namespace Steady

theorem pure (a : α) : Steady (pure a : StateM σ α) := ⟨a, fun _ => rfl⟩

theorem bind {m : StateM σ α} {f : α → StateM σ β} (hm : Steady m) (hf : ∀ a, Steady (f a)) :
    Steady (m >>= f) := by
  obtain ⟨a, ha⟩ := hm
  obtain ⟨b, hb⟩ := hf a
  refine ⟨b, fun s => ?_⟩
  rw [StateT.run_bind, ha]
  exact hb s

theorem map {m : StateM σ α} (hm : Steady m) (f : α → β) : Steady (f <$> m) := by
  rw [map_eq_pure_bind]
  exact hm.bind fun a => pure (f a)

theorem ite {c : Prop} [Decidable c] {m n : StateM σ α} (hm : Steady m) (hn : Steady n) :
    Steady (if c then m else n) := by
  by_cases h : c
  · rwa [if_pos h]
  · rwa [if_neg h]

theorem run_eq {m : StateM σ α} (hm : Steady m) (s s' : σ) : m.run s = ((m.run s').1, s) := by
  obtain ⟨a, ha⟩ := hm
  rw [ha s, ha s']

end Steady

structure Context.Steady (ctx : Context σ) : Prop where
  var : ∀ name, RichText.Steady (ctx.var name)
  readField : ∀ target field, RichText.Steady (ctx.readField target field)

variable {ctx : Context σ}

theorem Atom.steady_eval (h : ctx.Steady) (a : Atom) : Steady (a.eval ctx) := by
  cases a with
  | ident name => exact (h.var name).map fun v => v.getD .null
  | _ => exact .pure _

theorem Context.Steady.subscript (h : ctx.Steady) (target key : Value) :
    RichText.Steady (ctx.subscript target key) := by
  cases target with
  | object | markup => exact h.readField _ _
  | _ => exact .pure _

theorem Op.steady_apply (h : ctx.Steady) (op : Op) (l r : Value) : Steady (op.apply ctx l r) := by
  cases op with
  | member => exact h.subscript l r
  | _ => exact .pure _

namespace Expr

mutual

theorem steady_eval (h : ctx.Steady) : ∀ e : Expr, Steady (e.eval ctx)
  | .atom a => by
    rw [eval]
    exact a.steady_eval h
  | .unary op e => by
    rw [eval]
    exact (steady_eval h e).bind fun _ => .pure _
  | .binary op l r => by
    cases op with
    | coalesce =>
      rw [eval]
      exact (steady_eval h l).bind fun _ => (steady_eval h r).ite (.pure _)
    | member =>
      rw [eval]
      refine (steady_eval h l).bind fun target => ?_
      cases r.fieldName? with
      | some name => exact h.subscript target _
      | none => exact (steady_eval h r).bind (h.subscript target)
    | _ =>
      simp only [eval]
      exact (steady_eval h l).bind fun a => (steady_eval h r).bind (Op.steady_apply h _ a)
  | .subscript target key => by
    rw [eval]
    exact (steady_eval h target).bind fun t => (steady_eval h key).bind (h.subscript t)
  | .cond test yes no => by
    rw [eval]
    exact (steady_eval h test).bind fun _ => (steady_eval h yes).ite (steady_eval h no)
  | .substring text lower upper => by
    rw [eval]
    exact (steady_eval h text).bind fun _ => (steady_evalOption h lower).bind fun _ =>
      (steady_evalOption h upper).bind fun _ => .pure _
  | .array items => by
    rw [eval]
    exact (steady_evalList h items).bind fun _ => .pure _

theorem steady_evalOption (h : ctx.Steady) : ∀ e : Option Expr, Steady (evalOption ctx e)
  | none => .pure none
  | some e => by
    rw [evalOption]
    exact (steady_eval h e).map some

theorem steady_evalList (h : ctx.Steady) : ∀ es : List Expr, Steady (evalList ctx es)
  | [] => .pure []
  | e :: es => by
    rw [evalList]
    exact (steady_eval h e).bind fun _ => (steady_evalList h es).bind fun _ => .pure _

end

end Expr

namespace StyleDelta

open RichText.Expr

variable (h : ctx.Steady)

include h

theorem steady_evalString (e : Expr) : Steady (evalString ctx e) := (steady_eval h e).map _

theorem steady_evalStringField (e? : Option Expr) : Steady (evalStringField ctx e?) := by
  cases e? with
  | none => exact .pure none
  | some e => exact (steady_evalString h e).map some

theorem steady_evalColor (e? : Option Expr) : Steady (evalColor ctx e?) := by
  cases e? with
  | none => exact .pure none
  | some e => exact (steady_eval h e).map _

theorem steady_evalShadow (d : StyleDelta) : Steady (d.evalShadow ctx) := by
  refine (steady_evalColor h d.shadow).bind fun color? => ?_
  cases color? with
  | none => exact .pure none
  | some color =>
    cases d.opacity with
    | none => exact .pure _
    | some e => exact (steady_eval h e).bind fun _ => .pure _

theorem steady_evalDecorations (flags : List (Decoration × Expr)) (acc : Decorations) :
    Steady (evalDecorations ctx flags acc) := by
  induction flags generalizing acc with
  | nil => exact .pure acc
  | cons f rest ih => exact (steady_eval h f.2).bind fun _ => ih _

theorem steady_evalClick (click? : Option (ClickAction × Expr)) :
    Steady (evalClick ctx click?) := by
  cases click? with
  | none => exact .pure none
  | some click => exact (steady_evalString h click.2).bind fun _ => .pure _

theorem steady_evaluate (d : StyleDelta) : Steady (d.evaluate ctx) :=
  (steady_evalShadow h d).bind fun _ => (steady_evalDecorations h d.decorations {}).bind fun _ =>
    (steady_evalColor h d.color).bind fun _ => (steady_evalStringField h d.font).bind fun _ =>
    (steady_evalClick h d.click).bind fun _ => (steady_evalStringField h d.hover).bind fun _ =>
    (steady_evalStringField h d.insertion).bind fun _ => .pure _

end StyleDelta

end RichText
