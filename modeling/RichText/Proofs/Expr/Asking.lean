import Mathlib.Data.List.Basic
import RichText.Expr.Eval
import RichText.Proofs.Keyed

namespace RichText

variable {σ α β : Type}

/-- Notes the names with `p` that it is asked for, after those that are noted already. -/
def Environment.noting (p : String → Bool) (env : Environment σ) :
    Environment (σ × List String) := fun name => do
  let (s, noted) ← get
  let (v, s') := (env name).run s
  set (s', noted ++ [name].filter p)
  return v

def besideNotes (m : StateM σ α) : StateM (σ × List String) α := do
  let (s, noted) ← get
  let (a, s') := m.run s
  set (s', noted)
  return a

def Context.noting (p : String → Bool) (ctx : Context σ) : Context (σ × List String) where
  var := ctx.var.noting p
  coercion := ctx.coercion
  readField target field := besideNotes (ctx.readField target field)

def Binding.noting (name : String) : Binding σ → Binding (σ × List String)
  | .stored v => .stored v
  | .supplied supplier => .supplied do
    let (s, noted) ← get
    let (v, s') := supplier.run s
    set (s', noted ++ [name])
    return v

def Bindings.noting (b : Bindings σ) : Bindings (σ × List String) :=
  ⟨b.vars.map fun e => (e.1, e.2.noting e.1)⟩

theorem Bindings.lookup_noting (b : Bindings σ) :
    b.noting.lookup = b.lookup.noting b.isSupplied := by
  funext name
  funext ⟨s, noted⟩
  have hnoted : [name].filter b.isSupplied =
      if (b.vars.get? name).any Binding.isSupplied then [name] else [] := List.filter_cons
  rw [lookup, noting, Keyed.get?_map, Environment.noting, lookup, hnoted]
  cases b.vars.get? name with
  | none => exact congrArg (fun noted => (none, s, noted)) (List.append_nil noted).symm
  | some binding =>
    cases binding with
    | stored v => exact congrArg (fun noted => (some v, s, noted)) (List.append_nil noted).symm
    | supplied supplier => rfl

namespace Expr

mutual

/-- The identifiers from left to right. One that names a field is not among them. -/
def identifiers : Expr → List String
  | .atom (.ident name) => [name]
  | .atom _ => []
  | .unary _ e => identifiers e
  | .binary .member l (.atom (.ident _)) => identifiers l
  | .binary _ l r => identifiers l ++ identifiers r
  | .subscript target key => identifiers target ++ identifiers key
  | .cond test yes no => identifiers test ++ (identifiers yes ++ identifiers no)
  | .substring text lower upper =>
    identifiers text ++ (optionIdentifiers lower ++ optionIdentifiers upper)
  | .array items => listIdentifiers items

def optionIdentifiers : Option Expr → List String
  | none => []
  | some e => identifiers e

def listIdentifiers : List Expr → List String
  | [] => []
  | e :: es => identifiers e ++ listIdentifiers es

end

mutual

def isStraight : Expr → Bool
  | .atom _ => true
  | .unary _ e => isStraight e
  | .binary .coalesce _ _ => false
  | .binary _ l r => isStraight l && isStraight r
  | .subscript target key => isStraight target && isStraight key
  | .cond .. => false
  | .substring text lower upper =>
    isStraight text && (optionIsStraight lower && optionIsStraight upper)
  | .array items => listIsStraight items

def optionIsStraight : Option Expr → Bool
  | none => true
  | some e => isStraight e

def listIsStraight : List Expr → Bool
  | [] => true
  | e :: es => isStraight e && listIsStraight es

end

theorem eq_ident_of_fieldName? {e : Expr} {name : String} (h : e.fieldName? = some name) :
    e = .ident name := by
  cases e with
  | atom a =>
    cases a with
    | ident other =>
      cases h
      rfl
    | _ => cases h
  | _ => cases h

theorem identifiers_member {l r : Expr} (h : r.fieldName? = none) :
    (binary .member l r).identifiers = l.identifiers ++ r.identifiers := by
  cases r with
  | atom a =>
    cases a with
    | ident name => cases h
    | _ => rfl
  | _ => rfl

end Expr

/-- `m'` does what `m` does and notes, of the names that are asked for on the way, those with `p`.
They are some of `names` in their order, and all of them if they are asked for `always`. -/
def Notes (p : String → Bool) (names : List String) (always : Bool) (m : StateM σ α)
    (m' : StateM (σ × List String) α) : Prop :=
  ∀ s noted, ∃ asked, asked.Sublist names ∧ (always = true → asked = names) ∧
    m'.run (s, noted) = ((m.run s).1, (m.run s).2, noted ++ asked.filter p)

namespace Notes

variable {p : String → Bool} {names names' : List String} {c d : Bool}
  {m : StateM σ α} {m' : StateM (σ × List String) α}

theorem pure (a : α) : Notes p [] c (pure a : StateM σ α) (pure a) := fun s noted =>
  ⟨[], .refl _, fun _ => rfl, by rw [List.filter_nil, List.append_nil]; rfl⟩

theorem bind {f : α → StateM σ β} {f' : α → StateM (σ × List String) β}
    (hm : Notes p names c m m') (hf : ∀ a, Notes p names' d (f a) (f' a)) :
    Notes p (names ++ names') (c && d) (m >>= f) (m' >>= f') := by
  intro s noted
  obtain ⟨asked, hsub, hall, hrun⟩ := hm s noted
  obtain ⟨asked', hsub', hall', hrun'⟩ := hf (m.run s).1 (m.run s).2 (noted ++ asked.filter p)
  refine ⟨asked ++ asked', hsub.append hsub', fun h => ?_, ?_⟩
  · obtain ⟨ha, ha'⟩ := Bool.and_eq_true_iff.1 h
    rw [hall ha, hall' ha']
  · rw [StateT.run_bind, hrun, List.filter_append, ← List.append_assoc]
    exact hrun'

theorem besideNotes (m : StateM σ α) : Notes p [] c m (besideNotes m) := fun s noted =>
  ⟨[], .refl _, fun _ => rfl, by rw [List.filter_nil, List.append_nil]; rfl⟩

theorem last {f : α → StateM σ β} {f' : α → StateM (σ × List String) β}
    (hm : Notes p names c m m') (hf : ∀ a, Notes p [] true (f a) (f' a)) :
    Notes p names c (m >>= f) (m' >>= f') := by
  have h := hm.bind hf
  rwa [List.append_nil, Bool.and_true] at h

theorem result (hm : Notes p names c m m') (f : α → β) :
    Notes p names c (m >>= fun a => Pure.pure (f a)) (m' >>= fun a => Pure.pure (f a)) :=
  hm.last fun a => .pure (f a)

theorem sometimes (hm : Notes p names c m m') (h : names.Sublist names') :
    Notes p names' false m m' := by
  intro s noted
  obtain ⟨asked, hsub, -, hrun⟩ := hm s noted
  exact ⟨asked, hsub.trans h, nofun, hrun⟩

theorem var (env : Environment σ) (name : String) :
    Notes p [name] true (env name) (env.noting p name) := fun _ _ =>
  ⟨[name], .refl _, fun _ => rfl, rfl⟩

end Notes

namespace Expr

variable (p : String → Bool) (ctx : Context σ)

theorem notes_subscript (target key : Value) :
    Notes p [] true (ctx.subscript target key) ((ctx.noting p).subscript target key) := by
  cases target with
  | object | markup => exact .besideNotes _
  | _ => exact .pure _

theorem notes_apply (op : Op) (l r : Value) :
    Notes p [] true (op.apply ctx l r) (op.apply (ctx.noting p) l r) := by
  cases op with
  | member => exact notes_subscript p ctx l r
  | _ => exact .pure _

mutual

theorem notes_eval : ∀ e : Expr,
    Notes p e.identifiers e.isStraight (e.eval ctx) (e.eval (ctx.noting p))
  | .atom a => by
    rw [eval, eval]
    cases a with
    | ident name => exact (Notes.var ctx.var name).result fun v => v.getD .null
    | _ => exact .pure _
  | .unary op e => by
    rw [eval, eval]
    exact (notes_eval e).result (op.applyUnary ctx)
  | .binary op l r => by
    cases op with
    | coalesce =>
      rw [eval, eval]
      refine ((notes_eval l).bind (d := false) fun v => ?_).sometimes (.refl _)
      by_cases hv : v.isNull = true
      · rw [if_pos hv, if_pos hv]
        exact (notes_eval r).sometimes (.refl _)
      · rw [if_neg hv, if_neg hv]
        exact (Notes.pure v (c := true)).sometimes (List.nil_sublist _)
    | member =>
      rw [eval, eval]
      cases hr : r.fieldName? with
      | some name =>
        obtain rfl := eq_ident_of_fieldName? hr
        have h := (notes_eval l).last fun target => notes_subscript p ctx target (.str name)
        rw [← Bool.and_true l.isStraight] at h
        exact h
      | none =>
        rw [identifiers_member hr]
        exact (notes_eval l).bind fun target => (notes_eval r).last (notes_subscript p ctx target)
    | _ =>
      simp only [eval]
      exact (notes_eval l).bind fun a => (notes_eval r).last fun b => notes_apply p ctx _ a b
  | .subscript target key => by
    rw [eval, eval]
    exact (notes_eval target).bind fun t => (notes_eval key).last (notes_subscript p ctx t)
  | .cond test yes no => by
    rw [eval, eval]
    refine ((notes_eval test).bind (d := false) fun c => ?_).sometimes (.refl _)
    change Notes p _ _ (if ctx.coercion.asBool c then yes.eval ctx else no.eval ctx)
      (if ctx.coercion.asBool c then yes.eval (ctx.noting p) else no.eval (ctx.noting p))
    by_cases hc : ctx.coercion.asBool c = true
    · rw [if_pos hc, if_pos hc]
      exact (notes_eval yes).sometimes (List.sublist_append_left _ _)
    · rw [if_neg hc, if_neg hc]
      exact (notes_eval no).sometimes (List.sublist_append_right _ _)
  | .substring text lower upper => by
    rw [eval, eval]
    exact (notes_eval text).bind fun s => (notes_evalOption lower).bind fun lo =>
      (notes_evalOption upper).result _
  | .array items => by
    rw [eval, eval]
    exact (notes_evalList items).result Value.list

theorem notes_evalOption : ∀ e : Option Expr,
    Notes p (optionIdentifiers e) (optionIsStraight e) (evalOption ctx e)
      (evalOption (ctx.noting p) e)
  | none => .pure none
  | some e => by
    rw [evalOption, evalOption, map_eq_pure_bind, map_eq_pure_bind]
    exact (notes_eval e).result some

theorem notes_evalList : ∀ es : List Expr,
    Notes p (listIdentifiers es) (listIsStraight es) (evalList ctx es)
      (evalList (ctx.noting p) es)
  | [] => .pure []
  | e :: es => by
    rw [evalList, evalList]
    exact (notes_eval e).bind fun v => (notes_evalList es).result (v :: ·)

end

/-- The names that are looked up in evaluating an expression, one after the other. -/
def asked (e : Expr) (s : σ) : List String :=
  ((e.eval (ctx.noting fun _ => true)).run (s, [])).2.2

def calls (b : Bindings σ) (e : Expr) (s : σ) : List String :=
  ((e.eval { ctx.noting (fun _ => false) with var := b.noting.lookup }).run (s, [])).2.2

/-- An expression looks names up as they are written in it, from left to right, and leaves some out
only at a conditional or `??`. So a supplier is called once for each place of its name, and no other
is called. -/
theorem asked_identifiers (b : Bindings σ) (e : Expr) (s : σ) :
    (e.eval (ctx.noting fun _ => true)).run (s, []) =
        (((e.eval ctx).run s).1, ((e.eval ctx).run s).2, e.asked ctx s) ∧
      (e.asked ctx s).Sublist e.identifiers ∧
      (e.isStraight = true → e.asked ctx s = e.identifiers) ∧
      (e.calls ctx b s).Sublist (e.identifiers.filter b.isSupplied) ∧
      (e.isStraight = true → e.calls ctx b s = e.identifiers.filter b.isSupplied) := by
  obtain ⟨found, hfound, hall, hrun⟩ := notes_eval (fun _ => true) ctx e s []
  have hasked : e.asked ctx s = found := by
    rw [asked, hrun]
    exact List.filter_true found
  obtain ⟨found', hfound', hall', hrun'⟩ :=
    notes_eval b.isSupplied ⟨b.lookup, ctx.coercion, ctx.readField⟩ e s []
  have hcalls : e.calls ctx b s = found'.filter b.isSupplied := by
    rw [calls, Bindings.lookup_noting]
    exact congrArg (·.2.2) hrun'
  refine ⟨?_, ?_, ?_, ?_, ?_⟩
  · rw [hasked, hrun]
    exact congrArg (fun noted => (_, _, noted)) (List.filter_true found)
  · rwa [hasked]
  · rwa [hasked]
  · rw [hcalls]
    exact hfound'.filter _
  · intro h
    rw [hcalls, hall' h]

def tick : StateM Nat Value := modifyGet fun n => (.int (.ofNat n), n + 1)

def counted : Bindings Nat :=
  ⟨[("a", .supplied tick), ("b", .stored .null), ("n", .supplied tick)]⟩

/-- `(a && b.a) || [c, a[n..]]` -/
def crowded : Expr :=
  .binary .or (.binary .and (.ident "a") (.field (.ident "b") "a"))
    (.array [.ident "c", .substring (.ident "a") (some (.ident "n")) none])

theorem asked_identifiers_crowded :
    crowded.isStraight = true ∧
      crowded.asked { var := counted.lookup } 0 = ["a", "b", "c", "a", "n"] ∧
      crowded.calls { var := counted.lookup } counted 0 = ["a", "a", "n"] := by
  have hs : crowded.isStraight = true := rfl
  obtain ⟨-, -, hasked, -, hcalls⟩ :=
    asked_identifiers { var := counted.lookup } counted crowded 0
  exact ⟨hs, hasked hs, (hcalls hs).trans (by decide)⟩

end Expr

end RichText
