import RichText.Proofs.Markup.Chains
import RichText.Proofs.Markup.Discreet
import RichText.Proofs.Walk.Lockstep
import RichText.Proofs.Walk.Provenance

namespace RichText

open Walk

variable {σ κ α β γ : Type}

/-- From any state both computations come to one state, with results in the relation `Q`. -/
def Agrees (Q : α → β → Prop) (m : StateM σ α) (n : StateM σ β) : Prop :=
  ∀ s, Q (m.run s).1 (n.run s).1 ∧ (m.run s).2 = (n.run s).2

/-- One value, or two markup values. Where they are interpolated trees are spliced in that are in
the relation `N`. -/
inductive Value.Shown (N : Node → Node → Prop) : Value → Value → Prop where
  | same {v : Value} (h : ∀ id display node, v = .markup id display node → N node node) :
    Shown N v v
  | markup {id id' : Nat} {display display' : String} {node node' : Node} (h : N node node') :
    Shown N (.markup id display node) (.markup id' display' node')

theorem shown_getD {N : Node → Node → Prop} {v v' : Option Value}
    (h : Option.Rel (Value.Shown N) v v') : Value.Shown N (v.getD .null) (v'.getD .null) := by
  cases h with
  | none => exact .same nofun
  | some h => exact h

/-- An environment that gives all names but the hidden ones the meaning they have in `S`. What the
hidden ones stand for may be told from it, but not by interpolating it. All markup has `M`. -/
structure Setting.Restated (hidden : String → Prop) (M : Nat × Node → Prop)
    (N : Node → Node → Prop) (S : Setting σ κ) (env : Environment σ) : Prop where
  within : S.Within M
  refl : ∀ m, M m → N m.2 m.2
  known : ∀ name, ¬ hidden name → env name = S.env name
  shown : ∀ name, hidden name → Agrees (Option.Rel (Value.Shown N)) (S.env name) (env name)

namespace Setting.Restated

variable {hidden : String → Prop} {M : Nat × Node → Prop} {N : Node → Node → Prop}
  {S : Setting σ κ} {env : Environment σ} (hS : S.Restated hidden M N env) (s : Scope)

include hS

theorem lookup {name : String} (h : ¬ hidden name) : s.lookup env name = s.lookup S.env name := by
  unfold Scope.lookup
  rw [hS.known name h]

theorem eval {e : Expr} (he : e.Avoids hidden) :
    e.eval (context { S with env } s) = e.eval (context S s) := by
  change e.eval { context S s with var := s.lookup env } = _
  exact e.eval_congr fun name hname => hS.lookup s (he name hname)

theorem evalList {es : List Expr} (hes : ∀ e ∈ es, e.Avoids hidden) :
    Expr.evalList (context { S with env } s) es = Expr.evalList (context S s) es := by
  change Expr.evalList { context S s with var := s.lookup env } es = _
  refine Expr.evalList_congr es fun name hname => ?_
  obtain ⟨e, he, hname⟩ := Expr.mem_listIdentifiers.1 hname
  exact hS.lookup s (hes e he name hname)

theorem evaluate {d : StyleDelta} (hd : ∀ e ∈ d.exprs, e.Avoids hidden) :
    d.evaluate (context { S with env } s) = d.evaluate (context S s) := by
  refine StyleDelta.evaluate_congr ?_ fun e he => hS.eval s (hd e he)
  rfl

theorem shown_of_within {v : Value} (hv : v.Within M) : Value.Shown N v v := by
  refine .same fun id display node heq => hS.refl (id, node) ?_
  rw [heq] at hv
  exact Value.within_markup.1 hv

variable {s}

theorem shown_eval (hs : s.Within M) {e : Expr} (he : e.Avoids hidden ∨ ∃ name, e = .ident name) :
    Agrees (Value.Shown N) (e.eval (context S s)) (e.eval (context { S with env } s)) := by
  have havoids : ∀ {e : Expr}, e.Avoids hidden → Agrees (Value.Shown N) (e.eval (context S s))
      (e.eval (context { S with env } s)) := by
    intro e he host
    rw [hS.eval s he]
    exact ⟨hS.shown_of_within (e.within_eval (within_context hS.within hs) host), rfl⟩
  obtain he | ⟨name, rfl⟩ := he
  · exact havoids he
  by_cases hname : hidden name
  · have hvar : Agrees (Option.Rel (Value.Shown N)) (s.lookup S.env name) (s.lookup env name) := by
      have hfound := hs.find? name
      unfold Scope.lookup
      cases hfind : s.find? name with
      | none => exact hS.shown name hname
      | some v => exact fun _ => ⟨.some (hS.shown_of_within (hfound v hfind)), rfl⟩
    intro host
    obtain ⟨hvalue, hhost⟩ := hvar host
    refine ⟨?_, hhost⟩
    exact shown_getD hvalue
  · exact havoids (List.forall_mem_singleton.2 hname)

end Setting.Restated

namespace Walk

inductive Ends (Q : α → Prop) : Except RenderError α → Except RenderError α → Prop where
  | ok {a : α} (h : Q a) : Ends Q (.ok a) (.ok a)
  | error (e : RenderError) : Ends Q (.error e) (.error e)

/-- Two chronicles that have come equally far and have had the same things written, each in the same
style. -/
structure Level (P : InterceptorStack σ → Prop) (M : Nat × Node → Prop)
    (v u : WalkState σ (Journal σ κ)) : Prop where
  host : v.host = u.host
  scope : v.scope = u.scope
  within : v.scope.Within M
  interceptors : v.interceptors = u.interceptors
  admits : P v.interceptors
  path : v.out.path = u.out.path
  writes : ∀ base, v.out.writes base = u.out.writes base

/-- Chronicles on a level stay so and end alike. -/
def Follows (P : InterceptorStack σ → Prop) (M : Nat × Node → Prop) (Q : α → Prop)
    (m n : Walk σ (Journal σ κ) α) : Prop :=
  ∀ v u, Level P M v u → Ends Q (exec m v).1 (exec n u).1 ∧ Level P M (after m v) (after n u)

abbrev Alongside (P : InterceptorStack σ → Prop) (M : Nat × Node → Prop)
    (m n : Walk σ (Journal σ κ) α) : Prop := Follows P M (fun _ => True) m n

namespace Follows

variable {P : InterceptorStack σ → Prop} {M : Nat × Node → Prop} {N : Node → Node → Prop}
  {Q : α → Prop} {R : γ → Prop}

theorem pure {a : α} (h : Q a) : Follows P M Q (pure a : Walk σ (Journal σ κ) α) (pure a) :=
  fun _ _ hvu => ⟨.ok h, hvu⟩

theorem throw (e : RenderError) : Follows P M Q (throw e : Walk σ (Journal σ κ) α) (throw e) :=
  fun _ _ hvu => ⟨.error e, hvu⟩

theorem bind {m n : Walk σ (Journal σ κ) α} {f g : α → Walk σ (Journal σ κ) γ}
    (hm : Follows P M Q m n) (hf : ∀ a, Q a → Follows P M R (f a) (g a)) :
    Follows P M R (m >>= f) (n >>= g) := by
  intro v u hvu
  obtain ⟨hresult, hstate⟩ := hm v u hvu
  unfold after at hstate ⊢
  rw [exec_bind, exec_bind]
  rcases hv : exec m v with ⟨e | a, v'⟩ <;> rcases hu : exec n u with ⟨e' | b, u'⟩ <;>
    rw [hv, hu] at hresult hstate
  · cases hresult
    exact ⟨.error e, hstate⟩
  · cases hresult
  · cases hresult
  · cases hresult with
    | ok h => exact hf a h v' u' hstate

variable {body body' restore restore' : Walk σ (Journal σ κ) Unit}

theorem ensuring (hb : Alongside P M body body') (hr : Alongside P M restore restore') :
    Alongside P M (ensuring body restore) (ensuring body' restore') := by
  intro v u hvu
  obtain ⟨hresult, hstate⟩ := hb v u hvu
  obtain ⟨hend, hrestored⟩ := hr _ _ hstate
  rw [after_ensuring, after_ensuring]
  refine ⟨?_, hrestored⟩
  rw [exec_ensuring, exec_ensuring]
  unfold after at hstate hend
  rcases hv : exec body v with ⟨e | _, v'⟩ <;> rcases hu : exec body' u with ⟨e' | _, u'⟩ <;>
    rw [hv, hu] at hresult hstate hend
  · cases hresult
    have hthrow : Alongside P M (restore >>= fun _ => MonadExcept.throw e)
        (restore' >>= fun _ => (MonadExcept.throw e : Walk σ (Journal σ κ) Unit)) :=
      hr.bind fun _ _ => throw e
    exact (hthrow v' u' hstate).1
  · cases hresult
  · cases hresult
  · exact hend

theorem onScope {f : Scope → Scope} (h : ∀ s : Scope, s.Within M → (f s).Within M) :
    Alongside P M (onScope f : Walk σ (Journal σ κ) Unit) (Walk.onScope f) :=
  fun v _ hvu => ⟨.ok trivial, hvu.host, congrArg f hvu.scope, h v.scope hvu.within,
    hvu.interceptors, hvu.admits, hvu.path, hvu.writes⟩

theorem onPath (f : List Layer → List Layer) :
    Alongside P M (onOut fun j : Journal σ κ => { j with path := f j.path })
      (onOut fun j => { j with path := f j.path }) :=
  fun _ _ hvu => ⟨.ok trivial, hvu.host, hvu.scope, hvu.within, hvu.interceptors, hvu.admits,
    congrArg f hvu.path, hvu.writes⟩

theorem binding {bindings : List (String × Value)} (hbind : ∀ b ∈ bindings, b.2.Within M)
    (hb : Alongside P M body body') :
    Alongside P M (binding bindings body) (Walk.binding bindings body') := by
  have hdepth : Alongside P M (look fun w => w.scope.depth : Walk σ (Journal σ κ) Nat)
      (look fun w => w.scope.depth) := by
    rintro ⟨host, scope, styles, interceptors, out⟩ u hvu
    obtain rfl : scope = u.scope := hvu.scope
    exact ⟨.ok trivial, hvu⟩
  exact hdepth.bind fun height _ => (onScope fun _ hs => hs.pushAll hbind).bind fun _ _ =>
    hb.ensuring (onScope fun _ hs => hs.rollback height)

theorem write (S S' : Setting σ κ) (x : Write κ) :
    Alongside P M ((chronicler S).write x) ((chronicler S').write x) := by
  refine fun v u hvu => ⟨.ok trivial, hvu.host, hvu.scope, hvu.within, hvu.interceptors, hvu.admits,
    hvu.path, fun base => ?_⟩
  change (v.out.log [.wrote v.out.path x]).writes base =
    (u.out.log [.wrote u.out.path x]).writes base
  rw [Journal.writes_log_wrote, Journal.writes_log_wrote, hvu.writes, hvu.path]

structure Nodes (P : InterceptorStack σ → Prop) (M : Nat × Node → Prop) (hidden : String → Prop)
    (S S' : Setting σ κ) (splice splice' : Node → Walk σ (Journal σ κ) Unit) (inChain : Bool)
    (node node' : Node) : Prop where
  gate : inChain = true → node.attrs.ifCond = node'.attrs.ifCond ∧
    ∀ e ∈ node.attrs.ifCond.toList, e.Avoids hidden
  visit : Alongside P M (visitWith S (chronicler S) splice node inChain)
    (visitWith S' (chronicler S') splice' node' inChain)

section

variable {hidden : String → Prop} {S S' : Setting σ κ}
  {splice splice' : Node → Walk σ (Journal σ κ) Unit}

theorem visitAll {nodes nodes' : List Node}
    (h : List.Forall₂ (Nodes P M hidden S S' splice splice' false) nodes nodes') :
    Alongside P M (visitAll S (chronicler S) splice nodes)
      (Walk.visitAll S' (chronicler S') splice' nodes') := by
  induction h with
  | nil => exact pure trivial
  | cons hnode _ ih =>
    simp only [Walk.visitAll]
    exact hnode.visit.bind fun _ _ => ih

theorem visitOption {node? node?' : Option Node} {inChain : Bool}
    (h : Option.Rel (Nodes P M hidden S S' splice splice' inChain) node? node?') :
    Alongside P M (visitOption S (chronicler S) splice node? inChain)
      (Walk.visitOption S' (chronicler S') splice' node?' inChain) := by
  cases h with
  | none => exact pure trivial
  | some hnode => exact hnode.visit

theorem visitCases (key : String) {cases cases' : List (String × Node)}
    {otherwise otherwise' : Walk σ (Journal σ κ) Unit}
    (h : List.Forall₂ (Named (Nodes P M hidden S S' splice splice' false)) cases cases')
    (ho : Alongside P M otherwise otherwise') :
    Alongside P M (visitCases S (chronicler S) splice key cases otherwise)
      (Walk.visitCases S' (chronicler S') splice' key cases' otherwise') := by
  induction h with
  | nil => exact ho
  | cons hcase _ ih =>
    obtain ⟨label, hnode⟩ := hcase
    simp only [Walk.visitCases]
    by_cases hk : caseKey label = key
    · rw [if_pos hk, if_pos hk]
      exact hnode.visit
    · rw [if_neg hk, if_neg hk]
      exact ih

end

section

variable {hidden : String → Prop} {S : Setting σ κ} {env : Environment σ}

theorem onHost {act : Context σ → StateM σ α}
    (heq : ∀ s, act (context { S with env } s) = act (context S s))
    (hQ : ∀ s : Scope, s.Within M → Gives Q (act (context S s))) :
    Follows P M Q (onHost S act : Walk σ (Journal σ κ) α) (Walk.onHost { S with env } act) := by
  rintro ⟨host, scope, styles, interceptors, out⟩ u ⟨rfl, rfl, hwithin, hinterceptors, hadmits,
    hpath, hwrites⟩
  unfold after
  rw [exec_onHost, exec_onHost, heq]
  exact ⟨.ok (hQ _ hwithin _), rfl, rfl, hwithin, hinterceptors, hadmits, hpath, hwrites⟩

variable (hS : S.Restated hidden M N env)

include hS

theorem eval {e : Expr} (he : e.Avoids hidden) : Follows P M (·.Within M)
    (eval S e : Walk σ (Journal σ κ) Value) (Walk.eval { S with env } e) :=
  onHost (fun s => hS.eval s he) fun _ hs => e.within_eval (within_context hS.within hs)

theorem truthy {e : Expr} (he : e.Avoids hidden) :
    Alongside P M (truthy S e : Walk σ (Journal σ κ) Bool) (Walk.truthy { S with env } e) :=
  (eval hS he).bind fun _ _ => pure trivial

theorem isOpen {gate : Option Expr} (hg : ∀ e ∈ gate.toList, e.Avoids hidden) :
    Alongside P M (isOpen S gate : Walk σ (Journal σ κ) Bool)
      (Walk.isOpen { S with env } gate) := by
  cases gate with
  | none => exact pure trivial
  | some e => exact truthy hS (hg e (by simp))

theorem isReversed {gate : Option Expr} (hg : ∀ e ∈ gate.toList, e.Avoids hidden) :
    Alongside P M (isReversed S gate : Walk σ (Journal σ κ) Bool)
      (Walk.isReversed { S with env } gate) := by
  cases gate with
  | none => exact pure trivial
  | some e => exact truthy hS (hg e (by simp))

theorem passes {node node' : Node} (h : node.attrs.ifCond = node'.attrs.ifCond)
    (hg : ∀ e ∈ node.attrs.ifCond.toList, e.Avoids hidden) (inChain : Bool) :
    Alongside P M (passes S node inChain : Walk σ (Journal σ κ) Bool)
      (Walk.passes { S with env } node' inChain) := by
  unfold Walk.passes
  rw [← h]
  cases inChain with
  | true => exact pure trivial
  | false => exact isOpen hS hg

theorem evalLets (seen : List String) {lets : List (String × Expr)}
    (hl : ∀ e ∈ lets.map Prod.snd, e.Avoids hidden) :
    Follows P M (fun bindings => ∀ b ∈ bindings, b.2.Within M)
      (evalLets S seen lets : Walk σ (Journal σ κ) (List (String × Value)))
      (Walk.evalLets { S with env } seen lets) := by
  induction lets generalizing seen with
  | nil => exact pure (List.forall_mem_nil _)
  | cons l rest ih =>
    obtain ⟨name, e⟩ := l
    rw [List.map_cons, List.forall_mem_cons] at hl
    have hvalue : Follows P M (fun bindings => ∀ b ∈ bindings, b.2.Within M)
        (do let v ← Walk.eval S e
            let vs ← Walk.evalLets S (name :: seen) rest
            return (name, v) :: vs : Walk σ (Journal σ κ) (List (String × Value)))
        (do let v ← Walk.eval { S with env } e
            let vs ← Walk.evalLets { S with env } (name :: seen) rest
            return (name, v) :: vs) :=
      (eval hS hl.1).bind fun v hv => (ih (name :: seen) hl.2).bind fun vs hvs =>
        pure (List.forall_mem_cons.2 ⟨hv, hvs⟩)
    by_cases h : seen.contains name = true
    · simp only [Walk.evalLets, h, if_true]
      exact (throw (Q := fun _ => True) _).bind fun _ _ => hvalue
    · simp only [Walk.evalLets, h]
      exact hvalue

theorem evalLoopLets {acc : List (String × Value)} (h : ∀ b ∈ acc, b.2.Within M)
    {lets : List (String × Expr)} (hl : ∀ e ∈ lets.map Prod.snd, e.Avoids hidden) :
    Follows P M (fun bindings => ∀ b ∈ bindings, b.2.Within M)
      (evalLoopLets S acc lets : Walk σ (Journal σ κ) (List (String × Value)))
      (Walk.evalLoopLets { S with env } acc lets) := by
  induction lets generalizing acc with
  | nil => exact pure h
  | cons l rest ih =>
    rw [List.map_cons, List.forall_mem_cons] at hl
    exact (eval hS hl.1).bind fun _ hv => ih (within_rebind l.1 hv h) hl.2

theorem bound {lets : List (String × Expr)} (hl : ∀ e ∈ lets.map Prod.snd, e.Avoids hidden)
    (hb : Alongside P M body body') :
    Alongside P M (bound S lets body) (Walk.bound { S with env } lets body') :=
  (evalLets hS [] hl).bind fun _ h => binding h hb

theorem layered {delta : Option StyleDelta}
    (hd : ∀ e ∈ delta.toList.flatMap StyleDelta.exprs, e.Avoids hidden)
    (hb : Alongside P M body body') :
    Alongside P M (layered S delta body) (Walk.layered { S with env } delta body') := by
  cases delta with
  | none => exact hb
  | some d =>
    have hexprs : ∀ e ∈ d.exprs, e.Avoids hidden := by simpa using hd
    have hown : Alongside P M (Walk.onHost S d.evaluate : Walk σ (Journal σ κ) Style)
        (Walk.onHost { S with env } d.evaluate) :=
      onHost (fun s => hS.evaluate s hexprs) fun _ _ => Gives.trivial _
    exact hown.bind fun own _ => (onPath (⟨d.reset, own⟩ :: ·)).bind fun _ _ =>
      hb.ensuring (onPath List.tail)

theorem emit {l : Leaf} (hl : ∀ e ∈ l.exprs, e.Avoids hidden) :
    Alongside P M (emit S (chronicler S) l)
      (Walk.emit { S with env } (chronicler { S with env }) l) := by
  unfold Walk.emit
  cases l with
  | translate key fallback args =>
    have hargs : Alongside P M (Walk.onHost S fun ctx => Expr.evalList ctx args :
        Walk σ (Journal σ κ) (List Value))
        (Walk.onHost { S with env } fun ctx => Expr.evalList ctx args) :=
      onHost (fun s => hS.evalList s hl) fun _ _ => Gives.trivial _
    exact hargs.bind fun vs _ => write S { S with env } _
  | _ => exact write S { S with env } _

variable {separator separator' : Walk σ (Journal σ κ) Unit} {head : LoopHead}

theorem rounds (hl : ∀ e ∈ head.lets.map Prod.snd, e.Avoids hidden)
    (hs : Alongside P M separator separator') (hb : Alongside P M body body') (count index : Nat)
    {items : List Value} (hi : ∀ item ∈ items, item.Within M) :
    Alongside P M (rounds S head separator body count index items)
      (Walk.rounds { S with env } head separator' body' count index items) := by
  induction items generalizing index with
  | nil => exact pure trivial
  | cons item rest ih =>
    rw [List.forall_mem_cons] at hi
    have hround : Alongside P M
        (do Walk.onScope (setRound head.var item index count)
            let bindings ← Walk.evalLoopLets S [] head.lets
            Walk.binding bindings body
            Walk.rounds S head separator body count (index + 1) rest)
        (do Walk.onScope (setRound head.var item index count)
            let bindings ← Walk.evalLoopLets { S with env } [] head.lets
            Walk.binding bindings body'
            Walk.rounds { S with env } head separator' body' count (index + 1) rest) :=
      (onScope fun _ hs => hs.setRound head.var hi.1 index count).bind fun _ _ =>
        (evalLoopLets hS (List.forall_mem_nil _) hl).bind fun _ hbind =>
          (binding hbind hb).bind fun _ _ => ih (index + 1) hi.2
    by_cases h : 0 < index
    · simp only [Walk.rounds, h, if_true]
      exact hs.bind fun _ _ => hround
    · simp only [Walk.rounds, h, if_false]
      exact hround

theorem loop (hh : ∀ e ∈ head.exprs, e.Avoids hidden) (hs : Alongside P M separator separator')
    (hb : Alongside P M body body') :
    Alongside P M (loop S head separator body)
      (Walk.loop { S with env } head separator' body') := by
  simp only [LoopHead.exprs, List.forall_mem_cons, List.forall_mem_append] at hh
  obtain ⟨hiterable, hreversed, hlets⟩ := hh
  refine (eval hS hiterable).bind fun v hv => (isReversed hS hreversed).bind fun backwards _ => ?_
  have hitems : ∀ item ∈ if backwards then (S.coercion.asList v).reverse else S.coercion.asList v,
      item.Within M := by
    intro item hitem
    refine hS.within.asList v hv item ?_
    cases backwards with
    | true => exact List.mem_reverse.1 hitem
    | false => exact hitem
  exact (onScope fun _ hs => hs.openLoop head.var).bind fun _ _ =>
    (rounds hS hlets hs hb _ 0 hitems).ensuring (onScope fun _ hs => hs.closeLoop head.var)

variable {splice splice' : Node → Walk σ (Journal σ κ) Unit}

theorem visitBranches {nodes nodes' : List Node} {otherwise otherwise' : Walk σ (Journal σ κ) Unit}
    (h : List.Forall₂ (Nodes P M hidden S { S with env } splice splice' true) nodes nodes')
    (ho : Alongside P M otherwise otherwise') :
    Alongside P M (visitBranches S (chronicler S) splice nodes otherwise)
      (Walk.visitBranches { S with env } (chronicler { S with env }) splice' nodes'
        otherwise') := by
  induction h with
  | nil => exact ho
  | cons hnode _ ih =>
    obtain ⟨hgate, havoids⟩ := hnode.gate rfl
    simp only [Walk.visitBranches]
    rw [← hgate]
    refine (isOpen hS havoids).bind fun taken _ => ?_
    cases taken with
    | true => exact hnode.visit
    | false => exact ih

theorem interpolation
    (hsplice : ∀ node node', N node node' → Alongside P M (splice node) (splice' node')) {e : Expr}
    (he : e.Avoids hidden ∨ ∃ name, e = .ident name) :
    Alongside P M (Walk.dispatch S (chronicler S) splice (.interpolation e))
      (Walk.dispatch { S with env } (chronicler { S with env }) splice' (.interpolation e)) := by
  intro v u hvu
  obtain ⟨hshown, hhost⟩ := hS.shown_eval hvu.within he v.host
  simp only [Walk.dispatch, Walk.eval]
  unfold after
  rw [exec_bind_ok (exec_onHost S _ v), exec_bind_ok (exec_onHost { S with env } _ u), ← hvu.host,
    ← hvu.scope]
  rcases hv : (e.eval (context S v.scope)).run v.host with ⟨value, host⟩
  rcases hu : (e.eval (context { S with env } v.scope)).run v.host with ⟨value', host'⟩
  rw [hv, hu] at hshown hhost
  obtain rfl : host = host' := hhost
  have hlevel : Level P M { v with host } { u with host, scope := v.scope } :=
    ⟨rfl, rfl, hvu.within, hvu.interceptors, hvu.admits, hvu.path, hvu.writes⟩
  dsimp only
  cases hshown with
  | markup h => exact hsplice _ _ h _ _ hlevel
  | same h =>
    cases value with
    | markup id display node => exact hsplice node node (h id display node rfl) _ _ hlevel
    | _ => exact write S { S with env } _ _ _ hlevel

theorem dispatch {content content' : Content}
    (hsplice : ∀ node node', N node node' → Alongside P M (splice node) (splice' node'))
    (he : ∀ e ∈ content.exprs, e.Avoids hidden)
    (hi : ∀ e, content = .interpolation e → e.Avoids hidden ∨ ∃ name, e = .ident name)
    (h : content.Parallel (Nodes P M hidden S { S with env } splice splice') content') :
    Alongside P M (dispatch S (chronicler S) splice content)
      (Walk.dispatch { S with env } (chronicler { S with env }) splice' content') := by
  cases h with
  | container h => exact visitAll h
  | chain hb hf => exact visitBranches hS hb (visitOption hf)
  | matching input hc hf =>
    simp only [Walk.dispatch]
    refine (eval hS (he input (by simp [Content.exprs]))).bind fun v _ => ?_
    cases v.isNull with
    | true => exact visitOption hf
    | false => exact visitCases _ hc (visitOption hf)
  | loop head hs hb => exact loop hS he (visitOption hs) (visitAll hb)
  | lineBreak => exact write S { S with env } _
  | interpolation e => exact interpolation hS hsplice (hi e rfl)
  | leaf l => exact emit hS he

end

end Follows

end Walk

end RichText
