import RichText.Proofs.Walk.Attendance
import RichText.Proofs.Walk.Static

namespace RichText

/-- A tree without interceptors that mentions hidden names only to interpolate what they stand
for. -/
structure Node.Tidy (hidden : String → Prop) (node : Node) : Prop where
  bare : node.bare = node
  discreet : node.Discreet hidden

theorem Node.Tidy.parts {hidden : String → Prop} {node : Node} (h : node.Tidy hidden) :
    ∀ part ∈ node.content.parts, part.1.Tidy hidden := by
  obtain ⟨attrs, content⟩ := node
  exact fun part hp => ⟨(Node.bare_parts h.bare).2 part hp, h.discreet.parts part hp⟩

/-- Environments that differ in nothing but the hidden names. Where those stand for markup in the
first, they may do so in the second for markup in which some conditionals are simpler. -/
structure Environment.Simplified {σ : Type} (hidden : String → Prop) (env env' : Environment σ) :
    Prop where
  known : ∀ name, ¬ hidden name → env' name = env name
  shown : ∀ name, hidden name →
    Agrees (Option.Rel (Value.Shown (Node.Simplified false))) (env name) (env' name)

theorem Node.simplified_refl (inChain : Bool) (node : Node) : node.Simplified inChain node :=
  .here (.inl rfl)

theorem Environment.Simplified.restated {σ κ : Type} {hidden : String → Prop} {S : Setting σ κ}
    {env : Environment σ} (h : S.env.Simplified hidden env)
    (hS : S.Within fun m => m.2.Tidy hidden) :
    S.Restated hidden (fun m => m.2.Tidy hidden)
      (fun node node' => node.Tidy hidden ∧ node.Simplified false node') env where
  within := hS
  refl m hm := ⟨hm, .here (.inl rfl)⟩
  known := h.known
  shown name hname host := by
    obtain ⟨hvalue, hhost⟩ := h.shown name hname host
    refine ⟨?_, hhost⟩
    have hwithin := hS.env name host
    generalize ((S.env name).run host).1 = v at hvalue hwithin
    generalize ((env name).run host).1 = v' at hvalue
    cases hvalue with
    | none => exact .none
    | some hshown =>
      have hv := hwithin _ rfl
      refine .some ?_
      cases hshown with
      | same => exact .same fun id display node heq =>
          ⟨Value.within_markup.1 (heq ▸ hv), node.simplified_refl false⟩
      | markup hnode => exact .markup ⟨Value.within_markup.1 hv, hnode⟩

namespace Walk

variable {σ κ ω α : Type}

/-! ### Around a node without an interceptor -/

section

variable {S : Setting σ κ} {content : Content} {m : Walk σ (Journal σ κ) Unit}
  {v : WalkState σ (Journal σ κ)}

theorem exec_note (e : Event σ κ) :
    exec (note e) v = (.ok (), { v with out := v.out.log [e] }) := rfl

theorem exec_entered {node : Node} {inChain passed : Bool}
    (h : exec (passes S node inChain) v = (.ok passed, v)) :
    exec (entered S node inChain m) v =
      exec (if passed then bound S node.attrs.lets (layered S node.attrs.style m) else pure ())
        { v with out := v.out.log [.ifGate node passed] } := by
  rw [entered, exec_bind_ok h, exec_bind_ok (exec_note _)]

theorem exec_observed_idle {node : Node} {inChain opened : Bool}
    (h : exec (isOpen S node.attrs.useWhen) v = (.ok opened, v))
    (hn : node.attrs.interceptor = none) (hv : v.interceptors.active = [])
    (hm : Restores Journal.path m) :
    exec (observed S node inChain m) v =
      exec (if opened then ensuring (entered S node inChain m) (note (.left node)) else pure ())
        { v with out := v.out.log [.useGate node opened] } := by
  rw [observed, exec_bind_ok h, exec_bind_ok (exec_note _)]
  cases opened with
  | false => rfl
  | true =>
    let u : WalkState σ (Journal σ κ) := { v with out := v.out.log [.useGate node true] }
    have hafter := Restores.entered S node inChain hm u
    have hidle : (after (entered S node inChain m) u).interceptors.active = [] :=
      (congrArg InterceptorStack.active hafter.interceptors).trans hv
    have hu : u.interceptors.active = [] := hv
    exact exec_ensuring_congr
      (exec_attended_idle S hn rfl (exec_heedAll_idle S node hu) hidle) _

theorem exec_binding_nil (hm : Restores Journal.path m) : exec (binding [] m) v = exec m v := by
  have hscope := (hm v).scope
  have hafter : after (binding [] m) v = after m v := by
    have hself : (after m v).scope.rollback v.scope.depth = (after m v).scope := by
      rw [hscope]
      exact Scope.rollback_of_frames (List.nil_append _).symm
    rw [after_binding]
    exact congrArg (fun s => { after m v with scope := s }) hself
  exact Prod.ext (Total.result_binding [] m v) hafter

theorem exec_observed_plain (hv : v.interceptors.active = []) (hm : Restores Journal.path m)
    (inChain : Bool) :
    exec (observed S (.mk {} content) inChain m) v =
      exec (ensuring m (note (.left (.mk {} content)))) { v with
        out := v.out.log [.useGate (.mk {} content) true, .ifGate (.mk {} content) true] } := by
  have hpasses : ∀ w : WalkState σ (Journal σ κ),
      exec (passes S (.mk {} content) inChain) w = (.ok true, w) := by
    intro w
    cases inChain <;> rfl
  have hopen : exec (isOpen S (Node.mk {} content).attrs.useWhen) v = (.ok true, v) := rfl
  have hentered : ∀ w : WalkState σ (Journal σ κ),
      exec (entered S (.mk {} content) inChain m) w =
        exec m { w with out := w.out.log [.ifGate (.mk {} content) true] } := by
    intro w
    rw [exec_entered (hpasses w), if_pos rfl]
    exact exec_binding_nil hm
  rw [exec_observed_idle hopen rfl hv hm, if_pos rfl, exec_ensuring_note, exec_ensuring_note, after,
    after, hentered, Journal.log_log]
  rfl

theorem exec_isOpen_of_static (hstatic : S.Static) (gate : Option Expr) (scope : Scope) :
    ∃ opened, ∀ w : WalkState σ (Journal σ κ), w.scope = scope →
      exec (isOpen S gate) w = (.ok opened, w) := by
  cases gate with
  | none => exact ⟨true, fun _ _ => rfl⟩
  | some e =>
    obtain ⟨value, hvalue⟩ := e.steady_eval (steady_context hstatic scope)
    refine ⟨S.coercion.asBool value, fun w hw => ?_⟩
    subst hw
    have heval : exec (eval S e) w = (.ok value, w) := by
      rw [eval, exec_onHost, hvalue]
    exact exec_bind_ok heval _

section

variable {node : Node} {opened : Bool} (h : exec (isOpen S node.attrs.useWhen) v = (.ok opened, v))
  (hn : node.attrs.interceptor = none) (hv : v.interceptors.active = [])
  (hm : Restores Journal.path m)

include h hn hv hm

theorem exec_observed_of_passes (hpasses : ∀ w : WalkState σ (Journal σ κ), w.scope = v.scope →
      exec (passes S node false) w = (.ok true, w)) :
    exec (observed S node false m) v = exec (observed S node true m) v := by
  rw [exec_observed_idle h hn hv hm, exec_observed_idle h hn hv hm]
  cases opened with
  | false => rfl
  | true =>
    exact exec_ensuring_congr
      (exec_entered (hpasses { v with out := v.out.log [.useGate node true] } rfl)) _

theorem exec_observed_of_not_passes (hpasses : ∀ w : WalkState σ (Journal σ κ), w.scope = v.scope →
      exec (passes S node false) w = (.ok false, w)) :
    ∃ es : List (Event σ κ), (∀ e ∈ es, ∀ path x, e ≠ .wrote path x) ∧
      exec (observed S node false m) v = (.ok (), { v with out := v.out.log es }) := by
  rw [exec_observed_idle h hn hv hm]
  cases opened with
  | false => exact ⟨[.useGate node false], by simp, rfl⟩
  | true =>
    refine ⟨[.useGate node true, .ifGate node false, .left node], by simp, ?_⟩
    have hentered :=
      exec_entered (m := m) (hpasses { v with out := v.out.log [.useGate node true] } rfl)
    rw [if_pos rfl, exec_ensuring_note, after, hentered]
    exact congrArg (fun j => (_, { v with out := j }))
      ((congrArg (Journal.log · [.left node]) (Journal.log_log ..)).trans (Journal.log_log ..))

end

end

namespace Follows

variable {M : Nat × Node → Prop} {N : Node → Node → Prop} {hidden : String → Prop}
  {S : Setting σ κ} {env : Environment σ} {content : Content} {m n : Walk σ (Journal σ κ) Unit}

theorem plain (hm : Restores Journal.path m) (h : Alongside Concur.Idle M m n) (inChain : Bool) :
    Alongside Concur.Idle M (Walk.observed S (.mk {} content) inChain m) n := by
  intro v u hvu
  let begun : List (Event σ κ) := [.useGate (.mk {} content) true, .ifGate (.mk {} content) true]
  obtain ⟨hresult, hstate⟩ := h { v with out := v.out.log begun } u
    (level_log_left hvu (by simp [begun]))
  unfold after at hstate ⊢
  rw [exec_observed_plain hvu.admits hm inChain, exec_ensuring_note]
  exact ⟨hresult, level_log_left hstate (by simp)⟩

theorem gate (hstatic : S.Static) {node : Node} (hn : node.attrs.interceptor = none)
    (hm : Restores Journal.path m)
    (h : Alongside Concur.Idle M (Walk.observed S node false m) n) :
    Alongside Concur.Idle M (do
      if ← Walk.isOpen S node.attrs.ifCond then Walk.observed S node true m) n := by
  intro v u hvu
  -- both gates answer the same before the node and in it, since no bindings come between
  obtain ⟨opened, hopened⟩ := exec_isOpen_of_static (κ := κ) hstatic node.attrs.useWhen v.scope
  obtain ⟨passed, hpassed⟩ := exec_isOpen_of_static (κ := κ) hstatic node.attrs.ifCond v.scope
  have hfollows := h v u hvu
  unfold after at hfollows ⊢
  rw [exec_bind_ok (hpassed v rfl)]
  cases passed with
  | true =>
    rw [if_pos rfl, ← exec_observed_of_passes (hopened v rfl) hn hvu.admits hm hpassed]
    exact hfollows
  | false =>
    obtain ⟨es, hes, hskipped⟩ :=
      exec_observed_of_not_passes (hopened v rfl) hn hvu.admits hm hpassed
    rw [hskipped] at hfollows
    obtain ⟨hresult, hstate⟩ := hfollows
    refine ⟨hresult, hstate.host, hstate.scope, hstate.within, hstate.interceptors, hstate.admits,
      hstate.path, fun base => ?_⟩
    rw [← hstate.writes, Journal.writes_log hes]
    rfl

section

variable {K : Node → Prop} {splice splice' : Node → Walk σ (Journal σ κ) Unit}
  (hS : S.Restated hidden M N env) (hstatic : S.Static)
  (hsplice : ∀ node node', N node node' → Alongside Concur.Idle M (splice node) (splice' node'))
  (hrestores : ∀ node, Restores Journal.path (splice node))

section

variable (hK : ∀ {node}, K node → node.Discreet hidden ∧ ∀ part ∈ node.content.parts, K part.1)
  (hself : ∀ {node : Node}, K node → ∀ inChain, Alongside Concur.Idle M
    (visitWith S (chronicler S) splice node inChain)
    (visitWith { S with env } (chronicler { S with env }) splice' node inChain))

include hS hstatic hsplice hrestores hK hself

/-- A conditional is walked as its simpler form is. -/
theorem visitWith_simplifies {inChain : Bool} {node node' : Node} (hk : K node)
    (h : node.Simplifies inChain node') :
    Alongside Concur.Idle M (visitWith S (chronicler S) splice node inChain)
      (visitWith { S with env } (chronicler { S with env }) splice' node' inChain) := by
  have hdispatch : ∀ {attrs content}, K (.mk attrs content) → Alongside Concur.Idle M
      (Walk.dispatch S (chronicler S) splice content)
      (Walk.dispatch { S with env } (chronicler { S with env }) splice' content) := by
    intro attrs content hk
    exact dispatch_self hS hsplice (hK hk).1 fun part hp => hself ((hK hk).2 part hp) part.2
  have hdispatched : ∀ content, Restores Journal.path
      (Walk.dispatch S (chronicler S) splice content) :=
    Restores.dispatch S (chronicler S) (Restores.chronicler_write S)
      (fun node inChain _ => Restores.observed S node inChain) hrestores
  cases h with
  | @fallback _ attrs branch branches fallback hn =>
    have hbranch : K branch := (hK hk).2 (branch, true) (by simp [Node.content, Content.parts])
    have hinner : K (.mk {} (.chain branches fallback)) :=
      (hK hk).2 (_, true) (by simp [Node.content, Content.parts])
    refine observed_idle hS (hK hk).1.attrs inChain hn
      ((isOpen hS (hK hbranch).1.ifCond).bind fun taken _ => ?_)
    cases taken with
    | true => exact hself hbranch true
    -- the rest of the chain has become a node of its own, which has no attributes
    | false => exact plain (hdispatched _) (hdispatch hinner) true
  | @gate attrs content hn =>
    have hbranch : K (.mk attrs content) :=
      (hK hk).2 (_, true) (by simp [Node.content, Content.parts])
    refine plain (hdispatched _) ?_ false
    exact gate hstatic hn (hdispatched content)
      (observed_idle hS (hK hbranch).1.attrs false hn (hdispatch hbranch))

theorem visitWith_simplified {inChain : Bool} {node node' : Node} (hk : K node)
    (h : node.Simplified inChain node') :
    Alongside Concur.Idle M (visitWith S (chronicler S) splice node inChain)
      (visitWith { S with env } (chronicler { S with env }) splice' node' inChain) := by
  induction node using Node.induct generalizing inChain node' with
  | h attrs content ih =>
    obtain ⟨hdiscreet, hparts⟩ := hK hk
    cases h with
    | here h =>
      obtain rfl | h := h
      · exact hself hk inChain
      · exact visitWith_simplifies hS hstatic hsplice hrestores hK hself hk h
    | within hn hc =>
      have hnodes : content.Parallel
          (Nodes Concur.Idle M hidden S { S with env } splice splice') _ :=
        hc.imp fun part hp node' h =>
          ⟨fun hchain => ⟨Node.Simplified.ifCond (hchain ▸ h), (hK (hparts part hp)).1.ifCond⟩,
            ih part hp (hparts part hp) h⟩
      obtain ⟨ha, he, hi, -⟩ := hdiscreet
      exact observed_idle hS ha inChain hn (dispatch hS hsplice he hi hnodes)

end

include hS hstatic hsplice hrestores in
theorem visitWith_tidy {inChain : Bool} {node node' : Node} (hk : node.Tidy hidden)
    (h : node.Simplified inChain node') :
    Alongside Concur.Idle M (visitWith S (chronicler S) splice node inChain)
      (visitWith { S with env } (chronicler { S with env }) splice' node' inChain) := by
  have hK : ∀ {node : Node}, node.Tidy hidden →
      node.Discreet hidden ∧ ∀ part ∈ node.content.parts, part.1.Tidy hidden :=
    fun h => ⟨h.discreet, h.parts⟩
  refine visitWith_simplified hS hstatic hsplice hrestores hK (fun hk inChain => ?_) hk h
  refine visitWith_self hS hsplice hK (fun {node} inChain _ _ hk h => ?_) hk inChain
  obtain ⟨attrs, content⟩ := node
  exact observed_idle hS hk.discreet.attrs inChain (Node.bare_parts hk.bare).1 h

end

/-- In one environment markup may carry interceptors where it is spliced in. -/
theorem visit_simplified (hstatic : S.Static) (depth : Nat) {node node' : Node} {inChain : Bool}
    (h : node.Simplified inChain node') :
    Alongside Concur.Idle (fun _ => True) (visit S (chronicler S) depth node inChain)
      (visit S (chronicler S) depth node' inChain) := by
  have hvisit : ∀ splice : Node → Walk σ (Journal σ κ) Unit,
      (∀ node, Alongside (fun _ => True) (fun _ => True) (splice node) (splice node)) →
      (∀ node, Restores Journal.path (splice node)) →
      Alongside Concur.Idle (fun _ => True) (visitWith S (chronicler S) splice node inChain)
        (visitWith S (chronicler S) splice node' inChain) := by
    intro splice hsplice hrestores
    -- what is spliced in may register interceptors of its own, but they are gone when it is done
    have hself : ∀ node inChain, Alongside Concur.Idle (fun _ => True)
        (visitWith S (chronicler S) splice node inChain)
        (visitWith S (chronicler S) splice node inChain) :=
      fun node inChain => (visitWith_same hsplice node inChain).of_restores
        (Restores.visitWith S (chronicler S) (Restores.chronicler_write S)
          (fun node inChain _ => Restores.observed S node inChain) hrestores node inChain)
    exact visitWith_simplified (K := fun _ => True) S.restated_self hstatic
      (fun node _ h => h ▸ (hsplice node).of_restores (hrestores node)) hrestores
      (fun _ => ⟨Node.discreet_of_none (fun _ h => h) _, fun _ _ => trivial⟩)
      (fun _ => hself _) trivial h
  cases depth with
  | zero => exact hvisit _ (fun _ => throw _) fun _ => (Restores.congruence S).throw _
  | succ depth =>
    exact hvisit _ (fun node => visit_same S depth node false)
      fun node => Restores.visit_chronicler S depth node false

/-- Where nothing carries an interceptor, the environment may stand for markup with simpler
conditionals. -/
theorem visit_restated (hstatic : S.Static) (hS : S.Within fun m => m.2.Tidy hidden)
    (henv : S.env.Simplified hidden env) (depth : Nat) {node node' : Node} {inChain : Bool}
    (hk : node.Tidy hidden) (h : node.Simplified inChain node') :
    Alongside Concur.Idle (fun m => m.2.Tidy hidden) (visit S (chronicler S) depth node inChain)
      (visit { S with env } (chronicler { S with env }) depth node' inChain) := by
  have hrestated := henv.restated hS
  induction depth generalizing node node' inChain with
  | zero =>
    exact visitWith_tidy hrestated hstatic (fun _ _ _ => throw _)
      (fun _ => (Restores.congruence S).throw _) hk h
  | succ depth ih =>
    exact visitWith_tidy hrestated hstatic (fun _ _ h => ih h.1 h.2)
      (fun node => Restores.visit_chronicler S depth node false) hk h

end Follows

/-! ### Renders -/

section

variable {ω : Type} (S : Setting σ κ) (f : Node → Node)

/-- Walks a node, with `f node` for a tree `node` that an interpolation brings in. -/
def visitVia (V : Visitor σ κ ω) : Nat → Node → Bool → Walk σ ω Unit
  | 0 => visitWith S V fun _ => throw .spliceDepth
  | depth + 1 => visitWith S V fun node => visitVia V depth (f node) false

def renderVia (depth : Nat) (root : Node) (host : σ) : Except RenderError (List κ) × σ :=
  let (result, w) := ((visitVia S f (renderer S) depth root false).run).run { host, out := {} }
  (result.map fun _ => w.out.finish S.factory S.slot, w.host)

theorem InStep.visitVia (depth : Nat) (node : Node) (inChain : Bool) :
    InStep S (visitVia S f (renderer S) depth node inChain)
      (visitVia S f (chronicler S) depth node inChain) := by
  have hvisit := (scopeCongruence S).visitWith (renderer S) (chronicler S) (fun x _ => write x)
    (scopeCongruence S).loop (fun node inChain _ _ => surround node inChain)
  induction depth generalizing node inChain with
  | zero => exact hvisit _ _ (fun _ => (scopeCongruence S).throw _) node inChain
  | succ depth ih => exact hvisit _ _ (fun node => ih (f node) false) node inChain

end

variable {S : Setting σ κ}

theorem Follows.visitVia (hstatic : S.Static) (hS : S.Within fun m => m.2.bare = m.2)
    {f : Node → Node} (hf : ∀ node : Node, node.Simplified false (f node)) (depth : Nat)
    {node node' : Node} {inChain : Bool} (hbare : node.bare = node)
    (h : node.Simplified inChain node') :
    Alongside Concur.Idle (fun m => m.2.bare = m.2) (visit S (chronicler S) depth node inChain)
      (visitVia S f (chronicler S) depth node' inChain) := by
  have hdiscreet : ∀ node : Node, node.Discreet fun _ => False :=
    Node.discreet_of_none fun _ h => h
  have hrestated : S.Restated (fun _ => False) (fun m => m.2.bare = m.2)
      (fun node node' => node = node' ∧ node.bare = node) S.env :=
    ⟨hS, fun _ hm => ⟨rfl, hm⟩, fun _ _ => rfl, fun _ h => h.elim⟩
  induction depth generalizing node node' inChain with
  | zero =>
    exact visitWith_tidy hrestated hstatic (fun _ _ _ => throw _)
      (fun _ => (Restores.congruence S).throw _) ⟨hbare, hdiscreet node⟩ h
  | succ depth ih =>
    refine visitWith_tidy hrestated hstatic ?_
      (fun node => Restores.visit_chronicler S depth node false) ⟨hbare, hdiscreet node⟩ h
    rintro node _ ⟨rfl, hbare⟩
    exact ih hbare (hf node)

theorem Ends.eq {Q : α → Prop} {r r' : Except RenderError α} (h : Ends Q r r') : r = r' := by
  cases h <;> rfl

theorem finish_eq_of_follows {M : Nat × Node → Prop} {env : Environment σ}
    {m m' : Walk σ (Draft κ) Unit} {n n' : Walk σ (Journal σ κ) Unit} (hm : InStep S m n)
    (hm' : InStep { S with env } m' n') (h : Alongside Concur.Idle M n n') (host : σ) :
    ((exec m { host, out := {} }).1.map fun _ =>
        (after m { host, out := {} }).out.finish S.factory S.slot,
      (after m { host, out := {} }).host) =
    ((exec m' { host, out := {} }).1.map fun _ =>
        (after m' { host, out := {} }).out.finish S.factory S.slot,
      (after m' { host, out := {} }).host) := by
  obtain ⟨hresult, hhost, hentries⟩ := hm.finish host
  obtain ⟨hresult', hhost', hentries'⟩ := hm'.finish host
  obtain ⟨hend, hstate⟩ := h { host, out := {} } { host, out := {} }
    ⟨rfl, rfl, .empty, rfl, rfl, rfl, fun _ => rfl⟩
  -- the renders are compared by way of their chronicles, since their frames differ
  rw [hresult, hresult', hend.eq, hhost, hhost', hstate.host, hentries, hentries', hstate.writes]

/-- Conditionals can be written in simpler form without changing what comes of a render. They can be
so in the tree. They can also, where nothing carries an interceptor, in the markup that is spliced
into it: in the place where it is spliced in, or in the environment, if the tree and the markup do
no more with the names that stand for it than splice it in. -/
theorem render_simplified (hstatic : S.Static) {root root' : Node}
    (h : root.Simplified false root') (depth : Nat) (host : σ) :
    render S depth root host = render S depth root' host ∧
      (∀ f : Node → Node, (∀ node : Node, node.Simplified false (f node)) → root.bare = root →
        (S.Within fun m => m.2.bare = m.2) →
        render S depth root host = renderVia S f depth root' host) ∧
      ∀ (hidden : String → Prop) (env : Environment σ), root.Tidy hidden →
        (S.Within fun m => m.2.Tidy hidden) → S.env.Simplified hidden env →
        render S depth root host = render { S with env } depth root' host :=
  ⟨finish_eq_of_follows (InStep.visit depth root false) (InStep.visit depth root' false)
      (Follows.visit_simplified hstatic depth h) host,
    fun f hf hbare hS =>
      finish_eq_of_follows (InStep.visit depth root false) (InStep.visitVia S f depth root' false)
        (Follows.visitVia hstatic hS hf depth hbare h) host,
    fun _ _ hroot hS henv =>
      finish_eq_of_follows (InStep.visit depth root false) (InStep.visit depth root' false)
        (Follows.visit_restated hstatic hS henv depth hroot h) host⟩

def unwrapped : Node → Node
  | .mk ⟨none, none, [], none, none⟩ (.chain [.mk attrs content] none) =>
    if attrs.interceptor.isNone then .mk attrs content
    else .mk {} (.chain [.mk attrs content] none)
  | node => node

theorem simplified_unwrapped (node : Node) : node.Simplified false (unwrapped node) := by
  unfold unwrapped
  split
  · split
    · next h => exact .here (.inr (.gate (Option.isNone_iff_eq_none.1 h)))
    · exact .here (.inl rfl)
  · exact .here (.inl rfl)

def hinted (shown : Bool) (s : String) : Node :=
  .mk { ifCond := some (.atom (.bool shown)) } (.leaf (.text s))

/-- Some conditional, and what the environment has under the name `more`. -/
def hints (conditional : Node) : Node :=
  .mk {} (.container [conditional, .mk {} (.interpolation (.ident "more"))])

def hinting (display : String) (more : Node) : Setting Unit Component where
  env name := pure (if name = "more" then some (.markup 0 display more) else none)
  coercion := {}
  fields := {}
  interceptors label := { label, before := fun _ _ => pure .proceed }
  factory := Component.factory
  slot := .chat

theorem discreet_hinted {hidden : String → Prop} (shown : Bool) (s : String) :
    (hinted shown s).Discreet hidden := by
  refine .mk (List.forall_mem_singleton.2 ?_) (List.forall_mem_nil _) nofun (List.forall_mem_nil _)
  exact List.forall_mem_nil _

theorem discreet_chain {hidden : String → Prop} {branches : List Node} {fallback : Option Node}
    (h : ∀ part ∈ (Content.chain branches fallback).parts, part.1.Discreet hidden) :
    (Node.mk {} (.chain branches fallback)).Discreet hidden :=
  .mk (List.forall_mem_nil _) (List.forall_mem_nil _) nofun h

theorem within_hinting {M : Nat × Node → Prop} {more : Node} (h : M (0, more)) (display : String) :
    (hinting display more).Within M where
  env name := by
    refine .pure fun a ha => ?_
    split at ha
    · cases ha
      exact Value.within_markup.2 h
    · cases ha
  asList _ := Value.within_asList
  read target field _ := by
    change Gives _ (({} : FieldTable Unit).read target field)
    rw [FieldTable.read_empty]
    exact .pure (Value.within_of_nil rfl)

theorem render_simplified_hints :
    let nested : Node := .mk {} (.chain [hinted false "a"]
      (some (.mk {} (.chain [hinted true "b"] (some (hinted true "c"))))))
    let flat : Node := .mk {} (.chain [hinted false "a", hinted true "b"] (some (hinted true "c")))
    let more : Node := .mk {} (.chain [hinted true "d"] none)
    let S := hinting "chain" more
    let S' := hinting "text" (hinted true "d")
    let hidden := fun name => name = "more"
    S.Static ∧ (hints nested).Simplified false (hints flat) ∧ (hints nested).Tidy hidden ∧
      (S.Within fun m => m.2.Tidy hidden) ∧ S.env.Simplified hidden S'.env ∧
      render S 1 (hints nested) () = render S 1 (hints flat) () ∧
      render S 1 (hints nested) () = renderVia S unwrapped 1 (hints flat) () ∧
      render S 1 (hints nested) () = render S' 1 (hints flat) () ∧
      (render S' 1 (hints flat) ()).1.map (·.map Component.plainText) = .ok ["bd"] := by
  intro nested flat more S S' hidden
  have hstatic : S.Static := ⟨⟨_, fun _ _ => rfl⟩, FieldTable.static_empty⟩
  have hroot : (hints nested).Simplified false (hints flat) :=
    .within rfl (.container (.cons (.here (.inr (.fallback rfl)))
      (.cons (.here (.inl rfl)) .nil)))
  have hinner : (Node.mk {} (.chain [hinted true "b"] (some (hinted true "c")))).Discreet hidden :=
    discreet_chain (List.forall_mem_cons.2
      ⟨discreet_hinted true "b", List.forall_mem_singleton.2 (discreet_hinted true "c")⟩)
  have hnested : nested.Discreet hidden :=
    discreet_chain (List.forall_mem_cons.2
      ⟨discreet_hinted false "a", List.forall_mem_singleton.2 hinner⟩)
  have hshows : (Node.mk {} (.interpolation (.ident "more"))).Discreet hidden :=
    .mk (List.forall_mem_nil _) (List.forall_mem_nil _)
      (fun e he => .inr ⟨"more", (Content.interpolation.inj he).symm⟩) (List.forall_mem_nil _)
  have htidy : (hints nested).Tidy hidden :=
    ⟨rfl, .mk (List.forall_mem_nil _) (List.forall_mem_nil _) nofun
      (List.forall_mem_cons.2 ⟨hnested, List.forall_mem_singleton.2 hshows⟩)⟩
  have hmore : more.Tidy hidden :=
    ⟨rfl, discreet_chain (List.forall_mem_singleton.2 (discreet_hinted true "d"))⟩
  have hwithin : S.Within fun m => m.2.Tidy hidden := within_hinting hmore "chain"
  have henv : S.env.Simplified hidden S'.env := by
    refine ⟨fun name hname => ?_, ?_⟩
    · change pure (if name = "more" then _ else none) = pure (if name = "more" then _ else none)
      rw [if_neg hname, if_neg hname]
    · rintro name rfl host
      exact ⟨.some (.markup (.here (.inr (.gate rfl)))), rfl⟩
  have hbare : S.Within fun m => m.2.bare = m.2 := within_hinting hmore.bare "chain"
  obtain ⟨htree, hvia, hrestated⟩ := render_simplified hstatic hroot 1 ()
  exact ⟨hstatic, hroot, htidy, hwithin, henv, htree,
    hvia unwrapped simplified_unwrapped rfl hbare, hrestated hidden _ htidy hwithin henv, by cbv⟩

end Walk

end RichText
