import RichText.Proofs.Markup.Alike
import RichText.Proofs.Walk.Exec

namespace RichText

namespace Walk

variable {σ κ ω ω' α β : Type}

/-- What the factory of a setting makes of a leaf, and what can be written besides. -/
inductive Emitted (S : Setting σ κ) : Write κ → Prop where
  | text (s : String) : Emitted S (.text s)
  | lineBreak : Emitted S .lineBreak
  | keybind (key : String) : Emitted S (.component (S.factory.keybind key))
  | translate (key : String) (fallback : Option String) (args : List String) :
    Emitted S (.component (S.factory.translate key fallback (args.map S.factory.text)))
  | score (name objective : String) : Emitted S (.component (S.factory.score name objective))
  | selector (pattern : String) (separator : Option String) :
    Emitted S (.component (S.factory.selector pattern separator))
  | data (path : String) (source : DataSource) (interpret : Bool) (separator : Option String) :
    Emitted S (.component (S.factory.data path source interpret separator))

/-- A relation between walks in two settings, which may write to different things, of which the
evaluation of expressions does not notice. -/
structure Likeness (S S' : Setting σ κ) (R : ∀ α : Type, Walk σ ω α → Walk σ ω' α → Prop) :
    Prop where
  coercion : S'.coercion = S.coercion
  factory : S'.factory = S.factory
  pure : ∀ {α : Type} (a : α), R α (pure a) (pure a)
  throw : ∀ {α : Type} (e : RenderError), R α (throw e) (throw e)
  eval : ∀ e : Expr, R Value (eval S e) (eval S' e)
  evalAll : ∀ es : List Expr, R (List Value) (onHost S fun ctx => Expr.evalList ctx es)
    (onHost S' fun ctx => Expr.evalList ctx es)
  bind : ∀ {α β : Type} {m : Walk σ ω α} {n : Walk σ ω' α} {f : α → Walk σ ω β}
    {g : α → Walk σ ω' β}, R α m n → (∀ a, Yields m a → R β (f a) (g a)) →
    R β (m >>= f) (n >>= g)

namespace Likeness

variable {S S' : Setting σ κ} {R : ∀ α : Type, Walk σ ω α → Walk σ ω' α → Prop}

theorem truthy (hR : Likeness S S' R) (e : Expr) : R Bool (Walk.truthy S e) (Walk.truthy S' e) := by
  unfold Walk.truthy
  rw [hR.coercion]
  exact hR.bind (hR.eval e) fun _ _ => hR.pure _

theorem isOpen (hR : Likeness S S' R) (gate : Option Expr) :
    R Bool (Walk.isOpen S gate) (Walk.isOpen S' gate) := by
  cases gate with
  | none => exact hR.pure true
  | some e => exact hR.truthy e

theorem isReversed (hR : Likeness S S' R) (gate : Option Expr) :
    R Bool (Walk.isReversed S gate) (Walk.isReversed S' gate) := by
  cases gate with
  | none => exact hR.pure false
  | some e => exact hR.truthy e

theorem passes (hR : Likeness S S' R) {node node' : Node}
    (h : node.attrs.ifCond = node'.attrs.ifCond) (inChain : Bool) :
    R Bool (Walk.passes S node inChain) (Walk.passes S' node' inChain) := by
  unfold Walk.passes
  rw [h]
  cases inChain with
  | true => exact hR.pure true
  | false => exact hR.isOpen _

theorem evalLets (hR : Likeness S S' R) (seen : List String) (lets : List (String × Expr)) :
    R _ (Walk.evalLets S seen lets) (Walk.evalLets S' seen lets) := by
  induction lets generalizing seen with
  | nil => exact hR.pure []
  | cons l rest ih =>
    obtain ⟨name, e⟩ := l
    by_cases h : seen.contains name = true
    · simp only [Walk.evalLets, h, if_true]
      exact hR.bind (hR.throw _) fun _ _ => hR.bind (hR.eval e) fun v _ =>
        hR.bind (ih (name :: seen)) fun vs _ => hR.pure _
    · simp only [Walk.evalLets, h]
      exact hR.bind (hR.eval e) fun v _ => hR.bind (ih (name :: seen)) fun vs _ => hR.pure _

theorem evalLoopLets (hR : Likeness S S' R) (acc : List (String × Value))
    (lets : List (String × Expr)) :
    R _ (Walk.evalLoopLets S acc lets) (Walk.evalLoopLets S' acc lets) := by
  induction lets generalizing acc with
  | nil => exact hR.pure acc
  | cons l rest ih => exact hR.bind (hR.eval l.2) fun v _ => ih (rebind l.1 v acc)

theorem rounds (hR : Likeness S S' R) {head head' : LoopHead} {count : Nat}
    (separator body : Walk σ ω Unit) (separator' body' : Walk σ ω' Unit)
    (hset : ∀ item index,
      R Unit (onScope (setRound head.var item index count))
        (onScope (setRound head'.var item index count)))
    (hsep : R Unit separator separator')
    (hround : R Unit (Walk.evalLoopLets S [] head.lets >>= (binding · body))
      (Walk.evalLoopLets S' [] head'.lets >>= (binding · body')))
    (index : Nat) (items : List Value) :
    R Unit (Walk.rounds S head separator body count index items)
      (Walk.rounds S' head' separator' body' count index items) := by
  induction items generalizing index with
  | nil => exact hR.pure ()
  | cons item rest ih =>
    have hrest := hR.bind hround fun _ _ => ih (index + 1)
    rw [bind_assoc, bind_assoc] at hrest
    have hitem := hR.bind (hset item index) fun _ _ => hrest
    by_cases h : 0 < index
    · simp only [Walk.rounds, h, if_true]
      exact hR.bind hsep fun _ _ => hitem
    · simp only [Walk.rounds, h, if_false]
      exact hitem

theorem emit (hR : Likeness S S' R) (V : Visitor σ κ ω) (V' : Visitor σ κ ω')
    (hw : ∀ x, Emitted S x → R Unit (V.write x) (V'.write x)) (l : Leaf) :
    R Unit (Walk.emit S V l) (Walk.emit S' V' l) := by
  unfold Walk.emit
  rw [hR.factory, hR.coercion]
  cases l with
  | text s => exact hw _ (.text s)
  | keybind key => exact hw _ (.keybind key)
  | translate key fallback args =>
    refine hR.bind (hR.evalAll args) fun vs _ => hw _ ?_
    have htranslate := Emitted.translate (S := S) key fallback (vs.map fun v => S.coercion.asStr v)
    rwa [List.map_map] at htranslate
  | score name objective => exact hw _ (.score name objective)
  | selector pattern separator => exact hw _ (.selector pattern separator)
  | data path source interpret separator => exact hw _ (.data path source interpret separator)

variable {V : Visitor σ κ ω} {V' : Visitor σ κ ω'} {splice : Node → Walk σ ω Unit}
  {splice' : Node → Walk σ ω' Unit} {N : Node → Node → Prop} {H : LoopHead → LoopHead → Prop}

theorem visitAll (hR : Likeness S S' R) {nodes nodes' : List Node}
    (hn : List.Forall₂ N nodes nodes')
    (h : ∀ node ∈ nodes, ∀ node', N node node' →
      R Unit (visitWith S V splice node false) (visitWith S' V' splice' node' false)) :
    R Unit (Walk.visitAll S V splice nodes) (Walk.visitAll S' V' splice' nodes') := by
  induction hn with
  | nil => exact hR.pure ()
  | cons hnode _ ih =>
    rw [List.forall_mem_cons] at h
    simp only [Walk.visitAll]
    exact hR.bind (h.1 _ hnode) fun _ _ => ih h.2

theorem visitOption (hR : Likeness S S' R) {node? node?' : Option Node} {inChain : Bool}
    (hn : Option.Rel N node? node?')
    (h : ∀ node ∈ node?, ∀ node', N node node' →
      R Unit (visitWith S V splice node inChain) (visitWith S' V' splice' node' inChain)) :
    R Unit (Walk.visitOption S V splice node? inChain)
      (Walk.visitOption S' V' splice' node?' inChain) := by
  cases hn with
  | none => exact hR.pure ()
  | some hnode => exact h _ rfl _ hnode

theorem visitBranches (hR : Likeness S S' R) {nodes nodes' : List Node}
    {otherwise : Walk σ ω Unit} {otherwise' : Walk σ ω' Unit} (hn : List.Forall₂ N nodes nodes')
    (hgate : ∀ node node', N node node' → node.attrs.ifCond = node'.attrs.ifCond)
    (h : ∀ node ∈ nodes, ∀ node', N node node' →
      R Unit (visitWith S V splice node true) (visitWith S' V' splice' node' true))
    (ho : R Unit otherwise otherwise') :
    R Unit (Walk.visitBranches S V splice nodes otherwise)
      (Walk.visitBranches S' V' splice' nodes' otherwise') := by
  induction hn with
  | nil => exact ho
  | cons hnode _ ih =>
    rw [List.forall_mem_cons] at h
    simp only [Walk.visitBranches]
    rw [← hgate _ _ hnode]
    refine hR.bind (hR.isOpen _) fun taken _ => ?_
    cases taken with
    | true => exact h.1 _ hnode
    | false => exact ih h.2

theorem visitCases {key : String} {cases cases' : List (String × Node)}
    {otherwise : Walk σ ω Unit} {otherwise' : Walk σ ω' Unit}
    (hl : cases.map Prod.fst = cases'.map Prod.fst)
    (hn : List.Forall₂ N (cases.map Prod.snd) (cases'.map Prod.snd))
    (h : ∀ c ∈ cases, ∀ node', N c.2 node' →
      R Unit (visitWith S V splice c.2 false) (visitWith S' V' splice' node' false))
    (ho : R Unit otherwise otherwise') :
    R Unit (Walk.visitCases S V splice key cases otherwise)
      (Walk.visitCases S' V' splice' key cases' otherwise') := by
  induction cases generalizing cases' with
  | nil =>
    obtain rfl : cases' = [] := List.map_eq_nil_iff.1 hl.symm
    exact ho
  | cons c rest ih =>
    cases cases' with
    | nil => simp at hl
    | cons c' rest' =>
      obtain ⟨label, node⟩ := c
      obtain ⟨label', node'⟩ := c'
      rw [List.map_cons, List.map_cons, List.cons.injEq] at hl
      obtain ⟨rfl, hl⟩ := hl
      rw [List.map_cons, List.map_cons, List.forall₂_cons] at hn
      rw [List.forall_mem_cons] at h
      simp only [Walk.visitCases]
      by_cases hk : caseKey label = key
      · rw [if_pos hk, if_pos hk]
        exact h.1 _ hn.1
      · rw [if_neg hk, if_neg hk]
        exact ih hl hn.2 h.2

theorem dispatch (hR : Likeness S S' R) (V : Visitor σ κ ω) (V' : Visitor σ κ ω')
    (splice : Node → Walk σ ω Unit) (splice' : Node → Walk σ ω' Unit) {content content' : Content}
    (hc : content.Alike N H content')
    (hgate : ∀ node node', N node node' → node.attrs.ifCond = node'.attrs.ifCond)
    (hw : ∀ x, Emitted S x → R Unit (V.write x) (V'.write x))
    (hloop : ∀ (head head' : LoopHead) (separator body : Walk σ ω Unit)
      (separator' body' : Walk σ ω' Unit), H head head' → R Unit separator separator' →
      R Unit body body' → R Unit (loop S head separator body) (loop S' head' separator' body'))
    (hparts : ∀ part ∈ content.parts, ∀ node', N part.1 node' →
      R Unit (visitWith S V splice part.1 part.2) (visitWith S' V' splice' node' part.2))
    (hsplice : ∀ node, R Unit (splice node) (splice' node)) :
    R Unit (Walk.dispatch S V splice content) (Walk.dispatch S' V' splice' content') := by
  cases hc with
  | container h =>
    exact hR.visitAll h fun node hn => hparts (node, false) (List.mem_map_of_mem hn)
  | chain hb hf =>
    refine hR.visitBranches hb hgate (fun node hn => ?_) (hR.visitOption hf fun node hn => ?_)
    · exact hparts (node, true) (List.mem_append_left _ (List.mem_map_of_mem hn))
    · exact hparts (node, true) (List.mem_append_right _
        (List.mem_map_of_mem (Option.mem_toList.2 hn)))
  | @matching input cases cases' fallback fallback' hl hc hf =>
    have ho : R Unit (Walk.visitOption S V splice fallback false)
        (Walk.visitOption S' V' splice' fallback' false) :=
      hR.visitOption hf fun node hn => hparts (node, false)
        (List.mem_append_right _ (List.mem_map_of_mem (Option.mem_toList.2 hn)))
    simp only [Walk.dispatch]
    rw [hR.coercion]
    refine hR.bind (hR.eval input) fun v _ => ?_
    by_cases hv : v.isNull = true
    · simp only [hv, if_true]
      exact ho
    · simp only [hv]
      exact visitCases hl hc (fun c hc =>
        hparts (c.2, false) (List.mem_append_left _ (List.mem_map.2 ⟨c, hc, rfl⟩))) ho
  | loop hh hs hb =>
    refine hloop _ _ _ _ _ _ hh (hR.visitOption hs fun node hn => ?_)
      (hR.visitAll hb fun node hn => ?_)
    · exact hparts (node, false) (List.mem_append_left _
        (List.mem_map_of_mem (Option.mem_toList.2 hn)))
    · exact hparts (node, false) (List.mem_append_right _ (List.mem_map_of_mem hn))
  | lineBreak => exact hw _ .lineBreak
  | interpolation e =>
    simp only [Walk.dispatch]
    rw [hR.coercion]
    refine hR.bind (hR.eval e) fun v _ => ?_
    cases v with
    | markup id display node => exact hsplice node
    | _ => exact hw _ (.text _)
  | leaf l => exact hR.emit V V' hw l

section

variable (hR : Likeness S S' R) (V : Visitor σ κ ω) (V' : Visitor σ κ ω')
  (hN : ∀ node node', N node node' → node.attrs.ifCond = node'.attrs.ifCond ∧
    node.content.Alike N H node'.content)
  (hw : ∀ x, Emitted S x → R Unit (V.write x) (V'.write x))
  (hloop : ∀ (head head' : LoopHead) (separator body : Walk σ ω Unit)
    (separator' body' : Walk σ ω' Unit), H head head' → R Unit separator separator' →
    R Unit body body' → R Unit (loop S head separator body) (loop S' head' separator' body'))
  (haround : ∀ (node node' : Node) (inChain : Bool) (m : Walk σ ω Unit) (n : Walk σ ω' Unit),
    N node node' → R Unit m n → R Unit (V.around node inChain m) (V'.around node' inChain n))

include hR hN hw hloop haround

theorem visitWith (splice : Node → Walk σ ω Unit) (splice' : Node → Walk σ ω' Unit)
    (hs : ∀ node, R Unit (splice node) (splice' node)) {node node' : Node} (h : N node node')
    (inChain : Bool) :
    R Unit (visitWith S V splice node inChain) (visitWith S' V' splice' node' inChain) := by
  induction node using Node.induct generalizing node' inChain with
  | h attrs content ih =>
    obtain ⟨attrs', content'⟩ := node'
    exact haround _ _ inChain _ _ h (hR.dispatch V V' splice splice' (hN _ _ h).2
      (fun node node' h => (hN node node' h).1) hw hloop
      (fun part hp node' h => ih part hp h part.2) hs)

/-- The visits of two trees are alike if what is put around their nodes and the writing are. Markup
is spliced into both of them as it is. -/
theorem visit (hrefl : ∀ node, N node node) (depth : Nat) {node node' : Node} (h : N node node')
    (inChain : Bool) :
    R Unit (Walk.visit S V depth node inChain) (Walk.visit S' V' depth node' inChain) := by
  induction depth generalizing node node' inChain with
  | zero => exact hR.visitWith V V' hN hw hloop haround _ _ (fun _ => hR.throw _) h inChain
  | succ depth ih =>
    exact hR.visitWith V V' hN hw hloop haround _ _ (fun node => ih (hrefl node) false) h inChain

end

end Likeness

structure ScopeLikeness (S S' : Setting σ κ) (R : ∀ α : Type, Walk σ ω α → Walk σ ω' α → Prop) :
    Prop extends Likeness S S' R where
  lookScope : ∀ {α : Type} (f : Scope → α), R α (look fun w => f w.scope) (look fun w => f w.scope)
  onScope : ∀ f : Scope → Scope, R Unit (onScope f) (onScope f)
  ensuring : ∀ {body restore : Walk σ ω Unit} {body' restore' : Walk σ ω' Unit},
    R Unit body body' → R Unit restore restore' →
    R Unit (ensuring body restore) (ensuring body' restore')

namespace ScopeLikeness

variable {S S' : Setting σ κ} {R : ∀ α : Type, Walk σ ω α → Walk σ ω' α → Prop}

theorem binding (hR : ScopeLikeness S S' R) (bindings : List (String × Value))
    {body : Walk σ ω Unit} {body' : Walk σ ω' Unit} (hb : R Unit body body') :
    R Unit (binding bindings body) (binding bindings body') :=
  hR.bind (hR.lookScope Scope.depth) fun _ _ =>
    hR.bind (hR.onScope _) fun _ _ => hR.ensuring hb (hR.onScope _)

theorem bound (hR : ScopeLikeness S S' R) (lets : List (String × Expr)) {body : Walk σ ω Unit}
    {body' : Walk σ ω' Unit} (hb : R Unit body body') :
    R Unit (bound S lets body) (bound S' lets body') :=
  hR.bind (hR.evalLets [] lets) fun bindings _ => hR.binding bindings hb

theorem loop (hR : ScopeLikeness S S' R) (head : LoopHead) (separator body : Walk σ ω Unit)
    (separator' body' : Walk σ ω' Unit) (hs : R Unit separator separator')
    (hb : R Unit body body') :
    R Unit (loop S head separator body) (loop S' head separator' body') := by
  unfold Walk.loop
  rw [hR.coercion]
  refine hR.bind (hR.eval _) fun _ _ => hR.bind (hR.isReversed _) fun _ _ =>
    hR.bind (hR.onScope _) fun _ _ => hR.ensuring ?_ (hR.onScope _)
  exact hR.rounds separator body separator' body' (fun _ _ => hR.onScope _) hs
    (hR.bind (hR.evalLoopLets [] head.lets) fun bindings _ => hR.binding bindings hb) 0 _

end ScopeLikeness

end Walk

end RichText
