import Mathlib
import RichText.Proofs.Walk.Pairing
import RichText.Proofs.Walk.Tracks

namespace RichText

/-- The same bindings, in another order only if no name comes twice. -/
def Reordered (lets lets' : List (String × Expr)) : Prop :=
  lets = lets' ∨ (lets.map Prod.fst).Nodup ∧ lets.Perm lets'

def Attributes.Reordered (attrs attrs' : Attributes) : Prop :=
  attrs.interceptor = none ∧
    ∃ lets, RichText.Reordered attrs.lets lets ∧ attrs' = { attrs with lets }

def LoopHead.Reordered (head head' : LoopHead) : Prop :=
  ∃ lets, RichText.Reordered head.lets lets ∧ head' = { head with lets }

namespace Scope.Alike

open Walk

variable {s t : Scope} (h : s.Alike t) (var : Option String)

include h

theorem openLoop : (openLoop var s).Alike (openLoop var t) := by
  cases var with
  | none => exact h.push loopName .null
  | some name => exact (h.push name .null).push loopName .null

theorem setRound (item : Value) (index count : Nat) :
    (setRound var item index count s).Alike (setRound var item index count t) := by
  cases var with
  | none => exact h.update loopName _
  | some name => exact (h.update name item).update loopName _

end Scope.Alike

namespace Walk

variable {σ κ α β : Type}

/-- Two states that differ in the scope at most. -/
structure Twin (s t : Scope) (i : InterceptorStack σ) (w v : WalkState σ (Draft κ)) : Prop where
  scope : w.scope = s
  interceptors : w.interceptors = i
  eq : v = { w with scope := t }

/-- Where the scopes are alike, both walks end alike and leave scopes and interceptors as they
are. -/
def Concur (P : InterceptorStack σ → Prop) (m n : Walk σ (Draft κ) α) : Prop :=
  ∀ s t i, s.Alike t → P i → Tracks (Twin s t i) m n

namespace Concur

variable {P : InterceptorStack σ → Prop} {S : Setting σ κ} {body body' : Walk σ (Draft κ) Unit}

theorem onHost (act : Context σ → StateM σ α) :
    Concur P (onHost S act : Walk σ (Draft κ) α) (onHost S act) := by
  rintro s t i h - w v ⟨rfl, rfl, rfl⟩
  unfold after
  rw [exec_onHost, exec_onHost, context, context, h.lookup]
  exact ⟨rfl, rfl, rfl, rfl⟩

theorem bind {m n : Walk σ (Draft κ) α} {f g : α → Walk σ (Draft κ) β} (hm : Concur P m n)
    (hf : ∀ a, Yields m a → Concur P (f a) (g a)) : Concur P (m >>= f) (n >>= g) :=
  fun s t i h hi => (hm s t i h hi).bind fun a ha => hf a ha s t i h hi

theorem likeness (S : Setting σ κ) :
    Likeness S S fun _ (m : Walk σ (Draft κ) _) (n : Walk σ (Draft κ) _) => Concur P m n where
  coercion := rfl
  factory := rfl
  pure a _ _ _ _ _ := .pure a
  throw e _ _ _ _ _ := .throw e
  eval _ := onHost _
  evalAll _ := onHost _
  bind := bind

theorem ensuring {restore restore' : Walk σ (Draft κ) Unit} (hb : Concur P body body')
    (hr : Concur P restore restore') :
    Concur P (Walk.ensuring body restore) (Walk.ensuring body' restore') :=
  fun s t i h hi => (hb s t i h hi).ensuring (hr s t i h hi)

theorem onStyles (f : List Style → List Style) :
    Concur P (onStyles f : Walk σ (Draft κ) Unit) (onStyles f) := by
  rintro s t i - - w v ⟨rfl, rfl, rfl⟩
  exact ⟨rfl, rfl, rfl, rfl⟩

theorem onOut (f : Draft κ → Draft κ) :
    Concur P (onOut f : Walk σ (Draft κ) Unit) (onOut f) := by
  rintro s t i - - w v ⟨rfl, rfl, rfl⟩
  exact ⟨rfl, rfl, rfl, rfl⟩

theorem currentStyle (S : Setting σ κ) :
    Concur P (currentStyle S : Walk σ (Draft κ) Style) (currentStyle S) := by
  rintro s t i - - w v ⟨rfl, rfl, rfl⟩
  exact ⟨rfl, rfl, rfl, rfl⟩

theorem styled (S : Setting σ κ) (delta : Option StyleDelta) (hb : Concur P body body') :
    Concur P (styled S delta body) (styled S delta body') := by
  cases delta with
  | none => exact hb
  | some d =>
    exact (currentStyle S).bind fun _ _ => (onHost _).bind fun _ _ => (onStyles _).bind fun _ _ =>
      hb.ensuring (onStyles _)

theorem framed (opens : Bool) (hb : Concur P body body') :
    Concur P (framed opens body) (framed opens body') := by
  cases opens with
  | false => exact hb
  | true => exact (onOut _).bind fun _ _ => hb.ensuring (onOut _)

theorem write (S : Setting σ κ) (x : Write κ) :
    Concur P ((renderer S).write x) ((renderer S).write x) :=
  (currentStyle S).bind fun _ _ => onOut _

theorem binding {bindings bindings' : List (String × Value)} (hb : Concur P body body')
    {s t : Scope} {i : InterceptorStack σ} (hi : P i) (h : s.Alike t)
    (hp : Scope.Alike (bindings.foldl (fun s b => s.push b.1 b.2) s)
      (bindings'.foldl (fun s b => s.push b.1 b.2) t)) :
    Tracks (Twin s t i) (binding bindings body) (binding bindings' body') := by
  rintro w _ ⟨rfl, rfl, rfl⟩
  let v : WalkState σ (Draft κ) := after (pushAll bindings') { w with scope := t }
  obtain ⟨hresult, hscope, hinterceptors, heq⟩ := hb _ _ _ hp hi (after (pushAll bindings) w) v
    ⟨rfl, rfl, rfl⟩
  have hrestored : ∀ (s : Scope) (bindings : List (String × Value)),
      (bindings.foldl (fun s b => s.push b.1 b.2) s).rollback s.depth = s :=
    fun s bindings => Scope.rollback_of_frames (Scope.frames_pushAll s bindings)
  rw [Total.result_binding, Total.result_binding, after_binding, after_binding]
  refine ⟨hresult, ?_, hinterceptors, ?_⟩
  · change (after body (after (pushAll bindings) w)).scope.rollback w.scope.depth = w.scope
    rw [hscope, hrestored]
  · change { after body' v with scope := (after body' v).scope.rollback t.depth } = _
    rw [heq]
    exact congrArg (fun t => { after body (after (pushAll bindings) w) with scope := t })
      (hrestored t bindings')

theorem valuesAt_eq {s t : Scope} {i : InterceptorStack σ} {w v : WalkState σ (Draft κ)}
    (h : s.Alike t) (hwv : Twin s t i w v) (lets : List (String × Expr)) :
    valuesAt S v lets = valuesAt S w lets := by
  obtain ⟨rfl, rfl, rfl⟩ := hwv
  unfold valuesAt valueAt context
  rw [h.lookup]

/-- Bindings that are evaluated side by side may come in any order. -/
theorem bind_binding (evaluate : List (String × Expr) → Walk σ (Draft κ) (List (String × Value)))
    (hself : ∀ lets, Concur P (evaluate lets) (evaluate lets))
    (hvalues : ∀ {lets : List (String × Expr)} (w), (lets.map Prod.fst).Nodup →
      exec (evaluate lets) w = (.ok (valuesAt S w lets), w))
    {lets lets' : List (String × Expr)} (hl : Reordered lets lets') (hb : Concur P body body') :
    Concur P (evaluate lets >>= (Walk.binding · body))
      (evaluate lets' >>= (Walk.binding · body')) := by
  obtain rfl | ⟨hn, hp⟩ := hl
  -- a list with a name that comes twice may fail, or overwrite a value, but is then the same list
  · exact (hself lets).bind fun bindings _ s t i h hi => hb.binding hi h (h.pushAll_self bindings)
  · intro s t i h hi w v hwv
    have hn' := (hp.map Prod.fst).nodup_iff.1 hn
    have hv := hvalues v hn'
    have hnames : ((valuesAt S w lets).map Prod.fst).Nodup := by rwa [names_valuesAt]
    rw [valuesAt_eq h hwv] at hv
    unfold after
    rw [exec_bind_ok (hvalues w hn), exec_bind_ok hv]
    exact hb.binding hi h (h.pushAll hnames (hp.map _)) w v hwv

theorem bound (hstatic : S.Static) {lets lets' : List (String × Expr)}
    (hl : Reordered lets lets') (hb : Concur P body body') :
    Concur P (bound S lets body) (bound S lets' body') :=
  bind_binding (evalLets S []) ((likeness S).evalLets [])
    (fun w hn => exec_evalLets_of_static hstatic w hn (by simp)) hl hb

/-- Between two rounds the loops have their frames on top of scopes that are alike. -/
def Looping (var : Option String) (s t : Scope) (i : InterceptorStack σ)
    (w v : WalkState σ (Draft κ)) : Prop :=
  ∃ s' t', s'.Alike t' ∧ InLoop var s s' ∧ InLoop var t t' ∧ Twin s' t' i w v

section

variable {var : Option String} {s t : Scope} {i : InterceptorStack σ}

theorem looping {m n : Walk σ (Draft κ) α} (h : Concur P m n) (hi : P i) :
    Tracks (Looping var s t i) m n := by
  rintro w v ⟨s', t', hst, hs', ht', hwv⟩
  obtain ⟨hresult, hstate⟩ := h s' t' i hst hi w v hwv
  exact ⟨hresult, s', t', hst, hs', ht', hstate⟩

theorem looping_setRound (item : Value) (index count : Nat) :
    Tracks (Looping var s t i) (onScope (setRound var item index count) : Walk σ (Draft κ) Unit)
      (onScope (setRound var item index count)) := by
  rintro w _ ⟨s', t', hst, hs', ht', rfl, hi, rfl⟩
  exact ⟨rfl, _, _, hst.setRound var item index count, hs'.setRound item index count,
    ht'.setRound item index count, rfl, hi, rfl⟩

theorem looping_rounds (hstatic : S.Static) (head head' : LoopHead) (hv : head.var = head'.var)
    (hl : Reordered head.lets head'.lets) {separator separator' : Walk σ (Draft κ) Unit}
    (hs : Concur P separator separator') (hb : Concur P body body') (hi : P i)
    (count index : Nat) (items : List Value) :
    Tracks (Looping head.var s t i) (rounds S head separator body count index items)
      (rounds S head' separator' body' count index items) := by
  have hlike : Likeness S S fun _ (m : Walk σ (Draft κ) _) (n : Walk σ (Draft κ) _) =>
      Tracks (Looping head.var s t i) m n :=
    Tracks.likeness rfl rfl (fun _ => (onHost _).looping hi) fun _ => (onHost _).looping hi
  have hround : Concur P (evalLoopLets S [] head.lets >>= (Walk.binding · body))
      (evalLoopLets S [] head'.lets >>= (Walk.binding · body')) :=
    bind_binding (evalLoopLets S []) ((likeness S).evalLoopLets [])
      (fun w hn => exec_evalLoopLets_of_static hstatic w hn) hl hb
  refine hlike.rounds separator body separator' body' (fun item index => ?_) (hs.looping hi)
    (hround.looping hi) index items
  rw [← hv]
  exact looping_setRound item index count

end

theorem loop (hstatic : S.Static) {head head' : LoopHead} (hh : head.Reordered head')
    {separator separator' : Walk σ (Draft κ) Unit} (hs : Concur P separator separator')
    (hb : Concur P body body') :
    Concur P (loop S head separator body) (loop S head' separator' body') := by
  obtain ⟨lets, hl, rfl⟩ := hh
  refine ((likeness S).eval head.iterable).bind fun v _ =>
    ((likeness S).isReversed head.reversed).bind fun backwards _ => ?_
  rintro s t i h hi w _ ⟨rfl, rfl, rfl⟩
  let items := if backwards then (S.coercion.asList v).reverse else S.coercion.asList v
  -- after the rounds the frames of both loops are still on top, and come off together
  have hrounds : Tracks (Looping head.var w.scope t w.interceptors) _ _ :=
    looping_rounds hstatic head { head with lets } rfl hl hs hb hi items.length 0 items
  obtain ⟨hresult, s', t', -, hs', ht', hscope, hinterceptors, heq⟩ :=
    hrounds { w with scope := openLoop head.var w.scope } { w with scope := openLoop head.var t }
      ⟨_, _, h.openLoop head.var, inLoop_openLoop head.var w.scope, inLoop_openLoop head.var t,
        rfl, rfl, rfl⟩
  have hclose := Total.onScope (σ := σ) (ω := Draft κ) (closeLoop head.var)
  rw [(Total.onScope (openLoop head.var)).after_between,
    (Total.onScope (openLoop head.var)).after_between]
  refine ⟨?_, ?_, hinterceptors, ?_⟩
  · exact (hclose.result_ensuring _ _).trans (hresult.trans (hclose.result_ensuring _ _).symm)
  · exact (congrArg (closeLoop head.var) hscope).trans hs'.closeLoop
  · rw [show after (onScope (openLoop head.var)) { w with scope := t } =
      { w with scope := openLoop head.var t } from rfl, heq]
    exact congrArg (fun t => { after _ _ with scope := t }) ht'.closeLoop

theorem exec_offer (S : Setting σ κ) (node : Node) (w : WalkState σ (Draft κ)) :
    exec (offer S node) w =
      (.ok ((w.interceptors.offer node (context S w.scope)).run w.host).1, { w with
        host := ((w.interceptors.offer node (context S w.scope)).run w.host).2 }) := rfl

theorem attended (S : Setting σ κ) (node : Node) (hb : Concur (fun _ => True) body body') :
    Concur (fun _ => True) (attended S node (offer S node) (finish S node) body)
      (attended S node (offer S node) (finish S node) body') := by
  rintro s t i h - w _ ⟨rfl, rfl, rfl⟩
  have hctx : context S t = context S w.scope := by rw [context, context, h.lookup]
  let i := register S node w.interceptors
  obtain ⟨answer, host, hoffer, hoffer'⟩ : ∃ answer host,
      exec (offer S node) { w with interceptors := i } =
        (.ok answer, { w with host, interceptors := i }) ∧
      exec (offer S node) { w with scope := t, interceptors := i } =
        (.ok answer, { w with host, scope := t, interceptors := i }) := by
    refine ⟨_, _, exec_offer S node _, ?_⟩
    rw [exec_offer, hctx]
  unfold after
  rw [exec_attended hoffer, exec_attended hoffer']
  cases answer with
  | none => exact ⟨rfl, rfl, unregisterTo_register S node w.interceptors, rfl⟩
  | some pending =>
    let close : Walk σ (Draft κ) Unit := finish S node pending >>= fun _ =>
      onInterceptors (·.unregisterTo w.interceptors.height)
    have hclose : Total close := (Total.onHost S _).bind fun _ _ => ⟨(), rfl⟩
    let w₁ : WalkState σ (Draft κ) := { w with host, interceptors := i }
    obtain ⟨hresult, hscope, hinterceptors, heq⟩ :=
      hb w.scope t i h trivial w₁ { w₁ with scope := t } ⟨rfl, rfl, rfl⟩
    refine ⟨(hclose.result_ensuring body w₁).trans (hresult.trans
      (hclose.result_ensuring body' { w₁ with scope := t }).symm), ?_⟩
    change Twin _ _ _ (after (Walk.ensuring body close) w₁)
      (after (Walk.ensuring body' close) { w₁ with scope := t })
    have hafter : ∀ u : WalkState σ (Draft κ), after close u = { u with
        host := ((Interceptor.finish node (context S u.scope) pending).run u.host).2
        interceptors := u.interceptors.unregisterTo w.interceptors.height } := fun _ => rfl
    rw [after_ensuring, after_ensuring, heq, hafter, hafter, hctx, hscope, hinterceptors]
    exact ⟨rfl, unregisterTo_register S node w.interceptors, rfl⟩

theorem entered (hstatic : S.Static) {node node' : Node} (inChain : Bool)
    (hif : node.attrs.ifCond = node'.attrs.ifCond)
    (hl : Reordered node.attrs.lets node'.attrs.lets) (hst : node.attrs.style = node'.attrs.style)
    (hf : node.content.opensFrame = node'.content.opensFrame) (hb : Concur P body body') :
    Concur P
      (passes S node inChain >>= fun passed => if passed then Walk.bound S node.attrs.lets
        (Walk.styled S node.attrs.style (Walk.framed node.content.opensFrame body)) else pure ())
      (passes S node' inChain >>= fun passed => if passed then Walk.bound S node'.attrs.lets
        (Walk.styled S node'.attrs.style (Walk.framed node'.content.opensFrame body')) else pure ())
      := by
  refine ((likeness S).passes hif inChain).bind fun passed _ => ?_
  cases passed with
  | false => exact (likeness S).pure ()
  | true =>
    simp only [if_true, ← hst, ← hf]
    exact bound hstatic hl ((hb.framed _).styled S _)

theorem surround_self (hstatic : S.Static) (node : Node) (inChain : Bool)
    (hb : Concur (fun _ => True) body body') :
    Concur (fun _ => True) (surround S node inChain body) (surround S node inChain body') := by
  refine ((likeness S).isOpen _).bind fun opened _ => ?_
  cases opened with
  | false => exact (likeness S).pure ()
  | true => exact attended S node (hb.entered hstatic inChain rfl (.inl rfl) rfl rfl)

def Idle (s : InterceptorStack σ) : Prop := s.active = []

theorem exec_offer_idle (S : Setting σ κ) (node : Node) {w : WalkState σ (Draft κ)}
    (h : Idle w.interceptors) : exec (offer S node) w = (.ok (some []), w) := by
  obtain ⟨host, scope, styles, ⟨active⟩, out⟩ := w
  obtain rfl : active = [] := h
  rfl

theorem attended_idle {node node' : Node} (hn : node.attrs.interceptor = none)
    (hn' : node'.attrs.interceptor = none) (hb : Concur Idle body body') :
    Concur Idle (Walk.attended S node (offer S node) (finish S node) body)
      (Walk.attended S node' (offer S node') (finish S node') body') := by
  rintro s t i h hi w _ ⟨rfl, rfl, rfl⟩
  obtain ⟨hresult, hscope, hinterceptors, heq⟩ :=
    hb w.scope t w.interceptors h hi w { w with scope := t } ⟨rfl, rfl, rfl⟩
  have hidle : (after body w).interceptors.active = [] := by rw [hinterceptors, hi]
  have hidle' : (after body' { w with scope := t }).interceptors.active = [] := by
    rw [heq]
    exact hidle
  unfold after at heq ⊢
  rw [exec_attended_idle S hn rfl (exec_offer_idle S node hi) hidle,
    exec_attended_idle S hn' rfl (exec_offer_idle S node' (by exact hi)) hidle']
  exact ⟨hresult, hscope, hinterceptors, heq⟩

theorem surround_idle (hstatic : S.Static) {attrs attrs' : Attributes}
    {content content' : Content} (inChain : Bool) (ha : attrs.Reordered attrs')
    (hf : content.opensFrame = content'.opensFrame) (hb : Concur Idle body body') :
    Concur Idle (surround S (.mk attrs content) inChain body)
      (surround S (.mk attrs' content') inChain body') := by
  obtain ⟨hn, lets, hl, rfl⟩ := ha
  refine ((likeness S).isOpen _).bind fun opened _ => ?_
  cases opened with
  | false => exact (likeness S).pure ()
  | true => exact attended_idle hn hn (hb.entered hstatic inChain rfl hl rfl hf)

theorem visit_self (hstatic : S.Static) (depth : Nat) (node : Node) (inChain : Bool) :
    Concur (fun _ => True) (visit S (renderer S) depth node inChain)
      (visit S (renderer S) depth node inChain) :=
  (likeness S).visit (renderer S) (renderer S) Node.alike_of_eq (fun x _ => write S x)
    (fun _ _ _ _ _ _ hh => loop hstatic (hh ▸ ⟨_, .inl rfl, rfl⟩))
    (fun node _ inChain _ _ hn => hn ▸ surround_self hstatic node inChain) (fun _ => rfl) depth rfl
    inChain

theorem visit_reordered (hstatic : S.Static) (depth : Nat) {node node' : Node}
    (h : node.Like Attributes.Reordered LoopHead.Reordered node') (inChain : Bool) :
    Concur Idle (visit S (renderer S) depth node inChain)
      (visit S (renderer S) depth node' inChain) := by
  have hvisit := (likeness (P := Idle) S).visitWith (renderer S) (renderer S)
    (N := Node.Like Attributes.Reordered LoopHead.Reordered)
    (fun _ _ h => by
      obtain ⟨⟨-, lets, -, rfl⟩, hc⟩ := h
      exact ⟨rfl, hc⟩)
    (fun x _ => write S x) (fun _ _ _ _ _ _ hh hs hb => loop hstatic hh hs hb)
    (fun _ _ inChain _ _ h => by
      obtain ⟨ha, hc⟩ := h
      exact surround_idle hstatic inChain ha hc.opensFrame)
  cases depth with
  | zero => exact hvisit _ _ (fun _ => (likeness S).throw _) h inChain
  | succ depth =>
    exact hvisit _ _
      (fun node s t i hst _ => visit_self hstatic depth node false s t i hst trivial) h inChain

end Concur

/-- A render does not change if the bindings of nodes and loops are put in another order where no
two have one name. They are bound side by side to what their expressions come to outside the node,
whatever names they share with each other's expressions or with what is bound around them. -/
theorem render_reordered {S : Setting σ κ} (hstatic : S.Static) {root root' : Node}
    (h : root.Like Attributes.Reordered LoopHead.Reordered root') (depth : Nat) (host : σ) :
    render S depth root host = render S depth root' host ∧
      ∀ lets : List (String × Expr), (lets.map Prod.fst).Nodup →
        ∀ (body : Walk σ (Draft κ) Unit) (w : WalkState σ (Draft κ)),
          exec (bound S lets body) w = exec (binding (valuesAt S w lets) body) w := by
  refine ⟨?_, fun lets hn body w => exec_bind_ok (exec_evalLets_of_static hstatic w hn (by simp)) _⟩
  let w : WalkState σ (Draft κ) := { host, out := {} }
  obtain ⟨hresult, -, -, heq⟩ :=
    Concur.visit_reordered hstatic depth h false {} {} {} (.refl _) rfl w w ⟨rfl, rfl, rfl⟩
  change ((exec (visit S (renderer S) depth root false) w).1.map fun _ =>
      (after (visit S (renderer S) depth root false) w).out.finish S.factory S.slot,
    (after (visit S (renderer S) depth root false) w).host) =
      ((exec (visit S (renderer S) depth root' false) w).1.map fun _ =>
      (after (visit S (renderer S) depth root' false) w).out.finish S.factory S.slot,
    (after (visit S (renderer S) depth root' false) w).host)
  rw [hresult, heq]

def crossed (outer inner : List (String × Expr)) : Node :=
  .mk { lets := outer } (.container
    [.mk { lets := inner } (.interpolation (.binary .concat (.ident "x") (.ident "y")))])

theorem render_reordered_crossed :
    attentive.Static ∧
      render attentive 0 (crossed [("x", .atom (.str "a")), ("y", .atom (.str "b"))]
          [("x", .ident "y"), ("y", .ident "x")]) () =
        render attentive 0 (crossed [("y", .atom (.str "b")), ("x", .atom (.str "a"))]
          [("y", .ident "x"), ("x", .ident "y")]) () ∧
      (render attentive 0 (crossed [("x", .atom (.str "a")), ("y", .atom (.str "b"))]
        [("x", .ident "y"), ("y", .ident "x")]) ()).1 =
          .ok [(Component.text "").append [Component.text "ba"]] := by
  have hstatic : attentive.Static := static_attentive
  refine ⟨hstatic, (render_reordered hstatic ?_ 0 ()).1, ?_⟩
  · have hswap : ∀ (x y : String) (e e' : Expr), x ≠ y →
        Attributes.Reordered { lets := [(x, e), (y, e')] } { lets := [(y, e'), (x, e)] } :=
      fun x y e e' hne => ⟨rfl, _, .inr ⟨by simpa using hne, .swap ..⟩, rfl⟩
    exact .mk (hswap _ _ _ _ (by decide))
      (.container (.cons (.mk (hswap _ _ _ _ (by decide)) (.interpolation _)) .nil))
  · cbv

end Walk

end RichText
