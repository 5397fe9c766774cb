import RichText.Proofs.Layout.Fusion
import RichText.Proofs.Walk.Congruence
import RichText.Proofs.Walk.Frames

namespace RichText

namespace Walk

variable {σ κ ω α β γ : Type} {view : ω → γ}

theorem Keeps.congruence (S : Setting σ κ) {P : WalkState σ ω → Prop}
    (hP : ∀ w h, P w → P { w with host := h }) :
    Congruence S fun _ (m : Walk σ ω _) (_ : Walk σ ω _) => Keeps P m where
  pure _ _ h := h
  throw _ _ h := h
  onHost _ w h := hP w _ h
  bind hm hf := Keeps.bind hm hf

/-- Two states that differ only in the host and in what `view` does not show of the output. -/
structure Same (view : ω → γ) (w w' : WalkState σ ω) : Prop where
  scope : w'.scope = w.scope
  styles : w'.styles = w.styles
  interceptors : w'.interceptors = w.interceptors
  out : view w'.out = view w.out

theorem Same.refl (w : WalkState σ ω) : Same view w w := ⟨rfl, rfl, rfl, rfl⟩

theorem Same.trans {w w' w'' : WalkState σ ω} (h : Same view w w') (h' : Same view w' w'') :
    Same view w w'' :=
  ⟨h'.scope.trans h.scope, h'.styles.trans h.styles, h'.interceptors.trans h.interceptors,
    h'.out.trans h.out⟩

def Restores (view : ω → γ) (m : Walk σ ω α) : Prop := ∀ w, Same view w (after m w)

namespace Restores

theorem keeps {m : Walk σ ω α} (hm : Restores view m) (w : WalkState σ ω) :
    Keeps (Same view w) m := fun v h => h.trans (hm v)

theorem same {m : Walk σ ω α} (hm : Restores view m) {w v : WalkState σ ω}
    {result : Except RenderError α} (h : exec m w = (result, v)) : Same view w v := by
  have hw := hm w
  rwa [after, h] at hw

theorem bind {m : Walk σ ω α} {f : α → Walk σ ω β} (hm : Restores view m)
    (hf : ∀ a, Yields m a → Restores view (f a)) : Restores view (m >>= f) :=
  fun w => Keeps.bind (hm.keeps w) (fun a ha => (hf a ha).keeps w) w (.refl w)

theorem ensuring {body restore : Walk σ ω Unit} (hb : Restores view body)
    (hr : Restores view restore) : Restores view (ensuring body restore) :=
  fun w => Keeps.ensuring (hb.keeps w) (hr.keeps w) w (.refl w)

theorem onHost (S : Setting σ κ) (act : Context σ → StateM σ α) :
    Restores view (onHost S act) := fun _ => ⟨rfl, rfl, rfl, rfl⟩

theorem look (f : WalkState σ ω → α) : Restores view (look f) := Same.refl

theorem congruence (S : Setting σ κ) :
    Congruence S fun _ (m : Walk σ ω _) (_ : Walk σ ω _) => Restores view m where
  pure _ := Same.refl
  throw _ := Same.refl
  onHost := onHost S
  bind := bind

theorem between {opening closing body : Walk σ ω Unit} (ho : Total opening)
    (hc : ∀ w v, Same view (after opening w) v → Same view w (after closing v))
    (hb : Restores view body) :
    Restores view (opening >>= fun _ => Walk.ensuring body closing) := by
  intro w
  rw [ho.after_between]
  exact hc w _ (hb _)

theorem binding (bindings : List (String × Value)) {body : Walk σ ω Unit}
    (hb : Restores view body) : Restores view (binding bindings body) := by
  intro w
  let pushed := after (pushAll bindings) w
  obtain ⟨hscope, hstyles, hinterceptors, hout⟩ := hb pushed
  rw [after_binding]
  refine ⟨?_, hstyles, hinterceptors, hout⟩
  change (after body pushed).scope.rollback w.scope.depth = w.scope
  rw [hscope]
  exact Scope.rollback_of_frames (Scope.frames_pushAll w.scope bindings)

theorem bound (S : Setting σ κ) (lets : List (String × Expr)) {body : Walk σ ω Unit}
    (hb : Restores view body) : Restores view (bound S lets body) :=
  ((congruence S).likeness.evalLets [] lets).bind fun bindings _ => hb.binding bindings

theorem styled (S : Setting σ κ) (delta : Option StyleDelta) {body : Walk σ ω Unit}
    (hb : Restores view body) : Restores view (styled S delta body) := by
  cases delta with
  | none => exact hb
  | some d =>
    refine (look _).bind fun parent _ => (onHost S _).bind fun style _ => ?_
    refine between (Total.onStyles _) (fun w v h => ?_) hb
    exact ⟨h.scope, congrArg List.tail h.styles, h.interceptors, h.out⟩

theorem framed (opens : Bool) {body : Walk σ (Draft κ) Unit} (hb : Restores Draft.depth body) :
    Restores Draft.depth (framed opens body) := by
  cases opens with
  | false => exact hb
  | true =>
    refine between (Total.onOut Draft.enter) (fun w v h => ?_) hb
    exact ⟨h.scope, h.styles, h.interceptors, Draft.depth_exit h.out⟩

theorem attended (S : Setting σ κ) (node : Node)
    {offer : Walk σ ω (Option (List (Interceptor σ)))}
    {finish : List (Interceptor σ) → Walk σ ω Unit} {body : Walk σ ω Unit}
    (ho : Restores view offer) (hot : Total offer) (hf : ∀ pending, Restores view (finish pending))
    (hft : ∀ pending, Total (finish pending)) (hb : Restores view body) :
    Restores view (attended S node offer finish body) := by
  intro w
  let registered := { w with interceptors := register S node w.interceptors }
  let cut := fun v : WalkState σ ω =>
    { v with interceptors := v.interceptors.unregisterTo w.interceptors.height }
  have hcut : ∀ v, Same view registered v → Same view w (cut v) := by
    intro v hv
    refine ⟨hv.scope, hv.styles, ?_, hv.out⟩
    change v.interceptors.unregisterTo w.interceptors.height = w.interceptors
    rw [hv.interceptors]
    exact unregisterTo_register S node w.interceptors
  obtain ⟨answer, hoffer⟩ := hot registered
  have hv := ho registered
  rw [after, exec_attended hoffer]
  cases answer with
  | none => exact hcut _ hv
  | some pending =>
    obtain ⟨-, -, hfinish⟩ := (hft pending).after_bind
      (fun _ => onInterceptors (·.unregisterTo w.interceptors.height))
      (after body (after offer registered))
    change Same view w (after (Walk.ensuring body _) _)
    rw [after_ensuring]
    unfold after at hfinish ⊢
    rw [hfinish]
    exact hcut _ ((hv.trans (hb _)).trans (hf pending _))

theorem loop (S : Setting σ κ) (head : LoopHead) {separator body : Walk σ ω Unit}
    (hs : Restores view separator) (hb : Restores view body) :
    Restores view (loop S head separator body) := by
  refine ((congruence S).likeness.eval head.iterable).bind fun v _ =>
    ((congruence S).likeness.isReversed head.reversed).bind fun backwards _ w => ?_
  let items := if backwards then (S.coercion.asList v).reverse else S.coercion.asList v
  let opened := { w with scope := openLoop head.var w.scope }
  -- between two rounds the loop's frames are on top and all else is as it was
  let Between := fun u : WalkState σ ω =>
    InLoop head.var w.scope u.scope ∧ Same view { w with scope := u.scope } u
  have hkeep : ∀ {m : Walk σ ω Unit}, Restores view m → Keeps Between m := by
    rintro m hm u ⟨hloop, hsame⟩
    have h := hm u
    refine ⟨h.scope ▸ hloop, ?_⟩
    exact ⟨rfl, h.styles.trans hsame.styles, h.interceptors.trans hsame.interceptors,
      h.out.trans hsame.out⟩
  have hset : ∀ item index,
      Keeps Between (onScope (setRound head.var item index items.length)) :=
    fun item index u h => ⟨h.1.setRound item index items.length,
      ⟨rfl, h.2.styles, h.2.interceptors, h.2.out⟩⟩
  have hrounds : Keeps Between (rounds S head separator body items.length 0 items) :=
    (Keeps.congruence S fun _ _ h => ⟨h.1, ⟨rfl, h.2.styles, h.2.interceptors, h.2.out⟩⟩).rounds
      separator body separator body hset (hkeep hs) (fun bindings => hkeep (hb.binding bindings))
      0 items
  obtain ⟨hloop, -, hstyles, hinterceptors, hout⟩ :=
    hrounds opened ⟨inLoop_openLoop head.var w.scope, .refl opened⟩
  rw [(Total.onScope (openLoop head.var)).after_between]
  exact ⟨hloop.closeLoop, hstyles, hinterceptors, hout⟩

section

variable (S : Setting σ κ) (V : Visitor σ κ ω) (hw : ∀ x, Restores view (V.write x))
  (haround : ∀ (node : Node) (inChain : Bool) {body : Walk σ ω Unit}, Restores view body →
    Restores view (V.around node inChain body))
  {splice : Node → Walk σ ω Unit} (hs : ∀ node, Restores view (splice node))

include hw haround hs in
theorem visitWith (node : Node) (inChain : Bool) :
    Restores view (visitWith S V splice node inChain) :=
  (congruence S).visitWith V V (fun x _ => hw x) (fun head _ _ _ _ => loop S head)
    (fun node inChain _ _ => haround node inChain) splice splice hs node inChain

include hw haround hs in
theorem dispatch (content : Content) : Restores view (dispatch S V splice content) :=
  (congruence S).dispatch V V splice splice (fun x _ => hw x) (fun head _ _ _ _ => loop S head)
    (fun part _ => visitWith S V hw haround hs part.1 part.2) hs

include hw haround in
theorem visit (depth : Nat) (node : Node) (inChain : Bool) :
    Restores view (visit S V depth node inChain) :=
  (congruence S).visit V V (fun x _ => hw x) (fun head _ _ _ _ => loop S head)
    (fun node inChain _ _ => haround node inChain) depth node inChain

end

theorem surround (S : Setting σ κ) (node : Node) (inChain : Bool)
    {body : Walk σ (Draft κ) Unit} (hb : Restores Draft.depth body) :
    Restores Draft.depth (surround S node inChain body) := by
  refine ((congruence S).likeness.isOpen _).bind fun opened _ => ?_
  cases opened with
  | false => exact (congruence S).pure ()
  | true =>
    refine attended S node ((look _).bind fun _ _ => onHost S _)
      ((Total.look _).bind fun _ => Total.onHost S _) (fun _ => onHost S _)
      (fun _ => Total.onHost S _) ?_
    refine ((congruence S).likeness.passes rfl inChain).bind fun passed _ => ?_
    cases passed with
    | false => exact (congruence S).pure ()
    | true => exact ((hb.framed _).styled S _).bound S _

theorem renderer_write (S : Setting σ κ) (x : Write κ) :
    Restores Draft.depth ((renderer S).write x) :=
  (look _).bind fun style _ w =>
    ⟨rfl, rfl, rfl, Draft.depth_write S.factory S.slot w.out style x⟩

/-- A visit leaves the frames of the scope, the styles, the interceptors and the number of open
output frames as they were, however it ends. -/
theorem visit_renderer (S : Setting σ κ) (depth : Nat) (node : Node) (inChain : Bool) :
    Restores Draft.depth (Walk.visit S (renderer S) depth node inChain) :=
  visit S (renderer S) (renderer_write S) (fun node inChain _ => surround S node inChain) depth
    node inChain

end Restores

end Walk

end RichText
