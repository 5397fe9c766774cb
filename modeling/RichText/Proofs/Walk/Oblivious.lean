import RichText.Proofs.Walk.Restoration

namespace RichText

/-- Two scopes in which every name has the same value. Frames that others shadow may differ. -/
def Scope.Agree (s t : Scope) : Prop := ∀ name, s.find? name = t.find? name

namespace Scope

variable {s t : Scope}

theorem find?_of_stack {name : String} {v : Value} {rest : String → List Value}
    (h : ∀ other, t.stack other = if name = other then v :: rest other else s.stack other)
    (other : String) : t.find? other = if other = name then some v else s.find? other := by
  rw [find?_eq, find?_eq, h]
  by_cases ho : other = name
  · rw [if_pos ho.symm, if_pos ho]
    rfl
  · rw [if_neg (Ne.symm ho), if_neg ho]

theorem find?_push (s : Scope) (name : String) (v : Value) (other : String) :
    (s.push name v).find? other = if other = name then some v else s.find? other :=
  find?_of_stack (stack_push s name v) other

theorem find?_update (s : Scope) (name : String) (v : Value) (other : String) :
    (s.update name v).find? other = if other = name then some v else s.find? other :=
  find?_of_stack (stack_update s name v) other

def extend (s : Scope) (bindings : List (String × Value)) : Scope :=
  bindings.foldl (fun s b => s.push b.1 b.2) s

theorem rollback_extend (s : Scope) (bindings : List (String × Value)) :
    (s.extend bindings).rollback s.depth = s := rollback_of_frames (frames_pushAll s bindings)

namespace Agree

theorem push (h : s.Agree t) (name : String) (v : Value) : (s.push name v).Agree (t.push name v) :=
  fun other => by rw [find?_push, find?_push, h other]

theorem extend (h : s.Agree t) (bindings : List (String × Value)) :
    (s.extend bindings).Agree (t.extend bindings) := by
  induction bindings generalizing s t with
  | nil => exact h
  | cons b rest ih => exact ih (h.push b.1 b.2)

theorem lookup {σ : Type} (h : s.Agree t) (base : Environment σ) :
    s.lookup base = t.lookup base := by
  funext name
  rw [Scope.lookup, Scope.lookup, h name]

end Agree

end Scope

def WalkState.inScope {σ ω : Type} (w : WalkState σ ω) (s : Scope) : WalkState σ ω :=
  { w with scope := s }

namespace Walk

variable {σ κ ω α β : Type} {S : Setting σ κ}

theorem exec_binding (bindings : List (String × Value)) {body : Walk σ ω Unit}
    {w : WalkState σ ω}
    (hb : (after body (w.inScope (w.scope.extend bindings))).scope = w.scope.extend bindings) :
    exec (binding bindings body) w = ((exec body (w.inScope (w.scope.extend bindings))).1,
      (after body (w.inScope (w.scope.extend bindings))).inScope w.scope) := by
  refine Prod.ext (Total.result_binding bindings body w) ?_
  have hafter : after (binding bindings body) w =
      (after body (w.inScope (w.scope.extend bindings))).inScope
        ((after body (w.inScope (w.scope.extend bindings))).scope.rollback w.scope.depth) :=
    after_binding bindings body w
  refine hafter.trans ?_
  rw [hb, Scope.rollback_extend]

/-- `m` knows the scope only by looking names up in it, and leaves it as it is. -/
def Oblivious (m : Walk σ ω α) : Prop :=
  ∀ w t, w.scope.Agree t → (after m w).scope = w.scope ∧
    exec m (w.inScope t) = ((exec m w).1, (after m w).inScope t)

namespace Oblivious

theorem onHost (act : Context σ → StateM σ α) : Oblivious (onHost S act : Walk σ ω α) := by
  intro w t h
  refine ⟨rfl, ?_⟩
  rw [exec_onHost, context, WalkState.inScope, ← h.lookup S.env]
  rfl

theorem bind {m : Walk σ ω α} {f : α → Walk σ ω β} (hm : Oblivious m)
    (hf : ∀ a, Yields m a → Oblivious (f a)) : Oblivious (m >>= f) := by
  intro w t h
  obtain ⟨hscope, hexec⟩ := hm w t h
  rcases hw : exec m w with ⟨e | a, w'⟩ <;> rw [after, hw] at hscope hexec
  · unfold after
    rw [exec_bind_error hw, exec_bind_error hexec]
    exact ⟨hscope, rfl⟩
  · obtain ⟨hscope', hexec'⟩ := hf a ⟨w, w', hw⟩ w' t (by rwa [hscope])
    unfold after at hscope' hexec' ⊢
    rw [exec_bind_ok hw, exec_bind_ok hexec]
    exact ⟨hscope'.trans hscope, hexec'⟩

theorem congruence (S : Setting σ κ) :
    Congruence S fun _ (m : Walk σ ω _) (_ : Walk σ ω _) => Oblivious m where
  pure _ _ _ _ := ⟨rfl, rfl⟩
  throw _ _ _ _ := ⟨rfl, rfl⟩
  onHost := onHost
  bind := bind

theorem look {f : WalkState σ ω → α} (hf : ∀ w s, f (w.inScope s) = f w) : Oblivious (look f) :=
  fun w t _ => ⟨rfl, congrArg (fun a => ((.ok a : Except RenderError α), w.inScope t)) (hf w t)⟩

theorem onOut (f : ω → ω) : Oblivious (onOut f : Walk σ ω Unit) := fun _ _ _ => ⟨rfl, rfl⟩

theorem onStyles (f : List Style → List Style) : Oblivious (onStyles f : Walk σ ω Unit) :=
  fun _ _ _ => ⟨rfl, rfl⟩

theorem onInterceptors (f : InterceptorStack σ → InterceptorStack σ) :
    Oblivious (onInterceptors f : Walk σ ω Unit) := fun _ _ _ => ⟨rfl, rfl⟩

theorem ensuring {body restore : Walk σ ω Unit} (hb : Oblivious body) (hr : Oblivious restore) :
    Oblivious (ensuring body restore) := by
  have hthrow : ∀ e, Oblivious (restore >>= fun _ => (throw e : Walk σ ω Unit)) :=
    fun e => hr.bind fun _ _ _ _ _ => ⟨rfl, rfl⟩
  intro w t h
  obtain ⟨hscope, hexec⟩ := hb w t h
  unfold after
  rw [exec_ensuring, exec_ensuring, hexec]
  rcases hw : exec body w with ⟨e | _, w'⟩ <;> rw [after, hw] at hscope <;> rw [after, hw]
  · obtain ⟨hscope', hexec'⟩ := hthrow e w' t (by rwa [hscope])
    exact ⟨hscope'.trans hscope, hexec'⟩
  · obtain ⟨hscope', hexec'⟩ := hr w' t (by rwa [hscope])
    exact ⟨hscope'.trans hscope, hexec'⟩

theorem binding (bindings : List (String × Value)) {body : Walk σ ω Unit} (hb : Oblivious body) :
    Oblivious (binding bindings body) := by
  intro w t h
  obtain ⟨hscope, hexec⟩ := hb (w.inScope (w.scope.extend bindings)) (t.extend bindings)
    (h.extend bindings)
  have hw := exec_binding bindings hscope
  have ht : exec (Walk.binding bindings body) (w.inScope t) = _ :=
    exec_binding bindings (congrArg (·.2.scope) hexec)
  refine ⟨congrArg (·.2.scope) hw, ?_⟩
  unfold after
  rw [ht, hw]
  exact congrArg (fun r => (r.1, r.2.inScope t)) hexec

theorem bound (S : Setting σ κ) (lets : List (String × Expr)) {body : Walk σ ω Unit}
    (hb : Oblivious body) : Oblivious (bound S lets body) :=
  ((congruence S).likeness.evalLets [] lets).bind fun bindings _ => hb.binding bindings

theorem currentStyle (S : Setting σ κ) : Oblivious (currentStyle S : Walk σ ω Style) :=
  look fun _ _ => rfl

theorem styled (S : Setting σ κ) (delta : Option StyleDelta) {body : Walk σ ω Unit}
    (hb : Oblivious body) : Oblivious (styled S delta body) := by
  cases delta with
  | none => exact hb
  | some d =>
    exact (currentStyle S).bind fun _ _ => (onHost _).bind fun _ _ => (onStyles _).bind fun _ _ =>
      hb.ensuring (onStyles _)

theorem framed (opens : Bool) {body : Walk σ (Draft κ) Unit} (hb : Oblivious body) :
    Oblivious (framed opens body) := by
  cases opens with
  | false => exact hb
  | true => exact (onOut _).bind fun _ _ => hb.ensuring (onOut _)

theorem attended (S : Setting σ κ) (node : Node) {body : Walk σ ω Unit} (hb : Oblivious body) :
    Oblivious (attended S node (offer S node) (finish S node) body) := by
  have hheight : Oblivious (Walk.look fun w : WalkState σ ω => w.interceptors.height) :=
    look fun _ _ => rfl
  have hoffer : Oblivious (offer S node : Walk σ ω _) :=
    (look fun _ _ => rfl).bind fun _ _ => onHost _
  refine hheight.bind fun height _ => (onInterceptors _).bind fun _ _ =>
    hoffer.bind fun answer _ => ?_
  cases answer with
  | none => exact onInterceptors _
  | some pending => exact hb.ensuring ((onHost _).bind fun _ _ => onInterceptors _)

theorem surround (S : Setting σ κ) (node : Node) (inChain : Bool) {body : Walk σ (Draft κ) Unit}
    (hb : Oblivious body) : Oblivious (surround S node inChain body) := by
  refine ((congruence S).likeness.isOpen _).bind fun opened _ => ?_
  cases opened with
  | false => exact (congruence S).pure ()
  | true =>
    refine attended S node (((congruence S).likeness.passes rfl inChain).bind fun passed _ => ?_)
    cases passed with
    | false => exact (congruence S).pure ()
    | true => exact ((hb.framed _).styled S _).bound S _

theorem renderer_write (S : Setting σ κ) (x : Write κ) : Oblivious ((renderer S).write x) :=
  (currentStyle S).bind fun _ _ => onOut _

end Oblivious

end Walk

end RichText
