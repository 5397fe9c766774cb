import RichText.Proofs.Layout.Steps
import RichText.Proofs.Walk.Offering
import RichText.Proofs.Walk.Tracks

namespace RichText

def Layer.styles (base : Style) : List Layer → List Style
  | [] => []
  | l :: path => resolve base (l :: path) :: styles base path

theorem Layer.headD_styles (base : Style) (path : List Layer) :
    (styles base path).headD base = resolve base path := by
  cases path <;> rfl

/-- What has been written, in the styles that the layers come to. -/
def Journal.writes {σ κ : Type} (base : Style) (j : Journal σ κ) : List (Style × Write κ) :=
  j.events.filterMap fun
    | .wrote path x => some (Layer.resolve base path, x)
    | _ => none

theorem Journal.writes_log {σ κ : Type} {es : List (Event σ κ)}
    (h : ∀ e ∈ es, ∀ path x, e ≠ .wrote path x) (base : Style) (j : Journal σ κ) :
    (j.log es).writes base = j.writes base := by
  have hnone : es.filterMap (fun
      | .wrote path x => some (Layer.resolve base path, x)
      | _ => none) = ([] : List (Style × Write κ)) := by
    refine List.filterMap_eq_nil_iff.2 fun e he => ?_
    cases e with
    | wrote path x => exact absurd rfl (h _ he path x)
    | _ => rfl
  rw [writes, writes, events_log, List.filterMap_append, hnone, List.append_nil]

theorem Journal.writes_log_wrote {σ κ : Type} (base : Style) (j : Journal σ κ) (path : List Layer)
    (x : Write κ) :
    (j.log [.wrote path x]).writes base = j.writes base ++ [(Layer.resolve base path, x)] := by
  rw [writes, events_log, List.filterMap_append]
  rfl

namespace Walk

variable {σ κ α β : Type}

/-- A render and a chronicle that have come equally far. -/
structure Lockstep (S : Setting σ κ) (w : WalkState σ (Draft κ)) (v : WalkState σ (Journal σ κ)) :
    Prop where
  host : w.host = v.host
  scope : w.scope = v.scope
  interceptors : w.interceptors = v.interceptors
  styles : w.styles = Layer.styles S.slot.base v.out.path
  out : Flat.Holds S.factory S.slot
    ((v.out.writes S.slot.base).flatMap (Flat.marks S.slot)) w.out

def InStep (S : Setting σ κ) (m : Walk σ (Draft κ) α) (n : Walk σ (Journal σ κ) α) : Prop :=
  ∀ w v, Lockstep S w v → (exec m w).1 = (exec n v).1 ∧ Lockstep S (after m w) (after n v)

namespace InStep

variable {S : Setting σ κ}

theorem bind {m : Walk σ (Draft κ) α} {n : Walk σ (Journal σ κ) α} {f : α → Walk σ (Draft κ) β}
    {g : α → Walk σ (Journal σ κ) β} (hm : InStep S m n)
    (hf : ∀ a, Yields m a → InStep S (f a) (g a)) : InStep S (m >>= f) (n >>= g) :=
  Tracks.bind hm hf

theorem onHost (act : Context σ → StateM σ α) : InStep S (onHost S act) (onHost S act) := by
  rintro ⟨host, scope, styles, interceptors, out⟩ v ⟨rfl, rfl, rfl, hstyles, hout⟩
  exact ⟨rfl, rfl, rfl, rfl, hstyles, hout⟩

theorem ensuring {body restore : Walk σ (Draft κ) Unit} {body' restore' : Walk σ (Journal σ κ) Unit}
    (hb : InStep S body body') (hr : InStep S restore restore') :
    InStep S (ensuring body restore) (ensuring body' restore') :=
  Tracks.ensuring hb hr

theorem scopeCongruence (S : Setting σ κ) :
    ScopeCongruence S fun _ (m : Walk σ (Draft κ) _) (n : Walk σ (Journal σ κ) _) =>
      InStep S m n where
  pure := Tracks.pure
  throw := Tracks.throw
  onHost := onHost
  bind := bind
  lookScope f := Tracks.look fun _ _ h => congrArg f h.scope
  onScope f _ _ h := ⟨rfl, h.host, congrArg f h.scope, h.interceptors, h.styles, h.out⟩
  ensuring := ensuring

theorem onInterceptors (f : InterceptorStack σ → InterceptorStack σ) :
    InStep S (onInterceptors f) (onInterceptors f) :=
  fun _ _ h => ⟨rfl, h.host, h.scope, congrArg f h.interceptors, h.styles, h.out⟩

/-- Events that are no writes may be noted down without the render doing anything. -/
theorem note {e : Event σ κ} (he : ∀ path x, e ≠ .wrote path x) {m : Walk σ (Draft κ) α}
    {n : Walk σ (Journal σ κ) α} (h : InStep S m n) :
    InStep S m (note e >>= fun _ => n) := by
  intro w v hwv
  refine h w { v with out := v.out.log [e] }
    ⟨hwv.host, hwv.scope, hwv.interceptors, hwv.styles, ?_⟩
  rw [Journal.writes_log (by simpa using he)]
  exact hwv.out

theorem ensuring_note {e : Event σ κ} (he : ∀ path x, e ≠ .wrote path x)
    {m : Walk σ (Draft κ) Unit} {n : Walk σ (Journal σ κ) Unit} (h : InStep S m n) :
    InStep S m (Walk.ensuring n (Walk.note e)) := by
  intro w v hwv
  obtain ⟨hresult, hstate⟩ := h w v hwv
  rw [after, after, exec_ensuring_note]
  refine ⟨hresult, hstate.host, hstate.scope, hstate.interceptors, hstate.styles, ?_⟩
  change Flat.Holds S.factory S.slot
    ((((after n v).out.log [e]).writes S.slot.base).flatMap (Flat.marks S.slot)) (after m w).out
  rw [Journal.writes_log (by simpa using he)]
  exact hstate.out

theorem noted (act : Context σ → StateM σ α) {e : Context σ → α → Event σ κ}
    (he : ∀ ctx a path x, e ctx a ≠ .wrote path x) {f : α → Walk σ (Draft κ) β}
    {g : α → Walk σ (Journal σ κ) β} (h : ∀ a, InStep S (f a) (g a)) :
    InStep S (Walk.onHost S act >>= f) (noted S act e >>= g) := by
  rintro ⟨host, scope, styles, interceptors, out⟩ v ⟨rfl, rfl, rfl, hstyles, hout⟩
  let a := ((act (context S v.scope)).run v.host).1
  let host := ((act (context S v.scope)).run v.host).2
  refine h a ⟨host, v.scope, styles, v.interceptors, out⟩
    { v with host, out := v.out.log [e (context S v.scope) a] } ⟨rfl, rfl, rfl, hstyles, ?_⟩
  rw [Journal.writes_log (by simpa using he _ a)]
  exact hout

theorem deliver (node : Node) (pending : List (Interceptor σ)) :
    InStep S (finish S node pending) (deliver S node pending) := by
  induction pending with
  | nil => exact (scopeCongruence S).pure ()
  | cons i rest ih => exact noted (i.after node) (by simp) fun _ => ih

theorem passOver (node : Node) (inner : List (Interceptor σ)) :
    InStep S (Walk.onHost S fun _ => Interceptor.skipAll node inner) (passOver S node inner) := by
  induction inner with
  | nil => exact (scopeCongruence S).pure ()
  | cons i rest ih => exact noted (fun _ => i.skipped node) (by simp) fun _ => ih

def answered (node : Node) (ctx : Context σ) (i : Interceptor σ)
    (inner pending : List (Interceptor σ)) : Decision → StateM σ (Option (List (Interceptor σ)))
  | .proceed => Interceptor.offer node ctx inner pending
  | .proceedThenAfter => Interceptor.offer node ctx inner (i :: pending)
  | .veto => do
    Interceptor.skipAll node inner
    Interceptor.finish node ctx pending
    return none

theorem heed (node : Node) (active pending : List (Interceptor σ)) :
    InStep S (Walk.onHost S fun ctx => Interceptor.offer node ctx active pending)
      (heed S node active pending) := by
  induction active generalizing pending with
  | nil => exact (scopeCongruence S).pure _
  | cons i inner ih =>
    refine noted
      (f := fun answer => Walk.onHost S fun ctx => answered node ctx i inner pending answer)
      (i.before node) (by simp) fun answer => ?_
    cases answer with
    | proceed => exact ih pending
    | proceedThenAfter => exact ih (i :: pending)
    | veto =>
      exact (passOver node inner).bind fun _ _ => (deliver node pending).bind fun _ _ =>
        (scopeCongruence S).pure none

theorem offer (node : Node) : InStep S (offer S node) (heedAll S node) := by
  rintro ⟨host, scope, styles, interceptors, out⟩ v ⟨rfl, rfl, rfl, hstyles, hout⟩
  exact heed node v.interceptors.active.reverse [] _ v ⟨rfl, rfl, rfl, hstyles, hout⟩

theorem attended (node : Node) {body : Walk σ (Draft κ) Unit} {body' : Walk σ (Journal σ κ) Unit}
    (hb : InStep S body body') :
    InStep S (attended S node (Walk.offer S node) (finish S node) body)
      (attended S node (heedAll S node) (Walk.deliver S node) body') := by
  refine bind (Tracks.look fun _ _ h => by rw [h.interceptors]) fun height _ =>
    (onInterceptors _).bind fun _ _ => (offer node).bind fun answer _ => ?_
  cases answer with
  | none => exact onInterceptors _
  | some pending =>
    exact ensuring hb ((deliver node pending).bind fun _ _ => onInterceptors _)

theorem framed (opens : Bool) {m : Walk σ (Draft κ) Unit} {n : Walk σ (Journal σ κ) Unit}
    (h : InStep S m n) : InStep S (framed opens m) n := by
  cases opens with
  | false => exact h
  | true =>
    intro w v hwv
    obtain ⟨hresult, hstate⟩ := h { w with out := w.out.enter } v
      ⟨hwv.host, hwv.scope, hwv.interceptors, hwv.styles, hwv.out.enter⟩
    refine ⟨?_, ?_⟩
    · rw [← hresult]
      exact (Total.onOut Draft.exit).result_ensuring m { w with out := w.out.enter }
    · change Lockstep S (after (Walk.ensuring m (onOut Draft.exit)) { w with out := w.out.enter }) _
      rw [after_ensuring]
      exact ⟨hstate.host, hstate.scope, hstate.interceptors, hstate.styles, hstate.out.exit⟩

theorem leave : InStep S (onStyles List.tail)
    (onOut fun j : Journal σ κ => { j with path := j.path.tail }) := by
  rintro w v ⟨hhost, hscope, hinterceptors, hstyles, hout⟩
  refine ⟨rfl, hhost, hscope, hinterceptors, ?_, hout⟩
  change w.styles.tail = Layer.styles S.slot.base v.out.path.tail
  rw [hstyles]
  cases v.out.path <;> rfl

theorem layered (delta : Option StyleDelta) {m : Walk σ (Draft κ) Unit}
    {n : Walk σ (Journal σ κ) Unit} (h : InStep S m n) :
    InStep S (styled S delta m) (layered S delta n) := by
  cases delta with
  | none => exact h
  | some d =>
    rintro ⟨host, scope, styles, interceptors, out⟩ v ⟨rfl, rfl, rfl, hstyles, hout⟩
    let own := ((d.evaluate (context S v.scope)).run v.host).1
    let host := ((d.evaluate (context S v.scope)).run v.host).2
    let parent := styles.headD S.slot.base
    let style := (if d.reset then S.slot.base else parent).merge own
    have hparent : parent = Layer.resolve S.slot.base v.out.path :=
      (congrArg (·.headD S.slot.base) hstyles).trans (Layer.headD_styles S.slot.base v.out.path)
    refine (ensuring h leave) ⟨host, v.scope, style :: styles, v.interceptors, out⟩
      { v with host, out := { v.out with path := ⟨d.reset, own⟩ :: v.out.path } }
      ⟨rfl, rfl, rfl, ?_, hout⟩
    change style :: styles = Layer.resolve S.slot.base (⟨d.reset, own⟩ :: v.out.path) :: _
    rw [← show styles = Layer.styles S.slot.base v.out.path from hstyles, Layer.resolve, ← hparent]

theorem surround (node : Node) (inChain : Bool) {m : Walk σ (Draft κ) Unit}
    {n : Walk σ (Journal σ κ) Unit} (h : InStep S m n) :
    InStep S (surround S node inChain m) (observed S node inChain n) := by
  refine ((scopeCongruence S).likeness.isOpen _).bind fun opened _ => note (by simp) ?_
  cases opened with
  | false => exact (scopeCongruence S).pure ()
  | true =>
    refine ensuring_note (by simp) (attended node ?_)
    refine ((scopeCongruence S).likeness.passes rfl inChain).bind fun passed _ => note (by simp) ?_
    cases passed with
    | false => exact (scopeCongruence S).pure ()
    | true => exact (scopeCongruence S).scopeLikeness.bound _ (layered _ (framed _ h))

theorem write (x : Write κ) : InStep S ((renderer S).write x) ((chronicler S).write x) := by
  rintro w v ⟨hhost, hscope, hinterceptors, hstyles, hout⟩
  refine ⟨rfl, hhost, hscope, hinterceptors, hstyles, ?_⟩
  have hstyle : w.styles.headD S.slot.base = Layer.resolve S.slot.base v.out.path := by
    rw [hstyles, Layer.headD_styles]
  change Flat.Holds S.factory S.slot
    (((v.out.log [.wrote v.out.path x]).writes S.slot.base).flatMap (Flat.marks S.slot))
    (w.out.write S.factory S.slot (w.styles.headD S.slot.base) x)
  rw [Journal.writes_log_wrote, List.flatMap_append, List.flatMap_singleton, hstyle]
  exact hout.write _ x

theorem visit (depth : Nat) (node : Node) (inChain : Bool) :
    InStep S (visit S (renderer S) depth node inChain)
      (visit S (chronicler S) depth node inChain) :=
  (scopeCongruence S).visit (renderer S) (chronicler S) (fun x _ => write x)
    (scopeCongruence S).loop (fun node inChain _ _ => surround node inChain) depth node inChain

theorem finish {m : Walk σ (Draft κ) Unit} {n : Walk σ (Journal σ κ) Unit} (h : InStep S m n)
    (host : σ) :
    (exec m { host, out := {} }).1 = (exec n { host, out := {} }).1 ∧
      (after m { host, out := {} }).host = (after n { host, out := {} }).host ∧
      (after m { host, out := {} }).out.finish S.factory S.slot = Flat.entries S.factory S.slot
        ((after n { host, out := {} }).out.writes S.slot.base) := by
  obtain ⟨hresult, hstate⟩ := h { host, out := {} } { host, out := {} }
    ⟨rfl, rfl, rfl, rfl, Flat.Holds.empty⟩
  exact ⟨hresult, hstate.host, hstate.out.finish⟩

end InStep

/-- A render ends as its chronicle does and leaves the host in the same state. Its entries are those
of the flat sequence of all that was written. -/
theorem render_eq (S : Setting σ κ) (depth : Nat) (root : Node) (host : σ) :
    render S depth root host =
      ((chronicle S depth root host).1.map fun _ => Flat.entries S.factory S.slot
          ((chronicle S depth root host).2.out.writes S.slot.base),
        (chronicle S depth root host).2.host) := by
  obtain ⟨hresult, hhost, hentries⟩ := (InStep.visit (S := S) depth root false).finish host
  change ((exec (Walk.visit S (renderer S) depth root false) _).1.map fun _ =>
    Draft.finish S.factory S.slot (after (Walk.visit S (renderer S) depth root false) _).out,
    (after (Walk.visit S (renderer S) depth root false) _).host) = _
  rw [hresult, hhost, hentries]
  rfl

theorem render_agrees (S : Setting σ κ) (depth : Nat) (root : Node) (host : σ) :
    ((render S depth root host).1.map fun _ => ()) = (chronicle S depth root host).1 ∧
      (render S depth root host).2 = (chronicle S depth root host).2.host := by
  rw [render_eq]
  refine ⟨?_, rfl⟩
  cases (chronicle S depth root host).1 <;> rfl

theorem result_render_error_iff (S : Setting σ κ) (depth : Nat) (root : Node) (host : σ)
    (e : RenderError) :
    (render S depth root host).1 = .error e ↔ (chronicle S depth root host).1 = .error e := by
  rw [← (render_agrees S depth root host).1]
  cases (render S depth root host).1 <;> simp [Except.map]

end Walk

end RichText
