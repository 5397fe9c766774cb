import RichText.Proofs.Walk.Protocol
import RichText.Proofs.Walk.Static

namespace RichText

variable {σ κ : Type}

/-- Both contexts give every name the same value, whatever the state of the host. -/
def Context.Agree (ctx ctx' : Context σ) : Prop :=
  ∃ values : String → Option Value, ∀ name host,
    (ctx.var name).run host = (values name, host) ∧ (ctx'.var name).run host = (values name, host)

namespace Walk

theorem agree_context {S : Setting σ κ} (h : S.env.Static) (scope : Scope) :
    (context S scope).Agree (context S scope) := by
  obtain ⟨values, hvalues⟩ := Scope.static_lookup h scope
  exact ⟨values, fun name host => ⟨hvalues name host, hvalues name host⟩⟩

/-- Every after-call closes the before-call that asked for it, and the contexts of both are in the
relation `R`. -/
inductive Paired (R : Context σ → Context σ → Prop) : List (Event σ κ) → Prop where
  | nil : Paired R []
  | single {e : Event σ κ} (hb : ∀ i node ctx, e ≠ .before i node ctx .proceedThenAfter)
    (ha : ∀ i node ctx, e ≠ .after i node ctx) : Paired R [e]
  | append {es es' : List (Event σ κ)} (h : Paired R es) (h' : Paired R es') : Paired R (es ++ es')
  | bracket {es : List (Event σ κ)} (i : Interceptor σ) (node : Node) {ctx ctx' : Context σ}
    (hr : R ctx ctx') (h : Paired R es) :
    Paired R (.before i node ctx .proceedThenAfter :: (es ++ [.after i node ctx']))

namespace Paired

variable {R : Context σ → Context σ → Prop} {node : Node} {ctx : Context σ}
  {es : List (Event σ κ)}

theorem cons {e : Event σ κ} (hb : ∀ i node ctx, e ≠ .before i node ctx .proceedThenAfter)
    (ha : ∀ i node ctx, e ≠ .after i node ctx) (h : Paired R es) : Paired R (e :: es) :=
  (single hb ha).append h

theorem owed_cons (i : Interceptor σ) (answer : Decision)
    (asked : List (Interceptor σ × Decision)) :
    owed ((i, answer) :: asked) =
      owed asked ++ if answer = .proceedThenAfter then [i] else [] := by
  unfold owed
  by_cases h : answer = .proceedThenAfter <;> simp [h]

theorem around (hr : R ctx ctx) (asked : List (Interceptor σ × Decision)) (h : Paired R es) :
    Paired R (befores node ctx asked ++ es ++ afters node ctx (owed asked)) := by
  induction asked with
  | nil => exact h.append .nil
  | cons a rest ih =>
    obtain ⟨i, answer⟩ := a
    rw [owed_cons]
    by_cases ha : answer = .proceedThenAfter
    · subst ha
      have := bracket i node hr ih
      simpa [befores, afters] using this
    · have := cons (e := .before i node ctx answer) (by simp [ha]) (by simp) ih
      simpa [befores, afters, ha] using this

theorem skipped (inner : List (Interceptor σ)) :
    Paired R (inner.map (.skipped · node) : List (Event σ κ)) := by
  induction inner with
  | nil => exact nil
  | cons i rest ih => exact cons (by simp) (by simp) ih

theorem of_offering {active pending : List (Interceptor σ)} {offered : List (Event σ κ)}
    (hr : R ctx ctx) (ho : Offering node ctx [] active offered (some pending))
    (h : Paired R es) : Paired R (offered ++ es ++ afters node ctx pending) := by
  cases ho with
  | accepted asked _ =>
    rw [List.append_nil]
    exact around hr asked h

theorem of_veto {active : List (Interceptor σ)} {offered : List (Event σ κ)} (hr : R ctx ctx)
    (ho : Offering node ctx [] active offered none) : Paired R offered := by
  cases ho with
  | vetoed asked _ i _ inner =>
    rw [List.append_nil]
    exact around hr asked (cons (by simp) (by simp) (skipped inner))

end Paired

theorem closed_paired {S : Setting σ κ} {R : Context σ → Context σ → Prop}
    (hr : ∀ scope, R (context S scope) (context S scope)) : Closed S (Paired (κ := κ) R) where
  nil := .nil
  append := .append
  useGate _ _ := .single (by simp) (by simp)
  ifGate _ _ := .single (by simp) (by simp)
  left _ := .single (by simp) (by simp)
  wrote _ _ _ := .single (by simp) (by simp)
  vetoed ho := .of_veto (hr _) ho
  accepted ho h := .of_offering (hr _) ho h

/-- A visit leaves the scope, the styles, the interceptors and the number of open frames as they
were, from whatever state it starts and however it ends. So every after-call sees the bindings that
its before-call saw, and a render ends with an empty scope. -/
theorem visit_restores (S : Setting σ κ) (depth : Nat) (node : Node) (inChain : Bool) :
    (∀ w : WalkState σ (Draft κ),
      (after (visit S (renderer S) depth node inChain) w).scope.frames = w.scope.frames ∧
      (after (visit S (renderer S) depth node inChain) w).styles = w.styles ∧
      (after (visit S (renderer S) depth node inChain) w).interceptors.active =
        w.interceptors.active ∧
      (after (visit S (renderer S) depth node inChain) w).out.depth = w.out.depth) ∧
    (∀ host, ((render S depth node host).1.map fun _ => ()) = (chronicle S depth node host).1 ∧
      (render S depth node host).2 = (chronicle S depth node host).2.host ∧
      (S.env.Static → Paired Context.Agree (chronicle S depth node host).2.out.events)) ∧
    ∀ host,
      (after (visit S (renderer S) depth node false) { host, out := {} }).scope.depth = 0 := by
  have hrestores := Restores.visit_renderer S depth node
  refine ⟨fun w => ?_, fun host => ?_, fun host => ?_⟩
  · obtain ⟨hscope, hstyles, hinterceptors, hout⟩ := hrestores inChain w
    rw [hscope, hinterceptors]
    exact ⟨rfl, hstyles, rfl, hout⟩
  · obtain ⟨hresult, hhost⟩ := render_agrees S depth node host
    exact ⟨hresult, hhost, fun hstatic =>
      (visit_chronicle S depth node host).closed (closed_paired (agree_context hstatic))⟩
  · rw [(hrestores false { host, out := {} }).scope]
    rfl

def attentive : Setting Unit Component where
  env _ := pure none
  coercion := {}
  fields := {}
  interceptors label := { label, before := fun _ _ => pure .proceedThenAfter }
  factory := Component.factory
  slot := .chat

theorem static_attentive : attentive.Static :=
  ⟨⟨fun _ => none, fun _ _ => rfl⟩, FieldTable.static_empty⟩

def watched : Node :=
  .mk { interceptor := some "watch" } (.container [.mk {} (.leaf (.text "a"))])

theorem visit_restores_watched :
    attentive.env.Static ∧ Paired Context.Agree (chronicle attentive 0 watched ()).2.out.events ∧
      ((chronicle attentive 0 watched ()).2.out.events.filterMap Event.notice).length = 4 := by
  have hstatic : attentive.env.Static := static_attentive.env
  exact ⟨hstatic, ((visit_restores attentive 0 watched false).2.1 ()).2.2 hstatic, rfl⟩

end Walk

end RichText
