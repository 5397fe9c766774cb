import RichText.Proofs.Walk.Chronicle

namespace RichText.Walk

variable {σ κ : Type} (S : Setting σ κ)

/-- The interceptors that have answered so are owed an after-call, the last asked first. -/
def owed (asked : List (Interceptor σ × Decision)) : List (Interceptor σ) :=
  ((asked.filter (·.2 = .proceedThenAfter)).map Prod.fst).reverse

def befores (node : Node) (ctx : Context σ) (asked : List (Interceptor σ × Decision)) :
    List (Event σ κ) := asked.map fun a => .before a.1 node ctx a.2

def afters (node : Node) (ctx : Context σ) (pending : List (Interceptor σ)) : List (Event σ κ) :=
  pending.map (.after · node ctx)

theorem exec_deliver (node : Node) (pending : List (Interceptor σ))
    (v : WalkState σ (Journal σ κ)) :
    ∃ host, exec (deliver S node pending) v =
      (.ok (), { v with host, out := v.out.log (afters node (context S v.scope) pending) }) := by
  induction pending generalizing v with
  | nil => exact ⟨v.host, by rw [afters, List.map_nil, Journal.log_nil]; rfl⟩
  | cons i rest ih =>
    obtain ⟨a, host, -, h⟩ := exec_noted S (i.after node) (fun ctx _ => .after i node ctx) v
    obtain ⟨host', h'⟩ := ih { v with
      host, out := v.out.log [.after i node (context S v.scope)] }
    refine ⟨host', ?_⟩
    rw [deliver, exec_bind_ok h, h', Journal.log_log]
    rfl

theorem exec_close (node : Node) (pending : List (Interceptor σ)) (height : Nat)
    (v : WalkState σ (Journal σ κ)) :
    ∃ host, exec (deliver S node pending >>= fun _ => onInterceptors (·.unregisterTo height)) v =
      (.ok (), { v with
        host, interceptors := v.interceptors.unregisterTo height
        out := v.out.log (afters node (context S v.scope) pending) }) := by
  obtain ⟨host, h⟩ := exec_deliver S node pending v
  exact ⟨host, exec_bind_ok h _⟩

theorem total_close (node : Node) (pending : List (Interceptor σ)) (height : Nat) :
    Total (deliver (κ := κ) S node pending >>= fun _ =>
      onInterceptors (·.unregisterTo height)) := by
  intro v
  obtain ⟨host, h⟩ := exec_close S node pending height v
  exact ⟨(), by rw [after, h]⟩

theorem exec_passOver (node : Node) (inner : List (Interceptor σ))
    (v : WalkState σ (Journal σ κ)) :
    ∃ host, exec (passOver S node inner) v = (.ok (), { v with
      host, out := v.out.log (inner.map (.skipped · node)) }) := by
  induction inner generalizing v with
  | nil => exact ⟨v.host, by rw [List.map_nil, Journal.log_nil]; rfl⟩
  | cons i rest ih =>
    obtain ⟨a, host, -, h⟩ := exec_noted S (fun _ => i.skipped node) (fun _ _ => .skipped i node) v
    obtain ⟨host', h'⟩ := ih { v with host, out := v.out.log [.skipped i node] }
    refine ⟨host', ?_⟩
    rw [passOver, exec_bind_ok h, h', Journal.log_log]
    rfl

def Decides (node : Node) (ctx : Context σ) (i : Interceptor σ) (answer : Decision) : Prop :=
  ∃ host, ((i.before node ctx).run host).1 = answer

def Admits (node : Node) (ctx : Context σ) (asked : List (Interceptor σ × Decision)) : Prop :=
  ∀ a ∈ asked, a.2 ≠ .veto ∧ Decides node ctx a.1 a.2

/-- The events of offering a node to interceptors, and the answer, if some are owed an after-call
already. Those that are asked before the first veto have answered otherwise. -/
inductive Offering (node : Node) (ctx : Context σ) (pending : List (Interceptor σ)) :
    List (Interceptor σ) → List (Event σ κ) → Option (List (Interceptor σ)) → Prop where
  | accepted (asked : List (Interceptor σ × Decision)) (h : Admits node ctx asked) :
    Offering node ctx pending (asked.map Prod.fst) (befores node ctx asked)
      (some (owed asked ++ pending))
  | vetoed (asked : List (Interceptor σ × Decision)) (h : Admits node ctx asked)
    (i : Interceptor σ) (hi : Decides node ctx i .veto) (inner : List (Interceptor σ)) :
    Offering node ctx pending (asked.map Prod.fst ++ i :: inner)
      (befores node ctx asked ++ .before i node ctx .veto :: inner.map (.skipped · node) ++
        afters node ctx (owed asked ++ pending)) none

theorem Offering.cons {node : Node} {ctx : Context σ} {pending inner : List (Interceptor σ)}
    {es : List (Event σ κ)} {result : Option (List (Interceptor σ))} (i : Interceptor σ)
    {answer : Decision} (ha : answer ≠ .veto) (hd : Decides node ctx i answer)
    (h : Offering node ctx (owed [(i, answer)] ++ pending) inner es result) :
    Offering node ctx pending (i :: inner) (.before i node ctx answer :: es) result := by
  have howed : ∀ asked, owed asked ++ (owed [(i, answer)] ++ pending) =
      owed ((i, answer) :: asked) ++ pending := by
    intro asked
    rw [← List.append_assoc, owed, owed, owed, ← List.reverse_append, ← List.map_append,
      ← List.filter_append]
    rfl
  have hasked : ∀ asked, Admits node ctx asked → Admits node ctx ((i, answer) :: asked) :=
    fun asked h => List.forall_mem_cons.2 ⟨⟨ha, hd⟩, h⟩
  cases h with
  | accepted asked h =>
    rw [howed]
    exact .accepted _ (hasked asked h)
  | vetoed asked h j hj inner =>
    rw [howed]
    exact .vetoed _ (hasked asked h) j hj inner

/-- Each of the events tells an active interceptor of the node. -/
def Own (active : List (Interceptor σ)) (node : Node) (es : List (Event σ κ)) : Prop :=
  ∀ e ∈ es, ∃ i ∈ active, e.notice = some (i, node)

theorem Own.ne_wrote {active : List (Interceptor σ)} {node : Node} {es : List (Event σ κ)}
    (h : Own active node es) : ∀ e ∈ es, ∀ path x, e ≠ .wrote path x := by
  rintro e he path x rfl
  obtain ⟨i, -, hnotice⟩ := h _ he
  cases hnotice

theorem own_afters {active pending : List (Interceptor σ)} (h : pending ⊆ active) (node : Node)
    (ctx : Context σ) : Own active node (afters (κ := κ) node ctx pending) := by
  intro e he
  obtain ⟨i, hi, rfl⟩ := List.mem_map.1 he
  exact ⟨i, h hi, rfl⟩

theorem owed_subset (asked : List (Interceptor σ × Decision)) :
    owed asked ⊆ asked.map Prod.fst := by
  intro i hi
  rw [owed, List.mem_reverse] at hi
  exact (List.filter_sublist.map Prod.fst).subset hi

namespace Offering

variable {node : Node} {ctx : Context σ} {active : List (Interceptor σ)} {es : List (Event σ κ)}

theorem pending_subset {pending : List (Interceptor σ)}
    (h : Offering node ctx [] active es (some pending)) : pending ⊆ active := by
  cases h with
  | accepted asked h =>
    rw [List.append_nil]
    exact owed_subset asked

theorem exists_veto {pending : List (Interceptor σ)}
    (h : Offering node ctx pending active es none) :
    ∃ i, .before i node ctx .veto ∈ es := by
  cases h with
  | vetoed asked h i hi inner => exact ⟨i, by simp⟩

theorem own {result : Option (List (Interceptor σ))} (h : Offering node ctx [] active es result) :
    Own active node es := by
  have hbefores : ∀ {asked more}, asked.map Prod.fst ++ more = active →
      Own active node (befores (κ := κ) node ctx asked) := by
    intro asked more hactive e he
    obtain ⟨a, ha, rfl⟩ := List.mem_map.1 he
    refine ⟨a.1, ?_, rfl⟩
    rw [← hactive]
    exact List.mem_append_left _ (List.mem_map_of_mem ha)
  cases h with
  | accepted asked h => exact hbefores (List.append_nil _)
  | vetoed asked h i hi inner =>
    intro e he
    simp only [List.mem_append, List.mem_cons, List.append_nil] at he
    obtain (he | rfl | he) | he := he
    · exact hbefores rfl e he
    · exact ⟨i, by simp, rfl⟩
    · obtain ⟨j, hj, rfl⟩ := List.mem_map.1 he
      exact ⟨j, by simp [hj], rfl⟩
    · have hsub := List.Subset.trans (owed_subset asked) (List.subset_append_left _ (i :: inner))
      exact own_afters hsub node ctx e he

end Offering

theorem exec_heed (node : Node) (active pending : List (Interceptor σ))
    (v : WalkState σ (Journal σ κ)) :
    ∃ host es result, Offering node (context S v.scope) pending active es result ∧
      exec (heed S node active pending) v = (.ok result, { v with host, out := v.out.log es }) := by
  induction active generalizing pending v with
  | nil => exact ⟨v.host, [], _, .accepted [] (by simp [Admits]), by rw [Journal.log_nil]; rfl⟩
  | cons i inner ih =>
    obtain ⟨answer, host, hanswer, h⟩ := exec_noted S (i.before node)
      (fun ctx answer => .before i node ctx answer) v
    let v' := { v with host, out := v.out.log [.before i node (context S v.scope) answer] }
    by_cases ha : answer = .veto
    · subst ha
      obtain ⟨host₁, h₁⟩ := exec_passOver S node inner v'
      obtain ⟨host₂, h₂⟩ := exec_deliver S node pending { v' with
        host := host₁, out := v'.out.log (inner.map (.skipped · node)) }
      refine ⟨host₂, _, none, .vetoed [] (by simp [Admits]) i ⟨v.host, hanswer⟩ inner, ?_⟩
      rw [heed, exec_bind_ok h]
      change exec (passOver S node inner >>= fun _ => deliver S node pending >>= fun _ =>
        pure none) v' = _
      rw [exec_bind_ok h₁, exec_bind_ok h₂, exec_pure, Journal.log_log, Journal.log_log]
      rfl
    · have hstep : exec (heed S node (i :: inner) pending) v =
          exec (heed S node inner (owed [(i, answer)] ++ pending)) v' := by
        rw [heed, exec_bind_ok h]
        cases answer with
        | proceed => rfl
        | proceedThenAfter => rfl
        | veto => exact absurd rfl ha
      obtain ⟨host', es, result, hoffer, hexec⟩ := ih (owed [(i, answer)] ++ pending) v'
      refine ⟨host', _, result, hoffer.cons i ha ⟨v.host, hanswer⟩, ?_⟩
      rw [hstep, hexec, Journal.log_log]
      rfl

theorem exec_heedAll (node : Node) (v : WalkState σ (Journal σ κ)) :
    ∃ host offered result,
      Offering node (context S v.scope) [] v.interceptors.active.reverse offered result ∧
      exec (heedAll S node) v = (.ok result, { v with host, out := v.out.log offered }) :=
  exec_heed S node v.interceptors.active.reverse [] v

theorem exec_attended_heedAll (node : Node) (body : Walk σ (Journal σ κ) Unit)
    (v : WalkState σ (Journal σ κ)) :
    ∃ host offered result,
      Offering node (context S v.scope) [] (register S node v.interceptors).active.reverse offered
        result ∧
      exec (attended S node (heedAll S node) (deliver S node) body) v =
        exec (match result with
          | none => onInterceptors (·.unregisterTo v.interceptors.height)
          | some pending => ensuring body do
              deliver S node pending
              onInterceptors (·.unregisterTo v.interceptors.height))
          { v with
            host, interceptors := register S node v.interceptors, out := v.out.log offered } := by
  obtain ⟨host, offered, result, ho, hheed⟩ :=
    exec_heedAll S node { v with interceptors := register S node v.interceptors }
  exact ⟨host, offered, result, ho, exec_attended hheed (deliver S node) body⟩

theorem exec_heedAll_idle (node : Node) {u : WalkState σ (Journal σ κ)}
    (h : u.interceptors.active = []) : exec (heedAll S node) u = (.ok (some []), u) := by
  obtain ⟨host, scope, styles, ⟨active⟩, out⟩ := u
  obtain rfl : active = [] := h
  rfl

theorem total_heedAll (node : Node) : Total (heedAll (κ := κ) S node) := by
  intro v
  obtain ⟨host, es, result, -, h⟩ := exec_heedAll S node v
  exact ⟨result, by rw [after, h]⟩

theorem total_deliver (node : Node) (pending : List (Interceptor σ)) :
    Total (deliver (κ := κ) S node pending) := by
  intro v
  obtain ⟨host, h⟩ := exec_deliver S node pending v
  exact ⟨(), by rw [after, h]⟩

namespace Restores

variable {S}

theorem heedAll (node : Node) : Restores Journal.path (heedAll (κ := κ) S node) := by
  intro v
  obtain ⟨host, es, result, -, h⟩ := exec_heedAll S node v
  rw [after, h]
  exact ⟨rfl, rfl, rfl, rfl⟩

theorem deliver (node : Node) (pending : List (Interceptor σ)) :
    Restores Journal.path (deliver (κ := κ) S node pending) := by
  intro v
  obtain ⟨host, h⟩ := exec_deliver S node pending v
  rw [after, h]
  exact ⟨rfl, rfl, rfl, rfl⟩

theorem note (e : Event σ κ) : Restores Journal.path (note e) := fun _ => ⟨rfl, rfl, rfl, rfl⟩

variable (S)

theorem layered (delta : Option StyleDelta) {body : Walk σ (Journal σ κ) Unit}
    (hb : Restores Journal.path body) : Restores Journal.path (layered S delta body) := by
  cases delta with
  | none => exact hb
  | some d =>
    refine (onHost S _).bind fun own _ => between (Total.onOut _) (fun w v h => ?_) hb
    exact ⟨h.scope, h.styles, h.interceptors, congrArg List.tail h.out⟩

theorem entered (node : Node) (inChain : Bool) {body : Walk σ (Journal σ κ) Unit}
    (hb : Restores Journal.path body) : Restores Journal.path (entered S node inChain body) := by
  refine ((congruence S).likeness.passes rfl inChain).bind fun passed _ =>
    (note _).bind fun _ _ => ?_
  cases passed with
  | false => exact (congruence S).pure ()
  | true => exact (layered S _ hb).bound S _

theorem observed (node : Node) (inChain : Bool) {body : Walk σ (Journal σ κ) Unit}
    (hb : Restores Journal.path body) : Restores Journal.path (observed S node inChain body) := by
  refine ((congruence S).likeness.isOpen _).bind fun opened _ => (note _).bind fun _ _ => ?_
  cases opened with
  | false => exact (congruence S).pure ()
  | true =>
    exact (attended S node (heedAll node) (total_heedAll S node) (deliver node)
      (total_deliver S node) (entered S node inChain hb)).ensuring (note _)

theorem chronicler_write (x : Write κ) : Restores Journal.path ((chronicler S).write x) :=
  fun _ => ⟨rfl, rfl, rfl, rfl⟩

theorem visit_chronicler (depth : Nat) (node : Node) (inChain : Bool) :
    Restores Journal.path (Walk.visit S (chronicler (κ := κ) S) depth node inChain) :=
  visit S (chronicler S) (chronicler_write S) (fun node inChain _ => observed S node inChain) depth
    node inChain

end Restores

/-! ### Offering nodes to the same interceptors -/

/-- A relation between chronicles in two settings that does not notice it if both do the same with
the active interceptors. -/
structure Attending (S S' : Setting σ κ)
    (R : ∀ α : Type, Walk σ (Journal σ κ) α → Walk σ (Journal σ κ) α → Prop) : Prop where
  interceptors : S.interceptors = S'.interceptors
  pure : ∀ {α : Type} (a : α), R α (pure a) (pure a)
  bind : ∀ {α β : Type} {m n : Walk σ (Journal σ κ) α} {f g : α → Walk σ (Journal σ κ) β},
    R α m n → (∀ a, R β (f a) (g a)) → R β (m >>= f) (n >>= g)
  ensuring : ∀ {body body' restore restore' : Walk σ (Journal σ κ) Unit},
    R Unit body body' → R Unit restore restore' →
    R Unit (ensuring body restore) (ensuring body' restore')
  look : ∀ {α : Type} (f : InterceptorStack σ → α),
    R α (look fun w => f w.interceptors) (look fun w => f w.interceptors)
  onInterceptors : ∀ f : InterceptorStack σ → InterceptorStack σ,
    R Unit (onInterceptors f) (onInterceptors f)
  noted : ∀ {α : Type} (act : Context σ → StateM σ α) {e : Context σ → α → Event σ κ},
    (∀ ctx a path x, e ctx a ≠ .wrote path x) → R α (noted S act e) (noted S' act e)

namespace Attending

variable {S S' : Setting σ κ}
  {R : ∀ α : Type, Walk σ (Journal σ κ) α → Walk σ (Journal σ κ) α → Prop}
  (hR : Attending S S' R)

include hR

theorem deliver (node : Node) (pending : List (Interceptor σ)) :
    R Unit (deliver S node pending) (Walk.deliver S' node pending) := by
  induction pending with
  | nil => exact hR.pure ()
  | cons i rest ih => exact hR.bind (hR.noted (i.after node) (by simp)) fun _ => ih

theorem passOver (node : Node) (inner : List (Interceptor σ)) :
    R Unit (passOver S node inner) (Walk.passOver S' node inner) := by
  induction inner with
  | nil => exact hR.pure ()
  | cons i rest ih => exact hR.bind (hR.noted (fun _ => i.skipped node) (by simp)) fun _ => ih

theorem heed (node : Node) (active pending : List (Interceptor σ)) :
    R _ (heed S node active pending) (Walk.heed S' node active pending) := by
  induction active generalizing pending with
  | nil => exact hR.pure _
  | cons i inner ih =>
    refine hR.bind (hR.noted (i.before node) (by simp)) fun answer => ?_
    cases answer with
    | proceed => exact ih pending
    | proceedThenAfter => exact ih (i :: pending)
    | veto =>
      exact hR.bind (hR.passOver node inner) fun _ =>
        hR.bind (hR.deliver node pending) fun _ => hR.pure none

theorem attended (node : Node) {body body' : Walk σ (Journal σ κ) Unit} (h : R Unit body body') :
    R Unit (attended S node (heedAll S node) (Walk.deliver S node) body)
      (Walk.attended S' node (heedAll S' node) (Walk.deliver S' node) body') := by
  have hregister : register S node = register S' node := by
    unfold register
    rw [hR.interceptors]
  have hheedAll : R _ (heedAll S node) (heedAll S' node) :=
    hR.bind (hR.look fun i => i.active.reverse) fun active => hR.heed node active []
  refine hR.bind (hR.look InterceptorStack.height) fun height =>
    hR.bind (hregister ▸ hR.onInterceptors _) fun _ => hR.bind hheedAll fun answer => ?_
  cases answer with
  | none => exact hR.onInterceptors _
  | some pending =>
    exact hR.ensuring h (hR.bind (hR.deliver node pending) fun _ => hR.onInterceptors _)

end Attending

end RichText.Walk
