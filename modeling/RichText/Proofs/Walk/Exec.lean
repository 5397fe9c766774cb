import RichText.Markup.Walk

namespace RichText.Walk

variable {σ κ ω α β : Type}

theorem forall_notMem_cons {name : String} {rest : List (String × α)}
    {seen : List String} (hname : name ∉ rest.map Prod.fst) (hs : ∀ l ∈ rest, l.1 ∉ seen) :
    ∀ l ∈ rest, l.1 ∉ name :: seen := by
  intro l hl hmem
  obtain heq | hmem := List.mem_cons.1 hmem
  · exact hname (List.mem_map.2 ⟨l, hl, heq⟩)
  · exact hs l hl hmem

def exec (m : Walk σ ω α) (w : WalkState σ ω) : Except RenderError α × WalkState σ ω :=
  m.run.run w

def after (m : Walk σ ω α) (w : WalkState σ ω) : WalkState σ ω := (exec m w).2

theorem exec_pure (a : α) (w : WalkState σ ω) : exec (pure a) w = (.ok a, w) := rfl

theorem exec_bind (m : Walk σ ω α) (f : α → Walk σ ω β) (w : WalkState σ ω) :
    exec (m >>= f) w =
      match exec m w with
      | (.ok a, w') => exec (f a) w'
      | (.error e, w') => (.error e, w') := by
  unfold exec ExceptT.run StateT.run
  simp only [bind, ExceptT.bind, ExceptT.mk, StateT.bind, ExceptT.bindCont]
  cases m w with
  | mk result w' => cases result <;> rfl

theorem exec_bind_ok {m : Walk σ ω α} {w w' : WalkState σ ω} {a : α} (h : exec m w = (.ok a, w'))
    (f : α → Walk σ ω β) : exec (m >>= f) w = exec (f a) w' := by
  rw [exec_bind, h]

theorem exec_bind_error {m : Walk σ ω α} {w w' : WalkState σ ω} {e : RenderError}
    (h : exec m w = (.error e, w')) (f : α → Walk σ ω β) : exec (m >>= f) w = (.error e, w') := by
  rw [exec_bind, h]

theorem result_bind_error {m : Walk σ ω α} {f : α → Walk σ ω β} {w : WalkState σ ω}
    {e : RenderError} (h : (exec (m >>= f) w).1 = .error e) :
    (exec m w).1 = .error e ∨ ∃ a w', exec m w = (.ok a, w') ∧ (exec (f a) w').1 = .error e := by
  rw [exec_bind] at h
  rcases hm : exec m w with ⟨e' | a, w'⟩ <;> rw [hm] at h
  · exact .inl (congrArg Except.error (Except.error.inj h))
  · exact .inr ⟨a, w', rfl, h⟩

theorem exec_onHost (S : Setting σ κ) (act : Context σ → StateM σ α) (w : WalkState σ ω) :
    exec (onHost S act) w =
      (.ok ((act (context S w.scope)).run w.host).1,
        { w with host := ((act (context S w.scope)).run w.host).2 }) := rfl

theorem exec_ensuring (body restore : Walk σ ω Unit) (w : WalkState σ ω) :
    exec (ensuring body restore) w =
      match exec body w with
      | (.ok _, w') => exec restore w'
      | (.error e, w') => exec (restore >>= fun _ => throw e) w' := by
  have hcatch : exec (tryCatch body fun e => restore >>= fun _ => throw e) w =
      match exec body w with
      | (.ok _, w') => ((.ok (), w') : Except RenderError Unit × WalkState σ ω)
      | (.error e, w') => exec (restore >>= fun _ => throw e) w' := by
    change (ExceptT.tryCatch body fun e => restore >>= fun _ => throw e).run.run w = _
    unfold exec ExceptT.run StateT.run
    simp only [ExceptT.tryCatch, ExceptT.mk, bind, StateT.bind]
    cases body w with
    | mk result w' => cases result <;> rfl
  rw [ensuring, exec_bind, hcatch]
  rcases exec body w with ⟨e | _, w'⟩
  · dsimp only
    rw [exec_bind]
    rcases exec restore w' with ⟨e' | _, w''⟩ <;> rfl
  · rfl

theorem exec_ensuring_congr {body body' : Walk σ ω Unit} {w : WalkState σ ω}
    (h : exec body w = exec body' w) (restore : Walk σ ω Unit) :
    exec (ensuring body restore) w = exec (ensuring body' restore) w := by
  rw [exec_ensuring, exec_ensuring, h]

theorem after_bind_throw (m : Walk σ ω α) (e : RenderError) (w : WalkState σ ω) :
    after (m >>= fun _ => (throw e : Walk σ ω β)) w = after m w := by
  unfold after
  rw [exec_bind]
  rcases exec m w with ⟨e' | _, w'⟩ <;> rfl

/-- The restoring part has the last word on the state, however the body ends. -/
theorem after_ensuring (body restore : Walk σ ω Unit) (w : WalkState σ ω) :
    after (ensuring body restore) w = after restore (after body w) := by
  unfold after
  rw [exec_ensuring]
  rcases exec body w with ⟨e | _, w'⟩
  · exact after_bind_throw restore e w'
  · rfl

theorem after_binding (bindings : List (String × Value)) (body : Walk σ ω Unit)
    (w : WalkState σ ω) :
    after (binding bindings body) w = after (onScope (·.rollback w.scope.depth))
      (after body (after (pushAll bindings) w)) :=
  after_ensuring body (onScope (·.rollback w.scope.depth)) (after (pushAll bindings) w)

def Yields (m : Walk σ ω α) (a : α) : Prop := ∃ w w', exec m w = (.ok a, w')

theorem after_bind (m : Walk σ ω α) (f : α → Walk σ ω β) (w : WalkState σ ω) :
    after (m >>= f) w = after m w ∨
      ∃ a, Yields m a ∧ after (m >>= f) w = after (f a) (after m w) := by
  unfold after
  rw [exec_bind]
  rcases hm : exec m w with ⟨e | a, w'⟩
  · exact .inl rfl
  · exact .inr ⟨a, ⟨w, w', hm⟩, rfl⟩

/-- `m` keeps to what `P` says of the state, also when it fails. -/
def Keeps (P : WalkState σ ω → Prop) (m : Walk σ ω α) : Prop := ∀ w, P w → P (after m w)

namespace Keeps

variable {P : WalkState σ ω → Prop}

theorem bind {m : Walk σ ω α} {f : α → Walk σ ω β} (hm : Keeps P m)
    (hf : ∀ a, Yields m a → Keeps P (f a)) : Keeps P (m >>= f) := by
  intro w hw
  obtain h | ⟨a, ha, h⟩ := after_bind m f w
  · rw [h]
    exact hm w hw
  · rw [h]
    exact hf a ha _ (hm w hw)

theorem ensuring {body restore : Walk σ ω Unit} (hb : Keeps P body) (hr : Keeps P restore) :
    Keeps P (ensuring body restore) := by
  intro w hw
  rw [after_ensuring]
  exact hr _ (hb w hw)

end Keeps

def Total (m : Walk σ ω α) : Prop := ∀ w, ∃ a, exec m w = (.ok a, after m w)

namespace Total

theorem pure (a : α) : Total (pure a : Walk σ ω α) := fun _ => ⟨a, rfl⟩

theorem look (f : WalkState σ ω → α) : Total (look f) := fun w => ⟨f w, rfl⟩

theorem onHost (S : Setting σ κ) (act : Context σ → StateM σ α) :
    Total (onHost S act : Walk σ ω α) := fun _ => ⟨_, rfl⟩

theorem onOut (f : ω → ω) : Total (onOut f : Walk σ ω Unit) := fun _ => ⟨(), rfl⟩

theorem onStyles (f : List Style → List Style) : Total (onStyles f : Walk σ ω Unit) :=
  fun _ => ⟨(), rfl⟩

theorem onScope (f : Scope → Scope) : Total (onScope f : Walk σ ω Unit) := fun _ => ⟨(), rfl⟩

theorem after_bind {m : Walk σ ω α} (hm : Total m) (f : α → Walk σ ω β) (w : WalkState σ ω) :
    ∃ a, exec m w = (.ok a, after m w) ∧ exec (m >>= f) w = exec (f a) (after m w) := by
  obtain ⟨a, ha⟩ := hm w
  exact ⟨a, ha, exec_bind_ok ha f⟩

theorem bind {m : Walk σ ω α} {f : α → Walk σ ω β} (hm : Total m) (hf : ∀ a, Total (f a)) :
    Total (m >>= f) := by
  intro w
  obtain ⟨a, -, h⟩ := hm.after_bind f w
  obtain ⟨b, hb⟩ := hf a (after m w)
  refine ⟨b, ?_⟩
  change exec (m >>= f) w = (.ok b, (exec (m >>= f) w).2)
  rw [h, hb]

theorem isOpen (S : Setting σ κ) (gate : Option Expr) :
    Total (isOpen S gate : Walk σ ω Bool) := by
  cases gate with
  | none => exact pure true
  | some e => exact (onHost S _).bind fun _ => pure _

theorem passes (S : Setting σ κ) (node : Node) (inChain : Bool) :
    Total (passes S node inChain : Walk σ ω Bool) := by
  cases inChain with
  | true => exact pure true
  | false => exact isOpen S _

theorem after_between {opening : Walk σ ω Unit} (ho : Total opening) (body closing : Walk σ ω Unit)
    (w : WalkState σ ω) :
    after (opening >>= fun _ => ensuring body closing) w =
      after closing (after body (after opening w)) := by
  obtain ⟨_, -, h⟩ := ho.after_bind (fun _ => ensuring body closing) w
  rw [← after_ensuring]
  exact congrArg Prod.snd h

/-- What is restored without failing does not change how the body ends. -/
theorem result_ensuring {restore : Walk σ ω Unit} (hr : Total restore) (body : Walk σ ω Unit)
    (w : WalkState σ ω) : (exec (ensuring body restore) w).1 = (exec body w).1 := by
  rw [exec_ensuring]
  rcases exec body w with ⟨e | _, w'⟩
  · obtain ⟨_, hrestore⟩ := hr w'
    dsimp only
    rw [exec_bind_ok hrestore]
    rfl
  · obtain ⟨_, hrestore⟩ := hr w'
    dsimp only
    rw [hrestore]

theorem result_binding (bindings : List (String × Value)) (body : Walk σ ω Unit)
    (w : WalkState σ ω) :
    (exec (binding bindings body) w).1 = (exec body (after (pushAll bindings) w)).1 :=
  (onScope (·.rollback w.scope.depth)).result_ensuring body (after (pushAll bindings) w)

end Total

/-- Once a node has been offered, it is known whether its content will be walked. -/
theorem exec_attended {S : Setting σ κ} {node : Node}
    {offer : Walk σ ω (Option (List (Interceptor σ)))} {answer : Option (List (Interceptor σ))}
    {w w' : WalkState σ ω}
    (h : exec offer { w with interceptors := register S node w.interceptors } = (.ok answer, w'))
    (finish : List (Interceptor σ) → Walk σ ω Unit) (body : Walk σ ω Unit) :
    exec (attended S node offer finish body) w =
      exec (match answer with
        | none => onInterceptors (·.unregisterTo w.interceptors.height)
        | some pending => ensuring body do
            finish pending
            onInterceptors (·.unregisterTo w.interceptors.height)) w' :=
  exec_bind_ok (m := offer) (w := { w with interceptors := register S node w.interceptors }) h _

theorem exec_attended_idle (S : Setting σ κ) {node : Node} (hn : node.attrs.interceptor = none)
    {offer : Walk σ ω (Option (List (Interceptor σ)))}
    {finish : List (Interceptor σ) → Walk σ ω Unit} (hf : finish [] = pure ())
    {body : Walk σ ω Unit} {w : WalkState σ ω} (ho : exec offer w = (.ok (some []), w))
    (hb : (after body w).interceptors.active = []) :
    exec (attended S node offer finish body) w = exec body w := by
  have hregister : register S node w.interceptors = w.interceptors := by rw [register, hn]
  have hclose : exec (finish [] >>= fun _ =>
      onInterceptors (·.unregisterTo w.interceptors.height)) (after body w) =
        (.ok (), after body w) := by
    have hcut : (after body w).interceptors.unregisterTo w.interceptors.height =
        (after body w).interceptors := by
      rw [InterceptorStack.unregisterTo, hb, List.drop_nil, ← hb]
    rw [hf, pure_bind]
    exact congrArg (fun i => ((.ok () : Except RenderError Unit),
      { after body w with interceptors := i })) hcut
  rw [exec_attended (by rwa [hregister]) finish body]
  change exec (ensuring body _) w = _
  rw [exec_ensuring]
  unfold after at hclose
  rcases hbody : exec body w with ⟨e | _, w'⟩ <;> rw [hbody] at hclose
  · dsimp only at hclose ⊢
    rw [exec_bind_ok hclose]
    rfl
  · exact hclose

end RichText.Walk
