import Mathlib.Data.List.Perm.Subperm
import RichText.Proofs.Walk.Depth
import RichText.Proofs.Walk.Failure
import RichText.Proofs.Walk.Provenance

namespace RichText

variable {σ κ : Type} {M : Nat × Node → Prop}

def Bindings.markups (b : Bindings σ) : List (Nat × Node) :=
  b.vars.flatMap fun e =>
    match e.2 with
    | .stored v => v.markups
    | .supplied _ => []

def Bindings.storing (vars : Keyed Value) : Bindings σ :=
  ⟨vars.map fun e => (e.1, .stored e.2)⟩

/-- The names of the setting are those of stored bindings, and neither its coercion nor the readers
of its fields bring in markup that is not in the value they are given. -/
structure Setting.Rests (b : Bindings σ) (S : Setting σ κ) : Prop where
  env : S.env = b.lookup
  stored : ∀ name, b.isSupplied name = false
  asList : ∀ v, ∀ item ∈ S.coercion.asList v, item.markups ⊆ v.markups
  read : ∀ target field, Gives (·.markups ⊆ target.markups) (S.fields.read target field)

theorem Setting.Rests.within {b : Bindings σ} {S : Setting σ κ} (h : S.Rests b) :
    S.Within (· ∈ b.markups) where
  env name := by
    rw [h.env]
    unfold Bindings.lookup
    cases hname : b.vars.get? name with
    | none => exact .pure fun _ hv => nomatch hv
    | some binding =>
      cases binding with
      | stored v =>
        obtain ⟨before, later, hvars, -⟩ := List.lookup_eq_some_iff.1 hname
        refine fun host a ha => ?_
        obtain rfl : v = a := Option.some.inj ha
        intro m hm
        refine List.mem_flatMap.2 ⟨(name, .stored v), ?_, hm⟩
        rw [hvars]
        exact List.mem_append_right before List.mem_cons_self
      | supplied supplier =>
        have hstored := h.stored name
        simp [Bindings.isSupplied, hname, Binding.isSupplied] at hstored
  asList v hv item hitem m hm := hv m (h.asList v item hitem hm)
  read target field ht host m hm := ht m (h.read target field host hm)

namespace Walk

variable {S : Setting σ κ}

/-- A visit of the node from the state `v` comes to splice in the last markup of the list, in the
walk of the one before it, and so on up to the first, in the walk of the node. -/
inductive Opens (S : Setting σ κ) : Nat → Node → Bool → WalkState σ (Journal σ κ) →
    List (Nat × Node) → Prop where
  | part {depth : Nat} {node part : Node} {inChain inPart : Bool}
    {pending : List (Interceptor σ)} {v u w v' : WalkState σ (Journal σ κ)}
    {ms : List (Nat × Node)} (ha : Admitted S node inChain v pending u)
    (hb : exec (beginBody S node) u = (.ok (), w))
    (hc : Comes S (splicer S depth) node.content w part inPart v')
    (ho : Opens S depth part inPart v' ms) : Opens S depth node inChain v ms
  | spliced {depth : Nat} {node markup : Node} {inChain : Bool} {e : Expr} {id : Nat}
    {display : String} {pending : List (Interceptor σ)} {v u w v' : WalkState σ (Journal σ κ)}
    (ha : Admitted S node inChain v pending u) (hb : exec (beginBody S node) u = (.ok (), w))
    (hc : node.content = .interpolation e)
    (hv : exec (eval S e) w = (.ok (.markup id display markup), v')) :
    Opens S depth node inChain v [(id, markup)]
  | nested {depth : Nat} {node markup : Node} {inChain : Bool} {e : Expr} {id : Nat}
    {display : String} {pending : List (Interceptor σ)} {v u w v' : WalkState σ (Journal σ κ)}
    {ms : List (Nat × Node)} (ha : Admitted S node inChain v pending u)
    (hb : exec (beginBody S node) u = (.ok (), w)) (hc : node.content = .interpolation e)
    (hv : exec (eval S e) w = (.ok (.markup id display markup), v'))
    (ho : Opens S depth markup false v' ms) :
    Opens S (depth + 1) node inChain v ((id, markup) :: ms)

/-- Some markup is spliced in while it is itself being walked. -/
def SplicesItself (S : Setting σ κ) (root : Node) (host : σ) : Prop :=
  ∃ depth ms, Opens S depth root false { host, out := {} } ms ∧ ¬ ms.Nodup

theorem Opens.within (hS : S.Within M) {depth : Nat} {node : Node} {inChain : Bool}
    {v : WalkState σ (Journal σ κ)} {ms : List (Nat × Node)} (h : Opens S depth node inChain v ms)
    (hv : v.scope.Within M) : ∀ m ∈ ms, M m := by
  induction h with
  | part ha hb hc _ ih =>
    exact ih (hc.within (ha.within_begin hv hS hb) hS (restores_splicer S _))
  | spliced ha hb _ he =>
    obtain ⟨-, hm⟩ := Brings.eval hS _ _ _ _ (ha.within_begin hv hS hb) he
    exact List.forall_mem_singleton.2 (Value.within_markup.1 hm)
  | nested ha hb _ he _ ih =>
    obtain ⟨hv', hm⟩ := Brings.eval hS _ _ _ _ (ha.within_begin hv hS hb) he
    exact List.forall_mem_cons.2 ⟨Value.within_markup.1 hm, ih hv'⟩

/-- Where the depth is not enough, as much markup and one more is nested. -/
theorem exists_opens_of_error {depth : Nat}
    (hsplice : ∀ markup v, (exec (splicer (κ := κ) S depth markup) v).1 = .error .spliceDepth →
      depth = 0 ∨ ∃ n ms, depth = n + 1 ∧ Opens S n markup false v ms ∧ ms.length = depth)
    (node : Node) (inChain : Bool) (v : WalkState σ (Journal σ κ))
    (h : (exec (visitWith S (chronicler S) (splicer S depth) node inChain) v).1 =
      .error .spliceDepth) :
    ∃ ms, Opens S depth node inChain v ms ∧ ms.length = depth + 1 := by
  induction node using Node.induct generalizing inChain v with
  | h attrs content ih =>
    obtain ⟨pending, u, ha, ⟨name, hname, -⟩ | ⟨w, hbegin, hbody⟩⟩ := visitWith_error_cases h
    · cases hname
    · obtain ⟨part, inPart, v', hc, hpart⟩ | ⟨e, id, display, markup, v', hc, hv, hmarkup⟩ := hbody
      · obtain ⟨ms, ho, hms⟩ := ih (part, inPart) hc.mem_parts inPart v' hpart
        exact ⟨ms, .part ha hbegin hc ho, hms⟩
      · obtain rfl | ⟨n, ms, rfl, ho, hms⟩ := hsplice markup v' hmarkup
        · exact ⟨_, .spliced ha hbegin hc hv, rfl⟩
        · exact ⟨_, .nested ha hbegin hc hv ho, by rw [List.length_cons, hms]⟩

theorem Admitted.result_visit {depth : Nat} {node : Node} {inChain : Bool}
    {pending : List (Interceptor σ)} {v u w : WalkState σ (Journal σ κ)}
    (ha : Admitted S node inChain v pending u) (hb : exec (beginBody S node) u = (.ok (), w)) :
    (exec (visit S (chronicler S) depth node inChain) v).1 =
      (exec (dispatch S (chronicler S) (splicer S depth) node.content) w).1 := by
  rw [visit_eq, visitWith_eq, (ha.exec_observed _).1, (exec_body_of_ok _ hb).1]

theorem Opens.result_visit {depth : Nat} {node : Node} {inChain : Bool}
    {v : WalkState σ (Journal σ κ)} {ms : List (Nat × Node)} (h : Opens S depth node inChain v ms)
    (hms : ms.length = depth + 1) :
    (exec (visit S (chronicler S) depth node inChain) v).1 = .error .spliceDepth := by
  induction h with
  | part ha hb hc _ ih =>
    have hpart := ih hms
    rw [visit_eq] at hpart
    rw [ha.result_visit hb]
    exact (hc.exec_dispatch (Prod.ext hpart rfl)).1
  | spliced ha hb hc hv =>
    obtain rfl := Nat.succ.inj hms
    rw [ha.result_visit hb, hc, dispatch, exec_bind_ok hv]
    rfl
  | nested ha hb hc hv _ ih =>
    rw [ha.result_visit hb, hc, dispatch, exec_bind_ok hv]
    exact ih (Nat.succ.inj hms)

/-- The depth keeps a visit from its end exactly if more markup than that is nested. -/
theorem spliceDepth_iff_opens (S : Setting σ κ) (depth : Nat) (node : Node) (inChain : Bool)
    (v : WalkState σ (Journal σ κ)) :
    (exec (visit S (chronicler S) depth node inChain) v).1 = .error .spliceDepth ↔
      ∃ ms, Opens S depth node inChain v ms ∧ ms.length = depth + 1 := by
  constructor
  · intro h
    rw [visit_eq] at h
    -- each level of the depth has a spliced tree of its own to walk
    induction depth generalizing node inChain v with
    | zero => exact exists_opens_of_error (fun _ _ _ => .inl rfl) node inChain v h
    | succ n ih =>
      refine exists_opens_of_error (fun markup w hw => .inr ?_) node inChain v h
      change (exec (visit S (chronicler S) n markup false) w).1 = _ at hw
      rw [visit_eq] at hw
      obtain ⟨ms, ho, hms⟩ := ih markup false w hw
      exact ⟨n, ms, rfl, ho, hms⟩
  · rintro ⟨ms, ho, hms⟩
    exact ho.result_visit hms

theorem Opens.length_le {depth : Nat} {node : Node} {inChain : Bool}
    {v : WalkState σ (Journal σ κ)} {ms : List (Nat × Node)} (h : Opens S depth node inChain v ms) :
    ms.length ≤ depth + 1 := by
  induction h with
  | part _ _ _ _ ih => exact ih
  | spliced => exact Nat.le_add_left 1 _
  | nested _ _ _ _ _ ih => exact Nat.succ_le_succ ih

/-- A render comes to its end exactly if the nesting of the markup that it splices in is bounded.
Over stored bindings it is, by the number of the markup trees in them, unless some markup is spliced
in while it is itself being walked. More depth than that changes nothing. -/
theorem render_terminates (S : Setting σ κ) (b : Bindings σ) (root : Node) (host : σ) :
    ((∃ depth, (render S depth root host).1 ≠ .error .spliceDepth) ↔
        ∃ depth, ∀ ms, Opens S depth root false { host, out := {} } ms → ms.length ≤ depth) ∧
      (S.Rests b → ¬ SplicesItself S root host → ∀ depth, b.markups.length ≤ depth →
        (render S depth root host).1 ≠ .error .spliceDepth ∧
          render S depth root host = render S b.markups.length root host) := by
  have hdeep : ∀ depth, (render S depth root host).1 = .error .spliceDepth ↔
      ∃ ms, Opens S depth root false { host, out := {} } ms ∧ ms.length = depth + 1 := by
    intro depth
    rw [result_render_error_iff]
    exact spliceDepth_iff_opens S depth root false _
  constructor
  · refine exists_congr fun depth => ?_
    rw [Ne, hdeep]
    constructor
    · intro hend ms ho
      have hne : ms.length ≠ depth + 1 := fun hms => hend ⟨ms, ho, hms⟩
      exact Nat.le_of_lt_succ (lt_of_le_of_ne ho.length_le hne)
    · rintro hbound ⟨ms, ho, hms⟩
      have hle := hbound ms ho
      omega
  · intro hS hself depth hd
    have hdone : (render S b.markups.length root host).1 ≠ .error .spliceDepth := by
      rw [Ne, hdeep]
      rintro ⟨ms, ho, hms⟩
      have hn : ms.Nodup := by
        by_contra hrepeat
        exact hself ⟨_, ms, ho, hrepeat⟩
      have hle := (hn.subperm (ho.within hS.within .empty)).length_le
      omega
    have hsame := render_le S hd root host hdone
    exact ⟨hsame ▸ hdone, hsame⟩

def storing (vars : Keyed Value) : Setting Unit Component where
  env := (Bindings.storing vars).lookup
  coercion := {}
  fields := {}
  interceptors label := { label, before := fun _ _ => pure .proceed }
  factory := Component.factory
  slot := .chat

theorem rests_storing (vars : Keyed Value) : (storing vars).Rests (Bindings.storing vars) where
  env := rfl
  stored name := by
    unfold Bindings.isSupplied
    cases h : (Bindings.storing (σ := Unit) vars).vars.get? name with
    | none => rfl
    | some binding =>
      obtain ⟨before, later, hvars, -⟩ := List.lookup_eq_some_iff.1 h
      have hmem : (name, binding) ∈ (Bindings.storing vars).vars :=
        hvars ▸ List.mem_append_right before List.mem_cons_self
      obtain ⟨e, -, he⟩ := List.mem_map.1 hmem
      obtain rfl : Binding.stored e.2 = binding := congrArg Prod.snd he
      rfl
  asList v := Value.within_asList fun _ hm => hm
  read target field host := by
    change ((({} : FieldTable Unit).read target field).run host).1.markups ⊆ target.markups
    rw [FieldTable.read_empty]
    exact List.nil_subset _

def splicing (name : String) : Node := .mk {} (.interpolation (.atom (.ident name)))

def hello : Node := .mk {} (.leaf (.text "hello"))

def greetings : Keyed Value := [("greeting", .markup 0 "greeting" hello)]

def twice : Node := .mk {} (.container [splicing "greeting", splicing "greeting"])

theorem render_terminates_twice :
    (storing greetings).Rests (Bindings.storing greetings) ∧
      ¬ SplicesItself (storing greetings) twice () ∧
      (Bindings.storing (σ := Unit) greetings).markups.length ≤ 7 ∧
      (render (storing greetings) 7 twice ()).1 ≠ .error .spliceDepth := by
  have hM : (storing greetings).Within (· ∈ [(0, hello)]) := (rests_storing greetings).within
  have hhello : ∀ {depth ms inChain v}, ¬ Opens (storing greetings) depth hello inChain v ms := by
    intro depth ms inChain v h
    cases h with
    | part _ _ hc => cases hc
    | spliced _ _ hc => cases hc
    | nested _ _ hc => cases hc
  have hgreeting : ∀ {depth ms inChain v}, v.scope.Within (· ∈ [(0, hello)]) →
      Opens (storing greetings) depth (splicing "greeting") inChain v ms → ms.Nodup := by
    intro depth ms inChain v hv h
    have hms := h.within hM hv
    cases h with
    | part _ _ hc => cases hc
    | spliced => exact List.nodup_singleton _
    | nested _ _ _ _ ho =>
      cases List.mem_singleton.1 (hms _ List.mem_cons_self)
      exact absurd ho hhello
  have hself : ¬ SplicesItself (storing greetings) twice () := by
    rintro ⟨depth, ms, h, hn⟩
    cases h with
    | @part _ _ part _ inPart _ _ _ _ _ _ ha hb hc ho =>
      have hv := hc.within (ha.within_begin .empty hM hb) hM (restores_splicer _ _)
      obtain ⟨rfl, -⟩ : part = splicing "greeting" ∧ inPart = false := by
        simpa [twice, Node.content, Content.parts] using hc.mem_parts
      exact hn (hgreeting hv ho)
    | spliced _ _ hc => cases hc
    | nested _ _ hc => cases hc
  have hlength : (Bindings.storing (σ := Unit) greetings).markups.length ≤ 7 := by decide
  exact ⟨rests_storing greetings, hself, hlength,
    ((render_terminates _ _ twice ()).2 (rests_storing greetings) hself 7 hlength).1⟩

section

variable {name : String} {v : WalkState σ (Journal σ κ)}

theorem exec_eval_ident {value : Value} (hname : v.scope.find? name = none)
    (henv : S.env name = pure (some value)) :
    exec (eval S (.atom (.ident name))) v = (.ok value, v) := by
  have hvar : (context S v.scope).var name = pure (some value) := by
    change v.scope.lookup S.env name = _
    unfold Scope.lookup
    rw [hname]
    exact henv
  unfold eval Expr.eval
  rw [exec_onHost, Atom.eval, hvar]
  rfl

theorem admitted_splicing (S : Setting σ κ) (name : String) (hidle : v.interceptors.active = []) :
    ∃ out, Admitted S (splicing name) false v [] { v with out } := by
  let opened : WalkState σ (Journal σ κ) :=
    { v with out := v.out.log [.useGate (splicing name) true] }
  have hoffer : exec (heedAll S (splicing name)) opened = (.ok (some []), opened) :=
    exec_heedAll_idle S _ hidle
  have hnode : Admitted S (splicing name) false v []
      { opened with out := opened.out.log [.ifGate (splicing name) true] } := .mk rfl hoffer rfl
  exact ⟨_, hnode⟩

theorem opens_endless {id : Nat} {display : String}
    (henv : S.env name = pure (some (.markup id display (splicing name))))
    (hname : v.scope.find? name = none) (hidle : v.interceptors.active = []) (depth : Nat) :
    Opens S depth (splicing name) false v (List.replicate (depth + 1) (id, splicing name)) := by
  induction depth generalizing v with
  | zero =>
    obtain ⟨out, hnode⟩ := admitted_splicing S name hidle
    have hscope : { v with out }.scope.find? name = none := hname
    exact .spliced hnode rfl rfl (exec_eval_ident hscope henv)
  | succ depth ih =>
    obtain ⟨out, hnode⟩ := admitted_splicing S name hidle
    have hscope : { v with out }.scope.find? name = none := hname
    exact .nested hnode rfl rfl (exec_eval_ident hscope henv) (ih hscope hidle)

end

def endless : Keyed Value := [("x", .markup 0 "x" (splicing "x"))]

theorem not_render_terminates_endless :
    (storing endless).Rests (Bindings.storing endless) ∧
      SplicesItself (storing endless) (splicing "x") () ∧
      ¬ ∃ depth, (render (storing endless) depth (splicing "x") ()).1 ≠ .error .spliceDepth := by
  have hopens : ∀ depth, Opens (storing endless) depth (splicing "x") false
      { host := (), out := {} } (List.replicate (depth + 1) (0, splicing "x")) :=
    opens_endless rfl rfl rfl
  have hself : SplicesItself (storing endless) (splicing "x") () :=
    ⟨1, _, hopens 1, by rw [List.nodup_replicate]; decide⟩
  refine ⟨rests_storing endless, hself, fun ⟨depth, hend⟩ => hend ?_⟩
  rw [result_render_error_iff]
  exact (hopens depth).result_visit List.length_replicate

end Walk

end RichText
