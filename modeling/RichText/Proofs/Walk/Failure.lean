import RichText.Proofs.Walk.Lockstep
import RichText.Proofs.Walk.Propagation

namespace RichText.Walk

variable {σ κ α β : Type} {S : Setting σ κ}

/-- No body was begun whose node binds a name twice. -/
def Clean (es : List (Event σ κ)) : Prop :=
  ∀ node, .ifGate node true ∈ es → (node.attrs.lets.map Prod.fst).Nodup

def Onward (w v : WalkState σ (Journal σ κ)) : Prop :=
  ∃ es, v.out.events = w.out.events ++ es ∧ Clean es

theorem Own.clean {active : List (Interceptor σ)} {node : Node} {es : List (Event σ κ)}
    (h : Own active node es) : Clean es := by
  intro n hn
  obtain ⟨i, -, hnotice⟩ := h _ hn
  cases hnotice

theorem clean_singleton {e : Event σ κ} (h : ∀ node, e ≠ .ifGate node true) : Clean [e] :=
  fun node hn => absurd (List.mem_singleton.1 hn).symm (h node)

namespace Onward

variable {w v u : WalkState σ (Journal σ κ)}

theorem of_events (h : v.out.events = w.out.events) : Onward w v :=
  ⟨[], by rw [h, List.append_nil], fun _ hn => absurd hn List.not_mem_nil⟩

theorem of_begun {node : Node} (hn : (node.attrs.lets.map Prod.fst).Nodup)
    (h : v.out.events = w.out.events ++ [.ifGate node true]) : Onward w v := by
  refine ⟨[.ifGate node true], h, fun n hmem => ?_⟩
  obtain rfl : n = node := by simpa using hmem
  exact hn

theorem trans (h : Onward w v) (h' : Onward v u) : Onward w u := by
  obtain ⟨es, hv, hes⟩ := h
  obtain ⟨es', hu, hes'⟩ := h'
  refine ⟨es ++ es', by rw [hu, hv, List.append_assoc], fun node hn => ?_⟩
  exact (List.mem_append.1 hn).elim (hes node) (hes' node)

end Onward

/-- If `m` does not fail, then it has not begun a body whose node binds a name twice. -/
def Clear (m : Walk σ (Journal σ κ) α) : Prop := ∀ w a v, exec m w = (.ok a, v) → Onward w v

namespace Clear

theorem of_quiet {m : Walk σ (Journal σ κ) α} (h : ∀ v, (after m v).out.events = v.out.events) :
    Clear m := by
  intro w a v hm
  have hevents := h w
  rw [after, hm] at hevents
  exact .of_events hevents

theorem bind {m : Walk σ (Journal σ κ) α} {f : α → Walk σ (Journal σ κ) β} (hm : Clear m)
    (hf : ∀ a, Yields m a → Clear (f a)) : Clear (m >>= f) := by
  intro w b v h
  rcases hexec : exec m w with ⟨e | a, u⟩
  · rw [exec_bind_error hexec] at h
    cases congrArg Prod.fst h
  · rw [exec_bind_ok hexec] at h
    exact (hm w a u hexec).trans (hf a ⟨w, u, hexec⟩ u b v h)

theorem ensuring {body restore : Walk σ (Journal σ κ) Unit} (hb : Clear body) (hr : Clear restore) :
    Clear (ensuring body restore) := by
  intro w a v h
  rw [exec_ensuring] at h
  rcases hexec : exec body w with ⟨e | _, u⟩ <;> rw [hexec] at h
  · dsimp only at h
    rcases hrestore : exec restore u with ⟨e' | _, u'⟩
    · rw [exec_bind_error hrestore] at h
      cases congrArg Prod.fst h
    · rw [exec_bind_ok hrestore] at h
      cases congrArg Prod.fst h
  · exact (hb w () u hexec).trans (hr u a v h)

theorem scopeCongruence (S : Setting σ κ) :
    ScopeCongruence S fun _ (m : Walk σ (Journal σ κ) _) (_ : Walk σ (Journal σ κ) _) =>
      Clear m where
  pure _ := of_quiet fun _ => rfl
  throw _ := of_quiet fun _ => rfl
  onHost _ := of_quiet fun _ => rfl
  bind := bind
  lookScope _ := of_quiet fun _ => rfl
  onScope _ := of_quiet fun _ => rfl
  ensuring := ensuring

theorem note {e : Event σ κ} (h : ∀ node, e ≠ .ifGate node true) : Clear (note e) := by
  rintro w a v hnote
  obtain rfl : { w with out := w.out.log [e] } = v := congrArg Prod.snd hnote
  exact ⟨[e], rfl, clean_singleton h⟩

variable (S)

theorem heedAll (node : Node) : Clear (heedAll (κ := κ) S node) := by
  intro w a v h
  obtain ⟨host, es, result, hoffer, hexec⟩ := exec_heedAll S node w
  rw [hexec] at h
  obtain rfl := congrArg Prod.snd h
  exact ⟨es, rfl, hoffer.own.clean⟩

theorem deliver (node : Node) (pending : List (Interceptor σ)) :
    Clear (deliver (κ := κ) S node pending) := by
  intro w a v h
  obtain ⟨host, hexec⟩ := exec_deliver S node pending w
  rw [hexec] at h
  obtain rfl := congrArg Prod.snd h
  exact ⟨_, rfl, (own_afters (List.Subset.refl pending) node _).clean⟩

variable {S} {body : Walk σ (Journal σ κ) Unit}

theorem layered (hb : Clear body) (delta : Option StyleDelta) : Clear (layered S delta body) := by
  cases delta with
  | none => exact hb
  | some d =>
    exact ((scopeCongruence S).onHost _).bind fun own _ => (of_quiet fun _ => rfl).bind fun _ _ =>
      hb.ensuring (of_quiet fun _ => rfl)

theorem binding (hb : Clear body) (bindings : List (String × Value)) :
    Clear (binding bindings body) :=
  (of_quiet fun _ => rfl).bind fun _ _ => (of_quiet fun _ => rfl).bind fun _ _ =>
    hb.ensuring (of_quiet fun _ => rfl)

theorem entered (hb : Clear body) (node : Node) (inChain : Bool) :
    Clear (entered S node inChain body) := by
  refine ((scopeCongruence S).likeness.passes rfl inChain).bind fun passed _ => ?_
  cases passed with
  | false => exact (note (by simp)).bind fun _ _ => (scopeCongruence S).pure ()
  | true =>
    intro w a v h
    let begun : WalkState σ (Journal σ κ) := { w with out := w.out.log [.ifGate node true] }
    have hbound : exec (bound S node.attrs.lets (Walk.layered S node.attrs.style body)) begun =
        (.ok a, v) := h
    rcases hlets : exec (evalLets S [] node.attrs.lets) begun with ⟨e | bindings, u⟩
    · rw [bound, exec_bind_error hlets] at hbound
      cases congrArg Prod.fst hbound
    · have hbegun : Onward w begun := .of_begun (nodup_of_exec_evalLets S hlets) rfl
      have hclear : Clear (bound S node.attrs.lets (Walk.layered S node.attrs.style body)) :=
        ((scopeCongruence S).likeness.evalLets [] _).bind fun bindings _ =>
          (hb.layered _).binding bindings
      exact hbegun.trans (hclear begun a v hbound)

theorem observed (hb : Clear body) (node : Node) (inChain : Bool) :
    Clear (observed S node inChain body) := by
  refine ((scopeCongruence S).likeness.isOpen _).bind fun opened _ =>
    (note (by simp)).bind fun _ _ => ?_
  cases opened with
  | false => exact (scopeCongruence S).pure ()
  | true =>
    refine ensuring ?_ (note (by simp))
    refine (of_quiet fun _ => rfl).bind fun height _ => (of_quiet fun _ => rfl).bind fun _ _ =>
      (heedAll S node).bind fun answer _ => ?_
    cases answer with
    | none => exact of_quiet fun _ => rfl
    | some pending =>
      exact (hb.entered node inChain).ensuring
        ((deliver S node pending).bind fun _ _ => of_quiet fun _ => rfl)

theorem visit (depth : Nat) (node : Node) (inChain : Bool) :
    Clear (visit S (chronicler S) depth node inChain) :=
  (scopeCongruence S).visit (chronicler S) (chronicler S)
    (fun x _ w a v h => by
      obtain rfl : { w with out := w.out.log [.wrote w.out.path x] } = v := congrArg Prod.snd h
      exact ⟨[.wrote w.out.path x], rfl, clean_singleton (by simp)⟩)
    (scopeCongruence S).loop (fun node inChain _ _ hb => hb.observed node inChain) depth node
    inChain

end Clear

theorem Clear.visitWith (depth : Nat) (node : Node) (inChain : Bool) :
    Clear (visitWith S (chronicler S) (splicer S depth) node inChain) := by
  rw [← visit_eq]
  exact Clear.visit depth node inChain

theorem Clear.visitAll (depth : Nat) (nodes : List Node) :
    Clear (visitAll S (chronicler S) (splicer S depth) nodes) := by
  induction nodes with
  | nil => exact (scopeCongruence S).pure ()
  | cons node rest ih => exact (visitWith depth node false).bind fun _ _ => ih

theorem Clear.visitOption (depth : Nat) (node? : Option Node) (inChain : Bool) :
    Clear (visitOption S (chronicler S) (splicer S depth) node? inChain) := by
  cases node? with
  | none => exact (scopeCongruence S).pure ()
  | some node => exact visitWith depth node inChain

section

variable {w v : WalkState σ (Journal σ κ)}

theorem Clear.roundLets {separator : Walk σ (Journal σ κ) Unit} (hs : Clear separator)
    (head : LoopHead) (count index : Nat) (item : Value) :
    Clear (roundLets S head separator count index item) := by
  have hrest := ((scopeCongruence S).onScope (setRound head.var item index count)).bind fun _ _ =>
    (scopeCongruence S).likeness.evalLoopLets [] head.lets
  unfold Walk.roundLets
  by_cases hindex : 0 < index
  · simp only [hindex, if_true]
    exact hs.bind fun _ _ => hrest
  · simp only [hindex, if_false]
    exact hrest

theorem Clear.loopItems (S : Setting σ κ) (head : LoopHead) : Clear (loopItems (κ := κ) S head) :=
  ((scopeCongruence S).likeness.eval _).bind fun _ _ =>
    ((scopeCongruence S).likeness.isReversed _).bind fun _ _ => (scopeCongruence S).pure _

theorem Turns.onward {head : LoopHead} {separator body : Walk σ (Journal σ κ) Unit}
    (hs : Clear separator) (hb : Clear body) {count index : Nat} {items : List Value}
    {inBody : Bool} (h : Turns S head separator body count index items w inBody v) :
    Onward w v := by
  induction h with
  | separator => exact .of_events rfl
  | body hbegin =>
    have hclear : ∀ index item, Clear (beginRound S head separator count index item) :=
      fun index item => (hs.roundLets head count index item).bind fun _ _ =>
        (Clear.scopeCongruence S).onScope _
    exact hclear _ _ _ _ _ hbegin
  | later hround _ ih =>
    have hclear : ∀ index item, Clear (round S head separator body count index item) :=
      fun index item => (hs.roundLets head count index item).bind fun bindings _ =>
        hb.binding bindings
    exact (hclear _ _ _ _ _ hround).trans ih

theorem Untaken.onward {branches : List Node} (h : Untaken S branches w v) : Onward w v := by
  induction h with
  | nil => exact .of_events rfl
  | cons hgate _ ih =>
    exact ((Clear.scopeCongruence S).likeness.isOpen _ _ _ _ hgate).trans ih

theorem Comes.onward {depth : Nat} {content : Content} {part : Node} {inPart : Bool}
    (h : Comes S (splicer S depth) content w part inPart v) : Onward w v := by
  cases h with
  | child h => exact Clear.visitAll depth _ _ _ _ h
  | branch hu h => exact hu.onward.trans ((Clear.scopeCongruence S).likeness.isOpen _ _ _ _ h)
  | otherwise hu => exact hu.onward
  | case hvalue => exact (Clear.scopeCongruence S).onHost _ _ _ _ hvalue
  | unmatched hvalue => exact (Clear.scopeCongruence S).onHost _ _ _ _ hvalue
  | separator hitems ht =>
    have hrounds := ht.onward (Clear.visitWith depth _ false) (Clear.visitAll depth _)
    exact ((Clear.loopItems S _ _ _ _ hitems).trans (.of_events rfl)).trans hrounds
  | body hitems ht h =>
    have hrounds := ht.onward (Clear.visitOption depth _ false) (Clear.visitAll depth _)
    exact (((Clear.loopItems S _ _ _ _ hitems).trans (.of_events rfl)).trans hrounds).trans
      (Clear.visitAll depth _ _ _ _ h)

end

section

variable {depth : Nat} {node target : Node} {inChain : Bool} {name : String}
  {v t : WalkState σ (Journal σ κ)}

theorem Admitted.onward {pending : List (Interceptor σ)} (h : Admitted S node inChain v pending t) :
    ∃ p, Onward v p ∧ t.out.events = p.out.events ++ [.ifGate node true] := by
  obtain ⟨hopen, hoffer, hpass⟩ := h
  rename_i opened offered passed
  have hopened := (Clear.scopeCongruence S).likeness.isOpen _ _ _ _ hopen
  have hasked : Onward opened { opened with
      interceptors := register S node opened.interceptors
      out := opened.out.log [.useGate node true] } := ⟨_, rfl, clean_singleton (by simp)⟩
  have hoffered := Clear.heedAll S node _ _ _ hoffer
  have hpassed := (Clear.scopeCongruence S).likeness.passes rfl inChain _ _ _ hpass
  exact ⟨passed, ((hopened.trans hasked).trans hoffered).trans hpassed, rfl⟩

theorem beginBody_onward (h : exec (beginBody S node) v = (.ok (), t)) :
    Onward v t ∧ (node.attrs.lets.map Prod.fst).Nodup := by
  have hlayer : Clear (addLayer (κ := κ) S node.attrs.style) := by
    cases node.attrs.style with
    | none => exact (Clear.scopeCongruence S).pure ()
    | some d => exact ((Clear.scopeCongruence S).onHost _).bind fun _ _ => .of_quiet fun _ => rfl
  have hclear : Clear (beginBody S node) :=
    ((Clear.scopeCongruence S).likeness.evalLets [] _).bind fun _ _ =>
      ((Clear.scopeCongruence S).onScope _).bind fun _ _ => hlayer
  refine ⟨hclear _ _ _ h, ?_⟩
  rcases hlets : exec (evalLets S [] node.attrs.lets) v with ⟨e | bindings, u⟩
  · rw [beginBody, exec_bind_error hlets] at h
    cases congrArg Prod.fst h
  · exact nodup_of_exec_evalLets S hlets

/-- Up to the first body that binds a name twice all is clean. -/
theorem Reaches.onward (h : Reaches S depth node inChain v target t) :
    ∃ p, Onward v p ∧ t.out.events = p.out.events ++ [.ifGate target true] := by
  have hpart : ∀ {node : Node} {inChain : Bool} {pending : List (Interceptor σ)}
      {v u w : WalkState σ (Journal σ κ)}, Admitted S node inChain v pending u →
      exec (beginBody S node) u = (.ok (), w) → Onward v w := by
    intro node inChain pending v u w ha hb
    obtain ⟨p, hp, hu⟩ := ha.onward
    obtain ⟨hw, hn⟩ := beginBody_onward hb
    exact (hp.trans (.of_begun hn hu)).trans hw
  induction h with
  | body ha => exact ha.onward
  | part ha hb hc _ ih =>
    obtain ⟨p, hp, ht⟩ := ih
    exact ⟨p, ((hpart ha hb).trans hc.onward).trans hp, ht⟩
  | spliced ha hb _ hv _ ih =>
    obtain ⟨p, hp, ht⟩ := ih
    have heval := (Clear.scopeCongruence S).onHost _ _ _ _ hv
    exact ⟨p, ((hpart ha hb).trans heval).trans hp, ht⟩

/-- The walk fails for the name, and only what closes the open visits is noted down behind `es`. -/
def Fails (name : String) (es : List (Event σ κ)) (m : Walk σ (Journal σ κ) Unit)
    (v : WalkState σ (Journal σ κ)) : Prop :=
  (exec m v).1 = .error (.duplicateBinding name) ∧
    ∃ later, Closing later ∧ (after m v).out.events = es ++ later

theorem Fails.of_content {es : List (Event σ κ)} {pending : List (Interceptor σ)}
    {u w : WalkState σ (Journal σ κ)} (ha : Admitted S node inChain v pending u)
    (hb : exec (beginBody S node) u = (.ok (), w))
    (h : Fails name es (dispatch S (chronicler S) (splicer S depth) node.content) w) :
    Fails name es (visit S (chronicler S) depth node inChain) v := by
  obtain ⟨hfail, later, hlater, hevents⟩ := h
  obtain ⟨hbody, hbodyEvents⟩ :=
    exec_body_of_ok (dispatch S (chronicler S) (splicer S depth) node.content) hb
  obtain ⟨hresult, calls, hcalls, hcallEvents⟩ :=
    ha.exec_observed (dispatch S (chronicler S) (splicer S depth) node.content)
  rw [visit_eq, visitWith_eq]
  refine ⟨(hresult.trans hbody).trans hfail, later ++ calls, ?_, ?_⟩
  · exact fun e he => (List.mem_append.1 he).elim (hlater e) (hcalls e)
  · rw [hcallEvents, hbodyEvents, hevents, List.append_assoc]

theorem Fails.of_part {es : List (Event σ κ)} {content : Content} {part : Node} {inPart : Bool}
    {w : WalkState σ (Journal σ κ)} (hc : Comes S (splicer S depth) content w part inPart v)
    (h : Fails name es (visit S (chronicler S) depth part inPart) v) :
    Fails name es (dispatch S (chronicler S) (splicer S depth) content) w := by
  rw [visit_eq] at h
  obtain ⟨hfail, later, hlater, hevents⟩ := h
  obtain ⟨hresult, hout⟩ := hc.exec_dispatch (Prod.ext hfail rfl)
  exact ⟨hresult, later, hlater, (congrArg Journal.events hout).trans hevents⟩

theorem Reaches.fails (h : Reaches S depth node inChain v target t)
    (hr : FirstRepeat target.attrs.lets name) :
    Fails name t.out.events (visit S (chronicler S) depth node inChain) v := by
  induction h with
  | @body depth node inChain pending v t ha =>
    let body := dispatch S (chronicler S) (splicer S depth) node.content
    have hbegin := (exec_beginBody_error_iff (S := S) (u := t)).2 ⟨name, rfl, hr⟩
    obtain ⟨hbody, hout⟩ := exec_body_of_error body (Prod.ext hbegin rfl)
    obtain ⟨hresult, calls, hcalls, hevents⟩ := ha.exec_observed body
    rw [visit_eq, visitWith_eq]
    refine ⟨by rw [hresult, hbody], calls, hcalls, ?_⟩
    rw [hevents, after, hbody, hout]
  | part ha hb hc _ ih => exact (Fails.of_part hc (ih hr)).of_content ha hb
  | @spliced depth node markup target inChain e id display pending v u w v' t ha hb hc hv _ ih =>
    refine Fails.of_content ha hb ?_
    have hexec : exec (dispatch S (chronicler S) (splicer S (depth + 1)) node.content) w =
        exec (visit S (chronicler S) depth markup false) v' := by
      rw [hc, dispatch, exec_bind_ok hv]
      rfl
    unfold Fails after
    rw [hexec]
    exact ih hr

/-- A node fails in the beginning of its body, in one of its parts or in the markup that it splices
in. -/
theorem visitWith_error_cases {splice : Node → Walk σ (Journal σ κ) Unit} {node : Node}
    {inChain : Bool} {v : WalkState σ (Journal σ κ)} {e : RenderError}
    (h : (exec (visitWith S (chronicler S) splice node inChain) v).1 = .error e) :
    ∃ pending u, Admitted S node inChain v pending u ∧
      ((∃ name, e = .duplicateBinding name ∧ FirstRepeat node.attrs.lets name) ∨
        ∃ w, exec (beginBody S node) u = (.ok (), w) ∧
          ((∃ part inPart v', Comes S splice node.content w part inPart v' ∧
              (exec (visitWith S (chronicler S) splice part inPart) v').1 = .error e) ∨
            ∃ interpolated id display markup v', node.content = .interpolation interpolated ∧
              exec (eval S interpolated) w = (.ok (.markup id display markup), v') ∧
                (exec (splice markup) v').1 = .error e)) := by
  rw [visitWith_eq] at h
  obtain ⟨pending, u, ha⟩ | hok := admitted_or_ok S node inChain v
  · refine ⟨pending, u, ha, ?_⟩
    rw [(ha.exec_observed _).1] at h
    rcases hbegin : exec (beginBody S node) u with ⟨e' | _, w⟩
    · rw [(exec_body_of_error _ hbegin).1] at h
      obtain rfl : e' = e := Except.error.inj h
      exact .inl (exec_beginBody_error_iff.1 (congrArg Prod.fst hbegin))
    · rw [(exec_body_of_ok _ hbegin).1] at h
      exact .inr ⟨w, rfl, exists_comes_of_error h⟩
  · rw [hok] at h
    cases h

theorem exists_reaches_of_error {depth : Nat}
    (hsplice : ∀ markup v, (exec (splicer (κ := κ) S depth markup) v).1 =
      .error (.duplicateBinding name) → ∃ n target t, depth = n + 1 ∧
        Reaches S n markup false v target t ∧ FirstRepeat target.attrs.lets name)
    (node : Node) (inChain : Bool) (v : WalkState σ (Journal σ κ))
    (h : (exec (visitWith S (chronicler S) (splicer S depth) node inChain) v).1 =
      .error (.duplicateBinding name)) :
    ∃ target t, Reaches S depth node inChain v target t ∧
      FirstRepeat target.attrs.lets name := by
  induction node using Node.induct generalizing inChain v with
  | h attrs content ih =>
    obtain ⟨pending, u, ha, ⟨x, hx, hrepeat⟩ | ⟨w, hbegin, hbody⟩⟩ := visitWith_error_cases h
    · obtain rfl := RenderError.duplicateBinding.inj hx
      exact ⟨_, u, .body ha, hrepeat⟩
    · obtain ⟨part, inPart, v', hc, hpart⟩ | ⟨e, id, display, markup, v', hc, hv, hmarkup⟩ := hbody
      · obtain ⟨target, t, hreach, hrepeat⟩ := ih (part, inPart) hc.mem_parts inPart v' hpart
        exact ⟨target, t, .part ha hbegin hc hreach, hrepeat⟩
      · obtain ⟨n, target, t, rfl, hreach, hrepeat⟩ := hsplice markup v' hmarkup
        exact ⟨target, t, .spliced ha hbegin hc hv hreach, hrepeat⟩

theorem fails_iff_reaches (S : Setting σ κ) (depth : Nat) (node : Node) (inChain : Bool)
    (v : WalkState σ (Journal σ κ)) (name : String) :
    (exec (visit S (chronicler S) depth node inChain) v).1 = .error (.duplicateBinding name) ↔
      ∃ target t, Reaches S depth node inChain v target t ∧
        FirstRepeat target.attrs.lets name := by
  constructor
  · induction depth generalizing node inChain v with
    | zero =>
      rw [visit_eq]
      refine exists_reaches_of_error (fun markup w h => ?_) node inChain v
      cases Except.error.inj h
    | succ n ih =>
      rw [visit_eq]
      refine exists_reaches_of_error (fun markup w h => ?_) node inChain v
      obtain ⟨target, t, hreach, hrepeat⟩ := ih markup false w h
      exact ⟨n, target, t, rfl, hreach, hrepeat⟩
  · rintro ⟨target, t, hreach, hrepeat⟩
    exact (hreach.fails hrepeat).1

end

/-- A render fails exactly if it comes to the body of a node that binds a name twice, for the first
name that is bound again. What was noted down before is clean, and behind it come only after-calls
and the ends of the open visits. The bindings of a loop never fail. -/
theorem render_error_iff (S : Setting σ κ) (depth : Nat) (root : Node) (host : σ) :
    (∀ name, (render S depth root host).1 = .error (.duplicateBinding name) ↔
        ∃ node t, Reaches S depth root false { host, out := {} } node t ∧
          FirstRepeat node.attrs.lets name) ∧
      ((∃ entries, (render S depth root host).1 = .ok entries) ↔
        (render S depth root host).1 ≠ .error .spliceDepth ∧
          ∀ node t, Reaches S depth root false { host, out := {} } node t →
            (node.attrs.lets.map Prod.fst).Nodup) ∧
      (∀ node t, Reaches S depth root false { host, out := {} } node t →
        ¬ (node.attrs.lets.map Prod.fst).Nodup → ∃ earlier later,
          t.out.events = earlier ++ [.ifGate node true] ∧
          (chronicle S depth root host).2.out.events = earlier ++ .ifGate node true :: later ∧
          Clean earlier ∧ Closing later) ∧
      ∀ acc lets, Total (evalLoopLets S acc lets : Walk σ (Draft κ) _) := by
  have hagree := (render_agrees S depth root host).1
  have herror : ∀ e, (render S depth root host).1 = .error e ↔
      (exec (visit S (chronicler S) depth root false) { host, out := {} }).1 = .error e := by
    intro e
    change ((render S depth root host).1.map fun _ => ()) =
      (exec (visit S (chronicler S) depth root false) { host, out := {} }).1 at hagree
    rw [← hagree]
    cases (render S depth root host).1 <;> simp [Except.map]
  have hfails := fails_iff_reaches S depth root false { host, out := {} }
  refine ⟨fun name => (herror _).trans (hfails name), ?_, ?_, total_evalLoopLets S⟩
  · constructor
    · rintro ⟨entries, hok⟩
      refine ⟨by rw [hok]; simp, fun node t hreach => ?_⟩
      obtain hn | ⟨name, hname⟩ := nodup_or_firstRepeat node.attrs.lets
      · exact hn
      · have hfail := (herror _).2 ((hfails name).2 ⟨node, t, hreach, hname⟩)
        rw [hok] at hfail
        cases hfail
    · rintro ⟨hdeep, hclean⟩
      rcases hresult : (render S depth root host).1 with e | entries
      · cases e with
        | spliceDepth => exact absurd hresult hdeep
        | duplicateBinding name =>
          obtain ⟨node, t, hreach, hname⟩ := (hfails name).1 ((herror _).1 hresult)
          exact absurd (hclean node t hreach) hname.not_nodup
      · exact ⟨entries, rfl⟩
  · intro node t hreach hrepeat
    obtain ⟨name, hname⟩ := (nodup_or_firstRepeat node.attrs.lets).resolve_left hrepeat
    obtain ⟨-, later, hlater, hevents⟩ := hreach.fails hname
    obtain ⟨p, ⟨es, hp, hclean⟩, ht⟩ := hreach.onward
    refine ⟨es, later, by rw [ht, hp]; rfl, ?_, hclean, hlater⟩
    change (after (visit S (chronicler S) depth root false) _).out.events = _
    rw [hevents, ht, hp, List.append_assoc]
    rfl

-- the name that is found again first, and not the one that was bound first
example (S : Setting σ κ) (host : σ) (e : Expr) :
    (render S 0 (.mk { lets := [("a", e), ("b", e), ("b", e), ("a", e)] } .lineBreak) host).1 =
      .error (.duplicateBinding "b") := rfl

end RichText.Walk
