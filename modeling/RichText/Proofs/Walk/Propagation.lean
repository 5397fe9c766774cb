import RichText.Proofs.Walk.Congruence
import RichText.Proofs.Walk.Reach

namespace RichText.Walk

variable {σ κ ω α : Type} {S : Setting σ κ} {e : RenderError}

theorem exec_binding_of_ok {m : Walk σ ω (List (String × Value))} {w v : WalkState σ ω}
    (h : exec (m >>= pushAll) w = (.ok (), v)) (body : Walk σ ω Unit) :
    (exec (m >>= (binding · body)) w).1 = (exec body v).1 ∧
      (after (m >>= (binding · body)) w).out = (after body v).out := by
  rcases hm : exec m w with ⟨e | bindings, u⟩
  · rw [exec_bind_error hm] at h
    cases h
  · rw [exec_bind_ok hm] at h
    obtain rfl : after (pushAll bindings) u = v := congrArg Prod.snd h
    unfold after
    rw [exec_bind_ok hm]
    refine ⟨Total.result_binding bindings body u, ?_⟩
    change (after (binding bindings body) u).out = _
    rw [after_binding]
    rfl

section

variable {node : Node} {inChain : Bool} {pending : List (Interceptor σ)}
  {u v w : WalkState σ (Journal σ κ)} (body : Walk σ (Journal σ κ) Unit)

theorem exec_layered_of_ok {delta : Option StyleDelta}
    (h : exec (addLayer S delta) u = (.ok (), w)) :
    (exec (layered S delta body) u).1 = (exec body w).1 ∧
      (after (layered S delta body) u).out.events = (after body w).out.events := by
  cases delta with
  | none =>
    obtain rfl : u = w := congrArg Prod.snd h
    exact ⟨rfl, rfl⟩
  | some d =>
    let leave : Walk σ (Journal σ κ) Unit := onOut fun j => { j with path := j.path.tail }
    have hexec : exec (layered S (some d) body) u = exec (ensuring body leave) w := by
      obtain rfl : after (addLayer S (some d)) u = w := congrArg Prod.snd h
      rfl
    unfold after
    rw [hexec]
    refine ⟨(Total.onOut _).result_ensuring body w, ?_⟩
    change (after (ensuring body leave) w).out.events = _
    rw [after_ensuring]
    rfl

theorem total_addLayer (S : Setting σ κ) (delta : Option StyleDelta) :
    Total (addLayer S delta : Walk σ (Journal σ κ) Unit) := by
  cases delta with
  | none => exact Total.pure ()
  | some d => exact (Total.onHost S _).bind fun _ => Total.onOut _

theorem total_beginBody_rest (S : Setting σ κ) (bindings : List (String × Value))
    (delta : Option StyleDelta) :
    Total (pushAll bindings >>= fun _ => addLayer S delta : Walk σ (Journal σ κ) Unit) :=
  (Total.onScope _).bind fun _ => total_addLayer S delta

/-- Nothing but a repeated name keeps the content of a node from being walked once its body is
begun, and nothing is noted down then. -/
theorem exec_beginBody_error_iff :
    (exec (beginBody S node) u).1 = .error e ↔
      ∃ name, e = .duplicateBinding name ∧ FirstRepeat node.attrs.lets name := by
  rw [← result_evalLets_iff S node.attrs.lets u]
  constructor
  · intro h
    obtain h | ⟨bindings, u', -, h⟩ := result_bind_error h
    · exact h
    · obtain ⟨_, hok⟩ := total_beginBody_rest S bindings node.attrs.style u'
      rw [hok] at h
      cases h
  · intro h
    unfold beginBody
    rw [exec_bind_error (Prod.ext h rfl)]

theorem exec_body_of_error (h : exec (beginBody S node) u = (.error e, w)) :
    exec (bound S node.attrs.lets (layered S node.attrs.style body)) u = (.error e, w) ∧
      w.out = u.out := by
  rcases hlets : exec (evalLets S [] node.attrs.lets) u with ⟨e' | bindings, u'⟩
  · have hrestores : Restores id (evalLets S [] node.attrs.lets : Walk σ (Journal σ κ) _) :=
      (Restores.congruence S).likeness.evalLets [] node.attrs.lets
    have hout : u'.out = u.out := (hrestores.same hlets).out
    unfold beginBody at h
    unfold bound
    rw [exec_bind_error hlets] at h ⊢
    obtain rfl : u' = w := congrArg Prod.snd h
    obtain rfl : e' = e := Except.error.inj (congrArg Prod.fst h)
    exact ⟨rfl, hout⟩
  · obtain ⟨_, hok⟩ := total_beginBody_rest S bindings node.attrs.style u'
    unfold beginBody at h
    rw [exec_bind_ok hlets, hok] at h
    cases congrArg Prod.fst h

theorem exists_of_beginBody (h : exec (beginBody S node) u = (.ok (), w)) :
    ∃ b, exec (evalLets S [] node.attrs.lets >>= pushAll) u = (.ok (), b) ∧
      exec (addLayer S node.attrs.style) b = (.ok (), w) := by
  rcases hlets : exec (evalLets S [] node.attrs.lets) u with ⟨e | bindings, u'⟩ <;>
    unfold beginBody at h
  · rw [exec_bind_error hlets] at h
    cases congrArg Prod.fst h
  · rw [exec_bind_ok hlets] at h
    exact ⟨after (pushAll bindings) u', exec_bind_ok hlets _, h⟩

theorem exec_body_of_ok (h : exec (beginBody S node) u = (.ok (), w)) :
    (exec (bound S node.attrs.lets (layered S node.attrs.style body)) u).1 = (exec body w).1 ∧
      (after (bound S node.attrs.lets (layered S node.attrs.style body)) u).out.events =
        (after body w).out.events := by
  obtain ⟨b, hpush, hlayer⟩ := exists_of_beginBody h
  obtain ⟨hresult, hout⟩ := exec_binding_of_ok hpush (layered S node.attrs.style body)
  obtain ⟨hresult', hevents⟩ := exec_layered_of_ok body hlayer
  exact ⟨hresult.trans hresult', (congrArg Journal.events hout).trans hevents⟩

def Closing (es : List (Event σ κ)) : Prop :=
  ∀ e ∈ es, (∃ i node ctx, e = .after i node ctx) ∨ ∃ node, e = .left node

theorem closing_leave (node : Node) (ctx : Context σ) (pending : List (Interceptor σ)) :
    Closing (afters (κ := κ) node ctx pending ++ [.left node]) := by
  intro e he
  obtain he | he := List.mem_append.1 he
  · obtain ⟨i, -, rfl⟩ := List.mem_map.1 he
    exact .inl ⟨i, node, ctx, rfl⟩
  · exact .inr ⟨node, List.mem_singleton.1 he⟩

theorem exec_observed_of_open (h : exec (isOpen S node.attrs.useWhen) v = (.ok true, u))
    (inChain : Bool) :
    (exec (observed S node inChain body) v).1 =
        (exec (attended S node (heedAll S node) (deliver S node) (entered S node inChain body))
          { u with out := u.out.log [.useGate node true] }).1 ∧
      after (observed S node inChain body) v =
        let left := after (attended S node (heedAll S node) (deliver S node)
          (entered S node inChain body)) { u with out := u.out.log [.useGate node true] }
        { left with out := left.out.log [.left node] } := by
  have hexec : exec (observed S node inChain body) v =
      exec (ensuring (attended S node (heedAll S node) (deliver S node)
          (entered S node inChain body)) (note (.left node)))
        { u with out := u.out.log [.useGate node true] } := by
    unfold observed
    rw [exec_bind_ok h]
    rfl
  rw [after, hexec, exec_ensuring_note]
  exact ⟨rfl, rfl⟩

/-- A node that comes to its body ends as the body does, with after-calls and the end of the visit
behind it. -/
theorem Admitted.exec_observed (h : Admitted S node inChain v pending u) :
    (exec (observed S node inChain body) v).1 =
        (exec (bound S node.attrs.lets (layered S node.attrs.style body)) u).1 ∧
      ∃ later, Closing later ∧ (after (observed S node inChain body) v).out.events =
        (after (bound S node.attrs.lets (layered S node.attrs.style body)) u).out.events ++
          later := by
  obtain ⟨hopen, hoffer, hpass⟩ := h
  rename_i opened offered passed
  let u : WalkState σ (Journal σ κ) :=
    { passed with out := passed.out.log [.ifGate node true] }
  let inner := bound S node.attrs.lets (layered S node.attrs.style body)
  let close : Walk σ (Journal σ κ) Unit := deliver S node pending >>= fun _ =>
    onInterceptors (·.unregisterTo opened.interceptors.height)
  have hentered : exec (entered S node inChain body) offered = exec inner u := exec_bind_ok hpass _
  have hattended : exec (attended S node (heedAll S node) (deliver S node)
      (entered S node inChain body)) { opened with out := opened.out.log [.useGate node true] } =
        exec (ensuring inner close) u := by
    rw [exec_attended hoffer]
    change exec (ensuring (entered S node inChain body) close) offered = _
    rw [exec_ensuring, hentered, ← exec_ensuring]
  obtain ⟨hresult, hafter⟩ := exec_observed_of_open body hopen inChain
  obtain ⟨host, hclose⟩ := exec_close S node pending opened.interceptors.height (after inner u)
  refine ⟨?_, _, closing_leave node (context S (after inner u).scope) pending, ?_⟩
  · rw [hresult, hattended]
    exact (total_close S node pending _).result_ensuring inner u
  · rw [hafter, after, hattended]
    change (after (ensuring inner close) u).out.events ++ [.left node] = _
    rw [after_ensuring, after, hclose]
    exact List.append_assoc _ _ _

theorem admitted_or_ok (S : Setting σ κ) (node : Node) (inChain : Bool)
    (v : WalkState σ (Journal σ κ)) :
    (∃ pending u, Admitted S node inChain v pending u) ∨
      ∀ body, (exec (observed S node inChain body) v).1 = .ok () := by
  obtain ⟨opened, hopen⟩ := Total.isOpen S node.attrs.useWhen v
  let asked : WalkState σ (Journal σ κ) := after (isOpen S node.attrs.useWhen) v
  cases opened with
  | false =>
    refine .inr fun body => ?_
    unfold observed
    rw [exec_bind_ok hopen]
    rfl
  | true =>
    let noted : WalkState σ (Journal σ κ) :=
      { asked with out := asked.out.log [.useGate node true] }
    have hobserved := fun body => (exec_observed_of_open body hopen inChain).1
    obtain ⟨answer, hoffer⟩ := total_heedAll S node
      { noted with interceptors := register S node noted.interceptors }
    cases answer with
    | none =>
      refine .inr fun body => ?_
      rw [hobserved, exec_attended hoffer]
      rfl
    | some pending =>
      obtain ⟨passed, hpass⟩ := Total.passes S node inChain (after (heedAll S node) _)
      cases passed with
      | true => exact .inl ⟨pending, _, .mk hopen hoffer hpass⟩
      | false =>
        refine .inr fun body => ?_
        rw [hobserved, exec_attended hoffer]
        change (exec (ensuring (entered S node inChain body) _) _).1 = _
        rw [(total_close S node pending _).result_ensuring]
        unfold entered
        rw [exec_bind_ok hpass]
        rfl

end

section

variable {splice : Node → Walk σ (Journal σ κ) Unit} {w : WalkState σ (Journal σ κ)}

theorem visitAll_append (V : Visitor σ κ ω) (splice : Node → Walk σ ω Unit)
    (earlier later : List Node) :
    visitAll S V splice (earlier ++ later) =
      visitAll S V splice earlier >>= fun _ => visitAll S V splice later := by
  induction earlier with
  | nil => exact (pure_bind () fun _ => visitAll S V splice later).symm
  | cons node rest ih =>
    simp only [List.cons_append, visitAll, bind_assoc]
    rw [ih]

theorem visitAll_singleton (V : Visitor σ κ ω) (splice : Node → Walk σ ω Unit) (node : Node) :
    visitAll S V splice [node] = visitWith S V splice node false := bind_pure_unit

theorem exec_visitAll_of_error {earlier later : List Node} {node : Node}
    {v v' : WalkState σ (Journal σ κ)}
    (h : exec (visitAll S (chronicler S) splice earlier) w = (.ok (), v))
    (hv : exec (visitWith S (chronicler S) splice node false) v = (.error e, v')) :
    exec (visitAll S (chronicler S) splice (earlier ++ node :: later)) w = (.error e, v') := by
  rw [visitAll_append, exec_bind_ok h, visitAll, exec_bind_error hv]

theorem exists_of_visitAll_error {nodes : List Node}
    (h : (exec (visitAll S (chronicler S) splice nodes) w).1 = .error e) :
    ∃ earlier node later v, nodes = earlier ++ node :: later ∧
      exec (visitAll S (chronicler S) splice earlier) w = (.ok (), v) ∧
      (exec (visitWith S (chronicler S) splice node false) v).1 = .error e := by
  induction nodes generalizing w with
  | nil => cases h
  | cons node rest ih =>
    obtain h | ⟨_, v, hv, h⟩ := result_bind_error h
    · exact ⟨[], node, rest, w, rfl, rfl, h⟩
    · obtain ⟨earlier, child, later, t, rfl, ht, hchild⟩ := ih h
      refine ⟨node :: earlier, child, later, t, rfl, ?_, hchild⟩
      rw [visitAll, exec_bind_ok hv, ht]

theorem Untaken.exec_visitBranches {earlier : List Node} {u : WalkState σ (Journal σ κ)}
    (h : Untaken S earlier w u) (splice : Node → Walk σ (Journal σ κ) Unit) (later : List Node)
    (otherwise : Walk σ (Journal σ κ) Unit) :
    exec (visitBranches S (chronicler S) splice (earlier ++ later) otherwise) w =
      exec (visitBranches S (chronicler S) splice later otherwise) u := by
  induction h with
  | nil => rfl
  | cons hgate _ ih =>
    rw [List.cons_append, visitBranches, exec_bind_ok hgate]
    exact ih

theorem untaken_or_taken (S : Setting σ κ) (branches : List Node)
    (w : WalkState σ (Journal σ κ)) :
    (∃ v, Untaken S branches w v) ∨ ∃ earlier branch later u v,
      branches = earlier ++ branch :: later ∧ Untaken S earlier w u ∧
        exec (isOpen S branch.attrs.ifCond) u = (.ok true, v) := by
  induction branches generalizing w with
  | nil => exact .inl ⟨w, .nil⟩
  | cons node rest ih =>
    obtain ⟨taken, htaken⟩ := Total.isOpen S node.attrs.ifCond w
    cases taken with
    | true => exact .inr ⟨[], node, rest, w, _, rfl, .nil, htaken⟩
    | false =>
      obtain ⟨v, hv⟩ | ⟨earlier, branch, later, u, v, rfl, hu, hv⟩ :=
        ih (after (isOpen S node.attrs.ifCond) w)
      · exact .inl ⟨v, .cons htaken hv⟩
      · exact .inr ⟨node :: earlier, branch, later, u, v, rfl, .cons htaken hu, hv⟩

theorem visitCases_eq (key : String) (cases : List (String × Node))
    (otherwise : Walk σ (Journal σ κ) Unit) :
    visitCases S (chronicler S) splice key cases otherwise =
      (cases.find? (caseKey ·.1 = key)).elim otherwise fun c =>
        visitWith S (chronicler S) splice c.2 false := by
  induction cases with
  | nil => rfl
  | cons c rest ih =>
    obtain ⟨label, node⟩ := c
    by_cases h : caseKey label = key
    · rw [visitCases, if_pos h, List.find?_cons_of_pos (by simpa using h)]
      rfl
    · rw [visitCases, if_neg h, ih, List.find?_cons_of_neg (by simpa using h)]

section

variable {fallback : Option Node} {u v : WalkState σ (Journal σ κ)}

theorem Untaken.exec_chain {branches : List Node} (h : Untaken S branches w v) :
    exec (dispatch S (chronicler S) splice (.chain branches fallback)) w =
      exec (visitOption S (chronicler S) splice fallback true) v := by
  have hbranches := h.exec_visitBranches splice []
    (visitOption S (chronicler S) splice fallback true)
  rw [List.append_nil] at hbranches
  rw [dispatch, hbranches]
  rfl

theorem Untaken.exec_chain_taken {earlier later : List Node} {branch : Node}
    (h : Untaken S earlier w u) (hopen : exec (isOpen S branch.attrs.ifCond) u = (.ok true, v)) :
    exec (dispatch S (chronicler S) splice (.chain (earlier ++ branch :: later) fallback)) w =
      exec (visitWith S (chronicler S) splice branch true) v := by
  rw [dispatch, h.exec_visitBranches, visitBranches, exec_bind_ok hopen]
  rfl

variable {input : Expr} {cases : List (String × Node)} {value : Value}

theorem exec_matching_unmatched (hv : exec (eval S input) w = (.ok value, v))
    (h : value.isNull = true ∨
      cases.find? (caseKey ·.1 = caseKey (S.coercion.asStr value)) = none) :
    exec (dispatch S (chronicler S) splice (.matching input cases fallback)) w =
      exec (visitOption S (chronicler S) splice fallback false) v := by
  rw [dispatch, exec_bind_ok hv]
  by_cases hn : value.isNull = true
  · rw [if_pos hn]
  · rw [if_neg hn, visitCases_eq, h.resolve_left hn]
    rfl

theorem exec_matching_case {label : String} {case : Node}
    (hv : exec (eval S input) w = (.ok value, v)) (hn : value.isNull = false)
    (h : cases.find? (caseKey ·.1 = caseKey (S.coercion.asStr value)) = some (label, case)) :
    exec (dispatch S (chronicler S) splice (.matching input cases fallback)) w =
      exec (visitWith S (chronicler S) splice case false) v := by
  rw [dispatch, exec_bind_ok hv, if_neg (by simp [hn]), visitCases_eq, h]
  rfl

theorem unmatched_or_case (S : Setting σ κ) (value : Value) (cases : List (String × Node)) :
    (value.isNull = true ∨
        cases.find? (caseKey ·.1 = caseKey (S.coercion.asStr value)) = none) ∨
      ∃ label case, value.isNull = false ∧
        cases.find? (caseKey ·.1 = caseKey (S.coercion.asStr value)) = some (label, case) := by
  cases hn : value.isNull with
  | true => exact .inl (.inl rfl)
  | false =>
    cases hfind : cases.find? (caseKey ·.1 = caseKey (S.coercion.asStr value)) with
    | none => exact .inl (.inr rfl)
    | some c => exact .inr ⟨c.1, c.2, rfl, rfl⟩

end

section

variable {head : LoopHead} {separator body : Walk σ (Journal σ κ) Unit} {count index : Nat}
  {item : Value} {items : List Value} {v : WalkState σ (Journal σ κ)}

theorem rounds_cons : rounds S head separator body count index (item :: items) =
    round S head separator body count index item >>= fun _ =>
      rounds S head separator body count (index + 1) items := by
  by_cases h : 0 < index <;>
    simp only [rounds, round, roundLets, h, if_true, if_false, bind_assoc]

theorem total_evalLoopLets (S : Setting σ κ) (acc : List (String × Value))
    (lets : List (String × Expr)) : Total (evalLoopLets S acc lets : Walk σ ω _) := by
  induction lets generalizing acc with
  | nil => exact Total.pure acc
  | cons l rest ih => exact (Total.onHost S _).bind fun v => ih _

theorem exists_of_roundLets_error
    (h : (exec (roundLets S head separator count index item) w).1 = .error e) :
    0 < index ∧ (exec separator w).1 = .error e := by
  have hrest : Total (onScope (setRound head.var item index count) >>= fun _ =>
      evalLoopLets S [] head.lets : Walk σ (Journal σ κ) _) :=
    (Total.onScope _).bind fun _ => total_evalLoopLets S [] head.lets
  unfold roundLets at h
  by_cases hindex : 0 < index
  · simp only [hindex, if_true] at h
    obtain h | ⟨_, u, -, h⟩ := result_bind_error h
    · exact ⟨hindex, h⟩
    · obtain ⟨_, hok⟩ := hrest u
      rw [hok] at h
      cases h
  · simp only [hindex, if_false] at h
    obtain ⟨_, hok⟩ := hrest w
    change (exec (onScope _ >>= fun _ => evalLoopLets S [] head.lets) w).1 = _ at h
    rw [hok] at h
    cases h

theorem exists_of_rounds_error
    (h : (exec (rounds S head separator body count index items) w).1 = .error e) :
    ∃ inBody v, Turns S head separator body count index items w inBody v ∧
      (exec (if inBody then body else separator) v).1 = .error e := by
  induction items generalizing index w with
  | nil => cases h
  | cons item rest ih =>
    rw [rounds_cons] at h
    obtain h | ⟨_, u, hu, h⟩ := result_bind_error h
    · obtain h | ⟨bindings, u, hu, h⟩ := result_bind_error h
      · obtain ⟨hindex, h⟩ := exists_of_roundLets_error h
        exact ⟨false, w, .separator hindex, h⟩
      · rw [Total.result_binding] at h
        have hbegin : exec (beginRound S head separator count index item) w =
            (.ok (), after (pushAll bindings) u) := exec_bind_ok hu _
        exact ⟨true, _, .body hbegin, h⟩
    · obtain ⟨inBody, v, hv, he⟩ := ih h
      exact ⟨inBody, v, .later hu hv, he⟩

theorem Turns.exec_rounds {inBody : Bool} {v' : WalkState σ (Journal σ κ)}
    (h : Turns S head separator body count index items w inBody v)
    (hv : exec (if inBody then body else separator) v = (.error e, v')) :
    (exec (rounds S head separator body count index items) w).1 = .error e ∧
      (after (rounds S head separator body count index items) w).out = v'.out := by
  induction h with
  | @separator index item items w hindex =>
    have hexec : exec (round S head separator body count index item) w = (.error e, v') := by
      simp only [round, roundLets, hindex, if_true, bind_assoc]
      exact exec_bind_error hv _
    unfold after
    rw [rounds_cons, exec_bind_error hexec]
    exact ⟨rfl, rfl⟩
  | @body index item items w v hbegin =>
    have hbody : exec body v = (.error e, v') := hv
    obtain ⟨hresult, hout⟩ := exec_binding_of_ok hbegin body
    have hfails : (exec (round S head separator body count index item) w).1 = .error e := by
      rw [round, hresult, hbody]
    have hexec : exec (round S head separator body count index item) w =
        (.error e, after (round S head separator body count index item) w) :=
      Prod.ext hfails rfl
    unfold after
    rw [rounds_cons, exec_bind_error hexec]
    refine ⟨rfl, ?_⟩
    change (after (round S head separator body count index item) w).out = _
    rw [round, hout, after, hbody]
  | later hround _ ih =>
    unfold after
    rw [rounds_cons, exec_bind_ok hround]
    exact ih hv

theorem loop_eq : loop S head separator body = loopItems S head >>= fun items =>
    onScope (openLoop head.var) >>= fun _ =>
      ensuring (rounds S head separator body items.length 0 items)
        (onScope (closeLoop head.var)) := by
  simp only [loop, loopItems, bind_assoc, pure_bind]

theorem total_loopItems (S : Setting σ κ) (head : LoopHead) :
    Total (loopItems S head : Walk σ (Journal σ κ) _) := by
  refine (Total.onHost S _).bind fun v => ?_
  have hreversed : Total (isReversed S head.reversed : Walk σ (Journal σ κ) Bool) := by
    cases head.reversed with
    | none => exact Total.pure false
    | some e => exact (Total.onHost S _).bind fun _ => Total.pure _
  exact hreversed.bind fun _ => Total.pure _

theorem exec_loop {u : WalkState σ (Journal σ κ)}
    (h : exec (loopItems S head) w = (.ok items, u)) :
    (exec (loop S head separator body) w).1 = (exec (rounds S head separator body items.length 0
        items) { u with scope := openLoop head.var u.scope }).1 ∧
      (after (loop S head separator body) w).out = (after (rounds S head separator body
        items.length 0 items) { u with scope := openLoop head.var u.scope }).out := by
  let opened := { u with scope := openLoop head.var u.scope }
  let close : Walk σ (Journal σ κ) Unit := onScope (closeLoop head.var)
  have hexec : exec (loop S head separator body) w = exec (ensuring (rounds S head separator body
      items.length 0 items) close) opened := by
    rw [loop_eq, exec_bind_ok h]
    rfl
  unfold after
  rw [hexec]
  refine ⟨(Total.onScope _).result_ensuring _ opened, ?_⟩
  change (after (ensuring _ close) opened).out = _
  rw [after_ensuring]
  rfl

end

end

section

variable {splice : Node → Walk σ (Journal σ κ) Unit} {content : Content}
  {w : WalkState σ (Journal σ κ)}

theorem exists_of_visitOption_error {node? : Option Node} {inChain : Bool}
    (h : (exec (visitOption S (chronicler S) splice node? inChain) w).1 = .error e) :
    ∃ node, node? = some node ∧
      (exec (visitWith S (chronicler S) splice node inChain) w).1 = .error e := by
  cases node? with
  | none => cases h
  | some node => exact ⟨node, rfl, h⟩

/-- The walk of a content fails if that of a part or of spliced markup does which it comes to. -/
theorem exists_comes_of_error
    (h : (exec (dispatch S (chronicler S) splice content) w).1 = .error e) :
    (∃ part inPart v, Comes S splice content w part inPart v ∧
        (exec (visitWith S (chronicler S) splice part inPart) v).1 = .error e) ∨
      ∃ ex id display markup v, content = .interpolation ex ∧
        exec (eval S ex) w = (.ok (.markup id display markup), v) ∧
        (exec (splice markup) v).1 = .error e := by
  cases content with
  | container children =>
    obtain ⟨earlier, child, later, v, rfl, hv, h⟩ := exists_of_visitAll_error h
    exact .inl ⟨child, false, v, .child hv, h⟩
  | chain branches fallback =>
    obtain ⟨v, hv⟩ | ⟨earlier, branch, later, u, v, rfl, hu, hv⟩ := untaken_or_taken S branches w
    · rw [hv.exec_chain] at h
      obtain ⟨node, rfl, h⟩ := exists_of_visitOption_error h
      exact .inl ⟨node, true, v, .otherwise hv, h⟩
    · rw [hu.exec_chain_taken hv] at h
      exact .inl ⟨branch, true, v, .branch hu hv, h⟩
  | matching input cases fallback =>
    obtain ⟨value, hvalue⟩ := Total.onHost S input.eval w
    obtain hnone | ⟨label, case, hn, hfind⟩ := unmatched_or_case S value cases
    · rw [exec_matching_unmatched hvalue hnone] at h
      obtain ⟨node, rfl, h⟩ := exists_of_visitOption_error h
      exact .inl ⟨node, false, _, .unmatched hvalue hnone, h⟩
    · rw [exec_matching_case hvalue hn hfind] at h
      exact .inl ⟨case, false, _, .case hvalue hn hfind, h⟩
  | loop head separator body =>
    rw [dispatch] at h
    obtain ⟨items, hitems⟩ := total_loopItems S head w
    rw [(exec_loop hitems).1] at h
    obtain ⟨inBody, v, hv, h⟩ := exists_of_rounds_error h
    cases inBody with
    | false =>
      obtain ⟨node, rfl, h⟩ := exists_of_visitOption_error h
      exact .inl ⟨node, false, v, .separator hitems hv, h⟩
    | true =>
      obtain ⟨earlier, child, later, t, rfl, ht, h⟩ := exists_of_visitAll_error h
      exact .inl ⟨child, false, t, .body hitems hv ht, h⟩
  | lineBreak => cases h
  | interpolation ex =>
    obtain ⟨value, hvalue⟩ := Total.onHost S ex.eval w
    rw [dispatch, show eval S ex = onHost S ex.eval from rfl, exec_bind_ok hvalue] at h
    cases value with
    | markup id display node => exact .inr ⟨ex, id, display, node, _, rfl, hvalue, h⟩
    | _ => cases h
  | leaf l =>
    cases l with
    | translate key fallback args =>
      obtain ⟨vs, -, hvs⟩ := (Total.onHost (ω := Journal σ κ) S fun ctx =>
        Expr.evalList ctx args).after_bind (fun vs => (chronicler S).write (.component
          (S.factory.translate key fallback (vs.map fun v =>
            S.factory.text (S.coercion.asStr v))))) w
      change (exec (onHost S _ >>= _) w).1 = _ at h
      rw [hvs] at h
      cases h
    | _ => cases h

theorem Comes.exec_dispatch {part : Node} {inPart : Bool} {v v' : WalkState σ (Journal σ κ)}
    (h : Comes S splice content w part inPart v)
    (hv : exec (visitWith S (chronicler S) splice part inPart) v = (.error e, v')) :
    (exec (dispatch S (chronicler S) splice content) w).1 = .error e ∧
      (after (dispatch S (chronicler S) splice content) w).out = v'.out := by
  have hof : ∀ {m : Walk σ (Journal σ κ) Unit}, exec m w = (.error e, v') →
      (exec m w).1 = .error e ∧ (after m w).out = v'.out := by
    intro m hm
    rw [after, hm]
    exact ⟨rfl, rfl⟩
  cases h with
  | child h => exact hof (exec_visitAll_of_error h hv)
  | branch hu h => exact hof ((hu.exec_chain_taken h).trans hv)
  | otherwise hu => exact hof (hu.exec_chain.trans hv)
  | case hvalue hn h => exact hof ((exec_matching_case hvalue hn h).trans hv)
  | unmatched hvalue h => exact hof ((exec_matching_unmatched hvalue h).trans hv)
  | separator hitems ht =>
    obtain ⟨hresult, hout⟩ := exec_loop hitems
    obtain ⟨hresult', hout'⟩ := ht.exec_rounds hv
    exact ⟨hresult.trans hresult', hout.trans hout'⟩
  | body hitems ht h =>
    obtain ⟨hresult, hout⟩ := exec_loop hitems
    obtain ⟨hresult', hout'⟩ := ht.exec_rounds (exec_visitAll_of_error h hv)
    exact ⟨hresult.trans hresult', hout.trans hout'⟩

end

end RichText.Walk
