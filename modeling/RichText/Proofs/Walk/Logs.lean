import Mathlib.Data.List.Induction
import RichText.Proofs.Walk.Grammar

namespace RichText.Walk

variable {σ κ α : Type} {S : Setting σ κ}

theorem register_active (S : Setting σ κ) (node : Node) (s : InterceptorStack σ) :
    (register S node s).active = carried S node ++ s.active := by
  unfold register carried
  cases node.attrs.interceptor <;> rfl

def LogsVisit (S : Setting σ κ) (depth : Nat) (node : Node) (inChain : Bool)
    (m : Walk σ (Journal σ κ) Unit) : Prop :=
  ∀ visits v, v.interceptors.active = visits.flatMap (carried S) →
    ∃ es, (after m v).out.events = v.out.events ++ es ∧
      Visit S depth visits v.out.path v node inChain es

/-- In the walk of a content from the state `w` the state is `t` now. What has been noted down are
events of the content. -/
structure Stage (S : Setting σ κ) (depth : Nat) (visits : List Node) (content : Content)
    (w t : WalkState σ (Journal σ κ)) : Prop where
  interceptors : t.interceptors = w.interceptors
  path : t.out.path = w.out.path
  events : ∃ es, t.out.events = w.out.events ++ es ∧
    Contents S depth visits w.out.path w content es

namespace Stage

variable {depth : Nat} {visits : List Node} {content : Content} {w t : WalkState σ (Journal σ κ)}

theorem start (w : WalkState σ (Journal σ κ)) : Stage S depth visits content w w :=
  ⟨rfl, rfl, [], (List.append_nil _).symm, .nil⟩

theorem quiet {u : WalkState σ (Journal σ κ)} (h : Stage S depth visits content w t)
    (hi : u.interceptors = t.interceptors) (ho : u.out = t.out) :
    Stage S depth visits content w u := by
  obtain ⟨hinterceptors, hpath, es, hevents, hcontents⟩ := h
  exact ⟨hi.trans hinterceptors, ho ▸ hpath, es, ho ▸ hevents, hcontents⟩

theorem same {u : WalkState σ (Journal σ κ)} (h : Stage S depth visits content w t)
    (hu : Same id t u) : Stage S depth visits content w u := h.quiet hu.interceptors hu.out

theorem write {x : Write κ} (hx : Emitted S x) :
    Keeps (Stage S depth visits content w) ((chronicler S).write x) := by
  rintro t ⟨hinterceptors, hpath, es, hevents, hcontents⟩
  refine ⟨hinterceptors, hpath, es ++ [.wrote t.out.path x], ?_, hpath ▸ hcontents.wrote hx⟩
  change t.out.events ++ _ = _
  rw [hevents, List.append_assoc]

theorem congruence (S : Setting σ κ) : Congruence S
    fun _ (m : Walk σ (Journal σ κ) _) (_ : Walk σ (Journal σ κ) _) =>
      Keeps (Stage S depth visits content w) m :=
  Keeps.congruence S fun _ _ h => h.quiet rfl rfl

section

variable (hw : w.interceptors.active = visits.flatMap (carried S))

include hw

theorem part {part : Node} {inPart : Bool} (h : Stage S depth visits content w t)
    (hc : Comes S (splicer S depth) content w part inPart t)
    (hp : LogsVisit S depth part inPart (visit S (chronicler S) depth part inPart)) :
    Stage S depth visits content w (after (visit S (chronicler S) depth part inPart) t) := by
  obtain ⟨hinterceptors, hpath, es, hevents, hcontents⟩ := h
  have hactive : t.interceptors.active = visits.flatMap (carried S) := by rw [hinterceptors, hw]
  obtain ⟨es', hevents', hvisit⟩ := hp visits t hactive
  have hrestored := Restores.visit_chronicler S depth part inPart t
  rw [hpath] at hvisit
  refine ⟨hrestored.interceptors.trans hinterceptors, hrestored.out.trans hpath, es ++ es', ?_,
    hcontents.part hc hevents hvisit⟩
  rw [hevents', hevents, List.append_assoc]

theorem visitAll {nodes : List Node} (h : Stage S depth visits content w t)
    (hc : ∀ earlier child later v, nodes = earlier ++ child :: later →
      exec (Walk.visitAll S (chronicler S) (splicer S depth) earlier) t = (.ok (), v) →
      Comes S (splicer S depth) content w child false v)
    (hp : ∀ child ∈ nodes, LogsVisit S depth child false
      (visit S (chronicler S) depth child false)) :
    Stage S depth visits content w
      (after (Walk.visitAll S (chronicler S) (splicer S depth) nodes) t) := by
  -- the last node is come to once all the others are done
  induction nodes using List.reverseRecOn with
  | nil => exact h
  | append_singleton init last ih =>
    have hinit := ih (fun earlier child later v heq => hc earlier child (later ++ [last]) v (by
      rw [heq, List.append_assoc, List.cons_append])) fun child hchild =>
        hp child (List.mem_append_left _ hchild)
    rcases hv : exec (Walk.visitAll S (chronicler S) (splicer S depth) init) t with ⟨e | _, v⟩
    · rw [after, visitAll_append, exec_bind_error hv]
      rwa [after, hv] at hinit
    · rw [after, hv] at hinit
      have hlast := hinit.part hw (hc init last [] v rfl hv) (hp last (by simp))
      rw [visit_eq] at hlast
      rw [after, visitAll_append, exec_bind_ok hv, visitAll_singleton]
      exact hlast

theorem visitOption {node? : Option Node} {inPart : Bool} (h : Stage S depth visits content w t)
    (hc : ∀ node, node? = some node → Comes S (splicer S depth) content w node inPart t)
    (hp : ∀ node ∈ node?, LogsVisit S depth node inPart
      (visit S (chronicler S) depth node inPart)) :
    Stage S depth visits content w
      (after (Walk.visitOption S (chronicler S) (splicer S depth) node? inPart) t) := by
  cases node? with
  | none => exact h
  | some node =>
    have hnode := h.part hw (hc node rfl) (hp node rfl)
    rwa [visit_eq] at hnode

end

theorem rounds {head : LoopHead} {separator body : Walk σ (Journal σ κ) Unit} {count index : Nat}
    {items : List Value} (h : Stage S depth visits content w t)
    (hturn : ∀ inBody v, Turns S head separator body count index items t inBody v →
      Stage S depth visits content w v →
      Stage S depth visits content w (after (if inBody then body else separator) v)) :
    Stage S depth visits content w
      (after (Walk.rounds S head separator body count index items) t) := by
  induction items generalizing index t with
  | nil => exact h
  | cons item rest ih =>
    have hlets : Stage S depth visits content w
        (after (roundLets S head separator count index item) t) := by
      have hrest : ∀ u, Stage S depth visits content w u → Stage S depth visits content w
          (after (onScope (setRound head.var item index count) >>= fun _ =>
            evalLoopLets S [] head.lets) u) := by
        intro u hu
        have hown : Restores id (evalLoopLets S [] head.lets : Walk σ (Journal σ κ) _) :=
          (Restores.congruence S).likeness.evalLoopLets [] head.lets
        let v : WalkState σ (Journal σ κ) :=
          { u with scope := setRound head.var item index count u.scope }
        have hset : Stage S depth visits content w v := hu.quiet rfl rfl
        exact hset.same (hown v)
      unfold roundLets
      by_cases hindex : 0 < index
      · have hseparator := hturn false t (.separator hindex) h
        simp only [hindex, if_true]
        obtain hend | ⟨_, -, hend⟩ := after_bind separator (fun _ =>
          onScope (setRound head.var item index count) >>= fun _ =>
            evalLoopLets S [] head.lets) t
        · exact hend ▸ hseparator
        · exact hend ▸ hrest _ hseparator
      · simp only [hindex, if_false]
        exact hrest t h
    have hround : Stage S depth visits content w
        (after (round S head separator body count index item) t) := by
      rcases hu : exec (roundLets S head separator count index item) t with ⟨e | bindings, u⟩ <;>
        rw [after, hu] at hlets
      · rwa [round, after, exec_bind_error hu]
      · have hbegin : exec (beginRound S head separator count index item) t =
            (.ok (), after (pushAll bindings) u) := exec_bind_ok hu _
        have hbody := hturn true _ (.body hbegin) (hlets.quiet rfl rfl)
        rw [round, after, exec_bind_ok hu]
        change Stage S depth visits content w (after (binding bindings body) u)
        rw [after_binding]
        exact hbody.quiet rfl rfl
    rw [rounds_cons]
    rcases hu : exec (round S head separator body count index item) t with ⟨e | _, u⟩ <;>
      rw [after, hu] at hround
    · rwa [after, exec_bind_error hu]
    · rw [after, exec_bind_ok hu]
      exact ih hround fun inBody v hv => hturn inBody v (.later hu hv)

end Stage

section

variable {w v : WalkState σ (Journal σ κ)}

theorem same_of_isOpen {gate : Option Expr} {result : Except RenderError Bool}
    (h : exec (isOpen S gate) w = (result, v)) : Same id w v := by
  have hopen : Restores id (isOpen S gate : Walk σ (Journal σ κ) Bool) :=
    (Restores.congruence S).likeness.isOpen gate
  exact hopen.same h

theorem Untaken.same {branches : List Node} (h : Untaken S branches w v) : Same id w v := by
  induction h with
  | nil => exact .refl _
  | cons hgate _ ih => exact (same_of_isOpen hgate).trans ih

theorem same_of_loopItems {head : LoopHead} {result : Except RenderError (List Value)}
    (h : exec (loopItems S head) w = (result, v)) : Same id w v := by
  have hR : Congruence S fun _ (m : Walk σ (Journal σ κ) _) (_ : Walk σ (Journal σ κ) _) =>
      Restores id m := Restores.congruence S
  have hitems : Restores id (loopItems (κ := κ) S head) :=
    (hR.likeness.eval _).bind fun _ _ => (hR.likeness.isReversed _).bind fun _ _ => Same.refl
  exact hitems.same h

end

section

variable {depth : Nat} {visits : List Node} {w : WalkState σ (Journal σ κ)}
  (hw : w.interceptors.active = visits.flatMap (carried S))

include hw

theorem stage_chain {branches : List Node} {fallback : Option Node}
    (hb : ∀ branch ∈ branches, LogsVisit S depth branch true
      (visit S (chronicler S) depth branch true))
    (hf : ∀ node ∈ fallback, LogsVisit S depth node true
      (visit S (chronicler S) depth node true)) :
    Stage S depth visits (.chain branches fallback) w
      (after (dispatch S (chronicler S) (splicer S depth) (.chain branches fallback)) w) := by
  unfold after
  obtain ⟨v, hv⟩ | ⟨earlier, branch, later, u, v, rfl, hu, hv⟩ := untaken_or_taken S branches w
  · rw [hv.exec_chain]
    exact ((Stage.start w).same hv.same).visitOption hw
      (fun node hnode => hnode ▸ .otherwise hv) hf
  · have hcome : Comes S (splicer S depth) (.chain (earlier ++ branch :: later) fallback) w branch
        true v := .branch hu hv
    have hbranch := (((Stage.start w).same hu.same).same (same_of_isOpen hv)).part hw hcome
      (hb branch (by simp))
    rw [visit_eq] at hbranch
    rwa [hu.exec_chain_taken hv]

theorem stage_matching {input : Expr} {cases : List (String × Node)} {fallback : Option Node}
    (hc : ∀ c ∈ cases, LogsVisit S depth c.2 false (visit S (chronicler S) depth c.2 false))
    (hf : ∀ node ∈ fallback, LogsVisit S depth node false
      (visit S (chronicler S) depth node false)) :
    Stage S depth visits (.matching input cases fallback) w
      (after (dispatch S (chronicler S) (splicer S depth) (.matching input cases fallback)) w) := by
  obtain ⟨value, hvalue⟩ := Total.onHost S input.eval w
  let v := after (onHost S input.eval) w
  have hasked : Stage S depth visits (.matching input cases fallback) w v :=
    (Stage.start w).same (Restores.onHost S input.eval w)
  unfold after
  obtain hnone | ⟨label, case, hn, hfind⟩ := unmatched_or_case S value cases
  · rw [exec_matching_unmatched hvalue hnone]
    exact hasked.visitOption hw (fun node hnode => hnode ▸ .unmatched hvalue hnone) hf
  · have hcase := hasked.part hw (.case hvalue hn hfind)
      (hc (label, case) (List.mem_of_find?_eq_some hfind))
    rw [visit_eq] at hcase
    rwa [exec_matching_case hvalue hn hfind]

theorem stage_loop (head : LoopHead) {separator : Option Node} {body : List Node}
    (hs : ∀ node ∈ separator, LogsVisit S depth node false
      (visit S (chronicler S) depth node false))
    (hb : ∀ child ∈ body, LogsVisit S depth child false
      (visit S (chronicler S) depth child false)) :
    ∃ t, Stage S depth visits (.loop head separator body) w t ∧
      (after (dispatch S (chronicler S) (splicer S depth) (.loop head separator body)) w).out =
        t.out := by
  obtain ⟨items, hitems⟩ := total_loopItems S head w
  let asked := after (loopItems S head) w
  let opened := { asked with scope := openLoop head.var asked.scope }
  have hopened : Stage S depth visits (.loop head separator body) w opened :=
    ((Stage.start w).same (same_of_loopItems hitems)).quiet rfl rfl
  rw [dispatch]
  refine ⟨_, hopened.rounds fun inBody v hv h => ?_, (exec_loop hitems).2⟩
  cases inBody with
  | false =>
    refine h.visitOption hw (fun node hnode => ?_) hs
    subst hnode
    exact .separator hitems hv
  | true =>
    refine h.visitAll hw (fun earlier child later u heq hu => ?_) hb
    subst heq
    exact .body hitems hv hu

theorem logs_dispatch {content : Content}
    (hparts : ∀ part ∈ content.parts, LogsVisit S depth part.1 part.2
      (visit S (chronicler S) depth part.1 part.2))
    (hsplice : ∀ n, depth = n + 1 → ∀ markup, LogsVisit S n markup false
      (visit S (chronicler S) n markup false)) :
    ∃ es, (after (dispatch S (chronicler S) (splicer S depth) content) w).out.events =
        w.out.events ++ es ∧ Contents S depth visits w.out.path w content es := by
  have hstart : Stage S depth visits content w w := .start w
  cases content with
  | container children =>
    refine (hstart.visitAll hw (fun earlier child later v heq hv => ?_) fun child hchild =>
      hparts (child, false) (List.mem_map_of_mem hchild)).events
    subst heq
    exact .child hv
  | chain branches fallback =>
    simp only [Content.parts, List.forall_mem_append] at hparts
    exact (stage_chain hw (fun branch h => hparts.1 (branch, true) (List.mem_map_of_mem h))
      fun node h => hparts.2 (node, true) (List.mem_map_of_mem (Option.mem_toList.2 h))).events
  | matching input cases fallback =>
    simp only [Content.parts, List.forall_mem_append] at hparts
    exact (stage_matching hw (fun c h => hparts.1 (c.2, false) (List.mem_map.2 ⟨c, h, rfl⟩))
      fun node h => hparts.2 (node, false) (List.mem_map_of_mem (Option.mem_toList.2 h))).events
  | loop head separator body =>
    simp only [Content.parts, List.forall_mem_append] at hparts
    obtain ⟨t, ht, hout⟩ := stage_loop hw head
      (fun node h => hparts.1 (node, false) (List.mem_map_of_mem (Option.mem_toList.2 h)))
      fun child h => hparts.2 (child, false) (List.mem_map_of_mem h)
    rw [hout]
    exact ht.events
  | lineBreak => exact (Stage.write .lineBreak w hstart).events
  | interpolation e =>
    obtain ⟨value, hvalue⟩ := Total.onHost S e.eval w
    have hsame : Same id w (after (onHost S e.eval) w) := Restores.onHost S e.eval w
    unfold after
    rw [dispatch, show eval S e = onHost S e.eval from rfl, exec_bind_ok hvalue]
    cases value with
    | markup id display markup =>
      cases depth with
      | zero => exact (hstart.same hsame).events
      | succ n =>
        obtain ⟨es, hevents, hvisit⟩ := hsplice n rfl markup visits (after (onHost S e.eval) w)
          (by rw [hsame.interceptors, hw])
        exact ⟨es, hevents.trans (congrArg (·.events ++ es) hsame.out), .spliced hvalue
          (congrArg Journal.path hsame.out ▸ hvisit)⟩
    | _ => exact (Stage.write (.text _) _ (hstart.same hsame)).events
  | leaf l =>
    exact ((Stage.congruence S).likeness.emit (chronicler S) (chronicler S)
      (fun x hx => Stage.write hx) l w hstart).events

end

section

variable {depth : Nat} {visits : List Node} {node : Node} {u w : WalkState σ (Journal σ κ)}

theorem layered_addLayer {delta : Option StyleDelta}
    (h : exec (addLayer S delta) u = (.ok (), w)) :
    w.interceptors = u.interceptors ∧ w.out.events = u.out.events ∧
      Layered S u.out.path u delta w.out.path := by
  obtain rfl : after (addLayer S delta) u = w := congrArg Prod.snd h
  cases delta with
  | none => exact ⟨rfl, rfl, .unstyled⟩
  | some d => exact ⟨rfl, rfl, .styled d⟩

theorem out_of_pushLets {lets : List (String × Expr)}
    (h : exec (evalLets S [] lets >>= pushAll) u = (.ok (), w)) :
    w.interceptors = u.interceptors ∧ w.out = u.out := by
  have hlets : Restores id (evalLets S [] lets : Walk σ (Journal σ κ) _) :=
    (Restores.congruence S).likeness.evalLets [] lets
  rcases hu : exec (evalLets S [] lets) u with ⟨e | bindings, u'⟩
  · rw [exec_bind_error hu] at h
    cases congrArg Prod.fst h
  · rw [exec_bind_ok hu] at h
    obtain rfl : after (pushAll bindings) u' = w := congrArg Prod.snd h
    exact ⟨(hlets.same hu).interceptors, (hlets.same hu).out⟩

variable (hdispatch : ∀ visits w, w.interceptors.active = visits.flatMap (carried S) → ∃ es,
  (after (dispatch S (chronicler S) (splicer S depth) node.content) w).out.events =
    w.out.events ++ es ∧ Contents S depth visits w.out.path w node.content es)

include hdispatch

theorem logs_entered (inChain : Bool) {v : WalkState σ (Journal σ κ)}
    (hv : v.interceptors.active = visits.flatMap (carried S)) :
    ∃ es, (after (entered S node inChain
        (dispatch S (chronicler S) (splicer S depth) node.content)) v).out.events =
        v.out.events ++ es ∧ Entry S depth visits v.out.path v node inChain es := by
  let body := dispatch S (chronicler S) (splicer S depth) node.content
  obtain ⟨passed, hpassed⟩ := Total.passes S node inChain v
  let u := after (passes S node inChain) v
  have hu : Same id v u := (Restores.congruence S).likeness.passes rfl inChain v
  have hout : u.out = v.out := hu.out
  unfold after entered
  rw [exec_bind_ok hpassed]
  cases passed with
  | false => exact ⟨[.ifGate node false], congrArg (·.events ++ _) hout, .gated hpassed⟩
  | true =>
    let begun : WalkState σ (Journal σ κ) := { u with out := u.out.log [.ifGate node true] }
    have hbegun : begun.out.events = v.out.events ++ [.ifGate node true] :=
      congrArg (·.events ++ _) hout
    change ∃ es, (after (bound S node.attrs.lets (layered S node.attrs.style body))
      begun).out.events = _ ∧ _
    rcases hbegin : exec (beginBody S node) begun with ⟨e | _, w⟩
    -- a name that is bound twice, and nothing more is noted down
    · obtain ⟨hend, hsame⟩ := exec_body_of_error body hbegin
      refine ⟨[.ifGate node true], ?_, .failed hpassed (congrArg Prod.fst hbegin)⟩
      rw [after, hend, hsame, hbegun]
    · obtain ⟨b, hpush, hlayer⟩ := exists_of_beginBody hbegin
      obtain ⟨hbi, hbo⟩ := out_of_pushLets hpush
      obtain ⟨hwi, hwe, hlayered⟩ := layered_addLayer hlayer
      have hactive : w.interceptors.active = visits.flatMap (carried S) := by
        rw [hwi, hbi, ← hv]
        exact congrArg InterceptorStack.active hu.interceptors
      obtain ⟨es, hes, hcontents⟩ := hdispatch visits w hactive
      have hpath : b.out.path = v.out.path := by
        rw [hbo, ← hout]
        rfl
      rw [hpath] at hlayered
      refine ⟨.ifGate node true :: es, ?_, .passed hpassed hpush hlayered hlayer hcontents hes⟩
      rw [(exec_body_of_ok body hbegin).2, hes, hwe, hbo, hbegun, List.append_assoc]
      rfl

theorem logs_attended (inChain : Bool) {v u : WalkState σ (Journal σ κ)}
    (hv : v.interceptors.active = visits.flatMap (carried S))
    (hopen : exec (isOpen S node.attrs.useWhen) v = (.ok true, u)) :
    ∃ es, (after (attended S node (heedAll S node) (deliver S node) (entered S node inChain
        (dispatch S (chronicler S) (splicer S depth) node.content)))
          { u with out := u.out.log [.useGate node true] }).out.events =
        v.out.events ++ .useGate node true :: es ∧
      Visit S depth visits v.out.path v node inChain
        (.useGate node true :: (es ++ [.left node])) := by
  let body := dispatch S (chronicler S) (splicer S depth) node.content
  have hu : Same id v u := same_of_isOpen hopen
  have hout : u.out = v.out := hu.out
  let begun : WalkState σ (Journal σ κ) := { u with out := u.out.log [.useGate node true] }
  let registered := { begun with interceptors := register S node u.interceptors }
  obtain ⟨host, offered, result, ho, hheed⟩ := exec_heedAll S node registered
  let heeded : WalkState σ (Journal σ κ) :=
    { registered with host, out := registered.out.log offered }
  have hheeded : heeded.interceptors.active = (node :: visits).flatMap (carried S) := by
    change (register S node u.interceptors).active = _
    rw [register_active, hu.interceptors, hv, List.flatMap_cons]
  have hlog : heeded.out.events = v.out.events ++ .useGate node true :: offered := by
    change (u.out.events ++ [.useGate node true]) ++ offered = _
    rw [hout, List.append_assoc]
    rfl
  have hoffered : Offered S visits node v offered result heeded := by
    rw [show registered.interceptors.active = _ from hheeded,
      show registered.scope = v.scope from hu.scope] at ho
    exact .mk hopen hheed hlog ho
  unfold after
  rw [exec_attended (w := begun) hheed]
  cases result with
  | none => exact ⟨offered, hlog, .vetoed hoffered⟩
  | some pending =>
    obtain ⟨nested, hnested, hentry⟩ := logs_entered hdispatch inChain hheeded
    let entry := after (entered S node inChain body) heeded
    have hentered : Restores Journal.path (entered S node inChain body) :=
      .entered S node inChain (.dispatch S (chronicler S) (Restores.chronicler_write S)
        (fun node inChain _ => Restores.observed S node inChain) (restores_splicer S depth) _)
    have hscope : entry.scope = v.scope := (hentered heeded).scope.trans hu.scope
    have hpath : heeded.out.path = v.out.path := by
      rw [← hout]
      rfl
    rw [hpath] at hentry
    obtain ⟨host', hclose⟩ := exec_close S node pending u.interceptors.height entry
    rw [hscope] at hclose
    refine ⟨_, ?_, .accepted hoffered hentry⟩
    change (after (ensuring (entered S node inChain body) _) heeded).out.events = _
    rw [after_ensuring, after, hclose]
    change entry.out.events ++ afters node (context S v.scope) pending = _
    rw [hnested, hlog]
    simp only [List.append_assoc, List.cons_append]

theorem logsVisit_observed (inChain : Bool) :
    LogsVisit S depth node inChain
      (observed S node inChain (dispatch S (chronicler S) (splicer S depth) node.content)) := by
  intro visits v hv
  obtain ⟨opened, hopen⟩ := Total.isOpen S node.attrs.useWhen v
  cases opened with
  | false =>
    refine ⟨[.useGate node false], ?_, .shut hopen⟩
    unfold after observed
    rw [exec_bind_ok hopen]
    exact congrArg (·.events ++ _) (same_of_isOpen hopen).out
  | true =>
    obtain ⟨es, hes, hvisit⟩ := logs_attended hdispatch inChain hv hopen
    refine ⟨_, ?_, hvisit⟩
    rw [(exec_observed_of_open _ hopen inChain).2]
    change (after (attended S node (heedAll S node) (deliver S node) (entered S node inChain _))
      _).out.events ++ [.left node] = _
    rw [hes, List.append_assoc]
    rfl

end

theorem logsVisit_visit (depth : Nat) (node : Node) (inChain : Bool) :
    LogsVisit S depth node inChain (visit S (chronicler S) depth node inChain) := by
  -- spliced markup may be larger than the node that it is spliced into, but is less deep
  induction depth generalizing node inChain with
  | zero =>
    induction node using Node.induct generalizing inChain with
    | h attrs content ih =>
      rw [visit_eq, visitWith_eq]
      refine logsVisit_observed (fun visits w hw => ?_) inChain
      exact logs_dispatch hw (fun part hp => ih part hp part.2) fun _ h => nomatch h
  | succ depth ih =>
    induction node using Node.induct generalizing inChain with
    | h attrs content ihn =>
      rw [visit_eq, visitWith_eq]
      refine logsVisit_observed (fun visits w hw => ?_) inChain
      refine logs_dispatch hw (fun part hp => ihn part hp part.2) fun n h markup => ?_
      obtain rfl := Nat.succ.inj h
      exact ih markup false

theorem visit_chronicle (S : Setting σ κ) (depth : Nat) (root : Node) (host : σ) :
    Visit S depth [] [] { host, out := {} } root false
      (chronicle S depth root host).2.out.events := by
  obtain ⟨es, hevents, hvisit⟩ :=
    logsVisit_visit (S := S) depth root false [] { host, out := {} } rfl
  rw [List.nil_append] at hevents
  exact hevents ▸ hvisit

end RichText.Walk
