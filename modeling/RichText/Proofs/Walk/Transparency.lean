import RichText.Proofs.Markup.Bare
import RichText.Proofs.Walk.Pairing

namespace RichText.Walk

variable {σ κ ω α β : Type}

section

variable (S : Setting σ κ) (V : Visitor σ κ ω)

/-- Walks a node without its interceptors and those of the markup that is spliced into it. -/
def visitBare : Nat → Node → Bool → Walk σ ω Unit
  | 0, node, inChain => visitWith S V (fun _ => throw .spliceDepth) node.bare inChain
  | depth + 1, node, inChain =>
    visitWith S V (fun node => visitBare depth node false) node.bare inChain

def renderBare (depth : Nat) (root : Node) (host : σ) : Except RenderError (List κ) × σ :=
  let (result, w) := ((visitBare S (renderer S) depth root false).run).run { host, out := {} }
  (result.map fun _ => w.out.finish S.factory S.slot, w.host)

end

def Unvetoed (es : List (Event σ κ)) : Prop := ∀ i node ctx, .before i node ctx .veto ∉ es

theorem closed_decides (S : Setting σ κ) : Closed S fun es : List (Event σ κ) =>
    ∀ i node ctx answer, .before i node ctx answer ∈ es → Decides node ctx i answer := by
  have hbefores : ∀ {node : Node} {ctx : Context σ} {asked : List (Interceptor σ × Decision)},
      Admits node ctx asked → ∀ i node' ctx' answer,
        .before i node' ctx' answer ∈ (befores node ctx asked : List (Event σ κ)) →
          Decides node' ctx' i answer := by
    intro node ctx asked hasked i node' ctx' answer hmem
    obtain ⟨a, ha, heq⟩ := List.mem_map.1 hmem
    cases heq
    exact (hasked a ha).2
  refine ⟨by simp, fun h h' i node ctx answer hmem => (List.mem_append.1 hmem).elim
    (h i node ctx answer) (h' i node ctx answer), by simp, by simp, by simp, by simp, ?_, ?_⟩
  · intro node scope active offered ho
    cases ho with
    | vetoed asked hasked j hj inner =>
      intro i node' ctx' answer hmem
      simp only [List.mem_append, List.mem_cons, List.mem_map, afters] at hmem
      obtain (hmem | heq | ⟨_, -, heq⟩) | ⟨_, -, heq⟩ := hmem
      · exact hbefores hasked i node' ctx' answer hmem
      · cases heq
        exact hj
      · cases heq
      · cases heq
  · intro node scope active pending offered nested ho hnested i node' ctx' answer hmem
    cases ho with
    | accepted asked hasked =>
      simp only [List.mem_append, List.mem_map, afters] at hmem
      obtain (hmem | hmem) | ⟨_, -, heq⟩ := hmem
      · exact hbefores hasked i node' ctx' answer hmem
      · exact hnested i node' ctx' answer hmem
      · cases heq

theorem unvetoed_chronicle {S : Setting σ κ}
    (h : ∀ name node ctx, ¬ Decides node ctx (S.interceptors name) .veto) (depth : Nat)
    (root : Node) (host : σ) : Unvetoed (chronicle S depth root host).2.out.events := by
  intro i node ctx hmem
  have hvisit := visit_chronicle S depth root host
  obtain ⟨earlier, later, heq⟩ := List.append_of_mem hmem
  have htold := hvisit.balanced.told
  rw [heq, allTold_append] at htold
  obtain ⟨-, carrier, -, hi⟩ := htold.2.1 i node rfl
  obtain ⟨name, -, rfl⟩ := Option.map_eq_some_iff.1 (Option.mem_toList.1 hi)
  exact h name node ctx (hvisit.closed (closed_decides S) _ node ctx .veto hmem)

def Vetoed (v : WalkState σ (Journal σ κ)) : Prop := ¬ Unvetoed v.out.events

theorem Vetoed.log {v w : WalkState σ (Journal σ κ)} (h : Vetoed v) {es : List (Event σ κ)}
    (hout : w.out = v.out.log es) : Vetoed w := by
  intro hw
  refine h fun i node ctx hmem => hw i node ctx ?_
  rw [hout, Journal.events_log]
  exact List.mem_append_left es hmem

/-- A chronicle and one without interceptors that has come equally far. The states of the host may
be different. -/
structure Beside (v u : WalkState σ (Journal σ κ)) : Prop where
  scope : v.scope = u.scope
  idle : u.interceptors.active = []
  path : v.out.path = u.out.path
  writes : ∀ base, v.out.writes base = u.out.writes base

abbrev Transparent (m n : Walk σ (Journal σ κ) α) : Prop := TracksUnless Vetoed Beside m n

namespace Transparent

variable {S : Setting σ κ}

theorem onHost {act : Context σ → StateM σ α} (h : ∀ scope, Steady (act (context S scope))) :
    Transparent (onHost S act : Walk σ (Journal σ κ) α) (onHost S act) := by
  refine ⟨fun _ hv => hv, fun v u hvu _ => ?_⟩
  unfold after
  rw [exec_onHost_of_steady (h v.scope), exec_onHost_of_steady (h u.scope), ← hvu.scope,
    (h v.scope).run_eq v.host u.host]
  exact ⟨rfl, hvu⟩

theorem scopeLikeness (hstatic : S.Static) : ScopeLikeness S S
    fun _ (m : Walk σ (Journal σ κ) _) (n : Walk σ (Journal σ κ) _) => Transparent m n where
  coercion := rfl
  factory := rfl
  pure := TracksUnless.pure
  throw := TracksUnless.throw
  eval e := onHost fun scope => e.steady_eval (steady_context hstatic scope)
  evalAll es := onHost fun scope => Expr.steady_evalList (steady_context hstatic scope) es
  bind := TracksUnless.bind
  lookScope f :=
    ⟨fun _ hv => hv, fun _ _ h _ => ⟨congrArg (fun s => Except.ok (f s)) h.scope, h⟩⟩
  onScope f :=
    ⟨fun _ hv => hv, fun _ _ h _ => ⟨rfl, congrArg f h.scope, h.idle, h.path, h.writes⟩⟩
  ensuring := TracksUnless.ensuring

theorem note {e e' : Event σ κ} (he : ∀ path x, e ≠ .wrote path x)
    (he' : ∀ path x, e' ≠ .wrote path x) : Transparent (note e) (note e') := by
  refine ⟨fun _ hv => hv.log rfl, fun v u h _ => ⟨rfl, h.scope, h.idle, h.path, fun base => ?_⟩⟩
  change (v.out.log [e]).writes base = (u.out.log [e']).writes base
  rw [Journal.writes_log (by simpa using he), Journal.writes_log (by simpa using he'), h.writes]

theorem write (x : Write κ) : Transparent ((chronicler S).write x) ((chronicler S).write x) := by
  refine ⟨fun _ hv => hv.log rfl, fun v u h _ => ⟨rfl, h.scope, h.idle, h.path, fun base => ?_⟩⟩
  change (v.out.log [.wrote v.out.path x]).writes base =
    (u.out.log [.wrote u.out.path x]).writes base
  rw [Journal.writes_log_wrote, Journal.writes_log_wrote, h.writes, h.path]

theorem layered (hstatic : S.Static) (delta : Option StyleDelta)
    {m n : Walk σ (Journal σ κ) Unit} (h : Transparent m n) :
    Transparent (layered S delta m) (layered S delta n) := by
  have honPath : ∀ f : List Layer → List Layer,
      Transparent (onOut fun j : Journal σ κ => { j with path := f j.path })
        (onOut fun j : Journal σ κ => { j with path := f j.path }) := fun f =>
    ⟨fun _ hv => hv, fun _ _ h _ => ⟨rfl, h.scope, h.idle, congrArg f h.path, h.writes⟩⟩
  cases delta with
  | none => exact h
  | some d =>
    refine (onHost fun scope => StyleDelta.steady_evaluate (steady_context hstatic scope) d).bind
      fun own _ => (honPath (⟨d.reset, own⟩ :: ·)).bind fun _ _ => h.ensuring (honPath List.tail)

section

variable {attrs : Attributes} {content content' : Content} {m n : Walk σ (Journal σ κ) Unit}

theorem entered (hstatic : S.Static) (inChain : Bool) (h : Transparent m n) :
    Transparent (entered S (.mk attrs content) inChain m)
      (entered S (.mk attrs.bare content') inChain n) := by
  have hR := scopeLikeness hstatic
  refine (hR.passes rfl inChain).bind fun passed _ => (note (by simp) (by simp)).bind fun _ _ => ?_
  cases passed with
  | false => exact TracksUnless.pure ()
  | true => exact hR.bound _ (layered hstatic _ h)

theorem keeps_attended (node : Node) (h : Keeps Vetoed m) :
    Keeps Vetoed (Walk.attended S node (heedAll S node) (deliver S node) m) := by
  intro v hv
  obtain ⟨host, offered, result, -, hexec⟩ := exec_attended_heedAll S node m v
  unfold after
  rw [hexec]
  cases result with
  | none => exact hv.log rfl
  | some pending =>
    let w : WalkState σ (Journal σ κ) :=
      { v with host, interceptors := register S node v.interceptors, out := v.out.log offered }
    obtain ⟨host', hclose⟩ := exec_close S node pending v.interceptors.height (after m w)
    change Vetoed (after (ensuring m _) w)
    rw [after_ensuring, after, hclose]
    exact (h w (hv.log rfl)).log rfl

theorem attended {node node' : Node} (hn : node'.attrs.interceptor = none) (h : Transparent m n) :
    Transparent (attended S node (heedAll S node) (deliver S node) m)
      (attended S node' (heedAll S node') (deliver S node') n) := by
  refine ⟨keeps_attended node h.stays, fun v u hvu hgood => ?_⟩
  obtain ⟨host, offered, result, ho, hexec⟩ := exec_attended_heedAll S node m v
  unfold after at hgood ⊢
  rw [hexec] at hgood ⊢
  cases result with
  | none =>
    -- the veto that refuses the node is among the events by now
    obtain ⟨i, hi⟩ := ho.exists_veto
    exact absurd (fun hun => hun i node _ (List.mem_append_right v.out.events hi)) hgood
  | some pending =>
    let w : WalkState σ (Journal σ κ) :=
      { v with host, interceptors := register S node v.interceptors, out := v.out.log offered }
    obtain ⟨host', hclose⟩ := exec_close S node pending v.interceptors.height (after m w)
    have hw : Beside w u :=
      ⟨hvu.scope, hvu.idle, hvu.path, fun base =>
        (Journal.writes_log ho.own.ne_wrote base v.out).trans (hvu.writes base)⟩
    change ¬ Vetoed (after (ensuring m _) w) at hgood
    change (exec (ensuring m _) w).1 = _ ∧ Beside (after (ensuring m _) w) _
    rw [after_ensuring, after, hclose] at hgood
    rw [after_ensuring, after, hclose, (total_close S node pending _).result_ensuring]
    obtain ⟨hresult, hstate⟩ := h.tracks w u hw fun hbad => hgood (hbad.log rfl)
    -- the other side is idle there
    rw [exec_attended_idle S hn rfl (exec_heedAll_idle S node' hvu.idle) hstate.idle]
    exact ⟨hresult, hstate.scope, hstate.idle, hstate.path, fun base =>
      (Journal.writes_log (by simp [afters]) base (after m w).out).trans (hstate.writes base)⟩

theorem observed (hstatic : S.Static) (inChain : Bool) (h : Transparent m n) :
    Transparent (observed S (.mk attrs content) inChain m)
      (observed S (.mk attrs.bare content') inChain n) := by
  refine ((scopeLikeness hstatic).isOpen _).bind fun opened _ =>
    (note (by simp) (by simp)).bind fun _ _ => ?_
  cases opened with
  | false => exact TracksUnless.pure ()
  | true => exact (attended rfl (entered hstatic inChain h)).ensuring (note (by simp) (by simp))

end

theorem visit (hstatic : S.Static) (depth : Nat) (node : Node) (inChain : Bool) :
    Transparent (visit S (chronicler S) depth node inChain)
      (visitBare S (chronicler S) depth node inChain) := by
  have hR := scopeLikeness hstatic
  have hvisit := hR.visitWith (chronicler S) (chronicler S)
    (N := fun node node' => node' = node.bare) (H := Eq)
    (fun node _ hn => by
      obtain ⟨attrs, content⟩ := node
      exact hn ▸ ⟨rfl, content.alike_mapAttributes⟩)
    (fun x _ => write x) (fun head _ _ _ _ _ hh => hh ▸ hR.loop head _ _ _ _)
    (fun node _ inChain _ _ hn h => by
      obtain ⟨attrs, content⟩ := node
      exact hn ▸ observed hstatic inChain h)
  induction depth generalizing node inChain with
  | zero => exact hvisit _ _ (fun _ => hR.throw _) rfl inChain
  | succ depth ih => exact hvisit _ _ (fun node => ih node false) rfl inChain

end Transparent

theorem InStep.visitBare {S : Setting σ κ} (depth : Nat) (node : Node) (inChain : Bool) :
    InStep S (visitBare S (renderer S) depth node inChain)
      (visitBare S (chronicler S) depth node inChain) := by
  have hR := scopeCongruence S
  have hvisit := hR.visitWith (renderer S) (chronicler S) (fun x _ => write x) hR.loop
    fun node inChain _ _ => surround node inChain
  induction depth generalizing node inChain with
  | zero => exact hvisit _ _ (fun _ => hR.throw _) node.bare inChain
  | succ depth ih => exact hvisit _ _ (fun node => ih node false) node.bare inChain

/-- Interceptors are of no consequence to what a render results in if none of them vetoes a node.
It results in the same without all of them, and without those of its tree if those of the markup
that is spliced in do not veto a node then. -/
theorem render_bare {S : Setting σ κ} (hstatic : S.Static) {depth : Nat} {root : Node}
    {host : σ} (hveto : Unvetoed (chronicle S depth root host).2.out.events) :
    (render S depth root host).1 = (renderBare S depth root host).1 ∧
      (Unvetoed (chronicle S depth root.bare host).2.out.events →
        (render S depth root host).1 = (render S depth root.bare host).1) := by
  have hbare : ∀ node : Node, Unvetoed (chronicle S depth node host).2.out.events →
      (render S depth node host).1 = (renderBare S depth node host).1 := by
    intro node hnode
    obtain ⟨hresult, hstate⟩ := (Transparent.visit hstatic depth node false).tracks
      { host, out := {} } { host, out := {} } ⟨rfl, rfl, rfl, fun _ => rfl⟩ (not_not_intro hnode)
    obtain ⟨hresult', -, hentries⟩ := (InStep.visitBare (S := S) depth node false).finish host
    rw [render_eq]
    change (exec (visit S (chronicler S) depth node false) { host, out := {} }).1.map _ =
      (exec (visitBare S (renderer S) depth node false) { host, out := {} }).1.map fun _ =>
        Draft.finish S.factory S.slot
          (after (visitBare S (renderer S) depth node false) { host, out := {} }).out
    rw [hentries, hresult', hresult, ← hstate.writes]
    rfl
  have hidem : renderBare S depth root.bare host = renderBare S depth root host := by
    unfold renderBare
    cases depth with
    | zero => rw [visitBare, visitBare, root.bare_bare]
    | succ depth => rw [visitBare, visitBare, root.bare_bare]
  refine ⟨hbare root hveto, fun hveto' => ?_⟩
  rw [hbare root hveto, hbare root.bare hveto', hidem]

def counting : Setting Nat Component where
  env _ := pure none
  coercion := {}
  fields := {}
  interceptors label :=
    { label
      before := fun _ _ n => (if n % 2 = 0 then .proceed else .proceedThenAfter, n + 1)
      after := fun _ _ => modify (· + 1) }
  factory := Component.factory
  slot := .chat

theorem render_bare_watched :
    counting.Static ∧ Unvetoed (chronicle counting 0 watched 0).2.out.events ∧
      (render counting 0 watched 0).1 = (render counting 0 watched.bare 0).1 ∧
      (chronicle counting 0 watched 0).2.host = 3 := by
  have hstatic : counting.Static := ⟨⟨fun _ => none, fun _ _ => rfl⟩, FieldTable.static_empty⟩
  have hnever : ∀ root, Unvetoed (chronicle counting 0 root 0).2.out.events := by
    refine fun root => unvetoed_chronicle (fun name node ctx => ?_) 0 root 0
    rintro ⟨n, hn⟩
    change (if n % 2 = 0 then Decision.proceed else .proceedThenAfter) = .veto at hn
    split at hn <;> cases hn
  exact ⟨hstatic, hnever watched,
    (render_bare hstatic (hnever watched)).2 (hnever watched.bare), rfl⟩

end RichText.Walk
