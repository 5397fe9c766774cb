import RichText.Proofs.Walk.Following
import RichText.Proofs.Walk.Reordering

namespace RichText

theorem Setting.restated_self {σ κ : Type} (S : Setting σ κ) :
    S.Restated (fun _ => False) (fun _ => True) Eq S.env where
  within := ⟨fun _ _ _ _ _ _ => trivial, fun _ _ _ _ _ _ => trivial, fun _ _ _ _ _ _ => trivial⟩
  refl _ _ := rfl
  known _ _ := rfl
  shown _ h := h.elim

namespace Walk

variable {σ κ α : Type}

namespace Follows

variable {P : InterceptorStack σ → Prop} {M : Nat × Node → Prop} {N : Node → Node → Prop}
  {hidden : String → Prop} {S : Setting σ κ} {env : Environment σ}
  {m n : Walk σ (Journal σ κ) Unit}

theorem level_log {v u : WalkState σ (Journal σ κ)} (h : Level P M v u) {es es' : List (Event σ κ)}
    (he : ∀ e ∈ es, ∀ path x, e ≠ .wrote path x) (he' : ∀ e ∈ es', ∀ path x, e ≠ .wrote path x) :
    Level P M { v with out := v.out.log es } { u with out := u.out.log es' } := by
  refine ⟨h.host, h.scope, h.within, h.interceptors, h.admits, h.path, fun base => ?_⟩
  rw [Journal.writes_log he, Journal.writes_log he', h.writes]

theorem level_log_left {v u : WalkState σ (Journal σ κ)} (h : Level P M v u)
    {es : List (Event σ κ)} (he : ∀ e ∈ es, ∀ path x, e ≠ .wrote path x) :
    Level P M { v with out := v.out.log es } u := by
  have hboth := level_log h he (List.forall_mem_nil _)
  rwa [Journal.log_nil] at hboth

theorem note {e e' : Event σ κ} (he : ∀ path x, e ≠ .wrote path x)
    (he' : ∀ path x, e' ≠ .wrote path x) : Alongside P M (note e) (note e') :=
  fun _ _ h => ⟨.ok trivial, level_log h (by simpa using he) (by simpa using he')⟩

section

variable {attrs : Attributes} {content content' : Content} (hS : S.Restated hidden M N env)
  (ha : ∀ e ∈ attrs.exprs, e.Avoids hidden)

include hS ha in
theorem entered (inChain : Bool) (h : Alongside P M m n) :
    Alongside P M (entered S (.mk attrs content) inChain m)
      (entered { S with env } (.mk attrs content') inChain n) := by
  simp only [Attributes.exprs, List.forall_mem_append] at ha
  obtain ⟨-, hif, hlets, hstyle⟩ := ha
  have hpasses : Alongside P M (Walk.passes S (.mk attrs content) inChain)
      (Walk.passes { S with env } (.mk attrs content') inChain : Walk σ (Journal σ κ) Bool) := by
    refine passes hS rfl ?_ inChain
    exact hif
  refine hpasses.bind fun passed _ => (note (by simp) (by simp)).bind fun _ _ => ?_
  cases passed with
  | false => exact pure trivial
  | true => exact bound hS hlets (layered hS hstyle h)

theorem attended_idle {S S' : Setting σ κ} {node node' : Node} (hn : node.attrs.interceptor = none)
    (hn' : node'.attrs.interceptor = none) (h : Alongside Concur.Idle M m n) :
    Alongside Concur.Idle M (attended S node (heedAll S node) (deliver S node) m)
      (attended S' node' (heedAll S' node') (deliver S' node') n) := by
  intro v u hvu
  obtain ⟨hresult, hstate⟩ := h v u hvu
  have hidle : u.interceptors.active = [] := hvu.interceptors ▸ hvu.admits
  have hidle' : (after n u).interceptors.active = [] := hstate.interceptors ▸ hstate.admits
  unfold after at hstate hidle' ⊢
  rw [exec_attended_idle S hn rfl (exec_heedAll_idle S node hvu.admits) hstate.admits,
    exec_attended_idle S' hn' rfl (exec_heedAll_idle S' node' hidle) hidle']
  exact ⟨hresult, hstate⟩

include hS ha

theorem observed (inChain : Bool)
    (hattended : ∀ {m n : Walk σ (Journal σ κ) Unit}, Alongside P M m n → Alongside P M
      (attended S (.mk attrs content) (heedAll S (.mk attrs content))
        (deliver S (.mk attrs content)) m)
      (attended { S with env } (.mk attrs content') (heedAll { S with env } (.mk attrs content'))
        (deliver { S with env } (.mk attrs content')) n))
    (h : Alongside P M m n) :
    Alongside P M (observed S (.mk attrs content) inChain m)
      (observed { S with env } (.mk attrs content') inChain n) := by
  have huse : ∀ e ∈ attrs.useWhen.toList, e.Avoids hidden :=
    fun e he => ha e (List.mem_append_left _ he)
  refine (isOpen hS huse).bind fun opened _ => (note (by simp) (by simp)).bind fun _ _ => ?_
  cases opened with
  | false => exact pure trivial
  | true => exact (hattended (entered hS ha inChain h)).ensuring (note (by simp) (by simp))

theorem observed_idle (inChain : Bool) (hn : attrs.interceptor = none)
    (h : Alongside Concur.Idle M m n) :
    Alongside Concur.Idle M (Walk.observed S (.mk attrs content) inChain m)
      (Walk.observed { S with env } (.mk attrs content') inChain n) :=
  observed hS ha inChain (attended_idle hn hn) h

end

/-! ### Walks of one tree -/

theorem noted (act : Context σ → StateM σ α) {e : Context σ → α → Event σ κ}
    (he : ∀ ctx a path x, e ctx a ≠ .wrote path x) :
    Alongside P M (noted S act e) (Walk.noted S act e) := by
  rintro ⟨host, scope, styles, interceptors, out⟩ u ⟨rfl, rfl, hwithin, hinterceptors, hadmits,
    hpath, hwrites⟩
  let host' := ((act (context S u.scope)).run u.host).2
  have hasked : Level P M ⟨host', u.scope, styles, interceptors, out⟩ { u with host := host' } :=
    ⟨rfl, rfl, hwithin, hinterceptors, hadmits, hpath, hwrites⟩
  exact ⟨.ok trivial, level_log hasked (by simpa using he _ _) (by simpa using he _ _)⟩

theorem attending : Attending S S
    fun _ (m n : Walk σ (Journal σ κ) _) => Alongside (fun _ => True) M m n where
  interceptors := rfl
  pure _ := pure trivial
  bind hm hf := hm.bind fun a _ => hf a
  ensuring := ensuring
  look f := by
    rintro ⟨host, scope, styles, interceptors, out⟩ u hvu
    obtain rfl : interceptors = u.interceptors := hvu.interceptors
    exact ⟨.ok trivial, hvu⟩
  onInterceptors f _ _ h := ⟨.ok trivial, h.host, h.scope, h.within, congrArg f h.interceptors,
    trivial, h.path, h.writes⟩
  noted := noted

theorem of_restores (h : Alongside (fun _ => True) M m n) (hm : Restores Journal.path m) :
    Alongside P M m n := by
  intro v u hvu
  obtain ⟨hresult, hstate⟩ := h v u ⟨hvu.host, hvu.scope, hvu.within, hvu.interceptors, trivial,
    hvu.path, hvu.writes⟩
  exact ⟨hresult, hstate.host, hstate.scope, hstate.within, hstate.interceptors,
    (hm v).interceptors ▸ hvu.admits, hstate.path, hstate.writes⟩

section

variable {splice splice' : Node → Walk σ (Journal σ κ) Unit} (hS : S.Restated hidden M N env)
  (hsplice : ∀ node node', N node node' → Alongside P M (splice node) (splice' node'))

include hS hsplice

theorem dispatch_self {attrs : Attributes} {content : Content}
    (hd : (Node.mk attrs content).Discreet hidden) (h : ∀ part ∈ content.parts, Alongside P M
      (visitWith S (chronicler S) splice part.1 part.2)
      (visitWith { S with env } (chronicler { S with env }) splice' part.1 part.2)) :
    Alongside P M (Walk.dispatch S (chronicler S) splice content)
      (Walk.dispatch { S with env } (chronicler { S with env }) splice' content) := by
  obtain ⟨-, hc, hi, hp⟩ := hd
  refine dispatch hS hsplice hc hi ((Content.Parallel.self content).imp ?_)
  rintro part hmem node' rfl
  exact ⟨fun _ => ⟨rfl, (hp part hmem).ifCond⟩, h part hmem⟩

/-- Two walks of one tree follow each other if what is put around its nodes does. -/
theorem visitWith_self {K : Node → Prop}
    (hK : ∀ {node}, K node → node.Discreet hidden ∧ ∀ part ∈ node.content.parts, K part.1)
    (haround : ∀ {node : Node} (inChain : Bool) {m n : Walk σ (Journal σ κ) Unit}, K node →
      Alongside P M m n → Alongside P M (Walk.observed S node inChain m)
        (Walk.observed { S with env } node inChain n))
    {node : Node} (hk : K node) (inChain : Bool) :
    Alongside P M (visitWith S (chronicler S) splice node inChain)
      (visitWith { S with env } (chronicler { S with env }) splice' node inChain) := by
  induction node using Node.induct generalizing inChain with
  | h attrs content ih =>
    obtain ⟨hdiscreet, hparts⟩ := hK hk
    exact haround inChain hk (dispatch_self hS hsplice hdiscreet fun part hp =>
      ih part hp (hparts part hp) part.2)

end

/-- A tree is walked alike wherever the walk has come equally far, with all its interceptors. -/
theorem visitWith_same {splice : Node → Walk σ (Journal σ κ) Unit}
    (hsplice : ∀ node, Alongside (fun _ => True) (fun _ => True) (splice node) (splice node))
    (node : Node) (inChain : Bool) :
    Alongside (fun _ => True) (fun _ => True) (visitWith S (chronicler S) splice node inChain)
      (visitWith S (chronicler S) splice node inChain) := by
  have hdiscreet : ∀ node : Node, node.Discreet fun _ => False :=
    Node.discreet_of_none fun _ h => h
  refine visitWith_self (K := fun _ => True) S.restated_self
    (fun node _ h => h ▸ hsplice node) (fun _ => ⟨hdiscreet _, fun _ _ => trivial⟩)
    (fun {node} inChain _ _ _ h => ?_) trivial inChain
  obtain ⟨attrs, content⟩ := node
  exact observed S.restated_self (hdiscreet (.mk attrs content)).attrs inChain
    (attending.attended (.mk attrs content)) h

theorem visit_same (S : Setting σ κ) (depth : Nat) (node : Node) (inChain : Bool) :
    Alongside (fun _ => True) (fun _ => True) (visit S (chronicler S) depth node inChain)
      (visit S (chronicler S) depth node inChain) := by
  induction depth generalizing node inChain with
  | zero => exact visitWith_same (fun _ => throw _) node inChain
  | succ depth ih => exact visitWith_same (fun node => ih node false) node inChain

end Follows

end Walk

end RichText
