import RichText.Proofs.Walk.Likeness

namespace RichText

namespace Walk

variable {σ κ ω ω' α β : Type}

/-- A relation between two walks that write to different things, of which the walks that only ask
the host something do not notice. -/
structure Congruence (S : Setting σ κ) (R : ∀ α : Type, Walk σ ω α → Walk σ ω' α → Prop) :
    Prop where
  pure : ∀ {α : Type} (a : α), R α (pure a) (pure a)
  throw : ∀ {α : Type} (e : RenderError), R α (throw e) (throw e)
  onHost : ∀ {α : Type} (act : Context σ → StateM σ α), R α (onHost S act) (onHost S act)
  bind : ∀ {α β : Type} {m : Walk σ ω α} {n : Walk σ ω' α} {f : α → Walk σ ω β}
    {g : α → Walk σ ω' β}, R α m n → (∀ a, Yields m a → R β (f a) (g a)) →
    R β (m >>= f) (n >>= g)

namespace Congruence

variable {S : Setting σ κ} {R : ∀ α : Type, Walk σ ω α → Walk σ ω' α → Prop}

theorem likeness (hR : Congruence S R) : Likeness S S R where
  coercion := rfl
  factory := rfl
  pure := hR.pure
  throw := hR.throw
  eval _ := hR.onHost _
  evalAll _ := hR.onHost _
  bind := hR.bind

theorem rounds (hR : Congruence S R) {head : LoopHead} {count : Nat}
    (separator body : Walk σ ω Unit) (separator' body' : Walk σ ω' Unit)
    (hset : ∀ item index,
      R Unit (onScope (setRound head.var item index count))
        (onScope (setRound head.var item index count)))
    (hsep : R Unit separator separator')
    (hbody : ∀ bindings, R Unit (binding bindings body) (binding bindings body'))
    (index : Nat) (items : List Value) :
    R Unit (Walk.rounds S head separator body count index items)
      (Walk.rounds S head separator' body' count index items) :=
  hR.likeness.rounds separator body separator' body' hset hsep
    (hR.bind (hR.likeness.evalLoopLets [] head.lets) fun bindings _ => hbody bindings) index items

section

variable (hR : Congruence S R) (V : Visitor σ κ ω) (V' : Visitor σ κ ω')

include hR

theorem dispatch (splice : Node → Walk σ ω Unit) (splice' : Node → Walk σ ω' Unit)
    {content : Content} (hw : ∀ x, Emitted S x → R Unit (V.write x) (V'.write x))
    (hloop : ∀ (head : LoopHead) (separator body : Walk σ ω Unit)
      (separator' body' : Walk σ ω' Unit), R Unit separator separator' → R Unit body body' →
      R Unit (loop S head separator body) (loop S head separator' body'))
    (hparts : ∀ part ∈ content.parts,
      R Unit (visitWith S V splice part.1 part.2) (visitWith S V' splice' part.1 part.2))
    (hsplice : ∀ node, R Unit (splice node) (splice' node)) :
    R Unit (Walk.dispatch S V splice content) (Walk.dispatch S V' splice' content) :=
  hR.likeness.dispatch V V' splice splice' (.self content) (fun _ _ h => h ▸ rfl) hw
    (fun head _ _ _ _ _ h => h ▸ hloop head _ _ _ _) (fun part hp _ h => h ▸ hparts part hp) hsplice

variable (hw : ∀ x, Emitted S x → R Unit (V.write x) (V'.write x))
  (hloop : ∀ (head : LoopHead) (separator body : Walk σ ω Unit)
    (separator' body' : Walk σ ω' Unit), R Unit separator separator' → R Unit body body' →
    R Unit (loop S head separator body) (loop S head separator' body'))
  (haround : ∀ (node : Node) (inChain : Bool) {m : Walk σ ω Unit} {n : Walk σ ω' Unit},
    R Unit m n → R Unit (V.around node inChain m) (V'.around node inChain n))

include hw hloop haround

theorem visitWith (splice : Node → Walk σ ω Unit) (splice' : Node → Walk σ ω' Unit)
    (hs : ∀ node, R Unit (splice node) (splice' node)) (node : Node) (inChain : Bool) :
    R Unit (visitWith S V splice node inChain) (visitWith S V' splice' node inChain) :=
  hR.likeness.visitWith V V' Node.alike_of_eq hw (fun head _ _ _ _ _ h => h ▸ hloop head _ _ _ _)
    (fun node _ inChain _ _ h => h ▸ haround node inChain) splice splice' hs rfl inChain

theorem visit (depth : Nat) (node : Node) (inChain : Bool) :
    R Unit (Walk.visit S V depth node inChain) (Walk.visit S V' depth node inChain) :=
  hR.likeness.visit V V' Node.alike_of_eq hw (fun head _ _ _ _ _ h => h ▸ hloop head _ _ _ _)
    (fun node _ inChain _ _ h => h ▸ haround node inChain) (fun _ => rfl) depth rfl inChain

end

end Congruence

structure ScopeCongruence (S : Setting σ κ) (R : ∀ α : Type, Walk σ ω α → Walk σ ω' α → Prop) :
    Prop extends Congruence S R where
  lookScope : ∀ {α : Type} (f : Scope → α), R α (look fun w => f w.scope) (look fun w => f w.scope)
  onScope : ∀ f : Scope → Scope, R Unit (onScope f) (onScope f)
  ensuring : ∀ {body restore : Walk σ ω Unit} {body' restore' : Walk σ ω' Unit},
    R Unit body body' → R Unit restore restore' →
    R Unit (ensuring body restore) (ensuring body' restore')

namespace ScopeCongruence

variable {S : Setting σ κ} {R : ∀ α : Type, Walk σ ω α → Walk σ ω' α → Prop}

theorem scopeLikeness (hR : ScopeCongruence S R) : ScopeLikeness S S R where
  toLikeness := hR.likeness
  lookScope := hR.lookScope
  onScope := hR.onScope
  ensuring := hR.ensuring

theorem loop (hR : ScopeCongruence S R) (head : LoopHead) (separator body : Walk σ ω Unit)
    (separator' body' : Walk σ ω' Unit) (hs : R Unit separator separator')
    (hb : R Unit body body') :
    R Unit (loop S head separator body) (loop S head separator' body') :=
  hR.scopeLikeness.loop head separator body separator' body' hs hb

end ScopeCongruence

end Walk

end RichText
