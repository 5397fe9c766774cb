import Mathlib
import RichText.Proofs.Component.Leaves
import RichText.Proofs.Walk.Pairing

namespace RichText

def StyleDelta.Declared (d : StyleDelta) : Prop :=
  ∀ f ∈ d.decorations, Decoration.all.contains f.1 = true

instance (d : StyleDelta) : Decidable d.Declared :=
  inferInstanceAs (Decidable (∀ f ∈ d.decorations, Decoration.all.contains f.1 = true))

namespace StyleDelta

variable {σ : Type} (ctx : Context σ) (host : σ)

theorem declared_evalDecorations {flags : List (Decoration × Expr)}
    (h : ∀ f ∈ flags, Decoration.all.contains f.1 = true) {acc : Decorations}
    (hacc : acc.Declared) :
    ((evalDecorations ctx flags acc).run host).1.Declared := by
  induction flags generalizing acc host with
  | nil => exact hacc
  | cons f rest ih =>
    rw [List.forall_mem_cons] at h
    exact ih _ h.2 (hacc.put h.1 _)

theorem Declared.evaluate {d : StyleDelta} (h : d.Declared) :
    ((d.evaluate ctx).run host).1.Declared :=
  declared_evalDecorations ctx _ h Decorations.declared_empty

end StyleDelta

def Layer.AllDeclared (path : List Layer) : Prop := ∀ l ∈ path, l.own.Declared

namespace Flat

end Flat

def Setting.building {σ : Type} (S : Setting σ Component) : Setting σ Component :=
  { S with factory := Component.factory }

namespace Walk

variable {σ κ : Type}

def Tidy (S : Setting σ κ) (es : List (Event σ κ)) : Prop :=
  ∀ path x, .wrote path x ∈ es → Emitted S x

theorem Tidy.append {S : Setting σ κ} {es es' : List (Event σ κ)} (h : Tidy S es)
    (h' : Tidy S es') : Tidy S (es ++ es') :=
  fun path x hmem => (List.mem_append.1 hmem).elim (h path x) (h' path x)

def Event.begun? : Event σ κ → Option Node
  | .useGate node true => some node
  | _ => none

/-- No node that is visited has a flag with a bit that stands for no decoration. -/
def Declared (es : List (Event σ κ)) : Prop :=
  ∀ node ∈ es.filterMap Event.begun?, ∀ d ∈ node.attrs.style, d.Declared

instance (es : List (Event σ κ)) : Decidable (Declared es) :=
  inferInstanceAs (Decidable (∀ node ∈ es.filterMap Event.begun?, _))

theorem Declared.mono {es es' : List (Event σ κ)} (h : Declared es) (hsub : es' ⊆ es) :
    Declared es' := fun node hmem => h node (List.filterMap_subset _ hsub hmem)

def WrittenDeclared (es : List (Event σ κ)) : Prop :=
  ∀ path x, .wrote path x ∈ es → Layer.AllDeclared path

namespace WrittenDeclared

variable {es es' : List (Event σ κ)}

theorem nil : WrittenDeclared ([] : List (Event σ κ)) := fun _ _ h => nomatch h

theorem append (h : WrittenDeclared es) (h' : WrittenDeclared es') : WrittenDeclared (es ++ es') :=
  fun path x hmem => (List.mem_append.1 hmem).elim (h path x) (h' path x)

theorem cons {e : Event σ κ} (he : ∀ path x, e ≠ .wrote path x) (h : WrittenDeclared es) :
    WrittenDeclared (e :: es) :=
  fun path x hmem => (List.mem_cons.1 hmem).elim (fun heq => absurd heq.symm (he path x)) (h path x)

end WrittenDeclared

theorem Own.writtenDeclared {active : List (Interceptor σ)} {node : Node} {es : List (Event σ κ)}
    (h : Own active node es) : WrittenDeclared es :=
  fun path x hmem => absurd rfl (h.ne_wrote _ hmem path x)

variable {S : Setting σ κ}

theorem Layered.allDeclared {path path' : List Layer} {w : WalkState σ (Journal σ κ)}
    {delta : Option StyleDelta} (h : Layered S path w delta path')
    (hd : ∀ d ∈ delta, d.Declared) (hpath : Layer.AllDeclared path) : Layer.AllDeclared path' := by
  cases h with
  | unstyled => exact hpath
  | styled d => exact List.forall_mem_cons.2 ⟨(hd d rfl).evaluate _ _, hpath⟩

-- The layers grow on the way down, so it is for all of them that the induction goes through.
mutual

theorem Visit.writtenDeclared {depth : Nat} {visits : List Node} {path : List Layer}
    {v : WalkState σ (Journal σ κ)} {node : Node} {inChain : Bool} {es : List (Event σ κ)}
    (hpath : Layer.AllDeclared path) :
    Visit S depth visits path v node inChain es → Declared es → WrittenDeclared es
  | .shut _, _ => .cons nofun .nil
  | .vetoed ho, _ => .cons nofun (ho.offering.own.writtenDeclared.append (.cons nofun .nil))
  | .accepted ho he, h => by
    have hnested := he.writtenDeclared hpath (h _ List.mem_cons_self)
      (h.mono fun e hmem => by simp [hmem])
    have hafters := own_afters (κ := κ) ho.offering.pending_subset node (context S v.scope)
    exact .cons nofun (((ho.offering.own.writtenDeclared.append hnested).append
      hafters.writtenDeclared).append (.cons nofun .nil))

theorem Entry.writtenDeclared {depth : Nat} {visits : List Node} {path : List Layer}
    {v : WalkState σ (Journal σ κ)} {node : Node} {inChain : Bool} {es : List (Event σ κ)}
    (hpath : Layer.AllDeclared path) :
    Entry S depth visits path v node inChain es → (∀ d ∈ node.attrs.style, d.Declared) →
      Declared es → WrittenDeclared es
  | .gated _, _, _ => .cons nofun .nil
  | .failed _ _, _, _ => .cons nofun .nil
  | .passed _ _ hp _ hc _, hd, h =>
    .cons nofun (hc.writtenDeclared (hp.allDeclared hd hpath) (h.mono (List.subset_cons_self _ _)))

theorem Contents.writtenDeclared {depth : Nat} {visits : List Node} {path : List Layer}
    {w : WalkState σ (Journal σ κ)} {content : Content} {es : List (Event σ κ)}
    (hpath : Layer.AllDeclared path) :
    Contents S depth visits path w content es → Declared es → WrittenDeclared es
  | .nil, _ => .nil
  | .wrote hc _, h => by
    refine (hc.writtenDeclared hpath (h.mono (List.subset_append_left _ _))).append ?_
    intro path' x' hmem
    cases List.mem_singleton.1 hmem
    exact hpath
  | .part hc _ _ hv, h =>
    (hc.writtenDeclared hpath (h.mono (List.subset_append_left _ _))).append
      (hv.writtenDeclared hpath (h.mono (List.subset_append_right _ _)))
  | .spliced _ hv, h => hv.writtenDeclared hpath h

end

end Walk

end RichText
