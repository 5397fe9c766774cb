import RichText.Proofs.Expr.Hiding
import RichText.Proofs.Markup.Parts

namespace RichText

def Attributes.exprs (attrs : Attributes) : List Expr :=
  attrs.useWhen.toList ++ (attrs.ifCond.toList ++ (attrs.lets.map Prod.snd ++
    attrs.style.toList.flatMap StyleDelta.exprs))

def LoopHead.exprs (head : LoopHead) : List Expr :=
  head.iterable :: (head.reversed.toList ++ head.lets.map Prod.snd)

def Leaf.exprs : Leaf → List Expr
  | .translate _ _ args => args
  | _ => []

/-- The expressions that a content holds beside its parts. One that is interpolated is not among
them. -/
def Content.exprs : Content → List Expr
  | .matching input _ _ => [input]
  | .loop head _ _ => head.exprs
  | .leaf l => l.exprs
  | _ => []

/-- A tree that mentions hidden names only to interpolate what they stand for. -/
inductive Node.Discreet (hidden : String → Prop) : Node → Prop where
  | mk {attrs : Attributes} {content : Content}
    (ha : ∀ e ∈ attrs.exprs, e.Avoids hidden) (hc : ∀ e ∈ content.exprs, e.Avoids hidden)
    (hi : ∀ e, content = .interpolation e → e.Avoids hidden ∨ ∃ name, e = .ident name)
    (hp : ∀ part ∈ content.parts, Discreet hidden part.1) : Discreet hidden (.mk attrs content)

namespace Node

namespace Discreet

variable {hidden : String → Prop} {node : Node}

theorem attrs (h : node.Discreet hidden) : ∀ e ∈ node.attrs.exprs, e.Avoids hidden := by
  obtain ⟨ha, -, -, -⟩ := h
  exact ha

theorem ifCond (h : node.Discreet hidden) : ∀ e ∈ node.attrs.ifCond.toList, e.Avoids hidden :=
  fun e he => h.attrs e (List.mem_append_right _ (List.mem_append_left _ he))

theorem parts (h : node.Discreet hidden) :
    ∀ part ∈ node.content.parts, part.1.Discreet hidden := by
  obtain ⟨-, -, -, hp⟩ := h
  exact hp

end Discreet

theorem discreet_of_none {hidden : String → Prop} (h : ∀ name, ¬ hidden name) (node : Node) :
    node.Discreet hidden := by
  have havoids : ∀ e : Expr, e.Avoids hidden := fun _ name _ => h name
  induction node using Node.induct with
  | h attrs content ih =>
    exact .mk (fun e _ => havoids e) (fun e _ => havoids e) (fun e _ => .inl (havoids e)) ih

end Node

end RichText
