import Mathlib.Data.List.Forall2
import Mathlib.Data.Option.Basic
import RichText.Proofs.Markup.Parts

namespace RichText

variable {N N' : Node → Node → Prop} {H H' : LoopHead → LoopHead → Prop}

/-- Two contents of one form, whose parts are in the relation `N` and whose loop heads are in
`H`. -/
inductive Content.Alike (N : Node → Node → Prop) (H : LoopHead → LoopHead → Prop) :
    Content → Content → Prop where
  | container {children children' : List Node} (h : List.Forall₂ N children children') :
    Alike N H (.container children) (.container children')
  | chain {branches branches' : List Node} {fallback fallback' : Option Node}
    (hb : List.Forall₂ N branches branches') (hf : Option.Rel N fallback fallback') :
    Alike N H (.chain branches fallback) (.chain branches' fallback')
  | matching (input : Expr) {cases cases' : List (String × Node)} {fallback fallback' : Option Node}
    (hl : cases.map Prod.fst = cases'.map Prod.fst)
    (hc : List.Forall₂ N (cases.map Prod.snd) (cases'.map Prod.snd))
    (hf : Option.Rel N fallback fallback') :
    Alike N H (.matching input cases fallback) (.matching input cases' fallback')
  | loop {head head' : LoopHead} {separator separator' : Option Node} {body body' : List Node}
    (hh : H head head') (hs : Option.Rel N separator separator') (hb : List.Forall₂ N body body') :
    Alike N H (.loop head separator body) (.loop head' separator' body')
  | lineBreak : Alike N H .lineBreak .lineBreak
  | interpolation (e : Expr) : Alike N H (.interpolation e) (.interpolation e)
  | leaf (l : Leaf) : Alike N H (.leaf l) (.leaf l)

/-- Two trees of one shape, whose nodes have attributes in the relation `A` and loop heads in
`H`. -/
inductive Node.Like (A : Attributes → Attributes → Prop) (H : LoopHead → LoopHead → Prop) :
    Node → Node → Prop where
  | mk {attrs attrs' : Attributes} {content content' : Content} (ha : A attrs attrs')
    (hc : content.Alike (Like A H) H content') : Like A H (.mk attrs content) (.mk attrs' content')

namespace Content

theorem Alike.opensFrame {content content' : Content} (h : content.Alike N H content') :
    content.opensFrame = content'.opensFrame := by
  cases h <;> rfl

theorem forall₂_of_parts {nodes : List Node} {inChain : Bool}
    (h : ∀ part ∈ nodes.map (·, inChain), N part.1 part.1) : List.Forall₂ N nodes nodes :=
  List.forall₂_same.2 fun _ hn => h _ (List.mem_map_of_mem hn)

theorem rel_of_parts {node? : Option Node} {inChain : Bool}
    (h : ∀ part ∈ node?.toList.map (·, inChain), N part.1 part.1) : Option.Rel N node? node? := by
  cases node? with
  | none => exact .none
  | some node => exact .some (h (node, inChain) List.mem_cons_self)

theorem Alike.of_parts (hH : ∀ head, H head head) {content : Content}
    (h : ∀ part ∈ content.parts, N part.1 part.1) : content.Alike N H content := by
  cases content with
  | container children => exact .container (forall₂_of_parts h)
  | chain branches fallback =>
    simp only [parts, List.forall_mem_append] at h
    exact .chain (forall₂_of_parts h.1) (rel_of_parts h.2)
  | matching input cases fallback =>
    simp only [parts, List.forall_mem_append] at h
    refine .matching input rfl (List.forall₂_same.2 fun node hn => ?_) (rel_of_parts h.2)
    obtain ⟨c, hc, rfl⟩ := List.mem_map.1 hn
    exact h.1 _ (List.mem_map.2 ⟨c, hc, rfl⟩)
  | loop head separator body =>
    simp only [parts, List.forall_mem_append] at h
    exact .loop (hH head) (rel_of_parts h.1) (forall₂_of_parts h.2)
  | lineBreak => exact .lineBreak
  | interpolation e => exact .interpolation e
  | leaf l => exact .leaf l

theorem Alike.self (content : Content) : content.Alike Eq Eq content :=
  .of_parts (fun _ => rfl) fun _ _ => rfl

end Content

theorem Node.alike_of_eq (node node' : Node) (h : node = node') :
    node.attrs.ifCond = node'.attrs.ifCond ∧ node.content.Alike Eq Eq node'.content := by
  subst h
  exact ⟨rfl, .self node.content⟩

end RichText
