import RichText.Proofs.Markup.Bare

namespace RichText

inductive Named {α : Type} (R : α → α → Prop) : String × α → String × α → Prop where
  | mk (name : String) {a a' : α} (h : R a a') : Named R (name, a) (name, a')

variable {N N' : Bool → Node → Node → Prop}

/-- Two contents of one form, whose parts are in the relation `N`. It may hang on whether a chain
asks for the predicate of a part. -/
inductive Content.Parallel (N : Bool → Node → Node → Prop) : Content → Content → Prop where
  | container {children children' : List Node} (h : List.Forall₂ (N false) children children') :
    Parallel N (.container children) (.container children')
  | chain {branches branches' : List Node} {fallback fallback' : Option Node}
    (hb : List.Forall₂ (N true) branches branches') (hf : Option.Rel (N true) fallback fallback') :
    Parallel N (.chain branches fallback) (.chain branches' fallback')
  | matching (input : Expr) {cases cases' : List (String × Node)} {fallback fallback' : Option Node}
    (hc : List.Forall₂ (Named (N false)) cases cases')
    (hf : Option.Rel (N false) fallback fallback') :
    Parallel N (.matching input cases fallback) (.matching input cases' fallback')
  | loop (head : LoopHead) {separator separator' : Option Node} {body body' : List Node}
    (hs : Option.Rel (N false) separator separator') (hb : List.Forall₂ (N false) body body') :
    Parallel N (.loop head separator body) (.loop head separator' body')
  | lineBreak : Parallel N .lineBreak .lineBreak
  | interpolation (e : Expr) : Parallel N (.interpolation e) (.interpolation e)
  | leaf (l : Leaf) : Parallel N (.leaf l) (.leaf l)

/-- Two trees that are one above the nodes where they are in the relation `P`. Nothing that is above
them carries an interceptor. -/
inductive Node.Recast (P : Bool → Node → Node → Prop) : Bool → Node → Node → Prop where
  | here {inChain : Bool} {node node' : Node} (h : P inChain node node') :
    Recast P inChain node node'
  | within {inChain : Bool} {attrs : Attributes} {content content' : Content}
    (hn : attrs.interceptor = none) (hc : content.Parallel (Recast P) content') :
    Recast P inChain (.mk attrs content) (.mk attrs content')

inductive Node.Simplifies : Bool → Node → Node → Prop where
  /-- Further branches need no conditional of their own in the fallback. -/
  | fallback {inChain : Bool} {attrs : Attributes} {branch : Node} {branches : List Node}
    {fallback : Option Node} (hn : attrs.interceptor = none) :
    Simplifies inChain (.mk attrs (.chain [branch] (some (.mk {} (.chain branches fallback)))))
      (.mk attrs (.chain (branch :: branches) fallback))
  /-- A single branch needs no conditional where its predicate is a gate anyway. -/
  | gate {attrs : Attributes} {content : Content} (hn : attrs.interceptor = none) :
    Simplifies false (.mk {} (.chain [.mk attrs content] none)) (.mk attrs content)

abbrev Node.Simplified (inChain : Bool) (node node' : Node) : Prop :=
  Recast (fun inChain node node' => node = node' ∨ Simplifies inChain node node') inChain node node'

theorem Node.Simplified.ifCond {node node' : Node} (h : Simplified true node node') :
    node.attrs.ifCond = node'.attrs.ifCond := by
  obtain ⟨rfl | h⟩ | _ := h
  · rfl
  · cases h
    rfl
  · rfl

theorem forall₂_imp_of_mem {α β : Type} {R R' : α → β → Prop} {l : List α} {l' : List β}
    (h : ∀ a ∈ l, ∀ b, R a b → R' a b) (hl : List.Forall₂ R l l') : List.Forall₂ R' l l' :=
  ((List.forall₂_and_left l l').2 ⟨h, hl⟩).imp fun _ _ hab => hab.1 _ hab.2

namespace Content

theorem rel_imp_of_mem {node? node?' : Option Node} {inChain : Bool}
    (h : ∀ part ∈ node?.toList.map (·, inChain), ∀ node', N part.2 part.1 node' →
      N' part.2 part.1 node')
    (hn : Option.Rel (N inChain) node? node?') : Option.Rel (N' inChain) node? node?' := by
  cases hn with
  | none => exact .none
  | some hnode => exact .some (h (_, inChain) List.mem_cons_self _ hnode)

theorem forall₂_imp_of_parts {nodes nodes' : List Node} {inChain : Bool}
    (h : ∀ part ∈ nodes.map (·, inChain), ∀ node', N part.2 part.1 node' →
      N' part.2 part.1 node')
    (hn : List.Forall₂ (N inChain) nodes nodes') : List.Forall₂ (N' inChain) nodes nodes' :=
  forall₂_imp_of_mem (fun _ hnode => h _ (List.mem_map_of_mem hnode)) hn

theorem Parallel.imp {content content' : Content}
    (h : ∀ part ∈ content.parts, ∀ node', N part.2 part.1 node' → N' part.2 part.1 node')
    (hc : content.Parallel N content') : content.Parallel N' content' := by
  cases hc with
  | container hn => exact .container (forall₂_imp_of_parts h hn)
  | chain hb hf =>
    simp only [parts, List.forall_mem_append] at h
    exact .chain (forall₂_imp_of_parts h.1 hb) (rel_imp_of_mem h.2 hf)
  | matching input hc hf =>
    simp only [parts, List.forall_mem_append] at h
    refine .matching input (forall₂_imp_of_mem (fun c hmem c' hcase => ?_) hc)
      (rel_imp_of_mem h.2 hf)
    obtain ⟨label, hnode⟩ := hcase
    exact .mk label (h.1 _ (List.mem_map_of_mem hmem) _ hnode)
  | loop head hs hb =>
    simp only [parts, List.forall_mem_append] at h
    exact .loop head (rel_imp_of_mem h.1 hs) (forall₂_imp_of_parts h.2 hb)
  | lineBreak => exact .lineBreak
  | interpolation e => exact .interpolation e
  | leaf l => exact .leaf l

theorem Parallel.self (content : Content) : content.Parallel (fun _ => Eq) content := by
  have hoption : ∀ node? : Option Node, Option.Rel Eq node? node? :=
    fun node? => rel_of_parts fun part (_ : part ∈ node?.toList.map (·, true)) => rfl
  cases content with
  | container children => exact .container (List.forall₂_refl children)
  | chain branches fallback => exact .chain (List.forall₂_refl branches) (hoption fallback)
  | matching input cases fallback =>
    exact .matching input (List.forall₂_same.2 fun c _ => .mk c.1 rfl) (hoption fallback)
  | loop head separator body => exact .loop head (hoption separator) (List.forall₂_refl body)
  | lineBreak => exact .lineBreak
  | interpolation e => exact .interpolation e
  | leaf l => exact .leaf l

theorem forall_parts_of_alike {N : Node → Node → Prop} {H : LoopHead → LoopHead → Prop}
    {content : Content} (h : content.Alike N H content) :
    ∀ part ∈ content.parts, N part.1 part.1 := by
  have hnodes : ∀ {nodes : List Node} {inChain : Bool}, List.Forall₂ N nodes nodes →
      ∀ part ∈ nodes.map (·, inChain), N part.1 part.1 := by
    intro nodes inChain hn part hp
    obtain ⟨node, hnode, rfl⟩ := List.mem_map.1 hp
    exact List.forall₂_same.1 hn node hnode
  have hoption : ∀ {node? : Option Node} {inChain : Bool}, Option.Rel N node? node? →
      ∀ part ∈ node?.toList.map (·, inChain), N part.1 part.1 := by
    intro node? inChain hn
    cases hn with
    | none => exact fun _ hp => absurd hp List.not_mem_nil
    | some hnode => exact List.forall_mem_singleton.2 hnode
  cases h with
  | container hn => exact hnodes hn
  | chain hb hf => exact List.forall_mem_append.2 ⟨hnodes hb, hoption hf⟩
  | matching input _ hc hf =>
    refine List.forall_mem_append.2 ⟨fun part hp => ?_, hoption hf⟩
    obtain ⟨c, hmem, rfl⟩ := List.mem_map.1 hp
    exact List.forall₂_same.1 hc c.2 (List.mem_map_of_mem hmem)
  | loop _ hs hb => exact List.forall_mem_append.2 ⟨hoption hs, hnodes hb⟩
  | lineBreak | interpolation | leaf => exact fun _ hp => absurd hp List.not_mem_nil

end Content

theorem Node.bare_parts {attrs : Attributes} {content : Content}
    (h : (mk attrs content).bare = mk attrs content) :
    attrs.interceptor = none ∧ ∀ part ∈ content.parts, part.1.bare = part.1 := by
  obtain ⟨hattrs, hcontent⟩ := Node.mk.inj h
  refine ⟨congrArg Attributes.interceptor hattrs.symm, fun part hp => ?_⟩
  have halike := content.alike_mapAttributes (f := Attributes.bare)
  rw [hcontent] at halike
  exact (Content.forall_parts_of_alike halike part hp).symm

end RichText
