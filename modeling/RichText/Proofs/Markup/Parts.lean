import RichText.Markup.Node

namespace RichText

/-- The nodes that a walk of the content can come to without markup being spliced in, and whether a
chain has asked for their predicates. -/
def Content.parts : Content → List (Node × Bool)
  | .container children => children.map (·, false)
  | .chain branches fallback => branches.map (·, true) ++ fallback.toList.map (·, true)
  | .matching _ cases fallback => cases.map (·.2, false) ++ fallback.toList.map (·, false)
  | .loop _ separator body => separator.toList.map (·, false) ++ body.map (·, false)
  | .lineBreak | .interpolation _ | .leaf _ => []

theorem sizeOf_of_mem_nodes {nodes : List Node} {inChain : Bool} {part : Node × Bool}
    (h : part ∈ nodes.map (·, inChain)) : sizeOf part.1 < sizeOf nodes := by
  obtain ⟨node, hn, rfl⟩ := List.mem_map.1 h
  exact List.sizeOf_lt_of_mem hn

theorem sizeOf_of_mem_cases {cases : List (String × Node)} {inChain : Bool} {part : Node × Bool}
    (h : part ∈ cases.map (·.2, inChain)) : sizeOf part.1 < sizeOf cases := by
  obtain ⟨⟨label, node⟩, hn, rfl⟩ := List.mem_map.1 h
  have := List.sizeOf_lt_of_mem hn
  simp only [Prod.mk.sizeOf_spec] at this ⊢
  omega

theorem sizeOf_of_mem_option {node? : Option Node} {inChain : Bool} {part : Node × Bool}
    (h : part ∈ node?.toList.map (·, inChain)) : sizeOf part.1 < sizeOf node? := by
  obtain ⟨node, hn, rfl⟩ := List.mem_map.1 h
  obtain rfl := Option.mem_toList.1 hn
  simp only [Option.some.sizeOf_spec]
  omega

theorem Content.sizeOf_part {content : Content} {part : Node × Bool} (h : part ∈ content.parts) :
    sizeOf part.1 < sizeOf content := by
  cases content with
  | container children =>
    have := sizeOf_of_mem_nodes h
    simp only [Content.container.sizeOf_spec]
    omega
  | chain branches fallback =>
    have := (List.mem_append.1 h).imp sizeOf_of_mem_nodes sizeOf_of_mem_option
    simp only [Content.chain.sizeOf_spec]
    omega
  | matching input cases fallback =>
    have := (List.mem_append.1 h).imp sizeOf_of_mem_cases sizeOf_of_mem_option
    simp only [Content.matching.sizeOf_spec]
    omega
  | loop head separator body =>
    have := (List.mem_append.1 h).imp sizeOf_of_mem_option sizeOf_of_mem_nodes
    simp only [Content.loop.sizeOf_spec]
    omega
  | lineBreak | interpolation | leaf => cases h

theorem Node.induct {P : Node → Prop}
    (h : ∀ attrs content, (∀ part ∈ content.parts, P part.1) → P (.mk attrs content)) :
    ∀ node, P node
  | .mk attrs content => h attrs content fun part hp =>
    have := Content.sizeOf_part hp
    Node.induct h part.1

end RichText
