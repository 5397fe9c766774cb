import RichText.Proofs.Markup.Alike

namespace RichText

section

variable (f : Attributes → Attributes)

mutual

def Node.mapAttributes : Node → Node
  | .mk attrs content => .mk (f attrs) (Content.mapAttributes content)

def Content.mapAttributes : Content → Content
  | .container children => .container (Content.mapNodes children)
  | .chain branches fallback => .chain (Content.mapNodes branches) (Content.mapOption fallback)
  | .matching input cases fallback =>
    .matching input (Content.mapCases cases) (Content.mapOption fallback)
  | .loop head separator body => .loop head (Content.mapOption separator) (Content.mapNodes body)
  | .lineBreak => .lineBreak
  | .interpolation e => .interpolation e
  | .leaf l => .leaf l

def Content.mapNodes : List Node → List Node
  | [] => []
  | node :: nodes => node.mapAttributes :: Content.mapNodes nodes

def Content.mapOption : Option Node → Option Node
  | none => none
  | some node => some node.mapAttributes

def Content.mapCases : List (String × Node) → List (String × Node)
  | [] => []
  | (label, node) :: cases => (label, node.mapAttributes) :: Content.mapCases cases

end

end

variable {f : Attributes → Attributes}

namespace Content

theorem forall₂_mapNodes (nodes : List Node) :
    List.Forall₂ (fun node node' => node' = node.mapAttributes f) nodes (mapNodes f nodes) := by
  induction nodes with
  | nil => exact .nil
  | cons node rest ih => exact .cons rfl ih

theorem rel_mapOption (node? : Option Node) :
    Option.Rel (fun node node' => node' = node.mapAttributes f) node? (mapOption f node?) := by
  cases node? with
  | none => exact .none
  | some node => exact .some rfl

theorem map_fst_mapCases (cases : List (String × Node)) :
    cases.map Prod.fst = (mapCases f cases).map Prod.fst := by
  induction cases with
  | nil => rfl
  | cons c rest ih => rw [mapCases, List.map_cons, List.map_cons, ih]

theorem map_snd_mapCases (cases : List (String × Node)) :
    (mapCases f cases).map Prod.snd = mapNodes f (cases.map Prod.snd) := by
  induction cases with
  | nil => rfl
  | cons c rest ih => rw [mapCases, List.map_cons, List.map_cons, mapNodes, ih]

theorem alike_mapAttributes (content : Content) :
    content.Alike (fun node node' => node' = node.mapAttributes f) Eq
      (content.mapAttributes f) := by
  cases content with
  | container children => exact .container (forall₂_mapNodes children)
  | chain branches fallback => exact .chain (forall₂_mapNodes branches) (rel_mapOption fallback)
  | matching input cases fallback =>
    refine .matching input (map_fst_mapCases cases) ?_ (rel_mapOption fallback)
    rw [map_snd_mapCases]
    exact forall₂_mapNodes _
  | loop head separator body => exact .loop rfl (rel_mapOption separator) (forall₂_mapNodes body)
  | lineBreak => exact .lineBreak
  | interpolation e => exact .interpolation e
  | leaf l => exact .leaf l

end Content

mutual

theorem Node.mapAttributes_idem (hf : ∀ attrs, f (f attrs) = f attrs) : ∀ node : Node,
    (node.mapAttributes f).mapAttributes f = node.mapAttributes f
  | .mk attrs content => by
    simp only [Node.mapAttributes, hf, Content.mapAttributes_idem hf content]

theorem Content.mapAttributes_idem (hf : ∀ attrs, f (f attrs) = f attrs) : ∀ content : Content,
    (content.mapAttributes f).mapAttributes f = content.mapAttributes f
  | .container children => by simp only [Content.mapAttributes, Content.mapNodes_idem hf children]
  | .chain branches fallback => by
    simp only [Content.mapAttributes, Content.mapNodes_idem hf branches,
      Content.mapOption_idem hf fallback]
  | .matching input cases fallback => by
    simp only [Content.mapAttributes, Content.mapCases_idem hf cases,
      Content.mapOption_idem hf fallback]
  | .loop head separator body => by
    simp only [Content.mapAttributes, Content.mapNodes_idem hf body,
      Content.mapOption_idem hf separator]
  | .lineBreak | .interpolation _ | .leaf _ => rfl

theorem Content.mapNodes_idem (hf : ∀ attrs, f (f attrs) = f attrs) : ∀ nodes : List Node,
    Content.mapNodes f (Content.mapNodes f nodes) = Content.mapNodes f nodes
  | [] => rfl
  | node :: nodes => by
    simp only [Content.mapNodes, Node.mapAttributes_idem hf node, Content.mapNodes_idem hf nodes]

theorem Content.mapOption_idem (hf : ∀ attrs, f (f attrs) = f attrs) : ∀ node? : Option Node,
    Content.mapOption f (Content.mapOption f node?) = Content.mapOption f node?
  | none => rfl
  | some node => by simp only [Content.mapOption, Node.mapAttributes_idem hf node]

theorem Content.mapCases_idem (hf : ∀ attrs, f (f attrs) = f attrs) :
    ∀ cases : List (String × Node),
      Content.mapCases f (Content.mapCases f cases) = Content.mapCases f cases
  | [] => rfl
  | (label, node) :: cases => by
    simp only [Content.mapCases, Node.mapAttributes_idem hf node, Content.mapCases_idem hf cases]

end

def Attributes.bare (attrs : Attributes) : Attributes := { attrs with interceptor := none }

def Node.bare (node : Node) : Node := node.mapAttributes Attributes.bare

theorem Node.bare_bare (node : Node) : node.bare.bare = node.bare :=
  mapAttributes_idem (f := Attributes.bare) (fun _ => rfl) node

end RichText
