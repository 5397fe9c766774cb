import RichText.Style.Basic

namespace RichText

structure Slot where
  name : String
  base : Style := {}
  /-- The text of a break. Without one a break starts a new entry. -/
  lineBreak : Option String := none
  deriving DecidableEq

namespace Slot

def chat : Slot := { name := "chat", lineBreak := some "\n" }

def lore : Slot := { name := "lore", base := { decorations := Decorations.put {} .italic false } }

end Slot

variable {κ : Type}

inductive Piece (κ : Type) where
  | text (s : String)
  | component (c : κ)

inductive Write (κ : Type) where
  | text (s : String)
  | component (c : κ)
  | lineBreak

/-- Neighbouring pieces of one style, the last first. -/
structure Run (κ : Type) where
  style : Style
  pieces : List (Piece κ)

def Run.push (r : Run κ) (p : Piece κ) : Run κ :=
  match r.pieces, p with
  | .text s :: rest, .text t => { r with pieces := .text (s ++ t) :: rest }
  | ps, p => { r with pieces := p :: ps }

/-- The runs written so far between the ends of one node, the last first. -/
abbrev Frame (κ : Type) := List (Run κ)

namespace Frame

/-- A run of the same style as the last one goes on with it. -/
def append (f : Frame κ) (r : Run κ) : Frame κ :=
  match f with
  | last :: rest =>
    if last.style = r.style then r.pieces.foldr (fun p run => run.push p) last :: rest
    else r :: f
  | [] => [r]

def push (f : Frame κ) (style : Style) (p : Piece κ) : Frame κ := f.append ⟨style, [p]⟩

def splice (f g : Frame κ) : Frame κ := g.foldr (fun r f => f.append r) f

end Frame

end RichText
