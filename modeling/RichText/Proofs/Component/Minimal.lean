import RichText.Proofs.Component.Leaves

namespace RichText

namespace Component

def IsText (c : Component) : Prop := ∃ s, c.body = .text s

inductive Inside (d : Component) : Component → Prop where
  | child {c : Component} (h : c ∈ d.children) : Inside d c
  | deeper {b c : Component} (hb : Inside d b) (h : c ∈ b.children) : Inside d c

end Component

/-- A text that is not empty, or a component made for other content that is still as it was made. -/
def Piece.Solid : Piece Component → Prop
  | .text s => s ≠ ""
  | .component c => c = .ofBody c.body ∧ ¬ c.IsText

theorem Piece.Solid.bare {p : Piece Component} (h : p.Solid) : p.Bare := by
  cases p with
  | text s => trivial
  | component c => exact h.1

namespace Flat

open Component

variable {slot : Slot} {segment : List (Style × Piece Component)}

end Flat

end RichText
