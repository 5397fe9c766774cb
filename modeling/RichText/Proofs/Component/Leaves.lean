import RichText.Proofs.Layout.Steps
import RichText.Proofs.Style.Merge

namespace RichText

namespace Component

def leaf (s : Style) : Body → List (Style × Body)
  | .text t => if t = "" then [] else [(s, .text t)]
  | b => [(s, b)]

mutual

/-- What a component shows, in order, each body with the style that it comes to have under a
parent's. -/
def leaves (parent : Style) : Component → List (Style × Body)
  | mk body style children =>
    leaf (parent.merge style) body ++ leavesAll (parent.merge style) children

def leavesAll (parent : Style) : List Component → List (Style × Body)
  | [] => []
  | c :: cs => leaves parent c ++ leavesAll parent cs

end

end Component

def Piece.body : Piece Component → Body
  | .text s => .text s
  | .component c => c.body

def Piece.Bare : Piece Component → Prop
  | .text _ => True
  | .component c => c = .ofBody c.body

theorem Piece.Bare.made {p : Piece Component} (hp : p.Bare) :
    Flat.made Component.factory p = .ofBody p.body := by
  cases p with
  | text s => rfl
  | component c => exact hp

namespace Flat

open Component

/-- What is to be seen of a segment over a base: the pieces of its runs, each in what stands for
something of the style of its run. -/
def seen (base : Style) (segment : List (Style × Piece Component)) : List (Style × Body) :=
  (runs segment).flatMap fun r => r.2.flatMap fun p => leaf (base.merge r.1.known) p.body

/-- What is to be seen of a segment: the pieces of its runs, each in the style of its run. -/
def display (segment : List (Style × Piece Component)) : List (Style × Body) :=
  (runs segment).flatMap fun r => r.2.flatMap fun p => leaf r.1 p.body

variable {slot : Slot}

theorem entry_eq (segment : List (Style × Piece Component)) :
    entry Component.factory slot segment = (Component.applyStyle slot.base (text "")).append
      ((runs segment).map (component Component.factory slot)) := by
  unfold entry
  cases (runs segment).map (component Component.factory slot) <;> rfl

end Flat

end RichText
