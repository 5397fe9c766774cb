import RichText.Expr.Basic
import RichText.Style.Basic

namespace RichText

structure StyleDelta where
  color : Option Expr := none
  shadow : Option Expr := none
  /-- From 0 to 1, and 1 if absent. Nothing comes of it without a shadow. -/
  opacity : Option Expr := none
  font : Option Expr := none
  decorations : List (Decoration × Expr) := []
  click : Option (ClickAction × Expr) := none
  hover : Option Expr := none
  insertion : Option Expr := none
  /-- The inherited style is dropped and the delta starts from the root's. -/
  reset : Bool := false

inductive DataSource where
  | block (position : String)
  | entity (selector : String)
  | storage (name : String)
  deriving DecidableEq

inductive Leaf where
  | text (s : String)
  | keybind (key : String)
  | translate (key : String) (fallback : Option String) (args : List Expr)
  | score (name objective : String)
  | selector (pattern : String) (separator : Option String)
  | data (path : String) (source : DataSource) (interpret : Bool) (separator : Option String)

structure Attributes where
  /-- Falsy skips the node before its interceptors see it. -/
  useWhen : Option Expr := none
  /-- The predicate of a branch in a conditional chain, and a gate anywhere else. -/
  ifCond : Option Expr := none
  lets : List (String × Expr) := []
  style : Option StyleDelta := none
  interceptor : Option String := none

structure LoopHead where
  iterable : Expr
  /-- Without a name the items are not bound. -/
  var : Option String := none
  /-- Truthy takes the items from the last to the first. -/
  reversed : Option Expr := none
  lets : List (String × Expr) := []

mutual

inductive Node where
  | mk (attrs : Attributes) (content : Content)

inductive Content where
  | container (children : List Node)
  | chain (branches : List Node) (fallback : Option Node)
  | matching (input : Expr) (cases : List (String × Node)) (fallback : Option Node)
  | loop (head : LoopHead) (separator : Option Node) (body : List Node)
  | lineBreak
  | interpolation (e : Expr)
  | leaf (l : Leaf)

end

namespace Node

def attrs : Node → Attributes
  | mk attrs _ => attrs

def content : Node → Content
  | mk _ content => content

end Node

/-- Leaves and breaks write into the frame of the node around them. -/
def Content.opensFrame : Content → Bool
  | .lineBreak | .leaf _ => false
  | _ => true

end RichText
