import RichText.Style.Color
import RichText.Style.Decoration

namespace RichText

inductive ClickAction where
  | openUrl | runCommand | suggestCommand | copyToClipboard | changePage
  deriving DecidableEq

structure ClickEvent where
  action : ClickAction
  value : String
  deriving DecidableEq

/-- A style whose expressions have been evaluated. A field without a value is inherited. -/
structure Style where
  color : Option Color := none
  /-- Its alpha channel carries the opacity. -/
  shadow : Option Color := none
  font : Option String := none
  decorations : Decorations := {}
  click : Option ClickEvent := none
  hover : Option String := none
  insertion : Option String := none
  deriving DecidableEq

def overlay {α : Type} (base top : Option α) : Option α := top.or base

def changed {α : Type} [DecidableEq α] (mine base : Option α) : Option α :=
  if mine = base then none else mine

namespace Style

def empty : Style := {}

def isEmpty (s : Style) : Bool := s = empty

def merge (base top : Style) : Style where
  color := overlay base.color top.color
  shadow := overlay base.shadow top.shadow
  font := overlay base.font top.font
  decorations := base.decorations.overlay top.decorations
  click := overlay base.click top.click
  hover := overlay base.hover top.hover
  insertion := overlay base.insertion top.insertion

def diff (s base : Style) : Style where
  color := changed s.color base.color
  shadow := changed s.shadow base.shadow
  font := changed s.font base.font
  decorations := s.decorations.diff base.decorations
  click := changed s.click base.click
  hover := changed s.hover base.hover
  insertion := changed s.insertion base.insertion

end Style

end RichText
