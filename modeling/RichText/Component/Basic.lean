import RichText.Markup.Node

namespace RichText

mutual

/-- A piece of finished output. Its style applies to its children too, where they have none of
their own. -/
inductive Component where
  | mk (body : Body) (style : Style) (children : List Component)

inductive Body where
  | text (s : String)
  | keybind (key : String)
  | translate (key : String) (fallback : Option String) (args : List Component)
  | score (name objective : String)
  | selector (pattern : String) (separator : Option String)
  | data (path : String) (source : DataSource) (interpret : Bool) (separator : Option String)

end

namespace Component

def body : Component → Body
  | mk body _ _ => body

def style : Component → Style
  | mk _ style _ => style

def children : Component → List Component
  | mk _ _ children => children

def ofBody (body : Body) : Component := mk body .empty []

def text (s : String) : Component := ofBody (.text s)

def applyStyle (s : Style) : Component → Component
  | mk body style children => mk body (style.merge s) children

def append (more : List Component) : Component → Component
  | mk body style children => mk body style (children ++ more)

def keybindText (key : String) : String := "[" ++ key ++ "]"

def scoreText (name objective : String) : String := name ++ ":" ++ objective

mutual

/-- The text of a component and of its children, without styles. Content that has no text of its
own is shown by a stand-in. -/
def plainText : Component → String
  | mk body _ children => bodyText body ++ plainTexts children

def bodyText : Body → String
  | .text s => s
  | .keybind key => keybindText key
  | .translate key fallback args => fallback.getD key ++ argTexts args
  | .score name objective => scoreText name objective
  | .selector pattern _ => pattern
  | .data path _ _ _ => path

def plainTexts : List Component → String
  | [] => ""
  | c :: cs => plainText c ++ plainTexts cs

/-- The arguments of a translatable text, each behind a space. -/
def argTexts : List Component → String
  | [] => ""
  | c :: cs => " " ++ (plainText c ++ argTexts cs)

end

mutual

/-- The texts of a component in order, each with the style in which it is shown. -/
def fragments (parent : Style) : Component → List (Style × String)
  | mk body style children =>
    bodyFragments (parent.merge style) body ++ childFragments (parent.merge style) children

def bodyFragments (s : Style) : Body → List (Style × String)
  | .text t => [(s, t)]
  | .keybind key => [(s, keybindText key)]
  | .translate key fallback args => (s, fallback.getD key) :: argFragments s args
  | .score name objective => [(s, scoreText name objective)]
  | .selector pattern _ => [(s, pattern)]
  | .data path _ _ _ => [(s, path)]

def childFragments (s : Style) : List Component → List (Style × String)
  | [] => []
  | c :: cs => fragments s c ++ childFragments s cs

def argFragments (s : Style) : List Component → List (Style × String)
  | [] => []
  | c :: cs => (s, " ") :: (fragments s c ++ argFragments s cs)

end

end Component

structure ComponentFactory (κ : Type) where
  text : String → κ
  keybind : String → κ
  translate : String → Option String → List κ → κ
  score : String → String → κ
  selector : String → Option String → κ
  data : String → DataSource → Bool → Option String → κ
  /-- Puts every field that the style has over the component's own. -/
  applyStyle : Style → κ → κ
  append : List κ → κ → κ

def Component.factory : ComponentFactory Component where
  text := .text
  keybind key := .ofBody (.keybind key)
  translate key fallback args := .ofBody (.translate key fallback args)
  score name objective := .ofBody (.score name objective)
  selector pattern separator := .ofBody (.selector pattern separator)
  data path source interpret separator := .ofBody (.data path source interpret separator)
  applyStyle := .applyStyle
  append := .append

end RichText
