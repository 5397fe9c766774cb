import RichText.Component.Basic
import RichText.Style.Lab

namespace RichText

inductive ColorMode where
  | trueColor
  | legacy
  deriving DecidableEq

namespace Terminal

def sgr (parameters : String) : String := "\x1b[" ++ parameters ++ "m"

/-- The terminal's numbers of the palette colours. -/
def paletteNumbers : List Nat := [0, 4, 2, 6, 1, 5, 3, 7, 8, 12, 10, 14, 9, 13, 11, 15]

def paletteNumber (i : Nat) : Nat := paletteNumbers.getD i 15

def colorParameters (mode : ColorMode) (c : Color) : String :=
  match mode with
  | .trueColor =>
    "38;2;" ++ toString c.red.toNat ++ ";" ++ toString c.green.toNat ++ ";" ++
      toString c.blue.toNat
  | .legacy => "38;5;" ++ toString (paletteNumber c.nearestIndex)

inductive Attribute where
  | bold | italic | underlined | slowBlink | crossedOut
  deriving DecidableEq

namespace Attribute

def all : List Attribute := [bold, italic, underlined, slowBlink, crossedOut]

def parameter : Attribute → String
  | bold => "1"
  | italic => "3"
  | underlined => "4"
  | slowBlink => "5"
  | crossedOut => "9"

def flag : Attribute → Decoration
  | bold => .bold
  | italic => .italic
  | underlined => .underlined
  | slowBlink => .obfuscated
  | crossedOut => .strikethrough

end Attribute

def enabled (s : Style) : List Attribute :=
  Attribute.all.filter fun a => s.decorations.enabled.contains a.flag

/-- What goes back to the terminal's defaults. -/
def closing (s : Style) : String :=
  if !(enabled s).isEmpty then sgr "0" else if s.color.isSome then sgr "39" else ""

/-- A text in a style. It starts from the terminal's defaults and leaves them behind. -/
def styled (mode : ColorMode) (s : Style) (text : String) : String :=
  if text = "" then ""
  else
    s.color.elim "" (fun c => sgr (colorParameters mode c)) ++
      String.join ((enabled s).map fun a => sgr a.parameter) ++ text ++ closing s

def render (mode : ColorMode) (c : Component) : String :=
  String.join ((c.fragments .empty).map fun f => styled mode f.1 f.2)

def renderLines (mode : ColorMode) (cs : List Component) : String :=
  String.intercalate "\n" (cs.map (render mode))

end Terminal

end RichText
