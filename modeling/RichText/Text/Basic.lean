import RichText.Binary64
import RichText.Characters
import RichText.Unicode.Property

namespace RichText

inductive Warning where
  | malformedPattern
  | malformedLocale
  | malformedRounding
  deriving DecidableEq

structure Outcome (α : Type) where
  value : α
  warnings : List Warning := []

def Outcome.isClean {α : Type} (o : Outcome α) : Bool := o.warnings.isEmpty

inductive Rounding where
  | up | down | ceiling | floor | halfUp | halfDown | halfEven
  deriving DecidableEq

namespace Rounding

def all : List Rounding := [up, down, ceiling, floor, halfUp, halfDown, halfEven]

def name : Rounding → String
  | up => "UP"
  | down => "DOWN"
  | ceiling => "CEILING"
  | floor => "FLOOR"
  | halfUp => "HALF_UP"
  | halfDown => "HALF_DOWN"
  | halfEven => "HALF_EVEN"

def canonicalChar (c : Char) : Char := if c = '-' then '_' else c.toUpper

def ofName? (s : String) : Option Rounding :=
  let canonical := String.ofList ((trimBlanks s.toList).map canonicalChar)
  all.find? (·.name = canonical)

/-- Rounds to a whole number. Up and down are away from zero and toward it. -/
def apply (r : Rounding) (x : Float) : Float :=
  match r with
  | up => Binary64.expand x
  | down => Binary64.truncate x
  | ceiling => Binary64.ceil x
  | floor => Binary64.floor x
  | halfUp => Binary64.round x
  | halfDown => if Binary64.isTie x then Binary64.truncate x else Binary64.round x
  | halfEven => if Binary64.isTie x then Binary64.evenNeighbour x else Binary64.round x

end Rounding

/-! ### Quoted texts -/

def isPrintable (c : Char) : Bool :=
  c == ' ' || !(["Cc", "Cf", "Cs", "Co", "Cn", "Zl", "Zp", "Zs"].contains (Unicode.category c))

def numericEscape (c : Char) : List Char :=
  ['\\', 'u', '\x7b'] ++ (Nat.toDigits 16 c.toNat) ++ ['\x7d']

def escapeChar (c : Char) : List Char :=
  if c = '\x00' then ['\\', '0']
  else if c = '\t' then ['\\', 't']
  else if c = '\r' then ['\\', 'r']
  else if c = '\n' then ['\\', 'n']
  else if c = '\\' ∨ c = '"' then ['\\', c]
  else if (Unicode.property "Grapheme_Extend").contains c then numericEscape c
  else if isPrintable c then [c]
  else numericEscape c

def quoted (s : String) : String :=
  String.ofList ('"' :: s.toList.flatMap escapeChar ++ ['"'])

def quotedList (names : List String) : String :=
  "[" ++ String.intercalate ", " (names.map quoted) ++ "]"

end RichText
