import RichText.Value.Text
import RichText.Decimal.Numeral
import RichText.Characters

namespace RichText

inductive Number where
  | int (n : Int64)
  | float (x : Float)

namespace Number

def toFloat : Number → Float
  | int n => Binary64.ofInt n.toInt
  | float x => x

/-- Fractions are dropped and what lies outside the range goes to its nearer end. -/
def toInt : Number → Int64
  | int n => n
  | float x => Binary64.toInt64 x

def toValue : Number → Value
  | int n => .int n
  | float x => .float x

end Number

namespace Value

open Decimal

/-- An integer if the text is one, else a decimal, else zero. Blanks at the ends do not count. -/
def numberOfText (s : String) : Number :=
  let cs := trimBlanks s.toList
  match int64? cs, float? cs with
  | some n, _ => .int n
  | none, some x => .float x
  | none, none => .int 0

def intOfText (s : String) : Int64 :=
  let cs := trimBlanks s.toList
  ((int64? cs).or ((float? cs).map Binary64.toInt64)).getD 0

def floatOfText (s : String) : Float :=
  let cs := trimBlanks s.toList
  (((int64? cs).map fun n => Binary64.ofInt n.toInt).or (float? cs)).getD 0

def asNumber : Value → Number
  | .null => .int 0
  | .int n => .int n
  | .float x => .float x
  | v => numberOfText v.asStr

def asInt : Value → Int64
  | .null => 0
  | .int n => n
  | .float x => Binary64.toInt64 x
  | v => intOfText v.asStr

def asFloat : Value → Float
  | .null => 0
  | .int n => Binary64.ofInt n.toInt
  | .float x => x
  | v => floatOfText v.asStr

def textTruth (s : String) : Bool := s = "true" || s = ""

def asBool : Value → Bool
  | .null => false
  | .int n => n != 0
  | .float x => x != 0.0
  | .bool b => b
  | v => textTruth v.asStr

/-- A map is read as the list of its keys, and what is neither list nor map as one item. -/
def asList : Value → List Value
  | .list items => items
  | .map entries => entries.map fun e => .str e.1
  | v => [v]

end Value

structure Coercion where
  asInt : Value → Int64 := Value.asInt
  asFloat : Value → Float := Value.asFloat
  asNumber : Value → Number := Value.asNumber
  asBool : Value → Bool := Value.asBool
  asStr : Value → String := Value.asStr
  asList : Value → List Value := Value.asList

instance : Inhabited Coercion := ⟨{}⟩

end RichText
