import RichText.Value.Basic
import RichText.Decimal.Shortest

namespace RichText.Value

open Decimal

def intText (n : Int64) : String :=
  if n.toInt < 0 then "-" ++ String.ofList (digitChars n.toInt.natAbs)
  else String.ofList (digitChars n.toInt.natAbs)

def boolText (b : Bool) : String := if b then "true" else "false"

mutual

def display : Value → String
  | .null => "null"
  | .int n => intText n
  | .float x => floatText x
  | .bool b => boolText b
  | .str s => s
  | .list items => "[" ++ String.intercalate ", " (displayItems items) ++ "]"
  | .map entries => "\x7b" ++ String.intercalate ", " (displayEntries entries) ++ "\x7d"
  | .object _ _ display _ => display
  | .markup _ display _ => display

def displayItems : List Value → List String
  | [] => []
  | v :: vs => display v :: displayItems vs

def displayEntries : List (String × Value) → List String
  | [] => []
  | (k, v) :: rest => (k ++ "=" ++ display v) :: displayEntries rest

end

/-- The text that stands for a value: a list is read as its first item, a map as its first key, and
an empty one as null. -/
def asStr : Value → String
  | .list [] => display .null
  | .list (v :: _) => asStr v
  | .map [] => display .null
  | .map ((k, _) :: _) => k
  | v => display v

end RichText.Value
