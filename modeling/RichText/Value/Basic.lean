import RichText.Markup.Node
import RichText.Keyed

namespace RichText

/-- A host object and a markup tree have an identity besides their content: two of them are equal
exactly when they were made at once. `display` is the text that the host shows for them. -/
inductive Value where
  | null
  | int (n : Int64)
  | float (x : Float)
  | bool (b : Bool)
  | str (s : String)
  | list (items : List Value)
  | map (entries : List (String × Value))
  | object (id : Nat) (type display : String) (fields : List (String × Value))
  | markup (id : Nat) (display : String) (node : Node)

namespace Value

instance : Inhabited Value := ⟨.null⟩

def isNull : Value → Bool
  | .null => true
  | _ => false

def ofEntries (entries : List (String × Value)) : Value := .map (Keyed.ofList entries)

def identity? : Value → Option Nat
  | .object id .. | .markup id .. => some id
  | _ => none

mutual

/-- Same kind and same content. A NaN differs from itself, and so does a list that holds one. -/
def beq : Value → Value → Bool
  | .null, .null => true
  | .int m, .int n => m == n
  | .float x, .float y => x == y
  | .bool a, .bool b => a == b
  | .str s, .str t => s == t
  | .list xs, .list ys => beqList xs ys
  | .map xs, .map ys => beqEntries xs ys
  | .object i .., .object j .. => i == j
  | .markup i .., .markup j .. => i == j
  | _, _ => false

def beqList : List Value → List Value → Bool
  | [], [] => true
  | x :: xs, y :: ys => beq x y && beqList xs ys
  | _, _ => false

def beqEntries : List (String × Value) → List (String × Value) → Bool
  | [], [] => true
  | (k, x) :: xs, (l, y) :: ys => k == l && beq x y && beqEntries xs ys
  | _, _ => false

end

instance : BEq Value := ⟨beq⟩

def kind : Value → String
  | .null => "null"
  | .int _ => "integer"
  | .float _ => "float"
  | .bool _ => "boolean"
  | .str _ => "string"
  | .list _ => "list"
  | .map _ => "map"
  | .object .. | .markup .. => "native"

end Value

end RichText
