import RichText.Pattern.Search

namespace RichText.Pattern

inductive Part where
  | char (c : Char)
  | group (index : Nat)
  | named (name : String)

namespace Template

def isNameChar (c : Char) : Bool := c.isAlphanum || c = '_'

def dropPlus : List Char → List Char
  | '+' :: cs => cs
  | cs => cs

def reference (cs : List Char) : Part :=
  let ds := dropPlus cs
  let n := Decimal.ofDigits ds
  if ds ≠ [] ∧ ds.all Char.isDigit ∧ n < 1 <<< 64 then .group n else .named (String.ofList cs)

/-- Reads a template of at most `fuel` characters. A dollar sign that begins no reference stands for
itself, and so does one behind another. -/
def parts : Nat → List Char → List Part
  | fuel + 1, '$' :: cs =>
    match cs with
    | '$' :: cs => .char '$' :: parts fuel cs
    | '\x7b' :: inner =>
      match inner.dropWhile (· ≠ '\x7d') with
      | _ :: rest => reference (inner.takeWhile (· ≠ '\x7d')) :: parts fuel rest
      | [] => .char '$' :: parts fuel cs
    | cs =>
      match cs.takeWhile isNameChar with
      | [] => .char '$' :: parts fuel cs
      | name => reference name :: parts fuel (cs.dropWhile isNameChar)
  | fuel + 1, c :: cs => .char c :: parts fuel cs
  | _, _ => []

def ofString (s : String) : List Part := parts s.toList.length s.toList

end Template

namespace Found

/-- What a group has matched. The whole match is the group with number zero. -/
def group (m : Found) (text : Array Char) (index : Nat) : List Char :=
  if index = 0 then Compiled.slice text m.start m.stop
  else match m.slots.lookup (2 * index), m.slots.lookup (2 * index + 1) with
    | some start, some stop => Compiled.slice text start stop
    | _, _ => []

def expandPart (m : Found) (text : Array Char) (names : List (String × Nat)) : Part → List Char
  | .char c => [c]
  | .group i => m.group text i
  | .named s => (names.lookup s).elim [] (m.group text)

/-- The text that a match is replaced by. A group that is not there or has matched nothing is
empty. -/
def expand (m : Found) (text : Array Char) (names : List (String × Nat)) (template : List Part) :
    List Char :=
  template.flatMap (m.expandPart text names)

end Found

namespace Compiled

def replaceAfter (p : Compiled) (text : Array Char) (template : List Part) (start : Nat) :
    List Found → List Char
  | [] => slice text start text.size
  | m :: ms =>
    slice text start m.start ++
      (m.expand text p.names template ++ replaceAfter p text template m.stop ms)

def replaceAll (p : Compiled) (s template : String) : String :=
  let text := s.toList.toArray
  String.ofList (replaceAfter p text (Template.ofString template) 0 (p.automaton.allMatches text))

end Compiled

end RichText.Pattern
