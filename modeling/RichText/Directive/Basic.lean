import RichText.Directive.Token
import RichText.Decimal.Numeral
import RichText.Layout.Basic
import RichText.Value.Basic

namespace RichText

inductive DirectiveError where
  | optionWithoutValue (option : Char)
  | unknownColor (text : String)
  | unknownDecoration (code : Char)
  | unexpectedArgument (token : String)
  | slotWithoutName
  | bindingWithoutName
  | bindingWithoutValue (token : String)
  | bindingWithoutArgument
  deriving DecidableEq

def DirectiveError.message : DirectiveError → String
  | .optionWithoutValue option => "/slot: -" ++ option.toString ++ " requires a value"
  | .unknownColor text => "/slot: unrecognised colour '" ++ text ++ "'"
  | .unknownDecoration code => "/slot: unknown decoration flag '" ++ code.toString ++ "'"
  | .unexpectedArgument token => "/slot: unexpected argument '" ++ token ++ "'"
  | .slotWithoutName => "/slot: requires a slot name"
  | .bindingWithoutName => "/set: variable name cannot be empty"
  | .bindingWithoutValue token => "/set: missing value for '" ++ token ++ "'"
  | .bindingWithoutArgument => "/set: requires an argument"

namespace Directive

/-- The decorations that some letters stand for, a capital letter for one switched off. -/
def setFlags (d : Decorations) : List Char → Except DirectiveError Decorations
  | [] => .ok d
  | c :: cs =>
    match Decoration.ofCode? c with
    | some flag => setFlags (d.put flag c.isLower) cs
    | none => .error (.unknownDecoration c)

def takesValue (option : Char) : Bool := ['b', 'c', 'f', 'F'].contains option

def applyOption (slot : Slot) (option : Char) (value : List Char) : Except DirectiveError Slot :=
  match option with
  | 'b' => .ok { slot with lineBreak := some (String.ofList (unescape value)) }
  | 'c' =>
    match Color.parseChars value with
    | some color => .ok { slot with base := { slot.base with color := some color } }
    | none => .error (.unknownColor (String.ofList value))
  | 'f' => do
    let decorations ← setFlags slot.base.decorations value
    return { slot with base := { slot.base with decorations } }
  | _ => .ok { slot with base := { slot.base with font := some (String.ofList value) } }

structure SlotReading where
  name : Option String := none
  slot : Slot := { name := "" }
  /-- The option that the next token is the value of. -/
  pending : Option Char := none

namespace SlotReading

/-- Reads the letters behind a hyphen. What follows an option that takes a value is the value, and
unknown letters do not count. -/
def cluster (r : SlotReading) : List Char → Except DirectiveError SlotReading
  | [] => .ok r
  | c :: cs =>
    if takesValue c then
      if cs = [] then .ok { r with pending := some c }
      else (applyOption r.slot c cs).map fun slot => { r with slot }
    else if c = 'n' then cluster { r with slot := { r.slot with lineBreak := none } } cs
    else cluster r cs

def token (r : SlotReading) (t : List Char) : Except DirectiveError SlotReading :=
  match r.pending, t with
  | some option, t =>
    (applyOption r.slot option t).map fun slot => { r with slot, pending := none }
  | none, '-' :: c :: cs => r.cluster (c :: cs)
  | none, t =>
    if r.name.isNone then .ok { r with name := some (String.ofList t) }
    else .error (.unexpectedArgument (String.ofList t))

def finish (r : SlotReading) : Except DirectiveError Slot :=
  match r.pending, r.name with
  | some option, _ => .error (.optionWithoutValue option)
  | none, none => .error .slotWithoutName
  | none, some name => .ok { r.slot with name }

end SlotReading

def slotOf (ts : List (List Char)) : Except DirectiveError Slot := do
  (← ts.foldlM SlotReading.token {}).finish

/-- An integer, a truth value or a finite decimal if the text is one, and else the text. -/
def scalar (cs : List Char) : Value :=
  match Decimal.int64? cs with
  | some n => .int n
  | none =>
    let s := String.ofList cs
    if s = "true" then .bool true
    else if s = "false" then .bool false
    else match Decimal.float? cs with
      | some x => if Binary64.isFinite x then .float x else .str s
      | none => .str s

def splitAssignment (cs : List Char) : Option (List Char × List Char) :=
  if cs.contains '=' then some (cs.takeWhile (· ≠ '='), (cs.dropWhile (· ≠ '=')).tail)
  else none

def joinTokens (ts : List (List Char)) : List Char := [' '].intercalate ts

/-- The name and the value of a `/set` directive. Where the first token has an equals sign nothing
behind the token counts. -/
def bindingOf : List (List Char) → Except DirectiveError (String × Value)
  | [] => .error .bindingWithoutArgument
  | first :: rest => do
    let (name, value) ← match splitAssignment first, rest with
      | some sides, _ => .ok sides
      | none, [] => .error (.bindingWithoutValue (String.ofList first))
      | none, ts => .ok (first, joinTokens ts)
    if name = [] then .error .bindingWithoutName
    else return (String.ofList name, scalar value)

end Directive

end RichText
