import RichText.Directive.Basic

namespace RichText

structure Config where
  /-- In the order in which their names were first defined. -/
  slots : List Slot := []
  vars : Keyed Value := []

namespace Config

/-- Puts a slot in the place of the one with its name, or at the end. -/
def putSlot (slot : Slot) : List Slot → List Slot
  | [] => [slot]
  | s :: rest => if s.name = slot.name then slot :: rest else s :: putSlot slot rest

def slot? (c : Config) (name : String) : Option Slot := c.slots.find? (·.name = name)

/-- Executes a directive. One with another name is passed over. -/
def execute (c : Config) (name : String) (ts : List (List Char)) : Except DirectiveError Config :=
  match name with
  | "slot" => (Directive.slotOf ts).map fun slot => { c with slots := putSlot slot c.slots }
  | "set" => (Directive.bindingOf ts).map fun (k, v) => { c with vars := c.vars.insert k v }
  | _ => .ok c

/-- Executes a line. One that does not begin with a slash is none of ours. -/
def line (c : Config) (cs : List Char) : Except DirectiveError Config :=
  match trimBlanks cs with
  | '/' :: cs =>
    let name := cs.takeWhile (!isAsciiBlank ·)
    let arguments := (cs.dropWhile (!isAsciiBlank ·)).tail
    c.execute (String.ofList name) (Directive.tokens (trimBlanks arguments))
  | _ => .ok c

def splitLines : List Char → List (List Char)
  | [] => [[]]
  | c :: cs =>
    if c = '\n' then [] :: splitLines cs
    else match splitLines cs with
      | [] => [[c]]
      | l :: ls => (c :: l) :: ls

/-- Executes numbered lines. One that fails is reported and changes nothing. -/
def loadLines (c : Config) (number : Nat) :
    List (List Char) → Config × List (Nat × DirectiveError)
  | [] => (c, [])
  | l :: ls =>
    match c.line l with
    | .ok c => loadLines c (number + 1) ls
    | .error e =>
      let (c, errors) := loadLines c (number + 1) ls
      (c, (number, e) :: errors)

def load (s : String) : Config × List (Nat × DirectiveError) :=
  loadLines {} 1 (splitLines s.toList)

def report (number : Nat) (e : DirectiveError) : String :=
  "line " ++ toString number ++ ": " ++ e.message

end Config

end RichText
