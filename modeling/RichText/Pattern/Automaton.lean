import RichText.Pattern.Syntax

namespace RichText.Pattern

inductive State where
  | accept
  | read (set : CharSet) (next : Nat)
  | look (l : Look) (next : Nat)
  /-- Earlier choices are preferred. -/
  | choice (targets : List Nat)
  /-- Notes the place in a slot. -/
  | note (slot next : Nat)

instance : Inhabited State := ⟨.accept⟩

def State.targets : State → List Nat
  | accept => []
  | read _ next | look _ next | note _ next => [next]
  | choice targets => targets

structure Automaton where
  states : Array State
  start : Nat

namespace Automaton

abbrev Build := StateM (Array State)

def add (s : State) : Build Nat := modifyGet fun states => (states.size, states.push s)

def split (greedy : Bool) (body next : Nat) : State :=
  .choice (if greedy then [body, next] else [next, body])

def copies (once : Nat → Build Nat) : Nat → Nat → Build Nat
  | 0, next => pure next
  | n + 1, next => do
    let rest ← copies once n next
    once rest

/-- At most `n` copies, each inside the choice of the one before it. -/
def optional (once : Nat → Build Nat) (greedy : Bool) (next : Nat) : Nat → Build Nat
  | 0 => pure next
  | n + 1 => do
    let rest ← optional once greedy next n
    let body ← once rest
    add (split greedy body next)

/-- One or more copies: the numbers of the first state of a copy and of the choice behind it. -/
def loop (once : Nat → Build Nat) (greedy : Bool) (next : Nat) : Build (Nat × Nat) := do
  let choice ← add .accept
  let body ← once choice
  modify fun states => states.setIfInBounds choice (split greedy body next)
  return (body, choice)

/-- Any number of copies. A body that can match nothing is entered by a choice of its own, so that
the order of preference is kept. -/
def star (once : Nat → Build Nat) (nullable greedy : Bool) (next : Nat) : Build Nat := do
  let (body, choice) ← loop once greedy next
  if nullable then add (split greedy body next) else return choice

mutual

/-- Adds the states of an expression in front of `next`, and gives the first of them. -/
def compile : Regex → Nat → Build Nat
  | .empty, next => pure next
  | .chars set _, next => add (.read set next)
  | .look l, next => add (.look l next)
  | .cat items, next => compileAll items next
  | .alt branches, next => do
    let targets ← compileEach branches next
    add (.choice targets)
  | .rep body least none greedy, next =>
    match least with
    | 0 => star (compile body) body.nullable greedy next
    | n + 1 => do
      let (first, _) ← loop (compile body) greedy next
      copies (compile body) n first
  | .rep body least (some most) greedy, next => do
    let rest ← optional (compile body) greedy next (most - least)
    copies (compile body) least rest
  | .group none body, next => compile body next
  | .group (some i) body, next => do
    let close ← add (.note (2 * i + 1) next)
    let inner ← compile body close
    add (.note (2 * i) inner)

def compileAll : List Regex → Nat → Build Nat
  | [], next => pure next
  | r :: rs, next => do
    let rest ← compileAll rs next
    compile r rest

def compileEach : List Regex → Nat → Build (List Nat)
  | [], _ => pure []
  | r :: rs, next => do
    let first ← compile r next
    let others ← compileEach rs next
    return first :: others

end

def ofRegex (r : Regex) : Automaton :=
  let (start, states) := (compile r 0).run #[.accept]
  ⟨states, start⟩

end Automaton

end RichText.Pattern
