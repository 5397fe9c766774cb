import RichText.Pattern.Automaton
import RichText.Pattern.Parser

namespace RichText.Pattern

structure Compiled where
  automaton : Automaton
  names : List (String × Nat)

def compile? (pattern : String) : Option Compiled :=
  (parse pattern).map fun (r, names) => ⟨.ofRegex r, names⟩

/-- A stretch of a text, and the places that its groups have noted, the latest first. -/
structure Found where
  start : Nat
  stop : Nat
  slots : List (Nat × Nat)

structure Job where
  state : Nat
  place : Nat
  slots : List (Nat × Nat)

namespace Automaton

variable (a : Automaton) (text : Array Char)

def before (place : Nat) : Option Char := if place = 0 then none else text[place - 1]?

/-- The jobs that one step leads to, in the order of preference. -/
def successors (j : Job) : State → List Job
  | .accept => []
  | .read set next =>
    match text[j.place]? with
    | some c => if set.contains c then [{ j with state := next, place := j.place + 1 }] else []
    | none => []
  | .look l next =>
    if l.holds (before text j.place) text[j.place]? then [{ j with state := next }] else []
  | .choice targets => targets.map fun t => { j with state := t }
  | .note slot next => [{ j with state := next, slots := (slot, j.place) :: j.slots }]

/-- Tries jobs in turn until one accepts. A state is entered once at each place: a second entry
could not get further than the first. -/
def explore : Nat → List Job → Array Bool → Option Job × Array Bool
  | fuel + 1, j :: jobs, seen =>
    let mark := j.state * (text.size + 1) + j.place
    if seen.getD mark true then explore fuel jobs seen
    else
      let seen := seen.setIfInBounds mark true
      match a.states[j.state]? with
      | some .accept => (some j, seen)
      | some s => explore fuel (successors text j s ++ jobs) seen
      | none => explore fuel jobs seen
  | _, _, seen => (none, seen)

def jobBound : Nat :=
  (text.size + 1) * (a.states.foldl (fun n s => n + s.targets.length) 0) + 1

def searchFrom : Nat → Nat → Array Bool → Option Found
  | 0, _, _ => none
  | count + 1, place, seen =>
    match explore a text (jobBound a text) [⟨a.start, place, []⟩] seen with
    | (some j, _) => some ⟨place, j.place, j.slots⟩
    | (none, seen) => searchFrom count (place + 1) seen

def search (place : Nat) : Option Found :=
  searchFrom a text (text.size + 1 - place) place
    (Array.replicate (a.states.size * (text.size + 1)) false)

/-- The matches of a text in turn. One that is empty never starts where the one before it ended. -/
def matchesFrom : Nat → Nat → Option Nat → List Found
  | 0, _, _ => []
  | fuel + 1, place, last =>
    let found := (search a text place).bind fun m =>
      if m.start = m.stop ∧ last = some m.stop then search a text (place + 1) else some m
    match found with
    | some m => m :: matchesFrom fuel m.stop (some m.stop)
    | none => []

def allMatches : List Found := matchesFrom a text (text.size + 2) 0 none

end Automaton

namespace Compiled

def isMatch (p : Compiled) (s : String) : Bool := (p.automaton.search s.toList.toArray 0).isSome

def slice (text : Array Char) (start stop : Nat) : List Char := (text.extract start stop).toList

def splitAfter (text : Array Char) (start : Nat) : List Found → List (List Char)
  | [] => [slice text start text.size]
  | m :: ms => slice text start m.start :: splitAfter text m.stop ms

def split (p : Compiled) (s : String) : List String :=
  let text := s.toList.toArray
  (splitAfter text 0 (p.automaton.allMatches text)).map String.ofList

end Compiled

end RichText.Pattern
