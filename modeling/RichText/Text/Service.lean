import RichText.Calendar.Pattern
import RichText.Keyed
import RichText.Pattern.Template
import RichText.Text.Basic

namespace RichText

/-- Writes a moment by a pattern, and as a timestamp if there is something wrong with the pattern. A
moment outside the calendar is the first of 1970. -/
def formatDate (epochMillis : Int) (pattern : String) : Outcome String :=
  let m := (Calendar.Moment.ofMillis? epochMillis).getD ⟨0⟩
  match Calendar.Item.parse pattern.toList with
  | some items => ⟨m.format items, []⟩
  | none => ⟨String.ofList m.timestamp, [.malformedPattern]⟩

structure PatternEngine (ρ : Type) where
  compile? : String → Option ρ
  isMatch : ρ → String → Bool
  /-- The stretches of a text between the matches. -/
  split : ρ → String → List String
  /-- A text with every match replaced. -/
  replaceAll : ρ → String → String → String

def Pattern.engine : PatternEngine Pattern.Compiled where
  compile? := Pattern.compile?
  isMatch := Pattern.Compiled.isMatch
  split := Pattern.Compiled.split
  replaceAll := Pattern.Compiled.replaceAll

/-- The patterns used so far with what became of them. A malformed one is kept too. -/
structure PatternCache (ρ : Type) where
  compiled : Keyed (Option ρ) := []

namespace PatternCache

variable {ρ : Type}

def size (c : PatternCache ρ) : Nat := c.compiled.length

variable (R : PatternEngine ρ)

def pattern (c : PatternCache ρ) (source : String) : Option ρ × PatternCache ρ :=
  match c.compiled.get? source with
  | some p => (p, c)
  | none =>
    let p := R.compile? source
    (p, ⟨c.compiled.insert source p⟩)

def apply {α : Type} (c : PatternCache ρ) (source : String) (use : ρ → α) (spare : α) :
    Outcome α × PatternCache ρ :=
  match c.pattern R source with
  | (some p, c) => (⟨use p, []⟩, c)
  | (none, c) => (⟨spare, [.malformedPattern]⟩, c)

def isMatch (c : PatternCache ρ) (text source : String) : Outcome Bool × PatternCache ρ :=
  c.apply R source (R.isMatch · text) false

def split (c : PatternCache ρ) (text source : String) :
    Outcome (List String) × PatternCache ρ :=
  c.apply R source (R.split · text) [text]

def replaceAll (c : PatternCache ρ) (text source replacement : String) :
    Outcome String × PatternCache ρ :=
  c.apply R source (R.replaceAll · text replacement) text

def describe (c : PatternCache ρ) : String :=
  "TextServices \x7b cached_patterns: " ++ toString c.size ++ " \x7d"

end PatternCache

end RichText
