import RichText.Text.Basic
import RichText.Decimal.Shortest

namespace RichText

open Decimal

structure NumberSymbols where
  group : List Char
  decimal : Char
  deriving DecidableEq

namespace NumberSymbols

def english : NumberSymbols := ⟨[','], '.'⟩

/-- The separators of a language, and the English ones for a language that is not listed. -/
def ofLanguage (language : String) : NumberSymbols :=
  if ["de", "es", "it", "pt", "nl", "da", "id"].contains language then ⟨['.'], ','⟩
  else if language = "fr" then ⟨['\u202f'], ','⟩
  else if ["ru", "pl", "cs", "sv", "fi", "uk"].contains language then ⟨['\u00a0'], ','⟩
  else english

def tagParts : List Char → List (List Char)
  | [] => [[]]
  | c :: cs =>
    if c = '_' ∨ c = '-' then [] :: tagParts cs
    else match tagParts cs with
      | [] => [[c]]
      | p :: ps => (c :: p) :: ps

def isLanguage (cs : List Char) : Bool := (cs.length = 2 || cs.length = 3) && cs.all Char.isAlpha

def isRegion (cs : List Char) : Bool :=
  (cs.length = 2 && cs.all Char.isAlpha) || (cs.length = 3 && cs.all Char.isDigit)

def ofTag? (tag : String) : Option NumberSymbols :=
  let named (language : List Char) := ofLanguage (String.ofList (language.map Char.toLower))
  match tagParts tag.toList with
  | [language] => if isLanguage language then some (named language) else none
  | [language, region] =>
    if isLanguage language && isRegion region then some (named language) else none
  | _ => none

end NumberSymbols

namespace NumberFormat

def maxFractionDigits : Nat := 12

def groupThousands (separator : List Char) : List Char → List Char
  | [] => []
  | c :: cs =>
    c :: ((if cs ≠ [] ∧ cs.length % 3 = 0 then separator else []) ++
      groupThousands separator cs)

/-- The digits of `n` counted in units of the last of `digits` places. Where the count is past the
range of a double the number is a whole one. -/
def scaledDigits (rounding : Rounding) (n : Float) (digits : Nat) : List Char :=
  let scaled := rounding.apply (n * Float.ofNat (Nat.pow 10 digits))
  if Binary64.isFinite scaled then digitChars (Binary64.wholePart scaled)
  else digitChars (Binary64.wholePart n) ++ List.replicate digits '0'

/-- A minus sign goes only before a number that is not written as zero. -/
def layout (symbols : NumberSymbols) (negative : Bool) (digits : Nat) (ds : List Char) :
    List Char :=
  let cs := padLeft (digits + 1) '0' ds
  let split := cs.length - digits
  (if negative && ds.any (· ≠ '0') then ['-'] else []) ++
    groupThousands symbols.group (cs.take split) ++
    (if digits = 0 then [] else symbols.decimal :: cs.drop split)

end NumberFormat

def formatNumber (n : Float) (locale : String) (fractionDigits : Nat) (rounding : String) :
    Outcome String :=
  let symbols := NumberSymbols.ofTag? locale
  let mode := Rounding.ofName? rounding
  let warnings := (if symbols.isNone then [Warning.malformedLocale] else []) ++
    (if mode.isNone then [Warning.malformedRounding] else [])
  if !Binary64.isFinite n then ⟨specialText n, warnings⟩
  else
    let digits := min fractionDigits NumberFormat.maxFractionDigits
    let ds := NumberFormat.scaledDigits (mode.getD .halfEven) n digits
    ⟨String.ofList (NumberFormat.layout (symbols.getD .english) (n < 0) digits ds), warnings⟩

end RichText
