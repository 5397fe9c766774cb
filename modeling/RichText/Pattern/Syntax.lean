import RichText.Characters
import RichText.Unicode.CaseFold
import RichText.Unicode.Named

namespace RichText.Pattern

/-- A set of characters. Its weight is about what an automaton that reads the set byte by byte
takes up. -/
structure CharSet where
  contains : Char → Bool
  weight : Nat

namespace CharSet

def ofRange (first last : Char) : CharSet :=
  ⟨fun c => first ≤ c && c ≤ last, if last.toNat < 128 then 40 else 40 * last.utf8Size⟩

def single (c : Char) : CharSet := ⟨(· == c), 32 * c.utf8Size⟩

def ofPredicate (p : Char → Bool) : CharSet := ⟨p, 20000⟩

def ofAscii (p : Char → Bool) : CharSet := ⟨fun c => c.toNat < 128 && p c, 64⟩

def empty : CharSet := ⟨fun _ => false, 32⟩

def any : CharSet := ⟨fun _ => true, 400⟩

def negate (s : CharSet) : CharSet := ⟨fun c => !s.contains c, s.weight + 400⟩

def negateIf (b : Bool) (s : CharSet) : CharSet := if b then s.negate else s

def union (s t : CharSet) : CharSet :=
  ⟨fun c => s.contains c || t.contains c, s.weight + t.weight⟩

def inter (s t : CharSet) : CharSet :=
  ⟨fun c => s.contains c && t.contains c, s.weight + t.weight⟩

def diff (s t : CharSet) : CharSet :=
  ⟨fun c => s.contains c && !t.contains c, s.weight + t.weight⟩

def symmDiff (s t : CharSet) : CharSet :=
  ⟨fun c => s.contains c != t.contains c, s.weight + t.weight⟩

/-- With every character also those that equal it when case does not count. -/
def fold (s : CharSet) : CharSet :=
  ⟨fun c => s.contains c || (Unicode.caseOrbit c).any s.contains, 2 * s.weight⟩

def foldIf (b : Bool) (s : CharSet) : CharSet := if b then s.fold else s

def foldAscii (s : CharSet) : CharSet :=
  ⟨fun c => s.contains c || (c.toNat < 128 && (s.contains c.toLower || s.contains c.toUpper)),
   2 * s.weight⟩

def lineEnd (crlf : Bool) : CharSet :=
  if crlf then ⟨fun c => c = '\n' || c = '\r', 40⟩ else ⟨(· == '\n'), 40⟩

end CharSet

inductive Look where
  | textStart | textEnd
  | lineStart (crlf : Bool) | lineEnd (crlf : Bool)
  | wordBoundary | notWordBoundary | wordStart | wordEnd | wordStartHalf | wordEndHalf
  | asciiWordBoundary | asciiNotWordBoundary | asciiWordStart | asciiWordEnd
  | asciiWordStartHalf | asciiWordEndHalf
  deriving DecidableEq

namespace Look

def isAsciiWord (c : Char) : Bool := c.isAlphanum || c = '_'

def word (isWord : Char → Bool) (test : Bool → Bool → Bool) (before after : Option Char) :
    Bool :=
  test (before.any isWord) (after.any isWord)

def holds (look : Look) (before after : Option Char) : Bool :=
  let w := word Unicode.isWord
  let a := word isAsciiWord
  match look with
  | textStart => before.isNone
  | textEnd => after.isNone
  | lineStart false => before.isNone || before = some '\n'
  | lineEnd false => after.isNone || after = some '\n'
  | lineStart true =>
    before.isNone || before = some '\n' || (before = some '\r' && after ≠ some '\n')
  | lineEnd true =>
    after.isNone || after = some '\r' || (after = some '\n' && before ≠ some '\r')
  | wordBoundary => w (fun x y => x != y) before after
  | notWordBoundary => w (fun x y => x == y) before after
  | wordStart => w (fun x y => !x && y) before after
  | wordEnd => w (fun x y => x && !y) before after
  | wordStartHalf => w (fun x _ => !x) before after
  | wordEndHalf => w (fun _ y => !y) before after
  | asciiWordBoundary => a (fun x y => x != y) before after
  | asciiNotWordBoundary => a (fun x y => x == y) before after
  | asciiWordStart => a (fun x y => !x && y) before after
  | asciiWordEnd => a (fun x y => x && !y) before after
  | asciiWordStartHalf => a (fun x _ => !x) before after
  | asciiWordEndHalf => a (fun _ y => !y) before after

end Look

/-- A regular expression. The nesting of a set is that of the brackets it is written with. -/
inductive Regex where
  | empty
  | chars (set : CharSet) (nesting : Nat)
  | look (l : Look)
  | cat (items : List Regex)
  | alt (branches : List Regex)
  | rep (body : Regex) (least : Nat) (most : Option Nat) (greedy : Bool)
  | group (index : Option Nat) (body : Regex)

namespace Regex

mutual

def depth : Regex → Nat
  | empty | look _ => 0
  | chars _ nesting => nesting
  | cat items | alt items => maxDepth items + 1
  | rep body .. => depth body + 1
  | group _ body => depth body + 1

def maxDepth : List Regex → Nat
  | [] => 0
  | r :: rs => max (depth r) (maxDepth rs)

end

mutual

def weight : Regex → Nat
  | empty => 32
  | look _ => 32
  | chars set _ => set.weight
  | cat items => totalWeight items
  | alt branches => 64 + totalWeight branches
  | rep body least most _ => (weight body + 40) * max 1 (most.getD least)
  | group _ body => weight body + 64

def totalWeight : List Regex → Nat
  | [] => 0
  | r :: rs => weight r + 4 + totalWeight rs

end

mutual

def nullable : Regex → Bool
  | empty | look _ => true
  | chars .. => false
  | cat items => allNullable items
  | alt branches => someNullable branches
  | rep body least _ _ => least == 0 || nullable body
  | group _ body => nullable body

def allNullable : List Regex → Bool
  | [] => true
  | r :: rs => nullable r && allNullable rs

def someNullable : List Regex → Bool
  | [] => false
  | r :: rs => nullable r || someNullable rs

end

end Regex

end RichText.Pattern
