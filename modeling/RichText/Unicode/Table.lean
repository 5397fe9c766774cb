import RichText.Characters

namespace RichText.Unicode

def words (s : String) : List String :=
  ((s.splitOn "\n").flatMap (·.splitOn " ")).filter (· ≠ "")

def hexNumber (s : String) : Nat := (Hexadecimal.ofDigits? s.toList).getD 0

/-- How many of the first `n` numbers of an ascending array are at most `x`, given that at least
`low` of them are. -/
def countUpTo (a : Array Nat) (x low n : Nat) : Nat :=
  if _ : low < n then
    let mid := (low + n) / 2
    if a.getD mid 0 ≤ x then countUpTo a x (mid + 1) n else countUpTo a x low mid
  else low
termination_by n - low

/-- Values on stretches of code points. Each goes on to the start of the next. -/
structure Runs where
  starts : Array Nat
  values : Array String

namespace Runs

def ofWords (r : Runs) : List String → Runs
  | start :: value :: rest =>
    ofWords ⟨r.starts.push (hexNumber start), r.values.push value⟩ rest
  | _ => r

def parse (s : String) : Runs := ofWords ⟨#[], #[]⟩ (words s)

def position (r : Runs) (c : Char) : Nat := countUpTo r.starts c.toNat 0 r.starts.size

def get (r : Runs) (c : Char) : String := r.values.getD (r.position c - 1) ""

def at? (r : Runs) (c : Char) : Option String :=
  let i := r.position c
  if 0 < i ∧ r.starts[i - 1]? = some c.toNat then r.values[i - 1]? else none

end Runs

/-- Stretches of code points, as the ascending numbers at which one starts or has just ended. -/
structure Ranges where
  bounds : Array Nat

namespace Ranges

def bound (w : String) : List Nat :=
  match w.splitOn "-" with
  | [first, last] => [hexNumber first, hexNumber last + 1]
  | _ => [hexNumber w, hexNumber w + 1]

def parse (s : String) : Ranges := ⟨((words s).flatMap bound).toArray⟩

def contains (r : Ranges) (c : Char) : Bool :=
  countUpTo r.bounds c.toNat 0 r.bounds.size % 2 == 1

end Ranges

end RichText.Unicode
