namespace RichText

/-- Entries in the order of their keys, at most one for each key. -/
abbrev Keyed (α : Type) := List (String × α)

namespace Keyed

variable {α : Type}

/-- Adds an entry in its place, or replaces the one with the same key. -/
def insert (key : String) (a : α) : Keyed α → Keyed α
  | [] => [(key, a)]
  | (k, b) :: rest =>
    if key < k then (key, a) :: (k, b) :: rest
    else if key = k then (key, a) :: rest
    else (k, b) :: insert key a rest

/-- Of several entries with one key the last stays. -/
def ofList (entries : List (String × α)) : Keyed α :=
  entries.foldl (fun m e => insert e.1 e.2 m) []

def get? (m : Keyed α) (key : String) : Option α := List.lookup key m

def contains (m : Keyed α) (key : String) : Bool := (m.get? key).isSome

def erase (m : Keyed α) (key : String) : Keyed α := m.filter (·.1 ≠ key)

/-- The entries of `top` in front of those of `m` with the same key. -/
def extend (m top : Keyed α) : Keyed α :=
  top.foldl (fun m e => insert e.1 e.2 m) m

def keys (m : Keyed α) : List String := m.map (·.1)

end Keyed

end RichText
