import RichText.Value.Coercion
import RichText.Scope.Bindings

namespace RichText

structure Context (σ : Type) where
  var : Environment σ
  coercion : Coercion := {}
  readField : Value → String → StateM σ Value := fun _ _ => pure .null

variable {σ : Type}

/-- A position in a sequence of length `len`, a negative index counting from the end. -/
def wrapIndex (len : Nat) (index : Int64) : Option Nat :=
  let i : Int := if index < 0 then len + index.toInt else index.toInt
  if 0 ≤ i ∧ i < len then some i.toNat else none

def nth (items : List Value) (index : Int64) : Value :=
  ((wrapIndex items.length index).bind (items[·]?)).getD .null

def nthChar (s : String) (index : Int64) : Value :=
  let cs := s.toList
  (((wrapIndex cs.length index).bind (cs[·]?)).map fun c => .str (String.singleton c)).getD .null

/-- `target[key]`: null for a miss and for what has no parts. -/
def Context.subscript (ctx : Context σ) (target key : Value) : StateM σ Value :=
  match target with
  | .map entries => pure ((Keyed.get? entries (ctx.coercion.asStr key)).getD .null)
  | .list items => pure (nth items (ctx.coercion.asInt key))
  | .str s => pure (nthChar s (ctx.coercion.asInt key))
  | .object .. | .markup .. => ctx.readField target (ctx.coercion.asStr key)
  | _ => pure .null

/-- The characters from index `a` up to index `b`, which is left out. There is no such slice unless
the text has all of these positions. -/
def slice? (cs : List Char) (a b : Nat) : Option (List Char) :=
  if a ≤ b ∧ b ≤ cs.length then some ((cs.take b).drop a) else none

def clamp (n : Nat) (bound : Int) : Nat := min bound.natAbs n

/-- The last `k` characters, last first, for a lower bound of `-k`. -/
def suffix? (cs : List Char) (lower : Int) : Option (List Char) :=
  if lower < 0 then List.reverse <$> slice? cs (cs.length - clamp cs.length lower) cs.length
  else some []

/-- The first `k` characters for an upper bound of `-k`. -/
def prefix? (cs : List Char) (upper : Int) : Option (List Char) :=
  if upper < 0 then slice? cs 0 (clamp cs.length upper) else some []

def window? (cs : List Char) (first last : Int) : Option (List Char) :=
  if 0 ≤ first ∧ 0 ≤ last ∧ first ≤ last then
    let start := clamp cs.length first
    if start < cs.length then
      slice? cs start (min (clamp cs.length last) (cs.length - 1) + 1)
    else some []
  else some []

/-- A negative bound adds characters of its own in front, and then the window between the bounds is
empty. An absent bound is the end of the text on its side. -/
def substring? (s : String) (lower upper : Option Int64) : Option String := do
  let cs := s.toList
  let front ← lower.elim (some []) fun lower => suffix? cs lower.toInt
  let middle ← upper.elim (some []) fun upper => prefix? cs upper.toInt
  let rest ← window? cs (lower.elim 0 Int64.toInt) (upper.elim (cs.length - 1) Int64.toInt)
  return String.ofList (front ++ middle ++ rest)

variable {cs : List Char}

theorem isSome_slice? {a b : Nat} (hab : a ≤ b) (hb : b ≤ cs.length) : (slice? cs a b).isSome := by
  rw [slice?, if_pos ⟨hab, hb⟩]
  rfl

theorem clamp_le (n : Nat) (bound : Int) : clamp n bound ≤ n := Nat.min_le_right ..

theorem isSome_suffix? (cs : List Char) (lower : Int) : (suffix? cs lower).isSome := by
  unfold suffix?
  split
  · rw [Option.map_eq_map, Option.isSome_map]
    exact isSome_slice? (Nat.sub_le ..) (Nat.le_refl _)
  · rfl

theorem isSome_prefix? (cs : List Char) (upper : Int) : (prefix? cs upper).isSome := by
  unfold prefix?
  split
  · exact isSome_slice? (Nat.zero_le _) (clamp_le ..)
  · rfl

theorem isSome_window? (cs : List Char) (first last : Int) : (window? cs first last).isSome := by
  unfold window?
  dsimp only
  split
  next h =>
    split
    next hstart =>
      have hclamp : clamp cs.length first ≤ clamp cs.length last := by
        unfold clamp
        omega
      exact isSome_slice? (by omega) (by omega)
    next => rfl
  next => rfl

/-- No index is out of range, whatever the bounds. -/
theorem isSome_substring? (s : String) (lower upper : Option Int64) :
    (substring? s lower upper).isSome := by
  have hfront : ∀ b : Option Int64,
      (b.elim (some []) fun lower => suffix? s.toList lower.toInt).isSome := by
    intro b
    cases b with
    | none => rfl
    | some lower => exact isSome_suffix? ..
  have hmiddle : ∀ b : Option Int64,
      (b.elim (some []) fun upper => prefix? s.toList upper.toInt).isSome := by
    intro b
    cases b with
    | none => rfl
    | some upper => exact isSome_prefix? ..
  obtain ⟨front, hfront⟩ := Option.isSome_iff_exists.1 (hfront lower)
  obtain ⟨middle, hmiddle⟩ := Option.isSome_iff_exists.1 (hmiddle upper)
  obtain ⟨rest, hrest⟩ := Option.isSome_iff_exists.1 (isSome_window? s.toList
    (lower.elim 0 Int64.toInt) (upper.elim (s.toList.length - 1) Int64.toInt))
  simp only [substring?, hfront, hmiddle, hrest, Option.bind_eq_bind, Option.bind_some]
  rfl

def substringOf (s : String) (lower upper : Option Int64) : String :=
  (substring? s lower upper).get (isSome_substring? s lower upper)

end RichText
