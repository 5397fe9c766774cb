import RichText.Value.Text

namespace RichText

/-- Resolves names. Looking one up may change the state `σ` of the host that supplies its value. -/
abbrev Environment (σ : Type) := String → StateM σ (Option Value)

variable {σ : Type}

inductive Binding (σ : Type) where
  | stored (v : Value)
  /-- Asked for a value at every lookup. -/
  | supplied (supplier : StateM σ Value)

def Binding.read : Binding σ → StateM σ Value
  | .stored v => pure v
  | .supplied s => s

def Binding.isSupplied : Binding σ → Bool
  | .stored _ => false
  | .supplied _ => true

structure Bindings (σ : Type) where
  vars : Keyed (Binding σ) := []

namespace Bindings

def set (b : Bindings σ) (name : String) (v : Binding σ) : Bindings σ :=
  ⟨b.vars.insert name v⟩

def remove (b : Bindings σ) (name : String) : Bindings σ := ⟨b.vars.erase name⟩

def contains (b : Bindings σ) (name : String) : Bool := b.vars.contains name

def isSupplied (b : Bindings σ) (name : String) : Bool :=
  (b.vars.get? name).any Binding.isSupplied

def extend (b top : Bindings σ) : Bindings σ := ⟨b.vars.extend top.vars⟩

def size (b : Bindings σ) : Nat := b.vars.length

def lookup (b : Bindings σ) : Environment σ := fun name =>
  match b.vars.get? name with
  | some v => some <$> v.read
  | none => pure none

end Bindings

namespace Environment

def layered (top base : Environment σ) : Environment σ := fun name => do
  match ← top name with
  | some v => pure (some v)
  | none => base name

def Static (env : Environment σ) : Prop :=
  ∃ values : String → Option Value, ∀ name s, (env name).run s = (values name, s)

end Environment

end RichText
