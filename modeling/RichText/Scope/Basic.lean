import RichText.Scope.Bindings

namespace RichText

/-- Local variables, the newest first. The frames of one name are a stack of their own. -/
structure Scope where
  frames : List (String × Value) := []

namespace Scope

variable {σ : Type}

def push (s : Scope) (name : String) (v : Value) : Scope := ⟨(name, v) :: s.frames⟩

def find? (s : Scope) (name : String) : Option Value := s.frames.lookup name

def isShadowed (s : Scope) (name : String) : Bool := s.frames.any (·.1 == name)

def depth (s : Scope) : Nat := s.frames.length

def replaceNewest (name : String) (v : Value) : List (String × Value) → List (String × Value)
  | [] => []
  | f :: fs => if f.1 == name then (name, v) :: fs else f :: replaceNewest name v fs

def update (s : Scope) (name : String) (v : Value) : Scope :=
  if s.isShadowed name then ⟨replaceNewest name v s.frames⟩ else s.push name v

/-- Takes away the newest frame of `name`, wherever it stands. -/
def pop (s : Scope) (name : String) : Option Value × Scope :=
  (s.find? name, ⟨s.frames.eraseP (·.1 == name)⟩)

def rollback (s : Scope) (height : Nat) : Scope := ⟨s.frames.drop (s.depth - height)⟩

/-- A name without a frame is looked up in `base`. -/
def lookup (base : Environment σ) (s : Scope) : Environment σ := fun name =>
  match s.find? name with
  | some v => pure (some v)
  | none => base name

end Scope

end RichText
