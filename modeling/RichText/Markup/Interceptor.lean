import RichText.Expr.Subscript

namespace RichText

variable {σ : Type}

inductive Decision where
  /-- No further interest in this node. -/
  | proceed
  /-- Wants to hear of the node again once it is done. -/
  | proceedThenAfter
  /-- The node is dropped. -/
  | veto
  deriving DecidableEq

/-- Observes the nodes below the one that carries it, that one included. -/
structure Interceptor (σ : Type) where
  label : String
  before : Node → Context σ → StateM σ Decision
  after : Node → Context σ → StateM σ Unit := fun _ _ => pure ()
  /-- The node was vetoed by an interceptor further out. -/
  skipped : Node → StateM σ Unit := fun _ => pure ()

namespace Interceptor

def finish (node : Node) (ctx : Context σ) : List (Interceptor σ) → StateM σ Unit
  | [] => pure ()
  | i :: pending => do
    i.after node ctx
    finish node ctx pending

def skipAll (node : Node) : List (Interceptor σ) → StateM σ Unit
  | [] => pure ()
  | i :: inner => do
    i.skipped node
    skipAll node inner

/-- Offers a node to interceptors from the outermost inwards. The answer lists, the innermost
first, those of `pending` and of them that are owed an after-call. After a veto it is `none`: those
further in are skipped and the after-calls are delivered at once. -/
def offer (node : Node) (ctx : Context σ) :
    List (Interceptor σ) → List (Interceptor σ) → StateM σ (Option (List (Interceptor σ)))
  | [], pending => pure (some pending)
  | i :: inner, pending => do
    match ← i.before node ctx with
    | .proceed => offer node ctx inner pending
    | .proceedThenAfter => offer node ctx inner (i :: pending)
    | .veto =>
      skipAll node inner
      finish node ctx pending
      return none

end Interceptor

structure InterceptorStack (σ : Type) where
  active : List (Interceptor σ) := []

namespace InterceptorStack

def height (s : InterceptorStack σ) : Nat := s.active.length

def register (s : InterceptorStack σ) (i : Interceptor σ) : InterceptorStack σ :=
  ⟨i :: s.active⟩

def unregisterTo (s : InterceptorStack σ) (height : Nat) : InterceptorStack σ :=
  ⟨s.active.drop (s.height - height)⟩

def offer (s : InterceptorStack σ) (node : Node) (ctx : Context σ) :
    StateM σ (Option (List (Interceptor σ))) :=
  Interceptor.offer node ctx s.active.reverse []

def describe (s : InterceptorStack σ) : String :=
  "[" ++ String.intercalate ", " (s.active.reverse.map (·.label)) ++ "]"

end InterceptorStack

end RichText
