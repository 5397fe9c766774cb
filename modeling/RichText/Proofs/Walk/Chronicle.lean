import RichText.Proofs.Walk.Restoration

namespace RichText

structure Layer where
  reset : Bool
  own : Style

/-- The style in which a node is shown whose layers are `path`, the innermost first. -/
def Layer.resolve (base : Style) : List Layer → Style
  | [] => base
  | l :: path => (if l.reset then base else resolve base path).merge l.own

/-- What an observer sees of a walk. -/
inductive Event (σ κ : Type) where
  /-- An open use-gate begins a visit. -/
  | useGate (node : Node) (opened : Bool)
  | before (i : Interceptor σ) (node : Node) (ctx : Context σ) (answer : Decision)
  | skipped (i : Interceptor σ) (node : Node)
  | ifGate (node : Node) (passed : Bool)
  | wrote (path : List Layer) (x : Write κ)
  | after (i : Interceptor σ) (node : Node) (ctx : Context σ)
  /-- Ends the visit that the last open use-gate began. -/
  | left (node : Node)

/-- Whom an event tells of a node, and of which. -/
def Event.notice {σ κ : Type} : Event σ κ → Option (Interceptor σ × Node)
  | .before i node _ _ | .skipped i node | .after i node _ => some (i, node)
  | .useGate .. | .ifGate .. | .wrote .. | .left .. => none

structure Journal (σ κ : Type) where
  /-- The layers of the open nodes, the innermost first. -/
  path : List Layer := []
  events : List (Event σ κ) := []

namespace Journal

variable {σ κ : Type}

def log (j : Journal σ κ) (es : List (Event σ κ)) : Journal σ κ :=
  { j with events := j.events ++ es }

@[simp] theorem events_log (j : Journal σ κ) (es : List (Event σ κ)) :
    (j.log es).events = j.events ++ es := rfl

@[simp] theorem log_nil (j : Journal σ κ) : j.log [] = j := by
  simp [log]

@[simp] theorem log_log (j : Journal σ κ) (es es' : List (Event σ κ)) :
    (j.log es).log es' = j.log (es ++ es') := by
  simp [log]

end Journal

namespace Walk

variable {σ κ α : Type} (S : Setting σ κ)

def note (e : Event σ κ) : Walk σ (Journal σ κ) Unit := onOut (Journal.log · [e])

def noted (act : Context σ → StateM σ α) (e : Context σ → α → Event σ κ) :
    Walk σ (Journal σ κ) α := do
  let ctx ← look fun w => context S w.scope
  let a ← onHost S act
  note (e ctx a)
  return a

def deliver (node : Node) : List (Interceptor σ) → Walk σ (Journal σ κ) Unit
  | [] => pure ()
  | i :: pending => do
    noted S (i.after node) fun ctx _ => .after i node ctx
    deliver node pending

def passOver (node : Node) : List (Interceptor σ) → Walk σ (Journal σ κ) Unit
  | [] => pure ()
  | i :: inner => do
    noted S (fun _ => i.skipped node) fun _ _ => .skipped i node
    passOver node inner

/-- Offers a node to interceptors as a render does. -/
def heed (node : Node) : List (Interceptor σ) → List (Interceptor σ) →
    Walk σ (Journal σ κ) (Option (List (Interceptor σ)))
  | [], pending => pure (some pending)
  | i :: inner, pending => do
    match ← noted S (i.before node) fun ctx answer => .before i node ctx answer with
    | .proceed => heed node inner pending
    | .proceedThenAfter => heed node inner (i :: pending)
    | .veto =>
      passOver S node inner
      deliver S node pending
      return none

def heedAll (node : Node) : Walk σ (Journal σ κ) (Option (List (Interceptor σ))) := do
  let active ← look fun w => w.interceptors.active.reverse
  heed S node active []

def layered (delta : Option StyleDelta) (body : Walk σ (Journal σ κ) Unit) :
    Walk σ (Journal σ κ) Unit := do
  match delta with
  | none => body
  | some d =>
    let own ← onHost S d.evaluate
    onOut fun j => { j with path := ⟨d.reset, own⟩ :: j.path }
    ensuring body (onOut fun j => { j with path := j.path.tail })

/-- What is between the offering of a node and the after-calls. -/
def entered (node : Node) (inChain : Bool) (body : Walk σ (Journal σ κ) Unit) :
    Walk σ (Journal σ κ) Unit := do
  let passed ← passes S node inChain
  note (.ifGate node passed)
  if passed then bound S node.attrs.lets (layered S node.attrs.style body)

def observed (node : Node) (inChain : Bool) (body : Walk σ (Journal σ κ) Unit) :
    Walk σ (Journal σ κ) Unit := do
  let opened ← isOpen S node.attrs.useWhen
  note (.useGate node opened)
  if opened then
    ensuring (attended S node (heedAll S node) (deliver S node) (entered S node inChain body))
      (note (.left node))

/-- Walks as a render does, and keeps a journal instead of a draft. -/
def chronicler : Visitor σ κ (Journal σ κ) where
  around := observed S
  write x := onOut fun j => j.log [.wrote j.path x]

def chronicle (depth : Nat) (root : Node) (host : σ) :
    Except RenderError Unit × WalkState σ (Journal σ κ) :=
  exec (visit S (chronicler S) depth root false) { host, out := {} }

theorem exec_noted (act : Context σ → StateM σ α) (e : Context σ → α → Event σ κ)
    (v : WalkState σ (Journal σ κ)) :
    ∃ a host, ((act (context S v.scope)).run v.host).1 = a ∧ exec (noted S act e) v =
      (.ok a, { v with host, out := v.out.log [e (context S v.scope) a] }) := ⟨_, _, rfl, rfl⟩

theorem total_note (e : Event σ κ) : Total (note e) := Total.onOut _

theorem exec_ensuring_note (body : Walk σ (Journal σ κ) Unit) (e : Event σ κ)
    (v : WalkState σ (Journal σ κ)) :
    exec (ensuring body (note e)) v =
      ((exec body v).1, { after body v with out := (after body v).out.log [e] }) :=
  Prod.ext ((total_note e).result_ensuring body v) (after_ensuring body (note e) v)

end Walk

end RichText
