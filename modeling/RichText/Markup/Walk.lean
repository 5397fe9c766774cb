import RichText.Markup.Interceptor
import RichText.Layout.Draft
import RichText.Scope.Basic
import RichText.Style.Delta
import RichText.Unicode.Lowercase
import RichText.Value.Fields

namespace RichText

inductive RenderError where
  /-- Two bindings of one node have the same name. -/
  | duplicateBinding (name : String)
  /-- Markup was spliced into markup deeper than the walk was allowed to follow. -/
  | spliceDepth
  deriving DecidableEq

def RenderError.message : RenderError → String
  | .duplicateBinding name => "duplicate let-binding \x60" ++ name ++ "\x60 on one node"
  | .spliceDepth => "markup spliced too deep"

structure Setting (σ κ : Type) where
  env : Environment σ
  coercion : Coercion
  fields : FieldTable σ
  interceptors : String → Interceptor σ
  factory : ComponentFactory κ
  slot : Slot

/-- `ω` is what the walk writes to. -/
structure WalkState (σ ω : Type) where
  host : σ
  scope : Scope := {}
  /-- The styles of the open styled nodes, the innermost first. -/
  styles : List Style := []
  interceptors : InterceptorStack σ := {}
  out : ω

/-- An error leaves the state as it was when it was raised. -/
abbrev Walk (σ ω : Type) := ExceptT RenderError (StateM (WalkState σ ω))

namespace Walk

variable {σ κ ω : Type}

/-- Runs `restore` after `body`, also when `body` fails. -/
def ensuring (body restore : Walk σ ω Unit) : Walk σ ω Unit :=
  tryCatch body (fun e => do restore; throw e) >>= fun _ => restore

def look {α : Type} (f : WalkState σ ω → α) : Walk σ ω α := do return f (← get)

variable (S : Setting σ κ)

def context (scope : Scope) : Context σ := ⟨scope.lookup S.env, S.coercion, S.fields.read⟩

def onHost {α : Type} (act : Context σ → StateM σ α) : Walk σ ω α :=
  modifyGet fun w =>
    let (a, host) := (act (context S w.scope)).run w.host
    (a, { w with host })

def eval (e : Expr) : Walk σ ω Value := onHost S e.eval

def truthy (e : Expr) : Walk σ ω Bool := do return S.coercion.asBool (← eval S e)

def isOpen : Option Expr → Walk σ ω Bool
  | none => pure true
  | some e => truthy S e

def onScope (f : Scope → Scope) : Walk σ ω Unit := modify fun w => { w with scope := f w.scope }

def onOut (f : ω → ω) : Walk σ ω Unit := modify fun w => { w with out := f w.out }

def onInterceptors (f : InterceptorStack σ → InterceptorStack σ) : Walk σ ω Unit :=
  modify fun w => { w with interceptors := f w.interceptors }

def onStyles (f : List Style → List Style) : Walk σ ω Unit :=
  modify fun w => { w with styles := f w.styles }

def currentStyle : Walk σ ω Style := look fun w => w.styles.headD S.slot.base

def pushAll (bindings : List (String × Value)) : Walk σ ω Unit :=
  onScope fun s => bindings.foldl (fun s b => s.push b.1 b.2) s

/-- The values of a node's bindings. None of them sees another. -/
def evalLets (seen : List String) : List (String × Expr) → Walk σ ω (List (String × Value))
  | [] => pure []
  | (name, e) :: rest => do
    if seen.contains name then throw (.duplicateBinding name)
    let v ← eval S e
    let vs ← evalLets (name :: seen) rest
    return (name, v) :: vs

def rebind (name : String) (v : Value) : List (String × Value) → List (String × Value)
  | [] => [(name, v)]
  | b :: bs => if b.1 = name then (name, v) :: bs else b :: rebind name v bs

/-- The values of a loop's own bindings, of which a later one replaces an earlier one. -/
def evalLoopLets (acc : List (String × Value)) :
    List (String × Expr) → Walk σ ω (List (String × Value))
  | [] => pure acc
  | (name, e) :: rest => do
    let v ← eval S e
    evalLoopLets (rebind name v acc) rest

def binding (bindings : List (String × Value)) (body : Walk σ ω Unit) : Walk σ ω Unit := do
  let height ← look fun w => w.scope.depth
  pushAll bindings
  ensuring body (onScope (·.rollback height))

def bound (lets : List (String × Expr)) (body : Walk σ ω Unit) : Walk σ ω Unit := do
  let bindings ← evalLets S [] lets
  binding bindings body

def styled (delta : Option StyleDelta) (body : Walk σ ω Unit) : Walk σ ω Unit := do
  match delta with
  | none => body
  | some d =>
    let parent ← currentStyle S
    let style ← onHost S fun ctx => d.apply ctx parent S.slot.base
    onStyles (style :: ·)
    ensuring body (onStyles List.tail)

def framed (opens : Bool) (body : Walk σ (Draft κ) Unit) : Walk σ (Draft κ) Unit := do
  if opens then
    onOut Draft.enter
    ensuring body (onOut Draft.exit)
  else body

/-- Inside a conditional chain the chain itself has asked for the predicate. -/
def passes (node : Node) (inChain : Bool) : Walk σ ω Bool :=
  if inChain then pure true else isOpen S node.attrs.ifCond

def register (node : Node) (s : InterceptorStack σ) : InterceptorStack σ :=
  match node.attrs.interceptor with
  | none => s
  | some name => s.register (S.interceptors name)

/-- `body` while a node's own interceptor is registered too. The node is offered to all that are
active, and unless it is vetoed those that are owed an after-call get it once `body` is done. -/
def attended (node : Node) (offer : Walk σ ω (Option (List (Interceptor σ))))
    (finish : List (Interceptor σ) → Walk σ ω Unit) (body : Walk σ ω Unit) : Walk σ ω Unit := do
  let height ← look fun w => w.interceptors.height
  onInterceptors (register S node)
  match ← offer with
  | none => onInterceptors (·.unregisterTo height)
  | some pending =>
    ensuring body do
      finish pending
      onInterceptors (·.unregisterTo height)

def offer (node : Node) : Walk σ ω (Option (List (Interceptor σ))) := do
  let active ← look fun w => w.interceptors
  onHost S fun ctx => active.offer node ctx

def finish (node : Node) (pending : List (Interceptor σ)) : Walk σ ω Unit :=
  onHost S fun ctx => Interceptor.finish node ctx pending

/-- All that a node puts around `body`, the walk of its content. -/
def surround (node : Node) (inChain : Bool) (body : Walk σ (Draft κ) Unit) :
    Walk σ (Draft κ) Unit := do
  if ← isOpen S node.attrs.useWhen then
    attended S node (offer S node) (finish S node) do
      if ← passes S node inChain then
        bound S node.attrs.lets
          (styled S node.attrs.style (framed node.content.opensFrame body))

/-- The parts of a walk that hang on what it writes to. -/
structure Visitor (σ κ ω : Type) where
  /-- All that a node puts around the walk of its content. -/
  around : Node → Bool → Walk σ ω Unit → Walk σ ω Unit
  write : Write κ → Walk σ ω Unit

def renderer : Visitor σ κ (Draft κ) where
  around := surround S
  write x := do
    let style ← currentStyle S
    onOut fun d => d.write S.factory S.slot style x

variable (V : Visitor σ κ ω)

def emit : Leaf → Walk σ ω Unit
  | .text s => V.write (.text s)
  | .keybind key => V.write (.component (S.factory.keybind key))
  | .translate key fallback args => do
    let vs ← onHost S fun ctx => Expr.evalList ctx args
    V.write <| .component <| S.factory.translate key fallback <|
      vs.map fun v => S.factory.text (S.coercion.asStr v)
  | .score name objective => V.write (.component (S.factory.score name objective))
  | .selector pattern separator =>
    V.write (.component (S.factory.selector pattern separator))
  | .data path source interpret separator =>
    V.write (.component (S.factory.data path source interpret separator))

def loopName : String := "loop"

def loopRecord (index count : Nat) : Value :=
  .ofEntries [("index", .int (.ofNat index)), ("isFirst", .bool (index == 0)),
    ("isLast", .bool (index + 1 == count)), ("isEven", .bool (index % 2 == 0)),
    ("isOdd", .bool (index % 2 == 1))]

/-- The frames of a loop, its variable's below that of the record. -/
def openLoop (var : Option String) (s : Scope) : Scope :=
  (var.elim s fun name => s.push name .null).push loopName .null

def closeLoop (var : Option String) (s : Scope) : Scope :=
  let s := (s.pop loopName).2
  var.elim s fun name => (s.pop name).2

/-- The record is set after the variable, so that it wins if both have one name. -/
def setRound (var : Option String) (item : Value) (index count : Nat) (s : Scope) : Scope :=
  (var.elim s fun name => s.update name item).update loopName (loopRecord index count)

/-- One round for each item, the separator between two rounds still in the scope of the first. -/
def rounds (head : LoopHead) (separator body : Walk σ ω Unit) (count : Nat) :
    Nat → List Value → Walk σ ω Unit
  | _, [] => pure ()
  | index, item :: items => do
    if 0 < index then separator
    onScope (setRound head.var item index count)
    let bindings ← evalLoopLets S [] head.lets
    binding bindings body
    rounds head separator body count (index + 1) items

def isReversed : Option Expr → Walk σ ω Bool
  | none => pure false
  | some e => truthy S e

def loop (head : LoopHead) (separator body : Walk σ ω Unit) : Walk σ ω Unit := do
  let items := S.coercion.asList (← eval S head.iterable)
  let backwards ← isReversed S head.reversed
  let items := if backwards then items.reverse else items
  onScope (openLoop head.var)
  ensuring (rounds S head separator body items.length 0 items) (onScope (closeLoop head.var))

def caseKey (s : String) : String := Unicode.lowercase s

variable (splice : Node → Walk σ ω Unit)

mutual

/-- Walks a node, with `splice` for markup that an interpolation brings in. -/
def visitWith : Node → Bool → Walk σ ω Unit
  | .mk attrs content, inChain => V.around (.mk attrs content) inChain (dispatch content)

def dispatch : Content → Walk σ ω Unit
  | .container children => visitAll children
  | .chain branches fallback => visitBranches branches (visitOption fallback true)
  | .matching input cases fallback => do
    let v ← eval S input
    if v.isNull then visitOption fallback false
    else visitCases (caseKey (S.coercion.asStr v)) cases (visitOption fallback false)
  | .loop head separator body => loop S head (visitOption separator false) (visitAll body)
  | .lineBreak => V.write .lineBreak
  | .interpolation e => do
    match ← eval S e with
    | .markup _ _ node => splice node
    | v => V.write (.text (S.coercion.asStr v))
  | .leaf l => emit S V l

def visitAll : List Node → Walk σ ω Unit
  | [] => pure ()
  | node :: nodes => do
    visitWith node false
    visitAll nodes

def visitOption : Option Node → Bool → Walk σ ω Unit
  | none, _ => pure ()
  | some node, inChain => visitWith node inChain

def visitBranches : List Node → Walk σ ω Unit → Walk σ ω Unit
  | [], otherwise => otherwise
  | node :: nodes, otherwise => do
    if ← isOpen S node.attrs.ifCond then visitWith node true else visitBranches nodes otherwise

def visitCases (key : String) : List (String × Node) → Walk σ ω Unit → Walk σ ω Unit
  | [], otherwise => otherwise
  | (label, node) :: cases, otherwise =>
    if caseKey label = key then visitWith node false else visitCases key cases otherwise

end

/-- Walks a node, following spliced markup at most `depth` levels down. -/
def visit : Nat → Node → Bool → Walk σ ω Unit
  | 0 => visitWith S V fun _ => throw .spliceDepth
  | depth + 1 => visitWith S V fun node => visit depth node false

def render (depth : Nat) (root : Node) (host : σ) : Except RenderError (List κ) × σ :=
  let (result, w) := ((visit S (renderer S) depth root false).run).run { host, out := {} }
  (result.map fun _ => w.out.finish S.factory S.slot, w.host)

end Walk

end RichText
