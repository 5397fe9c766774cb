import RichText.Proofs.Walk.Propagation

namespace RichText.Walk

variable {σ κ : Type} (S : Setting σ κ)

def carried (node : Node) : List (Interceptor σ) :=
  (node.attrs.interceptor.map S.interceptors).toList

/-- The interceptors that are active while some visits are open, the outermost first. The nodes of
the visits are given from the innermost. -/
def activeIn (visits : List Node) : List (Interceptor σ) := (visits.flatMap (carried S)).reverse

/-- From the state `v` the use-gate of a node opens, and the node is offered to all interceptors
that are active then. That is noted down in `offered`, and the state is `u`. -/
inductive Offered (visits : List Node) (node : Node) (v : WalkState σ (Journal σ κ)) :
    List (Event σ κ) → Option (List (Interceptor σ)) → WalkState σ (Journal σ κ) → Prop where
  | mk {opened u : WalkState σ (Journal σ κ)} {offered : List (Event σ κ)}
    {answer : Option (List (Interceptor σ))}
    (hopen : exec (isOpen S node.attrs.useWhen) v = (.ok true, opened))
    (hoffer : exec (heedAll S node) { opened with
        interceptors := register S node opened.interceptors
        out := opened.out.log [.useGate node true] } = (.ok answer, u))
    (hlog : u.out.events = v.out.events ++ .useGate node true :: offered)
    (ho : Offering node (context S v.scope) [] (activeIn S (node :: visits)) offered answer) :
    Offered visits node v offered answer u

/-- The layers below a style that is evaluated in the state `w`, if `path` are those above it. -/
inductive Layered (path : List Layer) (w : WalkState σ (Journal σ κ)) :
    Option StyleDelta → List Layer → Prop where
  | unstyled : Layered path w none path
  | styled (d : StyleDelta) :
    Layered path w (some d) (⟨d.reset, ((d.evaluate (context S w.scope)).run w.host).1⟩ :: path)

mutual

/-- The events of a visit of a node from the state `v`, with the visits that are open around it and
the layers above it. -/
inductive Visit : Nat → List Node → List Layer → WalkState σ (Journal σ κ) → Node → Bool →
    List (Event σ κ) → Prop where
  | shut {depth : Nat} {visits : List Node} {path : List Layer} {v u : WalkState σ (Journal σ κ)}
    {node : Node} {inChain : Bool} (hg : exec (isOpen S node.attrs.useWhen) v = (.ok false, u)) :
    Visit depth visits path v node inChain [.useGate node false]
  | vetoed {depth : Nat} {visits : List Node} {path : List Layer} {v u : WalkState σ (Journal σ κ)}
    {node : Node} {inChain : Bool} {offered : List (Event σ κ)}
    (ho : Offered S visits node v offered none u) :
    Visit depth visits path v node inChain (.useGate node true :: (offered ++ [.left node]))
  | accepted {depth : Nat} {visits : List Node} {path : List Layer}
    {v u : WalkState σ (Journal σ κ)} {node : Node} {inChain : Bool}
    {pending : List (Interceptor σ)} {offered nested : List (Event σ κ)}
    (ho : Offered S visits node v offered (some pending) u)
    (he : Entry depth (node :: visits) path u node inChain nested) :
    Visit depth visits path v node inChain (.useGate node true ::
      (offered ++ nested ++ afters node (context S v.scope) pending ++ [.left node]))

/-- The events between the offering of a node and the after-calls. -/
inductive Entry : Nat → List Node → List Layer → WalkState σ (Journal σ κ) → Node → Bool →
    List (Event σ κ) → Prop where
  | gated {depth : Nat} {visits : List Node} {path : List Layer} {v u : WalkState σ (Journal σ κ)}
    {node : Node} {inChain : Bool} (hg : exec (passes S node inChain) v = (.ok false, u)) :
    Entry depth visits path v node inChain [.ifGate node false]
  | failed {depth : Nat} {visits : List Node} {path : List Layer} {v u : WalkState σ (Journal σ κ)}
    {node : Node} {inChain : Bool} {e : RenderError}
    (hg : exec (passes S node inChain) v = (.ok true, u))
    (hb : (exec (beginBody S node) { u with out := u.out.log [.ifGate node true] }).1 = .error e) :
    Entry depth visits path v node inChain [.ifGate node true]
  | passed {depth : Nat} {visits : List Node} {path path' : List Layer}
    {v u b w : WalkState σ (Journal σ κ)} {node : Node} {inChain : Bool} {es : List (Event σ κ)}
    (hg : exec (passes S node inChain) v = (.ok true, u))
    (hb : exec (evalLets S [] node.attrs.lets >>= pushAll)
      { u with out := u.out.log [.ifGate node true] } = (.ok (), b))
    (hp : Layered S path b node.attrs.style path')
    (hs : exec (addLayer S node.attrs.style) b = (.ok (), w))
    (h : Contents depth visits path' w node.content es)
    (hall : (after (dispatch S (chronicler S) (splicer S depth) node.content) w).out.events =
      w.out.events ++ es) :
    Entry depth visits path v node inChain (.ifGate node true :: es)

/-- The first events of the walk of a content from the state `w`. A part is visited where the walk
comes to it, after the events that have been noted down by then, and markup is spliced in that the
expression comes to in the state `w`. -/
inductive Contents : Nat → List Node → List Layer → WalkState σ (Journal σ κ) → Content →
    List (Event σ κ) → Prop where
  | nil {depth : Nat} {visits : List Node} {path : List Layer} {w : WalkState σ (Journal σ κ)}
    {content : Content} : Contents depth visits path w content []
  | wrote {depth : Nat} {visits : List Node} {path : List Layer} {w : WalkState σ (Journal σ κ)}
    {content : Content} {es : List (Event σ κ)} {x : Write κ}
    (h : Contents depth visits path w content es) (hx : Emitted S x) :
    Contents depth visits path w content (es ++ [.wrote path x])
  | part {depth : Nat} {visits : List Node} {path : List Layer} {w v : WalkState σ (Journal σ κ)}
    {content : Content} {part : Node} {inPart : Bool} {es es' : List (Event σ κ)}
    (h : Contents depth visits path w content es)
    (hc : Comes S (splicer S depth) content w part inPart v)
    (hlog : v.out.events = w.out.events ++ es)
    (hv : Visit depth visits path v part inPart es') :
    Contents depth visits path w content (es ++ es')
  | spliced {depth : Nat} {visits : List Node} {path : List Layer}
    {w v : WalkState σ (Journal σ κ)} {e : Expr} {id : Nat} {display : String} {markup : Node}
    {es : List (Event σ κ)} (he : exec (eval S e) w = (.ok (.markup id display markup), v))
    (hv : Visit depth visits path v markup false es) :
    Contents (depth + 1) visits path w (.interpolation e) es

end

variable {S}

theorem Offered.offering {visits : List Node} {node : Node} {v u : WalkState σ (Journal σ κ)}
    {offered : List (Event σ κ)} {answer : Option (List (Interceptor σ))}
    (h : Offered S visits node v offered answer u) :
    Offering node (context S v.scope) [] (activeIn S (node :: visits)) offered answer := by
  obtain ⟨-, -, -, ho⟩ := h
  exact ho

/-- A property of events that holds of all that a visit is put together from. -/
structure Closed (S : Setting σ κ) (P : List (Event σ κ) → Prop) : Prop where
  nil : P []
  append : ∀ {es es'}, P es → P es' → P (es ++ es')
  useGate : ∀ node opened, P [.useGate node opened]
  ifGate : ∀ node passed, P [.ifGate node passed]
  wrote : ∀ path {x}, Emitted S x → P [.wrote path x]
  left : ∀ node, P [.left node]
  vetoed : ∀ {node scope active offered},
    Offering node (context S scope) [] active offered none → P offered
  accepted : ∀ {node scope active pending offered nested},
    Offering node (context S scope) [] active offered (some pending) → P nested →
    P (offered ++ nested ++ afters node (context S scope) pending)

mutual

theorem Visit.closed {P : List (Event σ κ) → Prop} (hP : Closed S P) {depth : Nat}
    {visits : List Node} {path : List Layer} {v : WalkState σ (Journal σ κ)} {node : Node}
    {inChain : Bool} {es : List (Event σ κ)} :
    Visit S depth visits path v node inChain es → P es
  | .shut _ => hP.useGate _ _
  | .vetoed ho => hP.append (hP.useGate _ _) (hP.append (hP.vetoed ho.offering) (hP.left _))
  | .accepted ho he => hP.append (hP.useGate _ _)
      (hP.append (hP.accepted ho.offering (he.closed hP)) (hP.left _))

theorem Entry.closed {P : List (Event σ κ) → Prop} (hP : Closed S P) {depth : Nat}
    {visits : List Node} {path : List Layer} {v : WalkState σ (Journal σ κ)} {node : Node}
    {inChain : Bool} {es : List (Event σ κ)} :
    Entry S depth visits path v node inChain es → P es
  | .gated _ => hP.ifGate _ _
  | .failed _ _ => hP.ifGate _ _
  | .passed _ _ _ _ h _ => hP.append (hP.ifGate _ _) (h.closed hP)

theorem Contents.closed {P : List (Event σ κ) → Prop} (hP : Closed S P) {depth : Nat}
    {visits : List Node} {path : List Layer} {w : WalkState σ (Journal σ κ)} {content : Content}
    {es : List (Event σ κ)} : Contents S depth visits path w content es → P es
  | .nil => hP.nil
  | .wrote h hx => hP.append (h.closed hP) (hP.wrote _ hx)
  | .part h _ _ hv => hP.append (h.closed hP) (hv.closed hP)
  | .spliced _ hv => hv.closed hP

end

end RichText.Walk
