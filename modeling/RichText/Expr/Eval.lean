import RichText.Expr.Arithmetic
import RichText.Expr.Subscript

namespace RichText

variable {σ : Type}

def maxRangeLength : Nat := 65536

/-- At most `n` integers from `a` to `b`, both included. None is counted past `b`. -/
def countUp : Nat → Int64 → Int64 → List Int64
  | 0, _, _ => []
  | n + 1, a, b => if a < b then a :: countUp n (a + 1) b else if a = b then [a] else []

/-- The integers from `a` to `b`, both included, and none unless `a` is the smaller. -/
def rangeItems (a b : Int64) : List Value :=
  if b ≤ a then []
  else
    let span := b.toInt - a.toInt + 1
    let len := if span > maxRangeLength then maxRangeLength else span.toNat
    (countUp len a b).map .int

def equalOrAbsent (l r : Value) : Bool := l.isNull || r.isNull || l == r

def Op.combine (cx : Coercion) (op : Op) (l r : Value) : Value :=
  let ordered (o : Ordering) : Bool := (cx.asNumber l).order (cx.asNumber r) == some o
  match op with
  | .add | .sub | .mul | .div | .rem | .pow => (cx.asNumber l).arith op (cx.asNumber r)
  | .concat => .str (cx.asStr l ++ cx.asStr r)
  | .eq => .bool (l == r)
  | .ne => .bool !(l == r)
  | .lt => .bool (ordered .lt)
  | .gt => .bool (ordered .gt)
  | .le => .bool (equalOrAbsent l r || ordered .lt)
  | .ge => .bool (equalOrAbsent l r || ordered .gt)
  | .and => .bool (cx.asBool l && cx.asBool r)
  | .or => .bool (cx.asBool l || cx.asBool r)
  | .coalesce => if l.isNull then r else l
  | .range => .list (rangeItems (cx.asInt l) (cx.asInt r))
  | .member | .not | .neg => .null

def Op.apply (ctx : Context σ) (op : Op) (l r : Value) : StateM σ Value :=
  match op with
  | .member => ctx.subscript l r
  | op => pure (op.combine ctx.coercion l r)

def Op.applyUnary (ctx : Context σ) (op : Op) (v : Value) : Value :=
  match op with
  | .not => if v.isNull then .null else .bool !(ctx.coercion.asBool v)
  | .neg =>
    match ctx.coercion.asNumber v with
    | .int n => .int (-n)
    | .float x => .float (-x)
  | _ => .null

def Atom.eval (ctx : Context σ) : Atom → StateM σ Value
  | .null => pure .null
  | .int n => pure (.int n)
  | .float x => pure (.float x)
  | .bool b => pure (.bool b)
  | .str s => pure (.str s)
  | .ident name => do return (← ctx.var name).getD .null

namespace Expr

def fieldName? : Expr → Option String
  | .atom (.ident name) => some name
  | _ => none

mutual

/-- Operands are evaluated from left to right, both of them also for the logical operators. Only a
conditional and `??` leave one out. -/
def eval (ctx : Context σ) : Expr → StateM σ Value
  | .atom a => a.eval ctx
  | .unary op e => do return op.applyUnary ctx (← eval ctx e)
  | .binary .coalesce l r => do
    let v ← eval ctx l
    if v.isNull then eval ctx r else return v
  | .binary .member l r => do
    let target ← eval ctx l
    match r.fieldName? with
    | some name => ctx.subscript target (.str name)
    | none => ctx.subscript target (← eval ctx r)
  | .binary op l r => do
    let a ← eval ctx l
    let b ← eval ctx r
    op.apply ctx a b
  | .subscript target key => do
    let t ← eval ctx target
    let k ← eval ctx key
    ctx.subscript t k
  | .cond test yes no => do
    let c ← eval ctx test
    if ctx.coercion.asBool c then eval ctx yes else eval ctx no
  | .substring text lower upper => do
    let s ← eval ctx text
    let lo ← evalOption ctx lower
    let hi ← evalOption ctx upper
    return .str (substringOf (ctx.coercion.asStr s) (lo.map ctx.coercion.asInt)
      (hi.map ctx.coercion.asInt))
  | .array items => do return .list (← evalList ctx items)

def evalOption (ctx : Context σ) : Option Expr → StateM σ (Option Value)
  | none => pure none
  | some e => some <$> eval ctx e

def evalList (ctx : Context σ) : List Expr → StateM σ (List Value)
  | [] => pure []
  | e :: es => do
    let v ← eval ctx e
    let vs ← evalList ctx es
    return v :: vs

end

def evaluate (env : Environment σ) (e : Expr) : StateM σ Value :=
  e.eval { var := env }

end Expr

end RichText
