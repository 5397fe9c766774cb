import RichText.Expr.Eval
import RichText.Style.Color

namespace RichText

variable {σ : Type}

/-- An integer is packed as `0xRRGGBB`, any other value is read as text. -/
def Color.ofValue? (coercion : Coercion) : Value → Option Color
  | .null => none
  | .int n => if 0 ≤ n ∧ n.toInt < 0x100000000 then some (ofRgb (.ofNat n.toInt.toNat)) else none
  | v => parse (coercion.asStr v)

def alphaOf (opacity : Float) : UInt8 :=
  let x := if opacity < 0 then 0 else if 1 < opacity then 1 else opacity
  (x * 255.0).round.toUInt8

namespace StyleDelta

def evalString (ctx : Context σ) (e : Expr) : StateM σ String :=
  ctx.coercion.asStr <$> e.eval ctx

def evalStringField (ctx : Context σ) : Option Expr → StateM σ (Option String)
  | none => pure none
  | some e => some <$> evalString ctx e

def evalColor (ctx : Context σ) : Option Expr → StateM σ (Option Color)
  | none => pure none
  | some e => Color.ofValue? ctx.coercion <$> e.eval ctx

/-- The opacity is evaluated only if there is a shadow colour to apply it to. -/
def evalShadow (ctx : Context σ) (d : StyleDelta) : StateM σ (Option Color) := do
  match ← evalColor ctx d.shadow with
  | none => return none
  | some color =>
    match d.opacity with
    | none => return some (color.withAlpha (alphaOf 1))
    | some e => return some (color.withAlpha (alphaOf (ctx.coercion.asFloat (← e.eval ctx))))

def evalDecorations (ctx : Context σ) :
    List (Decoration × Expr) → Decorations → StateM σ Decorations
  | [], acc => pure acc
  | (flag, e) :: rest, acc => do
    let v ← e.eval ctx
    evalDecorations ctx rest (acc.put flag (ctx.coercion.asBool v))

def evalClick (ctx : Context σ) : Option (ClickAction × Expr) → StateM σ (Option ClickEvent)
  | none => pure none
  | some (action, e) => do return some ⟨action, ← evalString ctx e⟩

/-- Evaluates every field, the shadow and the decorations before the rest. -/
def evaluate (ctx : Context σ) (d : StyleDelta) : StateM σ Style := do
  let shadow ← evalShadow ctx d
  let decorations ← evalDecorations ctx d.decorations {}
  let color ← evalColor ctx d.color
  let font ← evalStringField ctx d.font
  let click ← evalClick ctx d.click
  let hover ← evalStringField ctx d.hover
  let insertion ← evalStringField ctx d.insertion
  return { color, shadow, font, decorations, click, hover, insertion }

def apply (ctx : Context σ) (d : StyleDelta) (parent root : Style) : StateM σ Style := do
  let own ← d.evaluate ctx
  return (if d.reset then root else parent).merge own

end StyleDelta

end RichText
