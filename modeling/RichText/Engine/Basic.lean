import RichText.Directive.Config
import RichText.Markup.Walk
import RichText.Text.Basic
import RichText.Text.Service

namespace RichText

structure Engine (σ : Type) where
  coercion : Coercion := {}
  fields : FieldTable σ := {}
  slots : Keyed Slot := Keyed.ofList [(Slot.chat.name, Slot.chat), (Slot.lore.name, Slot.lore)]
  globals : Bindings σ := {}
  patterns : PatternCache Pattern.Compiled := {}

namespace Engine

variable {σ κ : Type}

def defineSlot (e : Engine σ) (slot : Slot) : Engine σ :=
  { e with slots := e.slots.insert slot.name slot }

/-- The built-in slots with those of a configuration over them, and its bindings. -/
def ofConfig (c : Config) : Engine σ :=
  let e := c.slots.foldl defineSlot ({} : Engine σ)
  { e with globals := c.vars.foldl (fun b v => b.set v.1 (.stored v.2)) e.globals }

def fallbackName : String := "chat"

def slotFor (e : Engine σ) (name : String) : Slot :=
  ((e.slots.get? name).or (e.slots.get? fallbackName)).getD .chat

def spliceDepth : Nat := 10000

/-- Renders a tree into a slot. The names of `env` go before the global ones. -/
def render (e : Engine σ) (factory : ComponentFactory κ)
    (interceptors : String → Interceptor σ) (root : Node) (env : Environment σ) (slot : String)
    (host : σ) : Except RenderError (List κ) × σ :=
  Walk.render
    { env := env.layered e.globals.lookup, coercion := e.coercion, fields := e.fields,
      interceptors, factory, slot := e.slotFor slot }
    spliceDepth root host

end Engine

def Bindings.describe {σ : Type} (b : Bindings σ) : String :=
  "Bindings \x7b names: " ++ quotedList b.vars.keys ++ " \x7d"

def FieldTable.describe {σ : Type} (t : FieldTable σ) : String :=
  "FieldAccessors \x7b types: " ++ toString t.size ++ " \x7d"

def Engine.describe {σ : Type} (e : Engine σ) : String :=
  "Engine \x7b slots: " ++ quotedList e.slots.keys ++ ", globals: " ++ e.globals.describe ++
    ", accessors: " ++ e.fields.describe ++ ", .. \x7d"

end RichText
