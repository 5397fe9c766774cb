import RichText.Value.Basic

namespace RichText

inductive AccessError where
  | typeMismatch (expected : String)
  | unavailable (field message : String)
  deriving DecidableEq

def AccessError.message : AccessError → String
  | .typeMismatch expected =>
    "accessor registered for \x60" ++ expected ++ "\x60 received another type"
  | .unavailable field message => "field \x60" ++ field ++ "\x60 unavailable: " ++ message

variable {σ : Type}

/-- Reading a field may change the state `σ` of the host that has the object. -/
abbrev FieldReader (σ : Type) := Value → StateM σ (Except AccessError Value)

/-- The type of a host object. Markup is of a type of its own. -/
inductive HostType where
  | named (name : String)
  | markup
  deriving DecidableEq

def Value.hostType? : Value → Option HostType
  | .object _ type _ _ => some (.named type)
  | .markup .. => some .markup
  | _ => none

structure FieldTable (σ : Type) where
  named : Keyed (Keyed (FieldReader σ)) := []
  markup : Keyed (FieldReader σ) := []

namespace FieldTable

def readers (t : FieldTable σ) : HostType → Keyed (FieldReader σ)
  | .named name => (t.named.get? name).getD []
  | .markup => t.markup

def reader? (t : FieldTable σ) (type : HostType) (field : String) : Option (FieldReader σ) :=
  (t.readers type).get? field

def register (t : FieldTable σ) (type : HostType) (field : String) (read : FieldReader σ) :
    FieldTable σ :=
  let readers := (t.readers type).insert field read
  match type with
  | .named name => { t with named := t.named.insert name readers }
  | .markup => { t with markup := readers }

def contains (t : FieldTable σ) (type : HostType) (field : String) : Bool :=
  (t.reader? type field).isSome

def size (t : FieldTable σ) : Nat := t.named.length + if t.markup.isEmpty then 0 else 1

/-- A field without a reader is null, and so is one whose reader fails. -/
def read (t : FieldTable σ) (target : Value) (field : String) : StateM σ Value :=
  match target.hostType?.bind fun type => t.reader? type field with
  | some read => do return (← read target).toOption.getD .null
  | none => pure .null

def Static (t : FieldTable σ) : Prop :=
  ∃ values : Value → String → Value, ∀ target field s,
    (t.read target field).run s = (values target field, s)

@[simp] theorem read_empty (target : Value) (field : String) :
    ({} : FieldTable σ).read target field = pure .null := by
  unfold read
  cases target <;> rfl

theorem static_empty : ({} : FieldTable σ).Static :=
  ⟨fun _ _ => .null, fun target field _ => by rw [read_empty]; rfl⟩

end FieldTable

end RichText
