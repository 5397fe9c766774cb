namespace RichText

/-- A set of text decorations, one bit for each. The three highest bits stand for no decoration, but
a set may have them. -/
structure Decoration where
  bits : BitVec 8
  deriving DecidableEq

namespace Decoration

def empty : Decoration := ⟨0⟩

def bold : Decoration := ⟨0b00001⟩

def italic : Decoration := ⟨0b00010⟩

def underlined : Decoration := ⟨0b00100⟩

def strikethrough : Decoration := ⟨0b01000⟩

def obfuscated : Decoration := ⟨0b10000⟩

def all : Decoration := ⟨0b11111⟩

def letters : List (Decoration × Char) :=
  [(bold, 'b'), (italic, 'i'), (underlined, 'u'), (strikethrough, 's'), (obfuscated, 'o')]

def flags : List Decoration := letters.map (·.1)

def ofCode? (c : Char) : Option Decoration :=
  (letters.find? (·.2 = c.toLower)).map (·.1)

instance : Union Decoration := ⟨fun s t => ⟨s.bits ||| t.bits⟩⟩

instance : Inter Decoration := ⟨fun s t => ⟨s.bits &&& t.bits⟩⟩

instance : SDiff Decoration := ⟨fun s t => ⟨s.bits &&& ~~~t.bits⟩⟩

def contains (s t : Decoration) : Bool := s ∩ t = t

def isEmpty (s : Decoration) : Bool := s = empty

def put (s flag : Decoration) (on : Bool) : Decoration := if on then s ∪ flag else s \ flag

/-! ### Bit by bit -/

def bit (s : Decoration) (i : Nat) : Bool := s.bits.getLsbD i

variable {s t flag : Decoration} {on : Bool} {i : Nat}

theorem ext_bit (h : ∀ i, s.bit i = t.bit i) : s = t := by
  have hbits : s.bits = t.bits := BitVec.eq_of_getLsbD_eq fun i _ => h i
  cases s
  cases t
  exact congrArg mk hbits

@[simp] theorem bit_empty : empty.bit i = false := BitVec.getLsbD_zero

@[simp] theorem bit_union : (s ∪ t).bit i = (s.bit i || t.bit i) := BitVec.getLsbD_or

@[simp] theorem bit_inter : (s ∩ t).bit i = (s.bit i && t.bit i) := BitVec.getLsbD_and

@[simp] theorem bit_sdiff : (s \ t).bit i = (s.bit i && !t.bit i) := by
  have hnot : (s \ t).bit i = (s.bit i && (decide (i < 8) && !t.bit i)) := by
    change (s.bits &&& ~~~t.bits).getLsbD i = _
    rw [BitVec.getLsbD_and, BitVec.getLsbD_not]
    rfl
  rw [hnot]
  by_cases hi : i < 8
  · rw [decide_eq_true hi, Bool.true_and]
  · have hs : s.bit i = false := BitVec.getLsbD_of_ge _ _ (Nat.le_of_not_lt hi)
    rw [hs, Bool.false_and, Bool.false_and]

@[simp] theorem bit_put : (s.put flag on).bit i = if flag.bit i then on else s.bit i := by
  unfold put
  cases on <;> cases h : flag.bit i <;> simp [h]

theorem contains_empty : empty.contains empty := rfl

theorem contains_iff : s.contains t ↔ ∀ i, t.bit i → s.bit i := by
  unfold contains
  rw [decide_eq_true_iff]
  constructor
  · intro h i hi
    rw [← h, bit_inter, Bool.and_eq_true] at hi
    exact hi.1
  · intro h
    refine ext_bit fun i => ?_
    rw [bit_inter]
    cases hi : t.bit i with
    | false => exact Bool.and_false _
    | true => rw [h i hi, Bool.true_and]

end Decoration

/-- For each decoration whether it is on, off, or inherited. -/
structure Decorations where
  /-- The bits that have a state at all. -/
  set : Decoration := .empty
  /-- Those of them that are on. -/
  on : Decoration := .empty
  normal : set.contains on := by exact Decoration.contains_empty
  deriving DecidableEq

namespace Decorations

open Decoration (contains_iff bit_put bit_union bit_inter bit_sdiff)

def isEmpty (d : Decorations) : Bool := d.set.isEmpty

/-- The state of a flag, or of several that all have one: on only if all of them are. -/
def get (d : Decorations) (flag : Decoration) : Option Bool :=
  if d.set.contains flag then some (d.on.contains flag) else none

def put (d : Decorations) (flag : Decoration) (on : Bool) : Decorations where
  set := d.set ∪ flag
  on := d.on.put flag on
  normal := contains_iff.2 fun i h => by
    rw [bit_put] at h
    rw [bit_union, Bool.or_eq_true]
    split at h
    · next hflag => exact .inr hflag
    · exact .inl (contains_iff.1 d.normal i h)

def enabled (d : Decorations) : Decoration := d.set ∩ d.on

/-- The flags that are off and not only inherited. -/
def disabled (d : Decorations) : Decoration := d.set \ d.on

def overlay (base top : Decorations) : Decorations where
  set := base.set ∪ top.set
  on := (base.on \ top.set) ∪ (top.on ∩ top.set)
  normal := contains_iff.2 fun i h => by
    rw [bit_union, bit_sdiff, bit_inter, Bool.or_eq_true, Bool.and_eq_true, Bool.and_eq_true] at h
    rw [bit_union, Bool.or_eq_true]
    exact h.imp (fun h => contains_iff.1 base.normal i h.1) (·.2)

/-- Adds the state that `d` gives a flag, unless `base` gives it the same. -/
def note (d base acc : Decorations) (flag : Decoration) : Decorations :=
  match d.get flag with
  | some on => if base.get flag = some on then acc else acc.put flag on
  | none => acc

def diff (d base : Decorations) : Decorations := Decoration.flags.foldl (d.note base) {}

end Decorations

end RichText
