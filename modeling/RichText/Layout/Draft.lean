import RichText.Layout.Basic
import RichText.Component.Basic

namespace RichText

structure Draft (κ : Type) where
  /-- The innermost open frame. -/
  inner : Frame κ := []
  /-- The frames around it, the nearest first. -/
  outer : List (Frame κ) := []
  /-- Finished entries, the last first. -/
  entries : List κ := []

namespace Draft

variable {κ : Type}

/-- The number of open frames. The root is one of them and stays open. -/
def depth (d : Draft κ) : Nat := d.outer.length + 1

def enter (d : Draft κ) : Draft κ := { d with inner := [], outer := d.inner :: d.outer }

/-- Closes the innermost frame into the one around it. At the root there is nothing to close. -/
def exit (d : Draft κ) : Draft κ :=
  match d.outer with
  | [] => d
  | parent :: rest => { d with inner := parent.splice d.inner, outer := rest }

def push (d : Draft κ) (style : Style) (p : Piece κ) : Draft κ :=
  { d with inner := d.inner.push style p }

def pushText (d : Draft κ) (style : Style) (s : String) : Draft κ :=
  if s = "" then d else d.push style (.text s)

def pushComponent (d : Draft κ) (style : Style) (c : κ) : Draft κ := d.push style (.component c)

def exitAll (d : Draft κ) : Draft κ := Nat.repeat exit (d.depth - 1) d

variable (factory : ComponentFactory κ) (slot : Slot)

def ofPiece : Piece κ → κ
  | .text s => factory.text s
  | .component c => c

/-- The component of a run. A single piece carries the style itself, several are put into an empty
text that does. -/
def ofRun (r : Run κ) : κ :=
  let component := match r.pieces.reverse.map (ofPiece factory) with
    | [c] => c
    | cs => factory.append cs (factory.text "")
  factory.applyStyle (r.style.diff slot.base) component

/-- The entry of a frame: an empty text in the slot's base style with the runs as its children. -/
def ofFrame (f : Frame κ) : κ :=
  let root := factory.applyStyle slot.base (factory.text "")
  match f.reverse.map (ofRun factory slot) with
  | [] => root
  | children => factory.append children root

def flush (d : Draft κ) : Draft κ :=
  { d with inner := [], entries := ofFrame factory slot d.inner :: d.entries }

/-- Ends an entry. All frames are closed for it, and as many opened again. -/
def paragraph (d : Draft κ) : Draft κ :=
  Nat.repeat enter (d.depth - 1) (d.exitAll.flush factory slot)

def lineBreak (d : Draft κ) (style : Style) : Draft κ :=
  match slot.lineBreak with
  | some s => d.pushText style s
  | none => d.paragraph factory slot

def write (style : Style) (x : Write κ) (d : Draft κ) : Draft κ :=
  match x with
  | .text s => d.pushText style s
  | .component c => d.pushComponent style c
  | .lineBreak => d.lineBreak factory slot style

/-- The entries in order. There is always one, and one without content ends the list only if it is
alone. -/
def finish (d : Draft κ) : List κ :=
  let d := d.exitAll
  let d := if d.inner ≠ [] ∨ d.entries = [] then d.flush factory slot else d
  d.entries.reverse

end Draft

end RichText
