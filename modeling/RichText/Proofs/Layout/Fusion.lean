import Mathlib.Data.List.Basic
import RichText.Layout.Draft

namespace RichText

variable {κ : Type}

namespace Run

@[simp] theorem style_push (r : Run κ) (p : Piece κ) : (r.push p).style = r.style := by
  unfold push
  split <;> rfl

theorem push_text_text (r : Run κ) (s t : String) :
    (r.push (.text s)).push (.text t) = r.push (.text (s ++ t)) := by
  obtain ⟨style, pieces⟩ := r
  cases pieces with
  | nil => rfl
  | cons q rest => cases q <;> simp [push, String.append_assoc]

def extend (last r : Run κ) : Run κ := r.pieces.foldr (fun p run => run.push p) last

@[simp] theorem style_extend (last r : Run κ) : (last.extend r).style = last.style := by
  unfold extend
  induction r.pieces with
  | nil => rfl
  | cons p rest ih => rw [List.foldr_cons, style_push, ih]

theorem extend_push (last r : Run κ) (p : Piece κ) :
    last.extend (r.push p) = (last.extend r).push p := by
  obtain ⟨style, pieces⟩ := r
  cases pieces with
  | nil => cases p <;> rfl
  | cons q rest =>
    cases p with
    | component c => cases q <;> rfl
    | text t =>
      cases q with
      | component c => rfl
      | text s =>
        change (last.extend ⟨style, rest⟩).push _ = _
        rw [← push_text_text]
        rfl

end Run

namespace Frame

theorem append_cons (last r : Run κ) (rest : Frame κ) :
    append (last :: rest) r =
      if last.style = r.style then last.extend r :: rest else r :: last :: rest := rfl

/-- The order of fusing does not matter for one piece: it may be pushed onto a run before the run is
appended, or onto the frame afterwards. -/
theorem append_push (f : Frame κ) (r : Run κ) (p : Piece κ) :
    f.append (r.push p) = (f.append r).push r.style p := by
  cases f with
  | nil =>
    change [r.push p] = append [r] _
    rw [append_cons, if_pos rfl]
    rfl
  | cons last rest =>
    rw [push, append_cons, append_cons, Run.style_push]
    by_cases h : last.style = r.style
    · rw [if_pos h, if_pos h, append_cons, if_pos (by simpa using h), Run.extend_push]
      rfl
    · rw [if_neg h, if_neg h, append_cons, if_pos rfl]
      rfl

/-- Splicing takes pieces one at a time: a piece goes to the same place whether it is pushed before
or after its frame is closed. -/
theorem splice_push (f g : Frame κ) (style : Style) (p : Piece κ) :
    f.splice (g.push style p) = (f.splice g).push style p := by
  cases g with
  | nil => rfl
  | cons last rest =>
    rw [push, append_cons]
    by_cases h : last.style = style
    · rw [if_pos h, ← h]
      exact append_push (splice f rest) last p
    · rw [if_neg h]
      rfl

def ofPieces (l : List (Style × Piece κ)) : Frame κ := l.foldl (fun f x => f.push x.1 x.2) []

@[simp] theorem ofPieces_concat (l : List (Style × Piece κ)) (x : Style × Piece κ) :
    ofPieces (l ++ [x]) = (ofPieces l).push x.1 x.2 := by
  rw [ofPieces, List.foldl_append]
  rfl

theorem ofPieces_eq_nil (l : List (Style × Piece κ)) : ofPieces l = [] ↔ l = [] := by
  constructor
  · intro h
    rcases List.eq_nil_or_concat' l with rfl | ⟨rest, x, rfl⟩
    · rfl
    · rw [ofPieces_concat] at h
      cases hf : ofPieces rest with
      | nil => simp [hf, push, append] at h
      | cons last fs =>
        rw [hf, push, append_cons] at h
        split at h <;> simp at h
  · rintro rfl
    rfl

end Frame

namespace Draft

def closeAll (inner : Frame κ) (outer : List (Frame κ)) : Frame κ :=
  outer.foldl (fun child parent => parent.splice child) inner

theorem closeAll_push (inner : Frame κ) (outer : List (Frame κ)) (style : Style) (p : Piece κ) :
    closeAll (inner.push style p) outer = (closeAll inner outer).push style p := by
  induction outer generalizing inner with
  | nil => rfl
  | cons parent rest ih =>
    change closeAll (parent.splice (inner.push style p)) rest = _
    -- the piece moves outwards past one frame at a time
    rw [Frame.splice_push, ih]
    rfl

theorem closeAll_empty (n : Nat) : closeAll [] (List.replicate n []) = ([] : Frame κ) := by
  induction n with
  | zero => rfl
  | succ n ih => exact ih

/-- What the open frames would make if they were all closed. -/
def collapsed (d : Draft κ) : Frame κ := closeAll d.inner d.outer

theorem repeat_succ_inner {α : Type} (f : α → α) (n : Nat) (a : α) :
    Nat.repeat f (n + 1) a = Nat.repeat f n (f a) := by
  induction n with
  | zero => rfl
  | succ n ih => exact congrArg f ih

theorem exitAll_eq (d : Draft κ) : d.exitAll = { inner := d.collapsed, entries := d.entries } := by
  obtain ⟨inner, outer, entries⟩ := d
  change Nat.repeat exit outer.length _ = _
  induction outer generalizing inner with
  | nil => rfl
  | cons parent rest ih =>
    rw [List.length_cons, repeat_succ_inner]
    exact ih (parent.splice inner)

theorem repeat_enter (n : Nat) (entries : List κ) :
    Nat.repeat enter n { entries } = { outer := List.replicate n [], entries } := by
  induction n with
  | zero => rfl
  | succ n ih => exact congrArg enter ih

@[simp] theorem collapsed_exit (d : Draft κ) : d.exit.collapsed = d.collapsed := by
  obtain ⟨inner, outer, entries⟩ := d
  cases outer <;> rfl

@[simp] theorem collapsed_push (d : Draft κ) (style : Style) (p : Piece κ) :
    (d.push style p).collapsed = d.collapsed.push style p :=
  closeAll_push d.inner d.outer style p

@[simp] theorem entries_exit (d : Draft κ) : d.exit.entries = d.entries := by
  obtain ⟨inner, outer, entries⟩ := d
  cases outer <;> rfl

theorem depth_exit {d d' : Draft κ} (h : d.depth = d'.enter.depth) :
    d.exit.depth = d'.depth := by
  obtain ⟨inner, outer, entries⟩ := d
  cases outer with
  | nil => simp [depth, enter] at h
  | cons parent rest => simpa [depth, enter, exit] using h

variable (factory : ComponentFactory κ) (slot : Slot)

/-- The frames that are opened again are as many as were closed, and empty. -/
theorem paragraph_eq (d : Draft κ) : d.paragraph factory slot = {
    outer := List.replicate d.outer.length []
    entries := ofFrame factory slot d.collapsed :: d.entries } := by
  rw [paragraph, exitAll_eq]
  exact repeat_enter _ _

@[simp] theorem collapsed_paragraph (d : Draft κ) :
    (d.paragraph factory slot).collapsed = [] := by
  rw [paragraph_eq]
  exact closeAll_empty _

@[simp] theorem entries_paragraph (d : Draft κ) :
    (d.paragraph factory slot).entries = ofFrame factory slot d.collapsed :: d.entries := by
  rw [paragraph_eq]

theorem depth_pushText (d : Draft κ) (style : Style) (s : String) :
    (d.pushText style s).depth = d.depth := by
  unfold pushText
  split <;> rfl

theorem depth_lineBreak (d : Draft κ) (style : Style) :
    (d.lineBreak factory slot style).depth = d.depth := by
  unfold lineBreak
  split
  · exact depth_pushText d style _
  · rw [paragraph_eq, depth, depth, List.length_replicate]

theorem depth_write (d : Draft κ) (style : Style) (x : Write κ) :
    (d.write factory slot style x).depth = d.depth := by
  cases x with
  | text s => exact depth_pushText d style s
  | component c => rfl
  | lineBreak => exact depth_lineBreak factory slot d style

end Draft

end RichText
