import RichText.Proofs.Component.Leaves

namespace RichText

namespace Component

theorem plainTexts_eq (cs : List Component) : plainTexts cs = String.join (cs.map plainText) := by
  induction cs with
  | nil => rfl
  | cons c rest ih => rw [plainTexts, ih, List.map_cons, String.join_cons]

theorem plainText_applyStyle (s : Style) (c : Component) :
    (c.applyStyle s).plainText = c.plainText := by
  cases c
  simp only [applyStyle, plainText]

theorem plainText_append (more : List Component) (c : Component) :
    (c.append more).plainText = c.plainText ++ String.join (more.map plainText) := by
  cases c
  simp only [append, plainText, plainTexts_eq, List.map_append, String.join_append,
    String.append_assoc]

theorem plainText_text (s : String) : (text s).plainText = s := by
  simp [text, ofBody, plainText, bodyText, plainTexts]

end Component

def Piece.plainText : Piece Component → String
  | .text s => s
  | .component c => c.plainText

theorem Piece.plainText_made (p : Piece Component) :
    (Flat.made Component.factory p).plainText = p.plainText := by
  cases p with
  | text s => exact Component.plainText_text s
  | component c => rfl

namespace Flat

open Component

def text (segment : List (Style × Piece Component)) : String :=
  String.join (segment.map fun x => x.2.plainText)

theorem text_cons (x : Style × Piece Component) (segment : List (Style × Piece Component)) :
    text (x :: segment) = x.2.plainText ++ text segment := by
  rw [text, List.map_cons, String.join_cons]
  rfl

theorem text_append (segment segment' : List (Style × Piece Component)) :
    text (segment ++ segment') = text segment ++ text segment' := by
  rw [text, List.map_append, String.join_append]
  rfl

theorem text_flatten (blocks : List (List (Style × Piece Component))) :
    text blocks.flatten = String.join (blocks.map text) := by
  induction blocks with
  | nil => rfl
  | cons block rest ih =>
    rw [List.flatten_cons, text_append, ih, List.map_cons, String.join_cons]

theorem join_glue (p : Piece Component) (ps : List (Piece Component)) :
    String.join ((glue p ps).map Piece.plainText) =
      p.plainText ++ String.join (ps.map Piece.plainText) := by
  cases p with
  | component c => exact String.join_cons
  | text s =>
    match ps with
    | [] => exact String.join_cons
    | .component _ :: _ => exact String.join_cons
    | .text t :: rest =>
      simp only [glue, List.map_cons, String.join_cons, Piece.plainText, String.append_assoc]

theorem join_fuse (ps : List (Piece Component)) :
    String.join ((fuse ps).map Piece.plainText) = String.join (ps.map Piece.plainText) := by
  induction ps with
  | nil => rfl
  | cons p rest ih =>
    change String.join ((glue p (fuse rest)).map Piece.plainText) = _
    rw [join_glue, ih, List.map_cons, String.join_cons]

variable {slot : Slot}

theorem plainText_component (r : Style × List (Piece Component)) :
    (component Component.factory slot r).plainText = String.join (r.2.map Piece.plainText) := by
  obtain ⟨style, pieces⟩ := r
  have hpieces : (pieces.map (Flat.made Component.factory)).map plainText =
      pieces.map Piece.plainText := by
    rw [List.map_map]
    exact List.map_congr_left fun p _ => p.plainText_made
  have hwrapper : ∀ cs : List Component,
      ((Component.text "").append cs).plainText = String.join (cs.map plainText) := by
    intro cs
    rw [plainText_append, plainText_text, String.empty_append]
  rw [← hpieces]
  unfold component
  change (Component.applyStyle _ _).plainText = _
  rw [plainText_applyStyle]
  match pieces with
  | [] => exact hwrapper []
  | [p] =>
    rw [List.map_singleton, List.map_singleton, String.join_cons, String.join_nil,
      String.append_empty]
  | p :: q :: rest => exact hwrapper _

theorem plainText_entry (segment : List (Style × Piece Component)) :
    (entry Component.factory slot segment).plainText = text segment := by
  have hrun : ∀ block : List (Style × Piece Component),
      (component Component.factory slot (ofBlock block)).plainText =
        text block := by
    intro block
    rw [plainText_component]
    change String.join ((fuse (block.map Prod.snd)).map Piece.plainText) = _
    rw [join_fuse, List.map_map]
    rfl
  calc (entry Component.factory slot segment).plainText
      = String.join (((runs segment).map (component Component.factory slot)).map plainText) := by
        rw [entry_eq, plainText_append, plainText_applyStyle, plainText_text, String.empty_append]
    _ = String.join ((segment.splitBy sameStyle).map text) := by
        rw [runs, List.map_map, List.map_map]
        exact congrArg String.join (List.map_congr_left fun block _ => hrun block)
    _ = text segment := by rw [← text_flatten, List.flatten_splitBy]

theorem plainText_entries (slot : Slot) (ws : List (Style × Write Component)) :
    (entries Component.factory slot ws).map plainText =
      (kept (segments (ws.flatMap (marks slot)))).map text := by
  rw [entries, List.map_map]
  exact List.map_congr_left fun segment _ => plainText_entry segment

theorem segments_map {κ : Type} (f : Style × Piece κ → Style × Piece κ)
    (l : List (Option (Style × Piece κ))) :
    segments (l.map (Option.map f)) = (segments l).map (List.map f) := by
  induction l with
  | nil => rfl
  | cons m rest ih =>
    cases m with
    | none => rw [List.map_cons, Option.map_none, segments_none, ih, segments_none]; rfl
    | some x =>
      rw [List.map_cons, Option.map_some, segments_some, ih, segments_some]
      cases segments rest <;> rfl

theorem kept_map {α β : Type} (f : α → β) (segments : List (List α)) :
    kept (segments.map (List.map f)) = (kept segments).map (List.map f) := by
  have hlast : (segments.map (List.map f)).getLast?.any List.isEmpty =
      segments.getLast?.any List.isEmpty := by
    rw [List.getLast?_map, Option.any_map]
    congr 1
    funext segment
    cases segment <;> rfl
  unfold kept
  rw [hlast, List.length_map, ← List.map_dropLast]
  split <;> rfl

/-- The text of entries depends on what was written, and not on the styles. -/
theorem plainText_entries_unstyled (slot : Slot) (ws : List (Style × Write Component)) :
    (entries Component.factory slot ws).map plainText =
      (entries Component.factory slot (ws.map fun w => (.empty, w.2))).map plainText := by
  let unstyled : Style × Piece Component → Style × Piece Component := fun x => (.empty, x.2)
  have hmark : ∀ w : Style × Write Component,
      marks slot (.empty, w.2) = (marks slot w).map (Option.map unstyled) := by
    have htext : ∀ style s, textMark .empty s = (textMark style s).map (Option.map unstyled) := by
      intro style s
      unfold textMark
      split <;> rfl
    rintro ⟨style, x⟩
    cases x with
    | text s => exact htext style s
    | component c => rfl
    | lineBreak =>
      unfold marks
      cases slot.lineBreak with
      | none => rfl
      | some s => exact htext style s
  have hmarks : (ws.map fun w => ((.empty, w.2) : Style × Write Component)).flatMap (marks slot) =
      (ws.flatMap (marks slot)).map (Option.map unstyled) := by
    rw [List.flatMap_map, List.map_flatMap]
    exact List.flatMap_congr fun w _ => hmark w
  rw [plainText_entries, plainText_entries, hmarks, segments_map, kept_map, List.map_map]
  refine List.map_congr_left fun segment _ => ?_
  change text segment = text (segment.map unstyled)
  rw [text, text, List.map_map]
  rfl

end Flat

end RichText
