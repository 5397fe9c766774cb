import RichText.Proofs.Layout.Flat

namespace RichText.Flat

variable {κ : Type}

theorem segments_none (l : List (Option (Style × Piece κ))) :
    segments (none :: l) = [] :: segments l := by
  rw [segments, List.splitOnP_cons_eq_if_modifyHead]
  rfl

theorem segments_some (x : Style × Piece κ) (l : List (Option (Style × Piece κ))) :
    segments (some x :: l) = (segments l).modifyHead (x :: ·) := by
  rw [segments, segments, List.splitOnP_cons_eq_if_modifyHead]
  cases l.splitOnP Option.isNone <;> rfl

theorem segments_cut (l : List (Option (Style × Piece κ))) :
    segments (l ++ [none]) = segments l ++ [[]] := by
  rw [segments, List.splitOnP_append_cons _ _ rfl, List.map_append]
  rfl

theorem exists_segments_piece (l : List (Option (Style × Piece κ))) (x : Style × Piece κ) :
    ∃ closed current, segments l = closed ++ [current] ∧
      segments (l ++ [some x]) = closed ++ [current ++ [x]] := by
  induction l with
  | nil => exact ⟨[], [], rfl, rfl⟩
  | cons m rest ih =>
    obtain ⟨closed, current, h, h'⟩ := ih
    rw [List.cons_append]
    cases m with
    | none =>
      refine ⟨[] :: closed, current, ?_, ?_⟩
      · rw [segments_none, h, List.cons_append]
      · rw [segments_none, h', List.cons_append]
    | some y =>
      rw [segments_some, segments_some, h, h']
      cases closed with
      | nil => exact ⟨[], y :: current, rfl, rfl⟩
      | cons c closed => exact ⟨(y :: c) :: closed, current, rfl, rfl⟩

theorem segments_piece {l : List (Option (Style × Piece κ))}
    {closed : List (List (Style × Piece κ))} {current : List (Style × Piece κ)}
    (h : segments l = closed ++ [current]) (x : Style × Piece κ) :
    segments (l ++ [some x]) = closed ++ [current ++ [x]] := by
  obtain ⟨closed', current', h', hx⟩ := exists_segments_piece l x
  obtain ⟨rfl, hc⟩ := List.append_inj' (h.symm.trans h') rfl
  obtain rfl : current = current' := by simpa using hc
  exact hx

theorem kept_concat {α : Type} (closed : List (List α)) (current : List α) :
    kept (closed ++ [current]) =
      if current = [] ∧ closed ≠ [] then closed else closed ++ [current] := by
  have h : (closed ++ [current]).getLast?.any List.isEmpty ∧ 1 < (closed ++ [current]).length ↔
      current = [] ∧ closed ≠ [] := by
    simp [List.length_pos_iff]
  unfold kept
  rw [if_congr h rfl rfl, List.dropLast_concat]

/-- The draft holds the flat sequence `l`: an entry for each segment that has been cut off, and the
pieces since then in its open frames. -/
def Holds (factory : ComponentFactory κ) (slot : Slot) (l : List (Option (Style × Piece κ)))
    (d : Draft κ) : Prop :=
  ∃ closed current, segments l = closed ++ [current] ∧
    d.entries = (closed.map (entry factory slot)).reverse ∧
    d.collapsed = Frame.ofPieces current

namespace Holds

variable {factory : ComponentFactory κ} {slot : Slot} {l : List (Option (Style × Piece κ))}
  {d : Draft κ}

theorem empty : Holds factory slot [] {} := ⟨[], [], rfl, rfl, rfl⟩

theorem enter (h : Holds factory slot l d) : Holds factory slot l d.enter := h

theorem exit (h : Holds factory slot l d) : Holds factory slot l d.exit := by
  obtain ⟨closed, current, hl, he, hc⟩ := h
  exact ⟨closed, current, hl, d.entries_exit.trans he, d.collapsed_exit.trans hc⟩

theorem push (h : Holds factory slot l d) (style : Style) (p : Piece κ) :
    Holds factory slot (l ++ [some (style, p)]) (d.push style p) := by
  obtain ⟨closed, current, hl, he, hc⟩ := h
  refine ⟨closed, current ++ [(style, p)], segments_piece hl _, he, ?_⟩
  rw [Draft.collapsed_push, hc, Frame.ofPieces_concat]

theorem pushText (h : Holds factory slot l d) (style : Style) (s : String) :
    Holds factory slot (l ++ textMark style s) (d.pushText style s) := by
  unfold Draft.pushText textMark
  by_cases hs : s = ""
  · rw [if_pos hs, if_pos hs, List.append_nil]
    exact h
  · rw [if_neg hs, if_neg hs]
    exact h.push style (.text s)

theorem paragraph (h : Holds factory slot l d) :
    Holds factory slot (l ++ [none]) (d.paragraph factory slot) := by
  obtain ⟨closed, current, hl, he, hc⟩ := h
  refine ⟨closed ++ [current], [], ?_, ?_, d.collapsed_paragraph factory slot⟩
  · rw [segments_cut, hl]
  · rw [Draft.entries_paragraph, hc, ofFrame_ofPieces, he]
    simp

theorem write (h : Holds factory slot l d) (style : Style) (x : Write κ) :
    Holds factory slot (l ++ marks slot (style, x)) (d.write factory slot style x) := by
  cases x with
  | text s => exact h.pushText style s
  | component c => exact h.push style (.component c)
  | lineBreak =>
    change Holds factory slot (l ++ slot.lineBreak.elim [none] (textMark style))
      (d.lineBreak factory slot style)
    unfold Draft.lineBreak
    cases slot.lineBreak with
    | none => exact h.paragraph
    | some s => exact h.pushText style s

theorem finish (h : Holds factory slot l d) :
    d.finish factory slot = (kept (segments l)).map (entry factory slot) := by
  obtain ⟨closed, current, hl, he, hc⟩ := h
  rw [hl, kept_concat, Draft.finish, Draft.exitAll_eq, hc, he]
  dsimp only
  by_cases hcurrent : current = []
  · subst hcurrent
    rcases List.eq_nil_or_concat' closed with rfl | ⟨rest, last, rfl⟩
    · rfl
    · have hclosed : ¬ ((Frame.ofPieces [] : Frame κ) ≠ [] ∨
          ((rest ++ [last]).map (entry factory slot)).reverse = []) := by
        simp [Frame.ofPieces_eq_nil]
      rw [if_neg hclosed, if_pos (by simp), List.reverse_reverse]
  · have hframe : Frame.ofPieces current ≠ [] := mt (Frame.ofPieces_eq_nil current).1 hcurrent
    rw [if_pos (.inl hframe), if_neg fun h => hcurrent h.1]
    simp [Draft.flush, ofFrame_ofPieces]

end Holds

theorem flatten_segments (l : List (Option (Style × Piece κ))) :
    (segments l).flatten = l.reduceOption := by
  induction l with
  | nil => rfl
  | cons m rest ih =>
    cases m with
    | none => rw [segments_none, List.reduceOption_cons_of_none, ← ih, List.flatten_cons,
        List.nil_append]
    | some x =>
      rw [segments_some, List.reduceOption_cons_of_some, ← ih]
      obtain ⟨closed, current, h, -⟩ := exists_segments_piece rest x
      rw [h]
      cases closed <;> rfl

theorem flatten_kept {α : Type} (segments : List (List α)) :
    (kept segments).flatten = segments.flatten := by
  rcases List.eq_nil_or_concat' segments with rfl | ⟨closed, current, rfl⟩
  · rfl
  · rw [kept_concat]
    split
    · next h => simp [h.1]
    · rfl

theorem mem_of_mem_kept {l : List (Option (Style × Piece κ))} {segment : List (Style × Piece κ)}
    (hs : segment ∈ kept (segments l)) {x : Style × Piece κ} (hx : x ∈ segment) : some x ∈ l := by
  have hmem : x ∈ l.reduceOption := by
    rw [← flatten_segments, ← flatten_kept]
    exact List.mem_flatten_of_mem hs hx
  exact List.reduceOption_mem_iff.1 hmem

theorem exists_write_of_mem {slot : Slot} {ws : List (Style × Write κ)}
    {segment : List (Style × Piece κ)}
    (hs : segment ∈ kept (segments (ws.flatMap (marks slot)))) {x : Style × Piece κ}
    (hx : x ∈ segment) :
    ∃ w ∈ ws, x.1 = w.1 ∧ ∀ c, x.2 = .component c → w.2 = .component c := by
  obtain ⟨w, hw, hmark⟩ := List.mem_flatMap.1 (mem_of_mem_kept hs hx)
  have htext : ∀ s, some x ∈ textMark (κ := κ) w.1 s → x = (w.1, .text s) := by
    intro s h
    unfold textMark at h
    split at h
    · cases h
    · exact Option.some.inj (List.mem_singleton.1 h)
  refine ⟨w, hw, ?_⟩
  obtain ⟨style, y⟩ := w
  cases y with
  | text s =>
    obtain rfl := htext s hmark
    exact ⟨rfl, by simp⟩
  | component c =>
    obtain rfl := Option.some.inj (List.mem_singleton.1 hmark)
    exact ⟨rfl, fun _ h => by cases h; rfl⟩
  | lineBreak =>
    unfold marks at hmark
    cases hbreak : slot.lineBreak with
    | none => simp [hbreak] at hmark
    | some s =>
      rw [hbreak] at hmark
      obtain rfl := htext s hmark
      exact ⟨rfl, by simp⟩

theorem kept_ne_nil {l : List (Option (Style × Piece κ))} : kept (segments l) ≠ [] := by
  have hne : segments l ≠ [] := by simp [segments]
  rcases List.eq_nil_or_concat' (segments l) with h | ⟨closed, current, h⟩
  · exact absurd h hne
  · rw [h, kept_concat]
    split
    · next h => exact h.2
    · simp

def shown (slot : Slot) (w : Style × Write κ) : List (Style × (Char ⊕ κ)) :=
  match w.2 with
  | .text s => atoms (w.1, .text s)
  | .component c => atoms (w.1, .component c)
  | .lineBreak => slot.lineBreak.elim [] fun s => atoms (w.1, .text s)

theorem atoms_textMark (style : Style) (s : String) :
    (textMark (κ := κ) style s).reduceOption.flatMap atoms = atoms (style, .text s) := by
  unfold textMark
  by_cases hs : s = ""
  · subst hs
    rfl
  · rw [if_neg hs]
    exact List.append_nil _

theorem atoms_marks (slot : Slot) (ws : List (Style × Write κ)) :
    (ws.flatMap (marks slot)).reduceOption.flatMap atoms = ws.flatMap (shown slot) := by
  induction ws with
  | nil => rfl
  | cons w rest ih =>
    rw [List.flatMap_cons, List.flatMap_cons, List.reduceOption_append, List.flatMap_append, ih]
    congr 1
    obtain ⟨style, x⟩ := w
    cases x with
    | text s => exact atoms_textMark style s
    | component c => rfl
    | lineBreak =>
      change (slot.lineBreak.elim [none] (textMark style)).reduceOption.flatMap atoms =
        slot.lineBreak.elim [] fun s => atoms (style, .text s)
      cases slot.lineBreak with
      | none => rfl
      | some s => exact atoms_textMark style s

end RichText.Flat

namespace RichText.Draft

variable {κ : Type}

inductive Step (κ : Type) where
  | enter
  | exit
  | write (style : Style) (x : Write κ)

variable (factory : ComponentFactory κ) (slot : Slot)

def Step.apply : Step κ → Draft κ → Draft κ
  | .enter, d => d.enter
  | .exit, d => d.exit
  | .write style x, d => d.write factory slot style x

def run (steps : List (Step κ)) (d : Draft κ) : Draft κ :=
  steps.foldl (fun d step => step.apply factory slot d) d

def writes (steps : List (Step κ)) : List (Style × Write κ) :=
  steps.filterMap fun
    | .write style x => some (style, x)
    | _ => none

theorem holds_run {l : List (Option (Style × Piece κ))} {d : Draft κ}
    (h : Flat.Holds factory slot l d) (steps : List (Step κ)) :
    Flat.Holds factory slot (l ++ (writes steps).flatMap (Flat.marks slot))
      (run factory slot steps d) := by
  induction steps generalizing l d with
  | nil =>
    change Flat.Holds factory slot (l ++ []) d
    rwa [List.append_nil]
  | cons step rest ih =>
    cases step with
    | enter => exact ih h.enter
    | exit => exact ih h.exit
    | write style x =>
      have := ih (h.write style x)
      rwa [List.append_assoc] at this

/-- Frames leave no trace in the output. Whatever is entered and exited in between, balanced or not,
the entries are those made from the writes alone; nothing of a write is lost, doubled or moved,
there is always an entry, and a break keeps the frames open. -/
theorem finish_run (steps : List (Step κ)) :
    (run factory slot steps {}).finish factory slot =
        Flat.entries factory slot (writes steps) ∧
      ((Flat.kept (Flat.segments ((writes steps).flatMap (Flat.marks slot)))).flatMap fun segment =>
          (Flat.runs segment).flatMap fun r => r.2.flatMap fun p => Flat.atoms (r.1, p)) =
        (writes steps).flatMap (Flat.shown slot) ∧
      (run factory slot steps {}).finish factory slot ≠ [] ∧
      ∀ (d : Draft κ) (style : Style), (d.lineBreak factory slot style).depth = d.depth := by
  have hfinish : (run factory slot steps {}).finish factory slot =
      Flat.entries factory slot (writes steps) :=
    (holds_run factory slot Flat.Holds.empty steps).finish
  refine ⟨hfinish, ?_, ?_, depth_lineBreak factory slot⟩
  · rw [List.flatMap_congr fun segment _ => Flat.atoms_runs segment, ← Flat.atoms_marks,
      ← Flat.flatten_segments, ← Flat.flatten_kept, List.flatten_eq_flatMap, List.flatMap_assoc]
    rfl
  · rw [hfinish, Flat.entries, Ne, List.map_eq_nil_iff]
    exact Flat.kept_ne_nil

end RichText.Draft
