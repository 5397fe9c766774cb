import RichText.Proofs.Component.PlainText

namespace RichText

namespace Write

variable {κ : Type}

def isBreak : Write κ → Bool
  | .lineBreak => true
  | _ => false

def isBlank : Write κ → Bool
  | .text s => s = ""
  | _ => false

/-- The last of some writes is a break, if those that are blank do not count. -/
def endInBreak (xs : List (Write κ)) : Bool :=
  ((xs.filter fun x => !x.isBlank).getLast?).any isBreak

theorem endInBreak_concat (xs : List (Write κ)) (x : Write κ) :
    endInBreak (xs ++ [x]) = if x.isBlank then endInBreak xs else x.isBreak := by
  unfold endInBreak
  by_cases h : x.isBlank = true <;> simp [h]

theorem endInBreak_iff {xs : List (Write κ)} :
    endInBreak xs = true ↔
      ∃ earlier later, xs = earlier ++ .lineBreak :: later ∧ ∀ x ∈ later, x.isBlank = true := by
  induction xs using List.reverseRecOn with
  | nil => simp [endInBreak]
  | append_singleton xs x ih =>
    have hlast : ∀ earlier later, xs ++ [x] = earlier ++ .lineBreak :: later →
        x = .lineBreak ∨
          ∃ later', later = later' ++ [x] ∧ xs = earlier ++ .lineBreak :: later' := by
      intro earlier later h
      obtain rfl | ⟨later, y, rfl⟩ := later.eq_nil_or_concat
      · exact .inl (List.append_singleton_inj.1 h).2
      · rw [List.concat_eq_append, ← List.cons_append, ← List.append_assoc] at h
        obtain ⟨hxs, rfl⟩ := List.append_singleton_inj.1 h
        exact .inr ⟨later, List.concat_eq_append, hxs⟩
    rw [endInBreak_concat]
    by_cases hx : x.isBlank = true
    · rw [if_pos hx, ih]
      constructor
      · rintro ⟨earlier, later, rfl, hlater⟩
        exact ⟨earlier, later ++ [x], by simp, by simpa [or_imp, forall_and, hx] using hlater⟩
      · rintro ⟨earlier, later, hxs, hlater⟩
        obtain rfl | ⟨later', rfl, hrest⟩ := hlast earlier later hxs
        · cases hx
        · exact ⟨earlier, later', hrest, fun y hy => hlater y (List.mem_append_left _ hy)⟩
    · rw [if_neg hx]
      constructor
      · intro hbreak
        cases x with
        | lineBreak => exact ⟨xs, [], rfl, by simp⟩
        | text s => cases hbreak
        | component c => cases hbreak
      · rintro ⟨earlier, later, hxs, hlater⟩
        obtain rfl | ⟨later', rfl, -⟩ := hlast earlier later hxs
        · rfl
        · exact absurd (hlater x (by simp)) hx

def plainText (b : String) : Write Component → String
  | .text s => s
  | .component c => c.plainText
  | .lineBreak => b

end Write

namespace Flat

def markText (b : String) : Option (Style × Piece Component) → String
  | none => b
  | some x => x.2.plainText

theorem intercalate_segments (b : String) (l : List (Option (Style × Piece Component))) :
    b.intercalate ((segments l).map text) = String.join (l.map (markText b)) := by
  induction l with
  | nil => exact String.intercalate_singleton
  | cons m rest ih =>
    obtain ⟨segment, others, hrest⟩ : ∃ segment others, segments rest = segment :: others := by
      obtain ⟨closed, current, h, -⟩ := exists_segments_piece rest (.empty, .text "")
      cases closed with
      | nil => exact ⟨current, [], h⟩
      | cons c closed => exact ⟨c, closed ++ [current], h⟩
    rw [hrest] at ih
    rw [List.map_cons, String.join_cons, ← ih]
    cases m with
    | none =>
      rw [segments_none, hrest, List.map_cons, String.intercalate_cons_of_ne_nil (by simp)]
      change "" ++ b ++ _ = b ++ _
      rw [String.empty_append]
    | some x =>
      rw [segments_some, hrest, List.modifyHead_cons, List.map_cons, text_cons,
        String.intercalate_cons_append]
      rfl

variable {slot : Slot} {b : String}

theorem join_textMark (style : Style) (s : String) :
    String.join ((textMark style s).map (markText b)) = s := by
  unfold textMark
  by_cases hs : s = ""
  · rw [if_pos hs, hs]
    rfl
  · rw [if_neg hs, List.map_singleton, String.join_cons, String.join_nil, String.append_empty]
    rfl

theorem join_marks (h : ∀ s ∈ slot.lineBreak, s = b) (ws : List (Style × Write Component)) :
    String.join ((ws.flatMap (marks slot)).map (markText b)) =
      String.join ((ws.map Prod.snd).map (Write.plainText b)) := by
  have hwrite : ∀ w : Style × Write Component,
      String.join ((marks slot w).map (markText b)) = w.2.plainText b := by
    rintro ⟨style, x⟩
    have hone : ∀ s : String, String.join [s] = s := fun s => by
      rw [String.join_cons, String.join_nil, String.append_empty]
    cases x with
    | text s => exact join_textMark style s
    | component c => exact hone c.plainText
    | lineBreak =>
      unfold marks
      cases hbreak : slot.lineBreak with
      | none => exact hone b
      | some s =>
        obtain rfl := h s hbreak
        exact join_textMark style s
  induction ws with
  | nil => rfl
  | cons w rest ih =>
    rw [List.flatMap_cons, List.map_append, String.join_append, ih, hwrite, List.map_cons,
      List.map_cons, String.join_cons]

theorem exists_segment {κ : Type} {l : List (Option (Style × Piece κ))} (h : none ∉ l) :
    ∃ segment, segments l = [segment] := by
  induction l with
  | nil => exact ⟨[], rfl⟩
  | cons m rest ih =>
    rw [List.mem_cons, not_or] at h
    obtain ⟨segment, hsegment⟩ := ih h.2
    cases m with
    | none => exact absurd rfl h.1
    | some x => exact ⟨x :: segment, by rw [segments_some, hsegment]; rfl⟩

theorem none_notMem_marks {κ : Type} (h : slot.lineBreak = some b) (ws : List (Style × Write κ)) :
    none ∉ ws.flatMap (marks slot) := by
  have htext : ∀ style s, none ∉ textMark (κ := κ) style s := by
    intro style s
    unfold textMark
    split <;> simp
  intro hmem
  obtain ⟨⟨style, x⟩, -, hmark⟩ := List.mem_flatMap.1 hmem
  cases x with
  | text s => exact htext style s hmark
  | component c => simp [marks] at hmark
  | lineBreak =>
    rw [marks, h] at hmark
    exact htext style b hmark

/-- Where breaks cut, the last segment is empty and not the only one if a break came last. -/
theorem exists_last_segment {κ : Type} (h : slot.lineBreak = none) (ws : List (Style × Write κ)) :
    ∃ closed current, segments (ws.flatMap (marks slot)) = closed ++ [current] ∧
      (Write.endInBreak (ws.map Prod.snd) = true ↔ current = [] ∧ closed ≠ []) := by
  induction ws using List.reverseRecOn with
  | nil => exact ⟨[], [], rfl, by simp [Write.endInBreak]⟩
  | append_singleton ws w ih =>
    obtain ⟨closed, current, hsegments, hend⟩ := ih
    have hpiece : ∀ x, ∃ closed' current',
        segments (ws.flatMap (marks slot) ++ [some x]) = closed' ++ [current'] ∧
          (false = true ↔ current' = [] ∧ closed' ≠ []) :=
      fun x => ⟨closed, current ++ [x], segments_piece hsegments x, by simp⟩
    rw [List.flatMap_append, List.flatMap_singleton, List.map_append, List.map_singleton,
      Write.endInBreak_concat]
    obtain ⟨style, x⟩ := w
    cases x with
    | text s =>
      by_cases hs : s = ""
      · refine ⟨closed, current, ?_, ?_⟩
        · simpa [marks, textMark, hs] using hsegments
        · simpa [Write.isBlank, hs] using hend
      · simpa [marks, textMark, Write.isBlank, Write.isBreak, hs] using hpiece (style, .text s)
    | component c => simpa [marks, Write.isBlank, Write.isBreak] using hpiece (style, .component c)
    | lineBreak =>
      refine ⟨closed ++ [current], [], ?_, by simp [Write.isBlank, Write.isBreak]⟩
      simp only [marks, h, Option.elim_none]
      rw [segments_cut, hsegments]

/-- The text of a slot that writes its breaks is the text of the paragraphs of one that cuts at
them, with the breaks in between, and one behind if it came last. -/
theorem plainText_literal {slot' : Slot} (h : slot.lineBreak = some b) (h' : slot'.lineBreak = none)
    {ws ws' : List (Style × Write Component)} (hw : ws.map Prod.snd = ws'.map Prod.snd) :
    (entries Component.factory slot ws).map Component.plainText =
      [b.intercalate ((entries Component.factory slot' ws').map Component.plainText) ++
        if Write.endInBreak (ws'.map Prod.snd) then b else ""] := by
  obtain ⟨segment, hsegment⟩ := exists_segment (none_notMem_marks h ws)
  obtain ⟨closed, current, hcut, hend⟩ := exists_last_segment h' ws'
  have hliteral : ∀ s ∈ slot.lineBreak, s = b := by simp [h]
  have hall : text segment = b.intercalate ((closed ++ [current]).map text) := by
    rw [← hcut, intercalate_segments, join_marks (by simp [h']), ← hw, ← join_marks hliteral,
      ← intercalate_segments, hsegment, List.map_singleton, String.intercalate_singleton]
  have hkept : kept [segment] = [segment] := by simp [kept]
  rw [plainText_entries, hsegment, hkept, List.map_singleton, plainText_entries, hcut, kept_concat,
    hall]
  congr 1
  by_cases hlast : current = [] ∧ closed ≠ []
  · rw [if_pos hlast, if_pos (hend.2 hlast), hlast.1, List.map_append,
      String.intercalate_append_of_ne_nil (by simpa using hlast.2) (by simp)]
    exact String.append_empty
  · rw [if_neg hlast, if_neg (mt hend.1 hlast), String.append_empty]

end Flat

end RichText
