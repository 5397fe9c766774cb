import RichText.Proofs.Component.Leaves
import RichText.Proofs.Component.Letters

namespace RichText

theorem overlay_comm_of_base {α : Type} {base a b : Option α}
    (h : overlay base (overlay a b) = overlay base (overlay b a)) : overlay a b = overlay b a := by
  cases a with
  | none => exact none_overlay b
  | some x =>
    cases b with
    | none => rfl
    | some y => exact h

theorem Decorations.overlay_comm_of_base {base d e : Decorations}
    (h : base.overlay (d.overlay e) = base.overlay (e.overlay d)) : d.overlay e = e.overlay d := by
  refine ext_state fun i => ?_
  have hi := congrArg (state · i) h
  simp only [state_overlay] at hi ⊢
  exact RichText.overlay_comm_of_base hi

namespace Style

/-- Neither style sets a field that the other sets to another value. -/
def Compatible (s t : Style) : Prop := s.merge t = t.merge s

instance (s t : Style) : Decidable (s.Compatible t) :=
  inferInstanceAs (Decidable (s.merge t = t.merge s))

theorem compatible_of_base (base : Style) {s t : Style}
    (h : base.merge (s.merge t) = base.merge (t.merge s)) : s.Compatible t := by
  simp only [merge, mk.injEq] at h
  obtain ⟨hcolor, hshadow, hfont, hdecorations, hclick, hhover, hinsertion⟩ := h
  simp only [Compatible, merge, overlay_comm_of_base hcolor, overlay_comm_of_base hshadow,
    overlay_comm_of_base hfont, Decorations.overlay_comm_of_base hdecorations,
    overlay_comm_of_base hclick, overlay_comm_of_base hhover, overlay_comm_of_base hinsertion]

end Style

namespace Component

def visible (parent : Style) (c : Component) : List (Char × Style) := painted (c.fragments parent)

theorem visible_text (parent : Style) (s : String) :
    visible parent (text s) = s.toList.map (·, parent) := by
  simp [visible, text, ofBody, fragments, bodyFragments, childFragments, painted,
    Style.merge_empty]

theorem painted_childFragments_eq (parent : Style) (cs : List Component) :
    painted (childFragments parent cs) = cs.flatMap (visible parent) := by
  induction cs with
  | nil => rfl
  | cons c rest ih => rw [childFragments, painted_append, ih, List.flatMap_cons, visible]

theorem visible_mk (parent : Style) (body : Body) (style : Style) (children : List Component) :
    visible parent (mk body style children) = painted (bodyFragments (parent.merge style) body) ++
      children.flatMap (visible (parent.merge style)) := by
  rw [visible, fragments, painted_append, painted_childFragments_eq]

theorem visible_wrapper (parent s : Style) (cs : List Component) :
    visible parent (((text "").append cs).applyStyle s) =
      cs.flatMap (visible (parent.merge s)) := by
  simp only [text, ofBody, append, applyStyle, visible_mk, Style.empty_merge, List.nil_append]
  rfl

/-- A style put over a component's own shows as one put around it if the two are compatible. -/
theorem visible_applyStyle {c : Component} {s : Style} (h : c.style.Compatible s)
    (parent : Style) : visible parent (c.applyStyle s) = visible (parent.merge s) c := by
  obtain ⟨body, style, children⟩ := c
  have hs : parent.merge (style.merge s) = (parent.merge s).merge style := by
    rw [← Style.merge_assoc]
    exact congrArg parent.merge h
  rw [applyStyle, visible_mk, visible_mk, hs]

theorem exists_painted_text {t : String} (ht : t ≠ "") :
    ∃ char, ∀ s fs, ∃ rest, painted ((s, t) :: fs) = (char, s) :: rest := by
  obtain ⟨char, chars, h⟩ := List.exists_cons_of_ne_nil (String.toList_eq_nil_iff.not.2 ht)
  exact ⟨char, fun s fs => ⟨_, by rw [painted_cons, h, List.map_cons, List.cons_append]⟩⟩

theorem exists_visible {c : Component} (hc : bodyText c.body ≠ "") :
    ∃ char, ∀ parent, ∃ rest, visible parent c = (char, parent.merge c.style) :: rest := by
  obtain ⟨body, style, children⟩ := c
  suffices h : ∃ char, ∀ s, ∃ rest, painted (bodyFragments s body) = (char, s) :: rest by
    obtain ⟨char, h⟩ := h
    refine ⟨char, fun parent => ?_⟩
    obtain ⟨rest, hrest⟩ := h (parent.merge style)
    exact ⟨_, by rw [visible_mk, hrest, List.cons_append]; rfl⟩
  cases body with
  | translate key fallback args =>
    by_cases hkey : fallback.getD key = ""
    · -- without a text of its own it begins with the space before its first argument
      cases args with
      | nil => simp [Component.body, bodyText, argTexts, hkey] at hc
      | cons arg rest =>
        obtain ⟨char, h⟩ := exists_painted_text (t := " ") (by decide)
        refine ⟨char, fun s => ?_⟩
        rw [bodyFragments, hkey]
        exact h s _
    · obtain ⟨char, h⟩ := exists_painted_text hkey
      exact ⟨char, fun s => h s _⟩
  | _ =>
    obtain ⟨char, h⟩ := exists_painted_text hc
    exact ⟨char, fun s => h s []⟩

end Component

namespace Flat

open Component

def paint (slot : Slot) : Style × (Char ⊕ Component) → List (Char × Style)
  | (style, .inl char) => [(char, slot.base.merge (style.diff slot.base))]
  | (style, .inr c) => visible (slot.base.merge (style.diff slot.base)) c

variable {slot : Slot}

theorem flatMap_paint_atoms (style : Style) (p : Piece Component) :
    (atoms (style, p)).flatMap (paint slot) =
      visible (slot.base.merge (style.diff slot.base)) (Flat.made Component.factory p) := by
  cases p with
  | text s =>
    refine Eq.trans ?_ (visible_text _ s).symm
    simp [atoms, paint, List.flatMap_map, ← List.map_eq_flatMap]
  | component c => exact List.append_nil _

/-- A run shows its pieces, each as if it were alone, if the run's style and the styles that the
pieces have already are compatible. -/
theorem visible_component {style : Style} {pieces : List (Piece Component)}
    (h : ∀ c, .component c ∈ pieces → c.style.Compatible (style.diff slot.base)) :
    visible slot.base (component Component.factory slot (style, pieces)) =
      pieces.flatMap fun p => (atoms (style, p)).flatMap (paint slot) := by
  simp only [flatMap_paint_atoms]
  match pieces with
  | [] => exact visible_wrapper slot.base (style.diff slot.base) []
  | [p] =>
    have hp : (Flat.made Component.factory p).style.Compatible (style.diff slot.base) := by
      cases p with
      | text s => exact (Style.empty_merge _).trans (Style.merge_empty _).symm
      | component c => exact h c List.mem_cons_self
    rw [List.flatMap_singleton]
    exact visible_applyStyle hp slot.base
  | p :: q :: rest =>
    rw [← List.flatMap_map (Flat.made Component.factory)]
    exact visible_wrapper slot.base (style.diff slot.base) _

theorem mem_of_mem_runs {segment : List (Style × Piece Component)}
    {r : Style × List (Piece Component)} (hr : r ∈ runs segment) {c : Component}
    (hc : .component c ∈ r.2) : (r.1, .component c) ∈ segment := by
  have hatom : (r.1, .inr c) ∈ (runs segment).flatMap fun r =>
      r.2.flatMap fun p => atoms (r.1, p) :=
    List.mem_flatMap.2 ⟨r, hr, List.mem_flatMap.2 ⟨.component c, hc, List.mem_singleton_self _⟩⟩
  rw [atoms_runs] at hatom
  obtain ⟨⟨style, p⟩, hx, hp⟩ := List.mem_flatMap.1 hatom
  cases p with
  | text s => simp [atoms] at hp
  | component d =>
    obtain ⟨rfl, rfl⟩ : r.1 = style ∧ c = d := by simpa [atoms] using hp
    exact hx

theorem visible_entry (segment : List (Style × Piece Component)) :
    visible .empty (entry Component.factory slot segment) =
      (runs segment).flatMap fun r => visible slot.base (component Component.factory slot r) := by
  have hroot : ∀ cs, visible .empty ((Component.applyStyle slot.base (text "")).append cs) =
      cs.flatMap (visible slot.base) := by
    intro cs
    have := visible_wrapper .empty slot.base cs
    rwa [Style.empty_merge] at this
  rw [entry_eq, hroot, List.flatMap_map]

theorem visible_entry_of_compatible {segment : List (Style × Piece Component)}
    (h : ∀ style c, (style, .component c) ∈ segment → c.style.Compatible (style.diff slot.base)) :
    visible .empty (entry Component.factory slot segment) =
      (segment.flatMap atoms).flatMap (paint slot) := by
  have hrun : ∀ r ∈ runs segment, visible slot.base (component Component.factory slot r) =
      r.2.flatMap fun p => (atoms (r.1, p)).flatMap (paint slot) := by
    intro r hr
    exact visible_component fun c hc => h r.1 c (mem_of_mem_runs hr hc)
  rw [visible_entry, List.flatMap_congr hrun, ← atoms_runs segment]
  simp only [List.flatMap_assoc]

/-- Nothing that is written takes its style from what is written next to it, if the components
among it are compatible with their styles. -/
theorem visible_entries {ws : List (Style × Write Component)}
    (h : ∀ style c, (style, .component c) ∈ ws → c.style.Compatible (style.diff slot.base)) :
    (entries Component.factory slot ws).flatMap (visible .empty) =
      ws.flatMap fun w => (shown slot w).flatMap (paint slot) := by
  have hentry : ∀ segment ∈ kept (segments (ws.flatMap (marks slot))),
      visible .empty (entry Component.factory slot segment) =
        (segment.flatMap atoms).flatMap (paint slot) := by
    intro segment hs
    refine visible_entry_of_compatible fun style c hx => ?_
    obtain ⟨⟨style', x⟩, hw, hstyle, hc⟩ := exists_write_of_mem hs hx
    obtain rfl : style = style' := hstyle
    obtain rfl : x = .component c := hc c rfl
    exact h style c hw
  calc (entries Component.factory slot ws).flatMap (visible .empty)
      = (kept (segments (ws.flatMap (marks slot)))).flatMap fun segment =>
          (segment.flatMap atoms).flatMap (paint slot) := by
        rw [entries, List.flatMap_map]
        exact List.flatMap_congr hentry
    _ = ((kept (segments (ws.flatMap (marks slot)))).flatten.flatMap atoms).flatMap
          (paint slot) := by
        simp only [List.flatten_eq_flatMap, List.flatMap_assoc, id]
    _ = (ws.flatMap (shown slot)).flatMap (paint slot) := by
        rw [flatten_kept, flatten_segments, atoms_marks]
    _ = ws.flatMap fun w => (shown slot w).flatMap (paint slot) := List.flatMap_assoc

end Flat

namespace Draft

open Component

variable (slot : Slot)

/-- What is to be seen in the end of some calls to a draft, each character in the style that is left
of those around it. -/
def seen (steps : List (Step Component)) : List (Char × Style) :=
  ((run Component.factory slot steps {}).finish Component.factory slot).flatMap (visible .empty)

theorem seen_eq (steps : List (Step Component)) :
    seen slot steps = (Flat.entries Component.factory slot (writes steps)).flatMap
      (visible .empty) := by
  rw [seen, (holds_run Component.factory slot Flat.Holds.empty steps).finish]
  rfl

variable {slot}

theorem seen_text (style : Style) :
    seen slot [.write style (.text "a")] =
      [('a', slot.base.merge (style.diff slot.base))] := by
  have h : ∀ (t : Style) (c : Component),
      (t, .component c) ∈ writes [Step.write style (.text "a")] →
        c.style.Compatible (t.diff slot.base) := by
    simp [writes]
  rw [seen_eq, Flat.visible_entries h]
  rfl

theorem seen_component (style : Style) (c : Component) :
    seen slot [.write style (.component c)] =
      visible slot.base (c.applyStyle (style.diff slot.base)) := by
  rw [seen_eq]
  change visible .empty (Flat.entry Component.factory slot [(style, .component c)]) ++ [] = _
  rw [List.append_nil, Flat.visible_entry]
  exact List.append_nil _

theorem seen_text_component (style : Style) (c : Component) :
    seen slot [.write style (.text "a"), .write style (.component c)] =
      ('a', slot.base.merge (style.diff slot.base)) ::
        visible (slot.base.merge (style.diff slot.base)) c := by
  have hruns : Flat.runs [(style, .text "a"), (style, .component c)] =
      [(style, [.text "a", .component c])] := by
    have hfirst : Flat.runs [(style, (.text "a" : Piece Component))] =
        [] ++ [(style, [.text "a"])] := rfl
    have hboth := Flat.runs_concat hfirst style (.component c)
    rwa [if_pos rfl] at hboth
  rw [seen_eq]
  change visible .empty (Flat.entry Component.factory slot
    [(style, .text "a"), (style, .component c)]) ++ [] = _
  rw [List.append_nil, Flat.visible_entry, hruns, List.flatMap_singleton]
  refine (visible_wrapper slot.base (style.diff slot.base) [text "a", c]).trans ?_
  rw [List.flatMap_cons, visible_text, List.flatMap_singleton]
  rfl

/-- Where a component contradicts the style of its run, what is to be seen of it depends on its
neighbours. -/
theorem compatible_of_local {style : Style} {c : Component} (hc : bodyText c.body ≠ "")
    {f : Style × Write Component → List (Char × Style)}
    (h : ∀ steps, (∀ t d, .write t (.component d) ∈ steps → t = style ∧ d = c) →
      seen slot steps = (writes steps).flatMap f) :
    c.style.Compatible (style.diff slot.base) := by
  have htext := h [.write style (.text "a")] (by simp)
  have halone := h [.write style (.component c)] (by simp)
  have hboth := h [.write style (.text "a"), .write style (.component c)] (by simp)
  simp only [writes, List.filterMap_cons, List.filterMap_nil, List.flatMap_cons, List.flatMap_nil,
    List.append_nil] at htext halone hboth
  rw [← htext, ← halone, seen_text, seen_component, seen_text_component, List.singleton_append,
    List.cons.injEq] at hboth
  obtain ⟨-, hsame⟩ := hboth
  obtain ⟨body, own, children⟩ := c
  obtain ⟨char, hvisible⟩ := exists_visible (c := .mk body own children) hc
  obtain ⟨char', hvisible'⟩ :=
    exists_visible (c := .mk body (own.merge (style.diff slot.base)) children) hc
  obtain ⟨rest, hamong⟩ := hvisible (slot.base.merge (style.diff slot.base))
  obtain ⟨rest', halone⟩ := hvisible' slot.base
  rw [applyStyle, hamong, halone] at hsame
  have hstyle := congrArg Prod.snd (List.cons.inj hsame).1
  refine Style.compatible_of_base slot.base ?_
  rw [Style.merge_assoc slot.base (style.diff slot.base)]
  exact hstyle.symm

/-- What is to be seen of a push does not depend on the other pushes exactly if the components that
are pushed have no style that contradicts the one they are pushed with. A component that is alone in
its run takes the style of the run over its own, and next to others it keeps its own. -/
theorem local_iff_compatible {pushed : Style → Component → Prop}
    (hv : ∀ style c, pushed style c → bodyText c.body ≠ "") :
    (∃ f : Style × Write Component → List (Char × Style), ∀ steps,
        (∀ style c, .write style (.component c) ∈ steps → pushed style c) →
          seen slot steps = (writes steps).flatMap f) ↔
      ∀ style c, pushed style c → c.style.Compatible (style.diff slot.base) := by
  constructor
  · rintro ⟨f, hf⟩ style c hc
    refine compatible_of_local (hv style c hc) (f := f) fun steps h => hf steps fun t d hd => ?_
    obtain ⟨rfl, rfl⟩ := h t d hd
    exact hc
  · intro h
    refine ⟨fun w => (Flat.shown slot w).flatMap (Flat.paint slot), fun steps hsteps => ?_⟩
    rw [seen_eq]
    refine Flat.visible_entries fun style c hw => h style c (hsteps style c ?_)
    obtain ⟨step, hstep, hwrite⟩ := List.mem_filterMap.1 hw
    cases step with
    | write t x =>
      cases hwrite
      exact hstep
    | _ => cases hwrite

def goldenKey : Component := .mk (.keybind "key.jump") { color := some (.ofRgb 0xFFAA00) } []

theorem local_iff_compatible_bold :
    (∀ (style : Style) c, style = { decorations := Decorations.put {} .bold true } ∧ c = goldenKey →
      bodyText c.body ≠ "") ∧
    ∃ f : Style × Write Component → List (Char × Style), ∀ steps,
      (∀ style c, .write style (.component c) ∈ steps →
        style = { decorations := Decorations.put {} .bold true } ∧ c = goldenKey) →
          seen .chat steps = (writes steps).flatMap f := by
  have hv : ∀ (style : Style) c,
      style = { decorations := Decorations.put {} .bold true } ∧ c = goldenKey →
        bodyText c.body ≠ "" := by
    rintro _ _ ⟨rfl, rfl⟩
    decide
  refine ⟨hv, (local_iff_compatible hv).2 ?_⟩
  rintro _ _ ⟨rfl, rfl⟩
  decide

/-- A golden key pushed in red is red on its own and golden next to a red text. -/
theorem not_local_chat :
    ¬ ∃ f : Style × Write Component → List (Char × Style), ∀ steps,
      seen .chat steps = (writes steps).flatMap f := by
  rintro ⟨f, hf⟩
  have h : goldenKey.style.Compatible
      (Style.diff { color := some (.ofRgb 0xFF5555) } Slot.chat.base) :=
    compatible_of_local (by decide) fun steps _ => hf steps
  exact absurd h (by decide)

end Draft

end RichText
