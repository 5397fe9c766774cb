import Mathlib.Logic.Function.Basic
import RichText.Component.Terminal
import RichText.Proofs.Component.Letters
import RichText.Proofs.Style.Merge

namespace RichText

inductive Foreground where
  | rgb (red green blue : Nat)
  | palette (number : Nat)
  deriving DecidableEq

structure Pen where
  foreground : Option Foreground := none
  attributes : Terminal.Attribute → Bool := fun _ => false

def Foreground.ofColor (mode : ColorMode) (c : Color) : Foreground :=
  match mode with
  | .trueColor => .rgb c.red.toNat c.green.toNat c.blue.toNat
  | .legacy => .palette (Terminal.paletteNumber c.nearestIndex)

/-- What a terminal can show of a style. -/
def Pen.ofStyle (mode : ColorMode) (s : Style) : Pen where
  foreground := s.color.map (.ofColor mode)
  attributes a := s.decorations.get a.flag = some true

inductive Reading where
  | ground
  | escape
  | parameters (earlier : List Nat) (current : Nat)

/-- A terminal that knows the sequences that select colours and attributes. -/
structure Screen where
  shown : List (Char × Pen) := []
  pen : Pen := {}
  reading : Reading := .ground

namespace Screen

def attribute? : Nat → Option Terminal.Attribute
  | 1 => some .bold
  | 3 => some .italic
  | 4 => some .underlined
  | 5 => some .slowBlink
  | 9 => some .crossedOut
  | _ => none

def select (pen : Pen) : List Nat → Pen
  | [] => pen
  | 0 :: rest => select {} rest
  | 39 :: rest => select { pen with foreground := none } rest
  | 38 :: 2 :: red :: green :: blue :: rest =>
    select { pen with foreground := some (.rgb red green blue) } rest
  | 38 :: 5 :: number :: rest => select { pen with foreground := some (.palette number) } rest
  | n :: rest =>
    select ((attribute? n).elim pen fun a =>
      { pen with attributes := Function.update pen.attributes a true }) rest

def feed (s : Screen) (c : Char) : Screen :=
  match s.reading with
  | .ground =>
    if c = '\x1b' then { s with reading := .escape }
    else { s with shown := s.shown ++ [(c, s.pen)] }
  | .escape => { s with reading := if c = '[' then .parameters [] 0 else .ground }
  | .parameters earlier current =>
    if c.isDigit then
      { s with reading := .parameters earlier (10 * current + (c.toNat - '0'.toNat)) }
    else if c = ';' then { s with reading := .parameters (earlier ++ [current]) 0 }
    else
      { s with
        pen := if c = 'm' then select s.pen (earlier ++ [current]) else s.pen
        reading := .ground }

def feedAll (s : Screen) (text : String) : Screen := text.toList.foldl feed s

theorem feedAll_append (s : Screen) (text text' : String) :
    s.feedAll (text ++ text') = (s.feedAll text).feedAll text' := by
  rw [feedAll, String.toList_append, List.foldl_append]
  rfl

variable {shown : List (Char × Pen)} {pen : Pen}

theorem feedAll_text {text : String} (h : '\x1b' ∉ text.toList) :
    ({ shown, pen } : Screen).feedAll text =
      { shown := shown ++ text.toList.map (·, pen), pen } := by
  unfold feedAll
  generalize text.toList = cs at h
  induction cs generalizing shown with
  | nil => rw [List.map_nil, List.append_nil, List.foldl_nil]
  | cons c cs ih =>
    rw [List.mem_cons, not_or] at h
    have hstep : ({ shown, pen } : Screen).feed c = { shown := shown ++ [(c, pen)], pen } :=
      if_neg (Ne.symm h.1)
    rw [List.foldl_cons, hstep, ih h.2, List.append_assoc]
    rfl

theorem foldl_feed_digits {ds : List Char} (h : ∀ c ∈ ds, c.isDigit = true) (earlier : List Nat)
    (current : Nat) :
    ds.foldl feed { shown, pen, reading := .parameters earlier current } =
      { shown, pen, reading := .parameters earlier (Nat.ofDigitChars 10 ds current) } := by
  induction ds generalizing current with
  | nil => rfl
  | cons c cs ih =>
    rw [List.forall_mem_cons] at h
    have hstep : feed { shown, pen, reading := .parameters earlier current } c = {
        shown, pen
        reading := .parameters earlier (10 * current + (c.toNat - '0'.toNat)) } := if_pos h.1
    rw [List.foldl_cons, hstep, ih h.2, Nat.ofDigitChars_cons]

theorem feedAll_number (earlier : List Nat) (n : Nat) :
    ({ shown, pen, reading := .parameters earlier 0 } : Screen).feedAll (toString n) =
      { shown, pen, reading := .parameters earlier n } := by
  have hdigits : ∀ c ∈ Nat.toDigits 10 n, c.isDigit = true := fun c hc =>
    Nat.isDigit_of_mem_toDigits (by decide) (by decide) hc
  rw [feedAll, Nat.toString_eq_ofList_toDigits, String.toList_ofList, foldl_feed_digits hdigits,
    Nat.ofDigitChars_ten_toDigits]

def parameterText (ns : List Nat) : String := ";".intercalate (ns.map toString)

theorem parameterText_cons (n m : Nat) (ms : List Nat) :
    parameterText (n :: m :: ms) = toString n ++ (";" ++ parameterText (m :: ms)) := by
  rw [parameterText, List.map_cons, String.intercalate_cons_of_ne_nil (by simp),
    String.append_assoc]
  rfl

theorem parameterText_singleton (n : Nat) : parameterText [n] = toString n := by
  rw [parameterText, List.map_singleton, String.intercalate_singleton]

theorem feedAll_parameters (earlier : List Nat) (n : Nat) (ns : List Nat) :
    ({ shown, pen, reading := .parameters earlier 0 } : Screen).feedAll
        (parameterText (n :: ns) ++ "m") = { shown, pen := select pen (earlier ++ n :: ns) } := by
  induction ns generalizing earlier n with
  | nil =>
    rw [parameterText_singleton, feedAll_append, feedAll_number]
    rfl
  | cons m ms ih =>
    have hnext : ({ shown, pen, reading := .parameters earlier n } : Screen).feedAll ";" =
        { shown, pen, reading := .parameters (earlier ++ [n]) 0 } := rfl
    rw [parameterText_cons, String.append_assoc, String.append_assoc, feedAll_append,
      feedAll_number, feedAll_append, hnext, ih, List.append_assoc]
    rfl

theorem feedAll_sgr (n : Nat) (ns : List Nat) :
    ({ shown, pen } : Screen).feedAll (Terminal.sgr (parameterText (n :: ns))) =
      { shown, pen := select pen (n :: ns) } := by
  have hopen : ({ shown, pen } : Screen).feedAll "\x1b[" =
      { shown, pen, reading := .parameters [] 0 } := rfl
  rw [Terminal.sgr, String.append_assoc, feedAll_append, hopen, feedAll_parameters]
  rfl

theorem colorParameters_eq (mode : ColorMode) (c : Color) :
    Terminal.colorParameters mode c = parameterText (match mode with
      | .trueColor => [38, 2, c.red.toNat, c.green.toNat, c.blue.toNat]
      | .legacy => [38, 5, Terminal.paletteNumber c.nearestIndex]) := by
  have htrue : "38;2;" = toString 38 ++ (";" ++ (toString 2 ++ ";")) := rfl
  have hlegacy : "38;5;" = toString 38 ++ (";" ++ (toString 5 ++ ";")) := rfl
  cases mode with
  | trueColor =>
    simp only [Terminal.colorParameters, parameterText_cons, parameterText_singleton, htrue,
      String.append_assoc]
  | legacy =>
    simp only [Terminal.colorParameters, parameterText_cons, parameterText_singleton, hlegacy,
      String.append_assoc]

theorem feedAll_color (mode : ColorMode) (c : Color) :
    ({ shown, pen } : Screen).feedAll (Terminal.sgr (Terminal.colorParameters mode c)) =
      { shown, pen := { pen with foreground := some (.ofColor mode c) } } := by
  rw [colorParameters_eq]
  cases mode <;> exact feedAll_sgr _ _

theorem feedAll_attribute (a : Terminal.Attribute) :
    ({ shown, pen } : Screen).feedAll (Terminal.sgr a.parameter) =
      { shown, pen := { pen with attributes := Function.update pen.attributes a true } } := by
  obtain ⟨n, htext, hselect⟩ : ∃ n, a.parameter = toString n ∧
      select pen [n] = { pen with attributes := Function.update pen.attributes a true } := by
    cases a with
    | bold => exact ⟨1, rfl, rfl⟩
    | italic => exact ⟨3, rfl, rfl⟩
    | underlined => exact ⟨4, rfl, rfl⟩
    | slowBlink => exact ⟨5, rfl, rfl⟩
    | crossedOut => exact ⟨9, rfl, rfl⟩
  rw [htext, ← parameterText_singleton, feedAll_sgr, hselect]

theorem feedAll_attributes (as : List Terminal.Attribute) :
    ({ shown, pen } : Screen).feedAll
        (String.join (as.map fun a => Terminal.sgr a.parameter)) =
      { shown, pen := { pen with attributes := fun a => a ∈ as || pen.attributes a } } := by
  induction as generalizing pen with
  | nil => simp [feedAll]
  | cons a rest ih =>
    rw [List.map_cons, String.join_cons, feedAll_append, feedAll_attribute, ih]
    congr 2
    funext other
    by_cases h : other = a <;> simp [h]

theorem mem_enabled {s : Style} {a : Terminal.Attribute} :
    a ∈ Terminal.enabled s ↔ s.decorations.get a.flag = some true := by
  have hlisted : a ∈ Terminal.Attribute.all := by cases a <;> decide
  rw [Terminal.enabled, List.mem_filter, Decorations.contains_enabled]
  exact and_iff_right hlisted

theorem feedAll_opening (mode : ColorMode) (s : Style) :
    ({ shown } : Screen).feedAll (s.color.elim "" (fun c =>
        Terminal.sgr (Terminal.colorParameters mode c)) ++ String.join ((Terminal.enabled s).map
          fun a => Terminal.sgr a.parameter)) =
      { shown, pen := .ofStyle mode s } := by
  have hcolor : ({ shown } : Screen).feedAll (s.color.elim "" fun c =>
      Terminal.sgr (Terminal.colorParameters mode c)) =
        { shown, pen := { foreground := s.color.map (.ofColor mode) } } := by
    cases s.color with
    | none => rfl
    | some c => exact feedAll_color mode c
  rw [feedAll_append, hcolor, feedAll_attributes]
  simp only [mem_enabled, Bool.or_false]
  rfl

theorem feedAll_closing (mode : ColorMode) (s : Style) :
    ({ shown, pen := .ofStyle mode s } : Screen).feedAll (Terminal.closing s) = { shown } := by
  have hsgr : ∀ {pen : Pen} (n : Nat), ({ shown, pen } : Screen).feedAll
      (Terminal.sgr (toString n)) = { shown, pen := select pen [n] } := by
    intro pen n
    rw [← parameterText_singleton, feedAll_sgr]
  unfold Terminal.closing
  by_cases h : Terminal.enabled s = []
  · have hnone : (Pen.ofStyle mode s).attributes = fun _ => false := by
      funext a
      have ha : a ∉ Terminal.enabled s := by simp [h]
      rw [mem_enabled] at ha
      simp [Pen.ofStyle, ha]
    cases hcolor : s.color with
    | none =>
      have hpen : Pen.ofStyle mode s = {} := by
        rw [Pen.ofStyle, Pen.mk.injEq]
        exact ⟨by rw [hcolor]; rfl, hnone⟩
      rw [h, hpen]
      rfl
    | some c =>
      have hpen : select (Pen.ofStyle mode s) [39] = {} := by
        change ({ foreground := none, attributes := (Pen.ofStyle mode s).attributes } : Pen) = {}
        rw [hnone]
      rw [← hpen, h]
      exact hsgr 39
  · have hsome : (!(Terminal.enabled s).isEmpty) = true := by simpa using h
    rw [if_pos hsome]
    exact hsgr 0

theorem feedAll_styled (mode : ColorMode) (s : Style) {text : String} (h : '\x1b' ∉ text.toList) :
    ({ shown } : Screen).feedAll (Terminal.styled mode s text) =
      { shown := shown ++ text.toList.map (·, .ofStyle mode s) } := by
  unfold Terminal.styled
  by_cases hempty : text = ""
  · rw [if_pos hempty, hempty, String.toList_empty, List.map_nil, List.append_nil]
    rfl
  · rw [if_neg hempty, feedAll_append, feedAll_append, feedAll_opening, feedAll_text h,
      feedAll_closing]

theorem feedAll_fragments (mode : ColorMode) (fs : List (Style × String))
    (h : ∀ f ∈ fs, '\x1b' ∉ f.2.toList) :
    ({ shown } : Screen).feedAll (String.join (fs.map fun f => Terminal.styled mode f.1 f.2)) =
      { shown := shown ++ (Component.painted fs).map fun l => (l.1, .ofStyle mode l.2) } := by
  induction fs generalizing shown with
  | nil => simp [feedAll, Component.painted]
  | cons f rest ih =>
    rw [List.forall_mem_cons] at h
    rw [List.map_cons, String.join_cons, feedAll_append, feedAll_styled mode f.1 h.1, ih h.2,
      Component.painted_cons, List.map_append, List.map_map, List.append_assoc]
    rfl

/-- A terminal at its defaults shows the text of a component, each character in the effective style
of its own, and is at its defaults again. -/
theorem feedAll_render (mode : ColorMode) (c : Component) (h : '\x1b' ∉ c.plainText.toList)
    (shown : List (Char × Pen)) :
    ({ shown } : Screen).feedAll (Terminal.render mode c) = {
        shown := shown ++ (c.letters []).map fun l =>
          (l.1, .ofStyle mode (Component.effective l.2)) } ∧
      (c.letters []).map Prod.fst = c.plainText.toList := by
  have hpainted : Component.painted (c.fragments .empty) = Component.merged (c.letters []) :=
    Component.painted_fragments [] c
  have hclean : ∀ f ∈ c.fragments .empty, '\x1b' ∉ f.2.toList := by
    intro f hf hmem
    have hletter : ('\x1b', f.1) ∈ Component.painted (c.fragments .empty) :=
      List.mem_flatMap.2 ⟨f, hf, List.mem_map.2 ⟨_, hmem, rfl⟩⟩
    rw [hpainted] at hletter
    obtain ⟨l, hl, heq⟩ := List.mem_map.1 hletter
    have hchar : l.1 = '\x1b' := congrArg Prod.fst heq
    rw [← Component.letters_fst [], ← hchar] at h
    exact h (List.mem_map_of_mem hl)
  refine ⟨?_, Component.letters_fst [] c⟩
  rw [Terminal.render, feedAll_fragments mode _ hclean, hpainted, Component.merged, List.map_map]
  rfl

theorem feedAll_render_nested :
    let inner : Component := .mk (.text "b") { decorations := Decorations.put {} .bold false } []
    let outer : Component := .mk (.translate "a" none [inner, .text ""])
      { color := some (.ofRgb 0xFF5555), decorations := Decorations.put {} .bold true } [.text "c"]
    '\x1b' ∉ outer.plainText.toList ∧ ({} : Screen).feedAll (Terminal.render .trueColor outer) =
      { shown := [('a', .ofStyle .trueColor outer.style), (' ', .ofStyle .trueColor outer.style),
        ('b', .ofStyle .trueColor { color := some (.ofRgb 0xFF5555)
                                    decorations := Decorations.put {} .bold false }),
        (' ', .ofStyle .trueColor outer.style), ('c', .ofStyle .trueColor outer.style)] } := by
  intro inner outer
  have htext : '\x1b' ∉ outer.plainText.toList := by decide
  have h := (feedAll_render .trueColor outer htext []).1
  exact ⟨htext, h⟩

end Screen

end RichText
