import RichText.Directive.Config
import RichText.Proofs.Directive.Quotation
import RichText.Proofs.Style.Digits
import RichText.Proofs.Style.Merge

namespace RichText

namespace Directive

def escapeChar (c : Char) : List Char :=
  if c = '\\' then ['\\', '\\'] else if c = '\n' then ['\\', 'n'] else [c]

def escape (cs : List Char) : List Char := cs.flatMap escapeChar

theorem unescape_escape (cs : List Char) : unescape (escape cs) = cs := by
  have hchar : ∀ c rest, unescape (escapeChar c ++ rest) = c :: unescape rest := by
    intro c rest
    unfold escapeChar
    by_cases hc : c = '\\'
    · subst hc
      simp [unescape]
    · by_cases hn : c = '\n'
      · subst hn
        simp [unescape]
      · simp [unescape, hc, hn]
  induction cs with
  | nil => rfl
  | cons c cs ih => rw [escape, List.flatMap_cons, hchar, ← escape, ih]

theorem notMem_escape (cs : List Char) : '\n' ∉ escape cs := by
  intro h
  obtain ⟨c, -, h⟩ := List.mem_flatMap.1 h
  unfold escapeChar at h
  split at h
  · exact absurd h (by decide)
  · split at h
    · exact absurd h (by decide)
    · next hn => exact hn (List.mem_singleton.1 h).symm

def flagLetter (letter : Char) : Option Bool → List Char
  | none => []
  | some on => [if on then letter else letter.toUpper]

def flagLetters (d : Decorations) : List Char :=
  Decoration.letters.flatMap fun l => flagLetter l.2 (d.get l.1)

theorem setFlags_flagLetter {l : Decoration × Char} (hl : l ∈ Decoration.letters)
    (d : Decorations) (state : Option Bool) (rest : List Char) :
    setFlags d (flagLetter l.2 state ++ rest) = setFlags (state.elim d (d.put l.1)) rest := by
  have hread : ∀ l ∈ Decoration.letters, ∀ on : Bool,
      Decoration.ofCode? (if on then l.2 else l.2.toUpper) = some l.1 ∧
        (if on then l.2 else l.2.toUpper).isLower = on := by decide
  cases state with
  | none => rfl
  | some on =>
    obtain ⟨hcode, hlower⟩ := hread l hl on
    rw [flagLetter, List.singleton_append, setFlags, hcode]
    simp only [hlower]
    rfl

/-- The letters are read one by one, as a difference is taken flag by flag. -/
theorem setFlags_flatMap (d : Decorations) {ls : List (Decoration × Char)}
    (h : ls ⊆ Decoration.letters) (acc : Decorations) :
    setFlags acc (ls.flatMap fun l => flagLetter l.2 (d.get l.1)) =
      .ok ((ls.map (·.1)).foldl (d.note {}) acc) := by
  induction ls generalizing acc with
  | nil => rfl
  | cons l rest ih =>
    have hnote : (d.get l.1).elim acc (acc.put l.1) = d.note {} acc l.1 := by
      have hempty : Decorations.get {} l.1 = none := by
        have : ∀ l ∈ Decoration.letters, Decorations.get {} l.1 = none := by decide
        exact this l (h List.mem_cons_self)
      rw [Decorations.note, hempty]
      cases d.get l.1 <;> rfl
    rw [List.flatMap_cons, setFlags_flagLetter (h List.mem_cons_self), hnote,
      ih fun _ hl => h (List.mem_cons_of_mem l hl)]
    rfl

theorem setFlags_flagLetters (d : Decorations) : setFlags {} (flagLetters d) = .ok d.known := by
  rw [flagLetters, setFlags_flatMap d (List.Subset.refl _), ← Decorations.empty_overlay d.known,
    ← Decorations.overlay_diff, Decorations.empty_overlay]
  rfl

theorem notMem_flagLetters (d : Decorations) : '\n' ∉ flagLetters d := by
  intro h
  obtain ⟨l, hl, h⟩ := List.mem_flatMap.1 h
  have hletter : ∀ l ∈ Decoration.letters, ∀ on : Bool,
      (if on then l.2 else l.2.toUpper) ≠ '\n' := by decide
  cases hstate : d.get l.1 with
  | none =>
    rw [hstate] at h
    cases h
  | some on =>
    rw [hstate] at h
    exact hletter l hl on (List.mem_singleton.1 h).symm

def optionTokens (option : Char) (value : Option (List Char)) : List (List Char) :=
  value.toList.flatMap fun v => [['-', option], v]

theorem foldlM_optionTokens {option : Char} (ho : takesValue option = true) {name : Option String}
    {slot slot' : Slot} {value : Option (List Char)}
    (h : value.elim (.ok slot) (applyOption slot option) = .ok slot') (ts : List (List Char)) :
    (optionTokens option value ++ ts).foldlM SlotReading.token { name, slot } =
      ts.foldlM SlotReading.token { name, slot := slot' } := by
  cases value with
  | none =>
    obtain rfl : slot = slot' := Except.ok.inj h
    rfl
  | some v =>
    have hopen : SlotReading.token { name, slot } ['-', option] =
        .ok { name, slot, pending := some option } := by
      change SlotReading.cluster _ [option] = _
      rw [SlotReading.cluster, if_pos ho]
      rfl
    have hvalue : SlotReading.token { name, slot, pending := some option } v =
        .ok { name, slot := slot' } := by
      have h : applyOption slot option v = .ok slot' := h
      change (applyOption slot option v).map _ = _
      rw [h]
      rfl
    rw [optionTokens, Option.toList_some, List.flatMap_singleton, List.cons_append,
      List.cons_append, List.nil_append, List.foldlM_cons, hopen]
    change (v :: ts).foldlM SlotReading.token { name, slot, pending := some option } = _
    rw [List.foldlM_cons, hvalue]
    rfl

end Directive

namespace Slot

open Directive

/-- A directive can say all that there is to this slot. -/
structure Expressible (slot : Slot) : Prop where
  name : '\n' ∉ slot.name.toList
  hyphen : '-' ∈ slot.name.toList.head? → slot.name = "-"
  base : slot.base =
    { color := slot.base.color, font := slot.base.font, decorations := slot.base.decorations }
  font : ∀ font ∈ slot.base.font, '\n' ∉ font.toList
  flags : slot.base.decorations.Declared

def options (slot : Slot) : List (List Char) :=
  optionTokens 'c' (slot.base.color.map Color.argbText) ++
    (optionTokens 'f' ((some (flagLetters slot.base.decorations)).filter (· ≠ [])) ++
      (optionTokens 'F' (slot.base.font.map String.toList) ++
        optionTokens 'b' (slot.lineBreak.map fun s => escape s.toList)))

def directive (slot : Slot) : String :=
  "/slot " ++ String.ofList (argument slot.name.toList ++ arguments slot.options)

variable {color : Option Color} {decorations : Decorations} {font lineBreak : Option String}

theorem read_color : (color.map Color.argbText).elim (.ok { name := "" })
    (applyOption { name := "" } 'c') = .ok { name := "", base := { color } } := by
  cases color with
  | none => rfl
  | some c =>
    change applyOption { name := "" } 'c' c.argbText = _
    rw [applyOption, Color.parseChars_argbText]

theorem read_flags (h : decorations.Declared) :
    ((some (flagLetters decorations)).filter (· ≠ [])).elim
        (.ok { name := "", base := { color } })
        (applyOption { name := "", base := { color } } 'f') =
      .ok { name := "", base := { color, decorations } } := by
  have hletters := setFlags_flagLetters decorations
  rw [h.known_eq] at hletters
  by_cases h : flagLetters decorations = []
  · rw [h] at hletters ⊢
    obtain rfl : {} = decorations := Except.ok.inj hletters
    rfl
  · rw [Option.filter_some_pos (by simpa using h)]
    change (setFlags {} (flagLetters decorations) >>= _) = _
    rw [hletters]
    rfl

theorem read_font : (font.map String.toList).elim
    (.ok { name := "", base := { color, decorations } })
    (applyOption { name := "", base := { color, decorations } } 'F') =
      .ok { name := "", base := { color, font, decorations } } := by
  cases font with
  | none => rfl
  | some s =>
    have hvalue : String.ofList s.toList = s := String.ofList_toList
    exact congrArg (fun font : String => (.ok { name := "", base := { color, font, decorations } } :
      Except DirectiveError Slot)) hvalue

theorem read_break : (lineBreak.map fun s => escape s.toList).elim
    (.ok { name := "", base := { color, font, decorations } })
    (applyOption { name := "", base := { color, font, decorations } } 'b') =
      .ok { name := "", base := { color, font, decorations }, lineBreak } := by
  cases lineBreak with
  | none => rfl
  | some s =>
    change applyOption _ 'b' (escape s.toList) = _
    rw [applyOption, unescape_escape, String.ofList_toList]

theorem token_name {name : String} (h : '-' ∈ name.toList.head? → name = "-") :
    SlotReading.token {} name.toList = .ok { name := some name } := by
  have hname : String.ofList name.toList = name := String.ofList_toList
  rcases hcs : name.toList with _ | ⟨c, cs⟩ <;> rw [hcs] at h hname
  · rw [← hname]
    rfl
  · by_cases hc : c = '-'
    · obtain rfl : name = "-" := h (by rw [hc]; rfl)
      obtain ⟨rfl, rfl⟩ : c = '-' ∧ cs = [] := by simpa using hcs.symm
      rfl
    · rw [← hname]
      simp [SlotReading.token, hc]

theorem slotOf_options {slot : Slot} (h : slot.Expressible) :
    slotOf (slot.name.toList :: slot.options) = .ok slot := by
  obtain ⟨name, ⟨color, shadow, font, decorations, click, hover, insertion⟩, lineBreak⟩ := slot
  obtain ⟨rfl, rfl, rfl, rfl⟩ : shadow = none ∧ click = none ∧ hover = none ∧ insertion = none := by
    simpa using h.base
  let slot : Slot := { name, base := { color, font, decorations }, lineBreak }
  have hoptions : slot.options.foldlM SlotReading.token { name := some name } =
      .ok { name := some name, slot := { slot with name := "" } } := by
    rw [options, foldlM_optionTokens rfl read_color, foldlM_optionTokens rfl (read_flags h.flags),
      foldlM_optionTokens rfl read_font, ← List.append_nil (optionTokens 'b' _),
      foldlM_optionTokens rfl read_break]
    rfl
  have hread : (name.toList :: slot.options).foldlM SlotReading.token {} =
      .ok { name := some name, slot := { slot with name := "" } } := by
    rw [List.foldlM_cons, token_name h.hyphen]
    exact hoptions
  rw [slotOf]
  change ((name.toList :: slot.options).foldlM SlotReading.token {} >>= _) = _
  rw [hread]
  rfl

theorem notMem_options {slot : Slot} (h : slot.Expressible) :
    ∀ t ∈ slot.options, '\n' ∉ t := by
  have hoption : ∀ {option : Char} {value : Option (List Char)}, option ≠ '\n' →
      (∀ v ∈ value, '\n' ∉ v) → ∀ t ∈ optionTokens option value, '\n' ∉ t := by
    intro option value ho hv t ht
    cases value with
    | none => cases ht
    | some v =>
      obtain rfl | rfl : t = ['-', option] ∨ t = v := by simpa [optionTokens] using ht
      · simpa using ho.symm
      · exact hv _ rfl
  intro t ht
  simp only [options, List.mem_append] at ht
  obtain ht | ht | ht | ht := ht
  · refine hoption (by decide) (fun v hv => ?_) t ht
    obtain ⟨c, -, rfl⟩ := Option.map_eq_some_iff.1 hv
    exact fun hmem => by cases (Color.isBlank_of_mem_argbText hmem)
  · refine hoption (by decide) (fun v hv => ?_) t ht
    obtain ⟨hv, -⟩ := Option.filter_eq_some_iff.1 hv
    rw [← Option.some.inj hv]
    exact notMem_flagLetters slot.base.decorations
  · refine hoption (by decide) (fun v hv => ?_) t ht
    obtain ⟨s, hs, rfl⟩ := Option.map_eq_some_iff.1 hv
    exact h.font s hs
  · refine hoption (by decide) (fun v hv => ?_) t ht
    obtain ⟨s, -, rfl⟩ := Option.map_eq_some_iff.1 hv
    exact notMem_escape s.toList

end Slot

namespace Config

theorem splitLines_of_notMem {cs : List Char} (h : '\n' ∉ cs) : splitLines cs = [cs] := by
  induction cs with
  | nil => rfl
  | cons c cs ih =>
    rw [List.mem_cons, not_or] at h
    rw [splitLines, if_neg (Ne.symm h.1), ih h.2]

/-- Every slot that a directive can express is what one line of text describes. -/
theorem load_directive {slot : Slot} (h : slot.Expressible) :
    '\n' ∉ slot.directive.toList ∧ load slot.directive = ({ slots := [slot] }, []) := by
  let rest := Directive.argument slot.name.toList ++ Directive.arguments slot.options
  let text := '/' :: 's' :: 'l' :: 'o' :: 't' :: ' ' :: rest
  have htext : slot.directive.toList = text := by
    rw [Slot.directive, String.toList_append, String.toList_ofList, String.toList_ofList]
    rfl
  have hline : '\n' ∉ text := by
    have hrest : '\n' ∉ rest := by
      rw [List.mem_append, not_or]
      exact ⟨Directive.notMem_argument h.name, Directive.notMem_arguments (Slot.notMem_options h)⟩
    simpa [text] using hrest
  have hrest : Trimmed rest := Directive.trimmed_arguments slot.name.toList slot.options
  have htrim : trimBlanks text = text := by
    have hne : rest ≠ [] :=
      List.append_ne_nil_of_left_ne_nil (Directive.trimmed_argument slot.name.toList).1 _
    refine Trimmed.trimBlanks ⟨?_, ?_⟩
    · rintro c ⟨⟩
      rfl
    · change ∀ c ∈ (['/', 's', 'l', 'o', 't', ' '] ++ rest).getLast?, isBlank c = false
      rw [List.getLast?_append_of_ne_nil _ hne]
      exact hrest.2
  have hexecute : line {} text = .ok { slots := [slot] } := by
    have hname : ('s' :: 'l' :: 'o' :: 't' :: ' ' :: rest).takeWhile (!isAsciiBlank ·) =
        ['s', 'l', 'o', 't'] := rfl
    have harguments : ('s' :: 'l' :: 'o' :: 't' :: ' ' :: rest).dropWhile (!isAsciiBlank ·) =
        ' ' :: rest := rfl
    unfold line
    rw [htrim]
    simp only [text, hname, harguments, List.tail_cons, hrest.trimBlanks, rest,
      Directive.tokens_arguments]
    change (Directive.slotOf (slot.name.toList :: slot.options)).map _ = _
    rw [Slot.slotOf_options h]
    rfl
  rw [load, htext]
  refine ⟨hline, ?_⟩
  rw [splitLines_of_notMem hline, loadLines, hexecute]
  rfl

theorem load_directive_awkward :
    let slot : Slot := {
      name := "a\"\\"
      base := { color := some ⟨0x80FF5555⟩
                decorations := (Decorations.put {} .bold true).put .italic false
                font := some "" }
      lineBreak := some "\\\n\" " }
    slot.Expressible ∧
      load "/slot \"a\\\"\"\\\"\" -c #80FF5555 -f bI -F \"\" -b \"\"\\\"\"\\\"\"\\\"n\\\" \"" =
        ({ slots := [slot] }, []) := by
  intro slot
  have hslot : slot.Expressible := ⟨by decide, by decide, rfl, by decide, by decide⟩
  have htext : slot.directive =
      "/slot \"a\\\"\"\\\"\" -c #80FF5555 -f bI -F \"\" -b \"\"\\\"\"\\\"\"\\\"n\\\" \"" := by
    decide
  rw [← htext]
  exact ⟨hslot, (load_directive hslot).2⟩

end Config

end RichText
