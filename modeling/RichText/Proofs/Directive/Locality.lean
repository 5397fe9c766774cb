import RichText.Proofs.Directive.SlotLine
import RichText.Proofs.Keyed

namespace RichText.Config

/-- The lines of a text. A line break at its very end begins none. -/
def lines (s : String) : List (List Char) :=
  let ls := splitLines s.toList
  if ls.getLast? = some [] then ls.dropLast else ls

/-- What a line says on its own. -/
def alone (l : List Char) : Config × List (Nat × DirectiveError) := load (String.ofList l)

def definitions (s : String) : List Slot := (lines s).flatMap fun l => (alone l).1.slots

def blanked (numbers : List Nat) (l : List Char × Nat) : List Char :=
  if l.2 ∈ numbers then [] else l.1

/-- The text with the numbered lines emptied. -/
def blankOut (numbers : List Nat) (s : String) : String :=
  String.ofList <| ['\n'].intercalate <| ((splitLines s.toList).zipIdx 1).map (blanked numbers)

def add (c d : Config) : Config where
  slots := d.slots.foldl (fun slots slot => putSlot slot slots) c.slots
  vars := c.vars.extend d.vars

def addLine (c : Config) (l : List Char) : Config := c.add (alone l).1

theorem addLine_nil (c : Config) : c.addLine [] = c := rfl

section

variable {slot : Slot} {slots : List Slot}

theorem names_putSlot (slot : Slot) (slots : List Slot) :
    (putSlot slot slots).map (·.name) =
      if slot.name ∈ slots.map (·.name) then slots.map (·.name)
      else slots.map (·.name) ++ [slot.name] := by
  induction slots with
  | nil => rfl
  | cons s rest ih =>
    by_cases hs : s.name = slot.name
    · simp [putSlot, hs]
    · rw [putSlot, if_neg hs, List.map_cons, ih]
      by_cases hmem : slot.name ∈ rest.map (·.name)
      · simp only [List.map_cons, List.mem_cons, hmem, or_true, if_true]
      · simp only [List.map_cons, List.mem_cons, hmem, Ne.symm hs, or_self, if_false,
          List.cons_append]

theorem mem_putSlot (hn : (slots.map (·.name)).Nodup) {t : Slot} (ht : t ∈ putSlot slot slots) :
    t = slot ∨ t ∈ slots ∧ t.name ≠ slot.name := by
  induction slots with
  | nil => exact .inl (List.mem_singleton.1 ht)
  | cons s rest ih =>
    rw [List.map_cons, List.nodup_cons] at hn
    by_cases hs : s.name = slot.name
    · rw [putSlot, if_pos hs, List.mem_cons] at ht
      refine ht.imp_right fun ht => ⟨List.mem_cons_of_mem _ ht, fun heq => hn.1 ?_⟩
      rw [hs, ← heq]
      exact List.mem_map_of_mem ht
    · rw [putSlot, if_neg hs, List.mem_cons] at ht
      obtain rfl | ht := ht
      · exact .inr ⟨List.mem_cons_self, hs⟩
      · exact (ih hn.2 ht).imp_right fun h => ⟨List.mem_cons_of_mem _ h.1, h.2⟩

/-- Slots that are put one after the other stand in the order in which their names came first, each
as it came last. -/
theorem slots_put (defs : List Slot) :
    let slots := defs.foldl (fun slots slot => putSlot slot slots) []
    slots.map (·.name) = (defs.map (·.name)).eraseDups ∧
      ∀ slot ∈ slots, defs.reverse.find? (·.name = slot.name) = some slot := by
  induction defs using List.reverseRecOn with
  | nil => simp
  | append_singleton defs d ih =>
    obtain ⟨hnames, hlast⟩ := ih
    rw [List.foldl_append, List.foldl_cons, List.foldl_nil]
    refine ⟨?_, fun slot hslot => ?_⟩
    · rw [names_putSlot, hnames, List.map_append, List.map_singleton, eraseDups_concat]
      by_cases hmem : d.name ∈ defs.map (·.name)
      · rw [if_pos hmem, if_pos (List.mem_eraseDups.2 hmem)]
      · rw [if_neg hmem, if_neg (mt List.mem_eraseDups.1 hmem)]
    · have hn : (List.map (·.name) (defs.foldl (fun slots slot => putSlot slot slots) [])).Nodup :=
        hnames ▸ nodup_eraseDups _
      rw [List.reverse_append, List.reverse_singleton, List.singleton_append]
      obtain rfl | ⟨hslot, hne⟩ := mem_putSlot hn hslot
      · exact List.find?_cons_of_pos (by simp)
      · rw [List.find?_cons_of_neg (by simpa using Ne.symm hne)]
        exact hlast slot hslot

end

theorem line_eq (c : Config) (l : List Char) : c.line l = (line {} l).map c.add := by
  have hexecute : ∀ name ts, c.execute name ts = (execute {} name ts).map c.add := by
    intro name ts
    unfold execute
    split
    · cases Directive.slotOf ts <;> rfl
    · cases Directive.bindingOf ts <;> rfl
    · rfl
  unfold line
  split
  · exact hexecute _ _
  · rfl

theorem alone_eq {l : List Char} (hl : '\n' ∉ l) :
    alone l = match line {} l with
      | .ok d => (d, [])
      | .error e => ({}, [(1, e)]) := by
  rw [alone, load, String.toList_ofList, splitLines_of_notMem hl, loadLines]
  cases line {} l <;> rfl

theorem alone_nil : alone [] = ({}, []) := rfl

theorem alone_of_errors {l : List Char} (hl : '\n' ∉ l) (h : (alone l).2 ≠ []) :
    (alone l).1 = {} := by
  rw [alone_eq hl] at h ⊢
  cases hline : line {} l with
  | error e => rfl
  | ok d =>
    rw [hline] at h
    exact absurd rfl h

def errorsOf (ls : List (List Char × Nat)) : List (Nat × DirectiveError) :=
  ls.flatMap fun l => (alone l.1).2.map fun e => (l.2, e.2)

/-- Lines add up to what each of them says on its own. -/
theorem loadLines_eq {ls : List (List Char)} (hls : ∀ l ∈ ls, '\n' ∉ l) (c : Config) (n : Nat) :
    loadLines c n ls = (ls.foldl addLine c, errorsOf (ls.zipIdx n)) := by
  induction ls generalizing c n with
  | nil => rfl
  | cons l rest ih =>
    rw [List.forall_mem_cons] at hls
    have hl := alone_eq hls.1
    rw [loadLines, line_eq, List.foldl_cons, addLine, List.zipIdx_cons, errorsOf,
      List.flatMap_cons]
    cases hline : line {} l with
    | ok d =>
      rw [hline] at hl
      rw [hl]
      exact ih hls.2 (c.add d) (n + 1)
    | error e =>
      rw [hline] at hl
      rw [hl]
      change ((loadLines c (n + 1) rest).1, (n, e) :: (loadLines c (n + 1) rest).2) = _
      rw [ih hls.2 c (n + 1)]
      rfl

theorem notMem_splitLines (cs : List Char) : ∀ l ∈ splitLines cs, '\n' ∉ l := by
  induction cs with
  | nil => simp [splitLines]
  | cons c cs ih =>
    by_cases hc : c = '\n'
    · rw [splitLines, if_pos hc, List.forall_mem_cons]
      exact ⟨List.not_mem_nil, ih⟩
    · rw [splitLines, if_neg hc]
      cases hsplit : splitLines cs with
      | nil => simpa using Ne.symm hc
      | cons l ls =>
        rw [hsplit, List.forall_mem_cons] at ih
        simpa [Ne.symm hc] using ih

theorem splitLines_ne_nil (cs : List Char) : splitLines cs ≠ [] := by
  cases cs with
  | nil => exact List.cons_ne_nil _ _
  | cons c cs =>
    unfold splitLines
    split
    · exact List.cons_ne_nil _ _
    · split <;> exact List.cons_ne_nil _ _

theorem splitLines_append {l : List Char} (hl : '\n' ∉ l) (cs : List Char) :
    splitLines (l ++ '\n' :: cs) = l :: splitLines cs := by
  induction l with
  | nil => rfl
  | cons c l ih =>
    rw [List.mem_cons, not_or] at hl
    rw [List.cons_append, splitLines, if_neg (Ne.symm hl.1), ih hl.2]

theorem splitLines_intercalate {ls : List (List Char)} (hne : ls ≠ [])
    (hls : ∀ l ∈ ls, '\n' ∉ l) : splitLines (['\n'].intercalate ls) = ls := by
  induction ls with
  | nil => exact absurd rfl hne
  | cons l rest ih =>
    rw [List.forall_mem_cons] at hls
    cases rest with
    | nil => rw [List.intercalate_singleton, splitLines_of_notMem hls.1]
    | cons l' rest =>
      rw [List.intercalate_cons_cons, List.append_assoc, List.singleton_append,
        splitLines_append hls.1, ih (List.cons_ne_nil _ _) hls.2]

theorem load_eq (s : String) :
    load s = ((lines s).foldl addLine {}, errorsOf ((lines s).zipIdx 1)) := by
  rw [load, loadLines_eq (notMem_splitLines s.toList), lines]
  by_cases hlast : (splitLines s.toList).getLast? = some []
  · obtain ⟨ls, hls⟩ : ∃ ls, splitLines s.toList = ls ++ [[]] :=
      ⟨_, (List.dropLast_append_getLast? [] hlast).symm⟩
    rw [if_pos hlast, hls, List.dropLast_concat, List.foldl_append, List.zipIdx_append, errorsOf,
      List.flatMap_append]
    simp only [List.foldl_cons, List.foldl_nil, addLine_nil]
    rw [List.zipIdx_cons, List.zipIdx_nil, List.flatMap_singleton, alone_nil, List.map_nil,
      List.append_nil, errorsOf]
  · rw [if_neg hlast]

theorem notMem_lines (s : String) : ∀ l ∈ lines s, '\n' ∉ l := by
  intro l hl
  have hall := notMem_splitLines s.toList
  rw [lines] at hl
  by_cases hlast : (splitLines s.toList).getLast? = some []
  · rw [if_pos hlast] at hl
    exact hall l (List.dropLast_subset _ hl)
  · rw [if_neg hlast] at hl
    exact hall l hl

theorem slots_load (s : String) : (load s).1.slots =
    (definitions s).foldl (fun slots slot => putSlot slot slots) [] := by
  have hfold : ∀ (ls : List (List Char)) (c : Config),
      (ls.foldl addLine c).slots =
        ls.foldl (fun slots l => (alone l).1.slots.foldl (fun slots slot => putSlot slot slots)
          slots) c.slots := by
    intro ls c
    induction ls generalizing c with
    | nil => rfl
    | cons l rest ih => exact ih _
  rw [load_eq, definitions, List.foldl_flatMap]
  exact hfold (lines s) {}

theorem mem_errorsOf {ls : List (List Char)} {n i : Nat} {l : List Char}
    (hl : (l, i) ∈ ls.zipIdx n) :
    i ∈ (errorsOf (ls.zipIdx n)).map Prod.fst ↔ (alone l).2 ≠ [] := by
  rw [errorsOf, List.mem_map]
  constructor
  · rintro ⟨e, he, rfl⟩
    obtain ⟨⟨l', j⟩, hl', he⟩ := List.mem_flatMap.1 he
    obtain ⟨e', he', rfl⟩ := List.mem_map.1 he
    -- a number belongs to one line only
    obtain rfl : l = l' :=
      (List.mem_zipIdx hl).2.2.trans (List.mem_zipIdx hl').2.2.symm
    exact List.ne_nil_of_mem he'
  · intro hne
    obtain ⟨e, he⟩ := List.exists_mem_of_ne_nil _ hne
    exact ⟨(i, e.2), List.mem_flatMap.2 ⟨(l, i), hl, List.mem_map_of_mem he⟩, rfl⟩

/-- Emptying the lines that are reported takes nothing away but the reports. -/
theorem alone_blanked {ls : List (List Char)} (hls : ∀ l ∈ ls, '\n' ∉ l) {n : Nat}
    {l : List Char × Nat} (hl : l ∈ ls.zipIdx n) :
    alone (blanked ((errorsOf (ls.zipIdx n)).map Prod.fst) l) = ((alone l.1).1, []) := by
  have hmem := mem_errorsOf hl
  by_cases hi : l.2 ∈ (errorsOf (ls.zipIdx n)).map Prod.fst
  · have hline : '\n' ∉ l.1 := hls l.1 (List.fst_mem_of_mem_zipIdx hl)
    rw [blanked, if_pos hi, alone_nil, alone_of_errors hline (hmem.1 hi)]
  · rw [blanked, if_neg hi]
    exact Prod.ext rfl (not_not.1 (mt hmem.2 hi))

theorem load_blankOut (s : String) :
    load (blankOut ((load s).2.map Prod.fst) s) = ((load s).1, []) := by
  let ls := splitLines s.toList
  let numbers := (errorsOf (ls.zipIdx 1)).map Prod.fst
  have hls : ∀ l ∈ ls, '\n' ∉ l := notMem_splitLines s.toList
  have hload : load s = (ls.foldl addLine {}, errorsOf (ls.zipIdx 1)) := loadLines_eq hls {} 1
  have hblanked : ∀ l ∈ (ls.zipIdx 1).map (blanked numbers), '\n' ∉ l := by
    intro _ hmem
    obtain ⟨l, hl, rfl⟩ := List.mem_map.1 hmem
    by_cases hi : l.2 ∈ numbers
    · simp [blanked, hi]
    · simpa [blanked, hi] using hls l.1 (List.fst_mem_of_mem_zipIdx hl)
  have hne : (ls.zipIdx 1).map (blanked numbers) ≠ [] := by
    simpa [ls] using splitLines_ne_nil s.toList
  have htext : splitLines (blankOut numbers s).toList = (ls.zipIdx 1).map (blanked numbers) := by
    rw [blankOut, String.toList_ofList, splitLines_intercalate hne hblanked]
  rw [hload, load, htext, loadLines_eq hblanked]
  refine Prod.ext ?_ ?_
  · calc ((ls.zipIdx 1).map (blanked numbers)).foldl addLine {}
        = (ls.zipIdx 1).foldl (fun c l => c.addLine (blanked numbers l)) {} := List.foldl_map ..
      _ = (ls.zipIdx 1).foldl (fun c l => c.addLine l.1) {} :=
        List.foldl_ext _ _ _ fun c l hl => by rw [addLine, alone_blanked hls hl, addLine]
      _ = ((ls.zipIdx 1).map Prod.fst).foldl addLine {} := (List.foldl_map ..).symm
      _ = ls.foldl addLine {} := by rw [List.zipIdx_map_fst]
  · refine List.flatMap_eq_nil_iff.2 fun l hl => ?_
    obtain ⟨l', hl', heq⟩ := List.mem_map.1 (List.fst_mem_of_mem_zipIdx hl)
    rw [← heq, alone_blanked hls hl', List.map_nil]

theorem pairwise_snd_zipIdx (ls : List (List Char)) (n : Nat) :
    (ls.zipIdx n).Pairwise (·.2 < ·.2) := by
  induction ls generalizing n with
  | nil => exact .nil
  | cons l rest ih =>
    rw [List.zipIdx_cons, List.pairwise_cons]
    exact ⟨fun l hl => List.le_snd_of_mem_zipIdx hl, ih (n + 1)⟩

/-- Each line of a configuration is read on its own, and all of it counts or none: an error on it is
reported with its number, and a line so reported can as well be empty. The slots stand in the order
in which lines first defined their names, each as the last line with its name defines it. -/
theorem load_by_lines (s : String) :
    (load s).2 = (((lines s).zipIdx 1).flatMap fun l => (alone l.1).2.map fun e => (l.2, e.2)) ∧
      ((load s).2.map Prod.fst).Pairwise (· < ·) ∧
      (∀ e ∈ (load s).2, 1 ≤ e.1 ∧ e.1 ≤ (lines s).length) ∧
      load (blankOut ((load s).2.map Prod.fst) s) = ((load s).1, []) ∧
      ((load s).1.slots.map (·.name)).Nodup ∧
      (load s).1.slots.map (·.name) = ((definitions s).map (·.name)).eraseDups ∧
      ∀ slot ∈ (load s).1.slots,
        (definitions s).reverse.find? (·.name = slot.name) = some slot := by
  have herrors : (load s).2 = errorsOf ((lines s).zipIdx 1) := congrArg Prod.snd (load_eq s)
  obtain ⟨hnames, hlast⟩ := slots_put (definitions s)
  rw [← slots_load] at hnames hlast
  refine ⟨herrors, ?_, ?_, load_blankOut s, hnames ▸ nodup_eraseDups _, hnames, hlast⟩
  · rw [herrors, List.pairwise_map, errorsOf, List.pairwise_flatMap]
    constructor
    · rintro ⟨l, i⟩ hl
      have hline := alone_eq (notMem_lines s l (List.fst_mem_of_mem_zipIdx hl))
      cases hresult : line {} l <;> rw [hresult] at hline <;> simp [hline]
    · refine (pairwise_snd_zipIdx (lines s) 1).imp fun {l l'} h e he e' he' => ?_
      obtain ⟨_, -, rfl⟩ := List.mem_map.1 he
      obtain ⟨_, -, rfl⟩ := List.mem_map.1 he'
      exact h
  · intro e he
    rw [herrors] at he
    obtain ⟨⟨l, i⟩, hl, he⟩ := List.mem_flatMap.1 he
    obtain ⟨e', -, rfl⟩ := List.mem_map.1 he
    obtain ⟨hlow, hhigh, -⟩ := List.mem_zipIdx hl
    exact ⟨hlow, by omega⟩

end RichText.Config
