import Mathlib.Data.List.Basic
import RichText.Characters

namespace RichText

theorem isBlank_of_isAsciiBlank {c : Char} (h : isAsciiBlank c = true) : isBlank c = true := by
  simp only [isAsciiBlank, Bool.or_eq_true, beq_iff_eq] at h
  rcases h with (((rfl | rfl) | rfl) | rfl) | rfl <;> rfl

def Trimmed (cs : List Char) : Prop :=
  (∀ c ∈ cs.head?, isBlank c = false) ∧ ∀ c ∈ cs.getLast?, isBlank c = false

instance (cs : List Char) : Decidable (Trimmed cs) :=
  @instDecidableAnd _ _ (Option.decidableForallMem _) (Option.decidableForallMem _)

variable {cs ds left right : List Char}

theorem dropBlanks_of_head (h : ∀ c ∈ cs.head?, isBlank c = false) : dropBlanks cs = cs := by
  cases cs with
  | nil => rfl
  | cons c cs => exact List.dropWhile_cons_of_neg (by simp [h c rfl])

theorem dropBlanksEnd_of_last (h : ∀ c ∈ cs.getLast?, isBlank c = false) :
    dropBlanksEnd cs = cs := by
  rw [← List.head?_reverse] at h
  rw [dropBlanksEnd, ← dropBlanks, dropBlanks_of_head h, List.reverse_reverse]

theorem Trimmed.trimBlanks (h : Trimmed cs) : trimBlanks cs = cs := by
  rw [RichText.trimBlanks, dropBlanks_of_head h.1, dropBlanksEnd_of_last h.2]

theorem trimmed_of_forall (h : ∀ c ∈ cs, isBlank c = false) : Trimmed cs :=
  ⟨fun c hc => h c (List.mem_of_head? hc), fun c hc => h c (List.mem_of_getLast? hc)⟩

theorem trimmed_append (hcs : cs ≠ []) (hds : ds ≠ []) (hhead : ∀ c ∈ cs.head?, isBlank c = false)
    (hlast : ∀ c ∈ ds.getLast?, isBlank c = false) : Trimmed (cs ++ ds) := by
  refine ⟨?_, ?_⟩
  · rwa [List.head?_append_of_ne_nil _ hcs]
  · rwa [List.getLast?_append_of_ne_nil _ hds]

theorem head?_dropBlanks (cs : List Char) : ∀ c ∈ (dropBlanks cs).head?, isBlank c = false := by
  intro c hc
  have hhead := List.head?_dropWhile_not isBlank cs
  rw [← dropBlanks, hc] at hhead
  exact hhead

theorem trimmed_trimBlanks (cs : List Char) : Trimmed (trimBlanks cs) := by
  refine ⟨fun c hc => ?_, fun c hc => ?_⟩
  · -- what is left at the end begins as it did before
    have hstart : trimBlanks cs <+: dropBlanks cs := by
      rw [← List.reverse_suffix, trimBlanks, dropBlanksEnd, List.reverse_reverse]
      exact List.dropWhile_suffix _
    obtain ⟨_, hsplit⟩ := hstart
    have hne : trimBlanks cs ≠ [] := by
      intro hnil
      rw [hnil] at hc
      cases hc
    refine head?_dropBlanks cs c ?_
    rwa [← hsplit, List.head?_append_of_ne_nil _ hne]
  · rw [trimBlanks, dropBlanksEnd, List.getLast?_reverse] at hc
    exact head?_dropBlanks _ c hc

theorem trimBlanks_append (hleft : ∀ c ∈ left, isBlank c = true)
    (hright : ∀ c ∈ right, isBlank c = true) (h : Trimmed cs) :
    trimBlanks (left ++ cs ++ right) = cs := by
  have hstart : dropBlanks (left ++ cs ++ right) = dropBlanks (cs ++ right) := by
    rw [List.append_assoc]
    exact List.dropWhile_append_of_pos hleft
  have hend : dropBlanksEnd (cs ++ right) = cs := by
    have hrev : ∀ c ∈ right.reverse, isBlank c = true := fun c hc =>
      hright c (List.mem_reverse.1 hc)
    rw [dropBlanksEnd, List.reverse_append, List.dropWhile_append_of_pos hrev, ← dropBlanksEnd]
    exact dropBlanksEnd_of_last h.2
  rw [trimBlanks, hstart]
  by_cases hcs : cs = []
  · have hnone : dropBlanks right = [] := by
      rw [dropBlanks, ← List.append_nil right, List.dropWhile_append_of_pos hright]
      rfl
    rw [hcs, List.nil_append, hnone]
    rfl
  · have hhead : ∀ c ∈ (cs ++ right).head?, isBlank c = false := by
      rw [List.head?_append_of_ne_nil _ hcs]
      exact h.1
    rw [dropBlanks_of_head hhead, hend]

theorem trimBlanks_map {f : Char → Char} (hf : ∀ c, isBlank (f c) = isBlank c) (cs : List Char) :
    trimBlanks (cs.map f) = (trimBlanks cs).map f := by
  have hdrop : ∀ ds : List Char, (ds.map f).dropWhile isBlank = (ds.dropWhile isBlank).map f := by
    intro ds
    have hcomp : isBlank ∘ f = isBlank := funext hf
    rw [List.dropWhile_map, hcomp]
  simp only [trimBlanks, dropBlanks, dropBlanksEnd, hdrop, ← List.map_reverse]

end RichText
