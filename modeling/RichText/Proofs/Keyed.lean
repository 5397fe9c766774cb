import Mathlib.Data.List.Induction
import Mathlib.Data.List.Nodup
import RichText.Keyed

namespace RichText

namespace Keyed

variable {α : Type} (m : Keyed α) (key other : String) (a : α)

theorem get?_cons (e : String × α) (rest : Keyed α) :
    get? (e :: rest) other = if other = e.1 then some e.2 else get? rest other := by
  rw [get?, List.lookup_cons]
  by_cases h : other = e.1
  · rw [if_pos h, beq_iff_eq.2 h]
  · rw [if_neg h, beq_eq_false_iff_ne.2 h]
    rfl

theorem get?_insert :
    (m.insert key a).get? other = if other = key then some a else m.get? other := by
  induction m with
  | nil => exact get?_cons other (key, a) []
  | cons e rest ih =>
    unfold insert
    split
    · exact get?_cons other (key, a) (e :: rest)
    · split
      next hkey =>
        rw [get?_cons, get?_cons, ← hkey]
        split <;> rfl
      next hkey =>
        rw [get?_cons, get?_cons, ih]
        by_cases h : other = e.1
        · have hother : other ≠ key := fun heq => hkey (heq.symm.trans h)
          rw [if_pos h, if_pos h, if_neg hother]
        · rw [if_neg h, if_neg h]

theorem length_insert (h : m.get? key = none) : (m.insert key a).length = m.length + 1 := by
  induction m with
  | nil => rfl
  | cons e rest ih =>
    rw [get?_cons] at h
    have hkey : key ≠ e.1 := fun heq => by rw [if_pos heq] at h; cases h
    rw [if_neg hkey] at h
    unfold insert
    split
    · rfl
    · exact congrArg (· + 1) (ih h)

theorem get?_map {β : Type} (f : String → α → β) (m : Keyed α) (key : String) :
    get? (m.map fun e => (e.1, f e.1 e.2)) key = (get? m key).map (f key) := by
  induction m with
  | nil => rfl
  | cons e rest ih =>
    rw [get?, get?, List.map_cons, List.lookup_cons, List.lookup_cons]
    by_cases h : key = e.1
    · simp [h]
    · have hne : (key == e.1) = false := by simpa using h
      rw [hne]
      exact ih

theorem forall_insert {P : α → Prop} {key : String} {a : α} (ha : P a) {m : Keyed α}
    (h : ∀ e ∈ m, P e.2) : ∀ e ∈ m.insert key a, P e.2 := by
  induction m with
  | nil => exact List.forall_mem_singleton.2 ha
  | cons e rest ih =>
    have hrest := List.forall_mem_cons.1 h
    unfold insert
    split
    · exact List.forall_mem_cons.2 ⟨ha, h⟩
    · split
      · exact List.forall_mem_cons.2 ⟨ha, hrest.2⟩
      · exact List.forall_mem_cons.2 ⟨hrest.1, ih hrest.2⟩

theorem forall_ofList {P : α → Prop} {entries : List (String × α)}
    (h : ∀ e ∈ entries, P e.2) : ∀ e ∈ Keyed.ofList entries, P e.2 := by
  have hfold : ∀ m : Keyed α, (∀ e ∈ m, P e.2) →
      ∀ e ∈ entries.foldl (fun m e => insert e.1 e.2 m) m, P e.2 := by
    induction entries with
    | nil => exact fun _ hm => hm
    | cons e rest ih =>
      have hrest := List.forall_mem_cons.1 h
      exact fun m hm => ih hrest.2 _ (forall_insert hrest.1 hm)
  exact hfold [] fun _ he => absurd he List.not_mem_nil

end Keyed

section

variable {α : Type} [BEq α] [LawfulBEq α]

theorem eraseDups_concat (as : List α) (a : α) :
    (as ++ [a]).eraseDups = if a ∈ as then as.eraseDups else as.eraseDups ++ [a] := by
  rw [List.eraseDups_append]
  by_cases h : a ∈ as
  · have hold : [a].removeAll as = [] := by simpa [List.removeAll] using h
    rw [if_pos h, hold, List.eraseDups_nil, List.append_nil]
  · have hnew : [a].removeAll as = [a] := by simpa [List.removeAll] using h
    rw [if_neg h, hnew]
    rfl

theorem nodup_eraseDups (as : List α) : as.eraseDups.Nodup := by
  induction as using List.reverseRecOn with
  | nil => exact .nil
  | append_singleton as a ih =>
    rw [eraseDups_concat]
    by_cases h : a ∈ as
    · rwa [if_pos h]
    · rw [if_neg h]
      exact ih.append (List.nodup_singleton a) (by simpa using h)

end

end RichText
