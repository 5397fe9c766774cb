import Mathlib.Data.List.Basic
import RichText.Directive.Token
import RichText.Proofs.Text.Trim

namespace RichText

namespace Directive

def isPlain (c : Char) : Bool := !isBlank c && c != '"'

/-- A character between quotation marks. A backslash is put outside, where it escapes nothing. -/
def quoteChar (c : Char) : List Char :=
  if c = '"' then ['\\', '"'] else if c = '\\' then ['"', '\\', '"'] else [c]

def quote (t : List Char) : List Char := '"' :: (t.flatMap quoteChar ++ ['"'])

def argument (t : List Char) : List Char :=
  if t ≠ [] ∧ t.all isPlain = true then t else quote t

def arguments (ts : List (List Char)) : List Char := ts.flatMap fun t => ' ' :: argument t

variable {c : Char} {cs rest begun : List Char} {token : Option (List Char)}

theorem tokensFrom_plain (hb : isAsciiBlank c = false) (hq : c ≠ '"') :
    tokensFrom token false (c :: rest) = tokensFrom (some (c :: token.getD [])) false rest := by
  by_cases hc : c = '\\'
  · subst hc
    cases rest with
    | nil => simp [tokensFrom, isAsciiBlank]
    | cons d ds => simp [tokensFrom]
  · simp [tokensFrom, hc, hb, hq]

theorem tokensFrom_blank : tokensFrom (some begun) false (' ' :: rest) =
    begun.reverse :: tokensFrom none false rest := by
  simp [tokensFrom, isAsciiBlank]

theorem tokensFrom_mark (quoted : Bool) :
    tokensFrom token quoted ('"' :: rest) = tokensFrom (some (token.getD [])) (!quoted) rest := by
  simp [tokensFrom, isAsciiBlank]

theorem tokensFrom_quoteChar (c : Char) : tokensFrom (some begun) true (quoteChar c ++ rest) =
    tokensFrom (some (c :: begun)) true rest := by
  unfold quoteChar
  by_cases hq : c = '"'
  · simp [hq, tokensFrom]
  · by_cases hc : c = '\\'
    · rw [if_neg hq, if_pos hc]
      change tokensFrom _ _ ('"' :: '\\' :: '"' :: rest) = _
      rw [tokensFrom_mark, Bool.not_true, tokensFrom_plain (by decide) (by decide),
        tokensFrom_mark, hc]
      rfl
    · simp [tokensFrom, hq, hc]

theorem tokensFrom_quote (t : List Char) : tokensFrom none false (quote t ++ rest) =
    tokensFrom (some t.reverse) false rest := by
  have hinside : ∀ begun, tokensFrom (some begun) true (t.flatMap quoteChar ++ ('"' :: rest)) =
      tokensFrom (some (t.reverse ++ begun)) false rest := by
    induction t with
    | nil => exact fun begun => tokensFrom_mark true
    | cons c cs ih =>
      intro begun
      rw [List.flatMap_cons, List.append_assoc, tokensFrom_quoteChar, ih, List.reverse_cons,
        List.append_assoc]
      rfl
  change tokensFrom none false ('"' :: (t.flatMap quoteChar ++ ['"'] ++ rest)) = _
  rw [tokensFrom_mark, List.append_assoc]
  exact (hinside []).trans (by rw [List.append_nil])

theorem tokensFrom_argument (t : List Char) : tokensFrom none false (argument t ++ rest) =
    tokensFrom (some t.reverse) false rest := by
  have hplain : ∀ {c : Char}, isPlain c = true → isAsciiBlank c = false ∧ c ≠ '"' := by
    intro c h
    simp only [isPlain, Bool.and_eq_true, Bool.not_eq_true', bne_iff_ne] at h
    refine ⟨Bool.eq_false_iff.2 fun hc => ?_, h.2⟩
    rw [isBlank_of_isAsciiBlank hc] at h
    cases h.1
  have hbare : ∀ {cs : List Char} (begun : List Char), cs.all isPlain = true →
      tokensFrom (some begun) false (cs ++ rest) =
        tokensFrom (some (cs.reverse ++ begun)) false rest := by
    intro cs
    induction cs with
    | nil => exact fun _ _ => rfl
    | cons c cs ih =>
      intro begun h
      rw [List.all_cons, Bool.and_eq_true] at h
      rw [List.cons_append, tokensFrom_plain (hplain h.1).1 (hplain h.1).2, ih _ h.2,
        List.reverse_cons, List.append_assoc]
      rfl
  unfold argument
  split
  · next h =>
    obtain ⟨c, cs, rfl⟩ := List.exists_cons_of_ne_nil h.1
    rw [List.all_cons, Bool.and_eq_true] at h
    rw [List.cons_append, tokensFrom_plain (hplain h.2.1).1 (hplain h.2.1).2, hbare _ h.2.2,
      List.reverse_cons]
    rfl
  · exact tokensFrom_quote t

theorem tokens_arguments (t : List Char) (ts : List (List Char)) :
    tokens (argument t ++ arguments ts) = t :: ts := by
  unfold tokens
  induction ts generalizing t with
  | nil =>
    rw [tokensFrom_argument]
    simp [arguments, tokensFrom]
  | cons u us ih =>
    rw [tokensFrom_argument, arguments, List.flatMap_cons]
    change tokensFrom _ _ (' ' :: (argument u ++ arguments us)) = _
    rw [tokensFrom_blank, ih, List.reverse_reverse]

theorem trimmed_argument (t : List Char) : argument t ≠ [] ∧ Trimmed (argument t) := by
  have hplain : ∀ {c : Char}, isPlain c = true → isBlank c = false := by
    intro c h
    simp only [isPlain, Bool.and_eq_true, Bool.not_eq_true'] at h
    exact h.1
  unfold argument
  split
  · next h =>
    rw [List.all_eq_true] at h
    exact ⟨h.1, fun c hc => hplain (h.2 c (List.mem_of_head? hc)),
      fun c hc => hplain (h.2 c (List.mem_of_getLast? hc))⟩
  · have hmark : ∀ c ∈ some '"', isBlank c = false := by
      rintro c ⟨⟩
      rfl
    refine ⟨List.cons_ne_nil _ _, hmark, ?_⟩
    rw [quote, ← List.cons_append, List.getLast?_concat]
    exact hmark

theorem trimmed_arguments (t : List Char) (ts : List (List Char)) :
    Trimmed (argument t ++ arguments ts) := by
  obtain ⟨hne, hfirst, -⟩ := trimmed_argument t
  refine ⟨?_, ?_⟩
  · rw [List.head?_append_of_ne_nil _ hne]
    exact hfirst
  · clear hne hfirst
    induction ts generalizing t with
    | nil =>
      rw [arguments, List.flatMap_nil, List.append_nil]
      exact (trimmed_argument t).2.2
    | cons u us ih =>
      have hne : argument u ++ arguments us ≠ [] :=
        List.append_ne_nil_of_left_ne_nil (trimmed_argument u).1 _
      rw [arguments, List.flatMap_cons]
      change ∀ c ∈ (argument t ++ ' ' :: (argument u ++ arguments us)).getLast?, _
      rw [List.getLast?_append_of_ne_nil _ (List.cons_ne_nil _ _), List.getLast?_cons_of_ne_nil hne]
      exact ih u

theorem notMem_argument {t : List Char} (h : '\n' ∉ t) : '\n' ∉ argument t := by
  have hquote : ∀ c ∈ t, '\n' ∉ quoteChar c := by
    intro c hc
    have hne : '\n' ≠ c := fun heq => h (heq ▸ hc)
    unfold quoteChar
    split
    · decide
    · split
      · decide
      · simpa using hne
  unfold argument
  split
  · exact h
  · simpa [quote] using hquote

theorem notMem_arguments {ts : List (List Char)} (h : ∀ t ∈ ts, '\n' ∉ t) :
    '\n' ∉ arguments ts := by
  intro hmem
  obtain ⟨t, ht, hmem⟩ := List.mem_flatMap.1 hmem
  obtain heq | hmem := List.mem_cons.1 hmem
  · cases heq
  · exact notMem_argument (h t ht) hmem

end Directive

end RichText
