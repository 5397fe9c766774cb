import Mathlib.Data.Finset.Card
import Mathlib.Data.Finset.Dedup
import RichText.Proofs.Keyed
import RichText.Text.Service

namespace RichText

namespace PatternCache

variable {ρ : Type} (R : PatternEngine ρ)

inductive Call where
  | isMatch (text source : String)
  | split (text source : String)
  | replaceAll (text source replacement : String)

inductive Answer where
  | truth (o : Outcome Bool)
  | pieces (o : Outcome (List String))
  | text (o : Outcome String)

def Answer.warnings : Answer → List Warning
  | truth o => o.warnings
  | pieces o => o.warnings
  | text o => o.warnings

namespace Call

def source : Call → String
  | isMatch _ source | split _ source | replaceAll _ source _ => source

def perform (c : PatternCache ρ) : Call → Answer × PatternCache ρ
  | isMatch text source => (c.isMatch R text source).map .truth id
  | split text source => (c.split R text source).map .pieces id
  | replaceAll text source replacement => (c.replaceAll R text source replacement).map .text id

/-- The answer that leaves the text as it is. -/
def refusal : Call → Answer
  | isMatch _ _ => .truth ⟨false, [.malformedPattern]⟩
  | split text _ => .pieces ⟨[text], [.malformedPattern]⟩
  | replaceAll text _ _ => .text ⟨text, [.malformedPattern]⟩

def answer (p : ρ) : Call → Answer
  | isMatch text _ => .truth ⟨R.isMatch p text, []⟩
  | split text _ => .pieces ⟨R.split p text, []⟩
  | replaceAll text _ replacement => .text ⟨R.replaceAll p text replacement, []⟩

end Call

def after (calls : List Call) : PatternCache ρ :=
  calls.foldl (fun c call => (call.perform R c).2) {}

/-- The cache has each of the patterns used so far, with what became of it, and no other. -/
structure Sound (c : PatternCache ρ) (used : List String) : Prop where
  get? : ∀ source, c.compiled.get? source = if source ∈ used then some (R.compile? source) else none
  size : c.size = used.toFinset.card

variable {R} {c : PatternCache ρ} {used : List String}

theorem Sound.pattern (h : c.Sound R used) (source : String) :
    (c.pattern R source).1 = R.compile? source ∧
      (c.pattern R source).2.Sound R (used ++ [source]) := by
  have hget := h.get? source
  have hmem : ∀ other, other ∈ used ++ [source] ↔ other ∈ used ∨ other = source := by
    intro other
    rw [List.mem_append, List.mem_singleton]
  unfold PatternCache.pattern
  by_cases hused : source ∈ used
  · have hsame : ∀ other, other ∈ used ++ [source] ↔ other ∈ used := by
      intro other
      rw [hmem, or_iff_left_of_imp]
      rintro rfl
      exact hused
    have hset : (used ++ [source]).toFinset = used.toFinset :=
      Finset.ext fun other => by rw [List.mem_toFinset, List.mem_toFinset, hsame]
    rw [if_pos hused] at hget
    rw [hget]
    refine ⟨rfl, fun other => ?_, ?_⟩
    · rw [h.get? other, if_congr (hsame other) rfl rfl]
    · rw [hset]
      exact h.size
  · have hset : (used ++ [source]).toFinset = insert source used.toFinset :=
      Finset.ext fun other => by
        rw [List.mem_toFinset, Finset.mem_insert, List.mem_toFinset, hmem, or_comm]
    have hnew : source ∉ used.toFinset := fun hold => hused (List.mem_toFinset.1 hold)
    rw [if_neg hused] at hget
    rw [hget]
    refine ⟨rfl, fun other => ?_, ?_⟩
    · dsimp only
      rw [Keyed.get?_insert, h.get? other]
      by_cases hother : other = source
      · rw [if_pos hother, if_pos ((hmem other).2 (.inr hother)), hother]
      · have hold : other ∈ used ++ [source] ↔ other ∈ used := by
          rw [hmem, or_iff_left hother]
        rw [if_neg hother, if_congr hold rfl rfl]
    · rw [hset, Finset.card_insert_of_notMem hnew, ← h.size]
      exact Keyed.length_insert c.compiled source _ hget

theorem apply_eq {α : Type} (c : PatternCache ρ) (source : String) (use : ρ → α) (spare : α) :
    c.apply R source use spare =
      ((c.pattern R source).1.elim ⟨spare, [.malformedPattern]⟩ fun p => ⟨use p, []⟩,
        (c.pattern R source).2) := by
  unfold apply
  rcases c.pattern R source with ⟨_ | p, c'⟩ <;> rfl

theorem perform_eq (c : PatternCache ρ) (call : Call) :
    call.perform R c = ((c.pattern R call.source).1.elim call.refusal (call.answer R),
      (c.pattern R call.source).2) := by
  cases call with
  | isMatch text source =>
    rw [Call.perform, isMatch, apply_eq, Call.source]
    cases (c.pattern R source).1 <;> rfl
  | split text source =>
    rw [Call.perform, split, apply_eq, Call.source]
    cases (c.pattern R source).1 <;> rfl
  | replaceAll text source replacement =>
    rw [Call.perform, replaceAll, apply_eq, Call.source]
    cases (c.pattern R source).1 <;> rfl

theorem after_concat (earlier : List Call) (call : Call) :
    after R (earlier ++ [call]) = (call.perform R (after R earlier)).2 := by
  rw [after, List.foldl_append]
  rfl

theorem sound_after (calls : List Call) : (after R calls).Sound R (calls.map Call.source) := by
  induction calls using List.reverseRecOn with
  | nil => exact ⟨fun _ => rfl, rfl⟩
  | append_singleton earlier call ih =>
    rw [after_concat, perform_eq, List.map_append]
    exact (ih.pattern call.source).2

variable (R) in
/-- Whatever calls have come before it, a call gets the answer that an empty cache gives. A
malformed pattern leaves the text as it is, with a warning, any other gives no warning, and as many
patterns are kept as have been used. -/
theorem perform_after (earlier : List Call) (call : Call) :
    (call.perform R (after R earlier)).1 = (call.perform R {}).1 ∧
    (R.compile? call.source = none → (call.perform R (after R earlier)).1 = call.refusal) ∧
    (R.compile? call.source ≠ none → (call.perform R (after R earlier)).1.warnings = []) ∧
    (call.perform R (after R earlier)).2 = after R (earlier ++ [call]) ∧
    (after R (earlier ++ [call])).size = ((earlier ++ [call]).map Call.source).toFinset.card := by
  have hanswer : ∀ calls : List Call, (call.perform R (after R calls)).1 =
      (R.compile? call.source).elim call.refusal (call.answer R) := by
    intro calls
    rw [perform_eq, ((sound_after calls).pattern call.source).1]
  refine ⟨(hanswer earlier).trans (hanswer []).symm, fun hbad => ?_, fun hgood => ?_,
    (after_concat earlier call).symm, (sound_after _).size⟩
  · rw [hanswer, hbad]
    rfl
  · obtain ⟨p, hp⟩ := Option.ne_none_iff_exists'.1 hgood
    rw [hanswer, hp]
    cases call <;> rfl

theorem perform_after_mixed :
    let R := Pattern.engine
    let earlier : List Call := [.isMatch "caat" "a+", .split "b" "(", .isMatch "t" "a+"]
    ((Call.replaceAll "x(y" "(" "z").perform R (after R earlier)).1 =
        .text ⟨"x(y", [.malformedPattern]⟩ ∧
      ((Call.split "caat" "a+").perform R (after R earlier)).1 = .pieces ⟨["c", "t"], []⟩ ∧
      ((Call.split "caat" "a+").perform R (after R earlier)).1.warnings = [] ∧
      (after R (earlier ++ [.split "caat" "a+"])).size = 2 := by
  intro R earlier
  have hgood : R.compile? "a+" ≠ none := Option.isSome_iff_ne_none.1 (by decide)
  obtain ⟨-, hbad, -⟩ := perform_after R earlier (.replaceAll "x(y" "(" "z")
  obtain ⟨hfresh, -, hclean, -, hsize⟩ := perform_after R earlier (.split "caat" "a+")
  exact ⟨hbad (by rfl), hfresh.trans (by rfl), hclean hgood, hsize.trans (by decide)⟩

end PatternCache

end RichText
