import Mathlib.Algebra.BigOperators.Group.Finset.Basic
import RichText.Proofs.Scope.Stacks

namespace RichText.Scope

inductive Step where
  | push (name : String) (v : Value)
  | update (name : String) (v : Value)
  | pop (name : String)

namespace Step

def name : Step → String
  | push name _ | update name _ | pop name => name

def perform : Step → StateM Scope (Option Value)
  | push name v => modifyGet fun s => (none, s.push name v)
  | update name v => modifyGet fun s => (none, s.update name v)
  | pop name => modifyGet fun s => s.pop name

/-- Takes the step on a stack that belongs to its name alone. -/
def onStack : Step → StateM (List Value) (Option Value)
  | push _ v => modifyGet fun vs => (none, v :: vs)
  | update _ v => modifyGet fun vs => (none, v :: vs.tail)
  | pop _ => modifyGet fun vs => (vs.head?, vs.tail)

end Step

def after (steps : List Step) : Scope := ((steps.mapM Step.perform).run {}).2

def answers (steps : List Step) : List (Option Value) := ((steps.mapM Step.perform).run {}).1

def stepsOn (name : String) (steps : List Step) : List Step := steps.filter (·.name = name)

/-- The stack of a name that only its own steps have been taken on. -/
def stackAfter (name : String) (steps : List Step) : List Value :=
  (((stepsOn name steps).mapM Step.onStack).run []).2

def stackAnswers (name : String) (steps : List Step) : List (Option Value) :=
  (((stepsOn name steps).mapM Step.onStack).run []).1

def answersTo (name : String) (steps : List Step) (answers : List (Option Value)) :
    List (Option Value) :=
  ((steps.zip answers).filter (·.1.name = name)).map Prod.snd

theorem stepsOn_cons (name : String) (x : Step) (rest : List Step) :
    stepsOn name (x :: rest) =
      if x.name = name then x :: stepsOn name rest else stepsOn name rest := by
  simp [stepsOn, List.filter_cons]

theorem answersTo_cons (name : String) (x : Step) (rest : List Step) (a : Option Value)
    (as : List (Option Value)) :
    answersTo name (x :: rest) (a :: as) =
      if x.name = name then a :: answersTo name rest as else answersTo name rest as := by
  by_cases h : x.name = name <;> simp [answersTo, h]

theorem run_mapM_cons {S α β : Type} (f : α → StateM S β) (a : α) (as : List α) (s : S) :
    ((a :: as).mapM f).run s =
      (((f a).run s).1 :: ((as.mapM f).run ((f a).run s).2).1,
        ((as.mapM f).run ((f a).run s).2).2) := by
  rw [List.mapM_cons]
  rfl

theorem perform_own (x : Step) (s : Scope) :
    (x.perform.run s).1 = (x.onStack.run (s.stack x.name)).1 ∧
      (x.perform.run s).2.stack x.name = (x.onStack.run (s.stack x.name)).2 := by
  cases x with
  | push name v => exact ⟨rfl, (stack_push s name v name).trans (if_pos rfl)⟩
  | update name v => exact ⟨rfl, (stack_update s name v name).trans (if_pos rfl)⟩
  | pop name => exact ⟨find?_eq s name, (stack_pop s name name).trans (if_pos rfl)⟩

theorem perform_other {x : Step} {name : String} (h : x.name ≠ name) (s : Scope) :
    (x.perform.run s).2.stack name = s.stack name := by
  cases x with
  | push other v => exact (stack_push s other v name).trans (if_neg h)
  | update other v => exact (stack_update s other v name).trans (if_neg h)
  | pop other => exact (stack_pop s other name).trans (if_neg h)

theorem performAll_stack (name : String) (steps : List Step) (s : Scope) :
    answersTo name steps ((steps.mapM Step.perform).run s).1 =
        (((stepsOn name steps).mapM Step.onStack).run (s.stack name)).1 ∧
      ((steps.mapM Step.perform).run s).2.stack name =
        (((stepsOn name steps).mapM Step.onStack).run (s.stack name)).2 := by
  induction steps generalizing s with
  | nil => exact ⟨rfl, rfl⟩
  | cons x rest ih =>
    obtain ⟨hanswers, hstack⟩ := ih (x.perform.run s).2
    rw [run_mapM_cons, answersTo_cons, stepsOn_cons]
    by_cases h : x.name = name
    · subst h
      obtain ⟨hown, hafter⟩ := perform_own x s
      rw [hafter] at hanswers hstack
      rw [if_pos rfl, if_pos rfl, run_mapM_cons, hanswers, hown]
      exact ⟨rfl, hstack⟩
    · rw [perform_other h] at hanswers hstack
      rw [if_neg h, if_neg h]
      exact ⟨hanswers, hstack⟩

theorem stack_after (name : String) (steps : List Step) :
    (after steps).stack name = stackAfter name steps := (performAll_stack name steps {}).2

theorem length_stack (s : Scope) (name : String) :
    (s.stack name).length = (s.frames.map Prod.fst).count name := by
  obtain ⟨frames⟩ := s
  induction frames with
  | nil => rfl
  | cons f rest ih =>
    rw [stack_cons, List.map_cons, List.count_cons, ← ih]
    by_cases h : f.1 = name <;> simp [h]

theorem depth_eq_sum {s : Scope} {names : Finset String}
    (h : ∀ f ∈ s.frames, f.1 ∈ names) : s.depth = ∑ name ∈ names, (s.stack name).length := by
  have hcount := Multiset.sum_count_eq_card (s := names)
    (m := (s.frames.map Prod.fst : Multiset String)) (by simpa using h)
  simp only [length_stack]
  simpa [depth] using hcount.symm

theorem stack_ne_nil {s : Scope} {f : String × Value} (h : f ∈ s.frames) : s.stack f.1 ≠ [] := by
  have hf : f.2 ∈ s.stack f.1 := List.mem_filterMap.2 ⟨f, h, if_pos rfl⟩
  exact List.ne_nil_of_mem hf

theorem name_mem_of_mem_after {steps : List Step} {f : String × Value}
    (h : f ∈ (after steps).frames) : f.1 ∈ (steps.map Step.name).toFinset := by
  by_contra hname
  have hsteps : stepsOn f.1 steps = [] := by
    refine List.filter_eq_nil_iff.2 fun x hx hf => hname ?_
    exact List.mem_toFinset.2 (List.mem_map.2 ⟨x, hx, of_decide_eq_true hf⟩)
  refine stack_ne_nil h ?_
  rw [stack_after, stackAfter, hsteps]
  rfl

theorem pop_eq_none_iff (s : Scope) (name : String) :
    s.pop name = (none, s) ↔ s.stack name = [] := by
  constructor
  · intro h
    have hfind : s.find? name = none := congrArg Prod.fst h
    rwa [find?_eq, List.head?_eq_none_iff] at hfind
  · intro h
    have hshadow : s.isShadowed name = false := by rw [isShadowed_eq, h]; rfl
    refine Prod.ext ?_ ?_
    · change s.find? name = none
      rw [find?_eq, h]
      rfl
    · refine congrArg Scope.mk (List.eraseP_of_forall_not fun f hf hp => ?_)
      rw [isShadowed, List.any_eq_false] at hshadow
      exact hshadow f hf hp

theorem after_concat (steps : List Step) (x : Step) :
    after (steps ++ [x]) = (x.perform.run (after steps)).2 := by
  rw [after, List.mapM_append]
  rfl

/-- A scope is a stack of its own for every name. What can be seen of a name, and what its steps
give back, is what it would be if there were no steps on other names. -/
theorem independent_stacks {σ : Type} (base : Environment σ) (steps : List Step) :
    (∀ name,
      answersTo name steps (answers steps) = stackAnswers name steps ∧
      (after steps).lookup base name =
        (match stackAfter name steps with
        | v :: _ => pure (some v)
        | [] => base name) ∧
      (after steps).pop name = ((stackAfter name steps).head?, after (steps ++ [.pop name])) ∧
      ((after steps).pop name = (none, after steps) ↔ stackAfter name steps = []) ∧
      (after steps).isShadowed name = !(stackAfter name steps).isEmpty) ∧
    (after steps).depth =
      ∑ name ∈ (steps.map Step.name).toFinset, (stackAfter name steps).length := by
  refine ⟨fun name => ⟨(performAll_stack name steps {}).1, ?_, ?_, ?_, ?_⟩, ?_⟩
  · rw [lookup, find?_eq, stack_after]
    cases stackAfter name steps <;> rfl
  · rw [after_concat, ← stack_after, ← find?_eq]
    rfl
  · rw [pop_eq_none_iff, stack_after]
  · rw [isShadowed_eq, stack_after]
  · simp only [← stack_after]
    exact depth_eq_sum fun _ => name_mem_of_mem_after

end RichText.Scope
