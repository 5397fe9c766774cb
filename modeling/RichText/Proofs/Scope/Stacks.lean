import Mathlib.Data.List.Nodup
import RichText.Scope.Basic

namespace RichText.Scope

theorem frames_pushAll (s : Scope) (bindings : List (String × Value)) :
    (bindings.foldl (fun s b => s.push b.1 b.2) s).frames = bindings.reverse ++ s.frames := by
  induction bindings generalizing s with
  | nil => rfl
  | cons b rest ih =>
    rw [List.foldl_cons, ih, List.reverse_cons, List.append_assoc]
    rfl

theorem rollback_of_frames {s t : Scope} {new : List (String × Value)}
    (h : t.frames = new ++ s.frames) : t.rollback s.depth = s := by
  have hdrop : t.depth - s.depth = new.length := by simp [depth, h]
  rw [rollback, hdrop, h, List.drop_left]

theorem update_newest (name : String) (v v' : Value) (fs : List (String × Value)) :
    (Scope.mk ((name, v) :: fs)).update name v' = ⟨(name, v') :: fs⟩ := by
  simp [update, isShadowed, replaceNewest]

theorem update_below {name name' : String} (h : name' ≠ name) (v v' w : Value)
    (fs : List (String × Value)) :
    (Scope.mk ((name', w) :: (name, v) :: fs)).update name v' =
      ⟨(name', w) :: (name, v') :: fs⟩ := by
  simp [update, isShadowed, replaceNewest, h]

theorem pop_newest (name : String) (v : Value) (fs : List (String × Value)) :
    ((Scope.mk ((name, v) :: fs)).pop name).2 = ⟨fs⟩ := by
  simp [pop]

def stack (s : Scope) (name : String) : List Value :=
  s.frames.filterMap fun f => if f.1 = name then some f.2 else none

theorem stack_cons (f : String × Value) (fs : List (String × Value)) (name : String) :
    (Scope.mk (f :: fs)).stack name =
      if f.1 = name then f.2 :: (Scope.mk fs).stack name else (Scope.mk fs).stack name := by
  by_cases h : f.1 = name <;> simp [stack, h]

theorem find?_eq (s : Scope) (name : String) : s.find? name = (s.stack name).head? := by
  obtain ⟨frames⟩ := s
  induction frames with
  | nil => rfl
  | cons f rest ih =>
    rw [stack_cons, find?, List.lookup_cons]
    by_cases h : f.1 = name
    · simp [h]
    · have hne : (name == f.1) = false := by simpa using Ne.symm h
      simpa [find?, h, hne] using ih

theorem isShadowed_eq (s : Scope) (name : String) :
    s.isShadowed name = !(s.stack name).isEmpty := by
  obtain ⟨frames⟩ := s
  induction frames with
  | nil => rfl
  | cons f rest ih =>
    rw [stack_cons]
    by_cases h : f.1 = name
    · simp [isShadowed, h]
    · have hne : (f.1 == name) = false := by simpa using h
      simpa [isShadowed, h, hne] using ih

theorem stack_push (s : Scope) (name : String) (v : Value) (other : String) :
    (s.push name v).stack other = if name = other then v :: s.stack other else s.stack other :=
  stack_cons (name, v) s.frames other

theorem length_replaceNewest (name : String) (v : Value) (fs : List (String × Value)) :
    (replaceNewest name v fs).length = fs.length := by
  induction fs with
  | nil => rfl
  | cons f rest ih =>
    rw [replaceNewest]
    split
    · rfl
    · exact congrArg (· + 1) ih

theorem stack_replaceNewest {name : String} {fs : List (String × Value)} (v : Value)
    (h : (Scope.mk fs).isShadowed name = true) (other : String) :
    (Scope.mk (replaceNewest name v fs)).stack other =
      if name = other then v :: ((Scope.mk fs).stack other).tail
      else (Scope.mk fs).stack other := by
  induction fs with
  | nil => cases h
  | cons f rest ih =>
    by_cases hf : f.1 = name
    · by_cases ho : name = other <;> simp [replaceNewest, stack_cons, hf, ho]
    · have hrest : (Scope.mk rest).isShadowed name = true := by
        simpa [isShadowed, hf] using h
      rw [replaceNewest, if_neg (by simpa using hf), stack_cons, ih hrest, stack_cons]
      by_cases ho : name = other
      · have : f.1 ≠ other := ho ▸ hf
        simp [this, ho]
      · simp [ho]

theorem stack_update (s : Scope) (name : String) (v : Value) (other : String) :
    (s.update name v).stack other =
      if name = other then v :: (s.stack other).tail else s.stack other := by
  unfold update
  by_cases h : s.isShadowed name = true
  · rw [if_pos h]
    exact stack_replaceNewest v h other
  · rw [if_neg h, stack_push]
    by_cases ho : name = other
    · subst ho
      rw [isShadowed_eq] at h
      have hempty : s.stack name = [] := by simpa using h
      simp [hempty]
    · simp [ho]

theorem stack_pop (s : Scope) (name other : String) :
    (s.pop name).2.stack other = if name = other then (s.stack other).tail else s.stack other := by
  obtain ⟨frames⟩ := s
  change (Scope.mk (frames.eraseP (·.1 == name))).stack other = _
  induction frames with
  | nil => by_cases h : name = other <;> simp [stack, h]
  | cons f rest ih =>
    by_cases hf : f.1 = name
    · rw [List.eraseP_cons_of_pos (by simpa using hf), stack_cons]
      by_cases ho : name = other <;> simp [hf, ho]
    · rw [List.eraseP_cons_of_neg (by simpa using hf), stack_cons, ih, stack_cons]
      by_cases ho : name = other
      · have : f.1 ≠ other := ho ▸ hf
        simp [this, ho]
      · simp [ho]

theorem stack_perm {fs fs' : List (String × Value)} (hn : (fs.map Prod.fst).Nodup)
    (hp : fs.Perm fs') (name : String) : (Scope.mk fs).stack name = (Scope.mk fs').stack name := by
  induction hp with
  | nil => rfl
  | cons f _ ih =>
    rw [stack_cons, stack_cons, ih (List.nodup_cons.1 hn).2]
  | swap f g rest =>
    have hne : g.1 ≠ f.1 := fun h => (List.nodup_cons.1 hn).1 (by simp [h])
    simp only [stack_cons]
    by_cases hf : f.1 = name
    · have hg : g.1 ≠ name := fun h => hne (h.trans hf.symm)
      simp [hf, hg]
    · simp [hf]
  | trans hp _ ih ih' => exact (ih hn).trans (ih' ((hp.map Prod.fst).nodup_iff.1 hn))

theorem stack_pushAll (s : Scope) (bindings : List (String × Value)) (name : String) :
    (bindings.foldl (fun s b => s.push b.1 b.2) s).stack name =
      (Scope.mk bindings.reverse).stack name ++ s.stack name := by
  rw [stack, frames_pushAll, List.filterMap_append]
  rfl

def Alike (s t : Scope) : Prop := ∀ name, s.stack name = t.stack name

namespace Alike

variable {s t : Scope}

theorem refl (s : Scope) : s.Alike s := fun _ => rfl

theorem push (h : s.Alike t) (name : String) (v : Value) : (s.push name v).Alike (t.push name v) :=
  fun other => by rw [stack_push, stack_push, h other]

theorem update (h : s.Alike t) (name : String) (v : Value) :
    (s.update name v).Alike (t.update name v) :=
  fun other => by rw [stack_update, stack_update, h other]

theorem pushAll (h : s.Alike t) {bindings bindings' : List (String × Value)}
    (hn : (bindings.map Prod.fst).Nodup) (hp : bindings.Perm bindings') :
    (bindings.foldl (fun s b => s.push b.1 b.2) s).Alike
      (bindings'.foldl (fun s b => s.push b.1 b.2) t) := by
  intro name
  have hrev : bindings.reverse.Perm bindings'.reverse :=
    (bindings.reverse_perm.trans hp).trans bindings'.reverse_perm.symm
  rw [stack_pushAll, stack_pushAll, h name,
    stack_perm (by rwa [List.map_reverse, List.nodup_reverse]) hrev]

theorem pushAll_self (h : s.Alike t) (bindings : List (String × Value)) :
    (bindings.foldl (fun s b => s.push b.1 b.2) s).Alike
      (bindings.foldl (fun s b => s.push b.1 b.2) t) :=
  fun name => by rw [stack_pushAll, stack_pushAll, h name]

theorem lookup {σ : Type} (h : s.Alike t) (base : Environment σ) :
    s.lookup base = t.lookup base := by
  funext name
  rw [Scope.lookup, Scope.lookup, find?_eq, find?_eq, h name]

end Alike

end RichText.Scope
