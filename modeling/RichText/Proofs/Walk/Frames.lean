import RichText.Markup.Walk
import RichText.Proofs.Scope.Stacks

namespace RichText

namespace Walk

variable {σ κ : Type}

theorem unregisterTo_register (S : Setting σ κ) (node : Node) (s : InterceptorStack σ) :
    (register S node s).unregisterTo s.height = s := by
  unfold register
  cases node.attrs.interceptor with
  | none => simp [InterceptorStack.unregisterTo]
  | some name =>
    simp [InterceptorStack.unregisterTo, InterceptorStack.register, InterceptorStack.height]

/-- The frames of a loop on top of those of `base`. -/
def InLoop (var : Option String) (base s : Scope) : Prop :=
  ∃ record v, s.frames = (loopName, record) :: (var.toList.map (·, v) ++ base.frames)

theorem inLoop_openLoop (var : Option String) (base : Scope) :
    InLoop var base (openLoop var base) := by
  cases var <;> exact ⟨.null, .null, rfl⟩

theorem InLoop.setRound {var : Option String} {base s : Scope} (h : InLoop var base s)
    (item : Value) (index count : Nat) : InLoop var base (setRound var item index count s) := by
  obtain ⟨frames⟩ := s
  obtain ⟨record, v, rfl⟩ := h
  cases var with
  | none => exact ⟨_, v, congrArg Scope.frames (Scope.update_newest loopName record _ _)⟩
  | some name =>
    by_cases hname : name = loopName
    · subst hname
      refine ⟨loopRecord index count, v, ?_⟩
      change (((Scope.mk _).update loopName item).update loopName _).frames = _
      rw [Scope.update_newest, Scope.update_newest]
    · refine ⟨loopRecord index count, item, ?_⟩
      change (((Scope.mk ((loopName, record) :: (name, v) :: base.frames)).update name item).update
        loopName _).frames = _
      rw [Scope.update_below (Ne.symm hname), Scope.update_newest]
      rfl

theorem InLoop.closeLoop {var : Option String} {base s : Scope} (h : InLoop var base s) :
    closeLoop var s = base := by
  obtain ⟨frames⟩ := s
  obtain ⟨record, v, rfl⟩ := h
  have hloop := Scope.pop_newest loopName record (var.toList.map (·, v) ++ base.frames)
  cases var with
  | none => exact hloop
  | some name =>
    change ((Scope.pop _ loopName).2.pop name).2 = base
    rw [hloop]
    exact Scope.pop_newest name v base.frames

end Walk

end RichText
