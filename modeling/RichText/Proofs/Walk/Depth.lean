import RichText.Proofs.Walk.Congruence

namespace RichText.Walk

variable {σ κ ω α β : Type} {S : Setting σ κ}

/-- `n` does what `m` does unless the depth keeps `m` from its end. -/
def Deepens (m n : Walk σ ω α) : Prop :=
  ∀ w, (exec m w).1 = .error .spliceDepth ∨ exec n w = exec m w

namespace Deepens

theorem refl (m : Walk σ ω α) : Deepens m m := fun _ => .inr rfl

theorem throw (n : Walk σ ω α) : Deepens (throw .spliceDepth) n := fun _ => .inl rfl

theorem trans {l m n : Walk σ ω α} (h : Deepens l m) (h' : Deepens m n) : Deepens l n := by
  intro w
  obtain hl | hl := h w
  · exact .inl hl
  · obtain hm | hm := h' w
    · exact .inl (hl ▸ hm)
    · exact .inr (hm.trans hl)

theorem bind {m n : Walk σ ω α} {f g : α → Walk σ ω β} (hm : Deepens m n)
    (hf : ∀ a, Yields m a → Deepens (f a) (g a)) : Deepens (m >>= f) (n >>= g) := by
  intro w
  rw [exec_bind, exec_bind]
  obtain h | h := hm w
  · rcases hw : exec m w with ⟨e | a, w'⟩ <;> rw [hw] at h
    · exact .inl (congrArg Except.error (Except.error.inj h))
    · cases h
  · rw [h]
    rcases hw : exec m w with ⟨e | a, w'⟩
    · exact .inr rfl
    · exact hf a ⟨w, w', hw⟩ w'

theorem congruence (S : Setting σ κ) :
    Congruence S fun _ (m : Walk σ ω _) (n : Walk σ ω _) => Deepens m n where
  pure _ := refl _
  throw _ := refl _
  onHost _ := refl _
  bind := bind

variable {body body' : Walk σ ω Unit}

theorem ensuring (hb : Deepens body body') {restore : Walk σ ω Unit} (hr : Total restore) :
    Deepens (ensuring body restore) (ensuring body' restore) := by
  intro w
  obtain h | h := hb w
  · exact .inl ((hr.result_ensuring body w).trans h)
  · exact .inr (by rw [exec_ensuring, exec_ensuring, h])

theorem binding (hb : Deepens body body') (bindings : List (String × Value)) :
    Deepens (binding bindings body) (binding bindings body') :=
  (refl _).bind fun _ _ => (refl _).bind fun _ _ => hb.ensuring (Total.onScope _)

theorem bound (hb : Deepens body body') (lets : List (String × Expr)) :
    Deepens (bound S lets body) (bound S lets body') :=
  (refl _).bind fun bindings _ => hb.binding bindings

theorem styled (hb : Deepens body body') (delta : Option StyleDelta) :
    Deepens (styled S delta body) (styled S delta body') := by
  cases delta with
  | none => exact hb
  | some d =>
    exact (refl _).bind fun _ _ => (refl _).bind fun _ _ => (refl _).bind fun _ _ =>
      hb.ensuring (Total.onStyles _)

theorem framed {body body' : Walk σ (Draft κ) Unit} (hb : Deepens body body') (opens : Bool) :
    Deepens (framed opens body) (framed opens body') := by
  cases opens with
  | false => exact hb
  | true => exact (refl _).bind fun _ _ => hb.ensuring (Total.onOut _)

theorem attended (hb : Deepens body body') (node : Node) :
    Deepens (attended S node (offer S node) (finish S node) body)
      (attended S node (offer S node) (finish S node) body') := by
  refine (refl _).bind fun height _ => (refl _).bind fun _ _ => (refl _).bind fun answer _ => ?_
  cases answer with
  | none => exact refl _
  | some pending => exact hb.ensuring ((Total.onHost S _).bind fun _ _ => ⟨(), rfl⟩)

theorem surround {body body' : Walk σ (Draft κ) Unit} (hb : Deepens body body') (node : Node)
    (inChain : Bool) : Deepens (surround S node inChain body) (surround S node inChain body') := by
  refine (refl (isOpen S node.attrs.useWhen)).bind fun opened _ => ?_
  cases opened with
  | false => exact refl (pure ())
  | true =>
    refine attended ((refl (passes S node inChain)).bind fun passed _ => ?_) node
    cases passed with
    | false => exact refl (pure ())
    | true => exact ((hb.framed _).styled _).bound _

theorem loop (head : LoopHead) (separator body separator' body' : Walk σ ω Unit)
    (hs : Deepens separator separator') (hb : Deepens body body') :
    Deepens (loop S head separator body) (loop S head separator' body') := by
  refine (refl _).bind fun v _ => (refl _).bind fun backwards _ => (refl _).bind fun _ _ =>
    ensuring ?_ (Total.onScope _)
  exact (congruence S).rounds separator body separator' body' (fun _ _ => refl _) hs
    (fun bindings => hb.binding bindings) 0 _

theorem visit_succ (S : Setting σ κ) (depth : Nat) (node : Node) (inChain : Bool) :
    Deepens (visit S (renderer S) depth node inChain)
      (visit S (renderer S) (depth + 1) node inChain) := by
  have hvisit := fun splice splice' hs => (congruence S).visitWith (renderer S) (renderer S)
    (fun x _ => refl _) loop (fun node inChain _ _ h => h.surround node inChain) splice splice' hs
  induction depth generalizing node inChain with
  | zero => exact hvisit _ _ (fun _ => throw _) node inChain
  | succ depth ih => exact hvisit _ _ (fun markup => ih markup false) node inChain

theorem visit_le (S : Setting σ κ) {depth depth' : Nat} (h : depth ≤ depth') (node : Node)
    (inChain : Bool) :
    Deepens (visit S (renderer S) depth node inChain)
      (visit S (renderer S) depth' node inChain) := by
  induction h with
  | refl => exact refl _
  | step _ ih => exact ih.trans (visit_succ S _ node inChain)

end Deepens

/-- Once a render is not kept from its end by the depth, more of it changes nothing. -/
theorem render_le (S : Setting σ κ) {depth depth' : Nat} (h : depth ≤ depth') (root : Node)
    (host : σ) (hr : (render S depth root host).1 ≠ .error .spliceDepth) :
    render S depth' root host = render S depth root host := by
  obtain hdeep | hsame := Deepens.visit_le S h root false { host, out := {} }
  · refine absurd ?_ hr
    change (exec (visit S (renderer S) depth root false) { host, out := {} }).1.map _ = _
    rw [hdeep]
    rfl
  · unfold exec at hsame
    rw [render, hsame]
    rfl

end RichText.Walk
