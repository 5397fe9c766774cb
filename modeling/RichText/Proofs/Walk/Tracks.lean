import RichText.Proofs.Walk.Likeness

namespace RichText.Walk

variable {σ κ ω ω' α β : Type}

/-- From states in the relation `P` both walks end alike, and in states that are in it again, unless
the first comes to a bad state. It does not get out of those. -/
structure TracksUnless (Bad : WalkState σ ω → Prop) (P : WalkState σ ω → WalkState σ ω' → Prop)
    (m : Walk σ ω α) (n : Walk σ ω' α) : Prop where
  stays : Keeps Bad m
  tracks : ∀ w v, P w v → ¬ Bad (after m w) →
    (exec m w).1 = (exec n v).1 ∧ P (after m w) (after n v)

namespace TracksUnless

variable {Bad : WalkState σ ω → Prop} {P : WalkState σ ω → WalkState σ ω' → Prop}

theorem pure (a : α) : TracksUnless Bad P (pure a) (pure a) :=
  ⟨fun _ h => h, fun _ _ h _ => ⟨rfl, h⟩⟩

theorem throw (e : RenderError) : TracksUnless Bad P (throw e : Walk σ ω α) (throw e) :=
  ⟨fun _ h => h, fun _ _ h _ => ⟨rfl, h⟩⟩

theorem bind {m : Walk σ ω α} {n : Walk σ ω' α} {f : α → Walk σ ω β} {g : α → Walk σ ω' β}
    (hm : TracksUnless Bad P m n) (hf : ∀ a, Yields m a → TracksUnless Bad P (f a) (g a)) :
    TracksUnless Bad P (m >>= f) (n >>= g) := by
  refine ⟨hm.stays.bind fun a ha => (hf a ha).stays, fun w v hwv hgood => ?_⟩
  -- a bad state in between would last to the end
  have hgood' : ¬ Bad (after m w) := by
    intro hbad
    obtain h | ⟨a, ha, h⟩ := after_bind m f w
    · exact hgood (h ▸ hbad)
    · exact hgood (h ▸ (hf a ha).stays _ hbad)
  obtain ⟨hresult, hstate⟩ := hm.tracks w v hwv hgood'
  unfold after at hstate hgood ⊢
  rw [exec_bind] at hgood
  rw [exec_bind, exec_bind]
  rcases hw : exec m w with ⟨e | a, w'⟩ <;> rcases hv : exec n v with ⟨e' | a', v'⟩ <;>
    rw [hw, hv] at hresult hstate
  · exact ⟨congrArg Except.error (Except.error.inj hresult), hstate⟩
  · cases hresult
  · cases hresult
  · obtain rfl : a = a' := Except.ok.inj hresult
    rw [hw] at hgood
    exact (hf a ⟨w, w', hw⟩).tracks w' v' hstate hgood

theorem ensuring {body restore : Walk σ ω Unit} {body' restore' : Walk σ ω' Unit}
    (hb : TracksUnless Bad P body body') (hr : TracksUnless Bad P restore restore') :
    TracksUnless Bad P (ensuring body restore) (ensuring body' restore') := by
  refine ⟨hb.stays.ensuring hr.stays, fun w v hwv hgood => ?_⟩
  rw [after_ensuring] at hgood
  obtain ⟨hresult, hstate⟩ := hb.tracks w v hwv fun hbad => hgood (hr.stays _ hbad)
  obtain ⟨hrestore, hrestored⟩ := hr.tracks _ _ hstate hgood
  rw [after_ensuring, after_ensuring]
  refine ⟨?_, hrestored⟩
  rw [exec_ensuring, exec_ensuring]
  unfold after at hgood hstate hrestore
  rcases hw : exec body w with ⟨e | a, w'⟩ <;> rcases hv : exec body' v with ⟨e' | a', v'⟩ <;>
    rw [hw, hv] at hresult
  · obtain rfl : e = e' := Except.error.inj hresult
    rw [hw] at hgood hstate
    rw [hv] at hstate
    refine ((hr.bind fun _ _ => throw e).tracks w' v' hstate ?_).1
    rwa [after_bind_throw]
  · cases hresult
  · cases hresult
  · rwa [hw, hv] at hrestore

end TracksUnless

def Tracks (P : WalkState σ ω → WalkState σ ω' → Prop) (m : Walk σ ω α) (n : Walk σ ω' α) : Prop :=
  ∀ w v, P w v → (exec m w).1 = (exec n v).1 ∧ P (after m w) (after n v)

namespace Tracks

variable {P : WalkState σ ω → WalkState σ ω' → Prop}

theorem iff_unless {m : Walk σ ω α} {n : Walk σ ω' α} :
    Tracks P m n ↔ TracksUnless (fun _ => False) P m n :=
  ⟨fun h => ⟨fun _ h => h, fun w v hwv _ => h w v hwv⟩, fun h w v hwv => h.tracks w v hwv id⟩

theorem pure (a : α) : Tracks P (pure a) (pure a) := fun _ _ h => ⟨rfl, h⟩

theorem throw (e : RenderError) : Tracks P (throw e : Walk σ ω α) (throw e) := fun _ _ h => ⟨rfl, h⟩

theorem bind {m : Walk σ ω α} {n : Walk σ ω' α} {f : α → Walk σ ω β} {g : α → Walk σ ω' β}
    (hm : Tracks P m n) (hf : ∀ a, Yields m a → Tracks P (f a) (g a)) :
    Tracks P (m >>= f) (n >>= g) :=
  iff_unless.2 ((iff_unless.1 hm).bind fun a ha => iff_unless.1 (hf a ha))

theorem ensuring {body restore : Walk σ ω Unit} {body' restore' : Walk σ ω' Unit}
    (hb : Tracks P body body') (hr : Tracks P restore restore') :
    Tracks P (ensuring body restore) (ensuring body' restore') :=
  iff_unless.2 ((iff_unless.1 hb).ensuring (iff_unless.1 hr))

theorem look {f : WalkState σ ω → α} {g : WalkState σ ω' → α} (h : ∀ w v, P w v → f w = g v) :
    Tracks P (look f) (look g) :=
  fun w v hwv => ⟨congrArg Except.ok (h w v hwv), hwv⟩

theorem likeness {S S' : Setting σ κ} (hcoercion : S'.coercion = S.coercion)
    (hfactory : S'.factory = S.factory) (heval : ∀ e, Tracks P (eval S e) (eval S' e))
    (hevalAll : ∀ es, Tracks P (onHost S fun ctx => Expr.evalList ctx es)
      (onHost S' fun ctx => Expr.evalList ctx es)) :
    Likeness S S' fun _ (m : Walk σ ω _) (n : Walk σ ω' _) => Tracks P m n where
  coercion := hcoercion
  factory := hfactory
  pure := pure
  throw := throw
  eval := heval
  evalAll := hevalAll
  bind := bind

end Tracks

end RichText.Walk
