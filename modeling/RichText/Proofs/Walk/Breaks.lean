import RichText.Proofs.Component.Paragraphs
import RichText.Proofs.Walk.Faithful

namespace RichText

variable {σ κ : Type}

def Setting.into (S : Setting σ κ) (slot : Slot) : Setting σ κ := { S with slot }

def Journal.written (j : Journal σ κ) : List (Write κ) :=
  j.events.filterMap fun
    | .wrote _ x => some x
    | _ => none

theorem Journal.map_writes (base : Style) (j : Journal σ κ) :
    (j.writes base).map Prod.snd = j.written := by
  rw [writes, written, List.map_filterMap]
  refine List.filterMap_congr fun e _ => ?_
  cases e <;> rfl

namespace Walk

variable (S : Setting σ κ) (slot : Slot)

theorem scopeLikeness_into {ω : Type} :
    ScopeLikeness S (S.into slot) fun _ (m n : Walk σ ω _) => m = n where
  coercion := rfl
  factory := rfl
  pure _ := rfl
  throw _ := rfl
  eval _ := rfl
  evalAll _ := rfl
  bind {_ _ m _ f g} hm hf := by
    subst hm
    funext w
    change exec (m >>= f) w = exec (m >>= g) w
    rw [exec_bind, exec_bind]
    rcases h : exec m w with ⟨e | a, w'⟩
    · rfl
    · exact congrArg (exec · w') (hf a ⟨w, w', h⟩)
  lookScope _ := rfl
  onScope _ := rfl
  ensuring hb hr := by rw [hb, hr]

theorem attending_into :
    Attending S (S.into slot) fun _ (m n : Walk σ (Journal σ κ) _) => m = n where
  interceptors := rfl
  pure _ := rfl
  bind hm hf := by rw [hm, funext hf]
  ensuring hb hr := by rw [hb, hr]
  look _ := rfl
  onInterceptors _ := rfl
  noted _ _ _ := rfl

theorem entered_into (node : Node) (inChain : Bool) (body : Walk σ (Journal σ κ) Unit) :
    entered (S.into slot) node inChain body = entered S node inChain body := by
  have hlayered : layered (S.into slot) node.attrs.style body = layered S node.attrs.style body :=
    rfl
  unfold entered
  rw [hlayered, ← (scopeLikeness_into S slot).passes rfl inChain,
    ← (scopeLikeness_into S slot).bound node.attrs.lets rfl]

theorem observed_into (node : Node) (inChain : Bool) (body : Walk σ (Journal σ κ) Unit) :
    observed (S.into slot) node inChain body = observed S node inChain body := by
  unfold observed
  rw [← (attending_into S slot).attended node (entered_into S slot node inChain body).symm,
    ← (scopeLikeness_into S slot).isOpen]

theorem chronicle_into (depth : Nat) (root : Node) (host : σ) :
    chronicle (S.into slot) depth root host = chronicle S depth root host := by
  have hR := scopeLikeness_into (ω := Journal σ κ) S slot
  have hvisit := hR.visit (chronicler S) (chronicler (S.into slot)) Node.alike_of_eq
    (fun _ _ => rfl) (fun head _ _ _ _ _ hh => hh ▸ hR.loop head _ _ _ _)
    (fun node _ inChain m _ hn hm => hn ▸ hm ▸ (observed_into S slot node inChain m).symm)
    (fun _ => rfl) depth (rfl : root = root) false
  exact congrArg (exec · { host, out := {} }) hvisit.symm

/-- The same walk is behind the renders into all slots, and each slot has its entries from what was
written in it. Where a break is a text, the only entry is the paragraphs of the slots where it is a
cut, with that text between two of them, and once more behind if nothing that can be seen was
written after the last break. -/
theorem plainText_render_into (S : Setting σ Component) (b : String) (slot slot' : Slot)
    (depth : Nat) (root : Node) (host : σ) :
    let seen := chronicle S.building depth root host
    let literal := render (S.building.into { slot with lineBreak := some b }) depth root host
    let cut := render (S.building.into { slot' with lineBreak := none }) depth root host
    literal.1.map (·.map Component.plainText) =
        cut.1.map (fun paragraphs =>
          [b.intercalate (paragraphs.map Component.plainText) ++
            if Write.endInBreak seen.2.out.written then b else ""]) ∧
      literal.2 = cut.2 ∧
      (Write.endInBreak seen.2.out.written = true ↔ ∃ earlier later,
        seen.2.out.written = earlier ++ .lineBreak :: later ∧ ∀ x ∈ later, x.isBlank = true) ∧
      ∀ slot, render (S.building.into slot) depth root host =
        (seen.1.map fun _ => Flat.entries Component.factory slot (seen.2.out.writes slot.base),
          seen.2.host) := by
  intro seen literal cut
  have hrender : ∀ slot, render (S.building.into slot) depth root host =
      (seen.1.map fun _ => Flat.entries Component.factory slot (seen.2.out.writes slot.base),
        seen.2.host) := by
    intro slot
    rw [render_eq, chronicle_into]
    rfl
  refine ⟨?_, ?_, Write.endInBreak_iff, hrender⟩
  · have hwritten : (seen.2.out.writes slot.base).map Prod.snd =
        (seen.2.out.writes slot'.base).map Prod.snd := by
      rw [Journal.map_writes, Journal.map_writes]
    have hlaw := Flat.plainText_literal
      (rfl : ({ slot with lineBreak := some b } : Slot).lineBreak = some b)
      (rfl : ({ slot' with lineBreak := none } : Slot).lineBreak = none) hwritten
    rw [Journal.map_writes] at hlaw
    simp only [literal, cut, hrender]
    cases seen.1 with
    | error e => rfl
    | ok _ => exact congrArg Except.ok hlaw
  · simp only [literal, cut, hrender]

end Walk

end RichText
