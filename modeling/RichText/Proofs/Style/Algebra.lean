import RichText.Proofs.Style.Merge

namespace RichText

section

variable {α : Type}

/-- A value, if there is one, that `b` has as well. -/
def Carried (a b : Option α) : Prop := ∀ x ∈ a, b = some x

theorem Carried.none (b : Option α) : Carried none b := nofun

end

namespace Decorations

open Decoration (single contains_iff)

end Decorations

namespace Style

/-- The difference has no bit that stands for no decoration. -/
example : Style.diff { decorations := Decorations.put {} ⟨0x20⟩ true } empty = empty := by decide

end Style

end RichText
