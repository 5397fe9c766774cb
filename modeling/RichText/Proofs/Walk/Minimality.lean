import Mathlib
import RichText.Proofs.Component.Minimal
import RichText.Proofs.Walk.Faithful
import RichText.Proofs.Walk.Pairing

namespace RichText

namespace Flat

variable {κ : Type}

end Flat

namespace Walk

variable {σ : Type}

end Walk

end RichText
