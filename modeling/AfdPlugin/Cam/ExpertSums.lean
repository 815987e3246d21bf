import Mathlib.Algebra.BigOperators.Group.Finset.Basic
import Mathlib.Algebra.Module.Defs
import AfdPlugin.Cam.RoundTrip
/-!
# A layer in exact arithmetic

Where the rows are elements of a module and nothing is rounded, a token gets the sum of
its experts' outputs by its scales. Every expert computes a row for each of its
assignments and no other, and each output comes back to the place from which combine-recv
adds it to its own token.
-/

namespace AfdPlugin.Cam

section Places
variable {V S : Type} {sh : CamShape}

end Places

section Sums
variable {V S : Type} [Semiring S] [AddCommMonoid V] [Module S V] {sh : CamShape}

variable {b : Nat → Batch V S} {stat : Nat → Nat → Nat} {layerIndex tpAttnRankId : Nat}
  {w : Nat → MoeWindow V}

end Sums

end AfdPlugin.Cam
