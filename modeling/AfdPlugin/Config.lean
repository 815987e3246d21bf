import Mathlib.Tactic
/-!
# The AFD configuration

The fields of `AFDConfig` that the modelled code reads. A process has one of
the two supported roles, so an unknown role cannot be built.
-/

namespace AfdPlugin

/-- `AFDRole`. -/
inductive AFDRole where
  | attention
  | ffn
  deriving DecidableEq, Repr

/-- The AFD configuration of one process. -/
structure AFDConfig where
  role : AFDRole := .attention
  numAttentionRanks : Nat := 1
  numFfnRanks : Nat := 1
  computeGateOnAttention : Bool := false
  deriving DecidableEq, Repr

end AfdPlugin
