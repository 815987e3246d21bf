import AfdPlugin.Distributed.Topology
/-!
# Token counts of the FFN runtime

The FFN runner's forward context needs the token counts of the FFN ranks. It
computes them from the Attention counts of the payload, with its own copy of
the rules for expanding and defaulting a count list.
-/

namespace AfdPlugin.FfnMetadata

open AfdPlugin.Topology

/-- Aggregate consecutive Attention-rank counts for each FFN rank. -/
def aggregateFfnTokenCounts (attentionCounts : List Int) (attentionSize ffnSize : Nat)
    (fallback : Int := 1) :
    List Int :=
  let fallbackCount := max 1 fallback
  if ffnSize = 0 ∨ attentionSize < ffnSize then List.replicate ffnSize fallbackCount
  else
    let expandedCounts :=
      if attentionCounts ≠ [] ∧ attentionCounts.length < attentionSize ∧
          attentionSize % attentionCounts.length = 0 then
        let attentionRanksPerCount := attentionSize / attentionCounts.length
        (List.range attentionSize).map fun rank => attentionCounts.getD (rank / attentionRanksPerCount) 0
      else attentionCounts
    (List.range ffnSize).map fun ffnRank =>
      ((subgroupAttentionBlock ffnRank attentionSize ffnSize).map fun attentionRank =>
        match expandedCounts[attentionRank]? with
        | some count => max 1 count
        | none => fallbackCount).sum

end AfdPlugin.FfnMetadata
