import AfdPlugin.Lib.Dict
/-!
# Control payloads

What one Attention forward tells the connectors about its stages: the token
counts of each stage and the flags of the step.
-/

namespace AfdPlugin

/-- Token counts of one stage, int32 as the control plane carries them. -/
structure AFDDPMetadata where
  numTokensAcrossDpCpu : List Int32
  maxTokensAcrossDpCpu : Int32
  deriving DecidableEq, Repr

/-- `num_tokens_across_dp_cpu.flatten().tolist()`. -/
def AFDDPMetadata.counts (md : AFDDPMetadata) : List Int := md.numTokensAcrossDpCpu.map Int32.toInt

/-- `__post_init__`: without a maximum it is taken from the counts, which
`torch.Tensor.max` refuses for an empty tensor. -/
def AFDDPMetadata.new (numTokens : List Int32) (maxTokens : Option Int32) : Except String AFDDPMetadata :=
  match maxTokens, numTokens with
  | some m, _ => .ok ⟨numTokens, m⟩
  | none, [] =>
    .error "max(): Expected reduction dim to be specified for input.numel() == 0. Specify the reduction dim with the 'dim' argument."
  | none, n :: rest => .ok ⟨numTokens, rest.foldl (fun m c => if m ≤ c then c else m) n⟩

/-- The payload of the control plane: counts by stage, and the step's flags. -/
structure AFDControlPayload where
  dpMetadataList : Dict Int AFDDPMetadata
  isGraphCapturing : Bool
  isWarmup : Bool
  isGraphReplaying : Bool := false
  isProfile : Bool := false
  deriving DecidableEq

end AfdPlugin
