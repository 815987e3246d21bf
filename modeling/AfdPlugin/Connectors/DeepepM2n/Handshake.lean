import AfdPlugin.Config
import AfdPlugin.Connectors.Codec
import AfdPlugin.Connectors.DeepepM2n.Network
import AfdPlugin.Connectors.DeepepM2n.Plan
/-!
# The DeepEP M2N handshake and control plane

Every rank reports what it was configured with, checks the gathered reports,
and adopts the values it cannot know alone. From then on a control payload
determines each stage's plan on every rank, without further agreement.
-/

namespace AfdPlugin.Deepep

/-! ## Configuration -/

inductive PayloadFormat where
  | bf16
  | fp8Block128Fp32
  deriving DecidableEq, Repr

def PayloadFormat.text : PayloadFormat → String
  | .bf16 => "bf16"
  | .fp8Block128Fp32 => "fp8_block128_fp32"

/-- `PAYLOAD_WEIGHT_FORMATS`. -/
def PayloadFormat.weightFormat : PayloadFormat → String
  | .bf16 => "bf16"
  | .fp8Block128Fp32 => "fp8_block128"

/-- The validated options the plans and the handshake read. -/
structure DeepEPM2NConfig where
  payloadFormat : PayloadFormat := .bf16
  network : NetworkConfig := {}
  bucketGranularity : Nat := 1
  cpuSyncMinTokens : Nat := 0
  bucketGranularity_pos : 0 < bucketGranularity

structure DeepEPM2NLayout where
  ffnSize : Nat
  attnSize : Nat
  numExperts : Nat
  ffnSize_pos : 0 < ffnSize
  attnSize_pos : 0 < attnSize
  divisible : numExperts % ffnSize = 0

def DeepEPM2NLayout.unionSize (layout : DeepEPM2NLayout) : Nat := layout.ffnSize + layout.attnSize

/-- `ffn_deployment_info`: what decides which experts an FFN rank loads. -/
structure FfnDeployment where
  expertParallel : Bool
  epSize : Nat
  tensorParallelSize : Nat
  expertPlacementStrategy : String
  eplb : Bool
  all2allBackend : String
  weightFormat : String
  deriving DecidableEq, Repr

/-- What one rank reports: `local_handshake_info`. -/
structure HandshakeInfo where
  protocol : String
  role : AFDRole
  roleRank : Nat
  worldRank : Nat
  sm : Nat × Nat
  payloadFormat : PayloadFormat
  hiddenSize : Nat
  dtype : String
  numExperts : Nat
  topK : Nat
  numLanes : Nat
  capacityTokensPerRank : Option Nat
  bucketLadder : Option (List Nat)
  bucketGranularity : Nat
  cpuSyncMinTokens : Nat
  attnTpSize : Option Nat
  computeGateOnAttention : Bool
  network : String
  expertAlignment : Option Nat
  ffnDeployment : Option FfnDeployment
  topology : RankTopology
  deriving DecidableEq

/-- What a rank learns from the reports. -/
structure HandshakeResult where
  expertAlignment : Nat
  networkPlan : NetworkPlan
  attnTpSize : Nat
  capacityTokensPerRank : Nat
  bucketLadder : List Nat
  deriving DecidableEq, Repr

/-! ## Validation -/

/-- `str(b)`. -/
def pyBool (b : Bool) : String := if b then "True" else "False"

/-- `_MUST_MATCH`: the keys, and `str` of what a rank reports under them. -/
def mustMatch : List (String × (HandshakeInfo → String)) := [
  ("protocol", fun i => i.protocol),
  ("payload_format", fun i => i.payloadFormat.text),
  ("hidden_size", fun i => toString i.hiddenSize),
  ("dtype", fun i => i.dtype),
  ("num_experts", fun i => toString i.numExperts),
  ("top_k", fun i => toString i.topK),
  ("num_lanes", fun i => toString i.numLanes),
  ("compute_gate_on_attention", fun i => pyBool i.computeGateOnAttention),
  ("network", fun i => i.network),
  ("bucket_granularity", fun i => toString i.bucketGranularity),
  ("cpu_sync_min_tokens", fun i => toString i.cpuSyncMinTokens)]

def roleText : AFDRole → String
  | .attention => "attention"
  | .ffn => "ffn"

/-- `if not p: raise RuntimeError(message)`. -/
def require (p : Prop) [Decidable p] (message : String) : Except String Unit :=
  if p then .ok () else .error message

/-- The first loop: every rank is where the layout expects it, on SM90 or newer. -/
def checkRank (layout : DeepEPM2NLayout) (worldRank : Nat) (info : HandshakeInfo) : Except String Unit := do
  let expectedRole := if worldRank < layout.ffnSize then .ffn else .attention
  require (info.worldRank = worldRank ∧ info.role = expectedRole)
    (s!"world rank {worldRank} reported role='{roleText info.role}' world_rank={info.worldRank}, " ++
      s!"expected '{roleText expectedRole}'")
  require (9 ≤ info.sm.1)
    s!"world rank {worldRank} has SM{info.sm.1}{info.sm.2}; DeepEP M2N needs SM90 or newer"

def checkMustMatch (infos : List HandshakeInfo) (key : String × (HandshakeInfo → String)) :
    Except String Unit :=
  let values := (infos.map key.2).dedup
  require (values.length = 1) s!"ranks disagree on {key.1}: {values.insertionSort (· ≤ ·)}"

/-- The settings of a deployment as `(key, reported, required)`. -/
def FfnDeployment.settings (d : FfnDeployment) (layout : DeepEPM2NLayout) (payloadFormat : PayloadFormat) :
    List (String × String × String) := [
  ("expert_parallel", pyBool d.expertParallel, pyBool true),
  ("ep_size", toString d.epSize, toString layout.ffnSize),
  ("tensor_parallel_size", toString d.tensorParallelSize, "1"),
  ("expert_placement_strategy", d.expertPlacementStrategy, "linear"),
  ("eplb", pyBool d.eplb, pyBool false),
  ("all2all_backend", d.all2allBackend, "allgather_reducescatter"),
  ("weight_format", d.weightFormat, payloadFormat.weightFormat)]

/-- `_check_ffn_deployment`: vLLM must place experts as DeepEP routes them. -/
def checkFfnDeployment (layout : DeepEPM2NLayout) (worldRank : Nat) (info : HandshakeInfo) :
    Except String Unit :=
  match info.ffnDeployment with
  | none => .error s!"FFN world rank {worldRank} sent no deployment info"
  | some d =>
    let mismatches := (d.settings layout info.payloadFormat).filter fun s => s.2.1 ≠ s.2.2
    require (mismatches = [])
      (s!"FFN world rank {worldRank} is deployed with {mismatches.map fun s => (s.1, s.2.1)}; DeepEP M2N with " ++
        s!"payload_format='{info.payloadFormat.text}' needs {mismatches.map fun s => (s.1, s.2.2)}")

/-- The value a set of reports agrees on: `len(set) == 1 and None not in set`. -/
def soleValue {α : Type} [DecidableEq α] (reports : List (Option α)) (message : String) : Except String α :=
  match reports.dedup with
  | [some v] => .ok v
  | _ => .error message

/-- Run a check on every element, counting from `start`. -/
def checkAll {α : Type} (check : Nat → α → Except String Unit) : Nat → List α → Except String Unit
  | _, [] => .ok ()
  | start, x :: xs => do check start x; checkAll check (start + 1) xs

def validateHandshake (infos : List HandshakeInfo) (layout : DeepEPM2NLayout) (network : NetworkConfig) :
    Except String HandshakeResult := do
  require (infos.length = layout.unionSize)
    s!"handshake has {infos.length} ranks, expected {layout.unionSize}"
  checkAll (checkRank layout) 0 infos
  checkAll (fun _ => checkMustMatch infos) 0 mustMatch
  require (infos.head?.map (·.computeGateOnAttention) = some true)
    "DeepEP M2N routes tokens on Attention: set compute_gate_on_attention=true on both roles"
  let ffnInfos := infos.take layout.ffnSize
  let attnInfos := infos.drop layout.ffnSize
  checkAll (checkFfnDeployment layout) 0 ffnInfos
  let expertAlignment ← soleValue (ffnInfos.map (·.expertAlignment))
    s!"FFN ranks disagree on expert_alignment: {ffnInfos.map (·.expertAlignment)}"
  let attnTpSize ← soleValue (attnInfos.map (·.attnTpSize))
    s!"Attention ranks disagree on their TP size: {attnInfos.map (·.attnTpSize)}"
  require (0 < attnTpSize ∧ layout.attnSize % attnTpSize = 0)
    s!"Attention TP size {attnTpSize} does not divide the {layout.attnSize} Attention ranks"
  -- an FFN rank reports a capacity only when it is configured explicitly
  let capacityTokensPerRank ← soleValue (attnInfos.map (·.capacityTokensPerRank) ++
      (ffnInfos.map (·.capacityTokensPerRank)).filter Option.isSome)
    s!"ranks disagree on capacity_tokens_per_rank: {infos.map (·.capacityTokensPerRank)}"
  let bucketLadder ← soleValue (attnInfos.map (·.bucketLadder))
    s!"Attention ranks disagree on bucket_ladder: {attnInfos.map (·.bucketLadder)}"
  let networkPlan ← planNetwork (infos.map (·.topology)) network
  pure ⟨expertAlignment, networkPlan, attnTpSize, capacityTokensPerRank, bucketLadder⟩

/-! ## The connector -/

/-- The connector of one rank. What Attention alone derives is `none` on an
FFN rank until the handshake. -/
structure DeepEPM2NAFDConnector where
  role : AFDRole
  roleRank : Nat
  config : DeepEPM2NConfig
  layout : DeepEPM2NLayout
  computeGateOnAttention : Bool
  hiddenSize : Nat
  dtype : String
  topK : Nat
  numLanes : Nat
  sm : Nat × Nat
  topology : RankTopology
  ffnDeployment : Option FfnDeployment
  expertAlignment : Option Nat
  attnTpSize : Option Nat
  capacityTokensPerRank : Option Nat
  bucketLadder : Option (List Nat)
  networkPlan : Option NetworkPlan := none
  stagePlans : Dict Int StagePlan := ∅

namespace DeepEPM2NAFDConnector

/-- FFN ranks come first in the world. -/
def worldRank (c : DeepEPM2NAFDConnector) : Nat :=
  match c.role with
  | .ffn => c.roleRank
  | .attention => c.layout.ffnSize + c.roleRank

def localHandshakeInfo (c : DeepEPM2NAFDConnector) : HandshakeInfo where
  protocol := "deepep_m2n/2"
  role := c.role
  roleRank := c.roleRank
  worldRank := c.worldRank
  sm := c.sm
  payloadFormat := c.config.payloadFormat
  hiddenSize := c.hiddenSize
  dtype := c.dtype
  numExperts := c.layout.numExperts
  topK := c.topK
  numLanes := c.numLanes
  capacityTokensPerRank := c.capacityTokensPerRank
  bucketLadder := c.bucketLadder
  bucketGranularity := c.config.bucketGranularity
  cpuSyncMinTokens := c.config.cpuSyncMinTokens
  attnTpSize := c.attnTpSize
  computeGateOnAttention := c.computeGateOnAttention
  network := c.config.network.text
  expertAlignment := c.expertAlignment
  ffnDeployment := c.ffnDeployment
  topology := c.topology

/-- `_handshake`, once `infos` holds every rank's report: check them, and adopt
the result. -/
def handshake (c : DeepEPM2NAFDConnector) (infos : List HandshakeInfo) :
    Except String DeepEPM2NAFDConnector := do
  let result ← validateHandshake infos c.layout c.config.network
  pure { c with
    expertAlignment := some result.expertAlignment
    networkPlan := some result.networkPlan
    attnTpSize := some result.attnTpSize
    capacityTokensPerRank := some result.capacityTokensPerRank
    bucketLadder := some result.bucketLadder }

/-- `update_state_from_dp_metadata`: the plan of every stage of a payload. -/
def updateStateFromDpMetadata (c : DeepEPM2NAFDConnector) (payload : AFDControlPayload) :
    Except String DeepEPM2NAFDConnector := do
  require (payload.dpMetadataList.entries.length ≤ c.numLanes)
    s!"{payload.dpMetadataList.entries.length} stages exceed num_lanes={c.numLanes}"
  let graphMode := payload.isGraphCapturing || payload.isGraphReplaying
  match c.attnTpSize, c.capacityTokensPerRank, c.bucketLadder with
  | some attnTpSize, some capacityTokensPerRank, some bucketLadder =>
    let plans ← payload.dpMetadataList.entries.mapM fun e => do
      let plan ← planStage e.2 c.layout.attnSize attnTpSize capacityTokensPerRank
        c.config.bucketGranularity graphMode bucketLadder c.config.cpuSyncMinTokens
      pure (e.1, plan)
    pure { c with stagePlans := Dict.setAll ∅ plans }
  | _, _, _ => throw "DeepEPM2N control plane used before the handshake"

end DeepEPM2NAFDConnector

/-- Rows of this rank's `sequence_parallel_chunk` of `numTokens` tokens. -/
def sequenceParallelChunkRows (tpSize numTokens : Nat) : Nat :=
  let remainder := numTokens % tpSize
  let padded := if remainder ≠ 0 then numTokens + (tpSize - remainder) else numTokens
  padded / tpSize

/-- Rows `RemoteFFNProxy.forward` hands to the connector for `numTokens` tokens. -/
def dispatchedRows (tpSize numTokens : Nat) : Nat :=
  if 1 < tpSize then sequenceParallelChunkRows tpSize numTokens else numTokens

end AfdPlugin.Deepep
