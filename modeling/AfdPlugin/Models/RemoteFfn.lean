import AfdPlugin.Connectors.P2pTransfer
import AfdPlugin.Lib.Ring
/-!
# Models split at the FFN

The CUDA model adapters on the P2P connector. An Attention rank's decoder
layer either runs its FFN itself or sends to the FFN rank and waits for the
result; the FFN rank's model says which layers it serves and what it needs.
-/

namespace AfdPlugin.Models

open P2p P2pNcclAFDConnector

/-- The registered CUDA model adapters. -/
inductive Adapter where
  | deepseekV2
  | deepseekV4
  | qwen3Moe
  | qwen3_5Moe
  deriving DecidableEq, Repr

/-- A loaded model: `layers` holds `is_moe_layer` of every decoder layer. -/
structure Model where
  adapter : Adapter
  hiddenSize : Nat
  dtype : Dtype
  nRoutedExperts : Nat
  routerDtype : Option Dtype
  layers : List Bool
  deriving DecidableEq, Repr

/-- DeepSeek V2/V3 `is_moe_layer`. -/
def deepseekIsMoeLayer (nRoutedExperts : Option Nat) (firstKDenseReplace moeLayerFreq layerIdx : Nat) :
    Bool :=
  nRoutedExperts.isSome ∧ firstKDenseReplace ≤ layerIdx ∧ layerIdx % moeLayerFreq = 0

/-- What the models' constructors reject. -/
def Model.validate (m : Model) (computeGateOnAttention : Bool) : Except String Unit :=
  match m.adapter with
  | .deepseekV2 => .ok ()
  | .deepseekV4 =>
    if computeGateOnAttention then
      .error "AFD DeepSeek-V4 does not support compute_gate_on_attention" else .ok ()
  | .qwen3Moe =>
    if computeGateOnAttention then
      .error "AFD Qwen3 MoE requires compute_gate_on_attention=false, except with DeepEPM2NAFDConnector"
    else .ok ()
  | .qwen3_5Moe =>
    if computeGateOnAttention then
      .error "AFD Qwen3.5/3.6 CUDA supports compute_gate_on_attention=False only"
    else .ok ()

def Model.isMoeLayer (m : Model) (layerIdx : Nat) : Bool := m.layers.getD layerIdx false

/-- vLLM's modules as far as the wire sees them: an FFN block keeps the shape
and dtype of its input, a gate maps each row to one logit per expert. -/
structure Native where
  ffn : Nat → TensorMetadata → TensorMetadata
  ffn_eq : ∀ layerIdx t, ffn layerIdx t = t
  gateLinear : Nat → Dtype → TensorMetadata → TensorMetadata
  gateLinear_eq : ∀ outFeatures dtype t, gateLinear outFeatures dtype t =
    ⟨dtype, [t.numTokens, outFeatures]⟩

/-! ## The Attention role -/

/-- The FFN module of an Attention decoder layer. -/
inductive AttentionMlp where
  | remoteFfnProxy
  | remoteExpertsMoe (gate : Bool)
  | localMlp
  | remoteDeepseekV4Ffn
  | qwen3_5RemoteExpertsMoe
  deriving DecidableEq, Repr

/-- The module each adapter's decoder layer constructs on the Attention role. -/
def Model.attentionMlp (m : Model) (computeGateOnAttention : Bool) (layerIdx : Nat) : AttentionMlp :=
  match m.adapter with
  | .deepseekV2 =>
    -- `uses_remote_experts`: every MoE layer on CUDA
    if m.isMoeLayer layerIdx then .remoteExpertsMoe computeGateOnAttention
    else if computeGateOnAttention then .localMlp
    else .remoteFfnProxy
  | .deepseekV4 => .remoteDeepseekV4Ffn
  | .qwen3Moe => .remoteFfnProxy
  | .qwen3_5Moe => .qwen3_5RemoteExpertsMoe

/-- A tensor of one layer and stage that a forward sends or receives. -/
structure Transfer where
  layerIdx : Nat
  stageIdx : Int
  tensor : WireTensor
  deriving DecidableEq, Repr

/-- A transport operation of an Attention rank. -/
inductive Op where
  | send (t : Transfer)
  | recv (t : Transfer)
  deriving DecidableEq, Repr

def Op.sent : Op → Option Transfer
  | .send t => some t
  | .recv _ => none

def Op.received : Op → Option Transfer
  | .send _ => none
  | .recv t => some t

/-- `_send_and_receive`, with the DBO yield in between. -/
def sendAndReceive (c : P2pNcclAFDConnector) (layerIdx : Nat) (stageIdx : Int)
    (hiddenStates : TensorMetadata) (routerLogits inputIds : Option TensorMetadata) :
    Except String (List (Ring.Action Op)) := do
  let metadata ← AFDTransferMetadata.new layerIdx stageIdx [hiddenStates.numTokens]
  let wire ← c.sendAttnOutput hiddenStates metadata routerLogits inputIds
  let output ← c.recvFfnOutput hiddenStates stageIdx
  return wire.map (fun t => .op (.send ⟨layerIdx, stageIdx, t⟩)) ++
    [.dboYield, .op (.recv ⟨layerIdx, stageIdx, output⟩)]

/-- The forward of one layer's FFN module in one stage. -/
def Model.mlpForward (m : Model) (native : Native) (c : P2pNcclAFDConnector) (computeGateOnAttention : Bool)
    (stageIdx : Int) (hiddenStates inputIds : TensorMetadata) (layerIdx : Nat) :
    Except String (List (Ring.Action Op)) :=
  match m.attentionMlp computeGateOnAttention layerIdx with
  | .remoteFfnProxy => sendAndReceive c layerIdx stageIdx hiddenStates none none
  | .remoteExpertsMoe gate =>
    -- without a gate the native forward's logits argument is not sent
    let routerLogits :=
      if gate then some (native.gateLinear m.nRoutedExperts (m.routerDtype.getD m.dtype) hiddenStates)
        else none
    sendAndReceive c layerIdx stageIdx hiddenStates routerLogits none
  | .localMlp => .ok []
  | .remoteDeepseekV4Ffn =>
    if inputIds.size.length ≠ 1 ∨ inputIds.numTokens ≠ hiddenStates.numTokens then
      .error "DeepSeek-V4 input_ids must be one-dimensional and token-aligned"
    else sendAndReceive c layerIdx stageIdx hiddenStates none (some inputIds)
  | .qwen3_5RemoteExpertsMoe => sendAndReceive c layerIdx stageIdx hiddenStates none none

/-- One stage's forward through all decoder layers. Attention, norms and
residuals keep the shape of the hidden states. -/
def Model.stageForward (m : Model) (native : Native) (c : P2pNcclAFDConnector)
    (computeGateOnAttention : Bool) (stage : Int × Int32) : Except String (List (Ring.Action Op)) := do
  let hiddenStates : TensorMetadata := ⟨m.dtype, [stage.2.toInt, m.hiddenSize]⟩
  let inputIds : TensorMetadata := ⟨.int32, [stage.2.toInt]⟩
  let layers ← (List.range m.layers.length).mapM
    (m.mlpForward native c computeGateOnAttention stage.1 hiddenStates inputIds)
  return layers.flatten

/-! ## The FFN role -/

/-- `get_experts_layer_indices`. -/
def Model.getExpertsLayerIndices (m : Model) : List Nat :=
  match m.adapter with
  | .deepseekV2 | .qwen3Moe => (List.range m.layers.length).filter fun layerIdx => m.isMoeLayer layerIdx
  | .deepseekV4 | .qwen3_5Moe => List.range m.layers.length

/-- `afd_requires_input_ids`. -/
def Model.afdRequiresInputIds (m : Model) : Bool := m.adapter = .deepseekV4

/-- `get_experts_routing_spec`: only DeepSeek V2 defines it. -/
def Model.getExpertsRoutingSpec (m : Model) : Except String AFDExpertRoutingSpec :=
  match m.adapter with
  | .deepseekV2 => .ok ⟨m.nRoutedExperts, m.routerDtype.getD m.dtype⟩
  | _ => .error "AttributeError: get_experts_routing_spec"

/-- `compute_experts_output`. -/
def Model.computeExpertsOutput (m : Model) (native : Native) (computeGateOnAttention : Bool)
    (hiddenStates : TensorMetadata) (layerIdx : Nat) : Except String TensorMetadata :=
  match m.adapter with
  | .deepseekV2 =>
    if ¬ computeGateOnAttention ∨ ¬ m.isMoeLayer layerIdx then
      .error "compute_experts_output requires an Attention-side-gate MoE layer"
    else .ok (native.ffn layerIdx hiddenStates)
  | _ => .error "AttributeError: compute_experts_output"

/-- `compute_ffn_output`. -/
def Model.computeFfnOutput (m : Model) (native : Native) (computeGateOnAttention : Bool)
    (hiddenStates : TensorMetadata) (layerIdx : Nat) (inputIds : Option TensorMetadata) :
    Except String TensorMetadata :=
  match m.adapter with
  | .deepseekV2 =>
    if computeGateOnAttention ∧ ¬ m.isMoeLayer layerIdx then
      .error "Dense DeepSeek layers are computed on the Attention side when compute_gate_on_attention=true"
    else if computeGateOnAttention then .error "GPU Attention-side gate must call compute_experts_output"
    else .ok (native.ffn layerIdx hiddenStates)
  | .deepseekV4 =>
    if inputIds.isNone then .error "DeepSeek-V4 FFN compute requires input_ids"
    else .ok (native.ffn layerIdx hiddenStates)
  | .qwen3Moe | .qwen3_5Moe => .ok (native.ffn layerIdx hiddenStates)

end AfdPlugin.Models
