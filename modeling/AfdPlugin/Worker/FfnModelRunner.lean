import AfdPlugin.Models.RemoteFfn
import AfdPlugin.Worker.RoutedFfn
/-!
# The FFN runner's forward

For each layer it serves and each stage of the control payload, the FFN runner
receives the Attention ranks' message, runs the layer, and sends the slices of
the result back.
-/

namespace AfdPlugin.FfnModelRunner

open P2p P2pNcclAFDConnector Models

/-- One round of the two loops: what was received from and sent to each peer. -/
structure Round where
  layerIdx : Nat
  stageIdx : Int
  received : List (Nat × List WireTensor)
  sent : List (Nat × Int × WireTensor)
  deriving DecidableEq, Repr

/-- The layers the runner serves. -/
def layerIndices (m : Model) (computeGateOnAttention : Bool) : List Nat :=
  let numLayers := max m.layers.length 1
  if computeGateOnAttention then m.getExpertsLayerIndices.dedup.insertionSort (· ≤ ·)
    else List.range numLayers

/-- The routing spec of a layer: `None` unless its experts take Attention's logits. -/
def routingSpec (m : Model) (computeGateOnAttention : Bool) (layerIdx : Nat) :
    Except String (Option AFDExpertRoutingSpec) :=
  if layerIdx ∈ m.getExpertsLayerIndices ∧ computeGateOnAttention then m.getExpertsRoutingSpec.map some
    else .ok none

/-- Running one layer on what was received. -/
def rankFfnOutput (m : Model) (native : Native) (computeGateOnAttention : Bool) (layerIdx : Nat)
    (payload : AFDA2FTransferPayload) : Except String TensorMetadata :=
  if layerIdx ∈ m.getExpertsLayerIndices ∧ computeGateOnAttention then
    if payload.routerLogits.isNone then .error "AssertionError"
    else m.computeExpertsOutput native computeGateOnAttention payload.hiddenStates layerIdx
  else m.computeFfnOutput native computeGateOnAttention payload.hiddenStates layerIdx payload.inputIds

/-- The body of the two loops. -/
def stageRound (m : Model) (native : Native) (c : P2pNcclAFDConnector) (computeGateOnAttention : Bool)
    (layerIdx : Nat) (stageIdx : Int) : Except String Round := do
  let routingSpec ← routingSpec m computeGateOnAttention layerIdx
  let (received, payload) ← c.recvAttnOutput stageIdx routingSpec m.afdRequiresInputIds
  let output ← rankFfnOutput m native computeGateOnAttention layerIdx payload
  let sent ← c.sendFfnOutput output { payload.metadata with layerIdx := layerIdx, stageIdx := stageIdx }
  return ⟨layerIdx, stageIdx, received, sent⟩

/-- `_ffn_forward`, after the connector state is updated. -/
def ffnForward (m : Model) (native : Native) (c : P2pNcclAFDConnector) (computeGateOnAttention : Bool)
    (dpMetadataList : Dict Int AFDDPMetadata) : Except String (List Round) := do
  let stageIds := RoutedFfn.stageIds dpMetadataList
  if stageIds.any fun s => (dpMetadataList.get? s).isNone then .error "KeyError"
  let rounds ← (layerIndices m computeGateOnAttention).mapM fun layerIdx =>
    stageIds.mapM (stageRound m native c computeGateOnAttention layerIdx)
  return rounds.flatten

/-- What a peer's message brought in each round, in order. -/
def receivedFrom (peer : Nat) (rounds : List Round) : List Transfer :=
  rounds.flatMap fun r =>
    ((r.received.filter fun p => p.1 = peer).flatMap (·.2)).map fun t => ⟨r.layerIdx, r.stageIdx, t⟩

/-- What was sent back to a peer, in order. -/
def sentTo (peer : Nat) (rounds : List Round) : List Transfer :=
  rounds.flatMap fun r => (r.sent.filter fun p => p.1 = peer).map fun p => ⟨r.layerIdx, r.stageIdx, p.2.2⟩

end AfdPlugin.FfnModelRunner
