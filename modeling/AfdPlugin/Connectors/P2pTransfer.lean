import AfdPlugin.Connectors.P2p
import AfdPlugin.Lib.Json
/-!
# The P2P connector's transfers

What one send or receive of the P2P connector puts on the wire, or expects
from it. Messages carry no header: the n-th tensor a rank sends to a peer lands
in the n-th buffer the peer posts for it. The connector is initialised, and
tensors are described by dtype and shape.
-/

namespace AfdPlugin.P2p

/-- Which of a message's tensors this is. -/
inductive WireKind where
  | hiddenStates
  | routerLogits
  | inputIds
  | ffnOutput
  deriving DecidableEq, Repr

/-- A tensor on the wire. -/
structure WireTensor where
  kind : WireKind
  metadata : TensorMetadata
  deriving DecidableEq, Repr

/-- `AFDExpertRoutingSpec`. -/
structure AFDExpertRoutingSpec where
  routerLogitsWidth : Nat
  routerLogitsDtype : Dtype
  deriving DecidableEq, Repr

/-- `AFDTransferMetadata`. -/
structure AFDTransferMetadata where
  layerIdx : Nat
  stageIdx : Int
  seqLens : List Int
  deriving DecidableEq, Repr

/-- `__post_init__`. -/
def AFDTransferMetadata.new (layerIdx : Nat) (stageIdx : Int) (seqLens : List Int) :
    Except String AFDTransferMetadata :=
  if seqLens = [] then .error "seq_lens cannot be empty"
  else if seqLens.any (· < 0) then .error "all sequence lengths must be non-negative"
  else .ok ⟨layerIdx, stageIdx, seqLens⟩

def AFDTransferMetadata.totalTokens (m : AFDTransferMetadata) : Int := m.seqLens.sum

def AFDTransferMetadata.validateTensorShape (m : AFDTransferMetadata) (shape : List Int) : Bool :=
  shape ≠ [] ∧ shape.headD 0 = m.totalTokens

/-- `AFDA2FTransferPayload`. -/
structure AFDA2FTransferPayload where
  hiddenStates : TensorMetadata
  metadata : AFDTransferMetadata
  routerLogits : Option TensorMetadata
  inputIds : Option TensorMetadata
  deriving DecidableEq, Repr

/-- `_recv_buffer`: the reference tensor where it fits, keeping its own first
dimension; otherwise a fresh one. -/
def recvBuffer (m : TensorMetadata) (refTensor : Option TensorMetadata) : TensorMetadata :=
  match refTensor with
  | none => m
  | some ref =>
    let size := m.size.set 0 ref.numTokens
    if ref.size = size ∧ ref.dtype = m.dtype then ref else ⟨m.dtype, size⟩

/-- `torch.cat(tensors, dim=0)`, or the only tensor. -/
def concat : List TensorMetadata → TensorMetadata
  | [] => ⟨.float32, []⟩
  | t :: ts => ⟨t.dtype, ((t :: ts).map TensorMetadata.numTokens).sum :: t.size.tail⟩

namespace P2pNcclAFDConnector

/-- `send_attn_output`: the tensors sent to the FFN rank, in wire order. -/
def sendAttnOutput (c : P2pNcclAFDConnector) (hiddenStates : TensorMetadata)
    (metadata : AFDTransferMetadata) (routerLogits inputIds : Option TensorMetadata) :
    Except String (List WireTensor) := do
  if ¬ metadata.validateTensorShape hiddenStates.size then
    .error s!"hidden_states shape torch.Size({hiddenStates.size}) does not match AFD metadata token count {metadata.totalTokens}"
  match routerLogits with
  | some t =>
    if t.numTokens ≠ hiddenStates.numTokens then
      .error "router_logits and hidden_states must have equal token counts"
  | none => pure ()
  match inputIds with
  | some t =>
    if t.size.length ≠ 1 ∨ t.numTokens ≠ hiddenStates.numTokens then
      .error "input_ids must be one-dimensional and token-aligned with hidden_states"
    if t.dtype ≠ .int32 then .error "P2P AFD input_ids must use torch.int32"
  | none => pure ()
  -- a single-rank subgroup sends nothing
  if c.groupSize = 1 then return []
  return [⟨.hiddenStates, hiddenStates⟩] ++ (routerLogits.map (⟨.routerLogits, ·⟩)).toList ++
    (inputIds.map (⟨.inputIds, ·⟩)).toList

/-- `recv_ffn_output`. -/
def recvFfnOutput (c : P2pNcclAFDConnector) (refTensor : TensorMetadata) (ubatchIdx : Int) :
    Except String WireTensor := do
  match c.tensorMetadataList.get? ubatchIdx with
  | none => .error s!"KeyError: {ubatchIdx}"
  | some m => return ⟨.ffnOutput, if c.groupSize = 1 then refTensor else recvBuffer m (some refTensor)⟩

/-- The buffers one peer's message is received into, in wire order. -/
def peerBuffers (c : P2pNcclAFDConnector) (ubatchIdx : Int) (src : Nat) (m : TensorMetadata)
    (routingSpec : Option AFDExpertRoutingSpec) (recvInputIds : Bool) : List WireTensor :=
  let refTensor := if c.enforceEager then none else c.recvAttnBuffers.get? (ubatchIdx, src, m.size)
  let hiddenStates := recvBuffer m refTensor
  let routerLogits := routingSpec.map fun spec =>
    recvBuffer ⟨spec.routerLogitsDtype, [m.numTokens, spec.routerLogitsWidth]⟩ none
  let inputIdsRef := if c.enforceEager then
    none else c.recvAttnInputIdsBuffers.get? (ubatchIdx, src, [m.numTokens])
  let inputIds := if recvInputIds then some (recvBuffer ⟨.int32, [m.numTokens]⟩ inputIdsRef) else none
  [⟨.hiddenStates, hiddenStates⟩] ++ (routerLogits.map (⟨.routerLogits, ·⟩)).toList ++
    (inputIds.map (⟨.inputIds, ·⟩)).toList

/-- The tensors of one kind that were received, one for each peer. -/
def ofKind (kind : WireKind) (received : List (Nat × List WireTensor)) : List TensorMetadata :=
  received.flatMap fun p => (p.2.filter (·.kind = kind)).map WireTensor.metadata

/-- The places of the Attention peers in the subgroup, `range(1, group_size)`. -/
def peers (c : P2pNcclAFDConnector) : List Nat := List.range' 1 (c.groupSize - 1)

/-- The loop body of `recv_attn_output`. -/
def recvPeer (c : P2pNcclAFDConnector) (ubatchIdx : Int) (routingSpec : Option AFDExpertRoutingSpec)
    (recvInputIds : Bool) (src : Nat) : Except String (Nat × List WireTensor) :=
  match c.tensorMetadataList.get? ubatchIdx with
  | none => .error s!"KeyError: {ubatchIdx}"
  | some total =>
    let m := (c.recvAttnTensorMetadataList.get? (ubatchIdx, src)).getD total
    .ok (src, c.peerBuffers ubatchIdx src m routingSpec recvInputIds)

/-- `recv_attn_output`: what is received from each peer, and the payload made of it. -/
def recvAttnOutput (c : P2pNcclAFDConnector) (ubatchIdx : Int) (routingSpec : Option AFDExpertRoutingSpec)
    (recvInputIds : Bool) : Except String (List (Nat × List WireTensor) × AFDA2FTransferPayload) := do
  let received ← c.peers.mapM (c.recvPeer ubatchIdx routingSpec recvInputIds)
  let hiddenStatesList := ofKind .hiddenStates received
  if hiddenStatesList = [] then .error "P2P FFN rank has no Attention peers"
  let metadata ← AFDTransferMetadata.new 0 ubatchIdx (hiddenStatesList.map TensorMetadata.numTokens)
  let inputIdsList := ofKind .inputIds received
  return (received, {
    hiddenStates := concat hiddenStatesList
    metadata := metadata
    routerLogits := if routingSpec.isSome then some (concat (ofKind .routerLogits received)) else none
    inputIds := if inputIdsList = [] then none else some (concat inputIdsList) })

/-- The slices `ffn_output[start:end]`, one for each peer with a split size. -/
def outputSlices (ffnOutput : TensorMetadata) : Int → List (Nat × Int) → List (Nat × Int × WireTensor)
  | _, [] => []
  | start, (dst, tokenCount) :: rest =>
    let rows := min (start + tokenCount) ffnOutput.numTokens - min start ffnOutput.numTokens
    (dst, start, ⟨.ffnOutput, ⟨ffnOutput.dtype, rows :: ffnOutput.size.tail⟩⟩) ::
      outputSlices ffnOutput (start + tokenCount) rest

/-- `send_ffn_output`: for each peer, the first row and the tensor sent to it. -/
def sendFfnOutput (c : P2pNcclAFDConnector) (ffnOutput : TensorMetadata) (metadata : AFDTransferMetadata) :
    Except String (List (Nat × Int × WireTensor)) := do
  if ¬ metadata.validateTensorShape ffnOutput.size then
    .error s!"ffn_output shape torch.Size({ffnOutput.size}) does not match metadata"
  let mut splitSizes := metadata.seqLens
  if splitSizes.length ≠ c.ratio then
    let totalTokens := ffnOutput.numTokens
    if totalTokens % c.ratio ≠ 0 then
      .error s!"cannot evenly split FFN output across Attention peers: tokens={totalTokens}, ratio={c.ratio}"
    splitSizes := List.replicate c.ratio (totalTokens / c.ratio)
  return outputSlices ffnOutput 0 (c.peers.zip splitSizes)

/-! ## Receive buffers keep the shape they were allocated for -/

/-- Buffers are kept under their own shape. -/
structure BuffersKeyed (c : P2pNcclAFDConnector) : Prop where
  hiddenStates : ∀ k m, c.recvAttnBuffers.get? k = some m → m.size = k.2.2
  inputIds : ∀ k m, c.recvAttnInputIdsBuffers.get? k = some m → m.size = k.2.2

theorem init_eq {cfg : AFDConfig} {roleRank : Int} {mapping : Topology.AFDRankMapping}
    (h : Topology.buildRankMapping cfg roleRank = .ok mapping) {hiddenSize : Nat} {dtype : Dtype}
    {enforceEager : Bool} :
    init cfg roleRank hiddenSize dtype enforceEager =
      .ok ⟨cfg, roleRank, mapping, h, hiddenSize, dtype, enforceEager, ∅, false, false, ∅, ∅, ∅, ∅⟩ := by
  unfold P2pNcclAFDConnector.init
  split
  · rename_i mapping' h'
    cases h.symm.trans h'
    rfl
  · rename_i e h'
    cases h.symm.trans h'

/-- A connector after its construction and any number of payloads. -/
inductive Reachable : P2pNcclAFDConnector → Prop
  | init {cfg : AFDConfig} {roleRank : Int} {hiddenSize : Nat} {dtype : Dtype} {enforceEager : Bool}
      {c : P2pNcclAFDConnector} : init cfg roleRank hiddenSize dtype enforceEager = .ok c → Reachable c
  | update {c : P2pNcclAFDConnector} (payload : AFDControlPayload) :
      Reachable c → Reachable (c.updateStateFromDpMetadata payload)

theorem BuffersKeyed.updateBuffers {c : P2pNcclAFDConnector} (h : c.BuffersKeyed) (stage : Int) (src : Nat)
    (m : TensorMetadata) : (c.updateBuffers stage src m).BuffersKeyed := by
  have hset : ∀ {d : Dict (Int × Nat × List Int) TensorMetadata} {key : Int × Nat × List Int} {v :
      TensorMetadata},
      (∀ k m, d.get? k = some m → m.size = k.2.2) → v.size = key.2.2 →
        ∀ k m, (d.set key v).get? k = some m → m.size = k.2.2 := by
    intro d key v hd hv k m hk
    rw [Dict.get?_set] at hk
    split at hk
    · cases hk
      rename_i hkey
      rw [hkey, hv]
    · exact hd k m hk
  unfold P2pNcclAFDConnector.updateBuffers
  dsimp only
  split <;> split
  · exact ⟨hset h.hiddenStates rfl, h.inputIds⟩
  · exact ⟨hset h.hiddenStates rfl, hset h.inputIds rfl⟩
  · exact ⟨h.hiddenStates, h.inputIds⟩
  · exact ⟨h.hiddenStates, hset h.inputIds rfl⟩

theorem BuffersKeyed.updateStage {c : P2pNcclAFDConnector} (h : c.BuffersKeyed) (stage : Int)
    (md : AFDDPMetadata) :
    (c.updateStage stage md).BuffersKeyed := by
  unfold P2pNcclAFDConnector.updateStage
  split <;> exact ⟨h.hiddenStates, h.inputIds⟩

theorem BuffersKeyed.update {c : P2pNcclAFDConnector} (h : c.BuffersKeyed) (payload : AFDControlPayload) :
    (c.updateStateFromDpMetadata payload).BuffersKeyed := by
  -- the loop over the stages writes no buffer
  have hstages : ∀ (l : List (Int × AFDDPMetadata)) (c : P2pNcclAFDConnector), c.BuffersKeyed →
      (l.foldl (fun c e => c.updateStage e.1 e.2) c).BuffersKeyed := by
    intro l
    induction l with
    | nil => exact fun _ h => h
    | cons e l ih => exact fun c h => ih _ (h.updateStage e.1 e.2)
  have hbuffers : ∀ (l : List ((Int × Nat) × TensorMetadata)) (c : P2pNcclAFDConnector), c.BuffersKeyed →
      (l.foldl (fun c e => c.updateBuffers e.1.1 e.1.2 e.2) c).BuffersKeyed := by
    intro l
    induction l with
    | nil => exact fun _ h => h
    | cons e l ih => exact fun c h => ih _ (h.updateBuffers e.1.1 e.1.2 e.2)
  have hstored : (c.storePayload payload).BuffersKeyed := ⟨h.hiddenStates, h.inputIds⟩
  unfold updateStateFromDpMetadata
  dsimp only
  split
  · exact hbuffers _ _ (hstages _ _ hstored)
  · exact hstages _ _ hstored

theorem Reachable.buffersKeyed {c : P2pNcclAFDConnector} (h : Reachable c) : c.BuffersKeyed := by
  induction h with
  | init hc =>
    unfold P2pNcclAFDConnector.init at hc
    split at hc
    · cases hc
      refine ⟨?_, ?_⟩
      · intro k m h
        cases h
      · intro k m h
        cases h
    · cases hc
  | update payload _ ih => exact ih.update payload

/-! ## One transfer -/

/-- A reference tensor of the expected shape does not change what is received. -/
theorem recvBuffer_eq {m : TensorMetadata} {refTensor : Option TensorMetadata} (hm : m.size ≠ [])
    (h : ∀ ref, refTensor = some ref → ref.size = m.size) : recvBuffer m refTensor = m := by
  cases refTensor with
  | none => rfl
  | some ref =>
    have hsize : m.size.set 0 ref.numTokens = m.size := by
      rw [TensorMetadata.numTokens, h ref rfl]
      cases hl : m.size with
      | nil => exact absurd hl hm
      | cons n rest => rfl
    unfold recvBuffer
    dsimp only
    rw [hsize]
    split
    · rename_i href
      exact congrArg₂ TensorMetadata.mk href.2 href.1
    · rfl

/-- The tensors of one message: hidden states, router logits if any, input ids if any. -/
def message (hiddenStates : TensorMetadata) (routerLogits inputIds : Option TensorMetadata) :
    List WireTensor :=
  [⟨.hiddenStates, hiddenStates⟩] ++ (routerLogits.map (⟨.routerLogits, ·⟩)).toList ++
    (inputIds.map (⟨.inputIds, ·⟩)).toList

/-- What an FFN rank expects of a peer that announced `m`. -/
def expectedMessage (m : TensorMetadata) (routingSpec : Option AFDExpertRoutingSpec) (recvInputIds : Bool) :
    List WireTensor :=
  message m (routingSpec.map fun spec => ⟨spec.routerLogitsDtype, [m.numTokens, spec.routerLogitsWidth]⟩)
    (if recvInputIds then some ⟨.int32, [m.numTokens]⟩ else none)

theorem peerBuffers_eq {c : P2pNcclAFDConnector} (h : c.BuffersKeyed) (stage : Int) (src : Nat)
    {m : TensorMetadata} (hm : m.size ≠ []) (routingSpec : Option AFDExpertRoutingSpec)
    (recvInputIds : Bool) :
    c.peerBuffers stage src m routingSpec recvInputIds = expectedMessage m routingSpec recvInputIds := by
  have hidden : recvBuffer m (if c.enforceEager then
      none else c.recvAttnBuffers.get? (stage, src, m.size)) = m := by
    apply recvBuffer_eq hm
    intro ref href
    split at href
    · cases href
    · exact h.hiddenStates _ ref href
  have ids : recvBuffer ⟨.int32, [m.numTokens]⟩
      (if c.enforceEager then none else c.recvAttnInputIdsBuffers.get? (stage, src, [m.numTokens])) =
        ⟨.int32, [m.numTokens]⟩ := by
    apply recvBuffer_eq (List.cons_ne_nil _ _)
    intro ref href
    split at href
    · cases href
    · exact h.inputIds _ ref href
  unfold peerBuffers expectedMessage message
  dsimp only
  rw [hidden, ids]
  rfl

theorem sendAttnOutput_eq {c : P2pNcclAFDConnector} (hgroup : c.groupSize ≠ 1) {m : TensorMetadata}
    {layerIdx : Nat} {stage : Int} (hm : m.size ≠ []) {routerLogits inputIds : Option TensorMetadata}
    (hlogits : ∀ t, routerLogits = some t → t.numTokens = m.numTokens)
    (hids : ∀ t, inputIds = some t → t = ⟨.int32, [m.numTokens]⟩) :
    c.sendAttnOutput m ⟨layerIdx, stage, [m.numTokens]⟩ routerLogits inputIds =
      .ok (message m routerLogits inputIds) := by
  have hvalid : (⟨layerIdx, stage, [m.numTokens]⟩ : AFDTransferMetadata).validateTensorShape
      m.size = true := by
    simp [AFDTransferMetadata.validateTensorShape, AFDTransferMetadata.totalTokens, hm,
      TensorMetadata.numTokens]
  have hone : (⟨.int32, [m.numTokens]⟩ : TensorMetadata).numTokens = m.numTokens := rfl
  unfold sendAttnOutput message
  cases routerLogits with
  | none =>
    cases inputIds with
    | none => simp only [hvalid, not_true, if_false, if_neg hgroup]; rfl
    | some t =>
      obtain rfl := hids t rfl
      simp only [hvalid, not_true, if_false, if_neg hgroup, hone, ne_eq, List.length_singleton, or_self]
      rfl
  | some l =>
    have hl := hlogits l rfl
    cases inputIds with
    | none => simp only [hvalid, hl, ne_eq, not_true, if_false, if_neg hgroup]; rfl
    | some t =>
      obtain rfl := hids t rfl
      simp only [hvalid, hl, not_true, if_false, if_neg hgroup, hone, ne_eq, List.length_singleton, or_self]
      rfl

theorem recvFfnOutput_eq {c : P2pNcclAFDConnector} (hgroup : c.groupSize ≠ 1)
    {m refTensor : TensorMetadata} {stage : Int} (hstage : c.tensorMetadataList.get? stage = some m)
    (hm : m.size ≠ []) (href : refTensor.size = m.size) :
    c.recvFfnOutput refTensor stage = .ok ⟨.ffnOutput, m⟩ := by
  have hbuffer : recvBuffer m (some refTensor) = m := by
    apply recvBuffer_eq hm
    intro ref h
    cases h
    exact href
  unfold recvFfnOutput
  rw [hstage]
  dsimp only
  rw [if_neg hgroup, hbuffer]
  rfl

section FfnSide
variable {c : P2pNcclAFDConnector} {stage : Int} {rows : Nat → Int} {dtype : Dtype} {width : Int}

theorem ofKind_messages (kind : WireKind) (l : List Nat) (f : Nat → List WireTensor) :
    ofKind kind (l.map fun src => (src, f src)) =
      l.flatMap fun src => ((f src).filter (·.kind = kind)).map WireTensor.metadata := by
  rw [ofKind, List.flatMap_map]

theorem ofKind_hiddenStates (l : List Nat) (m : Nat → TensorMetadata)
    (routingSpec : Option AFDExpertRoutingSpec) (ids : Bool) :
    ofKind .hiddenStates (l.map fun src => (src, expectedMessage (m src) routingSpec ids)) =
      l.map m := by
  rw [ofKind_messages, List.map_eq_flatMap]
  cases routingSpec <;> cases ids <;> rfl

theorem ofKind_inputIds (l : List Nat) (m : Nat → TensorMetadata)
    (routingSpec : Option AFDExpertRoutingSpec) (ids : Bool) :
    ofKind .inputIds (l.map fun src => (src, expectedMessage (m src) routingSpec ids)) =
      if ids then l.map fun src => ⟨.int32, [(m src).numTokens]⟩ else [] := by
  rw [ofKind_messages]
  cases routingSpec <;> cases ids
  · simp [expectedMessage, message]
  · rw [if_pos rfl, List.map_eq_flatMap]
    rfl
  · simp [expectedMessage, message]
  · rw [if_pos rfl, List.map_eq_flatMap]
    rfl

theorem concat_map (l : List Nat) (hl : l ≠ []) :
    concat (l.map fun src => ⟨dtype, [rows src, width]⟩) = ⟨dtype, [(l.map rows).sum, width]⟩ := by
  cases l with
  | nil => exact absurd rfl hl
  | cons src l =>
    simp only [List.map_cons, concat, List.tail_cons, List.map_map]
    rfl

/-- One receive of the FFN rank: every peer's message, and the payload made of them. -/
theorem recvAttnOutput_eq (hb : c.BuffersKeyed) (hpeers : c.peers ≠ []) {total : TensorMetadata}
    (htotal : c.tensorMetadataList.get? stage = some total)
    (hmeta : ∀ src ∈ c.peers, c.recvAttnTensorMetadataList.get? (stage, src) =
      some ⟨dtype, [rows src, width]⟩) (hrows : ∀ src ∈ c.peers, 0 ≤ rows src)
    (routingSpec : Option AFDExpertRoutingSpec) (recvInputIds : Bool) :
    ∃ payload, c.recvAttnOutput stage routingSpec recvInputIds =
        .ok (c.peers.map fun src =>
          (src, expectedMessage ⟨dtype, [rows src, width]⟩ routingSpec recvInputIds),
          payload) ∧
      payload.hiddenStates = ⟨dtype, [(c.peers.map rows).sum, width]⟩ ∧
      payload.metadata = ⟨0, stage, c.peers.map rows⟩ ∧
      payload.routerLogits.isSome = routingSpec.isSome ∧ payload.inputIds.isSome = recvInputIds := by
  have hreceive : c.peers.mapM (c.recvPeer stage routingSpec recvInputIds) =
      .ok (c.peers.map fun src =>
        (src, expectedMessage ⟨dtype, [rows src, width]⟩ routingSpec recvInputIds)) := by
    apply Fallible.mapM_ok
    intro src hsrc
    unfold recvPeer
    rw [htotal]
    simp only [hmeta src hsrc, Option.getD_some]
    rw [peerBuffers_eq hb stage src (List.cons_ne_nil _ _)]
  have hlens : (c.peers.map fun src => (⟨dtype, [rows src, width]⟩ : TensorMetadata)).map
      TensorMetadata.numTokens = c.peers.map rows := by
    rw [List.map_map]
    rfl
  have hnew : AFDTransferMetadata.new 0 stage (c.peers.map rows) = .ok ⟨0, stage, c.peers.map rows⟩ := by
    have hnonneg : ¬ ((c.peers.map rows).any (· < 0)) = true := by
      simp only [List.any_map, List.any_eq_true, Function.comp_apply, decide_eq_true_eq, not_exists,
        not_and, not_lt]
      exact hrows
    unfold AFDTransferMetadata.new
    rw [if_neg (by simpa using hpeers), if_neg hnonneg]
  unfold recvAttnOutput
  rw [hreceive, Fallible.ok_bind]
  simp only [ofKind_hiddenStates, ofKind_inputIds, hlens, hnew, List.map_eq_nil_iff, hpeers, if_false]
  refine ⟨_, rfl, ?_, rfl, ?_, ?_⟩
  · exact concat_map _ hpeers
  · cases routingSpec <;> rfl
  · cases recvInputIds <;> simp [hpeers]

/-- The slices sent back cover the peers' rows, one after the other. -/
theorem outputSlices_range' (total : Int) (k n : Nat) {start : Int} (hstart : 0 ≤ start)
    (hrows : ∀ src ∈ List.range' k n, 0 ≤ rows src)
    (hle : start + ((List.range' k n).map rows).sum ≤ total) :
    outputSlices ⟨dtype, [total, width]⟩ start ((List.range' k n).zip ((List.range' k n).map rows)) =
      (List.range' k n).map fun src =>
        (src, start + ((List.range' k (src - k)).map rows).sum,
          ⟨.ffnOutput, ⟨dtype, [rows src, width]⟩⟩) := by
  induction n generalizing k start with
  | zero => rfl
  | succ n ih =>
    simp only [List.range'_succ, List.map_cons, List.sum_cons, List.zip_cons_cons, outputSlices] at hle ⊢
    have hk : 0 ≤ rows k := hrows k (by simp [List.range'_succ])
    have htail : ∀ src ∈ List.range' (k + 1) n, 0 ≤ rows src := fun src hsrc =>
      hrows src (by rw [List.range'_succ]; exact List.mem_cons_of_mem k hsrc)
    have hsum : 0 ≤ ((List.range' (k + 1) n).map rows).sum := by
      apply List.sum_nonneg
      intro x hx
      obtain ⟨src, hsrc, rfl⟩ := List.mem_map.1 hx
      exact htail src hsrc
    congr 1
    · simp only [TensorMetadata.numTokens, List.headD_cons, Nat.sub_self, List.range'_zero, List.map_nil,
        List.sum_nil, add_zero, List.tail_cons, Prod.mk.injEq, WireTensor.mk.injEq, TensorMetadata.mk.injEq,
        List.cons.injEq, true_and, and_true]
      omega
    · rw [ih (k + 1) (by omega) htail (by omega)]
      refine List.map_congr_left fun src hsrc => ?_
      obtain ⟨hlo, -⟩ := List.mem_range'_1.1 hsrc
      obtain ⟨d, rfl⟩ : ∃ d, src = k + 1 + d := ⟨src - (k + 1), by omega⟩
      have h1 : k + 1 + d - (k + 1) = d := by omega
      have h2 : k + 1 + d - k = d + 1 := by omega
      rw [h1, h2, List.range'_succ, List.map_cons, List.sum_cons, add_assoc start]

/-- Splitting the stage's output gives every peer the rows it sent. -/
theorem sendFfnOutput_eq (hrows : ∀ src ∈ c.peers, 0 ≤ rows src) {layerIdx : Nat} :
    c.sendFfnOutput ⟨dtype, [(c.peers.map rows).sum, width]⟩ ⟨layerIdx, stage, c.peers.map rows⟩ =
      .ok (c.peers.map fun src => (src, ((List.range' 1 (src - 1)).map rows).sum,
        ⟨.ffnOutput, ⟨dtype, [rows src, width]⟩⟩)) := by
  have hvalid : (⟨layerIdx, stage, c.peers.map rows⟩ : AFDTransferMetadata).validateTensorShape
      [(c.peers.map rows).sum, width] = true := by
    simp [AFDTransferMetadata.validateTensorShape, AFDTransferMetadata.totalTokens]
  have hlen : ¬ (c.peers.map rows).length ≠ c.ratio := by
    simp [peers, ratio, groupSize]
  have hslices : outputSlices ⟨dtype, [(c.peers.map rows).sum, width]⟩ 0 (c.peers.zip (c.peers.map rows)) =
      c.peers.map fun src =>
        (src, 0 + ((List.range' 1 (src - 1)).map rows).sum, ⟨.ffnOutput, ⟨dtype, [rows src, width]⟩⟩) :=
    outputSlices_range' _ 1 (c.groupSize - 1) le_rfl hrows (by rw [zero_add]; exact le_rfl)
  simp only [zero_add] at hslices
  unfold sendFfnOutput
  simp only [hvalid, hlen, not_true, if_false]
  exact congrArg Except.ok hslices

end FfnSide

end P2pNcclAFDConnector

end AfdPlugin.P2p
