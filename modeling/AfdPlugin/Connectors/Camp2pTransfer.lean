import AfdPlugin.Connectors.Camp2pCounts
import AfdPlugin.Connectors.P2pTransfer
/-!
# The CAMP2P connector's transfers

An Attention rank sends its rows through the A2E operator and gets the FFN's
rows back through E2A. What the two ends of an exchange agree on comes from four
places: the operator's arguments, of which a compiled graph has frozen the batch
size; the live DP metadata; the transfer state kept on the stage's forward
context; and the rows of the tensors themselves. The operators are a parameter.
-/

namespace AfdPlugin.Camp2p

open AfdPlugin.P2p (AFDTransferMetadata)

/-! ## Operators -/

/-- The arguments of one `a2e` call. -/
structure A2ECall (Row Scale : Type) where
  x : List Row
  expertIds : Option (List (List Int32))
  scales : Option (List (List Scale))
  batchSize : Int
  hiddenSize : Nat
  topk : Nat
  expertRankSize : Nat
  attentionRankSize : Nat
  rank : Nat
  groupEp : String
  aivNum : Nat
  computeGate : Nat
  deriving DecidableEq

/-- `base_batch_size` of the `a2e` binding, an `int32_t`. -/
def A2ECall.baseBatchSize {Row Scale : Type} (c : A2ECall Row Scale) : Int32 :=
  Int32.ofInt (if c.rank ≥ c.expertRankSize then c.x.length else c.batchSize)

/-- The outputs of `a2e` on an FFN rank. -/
structure A2EOutputs (Row Scale Handle : Type) where
  expandX : List Row
  simulateExpertIds : List (List Int32)
  simulateExpertScales : List (List Scale)
  attenBatchSize : Handle

/-- The arguments of one `e2a` call. -/
structure E2ACall (Row Handle : Type) where
  expandX : List Row
  attenBatchSize : Handle
  batchSize : Int
  hiddenSize : Nat
  topk : Nat
  expertRankSize : Nat
  attentionRankSize : Nat
  rank : Nat
  groupEp : String
  aivNum : Nat
  deriving DecidableEq

/-- `base_batch_size` of the `e2a` binding. -/
def E2ACall.baseBatchSize {Row Handle : Type} (c : E2ACall Row Handle) : Int32 :=
  Int32.ofInt (if c.rank ≥ c.expertRankSize then c.expandX.length else c.batchSize)

/-- What the HCCL groups and the two kernels give: the name of a group on a
rank; `atten_batch_size` on an Attention rank; the outputs of an FFN rank, whose
Attention ranks made the listed calls; and the rows an Attention rank gets
from the call of its FFN rank. -/
structure CamOperators (Row Scale Handle : Type) where
  commName : Nat → Nat → String
  commName_ne : ∀ rank group, commName rank group ≠ ""
  a2eSend : A2ECall Row Scale → Handle
  a2eRecv : A2ECall Row Scale → List (A2ECall Row Scale) → A2EOutputs Row Scale Handle
  e2a : E2ACall Row Handle → E2ACall Row Handle → List Row

section
variable {Row Scale Handle : Type}

/-- The FFN rank's `a2e` call and those of its Attention ranks, in ascending
order, are one exchange of rows of one shape over one group. -/
structure A2EMatched (ops : CamOperators Row Scale Handle) (ffn : A2ECall Row Scale)
    (calls : List (A2ECall Row Scale)) : Prop where
  ffn_rank : ffn.rank < ffn.expertRankSize
  ranks : calls.map A2ECall.rank =
    (Strided.group ffn.attentionRankSize ffn.expertRankSize ffn.rank).map (ffn.expertRankSize + ·)
  group : ∃ g, ffn.groupEp = ops.commName ffn.rank g ∧ ∀ c ∈ calls, c.groupEp = ops.commName c.rank g
  shape : ∀ c ∈ calls, c.expertRankSize = ffn.expertRankSize ∧ c.attentionRankSize = ffn.attentionRankSize ∧
    c.hiddenSize = ffn.hiddenSize ∧ c.topk = ffn.topk ∧ c.computeGate = ffn.computeGate

/-- An Attention rank's `e2a` call and that of its FFN rank. -/
structure E2AMatched (ops : CamOperators Row Scale Handle) (ffn attn : E2ACall Row Handle) : Prop where
  ffn_rank : ffn.rank < ffn.expertRankSize
  rank : ∃ a ∈ Strided.group ffn.attentionRankSize ffn.expertRankSize ffn.rank,
    attn.rank = ffn.expertRankSize + a
  group : ∃ g, ffn.groupEp = ops.commName ffn.rank g ∧ attn.groupEp = ops.commName attn.rank g
  shape : attn.expertRankSize = ffn.expertRankSize ∧ attn.attentionRankSize = ffn.attentionRankSize ∧
    attn.hiddenSize = ffn.hiddenSize

/-- A2E and E2A move equal chunks of each FFN rank's Attention ranks, in
ascending rank order. -/
structure MovesEqualChunks (ops : CamOperators Row Scale Handle) : Prop where
  a2e_hidden : ∀ ffn calls n, A2EMatched ops ffn calls → (∀ c ∈ calls, c.x.length = n) →
    ffn.baseBatchSize.toInt = calls.length * n → (ops.a2eRecv ffn calls).expandX = calls.flatMap A2ECall.x
  a2e_ids : ∀ ffn calls n, A2EMatched ops ffn calls → (∀ c ∈ calls, c.x.length = n) →
    ffn.baseBatchSize.toInt = calls.length * n → ffn.computeGate = 1 →
    (∀ c ∈ calls, ∃ ids, c.expertIds = some ids ∧ ids.length = n) →
    (ops.a2eRecv ffn calls).simulateExpertIds = calls.flatMap fun c => c.expertIds.getD []
  e2a_rows : ∀ ffn attn (a n m : Nat), E2AMatched ops ffn attn → attn.rank = ffn.expertRankSize + a →
    ffn.expandX.length = ffn.baseBatchSize.toInt →
    ffn.baseBatchSize.toInt = (ffn.attentionRankSize / ffn.expertRankSize : Nat) * n →
    attn.baseBatchSize.toInt = m → m ≤ n →
    ops.e2a ffn attn = (ffn.expandX.drop (a / ffn.expertRankSize * n)).take m

end

/-! ## State -/

/-- `CAMP2PTransferState`, as far as the connector reads it back. -/
structure CAMP2PTransferState (Handle : Type) where
  aivNum : Nat := 8
  batchSize : Int := 0
  h : Nat := 0
  k : Nat := 1
  attenBatchSize : Option Handle := none
  deriving DecidableEq

/-- What the connector keeps on a forward context. -/
structure ForwardContext (Handle : Type) where
  camAfdtransferState : Option (CAMP2PTransferState Handle) := none
  ubatchIdx : Option Int := none
  deriving DecidableEq

/-- The connector's fields that its transfers read. -/
structure CAMP2pEndpoint where
  connector : CAMP2pAFDConnector
  isInitialized : Bool := false
  hcclCommName : String := ""
  hcclCommName2 : String := ""
  hcclCommName3 : String := ""
  hiddenSize : Nat
  numExpertsPerTok : Nat
  aivNum : Nat

namespace CAMP2pEndpoint

def attnSize (e : CAMP2pEndpoint) : Nat := e.connector.attnSize

def ffnSize (e : CAMP2pEndpoint) : Nat := e.connector.ffnSize

def worldRank (e : CAMP2pEndpoint) : Nat := e.connector.topology.worldRank

/-- `init_afd_connector`: one HCCL group for each ubatch, by its name here. -/
def initAfdConnector (e : CAMP2pEndpoint) (numUbatches : Nat) (commName : Nat → String) : CAMP2pEndpoint :=
  let numUbatches := max 1 numUbatches
  { e with
    isInitialized := true
    hcclCommName := commName 0
    hcclCommName2 := if numUbatches > 1 then commName 1 else commName 0
    hcclCommName3 := if numUbatches > 2 then commName 2 else "" }

def updateStateFromDpMetadata (e : CAMP2pEndpoint) (payload : AFDControlPayload) :
    Except String CAMP2pEndpoint := do
  let connector ← e.connector.updateStateFromDpMetadata payload
  pure { e with connector := connector }

end CAMP2pEndpoint

/-- `_get_group_ep`. -/
def getGroupEp (ubatchIdx : Int) (hcclCommName1 hcclCommName2 hcclCommName3 : String) :
    Except String String :=
  if ubatchIdx = 1 then .ok (if hcclCommName2 = "" then hcclCommName1 else hcclCommName2)
  else if ubatchIdx = 2 then
    if hcclCommName3 = "" then .error "CAMP2P ubatch 2 requires a third HCCL group" else .ok hcclCommName3
  else if ubatchIdx < 0 then .error s!"CAMP2P ubatch index must be non-negative: {ubatchIdx}"
  else .ok hcclCommName1

/-! ## Token ids -/

section TokenIds
variable {Scale : Type} [Zero Scale]

/-- The ids channel: each token's id in every one of `topk` columns. -/
def packTokenIds (inputIds : List Int32) (topk : Nat) : List (List Int32) :=
  inputIds.map (List.replicate topk)

def inertScales (numTokens topk : Nat) : List (List Scale) :=
  List.replicate numTokens (List.replicate topk 0)

/-- `prepare_token_id_transfer`. -/
def prepareTokenIdTransfer (inputIds : List Int32) (topk : Nat) (expectedTokens : Int) :
    Except String (List (List Int32) × List (List Scale)) :=
  if (inputIds.length : Int) ≠ expectedTokens then
    .error s!"input_ids token count {inputIds.length} does not match the AFD transfer token count {expectedTokens}"
  else .ok (packTokenIds inputIds topk, inertScales inputIds.length topk)

/-- `sim_expert_ids[i, 0]`. -/
def firstColumn (row : List Int32) : Except String Int32 :=
  match row with
  | [] => .error "index 0 is out of bounds for dimension 1 with size 0"
  | id :: _ => .ok id

/-- `received_token_ids`. The expected count is at least one. -/
def receivedTokenIds (simExpertIds : List (List Int32)) (expectedTokens : Int) :
    Except String (List Int32) :=
  if (simExpertIds.length : Int) < expectedTokens then
    .error s!"received {simExpertIds.length} token ids but the FFN rank computes on {expectedTokens} tokens; the ids channel is not aligned with the FFN token layout"
  else (simExpertIds.take expectedTokens.toNat).mapM firstColumn

end TokenIds

/-! ## Attention side -/

section Attention
variable {Row Scale Handle : Type} [Zero Row] [Zero Scale] (ops : CamOperators Row Scale Handle)

/-- The arguments of `torch.ops.vllm.afd_camp2p_send_attn_output`. -/
structure SendAttnOutputArgs (Row Scale : Type) where
  hiddenStates : List Row
  hcclCommName : String
  hcclCommName2 : String
  hcclCommName3 : String
  batchSize : Int
  hiddenSize : Nat
  topk : Nat
  ffnSize : Nat
  attnSize : Nat
  worldRank : Nat
  aivNum : Nat
  computeGate : Nat
  expertIds : Option (List (List Int32))
  expertScales : Option (List (List Scale))

/-- `torch.cat((rows, rows.new_zeros((padding, …))))`; no padding adds no row. -/
def padRows {α : Type} (rows : List α) (zero : α) (padding : Int) : Except String (List α) :=
  if padding < 0 then .error s!"Trying to create tensor with negative dimension {padding}"
  else .ok (rows ++ List.replicate padding.toNat zero)

/-- `counts[world_rank - ffn_size]` of the context's stage in the live metadata. -/
def physicalTokens (connector : CAMP2pAFDConnector) (ctx : ForwardContext Handle)
    (worldRank ffnSize : Nat) :
    Except String Int :=
  match ctx.ubatchIdx with
  | none => .error "'ForwardContext' object has no attribute 'ubatch_idx'"
  | some stageIdx =>
    match connector.dpMetadataList.get? stageIdx with
    | none => .error s!"{stageIdx}"
    | some md =>
      match md.counts[worldRank - ffnSize]? with
      | none =>
        .error s!"index {worldRank - ffnSize} is out of bounds for dimension 0 with size {md.counts.length}"
      | some n => .ok n

/-- `send_attn_output_impl`: the `a2e` call, and the context after it. -/
def sendAttnOutputImpl (connector : CAMP2pAFDConnector) (ctx : ForwardContext Handle)
    (args : SendAttnOutputArgs Row Scale) : Except String (A2ECall Row Scale × ForwardContext Handle) := do
  let transferState := { (ctx.camAfdtransferState.getD {}) with
    batchSize := args.batchSize, h := args.hiddenSize, k := args.topk, aivNum := args.aivNum }
  let groupEp ← getGroupEp (ctx.ubatchIdx.getD 0) args.hcclCommName args.hcclCommName2 args.hcclCommName3
  let call : A2ECall Row Scale := {
    x := args.hiddenStates, expertIds := args.expertIds, scales := args.expertScales, batchSize :=
      args.batchSize
    hiddenSize := args.hiddenSize, topk := args.topk, expertRankSize := args.ffnSize
    attentionRankSize := args.attnSize, rank := args.worldRank, groupEp := groupEp, aivNum := args.aivNum
    computeGate := args.computeGate }
  let call ←
    if args.attnSize > args.ffnSize ∧ connector.dpMetadataList.entries.length > 1 then do
      let tokens ← physicalTokens connector ctx args.worldRank args.ffnSize
      let padding := tokens - args.hiddenStates.length
      let x ← padRows args.hiddenStates 0 padding
      let expertIds ← args.expertIds.mapM (padRows · (List.replicate args.topk 0) padding)
      let scales ← args.expertScales.mapM (padRows · (List.replicate args.topk 0) padding)
      pure { call with x := x, expertIds := expertIds, scales := scales, batchSize := tokens }
    else pure call
  let transferState := { transferState with
    batchSize := call.batchSize, attenBatchSize := some (ops.a2eSend call) }
  pure (call, { ctx with camAfdtransferState := some transferState })

/-- The operator's arguments as `send_attn_output` passes them, with the batch
size the call or the graph has. -/
def sendAttnOutputArgs (e : CAMP2pEndpoint) (hiddenStates : List Row) (batchSize : Int)
    (ids : Option (List (List Int32) × List (List Scale))) : SendAttnOutputArgs Row Scale where
  hiddenStates := hiddenStates
  hcclCommName := e.hcclCommName
  hcclCommName2 := e.hcclCommName2
  hcclCommName3 := e.hcclCommName3
  batchSize := batchSize
  hiddenSize := e.hiddenSize
  topk := e.numExpertsPerTok
  ffnSize := e.ffnSize
  attnSize := e.attnSize
  worldRank := e.worldRank
  aivNum := e.aivNum
  computeGate := if ids.isSome then 1 else 0
  expertIds := ids.map Prod.fst
  expertScales := ids.map Prod.snd

/-- `send_attn_output`, outside a trace. -/
def sendAttnOutput (e : CAMP2pEndpoint) (ctx : ForwardContext Handle) (hiddenStates : List Row)
    (metadata : AFDTransferMetadata) (inputIds : Option (List Int32)) :
    Except String (A2ECall Row Scale × ForwardContext Handle) := do
  if ¬ e.isInitialized then throw "CAMP2P connector is not initialized"
  if ¬ metadata.validateTensorShape [hiddenStates.length, e.hiddenSize] then
    throw s!"hidden_states shape torch.Size([{hiddenStates.length}, {e.hiddenSize}]) does not match CAMP2P metadata token count {metadata.totalTokens}"
  let ids ← inputIds.mapM (prepareTokenIdTransfer · e.numExpertsPerTok metadata.totalTokens)
  let transferState : CAMP2PTransferState Handle := {
    aivNum := e.aivNum, batchSize := metadata.totalTokens, h := e.hiddenSize, k := e.numExpertsPerTok }
  let ctx := { ctx with camAfdtransferState := some transferState, ubatchIdx := some metadata.stageIdx }
  sendAttnOutputImpl ops e.connector ctx (sendAttnOutputArgs e hiddenStates metadata.totalTokens ids)

/-- How a layer's send or receive runs: as Python, or as the operator in a
compiled graph, with the batch size of the step it was traced in. -/
inductive RunMode where
  | eager (layerIdx : Nat)
  | compiled (batchSize : Int)
  deriving DecidableEq, Repr

/-- A layer's send for a stage. The eager metadata has the tensor's row count. -/
def send (e : CAMP2pEndpoint) (ctx : ForwardContext Handle) (stageIdx : Int) (mode : RunMode)
    (hiddenStates : List Row) (inputIds : Option (List Int32)) :
    Except String (A2ECall Row Scale × ForwardContext Handle) :=
  match mode with
  | .eager layerIdx => do
    let metadata ← AFDTransferMetadata.new layerIdx stageIdx [hiddenStates.length]
    sendAttnOutput ops e ctx hiddenStates metadata inputIds
  | .compiled batchSize =>
    let ids := inputIds.map fun ids =>
      (packTokenIds ids e.numExpertsPerTok, inertScales ids.length e.numExpertsPerTok)
    sendAttnOutputImpl ops e.connector ctx (sendAttnOutputArgs e hiddenStates batchSize ids)

/-- `recv_ffn_output_impl`: the `e2a` call, and the context after it. -/
def recvFfnOutputImpl (e : CAMP2pEndpoint) (ctx : ForwardContext Handle) (refTensor : List Row)
    (batchSize : Int) :
    Except String (E2ACall Row Handle × ForwardContext Handle) :=
  match ctx.camAfdtransferState with
  | none => .error "CAMP2P Attention side is missing A2E handle data"
  | some transferState =>
    match transferState.attenBatchSize with
    | none => .error "CAMP2P Attention side is missing A2E handle data"
    | some attenBatchSize => do
      let groupEp ← getGroupEp (ctx.ubatchIdx.getD 0) e.hcclCommName e.hcclCommName2 e.hcclCommName3
      let call : E2ACall Row Handle := {
        expandX := refTensor, attenBatchSize := attenBatchSize, batchSize := batchSize, hiddenSize :=
          e.hiddenSize
        topk := e.numExpertsPerTok, expertRankSize := e.ffnSize, attentionRankSize :=
          e.attnSize, rank := e.worldRank
        groupEp := groupEp, aivNum := e.aivNum }
      let transferState := { transferState with
        batchSize := batchSize, h := e.hiddenSize, k := e.numExpertsPerTok, aivNum := e.aivNum }
      pure (call, { ctx with camAfdtransferState := some transferState })

/-- `recv_ffn_output`, outside a trace. -/
def recvFfnOutput (e : CAMP2pEndpoint) (ctx : ForwardContext Handle) (refTensor : List Row)
    (ubatchIdx : Int) :
    Except String (E2ACall Row Handle × ForwardContext Handle) :=
  if ¬ e.isInitialized then .error "CAMP2P connector is not initialized"
  else match ctx.camAfdtransferState with
  | none => .error "CAMP2P Attention side is missing connector data"
  | some transferState =>
    recvFfnOutputImpl e { ctx with ubatchIdx := some ubatchIdx } refTensor transferState.batchSize

/-- A layer's receive for a stage. -/
def receive (e : CAMP2pEndpoint) (ctx : ForwardContext Handle) (stageIdx : Int) (mode : RunMode)
    (refTensor : List Row) : Except String (E2ACall Row Handle × ForwardContext Handle) :=
  match mode with
  | .eager _ => recvFfnOutput e ctx refTensor stageIdx
  | .compiled batchSize => recvFfnOutputImpl e ctx refTensor batchSize

/-- What the threads of an Attention rank do: each stage has its own forward
context, which is the current one while its thread runs. -/
inductive AttnOp (Row : Type) where
  | send (stageIdx : Int) (mode : RunMode) (hiddenStates : List Row) (inputIds : Option (List Int32))
  | receive (stageIdx : Int) (mode : RunMode) (refTensor : List Row)

def AttnOp.stageIdx : AttnOp Row → Int
  | .send s _ _ _ => s
  | .receive s _ _ => s

/-- One operation of a rank, on the contexts of its stages. -/
def attnStep (e : CAMP2pEndpoint) (contexts : Int → ForwardContext Handle) (op : AttnOp Row) :
    Except String (Int → ForwardContext Handle) :=
  match op with
  | .send s mode hiddenStates inputIds => do
    let (_, ctx) ← send ops e (contexts s) s mode hiddenStates inputIds
    pure (Function.update contexts s ctx)
  | .receive s mode refTensor => do
    let (_, ctx) ← receive e (contexts s) s mode refTensor
    pure (Function.update contexts s ctx)

def attnRun (e : CAMP2pEndpoint) (contexts : Int → ForwardContext Handle) (operations : List (AttnOp Row)) :
    Except String (Int → ForwardContext Handle) := operations.foldlM (attnStep ops e) contexts

end Attention

/-! ## FFN side -/

section Ffn
variable {Row Scale Handle : Type} (ops : CamOperators Row Scale Handle)

/-- `AFDA2FTransferPayload`, with its context's metadata and state. -/
structure AFDA2FTransferPayload (Row Handle : Type) where
  hiddenStates : List Row
  metadata : AFDTransferMetadata
  states : CAMP2PTransferState Handle
  inputIds : Option (List Int32)

/-- The `a2e` binding on an FFN rank: it allocates the outputs first. -/
def a2eOnFfn (call : A2ECall Row Scale) (calls : List (A2ECall Row Scale)) :
    Except String (A2EOutputs Row Scale Handle) :=
  if call.baseBatchSize < 0 then
    .error s!"Trying to create tensor with negative dimension {call.baseBatchSize}: [{call.baseBatchSize}, {call.hiddenSize}]"
  else .ok (ops.a2eRecv call calls)

/-- `recv_attn_output`, when the mapped Attention ranks make the listed calls. -/
def recvAttnOutput (e : CAMP2pEndpoint) (calls : List (A2ECall Row Scale)) (ubatchIdx : Int)
    (layerIdx : Nat) (maxNumTokens : Int) (recvInputIds : Bool) :
    Except String (AFDA2FTransferPayload Row Handle) := do
  if ¬ e.isInitialized then throw "CAMP2P connector is not initialized"
  let batchSize ← numTokensForFfnRank e.connector.dpMetadataList ubatchIdx e.connector.topology.roleRank
    e.attnSize e.ffnSize maxNumTokens
  let metadata ← AFDTransferMetadata.new layerIdx ubatchIdx [batchSize]
  let customStates : CAMP2PTransferState Handle := {
    aivNum := e.aivNum, batchSize := batchSize, h := e.hiddenSize, k := e.numExpertsPerTok }
  let groupEp ← getGroupEp ubatchIdx e.hcclCommName e.hcclCommName2 e.hcclCommName3
  let outputs ← a2eOnFfn ops {
    x := [], expertIds := some [], scales := some [], batchSize := batchSize, hiddenSize := e.hiddenSize
    topk := e.numExpertsPerTok, expertRankSize := e.ffnSize, attentionRankSize :=
      e.attnSize, rank := e.worldRank
    groupEp := groupEp, aivNum := e.aivNum, computeGate := if recvInputIds then 1 else 0 } calls
  let receivedIds ←
    if recvInputIds then (receivedTokenIds outputs.simulateExpertIds batchSize).map some else pure none
  pure {
    hiddenStates := outputs.expandX
    metadata := metadata
    states := { customStates with attenBatchSize := some outputs.attenBatchSize }
    inputIds := receivedIds }

/-- `send_ffn_output`: the `e2a` call. -/
def sendFfnOutput (e : CAMP2pEndpoint) (ffnOutput : List Row) (metadata : AFDTransferMetadata)
    (states : CAMP2PTransferState Handle) (ubatchIdx : Option Int) :
    Except String (E2ACall Row Handle) := do
  if ¬ e.isInitialized then throw "CAMP2P connector is not initialized"
  match states.attenBatchSize with
  | none => throw "CAMP2P FFN side is missing A2E atten_batch_size"
  | some attenBatchSize =>
    let groupEp ← getGroupEp (ubatchIdx.getD metadata.stageIdx) e.hcclCommName e.hcclCommName2
      e.hcclCommName3
    pure {
      expandX := ffnOutput, attenBatchSize := attenBatchSize, batchSize :=
        states.batchSize, hiddenSize := states.h
      topk := states.k, expertRankSize := e.ffnSize, attentionRankSize := e.attnSize, rank := e.worldRank
      groupEp := groupEp, aivNum := states.aivNum }

/-- A row-wise FFN, whose router may look at the token's id. -/
def computeFfnOutput (ffn : Row → Option Int32 → Row) (hiddenStates : List Row)
    (inputIds : Option (List Int32)) :
    List Row :=
  match inputIds with
  | none => hiddenStates.map (ffn · none)
  | some ids => List.zipWith (fun x id => ffn x (some id)) hiddenStates ids

end Ffn

end AfdPlugin.Camp2p
