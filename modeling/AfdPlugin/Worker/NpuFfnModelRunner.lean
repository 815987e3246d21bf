import AfdPlugin.Connectors.Camp2pTransfer
import AfdPlugin.Kernels.A2e
import AfdPlugin.Worker.CudaGraph
import AfdPlugin.Worker.NpuFfnCounts
/-!
# The NPU FFN runner's graphs

The NPU runner's key has the totals of the FFN ranks and not the counts of the
Attention ranks. It receives equal chunks, from which a total follows only if
the counts of a group are equal in every stage, as the sender makes them.
-/

namespace AfdPlugin.NpuFfnModelRunner

open Camp2p GraphCache CudaGraph

/-! ## The forward -/

/-- The fields of `hf_config` that say which layers have routed experts. -/
structure HfConfig where
  moeLayerFreq : Nat := 1
  firstKDenseReplace : Nat := 0
  nRoutedExperts : Option Nat
  deriving DecidableEq, Repr

/-- `_is_moe_layer`. -/
def isMoeLayer (hfConfig : HfConfig) (layerIdx : Nat) : Except String Bool :=
  if hfConfig.nRoutedExperts.isNone ∨ layerIdx < hfConfig.firstKDenseReplace then .ok false
  else if hfConfig.moeLayerFreq = 0 then .error "integer modulo by zero"
  else .ok (decide (layerIdx % hfConfig.moeLayerFreq = 0))

/-- What does not change while the worker runs. -/
structure RunnerConfig where
  dataParallelSize : Nat
  maxNumTokens : Int
  numLayers : Nat
  computeGateOnAttention : Bool
  hfConfig : HfConfig
  afdRequiresInputIds : Bool
  useAclgraph : Bool
  deriving DecidableEq, Repr

/-- `_ffn_layer_indices`. -/
def ffnLayerIndices (cfg : RunnerConfig) : Except String (List Nat) :=
  let numLayers := max cfg.numLayers 1
  if ¬ cfg.computeGateOnAttention then .ok (List.range numLayers)
  else (List.range numLayers).filterM (isMoeLayer cfg.hfConfig)

theorem hccl_ne : "hccl" ≠ "" := by decide

/-- `a2e_meta` and `e2a_meta`: the sizes of the tensors the operators give. -/
def metaOperators : CamOperators Unit Unit Unit where
  commName _ _ := "hccl"
  commName_ne _ _ := hccl_ne
  a2eSend _ := ()
  a2eRecv call _ :=
    let rows := call.baseBatchSize.toInt.toNat
    { expandX := List.replicate rows ()
      simulateExpertIds := List.replicate rows (List.replicate call.topk 0)
      simulateExpertScales := List.replicate rows (List.replicate call.topk ())
      attenBatchSize := () }
  e2a _ attn := List.replicate attn.baseBatchSize.toInt.toNat ()

/-- The rows and the row size that an FFN rank's `a2e` copies from each of its
Attention ranks, which are named by their ranks in the group. -/
def chunkShapes (e : CAMP2pEndpoint) (batchSize : Int) (recvInputIds : Bool) : List (Nat × Nat × Nat) :=
  let kernel := Kernels.A2e.init {
    batchSize := (Int32.ofInt batchSize).toInt.toNat
    hiddenSize := e.hiddenSize
    topk := e.numExpertsPerTok
    expertRankSize := e.ffnSize
    attentionRankSize := e.attnSize
    rank := e.worldRank
    computeGate := if recvInputIds then 1 else 0 }
  (List.range kernel.attnToMoeRatio).map fun index =>
    (kernel.rank + (index + 1) * kernel.expertRankSize, kernel.recvBatchSize, kernel.hiddenSize)

/-- One round of the two loops: the counts of its forward context, what is
received, and the call that sends the result back. -/
structure Round where
  layerIdx : Nat
  stageIdx : Int
  counts : ForwardStage
  received : List (Nat × Nat × Nat)
  sent : E2ACall Unit Unit
  deriving DecidableEq

/-- The body of the two loops. -/
def stageRound (cfg : RunnerConfig) (e : CAMP2pEndpoint) (dpMetadataList : Dict Int AFDDPMetadata)
    (layerIdx : Nat) (stageIdx : Int) : Except String Round := do
  let counts ← e.connector.ffnForwardStage cfg.dataParallelSize cfg.maxNumTokens dpMetadataList stageIdx
  let payload ← recvAttnOutput metaOperators e [] stageIdx layerIdx cfg.maxNumTokens cfg.afdRequiresInputIds
  let rankFfnOutput := computeFfnOutput (fun _ _ => ()) payload.hiddenStates payload.inputIds
  let sent ← sendFfnOutput e rankFfnOutput { payload.metadata with
    layerIdx := layerIdx, stageIdx := stageIdx } payload.states (some stageIdx)
  return ⟨layerIdx, stageIdx, counts, chunkShapes e payload.states.batchSize cfg.afdRequiresInputIds, sent⟩

/-- `_ffn_forward`, after the connector state is updated. -/
def ffnForward (cfg : RunnerConfig) (e : CAMP2pEndpoint) (dpMetadataList : Dict Int AFDDPMetadata) :
    Except String (List Round) := do
  let stageIds := RoutedFfn.stageIds dpMetadataList
  let layerIndices ← ffnLayerIndices cfg
  let rounds ← layerIndices.mapM fun layerIdx => stageIds.mapM (stageRound cfg e dpMetadataList layerIdx)
  return rounds.flatten

/-! ## The runner -/

abbrev GraphKey := List (Int × List Int32)

/-- `_make_graph_key`. -/
def makeGraphKey (cfg : RunnerConfig) (attnSize ffnSize : Nat) (dpMetadataList : Dict Int AFDDPMetadata) :
    Except String GraphKey :=
  (dpMetadataList.keys.insertionSort (· ≤ ·)).mapM fun stageIdx => do
    let tokenCounts ← ffnTokenCountsAcrossRanks attnSize ffnSize dpMetadataList stageIdx cfg.maxNumTokens
    pure (stageIdx, tokenCounts)

/-- The connector and the graphs, which are what a forward did while it was
captured. The executions so far are not kept by the source. -/
structure AFDNPUFFNModelRunner where
  connector : CAMP2pEndpoint
  aclGraphs : Dict GraphKey (List Round) := ∅
  executions : List (Execution GraphKey (List Round)) := []

namespace AFDNPUFFNModelRunner

def executed (r : AFDNPUFFNModelRunner) (mode : AFDGraphRunMode) (graphKey : GraphKey)
    (rounds : List Round) :
    AFDNPUFFNModelRunner := { r with executions := r.executions ++ [⟨mode, graphKey, rounds⟩] }

/-- `update_state_from_dp_metadata` with the payload made of the counts and a flag. -/
def updateConnectorState (r : AFDNPUFFNModelRunner) (dpMetadataList : Dict Int AFDDPMetadata)
    (isGraphCapturing : Bool) : Except String AFDNPUFFNModelRunner := do
  let connector ← r.connector.updateStateFromDpMetadata ⟨dpMetadataList, isGraphCapturing, false,
    false, false⟩
  return { r with connector := connector }

def graphKey (cfg : RunnerConfig) (r : AFDNPUFFNModelRunner) (dpMetadataList : Dict Int AFDDPMetadata) :
    Except String GraphKey := makeGraphKey cfg r.connector.attnSize r.connector.ffnSize dpMetadataList

/-- `_capture_graphs`. -/
def captureGraphs (cfg : RunnerConfig) (r : AFDNPUFFNModelRunner) (dpMetadataList : Dict Int AFDDPMetadata)
    (isAttnGraphCapturing : Bool) : Except String AFDNPUFFNModelRunner := do
  let graphKey ← r.graphKey cfg dpMetadataList
  let r ← r.updateConnectorState dpMetadataList isAttnGraphCapturing
  match r.aclGraphs.get? graphKey with
  | some graph =>
    -- every payload still needs an execution
    return r.executed .replay graphKey graph
  | none =>
    let rounds ← ffnForward cfg r.connector dpMetadataList
    return { r with aclGraphs := r.aclGraphs.set graphKey rounds }.executed .capture graphKey rounds

/-- `capture_model`. The key is made for a log message first. -/
def captureModel (cfg : RunnerConfig) (r : AFDNPUFFNModelRunner) (dpMetadataList : Dict Int AFDDPMetadata)
    (isWarmup isAttnGraphCapturing : Bool) : Except String AFDNPUFFNModelRunner := do
  if ¬ cfg.useAclgraph then return r
  else
    let graphKey ← r.graphKey cfg dpMetadataList
    if isWarmup then
      let r ← r.updateConnectorState dpMetadataList false
      let rounds ← ffnForward cfg r.connector dpMetadataList
      return r.executed .warmup graphKey rounds
    else r.captureGraphs cfg dpMetadataList isAttnGraphCapturing

/-- `execute_model`. -/
def executeModel (cfg : RunnerConfig) (r : AFDNPUFFNModelRunner) (dpMetadataList : Dict Int AFDDPMetadata)
    (isGraphCapturing isWarmup isGraphReplaying : Bool) : Except String AFDNPUFFNModelRunner := do
  let graphKey ← r.graphKey cfg dpMetadataList
  let graphInfo := r.aclGraphs.get? graphKey
  let runMode := graphRunMode (isWarmup && cfg.useAclgraph) (isGraphCapturing && cfg.useAclgraph)
    isGraphReplaying cfg.useAclgraph graphInfo.isSome
  match runMode, graphInfo with
  | .replay, some graph => return r.executed .replay graphKey graph
  | .warmup, _ | .capture, _ =>
    -- `execute_ffn_step` with these flags captures
    r.captureModel cfg dpMetadataList isWarmup isGraphCapturing
  | _, _ =>
    let r ← r.updateConnectorState dpMetadataList false
    let rounds ← ffnForward cfg r.connector dpMetadataList
    return r.executed .eager graphKey rounds

/-- `execute_ffn_step`, which the worker's loop calls after the receive. -/
def executeFfnStep (cfg : RunnerConfig) (r : AFDNPUFFNModelRunner) (payload : AFDControlPayload) :
    Except String AFDNPUFFNModelRunner :=
  if cfg.useAclgraph ∧ (payload.isGraphCapturing ∨ payload.isWarmup) then
    r.captureModel cfg payload.dpMetadataList payload.isWarmup payload.isGraphCapturing
  else r.executeModel cfg payload.dpMetadataList false false payload.isGraphReplaying

/-- `_run_ffn_server_loop` on the payloads received so far: an exception ends it. -/
def runFfnServerLoop (cfg : RunnerConfig) (r : AFDNPUFFNModelRunner) (payloads : List AFDControlPayload) :
    Except String AFDNPUFFNModelRunner := payloads.foldlM (executeFfnStep cfg) r

/-- The mode that a payload calls for. -/
def modeOf (useAclgraph : Bool) (payload : AFDControlPayload) (captured : Bool) : AFDGraphRunMode :=
  if useAclgraph ∧ (payload.isGraphCapturing ∨ payload.isWarmup) then
    if payload.isWarmup then .warmup else if captured then .replay else .capture
  else if payload.isGraphReplaying ∧ useAclgraph ∧ captured then .replay
  else .eager

def keyOf (cfg : RunnerConfig) (e : CAMP2pEndpoint) (payload : AFDControlPayload) :
    Except String GraphKey :=
  makeGraphKey cfg e.attnSize e.ffnSize payload.dpMetadataList

/-- The forward of a payload on a connector. -/
def workOf (cfg : RunnerConfig) (e : CAMP2pEndpoint) (payload : AFDControlPayload) :
    Except String (List Round) := do
  let e ← e.updateStateFromDpMetadata payload
  ffnForward cfg e payload.dpMetadataList

/-- What the connector receives of each Attention rank in a stage. -/
def recvShapes (cfg : RunnerConfig) (e : CAMP2pEndpoint) (stageIdx : Int) :
    Except String (List (Nat × Nat × Nat)) := do
  let batchSize ← numTokensForFfnRank e.connector.dpMetadataList stageIdx e.connector.topology.roleRank
    e.attnSize e.ffnSize cfg.maxNumTokens
  return chunkShapes e batchSize cfg.afdRequiresInputIds

def server (r : AFDNPUFFNModelRunner) : Server GraphKey (List Round) := ⟨r.aclGraphs, r.executions⟩

end AFDNPUFFNModelRunner

/-! ## Equal keys, equal forwards -/

section Key
variable {cfg : RunnerConfig} {A F : Nat}

/-- A key lists the stages in order, each with its totals. -/
theorem items_of_key {d : Dict Int AFDDPMetadata} {k : GraphKey} (h : makeGraphKey cfg A F d = .ok k) :
    k.map Prod.fst = d.keys.insertionSort (· ≤ ·) ∧
      ∀ item ∈ k, ffnTokenCountsAcrossRanks A F d item.1 cfg.maxNumTokens = .ok item.2 := by
  have hall := Fallible.mapM_ok_iff.1 h
  clear h
  generalize d.keys.insertionSort (· ≤ ·) = stages at hall
  induction hall with
  | nil => exact ⟨rfl, fun item hitem => by cases hitem⟩
  | cons hitem _ ih =>
    obtain ⟨values, hvalues, hitem⟩ := Fallible.bind_eq_ok.1 hitem
    cases hitem
    refine ⟨by rw [List.map_cons, ih.1], ?_⟩
    intro item hmem
    rcases List.mem_cons.1 hmem with rfl | hmem
    · exact hvalues
    · exact ih.2 item hmem

/-- Equal keys have the stages and the totals in common. -/
theorem totals_of_key {d d' : Dict Int AFDDPMetadata} {k : GraphKey} (h : makeGraphKey cfg A F d = .ok k)
    (h' : makeGraphKey cfg A F d' = .ok k) :
    d.keys.insertionSort (· ≤ ·) = d'.keys.insertionSort (· ≤ ·) ∧
      ∀ s ∈ d.keys, ∃ values, ffnTokenCountsAcrossRanks A F d s cfg.maxNumTokens = .ok values ∧
        ffnTokenCountsAcrossRanks A F d' s cfg.maxNumTokens = .ok values := by
  obtain ⟨hkeys, hitems⟩ := items_of_key h
  obtain ⟨hkeys', hitems'⟩ := items_of_key h'
  refine ⟨hkeys.symm.trans hkeys', ?_⟩
  intro s hs
  have hs : s ∈ k.map Prod.fst := by
    rw [hkeys]
    exact (List.perm_insertionSort _ _).mem_iff.2 hs
  obtain ⟨item, hitem, rfl⟩ := List.mem_map.1 hs
  exact ⟨item.2, hitems item hitem, hitems' item hitem⟩

/-- The tensor keeps the values that fit it. -/
theorem toInt_of_mapM {values : List Int} {tensor : List Int32} (h : values.mapM toInt32 = .ok tensor) :
    tensor.map Int32.toInt = values := by
  have hall := Fallible.mapM_ok_iff.1 h
  induction hall with
  | nil => rfl
  | cons hv hall ih =>
    unfold toInt32 at hv
    split at hv
    · rename_i hfit
      rw [List.map_cons, ih (Fallible.mapM_ok_iff.2 hall), ← Except.ok.inj hv,
        Int32.toInt_ofInt_of_le hfit.1 hfit.2]
    · cases hv

/-- A total of the key is what the rank expects of a stage, when the connector
has the stage as the key has it. -/
theorem rows_of_total {d : Dict Int AFDDPMetadata} {s : Int} {md : AFDDPMetadata}
    (hmd : d.get? s = some md) {fallback : Int} {values : List Int32}
    (h : ffnTokenCountsAcrossRanks A F d s fallback = .ok values) {f : Nat} (hf : f < F) :
    numTokensForFfnRank d s f A F fallback = .ok (values.getD f 0).toInt := by
  have htensor : ∀ rows : List Int, rows.mapM toInt32 = .ok values →
      rows.getD f 0 = (values.getD f 0).toInt := by
    intro rows hrows
    rw [← toInt_of_mapM hrows]
    exact List.getD_map values 0 Int32.toInt
  unfold ffnTokenCountsAcrossRanks at h
  rw [hmd] at h
  unfold numTokensForFfnRank
  rw [hmd]
  dsimp only at h ⊢
  split at h
  · cases h
  · rename_i hsome
    rw [if_neg hsome]
    split at h
    · rename_i hgroups
      have hrow := htensor _ h
      rw [List.getD_eq_getElem _ _ (by simpa using hf), List.getElem_map, List.getElem_range] at hrow
      rw [if_neg (not_lt.2 hgroups.1), if_pos hgroups.2, hrow]
    · rename_i hgroups
      have hrow := htensor _ h
      rw [List.getD_eq_getElem _ _ (by simpa using hf), List.getElem_replicate] at hrow
      split
      · rw [hrow]
      · rename_i hcomplete
        rw [if_neg fun hdvd => hgroups ⟨not_lt.1 hcomplete, hdvd⟩, hrow]

/-- Equal keys give every FFN rank the same rows and the same totals in each stage. -/
theorem rows_of_key {d d' : Dict Int AFDDPMetadata} {k : GraphKey} (h : makeGraphKey cfg A F d = .ok k)
    (h' : makeGraphKey cfg A F d' = .ok k) {f : Nat} (hf : f < F) (s : Int) :
    numTokensForFfnRank d s f A F cfg.maxNumTokens = numTokensForFfnRank d' s f A F cfg.maxNumTokens ∧
      ffnTokenCountsAcrossRanks A F d s cfg.maxNumTokens =
        ffnTokenCountsAcrossRanks A F d' s cfg.maxNumTokens := by
  obtain ⟨hkeys, htotals⟩ := totals_of_key h h'
  have hmem : s ∈ d.keys ↔ s ∈ d'.keys := by
    rw [← (List.perm_insertionSort (· ≤ ·) d.keys).mem_iff, hkeys,
      (List.perm_insertionSort (· ≤ ·) d'.keys).mem_iff]
  by_cases hs : s ∈ d.keys
  · obtain ⟨values, hvalues, hvalues'⟩ := htotals s hs
    obtain ⟨md, hmd⟩ := Option.isSome_iff_exists.1 (Dict.get?_isSome_iff.2 hs)
    obtain ⟨md', hmd'⟩ := Option.isSome_iff_exists.1 (Dict.get?_isSome_iff.2 (hmem.1 hs))
    rw [rows_of_total hmd hvalues hf, rows_of_total hmd' hvalues' hf, hvalues, hvalues']
    exact ⟨rfl, rfl⟩
  · have hnone := Dict.get?_eq_none_iff.2 hs
    have hnone' := Dict.get?_eq_none_iff.2 fun hs' => hs (hmem.2 hs')
    unfold numTokensForFfnRank ffnTokenCountsAcrossRanks
    rw [hnone, hnone']
    exact ⟨rfl, rfl⟩

end Key

/-- A connector with the control state that a payload leaves. -/
def withState (e : CAMP2pEndpoint) (d : Dict Int AFDDPMetadata) (isGraphCapturing isWarmup : Bool) :
    CAMP2pEndpoint :=
  { e with connector := { e.connector with
      dpMetadataList := d
      isGraphCapturing := isGraphCapturing
      isWarmup := isWarmup } }

section Forward
variable {cfg : RunnerConfig} {e : CAMP2pEndpoint} {ca : CAMP2pAFDConnector}

/-- The receiver's state is what was sent. -/
theorem update_delivered (hattn : e.attnSize = ca.attnSize) (hffn : e.ffnSize = ca.ffnSize)
    {payload wire : AFDControlPayload} (h : ca.deliver payload = .ok wire) (d : Dict Int AFDDPMetadata)
    (g w capturing warmup replaying profile : Bool) :
    (withState e d g w).updateStateFromDpMetadata ⟨wire.dpMetadataList, capturing, warmup,
      replaying, profile⟩ =
      .ok (withState e wire.dpMetadataList capturing warmup) := by
  have hphysical := @CAMP2pAFDConnector.physicalPayload_delivered ca (withState e d g w).connector hattn
    hffn _ _ ⟨wire.dpMetadataList, capturing, warmup, replaying, profile⟩ h rfl
  unfold CAMP2pEndpoint.updateStateFromDpMetadata CAMP2pAFDConnector.updateStateFromDpMetadata
  rw [hphysical]
  rfl

section Round
variable {d d' : Dict Int AFDDPMetadata} {s : Int}
  (hrows : numTokensForFfnRank d s e.connector.topology.roleRank e.attnSize e.ffnSize cfg.maxNumTokens =
    numTokensForFfnRank d' s e.connector.topology.roleRank e.attnSize e.ffnSize cfg.maxNumTokens)
  (g g' w w' : Bool)
include hrows

theorem recvAttnOutput_congr (l : Nat) (ids : Bool) :
    recvAttnOutput metaOperators (withState e d g w) [] s l cfg.maxNumTokens ids =
      recvAttnOutput metaOperators (withState e d' g' w') [] s l cfg.maxNumTokens ids := by
  unfold recvAttnOutput
  simp only [withState, CAMP2pEndpoint.attnSize, CAMP2pEndpoint.ffnSize, CAMP2pEndpoint.worldRank,
    CAMP2pAFDConnector.attnSize, CAMP2pAFDConnector.ffnSize] at hrows ⊢
  rw [hrows]
  rfl

theorem recvShapes_congr : AFDNPUFFNModelRunner.recvShapes cfg (withState e d g w) s =
    AFDNPUFFNModelRunner.recvShapes cfg (withState e d' g' w') s := by
  unfold AFDNPUFFNModelRunner.recvShapes
  simp only [withState, CAMP2pEndpoint.attnSize, CAMP2pEndpoint.ffnSize, CAMP2pAFDConnector.attnSize,
    CAMP2pAFDConnector.ffnSize] at hrows ⊢
  rw [hrows]
  rfl

/-- A round follows from the totals of its stage. -/
theorem stageRound_congr (l : Nat)
    (htotals : ffnTokenCountsAcrossRanks e.attnSize e.ffnSize d s cfg.maxNumTokens =
      ffnTokenCountsAcrossRanks e.attnSize e.ffnSize d' s cfg.maxNumTokens) :
    stageRound cfg (withState e d g w) d l s = stageRound cfg (withState e d' g' w') d' l s := by
  have hstage : (withState e d g w).connector.ffnForwardStage cfg.dataParallelSize cfg.maxNumTokens d s =
      (withState e d' g' w').connector.ffnForwardStage cfg.dataParallelSize cfg.maxNumTokens d' s := by
    unfold CAMP2pAFDConnector.ffnForwardStage
    simp only [withState, CAMP2pEndpoint.attnSize, CAMP2pEndpoint.ffnSize, CAMP2pAFDConnector.attnSize,
      CAMP2pAFDConnector.ffnSize] at htotals hrows ⊢
    rw [htotals, hrows]
  unfold stageRound
  rw [hstage, recvAttnOutput_congr hrows g g' w w']
  rfl

end Round

/-- A forward follows from the stages and their totals. -/
theorem ffnForward_congr {d d' : Dict Int AFDDPMetadata}
    (hstages : RoutedFfn.stageIds d = RoutedFfn.stageIds d')
    (hrows : ∀ s, numTokensForFfnRank d s e.connector.topology.roleRank e.attnSize e.ffnSize
      cfg.maxNumTokens = numTokensForFfnRank d' s e.connector.topology.roleRank e.attnSize e.ffnSize
      cfg.maxNumTokens)
    (htotals : ∀ s, ffnTokenCountsAcrossRanks e.attnSize e.ffnSize d s cfg.maxNumTokens =
      ffnTokenCountsAcrossRanks e.attnSize e.ffnSize d' s cfg.maxNumTokens) (g g' w w' : Bool) :
    ffnForward cfg (withState e d g w) d = ffnForward cfg (withState e d' g' w') d' := by
  have hround : stageRound cfg (withState e d g w) d = stageRound cfg (withState e d' g' w') d' := by
    funext l s
    exact stageRound_congr (hrows s) g g' w w' l (htotals s)
  unfold ffnForward
  rw [hround, hstages]

end Forward

/-! ## Runs -/

namespace AFDNPUFFNModelRunner

section Run
variable {cfg : RunnerConfig} {e : CAMP2pEndpoint} {ca : CAMP2pAFDConnector}

/-- What every payload keeps: a connector differs in its control state only. -/
def Serving (e : CAMP2pEndpoint) (r : AFDNPUFFNModelRunner) : Prop :=
  ∃ d g w, r.connector = withState e d g w

/-- An execution is one entry of the log. -/
theorem map_server_executed {r : AFDNPUFFNModelRunner} {mode : AFDGraphRunMode} (k : GraphKey)
    (x : Except String (List Round)) :
    (x >>= fun rounds => pure (r.executed mode k rounds)).map server =
      x >>= fun rounds => .ok ⟨r.aclGraphs, r.executions ++ [⟨mode, k, rounds⟩]⟩ := by
  cases x with
  | error message => rfl
  | ok rounds => rfl

section Delivered
variable (hattn : e.attnSize = ca.attnSize) (hffn : e.ffnSize = ca.ffnSize)
  {sent payload : AFDControlPayload} (hsent : ca.deliver sent = .ok payload)
include hattn hffn hsent

theorem Serving.updateConnectorState {r : AFDNPUFFNModelRunner} (h : Serving e r) (capturing : Bool) :
    r.updateConnectorState payload.dpMetadataList capturing =
      .ok { r with connector := withState e payload.dpMetadataList capturing false } := by
  obtain ⟨d, g, w, hr⟩ := h
  unfold AFDNPUFFNModelRunner.updateConnectorState
  rw [hr, update_delivered hattn hffn hsent]
  rfl

theorem update_eq : e.updateStateFromDpMetadata payload =
    .ok (withState e payload.dpMetadataList payload.isGraphCapturing payload.isWarmup) :=
  update_delivered hattn hffn hsent e.connector.dpMetadataList e.connector.isGraphCapturing
    e.connector.isWarmup payload.isGraphCapturing payload.isWarmup payload.isGraphReplaying
    payload.isProfile

theorem workOf_eq : workOf cfg e payload =
    ffnForward cfg (withState e payload.dpMetadataList payload.isGraphCapturing payload.isWarmup)
      payload.dpMetadataList := by
  unfold workOf
  rw [update_eq hattn hffn hsent]
  rfl

/-- A forward does a payload's work, whatever flag the connector is given. -/
theorem ffnForward_eq (capturing : Bool) :
    ffnForward cfg (withState e payload.dpMetadataList capturing false) payload.dpMetadataList =
      workOf cfg e payload := by
  rw [workOf_eq hattn hffn hsent]
  exact ffnForward_congr rfl (fun _ => rfl) (fun _ => rfl) _ _ _ _

/-- Handling a delivered payload is a step of the server. -/
theorem Serving.executeFfnStep {r : AFDNPUFFNModelRunner} (h : Serving e r) :
    (r.executeFfnStep cfg payload).map server =
      (server r).serve (keyOf cfg e) (workOf cfg e) (modeOf cfg.useAclgraph) payload := by
  have hupdate := h.updateConnectorState hattn hffn hsent
  have hforward := @ffnForward_eq cfg e ca hattn hffn sent payload hsent
  have hkey : r.graphKey cfg payload.dpMetadataList = keyOf cfg e payload := by
    obtain ⟨d, g, w, hr⟩ := h
    unfold AFDNPUFFNModelRunner.graphKey
    rw [hr]
    rfl
  unfold AFDNPUFFNModelRunner.executeFfnStep
  cases hof : keyOf cfg e payload with
  | error message =>
    rw [hof] at hkey
    unfold Server.serve
    rw [hof]
    split
    · rename_i hcapture
      unfold captureModel
      rw [if_neg (by simp [hcapture.1]), hkey]
      rfl
    · unfold executeModel
      rw [hkey]
      rfl
  | ok k =>
    rw [hof] at hkey
    split
    · rename_i hcapture
      unfold captureModel
      rw [if_neg (by simp [hcapture.1]), hkey, Fallible.ok_bind]
      cases hw : payload.isWarmup with
      | true =>
        have hmode : ∀ cached, modeOf cfg.useAclgraph payload cached = .warmup := fun _ => by
          rw [modeOf, if_pos hcapture, if_pos hw]
        rw [serve_forward hof (hmode _) (fun h => by cases h) (fun h => by cases h)]
        simp only [if_true, hupdate, Fallible.ok_bind, hforward]
        rw [map_server_executed]
        rfl
      | false =>
        have hmode : ∀ cached, modeOf cfg.useAclgraph payload cached = if cached then .replay
            else .capture := fun _ => by
          rw [modeOf, if_pos hcapture, if_neg (by simp [hw])]
        unfold captureGraphs
        simp only [Bool.false_eq_true, if_false, hkey, hupdate, Fallible.ok_bind]
        cases hgraph : r.aclGraphs.get? k with
        | some graph =>
          rw [serve_replay hof ((hmode _).trans (if_pos (by rw [server, hgraph]; rfl))) rfl hgraph]
          rfl
        | none =>
          rw [serve_capture hof
            ((hmode _).trans (if_neg (by rw [server, hgraph]; exact Bool.false_ne_true))) rfl]
          dsimp only
          rw [hforward]
          cases workOf cfg e payload with
          | error message => rfl
          | ok rounds => rfl
    · rename_i hcapture
      have hmode : ∀ cached, modeOf cfg.useAclgraph payload cached =
          if payload.isGraphReplaying ∧ cfg.useAclgraph ∧ cached then .replay else .eager := fun _ => by
        rw [modeOf, if_neg hcapture]
      unfold executeModel
      simp only [hkey, Fallible.ok_bind, Bool.false_and]
      by_cases hreplay : payload.isGraphReplaying = true ∧ cfg.useAclgraph = true ∧
        (r.aclGraphs.get? k).isSome = true
      · obtain ⟨graph, hgraph⟩ := Option.isSome_iff_exists.1 hreplay.2.2
        rw [serve_replay hof ((hmode _).trans (if_pos hreplay)) rfl hgraph, graphRunMode_plain,
          if_pos hreplay, hgraph]
        rfl
      · rw [serve_forward hof ((hmode _).trans (if_neg hreplay)) (fun h => by cases h)
          (fun h => by cases h), graphRunMode_plain, if_neg hreplay]
        simp only [hupdate, Fallible.ok_bind, hforward]
        rw [map_server_executed]
        rfl

end Delivered

section Kept
variable {r r' : AFDNPUFFNModelRunner} (h : Serving e r) {d : Dict Int AFDDPMetadata}
include h

theorem Serving.updated {capturing : Bool} (hr' : r.updateConnectorState d capturing = .ok r') :
    Serving e r' := by
  obtain ⟨connector, hconnector, hr'⟩ := Fallible.bind_eq_ok.1 hr'
  obtain ⟨c, hc, hconnector⟩ := Fallible.bind_eq_ok.1 hconnector
  obtain ⟨physical, -, hc⟩ := Fallible.bind_eq_ok.1 hc
  obtain ⟨d', g, w, hr⟩ := h
  cases hr'
  cases hconnector
  cases hc
  exact ⟨physical.dpMetadataList, capturing, false, by rw [hr]; rfl⟩

theorem Serving.executed (mode : AFDGraphRunMode) (k : GraphKey) (rounds : List Round) :
    Serving e (r.executed mode k rounds) := h

theorem Serving.captureGraphs {capturing : Bool} (hr' : r.captureGraphs cfg d capturing = .ok r') :
    Serving e r' := by
  obtain ⟨k, -, hr'⟩ := Fallible.bind_eq_ok.1 hr'
  obtain ⟨t, ht, hr'⟩ := Fallible.bind_eq_ok.1 hr'
  have hupdated : Serving e t := h.updated ht
  split at hr'
  · cases hr'
    exact hupdated.executed _ _ _
  · obtain ⟨rounds, -, hr'⟩ := Fallible.bind_eq_ok.1 hr'
    cases hr'
    exact hupdated

theorem Serving.captureModel {warmup capturing : Bool}
    (hr' : r.captureModel cfg d warmup capturing = .ok r') :
    Serving e r' := by
  unfold AFDNPUFFNModelRunner.captureModel at hr'
  split at hr'
  · cases hr'
    exact h
  · obtain ⟨k, -, hr'⟩ := Fallible.bind_eq_ok.1 hr'
    split at hr'
    · obtain ⟨t, ht, hr'⟩ := Fallible.bind_eq_ok.1 hr'
      obtain ⟨rounds, -, hr'⟩ := Fallible.bind_eq_ok.1 hr'
      cases hr'
      exact (h.updated ht).executed _ _ _
    · exact h.captureGraphs hr'

theorem Serving.executeModel {capturing warmup replaying : Bool}
    (hr' : r.executeModel cfg d capturing warmup replaying = .ok r') : Serving e r' := by
  obtain ⟨k, -, hr'⟩ := Fallible.bind_eq_ok.1 hr'
  dsimp only at hr'
  split at hr'
  · cases hr'
    exact h.executed _ _ _
  · exact h.captureModel hr'
  · exact h.captureModel hr'
  · obtain ⟨t, ht, hr'⟩ := Fallible.bind_eq_ok.1 hr'
    obtain ⟨rounds, -, hr'⟩ := Fallible.bind_eq_ok.1 hr'
    cases hr'
    exact (h.updated ht).executed _ _ _

/-- A payload leaves the process what it was. -/
theorem Serving.handled {payload : AFDControlPayload} (hr' : r.executeFfnStep cfg payload = .ok r') :
    Serving e r' := by
  unfold AFDNPUFFNModelRunner.executeFfnStep at hr'
  split at hr'
  · exact h.captureModel hr'
  · exact h.executeModel hr'

end Kept

section Deployment
variable (hattn : e.attnSize = ca.attnSize) (hffn : e.ffnSize = ca.ffnSize)
include hattn hffn

/-- Delivered payloads with one key are one to the runner. -/
theorem work_of_key (hf : e.connector.topology.roleRank < e.ffnSize)
    {sent sent' p q : AFDControlPayload} (hp : ca.deliver sent = .ok p) (hq : ca.deliver sent' = .ok q)
    {k : GraphKey} (hkp : keyOf cfg e p = .ok k) (hkq : keyOf cfg e q = .ok k) :
    workOf cfg e p = workOf cfg e q := by
  have hstages : RoutedFfn.stageIds p.dpMetadataList = RoutedFfn.stageIds q.dpMetadataList := by
    unfold RoutedFfn.stageIds
    rw [(totals_of_key hkp hkq).1]
  rw [workOf_eq hattn hffn hp, workOf_eq hattn hffn hq]
  exact ffnForward_congr hstages (fun s => (rows_of_key hkp hkq hf s).1)
    (fun s => (rows_of_key hkp hkq hf s).2) _ _ _ _

/-- The runs of an NPU worker that starts without a graph. -/
theorem served (hf : e.connector.topology.roleRank < e.ffnSize) {sent payloads : List AFDControlPayload}
    (hsent : sent.mapM ca.deliver = .ok payloads) :
    Served (keyOf cfg e) (workOf cfg e) (modeOf cfg.useAclgraph)
      (fun ps => (runFfnServerLoop cfg { connector := e } ps).map executions) payloads := by
  have hdelivered : ∀ p ∈ payloads, ∃ s, ca.deliver s = .ok p := by
    have hall := Fallible.mapM_ok_iff.1 hsent
    clear hsent
    induction hall with
    | nil =>
      intro p hp
      cases hp
    | cons hs _ ih => exact List.forall_mem_cons.2 ⟨⟨_, hs⟩, ih⟩
  have hstep : ∀ (r : AFDNPUFFNModelRunner) (p : AFDControlPayload), Serving e r →
      (∃ s, ca.deliver s = .ok p) →
      (r.executeFfnStep cfg p).map server =
          (server r).serve (keyOf cfg e) (workOf cfg e) (modeOf cfg.useAclgraph) p :=
    fun r p h ⟨_, hs⟩ => h.executeFfnStep hattn hffn hs
  refine served_of_refines hstep (fun r p r' h => h.handled) hdelivered
    ⟨e.connector.dpMetadataList, e.connector.isGraphCapturing, e.connector.isWarmup, rfl⟩ rfl ?_ ?_
  · intro p hp q hq k hkp hkq
    obtain ⟨_, hsp⟩ := hdelivered p hp
    obtain ⟨_, hsq⟩ := hdelivered q hq
    exact work_of_key hattn hffn hf hsp hsq hkp hkq
  · intro p _ h
    unfold modeOf at h
    simp only [Bool.false_eq_true, and_false, if_false] at h
    split at h
    · split at h <;> cases h
    · cases h

end Deployment

end Run

end AFDNPUFFNModelRunner

open CudaGraph (GPUFFNModelRunner) in
open P2p (P2pNcclAFDConnector) in
/-- The graph caches of the two FFN runners, over any sequence of payloads: the
worker does one execution for each, in the mode its flags and the earlier
captures call for and with the payload's own receives, and it stops only at a
payload whose own key or forward raises; a replay is of a graph captured
earlier under the same key; and payloads with one key are received in the same
shapes from each Attention rank in every stage. An NPU worker handles what an
Attention rank of its deployment sent, which may be any payload. -/
theorem ffn_graph_cache_runs :
    (∀ (cfg : CudaGraph.RunnerConfig) (c : P2pNcclAFDConnector), c.Reachable → c.afdConfig.role = .ffn →
      (∀ payloads, Served GPUFFNModelRunner.keyOf (GPUFFNModelRunner.workOf cfg c)
        (GPUFFNModelRunner.modeOf cfg.useCudaGraph)
        (fun ps => (GPUFFNModelRunner.runFfnServerLoop cfg { connector := c } ps).map
          GPUFFNModelRunner.executions)
        payloads) ∧
      ∀ p q k, GPUFFNModelRunner.keyOf p = .ok k → GPUFFNModelRunner.keyOf q = .ok k → ∀ stage,
        GPUFFNModelRunner.recvShapes (c.updateStateFromDpMetadata p) stage =
          GPUFFNModelRunner.recvShapes (c.updateStateFromDpMetadata q) stage) ∧
    (∀ (cfg : RunnerConfig) (A F : Nat) (g g' : Bool) (ca : CAMP2pAFDConnector) (e : CAMP2pEndpoint),
      ca.afdConfig = ⟨.attention, A, F, g⟩ → e.connector.afdConfig = ⟨.ffn, A, F, g'⟩ →
      (∀ sent payloads : List AFDControlPayload, sent.mapM ca.deliver = .ok payloads →
        Served (AFDNPUFFNModelRunner.keyOf cfg e) (AFDNPUFFNModelRunner.workOf cfg e)
          (AFDNPUFFNModelRunner.modeOf cfg.useAclgraph)
          (fun ps => (AFDNPUFFNModelRunner.runFfnServerLoop cfg { connector := e } ps).map
            AFDNPUFFNModelRunner.executions) payloads) ∧
      ∀ sent sent' p q k, ca.deliver sent = .ok p → ca.deliver sent' = .ok q →
        AFDNPUFFNModelRunner.keyOf cfg e p = .ok k → AFDNPUFFNModelRunner.keyOf cfg e q = .ok k →
        ∃ ep eq, e.updateStateFromDpMetadata p = .ok ep ∧ e.updateStateFromDpMetadata q = .ok eq ∧
          ∀ stage, AFDNPUFFNModelRunner.recvShapes cfg ep stage =
            AFDNPUFFNModelRunner.recvShapes cfg eq stage) := by
  constructor
  · intro cfg c hreach hr
    refine ⟨GPUFFNModelRunner.served hreach hr, ?_⟩
    intro p q k hp hq stage
    exact CudaGraph.recvShapes_congr hr (CudaGraph.SameProcess.refl c) (hp.trans hq.symm) stage
  · intro cfg A F g g' ca e hca he
    obtain ⟨hF, hFA, hattn, hffn⟩ := CAMP2pAFDConnector.sizes_of_config hca
    obtain ⟨-, -, hattn', hffn'⟩ := CAMP2pAFDConnector.sizes_of_config he
    have hf : e.connector.topology.roleRank < e.ffnSize := by
      obtain ⟨-, -, -, -, -, n, -, hn, hlt⟩ := accepted_of_buildCamp2pTopology e.connector.built
      rw [he] at hlt
      rw [hn, CAMP2pEndpoint.ffnSize, hffn']
      exact hlt
    have ha : e.attnSize = ca.attnSize := hattn'.trans hattn.symm
    have hs : e.ffnSize = ca.ffnSize := hffn'.trans hffn.symm
    refine ⟨fun sent payloads => AFDNPUFFNModelRunner.served ha hs hf, ?_⟩
    intro sent sent' p q k hp hq hkp hkq
    refine ⟨_, _, AFDNPUFFNModelRunner.update_eq ha hs hp, AFDNPUFFNModelRunner.update_eq ha hs hq, ?_⟩
    intro stage
    exact recvShapes_congr (rows_of_key hkp hkq hf stage).1 _ _ _ _

/-- The first of two FFN ranks with four Attention ranks. -/
def firstOfTwo : CAMP2pEndpoint where
  connector := ⟨⟨.ffn, 4, 2, false⟩, 0, _, rfl, ∅, false, false⟩
  isInitialized := true
  hcclCommName := "group0"
  hcclCommName2 := "group1"
  hiddenSize := 8
  numExpertsPerTok := 2
  aivNum := 8

def firstAttention : CAMP2pAFDConnector := ⟨⟨.attention, 4, 2, false⟩, 0, _, rfl, ∅, false, false⟩

/-- One stage with two counts, under given flags. -/
def fiveAndSeven (isGraphCapturing isWarmup isGraphReplaying : Bool) : AFDControlPayload :=
  ⟨(∅ : Dict Int AFDDPMetadata).set 0 ⟨[5, 7], 7⟩, isGraphCapturing, isWarmup, isGraphReplaying, false⟩

theorem deliver_fiveAndSeven (capturing warmup replaying : Bool) :
    firstAttention.deliver (fiveAndSeven capturing warmup replaying) =
      .ok (fiveAndSeven capturing warmup replaying) := by
  obtain ⟨d, hperm, hwire⟩ := decodeControlPayload_encode (fiveAndSeven capturing warmup replaying)
  obtain rfl : d = (fiveAndSeven capturing warmup replaying).dpMetadataList :=
    Dict.ext (List.perm_singleton.1 hperm)
  exact hwire

/-- Eager, warmup, capture, a second capture of the key, and a replay. -/
def allModes : List AFDControlPayload := [fiveAndSeven false false true, fiveAndSeven false true false,
  fiveAndSeven true false false, fiveAndSeven true false false, fiveAndSeven false false true]

def npuConfig : RunnerConfig := ⟨2, 4096, 2, false, { nRoutedExperts := none }, false, true⟩

def gpuConfig : CudaGraph.RunnerConfig := ⟨WireAgreement.gatedModel, WireAgreement.shapeNative, true, true⟩

theorem exists_of_map_ok {α β : Type} {x : Except String α} {f : α → β} {b : β} (h : x.map f = .ok b) :
    ∃ a, x = .ok a ∧ f a = b := by
  cases x with
  | error message => cases h
  | ok a => exact ⟨a, rfl, Except.ok.inj h⟩

/-- Of two captures of one key, the GPU runner does both and the NPU runner one. -/
theorem ffn_graph_cache_runs_all_modes :
    (∃ r, CudaGraph.GPUFFNModelRunner.runFfnServerLoop gpuConfig
      { connector := WireAgreement.gatedPair.ffn } allModes =
        .ok r ∧
      Serves CudaGraph.GPUFFNModelRunner.keyOf
        (CudaGraph.GPUFFNModelRunner.workOf gpuConfig WireAgreement.gatedPair.ffn)
        (CudaGraph.GPUFFNModelRunner.modeOf true) allModes r.executions ∧
      r.executions.map Execution.mode = [.eager, .warmup, .capture, .capture, .replay]) ∧
    (∃ r, AFDNPUFFNModelRunner.runFfnServerLoop npuConfig { connector := firstOfTwo } allModes = .ok r ∧
      Serves (AFDNPUFFNModelRunner.keyOf npuConfig firstOfTwo)
        (AFDNPUFFNModelRunner.workOf npuConfig firstOfTwo)
        (AFDNPUFFNModelRunner.modeOf true) allModes r.executions ∧
      r.executions.map Execution.mode = [.eager, .warmup, .capture, .replay, .replay]) := by
  have hsent : allModes.mapM firstAttention.deliver = .ok allModes := by
    have hmap : allModes.mapM firstAttention.deliver = .ok (allModes.map id) := by
      apply Fallible.mapM_ok
      intro p hp
      simp only [allModes, List.mem_cons, List.not_mem_nil, or_false] at hp
      rcases hp with rfl | rfl | rfl | rfl | rfl <;> exact deliver_fiveAndSeven _ _ _
    rwa [List.map_id] at hmap
  have hgpu : (CudaGraph.GPUFFNModelRunner.runFfnServerLoop gpuConfig
      { connector := WireAgreement.gatedPair.ffn } allModes).map
      (fun r => r.executions.map Execution.mode) =
        .ok [.eager, .warmup, .capture, .capture, .replay] := by
    decide +kernel
  have hnpu : (AFDNPUFFNModelRunner.runFfnServerLoop npuConfig { connector := firstOfTwo } allModes).map
    (fun r => r.executions.map Execution.mode) =
      .ok [.eager, .warmup, .capture, .replay, .replay] := by decide +kernel
  obtain ⟨r, hr, hmodes⟩ := exists_of_map_ok hgpu
  obtain ⟨r', hr', hmodes'⟩ := exists_of_map_ok hnpu
  refine ⟨⟨r, hr, ?_, hmodes⟩, ⟨r', hr', ?_, hmodes'⟩⟩
  · exact ((ffn_graph_cache_runs.1 gpuConfig WireAgreement.gatedPair.ffn
      WireAgreement.gatedPair.ffn_reachable rfl).1 allModes).serves _ (congrArg (Except.map _) hr)
  · exact ((ffn_graph_cache_runs.2 npuConfig 4 2 false false firstAttention firstOfTwo rfl rfl).1
      allModes allModes hsent).serves _ (congrArg (Except.map _) hr')

/-- Stages as Attention counts them would not do: both lists have the total 4,
and each chunk of a stage is three rows or two. -/
example : let ffn : CAMP2pAFDConnector := ⟨⟨.ffn, 2, 1, false⟩, 0, _, rfl, ∅, false, false⟩
    let stages := fun n m : Int32 => ((∅ : Dict Int AFDDPMetadata).set 0 ⟨[n, m], m⟩).set 1 ⟨[n, m], m⟩
    makeGraphKey npuConfig 2 1 (stages 1 3) = makeGraphKey npuConfig 2 1 (stages 2 2) ∧
      (∃ phys, ffn.physicalPayload ⟨stages 1 3, false, false, false, false⟩ = .ok phys ∧
        numTokensForFfnRank phys.dpMetadataList 0 0 2 1 4096 = .ok 6) ∧
      ∃ phys, ffn.physicalPayload ⟨stages 2 2, false, false, false, false⟩ = .ok phys ∧
        numTokensForFfnRank phys.dpMetadataList 0 0 2 1 4096 = .ok 4 :=
  ⟨by decide +kernel, ⟨_, rfl, by decide +kernel⟩, ⟨_, rfl, by decide +kernel⟩⟩

end AfdPlugin.NpuFfnModelRunner
