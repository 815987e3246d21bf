import AfdPlugin.Lib.GraphCache
import AfdPlugin.Worker.WireAgreement
/-!
# The FFN runner's CUDA graphs

The FFN worker does one execution for each control payload: a forward, a forward
that is captured under the payload's key, or the replay of a captured one. The
key has the stages and their counts, from which the connector derives every
size that it receives.
-/

namespace AfdPlugin.CudaGraph

open P2p P2pNcclAFDConnector Models FfnModelRunner GraphCache

/-! ## Modes and keys -/

abbrev AFDGraphRunMode := GraphCache.RunMode

/-- `graph_run_mode`. -/
def graphRunMode (isWarmup isGraphCapturing isGraphReplaying graphEnabled graphExists : Bool) :
    AFDGraphRunMode :=
  if isWarmup then .warmup
  else if isGraphCapturing then .capture
  else if isGraphReplaying ∧ graphEnabled ∧ graphExists then .replay
  else .eager

theorem graphRunMode_plain (isGraphReplaying graphEnabled graphExists : Bool) :
    graphRunMode false false isGraphReplaying graphEnabled graphExists =
      if isGraphReplaying ∧ graphEnabled ∧ graphExists then .replay else .eager := rfl

/-- `sorted(dp_metadata_list.items())`; no two items have one stage. -/
def sortedItems {α : Type} (d : Dict Int α) : List (Int × α) := d.entries.insertionSort fun a b => a.1 ≤ b.1

/-- `_use_ffn_aggregated_key`. -/
def useFfnAggregatedKey (attentionSize ffnSize : Option Nat) : Except String Bool :=
  match attentionSize, ffnSize with
  | some attentionSize, some ffnSize =>
    if attentionSize < ffnSize then .ok false
    else if ffnSize = 0 then .error "integer modulo by zero"
    else .ok (decide (attentionSize % ffnSize = 0))
  | _, _ => .ok false

/-- `_aggregate_ffn_values_tuple`. -/
def aggregateFfnValuesTuple (values : List Int) (attentionSize ffnSize : Nat) (fallback : Int) :
    Except String (List Int) :=
  if values.length < attentionSize ∧ values.length = 0 then .error "integer modulo by zero"
  else
    let expanded :=
      if values.length < attentionSize ∧ attentionSize % values.length = 0 then
        let tpSize := attentionSize / values.length
        (List.range attentionSize).map fun i => values.getD (i / tpSize) 0
      else values
    if expanded.length < attentionSize then .ok (List.replicate ffnSize (max 1 fallback))
    else
      let groupSize := attentionSize / ffnSize
      .ok ((List.range ffnSize).map fun idx => max 1 ((expanded.drop (idx * groupSize)).take groupSize).sum)

abbrev GraphKey := List (Int × List Int)

/-- `make_ffn_graph_key`. The metadata always has counts. -/
def makeFfnGraphKey (dpMetadataList : Dict Int AFDDPMetadata) (attentionSize ffnSize : Option Nat := none)
    (fallback : Int := 1) : Except String GraphKey :=
  (sortedItems dpMetadataList).mapM fun item => do
    if ← useFfnAggregatedKey attentionSize ffnSize then
      let values ← aggregateFfnValuesTuple item.2.counts (attentionSize.getD 0) (ffnSize.getD 0) fallback
      pure (item.1, values)
    else pure (item.1, item.2.counts)

section Key
variable {α β : Type} {d d' : Dict Int α}

theorem sortedItems_perm (d : Dict Int α) : (sortedItems d).Perm d.entries := List.perm_insertionSort _ _

theorem map_fst_sortedItems (d : Dict Int α) :
    (sortedItems d).map Prod.fst = d.keys.insertionSort (· ≤ ·) :=
  List.map_insertionSort (fun a b : Int × α => a.1 ≤ b.1) (· ≤ ·) Prod.fst d.entries fun _ _ _ _ => Iff.rfl

theorem mem_map_sortedItems (f : α → β) {s : Int} {v : β} :
    (s, v) ∈ (sortedItems d).map (fun item => (item.1, f item.2)) ↔ (d.get? s).map f = some v := by
  rw [List.mem_map, Option.map_eq_some_iff]
  constructor
  · rintro ⟨⟨stage, md⟩, hmem, heq⟩
    cases heq
    exact ⟨md, Dict.mem_entries_iff.1 ((sortedItems_perm d).mem_iff.1 hmem), rfl⟩
  · rintro ⟨md, hget, rfl⟩
    exact ⟨(s, md), (sortedItems_perm d).mem_iff.2 (Dict.mem_entries_iff.2 hget), rfl⟩

/-- The sorted items decide what is looked up, and the stages in order. -/
theorem lookup_of_sortedItems {f : α → β}
    (h : (sortedItems d).map (fun item => (item.1, f item.2)) = (sortedItems d').map fun item =>
      (item.1, f item.2)) :
    (∀ s, (d.get? s).map f = (d'.get? s).map f) ∧
      d.keys.insertionSort (· ≤ ·) = d'.keys.insertionSort (· ≤ ·) := by
  constructor
  · intro s
    apply Option.ext
    intro v
    rw [← mem_map_sortedItems, h, mem_map_sortedItems]
  · have hfst := congrArg (List.map Prod.fst) h
    simp only [List.map_map] at hfst
    rw [← map_fst_sortedItems, ← map_fst_sortedItems]
    exact hfst

/-- The runner's key has each stage with its counts. -/
theorem makeFfnGraphKey_eq (d : Dict Int AFDDPMetadata) :
    makeFfnGraphKey d = .ok ((sortedItems d).map fun item => (item.1, item.2.counts)) :=
  Fallible.mapM_ok fun _ _ => rfl

/-- Equal keys have the stages and the counts in common. -/
theorem counts_of_key {d d' : Dict Int AFDDPMetadata} (h : makeFfnGraphKey d = makeFfnGraphKey d') :
    (∀ s, (d.get? s).map AFDDPMetadata.counts = (d'.get? s).map AFDDPMetadata.counts) ∧
      RoutedFfn.stageIds d = RoutedFfn.stageIds d' := by
  rw [makeFfnGraphKey_eq, makeFfnGraphKey_eq] at h
  obtain ⟨hget, hkeys⟩ := lookup_of_sortedItems (Except.ok.inj h)
  refine ⟨hget, ?_⟩
  unfold RoutedFfn.stageIds
  rw [hkeys]

end Key

/-! ## The runner -/

/-- What does not change while the worker runs. -/
structure RunnerConfig where
  model : Model
  native : Native
  computeGateOnAttention : Bool
  useCudaGraph : Bool

/-- The connector and the graphs, which are what a forward did while it was
captured. The executions so far are not kept by the source. -/
structure GPUFFNModelRunner where
  connector : P2pNcclAFDConnector
  cudaGraphs : Dict GraphKey (List Round) := ∅
  executions : List (Execution GraphKey (List Round)) := []

/-- `CUDAGraphMode`, as far as `_dummy_run` tells its members apart. -/
inductive CUDAGraphMode where
  | full
  | other
  deriving DecidableEq, Repr

namespace GPUFFNModelRunner

def executed (r : GPUFFNModelRunner) (mode : AFDGraphRunMode) (graphKey : GraphKey) (rounds : List Round) :
    GPUFFNModelRunner :=
  { r with executions := r.executions ++ [⟨mode, graphKey, rounds⟩] }

/-- `_update_connector_state`. -/
def updateConnectorState (r : GPUFFNModelRunner) (dpMetadataList : Dict Int AFDDPMetadata)
    (isGraphCapturing isWarmup isGraphReplaying : Bool) : GPUFFNModelRunner :=
  let payload : AFDControlPayload := ⟨dpMetadataList, isGraphCapturing, isWarmup, isGraphReplaying, false⟩
  { r with connector := r.connector.updateStateFromDpMetadata payload }

/-- `_ffn_forward`, without the update. -/
def ffnForward (cfg : RunnerConfig) (r : GPUFFNModelRunner) (dpMetadataList : Dict Int AFDDPMetadata) :
    Except String (List Round) :=
  FfnModelRunner.ffnForward cfg.model cfg.native r.connector cfg.computeGateOnAttention dpMetadataList

/-- `execute_model`. -/
def executeModel (cfg : RunnerConfig) (r : GPUFFNModelRunner) (dpMetadataList : Dict Int AFDDPMetadata)
    (isGraphCapturing isWarmup isGraphReplaying : Bool) : Except String GPUFFNModelRunner := do
  let graphKey ← makeFfnGraphKey dpMetadataList
  let cudaGraphInfo := r.cudaGraphs.get? graphKey
  let runMode := graphRunMode isWarmup isGraphCapturing isGraphReplaying cfg.useCudaGraph
    cudaGraphInfo.isSome
  match runMode, cudaGraphInfo with
  | .replay, some graph => return r.executed .replay graphKey graph
  | _, _ =>
    -- an eager fallback keeps the replay flag
    let r := r.updateConnectorState dpMetadataList isGraphCapturing isWarmup isGraphReplaying
    let rounds ← r.ffnForward cfg dpMetadataList
    return r.executed (if runMode = .warmup then .warmup else .eager) graphKey rounds

/-- `_dummy_run`. -/
def dummyRun (cfg : RunnerConfig) (r : GPUFFNModelRunner) (cudagraphRuntimeMode : CUDAGraphMode)
    (dpMetadataList : Dict Int AFDDPMetadata) (isAttnGraphCapturing : Bool) :
    Except String GPUFFNModelRunner := do
  let graphKey ← makeFfnGraphKey dpMetadataList
  let r := r.updateConnectorState dpMetadataList isAttnGraphCapturing false false
  let rounds ← r.ffnForward cfg dpMetadataList
  match cudagraphRuntimeMode with
  | .full =>
    -- an earlier graph of the key is replaced
    return { r with cudaGraphs := r.cudaGraphs.set graphKey rounds }.executed .capture graphKey rounds
  | .other => return r.executed .eager graphKey rounds

/-- `capture_model`. -/
def captureModel (cfg : RunnerConfig) (r : GPUFFNModelRunner) (dpMetadataList : Dict Int AFDDPMetadata)
    (isWarmup isAttnGraphCapturing : Bool) : Except String GPUFFNModelRunner := do
  if ¬ cfg.useCudaGraph then return r
  else if isWarmup then
    let graphKey ← makeFfnGraphKey dpMetadataList
    let r := r.updateConnectorState dpMetadataList false true false
    let rounds ← r.ffnForward cfg dpMetadataList
    return r.executed .warmup graphKey rounds
  else r.dummyRun cfg .full dpMetadataList isAttnGraphCapturing

/-- The body of the worker's loop, after the receive. -/
def handlePayload (cfg : RunnerConfig) (r : GPUFFNModelRunner) (payload : AFDControlPayload) :
    Except String GPUFFNModelRunner :=
  if cfg.useCudaGraph ∧ (payload.isWarmup ∨ payload.isGraphCapturing) then
    r.captureModel cfg payload.dpMetadataList payload.isWarmup payload.isGraphCapturing
  else
    r.executeModel cfg payload.dpMetadataList payload.isGraphCapturing payload.isWarmup
      payload.isGraphReplaying

/-- `_run_ffn_server_loop` on the payloads received so far: an exception ends it. -/
def runFfnServerLoop (cfg : RunnerConfig) (r : GPUFFNModelRunner) (payloads : List AFDControlPayload) :
    Except String GPUFFNModelRunner := payloads.foldlM (handlePayload cfg) r

/-- The mode that a payload calls for. -/
def modeOf (useCudaGraph : Bool) (payload : AFDControlPayload) (captured : Bool) : AFDGraphRunMode :=
  if payload.isWarmup then .warmup
  else if payload.isGraphCapturing then if useCudaGraph then .capture else .eager
  else if payload.isGraphReplaying ∧ useCudaGraph ∧ captured then .replay
  else .eager

def keyOf (payload : AFDControlPayload) : Except String GraphKey := makeFfnGraphKey payload.dpMetadataList

/-- The forward of a payload on a connector. -/
def workOf (cfg : RunnerConfig) (c : P2pNcclAFDConnector) (payload : AFDControlPayload) :
    Except String (List Round) :=
  FfnModelRunner.ffnForward cfg.model cfg.native (c.updateStateFromDpMetadata payload)
    cfg.computeGateOnAttention payload.dpMetadataList

/-- What an FFN rank expects of each of its Attention ranks in a stage. -/
def recvShapes (c : P2pNcclAFDConnector) (stageIdx : Int) : List (Nat × Option TensorMetadata) :=
  c.peers.map fun src => (src, c.recvAttnTensorMetadataList.get? (stageIdx, src))

def server (r : GPUFFNModelRunner) : Server GraphKey (List Round) := ⟨r.cudaGraphs, r.executions⟩

end GPUFFNModelRunner

/-! ## Equal keys, equal forwards -/

section Forward
variable {c c' : P2pNcclAFDConnector}

/-- The connectors of one process, at two points of its run. -/
structure SameProcess (c c' : P2pNcclAFDConnector) : Prop where
  config : c'.afdConfig = c.afdConfig
  mapping : c'.mapping = c.mapping
  hiddenSize : c'.hiddenSize = c.hiddenSize
  dtype : c'.dtype = c.dtype

theorem SameProcess.refl (c : P2pNcclAFDConnector) : SameProcess c c := ⟨rfl, rfl, rfl, rfl⟩

theorem SameProcess.update (h : SameProcess c c') (payload : AFDControlPayload) :
    SameProcess c (c'.updateStateFromDpMetadata payload) := by
  obtain ⟨b, i, heq⟩ := c'.updateStateFromDpMetadata_eq payload
  rw [heq]
  exact ⟨h.config, h.mapping, h.hiddenSize, h.dtype⟩

theorem SameProcess.peers (h : SameProcess c c') : c'.peers = c.peers := by
  rw [P2pNcclAFDConnector.peers, P2pNcclAFDConnector.peers, groupSize, groupSize, h.mapping]

theorem SameProcess.sendFfnOutput (h : SameProcess c c') (output : TensorMetadata)
    (metadata : AFDTransferMetadata) :
    c'.sendFfnOutput output metadata = c.sendFfnOutput output metadata := by
  unfold P2pNcclAFDConnector.sendFfnOutput ratio
  rw [h.peers, h.mapping]

/-- What is expected of a peer follows from the counts. -/
theorem SameProcess.peerMetadata (h : SameProcess c c') {md md' : AFDDPMetadata}
    (hcounts : md'.counts = md.counts) (src : Nat) :
    c'.peerMetadata md' src = c.peerMetadata md src := by
  unfold P2pNcclAFDConnector.peerMetadata numTokensForAttentionRank ffnSize attnSize
  rw [h.mapping, h.dtype, h.hiddenSize, hcounts]

/-- A peer's part of a receive, after an update. -/
theorem recvPeer_update (hb : c.BuffersKeyed) (hr : c.afdConfig.role = .ffn)
    (payload : AFDControlPayload) (stage : Int) (spec : Option AFDExpertRoutingSpec) (ids : Bool)
    {src : Nat} (hsrc : src ∈ c.peers) :
    (c.updateStateFromDpMetadata payload).recvPeer stage spec ids src =
      ((payload.dpMetadataList.get? stage).map fun md => c.peerMetadata md src).elim
        (.error s!"KeyError: {stage}")
        fun m => .ok (src, expectedMessage m spec ids) := by
  obtain ⟨h1, h2⟩ := List.mem_range'_1.1 hsrc
  unfold recvPeer
  rw [tensorMetadataList_update, recvAttnTensorMetadataList_update c hr payload stage h1 (by omega)]
  cases payload.dpMetadataList.get? stage with
  | none => rfl
  | some md =>
    exact congrArg (fun message => Except.ok (src, message))
      (peerBuffers_eq (hb.update payload) stage src (List.cons_ne_nil _ _) spec ids)

variable (hr : c.afdConfig.role = .ffn) (h : SameProcess c c') {p p' : AFDControlPayload}
  (hkey : makeFfnGraphKey p'.dpMetadataList = makeFfnGraphKey p.dpMetadataList)
include h hkey

/-- Equal keys announce the same sizes. -/
theorem expected_congr (stage : Int) (src : Nat) :
    ((p'.dpMetadataList.get? stage).map fun md => c'.peerMetadata md src) =
      (p.dpMetadataList.get? stage).map fun md => c.peerMetadata md src := by
  have hcounts := (counts_of_key hkey).1 stage
  cases hmd : p.dpMetadataList.get? stage with
  | none =>
    rw [hmd, Option.map_none, Option.map_eq_none_iff] at hcounts
    rw [hcounts]
    rfl
  | some md =>
    rw [hmd, Option.map_some, Option.map_eq_some_iff] at hcounts
    obtain ⟨md', hmd', heq⟩ := hcounts
    rw [hmd', Option.map_some, Option.map_some, h.peerMetadata heq]

include hr

theorem recvShapes_congr (stage : Int) :
    GPUFFNModelRunner.recvShapes (c'.updateStateFromDpMetadata p') stage =
      GPUFFNModelRunner.recvShapes (c.updateStateFromDpMetadata p) stage := by
  unfold GPUFFNModelRunner.recvShapes
  rw [(h.update p').peers, ((SameProcess.refl c).update p).peers]
  apply List.map_congr_left
  intro src hsrc
  obtain ⟨h1, h2⟩ := List.mem_range'_1.1 hsrc
  have hgroup : c'.groupSize = c.groupSize := by rw [groupSize, groupSize, h.mapping]
  rw [recvAttnTensorMetadataList_update c hr p stage h1 (by omega),
    recvAttnTensorMetadataList_update c' (h.config ▸ hr) p' stage h1 (by omega), expected_congr h hkey]

variable (hb : c.BuffersKeyed) (hb' : c'.BuffersKeyed)
include hb hb'

theorem recvAttnOutput_congr (stage : Int) (spec : Option AFDExpertRoutingSpec) (ids : Bool) :
    (c'.updateStateFromDpMetadata p').recvAttnOutput stage spec ids =
      (c.updateStateFromDpMetadata p).recvAttnOutput stage spec ids := by
  have hpeers : (c.updateStateFromDpMetadata p).peers = c.peers := ((SameProcess.refl c).update p).peers
  have hpeer : ∀ src ∈ c.peers, (c'.updateStateFromDpMetadata p').recvPeer stage spec ids src =
      (c.updateStateFromDpMetadata p).recvPeer stage spec ids src := by
    intro src hsrc
    rw [recvPeer_update hb hr p stage spec ids hsrc,
      recvPeer_update hb' (h.config ▸ hr) p' stage spec ids (h.peers ▸ hsrc), expected_congr h hkey]
  unfold recvAttnOutput
  rw [(h.update p').peers, hpeers, Fallible.mapM_congr hpeer]

/-- A forward does the same for each payload with its key, whatever was handled
before it. -/
theorem ffnForward_congr (m : Model) (native : Native) (g : Bool) :
    FfnModelRunner.ffnForward m native (c'.updateStateFromDpMetadata p') g p'.dpMetadataList =
      FfnModelRunner.ffnForward m native (c.updateStateFromDpMetadata p) g p.dpMetadataList := by
  obtain ⟨hcounts, hstages⟩ := counts_of_key hkey
  have hround : stageRound m native (c'.updateStateFromDpMetadata p') g =
      stageRound m native (c.updateStateFromDpMetadata p) g := by
    funext layerIdx stageIdx
    unfold stageRound
    simp only [recvAttnOutput_congr hr h hkey hb hb', (h.update p').sendFfnOutput,
      ((SameProcess.refl c).update p).sendFfnOutput]
  have hmissing : ∀ s, (p'.dpMetadataList.get? s).isNone = (p.dpMetadataList.get? s).isNone := by
    intro s
    rw [← Option.isNone_map, hcounts, Option.isNone_map]
  unfold FfnModelRunner.ffnForward
  simp only [hround, hstages, hmissing]

end Forward

/-! ## Runs -/

namespace GPUFFNModelRunner

section Run
variable {cfg : RunnerConfig} {c : P2pNcclAFDConnector}

/-- What every payload keeps: the process, and its buffers under their shapes. -/
structure Serving (c : P2pNcclAFDConnector) (r : GPUFFNModelRunner) : Prop where
  process : SameProcess c r.connector
  buffers : r.connector.BuffersKeyed

theorem Serving.updateConnectorState {r : GPUFFNModelRunner} (h : Serving c r) (d : Dict Int AFDDPMetadata)
    (capturing warmup replaying : Bool) : Serving c (r.updateConnectorState d capturing warmup replaying) :=
  ⟨h.process.update _, h.buffers.update _⟩

/-- A forward does a payload's work, whatever flags the connector is given. -/
theorem Serving.ffnForward {r : GPUFFNModelRunner} (h : Serving c r) (hr : c.afdConfig.role = .ffn)
    (hb : c.BuffersKeyed) (payload : AFDControlPayload) (capturing warmup replaying : Bool) :
    (r.updateConnectorState payload.dpMetadataList capturing warmup replaying).ffnForward cfg
      payload.dpMetadataList =
      workOf cfg c payload :=
  @ffnForward_congr c r.connector hr h.process payload ⟨payload.dpMetadataList, capturing, warmup,
    replaying, false⟩ rfl hb h.buffers cfg.model cfg.native cfg.computeGateOnAttention

/-- An execution is one entry of the log. -/
theorem map_server_executed {r : GPUFFNModelRunner} {mode : RunMode} (k : GraphKey)
    (x : Except String (List Round)) :
    (x >>= fun rounds => pure (r.executed mode k rounds)).map server =
      x >>= fun rounds => .ok ⟨r.cudaGraphs, r.executions ++ [⟨mode, k, rounds⟩]⟩ := by
  cases x with
  | error e => rfl
  | ok rounds => rfl

/-- Handling a payload is a step of the server. -/
theorem Serving.handlePayload {r : GPUFFNModelRunner} (h : Serving c r) (hr : c.afdConfig.role = .ffn)
    (hb : c.BuffersKeyed) (payload : AFDControlPayload) :
    (r.handlePayload cfg payload).map server =
      (server r).serve keyOf (workOf cfg c) (modeOf cfg.useCudaGraph) payload := by
  have hforward := @Serving.ffnForward cfg c r h hr hb payload
  obtain ⟨k, hkey⟩ : ∃ k, makeFfnGraphKey payload.dpMetadataList = .ok k := ⟨_, makeFfnGraphKey_eq _⟩
  have hof : keyOf payload = .ok k := hkey
  unfold GPUFFNModelRunner.handlePayload
  split
  · rename_i hcapture
    obtain ⟨hu, hflags⟩ := hcapture
    unfold captureModel
    rw [if_neg (by simp [hu])]
    cases hw : payload.isWarmup with
    | true =>
      have hmode : ∀ cached, modeOf cfg.useCudaGraph payload cached = .warmup :=
        fun _ => by rw [modeOf, if_pos hw]
      simp only [if_true, hkey, Fallible.ok_bind, hforward]
      rw [map_server_executed, serve_forward hof (hmode _) (fun h => by cases h) (fun h => by cases h)]
      rfl
    | false =>
      have hc : payload.isGraphCapturing = true := hflags.resolve_left (by simp [hw])
      have hmode : ∀ cached, modeOf cfg.useCudaGraph payload cached = .capture := fun _ => by
        rw [modeOf, if_neg (by simp [hw]), if_pos hc, if_pos hu]
      simp only [Bool.false_eq_true, if_false, dummyRun, hkey, Fallible.ok_bind, hforward]
      rw [serve_capture hof (hmode _) rfl]
      cases workOf cfg c payload with
      | error e => rfl
      | ok rounds => rfl
  · rename_i hcapture
    unfold executeModel
    simp only [hkey, Fallible.ok_bind, hforward]
    cases hw : payload.isWarmup with
    | true =>
      have hmode : ∀ cached, modeOf cfg.useCudaGraph payload cached = .warmup :=
        fun _ => by rw [modeOf, if_pos hw]
      have hrun : ∀ capturing replaying enabled existing,
          graphRunMode true capturing replaying enabled existing = .warmup := fun _ _ _ _ => rfl
      simp only [hrun, if_true]
      rw [map_server_executed, serve_forward hof (hmode _) (fun h => by cases h) (fun h => by cases h)]
      rfl
    | false =>
      cases hc : payload.isGraphCapturing with
      | true =>
        have hu : ¬ cfg.useCudaGraph = true := fun hu => hcapture ⟨hu, .inr hc⟩
        have hmode : ∀ cached, modeOf cfg.useCudaGraph payload cached = .eager := fun _ => by
          rw [modeOf, if_neg (by simp [hw]), if_pos hc, if_neg hu]
        have hrun : ∀ replaying enabled existing,
            graphRunMode false true replaying enabled existing = .capture :=
          fun _ _ _ => rfl
        simp only [hrun, reduceCtorEq, if_false]
        rw [map_server_executed, serve_forward hof (hmode _) (fun h => by cases h) (fun h => by cases h)]
        rfl
      | false =>
        have hmode : ∀ cached, modeOf cfg.useCudaGraph payload cached =
            if payload.isGraphReplaying ∧ cfg.useCudaGraph ∧ cached then .replay else .eager := fun _ => by
          rw [modeOf, if_neg (by simp [hw]), if_neg (by simp [hc])]
        by_cases hreplay : payload.isGraphReplaying = true ∧ cfg.useCudaGraph = true ∧
          (r.cudaGraphs.get? k).isSome = true
        · obtain ⟨graph, hgraph⟩ := Option.isSome_iff_exists.1 hreplay.2.2
          rw [serve_replay hof ((hmode _).trans (if_pos hreplay)) rfl hgraph, graphRunMode_plain,
            if_pos hreplay, hgraph]
          rfl
        · rw [serve_forward hof ((hmode _).trans (if_neg hreplay)) (fun h => by cases h)
            (fun h => by cases h), graphRunMode_plain, if_neg hreplay]
          simp only [reduceCtorEq, if_false]
          rw [map_server_executed]
          rfl

theorem Serving.executed {r : GPUFFNModelRunner} (h : Serving c r) (mode : RunMode) (k : GraphKey)
    (rounds : List Round) :
    Serving c (r.executed mode k rounds) := ⟨h.process, h.buffers⟩

theorem Serving.dummyRun {r r' : GPUFFNModelRunner} (h : Serving c r) {mode : CUDAGraphMode}
    {d : Dict Int AFDDPMetadata} {capturing : Bool} (hr' : r.dummyRun cfg mode d capturing = .ok r') :
    Serving c r' := by
  have hupdated := h.updateConnectorState d capturing false false
  obtain ⟨k, -, hr'⟩ := Fallible.bind_eq_ok.1 hr'
  obtain ⟨rounds, -, hr'⟩ := Fallible.bind_eq_ok.1 hr'
  cases mode with
  | full =>
    cases hr'
    exact ⟨hupdated.process, hupdated.buffers⟩
  | other =>
    cases hr'
    exact hupdated.executed _ _ _

theorem Serving.captureModel {r r' : GPUFFNModelRunner} (h : Serving c r) {d : Dict Int AFDDPMetadata}
    {warmup capturing : Bool} (hr' : r.captureModel cfg d warmup capturing = .ok r') : Serving c r' := by
  unfold GPUFFNModelRunner.captureModel at hr'
  split at hr'
  · cases hr'
    exact h
  · split at hr'
    · obtain ⟨k, -, hr'⟩ := Fallible.bind_eq_ok.1 hr'
      obtain ⟨rounds, -, hr'⟩ := Fallible.bind_eq_ok.1 hr'
      cases hr'
      exact (h.updateConnectorState d false true false).executed _ _ _
    · exact h.dummyRun hr'

theorem Serving.executeModel {r r' : GPUFFNModelRunner} (h : Serving c r) {d : Dict Int AFDDPMetadata}
    {capturing warmup replaying : Bool} (hr' : r.executeModel cfg d capturing warmup replaying = .ok r') :
    Serving c r' := by
  obtain ⟨k, -, hr'⟩ := Fallible.bind_eq_ok.1 hr'
  dsimp only at hr'
  split at hr'
  · cases hr'
    exact h.executed _ _ _
  · obtain ⟨rounds, -, hr'⟩ := Fallible.bind_eq_ok.1 hr'
    cases hr'
    exact (h.updateConnectorState d capturing warmup replaying).executed _ _ _

/-- A payload leaves the process what it was. -/
theorem Serving.handled {r r' : GPUFFNModelRunner} (h : Serving c r) {payload : AFDControlPayload}
    (hr' : r.handlePayload cfg payload = .ok r') : Serving c r' := by
  unfold GPUFFNModelRunner.handlePayload at hr'
  split at hr'
  · exact h.captureModel hr'
  · exact h.executeModel hr'

/-- The runs of a GPU worker that starts without a graph. -/
theorem served (hreach : c.Reachable) (hr : c.afdConfig.role = .ffn) (payloads : List AFDControlPayload) :
    Served keyOf (workOf cfg c) (modeOf cfg.useCudaGraph)
      (fun ps => (runFfnServerLoop cfg { connector := c } ps).map executions) payloads := by
  have hb := hreach.buffersKeyed
  have hstep : ∀ (r : GPUFFNModelRunner) (p : AFDControlPayload), Serving c r → True →
      (r.handlePayload cfg p).map server =
          (server r).serve keyOf (workOf cfg c) (modeOf cfg.useCudaGraph) p :=
    fun r p h _ => h.handlePayload hr hb p
  refine served_of_refines hstep (fun r p r' h => h.handled) (fun _ _ => trivial) ⟨SameProcess.refl c,
    hb⟩ rfl ?_ ?_
  · intro p _ q _ k hp hq
    exact ffnForward_congr hr (SameProcess.refl c) (hp.trans hq.symm) hb hb _ _ _
  · intro p _ h
    unfold modeOf at h
    simp only [Bool.false_eq_true, and_false, if_false] at h
    split at h
    · cases h
    · split at h
      · split at h <;> cases h
      · cases h

end Run

end GPUFFNModelRunner

end AfdPlugin.CudaGraph
