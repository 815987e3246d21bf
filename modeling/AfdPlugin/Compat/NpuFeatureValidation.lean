import AfdPlugin.Worker.NpuFfnCounts
/-!
# Validation of an NPU deployment

The Attention worker refuses, before it touches a device, the settings that the
Ascend runtime does not support. A validator is a list of checks; the first one
that fails raises its message.
-/

namespace AfdPlugin.NpuFeatures

/-- A check: when it fails, and its message. -/
abbrev Check := Bool × String

/-- The first failing check raises. -/
def failFast (checks : List Check) : Except String Unit :=
  match checks.find? (·.1) with
  | some check => .error check.2
  | none => .ok ()

theorem failFast_eq_ok {checks : List Check} (h : failFast checks = .ok ()) :
    ∀ check ∈ checks, check.1 = false := by
  intro check hcheck
  unfold failFast at h
  split at h
  · cases h
  · rename_i hnone
    simpa using List.find?_eq_none.1 hnone check hcheck

/-! ## What the validators read -/

/-- The connectors that `validate_afd_config` accepts. -/
inductive ConnectorName where
  | p2pNccl
  | deepepM2n
  | camp2p
  | camAsync
  deriving DecidableEq, Repr

def ConnectorName.toString : ConnectorName → String
  | .p2pNccl => "P2pNcclAFDConnector"
  | .deepepM2n => "DeepEPM2NAFDConnector"
  | .camp2p => "CAMP2pAFDConnector"
  | .camAsync => "CAMAsyncAFDConnector"

/-- A parsed AFD configuration, with the fields that only the validators read. -/
structure ParsedConfig where
  afd : AFDConfig
  connector : ConnectorName
  asyncDp : Bool := false
  deriving DecidableEq, Repr

def roleName : AFDRole → String
  | .attention => "attention"
  | .ffn => "ffn"

def ParsedConfig.isAttentionServer (c : ParsedConfig) : Bool := c.afd.role = .attention

def ParsedConfig.isFfnServer (c : ParsedConfig) : Bool := c.afd.role = .ffn

/-- `AFDAsyncExtraInfo`; its parser makes the ranks positive. -/
structure AFDAsyncExtraInfo where
  dynamicQuant : Int := 0
  attnRanksPerDp : Nat := 1
  ffnTwoStream : Bool := false
  attnRanksPerDp_pos : 0 < attnRanksPerDp

/-- What `parse_connector_extra_info` returns. -/
inductive ConnectorExtraInfo where
  | async (info : AFDAsyncExtraInfo)
  | camp2p (computeGateOnAttention : Bool) (quantMode : Int)
  | other (typeName : String)

def ConnectorExtraInfo.typeName : ConnectorExtraInfo → String
  | .async _ => "AFDAsyncExtraInfo"
  | .camp2p .. => "CAMP2PExtraInfo"
  | .other name => name

/-- A Hugging Face config. -/
structure HfConfig where
  modelType : String
  architectures : List String := []

structure ModelConfig where
  hfConfig : Option HfConfig
  hfTextConfig : HfConfig
  /-- Fields that the text config has only for sparse or compressed attention. -/
  hasIndexTopk : Bool := false
  hasCompressRatios : Bool := false
  useMla : Bool
  enforceEager : Bool
  /-- `has_afd_model_registration`. -/
  hasAfdModelRegistration : Bool := true

structure ParallelConfig where
  tensorParallelSize : Nat := 1
  dataParallelSize : Nat := 1
  pipelineParallelSize : Nat := 1
  prefillContextParallelSize : Nat := 1
  decodeContextParallelSize : Nat := 1
  useSequenceParallelMoe : Bool := false
  enableDbo : Bool := false
  useUbatching : Bool := false
  numUbatches : Nat := 0
  enableExpertParallel : Bool := true
  enableElasticEp : Bool := false
  enableEplb : Bool := false

structure SpeculativeConfig where
  method : String
  enforceEager : Bool
  draftTensorParallelSize : Nat
  numSpeculativeTokens : Nat
  sampleFromAnchor : Bool := true
  useEagle : Bool := false
  usesDraftModel : Bool := false

structure VllmConfig where
  useV2ModelRunner : Bool
  modelConfig : ModelConfig
  parallelConfig : ParallelConfig
  maxNumBatchedTokens : Nat
  maxNumSeqs : Nat
  speculativeConfig : Option SpeculativeConfig := none
  cudagraphMode : String := "NONE"
  mixPlacement : Bool := false
  enableSharedExpertDp : Bool := false
  finegrainedTpConfig : List Int := []

/-- The environment of the process. -/
structure Env where
  /-- `AFD_ASYNC_CAM_LAYERED_GMM`. -/
  layeredGmm : Bool := false
  /-- `VLLM_ASCEND_ENABLE_FLASHCOMM1`. -/
  flashcomm1 : Bool := false
  /-- The number that `BATCH_SIZE_FACTOR` denotes, if it is a native literal. -/
  batchSizeFactor : Option Rat := some 1
  /-- `cam_receive_capacity()`. -/
  camReceiveCapacity : Int := 262144

/-! ## The validators -/

section Validators
variable (env : Env) (vllm : VllmConfig) (afd : ParsedConfig)

/-- `_is_dsv4_target`. -/
def isDsv4Target : Bool :=
  let hfConfig := vllm.modelConfig.hfConfig.getD vllm.modelConfig.hfTextConfig
  hfConfig.modelType = "deepseek_v4" ||
    hfConfig.architectures.any fun architecture => "DeepseekV4".toList <:+: architecture.toList

/-- `is_afd_async_dp`. -/
def isAfdAsyncDp : Bool := afd.asyncDp && afd.connector = .camAsync

/-- A DeepSeek-V2 or V3 model with MLA. -/
def isDeepseekMla : Bool :=
  ["deepseek_v2", "deepseek_v3"].contains vllm.modelConfig.hfTextConfig.modelType && vllm.modelConfig.useMla

/-- `_fail_if_unsupported_dsv4_connector`. -/
def dsv4ConnectorChecks : List Check :=
  [(!([ConnectorName.camAsync, .camp2p].contains afd.connector),
    "DSV4 NPU AFD supports only CAMAsyncAFDConnector and " ++
      s!"CAMP2pAFDConnector; got '{afd.connector.toString}'")]

/-- `_fail_if_unsupported_dsv4_async_features`. -/
def dsv4AsyncChecks (info : AFDAsyncExtraInfo) : List Check :=
  [(!afd.afd.computeGateOnAttention, "DSV4 CAMAsyncAFDConnector requires compute_gate_on_attention=true"),
   (info.dynamicQuant != 1, "DSV4 Flash-INT8 CAMAsyncAFDConnector requires dynamicQuant=1")]

def twoStreamChecks (info : AFDAsyncExtraInfo) : List Check :=
  let parallel := vllm.parallelConfig
  [(info.ffnTwoStream && !afd.isFfnServer, "ffn_two_stream may only be enabled on the FFN role"),
   (info.ffnTwoStream && (!vllm.useV2ModelRunner || !env.layeredGmm || !afd.afd.computeGateOnAttention ||
      info.dynamicQuant != 1 || parallel.tensorParallelSize != 1 || parallel.useSequenceParallelMoe || env.flashcomm1),
    "FFN two-stream requires MRV2 layered GMM, dynamicQuant=1, Attention-side gate, F TP=1 and SP disabled")]

def eagerChecks : List Check :=
  let graph := !vllm.modelConfig.enforceEager
  [(graph && afd.isAttentionServer, "CAMAsyncAFDConnector supports only eager Attention execution"),
   -- requested_ffn_mode
   (graph && vllm.cudagraphMode != "FULL", "Async FFN graph requires explicit cudagraph_mode=FULL"),
   (graph && !vllm.useV2ModelRunner, "Async FFN FULL requires MRV2"),
   (graph && vllm.parallelConfig.tensorParallelSize != 1, "Async FFN FULL requires F TP=1")]

def dboChecks : List Check :=
  let parallel := vllm.parallelConfig
  let dbo := parallel.enableDbo || parallel.useUbatching
  [(dbo && !afd.isAttentionServer, "Async CAM DBO/ubatching requires the Attention role"),
    (dbo && parallel.numUbatches != 2, "Async CAM DBO requires exactly two ubatches"),
    (dbo && !afd.afd.computeGateOnAttention, "Async CAM DBO requires compute_gate_on_attention=true"),
    (dbo && (parallel.pipelineParallelSize != 1 || parallel.prefillContextParallelSize != 1 ||
      parallel.decodeContextParallelSize != 1 || vllm.speculativeConfig.isSome),
      "Async CAM DBO does not support PP, CP or speculative decoding"),
    (dbo && !isDsv4Target vllm && !isDeepseekMla vllm,
      "Async CAM DBO requires DeepSeek-V2/V3 MLA or DeepSeek-V4")]

def speculativeChecks (info : AFDAsyncExtraInfo) : List Check :=
  match vllm.speculativeConfig with
  | none => []
  | some speculative =>
    if speculative.method = "dspark" then
      [(vllm.modelConfig.hfTextConfig.modelType != "deepseek_v4",
        "AFD DSpark supports only DeepSeek-V4 on NPU"),
        (info.ffnTwoStream, "AFD DSpark does not support FFN two-stream"),
        ((afd.isAttentionServer && !vllm.modelConfig.enforceEager) || !speculative.enforceEager ||
          vllm.parallelConfig.tensorParallelSize != 1 || speculative.draftTensorParallelSize != 1,
          "AFD DSpark requires eager Attention/draft and target/draft TP=1")]
    else
      [(afd.isAttentionServer && (speculative.useEagle || speculative.usesDraftModel),
        "CAMAsyncAFDConnector does not support native draft models or MTP; only DSV4 DSpark eager is supported")]

/-- The rows that one draft of DSpark takes. -/
def draftRows (speculative : SpeculativeConfig) : Nat :=
  vllm.maxNumSeqs * (speculative.numSpeculativeTokens + if speculative.sampleFromAnchor then 0 else 1)

def capacityChecks : List Check :=
  let draft := match vllm.speculativeConfig with
    | some speculative => if speculative.method = "dspark" then draftRows vllm speculative else 0
    | none => 0
  [(!(env.batchSizeFactor.any fun factor => 0 < factor ∧ factor ≤ 1),
    "BATCH_SIZE_FACTOR must be a decimal number in (0, 1]"),
   (vllm.maxNumBatchedTokens < draft, "AFD DSpark draft query capacity exceeds max_num_batched_tokens: " ++
      s!"{draft} > {vllm.maxNumBatchedTokens}"),
   -- whole-expert chunks need a full TP group's batch
   (env.camReceiveCapacity < vllm.maxNumBatchedTokens,
    "CAMAsyncAFDConnector requires BATCH_SIZE_FACTOR to allocate at least " ++
      s!"max_num_batched_tokens={vllm.maxNumBatchedTokens} rows; got {env.camReceiveCapacity}")]

def mrv2AttentionChecks (info : AFDAsyncExtraInfo) : List Check :=
  let mrv2 := vllm.useV2ModelRunner && afd.isAttentionServer
  -- the window of a rank is a floor, the layout of replicated tokens rounds up
  [(mrv2 && vllm.maxNumBatchedTokens % info.attnRanksPerDp != 0,
    "AFD NPU ModelRunnerV2 Async CAM requires max_num_batched_tokens divisible by attn_ranks_per_dp"),
   (mrv2 && !isDsv4Target vllm && !isDeepseekMla vllm,
    "AFD NPU ModelRunnerV2 Async CAM requires DeepSeek-V2/V3 MLA or DeepSeek-V4"),
   (mrv2 && (vllm.enableSharedExpertDp || vllm.finegrainedTpConfig.any (0 < ·)),
    "AFD NPU ModelRunnerV2 Async CAM does not support finegrained TP or shared-expert DP")]

/-- `_validate_cam_world_topology`. -/
def camWorldTopologyChecks (info : AFDAsyncExtraInfo) : List Check :=
  let parallel := vllm.parallelConfig
  let localWorldSize := parallel.dataParallelSize *
    (if afd.isAttentionServer then info.attnRanksPerDp else parallel.tensorParallelSize)
  let expectedWorldSize := Camp2p.configuredRanks afd.afd
  [(afd.isAttentionServer && parallel.tensorParallelSize != info.attnRanksPerDp,
    "CAMAsyncAFDConnector Attention tensor_parallel_size must equal attn_ranks_per_dp"),
   (localWorldSize != expectedWorldSize,
    s!"CAMAsyncAFDConnector {roleName afd.afd.role} DPxTP world size must equal its configured " ++
      s!"role size, got {localWorldSize} and {expectedWorldSize}")]

/-- `_fail_if_unsupported_npu_afd_async_features`. -/
def failIfUnsupportedNpuAfdAsyncFeatures (extraInfo : ConnectorExtraInfo) : Except String Unit :=
  match extraInfo with
  | .async info =>
    failFast ([(vllm.mixPlacement,
      "Async CAM uses routed-only expert IDs and does not support mix_placement")] ++
      twoStreamChecks env vllm afd info ++
      [(!isAfdAsyncDp afd, "CAMAsyncAFDConnector requires additional_config['afd'] " ++
        "with async=true and connector='CAMAsyncAFDConnector'")] ++ eagerChecks vllm afd ++
      dboChecks vllm afd ++ speculativeChecks vllm afd info ++ capacityChecks env vllm ++
      mrv2AttentionChecks vllm afd info ++
      [(!([0, 1].contains info.dynamicQuant),
        "CAMAsyncAFDConnector currently supports only dynamicQuant 0 or 1")] ++ camWorldTopologyChecks
      vllm afd info)
  | _ => .error s!"CAMAsyncAFDConnector requires AFDAsyncExtraInfo, got {extraInfo.typeName}"

/-- What follows for the synchronous connectors. -/
def synchronousChecks (extraInfo : ConnectorExtraInfo) : List Check :=
  let model := vllm.modelConfig
  let usesUbatching := vllm.parallelConfig.useUbatching
  let hasFullCudagraphs := ["FULL", "FULL_DECODE_ONLY", "FULL_AND_PIECEWISE"].contains vllm.cudagraphMode
  -- only plain MLA takes the MLA DBO full graph path
  let usesMlaDboFullGraph := usesUbatching && model.useMla && !model.hasIndexTopk &&
    !model.hasCompressRatios && hasFullCudagraphs
  let camp2p := match extraInfo with
    | .camp2p computeGateOnAttention quantMode =>
      [(computeGateOnAttention, "AFD NPU runtime does not support compute_gate_on_attention=true yet"),
       (quantMode != 0, "AFD NPU runtime currently supports only quant_mode=0")]
    | _ => [(true, s!"CAMP2pAFDConnector requires CAMP2PExtraInfo, got {extraInfo.typeName}")]
  [(afd.afd.computeGateOnAttention,
    "AFD NPU runtime does not support compute_gate_on_attention=true yet")] ++
  (if afd.connector = .camp2p then camp2p else []) ++
  [(usesUbatching && vllm.parallelConfig.numUbatches != 2,
    "AFD NPU runtime supports exactly two ubatches when DBO is enabled"),
   (usesMlaDboFullGraph && vllm.speculativeConfig.isSome,
    "AFD NPU MLA DBO FULL graph does not support speculative decoding"),
   (usesMlaDboFullGraph && vllm.cudagraphMode != "FULL_DECODE_ONLY",
    "AFD NPU MLA DBO graph execution requires FULL_DECODE_ONLY")]

/-- `fail_if_unsupported_npu_afd_features`. -/
def failIfUnsupportedNpuAfdFeatures (extraInfo : ConnectorExtraInfo) : Except String Unit := do
  let isDsv4 := isDsv4Target vllm
  failFast ([(env.layeredGmm && (!afd.isFfnServer || afd.connector != .camAsync),
      "AFD_ASYNC_CAM_LAYERED_GMM requires the async CAM FFN role; " ++
        s!"got role='{roleName afd.afd.role}', connector='{afd.connector.toString}'"),
    (env.layeredGmm && !isDsv4, "AFD_ASYNC_CAM_LAYERED_GMM supports only DeepSeek V4")] ++
    (if isDsv4 then dsv4ConnectorChecks afd else []))
  if afd.connector = .camAsync then
    failIfUnsupportedNpuAfdAsyncFeatures env vllm afd extraInfo
    match extraInfo with
    | .async info => failFast (if isDsv4 then dsv4AsyncChecks afd info else [])
    | _ => pure ()
  else failFast (synchronousChecks vllm afd extraInfo)

/-- `validate_npu_model_runner_v2_config`, after the config is parsed for the role. -/
def validateNpuModelRunnerV2Config (expectedRole : AFDRole) (deviceType : String) : Except String Unit := do
  let parallel := vllm.parallelConfig
  let model := vllm.modelConfig
  let attention : Bool := expectedRole = .attention
  let camAsync : Bool := afd.connector = .camAsync
  let dbo := parallel.enableDbo || parallel.useUbatching
  failFast [
    (!vllm.useV2ModelRunner, "AFD NPU requires ModelRunnerV2"),
    -- parse_afd_config
    (afd.afd.role != expectedRole,
      s!"AFD role mismatch: expected '{roleName expectedRole}', got '{roleName afd.afd.role}'"),
    (deviceType != "npu", "AFD NPU ModelRunnerV2 requires NPU"),
    (camAsync && (!afd.asyncDp || !afd.afd.computeGateOnAttention),
      "AFD NPU ModelRunnerV2 Async CAM requires async DP and compute_gate_on_attention=true"),
    (camAsync && !model.enforceEager && attention,
      "AFD NPU ModelRunnerV2 Async CAM requires eager execution on Attention"),
    (camAsync && !model.enforceEager && vllm.cudagraphMode != "FULL",
      "Async FFN graph requires explicit cudagraph_mode=FULL"),
    (!camAsync && (afd.connector != .camp2p || afd.afd.computeGateOnAttention),
      "AFD NPU ModelRunnerV2 requires synchronous CAMP2pAFDConnector " ++
        "with compute_gate_on_attention=false, or Async CAM"),
    (parallel.pipelineParallelSize != 1 || parallel.prefillContextParallelSize != 1 ||
      parallel.decodeContextParallelSize != 1, "AFD ModelRunnerV2 does not support PP or CP")]
  Camp2p.validateRanks afd.afd parallel.dataParallelSize parallel.tensorParallelSize
  failFast [
    (!parallel.enableExpertParallel || parallel.enableElasticEp || parallel.enableEplb,
      "AFD ModelRunnerV2 requires static expert parallelism"),
    (dbo && camAsync && !model.enforceEager, "AFD NPU ModelRunnerV2 DBO requires eager execution"),
    (dbo && attention && parallel.dataParallelSize ≤ 1 && !camAsync,
      "AFD NPU ModelRunnerV2 DBO requires Attention DP > 1"),
    (dbo && parallel.numUbatches != 2, "AFD NPU ModelRunnerV2 DBO requires exactly two ubatches"),
    (dbo && vllm.speculativeConfig.isSome,
      "AFD NPU ModelRunnerV2 DBO does not support speculative decoding"),
    (!model.hasAfdModelRegistration, "AFD ModelRunnerV2 requires a registered AFD model"),
    (!model.enforceEager && !(["FULL", "FULL_DECODE_ONLY"].contains vllm.cudagraphMode),
      s!"AFD NPU ModelRunnerV2 supports ACL graph modes FULL and FULL_DECODE_ONLY; got '{vllm.cudagraphMode}'.")]

/-- What `AFDNPUAttentionWorker.init_device` checks before it takes the device. -/
def validateAttentionWorker (extraInfo : ConnectorExtraInfo) : Except String Unit := do
  failIfUnsupportedNpuAfdFeatures env vllm afd extraInfo
  validateNpuModelRunnerV2Config vllm afd .attention "npu"

end Validators

/-! ## What acceptance gives -/

section Accepted
variable {env : Env} {vllm : VllmConfig} {afd : ParsedConfig} {info : AFDAsyncExtraInfo}

theorem accepted_async (h : failIfUnsupportedNpuAfdFeatures env vllm afd (.async info) = .ok ())
    (hc : afd.connector = .camAsync) :
    failIfUnsupportedNpuAfdAsyncFeatures env vllm afd (.async info) = .ok () := by
  obtain ⟨_, -, h⟩ := Fallible.bind_eq_ok.1 h
  rw [if_pos hc] at h
  obtain ⟨_, h, -⟩ := Fallible.bind_eq_ok.1 h
  exact h

theorem accepted_mrv2 {role : AFDRole} {deviceType : String}
    (h : validateNpuModelRunnerV2Config vllm afd role deviceType = .ok ()) :
    vllm.useV2ModelRunner = true ∧ afd.afd.role = role := by
  obtain ⟨_, h, -⟩ := Fallible.bind_eq_ok.1 h
  have hchecks := failFast_eq_ok h
  simp only [List.mem_cons, forall_eq_or_imp] at hchecks
  obtain ⟨hv2, hrole, -⟩ := hchecks
  exact ⟨by simpa using hv2, by simpa using hrole⟩

/-- An Async CAM Attention worker that starts has a batch capacity that its TP
ranks divide, and as many TP ranks as the connector counts. -/
theorem accepted_capacity (h : validateAttentionWorker env vllm afd (.async info) = .ok ())
    (hc : afd.connector = .camAsync) :
    vllm.maxNumBatchedTokens % info.attnRanksPerDp = 0 ∧
      vllm.parallelConfig.tensorParallelSize = info.attnRanksPerDp := by
  obtain ⟨_, hfeatures, hmrv2⟩ := Fallible.bind_eq_ok.1 h
  obtain ⟨hv2, hrole⟩ := accepted_mrv2 hmrv2
  have hattention : afd.isAttentionServer = true := by simp [ParsedConfig.isAttentionServer, hrole]
  have hchecks := failFast_eq_ok (accepted_async hfeatures hc)
  constructor
  · have hmod :=
      hchecks (_, _)
        (List.mem_append_left _ (List.mem_append_left _ (List.mem_append_right _ (.head _))))
    simpa [hv2, hattention] using hmod
  · have htp := hchecks (_, _) (List.mem_append_right _ (.head _))
    simpa [hattention] using htp

end Accepted

end AfdPlugin.NpuFeatures
