import AfdPlugin.Config
import AfdPlugin.Lib.DottedPath
/-!
# Which weights a role loads

Each role builds only part of a decoder layer and filters the checkpoint by
name. The constructors of the DeepSeek and Qwen3 MoE adapters and their
loaders decide separately what belongs to a role; vLLM's modules enter by the
checkpoint names their parameters are loaded from.
-/

namespace AfdPlugin.Models.RoleWeights

/-! ## Supported deployments -/

/-- `current_platform.device_type`. -/
inductive DeviceType where
  | cuda
  | npu
  deriving DecidableEq, Repr

/-- `SUPPORTED_AFD_CONNECTORS`. -/
inductive ConnectorName where
  | p2pNccl
  | deepEPM2N
  | camP2p
  | camAsync
  deriving DecidableEq, Repr

/-- `DEEPEP_M2N_CONNECTORS`. -/
def deepEPM2NConnectors : List ConnectorName := [.deepEPM2N]

/-- `GPU_MRV2_CONNECTORS`. -/
def gpuMrv2Connectors : List ConnectorName := .p2pNccl :: deepEPM2NConnectors

/-- The settings that decide which modules a role builds. -/
structure Settings where
  deviceType : DeviceType
  connector : ConnectorName
  computeGateOnAttention : Bool
  asyncDp : Bool
  deriving DecidableEq, Repr

/-- `validate_afd_config`. -/
def Settings.validateAfdConfig (s : Settings) : Except String Unit :=
  if s.asyncDp ∧ s.connector ≠ .camAsync then
    .error "AFD async mode requires connector='CAMAsyncAFDConnector'"
  else .ok ()

/-- `validate_gpu_model_runner_v2_config`. -/
def Settings.validateGpuModelRunnerV2Config (s : Settings) : Except String Unit := do
  s.validateAfdConfig
  if s.deviceType ≠ .cuda ∨ s.connector ∉ gpuMrv2Connectors then
    .error ("AFD ModelRunnerV2 requires CUDA and one of the synchronous connectors " ++
      "('P2pNcclAFDConnector', 'DeepEPM2NAFDConnector')")
  else if s.connector ∈ deepEPM2NConnectors ∧ ¬ s.computeGateOnAttention then
    .error "DeepEPM2NAFDConnector requires compute_gate_on_attention=true"
  else .ok ()

/-- `validate_npu_model_runner_v2_config`. -/
def Settings.validateNpuModelRunnerV2Config (s : Settings) : Except String Unit := do
  s.validateAfdConfig
  if s.deviceType ≠ .npu then .error "AFD NPU ModelRunnerV2 requires NPU"
  else if s.connector = .camAsync then
    if ¬ s.asyncDp ∨ ¬ s.computeGateOnAttention then
      .error "AFD NPU ModelRunnerV2 Async CAM requires async DP and compute_gate_on_attention=true"
    else .ok ()
  else if s.connector ≠ .camP2p ∨ s.computeGateOnAttention then
    .error ("AFD NPU ModelRunnerV2 requires synchronous CAMP2pAFDConnector with compute_gate_on_attention=false, " ++
      "or Async CAM")
  else .ok ()

/-- What the workers of the platform check before they build the model. -/
def Settings.validate (s : Settings) : Except String Unit :=
  match s.deviceType with
  | .cuda => s.validateGpuModelRunnerV2Config
  | .npu => s.validateNpuModelRunnerV2Config

/-- The deployments that pass. -/
theorem Settings.validate_cases {s : Settings} (h : s.validate = .ok ()) :
    (s.deviceType = .cuda ∧ s.connector = .p2pNccl) ∨
    (s.deviceType = .cuda ∧ s.connector = .deepEPM2N ∧ s.computeGateOnAttention = true) ∨
    (s.deviceType = .npu ∧ s.connector = .camP2p ∧ s.computeGateOnAttention = false) ∨
    (s.deviceType = .npu ∧ s.connector = .camAsync ∧ s.computeGateOnAttention = true) := by
  obtain ⟨device, connector, gate, asyncDp⟩ := s
  revert h
  cases device <;> cases connector <;> cases gate <;> cases asyncDp <;>
    simp [validate, validateGpuModelRunnerV2Config, validateNpuModelRunnerV2Config, validateAfdConfig,
      gpuMrv2Connectors, deepEPM2NConnectors, Except.bind, bind]

/-! ## Decoder weight names -/

/-- A name inside a module, part by part. -/
abbrev Path := List String

/-- The names of a submodule, under the attribute it is assigned to. -/
def under (name : String) (paths : List Path) : List Path := paths.map (name :: ·)

theorem mem_under {name : String} {paths : List Path} {path : Path} :
    path ∈ under name paths ↔ ∃ rest ∈ paths, name :: rest = path := List.mem_map

/-- Names without a dot inside a part, as module attributes are. -/
def DotlessPaths (paths : List Path) : Prop := ∀ path ∈ paths, ∀ part ∈ path, Dotless part

theorem DotlessPaths.under {name : String} {paths : List Path} (hname : Dotless name)
    (h : DotlessPaths paths) :
    DotlessPaths (under name paths) := by
  intro path hpath part hpart
  obtain ⟨rest, hrest, rfl⟩ := mem_under.1 hpath
  rcases List.mem_cons.1 hpart with rfl | hpart
  · exact hname
  · exact h rest hrest part hpart

theorem DotlessPaths.append {paths paths' : List Path} (h : DotlessPaths paths) (h' : DotlessPaths paths') :
    DotlessPaths (paths ++ paths') := by
  intro path hpath
  rcases List.mem_append.1 hpath with hpath | hpath
  · exact h path hpath
  · exact h' path hpath

theorem DotlessPaths.nil : DotlessPaths [] := by simp [DotlessPaths]

/-- The name of a weight of decoder layer `layerIdx`. -/
def layerName (layerIdx : Nat) (path : Path) : String :=
  joinDots ("model" :: "layers" :: toString layerIdx :: path)

/-- The prefix `make_layers` gives to the constructor of decoder layer
`layerIdx`. -/
def layerPrefix (layerIdx : Nat) : String := layerName layerIdx []

/-- The loop of `_weight_layer_path`. -/
def layerPathLoop : List String → Option (Int × String × Path)
  | part :: index :: stage :: remainder =>
    if part ≠ "layers" then layerPathLoop (index :: stage :: remainder)
    else
      match pyInt index with
      | some layerIdx => some (layerIdx, stage, remainder)
      | none => layerPathLoop (index :: stage :: remainder)
  | _ => none

/-- `_weight_layer_path` of both adapters. -/
def weightLayerPath (name : String) : Option (Int × String × Path) := layerPathLoop (splitDots name)

theorem weightLayerPath_layerName (layerIdx : Nat) {stage : String} {remainder : Path}
    (h : ∀ part ∈ stage :: remainder, Dotless part) :
    weightLayerPath (layerName layerIdx (stage :: remainder)) =
      some ((layerIdx : Int), stage, remainder) := by
  have hparts : ∀ part ∈ "model" :: "layers" :: toString layerIdx :: stage :: remainder, Dotless part := by
    intro part hpart
    rcases List.mem_cons.1 hpart with rfl | hpart
    · simp [Dotless]
    rcases List.mem_cons.1 hpart with rfl | hpart
    · simp [Dotless]
    rcases List.mem_cons.1 hpart with rfl | hpart
    · exact dotless_toString layerIdx
    · exact h part hpart
  rw [weightLayerPath, layerName, splitDots_joinDots (List.cons_ne_nil _ _) hparts, layerPathLoop,
    layerPathLoop, pyInt_toString]
  simp

/-- `int(prefix.split(sep=".")[-1])` of a decoder layer's constructor. -/
def prefixLayerIdx (modulePrefix : String) : Option Int := (splitDots modulePrefix).getLast?.bind pyInt

theorem prefixLayerIdx_layerPrefix (layerIdx : Nat) :
    prefixLayerIdx (layerPrefix layerIdx) = some (layerIdx : Int) := by
  have hparts : ∀ part ∈ ["model", "layers", toString layerIdx], Dotless part := by
    intro part hpart
    simp only [List.mem_cons, List.not_mem_nil, or_false] at hpart
    rcases hpart with rfl | rfl | rfl
    · simp [Dotless]
    · simp [Dotless]
    · exact dotless_toString layerIdx
  rw [prefixLayerIdx, layerPrefix, layerName, splitDots_joinDots (List.cons_ne_nil _ _) hparts]
  exact pyInt_toString layerIdx

/-- `_ATTENTION_ROLE`, `_FFN_ROLE` and `_BOTH_ROLES`. -/
def attentionRole : List AFDRole := [.attention]
def ffnRole : List AFDRole := [.ffn]
def bothRoles : List AFDRole := [.attention, .ffn]

/-- `_iter_role_weights`. -/
def iterRoleWeights {T : Type} (checkpointWeightRoles : String → List AFDRole) (role : AFDRole)
    (weights : List (String × T)) : List (String × T) :=
  weights.filter fun weight => role ∈ checkpointWeightRoles weight.1

theorem mem_iterRoleWeights {T : Type} {roles : String → List AFDRole} {role : AFDRole}
    {weights : List (String × T)} {name : String} :
    name ∈ (iterRoleWeights roles role weights).map Prod.fst ↔ name ∈ weights.map Prod.fst ∧
      role ∈ roles name := by
  simp only [iterRoleWeights, List.mem_map, List.mem_filter, decide_eq_true_eq]
  constructor
  · rintro ⟨weight, ⟨hmem, hrole⟩, rfl⟩
    exact ⟨⟨weight, hmem, rfl⟩, hrole⟩
  · rintro ⟨⟨weight, hmem, rfl⟩, hrole⟩
    exact ⟨weight, ⟨hmem, hrole⟩, rfl⟩

/-- The names of all decoder layers, given those of one. -/
def decoderNames (numHiddenLayers : Nat) (layer : Nat → List Path) : List String :=
  (List.range numHiddenLayers).flatMap fun layerIdx => (layer layerIdx).map (layerName layerIdx)

theorem mem_decoderNames {numHiddenLayers : Nat} {layer : Nat → List Path} {name : String} :
    name ∈ decoderNames numHiddenLayers layer ↔
      ∃ layerIdx < numHiddenLayers, ∃ path ∈ layer layerIdx, layerName layerIdx path = name := by
  simp [decoderNames, List.mem_flatMap]

/-- One stage of a layer, classified by what follows its name. -/
theorem mem_under_iff {roles : String → List AFDRole} {pathRoles : Path → List AFDRole} {role : AFDRole}
    {layerIdx : Nat} {stage : String} {full built : List Path} {path : Path}
    (hroles : ∀ rest ∈ full, roles (layerName layerIdx (stage :: rest)) = pathRoles rest)
    (h : ∀ rest, rest ∈ built ↔ rest ∈ full ∧ role ∈ pathRoles rest) :
    path ∈ under stage built ↔ path ∈ under stage full ∧ role ∈ roles (layerName layerIdx path) := by
  simp only [mem_under]
  constructor
  · rintro ⟨rest, hrest, rfl⟩
    obtain ⟨hfull, hrole⟩ := (h rest).1 hrest
    exact ⟨⟨rest, hfull, rfl⟩, (hroles rest hfull).symm ▸ hrole⟩
  · rintro ⟨⟨rest, hfull, rfl⟩, hrole⟩
    exact ⟨rest, (h rest).2 ⟨hfull, hroles rest hfull ▸ hrole⟩, rfl⟩

/-- Layers that agree path by path with the classification agree as a whole. -/
theorem kept_iff_built {roles : String → List AFDRole} {role : AFDRole} {numHiddenLayers : Nat}
    {full built : Nat → List Path}
    (h : ∀ layerIdx < numHiddenLayers, ∀ path, path ∈ built layerIdx ↔ path ∈ full layerIdx ∧
      role ∈ roles (layerName layerIdx path)) (name : String) :
    name ∈ decoderNames numHiddenLayers full ∧ role ∈ roles name ↔
      name ∈ decoderNames numHiddenLayers built := by
  simp only [mem_decoderNames]
  constructor
  · rintro ⟨⟨layerIdx, hlt, path, hpath, rfl⟩, hrole⟩
    exact ⟨layerIdx, hlt, path, (h layerIdx hlt path).2 ⟨hpath, hrole⟩, rfl⟩
  · rintro ⟨layerIdx, hlt, path, hpath, rfl⟩
    obtain ⟨hfull, hrole⟩ := (h layerIdx hlt path).1 hpath
    exact ⟨⟨layerIdx, hlt, path, hfull, rfl⟩, hrole⟩

/-- How the decoder weights `full` of a checkpoint are split: every one is kept
by some role, and a role keeps those it has built parameters for. -/
structure Splits (full : List String) (kept built : AFDRole → List String) : Prop where
  covered : ∀ name ∈ full, ∃ role, name ∈ kept role
  kept_iff : ∀ role name, name ∈ full ∧ name ∈ kept role ↔ name ∈ built role

/-- The weights of a checkpoint that holds all decoder weights are split. -/
theorem splits_of_layers {T : Type} {roles : String → List AFDRole} {numHiddenLayers : Nat}
    {full : Nat → List Path} {built : AFDRole → Nat → List Path} {weights : List (String × T)}
    (hroles : ∀ name, roles name ≠ [])
    (hweights : ∀ name ∈ decoderNames numHiddenLayers full, name ∈ weights.map Prod.fst)
    (h : ∀ role, ∀ layerIdx < numHiddenLayers, ∀ path, path ∈ built role layerIdx ↔
      path ∈ full layerIdx ∧ role ∈ roles (layerName layerIdx path)) :
    Splits (decoderNames numHiddenLayers full)
      (fun role => (iterRoleWeights roles role weights).map Prod.fst)
      (fun role => decoderNames numHiddenLayers (built role)) where
  covered := by
    intro name hname
    obtain ⟨role, hrole⟩ := List.exists_mem_of_ne_nil _ (hroles name)
    exact ⟨role, mem_iterRoleWeights.2 ⟨hweights name hname, hrole⟩⟩
  kept_iff := by
    intro role name
    rw [← kept_iff_built (h role), mem_iterRoleWeights]
    constructor
    · rintro ⟨hfull, -, hrole⟩
      exact ⟨hfull, hrole⟩
    · rintro ⟨hfull, hrole⟩
      exact ⟨hfull, hweights name hfull, hrole⟩

/-! ## DeepSeek -/

namespace DeepseekV2

/-- What the adapter reads of a DeepSeek config. `n_shared_experts` is an
integer, as its config class validates; `None` occurs only in the private copy
an FFN constructor makes. -/
structure DeepseekConfig where
  nRoutedExperts : Option Nat
  firstKDenseReplace : Nat
  /-- `none` where the attribute is missing. -/
  moeLayerFreq : Option Nat
  moeLayerFreq_pos : ∀ freq ∈ moeLayerFreq, 0 < freq
  nSharedExperts : Nat
  moeIntermediateSize : Nat
  intermediateSize : Nat
  topkMethod : Option String

/-- `_is_moe_layer` of the loader. -/
def DeepseekConfig.isMoeLayer (config : DeepseekConfig) (layerIdx : Int) : Bool :=
  let moeLayerFreq : Int := config.moeLayerFreq.getD 1
  config.nRoutedExperts.isSome && decide (layerIdx ≥ config.firstKDenseReplace) && decide
    (layerIdx % moeLayerFreq = 0)

/-- `is_moe_layer` of the decoder layer built under `modulePrefix`. -/
def DeepseekConfig.constructorIsMoeLayer (config : DeepseekConfig) (modulePrefix : String) :
    Option Bool := do
  let moeLayerFreq : Int := config.moeLayerFreq.getD 1
  let layerIdx ← prefixLayerIdx modulePrefix
  return config.nRoutedExperts.isSome && decide (layerIdx ≥ config.firstKDenseReplace) &&
    decide (layerIdx % moeLayerFreq = 0)

/-- The attributes of an `hf_config` object that the NPU FFN runner looks up,
`none` where one is missing. -/
structure HfConfig where
  nRoutedExperts : Option (Option Nat)
  firstKDenseReplace : Option Nat
  moeLayerFreq : Option Nat

/-- `_is_moe_layer` of the NPU FFN runner. -/
def HfConfig.isMoeLayer (hfConfig : HfConfig) (layerIdx : Int) : Bool :=
  let moeLayerFreq : Int := hfConfig.moeLayerFreq.getD 1
  let firstMoeLayer : Int := hfConfig.firstKDenseReplace.getD 0
  (hfConfig.nRoutedExperts.getD none).isSome && decide (layerIdx ≥ firstMoeLayer) &&
    decide (layerIdx % moeLayerFreq = 0)

/-- A DeepSeek config as the runner sees it. -/
def DeepseekConfig.hfConfig (config : DeepseekConfig) : HfConfig :=
  ⟨some config.nRoutedExperts, some config.firstKDenseReplace, config.moeLayerFreq⟩

theorem DeepseekConfig.constructorIsMoeLayer_eq (config : DeepseekConfig) (layerIdx : Nat) :
    config.constructorIsMoeLayer (layerPrefix layerIdx) = some (config.isMoeLayer layerIdx) := by
  simp [constructorIsMoeLayer, isMoeLayer, prefixLayerIdx_layerPrefix]

theorem DeepseekConfig.hfConfig_isMoeLayer (config : DeepseekConfig) (layerIdx : Int) :
    config.hfConfig.isMoeLayer layerIdx = config.isMoeLayer layerIdx := by
  simp [HfConfig.isMoeLayer, isMoeLayer, hfConfig]

/-- `get_experts_layer_indices`: the layers whose `is_moe_layer` is set. -/
def DeepseekConfig.getExpertsLayerIndices (config : DeepseekConfig) (numHiddenLayers : Nat) : List Nat :=
  (List.range numHiddenLayers).filter fun layerIdx =>
    config.constructorIsMoeLayer (layerPrefix layerIdx) = some true

/-- The weights vLLM's modules are loaded from, by layer where they may differ
between layers. A zero-width MLP holds no weight. -/
structure DeepseekNative where
  selfAttn : Nat → List Path
  rmsNorm : List Path
  /-- An MLP of a layer, by its intermediate size. -/
  deepseekV2Mlp : Nat → Nat → List Path
  deepseekV2Mlp_zero : ∀ layerIdx, deepseekV2Mlp layerIdx 0 = []
  gateLinear : List Path
  experts : Nat → List Path
  selfAttn_dotless : ∀ layerIdx, DotlessPaths (selfAttn layerIdx)
  rmsNorm_dotless : DotlessPaths rmsNorm
  deepseekV2Mlp_dotless : ∀ layerIdx size, DotlessPaths (deepseekV2Mlp layerIdx size)
  gateLinear_dotless : DotlessPaths gateLinear
  experts_dotless : ∀ layerIdx, DotlessPaths (experts layerIdx)

variable (native : DeepseekNative) (config : DeepseekConfig) (settings : Settings)

/-- A gate, with its bias where the config asks for one. -/
def gate : List Path :=
  native.gateLinear ++ if config.topkMethod = some "noaux_tc" then [["e_score_correction_bias"]] else []

/-- `native.DeepseekV2MoE`, whose `None` omits the shared experts. -/
def deepseekV2Moe (nSharedExperts : Option Nat) (layerIdx : Nat) : List Path :=
  under "gate" (gate native config) ++ under "experts" (native.experts layerIdx) ++
    under "shared_experts" (match nSharedExperts with
      | none => []
      | some n => native.deepseekV2Mlp layerIdx (config.moeIntermediateSize * n))

/-- `native.DeepseekV2DecoderLayer`: what the checkpoint holds of a layer. -/
def nativeDecoderLayer (layerIdx : Nat) : List Path :=
  under "self_attn" (native.selfAttn layerIdx) ++
  under "mlp" (if config.isMoeLayer layerIdx then
    deepseekV2Moe native config (some config.nSharedExperts) layerIdx
    else native.deepseekV2Mlp layerIdx config.intermediateSize) ++
  under "input_layernorm" native.rmsNorm ++ under "post_attention_layernorm" native.rmsNorm

/-- `native.PPMissingLayer`. -/
def ppMissingLayer : List Path := []

/-- `RemoteFFNProxy`: no parameter unless a model sets `gate`. -/
def remoteFfnProxy : List Path := []

/-- `GateOnlyRemoteMoE`. -/
def gateOnlyRemoteMoe (layerIdx : Nat) : List Path :=
  under "shared_experts" (if config.nSharedExperts ≠ 0 ∧ settings.connector = .camAsync then
    native.deepseekV2Mlp layerIdx (config.moeIntermediateSize * config.nSharedExperts) else []) ++
  under "gate" (gate native config)

/-- `AFDDeepseekV2RemoteExpertsMoE`: its experts are a parameter-free proxy. -/
def remoteExpertsMoe (computeGateOnAttention : Bool) : List Path :=
  (if computeGateOnAttention then under "gate" (gate native config) else []) ++
    under "experts" remoteFfnProxy

/-- `AFDDeepseekV2RoutedExpertsMoE`. -/
def routedExpertsMoe (layerIdx : Nat) : List Path :=
  remoteExpertsMoe native config true ++
  under "shared_experts" (if config.nSharedExperts ≠ 0 then
    native.deepseekV2Mlp layerIdx (config.moeIntermediateSize * config.nSharedExperts) else [])

/-- `_ATTENTION_SHARED_EXPERTS_CONNECTORS`. -/
def attentionSharedExpertsConnectors : List ConnectorName := .camAsync :: deepEPM2NConnectors

/-- `self.mlp` of an Attention decoder layer. -/
def attentionMlp (isMoeLayer : Bool) (layerIdx : Nat) : List Path :=
  let usesRemoteExperts := settings.deviceType = .cuda ∧ isMoeLayer
  if usesRemoteExperts ∧ settings.connector ∈ deepEPM2NConnectors then
    routedExpertsMoe native config layerIdx
  else if usesRemoteExperts then remoteExpertsMoe native config settings.computeGateOnAttention
  else if settings.computeGateOnAttention ∧ isMoeLayer then
    gateOnlyRemoteMoe native config settings layerIdx
  else if settings.computeGateOnAttention then native.deepseekV2Mlp layerIdx config.intermediateSize
  else remoteFfnProxy

/-- `self.mlp` of an FFN decoder layer. -/
def ffnMlp (isMoeLayer : Bool) (layerIdx : Nat) : List Path :=
  if settings.computeGateOnAttention ∧ ¬ isMoeLayer then ppMissingLayer
  else if isMoeLayer then
    let nSharedExperts :=
      if settings.connector ∈ attentionSharedExpertsConnectors then none else some config.nSharedExperts
    deepseekV2Moe native config nSharedExperts layerIdx
  else native.deepseekV2Mlp layerIdx config.intermediateSize

/-- `AFDDeepseekV2DecoderLayer.__init__` under the prefix of a layer. -/
def decoderLayer (role : AFDRole) (layerIdx : Nat) : List Path :=
  let isMoeLayer := (config.constructorIsMoeLayer (layerPrefix layerIdx)).getD false
  (match role with
    | .attention => under "self_attn" (native.selfAttn layerIdx) ++
        under "mlp" (attentionMlp native config settings isMoeLayer layerIdx)
    | .ffn =>
      under "self_attn" ppMissingLayer ++
        under "mlp" (ffnMlp native config settings isMoeLayer layerIdx)) ++
  under "input_layernorm" native.rmsNorm ++ under "post_attention_layernorm" native.rmsNorm

/-- `_checkpoint_weight_roles` of a decoder weight. -/
def layerPathRoles (computeGateOnAttention attentionSharedExperts : Bool) (layerIdx : Int) (stage : String)
    (remainder : Path) : List AFDRole :=
  if stage = "self_attn" then attentionRole
  else if stage ≠ "mlp" then bothRoles
  else if ¬ config.isMoeLayer layerIdx then (if computeGateOnAttention then attentionRole else ffnRole)
  else if remainder.head? = some "shared_experts" ∧ attentionSharedExperts then attentionRole
  else if remainder.head? = some "gate" ∧ computeGateOnAttention then bothRoles
  else ffnRole

/-- `_checkpoint_weight_roles`. -/
def checkpointWeightRoles (computeGateOnAttention attentionSharedExperts : Bool) (name : String) :
    List AFDRole :=
  match weightLayerPath name with
  | none => bothRoles
  | some (layerIdx, stage, remainder) =>
    layerPathRoles config computeGateOnAttention attentionSharedExperts layerIdx stage remainder

/-- The filter of `AFDDeepseekV2ForCausalLM.load_weights`. -/
def loadWeights {T : Type} (role : AFDRole) (weights : List (String × T)) : List (String × T) :=
  iterRoleWeights (checkpointWeightRoles config settings.computeGateOnAttention
    (settings.connector ∈ attentionSharedExpertsConnectors)) role weights

/-! ### Loading agrees with construction -/

variable {native config settings}

theorem checkpointWeightRoles_layerName (computeGateOnAttention attentionSharedExperts : Bool)
    (layerIdx : Nat) {stage : String} {remainder : Path}
    (h : ∀ part ∈ stage :: remainder, Dotless part) :
    checkpointWeightRoles config computeGateOnAttention attentionSharedExperts
      (layerName layerIdx (stage :: remainder)) =
      layerPathRoles config computeGateOnAttention attentionSharedExperts layerIdx stage remainder := by
  rw [checkpointWeightRoles, weightLayerPath_layerName layerIdx h]

theorem gate_dotless : DotlessPaths (gate native config) := by
  refine native.gateLinear_dotless.append ?_
  split
  · simp [DotlessPaths, Dotless]
  · exact .nil

/-- `self.mlp` of a native layer. -/
def nativeMlp (native : DeepseekNative) (config : DeepseekConfig) (layerIdx : Nat) : List Path :=
  if config.isMoeLayer layerIdx then deepseekV2Moe native config (some config.nSharedExperts) layerIdx
  else native.deepseekV2Mlp layerIdx config.intermediateSize

theorem nativeMlp_dotless (layerIdx : Nat) : DotlessPaths (nativeMlp native config layerIdx) := by
  rw [nativeMlp]
  split
  · refine ((gate_dotless.under ?_).append ((native.experts_dotless layerIdx).under ?_)).append
      ((native.deepseekV2Mlp_dotless layerIdx _).under ?_)
    all_goals simp [Dotless]
  · exact native.deepseekV2Mlp_dotless layerIdx _

/-- An MLP of no width, built or left out. -/
theorem mlp_of_shared (layerIdx : Nat) :
    (if config.nSharedExperts ≠ 0 then
      native.deepseekV2Mlp layerIdx (config.moeIntermediateSize * config.nSharedExperts)
      else []) = native.deepseekV2Mlp layerIdx (config.moeIntermediateSize * config.nSharedExperts) := by
  split
  · rfl
  · next h =>
    rw [not_not.1 h, Nat.mul_zero, native.deepseekV2Mlp_zero]

theorem remoteExpertsMoe_eq (computeGateOnAttention : Bool) :
    remoteExpertsMoe native config computeGateOnAttention =
      if computeGateOnAttention then under "gate" (gate native config) else [] := by
  simp [remoteExpertsMoe, remoteFfnProxy, under]

theorem routedExpertsMoe_eq (layerIdx : Nat) :
    routedExpertsMoe native config layerIdx = under "gate" (gate native config) ++
      under "shared_experts"
        (native.deepseekV2Mlp layerIdx (config.moeIntermediateSize * config.nSharedExperts)) := by
  rw [routedExpertsMoe, remoteExpertsMoe_eq, mlp_of_shared]
  rfl

theorem gateOnlyRemoteMoe_eq (hc : settings.connector = .camAsync) (layerIdx : Nat) :
    gateOnlyRemoteMoe native config settings layerIdx =
      under "shared_experts"
        (native.deepseekV2Mlp layerIdx (config.moeIntermediateSize * config.nSharedExperts)) ++
        under "gate" (gate native config) := by
  simp only [gateOnlyRemoteMoe, hc, and_true, mlp_of_shared]

/-- The weights of a native MoE block that a role is given, submodule by
submodule. -/
theorem mem_moe_and_role {role : AFDRole} {gateOnAttention sharedOnAttention : Bool} {layerIdx : Nat}
    {path : Path} (hmoe : config.isMoeLayer layerIdx = true) (nSharedExperts : Nat) :
    path ∈ deepseekV2Moe native config (some nSharedExperts) layerIdx ∧
        role ∈ layerPathRoles config gateOnAttention sharedOnAttention layerIdx "mlp" path ↔
      (path ∈ under "gate" (gate native config) ∧ role ∈ if gateOnAttention then bothRoles else ffnRole) ∨
      (path ∈ under "experts" (native.experts layerIdx) ∧ role ∈ ffnRole) ∨
      (path ∈ under "shared_experts"
        (native.deepseekV2Mlp layerIdx (config.moeIntermediateSize * nSharedExperts)) ∧
        role ∈ if sharedOnAttention then attentionRole else ffnRole) := by
  simp only [deepseekV2Moe, List.mem_append, or_and_right, or_assoc]
  refine or_congr ?_ (or_congr ?_ ?_)
  all_goals
    refine and_congr_right fun hpath => ?_
    obtain ⟨rest, -, rfl⟩ := mem_under.1 hpath
    simp [layerPathRoles, hmoe]

/-- The weights of a dense layer's MLP go to one role. -/
theorem mem_layerPathRoles_dense {role : AFDRole} {gateOnAttention sharedOnAttention : Bool}
    {layerIdx : Nat} {path : Path} (hdense : config.isMoeLayer layerIdx = false) :
    role ∈ layerPathRoles config gateOnAttention sharedOnAttention layerIdx "mlp" path ↔
      role = if gateOnAttention then .attention else .ffn := by
  cases gateOnAttention <;> simp [layerPathRoles, hdense, attentionRole, ffnRole]

theorem mem_attentionMlp (h : settings.validate = .ok ()) (layerIdx : Nat) (path : Path) :
    path ∈ attentionMlp native config settings (config.isMoeLayer layerIdx) layerIdx ↔
      path ∈ nativeMlp native config layerIdx ∧
        .attention ∈ layerPathRoles config settings.computeGateOnAttention
          (settings.connector ∈ attentionSharedExpertsConnectors) layerIdx "mlp" path := by
  rw [nativeMlp]
  cases hmoe : config.isMoeLayer layerIdx with
  | true =>
    simp only [if_true, mem_moe_and_role hmoe]
    rcases Settings.validate_cases h with ⟨hd, hc⟩ | ⟨hd, hc, hg⟩ | ⟨hd, hc, hg⟩ | ⟨hd, hc, hg⟩
    · cases hg : settings.computeGateOnAttention
      all_goals simp [attentionMlp, remoteExpertsMoe_eq, hd, hc, hg, attentionSharedExpertsConnectors,
        deepEPM2NConnectors, bothRoles, ffnRole]
    · simp [attentionMlp, routedExpertsMoe_eq, hd, hc, hg, attentionSharedExpertsConnectors,
        deepEPM2NConnectors, bothRoles, ffnRole, attentionRole]
    · simp [attentionMlp, remoteFfnProxy, hd, hc, hg, attentionSharedExpertsConnectors,
        deepEPM2NConnectors, ffnRole]
    · simp [attentionMlp, gateOnlyRemoteMoe_eq hc, hd, hc, hg, attentionSharedExpertsConnectors,
        bothRoles, ffnRole, attentionRole, or_comm]
  | false =>
    simp only [Bool.false_eq_true, if_false, mem_layerPathRoles_dense hmoe]
    cases hg : settings.computeGateOnAttention <;> simp [attentionMlp, remoteFfnProxy, hg]

theorem mem_ffnMlp (layerIdx : Nat) (path : Path) :
    path ∈ ffnMlp native config settings (config.isMoeLayer layerIdx) layerIdx ↔
      path ∈ nativeMlp native config layerIdx ∧
        .ffn ∈ layerPathRoles config settings.computeGateOnAttention
          (settings.connector ∈ attentionSharedExpertsConnectors) layerIdx "mlp" path := by
  rw [nativeMlp]
  cases hmoe : config.isMoeLayer layerIdx with
  | true =>
    simp only [if_true, mem_moe_and_role hmoe]
    by_cases hshared : settings.connector ∈ attentionSharedExpertsConnectors
    · cases hg : settings.computeGateOnAttention
      all_goals
        simp [ffnMlp, deepseekV2Moe, hshared, hg, bothRoles, ffnRole, attentionRole, under]
    · cases hg : settings.computeGateOnAttention
      all_goals
        simp [ffnMlp, deepseekV2Moe, hshared, hg, bothRoles, ffnRole]
  | false =>
    simp only [Bool.false_eq_true, if_false, mem_layerPathRoles_dense hmoe]
    cases hg : settings.computeGateOnAttention <;> simp [ffnMlp, ppMissingLayer, hg]

theorem mem_decoderLayer (h : settings.validate = .ok ()) (role : AFDRole) (layerIdx : Nat) (path : Path) :
    path ∈ decoderLayer native config settings role layerIdx ↔
      path ∈ nativeDecoderLayer native config layerIdx ∧
        role ∈ checkpointWeightRoles config settings.computeGateOnAttention
          (settings.connector ∈ attentionSharedExpertsConnectors) (layerName layerIdx path) := by
  -- the classification reads the path, once the name is split
  have hroles : ∀ (stage : String) (full : List Path), Dotless stage → DotlessPaths full → ∀ rest ∈ full,
      checkpointWeightRoles config settings.computeGateOnAttention
          (settings.connector ∈ attentionSharedExpertsConnectors) (layerName layerIdx (stage :: rest)) =
        layerPathRoles config settings.computeGateOnAttention
          (settings.connector ∈ attentionSharedExpertsConnectors) layerIdx stage rest := by
    intro stage full hstage hfull rest hrest
    exact checkpointWeightRoles_layerName _ _ layerIdx
      (hfull.under hstage _ (mem_under.2 ⟨rest, hrest, rfl⟩))
  have hattn := hroles "self_attn" _ (by simp [Dotless]) (native.selfAttn_dotless layerIdx)
  have hmlp := hroles "mlp" (nativeMlp native config layerIdx) (by simp [Dotless])
    (nativeMlp_dotless layerIdx)
  have hnorm := hroles "input_layernorm" _ (by simp [Dotless]) native.rmsNorm_dotless
  have hpost := hroles "post_attention_layernorm" _ (by simp [Dotless]) native.rmsNorm_dotless
  have hboth : role ∈ bothRoles := by cases role <;> simp [bothRoles]
  simp only [decoderLayer, DeepseekConfig.constructorIsMoeLayer_eq, Option.getD_some,
    nativeDecoderLayer, List.mem_append, or_and_right]
  refine or_congr (or_congr ?_ ?_) ?_
  · cases role with
    | attention =>
      rw [List.mem_append]
      exact or_congr (mem_under_iff hattn fun rest => by simp [layerPathRoles, attentionRole])
        (mem_under_iff hmlp (mem_attentionMlp h layerIdx))
    | ffn =>
      rw [List.mem_append]
      exact or_congr
        (mem_under_iff hattn fun rest => by simp [layerPathRoles, attentionRole, ppMissingLayer])
        (mem_under_iff hmlp (mem_ffnMlp layerIdx))
  · exact mem_under_iff hnorm fun rest => by simp [layerPathRoles, hboth]
  · exact mem_under_iff hpost fun rest => by simp [layerPathRoles, hboth]

theorem checkpointWeightRoles_ne_nil (gateOnAttention sharedOnAttention : Bool) (name : String) :
    checkpointWeightRoles config gateOnAttention sharedOnAttention name ≠ [] := by
  rw [checkpointWeightRoles]
  split
  · simp [bothRoles]
  · rw [layerPathRoles]
    repeat' split
    all_goals simp [attentionRole, ffnRole, bothRoles]

/-- What an Attention and an FFN process keep of a DeepSeek checkpoint. -/
theorem loadWeights_splits {T : Type} (h : settings.validate = .ok ()) {numHiddenLayers : Nat}
    {weights : List (String × T)}
    (hweights : ∀ name ∈ decoderNames numHiddenLayers (nativeDecoderLayer native config),
      name ∈ weights.map Prod.fst) :
    Splits (decoderNames numHiddenLayers (nativeDecoderLayer native config))
      (fun role => (loadWeights config settings role weights).map Prod.fst)
      (fun role => decoderNames numHiddenLayers (decoderLayer native config settings role)) :=
  splits_of_layers (fun name => checkpointWeightRoles_ne_nil _ _ name) hweights
    fun role layerIdx _ path => mem_decoderLayer h role layerIdx path

theorem mem_getExpertsLayerIndices {numHiddenLayers layerIdx : Nat} :
    layerIdx ∈ config.getExpertsLayerIndices numHiddenLayers ↔
      layerIdx < numHiddenLayers ∧ config.isMoeLayer layerIdx = true := by
  simp [DeepseekConfig.getExpertsLayerIndices, DeepseekConfig.constructorIsMoeLayer_eq]

end DeepseekV2

end AfdPlugin.Models.RoleWeights
