import AfdPlugin.Models.RoleWeights
/-!
# Which weights a role loads: Qwen3 MoE

The Qwen3 MoE adapter builds and loads less on the FFN role than the DeepSeek
one, and the DeepEP M2N connector gives its Attention role the gate. The last
theorem is the split of both adapters.
-/

namespace AfdPlugin.Models.RoleWeights

namespace Qwen3Moe

/-- What the adapter reads of a Qwen3 MoE config. -/
structure Qwen3MoeConfig where
  mlpOnlyLayers : List Int
  numExperts : Nat
  decoderSparseStep : Nat
  decoderSparseStep_pos : 0 < decoderSparseStep
  /-- 0 where the attribute is missing. -/
  sharedExpertIntermediateSize : Nat
  numHiddenLayers : Nat

/-- `_is_moe_layer`. -/
def Qwen3MoeConfig.isMoeLayer (config : Qwen3MoeConfig) (layerIdx : Int) : Bool :=
  decide (layerIdx ∉ config.mlpOnlyLayers) && decide (config.numExperts > 0) &&
    decide ((layerIdx + 1) % (config.decoderSparseStep : Int) = 0)

/-- The weights vLLM's modules are loaded from, and the layer index it reads
off a module prefix. -/
structure Qwen3Native where
  extractLayerIndex : String → Int
  extractLayerIndex_eq : ∀ layerIdx, extractLayerIndex (layerPrefix layerIdx) = (layerIdx : Int)
  selfAttn : Nat → List Path
  rmsNorm : List Path
  qwen3MoeMlp : Nat → List Path
  gateLinear : Nat → List Path
  experts : Nat → List Path
  sharedExpert : Nat → List Path
  sharedExpertGate : Nat → List Path
  selfAttn_dotless : ∀ layerIdx, DotlessPaths (selfAttn layerIdx)
  rmsNorm_dotless : DotlessPaths rmsNorm
  qwen3MoeMlp_dotless : ∀ layerIdx, DotlessPaths (qwen3MoeMlp layerIdx)
  gateLinear_dotless : ∀ layerIdx, DotlessPaths (gateLinear layerIdx)
  experts_dotless : ∀ layerIdx, DotlessPaths (experts layerIdx)
  sharedExpert_dotless : ∀ layerIdx, DotlessPaths (sharedExpert layerIdx)
  sharedExpertGate_dotless : ∀ layerIdx, DotlessPaths (sharedExpertGate layerIdx)

variable (native : Qwen3Native) (config : Qwen3MoeConfig) (settings : Settings)

/-- `_routes_on_attention`. -/
def routesOnAttention : Bool := settings.connector ∈ deepEPM2NConnectors

/-- `_validate_supported_config`, as far as it reads these settings. -/
def validateSupportedConfig : Except String Unit :=
  if settings.deviceType ≠ .cuda then .error "AFD Qwen3 MoE currently supports CUDA only"
  else if settings.computeGateOnAttention ∧ ¬ routesOnAttention settings then
    .error "AFD Qwen3 MoE requires compute_gate_on_attention=false, except with DeepEPM2NAFDConnector"
  else if routesOnAttention settings ∧
      ¬ (List.range config.numHiddenLayers).all fun layerIdx => config.isMoeLayer layerIdx then
    .error ("AFD Qwen3 MoE with DeepEPM2NAFDConnector requires every layer to be MoE " ++
      "(no mlp_only_layers, decoder_sparse_step=1)")
  else if routesOnAttention settings ∧ config.sharedExpertIntermediateSize > 0 then
    .error ("AFD Qwen3 MoE with DeepEPM2NAFDConnector does not support shared experts " ++
      "(shared_expert_intermediate_size > 0)")
  else .ok ()

theorem validateSupportedConfig_routed (h : validateSupportedConfig config settings = .ok ())
    (hroutes : routesOnAttention settings = true) {layerIdx : Nat}
    (hlt : layerIdx < config.numHiddenLayers) :
    config.isMoeLayer layerIdx = true := by
  simp only [validateSupportedConfig, hroutes] at h
  by_contra hdense
  have hall : (List.range config.numHiddenLayers).all (fun layerIdx => config.isMoeLayer layerIdx) =
      false := by
    rw [List.all_eq_false]
    exact ⟨layerIdx, List.mem_range.2 hlt, hdense⟩
  rw [hall] at h
  split at h <;> simp_all

/-- `get_experts_layer_indices`. -/
def getExpertsLayerIndices : List Nat :=
  (List.range config.numHiddenLayers).filter fun layerIdx => config.isMoeLayer layerIdx

/-- `native.Qwen3MoeSparseMoeBlock`. -/
def qwen3MoeSparseMoeBlock (layerIdx : Nat) : List Path :=
  under "gate" (native.gateLinear layerIdx) ++ under "experts" (native.experts layerIdx) ++
    if config.sharedExpertIntermediateSize > 0 then
      under "shared_expert_gate" (native.sharedExpertGate layerIdx) ++
        under "shared_expert" (native.sharedExpert layerIdx)
    else []

/-- `self.mlp` of a native layer. -/
def nativeMlp (layerIdx : Nat) : List Path :=
  if config.isMoeLayer layerIdx then qwen3MoeSparseMoeBlock native config layerIdx
    else native.qwen3MoeMlp layerIdx

/-- `native.Qwen3MoeDecoderLayer`: what the checkpoint holds of a layer. -/
def nativeDecoderLayer (layerIdx : Nat) : List Path :=
  under "self_attn" (native.selfAttn layerIdx) ++ under "mlp" (nativeMlp native config layerIdx) ++
    under "input_layernorm" native.rmsNorm ++ under "post_attention_layernorm" native.rmsNorm

/-- `is_moe_layer` of the decoder layer built under `modulePrefix`. -/
def constructorIsMoeLayer (modulePrefix : String) : Bool :=
  config.isMoeLayer (native.extractLayerIndex modulePrefix)

/-- `AFDQwen3MoeDecoderLayer.__init__` under the prefix of a layer. -/
def decoderLayer (role : AFDRole) (layerIdx : Nat) : List Path :=
  match role with
  | .attention =>
    -- the proxy holds a gate only where the model sets one
    under "self_attn" (native.selfAttn layerIdx) ++
      under "mlp" (DeepseekV2.remoteFfnProxy ++
        if routesOnAttention settings then under "gate" (native.gateLinear layerIdx) else []) ++
      under "input_layernorm" native.rmsNorm ++ under "post_attention_layernorm" native.rmsNorm
  | .ffn =>
    under "self_attn" DeepseekV2.ppMissingLayer ++
      under "mlp" (if constructorIsMoeLayer native config (layerPrefix layerIdx) then
        qwen3MoeSparseMoeBlock native config layerIdx else native.qwen3MoeMlp layerIdx) ++
      under "input_layernorm" DeepseekV2.ppMissingLayer ++ under "post_attention_layernorm"
        DeepseekV2.ppMissingLayer

/-- `_checkpoint_weight_roles` of a decoder weight. -/
def layerPathRoles (routesOnAttention : Bool) (stage : String) (remainder : Path) : List AFDRole :=
  if stage = "mlp" then
    if remainder.head? = some "gate" ∧ routesOnAttention then bothRoles else ffnRole
  else if stage ∈ ["self_attn", "input_layernorm", "post_attention_layernorm"] then attentionRole
  else bothRoles

/-- `_checkpoint_weight_roles`. -/
def checkpointWeightRoles (routesOnAttention : Bool) (name : String) : List AFDRole :=
  match weightLayerPath name with
  | none => bothRoles
  | some (_, stage, remainder) => layerPathRoles routesOnAttention stage remainder

/-- The filter of `AFDQwen3MoeForCausalLM.load_weights`. -/
def loadWeights {T : Type} (role : AFDRole) (weights : List (String × T)) : List (String × T) :=
  iterRoleWeights (checkpointWeightRoles (routesOnAttention settings)) role weights

/-! ### Loading agrees with construction -/

variable {native config settings}

theorem checkpointWeightRoles_layerName (routesOnAttention : Bool) (layerIdx : Nat) {stage : String}
    {full : List Path} (hstage : Dotless stage) (hfull : DotlessPaths full) {rest : Path}
    (hrest : rest ∈ full) :
    checkpointWeightRoles routesOnAttention (layerName layerIdx (stage :: rest)) =
      layerPathRoles routesOnAttention stage rest := by
  have h : ∀ part ∈ stage :: rest, Dotless part := hfull.under hstage _ (mem_under.2 ⟨rest, hrest, rfl⟩)
  rw [checkpointWeightRoles, weightLayerPath_layerName layerIdx h]

theorem nativeMlp_dotless (layerIdx : Nat) : DotlessPaths (nativeMlp native config layerIdx) := by
  rw [nativeMlp]
  split
  · refine (((native.gateLinear_dotless layerIdx).under ?_).append
      ((native.experts_dotless layerIdx).under ?_)).append ?_
    · simp [Dotless]
    · simp [Dotless]
    · split
      · refine ((native.sharedExpertGate_dotless layerIdx).under ?_).append
          ((native.sharedExpert_dotless layerIdx).under ?_)
        all_goals simp [Dotless]
      · exact .nil
  · exact native.qwen3MoeMlp_dotless layerIdx

/-- Attention keeps the gates it routes with, and nothing else of an MLP. -/
theorem mem_attentionMlp (h : validateSupportedConfig config settings = .ok ()) {layerIdx : Nat}
    (hlt : layerIdx < config.numHiddenLayers) (path : Path) :
    path ∈ DeepseekV2.remoteFfnProxy ++
        (if routesOnAttention settings then under "gate" (native.gateLinear layerIdx) else []) ↔
      path ∈ nativeMlp native config layerIdx ∧
        .attention ∈ layerPathRoles (routesOnAttention settings) "mlp" path := by
  cases hroutes : routesOnAttention settings with
  | false => simp [DeepseekV2.remoteFfnProxy, layerPathRoles, ffnRole]
  | true =>
    have hgate : .attention ∈ layerPathRoles true "mlp" path ↔ path.head? = some "gate" := by
      by_cases hg : path.head? = some "gate" <;> simp [layerPathRoles, hg, bothRoles, ffnRole]
    rw [hgate, nativeMlp, validateSupportedConfig_routed config settings h hroutes hlt]
    simp only [DeepseekV2.remoteFfnProxy, List.nil_append, if_true, qwen3MoeSparseMoeBlock, List.mem_append]
    constructor
    · intro hpath
      obtain ⟨rest, -, rfl⟩ := mem_under.1 hpath
      exact ⟨.inl (.inl hpath), rfl⟩
    · rintro ⟨(hpath | hpath) | hpath, hhead⟩
      · exact hpath
      · obtain ⟨rest, -, rfl⟩ := mem_under.1 hpath
        simp at hhead
      · split at hpath
        · rcases List.mem_append.1 hpath with hpath | hpath
          all_goals
            obtain ⟨rest, -, rfl⟩ := mem_under.1 hpath
            simp at hhead
        · simp at hpath

theorem ffn_mem_mlp (routesOnAttention : Bool) (path : Path) :
    .ffn ∈ layerPathRoles routesOnAttention "mlp" path := by
  rw [layerPathRoles, if_pos rfl]
  split <;> simp [bothRoles, ffnRole]

theorem mem_decoderLayer (h : validateSupportedConfig config settings = .ok ()) (role : AFDRole)
    {layerIdx : Nat} (hlt : layerIdx < config.numHiddenLayers) (path : Path) :
    path ∈ decoderLayer native config settings role layerIdx ↔
      path ∈ nativeDecoderLayer native config layerIdx ∧
        role ∈ checkpointWeightRoles (routesOnAttention settings) (layerName layerIdx path) := by
  have hattn : ∀ rest ∈ native.selfAttn layerIdx, checkpointWeightRoles (routesOnAttention settings)
      (layerName layerIdx ("self_attn" :: rest)) =
          layerPathRoles (routesOnAttention settings) "self_attn" rest :=
    fun rest => checkpointWeightRoles_layerName _ layerIdx (by simp [Dotless])
      (native.selfAttn_dotless layerIdx)
  have hmlp : ∀ rest ∈ nativeMlp native config layerIdx, checkpointWeightRoles (routesOnAttention settings)
      (layerName layerIdx ("mlp" :: rest)) = layerPathRoles (routesOnAttention settings) "mlp" rest :=
    fun rest => checkpointWeightRoles_layerName _ layerIdx (by simp [Dotless]) (nativeMlp_dotless layerIdx)
  have hnorm : ∀ rest ∈ native.rmsNorm, checkpointWeightRoles (routesOnAttention settings)
      (layerName layerIdx ("input_layernorm" :: rest)) =
        layerPathRoles (routesOnAttention settings) "input_layernorm" rest :=
    fun rest => checkpointWeightRoles_layerName _ layerIdx (by simp [Dotless]) native.rmsNorm_dotless
  have hpost : ∀ rest ∈ native.rmsNorm, checkpointWeightRoles (routesOnAttention settings)
      (layerName layerIdx ("post_attention_layernorm" :: rest)) =
        layerPathRoles (routesOnAttention settings) "post_attention_layernorm" rest :=
    fun rest => checkpointWeightRoles_layerName _ layerIdx (by simp [Dotless]) native.rmsNorm_dotless
  cases role with
  | attention =>
    simp only [decoderLayer, nativeDecoderLayer, List.mem_append, or_and_right]
    refine or_congr (or_congr (or_congr ?_ ?_) ?_) ?_
    · exact mem_under_iff hattn fun rest => by simp [layerPathRoles, attentionRole]
    · exact mem_under_iff hmlp (mem_attentionMlp h hlt)
    · exact mem_under_iff hnorm fun rest => by simp [layerPathRoles, attentionRole]
    · exact mem_under_iff hpost fun rest => by simp [layerPathRoles, attentionRole]
  | ffn =>
    simp only [decoderLayer, nativeDecoderLayer, List.mem_append, or_and_right, constructorIsMoeLayer,
      native.extractLayerIndex_eq]
    refine or_congr (or_congr (or_congr ?_ ?_) ?_) ?_
    · exact mem_under_iff hattn
        fun rest => by simp [layerPathRoles, attentionRole, DeepseekV2.ppMissingLayer]
    · exact mem_under_iff hmlp fun rest => by simp [nativeMlp, ffn_mem_mlp]
    · exact mem_under_iff hnorm
        fun rest => by simp [layerPathRoles, attentionRole, DeepseekV2.ppMissingLayer]
    · exact mem_under_iff hpost
        fun rest => by simp [layerPathRoles, attentionRole, DeepseekV2.ppMissingLayer]

theorem checkpointWeightRoles_ne_nil (routesOnAttention : Bool) (name : String) :
    checkpointWeightRoles routesOnAttention name ≠ [] := by
  rw [checkpointWeightRoles]
  split
  · simp [bothRoles]
  · rw [layerPathRoles]
    repeat' split
    all_goals simp [attentionRole, ffnRole, bothRoles]

/-- What an Attention and an FFN process keep of a Qwen3 MoE checkpoint. -/
theorem loadWeights_splits {T : Type} (h : validateSupportedConfig config settings = .ok ())
    {weights : List (String × T)}
    (hweights : ∀ name ∈ decoderNames config.numHiddenLayers (nativeDecoderLayer native config),
      name ∈ weights.map Prod.fst) :
    Splits (decoderNames config.numHiddenLayers (nativeDecoderLayer native config))
      (fun role => (loadWeights settings role weights).map Prod.fst)
      (fun role => decoderNames config.numHiddenLayers (decoderLayer native config settings role)) :=
  splits_of_layers (fun name => checkpointWeightRoles_ne_nil _ name) hweights
    fun role _ hlt path => mem_decoderLayer h role hlt path

theorem mem_getExpertsLayerIndices {layerIdx : Nat} :
    layerIdx ∈ getExpertsLayerIndices config ↔ layerIdx < config.numHiddenLayers ∧
      config.isMoeLayer layerIdx = true := by
  simp [getExpertsLayerIndices]

end Qwen3Moe

/-- Both adapters, in every deployment that passes validation: each decoder
weight is loaded by some role, each role loads exactly the weights it has built
parameters for, and loader, constructor and FFN runner agree on which layers
are MoE. -/
theorem role_weights_split {T : Type} (settings : Settings) (h : settings.validate = .ok ()) :
    (∀ (native : DeepseekV2.DeepseekNative) (config : DeepseekV2.DeepseekConfig) (numHiddenLayers : Nat)
      (weights : List (String × T)),
      (∀ name ∈ decoderNames numHiddenLayers (DeepseekV2.nativeDecoderLayer native config),
        name ∈ weights.map Prod.fst) →
      Splits (decoderNames numHiddenLayers (DeepseekV2.nativeDecoderLayer native config))
        (fun role => (DeepseekV2.loadWeights config settings role weights).map Prod.fst)
        (fun role => decoderNames numHiddenLayers (DeepseekV2.decoderLayer native config settings role)) ∧
      (∀ layerIdx : Nat, config.constructorIsMoeLayer (layerPrefix layerIdx) =
        some (config.isMoeLayer layerIdx)) ∧
      (∀ layerIdx : Int, config.hfConfig.isMoeLayer layerIdx = config.isMoeLayer layerIdx) ∧
      (∀ layerIdx : Nat, layerIdx ∈ config.getExpertsLayerIndices numHiddenLayers ↔
        layerIdx < numHiddenLayers ∧ config.isMoeLayer layerIdx = true)) ∧
    (∀ (native : Qwen3Moe.Qwen3Native) (config : Qwen3Moe.Qwen3MoeConfig) (weights : List (String × T)),
      Qwen3Moe.validateSupportedConfig config settings = .ok () →
      (∀ name ∈ decoderNames config.numHiddenLayers (Qwen3Moe.nativeDecoderLayer native config),
        name ∈ weights.map Prod.fst) →
      Splits (decoderNames config.numHiddenLayers (Qwen3Moe.nativeDecoderLayer native config))
        (fun role => (Qwen3Moe.loadWeights settings role weights).map Prod.fst)
        (fun role => decoderNames config.numHiddenLayers
          (Qwen3Moe.decoderLayer native config settings role)) ∧
      (∀ layerIdx : Nat,
        Qwen3Moe.constructorIsMoeLayer native config (layerPrefix layerIdx) = config.isMoeLayer layerIdx) ∧
      (∀ layerIdx : Nat, layerIdx ∈ Qwen3Moe.getExpertsLayerIndices config ↔
        layerIdx < config.numHiddenLayers ∧ config.isMoeLayer layerIdx = true)) := by
  constructor
  · intro native config numHiddenLayers weights hweights
    exact ⟨DeepseekV2.loadWeights_splits h hweights, config.constructorIsMoeLayer_eq,
      config.hfConfig_isMoeLayer, fun _ => DeepseekV2.mem_getExpertsLayerIndices⟩
  · intro native config weights hconfig hweights
    refine ⟨Qwen3Moe.loadWeights_splits hconfig hweights, ?_, fun _ => Qwen3Moe.mem_getExpertsLayerIndices⟩
    intro layerIdx
    rw [Qwen3Moe.constructorIsMoeLayer, native.extractLayerIndex_eq]

/-- Modules with one weight each. -/
def singleWeight : List Path := [["weight"]]

theorem singleWeight_dotless : DotlessPaths singleWeight := by simp [DotlessPaths, singleWeight, Dotless]

def DeepseekV2.DeepseekNative.single : DeepseekV2.DeepseekNative where
  selfAttn _ := singleWeight
  rmsNorm := singleWeight
  deepseekV2Mlp _ size := if size = 0 then [] else singleWeight
  deepseekV2Mlp_zero _ := rfl
  gateLinear := singleWeight
  experts _ := singleWeight
  selfAttn_dotless _ := singleWeight_dotless
  rmsNorm_dotless := singleWeight_dotless
  deepseekV2Mlp_dotless _ size := by
    split
    · exact .nil
    · exact singleWeight_dotless
  gateLinear_dotless := singleWeight_dotless
  experts_dotless _ := singleWeight_dotless

def Qwen3Moe.Qwen3Native.single : Qwen3Moe.Qwen3Native where
  extractLayerIndex modulePrefix := (prefixLayerIdx modulePrefix).getD 0
  extractLayerIndex_eq layerIdx := by rw [prefixLayerIdx_layerPrefix, Option.getD_some]
  selfAttn _ := singleWeight
  rmsNorm := singleWeight
  qwen3MoeMlp _ := singleWeight
  gateLinear _ := singleWeight
  experts _ := singleWeight
  sharedExpert _ := singleWeight
  sharedExpertGate _ := singleWeight
  selfAttn_dotless _ := singleWeight_dotless
  rmsNorm_dotless := singleWeight_dotless
  qwen3MoeMlp_dotless _ := singleWeight_dotless
  gateLinear_dotless _ := singleWeight_dotless
  experts_dotless _ := singleWeight_dotless
  sharedExpert_dotless _ := singleWeight_dotless
  sharedExpertGate_dotless _ := singleWeight_dotless

/-- DeepEP M2N on CUDA: a DeepSeek model with a dense and a MoE layer, and a
Qwen3 one with two MoE layers. -/
theorem deepEPM2N_split :
    let settings : Settings := ⟨.cuda, .deepEPM2N, true, false⟩
    let deepseek : DeepseekV2.DeepseekConfig := ⟨some 4, 1, none, by simp, 1, 16, 32, some "noaux_tc"⟩
    let deepseekNames := decoderNames 2 (DeepseekV2.nativeDecoderLayer .single deepseek)
    let qwen3 : Qwen3Moe.Qwen3MoeConfig := ⟨[], 4, 1, Nat.one_pos, 0, 2⟩
    let qwen3Names := decoderNames 2 (Qwen3Moe.nativeDecoderLayer .single qwen3)
    Splits deepseekNames
      (fun role => (DeepseekV2.loadWeights deepseek settings role
        (deepseekNames.map fun name => (name, ()))).map Prod.fst)
      (fun role => decoderNames 2 (DeepseekV2.decoderLayer .single deepseek settings role)) ∧
    Splits qwen3Names
      (fun role => (Qwen3Moe.loadWeights settings role (qwen3Names.map fun name => (name, ()))).map
        Prod.fst)
      (fun role => decoderNames 2 (Qwen3Moe.decoderLayer .single qwen3 settings role)) := by
  intro settings deepseek deepseekNames qwen3 qwen3Names
  have hall := role_weights_split (T := Unit) settings rfl
  refine ⟨(hall.1 .single deepseek 2 _ ?_).1, (hall.2 .single qwen3 _ ?_ ?_).1⟩
  · intro name hname
    simpa using hname
  · simp [Qwen3Moe.validateSupportedConfig, Qwen3Moe.routesOnAttention, deepEPM2NConnectors,
      Qwen3Moe.Qwen3MoeConfig.isMoeLayer, settings, qwen3]
  · intro name hname
    simpa using hname

end AfdPlugin.Models.RoleWeights
