import AfdPlugin.Lib.Fallible
import Mathlib.Data.List.Sort
/-!
# The layered executor

One executor holds the quantized expert weights of all MoE layers, a table for each
kind of tensor. A work item names its model layer on the device; the executor turns
this id into a slot of the tables, and the kernels read their tensors at the slot.
-/

namespace AfdPlugin.Layered

/-! ## Tensors -/

inductive Dtype where
  | int8
  | int32
  | int64
  | float32
  | float16
  | bfloat16
  deriving DecidableEq, Repr

structure Tensor (α : Type) where
  shape : List Nat
  dtype : Dtype
  stride : List Nat
  device : String
  values : List α
  deriving DecidableEq, Repr

section Tensor
variable {α : Type}

def Tensor.dim (t : Tensor α) : Nat := t.shape.length

/-- Sizes and strides from the last dimension on; `expected` is the stride of a
contiguous tensor. -/
def contiguousFrom : List (Nat × Nat) → Nat → Bool
  | [], _ => true
  | (size, stride) :: rest, expected =>
    if size = 1 then contiguousFrom rest expected
      else stride == expected && contiguousFrom rest (expected * size)

def Tensor.isContiguous (t : Tensor α) : Bool :=
  t.shape.contains 0 || contiguousFrom (t.shape.zip t.stride).reverse 1

/-- `torch.zeros_like` -/
def Tensor.zerosLike [Zero α] (t : Tensor α) (dtype : Dtype) : Tensor α :=
  { t with dtype := dtype, values := List.replicate t.shape.prod 0 }

end Tensor

/-! ## Layers -/

inductive Quantization where
  | w4a8
  | w8a8
  | other (name : String)
  deriving DecidableEq, Repr

structure LayeredFFNWeights (α : Type) where
  layerIdx : Int
  w13 : Tensor α
  w2 : Tensor α
  w13Scale : Tensor α
  w2Scale : Tensor α
  w13Bias : Option (Tensor α)
  w2Bias : Option (Tensor α)
  perChannel : Bool
  swigluLimit : Rat
  routedScalingFactor : Rat
  outputDtype : Dtype := .bfloat16
  quantization : Quantization := .w4a8

/-- What two layers of one executor share of a tensor. -/
structure TensorSignature where
  shape : List Nat
  dtype : Dtype
  stride : List Nat
  device : String
  deriving DecidableEq, Repr

structure Signature where
  tensors : List (Option TensorSignature)
  perChannel : Bool
  swigluLimit : Rat
  routedScalingFactor : Rat
  outputDtype : Dtype
  quantization : Quantization
  deriving DecidableEq

section Layers
variable {α : Type}

def Tensor.signature (t : Tensor α) : TensorSignature := ⟨t.shape, t.dtype, t.stride, t.device⟩

def LayeredFFNWeights.signature (layer : LayeredFFNWeights α) : Signature :=
  ⟨[some layer.w13, some layer.w2, some layer.w13Scale, some layer.w2Scale, layer.w13Bias, layer.w2Bias].map
      (·.map Tensor.signature),
    layer.perChannel, layer.swigluLimit, layer.routedScalingFactor, layer.outputDtype, layer.quantization⟩

def raiseIf (condition : Prop) [Decidable condition] (message : String) : Except String Unit :=
  if condition then .error message else .ok ()

def LayeredFFNWeights.errorPrefix (layer : LayeredFFNWeights α) : String :=
  s!"layered GMM layer {layer.layerIdx}: "

def INT4_PER_INT32 : Nat := 8

/-- The groups of a scale with three dimensions. -/
def validateGroups (layer : LayeredFFNWeights α) (name : String) (scale : Tensor α) (k : Nat) :
    Except String Unit :=
  match scale.shape with
  | [_, groups, _] =>
    raiseIf (groups = 0 ∨ k % groups ≠ 0 ∨ (layer.perChannel = true ∧ groups ≠ 1))
      (layer.errorPrefix ++ name ++ " has incompatible quantization groups")
  | _ => .ok ()

def validateScale (layer : LayeredFFNWeights α) (experts : Nat) (name : String) (scale : Tensor α)
    (width k : Nat) :
    Except String Unit := do
  let expectedRank := if name = "w13_scale" ∧ layer.perChannel then 2 else 3
  raiseIf (scale.dtype ≠ .int64 ∨ scale.dim ≠ expectedRank ∨ scale.shape.head? ≠ some experts ∨
      scale.shape.getLast? ≠ some width)
    (layer.errorPrefix ++ name ++ " has incompatible shape or encoded INT64 dtype")
  validateGroups layer name scale k

def validateBias (layer : LayeredFFNWeights α) (experts : Nat) (name : String)
    (bias : Option (Tensor α)) (width : Nat) :
    Except String Unit :=
  raiseIf (bias.all (fun bias => decide (bias.dtype ≠ .float32 ∨ bias.shape ≠ [experts, width])) = true)
    (layer.errorPrefix ++ name ++ " requires [E, N] FP32 compensation")

/-- A device in which a tensor of the layer is, if it has the tensor. -/
def LayeredFFNWeights.sharesDevice (layer : LayeredFFNWeights α) (tensors : List (Option (Tensor α))) :
    Bool :=
  tensors.all fun t => t.all fun t => t.device == layer.w13.device

/-- The W4A8 checks of `_validate_layer`. -/
def validateW4a8Layer (layer : LayeredFFNWeights α) : Except String Unit :=
  match layer.w13.shape, layer.w2.shape with
  | [experts, hidden, packedIntermediate], [_, _, _] => do
    let intermediate := packedIntermediate * INT4_PER_INT32 / 2
    raiseIf (layer.w2.shape ≠ [experts, intermediate, hidden / INT4_PER_INT32])
      (layer.errorPrefix ++ "W13/W2 hidden and intermediate dimensions disagree")
    [("w13", layer.w13), ("w2", layer.w2)].forM fun entry =>
      raiseIf (entry.2.dtype ≠ .int32 ∨ entry.2.isContiguous = false)
        (layer.errorPrefix ++ entry.1 ++ " requires contiguous INT32-packed INT4 storage")
    validateScale layer experts "w13_scale" layer.w13Scale (2 * intermediate) hidden
    validateScale layer experts "w2_scale" layer.w2Scale hidden intermediate
    validateBias layer experts "w13_scale_bias" layer.w13Bias (2 * intermediate)
    validateBias layer experts "w2_scale_bias" layer.w2Bias hidden
    raiseIf (layer.sharesDevice [some layer.w2, some layer.w13Scale, some layer.w2Scale, layer.w13Bias,
      layer.w2Bias] = false)
      (layer.errorPrefix ++ "all weights, scales and compensation must share a device")
  | _, _ => .error (layer.errorPrefix ++ "weights must be packed [E, K, N/8] tensors")

/-- `_validate_w8a8_layer` -/
def validateW8a8Layer (layer : LayeredFFNWeights α) : Except String Unit :=
  match layer.w13.shape, layer.w2.shape with
  | [experts, hidden, gateUp], [_, _, _] => do
    raiseIf (gateUp % 2 ≠ 0 ∨ layer.w2.shape ≠ [experts, gateUp / 2, hidden])
      (layer.errorPrefix ++ "W13/W2 hidden and intermediate dimensions disagree")
    raiseIf ([layer.w13, layer.w2].any (fun t => decide (t.dtype ≠ .int8 ∨ t.isContiguous = false)) = true)
      (layer.errorPrefix ++ "W8A8 requires contiguous INT8 weights")
    raiseIf (layer.perChannel = false ∨ layer.w13Scale.dtype ≠ .float32)
      (layer.errorPrefix ++ "W8A8 requires FP32 per-channel W13 scales")
    raiseIf (layer.w13Scale.shape ≠ [experts, gateUp])
      (layer.errorPrefix ++ "W8A8 w13_scale requires [E, 2I]")
    raiseIf (layer.w2Scale.shape ≠ [experts, hidden])
      (layer.errorPrefix ++ "W8A8 w2_scale requires [E, H] scales")
    raiseIf (layer.w2Scale.dtype ≠ .bfloat16 ∨ layer.outputDtype ≠ .bfloat16)
      (layer.errorPrefix ++ "W8A8 requires BF16 W2 scales and output")
    raiseIf (layer.w13Bias.isSome = true ∨ layer.w2Bias.isSome = true)
      (layer.errorPrefix ++ "W8A8 does not use W4A8 compensation")
    raiseIf (layer.sharesDevice [some layer.w2, some layer.w13Scale, some layer.w2Scale] = false)
      (layer.errorPrefix ++ "all weights and scales must share a device")
  | _, _ => .error (layer.errorPrefix ++ "W8A8 weights require [E, K, N] tensors")

/-- `_validate_layer` -/
def validateLayer (layer : LayeredFFNWeights α) : Except String Unit :=
  match layer.quantization with
  | .w8a8 => validateW8a8Layer layer
  | .w4a8 => validateW4a8Layer layer
  | .other _ => .error (layer.errorPrefix ++ "requires W4A8 or W8A8 dynamic quantization")

end Layers

/-! ## The executor -/

structure AsyncCAMLayeredExecutor (α : Type) where
  layerIds : List Int
  w13 : List (Tensor α)
  w2 : List (Tensor α)
  w13Scale : List (Tensor α)
  w2Scale : List (Tensor α)
  quantization : Quantization
  w13Bias : List (Option (Tensor α))
  w2Bias : List (Option (Tensor α))
  /-- The slot of each model layer id, unless the ids are the slots. -/
  layerIdToSlot : Option (List Int)

/-- The explicit mapping: `-1` for an id that is not listed. -/
def slotMapping (layerIds : List Int) : List Int :=
  layerIds.zipIdx.foldl (fun mapping p => mapping.set p.1.toNat p.2)
    (List.replicate ((layerIds.getLastD 0).toNat + 1) (-1))

section Executor
variable {α : Type}

/-- The checks of `__init__` on the sorted layers. -/
def checkLayers (first : LayeredFFNWeights α) (layers : List (LayeredFFNWeights α)) :
    Except String Unit := do
  raiseIf (first.layerIdx < 0 ∨ (layers.map (·.layerIdx)).dedup.length ≠ layers.length)
    "layered GMM requires unique nonnegative model layer IDs"
  raiseIf (layers.any (fun layer => decide (layer.signature ≠ first.signature)) = true)
    "layered GMM requires homogeneous quantized layers"
  layers.forM validateLayer

def buildTables [Zero α] (first : LayeredFFNWeights α) (layers : List (LayeredFFNWeights α)) :
    AsyncCAMLayeredExecutor α :=
  let layerIds := layers.map (·.layerIdx)
  let zeroBias := first.w2Scale.zerosLike .int32
  { layerIds
    w13 := layers.map (·.w13)
    w2 := layers.map (·.w2)
    w13Scale := layers.map (·.w13Scale)
    w2Scale := layers.map (·.w2Scale)
    quantization := first.quantization
    w13Bias := if first.quantization = .w8a8 then [] else layers.map (·.w13Bias)
    -- symmetric W8A8 has no compensation: the layers share one zero tensor
    w2Bias := if first.quantization = .w8a8 then List.replicate layers.length (some zeroBias)
      else layers.map (·.w2Bias)
    layerIdToSlot := if layerIds = (List.range layers.length).map (fun slot : Nat => (slot : Int)) then
      none else some (slotMapping layerIds) }

def sortLayers (layers : List (LayeredFFNWeights α)) : List (LayeredFFNWeights α) :=
  layers.insertionSort fun a b => a.layerIdx ≤ b.layerIdx

/-- `__init__` -/
def AsyncCAMLayeredExecutor.init [Zero α] (layers : List (LayeredFFNWeights α)) :
    Except String (AsyncCAMLayeredExecutor α) :=
  match sortLayers layers with
  | [] => .error "layered GMM requires at least one quantized MoE layer"
  | first :: rest => (checkLayers first (first :: rest)).map fun _ => buildTables first (first :: rest)

/-! ## A call -/

def CAM_LAYER_INDEX : Nat := 2

/-- `index_select` of one dimension. -/
def indexSelect (table : List Int) (index : List Int) : Except String (List Int) :=
  index.mapM fun (i : Int) =>
    if i < 0 then .error "index out of range"
    else match table[i.toNat]? with
      | some entry => .ok entry
      | none => .error "index out of range"

/-- The slot that the kernels get. -/
def AsyncCAMLayeredExecutor.layerIndex (e : AsyncCAMLayeredExecutor α) (batchInfo : List Int) :
    Except String (List Int) :=
  let layerIndex := (batchInfo.drop CAM_LAYER_INDEX).take 1
  match e.layerIdToSlot with
  | some mapping => indexSelect mapping layerIndex
  | none => .ok layerIndex

/-- The loop over the weights that ends both `check_lists`. -/
def checkSizes (allWeight : List (Tensor α)) : Except String Unit :=
  allWeight.zipIdx.forM fun p =>
    raiseIf (some p.1.shape ≠ allWeight.head?.map (·.shape)) s!"all_weight[{p.2}] must match all_weight[0]"

/-- `check_lists` of the first operator; an empty list is an absent matrix. -/
def checkSwigluLists (allWeight allWeightScale : List (Tensor α))
    (allWeightAssistMatrix : List (Option (Tensor α))) (layerIndex : List Int) : Except String Unit :=
  do
  raiseIf (allWeight = [] ∨ allWeightScale = []) "all_weight and all_weight_scale must be non-empty lists"
  raiseIf (allWeightScale.length ≠ allWeight.length)
    s!"all_weight and all_weight_scale must have the same length; got {allWeight.length} and {allWeightScale.length}"
  raiseIf (allWeightAssistMatrix ≠ [] ∧ allWeightAssistMatrix.length ≠ allWeight.length)
    s!"all_weight_assist_matrix must be empty or have the same length as all_weight; got {allWeightAssistMatrix.length} and {allWeight.length}"
  raiseIf (layerIndex.length ≠ 1) "layer_index must be a one-element int64 tensor"
  checkSizes allWeight

/-- `check_lists` of the second one. -/
def checkMatmulLists (allWeight : List (Tensor α)) (allBias : List (Option (Tensor α)))
    (allScale : List (Tensor α)) (layerIndex : List Int) : Except String Unit := do
  raiseIf (allWeight = [] ∨ allBias = [] ∨ allScale = [])
    "x, all_weight, all_bias and all_scale must be non-empty lists"
  raiseIf (allBias.length ≠ allWeight.length ∨ allScale.length ≠ allWeight.length)
    s!"all_weight, all_bias and all_scale must have the same length; got {allWeight.length}, {allBias.length}, {allScale.length}"
  raiseIf (layerIndex.length ≠ 1) "layer_index must be a one-element int64 tensor"
  checkSizes allWeight

/-- `GetLayerTensorAddr`: an index that is out of range reads the first layer. -/
def getLayerTensorAddr {T : Type} (layerIndex : Int) (allTensorLen : Nat) (allTensor : List T) : Option T :=
  let layerIndex := if layerIndex < 0 ∨ (allTensorLen : Int) ≤ layerIndex then 0 else layerIndex
  allTensor[layerIndex.toNat]?

/-- The tensors that the kernels of a call read. -/
structure LayerTensors (α : Type) where
  w13 : Option (Tensor α)
  w13Scale : Option (Tensor α)
  w13Bias : Option (Tensor α)
  w2 : Option (Tensor α)
  w2Bias : Option (Tensor α)
  w2Scale : Option (Tensor α)

/-- `__call__`, up to what the kernels compute. -/
def AsyncCAMLayeredExecutor.call (e : AsyncCAMLayeredExecutor α) (batchInfo : List Int) :
    Except String (LayerTensors α) := do
  let layerIndex ← e.layerIndex batchInfo
  checkSwigluLists e.w13 e.w13Scale e.w13Bias layerIndex
  checkMatmulLists e.w2 e.w2Bias e.w2Scale layerIndex
  let curLayer := layerIndex.headD 0
  return {
    w13 := getLayerTensorAddr curLayer e.w13.length e.w13
    w13Scale := getLayerTensorAddr curLayer e.w13.length e.w13Scale
    w13Bias := (getLayerTensorAddr curLayer e.w13.length e.w13Bias).join
    w2 := getLayerTensorAddr curLayer e.w2.length e.w2
    w2Bias := (getLayerTensorAddr curLayer e.w2.length e.w2Bias).join
    w2Scale := getLayerTensorAddr curLayer e.w2.length e.w2Scale }

end Executor

/-! ## Accepted layers -/

section Accepted
variable {α : Type} {layer first : LayeredFFNWeights α} {layers : List (LayeredFFNWeights α)}

@[simp] theorem raiseIf_eq_ok {condition : Prop} [Decidable condition] {message : String} {u : Unit} :
    raiseIf condition message = .ok u ↔ ¬ condition := by
  unfold raiseIf
  split <;> simp_all

/-- What each mode says about the compensation of a layer. -/
def LayeredFFNWeights.BiasesMatch (layer : LayeredFFNWeights α) : Prop :=
  (layer.quantization = .w4a8 ∧ layer.w13Bias.isSome = true ∧ layer.w2Bias.isSome = true) ∨
    (layer.quantization = .w8a8 ∧ layer.w13Bias = none ∧ layer.w2Bias = none)

theorem validateBias_ok {experts width : Nat} {name : String} {bias : Option (Tensor α)}
    (h : validateBias layer experts name bias width = .ok ()) : bias.isSome = true := by
  cases bias with
  | none => simp [validateBias] at h
  | some bias => rfl

theorem validateLayer_ok (h : validateLayer layer = .ok ()) : layer.BiasesMatch := by
  unfold validateLayer at h
  split at h
  · rename_i hw8a8
    unfold validateW8a8Layer at h
    split at h
    · simp only [Fallible.bind_eq_ok, raiseIf_eq_ok] at h
      obtain ⟨_, _, _, _, _, _, _, _, _, _, _, _, _, hbias, _⟩ := h
      simp only [not_or, Option.not_isSome_iff_eq_none] at hbias
      exact .inr ⟨hw8a8, hbias⟩
    · cases h
  · rename_i hw4a8
    unfold validateW4a8Layer at h
    split at h
    · simp only [Fallible.bind_eq_ok] at h
      obtain ⟨_, _, _, _, _, _, _, _, _, hw13, _, hw2, _⟩ := h
      exact .inl ⟨hw4a8, validateBias_ok hw13, validateBias_ok hw2⟩
    · cases h
  · cases h

/-- What `__init__` has checked of the sorted layers. -/
structure Checked (first : LayeredFFNWeights α) (layers : List (LayeredFFNWeights α)) : Prop where
  nonneg : 0 ≤ first.layerIdx
  unique : (layers.map (·.layerIdx)).Nodup
  homogeneous : ∀ layer ∈ layers, layer.signature = first.signature
  biases : ∀ layer ∈ layers, layer.BiasesMatch

theorem checkLayers_ok (h : checkLayers first layers = .ok ()) : Checked first layers := by
  simp only [checkLayers, Fallible.bind_eq_ok, raiseIf_eq_ok, Fallible.forM_eq_ok] at h
  obtain ⟨_, hids, _, hsignatures, hvalid⟩ := h
  simp only [not_or, Int.not_lt, not_not] at hids
  refine ⟨hids.1, ?_, ?_, fun layer hlayer => validateLayer_ok (hvalid layer hlayer)⟩
  · rw [← List.dedup_eq_self]
    exact (List.dedup_sublist _).eq_of_length (by simpa using hids.2)
  · simpa using hsignatures

end Accepted

/-! ## The mapping -/

section Mapping
variable {ps : List (Int × Nat)} {mapping layerIds : List Int}

theorem getElem?_foldl_set_of_ne {i : Nat} (h : ∀ p ∈ ps, p.1.toNat ≠ i) :
    (ps.foldl (fun mapping p => mapping.set p.1.toNat (p.2 : Int)) mapping)[i]? = mapping[i]? := by
  induction ps generalizing mapping with
  | nil => rfl
  | cons p ps ih =>
    rw [List.foldl_cons, ih fun q hq => h q (List.mem_cons_of_mem p hq)]
    exact List.getElem?_set_ne (h p List.mem_cons_self)

/-- Writes to different places: each place has its own. -/
theorem getElem?_foldl_set (hplaces : (ps.map (·.1.toNat)).Nodup) {p : Int × Nat} (hp : p ∈ ps)
    (hlt : p.1.toNat < mapping.length) :
    (ps.foldl (fun mapping p => mapping.set p.1.toNat (p.2 : Int)) mapping)[p.1.toNat]? =
      some (p.2 : Int) := by
  induction ps generalizing mapping with
  | nil => cases hp
  | cons q ps ih =>
    rw [List.map_cons, List.nodup_cons] at hplaces
    rw [List.foldl_cons]
    rcases List.mem_cons.1 hp with rfl | hp
    · rw [getElem?_foldl_set_of_ne]
      · exact List.getElem?_set_self hlt
      · intro r hr heq
        exact hplaces.1 (List.mem_map.2 ⟨r, hr, heq⟩)
    · exact ih hplaces.2 hp (by rwa [List.length_set])

theorem slotMapping_getElem? (hunique : layerIds.Nodup) (hnonneg : ∀ id ∈ layerIds, 0 ≤ id)
    (hlast : ∀ id ∈ layerIds, id ≤ layerIds.getLastD 0) {slot : Nat} {id : Int}
    (h : layerIds[slot]? = some id) :
    (slotMapping layerIds)[id.toNat]? = some (slot : Int) := by
  have hmem : id ∈ layerIds := List.mem_of_getElem? h
  refine getElem?_foldl_set (p := (id, slot)) ?_ (List.mem_zipIdx_iff_getElem?.2 h) ?_
  · have hplaces : layerIds.zipIdx.map (·.1.toNat) = layerIds.map Int.toNat := by
      conv_rhs => rw [← List.zipIdx_map_fst 0 layerIds, List.map_map]
      rfl
    rw [hplaces]
    refine hunique.map_on fun a ha b hb hab => ?_
    have ha' := hnonneg a ha
    have hb' := hnonneg b hb
    omega
  · have hle := hlast id hmem
    rw [List.length_replicate]
    dsimp only
    omega

end Mapping

/-! ## Slots -/

section Slots
variable {α : Type} {first layer : LayeredFFNWeights α} {layers : List (LayeredFFNWeights α)}

theorem sortLayers_perm (layers : List (LayeredFFNWeights α)) : (sortLayers layers).Perm layers :=
  List.perm_insertionSort _ _

theorem sortLayers_pairwise (layers : List (LayeredFFNWeights α)) :
    (sortLayers layers).Pairwise fun a b => a.layerIdx ≤ b.layerIdx := by
  have : Std.Total fun a b : LayeredFFNWeights α => a.layerIdx ≤ b.layerIdx :=
    ⟨fun a b => le_total a.layerIdx b.layerIdx⟩
  have : IsTrans (LayeredFFNWeights α) fun a b => a.layerIdx ≤ b.layerIdx := ⟨fun _ _ _ => le_trans⟩
  exact List.pairwise_insertionSort _ _

/-- The sorted layers, from the one with the least id on. -/
structure Sorted (first : LayeredFFNWeights α) (layers : List (LayeredFFNWeights α)) :
    Prop extends Checked first layers where
  sorted : (layers.map (·.layerIdx)).Pairwise (· ≤ ·)
  first : layers.head? = some first

/-- What `__init__` accepts. -/
theorem init_ok [Zero α] {e : AsyncCAMLayeredExecutor α} (h : AsyncCAMLayeredExecutor.init layers = .ok e) :
    ∃ first sorted, sorted.Perm layers ∧ Sorted first sorted ∧ e = buildTables first sorted := by
  unfold AsyncCAMLayeredExecutor.init at h
  split at h
  · cases h
  · rename_i first rest heq
    cases hcheck : checkLayers first (first :: rest) with
    | error message =>
      rw [hcheck] at h
      cases h
    | ok u =>
      rw [hcheck] at h
      cases h
      have hsorted := sortLayers_pairwise layers
      rw [heq] at hsorted
      exact ⟨first, first :: rest, heq ▸ sortLayers_perm layers,
        ⟨checkLayers_ok hcheck, List.pairwise_map.2 hsorted, rfl⟩, rfl⟩

variable (h : Sorted first layers)
include h

theorem Sorted.nonneg_all {id : Int} (hid : id ∈ layers.map (·.layerIdx)) : 0 ≤ id := by
  obtain ⟨layer, hlayer, rfl⟩ := List.mem_map.1 hid
  obtain ⟨rest, rfl⟩ := List.head?_eq_some_iff.1 h.first
  have hsorted := h.sorted
  rw [List.map_cons, List.pairwise_cons] at hsorted
  rcases List.mem_cons.1 hlayer with rfl | hrest
  · exact h.nonneg
  · exact h.nonneg.trans (hsorted.1 _ (List.mem_map_of_mem hrest))

theorem Sorted.le_last {id : Int} (hid : id ∈ layers.map (·.layerIdx)) :
    id ≤ (layers.map (·.layerIdx)).getLastD 0 := by
  have hlast := h.sorted.rel_getLast hid
  rwa [List.getLastD_eq_getLast?, List.getLast?_eq_some_getLast (List.ne_nil_of_mem hid)]

/-- The explicit mapping has a layer's slot at its id. -/
theorem Sorted.slotMapping {slot : Nat} (hslot : layers[slot]? = some layer) :
    (slotMapping (layers.map (·.layerIdx)))[layer.layerIdx.toNat]? = some (slot : Int) := by
  refine slotMapping_getElem? h.unique (fun _ => h.nonneg_all) (fun _ => h.le_last) ?_
  rw [List.getElem?_map, hslot]
  rfl

omit h in
theorem layerIndex_eq {batchInfo : List Int} {id : Int} (hid : batchInfo[CAM_LAYER_INDEX]? = some id) :
    (batchInfo.drop CAM_LAYER_INDEX).take 1 = [id] := by
  rw [List.take_one, List.head?_drop, hid]
  rfl

/-- The id of a layer becomes its slot, with the shortcut or with the mapping. -/
theorem Sorted.layerIndex [Zero α] {slot : Nat} (hslot : layers[slot]? = some layer) {batchInfo : List Int}
    (hid : batchInfo[CAM_LAYER_INDEX]? = some layer.layerIdx) :
    (buildTables first layers).layerIndex batchInfo = .ok [(slot : Int)] := by
  have hmapping := h.slotMapping hslot
  have hnonneg := h.nonneg_all (List.mem_map_of_mem (List.mem_of_getElem? hslot))
  unfold AsyncCAMLayeredExecutor.layerIndex
  rw [layerIndex_eq hid]
  unfold buildTables
  dsimp only
  split
  · rename_i mapping heq
    split at heq
    · cases heq
    · cases heq
      simp [indexSelect, hmapping, hnonneg.not_gt]
  · rename_i heq
    split at heq
    · rename_i hids
      -- the ids are `0, 1, …`, so this one is its slot
      have hself := congrArg (·[slot]?) hids
      simp only [List.getElem?_map, hslot, Option.map_some] at hself
      rw [List.getElem?_range (List.getElem?_eq_some_iff.1 hslot).1] at hself
      rw [Option.some.inj hself]
    · cases heq

end Slots

/-! ## What a call reads -/

section Calls
variable {α : Type} [Zero α] {first layer : LayeredFFNWeights α} {layers : List (LayeredFFNWeights α)}

/-- The layer's own tensors. W8A8 has no compensation, and the second operator gets
zeros in its place. -/
def LayeredFFNWeights.tensors (layer : LayeredFFNWeights α) : LayerTensors α where
  w13 := some layer.w13
  w13Scale := some layer.w13Scale
  w13Bias := layer.w13Bias
  w2 := some layer.w2
  w2Bias := if layer.quantization = .w8a8 then some (layer.w2Scale.zerosLike .int32) else layer.w2Bias
  w2Scale := some layer.w2Scale

/-- Slot `slot` of every table holds the layer's tensor. In W8A8, where no layer has
compensation, the first operator has no table for it and the second one a table of zeros. -/
structure HasLayer (e : AsyncCAMLayeredExecutor α) (slot : Nat) (layer : LayeredFFNWeights α) : Prop where
  w13 : e.w13[slot]? = some layer.w13
  w2 : e.w2[slot]? = some layer.w2
  w13Scale : e.w13Scale[slot]? = some layer.w13Scale
  w2Scale : e.w2Scale[slot]? = some layer.w2Scale
  biases : (e.quantization = .w4a8 ∧ e.w13Bias[slot]? = some layer.w13Bias ∧ layer.w13Bias.isSome = true ∧
      e.w2Bias[slot]? = some layer.w2Bias ∧ layer.w2Bias.isSome = true) ∨
    (e.quantization = .w8a8 ∧ layer.w13Bias = none ∧ e.w13Bias = [] ∧ layer.w2Bias = none ∧
      e.w2Bias[slot]? = some (some (layer.w2Scale.zerosLike .int32)))

omit [Zero α] in
/-- Layers of one signature have the same quantization and shapes. -/
theorem signature_eq (h : layer.signature = first.signature) :
    layer.quantization = first.quantization ∧ layer.w13.shape = first.w13.shape ∧
      layer.w2.shape = first.w2.shape ∧
      layer.w2Scale.signature = first.w2Scale.signature := by
  simp only [LayeredFFNWeights.signature, Signature.mk.injEq, List.map_cons, List.cons.injEq,
    Option.map_some, Option.some.injEq] at h
  obtain ⟨⟨hw13, hw2, -, hw2Scale, -⟩, -, -, -, -, hquantization⟩ := h
  exact ⟨hquantization, congrArg TensorSignature.shape hw13, congrArg TensorSignature.shape hw2, hw2Scale⟩

theorem zerosLike_congr {t t' : Tensor α} (h : t.signature = t'.signature) (dtype : Dtype) :
    t.zerosLike dtype = t'.zerosLike dtype := by
  simp only [Tensor.signature, TensorSignature.mk.injEq] at h
  simp [Tensor.zerosLike, h]

theorem Sorted.hasLayer (h : Sorted first layers) {slot : Nat} (hslot : layers[slot]? = some layer) :
    HasLayer (buildTables first layers) slot layer := by
  have hmem := List.mem_of_getElem? hslot
  obtain ⟨hquantization, -, -, hw2Scale⟩ := signature_eq (h.homogeneous layer hmem)
  refine ⟨?_, ?_, ?_, ?_, ?_⟩
  · simp [buildTables, hslot]
  · simp [buildTables, hslot]
  · simp [buildTables, hslot]
  · simp [buildTables, hslot]
  · rcases h.biases layer hmem with ⟨hw4a8, hw13, hw2⟩ | ⟨hw8a8, hw13, hw2⟩
    · rw [hw4a8] at hquantization
      simp [buildTables, ← hquantization, hslot, hw13, hw2]
    · rw [hw8a8] at hquantization
      have hlt := (List.getElem?_eq_some_iff.1 hslot).1
      simp [buildTables, ← hquantization, hw13, hw2, hlt, zerosLike_congr hw2Scale]

omit [Zero α] in
theorem getLayerTensorAddr_eq {T : Type} {table : List T} {slot len : Nat} {t : T} (hlt : slot < len)
    (h : table[slot]? = some t) : getLayerTensorAddr slot len table = some t := by
  have hin : ¬ ((slot : Int) < 0 ∨ (len : Int) ≤ slot) := by omega
  simp only [getLayerTensorAddr, hin, if_false, Int.toNat_natCast]
  exact h

omit [Zero α] in
theorem getLayerTensorAddr_nil {T : Type} (layerIndex : Int) (len : Nat) :
    getLayerTensorAddr (T := T) layerIndex len [] = none :=
  List.getElem?_nil

omit [Zero α] in
theorem checkSizes_ok {allWeight : List (Tensor α)} {w : Tensor α} (hhead : allWeight.head? = some w)
    (h : ∀ t ∈ allWeight, t.shape = w.shape) : checkSizes allWeight = .ok () := by
  unfold checkSizes
  rw [Fallible.forM_eq_ok]
  intro p hp
  rw [raiseIf_eq_ok, hhead, Option.map_some, not_not, h p.1 (List.fst_mem_of_mem_zipIdx hp)]

/-- The bindings accept the tables. -/
theorem Sorted.checkLists (h : Sorted first layers) (slot : Int) :
    checkSwigluLists (buildTables first layers).w13 (buildTables first layers).w13Scale
      (buildTables first layers).w13Bias
        [slot] = .ok () ∧
      checkMatmulLists (buildTables first layers).w2 (buildTables first layers).w2Bias
        (buildTables first layers).w2Scale
        [slot] = .ok () := by
  have hne : layers ≠ [] := by
    rintro rfl
    cases h.first
  have hsizes (f : LayeredFFNWeights α → Tensor α) (hf : ∀ layer ∈ layers,
      (f layer).shape = (f first).shape) : checkSizes (layers.map f) = .ok () := by
    refine checkSizes_ok (w := f first) (by rw [List.head?_map, h.first, Option.map_some]) fun t ht => ?_
    obtain ⟨layer, hlayer, rfl⟩ := List.mem_map.1 ht
    exact hf layer hlayer
  constructor
  · unfold checkSwigluLists
    simp only [Fallible.bind_eq_ok, raiseIf_eq_ok]
    refine ⟨(), ?_, (), ?_, (), ?_, (), ?_, hsizes _ fun layer hlayer =>
      (signature_eq (h.homogeneous layer hlayer)).2.1⟩
    · simp [buildTables, hne]
    · simp [buildTables]
    · simp only [buildTables]
      split <;> simp
    · simp
  · unfold checkMatmulLists
    simp only [Fallible.bind_eq_ok, raiseIf_eq_ok]
    refine ⟨(), ?_, (), ?_, (), ?_, hsizes _ fun layer hlayer =>
      (signature_eq (h.homogeneous layer hlayer)).2.2.1⟩
    · simp only [buildTables]
      split <;> simp [hne]
    · simp only [buildTables]
      split <;> simp
    · simp

theorem Sorted.call (h : Sorted first layers) {slot : Nat} (hslot : layers[slot]? = some layer)
    {batchInfo : List Int} (hid : batchInfo[CAM_LAYER_INDEX]? = some layer.layerIdx) :
    (buildTables first layers).call batchInfo = .ok layer.tensors := by
  obtain ⟨hswiglu, hmatmul⟩ := h.checkLists (slot : Int)
  have hlayer := h.hasLayer hslot
  have hlt := (List.getElem?_eq_some_iff.1 hslot).1
  have hlength : (buildTables first layers).w13.length = layers.length := List.length_map _
  have hlength' : (buildTables first layers).w2.length = layers.length := List.length_map _
  have hquantization := (signature_eq (h.homogeneous layer (List.mem_of_getElem? hslot))).1
  have htables : (buildTables first layers).quantization = first.quantization := rfl
  unfold AsyncCAMLayeredExecutor.call
  rw [h.layerIndex hslot hid, Fallible.ok_bind, hswiglu, Fallible.ok_bind, hmatmul, Fallible.ok_bind]
  simp only [List.headD_cons, hlength, hlength', getLayerTensorAddr_eq hlt hlayer.w13,
    getLayerTensorAddr_eq hlt hlayer.w13Scale, getLayerTensorAddr_eq hlt hlayer.w2,
    getLayerTensorAddr_eq hlt hlayer.w2Scale]
  rcases hlayer.biases with ⟨hw4a8, hw13, -, hw2, -⟩ | ⟨hw8a8, hnone, hempty, -, hw2⟩
  · rw [htables, ← hquantization] at hw4a8
    simp [getLayerTensorAddr_eq hlt hw13, getLayerTensorAddr_eq hlt hw2, LayeredFFNWeights.tensors, hw4a8]
    rfl
  · rw [htables, ← hquantization] at hw8a8
    simp [getLayerTensorAddr_eq hlt hw2, getLayerTensorAddr_nil, LayeredFFNWeights.tensors, hw8a8,
      hnone, hempty]
    rfl

end Calls

/-! ## Results -/

section Results
variable {α : Type} [Zero α] {layers layers' : List (LayeredFFNWeights α)} {e : AsyncCAMLayeredExecutor α}

/-- For every accepted list, in any order: the id of a listed layer becomes a slot of
the tables at which each of them has the layer's own tensor, and the kernels read
these. The explicit mapping has the same slot, also when the shortcut is taken. -/
theorem layered_executor_slots (h : AsyncCAMLayeredExecutor.init layers = .ok e)
    (layer : LayeredFFNWeights α) (hlayer : layer ∈ layers) (batchInfo : List Int)
    (hid : batchInfo[CAM_LAYER_INDEX]? = some layer.layerIdx) :
    ∃ slot : Nat, slot < layers.length ∧ e.layerIndex batchInfo = .ok [(slot : Int)] ∧
      HasLayer e slot layer ∧
      (slotMapping e.layerIds)[layer.layerIdx.toNat]? = some (slot : Int) ∧
      (∀ mapping, e.layerIdToSlot = some mapping → mapping = slotMapping e.layerIds) ∧
      e.call batchInfo = .ok layer.tensors := by
  obtain ⟨first, sorted, hperm, hsorted, rfl⟩ := init_ok h
  obtain ⟨slot, hslot⟩ := List.mem_iff_getElem?.1 (hperm.mem_iff.2 hlayer)
  refine ⟨slot, ?_, hsorted.layerIndex hslot hid, hsorted.hasLayer hslot, hsorted.slotMapping hslot, ?_,
    hsorted.call hslot hid⟩
  · rw [← hperm.length_eq]
    exact (List.getElem?_eq_some_iff.1 hslot).1
  · intro mapping hmapping
    simp only [buildTables] at hmapping ⊢
    split at hmapping
    · cases hmapping
    · exact (Option.some.inj hmapping).symm

end Results

/-! Two W4A8 layers, listed from the later one, with ids that are not their slots. -/

def sampleTensor (shape : List Nat) (dtype : Dtype) (stride : List Nat) (value : Int) : Tensor Int :=
  ⟨shape, dtype, stride, "npu:0", List.replicate shape.prod value⟩

def sampleLayer (layerIdx : Int) : LayeredFFNWeights Int where
  layerIdx := layerIdx
  w13 := sampleTensor [1, 8, 2] .int32 [16, 2, 1] layerIdx
  w2 := sampleTensor [1, 8, 1] .int32 [8, 1, 1] layerIdx
  w13Scale := sampleTensor [1, 16] .int64 [16, 1] layerIdx
  w2Scale := sampleTensor [1, 1, 8] .int64 [8, 8, 1] layerIdx
  w13Bias := some (sampleTensor [1, 16] .float32 [16, 1] layerIdx)
  w2Bias := some (sampleTensor [1, 8] .float32 [8, 1] layerIdx)
  perChannel := true
  swigluLimit := 0
  routedScalingFactor := 1

theorem layered_executor_slots_five :
    ∃ e, AsyncCAMLayeredExecutor.init [sampleLayer 5, sampleLayer 2] = .ok e ∧
    ∃ slot : Nat, slot < 2 ∧ e.layerIndex [0, 0, 5] = .ok [(slot : Int)] ∧
      e.call [0, 0, 5] = .ok (sampleLayer 5).tensors := by
  have hinit : AsyncCAMLayeredExecutor.init [sampleLayer 5, sampleLayer 2] =
      .ok (buildTables (sampleLayer 2) [sampleLayer 2, sampleLayer 5]) := rfl
  obtain ⟨slot, hlt, hindex, -, -, -, hcall⟩ :=
    layered_executor_slots hinit (sampleLayer 5) List.mem_cons_self [0, 0, 5] rfl
  exact ⟨_, hinit, slot, hlt, hindex, hcall⟩

end AfdPlugin.Layered
