import AfdPlugin.Lib.Fallible
import Mathlib.Tactic
/-!
# Attention TP token layout at the Async CAM boundary

Plain TP replicates the tokens on every TP rank of a group, so each rank
dispatches its own slice of them, padded with zero rows to a multiple of the TP
size. Sequence parallelism leaves every rank its own tokens, which pass through
unchanged.
-/

namespace AfdPlugin.Cam

/-- Mapping between a model tensor and its rank-local CAM payload. -/
structure CAMDispatchLayout where
  parentTokens : Nat
  paddedTokens : Nat
  localTokenSlice : Nat × Nat
  requiresTpAllGather : Bool
  useSequenceParallel : Bool
  tpRank : Nat
  tpSize : Nat
  deriving DecidableEq, Repr

def CAMDispatchLayout.localTokens (layout : CAMDispatchLayout) : Nat :=
  layout.localTokenSlice.2 - layout.localTokenSlice.1

/-- Rank-local tensors passed to one CAM dispatch, a list of rows each. -/
structure CAMDispatchPayload (H W L : Type) (topk : Nat) where
  hiddenStates : List H
  topkWeights : List (Vector W topk)
  topkIds : List (Vector Nat topk)
  routerLogits : Option (List L)
  layout : CAMDispatchLayout
  deriving DecidableEq

def requireMatchingFirstDim {α : Type} (tensor : List α) (expectedTokens : Nat) (tensorName : String) :
    Except String Unit :=
  if tensor.length ≠ expectedTokens then
    .error (s!"Async CAM {tensorName} must match hidden states on axis 0: " ++
      s!"expected_rows={expectedTokens}, actual_rows={tensor.length}")
  else .ok ()

/-- Zero rows up to `outputTokens` rows. -/
def padFirstDim {α : Type} [Zero α] (tensor : List α) (outputTokens : Nat) : Except String (List α) :=
  if tensor.length > outputTokens then
    .error (s!"Async CAM stage tensor exceeds its physical input extent: " ++
      s!"current_tokens={tensor.length}, output_tokens={outputTokens}")
  else if tensor.length = outputTokens then .ok tensor
  else .ok (tensor ++ List.replicate (outputTokens - tensor.length) 0)

/-- `tensor[start:stop]`. -/
def sliceRows {α : Type} (tensor : List α) (slice : Nat × Nat) : List α :=
  (tensor.drop slice.1).take (slice.2 - slice.1)

/-- `_pad_first_dim(tensor, padded_tokens)[local_token_slice]`. -/
def localRows {α : Type} [Zero α] (layout : CAMDispatchLayout) (tensor : List α) :
    Except String (List α) := do
  pure (sliceRows (← padFirstDim tensor layout.paddedTokens) layout.localTokenSlice)

section Prepare
variable {H W L : Type} [Zero H] [Zero W] [Zero L] {topk : Nat}

def prepareCamDispatchPayload (hiddenStates : List H) (topkWeights : List (Vector W topk))
    (topkIds : List (Vector Nat topk)) (routerLogits : Option (List L)) (useSequenceParallel : Bool)
    (tpRank tpSize : Nat) : Except String (CAMDispatchPayload H W L topk) := do
  let parentTokens := hiddenStates.length
  requireMatchingFirstDim topkWeights parentTokens "topk_weights"
  requireMatchingFirstDim topkIds parentTokens "topk_ids"
  routerLogits.forM (requireMatchingFirstDim · parentTokens "router_logits")
  if useSequenceParallel ∨ tpSize ≤ 1 then
    pure ⟨hiddenStates, topkWeights, topkIds, routerLogits,
      ⟨parentTokens, parentTokens, (0, parentTokens), false, useSequenceParallel, tpRank, tpSize⟩⟩
  else
    let localTokens := (parentTokens + tpSize - 1) / tpSize
    let localStart := tpRank * localTokens
    let layout : CAMDispatchLayout :=
      ⟨parentTokens, localTokens * tpSize, (localStart, localStart + localTokens), true, false,
        tpRank, tpSize⟩
    pure ⟨← localRows layout hiddenStates, ← localRows layout topkWeights, ← localRows layout topkIds,
      ← routerLogits.mapM (localRows layout), layout⟩

end Prepare

/-! ## Rows of the slices -/

theorem padFirstDim_ok {α : Type} [Zero α] {tensor : List α} {n : Nat} (h : tensor.length ≤ n) :
    padFirstDim tensor n = .ok (tensor ++ List.replicate (n - tensor.length) 0) := by
  unfold padFirstDim
  rw [if_neg (not_lt.2 h)]
  split
  · rename_i heq
    simp [heq]
  · rfl

theorem flatMap_congr_range {α : Type} {n : Nat} {f f' : Nat → List α} (h : ∀ r < n, f r = f' r) :
    (List.range n).flatMap f = (List.range n).flatMap f' := by
  rw [List.flatMap_def, List.flatMap_def]
  exact congrArg List.flatten (List.map_congr_left fun r hr => h r (List.mem_range.1 hr))

theorem getElem?_sliceRows {α : Type} (tensor : List α) (start c i : Nat) :
    (sliceRows tensor (start, start + c))[i]? = if i < c then tensor[start + i]? else none := by
  simp [sliceRows, List.getElem?_take, List.getElem?_drop]

/-- Consecutive slices of `c` rows are the first rows in order. -/
theorem flatMap_sliceRows {α : Type} (tensor : List α) (c n : Nat) :
    (List.range n).flatMap (fun r => sliceRows tensor (r * c, r * c + c)) = tensor.take (n * c) := by
  induction n with
  | zero => simp
  | succ n ih =>
    rw [List.range_succ, List.flatMap_append, ih, List.flatMap_singleton, sliceRows, Nat.succ_mul,
      List.take_add]
    simp

/-- Rounding up to whole slices adds fewer rows than there are slices. -/
theorem le_slices {n tp : Nat} (htp : 0 < tp) : n ≤ (n + tp - 1) / tp * tp := by
  have hdiv := Nat.div_add_mod (n + tp - 1) tp
  have hmod := Nat.mod_lt (n + tp - 1) htp
  rw [Nat.mul_comm] at hdiv
  omega

end AfdPlugin.Cam
