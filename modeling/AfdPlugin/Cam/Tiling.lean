import AfdPlugin.Lib.Regions
/-!
# Host tilings of the Async CAM operators

Each operator's host function checks the shape against the window size and
passes it to the kernels as tiling data.
-/

namespace AfdPlugin.Cam

def BATCH_INFO_VAL_NUM : Nat := 5
def UB_ALIGN : Nat := 32
def MAX_AIV_NUM : Nat := 48
def LIMIT_MAX_SEQ_LEN_MAX : Nat := 1024 * 256

/-- Shape attributes of the four operators. The tiling data holds each of them
in a `uint32_t`. -/
structure ShapeConfig where
  maxSeqLen : Nat
  batchSize : Nat
  hiddenSize : Nat
  topk : Nat
  moeRankNum : Nat
  attnRankNum : Nat
  routeExpertNumPerMoe : Nat
  worldSize : Nat
  tpSize : Nat
  dynamicQuant : Nat
  hiddenSize_lt : hiddenSize < 2 ^ 32
  topk_lt : topk < 2 ^ 32
  moeRankNum_lt : moeRankNum < 2 ^ 32
  attnRankNum_lt : attnRankNum < 2 ^ 32
  routeExpertNumPerMoe_lt : routeExpertNumPerMoe < 2 ^ 32

/-- The window size from `HCCL_BUFFSIZE` in MiB; `none` when it is not set or
is no number. -/
def getMaxWindowSize (hcclBuffsize : Option Nat) : Nat :=
  min (hcclBuffsize.getD (2 * (200 + 4))) (32 * 1024) * 1024 * 1024

/-- Windows have at most 32 GiB. -/
theorem getMaxWindowSize_spec (hcclBuffsize : Option Nat) :
    getMaxWindowSize hcclBuffsize % 32 = 0 ∧ getMaxWindowSize hcclBuffsize ≤ 2 ^ 35 := by
  unfold getMaxWindowSize
  omega

structure DispatchSendTiling where
  maxBatchSize : Nat
  batchSize : Nat
  hiddenSize : Nat
  topk : Nat
  moeRankNum : Nat
  attnRankNum : Nat
  routeExpertNumPerMoe : Nat
  attnRankId : Nat
  worldSize : Nat
  layerIndex : Nat
  tpSize : Nat
  dynamicQuant : Nat
  aivNum : Nat
  totalWorkspaceSize : Nat
  deriving DecidableEq, Repr

structure DispatchRecvTiling where
  maxSeqLen : Nat
  hiddenSize : Nat
  topk : Nat
  moeRankNum : Nat
  attnRankNum : Nat
  routeExpertNumPerMoe : Nat
  moeRankId : Nat
  worldSize : Nat
  tpSize : Nat
  maxTokenNum : Nat
  dynamicQuant : Nat
  aivNum : Nat
  totalWorkspaceSize : Nat
  deriving DecidableEq, Repr

structure CombineSendTiling where
  maxSeqLen : Nat
  hiddenSize : Nat
  topk : Nat
  moeRankNum : Nat
  attnRankNum : Nat
  routeExpertNumPerMoe : Nat
  moeRankId : Nat
  worldSize : Nat
  tpSize : Nat
  aivNum : Nat
  totalWorkspaceSize : Nat
  deriving DecidableEq, Repr

structure CombineRecvTiling where
  batchSize : Nat
  hiddenSize : Nat
  topk : Nat
  moeRankNum : Nat
  attnRankNum : Nat
  routeExpertNumPerMoe : Nat
  attnRankId : Nat
  worldSize : Nat
  aivNum : Nat
  totalWorkspaceSize : Nat
  deriving DecidableEq, Repr

/-! ## The checks -/

/-- Bytes of one token row in a dispatch window: quantized rows are `int8` with
their scale in the last 32 bytes. -/
def tokenRowBytes (dynamicQuant hiddenSize : Nat) : Nat :=
  if dynamicQuant = 0 then 2 * hiddenSize else 1 * hiddenSize + UB_ALIGN

def dispatchSendTiling (c : ShapeConfig) (sharedMemSize aivNum attnRankId layerIndex : Nat) :
    Option DispatchSendTiling := do
  guard (1 ≤ c.maxSeqLen ∧ c.maxSeqLen ≤ LIMIT_MAX_SEQ_LEN_MAX)
  guard (1 ≤ c.tpSize ∧ c.attnRankNum % c.tpSize = 0)
  let limitMaxSeqLenPerRank := c.maxSeqLen / c.tpSize
  guard (1 ≤ c.batchSize ∧ c.batchSize ≤ limitMaxSeqLenPerRank)
  guard (1 ≤ c.hiddenSize)
  guard (1 ≤ c.topk)
  guard (1 ≤ c.moeRankNum)
  guard (1 ≤ c.attnRankNum)
  guard (c.topk ≤ c.routeExpertNumPerMoe * c.moeRankNum)
  guard (c.worldSize = c.moeRankNum + c.attnRankNum)
  guard (attnRankId ≤ c.worldSize - 1)
  guard (c.dynamicQuant = 0 ∨ c.dynamicQuant = 1)
  let dispatchNeedSize :=
    ceilAdd (4 * (c.moeRankNum + c.routeExpertNumPerMoe * c.moeRankNum) * MAX_AIV_NUM) UB_ALIGN
  let combineSendFlagSize := ceilAdd (4 * c.moeRankNum) UB_ALIGN
  let combineTokenSize := ceilAdd (2 * c.hiddenSize * c.batchSize * c.topk) UB_ALIGN
  guard (dispatchNeedSize + combineSendFlagSize + combineTokenSize ≤ sharedMemSize)
  pure {
    maxBatchSize := u32 limitMaxSeqLenPerRank, batchSize := u32 c.batchSize, hiddenSize := u32 c.hiddenSize,
    topk := u32 c.topk, moeRankNum := u32 c.moeRankNum, attnRankNum := u32 c.attnRankNum,
    routeExpertNumPerMoe := u32 c.routeExpertNumPerMoe, attnRankId := u32 attnRankId, worldSize :=
      u32 c.worldSize,
    layerIndex := u32 layerIndex, tpSize := u32 c.tpSize, dynamicQuant :=
      c.dynamicQuant, aivNum := u32 aivNum,
    totalWorkspaceSize := sharedMemSize }

/-- `maxSeqLenFactor` is the value of `BATCH_SIZE_FACTOR`. -/
def dispatchRecvTiling (c : ShapeConfig) (sharedMemSize aivNum moeRankId : Nat) (maxSeqLenFactor : ℚ) :
    Option DispatchRecvTiling := do
  guard (1 ≤ c.maxSeqLen ∧ c.maxSeqLen ≤ LIMIT_MAX_SEQ_LEN_MAX)
  guard (1 ≤ c.hiddenSize)
  guard (1 ≤ c.topk)
  guard (1 ≤ c.moeRankNum)
  guard (1 ≤ c.attnRankNum)
  guard (c.topk ≤ c.routeExpertNumPerMoe * c.moeRankNum)
  guard (c.worldSize = c.moeRankNum + c.attnRankNum)
  guard (moeRankId ≤ c.worldSize - 1)
  guard (1 ≤ c.tpSize ∧ c.attnRankNum % c.tpSize = 0)
  guard (c.dynamicQuant = 0 ∨ c.dynamicQuant = 1)
  let limitMaxSeqLenPerRank := c.maxSeqLen / c.tpSize
  let dispatchInfoSize := ceilAdd (8 * BATCH_INFO_VAL_NUM) UB_ALIGN
  let expertTokenCntSize := ceilAdd (4 * c.routeExpertNumPerMoe) UB_ALIGN
  let dispatchTokenSize :=
    ceilAdd (tokenRowBytes c.dynamicQuant c.hiddenSize * limitMaxSeqLenPerRank) UB_ALIGN
  let tokenAddrSize := ceilAdd (2 * limitMaxSeqLenPerRank * c.topk) UB_ALIGN
  let sharedMemMoeNeedSize :=
    u64 ((dispatchInfoSize + expertTokenCntSize * 2 + dispatchTokenSize + tokenAddrSize) * c.attnRankNum)
  guard (sharedMemMoeNeedSize ≤ sharedMemSize)
  guard (0 < maxSeqLenFactor ∧ maxSeqLenFactor ≤ 1)
  pure {
    maxSeqLen := u32 c.maxSeqLen, hiddenSize := u32 c.hiddenSize, topk := u32 c.topk, moeRankNum :=
      u32 c.moeRankNum,
    attnRankNum := u32 c.attnRankNum, routeExpertNumPerMoe := u32 c.routeExpertNumPerMoe, moeRankId :=
      u32 moeRankId,
    worldSize := u32 c.worldSize, tpSize := u32 c.tpSize, maxTokenNum :=
      ⌊LIMIT_MAX_SEQ_LEN_MAX * maxSeqLenFactor⌋₊,
    dynamicQuant := c.dynamicQuant, aivNum := u32 aivNum, totalWorkspaceSize := sharedMemSize }

/-- Combine-send checks the shape, but not the window size. -/
def combineSendTiling (c : ShapeConfig) (sharedMemSize aivNum moeRankId : Nat) :
    Option CombineSendTiling := do
  guard (1 ≤ c.maxSeqLen ∧ c.maxSeqLen ≤ LIMIT_MAX_SEQ_LEN_MAX)
  guard (1 ≤ c.hiddenSize)
  guard (1 ≤ c.topk)
  guard (1 ≤ c.moeRankNum)
  guard (1 ≤ c.routeExpertNumPerMoe)
  guard (1 ≤ c.attnRankNum)
  guard (c.topk ≤ c.routeExpertNumPerMoe * c.moeRankNum)
  guard (c.worldSize = c.moeRankNum + c.attnRankNum)
  guard (moeRankId ≤ c.worldSize - 1)
  guard (1 ≤ c.tpSize ∧ c.attnRankNum % c.tpSize = 0)
  pure {
    maxSeqLen := u32 c.maxSeqLen, hiddenSize := u32 c.hiddenSize, topk := u32 c.topk, moeRankNum :=
      u32 c.moeRankNum,
    attnRankNum := u32 c.attnRankNum, routeExpertNumPerMoe := u32 c.routeExpertNumPerMoe, moeRankId :=
      u32 moeRankId,
    worldSize := u32 c.worldSize, tpSize := u32 c.tpSize, aivNum := u32 aivNum, totalWorkspaceSize :=
      sharedMemSize }

def combineRecvTiling (c : ShapeConfig) (sharedMemSize aivNum attnRankId : Nat) :
    Option CombineRecvTiling := do
  guard (1 ≤ c.batchSize ∧ c.batchSize ≤ LIMIT_MAX_SEQ_LEN_MAX)
  guard (1 ≤ c.hiddenSize)
  guard (1 ≤ c.topk)
  guard (1 ≤ c.moeRankNum)
  guard (1 ≤ c.attnRankNum)
  guard (1 ≤ c.routeExpertNumPerMoe)
  guard (c.topk ≤ c.routeExpertNumPerMoe * c.moeRankNum)
  guard (c.worldSize = c.moeRankNum + c.attnRankNum)
  guard (attnRankId ≤ c.worldSize - 1)
  let dispatchNeedSize :=
    ceilAdd (4 * (c.moeRankNum + c.routeExpertNumPerMoe * c.moeRankNum) * MAX_AIV_NUM) UB_ALIGN
  let combineSendFlagSize := ceilAdd (4 * c.moeRankNum) UB_ALIGN
  let combineTokenSize := ceilAdd (2 * c.hiddenSize * c.batchSize * c.topk) UB_ALIGN
  guard (dispatchNeedSize + combineSendFlagSize + combineTokenSize ≤ sharedMemSize)
  pure {
    batchSize := u32 c.batchSize, hiddenSize := u32 c.hiddenSize, topk := u32 c.topk, moeRankNum :=
      u32 c.moeRankNum,
    attnRankNum := u32 c.attnRankNum, routeExpertNumPerMoe := u32 c.routeExpertNumPerMoe, attnRankId :=
      u32 attnRankId,
    worldSize := u32 c.worldSize, aivNum := u32 aivNum, totalWorkspaceSize := sharedMemSize }

/-! ## What an accepted shape is -/

/-- What the four hosts check about the shape alone. -/
structure ShapeConfig.Ok (c : ShapeConfig) : Prop where
  batch : 1 ≤ c.batchSize ∧ c.batchSize ≤ c.maxSeqLen / c.tpSize
  maxSeqLen : c.maxSeqLen ≤ LIMIT_MAX_SEQ_LEN_MAX
  tpSize : 1 ≤ c.tpSize
  groups : c.attnRankNum % c.tpSize = 0
  hiddenSize : 1 ≤ c.hiddenSize
  topk : 1 ≤ c.topk
  moeRankNum : 1 ≤ c.moeRankNum
  attnRankNum : 1 ≤ c.attnRankNum
  routeExpertNumPerMoe : 1 ≤ c.routeExpertNumPerMoe

section Accepted
variable {c : ShapeConfig} {sharedMemSize aivNum : Nat}

theorem dispatchSendTiling_ok {attnRankId layerIndex : Nat} {t : DispatchSendTiling}
    (h : dispatchSendTiling c sharedMemSize aivNum attnRankId layerIndex = some t) :
    c.Ok ∧ t.maxBatchSize = u32 (c.maxSeqLen / c.tpSize) ∧ t.hiddenSize = u32 c.hiddenSize ∧
      t.topk = u32 c.topk ∧
      t.moeRankNum = u32 c.moeRankNum ∧ t.attnRankNum = u32 c.attnRankNum ∧
      t.routeExpertNumPerMoe = u32 c.routeExpertNumPerMoe ∧ t.dynamicQuant = c.dynamicQuant ∧
      t.aivNum = u32 aivNum := by
  simp only [dispatchSendTiling, Option.bind_eq_bind, Option.bind_eq_some_iff, Option.guard_eq_some',
    exists_const, Option.pure_def, Option.some.injEq] at h
  obtain ⟨hseq, htp, hbatch, hh, hk, hm, ha, hexp, -, -, -, -, rfl⟩ := h
  have hr : 1 ≤ c.routeExpertNumPerMoe := by
    rcases Nat.eq_zero_or_pos c.routeExpertNumPerMoe with h0 | h0
    · rw [h0, Nat.zero_mul] at hexp
      omega
    · exact h0
  exact ⟨⟨hbatch, hseq.2, htp.1, htp.2, hh, hk, hm, ha, hr⟩, rfl, rfl, rfl, rfl, rfl, rfl, rfl, rfl⟩

theorem dispatchRecvTiling_ok {moeRankId : Nat} {maxSeqLenFactor : ℚ} {t : DispatchRecvTiling}
    (h : dispatchRecvTiling c sharedMemSize aivNum moeRankId maxSeqLenFactor = some t) :
    t.maxSeqLen = u32 c.maxSeqLen ∧ t.hiddenSize = u32 c.hiddenSize ∧ t.topk = u32 c.topk ∧
      t.routeExpertNumPerMoe = u32 c.routeExpertNumPerMoe ∧ t.tpSize = u32 c.tpSize ∧
      t.dynamicQuant = c.dynamicQuant ∧ t.totalWorkspaceSize = sharedMemSize := by
  simp only [dispatchRecvTiling, Option.bind_eq_bind, Option.bind_eq_some_iff, Option.guard_eq_some',
    exists_const, Option.pure_def, Option.some.injEq] at h
  obtain ⟨-, -, -, -, -, -, -, -, -, -, -, -, rfl⟩ := h
  exact ⟨rfl, rfl, rfl, rfl, rfl, rfl, rfl⟩

theorem combineSendTiling_ok {moeRankId : Nat} {t : CombineSendTiling}
    (h : combineSendTiling c sharedMemSize aivNum moeRankId = some t) :
    t.hiddenSize = u32 c.hiddenSize ∧ t.moeRankNum = u32 c.moeRankNum ∧
      t.routeExpertNumPerMoe = u32 c.routeExpertNumPerMoe := by
  simp only [combineSendTiling, Option.bind_eq_bind, Option.bind_eq_some_iff, Option.guard_eq_some',
    exists_const, Option.pure_def, Option.some.injEq] at h
  obtain ⟨-, -, -, -, -, -, -, -, -, -, rfl⟩ := h
  exact ⟨rfl, rfl, rfl⟩

theorem combineRecvTiling_ok {attnRankId : Nat} {t : CombineRecvTiling}
    (h : combineRecvTiling c sharedMemSize aivNum attnRankId = some t) :
    t.batchSize = u32 c.batchSize ∧ t.hiddenSize = u32 c.hiddenSize ∧ t.topk = u32 c.topk ∧
      t.moeRankNum = u32 c.moeRankNum ∧ t.routeExpertNumPerMoe = u32 c.routeExpertNumPerMoe ∧
      t.totalWorkspaceSize = sharedMemSize := by
  simp only [combineRecvTiling, Option.bind_eq_bind, Option.bind_eq_some_iff, Option.guard_eq_some',
    exists_const, Option.pure_def, Option.some.injEq] at h
  obtain ⟨-, -, -, -, -, -, -, -, -, -, rfl⟩ := h
  exact ⟨rfl, rfl, rfl, rfl, rfl, rfl⟩

end Accepted

end AfdPlugin.Cam
