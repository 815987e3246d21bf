import AfdPlugin.Cam.Tiling
/-!
# Window layout of the Async CAM operators

Where the kernels place what they exchange. A MoE rank's window holds one part
for each Attention rank, written by that rank's dispatch-send, and the
round-robin slot at its end. An Attention rank's window holds the statistics
its cores share during dispatch-send, one completion flag for each MoE rank,
and the rows that come back.
-/

namespace AfdPlugin.Cam

/-! ## Offsets, as each kernel computes them -/

/-- Offsets of an Attention rank's part of a MoE rank's window. -/
structure AttnOffsets where
  attnWorkspaceOffset : Nat
  expertRecvTokenNumOffset : Nat
  expertChunkFlagOffset : Nat
  tokenStoreOffset : Nat
  tokenAddrStoreOffset : Nat
  deriving DecidableEq, Repr

/-- Bytes reserved for each Attention rank. -/
def workspaceSizePerAttn (expertNumPerMoe rowBytes maxSeqLenPerRank topk : Nat) : Nat :=
  let totalWorkspaceSize := ceilRem (8 * BATCH_INFO_VAL_NUM) UB_ALIGN + ceilRem (4 * expertNumPerMoe)
    UB_ALIGN + ceilRem (4 * expertNumPerMoe) UB_ALIGN + ceilRem (rowBytes * maxSeqLenPerRank)
    UB_ALIGN + ceilRem (2 * maxSeqLenPerRank * topk) UB_ALIGN
  UB_ALIGN * (totalWorkspaceSize / UB_ALIGN)

/-- The offsets of both dispatch kernels, from what each takes as the most rows
of a rank. -/
def attnOffsets (expertNumPerMoe rowBytes maxSeqLenPerRank topk attnRankId : Nat) : AttnOffsets :=
  let attnWorkspaceOffset :=
    u64 (workspaceSizePerAttn expertNumPerMoe rowBytes maxSeqLenPerRank topk * attnRankId)
  let expertRecvTokenNumOffset := u64 (attnWorkspaceOffset + ceilRem (8 * BATCH_INFO_VAL_NUM) UB_ALIGN)
  let expertChunkFlagOffset := u64 (expertRecvTokenNumOffset + ceilRem (4 * expertNumPerMoe) UB_ALIGN)
  let tokenStoreOffset := u64 (expertChunkFlagOffset + ceilRem (4 * expertNumPerMoe) UB_ALIGN)
  let tokenAddrStoreOffset := u64 (tokenStoreOffset + ceilRem (rowBytes * maxSeqLenPerRank) UB_ALIGN)
  ⟨attnWorkspaceOffset, expertRecvTokenNumOffset, expertChunkFlagOffset, tokenStoreOffset,
    tokenAddrStoreOffset⟩

def DispatchSendTiling.offsets (t : DispatchSendTiling) (attnRankId : Nat) : AttnOffsets :=
  attnOffsets t.routeExpertNumPerMoe (tokenRowBytes t.dynamicQuant t.hiddenSize) t.maxBatchSize
    t.topk attnRankId

/-- Dispatch-recv divides by a `uint16_t`; `none` when that is zero. -/
def DispatchRecvTiling.offsets (t : DispatchRecvTiling) (attnRankId : Nat) : Option AttnOffsets :=
  let tpSize := u16 t.tpSize
  if tpSize = 0 then none
  else some (attnOffsets t.routeExpertNumPerMoe (tokenRowBytes t.dynamicQuant t.hiddenSize)
    (t.maxSeqLen / tpSize) t.topk attnRankId)

/-- Offset of a token row within the rows: the element index is a `uint32_t`. -/
def tokenRowOffset (dynamicQuant hiddenSize moeTokenSendIdx : Nat) : Nat :=
  if dynamicQuant = 0 then 2 * u32 (hiddenSize * moeTokenSendIdx)
  else 1 * u32 (u32 ((1 * hiddenSize + UB_ALIGN) / 1) * moeTokenSendIdx)

/-- Statistics entries of a core: one for each MoE rank and each expert. -/
def DispatchSendTiling.statEntriesPerAiv (t : DispatchSendTiling) : Nat :=
  u32 (t.moeRankNum + u32 (t.routeExpertNumPerMoe * t.moeRankNum))

/-- Where the completion flags start, and where the row is that comes back as
number `moeTokenSendIdx` of a MoE rank whose rows follow `moePrefixTokenNum`
others. -/
structure CombineOffsets where
  dispatchOffset : Nat
  row : Nat → Nat → Nat

/-- The offsets of both combine kernels. -/
def combineOffsets (moeRankNum routeExpertNumPerMoe hiddenSize : Nat) : CombineOffsets :=
  let expertNum := u32 (routeExpertNumPerMoe * moeRankNum)
  let dispatchOffset := ceilRem (4 * u32 (moeRankNum + expertNum) * MAX_AIV_NUM) UB_ALIGN
  { dispatchOffset,
    row := fun moePrefixTokenNum moeTokenSendIdx =>
      let tokenStoreOffset := u64 (ceilRem (4 * moeRankNum) UB_ALIGN + 2 * hiddenSize * moePrefixTokenNum)
      u64 (dispatchOffset + tokenStoreOffset + 2 * u32 (hiddenSize * moeTokenSendIdx)) }

def CombineSendTiling.offsets (t : CombineSendTiling) : CombineOffsets :=
  combineOffsets t.moeRankNum t.routeExpertNumPerMoe t.hiddenSize

def CombineRecvTiling.offsets (t : CombineRecvTiling) : CombineOffsets :=
  combineOffsets t.moeRankNum t.routeExpertNumPerMoe t.hiddenSize

/-! ## What the kernels address -/

/-- What an Attention rank's part of a MoE rank's window holds. -/
inductive AttnPart where
  | header
  | counts
  | chunkFlags
  | tokenRows
  | tokenAddrs
  deriving DecidableEq, Repr

/-- The areas of a MoE rank's window. -/
inductive MoeArea where
  | part (attnRankId : Nat) (part : AttnPart)
  /-- The round-robin slot. -/
  | lastProcessed
  deriving DecidableEq, Repr

def MoeArea.Valid (attnRankNum : Nat) : MoeArea → Prop
  | part a _ => a < attnRankNum
  | lastProcessed => True

def AttnOffsets.start (o : AttnOffsets) : AttnPart → Nat
  | .header => o.attnWorkspaceOffset
  | .counts => o.expertRecvTokenNumOffset
  | .chunkFlags => o.expertChunkFlagOffset
  | .tokenRows => o.tokenStoreOffset
  | .tokenAddrs => o.tokenAddrStoreOffset

/-- Bytes that the dispatch kernels address in each part. -/
def partBytes (expertNumPerMoe rowBytes maxSeqLenPerRank topk : Nat) : AttnPart → Nat
  | .header => 8 * BATCH_INFO_VAL_NUM
  | .counts => 4 * expertNumPerMoe
  | .chunkFlags => 4 * expertNumPerMoe
  | .tokenRows => rowBytes * maxSeqLenPerRank
  | .tokenAddrs => 2 * maxSeqLenPerRank * topk

/-- The areas as dispatch-send and dispatch-recv address them. -/
def moeRegion (send : DispatchSendTiling) (recv : DispatchRecvTiling) : MoeArea → Region
  | .part a p =>
    ⟨(send.offsets a).start p,
      partBytes send.routeExpertNumPerMoe (tokenRowBytes send.dynamicQuant send.hiddenSize)
      send.maxBatchSize send.topk p⟩
  | .lastProcessed => ⟨recv.totalWorkspaceSize - UB_ALIGN, UB_ALIGN⟩

/-- The parts of an Attention rank's window; a row for each assignment. -/
inductive AttnArea where
  | coreStats
  | flags
  | row (i : Nat)
  deriving DecidableEq, Repr

def AttnArea.Valid (assignments : Nat) : AttnArea → Prop
  | row i => i < assignments
  | _ => True

def attnRegion (send : DispatchSendTiling) (combine : CombineRecvTiling) : AttnArea → Region
  | .coreStats => ⟨0, 4 * send.statEntriesPerAiv * send.aivNum⟩
  | .flags => ⟨combine.offsets.dispatchOffset, 4 * combine.moeRankNum⟩
  | .row i => ⟨combine.offsets.row 0 i, 2 * combine.hiddenSize⟩

/-- The layout is sound: in both windows the areas are inside and do not
overlap, the sender and the receiver compute the same offsets, and a row is
where its number says however it is split into a prefix and an index. -/
structure WindowsLaidOut (send : DispatchSendTiling) (recv : DispatchRecvTiling)
    (combineSend : CombineSendTiling) (combineRecv : CombineRecvTiling) : Prop where
  moe : LaidOut (MoeArea.Valid send.attnRankNum) (moeRegion send recv) recv.totalWorkspaceSize
  attn : LaidOut (AttnArea.Valid (combineRecv.batchSize * combineRecv.topk)) (attnRegion send combineRecv)
    combineRecv.totalWorkspaceSize
  sameDispatch : ∀ a < send.attnRankNum, recv.offsets a = some (send.offsets a)
  sameCombine : combineSend.offsets = combineRecv.offsets
  rowOfSplit : ∀ moePrefix idx, moePrefix + idx < combineRecv.batchSize * combineRecv.topk →
    combineRecv.offsets.row moePrefix idx = combineRecv.offsets.row 0 (moePrefix + idx)
  /-- A token row, indexed by a `uint16_t`, is inside the token rows. -/
  tokenRow : ∀ i < send.maxBatchSize, i < 2 ^ 16 →
    tokenRowOffset send.dynamicQuant send.hiddenSize i = tokenRowBytes send.dynamicQuant send.hiddenSize * i

end AfdPlugin.Cam
