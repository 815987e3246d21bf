import AfdPlugin.Cam.Admission
import AfdPlugin.Cam.SendStats
import AfdPlugin.Cam.Tiling
import AfdPlugin.Connectors.AsyncCam
/-!
# Indices of sixteen bits

The kernels keep row indices, occurrence indices and the counts of combine-recv
in `uint16_t`. Startup bounds the rows of a batch for them in FULL mode only, and
no check bounds how often a batch names an expert.
-/

namespace AfdPlugin.Cam

open AsyncCam

/-! ## The checks of the binding -/

def MAX_SEQUENCE_LENGTH : Nat := 1024 * 256

/-- `TORCH_CHECK`. -/
def torchCheck (condition : Bool) (message : String) : Except String Unit :=
  if condition then .ok () else .error message

def checkTopology (c : ShapeConfig) : Except String Unit := do
  torchCheck (0 < c.hiddenSize) "hidden_size must be positive"
  torchCheck (0 < c.moeRankNum ∧ 0 < c.attnRankNum ∧ 0 < c.routeExpertNumPerMoe)
    "rank counts and route_expert_num_per_moe must be positive"
  torchCheck (c.worldSize = c.moeRankNum + c.attnRankNum)
    "world_size must equal attn_rank_num + moe_rank_num"
  torchCheck (0 < c.topk ∧ c.topk ≤ c.moeRankNum * c.routeExpertNumPerMoe)
    "top_k must be in [1, moe_rank_num * route_expert_num_per_moe]"

def checkTp (c : ShapeConfig) : Except String Unit := do
  torchCheck (0 < c.tpSize ∧ c.attnRankNum % c.tpSize = 0)
    "tp_size must be positive and divide attn_rank_num"
  torchCheck (c.tpSize ≤ c.maxSeqLen ∧ c.maxSeqLen ≤ MAX_SEQUENCE_LENGTH)
    "max_seq_len must be in [tp_size, 262144]"

/-- `dispatch_send`, up to its call of the operator. -/
def dispatchSendBinding (c : ShapeConfig) (xShape expertIdsShape : List Int) (attnRankId : Nat)
    (layerIndex : Int) :
    Except String Unit := do
  checkTopology c
  checkTp c
  torchCheck (0 < c.batchSize ∧ c.batchSize ≤ c.maxSeqLen / c.tpSize)
    "batch_size must be in [1, max_seq_len / tp_size]"
  torchCheck (attnRankId < c.attnRankNum) "attn_rank_id must identify an Attention rank"
  torchCheck (0 ≤ layerIndex) "layer_index must be nonnegative"
  torchCheck (c.dynamicQuant = 0 ∨ c.dynamicQuant = 1) "dynamic_quant must be 0 or 1"
  torchCheck (xShape = [(c.batchSize : Int), c.hiddenSize]) "x must have shape [batch_size, hidden_size]"
  torchCheck (expertIdsShape = [(c.batchSize : Int), c.topk]) "expert_ids must be int32[batch_size, top_k]"

/-- `combine_recv`, up to its call of the operator. -/
def combineRecvBinding (c : ShapeConfig) (expertIdsShape expertScalesShape : List Int) (attnRankId : Nat) :
    Except String Unit := do
  checkTopology c
  torchCheck (0 < c.batchSize ∧ c.batchSize ≤ MAX_SEQUENCE_LENGTH) "batch_size must be in [1, 262144]"
  torchCheck (attnRankId < c.attnRankNum) "attn_rank_id must identify an Attention rank"
  torchCheck (expertIdsShape = [(c.batchSize : Int), c.topk]) "expert_ids must be int32[batch_size, top_k]"
  torchCheck (expertScalesShape = [(c.batchSize : Int), c.topk])
    "expert_scales must be float32[batch_size, top_k]"

/-! ## Room for the buffers -/

def IDS_PAGE_SIZE : Nat := 1024 * 64

/-- Whether the statistics of a kernel, and all of its buffers, fit. A kernel
without room takes its error return. -/
structure KernelRoom where
  statistics : Bool
  buffers : Bool
  deriving DecidableEq, Repr

/-- The check of the buffers in `AfdAsyncDispatchSend`. -/
def DispatchSendTiling.room (t : DispatchSendTiling) (totalUbSize : Nat) : KernelRoom :=
  let expertNum := u32 (t.routeExpertNumPerMoe * t.moeRankNum)
  let bufOffset := ceilRem IDS_PAGE_SIZE UB_ALIGN + ceilRem (4 * expertNum) UB_ALIGN + ceilRem
    t.moeRankNum UB_ALIGN + ceilRem (2 * t.moeRankNum) UB_ALIGN + ceilRem (2 * expertNum) UB_ALIGN
  let statistics := u32 (u32 bufOffset + ceilRem (4 * u32 (t.moeRankNum + expertNum) * t.aivNum) UB_ALIGN)
  let token :=
    if t.dynamicQuant = 1 then
      ceilRem (2 * t.hiddenSize) UB_ALIGN + ceilRem (4 * t.hiddenSize) UB_ALIGN + ceilRem
        (4 * t.hiddenSize) UB_ALIGN + ceilRem (4 * 8) UB_ALIGN
    else ceilRem (2 * t.hiddenSize) UB_ALIGN
  let buffers := bufOffset + ceilRem (4 * t.moeRankNum) UB_ALIGN + ceilRem (4 * expertNum) UB_ALIGN +
    ceilRem (8 * BATCH_INFO_VAL_NUM) UB_ALIGN + token + ceilRem (2 * 16 * expertNum) UB_ALIGN +
    ceilRem (4 * expertNum * 2) UB_ALIGN
  ⟨statistics ≤ totalUbSize, buffers ≤ totalUbSize⟩

/-- The check of the buffers in `AfdAsyncCombineRecv`. -/
def CombineRecvTiling.room (t : CombineRecvTiling) (totalUbSize : Nat) : KernelRoom :=
  let expertNum := u32 (t.routeExpertNumPerMoe * t.moeRankNum)
  let bufOffset := ceilRem IDS_PAGE_SIZE UB_ALIGN + ceilRem (2 * expertNum) UB_ALIGN
  let statistics := u32 (u32 bufOffset + ceilRem (4 * u32 (t.moeRankNum + expertNum) * t.aivNum) UB_ALIGN)
  let buffers := bufOffset + ceilRem (4 * expertNum) UB_ALIGN + ceilRem (2 * expertNum)
    UB_ALIGN + ceilRem (4 * t.hiddenSize) UB_ALIGN + ceilRem (4 * t.hiddenSize) UB_ALIGN + ceilRem
    (4 * t.hiddenSize) UB_ALIGN + ceilRem (2 * t.hiddenSize) UB_ALIGN + ceilRem
    (4 * t.moeRankNum) UB_ALIGN
  ⟨statistics ≤ totalUbSize, buffers ≤ totalUbSize⟩

/-! ## What the kernels store -/

section Kernels
variable {V S : Type} (sh : CamShape) (b : Batch V S)

/-- `cut` is what a cell keeps of a value: `u16` in the kernels, and `id` for the
indices that the cells stand for. -/
structure SendState where
  tokenSentFlag : Nat → Nat
  moeSendStartOffset : Nat → Nat
  expertSendStartIdx : Nat → Nat
  /-- Row indices of the address table and occurrence indices, as they were stored. -/
  stored : List Nat

/-- The indices after `PreProcess`. -/
def sendStart (cut : Nat → Nat) (stat : Nat × Nat → Nat) (aivId : Nat) : SendState :=
  let offset m := if aivId = 0 then 0 else cut (stat (aivId - 1, m))
  let start e := if aivId = 0 then 0 else cut (stat (aivId - 1, sh.moeRankNum + e))
  ⟨fun _ => 0, offset, start, (List.range sh.expertNum).map start⟩

/-- One entry of the routing table in `DispatchSend`. -/
def sendStep (cut : Nat → Nat) (s : SendState) (topkId : Nat) : SendState :=
  let sent := resetSent sh s.tokenSentFlag topkId
  let moeRankId := b.moeRank sh topkId
  let moeTokenSendIdx := s.moeSendStartOffset moeRankId
  let expertId := b.expertIds topkId
  let expertTokenSendIdx := s.expertSendStartIdx expertId
  let sent := markSent sent moeRankId
  let start := Function.update s.expertSendStartIdx expertId (cut (expertTokenSendIdx + 1))
  let offset :=
    if (topkId + 1) % sh.topk = 0 then
      fun m => if m < sh.moeRankNum ∧ sent m = 1 then cut (s.moeSendStartOffset m + 1)
        else s.moeSendStartOffset m
    else s.moeSendStartOffset
  ⟨sent, offset, start, s.stored ++ [cut moeTokenSendIdx, cut (expertTokenSendIdx + 1)]⟩

/-- What a core of dispatch-send stores. -/
def sendStored (cut : Nat → Nat) (room : KernelRoom) (stat : Nat × Nat → Nat) (aivId : Nat) : List Nat :=
  if ¬ room.statistics then []
  else if ¬ room.buffers then (sendStart sh cut stat aivId).stored
  else
    let first := sh.topk * b.aivStart sh aivId
    (forRange first (sh.topk * b.aivStart sh (aivId + 1) - first) (sendStart sh cut stat aivId)
      (sendStep sh b cut)).stored

structure RecvState where
  expertRecvStartIdx : Nat → Nat
  stored : List Nat

/-- The indices after `PreProcess`. -/
def recvStart (cut : Nat → Nat) (useDispatchPrefix : Bool) (stat : Nat × Nat → Nat) (aivId : Nat) :
    RecvState :=
  let start e := if useDispatchPrefix ∧ 0 < aivId then cut (stat (aivId - 1, sh.moeRankNum + e)) else 0
  ⟨start, (List.range sh.expertNum).map start⟩

/-- One entry of the routing table in `CombineRecv`. -/
def recvStep (cut : Nat → Nat) (s : RecvState) (topkId : Nat) : RecvState :=
  let expertId := b.expertIds topkId
  let expertTokenSendIdx := s.expertRecvStartIdx expertId
  ⟨Function.update s.expertRecvStartIdx expertId (cut (expertTokenSendIdx + 1)),
    s.stored ++ [cut (expertTokenSendIdx + 1)]⟩

/-- The counts of `LoadPreProcess`. -/
def recvCounts (cut : Nat → Nat) (stat : Nat × Nat → Nat) : List Nat :=
  (List.range sh.expertNum).map fun e => cut (stat (sh.attnAivNum - 1, sh.moeRankNum + e))

/-- What a core of combine-recv stores. -/
def recvStored (cut : Nat → Nat) (room : KernelRoom) (useDispatchPrefix : Bool) (stat : Nat × Nat → Nat)
    (aivId : Nat) : List Nat :=
  if ¬ room.statistics then []
  else if ¬ room.buffers then recvCounts sh cut stat
  else
    let first := if useDispatchPrefix then sh.topk * b.aivStart sh aivId else 0
    recvCounts sh cut stat ++
      (forRange first (sh.topk * b.aivStart sh (aivId + 1) - first)
        (recvStart sh cut useDispatchPrefix stat aivId) (recvStep b cut)).stored

/-- What all cores of both kernels store for a batch. -/
def stored (cut : Nat → Nat) (sendRoom recvRoom : KernelRoom) (stat : Nat × Nat → Nat) : List Nat :=
  (List.range sh.attnAivNum).flatMap (sendStored sh b cut sendRoom stat) ++
    (List.range sh.attnAivNum).flatMap (recvStored sh b cut recvRoom (sh.attnAivNum < b.batchSize) stat)

end Kernels

/-! ## Cut indices -/

section Cut
variable {V S : Type} {sh : CamShape} {b : Batch V S} {stat : Nat × Nat → Nat} {room : KernelRoom}
  {aivId : Nat}

@[simp] theorem u16_zero : u16 0 = 0 := rfl

@[simp] theorem u16_u16 (n : Nat) : u16 (u16 n) = u16 n := Nat.mod_mod n _

@[simp] theorem u16_succ (n : Nat) : u16 (u16 n + 1) = u16 (n + 1) := Nat.mod_add_mod n _ 1

theorem u16_eq_iff (n : Nat) : u16 n = n ↔ n < 2 ^ 16 := Nat.mod_eq_iff_lt (by decide)

def SendState.toU16 (s : SendState) : SendState :=
  ⟨s.tokenSentFlag, fun m => u16 (s.moeSendStartOffset m), fun e => u16 (s.expertSendStartIdx e),
    s.stored.map u16⟩

theorem sendStart_u16 : sendStart sh u16 stat aivId = (sendStart sh id stat aivId).toU16 := by
  rcases Nat.eq_zero_or_pos aivId with rfl | hpos
  · simp [sendStart, SendState.toU16]
  · simp [sendStart, SendState.toU16, Nat.pos_iff_ne_zero.1 hpos]

/-- A step on cut indices is a step whose indices are cut afterwards. -/
theorem sendStep_u16 (s : SendState) (p : Nat) :
    sendStep sh b u16 s.toU16 p = (sendStep sh b id s p).toU16 := by
  simp only [sendStep, SendState.toU16, SendState.mk.injEq, id, u16_u16, u16_succ, List.map_append,
    List.map_cons, List.map_nil, true_and, and_true]
  constructor
  · split
    · funext m
      exact (apply_ite u16 _ _ _).symm
    · rfl
  · funext e
    rcases eq_or_ne e (b.expertIds p) with rfl | hne
    · simp
    · simp [Function.update_of_ne hne]

theorem sendStored_u16 :
    sendStored sh b u16 room stat aivId = (sendStored sh b id room stat aivId).map u16 := by
  unfold sendStored
  split
  · rfl
  · rw [sendStart_u16]
    split
    · rfl
    · exact congrArg SendState.stored (List.foldl_hom SendState.toU16 fun s p => sendStep_u16 s p)

def RecvState.toU16 (s : RecvState) : RecvState := ⟨fun e => u16 (s.expertRecvStartIdx e), s.stored.map u16⟩

theorem recvStart_u16 (useDispatchPrefix : Bool) :
    recvStart sh u16 useDispatchPrefix stat aivId =
      (recvStart sh id useDispatchPrefix stat aivId).toU16 := by
  by_cases h : useDispatchPrefix = true ∧ 0 < aivId
  · simp [recvStart, RecvState.toU16, h]
  · simp [recvStart, RecvState.toU16, h]

theorem recvStep_u16 (s : RecvState) (p : Nat) : recvStep b u16 s.toU16 p = (recvStep b id s p).toU16 := by
  simp only [recvStep, RecvState.toU16, RecvState.mk.injEq, id, u16_succ, List.map_append,
    List.map_cons, List.map_nil, and_true]
  funext e
  rcases eq_or_ne e (b.expertIds p) with rfl | hne
  · simp
  · simp [Function.update_of_ne hne]

theorem recvStored_u16 (useDispatchPrefix : Bool) :
    recvStored sh b u16 room useDispatchPrefix stat aivId =
      (recvStored sh b id room useDispatchPrefix stat aivId).map u16 := by
  have hcounts : recvCounts sh u16 stat = (recvCounts sh id stat).map u16 := by simp [recvCounts]
  unfold recvStored
  split
  · rfl
  · rw [recvStart_u16, hcounts]
    split
    · rfl
    · rw [List.map_append]
      exact congrArg _
        (congrArg RecvState.stored (List.foldl_hom RecvState.toU16 fun s p => recvStep_u16 s p))

/-- The kernels store what is left of the indices. -/
theorem stored_u16 (sendRoom recvRoom : KernelRoom) :
    stored sh b u16 sendRoom recvRoom stat = (stored sh b id sendRoom recvRoom stat).map u16 := by
  simp only [stored, List.map_append, List.map_flatMap, ← sendStored_u16, ← recvStored_u16]

/-- They store the indices themselves when all of them fit. -/
theorem stored_u16_eq_iff (sendRoom recvRoom : KernelRoom) :
    stored sh b u16 sendRoom recvRoom stat = stored sh b id sendRoom recvRoom stat ↔
      ∀ v ∈ stored sh b id sendRoom recvRoom stat, v < 2 ^ 16 := by
  have hmap := List.map_inj_left (l := stored sh b id sendRoom recvRoom stat) (f := u16) (g := id)
  rw [List.map_id] at hmap
  rw [stored_u16, hmap]
  simp only [id, u16_eq_iff]

end Cut

/-! ## What the indices are -/

section Exact
variable {V S : Type} {sh : CamShape} {b : Batch V S} {stat : Nat × Nat → Nat} {aivId : Nat}

/-- Row `c` of the table tells what cores `0, …, c` send. -/
def StatTable (sh : CamShape) (b : Batch V S) (stat : Nat × Nat → Nat) : Prop :=
  ∀ c < sh.attnAivNum, ∀ col < sh.statEntriesPerAiv,
    stat (c, col) = b.statUpTo sh col (sh.topk * b.aivStart sh (c + 1))

theorem StatTable.moe (h : StatTable sh b stat) {c m : Nat} (hc : c < sh.attnAivNum)
    (hm : m < sh.moeRankNum) :
    stat (c, m) = b.moeTokens sh m (b.aivStart sh (c + 1)) := by
  rw [h c hc m (by unfold CamShape.statEntriesPerAiv; omega), Batch.statUpTo, if_pos hm,
    Nat.mul_div_cancel_left _ sh.topk_pos]

theorem StatTable.expert (h : StatTable sh b stat) {c e : Nat} (hc : c < sh.attnAivNum)
    (he : e < sh.expertNum) :
    stat (c, sh.moeRankNum + e) = occurrences b.expertIds e (sh.topk * b.aivStart sh (c + 1)) := by
  rw [h c hc _ (by unfold CamShape.statEntriesPerAiv; omega), Batch.statUpTo, if_neg (by omega),
    Nat.add_sub_cancel_left]

/-- The last row has the counts of the batch. -/
theorem StatTable.total (h : StatTable sh b stat) {e : Nat} (he : e < sh.expertNum) :
    stat (sh.attnAivNum - 1, sh.moeRankNum + e) = b.expertTokenNum sh e := by
  have hpos := sh.attnAivNum_pos
  have hlast : b.aivStart sh (sh.attnAivNum - 1 + 1) = b.batchSize := by
    rw [Nat.sub_add_cancel hpos]
    exact Blocks.spread_last _ hpos
  rw [h.expert (by omega) he, hlast, Nat.mul_comm]
  rfl

/-- A value that a core stores in the passes `p0, …, p - 1`: the row index or the
next occurrence index of one of them. -/
def StoredIn (sh : CamShape) (b : Batch V S) (p0 p v : Nat) : Prop :=
  ∃ q, p0 ≤ q ∧ q < p ∧
    (v = b.moeTokens sh (b.moeRank sh q) (q / sh.topk) ∨
      v = occurrences b.expertIds (b.expertIds q) (q + 1))

theorem storedIn_succ {p0 p v : Nat} (hp : p0 ≤ p) :
    StoredIn sh b p0 (p + 1) v ↔ StoredIn sh b p0 p v ∨ v = b.moeTokens sh (b.moeRank sh p) (p / sh.topk) ∨
      v = occurrences b.expertIds (b.expertIds p) (p + 1) := by
  constructor
  · rintro ⟨q, hle, hlt, hv⟩
    rcases Nat.lt_succ_iff_lt_or_eq.1 hlt with hlt | rfl
    · exact .inl ⟨q, hle, hlt, hv⟩
    · exact .inr hv
  · rintro (⟨q, hle, hlt, hv⟩ | hv)
    · exact ⟨q, hle, by omega, hv⟩
    · exact ⟨p, hp, by omega, hv⟩

/-- The indices of dispatch-send before pass `p`, when the core began at `p0`. -/
structure SendExact (sh : CamShape) (b : Batch V S) (p0 p : Nat) (s : SendState) : Prop where
  sent : p % sh.topk ≠ 0 → SentTable sh b s.tokenSentFlag (p / sh.topk) p
  offset : ∀ m < sh.moeRankNum, s.moeSendStartOffset m = b.moeTokens sh m (p / sh.topk)
  start : ∀ e < sh.expertNum, s.expertSendStartIdx e = occurrences b.expertIds e p
  stored : ∀ v, v ∈ s.stored ↔ (∃ e < sh.expertNum, v = occurrences b.expertIds e p0) ∨ StoredIn sh b p0 p v

theorem sendStart_exact (hstat : StatTable sh b stat) (hc : aivId < sh.attnAivNum) :
    SendExact sh b (sh.topk * b.aivStart sh aivId) (sh.topk * b.aivStart sh aivId)
      (sendStart sh id stat aivId) := by
  have hstart : ∀ e < sh.expertNum, (sendStart sh id stat aivId).expertSendStartIdx e =
      occurrences b.expertIds e (sh.topk * b.aivStart sh aivId) := by
    intro e he
    rcases Nat.eq_zero_or_pos aivId with rfl | hpos
    · simp [sendStart, Batch.aivStart]
    · have hprev := hstat.expert (c := aivId - 1) (by omega) he
      rw [Nat.sub_add_cancel hpos] at hprev
      simp [sendStart, Nat.pos_iff_ne_zero.1 hpos, hprev]
  refine ⟨fun h => absurd (Nat.mul_mod_right _ _) h, ?_, hstart, ?_⟩
  · intro m hm
    rw [Nat.mul_div_cancel_left _ sh.topk_pos]
    rcases Nat.eq_zero_or_pos aivId with rfl | hpos
    · simp [sendStart, Batch.aivStart, Batch.moeTokens]
    · have hprev := hstat.moe (c := aivId - 1) (by omega) hm
      rw [Nat.sub_add_cancel hpos] at hprev
      simp [sendStart, Nat.pos_iff_ne_zero.1 hpos, hprev]
  · intro v
    have hnone : ¬ StoredIn sh b (sh.topk * b.aivStart sh aivId) (sh.topk * b.aivStart sh aivId) v := by
      rintro ⟨q, hle, hlt, -⟩
      omega
    rw [or_iff_left hnone]
    change v ∈ (List.range sh.expertNum).map (sendStart sh id stat aivId).expertSendStartIdx ↔ _
    simp only [List.mem_map, List.mem_range]
    refine exists_congr fun e => and_congr_right fun he => ?_
    rw [hstart e he, eq_comm]

theorem sendStep_exact (hvalid : b.Valid sh) {p0 p : Nat} {s : SendState} (hp0 : p0 ≤ p)
    (hp : p < b.assignments sh) (h : SendExact sh b p0 p s) :
    SendExact sh b p0 (p + 1) (sendStep sh b id s p) := by
  have htable := markSent_table (resetSent_table h.sent)
  refine ⟨fun hnext => sentTable_next htable hnext, ?_, ?_, ?_⟩
  · intro m hm
    have hold := h.offset m hm
    have hmark := htable m hm
    rw [moeTokens_div_succ]
    by_cases hlast : (p + 1) % sh.topk = 0
    · by_cases hnamed : b.NamedBefore sh m (p / sh.topk) (p + 1)
      · rw [if_pos hnamed] at hmark
        simp [sendStep, hlast, hm, hmark, hnamed, hold]
      · rw [if_neg hnamed] at hmark
        simp [sendStep, hlast, hmark, hnamed, hold]
    · simp [sendStep, hlast, hold]
  · intro e he
    rw [occurrences_succ]
    rcases eq_or_ne e (b.expertIds p) with rfl | hne
    · simp [sendStep, h.start _ he]
    · simp [sendStep, Function.update_of_ne hne, h.start e he, hne.symm]
  · intro v
    have hoffset := h.offset _ (moeRank_lt hvalid hp)
    have hstart := h.start _ (hvalid.expertIds_lt p hp)
    have hnext : occurrences b.expertIds (b.expertIds p) (p + 1) =
        occurrences b.expertIds (b.expertIds p) p + 1 := by
      rw [occurrences_succ, if_pos rfl]
    rw [storedIn_succ hp0, hnext, ← hoffset, ← hstart, ← or_assoc, ← h.stored]
    simp [sendStep]

/-- The indices of combine-recv before pass `p`, when the core began at `p0`. -/
structure RecvExact (sh : CamShape) (b : Batch V S) (p0 p : Nat) (s : RecvState) : Prop where
  start : ∀ e < sh.expertNum, s.expertRecvStartIdx e = occurrences b.expertIds e p
  stored : ∀ v ∈ s.stored, (∃ e < sh.expertNum, v = occurrences b.expertIds e p0) ∨ StoredIn sh b p0 p v

/-- First entry that a core of combine-recv passes. -/
def recvFirst (sh : CamShape) (b : Batch V S) (useDispatchPrefix : Bool) (aivId : Nat) : Nat :=
  if useDispatchPrefix then sh.topk * b.aivStart sh aivId else 0

theorem recvStart_exact (hstat : StatTable sh b stat) (hc : aivId < sh.attnAivNum)
    (useDispatchPrefix : Bool) :
    RecvExact sh b (recvFirst sh b useDispatchPrefix aivId) (recvFirst sh b useDispatchPrefix aivId)
      (recvStart sh id useDispatchPrefix stat aivId) := by
  have hstart : ∀ e < sh.expertNum, (recvStart sh id useDispatchPrefix stat aivId).expertRecvStartIdx e =
      occurrences b.expertIds e (recvFirst sh b useDispatchPrefix aivId) := by
    intro e he
    cases useDispatchPrefix with
    | false => simp [recvStart, recvFirst]
    | true =>
      rcases Nat.eq_zero_or_pos aivId with rfl | hpos
      · simp [recvStart, recvFirst, Batch.aivStart]
      · have hprev := hstat.expert (c := aivId - 1) (by omega) he
        rw [Nat.sub_add_cancel hpos] at hprev
        simp [recvStart, recvFirst, hpos, hprev]
  refine ⟨hstart, ?_⟩
  intro v hv
  change v ∈ (List.range sh.expertNum).map
    (recvStart sh id useDispatchPrefix stat aivId).expertRecvStartIdx at hv
  obtain ⟨e, he, rfl⟩ := List.mem_map.1 hv
  rw [List.mem_range] at he
  exact .inl ⟨e, he, hstart e he⟩

theorem recvStep_exact (hvalid : b.Valid sh) {p0 p : Nat} {s : RecvState} (hp0 : p0 ≤ p)
    (hp : p < b.assignments sh) (h : RecvExact sh b p0 p s) :
    RecvExact sh b p0 (p + 1) (recvStep b id s p) := by
  have hstart := h.start _ (hvalid.expertIds_lt p hp)
  refine ⟨?_, ?_⟩
  · intro e he
    rw [occurrences_succ]
    rcases eq_or_ne e (b.expertIds p) with rfl | hne
    · simp [recvStep, hstart]
    · simp [recvStep, Function.update_of_ne hne, h.start e he, hne.symm]
  · intro v hv
    have hnext : occurrences b.expertIds (b.expertIds p) (p + 1) =
        occurrences b.expertIds (b.expertIds p) p + 1 := by
      rw [occurrences_succ, if_pos rfl]
    rw [storedIn_succ hp0, hnext, ← hstart]
    simp only [recvStep, id, List.mem_append, List.mem_singleton] at hv
    rcases hv with hv | rfl
    · rcases h.stored v hv with hinit | hpass
      · exact .inl hinit
      · exact .inr (.inl hpass)
    · exact .inr (.inr (.inr rfl))

/-- The indices fit: no MoE rank gets more than `2 ^ 16` rows, and no expert is
named as often. -/
structure Batch.FitsU16 (b : Batch V S) (sh : CamShape) : Prop where
  rows : ∀ m < sh.moeRankNum, b.moeTokens sh m b.batchSize ≤ 2 ^ 16
  expertTokenNum : ∀ e < sh.expertNum, b.expertTokenNum sh e < 2 ^ 16

theorem Batch.FitsU16.occurrences_lt (h : b.FitsU16 sh) {e p : Nat} (he : e < sh.expertNum)
    (hp : p ≤ b.assignments sh) :
    occurrences b.expertIds e p < 2 ^ 16 :=
  Nat.lt_of_le_of_lt (occurrences_mono b.expertIds e hp) (h.expertTokenNum e he)

theorem Batch.FitsU16.storedIn_lt (h : b.FitsU16 sh) (hvalid : b.Valid sh) {p0 p v : Nat}
    (hp : p ≤ b.assignments sh) (hv : StoredIn sh b p0 p v) : v < 2 ^ 16 := by
  obtain ⟨q, -, hq, rfl | rfl⟩ := hv
  · have hq' : q < b.assignments sh := by omega
    have hrow : b.moeTokens sh (b.moeRank sh q) (q / sh.topk) <
        b.moeTokens sh (b.moeRank sh q) b.batchSize :=
      moeTokens_lt (routed_moeRank q) (token_lt hq')
    have hrows := h.rows _ (moeRank_lt hvalid hq')
    omega
  · exact h.occurrences_lt (hvalid.expertIds_lt q (by omega)) (by omega)

/-- The passes of a core of dispatch-send. -/
theorem sendLoop_exact (hvalid : b.Valid sh) (hstat : StatTable sh b stat) (hc : aivId < sh.attnAivNum) :
    SendExact sh b (sh.topk * b.aivStart sh aivId) (sh.topk * b.aivStart sh (aivId + 1))
      (forRange (sh.topk * b.aivStart sh aivId)
        (sh.topk * b.aivStart sh (aivId + 1) - sh.topk * b.aivStart sh aivId) (sendStart sh id stat aivId)
        (sendStep sh b id)) := by
  have hle : sh.topk * b.aivStart sh aivId ≤ sh.topk * b.aivStart sh (aivId + 1) :=
    Nat.mul_le_mul_left _ (aivStart_mono sh b (Nat.le_succ aivId))
  have hend := topk_mul_aivStart_le sh b (show aivId + 1 ≤ sh.attnAivNum from hc)
  have hloop := forRange_inv (SendExact sh b (sh.topk * b.aivStart sh aivId))
    (n := sh.topk * b.aivStart sh (aivId + 1) - sh.topk * b.aivStart sh aivId)
    (sendStart_exact hstat hc) fun p s hp0 hp h => sendStep_exact hvalid hp0 (by omega) h
  rwa [Nat.add_sub_cancel' hle] at hloop

/-- The passes of a core of combine-recv. -/
theorem recvLoop_exact (hvalid : b.Valid sh) (hstat : StatTable sh b stat) (hc : aivId < sh.attnAivNum)
    (useDispatchPrefix : Bool) :
    RecvExact sh b (recvFirst sh b useDispatchPrefix aivId) (sh.topk * b.aivStart sh (aivId + 1))
      (forRange (recvFirst sh b useDispatchPrefix aivId)
        (sh.topk * b.aivStart sh (aivId + 1) - recvFirst sh b useDispatchPrefix aivId)
        (recvStart sh id useDispatchPrefix stat aivId) (recvStep b id)) := by
  have hle : recvFirst sh b useDispatchPrefix aivId ≤ sh.topk * b.aivStart sh (aivId + 1) := by
    unfold recvFirst
    split
    · exact Nat.mul_le_mul_left _ (aivStart_mono sh b (Nat.le_succ aivId))
    · exact Nat.zero_le _
  have hend := topk_mul_aivStart_le sh b (show aivId + 1 ≤ sh.attnAivNum from hc)
  have hloop := forRange_inv (RecvExact sh b (recvFirst sh b useDispatchPrefix aivId))
    (n := sh.topk * b.aivStart sh (aivId + 1) - recvFirst sh b useDispatchPrefix aivId)
    (recvStart_exact hstat hc useDispatchPrefix) fun p s hp0 hp h => recvStep_exact hvalid hp0 (by omega) h
  rwa [Nat.add_sub_cancel' hle] at hloop

theorem Batch.FitsU16.sendStored_lt (h : b.FitsU16 sh) (hvalid : b.Valid sh)
    (hstat : StatTable sh b stat) (hc : aivId < sh.attnAivNum) (room : KernelRoom) :
    ∀ v ∈ sendStored sh b id room stat aivId, v < 2 ^ 16 := by
  have hle := topk_mul_aivStart_le sh b hc.le
  have hend := topk_mul_aivStart_le sh b (show aivId + 1 ≤ sh.attnAivNum from hc)
  have hbound : ∀ p ≤ b.assignments sh, ∀ s, SendExact sh b (sh.topk * b.aivStart sh aivId) p s →
      ∀ v ∈ s.stored, v < 2 ^ 16 := by
    intro p hp s hs v hv
    rcases (hs.stored v).1 hv with ⟨e, he, rfl⟩ | hpass
    · exact h.occurrences_lt he hle
    · exact h.storedIn_lt hvalid hp hpass
  unfold sendStored
  split
  · simp
  · split
    · exact hbound _ hle _ (sendStart_exact hstat hc)
    · exact hbound _ hend _ (sendLoop_exact hvalid hstat hc)

theorem mem_recvCounts (hstat : StatTable sh b stat) {v : Nat} :
    v ∈ recvCounts sh id stat ↔ ∃ e < sh.expertNum, v = b.expertTokenNum sh e := by
  simp only [recvCounts, List.mem_map, List.mem_range, id]
  refine exists_congr fun e => and_congr_right fun he => ?_
  rw [hstat.total he, eq_comm]

theorem Batch.FitsU16.recvStored_lt (h : b.FitsU16 sh) (hvalid : b.Valid sh) (hstat : StatTable sh b stat)
    (hc : aivId < sh.attnAivNum) (room : KernelRoom) (useDispatchPrefix : Bool) :
    ∀ v ∈ recvStored sh b id room useDispatchPrefix stat aivId, v < 2 ^ 16 := by
  have hfirst : recvFirst sh b useDispatchPrefix aivId ≤ b.assignments sh := by
    unfold recvFirst
    split
    · exact topk_mul_aivStart_le sh b hc.le
    · exact Nat.zero_le _
  have hend := topk_mul_aivStart_le sh b (show aivId + 1 ≤ sh.attnAivNum from hc)
  have hcounts : ∀ v ∈ recvCounts sh id stat, v < 2 ^ 16 := by
    intro v hv
    obtain ⟨e, he, rfl⟩ := (mem_recvCounts hstat).1 hv
    exact h.expertTokenNum e he
  unfold recvStored
  split
  · simp
  · split
    · exact hcounts
    · intro v hv
      rcases List.mem_append.1 hv with hv | hv
      · exact hcounts v hv
      · rcases (recvLoop_exact hvalid hstat hc useDispatchPrefix).stored v hv with ⟨e, he, rfl⟩ | hpass
        · exact h.occurrences_lt he hfirst
        · exact h.storedIn_lt hvalid hend hpass

theorem Batch.FitsU16.stored_lt (h : b.FitsU16 sh) (hvalid : b.Valid sh) (hstat : StatTable sh b stat)
    (sendRoom recvRoom : KernelRoom) : ∀ v ∈ stored sh b id sendRoom recvRoom stat, v < 2 ^ 16 := by
  intro v hv
  rcases List.mem_append.1 hv with hv | hv
  · obtain ⟨c, hc, hv⟩ := List.mem_flatMap.1 hv
    exact h.sendStored_lt hvalid hstat (List.mem_range.1 hc) sendRoom v hv
  · obtain ⟨c, hc, hv⟩ := List.mem_flatMap.1 hv
    exact h.recvStored_lt hvalid hstat (List.mem_range.1 hc) recvRoom _ v hv

/-- Every row that goes to a MoE rank is some assignment's. -/
theorem exists_row {m r : Nat} (h : r < b.moeTokens sh m b.batchSize) :
    ∃ p < b.assignments sh, b.moeRank sh p = m ∧ b.moeTokens sh m (p / sh.topk) = r := by
  obtain ⟨t, ht, hrouted, hr⟩ := exists_count_eq h
  obtain ⟨p, hp, hle, hm⟩ := hrouted
  have hdiv : p / sh.topk = t := Nat.div_eq_of_lt_le (by omega) hp
  refine ⟨p, ?_, hm, ?_⟩
  · calc p < (t + 1) * sh.topk := hp
      _ ≤ b.batchSize * sh.topk := Nat.mul_le_mul_right _ ht
  · rw [hdiv]
    exact hr

/-- An assignment is some core's. -/
theorem exists_core {p : Nat} (hp : p < b.assignments sh) :
    ∃ c < sh.attnAivNum, sh.topk * b.aivStart sh c ≤ p ∧ p < sh.topk * b.aivStart sh (c + 1) := by
  have ht : p / sh.topk ∈ (List.range sh.attnAivNum).flatMap (Blocks.block (b.aivStart sh)) := by
    have hlast : b.aivStart sh sh.attnAivNum = b.batchSize := Blocks.spread_last _ sh.attnAivNum_pos
    have hzero : b.aivStart sh 0 = 0 := Blocks.spread_zero _ _
    rw [Blocks.flatMap_block fun i _ => aivStart_mono sh b (Nat.le_succ i), hzero, hlast, List.mem_range'_1]
    have htoken : p / sh.topk < b.batchSize := token_lt hp
    exact ⟨Nat.zero_le _, by omega⟩
  obtain ⟨c, hc, hblock⟩ := List.mem_flatMap.1 ht
  obtain ⟨hle, hlt⟩ := Blocks.mem_block.1 hblock
  refine ⟨c, List.mem_range.1 hc, ?_, ?_⟩
  · rw [Nat.mul_comm]
    exact (Nat.le_div_iff_mul_le sh.topk_pos).1 hle
  · rw [Nat.mul_comm]
    exact (Nat.div_lt_iff_lt_mul sh.topk_pos).1 hlt

/-- Kernels that have room store indices below `2 ^ 16` exactly for batches whose
indices fit. -/
theorem stored_lt_iff (hvalid : b.Valid sh) (hstat : StatTable sh b stat) :
    (∀ v ∈ stored sh b id ⟨true, true⟩ ⟨true, true⟩ stat, v < 2 ^ 16) ↔ b.FitsU16 sh := by
  constructor
  · intro h
    refine ⟨?_, ?_⟩
    · intro m hm
      rw [← not_lt]
      intro hlt
      obtain ⟨p, hp, rfl, hrow⟩ := exists_row hlt
      obtain ⟨c, hc, hle, hend⟩ := exists_core hp
      apply Nat.lt_irrefl (2 ^ 16)
      apply h
      apply List.mem_append_left
      rw [List.mem_flatMap]
      refine ⟨c, List.mem_range.2 hc, ?_⟩
      exact ((sendLoop_exact hvalid hstat hc).stored _).2 (.inr ⟨p, hle, hend, .inl hrow.symm⟩)
    · intro e he
      apply h
      apply List.mem_append_right
      rw [List.mem_flatMap]
      refine ⟨0, List.mem_range.2 sh.attnAivNum_pos, ?_⟩
      exact List.mem_append_left _ ((mem_recvCounts hstat).2 ⟨e, he, rfl⟩)
  · exact fun h => h.stored_lt hvalid hstat _ _

end Exact

/-! ## Batches that are dispatched -/

/-- A call of `send_attn_output`, and what else decides about its operators. -/
structure DispatchCall (X W : Type) where
  connector : CAMAsyncAFDConnector X W
  args : CAMAsyncAFDConnector.SendAttnOutputArgs X W
  /-- The shape attributes of the operators. -/
  shape : ShapeConfig
  attnRankId : Nat
  hcclBuffsize : Option Nat
  aivNum : Nat
  totalUbSize : Nat
  /-- The receive capacity, when the FFN ranks run in FULL mode. -/
  graphCapacity : Option Int

namespace DispatchCall
variable {X W : Type} (d : DispatchCall X W)

def metadata : P2p.AFDTransferMetadata := (d.connector.contexts d.args.context).metadata

def sendTiling : Option DispatchSendTiling :=
  dispatchSendTiling d.shape (getMaxWindowSize d.hcclBuffsize) d.aivNum d.attnRankId d.metadata.layerIdx

def recvTiling : Option CombineRecvTiling :=
  combineRecvTiling d.shape (getMaxWindowSize d.hcclBuffsize) d.aivNum d.attnRankId

/-- The connector, the bindings and the host tilings accept the call, and in FULL
mode its startup went through. -/
structure Accepted (sendTiling : DispatchSendTiling) (recvTiling : CombineRecvTiling) : Prop where
  sent : (d.connector.sendAttnOutput d.args).2 = .ok ()
  attributes : d.shape.maxSeqLen = d.connector.maxNumBatchedTokens ∧ d.shape.tpSize = d.connector.tpSize ∧
    (d.shape.batchSize : Int) = d.metadata.totalTokens ∧
      (d.shape.hiddenSize : Int) = d.connector.hiddenSize ∧
    (d.shape.topk : Int) = d.connector.topk
  dispatchSend : dispatchSendBinding d.shape d.args.hiddenStates.shape
    ((d.args.topkIds.map Tensor.shape).getD []) d.attnRankId d.metadata.layerIdx = .ok ()
  combineRecv : combineRecvBinding d.shape ((d.args.topkIds.map Tensor.shape).getD [])
    ((d.args.topkWeights.map Tensor.shape).getD []) d.attnRankId = .ok ()
  sendTiling : d.sendTiling = some sendTiling
  recvTiling : d.recvTiling = some recvTiling
  startup : ∀ capacity, d.graphCapacity = some capacity →
    validateGraphCapacity d.connector.maxNumBatchedTokens d.connector.tpSize capacity = .ok ()

/-- The kernels run on the sizes and the routing table of the call. -/
structure Runs {V S : Type} (sh : CamShape) (b : Batch V S) : Prop where
  sizes : sh.moeRankNum = d.shape.moeRankNum ∧ sh.expertNumPerMoe = d.shape.routeExpertNumPerMoe ∧
    sh.topk = d.shape.topk ∧ sh.attnAivNum = d.aivNum
  batchSize : b.batchSize = d.shape.batchSize
  valid : b.Valid sh
  expertIds : ∀ p < b.assignments sh, ∃ topkIds id, d.args.topkIds = some topkIds ∧
    topkIds.values[p]? = some id ∧
    (Int32.ofInt id).toInt = b.expertIds p

end DispatchCall

section Wraps
variable {X W V S : Type} {d : DispatchCall X W} {sh : CamShape} {b : Batch V S}
  {sendTiling : DispatchSendTiling} {recvTiling : CombineRecvTiling}

theorem statTable_preProcess (sched : Schedule) (stat : Nat × Nat → Nat) :
    StatTable sh b (preProcess sh b sched stat) := fun _ hc _ hcol => preProcess_eq sh b sched stat hc hcol

/-- FULL mode bounds the rows of a batch. -/
theorem DispatchCall.Accepted.batchSize_le (h : d.Accepted sendTiling recvTiling) {capacity : Int}
    (hfull : d.graphCapacity = some capacity) : d.shape.batchSize < 2 ^ 16 := by
  obtain ⟨-, -, -, -, hrows⟩ := validateGraphCapacity_ok (h.startup capacity hfull)
  obtain ⟨hok, -⟩ := dispatchSendTiling_ok h.sendTiling
  have hbatch := hok.batch.2
  rw [h.attributes.1, h.attributes.2.1] at hbatch
  have hcast : ((d.connector.maxNumBatchedTokens / d.connector.tpSize : Nat) : Int) ≤
      CAM_MAX_SOURCE_ROWS := by
    rwa [Int.natCast_div]
  have hmax : CAM_MAX_SOURCE_ROWS = 65535 := rfl
  omega

/-- For every accepted batch and every routing table, and whatever the order in
which the cores share their counts: the kernels lose nothing of an index or a
count by keeping it in 16 bits when each MoE rank gets at most `2 ^ 16` rows and
each expert is named less often than that; kernels that have room for their
buffers lose nothing only then. FULL mode has the first condition, but not the
second. -/
theorem counters_do_not_wrap_iff (haccepted : d.Accepted sendTiling recvTiling) (hruns : d.Runs sh b)
    (sched : Schedule) (memory : Nat × Nat → Nat) :
    let stat := preProcess sh b sched memory
    let sendRoom := sendTiling.room d.totalUbSize
    let recvRoom := recvTiling.room d.totalUbSize
    (stored sh b u16 sendRoom recvRoom stat = stored sh b id sendRoom recvRoom stat ↔
      ∀ v ∈ stored sh b id sendRoom recvRoom stat, v < 2 ^ 16) ∧
    (b.FitsU16 sh → ∀ v ∈ stored sh b id sendRoom recvRoom stat, v < 2 ^ 16) ∧
    (sendRoom = ⟨true, true⟩ → recvRoom = ⟨true, true⟩ →
      ((∀ v ∈ stored sh b id sendRoom recvRoom stat, v < 2 ^ 16) ↔ b.FitsU16 sh)) ∧
    (d.graphCapacity.isSome → ∀ m < sh.moeRankNum, b.moeTokens sh m b.batchSize ≤ 2 ^ 16) := by
  intro stat sendRoom recvRoom
  have hstat : StatTable sh b stat := statTable_preProcess sched memory
  refine ⟨stored_u16_eq_iff sendRoom recvRoom, ?_, ?_, ?_⟩
  · intro hfits
    exact hfits.stored_lt hruns.valid hstat sendRoom recvRoom
  · intro hsend hrecv
    rw [hsend, hrecv]
    exact stored_lt_iff hruns.valid hstat
  · intro hfull m _
    obtain ⟨capacity, hcapacity⟩ := Option.isSome_iff_exists.1 hfull
    have hbatch := haccepted.batchSize_le hcapacity
    have hle : b.moeTokens sh m b.batchSize ≤ b.batchSize := moeTokens_le m _
    have hsize := hruns.batchSize
    omega

end Wraps

/-! ## One expert for all tokens -/

/-- An Attention rank with two cores sends all its tokens to expert 0 of a MoE
rank that has two experts; a padding row looks like that. -/
def sameExpert (tokens topk : Nat) (topk_lt : topk < 2 ^ 32) (graphCapacity : Option Int) :
    DispatchCall Unit Unit where
  connector := ⟨true, 16, topk, tokens, 1, fun _ => ⟨⟨0, 0, [tokens]⟩, none⟩, ∅, []⟩
  args := ⟨⟨[tokens, 16], []⟩, 0, some ⟨[tokens, topk], List.replicate (tokens * topk) 0⟩,
    some ⟨[tokens, topk], []⟩, none⟩
  shape := ⟨tokens, tokens, 16, topk, 1, 1, 2, 2, 1, 0, Nat.le_of_ble_eq_true rfl, topk_lt,
    Nat.le_of_ble_eq_true rfl, Nat.le_of_ble_eq_true rfl, Nat.le_of_ble_eq_true rfl⟩
  attnRankId := 0
  hcclBuffsize := none
  aivNum := 2
  totalUbSize := 192 * 1024
  graphCapacity := graphCapacity

def sameExpertShape (topk : Nat) (topk_pos : 0 < topk) : CamShape :=
  ⟨1, 1, 2, 1, topk, 2, 2, 262144, 16, true, Nat.one_pos, Nat.two_pos, Nat.one_pos, Nat.dvd_refl 1,
    topk_pos, Nat.two_pos, Nat.two_pos, by decide⟩

def sameExpertBatch (tokens : Nat) : Batch Unit Unit := ⟨tokens, fun _ => (), fun _ => 0, fun _ => ()⟩

section SameExpert
variable (tokens topk : Nat) (topk_lt : topk < 2 ^ 32) (topk_pos : 0 < topk) (graphCapacity : Option Int)

theorem sameExpert_runs (hpos : 0 < tokens) :
    (sameExpert tokens topk topk_lt graphCapacity).Runs (sameExpertShape topk topk_pos)
      (sameExpertBatch tokens) := by
  refine ⟨⟨rfl, rfl, rfl, rfl⟩, rfl, ⟨hpos, fun _ _ => Nat.two_pos⟩, ?_⟩
  intro p hp
  refine ⟨_, 0, rfl, ?_, rfl⟩
  exact List.getElem?_replicate_of_lt hp

theorem sameExpert_expertTokenNum :
    (sameExpertBatch tokens).expertTokenNum (sameExpertShape topk topk_pos) 0 = tokens * topk := by
  simp [Batch.expertTokenNum, Batch.assignments, occurrences, sameExpertBatch, sameExpertShape]

/-- Its kernels have room whenever the checks let it pass. -/
theorem sameExpert_accepted
    (hsent : ((sameExpert tokens topk topk_lt graphCapacity).connector.sendAttnOutput
      (sameExpert tokens topk topk_lt graphCapacity).args).2 = .ok ())
    (hdispatch : dispatchSendBinding (sameExpert tokens topk topk_lt graphCapacity).shape [tokens, 16]
      [tokens, topk] 0 0 = .ok ())
    (hcombine : combineRecvBinding (sameExpert tokens topk topk_lt graphCapacity).shape [tokens, topk]
      [tokens, topk] 0 = .ok ())
    (hsend : (sameExpert tokens topk topk_lt graphCapacity).sendTiling.map (·.room (192 * 1024)) =
      some ⟨true, true⟩)
    (hrecv : (sameExpert tokens topk topk_lt graphCapacity).recvTiling.map (·.room (192 * 1024)) =
      some ⟨true, true⟩)
    (hfull : ∀ capacity, graphCapacity = some capacity →
      validateGraphCapacity tokens 1 capacity = .ok ()) :
    ∃ sendTiling recvTiling, (sameExpert tokens topk topk_lt graphCapacity).Accepted sendTiling recvTiling ∧
      sendTiling.room (192 * 1024) = ⟨true, true⟩ ∧ recvTiling.room (192 * 1024) = ⟨true, true⟩ := by
  obtain ⟨sendTiling, hsome, hsendRoom⟩ := Option.map_eq_some_iff.1 hsend
  obtain ⟨recvTiling, hsome', hrecvRoom⟩ := Option.map_eq_some_iff.1 hrecv
  exact ⟨sendTiling, recvTiling,
    ⟨hsent, ⟨rfl, rfl, (Int.add_zero _).symm, rfl, rfl⟩, hdispatch, hcombine, hsome, hsome', hfull⟩,
    hsendRoom, hrecvRoom⟩

end SameExpert

/-- Two tokens for expert 0: every index fits. -/
theorem counters_do_not_wrap_iff_two_tokens :
    ∃ sendTiling recvTiling, (sameExpert 2 1 (by decide) none).Accepted sendTiling recvTiling ∧
      ∀ v ∈ stored (sameExpertShape 1 Nat.one_pos) (sameExpertBatch 2) id (sendTiling.room (192 * 1024))
        (recvTiling.room (192 * 1024))
        (preProcess (sameExpertShape 1 Nat.one_pos) (sameExpertBatch 2) Schedule.inOrder fun _ => 0),
          v < 2 ^ 16 := by
  obtain ⟨sendTiling, recvTiling, haccepted, hsend, hrecv⟩ :=
    sameExpert_accepted 2 1 (by decide) none rfl rfl rfl (by decide +kernel) (by decide +kernel) (by simp)
  refine ⟨sendTiling, recvTiling, haccepted, ?_⟩
  have hiff := counters_do_not_wrap_iff haccepted
    (sameExpert_runs 2 1 (by decide) Nat.one_pos none Nat.two_pos) Schedule.inOrder fun _ => 0
  apply (hiff.2.2.1 hsend hrecv).2
  refine ⟨?_, ?_⟩
  · decide
  · decide

/-- An eager batch of 65537 tokens, and a FULL mode batch of 40000 rows that name
expert 0 twice, are accepted. The last row of the first one is stored as row 0,
and combine-recv keeps the counts 1 and 14464 of expert 0. -/
theorem counters_wrap :
    (∃ sendTiling recvTiling, (sameExpert 65537 1 (by decide) none).Accepted sendTiling recvTiling ∧
      ¬ ∀ v ∈ stored (sameExpertShape 1 Nat.one_pos) (sameExpertBatch 65537) id (sendTiling.room
        (192 * 1024))
        (recvTiling.room (192 * 1024))
        (preProcess (sameExpertShape 1 Nat.one_pos) (sameExpertBatch 65537) Schedule.inOrder fun _ =>
          0), v < 2 ^ 16) ∧
    (∃ sendTiling recvTiling, (sameExpert 40000 2 (by decide) (some 262144)).Accepted sendTiling
      recvTiling ∧
      ¬ ∀ v ∈ stored (sameExpertShape 2 Nat.two_pos) (sameExpertBatch 40000) id (sendTiling.room
        (192 * 1024))
        (recvTiling.room (192 * 1024))
        (preProcess (sameExpertShape 2 Nat.two_pos) (sameExpertBatch 40000) Schedule.inOrder fun _ =>
          0), v < 2 ^ 16) := by
  refine ⟨?_, ?_⟩
  · obtain ⟨sendTiling, recvTiling, haccepted, hsend, hrecv⟩ :=
      sameExpert_accepted 65537 1 (by decide) none (by decide +kernel) (by decide +kernel)
        (by decide +kernel) (by decide +kernel) (by decide +kernel) (by simp)
    refine ⟨sendTiling, recvTiling, haccepted, ?_⟩
    have hvalid := (sameExpert_runs 65537 1 (by decide) Nat.one_pos none (by decide)).valid
    rw [hsend, hrecv, stored_lt_iff hvalid (statTable_preProcess _ _)]
    intro hfits
    have hcount := hfits.expertTokenNum 0 Nat.two_pos
    rw [sameExpert_expertTokenNum] at hcount
    omega
  · obtain ⟨sendTiling, recvTiling, haccepted, hsend, hrecv⟩ :=
      sameExpert_accepted 40000 2 (by decide) (some 262144)
        (by decide +kernel) (by decide +kernel) (by decide +kernel) (by decide +kernel) (by decide +kernel)
        (by rintro _ ⟨⟩; decide)
    refine ⟨sendTiling, recvTiling, haccepted, ?_⟩
    have hvalid := (sameExpert_runs 40000 2 (by decide) Nat.two_pos (some 262144) (by decide)).valid
    rw [hsend, hrecv, stored_lt_iff hvalid (statTable_preProcess _ _)]
    intro hfits
    have hcount := hfits.expertTokenNum 0 Nat.two_pos
    rw [sameExpert_expertTokenNum] at hcount
    omega

end AfdPlugin.Cam
