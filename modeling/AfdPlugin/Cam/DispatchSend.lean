import AfdPlugin.Cam.Counters
import AfdPlugin.Cam.SharedStats
/-!
# What dispatch-send writes

After the statistics every core sends its own tokens: a row to each MoE rank that the
token is routed to, and for each assignment an entry in that rank's address table, in
batches of 16 entries an expert. Indices are kept in 16 bits.
-/

namespace AfdPlugin.Cam

section Model
variable {V S : Type} (sh : CamShape) (b : Batch V S)

/-- What `PreProcess` leaves in UB. -/
structure CoreStart where
  expertRecvTokenNum : Nat → Nat
  moeSendStartOffset : Nat → Nat
  expertSendStartIdx : Nat → Nat

/-- The end of `PreProcess`, after the gathered table. -/
def coreStart (aivStat : Nat × Nat → Nat) (aivId : Nat) : CoreStart where
  expertRecvTokenNum := fun expertId => aivStat (sh.attnAivNum - 1, sh.moeRankNum + expertId)
  moeSendStartOffset := fun col => if aivId = 0 then 0 else u16 (aivStat (aivId - 1, col))
  expertSendStartIdx :=
    fun expertId => if aivId = 0 then 0 else u16 (aivStat (aivId - 1, sh.moeRankNum + expertId))

/-- Where the entries of each expert start in its MoE rank's address table. -/
def expertPrefixOffset (expertRecvTokenNum : Nat → Nat) : Nat → Nat :=
  forRange 0 sh.expertNum (fun _ => 0) fun offset expertId =>
    if expertId % sh.expertNumPerMoe ≠ 0 then
      Function.update offset expertId (offset (expertId - 1) + expertRecvTokenNum (expertId - 1))
    else offset

/-- The state of `DispatchSend`. Places of a MoE rank's window are pairs of the rank
and an index; the row is `none` before the first copy. -/
structure DispatchState (V : Type) where
  xTensor : Option V
  tokenSentFlag : Nat → Nat
  moeSendStartOffset : Nat → Nat
  expertSendStartIdx : Nat → Nat
  tokenOffsetBatch : Nat → Nat
  tokenOffsetBatchInfo : Nat → Nat
  tokenWrites : List ((Nat × Nat) × Option V)
  addrWrites : List ((Nat × Nat) × Nat)

def tokenOffsetFlushBatchSize : Nat := UB_ALIGN / 2

def flushExpertTokenOffset (s : DispatchState V) (expertId : Nat) : DispatchState V :=
  let pendingOffsetCnt := s.tokenOffsetBatchInfo (2 * expertId)
  let expertSlotOffset := s.tokenOffsetBatchInfo (2 * expertId + 1)
  if pendingOffsetCnt = 0 then s
  else
    { s with
      addrWrites := s.addrWrites ++ (List.range pendingOffsetCnt).map fun i =>
        ((expertId / sh.expertNumPerMoe, expertSlotOffset + i),
          s.tokenOffsetBatch (tokenOffsetFlushBatchSize * expertId + i))
      tokenOffsetBatchInfo := Function.update s.tokenOffsetBatchInfo (2 * expertId) 0 }

/-- An entry goes to its expert's batch; the first one of a batch says where the
batch goes. -/
def batchExpertTokenOffset (s : DispatchState V) (expertId moeTokenSendIdx expertSlotOffset : Nat) :
    DispatchState V :=
  let pendingOffsetCnt := s.tokenOffsetBatchInfo (2 * expertId)
  let info :=
    if pendingOffsetCnt = 0 then Function.update s.tokenOffsetBatchInfo (2 * expertId + 1) expertSlotOffset
    else s.tokenOffsetBatchInfo
  { s with
    tokenOffsetBatch :=
      Function.update s.tokenOffsetBatch (tokenOffsetFlushBatchSize * expertId + pendingOffsetCnt)
        (u16 moeTokenSendIdx)
    tokenOffsetBatchInfo := Function.update info (2 * expertId) (pendingOffsetCnt + 1) }

def pushExpertTokenOffset (s : DispatchState V) (expertId moeTokenSendIdx expertSlotOffset : Nat) :
    DispatchState V :=
  let s := batchExpertTokenOffset s expertId moeTokenSendIdx expertSlotOffset
  if s.tokenOffsetBatchInfo (2 * expertId) = tokenOffsetFlushBatchSize then
    flushExpertTokenOffset sh s expertId else s

/-- The first entry of a token that names its MoE rank sends the row. -/
def sendToken (s : DispatchState V) (moeRankId moeTokenSendIdx : Nat) : DispatchState V :=
  { s with
    tokenWrites := if s.tokenSentFlag moeRankId = 0 then
      s.tokenWrites ++ [((moeRankId, moeTokenSendIdx), s.xTensor)] else s.tokenWrites
    tokenSentFlag := markSent s.tokenSentFlag moeRankId }

/-- One entry of the routing table. -/
def dispatchStep (offset : Nat → Nat) (s : DispatchState V) (topkId : Nat) : DispatchState V :=
  let tokenId := topkId / sh.topk
  let s := { s with
    xTensor := if topkId % sh.topk = 0 then some (b.x tokenId) else s.xTensor
    tokenSentFlag := resetSent sh s.tokenSentFlag topkId }
  let moeRankId := b.moeRank sh topkId
  let moeTokenSendIdx := s.moeSendStartOffset moeRankId
  let expertId := b.expertIds topkId
  let expertTokenSendIdx := s.expertSendStartIdx expertId
  let s := sendToken s moeRankId moeTokenSendIdx
  let s := pushExpertTokenOffset sh s expertId moeTokenSendIdx (offset expertId + expertTokenSendIdx)
  { s with
    expertSendStartIdx := Function.update s.expertSendStartIdx expertId (u16 (expertTokenSendIdx + 1))
    moeSendStartOffset :=
      if (topkId + 1) % sh.topk = 0 then
        fun m => if m < sh.moeRankNum ∧ s.tokenSentFlag m = 1 then u16 (s.moeSendStartOffset m + 1)
          else s.moeSendStartOffset m
      else s.moeSendStartOffset }

def dispatchStart (start : CoreStart) : DispatchState V :=
  ⟨none, fun _ => 0, start.moeSendStartOffset, start.expertSendStartIdx, fun _ => 0, fun _ => 0, [], []⟩

/-- `DispatchSend` of a core, up to its flags. -/
def dispatchLoop (start : CoreStart) (aivId : Nat) : DispatchState V :=
  let first := sh.topk * b.aivStart sh aivId
  let s := forRange first (sh.topk * b.aivStart sh (aivId + 1) - first) (dispatchStart start)
    (dispatchStep sh b (expertPrefixOffset sh start.expertRecvTokenNum))
  forRange 0 sh.expertNum s (flushExpertTokenOffset sh)

/-- What a core of dispatch-send has computed and written. -/
structure CoreOutcome (V : Type) where
  start : Option CoreStart
  tokenWrites : List ((Nat × Nat) × Option V)
  addrWrites : List ((Nat × Nat) × Nat)

/-- A core of dispatch-send, from the table that `PreProcess` leaves in global memory.
Without room for its buffers it takes its error return. -/
def dispatchSend (room : KernelRoom) (mem : Nat → Nat) (aivId : Nat) : CoreOutcome V :=
  if ¬ room.statistics then ⟨none, [], []⟩
  else
    let start := coreStart sh (sh.statAt mem) aivId
    if ¬ room.buffers then ⟨some start, [], []⟩
    else
      let s := dispatchLoop sh b start aivId
      ⟨some start, s.tokenWrites, s.addrWrites⟩

end Model

/-! ## Batches of address entries -/

section Batches
variable {V : Type} (sh : CamShape) {s : DispatchState V} {e : Nat}

/-- The entries of an expert that are not flushed yet. -/
def pendingWrites (s : DispatchState V) (e : Nat) : List ((Nat × Nat) × Nat) :=
  (List.range (s.tokenOffsetBatchInfo (2 * e))).map fun i =>
    ((e / sh.expertNumPerMoe, s.tokenOffsetBatchInfo (2 * e + 1) + i),
      s.tokenOffsetBatch (tokenOffsetFlushBatchSize * e + i))

/-- All entries so far: the flushed ones and those of the batches. -/
def addrEntries (s : DispatchState V) : List ((Nat × Nat) × Nat) :=
  s.addrWrites ++ (List.range sh.expertNum).flatMap (pendingWrites sh s)

theorem count_flatMap_update {β : Type} [BEq β] (f f' : Nat → List β) {n e : Nat} (he : e < n)
    (h : ∀ e' < n, e' ≠ e → f' e' = f e') (a : β) :
    ((List.range n).flatMap f').count a + (f e).count a =
      ((List.range n).flatMap f).count a + (f' e).count a := by
  obtain ⟨l, l', hsplit⟩ := List.append_of_mem (List.mem_range.2 he)
  have hnodup : (l ++ e :: l').Nodup := hsplit ▸ List.nodup_range
  have hnotin := (List.nodup_middle.1 hnodup).notMem
  rw [List.mem_append, not_or] at hnotin
  have hlt : ∀ x ∈ l ++ e :: l', x < n := fun x hx => List.mem_range.1 (hsplit ▸ hx)
  have hl : l.flatMap f' = l.flatMap f :=
    List.flatMap_congr fun x hx => h x (hlt x (by simp [hx])) fun heq => hnotin.1 (heq ▸ hx)
  have hl' : l'.flatMap f' = l'.flatMap f :=
    List.flatMap_congr fun x hx => h x (hlt x (by simp [hx])) fun heq => hnotin.2 (heq ▸ hx)
  rw [hsplit]
  simp only [List.flatMap_append, List.flatMap_cons, List.count_append, hl, hl']
  omega

variable {sh}

theorem flush_info (s : DispatchState V) (e i : Nat) :
    (flushExpertTokenOffset sh s e).tokenOffsetBatchInfo i = if i = 2 * e then
      0 else s.tokenOffsetBatchInfo i := by
  unfold flushExpertTokenOffset
  dsimp only
  split
  · rename_i hnone
    split
    · rename_i heq
      rw [heq, hnone]
    · rfl
  · exact Function.update_apply _ _ _ _

@[simp] theorem flush_batch (s : DispatchState V) (e : Nat) :
    (flushExpertTokenOffset sh s e).tokenOffsetBatch = s.tokenOffsetBatch := by
  unfold flushExpertTokenOffset
  dsimp only
  split <;> rfl

@[simp] theorem flush_tokenWrites (s : DispatchState V) (e : Nat) :
    (flushExpertTokenOffset sh s e).tokenWrites = s.tokenWrites := by
  unfold flushExpertTokenOffset
  dsimp only
  split <;> rfl

theorem flush_addrWrites (s : DispatchState V) (e : Nat) :
    (flushExpertTokenOffset sh s e).addrWrites = s.addrWrites ++ pendingWrites sh s e := by
  unfold flushExpertTokenOffset pendingWrites
  dsimp only
  split
  · rename_i hnone
    simp [hnone]
  · rfl

theorem pendingWrites_flush (s : DispatchState V) (e e' : Nat) :
    pendingWrites sh (flushExpertTokenOffset sh s e) e' = if e' = e then [] else pendingWrites sh s e' := by
  have hodd : 2 * e' + 1 ≠ 2 * e := by omega
  unfold pendingWrites
  rw [flush_info, flush_info, if_neg hodd, flush_batch]
  by_cases h : e' = e
  · simp [h]
  · have hne : 2 * e' ≠ 2 * e := by omega
    simp [h]

/-- A flush moves entries and neither loses nor adds one. -/
theorem flush_addrEntries (he : e < sh.expertNum) :
    (addrEntries sh (flushExpertTokenOffset sh s e)).Perm (addrEntries sh s) := by
  rw [List.perm_iff_count]
  intro a
  have hcount := count_flatMap_update (pendingWrites sh s)
    (pendingWrites sh (flushExpertTokenOffset sh s e)) he
    (fun e' _ hne => by rw [pendingWrites_flush, if_neg hne]) a
  rw [pendingWrites_flush, if_pos rfl] at hcount
  simp only [addrEntries, flush_addrWrites, List.count_append, List.count_nil] at hcount ⊢
  omega

/-- Where a new entry of expert `e` goes when `expertSlotOffset` is computed for it. -/
def batchSlot (s : DispatchState V) (e expertSlotOffset : Nat) : Nat :=
  if s.tokenOffsetBatchInfo (2 * e) = 0 then expertSlotOffset
  else s.tokenOffsetBatchInfo (2 * e + 1) + s.tokenOffsetBatchInfo (2 * e)

theorem batch_info (s : DispatchState V) (e idx slot i : Nat) :
    (batchExpertTokenOffset s e idx slot).tokenOffsetBatchInfo i =
      if i = 2 * e then s.tokenOffsetBatchInfo (2 * e) + 1
      else if i = 2 * e + 1 ∧ s.tokenOffsetBatchInfo (2 * e) = 0 then
        slot else s.tokenOffsetBatchInfo i := by
  simp only [batchExpertTokenOffset, Function.update_apply]
  split
  · rfl
  · by_cases hnone : s.tokenOffsetBatchInfo (2 * e) = 0
    · simp [hnone, Function.update_apply]
    · simp [hnone]

/-- A batch below its size has room for one more entry, away from the other batches. -/
theorem pendingWrites_batch (hsize : ∀ e < sh.expertNum, s.tokenOffsetBatchInfo (2 * e) <
    tokenOffsetFlushBatchSize) {e e' : Nat} (he : e < sh.expertNum) (he' : e' < sh.expertNum)
    (idx slot : Nat) :
    pendingWrites sh (batchExpertTokenOffset s e idx slot) e' =
      if e' = e then pendingWrites sh s e ++ [((e / sh.expertNumPerMoe, batchSlot s e slot), u16 idx)]
      else pendingWrites sh s e' := by
  have hlt := hsize e he
  have hlt' := hsize e' he'
  unfold tokenOffsetFlushBatchSize UB_ALIGN at hlt hlt'
  split
  · rename_i heq
    subst heq
    have heven : (batchExpertTokenOffset s e' idx slot).tokenOffsetBatchInfo (2 * e') =
        s.tokenOffsetBatchInfo (2 * e') + 1 := by
      rw [batch_info, if_pos rfl]
    have hodd : (batchExpertTokenOffset s e' idx slot).tokenOffsetBatchInfo (2 * e' + 1) =
        if s.tokenOffsetBatchInfo (2 * e') = 0 then slot else s.tokenOffsetBatchInfo (2 * e' + 1) := by
      rw [batch_info, if_neg (by omega)]
      simp
    unfold pendingWrites
    rw [heven, hodd, List.range_succ, List.map_append]
    congr 1
    · apply List.map_congr_left
      intro i hi
      rw [List.mem_range] at hi
      have hne : tokenOffsetFlushBatchSize * e' + i ≠
        tokenOffsetFlushBatchSize * e' + s.tokenOffsetBatchInfo (2 * e') := by omega
      have hsome : ¬ s.tokenOffsetBatchInfo (2 * e') = 0 := by omega
      simp only [batchExpertTokenOffset, Function.update_of_ne hne, if_neg hsome]
    · unfold batchSlot
      by_cases hnone : s.tokenOffsetBatchInfo (2 * e') = 0
      · simp [batchExpertTokenOffset, hnone]
      · simp [batchExpertTokenOffset, hnone]
  · rename_i hne
    have heven : (batchExpertTokenOffset s e idx slot).tokenOffsetBatchInfo (2 * e') =
        s.tokenOffsetBatchInfo (2 * e') := by
      rw [batch_info, if_neg (by omega), if_neg (by omega)]
    have hodd : (batchExpertTokenOffset s e idx slot).tokenOffsetBatchInfo (2 * e' + 1) =
        s.tokenOffsetBatchInfo (2 * e' + 1) := by
      rw [batch_info, if_neg (by omega), if_neg (by omega)]
    unfold pendingWrites
    rw [heven, hodd]
    apply List.map_congr_left
    intro i hi
    rw [List.mem_range] at hi
    have hcell : tokenOffsetFlushBatchSize * e' + i ≠
        tokenOffsetFlushBatchSize * e + s.tokenOffsetBatchInfo (2 * e) := by
      unfold tokenOffsetFlushBatchSize UB_ALIGN
      omega
    simp only [batchExpertTokenOffset, Function.update_of_ne hcell]

/-- A push adds one entry. -/
theorem push_addrEntries (hsize : ∀ e < sh.expertNum, s.tokenOffsetBatchInfo (2 * e) <
    tokenOffsetFlushBatchSize) (he : e < sh.expertNum) (idx slot : Nat) :
    (addrEntries sh (pushExpertTokenOffset sh s e idx slot)).Perm
      (addrEntries sh s ++ [((e / sh.expertNumPerMoe, batchSlot s e slot), u16 idx)]) := by
  have hbatch : (addrEntries sh (batchExpertTokenOffset s e idx slot)).Perm
      (addrEntries sh s ++ [((e / sh.expertNumPerMoe, batchSlot s e slot), u16 idx)]) := by
    rw [List.perm_iff_count]
    intro a
    have hcount := count_flatMap_update (pendingWrites sh s)
      (pendingWrites sh (batchExpertTokenOffset s e idx slot)) he
      (fun e' he' hne => by rw [pendingWrites_batch hsize he he', if_neg hne]) a
    rw [pendingWrites_batch hsize he he, if_pos rfl] at hcount
    have hwrites : (batchExpertTokenOffset s e idx slot).addrWrites = s.addrWrites := rfl
    simp only [addrEntries, hwrites, List.count_append] at hcount ⊢
    omega
  unfold pushExpertTokenOffset
  dsimp only
  split
  · exact (flush_addrEntries he).trans hbatch
  · exact hbatch

theorem push_info (hsize : s.tokenOffsetBatchInfo (2 * e) < tokenOffsetFlushBatchSize) (idx slot e' : Nat) :
    (pushExpertTokenOffset sh s e idx slot).tokenOffsetBatchInfo (2 * e') =
        (if e' = e then (s.tokenOffsetBatchInfo (2 * e) + 1) % tokenOffsetFlushBatchSize
          else s.tokenOffsetBatchInfo (2 * e')) ∧
      (pushExpertTokenOffset sh s e idx slot).tokenOffsetBatchInfo (2 * e' + 1) =
        (if e' = e ∧ s.tokenOffsetBatchInfo (2 * e) = 0 then
          slot else s.tokenOffsetBatchInfo (2 * e' + 1)) := by
  have hpos : tokenOffsetFlushBatchSize = 16 := rfl
  rw [hpos] at hsize ⊢
  have heven : 2 * e' = 2 * e ↔ e' = e := by omega
  have hodd : ¬ 2 * e' + 1 = 2 * e := by omega
  have hodd' : ¬ 2 * e' = 2 * e + 1 := by omega
  have hodd'' : 2 * e' + 1 = 2 * e + 1 ↔ e' = e := by omega
  unfold pushExpertTokenOffset
  dsimp only
  rw [batch_info, if_pos rfl, hpos]
  split
  · rename_i hfull
    simp only [flush_info, batch_info, heven, hodd, hodd', hodd'', if_false, false_and, and_true]
    rw [hfull]
    split <;> simp_all
  · rename_i hroom
    simp only [batch_info, heven, hodd, hodd', hodd'', if_false, false_and, and_true]
    rw [Nat.mod_eq_of_lt (by omega)]

/-- The other fields have nothing to do with the batches. -/
theorem push_field {β : Type} (f : DispatchState V → β)
    (hf : ∀ s batch info addr,
      f { s with tokenOffsetBatch := batch, tokenOffsetBatchInfo := info, addrWrites := addr } = f s)
    (idx slot : Nat) : f (pushExpertTokenOffset sh s e idx slot) = f s := by
  have hbatch : f (batchExpertTokenOffset s e idx slot) = f s := hf _ _ _ _
  unfold pushExpertTokenOffset flushExpertTokenOffset
  dsimp only
  split
  · split
    · exact hbatch
    · exact (hf _ _ _ _).trans hbatch
  · exact hbatch

end Batches

/-! ## The loop over the routing table -/

section Loop
variable {V S : Type} {sh : CamShape} {b : Batch V S} {offset : Nat → Nat} {p0 p : Nat}
  {s : DispatchState V}

/-- What a core that began at `p0` adds to the expert's first slot for entry `q`: the
slot of the batch is computed in 16 bits, and the entry's place in it is not. -/
def sentOcc (b : Batch V S) (p0 q : Nat) : Nat :=
  let before := occurrences b.expertIds (b.expertIds q) p0
  let own := occurrences b.expertIds (b.expertIds q) q - before
  u16 (before + 16 * (own / 16)) + own % 16

/-- Row index of a token at its MoE rank, as it is kept. -/
def sentRow (sh : CamShape) (b : Batch V S) (m t : Nat) : Nat := u16 (b.moeTokens sh m t)

def addrEntry (sh : CamShape) (b : Batch V S) (offset : Nat → Nat) (p0 q : Nat) : (Nat × Nat) × Nat :=
  ((b.moeRank sh q, offset (b.expertIds q) + sentOcc b p0 q), sentRow sh b (b.moeRank sh q) (q / sh.topk))

/-- The entry is its token's first one for its MoE rank. -/
def FirstNamed (sh : CamShape) (b : Batch V S) (q : Nat) : Prop :=
  ¬ b.NamedBefore sh (b.moeRank sh q) (q / sh.topk) q

instance : DecidablePred (FirstNamed sh b) := fun q => by unfold FirstNamed; infer_instance

def tokenEntry (sh : CamShape) (b : Batch V S) (q : Nat) : (Nat × Nat) × Option V :=
  ((b.moeRank sh q, sentRow sh b (b.moeRank sh q) (q / sh.topk)), some (b.x (q / sh.topk)))

/-- The state before entry `p`, when the core began at `p0`. -/
structure DispatchInv (sh : CamShape) (b : Batch V S) (offset : Nat → Nat) (p0 p : Nat)
    (s : DispatchState V) : Prop where
  sent : p % sh.topk ≠ 0 → SentTable sh b s.tokenSentFlag (p / sh.topk) p
  row : p % sh.topk ≠ 0 → s.xTensor = some (b.x (p / sh.topk))
  moe : ∀ m < sh.moeRankNum, s.moeSendStartOffset m = sentRow sh b m (p / sh.topk)
  expert : ∀ e < sh.expertNum, s.expertSendStartIdx e = u16 (occurrences b.expertIds e p)
  pending : ∀ e < sh.expertNum,
    s.tokenOffsetBatchInfo (2 * e) = (occurrences b.expertIds e p - occurrences b.expertIds e p0) % 16
  slot : ∀ e < sh.expertNum, s.tokenOffsetBatchInfo (2 * e) ≠ 0 →
    s.tokenOffsetBatchInfo (2 * e + 1) = offset e +
    u16 (occurrences b.expertIds e
      p0 + 16 * ((occurrences b.expertIds e p - occurrences b.expertIds e p0) / 16))
  addr : (addrEntries sh s).Perm ((List.range' p0 (p - p0)).map (addrEntry sh b offset p0))
  token : s.tokenWrites = ((List.range' p0 (p - p0)).filter (FirstNamed sh b)).map (tokenEntry sh b)

/-- The row that an entry sends is its token's. -/
theorem DispatchInv.xTensor (h : DispatchInv sh b offset p0 p s) :
    (if p % sh.topk = 0 then some (b.x (p / sh.topk)) else s.xTensor) = some (b.x (p / sh.topk)) := by
  split
  · rfl
  · rename_i hlater
    exact h.row hlater

theorem DispatchInv.size (h : DispatchInv sh b offset p0 p s) :
    ∀ e < sh.expertNum, s.tokenOffsetBatchInfo (2 * e) < tokenOffsetFlushBatchSize := by
  intro e he
  rw [h.pending e he]
  exact Nat.mod_lt _ (by decide)

/-- The entry that a pass batches. -/
theorem DispatchInv.batchSlot (h : DispatchInv sh b offset p0 p s) (hp0 : p0 ≤ p)
    (he : b.expertIds p < sh.expertNum) :
    batchSlot s (b.expertIds p) (offset (b.expertIds p) + s.expertSendStartIdx (b.expertIds p)) =
      offset (b.expertIds p) + sentOcc b p0 p := by
  have hpending := h.pending _ he
  have hslot := h.slot _ he
  have hexpert := h.expert _ he
  have hmono := occurrences_mono b.expertIds (b.expertIds p) hp0
  unfold Cam.batchSlot sentOcc
  dsimp only
  split
  · rename_i hnone
    rw [hnone] at hpending
    have hocc : occurrences b.expertIds (b.expertIds p)
      p0 + 16 * ((occurrences b.expertIds (b.expertIds p) p - occurrences b.expertIds (b.expertIds p)
        p0) / 16) = occurrences b.expertIds (b.expertIds p) p := by omega
    rw [hexpert, hocc, ← hpending, Nat.add_zero]
  · rename_i hsome
    rw [hslot hsome, hpending, Nat.add_assoc]

theorem range'_succ_of_le {p0 p : Nat} (hp0 : p0 ≤ p) :
    List.range' p0 (p + 1 - p0) = List.range' p0 (p - p0) ++ [p] := by
  rw [Nat.succ_sub hp0, List.range'_concat, Nat.one_mul, Nat.add_sub_cancel' hp0]

/-- The state in which a pass batches its entry. -/
def dispatchBegin (sh : CamShape) (b : Batch V S) (s : DispatchState V) (p : Nat) : DispatchState V :=
  sendToken
    { s with
      xTensor := if p % sh.topk = 0 then some (b.x (p / sh.topk)) else s.xTensor
      tokenSentFlag := resetSent sh s.tokenSentFlag p }
    (b.moeRank sh p) (s.moeSendStartOffset (b.moeRank sh p))

def dispatchPush (sh : CamShape) (b : Batch V S) (offset : Nat → Nat) (s : DispatchState V) (p : Nat) :
    DispatchState V :=
  pushExpertTokenOffset sh (dispatchBegin sh b s p) (b.expertIds p) (s.moeSendStartOffset (b.moeRank sh p))
    (offset (b.expertIds p) + s.expertSendStartIdx (b.expertIds p))

/-- One pass, by the fields that it sets after the push. -/
theorem dispatchStep_eq (offset : Nat → Nat) (s : DispatchState V) (p : Nat) :
    dispatchStep sh b offset s p =
      { dispatchPush sh b offset s p with
        expertSendStartIdx :=
          Function.update s.expertSendStartIdx (b.expertIds p)
            (u16 (s.expertSendStartIdx (b.expertIds p) + 1))
        moeSendStartOffset :=
          if (p + 1) % sh.topk = 0 then
            fun m => if m < sh.moeRankNum ∧
                markSent (resetSent sh s.tokenSentFlag p) (b.moeRank sh p) m = 1 then
              u16 (s.moeSendStartOffset m + 1) else s.moeSendStartOffset m
          else s.moeSendStartOffset } := by
  have hexpert : (dispatchPush sh b offset s p).expertSendStartIdx = s.expertSendStartIdx :=
    push_field DispatchState.expertSendStartIdx (fun _ _ _ _ => rfl) _ _
  have hmoe : (dispatchPush sh b offset s p).moeSendStartOffset = s.moeSendStartOffset :=
    push_field DispatchState.moeSendStartOffset (fun _ _ _ _ => rfl) _ _
  have hsent : (dispatchPush sh b offset s p).tokenSentFlag =
      markSent (resetSent sh s.tokenSentFlag p) (b.moeRank sh p) :=
    push_field DispatchState.tokenSentFlag (fun _ _ _ _ => rfl) _ _
  have hstep : dispatchStep sh b offset s p =
      { dispatchPush sh b offset s p with
        expertSendStartIdx :=
          Function.update (dispatchPush sh b offset s p).expertSendStartIdx (b.expertIds p)
            (u16 (s.expertSendStartIdx (b.expertIds p) + 1))
        moeSendStartOffset :=
          if (p + 1) % sh.topk = 0 then
            fun m => if m < sh.moeRankNum ∧ (dispatchPush sh b offset s p).tokenSentFlag m = 1 then
              u16 ((dispatchPush sh b offset s p).moeSendStartOffset m + 1)
                else (dispatchPush sh b offset s p).moeSendStartOffset m
          else (dispatchPush sh b offset s p).moeSendStartOffset } := rfl
  rw [hstep, hexpert, hmoe, hsent]

theorem dispatchStep_inv (hvalid : b.Valid sh) (hp0 : p0 ≤ p) (hp : p < b.assignments sh)
    (h : DispatchInv sh b offset p0 p s) :
    DispatchInv sh b offset p0 (p + 1) (dispatchStep sh b offset s p) := by
  have he := hvalid.expertIds_lt p hp
  have hm := moeRank_lt hvalid hp
  have hmono := occurrences_mono b.expertIds (b.expertIds p) hp0
  have htable := resetSent_table h.sent
  have hmark := markSent_table htable
  have hinfo := @push_info V sh (dispatchBegin sh b s p) (b.expertIds p) (h.size _ he)
    (s.moeSendStartOffset (b.moeRank sh p))
    (offset (b.expertIds p) + s.expertSendStartIdx (b.expertIds p))
  have hbefore : (dispatchBegin sh b s p).tokenOffsetBatchInfo = s.tokenOffsetBatchInfo := rfl
  rw [hbefore] at hinfo
  have hsucc : ∀ e, occurrences b.expertIds e (p + 1) =
      occurrences b.expertIds e p + if b.expertIds p = e then 1 else 0 :=
    fun e => occurrences_succ _ _ _
  rw [dispatchStep_eq]
  refine ⟨?_, ?_, ?_, ?_, ?_, ?_, ?_, ?_⟩
  · intro hnext
    have hsent : (dispatchPush sh b offset s p).tokenSentFlag =
        markSent (resetSent sh s.tokenSentFlag p) (b.moeRank sh p) :=
      push_field DispatchState.tokenSentFlag (fun _ _ _ _ => rfl) _ _
    dsimp only
    rw [hsent]
    exact sentTable_next hmark hnext
  · intro hnext
    have hrow : (dispatchPush sh b offset s p).xTensor = if p % sh.topk = 0 then
        some (b.x (p / sh.topk)) else s.xTensor :=
      push_field DispatchState.xTensor (fun _ _ _ _ => rfl) _ _
    dsimp only
    rw [hrow, h.xTensor, Nat.succ_div, if_neg fun hdvd => hnext (Nat.mod_eq_zero_of_dvd hdvd), Nat.add_zero]
  · intro m hm'
    have hold := h.moe m hm'
    have hflag := hmark m hm'
    unfold sentRow at hold ⊢
    rw [moeTokens_div_succ]
    by_cases hlast : (p + 1) % sh.topk = 0
    · by_cases hnamed : b.NamedBefore sh m (p / sh.topk) (p + 1)
      · rw [if_pos hnamed] at hflag
        simp [hlast, hm', hflag, hnamed, hold]
      · rw [if_neg hnamed] at hflag
        simp [hlast, hflag, hnamed, hold]
    · simp [hlast, hold]
  · intro e he'
    rw [hsucc]
    dsimp only
    rcases eq_or_ne e (b.expertIds p) with rfl | hne
    · rw [Function.update_self, h.expert _ he, if_pos rfl, u16_succ]
    · rw [Function.update_of_ne hne, h.expert e he', if_neg hne.symm, Nat.add_zero]
  · intro e he'
    have hpending := h.pending e he'
    have heq := (hinfo e).1
    dsimp only
    unfold dispatchPush
    rw [heq, hsucc]
    split
    · rename_i heq'
      subst heq'
      rw [hpending, if_pos rfl]
      change _ % 16 = _
      omega
    · rename_i hne
      rw [hpending, if_neg (Ne.symm hne), Nat.add_zero]
  · intro e he' hsome
    have hpending := h.pending e he'
    have hslot := h.slot e he'
    have hexpert := h.expert e he'
    have heq := hinfo e
    dsimp only at hsome ⊢
    unfold dispatchPush at hsome ⊢
    rw [heq.1] at hsome
    rw [heq.2, hsucc]
    by_cases hself : e = b.expertIds p
    · subst hself
      rw [if_pos rfl, hpending] at hsome
      change (_ % 16 + 1) % 16 ≠ 0 at hsome
      rw [if_pos rfl]
      have hdiv : (occurrences b.expertIds (b.expertIds p) p + 1 - occurrences b.expertIds
        (b.expertIds p) p0) / 16 =
        (occurrences b.expertIds (b.expertIds p) p - occurrences b.expertIds (b.expertIds p) p0) /
        16 := by omega
      rw [hdiv]
      by_cases hnone : s.tokenOffsetBatchInfo (2 * b.expertIds p) = 0
      · rw [if_pos ⟨rfl, hnone⟩, hexpert]
        rw [hnone] at hpending
        congr 2
        omega
      · rw [if_neg fun hboth => hnone hboth.2]
        exact hslot hnone
    · rw [if_neg hself] at hsome
      rw [if_neg fun hboth => hself hboth.1, if_neg (Ne.symm hself), Nat.add_zero]
      exact hslot hsome
  · have hpush := push_addrEntries (s := dispatchBegin sh b s p) h.size he
      (s.moeSendStartOffset (b.moeRank sh p))
      (offset (b.expertIds p) + s.expertSendStartIdx (b.expertIds p))
    have hentry :
        ((b.expertIds p / sh.expertNumPerMoe,
          batchSlot (dispatchBegin sh b s p) (b.expertIds p)
          (offset (b.expertIds p) + s.expertSendStartIdx (b.expertIds p))),
          u16 (s.moeSendStartOffset (b.moeRank sh p))) = addrEntry sh b offset p0 p := by
      have hslot := h.batchSlot hp0 he
      unfold Cam.batchSlot at hslot ⊢
      rw [hbefore, hslot, h.moe _ hm]
      simp [addrEntry, sentRow, Batch.moeRank]
    rw [hentry] at hpush
    rw [range'_succ_of_le hp0, List.map_append]
    exact hpush.trans (h.addr.append_right _)
  · have htoken : (dispatchPush sh b offset s p).tokenWrites = (dispatchBegin sh b s p).tokenWrites :=
      push_field DispatchState.tokenWrites (fun _ _ _ _ => rfl) _ _
    have hflag := htable _ hm
    dsimp only
    rw [htoken, range'_succ_of_le hp0, List.filter_append, List.map_append, ← h.token]
    unfold dispatchBegin sendToken
    dsimp only
    rw [h.xTensor, h.moe _ hm, List.filter_singleton]
    by_cases hfirst : FirstNamed sh b p
    · rw [if_neg hfirst] at hflag
      rw [if_pos hflag, decide_eq_true hfirst]
      rfl
    · rw [if_pos (not_not.1 hfirst)] at hflag
      rw [if_neg (by rw [hflag]; exact Nat.one_ne_zero), decide_eq_false hfirst]
      simp

end Loop

/-! ## A core's run -/

section Core
variable {V S : Type} {sh : CamShape} {b : Batch V S} {stat : Nat × Nat → Nat} {aivId : Nat}

theorem coreStart_expert (hstat : StatTable sh b stat) (hc : aivId < sh.attnAivNum) {e : Nat}
    (he : e < sh.expertNum) :
    (coreStart sh stat aivId).expertSendStartIdx e =
      u16 (occurrences b.expertIds e (sh.topk * b.aivStart sh aivId)) := by
  rcases Nat.eq_zero_or_pos aivId with rfl | hpos
  · simp [coreStart, Batch.aivStart]
  · have hprev := hstat.expert (c := aivId - 1) (by omega) he
    rw [Nat.sub_add_cancel hpos] at hprev
    simp [coreStart, Nat.pos_iff_ne_zero.1 hpos, hprev]

theorem coreStart_moe (hstat : StatTable sh b stat) (hc : aivId < sh.attnAivNum) {m : Nat}
    (hm : m < sh.moeRankNum) :
    (coreStart sh stat aivId).moeSendStartOffset m = sentRow sh b m (b.aivStart sh aivId) := by
  unfold sentRow
  rcases Nat.eq_zero_or_pos aivId with rfl | hpos
  · simp [coreStart, Batch.aivStart, Batch.moeTokens]
  · have hprev := hstat.moe (c := aivId - 1) (by omega) hm
    rw [Nat.sub_add_cancel hpos] at hprev
    simp [coreStart, Nat.pos_iff_ne_zero.1 hpos, hprev]

/-- The loop adds up the counts of the experts before an expert at its MoE rank. -/
theorem expertPrefixOffset_eq (sh : CamShape) (recv : Nat → Nat) {e : Nat} (he : e < sh.expertNum) :
    expertPrefixOffset sh recv e =
      prefixSum (fun i => recv (sh.expertNumPerMoe * (e / sh.expertNumPerMoe) + i))
        (e % sh.expertNumPerMoe) := by
  have hpos := sh.expertNumPerMoe_pos
  have hloop := forRange_inv (a := 0) (n := sh.expertNum) (s := fun _ => 0)
    (f := fun offset expertId =>
      if expertId % sh.expertNumPerMoe ≠ 0 then
        Function.update offset expertId (offset (expertId - 1) + recv (expertId - 1))
      else offset)
    (fun n t => (∀ e < n,
      t e = prefixSum (fun i => recv (sh.expertNumPerMoe * (e / sh.expertNumPerMoe) + i))
      (e % sh.expertNumPerMoe)) ∧ ∀ e ≥ n, t e = 0)
    ⟨fun _ h => absurd h (Nat.not_lt_zero _), fun _ _ => rfl⟩
    (fun n t _ _ ⟨hbefore, hafter⟩ => ?_)
  · exact hloop.1 e (by omega)
  · split
    · rename_i hlater
      -- the expert before it is on the same MoE rank
      obtain ⟨k, rfl⟩ : ∃ k, n = k + 1 := ⟨n - 1, by rcases n with _ | n <;> simp_all⟩
      have hnot : ¬ sh.expertNumPerMoe ∣ k + 1 := fun hdvd => hlater (Nat.mod_eq_zero_of_dvd hdvd)
      have hdiv : (k + 1) / sh.expertNumPerMoe = k / sh.expertNumPerMoe := by
        rw [Nat.succ_div, if_neg hnot, Nat.add_zero]
      have hsplit := Nat.div_add_mod k sh.expertNumPerMoe
      have hsplit' := Nat.div_add_mod (k + 1) sh.expertNumPerMoe
      rw [hdiv] at hsplit'
      have hmod : (k + 1) % sh.expertNumPerMoe = k % sh.expertNumPerMoe + 1 := by omega
      refine ⟨fun e he => ?_, fun e he => ?_⟩
      · rcases Nat.lt_succ_iff_lt_or_eq.1 he with hlt | rfl
        · rw [Function.update_of_ne (by omega)]
          exact hbefore e hlt
        · rw [Function.update_self, Nat.add_sub_cancel, hbefore k (Nat.lt_succ_self k), hdiv, hmod,
            prefixSum_succ, hsplit]
      · rw [Function.update_of_ne (by omega)]
        exact hafter e (by omega)
    · rename_i hfirst
      rw [not_not] at hfirst
      refine ⟨fun e he => ?_, fun e he => hafter e (by omega)⟩
      rcases Nat.lt_succ_iff_lt_or_eq.1 he with hlt | rfl
      · exact hbefore e hlt
      · rw [hafter e le_rfl, hfirst, prefixSum_zero]

theorem coreStart_offset (hstat : StatTable sh b stat) (aivId : Nat) {e : Nat} (he : e < sh.expertNum) :
    expertPrefixOffset sh (coreStart sh stat aivId).expertRecvTokenNum e =
      b.expertPrefix sh (e / sh.expertNumPerMoe) (e % sh.expertNumPerMoe) := by
  rw [expertPrefixOffset_eq sh _ he]
  apply prefixSum_congr
  intro i hi
  have hsplit := Nat.div_add_mod e sh.expertNumPerMoe
  exact hstat.total (by omega)

theorem dispatchStart_inv (hstat : StatTable sh b stat) (hc : aivId < sh.attnAivNum) (offset : Nat → Nat) :
    DispatchInv sh b offset (sh.topk * b.aivStart sh aivId) (sh.topk * b.aivStart sh aivId)
      (dispatchStart (coreStart sh stat aivId)) := by
  have hfirst : sh.topk * b.aivStart sh aivId % sh.topk = 0 := Nat.mul_mod_right _ _
  refine ⟨fun h => absurd hfirst h, fun h => absurd hfirst h, ?_, ?_, ?_, ?_, ?_, ?_⟩
  · intro m hm
    rw [Nat.mul_div_cancel_left _ sh.topk_pos]
    exact coreStart_moe hstat hc hm
  · exact fun e he => coreStart_expert hstat hc he
  · simp [dispatchStart]
  · simp [dispatchStart]
  · simp [dispatchStart, addrEntries, pendingWrites]
  · simp [dispatchStart]

/-- The last loop flushes what is left in the batches. -/
theorem flushLoop (sh : CamShape) (s : DispatchState V) :
    (forRange 0 sh.expertNum s (flushExpertTokenOffset sh)).addrWrites.Perm (addrEntries sh s) ∧
      (forRange 0 sh.expertNum s (flushExpertTokenOffset sh)).tokenWrites = s.tokenWrites := by
  have hloop := forRange_inv (a := 0) (n := sh.expertNum) (s := s) (f := flushExpertTokenOffset sh)
    (fun n t => (addrEntries sh t).Perm (addrEntries sh s) ∧ t.tokenWrites = s.tokenWrites ∧
      ∀ e < n, t.tokenOffsetBatchInfo (2 * e) = 0)
    ⟨List.Perm.refl _, rfl, fun _ h => absurd h (Nat.not_lt_zero _)⟩
    (fun n t _ hn ⟨hentries, htoken, hdone⟩ => ?_)
  · obtain ⟨hentries, htoken, hdone⟩ := hloop
    refine ⟨?_, htoken⟩
    have hnone : (List.range sh.expertNum).flatMap
        (pendingWrites sh (forRange 0 sh.expertNum s (flushExpertTokenOffset sh))) = [] := by
      rw [List.flatMap_eq_nil_iff]
      intro e he
      rw [pendingWrites, hdone e (by simpa using he)]
      rfl
    rwa [addrEntries, hnone, List.append_nil] at hentries
  · refine ⟨(flush_addrEntries (by omega)).trans hentries, (flush_tokenWrites t n).trans htoken,
      fun e he => ?_⟩
    rw [flush_info]
    split
    · rfl
    · exact hdone e (by omega)

/-- Slot that an entry of the address table goes to, when its core began at `p0`. -/
def sentSlot (sh : CamShape) (b : Batch V S) (p0 q : Nat) : Nat :=
  b.expertPrefix sh (b.moeRank sh q) (b.localExpert sh q) + sentOcc b p0 q

/-- What a core that has room writes. -/
theorem dispatchLoop_writes (hvalid : b.Valid sh) (hstat : StatTable sh b stat)
    (hc : aivId < sh.attnAivNum) :
    (dispatchLoop sh b (coreStart sh stat aivId) aivId).addrWrites.Perm
        ((Blocks.block (fun c => sh.topk * b.aivStart sh c) aivId).map fun q =>
          ((b.moeRank sh q, sentSlot sh b (sh.topk * b.aivStart sh aivId) q),
            sentRow sh b (b.moeRank sh q) (q / sh.topk))) ∧
      (dispatchLoop sh b (coreStart sh stat aivId) aivId).tokenWrites =
        ((Blocks.block (fun c => sh.topk * b.aivStart sh c) aivId).filter (FirstNamed sh b)).map
          (tokenEntry sh b) := by
  have hle : sh.topk * b.aivStart sh aivId ≤ sh.topk * b.aivStart sh (aivId + 1) :=
    Nat.mul_le_mul_left _ (aivStart_mono sh b (Nat.le_succ aivId))
  have hend := topk_mul_aivStart_le sh b (show aivId + 1 ≤ sh.attnAivNum from hc)
  have hloop :=
    forRange_inv (DispatchInv sh b (expertPrefixOffset sh (coreStart sh stat aivId).expertRecvTokenNum)
      (sh.topk * b.aivStart sh aivId))
      (n := sh.topk * b.aivStart sh (aivId + 1) - sh.topk * b.aivStart sh aivId)
      (dispatchStart_inv hstat hc _) fun p s hp0 hp h => dispatchStep_inv hvalid hp0 (by omega) h
  rw [Nat.add_sub_cancel' hle] at hloop
  obtain ⟨haddr, htoken⟩ :=
    flushLoop sh (forRange (sh.topk * b.aivStart sh aivId)
      (sh.topk * b.aivStart sh (aivId + 1) - sh.topk * b.aivStart sh aivId)
      (dispatchStart (coreStart sh stat aivId))
      (dispatchStep sh b (expertPrefixOffset sh (coreStart sh stat aivId).expertRecvTokenNum)))
  refine ⟨?_, htoken.trans hloop.token⟩
  have hentries := haddr.trans hloop.addr
  rwa [List.map_congr_left fun q hq => ?_] at hentries
  have hlt := (List.mem_range'_1.1 hq).2
  rw [addrEntry, coreStart_offset hstat aivId (hvalid.expertIds_lt q (by omega))]
  rfl

end Core

end AfdPlugin.Cam
