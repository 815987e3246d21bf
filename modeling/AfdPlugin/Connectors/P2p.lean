import AfdPlugin.Connectors.Metadata
import AfdPlugin.Worker.FfnMetadata
/-!
# The P2P connector's shapes

A control payload tells every rank of a subgroup how many rows each Attention
rank sends in each stage. Both ends compute the sizes of their transfers from
it on their own; NCCL has no other agreement on a message's size.
-/

namespace AfdPlugin.P2p

open AfdPlugin.Topology FfnMetadata

/-- Element types of the wire tensors. -/
inductive Dtype where
  | float32
  | float16
  | bfloat16
  | int32
  deriving DecidableEq, Repr

/-- `_TensorMetadata`: dtype and shape of one expected wire tensor. -/
structure TensorMetadata where
  dtype : Dtype
  size : List Int
  deriving DecidableEq, Repr

/-- The leading dimension. -/
def TensorMetadata.numTokens (m : TensorMetadata) : Int := m.size.headD 0

/-- The connector of one process: what it was built from, and the per-stage
state the control plane keeps. Its mapping is the one of its configuration. -/
structure P2pNcclAFDConnector where
  afdConfig : AFDConfig
  roleRank : Int
  mapping : AFDRankMapping
  built : buildRankMapping afdConfig roleRank = .ok mapping
  hiddenSize : Nat
  dtype : Dtype
  enforceEager : Bool
  dpMetadataList : Dict Int AFDDPMetadata := ∅
  isGraphCapturing : Bool := false
  isWarmup : Bool := false
  tensorMetadataList : Dict Int TensorMetadata := ∅
  recvAttnTensorMetadataList : Dict (Int × Nat) TensorMetadata := ∅
  recvAttnBuffers : Dict (Int × Nat × List Int) TensorMetadata := ∅
  recvAttnInputIdsBuffers : Dict (Int × Nat × List Int) TensorMetadata := ∅

namespace P2pNcclAFDConnector

/-- `__init__`: the connector of one process, before any payload. -/
def init (afdConfig : AFDConfig) (roleRank : Int) (hiddenSize : Nat) (dtype : Dtype) (enforceEager : Bool) :
    Except String P2pNcclAFDConnector :=
  match h : buildRankMapping afdConfig roleRank with
  | .ok mapping => .ok {
      afdConfig := afdConfig
      roleRank := roleRank
      mapping := mapping
      built := h
      hiddenSize := hiddenSize
      dtype := dtype
      enforceEager := enforceEager }
  | .error e => .error e

def attnSize (c : P2pNcclAFDConnector) : Nat := c.mapping.attentionSize

def ffnSize (c : P2pNcclAFDConnector) : Nat := c.mapping.ffnSize

def groupSize (c : P2pNcclAFDConnector) : Nat := c.mapping.subgroupRanks.length

def ratio (c : P2pNcclAFDConnector) : Nat := c.mapping.subgroupRanks.length - 1

end P2pNcclAFDConnector

/-- `_num_tokens_for_attention_rank`: the token count one Attention rank
contributes for a stage, at least 1. -/
def numTokensForAttentionRank (md : AFDDPMetadata) (attentionRank : Int) (attentionSize : Nat)
    (fallback : Int := 1) :
    Int :=
  let counts := md.counts
  if counts = [] then max 1 fallback
  else
    let counts :=
      if counts.length < attentionSize ∧ attentionSize % counts.length = 0 then
        let tpSize := attentionSize / counts.length
        (List.range attentionSize).map fun idx => counts.getD (idx / tpSize) 0
      else counts
    if 0 ≤ attentionRank ∧ attentionRank < counts.length then max 1 (counts.getD attentionRank.toNat 0)
    else max 1 fallback

namespace P2pNcclAFDConnector

/-- What the FFN rank expects of its peer `srcRank` in a stage. -/
def peerMetadata (c : P2pNcclAFDConnector) (md : AFDDPMetadata) (srcRank : Nat) : TensorMetadata :=
  -- subgroups need not have one size: the peer is read from the roster
  let attentionRank : Int := (c.mapping.subgroupRanks.getD srcRank 0 : Int) - c.ffnSize
  ⟨c.dtype, [numTokensForAttentionRank md attentionRank c.attnSize, c.hiddenSize]⟩

/-- One round of the loop over the payload's stages. -/
def updateStage (c : P2pNcclAFDConnector) (stageIdx : Int) (md : AFDDPMetadata) : P2pNcclAFDConnector :=
  match c.afdConfig.role with
  | .ffn =>
    let peers := (List.range' 1 (c.groupSize - 1)).map fun srcRank =>
      ((stageIdx, srcRank), c.peerMetadata md srcRank)
    let numTokens := (peers.map fun p => p.2.numTokens).sum
    { c with
      recvAttnTensorMetadataList := c.recvAttnTensorMetadataList.setAll peers
      tensorMetadataList := c.tensorMetadataList.set stageIdx ⟨c.dtype, [numTokens, c.hiddenSize]⟩ }
  | .attention =>
    let numTokens := numTokensForAttentionRank md c.mapping.roleRank c.attnSize
    { c with tensorMetadataList := c.tensorMetadataList.set stageIdx ⟨c.dtype, [numTokens, c.hiddenSize]⟩ }

/-- One round of the loop that preallocates receive buffers. -/
def updateBuffers (c : P2pNcclAFDConnector) (stageIdx : Int) (srcRank : Nat) (m : TensorMetadata) :
    P2pNcclAFDConnector :=
  let bufferKey := (stageIdx, srcRank, m.size)
  -- only a captured graph needs a stable receive address
  let c :=
    if c.isGraphCapturing ∧ ¬ c.recvAttnBuffers.contains bufferKey then
      { c with recvAttnBuffers := c.recvAttnBuffers.set bufferKey m }
    else c
  let inputIdsKey := (stageIdx, srcRank, [m.numTokens])
  if c.recvAttnInputIdsBuffers.contains inputIdsKey then c
  else { c with
    recvAttnInputIdsBuffers := c.recvAttnInputIdsBuffers.set inputIdsKey ⟨.int32, [m.numTokens]⟩ }

/-- The payload's fields, before the shapes of its stages are known. -/
def storePayload (c : P2pNcclAFDConnector) (payload : AFDControlPayload) : P2pNcclAFDConnector :=
  { c with
    dpMetadataList := payload.dpMetadataList
    isGraphCapturing := payload.isGraphCapturing
    isWarmup := payload.isWarmup
    tensorMetadataList := ∅
    recvAttnTensorMetadataList := ∅ }

/-- Derive the tensor shapes of every stage from a payload. -/
def updateStateFromDpMetadata (c : P2pNcclAFDConnector) (payload : AFDControlPayload) :
    P2pNcclAFDConnector :=
  let stored := payload.dpMetadataList.entries.foldl (fun c e => c.updateStage e.1 e.2)
    (c.storePayload payload)
  if c.afdConfig.role = .ffn ∧ ¬ c.enforceEager then
    stored.recvAttnTensorMetadataList.entries.foldl (fun c e => c.updateBuffers e.1.1 e.1.2 e.2) stored
  else stored

end P2pNcclAFDConnector

/-! ## The three copies of the count rule -/

theorem one_le_numTokensForAttentionRank (md : AFDDPMetadata) (a : Int) (A : Nat) :
    1 ≤ numTokensForAttentionRank md a A := by
  unfold numTokensForAttentionRank
  dsimp only
  split
  · exact le_max_left _ _
  · split <;> split <;> exact le_max_left _ _

/-- The two ways of reading one rank's count out of an expanded list. -/
theorem match_getElem?_eq_ite (counts : List Int) (a : Nat) (fallback : Int) :
    (match counts[a]? with
      | some count => max 1 count
      | none => fallback) =
      if 0 ≤ (a : Int) ∧ (a : Int) < counts.length then max 1 (counts.getD (a : Int).toNat 0)
        else fallback := by
  simp only [Int.natCast_nonneg, true_and, Nat.cast_lt, Int.toNat_natCast, List.getD]
  by_cases h : a < counts.length
  · simp [h]
  · rw [List.getElem?_eq_none (not_lt.1 h), if_neg h]

/-- The FFN runner sums, over a rank's block, what the connectors derive for
the block's Attention ranks. -/
theorem aggregateFfnTokenCounts_getElem? {A F : Nat} (hF : 0 < F) (hFA : F ≤ A) (md : AFDDPMetadata)
    {f : Nat} (hf : f < F) :
    (aggregateFfnTokenCounts md.counts A F)[f]? =
      some ((subgroupAttentionBlock f A F).map fun a => numTokensForAttentionRank md (a : Nat) A).sum := by
  have hsizes : ¬ (F = 0 ∨ A < F) := by omega
  simp only [aggregateFfnTokenCounts, hsizes, if_false, List.getElem?_map, List.getElem?_range hf,
    Option.map_some]
  refine congrArg (fun l : List Int => some l.sum) (List.map_congr_left fun a _ => ?_)
  simp only [numTokensForAttentionRank]
  by_cases hnil : md.counts = []
  · simp [hnil]
  · simp only [hnil, ne_eq, not_false_eq_true, true_and, if_false]
    exact match_getElem?_eq_ite _ a _

/-! ## What an update leaves in the connector -/

namespace P2pNcclAFDConnector

/-- The per-peer sizes one stage adds on an FFN rank. -/
def stagePeers (c : P2pNcclAFDConnector) (e : Int × AFDDPMetadata) : List ((Int × Nat) × TensorMetadata) :=
  (List.range' 1 (c.groupSize - 1)).map fun srcRank => ((e.1, srcRank), c.peerMetadata e.2 srcRank)

/-- The size one stage gets on either side. -/
def stageMetadata (c : P2pNcclAFDConnector) (e : Int × AFDDPMetadata) : TensorMetadata :=
  match c.afdConfig.role with
  | .ffn => ⟨c.dtype, [((c.stagePeers e).map fun p => p.2.numTokens).sum, c.hiddenSize]⟩
  | .attention => ⟨c.dtype, [numTokensForAttentionRank e.2 c.mapping.roleRank c.attnSize, c.hiddenSize]⟩

theorem foldl_updateStage_attention (c : P2pNcclAFDConnector) (hr : c.afdConfig.role = .attention)
    (l : List (Int × AFDDPMetadata)) :
    l.foldl (fun c e => c.updateStage e.1 e.2) c =
      { c with
        tensorMetadataList := c.tensorMetadataList.setAll (l.map fun e => (e.1, c.stageMetadata e)) } := by
  induction l generalizing c with
  | nil => rfl
  | cons e l ih =>
    rw [List.foldl_cons, ih _ (by simp only [updateStage, hr])]
    simp only [updateStage, stageMetadata, hr]
    rfl

theorem foldl_updateStage_ffn (c : P2pNcclAFDConnector) (hr : c.afdConfig.role = .ffn)
    (l : List (Int × AFDDPMetadata)) :
    l.foldl (fun c e => c.updateStage e.1 e.2) c =
      { c with
        tensorMetadataList := c.tensorMetadataList.setAll (l.map fun e => (e.1, c.stageMetadata e))
        recvAttnTensorMetadataList := c.recvAttnTensorMetadataList.setAll (l.flatMap c.stagePeers) } := by
  induction l generalizing c with
  | nil => rfl
  | cons e l ih =>
    rw [List.foldl_cons, ih _ (by simp only [updateStage, hr]), List.flatMap_cons, Dict.setAll_append]
    simp only [updateStage, stageMetadata, hr]
    rfl

/-- Preallocating buffers changes nothing but the buffers. -/
theorem foldl_updateBuffers (c : P2pNcclAFDConnector) (l : List ((Int × Nat) × TensorMetadata)) :
    ∃ b i, l.foldl (fun c e => c.updateBuffers e.1.1 e.1.2 e.2) c =
      { c with recvAttnBuffers := b, recvAttnInputIdsBuffers := i } := by
  induction l generalizing c with
  | nil => exact ⟨_, _, rfl⟩
  | cons e l ih =>
    have hstep : ∃ b i, c.updateBuffers e.1.1 e.1.2 e.2 =
        { c with recvAttnBuffers := b, recvAttnInputIdsBuffers := i } := by
      simp only [updateBuffers]
      split <;> split <;> exact ⟨_, _, rfl⟩
    obtain ⟨b, i, hbi⟩ := hstep
    obtain ⟨b', i', h⟩ := ih (c.updateBuffers e.1.1 e.1.2 e.2)
    exact ⟨b', i', by rw [List.foldl_cons, h, hbi]⟩

theorem updateStateFromDpMetadata_eq (c : P2pNcclAFDConnector) (payload : AFDControlPayload) :
    ∃ b i, c.updateStateFromDpMetadata payload =
      { c with
        dpMetadataList := payload.dpMetadataList
        isGraphCapturing := payload.isGraphCapturing
        isWarmup := payload.isWarmup
        tensorMetadataList :=
          Dict.setAll ∅ (payload.dpMetadataList.entries.map fun e => (e.1, c.stageMetadata e))
        recvAttnTensorMetadataList :=
          if c.afdConfig.role = .ffn then
            Dict.setAll ∅ (payload.dpMetadataList.entries.flatMap c.stagePeers) else ∅
        recvAttnBuffers := b
        recvAttnInputIdsBuffers := i } := by
  cases hr : c.afdConfig.role with
  | attention =>
    have hne : ¬ AFDRole.attention = .ffn := by decide
    refine ⟨c.recvAttnBuffers, c.recvAttnInputIdsBuffers, ?_⟩
    rw [updateStateFromDpMetadata, foldl_updateStage_attention (c.storePayload payload) hr]
    simp only [hr, hne, false_and, if_false]
    rfl
  | ffn =>
    rw [updateStateFromDpMetadata, foldl_updateStage_ffn (c.storePayload payload) hr]
    rw [if_pos rfl]
    by_cases he : c.enforceEager = true
    · exact ⟨c.recvAttnBuffers, c.recvAttnInputIdsBuffers, if_neg fun h => h.2 he⟩
    · rw [if_pos ⟨hr, he⟩]
      exact foldl_updateBuffers _ _

@[simp] theorem mapping_update (c : P2pNcclAFDConnector) (payload : AFDControlPayload) :
    (c.updateStateFromDpMetadata payload).mapping = c.mapping := by
  obtain ⟨b, i, h⟩ := c.updateStateFromDpMetadata_eq payload
  rw [h]

@[simp] theorem groupSize_update (c : P2pNcclAFDConnector) (payload : AFDControlPayload) :
    (c.updateStateFromDpMetadata payload).groupSize = c.groupSize := by
  rw [groupSize, groupSize, mapping_update]

theorem tensorMetadataList_update (c : P2pNcclAFDConnector) (payload : AFDControlPayload) (stage : Int) :
    (c.updateStateFromDpMetadata payload).tensorMetadataList.get? stage =
      (payload.dpMetadataList.get? stage).map fun md => c.stageMetadata (stage, md) := by
  obtain ⟨b, i, h⟩ := c.updateStateFromDpMetadata_eq payload
  rw [h]
  exact Dict.get?_empty_setAll_map c.stageMetadata payload.dpMetadataList stage

theorem nodup_keys_flatMap_stagePeers (c : P2pNcclAFDConnector) {l : List (Int × AFDDPMetadata)}
    (hn : (l.map Prod.fst).Nodup) : ((l.flatMap c.stagePeers).map Prod.fst).Nodup := by
  rw [List.map_flatMap, List.nodup_flatMap]
  refine ⟨fun e _ => ?_, (List.pairwise_map.1 hn).imp fun {e e'} hne => ?_⟩
  · rw [stagePeers, List.map_map]
    exact List.Nodup.map (fun s s' h => (Prod.ext_iff.1 h).2) List.nodup_range'
  · rw [Function.onFun, List.disjoint_left]
    rintro ⟨stage, src⟩ h h'
    simp only [stagePeers, List.map_map, List.mem_map, Function.comp_apply, Prod.ext_iff] at h h'
    obtain ⟨-, -, rfl, -⟩ := h
    obtain ⟨-, -, h', -⟩ := h'
    exact hne h'.symm

theorem recvAttnTensorMetadataList_update (c : P2pNcclAFDConnector) (hr : c.afdConfig.role = .ffn)
    (payload : AFDControlPayload) (stage : Int) {srcRank : Nat} (h1 : 1 ≤ srcRank)
    (h2 : srcRank < c.groupSize) :
    (c.updateStateFromDpMetadata payload).recvAttnTensorMetadataList.get? (stage, srcRank) =
      (payload.dpMetadataList.get? stage).map fun md => c.peerMetadata md srcRank := by
  obtain ⟨b, i, h⟩ := c.updateStateFromDpMetadata_eq payload
  simp only [h, hr, if_true]
  have hkeys := c.nodup_keys_flatMap_stagePeers payload.dpMetadataList.nodup
  cases hs : payload.dpMetadataList.get? stage with
  | some md =>
    refine Dict.get?_setAll_of_mem _ hkeys (List.mem_flatMap.2 ⟨(stage, md), Dict.mem_entries_iff.2 hs, ?_⟩)
    exact List.mem_map.2 ⟨srcRank, List.mem_range'_1.2 ⟨h1, by omega⟩, rfl⟩
  | none =>
    refine Dict.get?_setAll_of_forall_ne _ fun p hp heq => Dict.get?_eq_none_iff.1 hs ?_
    obtain ⟨e, he, hpe⟩ := List.mem_flatMap.1 hp
    obtain ⟨src, -, rfl⟩ := List.mem_map.1 hpe
    have hstage : e.1 = stage := (Prod.ext_iff.1 heq).1
    exact hstage ▸ List.mem_map_of_mem he

/-! ## The two ends of a pair -/

section Pair
variable {A F : Nat} {g : Bool} (c : P2pNcclAFDConnector)

theorem mapping_attention (hF : 1 ≤ F) (hFA : F ≤ A) (hc : c.afdConfig = ⟨.attention, A, F, g⟩) :
    ∃ a < A, c.mapping.roleRank = a ∧ c.attnSize = A ∧ c.mapping.subgroupIndex = a * F / A ∧
      c.mapping.rankInSubgroup = (subgroupRanksOf (a * F / A) A F).idxOf (F + a) ∧
      c.mapping.subgroupRanks = subgroupRanksOf (a * F / A) A F := by
  obtain ⟨a, hra, ha⟩ := roleRank_of_buildRankMapping c.built
  rw [hc] at ha
  have hm := c.built
  rw [hc, hra, buildRankMapping_attention hF hFA ha, Except.ok.injEq] at hm
  exact ⟨a, ha, by rw [← hm], by rw [attnSize, ← hm], by rw [← hm], by rw [← hm], by rw [← hm]⟩

theorem mapping_ffn (hFA : F ≤ A) (hc : c.afdConfig = ⟨.ffn, A, F, g⟩) :
    ∃ f < F, c.mapping.roleRank = f ∧ c.attnSize = A ∧ c.ffnSize = F ∧
      c.mapping.subgroupRanks = subgroupRanksOf f A F := by
  obtain ⟨f, hrf, hf⟩ := roleRank_of_buildRankMapping c.built
  rw [hc] at hf
  have hm := c.built
  rw [hc, hrf, buildRankMapping_ffn hFA hf, Except.ok.injEq] at hm
  exact ⟨f, hf, by rw [← hm], by rw [attnSize, ← hm], by rw [ffnSize, ← hm], by rw [← hm]⟩

variable {c}

/-- The peer at one place of the roster is the Attention rank there. -/
theorem peerMetadata_numTokens {f : Nat} (hA : c.attnSize = A) (hF : c.ffnSize = F)
    (hs : c.mapping.subgroupRanks = subgroupRanksOf f A F) (md : AFDDPMetadata) {src a : Nat}
    (ha : (subgroupRanksOf f A F)[src]? = some (F + a)) :
    (c.peerMetadata md src).numTokens = numTokensForAttentionRank md (a : Nat) A := by
  have hpeer : ((c.mapping.subgroupRanks.getD src 0 : Nat) : Int) - c.ffnSize = (a : Nat) := by
    rw [hs, List.getD, ha, hF]
    simp
  simp only [peerMetadata, TensorMetadata.numTokens, List.headD_cons, hpeer, hA]

/-- An FFN rank's stage total is the sum over its block. -/
theorem stageMetadata_ffn_numTokens {f : Nat} (hr : c.afdConfig.role = .ffn) (hA : c.attnSize = A)
    (hF : c.ffnSize = F) (hs : c.mapping.subgroupRanks = subgroupRanksOf f A F) (stage : Int)
    (md : AFDDPMetadata) :
    (c.stageMetadata (stage, md)).numTokens =
      ((subgroupAttentionBlock f A F).map fun a => numTokensForAttentionRank md (a : Nat) A).sum := by
  simp only [stageMetadata, hr, TensorMetadata.numTokens, List.headD_cons]
  have hlen : c.groupSize - 1 = (subgroupAttentionBlock f A F).length := by
    simp [groupSize, hs, subgroupRanksOf]
  refine congrArg List.sum (List.ext_getElem (by simp [stagePeers, hlen]) fun i h1 h2 => ?_)
  have hi : i < (subgroupAttentionBlock f A F).length := by simpa using h2
  simp only [stagePeers, List.getElem_map, List.getElem_range', Nat.one_mul]
  refine peerMetadata_numTokens hA hF hs md ?_
  rw [subgroupRanksOf, Nat.add_comm 1 i, List.getElem?_cons_succ, List.getElem?_map,
    List.getElem?_eq_getElem hi]
  rfl

/-- An Attention rank's place in the roster of its FFN rank. -/
structure Place (ca cf : P2pNcclAFDConnector) (a A : Nat) : Prop where
  roleRank : ca.mapping.roleRank = a
  lt : a < A
  pos : 1 ≤ ca.mapping.rankInSubgroup
  lt_groupSize : ca.mapping.rankInSubgroup < cf.groupSize
  groupSize : ca.groupSize = cf.groupSize
  peer : ∀ md, (cf.peerMetadata md ca.mapping.rankInSubgroup).numTokens =
    numTokensForAttentionRank md (a : Nat) A

theorem place_of_pair (hF : 1 ≤ F) (hFA : F ≤ A) {g' : Bool} {ca cf : P2pNcclAFDConnector}
    (hca : ca.afdConfig = ⟨.attention, A, F, g⟩) (hcf : cf.afdConfig = ⟨.ffn, A, F, g'⟩)
    (hpair : cf.mapping.roleRank = ca.mapping.subgroupIndex) : ∃ a, Place ca cf a A := by
  obtain ⟨a, ha, hra, -, hsub, hidx, hranks⟩ := ca.mapping_attention hF hFA hca
  obtain ⟨f, hf, hrf, hAf, hFf, hroster⟩ := cf.mapping_ffn hFA hcf
  have hfa : f = a * F / A := by rw [← hrf, hpair, hsub]
  subst hfa
  have hmem : F + a ∈ subgroupRanksOf (a * F / A) A F :=
    (mem_subgroupRanksOf (by omega) hF hf).2 (.inr ⟨by omega, by omega, by rw [Nat.add_sub_cancel_left]⟩)
  refine ⟨a, hra, ha, ?_, ?_, ?_, ?_⟩
  · rw [hidx, subgroupRanksOf, List.idxOf_cons_ne _ (by omega)]
    omega
  · rw [hidx, P2pNcclAFDConnector.groupSize, hroster]
    exact List.idxOf_lt_length_of_mem hmem
  · rw [P2pNcclAFDConnector.groupSize, P2pNcclAFDConnector.groupSize, hranks, hroster]
  · intro md
    apply peerMetadata_numTokens hAf hFf hroster md
    rw [hidx, List.getElem?_eq_getElem (List.idxOf_lt_length_of_mem hmem), List.getElem_idxOf]

end Pair

end P2pNcclAFDConnector

open P2pNcclAFDConnector in
/-- The P2P shape agreement: whatever the payload, and whatever either
connector held before, the rows an Attention rank derives for a stage are the
rows its FFN rank stores for it, and the FFN rank's total is the sum of those
rows over its block, which is also what the FFN runner aggregates. -/
theorem p2p_shape_agreement {A F : Nat} (hF : 1 ≤ F) (hFA : F ≤ A) {g g' : Bool}
    (ca cf : P2pNcclAFDConnector) (hca : ca.afdConfig = ⟨.attention, A, F, g⟩)
    (hcf : cf.afdConfig = ⟨.ffn, A, F, g'⟩) (hpair : cf.mapping.roleRank = ca.mapping.subgroupIndex)
    (payload : AFDControlPayload) (stage : Int) :
    (((ca.updateStateFromDpMetadata payload).tensorMetadataList.get? stage).map TensorMetadata.numTokens =
      (payload.dpMetadataList.get? stage).map fun md =>
        numTokensForAttentionRank md ca.mapping.roleRank A) ∧
    ((cf.updateStateFromDpMetadata payload).recvAttnTensorMetadataList.get?
      (stage, ca.mapping.rankInSubgroup)).map
        TensorMetadata.numTokens =
      ((ca.updateStateFromDpMetadata payload).tensorMetadataList.get? stage).map TensorMetadata.numTokens ∧
    (∀ md, payload.dpMetadataList.get? stage = some md →
      ((cf.updateStateFromDpMetadata payload).tensorMetadataList.get? stage).map TensorMetadata.numTokens =
        some ((subgroupAttentionBlock cf.mapping.roleRank A F).map fun a =>
          numTokensForAttentionRank md (a : Nat) A).sum ∧
      (aggregateFfnTokenCounts md.counts A F)[cf.mapping.roleRank]? =
        ((cf.updateStateFromDpMetadata payload).tensorMetadataList.get? stage).map
          TensorMetadata.numTokens) := by
  obtain ⟨a, hplace⟩ := place_of_pair hF hFA hca hcf hpair
  obtain ⟨-, -, -, hAa, -, -, -⟩ := ca.mapping_attention hF hFA hca
  obtain ⟨f, hf, hrf, hAf, hFf, hroster⟩ := cf.mapping_ffn hFA hcf
  have hroleA : ca.afdConfig.role = .attention := by rw [hca]
  have hroleF : cf.afdConfig.role = .ffn := by rw [hcf]
  have hattention : ((ca.updateStateFromDpMetadata payload).tensorMetadataList.get? stage).map
      TensorMetadata.numTokens = (payload.dpMetadataList.get? stage).map fun md =>
      numTokensForAttentionRank md ca.mapping.roleRank A := by
    rw [tensorMetadataList_update, Option.map_map]
    refine Option.map_congr fun md _ => ?_
    simp only [Function.comp_apply, stageMetadata, hroleA, TensorMetadata.numTokens, List.headD_cons, hAa]
  refine ⟨hattention, ?_, fun md hmd => ?_⟩
  · rw [hattention, recvAttnTensorMetadataList_update cf hroleF payload stage hplace.pos
      hplace.lt_groupSize, Option.map_map]
    refine Option.map_congr fun md _ => ?_
    rw [hplace.roleRank]
    exact hplace.peer md
  · have htotal := stageMetadata_ffn_numTokens hroleF hAf hFf hroster stage md
    rw [tensorMetadataList_update, hmd, Option.map_some, Option.map_some, htotal, hrf]
    exact ⟨rfl, aggregateFfnTokenCounts_getElem? hF hFA md hf⟩

/-- Three Attention ranks on two FFN ranks: `F0` stores one placeholder row
for `A1`, which has no token in stage 1. -/
theorem p2p_shape_agreement_three_two :
    (((⟨⟨.ffn, 3, 2, false⟩, 0, _, rfl, 8, .bfloat16, true, ∅, false, false, ∅, ∅, ∅, ∅⟩ :
      P2pNcclAFDConnector).updateStateFromDpMetadata
        ⟨(∅ : Dict Int AFDDPMetadata).set 1 ⟨[5, 0, 7], 7⟩, false, false, false, false⟩
      ).recvAttnTensorMetadataList.get? (1, 2)).map TensorMetadata.numTokens = some 1 :=
  (p2p_shape_agreement (A := 3) (F := 2) (by decide) (by decide)
    ⟨⟨.attention, 3, 2, false⟩, 1, _, rfl, 8, .bfloat16, true, ∅, false, false, ∅, ∅, ∅, ∅⟩ _ rfl rfl rfl
    ⟨(∅ : Dict Int AFDDPMetadata).set 1 ⟨[5, 0, 7], 7⟩, false, false, false, false⟩ 1).2.1.trans (by decide)

end AfdPlugin.P2p
