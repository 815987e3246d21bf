import AfdPlugin.Connectors.Codec
import AfdPlugin.Distributed.Topology
import AfdPlugin.Lib.Strided
/-!
# The CAMP2P connector's control state

FFN rank `f` serves the Attention ranks `f, f + F, f + 2 F, …`. The operators
move equal chunks for each of them, so when the stages of a step can have
different sizes the connector replaces every rank's count by the largest one of
its group; each process does this on its own, from the payload it has.
-/

namespace AfdPlugin.Camp2p

open AfdPlugin.Topology

/-! ## Ranks -/

/-- `_CAMP2PTopology`. -/
structure CAMP2PTopology where
  role : AFDRole
  roleRank : Nat
  worldRank : Nat
  p2pRank : Nat
  attentionSize : Nat
  ffnSize : Nat
  minSize : Nat
  dpMetadataDestinations : List Nat
  deriving DecidableEq, Repr

namespace CAMP2PTopology

def isAttnTopMinSizeRank (t : CAMP2PTopology) : Bool :=
  decide (t.ffnSize ≤ t.worldRank ∧ t.worldRank < t.ffnSize + t.minSize)

def participatesInP2pGroup (t : CAMP2PTopology) : Bool :=
  decide (t.worldRank < t.ffnSize) || t.isAttnTopMinSizeRank

end CAMP2PTopology

/-- Calculate the rank numbers of one process. -/
def buildCamp2pTopology (config : AFDConfig) (roleRank : Int) : Except String CAMP2PTopology := do
  let (attentionSize, ffnSize) := topologyFromConfig config
  if attentionSize = 0 ∨ ffnSize = 0 then
    throw "CAMP2P topology sizes must be positive"
  if attentionSize < ffnSize then
    throw s!"CAMP2P requires attention_size >= ffn_size, got {attentionSize} < {ffnSize}"
  if roleRank < 0 then
    throw s!"CAMP2P role rank must be non-negative, got {roleRank}"
  let rank := roleRank.toNat
  let (worldRank, p2pRank) ← match config.role with
    | .attention =>
      if rank ≥ attentionSize then
        throw s!"Attention role rank must be within attention size (rank={rank}, size={attentionSize})"
      else pure (ffnSize + rank, rank + min ffnSize attentionSize)
    | .ffn =>
      if rank ≥ ffnSize then
        throw s!"FFN role rank must be within FFN size (rank={rank}, size={ffnSize})"
      else pure (rank, rank)
  let minSize := min attentionSize ffnSize
  let destinations :=
    if ffnSize ≤ worldRank ∧ worldRank < ffnSize + minSize then
      destinationsFrom ffnSize minSize ffnSize (worldRank - ffnSize)
    else []
  pure {
    role := config.role
    roleRank := rank
    worldRank := worldRank
    p2pRank := p2pRank
    attentionSize := attentionSize
    ffnSize := ffnSize
    minSize := minSize
    dpMetadataDestinations := destinations }

/-! ## Physical counts -/

/-- The larger of two counts, as `torch.max` keeps it. -/
def maxCount (m c : Int32) : Int32 := if m ≤ c then c else m

/-- `counts.max(dim=0)` at one column of a matrix of `rows + 1` rows. -/
def columnMax (counts : List Int32) (cols column : Nat) : Nat → Int32
  | 0 => counts.getD column 0
  | row + 1 => maxCount (columnMax counts cols column row) (counts.getD ((row + 1) * cols + column) 0)

/-- The counts of one stage, made equal within each strided group. -/
def physicalCounts (attnSize ffnSize ratio : Nat) (counts : List Int32) : Except String (List Int32) :=
  if counts.length = 0 then .error "integer division or modulo by zero"
  else
    let counts := counts.flatMap (List.replicate (attnSize / counts.length))
    if counts.length ≠ ratio * ffnSize then
      .error s!"shape '[{ratio}, {ffnSize}]' is invalid for input of size {counts.length}"
    else
      .ok ((List.range ratio).flatMap fun _ => (List.range ffnSize).map fun f =>
        columnMax counts ffnSize f (ratio - 1))

/-- The connector of one process: what it was built from, and the state its
control plane keeps. -/
structure CAMP2pAFDConnector where
  afdConfig : AFDConfig
  roleRank : Int
  topology : CAMP2PTopology
  built : buildCamp2pTopology afdConfig roleRank = .ok topology
  dpMetadataList : Dict Int AFDDPMetadata := ∅
  isGraphCapturing : Bool := false
  isWarmup : Bool := false

namespace CAMP2pAFDConnector

def attnSize (c : CAMP2pAFDConnector) : Nat := c.topology.attentionSize

def ffnSize (c : CAMP2pAFDConnector) : Nat := c.topology.ffnSize

def ratio (c : CAMP2pAFDConnector) : Nat := c.attnSize / c.ffnSize

def physicalStage (c : CAMP2pAFDConnector) (item : Int × AFDDPMetadata) :
    Except String (Int × AFDDPMetadata) := do
  let counts ← physicalCounts c.attnSize c.ffnSize c.ratio item.2.numTokensAcrossDpCpu
  pure (item.1, ← AFDDPMetadata.new counts none)

/-- `_physical_payload`. -/
def physicalPayload (c : CAMP2pAFDConnector) (payload : AFDControlPayload) :
    Except String AFDControlPayload :=
  if c.ratio ≤ 1 ∨ payload.dpMetadataList.entries.length ≤ 1 then .ok payload
  else do
    let physicalMetadata ← payload.dpMetadataList.entries.mapM c.physicalStage
    pure { payload with dpMetadataList := Dict.setAll ∅ physicalMetadata }

def updateStateFromDpMetadata (c : CAMP2pAFDConnector) (payload : AFDControlPayload) :
    Except String CAMP2pAFDConnector := do
  let physical ← c.physicalPayload payload
  pure { c with
    dpMetadataList := physical.dpMetadataList
    isGraphCapturing := payload.isGraphCapturing
    isWarmup := payload.isWarmup }

end CAMP2pAFDConnector

/-! ## Counts of an FFN rank -/

/-- `l[start:stop:step]`. -/
def strided (l : List Int) (start stop step : Nat) : List Int :=
  (List.range' start ((min stop l.length - start + step - 1) / step) step).map fun i => l.getD i 0

/-- Each DP count once for every TP worker of its DP rank, when the list divides
the Attention ranks. -/
def expandToAttention (counts : List Int) (attentionSize : Nat) : List Int :=
  if counts.length < attentionSize ∧ attentionSize % counts.length = 0 then
    let tpSize := attentionSize / counts.length
    (List.range attentionSize).map fun i => counts.getD (i / tpSize) 0
  else counts

/-- `_num_tokens_for_ffn_rank`: the tokens one FFN rank will receive. -/
def numTokensForFfnRank (dpMetadataList : Dict Int AFDDPMetadata) (stageIdx : Int)
    (ffnRank attentionSize ffnSize : Nat) (fallback : Int) : Except String Int :=
  match dpMetadataList.get? stageIdx with
  | none => .error s!"{stageIdx}"
  | some dpMetadata =>
    let counts := dpMetadata.counts
    if counts.length < attentionSize ∧ counts.length = 0 then .error "integer modulo by zero"
    else
      let counts := expandToAttention counts attentionSize
      if counts.length < attentionSize then .ok (max 1 fallback)
      else if ffnSize ≤ attentionSize ∧ attentionSize % ffnSize = 0 then
        .ok (max 1 (strided counts ffnRank attentionSize ffnSize).sum)
      else .ok (max 1 fallback)

/-- `_ffn_token_counts_across_ranks`: the NPU runner's own derivation, for every
FFN rank at once, in an int32 tensor. -/
def ffnTokenCountsAcrossRanks (attentionSize ffnSize : Nat) (dpMetadataList : Dict Int AFDDPMetadata)
    (stageIdx : Int) (fallback : Int) : Except String (List Int32) := do
  let values ← match dpMetadataList.get? stageIdx with
    | none => pure (List.replicate ffnSize (max 1 fallback))
    | some dpMetadata =>
      let attentionCounts := dpMetadata.counts
      if attentionCounts.length < attentionSize ∧ attentionCounts.length = 0 then
        throw "integer modulo by zero"
      else
        let attentionCounts := expandToAttention attentionCounts attentionSize
        if attentionSize ≤ attentionCounts.length ∧ ffnSize ≤ attentionSize ∧
            attentionSize % ffnSize = 0 then
          pure ((List.range ffnSize).map fun idx =>
            max 1 (strided attentionCounts idx attentionSize ffnSize).sum)
        else pure (List.replicate ffnSize (max 1 fallback))
  values.mapM toInt32

/-- `_ffn_token_count_for_rank`. -/
def ffnTokenCountForRank (roleRank : Nat) (numTokensAcrossDp : List Int32) : Int :=
  let values := numTokensAcrossDp.map Int32.toInt
  if roleRank ≥ values.length then max 1 (values.headD 1) else max 1 (values.getD roleRank 0)

/-! ## Counts of an Attention rank -/

/-- What a stage's list says about one Attention rank. -/
def rankCount (md : AFDDPMetadata) (attentionSize a : Nat) : Int :=
  (expandToAttention md.counts attentionSize).getD a 0

/-- The list has one count for each DP rank. -/
def Expands (md : AFDDPMetadata) (attentionSize : Nat) : Prop :=
  md.numTokensAcrossDpCpu.length ≠ 0 ∧ md.numTokensAcrossDpCpu.length ∣ attentionSize

/-- The list tells a count for every Attention rank. -/
def Complete (md : AFDDPMetadata) (attentionSize : Nat) : Prop :=
  attentionSize ≤ md.numTokensAcrossDpCpu.length ∨ Expands md attentionSize

instance (md : AFDDPMetadata) (attentionSize : Nat) : Decidable (Complete md attentionSize) := by
  unfold Complete Expands; infer_instance

section Counts
variable {A F : Nat} {md : AFDDPMetadata}

@[simp] theorem length_counts (md : AFDDPMetadata) : md.counts.length = md.numTokensAcrossDpCpu.length := by
  simp [AFDDPMetadata.counts]

theorem counts_getD (md : AFDDPMetadata) (i : Nat) :
    md.counts.getD i 0 = (md.numTokensAcrossDpCpu.getD i 0).toInt :=
  List.getD_map md.numTokensAcrossDpCpu 0 Int32.toInt

theorem rankCount_of_le (h : A ≤ md.numTokensAcrossDpCpu.length) (a : Nat) :
    rankCount md A a = (md.numTokensAcrossDpCpu.getD a 0).toInt := by
  rw [rankCount, expandToAttention, if_neg (by rw [length_counts]; omega), counts_getD]

theorem rankCount_of_expands (h : Expands md A) {a : Nat} (ha : a < A) :
    rankCount md A a =
      (md.numTokensAcrossDpCpu.getD (a / (A / md.numTokensAcrossDpCpu.length)) 0).toInt := by
  have hle := Nat.le_of_dvd (by omega) h.2
  rcases Nat.eq_or_lt_of_le hle with heq | hlt
  · rw [rankCount_of_le heq.ge, heq, Nat.div_self (by omega), Nat.div_one]
  · rw [rankCount, expandToAttention, length_counts, if_pos ⟨hlt, Nat.mod_eq_zero_of_dvd h.2⟩]
    simp only [counts_getD]
    rw [List.getD_eq_getElem _ _ (by simpa using ha)]
    simp

theorem length_expandToAttention (h : Complete md A) : A ≤ (expandToAttention md.counts A).length := by
  unfold expandToAttention
  rw [length_counts]
  split
  · simp
  · rename_i hnot
    rcases h with h | h
    · rwa [length_counts]
    · rw [length_counts]
      have := Nat.mod_eq_zero_of_dvd h.2
      omega

/-- A strided slice of the expanded list has the counts of the group. -/
theorem strided_eq {f : Nat} (h : Complete md A) (hf : f < F) :
    strided (expandToAttention md.counts A) f A F = (Strided.group A F f).map (rankCount md A) := by
  rw [strided, Nat.min_eq_left (length_expandToAttention h), Strided.range'_eq_group hf]
  rfl

/-- A list that tells every count has an entry to divide by. -/
theorem counts_nonempty (h : Complete md A) : ¬ (md.counts.length < A ∧ md.counts.length = 0) := by
  rw [length_counts]
  rcases h with h | h
  · omega
  · exact fun hz => h.1 hz.2

/-- An FFN rank's total, when the groups are equal and every rank has a count. -/
theorem numTokensForFfnRank_eq {d : Dict Int AFDDPMetadata} {stage : Int} (hmd : d.get? stage = some md)
    (h : Complete md A) (hFA : F ∣ A) (hA : 0 < A) {f : Nat} (hf : f < F) (fallback : Int) :
    numTokensForFfnRank d stage f A F fallback =
      .ok (max 1 ((Strided.group A F f).map (rankCount md A)).sum) := by
  have hlen := length_expandToAttention h
  simp only [numTokensForFfnRank, hmd, counts_nonempty h, if_false, not_lt.2 hlen, Nat.le_of_dvd hA hFA,
    Nat.mod_eq_zero_of_dvd hFA, and_self, if_true, strided_eq h hf]

/-- The runner puts the totals of all FFN ranks into its tensor. -/
theorem ffnTokenCountsAcrossRanks_eq {d : Dict Int AFDDPMetadata} {stage : Int}
    (hmd : d.get? stage = some md) (h : Complete md A) (hFA : F ∣ A) (hA : 0 < A) (fallback : Int) :
    ffnTokenCountsAcrossRanks A F d stage fallback =
      ((List.range F).map fun f => max 1 ((Strided.group A F f).map (rankCount md A)).sum).mapM
        toInt32 := by
  have hlen := length_expandToAttention h
  have hvalues : ((List.range F).map fun f => max 1 (strided (expandToAttention md.counts A) f A F).sum) =
      (List.range F).map fun f => max 1 ((Strided.group A F f).map (rankCount md A)).sum :=
    List.map_congr_left fun f hf => by rw [strided_eq h (List.mem_range.1 hf)]
  simp only [ffnTokenCountsAcrossRanks, hmd, counts_nonempty h, if_false, hlen, Nat.le_of_dvd hA hFA,
    Nat.mod_eq_zero_of_dvd hFA, and_self, if_true, hvalues, pure, Except.pure, bind, Except.bind]

/-- A positive value that fits is stored as it is. -/
theorem toInt32_max_one {n : Int} (h : n < 2 ^ 31) :
    toInt32 (max 1 n) = .ok (Int32.ofInt (max 1 n)) ∧ (Int32.ofInt (max 1 n)).toInt = max 1 n := by
  have hle : (-2 ^ 31 : Int) ≤ max 1 n := (show (-2 ^ 31 : Int) ≤ 1 by decide).trans (le_max_left _ _)
  have hlt : max 1 n < 2 ^ 31 := max_lt (by decide) h
  refine ⟨if_pos ⟨hle, hlt⟩, ?_⟩
  rw [Int32.toInt_ofInt_of_le] <;> omega

/-- The runner computes the same totals, if they fit its tensor. -/
theorem ffnTokenCountForRank_eq {d : Dict Int AFDDPMetadata} {stage : Int} (hmd : d.get? stage = some md)
    (h : Complete md A) (hFA : F ∣ A) (hA : 0 < A)
    (hfit : ∀ f < F, ((Strided.group A F f).map (rankCount md A)).sum < 2 ^ 31) (fallback : Int) :
    ∃ values, ffnTokenCountsAcrossRanks A F d stage fallback = .ok values ∧
      ∀ f < F, ffnTokenCountForRank f values = max 1 ((Strided.group A F f).map (rankCount md A)).sum := by
  let total := fun f => max 1 ((Strided.group A F f).map (rankCount md A)).sum
  refine ⟨(List.range F).map fun f => Int32.ofInt (total f), ?_, fun f hf => ?_⟩
  · rw [ffnTokenCountsAcrossRanks_eq hmd h hFA hA]
    exact Fallible.mapM_map_ok fun f hf => (toInt32_max_one (hfit f (List.mem_range.1 hf))).1
  · have htotal : (Int32.ofInt (total f)).toInt = total f := (toInt32_max_one (hfit f hf)).2
    simp only [ffnTokenCountForRank, List.map_map, List.length_map, List.length_range, ge_iff_le,
      not_le.2 hf, if_false]
    rw [List.getD_eq_getElem _ _ (by simpa using hf)]
    simp only [List.getElem_map, List.getElem_range, Function.comp_apply, htotal]
    exact max_eq_right (le_max_left _ _)

end Counts

end AfdPlugin.Camp2p
