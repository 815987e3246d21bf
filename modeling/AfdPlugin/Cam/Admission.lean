import AfdPlugin.Cam.Chunks
import AfdPlugin.Cam.Layout
/-!
# Batches a receive capacity admits

`validate_graph_capacity` checks that the receive capacity covers the rows of
the largest padded batch. The receive takes whole experts, so what has to fit
is the number of assignments of each expert over the TP group. A token routes
to an expert at most once, but a padding row names expert 0 in all its top-k
slots.
-/

namespace AfdPlugin.Cam

def CAM_MAX_SOURCE_ROWS : Int := (1 <<< 16) - 1

def validateGraphCapacity (maxTokens tpSize capacity : Int) : Except String Unit :=
  if min maxTokens (min tpSize capacity) ≤ 0 ∨ maxTokens % tpSize ≠ 0 then
    .error "Graph dispatch envelope must be positive and divisible by TP"
  else if capacity < maxTokens then
    .error "Async FFN graph capacity is smaller than the dispatch envelope"
  else if maxTokens / tpSize > CAM_MAX_SOURCE_ROWS then
    .error "Async CAM graph source rows exceed the uint16 protocol bound"
  else .ok ()

/-- What a validated configuration promises. -/
theorem validateGraphCapacity_ok {maxTokens tpSize capacity : Int}
    (h : validateGraphCapacity maxTokens tpSize capacity = .ok ()) :
    0 < maxTokens ∧ 0 < tpSize ∧ maxTokens % tpSize = 0 ∧ maxTokens ≤ capacity ∧
      maxTokens / tpSize ≤ CAM_MAX_SOURCE_ROWS := by
  unfold validateGraphCapacity at h
  split at h
  · cases h
  · rename_i hpos
    split at h
    · cases h
    · split at h
      · cases h
      · push Not at hpos
        omega

/-- Top-k routing of a TP group's tokens, as each TP rank holds it. -/
structure GroupRouting (expertNum topk tpSize : Nat) (useSequenceParallel : Bool) where
  topkIds : Nat → List (Vector Nat topk)
  /-- The router picks distinct experts for a token. -/
  distinct : ∀ r < tpSize, ∀ ids ∈ topkIds r, ids.toList.Nodup
  valid : ∀ r < tpSize, ∀ ids ∈ topkIds r, ∀ id ∈ ids.toList, id < expertNum
  /-- Plain TP keeps the tokens replicated. -/
  replicated : useSequenceParallel = false → ∀ r < tpSize, topkIds r = topkIds 0

namespace GroupRouting
variable {expertNum topk tpSize : Nat} {sp : Bool} (g : GroupRouting expertNum topk tpSize sp)

/-- The group's tokens, each once. -/
def tokens : List (Vector Nat topk) :=
  if sp ∨ tpSize ≤ 1 then (List.range tpSize).flatMap g.topkIds else g.topkIds 0

/-- Rows that the layout adds to make the slices equal. -/
def paddingRows : Nat :=
  if sp ∨ tpSize ≤ 1 then 0
  else ((g.topkIds 0).length + tpSize - 1) / tpSize * tpSize - (g.topkIds 0).length

end GroupRouting

/-- How often the rows name an expert. -/
def expertCount {topk : Nat} (rows : List (Vector Nat topk)) (expertId : Nat) : Nat :=
  (rows.flatMap Vector.toList).count expertId

/-- How often the payloads of a TP group name an expert. -/
def tpExpertCount {H W L : Type} {topk : Nat} (tpSize : Nat) (payload : Nat → CAMDispatchPayload H W L topk)
    (expertId : Nat) : Nat :=
  ((List.range tpSize).map fun r => expertCount (payload r).topkIds expertId).sum

/-! ## Counting -/

section Count
variable {topk : Nat}

theorem expertCount_append (rows rows' : List (Vector Nat topk)) (e : Nat) :
    expertCount (rows ++ rows') e = expertCount rows e + expertCount rows' e := by
  simp [expertCount, List.flatMap_append, List.count_append]

theorem expertCount_flatMap (n : Nat) (rows : Nat → List (Vector Nat topk)) (e : Nat) :
    expertCount ((List.range n).flatMap rows) e =
      ((List.range n).map fun r => expertCount (rows r) e).sum := by
  induction n with
  | zero => simp [expertCount]
  | succ n ih => simp [List.range_succ, List.flatMap_append, expertCount_append, ih]

/-- A zero row names expert 0 in every slot. -/
theorem expertCount_zeroRows (n e : Nat) :
    expertCount (List.replicate n (0 : Vector Nat topk)) e = if e = 0 then n * topk else 0 := by
  have hzero : (0 : Vector Nat topk).toList = List.replicate topk 0 := Vector.toList_replicate
  induction n with
  | zero => simp [expertCount]
  | succ n ih =>
    rw [List.replicate_succ, ← List.singleton_append, expertCount_append, ih]
    simp only [expertCount, List.flatMap_singleton, hzero, List.count_replicate, beq_iff_eq]
    rcases eq_or_ne e 0 with rfl | he
    · simp [Nat.succ_mul, Nat.add_comm]
    · simp [he, he.symm]

/-- Tokens with distinct experts name an expert at most once each. -/
theorem expertCount_le_length {rows : List (Vector Nat topk)}
    (h : ∀ ids ∈ rows, ids.toList.Nodup) (e : Nat) :
    expertCount rows e ≤ rows.length := by
  induction rows with
  | nil => simp [expertCount]
  | cons ids rows ih =>
    have hhead : ids.toList.count e ≤ 1 := List.nodup_iff_count_le_one.1 (h ids List.mem_cons_self) e
    have htail := ih fun ids' h' => h ids' (List.mem_cons_of_mem _ h')
    simp only [expertCount, List.flatMap_cons, List.count_append, List.length_cons] at htail ⊢
    omega

end Count

/-! ## What a group dispatches -/

section Group
variable {H W L : Type} [Zero H] [Zero W] [Zero L] {expertNum topk tpSize : Nat} {sp : Bool}

theorem requireMatchingFirstDim_ok {α : Type} {tensor : List α} {n : Nat} {name : String} {u : Unit}
    (h : requireMatchingFirstDim tensor n name = .ok u) : tensor.length = n := by
  unfold requireMatchingFirstDim at h
  split at h
  · cases h
  · rename_i hlen
    exact not_not.1 hlen

/-- The expert ids a rank dispatches. -/
theorem topkIds_of_prepare {hiddenStates : List H} {topkWeights : List (Vector W topk)}
    {topkIds : List (Vector Nat topk)} {routerLogits : Option (List L)} {tpRank : Nat}
    {payload : CAMDispatchPayload H W L topk} (htp : 0 < tpSize)
    (h : prepareCamDispatchPayload hiddenStates topkWeights topkIds routerLogits sp tpRank tpSize =
      .ok payload) :
    payload.topkIds =
      if sp ∨ tpSize ≤ 1 then topkIds
      else
        let c := (topkIds.length + tpSize - 1) / tpSize
        sliceRows (topkIds ++ List.replicate (c * tpSize - topkIds.length) 0)
          (tpRank * c, tpRank * c + c) := by
  unfold prepareCamDispatchPayload at h
  obtain ⟨_, -, h⟩ := Fallible.bind_eq_ok.1 h
  obtain ⟨_, hids, h⟩ := Fallible.bind_eq_ok.1 h
  obtain ⟨_, -, h⟩ := Fallible.bind_eq_ok.1 h
  split at h
  · rename_i hsp
    rw [if_pos hsp, ← Except.ok.inj h]
  · rename_i hsp
    obtain ⟨_, -, h⟩ := Fallible.bind_eq_ok.1 h
    obtain ⟨_, -, h⟩ := Fallible.bind_eq_ok.1 h
    obtain ⟨ids, hrows, h⟩ := Fallible.bind_eq_ok.1 h
    obtain ⟨_, -, h⟩ := Fallible.bind_eq_ok.1 h
    rw [← requireMatchingFirstDim_ok hids] at hrows
    rw [if_neg hsp, ← Except.ok.inj h]
    simp only [localRows, padFirstDim_ok (le_slices htp)] at hrows
    exact (Except.ok.inj hrows).symm

/-- The payloads of a TP group: each rank prepares its own from the tensors it
holds. -/
def Prepared (g : GroupRouting expertNum topk tpSize sp) (hiddenStates : Nat → List H)
    (topkWeights : Nat → List (Vector W topk)) (routerLogits : Nat → Option (List L))
    (payload : Nat → CAMDispatchPayload H W L topk) : Prop :=
  ∀ r < tpSize,
    prepareCamDispatchPayload (hiddenStates r) (topkWeights r) (g.topkIds r) (routerLogits r) sp r
    tpSize = .ok (payload r)

variable {g : GroupRouting expertNum topk tpSize sp} {hiddenStates : Nat → List H}
  {topkWeights : Nat → List (Vector W topk)} {routerLogits : Nat → Option (List L)}
  {payload : Nat → CAMDispatchPayload H W L topk}

/-- A group dispatches its tokens and the padding rows. -/
theorem flatMap_topkIds (htp : 0 < tpSize) (hp : Prepared g hiddenStates topkWeights routerLogits payload) :
    (List.range tpSize).flatMap (fun r => (payload r).topkIds) =
      g.tokens ++ List.replicate g.paddingRows 0 := by
  unfold GroupRouting.tokens GroupRouting.paddingRows
  split
  · rename_i hsp
    simp only [List.replicate_zero, List.append_nil]
    apply flatMap_congr_range
    intro r hr
    rw [topkIds_of_prepare htp (hp r hr), if_pos hsp]
  · rename_i hsp
    have hplain : sp = false := by
      cases sp
      · rfl
      · exact absurd (.inl rfl) hsp
    have hlen : (g.topkIds 0).length ≤ ((g.topkIds 0).length + tpSize - 1) / tpSize * tpSize :=
      le_slices htp
    -- every rank slices the same padded tensor
    rw [flatMap_congr_range fun r hr => (topkIds_of_prepare htp (hp r hr)).trans (if_neg hsp)]
    rw [flatMap_congr_range fun r hr => by rw [g.replicated hplain r hr], flatMap_sliceRows]
    apply List.take_of_length_le
    rw [List.length_append, List.length_replicate, Nat.mul_comm tpSize]
    omega

/-- A token counts for its own experts, a padding row for expert 0. -/
theorem tpExpertCount_eq (htp : 0 < tpSize)
    (hp : Prepared g hiddenStates topkWeights routerLogits payload) (e : Nat) :
    tpExpertCount tpSize payload e = expertCount g.tokens e + if e = 0 then g.paddingRows * topk
      else 0 := by
  rw [tpExpertCount, ← expertCount_flatMap, flatMap_topkIds htp hp, expertCount_append,
    expertCount_zeroRows]

theorem GroupRouting.nodup_tokens (g : GroupRouting expertNum topk tpSize sp) (htp : 0 < tpSize) :
    ∀ ids ∈ g.tokens, ids.toList.Nodup := by
  intro ids hids
  unfold GroupRouting.tokens at hids
  split at hids
  · obtain ⟨r, hr, hmem⟩ := List.mem_flatMap.1 hids
    exact g.distinct r (List.mem_range.1 hr) ids hmem
  · exact g.distinct 0 htp ids hids

/-- Only expert 0 of a validated batch can exceed the capacity. -/
theorem tpExpertCount_le {maxTokens capacity : Nat} (htp : 0 < tpSize) (hcap : maxTokens ≤ capacity)
    (hmax : g.tokens.length + g.paddingRows ≤ maxTokens)
    (hp : Prepared g hiddenStates topkWeights routerLogits payload)
    (hzero : expertCount g.tokens 0 + g.paddingRows * topk ≤ capacity) (e : Nat) :
    tpExpertCount tpSize payload e ≤ capacity := by
  rw [tpExpertCount_eq htp hp]
  rcases eq_or_ne e 0 with rfl | he
  · simpa using hzero
  · have := expertCount_le_length (g.nodup_tokens htp) e
    rw [if_neg he]
    omega

end Group

/-! ## Admission -/

/-- For a configuration that FULL mode accepts and a batch of at most
`maxTokens` padded rows: every expert's count over the TP group is within the
receive capacity, and no MoE rank's receive stalls, exactly when the
assignments of real tokens to expert 0 and `topk` for each padding row fit the
capacity. Otherwise the first call of MoE rank 0 takes its error return (its
count being a `uint32_t`). -/
theorem receive_admits_iff {H W L : Type} [Zero H] [Zero W] [Zero L]
    {moeRankNum expertNumPerMoe topk tpSize : Nat} {sp : Bool} (maxTokens capacity : Nat)
    (hM : 0 < moeRankNum) (hR : 0 < expertNumPerMoe)
    (hvalid : validateGraphCapacity maxTokens tpSize capacity = .ok ())
    (g : GroupRouting (moeRankNum * expertNumPerMoe) topk tpSize sp)
    (hmax : g.tokens.length + g.paddingRows ≤ maxTokens) (hiddenStates : Nat → List H)
    (topkWeights : Nat → List (Vector W topk)) (routerLogits : Nat → Option (List L))
    (payload : Nat → CAMDispatchPayload H W L topk)
    (hp : Prepared g hiddenStates topkWeights routerLogits payload) :
    (((∀ e < moeRankNum * expertNumPerMoe, tpExpertCount tpSize payload e ≤ capacity) ∧
        ∀ m < moeRankNum, NeverStalls expertNumPerMoe capacity fun i =>
          tpExpertCount tpSize payload (m * expertNumPerMoe + i) % 2 ^ 32) ↔
      expertCount g.tokens 0 + g.paddingRows * topk ≤ capacity) ∧
    (capacity < expertCount g.tokens 0 + g.paddingRows * topk →
      expertCount g.tokens 0 + g.paddingRows * topk < 2 ^ 32 →
      selectChunk expertNumPerMoe capacity (fun _ => 0)
        (fun i => tpExpertCount tpSize payload i % 2 ^ 32) = none) := by
  obtain ⟨-, htp, -, hcap, -⟩ := validateGraphCapacity_ok hvalid
  replace htp : 0 < tpSize := by omega
  replace hcap : maxTokens ≤ capacity := by omega
  have hcount : tpExpertCount tpSize payload 0 = expertCount g.tokens 0 + g.paddingRows * topk := by
    rw [tpExpertCount_eq htp hp, if_pos rfl]
  refine ⟨⟨fun h => ?_, fun h => ⟨fun e _ => tpExpertCount_le htp hcap hmax hp h e, fun m _ => ?_⟩⟩,
    fun hlt hbound => ?_⟩
  · have := h.1 0 (Nat.mul_pos hM hR)
    omega
  · apply neverStalls_of_le hR
    intro i _
    exact (Nat.mod_le _ _).trans (tpExpertCount_le htp hcap hmax hp h _)
  · apply (not_neverStalls_of_lt hR _).1
    rw [hcount, Nat.mod_mod, Nat.mod_eq_of_lt hbound]
    exact hlt

/-- Three tokens on two TP ranks, top-2 of four experts, none of them expert 0. -/
def threeTokens : GroupRouting (1 * 4) 2 2 false where
  topkIds := fun _ => [#v[1, 2], #v[3, 1], #v[2, 3]]
  distinct := by decide
  valid := by decide
  replicated := fun _ _ _ => rfl

/-- The slices of `threeTokens`: the second one ends with a padding row. -/
def threeTokensPayload (r : Nat) : CAMDispatchPayload Nat Nat Nat 2 :=
  if r = 0 then
    ⟨[7, 8], [#v[1, 1], #v[1, 1]], [#v[1, 2], #v[3, 1]], none, ⟨3, 4, (0, 2), true, false, 0, 2⟩⟩
  else ⟨[9, 0], [#v[1, 1], #v[0, 0]], [#v[2, 3], #v[0, 0]], none, ⟨3, 4, (2, 4), true, false, 1, 2⟩⟩

theorem receive_admits_iff_three_tokens :
    (∀ e < 1 * 4, tpExpertCount 2 threeTokensPayload e ≤ 4) ∧
      ∀ m < 1, NeverStalls 4 4 fun i => tpExpertCount 2 threeTokensPayload (m * 4 + i) % 2 ^ 32 :=
  (receive_admits_iff 4 4 (by decide) (by decide) (by decide) threeTokens (by decide)
    (fun _ => [7, 8, 9]) (fun _ => [#v[1, 1], #v[1, 1], #v[1, 1]]) (fun _ => none) threeTokensPayload
    (by unfold Prepared; decide)).1.2 (by decide)

/-- One token on four TP ranks, top-2 of four experts. -/
def oneToken : GroupRouting (1 * 4) 2 4 false where
  topkIds := fun _ => [#v[1, 2]]
  distinct := by decide
  valid := by decide
  replicated := fun _ _ _ => rfl

def oneTokenPayload (r : Nat) : CAMDispatchPayload Nat Nat Nat 2 :=
  if r = 0 then ⟨[7], [#v[1, 1]], [#v[1, 2]], none, ⟨1, 4, (0, 1), true, false, 0, 4⟩⟩
  else ⟨[0], [#v[0, 0]], [#v[0, 0]], none, ⟨1, 4, (r, r + 1), true, false, r, 4⟩⟩

/-- Capacity 4 is accepted for four rows, but the three padding rows of a
one-token batch name expert 0 six times: the first receive fails. -/
theorem padding_rows_stall_receive :
    validateGraphCapacity 4 4 4 = .ok () ∧ oneToken.tokens.length + oneToken.paddingRows = 4 ∧
      Prepared oneToken (fun _ => [7]) (fun _ => [#v[1, 1]]) (fun _ => none) oneTokenPayload ∧
      tpExpertCount 4 oneTokenPayload 0 = 6 ∧
      selectChunk 4 4 (fun _ => 0) (fun i => tpExpertCount 4 oneTokenPayload i % 2 ^ 32) = none := by
  refine ⟨by decide, by decide, ?_, by decide, by decide⟩
  unfold Prepared
  decide

end AfdPlugin.Cam
