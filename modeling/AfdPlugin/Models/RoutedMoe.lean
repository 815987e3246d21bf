import AfdPlugin.Cam.Layout
import AfdPlugin.Connectors.DeepepM2n.Agreement
import AfdPlugin.Lib.Strided
/-!
# Routed experts behind a TP group

The TP ranks of an Attention instance hold the same tokens. With a connector
that dispatches to experts each of them routes a slice: the tokens are padded to
a multiple of the ranks, padding rows are routed nowhere, and the combined
slices are gathered and cut to the tokens again.
-/

namespace AfdPlugin.Deepep

open Cam (sliceRows getElem?_sliceRows flatMap_sliceRows flatMap_congr_range)

/-- Expert id of a padding row: a routed-experts connector sends it nowhere. -/
def UNROUTED_EXPERT_ID : Int := -1

/-- A row that is handed to the connector. -/
structure RoutedRow (H W : Type) where
  hiddenStates : H
  topkWeights : List W
  topkIds : List Int

section Slices
variable {H W : Type} [Zero H]

/-- vLLM's `sequence_parallel_chunk`: zero rows up to a multiple of the ranks,
and the rank's slice. -/
def sequenceParallelChunk (tpRank tpSize : Nat) (x : List H) : List H :=
  let remainder := x.length % tpSize
  let y := if remainder ≠ 0 then x ++ List.replicate (tpSize - remainder) 0 else x
  let chunk := y.length / tpSize
  sliceRows y (tpRank * chunk, tpRank * chunk + chunk)

/-- `_unroute_tp_padding`. -/
def unrouteTpPadding (tpRank : Nat) (topkIds : List (List Int)) (numTokens : Nat) : List (List Int) :=
  let localTokens := topkIds.length
  topkIds.mapIdx fun i ids => if numTokens ≤ tpRank * localTokens + i then
    ids.map fun _ => UNROUTED_EXPERT_ID else ids

/-- What a TP rank hands to the connector, when `route` gives the weights and the
experts of a row. -/
def dispatchSlice (tpRank tpSize : Nat) (route : H → List W × List Int) (hiddenStates : List H) :
    List (RoutedRow H W) :=
  let numTokens := hiddenStates.length
  let hiddenStates := if 1 < tpSize then sequenceParallelChunk tpRank tpSize hiddenStates else hiddenStates
  let topkWeights := hiddenStates.map fun x => (route x).1
  let topkIds := hiddenStates.map fun x => (route x).2
  let topkIds := if 1 < tpSize then unrouteTpPadding tpRank topkIds numTokens else topkIds
  List.zipWith (fun x row => ⟨x, row.1, row.2⟩) hiddenStates (topkWeights.zip topkIds)

/-- The output of every rank after the gather, from the outputs of the slices. -/
def gatherSlices (tpSize numTokens : Nat) (output : Nat → List H) : List H :=
  if 1 < tpSize then ((List.range tpSize).flatMap output).take numTokens else output 0

/-- A row with its own experts. -/
def routed (route : H → List W × List Int) (x : H) : RoutedRow H W := ⟨x, (route x).1, (route x).2⟩

/-- A row that goes nowhere. -/
def unrouted (route : H → List W × List Int) (x : H) : RoutedRow H W :=
  ⟨x, (route x).1, (route x).2.map fun _ => UNROUTED_EXPERT_ID⟩

end Slices

/-! ## The two Attention-side blocks -/

section Blocks
variable {H W L : Type}

/-- `RemoteFFNProxy` with a gate; gate and `fused_topk` work row by row. -/
structure RemoteFFNProxy (H W L : Type) where
  gate : H → L
  fusedTopk : H → L → List W × List Int
  tpSize : Nat

def RemoteFFNProxy.route (p : RemoteFFNProxy H W L) (x : H) : List W × List Int := p.fusedTopk x (p.gate x)

/-- `AFDDeepseekV2RoutedExpertsMoE`. -/
structure AFDDeepseekV2RoutedExpertsMoE (H W L : Type) where
  gate : H → L
  selectExperts : H → L → List W × List Int
  routedScalingFactor : W
  sharedExperts : Option (H → H)
  tpSize : Nat

def AFDDeepseekV2RoutedExpertsMoE.route [Mul W] [One W] [DecidableEq W]
    (m : AFDDeepseekV2RoutedExpertsMoE H W L) (x : H) : List W × List Int :=
  let (topkWeights, topkIds) := m.selectExperts x (m.gate x)
  if m.routedScalingFactor ≠ 1 then (topkWeights.map (· * m.routedScalingFactor), topkIds)
    else (topkWeights, topkIds)

/-- The weighted sum of a row's experts, which combine returns. -/
def topkSum [Zero H] [Add H] [SMul W H] (expert : Int → H → H) (row : RoutedRow H W) : H :=
  (row.topkWeights.zip row.topkIds).foldl
    (fun sum p => if p.2 = UNROUTED_EXPERT_ID then sum else sum + p.1 • expert p.2 row.hiddenStates) 0

/-- A connector whose combine returns, for each row that was dispatched, the sum
over its experts. -/
def CombinesRows [Zero H] [Add H] [SMul W H] (sendAndReceive : Nat → List (RoutedRow H W) → List H)
    (expert : Int → H → H) : Prop :=
  ∀ tpRank rows, sendAndReceive tpRank rows = rows.map (topkSum expert)

variable [Zero H]

/-- `RemoteFFNProxy.forward` on the TP group. -/
def RemoteFFNProxy.forward (p : RemoteFFNProxy H W L) (sendAndReceive : Nat → List (RoutedRow H W) → List H)
    (hiddenStates : List H) : List H :=
  gatherSlices p.tpSize hiddenStates.length fun tpRank =>
    sendAndReceive tpRank (dispatchSlice tpRank p.tpSize p.route hiddenStates)

/-- `AFDDeepseekV2RoutedExpertsMoE.forward` on the TP group: the shared experts
run on the slice. -/
def AFDDeepseekV2RoutedExpertsMoE.forward [Mul W] [One W] [DecidableEq W] [Add H]
    (m : AFDDeepseekV2RoutedExpertsMoE H W L) (sendAndReceive : Nat → List (RoutedRow H W) → List H)
    (hiddenStates : List H) : List H :=
  gatherSlices m.tpSize hiddenStates.length fun tpRank =>
    let rows := dispatchSlice tpRank m.tpSize m.route hiddenStates
    let output := sendAndReceive tpRank rows
    match m.sharedExperts with
    | none => output
    | some sharedExperts => List.zipWith (· + ·) output (rows.map fun row => sharedExperts row.hiddenStates)

end Blocks

/-! ## The slices -/

section Dispatch
variable {H W : Type} [Zero H] {tp : Nat} {route : H → List W × List Int} {hiddenStates : List H}

/-- The tokens with the rows that pad them. -/
def paddedRows (tp : Nat) (x : List H) : List H := x ++ List.replicate (x.length ⌈/⌉ tp * tp - x.length) 0

theorem length_paddedRows (htp : 0 < tp) (x : List H) :
    (paddedRows tp x).length = tp * (x.length ⌈/⌉ tp) := by
  have hle := le_roundUp htp x.length
  rw [roundUp] at hle
  rw [paddedRows, List.length_append, List.length_replicate, Nat.mul_comm tp]
  omega

theorem sequenceParallelChunkRows_mul (htp : 0 < tp) (n : Nat) :
    n ⌈/⌉ tp * tp = if n % tp ≠ 0 then n + (tp - n % tp) else n := by
  have hdiv := Nat.div_add_mod n tp
  rw [← sequenceParallelChunkRows_eq htp]
  unfold sequenceParallelChunkRows
  dsimp only
  split
  · have hsum : n + (tp - n % tp) = tp * (n / tp + 1) := by
      have := Nat.mod_lt n htp
      rw [Nat.mul_add]
      omega
    rw [hsum, Nat.mul_div_cancel_left _ htp, Nat.mul_comm]
  · rw [Nat.mul_comm]
    omega

theorem sequenceParallelChunk_eq (htp : 0 < tp) (r : Nat) (x : List H) :
    sequenceParallelChunk r tp x =
      sliceRows (paddedRows tp x) (r * (x.length ⌈/⌉ tp), r * (x.length ⌈/⌉ tp) + x.length ⌈/⌉ tp) := by
  have hpadded : (if x.length % tp ≠ 0 then x ++ List.replicate (tp - x.length % tp) 0 else x) =
      paddedRows tp x := by
    rw [paddedRows, sequenceParallelChunkRows_mul htp]
    split
    · rw [Nat.add_sub_cancel_left]
    · simp
  unfold sequenceParallelChunk
  dsimp only
  rw [hpadded, length_paddedRows htp, Nat.mul_div_cancel_left _ htp]

/-- What the ranks dispatch together: the tokens with their experts, and padding
rows with none. -/
def groupRows (tp : Nat) (route : H → List W × List Int) (x : List H) : List (RoutedRow H W) :=
  x.map (routed route) ++ List.replicate (x.length ⌈/⌉ tp * tp - x.length) (unrouted route 0)

theorem length_groupRows (htp : 0 < tp) :
    (groupRows tp route hiddenStates).length = tp * (hiddenStates.length ⌈/⌉ tp) := by
  rw [← length_paddedRows htp, groupRows, paddedRows]
  simp

theorem getElem?_groupRows (k : Nat) :
    (groupRows tp route hiddenStates)[k]? =
      (paddedRows tp hiddenStates)[k]?.map
        (if hiddenStates.length ≤ k then unrouted route else routed route) := by
  rw [groupRows, paddedRows]
  split
  · rename_i hle
    rw [List.getElem?_append_right (by simpa using hle), List.getElem?_append_right hle]
    simp [List.getElem?_replicate]
  · rename_i hlt
    rw [List.getElem?_append_left (by simpa using hlt), List.getElem?_append_left (by simpa using hlt),
      List.getElem?_map]

omit [Zero H] in
/-- A slice row by row, when `ids` are its expert ids. -/
theorem zipWith_rows (x : List H) (ids : List (List Int)) (i : Nat) :
    (List.zipWith (fun x row => (⟨x, row.1, row.2⟩ : RoutedRow H W)) x
      ((x.map fun x => (route x).1).zip ids))[i]? =
      x[i]?.bind fun x => ids[i]?.map fun ids => ⟨x, (route x).1, ids⟩ := by
  rw [List.getElem?_zipWith, List.zip_eq_zipWith, List.getElem?_zipWith, List.getElem?_map]
  cases x[i]? with
  | none => rfl
  | some a => cases ids[i]? <;> rfl

theorem getElem?_unrouteTpPadding (r n : Nat) (ids : List (List Int)) (i : Nat) :
    (unrouteTpPadding r ids n)[i]? =
      ids[i]?.map fun ids' => if n ≤ r * ids.length + i then ids'.map fun _ => UNROUTED_EXPERT_ID
        else ids' :=
  List.getElem?_mapIdx

/-- A rank dispatches its slice of them. -/
theorem dispatchSlice_eq (htp : 0 < tp) {r : Nat} (hr : r < tp) :
    dispatchSlice r tp route hiddenStates =
      sliceRows (groupRows tp route hiddenStates)
        (r * (hiddenStates.length ⌈/⌉ tp), r * (hiddenStates.length ⌈/⌉ tp) + hiddenStates.length
          ⌈/⌉ tp) := by
  apply List.ext_getElem?
  intro i
  rw [getElem?_sliceRows, getElem?_groupRows]
  unfold dispatchSlice
  dsimp only
  rw [zipWith_rows]
  by_cases hone : 1 < tp
  · have hlen : (sequenceParallelChunk r tp hiddenStates).length = hiddenStates.length ⌈/⌉ tp := by
      rw [sequenceParallelChunk_eq htp, sliceRows, List.length_take, List.length_drop,
        length_paddedRows htp]
      have hfit : (r + 1) * (hiddenStates.length ⌈/⌉ tp) ≤ tp * (hiddenStates.length ⌈/⌉ tp) :=
        Nat.mul_le_mul_right _ hr
      rw [Nat.add_mul] at hfit
      omega
    rw [if_pos hone, if_pos hone, getElem?_unrouteTpPadding, List.length_map, List.getElem?_map, hlen,
      sequenceParallelChunk_eq htp, getElem?_sliceRows]
    split
    · cases (paddedRows tp hiddenStates)[r * (hiddenStates.length ⌈/⌉ tp) + i]? with
      | none => rfl
      | some x =>
        simp only [Option.map_some, Option.bind_some]
        split <;> rfl
    · rfl
  · obtain rfl : tp = 1 := by omega
    obtain rfl : r = 0 := by omega
    rw [if_neg hone, if_neg hone, List.getElem?_map, paddedRows, ceilDiv_one, Nat.zero_mul,
      Nat.zero_add, Nat.mul_one, Nat.sub_self, List.replicate_zero, List.append_nil]
    split
    · rename_i hlt
      rw [if_neg (not_le.2 hlt)]
      cases hiddenStates[i]? <;> rfl
    · rename_i hge
      rw [List.getElem?_eq_none (not_lt.1 hge)]
      rfl

/-- The rows of all ranks. -/
theorem flatMap_dispatchSlice (htp : 0 < tp) :
    (List.range tp).flatMap (fun r => dispatchSlice r tp route hiddenStates) =
      groupRows tp route hiddenStates := by
  rw [flatMap_congr_range fun r hr => dispatchSlice_eq htp hr, flatMap_sliceRows]
  exact List.take_of_length_le (length_groupRows htp).le

theorem length_dispatchSlice (htp : 0 < tp) {r : Nat} (hr : r < tp) :
    (dispatchSlice r tp route hiddenStates).length = hiddenStates.length ⌈/⌉ tp := by
  have hfit : (r + 1) * (hiddenStates.length ⌈/⌉ tp) ≤ tp * (hiddenStates.length ⌈/⌉ tp) :=
    Nat.mul_le_mul_right _ hr
  rw [Nat.add_mul] at hfit
  rw [dispatchSlice_eq htp hr, sliceRows, List.length_take, List.length_drop, length_groupRows htp]
  omega

/-- A function of the rows, gathered, is its value on the tokens. -/
theorem gatherSlices_map (htp : 0 < tp) (f : RoutedRow H W → H) :
    gatherSlices tp hiddenStates.length (fun r => (dispatchSlice r tp route hiddenStates).map f) =
      hiddenStates.map fun x => f (routed route x) := by
  have hall : ((List.range tp).flatMap fun r => (dispatchSlice r tp route hiddenStates).map f) =
      (groupRows tp route hiddenStates).map f := by
    rw [← flatMap_dispatchSlice htp, List.map_flatMap]
  have htokens : ((groupRows tp route hiddenStates).map f).take hiddenStates.length =
      hiddenStates.map fun x => f (routed route x) := by
    rw [groupRows, List.map_append, List.take_left' (by simp), List.map_map]
    rfl
  unfold gatherSlices
  split
  · rw [hall, htokens]
  · obtain rfl : tp = 1 := by omega
    rw [← htokens, ← hall, List.take_of_length_le]
    · exact (List.flatMap_singleton _ _).symm
    · rw [hall, List.length_map, length_groupRows htp, ceilDiv_one, Nat.one_mul]

/-- The tokens of a DP rank on its TP ranks: each rank's rows are as many as the
plan of the collective says and fit its bucket, each token is one rank's and has
its own experts there, and the other rows have none. -/
structure Sliced (tp : Nat) (route : H → List W × List Int) (hiddenStates : List H) : Prop where
  rows : ∀ r < tp, (dispatchSlice r tp route hiddenStates).length = hiddenStates.length ⌈/⌉ tp
  planned : ∀ (md : AFDDPMetadata) (attnSize capacity granularity cpuSyncMinTokens : Nat) (graphMode : Bool)
    (ladder : List Nat) (plan : StagePlan) (dpRank : Nat), 0 < granularity →
    planStage md attnSize tp capacity granularity graphMode ladder cpuSyncMinTokens = .ok plan →
    md.counts[dpRank]? = some (hiddenStates.length : Int) → ∀ r < tp,
      plan.tokensPerAttnRank[dpRank * tp + r]? =
        some ((dispatchSlice r tp route hiddenStates).length : Int) ∧
        (dispatchSlice r tp route hiddenStates).length ≤ plan.bucket
  tokens : ∀ t < hiddenStates.length, ∃! p : Nat × Nat, p.1 < tp ∧ p.2 < hiddenStates.length ⌈/⌉ tp ∧
    p.1 * (hiddenStates.length ⌈/⌉ tp) + p.2 = t
  routed : ∀ r < tp, ∀ i < hiddenStates.length ⌈/⌉ tp, ∀ x,
    hiddenStates[r * (hiddenStates.length ⌈/⌉ tp) + i]? = some x →
      (dispatchSlice r tp route hiddenStates)[i]? = some (routed route x)
  padding : ∀ r < tp, ∀ i < hiddenStates.length ⌈/⌉ tp,
    hiddenStates.length ≤ r * (hiddenStates.length ⌈/⌉ tp) + i →
      ∃ row, (dispatchSlice r tp route hiddenStates)[i]? = some row ∧
        ∀ id ∈ row.topkIds, id = UNROUTED_EXPERT_ID

/-- The entry of a rank in the plan. -/
theorem getElem?_tokensPerAttentionRank {md : AFDDPMetadata} {attnSize dpRank n r : Nat}
    {tokens : List Int} (h : tokensPerAttentionRank md attnSize tp = .ok tokens)
    (hn : md.counts[dpRank]? = some (n : Int)) (hr : r < tp) :
    tokens[dpRank * tp + r]? = some ((n ⌈/⌉ tp : Nat) : Int) := by
  have htp : 0 < tp := by omega
  unfold tokensPerAttentionRank at h
  split at h
  · cases h
  · have hdiv : (dpRank * tp + r) / tp = dpRank := by
      rw [Nat.mul_comm, Nat.mul_add_div htp, Nat.div_eq_of_lt hr, Nat.add_zero]
    have hmap : (md.counts.flatMap fun count => List.replicate tp (-(-count / (tp : Int)))) =
        (md.counts.map fun count => -(-count / (tp : Int))).flatMap (List.replicate tp) := by
      rw [List.flatMap_map]
    rw [← Except.ok.inj h, hmap, Strided.getElem?_flatMap_replicate _ htp, hdiv, List.getElem?_map, hn,
      Option.map_some, neg_neg_ediv htp]

theorem sliced (htp : 0 < tp) (route : H → List W × List Int) (hiddenStates : List H) :
    Sliced tp route hiddenStates := by
  have hfit : ∀ {r i}, r < tp → i < hiddenStates.length ⌈/⌉ tp →
      r * (hiddenStates.length ⌈/⌉ tp) + i < (paddedRows tp hiddenStates).length := by
    intro r i hr hi
    have hmul : (r + 1) * (hiddenStates.length ⌈/⌉ tp) ≤ tp * (hiddenStates.length ⌈/⌉ tp) :=
      Nat.mul_le_mul_right _ hr
    rw [Nat.add_mul] at hmul
    rw [length_paddedRows htp]
    omega
  refine ⟨fun r hr => length_dispatchSlice htp hr, ?_, ?_, ?_, ?_⟩
  · intro md attnSize capacity granularity cpuSyncMinTokens graphMode ladder plan dpRank hg hplan hn r hr
    obtain ⟨tokens, _, htokens, -, -, -, hplanned, -, -⟩ := planStage_ok hplan
    have hentry := getElem?_tokensPerAttentionRank htokens hn hr
    rw [← hplanned] at hentry
    have hle := (le_bucket_of_planStage hg hplan).2 _ (List.mem_of_getElem? hentry)
    rw [length_dispatchSlice htp hr]
    exact ⟨hentry, by omega⟩
  · intro t ht
    have hpos : 0 < hiddenStates.length ⌈/⌉ tp := one_le_ceilDiv htp (by omega)
    have hrank : t / (hiddenStates.length ⌈/⌉ tp) < tp := by
      have hle := le_roundUp htp hiddenStates.length
      rw [roundUp, Nat.mul_comm] at hle
      exact Nat.div_lt_of_lt_mul (by rw [Nat.mul_comm]; omega)
    refine ⟨(t / (hiddenStates.length ⌈/⌉ tp), t % (hiddenStates.length ⌈/⌉ tp)),
      ⟨hrank, Nat.mod_lt _ hpos, Nat.div_add_mod' _ _⟩, ?_⟩
    rintro ⟨r, i⟩ ⟨-, hi, rfl⟩
    rw [Nat.mul_comm r, Nat.mul_add_div hpos, Nat.div_eq_of_lt hi, Nat.mul_add_mod, Nat.mod_eq_of_lt hi,
      Nat.add_zero]
  · intro r hr i hi x hx
    have hlt := (List.getElem?_eq_some_iff.1 hx).1
    rw [dispatchSlice_eq htp hr, getElem?_sliceRows, if_pos hi, getElem?_groupRows,
      if_neg (not_le.2 hlt), paddedRows, List.getElem?_append_left hlt, hx]
    rfl
  · intro r hr i hi hge
    obtain ⟨x, hx⟩ : ∃ x, (paddedRows tp hiddenStates)[r * (hiddenStates.length ⌈/⌉ tp) + i]? = some x :=
      ⟨_, List.getElem?_eq_getElem (hfit hr hi)⟩
    refine ⟨unrouted route x, ?_, ?_⟩
    · rw [dispatchSlice_eq htp hr, getElem?_sliceRows, if_pos hi, getElem?_groupRows, if_pos hge, hx]
      rfl
    · simp [unrouted]

end Dispatch

/-! ## The blocks -/

section Forward
variable {H W L : Type} [Zero H] [Add H] [SMul W H]

/-- What the experts make of a token. -/
def RemoteFFNProxy.ffn (p : RemoteFFNProxy H W L) (expert : Int → H → H) (x : H) : H :=
  topkSum expert (routed p.route x)

/-- What the experts and the shared experts make of a token. -/
def AFDDeepseekV2RoutedExpertsMoE.ffn [Mul W] [One W] [DecidableEq W]
    (m : AFDDeepseekV2RoutedExpertsMoE H W L) (expert : Int → H → H) (x : H) : H :=
  match m.sharedExperts with
  | none => topkSum expert (routed m.route x)
  | some sharedExperts => topkSum expert (routed m.route x) + sharedExperts x

/-- The two blocks, for any number of tokens and TP ranks: their ranks slice the
tokens as the collective planned, and what they return is the FFN applied to
every token. -/
theorem tp_slicing [Mul W] [One W] [DecidableEq W] (p : RemoteFFNProxy H W L)
    (m : AFDDeepseekV2RoutedExpertsMoE H W L) (hp : 0 < p.tpSize) (hm : 0 < m.tpSize)
    (expert : Int → H → H) (sendAndReceive : Nat → List (RoutedRow H W) → List H)
    (hcombine : CombinesRows sendAndReceive expert) (hiddenStates : List H) :
    Sliced p.tpSize p.route hiddenStates ∧ Sliced m.tpSize m.route hiddenStates ∧
      p.forward sendAndReceive hiddenStates = hiddenStates.map (p.ffn expert) ∧
      m.forward sendAndReceive hiddenStates = hiddenStates.map (m.ffn expert) := by
  refine ⟨sliced hp _ _, sliced hm _ _, ?_, ?_⟩
  · unfold RemoteFFNProxy.forward
    simp only [hcombine _ _]
    exact gatherSlices_map hp _
  · unfold AFDDeepseekV2RoutedExpertsMoE.forward AFDDeepseekV2RoutedExpertsMoE.ffn
    simp only [hcombine _ _]
    cases m.sharedExperts with
    | none => exact gatherSlices_map hm _
    | some sharedExperts =>
      simp only [List.zipWith_map, List.zipWith_self]
      exact gatherSlices_map hm fun row => topkSum expert row + sharedExperts row.hiddenStates

/-- Three tokens on two ranks, top-2 of three experts; expert `e` multiplies by `e + 1`. -/
theorem tp_slicing_two_ranks :
    let p : RemoteFFNProxy Int Int Int := ⟨fun x => x % 2, fun _ logit => ([3, 1], [logit, 2]), 2⟩
    let m : AFDDeepseekV2RoutedExpertsMoE Int Int Int :=
      ⟨fun x => x, fun _ _ => ([1, 1], [0, 1]), 10, some (-·), 2⟩
    let expert (e x : Int) := (e + 1) * x
    let sendAndReceive (_ : Nat) (rows : List (RoutedRow Int Int)) := rows.map (topkSum expert)
    p.forward sendAndReceive [5, 6, 7] = [45, 36, 63] ∧
        m.forward sendAndReceive [5, 6, 7] = [145, 174, 203] := by
  intro p m expert sendAndReceive
  obtain ⟨-, -, hp, hm⟩ :=
    tp_slicing p m Nat.two_pos Nat.two_pos expert sendAndReceive (fun _ _ => rfl) [5, 6, 7]
  rw [hp, hm]
  exact ⟨by decide, by decide⟩

end Forward

end AfdPlugin.Deepep
