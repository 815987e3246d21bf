import AfdPlugin.Lib.Gather
import AfdPlugin.Lib.Placement
import AfdPlugin.Lib.Rungs
/-!
# MoE FFN on rows received by DeepEP

DeepEP hands an FFN rank the rows of its local experts one group after the
other, each group starting at a multiple of `expert_alignment`. The
`fused_experts` path reads the groups back from the prefix sums of the counts.
-/

namespace AfdPlugin.Deepep.Experts

def alignUp (value alignment : Nat) : Nat := (value + alignment - 1) / alignment * alignment

/-- The loop of `expert_row_ranges`, after a group that ends at `previousEnd`. -/
def expertRowRangesFrom (expertAlignment : Nat) : Nat → List Nat → List (Nat × Nat)
  | _, [] => []
  | previousEnd, stop :: psum =>
    (alignUp previousEnd expertAlignment, stop) :: expertRowRangesFrom expertAlignment stop psum

/-- Host-side `[start, end)` row range of each local expert's group. -/
def expertRowRanges (recvCountPsum : List Nat) (expertAlignment : Nat) : List (Nat × Nat) :=
  expertRowRangesFrom expertAlignment 0 recvCountPsum

/-- This rank's experts; `W` is a weight or scale tensor. -/
structure LocalExpertWeights (W : Type) where
  numExperts : Nat
  w13 : W
  w2 : W
  w13Scale : Option W := none
  w2Scale : Option W := none

/-- The tensor code of the path: vLLM's kernel (hidden states, weights, top-k
weights, top-k ids, number of experts) and the dequantisers. -/
structure ExpertOps (Row Scale T W : Type) where
  fusedExperts : List Row → W → W → List T → List Nat → Nat → List Row
  dequantizeRow : Row → Scale → Row
  dequantizeBlock128 : W → W → W

/-- `row_idx`. -/
def rowIdx (ranges : List (Nat × Nat)) : List Nat :=
  (ranges.filter fun range => range.1 < range.2).flatMap fun range =>
    List.range' range.1 (range.2 - range.1)

/-- `local_ids`. -/
def localIds (ranges : List (Nat × Nat)) : List Nat :=
  (ranges.zipIdx.filter fun entry => entry.1.1 < entry.1.2).flatMap fun entry =>
    List.replicate (entry.1.2 - entry.1.1) entry.2

section Fused
variable {Row Scale T W : Type}

/-- The rows and weights `fused_experts` gets: dequantised when scales came
with the rows. -/
def fusedInputs (ops : ExpertOps Row Scale T W) (recvX : List Row) (recvScale : Option (List Scale))
    (idx : List Nat) (weights : LocalExpertWeights W) : Except String (List Row × W × W) := do
  let x ← Gather.gather recvX idx
  match recvScale with
  | none => pure (x, weights.w13, weights.w2)
  | some recvScale =>
    match weights.w13Scale, weights.w2Scale with
    | some w13Scale, some w2Scale =>
      let scale ← Gather.gather recvScale idx
      pure (List.zipWith ops.dequantizeRow x scale, ops.dequantizeBlock128 weights.w13 w13Scale,
        ops.dequantizeBlock128 weights.w2 w2Scale)
    | _, _ => throw "AssertionError"

/-- `_run_fused_experts`. -/
def runFusedExperts [Zero Row] (ops : ExpertOps Row Scale T W) (expertAlignment : Nat) (recvX : List Row)
    (recvScale : Option (List Scale)) (recvTopkWeights : List T) (recvCountPsum : List Nat)
    (weights : LocalExpertWeights W) (out : List Row) : Except String (List Row) :=
  let out := out.map fun _ => 0
  let ranges := expertRowRanges recvCountPsum expertAlignment
  let idx := rowIdx ranges
  if idx = [] then .ok out
  else do
    let (x, w13, w2) ← fusedInputs ops recvX recvScale idx weights
    let topkWeights ← Gather.gather recvTopkWeights idx
    Gather.scatter out idx (ops.fusedExperts x w13 w2 topkWeights (localIds ranges) weights.numExperts)

end Fused

/-! ## The layout DeepEP fills -/

/-- Where expert `e`'s group starts. -/
def groupStart (alignment : Nat) (counts : List Nat) (e : Nat) : Nat :=
  prefixSum (fun i => roundUp alignment (counts.getD i 0)) e

/-- The aligned inclusive prefix sums: where each expert's rows end. -/
def alignedPsum (alignment : Nat) (counts : List Nat) : List Nat :=
  (List.range counts.length).map fun e => groupStart alignment counts e + counts.getD e 0

section Layout
variable {a : Nat} (ha : 0 < a) (counts : List Nat)

theorem alignUp_eq (v : Nat) : alignUp v a = roundUp a v := by
  rw [alignUp, roundUp, Nat.ceilDiv_eq_add_pred_div]

theorem dvd_groupStart (e : Nat) : a ∣ groupStart a counts e := by
  induction e with
  | zero => exact dvd_zero a
  | succ e ih => exact dvd_add ih (Dvd.intro_left _ rfl)

include ha

theorem roundUp_mul_add (k n : Nat) : roundUp a (a * k + n) = a * k + roundUp a n := by
  simp only [roundUp, Nat.ceilDiv_eq_add_pred_div]
  have hdiv : (a * k + n + a - 1) / a = k + (n + a - 1) / a := by
    rw [show a * k + n + a - 1 = n + a - 1 + a * k by omega, Nat.add_mul_div_left _ _ ha, Nat.add_comm]
  rw [hdiv, Nat.add_mul, Nat.mul_comm k a]

/-- A group starts where the rows before it end, rounded up. -/
theorem alignUp_groupEnd (e : Nat) :
    alignUp (groupStart a counts e + counts.getD e 0) a = groupStart a counts (e + 1) := by
  obtain ⟨k, hk⟩ := dvd_groupStart (a := a) counts e
  rw [alignUp_eq, hk, roundUp_mul_add ha, ← hk]
  rfl

theorem groupEnd_le_start (e : Nat) :
    groupStart a counts e + counts.getD e 0 ≤ groupStart a counts (e + 1) :=
  Nat.add_le_add_left (le_roundUp ha _) _

theorem expertRowRangesFrom_eq {k m previousEnd : Nat} (h : alignUp previousEnd a = groupStart a counts k) :
    expertRowRangesFrom a previousEnd
      ((List.range' k m).map fun e => groupStart a counts e + counts.getD e 0) =
      (List.range' k m).map fun e => (groupStart a counts e, groupStart a counts e + counts.getD e 0) := by
  induction m generalizing k previousEnd with
  | zero => rfl
  | succ m ih =>
    rw [List.range'_succ, List.map_cons, List.map_cons, expertRowRangesFrom, h,
      ih (alignUp_groupEnd ha counts k)]

/-- The ranges are the groups. -/
theorem expertRowRanges_alignedPsum : expertRowRanges (alignedPsum a counts) a =
    (List.range counts.length).map fun e =>
      (groupStart a counts e, groupStart a counts e + counts.getD e 0) := by
  have hzero : alignUp 0 a = groupStart a counts 0 := by
    rw [alignUp_eq]
    simp [roundUp, groupStart]
  simpa [List.range_eq_range', alignedPsum, expertRowRanges] using
    expertRowRangesFrom_eq ha counts (k := 0) (m := counts.length) hzero

end Layout

/-! ## The rows and the ids of the groups -/

/-- Row `r` belongs to expert `e`. -/
def InGroup (a : Nat) (counts : List Nat) (e r : Nat) : Prop :=
  e < counts.length ∧ groupStart a counts e ≤ r ∧ r < groupStart a counts e + counts.getD e 0

/-- The rows of the groups with their experts, in order. -/
def groupRows (a : Nat) (counts : List Nat) : List (Nat × Nat) :=
  (List.range counts.length).flatMap fun e =>
    (List.range' (groupStart a counts e) (counts.getD e 0)).map fun r => (r, e)

/-- Leaving out what contributes nothing. -/
theorem flatMap_filter {α β : Type} {p : α → Bool} {f : α → List β} {l : List α}
    (h : ∀ x ∈ l, p x = false → f x = []) :
    (l.filter p).flatMap f = l.flatMap f := by
  induction l with
  | nil => rfl
  | cons x l ih =>
    have ih := ih fun y hy => h y (List.mem_cons_of_mem x hy)
    cases hx : p x with
    | true => rw [List.filter_cons_of_pos hx, List.flatMap_cons, List.flatMap_cons, ih]
    | false =>
      rw [List.filter_cons_of_neg (by simp [hx]), List.flatMap_cons, h x List.mem_cons_self hx, ih,
        List.nil_append]

section Groups
variable {a : Nat} (ha : 0 < a) (counts : List Nat)

theorem mem_groupRows {w : Nat × Nat} : w ∈ groupRows a counts ↔ InGroup a counts w.2 w.1 := by
  obtain ⟨r, e⟩ := w
  simp only [groupRows, InGroup, List.mem_flatMap, List.mem_range, List.mem_map, List.mem_range'_1,
    Prod.mk.injEq]
  constructor
  · rintro ⟨e, he, r, hr, rfl, rfl⟩
    exact ⟨he, hr⟩
  · rintro ⟨he, hr⟩
    exact ⟨e, he, r, hr, rfl, rfl⟩

include ha

/-- A group ends before every later one starts. -/
theorem groupEnd_le_of_lt {e e' : Nat} (h : e < e') :
    groupStart a counts e + counts.getD e 0 ≤ groupStart a counts e' :=
  (groupEnd_le_start ha counts e).trans (prefixSum_mono _ h)

theorem nodup_groupRows : ((groupRows a counts).map Prod.fst).Nodup := by
  rw [groupRows, List.map_flatMap]
  apply List.Pairwise.imp (R := (· < ·)) Nat.ne_of_lt
  rw [List.pairwise_flatMap]
  refine ⟨fun e _ => ?_, ?_⟩
  · simpa [List.map_map, Function.comp_def] using List.pairwise_lt_range'
  · refine List.pairwise_lt_range.imp fun hlt r hr r' hr' => ?_
    simp only [List.map_map, Function.comp_def, List.map_id', List.mem_range'_1] at hr hr'
    have := groupEnd_le_of_lt ha counts hlt
    omega

theorem rowIdx_eq :
    rowIdx (expertRowRanges (alignedPsum a counts) a) = (groupRows a counts).map Prod.fst := by
  rw [rowIdx, flatMap_filter, expertRowRanges_alignedPsum ha, groupRows, List.map_flatMap, List.flatMap_map]
  · simp [Function.comp_def]
  · intro range _ hempty
    simp at hempty ⊢
    omega

theorem localIds_eq :
    localIds (expertRowRanges (alignedPsum a counts) a) = (groupRows a counts).map Prod.snd := by
  have hzip : ∀ n, (List.range n).zipIdx = (List.range n).map fun e => (e, e) := by
    intro n
    rw [List.zipIdx_eq_zip_range', List.length_range, ← List.range_eq_range', List.zip_eq_zipWith,
      List.zipWith_self]
  rw [localIds, flatMap_filter, expertRowRanges_alignedPsum ha, groupRows, List.map_flatMap,
    List.zipIdx_map, hzip, List.map_map, List.flatMap_map]
  · simp [Function.comp_def, List.map_const']
  · intro entry _ hempty
    simp at hempty ⊢
    omega

end Groups

/-! ## What the path returns -/

/-- The rows of a dispatch: DeepEP laid the groups out in the buffer, and
`__call__` has compared the shapes, the dtypes and the number of experts. -/
structure Received (Row Scale T W : Type) where
  alignment : Nat
  counts : List Nat
  recvX : List Row
  recvScale : Option (List Scale)
  recvTopkWeights : List T
  weights : LocalExpertWeights W
  out : List Row
  alignment_pos : 0 < alignment
  buffer : ∀ last, (alignedPsum alignment counts).getLast? = some last → last ≤ recvX.length
  topkWeights_fit : recvX.length ≤ recvTopkWeights.length
  scale_fit : ∀ scale, recvScale = some scale → recvX.length ≤ scale.length
  fp8 : recvScale.isSome = weights.w13Scale.isSome ∧ recvScale.isSome = weights.w2Scale.isSome
  out_shape : out.length = recvX.length
  experts : weights.numExperts = counts.length

/-- vLLM's kernel with `top_k=1` works row by row: `row` of the weights, the
top-k weight, the expert and the hidden state. -/
def RowWise {Row Scale T W : Type} (ops : ExpertOps Row Scale T W) (row : W → W → T → Nat → Row → Row) :
    Prop :=
  ∀ w13 w2 numExperts (calls : List (Row × T × Nat)), (∀ call ∈ calls, call.2.2 < numExperts) →
    ops.fusedExperts (calls.map fun call => call.1) w13 w2 (calls.map fun call => call.2.1)
      (calls.map fun call => call.2.2) numExperts = calls.map fun call =>
      row w13 w2 call.2.1 call.2.2 call.1

namespace Received
variable {Row Scale T W : Type} (g : Received Row Scale T W) (ops : ExpertOps Row Scale T W)

def ranges : List (Nat × Nat) := expertRowRanges (alignedPsum g.alignment g.counts) g.alignment

/-- The hidden state of a row. -/
def inputRow (r : Nat) : Option Row :=
  match g.recvScale with
  | none => g.recvX[r]?
  | some scale => do ops.dequantizeRow (← g.recvX[r]?) (← scale[r]?)

/-- The weights `fused_experts` reads. -/
def inputWeights : W × W :=
  match g.weights.w13Scale, g.weights.w2Scale with
  | some w13Scale, some w2Scale =>
    (ops.dequantizeBlock128 g.weights.w13 w13Scale, ops.dequantizeBlock128 g.weights.w2 w2Scale)
  | _, _ => (g.weights.w13, g.weights.w2)

/-- The result of row `r` under expert `e`. -/
def resultRow (row : W → W → T → Nat → Row → Row) (e r : Nat) : Option Row := do
  row (g.inputWeights ops).1 (g.inputWeights ops).2 (← g.recvTopkWeights[r]?) e (← g.inputRow ops r)

/-- The ranges are the groups of the layout. -/
structure RangesSound : Prop where
  length : g.ranges.length = g.counts.length
  count : ∀ e range, g.ranges[e]? = some range → g.alignment ∣ range.1 ∧
    range.2 = range.1 + g.counts.getD e 0
  group : ∀ e range, g.ranges[e]? = some range → ∀ r, range.1 ≤ r ∧ r < range.2 ↔
    InGroup g.alignment g.counts e r
  ordered : g.ranges.Pairwise fun range range' => range.2 ≤ range'.1
  inside : ∀ range ∈ g.ranges, range.2 ≤ g.recvX.length

/-- The rows and ids the kernel gets are those of the groups. -/
structure IdsSound : Prop where
  same : (rowIdx g.ranges).length = (localIds g.ranges).length
  nodup : (rowIdx g.ranges).Nodup
  expert : ∀ r e, (r, e) ∈ (rowIdx g.ranges).zip (localIds g.ranges) ↔ InGroup g.alignment g.counts e r

/-- The rows of the result. -/
structure ResultSound [Zero Row] (row : W → W → T → Nat → Row → Row) (result : List Row) : Prop where
  length : result.length = g.recvX.length
  expert : ∀ e r, InGroup g.alignment g.counts e r → ∃ y, g.resultRow ops row e r = some y ∧
    result[r]? = some y
  zero : ∀ r < g.recvX.length, (¬∃ e, InGroup g.alignment g.counts e r) → result[r]? = some 0

/-! ### The ranges -/

theorem groupEnd_le (e : Nat) (he : e < g.counts.length) :
    groupStart g.alignment g.counts e + g.counts.getD e 0 ≤ g.recvX.length := by
  have hlast : (alignedPsum g.alignment g.counts).getLast? =
      some (groupStart g.alignment g.counts (g.counts.length - 1) + g.counts.getD
        (g.counts.length - 1) 0) := by
    rw [alignedPsum, List.getLast?_map, List.getLast?_range, if_neg (by omega)]
    rfl
  have hfit := g.buffer _ hlast
  rcases Nat.lt_or_ge e (g.counts.length - 1) with hlt | hge
  · have := groupEnd_le_of_lt g.alignment_pos g.counts hlt
    omega
  · rw [show g.counts.length - 1 = e by omega] at hfit
    exact hfit

theorem rangesSound : g.RangesSound := by
  have hget : ∀ e range, g.ranges[e]? = some range → e < g.counts.length ∧
      range = (groupStart g.alignment g.counts e,
          groupStart g.alignment g.counts e + g.counts.getD e 0) := by
    intro e range he
    rw [ranges, expertRowRanges_alignedPsum g.alignment_pos, List.getElem?_map,
      Option.map_eq_some_iff] at he
    obtain ⟨i, hi, rfl⟩ := he
    obtain ⟨hlt, rfl⟩ := List.getElem?_eq_some_iff.1 hi
    rw [List.length_range] at hlt
    exact ⟨hlt, by rw [List.getElem_range]⟩
  refine ⟨?_, ?_, ?_, ?_, ?_⟩
  · simp [ranges, expertRowRanges_alignedPsum g.alignment_pos]
  · intro e range he
    obtain ⟨-, rfl⟩ := hget e range he
    exact ⟨dvd_groupStart _ e, rfl⟩
  · intro e range he r
    obtain ⟨hlt, rfl⟩ := hget e range he
    simp [InGroup, hlt]
  · rw [ranges, expertRowRanges_alignedPsum g.alignment_pos, List.pairwise_map]
    exact List.pairwise_lt_range.imp fun hlt => groupEnd_le_of_lt g.alignment_pos g.counts hlt
  · intro range hrange
    obtain ⟨e, he⟩ := List.mem_iff_getElem?.1 hrange
    obtain ⟨hlt, rfl⟩ := hget e range he
    exact g.groupEnd_le e hlt

theorem idsSound : g.IdsSound := by
  have hrows : rowIdx g.ranges = (groupRows g.alignment g.counts).map Prod.fst :=
    rowIdx_eq g.alignment_pos g.counts
  have hids : localIds g.ranges = (groupRows g.alignment g.counts).map Prod.snd :=
    localIds_eq g.alignment_pos g.counts
  refine ⟨by rw [hrows, hids]; simp, by rw [hrows]; exact nodup_groupRows g.alignment_pos g.counts,
    fun r e => ?_⟩
  rw [hrows, hids, List.zip_map', List.map_id'' (fun _ => rfl)]
  exact mem_groupRows g.counts

/-! ### The result -/

theorem lt_of_inGroup {e r : Nat} (h : InGroup g.alignment g.counts e r) : r < g.recvX.length :=
  lt_of_lt_of_le h.2.2 (g.groupEnd_le e h.1)

/-- Reading rows that are there. -/
theorem exists_gather {α : Type} {rows : List α} {idx : List Nat} (hidx : idx ≠ [])
    (h : ∀ r ∈ idx, r < rows.length) :
    ∃ row : Nat → α, (∀ r ∈ idx, rows[r]? = some (row r)) ∧ Gather.gather rows idx = .ok (idx.map row) := by
  obtain ⟨r₀, hr₀⟩ := List.exists_mem_of_ne_nil idx hidx
  obtain ⟨first, -⟩ : ∃ x, rows[r₀]? = some x := ⟨_, List.getElem?_eq_getElem (h r₀ hr₀)⟩
  have hrow : ∀ r ∈ idx, rows[r]? = some (rows[r]?.getD first) := by
    intro r hr
    rw [List.getElem?_eq_getElem (h r hr)]
    rfl
  exact ⟨fun r => rows[r]?.getD first, hrow, Gather.gather_ok hrow⟩

theorem exists_fusedInputs {idx : List Nat} (hidx : idx ≠ []) (h : ∀ r ∈ idx, r < g.recvX.length) :
    ∃ x : Nat → Row, (∀ r ∈ idx, g.inputRow ops r = some (x r)) ∧
      fusedInputs ops g.recvX g.recvScale idx g.weights =
        .ok (idx.map x, (g.inputWeights ops).1, (g.inputWeights ops).2) := by
  obtain ⟨x, hx, hgather⟩ := exists_gather hidx h
  obtain ⟨hw13, hw2⟩ := g.fp8
  cases hscale : g.recvScale with
  | none =>
    rw [hscale] at hw13
    have hnone : g.weights.w13Scale = none := by simpa using hw13.symm
    refine ⟨x, fun r hr => ?_, ?_⟩
    · rw [inputRow, hscale]
      exact hx r hr
    · rw [fusedInputs, hgather, inputWeights, hnone]
      rfl
  | some scale =>
    rw [hscale] at hw13 hw2
    obtain ⟨w13Scale, hw13⟩ := Option.isSome_iff_exists.1 hw13.symm
    obtain ⟨w2Scale, hw2⟩ := Option.isSome_iff_exists.1 hw2.symm
    obtain ⟨s, hs, hgatherScale⟩ :=
      exists_gather hidx fun r hr => (h r hr).trans_le (g.scale_fit scale hscale)
    refine ⟨fun r => ops.dequantizeRow (x r) (s r), fun r hr => ?_, ?_⟩
    · simp [inputRow, hscale, hx r hr, hs r hr]
    · rw [fusedInputs, hgather, inputWeights, hw13, hw2]
      simp [hgatherScale, bind, Except.bind, pure, Except.pure, List.zipWith_map]

/-- The rows written are the kernel's results for the groups' rows. -/
theorem run_eq_place [Zero Row] {row : W → W → T → Nat → Row → Row} (hops : RowWise ops row) :
    ∃ y : Nat × Nat → Row, (∀ w ∈ groupRows g.alignment g.counts, g.resultRow ops row w.2 w.1 =
      some (y w)) ∧
      runFusedExperts ops g.alignment g.recvX g.recvScale g.recvTopkWeights
        (alignedPsum g.alignment g.counts)
          g.weights g.out =
        .ok (Gather.place (g.out.map fun _ => 0) ((groupRows g.alignment g.counts).map fun w =>
          (w.1, y w))) := by
  have hrows := rowIdx_eq g.alignment_pos g.counts
  have hids := localIds_eq g.alignment_pos g.counts
  by_cases hnil : groupRows g.alignment g.counts = []
  · refine ⟨fun _ => 0, by simp [hnil], ?_⟩
    rw [runFusedExperts, if_pos (by rw [hrows, hnil]; rfl), hnil]
    rfl
  have hidx : (groupRows g.alignment g.counts).map Prod.fst ≠ [] := by simpa using hnil
  have hlt : ∀ r ∈ (groupRows g.alignment g.counts).map Prod.fst, r < g.recvX.length := by
    intro r hr
    obtain ⟨w, hw, rfl⟩ := List.mem_map.1 hr
    exact g.lt_of_inGroup ((mem_groupRows g.counts).1 hw)
  obtain ⟨x, hx, hinputs⟩ := g.exists_fusedInputs ops hidx hlt
  obtain ⟨t, ht, hweights⟩ := exists_gather hidx fun r hr => (hlt r hr).trans_le g.topkWeights_fit
  have hkernel := hops (g.inputWeights ops).1 (g.inputWeights ops).2 g.weights.numExperts
    ((groupRows g.alignment g.counts).map fun w => (x w.1, t w.1, w.2)) (by
      intro call hcall
      obtain ⟨w, hw, rfl⟩ := List.mem_map.1 hcall
      rw [g.experts]
      exact ((mem_groupRows g.counts).1 hw).1)
  simp only [List.map_map, Function.comp_def] at hkernel
  refine ⟨fun w => row (g.inputWeights ops).1 (g.inputWeights ops).2 (t w.1) w.2 (x w.1),
    fun w hw => ?_, ?_⟩
  · have hmem := List.mem_map_of_mem (f := Prod.fst) hw
    simp [resultRow, hx _ hmem, ht _ hmem]
  · have hscatter := Gather.scatter_ok (g.out.map fun _ => (0 : Row))
      ((groupRows g.alignment g.counts).map fun w =>
        (w.1, row (g.inputWeights ops).1 (g.inputWeights ops).2 (t w.1) w.2 (x w.1))) (by
        intro w hw
        obtain ⟨v, hv, rfl⟩ := List.mem_map.1 hw
        simpa [g.out_shape] using hlt _ (List.mem_map_of_mem (f := Prod.fst) hv))
    simp only [List.map_map, Function.comp_def] at hscatter
    rw [runFusedExperts, hrows, if_neg hidx, hinputs, hweights, hids]
    simp only [Fallible.ok_bind, List.map_map, Function.comp_def, hkernel]
    exact hscatter

theorem resultSound [Zero Row] {row : W → W → T → Nat → Row → Row} (hops : RowWise ops row) :
    ∃ result, runFusedExperts ops g.alignment g.recvX g.recvScale g.recvTopkWeights
        (alignedPsum g.alignment g.counts) g.weights g.out = .ok result ∧ g.ResultSound ops row result := by
  obtain ⟨y, hy, hrun⟩ := g.run_eq_place ops hops
  refine ⟨_, hrun, ?_, ?_, ?_⟩
  · simp [g.out_shape]
  · intro e r hr
    have hmem : (r, e) ∈ groupRows g.alignment g.counts := (mem_groupRows g.counts).2 hr
    refine ⟨y (r, e), hy _ hmem, ?_⟩
    have hnd : (((groupRows g.alignment g.counts).map fun w => (w.1, y w)).map Prod.fst).Nodup := by
      simpa [List.map_map, Function.comp_def] using nodup_groupRows g.alignment_pos g.counts
    exact Gather.place_of_mem _ hnd (List.mem_map_of_mem (f := fun w : Nat × Nat => (w.1, y w)) hmem)
      (by simpa [g.out_shape] using g.lt_of_inGroup hr)
  · intro r hlt hno
    rw [Gather.place_of_not_mem]
    · rw [List.getElem?_map, List.getElem?_eq_getElem (g.out_shape ▸ hlt)]
      rfl
    · -- a written row is in a group
      intro hmem
      simp only [List.map_map, Function.comp_def, List.mem_map] at hmem
      obtain ⟨w, hw, rfl⟩ := hmem
      exact hno ⟨w.2, (mem_groupRows g.counts).1 hw⟩

/-- The ranges read back from the prefix sums are the groups DeepEP laid out,
and the path gives every row of a group its expert's result and leaves the
other rows zero. -/
theorem experts_sound [Zero Row] {row : W → W → T → Nat → Row → Row} (hops : RowWise ops row) :
    g.RangesSound ∧ g.IdsSound ∧
      ∃ result, runFusedExperts ops g.alignment g.recvX g.recvScale g.recvTopkWeights
        (alignedPsum g.alignment g.counts) g.weights g.out = .ok result ∧ g.ResultSound ops row result :=
  ⟨g.rangesSound, g.idsSound, g.resultSound ops hops⟩

end Received

/-! ### Three experts with a gap -/

theorem smallBuffer (last : Nat) (h : (alignedPsum 2 [3, 0, 2]).getLast? = some last) : last ≤ 6 := by
  have hlast : (alignedPsum 2 [3, 0, 2]).getLast? = some 6 := by decide
  rw [hlast] at h
  exact (Option.some.inj h).ge

/-- Counts 3, 0 and 2 with groups at multiples of 2. -/
def smallReceived : Received Nat Nat Nat Nat where
  alignment := 2
  counts := [3, 0, 2]
  recvX := [10, 11, 12, 13, 14, 15]
  recvScale := none
  recvTopkWeights := [1, 2, 3, 4, 5, 6]
  weights := ⟨3, 100, 7, none, none⟩
  out := [9, 9, 9, 9, 9, 9]
  alignment_pos := Nat.two_pos
  buffer := smallBuffer
  topkWeights_fit := le_rfl
  scale_fit _ h := (Option.some_ne_none _ h.symm).elim
  fp8 := ⟨rfl, rfl⟩
  out_shape := rfl
  experts := rfl

def smallOps : ExpertOps Nat Nat Nat Nat where
  fusedExperts xs w13 w2 ts ids _ :=
    (xs.zip (ts.zip ids)).map fun call => call.2.1 * (call.1 + w13 * call.2.2 + w2)
  dequantizeRow x s := x * s
  dequantizeBlock128 w s := w * s

theorem smallOps_rowWise : RowWise smallOps fun w13 w2 t e x => t * (x + w13 * e + w2) := by
  intro w13 w2 numExperts calls _
  simp [smallOps, List.zip_map']

theorem experts_sound_small :
    runFusedExperts smallOps 2 [10, 11, 12, 13, 14, 15] none [1, 2, 3, 4, 5, 6] [3, 4, 6]
      ⟨3, 100, 7, none, none⟩
      [9, 9, 9, 9, 9, 9] = .ok [17, 36, 57, 0, 1105, 1332] ∧
    smallReceived.ResultSound smallOps (fun w13 w2 t e x => t * (x + w13 * e + w2))
      [17, 36, 57, 0, 1105, 1332] := by
  have hrun : runFusedExperts smallOps 2 [10, 11, 12, 13, 14, 15] none [1, 2, 3, 4, 5, 6] [3, 4, 6]
      ⟨3, 100, 7, none, none⟩ [9, 9, 9, 9, 9, 9] = .ok [17, 36, 57, 0, 1105, 1332] := by decide
  have hpsum : alignedPsum 2 [3, 0, 2] = [3, 4, 6] := by decide
  obtain ⟨-, -, result, hresult, hsound⟩ := smallReceived.experts_sound smallOps smallOps_rowWise
  have hsame : Except.ok result = Except.ok [17, 36, 57, 0, 1105, 1332] :=
    hresult.symm.trans ((congrArg (fun psum => runFusedExperts smallOps 2 [10, 11, 12, 13, 14, 15] none
      [1, 2, 3, 4, 5, 6] psum ⟨3, 100, 7, none, none⟩ [9, 9, 9, 9, 9, 9]) hpsum).trans hrun)
  cases hsame
  exact ⟨hrun, hsound⟩

end AfdPlugin.Deepep.Experts
