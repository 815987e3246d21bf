import AfdPlugin.Cam.CombineRecv
import AfdPlugin.Cam.MoeRound
/-!
# The round trip of a TP group

The ranks of a TP group dispatch their batches, every MoE rank takes its round, and the
ranks combine what comes back. The halves meet at the rows that a rank gets: one for
each of its assignments, with the output of the assignment's expert.
-/

namespace AfdPlugin.Cam

section Spec
variable {V S F : Type} (sh : CamShape)

/-- What a layer is to compute for a token: the outputs of its experts, scaled and
added in the order of the routing table. -/
def expertSum (b : Batch V S) (ops : RowOps V S F) (f : Nat → V → V) (t : Nat) : F :=
  (List.range' (t * sh.topk) sh.topk).foldl
    (fun sum q =>
      ops.add sum (ops.muls (ops.cast (f (b.expertIds q) (b.x (q / sh.topk)))) (b.expertScales q)))
    ops.zero

/-- All that a rank is to get in a round. -/
def Batch.returnedWrites (b : Batch V S) (f : Nat → V → V) : List (CombineWrite V) :=
  (List.range (b.assignments sh)).map (b.returned sh f) ++ (List.range sh.moeRankNum).map fun m =>
    .flag m (b.moePrefix sh m + 1)

/-- The windows `w m` of the MoE ranks when dispatch-send of the group's ranks is done
and their searches have come to the group. `stat i` is the statistics table of its
`i`-th rank. -/
structure GroupDispatched (b : Nat → Batch V S) (stat : Nat → Nat → Nat) (layerIndex tpAttnRankId : Nat)
    (w : Nat → MoeWindow V) : Prop where
  rank_le : tpAttnRankId + sh.tpSize ≤ sh.attnRankNum
  preProcessed : ∀ i < sh.tpSize, ∃ mem, PreProcessed sh (b i) mem (stat i)
  region : ∀ m < sh.moeRankNum, ∀ i < sh.tpSize, ∃ order ub before,
    (w m).region (tpAttnRankId + i) = dispatchSendRegion sh (b i) order (stat i) layerIndex ub before m
  search : ∀ m < sh.moeRankNum, (w m).search sh = some tpAttnRankId

end Spec

/-! ## The rows that come back -/

section Returned
variable {V S F : Type} {sh : CamShape} {b : Batch V S} {f : Nat → V → V}

def CombineWrite.asRow : CombineWrite V → Option (Nat × V)
  | .row i x => some (i, x)
  | .flag _ _ => none

def CombineWrite.asFlag (sh : CamShape) : CombineWrite V → Option (Nat × Nat)
  | .row _ _ => none
  | .flag moeRankId value => some (sh.dispatchOffset + moeRankId, value)

/-- Rows and flags are apart. -/
theorem after_eq (w : AttnWindow V) (writes : List (CombineWrite V)) :
    w.after sh writes =
      ⟨store w.word (writes.filterMap (CombineWrite.asFlag sh)),
        store w.row (writes.filterMap CombineWrite.asRow)⟩ := by
  induction writes generalizing w with
  | nil => rfl
  | cons write writes ih =>
    have hnext : w.after sh (write :: writes) = (w.write sh write).after sh writes := rfl
    rw [hnext, ih]
    cases write with
    | flag moeRankId value => rfl
    | row i x => rfl

/-- Assignments have rows of their own. -/
theorem returnRow_inj {p q : Nat} (hp : p < b.assignments sh) (hq : q < b.assignments sh)
    (h : b.returnRow sh p = b.returnRow sh q) : p = q := by
  have hslot := slot_lt hp
  have hslot' := slot_lt hq
  obtain ⟨hm, hs⟩ := block_inj hslot hslot' h
  exact slot_inj hp hq hm hs

theorem asRow_returned : (b.returnedWrites sh f).filterMap CombineWrite.asRow =
    (List.range (b.assignments sh)).map fun p =>
      (b.returnRow sh p, f (b.expertIds p) (b.x (p / sh.topk))) := by
  unfold Batch.returnedWrites
  rw [List.filterMap_append, List.filterMap_map, List.filterMap_map]
  have hnone : (List.range sh.moeRankNum).filterMap
      (CombineWrite.asRow (V := V) ∘ fun m => CombineWrite.flag m (b.moePrefix sh m + 1)) = [] := by
    rw [List.filterMap_eq_nil_iff]
    intro m _
    rfl
  rw [hnone, List.append_nil, ← List.filterMap_eq_map]
  rfl

theorem asFlag_returned : (b.returnedWrites sh f).filterMap (CombineWrite.asFlag sh) =
    (List.range sh.moeRankNum).map fun m => (sh.dispatchOffset + m, b.moePrefix sh m + 1) := by
  unfold Batch.returnedWrites
  rw [List.filterMap_append, List.filterMap_map, List.filterMap_map]
  have hnone : (List.range (b.assignments sh)).filterMap
      (CombineWrite.asFlag (V := V) sh ∘ b.returned sh f) = [] := by
    rw [List.filterMap_eq_nil_iff]
    intro p _
    rfl
  rw [hnone, List.nil_append, ← List.filterMap_eq_map]
  rfl

variable {w : AttnWindow V} {writes : List (CombineWrite V)}

theorem row_of_returned (hwrites : writes.Perm (b.returnedWrites sh f)) {p : Nat}
    (hp : p < b.assignments sh) :
    (w.after sh writes).row (b.returnRow sh p) = f (b.expertIds p) (b.x (p / sh.topk)) := by
  have hrows := hwrites.filterMap CombineWrite.asRow
  rw [asRow_returned] at hrows
  rw [after_eq]
  apply store_of_perm hrows
  · rw [List.map_map]
    apply List.nodup_range.map_on
    intro q hq q' hq' heq
    exact returnRow_inj (List.mem_range.1 hq) (List.mem_range.1 hq') heq
  · exact List.mem_map.2 ⟨p, List.mem_range.2 hp, rfl⟩

theorem moeFlag_of_returned (hwrites : writes.Perm (b.returnedWrites sh f)) {m : Nat}
    (hm : m < sh.moeRankNum) :
    (w.after sh writes).moeFlag sh m = b.moePrefix sh m + 1 := by
  have hflags := hwrites.filterMap (CombineWrite.asFlag sh)
  rw [asFlag_returned] at hflags
  rw [AttnWindow.moeFlag, after_eq]
  apply store_of_perm hflags
  · rw [List.map_map]
    exact List.nodup_range.map_on fun m _ m' _ heq => Nat.add_left_cancel heq
  · exact List.mem_map.2 ⟨m, List.mem_range.2 hm, rfl⟩

/-- Combine-recv reads an assignment's own row, when it has found the flag of its MoE
rank. -/
theorem combineRow_of_flag (hvalid : b.Valid sh) (hfits : b.FitsU16 sh) {p : Nat}
    (hp : p < b.assignments sh)
    (hflag : w.moeFlag sh (b.moeRank sh p) = b.moePrefix sh (b.moeRank sh p) + 1) :
    combineRow sh b w p = b.returnRow sh p := by
  have hm := moeRank_lt hvalid hp
  have hocc := hfits.occurrences_lt (hvalid.expertIds_lt p hp) hp.le
  have hfirsts : prefixSum (fun i => u16 (b.localCounts sh (b.moeRank sh p) i)) (b.localExpert sh p) =
      b.expertPrefix sh (b.moeRank sh p) (b.localExpert sh p) := by
    apply prefixSum_congr
    intro i hi
    have hlocal : b.localExpert sh p < sh.expertNumPerMoe := localExpert_lt p
    exact (u16_eq_iff _).2 (hfits.expertTokenNum _ (expert_lt hm (by omega)))
  rw [combineRow, hflag, hfirsts, (u16_eq_iff _).2 hocc, Nat.add_sub_cancel]
  rfl

theorem tokenSum_of_rows (ops : RowOps V S F) {t : Nat}
    (hrows : ∀ q, q < t * sh.topk + sh.topk → t * sh.topk ≤ q →
      w.row (combineRow sh b w q) = f (b.expertIds q) (b.x (q / sh.topk))) :
    tokenSum ops sh b w t sh.topk = expertSum sh b ops f t := by
  unfold tokenSum expertSum
  apply List.foldl_ext
  intro sum q hq
  obtain ⟨hle, hlt⟩ := List.mem_range'_1.1 hq
  rw [hrows q hlt hle]

theorem tokenSum_of_returned (hvalid : b.Valid sh) (hfits : b.FitsU16 sh)
    (hwrites : writes.Perm (b.returnedWrites sh f)) (ops : RowOps V S F) {t : Nat}
    (ht : t < b.batchSize) :
    tokenSum ops sh b (w.after sh writes) t sh.topk = expertSum sh b ops f t := by
  apply tokenSum_of_rows
  intro q hlt _
  have hend : t * sh.topk + sh.topk ≤ b.assignments sh := by
    have hle := Nat.mul_le_mul_right sh.topk (Nat.succ_le_of_lt ht)
    rwa [Nat.succ_mul] at hle
  have hq : q < b.assignments sh := by omega
  rw [combineRow_of_flag hvalid hfits hq (moeFlag_of_returned hwrites (moeRank_lt hvalid hq)),
    row_of_returned hwrites hq]

/-- The outputs of all cores. -/
theorem flatMap_coreXOut (hvalid : b.Valid sh) (hfits : b.FitsU16 sh)
    (hwrites : writes.Perm (b.returnedWrites sh f)) (ops : RowOps V S F) :
    ((List.range sh.attnAivNum).flatMap fun c => coreXOut ops sh b (w.after sh writes) c
      (b.aivStart sh (c + 1))) =
      (List.range b.batchSize).map fun t => (t, ops.round (expertSum sh b ops f t)) := by
  have hcores := flatMap_spread b.batchSize sh.attnAivNum_pos fun t =>
    (t, ops.round (tokenSum ops sh b (w.after sh writes) t sh.topk))
  refine hcores.trans ?_
  apply List.map_congr_left
  intro t ht
  rw [tokenSum_of_returned hvalid hfits hwrites ops (List.mem_range.1 ht)]

end Returned

/-! ## All MoE ranks -/

section Rounds
variable {V S : Type} {sh : CamShape}

/-- What the MoE ranks return to a rank, expert after expert, is one row for each of
its assignments. -/
theorem returnedWrites_perm (b : Batch V S) (hvalid : b.Valid sh) (f : Nat → V → V) :
    ((List.range sh.moeRankNum).flatMap fun m =>
      ((List.range sh.expertNumPerMoe).flatMap fun j =>
        (b.expertAssignments sh (sh.expertNumPerMoe * m + j)).map (b.returned sh f)) ++
      [.flag m (b.moePrefix sh m + 1)]).Perm (b.returnedWrites sh f) := by
  refine (List.flatMap_append_perm _ _ _).symm.trans ?_
  refine List.Perm.append ?_ (List.Perm.of_eq (List.map_eq_flatMap).symm)
  rw [← flatMap_grid sh.expertNumPerMoe sh.moeRankNum fun e => (b.expertAssignments sh e).map
    (b.returned sh f), ← List.map_flatMap]
  exact (flatMap_filter_perm fun p hp => hvalid.expertIds_lt p (List.mem_range.1 hp)).map _

variable {b : Nat → Batch V S} {stat : Nat → Nat → Nat} {layerIndex tpAttnRankId : Nat}
  {w : Nat → MoeWindow V}

/-- What dispatch-send leaves is a dispatch of which nothing is read. -/
theorem GroupDispatched.serving (h : GroupDispatched sh b stat layerIndex tpAttnRankId w)
    (hvalid : ∀ i < sh.tpSize, (b i).Valid sh) (hcountable : ∀ i < sh.tpSize, (b i).Countable sh)
    {m : Nat} (hm : m < sh.moeRankNum) : (w m).Serving sh b layerIndex m tpAttnRankId 0 := by
  intro i hi
  obtain ⟨mem, hmem⟩ := h.preProcessed i hi
  obtain ⟨order, ub, before, hregion⟩ := h.region m hm i hi
  have hholds := dispatchSendRegion_holds (hvalid i hi) (hcountable i hi) hmem hm order
    layerIndex ub before
  refine ⟨_, hholds, ?_⟩
  rw [hregion, ← hholds.chunkFlag]

end Rounds

/-! ## The round trip -/

section RoundTrip
variable {V S F : Type} {sh : CamShape} {b : Nat → Batch V S} {stat : Nat → Nat → Nat}
  {layerIndex tpAttnRankId : Nat} {w : Nat → MoeWindow V}

/-- The calls of every MoE rank: each expert is given the rows of its assignments and no
others, and each rank of the group gets back one row for each of its own. -/
theorem GroupDispatched.rounds (hdispatched : GroupDispatched sh b stat layerIndex tpAttnRankId w)
    (hgroup : GroupAdmitted sh b) (f : Nat → Nat → V → V) (order : Nat → Nat → Schedule)
    (xOut : Nat → Nat → Nat → V) (other : Nat → Nat → MoeWindow V → MoeWindow V)
    (hother : ∀ m n, KeepsGroup sh (other m n) tpAttnRankId) :
    ∃ chunks : Nat → List (RecvChunk V),
      (∀ m < sh.moeRankNum, (∃ w', moeRound sh (order m) (xOut m) (other m) sh.expertNumPerMoe (w m) =
        some (chunks m, w') ∧
        w'.Served sh tpAttnRankId ∧
        ∀ chunk ∈ chunks m, prefixSum chunk.epRecvCountRouted sh.expertNumPerMoe ≤ sh.maxTokenNum) ∧
        ∀ j < sh.expertNumPerMoe, ((chunks m).map fun chunk => chunk.epRecvCountRouted j).sum =
          prefixSum (fun i => (b i).localCounts sh m j) sh.tpSize) ∧
      ∀ i < sh.tpSize, ((List.range sh.moeRankNum).flatMap fun m =>
        sentTo (tpAttnRankId + i) ((chunks m).flatMap (serveChunk sh f m))).Perm
          ((b i).returnedWrites sh (f layerIndex)) := by
  have hrun : ∀ m, ∃ chunks, m < sh.moeRankNum →
      ((∃ w', moeRound sh (order m) (xOut m) (other m) sh.expertNumPerMoe (w m) = some (chunks, w') ∧
        w'.Served sh tpAttnRankId ∧
        ∀ chunk ∈ chunks, prefixSum chunk.epRecvCountRouted sh.expertNumPerMoe ≤ sh.maxTokenNum) ∧
        ∀ j < sh.expertNumPerMoe, (chunks.map fun chunk => chunk.epRecvCountRouted j).sum =
          prefixSum (fun i => (b i).localCounts sh m j) sh.tpSize) ∧
      ∀ i < sh.tpSize, sentTo (tpAttnRankId + i) (chunks.flatMap (serveChunk sh f m)) =
        ((List.range sh.expertNumPerMoe).flatMap fun j =>
          ((b i).expertAssignments sh (sh.expertNumPerMoe * m + j)).map
            ((b i).returned sh (f layerIndex))) ++
        [.flag m ((b i).moePrefix sh m + 1)] := by
    intro m
    by_cases hm : m < sh.moeRankNum
    · obtain ⟨chunks, w', hcalls, hserved, -, hcapacity, hcounts, hsent⟩ :=
        moeRound_run f (order m) (xOut m) (other m) hgroup hm hdispatched.rank_le (hother m)
          sh.expertNumPerMoe sh.expertNumPerMoe_pos (by omega)
          (hdispatched.serving hgroup.valid hgroup.countable hm) (hdispatched.search m hm)
      rw [Nat.sub_zero, ← List.range_eq_range'] at hsent
      refine ⟨chunks, fun _ => ⟨⟨⟨w', hcalls, hserved, hcapacity⟩, fun j hj => ?_⟩, hsent⟩⟩
      rw [hcounts j hj, if_pos (Nat.zero_le j)]
    · exact ⟨[], fun h => absurd h hm⟩
  choose chunks hchunks using hrun
  refine ⟨chunks, fun m hm => (hchunks m hm).1, fun i hi => ?_⟩
  have heach := List.flatMap_congr fun m (hm : m ∈ List.range sh.moeRankNum) =>
    (hchunks m (List.mem_range.1 hm)).2 i hi
  rw [heach]
  exact returnedWrites_perm (b i) (hgroup.valid i hi) (f layerIndex)

/-- Combine-recv of the group's `i`-th rank when all of it has come back. -/
theorem GroupDispatched.combineRecv (hdispatched : GroupDispatched sh b stat layerIndex tpAttnRankId w)
    (hgroup : GroupAdmitted sh b) (haiv : sh.attnAivNum ≤ MAX_AIV_NUM) {i : Nat} (hi : i < sh.tpSize)
    {f : Nat → V → V} (ops : RowOps V S F) (useDispatchPrefix : Bool) (ub : CombineUb F) (row : Nat → V)
    {writes : List (CombineWrite V)} (loaded seeded : List (CombineWrite V))
    (hwrites : writes.Perm ((b i).returnedWrites sh f)) :
    let window := AttnWindow.after sh ⟨stat i, row⟩
    ∃ outcome : Nat → CombineOutcome V,
      (∀ c < sh.attnAivNum, Cam.combineRecv sh (b i) ops ⟨true, true⟩ useDispatchPrefix ub (window loaded)
        (window seeded) (window writes) c = some (outcome c)) ∧
      ((List.range sh.attnAivNum).flatMap fun c => (outcome c).xOut) =
        (List.range (b i).batchSize).map fun t => (t, ops.round (expertSum sh (b i) ops f t)) := by
  have hvalid := hgroup.valid i hi
  obtain ⟨mem, hmem⟩ := hdispatched.preProcessed i hi
  have hstat : ∀ writes,
      StatTable sh (b i) (sh.statAt (AttnWindow.after sh ⟨stat i, row⟩ writes).word) := fun writes =>
    statTable_after haiv (fun _ hc _ hcol => hmem.stat hc hcol) writes
  have hready : ¬ ∃ m < sh.moeRankNum, (AttnWindow.after sh ⟨stat i, row⟩ writes).moeFlag sh m = 0 := by
    rintro ⟨m, hm, hzero⟩
    rw [moeFlag_of_returned hwrites hm] at hzero
    exact absurd hzero (Nat.succ_ne_zero _)
  have houtcome : ∀ c < sh.attnAivNum,
      Cam.combineRecv sh (b i) ops ⟨true, true⟩ useDispatchPrefix ub
      (AttnWindow.after sh ⟨stat i, row⟩ loaded) (AttnWindow.after sh ⟨stat i, row⟩ seeded)
      (AttnWindow.after sh ⟨stat i, row⟩ writes) c =
        some ⟨coreRows sh (b i) (AttnWindow.after sh ⟨stat i, row⟩ writes) c
          (sh.topk * (b i).aivStart sh (c + 1)),
          coreXOut ops sh (b i) (AttnWindow.after sh ⟨stat i, row⟩ writes) c
          ((b i).aivStart sh (c + 1)), if c = 0 then List.range sh.moeRankNum else []⟩ := by
    intro c hc
    rw [combineRecv_eq hvalid (hstat loaded) (hstat seeded) hc, combineOutcome, if_neg (by simp),
      if_neg hready]
  exact ⟨_, houtcome, flatMap_coreXOut hvalid (hgroup.countable i hi).fits hwrites ops⟩

end RoundTrip

end AfdPlugin.Cam
