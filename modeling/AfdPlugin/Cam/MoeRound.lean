import AfdPlugin.Cam.CombineSend
import AfdPlugin.Cam.Dispatched
/-!
# A MoE rank's round

A MoE rank takes the dispatch of a TP group chunk by chunk: it receives a chunk, runs
its experts on the rows and returns the outputs, until the chunk that has its last
expert. Each rank of the group then has a row for each of its assignments to the MoE
rank, and its flag.
-/

namespace AfdPlugin.Cam

section Model
variable {V : Type} (sh : CamShape)

/-- The group that a call of dispatch-recv takes: the first one from `lastAttn` on whose
ranks have all announced a dispatch. `none`: it waits. -/
def MoeWindow.search (w : MoeWindow V) : Option Nat :=
  ((List.range (sh.attnRankNum / sh.tpSize)).find? fun i =>
    decide (∀ j < sh.tpSize, (w.region ((w.lastAttn + (sh.tpSize * i + j)) % sh.attnRankNum)).tokenNum ≠
        0)).map fun i =>
      (w.lastAttn + sh.tpSize * i) % sh.attnRankNum

/-- The grouped product over rows that are sorted by group, given the groups' counts.
Rows after the last group are not part of it. -/
def groupedRows (groupList : Nat → Nat) (f : Nat → V → V) (x : Nat → V) (r : Nat) : V :=
  let group := Nat.count (fun e => prefixSum groupList (e + 1) ≤ r) sh.expertNumPerMoe
  if group < sh.expertNumPerMoe then f group (x r) else x r

/-- The experts of MoE rank `moeRankId` on a chunk, `f layer expert` being what an
expert of a layer computes for a row, and the return of their outputs. -/
def serveChunk (f : Nat → Nat → V → V) (moeRankId : Nat) (chunk : RecvChunk V) :
    List (Nat × CombineWrite V) :=
  combineSend sh chunk.batchInfo
    (groupedRows sh chunk.epRecvCountRouted
      (fun e => f (chunk.batchInfo 2) (sh.expertNumPerMoe * moeRankId + e)) chunk.expandXOut) moeRankId

/-- The calls of dispatch-recv up to the one with the last expert of its group, each in
an order of its own. `other` is what Attention ranks do to the window between two calls. -/
def moeRound (order : Nat → Schedule) (xOut : Nat → Nat → V) (other : Nat → MoeWindow V → MoeWindow V) :
    Nat → MoeWindow V → Option (List (RecvChunk V) × MoeWindow V)
  | 0, _ => none
  | n + 1, w =>
    match (w.search sh).bind (dispatchRecv sh (order n) (xOut n) w) with
    | none => none
    | some (chunk, w') =>
      if chunk.batchInfo 4 = sh.expertNumPerMoe - 1 then some ([chunk], w')
      else (moeRound order xOut other n (other n w')).map fun r => (chunk :: r.1, r.2)

/-- What a rank gets. -/
def sentTo (rank : Nat) (writes : List (Nat × CombineWrite V)) : List (CombineWrite V) :=
  (writes.filter fun w => w.1 = rank).map Prod.snd

end Model

section Spec
variable {V S : Type} (sh : CamShape)

/-- Assignments to an expert. -/
def Batch.expertAssignments (b : Batch V S) (e : Nat) : List Nat :=
  (List.range (b.assignments sh)).filter fun p => b.expertIds p = e

/-- Row number of an assignment among those that come back. -/
def Batch.returnRow (b : Batch V S) (p : Nat) : Nat := b.moePrefix sh (b.moeRank sh p) + b.slot sh p

/-- The output of an assignment's expert comes back as its row. -/
def Batch.returned (b : Batch V S) (f : Nat → V → V) (p : Nat) : CombineWrite V :=
  .row (b.returnRow sh p) (f (b.expertIds p) (b.x (p / sh.topk)))

/-- The ranks of a TP group: `b i` is the batch of its `i`-th rank. All of it can be
counted, and the receive capacity holds what the group sends to an expert. -/
structure GroupAdmitted (b : Nat → Batch V S) : Prop where
  valid : ∀ i < sh.tpSize, (b i).Valid sh
  countable : ∀ i < sh.tpSize, (b i).Countable sh
  capacity : ∀ e < sh.expertNum, prefixSum (fun i => (b i).expertTokenNum sh e) sh.tpSize ≤ sh.maxTokenNum
  maxTokenNum_lt : sh.maxTokenNum < 2 ^ 31

/-- The group's regions at MoE rank `m` when `d` experts of its dispatch are read. -/
def MoeWindow.Serving (w : MoeWindow V) (b : Nat → Batch V S) (layerIndex m tpAttnRankId d : Nat) : Prop :=
  ∀ i < sh.tpSize, ∃ g : AttnRegion V, g.Holds sh (b i) layerIndex m ∧
    w.region (tpAttnRankId + i) = { g with chunkFlag := readFlags d }

/-- The group's regions when its dispatch is done. -/
def MoeWindow.Served (w : MoeWindow V) (tpAttnRankId : Nat) : Prop :=
  ∀ i < sh.tpSize, (w.region (tpAttnRankId + i)).tokenNum = 0 ∧ (w.region (tpAttnRankId + i)).marker = 0

/-- Other ranks leave a group's regions and the search's start alone. -/
def KeepsGroup (other : MoeWindow V → MoeWindow V) (tpAttnRankId : Nat) : Prop :=
  ∀ w, (other w).lastAttn = w.lastAttn ∧ ∀ i < sh.tpSize, (other w).region (tpAttnRankId + i) = w.region
    (tpAttnRankId + i)

end Spec

/-! ## Assignments of an expert -/

section Assignments
variable {V S : Type} {sh : CamShape} {b : Batch V S} {m j : Nat}

theorem mem_expertAssignments {e p : Nat} :
    p ∈ b.expertAssignments sh e ↔ p < b.assignments sh ∧ b.expertIds p = e := by
  simp [Batch.expertAssignments]

/-- An expert of MoE rank `m`, by its local number. -/
theorem rank_of_expertIds {p : Nat} (hj : j < sh.expertNumPerMoe)
    (hp : b.expertIds p = sh.expertNumPerMoe * m + j) :
    b.moeRank sh p = m ∧ b.localExpert sh p = j := by
  refine ⟨?_, ?_⟩
  · rw [Batch.moeRank, hp, Nat.mul_add_div sh.expertNumPerMoe_pos, Nat.div_eq_of_lt hj, Nat.add_zero]
  · rw [Batch.localExpert, hp, Nat.mul_add_mod, Nat.mod_eq_of_lt hj]

/-- The assignments of an expert in order, by their numbers. -/
theorem map_expertAssignments {α : Type} (F : Nat → α) (m j : Nat) :
    (List.range (b.localCounts sh m j)).map F =
      (b.expertAssignments sh (sh.expertNumPerMoe * m + j)).map fun p =>
        F (occurrences b.expertIds (b.expertIds p) p) := by
  have hocc := map_occurrences b.expertIds (sh.expertNumPerMoe * m + j) (b.assignments sh)
  have hcount : b.localCounts sh m j = occurrences b.expertIds (sh.expertNumPerMoe * m + j)
    (b.assignments sh) := rfl
  rw [hcount, ← hocc, List.map_map]
  apply List.map_congr_left
  intro p hp
  rw [(mem_expertAssignments.1 hp).2]
  rfl

theorem expert_lt (hm : m < sh.moeRankNum) (hj : j < sh.expertNumPerMoe) :
    sh.expertNumPerMoe * m + j < sh.expertNum := by
  have hle := Nat.mul_le_mul_left sh.expertNumPerMoe (Nat.succ_le_of_lt hm)
  rw [Nat.mul_succ] at hle
  exact Nat.lt_of_lt_of_le (by omega) hle

end Assignments

/-! ## A chunk -/

section Chunk
variable {V S : Type} {sh : CamShape} {b : Nat → Batch V S} {w : MoeWindow V} {chunk : RecvChunk V}
  {layerIndex m tpAttnRankId d e : Nat} (f : Nat → Nat → V → V)

/-- The counts of the group's ranks. -/
theorem MoeWindow.Serving.counts (h : w.Serving sh b layerIndex m tpAttnRankId d) {i : Nat}
    (hi : i < sh.tpSize) {j : Nat} (hj : j < sh.expertNumPerMoe) :
    w.counts tpAttnRankId i j = (b i).localCounts sh m j := by
  obtain ⟨g, hg, hregion⟩ := h i hi
  rw [MoeWindow.counts, hregion]
  exact hg.counts j hj

theorem MoeWindow.Serving.fits (h : w.Serving sh b layerIndex m tpAttnRankId d)
    (hgroup : GroupAdmitted sh b) (hm : m < sh.moeRankNum) : w.Fits sh tpAttnRankId := by
  intro j hj
  have hcapacity := hgroup.capacity _ (expert_lt hm hj)
  rw [rowCount, prefixSum_congr fun i hi => h.counts hi hj]
  exact hcapacity

/-- A slot of the group's `i`-th rank leads to the row of its assignment. -/
theorem MoeWindow.Serving.row (h : w.Serving sh b layerIndex m tpAttnRankId d) {i : Nat}
    (hi : i < sh.tpSize) {j : Nat} (hj : j < sh.expertNumPerMoe) {p : Nat}
    (hp : p ∈ (b i).expertAssignments sh (sh.expertNumPerMoe * m + j)) :
    (w.region (tpAttnRankId + i)).tokenStore ((w.region (tpAttnRankId + i)).tokenAddr
      (prefixSum (w.counts tpAttnRankId i) j + occurrences (b i).expertIds ((b i).expertIds p) p)) =
        (b i).x (p / sh.topk) := by
  obtain ⟨hlt, hid⟩ := mem_expertAssignments.1 hp
  obtain ⟨hrank, hlocal⟩ := rank_of_expertIds hj hid
  have hfirsts : prefixSum (w.counts tpAttnRankId i) j = (b i).expertPrefix sh m j :=
    prefixSum_congr fun j' hj' => h.counts hi (by omega)
  have hslot : (b i).slot sh p = prefixSum (w.counts tpAttnRankId i) j + occurrences (b i).expertIds
      ((b i).expertIds p) p := by
    rw [Batch.slot, hrank, hlocal, hfirsts]
  obtain ⟨g, hg, hregion⟩ := h i hi
  rw [← hslot, hregion]
  exact hg.rows p hlt hrank

/-- The expert of a row, by the counts that the call hands over. -/
theorem groupedRows_eq (hholds : chunk.Holds sh w tpAttnRankId d e) (g : Nat → V → V) {k o : Nat}
    (hk : k < sh.tpSize * (e + 1 - d)) (ho : o < gridCount (w.countsFrom tpAttnRankId d) sh.tpSize k) :
    groupedRows sh chunk.epRecvCountRouted g chunk.expandXOut (chunkStart sh w tpAttnRankId d k + o) =
      g (d + k / sh.tpSize) ((w.region (tpAttnRankId + k % sh.tpSize)).tokenStore
        ((w.region (tpAttnRankId + k % sh.tpSize)).tokenAddr
          (prefixSum (w.counts tpAttnRankId (k % sh.tpSize)) (d + k / sh.tpSize) + o))) := by
  obtain ⟨hde, he⟩ := hholds.experts
  have hrow : k / sh.tpSize < e + 1 - d := Nat.div_lt_of_lt_mul hk
  have hcol := Nat.mod_lt k sh.tpSize_pos
  have hcell := Nat.div_add_mod k sh.tpSize
  -- before the chunk's first expert nothing is received
  have hbefore : prefixSum chunk.epRecvCountRouted d = 0 :=
    prefixSum_eq_zero fun j hj => by rw [hholds.epRecvCountRouted j (by omega), if_neg (by omega)]
  have hfirsts : ∀ n ≤ e + 1 - d, prefixSum chunk.epRecvCountRouted (d + n) =
      prefixSum (rowCount (w.countsFrom tpAttnRankId d) sh.tpSize) n := by
    intro n hn
    rw [prefixSum_add, hbefore, Nat.zero_add]
    apply prefixSum_congr
    intro j hj
    rw [hholds.epRecvCountRouted (d + j) (by omega), if_pos (by omega)]
    rfl
  have hstart : chunkStart sh w tpAttnRankId d k =
      prefixSum (rowCount (w.countsFrom tpAttnRankId d) sh.tpSize) (k / sh.tpSize) + prefixSum
      (fun i => w.countsFrom tpAttnRankId d i (k / sh.tpSize)) (k % sh.tpSize) := by
    have hgrid := prefixSum_gridCount (w.countsFrom tpAttnRankId d) (k / sh.tpSize) hcol.le
    rwa [hcell] at hgrid
  have hlow : prefixSum chunk.epRecvCountRouted (d + k / sh.tpSize) ≤
      chunkStart sh w tpAttnRankId d k + o := by
    rw [hfirsts _ hrow.le, hstart]
    omega
  have hhigh : chunkStart sh w tpAttnRankId d k + o <
      prefixSum chunk.epRecvCountRouted (d + k / sh.tpSize + 1) := by
    have hle := prefixSum_mono (fun i => w.countsFrom tpAttnRankId d i (k / sh.tpSize))
      (show k % sh.tpSize + 1 ≤ sh.tpSize from hcol)
    rw [prefixSum_succ] at hle
    rw [Nat.add_assoc, hfirsts _ hrow, prefixSum_succ, hstart, rowCount]
    rw [gridCount] at ho
    omega
  have hgroup : Nat.count (fun e' => prefixSum chunk.epRecvCountRouted (e' + 1) ≤
    chunkStart sh w tpAttnRankId d k + o) sh.expertNumPerMoe = d + k / sh.tpSize :=
    count_blocks hlow hhigh (by omega)
  unfold groupedRows
  dsimp only
  rw [hgroup, if_pos (by omega)]
  have hcopy := hholds.rows (chunkStart sh w tpAttnRankId d k + o,
    (w.region (tpAttnRankId + k % sh.tpSize)).tokenStore
    ((w.region (tpAttnRankId + k % sh.tpSize)).tokenAddr
      (prefixSum (w.counts tpAttnRankId (k % sh.tpSize)) (d + k / sh.tpSize) + o))) ?_
  · rw [hcopy]
  · rw [chunkCopies, List.mem_flatMap]
    exact ⟨k, List.mem_range.2 hk, List.mem_map.2 ⟨o, List.mem_range.2 ho, rfl⟩⟩

/-- What goes back of a chunk: for each of its experts, rank after rank of the group,
the outputs of the expert's assignments, and the flags after the last expert. -/
theorem serveChunk_eq (hserving : w.Serving sh b layerIndex m tpAttnRankId d)
    (hholds : chunk.Holds sh w tpAttnRankId d e) :
    ∃ flags, serveChunk sh f m chunk =
      ((List.range (e + 1 - d)).flatMap fun j => (List.range sh.tpSize).flatMap fun i =>
        ((b i).expertAssignments sh (sh.expertNumPerMoe * m + (d + j))).map fun p =>
          (tpAttnRankId + i, (b i).returned sh (f layerIndex) p)) ++ flags ∧
      flags.Perm (if e = sh.expertNumPerMoe - 1 then
        (List.range sh.tpSize).map fun i => (tpAttnRankId + i, .flag m ((b i).moePrefix sh m + 1))
          else []) := by
  obtain ⟨hde, he⟩ := hholds.experts
  obtain ⟨hrank, hfirst, hlast⟩ := hholds.info
  have hlayer : chunk.batchInfo 2 = layerIndex := by
    obtain ⟨g, hg, hregion⟩ := hserving 0 sh.tpSize_pos
    rw [Nat.add_zero] at hregion
    rw [hholds.layer, hregion]
    exact hg.layer
  have hfirsts : ∀ i < sh.tpSize, chunk.batchInfo (INFO_NUM + i) = (b i).moePrefix sh m := by
    intro i hi
    obtain ⟨g, hg, hregion⟩ := hserving i hi
    rw [hholds.prefixes i hi, hregion]
    exact hg.moePreTokenNum
  have hcounts : ∀ i < sh.tpSize, ∀ j < sh.expertNumPerMoe, infoCounts sh chunk.batchInfo i j =
      w.counts tpAttnRankId i j := by
    intro i hi j hj
    rw [infoCounts, ← Nat.add_assoc]
    exact hholds.counts i hi j hj
  have hcell : ∀ k < sh.tpSize * (e + 1 - d), infoCell sh chunk.batchInfo k =
      gridCount (w.countsFrom tpAttnRankId d) sh.tpSize k := by
    intro k hk
    have hrow : k / sh.tpSize < e + 1 - d := Nat.div_lt_of_lt_mul hk
    rw [infoCell, gridCount, hfirst, hcounts _ (Nat.mod_lt k sh.tpSize_pos) _ (by omega)]
    rfl
  have hlast' : chunk.batchInfo 4 < sh.expertNumPerMoe := by rwa [hlast]
  have hchunk : chunk.batchInfo 3 ≤ chunk.batchInfo 4 := by rwa [hfirst, hlast]
  have hrows := flatMap_combineSendRows hlast' hchunk
    (groupedRows sh chunk.epRecvCountRouted
      (fun e => f (chunk.batchInfo 2) (sh.expertNumPerMoe * m + e)) chunk.expandXOut)
  have hflags :
      ((List.range sh.moeAivNum).flatMap fun aivId => combineSendFlags sh V chunk.batchInfo m
        aivId).Perm _ :=
    combineSendFlags_perm m
  refine ⟨_, congrArg (· ++ _) (hrows.trans ?_), hflags.trans (List.Perm.of_eq ?_)⟩
  · rw [hfirst, hlast, flatMap_grid]
    apply List.flatMap_congr
    intro j hj
    apply List.flatMap_congr
    intro i hi
    rw [List.mem_range] at hj hi
    have hlocal : d + j < sh.expertNumPerMoe := by omega
    have hk : sh.tpSize * j + i < sh.tpSize * (e + 1 - d) :=
      calc sh.tpSize * j + i < sh.tpSize * (j + 1) := by rw [Nat.mul_succ]; omega
        _ ≤ sh.tpSize * (e + 1 - d) := Nat.mul_le_mul_left _ hj
    have hmod : (sh.tpSize * j + i) % sh.tpSize = i := by rw [Nat.mul_add_mod, Nat.mod_eq_of_lt hi]
    have hdiv : (sh.tpSize * j + i) / sh.tpSize = j := by
      rw [Nat.mul_add_div sh.tpSize_pos, Nat.div_eq_of_lt hi, Nat.add_zero]
    have hcount : gridCount (w.countsFrom tpAttnRankId d) sh.tpSize (sh.tpSize * j + i) =
        (b i).localCounts sh m (d + j) := by
      rw [gridCount_cell _ hi]
      exact hserving.counts hi hlocal
    have hstart : prefixSum (infoCell sh chunk.batchInfo) (sh.tpSize * j + i) =
        chunkStart sh w tpAttnRankId d (sh.tpSize * j + i) :=
      prefixSum_congr fun k' hk' => hcell k' (by omega)
    have hbefore : prefixSum (infoCounts sh chunk.batchInfo i) (d + j) = (b i).expertPrefix sh m (d + j) :=
      prefixSum_congr fun j' hj' => (hcounts i hi j' (by omega)).trans (hserving.counts hi (by omega))
    rw [hmod, hdiv, hcell _ hk, hcount, map_expertAssignments]
    apply List.map_congr_left
    intro p hp
    obtain ⟨hlt, hid⟩ := mem_expertAssignments.1 hp
    obtain ⟨hmoe, hexpert⟩ := rank_of_expertIds hlocal hid
    have hocc := occurrences_lt_localCounts hlt
    rw [hmoe, hexpert, ← hcount] at hocc
    have hrow := groupedRows_eq hholds (fun e => f (chunk.batchInfo 2) (sh.expertNumPerMoe * m + e)) hk hocc
    rw [hmod, hdiv, hserving.row hi hlocal hp, hlayer] at hrow
    rw [hstart, hlayer, hrow, hbefore, hfirsts i hi, hrank, Batch.returned, Batch.returnRow, Batch.slot,
      hmoe, hexpert, hid]
  · rw [hlast, hrank]
    split
    · apply List.map_congr_left
      intro i hi
      rw [hfirsts i (List.mem_range.1 hi)]
    · rfl

end Chunk

/-! ## A call -/

section Call
variable {V S : Type} {sh : CamShape} {b : Nat → Batch V S} {w : MoeWindow V} {chunk : RecvChunk V}
  {layerIndex m tpAttnRankId d e : Nat}

/-- The rows that the experts are given are within the receive capacity. -/
theorem RecvChunk.Holds.numTokens (h : chunk.Holds sh w tpAttnRankId d e) :
    prefixSum chunk.epRecvCountRouted sh.expertNumPerMoe ≤ sh.maxTokenNum := by
  obtain ⟨hde, he⟩ := h.experts
  have hcapacity := h.capacity
  have hbefore : prefixSum chunk.epRecvCountRouted d = 0 :=
    prefixSum_eq_zero fun j hj => by rw [h.epRecvCountRouted j (by omega), if_neg (by omega)]
  have hown : prefixSum (fun j => chunk.epRecvCountRouted (d + j)) (e + 1 - d) =
      prefixSum (rowCount (w.countsFrom tpAttnRankId d) sh.tpSize) (e + 1 - d) :=
    prefixSum_congr fun j hj => by
      rw [h.epRecvCountRouted (d + j) (by omega), if_pos (by omega)]
      rfl
  have hafter : prefixSum (fun j => chunk.epRecvCountRouted (e + 1 + j))
      (sh.expertNumPerMoe - (e + 1)) = 0 :=
    prefixSum_eq_zero fun j hj => by rw [h.epRecvCountRouted (e + 1 + j) (by omega), if_neg (by omega)]
  have hsplit := prefixSum_add chunk.epRecvCountRouted (e + 1) (sh.expertNumPerMoe - (e + 1))
  have hsplit' := prefixSum_add chunk.epRecvCountRouted d (e + 1 - d)
  rw [Nat.add_sub_cancel' (by omega)] at hsplit
  rw [Nat.add_sub_cancel' (by omega)] at hsplit'
  rw [chunkStart, prefixSum_gridCount_rows] at hcapacity
  omega

/-- The group is found, and its chunk flags say where it is. -/
theorem MoeWindow.Serving.announced (h : w.Serving sh b layerIndex m tpAttnRankId d) :
    (∀ i < sh.tpSize, (w.region (tpAttnRankId + i)).tokenNum ≠ 0) ∧
      (w.region tpAttnRankId).chunkFlag = readFlags d := by
  refine ⟨fun i hi => ?_, ?_⟩
  · obtain ⟨g, hg, hregion⟩ := h i hi
    rw [hregion]
    exact hg.tokenNum ▸ Nat.succ_ne_zero _
  · obtain ⟨g, -, hregion⟩ := h 0 sh.tpSize_pos
    rw [Nat.add_zero] at hregion
    rw [hregion]

/-- A group that is not done is found again. -/
theorem MoeWindow.Serving.search (h : w.Serving sh b layerIndex m tpAttnRankId d)
    (hlast : w.lastAttn = tpAttnRankId) (hrank : tpAttnRankId + sh.tpSize ≤ sh.attnRankNum) :
    w.search sh = some tpAttnRankId := by
  have hpos := sh.tpSize_pos
  have hready : ∀ j < sh.tpSize,
      (w.region ((w.lastAttn + (sh.tpSize * 0 + j)) % sh.attnRankNum)).tokenNum ≠ 0 := by
    intro j hj
    have hmod : (w.lastAttn + (sh.tpSize * 0 + j)) % sh.attnRankNum = tpAttnRankId + j := by
      rw [hlast, Nat.mul_zero, Nat.zero_add]
      exact Nat.mod_eq_of_lt (by omega)
    rw [hmod]
    exact h.announced.1 j hj
  obtain ⟨n, hn⟩ : ∃ n, sh.attnRankNum / sh.tpSize = n + 1 :=
    Nat.exists_eq_succ_of_ne_zero (Nat.div_pos (by omega) hpos).ne'
  have hfirst : ((List.range (n + 1)).find? fun i =>
      decide (∀ j < sh.tpSize,
          (w.region ((w.lastAttn + (sh.tpSize * i + j)) % sh.attnRankNum)).tokenNum ≠ 0)) = some 0 := by
    rw [List.range_succ_eq_map]
    exact List.find?_cons_of_pos (decide_eq_true hready)
  unfold MoeWindow.search
  rw [hn, hfirst, Option.map_some, Nat.mul_zero, Nat.add_zero, hlast, Nat.mod_eq_of_lt (by omega)]

/-- A call takes the group's next experts; the last one frees the group's slots. -/
theorem MoeWindow.Serving.call (h : w.Serving sh b layerIndex m tpAttnRankId d)
    (hgroup : GroupAdmitted sh b) (hm : m < sh.moeRankNum) (hsearch : w.search sh = some tpAttnRankId)
    (hd : d < sh.expertNumPerMoe) (order : Schedule) (xOut : Nat → V) :
    ∃ e chunk w', (w.search sh).bind (dispatchRecv sh order xOut w) = some (chunk, w') ∧
      chunk.Holds sh w tpAttnRankId d e ∧
      (e = sh.expertNumPerMoe - 1 → w'.Served sh tpAttnRankId ∧
        w'.lastAttn = (tpAttnRankId + sh.tpSize) % sh.attnRankNum) ∧
      (e ≠ sh.expertNumPerMoe - 1 → w'.Serving sh b layerIndex m tpAttnRankId (e + 1) ∧
        w'.lastAttn = tpAttnRankId) := by
  obtain ⟨hready, hflags⟩ := h.announced
  obtain ⟨e, chunk, hcall, hholds⟩ :=
    dispatchRecv_eq hready hflags hd (h.fits hgroup hm) hgroup.maxTokenNum_lt order xOut
  obtain ⟨hde, -⟩ := hholds.experts
  have hregion : ∀ i < sh.tpSize, (w.afterChunk sh tpAttnRankId e).region (tpAttnRankId + i) =
      (w.region (tpAttnRankId + i)).afterChunk sh (readFlags d) e := by
    intro i hi
    unfold MoeWindow.afterChunk
    dsimp only
    rw [if_pos ⟨by omega, by omega⟩, hflags]
  refine ⟨e, chunk, _, by rw [hsearch]; exact hcall, hholds, fun hlast => ⟨fun i hi => ?_, if_pos hlast⟩,
    fun hlater => ⟨fun i hi => ?_, if_neg hlater⟩⟩
  · rw [hregion i hi]
    simp [AttnRegion.afterChunk, hlast]
  · obtain ⟨g, hg, hbefore⟩ := h i hi
    refine ⟨g, hg, ?_⟩
    rw [hregion i hi, hbefore]
    simp [AttnRegion.afterChunk, hlater, markRead_readFlags (show d ≤ e + 1 by omega)]

theorem MoeWindow.Serving.of_keepsGroup (h : w.Serving sh b layerIndex m tpAttnRankId d)
    {other : MoeWindow V → MoeWindow V} (hother : KeepsGroup sh other tpAttnRankId) :
    (other w).Serving sh b layerIndex m tpAttnRankId d := by
  intro i hi
  rw [(hother w).2 i hi]
  exact h i hi

end Call

/-! ## The round -/

section Round
variable {V S : Type} {sh : CamShape} {b : Nat → Batch V S} {layerIndex m tpAttnRankId : Nat}
  (f : Nat → Nat → V → V)

theorem sentTo_append (rank : Nat) (ws ws' : List (Nat × CombineWrite V)) :
    sentTo rank (ws ++ ws') = sentTo rank ws ++ sentTo rank ws' := by
  simp [sentTo]

theorem sentTo_map {α : Type} (rank rank' : Nat) (l : List α) (g : α → CombineWrite V) :
    sentTo rank (l.map fun a => (rank', g a)) = if rank' = rank then l.map g else [] := by
  unfold sentTo
  by_cases h : rank' = rank
  · simp [h, List.filter_map, Function.comp_def]
  · simp [h, List.filter_map, Function.comp_def]

/-- What the group's `i`-th rank gets of a chunk. -/
theorem sentTo_serveChunk {w : MoeWindow V} {chunk : RecvChunk V} {d e i : Nat}
    (hserving : w.Serving sh b layerIndex m tpAttnRankId d) (hholds : chunk.Holds sh w tpAttnRankId d e)
    (hi : i < sh.tpSize) :
    sentTo (tpAttnRankId + i) (serveChunk sh f m chunk) =
      ((List.range (e + 1 - d)).flatMap fun j =>
        ((b i).expertAssignments sh (sh.expertNumPerMoe * m + (d + j))).map
          ((b i).returned sh (f layerIndex))) ++
      if e = sh.expertNumPerMoe - 1 then [.flag m ((b i).moePrefix sh m + 1)] else [] := by
  obtain ⟨flags, heq, hflags⟩ := serveChunk_eq f hserving hholds
  rw [heq, sentTo_append]
  congr 1
  · simp only [sentTo, List.filter_flatMap, List.map_flatMap]
    apply List.flatMap_congr
    intro j _
    have hothers := flatMap_eq_single List.nodup_range (List.mem_range.2 hi) (f := fun i' =>
      sentTo (tpAttnRankId + i)
          (((b i').expertAssignments sh (sh.expertNumPerMoe * m + (d + j))).map fun p =>
        (tpAttnRankId + i', (b i').returned sh (f layerIndex) p))) (fun i' _ hne => by
          rw [sentTo_map, if_neg (by omega)])
    rw [sentTo_map, if_pos rfl] at hothers
    exact hothers
  · have hperm := (hflags.filter fun w => w.1 = tpAttnRankId + i).map Prod.snd
    split at hperm
    · rename_i hlast
      have hone : (((List.range sh.tpSize).map fun i =>
          (tpAttnRankId + i, CombineWrite.flag (V := V) m ((b i).moePrefix sh m + 1))).filter fun w =>
            w.1 = tpAttnRankId + i) =
          [(tpAttnRankId + i, .flag m ((b i).moePrefix sh m + 1))] := by
        have hkey := filter_key_eq (k := Prod.fst)
          (a := (tpAttnRankId + i, CombineWrite.flag (V := V) m ((b i).moePrefix sh m + 1)))
          (l := (List.range sh.tpSize).map fun i =>
            (tpAttnRankId + i, CombineWrite.flag m ((b i).moePrefix sh m + 1))) ?_
          (List.mem_map.2 ⟨i, List.mem_range.2 hi, rfl⟩)
        · exact hkey
        · rw [List.map_map]
          exact List.nodup_range.map_on fun i _ i' _ heq => Nat.add_left_cancel heq
      rw [hone] at hperm
      rw [if_pos hlast]
      exact List.perm_singleton.1 hperm
    · rename_i hlater
      rw [if_neg hlater]
      exact List.perm_nil.1 hperm

variable (order : Nat → Schedule) (xOut : Nat → Nat → V) (other : Nat → MoeWindow V → MoeWindow V)

/-- From a state in which `d` experts are read, the calls take the rows of the others and
return their outputs, expert after expert, and then the flag. Whatever other ranks do in
between, at most as many calls are made as experts are left. -/
theorem moeRound_run (hgroup : GroupAdmitted sh b) (hm : m < sh.moeRankNum)
    (hrank : tpAttnRankId + sh.tpSize ≤ sh.attnRankNum)
    (hother : ∀ n, KeepsGroup sh (other n) tpAttnRankId) (n : Nat) {d : Nat} {w : MoeWindow V}
    (hd : d < sh.expertNumPerMoe) (hn : sh.expertNumPerMoe ≤ d + n)
    (hserving : w.Serving sh b layerIndex m tpAttnRankId d)
    (hsearch : w.search sh = some tpAttnRankId) :
    ∃ chunks w', moeRound sh order xOut other n w = some (chunks, w') ∧ w'.Served sh tpAttnRankId ∧
      w'.lastAttn = (tpAttnRankId + sh.tpSize) % sh.attnRankNum ∧
      (∀ chunk ∈ chunks, prefixSum chunk.epRecvCountRouted sh.expertNumPerMoe ≤ sh.maxTokenNum) ∧
      (∀ j < sh.expertNumPerMoe, (chunks.map fun chunk => chunk.epRecvCountRouted j).sum =
        if d ≤ j then prefixSum (fun i => (b i).localCounts sh m j) sh.tpSize else 0) ∧
      ∀ i < sh.tpSize, sentTo (tpAttnRankId + i) (chunks.flatMap (serveChunk sh f m)) =
        ((List.range' d (sh.expertNumPerMoe - d)).flatMap fun j =>
          ((b i).expertAssignments sh (sh.expertNumPerMoe * m + j)).map
            ((b i).returned sh (f layerIndex))) ++
        [.flag m ((b i).moePrefix sh m + 1)] := by
  induction n generalizing d w with
  | zero => omega
  | succ n ih =>
    obtain ⟨e, chunk, w', hcall, hholds, hlast, hlater⟩ :=
      hserving.call hgroup hm hsearch hd (order n) (xOut n)
    obtain ⟨hde, he⟩ := hholds.experts
    have hsent := fun i (hi : i < sh.tpSize) => sentTo_serveChunk f hserving hholds hi
    have hcount : ∀ j < sh.expertNumPerMoe, chunk.epRecvCountRouted j =
        if d ≤ j ∧ j ≤ e then prefixSum (fun i => (b i).localCounts sh m j) sh.tpSize else 0 := by
      intro j hj
      rw [hholds.epRecvCountRouted j hj, rowCount, prefixSum_congr fun i hi => hserving.counts hi hj]
    have hrange : ∀ i, ((List.range (e + 1 - d)).flatMap fun j =>
        ((b i).expertAssignments sh (sh.expertNumPerMoe * m + (d + j))).map
          ((b i).returned sh (f layerIndex))) =
        (List.range' d (e + 1 - d)).flatMap fun j =>
          ((b i).expertAssignments sh (sh.expertNumPerMoe * m + j)).map
              ((b i).returned sh (f layerIndex)) := by
      intro i
      rw [List.range'_eq_map_range, List.flatMap_map]
    unfold moeRound
    rw [hcall]
    dsimp only
    rw [hholds.info.2.2]
    by_cases hend : e = sh.expertNumPerMoe - 1
    · obtain ⟨hserved, hnext⟩ := hlast hend
      rw [if_pos hend]
      refine ⟨[chunk], w', rfl, hserved, hnext, ?_, fun j hj => ?_, fun i hi => ?_⟩
      · simpa using hholds.numTokens
      · rw [List.map_singleton, List.sum_singleton, hcount j hj]
        exact if_congr (and_iff_left (by omega)) rfl rfl
      · rw [List.flatMap_singleton, hsent i hi, hrange, if_pos hend,
          show e + 1 - d = sh.expertNumPerMoe - d by omega]
    · obtain ⟨hafter, hnext⟩ := hlater hend
      have hafter' := hafter.of_keepsGroup (hother n)
      obtain ⟨chunks, w'', hrun, hserved, hdone, hcapacity, hcounts, hrest⟩ :=
        ih (by omega) (by omega) hafter' (hafter'.search (((hother n) w').1.trans hnext) hrank)
      rw [if_neg hend, hrun]
      refine ⟨chunk :: chunks, w'', rfl, hserved, hdone, ?_, fun j hj => ?_, fun i hi => ?_⟩
      · simpa using ⟨hholds.numTokens, hcapacity⟩
      · rw [List.map_cons, List.sum_cons, hcount j hj, hcounts j hj]
        -- an expert is in this chunk or in a later one
        rcases Nat.lt_or_ge e j with hlt | hge
        · rw [if_neg (by omega), if_pos (Nat.succ_le_of_lt hlt), if_pos (by omega), Nat.zero_add]
        · rw [if_neg (by omega : ¬ e + 1 ≤ j), Nat.add_zero]
          exact if_congr (and_iff_left hge) rfl rfl
      · have hlen : List.range' d (sh.expertNumPerMoe - d) =
            List.range' d (e + 1 - d) ++ List.range' (e + 1) (sh.expertNumPerMoe - (e + 1)) := by
          have happend := List.range'_append_1 (s := d) (m := e + 1 - d) (n := sh.expertNumPerMoe - (e + 1))
          rw [Nat.add_sub_cancel' (by omega)] at happend
          rw [happend]
          congr 1
          omega
        rw [List.flatMap_cons, sentTo_append, hsent i hi, hrange, if_neg hend, List.append_nil,
          hrest i hi, hlen, List.flatMap_append, List.append_assoc]

end Round

end AfdPlugin.Cam
