import AfdPlugin.Cam.ReceiveWindow
import AfdPlugin.Cam.Routing
import AfdPlugin.Lib.Grid
/-!
# The rows of a chunk

A call of dispatch-recv collects the rows of its experts from the regions of a TP
group's ranks: the rows of an expert together, those of the first rank first. Every
core takes a share of each rank's rows and finds out where they go.
-/

namespace AfdPlugin.Cam

section Model
variable {V : Type} (sh : CamShape)

/-- What an Attention rank leaves at a MoE rank: its slot, the rows, and for each
assignment the number of its row. -/
structure AttnRegion (V : Type) extends Slot where
  layerIndex : Nat
  /-- Assignments to the MoE ranks before. -/
  moePreTokenNum : Nat
  tokenStore : Nat → V
  tokenAddr : Nat → Nat

/-- A MoE rank's window, with a region for each Attention rank. -/
structure MoeWindow (V : Type) where
  lastAttn : Nat
  region : Nat → AttnRegion V

def MoeWindow.flags (w : MoeWindow V) : Window := ⟨w.lastAttn, fun r => (w.region r).toSlot⟩

def INFO_NUM : Nat := 5

/-- First half of `tpExpertRecvTokenNumTensor_`: the counts of the TP group. -/
def groupCounts (w : MoeWindow V) (tpAttnRankId : Nat) : Nat → Nat :=
  forRange 0 sh.tpSize (fun _ => 0) fun counts i j =>
    if j < sh.expertNumPerMoe then
      (counts j + (w.region (tpAttnRankId + i)).expertRecvTokenNum j) % 2 ^ 32 else counts j

/-- Second half: a rank's rows of the chunk are added when they are received. -/
def addReceived (startExpert endExpert : Nat) (counts tensor : Nat → Nat) : Nat → Nat := fun j =>
  if sh.expertNumPerMoe + startExpert ≤ j ∧ j ≤ sh.expertNumPerMoe + endExpert then
    tensor j + counts (j - sh.expertNumPerMoe)
  else tensor j

/-- Where a core is in the experts of a chunk. -/
structure Seek where
  currExpertId : Nat
  currExpertTokenNum : Nat
  nextExpertTokenNum : Nat
  preExpertTokenNum : Nat

def Seek.next (tensor counts : Nat → Nat) (s : Seek) : Seek where
  currExpertId := s.currExpertId + 1
  currExpertTokenNum := s.currExpertTokenNum + counts s.currExpertId
  nextExpertTokenNum := s.nextExpertTokenNum + counts (s.currExpertId + 1)
  preExpertTokenNum := s.preExpertTokenNum + tensor s.currExpertId

/-- The copies of `DispatchRecvRouted` on a core, given `tpExpertRecvTokenNumTensor_`.
Its `while` loops end at the last expert at the latest. -/
def dispatchRecvRouted (tensor : Nat → Nat) (g : AttnRegion V) (startExpert endExpert aivId : Nat) :
    List (Nat × V) :=
  let counts := g.expertRecvTokenNum
  let tokenNumSum := forRange startExpert (endExpert + 1 - startExpert) 0 fun n i => n + counts i
  let preTokenNumSum := forRange 0 startExpert 0 fun n i => n + counts i
  let tokenNumPerAivStart := Blocks.spread tokenNumSum sh.moeAivNum aivId
  let tokenNumPerAivEnd := Blocks.spread tokenNumSum sh.moeAivNum (aivId + 1)
  let tokenAddrOffset := fun i => g.tokenAddr (tokenNumPerAivStart + preTokenNumSum + i)
  let seek := whileLoop (fun s => decide (s.nextExpertTokenNum < tokenNumPerAivStart))
    (Seek.next tensor counts) sh.expertNumPerMoe ⟨startExpert, 0, counts startExpert, 0⟩
  (forRange tokenNumPerAivStart (tokenNumPerAivEnd - tokenNumPerAivStart) (seek, [])
      fun s expertSlotOffset =>
    let seek := whileLoop (fun s => decide (s.nextExpertTokenNum ≤ expertSlotOffset))
      (Seek.next tensor counts) sh.expertNumPerMoe s.1
    let tpExpertSlotOffset := seek.preExpertTokenNum + tensor (sh.expertNumPerMoe + seek.currExpertId) +
      (expertSlotOffset - seek.currExpertTokenNum)
    let moeTokenSendIdx := tokenAddrOffset (expertSlotOffset - tokenNumPerAivStart)
    (seek, s.2 ++ [(tpExpertSlotOffset, g.tokenStore moeTokenSendIdx)])).2

/-- The ranks of the group one after the other: `tpExpertRecvTokenNumTensor_` and the
copies of a core. -/
def receiveRanks (w : MoeWindow V) (tpAttnRankId startExpert endExpert aivId : Nat) :
    (Nat → Nat) × List (Nat × V) :=
  forRange 0 sh.tpSize (groupCounts sh w tpAttnRankId, []) fun s tpIndex =>
    let g := w.region (tpAttnRankId + tpIndex)
    (addReceived sh startExpert endExpert g.expertRecvTokenNum s.1,
      s.2 ++ dispatchRecvRouted sh s.1 g startExpert endExpert aivId)

/-- `tpBatchInfoTensor_`. -/
def tpBatchInfo (w : MoeWindow V) (tpAttnRankId startExpert endExpert : Nat) : Nat → Nat :=
  let info := forRange 0 sh.tpSize (fun _ => 0) fun info tpIndex k =>
    let g := w.region (tpAttnRankId + tpIndex)
    let row := INFO_NUM + sh.tpSize + sh.expertNumPerMoe * tpIndex
    if k = INFO_NUM + tpIndex then g.moePreTokenNum
    else if row ≤ k ∧ k < row + sh.expertNumPerMoe then g.expertRecvTokenNum (k - row)
    else info k
  let tokenNum := forRange 0 sh.expertNumPerMoe 0 fun n i => n + groupCounts sh w tpAttnRankId i
  fun k =>
    if k = 0 then tokenNum
    else if k = 1 then tpAttnRankId
    else if k = 2 then (w.region tpAttnRankId).layerIndex
    else if k = 3 then startExpert
    else if k = 4 then endExpert
    else info k

/-- The outputs of dispatch-recv. -/
structure RecvChunk (V : Type) where
  batchInfo : Nat → Nat
  epRecvCountRouted : Nat → Nat
  expandXOut : Nat → V

/-- A region after a chunk, given the flags of the group's first rank. -/
def AttnRegion.afterChunk (chunkFlag : Nat → Nat) (endExpert : Nat) (g : AttnRegion V) : AttnRegion V :=
  let isLast : Bool := endExpert = sh.expertNumPerMoe - 1
  { g with
    tokenNum := if isLast then 0 else g.tokenNum
    marker := if isLast then 0 else g.marker
    layerIndex := if isLast then 0 else g.layerIndex
    moePreTokenNum := if isLast then 0 else g.moePreTokenNum
    chunkFlag := markRead chunkFlag endExpert }

/-- `DispatchRecv` on all cores for the group of `tpAttnRankId`, with the cores' copies
in some order. `none`: a rank of the group has not announced its dispatch, or no
expert fits. -/
def dispatchRecv (order : Schedule) (xOut : Nat → V) (w : MoeWindow V) (tpAttnRankId : Nat) :
    Option (RecvChunk V × MoeWindow V) :=
  let chunkFlag := (w.region tpAttnRankId).chunkFlag
  if ∃ i < sh.tpSize, (w.region (tpAttnRankId + i)).tokenNum = 0 then none
  else (selectChunk sh.expertNumPerMoe sh.maxTokenNum chunkFlag
      (groupCounts sh w tpAttnRankId)).map fun chunk =>
    ({ batchInfo := tpBatchInfo sh w tpAttnRankId chunk.1 chunk.2
       epRecvCountRouted :=
         fun i => (receiveRanks sh w tpAttnRankId chunk.1 chunk.2 0).1 (sh.expertNumPerMoe + i)
       expandXOut := order.phase xOut sh.moeAivNum fun aivId =>
         (receiveRanks sh w tpAttnRankId chunk.1 chunk.2 aivId).2 },
     { lastAttn :=
         if chunk.2 = sh.expertNumPerMoe - 1 then (tpAttnRankId + sh.tpSize) % sh.attnRankNum else tpAttnRankId
       region := fun r =>
         if tpAttnRankId ≤ r ∧ r < tpAttnRankId + sh.tpSize then
           (w.region r).afterChunk sh chunkFlag chunk.2
         else w.region r })

end Model

/-! ## Where a core is -/

section Seek
variable {tensor counts : Nat → Nat} {d L : Nat}

/-- At the `k`-th expert of the chunk. -/
def seekAt (tensor counts : Nat → Nat) (d k : Nat) : Seek where
  currExpertId := d + k
  currExpertTokenNum := prefixSum (fun j => counts (d + j)) k
  nextExpertTokenNum := prefixSum (fun j => counts (d + j)) (k + 1)
  preExpertTokenNum := prefixSum (fun j => tensor (d + j)) k

theorem next_seekAt (k : Nat) :
    (seekAt tensor counts d k).next tensor counts = seekAt tensor counts d (k + 1) := rfl

theorem seekAt_zero (tensor : Nat → Nat) : seekAt tensor counts d 0 = ⟨d, 0, counts d, 0⟩ := by
  simp [seekAt, prefixSum_succ]

/-- The loop that sums counts. -/
theorem forRange_sum (counts : Nat → Nat) (a n : Nat) :
    forRange a n 0 (fun s i => s + counts i) = prefixSum (fun j => counts (a + j)) n := by
  induction n with
  | zero => rfl
  | succ n ih => rw [forRange_succ, ih, prefixSum_succ]

/-- Where a core puts the row of slot `r`, and what it copies. -/
def routedCopy {V : Type} (sh : CamShape) (tensor : Nat → Nat) (g : AttnRegion V) (d : Nat)
    (k r : Nat) : Nat × V :=
  (prefixSum (fun j => tensor (d + j)) k + tensor (sh.expertNumPerMoe + (d + k)) +
      (r - prefixSum (fun j => g.expertRecvTokenNum (d + j)) k),
    g.tokenStore (g.tokenAddr (prefixSum g.expertRecvTokenNum d + r)))

/-- A core copies the slots of its share. -/
theorem dispatchRecvRouted_eq {V : Type} {sh : CamShape} (tensor : Nat → Nat) (g : AttnRegion V)
    {d e aivId : Nat} (hde : d ≤ e) (he : e < sh.expertNumPerMoe) (haiv : aivId < sh.moeAivNum)
    {owner : Nat → Nat} (howner : CellOwner (fun j => g.expertRecvTokenNum (d + j)) (e + 1 - d) owner) :
    dispatchRecvRouted sh tensor g d e aivId =
      (Blocks.block (Blocks.spread (prefixSum (fun j => g.expertRecvTokenNum (d + j)) (e + 1 - d))
        sh.moeAivNum) aivId).map
        fun r => routedCopy sh tensor g d (owner r) r := by
  have hfind : ∀ k, (seekAt tensor g.expertRecvTokenNum d k).next tensor g.expertRecvTokenNum =
      seekAt tensor g.expertRecvTokenNum d (k + 1) := next_seekAt
  unfold dispatchRecvRouted
  dsimp only
  rw [forRange_sum, forRange_sum, ← seekAt_zero tensor]
  simp only [Nat.zero_add]
  generalize hcnt : (fun j => g.expertRecvTokenNum (d + j)) = cnt at howner
  generalize hsum : prefixSum cnt (e + 1 - d) = total
  have hle : Blocks.spread total sh.moeAivNum aivId ≤ Blocks.spread total sh.moeAivNum (aivId + 1) :=
    Blocks.spread_le_succ _ _ _
  have hend : Blocks.spread total sh.moeAivNum (aivId + 1) ≤ total :=
    Blocks.spread_le total haiv sh.moeAivNum_pos
  unfold Blocks.block
  generalize Blocks.spread total sh.moeAivNum (aivId + 1) = stop at *
  generalize Blocks.spread total sh.moeAivNum aivId = start at *
  obtain ⟨k, hk, hkle, hstart⟩ := whileLoop_seek_lt (c := fun s => decide (s.nextExpertTokenNum < start))
    (r := start) (n := e - d) _ cnt hfind (fun k => by rw [← hcnt]; rfl) sh.expertNumPerMoe
    (by rw [show e - d + 1 = e + 1 - d by omega]; omega) (by omega)
  rw [hstart]
  -- the core is at an expert that does not begin after the next slot
  have hloop := forRange_inv (a := start) (n := stop - start)
      (s := (seekAt tensor g.expertRecvTokenNum d k, []))
    (f := fun s expertSlotOffset =>
      let seek := whileLoop (fun s => decide (s.nextExpertTokenNum ≤ expertSlotOffset))
        (Seek.next tensor g.expertRecvTokenNum) sh.expertNumPerMoe s.1
      (seek, s.2 ++
        [(seek.preExpertTokenNum + tensor (sh.expertNumPerMoe + seek.currExpertId) +
          (expertSlotOffset - seek.currExpertTokenNum),
          g.tokenStore (g.tokenAddr
            (start + prefixSum g.expertRecvTokenNum d + (expertSlotOffset - start))))]))
    (fun slot s => (∃ k, s.1 = seekAt tensor g.expertRecvTokenNum d k ∧ prefixSum cnt k ≤ slot) ∧
      s.2 = (List.range' start (slot - start)).map fun r => routedCopy sh tensor g d (owner r) r)
    ⟨⟨k, rfl, hkle⟩, by simp⟩ (fun slot s hslot hlt ⟨⟨k, hs, hk⟩, hcopies⟩ => ?_)
  · rw [Nat.add_sub_cancel' hle] at hloop
    exact hloop.2
  · obtain ⟨k', hkk', hk', hk'le, hk'lt, hseek⟩ :=
      whileLoop_seek (c := fun s => decide (s.nextExpertTokenNum ≤ slot)) (r := slot) (n := e + 1 - d) _
        cnt hfind (fun k => by rw [← hcnt]; rfl) sh.expertNumPerMoe hk (by omega) (by omega)
    have hown : owner slot = k' := howner.of_mem hk' hk'le hk'lt
    dsimp only
    rw [hs, hseek]
    refine ⟨⟨k', rfl, by omega⟩, ?_⟩
    rw [hcopies, Nat.succ_sub hslot, List.range'_concat, List.map_append, Nat.one_mul,
      Nat.add_sub_cancel' hslot, List.map_singleton, hown]
    have haddr : start + prefixSum g.expertRecvTokenNum d + (slot - start) =
      prefixSum g.expertRecvTokenNum d + slot := by omega
    rw [haddr]
    rfl

end Seek

/-! ## What a call collects -/

section Rows
variable {V : Type} {sh : CamShape} {w : MoeWindow V} {tpAttnRankId d e : Nat}

/-- Assignments of the group's `i`-th rank to expert `e`. -/
def MoeWindow.counts (w : MoeWindow V) (tpAttnRankId i e : Nat) : Nat :=
  (w.region (tpAttnRankId + i)).expertRecvTokenNum e

/-- Those of the experts from `d` on. -/
def MoeWindow.countsFrom (w : MoeWindow V) (tpAttnRankId d i e : Nat) : Nat :=
  w.counts tpAttnRankId i (d + e)

/-- The receive capacity holds what the group sends to an expert. -/
def MoeWindow.Fits (sh : CamShape) (w : MoeWindow V) (tpAttnRankId : Nat) : Prop :=
  ∀ e < sh.expertNumPerMoe, rowCount (w.counts tpAttnRankId) sh.tpSize e ≤ sh.maxTokenNum

/-- The counts are kept in 32 bits. -/
theorem groupCounts_mod (sh : CamShape) (w : MoeWindow V) (tpAttnRankId j : Nat) :
    groupCounts sh w tpAttnRankId j =
      if j < sh.expertNumPerMoe then rowCount (w.counts tpAttnRankId) sh.tpSize j % 2 ^ 32 else 0 := by
  have hloop := forRange_inv (a := 0) (n := sh.tpSize) (s := fun _ => 0)
    (f := fun counts i j => if j < sh.expertNumPerMoe then
      (counts j + (w.region (tpAttnRankId + i)).expertRecvTokenNum j) % 2 ^ 32 else counts j)
    (fun i counts => counts j =
      if j < sh.expertNumPerMoe then prefixSum (fun i => w.counts tpAttnRankId i j) i % 2 ^ 32 else 0)
    (by simp) (fun i counts _ hi hold => ?_)
  · rw [Nat.zero_add] at hloop
    exact hloop
  · dsimp only
    rw [hold]
    split
    · rw [prefixSum_succ, Nat.mod_add_mod]
      rfl
    · rfl

theorem groupCounts_eq (hfits : w.Fits sh tpAttnRankId) (hmax : sh.maxTokenNum < 2 ^ 32) (j : Nat) :
    groupCounts sh w tpAttnRankId j =
      if j < sh.expertNumPerMoe then rowCount (w.counts tpAttnRankId) sh.tpSize j else 0 := by
  rw [groupCounts_mod]
  split
  · rename_i hj
    exact Nat.mod_eq_of_lt ((hfits j hj).trans_lt hmax)
  · rfl

/-- `tpExpertRecvTokenNumTensor_` when `i` ranks are received: the counts of the group,
and for the chunk's experts those of these ranks. -/
structure RankTensor (sh : CamShape) (w : MoeWindow V) (tpAttnRankId d e i : Nat) (tensor : Nat → Nat) :
    Prop where
  group : ∀ j < sh.expertNumPerMoe, tensor j = rowCount (w.counts tpAttnRankId) sh.tpSize j
  received : ∀ j < sh.expertNumPerMoe, tensor (sh.expertNumPerMoe + j) =
    if d ≤ j ∧ j ≤ e then prefixSum (fun i => w.counts tpAttnRankId i j) i else 0

theorem rankTensor_zero (hfits : w.Fits sh tpAttnRankId) (hmax : sh.maxTokenNum < 2 ^ 32) (d e : Nat) :
    RankTensor sh w tpAttnRankId d e 0 (groupCounts sh w tpAttnRankId) := by
  refine ⟨fun j hj => ?_, fun j _ => ?_⟩
  · rw [groupCounts_eq hfits hmax, if_pos hj]
  · rw [groupCounts_eq hfits hmax, if_neg (by omega)]
    simp

theorem RankTensor.next {i : Nat} {tensor : Nat → Nat} (h : RankTensor sh w tpAttnRankId d e i tensor) :
    RankTensor sh w tpAttnRankId d e (i + 1)
      (addReceived sh d e (w.region (tpAttnRankId + i)).expertRecvTokenNum tensor) := by
  refine ⟨fun j hj => ?_, fun j hj => ?_⟩
  · rw [addReceived, if_neg (by omega), h.group j hj]
  · unfold addReceived
    rw [Nat.add_sub_cancel_left, h.received j hj]
    by_cases hchunk : d ≤ j ∧ j ≤ e
    · rw [if_pos (by omega), if_pos hchunk, if_pos hchunk, prefixSum_succ]
      rfl
    · rw [if_neg (by omega), if_neg hchunk, if_neg hchunk]

/-- Rows of the chunk before those of cell `k`: experts one after the other, for each
the ranks of the group. -/
def chunkStart (sh : CamShape) (w : MoeWindow V) (tpAttnRankId d k : Nat) : Nat :=
  prefixSum (gridCount (w.countsFrom tpAttnRankId d) sh.tpSize) k

/-- The copy for slot `r` of the group's `i`-th rank, which is in expert `d + k`. -/
def groupCopy (w : MoeWindow V) (sh : CamShape) (tpAttnRankId d i k r : Nat) : Nat × V :=
  (chunkStart sh w tpAttnRankId d (sh.tpSize * k + i) + (r - prefixSum (w.countsFrom tpAttnRankId d i) k),
    (w.region (tpAttnRankId + i)).tokenStore
      ((w.region (tpAttnRankId + i)).tokenAddr (prefixSum (w.counts tpAttnRankId i) d + r)))

/-- A copy goes behind the experts before, and the ranks before. -/
theorem RankTensor.routedCopy_eq {i : Nat} {tensor : Nat → Nat}
    (h : RankTensor sh w tpAttnRankId d e i tensor) (hi : i < sh.tpSize) (he : e < sh.expertNumPerMoe)
    {k : Nat} (hk : k < e + 1 - d) (r : Nat) :
    routedCopy sh tensor (w.region (tpAttnRankId + i)) d k r = groupCopy w sh tpAttnRankId d i k r := by
  have hgroup : prefixSum (fun j => tensor (d + j)) k =
      prefixSum (rowCount (w.countsFrom tpAttnRankId d) sh.tpSize) k :=
    prefixSum_congr fun j hj => h.group (d + j) (by omega)
  rw [routedCopy, groupCopy, hgroup, h.received (d + k) (by omega), if_pos (by omega), chunkStart,
    prefixSum_gridCount _ k hi.le]
  rfl

/-- What a core copies, rank after rank. -/
theorem receiveRanks_eq (hfits : w.Fits sh tpAttnRankId) (hmax : sh.maxTokenNum < 2 ^ 32) (hde : d ≤ e)
    (he : e < sh.expertNumPerMoe) {owner : Nat → Nat → Nat}
    (howner : ∀ i, CellOwner (w.countsFrom tpAttnRankId d i) (e + 1 - d) (owner i)) {aivId : Nat}
    (haiv : aivId < sh.moeAivNum) :
    RankTensor sh w tpAttnRankId d e sh.tpSize (receiveRanks sh w tpAttnRankId d e aivId).1 ∧
      (receiveRanks sh w tpAttnRankId d e aivId).2 = (List.range sh.tpSize).flatMap fun i =>
        (Blocks.block (Blocks.spread (prefixSum (w.countsFrom tpAttnRankId d i) (e + 1 - d))
          sh.moeAivNum) aivId).map
          fun r => groupCopy w sh tpAttnRankId d i (owner i r) r := by
  have hloop := forRange_inv (a := 0) (n := sh.tpSize) (s := (groupCounts sh w tpAttnRankId, []))
    (f := fun s tpIndex => (addReceived sh d e (w.region (tpAttnRankId + tpIndex)).expertRecvTokenNum s.1,
      s.2 ++ dispatchRecvRouted sh s.1 (w.region (tpAttnRankId + tpIndex)) d e aivId))
    (fun n s => RankTensor sh w tpAttnRankId d e n s.1 ∧ s.2 = (List.range n).flatMap fun i =>
      (Blocks.block (Blocks.spread (prefixSum (w.countsFrom tpAttnRankId d i) (e + 1 - d)) sh.moeAivNum)
        aivId).map fun r => groupCopy w sh tpAttnRankId d i (owner i r) r)
    ⟨rankTensor_zero hfits hmax d e, rfl⟩ (fun n s _ hn ⟨htensor, hcopies⟩ => ⟨htensor.next, ?_⟩)
  · rw [Nat.zero_add] at hloop
    exact hloop
  · rw [hcopies, List.range_succ, List.flatMap_append, List.flatMap_singleton]
    refine congrArg _
      ((dispatchRecvRouted_eq s.1 _ hde he haiv (howner n)).trans (List.map_congr_left fun r hr => ?_))
    obtain ⟨k, hk, hkle, hklt⟩ := exists_block (lt_of_mem_share haiv hr)
    have hown : owner n r = k := (howner n).of_mem hk hkle hklt
    rw [hown]
    exact htensor.routedCopy_eq (by omega) he hk r

/-- The rows of the chunk in order, with what is to be there. -/
def chunkCopies (sh : CamShape) (w : MoeWindow V) (tpAttnRankId d e : Nat) : List (Nat × V) :=
  (List.range (sh.tpSize * (e + 1 - d))).flatMap fun cell =>
    (List.range (gridCount (w.countsFrom tpAttnRankId d) sh.tpSize cell)).map fun o =>
      (chunkStart sh w tpAttnRankId d cell + o, (w.region (tpAttnRankId + cell % sh.tpSize)).tokenStore
        ((w.region (tpAttnRankId + cell % sh.tpSize)).tokenAddr
          (prefixSum (w.counts tpAttnRankId (cell % sh.tpSize)) (d + cell / sh.tpSize) + o)))

/-- The cores together copy every row of the chunk once. -/
theorem receiveRanks_perm (hfits : w.Fits sh tpAttnRankId) (hmax : sh.maxTokenNum < 2 ^ 32) (hde : d ≤ e)
    (he : e < sh.expertNumPerMoe) :
    ((List.range sh.moeAivNum).flatMap fun aivId => (receiveRanks sh w tpAttnRankId d e aivId).2).Perm
      (chunkCopies sh w tpAttnRankId d e) := by
  choose owner howner using fun i => exists_cellOwner (w.countsFrom tpAttnRankId d i) (e + 1 - d)
  have hcores :
      ((List.range sh.moeAivNum).flatMap fun aivId => (receiveRanks sh w tpAttnRankId d e aivId).2) =
      (List.range sh.moeAivNum).flatMap fun aivId => (List.range sh.tpSize).flatMap fun i =>
        (Blocks.block (Blocks.spread (prefixSum (w.countsFrom tpAttnRankId d i) (e + 1 - d))
            sh.moeAivNum) aivId).map
          fun r => groupCopy w sh tpAttnRankId d i (owner i r) r :=
    List.flatMap_congr fun aivId haiv =>
      (receiveRanks_eq hfits hmax hde he howner (List.mem_range.1 haiv)).2
  rw [hcores]
  refine (flatMap_swap_perm _ _ _).trans ?_
  have hranks : ∀ i, ((List.range sh.moeAivNum).flatMap fun aivId =>
      (Blocks.block (Blocks.spread (prefixSum (w.countsFrom tpAttnRankId d i) (e + 1 - d)) sh.moeAivNum)
        aivId).map fun r => groupCopy w sh tpAttnRankId d i (owner i r) r) =
      (List.range (e + 1 - d)).flatMap fun k => (List.range (w.countsFrom tpAttnRankId d i k)).map fun o =>
        groupCopy w sh tpAttnRankId d i k (prefixSum (w.countsFrom tpAttnRankId d i) k + o) := by
    intro i
    rw [flatMap_spread _ sh.moeAivNum_pos]
    exact (howner i).map_range fun k r => groupCopy w sh tpAttnRankId d i k r
  simp only [hranks]
  refine (flatMap_swap_perm _ _ _).trans (List.Perm.of_eq ?_)
  rw [chunkCopies, flatMap_grid]
  apply List.flatMap_congr
  intro k _
  apply List.flatMap_congr
  intro i hi
  rw [List.mem_range] at hi
  have hmod : (sh.tpSize * k + i) % sh.tpSize = i := by rw [Nat.mul_add_mod, Nat.mod_eq_of_lt hi]
  have hdiv : (sh.tpSize * k + i) / sh.tpSize = k := by
    rw [Nat.mul_add_div sh.tpSize_pos, Nat.div_eq_of_lt hi, Nat.add_zero]
  rw [gridCount_cell _ hi, hmod, hdiv]
  apply List.map_congr_left
  intro o _
  have hbefore : prefixSum (w.counts tpAttnRankId i) (d + k) =
    prefixSum (w.counts tpAttnRankId i) d + prefixSum (w.countsFrom tpAttnRankId d i) k :=
    prefixSum_add _ _ _
  rw [groupCopy, Nat.add_sub_cancel_left, hbefore, Nat.add_assoc (prefixSum _ d)]

/-- They are the rows below the chunk's number of rows. -/
theorem chunkCopies_rows : (chunkCopies sh w tpAttnRankId d e).map Prod.fst =
    List.range (chunkStart sh w tpAttnRankId d (sh.tpSize * (e + 1 - d))) := by
  obtain ⟨owner, howner⟩ := exists_cellOwner (gridCount (w.countsFrom tpAttnRankId d) sh.tpSize)
    (sh.tpSize * (e + 1 - d))
  have hrows := howner.map_range fun _ r => r
  rw [List.map_id'] at hrows
  rw [chunkStart, hrows, chunkCopies, List.map_flatMap]
  apply List.flatMap_congr
  intro cell _
  rw [List.map_map]
  rfl

/-- The loop over the ranks gives each its cells of `tpBatchInfoTensor_`. -/
theorem tpBatchInfo_eq (sh : CamShape) (w : MoeWindow V) (tpAttnRankId d e : Nat) {i : Nat}
    (hi : i < sh.tpSize) :
    tpBatchInfo sh w tpAttnRankId d e (INFO_NUM + i) = (w.region (tpAttnRankId + i)).moePreTokenNum ∧
      ∀ j < sh.expertNumPerMoe,
        tpBatchInfo sh w tpAttnRankId d e (INFO_NUM + sh.tpSize + sh.expertNumPerMoe * i + j) =
        w.counts tpAttnRankId i j := by
  have hloop := forRange_inv (a := 0) (n := sh.tpSize) (s := fun _ => 0)
    (f := fun info tpIndex k =>
      let g := w.region (tpAttnRankId + tpIndex)
      let row := INFO_NUM + sh.tpSize + sh.expertNumPerMoe * tpIndex
      if k = INFO_NUM + tpIndex then g.moePreTokenNum
      else if row ≤ k ∧ k < row + sh.expertNumPerMoe then g.expertRecvTokenNum (k - row)
      else info k)
    (fun n info => n ≤ sh.tpSize →
      ∀ i < n, info (INFO_NUM + i) = (w.region (tpAttnRankId + i)).moePreTokenNum ∧
      ∀ j < sh.expertNumPerMoe, info (INFO_NUM + sh.tpSize + sh.expertNumPerMoe * i + j) =
        w.counts tpAttnRankId i j)
    (fun _ i hi => absurd hi (Nat.not_lt_zero i)) (fun n info _ hn hold hle i hi => ?_)
  · rw [Nat.zero_add] at hloop
    obtain ⟨hfirsts, hcounts⟩ := hloop le_rfl i hi
    unfold tpBatchInfo
    dsimp only
    unfold INFO_NUM at *
    refine ⟨?_, fun j hj => ?_⟩
    · rw [if_neg (by omega), if_neg (by omega), if_neg (by omega), if_neg (by omega), if_neg (by omega)]
      exact hfirsts
    · rw [if_neg (by omega), if_neg (by omega), if_neg (by omega), if_neg (by omega), if_neg (by omega)]
      exact hcounts j hj
  · dsimp only
    rcases Nat.lt_succ_iff_lt_or_eq.1 hi with hlt | rfl
    · -- a rank that came before: its cells are not touched
      obtain ⟨hfirsts, hcounts⟩ := hold (by omega) i hlt
      refine ⟨?_, fun j hj => ?_⟩
      · rw [if_neg (by omega), if_neg (by omega), hfirsts]
      · have hrow : sh.expertNumPerMoe * i + j < sh.expertNumPerMoe * n :=
          calc sh.expertNumPerMoe * i + j < sh.expertNumPerMoe * (i + 1) := by rw [Nat.mul_succ]; omega
            _ ≤ sh.expertNumPerMoe * n := Nat.mul_le_mul_left _ hlt
        rw [if_neg (by omega), if_neg (by omega), hcounts j hj]
    · refine ⟨by rw [if_pos rfl], fun j hj => ?_⟩
      rw [if_neg (by omega), if_pos (by omega), Nat.add_sub_cancel_left]
      rfl

/-! ## The capacity -/

/-- The counts of a selection add up to its `tokenCnt`, which fits. -/
theorem selectFrom_fits {maxTokenNum : Nat} {tpCount : Nat → Nat} (hmax : maxTokenNum < 2 ^ 31) {R : Nat}
    (hfits : ∀ e < R, tpCount e ≤ maxTokenNum) (n i : Nat) (hi : i + n = R) (hd : d < i)
    (hsum : prefixSum (fun j => tpCount (d + j)) (i - d) ≤ maxTokenNum) :
    let s := selectFrom maxTokenNum (readFlags d) tpCount i n
      ⟨d, i - 1, true, prefixSum (fun j => tpCount (d + j)) (i - d)⟩
    prefixSum (fun j => tpCount (d + j)) (s.endExpert + 1 - d) ≤ maxTokenNum := by
  induction n generalizing i with
  | zero =>
    have hend : i - 1 + 1 - d = i - d := by omega
    dsimp only [selectFrom]
    rwa [hend]
  | succ n ih =>
    have hnext : prefixSum (fun j => tpCount (d + j)) (i - d) + tpCount i =
        prefixSum (fun j => tpCount (d + j)) (i + 1 - d) := by
      rw [Nat.succ_sub hd.le, prefixSum_succ, Nat.add_sub_cancel' hd.le]
    have hcount := hfits i (by omega)
    rw [selectFrom, if_pos (readFlags_eq_zero.2 hd.le)]
    dsimp only
    rw [hnext, Nat.mod_eq_of_lt (by omega)]
    split
    · rename_i hle
      exact ih (i + 1) (by omega) (by omega) hle
    · have hend : i - 1 + 1 - d = i - d := by omega
      dsimp only
      rwa [hend]

/-- When every expert fits, a call takes experts from the first pending one on, as
many as fit together. -/
theorem exists_selectChunk {maxTokenNum : Nat} {tpCount : Nat → Nat} (hmax : maxTokenNum < 2 ^ 31) {R : Nat}
    (hfits : ∀ e < R, tpCount e ≤ maxTokenNum) (hd : d < R) :
    ∃ e, selectChunk R maxTokenNum (readFlags d) tpCount = some (d, e) ∧ d ≤ e ∧ e < R ∧
      prefixSum (fun j => tpCount (d + j)) (e + 1 - d) ≤ maxTokenNum := by
  have hcount := hfits d hd
  have hmod : tpCount d % 2 ^ 32 = tpCount d := Nat.mod_eq_of_lt (by omega)
  rcases selectChunk_readFlags maxTokenNum tpCount hd with ⟨-, e, hsel, hde, he⟩ | ⟨hlt, -⟩
  · refine ⟨e, hsel, hde, he, ?_⟩
    have hskip := selectFrom_readFlags maxTokenNum tpCount (R - d) 0 ⟨R, R, false, 0⟩ (Nat.zero_le d)
    rw [show d - 0 + (R - d) = R by omega, show R - d = (R - d - 1) + 1 by omega, selectFrom,
      if_pos (readFlags_eq_zero.2 le_rfl)] at hskip
    dsimp only at hskip
    rw [Nat.zero_add, hmod, if_pos hcount] at hskip
    simp only [Bool.false_eq_true, if_false] at hskip
    have hrun := selectFrom_fits hmax hfits (R - d - 1) (d + 1) (by omega) (Nat.lt_succ_self d)
      (by simpa [prefixSum_succ] using hcount)
    have hfirst : prefixSum (fun j => tpCount (d + j)) (d + 1 - d) = tpCount d := by simp [prefixSum_succ]
    rw [hfirst, Nat.add_sub_cancel] at hrun
    dsimp only at hrun
    unfold selectChunk at hsel
    simp only [hskip] at hsel
    split at hsel
    · obtain ⟨-, rfl⟩ := Prod.mk.inj (Option.some.inj hsel)
      exact hrun
    · cases hsel
  · omega

/-! ## The call -/

/-- The chunk of the experts `d, …, e`: rows within the capacity, the experts one
after the other and for each the ranks of the group. -/
structure RecvChunk.Holds (chunk : RecvChunk V) (sh : CamShape) (w : MoeWindow V)
    (tpAttnRankId d e : Nat) : Prop where
  experts : d ≤ e ∧ e < sh.expertNumPerMoe
  capacity : chunkStart sh w tpAttnRankId d (sh.tpSize * (e + 1 - d)) ≤ sh.maxTokenNum
  info : chunk.batchInfo 1 = tpAttnRankId ∧ chunk.batchInfo 3 = d ∧ chunk.batchInfo 4 = e
  layer : chunk.batchInfo 2 = (w.region tpAttnRankId).layerIndex
  prefixes : ∀ i < sh.tpSize, chunk.batchInfo (INFO_NUM + i) = (w.region (tpAttnRankId + i)).moePreTokenNum
  counts : ∀ i < sh.tpSize, ∀ j < sh.expertNumPerMoe,
    chunk.batchInfo (INFO_NUM + sh.tpSize + sh.expertNumPerMoe * i + j) = w.counts tpAttnRankId i j
  epRecvCountRouted : ∀ j < sh.expertNumPerMoe,
    chunk.epRecvCountRouted j = if d ≤ j ∧ j ≤ e then rowCount (w.counts tpAttnRankId) sh.tpSize j else 0
  rows : ∀ copy ∈ chunkCopies sh w tpAttnRankId d e, chunk.expandXOut copy.1 = copy.2

/-- The window after a chunk that ends at `e`. -/
def MoeWindow.afterChunk (sh : CamShape) (w : MoeWindow V) (tpAttnRankId e : Nat) : MoeWindow V where
  lastAttn := if e = sh.expertNumPerMoe - 1 then (tpAttnRankId + sh.tpSize) % sh.attnRankNum
    else tpAttnRankId
  region := fun r =>
    if tpAttnRankId ≤ r ∧ r < tpAttnRankId + sh.tpSize then
      (w.region r).afterChunk sh (w.region tpAttnRankId).chunkFlag e
    else w.region r

/-- The chunk's rows are there, whatever the order of the cores' copies. -/
theorem phase_receiveRanks (hfits : w.Fits sh tpAttnRankId) (hmax : sh.maxTokenNum < 2 ^ 32) (hde : d ≤ e)
    (he : e < sh.expertNumPerMoe) (order : Schedule) (xOut : Nat → V) {copy : Nat × V}
    (hcopy : copy ∈ chunkCopies sh w tpAttnRankId d e) :
    order.phase xOut sh.moeAivNum (fun aivId => (receiveRanks sh w tpAttnRankId d e aivId).2) copy.1 =
      copy.2 := by
  apply store_of_perm ((order.perm _).trans (receiveRanks_perm hfits hmax hde he))
  · rw [chunkCopies_rows]
    exact List.nodup_range
  · exact hcopy

/-- A call for a group that has announced its dispatch: from the first expert that is
pending it takes the next experts, in whatever order its cores copy. -/
theorem dispatchRecv_eq (hready : ∀ i < sh.tpSize, (w.region (tpAttnRankId + i)).tokenNum ≠ 0)
    (hflags : (w.region tpAttnRankId).chunkFlag = readFlags d) (hd : d < sh.expertNumPerMoe)
    (hfits : w.Fits sh tpAttnRankId) (hmax : sh.maxTokenNum < 2 ^ 31) (order : Schedule)
    (xOut : Nat → V) :
    ∃ e chunk, dispatchRecv sh order xOut w tpAttnRankId = some (chunk, w.afterChunk sh tpAttnRankId e) ∧
      chunk.Holds sh w tpAttnRankId d e := by
  have hcounts : ∀ j < sh.expertNumPerMoe,
      groupCounts sh w tpAttnRankId j = rowCount (w.counts tpAttnRankId) sh.tpSize j := fun j hj => by
    rw [groupCounts_eq hfits (by omega), if_pos hj]
  have hfits' : ∀ j < sh.expertNumPerMoe, groupCounts sh w tpAttnRankId j ≤ sh.maxTokenNum := fun j hj => by
    rw [hcounts j hj]
    exact hfits j hj
  obtain ⟨e, hsel, hde, he, hsum⟩ := exists_selectChunk hmax hfits' hd
  have hcall : dispatchRecv sh order xOut w tpAttnRankId = some
      (⟨tpBatchInfo sh w tpAttnRankId d e,
        fun i => (receiveRanks sh w tpAttnRankId d e 0).1 (sh.expertNumPerMoe + i),
        order.phase xOut sh.moeAivNum fun aivId => (receiveRanks sh w tpAttnRankId d e aivId).2⟩,
        w.afterChunk sh tpAttnRankId e) := by
    have hnone : ¬ ∃ i < sh.tpSize, (w.region (tpAttnRankId + i)).tokenNum = 0 := by
      rintro ⟨i, hi, hzero⟩
      exact hready i hi hzero
    unfold dispatchRecv
    dsimp only
    rw [if_neg hnone, hflags, hsel]
    unfold MoeWindow.afterChunk
    rw [hflags]
    rfl
  refine ⟨e, _, hcall, ⟨hde, he⟩, ?_, ⟨rfl, rfl, rfl⟩, rfl,
    fun i hi => (tpBatchInfo_eq sh w tpAttnRankId d e hi).1,
    fun i hi => (tpBatchInfo_eq sh w tpAttnRankId d e hi).2, fun j hj => ?_, fun copy hcopy => ?_⟩
  · rw [chunkStart, prefixSum_gridCount_rows]
    refine le_of_eq_of_le (prefixSum_congr fun j hj => ?_) hsum
    exact (hcounts (d + j) (by omega)).symm
  · choose owner howner using fun i => exists_cellOwner (w.countsFrom tpAttnRankId d i) (e + 1 - d)
    exact (receiveRanks_eq hfits (by omega) hde he howner sh.moeAivNum_pos).1.received j hj
  · exact phase_receiveRanks hfits (by omega) hde he order xOut hcopy

end Rows

end AfdPlugin.Cam
