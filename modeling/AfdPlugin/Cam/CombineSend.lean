import AfdPlugin.Cam.CombineRecv
import AfdPlugin.Cam.DispatchRecv
/-!
# The way back of a chunk

Combine-send returns the rows of a chunk to the ranks that they came from. Every core
walks the cells of the chunk, the experts one after the other and for each the ranks
of the group, counts what it passes for each rank, and copies the rows of its share.
-/

namespace AfdPlugin.Cam

section Model
variable {V : Type} (sh : CamShape)

/-- Rows of cell `currSendId`, as the batch info has them. -/
def cellTokenNum (info : Nat → Nat) (currSendId : Nat) : Nat :=
  info (INFO_NUM + sh.tpSize + (sh.expertNumPerMoe * (currSendId % sh.tpSize) + currSendId / sh.tpSize))

structure CombineSendState (V : Type) where
  /-- Next row of the chunk. -/
  i : Nat
  currSendId : Nat
  currTokenNumCnt : Nat
  nextTokenNumCnt : Nat
  tpExpertTokenSendCnt : Nat → Nat
  resolvedTpIndex : Nat
  /-- `dstTokenStoreGM`: the rank, and the number of its first row. -/
  dstTokenStore : Nat × Nat
  /-- What each rank gets. -/
  writes : List (Nat × CombineWrite V)

def CombineSendState.nextCell (info : Nat → Nat) (s : CombineSendState V) : CombineSendState V :=
  { s with
    currTokenNumCnt := s.currTokenNumCnt + cellTokenNum sh info s.currSendId
    currSendId := s.currSendId + 1
    nextTokenNumCnt := s.nextTokenNumCnt + cellTokenNum sh info (s.currSendId + 1) }

/-- Rows of earlier cores are counted. -/
def CombineSendState.skip (start tpIndex : Nat) (s : CombineSendState V) : CombineSendState V :=
  let tokenNum := if s.nextTokenNumCnt < start then s.nextTokenNumCnt - s.i else start - s.i
  { s with
    tpExpertTokenSendCnt :=
      Function.update s.tpExpertTokenSendCnt tpIndex (s.tpExpertTokenSendCnt tpIndex + tokenNum)
    i := s.i + tokenNum }

/-- Rows of the core's own share are copied, as many as UB and the cell hold. -/
def CombineSendState.send (info : Nat → Nat) (x : Nat → V) (stop tpIndex : Nat)
    (s : CombineSendState V) : CombineSendState V :=
  let sendTokenNumRemain := stop - s.i
  let expertTokenNumRemain := s.nextTokenNumCnt - s.i
  let cnt := if expertTokenNumRemain < sendTokenNumRemain then expertTokenNumRemain else sendTokenNumRemain
  let cnt := if sh.maxUbTokenNum < cnt then sh.maxUbTokenNum else cnt
  let moeTokenSendIdx := s.tpExpertTokenSendCnt tpIndex
  let dst := if s.resolvedTpIndex ≠ tpIndex then (info 1 + tpIndex, info (INFO_NUM + tpIndex))
    else s.dstTokenStore
  { s with
    resolvedTpIndex := tpIndex
    dstTokenStore := dst
    writes := s.writes ++ (List.range cnt).map fun j =>
      (dst.1, .row (dst.2 + (moeTokenSendIdx + j)) (x (s.i + j)))
    tpExpertTokenSendCnt :=
      Function.update s.tpExpertTokenSendCnt tpIndex (s.tpExpertTokenSendCnt tpIndex + cnt)
    i := s.i + cnt }

/-- A pass of the loop in `CombineSend`. Its inner loop ends at the chunk's last cell
at the latest. -/
def combineSendPass (info : Nat → Nat) (x : Nat → V) (start stop : Nat) (s : CombineSendState V) :
    CombineSendState V :=
  let s := whileLoop (fun s => decide (s.nextTokenNumCnt ≤ s.i)) (CombineSendState.nextCell sh info)
    (sh.tpSize * sh.expertNumPerMoe) s
  let tpIndex := s.currSendId % sh.tpSize
  if s.i < start then s.skip start tpIndex else s.send sh info x stop tpIndex

/-- The rows that a core sends, given `batchInfo` and the expert outputs. Every pass of
its loop takes a row at least. -/
def combineSendRows (info : Nat → Nat) (x : Nat → V) (aivId : Nat) : List (Nat × CombineWrite V) :=
  let startExpert := info 3
  let endExpert := info 4
  let tpInfoOffset := INFO_NUM + sh.tpSize
  let totalTokenNum := forRange 0 sh.tpSize 0 fun n i =>
    forRange startExpert (endExpert + 1 - startExpert) n fun n j =>
      n + info (tpInfoOffset + i * sh.expertNumPerMoe + j)
  let start := Blocks.spread totalTokenNum sh.moeAivNum aivId
  let stop := Blocks.spread totalTokenNum sh.moeAivNum (aivId + 1)
  let sendCnt := fun i =>
    if i < sh.tpSize then
      forRange 0 startExpert 0 fun n j => n + info (tpInfoOffset + i * sh.expertNumPerMoe + j) else 0
  let currSendId := sh.tpSize * startExpert
  (whileLoop (fun s => decide (s.i < stop)) (combineSendPass sh info x start stop) stop
    ⟨0, currSendId, 0, cellTokenNum sh info currSendId, sendCnt, sh.tpSize, (0, 0), []⟩).writes

/-- The flags that a core sets when the chunk has the last expert. -/
def combineSendFlags (V : Type) (info : Nat → Nat) (moeRankId aivId : Nat) : List (Nat × CombineWrite V) :=
  if info 4 = sh.expertNumPerMoe - 1 then
    (List.range sh.tpSize).flatMap fun i =>
      if i % sh.moeAivNum = aivId then [(info 1 + i, .flag moeRankId (info (INFO_NUM + i) + 1))] else []
  else []

/-- `CombineSend` on all cores of MoE rank `moeRankId`. -/
def combineSend (info : Nat → Nat) (x : Nat → V) (moeRankId : Nat) : List (Nat × CombineWrite V) :=
  ((List.range sh.moeAivNum).flatMap fun aivId => combineSendRows sh info x aivId) ++
    (List.range sh.moeAivNum).flatMap fun aivId => combineSendFlags sh V info moeRankId aivId

end Model

/-! ## The walk over the cells -/

section Walk
variable {V : Type} {sh : CamShape} {info : Nat → Nat} {x : Nat → V} {start stop : Nat} {owner : Nat → Nat}
  {s : CombineSendState V}

/-- What the batch info says of the `i`-th rank and expert `j`. -/
def infoCounts (sh : CamShape) (info : Nat → Nat) (i j : Nat) : Nat :=
  info (INFO_NUM + sh.tpSize + (sh.expertNumPerMoe * i + j))

/-- Items of the chunk's cells. -/
def infoCell (sh : CamShape) (info : Nat → Nat) (k : Nat) : Nat :=
  gridCount (fun i j => infoCounts sh info i (info 3 + j)) sh.tpSize k

theorem cellTokenNum_eq (sh : CamShape) (info : Nat → Nat) (k : Nat) :
    cellTokenNum sh info (sh.tpSize * info 3 + k) = infoCell sh info k := by
  rw [infoCell, gridCount_rows _ sh.tpSize_pos]
  rfl

/-- At the `k`-th cell of the chunk. -/
def CombineSendState.atCell (sh : CamShape) (info : Nat → Nat) (s : CombineSendState V) (k : Nat) :
    CombineSendState V :=
  { s with
    currSendId := sh.tpSize * info 3 + k
    currTokenNumCnt := prefixSum (infoCell sh info) k
    nextTokenNumCnt := prefixSum (infoCell sh info) (k + 1) }

theorem nextCell_atCell (k : Nat) : (s.atCell sh info k).nextCell sh info = s.atCell sh info (k + 1) := by
  have hnext := cellTokenNum_eq sh info (k + 1)
  rw [← Nat.add_assoc] at hnext
  unfold CombineSendState.atCell CombineSendState.nextCell
  dsimp only
  rw [cellTokenNum_eq, hnext]
  rfl

structure CombineSendState.AtCell (sh : CamShape) (info : Nat → Nat) (k : Nat)
    (s : CombineSendState V) : Prop where
  currSendId : s.currSendId = sh.tpSize * info 3 + k
  currTokenNumCnt : s.currTokenNumCnt = prefixSum (infoCell sh info) k
  nextTokenNumCnt : s.nextTokenNumCnt = prefixSum (infoCell sh info) (k + 1)

theorem CombineSendState.AtCell.eq {k : Nat} (h : s.AtCell sh info k) : s = s.atCell sh info k := by
  unfold CombineSendState.atCell
  rw [← h.currSendId, ← h.currTokenNumCnt, ← h.nextTokenNumCnt]

theorem CombineSendState.AtCell.tpIndex {k : Nat} (h : s.AtCell sh info k) :
    s.currSendId % sh.tpSize = k % sh.tpSize := by
  rw [h.currSendId, Nat.mul_add_mod]

/-- The rank of a row of the chunk. -/
def rowRank (sh : CamShape) (owner : Nat → Nat) (r : Nat) : Nat := owner r % sh.tpSize

/-- Rows that a rank has got before row `r` of the chunk, those of earlier chunks
included. -/
def sentBefore (sh : CamShape) (info : Nat → Nat) (owner : Nat → Nat) (i r : Nat) : Nat :=
  prefixSum (infoCounts sh info i) (info 3) + occurrences (rowRank sh owner) i r

/-- Where a row of the chunk goes. -/
def rowWrite (sh : CamShape) (info : Nat → Nat) (x : Nat → V) (owner : Nat → Nat) (r : Nat) :
    Nat × CombineWrite V :=
  (info 1 + rowRank sh owner r,
    .row (info (INFO_NUM + rowRank sh owner r) + sentBefore sh info owner (rowRank sh owner r) r) (x r))

/-- The state before a pass. -/
structure SendInv (sh : CamShape) (info : Nat → Nat) (x : Nat → V) (start stop : Nat) (owner : Nat → Nat)
    (s : CombineSendState V) : Prop where
  cell : ∃ k, s.AtCell sh info k ∧ prefixSum (infoCell sh info) k ≤ s.i
  le : s.i ≤ stop
  sendCnt : ∀ i < sh.tpSize, s.tpExpertTokenSendCnt i = sentBefore sh info owner i s.i
  resolved : s.resolvedTpIndex < sh.tpSize →
    s.dstTokenStore = (info 1 + s.resolvedTpIndex, info (INFO_NUM + s.resolvedTpIndex))
  writes : s.writes = (List.range' start (s.i - start)).map (rowWrite sh info x owner)

section Pass
variable {cells k cnt r : Nat} (howner : CellOwner (infoCell sh info) cells owner) (hk : k < cells)
include howner hk

theorem rowRank_of_mem (hle : prefixSum (infoCell sh info) k ≤ r)
    (hlt : r < prefixSum (infoCell sh info) (k + 1)) :
    rowRank sh owner r = k % sh.tpSize :=
  congrArg (· % sh.tpSize) (howner.of_mem hk hle hlt)

/-- Rows of one cell count for its rank. -/
theorem sentBefore_add (hle : prefixSum (infoCell sh info) k ≤ r)
    (hcnt : r + cnt ≤ prefixSum (infoCell sh info) (k + 1)) (i : Nat) :
    sentBefore sh info owner i (r + cnt) = sentBefore sh info owner i r + if k % sh.tpSize = i then
      cnt else 0 := by
  have hcell : ∀ j < cnt, rowRank sh owner (r + j) = k % sh.tpSize := fun j hj =>
    rowRank_of_mem howner hk (by omega) (by omega)
  have hadd := occurrences_add (rowRank sh owner) r hcell i
  rw [sentBefore, sentBefore, hadd, Nat.add_assoc]

/-- The counters after `cnt` rows of a cell. -/
theorem update_sendCnt (hle : prefixSum (infoCell sh info) k ≤ r)
    (hcnt : r + cnt ≤ prefixSum (infoCell sh info) (k + 1)) {sendCnt : Nat → Nat}
    (hsend : ∀ i < sh.tpSize, sendCnt i = sentBefore sh info owner i r) {i : Nat} (hi : i < sh.tpSize) :
    Function.update sendCnt (k % sh.tpSize) (sendCnt (k % sh.tpSize) + cnt) i =
      sentBefore sh info owner i (r + cnt) := by
  have hrank := hsend (k % sh.tpSize) (Nat.mod_lt k sh.tpSize_pos)
  rw [sentBefore_add howner hk hle hcnt, Function.update_apply]
  by_cases h : i = k % sh.tpSize
  · rw [if_pos h, if_pos h.symm, h, hrank]
  · rw [if_neg h, if_neg (Ne.symm h), hsend i hi, Nat.add_zero]

theorem SendInv.skip (h : SendInv sh info x start stop owner s) (hcell : s.AtCell sh info k)
    (hle : prefixSum (infoCell sh info) k ≤ s.i) (hlt : s.i < prefixSum (infoCell sh info) (k + 1))
    (hbefore : s.i < start) (hstop : start ≤ stop) :
    SendInv sh info x start stop owner (s.skip start (k % sh.tpSize)) ∧
      s.i < (s.skip start (k % sh.tpSize)).i := by
  obtain ⟨cnt, hcnt, hpos, hend, hshare⟩ : ∃ cnt, cnt = (if s.nextTokenNumCnt < start then
      s.nextTokenNumCnt - s.i else start - s.i) ∧
      0 < cnt ∧ s.i + cnt ≤ prefixSum (infoCell sh info) (k + 1) ∧ s.i + cnt ≤ start := by
    refine ⟨_, rfl, ?_⟩
    rw [hcell.nextTokenNumCnt]
    split <;> omega
  have hskip : s.skip start (k % sh.tpSize) = { s with
      tpExpertTokenSendCnt := Function.update s.tpExpertTokenSendCnt (k % sh.tpSize)
        (s.tpExpertTokenSendCnt (k % sh.tpSize) + cnt)
      i := s.i + cnt } := by
    rw [hcnt]
    rfl
  rw [hskip]
  refine ⟨⟨⟨k, ⟨hcell.currSendId, hcell.currTokenNumCnt,
    hcell.nextTokenNumCnt⟩, by dsimp only; omega⟩, by dsimp only; omega,
    fun i hi => update_sendCnt howner hk hle hend h.sendCnt hi, h.resolved, ?_⟩, by dsimp only; omega⟩
  have hnone : s.writes = [] := by
    rw [h.writes, Nat.sub_eq_zero_of_le hbefore.le]
    rfl
  dsimp only
  rw [hnone, Nat.sub_eq_zero_of_le hshare]
  rfl

theorem SendInv.send (h : SendInv sh info x start stop owner s) (hcell : s.AtCell sh info k)
    (hle : prefixSum (infoCell sh info) k ≤ s.i) (hlt : s.i < prefixSum (infoCell sh info) (k + 1))
    (hafter : start ≤ s.i) (hstop : s.i < stop) :
    SendInv sh info x start stop owner (s.send sh info x stop (k % sh.tpSize)) ∧
      s.i < (s.send sh info x stop (k % sh.tpSize)).i := by
  have hrank := Nat.mod_lt k sh.tpSize_pos
  have hub := sh.maxUbTokenNum_pos
  generalize hdst : (if s.resolvedTpIndex ≠ k % sh.tpSize then
    (info 1 + k % sh.tpSize, info (INFO_NUM + k % sh.tpSize)) else s.dstTokenStore) = dst
  have hdst' : dst = (info 1 + k % sh.tpSize, info (INFO_NUM + k % sh.tpSize)) := by
    rw [← hdst]
    split
    · rfl
    · rename_i hsame
      rw [ne_eq, not_not] at hsame
      rw [h.resolved (by rw [hsame]; exact hrank), hsame]
  obtain ⟨cnt, hcnt, hpos, hend, hshare⟩ : ∃ cnt, cnt =
      (let cnt := if s.nextTokenNumCnt - s.i < stop - s.i then s.nextTokenNumCnt - s.i else stop - s.i
      if sh.maxUbTokenNum < cnt then sh.maxUbTokenNum else cnt) ∧
      0 < cnt ∧ s.i + cnt ≤ prefixSum (infoCell sh info) (k + 1) ∧ s.i + cnt ≤ stop := by
    refine ⟨_, rfl, ?_⟩
    rw [hcell.nextTokenNumCnt]
    dsimp only
    split <;> split <;> omega
  have hsend : s.send sh info x stop (k % sh.tpSize) = { s with
      resolvedTpIndex := k % sh.tpSize
      dstTokenStore := dst
      writes := s.writes ++ (List.range cnt).map fun j =>
        (dst.1, .row (dst.2 + (s.tpExpertTokenSendCnt (k % sh.tpSize) + j)) (x (s.i + j)))
      tpExpertTokenSendCnt := Function.update s.tpExpertTokenSendCnt (k % sh.tpSize)
        (s.tpExpertTokenSendCnt (k % sh.tpSize) + cnt)
      i := s.i + cnt } := by
    rw [hcnt, ← hdst]
    rfl
  rw [hsend]
  refine ⟨⟨⟨k, ⟨hcell.currSendId, hcell.currTokenNumCnt,
    hcell.nextTokenNumCnt⟩, by dsimp only; omega⟩, by dsimp only; omega,
    fun i hi => update_sendCnt howner hk hle hend h.sendCnt hi, fun _ => hdst',
    ?_⟩, by dsimp only; omega⟩
  dsimp only
  have hlen : s.i + cnt - start = (s.i - start) + cnt := by omega
  have hnew : List.range' s.i cnt = (List.range cnt).map (s.i + ·) := List.range'_eq_map_range
  rw [h.writes, hlen, ← List.range'_append_1, List.map_append, Nat.add_sub_cancel' hafter, hnew,
    List.map_map, hdst']
  congr 1
  apply List.map_congr_left
  intro j hj
  rw [List.mem_range] at hj
  have hj' : rowRank sh owner (s.i + j) = k % sh.tpSize := rowRank_of_mem howner hk (by omega) (by omega)
  have hend' : s.i + j ≤ prefixSum (infoCell sh info) (k + 1) := by omega
  have hsent := sentBefore_add howner hk hle hend' (k % sh.tpSize)
  rw [if_pos rfl] at hsent
  rw [Function.comp_apply, rowWrite, hj', hsent, h.sendCnt _ hrank]

end Pass

/-- A pass takes rows of one cell. -/
theorem combineSendPass_inv {cells : Nat} (howner : CellOwner (infoCell sh info) cells owner)
    (hcells : cells ≤ sh.tpSize * sh.expertNumPerMoe) (hstart : start ≤ stop)
    (hstop : stop ≤ prefixSum (infoCell sh info) cells) (h : SendInv sh info x start stop owner s)
    (hlt : s.i < stop) :
    SendInv sh info x start stop owner (combineSendPass sh info x start stop s) ∧
      s.i < (combineSendPass sh info x start stop s).i := by
  obtain ⟨k, hcell, hk⟩ := h.cell
  obtain ⟨k', -, hk', hle, hend, hseek⟩ :=
    whileLoop_seek (c := fun t => decide (t.nextTokenNumCnt ≤ t.i))
      (f := CombineSendState.nextCell sh info) (r := s.i) (n := cells) (s.atCell sh info)
      (infoCell sh info) nextCell_atCell (fun _ => rfl) (sh.tpSize * sh.expertNumPerMoe) hk
      (by omega) (by omega)
  rw [← hcell.eq] at hseek
  have hcell' : (s.atCell sh info k').AtCell sh info k' := ⟨rfl, rfl, rfl⟩
  have hinv : SendInv sh info x start stop owner (s.atCell sh info k') :=
    ⟨⟨k', hcell', hle⟩, h.le, h.sendCnt, h.resolved, h.writes⟩
  unfold combineSendPass
  dsimp only
  rw [hseek, hcell'.tpIndex]
  by_cases hbefore : (s.atCell sh info k').i < start
  · rw [if_pos hbefore]
    exact hinv.skip howner hk' hcell' hle hend hbefore hstart
  · rw [if_neg hbefore]
    exact hinv.send howner hk' hcell' hle hend (by omega) hlt

/-- The loops that sum the batch info's counts. -/
theorem forRange_info (i d n a : Nat) :
    forRange d n a (fun n j => n + info (INFO_NUM + sh.tpSize + i * sh.expertNumPerMoe + j)) =
      a + prefixSum (fun j => infoCounts sh info i (d + j)) n := by
  induction n with
  | zero => rfl
  | succ n ih =>
    rw [forRange_succ, ih, prefixSum_succ, infoCounts, Nat.mul_comm i]
    simp only [Nat.add_assoc]

theorem totalTokenNum_eq (d L : Nat) :
    forRange 0 sh.tpSize 0 (fun n i =>
      forRange d L n fun n j => n + info (INFO_NUM + sh.tpSize + i * sh.expertNumPerMoe + j)) =
      prefixSum (rowCount (fun i j => infoCounts sh info i (d + j)) sh.tpSize) L := by
  rw [prefixSum_rowCount]
  simp only [forRange_info, forRange_sum, Nat.zero_add]

/-- A core sends the rows of its share. -/
theorem combineSendRows_eq {total aivId : Nat} (hexperts : info 4 < sh.expertNumPerMoe)
    (hchunk : info 3 ≤ info 4)
    (howner : CellOwner (infoCell sh info) (sh.tpSize * (info 4 + 1 - info 3)) owner)
    (htotal : prefixSum (infoCell sh info) (sh.tpSize * (info 4 + 1 - info 3)) = total)
    (haiv : aivId < sh.moeAivNum) :
    combineSendRows sh info x aivId =
      (Blocks.block (Blocks.spread total sh.moeAivNum) aivId).map (rowWrite sh info x owner) := by
  have hsum : prefixSum (rowCount (fun i j => infoCounts sh info i (info 3 + j)) sh.tpSize)
      (info 4 + 1 - info 3) = total := by
    rw [← htotal, ← prefixSum_gridCount_rows]
    rfl
  have hle : Blocks.spread total sh.moeAivNum aivId ≤ Blocks.spread total sh.moeAivNum (aivId + 1) :=
    Blocks.spread_le_succ _ _ _
  have hend : Blocks.spread total sh.moeAivNum (aivId + 1) ≤ total :=
    Blocks.spread_le total haiv sh.moeAivNum_pos
  unfold combineSendRows Blocks.block
  dsimp only
  rw [totalTokenNum_eq, hsum]
  generalize Blocks.spread total sh.moeAivNum (aivId + 1) = stop at *
  generalize Blocks.spread total sh.moeAivNum aivId = start at *
  have hcells : sh.tpSize * (info 4 + 1 - info 3) ≤ sh.tpSize * sh.expertNumPerMoe :=
    Nat.mul_le_mul_left _ (by omega)
  have hstart : SendInv sh info x start stop owner ⟨0, sh.tpSize * info 3, 0,
      cellTokenNum sh info (sh.tpSize * info 3),
      fun i => if i < sh.tpSize then
        forRange 0 (info 3) 0 fun n j =>
          n + info (INFO_NUM + sh.tpSize + i * sh.expertNumPerMoe + j) else 0,
      sh.tpSize, (0, 0), []⟩ := by
    refine ⟨⟨0, ⟨rfl, rfl, ?_⟩, Nat.zero_le _⟩, Nat.zero_le _, fun i hi => ?_,
      fun h => absurd h (Nat.lt_irrefl _), ?_⟩
    · have hcell := cellTokenNum_eq sh info 0
      rw [Nat.add_zero] at hcell
      rw [prefixSum_succ, prefixSum_zero, Nat.zero_add, ← hcell]
    · dsimp only
      rw [if_pos hi, forRange_info, sentBefore, occurrences_zero, Nat.zero_add, Nat.add_zero]
      simp only [Nat.zero_add]
    · simp
  obtain ⟨hinv, hdone⟩ := whileLoop_inv (c := fun s => decide (s.i < stop))
      (f := combineSendPass sh info x start stop) (SendInv sh info x start stop owner)
      (fun s => stop - s.i) (fun s hs hlt => by
      have hlt' : s.i < stop := of_decide_eq_true hlt
      obtain ⟨hnext, hmore⟩ := combineSendPass_inv howner hcells hle (by omega) hs hlt'
      exact ⟨hnext, by omega⟩) stop hstart (Nat.sub_le _ _)
  have hlast := of_decide_eq_false hdone
  rw [hinv.writes, Nat.le_antisymm hinv.le (Nat.le_of_not_lt hlast)]

/-! ## What goes back -/

/-- A row's destination, by its cell: its slot of the rank's region. -/
theorem rowWrite_cell {cells : Nat} (howner : CellOwner (infoCell sh info) cells owner) {k o : Nat}
    (hk : k < cells) (ho : o < infoCell sh info k) :
    rowWrite sh info x owner (prefixSum (infoCell sh info) k + o) =
      (info 1 + k % sh.tpSize, .row (info (INFO_NUM + k % sh.tpSize) +
        (prefixSum (infoCounts sh info (k % sh.tpSize)) (info 3 + k / sh.tpSize) + o))
          (x (prefixSum (infoCell sh info) k + o))) := by
  have hrank : rowRank sh owner (prefixSum (infoCell sh info) k + o) = k % sh.tpSize :=
    congrArg (· % sh.tpSize) (howner.eq hk ho)
  have hocc := occurrences_cell (c := fun i j => infoCounts sh info i (info 3 + j)) sh.tpSize_pos
    howner hk ho.le
  have hfirsts : prefixSum (infoCounts sh info (k % sh.tpSize)) (info 3 + k / sh.tpSize) =
    prefixSum (infoCounts sh info (k % sh.tpSize)) (info 3) + prefixSum
    (fun j => infoCounts sh info (k % sh.tpSize) (info 3 + j)) (k / sh.tpSize) := prefixSum_add _ _ _
  have hsent : sentBefore sh info owner (k % sh.tpSize) (prefixSum (infoCell sh info) k + o) =
      prefixSum (infoCounts sh info (k % sh.tpSize)) (info 3 + k / sh.tpSize) + o := by
    rw [sentBefore, hfirsts, Nat.add_assoc]
    exact congrArg _ hocc
  rw [rowWrite, hrank, hsent]

/-- The rows that all cores send: cell after cell, each row once. -/
theorem flatMap_combineSendRows (hexperts : info 4 < sh.expertNumPerMoe) (hchunk : info 3 ≤ info 4)
    (x : Nat → V) :
    ((List.range sh.moeAivNum).flatMap fun aivId => combineSendRows sh info x aivId) =
      (List.range (sh.tpSize * (info 4 + 1 - info 3))).flatMap fun k =>
        (List.range (infoCell sh info k)).map fun o =>
        (info 1 + k % sh.tpSize, .row (info (INFO_NUM + k % sh.tpSize) +
          (prefixSum (infoCounts sh info (k % sh.tpSize)) (info 3 + k / sh.tpSize) + o))
            (x (prefixSum (infoCell sh info) k + o))) := by
  obtain ⟨owner, howner⟩ := exists_cellOwner (infoCell sh info) (sh.tpSize * (info 4 + 1 - info 3))
  have hcores : ((List.range sh.moeAivNum).flatMap fun aivId => combineSendRows sh info x aivId) =
      (List.range sh.moeAivNum).flatMap fun aivId => (Blocks.block (Blocks.spread
        (prefixSum (infoCell sh info) (sh.tpSize * (info 4 + 1 - info 3))) sh.moeAivNum) aivId).map
            (rowWrite sh info x owner) :=
    List.flatMap_congr fun aivId haiv =>
      combineSendRows_eq hexperts hchunk howner rfl (List.mem_range.1 haiv)
  rw [hcores, flatMap_spread _ sh.moeAivNum_pos]
  refine (howner.map_range fun _ r => rowWrite sh info x owner r).trans ?_
  apply List.flatMap_congr
  intro k hk
  apply List.map_congr_left
  intro o ho
  exact rowWrite_cell howner (List.mem_range.1 hk) (List.mem_range.1 ho)

/-- The flags that all cores set: one for each rank, after the last chunk. -/
theorem combineSendFlags_perm (moeRankId : Nat) :
    ((List.range sh.moeAivNum).flatMap fun aivId => combineSendFlags sh V info moeRankId aivId).Perm
      (if info 4 = sh.expertNumPerMoe - 1 then
        (List.range sh.tpSize).map fun i => (info 1 + i, .flag moeRankId (info (INFO_NUM + i) + 1))
      else []) := by
  unfold combineSendFlags
  split
  · refine (flatMap_swap_perm _ _ _).trans (List.Perm.of_eq ?_)
    rw [List.map_eq_flatMap]
    apply List.flatMap_congr
    intro i _
    have hmod : i % sh.moeAivNum < sh.moeAivNum := Nat.mod_lt i sh.moeAivNum_pos
    -- one core has this rank
    obtain ⟨l, l', hsplit⟩ := List.append_of_mem (List.mem_range.2 hmod)
    have hnodup : (l ++ i % sh.moeAivNum :: l').Nodup := hsplit ▸ List.nodup_range
    have hnotin := (List.nodup_middle.1 hnodup).notMem
    rw [List.mem_append, not_or] at hnotin
    have hnone : ∀ l : List Nat, i % sh.moeAivNum ∉ l → (l.flatMap fun aivId =>
        if i % sh.moeAivNum = aivId then
            [(info 1 + i, CombineWrite.flag (V := V) moeRankId (info (INFO_NUM + i) + 1))]
            else []) = [] := by
      intro l hl
      rw [List.flatMap_eq_nil_iff]
      intro aivId haiv
      have hne : i % sh.moeAivNum ≠ aivId := by
        rintro rfl
        exact hl haiv
      rw [if_neg hne]
    rw [hsplit, List.flatMap_append, List.flatMap_cons, hnone l hnotin.1, hnone l' hnotin.2, if_pos rfl]
    rfl
  · apply List.Perm.of_eq
    simp

end Walk

end AfdPlugin.Cam
