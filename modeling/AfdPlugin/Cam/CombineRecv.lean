import AfdPlugin.Cam.Counters
import AfdPlugin.Cam.SharedStats
/-!
# The two variants of combine-recv

A core of combine-recv adds up the rows that come back for its tokens. It finds an
assignment's row by how often the expert was named before. One variant passes the
routing table from its first entry to count that; the other one begins at the core's
own entries, with the counts that dispatch-send has left in the table.
-/

namespace AfdPlugin.Cam

section Model
variable {V S F : Type} (sh : CamShape) (b : Batch V S)

/-- An Attention rank's window: its words from the start on, and the rows that come
back, by number. -/
structure AttnWindow (V : Type) where
  word : Nat → Nat
  row : Nat → V

/-- First word of the completion flags. -/
def CamShape.dispatchOffset : Nat := roundUp UB_ALIGN (4 * sh.statEntriesPerAiv * MAX_AIV_NUM) / 4

/-- What combine-send of a MoE rank writes. -/
inductive CombineWrite (V : Type) where
  | flag (moeRankId value : Nat)
  | row (i : Nat) (x : V)

namespace AttnWindow
variable (w : AttnWindow V)

def moeFlag (moeRankId : Nat) : Nat := w.word (sh.dispatchOffset + moeRankId)

def write : CombineWrite V → AttnWindow V
  | .flag moeRankId value => { w with word := Function.update w.word (sh.dispatchOffset + moeRankId) value }
  | .row i x => { w with row := Function.update w.row i x }

def after (writes : List (CombineWrite V)) : AttnWindow V := writes.foldl (write sh) w

end AttnWindow

/-- Vector arithmetic on rows. -/
structure RowOps (V S F : Type) where
  zero : F
  cast : V → F
  muls : F → S → F
  add : F → F → F
  round : F → V

/-- What UB holds before. -/
structure CombineUb (F : Type) where
  expertPrefixOffset : Nat → Nat
  sumFloatBuf : F

/-- `LoadPreProcess`. -/
def loadPreProcess (w : AttnWindow V) : Nat → Nat := fun expertId =>
  u16 (sh.statAt w.word (sh.attnAivNum - 1, sh.moeRankNum + expertId))

/-- Prefixes of the counts of a MoE rank's experts. -/
def rankPrefixes (expertRecvTokenNum : Nat → Nat) (moeRankId : Nat) (expertPrefixOffset : Nat → Nat) :
    Nat → Nat :=
  (forRange 0 sh.expertNumPerMoe ((0 : Nat), expertPrefixOffset) fun s localExpertId =>
    let expertId := moeRankId * sh.expertNumPerMoe + localExpertId
    (s.1 + expertRecvTokenNum expertId, Function.update s.2 expertId s.1)).2

def expertPrefixes (expertRecvTokenNum expertPrefixOffset : Nat → Nat) : Nat → Nat :=
  forRange 0 sh.moeRankNum expertPrefixOffset fun offset moeRankId =>
    rankPrefixes sh expertRecvTokenNum moeRankId offset

/-- What a core begins the routing table with. -/
structure CombineStart where
  expertRecvStartIdx : Nat → Nat
  expertPrefixOffset : Nat → Nat

/-- `PreProcess`, up to its wait. The counts of the cores before it land in the buffer
of the prefixes first. -/
def combinePreProcess (useDispatchPrefix : Bool) (ub : CombineUb F) (expertRecvTokenNum : Nat → Nat)
    (w : AttnWindow V) (aivId : Nat) : CombineStart :=
  if useDispatchPrefix ∧ 0 < aivId then
    let seeds := fun expertId =>
      if expertId < sh.expertNum then sh.statAt w.word (aivId - 1, sh.moeRankNum + expertId)
      else ub.expertPrefixOffset expertId
    ⟨fun expertId => if expertId < sh.expertNum then u16 (seeds expertId) else 0,
      expertPrefixes sh expertRecvTokenNum seeds⟩
  else ⟨fun _ => 0, expertPrefixes sh expertRecvTokenNum ub.expertPrefixOffset⟩

structure CombineState (V F : Type) where
  expertRecvStartIdx : Nat → Nat
  sumFloatBuf : F
  /-- Row that was read for an entry. -/
  rows : List (Nat × Nat)
  xOut : List (Nat × V)

/-- Adds the row of an entry to its token's sum. -/
def accumulate (ops : RowOps V S F) (w : AttnWindow V) (s : CombineState V F) (topkId row : Nat) :
    CombineState V F :=
  let sum := if topkId % sh.topk = 0 then ops.zero else s.sumFloatBuf
  let sum := ops.add sum (ops.muls (ops.cast (w.row row)) (b.expertScales topkId))
  { s with
    sumFloatBuf := sum
    rows := s.rows ++ [(topkId, row)]
    xOut := if topkId % sh.topk = sh.topk - 1 then s.xOut ++ [(topkId / sh.topk, ops.round sum)]
      else s.xOut }

/-- One entry of the routing table. -/
def combineStep (ops : RowOps V S F) (expertPrefixOffset : Nat → Nat) (w : AttnWindow V) (aivId : Nat)
    (s : CombineState V F) (topkId : Nat) : CombineState V F :=
  let moeRankId := b.moeRank sh topkId
  let expertId := b.expertIds topkId
  let expertTokenSendIdx := s.expertRecvStartIdx expertId
  let tokenId := topkId / sh.topk
  -- the loop ends here
  if b.aivStart sh (aivId + 1) ≤ tokenId then s
  else
    let moePrefixTokenNum := w.moeFlag sh moeRankId - 1
    let s :=
      if b.aivStart sh aivId ≤ tokenId ∧ tokenId < b.aivStart sh (aivId + 1) then
        accumulate sh b ops w s topkId
          (moePrefixTokenNum + (expertPrefixOffset expertId + expertTokenSendIdx))
      else s
    { s with
      expertRecvStartIdx := Function.update s.expertRecvStartIdx expertId (u16 (expertTokenSendIdx + 1)) }

structure CombineOutcome (V : Type) where
  rows : List (Nat × Nat)
  xOut : List (Nat × V)
  /-- Flags that are cleared for the next round. -/
  cleared : List Nat

/-- `CombineRecv` of a core, from the windows that it finds when it loads the counts,
when it loads its start, and when it sees the flags. Until all of them are set it
waits. -/
def combineRecv (ops : RowOps V S F) (room : KernelRoom) (useDispatchPrefix : Bool) (ub : CombineUb F)
    (loaded seeded ready : AttnWindow V) (aivId : Nat) : Option (CombineOutcome V) :=
  if ¬ room.statistics ∨ ¬ room.buffers then some ⟨[], [], []⟩
  else if ∃ m < sh.moeRankNum, ready.moeFlag sh m = 0 then none
  else
    let start := combinePreProcess sh useDispatchPrefix ub (loadPreProcess sh loaded) seeded aivId
    let topkStart := if useDispatchPrefix then sh.topk * b.aivStart sh aivId else 0
    let s := forRange topkStart (sh.topk * b.aivStart sh (aivId + 1) - topkStart)
      ⟨start.expertRecvStartIdx, ub.sumFloatBuf, [], []⟩
      (combineStep sh b ops start.expertPrefixOffset ready aivId)
    some ⟨s.rows, s.xOut, if aivId = 0 then List.range sh.moeRankNum else []⟩

/-- The host's choice of the variant. -/
def Batch.useDispatchPrefix : Bool := sh.attnAivNum < b.batchSize

end Model

/-! ## What both variants start with -/

section Start
variable {V S F : Type} {sh : CamShape} {b : Batch V S} {w : AttnWindow V} {mem mem' : Nat → Nat}
  {aivId : Nat}

/-- The table ends before the flags. -/
theorem statAddr_lt_dispatchOffset (haiv : sh.attnAivNum ≤ MAX_AIV_NUM) {c col : Nat}
    (hc : c < sh.attnAivNum) (hcol : col < sh.statEntriesPerAiv) :
    sh.statAddr (c, col) < sh.dispatchOffset := by
  have hlt := statAddr_lt hc hcol
  have hle := Nat.mul_le_mul_left sh.statEntriesPerAiv haiv
  unfold CamShape.dispatchOffset
  unfold MAX_AIV_NUM at hle ⊢
  rw [UB_ALIGN, roundUp_32]
  omega

/-- Combine-send leaves the table alone. -/
theorem statAt_after (haiv : sh.attnAivNum ≤ MAX_AIV_NUM) (writes : List (CombineWrite V)) {c col : Nat}
    (hc : c < sh.attnAivNum) (hcol : col < sh.statEntriesPerAiv) :
    sh.statAt (w.after sh writes).word (c, col) = sh.statAt w.word (c, col) := by
  induction writes generalizing w with
  | nil => rfl
  | cons write writes ih =>
    have hnext : w.after sh (write :: writes) = (w.write sh write).after sh writes := rfl
    rw [hnext, ih]
    cases write with
    | flag moeRankId value =>
      have haddr := statAddr_lt_dispatchOffset haiv hc hcol
      exact Function.update_of_ne (by omega) _ _
    | row i x => rfl

theorem statTable_after (haiv : sh.attnAivNum ≤ MAX_AIV_NUM) (hstat : StatTable sh b (sh.statAt w.word))
    (writes : List (CombineWrite V)) : StatTable sh b (sh.statAt (w.after sh writes).word) := by
  intro c hc col hcol
  rw [statAt_after haiv writes hc hcol]
  exact hstat c hc col hcol

/-- The inner loop gives the rank's experts their prefixes and leaves those before
alone. -/
theorem rankPrefixes_eq (sh : CamShape) (counts : Nat → Nat) (m : Nat) (t : Nat → Nat) :
    (∀ i < sh.expertNumPerMoe, rankPrefixes sh counts m t (m * sh.expertNumPerMoe + i) =
        prefixSum (fun i => counts (m * sh.expertNumPerMoe + i)) i) ∧
      ∀ e < m * sh.expertNumPerMoe, rankPrefixes sh counts m t e = t e := by
  have hloop := forRange_inv (a := 0) (n := sh.expertNumPerMoe) (s := ((0 : Nat), t))
    (f := fun s i => (s.1 + counts (m * sh.expertNumPerMoe + i),
      Function.update s.2 (m * sh.expertNumPerMoe + i) s.1))
    (fun n s => s.1 = prefixSum (fun i => counts (m * sh.expertNumPerMoe + i)) n ∧
      (∀ i < n, s.2 (m * sh.expertNumPerMoe + i) =
        prefixSum (fun i => counts (m * sh.expertNumPerMoe + i)) i) ∧ ∀ e < m * sh.expertNumPerMoe,
      s.2 e = t e) ⟨rfl, fun _ h => absurd h (Nat.not_lt_zero _), fun _ _ => rfl⟩
    (fun n s _ _ ⟨hsum, hdone, hrest⟩ => ?_)
  · rw [Nat.zero_add] at hloop
    exact hloop.2
  · refine ⟨by rw [prefixSum_succ, hsum], fun i hi => ?_, fun e he => ?_⟩
    · dsimp only
      rcases Nat.lt_succ_iff_lt_or_eq.1 hi with hlt | rfl
      · rw [Function.update_of_ne (by omega)]
        exact hdone i hlt
      · rw [Function.update_self, hsum]
    · dsimp only
      rw [Function.update_of_ne (by omega)]
      exact hrest e he

/-- The loops give each expert the counts before it at its MoE rank, whatever the
buffer had. -/
theorem expertPrefixes_eq (counts offset : Nat → Nat) {e : Nat} (he : e < sh.expertNum) :
    expertPrefixes sh counts offset e =
      prefixSum (fun i => counts (e / sh.expertNumPerMoe * sh.expertNumPerMoe + i))
        (e % sh.expertNumPerMoe) := by
  have hloop := forRange_inv (a := 0) (n := sh.moeRankNum) (s := offset)
    (f := fun offset moeRankId => rankPrefixes sh counts moeRankId offset)
    (fun n t => ∀ m < n, ∀ i < sh.expertNumPerMoe, t (m * sh.expertNumPerMoe + i) =
      prefixSum (fun i => counts (m * sh.expertNumPerMoe + i)) i)
    (fun _ h => absurd h (Nat.not_lt_zero _))
    (fun n t _ _ hdone m hm i hi => ?_)
  · have hrank : e / sh.expertNumPerMoe < sh.moeRankNum := Nat.div_lt_of_lt_mul he
    have hvalue := hloop (e / sh.expertNumPerMoe) (by omega) (e % sh.expertNumPerMoe)
      (Nat.mod_lt e sh.expertNumPerMoe_pos)
    rwa [Nat.div_add_mod'] at hvalue
  · obtain ⟨hself, hrest⟩ := rankPrefixes_eq sh counts n t
    rcases Nat.lt_succ_iff_lt_or_eq.1 hm with hlt | rfl
    · rw [hrest, hdone m hlt i hi]
      calc m * sh.expertNumPerMoe + i < (m + 1) * sh.expertNumPerMoe := by rw [Nat.succ_mul]; omega
        _ ≤ n * sh.expertNumPerMoe := Nat.mul_le_mul_right _ hlt
    · exact hself i hi

/-- Row that an entry reads: after the rows of other MoE ranks and other experts,
the one of its occurrence. -/
def combineRow (sh : CamShape) (b : Batch V S) (w : AttnWindow V) (q : Nat) : Nat :=
  w.moeFlag sh (b.moeRank sh q) - 1 +
    (prefixSum (fun i => u16 (b.localCounts sh (b.moeRank sh q) i)) (b.localExpert sh q) +
      u16 (occurrences b.expertIds (b.expertIds q) q))

variable {loaded seeded : AttnWindow V} (useDispatchPrefix : Bool) (ub : CombineUb F)

theorem combinePreProcess_index (hseeded : StatTable sh b (sh.statAt seeded.word))
    (hc : aivId < sh.attnAivNum) (counts : Nat → Nat) {e : Nat} (he : e < sh.expertNum) :
    (combinePreProcess sh useDispatchPrefix ub counts seeded aivId).expertRecvStartIdx e =
      u16 (occurrences b.expertIds e (recvFirst sh b useDispatchPrefix aivId)) := by
  unfold combinePreProcess recvFirst
  cases useDispatchPrefix with
  | false => simp
  | true =>
    rcases Nat.eq_zero_or_pos aivId with rfl | hpos
    · simp [Batch.aivStart]
    · have hprev := hseeded.expert (c := aivId - 1) (by omega) he
      rw [Nat.sub_add_cancel hpos] at hprev
      simp [hpos, he, hprev]

theorem combinePreProcess_offset (hloaded : StatTable sh b (sh.statAt loaded.word)) {q : Nat}
    (hq : b.expertIds q < sh.expertNum) :
    (combinePreProcess sh useDispatchPrefix ub (loadPreProcess sh loaded) seeded
      aivId).expertPrefixOffset (b.expertIds q) =
      prefixSum (fun i => u16 (b.localCounts sh (b.moeRank sh q) i)) (b.localExpert sh q) := by
  have hprefix : ∀ offset, expertPrefixes sh (loadPreProcess sh loaded) offset (b.expertIds q) =
      prefixSum (fun i => u16 (b.localCounts sh (b.moeRank sh q) i)) (b.localExpert sh q) := by
    intro offset
    rw [expertPrefixes_eq _ _ hq]
    apply prefixSum_congr
    intro i hi
    have hle := Nat.div_mul_le_self (b.expertIds q) sh.expertNumPerMoe
    have hsplit := Nat.div_add_mod' (b.expertIds q) sh.expertNumPerMoe
    rw [loadPreProcess, hloaded.total (by omega), Batch.localCounts, Batch.moeRank,
      Nat.mul_comm sh.expertNumPerMoe]
  unfold combinePreProcess
  split
  · exact hprefix _
  · exact hprefix _

end Start

/-! ## The passes -/

section Loop
variable {V S F : Type} {sh : CamShape} {b : Batch V S} (ops : RowOps V S F) {w : AttnWindow V}
  {aivId p : Nat} {s : CombineState V F} {offset : Nat → Nat}

/-- Sum of the first `k` rows of a token. -/
def tokenSum (sh : CamShape) (b : Batch V S) (w : AttnWindow V) (t k : Nat) : F :=
  (List.range' (t * sh.topk) k).foldl
    (fun sum q => ops.add sum (ops.muls (ops.cast (w.row (combineRow sh b w q))) (b.expertScales q)))
    ops.zero

theorem tokenSum_succ (t k : Nat) : tokenSum ops sh b w t (k + 1) = ops.add (tokenSum ops sh b w t k)
    (ops.muls (ops.cast (w.row (combineRow sh b w (t * sh.topk + k))))
      (b.expertScales (t * sh.topk + k))) := by
  rw [tokenSum, List.range'_concat, List.foldl_append, Nat.one_mul]
  rfl

/-- What a core reads and outputs. -/
def coreRows (sh : CamShape) (b : Batch V S) (w : AttnWindow V) (aivId p : Nat) : List (Nat × Nat) :=
  (List.range' (sh.topk * b.aivStart sh aivId) (p - sh.topk * b.aivStart sh aivId)).map fun q =>
    (q, combineRow sh b w q)

def coreXOut (sh : CamShape) (b : Batch V S) (w : AttnWindow V) (aivId t : Nat) : List (Nat × V) :=
  (List.range' (b.aivStart sh aivId) (t - b.aivStart sh aivId)).map fun t =>
    (t, ops.round (tokenSum ops sh b w t sh.topk))

/-- The state before entry `p`, in either variant. Before its own tokens a core only
counts. -/
structure CombineInv (sh : CamShape) (b : Batch V S) (w : AttnWindow V) (aivId p : Nat)
    (s : CombineState V F) : Prop where
  index : ∀ e < sh.expertNum, s.expertRecvStartIdx e = u16 (occurrences b.expertIds e p)
  sum : sh.topk * b.aivStart sh aivId ≤ p → p % sh.topk ≠ 0 →
    s.sumFloatBuf = tokenSum ops sh b w (p / sh.topk) (p % sh.topk)
  rows : s.rows = coreRows sh b w aivId p
  xOut : s.xOut = coreXOut ops sh b w aivId (p / sh.topk)

variable {ops}

/-- The sum that a pass adds to. -/
theorem CombineInv.sumFloatBuf (h : CombineInv ops sh b w aivId p s)
    (hown : sh.topk * b.aivStart sh aivId ≤ p) :
    (if p % sh.topk = 0 then ops.zero else s.sumFloatBuf) =
      tokenSum ops sh b w (p / sh.topk) (p % sh.topk) := by
  split
  · rename_i hfirst
    rw [hfirst]
    rfl
  · rename_i hlater
    exact h.sum hown hlater

/-- A core's own entry: its row is read and added, and the last one of a token
outputs the sum. -/
theorem CombineInv.accumulate (h : CombineInv ops sh b w aivId p s)
    (hown : sh.topk * b.aivStart sh aivId ≤ p) :
    let s' := accumulate sh b ops w s p (combineRow sh b w p)
    ((p + 1) % sh.topk ≠ 0 → s'.sumFloatBuf = tokenSum ops sh b w ((p + 1) / sh.topk) ((p + 1) % sh.topk)) ∧
      s'.rows = coreRows sh b w aivId (p + 1) ∧
        s'.xOut = coreXOut ops sh b w aivId ((p + 1) / sh.topk) := by
  intro s'
  have hpos := sh.topk_pos
  have hmod := Nat.mod_lt p hpos
  have hsplit := Nat.div_add_mod' p sh.topk
  have hstart : b.aivStart sh aivId ≤ p / sh.topk := (Nat.le_div_iff_mul_le hpos).2 (by rwa [Nat.mul_comm])
  have hsum : s'.sumFloatBuf = tokenSum ops sh b w (p / sh.topk) (p % sh.topk + 1) := by
    rw [tokenSum_succ, hsplit, ← h.sumFloatBuf hown]
    rfl
  have hrows : s'.rows = coreRows sh b w aivId (p + 1) := by
    have hold : s'.rows = s.rows ++ [(p, combineRow sh b w p)] := rfl
    rw [hold, h.rows, coreRows, coreRows, Nat.succ_sub hown, List.range'_concat, List.map_append,
      Nat.one_mul, Nat.add_sub_cancel' hown]
    rfl
  have hout : s'.xOut = if p % sh.topk = sh.topk - 1 then
    s.xOut ++ [(p / sh.topk, ops.round s'.sumFloatBuf)] else s.xOut := rfl
  by_cases hlast : p % sh.topk = sh.topk - 1
  · have hnext : p + 1 = (p / sh.topk + 1) * sh.topk := by rw [Nat.succ_mul]; omega
    have hdiv : (p + 1) / sh.topk = p / sh.topk + 1 := by rw [hnext, Nat.mul_div_cancel _ hpos]
    have hfull : p % sh.topk + 1 = sh.topk := by omega
    refine ⟨fun hne => absurd (by rw [hnext, Nat.mul_mod_left]) hne, hrows, ?_⟩
    rw [hout, if_pos hlast, hsum, hfull, h.xOut, hdiv, coreXOut, coreXOut, Nat.succ_sub hstart,
      List.range'_concat, List.map_append, Nat.one_mul, Nat.add_sub_cancel' hstart]
    rfl
  · have hnext : p + 1 = p / sh.topk * sh.topk + (p % sh.topk + 1) := by omega
    have hdiv : (p + 1) / sh.topk = p / sh.topk :=
      Nat.div_eq_of_lt_le (by omega) (by rw [Nat.succ_mul]; omega)
    have hmod' : (p + 1) % sh.topk = p % sh.topk + 1 := by
      have := Nat.div_add_mod' (p + 1) sh.topk
      rw [hdiv] at this
      omega
    refine ⟨fun _ => ?_, hrows, ?_⟩
    · rw [hsum, hdiv, hmod']
    · rw [hout, if_neg hlast, h.xOut, hdiv]

theorem combineStep_inv (hvalid : b.Valid sh)
    (hoffset : ∀ q < b.assignments sh, offset (b.expertIds q) =
      prefixSum (fun i => u16 (b.localCounts sh (b.moeRank sh q) i)) (b.localExpert sh q))
    (hc : aivId < sh.attnAivNum) (hp : p < sh.topk * b.aivStart sh (aivId + 1))
    (h : CombineInv ops sh b w aivId p s) :
    CombineInv ops sh b w aivId (p + 1) (combineStep sh b ops offset w aivId s p) := by
  have hpos := sh.topk_pos
  have hend := topk_mul_aivStart_le sh b (show aivId + 1 ≤ sh.attnAivNum from hc)
  have he := hvalid.expertIds_lt p (by omega)
  have htoken : p / sh.topk < b.aivStart sh (aivId + 1) :=
    (Nat.div_lt_iff_lt_mul hpos).2 (by rwa [Nat.mul_comm])
  have hindex : ∀ e < sh.expertNum, Function.update s.expertRecvStartIdx (b.expertIds p)
      (u16 (s.expertRecvStartIdx (b.expertIds p) + 1)) e = u16 (occurrences b.expertIds e (p + 1)) := by
    intro e he'
    rw [occurrences_succ]
    rcases eq_or_ne e (b.expertIds p) with rfl | hne
    · rw [Function.update_self, h.index _ he, if_pos rfl, u16_succ]
    · rw [Function.update_of_ne hne, h.index e he', if_neg hne.symm, Nat.add_zero]
  unfold combineStep
  dsimp only
  rw [if_neg (Nat.not_le.2 htoken), hoffset p (by omega), h.index _ he]
  by_cases hown : b.aivStart sh aivId ≤ p / sh.topk
  · have hown' : sh.topk * b.aivStart sh aivId ≤ p := by
      rw [Nat.mul_comm]
      exact (Nat.le_div_iff_mul_le hpos).1 hown
    obtain ⟨hsum, hrows, hxOut⟩ := h.accumulate hown'
    rw [if_pos ⟨hown, htoken⟩]
    refine ⟨fun e he' => ?_, fun _ => hsum, hrows, hxOut⟩
    have hnext := hindex e he'
    rw [h.index _ he] at hnext
    exact hnext
  · -- an entry of an earlier core
    have hbefore : p < sh.topk * b.aivStart sh aivId := by
      rw [Nat.mul_comm]
      exact (Nat.div_lt_iff_lt_mul hpos).1 (Nat.lt_of_not_le hown)
    have hdiv : (p + 1) / sh.topk ≤ b.aivStart sh aivId := Nat.div_le_of_le_mul hbefore
    have hnone : ∀ q ≤ sh.topk * b.aivStart sh aivId, coreRows sh b w aivId q = [] := fun q hq => by
      rw [coreRows, Nat.sub_eq_zero_of_le hq]
      rfl
    have hnone' : ∀ t ≤ b.aivStart sh aivId, coreXOut ops sh b w aivId t = [] := fun t ht => by
      rw [coreXOut, Nat.sub_eq_zero_of_le ht]
      rfl
    rw [if_neg fun hboth => hown hboth.1]
    refine ⟨fun e he' => ?_, fun hle hne => ?_, ?_, ?_⟩
    · have hnext := hindex e he'
      rw [h.index _ he] at hnext
      exact hnext
    · have hfirst : p + 1 = sh.topk * b.aivStart sh aivId := by omega
      exact absurd (by rw [hfirst, Nat.mul_mod_right]) hne
    · rw [hnone _ hbefore]
      exact h.rows.trans (hnone _ (by omega))
    · rw [hnone' _ hdiv]
      exact h.xOut.trans (hnone' _ (by omega))

end Loop

/-! ## Both variants -/

section Variants
variable {V S F : Type} {sh : CamShape} {b : Batch V S} {mem mem' : Nat → Nat} {aivId : Nat}

/-- What a core of combine-recv does, in either variant. -/
def combineOutcome (sh : CamShape) (b : Batch V S) (ops : RowOps V S F) (room : KernelRoom)
    (ready : AttnWindow V) (aivId : Nat) : Option (CombineOutcome V) :=
  if ¬ room.statistics ∨ ¬ room.buffers then some ⟨[], [], []⟩
  else if ∃ m < sh.moeRankNum, ready.moeFlag sh m = 0 then none
  else some ⟨coreRows sh b ready aivId (sh.topk * b.aivStart sh (aivId + 1)),
    coreXOut ops sh b ready aivId (b.aivStart sh (aivId + 1)), if aivId = 0 then
    List.range sh.moeRankNum else []⟩

theorem recvFirst_le (useDispatchPrefix : Bool) :
    recvFirst sh b useDispatchPrefix aivId ≤ sh.topk * b.aivStart sh aivId := by
  unfold recvFirst
  split
  · exact le_rfl
  · exact Nat.zero_le _

/-- Where a variant begins. -/
theorem combinePreProcess_inv {seeded : AttnWindow V} (hseeded : StatTable sh b (sh.statAt seeded.word))
    (hc : aivId < sh.attnAivNum) (ops : RowOps V S F) (useDispatchPrefix : Bool) (ub : CombineUb F)
    (counts : Nat → Nat) (ready : AttnWindow V) :
    CombineInv ops sh b ready aivId (recvFirst sh b useDispatchPrefix aivId)
      ⟨(combinePreProcess sh useDispatchPrefix ub counts seeded aivId).expertRecvStartIdx,
        ub.sumFloatBuf, [], []⟩ := by
  have hstart : recvFirst sh b useDispatchPrefix aivId ≤ sh.topk * b.aivStart sh aivId :=
    recvFirst_le useDispatchPrefix
  refine ⟨fun e he => combinePreProcess_index useDispatchPrefix ub hseeded hc _ he,
    fun hown hne => ?_, ?_, ?_⟩
  · have hfirst := Nat.le_antisymm hstart hown
    exact absurd (by rw [hfirst, Nat.mul_mod_right]) hne
  · rw [coreRows, Nat.sub_eq_zero_of_le hstart]
    rfl
  · rw [coreXOut, Nat.sub_eq_zero_of_le (Nat.div_le_of_le_mul hstart)]
    rfl

theorem combineRecv_eq {loaded seeded : AttnWindow V} (hvalid : b.Valid sh)
    (hloaded : StatTable sh b (sh.statAt loaded.word))
    (hseeded : StatTable sh b (sh.statAt seeded.word)) (hc : aivId < sh.attnAivNum) (ops : RowOps V S F)
    (room : KernelRoom) (useDispatchPrefix : Bool) (ub : CombineUb F) (ready : AttnWindow V) :
    combineRecv sh b ops room useDispatchPrefix ub loaded seeded ready aivId =
      combineOutcome sh b ops room ready aivId := by
  have hle : recvFirst sh b useDispatchPrefix aivId ≤ sh.topk * b.aivStart sh (aivId + 1) :=
    (recvFirst_le useDispatchPrefix).trans (Nat.mul_le_mul_left _ (aivStart_mono sh b (Nat.le_succ aivId)))
  have hloop := forRange_inv (CombineInv ops sh b ready aivId)
    (n := sh.topk * b.aivStart sh (aivId + 1) - recvFirst sh b useDispatchPrefix aivId)
    (f := combineStep sh b ops (combinePreProcess sh useDispatchPrefix ub (loadPreProcess sh loaded)
      seeded aivId).expertPrefixOffset ready aivId)
    (combinePreProcess_inv hseeded hc ops useDispatchPrefix ub (loadPreProcess sh loaded) ready)
    fun p s _ hp h =>
    combineStep_inv hvalid
    (fun q hq => combinePreProcess_offset useDispatchPrefix ub hloaded (hvalid.expertIds_lt q hq)) hc
    (by omega) h
  rw [Nat.add_sub_cancel' hle] at hloop
  have hrows := hloop.rows
  have hxOut := hloop.xOut
  rw [Nat.mul_div_cancel_left _ sh.topk_pos] at hxOut
  unfold recvFirst at hrows hxOut
  unfold combineRecv combineOutcome
  dsimp only
  rw [hrows, hxOut]

/-- For every routing table, batch size, top-k and core count, and whatever the order
in which the cores of dispatch-send share their counts: the variants of combine-recv
do the same, whenever they load the table, and so does the host's choice. A core
that has room goes on once it sees the flags, and reads a row for each entry of its
tokens. -/
theorem combine_recv_variants (hvalid : b.Valid sh) (hmem : PreProcessed sh b mem mem')
    (haiv : sh.attnAivNum ≤ MAX_AIV_NUM) (hc : aivId < sh.attnAivNum) (ops : RowOps V S F)
    (room : KernelRoom) (row : Nat → V) (loaded seeded loaded' seeded' ready : List (CombineWrite V))
    (ub ub' : CombineUb F) :
    let window := AttnWindow.after sh ⟨mem', row⟩
    let run useDispatchPrefix :=
      combineRecv sh b ops room useDispatchPrefix ub (window loaded) (window seeded) (window ready) aivId
    let run' useDispatchPrefix :=
      combineRecv sh b ops room useDispatchPrefix ub' (window loaded') (window seeded') (window ready) aivId
    run true = run' false ∧ run (b.useDispatchPrefix sh) = run' true ∧
        run (b.useDispatchPrefix sh) = run' false ∧
      ∀ useDispatchPrefix, room = ⟨true, true⟩ →
        ((∀ m < sh.moeRankNum, (window ready).moeFlag sh m ≠ 0) →
          ∃ outcome, run useDispatchPrefix = some outcome) ∧
          ∀ outcome, run useDispatchPrefix = some outcome →
            outcome.rows = (Blocks.block (fun c => sh.topk * b.aivStart sh c) aivId).map fun q =>
              (q, combineRow sh b (window ready) q) := by
  intro window run run'
  have hstat : ∀ writes, StatTable sh b (sh.statAt (window writes).word) := fun writes =>
    statTable_after haiv (fun _ hc _ hcol => hmem.stat hc hcol) writes
  have hrun : ∀ useDispatchPrefix, run useDispatchPrefix =
      combineOutcome sh b ops room (window ready) aivId :=
    fun useDispatchPrefix => combineRecv_eq hvalid (hstat _) (hstat _) hc ops room useDispatchPrefix ub _
  have hrun' : ∀ useDispatchPrefix, run' useDispatchPrefix =
      combineOutcome sh b ops room (window ready) aivId :=
    fun useDispatchPrefix => combineRecv_eq hvalid (hstat _) (hstat _) hc ops room useDispatchPrefix ub' _
  refine ⟨?_, ?_, ?_, ?_⟩
  · rw [hrun, hrun']
  · rw [hrun, hrun']
  · rw [hrun, hrun']
  · rintro useDispatchPrefix rfl
    rw [hrun, combineOutcome, if_neg (by simp)]
    refine ⟨fun hflags => ⟨_, if_neg ?_⟩, fun outcome hsome => ?_⟩
    · rintro ⟨m, hm, hzero⟩
      exact hflags m hm hzero
    · split at hsome
      · cases hsome
      · cases hsome
        rfl

end Variants

/-- Three tokens on two cores: the second core's token, whose row comes back as
number 2. -/
theorem combine_recv_variants_three_tokens :
    ∃ mem, PreProcessed (sameExpertShape 1 Nat.one_pos) (sameExpertBatch 3) (fun _ => 0) mem ∧
      (let window := AttnWindow.after (sameExpertShape 1 Nat.one_pos) ⟨mem, fun _ => ()⟩
      let run useDispatchPrefix loaded :=
        combineRecv (F := Unit) (sameExpertShape 1 Nat.one_pos) (sameExpertBatch 3)
        ⟨(), fun _ => (), fun _ _ => (), fun _ _ => (), fun _ => ()⟩ ⟨true, true⟩ useDispatchPrefix
          ⟨fun _ => 7, ()⟩
        (window loaded) (window loaded) (window [.row 2 (), .flag 0 1]) 1
      run true [] = run false [.row 2 ()] ∧ ∃ outcome, run true [] = some outcome) := by
  obtain ⟨mem, hmem⟩ := exists_preProcessed (sameExpertShape 1 Nat.one_pos) (sameExpertBatch 3) fun _ => 0
  have hvalid := (sameExpert_runs 3 1 (by decide) Nat.one_pos none (by decide)).valid
  have hc : 1 < (sameExpertShape 1 Nat.one_pos).attnAivNum := by decide
  obtain ⟨hsame, -, -, hgoes⟩ := combine_recv_variants hvalid hmem (by decide) hc ⟨(), fun _ => (),
    fun _ _ => (), fun _ _ => (), fun _ => ()⟩ ⟨true, true⟩ (fun _ => ()) [] [] [.row 2 ()] [.row 2 ()]
    [.row 2 (), .flag 0 1] (⟨fun _ => 7, ()⟩ : CombineUb Unit) ⟨fun _ => 7, ()⟩
  refine ⟨mem, hmem, hsame, (hgoes true rfl).1 fun m hm => ?_⟩
  obtain rfl : m = 0 := Nat.lt_one_iff.1 hm
  simp [AttnWindow.after, AttnWindow.write, AttnWindow.moeFlag]

end AfdPlugin.Cam
