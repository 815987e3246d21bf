import AfdPlugin.Cam.Chunks
/-!
# The window that dispatch-recv reads

A MoE rank keeps one slot for each Attention rank. A call of dispatch-recv looks
for a TP group whose ranks have all announced a dispatch, beginning with the
group after the one it finished last, takes one chunk of it, and frees the slots
when the chunk has the last expert.
-/

namespace AfdPlugin.Cam

/-- What the host accepts of a deployment before it launches dispatch-recv. The kernel
keeps `tpSize` in 16 bits and returns at once when its UB buffers do not fit; here the
TP groups are below `2 ^ 16` and the buffers fit. -/
structure RecvTiling where
  attnRankNum : Nat
  moeRankNum : Nat
  routeExpertNumPerMoe : Nat
  tpSize : Nat
  topk : Nat
  /-- `BATCH_SIZE_FACTOR` of the longest sequence. -/
  maxTokenNum : Nat
  attnRankNum_pos : 1 ≤ attnRankNum
  tpSize_pos : 1 ≤ tpSize
  tpSize_dvd : attnRankNum % tpSize = 0
  topk_pos : 1 ≤ topk
  topk_le : topk ≤ routeExpertNumPerMoe * moeRankNum
  maxTokenNum_le : maxTokenNum ≤ 1024 * 256

/-- A slot: the first and the last of the batch info values, the counts and the
chunk flags of the experts. -/
@[ext] structure Slot where
  tokenNum : Nat
  marker : Nat
  expertRecvTokenNum : Nat → Nat
  chunkFlag : Nat → Nat

structure Window where
  /-- Where the search for a group begins. -/
  lastAttn : Nat
  slot : Nat → Slot

/-- `SetFlags` for one MoE rank, with the counts of the rank's experts. -/
def SetFlags (expertNumPerMoe : Nat) (expertTokenNum : Nat → Nat) : Slot :=
  let moeRecvTokenNum := (List.range expertNumPerMoe).foldl (fun n i => (n + expertTokenNum i) % 2 ^ 32) 0
  ⟨(moeRecvTokenNum + 1) % 2 ^ 32, 0, expertTokenNum, fun _ => 0⟩

namespace RecvTiling
variable (c : RecvTiling) (w : Window)

def groups : Nat := c.attnRankNum / c.tpSize

/-- The first rank of the group that the search looks at in step `i`. -/
def srcRank (i : Nat) : Nat := (w.lastAttn + c.tpSize * i) % c.attnRankNum

/-- Core 0 finds that every rank of the group has announced a dispatch. -/
def GroupReady (i : Nat) : Prop :=
  ∀ j < c.tpSize, (w.slot ((w.lastAttn + (c.tpSize * i + j)) % c.attnRankNum)).tokenNum ≠ 0

instance (i : Nat) : Decidable (c.GroupReady w i) := by unfold GroupReady; infer_instance

/-- Core 0 tells the other cores. -/
def mark (rank : Nat) : Window :=
  { w with slot := fun r => if r = rank then { w.slot r with marker := (w.slot r).tokenNum } else w.slot r }

/-- What the other cores find. -/
def followed : Option Nat :=
  ((List.range c.groups).find? fun i => decide ((w.slot (c.srcRank w i)).marker ≠ 0)).map (c.srcRank w)

/-- The counts of a TP group. -/
def tpExpertRecvTokenNum (tpAttnRankId e : Nat) : Nat :=
  (List.range c.tpSize).foldl (fun n i => (n + (w.slot (tpAttnRankId + i)).expertRecvTokenNum e) % 2 ^ 32) 0

/-- A slot after a chunk of its group, given the flags of the group's first rank. -/
def receiveSlot (chunkFlag : Nat → Nat) (endExpert : Nat) (s : Slot) : Slot :=
  let isLast : Bool := endExpert = c.routeExpertNumPerMoe - 1
  { s with
    tokenNum := if isLast then 0 else s.tokenNum
    marker := if isLast then 0 else s.marker
    chunkFlag := markRead chunkFlag endExpert }

/-- `DispatchRecv` once the group is chosen; `none` is the error return. -/
def dispatchRecv (tpAttnRankId : Nat) : Option Window :=
  let chunkFlag := (w.slot tpAttnRankId).chunkFlag
  (selectChunk c.routeExpertNumPerMoe c.maxTokenNum chunkFlag (c.tpExpertRecvTokenNum w tpAttnRankId)).map
    fun chunk =>
      { lastAttn := if chunk.2 = c.routeExpertNumPerMoe - 1 then (tpAttnRankId + c.tpSize) % c.attnRankNum
          else tpAttnRankId
        slot := fun r =>
          if tpAttnRankId ≤ r ∧ r < tpAttnRankId + c.tpSize then c.receiveSlot chunkFlag chunk.2 (w.slot r)
          else w.slot r }

/-! ## Groups of Attention ranks -/

theorem groups_mul : c.groups * c.tpSize = c.attnRankNum :=
  Nat.div_mul_cancel (Nat.dvd_of_mod_eq_zero c.tpSize_dvd)

theorem groups_pos : 0 < c.groups :=
  Nat.div_pos (Nat.le_of_dvd c.attnRankNum_pos (Nat.dvd_of_mod_eq_zero c.tpSize_dvd)) c.tpSize_pos

variable {c w}

/-- A group and a place in it give a rank. -/
theorem rank_lt {g j : Nat} (hg : g < c.groups) (hj : j < c.tpSize) : g * c.tpSize + j < c.attnRankNum := by
  have hmul := Nat.mul_le_mul_right c.tpSize (Nat.succ_le_of_lt hg)
  rw [c.groups_mul, Nat.succ_mul] at hmul
  omega

/-- The ranks that step `i` of the search looks at, when it begins at group `p`. -/
theorem searched_rank {p : Nat} (hp : w.lastAttn = p * c.tpSize) (i : Nat) {j : Nat} (hj : j < c.tpSize) :
    (w.lastAttn + (c.tpSize * i + j)) % c.attnRankNum = (p + i) % c.groups * c.tpSize + j := by
  have hlt := rank_lt (Nat.mod_lt (p + i) c.groups_pos) hj
  have heq : w.lastAttn + (c.tpSize * i + j) =
      (p + i) % c.groups * c.tpSize + j + c.attnRankNum * ((p + i) / c.groups) := by
    have hdiv := Nat.mod_add_div (p + i) c.groups
    calc w.lastAttn + (c.tpSize * i + j) = (p + i) * c.tpSize + j := by rw [hp]; ring
      _ = ((p + i) % c.groups + c.groups * ((p + i) / c.groups)) * c.tpSize + j := by rw [hdiv]
      _ = (p + i) % c.groups * c.tpSize + j + c.attnRankNum * ((p + i) / c.groups) := by
        rw [← c.groups_mul]; ring
  rw [heq, Nat.add_mul_mod_self_left, Nat.mod_eq_of_lt hlt]

theorem srcRank_eq {p : Nat} (hp : w.lastAttn = p * c.tpSize) (i : Nat) :
    c.srcRank w i = (p + i) % c.groups * c.tpSize := by
  have h := searched_rank hp i c.tpSize_pos
  rwa [Nat.add_zero, Nat.add_zero] at h

/-- The ranks of different groups differ. -/
theorem rank_inj {g g' j j' : Nat} (hj : j < c.tpSize) (hj' : j' < c.tpSize)
    (h : g * c.tpSize + j = g' * c.tpSize + j') : g = g' ∧ j = j' := by
  have hg : g = g' := by
    have := congrArg (· / c.tpSize) h
    simpa only [Nat.mul_comm _ c.tpSize, Nat.mul_add_div c.tpSize_pos, Nat.div_eq_of_lt hj,
      Nat.div_eq_of_lt hj', Nat.add_zero] using this
  subst hg
  exact ⟨rfl, by omega⟩

end RecvTiling

end AfdPlugin.Cam
