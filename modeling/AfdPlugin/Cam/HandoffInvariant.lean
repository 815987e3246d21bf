import AfdPlugin.Cam.Machine
/-!
# What holds between the ranks

A dispatch goes through four hands: the Attention rank announces it, the MoE rank
clears its header, sets the flag of the way back, and the Attention rank clears that.
The counts of these say at any moment whose turn it is. What a rank may find in its
windows follows from where it is in its kernels and from the counts.
-/

namespace AfdPlugin.Cam

/-! ## Received chunks -/

/-- Complete dispatches of each TP group, by its first rank, and the group whose experts
are received in part, with their number. -/
structure Progress where
  services : Nat → Nat
  current : Option (Nat × Nat)

/-- A call takes the next experts of the group that is received in part, or the first
ones of any group when there is none. -/
def Progress.call (expertNumPerMoe : Nat) (p : Progress) (c : RecvCall) : Option Progress :=
  if p.current.getD (c.tpAttnRankId, 0) = (c.tpAttnRankId, c.startExpert) ∧ c.startExpert ≤ c.endExpert ∧
      c.endExpert < expertNumPerMoe then
    some (if c.endExpert = expertNumPerMoe - 1 then
        ⟨Function.update p.services c.tpAttnRankId (p.services c.tpAttnRankId + 1), none⟩
      else ⟨p.services, some (c.tpAttnRankId, c.endExpert + 1)⟩)
  else none

/-- Where a MoE rank is after its calls; `none`: they are out of order. -/
def received (expertNumPerMoe : Nat) (calls : List RecvCall) : Option Progress :=
  calls.foldlM (Progress.call expertNumPerMoe) ⟨fun _ => 0, none⟩

theorem received_append (expertNumPerMoe : Nat) (calls : List RecvCall) (c : RecvCall) :
    received expertNumPerMoe (calls ++ [c]) =
      (received expertNumPerMoe calls).bind (Progress.call expertNumPerMoe · c) := by
  simp [received]

/-! ## Groups -/

section Groups
variable (sh : CamShape)

/-- `g` is the first rank of a TP group. -/
structure IsGroup (g : Nat) : Prop where
  dvd : sh.tpSize ∣ g
  lt : g < sh.attnRankNum

variable {sh} {g g' i i' : Nat}

theorem IsGroup.add_le (h : IsGroup sh g) : g + sh.tpSize ≤ sh.attnRankNum := by
  obtain ⟨q, rfl⟩ := h.dvd
  obtain ⟨A, hA⟩ := sh.tpSize_dvd
  have hlt := h.lt
  rw [hA] at hlt ⊢
  have hq := Nat.lt_of_mul_lt_mul_left hlt
  calc sh.tpSize * q + sh.tpSize = sh.tpSize * (q + 1) := by ring
    _ ≤ sh.tpSize * A := Nat.mul_le_mul_left _ hq

theorem IsGroup.rank_lt (h : IsGroup sh g) (hi : i < sh.tpSize) : g + i < sh.attnRankNum := by
  have := h.add_le
  omega

theorem IsGroup.rank_inj (h : IsGroup sh g) (h' : IsGroup sh g') (hi : i < sh.tpSize) (hi' : i' < sh.tpSize)
    (heq : g + i = g' + i') : g = g' ∧ i = i' := by
  obtain ⟨q, rfl⟩ := h.dvd
  obtain ⟨q', rfl⟩ := h'.dvd
  have hdiv := congrArg (· / sh.tpSize) heq
  simp only [Nat.mul_add_div sh.tpSize_pos, Nat.div_eq_of_lt hi, Nat.div_eq_of_lt hi', Nat.add_zero] at hdiv
  subst hdiv
  exact ⟨rfl, by omega⟩

/-- Every rank has its place in a group. -/
theorem exists_group {rank : Nat} (h : rank < sh.attnRankNum) :
    ∃ g i, IsGroup sh g ∧ i < sh.tpSize ∧ rank = g + i := by
  refine ⟨sh.tpSize * (rank / sh.tpSize), rank % sh.tpSize, ⟨Dvd.intro _ rfl, ?_⟩,
    Nat.mod_lt _ sh.tpSize_pos, (Nat.div_add_mod rank sh.tpSize).symm⟩
  have := Nat.div_add_mod rank sh.tpSize
  omega

theorem isGroup_mod {x : Nat} (hA : 0 < sh.attnRankNum) (h : sh.tpSize ∣ x) :
    IsGroup sh (x % sh.attnRankNum) :=
  ⟨(Nat.dvd_mod_iff sh.tpSize_dvd).2 h, Nat.mod_lt _ hA⟩

/-- The ranks of a group follow its first one. -/
theorem add_mod_group {x : Nat} (hA : 0 < sh.attnRankNum) (h : sh.tpSize ∣ x) (hi : i < sh.tpSize) :
    (x + i) % sh.attnRankNum = x % sh.attnRankNum + i := by
  have hlt := (isGroup_mod hA h).rank_lt hi
  rw [Nat.add_mod, Nat.mod_eq_of_lt (show i < sh.attnRankNum by omega), Nat.mod_eq_of_lt hlt]

end Groups

/-! ## Links -/

/-- At most one dispatch is under way, and it goes from hand to hand. -/
structure Handoff (sent taken returned collected : Nat) : Prop where
  collected_le : collected ≤ returned
  returned_le : returned ≤ taken
  taken_le : taken ≤ sent
  sent_le : sent ≤ collected + 1

/-- The words that Attention rank `rank` and MoE rank `m` wait for. -/
structure LinkInv (sh : CamShape) {V : Type} (a : AttnRank V) (st : MoeRank V) (rank m : Nat) : Prop where
  handoff : Handoff (a.sent m) (st.taken rank) (st.returned rank) (a.collected m)
  tokenNum : (st.window.region rank).tokenNum ≠ 0 → st.taken rank < a.sent m
  moeFlag : a.window.moeFlag sh m ≠ 0 → a.collected m < st.returned rank

/-! ## Attention ranks -/

section Attention
variable {V S F : Type} (net : CamNet V S F) (st : AttnRank V) (region : Nat → AttnRegion V)
  (returned : Nat → Nat)

/-- Nothing of the round is announced, and all of the rounds before is collected. -/
def AttnRank.Settled : Prop := ∀ m < net.sh.moeRankNum, st.sent m = st.round ∧ st.collected m = st.round

/-- A core that has announcements left: `as`, the first `k` writes of which are done. -/
structure Announcing (rank aivId : Nat) (as : List Announcement) (k : Nat) : Prop where
  todo : st.todo aivId = (as.flatMap (announceOps (net.layerIndex st.round rank))).drop k
  k_lt : k < 4
  ranks : ∀ a ∈ as, a.moeRankId < net.sh.moeRankNum ∧ a.moeRankId % net.sh.attnAivNum = aivId
  nodup : (as.map Announcement.moeRankId).Nodup
  sent : ∀ m < net.sh.moeRankNum, m % net.sh.attnAivNum = aivId →
    st.sent m = if m ∈ as.map Announcement.moeRankId then st.round else st.round + 1
  chunkFlag : k = 3 → ∀ a ∈ as.head?, (region a.moeRankId).chunkFlag = fun _ => 0

/-- A core of combine-recv. -/
inductive Combining (aivId : Nat) : Prop
  | load (todo : st.todo aivId = [.load, .seed, .poll 0])
  | seed (todo : st.todo aivId = [.seed, .poll 0])
  | poll {i : Nat} (todo : st.todo aivId = [.poll i]) (hi : i < net.sh.moeRankNum)
      (before : ∀ m < i, returned m = st.round + 1)
  | gather (todo : ∀ op ∈ st.todo aivId, ∃ row, op = .gather row)
      (all : ∀ m < net.sh.moeRankNum, returned m = st.round + 1)

/-- The flags below `k` are cleared. -/
structure Clearing (k : Nat) : Prop where
  todo : ∀ aivId < net.sh.attnAivNum, st.todo aivId = if aivId = 0 then
    (List.range' k (net.sh.moeRankNum - k)).map .clear else []
  flags : ∀ m < net.sh.moeRankNum, st.sent m = st.round + 1 ∧ returned m = st.round + 1 ∧
    st.collected m = if m < k then st.round + 1 else st.round

def RegionWrite.isRow : RegionWrite V → Bool
  | .token _ _ | .addr _ _ => true
  | _ => false

/-- An Attention rank, with its regions at the MoE ranks and the flags that these have set. -/
def AttnInv (rank : Nat) : Prop :=
  match st.phase with
  | .ready => st.Settled net ∧ ∀ aivId < net.sh.attnAivNum, st.todo aivId = []
  | .send => st.Settled net ∧ ∀ aivId < net.sh.attnAivNum, ∀ op ∈ st.todo aivId,
      ∃ m < net.sh.moeRankNum, ∃ w : RegionWrite V, w.isRow ∧ op = .write m w
  | .announce => (∀ m < net.sh.moeRankNum, st.collected m = st.round) ∧
      ∀ aivId < net.sh.attnAivNum, ∃ as k, Announcing net st region rank aivId as k
  | .combine => (∀ m < net.sh.moeRankNum, st.sent m = st.round + 1 ∧ st.collected m = st.round) ∧
      ∀ aivId < net.sh.attnAivNum, Combining net st returned aivId
  | .clear => ∃ k ≤ net.sh.moeRankNum, Clearing net st returned k

end Attention

/-! ## MoE ranks -/

section Moe
variable {V S F : Type} (net : CamNet V S F) (st : MoeRank V) (sent : Nat → Nat) (p : Progress)

/-- Nothing of the rank's dispatch `k` is received. -/
structure RankIdle (k rank : Nat) : Prop where
  taken : st.taken rank = k
  returned : st.returned rank = k
  marker : (st.window.region rank).marker = 0
  chunkFlag : k < sent rank → (st.window.region rank).chunkFlag = readFlags 0

/-- The rank's dispatch `k` is being received. -/
structure RankOpen (k rank : Nat) : Prop where
  taken : st.taken rank = k
  returned : st.returned rank = k
  tokenNum : (st.window.region rank).tokenNum ≠ 0

/-- The rank's dispatch `k` is received, its flag is not set. -/
structure RankCleared (k rank : Nat) : Prop where
  taken : st.taken rank = k + 1
  returned : st.returned rank = k
  marker : (st.window.region rank).marker = 0

def GroupIdle (g : Nat) : Prop := ∀ i < net.sh.tpSize, RankIdle st sent (p.services g) (g + i)

/-- `d` experts of the group are received. -/
structure GroupOpen (g d : Nat) : Prop where
  group : IsGroup net.sh g
  lt : d < net.sh.expertNumPerMoe
  rank : ∀ i < net.sh.tpSize, RankOpen st (p.services g) (g + i)
  marker : ∀ i < net.sh.tpSize, (st.window.region (g + i)).marker ≠ 0 ↔ i = 0
  chunkFlag : (st.window.region g).chunkFlag = readFlags d

/-- No group but `g` is being received. -/
def OthersIdle (g : Option Nat) : Prop := ∀ g', IsGroup net.sh g' → g ≠ some g' → GroupIdle net st sent p g'

/-- A core has taken a chunk of the group that it has found. -/
structure Chosen (c : MoeCore V) : Prop where
  chunk : selectChunk net.sh.expertNumPerMoe net.sh.maxTokenNum (st.window.region c.tpAttnRankId).chunkFlag
    (groupCounts net.sh st.window c.tpAttnRankId) = some (c.startExpert, c.endExpert)
  tensor : c.tensor = groupCounts net.sh st.window c.tpAttnRankId
  chunkFlag : (c.view.region c.tpAttnRankId).chunkFlag = (st.window.region c.tpAttnRankId).chunkFlag

/-- A core that looks for a group, when `cur` is being received. -/
inductive SearchCore (cur : Option (Nat × Nat)) (aivId : Nat) : Prop
  | start (todo : (st.core aivId).todo = [.start]) (first : aivId = 0 → cur = p.current)
  | probe {i j : Nat} (core : aivId = 0) (todo : (st.core aivId).todo = [.probe i j])
      (first : cur = p.current) (view : (st.core aivId).view.lastAttn = st.window.lastAttn) (hj : 1 ≤ j)
      (hj' : j ≤ net.sh.tpSize) (own : cur ≠ none → i = 0)
      (found : ∀ l, j ≤ l → l < net.sh.tpSize →
        (st.window.region
          ((st.window.lastAttn + (net.sh.tpSize * i + l)) % net.sh.attnRankNum)).tokenNum ≠ 0)
  | mark {n : Nat} (core : aivId = 0) (todo : (st.core aivId).todo = [.mark n])
      (first : cur = p.current) (hn : n ≠ 0) (group : IsGroup net.sh (st.core aivId).tpAttnRankId)
      (own : ∀ g d, cur = some (g, d) → (st.core aivId).tpAttnRankId = g)
      (found : ∀ l < net.sh.tpSize, (st.window.region ((st.core aivId).tpAttnRankId + l)).tokenNum ≠ 0)
  | follow {i : Nat} (core : aivId ≠ 0) (todo : (st.core aivId).todo = [.follow i])
      (view : (st.core aivId).view.lastAttn = st.window.lastAttn)
  | count {d i : Nat} (hcur : cur = some ((st.core aivId).tpAttnRankId, d)) (hi : i ≤ net.sh.tpSize)
      (todo : (st.core aivId).todo = (List.range' i (net.sh.tpSize - i)).map .count ++ [.flags])
      (counts : ∀ l < i,
        ((st.core aivId).view.region ((st.core aivId).tpAttnRankId + l)).expertRecvTokenNum =
          (st.window.region ((st.core aivId).tpAttnRankId + l)).expertRecvTokenNum)
  | chosen {d : Nat} (hcur : cur = some ((st.core aivId).tpAttnRankId, d))
      (todo : (st.core aivId).todo = []) (chosen : Chosen net st (st.core aivId))

/-- The search. Core 0 opens a group when it marks it. -/
structure SearchInv (cur : Option (Nat × Nat)) : Prop where
  current : cur = p.current ∨ p.current = none
  opened : ∀ g d, cur = some (g, d) → GroupOpen net st p g d ∧ (p.current = none → d = 0)
  others : OthersIdle net st sent p (cur.map Prod.fst)
  lastAttn : IsGroup net.sh st.window.lastAttn
  resumes : ∀ g d, p.current = some (g, d) → st.window.lastAttn = g
  core : ∀ aivId < net.sh.moeAivNum, SearchCore net st p cur aivId

/-- The chunk that a call takes. -/
structure ChunkTaken (g d e : Nat) : Prop where
  group : IsGroup net.sh g
  current : p.current.getD (g, 0) = (g, d)
  le : d ≤ e
  lt : e < net.sh.expertNumPerMoe
  core : ∀ aivId < net.sh.moeAivNum, (st.core aivId).tpAttnRankId = g ∧ (st.core aivId).startExpert = d ∧
    (st.core aivId).endExpert = e

/-- What a core may do with the rows of a chunk, when `q` headers are cleared. -/
def RowsOp (e aivId k q : Nat) : MoeOp V → Prop
  | .enter i | .copy i _ _ =>
    if e = net.sh.expertNumPerMoe - 1 then i = k ∧ k < net.sh.tpSize else i < net.sh.tpSize
  | .chunkFlags i =>
    aivId = 0 ∧ if e = net.sh.expertNumPerMoe - 1 then i = k ∧ k < net.sh.tpSize else i < net.sh.tpSize
  | .clearHeader i => aivId = 0 ∧ q + 1 = k ∧ i = q
  | .record => aivId = 0
  | _ => False

/-- What dispatch-recv leaves for combine-send. -/
def Recorded (g d e : Nat) : Prop :=
  st.chunk.batchInfo 1 = g ∧ st.chunk.batchInfo 3 = d ∧ st.chunk.batchInfo 4 = e ∧
    st.window.lastAttn = if e = net.sh.expertNumPerMoe - 1 then
      (g + net.sh.tpSize) % net.sh.attnRankNum else g

/-- The copies of a chunk, after `k` barriers and when `q` headers are cleared. -/
structure RowsInv (g d e k q : Nat) : Prop where
  taken : ChunkTaken net st p g d e
  others : OthersIdle net st sent p (some g)
  lastAttn : IsGroup net.sh st.window.lastAttn
  barriers : k ≤ if e = net.sh.expertNumPerMoe - 1 then net.sh.tpSize else 0
  cleared : ∀ i < q, RankCleared st (p.services g) (g + i)
  uncleared : ∀ i, q ≤ i → i < net.sh.tpSize → RankOpen st (p.services g) (g + i)
  marker : ∀ i, q ≤ i → i < net.sh.tpSize → ((st.window.region (g + i)).marker ≠ 0 ↔ i = 0)
  viewFlag : ((st.core 0).view.region g).chunkFlag = readFlags d
  chunkFlag : (st.window.region g).chunkFlag = readFlags (e + 1) ∨ .chunkFlags 0 ∈ (st.core 0).todo
  clears : q = k ∨ q + 1 = k ∧ ∃ rest, (st.core 0).todo = .clearHeader q :: rest ∧
    ∀ op ∈ rest, RowsOp net e 0 k k op
  record : (k = if e = net.sh.expertNumPerMoe - 1 then net.sh.tpSize else 0) →
    .record ∈ (st.core 0).todo ∨ Recorded net st g d e
  ops : ∀ aivId < net.sh.moeAivNum, ∀ op ∈ (st.core aivId).todo, RowsOp net e aivId k q op

/-- A chunk that has left dispatch-recv. -/
structure Sending (g d e : Nat) : Prop where
  group : IsGroup net.sh g
  lt : e < net.sh.expertNumPerMoe
  recorded : Recorded net st g d e
  others : OthersIdle net st sent p (some g)
  part : e ≠ net.sh.expertNumPerMoe - 1 → p.current = some (g, e + 1) ∧ GroupOpen net st p g (e + 1)
  last : e = net.sh.expertNumPerMoe - 1 → p.current = none

/-- The rows of combine-send. -/
structure ReturnsInv (g d e : Nat) : Prop where
  sending : Sending net st sent p g d e
  cleared : e = net.sh.expertNumPerMoe - 1 → ∃ k, p.services g = k + 1 ∧
    ∀ i < net.sh.tpSize, RankCleared st k (g + i)
  ops : ∀ aivId < net.sh.moeAivNum, ∀ op ∈ (st.core aivId).todo, ∃ i < net.sh.tpSize, ∃ r x,
    op = .put (g + i) (.row r x)

/-- The flags of combine-send. `pending` are the ranks of the group whose flags a core
is still to set. -/
structure FlagsInv (moeRankId g d e : Nat) (pending : Nat → List Nat) : Prop where
  sending : Sending net st sent p g d e
  todo : ∀ aivId < net.sh.moeAivNum, (st.core aivId).todo = (pending aivId).map fun i =>
    .put (g + i) (.flag moeRankId (st.chunk.batchInfo (INFO_NUM + i) + 1))
  share : ∀ aivId < net.sh.moeAivNum, (pending aivId).Nodup ∧ ∀ i ∈ pending aivId, i < net.sh.tpSize ∧
    i % net.sh.moeAivNum = aivId
  none : e ≠ net.sh.expertNumPerMoe - 1 → ∀ aivId < net.sh.moeAivNum, pending aivId = []
  flagged : e = net.sh.expertNumPerMoe - 1 → ∃ k, p.services g = k + 1 ∧ ∀ i < net.sh.tpSize,
    if i ∈ pending (i % net.sh.moeAivNum) then RankCleared st k (g + i)
      else RankIdle st sent (k + 1) (g + i)

/-- A MoE rank, with the dispatches that the Attention ranks have announced to it. -/
def MoeInv (moeRankId : Nat) : Prop :=
  match st.phase with
  | .search => ∃ cur, SearchInv net st sent p cur
  | .rows k => ∃ g d e q, RowsInv net st sent p g d e k q
  | .returns => ∃ g d e, ReturnsInv net st sent p g d e
  | .flags => ∃ g d e pending, FlagsInv net st sent p moeRankId g d e pending

end Moe

namespace CamSystem
variable {V S F : Type} (net : CamNet V S F) (s : CamSystem V)

/-- The regions of an Attention rank, by MoE rank. -/
def regionOf (rank m : Nat) : AttnRegion V := (s.moe m).window.region rank

/-- All that holds in every interleaving. -/
structure Inv : Prop where
  link : ∀ rank < net.sh.attnRankNum, ∀ m < net.sh.moeRankNum, LinkInv net.sh (s.attn rank) (s.moe m) rank m
  attn : ∀ rank < net.sh.attnRankNum,
    AttnInv net (s.attn rank) (s.regionOf rank) (fun m => (s.moe m).returned rank) rank
  moe : ∀ m < net.sh.moeRankNum, ∃ p, received net.sh.expertNumPerMoe (s.moe m).calls = some p ∧
    MoeInv net (s.moe m) (fun rank => (s.attn rank).sent m) p m

end CamSystem

end AfdPlugin.Cam
