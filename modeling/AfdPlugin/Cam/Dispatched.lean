import AfdPlugin.Cam.Delivery
import AfdPlugin.Cam.DispatchRecv
/-!
# What a MoE rank finds of a dispatch

When all cores have sent their rows and address entries, each core announces the
dispatch to its share of the MoE ranks: the counts of the rank's experts, the
assignments to the ranks before it, and last how many assignments there are. The slots
of the rank's region then lead to the rows of its assignments.
-/

namespace AfdPlugin.Cam

section Model
variable {V S : Type} (sh : CamShape) (b : Batch V S)

/-- Assignments to each MoE rank, as the first loop of `DispatchSend` adds them up. -/
def moeRecvTokenNum (expertRecvTokenNum : Nat → Nat) : Nat → Nat :=
  forRange 0 sh.expertNum (fun _ => 0) fun counts expertId =>
    Function.update counts (expertId / sh.expertNumPerMoe)
      ((counts (expertId / sh.expertNumPerMoe) + expertRecvTokenNum expertId) % 2 ^ 32)

/-- What a core writes for one MoE rank. -/
structure Announcement where
  moeRankId : Nat
  tokenNum : Nat
  moePrefixTokenNum : Nat
  expertRecvTokenNum : Nat → Nat

/-- One pass of `SetFlags`: the counts of the rank's experts are moved to the front of
`expertRecvTokenNumTensor_`, which then serves as the source of the zeroed chunk flags. -/
def setFlagsStep (moeRecv : Nat → Nat) (aivId : Nat) (s : (Nat → Nat) × List Announcement)
    (moeRankId : Nat) :
    (Nat → Nat) × List Announcement :=
  if moeRankId % sh.attnAivNum = aivId then
    let moved := forRange 0 sh.expertNumPerMoe s.1 fun t i =>
      Function.update t i (t (sh.expertNumPerMoe * moeRankId + i))
    (fun i => if i < sh.expertNumPerMoe then 0 else moved i,
      s.2 ++ [{ moeRankId
                tokenNum := (moeRecv moeRankId + 1) % 2 ^ 32
                moePrefixTokenNum := forRange 0 moeRankId 0 fun n i => n + moeRecv i
                expertRecvTokenNum := moved }])
  else s

/-- `SetFlags` of a core. -/
def setFlags (start : CoreStart) (aivId : Nat) : List Announcement :=
  (forRange 0 sh.moeRankNum (start.expertRecvTokenNum, [])
    (setFlagsStep sh (moeRecvTokenNum sh start.expertRecvTokenNum) aivId)).2

/-- A region after the announcement. -/
def AttnRegion.announce (layerIndex : Nat) (g : AttnRegion V) (a : Announcement) : AttnRegion V :=
  { g with
    tokenNum := a.tokenNum
    marker := 0
    expertRecvTokenNum := a.expertRecvTokenNum
    chunkFlag := fun _ => 0
    layerIndex
    moePreTokenNum := a.moePrefixTokenNum }

/-- The rank's region at MoE rank `m` after dispatch-send, with the cores' writes in
some order. A core's row buffer holds `ub` before its first token. -/
def dispatchSendRegion (order : Schedule) (mem : Nat → Nat) (layerIndex : Nat) (ub : V)
    (before : Nat → AttnRegion V) (m : Nat) : AttnRegion V :=
  let tokens := store (fun place => (before place.1).tokenStore place.2)
    (order.order ((allTokenWrites sh b ⟨true, true⟩ mem).map fun w => (w.1, w.2.getD ub)))
  let addrs := store (fun place => (before place.1).tokenAddr place.2)
    (order.order (allAddrWrites sh b ⟨true, true⟩ mem))
  let announcements := order.order ((List.range sh.attnAivNum).flatMap fun aivId =>
    setFlags sh (coreStart sh (sh.statAt mem) aivId) aivId)
  (announcements.filter fun a => a.moeRankId = m).foldl (AttnRegion.announce layerIndex)
    { before m with tokenStore := fun i => tokens (m, i), tokenAddr := fun i => addrs (m, i) }

end Model

section Spec
variable {V S : Type}

/-- The protocol can count the batch: its indices fit 16 bits, its assignments 32. -/
structure Batch.Countable (b : Batch V S) (sh : CamShape) : Prop where
  fits : b.FitsU16 sh
  assignments_lt : b.assignments sh + 1 < 2 ^ 32

/-- The region tells MoE rank `m` of its assignments, and its slots lead to their
rows. -/
structure AttnRegion.Holds (g : AttnRegion V) (sh : CamShape) (b : Batch V S) (layerIndex m : Nat) :
    Prop where
  tokenNum : g.tokenNum = b.moeTokenNum sh m + 1
  layer : g.layerIndex = layerIndex
  moePreTokenNum : g.moePreTokenNum = b.moePrefix sh m
  counts : ∀ i < sh.expertNumPerMoe, g.expertRecvTokenNum i = b.localCounts sh m i
  chunkFlag : g.chunkFlag = readFlags 0
  rows : ∀ p < b.assignments sh, b.moeRank sh p = m →
    g.tokenStore (g.tokenAddr (b.slot sh p)) = b.x (p / sh.topk)

end Spec

/-! ## Announcements -/

section Announcements
variable {V S : Type} {sh : CamShape} {b : Batch V S} {start : CoreStart} {aivId m : Nat}

/-- The slots of a MoE rank are those of its assignments. -/
theorem moeAssignments_slot (sh : CamShape) (b : Batch V S) (m : Nat) :
    ((b.moeAssignments sh m).map (b.slot sh)).Perm (List.range (b.moeTokenNum sh m)) := by
  obtain ⟨hmaps, hinj, hsurj⟩ := slot_bijOn sh b m
  rw [List.perm_ext_iff_of_nodup _ List.nodup_range]
  · intro r
    rw [List.mem_map, List.mem_range]
    constructor
    · rintro ⟨p, hp, rfl⟩
      exact hmaps (mem_moeAssignments.1 hp)
    · intro hr
      obtain ⟨p, hp, hslot⟩ := hsurj hr
      exact ⟨p, mem_moeAssignments.2 hp, hslot⟩
  · apply nodup_moeAssignments.map_on
    intro p hp q hq hslot
    exact hinj (mem_moeAssignments.1 hp) (mem_moeAssignments.1 hq) hslot

theorem moeTokenNum_le (sh : CamShape) (b : Batch V S) (m : Nat) :
    b.moeTokenNum sh m ≤ b.assignments sh := by
  have hlen := (moeAssignments_slot sh b m).length_eq
  rw [List.length_map, List.length_range] at hlen
  calc b.moeTokenNum sh m = (b.moeAssignments sh m).length := hlen.symm
    _ ≤ (List.range (b.assignments sh)).length := List.length_filter_le _ _
    _ = b.assignments sh := List.length_range

/-- The loop adds up the experts of a MoE rank, modulo `2 ^ 32`. -/
theorem moeRecvTokenNum_eq (recv : Nat → Nat) (m : Nat) (hm : m < sh.moeRankNum) :
    moeRecvTokenNum sh recv m = prefixSum (fun i => recv (sh.expertNumPerMoe * m + i))
      sh.expertNumPerMoe % 2 ^ 32 := by
  have hpos := sh.expertNumPerMoe_pos
  have hrank : sh.expertNumPerMoe * m + sh.expertNumPerMoe ≤ sh.expertNum :=
    Nat.mul_le_mul_left sh.expertNumPerMoe (show m + 1 ≤ sh.moeRankNum from hm)
  have hloop := forRange_inv (a := 0) (n := sh.expertNum) (s := fun _ => 0)
    (f := fun (counts : Nat → Nat) e => Function.update counts (e / sh.expertNumPerMoe)
      ((counts (e / sh.expertNumPerMoe) + recv e) % 2 ^ 32))
    (fun n counts => counts m = prefixSum (fun i => recv (sh.expertNumPerMoe * m + i))
      (min (n - sh.expertNumPerMoe * m) sh.expertNumPerMoe) % 2 ^ 32) (by simp)
    (fun n counts _ hn hold => ?_)
  · rw [show min (0 + sh.expertNum - sh.expertNumPerMoe * m) sh.expertNumPerMoe =
      sh.expertNumPerMoe by omega] at hloop
    exact hloop
  · have hsplit := Nat.div_add_mod n sh.expertNumPerMoe
    have hmod := Nat.mod_lt n hpos
    rcases eq_or_ne m (n / sh.expertNumPerMoe) with rfl | hne
    · -- one more expert of this rank
      have hbefore : min (n - sh.expertNumPerMoe * (n / sh.expertNumPerMoe)) sh.expertNumPerMoe =
        n % sh.expertNumPerMoe := by omega
      have hafter : min (n + 1 - sh.expertNumPerMoe * (n / sh.expertNumPerMoe)) sh.expertNumPerMoe =
          n % sh.expertNumPerMoe + 1 := by omega
      rw [Function.update_self, hold, hbefore, hafter, prefixSum_succ, hsplit, Nat.mod_add_mod]
    · have hsame : min (n + 1 - sh.expertNumPerMoe * m) sh.expertNumPerMoe =
          min (n - sh.expertNumPerMoe * m) sh.expertNumPerMoe := by
        rcases Nat.lt_or_gt_of_ne hne with hlt | hgt
        · have hle := Nat.mul_le_mul_left sh.expertNumPerMoe (Nat.succ_le_of_lt hlt)
          rw [Nat.mul_succ] at hle
          omega
        · have hle := Nat.mul_le_mul_left sh.expertNumPerMoe (Nat.succ_le_of_lt hgt)
          rw [Nat.mul_succ] at hle
          omega
      rw [Function.update_of_ne hne, hold, hsame]

/-- What a core writes for a MoE rank, given the counts of all experts. -/
structure Announcement.Exact (a : Announcement) (sh : CamShape) (recv : Nat → Nat) : Prop where
  tokenNum : a.tokenNum = (moeRecvTokenNum sh recv a.moeRankId + 1) % 2 ^ 32
  moePrefixTokenNum : a.moePrefixTokenNum = prefixSum (moeRecvTokenNum sh recv) a.moeRankId
  counts : ∀ i < sh.expertNumPerMoe, a.expertRecvTokenNum i = recv (sh.expertNumPerMoe * a.moeRankId + i)

/-- The counts of the first rank are in front already, and those of the others are
not overwritten before they are moved. -/
theorem moveCounts_eq (sh : CamShape) {t recv : Nat → Nat} (hfirst : m = 0 → t = recv)
    (hrest : ∀ e, sh.expertNumPerMoe ≤ e → t e = recv e) (i : Nat) :
    forRange 0 sh.expertNumPerMoe t (fun t i => Function.update t i (t (sh.expertNumPerMoe * m + i))) i =
      if i < sh.expertNumPerMoe then recv (sh.expertNumPerMoe * m + i) else recv i := by
  have hloop := forRange_inv (a := 0) (n := sh.expertNumPerMoe) (s := t)
    (f := fun t i => Function.update t i (t (sh.expertNumPerMoe * m + i)))
    (fun n t' => ∀ i, t' i = if i < n then recv (sh.expertNumPerMoe * m + i) else t i)
    (fun _ => by simp) (fun n t' _ hn hold j => ?_)
  · rw [Nat.zero_add] at hloop
    rw [hloop i]
    split
    · rfl
    · exact hrest i (by omega)
  · have hsource : t' (sh.expertNumPerMoe * m + n) = recv (sh.expertNumPerMoe * m + n) := by
      rcases Nat.eq_zero_or_pos m with rfl | hpos
      · rw [hold, if_neg (by omega), hfirst rfl]
      · have hle : sh.expertNumPerMoe * 1 ≤ sh.expertNumPerMoe * m := Nat.mul_le_mul_left _ hpos
        rw [hold, if_neg (by omega)]
        exact hrest _ (by omega)
    rcases eq_or_ne j n with rfl | hne
    · rw [Function.update_self, hsource, if_pos (Nat.lt_succ_self j)]
    · have hiff : j < n + 1 ↔ j < n := by omega
      rw [Function.update_of_ne hne, hold]
      simp only [hiff]

/-- A core announces the dispatch once to each MoE rank of its share. -/
theorem setFlags_spec (sh : CamShape) (start : CoreStart) (aivId : Nat) :
    (setFlags sh start aivId).map Announcement.moeRankId =
        (List.range sh.moeRankNum).filter (fun m => m % sh.attnAivNum = aivId) ∧
      ∀ a ∈ setFlags sh start aivId, a.Exact sh start.expertRecvTokenNum := by
  have hloop := forRange_inv (a := 0) (n := sh.moeRankNum) (s := (start.expertRecvTokenNum, []))
    (f := setFlagsStep sh (moeRecvTokenNum sh start.expertRecvTokenNum) aivId)
    (fun n s => (n = 0 → s.1 = start.expertRecvTokenNum) ∧
      (∀ e, sh.expertNumPerMoe ≤ e → s.1 e = start.expertRecvTokenNum e) ∧
      s.2.map Announcement.moeRankId = (List.range n).filter (fun m => m % sh.attnAivNum = aivId) ∧
      ∀ a ∈ s.2, a.Exact sh start.expertRecvTokenNum)
    ⟨fun _ => rfl, fun _ _ => rfl, rfl, fun a ha => by cases ha⟩
    (fun n s _ _ ⟨hfirst, hrest, hranks, hexact⟩ => ?_)
  · rw [Nat.zero_add] at hloop
    exact hloop.2.2
  · rw [List.range_succ, List.filter_append, List.filter_singleton]
    unfold setFlagsStep
    by_cases hown : n % sh.attnAivNum = aivId
    · have hmoved := moveCounts_eq sh hfirst hrest
      rw [if_pos hown, decide_eq_true hown]
      refine ⟨fun h => absurd h (Nat.succ_ne_zero n), fun e he => ?_, ?_, fun a ha => ?_⟩
      · dsimp only
        rw [if_neg (by omega), hmoved, if_neg (by omega)]
      · rw [List.map_append, hranks]
        rfl
      · rcases List.mem_append.1 ha with hbefore | hlast
        · exact hexact a hbefore
        · rw [List.mem_singleton] at hlast
          subst hlast
          refine ⟨rfl, ?_, fun i hi => ?_⟩
          · dsimp only
            rw [forRange_sum]
            simp only [Nat.zero_add]
          · dsimp only
            rw [hmoved, if_pos hi]
    · rw [if_neg hown, decide_eq_false hown]
      refine ⟨fun h => absurd h (Nat.succ_ne_zero n), hrest, ?_, hexact⟩
      rw [hranks]
      simp

/-- The cores together announce the dispatch once to each MoE rank. -/
theorem announcement_unique (sh : CamShape) (start : Nat → CoreStart) (order : Schedule)
    (hm : m < sh.moeRankNum) :
    ∃ a c, c < sh.attnAivNum ∧ a.moeRankId = m ∧ a.Exact sh (start c).expertRecvTokenNum ∧
      ((order.order ((List.range sh.attnAivNum).flatMap fun aivId =>
        setFlags sh (start aivId) aivId)).filter
        fun a => a.moeRankId = m) = [a] := by
  have hperm : ((order.order ((List.range sh.attnAivNum).flatMap fun aivId =>
      setFlags sh (start aivId) aivId)).map Announcement.moeRankId).Perm
      (List.range sh.moeRankNum) := by
    refine ((order.perm _).map _).trans ?_
    rw [List.map_flatMap]
    simp only [(setFlags_spec sh _ _).1]
    exact flatMap_filter_perm fun m _ => Nat.mod_lt m sh.attnAivNum_pos
  obtain ⟨a, ha, rfl⟩ := List.mem_map.1 (hperm.mem_iff.2 (List.mem_range.2 hm))
  obtain ⟨c, hc, hmem⟩ := List.mem_flatMap.1 ((order.perm _).mem_iff.1 ha)
  exact ⟨a, c, List.mem_range.1 hc, rfl, (setFlags_spec sh (start c) c).2 a hmem,
    filter_key_eq (hperm.nodup_iff.2 List.nodup_range) ha⟩

end Announcements

/-! ## The region -/

section Region
variable {V S : Type} {sh : CamShape} {b : Batch V S} {mem mem' : Nat → Nat} {owner : Nat → Nat} {m : Nat}

/-- Indices that are kept in 16 bits lose nothing. -/
theorem Batch.FitsU16.coreSlot (h : b.FitsU16 sh) (hvalid : b.Valid sh) (howner : CoreOwner sh b owner)
    {q : Nat} (hq : q < b.assignments sh) : coreSlot sh b owner q = b.slot sh q := by
  obtain ⟨-, hle, hlt⟩ := howner.core hq
  obtain ⟨hbefore, -⟩ := occurrences_core hle hlt
  have hocc := h.occurrences_lt (hvalid.expertIds_lt q hq) hq.le
  have hsent : sentOcc b (coreFirst sh b (owner q)) q = occurrences b.expertIds (b.expertIds q) q := by
    unfold sentOcc
    dsimp only
    rw [(u16_eq_iff _).2 (by omega)]
    omega
  rw [Cam.coreSlot, sentSlot, hsent, Batch.slot]

theorem Batch.FitsU16.sentRow (h : b.FitsU16 sh) (hm : m < sh.moeRankNum) {t : Nat} (ht : t < b.batchSize)
    (hrouted : b.Routed sh m t) : sentRow sh b m t = b.moeTokens sh m t := by
  have hlt := moeTokens_lt hrouted ht
  have hrows := h.rows m hm
  exact (u16_eq_iff _).2 (by omega)

/-- The rank's slots, after the address entries in any order. -/
theorem store_addrWrites (h : b.FitsU16 sh) (hvalid : b.Valid sh)
    (hstat : StatTable sh b (sh.statAt mem)) (order : Schedule) (before : Nat × Nat → Nat) {p : Nat}
    (hp : p < b.assignments sh) :
    store before (order.order (allAddrWrites sh b ⟨true, true⟩ mem)) (b.moeRank sh p, b.slot sh p) =
      b.moeTokens sh (b.moeRank sh p) (p / sh.topk) := by
  obtain ⟨owner, howner⟩ := exists_coreOwner sh b
  have hwrites := (order.perm _).trans (allAddrWrites_perm hvalid hstat howner)
  have hplace : ∀ q < b.assignments sh,
      ((b.moeRank sh q, coreSlot sh b owner q), sentRow sh b (b.moeRank sh q) (q / sh.topk)) =
        ((b.moeRank sh q, b.slot sh q), b.moeTokens sh (b.moeRank sh q) (q / sh.topk)) := fun q hq => by
    rw [h.coreSlot hvalid howner hq, h.sentRow (moeRank_lt hvalid hq) (token_lt hq) (routed_moeRank q)]
  apply store_of_perm hwrites
  · rw [List.map_map]
    apply List.nodup_range.map_on
    intro q hq q' hq' heq
    rw [List.mem_range] at hq hq'
    simp only [Function.comp_apply, Prod.mk.injEq] at heq
    rw [h.coreSlot hvalid howner hq, h.coreSlot hvalid howner hq'] at heq
    exact slot_inj hq hq' heq.1 heq.2
  · rw [List.mem_map]
    exact ⟨p, List.mem_range.2 hp, hplace p hp⟩

/-- The rank's rows, after the copies in any order. -/
theorem store_tokenWrites (h : b.FitsU16 sh) (hvalid : b.Valid sh)
    (hstat : StatTable sh b (sh.statAt mem)) (order : Schedule) (ub : V) (before : Nat × Nat → V)
    (hm : m < sh.moeRankNum) {t : Nat} (ht : t < b.batchSize) (hrouted : b.Routed sh m t) :
    store before (order.order ((allTokenWrites sh b ⟨true, true⟩ mem).map fun w => (w.1, w.2.getD ub)))
      (m, b.moeTokens sh m t) = b.x t := by
  have hmoe := tokenWrites_moe (m := m) hvalid hstat
  have hwrite : ∀ w ∈ allTokenWrites sh b ⟨true, true⟩ mem, w.1.1 = m →
      ∃ t' < b.batchSize, b.Routed sh m t' ∧ w = ((m, b.moeTokens sh m t'), some (b.x t')) := by
    intro w hw hrank
    have hmem : w ∈ (allTokenWrites sh b ⟨true, true⟩ mem).filter fun w => w.1.1 = m := by
      rw [List.mem_filter]
      exact ⟨hw, decide_eq_true hrank⟩
    obtain ⟨t', ht', rfl⟩ := List.mem_map.1 (hmoe.mem_iff.1 hmem)
    obtain ⟨hlt, hrouted'⟩ := mem_moeBatch.1 ht'
    exact ⟨t', hlt, hrouted', by rw [h.sentRow hm hlt hrouted']⟩
  apply store_of_mem
  · rw [(order.perm _).mem_iff, List.mem_map]
    refine ⟨((m, b.moeTokens sh m t), some (b.x t)), ?_, rfl⟩
    have hmem : ((m, sentRow sh b m t), some (b.x t)) ∈ (b.moeBatch sh m).map fun t =>
        ((m, sentRow sh b m t), some (b.x t)) :=
      List.mem_map.2 ⟨t, mem_moeBatch.2 ⟨ht, hrouted⟩, rfl⟩
    rw [← hmoe.mem_iff, h.sentRow hm ht hrouted] at hmem
    exact (List.mem_filter.1 hmem).1
  · intro w hw hplace
    rw [(order.perm _).mem_iff, List.mem_map] at hw
    obtain ⟨w, hw, rfl⟩ := hw
    obtain ⟨t', -, hrouted', rfl⟩ := hwrite w hw (congrArg Prod.fst hplace)
    have htoken : t' = t := moeTokens_inj hrouted' hrouted (congrArg Prod.snd hplace)
    rw [htoken]
    rfl

/-- Whatever the order of the cores' statistics, rows and entries: a batch that the
protocol can count is there, each slot of a MoE rank with the row of its assignment. -/
theorem dispatchSendRegion_holds (hvalid : b.Valid sh) (hcount : b.Countable sh)
    (hmem : PreProcessed sh b mem mem') (hm : m < sh.moeRankNum) (order : Schedule) (layerIndex : Nat)
    (ub : V) (before : Nat → AttnRegion V) :
    (dispatchSendRegion sh b order mem' layerIndex ub before m).Holds sh b layerIndex m := by
  have hstat : StatTable sh b (sh.statAt mem') := fun _ hc _ hcol => hmem.stat hc hcol
  obtain ⟨a, c, -, rfl, hexact, hone⟩ :=
    announcement_unique sh (fun aivId => coreStart sh (sh.statAt mem') aivId) order hm
  have hrecv : ∀ m' < sh.moeRankNum, ∀ i < sh.expertNumPerMoe,
      (coreStart sh (sh.statAt mem') c).expertRecvTokenNum (sh.expertNumPerMoe * m' + i) =
        b.localCounts sh m' i := by
    intro m' hm' i hi
    have hle := Nat.mul_le_mul_left sh.expertNumPerMoe (Nat.succ_le_of_lt hm')
    rw [Nat.mul_succ] at hle
    exact hstat.total (show sh.expertNumPerMoe * m' + i < sh.expertNumPerMoe * sh.moeRankNum by omega)
  have htotal : ∀ m' < sh.moeRankNum,
      moeRecvTokenNum sh (coreStart sh (sh.statAt mem') c).expertRecvTokenNum m' = b.moeTokenNum sh m' := by
    intro m' hm'
    have hle := moeTokenNum_le sh b m'
    have hlt := hcount.assignments_lt
    rw [moeRecvTokenNum_eq _ _ hm', prefixSum_congr (hrecv m' hm')]
    exact Nat.mod_eq_of_lt (by unfold Batch.moeTokenNum at hle; omega)
  have hregion : dispatchSendRegion sh b order mem' layerIndex ub before a.moeRankId =
      AttnRegion.announce layerIndex { before a.moeRankId with
        tokenStore := fun i =>
          store (fun place => (before place.1).tokenStore place.2)
          (order.order ((allTokenWrites sh b ⟨true, true⟩ mem').map fun w => (w.1, w.2.getD ub)))
          (a.moeRankId, i)
        tokenAddr := fun i => store (fun place => (before place.1).tokenAddr place.2)
          (order.order (allAddrWrites sh b ⟨true, true⟩ mem')) (a.moeRankId, i) } a := by
    unfold dispatchSendRegion
    dsimp only
    rw [hone]
    rfl
  rw [hregion]
  refine ⟨?_, rfl, ?_, fun i hi => (hexact.counts i hi).trans (hrecv _ hm i hi), readFlags_zero.symm,
    fun p hp hrank => ?_⟩
  · have hle := moeTokenNum_le sh b a.moeRankId
    have hlt := hcount.assignments_lt
    change a.tokenNum = _
    rw [hexact.tokenNum, htotal _ hm]
    exact Nat.mod_eq_of_lt (by omega)
  · change a.moePrefixTokenNum = _
    rw [hexact.moePrefixTokenNum, prefixSum_congr fun m' hm' => htotal m' (by omega)]
    rfl
  · have haddr := store_addrWrites hcount.fits hvalid hstat order
      (fun place => (before place.1).tokenAddr place.2) hp
    have hrouted : b.Routed sh a.moeRankId (p / sh.topk) := hrank ▸ routed_moeRank p
    have htoken := store_tokenWrites hcount.fits hvalid hstat order ub
      (fun place => (before place.1).tokenStore place.2) hm (token_lt hp) hrouted
    rw [hrank] at haddr
    unfold AttnRegion.announce
    dsimp only
    rw [haddr, htoken]

end Region

end AfdPlugin.Cam
