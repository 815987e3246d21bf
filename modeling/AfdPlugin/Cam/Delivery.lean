import AfdPlugin.Cam.DispatchSend
/-!
# What dispatch-send delivers

The cores' statistics, and their writes taken together: the address table of a MoE
rank has one entry for each of its assignments, and the row of a token is there once.
Indices that wrap break this.
-/

namespace AfdPlugin.Cam

section Spec
variable {V S : Type} (sh : CamShape) (b : Batch V S)

/-- The address entries of all cores. -/
def allAddrWrites (room : KernelRoom) (mem : Nat → Nat) : List ((Nat × Nat) × Nat) :=
  (List.range sh.attnAivNum).flatMap fun aivId => (dispatchSend sh b room mem aivId).addrWrites

/-- The rows of all cores. -/
def allTokenWrites (room : KernelRoom) (mem : Nat → Nat) : List ((Nat × Nat) × Option V) :=
  (List.range sh.attnAivNum).flatMap fun aivId => (dispatchSend sh b room mem aivId).tokenWrites

/-- Assignments to a MoE rank. -/
def Batch.moeAssignments (m : Nat) : List Nat :=
  (List.range (b.assignments sh)).filter fun p => b.moeRank sh p = m

/-- Tokens that are routed to a MoE rank. -/
def Batch.moeBatch (m : Nat) : List Nat := (List.range b.batchSize).filter (b.Routed sh m)

/-- A core has the counts of all cores, and those of the lower-numbered ones as its
own starts. -/
structure CoreStart.Exact (start : CoreStart) (aivId : Nat) : Prop where
  recv : ∀ e < sh.expertNum, start.expertRecvTokenNum e = b.expertTokenNum sh e
  moe : ∀ m < sh.moeRankNum, start.moeSendStartOffset m = b.moeTokens sh m (b.aivStart sh aivId)
  expert : ∀ e < sh.expertNum, start.expertSendStartIdx e =
    occurrences b.expertIds e (sh.topk * b.aivStart sh aivId)

/-- The slots of a MoE rank and its assignments correspond one to one, each of its
tokens is stored once, at an index of its own, and the slots tell these indices. -/
def Delivered (addrWrites : List ((Nat × Nat) × Nat))
    (tokenWrites : List ((Nat × Nat) × Option V)) (m : Nat) : Prop :=
  ∃ slotOf rowOf : Nat → Nat,
    Set.BijOn slotOf {p | p < b.assignments sh ∧ b.moeRank sh p = m} (Set.Iio (b.moeTokenNum sh m)) ∧
    Set.InjOn rowOf {t | t < b.batchSize ∧ b.Routed sh m t} ∧
    (addrWrites.filter fun w => w.1.1 = m).Perm
      ((b.moeAssignments sh m).map fun p => ((m, slotOf p), rowOf (p / sh.topk))) ∧
    (tokenWrites.filter fun w => w.1.1 = m).Perm
      ((b.moeBatch sh m).map fun t => ((m, rowOf t), some (b.x t)))

/-- What dispatch-send is to do, given the table that `PreProcess` leaves. -/
structure StatisticsHold (room : KernelRoom) (mem : Nat → Nat) : Prop where
  start : ∀ c < sh.attnAivNum, ∃ start, (dispatchSend sh b room mem c).start = some start ∧
    start.Exact sh b c
  delivered : ∀ m < sh.moeRankNum,
    Delivered sh b (allAddrWrites sh b room mem) (allTokenWrites sh b room mem) m

/-- No index that dispatch-send goes by wraps: those of rows, those that a core
starts with, and the first occurrence of each batch of address entries. -/
structure Batch.SendFits : Prop where
  rows : ∀ m < sh.moeRankNum, b.moeTokens sh m b.batchSize ≤ 2 ^ 16
  rowStart : ∀ c < sh.attnAivNum, ∀ m < sh.moeRankNum, b.moeTokens sh m (b.aivStart sh c) < 2 ^ 16
  expertStart : ∀ c < sh.attnAivNum, ∀ e < sh.expertNum,
    occurrences b.expertIds e (sh.topk * b.aivStart sh c) < 2 ^ 16
  batches : ∀ c < sh.attnAivNum, ∀ e < sh.expertNum, ∀ j,
    occurrences b.expertIds e (sh.topk * b.aivStart sh c) + 16 * j <
      occurrences b.expertIds e (sh.topk * b.aivStart sh (c + 1)) →
    occurrences b.expertIds e (sh.topk * b.aivStart sh c) + 16 * j < 2 ^ 16

end Spec

/-! ## The writes of all cores -/

section Writes
variable {V S : Type} {sh : CamShape} {b : Batch V S} {mem : Nat → Nat} {owner : Nat → Nat} {m : Nat}

/-- First entries of the cores. -/
def coreFirst (sh : CamShape) (b : Batch V S) (c : Nat) : Nat := sh.topk * b.aivStart sh c

theorem coreFirst_le_succ (c : Nat) : coreFirst sh b c ≤ coreFirst sh b (c + 1) :=
  Nat.mul_le_mul_left _ (aivStart_mono sh b (Nat.le_succ c))

theorem coreFirst_zero : coreFirst sh b 0 = 0 := by
  rw [coreFirst, Batch.aivStart, Blocks.spread_zero, Nat.mul_zero]

theorem coreFirst_last : coreFirst sh b sh.attnAivNum = b.assignments sh := by
  rw [coreFirst, Batch.aivStart, Blocks.spread_last _ sh.attnAivNum_pos, Nat.mul_comm, Batch.assignments]

theorem coreFirst_range : List.range' (coreFirst sh b 0) (coreFirst sh b sh.attnAivNum - coreFirst sh b 0) =
    List.range (b.assignments sh) := by
  rw [coreFirst_zero, coreFirst_last, Nat.sub_zero, List.range_eq_range']

/-- Entries know their core. -/
def CoreOwner (sh : CamShape) (b : Batch V S) (owner : Nat → Nat) : Prop :=
  ∀ c < sh.attnAivNum, ∀ q ∈ Blocks.block (coreFirst sh b) c, owner q = c

theorem exists_coreOwner (sh : CamShape) (b : Batch V S) : ∃ owner, CoreOwner sh b owner :=
  Blocks.exists_owner fun c _ => coreFirst_le_succ c

theorem CoreOwner.core (howner : CoreOwner sh b owner) {q : Nat} (hq : q < b.assignments sh) :
    owner q < sh.attnAivNum ∧ coreFirst sh b (owner q) ≤ q ∧ q < coreFirst sh b (owner q + 1) := by
  obtain ⟨c, hc, hle, hlt⟩ := exists_core hq
  have hself := howner c hc q (Blocks.mem_block.2 ⟨hle, hlt⟩)
  rw [hself]
  exact ⟨hc, hle, hlt⟩

/-- The slot of an entry, as its core computes it. -/
def coreSlot (sh : CamShape) (b : Batch V S) (owner : Nat → Nat) (q : Nat) : Nat :=
  sentSlot sh b (coreFirst sh b (owner q)) q

theorem allAddrWrites_perm (hvalid : b.Valid sh) (hstat : StatTable sh b (sh.statAt mem))
    (howner : CoreOwner sh b owner) :
    (allAddrWrites sh b ⟨true, true⟩ mem).Perm ((List.range (b.assignments sh)).map fun q =>
      ((b.moeRank sh q, coreSlot sh b owner q), sentRow sh b (b.moeRank sh q) (q / sh.topk))) := by
  have hmap := Blocks.flatMap_map_block (fun c _ => coreFirst_le_succ c) howner fun c q =>
    ((b.moeRank sh q, sentSlot sh b (coreFirst sh b c) q), sentRow sh b (b.moeRank sh q) (q / sh.topk))
  rw [coreFirst_range] at hmap
  unfold coreSlot
  rw [← hmap]
  apply List.Perm.flatMap_left
  intro c hc
  exact (dispatchLoop_writes hvalid hstat (List.mem_range.1 hc)).1

theorem allTokenWrites_eq (hvalid : b.Valid sh) (hstat : StatTable sh b (sh.statAt mem)) :
    allTokenWrites sh b ⟨true, true⟩ mem =
      ((List.range (b.assignments sh)).filter (FirstNamed sh b)).map (tokenEntry sh b) := by
  have hcores : allTokenWrites sh b ⟨true, true⟩ mem =
      (List.range sh.attnAivNum).flatMap fun c =>
        ((Blocks.block (coreFirst sh b) c).filter (FirstNamed sh b)).map (tokenEntry sh b) :=
    List.flatMap_congr fun c hc => (dispatchLoop_writes hvalid hstat (List.mem_range.1 hc)).2
  rw [hcores, ← List.map_flatMap, ← List.filter_flatMap, Blocks.flatMap_block fun c _ =>
    coreFirst_le_succ c, coreFirst_range]

/-- The entries of a MoE rank. -/
theorem addrWrites_moe (hvalid : b.Valid sh) (hstat : StatTable sh b (sh.statAt mem))
    (howner : CoreOwner sh b owner) :
    ((allAddrWrites sh b ⟨true, true⟩ mem).filter fun w => w.1.1 = m).Perm
      ((b.moeAssignments sh m).map fun p =>
        ((m, coreSlot sh b owner p), sentRow sh b m (p / sh.topk))) := by
  refine ((allAddrWrites_perm hvalid hstat howner).filter _).trans ?_
  rw [List.filter_map]
  apply List.Perm.of_eq
  apply List.map_congr_left
  intro p hp
  have hm : b.moeRank sh p = m := by simpa using (List.mem_filter.1 hp).2
  rw [hm]

theorem mem_moeAssignments {p : Nat} :
    p ∈ b.moeAssignments sh m ↔ p < b.assignments sh ∧ b.moeRank sh p = m := by
  simp [Batch.moeAssignments]

theorem mem_moeBatch {t : Nat} : t ∈ b.moeBatch sh m ↔ t < b.batchSize ∧ b.Routed sh m t := by
  simp [Batch.moeBatch]

theorem nodup_moeAssignments : (b.moeAssignments sh m).Nodup := List.nodup_range.filter _

theorem nodup_moeBatch : (b.moeBatch sh m).Nodup := List.nodup_range.filter _

/-- A token has one first entry for a MoE rank. -/
theorem firstNamed_unique {p q : Nat} (hp : FirstNamed sh b p) (hq : FirstNamed sh b q)
    (hm : b.moeRank sh p = b.moeRank sh q) (ht : p / sh.topk = q / sh.topk) : p = q := by
  have hle : ∀ r, r / sh.topk * sh.topk ≤ r := fun r => Nat.div_mul_le_self r sh.topk
  rcases lt_trichotomy p q with hlt | heq | hlt
  · exact absurd ⟨p, hlt, ht ▸ hle p, hm⟩ hq
  · exact heq
  · exact absurd ⟨q, hlt, ht ▸ hle q, hm.symm⟩ hp

theorem exists_firstNamed {t : Nat} (h : b.Routed sh m t) :
    ∃ p < (t + 1) * sh.topk, p / sh.topk = t ∧ b.moeRank sh p = m ∧ FirstNamed sh b p := by
  have hfound := Nat.find_spec h
  have hmin := fun q => Nat.find_min h (m := q)
  generalize Nat.find h = p at hfound hmin
  obtain ⟨hlt, hle, hm⟩ := hfound
  have hdiv : p / sh.topk = t := Nat.div_eq_of_lt_le (by omega) hlt
  refine ⟨p, hlt, hdiv, hm, ?_⟩
  rintro ⟨q, hq, hqle, hqm⟩
  rw [hdiv] at hqle
  exact hmin q hq ⟨by omega, hqle, hqm.trans hm⟩

/-- The rows of a MoE rank: one for each token that is routed to it. -/
theorem tokenWrites_moe (hvalid : b.Valid sh) (hstat : StatTable sh b (sh.statAt mem)) :
    ((allTokenWrites sh b ⟨true, true⟩ mem).filter fun w => w.1.1 = m).Perm
      ((b.moeBatch sh m).map fun t => ((m, sentRow sh b m t), some (b.x t))) := by
  have htokens :
      (((List.range (b.assignments sh)).filter fun p => FirstNamed sh b p ∧ b.moeRank sh p = m).map
        (· / sh.topk)).Perm (b.moeBatch sh m) := by
    have hmem : ∀ p, p ∈ (List.range (b.assignments sh)).filter (fun p => FirstNamed sh b p ∧
      b.moeRank sh p = m) ↔
        p < b.assignments sh ∧ FirstNamed sh b p ∧ b.moeRank sh p = m := by simp
    rw [List.perm_ext_iff_of_nodup _ nodup_moeBatch]
    · intro t
      rw [mem_moeBatch, List.mem_map]
      constructor
      · rintro ⟨p, hp, rfl⟩
        obtain ⟨hlt, -, rfl⟩ := (hmem p).1 hp
        exact ⟨token_lt hlt, routed_moeRank p⟩
      · rintro ⟨ht, hrouted⟩
        obtain ⟨p, hlt, hdiv, hm, hfirst⟩ := exists_firstNamed hrouted
        have hend : p < b.assignments sh := Nat.lt_of_lt_of_le hlt (Nat.mul_le_mul_right _ ht)
        exact ⟨p, (hmem p).2 ⟨hend, hfirst, hm⟩, hdiv⟩
    · apply (List.nodup_range.filter _).map_on
      intro p hp q hq ht
      obtain ⟨-, hfirst, hm⟩ := (hmem p).1 hp
      obtain ⟨-, hfirst', hm'⟩ := (hmem q).1 hq
      exact firstNamed_unique hfirst hfirst' (hm.trans hm'.symm) ht
  refine List.Perm.trans ?_ (htokens.map _)
  rw [allTokenWrites_eq hvalid hstat, List.filter_map, List.filter_filter, List.map_map]
  have hfilter :
      (fun p => ((fun w : (Nat × Nat) × Option V => decide (w.1.1 = m)) ∘ tokenEntry sh b) p && decide
        (FirstNamed sh b p)) = fun p => decide (FirstNamed sh b p ∧ b.moeRank sh p = m) := by
    funext p
    rw [Bool.decide_and, Bool.and_comm]
    rfl
  rw [hfilter]
  apply List.Perm.of_eq
  apply List.map_congr_left
  intro p hp
  have hm : b.moeRank sh p = m := by
    have := (List.mem_filter.1 hp).2
    simp only [decide_eq_true_eq] at this
    exact this.2
  simp only [tokenEntry, hm, Function.comp_apply]

end Writes

/-! ## Indices that fit -/

section Fits
variable {V S : Type} {sh : CamShape} {b : Batch V S} {mem mem' : Nat → Nat} {owner : Nat → Nat}
  {room : KernelRoom} {m : Nat}

/-- Fewer than `2 ^ 16` assignments are always few enough. -/
theorem sendFits_of_assignments_lt (h : b.assignments sh < 2 ^ 16) : b.SendFits sh := by
  have hocc : ∀ e p, p ≤ b.assignments sh → occurrences b.expertIds e p < 2 ^ 16 := fun e p hp =>
    Nat.lt_of_le_of_lt ((occurrences_le _ _ _).trans hp) h
  have hrow : ∀ m t, t ≤ b.batchSize → b.moeTokens sh m t < 2 ^ 16 := fun m t ht =>
    calc b.moeTokens sh m t ≤ b.batchSize := (moeTokens_le m t).trans ht
      _ ≤ b.assignments sh := Nat.le_mul_of_pos_right _ sh.topk_pos
      _ < 2 ^ 16 := h
  refine ⟨fun m _ => (hrow m _ le_rfl).le, fun c hc m _ => hrow m _ (aivStart_le sh b hc.le), ?_, ?_⟩
  · exact fun c hc e _ => hocc e _ (topk_mul_aivStart_le sh b hc.le)
  · intro c hc e _ j hj
    exact hj.trans (hocc e _ (topk_mul_aivStart_le sh b hc))

/-- Occurrences of an expert in a core's entries are counted from the core's first one. -/
theorem occurrences_core {q : Nat} (hle : coreFirst sh b (owner q) ≤ q)
    (hlt : q < coreFirst sh b (owner q + 1)) :
    occurrences b.expertIds (b.expertIds q) (coreFirst sh b (owner q)) ≤ occurrences b.expertIds
      (b.expertIds q) q ∧
      occurrences b.expertIds (b.expertIds q) q <
        occurrences b.expertIds (b.expertIds q) (coreFirst sh b (owner q + 1)) :=
  ⟨occurrences_mono _ _ hle, occurrences_lt rfl hlt⟩

/-- When no index wraps, an assignment goes to its slot. -/
theorem Batch.SendFits.coreSlot (h : b.SendFits sh) (hvalid : b.Valid sh)
    (howner : CoreOwner sh b owner) {q : Nat} (hq : q < b.assignments sh) :
    coreSlot sh b owner q = b.slot sh q := by
  obtain ⟨hc, hle, hlt⟩ := howner.core hq
  obtain ⟨hbefore, hafter⟩ := occurrences_core hle hlt
  have hbatch := h.batches _ hc _ (hvalid.expertIds_lt q hq)
    ((occurrences b.expertIds (b.expertIds q) q - occurrences b.expertIds (b.expertIds q)
      (coreFirst sh b (owner q))) / 16)
  unfold coreFirst at hbefore hafter hbatch
  have hocc : sentOcc b (coreFirst sh b (owner q)) q = occurrences b.expertIds (b.expertIds q) q := by
    unfold sentOcc coreFirst
    dsimp only
    rw [(u16_eq_iff _).2 (hbatch (by omega))]
    omega
  rw [Cam.coreSlot, sentSlot, hocc, Batch.slot]

theorem Batch.SendFits.sentRow (h : b.SendFits sh) (hm : m < sh.moeRankNum) {t : Nat} (ht : t < b.batchSize)
    (hrouted : b.Routed sh m t) : sentRow sh b m t = b.moeTokens sh m t := by
  have hlt := moeTokens_lt hrouted ht
  have hrows := h.rows m hm
  exact (u16_eq_iff _).2 (by omega)

/-- The assignments of a MoE rank fill its slots. -/
theorem slot_bijOn (sh : CamShape) (b : Batch V S) (m : Nat) :
    Set.BijOn (b.slot sh) {p | p < b.assignments sh ∧ b.moeRank sh p = m}
      (Set.Iio (b.moeTokenNum sh m)) := by
  refine ⟨?_, ?_, ?_⟩
  · rintro p ⟨hp, rfl⟩
    exact slot_lt hp
  · rintro p ⟨hp, rfl⟩ q ⟨hq, hm⟩ hslot
    exact slot_inj hp hq hm.symm hslot
  · intro r hr
    obtain ⟨i, hi, hle, hlt⟩ := exists_block hr
    rw [prefixSum_succ] at hlt
    obtain ⟨p, hp, hm, hlocal, hocc⟩ := exists_assignment (b := b) (m := m)
      (o := r - prefixSum (b.localCounts sh m) i) hi (by omega)
    refine ⟨p, ⟨hp, hm⟩, ?_⟩
    rw [Batch.slot, hm, hlocal, hocc, Batch.expertPrefix, Nat.add_sub_cancel' hle]

theorem Batch.SendFits.delivered (h : b.SendFits sh) (hvalid : b.Valid sh)
    (hstat : StatTable sh b (sh.statAt mem)) (hm : m < sh.moeRankNum) :
    Delivered sh b (allAddrWrites sh b ⟨true, true⟩ mem) (allTokenWrites sh b ⟨true, true⟩ mem) m := by
  obtain ⟨owner, howner⟩ := exists_coreOwner sh b
  have haddr := addrWrites_moe (m := m) hvalid hstat howner
  have htoken := tokenWrites_moe (m := m) hvalid hstat
  refine ⟨b.slot sh, b.moeTokens sh m, slot_bijOn sh b m, ?_, ?_, ?_⟩
  · rintro t ⟨-, hrouted⟩ t' ⟨-, hrouted'⟩ heq
    exact moeTokens_inj hrouted hrouted' heq
  · rwa [List.map_congr_left fun p hp => ?_] at haddr
    obtain ⟨hlt, rfl⟩ := mem_moeAssignments.1 hp
    rw [h.coreSlot hvalid howner hlt, h.sentRow hm (token_lt hlt) (routed_moeRank p)]
  · rwa [List.map_congr_left fun t ht => ?_] at htoken
    obtain ⟨hlt, hrouted⟩ := mem_moeBatch.1 ht
    rw [h.sentRow hm hlt hrouted]

theorem Batch.SendFits.exact (h : b.SendFits sh) (hstat : StatTable sh b (sh.statAt mem)) {c : Nat}
    (hc : c < sh.attnAivNum) : (coreStart sh (sh.statAt mem) c).Exact sh b c := by
  refine ⟨fun e he => hstat.total he, fun m hm => ?_, fun e he => ?_⟩
  · rw [coreStart_moe hstat hc hm]
    exact (u16_eq_iff _).2 (h.rowStart c hc m hm)
  · rw [coreStart_expert hstat hc he]
    exact (u16_eq_iff _).2 (h.expertStart c hc e he)

/-! What the results say about the indices. -/

theorem StatisticsHold.statistics (h : StatisticsHold sh b room mem) : room.statistics = true := by
  obtain ⟨start, hstart, -⟩ := h.start 0 sh.attnAivNum_pos
  by_contra hnone
  simp [dispatchSend, hnone] at hstart

theorem StatisticsHold.buffers (h : StatisticsHold sh b room mem) (hvalid : b.Valid sh) :
    room.buffers = true := by
  have hfirst : 0 < b.assignments sh := Nat.mul_pos hvalid.batchSize_pos sh.topk_pos
  obtain ⟨slotOf, rowOf, -, -, haddr, -⟩ := h.delivered _ (moeRank_lt hvalid hfirst)
  by_contra hnone
  have hempty : allAddrWrites sh b room mem = [] := by
    apply List.flatMap_eq_nil_iff.2
    intro c _
    simp [dispatchSend, h.statistics, hnone]
  rw [hempty, List.filter_nil, List.nil_perm, List.map_eq_nil_iff] at haddr
  exact List.not_mem_nil (haddr ▸ mem_moeAssignments.2 ⟨hfirst, rfl⟩)

theorem StatisticsHold.exact (h : StatisticsHold sh b ⟨true, true⟩ mem) {c : Nat} (hc : c < sh.attnAivNum) :
    (coreStart sh (sh.statAt mem) c).Exact sh b c := by
  obtain ⟨start, hstart, hexact⟩ := h.start c hc
  cases hstart
  exact hexact

/-- The rows of a MoE rank are apart, so their indices do not wrap. -/
theorem StatisticsHold.rows (h : StatisticsHold sh b ⟨true, true⟩ mem) (hvalid : b.Valid sh)
    (hstat : StatTable sh b (sh.statAt mem)) (hm : m < sh.moeRankNum) :
    b.moeTokens sh m b.batchSize ≤ 2 ^ 16 := by
  obtain ⟨slotOf, rowOf, -, hinj, -, htoken⟩ := h.delivered m hm
  have hrows := ((tokenWrites_moe hvalid hstat).symm.trans htoken).map fun w => w.1.2
  rw [List.map_map, List.map_map] at hrows
  have hnodup : ((b.moeBatch sh m).map rowOf).Nodup :=
    nodup_moeBatch.map_on fun t ht t' ht' => hinj (mem_moeBatch.1 ht) (mem_moeBatch.1 ht')
  have hinj' := List.inj_on_of_nodup_map (hrows.nodup_iff.2 hnodup)
  by_contra hlarge
  obtain ⟨t, ht, hrouted, hcount⟩ := exists_count_eq (P := b.Routed sh m) (n := b.batchSize) (o := 0) (by
    change 0 < b.moeTokens sh m b.batchSize
    omega)
  obtain ⟨t', ht', hrouted', hcount'⟩ :=
    exists_count_eq (P := b.Routed sh m) (n := b.batchSize) (o := 2 ^ 16) (by
    change 2 ^ 16 < b.moeTokens sh m b.batchSize
    omega)
  -- the first token and the one after `2 ^ 16` tokens share a row
  have hsame : sentRow sh b m t = sentRow sh b m t' := by
    unfold sentRow Batch.moeTokens
    rw [hcount, hcount']
    rfl
  have heq := hinj' (mem_moeBatch.2 ⟨ht, hrouted⟩) (mem_moeBatch.2 ⟨ht', hrouted'⟩) hsame
  rw [heq, hcount'] at hcount
  omega

/-- The slots of a MoE rank are apart. -/
theorem StatisticsHold.coreSlot_inj (h : StatisticsHold sh b ⟨true, true⟩ mem) (hvalid : b.Valid sh)
    (hstat : StatTable sh b (sh.statAt mem)) (howner : CoreOwner sh b owner) {p q : Nat}
    (hp : p < b.assignments sh) (hq : q < b.assignments sh) (hm : b.moeRank sh p = b.moeRank sh q)
    (hslot : coreSlot sh b owner p = coreSlot sh b owner q) : p = q := by
  obtain ⟨slotOf, rowOf, hbij, -, haddr, -⟩ := h.delivered _ (moeRank_lt hvalid hq)
  have hslots := ((addrWrites_moe hvalid hstat howner).symm.trans haddr).map fun w => w.1.2
  rw [List.map_map, List.map_map] at hslots
  have hnodup : ((b.moeAssignments sh (b.moeRank sh q)).map slotOf).Nodup :=
    nodup_moeAssignments.map_on fun p hp q hq =>
      hbij.injOn (mem_moeAssignments.1 hp) (mem_moeAssignments.1 hq)
  have hinj := List.inj_on_of_nodup_map (hslots.nodup_iff.2 hnodup)
  exact hinj (mem_moeAssignments.2 ⟨hp, hm⟩) (mem_moeAssignments.2 ⟨hq, rfl⟩) hslot

/-- Batches begin below `2 ^ 16`: the first one that did not would go where the
first occurrences of its expert are. -/
theorem StatisticsHold.batches (h : StatisticsHold sh b ⟨true, true⟩ mem) (hvalid : b.Valid sh)
    (hstat : StatTable sh b (sh.statAt mem))
    (hstart : ∀ c < sh.attnAivNum, ∀ e < sh.expertNum, occurrences b.expertIds e (coreFirst sh b c) <
      2 ^ 16) {c e j : Nat} (hc : c < sh.attnAivNum) (he : e < sh.expertNum)
    (hj : occurrences b.expertIds e (coreFirst sh b c) + 16 * j <
      occurrences b.expertIds e (coreFirst sh b (c + 1))) :
    occurrences b.expertIds e (coreFirst sh b c) + 16 * j < 2 ^ 16 := by
  obtain ⟨owner, howner⟩ := exists_coreOwner sh b
  by_contra hlarge
  have hfirst := hstart c hc e he
  have hend : coreFirst sh b (c + 1) ≤ b.assignments sh := topk_mul_aivStart_le sh b hc
  -- the core's first batch that wraps
  obtain ⟨k, hk, hlow, hhigh⟩ : ∃ k ≤ j, 2 ^ 16 ≤ occurrences b.expertIds e (coreFirst sh b c) + 16 * k ∧
      occurrences b.expertIds e (coreFirst sh b c) + 16 * k < 2 ^ 16 + 16 :=
    ⟨(2 ^ 16 - occurrences b.expertIds e (coreFirst sh b c) + 15) / 16, by omega, by omega, by omega⟩
  obtain ⟨q, hq, rfl, hocc⟩ := exists_occurrence
    (show occurrences b.expertIds e (coreFirst sh b c) + 16 * k <
      occurrences b.expertIds e (coreFirst sh b (c + 1)) by omega)
  have hearlier : occurrences b.expertIds (b.expertIds q) (coreFirst sh b c) + 16 * k - 2 ^ 16 <
      occurrences b.expertIds (b.expertIds q) q := by omega
  obtain ⟨p, hp, hid, hocc'⟩ := exists_occurrence hearlier
  have hqc : coreFirst sh b c ≤ q := by
    by_contra hlt
    have hfew : occurrences b.expertIds (b.expertIds q) q <
        occurrences b.expertIds (b.expertIds q) (coreFirst sh b c) :=
      occurrences_lt rfl (Nat.lt_of_not_le hlt)
    omega
  have hown : owner q = c := howner c hc q (Blocks.mem_block.2 ⟨hqc, hq⟩)
  have hpa : p < b.assignments sh := by omega
  obtain ⟨hpc, hple, hplt⟩ := howner.core hpa
  have hpocc := (occurrences_core hple hplt).1
  have hsentq : sentOcc b (coreFirst sh b (owner q)) q =
      occurrences b.expertIds (b.expertIds q) (coreFirst sh b c) + 16 * k - 2 ^ 16 := by
    unfold sentOcc u16
    rw [hown]
    dsimp only
    rw [hocc]
    omega
  have hsentp : sentOcc b (coreFirst sh b (owner p)) p =
      occurrences b.expertIds (b.expertIds q) (coreFirst sh b c) + 16 * k - 2 ^ 16 := by
    unfold sentOcc u16
    rw [hid] at hpocc ⊢
    dsimp only
    rw [hocc'] at hpocc ⊢
    omega
  have hslot : coreSlot sh b owner p = coreSlot sh b owner q := by
    simp only [coreSlot, sentSlot, hsentp, hsentq, Batch.moeRank, Batch.localExpert, hid]
  have heq := h.coreSlot_inj hvalid hstat howner hpa (by omega) (by simp only [Batch.moeRank, hid]) hslot
  omega

theorem StatisticsHold.sendFits (h : StatisticsHold sh b ⟨true, true⟩ mem) (hvalid : b.Valid sh)
    (hstat : StatTable sh b (sh.statAt mem)) : b.SendFits sh := by
  have hexpert : ∀ c < sh.attnAivNum, ∀ e < sh.expertNum, occurrences b.expertIds e (coreFirst sh b c) <
      2 ^ 16 := by
    intro c hc e he
    have hstart := (h.exact hc).expert e he
    rw [coreStart_expert hstat hc he] at hstart
    exact (u16_eq_iff _).1 hstart
  refine ⟨fun m hm => h.rows hvalid hstat hm, fun c hc m hm => ?_, hexpert, ?_⟩
  · have hstart := (h.exact hc).moe m hm
    rw [coreStart_moe hstat hc hm] at hstart
    exact (u16_eq_iff _).1 hstart
  · exact fun c hc e he j hj => h.batches hvalid hstat hexpert hc he hj

theorem PreProcessed.statTable (h : PreProcessed sh b mem mem') : StatTable sh b (sh.statAt mem') :=
  fun _ hc _ hcol => h.stat hc hcol

/-- For every batch, either prefix path, and every order of the cores' reads and
writes between the barriers: dispatch-send does what it is to do exactly when its
buffers fit and no 16-bit index wraps. -/
theorem statistics_hold_iff (hvalid : b.Valid sh) (hmem : PreProcessed sh b mem mem') (room : KernelRoom) :
    StatisticsHold sh b room mem' ↔ room.statistics = true ∧ room.buffers = true ∧ b.SendFits sh := by
  have hstat := hmem.statTable
  constructor
  · intro h
    obtain ⟨hstatistics, hbuffers⟩ : room.statistics = true ∧ room.buffers = true :=
      ⟨h.statistics, h.buffers hvalid⟩
    obtain ⟨statistics, buffers⟩ := room
    subst hstatistics hbuffers
    exact ⟨rfl, rfl, h.sendFits hvalid hstat⟩
  · rintro ⟨hstatistics, hbuffers, hfits⟩
    obtain ⟨statistics, buffers⟩ := room
    subst hstatistics hbuffers
    refine ⟨fun c hc => ⟨_, rfl, hfits.exact hstat hc⟩, fun m hm => hfits.delivered hvalid hstat hm⟩

end Fits

/-! ## One expert for all tokens -/

/-- Two tokens for expert 0 are delivered. -/
theorem statistics_hold_iff_two_tokens :
    ∃ mem, PreProcessed (sameExpertShape 1 Nat.one_pos) (sameExpertBatch 2) (fun _ => 0) mem ∧
    StatisticsHold (sameExpertShape 1 Nat.one_pos) (sameExpertBatch 2) ⟨true, true⟩ mem := by
  obtain ⟨mem, hmem⟩ := exists_preProcessed (sameExpertShape 1 Nat.one_pos) (sameExpertBatch 2) fun _ => 0
  have hvalid := (sameExpert_runs 2 1 (by decide) Nat.one_pos none Nat.two_pos).valid
  refine ⟨mem, hmem, (statistics_hold_iff hvalid hmem ⟨true, true⟩).2 ⟨rfl, rfl, ?_⟩⟩
  exact sendFits_of_assignments_lt (by decide)

theorem sameExpert_moeTokens (tokens topk : Nat) (topk_pos : 0 < topk) (t : Nat) :
    (sameExpertBatch tokens).moeTokens (sameExpertShape topk topk_pos) 0 t = t := by
  have hrouted : ∀ t, (sameExpertBatch tokens).Routed (sameExpertShape topk topk_pos) 0 t := fun t =>
    ⟨t * topk, (Nat.mul_lt_mul_right topk_pos).2 (Nat.lt_succ_self t), le_rfl, Nat.zero_div 2⟩
  rw [Batch.moeTokens, Nat.count_iff_forall]
  exact fun t _ => hrouted t

/-- An accepted batch of 65537 tokens for expert 0: whatever the order in which the
cores run, the last token's row overwrites the first one's. -/
theorem rows_wrap :
    ∃ sendTiling recvTiling, (sameExpert 65537 1 (by decide) none).Accepted sendTiling recvTiling ∧
    ∃ mem, PreProcessed (sameExpertShape 1 Nat.one_pos) (sameExpertBatch 65537) (fun _ => 0) mem ∧
      ¬ StatisticsHold (sameExpertShape 1 Nat.one_pos) (sameExpertBatch 65537)
        (sendTiling.room (192 * 1024)) mem := by
  obtain ⟨sendTiling, recvTiling, haccepted, hsend, -⟩ :=
    sameExpert_accepted 65537 1 (by decide) none (by decide +kernel) (by decide +kernel)
      (by decide +kernel) (by decide +kernel) (by decide +kernel) (by simp)
  obtain ⟨mem, hmem⟩ :=
    exists_preProcessed (sameExpertShape 1 Nat.one_pos) (sameExpertBatch 65537) fun _ => 0
  refine ⟨sendTiling, recvTiling, haccepted, mem, hmem, ?_⟩
  have hvalid := (sameExpert_runs 65537 1 (by decide) Nat.one_pos none (by decide)).valid
  rw [hsend]
  intro h
  have hrows := h.rows hvalid hmem.statTable (m := 0) Nat.one_pos
  rw [sameExpert_moeTokens] at hrows
  exact absurd hrows (by decide)

end AfdPlugin.Cam
