import AfdPlugin.Cam.Interleavings
import AfdPlugin.Lib.WriteQueues
/-!
# What a dispatch carries

While the rows and address entries of a dispatch arrive in any order, and then its
announcement word by word, a region comes to hold the batch's part for its MoE rank.
When the dispatch is announced it is all there.
-/

namespace AfdPlugin.Cam

/-! ## The rows -/

section Rows
variable {V S : Type} {sh : CamShape} {b : Batch V S} {mem : Nat → Nat} {m : Nat}

/-- The slots of the region lead to the rows of the rank's assignments. -/
def AttnRegion.HoldsRows (g : AttnRegion V) (sh : CamShape) (b : Batch V S) (m : Nat) : Prop :=
  ∀ p < b.assignments sh, b.moeRank sh p = m → g.tokenStore (g.tokenAddr (b.slot sh p)) = b.x (p / sh.topk)

/-- A region with a dispatch under way, whatever part of it is read. -/
def AttnRegion.Dispatched (g : AttnRegion V) (sh : CamShape) (b : Batch V S) (layerIndex m : Nat) : Prop :=
  { g with chunkFlag := readFlags 0 }.Holds sh b layerIndex m

/-- The rows that go to a MoE rank. -/
theorem mem_allTokenWrites (hfits : b.FitsU16 sh) (hvalid : b.Valid sh)
    (hstat : StatTable sh b (sh.statAt mem)) {w : (Nat × Nat) × Option V} (hm : w.1.1 < sh.moeRankNum) :
    w ∈ allTokenWrites sh b ⟨true, true⟩ mem ↔
      ∃ t < b.batchSize, b.Routed sh w.1.1 t ∧ w = ((w.1.1, b.moeTokens sh w.1.1 t), some (b.x t)) := by
  have hmoe := tokenWrites_moe (m := w.1.1) hvalid hstat
  have hfilter : w ∈ allTokenWrites sh b ⟨true, true⟩ mem ↔
      w ∈ (allTokenWrites sh b ⟨true, true⟩ mem).filter fun w' => w'.1.1 = w.1.1 := by simp
  rw [hfilter, hmoe.mem_iff, List.mem_map]
  constructor
  · rintro ⟨t, ht, heq⟩
    obtain ⟨hlt, hrouted⟩ := mem_moeBatch.1 ht
    exact ⟨t, hlt, hrouted, by rw [← hfits.sentRow hm hlt hrouted, heq]⟩
  · rintro ⟨t, hlt, hrouted, heq⟩
    exact ⟨t, mem_moeBatch.2 ⟨hlt, hrouted⟩, by rw [hfits.sentRow hm hlt hrouted, ← heq]⟩

/-- The address entries: one for each assignment. -/
theorem mem_allAddrWrites (hfits : b.FitsU16 sh) (hvalid : b.Valid sh)
    (hstat : StatTable sh b (sh.statAt mem)) {w : (Nat × Nat) × Nat} :
    w ∈ allAddrWrites sh b ⟨true, true⟩ mem ↔
      ∃ q < b.assignments sh,
        w = ((b.moeRank sh q, b.slot sh q), b.moeTokens sh (b.moeRank sh q) (q / sh.topk)) := by
  obtain ⟨owner, howner⟩ := exists_coreOwner sh b
  rw [(allAddrWrites_perm hvalid hstat howner).mem_iff, List.mem_map]
  constructor
  · rintro ⟨q, hq, rfl⟩
    rw [List.mem_range] at hq
    refine ⟨q, hq, ?_⟩
    rw [hfits.coreSlot hvalid howner hq,
      hfits.sentRow (moeRank_lt hvalid hq) (token_lt hq) (routed_moeRank q)]
  · rintro ⟨q, hq, rfl⟩
    refine ⟨q, List.mem_range.2 hq, ?_⟩
    rw [hfits.coreSlot hvalid howner hq,
      hfits.sentRow (moeRank_lt hvalid hq) (token_lt hq) (routed_moeRank q)]

end Rows

/-! ## The announcement -/

section Announcements
variable {V S : Type} {sh : CamShape} {b : Batch V S} {mem : Nat → Nat} {c : Nat} {a : Announcement}

/-- The announcement tells the MoE rank of its assignments. -/
structure Announcement.Tells (a : Announcement) (sh : CamShape) (b : Batch V S) : Prop where
  tokenNum : a.tokenNum = b.moeTokenNum sh a.moeRankId + 1
  moePrefixTokenNum : a.moePrefixTokenNum = b.moePrefix sh a.moeRankId
  counts : ∀ i < sh.expertNumPerMoe, a.expertRecvTokenNum i = b.localCounts sh a.moeRankId i

theorem setFlags_tells (hcount : b.Countable sh) (hstat : StatTable sh b (sh.statAt mem))
    (ha : a ∈ setFlags sh (coreStart sh (sh.statAt mem) c) c) (hm : a.moeRankId < sh.moeRankNum) :
    a.Tells sh b := by
  have hexact := (setFlags_spec sh (coreStart sh (sh.statAt mem) c) c).2 a ha
  have hrecv : ∀ m < sh.moeRankNum, ∀ i < sh.expertNumPerMoe,
      (coreStart sh (sh.statAt mem) c).expertRecvTokenNum (sh.expertNumPerMoe * m + i) =
        b.localCounts sh m i := by
    intro m hm i hi
    exact hstat.total (expert_lt hm hi)
  have htotal : ∀ m < sh.moeRankNum,
      moeRecvTokenNum sh (coreStart sh (sh.statAt mem) c).expertRecvTokenNum m = b.moeTokenNum sh m := by
    intro m hm
    have hle := moeTokenNum_le sh b m
    have hlt := hcount.assignments_lt
    rw [moeRecvTokenNum_eq _ _ hm, prefixSum_congr (hrecv m hm)]
    exact Nat.mod_eq_of_lt (by unfold Batch.moeTokenNum at hle; omega)
  refine ⟨?_, ?_, fun i hi => (hexact.counts i hi).trans (hrecv _ hm i hi)⟩
  · have hle := moeTokenNum_le sh b a.moeRankId
    have hlt := hcount.assignments_lt
    rw [hexact.tokenNum, htotal _ hm]
    exact Nat.mod_eq_of_lt (by omega)
  · rw [hexact.moePrefixTokenNum, prefixSum_congr fun m' hm' => htotal m' (by omega)]
    rfl

/-- A core announces once to a MoE rank. -/
theorem setFlags_inj {start : CoreStart} {a' : Announcement} (ha : a ∈ setFlags sh start c)
    (ha' : a' ∈ setFlags sh start c) (h : a.moeRankId = a'.moeRankId) : a = a' := by
  have hnodup : ((setFlags sh start c).map Announcement.moeRankId).Nodup := by
    rw [(setFlags_spec sh start c).1]
    exact List.nodup_range.filter _
  exact List.inj_on_of_nodup_map hnodup ha ha' h

end Announcements

/-! ## Rows that arrive in any order -/

def AttnOp.asToken {V : Type} : AttnOp V → Option ((Nat × Nat) × V)
  | .write m (.token i x) => some ((m, i), x)
  | _ => none

def AttnOp.asAddr {V : Type} : AttnOp V → Option ((Nat × Nat) × Nat)
  | .write m (.addr i v) => some ((m, i), v)
  | _ => none

section Send
variable {V S F : Type} (net : CamNet V S F) (st : AttnRank V) (region : Nat → AttnRegion V) (rank : Nat)

/-- The statistics of the round are in the rank's window. -/
structure StatKept : Prop where
  table : StatTable net.sh (net.batch st.round rank) (net.sh.statAt st.stat)
  window : ∀ a < net.sh.dispatchOffset, st.window.word a = st.stat a

def tokenPlan (aivId : Nat) : List ((Nat × Nat) × V) :=
  (dispatchSend net.sh (net.batch st.round rank) ⟨true, true⟩ st.stat aivId).tokenWrites.map fun w =>
    (w.1, w.2.getD (net.ubRow st.round rank aivId))

def addrPlan (aivId : Nat) : List ((Nat × Nat) × Nat) :=
  (dispatchSend net.sh (net.batch st.round rank) ⟨true, true⟩ st.stat aivId).addrWrites

/-- The rows and address entries wait or have arrived. -/
structure RowsSent : Prop where
  tokens : Covered net.sh.attnAivNum (tokenPlan net st rank) (fun c => (st.todo c).filterMap AttnOp.asToken)
    fun place => (region place.1).tokenStore place.2
  addrs : Covered net.sh.attnAivNum (addrPlan net st rank) (fun c => (st.todo c).filterMap AttnOp.asAddr)
    fun place => (region place.1).tokenAddr place.2

variable {net st region rank}

theorem sendTodo_asToken (c : Nat) :
    (sendTodo net st.round rank st.stat c).filterMap AttnOp.asToken = tokenPlan net st rank c := by
  unfold sendTodo tokenPlan
  generalize dispatchSend net.sh (net.batch st.round rank) ⟨true, true⟩ st.stat c = outcome
  have haddrs :
      (outcome.addrWrites.map fun w => AttnOp.write (V := V) w.1.1 (.addr w.1.2 w.2)).filterMap
      AttnOp.asToken = [] := by
    simp [AttnOp.asToken]
  dsimp only
  rw [List.filterMap_append, haddrs, List.append_nil, List.filterMap_map, ← List.filterMap_eq_map]
  rfl

theorem sendTodo_asAddr (c : Nat) :
    (sendTodo net st.round rank st.stat c).filterMap AttnOp.asAddr = addrPlan net st rank c := by
  unfold sendTodo addrPlan
  generalize dispatchSend net.sh (net.batch st.round rank) ⟨true, true⟩ st.stat c = outcome
  have htokens :
      (outcome.tokenWrites.map fun w =>
        AttnOp.write w.1.1 (.token w.1.2 (w.2.getD (net.ubRow st.round rank c)))).filterMap
      AttnOp.asAddr = [] := by
    simp [AttnOp.asAddr]
  dsimp only
  rw [List.filterMap_append, htokens, List.nil_append, List.filterMap_map]
  exact List.filterMap_some

section Plans
variable (hcount : (net.batch st.round rank).Countable net.sh)
  (hvalid : (net.batch st.round rank).Valid net.sh)
  (hstat : StatTable net.sh (net.batch st.round rank) (net.sh.statAt st.stat))
include hcount hvalid hstat

theorem mem_tokenPlan {c : Nat} (hc : c < net.sh.attnAivNum) {w : (Nat × Nat) × V}
    (hw : w ∈ tokenPlan net st rank c) :
    w.1.1 < net.sh.moeRankNum ∧ ∃ t < (net.batch st.round rank).batchSize,
      (net.batch st.round rank).Routed net.sh w.1.1 t ∧
      w = ((w.1.1, (net.batch st.round rank).moeTokens net.sh w.1.1 t), (net.batch st.round rank).x t) := by
  obtain ⟨w, hsent, rfl⟩ := List.mem_map.1 hw
  have hm := (dispatchLoop_inRange hvalid (coreStart net.sh (net.sh.statAt st.stat) c) hc).1 w hsent
  have hall : w ∈ allTokenWrites net.sh (net.batch st.round rank) ⟨true, true⟩ st.stat :=
    List.mem_flatMap.2 ⟨c, List.mem_range.2 hc, hsent⟩
  obtain ⟨t, ht, hrouted, heq⟩ := (mem_allTokenWrites hcount.fits hvalid hstat hm).1 hall
  refine ⟨hm, t, ht, hrouted, ?_⟩
  rw [heq]
  rfl

theorem tokenPlan_agrees : Agrees net.sh.attnAivNum (tokenPlan net st rank) := by
  intro c hc c' hc' w hw w' hw' hplace
  obtain ⟨-, t, -, hrouted, heq⟩ := mem_tokenPlan hcount hvalid hstat hc hw
  obtain ⟨-, t', -, hrouted', heq'⟩ := mem_tokenPlan hcount hvalid hstat hc' hw'
  rw [heq, heq'] at hplace
  obtain ⟨hm, hrow⟩ := Prod.mk.inj hplace
  rw [hm] at hrouted hrow
  rw [heq, heq', moeTokens_inj hrouted hrouted' hrow]

theorem mem_addrPlan {c : Nat} (hc : c < net.sh.attnAivNum) {w : (Nat × Nat) × Nat}
    (hw : w ∈ addrPlan net st rank c) :
    ∃ q < (net.batch st.round rank).assignments net.sh, w = (((net.batch st.round rank).moeRank net.sh q,
      (net.batch st.round rank).slot net.sh q),
        (net.batch st.round rank).moeTokens net.sh ((net.batch st.round rank).moeRank net.sh q)
        (q / net.sh.topk)) :=
  (mem_allAddrWrites hcount.fits hvalid hstat).1 (List.mem_flatMap.2 ⟨c, List.mem_range.2 hc, hw⟩)

theorem addrPlan_agrees : Agrees net.sh.attnAivNum (addrPlan net st rank) := by
  intro c hc c' hc' w hw w' hw' hplace
  obtain ⟨q, hq, rfl⟩ := mem_addrPlan hcount hvalid hstat hc hw
  obtain ⟨q', hq', rfl⟩ := mem_addrPlan hcount hvalid hstat hc' hw'
  obtain ⟨hm, hslot⟩ := Prod.mk.inj hplace
  rw [slot_inj hq hq' hm hslot]

/-- When nothing waits, every region has its rows. -/
theorem RowsSent.holdsRows (h : RowsSent net st region rank)
    (htodo : ∀ c < net.sh.attnAivNum, st.todo c = []) {m : Nat} (hm : m < net.sh.moeRankNum) :
    (region m).HoldsRows net.sh (net.batch st.round rank) m := by
  intro p hp hrank
  have hentry := (mem_allAddrWrites hcount.fits hvalid hstat).2 ⟨p, hp, rfl⟩
  obtain ⟨c, hc, hplan⟩ := List.mem_flatMap.1 hentry
  have haddr := h.addrs.all_done (fun c hc => by rw [htodo c hc]; rfl) (List.mem_range.1 hc) hplan
  have hrouted : (net.batch st.round rank).Routed net.sh m (p / net.sh.topk) := hrank ▸ routed_moeRank p
  have hrow : ((m, (net.batch st.round rank).moeTokens net.sh m (p / net.sh.topk)),
      some ((net.batch st.round rank).x (p / net.sh.topk))) ∈
      allTokenWrites net.sh (net.batch st.round rank) ⟨true, true⟩ st.stat :=
    (mem_allTokenWrites hcount.fits hvalid hstat hm).2 ⟨_, token_lt hp, hrouted, rfl⟩
  obtain ⟨c', hc', hplan'⟩ := List.mem_flatMap.1 hrow
  have htoken := h.tokens.all_done (fun c hc => by rw [htodo c hc]; rfl) (List.mem_range.1 hc')
    (List.mem_map_of_mem hplan')
  dsimp only at haddr htoken
  rw [hrank] at haddr
  rw [haddr]
  exact htoken

/-- A row or an entry arrives. -/
theorem RowsSent.write (h : RowsSent net st region rank) {aivId m : Nat}
    (haiv : aivId < net.sh.attnAivNum) {w : RegionWrite V} (hw : w.isRow)
    {before after : List (AttnOp V)} (htodo : st.todo aivId = before ++ .write m w :: after) :
    RowsSent net { st with todo := Function.update st.todo aivId (before ++ after) }
      (Function.update region m ((region m).write w)) rank := by
  have hless : ∀ {β : Type} (f : AttnOp V → Option β), ∀ c,
      ∀ v ∈ (Function.update st.todo aivId (before ++ after) c).filterMap f,
      v ∈ (st.todo c).filterMap f := by
    intro β f c v hv
    rcases eq_or_ne c aivId with rfl | hne
    · rw [Function.update_self] at hv
      rw [htodo]
      exact (mem_filterMap_remove f).2 (.inl hv)
    · rwa [Function.update_of_ne hne] at hv
  have hrest : ∀ {β : Type} (f : AttnOp V → Option β), ∀ c, ∀ v ∈ (st.todo c).filterMap f,
      v ∈ (Function.update st.todo aivId (before ++ after) c).filterMap f ∨ f (.write m w) = some v := by
    intro β f c v hv
    rcases eq_or_ne c aivId with rfl | hne
    · rw [htodo] at hv
      rw [Function.update_self]
      exact (mem_filterMap_remove f).1 hv
    · rw [Function.update_of_ne hne]
      exact .inl hv
  have hregion : ∀ m' ≠ m, Function.update region m ((region m).write w) m' = region m' :=
    fun m' hne => Function.update_of_ne hne _ _
  cases w with
  | token i x =>
    have hmem : ((m, i), x) ∈ (st.todo aivId).filterMap AttnOp.asToken := by
      rw [htodo]
      exact (mem_filterMap_remove AttnOp.asToken).2 (.inr rfl)
    refine ⟨h.tokens.write (tokenPlan_agrees hcount hvalid hstat) haiv hmem (fun c _ => hless _ c)
      (fun c _ v hv => ?_) ?_ ?_,
      h.addrs.frame
      (fun c _ v => ⟨hless _ c v, fun hv => (hrest _ c v hv).resolve_right (by simp [AttnOp.asAddr])⟩)
      fun c _ v _ => ?_⟩
    · exact (hrest _ c v hv).imp_right fun heq => (Option.some.inj heq).symm
    · simp [AttnRegion.write]
    · rintro ⟨m', i'⟩ hne
      rcases eq_or_ne m' m with rfl | hm
      · have hi : i' ≠ i := fun heq => hne (by rw [heq])
        simp [AttnRegion.write, hi]
      · simp [hregion m' hm]
    · rcases eq_or_ne v.1.1 m with heq | hne
      · simp [heq, AttnRegion.write]
      · rw [hregion _ hne]
  | addr i x =>
    have hmem : ((m, i), x) ∈ (st.todo aivId).filterMap AttnOp.asAddr := by
      rw [htodo]
      exact (mem_filterMap_remove AttnOp.asAddr).2 (.inr rfl)
    refine ⟨h.tokens.frame
      (fun c _ v => ⟨hless _ c v, fun hv => (hrest _ c v hv).resolve_right (by simp [AttnOp.asToken])⟩)
      fun c _ v _ => ?_, h.addrs.write (addrPlan_agrees hcount hvalid hstat) haiv hmem
      (fun c _ => hless _ c) (fun c _ v hv => ?_) ?_ ?_⟩
    · rcases eq_or_ne v.1.1 m with heq | hne
      · simp [heq, AttnRegion.write]
      · rw [hregion _ hne]
    · exact (hrest _ c v hv).imp_right fun heq => (Option.some.inj heq).symm
    · simp [AttnRegion.write]
    · rintro ⟨m', i'⟩ hne
      rcases eq_or_ne m' m with rfl | hm
      · have hi : i' ≠ i := fun heq => hne (by rw [heq])
        simp [AttnRegion.write, hi]
      · simp [hregion m' hm]
  | _ => cases hw

end Plans

end Send

/-! ## The announcement, word by word -/

section Announce
variable {V S F : Type} (net : CamNet V S F) (st : AttnRank V) (region : Nat → AttnRegion V) (rank : Nat)

/-- Regions that are not announced yet have their rows, and of the announcement what
their core has not left to write. -/
structure Announced : Prop where
  planned : ∀ c < net.sh.attnAivNum, ∀ op ∈ st.todo c,
    ∃ a ∈ setFlags net.sh (coreStart net.sh (net.sh.statAt st.stat) c) c,
    op ∈ announceOps (net.layerIndex st.round rank) a
  rows : ∀ m < net.sh.moeRankNum, st.sent m = st.round →
    (region m).HoldsRows net.sh (net.batch st.round rank) m
  header : ∀ c < net.sh.attnAivNum, ∀ a ∈ setFlags net.sh (coreStart net.sh (net.sh.statAt st.stat) c) c,
    st.sent a.moeRankId = st.round →
      .write a.moeRankId (.header (net.layerIndex st.round rank) a.moePrefixTokenNum) ∈ st.todo c ∨
        (region a.moeRankId).layerIndex = net.layerIndex st.round rank ∧
          (region a.moeRankId).moePreTokenNum = a.moePrefixTokenNum
  counts : ∀ c < net.sh.attnAivNum, ∀ a ∈ setFlags net.sh (coreStart net.sh (net.sh.statAt st.stat) c) c,
    st.sent a.moeRankId = st.round →
      .write a.moeRankId (.counts a.expertRecvTokenNum) ∈ st.todo c ∨
        (region a.moeRankId).expertRecvTokenNum = a.expertRecvTokenNum

variable {net st region rank} {aivId m k : Nat} {w : RegionWrite V} {rest : List (AttnOp V)}
  {as : List Announcement}

theorem mem_announceOps {layerIndex : Nat} {a : Announcement} : .write m w ∈ announceOps layerIndex a ↔
    m = a.moeRankId ∧ (w = .header layerIndex a.moePrefixTokenNum ∨ w = .counts a.expertRecvTokenNum ∨
      w = .chunkFlags ∨
      w = .tokenNum a.tokenNum) := by
  simp only [announceOps, List.mem_cons, AttnOp.write.injEq, List.not_mem_nil, or_false]
  tauto

/-- The token number is a core's last word for a MoE rank. -/
theorem Announcing.last {n : Nat} (h : Announcing net st region rank aivId as k)
    (htodo : st.todo aivId = .write m (.tokenNum n) :: rest) :
    ∀ w, .write m w ∉ rest := by
  intro w hw
  have hk := h.k_lt
  have hwrites := h.todo.symm.trans htodo
  cases as with
  | nil => simp at hwrites
  | cons a as =>
    rw [announceOps_flatMap] at hwrites
    obtain rfl | rfl | rfl | rfl : k = 0 ∨ k = 1 ∨ k = 2 ∨ k = 3 := by omega
    · cases (List.cons.inj hwrites).1
    · cases (List.cons.inj hwrites).1
    · cases (List.cons.inj hwrites).1
    · obtain ⟨hop, rfl⟩ := List.cons.inj hwrites
      cases hop
      obtain ⟨a', ha', hop⟩ := List.mem_flatMap.1 hw
      exact (List.nodup_cons.1 h.nodup).1 (List.mem_map.2 ⟨a', ha', (mem_announceOps.1 hop).1.symm⟩)

/-- What is announced to a MoE rank is its part of the batch. -/
theorem Announced.dispatched (h : Announced net st region rank)
    (hcount : (net.batch st.round rank).Countable net.sh)
    (hstat : StatTable net.sh (net.batch st.round rank) (net.sh.statAt st.stat))
    (haiv : aivId < net.sh.attnAivNum) (hcore : Announcing net st region rank aivId as k) {n : Nat}
    (htodo : st.todo aivId = .write m (.tokenNum n) :: rest) (hm : m < net.sh.moeRankNum)
    (hsent : st.sent m = st.round) :
    ((region m).write (.tokenNum n)).Dispatched net.sh (net.batch st.round rank)
      (net.layerIndex st.round rank) m := by
  obtain ⟨a, ha, hop⟩ :=
    h.planned aivId haiv (.write m (.tokenNum n)) (by rw [htodo]; exact List.mem_cons_self)
  obtain ⟨rfl, hn⟩ := mem_announceOps.1 hop
  have hn : n = a.tokenNum := by simpa using hn
  have hlast := hcore.last htodo
  obtain ⟨htokenNum, hbefore, hcounts⟩ := setFlags_tells hcount hstat ha hm
  have hheader := (h.header aivId haiv a ha hsent).resolve_left (by rw [htodo]; simpa using hlast _)
  have hrecv := (h.counts aivId haiv a ha hsent).resolve_left (by rw [htodo]; simpa using hlast _)
  refine ⟨hn.trans htokenNum, hheader.1, hheader.2.trans hbefore, fun i hi => ?_, rfl,
    fun p hp hrank => h.rows _ hm hsent p hp hrank⟩
  exact (congrFun hrecv i).trans (hcounts i hi)

/-- A word of the announcement arrives. -/
theorem Announced.step (h : Announced net st region rank) (haiv : aivId < net.sh.attnAivNum)
    (hround : st.sent m = st.round) (htodo : st.todo aivId = .write m w :: rest) :
    Announced net (st.op net rank aivId rest (.write m w))
      (Function.update region m ((region m).write w)) rank := by
  obtain ⟨a₀, ha₀, hop⟩ := h.planned aivId haiv (.write m w) (by rw [htodo]; exact List.mem_cons_self)
  obtain ⟨rfl, hw⟩ := mem_announceOps.1 hop
  have hkeep : ∀ c, ∀ op, op ∈ Function.update st.todo aivId rest c → op ∈ st.todo c := by
    intro c op hop
    rcases eq_or_ne c aivId with rfl | hne
    · rw [Function.update_self] at hop
      rw [htodo]
      exact List.mem_cons_of_mem _ hop
    · rwa [Function.update_of_ne hne] at hop
  -- only the operation itself is gone
  have hrest : ∀ c, ∀ op ∈ st.todo c, op ≠ .write a₀.moeRankId w →
      op ∈ Function.update st.todo aivId rest c := by
    intro c op hop hne
    rcases eq_or_ne c aivId with rfl | hc
    · rw [htodo] at hop
      rw [Function.update_self]
      exact (List.mem_cons.1 hop).resolve_left hne
    · rwa [Function.update_of_ne hc]
  -- each MoE rank has its announcement
  have honly : ∀ c, ∀ a ∈ setFlags net.sh (coreStart net.sh (net.sh.statAt st.stat) c) c,
      a.moeRankId = a₀.moeRankId → a = a₀ := by
    intro c a ha heq
    have hcore : ∀ {c : Nat} {a : Announcement},
        a ∈ setFlags net.sh (coreStart net.sh (net.sh.statAt st.stat) c) c →
        a.moeRankId % net.sh.attnAivNum = c := by
      intro c a ha
      have hmem := List.mem_map_of_mem (f := Announcement.moeRankId) ha
      rw [(setFlags_spec net.sh _ c).1] at hmem
      simpa using (List.mem_filter.1 hmem).2
    obtain rfl : c = aivId := by rw [← hcore ha, ← hcore ha₀, heq]
    exact setFlags_inj ha ha₀ heq
  have hsent : ∀ m, (st.op net rank aivId rest (.write a₀.moeRankId w)).sent m = st.round →
      st.sent m = st.round ∧
      (m = a₀.moeRankId → ∀ n, w ≠ .tokenNum n) := by
    intro m hm
    have hcounts : (∀ n, w ≠ .tokenNum n) ∧
      (st.op net rank aivId rest (.write a₀.moeRankId w)).sent = st.sent ∨
        (∃ n, w = .tokenNum n) ∧ (st.op net rank aivId rest (.write a₀.moeRankId w)).sent =
          Function.update st.sent a₀.moeRankId (st.sent a₀.moeRankId + 1) := AttnRank.op_sent w
    rcases hcounts with ⟨hne, hsame⟩ | ⟨-, hmore⟩
    · rw [hsame] at hm
      exact ⟨hm, fun _ => hne⟩
    · rw [hmore] at hm
      rcases eq_or_ne m a₀.moeRankId with rfl | hne
      · rw [Function.update_self] at hm
        omega
      · rw [Function.update_of_ne hne] at hm
        exact ⟨hm, fun heq => absurd heq hne⟩
  refine ⟨fun c hc op hop => h.planned c hc op (hkeep c op hop), fun m hm hs => ?_,
    fun c hc a ha hs => ?_, fun c hc a ha hs => ?_⟩
  · have hrows := h.rows m hm (hsent m hs).1
    rcases eq_or_ne m a₀.moeRankId with rfl | hne
    · rw [Function.update_self]
      rcases hw with rfl | rfl | rfl | rfl <;> exact hrows
    · rw [Function.update_of_ne hne]
      exact hrows
  · obtain ⟨hs, hnot⟩ := hsent a.moeRankId hs
    have hold := h.header c hc a ha hs
    by_cases heq : a.moeRankId = a₀.moeRankId
    · obtain rfl := honly c a ha heq
      rw [Function.update_self]
      rcases hw with rfl | rfl | rfl | rfl
      · exact .inr ⟨rfl, rfl⟩
      · exact hold.imp_left fun hop => hrest c _ hop (by simp)
      · exact hold.imp_left fun hop => hrest c _ hop (by simp)
      · exact absurd rfl (hnot rfl _)
    · rw [Function.update_of_ne heq]
      exact hold.imp_left fun hop => hrest c _ hop (by simp [heq])
  · obtain ⟨hs, hnot⟩ := hsent a.moeRankId hs
    have hold := h.counts c hc a ha hs
    by_cases heq : a.moeRankId = a₀.moeRankId
    · obtain rfl := honly c a ha heq
      rw [Function.update_self]
      rcases hw with rfl | rfl | rfl | rfl
      · exact hold.imp_left fun hop => hrest c _ hop (by simp)
      · exact .inr rfl
      · exact hold.imp_left fun hop => hrest c _ hop (by simp)
      · exact absurd rfl (hnot rfl _)
    · rw [Function.update_of_ne heq]
      exact hold.imp_left fun hop => hrest c _ hop (by simp [heq])

end Announce

/-! ## An Attention rank -/

section CarriesDispatch
variable {V S F : Type} (net : CamNet V S F) (st : AttnRank V) (region : Nat → AttnRegion V) (rank : Nat)

/-- What is there of the rank's dispatch in its phase. -/
def CarriesDispatch : Prop :=
  match st.phase with
  | .ready => True
  | .send => StatKept net st rank ∧ RowsSent net st region rank
  | .announce => StatKept net st rank ∧ Announced net st region rank
  | .combine => StatKept net st rank
  | .clear => StatKept net st rank

variable {net st region rank} {region' : Nat → AttnRegion V} {returned : Nat → Nat} {aivId m : Nat}
  {rest : List (AttnOp V)} {w : RegionWrite V}

theorem StatKept.same {st' : AttnRank V} (h : StatKept net st rank) (hround : st'.round = st.round)
    (hstat : st'.stat = st.stat)
    (hword : ∀ a < net.sh.dispatchOffset, st'.window.word a = st.window.word a) :
    StatKept net st' rank := by
  refine ⟨?_, fun a ha => ?_⟩
  · rw [hround, hstat]
    exact h.table
  · rw [hword a ha, hstat]
    exact h.window a ha

/-- Words before the flags stay. -/
theorem CarriesDispatch.window (h : CarriesDispatch net st region rank) {v : AttnWindow V}
    (hword : ∀ a < net.sh.dispatchOffset, v.word a = st.window.word a) :
    CarriesDispatch net { st with window := v } region rank := by
  unfold CarriesDispatch at h ⊢
  dsimp only
  cases hphase : st.phase with
  | ready => trivial
  | send =>
    rw [hphase] at h
    exact ⟨h.1.same rfl rfl hword, h.2.tokens, h.2.addrs⟩
  | announce =>
    rw [hphase] at h
    exact ⟨h.1.same rfl rfl hword, h.2.planned, h.2.rows, h.2.header, h.2.counts⟩
  | combine =>
    rw [hphase] at h
    exact StatKept.same h rfl rfl hword
  | clear =>
    rw [hphase] at h
    exact StatKept.same h rfl rfl hword

/-- MoE ranks leave the regions alone that the rank writes to. -/
theorem CarriesDispatch.frame (h : CarriesDispatch net st region rank)
    (hcontrol : AttnInv net st region returned rank)
    (hcount : (net.batch st.round rank).Countable net.sh)
    (hvalid : (net.batch st.round rank).Valid net.sh)
    (hregion : ∀ m < net.sh.moeRankNum, st.sent m = st.collected m → region' m = region m) :
    CarriesDispatch net st region' rank := by
  unfold CarriesDispatch at h ⊢
  unfold AttnInv at hcontrol
  cases hphase : st.phase with
  | ready => trivial
  | send =>
    rw [hphase] at h hcontrol
    obtain ⟨hstat, htokens, haddrs⟩ := h
    have hquiet : ∀ m < net.sh.moeRankNum, region' m = region m := fun m hm =>
      hregion m hm ((hcontrol.1 m hm).1.trans (hcontrol.1 m hm).2.symm)
    refine ⟨hstat, htokens.frame (fun _ _ _ => Iff.rfl) fun c hc w hw => ?_,
      haddrs.frame (fun _ _ _ => Iff.rfl) fun c hc w hw => ?_⟩
    · rw [hquiet _ (mem_tokenPlan hcount hvalid hstat.table hc hw).1]
    · obtain ⟨q, hq, rfl⟩ := mem_addrPlan hcount hvalid hstat.table hc hw
      rw [hquiet _ (moeRank_lt hvalid hq)]
  | announce =>
    rw [hphase] at h hcontrol
    obtain ⟨hstat, hannounced⟩ := h
    have hquiet : ∀ m < net.sh.moeRankNum, st.sent m = st.round → region' m = region m := fun m hm hs =>
      hregion m hm (hs.trans (hcontrol.1 m hm).symm)
    have hrank : ∀ c, ∀ a ∈ setFlags net.sh (coreStart net.sh (net.sh.statAt st.stat) c) c,
        a.moeRankId < net.sh.moeRankNum := by
      intro c a ha
      have hmem := List.mem_map_of_mem (f := Announcement.moeRankId) ha
      rw [(setFlags_spec net.sh _ c).1] at hmem
      exact List.mem_range.1 (List.mem_filter.1 hmem).1
    refine ⟨hstat, hannounced.planned, fun m hm hs => ?_, fun c hc a ha hs => ?_, fun c hc a ha hs => ?_⟩
    · rw [hquiet m hm hs]
      exact hannounced.rows m hm hs
    · rw [hquiet _ (hrank c a ha) hs]
      exact hannounced.header c hc a ha hs
    · rw [hquiet _ (hrank c a ha) hs]
      exact hannounced.counts c hc a ha hs
  | combine =>
    rw [hphase] at h
    exact h
  | clear =>
    rw [hphase] at h
    exact h

theorem CarriesDispatch.begin {mem : Nat → Nat}
    (hmem : PreProcessed net.sh (net.batch st.round rank) st.window.word mem) :
    CarriesDispatch net (st.begin net rank mem) region rank := by
  refine ⟨⟨fun _ hc _ hcol => hmem.stat hc hcol, fun _ _ => rfl⟩, ?_, ?_⟩
  · refine (covered_start (tokenPlan net (st.begin net rank mem) rank) fun place =>
      (region place.1).tokenStore place.2).frame (fun c _ w => ?_) fun _ _ _ _ => rfl
    have hqueue : ((st.begin net rank mem).todo c).filterMap AttnOp.asToken =
        tokenPlan net (st.begin net rank mem) rank c := by
      rw [← sendTodo_asToken]
      rfl
    rw [hqueue]
  · refine (covered_start (addrPlan net (st.begin net rank mem) rank) fun place =>
      (region place.1).tokenAddr place.2).frame (fun c _ w => ?_) fun _ _ _ _ => rfl
    have hqueue : ((st.begin net rank mem).todo c).filterMap AttnOp.asAddr =
        addrPlan net (st.begin net rank mem) rank c := by
      rw [← sendTodo_asAddr]
      rfl
    rw [hqueue]

/-- The rank's own steps past a barrier. -/
theorem CarriesDispatch.next (h : CarriesDispatch net st region rank)
    (hcount : (net.batch st.round rank).Countable net.sh)
    (hvalid : (net.batch st.round rank).Valid net.sh)
    (htodo : ∀ aivId < net.sh.attnAivNum, st.todo aivId = []) :
    CarriesDispatch net (st.next net rank) region rank := by
  unfold CarriesDispatch at h
  unfold AttnRank.next
  cases hphase : st.phase with
  | ready =>
    unfold CarriesDispatch
    dsimp only
    rw [hphase]
    trivial
  | send =>
    rw [hphase] at h
    obtain ⟨hstat, hrows⟩ := h
    refine ⟨⟨hstat.table, hstat.window⟩, fun c hc op hop => ?_, fun m hm _ => ?_, fun c hc a ha _ => ?_,
      fun c hc a ha _ => ?_⟩
    · exact List.mem_flatMap.1 hop
    · exact hrows.holdsRows hcount hvalid hstat.table htodo hm
    · exact .inl (List.mem_flatMap.2 ⟨a, ha, mem_announceOps.2 ⟨rfl, .inl rfl⟩⟩)
    · exact .inl (List.mem_flatMap.2 ⟨a, ha, mem_announceOps.2 ⟨rfl, .inr (.inl rfl)⟩⟩)
  | announce =>
    rw [hphase] at h
    exact ⟨h.1.table, h.1.window⟩
  | combine =>
    rw [hphase] at h
    exact ⟨h.table, h.window⟩
  | clear => trivial

end CarriesDispatch

end AfdPlugin.Cam
