import AfdPlugin.Cam.MoeServe
/-!
# Combine-send and the barriers of a MoE rank

The flags of the way back are set when the last chunk's headers are cleared and its rows
are written, and each of them once. Behind a barrier all cores go on with one chunk.
-/

namespace AfdPlugin.Cam

/-! ## What combine-send writes -/

section Writes
variable {V : Type} {sh : CamShape} {info : Nat → Nat} {x : Nat → V}

/-- The rows so far are for ranks of the group, and so is the resolved rank. -/
structure CombineSendState.InGroup (sh : CamShape) (info : Nat → Nat) (s : CombineSendState V) : Prop where
  writes : ∀ w ∈ s.writes, ∃ i < sh.tpSize, ∃ r x, w = (info 1 + i, .row r x)
  resolved : s.resolvedTpIndex < sh.tpSize → s.dstTokenStore.1 = info 1 + s.resolvedTpIndex

theorem CombineSendState.InGroup.pass {s : CombineSendState V} (h : s.InGroup sh info) (start stop : Nat) :
    (combineSendPass sh info x start stop s).InGroup sh info := by
  have hcells : (whileLoop (fun s => decide (s.nextTokenNumCnt ≤ s.i)) (CombineSendState.nextCell sh info)
      (sh.tpSize * sh.expertNumPerMoe) s).InGroup sh info :=
    whileLoop_keeps (f := CombineSendState.nextCell sh info) (CombineSendState.InGroup sh info)
      (fun s hs => ⟨hs.writes, hs.resolved⟩) _ h
  unfold combineSendPass
  generalize whileLoop (fun s => decide (s.nextTokenNumCnt ≤ s.i)) (CombineSendState.nextCell sh info)
    (sh.tpSize * sh.expertNumPerMoe) s = s at hcells
  have htp : s.currSendId % sh.tpSize < sh.tpSize := Nat.mod_lt _ sh.tpSize_pos
  dsimp only
  split
  · exact ⟨hcells.writes, hcells.resolved⟩
  · have hdst : (if s.resolvedTpIndex ≠ s.currSendId % sh.tpSize then
        (info 1 + s.currSendId % sh.tpSize, info (INFO_NUM + s.currSendId % sh.tpSize))
          else s.dstTokenStore).1 =
        info 1 + s.currSendId % sh.tpSize := by
      split
      · rfl
      · rename_i hresolved
        rw [not_not] at hresolved
        rw [hcells.resolved (hresolved ▸ htp), hresolved]
    refine ⟨fun w hw => ?_, fun _ => hdst⟩
    rcases List.mem_append.1 hw with hold | hnew
    · exact hcells.writes w hold
    · obtain ⟨j, -, rfl⟩ := List.mem_map.1 hnew
      exact ⟨_, htp, _, _, by rw [hdst]⟩

theorem mem_combineSendRows {aivId : Nat} {w : Nat × CombineWrite V}
    (hw : w ∈ combineSendRows sh info x aivId) :
    ∃ i < sh.tpSize, ∃ r x, w = (info 1 + i, .row r x) := by
  refine (whileLoop_keeps (CombineSendState.InGroup sh info) (fun s hs => hs.pass _ _) _ ?_).writes w hw
  exact ⟨fun w hw => (List.not_mem_nil hw).elim, fun hlt => absurd hlt (Nat.lt_irrefl _)⟩

/-- The ranks whose flags a core sets. -/
def flagShare (sh : CamShape) (e aivId : Nat) : List Nat :=
  if e = sh.expertNumPerMoe - 1 then (List.range sh.tpSize).filter fun i => i % sh.moeAivNum = aivId else []

theorem combineSendFlags_eq (moeRankId aivId : Nat) :
    combineSendFlags sh V info moeRankId aivId =
      (flagShare sh (info 4) aivId).map fun i =>
        (info 1 + i, .flag moeRankId (info (INFO_NUM + i) + 1)) := by
  unfold combineSendFlags flagShare
  split
  · induction List.range sh.tpSize with
    | nil => rfl
    | cons i is ih =>
      rw [List.flatMap_cons, ih]
      by_cases hown : i % sh.moeAivNum = aivId
      · simp [hown]
      · simp [hown]
  · rfl

theorem mem_flagShare {e aivId i : Nat} : i ∈ flagShare sh e aivId ↔
    e = sh.expertNumPerMoe - 1 ∧ i < sh.tpSize ∧ i % sh.moeAivNum = aivId := by
  unfold flagShare
  split
  · rename_i he
    simp [he]
  · rename_i he
    simp [he]

end Writes

section Steps
variable {V S F : Type} {net : CamNet V S F} {st st' : MoeRank V} {sent : Nat → Nat} {p : Progress}
  {m g d e aivId rank : Nat} {w : CombineWrite V} {rest : List (MoeOp V)} {pending : Nat → List Nat}

/-! ## Writes to the Attention ranks -/

theorem Sending.same (h : Sending net st sent p g d e) (hchunk : st'.chunk = st.chunk)
    (hwindow : st'.window = st.window) (htaken : st'.taken = st.taken)
    (hreturned : ∀ rank, (∀ i < net.sh.tpSize, rank ≠ g + i) ∨ e ≠ net.sh.expertNumPerMoe - 1 →
      st'.returned rank = st.returned rank) :
    Sending net st' sent p g d e := by
  refine ⟨h.group, h.lt, ?_, h.others.same fun g' hg' hne i hi => ⟨by rw [hwindow], by rw [htaken], ?_⟩,
    fun he => ⟨(h.part he).1, (h.part he).2.same fun i _ =>
      ⟨by rw [hwindow], by rw [htaken], hreturned _ (.inr he)⟩⟩, h.last⟩
  · unfold Recorded
    rw [hchunk, hwindow]
    exact h.recorded
  · refine hreturned _ (.inl fun i' hi' heq => hne ?_)
    rw [(hg'.rank_inj h.group hi hi' heq).1]

theorem ReturnsInv.put (h : ReturnsInv net st sent p g d e) (haiv : aivId < net.sh.moeAivNum)
    (htodo : (st.core aivId).todo = .put rank w :: rest) :
    ReturnsInv net (st.put aivId rest rank w) sent p g d e ∧ rank < net.sh.attnRankNum ∧
      ∃ r x, w = .row r x := by
  obtain ⟨i, hi, r, x, heq⟩ := h.ops aivId haiv (.put rank w) (htodo ▸ List.mem_cons_self)
  cases heq
  refine ⟨⟨h.sending.same rfl rfl rfl fun _ _ => rfl, fun he => ?_, fun c hc op hop => ?_⟩,
    h.sending.group.rank_lt hi, r, x, rfl⟩
  · obtain ⟨k, hk, hcleared⟩ := h.cleared he
    exact ⟨k, hk, fun i hi => (hcleared i hi).same ⟨rfl, rfl, rfl⟩⟩
  · rcases eq_or_ne c aivId with rfl | hne
    · have hcore : ((st.put c rest (g + i) (.row r x)).core c).todo = rest := by
        simp [MoeRank.put, MoeRank.setCore]
      rw [hcore] at hop
      exact h.ops c hc op (htodo ▸ List.mem_cons_of_mem _ hop)
    · have hcore : (st.put aivId rest (g + i) (.row r x)).core c = st.core c :=
        Function.update_of_ne hne _ _
      rw [hcore] at hop
      exact h.ops c hc op hop

/-- A flag is set once, for a dispatch that is taken. -/
theorem FlagsInv.put (h : FlagsInv net st sent p m g d e pending) (haiv : aivId < net.sh.moeAivNum)
    (hsent : ∀ rank < net.sh.attnRankNum, sent rank ≤ st.returned rank + 1)
    (htodo : (st.core aivId).todo = .put rank w :: rest) :
    (∃ pending, FlagsInv net (st.put aivId rest rank w) sent p m g d e pending) ∧
      rank < net.sh.attnRankNum ∧
      ∃ v, w = .flag m v ∧ v ≠ 0 ∧ st.taken rank = st.returned rank + 1 := by
  have hshare := h.share aivId haiv
  have hops := htodo.symm.trans (h.todo aivId haiv)
  cases hpending : pending aivId with
  | nil =>
    rw [hpending] at hops
    cases hops
  | cons i is =>
    rw [hpending, List.map_cons] at hops
    rw [hpending] at hshare
    obtain ⟨hop, rfl⟩ := List.cons.inj hops
    cases hop
    obtain ⟨hi, hown⟩ := hshare.2 i List.mem_cons_self
    obtain ⟨hnotin, hnodup⟩ := List.nodup_cons.1 hshare.1
    have hlast : e = net.sh.expertNumPerMoe - 1 := by
      by_contra he
      rw [h.none he aivId haiv] at hpending
      cases hpending
    obtain ⟨k, hk, hflagged⟩ := h.flagged hlast
    have hcleared := hflagged i hi
    rw [hown, hpending, if_pos List.mem_cons_self] at hcleared
    set v := st.chunk.batchInfo (INFO_NUM + i) + 1 with hv
    set st' := st.put aivId
      (is.map fun i => .put (g + i) (.flag m (st.chunk.batchInfo (INFO_NUM + i) + 1)))
      (g + i) (.flag m v)
    have hreturned : st'.returned = Function.update st.returned (g + i) (st.returned (g + i) + 1) := rfl
    refine ⟨⟨Function.update pending aivId is, ?_, fun c hc => ?_, fun c hc => ?_,
      fun he => absurd hlast he, fun _ => ⟨k, hk, fun i' hi' => ?_⟩⟩, h.sending.group.rank_lt hi, v,
      rfl, Nat.succ_ne_zero _, by rw [hcleared.taken, hcleared.returned]⟩
    · refine h.sending.same rfl rfl rfl fun rank hrank => ?_
      rw [hreturned]
      exact Function.update_of_ne (hrank.resolve_right (not_not.2 hlast) i hi) _ _
    · rcases eq_or_ne c aivId with rfl | hne
      · rw [Function.update_self]
        simp [st', MoeRank.put, MoeRank.setCore]
      · have hcore : st'.core c = st.core c := Function.update_of_ne hne _ _
        rw [Function.update_of_ne hne, hcore]
        exact h.todo c hc
    · rcases eq_or_ne c aivId with rfl | hne
      · rw [Function.update_self]
        exact ⟨hnodup, fun i' hi' => hshare.2 i' (List.mem_cons_of_mem i hi')⟩
      · rw [Function.update_of_ne hne]
        exact h.share c hc
    · rcases eq_or_ne i' i with rfl | hne
      · rw [hown, Function.update_self, if_neg hnotin]
        refine ⟨hcleared.taken, ?_, hcleared.marker, fun hlt => ?_⟩
        · rw [hreturned, Function.update_self, hcleared.returned]
        · -- the rank cannot announce again before it has the flag
          have hle := hsent _ (h.sending.group.rank_lt hi)
          rw [hcleared.returned] at hle
          omega
      · have hsame : SameRank st st' (g + i') := by
          refine ⟨rfl, rfl, ?_⟩
          rw [hreturned]
          exact Function.update_of_ne (by omega) _ _
        have hmem : i' ∈ Function.update pending aivId is (i' % net.sh.moeAivNum) ↔
            i' ∈ pending (i' % net.sh.moeAivNum) := by
          rcases eq_or_ne (i' % net.sh.moeAivNum) aivId with hc | hc
          · rw [hc, Function.update_self, hpending, List.mem_cons]
            simp [hne]
          · rw [Function.update_of_ne hc]
        have hold := hflagged i' hi'
        by_cases hin : i' ∈ pending (i' % net.sh.moeAivNum)
        · rw [if_pos hin] at hold
          rw [if_pos (hmem.2 hin)]
          exact hold.same hsame
        · rw [if_neg hin] at hold
          rw [if_neg fun hin' => hin (hmem.1 hin')]
          exact hold.same hsame rfl

/-- Dispatch-recv writes to no other rank. -/
theorem SearchCore.no_put {cur : Option (Nat × Nat)} (h : SearchCore net st p cur aivId)
    (htodo : (st.core aivId).todo = .put rank w :: rest) : False := by
  cases h with
  | start todo => cases htodo.symm.trans todo
  | probe core todo => cases htodo.symm.trans todo
  | mark core todo => cases htodo.symm.trans todo
  | follow core todo => cases htodo.symm.trans todo
  | @count d i hcur hi todo =>
    have hops := htodo.symm.trans todo
    cases hn : net.sh.tpSize - i with
    | zero =>
      rw [hn] at hops
      cases hops
    | succ n =>
      rw [hn, List.range'_succ] at hops
      cases hops
  | chosen hcur todo => cases htodo.symm.trans todo

theorem MoeInv.put (h : MoeInv net st sent p m) (haiv : aivId < net.sh.moeAivNum)
    (hsent : ∀ rank < net.sh.attnRankNum, sent rank ≤ st.returned rank + 1)
    (htodo : (st.core aivId).todo = .put rank w :: rest) :
    MoeInv net (st.put aivId rest rank w) sent p m ∧ rank < net.sh.attnRankNum ∧
      ((∃ r x, w = .row r x) ∨ ∃ v, w = .flag m v ∧ v ≠ 0 ∧ st.taken rank = st.returned rank + 1) := by
  unfold MoeInv at h ⊢
  have hphase : (st.put aivId rest rank w).phase = st.phase := rfl
  rw [hphase]
  cases hcase : st.phase with
  | search =>
    rw [hcase] at h
    obtain ⟨cur, hsearch⟩ := h
    exact ((hsearch.core aivId haiv).no_put htodo).elim
  | rows k =>
    rw [hcase] at h
    obtain ⟨g, d, e, q, hrows⟩ := h
    exact (hrows.ops aivId haiv (.put rank w) (htodo ▸ List.mem_cons_self)).elim
  | returns =>
    rw [hcase] at h
    obtain ⟨g, d, e, hreturns⟩ := h
    obtain ⟨hnext, hrank, hrow⟩ := hreturns.put haiv htodo
    exact ⟨⟨g, d, e, hnext⟩, hrank, .inl hrow⟩
  | flags =>
    rw [hcase] at h
    obtain ⟨g, d, e, pending, hflags⟩ := h
    obtain ⟨⟨pending', hnext⟩, hrank, hflag⟩ := hflags.put haiv hsent htodo
    exact ⟨⟨g, d, e, pending', hnext⟩, hrank, .inr hflag⟩

/-! ## Barriers -/

/-- The cores of a call have found one group and take one chunk of it. -/
theorem SearchInv.chosen {cur : Option (Nat × Nat)} (h : SearchInv net st sent p cur)
    (htodo : ∀ aivId < net.sh.moeAivNum, (st.core aivId).todo = []) :
    ∃ g d e, cur = some (g, d) ∧ d ≤ e ∧ e < net.sh.expertNumPerMoe ∧
      ∀ aivId < net.sh.moeAivNum, (st.core aivId).tpAttnRankId = g ∧ (st.core aivId).startExpert = d ∧
        (st.core aivId).endExpert = e ∧ Chosen net st (st.core aivId) := by
  have hall : ∀ aivId < net.sh.moeAivNum, ∃ d, cur = some ((st.core aivId).tpAttnRankId, d) ∧
      Chosen net st (st.core aivId) := by
    intro aivId haiv
    have hnil := htodo aivId haiv
    cases h.core aivId haiv with
    | start todo => cases hnil.symm.trans todo
    | probe core todo => cases hnil.symm.trans todo
    | mark core todo => cases hnil.symm.trans todo
    | follow core todo => cases hnil.symm.trans todo
    | count hcur hi todo =>
      rw [hnil] at todo
      simp at todo
    | chosen hcur _ hchosen => exact ⟨_, hcur, hchosen⟩
  obtain ⟨d, hcur, hfirst⟩ := hall 0 net.sh.moeAivNum_pos
  obtain ⟨hopen, -⟩ := h.opened _ _ hcur
  have hchunk := hfirst.chunk
  rw [hopen.chunkFlag] at hchunk
  obtain ⟨-, e, hsel, hde, he⟩ | ⟨-, hsel⟩ :=
    selectChunk_readFlags net.sh.maxTokenNum
      (groupCounts net.sh st.window (st.core 0).tpAttnRankId) hopen.lt
  · refine ⟨_, d, e, hcur, hde, he, fun aivId haiv => ?_⟩
    obtain ⟨d', hcur', hchosen⟩ := hall aivId haiv
    obtain ⟨hrank, -⟩ := Prod.mk.inj (Option.some.inj (hcur'.symm.trans hcur))
    have hchunk' := hchosen.chunk
    rw [hrank, hopen.chunkFlag, hsel] at hchunk'
    obtain ⟨hd', he'⟩ := Prod.mk.inj (Option.some.inj hchunk')
    exact ⟨hrank, hd'.symm, he'.symm, hchosen⟩
  · rw [hsel] at hchunk
    cases hchunk

theorem rankTodo_ops {k i : Nat} {op : MoeOp V} (hop : op ∈ rankTodo V aivId i)
    (hi : if e = net.sh.expertNumPerMoe - 1 then i = k ∧ k < net.sh.tpSize else i < net.sh.tpSize)
    (q : Nat) :
    RowsOp net e aivId k q op := by
  unfold rankTodo at hop
  rcases List.mem_cons.1 hop with rfl | hflags
  · exact hi
  · split at hflags
    · rename_i hzero
      rw [List.mem_singleton.1 hflags]
      exact ⟨hzero, hi⟩
    · exact (List.not_mem_nil hflags).elim

/-- What the cores have to do after `k` barriers: core 0 clears a header first, unless
there was none. -/
theorem rowsTodo_ops {c : MoeCore V} (hend : c.endExpert = e) {k q : Nat} (hq : q + 1 = k ∨ k = 0)
    {op : MoeOp V} (hop : op ∈ c.rowsTodo net aivId k) : RowsOp net e aivId k q op := by
  subst hend
  unfold MoeCore.rowsTodo MoeCore.isLast at hop
  split at hop
  · rename_i hlast
    rw [decide_eq_true_eq] at hlast
    rcases List.mem_append.1 hop with hclear | htail
    · split at hclear
      · rename_i hcore
        rw [List.mem_singleton.1 hclear]
        exact ⟨hcore.1, by omega, by omega⟩
      · exact (List.not_mem_nil hclear).elim
    · split at htail
      · rename_i hk
        exact rankTodo_ops htail (by rw [if_pos hlast]; exact ⟨rfl, hk⟩) q
      · split at htail
        · rename_i hzero
          rw [List.mem_singleton.1 htail]
          exact hzero
        · exact (List.not_mem_nil htail).elim
  · rename_i hlast
    rw [decide_eq_true_eq] at hlast
    rcases List.mem_append.1 hop with hranks | hrecord
    · obtain ⟨i, hi, hmem⟩ := List.mem_flatMap.1 hranks
      exact rankTodo_ops hmem (by rw [if_neg hlast]; exact List.mem_range.1 hi) q
    · split at hrecord
      · rename_i hzero
        rw [List.mem_singleton.1 hrecord]
        exact hzero
      · exact (List.not_mem_nil hrecord).elim

/-- Core 0 begins with the header that the barrier has made free. -/
theorem rowsTodo_clear {c : MoeCore V} (hend : c.endExpert = e)
    (he : e = net.sh.expertNumPerMoe - 1) (k : Nat) :
    ∃ rest, c.rowsTodo net 0 (k + 1) = .clearHeader k :: rest ∧
      ∀ op ∈ rest, RowsOp net e 0 (k + 1) (k + 1) op := by
  subst hend
  refine ⟨if k + 1 < net.sh.tpSize then rankTodo V 0 (k + 1) else [.record], ?_, fun op hop => ?_⟩
  · simp [MoeCore.rowsTodo, MoeCore.isLast, he]
  · split at hop
    · rename_i hk
      exact rankTodo_ops hop (by rw [if_pos he]; exact ⟨rfl, hk⟩) _
    · rw [List.mem_singleton.1 hop]
      exact rfl

/-- The chunk is published behind the last barrier. -/
theorem record_mem_rowsTodo {c : MoeCore V} (hend : c.endExpert = e) {k : Nat}
    (hk : k = if e = net.sh.expertNumPerMoe - 1 then net.sh.tpSize else 0) :
    .record ∈ c.rowsTodo net 0 k := by
  subst hend
  unfold MoeCore.rowsTodo MoeCore.isLast
  split at hk
  · rename_i hlast
    simp [hlast, hk]
  · rename_i hlast
    simp [hlast]

/-- The chunk flags of the group's first rank are set before the first barrier. -/
theorem chunkFlags_mem_rowsTodo {c : MoeCore V} : .chunkFlags 0 ∈ c.rowsTodo net 0 0 := by
  unfold MoeCore.rowsTodo
  have hmem : (.chunkFlags 0 : MoeOp V) ∈ rankTodo V 0 0 := by simp [rankTodo]
  split
  · simp [net.sh.tpSize_pos, hmem]
  · exact List.mem_append_left _ (List.mem_flatMap.2 ⟨0, List.mem_range.2 net.sh.tpSize_pos, hmem⟩)

theorem barriers_eq {c : MoeCore V} (hend : c.endExpert = e) :
    c.barriers net = if e = net.sh.expertNumPerMoe - 1 then net.sh.tpSize else 0 := by
  subst hend
  simp [MoeCore.barriers, MoeCore.isLast]

/-- After the search. -/
theorem SearchInv.rows {cur : Option (Nat × Nat)} (h : SearchInv net st sent p cur)
    (htodo : ∀ aivId < net.sh.moeAivNum, (st.core aivId).todo = []) :
    ∃ g d e q, RowsInv net (st.enterPhase (.rows 0) fun aivId => (st.core aivId).rowsTodo net aivId 0)
      sent p g d e 0 q := by
  obtain ⟨g, d, e, rfl, hde, he, hcores⟩ := h.chosen htodo
  obtain ⟨hopen, hfresh⟩ := h.opened g d rfl
  obtain ⟨hrank, -, -, hchosen⟩ := hcores 0 net.sh.moeAivNum_pos
  refine ⟨g, d, e, 0, ⟨hopen.group, ?_, hde, he, fun c hc => ?_⟩, ?_, h.lastAttn, Nat.zero_le _,
    fun i hi => absurd hi (Nat.not_lt_zero i), fun i _ hi => (hopen.rank i hi).same ⟨rfl, rfl, rfl⟩,
    fun i _ hi => hopen.marker i hi, ?_, .inr chunkFlags_mem_rowsTodo, .inl rfl, fun hk => .inl ?_,
    fun c hc op hop => rowsTodo_ops (hcores c hc).2.2.1 (.inr rfl) hop⟩
  · rcases h.current with hcur | hnone
    · rw [← hcur]
      rfl
    · rw [hnone, hfresh hnone]
      rfl
  · exact ⟨(hcores c hc).1, (hcores c hc).2.1, (hcores c hc).2.2.1⟩
  · exact h.others.same fun _ _ _ i _ => ⟨rfl, rfl, rfl⟩
  · have hview := hchosen.chunkFlag
    rw [hrank, hopen.chunkFlag] at hview
    exact hview
  · exact record_mem_rowsTodo (hcores 0 net.sh.moeAivNum_pos).2.2.1 hk

section Barriers
variable {k q : Nat}

/-- A core with nothing left has done it all. -/
theorem RowsInv.finished (h : RowsInv net st sent p g d e k q)
    (htodo : ∀ aivId < net.sh.moeAivNum, (st.core aivId).todo = []) :
    q = k ∧ (st.window.region g).chunkFlag = readFlags (e + 1) ∧
      ((k = if e = net.sh.expertNumPerMoe - 1 then net.sh.tpSize else 0) → Recorded net st g d e) := by
  have hfirst := htodo 0 net.sh.moeAivNum_pos
  have hchunkFlag := h.chunkFlag
  have hclears := h.clears
  have hrecord := h.record
  rw [hfirst] at hchunkFlag hclears hrecord
  refine ⟨hclears.resolve_right ?_, hchunkFlag.resolve_right List.not_mem_nil,
    fun hk => (hrecord hk).resolve_left List.not_mem_nil⟩
  rintro ⟨-, rest, hcons, -⟩
  cases hcons

/-- A barrier of `ClearFlags`. -/
theorem RowsInv.barrier (h : RowsInv net st sent p g d e k q)
    (htodo : ∀ aivId < net.sh.moeAivNum, (st.core aivId).todo = [])
    (hk : ∀ aivId < net.sh.moeAivNum, k < (st.core aivId).barriers net) :
    RowsInv net (st.enterPhase (.rows (k + 1)) fun aivId => (st.core aivId).rowsTodo net aivId (k + 1))
      sent p g d e (k + 1) k := by
  have haiv := net.sh.moeAivNum_pos
  obtain ⟨rfl, hflag, -⟩ := h.finished htodo
  have hcore := h.taken.core 0 haiv
  have hlt := hk 0 haiv
  rw [barriers_eq hcore.2.2] at hlt
  have he : e = net.sh.expertNumPerMoe - 1 := by
    by_contra he
    rw [if_neg he] at hlt
    exact Nat.not_lt_zero _ hlt
  rw [if_pos he] at hlt
  refine ⟨⟨h.taken.group, h.taken.current, h.taken.le, h.taken.lt, h.taken.core⟩,
    h.others.same fun _ _ _ i _ => ⟨rfl, rfl, rfl⟩, h.lastAttn, ?_,
    fun i hi => (h.cleared i hi).same ⟨rfl, rfl, rfl⟩,
    fun i hge hi => (h.uncleared i hge hi).same ⟨rfl, rfl, rfl⟩, h.marker, h.viewFlag, .inl hflag,
    .inr ⟨rfl, rowsTodo_clear hcore.2.2 he q⟩, fun hk' => .inl (record_mem_rowsTodo hcore.2.2 hk'),
    fun c hc op hop => rowsTodo_ops (h.taken.core c hc).2.2 (.inl rfl) hop⟩
  rw [if_pos he]
  exact hlt

/-- The end of dispatch-recv. -/
theorem RowsInv.returns (h : RowsInv net st sent p g d e k q)
    (htodo : ∀ aivId < net.sh.moeAivNum, (st.core aivId).todo = [])
    (hk : ∀ aivId < net.sh.moeAivNum, (st.core aivId).barriers net = k) {calls : List RecvCall}
    {todo : Nat → List (MoeOp V)}
    (hops : ∀ aivId, ∀ op ∈ todo aivId, ∃ i < net.sh.tpSize, ∃ r x,
      op = .put (st.chunk.batchInfo 1 + i) (.row r x)) :
    ∃ p', p.call net.sh.expertNumPerMoe ⟨st.chunk.batchInfo 1, st.chunk.batchInfo 3,
      st.chunk.batchInfo 4⟩ = some p' ∧
      ReturnsInv net { st.enterPhase .returns todo with calls } sent p' g d e := by
  obtain ⟨rfl, hflag, hrecord⟩ := h.finished htodo
  have hq := (hk 0 net.sh.moeAivNum_pos).symm.trans (barriers_eq (h.taken.core 0 net.sh.moeAivNum_pos).2.2)
  have hdone := hrecord hq
  have ⟨hinfo1, hinfo3, hinfo4, _⟩ := hdone
  have hcall : p.current.getD (g, 0) = (g, d) ∧ d ≤ e ∧ e < net.sh.expertNumPerMoe :=
    ⟨h.taken.current, h.taken.le, h.taken.lt⟩
  let next : MoeRank V := { st.enterPhase .returns todo with calls }
  have hsame : ∀ rank, SameRank st next rank := fun _ => ⟨rfl, rfl, rfl⟩
  by_cases he : e = net.sh.expertNumPerMoe - 1
  · rw [if_pos he] at hq
    subst hq
    refine ⟨⟨Function.update p.services g (p.services g + 1), none⟩, ?_,
      ⟨h.taken.group, h.taken.lt, hdone, fun g' hg' hne i hi => ?_, fun hpart => absurd he hpart,
        fun _ => rfl⟩,
      fun _ => ⟨p.services g, Function.update_self g _ _, fun i hi => (h.cleared i hi).same (hsame _)⟩,
      fun c _ op hop => ?_⟩
    · unfold Progress.call
      dsimp only
      rw [hinfo1, hinfo3, hinfo4, if_pos hcall, if_pos he]
    · have hgg : g' ≠ g := fun heq => hne (by rw [heq])
      dsimp only
      rw [Function.update_of_ne hgg]
      exact (h.others g' hg' hne i hi).same (hsame _) rfl
    · rw [← hinfo1]
      exact hops c op hop
  · rw [if_neg he] at hq
    subst hq
    have hlt := h.taken.lt
    have hopen : GroupOpen net next ⟨p.services, some (g, e + 1)⟩ g (e + 1) :=
      ⟨h.taken.group, by omega, fun i hi => (h.uncleared i (Nat.zero_le i) hi).same (hsame _),
        fun i hi => h.marker i (Nat.zero_le i) hi, hflag⟩
    refine ⟨⟨p.services, some (g, e + 1)⟩, ?_,
      ⟨h.taken.group, hlt, hdone, fun g' hg' hne i hi => ?_, fun _ => ⟨rfl, hopen⟩,
        fun hlast => absurd hlast he⟩, fun hlast => absurd hlast he, fun c _ op hop => ?_⟩
    · unfold Progress.call
      dsimp only
      rw [hinfo1, hinfo3, hinfo4, if_pos hcall, if_neg he]
    · exact (h.others g' hg' hne i hi).same (hsame _) rfl
    · rw [← hinfo1]
      exact hops c op hop

/-- Between the rows of combine-send and its flags. -/
theorem ReturnsInv.flags (h : ReturnsInv net st sent p g d e) :
    FlagsInv net (st.enterPhase .flags fun aivId =>
      (combineSendFlags net.sh V st.chunk.batchInfo m aivId).map fun w => .put w.1 w.2)
      sent p m g d e (flagShare net.sh e) := by
  obtain ⟨hinfo1, -, hinfo4, -⟩ := h.sending.recorded
  refine ⟨h.sending.same rfl rfl rfl fun _ _ => rfl, fun c hc => ?_, fun c hc => ⟨?_, fun i hi => ?_⟩,
    fun he c hc => ?_, fun he => ?_⟩
  · dsimp only [MoeRank.enterPhase]
    rw [combineSendFlags_eq, List.map_map, hinfo1, hinfo4]
    rfl
  · unfold flagShare
    split
    · exact List.nodup_range.filter _
    · exact List.nodup_nil
  · exact (mem_flagShare.1 hi).2
  · exact if_neg he
  · obtain ⟨k, hk, hcleared⟩ := h.cleared he
    refine ⟨k, hk, fun i hi => ?_⟩
    rw [if_pos (mem_flagShare.2 ⟨he, hi, rfl⟩)]
    exact (hcleared i hi).same ⟨rfl, rfl, rfl⟩

/-- The end of combine-send. -/
theorem FlagsInv.search (h : FlagsInv net st sent p m g d e pending) (hA : 0 < net.sh.attnRankNum)
    (htodo : ∀ aivId < net.sh.moeAivNum, (st.core aivId).todo = []) :
    SearchInv net (st.enterPhase .search fun _ => [.start]) sent p p.current := by
  have hnone : ∀ aivId < net.sh.moeAivNum, pending aivId = [] := by
    intro aivId haiv
    exact List.map_eq_nil_iff.1 ((h.todo aivId haiv).symm.trans (htodo aivId haiv))
  have hsame : ∀ rank, SameRank st (st.enterPhase .search fun _ => [.start]) rank :=
    fun _ => ⟨rfl, rfl, rfl⟩
  have hlastAttn := h.sending.recorded.2.2.2
  by_cases he : e = net.sh.expertNumPerMoe - 1
  · have hcurrent := h.sending.last he
    obtain ⟨k, hk, hflagged⟩ := h.flagged he
    rw [if_pos he] at hlastAttn
    refine ⟨.inl rfl, fun g' d' hcur => ?_, fun g' hg' _ i hi => ?_, ?_, fun g' d' hcur => ?_,
      fun c _ => .start rfl fun _ => rfl⟩
    · rw [hcurrent] at hcur
      cases hcur
    · rcases eq_or_ne g g' with rfl | hne
      · have hidle := hflagged i hi
        rw [hnone _ (Nat.mod_lt i net.sh.moeAivNum_pos), if_neg List.not_mem_nil, ← hk] at hidle
        exact hidle.same (hsame _) rfl
      · exact (h.sending.others g' hg' (fun heq => hne (Option.some.inj heq)) i hi).same (hsame _) rfl
    · change IsGroup net.sh st.window.lastAttn
      rw [hlastAttn]
      exact isGroup_mod hA ((Nat.dvd_add_right h.sending.group.dvd).2 (Nat.dvd_refl _))
    · rw [hcurrent] at hcur
      cases hcur
  · obtain ⟨hcurrent, hopen⟩ := h.sending.part he
    rw [if_neg he] at hlastAttn
    refine ⟨.inl rfl, fun g' d' hcur => ?_, ?_, ?_, fun g' d' hcur => ?_,
      fun c _ => .start rfl fun _ => rfl⟩
    · rw [hcurrent] at hcur
      obtain ⟨rfl, rfl⟩ := Prod.mk.inj (Option.some.inj hcur)
      exact ⟨hopen.same fun i _ => hsame _, fun hnil => by rw [hcurrent] at hnil; cases hnil⟩
    · rw [hcurrent]
      exact h.sending.others.same fun _ _ _ i _ => hsame _
    · change IsGroup net.sh st.window.lastAttn
      rw [hlastAttn]
      exact h.sending.group
    · rw [hcurrent] at hcur
      obtain ⟨rfl, rfl⟩ := Prod.mk.inj (Option.some.inj hcur)
      exact hlastAttn

/-- All cores of a MoE rank pass a barrier. -/
theorem MoeInv.next (h : MoeInv net st sent p m) (hA : 0 < net.sh.attnRankNum)
    (hp : received net.sh.expertNumPerMoe st.calls = some p)
    (htodo : ∀ aivId < net.sh.moeAivNum, (st.core aivId).todo = []) (hnext : st.next net m = some st') :
    (∃ p, received net.sh.expertNumPerMoe st'.calls = some p ∧ MoeInv net st' sent p m) ∧
      ∀ rank, SameRank st st' rank := by
  unfold MoeInv at h
  unfold MoeRank.next at hnext
  cases hcase : st.phase with
  | search =>
    rw [hcase] at h hnext
    cases hnext
    obtain ⟨cur, hsearch⟩ := h
    exact ⟨⟨p, hp, hsearch.rows htodo⟩, fun _ => ⟨rfl, rfl, rfl⟩⟩
  | rows k =>
    rw [hcase] at h hnext
    obtain ⟨g, d, e, q, hrows⟩ := h
    dsimp only at hnext
    split at hnext
    · rename_i hk
      cases hnext
      exact ⟨⟨p, hp, g, d, e, k, hrows.barrier htodo hk⟩, fun _ => ⟨rfl, rfl, rfl⟩⟩
    · split at hnext
      · rename_i hk
        cases hnext
        have hops : ∀ aivId,
            ∀ op ∈ (combineSendRows net.sh st.chunk.batchInfo (st.expertOut net m) aivId).map (fun w =>
              MoeOp.put w.1 w.2), ∃ i < net.sh.tpSize, ∃ r x,
            op = .put (st.chunk.batchInfo 1 + i) (.row r x) := by
          intro aivId op hop
          obtain ⟨w, hw, rfl⟩ := List.mem_map.1 hop
          obtain ⟨i, hi, r, x, rfl⟩ := mem_combineSendRows hw
          exact ⟨i, hi, r, x, rfl⟩
        obtain ⟨p', hcall, hreturns⟩ := hrows.returns htodo hk hops
        refine ⟨⟨p', ?_, g, d, e, hreturns⟩, fun _ => ⟨rfl, rfl, rfl⟩⟩
        rw [received_append, hp]
        exact hcall
      · cases hnext
  | returns =>
    rw [hcase] at h hnext
    cases hnext
    obtain ⟨g, d, e, hreturns⟩ := h
    exact ⟨⟨p, hp, g, d, e, _, hreturns.flags⟩, fun _ => ⟨rfl, rfl, rfl⟩⟩
  | flags =>
    rw [hcase] at h hnext
    cases hnext
    obtain ⟨g, d, e, pending, hflags⟩ := h
    exact ⟨⟨p, hp, _, hflags.search hA htodo⟩, fun _ => ⟨rfl, rfl, rfl⟩⟩

end Barriers

/-- Core 0 marks a group that has announced its dispatch. -/
theorem SearchCore.touched {cur : Option (Nat × Nat)} (h : SearchCore net st p cur aivId) {op : MoeOp V}
    (htodo : (st.core aivId).todo = op :: rest) (htouch : op.touches (st.core aivId) = some rank) :
    (st.window.region rank).tokenNum ≠ 0 := by
  cases h with
  | start todo =>
    cases htodo.symm.trans todo
    cases htouch
  | probe core todo =>
    cases htodo.symm.trans todo
    cases htouch
  | mark core todo first hn group own found =>
    cases htodo.symm.trans todo
    cases htouch
    simpa using found 0 net.sh.tpSize_pos
  | follow core todo =>
    cases htodo.symm.trans todo
    cases htouch
  | @count d i hcur hi todo =>
    have hops := htodo.symm.trans todo
    cases hn : net.sh.tpSize - i with
    | zero =>
      rw [hn] at hops
      cases hops
      cases htouch
    | succ n =>
      rw [hn, List.range'_succ] at hops
      cases hops
      cases htouch
  | chosen hcur todo => cases htodo.symm.trans todo

/-- A step of a core in dispatch-recv. -/
theorem MoeInv.op (h : MoeInv net st sent p m) (hA : 0 < net.sh.attnRankNum)
    (htoken : ∀ rank < net.sh.attnRankNum, (st.window.region rank).tokenNum ≠ 0 →
      st.taken rank < sent rank) (haiv : aivId < net.sh.moeAivNum) {op : MoeOp V}
    (htodo : (st.core aivId).todo = op :: rest) (hop : st.op net aivId rest op = some st') :
    MoeInv net st' sent p m ∧ st'.calls = st.calls ∧ ∀ rank, MoeTouch st st' rank := by
  unfold MoeInv at h
  cases hcase : st.phase with
  | search =>
    rw [hcase] at h
    obtain ⟨cur, hsearch⟩ := h
    obtain ⟨hphase, hcalls, htouch⟩ :=
      MoeRank.op_effect hop fun rank => (hsearch.core aivId haiv).touched htodo
    refine ⟨?_, hcalls, htouch⟩
    unfold MoeInv
    rw [hphase, hcase]
    exact hsearch.step hA htoken haiv htodo hop
  | rows k =>
    rw [hcase] at h
    obtain ⟨g, d, e, q, hrows⟩ := h
    obtain ⟨hphase, hcalls, htouch⟩ := MoeRank.op_effect hop fun rank =>
      hrows.touched haiv (hrows.ops aivId haiv op (htodo ▸ List.mem_cons_self))
    refine ⟨?_, hcalls, htouch⟩
    unfold MoeInv
    rw [hphase, hcase]
    obtain ⟨q', hnext⟩ := hrows.step hA haiv htodo hop
    exact ⟨g, d, e, q', hnext⟩
  | returns =>
    rw [hcase] at h
    obtain ⟨g, d, e, hreturns⟩ := h
    obtain ⟨i, -, r, x, rfl⟩ := hreturns.ops aivId haiv op (htodo ▸ List.mem_cons_self)
    cases hop
  | flags =>
    rw [hcase] at h
    obtain ⟨g, d, e, pending, hflags⟩ := h
    have hmem : op ∈ (st.core aivId).todo := htodo ▸ List.mem_cons_self
    rw [hflags.todo aivId haiv] at hmem
    obtain ⟨i, -, rfl⟩ := List.mem_map.1 hmem
    cases hop

end Steps

end AfdPlugin.Cam
