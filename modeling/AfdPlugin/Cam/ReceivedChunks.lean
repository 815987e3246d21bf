import AfdPlugin.Cam.Announcements
import AfdPlugin.Cam.ReceiveValues
/-!
# Chunks in every interleaving

A chunk that leaves dispatch-recv has the rows of the dispatches that its group's ranks
have announced, and what its rank returns of it are the outputs of their experts.
-/

namespace AfdPlugin.Cam

/-! ## What the cores begin with -/

section Todo
variable {V S F : Type} {net : CamNet V S F} {c : MoeCore V} {e k i aivId : Nat} {op : MoeOp V}

theorem rankTodo_asEnter (aivId i : Nat) : (rankTodo V aivId i).filterMap MoeOp.asEnter = [i] := by
  by_cases h : aivId = 0
  · simp [rankTodo, h, MoeOp.asEnter]
  · simp [rankTodo, h, MoeOp.asEnter]

theorem mem_rankTodo (h : op ∈ rankTodo V aivId i) : op = .enter i ∨ op = .chunkFlags i := by
  unfold rankTodo at h
  rcases List.mem_cons.1 h with rfl | h
  · exact .inl rfl
  · split at h
    · exact .inr (List.mem_singleton.1 h)
    · exact absurd h List.not_mem_nil

/-- The ranks that a core begins with after `k` barriers. -/
theorem rowsTodo_asEnter (hend : c.endExpert = e) (aivId k : Nat) :
    (c.rowsTodo net aivId k).filterMap MoeOp.asEnter =
    if e = net.sh.expertNumPerMoe - 1 then (if k < net.sh.tpSize then [k] else [])
      else List.range net.sh.tpSize := by
  subst hend
  unfold MoeCore.rowsTodo MoeCore.isLast
  by_cases hlast : c.endExpert = net.sh.expertNumPerMoe - 1
  · have hclear : (if aivId = 0 ∧ 0 < k then [MoeOp.clearHeader (V := V) (k - 1)] else []).filterMap
        MoeOp.asEnter = [] := by
      split <;> rfl
    rw [if_pos (decide_eq_true hlast), if_pos hlast, List.filterMap_append, hclear, List.nil_append]
    split
    · exact rankTodo_asEnter aivId k
    · split <;> rfl
  · have hrecord : (if aivId = 0 then [MoeOp.record (V := V)] else []).filterMap MoeOp.asEnter = [] := by
      split <;> rfl
    rw [if_neg (by simpa using hlast), if_neg hlast, List.filterMap_append, hrecord, List.append_nil,
      List.filterMap_flatMap]
    simp only [rankTodo_asEnter]
    exact List.flatMap_singleton' _

theorem mem_rowsTodo (hend : c.endExpert = e) (h : op ∈ c.rowsTodo net aivId k) :
    (∃ i, op = .enter i ∨ op = .chunkFlags i ∨ op = .clearHeader i) ∨ op = .record ∧
      rankLimit net.sh e k = net.sh.tpSize := by
  subst hend
  have hrank : ∀ i, op ∈ rankTodo V aivId i → ∃ i, op = .enter i ∨ op = .chunkFlags i ∨
      op = .clearHeader i := by
    intro i hi
    rcases mem_rankTodo hi with rfl | rfl
    · exact ⟨i, .inl rfl⟩
    · exact ⟨i, .inr (.inl rfl)⟩
  unfold MoeCore.rowsTodo MoeCore.isLast at h
  unfold rankLimit
  by_cases hlast : c.endExpert = net.sh.expertNumPerMoe - 1
  · rw [if_pos (decide_eq_true hlast)] at h
    rw [if_pos hlast]
    rcases List.mem_append.1 h with h | h
    · split at h
      · exact .inl ⟨k - 1, .inr (.inr (List.mem_singleton.1 h))⟩
      · exact absurd h List.not_mem_nil
    · split at h
      · exact .inl (hrank k h)
      · split at h
        · exact .inr ⟨List.mem_singleton.1 h, by omega⟩
        · exact absurd h List.not_mem_nil
  · rw [if_neg (by simpa using hlast)] at h
    rw [if_neg hlast]
    rcases List.mem_append.1 h with h | h
    · obtain ⟨i, -, hi⟩ := List.mem_flatMap.1 h
      exact .inl (hrank i hi)
    · split at h
      · exact .inr ⟨List.mem_singleton.1 h, rfl⟩
      · exact absurd h List.not_mem_nil

theorem rowsTodo_asCopy (w : MoeWindow V) (g aivId k : Nat) :
    (c.rowsTodo net aivId k).filterMap (MoeOp.asCopy w g) = [] := by
  rw [List.filterMap_eq_nil_iff]
  intro op hop
  rcases mem_rowsTodo rfl hop with ⟨i, rfl | rfl | rfl⟩ | ⟨rfl, -⟩
  · rfl
  · rfl
  · rfl
  · rfl

/-- The outputs come last. -/
theorem rowsTodo_last (aivId k : Nat) : (c.rowsTodo net aivId k).Pairwise fun op _ => op ≠ .record := by
  have hpairs : ∀ {l : List (MoeOp V)}, (∀ op ∈ l, op ≠ .record) → l.Pairwise fun op _ =>
      op ≠ .record := fun h =>
    List.pairwise_of_forall_mem_list fun op hop _ _ => h op hop
  have hrank : ∀ i, ∀ op ∈ rankTodo V aivId i, op ≠ .record := by
    intro i op hop
    rcases mem_rankTodo hop with rfl | rfl
    · simp
    · simp
  unfold MoeCore.rowsTodo
  split
  · have hclear : ∀ op ∈ (if aivId = 0 ∧ 0 < k then [MoeOp.clearHeader (V := V) (k - 1)] else []),
        op ≠ .record := by
      intro op hop
      split at hop
      · rw [List.mem_singleton.1 hop]
        simp
      · exact absurd hop List.not_mem_nil
    rw [List.pairwise_append]
    refine ⟨hpairs hclear, ?_, fun op hop _ _ => hclear op hop⟩
    split
    · exact hpairs (hrank k)
    · split
      · exact List.pairwise_singleton _ _
      · exact List.Pairwise.nil
  · have hranks : ∀ op ∈ (List.range net.sh.tpSize).flatMap (rankTodo V aivId), op ≠ .record := by
      intro op hop
      obtain ⟨i, -, hi⟩ := List.mem_flatMap.1 hop
      exact hrank i op hi
    rw [List.pairwise_append]
    refine ⟨hpairs hranks, ?_, fun op hop _ _ => hranks op hop⟩
    split
    · exact List.pairwise_singleton _ _
    · exact List.Pairwise.nil

end Todo

/-! ## Barriers -/

section Barriers
variable {V S F : Type} {net : CamNet V S F} {st : MoeRank V} {sent : Nat → Nat} {p : Progress}
  {m g d e k q R : Nat} {w : MoeWindow V} {n : Nat → Nat}

/-- A core with nothing left has received its ranks. -/
theorem Receiving.received (h : Receiving net st R m g d e k w n)
    (htodo : ∀ c < net.sh.moeAivNum, (st.core c).todo = []) {c : Nat} (hc : c < net.sh.moeAivNum) :
    n c = rankLimit net.sh e k := by
  obtain ⟨hle, henters, -, -⟩ := h.core c hc
  rw [htodo c hc] at henters
  have hlen := congrArg List.length henters
  simp at hlen
  omega

theorem Receiving.barrier (h : Receiving net st R m g d e k w n)
    (hrows : RowsInv net st sent p g d e k q) (htodo : ∀ c < net.sh.moeAivNum, (st.core c).todo = [])
    (hk : ∀ c < net.sh.moeAivNum, k < (st.core c).barriers net) :
    Receiving net (st.enterPhase (.rows (k + 1)) fun c => (st.core c).rowsTodo net c (k + 1)) R m g d e
      (k + 1) w n := by
  have haiv := net.sh.moeAivNum_pos
  have hend : ∀ c < net.sh.moeAivNum, (st.core c).endExpert = e := fun c hc => (hrows.taken.core c hc).2.2
  have hlt := hk 0 haiv
  rw [barriers_eq (hend 0 haiv)] at hlt
  have he : e = net.sh.expertNumPerMoe - 1 := by
    by_contra he
    rw [if_neg he] at hlt
    exact Nat.not_lt_zero _ hlt
  rw [if_pos he] at hlt
  have hn : ∀ c < net.sh.moeAivNum, n c = k + 1 := by
    intro c hc
    rw [h.received htodo hc, rankLimit, if_pos he]
    omega
  have hlimit : rankLimit net.sh e (k + 1) = if k + 1 < net.sh.tpSize then k + 2 else k + 1 := by
    rw [rankLimit, if_pos he]
    split
    · omega
    · omega
  refine ⟨h.serving, h.chunk, h.layer, h.same,
    fun c hc => ⟨?_, ?_, (h.core c hc).tensor, (h.core c hc).view⟩, ?_, rowsTodo_last _ _,
    fun hmem => ?_, fun hk' => .inl (record_mem_rowsTodo (hend 0 haiv) hk')⟩
  · rw [hn c hc, hlimit]
    split
    · omega
    · omega
  · refine (rowsTodo_asEnter (hend c hc) c (k + 1)).trans ?_
    rw [if_pos he, hn c hc, hlimit]
    split
    · rw [show k + 2 - (k + 1) = 1 by omega]
      rfl
    · rw [Nat.sub_self]
      rfl
  · refine h.copies.frame (fun c hc x => ?_) fun _ _ _ _ => rfl
    have hqueue : ((st.core c).rowsTodo net c (k + 1)).filterMap (MoeOp.asCopy w g) = [] :=
      rowsTodo_asCopy _ _ _ _
    change x ∈ ((st.core c).rowsTodo net c (k + 1)).filterMap (MoeOp.asCopy w g) ↔ _
    rw [hqueue, htodo c hc]
    rfl
  · rcases mem_rowsTodo (hend 0 haiv) hmem with ⟨i, heq⟩ | ⟨-, hlimit⟩
    · simp at heq
    · exact hlimit

/-- The end of dispatch-recv: the chunk is the one of the window that it was chosen from. -/
theorem Receiving.holds (h : Receiving net st R m g d e k w n)
    (hgroup : GroupAdmitted net.sh fun i => net.batch R (g + i)) (hm : m < net.sh.moeRankNum)
    (hrows : RowsInv net st sent p g d e k q) (htodo : ∀ c < net.sh.moeAivNum, (st.core c).todo = [])
    (hk : ∀ c < net.sh.moeAivNum, (st.core c).barriers net = k) : st.chunk.Holds net.sh w g d e := by
  have haiv := net.sh.moeAivNum_pos
  have hde := hrows.taken.le
  have he := hrows.taken.lt
  have hmax := hgroup.maxTokenNum_lt
  have hfits := h.serving.fits hgroup hm
  have hq := (hk 0 haiv).symm.trans (barriers_eq (hrows.taken.core 0 haiv).2.2)
  have hn : ∀ c < net.sh.moeAivNum, n c = net.sh.tpSize := by
    intro c hc
    rw [h.received htodo hc, rankLimit]
    split
    · rename_i hlast
      rw [if_pos hlast] at hq
      omega
    · rfl
  obtain ⟨hinfo, hrecv⟩ := (h.told hq).resolve_left (by rw [htodo 0 haiv]; exact List.not_mem_nil)
  have hcounts : ∀ j < net.sh.expertNumPerMoe, groupCounts net.sh w g j =
      rowCount (w.counts g) net.sh.tpSize j := fun j hj => by
    rw [groupCounts_eq hfits (by omega), if_pos hj]
  have hlayer : (w.region g).layerIndex = net.layerIndex R g := by
    obtain ⟨region, hregion, heq⟩ := h.serving 0 net.sh.tpSize_pos
    rw [Nat.add_zero] at heq
    rw [heq]
    exact hregion.layer
  refine ⟨⟨hde, he⟩, ?_, ⟨?_, ?_, ?_⟩, ?_, fun i hi => ?_, fun i hi j hj => ?_, fun j hj => ?_,
    fun copy hcopy => ?_⟩
  · have hfits' : ∀ j < net.sh.expertNumPerMoe, groupCounts net.sh w g j ≤ net.sh.maxTokenNum :=
      fun j hj => by
      rw [hcounts j hj]
      exact hfits j hj
    obtain ⟨e', hsel, -, -, hsum⟩ :=
      exists_selectChunk hmax hfits' (show d < net.sh.expertNumPerMoe by omega)
    rw [h.chunk] at hsel
    obtain ⟨-, rfl⟩ := Prod.mk.inj (Option.some.inj hsel)
    rw [chunkStart, prefixSum_gridCount_rows]
    refine le_of_eq_of_le (prefixSum_congr fun j hj => ?_) hsum
    exact (hcounts (d + j) (by omega)).symm
  · rw [hinfo]
    rfl
  · rw [hinfo]
    rfl
  · rw [hinfo]
    rfl
  · rw [hinfo, if_pos rfl, hlayer]
  · rw [hinfo, if_neg (by unfold INFO_NUM; omega)]
    exact (tpBatchInfo_eq net.sh w g d e hi).1
  · rw [hinfo, if_neg (by unfold INFO_NUM; omega)]
    exact (tpBatchInfo_eq net.sh w g d e hi).2 j hj
  · choose owner howner using fun i => exists_cellOwner (w.countsFrom g d i) (e + 1 - d)
    have htensor := (receiveRanks_eq hfits (by omega) hde he howner haiv).1
    rw [receiveRanks_copyPlan] at htensor
    rw [hrecv]
    exact htensor.received j hj
  · obtain ⟨c, hc, hmem⟩ := List.mem_flatMap.1 ((receiveRanks_perm hfits (by omega) hde he).mem_iff.2 hcopy)
    rw [List.mem_range] at hc
    rw [receiveRanks_copyPlan, ← hn c hc] at hmem
    exact h.copies.all_done (fun c hc => by rw [htodo c hc]; rfl) hc hmem

end Barriers

/-! ## The search -/

section Search
variable {V S F : Type} (net : CamNet V S F) (st : MoeRank V) (p : Progress)

/-- Core 0 has the layer of the group that it has found. -/
def LayerRead : Prop :=
  (st.core 0).todo = [.start] ∨ (∃ i j, (st.core 0).todo = [.probe i j]) ∨
    (st.core 0).layerIndex = net.layerIndex (p.services (st.core 0).tpAttnRankId) (st.core 0).tpAttnRankId

/-- What is announced to MoE rank `m` and not cleared is there. -/
def DispatchesHeld (sent : Nat → Nat) (m : Nat) : Prop :=
  ∀ rank < net.sh.attnRankNum, st.taken rank < sent rank →
  (st.window.region rank).Dispatched net.sh (net.batch (st.taken rank) rank)
    (net.layerIndex (st.taken rank) rank) m

variable {net st p} {st' : MoeRank V} {sent : Nat → Nat} {cur : Option (Nat × Nat)} {m g aivId : Nat}
  {op : MoeOp V} {rest : List (MoeOp V)}

/-- The dispatches of a group that are cleared are the services of it. -/
theorem SearchInv.taken_eq (h : SearchInv net st sent p cur) (hg : IsGroup net.sh g) {i : Nat}
    (hi : i < net.sh.tpSize) :
    st.taken (g + i) = p.services g := by
  by_cases hcur : cur.map Prod.fst = some g
  · obtain ⟨⟨g', d⟩, rfl, rfl⟩ := Option.map_eq_some_iff.1 hcur
    exact ((h.opened g' d rfl).1.rank i hi).taken
  · exact (h.others g hg hcur i hi).taken

/-- A step of a core leaves the other cores alone. -/
theorem MoeRank.op_core_of_ne (hop : st.op net aivId rest op = some st') {c : Nat} (hne : c ≠ aivId) :
    st'.core c = st.core c := by
  have hself : ∀ k : MoeCore V, Function.update st.core aivId k c = st.core c :=
    fun k => Function.update_of_ne hne _ _
  cases op with
  | probe i j =>
    unfold MoeRank.op at hop
    dsimp only at hop
    split at hop
    · cases hop
      exact hself _
    · split at hop
      · cases hop
        exact hself _
      · cases hop
        exact hself _
  | follow i =>
    unfold MoeRank.op at hop
    dsimp only at hop
    split at hop
    · cases hop
      exact hself _
    · cases hop
      exact hself _
  | flags =>
    obtain ⟨chunk, -, rfl⟩ := Option.map_eq_some_iff.1 hop
    exact hself _
  | put rank w => cases hop
  | start | mark | count | enter | copy | chunkFlags | clearHeader | record =>
    cases hop
    exact hself _

theorem LayerRead.step (h : LayerRead net st p) (hsearch : SearchInv net st sent p cur)
    (hA : 0 < net.sh.attnRankNum)
    (htoken : ∀ rank < net.sh.attnRankNum, (st.window.region rank).tokenNum ≠ 0 →
      st.taken rank < sent rank) (hheld : DispatchesHeld net st sent m)
    (haiv : aivId < net.sh.moeAivNum) (htodo : (st.core aivId).todo = op :: rest)
    (hop : st.op net aivId rest op = some st') : LayerRead net st' p := by
  -- past the probe the layer is read
  have hread : (∀ op', op = op' → op' ≠ .start ∧ ∀ i j, op' ≠ .probe i j) → aivId = 0 →
      (st'.core 0).layerIndex = (st.core 0).layerIndex ∧
          (st'.core 0).tpAttnRankId = (st.core 0).tpAttnRankId → LayerRead net st' p := by
    rintro hop' rfl ⟨hlayer, hrank⟩
    obtain ⟨hstart, hprobe⟩ := hop' op rfl
    refine .inr (.inr ?_)
    rw [hlayer, hrank]
    rcases h with htodo' | ⟨i, j, htodo'⟩ | hread
    · exact absurd (List.cons.inj (htodo.symm.trans htodo')).1 hstart
    · exact absurd (List.cons.inj (htodo.symm.trans htodo')).1 (hprobe i j)
    · exact hread
  by_cases hzero : aivId = 0
  · subst hzero
    cases hsearch.core 0 haiv with
    | start todo =>
      obtain ⟨rfl, rfl⟩ := List.cons.inj (htodo.symm.trans todo)
      cases hop
      exact .inr (.inl ⟨0, net.sh.tpSize, by rw [MoeRank.setCore_core]; rfl⟩)
    | @probe i j _ todo first view hj hj' own found =>
      obtain ⟨rfl, rfl⟩ := List.cons.inj (htodo.symm.trans todo)
      unfold MoeRank.op at hop
      dsimp only at hop
      split at hop
      · cases hop
        exact .inr (.inl ⟨_, _, by rw [MoeRank.setCore_core]⟩)
      · rename_i hsome
        split at hop
        · cases hop
          exact .inr (.inl ⟨_, _, by rw [MoeRank.setCore_core]⟩)
        · cases hop
          obtain rfl : j = 1 := by omega
          rw [Nat.add_sub_cancel] at hsome ⊢
          have hgroup :
              IsGroup net.sh
              (((st.core 0).view.lastAttn + net.sh.tpSize * i) % net.sh.attnRankNum) := by
            rw [view]
            exact isGroup_mod hA ((Nat.dvd_add_right hsearch.lastAttn.dvd).2 (Dvd.intro _ rfl))
          have hlayer := (hheld _ hgroup.lt (htoken _ hgroup.lt hsome)).layer
          have htaken := hsearch.taken_eq hgroup net.sh.tpSize_pos
          rw [Nat.add_zero] at htaken
          rw [htaken] at hlayer
          refine .inr (.inr ?_)
          rw [MoeRank.setCore_core]
          exact hlayer
    | mark _ todo =>
      obtain ⟨rfl, rfl⟩ := List.cons.inj (htodo.symm.trans todo)
      refine hread (fun _ heq => by subst heq; simp) rfl ?_
      have hcore : st'.core 0 = { st.core 0 with todo := countTodo net ++ [] } := by
        cases hop
        exact Function.update_self 0 _ st.core
      rw [hcore]
      exact ⟨rfl, rfl⟩
    | follow core => exact absurd rfl core
    | @count d i hcur hi todo counts =>
      have hops := htodo.symm.trans todo
      rcases Nat.eq_or_lt_of_le hi with rfl | hlt
      · rw [Nat.sub_self, List.range'_zero, List.map_nil, List.nil_append] at hops
        obtain ⟨rfl, -⟩ := List.cons.inj hops
        refine hread (fun _ heq => by subst heq; simp) rfl ?_
        obtain ⟨chunk, -, rfl⟩ := Option.map_eq_some_iff.1 hop
        rw [MoeRank.setCore_core]
        exact ⟨rfl, rfl⟩
      · rw [show net.sh.tpSize - i = net.sh.tpSize - (i + 1) + 1 by omega, List.range'_succ,
          List.map_cons, List.cons_append] at hops
        obtain ⟨rfl, -⟩ := List.cons.inj hops
        refine hread (fun _ heq => by subst heq; simp) rfl ?_
        cases hop
        rw [MoeRank.setCore_core]
        exact ⟨rfl, rfl⟩
    | chosen _ todo =>
      rw [todo] at htodo
      cases htodo
  · have hsame : st'.core 0 = st.core 0 := MoeRank.op_core_of_ne hop fun heq => hzero heq.symm
    unfold LayerRead
    rw [hsame]
    exact h

/-- The window with its chunk flags as after `d` experts. -/
def MoeWindow.withFlags (w : MoeWindow V) (d : Nat) : MoeWindow V :=
  ⟨w.lastAttn, fun rank => { w.region rank with chunkFlag := readFlags d }⟩

/-- The group that is being received is there. -/
theorem SearchInv.serving (h : SearchInv net st sent p cur) (hadmitted : net.GroupsAdmitted)
    (htoken : ∀ rank < net.sh.attnRankNum, (st.window.region rank).tokenNum ≠ 0 → st.taken rank < sent rank)
    (hheld : DispatchesHeld net st sent m) {d : Nat} (hcur : cur = some (g, d)) :
    (st.window.withFlags d).Serving net.sh (fun i => net.batch (p.services g) (g + i))
      (net.layerIndex (p.services g) g) m g d := by
  intro i hi
  obtain ⟨hopen, -⟩ := h.opened g d hcur
  have hrank := hopen.rank i hi
  have hlt := hopen.group.rank_lt hi
  have hregion := hheld _ hlt (htoken _ hlt hrank.tokenNum)
  rw [hrank.taken, hadmitted.layer _ g hopen.group i hi] at hregion
  exact ⟨{ st.window.region (g + i) with chunkFlag := readFlags 0 }, hregion, rfl⟩

/-- After the search. -/
theorem SearchInv.receiving (h : SearchInv net st sent p cur) (hread : LayerRead net st p)
    (hadmitted : net.GroupsAdmitted)
    (htoken : ∀ rank < net.sh.attnRankNum, (st.window.region rank).tokenNum ≠ 0 →
      st.taken rank < sent rank) (hheld : DispatchesHeld net st sent m)
    (htodo : ∀ c < net.sh.moeAivNum, (st.core c).todo = []) :
    let c := st.core 0
    ∃ w, Receiving net (st.enterPhase (.rows 0) fun aivId => (st.core aivId).rowsTodo net aivId 0)
      (p.services c.tpAttnRankId) m
      c.tpAttnRankId c.startExpert c.endExpert 0 w fun _ => 0 := by
  have haiv := net.sh.moeAivNum_pos
  obtain ⟨g, d, e, rfl, hde, he, hcores⟩ := h.chosen htodo
  obtain ⟨hopen, -⟩ := h.opened g d rfl
  obtain ⟨hg, hd, he', hchosen⟩ := hcores 0 haiv
  have hlayer : (st.core 0).layerIndex = net.layerIndex (p.services g) g := by
    rcases hread with htodo' | ⟨i, j, htodo'⟩ | hlayer
    · cases (htodo 0 haiv).symm.trans htodo'
    · cases (htodo 0 haiv).symm.trans htodo'
    · rw [hg] at hlayer
      exact hlayer
  have hchunk := hchosen.chunk
  rw [hg, hd, he', hopen.chunkFlag] at hchunk
  dsimp only
  rw [hg, hd, he']
  refine ⟨st.window.withFlags d, h.serving hadmitted htoken hheld rfl, hchunk, hlayer,
    fun i hi _ => ⟨rfl, rfl, rfl, rfl, rfl, rfl⟩,
    fun c hc => ⟨Nat.zero_le _, ?_, ?_, fun i hi => absurd hi (Nat.not_lt_zero i)⟩,
    ⟨fun c hc x hx => ?_, fun c hc x hx => ?_⟩, rowsTodo_last _ _, fun hmem => ?_,
    fun hk => .inl (record_mem_rowsTodo he' hk)⟩
  · refine (rowsTodo_asEnter (hcores c hc).2.2.1 c 0).trans ?_
    have hpos := net.sh.tpSize_pos
    unfold rankLimit
    by_cases hlast : e = net.sh.expertNumPerMoe - 1
    · rw [if_pos hlast, if_pos hlast, if_pos hpos, show min (0 + 1) net.sh.tpSize - 0 = 1 by omega]
      rfl
    · rw [if_neg hlast, if_neg hlast]
      exact List.range_eq_range'
  · obtain ⟨hrank, -, -, hcore⟩ := hcores c hc
    have htensor := hcore.tensor
    rw [hrank] at htensor
    exact htensor
  · rw [show ((st.enterPhase (.rows 0) fun aivId => (st.core aivId).rowsTodo net aivId 0).core c).todo =
      (st.core c).rowsTodo net c 0 from rfl, rowsTodo_asCopy] at hx
    exact absurd hx List.not_mem_nil
  · exact absurd hx List.not_mem_nil
  · rcases mem_rowsTodo he' hmem with ⟨i, heq⟩ | ⟨-, hlimit⟩
    · simp at heq
    · exact hlimit

end Search

/-! ## A MoE rank -/

section Receives
variable {V S F : Type} (net : CamNet V S F) (st : MoeRank V) (p : Progress) (m : Nat)

/-- The round of a group's dispatch that the last chunk is of. -/
def chunkRound (info : Nat → Nat) : Nat :=
  if info 4 = net.sh.expertNumPerMoe - 1 then p.services (info 1) - 1 else p.services (info 1)

/-- The chunk that has left dispatch-recv is one of the batches of its round. -/
def ChunkHeld : Prop :=
  let info := st.chunk.batchInfo
  let round := chunkRound net p info
  IsGroup net.sh (info 1) ∧ ∃ w : MoeWindow V, st.chunk.Holds net.sh w (info 1) (info 3) (info 4) ∧
    w.Serving net.sh (fun i => net.batch round (info 1 + i)) (net.layerIndex round (info 1)) m
      (info 1) (info 3)

/-- What a MoE rank has of a dispatch in its phase. -/
def Receives : Prop :=
  match st.phase with
  | .search => LayerRead net st p
  | .rows k => let c := st.core 0
    ∃ w n, Receiving net st (p.services c.tpAttnRankId) m c.tpAttnRankId c.startExpert c.endExpert k w n
  | .returns => ChunkHeld net st p m
  | .flags => ChunkHeld net st p m

variable {net st p m} {st' : MoeRank V} {sent : Nat → Nat} {aivId rank a : Nat} {op : MoeOp V}
  {rest : List (MoeOp V)}

/-- Attention ranks write to quiet regions. -/
theorem Receives.landed {region : AttnRegion V} (h : Receives net st p m) (hmoe : MoeInv net st sent p m)
    (htoken : (st.window.region a).tokenNum = 0) : Receives net (st.landed a region) p m := by
  unfold Receives at h ⊢
  unfold MoeInv at hmoe
  have hphase : (st.landed a region).phase = st.phase := rfl
  rw [hphase]
  cases hcase : st.phase with
  | search =>
    rw [hcase] at h
    exact h
  | rows k =>
    rw [hcase] at h hmoe
    obtain ⟨g, d, e, q, hrows⟩ := hmoe
    obtain ⟨w, n, hreceiving⟩ := h
    obtain ⟨hg, -, -⟩ := hrows.taken.core 0 net.sh.moeAivNum_pos
    subst hg
    obtain ⟨-, hd, he⟩ := hrows.taken.core 0 net.sh.moeAivNum_pos
    subst hd he
    exact ⟨w, n, hreceiving.landed rfl hrows htoken⟩
  | returns =>
    rw [hcase] at h
    exact h
  | flags =>
    rw [hcase] at h
    exact h

/-- A step of a core in dispatch-recv. -/
theorem Receives.step (h : Receives net st p m) (hmoe : MoeInv net st sent p m)
    (hadmitted : net.GroupsAdmitted) (hm : m < net.sh.moeRankNum)
    (htoken : ∀ rank < net.sh.attnRankNum, (st.window.region rank).tokenNum ≠ 0 →
      st.taken rank < sent rank) (hheld : DispatchesHeld net st sent m)
    (haiv : aivId < net.sh.moeAivNum) (htodo : (st.core aivId).todo = op :: rest)
    (hop : st.op net aivId rest op = some st') : Receives net st' p m := by
  have hA := hadmitted.attnRankNum_pos
  unfold Receives at h ⊢
  unfold MoeInv at hmoe
  cases hcase : st.phase with
  | search =>
    rw [hcase] at h hmoe
    obtain ⟨cur, hsearch⟩ := hmoe
    obtain ⟨hphase, -⟩ := MoeRank.op_effect hop fun rank => (hsearch.core aivId haiv).touched htodo
    rw [hphase, hcase]
    exact LayerRead.step h hsearch hA htoken hheld haiv htodo hop
  | rows k =>
    rw [hcase] at h hmoe
    obtain ⟨g, d, e, q, hrows⟩ := hmoe
    obtain ⟨hphase, -⟩ := MoeRank.op_effect hop fun rank =>
      hrows.touched haiv (hrows.ops aivId haiv op (htodo ▸ List.mem_cons_self))
    obtain ⟨q', hnext⟩ := hrows.step hA haiv htodo hop
    obtain ⟨hg, hd, he⟩ := hrows.taken.core 0 net.sh.moeAivNum_pos
    obtain ⟨hg', hd', he'⟩ := hnext.taken.core 0 net.sh.moeAivNum_pos
    obtain ⟨w, n, hreceiving⟩ := h
    rw [hg, hd, he] at hreceiving
    obtain ⟨n', hnext'⟩ :=
      hreceiving.step rfl (hadmitted.group _ g hrows.taken.group) hm hrows haiv htodo hop
    rw [hphase, hcase]
    dsimp only
    rw [hg', hd', he']
    exact ⟨w, n', hnext'⟩
  | returns =>
    rw [hcase] at hmoe
    obtain ⟨g, d, e, hreturns⟩ := hmoe
    obtain ⟨i, -, r, x, rfl⟩ := hreturns.ops aivId haiv op (htodo ▸ List.mem_cons_self)
    cases hop
  | flags =>
    rw [hcase] at hmoe
    obtain ⟨g, d, e, pending, hflags⟩ := hmoe
    have hmem : op ∈ (st.core aivId).todo := htodo ▸ List.mem_cons_self
    rw [hflags.todo aivId haiv] at hmem
    obtain ⟨i, -, rfl⟩ := List.mem_map.1 hmem
    cases hop

/-- Combine-send leaves the chunk as it is. -/
theorem Receives.put {w : CombineWrite V} (h : Receives net st p m) (hmoe : MoeInv net st sent p m)
    (haiv : aivId < net.sh.moeAivNum) (htodo : (st.core aivId).todo = .put rank w :: rest) :
    Receives net (st.put aivId rest rank w) p m := by
  unfold Receives at h ⊢
  unfold MoeInv at hmoe
  have hphase : (st.put aivId rest rank w).phase = st.phase := rfl
  rw [hphase]
  cases hcase : st.phase with
  | search =>
    rw [hcase] at hmoe
    obtain ⟨cur, hsearch⟩ := hmoe
    exact ((hsearch.core aivId haiv).no_put htodo).elim
  | rows k =>
    rw [hcase] at hmoe
    obtain ⟨g, d, e, q, hrows⟩ := hmoe
    exact (hrows.ops aivId haiv (.put rank w) (htodo ▸ List.mem_cons_self)).elim
  | returns =>
    rw [hcase] at h
    exact h
  | flags =>
    rw [hcase] at h
    exact h

/-- A MoE rank passes a barrier. -/
theorem Receives.next (h : Receives net st p m) (hmoe : MoeInv net st sent p m)
    (hadmitted : net.GroupsAdmitted) (hm : m < net.sh.moeRankNum)
    (hp : received net.sh.expertNumPerMoe st.calls = some p)
    (htoken : ∀ rank < net.sh.attnRankNum, (st.window.region rank).tokenNum ≠ 0 →
      st.taken rank < sent rank) (hheld : DispatchesHeld net st sent m)
    (htodo : ∀ c < net.sh.moeAivNum, (st.core c).todo = []) (hnext : st.next net m = some st')
    {p' : Progress} (hp' : received net.sh.expertNumPerMoe st'.calls = some p') :
    Receives net st' p' m := by
  have hsame : st'.calls = st.calls → p' = p := by
    intro hcalls
    rw [hcalls, hp] at hp'
    exact (Option.some.inj hp').symm
  unfold Receives at h ⊢
  unfold MoeInv at hmoe
  unfold MoeRank.next at hnext
  cases hcase : st.phase with
  | search =>
    rw [hcase] at h hmoe hnext
    cases hnext
    obtain rfl := hsame rfl
    obtain ⟨cur, hsearch⟩ := hmoe
    obtain ⟨w, hreceiving⟩ := hsearch.receiving h hadmitted htoken hheld htodo
    exact ⟨w, _, hreceiving⟩
  | rows k =>
    rw [hcase] at h hmoe hnext
    obtain ⟨g, d, e, q, hrows⟩ := hmoe
    obtain ⟨hg, hd, he⟩ := hrows.taken.core 0 net.sh.moeAivNum_pos
    obtain ⟨w, n, hreceiving⟩ := h
    rw [hg, hd, he] at hreceiving
    dsimp only at hnext
    split at hnext
    · rename_i hk
      cases hnext
      obtain rfl := hsame rfl
      change ∃ w n, Receiving net _ (p'.services (st.core 0).tpAttnRankId) m (st.core 0).tpAttnRankId
        (st.core 0).startExpert (st.core 0).endExpert (k + 1) w n
      rw [hg, hd, he]
      exact ⟨w, n, hreceiving.barrier hrows htodo hk⟩
    · split at hnext
      · rename_i hk
        cases hnext
        have hholds := hreceiving.holds (hadmitted.group _ g hrows.taken.group) hm hrows htodo hk
        obtain ⟨hinfo1, hinfo3, hinfo4⟩ := hholds.info
        -- the round is served when the chunk has the last expert
        have hround : chunkRound net p' st.chunk.batchInfo = p.services g := by
          rw [received_append, hp] at hp'
          change p.call net.sh.expertNumPerMoe ⟨st.chunk.batchInfo 1, st.chunk.batchInfo 3,
            st.chunk.batchInfo 4⟩ = some p' at hp'
          unfold Progress.call at hp'
          rw [hinfo1, hinfo3, hinfo4] at hp'
          unfold chunkRound
          rw [hinfo1, hinfo4]
          split at hp'
          · cases hp'
            by_cases hlast : e = net.sh.expertNumPerMoe - 1
            · rw [if_pos hlast, if_pos hlast]
              dsimp only
              rw [Function.update_self, Nat.add_sub_cancel]
            · rw [if_neg hlast, if_neg hlast]
          · cases hp'
        refine ⟨?_, w, ?_, ?_⟩
        · change IsGroup net.sh (st.chunk.batchInfo 1)
          rw [hinfo1]
          exact hrows.taken.group
        · change st.chunk.Holds net.sh w (st.chunk.batchInfo 1) (st.chunk.batchInfo 3)
            (st.chunk.batchInfo 4)
          rw [hinfo1, hinfo3, hinfo4]
          exact hholds
        · change w.Serving net.sh
            (fun i => net.batch (chunkRound net p' st.chunk.batchInfo) (st.chunk.batchInfo 1 + i))
            (net.layerIndex (chunkRound net p' st.chunk.batchInfo) (st.chunk.batchInfo 1)) m
            (st.chunk.batchInfo 1) (st.chunk.batchInfo 3)
          rw [hround, hinfo1, hinfo3]
          exact hreceiving.serving
      · cases hnext
  | returns =>
    rw [hcase] at h hnext
    cases hnext
    obtain rfl := hsame rfl
    exact h
  | flags =>
    rw [hcase] at hnext
    cases hnext
    exact .inl rfl

end Receives

/-! ## The system -/

namespace CamSystem
variable {V S F : Type} {net : CamNet V S F} {s s' : CamSystem V} {rank m aivId : Nat}

/-- What the MoE ranks receive is what has been sent. -/
def Received (net : CamNet V S F) (s : CamSystem V) : Prop :=
  ∀ m < net.sh.moeRankNum, ∀ p, received net.sh.expertNumPerMoe (s.moe m).calls = some p →
    Receives net (s.moe m) p m

theorem Start.received (h : s.Start net) : s.Received net := by
  intro m hm p _
  obtain ⟨hphase, htodo, -⟩ := h.moe m hm
  unfold Receives
  rw [hphase]
  exact .inl (htodo 0)

theorem Inv.moe_of_received (h : s.Inv net) (hm : m < net.sh.moeRankNum) {p : Progress}
    (hp : AfdPlugin.Cam.received net.sh.expertNumPerMoe (s.moe m).calls = some p) :
    MoeInv net (s.moe m) (fun rank => (s.attn rank).sent m) p m := by
  obtain ⟨p', hp', hmoe⟩ := h.moe m hm
  obtain rfl := Option.some.inj (hp'.symm.trans hp)
  exact hmoe

/-- An Attention rank writes to a region of which nothing is under way. -/
theorem Received.land (h : s.Received net) (hinv : s.Inv net) (hrank : rank < net.sh.attnRankNum)
    (haiv : aivId < net.sh.attnAivNum) {op : AttnOp V} (hmem : op ∈ (s.attn rank).todo aivId)
    (a : AttnRank V) : ((s.setAttn rank a).land rank op).Received net := by
  intro m hm p hp
  cases op with
  | write m' w =>
    rcases eq_or_ne m m' with rfl | hne
    · have hmoe : ((s.setAttn rank a).land rank (.write m w)).moe m =
          (s.moe m).landed rank (((s.moe m).window.region rank).write w) := setMoe_moe_self _ _ _
      rw [hmoe] at hp ⊢
      refine (h m hm p hp).landed (hinv.moe_of_received hm hp) ?_
      have hquiet := AttnInv.writes (hinv.attn rank hrank) haiv hmem
      have hlink := hinv.link rank hrank m hm
      obtain ⟨htaken, -⟩ := hlink.handoff.quiet hquiet
      by_contra hne
      have := hlink.tokenNum hne
      omega
    · have hmoe : ((s.setAttn rank a).land rank (.write m' w)).moe m = s.moe m := setMoe_moe_of_ne _ _ _ hne
      rw [hmoe] at hp ⊢
      exact h m hm p hp
  | load | seed | poll | gather | clear => exact h m hm p hp

theorem Received.setMoe (h : s.Received net) {st : MoeRank V}
    (hmoe : ∀ p, AfdPlugin.Cam.received net.sh.expertNumPerMoe st.calls = some p →
      Receives net st p m) : (s.setMoe m st).Received net := by
  intro m' hm' p hp
  rcases eq_or_ne m' m with rfl | hne
  · rw [setMoe_moe_self] at hp ⊢
    exact hmoe p hp
  · rw [setMoe_moe_of_ne _ _ _ hne] at hp ⊢
    exact h m' hm' p hp

/-- Every step of every core. -/
theorem Received.step (hadmitted : net.GroupsAdmitted) (hinv : s.Inv net) (hsent : s.Sent net)
    (h : s.Received net) (hstep : s.Step net s') :
    s'.Received net := by
  have hheld : ∀ m < net.sh.moeRankNum,
      DispatchesHeld net (s.moe m) (fun rank => (s.attn rank).sent m) m := fun m hm rank hrank =>
    hsent.region rank hrank m hm
  cases hstep with
  | begin => exact h
  | send hrank haiv _ htodo => exact Received.land h hinv hrank haiv (by rw [htodo]; simp) _
  | attn hrank haiv _ htodo => exact Received.land h hinv hrank haiv (by rw [htodo]; simp) _
  | attnNext => exact h
  | @moe m aivId op rest st hm haiv htodo hop =>
    obtain ⟨p, hp, hmoe⟩ := hinv.moe m hm
    have htoken : ∀ rank < net.sh.attnRankNum, ((s.moe m).window.region rank).tokenNum ≠ 0 →
        (s.moe m).taken rank < (s.attn rank).sent m :=
          fun rank hrank => (hinv.link rank hrank m hm).tokenNum
    obtain ⟨-, hcalls, -⟩ := hmoe.op hadmitted.attnRankNum_pos htoken haiv htodo hop
    refine Received.setMoe h fun p hp => ?_
    rw [hcalls] at hp
    exact (h m hm p hp).step (hinv.moe_of_received hm hp) hadmitted hm htoken (hheld m hm) haiv htodo hop
  | @put m aivId rank w rest hm haiv htodo =>
    refine Received.setMoe h fun p hp => ?_
    exact (h m hm p hp).put (hinv.moe_of_received hm hp) haiv htodo
  | @moeNext m st hm htodo hnext =>
    obtain ⟨p, hp, hmoe⟩ := hinv.moe m hm
    refine Received.setMoe h fun p' hp' => ?_
    exact (h m hm p hp).next hmoe hadmitted hm hp
      (fun rank hrank => (hinv.link rank hrank m hm).tokenNum) (hheld m hm) htodo hnext hp'

theorem Reachable.receives (hadmitted : net.GroupsAdmitted) (h : s.Reachable net) : s.Received net := by
  induction h with
  | start hstart => exact hstart.received
  | step hs hstep ih => exact ih.step hadmitted (hs.inv hadmitted.admitted) (hs.sent hadmitted) hstep

end CamSystem

/-! ## Every interleaving -/

section Delivery
variable {V S F : Type} {net : CamNet V S F} {s : CamSystem V} {m : Nat}

end Delivery

end AfdPlugin.Cam
