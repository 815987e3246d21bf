import AfdPlugin.Cam.HandoffInvariant
/-!
# Steps of an Attention rank

Dispatch-send writes to a region only while nothing of its rank is under way there, and
combine-recv reads rows only when it has seen the flags of all MoE ranks.
-/

namespace AfdPlugin.Cam

section Ops
variable {V S F : Type} {net : CamNet V S F} {st : AttnRank V} {rank aivId : Nat} {rest : List (AttnOp V)}

@[simp] theorem AttnRank.op_phase (op : AttnOp V) :
    (st.op net rank aivId rest op).phase = st.phase := by
  cases op <;> rfl

@[simp] theorem AttnRank.op_round (op : AttnOp V) :
    (st.op net rank aivId rest op).round = st.round := by
  cases op <;> rfl

/-- The other cores keep what they have to do. -/
theorem AttnRank.op_todo_of_ne (op : AttnOp V) {c : Nat} (hc : c ≠ aivId) :
    (st.op net rank aivId rest op).todo c = st.todo c := by
  cases op <;> exact Function.update_of_ne hc _ _

/-- A write of a row announces nothing. -/
theorem AttnRank.op_row {m : Nat} {w : RegionWrite V} (hw : w.isRow) :
    st.op net rank aivId rest (.write m w) = { st with todo := Function.update st.todo aivId rest } := by
  cases w <;> first | rfl | cases hw

end Ops

/-! ## Writes of dispatch-send -/

section Sends
variable {V S : Type} {sh : CamShape} {b : Batch V S}

/-- The places that a core has written are at MoE ranks. -/
def DispatchState.InRange (s : DispatchState V) (sh : CamShape) : Prop :=
  (∀ w ∈ s.tokenWrites, w.1.1 < sh.moeRankNum) ∧ ∀ w ∈ s.addrWrites, w.1.1 < sh.moeRankNum

theorem DispatchState.InRange.flush {s : DispatchState V} (h : s.InRange sh) {e : Nat}
    (he : e < sh.expertNum) :
    (flushExpertTokenOffset sh s e).InRange sh := by
  refine ⟨by simpa using h.1, fun w hw => ?_⟩
  rw [flush_addrWrites] at hw
  rcases List.mem_append.1 hw with hold | hnew
  · exact h.2 w hold
  · obtain ⟨i, -, rfl⟩ := List.mem_map.1 hnew
    exact Nat.div_lt_of_lt_mul he

theorem DispatchState.InRange.step {s : DispatchState V} (h : s.InRange sh) (hvalid : b.Valid sh)
    (offset : Nat → Nat) {p : Nat} (hp : p < b.assignments sh) :
    (dispatchStep sh b offset s p).InRange sh := by
  have hm := moeRank_lt hvalid hp
  have hsent : ∀ t : DispatchState V, t.InRange sh → ∀ i, (sendToken t (b.moeRank sh p) i).InRange sh := by
    intro t ht i
    refine ⟨fun w hw => ?_, ht.2⟩
    simp only [sendToken] at hw
    split at hw
    · rcases List.mem_append.1 hw with hold | hnew
      · exact ht.1 w hold
      · rw [List.mem_singleton.1 hnew]
        exact hm
    · exact ht.1 w hw
  have hpush : ∀ t : DispatchState V, t.InRange sh →
      ∀ i slot, (pushExpertTokenOffset sh t (b.expertIds p) i slot).InRange sh := by
    intro t ht i slot
    have hbatch : (batchExpertTokenOffset t (b.expertIds p) i slot).InRange sh := ht
    unfold pushExpertTokenOffset
    dsimp only
    split
    · exact hbatch.flush (hvalid.expertIds_lt p hp)
    · exact hbatch
  have hreset : DispatchState.InRange { s with
      xTensor := if p % sh.topk = 0 then some (b.x (p / sh.topk)) else s.xTensor
      tokenSentFlag := resetSent sh s.tokenSentFlag p } sh := h
  exact hpush _ (hsent _ hreset (s.moeSendStartOffset (b.moeRank sh p)))
    (s.moeSendStartOffset (b.moeRank sh p))
    (offset (b.expertIds p) + s.expertSendStartIdx (b.expertIds p))

theorem dispatchLoop_inRange (hvalid : b.Valid sh) (start : CoreStart) {aivId : Nat}
    (haiv : aivId < sh.attnAivNum) :
    (dispatchLoop sh b start aivId).InRange sh := by
  have hend : b.aivStart sh (aivId + 1) ≤ b.batchSize := Blocks.spread_le _ haiv sh.attnAivNum_pos
  have hloop : (forRange (sh.topk * b.aivStart sh aivId)
      (sh.topk * b.aivStart sh (aivId + 1) - sh.topk * b.aivStart sh aivId)
      (dispatchStart (V := V) start)
      (dispatchStep sh b (expertPrefixOffset sh start.expertRecvTokenNum))).InRange sh := by
    apply forRange_inv fun _ s => DispatchState.InRange s sh
    · exact ⟨fun w hw => (List.not_mem_nil hw).elim, fun w hw => (List.not_mem_nil hw).elim⟩
    · intro p s _ hlt hs
      have hmul := Nat.mul_le_mul_left sh.topk hend
      refine hs.step hvalid _ ?_
      rw [Batch.assignments, Nat.mul_comm]
      omega
  unfold dispatchLoop
  dsimp only
  apply forRange_inv fun _ s => DispatchState.InRange s sh
  · exact hloop
  · intro e s _ he hs
    exact hs.flush (by omega)

end Sends

section Steps
variable {V S F : Type} {net : CamNet V S F} {st : AttnRank V} {region region' : Nat → AttnRegion V}
  {returned returned' : Nat → Nat} {rank aivId : Nat} {op : AttnOp V} {rest : List (AttnOp V)}

/-- What MoE ranks do keeps an Attention rank's side: they leave the regions alone that
it is still to announce, and set flags only for what it has announced. -/
theorem AttnInv.frame (h : AttnInv net st region returned rank)
    (hregion : ∀ m < net.sh.moeRankNum, st.sent m = st.collected m → region' m = region m)
    (hreturned : ∀ m < net.sh.moeRankNum, returned m ≤ returned' m ∧ returned' m ≤ st.sent m) :
    AttnInv net st region' returned' rank := by
  unfold AttnInv at h ⊢
  cases hphase : st.phase with
  | ready => rwa [hphase] at h
  | send => rwa [hphase] at h
  | announce =>
    rw [hphase] at h
    refine ⟨h.1, fun c hc => ?_⟩
    obtain ⟨as, k, hc'⟩ := h.2 c hc
    refine ⟨as, k, { hc' with chunkFlag := fun hk a ha => ?_ }⟩
    have hmem := List.mem_of_mem_head? ha
    obtain ⟨hm, hown⟩ := hc'.ranks a hmem
    rw [hregion _ hm]
    · exact hc'.chunkFlag hk a ha
    · rw [hc'.sent _ hm hown, if_pos (List.mem_map_of_mem hmem), h.1 _ hm]
  | combine =>
    rw [hphase] at h
    refine ⟨h.1, fun c hc => ?_⟩
    have hkeep : ∀ m < net.sh.moeRankNum, returned m = st.round + 1 → returned' m = st.round + 1 := by
      intro m hm heq
      have hle := hreturned m hm
      rw [(h.1 m hm).1] at hle
      omega
    cases h.2 c hc with
    | load htodo => exact .load htodo
    | seed htodo => exact .seed htodo
    | poll htodo hi hbefore => exact .poll htodo hi fun m hm => hkeep m (hm.trans hi) (hbefore m hm)
    | gather htodo hall => exact .gather htodo fun m hm => hkeep m hm (hall m hm)
  | clear =>
    rw [hphase] at h
    obtain ⟨k, hk, hclear⟩ := h
    refine ⟨k, hk, hclear.todo, fun m hm => ?_⟩
    obtain ⟨hsent, hret, hcoll⟩ := hclear.flags m hm
    have hle := hreturned m hm
    exact ⟨hsent, by omega, hcoll⟩

/-- Dispatch-send begins. -/
theorem AttnInv.begin (h : AttnInv net st region returned rank) (hphase : st.phase = .ready)
    (hvalid : (net.batch st.round rank).Valid net.sh) (mem : Nat → Nat) :
    AttnInv net (st.begin net rank mem) region returned rank := by
  unfold AttnInv at h
  rw [hphase] at h
  refine ⟨h.1, fun c hc op hop => ?_⟩
  obtain ⟨htokens, haddrs⟩ := dispatchLoop_inRange hvalid (coreStart net.sh (net.sh.statAt mem) c) hc
  rcases List.mem_append.1 hop with hmem | hmem
  · obtain ⟨w, hw, rfl⟩ := List.mem_map.1 hmem
    exact ⟨_, htokens w hw, _, rfl, rfl⟩
  · obtain ⟨w, hw, rfl⟩ := List.mem_map.1 hmem
    exact ⟨_, haddrs w hw, _, rfl, rfl⟩

/-- A row is sent to a MoE rank that has nothing of the rank under way. -/
theorem AttnInv.send_op (h : AttnInv net st region returned rank) (hphase : st.phase = .send)
    (haiv : aivId < net.sh.attnAivNum) (hop : op ∈ st.todo aivId) :
    ∃ m < net.sh.moeRankNum, ∃ w : RegionWrite V, w.isRow ∧ op = .write m w ∧
      st.sent m = st.collected m := by
  unfold AttnInv at h
  rw [hphase] at h
  obtain ⟨m, hm, w, hw, rfl⟩ := h.2 aivId haiv op hop
  exact ⟨m, hm, w, hw, rfl, (h.1 m hm).1.trans (h.1 m hm).2.symm⟩

theorem AttnInv.send (h : AttnInv net st region returned rank) (hphase : st.phase = .send)
    (hrest : ∀ op ∈ rest, op ∈ st.todo aivId) :
    AttnInv net { st with todo := Function.update st.todo aivId rest } region' returned rank := by
  unfold AttnInv at h ⊢
  rw [hphase] at h ⊢
  refine ⟨h.1, fun c hc op hop => h.2 c hc op ?_⟩
  dsimp only at hop
  rcases eq_or_ne c aivId with rfl | hne
  · rw [Function.update_self] at hop
    exact hrest op hop
  · rwa [Function.update_of_ne hne] at hop

/-! ## Announcements -/

theorem announceOps_flatMap (layerIndex : Nat) (a : Announcement) (as : List Announcement) :
    ((a :: as).flatMap (announceOps (V := V) layerIndex)) =
      .write a.moeRankId (.header layerIndex a.moePrefixTokenNum) :: .write a.moeRankId
        (.counts a.expertRecvTokenNum) ::
        .write a.moeRankId .chunkFlags :: .write a.moeRankId (.tokenNum a.tokenNum) :: as.flatMap
          (announceOps layerIndex) := rfl

/-- A core with nothing left has announced the dispatch to its share of the MoE ranks. -/
theorem Announcing.done {as : List Announcement} {k : Nat}
    (h : Announcing net st region rank aivId as k) (htodo : st.todo aivId = []) :
    ∀ m < net.sh.moeRankNum, m % net.sh.attnAivNum = aivId → st.sent m = st.round + 1 := by
  intro m hm hown
  obtain rfl : as = [] := by
    cases as with
    | nil => rfl
    | cons a as =>
      have hlen := congrArg List.length (h.todo.symm.trans htodo)
      rw [announceOps_flatMap, List.length_drop] at hlen
      have := h.k_lt
      simp only [List.length_cons, List.length_nil] at hlen
      omega
  exact (h.sent m hm hown).trans (if_neg List.not_mem_nil)

/-- What the next write of a core announces is not under way. Its last write makes the
dispatch known, when the chunk flags are cleared. -/
theorem Announcing.step {as : List Announcement} {k : Nat} (h : Announcing net st region rank aivId as k)
    (hcollected : ∀ m < net.sh.moeRankNum, st.collected m = st.round) (htodo : st.todo aivId = op :: rest) :
    ∃ m < net.sh.moeRankNum, ∃ w : RegionWrite V, op = .write m w ∧ m % net.sh.attnAivNum = aivId ∧
      st.sent m = st.collected m ∧
      (∀ n, w = .tokenNum n → (region m).chunkFlag = fun _ => 0) ∧
      ∃ as' k', Announcing net (st.op net rank aivId rest op)
        (Function.update region m ((region m).write w)) rank aivId as' k' := by
  have hlt := h.k_lt
  cases as with
  | nil =>
    rw [h.todo] at htodo
    simp at htodo
  | cons a as =>
    obtain ⟨hm, hown⟩ := h.ranks a List.mem_cons_self
    have hsent : st.sent a.moeRankId = st.collected a.moeRankId := by
      rw [h.sent _ hm hown, if_pos (by simp), hcollected _ hm]
    obtain ⟨hnotin, hnodup⟩ := List.nodup_cons.1 h.nodup
    -- the writes before the last one leave the count of announcements
    have hbefore : ∀ w : RegionWrite V, op = .write a.moeRankId w → (∀ n, w ≠ .tokenNum n) → k + 1 < 4 →
        rest = (((a :: as).flatMap (announceOps (net.layerIndex st.round rank))).drop (k + 1)) →
        (k + 1 = 3 → ((region a.moeRankId).write w).chunkFlag = fun _ => 0) →
        Announcing net (st.op net rank aivId rest op)
            (Function.update region a.moeRankId ((region a.moeRankId).write w)) rank aivId (a :: as)
            (k + 1) := by
      rintro w rfl hw hk hrest hflag
      have hop : st.op net rank aivId rest (.write a.moeRankId w) =
          { st with todo := Function.update st.todo aivId rest } := by
        cases w with
        | tokenNum n => exact absurd rfl (hw n)
        | _ => rfl
      rw [hop]
      refine ⟨?_, hk, h.ranks, h.nodup, h.sent, fun hk3 a' ha' => ?_⟩
      · rw [← hrest]
        exact Function.update_self _ _ _
      · cases ha'
        rw [Function.update_self]
        exact hflag hk3
    have hwrites := h.todo.symm.trans htodo
    rw [announceOps_flatMap] at hwrites
    obtain rfl | rfl | rfl | rfl : k = 0 ∨ k = 1 ∨ k = 2 ∨ k = 3 := by omega
    · obtain ⟨rfl, rfl⟩ := List.cons.inj hwrites
      exact ⟨_, hm, _, rfl, hown, hsent, fun n hn => (by cases hn), _, _,
        hbefore _ rfl (fun n hn => (by cases hn)) (by omega) rfl (fun hk => by omega)⟩
    · obtain ⟨rfl, rfl⟩ := List.cons.inj hwrites
      exact ⟨_, hm, _, rfl, hown, hsent, fun n hn => (by cases hn), _, _,
        hbefore _ rfl (fun n hn => (by cases hn)) (by omega) rfl (fun hk => by omega)⟩
    · obtain ⟨rfl, rfl⟩ := List.cons.inj hwrites
      exact ⟨_, hm, _, rfl, hown, hsent, fun n hn => (by cases hn), _, _,
        hbefore _ rfl (fun n hn => (by cases hn)) (by omega) rfl (fun _ => rfl)⟩
    · obtain ⟨rfl, rfl⟩ := List.cons.inj hwrites
      refine ⟨_, hm, _, rfl, hown, hsent, fun n _ => h.chunkFlag rfl a rfl, as, 0, ?_⟩
      refine ⟨?_, by omega, fun a' ha' => h.ranks a' (List.mem_cons_of_mem a ha'), hnodup,
        fun m hm' hown' => ?_, fun hk => by omega⟩
      · exact Function.update_self _ _ _
      · have hold := h.sent m hm' hown'
        change Function.update st.sent a.moeRankId (st.sent a.moeRankId + 1) m = _
        rcases eq_or_ne m a.moeRankId with rfl | hne
        · rw [Function.update_self, hold, if_pos (by simp), if_neg hnotin]
          rfl
        · rw [Function.update_of_ne hne, hold]
          simp only [List.map_cons, List.mem_cons, hne, false_or]
          rfl

/-- A core keeps its announcements while another one writes for its own MoE ranks. -/
theorem Announcing.of_ne {as : List Announcement} {k c m : Nat} {w : RegionWrite V}
    (h : Announcing net st region rank c as k) (hc : c ≠ aivId) (hm : m % net.sh.attnAivNum = aivId) :
    Announcing net (st.op net rank aivId rest (.write m w))
      (Function.update region m ((region m).write w)) rank c as k := by
  refine ⟨?_, h.k_lt, h.ranks, h.nodup, fun m' hm' hown => ?_, fun hk a ha => ?_⟩
  · exact (AttnRank.op_todo_of_ne _ hc).trans h.todo
  · have hne : m' ≠ m := by
      rintro rfl
      exact hc (hown.symm.trans hm)
    have hsent : (st.op net rank aivId rest (.write m w)).sent m' = st.sent m' := by
      cases w with
      | tokenNum n => exact Function.update_of_ne hne _ _
      | _ => rfl
    rw [hsent]
    exact h.sent m' hm' hown
  · have hne : a.moeRankId ≠ m := by
      intro heq
      exact hc ((h.ranks a (List.mem_of_mem_head? ha)).2.symm.trans (heq ▸ hm))
    rw [Function.update_of_ne hne]
    exact h.chunkFlag hk a ha

theorem AttnInv.announce (h : AttnInv net st region returned rank) (hphase : st.phase = .announce)
    (haiv : aivId < net.sh.attnAivNum) (htodo : st.todo aivId = op :: rest) :
    ∃ m < net.sh.moeRankNum, ∃ w : RegionWrite V, op = .write m w ∧ st.sent m = st.collected m ∧
      (∀ n, w = .tokenNum n → (region m).chunkFlag = fun _ => 0) ∧
      AttnInv net (st.op net rank aivId rest op) (Function.update region m ((region m).write w))
        returned rank := by
  unfold AttnInv at h
  rw [hphase] at h
  obtain ⟨as, k, hcore⟩ := h.2 aivId haiv
  obtain ⟨m, hm, w, rfl, hown, hsent, hflag, as', k', hstep⟩ := hcore.step h.1 htodo
  refine ⟨m, hm, w, rfl, hsent, hflag, ?_⟩
  unfold AttnInv
  rw [AttnRank.op_phase, hphase]
  refine ⟨fun m' hm' => h.1 m' hm', fun c hc => ?_⟩
  rcases eq_or_ne c aivId with rfl | hne
  · exact ⟨as', k', hstep⟩
  · obtain ⟨as, k, hc'⟩ := h.2 c hc
    exact ⟨as, k, hc'.of_ne hne hown⟩

/-! ## Combine-recv -/

/-- What a step of combine-recv leaves as it is. -/
structure SameCounts (st st' : AttnRank V) : Prop where
  phase : st'.phase = st.phase
  round : st'.round = st.round
  window : st'.window = st.window
  sent : st'.sent = st.sent
  collected : st'.collected = st.collected

/-- A core of combine-recv goes on. It passes the wait with all flags set. -/
theorem Combining.step (h : Combining net st returned aivId)
    (hcounts : ∀ m < net.sh.moeRankNum, st.sent m = st.round + 1 ∧ st.collected m = st.round)
    (hflag : ∀ m < net.sh.moeRankNum, st.window.moeFlag net.sh m ≠ 0 → st.collected m < returned m)
    (hreturned : ∀ m < net.sh.moeRankNum, returned m ≤ st.sent m) (htodo : st.todo aivId = op :: rest) :
    (∀ m w, op ≠ .write m w) ∧ SameCounts st (st.op net rank aivId rest op) ∧
      Combining net (st.op net rank aivId rest op) returned aivId := by
  have hset : ∀ m < net.sh.moeRankNum, st.window.moeFlag net.sh m ≠ 0 → returned m = st.round + 1 := by
    intro m hm hne
    have hlt := hflag m hm hne
    have hle := hreturned m hm
    have := hcounts m hm
    omega
  cases h with
  | load h =>
    obtain ⟨rfl, rfl⟩ := List.cons.inj (htodo.symm.trans h)
    exact ⟨fun m w hw => (by cases hw), ⟨rfl, rfl, rfl, rfl, rfl⟩, .seed (Function.update_self _ _ _)⟩
  | seed h =>
    obtain ⟨rfl, rfl⟩ := List.cons.inj (htodo.symm.trans h)
    exact ⟨fun m w hw => (by cases hw), ⟨rfl, rfl, rfl, rfl, rfl⟩,
      .poll (Function.update_self _ _ _) net.sh.moeRankNum_pos fun m hm => absurd hm (Nat.not_lt_zero m)⟩
  | @poll i h hi hbefore =>
    obtain ⟨rfl, rfl⟩ := List.cons.inj (htodo.symm.trans h)
    refine ⟨fun m w hw => (by cases hw), ⟨rfl, rfl, rfl, rfl, rfl⟩, ?_⟩
    by_cases hzero : st.window.moeFlag net.sh i = 0
    · refine .poll ?_ net.sh.moeRankNum_pos fun m hm => absurd hm (Nat.not_lt_zero m)
      simp [AttnRank.op, hzero]
    · have hupto : ∀ m < i + 1, returned m = st.round + 1 := by
        intro m hm
        rcases Nat.lt_succ_iff_lt_or_eq.1 hm with hlt | rfl
        · exact hbefore m hlt
        · exact hset m hi hzero
      by_cases hnext : i + 1 < net.sh.moeRankNum
      · refine .poll ?_ hnext hupto
        simp [AttnRank.op, hzero, hnext]
      · refine .gather (fun op hop => ?_) fun m hm => hupto m (by omega)
        simp only [AttnRank.op, hzero, hnext, if_false, List.append_nil, Function.update_self] at hop
        obtain ⟨row, -, rfl⟩ := List.mem_map.1 hop
        exact ⟨row.2, rfl⟩
  | gather h hall =>
    rw [htodo] at h
    obtain ⟨row, rfl⟩ := h op List.mem_cons_self
    refine ⟨fun m w hw => (by cases hw), ⟨rfl, rfl, rfl, rfl, rfl⟩, .gather (fun op hop => ?_) hall⟩
    have hrest : (st.op net rank aivId rest (.gather row)).todo aivId = rest := Function.update_self _ _ _
    rw [hrest] at hop
    exact h op (List.mem_cons_of_mem _ hop)

theorem Combining.of_ne {c : Nat} (h : Combining net st returned c) (hc : c ≠ aivId) :
    Combining net (st.op net rank aivId rest op) returned c := by
  have htodo : (st.op net rank aivId rest op).todo c = st.todo c := AttnRank.op_todo_of_ne _ hc
  have hround : (st.op net rank aivId rest op).round = st.round := AttnRank.op_round op
  cases h with
  | load h => exact .load (htodo.trans h)
  | seed h => exact .seed (htodo.trans h)
  | poll h hi hbefore => exact .poll (htodo.trans h) hi fun m hm => (hbefore m hm).trans (by rw [hround])
  | gather h hall =>
    rw [← htodo] at h
    exact .gather h fun m hm => (hall m hm).trans (by rw [hround])

theorem AttnInv.combine (h : AttnInv net st region returned rank) (hphase : st.phase = .combine)
    (haiv : aivId < net.sh.attnAivNum)
    (hflag : ∀ m < net.sh.moeRankNum, st.window.moeFlag net.sh m ≠ 0 → st.collected m < returned m)
    (hreturned : ∀ m < net.sh.moeRankNum, returned m ≤ st.sent m) (htodo : st.todo aivId = op :: rest) :
    (∀ m w, op ≠ .write m w) ∧ SameCounts st (st.op net rank aivId rest op) ∧
      AttnInv net (st.op net rank aivId rest op) region returned rank := by
  unfold AttnInv at h
  rw [hphase] at h
  obtain ⟨hwrite, hsame, hcore⟩ := (h.2 aivId haiv).step h.1 hflag hreturned htodo
  refine ⟨hwrite, hsame, ?_⟩
  unfold AttnInv
  rw [hsame.phase, hphase]
  refine ⟨?_, fun c hc => ?_⟩
  · rw [hsame.sent, hsame.collected, hsame.round]
    exact h.1
  · rcases eq_or_ne c aivId with rfl | hne
    · exact hcore
    · exact (h.2 c hc).of_ne hne

/-- A flag is cleared that the MoE rank has set in this round. -/
theorem AttnInv.clear (h : AttnInv net st region returned rank) (hphase : st.phase = .clear)
    (haiv : aivId < net.sh.attnAivNum) (htodo : st.todo aivId = op :: rest) :
    ∃ m < net.sh.moeRankNum, op = .clear m ∧ st.collected m < returned m ∧
      AttnInv net (st.op net rank aivId rest op) region returned rank := by
  unfold AttnInv at h
  rw [hphase] at h
  obtain ⟨k, hk, hclear⟩ := h
  have hcore := hclear.todo aivId haiv
  rw [htodo] at hcore
  split at hcore
  · rename_i hzero
    subst hzero
    obtain ⟨n, hn⟩ : ∃ n, net.sh.moeRankNum - k = n + 1 := by
      apply Nat.exists_eq_succ_of_ne_zero
      intro hnone
      rw [hnone] at hcore
      cases hcore
    rw [hn, List.range'_succ, List.map_cons] at hcore
    obtain ⟨rfl, rfl⟩ := List.cons.inj hcore
    obtain ⟨hsent, hret, hcoll⟩ := hclear.flags k (by omega)
    rw [if_neg (Nat.lt_irrefl k)] at hcoll
    refine ⟨k, by omega, rfl, by omega, ?_⟩
    unfold AttnInv
    rw [AttnRank.op_phase, hphase]
    refine ⟨k + 1, by omega, fun c hc => ?_, fun m hm => ?_⟩
    · rw [show net.sh.moeRankNum - (k + 1) = n by omega]
      rcases eq_or_ne c 0 with rfl | hne
      · rw [if_pos rfl]
        exact Function.update_self 0 _ st.todo
      · rw [AttnRank.op_todo_of_ne _ hne, hclear.todo c hc, if_neg hne, if_neg hne]
    · obtain ⟨hsent', hret', hcoll'⟩ := hclear.flags m hm
      refine ⟨hsent', hret', ?_⟩
      change Function.update st.collected k (st.collected k + 1) m = _
      rw [AttnRank.op_round]
      rcases eq_or_ne m k with rfl | hne
      · rw [Function.update_self, hcoll, if_pos (Nat.lt_succ_self m)]
      · have hiff : m < k + 1 ↔ m < k := by omega
        rw [Function.update_of_ne hne, hcoll']
        simp only [hiff]
  · cases hcore

/-! ## Barriers -/

theorem AttnInv.next (h : AttnInv net st region returned rank) (hphase : st.phase ≠ .ready)
    (htodo : ∀ aivId < net.sh.attnAivNum, st.todo aivId = []) :
    AttnInv net (st.next net rank) region returned rank ∧ (st.next net rank).sent = st.sent ∧
      (st.next net rank).collected = st.collected ∧ (st.next net rank).window = st.window := by
  unfold AttnInv at h
  unfold AttnRank.next
  cases hcase : st.phase with
  | ready => exact absurd hcase hphase
  | send =>
    rw [hcase] at h
    refine ⟨⟨fun m hm => (h.1 m hm).2, fun c hc => ?_⟩, rfl, rfl, rfl⟩
    obtain ⟨hranks, -⟩ := setFlags_spec net.sh (coreStart net.sh (net.sh.statAt st.stat) c) c
    have hmem : ∀ m, m ∈ (setFlags net.sh (coreStart net.sh (net.sh.statAt st.stat) c) c).map
        Announcement.moeRankId ↔
        m < net.sh.moeRankNum ∧ m % net.sh.attnAivNum = c := by
      intro m
      rw [hranks]
      simp
    refine ⟨setFlags net.sh (coreStart net.sh (net.sh.statAt st.stat) c) c, 0, rfl, by omega,
      fun a ha => (hmem _).1 (List.mem_map_of_mem ha), ?_, fun m hm hown => ?_, fun hk => by omega⟩
    · rw [hranks]
      exact List.nodup_range.filter _
    · rw [if_pos ((hmem m).2 ⟨hm, hown⟩)]
      exact (h.1 m hm).1
  | announce =>
    rw [hcase] at h
    refine ⟨⟨fun m hm => ⟨?_, h.1 m hm⟩, fun c _ => .load rfl⟩, rfl, rfl, rfl⟩
    have hown := Nat.mod_lt m net.sh.attnAivNum_pos
    obtain ⟨as, k, hcore⟩ := h.2 _ hown
    exact hcore.done (htodo _ hown) m hm rfl
  | combine =>
    rw [hcase] at h
    have hreturned : ∀ m < net.sh.moeRankNum, returned m = st.round + 1 := by
      have hfirst := htodo 0 net.sh.attnAivNum_pos
      cases h.2 0 net.sh.attnAivNum_pos with
      | load hload => simp [hload] at hfirst
      | seed hseed => simp [hseed] at hfirst
      | poll hpoll => simp [hpoll] at hfirst
      | gather _ hall => exact hall
    refine ⟨⟨0, Nat.zero_le _, fun c _ => ?_, fun m hm => ⟨(h.1 m hm).1, hreturned m hm, ?_⟩⟩,
      rfl, rfl, rfl⟩
    · simp only [clearTodo, Nat.sub_zero, List.range_eq_range']
    · rw [if_neg (Nat.not_lt_zero m)]
      exact (h.1 m hm).2
  | clear =>
    rw [hcase] at h
    obtain ⟨k, hk, hclear⟩ := h
    -- no flag is left
    obtain rfl : k = net.sh.moeRankNum := by
      have hfirst := hclear.todo 0 net.sh.attnAivNum_pos
      rw [htodo 0 net.sh.attnAivNum_pos, if_pos rfl] at hfirst
      have hlen := congrArg List.length hfirst
      simp only [List.length_nil, List.length_map, List.length_range'] at hlen
      omega
    refine ⟨⟨fun m hm => ?_, fun _ _ => rfl⟩, rfl, rfl, rfl⟩
    obtain ⟨hsent, -, hcoll⟩ := hclear.flags m hm
    rw [if_pos hm] at hcoll
    exact ⟨hsent, hcoll⟩

end Steps

end AfdPlugin.Cam
