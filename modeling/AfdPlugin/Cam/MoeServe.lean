import AfdPlugin.Cam.MoeSearch
/-!
# Chunks and flags of a MoE rank

A chunk is received from regions whose dispatches are under way; the headers are cleared
one by one behind the barriers of the last chunk, and only then are the flags set.
-/

namespace AfdPlugin.Cam

/-! ## What an operation touches -/

section Touch
variable {V S F : Type} {net : CamNet V S F} {st st' : MoeRank V} {aivId rank : Nat} {op : MoeOp V}
  {rest : List (MoeOp V)}

/-- The rank whose region an operation of dispatch-recv writes to. -/
def MoeOp.touches (c : MoeCore V) : MoeOp V → Option Nat
  | .mark _ => some c.tpAttnRankId
  | .chunkFlags i | .clearHeader i => some (c.tpAttnRankId + i)
  | _ => none

/-- A step leaves a region alone, or its dispatch is under way and may be taken. -/
structure MoeTouch (st st' : MoeRank V) (rank : Nat) : Prop where
  returned : st'.returned rank = st.returned rank
  region : st'.window.region rank = st.window.region rank ∧ st'.taken rank = st.taken rank ∨
    (st.window.region rank).tokenNum ≠ 0 ∧
      ((st'.window.region rank).tokenNum = (st.window.region rank).tokenNum ∧
        st'.taken rank = st.taken rank ∨ (st'.window.region rank).tokenNum = 0 ∧
        st'.taken rank = st.taken rank + 1)

/-- What happens to the phase, the calls and the regions in an operation. -/
theorem MoeRank.op_effect (hop : st.op net aivId rest op = some st')
    (htouch : ∀ rank, op.touches (st.core aivId) = some rank → (st.window.region rank).tokenNum ≠ 0) :
    st'.phase = st.phase ∧ st'.calls = st.calls ∧ ∀ rank, MoeTouch st st' rank := by
  -- operations that leave the regions alone
  have hquiet : ∀ {st' : MoeRank V}, st'.window.region = st.window.region → st'.taken = st.taken →
      st'.returned = st.returned →
      ∀ rank, MoeTouch st st' rank := by
    intro st' hregion htaken hreturned rank
    exact ⟨by rw [hreturned], .inl ⟨by rw [hregion], by rw [htaken]⟩⟩
  -- a region that is written has its tokens announced
  have hwrite : ∀ {st' : MoeRank V} {a : Nat} {g : AttnRegion V}, (st.window.region a).tokenNum ≠ 0 →
      st'.window.region = Function.update st.window.region a g → st'.returned = st.returned →
      (g.tokenNum = (st.window.region a).tokenNum ∧ st'.taken = st.taken ∨
        g.tokenNum = 0 ∧ st'.taken = Function.update st.taken a (st.taken a + 1)) →
            ∀ rank, MoeTouch st st' rank := by
    intro st' a g hne hregion hreturned hcase rank
    refine ⟨by rw [hreturned], ?_⟩
    rcases eq_or_ne rank a with rfl | hrank
    · rw [hregion, Function.update_self]
      refine .inr ⟨hne, ?_⟩
      rcases hcase with ⟨hsame, htaken⟩ | ⟨hzero, htaken⟩
      · exact .inl ⟨hsame, by rw [htaken]⟩
      · exact .inr ⟨hzero, by rw [htaken, Function.update_self]⟩
    · refine .inl ⟨by rw [hregion, Function.update_of_ne hrank], ?_⟩
      rcases hcase with ⟨-, htaken⟩ | ⟨-, htaken⟩
      · rw [htaken]
      · rw [htaken, Function.update_of_ne hrank]
  cases op with
  | start =>
    cases hop
    exact ⟨rfl, rfl, hquiet rfl rfl rfl⟩
  | probe i j =>
    unfold MoeRank.op at hop
    dsimp only at hop
    split at hop
    · cases hop
      exact ⟨rfl, rfl, hquiet rfl rfl rfl⟩
    · split at hop
      · cases hop
        exact ⟨rfl, rfl, hquiet rfl rfl rfl⟩
      · cases hop
        exact ⟨rfl, rfl, hquiet rfl rfl rfl⟩
  | mark n =>
    cases hop
    exact ⟨rfl, rfl, hwrite (htouch _ rfl) rfl rfl (.inl ⟨rfl, rfl⟩)⟩
  | follow i =>
    unfold MoeRank.op at hop
    dsimp only at hop
    split at hop
    · cases hop
      exact ⟨rfl, rfl, hquiet rfl rfl rfl⟩
    · cases hop
      exact ⟨rfl, rfl, hquiet rfl rfl rfl⟩
  | count i =>
    cases hop
    exact ⟨rfl, rfl, hquiet rfl rfl rfl⟩
  | flags =>
    obtain ⟨chunk, -, rfl⟩ := Option.map_eq_some_iff.1 hop
    exact ⟨rfl, rfl, hquiet rfl rfl rfl⟩
  | enter i =>
    cases hop
    exact ⟨rfl, rfl, hquiet rfl rfl rfl⟩
  | copy i r n =>
    cases hop
    exact ⟨rfl, rfl, hquiet rfl rfl rfl⟩
  | chunkFlags i =>
    cases hop
    exact ⟨rfl, rfl, hwrite (htouch _ rfl) rfl rfl (.inl ⟨rfl, rfl⟩)⟩
  | clearHeader i =>
    cases hop
    exact ⟨rfl, rfl, hwrite (htouch _ rfl) rfl rfl (.inr ⟨rfl, rfl⟩)⟩
  | record =>
    cases hop
    exact ⟨rfl, rfl, hquiet rfl rfl rfl⟩
  | put rank w => cases hop

end Touch

/-! ## The copies of a chunk -/

section Rows
variable {V S F : Type} {net : CamNet V S F} {st st' : MoeRank V} {sent : Nat → Nat} {p : Progress}
  {g d e k q aivId : Nat} {op : MoeOp V} {rest : List (MoeOp V)}

/-- An operation of the copies is for a rank that is not cleared. -/
theorem RowsInv.touched (h : RowsInv net st sent p g d e k q) (haiv : aivId < net.sh.moeAivNum)
    (hop : RowsOp net e aivId k q op) {rank : Nat} (htouch : op.touches (st.core aivId) = some rank) :
    (st.window.region rank).tokenNum ≠ 0 := by
  have hq : q ≤ k := by
    rcases h.clears with heq | ⟨heq, -⟩
    · exact heq.le
    · omega
  have hbarriers := h.barriers
  cases op with
  | chunkFlags i =>
    cases htouch
    rw [(h.taken.core aivId haiv).1]
    have hi := hop.2
    split at hi
    · exact (h.uncleared i (by omega) (by omega)).tokenNum
    · rename_i he
      rw [if_neg he] at hbarriers
      exact (h.uncleared i (by omega) hi).tokenNum
  | clearHeader i =>
    cases htouch
    rw [(h.taken.core aivId haiv).1]
    obtain ⟨-, hk, rfl⟩ := hop
    split at hbarriers
    · exact (h.uncleared i le_rfl (by omega)).tokenNum
    · omega
  | mark n => exact absurd hop id
  | _ => cases htouch

/-- A core goes on, the regions as they are: `ops` comes before what it had to do next. -/
theorem RowsInv.setCore (h : RowsInv net st sent p g d e k q) (chunk : RecvChunk V)
    (ops : List (MoeOp V)) {c : MoeCore V} (htodo : (st.core aivId).todo = op :: rest)
    (hc : c.todo = ops ++ rest) (haiv : aivId < net.sh.moeAivNum)
    (hrank : c.tpAttnRankId = (st.core aivId).tpAttnRankId)
    (hstart : c.startExpert = (st.core aivId).startExpert)
    (hend : c.endExpert = (st.core aivId).endExpert)
    (hview : (c.view.region g).chunkFlag = ((st.core aivId).view.region g).chunkFlag)
    (hflags : op ≠ .chunkFlags 0) (hclear : ∀ i, op ≠ .clearHeader i) (hrecord : op ≠ .record)
    (hinfo : chunk.batchInfo = st.chunk.batchInfo) (hops : ∀ op ∈ ops, RowsOp net e aivId k q op) :
    RowsInv net { st.setCore aivId c with chunk } sent p g d e k q := by
  have hsame : ∀ rank, SameRank st { st.setCore aivId c with chunk } rank := fun _ => ⟨rfl, rfl, rfl⟩
  have hself : (Function.update st.core aivId c) aivId = c := Function.update_self _ _ _
  have hother : ∀ c', c' ≠ aivId → (Function.update st.core aivId c) c' = st.core c' :=
    fun c' hne => Function.update_of_ne hne _ _
  have hmem : ∀ op', op' ∈ (st.core 0).todo → op' ≠ op →
      op' ∈ ((Function.update st.core aivId c) 0).todo := by
    intro op' hmem hne
    rcases eq_or_ne 0 aivId with rfl | hzero
    · rw [hself, hc]
      rw [htodo] at hmem
      exact List.mem_append_right _ ((List.mem_cons.1 hmem).resolve_left hne)
    · rwa [hother 0 hzero]
  refine ⟨⟨h.taken.group, h.taken.current, h.taken.le, h.taken.lt, fun c' hc' => ?_⟩,
    h.others.same fun _ _ _ i _ => hsame _, h.lastAttn, h.barriers,
    fun i hi => (h.cleared i hi).same (hsame _), fun i hge hi => (h.uncleared i hge hi).same (hsame _),
    h.marker, ?_, ?_, ?_, fun hk => ?_, fun c' hc' op' hop' => ?_⟩
  · change ((Function.update st.core aivId c) c').tpAttnRankId = g ∧ _
    rcases eq_or_ne c' aivId with rfl | hne
    · have hcore := h.taken.core c' hc'
      simp only [MoeRank.setCore, hself]
      exact ⟨hrank.trans hcore.1, hstart.trans hcore.2.1, hend.trans hcore.2.2⟩
    · simp only [MoeRank.setCore, hother c' hne]
      exact h.taken.core c' hc'
  · change (((Function.update st.core aivId c) 0).view.region g).chunkFlag = readFlags d
    rcases eq_or_ne 0 aivId with rfl | hzero
    · rw [hself]
      exact hview.trans h.viewFlag
    · rw [hother 0 hzero]
      exact h.viewFlag
  · exact h.chunkFlag.imp_right fun hpending => hmem _ hpending hflags.symm
  · refine h.clears.imp_right fun ⟨hq, rest', htodo', hrest'⟩ => ⟨hq, rest', ?_, hrest'⟩
    change ((Function.update st.core aivId c) 0).todo = _
    rcases eq_or_ne 0 aivId with rfl | hzero
    · rw [htodo] at htodo'
      exact absurd (List.cons.inj htodo').1 (hclear q)
    · rw [hother 0 hzero]
      exact htodo'
  · rcases h.record hk with hpending | hdone
    · exact .inl (hmem _ hpending hrecord.symm)
    · refine .inr ?_
      unfold Recorded at hdone ⊢
      dsimp only
      rw [hinfo]
      exact hdone
  · change op' ∈ ((Function.update st.core aivId c) c').todo at hop'
    rcases eq_or_ne c' aivId with rfl | hne
    · rw [hself, hc] at hop'
      rcases List.mem_append.1 hop' with hnew | hold
      · exact hops op' hnew
      · refine h.ops c' hc' op' ?_
        rw [htodo]
        exact List.mem_cons_of_mem _ hold
    · rw [hother c' hne] at hop'
      exact h.ops c' hc' op' hop'

theorem RowsInv.enter {i : Nat} (h : RowsInv net st sent p g d e k q) (haiv : aivId < net.sh.moeAivNum)
    (htodo : (st.core aivId).todo = .enter i :: rest) (hop : st.op net aivId rest (.enter i) = some st') :
    RowsInv net st' sent p g d e k q := by
  cases hop
  have hallowed := h.ops aivId haiv (.enter i) (htodo ▸ List.mem_cons_self)
  refine h.setCore st.chunk _ htodo rfl haiv rfl rfl rfl ?_ (by simp) (by simp) (by simp)
    rfl fun op hmem => ?_
  · dsimp only [MoeWindow.setRegion]
    rcases eq_or_ne g ((st.core aivId).tpAttnRankId + i) with heq | hne
    · rw [← heq, Function.update_self]
    · rw [Function.update_of_ne hne]
  · obtain ⟨copy, -, rfl⟩ := List.mem_map.1 hmem
    exact hallowed

theorem RowsInv.copy {i r n : Nat} (h : RowsInv net st sent p g d e k q)
    (haiv : aivId < net.sh.moeAivNum) (htodo : (st.core aivId).todo = .copy i r n :: rest)
    (hop : st.op net aivId rest (.copy i r n) = some st') :
    RowsInv net st' sent p g d e k q := by
  cases hop
  exact h.setCore _ [] htodo rfl haiv rfl rfl rfl rfl (by simp) (by simp) (by simp) rfl
    fun op hmem => (List.not_mem_nil hmem).elim

/-- Core 0 does what it had to do next. No header is left to be cleared before the next
barrier. -/
theorem RowsInv.pop (h : RowsInv net st sent p g d e k q)
    (hcore : st'.core = Function.update st.core 0 { st.core 0 with todo := rest })
    (hothers : ∀ g', IsGroup net.sh g' → g ≠ g' → ∀ i < net.sh.tpSize, SameRank st st' (g' + i))
    (hlast : IsGroup net.sh st'.window.lastAttn)
    (hcleared : ∀ i < k, RankCleared st' (p.services g) (g + i))
    (huncleared : ∀ i, k ≤ i → i < net.sh.tpSize → RankOpen st' (p.services g) (g + i) ∧
      ((st'.window.region (g + i)).marker ≠ 0 ↔ i = 0))
    (hflag : (st'.window.region g).chunkFlag = readFlags (e + 1) ∨ .chunkFlags 0 ∈ rest)
    (hrecord : (k = if e = net.sh.expertNumPerMoe - 1 then net.sh.tpSize else 0) → .record ∈ rest ∨
      Recorded net st' g d e) (hrest : ∀ op ∈ rest, RowsOp net e 0 k k op) :
    RowsInv net st' sent p g d e k k := by
  have hself : st'.core 0 = { st.core 0 with todo := rest } := by rw [hcore, Function.update_self]
  have hother : ∀ c, c ≠ 0 → st'.core c = st.core c := by
    intro c hc
    rw [hcore, Function.update_of_ne hc]
  refine ⟨⟨h.taken.group, h.taken.current, h.taken.le, h.taken.lt, fun c hc => ?_⟩, ?_, hlast,
    h.barriers, hcleared, fun i hge hi => (huncleared i hge hi).1,
    fun i hge hi => (huncleared i hge hi).2, ?_, ?_, .inl rfl, fun hk => ?_, fun c hc op hop => ?_⟩
  · rcases eq_or_ne c 0 with rfl | hne
    · rw [hself]
      exact h.taken.core 0 hc
    · rw [hother c hne]
      exact h.taken.core c hc
  · exact h.others.same fun g' hg' hne => hothers g' hg' fun heq => hne (by rw [heq])
  · rw [hself]
    exact h.viewFlag
  · rw [hself]
    exact hflag
  · rw [hself]
    exact hrecord hk
  · rcases eq_or_ne c 0 with rfl | hne
    · rw [hself] at hop
      exact hrest op hop
    · rw [hother c hne] at hop
      have hold := h.ops c hc op hop
      cases op with
      | clearHeader i => exact absurd hold.1 hne
      | _ => exact hold

/-- The flags are set in the regions of the group, one rank at a time. -/
theorem RowsInv.chunkFlags {i : Nat} (h : RowsInv net st sent p g d e k q)
    (htodo : (st.core 0).todo = .chunkFlags i :: rest)
    (hop : st.op net 0 rest (.chunkFlags i) = some st') : RowsInv net st' sent p g d e k k := by
  have haiv := net.sh.moeAivNum_pos
  obtain ⟨hrank, -, hend⟩ := h.taken.core 0 haiv
  have hallowed := h.ops 0 haiv (.chunkFlags i) (htodo ▸ List.mem_cons_self)
  have hi : i < net.sh.tpSize := by
    have := hallowed.2
    split at this
    · omega
    · exact this
  obtain rfl : q = k := by
    refine h.clears.resolve_right fun ⟨_, rest', htodo', _⟩ => ?_
    cases htodo.symm.trans htodo'
  have hst : st' = { st.setCore 0 { st.core 0 with todo := rest } with
      window := st.window.setRegion (g + i) { st.window.region (g + i) with
          chunkFlag := readFlags (e + 1) } } := by
    have hread : markRead ((st.core 0).view.region g).chunkFlag e = readFlags (e + 1) := by
      rw [h.viewFlag, markRead_readFlags (by have := h.taken.le; omega)]
    rw [← hread, ← hrank, ← hend]
    exact (Option.some.inj hop).symm
  have hne : ∀ rank, rank ≠ g + i → SameRank st st' rank := by
    intro rank hne
    rw [hst]
    exact ⟨Function.update_of_ne hne _ _, rfl, rfl⟩
  have hself : st'.window.region (g + i) =
      { st.window.region (g + i) with chunkFlag := readFlags (e + 1) } := by
    rw [hst]
    exact Function.update_self (g + i) _ st.window.region
  have hwords : ∀ rank, (st'.window.region rank).tokenNum = (st.window.region rank).tokenNum ∧
      (st'.window.region rank).marker = (st.window.region rank).marker ∧ st'.taken rank = st.taken rank ∧
      st'.returned rank = st.returned rank := by
    intro rank
    have hcounts : st'.taken rank = st.taken rank ∧ st'.returned rank = st.returned rank := by
      rw [hst]
      exact ⟨rfl, rfl⟩
    rcases eq_or_ne rank (g + i) with rfl | hrank
    · rw [hself]
      exact ⟨rfl, rfl, hcounts⟩
    · rw [(hne rank hrank).region]
      exact ⟨rfl, rfl, hcounts⟩
  refine h.pop (by rw [hst]; rfl) (fun g' hg' hgg i' hi' => hne _ fun heq => hgg ?_)
    (by rw [hst]; exact h.lastAttn) (fun i' hi' => ?_) (fun i' hge hi' => ⟨?_, ?_⟩) ?_ (fun hk => ?_)
    fun op hmem => h.ops 0 haiv op (htodo ▸ List.mem_cons_of_mem _ hmem)
  · exact (h.taken.group.rank_inj hg' hi hi' heq.symm).1
  · obtain ⟨-, hmarker, htaken, hreturned⟩ := hwords (g + i')
    have hold := h.cleared i' hi'
    exact ⟨htaken.trans hold.taken, hreturned.trans hold.returned, hmarker.trans hold.marker⟩
  · obtain ⟨htoken, -, htaken, hreturned⟩ := hwords (g + i')
    have hold := h.uncleared i' hge hi'
    exact ⟨htaken.trans hold.taken, hreturned.trans hold.returned, htoken ▸ hold.tokenNum⟩
  · rw [(hwords (g + i')).2.1]
    exact h.marker i' hge hi'
  · rcases eq_or_ne i 0 with rfl | hzero
    · rw [Nat.add_zero] at hself
      rw [hself]
      exact .inl rfl
    · rw [(hne g (by omega)).region]
      refine h.chunkFlag.imp_right fun hmem => ?_
      rw [htodo] at hmem
      exact (List.mem_cons.1 hmem).resolve_left fun heq => hzero (by cases heq; rfl)
  · have hold := h.record hk
    rw [htodo] at hold
    refine hold.imp (fun hmem => (List.mem_cons.1 hmem).resolve_left (by simp)) fun hdone => ?_
    rw [hst]
    exact hdone

/-- A header is cleared when all cores are past the rank's rows. -/
theorem RowsInv.clearHeader {i : Nat} (h : RowsInv net st sent p g d e k q)
    (htodo : (st.core 0).todo = .clearHeader i :: rest)
    (hop : st.op net 0 rest (.clearHeader i) = some st') : RowsInv net st' sent p g d e k k := by
  have haiv := net.sh.moeAivNum_pos
  obtain ⟨hrank, -, -⟩ := h.taken.core 0 haiv
  obtain ⟨-, rfl, rfl⟩ := h.ops 0 haiv (.clearHeader i) (htodo ▸ List.mem_cons_self)
  have hbarriers := h.barriers
  have hi : i < net.sh.tpSize := by
    split at hbarriers
    · omega
    · omega
  have hrest : ∀ op ∈ rest, RowsOp net e 0 (i + 1) (i + 1) op := by
    obtain ⟨-, rest', htodo', hrest'⟩ := h.clears.resolve_left (by omega)
    obtain ⟨-, rfl⟩ := List.cons.inj (htodo.symm.trans htodo')
    exact hrest'
  have hst : st' = { st.setCore 0 { st.core 0 with todo := rest } with
      window := st.window.setRegion (g + i)
        { st.window.region (g + i) with tokenNum := 0, marker := 0, layerIndex := 0, moePreTokenNum := 0 }
      taken := Function.update st.taken (g + i) (st.taken (g + i) + 1) } := by
    rw [← hrank]
    exact (Option.some.inj hop).symm
  have hne : ∀ rank, rank ≠ g + i → SameRank st st' rank := by
    intro rank hne
    rw [hst]
    exact ⟨Function.update_of_ne hne _ _, Function.update_of_ne hne _ _, rfl⟩
  have hself : st'.window.region (g + i) =
      { st.window.region (g + i) with
        tokenNum := 0, marker := 0, layerIndex := 0, moePreTokenNum := 0 } := by
    rw [hst]
    exact Function.update_self (g + i) _ st.window.region
  have htaken : st'.taken (g + i) = st.taken (g + i) + 1 ∧ st'.returned (g + i) = st.returned (g + i) := by
    rw [hst]
    exact ⟨Function.update_self (g + i) _ st.taken, rfl⟩
  have hflags : ∀ rank, (st'.window.region rank).chunkFlag = (st.window.region rank).chunkFlag := by
    intro rank
    rcases eq_or_ne rank (g + i) with rfl | hrank
    · rw [hself]
    · rw [(hne rank hrank).region]
  refine h.pop (by rw [hst]; rfl) (fun g' hg' hgg i' hi' => hne _ fun heq => hgg ?_)
    (by rw [hst]; exact h.lastAttn) (fun i' hi' => ?_) (fun i' hge hi' => ⟨?_, ?_⟩) ?_
    (fun hk => ?_) hrest
  · exact (h.taken.group.rank_inj hg' hi hi' heq.symm).1
  · rcases Nat.lt_succ_iff_lt_or_eq.1 hi' with hlt | rfl
    · exact (h.cleared i' hlt).same (hne _ (by omega))
    · have hold := h.uncleared i' le_rfl hi
      refine ⟨htaken.1.trans (by rw [hold.taken]), htaken.2.trans hold.returned, ?_⟩
      rw [hself]
  · exact (h.uncleared i' (by omega) hi').same (hne _ (by omega))
  · rw [(hne _ (by omega)).region]
    exact h.marker i' (by omega) hi'
  · rw [hflags]
    refine h.chunkFlag.imp_right fun hmem => ?_
    rw [htodo] at hmem
    exact (List.mem_cons.1 hmem).resolve_left (by simp)
  · have hold := h.record hk
    rw [htodo] at hold
    refine hold.imp (fun hmem => (List.mem_cons.1 hmem).resolve_left (by simp)) fun hdone => ?_
    rw [hst]
    exact hdone

/-- Core 0 publishes the chunk. -/
theorem RowsInv.publish (h : RowsInv net st sent p g d e k q) (hA : 0 < net.sh.attnRankNum)
    (htodo : (st.core 0).todo = .record :: rest) (hop : st.op net 0 rest .record = some st') :
    RowsInv net st' sent p g d e k k := by
  have haiv := net.sh.moeAivNum_pos
  obtain ⟨hrank, hstart, hend⟩ := h.taken.core 0 haiv
  obtain rfl : q = k := by
    refine h.clears.resolve_right fun ⟨_, rest', htodo', _⟩ => ?_
    cases htodo.symm.trans htodo'
  have hdone : Recorded net st' g d e := by
    have hlast : (st.core 0).isLast net = decide (e = net.sh.expertNumPerMoe - 1) := by
      rw [MoeCore.isLast, hend]
    cases hop
    refine ⟨hrank, hstart, hend, ?_⟩
    dsimp only
    rw [hlast, hrank]
    simp only [decide_eq_true_eq]
  have hgroup : IsGroup net.sh st'.window.lastAttn := by
    rw [hdone.2.2.2]
    split
    · exact isGroup_mod hA ((Nat.dvd_add_right h.taken.group.dvd).2 (Nat.dvd_refl _))
    · exact h.taken.group
  have hkeep : st'.core = Function.update st.core 0 { st.core 0 with todo := rest } ∧
      ∀ rank, SameRank st st' rank := by
    cases hop
    exact ⟨rfl, fun _ => ⟨rfl, rfl, rfl⟩⟩
  have hfirst := (hkeep.2 g).region
  refine h.pop hkeep.1 (fun _ _ _ i _ => hkeep.2 _) hgroup (fun i hi => (h.cleared i hi).same (hkeep.2 _))
    (fun i hge hi => ⟨(h.uncleared i hge hi).same (hkeep.2 _), ?_⟩) ?_ (fun _ => .inr hdone)
    fun op hmem => h.ops 0 haiv op (htodo ▸ List.mem_cons_of_mem _ hmem)
  · rw [(hkeep.2 _).region]
    exact h.marker i hge hi
  · rw [hfirst]
    refine h.chunkFlag.imp_right fun hmem => ?_
    rw [htodo] at hmem
    exact (List.mem_cons.1 hmem).resolve_left (by simp)

/-- A step among the copies of a chunk. -/
theorem RowsInv.step (h : RowsInv net st sent p g d e k q) (hA : 0 < net.sh.attnRankNum)
    (haiv : aivId < net.sh.moeAivNum) (htodo : (st.core aivId).todo = op :: rest)
    (hop : st.op net aivId rest op = some st') :
    ∃ q, RowsInv net st' sent p g d e k q := by
  have hallowed := h.ops aivId haiv op (htodo ▸ List.mem_cons_self)
  cases op with
  | enter i => exact ⟨q, h.enter haiv htodo hop⟩
  | copy i r n => exact ⟨q, h.copy haiv htodo hop⟩
  | chunkFlags i =>
    obtain rfl := hallowed.1
    exact ⟨k, h.chunkFlags htodo hop⟩
  | clearHeader i =>
    obtain rfl := hallowed.1
    exact ⟨k, h.clearHeader htodo hop⟩
  | record =>
    obtain rfl : aivId = 0 := hallowed
    exact ⟨k, h.publish hA htodo hop⟩
  | _ => exact absurd hallowed id

end Rows

end AfdPlugin.Cam
