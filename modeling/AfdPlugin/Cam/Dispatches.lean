import AfdPlugin.Cam.SendValues
import AfdPlugin.Cam.WindowSafety
/-!
# Dispatches under way

Whatever the interleaving, a region whose dispatch is announced and not cleared holds
the MoE rank's part of the batch of that round.
-/

namespace AfdPlugin.Cam

/-- What a deployment promises of every round: the TP groups' batches can be counted and
fit the receive capacity expert by expert, and a group works on one layer. -/
structure CamNet.GroupsAdmitted {V S F : Type} (net : CamNet V S F) : Prop where
  attnRankNum_pos : 0 < net.sh.attnRankNum
  attnAivNum_le : net.sh.attnAivNum ≤ MAX_AIV_NUM
  group : ∀ round g, IsGroup net.sh g → GroupAdmitted net.sh fun i => net.batch round (g + i)
  layer : ∀ round g, IsGroup net.sh g →
    ∀ i < net.sh.tpSize, net.layerIndex round (g + i) = net.layerIndex round g

section Admitted
variable {V S F : Type} {net : CamNet V S F} {round rank : Nat}

theorem CamNet.GroupsAdmitted.valid (h : net.GroupsAdmitted) (hrank : rank < net.sh.attnRankNum) :
    (net.batch round rank).Valid net.sh := by
  obtain ⟨g, i, hg, hi, rfl⟩ := exists_group hrank
  exact (h.group round g hg).valid i hi

theorem CamNet.GroupsAdmitted.countable (h : net.GroupsAdmitted) (hrank : rank < net.sh.attnRankNum) :
    (net.batch round rank).Countable net.sh := by
  obtain ⟨g, i, hg, hi, rfl⟩ := exists_group hrank
  exact (h.group round g hg).countable i hi

theorem CamNet.GroupsAdmitted.admitted (h : net.GroupsAdmitted) : net.Admitted :=
  ⟨h.attnRankNum_pos, h.attnAivNum_le, fun _ _ hrank => h.valid hrank⟩

end Admitted

/-! ## What a MoE rank leaves of a dispatch -/

section Kept
variable {V S F : Type} {net : CamNet V S F} {st st' : MoeRank V} {aivId : Nat} {op : MoeOp V}
  {rest : List (MoeOp V)}

/-- Marker and chunk flags apart, the regions agree. -/
structure SameDispatch (g g' : AttnRegion V) : Prop where
  tokenNum : g'.tokenNum = g.tokenNum
  layerIndex : g'.layerIndex = g.layerIndex
  moePreTokenNum : g'.moePreTokenNum = g.moePreTokenNum
  expertRecvTokenNum : g'.expertRecvTokenNum = g.expertRecvTokenNum
  tokenStore : g'.tokenStore = g.tokenStore
  tokenAddr : g'.tokenAddr = g.tokenAddr

theorem SameDispatch.refl (g : AttnRegion V) : SameDispatch g g := ⟨rfl, rfl, rfl, rfl, rfl, rfl⟩

theorem SameDispatch.trans {g g' g'' : AttnRegion V} (h : SameDispatch g g')
    (h' : SameDispatch g' g'') : SameDispatch g g'' :=
  ⟨h'.tokenNum.trans h.tokenNum, h'.layerIndex.trans h.layerIndex,
    h'.moePreTokenNum.trans h.moePreTokenNum, h'.expertRecvTokenNum.trans h.expertRecvTokenNum,
    h'.tokenStore.trans h.tokenStore, h'.tokenAddr.trans h.tokenAddr⟩

theorem AttnRegion.Dispatched.same {S : Type} {g g' : AttnRegion V} {sh : CamShape} {b : Batch V S}
    {layerIndex m : Nat} (h : g.Dispatched sh b layerIndex m) (hsame : SameDispatch g g') :
    g'.Dispatched sh b layerIndex m := by
  obtain ⟨htokenNum, hlayer, hbefore, hcounts, -, hrows⟩ := h
  refine ⟨hsame.tokenNum.trans htokenNum, hsame.layerIndex.trans hlayer,
    hsame.moePreTokenNum.trans hbefore, fun i hi => ?_, rfl, fun p hp hrank => ?_⟩
  · exact (congrFun hsame.expertRecvTokenNum i).trans (hcounts i hi)
  · dsimp only
    rw [hsame.tokenStore, hsame.tokenAddr]
    exact hrows p hp hrank

/-- A step of dispatch-recv leaves a rank's dispatch as it is, or takes it. -/
theorem MoeRank.op_keeps (hop : st.op net aivId rest op = some st') (rank : Nat) :
    st'.taken rank = st.taken rank ∧ SameDispatch (st.window.region rank) (st'.window.region rank) ∨
      st'.taken rank = st.taken rank + 1 := by
  -- a region that gets another marker or other chunk flags
  have hwrite : ∀ {a : Nat} {g : AttnRegion V}, SameDispatch (st.window.region a) g →
      SameDispatch (st.window.region rank) (Function.update st.window.region a g rank) := by
    intro a g hsame
    rcases eq_or_ne rank a with rfl | hne
    · rwa [Function.update_self]
    · rw [Function.update_of_ne hne]
      exact .refl _
  cases op with
  | probe i j =>
    unfold MoeRank.op at hop
    dsimp only at hop
    split at hop
    · cases hop
      exact .inl ⟨rfl, .refl _⟩
    · split at hop
      · cases hop
        exact .inl ⟨rfl, .refl _⟩
      · cases hop
        exact .inl ⟨rfl, .refl _⟩
  | follow i =>
    unfold MoeRank.op at hop
    dsimp only at hop
    split at hop
    · cases hop
      exact .inl ⟨rfl, .refl _⟩
    · cases hop
      exact .inl ⟨rfl, .refl _⟩
  | flags =>
    obtain ⟨chunk, -, rfl⟩ := Option.map_eq_some_iff.1 hop
    exact .inl ⟨rfl, .refl _⟩
  | mark n =>
    cases hop
    exact .inl ⟨rfl, hwrite ⟨rfl, rfl, rfl, rfl, rfl, rfl⟩⟩
  | chunkFlags i =>
    cases hop
    exact .inl ⟨rfl, hwrite ⟨rfl, rfl, rfl, rfl, rfl, rfl⟩⟩
  | clearHeader i =>
    cases hop
    rcases eq_or_ne rank ((st.core aivId).tpAttnRankId + i) with rfl | hne
    · exact .inr (Function.update_self _ _ _)
    · refine .inl ⟨Function.update_of_ne hne _ _, ?_⟩
      have hregion : Function.update st.window.region ((st.core aivId).tpAttnRankId + i)
        { st.window.region ((st.core aivId).tpAttnRankId + i) with
          tokenNum := 0, marker := 0, layerIndex := 0, moePreTokenNum := 0 } rank =
          st.window.region rank := Function.update_of_ne hne _ _
      simp only [MoeWindow.setRegion, hregion]
      exact .refl _
  | put rank w => cases hop
  | start | count i | enter i | copy i r n | record =>
    cases hop
    exact .inl ⟨rfl, .refl _⟩

end Kept

/-! ## The system -/

namespace CamSystem
variable {V S F : Type} {net : CamNet V S F} {s s' : CamSystem V} {rank m aivId : Nat}
  {rest : List (AttnOp V)}

/-- What the ranks have sent is there. -/
structure Sent (net : CamNet V S F) (s : CamSystem V) : Prop where
  attn : ∀ rank < net.sh.attnRankNum, CarriesDispatch net (s.attn rank) (s.regionOf rank) rank
  region : ∀ rank < net.sh.attnRankNum, ∀ m < net.sh.moeRankNum,
    (s.moe m).taken rank < (s.attn rank).sent m →
    (s.regionOf rank m).Dispatched net.sh (net.batch ((s.moe m).taken rank) rank)
      (net.layerIndex ((s.moe m).taken rank) rank) m

/-- An Attention rank takes a step that writes to no region. -/
theorem Sent.setAttn (h : s.Sent net) {a : AttnRank V} (hsent : a.sent = (s.attn rank).sent)
    (hattn : CarriesDispatch net a (s.regionOf rank) rank) : (s.setAttn rank a).Sent net := by
  refine ⟨fun r hr => ?_, fun r hr m hm hlt => ?_⟩
  · rcases eq_or_ne r rank with rfl | hne
    · simpa using hattn
    · simpa [hne] using h.attn r hr
  · rcases eq_or_ne r rank with rfl | hne
    · simp only [setAttn_attn_self, setAttn_moe, hsent] at hlt
      exact h.region r hr m hm hlt
    · simp only [setAttn_attn_of_ne _ _ _ hne, setAttn_moe] at hlt
      exact h.region r hr m hm hlt

/-- A MoE rank takes a step. -/
theorem Sent.setMoe (hadmitted : net.GroupsAdmitted) (hinv : s.Inv net) (h : s.Sent net)
    {st : MoeRank V}
    (hkeeps : ∀ rank < net.sh.attnRankNum, st.taken rank = (s.moe m).taken rank ∧
      SameDispatch ((s.moe m).window.region rank) (st.window.region rank) ∨
      st.taken rank = (s.moe m).taken rank + 1)
    (hquiet : ∀ rank < net.sh.attnRankNum, (s.attn rank).sent m = (s.attn rank).collected m →
      st.window.region rank = (s.moe m).window.region rank) (hm : m < net.sh.moeRankNum) :
    (s.setMoe m st).Sent net := by
  refine ⟨fun r hr => CarriesDispatch.frame (h.attn r hr) (hinv.attn r hr) (hadmitted.countable hr)
    (hadmitted.valid hr) fun m' hm' hs => ?_, fun r hr m' hm' hlt => ?_⟩
  · rcases eq_or_ne m' m with rfl | hne
    · simpa [regionOf] using hquiet r hr hs
    · simp [regionOf, hne]
  · rcases eq_or_ne m' m with rfl | hne
    · simp only [setMoe_moe_self, setMoe_attn] at hlt ⊢
      rcases hkeeps r hr with ⟨htaken, hsame⟩ | htaken
      · rw [htaken] at hlt ⊢
        have hregion : (s.setMoe m' st).regionOf r m' = st.window.region r := by simp [regionOf]
        rw [hregion]
        exact (h.region r hr m' hm' hlt).same hsame
      · -- what is taken is not under way any more
        obtain ⟨hcollected, hreturned, -, hsent⟩ := (hinv.link r hr m' hm').handoff
        omega
    · have hregion : (s.setMoe m st).regionOf r m' = s.regionOf r m' := by simp [regionOf, hne]
      simp only [setMoe_moe_of_ne _ _ _ hne, setMoe_attn] at hlt ⊢
      rw [hregion]
      exact h.region r hr m' hm' hlt

/-- A write of an Attention rank lands in a region of which nothing is under way. -/
theorem Sent.landed (h : s.Sent net) {a : AttnRank V} {g : AttnRegion V}
    (hsent : ∀ m' ≠ m, a.sent m' = (s.attn rank).sent m')
    (hattn : CarriesDispatch net a (Function.update (s.regionOf rank) m g) rank)
    (hregion : (s.moe m).taken rank < a.sent m →
      g.Dispatched net.sh (net.batch ((s.moe m).taken rank) rank)
      (net.layerIndex ((s.moe m).taken rank) rank) m) :
    (s.afterWrite rank m a g).Sent net := by
  have htaken : ∀ m', ((s.afterWrite rank m a g).moe m').taken = (s.moe m').taken := by
    intro m'
    rcases eq_or_ne m' m with rfl | hne
    · simp [afterWrite, MoeRank.landed]
    · simp [afterWrite, hne]
  refine ⟨fun r hr => ?_, fun r hr m' hm' hlt => ?_⟩
  · rw [afterWrite_regionOf]
    rcases eq_or_ne r rank with rfl | hne
    · simpa [afterWrite] using hattn
    · simpa [afterWrite, hne] using h.attn r hr
  · rw [htaken] at hlt ⊢
    rw [afterWrite_regionOf]
    rcases eq_or_ne r rank with rfl | hne
    · rw [if_pos rfl]
      have hself : (s.afterWrite r m a g).attn r = a := by simp [afterWrite]
      rw [hself] at hlt
      rcases eq_or_ne m' m with rfl | hm
      · rw [Function.update_self]
        exact hregion hlt
      · rw [Function.update_of_ne hm]
        rw [hsent m' hm] at hlt
        exact h.region r hr m' hm' hlt
    · rw [if_neg hne]
      have hother : (s.afterWrite rank m a g).attn r = s.attn r := by simp [afterWrite, hne]
      rw [hother] at hlt
      exact h.region r hr m' hm' hlt

/-! ### Steps -/

/-- Before the first round there is nothing. -/
theorem Start.sent (h : s.Start net) : s.Sent net := by
  refine ⟨fun rank hrank => ?_, fun rank hrank m hm hlt => ?_⟩
  · unfold CarriesDispatch
    rw [(h.attn rank hrank).2.1]
    trivial
  · rw [((h.attn rank hrank).2.2.2 m hm).2.1] at hlt
    exact absurd hlt (Nat.not_lt_zero _)

theorem Sent.send (hadmitted : net.GroupsAdmitted) (hinv : s.Inv net) (h : s.Sent net)
    (hrank : rank < net.sh.attnRankNum) (haiv : aivId < net.sh.attnAivNum)
    (hphase : (s.attn rank).phase = .send) {op : AttnOp V} {before after : List (AttnOp V)}
    (htodo : (s.attn rank).todo aivId = before ++ op :: after) :
    ((s.setAttn rank ((s.attn rank).op net rank aivId (before ++ after) op)).land rank op).Sent net := by
  have hmem : op ∈ (s.attn rank).todo aivId := by simp [htodo]
  obtain ⟨m, hm, w, hw, rfl, hquiet⟩ := (hinv.attn rank hrank).send_op hphase haiv hmem
  obtain ⟨htaken, -⟩ := (hinv.link rank hrank m hm).handoff.quiet hquiet
  have hcarries := h.attn rank hrank
  unfold CarriesDispatch at hcarries
  rw [hphase] at hcarries
  obtain ⟨hstat, hrows⟩ := hcarries
  have hop : (s.attn rank).op net rank aivId (before ++ after) (.write m w) =
    { s.attn rank with todo := Function.update (s.attn rank).todo aivId (before ++ after) } :=
    AttnRank.op_row hw
  refine Sent.landed h (fun m' _ => ?_) ?_ fun hlt => ?_
  · rw [hop]
  · have hnext := hrows.write (hadmitted.countable hrank) (hadmitted.valid hrank) hstat.table haiv hw htodo
    rw [hop]
    unfold CarriesDispatch
    dsimp only
    rw [hphase]
    exact ⟨hstat.same rfl rfl fun _ _ => rfl, hnext.tokens, hnext.addrs⟩
  · rw [hop] at hlt
    exact absurd hlt (by dsimp only; omega)

theorem Sent.attnOp (hadmitted : net.GroupsAdmitted) (hinv : s.Inv net) (h : s.Sent net)
    (hrank : rank < net.sh.attnRankNum) (haiv : aivId < net.sh.attnAivNum)
    (hphase : (s.attn rank).phase ≠ .send) {op : AttnOp V}
    (htodo : (s.attn rank).todo aivId = op :: rest) :
    ((s.setAttn rank ((s.attn rank).op net rank aivId rest op)).land rank op).Sent net := by
  have hattn := hinv.attn rank hrank
  have hcarries := h.attn rank hrank
  have hlink := hinv.link rank hrank
  unfold CarriesDispatch at hcarries
  cases hcase : (s.attn rank).phase with
  | ready =>
    unfold AttnInv at hattn
    rw [hcase] at hattn
    exact absurd (htodo.symm.trans (hattn.2 aivId haiv)) (List.cons_ne_nil _ _)
  | send => exact absurd hcase hphase
  | announce =>
    rw [hcase] at hcarries
    obtain ⟨hstat, hannounced⟩ := hcarries
    obtain ⟨m, hm, w, rfl, hquiet, -, -⟩ := hattn.announce hcase haiv htodo
    unfold AttnInv at hattn
    rw [hcase] at hattn
    obtain ⟨as, k, hcore⟩ := hattn.2 aivId haiv
    have hround : (s.attn rank).sent m = (s.attn rank).round := hquiet.trans (hattn.1 m hm)
    obtain ⟨htaken, -⟩ := (hlink m hm).handoff.quiet hquiet
    have hsent : (∀ n, w ≠ .tokenNum n) ∧
      ((s.attn rank).op net rank aivId rest (.write m w)).sent = (s.attn rank).sent ∨
        (∃ n, w = .tokenNum n) ∧ ((s.attn rank).op net rank aivId rest (.write m w)).sent =
          Function.update (s.attn rank).sent m ((s.attn rank).sent m + 1) := AttnRank.op_sent w
    refine Sent.landed h (fun m' hne => ?_) ?_ fun hlt => ?_
    · rcases hsent with ⟨-, hsame⟩ | ⟨-, hmore⟩
      · rw [hsame]
      · rw [hmore, Function.update_of_ne hne]
    · unfold CarriesDispatch
      rw [AttnRank.op_phase, hcase]
      exact ⟨hstat.same rfl rfl fun _ _ => rfl, hannounced.step haiv hround htodo⟩
    · rcases hsent with ⟨-, hsame⟩ | ⟨⟨n, rfl⟩, -⟩
      · rw [hsame, htaken] at hlt
        exact absurd hlt (Nat.lt_irrefl _)
      · rw [htaken, hround]
        exact hannounced.dispatched (hadmitted.countable hrank) hstat.table haiv hcore htodo hm hround
  | combine =>
    rw [hcase] at hcarries
    obtain ⟨hwrite, hcounts, -⟩ := hattn.combine hcase haiv (fun m hm => (hlink m hm).moeFlag)
      (fun m hm => (hlink m hm).handoff.returned_le.trans (hlink m hm).handoff.taken_le) htodo
    have hland : ∀ s : CamSystem V, s.land rank op = s := by
      intro s
      cases op with
      | write m w => exact absurd rfl (hwrite m w)
      | _ => rfl
    rw [hland]
    refine Sent.setAttn h hcounts.sent ?_
    unfold CarriesDispatch
    rw [AttnRank.op_phase, hcase]
    refine StatKept.same hcarries hcounts.round (by cases op <;> rfl) fun a _ => ?_
    rw [hcounts.window]
  | clear =>
    rw [hcase] at hcarries
    obtain ⟨m, hm, rfl, -, -⟩ := hattn.clear hcase haiv htodo
    refine Sent.setAttn h rfl ?_
    unfold CarriesDispatch
    rw [AttnRank.op_phase, hcase]
    exact StatKept.same hcarries rfl rfl fun a ha => Function.update_of_ne (by omega) _ _

/-- Every step of every core keeps what is sent. -/
theorem Sent.step (hadmitted : net.GroupsAdmitted) (hinv : s.Inv net) (h : s.Sent net)
    (hstep : s.Step net s') : s'.Sent net := by
  cases hstep with
  | begin hrank hphase hmem => exact Sent.setAttn h rfl (CarriesDispatch.begin hmem)
  | send hrank haiv hphase htodo => exact Sent.send hadmitted hinv h hrank haiv hphase htodo
  | attn hrank haiv hphase htodo => exact Sent.attnOp hadmitted hinv h hrank haiv hphase htodo
  | @attnNext rank hrank hphase htodo =>
    obtain ⟨-, hsent, -, -⟩ := (hinv.attn rank hrank).next hphase htodo
    exact Sent.setAttn h hsent
      ((h.attn rank hrank).next (hadmitted.countable hrank) (hadmitted.valid hrank) htodo)
  | @moe m aivId op rest st hm haiv htodo hop =>
    obtain ⟨p, -, hmoe⟩ := hinv.moe m hm
    obtain ⟨-, -, htouch⟩ := hmoe.op hadmitted.attnRankNum_pos
      (fun rank hrank => (hinv.link rank hrank m hm).tokenNum) haiv htodo hop
    refine Sent.setMoe hadmitted hinv h (fun rank _ => MoeRank.op_keeps hop rank)
      (fun rank hrank hquiet => ?_) hm
    obtain ⟨htaken, -⟩ := (hinv.link rank hrank m hm).handoff.quiet hquiet
    rcases (htouch rank).region with ⟨hsame, -⟩ | ⟨hne, -⟩
    · exact hsame
    · have := (hinv.link rank hrank m hm).tokenNum hne
      omega
  | @put m aivId rank w rest hm haiv htodo =>
    have hmoved : (s.setMoe m ((s.moe m).put aivId rest rank w)).Sent net :=
      Sent.setMoe hadmitted hinv h (fun _ _ => .inl ⟨rfl, .refl _⟩) (fun _ _ _ => rfl) hm
    obtain ⟨p, -, hmoe⟩ := hinv.moe m hm
    have hrank := (hmoe.puts haiv (by rw [htodo]; exact List.mem_cons_self)).1
    refine Sent.setAttn hmoved rfl (CarriesDispatch.window (hmoved.attn rank hrank) fun a ha => ?_)
    cases w with
    | flag m' v => exact Function.update_of_ne (by omega) _ _
    | row i x => rfl
  | @moeNext m st hm htodo hnext =>
    obtain ⟨p, hp, hmoe⟩ := hinv.moe m hm
    obtain ⟨-, hsame⟩ := hmoe.next hadmitted.attnRankNum_pos hp htodo hnext
    refine Sent.setMoe hadmitted hinv h (fun rank _ => .inl ⟨(hsame rank).taken, ?_⟩)
      (fun rank _ _ => (hsame rank).region) hm
    rw [(hsame rank).region]
    exact .refl _

theorem Reachable.sent (hadmitted : net.GroupsAdmitted) (h : s.Reachable net) : s.Sent net := by
  induction h with
  | start hstart => exact hstart.sent
  | step hreach hstep ih => exact ih.step hadmitted (hreach.inv hadmitted.admitted) hstep

end CamSystem

end AfdPlugin.Cam
