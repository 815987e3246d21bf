import AfdPlugin.Cam.AttnSteps
import AfdPlugin.Cam.MoeBarriers
/-!
# Every interleaving of the ranks

The invariant holds at the start and after every step of every core, and with it what
the windows are for: nobody writes over what another rank has still to read, and nobody
reads what is not complete.
-/

namespace AfdPlugin.Cam

/-- What a deployment promises: the statistics of all cores fit before the flags, and the
batches are well formed. -/
structure CamNet.Admitted {V S F : Type} (net : CamNet V S F) : Prop where
  attnRankNum_pos : 0 < net.sh.attnRankNum
  attnAivNum_le : net.sh.attnAivNum ≤ MAX_AIV_NUM
  valid : ∀ round, ∀ rank < net.sh.attnRankNum, (net.batch round rank).Valid net.sh

/-! ## What the statistics leave alone -/

/-- `PreProcess` writes the statistics only. -/
theorem PreProcessed.flags {V S : Type} {sh : CamShape} {b : Batch V S} {mem mem' : Nat → Nat}
    (h : PreProcessed sh b mem mem') (haiv : sh.attnAivNum ≤ MAX_AIV_NUM) (m : Nat) :
    mem' (sh.dispatchOffset + m) = mem (sh.dispatchOffset + m) := by
  obtain ⟨table, hstat, hcolumns⟩ := h
  have hne : ∀ {c col : Nat}, c < sh.attnAivNum → col < sh.statEntriesPerAiv →
      sh.statAddr (c, col) ≠ sh.dispatchOffset + m := by
    intro c col hc hcol heq
    have := statAddr_lt_dispatchOffset haiv hc hcol
    omega
  rw [hcolumns.frame fun c hc buffer w hw => ?_, hstat.frame fun c hc buffer w hw => ?_]
  · obtain ⟨w', hw', rfl⟩ := mem_toGM.1 hw
    obtain ⟨col, hcol, rfl⟩ := (mem_statWrites sh b).1 hw'
    exact hne hc hcol
  · obtain ⟨col, row, howns, hrow, rfl⟩ := (mem_prefixProgram hc).1 hw
    exact hne hrow.2 (ownsColumn_lt hc howns)

/-! ## Links -/

section Links
variable {V S F : Type} {net : CamNet V S F} {sh : CamShape} {a a' : AttnRank V} {st st' : MoeRank V}
  {rank m aivId : Nat} {rest : List (AttnOp V)}

/-- A flag of combine-send that arrives sets its word. -/
theorem moeFlag_write_flag (sh : CamShape) (w : AttnWindow V) (m' v m : Nat) :
    (w.write sh (.flag m' v)).moeFlag sh m = if m = m' then v else w.moeFlag sh m := by
  simp only [AttnWindow.moeFlag, AttnWindow.write, Function.update_apply, Nat.add_left_cancel_iff]

/-- What does not change the counts and the flag of a MoE rank. -/
theorem LinkInv.same_attn (h : LinkInv sh a st rank m) (hsent : a'.sent m = a.sent m)
    (hcollected : a'.collected m = a.collected m)
    (hflag : a'.window.moeFlag sh m = a.window.moeFlag sh m) : LinkInv sh a' st rank m := by
  refine ⟨?_, ?_, ?_⟩
  · rw [hsent, hcollected]
    exact h.handoff
  · rw [hsent]
    exact h.tokenNum
  · rw [hflag, hcollected]
    exact h.moeFlag

/-- A step of dispatch-recv takes only what is announced. -/
theorem LinkInv.touch (h : LinkInv sh a st rank m) (htouch : MoeTouch st st' rank) :
    LinkInv sh a st' rank m := by
  obtain ⟨⟨hcollected, hreturned, htaken, hsent⟩, htoken, hflag⟩ := h
  obtain ⟨hreturned', hregion⟩ := htouch
  rcases hregion with ⟨hsame, htaken'⟩ | ⟨hne, hcase⟩
  · refine ⟨⟨?_, ?_, ?_, hsent⟩, ?_, ?_⟩
    · omega
    · omega
    · omega
    · rw [hsame, htaken']
      exact htoken
    · rw [hreturned']
      exact hflag
  · have hlt := htoken hne
    refine ⟨⟨by omega, by omega, by omega, hsent⟩, fun hne' => ?_, ?_⟩
    · rcases hcase with ⟨-, htaken'⟩ | ⟨hzero, -⟩
      · omega
      · exact absurd hzero hne'
    · rw [hreturned']
      exact hflag

/-- What has come back of a dispatch is not needed to go on with it. -/
theorem AttnInv.window {region : Nat → AttnRegion V} {returned : Nat → Nat}
    (h : AttnInv net a region returned rank) (w : AttnWindow V) :
    AttnInv net { a with window := w } region returned rank := by
  unfold AttnInv at h ⊢
  dsimp only
  cases hphase : a.phase with
  | ready =>
    rw [hphase] at h
    exact h
  | send =>
    rw [hphase] at h
    exact h
  | announce =>
    rw [hphase] at h
    refine ⟨h.1, fun c hc => ?_⟩
    obtain ⟨as, k, hcore⟩ := h.2 c hc
    exact ⟨as, k, hcore.todo, hcore.k_lt, hcore.ranks, hcore.nodup, hcore.sent, hcore.chunkFlag⟩
  | combine =>
    rw [hphase] at h
    refine ⟨h.1, fun c hc => ?_⟩
    cases h.2 c hc with
    | load todo => exact .load todo
    | seed todo => exact .seed todo
    | poll todo hi before => exact .poll todo hi before
    | gather todo all => exact .gather todo all
  | clear =>
    rw [hphase] at h
    obtain ⟨k, hk, hclear⟩ := h
    exact ⟨k, hk, hclear.todo, hclear.flags⟩

/-- Nothing is under way on a link whose announcements are all collected. -/
theorem Handoff.quiet {sent taken returned collected : Nat} (h : Handoff sent taken returned collected)
    (heq : sent = collected) :
    taken = sent ∧ returned = sent := by
  obtain ⟨hcollected, hreturned, htaken, -⟩ := h
  omega

/-- Only the token number announces. -/
theorem AttnRank.op_sent (w : RegionWrite V) :
    (∀ n, w ≠ .tokenNum n) ∧ (a.op net rank aivId rest (.write m w)).sent = a.sent ∨
      (∃ n, w = .tokenNum n) ∧ (a.op net rank aivId rest (.write m w)).sent = Function.update a.sent m
        (a.sent m + 1) := by
  cases w with
  | tokenNum n => exact .inr ⟨⟨n, rfl⟩, rfl⟩
  | _ => exact .inl ⟨fun n => by simp, rfl⟩

theorem AttnRegion.write_marker (g : AttnRegion V) (w : RegionWrite V) (h : g.marker = 0) :
    (g.write w).marker = 0 := by
  cases w <;> first | exact h | rfl

theorem AttnRegion.write_tokenNum (g : AttnRegion V) {w : RegionWrite V} (h : g.tokenNum = 0)
    (hw : ∀ n, w ≠ .tokenNum n) :
    (g.write w).tokenNum = 0 := by
  cases w with
  | tokenNum n => exact absurd rfl (hw n)
  | header => rfl
  | _ => exact h

end Links

/-! ## Changes of one rank -/

namespace CamSystem

section Updates
variable {V : Type} (s : CamSystem V) (rank m : Nat) (a : AttnRank V) (st : MoeRank V)

@[simp] theorem setAttn_attn_self : (s.setAttn rank a).attn rank = a := by simp [setAttn]

@[simp] theorem setAttn_attn_of_ne {r : Nat} (h : r ≠ rank) : (s.setAttn rank a).attn r = s.attn r := by
  simp [setAttn, h]

@[simp] theorem setAttn_moe : (s.setAttn rank a).moe = s.moe := rfl

@[simp] theorem setMoe_moe_self : (s.setMoe m st).moe m = st := by simp [setMoe]

@[simp] theorem setMoe_moe_of_ne {m' : Nat} (h : m' ≠ m) : (s.setMoe m st).moe m' = s.moe m' := by
  simp [setMoe, h]

@[simp] theorem setMoe_attn : (s.setMoe m st).attn = s.attn := rfl

@[simp] theorem regionOf_setAttn : (s.setAttn rank a).regionOf = s.regionOf := rfl

end Updates

section Changes
variable {V S F : Type} {net : CamNet V S F} {s s' : CamSystem V} {rank m : Nat}

/-- An Attention rank takes a step of its own. -/
theorem Inv.setAttn (h : s.Inv net) {a : AttnRank V} (hsent : a.sent = (s.attn rank).sent)
    (hlink : ∀ m < net.sh.moeRankNum, LinkInv net.sh a (s.moe m) rank m)
    (hattn : AttnInv net a (s.regionOf rank) (fun m => (s.moe m).returned rank) rank) :
    (s.setAttn rank a).Inv net := by
  have hall : ∀ m, (fun r => ((s.setAttn rank a).attn r).sent m) = fun r => (s.attn r).sent m := by
    intro m
    funext r
    rcases eq_or_ne r rank with rfl | hne
    · simp [hsent]
    · simp [hne]
  refine ⟨fun r hr m hm => ?_, fun r hr => ?_, fun m hm => ?_⟩
  · rcases eq_or_ne r rank with rfl | hne
    · simpa using hlink m hm
    · simpa [hne] using h.link r hr m hm
  · rcases eq_or_ne r rank with rfl | hne
    · simpa using hattn
    · simpa [hne] using h.attn r hr
  · rw [hall]
    exact h.moe m hm

/-- A MoE rank takes a step of its own. -/
theorem Inv.setMoe (h : s.Inv net) {st : MoeRank V}
    (hmoe : ∃ p, received net.sh.expertNumPerMoe st.calls = some p ∧
      MoeInv net st (fun rank => (s.attn rank).sent m) p m)
    (hlink : ∀ rank < net.sh.attnRankNum, LinkInv net.sh (s.attn rank) st rank m)
    (hregion : ∀ rank < net.sh.attnRankNum, (s.attn rank).sent m = (s.attn rank).collected m →
      st.window.region rank = (s.moe m).window.region rank)
    (hreturned : ∀ rank < net.sh.attnRankNum, (s.moe m).returned rank ≤ st.returned rank ∧
      st.returned rank ≤ (s.attn rank).sent m) :
    (s.setMoe m st).Inv net := by
  refine ⟨fun r hr m' hm' => ?_, fun r hr => AttnInv.frame (h.attn r hr) (fun m' hm' hsent => ?_)
    fun m' hm' => ?_, fun m' hm' => ?_⟩
  · rcases eq_or_ne m' m with rfl | hne
    · simpa using hlink r hr
    · simpa [hne] using h.link r hr m' hm'
  · rcases eq_or_ne m' m with rfl | hne
    · simpa [regionOf] using hregion r hr hsent
    · simp [regionOf, hne]
  · rcases eq_or_ne m' m with rfl | hne
    · simpa using hreturned r hr
    · obtain ⟨-, hreturned, htaken, -⟩ := (h.link r hr m' hm').handoff
      simpa [hne] using hreturned.trans htaken
  · rcases eq_or_ne m' m with rfl | hne
    · simpa using hmoe
    · simpa [hne] using h.moe m' hm'

/-- The system after a write of an Attention rank has landed at a MoE rank. -/
def afterWrite (s : CamSystem V) (rank m : Nat) (a : AttnRank V) (g : AttnRegion V) : CamSystem V :=
  (s.setAttn rank a).setMoe m ((s.moe m).landed rank g)

theorem afterWrite_returned (s : CamSystem V) (rank m : Nat) (a : AttnRank V) (g : AttnRegion V)
    (m' : Nat) :
    ((s.afterWrite rank m a g).moe m').returned = (s.moe m').returned := by
  rcases eq_or_ne m' m with rfl | hne
  · simp [afterWrite, MoeRank.landed]
  · simp [afterWrite, hne]

theorem afterWrite_regionOf (s : CamSystem V) (rank m : Nat) (a : AttnRank V) (g : AttnRegion V) (r : Nat) :
    (s.afterWrite rank m a g).regionOf r = if r = rank then Function.update (s.regionOf rank) m g
      else s.regionOf r := by
  funext m'
  rcases eq_or_ne m' m with rfl | hne
  · by_cases hr : r = rank
    · subst hr
      simp [afterWrite, regionOf, MoeRank.landed, MoeWindow.setRegion]
    · simp [afterWrite, regionOf, MoeRank.landed, MoeWindow.setRegion, hr]
  · by_cases hr : r = rank
    · subst hr
      simp [afterWrite, regionOf, hne]
    · simp [afterWrite, regionOf, hne, hr]

/-- A write of an Attention rank lands at MoE rank `m`. -/
theorem Inv.landed (h : s.Inv net) {a : AttnRank V} {g : AttnRegion V}
    (hsent : ∀ m' ≠ m, a.sent m' = (s.attn rank).sent m')
    (hquiet : Quiet (s.moe m) (fun r => (s.attn r).sent m) (fun r => ((s.setAttn rank a).attn r).sent m)
      rank g) (hlink : ∀ m' < net.sh.moeRankNum, LinkInv net.sh a ((s.afterWrite rank m a g).moe m')
      rank m') (hattn : AttnInv net a (Function.update (s.regionOf rank) m g)
      (fun m => (s.moe m).returned rank) rank) :
    (s.afterWrite rank m a g).Inv net := by
  refine ⟨fun r hr m' hm' => ?_, fun r hr => ?_, fun m' hm' => ?_⟩
  · rcases eq_or_ne r rank with rfl | hne
    · simpa [afterWrite] using hlink m' hm'
    · obtain ⟨hhandoff, htoken, hflag⟩ := h.link r hr m' hm'
      rcases eq_or_ne m' m with rfl | hm
      · have hregion : ((s.moe m').landed rank g).window.region r = (s.moe m').window.region r :=
          (MoeRank.landed_of_ne hne).region
        simp only [afterWrite, setMoe_attn, setMoe_moe_self, setAttn_attn_of_ne _ _ _ hne]
        exact ⟨hhandoff, by rwa [hregion], hflag⟩
      · simpa [afterWrite, hne, hm] using ⟨hhandoff, htoken, hflag⟩
  · have hreturned : (fun m' => ((s.afterWrite rank m a g).moe m').returned r) = fun m' =>
        (s.moe m').returned r := by
      funext m'
      rw [afterWrite_returned]
    rw [afterWrite_regionOf, hreturned]
    rcases eq_or_ne r rank with rfl | hne
    · simpa [afterWrite] using hattn
    · simpa [afterWrite, hne] using h.attn r hr
  · rcases eq_or_ne m' m with rfl | hm
    · obtain ⟨p, hp, hmoe⟩ := h.moe m' hm'
      simp only [afterWrite, setMoe_moe_self, setMoe_attn]
      exact ⟨p, hp, hmoe.land hquiet⟩
    · have hsame : (fun r => ((s.afterWrite rank m a g).attn r).sent m') = fun r => (s.attn r).sent m' := by
        funext r
        rcases eq_or_ne r rank with rfl | hne
        · simp [afterWrite, hsent m' hm]
        · simp [afterWrite, hne]
      rw [hsame]
      simpa [afterWrite, hm] using h.moe m' hm'

end Changes

/-! ## Steps -/

section Steps
variable {V S F : Type} {net : CamNet V S F} {s s' : CamSystem V} {rank m aivId : Nat}
  {rest : List (AttnOp V)}

/-- A write of an Attention rank into a region of which nothing is under way. -/
theorem Inv.write (h : s.Inv net) (hrank : rank < net.sh.attnRankNum) (hm : m < net.sh.moeRankNum)
    {w : RegionWrite V} (hquiet : (s.attn rank).sent m = (s.attn rank).collected m)
    (hflag : ∀ n, w = .tokenNum n → (s.regionOf rank m).chunkFlag = fun _ => 0)
    (hattn : AttnInv net ((s.attn rank).op net rank aivId rest (.write m w))
      (Function.update (s.regionOf rank) m ((s.regionOf rank m).write w))
      (fun m => (s.moe m).returned rank) rank) :
    ((s.setAttn rank ((s.attn rank).op net rank aivId rest (.write m w))).land rank (.write m w)).Inv
      net := by
  have hlink := h.link rank hrank m hm
  obtain ⟨htaken, hreturned⟩ := hlink.handoff.quiet hquiet
  have htoken : (s.regionOf rank m).tokenNum = 0 := by
    by_contra hne
    have := hlink.tokenNum hne
    omega
  obtain ⟨a, ha⟩ : ∃ a, a = (s.attn rank).op net rank aivId rest (.write m w) := ⟨_, rfl⟩
  have hcollected : a.collected = (s.attn rank).collected := by rw [ha]; rfl
  have hwindow : a.window = (s.attn rank).window := by rw [ha]; rfl
  have hsent : (∀ n, w ≠ .tokenNum n) ∧ a.sent = (s.attn rank).sent ∨
      (∃ n, w = .tokenNum n) ∧
          a.sent = Function.update (s.attn rank).sent m ((s.attn rank).sent m + 1) := by
    rw [ha]
    exact AttnRank.op_sent w
  have hothers : ∀ m' ≠ m, a.sent m' = (s.attn rank).sent m' := by
    intro m' hne
    rcases hsent with ⟨-, hsent⟩ | ⟨-, hsent⟩
    · rw [hsent]
    · rw [hsent, Function.update_of_ne hne]
  rw [← ha] at hattn ⊢
  refine Inv.landed h hothers ⟨htoken, htaken.trans hreturned.symm, AttnRegion.write_marker _ w,
    fun hlt => ?_, fun r hne => ?_⟩ (fun m' hm' => ?_) hattn
  · simp only [setAttn_attn_self] at hlt
    rcases hsent with ⟨-, hsent⟩ | ⟨⟨n, rfl⟩, -⟩
    · rw [hsent] at hlt
      omega
    · rw [readFlags_zero]
      exact hflag n rfl
  · simp [hne]
  · have hflags : a.window.moeFlag net.sh m' = (s.attn rank).window.moeFlag net.sh m' := by rw [hwindow]
    rcases eq_or_ne m' m with rfl | hne
    · obtain ⟨⟨hc, hr, ht, hs⟩, -, hflagged⟩ := hlink
      simp only [afterWrite, setMoe_moe_self]
      refine ⟨⟨?_, hr, ?_, ?_⟩, fun hne => ?_, ?_⟩
      · rw [hcollected]
        exact hc
      · rcases hsent with ⟨-, hsent⟩ | ⟨-, hsent⟩
        · rw [hsent]
          exact ht
        · rw [hsent, Function.update_self]
          exact Nat.le_succ_of_le ht
      · rcases hsent with ⟨-, hsent⟩ | ⟨-, hsent⟩
        · rw [hsent, hcollected]
          exact hs
        · rw [hsent, hcollected, Function.update_self]
          omega
      · have hregion : ((s.moe m').landed rank ((s.regionOf rank m').write w)).window.region rank =
            (s.regionOf rank m').write w := by
          simp [MoeRank.landed, MoeWindow.setRegion]
        change (((s.moe m').landed rank ((s.regionOf rank m').write w)).window.region rank).tokenNum ≠
          0 at hne
        rw [hregion] at hne
        rcases hsent with ⟨hw, -⟩ | ⟨-, hsent⟩
        · exact absurd (AttnRegion.write_tokenNum _ htoken hw) hne
        · rw [hsent, Function.update_self]
          exact Nat.lt_succ_of_le ht
      · rw [hflags, hcollected]
        exact hflagged
    · simp only [afterWrite, setMoe_moe_of_ne _ _ _ hne]
      exact (h.link rank hrank m' hm').same_attn (hothers m' hne) (by rw [hcollected]) hflags

/-- Before the first round nothing is under way. -/
theorem Start.inv (hadmitted : net.Admitted) (h : s.Start net) : s.Inv net := by
  refine ⟨fun rank hrank m hm => ?_, fun rank hrank => ?_, fun m hm => ?_⟩
  · obtain ⟨-, -, -, hattn⟩ := h.attn rank hrank
    obtain ⟨-, -, -, -, hmoe⟩ := h.moe m hm
    obtain ⟨hflag, hsent, hcollected⟩ := hattn m hm
    obtain ⟨htoken, -, htaken, hreturned⟩ := hmoe rank hrank
    refine ⟨?_, fun hne => absurd htoken hne, fun hne => absurd hflag hne⟩
    rw [hsent, hcollected, htaken, hreturned]
    exact ⟨le_rfl, le_rfl, le_rfl, Nat.zero_le 1⟩
  · obtain ⟨hround, hphase, htodo, hattn⟩ := h.attn rank hrank
    unfold AttnInv
    rw [hphase]
    refine ⟨fun m hm => ?_, fun c _ => htodo c⟩
    rw [hround]
    exact (hattn m hm).2
  · obtain ⟨hphase, htodo, hlast, hcalls, hmoe⟩ := h.moe m hm
    have hzero : IsGroup net.sh 0 := ⟨dvd_zero _, hadmitted.attnRankNum_pos⟩
    refine ⟨⟨fun _ => 0, none⟩, by rw [hcalls]; rfl, ?_⟩
    unfold MoeInv
    rw [hphase]
    refine ⟨none, .inl rfl, fun g d hcur => (by cases hcur), fun g hg _ i hi => ?_, by rwa [hlast],
      fun g d hcur => (by cases hcur), fun c _ => .start (htodo c) fun _ => rfl⟩
    obtain ⟨-, hmarker, htaken, hreturned⟩ := hmoe (g + i) (hg.rank_lt hi)
    refine ⟨htaken, hreturned, hmarker, fun hlt => ?_⟩
    dsimp only at hlt
    rw [((h.attn (g + i) (hg.rank_lt hi)).2.2.2 m hm).2.1] at hlt
    exact absurd hlt (Nat.lt_irrefl 0)

/-- The statistics of a round. -/
theorem Inv.begin (hadmitted : net.Admitted) (h : s.Inv net) (hrank : rank < net.sh.attnRankNum)
    (hphase : (s.attn rank).phase = .ready) {mem : Nat → Nat}
    (hmem : PreProcessed net.sh (net.batch (s.attn rank).round rank) (s.attn rank).window.word mem) :
    (s.setAttn rank ((s.attn rank).begin net rank mem)).Inv net := by
  refine Inv.setAttn h rfl (fun m hm => ?_)
    ((h.attn rank hrank).begin hphase (hadmitted.valid _ rank hrank) mem)
  exact (h.link rank hrank m hm).same_attn rfl rfl (hmem.flags hadmitted.attnAivNum_le m)

/-- A row or an address entry. -/
theorem Inv.send (h : s.Inv net) (hrank : rank < net.sh.attnRankNum) (haiv : aivId < net.sh.attnAivNum)
    (hphase : (s.attn rank).phase = .send) {op : AttnOp V} {before after : List (AttnOp V)}
    (htodo : (s.attn rank).todo aivId = before ++ op :: after) :
    ((s.setAttn rank ((s.attn rank).op net rank aivId (before ++ after) op)).land rank op).Inv net := by
  have hattn := h.attn rank hrank
  have hmem : op ∈ (s.attn rank).todo aivId := by simp [htodo]
  obtain ⟨m, hm, w, hw, rfl, hquiet⟩ := hattn.send_op hphase haiv hmem
  refine Inv.write h hrank hm hquiet (fun n hn => ?_) ?_
  · subst hn
    cases hw
  · rw [AttnRank.op_row hw]
    refine hattn.send hphase fun op hop => ?_
    rw [htodo]
    rcases List.mem_append.1 hop with hop | hop
    · exact List.mem_append_left _ hop
    · exact List.mem_append_right _ (List.mem_cons_of_mem _ hop)

/-- A step of combine-recv or of `SetFlags`. -/
theorem Inv.attnOp (h : s.Inv net) (hrank : rank < net.sh.attnRankNum) (haiv : aivId < net.sh.attnAivNum)
    (hphase : (s.attn rank).phase ≠ .send) {op : AttnOp V} (htodo : (s.attn rank).todo aivId = op :: rest) :
    ((s.setAttn rank ((s.attn rank).op net rank aivId rest op)).land rank op).Inv net := by
  have hattn := h.attn rank hrank
  have hlink := h.link rank hrank
  cases hcase : (s.attn rank).phase with
  | ready =>
    unfold AttnInv at hattn
    rw [hcase] at hattn
    exact absurd (htodo.symm.trans (hattn.2 aivId haiv)) (List.cons_ne_nil _ _)
  | send => exact absurd hcase hphase
  | announce =>
    obtain ⟨m, hm, w, rfl, hquiet, hflag, hnext⟩ := hattn.announce hcase haiv htodo
    exact Inv.write h hrank hm hquiet hflag hnext
  | combine =>
    obtain ⟨hwrite, hcounts, hnext⟩ := hattn.combine hcase haiv (fun m hm => (hlink m hm).moeFlag)
      (fun m hm => (hlink m hm).handoff.returned_le.trans (hlink m hm).handoff.taken_le) htodo
    have hland : ∀ s : CamSystem V, s.land rank op = s := by
      intro s
      cases op with
      | write m w => exact absurd rfl (hwrite m w)
      | _ => rfl
    rw [hland]
    refine Inv.setAttn h hcounts.sent (fun m hm => (hlink m hm).same_attn ?_ ?_ ?_) hnext
    · rw [hcounts.sent]
    · rw [hcounts.collected]
    · rw [hcounts.window]
  | clear =>
    obtain ⟨m, hm, rfl, hlt, hnext⟩ := hattn.clear hcase haiv htodo
    refine Inv.setAttn h rfl (fun m' hm' => ?_) hnext
    have hflags := moeFlag_write_flag net.sh (s.attn rank).window m 0 m'
    obtain ⟨⟨hcollected, hreturned, htaken, hsent⟩, htoken, hflag⟩ := hlink m' hm'
    rcases eq_or_ne m' m with rfl | hne
    · have hself : Function.update (s.attn rank).collected m' ((s.attn rank).collected m' + 1) m' =
          (s.attn rank).collected m' + 1 :=
        Function.update_self _ _ _
      rw [if_pos rfl] at hflags
      refine ⟨⟨?_, hreturned, htaken, ?_⟩, htoken, fun hne => absurd hflags hne⟩
      · exact hself.trans_le hlt
      · change (s.attn rank).sent m' ≤
          Function.update (s.attn rank).collected m' ((s.attn rank).collected m' + 1) m' + 1
        omega
    · rw [if_neg hne] at hflags
      exact LinkInv.same_attn ⟨⟨hcollected, hreturned, htaken, hsent⟩, htoken, hflag⟩
        rfl (Function.update_of_ne hne _ _) hflags

/-- A step of dispatch-recv. -/
theorem Inv.moeOp (hadmitted : net.Admitted) (h : s.Inv net) (hm : m < net.sh.moeRankNum)
    (haiv : aivId < net.sh.moeAivNum) {op : MoeOp V} {rest : List (MoeOp V)} {st : MoeRank V}
    (htodo : ((s.moe m).core aivId).todo = op :: rest)
    (hop : (s.moe m).op net aivId rest op = some st) : (s.setMoe m st).Inv net := by
  obtain ⟨p, hp, hmoe⟩ := h.moe m hm
  obtain ⟨hnext, hcalls, htouch⟩ := hmoe.op hadmitted.attnRankNum_pos
    (fun rank hrank => (h.link rank hrank m hm).tokenNum) haiv htodo hop
  refine Inv.setMoe h ⟨p, by rw [hcalls, hp], hnext⟩
    (fun rank hrank => (h.link rank hrank m hm).touch (htouch rank)) (fun rank hrank hquiet => ?_)
    fun rank hrank => ?_
  · obtain ⟨htaken, -⟩ := (h.link rank hrank m hm).handoff.quiet hquiet
    rcases (htouch rank).region with ⟨hsame, -⟩ | ⟨hne, -⟩
    · exact hsame
    · have := (h.link rank hrank m hm).tokenNum hne
      omega
  · obtain ⟨-, hreturned, htaken, -⟩ := (h.link rank hrank m hm).handoff
    rw [(htouch rank).returned]
    exact ⟨le_rfl, hreturned.trans htaken⟩

/-- A row or a flag of combine-send arrives. -/
theorem Inv.put (h : s.Inv net) (hm : m < net.sh.moeRankNum) (haiv : aivId < net.sh.moeAivNum)
    {w : CombineWrite V} {rest : List (MoeOp V)}
    (htodo : ((s.moe m).core aivId).todo = .put rank w :: rest) :
    ((s.setMoe m ((s.moe m).put aivId rest rank w)).setAttn rank
      { s.attn rank with window := (s.attn rank).window.write net.sh w }).Inv net := by
  obtain ⟨p, hp, hmoe⟩ := h.moe m hm
  have hone : ∀ r < net.sh.attnRankNum, (s.attn r).sent m ≤ (s.moe m).returned r + 1 := by
    intro r hr
    obtain ⟨hcollected, -, -, hsent⟩ := (h.link r hr m hm).handoff
    exact hsent.trans (Nat.succ_le_succ hcollected)
  obtain ⟨hnext, hrank, hw⟩ := hmoe.put haiv hone htodo
  have hlink := h.link rank hrank m hm
  -- a flag counts before it arrives
  have hreturned : ∀ r < net.sh.attnRankNum,
      (s.moe m).returned r ≤ ((s.moe m).put aivId rest rank w).returned r ∧
      ((s.moe m).put aivId rest rank w).returned r ≤ (s.moe m).taken r := by
    intro r hr
    have hle := (h.link r hr m hm).handoff.returned_le
    rcases hw with ⟨i, x, rfl⟩ | ⟨v, rfl, -, htaken⟩
    · exact ⟨le_rfl, hle⟩
    · dsimp only [MoeRank.put]
      rcases eq_or_ne r rank with rfl | hne
      · rw [Function.update_self]
        omega
      · rw [Function.update_of_ne hne]
        exact ⟨le_rfl, hle⟩
  have hmoved : (s.setMoe m ((s.moe m).put aivId rest rank w)).Inv net := by
    refine Inv.setMoe h ⟨p, hp, hnext⟩ (fun r hr => ?_) (fun _ _ _ => rfl) fun r hr => ?_
    · obtain ⟨⟨hcollected, -, htaken, hsent⟩, htoken, hflag⟩ := h.link r hr m hm
      exact ⟨⟨hcollected.trans (hreturned r hr).1, (hreturned r hr).2, htaken, hsent⟩, htoken,
        fun hne => (hflag hne).trans_le (hreturned r hr).1⟩
    · exact ⟨(hreturned r hr).1, (hreturned r hr).2.trans (h.link r hr m hm).handoff.taken_le⟩
  refine Inv.setAttn hmoved rfl (fun m' hm' => ?_) ((hmoved.attn rank hrank).window _)
  have hlink' := hmoved.link rank hrank m' hm'
  rcases hw with ⟨i, x, rfl⟩ | ⟨v, rfl, -, htaken⟩
  · exact hlink'.same_attn rfl rfl rfl
  · have hflags := moeFlag_write_flag net.sh (s.attn rank).window m v m'
    rcases eq_or_ne m' m with rfl | hne
    · refine ⟨hlink'.handoff, hlink'.tokenNum, fun _ => ?_⟩
      simp only [setMoe_moe_self, MoeRank.put, Function.update_self]
      exact Nat.lt_succ_of_le hlink.handoff.collected_le
    · rw [if_neg hne] at hflags
      exact hlink'.same_attn rfl rfl hflags

/-- A MoE rank passes a barrier. -/
theorem Inv.moeNext (hadmitted : net.Admitted) (h : s.Inv net) (hm : m < net.sh.moeRankNum)
    {st : MoeRank V} (htodo : ∀ aivId < net.sh.moeAivNum, ((s.moe m).core aivId).todo = [])
    (hnext : (s.moe m).next net m = some st) :
    (s.setMoe m st).Inv net := by
  obtain ⟨p, hp, hmoe⟩ := h.moe m hm
  obtain ⟨hmoe', hsame⟩ := hmoe.next hadmitted.attnRankNum_pos hp htodo hnext
  refine Inv.setMoe h hmoe' (fun rank hrank => ?_) (fun rank _ _ => (hsame rank).region)
    fun rank hrank => ?_
  · exact (h.link rank hrank m hm).touch ⟨(hsame rank).returned,
      .inl ⟨(hsame rank).region, (hsame rank).taken⟩⟩
  · obtain ⟨-, hreturned, htaken, -⟩ := (h.link rank hrank m hm).handoff
    rw [(hsame rank).returned]
    exact ⟨le_rfl, hreturned.trans htaken⟩

/-- Every step of every core keeps the invariant. -/
theorem Inv.step (hadmitted : net.Admitted) (h : s.Inv net) (hstep : s.Step net s') : s'.Inv net := by
  cases hstep with
  | begin hrank hphase hmem => exact Inv.begin hadmitted h hrank hphase hmem
  | send hrank haiv hphase htodo => exact Inv.send h hrank haiv hphase htodo
  | attn hrank haiv hphase htodo => exact Inv.attnOp h hrank haiv hphase htodo
  | @attnNext rank hrank hphase htodo =>
    obtain ⟨hattn, hsent, hcollected, hwindow⟩ := (h.attn rank hrank).next hphase htodo
    refine Inv.setAttn h hsent (fun m hm => (h.link rank hrank m hm).same_attn ?_ ?_ ?_) hattn
    · rw [hsent]
    · rw [hcollected]
    · rw [hwindow]
  | moe hm haiv htodo hop => exact Inv.moeOp hadmitted h hm haiv htodo hop
  | put hm haiv htodo => exact Inv.put h hm haiv htodo
  | moeNext hm htodo hnext => exact Inv.moeNext hadmitted h hm htodo hnext

theorem Reachable.inv (hadmitted : net.Admitted) (h : s.Reachable net) : s.Inv net := by
  induction h with
  | start hstart => exact hstart.inv hadmitted
  | step _ hstep ih => exact ih.step hadmitted hstep

end Steps

end CamSystem

end AfdPlugin.Cam
