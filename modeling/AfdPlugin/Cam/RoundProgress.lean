import AfdPlugin.Cam.SearchProgress
/-!
# Rounds come to their end

When all Attention ranks have announced their dispatches, the MoE ranks serve them one
after another, and then every Attention rank finds all of its flags and collects. So
from the end of any round the system can go on to the end of the next.
-/

namespace AfdPlugin.Cam

/-! ## Flags -/

namespace CamSystem

section Flags
variable {V S F : Type} {net : CamNet V S F} {s s' : CamSystem V} {rank m aivId : Nat}

/-- A flag that a MoE rank has set is there until the Attention rank clears it. -/
def FlagsSet (net : CamNet V S F) (s : CamSystem V) : Prop :=
  ∀ rank < net.sh.attnRankNum, ∀ m < net.sh.moeRankNum,
    (s.attn rank).collected m < (s.moe m).returned rank →
    (s.attn rank).window.moeFlag net.sh m ≠ 0

theorem FlagsSet.setAttn (h : s.FlagsSet net) {a : AttnRank V}
    (hflags : ∀ m < net.sh.moeRankNum, a.collected m < (s.moe m).returned rank →
      a.window.moeFlag net.sh m ≠ 0) :
    (s.setAttn rank a).FlagsSet net := by
  intro r hr m hm hlt
  rcases eq_or_ne r rank with rfl | hne
  · rw [setAttn_attn_self] at hlt ⊢
    exact hflags m hm hlt
  · rw [setAttn_attn_of_ne _ _ _ hne] at hlt ⊢
    exact h r hr m hm hlt

theorem FlagsSet.setMoe (h : s.FlagsSet net) {st : MoeRank V}
    (hreturned : ∀ rank < net.sh.attnRankNum, st.returned rank = (s.moe m).returned rank) :
    (s.setMoe m st).FlagsSet net := by
  intro r hr m' hm' hlt
  rcases eq_or_ne m' m with rfl | hne
  · rw [setMoe_moe_self, hreturned r hr] at hlt
    exact h r hr m' hm' hlt
  · rw [setMoe_moe_of_ne _ _ _ hne] at hlt
    exact h r hr m' hm' hlt

theorem FlagsSet.land (h : s.FlagsSet net) (op : AttnOp V) : (s.land rank op).FlagsSet net := by
  cases op with
  | write m w => exact FlagsSet.setMoe h fun _ _ => rfl
  | _ => exact h

/-- Of an Attention rank's steps only `clear` takes a flag, and counts it. -/
theorem FlagsSet.attnOp (h : s.FlagsSet net) (hinv : s.Inv net) (hrank : rank < net.sh.attnRankNum)
    (aivId : Nat) (rest : List (AttnOp V)) (op : AttnOp V) :
    ((s.setAttn rank ((s.attn rank).op net rank aivId rest op)).land rank op).FlagsSet net := by
  refine FlagsSet.land (FlagsSet.setAttn h fun m hm hlt => ?_) op
  cases op with
  | clear m' =>
    obtain ⟨hcollected, hreturned, htaken, hsent⟩ := (hinv.link rank hrank m hm).handoff
    have hflags := moeFlag_write_flag net.sh (s.attn rank).window m' 0 m
    change Function.update (s.attn rank).collected m' ((s.attn rank).collected m' + 1) m < _ at hlt
    rcases eq_or_ne m m' with rfl | hne
    · rw [Function.update_self] at hlt
      omega
    · rw [Function.update_of_ne hne] at hlt
      rw [if_neg hne] at hflags
      change AttnWindow.moeFlag net.sh ((s.attn rank).window.write net.sh (.flag m' 0)) m ≠ 0
      rw [hflags]
      exact h rank hrank m hm hlt
  | write | load | seed | poll | gather => exact h rank hrank m hm hlt

/-- A flag arrives when it is counted. -/
theorem FlagsSet.put (h : s.FlagsSet net) (hinv : s.Inv net) (hm : m < net.sh.moeRankNum)
    (haiv : aivId < net.sh.moeAivNum) {w : CombineWrite V} {rest : List (MoeOp V)}
    (htodo : ((s.moe m).core aivId).todo = .put rank w :: rest) :
    ((s.setMoe m ((s.moe m).put aivId rest rank w)).setAttn rank
      { s.attn rank with window := (s.attn rank).window.write net.sh w }).FlagsSet net := by
  obtain ⟨p, -, hmoe⟩ := hinv.moe m hm
  have hone : ∀ r < net.sh.attnRankNum, (s.attn r).sent m ≤ (s.moe m).returned r + 1 := by
    intro r hr
    obtain ⟨hcollected, -, -, hsent⟩ := (hinv.link r hr m hm).handoff
    omega
  obtain ⟨-, hrank, hw⟩ := hmoe.put haiv hone htodo
  rcases hw with ⟨i, x, rfl⟩ | ⟨v, rfl, hv, -⟩
  · have hmoved : (s.setMoe m ((s.moe m).put aivId rest rank (.row i x))).FlagsSet net :=
      FlagsSet.setMoe h fun _ _ => rfl
    exact FlagsSet.setAttn hmoved fun m' hm' hlt => hmoved rank hrank m' hm' hlt
  · have hflags := moeFlag_write_flag net.sh (s.attn rank).window m v
    intro r hr m' hm' hlt
    rcases eq_or_ne r rank with rfl | hne
    · rw [setAttn_attn_self] at hlt ⊢
      rw [hflags m']
      split
      · exact hv
      · rename_i hne
        rw [setAttn_moe, setMoe_moe_of_ne _ _ _ hne] at hlt
        exact h r hr m' hm' hlt
    · rw [setAttn_attn_of_ne _ _ _ hne] at hlt ⊢
      rcases eq_or_ne m' m with rfl | hm
      · rw [setAttn_moe, setMoe_moe_self] at hlt
        change (s.attn r).collected m' < Function.update (s.moe m').returned rank _ r at hlt
        rw [Function.update_of_ne hne] at hlt
        exact h r hr m' hm' hlt
      · rw [setAttn_moe, setMoe_moe_of_ne _ _ _ hm] at hlt
        exact h r hr m' hm' hlt

/-- Every step of every core. -/
theorem FlagsSet.step (hadmitted : net.Admitted) (hinv : s.Inv net) (h : s.FlagsSet net)
    (hstep : s.Step net s') :
    s'.FlagsSet net := by
  cases hstep with
  | @begin rank mem hrank _ hmem =>
    refine FlagsSet.setAttn h fun m hm hlt => ?_
    have hflags := hmem.flags hadmitted.attnAivNum_le m
    exact fun hzero => h rank hrank m hm hlt (hflags.symm.trans hzero)
  | send hrank => exact FlagsSet.attnOp h hinv hrank _ _ _
  | attn hrank => exact FlagsSet.attnOp h hinv hrank _ _ _
  | @attnNext rank hrank hphase htodo =>
    obtain ⟨-, -, hcollected, hwindow⟩ := (hinv.attn rank hrank).next hphase htodo
    refine FlagsSet.setAttn h fun m hm hlt => ?_
    rw [hcollected] at hlt
    rw [hwindow]
    exact h rank hrank m hm hlt
  | @moe m aivId op rest st hm haiv htodo hop =>
    obtain ⟨p, -, hmoe⟩ := hinv.moe m hm
    obtain ⟨-, -, htouch⟩ := hmoe.op hadmitted.attnRankNum_pos
      (fun rank hrank => (hinv.link rank hrank m hm).tokenNum) haiv htodo hop
    exact FlagsSet.setMoe h fun rank _ => (htouch rank).returned
  | put hm haiv htodo => exact FlagsSet.put h hinv hm haiv htodo
  | @moeNext m st hm htodo hnext =>
    obtain ⟨p, hp, hmoe⟩ := hinv.moe m hm
    obtain ⟨-, hsame⟩ := hmoe.next hadmitted.attnRankNum_pos hp htodo hnext
    exact FlagsSet.setMoe h fun rank _ => (hsame rank).returned

end Flags

end CamSystem

/-! ## Serving -/

/-- The experts of dispatches that are received. -/
def Progress.experts (sh : CamShape) (p : Progress) : Nat :=
  ∑ g ∈ (Finset.range sh.attnRankNum).filter (sh.tpSize ∣ ·),
    sh.expertNumPerMoe * p.services g + (p.current.map Prod.snd).getD 0

/-- A call receives one at least. -/
theorem Progress.experts_lt {sh : CamShape} {p p' : Progress} {c : RecvCall}
    (h : p.call sh.expertNumPerMoe c = some p') (hg : IsGroup sh c.tpAttnRankId) :
    p.experts sh < p'.experts sh := by
  have hmem : c.tpAttnRankId ∈ (Finset.range sh.attnRankNum).filter (sh.tpSize ∣ ·) :=
    Finset.mem_filter.2 ⟨Finset.mem_range.2 hg.lt, hg.dvd⟩
  unfold Progress.call at h
  split at h
  · rename_i hcall
    obtain ⟨hcurrent, hle, hlt⟩ := hcall
    have hdone : (p.current.map Prod.snd).getD 0 = c.startExpert := by
      cases hcase : p.current with
      | none =>
        rw [hcase] at hcurrent
        exact (Prod.mk.inj hcurrent).2
      | some cur =>
        rw [hcase] at hcurrent
        exact congrArg Prod.snd hcurrent
    obtain rfl := Option.some.inj h
    unfold Progress.experts
    rw [hdone]
    split
    · -- the last chunk of the dispatch
      have hsum : ∑ g ∈ (Finset.range sh.attnRankNum).filter (sh.tpSize ∣ ·), sh.expertNumPerMoe *
            Function.update p.services c.tpAttnRankId (p.services c.tpAttnRankId + 1) g =
          ∑ g ∈ (Finset.range sh.attnRankNum).filter (sh.tpSize ∣ ·), sh.expertNumPerMoe * p.services g +
            sh.expertNumPerMoe := by
        rw [← Finset.add_sum_erase _ _ hmem,
          ← Finset.add_sum_erase _ (fun g => sh.expertNumPerMoe * p.services g) hmem,
          Function.update_self]
        have hothers :
          ∀ g ∈ ((Finset.range sh.attnRankNum).filter (sh.tpSize ∣ ·)).erase c.tpAttnRankId,
          sh.expertNumPerMoe * Function.update p.services c.tpAttnRankId (p.services c.tpAttnRankId + 1)
          g = sh.expertNumPerMoe * p.services g :=
          fun g hg => by rw [Function.update_of_ne (Finset.ne_of_mem_erase hg)]
        rw [Finset.sum_congr rfl hothers, Nat.mul_succ]
        omega
      dsimp only [Option.map_none, Option.getD_none]
      omega
    · dsimp only [Option.map_some, Option.getD_some]
      omega
  · cases h

section Serving
variable {V S F : Type} {net : CamNet V S F} {s s' : CamSystem V} {m round : Nat}

theorem CamSystem.AllAnnounced.serves (h : s.AllAnnounced net round) (hserves : ServesOn net m s s') :
    s'.AllAnnounced net round := by
  intro rank hrank
  obtain ⟨window, hwindow⟩ := hserves.attn rank
  rw [hwindow]
  exact h rank hrank

theorem CamSystem.AllReady.serves (h : s.AllReady net round) (hserves : ServesOn net m s s') :
    s'.AllReady net round := by
  intro rank hrank
  obtain ⟨window, hwindow⟩ := hserves.attn rank
  rw [hwindow]
  exact h rank hrank

/-- Whatever it is at, a MoE rank comes to its next search. -/
theorem CamSystem.Reachable.exists_search (hadmitted : net.Admitted) (h : s.Reachable net)
    (hm : m < net.sh.moeRankNum) :
    ∃ s', ServesOn net m s s' ∧ (s'.moe m).phase = .search := by
  cases hcase : (s.moe m).phase with
  | search => exact ⟨s, .refl s, hcase⟩
  | rows k =>
    obtain ⟨s', call, hserves, hsearch, -⟩ := CamSystem.Reachable.run_rows hadmitted hm h hcase rfl
    exact ⟨s', hserves, hsearch⟩
  | returns =>
    obtain ⟨s', hserves, hsearch, -⟩ := h.run_returns hadmitted hm hcase
    exact ⟨s', hserves, hsearch⟩
  | flags =>
    obtain ⟨s', hserves, hsearch, -⟩ := h.run_flags hadmitted hm hcase
    exact ⟨s', hserves, hsearch⟩

/-- A MoE rank to which no group is announced has returned all dispatches. -/
theorem CamSystem.Reachable.served_or_announced (hadmitted : net.Admitted) (h : s.Reachable net)
    (hm : m < net.sh.moeRankNum) (hall : s.AllAnnounced net round)
    (hphase : (s.moe m).phase = .search) :
    (∃ g, IsGroup net.sh g ∧ ∀ i < net.sh.tpSize, (s.moe m).taken (g + i) < (s.attn (g + i)).sent m) ∨
      ∀ rank < net.sh.attnRankNum, (s.moe m).returned rank = round + 1 := by
  have hinv := h.inv hadmitted
  obtain ⟨p, cur, hsearch⟩ := h.searchInv hadmitted hm hphase
  by_contra hnot
  rw [not_or, not_exists] at hnot
  obtain ⟨hnone, hreturned⟩ := hnot
  refine hreturned fun rank hrank => ?_
  obtain ⟨g, i, hg, hi, rfl⟩ := exists_group hrank
  have hsent : ∀ j < net.sh.tpSize, (s.attn (g + j)).sent m = round + 1 := fun j hj =>
    (hall.sent hinv (hg.rank_lt hj) hm).1
  by_cases hcur : cur.map Prod.fst = some g
  · obtain ⟨⟨g', d⟩, rfl, rfl⟩ := Option.map_eq_some_iff.1 hcur
    obtain ⟨hopen, -⟩ := hsearch.opened g' d rfl
    exact absurd ⟨hg, fun j hj => (hinv.link _ (hg.rank_lt hj) m hm).tokenNum
      (hopen.rank j hj).tokenNum⟩ (hnone g')
  · have hidle := hsearch.others g hg hcur
    have htaken := (hinv.link _ (hg.rank_lt hi) m hm).handoff.taken_le
    rw [hsent i hi, (hidle i hi).taken] at htaken
    rw [(hidle i hi).returned]
    by_contra hne
    refine hnone g ⟨hg, fun j hj => ?_⟩
    rw [hsent j hj, (hidle j hj).taken]
    omega

/-- The experts that a MoE rank has received, by its calls. -/
def MoeRank.experts (net : CamNet V S F) (st : MoeRank V) : Nat :=
  ((received net.sh.expertNumPerMoe st.calls).map (Progress.experts net.sh)).getD 0

/-- No more are received than are announced. -/
theorem CamSystem.Reachable.experts_le (hadmitted : net.Admitted) (h : s.Reachable net)
    (hm : m < net.sh.moeRankNum) (hall : s.AllAnnounced net round)
    (hphase : (s.moe m).phase = .search) :
    (s.moe m).experts net ≤ ∑ _g ∈ (Finset.range net.sh.attnRankNum).filter (net.sh.tpSize ∣ ·),
      net.sh.expertNumPerMoe * (round + 1) + net.sh.expertNumPerMoe := by
  have hinv := h.inv hadmitted
  obtain ⟨p, hp, hmoe⟩ := hinv.moe m hm
  have hservices : ∀ g ∈ (Finset.range net.sh.attnRankNum).filter (net.sh.tpSize ∣ ·),
      net.sh.expertNumPerMoe * p.services g ≤ net.sh.expertNumPerMoe * (round + 1) := by
    intro g hg
    obtain ⟨hlt, hdvd⟩ := Finset.mem_filter.1 hg
    have hgroup : IsGroup net.sh g := ⟨hdvd, Finset.mem_range.1 hlt⟩
    have hle := (hmoe.services hgroup net.sh.tpSize_pos).2
    have htaken := (hinv.link _ (hgroup.rank_lt net.sh.tpSize_pos) m hm).handoff.taken_le
    rw [(hall.sent hinv (hgroup.rank_lt net.sh.tpSize_pos) hm).1] at htaken
    exact Nat.mul_le_mul_left _ (hle.trans htaken)
  have hcurrent : (p.current.map Prod.snd).getD 0 ≤ net.sh.expertNumPerMoe := by
    unfold MoeInv at hmoe
    rw [hphase] at hmoe
    obtain ⟨cur, hsearch⟩ := hmoe
    rcases hsearch.current with hcur | hnone
    · cases hcase : p.current with
      | none => exact Nat.zero_le _
      | some c => exact (hsearch.opened c.1 c.2 (hcur.trans hcase)).1.lt.le
    · rw [hnone]
      exact Nat.zero_le _
  unfold MoeRank.experts
  rw [hp]
  exact Nat.add_le_add (Finset.sum_le_sum hservices) hcurrent

/-- The announced dispatches are served by the MoE rank's own steps. -/
theorem CamSystem.Reachable.serve (hadmitted : net.GroupsAdmitted) (h : s.Reachable net)
    (hm : m < net.sh.moeRankNum) (hall : s.AllAnnounced net round) :
    ∃ s', ServesOn net m s s' ∧ (s'.moe m).phase = .search ∧
      ∀ rank < net.sh.attnRankNum, (s'.moe m).returned rank = round + 1 := by
  obtain ⟨t, hserves, hsearch⟩ := h.exists_search hadmitted.admitted hm
  let bound := ∑ _g ∈ (Finset.range net.sh.attnRankNum).filter (net.sh.tpSize ∣ ·),
    net.sh.expertNumPerMoe * (round + 1) + net.sh.expertNumPerMoe
  let Inv (u : CamSystem V) : Prop := ServesOn net m s u ∧ (u.moe m).phase = .search
  have hcall : ∀ u, Inv u → ¬ (∀ rank < net.sh.attnRankNum, (u.moe m).returned rank = round + 1) →
      ∃ u', Relation.ReflTransGen (ServesOn net m) u u' ∧ Inv u' ∧
        bound - (u'.moe m).experts net < bound - (u.moe m).experts net := by
    rintro u ⟨hsu, hphase⟩ hnot
    have hu := h.of_steps hsu.steps
    obtain ⟨g, hg, hann⟩ :=
      (hu.served_or_announced hadmitted.admitted hm (hall.serves hsu) hphase).resolve_right hnot
    obtain ⟨u', call, hserves', hphase', hcalls, hgroup⟩ := hu.run_call hadmitted hm hphase hg hann
    have hu' := hu.of_steps hserves'.steps
    have hle := hu'.experts_le hadmitted.admitted hm ((hall.serves hsu).serves hserves') hphase'
    refine ⟨u', .single hserves', ⟨hsu.trans hserves', hphase'⟩, ?_⟩
    obtain ⟨p, hp, -⟩ := (hu.inv hadmitted.admitted).moe m hm
    obtain ⟨p', hp', -⟩ := (hu'.inv hadmitted.admitted).moe m hm
    have hlt : (u.moe m).experts net < (u'.moe m).experts net := by
      unfold MoeRank.experts
      rw [hp, hp']
      rw [hcalls, received_append, hp] at hp'
      exact Progress.experts_lt hp' hgroup
    change (u'.moe m).experts net ≤ bound at hle
    omega
  obtain ⟨s', -, ⟨hserves', hphase'⟩, hdone⟩ := Ends.exists_goal Inv _ _ hcall ⟨hserves, hsearch⟩
  exact ⟨s', hserves', hphase', hdone⟩

end Serving

/-! ## Collecting -/

section Collecting
variable {V S F : Type} {net : CamNet V S F} {s s' s'' : CamSystem V} {rank aivId round : Nat}

/-- One core of an Attention rank goes on in combine-recv. -/
structure CollectsOn (net : CamNet V S F) (rank aivId : Nat) (s s' : CamSystem V) : Prop where
  sends : SendsOn net rank s s'
  same : SameCounts (s.attn rank) (s'.attn rank)
  others : ∀ c ≠ aivId, (s'.attn rank).todo c = (s.attn rank).todo c

theorem SameCounts.refl (st : AttnRank V) : SameCounts st st := ⟨rfl, rfl, rfl, rfl, rfl⟩

theorem SameCounts.trans {st st' st'' : AttnRank V} (h : SameCounts st st') (h' : SameCounts st' st'') :
    SameCounts st st'' :=
  ⟨h'.phase.trans h.phase, h'.round.trans h.round, h'.window.trans h.window, h'.sent.trans h.sent,
    h'.collected.trans h.collected⟩

theorem CollectsOn.refl (s : CamSystem V) : CollectsOn net rank aivId s s :=
  ⟨.refl s, .refl _, fun _ _ => rfl⟩

theorem CollectsOn.trans (h : CollectsOn net rank aivId s s') (h' : CollectsOn net rank aivId s' s'') :
    CollectsOn net rank aivId s s'' :=
  ⟨h.sends.trans h'.sends, h.same.trans h'.same, fun c hne => (h'.others c hne).trans (h.others c hne)⟩

end Collecting

/-! ## Round after round -/

section Rounds
variable {V S F : Type} {net : CamNet V S F} {s : CamSystem V} {round : Nat}

end Rounds

end AfdPlugin.Cam
