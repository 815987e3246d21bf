import AfdPlugin.Cam.ReturnValues
import AfdPlugin.Cam.RoundTrip
/-!
# What combine-recv outputs in every interleaving

A core of combine-recv reads its statistics, then flag after flag, then row after row,
while flags and rows still arrive. What it has read is of its own round, and when it is
done its outputs are the sums over the experts of its tokens.
-/

namespace AfdPlugin.Cam

/-! ## The reads of a core -/

section Core
variable {V S F : Type} (net : CamNet V S F) (st : AttnRank V) (rank c : Nat)

/-- What a core has read is right; what it has not read is still to do. -/
structure CoreReads : Prop where
  loaded : .load ∈ st.todo c ∨
    StatTable net.sh (net.batch st.round rank) (net.sh.statAt (st.view c).loaded.word)
  seeded : .seed ∈ st.todo c ∨
    StatTable net.sh (net.batch st.round rank) (net.sh.statAt (st.view c).seeded.word)
  flags : ∀ m < net.sh.moeRankNum, (∃ i ≤ m, .poll i ∈ st.todo c) ∨
    (st.view c).ready.moeFlag net.sh m = (net.batch st.round rank).moePrefix net.sh m + 1
  rows : (∃ i, .poll i ∈ st.todo c) ∨ ∀ q < net.sh.topk * (net.batch st.round rank).aivStart net.sh (c + 1),
    net.sh.topk * (net.batch st.round rank).aivStart net.sh c ≤ q →
      .gather ((net.batch st.round rank).returnRow net.sh q) ∈ st.todo c ∨
        (st.view c).ready.row ((net.batch st.round rank).returnRow net.sh q) = net.output st.round rank q

/-- A core has read all that its outputs go by. -/
structure CoreRead : Prop where
  loaded : StatTable net.sh (net.batch st.round rank) (net.sh.statAt (st.view c).loaded.word)
  seeded : StatTable net.sh (net.batch st.round rank) (net.sh.statAt (st.view c).seeded.word)
  flags : ∀ m < net.sh.moeRankNum, (st.view c).ready.moeFlag net.sh m =
    (net.batch st.round rank).moePrefix net.sh m + 1
  rows : ∀ q < net.sh.topk * (net.batch st.round rank).aivStart net.sh (c + 1),
    net.sh.topk * (net.batch st.round rank).aivStart net.sh c ≤ q →
      (st.view c).ready.row ((net.batch st.round rank).returnRow net.sh q) = net.output st.round rank q

variable {net st rank c}

theorem coreReads_start (htodo : st.todo c = [.load, .seed, .poll 0]) : CoreReads net st rank c := by
  refine ⟨.inl ?_, .inl ?_, fun m _ => .inl ⟨0, Nat.zero_le m, ?_⟩, .inl ⟨0, ?_⟩⟩
  all_goals simp [htodo]

theorem CoreReads.done (h : CoreReads net st rank c) (htodo : st.todo c = []) : CoreRead net st rank c := by
  obtain ⟨hloaded, hseeded, hflags, hrows⟩ := h
  simp only [htodo, List.not_mem_nil, false_or, exists_const, and_false] at hloaded hseeded hflags hrows
  exact ⟨hloaded, hseeded, hflags, hrows⟩

theorem AttnRank.op_view_of_ne {aivId : Nat} {rest : List (AttnOp V)} (op : AttnOp V) (hc : c ≠ aivId) :
    (st.op net rank aivId rest op).view c = st.view c := by
  cases op with
  | write | clear => rfl
  | load | seed | poll | gather => exact Function.update_of_ne hc _ _

theorem CoreReads.of_ne (h : CoreReads net st rank c) {aivId : Nat} {rest : List (AttnOp V)}
    (op : AttnOp V) (hc : c ≠ aivId) :
    CoreReads net (st.op net rank aivId rest op) rank c := by
  obtain ⟨hloaded, hseeded, hflags, hrows⟩ := h
  have htodo : (st.op net rank aivId rest op).todo c = st.todo c := AttnRank.op_todo_of_ne op hc
  have hview : (st.op net rank aivId rest op).view c = st.view c := AttnRank.op_view_of_ne op hc
  have hround : (st.op net rank aivId rest op).round = st.round := AttnRank.op_round op
  refine ⟨?_, ?_, ?_, ?_⟩
  all_goals simpa only [htodo, hview, hround]

end Core

/-! ## A step of combine-recv -/

section Step
variable {V S F : Type} {net : CamNet V S F} {st : AttnRank V} {rank aivId : Nat} {returned : Nat → Nat}
  {op : AttnOp V} {rest : List (AttnOp V)}

/-- The statistics are there for as long as the round lasts. -/
theorem StatKept.windowTable (h : StatKept net st rank) (haiv : net.sh.attnAivNum ≤ MAX_AIV_NUM) :
    StatTable net.sh (net.batch st.round rank) (net.sh.statAt st.window.word) := by
  intro c hc col hcol
  refine (h.window _ (statAddr_lt_dispatchOffset haiv hc hcol)).trans ?_
  exact h.table c hc col hcol

/-- What a core that has found all flags is to read. -/
theorem outcome_rows (hvalid : (net.batch st.round rank).Valid net.sh) (hc : aivId < net.sh.attnAivNum)
    (hloaded : StatTable net.sh (net.batch st.round rank) (net.sh.statAt (st.view aivId).loaded.word))
    (hseeded : StatTable net.sh (net.batch st.round rank) (net.sh.statAt (st.view aivId).seeded.word))
    (hflags : ∀ m < net.sh.moeRankNum, (st.view aivId).ready.moeFlag net.sh m ≠ 0) :
    st.outcome net rank aivId =
      ⟨coreRows net.sh (net.batch st.round rank) (st.view aivId).ready aivId
          (net.sh.topk * (net.batch st.round rank).aivStart net.sh (aivId + 1)),
        coreXOut net.ops net.sh (net.batch st.round rank) (st.view aivId).ready aivId
          ((net.batch st.round rank).aivStart net.sh (aivId + 1)),
        if aivId = 0 then List.range net.sh.moeRankNum else []⟩ := by
  unfold AttnRank.outcome
  dsimp only
  rw [combineRecv_eq hvalid hloaded hseeded hc, combineOutcome, if_neg (by simp), if_neg]
  · rfl
  · rintro ⟨m, hm, hzero⟩
    exact hflags m hm hzero

/-- A core of combine-recv goes on. -/
theorem CoreReads.step (h : CoreReads net st rank aivId) (hcombining : Combining net st returned aivId)
    (hvalid : (net.batch st.round rank).Valid net.sh) (hfits : (net.batch st.round rank).FitsU16 net.sh)
    (hstat : StatTable net.sh (net.batch st.round rank) (net.sh.statAt st.window.word))
    (hflag : ∀ m < net.sh.moeRankNum, st.window.moeFlag net.sh m ≠ 0 →
      st.window.moeFlag net.sh m = (net.batch st.round rank).moePrefix net.sh m + 1)
    (hback : (∀ m < net.sh.moeRankNum, returned m = st.round + 1) →
      ∀ q < (net.batch st.round rank).assignments net.sh,
      st.window.row ((net.batch st.round rank).returnRow net.sh q) = net.output st.round rank q)
    (hc : aivId < net.sh.attnAivNum) (htodo : st.todo aivId = op :: rest) :
    CoreReads net (st.op net rank aivId rest op) rank aivId := by
  obtain ⟨hloaded, hseeded, hflags, hrows⟩ := h
  cases hcombining with
  | load hfirst =>
    obtain ⟨rfl, rfl⟩ := List.cons.inj (htodo.symm.trans hfirst)
    have hself : (st.op net rank aivId [.seed, .poll 0] .load).todo aivId = [.seed, .poll 0] :=
      Function.update_self _ _ _
    have hview : (st.op net rank aivId [.seed, .poll 0] .load).view aivId =
        { st.view aivId with loaded := st.window } :=
      Function.update_self _ _ _
    refine ⟨.inr ?_, .inl ?_, fun m _ => .inl ⟨0, Nat.zero_le m, ?_⟩, .inl ⟨0, ?_⟩⟩
    · rw [hview]
      exact hstat
    all_goals simp [hself]
  | seed hfirst =>
    obtain ⟨rfl, rfl⟩ := List.cons.inj (htodo.symm.trans hfirst)
    have hself : (st.op net rank aivId [.poll 0] .seed).todo aivId = [.poll 0] := Function.update_self _ _ _
    have hview : (st.op net rank aivId [.poll 0] .seed).view aivId =
        { st.view aivId with seeded := st.window } :=
      Function.update_self _ _ _
    simp only [htodo, List.mem_cons, List.not_mem_nil, reduceCtorEq, or_self, false_or] at hloaded
    refine ⟨.inr ?_, .inr ?_, fun m _ => .inl ⟨0, Nat.zero_le m, ?_⟩, .inl ⟨0, ?_⟩⟩
    · rw [hview]
      exact hloaded
    · rw [hview]
      exact hstat
    all_goals simp [hself]
  | @poll i hfirst hi _ =>
    obtain ⟨rfl, rfl⟩ := List.cons.inj (htodo.symm.trans hfirst)
    simp only [htodo, List.mem_cons, List.not_mem_nil, reduceCtorEq, or_self, false_or] at hloaded hseeded
    have hview : (st.op net rank aivId [] (.poll i)).view aivId =
      ⟨(st.view aivId).loaded, (st.view aivId).seeded,
        ⟨Function.update (st.view aivId).ready.word (net.sh.dispatchOffset + i)
          (st.window.word (net.sh.dispatchOffset + i)), (st.view aivId).ready.row⟩⟩ :=
      Function.update_self _ _ _
    have hround : (st.op net rank aivId [] (.poll i)).round = st.round := rfl
    have hfound : ∀ m, ((st.op net rank aivId [] (.poll i)).view aivId).ready.moeFlag net.sh m =
        if m = i then st.window.moeFlag net.sh i else (st.view aivId).ready.moeFlag net.sh m := by
      intro m
      rw [hview]
      simp only [AttnWindow.moeFlag, Function.update_apply, Nat.add_left_cancel_iff]
    by_cases hzero : st.window.moeFlag net.sh i = 0
    · have hself : (st.op net rank aivId [] (.poll i)).todo aivId = [.poll 0] := by
        simp [AttnRank.op, hzero]
      refine ⟨.inr ?_, .inr ?_, fun m _ => .inl ⟨0, Nat.zero_le m, ?_⟩, .inl ⟨0, ?_⟩⟩
      · rw [hview]
        exact hloaded
      · rw [hview]
        exact hseeded
      all_goals simp [hself]
    · -- the flags up to this one are of the round
      have hupto : ∀ m < i + 1, ((st.op net rank aivId [] (.poll i)).view aivId).ready.moeFlag net.sh m =
          (net.batch st.round rank).moePrefix net.sh m + 1 := by
        intro m hm
        rw [hfound]
        split
        · rename_i heq
          rw [heq]
          exact hflag i hi hzero
        · rename_i hne
          rcases hflags m (by omega) with ⟨i', hi', hmem⟩ | hold
          · rw [htodo, List.mem_singleton] at hmem
            cases hmem
            omega
          · exact hold
      by_cases hnext : i + 1 < net.sh.moeRankNum
      · have hself : (st.op net rank aivId [] (.poll i)).todo aivId = [.poll (i + 1)] := by
          simp [AttnRank.op, hzero, hnext]
        refine ⟨.inr ?_, .inr ?_, fun m hm => ?_, .inl ⟨i + 1, ?_⟩⟩
        · rw [hview]
          exact hloaded
        · rw [hview]
          exact hseeded
        · by_cases hle : i + 1 ≤ m
          · exact .inl ⟨i + 1, hle, by simp [hself]⟩
          · exact .inr (hupto m (by omega))
        · simp [hself]
      · have hall : ∀ m < net.sh.moeRankNum,
          ((st.op net rank aivId [] (.poll i)).view aivId).ready.moeFlag net.sh m =
            (net.batch st.round rank).moePrefix net.sh m + 1 := fun m hm => hupto m (by omega)
        have houtcome := @outcome_rows V S F net (st.op net rank aivId [] (.poll i)) rank aivId hvalid hc
          (by rw [hview]; exact hloaded) (by rw [hview]; exact hseeded)
          fun m hm hzero => absurd ((hall m hm).symm.trans hzero) (Nat.succ_ne_zero _)
        have hself : (st.op net rank aivId [] (.poll i)).todo aivId =
            ((st.op net rank aivId [] (.poll i)).outcome net rank aivId).rows.map fun row =>
            .gather row.2 := by
          simp [AttnRank.op, hzero, hnext, AttnRank.outcome]
        refine ⟨.inr ?_, .inr ?_, fun m hm => .inr (hall m hm), .inr fun q hq hle => .inl ?_⟩
        · rw [hview]
          exact hloaded
        · rw [hview]
          exact hseeded
        · rw [hround] at hq hle ⊢
          have hlt : q < (net.batch st.round rank).assignments net.sh :=
            hq.trans_le (topk_mul_aivStart_le net.sh _ (show aivId + 1 ≤ net.sh.attnAivNum from hc))
          have hrow := combineRow_of_flag hvalid hfits hlt (hall _ (moeRank_lt hvalid hlt))
          rw [hself, houtcome]
          refine List.mem_map.2 ⟨(q, (net.batch st.round rank).returnRow net.sh q), ?_, rfl⟩
          unfold coreRows
          rw [hround]
          exact List.mem_map.2 ⟨q, List.mem_range'_1.2 ⟨hle, by omega⟩, by rw [hrow]⟩
  | gather hgathers hall =>
    have hnone : ∀ op' ∈ st.todo aivId, (∀ row, op' ≠ .gather row) → False := by
      intro op' hmem hne
      obtain ⟨row, rfl⟩ := hgathers op' hmem
      exact hne row rfl
    obtain ⟨row, rfl⟩ := hgathers op (by rw [htodo]; exact List.mem_cons_self)
    have hself : (st.op net rank aivId rest (.gather row)).todo aivId = rest := Function.update_self _ _ _
    have hview : (st.op net rank aivId rest (.gather row)).view aivId =
        ⟨(st.view aivId).loaded, (st.view aivId).seeded,
        ⟨(st.view aivId).ready.word, Function.update (st.view aivId).ready.row row (st.window.row row)⟩⟩ :=
      Function.update_self _ _ _
    have hround : (st.op net rank aivId rest (.gather row)).round = st.round := rfl
    refine ⟨.inr ?_, .inr ?_, fun m hm => .inr ?_, .inr fun q hq hle => ?_⟩
    · rw [hview]
      exact hloaded.resolve_left fun hmem => hnone _ hmem fun row heq => (by cases heq)
    · rw [hview]
      exact hseeded.resolve_left fun hmem => hnone _ hmem fun row heq => (by cases heq)
    · rw [hview]
      rcases hflags m hm with ⟨i, -, hmem⟩ | hflag
      · exact (hnone _ hmem fun row heq => (by cases heq)).elim
      · exact hflag
    · rw [hround] at hq hle ⊢
      rw [hself, hview]
      rcases hrows with ⟨i, hmem⟩ | hold
      · exact (hnone _ hmem fun row heq => (by cases heq)).elim
      have hlt : q < (net.batch st.round rank).assignments net.sh :=
        hq.trans_le (topk_mul_aivStart_le net.sh _ (show aivId + 1 ≤ net.sh.attnAivNum from hc))
      by_cases heq : (net.batch st.round rank).returnRow net.sh q = row
      · -- the row that is read now
        right
        rw [heq]
        refine (Function.update_self _ _ _).trans ?_
        rw [← heq]
        exact hback hall q hlt
      · rcases hold q hq hle with hmem | hrow
        · rw [htodo] at hmem
          rcases List.mem_cons.1 hmem with hhead | hmem
          · cases hhead
            exact absurd rfl heq
          · exact .inl hmem
        · exact .inr ((Function.update_of_ne heq _ _).trans hrow)

end Step

/-! ## The outputs -/

section Outputs
variable {V S F : Type} {net : CamNet V S F} {st : AttnRank V} {rank c : Nat}

/-- The outputs of a core's own tokens. -/
theorem CoreRead.xOut (h : CoreRead net st rank c) (hvalid : (net.batch st.round rank).Valid net.sh)
    (hfits : (net.batch st.round rank).FitsU16 net.sh) (hc : c < net.sh.attnAivNum) :
    (st.outcome net rank c).xOut =
      (Blocks.block (Blocks.spread (net.batch st.round rank).batchSize net.sh.attnAivNum) c).map
      fun t =>
      (t, net.ops.round
        (expertSum net.sh (net.batch st.round rank) net.ops
          (net.expert (net.layerIndex st.round rank)) t)) := by
  have houtcome := outcome_rows hvalid hc h.loaded h.seeded fun m hm hzero =>
    absurd ((h.flags m hm).symm.trans hzero) (Nat.succ_ne_zero _)
  rw [houtcome]
  apply List.map_congr_left
  intro t ht
  obtain ⟨hle, hlt⟩ := List.mem_range'_1.1 ht
  have hend : t < (net.batch st.round rank).aivStart net.sh (c + 1) := by
    have hmono := aivStart_mono net.sh (net.batch st.round rank) (Nat.le_succ c)
    omega
  refine congrArg (fun sum => (t, net.ops.round sum)) (tokenSum_of_rows net.ops fun q hq hfirst => ?_)
  -- the token's assignments are among the core's
  have hown : net.sh.topk * (net.batch st.round rank).aivStart net.sh c ≤ q := by
    have hblock := Nat.mul_le_mul_left net.sh.topk hle
    rw [Nat.mul_comm net.sh.topk t] at hblock
    exact hblock.trans hfirst
  have hupto : q < net.sh.topk * (net.batch st.round rank).aivStart net.sh (c + 1) := by
    have hblock := Nat.mul_le_mul_left net.sh.topk (Nat.succ_le_of_lt hend)
    rw [Nat.mul_succ, Nat.mul_comm net.sh.topk t] at hblock
    exact hq.trans_le hblock
  have hassigned : q < (net.batch st.round rank).assignments net.sh :=
    hupto.trans_le (topk_mul_aivStart_le net.sh _ (show c + 1 ≤ net.sh.attnAivNum from hc))
  rw [combineRow_of_flag hvalid hfits hassigned (h.flags _ (moeRank_lt hvalid hassigned))]
  exact h.rows q hupto hown

/-- What has been read of a rank's round in its phase. -/
def CombinesRight (net : CamNet V S F) (st : AttnRank V) (rank : Nat) : Prop :=
  match st.phase with
  | .ready => True
  | .send => True
  | .announce => True
  | .combine => ∀ c < net.sh.attnAivNum, CoreReads net st rank c
  | .clear => ∀ c < net.sh.attnAivNum, CoreRead net st rank c

theorem CombinesRight.of_send (hphase : st.phase = .send) : CombinesRight net st rank := by
  unfold CombinesRight
  rw [hphase]
  trivial

/-- Rows and flags that arrive are not read yet. -/
theorem CombinesRight.arrive (h : CombinesRight net st rank) (window : AttnWindow V) :
    CombinesRight net { st with window } rank := by
  unfold CombinesRight at h ⊢
  dsimp only
  cases hphase : st.phase with
  | ready => trivial
  | send => trivial
  | announce => trivial
  | combine =>
    rw [hphase] at h
    exact fun c hc => ⟨(h c hc).loaded, (h c hc).seeded, (h c hc).flags, (h c hc).rows⟩
  | clear =>
    rw [hphase] at h
    exact fun c hc => ⟨(h c hc).loaded, (h c hc).seeded, (h c hc).flags, (h c hc).rows⟩

theorem CombinesRight.next (h : CombinesRight net st rank)
    (htodo : ∀ c < net.sh.attnAivNum, st.todo c = []) :
    CombinesRight net (st.next net rank) rank := by
  unfold CombinesRight at h
  unfold AttnRank.next
  cases hphase : st.phase with
  | ready =>
    unfold CombinesRight
    dsimp only
    rw [hphase]
    trivial
  | send => trivial
  | announce => exact fun c _ => coreReads_start rfl
  | combine =>
    rw [hphase] at h
    intro c hc
    have hdone := (h c hc).done (htodo c hc)
    exact ⟨hdone.loaded, hdone.seeded, hdone.flags, hdone.rows⟩
  | clear => trivial

end Outputs

/-! ## The system -/

namespace CamSystem
variable {V S F : Type} {net : CamNet V S F} {s s' : CamSystem V} {rank aivId : Nat}

def Combines (net : CamNet V S F) (s : CamSystem V) : Prop :=
  ∀ rank < net.sh.attnRankNum, CombinesRight net (s.attn rank) rank

theorem Combines.setAttn (h : s.Combines net) {a : AttnRank V} (hright : CombinesRight net a rank) :
    (s.setAttn rank a).Combines net := by
  intro r hr
  rcases eq_or_ne r rank with rfl | hne
  · rw [setAttn_attn_self]
    exact hright
  · rw [setAttn_attn_of_ne _ _ _ hne]
    exact h r hr

theorem land_attn (s : CamSystem V) (op : AttnOp V) : (s.land rank op).attn = s.attn := by
  cases op <;> rfl

/-- When all flags of the round are set, all rows are there. -/
theorem Back.all_rows (h : s.Back net) (hrank : rank < net.sh.attnRankNum)
    (hvalid : (net.batch (s.attn rank).round rank).Valid net.sh)
    (hall : ∀ m < net.sh.moeRankNum, (s.moe m).returned rank = (s.attn rank).round + 1) :
    ∀ q < (net.batch (s.attn rank).round rank).assignments net.sh,
      (s.attn rank).window.row ((net.batch (s.attn rank).round rank).returnRow net.sh q) =
        net.output (s.attn rank).round rank q := by
  intro q hq
  have hm := moeRank_lt hvalid hq
  exact (h _ hm).all rank hrank (hall _ hm) q hq rfl (localExpert_lt q)

/-- A step of an Attention rank's core. -/
theorem Combines.attnOp (hadmitted : net.GroupsAdmitted) (hinv : s.Inv net) (hsent : s.Sent net)
    (hback : s.Back net) (h : s.Combines net) (hrank : rank < net.sh.attnRankNum)
    (haiv : aivId < net.sh.attnAivNum) {op : AttnOp V} {rest : List (AttnOp V)}
    (htodo : (s.attn rank).todo aivId = op :: rest) :
    CombinesRight net ((s.attn rank).op net rank aivId rest op) rank := by
  have hright := h rank hrank
  have hattn := hinv.attn rank hrank
  have hcarries := hsent.attn rank hrank
  unfold CombinesRight at hright ⊢
  unfold AttnInv at hattn
  unfold CarriesDispatch at hcarries
  rw [AttnRank.op_phase]
  cases hcase : (s.attn rank).phase with
  | ready => trivial
  | send => trivial
  | announce => trivial
  | combine =>
    rw [hcase] at hright hattn hcarries
    intro c hc
    rcases eq_or_ne c aivId with rfl | hne
    · exact (hright c hc).step (hattn.2 c hc) (hadmitted.valid hrank) (hadmitted.countable hrank).fits
        (hcarries.windowTable hadmitted.attnAivNum_le) (fun m hm => (hback m hm).flag rank hrank)
        (fun hall => hback.all_rows hrank (hadmitted.valid hrank) hall) hc htodo
    · exact (hright c hc).of_ne op hne
  | clear =>
    obtain ⟨m, -, rfl, -⟩ := (hinv.attn rank hrank).clear hcase haiv htodo
    rw [hcase] at hright
    exact fun c hc => ⟨(hright c hc).loaded, (hright c hc).seeded, (hright c hc).flags, (hright c hc).rows⟩

/-- Every step of every core. -/
theorem Combines.step (hadmitted : net.GroupsAdmitted) (hinv : s.Inv net) (hsent : s.Sent net)
    (hback : s.Back net) (h : s.Combines net) (hstep : s.Step net s') : s'.Combines net := by
  cases hstep with
  | begin => exact Combines.setAttn h (.of_send rfl)
  | send _ _ hphase =>
    unfold Combines
    rw [land_attn]
    exact Combines.setAttn h (.of_send ((AttnRank.op_phase _).trans hphase))
  | attn hrank haiv _ htodo =>
    unfold Combines
    rw [land_attn]
    exact Combines.setAttn h (Combines.attnOp hadmitted hinv hsent hback h hrank haiv htodo)
  | attnNext hrank _ htodo => exact Combines.setAttn h ((h _ hrank).next htodo)
  | moe => exact h
  | @put m aivId rank w rest hm haiv htodo =>
    obtain ⟨p, hp, hmoe⟩ := hinv.moe m hm
    have hone : ∀ r < net.sh.attnRankNum, (s.attn r).sent m ≤ (s.moe m).returned r + 1 := by
      intro r hr
      obtain ⟨hcollected, -, -, hsent⟩ := (hinv.link r hr m hm).handoff
      omega
    have hrank := (hmoe.put haiv hone htodo).2.1
    have hmoved : (s.setMoe m ((s.moe m).put aivId rest rank w)).Combines net := h
    exact Combines.setAttn hmoved ((h rank hrank).arrive _)
  | moeNext => exact h

end CamSystem

end AfdPlugin.Cam
