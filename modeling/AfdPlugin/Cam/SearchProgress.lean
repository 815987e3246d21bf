import AfdPlugin.Cam.CallProgress
/-!
# Announced groups are served

A MoE rank that has the dispatches of a group finds it, takes a chunk of it and ends the
call. Its cores look at the groups in turn; core 0 marks the one that it has found, and
the others come to the marked one.
-/

namespace AfdPlugin.Cam

/-! ## No error -/

section Errors
variable {V S F : Type} {net : CamNet V S F} {s : CamSystem V} {st : MoeRank V} {sent : Nat → Nat}
  {p : Progress} {cur : Option (Nat × Nat)} {m aivId : Nat} {op : MoeOp V} {rest : List (MoeOp V)}

/-- There is a chunk of the group that is being received. -/
theorem SearchInv.exists_chunk (h : SearchInv net st sent p cur) (hadmitted : net.GroupsAdmitted)
    (hm : m < net.sh.moeRankNum)
    (htoken : ∀ rank < net.sh.attnRankNum, (st.window.region rank).tokenNum ≠ 0 →
      st.taken rank < sent rank) (hheld : DispatchesHeld net st sent m) {g d : Nat}
    (hcur : cur = some (g, d)) :
    ∃ e, selectChunk net.sh.expertNumPerMoe net.sh.maxTokenNum (st.window.region g).chunkFlag
      (groupCounts net.sh st.window g) =
      some (d, e) := by
  obtain ⟨hopen, -⟩ := h.opened g d hcur
  have hgroup := hadmitted.group (p.services g) g hopen.group
  have hfits := (h.serving hadmitted htoken hheld hcur).fits hgroup hm
  have hmax := hgroup.maxTokenNum_lt
  have hcounts : ∀ e < net.sh.expertNumPerMoe, groupCounts net.sh st.window g e ≤ net.sh.maxTokenNum := by
    intro e he
    have hsame : groupCounts net.sh (st.window.withFlags d) g = groupCounts net.sh st.window g :=
      groupCounts_congr fun _ _ => rfl
    rw [← hsame, groupCounts_eq hfits (by omega), if_pos he]
    exact hfits e he
  obtain ⟨e, hselect, -⟩ := exists_selectChunk hmax hcounts hopen.lt
  exact ⟨e, by rw [hopen.chunkFlag, hselect]⟩

/-- The search goes on. -/
theorem SearchInv.op_ne_none (h : SearchInv net st sent p cur) (hadmitted : net.GroupsAdmitted)
    (hm : m < net.sh.moeRankNum)
    (htoken : ∀ rank < net.sh.attnRankNum, (st.window.region rank).tokenNum ≠ 0 →
      st.taken rank < sent rank) (hheld : DispatchesHeld net st sent m)
    (haiv : aivId < net.sh.moeAivNum) (htodo : (st.core aivId).todo = op :: rest) :
    st.op net aivId rest op ≠ none := by
  cases h.core aivId haiv with
  | start todo =>
    obtain ⟨rfl, rfl⟩ := List.cons.inj (htodo.symm.trans todo)
    exact Option.some_ne_none _
  | probe core todo =>
    obtain ⟨rfl, rfl⟩ := List.cons.inj (htodo.symm.trans todo)
    dsimp only [MoeRank.op]
    split
    · exact Option.some_ne_none _
    · split
      · exact Option.some_ne_none _
      · exact Option.some_ne_none _
  | mark core todo =>
    obtain ⟨rfl, rfl⟩ := List.cons.inj (htodo.symm.trans todo)
    exact Option.some_ne_none _
  | follow core todo =>
    obtain ⟨rfl, rfl⟩ := List.cons.inj (htodo.symm.trans todo)
    dsimp only [MoeRank.op]
    split
    · exact Option.some_ne_none _
    · exact Option.some_ne_none _
  | @count d i hcur hi todo counts =>
    have hops := htodo.symm.trans todo
    rcases Nat.eq_or_lt_of_le hi with rfl | hlt
    · rw [Nat.sub_self, List.range'_zero, List.map_nil, List.nil_append] at hops
      obtain ⟨rfl, rfl⟩ := List.cons.inj hops
      obtain ⟨e, hselect⟩ := h.exists_chunk hadmitted hm htoken hheld hcur
      have hread := @groupCounts_of_read V st.window (st.core aivId).view net.sh
        (st.core aivId).tpAttnRankId (st.window.region (st.core aivId).tpAttnRankId).chunkFlag counts
      intro hnone
      have hselect' := Option.map_eq_none_iff.1 hnone
      rw [hread] at hselect'
      cases hselect.symm.trans hselect'
    · rw [show net.sh.tpSize - i = net.sh.tpSize - (i + 1) + 1 by omega, List.range'_succ,
        List.map_cons, List.cons_append] at hops
      obtain ⟨rfl, -⟩ := List.cons.inj hops
      exact Option.some_ne_none _
  | chosen _ todo =>
    cases htodo.symm.trans todo

/-- The group that is found has a chunk that fits. -/
theorem CamSystem.Reachable.op_ne_none (hadmitted : net.GroupsAdmitted) (h : s.Reachable net)
    (hm : m < net.sh.moeRankNum) (haiv : aivId < net.sh.moeAivNum)
    (htodo : ((s.moe m).core aivId).todo = op :: rest) (hput : ∀ rank w, op ≠ .put rank w) :
    (s.moe m).op net aivId rest op ≠ none := by
  have hinv := h.inv hadmitted.admitted
  obtain ⟨p, -, hmoe⟩ := hinv.moe m hm
  by_cases hphase : (s.moe m).phase = .search
  · have hsearch := hmoe
    unfold MoeInv at hsearch
    rw [hphase] at hsearch
    obtain ⟨cur, hsearch⟩ := hsearch
    exact hsearch.op_ne_none hadmitted hm (fun rank hrank => (hinv.link rank hrank m hm).tokenNum)
      (fun rank hrank => (h.sent hadmitted).region rank hrank m hm) haiv htodo
  · obtain ⟨st', -, hop, -⟩ := @MoeRank.op_runs V S F net aivId (s.moe m) op
      (hmoe.runs hphase aivId haiv op (by rw [htodo]; exact List.mem_cons_self)) hput rest
    rw [hop]
    exact Option.some_ne_none _

end Errors

/-! ## To the end of a search -/

section Search
variable {V S F : Type} {net : CamNet V S F} {s s' s'' : CamSystem V} {m c g : Nat}

/-- One core of the rank goes on with its search. -/
structure SearchRuns (net : CamNet V S F) (m c : Nat) (s s' : CamSystem V) : Prop where
  serves : ServesOn net m s s'
  phase : (s'.moe m).phase = (s.moe m).phase
  calls : (s'.moe m).calls = (s.moe m).calls
  others : ∀ c' ≠ c, (s'.moe m).core c' = (s.moe m).core c'

theorem SearchRuns.refl (s : CamSystem V) : SearchRuns net m c s s := ⟨.refl s, rfl, rfl, fun _ _ => rfl⟩

theorem SearchRuns.trans (h : SearchRuns net m c s s') (h' : SearchRuns net m c s' s'') :
    SearchRuns net m c s s'' :=
  ⟨h.serves.trans h'.serves, h'.phase.trans h.phase, h'.calls.trans h.calls,
    fun c' hne => (h'.others c' hne).trans (h.others c' hne)⟩

theorem CamSystem.Reachable.searchInv (hadmitted : net.Admitted) (h : s.Reachable net)
    (hm : m < net.sh.moeRankNum) (hphase : (s.moe m).phase = .search) :
    ∃ p cur, SearchInv net (s.moe m) (fun rank => (s.attn rank).sent m) p cur := by
  obtain ⟨p, -, hmoe⟩ := (h.inv hadmitted).moe m hm
  unfold MoeInv at hmoe
  rw [hphase] at hmoe
  exact ⟨p, hmoe⟩

/-- A step of the search is one of its core. -/
theorem CamSystem.Reachable.search_op (hadmitted : net.Admitted) (h : s.Reachable net)
    (hm : m < net.sh.moeRankNum) (hc : c < net.sh.moeAivNum) (hphase : (s.moe m).phase = .search)
    {op : MoeOp V} {rest : List (MoeOp V)} {st : MoeRank V}
    (htodo : ((s.moe m).core c).todo = op :: rest) (hop : (s.moe m).op net c rest op = some st) :
    ∃ s', SearchRuns net m c s s' ∧ s'.moe m = st := by
  obtain ⟨p, cur, hsearch⟩ := h.searchInv hadmitted hm hphase
  obtain ⟨hsame, hcalls, -⟩ := MoeRank.op_effect hop fun rank => (hsearch.core c hc).touched htodo
  have hstep : s.Step net (s.setMoe m st) := .moe hm hc htodo hop
  refine ⟨_, ⟨.setMoe hstep, ?_, ?_, fun c' hne => ?_⟩, CamSystem.setMoe_moe_self _ _ _⟩
  all_goals rw [CamSystem.setMoe_moe_self]
  · exact hsame
  · exact hcalls
  · exact MoeRank.op_core_of_ne hop hne

/-- What is left after a group is found. -/
def MoeOp.counts : MoeOp V → Bool
  | .count _ | .flags => true
  | _ => false

theorem CamSystem.Reachable.run_counts (hadmitted : net.GroupsAdmitted) (hm : m < net.sh.moeRankNum)
    (hc : c < net.sh.moeAivNum) {ops : List (MoeOp V)} (hops : ∀ op ∈ ops, op.counts)
    (h : s.Reachable net) (hphase : (s.moe m).phase = .search) (htodo : ((s.moe m).core c).todo = ops) :
    ∃ s', SearchRuns net m c s s' ∧ ((s'.moe m).core c).todo = [] := by
  induction ops generalizing s with
  | nil => exact ⟨s, .refl s, htodo⟩
  | cons op ops ih =>
    have hcounts := hops op List.mem_cons_self
    obtain ⟨st, hop⟩ := Option.ne_none_iff_exists'.1
      (h.op_ne_none hadmitted hm hc htodo fun rank w heq => (by rw [heq] at hcounts; cases hcounts))
    have hrest : (st.core c).todo = ops := by
      cases op with
      | count i =>
        cases hop
        rw [MoeRank.setCore_core]
      | flags =>
        obtain ⟨chunk, -, rfl⟩ := Option.map_eq_some_iff.1 hop
        rw [MoeRank.setCore_core]
      | _ => cases hcounts
    obtain ⟨s', hrun, hmoe⟩ := h.search_op hadmitted.admitted hm hc hphase htodo hop
    obtain ⟨s'', hrun', hdone⟩ := ih (fun op hop => hops op (List.mem_cons_of_mem _ hop))
      (h.of_steps hrun.serves.steps) (hrun.phase.trans hphase) (by rw [hmoe, hrest])
    exact ⟨s'', hrun.trans hrun', hdone⟩

theorem MoeOp.counts_of_mem {ranks : List Nat} {op : MoeOp V}
    (hop : op ∈ ranks.map MoeOp.count ++ [.flags]) : op.counts := by
  rcases List.mem_append.1 hop with hop | hop
  · obtain ⟨i, -, rfl⟩ := List.mem_map.1 hop
    rfl
  · rw [List.mem_singleton.1 hop]
    rfl

/-- The `i`-th group of the search, from where it begins. -/
def MoeWindow.Announced (net : CamNet V S F) (w : MoeWindow V) (i : Nat) : Prop :=
  ∀ l < net.sh.tpSize, (w.region ((w.lastAttn + (net.sh.tpSize * i + l)) % net.sh.attnRankNum)).tokenNum ≠ 0

def MoeWindow.Marked (net : CamNet V S F) (w : MoeWindow V) (i : Nat) : Prop :=
  (w.region ((w.lastAttn + net.sh.tpSize * i) % net.sh.attnRankNum)).marker ≠ 0

/-- The search goes round. -/
theorem searchRank_mod (sh : CamShape) (x i d l : Nat) :
    (x + (sh.tpSize * ((i + 1) % (sh.attnRankNum / sh.tpSize) + d) + l)) % sh.attnRankNum =
      (x + (sh.tpSize * (i + (d + 1)) + l)) % sh.attnRankNum := by
  obtain ⟨n, hn⟩ := sh.tpSize_dvd
  have hdiv : sh.attnRankNum / sh.tpSize = n := by rw [hn, Nat.mul_div_cancel_left _ sh.tpSize_pos]
  have hround := Nat.mod_add_div (i + 1) n
  have hsum : x + (sh.tpSize * (i + (d + 1)) + l) =
      x + (sh.tpSize * ((i + 1) % n + d) + l) + sh.attnRankNum * ((i + 1) / n) := by
    rw [hn]
    calc x + (sh.tpSize * (i + (d + 1)) + l) = x + (sh.tpSize * ((i + 1) + d) + l) := by ring
      _ = x + (sh.tpSize * (((i + 1) % n + n * ((i + 1) / n)) + d) + l) := by rw [hround]
      _ = _ := by ring
  rw [hdiv, hsum, Nat.add_mul_mod_self_left]

/-- The search comes to every group. -/
theorem exists_turn {sh : CamShape} {x : Nat} (hx : IsGroup sh x) (hg : IsGroup sh g) (i : Nat) :
    ∃ d, ∀ l < sh.tpSize, (x + (sh.tpSize * (i + d) + l)) % sh.attnRankNum = g + l := by
  obtain ⟨a, rfl⟩ := hx.dvd
  obtain ⟨b, rfl⟩ := hg.dvd
  obtain ⟨n, hn⟩ := sh.tpSize_dvd
  have hpos : 0 < n := by
    rcases Nat.eq_zero_or_pos n with rfl | hpos
    · have hlt := hg.lt
      rw [hn, Nat.mul_zero] at hlt
      exact absurd hlt (Nat.not_lt_zero _)
    · exact hpos
  obtain ⟨k, rfl⟩ := Nat.exists_eq_add_of_lt hpos
  refine ⟨b + (0 + k) * (a + i), fun l hl => ?_⟩
  have hsum : sh.tpSize * a + (sh.tpSize * (i + (b + (0 + k) * (a + i))) + l) =
      sh.tpSize * b + l + sh.attnRankNum * (a + i) := by
    rw [hn]
    ring
  rw [hsum, Nat.add_mul_mod_self_left, Nat.mod_eq_of_lt (hg.rank_lt hl)]

/-- Core 0 looks at a group. -/
theorem CamSystem.Reachable.run_probe (hadmitted : net.Admitted) (hm : m < net.sh.moeRankNum)
    {i j : Nat} (h : s.Reachable net) (hphase : (s.moe m).phase = .search)
    (hview : ((s.moe m).core 0).view.lastAttn = (s.moe m).window.lastAttn) (hj : 1 ≤ j)
    (hj' : j ≤ net.sh.tpSize) (htodo : ((s.moe m).core 0).todo = [.probe i j]) :
    ∃ s', SearchRuns net m 0 s s' ∧ (s'.moe m).window = (s.moe m).window ∧
      ((s'.moe m).core 0).view.lastAttn = (s.moe m).window.lastAttn ∧
      ((∃ n, ((s'.moe m).core 0).todo = [.mark n]) ∨
        ((s'.moe m).core 0).todo = [.probe ((i + 1) % (net.sh.attnRankNum / net.sh.tpSize)) net.sh.tpSize] ∧
          ¬ (s.moe m).window.Announced net i) := by
  have haiv := net.sh.moeAivNum_pos
  induction j generalizing s with
  | zero => exact absurd hj (by omega)
  | succ j ih =>
    let rank := (((s.moe m).core 0).view.lastAttn + (net.sh.tpSize * i + (j + 1) - 1)) % net.sh.attnRankNum
    by_cases hzero : ((s.moe m).window.region rank).tokenNum = 0
    · have hop : (s.moe m).op net 0 [] (.probe i (j + 1)) =
          some ((s.moe m).setCore 0 { (s.moe m).core 0 with
          todo := [.probe ((i + 1) % (net.sh.attnRankNum / net.sh.tpSize)) net.sh.tpSize] }) := by
        dsimp only [MoeRank.op]
        rw [if_pos hzero]
      obtain ⟨s', hrun, hmoe⟩ := h.search_op hadmitted hm haiv hphase htodo hop
      refine ⟨s', hrun, by rw [hmoe]; rfl, by rw [hmoe, MoeRank.setCore_core]; exact hview,
        .inr ⟨by rw [hmoe, MoeRank.setCore_core], ?_⟩⟩
      intro hall
      refine hall j (by omega) ?_
      rw [← hview]
      exact hzero
    · by_cases hmore : 1 < j + 1
      · have hop : (s.moe m).op net 0 [] (.probe i (j + 1)) =
            some ((s.moe m).setCore 0 { (s.moe m).core 0 with todo := [.probe i j] }) := by
          dsimp only [MoeRank.op]
          rw [if_neg hzero, if_pos hmore, Nat.add_sub_cancel]
        obtain ⟨s', hrun, hmoe⟩ := h.search_op hadmitted hm haiv hphase htodo hop
        have hwindow : (s'.moe m).window = (s.moe m).window := by
          rw [hmoe]
          rfl
        obtain ⟨s'', hrun', hwindow', hview', hnext⟩ :=
          ih (h.of_steps hrun.serves.steps) (hrun.phase.trans hphase)
            (by rw [hwindow, hmoe, MoeRank.setCore_core]; exact hview) (by omega) (by omega)
            (by rw [hmoe, MoeRank.setCore_core])
        rw [hwindow] at hwindow' hview' hnext
        exact ⟨s'', hrun.trans hrun', hwindow', hview', hnext⟩
      · have hop : ∃ k : MoeCore V, (s.moe m).op net 0 [] (.probe i (j + 1)) =
            some ((s.moe m).setCore 0 k) ∧
            k.view = ((s.moe m).core 0).view ∧ ∃ n, k.todo = [.mark n] := by
          dsimp only [MoeRank.op]
          rw [if_neg hzero, if_neg hmore]
          exact ⟨_, rfl, rfl, _, rfl⟩
        obtain ⟨k, hop, hkview, hmark⟩ := hop
        obtain ⟨s', hrun, hmoe⟩ := h.search_op hadmitted hm haiv hphase htodo hop
        refine ⟨s', hrun, by rw [hmoe]; rfl, ?_, .inl ?_⟩
        all_goals rw [hmoe, MoeRank.setCore_core]
        · rw [hkview]
          exact hview
        · exact hmark

/-- Group after group, up to one that is announced. -/
theorem CamSystem.Reachable.run_probes (hadmitted : net.Admitted) (hm : m < net.sh.moeRankNum)
    {d i j : Nat} (h : s.Reachable net) (hphase : (s.moe m).phase = .search)
    (hview : ((s.moe m).core 0).view.lastAttn = (s.moe m).window.lastAttn) (hj : 1 ≤ j)
    (hj' : j ≤ net.sh.tpSize) (htodo : ((s.moe m).core 0).todo = [.probe i j])
    (hann : (s.moe m).window.Announced net (i + d)) :
    ∃ s' n, SearchRuns net m 0 s s' ∧ ((s'.moe m).core 0).todo = [.mark n] := by
  induction d generalizing s i j with
  | zero =>
    obtain ⟨s', hrun, -, -, ⟨n, hmark⟩ | ⟨-, hnone⟩⟩ := h.run_probe hadmitted hm hphase hview hj hj' htodo
    · exact ⟨s', n, hrun, hmark⟩
    · exact absurd hann hnone
  | succ d ih =>
    obtain ⟨s', hrun, hwindow, hview', ⟨n, hmark⟩ | ⟨hprobe, -⟩⟩ :=
      h.run_probe hadmitted hm hphase hview hj hj' htodo
    · exact ⟨s', n, hrun, hmark⟩
    · have hann' : (s'.moe m).window.Announced net
          ((i + 1) % (net.sh.attnRankNum / net.sh.tpSize) + d) := by
        intro l hl
        rw [hwindow, searchRank_mod]
        exact hann l hl
      obtain ⟨s'', n, hrun', hmark⟩ := ih (h.of_steps hrun.serves.steps) (hrun.phase.trans hphase)
        (by rw [hview', hwindow]) net.sh.tpSize_pos le_rfl hprobe hann'
      exact ⟨s'', n, hrun.trans hrun', hmark⟩

/-- Core 0 finds a group and takes a chunk of it. -/
theorem CamSystem.Reachable.search_first (hadmitted : net.GroupsAdmitted) (h : s.Reachable net)
    (hm : m < net.sh.moeRankNum) (hphase : (s.moe m).phase = .search) (hg : IsGroup net.sh g)
    (hann : ∀ i < net.sh.tpSize, ((s.moe m).window.region (g + i)).tokenNum ≠ 0) :
    ∃ s', SearchRuns net m 0 s s' ∧ ((s'.moe m).core 0).todo = [] := by
  have haiv := net.sh.moeAivNum_pos
  obtain ⟨p, cur, hsearch⟩ := h.searchInv hadmitted.admitted hm hphase
  -- once the group is found
  have hmarked : ∀ {s' : CamSystem V} {n : Nat}, SearchRuns net m 0 s s' →
      ((s'.moe m).core 0).todo = [.mark n] →
      ∃ s'', SearchRuns net m 0 s s'' ∧ ((s''.moe m).core 0).todo = [] := by
    intro s' n hrun htodo
    have hs' := h.of_steps hrun.serves.steps
    obtain ⟨s₁, hrun₁, hmoe₁⟩ :=
      hs'.search_op hadmitted.admitted hm haiv (hrun.phase.trans hphase) htodo rfl
    have hcounts : ((s₁.moe m).core 0).todo = countTodo net ++ [] := by
      rw [hmoe₁]
      exact congrArg MoeCore.todo (Function.update_self 0 _ (s'.moe m).core)
    rw [List.append_nil] at hcounts
    obtain ⟨s₂, hrun₂, hdone⟩ := CamSystem.Reachable.run_counts hadmitted hm haiv
      (fun op => MoeOp.counts_of_mem) (hs'.of_steps hrun₁.serves.steps)
      (hrun₁.phase.trans (hrun.phase.trans hphase)) hcounts
    exact ⟨s₂, (hrun.trans hrun₁).trans hrun₂, hdone⟩
  have hturn : ∀ i, ∃ d, (s.moe m).window.Announced net (i + d) := by
    intro i
    obtain ⟨d, hd⟩ := exists_turn hsearch.lastAttn hg i
    refine ⟨d, fun l hl => ?_⟩
    rw [hd l hl]
    exact hann l hl
  cases hsearch.core 0 haiv with
  | start todo =>
    obtain ⟨s', hrun, hmoe⟩ := h.search_op hadmitted.admitted hm haiv hphase todo rfl
    have hwindow : (s'.moe m).window = (s.moe m).window := by
      rw [hmoe]
      rfl
    obtain ⟨d, hd⟩ := hturn 0
    obtain ⟨s'', n, hrun', hmark⟩ := (h.of_steps hrun.serves.steps).run_probes hadmitted.admitted hm
      (hrun.phase.trans hphase) (by rw [hwindow, hmoe, MoeRank.setCore_core]) net.sh.tpSize_pos le_rfl
      (by rw [hmoe, MoeRank.setCore_core]; rfl) (by rw [hwindow]; exact hd)
    exact hmarked (hrun.trans hrun') hmark
  | @probe i j _ todo _ view hj hj' =>
    obtain ⟨d, hd⟩ := hturn i
    obtain ⟨s', n, hrun, hmark⟩ := h.run_probes hadmitted.admitted hm hphase view hj hj' todo hd
    exact hmarked hrun hmark
  | mark _ todo => exact hmarked (.refl s) todo
  | follow hne => exact absurd rfl hne
  | count _ _ todo =>
    exact CamSystem.Reachable.run_counts hadmitted hm haiv (fun op => MoeOp.counts_of_mem) h hphase todo
  | chosen _ todo => exact ⟨s, .refl s, todo⟩

/-- Another core finds the marked group. -/
theorem CamSystem.Reachable.follow_marked (hadmitted : net.Admitted) (h : s.Reachable net)
    (hm : m < net.sh.moeRankNum) (hc : c < net.sh.moeAivNum) (hphase : (s.moe m).phase = .search)
    {i : Nat} (htodo : ((s.moe m).core c).todo = [.follow i])
    (hmarked : ((s.moe m).window.region
      ((((s.moe m).core c).view.lastAttn + net.sh.tpSize * i) % net.sh.attnRankNum)).marker ≠ 0) :
    ∃ s', SearchRuns net m c s s' ∧ ((s'.moe m).core c).todo = countTodo net := by
  have hop : ∃ k : MoeCore V, (s.moe m).op net c [] (.follow i) = some ((s.moe m).setCore c k) ∧
      k.todo = countTodo net ++ [] := by
    dsimp only [MoeRank.op]
    rw [if_neg hmarked]
    exact ⟨_, rfl, rfl⟩
  obtain ⟨k, hop, hcounts⟩ := hop
  obtain ⟨s', hrun, hmoe⟩ := h.search_op hadmitted hm hc hphase htodo hop
  refine ⟨s', hrun, ?_⟩
  rw [hmoe, MoeRank.setCore_core, hcounts, List.append_nil]

/-- Group after group, up to the marked one. -/
theorem CamSystem.Reachable.run_follow (hadmitted : net.Admitted) (hm : m < net.sh.moeRankNum)
    (hc : c < net.sh.moeAivNum) {d i : Nat} (h : s.Reachable net) (hphase : (s.moe m).phase = .search)
    (hview : ((s.moe m).core c).view.lastAttn = (s.moe m).window.lastAttn)
    (htodo : ((s.moe m).core c).todo = [.follow i]) (hmarked : (s.moe m).window.Marked net (i + d)) :
    ∃ s', SearchRuns net m c s s' ∧ ((s'.moe m).core c).todo = countTodo net := by
  induction d generalizing s i with
  | zero =>
    refine h.follow_marked hadmitted hm hc hphase htodo ?_
    rw [hview]
    exact hmarked
  | succ d ih =>
    by_cases hzero :
      ((s.moe m).window.region
        ((((s.moe m).core c).view.lastAttn + net.sh.tpSize * i) % net.sh.attnRankNum)).marker = 0
    · have hop : (s.moe m).op net c [] (.follow i) = some ((s.moe m).setCore c { (s.moe m).core c with
          todo := [.follow ((i + 1) % (net.sh.attnRankNum / net.sh.tpSize))] }) := by
        dsimp only [MoeRank.op]
        rw [if_pos hzero]
      obtain ⟨s', hrun, hmoe⟩ := h.search_op hadmitted hm hc hphase htodo hop
      have hwindow : (s'.moe m).window = (s.moe m).window := by
        rw [hmoe]
        rfl
      have hround := searchRank_mod net.sh (s.moe m).window.lastAttn i d 0
      have hmarked' : (s'.moe m).window.Marked net
          ((i + 1) % (net.sh.attnRankNum / net.sh.tpSize) + d) := by
        unfold MoeWindow.Marked
        rw [Nat.add_zero, Nat.add_zero] at hround
        rw [hwindow, hround]
        exact hmarked
      obtain ⟨s'', hrun', hcounts⟩ := ih (h.of_steps hrun.serves.steps) (hrun.phase.trans hphase)
        (by rw [hwindow, hmoe, MoeRank.setCore_core]; exact hview)
        (by rw [hmoe, MoeRank.setCore_core]) hmarked'
      exact ⟨s'', hrun.trans hrun', hcounts⟩
    · exact h.follow_marked hadmitted hm hc hphase htodo hzero

/-- Another core takes its chunk when core 0 has found the group. -/
theorem CamSystem.Reachable.search_other (hadmitted : net.GroupsAdmitted) (h : s.Reachable net)
    (hm : m < net.sh.moeRankNum) (hphase : (s.moe m).phase = .search)
    (hfirst : ((s.moe m).core 0).todo = []) (hc : c < net.sh.moeAivNum) (hne : c ≠ 0) :
    ∃ s', SearchRuns net m c s s' ∧ ((s'.moe m).core c).todo = [] := by
  obtain ⟨p, cur, hsearch⟩ := h.searchInv hadmitted.admitted hm hphase
  -- core 0 has marked the group
  obtain ⟨g, d, rfl⟩ : ∃ g d, cur = some (g, d) := by
    cases hsearch.core 0 net.sh.moeAivNum_pos with
    | chosen hcur => exact ⟨_, _, hcur⟩
    | start todo => cases hfirst.symm.trans todo
    | probe _ todo => cases hfirst.symm.trans todo
    | mark _ todo => cases hfirst.symm.trans todo
    | follow _ todo => cases hfirst.symm.trans todo
    | count _ _ todo => exact absurd (hfirst.symm.trans todo) (by simp)
  obtain ⟨hopen, -⟩ := hsearch.opened g d rfl
  have hturn : ∀ i, ∃ d, (s.moe m).window.Marked net (i + d) := by
    intro i
    obtain ⟨d, hd⟩ := exists_turn hsearch.lastAttn hopen.group i
    refine ⟨d, ?_⟩
    have hrank := hd 0 net.sh.tpSize_pos
    rw [Nat.add_zero] at hrank
    unfold MoeWindow.Marked
    rw [hrank]
    exact (hopen.marker 0 net.sh.tpSize_pos).2 rfl
  have hfollowed : ∀ {s' : CamSystem V} {i : Nat}, SearchRuns net m c s s' →
      (s'.moe m).window = (s.moe m).window →
      ((s'.moe m).core c).view.lastAttn = (s'.moe m).window.lastAttn →
        ((s'.moe m).core c).todo = [.follow i] →
      ∃ s'', SearchRuns net m c s s'' ∧ ((s''.moe m).core c).todo = [] := by
    intro s' i hrun hwindow hview htodo
    have hs' := h.of_steps hrun.serves.steps
    obtain ⟨d, hd⟩ := hturn i
    obtain ⟨s₁, hrun₁, hcounts⟩ := hs'.run_follow hadmitted.admitted hm hc (hrun.phase.trans hphase)
      hview htodo (by rw [hwindow]; exact hd)
    obtain ⟨s₂, hrun₂, hdone⟩ := CamSystem.Reachable.run_counts hadmitted hm hc
      (fun op => MoeOp.counts_of_mem) (hs'.of_steps hrun₁.serves.steps)
      (hrun₁.phase.trans (hrun.phase.trans hphase)) hcounts
    exact ⟨s₂, (hrun.trans hrun₁).trans hrun₂, hdone⟩
  cases hsearch.core c hc with
  | start todo =>
    obtain ⟨s', hrun, hmoe⟩ := h.search_op hadmitted.admitted hm hc hphase todo rfl
    have hwindow : (s'.moe m).window = (s.moe m).window := by
      rw [hmoe]
      rfl
    refine hfollowed (i := 0) hrun hwindow ?_ ?_
    · rw [hwindow, hmoe, MoeRank.setCore_core]
    · rw [hmoe, MoeRank.setCore_core, if_neg hne]
  | probe hzero => exact absurd hzero hne
  | mark hzero => exact absurd hzero hne
  | follow _ todo view => exact hfollowed (.refl s) rfl view todo
  | count _ _ todo =>
    exact CamSystem.Reachable.run_counts hadmitted hm hc (fun op => MoeOp.counts_of_mem) h hphase todo
  | chosen _ todo => exact ⟨s, .refl s, todo⟩

/-- All cores have a chunk of the group. -/
theorem CamSystem.Reachable.run_search (hadmitted : net.GroupsAdmitted) (h : s.Reachable net)
    (hm : m < net.sh.moeRankNum) (hphase : (s.moe m).phase = .search)
    (hfirst : ((s.moe m).core 0).todo = []) {n : Nat} (hn : n ≤ net.sh.moeAivNum) :
    ∃ s', ServesOn net m s s' ∧ (s'.moe m).phase = .search ∧ (s'.moe m).calls = (s.moe m).calls ∧
      ((s'.moe m).core 0).todo = [] ∧
      ∀ c < n, ((s'.moe m).core c).todo = [] := by
  induction n with
  | zero => exact ⟨s, .refl s, hphase, rfl, hfirst, fun c hc => absurd hc (Nat.not_lt_zero c)⟩
  | succ n ih =>
    obtain ⟨s', hserves, hphase', hcalls, hfirst', hdone⟩ := ih (by omega)
    rcases Nat.eq_zero_or_pos n with rfl | hpos
    · refine ⟨s', hserves, hphase', hcalls, hfirst', fun c hc => ?_⟩
      rw [Nat.lt_one_iff.1 hc]
      exact hfirst'
    · have hne : n ≠ 0 := by omega
      obtain ⟨s'', hrun, hself⟩ := (h.of_steps hserves.steps).search_other hadmitted hm hphase' hfirst'
        (show n < net.sh.moeAivNum by omega) hne
      refine ⟨s'', hserves.trans hrun.serves, hrun.phase.trans hphase', hrun.calls.trans hcalls, ?_,
        fun c hc => ?_⟩
      · rw [hrun.others 0 hne.symm]
        exact hfirst'
      · rcases eq_or_ne c n with rfl | hcn
        · exact hself
        · rw [hrun.others c hcn]
          exact hdone c (by omega)

/-- The search ends when a group is announced. -/
theorem CamSystem.Reachable.search_ends (hadmitted : net.GroupsAdmitted) (h : s.Reachable net)
    (hm : m < net.sh.moeRankNum) (hphase : (s.moe m).phase = .search) (hg : IsGroup net.sh g)
    (hann : ∀ i < net.sh.tpSize, ((s.moe m).window.region (g + i)).tokenNum ≠ 0) :
    ∃ s', ServesOn net m s s' ∧ (s'.moe m).phase = .rows 0 ∧ (s'.moe m).calls = (s.moe m).calls ∧
      .chunkFlags 0 ∈ ((s'.moe m).core 0).todo := by
  obtain ⟨s₁, hrun, hfirst⟩ := h.search_first hadmitted hm hphase hg hann
  obtain ⟨s₂, hserves, hphase₂, hcalls, -, hdone⟩ :=
    (h.of_steps hrun.serves.steps).run_search hadmitted hm (hrun.phase.trans hphase) hfirst le_rfl
  have hnext : (s₂.moe m).next net m =
      some ((s₂.moe m).enterPhase (.rows 0) fun c => ((s₂.moe m).core c).rowsTodo net c 0) := by
    unfold MoeRank.next
    rw [hphase₂]
  have hstep : s₂.Step net
      (s₂.setMoe m ((s₂.moe m).enterPhase (.rows 0) fun c => ((s₂.moe m).core c).rowsTodo net c 0)) :=
    .moeNext hm hdone hnext
  refine ⟨_, (hrun.serves.trans hserves).trans (.setMoe hstep), ?_, ?_, ?_⟩
  all_goals rw [CamSystem.setMoe_moe_self]
  · rfl
  · exact hcalls.trans hrun.calls
  · exact chunkFlags_mem_rowsTodo

end Search

/-! ## Calls -/

section Calls
variable {V S F : Type} {net : CamNet V S F} {s : CamSystem V} {m : Nat}

/-- What is announced is there. -/
theorem CamSystem.Reachable.tokenNum_ne_zero (hadmitted : net.GroupsAdmitted) (h : s.Reachable net)
    (hm : m < net.sh.moeRankNum) {rank : Nat} (hrank : rank < net.sh.attnRankNum)
    (hsent : (s.moe m).taken rank < (s.attn rank).sent m) :
    ((s.moe m).window.region rank).tokenNum ≠ 0 := by
  intro hzero
  have hregion := ((h.sent hadmitted).region rank hrank m hm hsent).tokenNum
  exact Nat.succ_ne_zero _ (hregion.symm.trans hzero)

/-- A call from its search to its end. -/
theorem CamSystem.Reachable.run_call (hadmitted : net.GroupsAdmitted) (h : s.Reachable net)
    (hm : m < net.sh.moeRankNum) (hphase : (s.moe m).phase = .search) {g : Nat} (hg : IsGroup net.sh g)
    (hann : ∀ i < net.sh.tpSize, (s.moe m).taken (g + i) < (s.attn (g + i)).sent m) :
    ∃ s' call, ServesOn net m s s' ∧ (s'.moe m).phase = .search ∧
      (s'.moe m).calls = (s.moe m).calls ++ [call] ∧
      IsGroup net.sh call.tpAttnRankId := by
  have htoken : ∀ i < net.sh.tpSize, ((s.moe m).window.region (g + i)).tokenNum ≠ 0 := fun i hi =>
    h.tokenNum_ne_zero hadmitted hm (hg.rank_lt hi) (hann i hi)
  obtain ⟨s₁, hserves₁, hrows, hcalls₁, -⟩ := h.search_ends hadmitted hm hphase hg htoken
  obtain ⟨s₂, call, hserves₂, hsearch, hcalls₂, hgroup⟩ :=
    CamSystem.Reachable.run_rows hadmitted.admitted hm (h.of_steps hserves₁.steps) hrows rfl
  exact ⟨s₂, call, hserves₁.trans hserves₂, hsearch, by rw [hcalls₂, hcalls₁], hgroup⟩

end Calls

end AfdPlugin.Cam
