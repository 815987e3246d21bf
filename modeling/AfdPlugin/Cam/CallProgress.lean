import AfdPlugin.Cam.CombinedValues
/-!
# Calls come to their end

Past its search a MoE rank waits for nobody: its cores can do what they have to do,
meet at every barrier and set their flags, whatever state the other ranks are in.
-/

namespace AfdPlugin.Cam

/-! ## Steps of one MoE rank -/

section Serves
variable {V S F : Type} {net : CamNet V S F} {s s' s'' : CamSystem V} {m c : Nat}

/-- A run of MoE rank `m` alone: of the others it changes what they find in their
windows. -/
structure ServesOn (net : CamNet V S F) (m : Nat) (s s' : CamSystem V) : Prop where
  steps : Relation.ReflTransGen (CamSystem.Step net) s s'
  others : ∀ m' ≠ m, s'.moe m' = s.moe m'
  attn : ∀ rank, ∃ window, s'.attn rank = { s.attn rank with window }

theorem ServesOn.refl (s : CamSystem V) : ServesOn net m s s := ⟨.refl, fun _ _ => rfl, fun _ => ⟨_, rfl⟩⟩

theorem ServesOn.trans (h : ServesOn net m s s') (h' : ServesOn net m s' s'') : ServesOn net m s s'' := by
  refine ⟨h.steps.trans h'.steps, fun m' hne => (h'.others m' hne).trans (h.others m' hne), fun rank => ?_⟩
  obtain ⟨window, hwindow⟩ := h.attn rank
  obtain ⟨window', hwindow'⟩ := h'.attn rank
  exact ⟨window', by rw [hwindow', hwindow]⟩

theorem ServesOn.setMoe {st : MoeRank V} (hstep : s.Step net (s.setMoe m st)) :
    ServesOn net m s (s.setMoe m st) :=
  ⟨.single hstep, fun _ hne => CamSystem.setMoe_moe_of_ne _ _ _ hne, fun _ => ⟨_, rfl⟩⟩

/-- A core of the rank is done with some of its operations. -/
structure CoreRuns (net : CamNet V S F) (m c : Nat) (rest : List (MoeOp V)) (s s' : CamSystem V) :
    Prop where
  serves : ServesOn net m s s'
  phase : (s'.moe m).phase = (s.moe m).phase
  calls : (s'.moe m).calls = (s.moe m).calls
  self : ((s'.moe m).core c).todo = rest
  others : ∀ c' ≠ c, ((s'.moe m).core c').todo = ((s.moe m).core c').todo

theorem CoreRuns.trans {rest rest' : List (MoeOp V)} (h : CoreRuns net m c rest s s')
    (h' : CoreRuns net m c rest' s' s'') :
    CoreRuns net m c rest' s s'' :=
  ⟨h.serves.trans h'.serves, h'.phase.trans h.phase, h'.calls.trans h.calls, h'.self,
    fun c' hne => (h'.others c' hne).trans (h.others c' hne)⟩

/-- Operations of dispatch-recv past the search and of combine-send. -/
def MoeOp.runs : MoeOp V → Bool
  | .enter _ | .copy _ _ _ | .chunkFlags _ | .clearHeader _ | .record | .put _ _ => true
  | _ => false

def MoeOp.isCopy : MoeOp V → Bool
  | .copy _ _ _ => true
  | _ => false

/-- An operation on its own rank. Only `enter` leaves more to do, the copies of its rank. -/
theorem MoeRank.op_runs {st : MoeRank V} {op : MoeOp V} (hruns : op.runs)
    (hput : ∀ rank w, op ≠ .put rank w) (rest : List (MoeOp V)) :
    ∃ st' copies, st.op net c rest op = some st' ∧ (st'.core c).todo = copies ++ rest ∧
      (∀ op' ∈ copies, op'.isCopy) ∧
      (op.isCopy → copies = []) ∧ st'.phase = st.phase ∧ st'.calls = st.calls ∧
        ∀ c' ≠ c, st'.core c' = st.core c' := by
  cases op with
  | enter i =>
    refine ⟨_, _, rfl, congrArg MoeCore.todo (Function.update_self c _ st.core), fun op' hop => ?_,
      fun h => (by cases h), rfl, rfl, fun c' hne => Function.update_of_ne hne _ _⟩
    obtain ⟨copy, -, rfl⟩ := List.mem_map.1 hop
    rfl
  | copy | chunkFlags | clearHeader | record =>
    exact ⟨_, [], rfl, congrArg MoeCore.todo (Function.update_self c _ st.core),
      fun op' hop => absurd hop List.not_mem_nil, fun _ => rfl, rfl, rfl,
      fun c' hne => Function.update_of_ne hne _ _⟩
  | put rank w => exact absurd rfl (hput rank w)
  | start | probe | mark | follow | count | flags => cases hruns

theorem CamSystem.run_op (hm : m < net.sh.moeRankNum) (hc : c < net.sh.moeAivNum) {op : MoeOp V}
    {rest : List (MoeOp V)} (hruns : op.runs) (htodo : ((s.moe m).core c).todo = op :: rest) :
    ∃ s' copies, CoreRuns net m c (copies ++ rest) s s' ∧ (∀ op' ∈ copies, op'.isCopy) ∧
      (op.isCopy → copies = []) := by
  by_cases hput : ∃ rank w, op = .put rank w
  · obtain ⟨rank, w, rfl⟩ := hput
    refine ⟨_, [],
      ⟨⟨.single (.put hm hc htodo), fun m' hne => CamSystem.setMoe_moe_of_ne _ _ _ hne, fun r => ?_⟩,
        ?_, ?_, ?_, fun c' hne => ?_⟩, fun op' hop => absurd hop List.not_mem_nil, fun _ => rfl⟩
    · rcases eq_or_ne r rank with rfl | hne
      · exact ⟨_, CamSystem.setAttn_attn_self _ _ _⟩
      · exact ⟨_, CamSystem.setAttn_attn_of_ne _ _ _ hne⟩
    all_goals rw [CamSystem.setAttn_moe, CamSystem.setMoe_moe_self]
    · rfl
    · rfl
    · exact congrArg MoeCore.todo (Function.update_self c _ (s.moe m).core)
    · exact congrArg MoeCore.todo (Function.update_of_ne hne _ (s.moe m).core)
  · obtain ⟨st', copies, hop, hself, hcopies, hnone, hphase, hcalls, hothers⟩ :=
      @MoeRank.op_runs V S F net c (s.moe m) op hruns (fun rank w heq => hput ⟨rank, w, heq⟩) rest
    refine ⟨s.setMoe m st', copies, ⟨.setMoe (.moe hm hc htodo hop), ?_, ?_, ?_, fun c' hne => ?_⟩,
      hcopies, hnone⟩
    all_goals rw [CamSystem.setMoe_moe_self]
    · exact hphase
    · exact hcalls
    · exact hself
    · rw [hothers c' hne]

theorem CamSystem.run_copies (hm : m < net.sh.moeRankNum) (hc : c < net.sh.moeAivNum)
    {copies rest : List (MoeOp V)} (hcopies : ∀ op ∈ copies, op.isCopy)
    (htodo : ((s.moe m).core c).todo = copies ++ rest) : ∃ s', CoreRuns net m c rest s s' := by
  induction copies generalizing s with
  | nil => exact ⟨s, .refl s, rfl, rfl, htodo, fun _ _ => rfl⟩
  | cons op copies ih =>
    have hcopy := hcopies op List.mem_cons_self
    have hruns : op.runs := by
      cases op with
      | copy => rfl
      | _ => cases hcopy
    obtain ⟨s', more, hrun, -, hnone⟩ := CamSystem.run_op hm hc hruns htodo
    rw [hnone hcopy, List.nil_append] at hrun
    obtain ⟨s'', hrun'⟩ := ih (fun op hop => hcopies op (List.mem_cons_of_mem _ hop)) hrun.self
    exact ⟨s'', hrun.trans hrun'⟩

theorem CamSystem.run_core (hm : m < net.sh.moeRankNum) (hc : c < net.sh.moeAivNum)
    {ops : List (MoeOp V)} (hruns : ∀ op ∈ ops, op.runs) (htodo : ((s.moe m).core c).todo = ops) :
    ∃ s', CoreRuns net m c [] s s' := by
  induction ops generalizing s with
  | nil => exact ⟨s, .refl s, rfl, rfl, htodo, fun _ _ => rfl⟩
  | cons op ops ih =>
    obtain ⟨s₁, copies, hrun₁, hcopies, -⟩ := CamSystem.run_op hm hc (hruns op List.mem_cons_self) htodo
    obtain ⟨s₂, hrun₂⟩ := CamSystem.run_copies hm hc hcopies hrun₁.self
    obtain ⟨s₃, hrun₃⟩ := ih (fun op hop => hruns op (List.mem_cons_of_mem _ hop)) hrun₂.self
    exact ⟨s₃, (hrun₁.trans hrun₂).trans hrun₃⟩

/-- All cores of the rank come to the barrier. -/
theorem CamSystem.run_cores (hm : m < net.sh.moeRankNum)
    (hruns : ∀ c < net.sh.moeAivNum, ∀ op ∈ ((s.moe m).core c).todo, op.runs) {n : Nat}
    (hn : n ≤ net.sh.moeAivNum) :
    ∃ s', ServesOn net m s s' ∧ (s'.moe m).phase = (s.moe m).phase ∧ (s'.moe m).calls = (s.moe m).calls ∧
      (∀ c < n, ((s'.moe m).core c).todo = []) ∧
        ∀ c ≥ n, ((s'.moe m).core c).todo = ((s.moe m).core c).todo := by
  induction n with
  | zero => exact ⟨s, .refl s, rfl, rfl, fun c hc => absurd hc (Nat.not_lt_zero c), fun _ _ => rfl⟩
  | succ n ih =>
    obtain ⟨s', hserves, hphase, hcalls, hdone, hrest⟩ := ih (by omega)
    have hc : n < net.sh.moeAivNum := by omega
    obtain ⟨s'', hrun⟩ := CamSystem.run_core hm hc (hruns n hc) (hrest n le_rfl)
    refine ⟨s'', hserves.trans hrun.serves, hrun.phase.trans hphase, hrun.calls.trans hcalls,
      fun c hlt => ?_, fun c hge => ?_⟩
    · rcases eq_or_ne c n with rfl | hne
      · exact hrun.self
      · rw [hrun.others c hne]
        exact hdone c (by omega)
    · rw [hrun.others c (by omega)]
      exact hrest c (by omega)

end Serves

/-! ## To the end of a call -/

section Call
variable {V S F : Type} {net : CamNet V S F} {s : CamSystem V} {m : Nat}

/-- Past the search there is nothing that waits. -/
theorem MoeInv.runs {st : MoeRank V} {sent : Nat → Nat} {p : Progress} (h : MoeInv net st sent p m)
    (hphase : st.phase ≠ .search) :
    ∀ c < net.sh.moeAivNum, ∀ op ∈ (st.core c).todo, op.runs := by
  intro c hc op hop
  unfold MoeInv at h
  cases hcase : st.phase with
  | search => exact absurd hcase hphase
  | rows k =>
    rw [hcase] at h
    obtain ⟨g, d, e, q, hrows⟩ := h
    have hop := hrows.ops c hc op hop
    cases op with
    | enter | copy | chunkFlags | clearHeader | record => rfl
    | start | probe | mark | follow | count | flags | put => exact hop.elim
  | returns =>
    rw [hcase] at h
    obtain ⟨g, d, e, hreturns⟩ := h
    obtain ⟨i, -, r, x, rfl⟩ := hreturns.ops c hc op hop
    rfl
  | flags =>
    rw [hcase] at h
    obtain ⟨g, d, e, pending, hflags⟩ := h
    rw [hflags.todo c hc] at hop
    obtain ⟨i, -, rfl⟩ := List.mem_map.1 hop
    rfl

/-- The rank passes its next barrier. -/
theorem CamSystem.Reachable.pass (hadmitted : net.Admitted) (h : s.Reachable net)
    (hm : m < net.sh.moeRankNum) (hphase : (s.moe m).phase ≠ .search) :
    ∃ s', ServesOn net m s s' ∧
      ((∃ k, (s.moe m).phase = .rows k ∧ (s'.moe m).phase = .rows (k + 1) ∧
        (s'.moe m).calls = (s.moe m).calls) ∨
        (∃ k call, (s.moe m).phase = .rows k ∧ (s'.moe m).phase = .returns ∧
          (s'.moe m).calls = (s.moe m).calls ++ [call] ∧
          IsGroup net.sh call.tpAttnRankId) ∨
        ((s.moe m).phase = .returns ∧ (s'.moe m).phase = .flags ∧ (s'.moe m).calls = (s.moe m).calls) ∨
        ((s.moe m).phase = .flags ∧ (s'.moe m).phase = .search ∧ (s'.moe m).calls = (s.moe m).calls)) := by
  obtain ⟨p, -, hmoe⟩ := (h.inv hadmitted).moe m hm
  obtain ⟨s', hserves, hsame, hcalls, hdone, -⟩ := CamSystem.run_cores hm (hmoe.runs hphase) le_rfl
  obtain ⟨p', -, hmoe'⟩ := ((h.of_steps hserves.steps).inv hadmitted).moe m hm
  obtain ⟨st, hnext⟩ := Option.ne_none_iff_exists'.1 hmoe'.meet.2
  have hstep : s'.Step net (s'.setMoe m st) := .moeNext hm hdone hnext
  obtain ⟨p'', -, hserved⟩ := (((h.of_steps hserves.steps).step hstep).inv hadmitted).moe m hm
  rw [CamSystem.setMoe_moe_self] at hserved
  refine ⟨_, hserves.trans (.setMoe hstep), ?_⟩
  rw [CamSystem.setMoe_moe_self]
  unfold MoeRank.next at hnext
  rw [hsame] at hnext
  cases hcase : (s.moe m).phase with
  | search => exact absurd hcase hphase
  | rows k =>
    rw [hcase] at hnext
    dsimp only at hnext
    split at hnext
    · cases hnext
      exact .inl ⟨k, rfl, rfl, hcalls⟩
    · split at hnext
      · cases hnext
        obtain ⟨g, d, e, hreturns⟩ := hserved
        have hgroup : IsGroup net.sh ((s'.moe m).chunk.batchInfo 1) := by
          have hrecorded := hreturns.sending.recorded.1
          rw [← hrecorded] at hreturns
          exact hreturns.sending.group
        exact .inr (.inl ⟨k, _, rfl, rfl, congrArg (· ++ _) hcalls, hgroup⟩)
      · cases hnext
  | returns =>
    rw [hcase] at hnext
    cases hnext
    exact .inr (.inr (.inl ⟨rfl, rfl, hcalls⟩))
  | flags =>
    rw [hcase] at hnext
    cases hnext
    exact .inr (.inr (.inr ⟨rfl, rfl, hcalls⟩))

/-- The flags of a call. -/
theorem CamSystem.Reachable.run_flags (hadmitted : net.Admitted) (h : s.Reachable net)
    (hm : m < net.sh.moeRankNum) (hphase : (s.moe m).phase = .flags) :
    ∃ s', ServesOn net m s s' ∧ (s'.moe m).phase = .search ∧ (s'.moe m).calls = (s.moe m).calls := by
  obtain ⟨s', hserves, hnext⟩ := h.pass hadmitted hm (by simp [hphase])
  simp only [hphase, reduceCtorEq, false_and, exists_false, false_or, true_and] at hnext
  exact ⟨s', hserves, hnext⟩

/-- Its rows, then its flags. -/
theorem CamSystem.Reachable.run_returns (hadmitted : net.Admitted) (h : s.Reachable net)
    (hm : m < net.sh.moeRankNum) (hphase : (s.moe m).phase = .returns) :
    ∃ s', ServesOn net m s s' ∧ (s'.moe m).phase = .search ∧ (s'.moe m).calls = (s.moe m).calls := by
  obtain ⟨s', hserves, hnext⟩ := h.pass hadmitted hm (by simp [hphase])
  simp only [hphase, reduceCtorEq, false_and, exists_false, false_or, or_false, true_and] at hnext
  obtain ⟨s'', hserves', hsearch, hcalls⟩ := (h.of_steps hserves.steps).run_flags hadmitted hm hnext.1
  exact ⟨s'', hserves.trans hserves', hsearch, hcalls.trans hnext.2⟩

/-- There are only so many barriers. -/
theorem MoeInv.barriers_le {st : MoeRank V} {sent : Nat → Nat} {p : Progress}
    (h : MoeInv net st sent p m) {k : Nat} (hphase : st.phase = .rows k) : k ≤ net.sh.tpSize := by
  unfold MoeInv at h
  rw [hphase] at h
  obtain ⟨g, d, e, q, hrows⟩ := h
  have hle := hrows.barriers
  split at hle
  · exact hle
  · omega

/-- The copies, barrier after barrier, then the way back. -/
theorem CamSystem.Reachable.run_rows (hadmitted : net.Admitted) (hm : m < net.sh.moeRankNum) {n : Nat}
    (h : s.Reachable net) {k : Nat} (hphase : (s.moe m).phase = .rows k) (hn : net.sh.tpSize - k = n) :
    ∃ s' call, ServesOn net m s s' ∧ (s'.moe m).phase = .search ∧
      (s'.moe m).calls = (s.moe m).calls ++ [call] ∧
      IsGroup net.sh call.tpAttnRankId := by
  induction n generalizing s k with
  | zero =>
    obtain ⟨s', hserves, hnext⟩ := h.pass hadmitted hm (by simp [hphase])
    have hs' := h.of_steps hserves.steps
    obtain ⟨p', -, hmoe'⟩ := (hs'.inv hadmitted).moe m hm
    rcases hnext with ⟨k', hk', hrows, -⟩ | ⟨k', call, -, hreturns, hcalls, hgroup⟩ | ⟨hne, -⟩ | ⟨hne, -⟩
    · obtain rfl : k = k' := MoePhase.rows.inj (hphase.symm.trans hk')
      have hle := hmoe'.barriers_le hrows
      omega
    · obtain ⟨s'', hserves', hsearch, hcalls'⟩ := hs'.run_returns hadmitted hm hreturns
      exact ⟨s'', call, hserves.trans hserves', hsearch, hcalls'.trans hcalls, hgroup⟩
    · exact absurd (hphase.symm.trans hne) (by simp)
    · exact absurd (hphase.symm.trans hne) (by simp)
  | succ n ih =>
    obtain ⟨s', hserves, hnext⟩ := h.pass hadmitted hm (by simp [hphase])
    have hs' := h.of_steps hserves.steps
    rcases hnext with ⟨k', hk', hrows, hcalls⟩ | ⟨k', call, -, hreturns, hcalls, hgroup⟩ |
      ⟨hne, -⟩ | ⟨hne, -⟩
    · obtain rfl : k = k' := MoePhase.rows.inj (hphase.symm.trans hk')
      obtain ⟨s'', call, hserves', hsearch, hcalls', hgroup⟩ := ih hs' hrows (by omega)
      exact ⟨s'', call, hserves.trans hserves', hsearch, by rw [hcalls', hcalls], hgroup⟩
    · obtain ⟨s'', hserves', hsearch, hcalls'⟩ := hs'.run_returns hadmitted hm hreturns
      exact ⟨s'', call, hserves.trans hserves', hsearch, hcalls'.trans hcalls, hgroup⟩
    · exact absurd (hphase.symm.trans hne) (by simp)
    · exact absurd (hphase.symm.trans hne) (by simp)

end Call

end AfdPlugin.Cam
