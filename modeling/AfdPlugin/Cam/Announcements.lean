import AfdPlugin.Cam.Dispatches
import AfdPlugin.Lib.Ends
/-!
# Announcements

An Attention rank waits for nobody until its dispatch is announced: it can always go
on to combine-recv by steps of its own, and so can all ranks one after another.
-/

namespace AfdPlugin.Cam

section Steps
variable {V S F : Type} {net : CamNet V S F} {s s' s'' : CamSystem V} {rank aivId m round : Nat}

theorem CamSystem.Reachable.of_steps (h : s.Reachable net)
    (hsteps : Relation.ReflTransGen (CamSystem.Step net) s s') :
    s'.Reachable net := by
  induction hsteps with
  | refl => exact h
  | tail _ hstep ih => exact ih.step hstep

/-- A run of an Attention rank alone: of the others it changes what the MoE ranks find in
their windows. -/
structure SendsOn (net : CamNet V S F) (rank : Nat) (s s' : CamSystem V) : Prop where
  steps : Relation.ReflTransGen (CamSystem.Step net) s s'
  round : (s'.attn rank).round = (s.attn rank).round
  others : ∀ r ≠ rank, s'.attn r = s.attn r
  moe : ∀ m, ∃ window, s'.moe m = { s.moe m with window }

theorem SendsOn.refl (s : CamSystem V) : SendsOn net rank s s :=
  ⟨.refl, rfl, fun _ _ => rfl, fun _ => ⟨_, rfl⟩⟩

/-- What the MoE ranks find is all that changes of them. -/
theorem windows_trans (h : ∀ m, ∃ window, s'.moe m = { s.moe m with window })
    (h' : ∀ m, ∃ window, s''.moe m = { s'.moe m with window }) (m : Nat) :
    ∃ window, s''.moe m = { s.moe m with window } := by
  obtain ⟨window, hwindow⟩ := h m
  obtain ⟨window', hwindow'⟩ := h' m
  exact ⟨window', by rw [hwindow', hwindow]⟩

theorem SendsOn.trans (h : SendsOn net rank s s') (h' : SendsOn net rank s' s'') : SendsOn net rank s s'' :=
  ⟨h.steps.trans h'.steps, h'.round.trans h.round, fun r hne => (h'.others r hne).trans (h.others r hne),
    windows_trans h.moe h'.moe⟩

/-- A step of the rank that lands in no region. -/
theorem SendsOn.setAttn {a : AttnRank V} (hstep : s.Step net (s.setAttn rank a))
    (hround : a.round = (s.attn rank).round) :
    SendsOn net rank s (s.setAttn rank a) :=
  ⟨.single hstep, by rwa [CamSystem.setAttn_attn_self], fun _ hne => CamSystem.setAttn_attn_of_ne _ _ _ hne,
    fun _ => ⟨_, rfl⟩⟩

/-- A core that sends or announces has writes only. -/
theorem CamSystem.Inv.writes (h : s.Inv net) (hrank : rank < net.sh.attnRankNum)
    (haiv : aivId < net.sh.attnAivNum)
    (hphase : (s.attn rank).phase = .send ∨ (s.attn rank).phase = .announce) {op : AttnOp V}
    (hop : op ∈ (s.attn rank).todo aivId) : ∃ m w, op = .write m w := by
  rcases hphase with hphase | hphase
  · obtain ⟨m, -, w, -, rfl, -⟩ := (h.attn rank hrank).send_op hphase haiv hop
    exact ⟨m, w, rfl⟩
  · have hattn := h.attn rank hrank
    unfold AttnInv at hattn
    rw [hphase] at hattn
    obtain ⟨as, k, hannouncing⟩ := hattn.2 aivId haiv
    rw [hannouncing.todo] at hop
    obtain ⟨a, -, hop⟩ := List.mem_flatMap.1 (List.mem_of_mem_drop hop)
    simp only [announceOps, List.mem_cons, List.not_mem_nil, or_false] at hop
    rcases hop with rfl | rfl | rfl | rfl
    all_goals exact ⟨_, _, rfl⟩

/-- Its next write lands. -/
theorem CamSystem.Reachable.write (hadmitted : net.Admitted) (h : s.Reachable net)
    (hrank : rank < net.sh.attnRankNum) (haiv : aivId < net.sh.attnAivNum)
    (hphase : (s.attn rank).phase = .send ∨ (s.attn rank).phase = .announce) {op : AttnOp V}
    {rest : List (AttnOp V)} (htodo : (s.attn rank).todo aivId = op :: rest) :
    ∃ s' : CamSystem V, SendsOn net rank s s' ∧ (s'.attn rank).phase = (s.attn rank).phase ∧
      (s'.attn rank).todo = Function.update (s.attn rank).todo aivId rest := by
  obtain ⟨m, w, rfl⟩ := (h.inv hadmitted).writes hrank haiv hphase (by rw [htodo]; exact List.mem_cons_self)
  have hstep : s.Step net ((s.setAttn rank ((s.attn rank).op net rank aivId rest (.write m w))).land
      rank (.write m w)) := by
    rcases hphase with hphase | hphase
    · have hfirst : (s.attn rank).todo aivId = [] ++ .write m w :: rest := htodo
      exact .send hrank haiv hphase hfirst
    · exact .attn hrank haiv (by simp [hphase]) htodo
  refine ⟨_, ⟨.single hstep, ?_, fun r hne => ?_, fun m' => ?_⟩, ?_, ?_⟩
  · simp [CamSystem.land, AttnRank.op]
  · simp [CamSystem.land, hne]
  · rcases eq_or_ne m' m with rfl | hne
    · exact ⟨_, CamSystem.setMoe_moe_self _ _ _⟩
    · exact ⟨_, CamSystem.setMoe_moe_of_ne _ _ _ hne⟩
  · simp [CamSystem.land, AttnRank.op]
  · simp [CamSystem.land, AttnRank.op]

theorem CamSystem.Reachable.drain_core (hadmitted : net.Admitted) (hrank : rank < net.sh.attnRankNum)
    (haiv : aivId < net.sh.attnAivNum) {todo : List (AttnOp V)} (h : s.Reachable net)
    (hphase : (s.attn rank).phase = .send ∨ (s.attn rank).phase = .announce)
    (htodo : (s.attn rank).todo aivId = todo) :
    ∃ s' : CamSystem V, SendsOn net rank s s' ∧ (s'.attn rank).phase = (s.attn rank).phase ∧
      (s'.attn rank).todo = Function.update (s.attn rank).todo aivId [] := by
  induction todo generalizing s with
  | nil => exact ⟨s, .refl s, rfl, by rw [← htodo, Function.update_eq_self]⟩
  | cons op rest ih =>
    obtain ⟨s', hon, hsame, hrest⟩ := h.write hadmitted hrank haiv hphase htodo
    obtain ⟨s'', hon', hsame', hempty⟩ :=
      ih (h.of_steps hon.steps) (by rwa [hsame]) (by rw [hrest, Function.update_self])
    refine ⟨s'', hon.trans hon', hsame'.trans hsame, ?_⟩
    rw [hempty, hrest, Function.update_idem]

/-- All cores come to the barrier. -/
theorem CamSystem.Reachable.drain (hadmitted : net.Admitted) (hrank : rank < net.sh.attnRankNum)
    (h : s.Reachable net) (hphase : (s.attn rank).phase = .send ∨ (s.attn rank).phase = .announce)
    {n : Nat} (hn : n ≤ net.sh.attnAivNum) :
    ∃ s' : CamSystem V, SendsOn net rank s s' ∧ (s'.attn rank).phase = (s.attn rank).phase ∧
      ∀ c < n, (s'.attn rank).todo c = [] := by
  induction n with
  | zero => exact ⟨s, .refl s, rfl, fun c hc => absurd hc (Nat.not_lt_zero c)⟩
  | succ n ih =>
    obtain ⟨s', hon, hsame, hdone⟩ := ih (by omega)
    obtain ⟨s'', hon', hsame', hempty⟩ := (h.of_steps hon.steps).drain_core hadmitted hrank
      (show n < net.sh.attnAivNum by omega) (by rwa [hsame]) rfl
    refine ⟨s'', hon.trans hon', hsame'.trans hsame, fun c hc => ?_⟩
    rw [hempty]
    rcases eq_or_ne c n with rfl | hne
    · exact Function.update_self ..
    · rw [Function.update_of_ne hne]
      exact hdone c (by omega)

end Steps

/-! ## All ranks -/

section Ranks
variable {V S F : Type} {net : CamNet V S F} {s s' : CamSystem V} {rank m round : Nat}

/-- All Attention ranks are at the end of their last round. -/
def CamSystem.AllReady (net : CamNet V S F) (round : Nat) (s : CamSystem V) : Prop :=
  ∀ rank < net.sh.attnRankNum, (s.attn rank).phase = .ready ∧ (s.attn rank).round = round

/-- All Attention ranks are in combine-recv, with their dispatches announced. -/
def CamSystem.AllAnnounced (net : CamNet V S F) (round : Nat) (s : CamSystem V) : Prop :=
  ∀ rank < net.sh.attnRankNum, (s.attn rank).phase = .combine ∧ (s.attn rank).round = round

/-- A rank at the end of a round has collected what it has announced. -/
theorem CamSystem.AllReady.sent (h : s.AllReady net round) (hinv : s.Inv net)
    (hrank : rank < net.sh.attnRankNum) (hm : m < net.sh.moeRankNum) :
    (s.attn rank).sent m = round ∧ (s.attn rank).collected m = round := by
  obtain ⟨hphase, hround⟩ := h rank hrank
  have hattn := hinv.attn rank hrank
  unfold AttnInv at hattn
  rw [hphase] at hattn
  rw [← hround]
  exact hattn.1 m hm

/-- A rank in combine-recv has announced its dispatch to every MoE rank. -/
theorem CamSystem.AllAnnounced.sent (h : s.AllAnnounced net round) (hinv : s.Inv net)
    (hrank : rank < net.sh.attnRankNum) (hm : m < net.sh.moeRankNum) :
    (s.attn rank).sent m = round + 1 ∧ (s.attn rank).collected m = round := by
  obtain ⟨hphase, hround⟩ := h rank hrank
  have hattn := hinv.attn rank hrank
  unfold AttnInv at hattn
  rw [hphase] at hattn
  rw [← hround]
  exact hattn.1 m hm

end Ranks

end AfdPlugin.Cam
