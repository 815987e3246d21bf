import AfdPlugin.Lib.Dict
import AfdPlugin.Lib.Fallible
import AfdPlugin.Lib.Runs
import Mathlib.Data.List.Sort
/-!
# The network plan of the DeepEP M2N connector

Every rank evaluates the same plan on the gathered topologies: ranks of one
NVLink domain must be contiguous, domains of one size, and several domains
need GIN.
-/

namespace AfdPlugin.Deepep

/-- `auto`, `on` or `off`. -/
inductive NetworkMode where
  | auto
  | on
  | off
  deriving DecidableEq, Repr

structure NetworkConfig where
  gin : NetworkMode := .auto
  hybrid : NetworkMode := .auto
  rdmaTrafficClass : Nat := 3
  deriving DecidableEq, Repr

/-- `str(config.to_mapping())`. -/
def NetworkConfig.text (config : NetworkConfig) : String :=
  let mode : NetworkMode → String
    | .auto => "auto"
    | .on => "on"
    | .off => "off"
  "\x7b'gin': '" ++ mode config.gin ++ "', 'hybrid': '" ++ mode config.hybrid ++
    "', 'rdma_traffic_class': " ++ toString config.rdmaTrafficClass ++ "\x7d"

structure RankTopology where
  worldRank : Nat
  host : String
  nvlinkDomain : String
  deriving DecidableEq, Repr

structure NetworkPlan where
  numDomains : Nat
  ranksPerDomain : Nat
  useGin : Bool
  hybrid : Bool
  rdmaTrafficClass : Nat
  deriving DecidableEq, Repr

/-- One round of the grouping loop: extend the last block or open a new one. -/
def addToBlocks (blocks : List (String × List Nat)) (topology : RankTopology) : List (String × List Nat) :=
  match blocks.getLast? with
  | some (name, ranks) =>
    if name = topology.nvlinkDomain then blocks.dropLast ++ [(name, ranks ++ [topology.worldRank])]
    else blocks ++ [(topology.nvlinkDomain, [topology.worldRank])]
  | none => [(topology.nvlinkDomain, [topology.worldRank])]

/-- `_domain_blocks`: ranks grouped by NVLink domain. -/
def domainBlocks (topologies : List RankTopology) : Except String (List (List Nat)) :=
  let blocks := topologies.foldl addToBlocks []
  let names := blocks.map Prod.fst
  if names.dedup.length ≠ names.length then
    .error s!"ranks of one NVLink domain are not contiguous: {names}"
  else if (blocks.map fun b => b.2.length).dedup.length ≠ 1 then
    .error s!"NVLink domains hold different rank counts: {blocks.map fun b => (b.1, b.2.length)}"
  else .ok (blocks.map Prod.snd)

def planNetwork (topologies : List RankTopology) (config : NetworkConfig) : Except String NetworkPlan := do
  let domains ← domainBlocks (topologies.insertionSort fun a b => a.worldRank ≤ b.worldRank)
  let multiDomain := decide (1 < domains.length)
  if multiDomain ∧ config.gin = .off then
    throw (s!"network.gin=off, but the ranks span {domains.length} NVLink domains; " ++
      "DeepEP needs NCCL GIN (RDMA) between domains")
  pure {
    numDomains := domains.length
    ranksPerDomain := (domains.headD []).length
    useGin := if config.gin = .auto then multiDomain else config.gin = .on
    hybrid := config.hybrid ≠ .off
    rdmaTrafficClass := config.rdmaTrafficClass }

/-! ## The grouping pass -/

/-- The blocks as runs of domain names. -/
def blockRuns (blocks : List (String × List Nat)) : List (String × Nat) :=
  blocks.map fun b => (b.1, b.2.length)

/-- The blocks of a list of topologies. -/
structure Grouped (topologies : List RankTopology) (blocks : List (String × List Nat)) : Prop where
  canonical : Runs.Canonical (blockRuns blocks)
  domains : Runs.expand (blockRuns blocks) = topologies.map RankTopology.nvlinkDomain

theorem Grouped.add {topologies : List RankTopology} {blocks : List (String × List Nat)}
    (h : Grouped topologies blocks) (t : RankTopology) :
    Grouped (topologies ++ [t]) (addToBlocks blocks t) := by
  obtain ⟨⟨hpos, hchain⟩, hdomains⟩ := h
  rcases List.eq_nil_or_concat' blocks with rfl | ⟨init, last, rfl⟩
  · refine ⟨⟨by simp [addToBlocks, blockRuns], by simp [addToBlocks, blockRuns]⟩, ?_⟩
    rw [List.map_append, ← hdomains]
    simp [addToBlocks, blockRuns]
  obtain ⟨name, ranks⟩ := last
  have hlast : addToBlocks (init ++ [(name, ranks)]) t =
      if name = t.nvlinkDomain then init ++ [(name, ranks ++ [t.worldRank])]
      else init ++ [(name, ranks)] ++ [(t.nvlinkDomain, [t.worldRank])] := by
    simp [addToBlocks]
  rw [hlast]
  simp only [blockRuns, List.map_append, List.map_cons, List.map_nil] at hpos hchain hdomains
  split
  · rename_i hname
    refine ⟨⟨?_, ?_⟩, ?_⟩
    · intro r hr
      simp only [blockRuns, List.map_append, List.map_cons, List.map_nil, List.mem_append,
        List.mem_singleton] at hr
      rcases hr with hr | rfl
      · exact hpos r (List.mem_append_left _ hr)
      · simp
    · simpa [blockRuns] using hchain
    · rw [List.map_append, ← hdomains]
      simp [blockRuns, List.replicate_succ', hname]
  · rename_i hname
    refine ⟨⟨?_, ?_⟩, ?_⟩
    · intro r hr
      simp only [blockRuns, List.map_append, List.map_cons, List.map_nil, List.mem_append,
        List.mem_singleton] at hr
      rcases hr with hr | rfl
      · exact hpos r (List.mem_append.2 (hr.imp_right List.mem_singleton.2))
      · simp
    · simp only [blockRuns, List.map_append, List.map_cons, List.map_nil]
      rw [List.isChain_append]
      refine ⟨by simpa using hchain, by simp, ?_⟩
      intro x hx y hy
      simp at hx hy
      rw [← hx, ← hy]
      exact hname
    · rw [List.map_append, ← hdomains]
      simp [blockRuns]

theorem grouped_foldl (topologies : List RankTopology) :
    Grouped topologies (topologies.foldl addToBlocks []) := by
  induction topologies using List.reverseRecOn with
  | nil => exact ⟨⟨by simp [blockRuns], by simp [blockRuns]⟩, rfl⟩
  | append_singleton topologies t ih =>
    rw [List.foldl_append]
    exact ih.add t

/-! ## What a plan is made of -/

/-- The topologies in world-rank order. -/
def inRankOrder (topologies : List RankTopology) : List RankTopology :=
  topologies.insertionSort fun a b => a.worldRank ≤ b.worldRank

/-- The NVLink domains of the ranks, in world-rank order. -/
def rankDomains (topologies : List RankTopology) : List String :=
  (inRankOrder topologies).map RankTopology.nvlinkDomain

/-- The grouping goes through when the domains are blocks of one size. -/
theorem domainBlocks_cases (topologies : List RankTopology) :
    let domains := topologies.map RankTopology.nvlinkDomain
    (topologies ≠ [] ∧ Runs.Contiguous domains ∧ Runs.EqualCounts domains ∧
        ∃ blocks, domainBlocks topologies = .ok blocks ∧ blocks.length = domains.dedup.length ∧
          blocks.length * (blocks.headD []).length = topologies.length) ∨
      (¬ (topologies ≠ [] ∧ Runs.Contiguous domains ∧ Runs.EqualCounts domains) ∧
        ∃ message, domainBlocks topologies = .error message) := by
  intro domains
  obtain ⟨hcanon, hdomains⟩ := grouped_foldl topologies
  rw [domainBlocks]
  generalize topologies.foldl addToBlocks [] = blocks at hcanon hdomains ⊢
  have hnames : blocks.map Prod.fst = (blockRuns blocks).map Prod.fst := by simp [blockRuns]
  have hsizes : (blocks.map fun b => b.2.length) = (blockRuns blocks).map Prod.snd := by simp [blockRuns]
  have hlength : ((blockRuns blocks).map Prod.snd).sum = topologies.length := by
    rw [← Runs.length_expand, hdomains, List.length_map]
  have hempty : topologies = [] ↔ blocks = [] := by
    constructor
    · rintro rfl
      rw [List.eq_nil_iff_forall_not_mem]
      intro b hb
      have hpos := hcanon.pos _ (List.mem_map_of_mem hb)
      have hle := List.single_le_sum (fun _ _ => Nat.zero_le _) _
        (List.mem_map_of_mem (f := Prod.snd)
          (List.mem_map_of_mem (f := fun b : String × List Nat => (b.1, b.2.length)) hb))
      rw [← blockRuns, hlength, List.length_nil] at hle
      omega
    · rintro rfl
      exact List.eq_nil_of_length_eq_zero hlength.symm
  split
  · rename_i hdup
    refine .inr ⟨fun h => hdup ?_, _, rfl⟩
    rw [hnames, Runs.length_dedup_eq_length, Runs.nodup_iff_contiguous hcanon, hdomains]
    exact h.2.1
  rename_i hdup
  rw [not_not, hnames, Runs.length_dedup_eq_length] at hdup
  have hcont : Runs.Contiguous domains := by
    have h := (Runs.nodup_iff_contiguous hcanon).1 hdup
    rwa [hdomains] at h
  have hequal := Runs.equalCounts_iff hcanon hdup
  rw [hdomains] at hequal
  split
  · rename_i hone
    refine .inr ⟨fun h => hone ?_, _, rfl⟩
    rw [hsizes, Runs.length_dedup_eq_one]
    refine ⟨?_, ?_⟩
    · intro hnil
      exact h.1 (hempty.2 (by simpa [blockRuns] using hnil))
    · intro a ha b hb
      obtain ⟨r, hr, rfl⟩ := List.mem_map.1 ha
      obtain ⟨q, hq, rfl⟩ := List.mem_map.1 hb
      exact hequal.1 h.2.2 r hr q hq
  · rename_i hone
    rw [not_not, hsizes, Runs.length_dedup_eq_one] at hone
    have hall : ∀ r ∈ blockRuns blocks, ∀ q ∈ blockRuns blocks, r.2 = q.2 := fun r hr q hq =>
      hone.2 _ (List.mem_map_of_mem hr) _ (List.mem_map_of_mem hq)
    have hne : topologies ≠ [] := fun h => hone.1 (by simp [hempty.1 h, blockRuns])
    refine .inl ⟨hne, hcont, hequal.2 hall, _, rfl, ?_, ?_⟩
    · rw [List.length_map, ← List.length_map (f := fun b : String × List Nat => (b.1, b.2.length)),
        ← blockRuns, ← Runs.length_dedup_expand hcanon hdup, hdomains]
    · obtain ⟨b, rest, rfl⟩ := List.exists_cons_of_ne_nil (fun h => hne (hempty.2 h))
      -- every block is as long as the first
      have hconst : ((blockRuns (b :: rest)).map Prod.snd) =
          List.replicate (b :: rest).length b.2.length := by
        refine List.eq_replicate_iff.2 ⟨by simp [blockRuns], fun n hn => ?_⟩
        obtain ⟨r, hr, rfl⟩ := List.mem_map.1 hn
        exact hall r hr (b.1, b.2.length) List.mem_cons_self
      rw [← hlength, hconst, List.sum_replicate]
      simp

theorem perm_inRankOrder (topologies : List RankTopology) : (inRankOrder topologies).Perm topologies :=
  List.perm_insertionSort _ _

/-- Ranks that each report once have one order. -/
theorem inRankOrder_congr {topologies topologies' : List RankTopology} (h : topologies'.Perm topologies)
    (hranks : (topologies.map RankTopology.worldRank).Nodup) :
    inRankOrder topologies' = inRankOrder topologies := by
  have : IsTrans RankTopology fun a b => a.worldRank ≤ b.worldRank := ⟨fun _ _ _ => le_trans⟩
  have : Std.Total fun a b : RankTopology => a.worldRank ≤ b.worldRank :=
    ⟨fun a b => le_total a.worldRank b.worldRank⟩
  have hperm := (perm_inRankOrder topologies').trans (h.trans (perm_inRankOrder topologies).symm)
  apply hperm.eq_of_pairwise _ (List.pairwise_insertionSort _ _) (List.pairwise_insertionSort _ _)
  intro a b ha hb hab hba
  have ha' : a ∈ topologies := h.mem_iff.1 ((perm_inRankOrder _).mem_iff.1 ha)
  have hb' : b ∈ topologies := (perm_inRankOrder _).mem_iff.1 hb
  exact List.inj_on_of_nodup_map hranks ha' hb' (le_antisymm hab hba)

/-- The plan from the blocks. -/
theorem planNetwork_of_blocks {topologies : List RankTopology} {blocks : List (List Nat)}
    (config : NetworkConfig) (h : domainBlocks (inRankOrder topologies) = .ok blocks) :
    (1 < blocks.length ∧ config.gin = .off ∧ ∃ message, planNetwork topologies config = .error message) ∨
      (¬ (1 < blocks.length ∧ config.gin = .off) ∧ planNetwork topologies config = .ok {
        numDomains := blocks.length
        ranksPerDomain := (blocks.headD []).length
        useGin := if config.gin = .auto then decide (1 < blocks.length) else config.gin = .on
        hybrid := config.hybrid ≠ .off
        rdmaTrafficClass := config.rdmaTrafficClass }) := by
  rw [inRankOrder] at h
  by_cases hoff : 1 < blocks.length ∧ config.gin = .off
  · refine .inl ⟨hoff.1, hoff.2, ?_⟩
    rw [planNetwork, h, Fallible.ok_bind]
    have hguard : decide (1 < blocks.length) = true ∧ config.gin = .off := ⟨by simpa using hoff.1, hoff.2⟩
    simp only [if_pos hguard]
    exact ⟨_, rfl⟩
  · refine .inr ⟨hoff, ?_⟩
    rw [planNetwork, h, Fallible.ok_bind]
    have hguard : ¬ (decide (1 < blocks.length) = true ∧ config.gin = .off) := by simpa using hoff
    simp only [if_neg hguard]
    rfl

/-- A plan exists exactly for domains that are contiguous blocks of one size, with
GIN between several; it has the domains and the ranks, and does not depend on
the order in which the ranks are listed. No topologies at all are refused. -/
theorem planNetwork_spec (topologies : List RankTopology) (config : NetworkConfig) (hne : topologies ≠ []) :
    ((∃ plan, planNetwork topologies config = .ok plan) ↔
      Runs.Contiguous (rankDomains topologies) ∧ Runs.EqualCounts (rankDomains topologies) ∧
        (1 < (rankDomains topologies).dedup.length → config.gin ≠ .off)) ∧
      (∀ plan, planNetwork topologies config = .ok plan →
        plan.numDomains = (rankDomains topologies).dedup.length ∧
          plan.numDomains * plan.ranksPerDomain = topologies.length ∧
            (1 < plan.numDomains → plan.useGin = true)) ∧
      ((topologies.map RankTopology.worldRank).Nodup → ∀ topologies', topologies'.Perm topologies →
        planNetwork topologies' config = planNetwork topologies config) ∧
      ∃ message, planNetwork [] config = .error message := by
  have horder : (topologies.map RankTopology.worldRank).Nodup → ∀ topologies', topologies'.Perm topologies →
      planNetwork topologies' config = planNetwork topologies config := by
    intro hranks topologies' hperm
    have h := inRankOrder_congr hperm hranks
    rw [inRankOrder, inRankOrder] at h
    rw [planNetwork, planNetwork, h]
  have hempty : ∃ message, planNetwork [] config = .error message := ⟨_, rfl⟩
  have hsorted : inRankOrder topologies ≠ [] := by
    intro h
    have hperm := (perm_inRankOrder topologies).symm
    rw [h] at hperm
    exact hne hperm.eq_nil
  have hlen : (inRankOrder topologies).length = topologies.length := (perm_inRankOrder topologies).length_eq
  rcases domainBlocks_cases (inRankOrder topologies) with
    ⟨-, hcont, hequal, blocks, hblocks, hcount, htotal⟩ | ⟨hnot, message, herror⟩
  · rcases planNetwork_of_blocks config hblocks with ⟨hmulti, hoff, message, herror⟩ | ⟨hguard, hplan⟩
    · refine ⟨iff_of_false ?_ ?_, ?_, horder, hempty⟩
      · rintro ⟨plan, hplan⟩
        rw [herror] at hplan
        cases hplan
      · rintro ⟨-, -, hgin⟩
        rw [hcount] at hmulti
        exact hgin hmulti hoff
      · intro plan hplan
        rw [herror] at hplan
        cases hplan
    · refine ⟨iff_of_true ⟨_, hplan⟩ ⟨hcont, hequal, fun hmulti hoff => ?_⟩, ?_, horder, hempty⟩
      · rw [rankDomains, ← hcount] at hmulti
        exact hguard ⟨hmulti, hoff⟩
      · intro plan hplan'
        obtain rfl := Except.ok.inj (hplan.symm.trans hplan')
        refine ⟨hcount, htotal.trans hlen, fun hmulti => ?_⟩
        have hon : config.gin ≠ .off := fun hoff => hguard ⟨hmulti, hoff⟩
        dsimp only at hmulti ⊢
        cases hgin : config.gin with
        | auto => simpa using hmulti
        | on => simp
        | off => exact absurd hgin hon
  · have hfail : ∃ message, planNetwork topologies config = .error message := by
      rw [inRankOrder] at herror
      exact ⟨message, by rw [planNetwork, herror]; rfl⟩
    obtain ⟨message, hfail⟩ := hfail
    refine ⟨iff_of_false ?_ ?_, ?_, horder, hempty⟩
    · rintro ⟨plan, hplan⟩
      rw [hfail] at hplan
      cases hplan
    · rintro ⟨hcont, hequal, -⟩
      exact hnot ⟨hsorted, hcont, hequal⟩
    · intro plan hplan
      rw [hfail] at hplan
      cases hplan

/-- Four ranks on two domains, listed out of order. -/
theorem planNetwork_spec_twoDomains :
    planNetwork [⟨3, "n1", "b"⟩, ⟨0, "n0", "a"⟩, ⟨2, "n1", "b"⟩, ⟨1, "n0", "a"⟩] {} =
      planNetwork [⟨0, "n0", "a"⟩, ⟨1, "n0", "a"⟩, ⟨2, "n1", "b"⟩, ⟨3, "n1", "b"⟩] {} :=
  (planNetwork_spec [⟨0, "n0", "a"⟩, ⟨1, "n0", "a"⟩, ⟨2, "n1", "b"⟩, ⟨3, "n1", "b"⟩] {}
    (by decide)).2.2.1 (by decide) _ (by decide)

/-- No topologies at all are refused, although nothing about their domains is
wrong; and two reports of one rank are taken in the order listed. -/
theorem planNetwork_refuses :
    (Runs.Contiguous (rankDomains []) ∧ Runs.EqualCounts (rankDomains []) ∧
        ∀ plan, planNetwork [] {} ≠ .ok plan) ∧
      (planNetwork [⟨0, "n", "a"⟩, ⟨1, "n", "a"⟩, ⟨1, "n", "b"⟩, ⟨2, "n", "b"⟩] {} =
          .ok ⟨2, 2, true, true, 3⟩ ∧
        ∀ plan, planNetwork [⟨0, "n", "a"⟩, ⟨1, "n", "b"⟩, ⟨1, "n", "a"⟩, ⟨2, "n", "b"⟩] {} ≠
          .ok plan) := by
  refine ⟨⟨?_, ?_, ?_⟩, ?_, ?_⟩
  · intro a b h
    cases h
  · intro a ha
    cases ha
  · intro plan h
    cases h
  · decide
  · intro plan h
    have herror : ∃ message,
      planNetwork [⟨0, "n", "a"⟩, ⟨1, "n", "b"⟩, ⟨1, "n", "a"⟩, ⟨2, "n", "b"⟩] {} =
        .error message := ⟨_, rfl⟩
    obtain ⟨message, herror⟩ := herror
    rw [herror] at h
    cases h

end AfdPlugin.Deepep
