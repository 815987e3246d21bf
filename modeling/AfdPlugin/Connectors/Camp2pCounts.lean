import AfdPlugin.Connectors.Camp2p
/-!
# What an FFN rank expects of its Attention ranks

The sender, the FFN rank's connector and the FFN runner each derive row counts
from the same DP metadata. This module compares what they derive.
-/

namespace AfdPlugin.Camp2p

open AfdPlugin.Topology

/-! ## Accepted topologies -/

section Ranks
variable {A F : Nat}

/-- What an FFN process computes. -/
theorem buildCamp2pTopology_ffn (hF : 0 < F) (hFA : F ≤ A) {g : Bool} {f : Nat} (hf : f < F) :
    buildCamp2pTopology ⟨.ffn, A, F, g⟩ f = .ok {
      role := .ffn, roleRank := f, worldRank := f, p2pRank := f, attentionSize := A, ffnSize :=
        F, minSize := F,
      dpMetadataDestinations := [] } := by
  have hpos : ¬ (A = 0 ∨ F = 0) := by omega
  have hA : ¬ A < F := by omega
  have hr : ¬ f ≥ F := by omega
  simp only [buildCamp2pTopology, topologyFromConfig, hpos, hA, if_false, Int.toNat_natCast, hr,
    Int.natCast_nonneg, not_lt.2, bind, Except.bind, pure, Except.pure, false_and, Nat.min_eq_right hFA]

/-- What an Attention process computes. -/
theorem buildCamp2pTopology_attention (hF : 0 < F) (hFA : F ≤ A) {g : Bool} {a : Nat} (ha : a < A) :
    buildCamp2pTopology ⟨.attention, A, F, g⟩ a = .ok {
      role := .attention, roleRank := a, worldRank := F + a, p2pRank := a + F, attentionSize :=
        A, ffnSize := F,
      minSize := F, dpMetadataDestinations := if a < F then destinationsFrom F F F a else [] } := by
  have hpos : ¬ (A = 0 ∨ F = 0) := by omega
  have hA : ¬ A < F := by omega
  have hr : ¬ a ≥ A := by omega
  have hw : (F ≤ F + a ∧ F + a < F + F) ↔ a < F := by omega
  simp only [buildCamp2pTopology, topologyFromConfig, hpos, hA, if_false, Int.toNat_natCast, hr,
    Int.natCast_nonneg, not_lt.2, bind, Except.bind, pure, Except.pure, Nat.min_eq_right hFA,
    Nat.min_eq_left hFA, hw, Nat.add_sub_cancel_left]

/-- A topology is only built for at least as many Attention ranks as FFN ranks,
and for a rank of its role. -/
theorem accepted_of_buildCamp2pTopology {config : AFDConfig} {r : Int} {t : CAMP2PTopology}
    (h : buildCamp2pTopology config r = .ok t) :
    0 < config.numFfnRanks ∧ config.numFfnRanks ≤ config.numAttentionRanks ∧
      t.attentionSize = config.numAttentionRanks ∧
      t.ffnSize = config.numFfnRanks ∧ t.role = config.role ∧
      ∃ n : Nat, r = n ∧ t.roleRank = n ∧ n < match config.role with
        | .attention => config.numAttentionRanks
        | .ffn => config.numFfnRanks := by
  obtain ⟨role, A, F, g⟩ := config
  simp only [buildCamp2pTopology, topologyFromConfig, bind, Except.bind, pure, Except.pure, throw, throwThe,
    MonadExceptOf.throw] at h
  by_cases hpos : A = 0 ∨ F = 0
  · simp [hpos] at h
  by_cases hA : A < F
  · simp [hpos, hA] at h
  by_cases hr : r < 0
  · simp [hpos, hA, hr] at h
  obtain ⟨n, rfl⟩ := Int.eq_ofNat_of_zero_le (not_lt.1 hr)
  simp only [hpos, hA, hr, if_false, Int.toNat_natCast] at h
  have hF : 0 < F := by omega
  have hFA : F ≤ A := not_lt.1 hA
  cases role with
  | attention =>
    by_cases hn : n ≥ A
    · simp [hn] at h
    · simp only [hn, if_false, Except.ok.injEq] at h
      subst h
      exact ⟨hF, hFA, rfl, rfl, rfl, n, rfl, rfl, not_le.1 hn⟩
  | ffn =>
    by_cases hn : n ≥ F
    · simp [hn] at h
    · simp only [hn, if_false, Except.ok.injEq] at h
      subst h
      exact ⟨hF, hFA, rfl, rfl, rfl, n, rfl, rfl, not_le.1 hn⟩

end Ranks

/-! ## Receive sizes -/

section Receive
variable {A F : Nat} {md : AFDDPMetadata}

/-- The rows that the Attention ranks of FFN rank `f` send. -/
def groupTokens (md : AFDDPMetadata) (A F f : Nat) : Int := ((Strided.group A F f).map (rankCount md A)).sum

/-- Whatever its capacity, each FFN rank expects what its Attention ranks send. -/
def ReceivesMappedCounts (A F : Nat) (md : AFDDPMetadata) : Prop :=
  ∀ d : Dict Int AFDDPMetadata, ∀ stage, d.get? stage = some md → ∀ f < F, ∀ fallback,
    numTokensForFfnRank d stage f A F fallback = .ok (groupTokens md A F f)

/-- Without a count for every rank, or with groups that differ in size, the
counts are not used. -/
theorem numTokensForFfnRank_fallback {d : Dict Int AFDDPMetadata} {stage : Int}
    (hmd : d.get? stage = some md) (h : ¬ (Complete md A ∧ F ∣ A)) (f : Nat) (fallback : Int) :
    (∃ e, numTokensForFfnRank d stage f A F fallback = .error e) ∨
      numTokensForFfnRank d stage f A F fallback = .ok (max 1 fallback) := by
  simp only [numTokensForFfnRank, hmd]
  split
  · exact .inl ⟨_, rfl⟩
  · rename_i hne
    right
    split
    · rfl
    · rename_i hlen
      refine if_neg fun hdiv => h ⟨?_, Nat.dvd_of_mod_eq_zero hdiv.2⟩
      rw [length_counts] at hne
      by_cases hle : A ≤ md.numTokensAcrossDpCpu.length
      · exact .inl hle
      · refine .inr ⟨by omega, Nat.dvd_of_mod_eq_zero ?_⟩
        by_contra hmod
        rw [expandToAttention, length_counts, if_neg (by omega), length_counts] at hlen
        omega

/-- The receive size is the sum of the counts of the mapped Attention ranks
exactly when the Attention ranks divide evenly over the FFN ranks, the list has
a count for every Attention rank, and no group is empty. -/
theorem receive_size_iff {config : AFDConfig} {r : Int} {t : CAMP2PTopology}
    (h : buildCamp2pTopology config r = .ok t) (md : AFDDPMetadata) :
    ReceivesMappedCounts t.attentionSize t.ffnSize md ↔
      t.ffnSize ∣ t.attentionSize ∧ Complete md t.attentionSize ∧
        ∀ f < t.ffnSize, 1 ≤ groupTokens md t.attentionSize t.ffnSize f := by
  obtain ⟨hF, hFA, hAt, hFt, -⟩ := accepted_of_buildCamp2pTopology h
  rw [← hFt] at hF hFA
  rw [← hAt] at hFA
  constructor
  · intro hrecv
    have hstage : (Dict.set ∅ 0 md : Dict Int AFDDPMetadata).get? 0 = some md := Dict.get?_set_self ∅ 0 md
    by_cases hgood : Complete md t.attentionSize ∧ t.ffnSize ∣ t.attentionSize
    · refine ⟨hgood.2, hgood.1, fun f hf => ?_⟩
      have hsize := hrecv _ 0 hstage f hf 0
      rw [numTokensForFfnRank_eq hstage hgood.1 hgood.2 (by omega) hf] at hsize
      rw [← Except.ok.inj hsize]
      exact le_max_left _ _
    · -- a capacity above the ranks' rows is returned as it is
      have hsize := hrecv _ 0 hstage 0 hF (max 1 (groupTokens md t.attentionSize t.ffnSize 0) + 1)
      rcases numTokensForFfnRank_fallback hstage hgood 0
        (max 1 (groupTokens md t.attentionSize t.ffnSize 0) + 1) with ⟨e, he⟩ | hfallback
      · rw [he] at hsize
        cases hsize
      · rw [hfallback] at hsize
        have hsum := Except.ok.inj hsize
        omega
  · rintro ⟨hdvd, hcomplete, hpos⟩ d stage hmd f hf fallback
    rw [numTokensForFfnRank_eq hmd hcomplete hdvd (by omega) hf]
    exact congrArg Except.ok (max_eq_right (hpos f hf))

/-- Four Attention ranks on two FFN ranks, with the counts of two DP ranks. -/
theorem receive_size_iff_four_two : ReceivesMappedCounts 4 2 ⟨[5, 7], 7⟩ :=
  (@receive_size_iff ⟨.ffn, 4, 2, false⟩ 0 _ rfl ⟨[5, 7], 7⟩).2
    ⟨by decide, by decide, by decide⟩

/-- Three Attention ranks on two FFN ranks are accepted. With the count of one DP rank of
three TP workers FFN rank 0 expects its whole capacity for the 10 rows that ranks 0 and
2 send. -/
theorem uneven_ranks_receive_capacity :
    (∃ t, buildCamp2pTopology ⟨.ffn, 3, 2, false⟩ 0 = .ok t ∧ t.attentionSize = 3 ∧ t.ffnSize = 2) ∧
      numTokensForFfnRank ((∅ : Dict Int AFDDPMetadata).set 0 ⟨[5], 5⟩) 0 0 3 2 4096 = .ok 4096 ∧
      groupTokens ⟨[5], 5⟩ 3 2 0 = 10 ∧ ¬ ReceivesMappedCounts 3 2 ⟨[5], 5⟩ := by
  refine ⟨⟨_, rfl, rfl, rfl⟩, by decide, by decide, fun h => ?_⟩
  have hsize := h ((∅ : Dict Int AFDDPMetadata).set 0 ⟨[5], 5⟩) 0 (by decide) 0 (by decide) 4096
  exact absurd hsize (by decide)

end Receive

/-! ## Physical counts -/

section Physical
variable {A F : Nat} {counts : List Int32}

theorem toInt_maxCount (m c : Int32) : (maxCount m c).toInt = max m.toInt c.toInt := by
  unfold maxCount
  split
  · rename_i h
    exact (max_eq_right (Int32.le_iff_toInt_le.1 h)).symm
  · rename_i h
    exact (max_eq_left (not_le.1 fun hle => h (Int32.le_iff_toInt_le.2 hle)).le).symm

theorem maxCount_self (m : Int32) : maxCount m m = m := by
  unfold maxCount
  split <;> rfl

/-- A column's maximum is at least each of its entries. -/
theorem le_columnMax (counts : List Int32) (cols column : Nat) {row n : Nat} (h : row ≤ n) :
    (counts.getD (row * cols + column) 0).toInt ≤ (columnMax counts cols column n).toInt := by
  induction n with
  | zero =>
    obtain rfl : row = 0 := Nat.le_zero.1 h
    rw [Nat.zero_mul, Nat.zero_add]
    exact le_rfl
  | succ n ih =>
    rw [columnMax, toInt_maxCount]
    rcases Nat.le_or_eq_of_le_succ h with hle | rfl
    · exact (ih hle).trans (le_max_left _ _)
    · exact le_max_right _ _

/-- A column of equal entries keeps their value. -/
theorem columnMax_const {cols column n : Nat} {v : Int32}
    (h : ∀ row ≤ n, counts.getD (row * cols + column) 0 = v) : columnMax counts cols column n = v := by
  induction n with
  | zero => rw [columnMax, ← h 0 le_rfl, Nat.zero_mul, Nat.zero_add]
  | succ n ih => rw [columnMax, ih fun row hrow => h row (by omega), h (n + 1) le_rfl, maxCount_self]

/-- What an Attention rank's count becomes. -/
def physicalCount (counts : List Int32) (A F a : Nat) : Int32 :=
  columnMax (counts.flatMap (List.replicate (A / counts.length))) F (a % F) (A / F - 1)

/-- The transformation goes through for a list that expands, and gives every
Attention rank its physical count. -/
theorem physicalCounts_ok (hF : 0 < F) (hFA : F ∣ A) (h : counts.length ≠ 0 ∧ counts.length ∣ A) :
    ∃ phys, physicalCounts A F (A / F) counts = .ok phys ∧ phys.length = A ∧
      ∀ a < A, phys.getD a 0 = physicalCount counts A F a := by
  have hmul : A / F * F = A := Nat.div_mul_cancel hFA
  have hlen : (counts.flatMap (List.replicate (A / counts.length))).length = A / F * F := by
    rw [Strided.length_flatMap_replicate, hmul]
    exact Nat.mul_div_cancel' h.2
  refine ⟨(List.range (A / F)).flatMap fun _ => (List.range F).map fun f =>
    columnMax (counts.flatMap (List.replicate (A / counts.length))) F f (A / F - 1), ?_, ?_, fun a ha => ?_⟩
  · simp only [physicalCounts, h.1, if_false, hlen, ne_eq, not_true_eq_false]
  · rw [Strided.length_flatMap_columns, hmul]
  · rw [Strided.getD_flatMap_columns _ hF (by rwa [hmul]), physicalCount]

theorem physicalCount_congr (counts : List Int32) (A : Nat) {a a' : Nat} (h : a % F = a' % F) :
    physicalCount counts A F a = physicalCount counts A F a' := by
  rw [physicalCount, h]
  rfl

/-- No rank gets less than its real count. -/
theorem le_physicalCount (hF : 0 < F) (hFA : F ∣ A) (h : counts.length ≠ 0 ∧ counts.length ∣ A)
    {a : Nat} (ha : a < A) :
    (counts.getD (a / (A / counts.length)) 0).toInt ≤ (physicalCount counts A F a).toInt := by
  have hA : 0 < A := by omega
  have hk : 0 < A / counts.length := Nat.div_pos (Nat.le_of_dvd hA h.2) (by omega)
  have hrow : a / F ≤ A / F - 1 := by
    have := (Nat.div_lt_iff_lt_mul hF).2 (show a < A / F * F by rwa [Nat.div_mul_cancel hFA])
    omega
  have hle := le_columnMax (counts.flatMap (List.replicate (A / counts.length))) F (a % F) hrow
  rwa [Nat.div_add_mod', Strided.getD_flatMap_replicate _ hk] at hle

/-- Physical counts are their own physical counts. -/
theorem physicalCounts_idempotent (hF : 0 < F) (hFA : F ≤ A) {phys : List Int32}
    (hphys : physicalCounts A F (A / F) counts = .ok phys) :
    physicalCounts A F (A / F) phys = .ok phys := by
  have hratio : 0 < A / F := Nat.div_pos hFA hF
  unfold physicalCounts at hphys
  split at hphys
  · cases hphys
  · dsimp only at hphys
    split at hphys
    · cases hphys
    · generalize hexpanded : counts.flatMap (List.replicate (A / counts.length)) = expanded at hphys
      let column := fun f => columnMax expanded F f (A / F - 1)
      obtain rfl : ((List.range (A / F)).flatMap fun _ => (List.range F).map column) = phys :=
        Except.ok.inj hphys
      have hlen : ((List.range (A / F)).flatMap fun _ => (List.range F).map column).length = A / F * F :=
        Strided.length_flatMap_columns _ _ _
      have hpos : 0 < A / F * F := Nat.mul_pos hratio hF
      -- the physical counts are one for every Attention rank that the matrix has
      have hone : A / (A / F * F) = 1 := by
        have hle := Nat.div_mul_le_self A F
        have hlt : A < A / F * F + F := Nat.lt_div_mul_add hF
        have hF' : F ≤ A / F * F := Nat.le_mul_of_pos_left F hratio
        exact Nat.div_eq_of_lt_le (by omega) (by omega)
      have hsingle : ∀ l : List Int32, l.flatMap (List.replicate 1) = l :=
        fun l => List.flatMap_singleton' l
      simp only [physicalCounts, hlen, hone, hsingle, hpos.ne', ne_eq, not_true_eq_false, if_false]
      refine congrArg Except.ok (List.flatMap_congr fun _ _ => List.map_congr_left fun f hf => ?_)
      have hf := List.mem_range.1 hf
      apply columnMax_const
      intro row hrow
      have hlt : row * F + f < A / F * F := by
        have hmul := Nat.mul_le_mul_right F (show row + 1 ≤ A / F by omega)
        rw [Nat.succ_mul] at hmul
        omega
      rw [Strided.getD_flatMap_columns _ hF hlt, Nat.mul_comm row, Nat.mul_add_mod, Nat.mod_eq_of_lt hf]

end Physical

/-! ## The payload both sides work on -/

namespace CAMP2pAFDConnector

/-- The metadata a stage gets in the physical payload. -/
def physicalMetadata (c : CAMP2pAFDConnector) (md : AFDDPMetadata) : AFDDPMetadata :=
  match c.physicalStage (0, md) with
  | .ok item => item.2
  | .error _ => md

section Payload
variable {A F : Nat} {g : Bool} (c : CAMP2pAFDConnector) (hF : 0 < F) (hA : 0 < A) (hFA : F ∣ A)
  (hattn : c.attnSize = A) (hffn : c.ffnSize = F)
include hF hA hFA hattn hffn

theorem physicalStage_ok {md : AFDDPMetadata} (h : Expands md A) (stage : Int) :
    c.physicalStage (stage, md) = .ok (stage, c.physicalMetadata md) ∧
      physicalCounts A F (A / F) md.numTokensAcrossDpCpu =
        .ok (c.physicalMetadata md).numTokensAcrossDpCpu := by
  obtain ⟨phys, hphys, hlen, -⟩ := physicalCounts_ok hF hFA h
  have hnew : ∃ pmd, AFDDPMetadata.new phys none = .ok pmd ∧ pmd.numTokensAcrossDpCpu = phys := by
    cases phys with
    | nil => exact absurd hlen (by simp; omega)
    | cons n rest => exact ⟨_, rfl, rfl⟩
  obtain ⟨pmd, hpmd, hcounts⟩ := hnew
  have hstage : ∀ stage, c.physicalStage (stage, md) = .ok (stage, pmd) := by
    intro stage
    simp only [physicalStage, ratio, hattn, hffn, hphys, bind, Except.bind, hpmd, pure, Except.pure]
  have heq : c.physicalMetadata md = pmd := by
    rw [physicalMetadata, hstage 0]
  rw [heq, hcounts]
  exact ⟨hstage stage, hphys⟩

theorem expands_physicalMetadata {md : AFDDPMetadata} (h : Expands md A) :
    Expands (c.physicalMetadata md) A := by
  obtain ⟨phys, hphys, hlen, -⟩ := physicalCounts_ok hF hFA h
  have hcounts := (c.physicalStage_ok hF hA hFA hattn hffn h 0).2
  rw [hphys] at hcounts
  rw [Expands, ← Except.ok.inj hcounts, hlen]
  exact ⟨by omega, dvd_rfl⟩

theorem physicalMetadata_idempotent {md : AFDDPMetadata} (h : Expands md A) :
    c.physicalMetadata (c.physicalMetadata md) = c.physicalMetadata md := by
  obtain ⟨hstage, hcounts⟩ := c.physicalStage_ok hF hA hFA hattn hffn h 0
  have hagain := physicalCounts_idempotent hF (Nat.le_of_dvd hA hFA) hcounts
  have heq : c.physicalStage (0, c.physicalMetadata md) = c.physicalStage (0, md) := by
    simp only [physicalStage, ratio, hattn, hffn, hagain, hcounts]
  rw [physicalMetadata, heq, hstage]

theorem rankCount_physicalMetadata {md : AFDDPMetadata} (h : Expands md A) {a : Nat} (ha : a < A) :
    rankCount (c.physicalMetadata md) A a = (physicalCount md.numTokensAcrossDpCpu A F a).toInt := by
  obtain ⟨phys, hphys, hlen, hget⟩ := physicalCounts_ok hF hFA h
  have hcounts := (c.physicalStage_ok hF hA hFA hattn hffn h 0).2
  rw [hphys] at hcounts
  rw [rankCount_of_le (by rw [← Except.ok.inj hcounts, hlen]), ← Except.ok.inj hcounts, hget a ha]

/-- The whole transformation. -/
theorem physicalPayload_eq {payload : AFDControlPayload}
    (h : ∀ stage md, payload.dpMetadataList.get? stage = some md → Expands md A) :
    c.physicalPayload payload = .ok (if c.ratio ≤ 1 ∨ payload.dpMetadataList.entries.length ≤ 1 then payload
      else { payload with
        dpMetadataList := payload.dpMetadataList.mapVals fun _ md => c.physicalMetadata md }) := by
  unfold physicalPayload
  split
  · rfl
  · have hstages : payload.dpMetadataList.entries.mapM c.physicalStage =
        .ok (payload.dpMetadataList.entries.map fun e => (e.1, c.physicalMetadata e.2)) :=
      Fallible.mapM_ok fun e he =>
        (c.physicalStage_ok hF hA hFA hattn hffn (h e.1 e.2 (Dict.mem_entries_iff.1 he)) e.1).1
    have hdict : Dict.setAll ∅ (payload.dpMetadataList.entries.map fun e => (e.1, c.physicalMetadata e.2)) =
        payload.dpMetadataList.mapVals fun _ md => c.physicalMetadata md :=
      Dict.ext (Dict.entries_empty_setAll (payload.dpMetadataList.mapVals fun _ md =>
        c.physicalMetadata md).nodup)
    simp only [hstages, bind, Except.bind, pure, Except.pure, hdict]

end Payload

theorem physicalMetadata_congr {c c' : CAMP2pAFDConnector} (hattn : c.attnSize = c'.attnSize)
    (hffn : c.ffnSize = c'.ffnSize) (md : AFDDPMetadata) :
    c.physicalMetadata md = c'.physicalMetadata md := by
  simp only [physicalMetadata, physicalStage, ratio, hattn, hffn]

theorem sizes_of_config {A F : Nat} {role : AFDRole} {g : Bool} {c : CAMP2pAFDConnector}
    (hc : c.afdConfig = ⟨role, A, F, g⟩) : 0 < F ∧ F ≤ A ∧ c.attnSize = A ∧ c.ffnSize = F := by
  obtain ⟨hF, hFA, hAt, hFt, -⟩ := accepted_of_buildCamp2pTopology c.built
  rw [hc] at hF hFA hAt hFt
  exact ⟨hF, hFA, hAt, hFt⟩

/-- The stages of a physical payload. -/
theorem get?_physicalPayload {A F : Nat} {role : AFDRole} {g : Bool} {c : CAMP2pAFDConnector}
    (hc : c.afdConfig = ⟨role, A, F, g⟩) (hFA : F ∣ A) {payload : AFDControlPayload}
    (h : ∀ stage md, payload.dpMetadataList.get? stage = some md → Expands md A) :
    ∃ phys, c.physicalPayload payload = .ok phys ∧ phys.dpMetadataList.keys = payload.dpMetadataList.keys ∧
      phys = { payload with dpMetadataList := phys.dpMetadataList } ∧
      ∀ stage, phys.dpMetadataList.get? stage = (payload.dpMetadataList.get? stage).map
        (if c.ratio ≤ 1 ∨ payload.dpMetadataList.entries.length ≤ 1 then id else c.physicalMetadata) := by
  obtain ⟨hF, hle, hattn, hffn⟩ := sizes_of_config hc
  have hphys := c.physicalPayload_eq hF (by omega) hFA hattn hffn h
  refine ⟨_, hphys, ?_, ?_, fun stage => ?_⟩ <;> split
  · rfl
  · exact Dict.keys_mapVals _ _
  · rfl
  · rfl
  · simp
  · exact Dict.get?_mapVals _ _ _

section Agreement
variable {A F : Nat} {role : AFDRole} {g : Bool} {c : CAMP2pAFDConnector}
  (hc : c.afdConfig = ⟨role, A, F, g⟩) (hFA : F ∣ A) {payload phys : AFDControlPayload}
  (hexp : ∀ stage md, payload.dpMetadataList.get? stage = some md → Expands md A)
  (hphys : c.physicalPayload payload = .ok phys)
include hc hFA hexp hphys

theorem length_physicalPayload :
    phys.dpMetadataList.entries.length = payload.dpMetadataList.entries.length := by
  obtain ⟨p, hp, hkeys, -⟩ := get?_physicalPayload hc hFA hexp
  obtain rfl : p = phys := Except.ok.inj (hp.symm.trans hphys)
  simpa [Dict.keys] using congrArg List.length hkeys

theorem expands_physicalPayload {stage : Int} {pmd : AFDDPMetadata}
    (h : phys.dpMetadataList.get? stage = some pmd) :
    Expands pmd A := by
  obtain ⟨hF, hle, hattn, hffn⟩ := sizes_of_config hc
  obtain ⟨p, hp, -, -, hget⟩ := get?_physicalPayload hc hFA hexp
  obtain rfl : p = phys := Except.ok.inj (hp.symm.trans hphys)
  rw [hget, Option.map_eq_some_iff] at h
  obtain ⟨md, hmd, rfl⟩ := h
  split
  · exact hexp stage md hmd
  · exact c.expands_physicalMetadata hF (by omega) hFA hattn hffn (hexp stage md hmd)

/-- A physical stage is its own physical stage. -/
theorem get?_physicalPayload_again (stage : Int) :
    (phys.dpMetadataList.get? stage).map
      (if c.ratio ≤ 1 ∨ payload.dpMetadataList.entries.length ≤ 1 then id else c.physicalMetadata) =
        phys.dpMetadataList.get? stage := by
  obtain ⟨hF, hle, hattn, hffn⟩ := sizes_of_config hc
  obtain ⟨p, hp, -, -, hget⟩ := get?_physicalPayload hc hFA hexp
  obtain rfl : p = phys := Except.ok.inj (hp.symm.trans hphys)
  rw [hget, Option.map_map]
  refine Option.map_congr fun md hmd => ?_
  split
  · rfl
  · exact c.physicalMetadata_idempotent hF (by omega) hFA hattn hffn (hexp stage md hmd)

theorem physicalPayload_idempotent : c.physicalPayload phys = .ok phys := by
  obtain ⟨hF, hle, hattn, hffn⟩ := sizes_of_config hc
  rw [c.physicalPayload_eq hF (by omega) hFA hattn hffn fun stage pmd => expands_physicalPayload hc hFA
    hexp hphys, length_physicalPayload hc hFA hexp hphys]
  split
  · rfl
  · rename_i hseveral
    have hdict : phys.dpMetadataList.mapVals (fun _ md => c.physicalMetadata md) = phys.dpMetadataList := by
      apply Dict.ext
      conv_rhs => rw [← List.map_id phys.dpMetadataList.entries]
      refine List.map_congr_left fun e he => ?_
      have hstage := get?_physicalPayload_again hc hFA hexp hphys e.1
      rw [Dict.mem_entries_iff.1 he, if_neg hseveral, Option.map_some] at hstage
      exact Prod.ext rfl (Option.some.inj hstage)
    rw [hdict]

/-- What another process derives from the physical payload it decodes. -/
theorem updateState_of_wire {role' : AFDRole} {g' : Bool} {c' : CAMP2pAFDConnector}
    (hc' : c'.afdConfig = ⟨role', A, F, g'⟩) :
    ∃ wire c₁ c₂, decodeControlPayload (encodeControlPayload phys) = .ok wire ∧
      c.updateStateFromDpMetadata payload = .ok c₁ ∧ c'.updateStateFromDpMetadata wire = .ok c₂ ∧
      c₁.dpMetadataList = phys.dpMetadataList ∧
      (∀ stage, c₂.dpMetadataList.get? stage = c₁.dpMetadataList.get? stage) ∧
      c₂.isGraphCapturing = c₁.isGraphCapturing ∧ c₂.isWarmup = c₁.isWarmup := by
  obtain ⟨-, -, hattn, hffn⟩ := sizes_of_config hc
  obtain ⟨-, -, hattn', hffn'⟩ := sizes_of_config hc'
  obtain ⟨d, hperm, hwire⟩ := decodeControlPayload_encode phys
  have hwireGet : ∀ stage, d.get? stage = phys.dpMetadataList.get? stage := Dict.get?_eq_of_perm hperm
  obtain ⟨phys', hphys', -, -, hget'⟩ := @get?_physicalPayload A F role' g' c' hc' hFA { phys with
    dpMetadataList := d } fun stage md hmd =>
    expands_physicalPayload hc hFA hexp hphys (hwireGet stage ▸ hmd)
  obtain ⟨p, hp, -, hfields, -⟩ := get?_physicalPayload hc hFA hexp
  obtain rfl : p = phys := Except.ok.inj (hp.symm.trans hphys)
  have hcapturing := congrArg AFDControlPayload.isGraphCapturing hfields
  have hwarmup := congrArg AFDControlPayload.isWarmup hfields
  refine ⟨_, _, _, hwire, by rw [updateStateFromDpMetadata, hphys]; rfl,
    by rw [updateStateFromDpMetadata, hphys']; rfl, rfl, fun stage => ?_, hcapturing, hwarmup⟩
  have hratio : c'.ratio = c.ratio := by rw [ratio, ratio, hattn, hattn', hffn, hffn']
  have hcongr : c'.physicalMetadata = c.physicalMetadata :=
    funext (physicalMetadata_congr (by rw [hattn, hattn']) (by rw [hffn, hffn']))
  dsimp only
  rw [hget', hratio, hcongr, hwireGet, show d.entries.length = payload.dpMetadataList.entries.length from
    hperm.length_eq.trans (length_physicalPayload hc hFA hexp hphys)]
  exact get?_physicalPayload_again hc hFA hexp hphys stage

/-- What a stage of the physical payload says about the Attention ranks. -/
theorem physicalPayload_stage {stage : Int} {md : AFDDPMetadata}
    (hmd : payload.dpMetadataList.get? stage = some md) :
    ∃ pmd, phys.dpMetadataList.get? stage = some pmd ∧
      (1 < payload.dpMetadataList.keys.length →
        ∀ a < A, ∀ a' < A, a % F = a' % F → rankCount pmd A a = rankCount pmd A a') ∧
      ∀ a < A, rankCount md A a ≤ rankCount pmd A a := by
  obtain ⟨hF, hle, hattn, hffn⟩ := sizes_of_config hc
  obtain ⟨p, hp, -, -, hget⟩ := get?_physicalPayload hc hFA hexp
  obtain rfl : p = phys := Except.ok.inj (hp.symm.trans hphys)
  have hA : 0 < A := by omega
  have hmdA := hexp stage md hmd
  refine ⟨_, by rw [hget, hmd, Option.map_some], fun hseveral a ha a' ha' hmod => ?_, fun a ha => ?_⟩
  · split
    · rename_i hone
      -- one stage is ruled out, so every group is one rank
      have hsame : A / F ≤ 1 := by
        rcases hone with hone | hone
        · rwa [ratio, hattn, hffn] at hone
        · rw [Dict.keys, List.length_map] at hseveral
          omega
      have hAF : A = F := by
        have hmul := Nat.div_mul_cancel hFA
        have := Nat.mul_le_mul_right F hsame
        omega
      rw [Nat.mod_eq_of_lt (by omega), Nat.mod_eq_of_lt (by omega)] at hmod
      rw [hmod]
    · rw [c.rankCount_physicalMetadata hF hA hFA hattn hffn hmdA ha,
        c.rankCount_physicalMetadata hF hA hFA hattn hffn hmdA ha', physicalCount_congr _ _ hmod]
  · split
    · exact le_rfl
    · rw [c.rankCount_physicalMetadata hF hA hFA hattn hffn hmdA ha, rankCount_of_expands hmdA ha]
      exact le_physicalCount hF hFA hmdA ha

end Agreement

end CAMP2pAFDConnector

open CAMP2pAFDConnector in
/-- The physical payload: transforming it again changes nothing, so the state a
sender keeps is the state an FFN rank derives from the payload on the wire;
stages and flags are kept; with several stages the ranks of a group get one
count, and never less than their own; and both derivations of an FFN rank's
rows give the sum of its group's counts, at least 1. -/
theorem physical_payload_agreement {A F : Nat} (hFA : F ∣ A) {g g' : Bool} (ca cf : CAMP2pAFDConnector)
    (hca : ca.afdConfig = ⟨.attention, A, F, g⟩) (hcf : cf.afdConfig = ⟨.ffn, A, F, g'⟩)
    (payload : AFDControlPayload)
    (hexp : ∀ stage md, payload.dpMetadataList.get? stage = some md → Expands md A) :
    ∃ phys, ca.physicalPayload payload = .ok phys ∧ ca.physicalPayload phys = .ok phys ∧
      (∃ wire ca' cf', decodeControlPayload (encodeControlPayload phys) = .ok wire ∧
        ca.updateStateFromDpMetadata payload = .ok ca' ∧ cf.updateStateFromDpMetadata wire = .ok cf' ∧
        ca'.dpMetadataList = phys.dpMetadataList ∧
        (∀ stage, cf'.dpMetadataList.get? stage = ca'.dpMetadataList.get? stage) ∧
        cf'.isGraphCapturing = ca'.isGraphCapturing ∧ cf'.isWarmup = ca'.isWarmup) ∧
      phys.dpMetadataList.keys = payload.dpMetadataList.keys ∧
      phys = { payload with dpMetadataList := phys.dpMetadataList } ∧
      ∀ stage md, payload.dpMetadataList.get? stage = some md →
        ∃ pmd, phys.dpMetadataList.get? stage = some pmd ∧
          (1 < payload.dpMetadataList.keys.length →
            ∀ a < A, ∀ a' < A, a % F = a' % F → rankCount pmd A a = rankCount pmd A a') ∧
          (∀ a < A, rankCount md A a ≤ rankCount pmd A a) ∧
          (∀ f < F, ∀ fallback, numTokensForFfnRank phys.dpMetadataList stage f A F fallback =
            .ok (max 1 (groupTokens pmd A F f))) ∧
          ∀ fallback, (∀ f < F, groupTokens pmd A F f < 2 ^ 31) →
            ∃ values, ffnTokenCountsAcrossRanks A F phys.dpMetadataList stage fallback = .ok values ∧
              ∀ f < F, ffnTokenCountForRank f values = max 1 (groupTokens pmd A F f) := by
  obtain ⟨hF, hle, -⟩ := sizes_of_config hca
  have hA : 0 < A := by omega
  obtain ⟨phys, hphys, hkeys, hfields, -⟩ := get?_physicalPayload hca hFA hexp
  refine ⟨phys, hphys, physicalPayload_idempotent hca hFA hexp hphys,
    updateState_of_wire hca hFA hexp hphys hcf, hkeys, hfields, fun stage md hmd => ?_⟩
  obtain ⟨pmd, hpmd, hequal, hreal⟩ := physicalPayload_stage hca hFA hexp hphys hmd
  have hcomplete : Complete pmd A := .inr (expands_physicalPayload hca hFA hexp hphys hpmd)
  refine ⟨pmd, hpmd, hequal, hreal, fun f hf fallback => ?_, fun fallback hfit => ?_⟩
  · exact numTokensForFfnRank_eq hpmd hcomplete hFA hA hf fallback
  · exact ffnTokenCountForRank_eq hpmd hcomplete hFA hA hfit fallback

/-- Two DP ranks of two TP workers each, on two FFN ranks, with two stages. -/
theorem physical_payload_agreement_four_two :
    ∃ phys, (⟨⟨.attention, 4, 2, false⟩, 1, _, rfl, ∅, false, false⟩ : CAMP2pAFDConnector).physicalPayload
        ⟨((∅ : Dict Int AFDDPMetadata).set 0 ⟨[5, 7], 7⟩).set 1 ⟨[3, 2], 3⟩, false, true, false,
          false⟩ = .ok phys ∧
      phys.dpMetadataList.keys = [0, 1] :=
  (physical_payload_agreement (A := 4) (F := 2) (by decide) ⟨⟨.attention, 4, 2, false⟩, 1, _, rfl, ∅,
      false, false⟩ ⟨⟨.ffn, 4, 2, false⟩, 0, _, rfl, ∅, false, false⟩
      rfl rfl ⟨((∅ : Dict Int AFDDPMetadata).set 0 ⟨[5, 7], 7⟩).set 1 ⟨[3, 2], 3⟩, false, true,
        false, false⟩ (by
      intro stage md h
      have hmem := Dict.mem_entries_iff.2 h
      rcases List.mem_cons.1 hmem with heq | hmem
      · cases heq
        exact ⟨by decide, by decide⟩
      · cases List.mem_singleton.1 hmem
        exact ⟨by decide, by decide⟩)).imp fun _ h => ⟨h.1, h.2.2.2.1⟩

/-- One stage is left as it is: ranks 0 and 2 of one group keep different
counts, the empty group of ranks 1 and 3 is expected to send a row, and the
runner's tensor cannot hold the first group's sum. -/
theorem one_stage_keeps_counts :
    (⟨⟨.attention, 4, 2, false⟩, 0, _, rfl, ∅, false, false⟩ : CAMP2pAFDConnector).physicalPayload
        ⟨(∅ : Dict Int AFDDPMetadata).set 0 ⟨[1, 0, 2147483647, 0], 2147483647⟩, false, false,
          false, false⟩ =
      .ok ⟨(∅ : Dict Int AFDDPMetadata).set 0 ⟨[1, 0, 2147483647, 0], 2147483647⟩, false, false,
        false, false⟩ ∧
    rankCount ⟨[1, 0, 2147483647, 0], 2147483647⟩ 4 0 ≠ rankCount ⟨[1, 0, 2147483647, 0], 2147483647⟩ 4 2 ∧
    groupTokens ⟨[1, 0, 2147483647, 0], 2147483647⟩ 4 2 1 = 0 ∧
    numTokensForFfnRank ((∅ : Dict Int AFDDPMetadata).set 0 ⟨[1, 0, 2147483647, 0], 2147483647⟩) 0 1 4 2
      4096 = .ok 1 ∧
    ffnTokenCountsAcrossRanks 4 2
      ((∅ : Dict Int AFDDPMetadata).set 0 ⟨[1, 0, 2147483647, 0], 2147483647⟩) 0 4096 =
      .error "value cannot be converted to type int without overflow" := by
  refine ⟨rfl, by decide, by decide, by decide, by rfl⟩

end AfdPlugin.Camp2p
