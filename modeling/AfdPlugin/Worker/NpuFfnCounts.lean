import AfdPlugin.Connectors.Camp2pCounts
/-!
# Counts in an NPU FFN rank's forward context

Every FFN rank has a total of its own, that of the Attention ranks `f`, `f + F`,
…. The forward context has one count for each FFN DP rank, so the runner keeps
one total of each TP group: the first, taken to be that of all of them.
-/

namespace AfdPlugin.Camp2p

/-- The number of ranks of the process's role. -/
def configuredRanks (config : AFDConfig) : Nat :=
  match config.role with
  | .attention => config.numAttentionRanks
  | .ffn => config.numFfnRanks

/-- The check of `validate_npu_model_runner_v2_config` on this number. -/
def validateRanks (config : AFDConfig) (dataParallelSize tensorParallelSize : Nat) : Except String Unit :=
  let expectedRole := match config.role with
    | .attention => "attention"
    | .ffn => "ffn"
  let distributedRanks := dataParallelSize * tensorParallelSize
  if configuredRanks config ≠ distributedRanks then
    .error (s!"AFD ModelRunnerV2 {expectedRole} ranks must match DP * TP: " ++
      s!"configured={configuredRanks config}, distributed={distributedRanks}")
  else .ok ()

/-- `_to_dp_level_token_counts`. -/
def toDpLevelTokenCounts (numTokensAcrossDp : List Int32) (dpSize : Nat) : List Int32 :=
  let numel := numTokensAcrossDp.length
  if numel = dpSize then numTokensAcrossDp
  else if dpSize = 0 ∨ numel % dpSize ≠ 0 then numTokensAcrossDp
  else
    let tpSize := numel / dpSize
    (List.range dpSize).map fun dpIdx => numTokensAcrossDp.getD (dpIdx * tpSize) 0

/-- A stage of `_ffn_forward`: the counts that its forward context is built from,
and the rows that it receives. -/
structure ForwardStage where
  numTokens : Int
  numTokensAcrossDp : List Int32
  batchSize : Int
  deriving DecidableEq, Repr

namespace CAMP2pAFDConnector

/-- `send_dp_metadata_list` to a process that decodes what it gets. -/
def deliver (c : CAMP2pAFDConnector) (payload : AFDControlPayload) : Except String AFDControlPayload := do
  let physical ← c.physicalPayload payload
  decodeControlPayload (encodeControlPayload physical)

/-- A physical stage is kept by every process of the deployment. -/
theorem physicalStage_idempotent {ca c : CAMP2pAFDConnector} (hattn : c.attnSize = ca.attnSize)
    (hffn : c.ffnSize = ca.ffnSize) {item phys : Int × AFDDPMetadata}
    (h : ca.physicalStage item = .ok phys) :
    c.physicalStage phys = .ok phys := by
  obtain ⟨hF, hFA, hAt, hFt, -⟩ := accepted_of_buildCamp2pTopology ca.built
  rw [← hAt, ← hFt] at hFA
  rw [← hFt] at hF
  obtain ⟨counts, hcounts, h⟩ := Fallible.bind_eq_ok.1 h
  obtain ⟨md, hmd, h⟩ := Fallible.bind_eq_ok.1 h
  cases h
  have hlist : md.numTokensAcrossDpCpu = counts := by
    cases counts with
    | nil => cases hmd
    | cons n rest =>
      cases hmd
      rfl
  have hagain := physicalCounts_idempotent hF hFA hcounts
  unfold physicalStage ratio
  rw [hattn, hffn, hlist]
  unfold attnSize ffnSize
  rw [hagain, Fallible.ok_bind, hmd]
  rfl

/-- A process that gets a payload keeps its stages as they were sent, whatever
they are and under whatever flags. -/
theorem physicalPayload_delivered {ca c : CAMP2pAFDConnector} (hattn : c.attnSize = ca.attnSize)
    (hffn : c.ffnSize = ca.ffnSize) {payload wire kept : AFDControlPayload}
    (h : ca.deliver payload = .ok wire) (hkept : kept.dpMetadataList = wire.dpMetadataList) :
    c.physicalPayload kept = .ok kept := by
  have hratio : c.ratio = ca.ratio := by rw [ratio, ratio, hattn, hffn]
  obtain ⟨phys, hphys, hwire⟩ := Fallible.bind_eq_ok.1 h
  obtain ⟨d, hperm, hdecode⟩ := decodeControlPayload_encode phys
  obtain rfl : { phys with dpMetadataList := d } = wire := Except.ok.inj (hdecode.symm.trans hwire)
  obtain ⟨dpMetadataList, capturing, warmup, replaying, profile⟩ := kept
  obtain rfl : dpMetadataList = d := hkept
  rename' dpMetadataList => d
  unfold physicalPayload at hphys ⊢
  split at hphys
  · rename_i hone
    cases hphys
    rw [if_pos (by rw [hratio]; exact hone.imp id fun hlen => hperm.length_eq.trans_le hlen)]
  · rename_i hseveral
    obtain ⟨items, hitems, hphys⟩ := Fallible.bind_eq_ok.1 hphys
    cases hphys
    have hkeys : items.map Prod.fst = payload.dpMetadataList.entries.map Prod.fst := by
      refine Fallible.map_fst_mapM (fun x y hxy => ?_) hitems
      obtain ⟨counts, -, hxy⟩ := Fallible.bind_eq_ok.1 hxy
      obtain ⟨md, -, hxy⟩ := Fallible.bind_eq_ok.1 hxy
      cases hxy
      rfl
    have hentries : (Dict.setAll ∅ items : Dict Int AFDDPMetadata).entries = items :=
      Dict.entries_empty_setAll (by rw [hkeys]; exact payload.dpMetadataList.nodup)
    have hitem : ∀ {l r : List (Int × AFDDPMetadata)},
        List.Forall₂ (fun x y => ca.physicalStage x = .ok y) l r →
        ∀ y ∈ r, c.physicalStage y = .ok y := by
      intro l r hall
      induction hall with
      | nil =>
        intro y hy
        cases hy
      | cons hxy _ ih => exact List.forall_mem_cons.2 ⟨physicalStage_idempotent hattn hffn hxy, ih⟩
    have hlen : d.entries.length = payload.dpMetadataList.entries.length := by
      have hlen := congrArg List.length hkeys
      rw [List.length_map, List.length_map] at hlen
      exact hperm.length_eq.trans ((congrArg List.length hentries).trans hlen)
    have hstages : d.entries.mapM c.physicalStage = .ok (d.entries.map id) :=
      Fallible.mapM_ok fun y hy => hitem (Fallible.mapM_ok_iff.1 hitems) y (hentries ▸ hperm.mem_iff.1 hy)
    rw [List.map_id] at hstages
    have hdict : Dict.setAll ∅ d.entries = d := Dict.ext (Dict.entries_empty_setAll d.nodup)
    rw [if_neg (by rw [hratio, hlen]; exact hseveral), hstages, Fallible.ok_bind, hdict]
    rfl

/-- The body of `_ffn_forward`'s loop over the layers and the stages. -/
def ffnForwardStage (c : CAMP2pAFDConnector) (dataParallelSize : Nat) (maxNumTokens : Int)
    (dpMetadataList : Dict Int AFDDPMetadata) (stageIdx : Int) : Except String ForwardStage := do
  let numTokensAcrossDp ← ffnTokenCountsAcrossRanks c.attnSize c.ffnSize dpMetadataList stageIdx
    maxNumTokens
  let numTokens := ffnTokenCountForRank c.topology.roleRank numTokensAcrossDp
  let dpNumTokensAcrossDp := toDpLevelTokenCounts numTokensAcrossDp dataParallelSize
  -- the connector sizes the receive from its own state
  let batchSize ← numTokensForFfnRank c.dpMetadataList stageIdx c.topology.roleRank c.attnSize c.ffnSize
    maxNumTokens
  pure ⟨numTokens, dpNumTokensAcrossDp, batchSize⟩

end CAMP2pAFDConnector

/-- The context has one count for each FFN DP rank, and for this rank's the rows
it receives. -/
def InstallsRows (dp tp f : Nat) (stage : ForwardStage) : Prop :=
  stage.numTokensAcrossDp.length = dp ∧ (stage.numTokensAcrossDp.getD (f / tp) 0).toInt = stage.batchSize

instance (dp tp f : Nat) (stage : ForwardStage) : Decidable (InstallsRows dp tp f stage) := by
  unfold InstallsRows; infer_instance

/-! ## One count for each DP rank -/

section Project
variable {dp tp : Nat}

/-- The projection keeps the first of every `tp` values. -/
theorem toDpLevelTokenCounts_eq {values : List Int32} (hdp : 0 < dp) (htp : 0 < tp)
    (h : values.length = dp * tp) :
    (toDpLevelTokenCounts values dp).length = dp ∧
      ∀ d < dp, (toDpLevelTokenCounts values dp).getD d 0 = values.getD (d * tp) 0 := by
  unfold toDpLevelTokenCounts
  dsimp only
  split
  · rename_i heq
    obtain rfl : tp = 1 := Nat.eq_of_mul_eq_mul_left hdp (by omega)
    exact ⟨heq, fun d _ => by rw [Nat.mul_one]⟩
  · rw [if_neg (by rw [h, Nat.mul_mod_right]; omega)]
    refine ⟨by simp, fun d hd => ?_⟩
    rw [List.getD_eq_getElem _ _ (by simpa using hd), List.getElem_map, List.getElem_range, h,
      Nat.mul_div_cancel_left tp hdp]

/-- The first rank of a TP group. -/
theorem groupStart_lt (htp : 0 < tp) {f : Nat} (hf : f < dp * tp) : f / tp < dp ∧ f / tp * tp < dp * tp :=
  ⟨(Nat.div_lt_iff_lt_mul htp).2 hf, (Nat.div_mul_le_self f tp).trans_lt hf⟩

end Project

/-! ## Installed counts and received rows -/

/-- The condition under which FFN rank `f` of a TP group gets its own total: all
totals fit the tensor, and its total is that of the group's first rank. -/
def OwnTotal (md : AFDDPMetadata) (A F tp f : Nat) : Prop :=
  (∀ g < F, groupTokens md A F g < 2 ^ 31) ∧
    max 1 (groupTokens md A F f) = max 1 (groupTokens md A F (f / tp * tp))

instance (md : AFDDPMetadata) (A F tp f : Nat) : Decidable (OwnTotal md A F tp f) :=
  inferInstanceAs (Decidable (_ ∧ _))

section Stage
variable {A F dp tp : Nat} {c : CAMP2pAFDConnector} {d : Dict Int AFDDPMetadata} {stage : Int}
  {md : AFDDPMetadata}

/-- What a stage installs, when the totals fit. -/
theorem ffnForwardStage_ok (hdp : 0 < dp) (htp : 0 < tp) (hF : F = dp * tp) (hFA : F ∣ A) (hA : 0 < A)
    (hattn : c.attnSize = A) (hffn : c.ffnSize = F) (hf : c.topology.roleRank < F)
    (hd : d.get? stage = some md) (hc : c.dpMetadataList.get? stage = some md) (h : Complete md A)
    (hfit : ∀ g < F, groupTokens md A F g < 2 ^ 31) (maxNumTokens : Int) :
    ∃ out, c.ffnForwardStage dp maxNumTokens d stage = .ok out ∧ out.numTokensAcrossDp.length = dp ∧
      (∀ k < dp, (out.numTokensAcrossDp.getD k 0).toInt = max 1 (groupTokens md A F (k * tp))) ∧
      out.batchSize = max 1 (groupTokens md A F c.topology.roleRank) := by
  let values := (List.range F).map fun g => Int32.ofInt (max 1 (groupTokens md A F g))
  have hvalues : ffnTokenCountsAcrossRanks A F d stage maxNumTokens = .ok values := by
    rw [ffnTokenCountsAcrossRanks_eq hd h hFA hA]
    exact Fallible.mapM_map_ok fun g hg => (toInt32_max_one (hfit g (List.mem_range.1 hg))).1
  have hvaluesLength : values.length = dp * tp := by simp [values, hF]
  obtain ⟨hlen, hget⟩ := toDpLevelTokenCounts_eq hdp htp hvaluesLength
  refine ⟨⟨ffnTokenCountForRank c.topology.roleRank values, toDpLevelTokenCounts values dp,
    max 1 (groupTokens md A F c.topology.roleRank)⟩, ?_, hlen, fun k hk => ?_, rfl⟩
  · simp only [CAMP2pAFDConnector.ffnForwardStage, hattn, hffn, hvalues,
      numTokensForFfnRank_eq hc h hFA hA hf, Fallible.ok_bind, pure, Except.pure]
    rfl
  · have hlt : k * tp < F := by
      rw [hF]
      exact Nat.mul_lt_mul_of_pos_right hk htp
    rw [hget k hk, List.getD_eq_getElem _ _ (by simpa [values] using hlt)]
    simp only [values, List.getElem_map, List.getElem_range]
    exact (toInt32_max_one (hfit _ hlt)).2

/-- A stage that runs has totals that fit. -/
theorem fit_of_ffnForwardStage (hFA : F ∣ A) (hA : 0 < A) (hattn : c.attnSize = A) (hffn : c.ffnSize = F)
    (hd : d.get? stage = some md) (h : Complete md A) {maxNumTokens : Int} {out : ForwardStage}
    (hout : c.ffnForwardStage dp maxNumTokens d stage = .ok out) {g : Nat} (hg : g < F) :
    groupTokens md A F g < 2 ^ 31 := by
  unfold CAMP2pAFDConnector.ffnForwardStage at hout
  rw [hattn, hffn] at hout
  obtain ⟨values, hvalues, -⟩ := Fallible.bind_eq_ok.1 hout
  rw [ffnTokenCountsAcrossRanks_eq hd h hFA hA] at hvalues
  obtain ⟨v, hv⟩ := Fallible.exists_of_mapM_ok hvalues (List.mem_map_of_mem (List.mem_range.2 hg))
  unfold toInt32 at hv
  split at hv
  · rename_i hfit
    exact (le_max_right _ _).trans_lt hfit.2
  · cases hv

/-- A rank's context holds its rows exactly when its total is the first of its
group's. -/
theorem installsRows_iff (hdp : 0 < dp) (htp : 0 < tp) (hF : F = dp * tp) (hFA : F ∣ A) (hA : 0 < A)
    (hattn : c.attnSize = A) (hffn : c.ffnSize = F) (hf : c.topology.roleRank < F)
    (hd : d.get? stage = some md) (hc : c.dpMetadataList.get? stage = some md) (h : Complete md A)
    (maxNumTokens : Int) :
    (∃ out, c.ffnForwardStage dp maxNumTokens d stage = .ok out ∧
      InstallsRows dp tp c.topology.roleRank out) ↔
      OwnTotal md A F tp c.topology.roleRank := by
  have hk : c.topology.roleRank / tp < dp := (groupStart_lt htp (by rwa [← hF])).1
  constructor
  · rintro ⟨out, hout, -, hrows⟩
    have hfit : ∀ g < F, groupTokens md A F g < 2 ^ 31 := fun g =>
      fit_of_ffnForwardStage hFA hA hattn hffn hd h hout
    obtain ⟨out', hout', -, hget, hbatch⟩ :=
      ffnForwardStage_ok hdp htp hF hFA hA hattn hffn hf hd hc h hfit maxNumTokens
    obtain rfl : out' = out := Except.ok.inj (hout'.symm.trans hout)
    rw [hget _ hk, hbatch] at hrows
    exact ⟨hfit, hrows.symm⟩
  · rintro ⟨hfit, htotal⟩
    obtain ⟨out, hout, hlen, hget, hbatch⟩ :=
      ffnForwardStage_ok hdp htp hF hFA hA hattn hffn hf hd hc h hfit maxNumTokens
    exact ⟨out, hout, hlen, by rw [hget _ hk, hbatch, htotal]⟩

end Stage

/-! ## Delivered payloads -/

section Payload
variable {A F : Nat} {role role' : AFDRole} {g g' : Bool} {ca c : CAMP2pAFDConnector}
  (hca : ca.afdConfig = ⟨role, A, F, g⟩) (hc : c.afdConfig = ⟨role', A, F, g'⟩) (hFA : F ∣ A)
  {payload : AFDControlPayload}
  (hexp : ∀ stage md, payload.dpMetadataList.get? stage = some md → Expands md A)
include hca hc hFA hexp

/-- A delivered payload is the physical one, and its stages are those that the
receiver's connector keeps. -/
theorem exists_delivered (isGraphCapturing : Bool) :
    ∃ phys wire c', ca.physicalPayload payload = .ok phys ∧ ca.deliver payload = .ok wire ∧
      c.updateStateFromDpMetadata ⟨wire.dpMetadataList, isGraphCapturing, false, false, false⟩ = .ok c' ∧
      c'.topology = c.topology ∧ ∀ stage md, phys.dpMetadataList.get? stage = some md →
        Expands md A ∧ wire.dpMetadataList.get? stage = some md ∧
          c'.dpMetadataList.get? stage = some md := by
  obtain ⟨-, -, hattn, hffn⟩ := CAMP2pAFDConnector.sizes_of_config hca
  obtain ⟨-, -, hattn', hffn'⟩ := CAMP2pAFDConnector.sizes_of_config hc
  obtain ⟨phys, hphys, -⟩ := CAMP2pAFDConnector.get?_physicalPayload hca hFA hexp
  obtain ⟨d, hperm, hwire⟩ := decodeControlPayload_encode phys
  have hget : ∀ stage, d.get? stage = phys.dpMetadataList.get? stage := Dict.get?_eq_of_perm hperm
  have hexp' : ∀ stage md, phys.dpMetadataList.get? stage = some md → Expands md A := fun stage md =>
    CAMP2pAFDConnector.expands_physicalPayload hca hFA hexp hphys
  obtain ⟨phys', hphys', -, -, hget'⟩ := @CAMP2pAFDConnector.get?_physicalPayload A F role' g' c hc hFA
    ⟨d, isGraphCapturing, false, false, false⟩ fun stage md hmd => hexp' stage md (hget stage ▸ hmd)
  have hwired : ca.deliver payload = .ok { phys with dpMetadataList := d } := by
    rw [CAMP2pAFDConnector.deliver, hphys, Fallible.ok_bind, hwire]
  have hstate : c.updateStateFromDpMetadata ⟨d, isGraphCapturing, false, false, false⟩ =
      .ok { c with
        dpMetadataList := phys'.dpMetadataList
        isGraphCapturing := isGraphCapturing
        isWarmup := false } := by
    rw [CAMP2pAFDConnector.updateStateFromDpMetadata, hphys']
    rfl
  refine ⟨phys, _, _, hphys, hwired, hstate, rfl, fun stage md hmd => ⟨hexp' stage md hmd, ?_, ?_⟩⟩
  · rw [hget, hmd]
  · have hagain := CAMP2pAFDConnector.get?_physicalPayload_again hca hFA hexp hphys stage
    have hratio : c.ratio = ca.ratio := by
      rw [CAMP2pAFDConnector.ratio, CAMP2pAFDConnector.ratio, hattn, hattn', hffn, hffn']
    have hcongr : c.physicalMetadata = ca.physicalMetadata :=
      funext (CAMP2pAFDConnector.physicalMetadata_congr (by rw [hattn, hattn']) (by rw [hffn, hffn']))
    have hlen : d.entries.length = payload.dpMetadataList.entries.length :=
      hperm.length_eq.trans (CAMP2pAFDConnector.length_physicalPayload hca hFA hexp hphys)
    dsimp only
    rw [hget', hratio, hcongr, hget, hlen, hagain, hmd]

end Payload

theorem validateRanks_eq_ok {config : AFDConfig} {dp tp : Nat} (h : validateRanks config dp tp = .ok ()) :
    configuredRanks config = dp * tp := by
  unfold validateRanks at h
  by_contra hne
  rw [if_pos hne] at h
  cases h

/-- In an accepted deployment, a stage of any payload installs at an FFN rank one
count for each FFN DP rank, and for its own DP rank the rows it receives, exactly
when the rank's total is that of the first rank of its TP group. -/
theorem dp_level_counts_iff {A F dpA tpA dpF tpF : Nat} {ga g : Bool} {ca c : CAMP2pAFDConnector}
    (hca : ca.afdConfig = ⟨.attention, A, F, ga⟩) (hc : c.afdConfig = ⟨.ffn, A, F, g⟩) (hFA : F ∣ A)
    (hattn : validateRanks ca.afdConfig dpA tpA = .ok ())
    (hffn : validateRanks c.afdConfig dpF tpF = .ok ()) {payload : AFDControlPayload}
    (hpayload : ∀ stage md, payload.dpMetadataList.get? stage = some md →
      md.numTokensAcrossDpCpu.length = dpA) (maxNumTokens : Int) (isGraphCapturing : Bool) :
    ∃ phys wire c', ca.physicalPayload payload = .ok phys ∧ ca.deliver payload = .ok wire ∧
      c.updateStateFromDpMetadata ⟨wire.dpMetadataList, isGraphCapturing, false, false, false⟩ = .ok c' ∧
      ∀ stage md, payload.dpMetadataList.get? stage = some md →
        ∃ pmd, phys.dpMetadataList.get? stage = some pmd ∧
        ((∃ out, c'.ffnForwardStage dpF maxNumTokens wire.dpMetadataList stage = .ok out ∧
          InstallsRows dpF tpF c.topology.roleRank out) ↔ OwnTotal pmd A F tpF c.topology.roleRank) := by
  have hA : A = dpA * tpA := by
    have h := validateRanks_eq_ok hattn
    rwa [hca] at h
  have hF : F = dpF * tpF := by
    have h := validateRanks_eq_ok hffn
    rwa [hc] at h
  obtain ⟨hFpos, hle, -⟩ := CAMP2pAFDConnector.sizes_of_config hca
  obtain ⟨-, -, hattnSize, hffnSize⟩ := CAMP2pAFDConnector.sizes_of_config hc
  have hdpA : 0 < dpA := Nat.pos_of_ne_zero fun h => by simp [h] at hA; omega
  have hdpF : 0 < dpF := Nat.pos_of_ne_zero fun h => by simp [h] at hF; omega
  have htpF : 0 < tpF := Nat.pos_of_ne_zero fun h => by simp [h] at hF; omega
  have hexp : ∀ stage md, payload.dpMetadataList.get? stage = some md → Expands md A := by
    intro stage md hmd
    rw [Expands, hpayload stage md hmd, hA]
    exact ⟨hdpA.ne', Dvd.intro _ rfl⟩
  obtain ⟨-, -, -, -, -, n, -, hn, hlt⟩ := accepted_of_buildCamp2pTopology c.built
  have hf : c.topology.roleRank < F := by
    rw [hc] at hlt
    rwa [hn]
  obtain ⟨phys, wire, c', hphys, hwire, hstate, htopology, hstages⟩ :=
    exists_delivered hca hc hFA hexp isGraphCapturing
  refine ⟨phys, wire, c', hphys, hwire, hstate, fun stage md hmd => ?_⟩
  obtain ⟨pmd, hpmd, -⟩ := CAMP2pAFDConnector.physicalPayload_stage hca hFA hexp hphys hmd
  obtain ⟨hexpands, hwired, hkept⟩ := hstages stage pmd hpmd
  refine ⟨pmd, hpmd, ?_⟩
  have hiff := @installsRows_iff A F dpF tpF c' wire.dpMetadataList stage pmd hdpF htpF hF hFA
    (by omega) (by rw [CAMP2pAFDConnector.attnSize, htopology]; exact hattnSize)
    (by rw [CAMP2pAFDConnector.ffnSize, htopology]; exact hffnSize) (by rwa [htopology]) hwired hkept
    (.inr hexpands) maxNumTokens
  rwa [htopology] at hiff

/-- The last of two FFN ranks, which form one DP rank. -/
def secondFfnRank : CAMP2pAFDConnector := ⟨⟨.ffn, 2, 2, false⟩, 1, _, rfl, ∅, false, false⟩

/-- The first of two Attention DP ranks. -/
def firstAttentionRank : CAMP2pAFDConnector := ⟨⟨.attention, 2, 2, false⟩, 0, _, rfl, ∅, false, false⟩

/-- Three tokens on one Attention rank and `n` on the other. -/
def threeAnd (n : Int32) : AFDControlPayload :=
  ⟨(∅ : Dict Int AFDDPMetadata).set 0 ⟨[3, n], n⟩, false, false, false, false⟩

/-- The counts of four Attention ranks, two to an FFN rank, which differ but come to the
same total. -/
def crossedCounts : AFDControlPayload :=
  ⟨(∅ : Dict Int AFDDPMetadata).set 0 ⟨[3, 5, 5, 3], 5⟩, false, false, false, false⟩

/-- The second TP rank gets eight rows, and installs eight. -/
theorem dp_level_counts_iff_equal :
    ∃ wire c', (⟨⟨.attention, 4, 2, false⟩, 0, _, rfl, ∅, false, false⟩ : CAMP2pAFDConnector).deliver
      crossedCounts = .ok wire ∧
      (⟨⟨.ffn, 4, 2, false⟩, 1, _, rfl, ∅, false, false⟩ : CAMP2pAFDConnector).updateStateFromDpMetadata
        ⟨wire.dpMetadataList, false, false, false, false⟩ = .ok c' ∧
      OwnTotal ⟨[3, 5, 5, 3], 5⟩ 4 2 2 1 ∧
      ∃ out, c'.ffnForwardStage 1 4096 wire.dpMetadataList 0 = .ok out ∧ InstallsRows 1 2 1 out := by
  have hown : OwnTotal ⟨[3, 5, 5, 3], 5⟩ 4 2 2 1 := by decide
  have hlen : ∀ stage md, crossedCounts.dpMetadataList.get? stage = some md →
      md.numTokensAcrossDpCpu.length = 4 := by
    intro stage md h
    rw [crossedCounts, Dict.get?_set] at h
    split at h
    · cases h
      rfl
    · cases h
  obtain ⟨phys, wire, c', hphys, hwire, hstate, hstages⟩ :=
    @dp_level_counts_iff 4 2 4 1 1 2 false false ⟨⟨.attention, 4, 2, false⟩, 0, _, rfl, ∅, false, false⟩
      ⟨⟨.ffn, 4, 2, false⟩, 1, _, rfl, ∅, false, false⟩ rfl rfl (by decide) rfl rfl crossedCounts
      hlen 4096 false
  obtain ⟨pmd, hpmd, hiff⟩ := hstages 0 ⟨[3, 5, 5, 3], 5⟩ (by decide)
  -- one stage is left as it is
  obtain rfl : crossedCounts = phys := Except.ok.inj hphys
  obtain rfl : ⟨[3, 5, 5, 3], 5⟩ = pmd := Option.some.inj hpmd
  exact ⟨wire, c', hwire, hstate, hown, hiff.2 hown⟩

/-- The second TP rank gets five rows, but its DP rank's count is that of the
first. -/
theorem second_tp_rank_installs_first_total :
    validateRanks firstAttentionRank.afdConfig 2 1 = .ok () ∧
      validateRanks secondFfnRank.afdConfig 1 2 = .ok () ∧
      ∃ wire c', firstAttentionRank.deliver (threeAnd 5) = .ok wire ∧
        secondFfnRank.updateStateFromDpMetadata ⟨wire.dpMetadataList, false, false, false, false⟩ = .ok c' ∧
        c'.ffnForwardStage 1 4096 wire.dpMetadataList 0 = .ok ⟨5, [3], 5⟩ ∧
          ¬ InstallsRows 1 2 1 ⟨5, [3], 5⟩ := by
  obtain ⟨d, hperm, hwire⟩ := decodeControlPayload_encode (threeAnd 5)
  obtain rfl : d = (threeAnd 5).dpMetadataList := Dict.ext (List.perm_singleton.1 hperm)
  refine ⟨rfl, rfl, threeAnd 5, _, hwire, rfl, ?_, by decide⟩
  decide +kernel

end AfdPlugin.Camp2p
