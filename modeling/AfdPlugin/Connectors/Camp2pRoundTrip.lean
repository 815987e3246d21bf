import AfdPlugin.Connectors.Camp2pEndpoints
/-!
# One CAMP2P exchange, end to end

A stage's rows go from the Attention ranks of a group to their FFN rank and
back. Both roles work on the physical payload, in which the ranks of a group
have one count.
-/

namespace AfdPlugin.Camp2p

/-! ## The payload on every process -/

namespace CAMP2pAFDConnector

theorem physicalPayload_congr {c c' : CAMP2pAFDConnector} (hattn : c.attnSize = c'.attnSize)
    (hffn : c.ffnSize = c'.ffnSize) (payload : AFDControlPayload) :
    c.physicalPayload payload = c'.physicalPayload payload := by
  have hratio : c.ratio = c'.ratio := by rw [ratio, ratio, hattn, hffn]
  have hstage : c.physicalStage = c'.physicalStage := by
    funext item
    simp only [physicalStage, hratio, hattn, hffn]
  rw [physicalPayload, physicalPayload, hratio, hstage]

theorem updateStateFromDpMetadata_topology {c c' : CAMP2pAFDConnector} {payload : AFDControlPayload}
    (h : c.updateStateFromDpMetadata payload = .ok c') : c'.topology = c.topology := by
  cases hphys : c.physicalPayload payload with
  | error e => simp [updateStateFromDpMetadata, hphys, bind, Except.bind] at h
  | ok phys =>
    simp only [updateStateFromDpMetadata, hphys, bind, Except.bind, pure, Except.pure, Except.ok.injEq] at h
    rw [← h]

end CAMP2pAFDConnector

namespace Deployment
variable {Row Scale Handle : Type} {ops : CamOperators Row Scale Handle} {A F : Nat}

/-- The payload as every process applies it: the Attention ranks from what they
have, the FFN ranks from what is on the wire. -/
structure Applied (d : Deployment ops A F) (payload phys : AFDControlPayload)
    (attention ffn : Nat → CAMP2pEndpoint) :
    Prop where
  physical : ∀ a < A, (d.attention a).connector.physicalPayload payload = .ok phys
  attention_state : ∀ a < A, (d.attention a).updateStateFromDpMetadata payload = .ok (attention a)
  ffn_state : ∃ wire, decodeControlPayload (encodeControlPayload phys) = .ok wire ∧
    ∀ f < F, (d.ffn f).updateStateFromDpMetadata wire = .ok (ffn f)

/-- Applying a payload goes through, and both roles keep the physical stages. -/
theorem exists_applied (d : Deployment ops A F) (hFA : F ∣ A) {payload : AFDControlPayload}
    (hexp : ∀ stage md, payload.dpMetadataList.get? stage = some md → Expands md A) :
    ∃ phys attention ffn, Applied d payload phys attention ffn ∧
      (∀ a < A, Endpoint ops A F d.numUbatches d.hiddenSize d.topk (F + a) a (attention a) ∧
        (attention a).connector.dpMetadataList = phys.dpMetadataList) ∧
      ∀ f < F, Endpoint ops A F d.numUbatches d.hiddenSize d.topk f f (ffn f) ∧
        ∀ stage, (ffn f).connector.dpMetadataList.get? stage = phys.dpMetadataList.get? stage := by
  obtain ⟨g, hc⟩ := d.attention_config 0 d.attention_pos
  obtain ⟨phys, hphys, -⟩ := CAMP2pAFDConnector.get?_physicalPayload hc hFA hexp
  obtain ⟨-, -, hattn0, hffn0⟩ := CAMP2pAFDConnector.sizes_of_config hc
  have hphysAll : ∀ a < A, (d.attention a).connector.physicalPayload payload = .ok phys := by
    intro a ha
    obtain ⟨g', hc'⟩ := d.attention_config a ha
    obtain ⟨-, -, hattn, hffn⟩ := CAMP2pAFDConnector.sizes_of_config hc'
    rw [CAMP2pAFDConnector.physicalPayload_congr (hattn.trans hattn0.symm) (hffn.trans hffn0.symm), hphys]
  obtain ⟨wireList, -, hwire⟩ := decodeControlPayload_encode phys
  have hattention : ∀ a < A, ∃ e, (d.attention a).updateStateFromDpMetadata payload = .ok e ∧
      Endpoint ops A F d.numUbatches d.hiddenSize d.topk (F + a) a e ∧
      e.connector.dpMetadataList = phys.dpMetadataList := by
    intro a ha
    have hupdate : (d.attention a).connector.updateStateFromDpMetadata payload =
        .ok { (d.attention a).connector with
        dpMetadataList := phys.dpMetadataList
        isGraphCapturing := payload.isGraphCapturing
        isWarmup := payload.isWarmup } := by
      rw [CAMP2pAFDConnector.updateStateFromDpMetadata, hphysAll a ha]
      rfl
    refine ⟨_, by rw [CAMP2pEndpoint.updateStateFromDpMetadata, hupdate]; rfl, ?_, rfl⟩
    exact (d.attention_endpoint ha).withMetadata
      (CAMP2pAFDConnector.updateStateFromDpMetadata_topology hupdate)
  have hffn : ∀ f < F, ∃ e, (d.ffn f).updateStateFromDpMetadata { phys with
      dpMetadataList := wireList } = .ok e ∧
      Endpoint ops A F d.numUbatches d.hiddenSize d.topk f f e ∧
      ∀ stage, e.connector.dpMetadataList.get? stage = phys.dpMetadataList.get? stage := by
    intro f hf
    obtain ⟨g', hc'⟩ := d.ffn_config f hf
    obtain ⟨wire, c₁, c₂, hwire', -, hupdate, hlist, hstages, -⟩ :=
      CAMP2pAFDConnector.updateState_of_wire hc hFA hexp hphys hc'
    rw [hwire] at hwire'
    rw [← Except.ok.inj hwire'] at hupdate
    refine ⟨_, by rw [CAMP2pEndpoint.updateStateFromDpMetadata, hupdate]; rfl, ?_, ?_⟩
    · exact (d.ffn_endpoint hf).withMetadata (CAMP2pAFDConnector.updateStateFromDpMetadata_topology hupdate)
    · intro stage
      rw [← hlist]
      exact hstages stage
  have : Nonempty CAMP2pEndpoint := ⟨d.attention 0⟩
  choose! attention hattention using hattention
  choose! ffn hffn using hffn
  exact ⟨phys, attention, ffn,
    ⟨hphysAll, fun a ha => (hattention a ha).1, _, hwire, fun f hf => (hffn f hf).1⟩,
    fun a ha => (hattention a ha).2, fun f hf => (hffn f hf).2⟩

end Deployment

/-! ## Counts of a stage -/

/-- What a physical stage says, from the stage the Attention ranks have. -/
structure StageCounts (A F numStages : Nat) (md pmd : AFDDPMetadata) : Prop where
  expands : Expands pmd A
  listed : F < A → 1 < numStages → ∀ a < A, pmd.counts[a]? = some (rankCount pmd A a)
  kept : ¬ (F < A ∧ 1 < numStages) → pmd = md
  equal : 1 < numStages → ∀ a < A, ∀ a' < A, a % F = a' % F → rankCount pmd A a = rankCount pmd A a'
  enough : ∀ a < A, rankCount md A a ≤ rankCount pmd A a

namespace CAMP2pAFDConnector

theorem stageCounts {A F : Nat} {role : AFDRole} {g : Bool} {c : CAMP2pAFDConnector}
    (hc : c.afdConfig = ⟨role, A, F, g⟩) (hFA : F ∣ A) {payload phys : AFDControlPayload}
    (hexp : ∀ stage md, payload.dpMetadataList.get? stage = some md → Expands md A)
    (hphys : c.physicalPayload payload = .ok phys) {stage : Int} {md : AFDDPMetadata}
    (hmd : payload.dpMetadataList.get? stage = some md) :
    ∃ pmd, phys.dpMetadataList.get? stage = some pmd ∧
      StageCounts A F payload.dpMetadataList.entries.length md pmd := by
  obtain ⟨hF, hle, hattn, hffn⟩ := sizes_of_config hc
  obtain ⟨pmd, hpmd, hequal, hreal⟩ := physicalPayload_stage hc hFA hexp hphys hmd
  obtain ⟨p, hp, -, -, hget⟩ := get?_physicalPayload hc hFA hexp
  obtain rfl : p = phys := Except.ok.inj (hp.symm.trans hphys)
  have hratio : c.ratio = A / F := by rw [ratio, hattn, hffn]
  rw [hget, hmd, Option.map_some] at hpmd
  have hkeys : payload.dpMetadataList.keys.length = payload.dpMetadataList.entries.length := by
    rw [Dict.keys, List.length_map]
  rw [hkeys] at hequal
  refine ⟨pmd, by rw [hget, hmd, Option.map_some, hpmd], ?_, ?_, ?_, hequal, hreal⟩
  · exact expands_physicalPayload hc hFA hexp hphys (by rw [hget, hmd, Option.map_some, hpmd])
  · intro hlt hseveral a ha
    have htwo : ¬ (c.ratio ≤ 1 ∨ payload.dpMetadataList.entries.length ≤ 1) := by
      rw [hratio]
      intro h
      rcases h with h | h
      · have hmul := Nat.div_mul_cancel hFA
        have := Nat.mul_le_mul_right F h
        omega
      · omega
    rw [if_neg htwo] at hpmd
    obtain ⟨list, hlist, hlen, -⟩ := physicalCounts_ok hF hFA (hexp stage md hmd)
    have hcounts := (c.physicalStage_ok hF (by omega) hFA hattn hffn (hexp stage md hmd) 0).2
    rw [hlist, Except.ok.injEq, Option.some.inj hpmd] at hcounts
    have hlength : pmd.counts.length = A := by rw [length_counts, ← hcounts, hlen]
    have hget : rankCount pmd A a = pmd.counts.getD a 0 := by
      rw [rankCount_of_le (by rw [← hcounts, hlen]), counts_getD]
    rw [hget, List.getD_eq_getElem _ _ (by omega), List.getElem?_eq_getElem]
  · intro hno
    have hone : c.ratio ≤ 1 ∨ payload.dpMetadataList.entries.length ≤ 1 := by
      rw [hratio]
      by_cases hlt : F < A
      · right
        by_contra h
        exact hno ⟨hlt, not_le.1 h⟩
      · left
        have hAF : A = F := by omega
        rw [hAF, Nat.div_self hF]
    rw [if_pos hone] at hpmd
    exact (Option.some.inj hpmd).symm

end CAMP2pAFDConnector

theorem groupTokens_of_equal {A F f n : Nat} {md : AFDDPMetadata} (hf : f < F) (hFA : F ∣ A)
    (h : ∀ a ∈ Strided.group A F f, rankCount md A a = n) :
    groupTokens md A F f = ((A / F * n : Nat) : Int) := by
  rw [groupTokens, List.map_congr_left h, List.map_const', List.sum_replicate, length_group hf hFA,
    nsmul_eq_mul]
  push_cast
  rfl

/-- The rows that a stage of a payload has for an Attention rank. -/
def physicalRows (pmd : AFDDPMetadata) (A a : Nat) : Nat := (rankCount pmd A a).toNat

namespace StageCounts
variable {A F numStages a f : Nat} {md pmd : AFDDPMetadata}

theorem rankCount_eq (h : StageCounts A F numStages md pmd) (ha : a < A) (hpos : 1 ≤ rankCount md A a) :
    rankCount pmd A a = physicalRows pmd A a := by
  have := h.enough a ha
  exact (Int.toNat_of_nonneg (by omega)).symm

theorem physicalRows_pos (h : StageCounts A F numStages md pmd) (ha : a < A) (hpos : 1 ≤ rankCount md A a) :
    1 ≤ physicalRows pmd A a := by
  have := h.enough a ha
  have := h.rankCount_eq ha hpos
  omega

/-- The ranks of a group have one count: by the control plane, or by assumption. -/
theorem physicalRows_group (h : StageCounts A F numStages md pmd)
    (hone : numStages ≤ 1 → ∀ a < A, ∀ a' < A, a % F = a' % F → rankCount md A a = rankCount md A a')
    (hle : F ≤ A) (hf : f < F) (ha : a ∈ Strided.group A F f) :
    physicalRows pmd A a = physicalRows pmd A f := by
  obtain ⟨hlt, hmod⟩ := Strided.mem_group.1 ha
  have hsame : a % F = f % F := by rw [hmod, Nat.mod_eq_of_lt hf]
  have hcount : rankCount pmd A a = rankCount pmd A f := by
    by_cases hseveral : 1 < numStages
    · exact h.equal hseveral a hlt f (by omega) hsame
    · rw [h.kept fun h => hseveral h.2]
      exact hone (not_lt.1 hseveral) a hlt f (by omega) hsame
  rw [physicalRows, physicalRows, hcount]

/-- Connector and runner of an FFN rank derive the rows of its group. -/
theorem ffn_counts (h : StageCounts A F numStages md pmd) (hF : 0 < F) (hle : F ≤ A) (hFA : F ∣ A)
    (hf : f < F) {n : Nat} (hn : 1 ≤ n) (hgroup : ∀ a ∈ Strided.group A F f, rankCount pmd A a = n)
    (hfit : ∀ f < F, groupTokens pmd A F f < 2 ^ 31) {list : Dict Int AFDDPMetadata} {stage : Int}
    (hpmd : list.get? stage = some pmd) (fallback : Int) :
    A / F * n < 2 ^ 31 ∧ numTokensForFfnRank list stage f A F fallback = .ok ((A / F * n : Nat) : Int) ∧
      ∃ values, ffnTokenCountsAcrossRanks A F list stage fallback = .ok values ∧
        ffnTokenCountForRank f values = ((A / F * n : Nat) : Int) := by
  have hA : 0 < A := hF.trans_le hle
  have hcomplete : Complete pmd A := .inr h.expands
  have htokens : groupTokens pmd A F f = ((A / F * n : Nat) : Int) := groupTokens_of_equal hf hFA hgroup
  have hratio : 1 ≤ A / F := Nat.div_pos hle hF
  have hpos := Nat.mul_le_mul hratio hn
  have hmax : max 1 (groupTokens pmd A F f) = ((A / F * n : Nat) : Int) := by
    rw [htokens]
    omega
  have hlt := hfit f hf
  rw [htokens] at hlt
  refine ⟨by exact_mod_cast hlt, ?_, ?_⟩
  · rw [numTokensForFfnRank_eq hpmd hcomplete hFA hA hf, ← hmax]
    rfl
  · obtain ⟨values, hvalues, htotal⟩ := ffnTokenCountForRank_eq hpmd hcomplete hFA hA hfit fallback
    exact ⟨values, hvalues, (htotal f hf).trans hmax⟩

end StageCounts

/-! ## The sides of a stage -/

section Sides
variable {Row Scale Handle : Type} [Zero Row] {ops : CamOperators Row Scale Handle}
  {A F numUbatches hiddenSize topk : Nat} {e : CAMP2pEndpoint} {stage : Int}

/-- The Attention side, on its way out: a rank sends its rows, padded to what the physical
payload has for it, and keeps the state that the answer needs. -/
theorem Endpoint.send_stage [Zero Scale] {a numStages : Nat}
    (he : Endpoint ops A F numUbatches hiddenSize topk (F + a) a e) (h0 : 0 ≤ stage)
    (hstage : stage < numUbatches) {md pmd : AFDDPMetadata} (hcounts : StageCounts A F numStages md pmd)
    (hnum : e.connector.dpMetadataList.entries.length = numStages)
    (hpmd : e.connector.dpMetadataList.get? stage = some pmd) (ha : a < A) (hpos : 1 ≤ rankCount md A a)
    {rows : List Row} (hrows : (rows.length : Int) = rankCount md A a) {ids : Option (List Int32)}
    (hids : ∀ i ∈ ids, i.length = rows.length) {ctx : ForwardContext Handle} {mode : RunMode}
    (hctx : OwnContext ctx stage numStages mode) :
    rows.length ≤ physicalRows pmd A a ∧ ∃ (call : A2ECall Row Scale) (ctx' : ForwardContext Handle),
      send ops e ctx stage mode rows ids = .ok (call, ctx') ∧
        (∃ st, ctx'.camAfdtransferState = some st ∧ st.attenBatchSize = some (ops.a2eSend call)) ∧
        ctx'.ubatchIdx.getD 0 = stage ∧
          SendsCount ops A F hiddenSize topk a (physicalRows pmd A a) stage rows ids call := by
  subst hnum
  have hphysical := hcounts.rankCount_eq ha hpos
  have hlen : rows.length ≤ physicalRows pmd A a := by
    have := hcounts.enough a ha
    omega
  have hlisted : F < A → 1 < e.connector.dpMetadataList.entries.length →
      ∃ md, e.connector.dpMetadataList.get? stage = some md ∧
          md.counts[a]? = some (physicalRows pmd A a : Int) :=
    fun hlt hseveral => ⟨pmd, hpmd, by rw [hcounts.listed hlt hseveral a ha, hphysical]⟩
  have hkept : ¬ (F < A ∧ 1 < e.connector.dpMetadataList.entries.length) →
      rows.length = physicalRows pmd A a := by
    intro hno
    rw [hcounts.kept hno] at hphysical ⊢
    omega
  obtain ⟨call, ctx', st, hsend, hst, hhandle, hidx, hcall⟩ :=
    send_ok he h0 hstage hlen hids hlisted hkept hctx
  exact ⟨hlen, call, ctx', hsend, ⟨st, hst, hhandle⟩, hidx, hcall⟩

/-- The FFN side: what it computes for its group's padded rows is, for each rank of the
group that asks, the FFN of its own rows. -/
theorem Endpoint.serve_stage (hops : MovesEqualChunks ops) (hFA : F ∣ A) {f : Nat} (hf : f < F)
    (he : Endpoint ops A F numUbatches hiddenSize topk f f e) (h0 : 0 ≤ stage)
    (hstage : stage < numUbatches) {rows : Nat → List Row} {ids : Option (Nat → List Int32)} {n : Nat}
    (hrows : ∀ a ∈ Strided.group A F f, (rows a).length ≤ n)
    (hids : ∀ i ∈ ids, ∀ a ∈ Strided.group A F f, (i a).length = (rows a).length)
    (htopk : ids.isSome → 1 ≤ topk) {calls : Nat → A2ECall Row Scale}
    (hcalls : ∀ a ∈ Strided.group A F f, SendsCount ops A F hiddenSize topk a n stage (rows a)
      (ids.map (· a)) (calls a)) {fallback : Int}
    (hbatch : numTokensForFfnRank e.connector.dpMetadataList stage f A F fallback =
      .ok ((A / F * n : Nat) : Int)) (hfit : A / F * n < 2 ^ 31) (ffn : Row → Option Int32 → Row)
    (layerIdx : Nat) :
    ∃ p, recvAttnOutput ops e ((Strided.group A F f).map calls) stage layerIdx fallback ids.isSome = .ok p ∧
      p.hiddenStates = (Strided.group A F f).flatMap (fun a => padded (rows a) n) ∧
      p.inputIds = ids.map (fun i => (Strided.group A F f).flatMap fun a => padded (i a) n) ∧
      ∃ back, sendFfnOutput e (computeFfnOutput ffn p.hiddenStates p.inputIds) p.metadata p.states
        (some stage) = .ok back ∧
        ∀ a ∈ Strided.group A F f, ∀ (handle : Handle) (batchSize : Int) (aivNum : Nat),
          ops.e2a back {
            expandX := rows a, attenBatchSize := handle, batchSize := batchSize, hiddenSize :=
              hiddenSize, topk := topk
            expertRankSize := F, attentionRankSize := A, rank := F + a, groupEp :=
              ops.commName (F + a) (groupOf stage)
            aivNum := aivNum } = computeFfnOutput ffn (rows a) (ids.map (· a)) := by
  obtain ⟨handle, hrecv⟩ :=
    recvAttnOutput_ok hops hf hFA he h0 hstage hrows hids htopk hcalls hbatch hfit layerIdx
  have hpad : ∀ a ∈ Strided.group A F f, (padded (rows a) n).length = n :=
    fun a ha => length_padded (hrows a ha)
  have hpadIds : ∀ i ∈ ids, ∀ a ∈ Strided.group A F f, (padded (i a) n).length = n := fun i hi a ha =>
    length_padded ((hids i hi a ha).trans_le (hrows a ha))
  -- the FFN works row by row, so on each rank's rows apart
  have hcompute : computeFfnOutput ffn ((Strided.group A F f).flatMap fun a => padded (rows a) n)
        (ids.map fun i => (Strided.group A F f).flatMap fun a => padded (i a) n) =
      (Strided.group A F f).flatMap fun a =>
        computeFfnOutput ffn (padded (rows a) n) (ids.map fun i => padded (i a) n) := by
    have hpieces : ∀ j ∈ ids.map fun i a => padded (i a) n, ∀ a ∈ Strided.group A F f,
        (j a).length = (padded (rows a) n).length := by
      intro j hj a ha
      obtain ⟨i, hi, rfl⟩ := Option.map_eq_some_iff.1 hj
      rw [hpad a ha, hpadIds i hi a ha]
    have hflat := computeFfnOutput_flatMap ffn hpieces
    simpa only [Option.map_map, Function.comp_def] using hflat
  have hout : ∀ a ∈ Strided.group A F f,
      (computeFfnOutput ffn (padded (rows a) n) (ids.map fun i => padded (i a) n)).length = n := by
    intro a ha
    rw [length_computeFfnOutput, hpad a ha]
    intro j hj
    obtain ⟨i, hi, rfl⟩ := Option.map_eq_some_iff.1 hj
    rw [hpad a ha, hpadIds i hi a ha]
  refine ⟨_, hrecv, rfl, rfl, _, sendFfnOutput_ok he h0 hstage rfl _ _, ?_⟩
  intro a ha handle' batchSize aivNum
  rw [hcompute, e2a_group hops hf hFA hout hfit ha (hrows a ha) rfl]
  apply take_computeFfnOutput
  · exact take_padded (rows a) n
  · rw [Option.map_map]
    apply Option.map_congr
    intro i hi
    rw [Function.comp_apply, ← hids i hi a ha]
    exact take_padded (i a) n

/-- The Attention side, on its way back: whatever the rank's other stages have done since
its send, it asks with the handle of that send. -/
theorem Endpoint.receive_stage [Zero Scale] {a : Nat}
    (he : Endpoint ops A F numUbatches hiddenSize topk (F + a) a e) (h0 : 0 ≤ stage)
    (hstage : stage < numUbatches) {contexts contexts' : Int → ForwardContext Handle}
    {sent : ForwardContext Handle} {handle : Handle}
    (hst : ∃ st, sent.camAfdtransferState = some st ∧ st.attenBatchSize = some handle)
    (hidx : sent.ubatchIdx.getD 0 = stage) {others : List (AttnOp Row)}
    (hothers : ∀ op ∈ others, op.stageIdx ≠ stage)
    (hrun : attnRun ops e (Function.update contexts stage sent) others = .ok contexts') (mode : RunMode)
    (rows : List Row) :
    ∃ batchSize ctx, receive e (contexts' stage) stage mode rows = .ok ({
      expandX := rows, attenBatchSize := handle, batchSize := batchSize, hiddenSize :=
        hiddenSize, topk := topk
      expertRankSize := F, attentionRankSize := A, rank := F + a, groupEp :=
        ops.commName (F + a) (groupOf stage)
      aivNum := e.aivNum }, ctx) := by
  obtain ⟨st, hst, hhandle⟩ := hst
  have hctx : contexts' stage = sent := by rw [attnRun_other hothers hrun, Function.update_self]
  rw [← hctx] at hst hidx
  exact receive_ok he h0 hstage hst hhandle hidx mode rows

end Sides

/-! ## The exchange -/

section Exchange
variable {Row Scale Handle : Type} [Zero Row] [Zero Scale]

/-- An exchange of a stage: the FFN rank computes on its Attention ranks' rows
and zero rows, as many as both its connector and its runner derived from the
payload; the ids it installs are those of its rows; and an Attention rank gets
the FFN of its own rows, on the state of the stage's own send, whatever its
other stages do meanwhile. The FFN ranks' sums have to fit the operator's int32
batch size. -/
theorem exchange_round_trip {ops : CamOperators Row Scale Handle} (hops : MovesEqualChunks ops)
    {A F : Nat} (hFA : F ∣ A) (d : Deployment ops A F) (payload : AFDControlPayload)
    (hexp : ∀ stage md, payload.dpMetadataList.get? stage = some md → Expands md A) {stage : Int}
    {md : AFDDPMetadata} (hmd : payload.dpMetadataList.get? stage = some md) (h0 : 0 ≤ stage)
    (hstage : stage < d.numUbatches) (hpos : ∀ a < A, 1 ≤ rankCount md A a)
    (hone : payload.dpMetadataList.entries.length ≤ 1 → ∀ a < A, ∀ a' < A, a % F = a' % F →
      rankCount md A a = rankCount md A a')
    (hfit : ∀ phys pmd, (d.attention 0).connector.physicalPayload payload = .ok phys →
      phys.dpMetadataList.get? stage = some pmd → ∀ f < F, groupTokens pmd A F f < 2 ^ 31)
    (rows : Nat → List Row) (hrows : ∀ a < A, ((rows a).length : Int) = rankCount md A a)
    (ids : Option (Nat → List Int32)) (hids : ∀ i ∈ ids, ∀ a < A, (i a).length = (rows a).length)
    (htopk : ids.isSome → 1 ≤ d.topk) (ffn : Row → Option Int32 → Row)
    (contexts : Nat → Int → ForwardContext Handle) (sendMode receiveMode : Nat → RunMode)
    (hctx : ∀ a < A, OwnContext (contexts a stage) stage payload.dpMetadataList.entries.length
      (sendMode a)) :
    ∃ phys attn ffns pmd, ∃ calls : Nat → A2ECall Row Scale, ∃ sent : Nat → ForwardContext Handle,
      Deployment.Applied d payload phys attn ffns ∧
      phys.dpMetadataList.get? stage = some pmd ∧
      (∀ a < A, (rows a).length ≤ physicalRows pmd A a ∧
        send ops (attn a) (contexts a stage) stage (sendMode a) (rows a) (ids.map (· a)) =
          .ok (calls a, sent a)) ∧
      ∀ f < F, ∀ layerIdx fallback, ∃ p,
        recvAttnOutput ops (ffns f) ((Strided.group A F f).map calls) stage layerIdx fallback
          ids.isSome = .ok p ∧
        p.hiddenStates = (Strided.group A F f).flatMap (fun a => padded (rows a) (physicalRows pmd A a)) ∧
        numTokensForFfnRank (ffns f).connector.dpMetadataList stage f A F fallback = .ok
          p.hiddenStates.length ∧
        (∃ values, ffnTokenCountsAcrossRanks A F (ffns f).connector.dpMetadataList stage fallback =
          .ok values ∧
          ffnTokenCountForRank f values = p.hiddenStates.length) ∧
        p.inputIds = ids.map (fun i =>
          (Strided.group A F f).flatMap fun a => padded (i a) (physicalRows pmd A a)) ∧
        ∃ back, sendFfnOutput (ffns f) (computeFfnOutput ffn p.hiddenStates p.inputIds) p.metadata
          p.states (some stage) =
            .ok back ∧
          ∀ a ∈ Strided.group A F f, ∀ (others : List (AttnOp Row)) contexts',
            (∀ op ∈ others, op.stageIdx ≠ stage) →
            attnRun ops (attn a) (Function.update (contexts a) stage (sent a)) others = .ok contexts' →
            ∃ asked ctx, receive (attn a) (contexts' stage) stage (receiveMode a) (rows a) = .ok
              (asked, ctx) ∧
              asked.attenBatchSize = ops.a2eSend (calls a) ∧
              ops.e2a back asked = computeFfnOutput ffn (rows a) (ids.map (· a)) := by
  obtain ⟨phys, attn, ffns, happlied, hattn, hffns⟩ := d.exists_applied hFA hexp
  obtain ⟨g, hc⟩ := d.attention_config 0 d.attention_pos
  have hphys := happlied.physical 0 d.attention_pos
  obtain ⟨hF, hle, -, -⟩ := CAMP2pAFDConnector.sizes_of_config hc
  obtain ⟨pmd, hpmd, hcounts⟩ := CAMP2pAFDConnector.stageCounts hc hFA hexp hphys hmd
  have hnum : phys.dpMetadataList.entries.length = payload.dpMetadataList.entries.length :=
    CAMP2pAFDConnector.length_physicalPayload hc hFA hexp hphys
  have hidsA : ∀ a < A, ∀ i ∈ ids.map (· a), i.length = (rows a).length := by
    intro a ha i hi
    obtain ⟨all, hall, rfl⟩ := Option.map_eq_some_iff.1 hi
    exact hids all hall a ha
  -- the Attention ranks send
  have hsends : ∀ a < A, (rows a).length ≤ physicalRows pmd A a ∧
      ∃ (call : A2ECall Row Scale) (ctx' : ForwardContext Handle),
      send ops (attn a) (contexts a stage) stage (sendMode a) (rows a) (ids.map (· a)) = .ok (call, ctx') ∧
        (∃ st, ctx'.camAfdtransferState = some st ∧ st.attenBatchSize = some (ops.a2eSend call)) ∧
        ctx'.ubatchIdx.getD 0 = stage ∧
        SendsCount ops A F d.hiddenSize d.topk a (physicalRows pmd A a) stage (rows a)
            (ids.map (· a)) call := by
    intro a ha
    obtain ⟨hend, hlist⟩ := hattn a ha
    exact hend.send_stage h0 hstage hcounts (by rw [hlist, hnum]) (by rw [hlist, hpmd]) ha (hpos a ha)
      (hrows a ha) (hidsA a ha) (hctx a ha)
  have : Nonempty (A2ECall Row Scale) := ⟨(hsends 0 d.attention_pos).2.choose⟩
  have : Nonempty (ForwardContext Handle) := ⟨contexts 0 stage⟩
  choose! hlen calls sent hsends using hsends
  refine ⟨phys, attn, ffns, pmd, calls, sent, happlied, hpmd, fun a ha => ⟨hlen a ha, (hsends a ha).1⟩, ?_⟩
  intro f hf layerIdx fallback
  obtain ⟨hend, hstages⟩ := hffns f hf
  have hfA : f < A := hf.trans_le hle
  -- the FFN rank's group has one count
  let n := physicalRows pmd A f
  have hequal : ∀ a ∈ Strided.group A F f, physicalRows pmd A a = n :=
    fun a ha => hcounts.physicalRows_group hone hle hf ha
  have hgroup : ∀ a ∈ Strided.group A F f, rankCount pmd A a = n := by
    intro a ha
    have hlt := (Strided.mem_group.1 ha).1
    rw [hcounts.rankCount_eq hlt (hpos a hlt), hequal a ha]
  have hpadded : ∀ {α : Type} [Zero α] (l : Nat → List α),
      ((Strided.group A F f).flatMap fun a => padded (l a) n) = (Strided.group A F f).flatMap fun a =>
      padded (l a) (physicalRows pmd A a) := by
    intro α _ l
    apply List.flatMap_congr
    intro a ha
    rw [hequal a ha]
  have hrowsN : ∀ a ∈ Strided.group A F f, (rows a).length ≤ n := by
    intro a ha
    rw [← hequal a ha]
    exact hlen a (Strided.mem_group.1 ha).1
  have hlength : ((Strided.group A F f).flatMap fun a => padded (rows a) n).length = A / F * n := by
    rw [List.length_flatMap, List.map_congr_left fun a ha => length_padded (hrowsN a ha), List.map_const',
      List.sum_replicate, length_group hf hFA, smul_eq_mul]
  obtain ⟨hfits, hbatch, values, hvalues, htotal⟩ :=
    hcounts.ffn_counts hF hle hFA hf (hcounts.physicalRows_pos hfA (hpos f hfA)) hgroup
      (hfit phys pmd hphys hpmd) (by rw [hstages, hpmd]) fallback
  obtain ⟨p, hrecv, hhidden, hpids, back, hback, hanswers⟩ :=
    hend.serve_stage hops hFA hf h0 hstage hrowsN
      (fun i hi a ha => hids i hi a (Strided.mem_group.1 ha).1) htopk
      (fun a ha => by rw [← hequal a ha]; exact (hsends a (Strided.mem_group.1 ha).1).2.2.2) hbatch
      hfits ffn layerIdx
  refine ⟨p, hrecv, hhidden.trans (hpadded rows), ?_, ?_, ?_, back, hback, ?_⟩
  · rw [hbatch, hhidden, hlength]
  · exact ⟨values, hvalues, by rw [htotal, hhidden, hlength]⟩
  · rw [hpids]
    apply Option.map_congr
    intro i _
    exact hpadded i
  · intro a ha others contexts' hothers hrun
    have hlt := (Strided.mem_group.1 ha).1
    obtain ⟨-, hst, hidx, -⟩ := hsends a hlt
    obtain ⟨batchSize, ctx, hreceive⟩ :=
      (hattn a hlt).1.receive_stage h0 hstage hst hidx hothers hrun (receiveMode a) (rows a)
    exact ⟨_, ctx, hreceive, rfl, hanswers a ha _ batchSize _⟩

end Exchange

/-! ## The kernels' chunks -/

section Window
variable (Row Scale : Type)

/-- What the kernels do when nothing is lost: the FFN rank copies a chunk out of
each Attention rank's window, and writes a chunk into it, of which the Attention
rank copies as much as it has rows. The handle is the length of the tensor. -/
def windowOperators : CamOperators Row Scale Nat where
  commName _ group := if group = 0 then "afd" else if group = 1 then "afd1" else "afd2"
  commName_ne _ group := by
    split
    · decide
    · split <;> decide
  a2eSend c := (c.attentionRankSize + c.expertRankSize - 1) / c.expertRankSize
  a2eRecv ffn calls :=
    let chunk := ffn.baseBatchSize.toInt.toNat / calls.length
    { expandX := calls.flatMap fun c => c.x.take chunk
      simulateExpertIds := calls.flatMap fun c => (c.expertIds.getD []).take chunk
      simulateExpertScales := calls.flatMap fun c => (c.scales.getD []).take chunk
      attenBatchSize := (ffn.attentionRankSize + ffn.expertRankSize - 1) / ffn.expertRankSize }
  e2a ffn attn :=
    let chunk := ffn.baseBatchSize.toInt.toNat / (ffn.attentionRankSize / ffn.expertRankSize)
    (ffn.expandX.drop ((attn.rank - ffn.expertRankSize) / ffn.expertRankSize * chunk)).take
      attn.baseBatchSize.toInt.toNat

theorem chunk_eq {base : Int} {k n : Nat} (h : base = k * n) (hk : 0 < k) : base.toNat / k = n := by
  have hnat : base.toNat = k * n := by
    rw [h]
    exact_mod_cast Int.toNat_natCast (k * n)
  rw [hnat, Nat.mul_div_cancel_left n hk]

theorem windowOperators_movesEqualChunks : MovesEqualChunks (windowOperators Row Scale) := by
  refine ⟨?_, ?_, ?_⟩
  · intro ffn calls n _ hx hbase
    apply List.flatMap_congr
    intro c hc
    rw [chunk_eq hbase (List.length_pos_of_mem hc), ← hx c hc, List.take_length]
  · intro ffn calls n _ _ hbase _ hids
    apply List.flatMap_congr
    intro c hc
    obtain ⟨ids, hids, hlen⟩ := hids c hc
    rw [chunk_eq hbase (List.length_pos_of_mem hc), hids, Option.getD_some, ← hlen, List.take_length]
  · intro ffn attn a n m _ hrank hlen hbase hask _
    have hm : attn.baseBatchSize.toInt.toNat = m := by rw [hask, Int.toNat_natCast]
    have ha : attn.rank - ffn.expertRankSize = a := by omega
    simp only [windowOperators, hm, ha]
    rcases Nat.eq_zero_or_pos (ffn.attentionRankSize / ffn.expertRankSize) with hzero | hratio
    · rw [hzero] at hbase
      have hnil : ffn.expandX = [] := by
        apply List.length_eq_zero_iff.1
        rw [hbase] at hlen
        simpa using hlen
      rw [hnil, List.drop_nil, List.drop_nil]
    · rw [chunk_eq hbase hratio]

end Window

/-- Two Attention ranks on one FFN rank, with two ubatches. -/
def twoToOne (topk : Nat) : Deployment (windowOperators Nat Nat) 2 1 where
  numUbatches := 2
  hiddenSize := 1
  topk := topk
  attention a := if a = 0
    then ⟨⟨⟨.attention, 2, 1, false⟩, 0, _, rfl, ∅, false, false⟩, true, "afd", "afd1", "", 1, topk, 8⟩
    else ⟨⟨⟨.attention, 2, 1, false⟩, 1, _, rfl, ∅, false, false⟩, true, "afd", "afd1", "", 1, topk, 8⟩
  ffn _ := ⟨⟨⟨.ffn, 2, 1, false⟩, 0, _, rfl, ∅, false, false⟩, true, "afd", "afd1", "", 1, topk, 8⟩
  attention_pos := by decide
  attention_config a _ := ⟨false, by split <;> rfl⟩
  attention_rank a ha := by
    rcases Nat.lt_succ_iff_lt_or_eq.1 ha with h | rfl
    · rw [Nat.lt_one_iff.1 h]
      rfl
    · rfl
  ffn_config _ _ := ⟨false, rfl⟩
  ffn_rank f hf := by
    rw [Nat.lt_one_iff.1 hf]
    rfl
  attention_joined a _ := by split <;> exact ⟨rfl, rfl, rfl⟩
  ffn_joined _ _ := ⟨rfl, rfl, rfl⟩

/-- Two stages, of which the first has two rows on one rank and one on the other. -/
def unevenStages : AFDControlPayload :=
  ⟨((∅ : Dict Int AFDDPMetadata).set 0 ⟨[2, 1], 2⟩).set 1 ⟨[1, 1], 1⟩, false, false, false, false⟩

theorem physicalPayload_unevenStages : ((twoToOne 1).attention 0).connector.physicalPayload unevenStages =
    .ok ⟨((∅ : Dict Int AFDDPMetadata).set 0 ⟨[2, 2], 2⟩).set 1 ⟨[1, 1], 1⟩, false, false, false,
      false⟩ := rfl

/-- The first stage of these, with ids: one rank sends from Python, the other
from a graph traced with nine rows. -/
theorem exchange_round_trip_two_to_one :
    ∃ (e : CAMP2pEndpoint) (calls : List (A2ECall Nat Nat)) (p : AFDA2FTransferPayload Nat Nat),
      recvAttnOutput (windowOperators Nat Nat) e calls 0 3 64 true = .ok p ∧ p.hiddenStates = [5, 6, 7, 0] ∧
        p.inputIds = some [50, 60, 70, 0] := by
  have hexp : ∀ stage md, unevenStages.dpMetadataList.get? stage = some md → Expands md 2 := by
    intro stage md h
    rcases List.mem_cons.1 (Dict.mem_entries_iff.2 h) with heq | hmem
    · cases heq
      exact ⟨by decide, by decide⟩
    · cases List.mem_singleton.1 hmem
      exact ⟨by decide, by decide⟩
  have hstage : ∀ phys pmd, ((twoToOne 1).attention 0).connector.physicalPayload unevenStages = .ok phys →
      phys.dpMetadataList.get? 0 = some pmd → pmd = ⟨[2, 2], 2⟩ := by
    intro phys pmd hphys hpmd
    rw [physicalPayload_unevenStages] at hphys
    rw [← Except.ok.inj hphys] at hpmd
    exact (Option.some.inj hpmd).symm
  obtain ⟨phys, attn, ffns, pmd, calls, sent, happlied, hpmd, -, hffn⟩ :=
    exchange_round_trip (windowOperators_movesEqualChunks Nat Nat) (A := 2) (F := 1) (by decide)
        (twoToOne 1) unevenStages
      hexp (show unevenStages.dpMetadataList.get? 0 = some ⟨[2, 1], 2⟩ from rfl) (by decide)
        (by decide) (by decide)
      (by decide)
      (by
        intro phys pmd hphys hpmd
        rw [hstage phys pmd hphys hpmd]
        decide)
      (fun a => if a = 0 then [5, 6] else [7]) (by decide) (some fun a => if a = 0 then [50, 60] else [70])
      (by
        intro i hi
        cases hi
        decide)
      (by decide) (fun x _ => x + 1) (fun _ _ => ⟨none, some 0⟩) (fun a => if a = 0 then .eager 3
        else .compiled 9)
      (fun _ => .eager 3)
      (by
        intro a ha
        split
        · trivial
        · exact .inl rfl)
  obtain ⟨p, hrecv, hhidden, -, -, hids, -⟩ := hffn 0 (by decide) 3 64
  rw [hstage phys pmd (happlied.physical 0 (by decide)) hpmd] at hhidden hids
  exact ⟨_, _, p, hrecv, hhidden, hids⟩

/-- The operators' batch size is an int32: an FFN rank whose two Attention ranks
have 2147483647 rows each derives 4294967294 rows and fails. In ids mode a model
without routed experts has no column for the ids, and fails with one row each. -/
theorem batch_size_truncated :
    (∃ ca cf, ((twoToOne 1).attention 0).updateStateFromDpMetadata
        ⟨(∅ : Dict Int AFDDPMetadata).set 0 ⟨[2147483647, 2147483647], 2147483647⟩, false, false, false,
          false⟩ = .ok ca ∧
      ((twoToOne 1).ffn 0).updateStateFromDpMetadata
        ⟨(∅ : Dict Int AFDDPMetadata).set 0 ⟨[2147483647, 2147483647], 2147483647⟩, false, false, false,
          false⟩ = .ok cf ∧
      ca.connector.dpMetadataList = cf.connector.dpMetadataList ∧
      numTokensForFfnRank cf.connector.dpMetadataList 0 0 2 1 64 = .ok 4294967294 ∧
      ∀ calls, ∃ e, recvAttnOutput (windowOperators Nat Nat) cf calls 0 3 64 false = .error e) ∧
    ∃ c0 c1 cf, ((twoToOne 0).ffn 0).updateStateFromDpMetadata
        ⟨(∅ : Dict Int AFDDPMetadata).set 0 ⟨[1, 1], 1⟩, false, false, false, false⟩ = .ok cf ∧
      send (windowOperators Nat Nat) ((twoToOne 0).attention 0) ⟨none, none⟩ 0 (.eager 3) [5]
        (some [50]) = .ok c0 ∧
      send (windowOperators Nat Nat) ((twoToOne 0).attention 1) ⟨none, none⟩ 0 (.eager 3) [7]
        (some [70]) = .ok c1 ∧
      ∃ e, recvAttnOutput (windowOperators Nat Nat) cf [c0.1, c1.1] 0 3 64 true = .error e := by
  refine ⟨⟨_, _, rfl, rfl, rfl, by decide, fun calls => ⟨_, rfl⟩⟩, _, _, _, rfl, rfl, rfl, _, rfl⟩

end AfdPlugin.Camp2p
