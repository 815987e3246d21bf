import AfdPlugin.Connectors.DeepepM2n.Handshake
/-!
# The DeepEP M2N capacity

The capacity sizes the transport buffers. It is set by the user or derived
from the most tokens a step can have, and every stage's bucket is checked
against it. The two are rounded differently: the capacity by the Attention TP
size, the bucket also by the granularity.
-/

namespace AfdPlugin.Deepep

/-- `ExpertBackend`, `EXPERT_BACKENDS`. -/
def expertBackends : List String := ["deepgemm", "fused_experts"]

/-- `PAYLOAD_FORMATS`. -/
def payloadFormats : List String := ["bf16", "fp8_block128_fp32"]

/-- The options of `connector_extra_config`, as they are given. -/
structure DeepEPM2NOptions where
  capacityTokensPerRank : Option Int := none
  numLanes : Option Int := none
  payloadFormat : String := "bf16"
  expertBackend : String := "deepgemm"
  bucketGranularity : Int := 1
  numSms : Int := 0
  numQps : Int := 0
  expertNumSms : Int := 0
  cpuTimeoutS : Int := 120
  gpuTimeoutS : Int := 120
  cpuSyncMinTokens : Int := 0

namespace DeepEPM2NOptions

/-- `DeepEPM2NConfig.validate`. -/
def validate (o : DeepEPM2NOptions) : Except String Unit := do
  require (∀ capacity ∈ o.capacityTokensPerRank, 0 < capacity) "capacity_tokens_per_rank must be positive"
  require (∀ lanes ∈ o.numLanes, 1 ≤ lanes ∧ lanes ≤ 2) "num_lanes must be in [1, 2]"
  require (o.payloadFormat ∈ payloadFormats) "payload_format must be one of ('bf16', 'fp8_block128_fp32')"
  require (o.expertBackend ∈ expertBackends) "expert_backend must be one of ('deepgemm', 'fused_experts')"
  require (0 < o.bucketGranularity) "bucket_granularity must be positive"
  require (0 ≤ o.numSms) "num_sms must be non-negative"
  require (0 ≤ o.expertNumSms ∧ o.expertNumSms % 2 = 0) "expert_num_sms must be a non-negative even number"
  require (0 ≤ o.cpuSyncMinTokens) "cpu_sync_min_tokens must be non-negative"
  require (0 ≤ o.numQps) "num_qps must be non-negative"
  require (0 < o.cpuTimeoutS ∧ 0 < o.gpuTimeoutS) "cpu_timeout_s and gpu_timeout_s must be positive"

theorem require_bind_ok {p : Prop} [Decidable p] {message : String} {rest : Except String Unit}
    (h : (do require p message; rest) = .ok ()) : p ∧ rest = .ok () := by
  by_cases hp : p
  · exact ⟨hp, by simpa [require, hp, bind, Except.bind] using h⟩
  · simp [require, hp, bind, Except.bind] at h

/-- What the plans need of the options that pass. -/
theorem validate_ok {o : DeepEPM2NOptions} (h : o.validate = .ok ()) :
    (∀ capacity ∈ o.capacityTokensPerRank, 0 < capacity) ∧ 0 < o.bucketGranularity ∧
      0 ≤ o.cpuSyncMinTokens := by
  obtain ⟨hcapacity, h⟩ := require_bind_ok h
  obtain ⟨-, h⟩ := require_bind_ok h
  obtain ⟨-, h⟩ := require_bind_ok h
  obtain ⟨-, h⟩ := require_bind_ok h
  obtain ⟨hgranularity, h⟩ := require_bind_ok h
  obtain ⟨-, h⟩ := require_bind_ok h
  obtain ⟨-, h⟩ := require_bind_ok h
  obtain ⟨hsync, -⟩ := require_bind_ok h
  exact ⟨hcapacity, hgranularity, hsync⟩

/-- `resolve_capacity_tokens_per_rank`. -/
def resolveCapacityTokensPerRank (o : DeepEPM2NOptions) (maxNumBatchedTokens maxCudagraphCaptureSize
    tensorParallelSize : Nat) : Nat :=
  match o.capacityTokensPerRank with
  | some capacity => capacity.toNat
  | none => max maxNumBatchedTokens maxCudagraphCaptureSize ⌈/⌉ tensorParallelSize

/-- The plan of a stage on an Attention rank of these options. -/
def planStage (o : DeepEPM2NOptions) (maxNumBatchedTokens maxCudagraphCaptureSize tensorParallelSize : Nat)
    (cudagraphCaptureSizes : List Nat) (attnSize : Nat) (graphMode : Bool) (md : AFDDPMetadata) :
    Except String StagePlan :=
  let capacity := o.resolveCapacityTokensPerRank maxNumBatchedTokens maxCudagraphCaptureSize
    tensorParallelSize
  let granularity := o.bucketGranularity.toNat
  let syncMin := o.cpuSyncMinTokens.toNat
  Deepep.planStage md attnSize tensorParallelSize capacity granularity graphMode
    (bucketLadder capacity cudagraphCaptureSizes tensorParallelSize granularity syncMin) syncMin

end DeepEPM2NOptions

/-- The tokens the fullest Attention rank dispatches, at least one. -/
def mostTokens (md : AFDDPMetadata) (attnTpSize : Nat) : Nat :=
  (max 1 ((md.counts.map fun count => -(-count / (attnTpSize : Int))).max?.getD 1)).toNat

section Stage
variable {md : AFDDPMetadata} {attnSize tp cap g m : Nat} {graphMode : Bool} {ladder : List Nat}

/-- The TP peers of a DP rank repeat its slice, so they do not change the
maximum. -/
theorem max?_tokensPerAttentionRank (htp : 0 < tp) (hlen : md.counts.length * tp = attnSize)
    (hne : md.counts ≠ []) :
    ∃ tokens most, tokensPerAttentionRank md attnSize tp = .ok tokens ∧ tokens.max? = some most ∧
      mostTokens md tp = (max 1 most).toNat := by
  obtain ⟨tokens, htokens⟩ : ∃ tokens, tokensPerAttentionRank md attnSize tp = .ok tokens := by
    simp [tokensPerAttentionRank, hlen]
  have hmem := mem_of_tokensPerAttentionRank htokens htp
  have hslices : md.counts.map (fun count => -(-count / (tp : Int))) ≠ [] := by simpa using hne
  obtain ⟨most, hmost⟩ := Option.isSome_iff_exists.1 (List.isSome_max?_of_ne_nil hslices)
  obtain ⟨hin, hbound⟩ := List.max?_eq_some_iff.1 hmost
  refine ⟨tokens, most, htokens,
    List.max?_eq_some_iff.2 ⟨?_, ?_⟩, by rw [mostTokens, hmost, Option.getD_some]⟩
  · obtain ⟨count, hcount, rfl⟩ := List.mem_map.1 hin
    exact (hmem _).2 ⟨count, hcount, rfl⟩
  · intro t ht
    obtain ⟨count, hcount, rfl⟩ := (hmem t).1 ht
    exact hbound _ (List.mem_map_of_mem hcount)

/-- The next rung exists: the last one is at or above the bucket, or the
capacity is used. -/
theorem ladderBucket_total (ladder : List Nat) (cap b : Nat) : ∃ r, ladderBucket ladder cap b = .ok r := by
  rw [ladderBucket]
  cases hlast : ladder.getLast? with
  | none => exact ⟨cap, rfl⟩
  | some last =>
    by_cases hlt : last < b
    · exact ⟨cap, if_pos hlt⟩
    · have hfind : (ladder.find? (b ≤ ·)).isSome := by
        rw [List.find?_isSome]
        exact ⟨last, List.mem_of_getLast? hlast, by simpa using hlt⟩
      obtain ⟨rung, hrung⟩ := Option.isSome_iff_exists.1 hfind
      exact ⟨rung, by simp [hlt, hrung]⟩

/-- A stage whose rounded slice fits the capacity is planned. -/
theorem planStage_of_fits (htp : 0 < tp) (hg : 0 < g) (hlen : md.counts.length * tp = attnSize)
    (hne : md.counts ≠ []) {sizes : List Nat} (hfits : roundUp g (mostTokens md tp) ≤ cap) :
    ∃ plan, planStage md attnSize tp cap g graphMode (bucketLadder cap sizes tp g m) m = .ok plan ∧
      (∀ t ∈ plan.tokensPerAttnRank, t ≤ plan.bucket) ∧ plan.bucket ≤ cap := by
  obtain ⟨tokens, most, htokens, hmost, hmostTokens⟩ := max?_tokensPerAttentionRank htp hlen hne
  obtain ⟨bucket, hbucket⟩ :=
    ladderBucket_total (bucketLadder cap sizes tp g m) cap (roundUp g (max 1 most).toNat)
  rw [hmostTokens] at hfits
  have hplan : planStage md attnSize tp cap g graphMode (bucketLadder cap sizes tp g m) m =
      .ok ⟨tokens, bucket, !graphMode && decide (m ≤ roundUp g (max 1 most).toNat), graphMode⟩ := by
    simp [planStage, htokens, hmost, not_lt.2 hfits, hbucket, bind, Except.bind, pure, Except.pure]
  refine ⟨_, hplan, (le_bucket_of_planStage hg hplan).2, ?_⟩
  rcases ladderBucket_ok hbucket with ⟨rfl, -⟩ | hrung
  · exact le_rfl
  · exact (bucketLadder_le_limit (List.mem_of_find?_eq_some hrung)).trans (min_le_left _ _)

/-- One that does not fit is refused. -/
theorem planStage_of_exceeds (htp : 0 < tp) (hlen : md.counts.length * tp = attnSize) (hne : md.counts ≠ [])
    (hexceeds : cap < roundUp g (mostTokens md tp)) :
    planStage md attnSize tp cap g graphMode ladder m =
      .error s!"dispatch bucket {roundUp g (mostTokens md tp)} exceeds capacity_tokens_per_rank={cap}" := by
  obtain ⟨tokens, most, htokens, hmost, hmostTokens⟩ := max?_tokensPerAttentionRank htp hlen hne
  rw [hmostTokens] at hexceeds ⊢
  simp [planStage, htokens, hmost, hexceeds, bind, Except.bind, throw, throwThe, MonadExceptOf.throw]

/-- The slice of counts up to `most` is at most the slice of `most`. -/
theorem mostTokens_le (htp : 0 < tp) (hlen : md.counts.length * tp = attnSize) (hne : md.counts ≠ [])
    {most : Nat} (hone : 1 ≤ most) (hle : ∀ count ∈ md.counts, count ≤ (most : Int)) :
    mostTokens md tp ≤ most ⌈/⌉ tp := by
  obtain ⟨tokens, slice, htokens, hmax, hmostTokens⟩ := max?_tokensPerAttentionRank htp hlen hne
  rw [hmostTokens]
  exact max?_le_ceilDiv htp htokens hmax hone hle

end Stage

/-- Counts within what a step can have are planned when the capacity is
derived and the granularity divides it. An explicit capacity is a limit: a
stage is planned when its rounded slice fits it, and refused otherwise. -/
theorem planStage_admitted (o : DeepEPM2NOptions) (ho : o.validate = .ok ())
    (maxNumBatchedTokens maxCudagraphCaptureSize tp attnSize : Nat) (cudagraphCaptureSizes : List Nat)
    (hbatched : 1 ≤ maxNumBatchedTokens) (htp : 1 ≤ tp) (graphMode : Bool) (md : AFDDPMetadata)
    (hlen : md.counts.length * tp = attnSize) (hne : md.counts ≠ [])
    (hle : ∀ count ∈ md.counts, count ≤ (max maxNumBatchedTokens maxCudagraphCaptureSize : Nat)) :
    let capacity := o.resolveCapacityTokensPerRank maxNumBatchedTokens maxCudagraphCaptureSize tp
    let bucket := roundUp o.bucketGranularity.toNat (mostTokens md tp)
    let result :=
      o.planStage maxNumBatchedTokens maxCudagraphCaptureSize tp cudagraphCaptureSizes attnSize graphMode md
    let planned := ∃ plan, result = .ok plan ∧ (∀ t ∈ plan.tokensPerAttnRank, t ≤ plan.bucket) ∧
      plan.bucket ≤ capacity
    (o.capacityTokensPerRank = none → o.bucketGranularity.toNat ∣ capacity → planned) ∧
    (∀ explicit, o.capacityTokensPerRank = some explicit → (bucket ≤ capacity → planned) ∧
        (capacity < bucket →
          result = .error
          s!"dispatch bucket {bucket} exceeds capacity_tokens_per_rank={capacity}")) := by
  intro capacity bucket result planned
  obtain ⟨-, hgranularity, -⟩ := DeepEPM2NOptions.validate_ok ho
  have hg : 0 < o.bucketGranularity.toNat := by omega
  constructor
  · intro hderived hdvd
    have hcapacity : capacity = max maxNumBatchedTokens maxCudagraphCaptureSize ⌈/⌉ tp := by
      simp only [capacity, DeepEPM2NOptions.resolveCapacityTokensPerRank, hderived]
    have hmost : mostTokens md tp ≤ capacity := hcapacity ▸
      mostTokens_le htp hlen hne (hbatched.trans (le_max_left _ _)) hle
    exact planStage_of_fits htp hg hlen hne (roundUp_le_of_dvd hg hmost hdvd)
  · intro explicit _
    exact ⟨planStage_of_fits htp hg hlen hne, planStage_of_exceeds htp hlen hne⟩

/-- A derived capacity, on three TP ranks. -/
theorem planStage_admitted_derived :
    let capacity := DeepEPM2NOptions.resolveCapacityTokensPerRank {} 8192 512 3
    capacity = 2731 ∧
    ∃ plan, DeepEPM2NOptions.planStage {} 8192 512 3 [256, 512] 6 false ⟨[8192, 7], 8192⟩ = .ok plan ∧
      (∀ t ∈ plan.tokensPerAttnRank, t ≤ plan.bucket) ∧ plan.bucket ≤ capacity := by
  refine ⟨rfl, (planStage_admitted {} rfl 8192 512 3 6 [256, 512] (by decide) (by decide) false
    ⟨[8192, 7], 8192⟩ rfl (by decide) ?_).1 rfl (one_dvd _)⟩
  decide

/-- A capacity set below what a step can have refuses a step of 65 tokens. -/
theorem explicit_capacity_refuses :
    let o : DeepEPM2NOptions := { capacityTokensPerRank := some 64 }
    let md : AFDDPMetadata := ⟨[65], 65⟩
    o.validate = .ok () ∧ (∀ count ∈ md.counts, count ≤ (max 8192 512 : Nat)) ∧
      o.planStage 8192 512 1 [256, 512] 1 false md =
        .error "dispatch bucket 65 exceeds capacity_tokens_per_rank=64" := by
  refine ⟨rfl, by decide, ?_⟩
  decide +kernel

end AfdPlugin.Deepep
