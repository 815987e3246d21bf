import AfdPlugin.Connectors.Metadata
import AfdPlugin.Lib.Rungs
/-!
# Dispatch buckets of the DeepEP M2N connector

DeepEP compiles its kernels per bucket, so every stage rounds its token count
up to a bucket of a fixed ladder, and the buckets an eager step can get are
compiled at startup. The plan and the ladder are computed by different
functions from the same settings.
-/

namespace AfdPlugin.Deepep

/-- Per-stage values every rank derives from the same control payload. -/
structure StagePlan where
  tokensPerAttnRank : List Int
  bucket : Nat
  doCpuSync : Bool
  graphMode : Bool
  deriving DecidableEq, Repr

/-- Token count every Attention rank dispatches for one stage: each TP peer of
a DP rank dispatches a `ceil(count / attn_tp_size)` slice. -/
def tokensPerAttentionRank (md : AFDDPMetadata) (attnSize attnTpSize : Nat) : Except String (List Int) :=
  if md.counts.length * attnTpSize ≠ attnSize then
    .error (s!"DP metadata has {md.counts.length} token counts; with Attention TP " ++
      s!"{attnTpSize} that does not cover {attnSize} Attention ranks")
  else .ok (md.counts.flatMap fun count => List.replicate attnTpSize (-(-count / attnTpSize)))

/-- The bucket a step of `bucket` tokens rounds up to: the capacity above the
ladder, otherwise the next rung. -/
def ladderBucket (ladder : List Nat) (capacityTokensPerRank bucket : Nat) : Except String Nat :=
  match ladder.getLast? with
  | none => .ok capacityTokensPerRank
  | some last =>
    if last < bucket then .ok capacityTokensPerRank
    else match ladder.find? (bucket ≤ ·) with
      | some rung => .ok rung
      | none => .error "StopIteration"

def planStage (md : AFDDPMetadata) (attnSize attnTpSize capacityTokensPerRank bucketGranularity : Nat)
    (graphMode : Bool) (bucketLadder : List Nat) (cpuSyncMinTokens : Nat) : Except String StagePlan := do
  let tokens ← tokensPerAttentionRank md attnSize attnTpSize
  match tokens.max? with
  | none => throw "max() arg is an empty sequence"
  | some most =>
    let maxTokens := (max 1 most).toNat
    let bucket := roundUp bucketGranularity maxTokens
    if bucket > capacityTokensPerRank then
      throw s!"dispatch bucket {bucket} exceeds capacity_tokens_per_rank={capacityTokensPerRank}"
    -- eager steps read the real receive counts, unless the bucket is small
    let doCpuSync := !graphMode && decide (cpuSyncMinTokens ≤ bucket)
    let bucket ← ladderBucket bucketLadder capacityTokensPerRank bucket
    pure ⟨tokens, bucket, doCpuSync, graphMode⟩

/-- The per-rank bucket of a CUDA-graph capture size. -/
def captureRung (attnTpSize bucketGranularity size : Nat) : Nat :=
  roundUp bucketGranularity (size ⌈/⌉ attnTpSize)

/-- Largest bucket a stage can dispatch without the host sync. -/
def noSyncBucketLimit (capacityTokensPerRank maxCudagraphCaptureSize attnTpSize bucketGranularity
    cpuSyncMinTokens : Nat) : Nat :=
  min capacityTokensPerRank
    (max (captureRung attnTpSize bucketGranularity maxCudagraphCaptureSize) (cpuSyncMinTokens - 1))

/-- Sorted buckets that steps at or below the no-sync limit round up to. -/
def bucketLadder (capacityTokensPerRank : Nat) (cudagraphCaptureSizes : List Nat)
    (attnTpSize bucketGranularity cpuSyncMinTokens : Nat) : List Nat :=
  let limit := noSyncBucketLimit capacityTokensPerRank (cudagraphCaptureSizes.foldr max 0) attnTpSize
    bucketGranularity cpuSyncMinTokens
  if limit < 1 then []
  else
    let rungs := cudagraphCaptureSizes.map (captureRung attnTpSize bucketGranularity)
    sortedSet (limit :: rungs.filter fun rung => 1 ≤ rung ∧ rung ≤ limit)

/-- `(bucket, do_cpu_sync)` pairs `plan_stage` can give an eager step. -/
def precompileBuckets (ladder : List Nat) (capacityTokensPerRank cpuSyncMinTokens : Nat) :
    List (Nat × Bool) :=
  let buckets := (ladder.filter (cpuSyncMinTokens ≤ ·)).map (·, true) ++ [(capacityTokensPerRank, true)]
  let buckets :=
    if 0 < cpuSyncMinTokens ∧ ladder ≠ [] then
      let covering := (ladder.find? (cpuSyncMinTokens - 1 ≤ ·)).getD (ladder.getLastD 0)
      buckets ++ (ladder.filter (· ≤ covering)).map (·, false)
    else buckets
  buckets.eraseDups

/-! ## The ladder -/

section Ladder
variable {cap tp g m : Nat} {sizes : List Nat}

theorem pairwise_bucketLadder : (bucketLadder cap sizes tp g m).Pairwise (· < ·) := by
  simp only [bucketLadder]
  split
  · exact List.Pairwise.nil
  · exact pairwise_sortedSet _

theorem bucketLadder_le_limit {r : Nat} (h : r ∈ bucketLadder cap sizes tp g m) :
    r ≤ noSyncBucketLimit cap (sizes.foldr max 0) tp g m := by
  simp only [bucketLadder] at h
  split at h
  · cases h
  · rcases List.mem_cons.1 (mem_sortedSet.1 h) with rfl | h
    · exact le_rfl
    · exact (of_decide_eq_true (List.mem_filter.1 h).2).2

theorem limit_mem_bucketLadder (h : 1 ≤ noSyncBucketLimit cap (sizes.foldr max 0) tp g m) :
    noSyncBucketLimit cap (sizes.foldr max 0) tp g m ∈ bucketLadder cap sizes tp g m := by
  simp only [bucketLadder, not_lt.2 h, if_false]
  exact mem_sortedSet.2 List.mem_cons_self

theorem le_foldr_max {l : List Nat} {s : Nat} (h : s ∈ l) : s ≤ l.foldr max 0 := by
  induction l with
  | nil => cases h
  | cons x xs ih =>
    rcases List.mem_cons.1 h with rfl | h
    · exact le_max_left _ _
    · exact (ih h).trans (le_max_right _ _)

theorem captureRung_mono (htp : 0 < tp) (hg : 0 < g) {s s' : Nat} (h : s ≤ s') :
    captureRung tp g s ≤ captureRung tp g s' :=
  roundUp_mono hg (ceilDiv_mono htp h)

theorem one_le_captureRung (htp : 0 < tp) (hg : 0 < g) {s : Nat} (hs : 1 ≤ s) : 1 ≤ captureRung tp g s :=
  (one_le_ceilDiv htp hs).trans (le_roundUp hg _)

/-- A capture size whose rung fits the capacity has it on the ladder. -/
theorem captureRung_mem_bucketLadder (htp : 0 < tp) (hg : 0 < g) {s : Nat} (hs : s ∈ sizes) (h1 : 1 ≤ s)
    (hcap : captureRung tp g s ≤ cap) : captureRung tp g s ∈ bucketLadder cap sizes tp g m := by
  have hmax := captureRung_mono htp hg (le_foldr_max hs)
  have hlimit : captureRung tp g s ≤ noSyncBucketLimit cap (sizes.foldr max 0) tp g m :=
    le_min hcap (hmax.trans (le_max_left _ _))
  have hone := one_le_captureRung htp hg h1
  simp only [bucketLadder, not_lt.2 (hone.trans hlimit), if_false]
  refine mem_sortedSet.2 (List.mem_cons_of_mem _ (List.mem_filter.2 ⟨List.mem_map_of_mem hs, ?_⟩))
  exact decide_eq_true ⟨hone, hlimit⟩

end Ladder

/-! ## What a plan is -/

/-- The tokens of the fullest rank, at least one. -/
theorem planStage_ok {md : AFDDPMetadata} {attnSize tp cap g m : Nat} {graphMode : Bool} {ladder : List Nat}
    {plan : StagePlan} (h : planStage md attnSize tp cap g graphMode ladder m = .ok plan) :
    ∃ tokens most, tokensPerAttentionRank md attnSize tp = .ok tokens ∧ tokens.max? = some most ∧
      roundUp g (max 1 most).toNat ≤ cap ∧
      ladderBucket ladder cap (roundUp g (max 1 most).toNat) = .ok plan.bucket ∧
        plan.tokensPerAttnRank = tokens ∧
      plan.doCpuSync = (!graphMode && decide (m ≤ roundUp g (max 1 most).toNat)) ∧
        plan.graphMode = graphMode := by
  unfold planStage at h
  cases htokens : tokensPerAttentionRank md attnSize tp with
  | error e => simp [htokens, bind, Except.bind] at h
  | ok tokens =>
    cases hmost : tokens.max? with
    | none => simp [htokens, hmost, bind, Except.bind, throw, throwThe, MonadExceptOf.throw] at h
    | some most =>
      simp only [htokens, hmost, bind, Except.bind] at h
      split at h
      · simp [throw, throwThe, MonadExceptOf.throw] at h
      · rename_i hcap
        cases hb : ladderBucket ladder cap (roundUp g (max 1 most).toNat) with
        | error e => simp [hb] at h
        | ok bucket =>
          simp only [hb, pure, Except.pure, Except.ok.injEq] at h
          subst h
          exact ⟨tokens, most, rfl, hmost, not_lt.1 hcap, hb, rfl, rfl, rfl⟩

theorem ladderBucket_ok {ladder : List Nat} {cap b r : Nat} (h : ladderBucket ladder cap b = .ok r) :
    (r = cap ∧ ∀ last, ladder.getLast? = some last → last < b) ∨ ladder.find? (b ≤ ·) = some r := by
  unfold ladderBucket at h
  split at h
  · rename_i hnone
    exact .inl ⟨(Except.ok.inj h).symm, by simp [hnone]⟩
  · rename_i last hlast
    split at h
    · rename_i hlt
      refine .inl ⟨(Except.ok.inj h).symm, fun last' h' => ?_⟩
      rw [hlast, Option.some.injEq] at h'
      exact h' ▸ hlt
    · split at h
      · rename_i rung hrung
        exact .inr (Except.ok.inj h ▸ hrung)
      · cases h

/-- A bucket on the ladder is the next rung. -/
theorem find?_of_ladderBucket {ladder : List Nat} {cap b r x : Nat} (hl : ladder.Pairwise (· < ·))
    (h : ladderBucket ladder cap b = .ok r) (hx : x ∈ ladder) (hbx : b ≤ x) :
    ladder.find? (b ≤ ·) = some r := by
  rcases ladderBucket_ok h with ⟨-, hlast⟩ | h
  · obtain ⟨last, hl'⟩ := List.getLast?_isSome.2 (List.ne_nil_of_mem hx) |> Option.isSome_iff_exists.1
    have := le_getLast_of_mem hl hl' hx
    have := hlast last hl'
    omega
  · exact h

/-- The tokens of the ranks are the counts' slices. -/
theorem mem_of_tokensPerAttentionRank {md : AFDDPMetadata} {attnSize tp : Nat} {tokens : List Int}
    (h : tokensPerAttentionRank md attnSize tp = .ok tokens) (htp : 0 < tp) (t : Int) :
    t ∈ tokens ↔ ∃ c ∈ md.counts, t = -(-c / tp) := by
  unfold tokensPerAttentionRank at h
  split at h
  · cases h
  · rw [← Except.ok.inj h, List.mem_flatMap]
    simp only [List.mem_replicate]
    exact exists_congr fun c => and_congr_right fun _ => ⟨fun h => h.2, fun h => ⟨htp.ne', h⟩⟩

/-- Counts padded to at most `s` need at most the slice of `s`. -/
theorem max?_le_ceilDiv {md : AFDDPMetadata} {attnSize tp s : Nat} {tokens : List Int} {most : Int}
    (htp : 0 < tp) (h : tokensPerAttentionRank md attnSize tp = .ok tokens)
    (hmost : tokens.max? = some most) (hs : 1 ≤ s) (hle : ∀ c ∈ md.counts, c ≤ (s : Int)) :
    (max 1 most).toNat ≤ s ⌈/⌉ tp := by
  obtain ⟨c, hc, rfl⟩ := (mem_of_tokensPerAttentionRank h htp most).1 (List.max?_mem hmost)
  have hslice : -(-c / tp) ≤ ((s ⌈/⌉ tp : Nat) : Int) := by
    rw [← neg_neg_ediv htp, neg_neg_ediv_le_iff htp]
    exact (hle c hc).trans ((neg_neg_ediv_le_iff htp _ _).1 le_rfl)
  have hone := one_le_ceilDiv htp hs
  omega

theorem le_ladderBucket {ladder : List Nat} {cap b r : Nat} (hcap : b ≤ cap)
    (h : ladderBucket ladder cap b = .ok r) :
    b ≤ r := by
  rcases ladderBucket_ok h with ⟨rfl, -⟩ | h
  · exact hcap
  · simpa using List.find?_some h

/-- The bucket covers every rank's slice, and at least one row. -/
theorem le_bucket_of_planStage {md : AFDDPMetadata} {attnSize tp cap g m : Nat} {graphMode : Bool}
    {ladder : List Nat} {plan : StagePlan} (hg : 0 < g)
    (h : planStage md attnSize tp cap g graphMode ladder m = .ok plan) :
    1 ≤ plan.bucket ∧ ∀ t ∈ plan.tokensPerAttnRank, t ≤ plan.bucket := by
  obtain ⟨tokens, most, -, hmost, hcap, hbucket, htokens, -, -⟩ := planStage_ok h
  have hround := (le_roundUp hg (max 1 most).toNat).trans (le_ladderBucket hcap hbucket)
  refine ⟨by omega, fun t ht => ?_⟩
  have hle := (List.max?_eq_some_iff.1 hmost).2 t (htokens ▸ ht)
  omega

/-! ## The precompiled pairs -/

section Precompile
variable {ladder : List Nat} {cap m : Nat}

theorem mem_precompileBuckets {p : Nat × Bool} :
    p ∈ precompileBuckets ladder cap m ↔
      (p.2 = true ∧ (p.1 ∈ ladder ∧ m ≤ p.1 ∨ p.1 = cap)) ∨
      (p.2 = false ∧ 0 < m ∧ p.1 ∈ ladder ∧
        p.1 ≤ (ladder.find? (m - 1 ≤ ·)).getD (ladder.getLastD 0)) := by
  obtain ⟨b, sync⟩ := p
  rw [precompileBuckets, List.mem_eraseDups]
  have hne : b ∈ ladder → ladder ≠ [] := List.ne_nil_of_mem
  cases sync <;> split <;> simp_all

/-- An unsynced eager bucket, below the threshold, is at most the rung that
covers the threshold. -/
theorem le_covering {b r : Nat} (hl : ladder.Pairwise (· < ·)) (hr : ladder.find? (b ≤ ·) = some r)
    (hb : b ≤ m - 1) :
    r ≤ (ladder.find? (m - 1 ≤ ·)).getD (ladder.getLastD 0) := by
  cases hc : ladder.find? (m - 1 ≤ ·) with
  | some c =>
    have hmc : m - 1 ≤ c := by simpa using List.find?_some hc
    exact find?_le_least hl hr (List.mem_of_find?_eq_some hc) (hb.trans hmc)
  | none =>
    have hmem := List.mem_of_find?_eq_some hr
    obtain ⟨last, hlast⟩ := List.getLast?_isSome.2 (List.ne_nil_of_mem hmem) |> Option.isSome_iff_exists.1
    rw [Option.getD_none, List.getLastD_eq_getLast?, hlast]
    exact le_getLast_of_mem hl hlast hmem

end Precompile

/-! ## Plans against the ladder of the same settings -/

section Plan
variable {cap tp g m attnSize : Nat} {sizes : List Nat} {md : AFDDPMetadata} {graphMode : Bool}
  {plan : StagePlan}

/-- A step whose rounded bucket is at most the no-sync limit lands on the
ladder's next rung. -/
theorem find?_of_le_limit {b r : Nat} (h1 : 1 ≤ b)
    (hb : b ≤ noSyncBucketLimit cap (sizes.foldr max 0) tp g m)
    (h : ladderBucket (bucketLadder cap sizes tp g m) cap b = .ok r) :
    (bucketLadder cap sizes tp g m).find? (b ≤ ·) = some r :=
  find?_of_ladderBucket pairwise_bucketLadder h (limit_mem_bucketLadder (h1.trans hb)) hb

theorem one_le_bucket (hg : 0 < g) (most : Int) : 1 ≤ roundUp g (max 1 most).toNat :=
  le_trans (by omega) (le_roundUp hg _)

theorem planStage_eager_mem (hg : 0 < g)
    (h : planStage md attnSize tp cap g false (bucketLadder cap sizes tp g m) m = .ok plan) :
    (plan.bucket, plan.doCpuSync) ∈ precompileBuckets (bucketLadder cap sizes tp g m) cap m := by
  obtain ⟨tokens, most, -, -, hcap, hbucket, -, hsync, -⟩ := planStage_ok h
  have hone := one_le_bucket hg most
  generalize roundUp g (max 1 most).toNat = b at *
  rw [mem_precompileBuckets]
  by_cases hm : m ≤ b
  · -- synced: the next rung is at or above the threshold, or there is none
    refine .inl ⟨by simp [hsync, hm], ?_⟩
    rcases ladderBucket_ok hbucket with ⟨hr, -⟩ | hr
    · exact .inr hr
    · have hle : b ≤ plan.bucket := by simpa using List.find?_some hr
      exact .inl ⟨List.mem_of_find?_eq_some hr, hm.trans hle⟩
  · -- unsynced: below the threshold, so at most the no-sync limit
    have hlimit : b ≤ noSyncBucketLimit cap (sizes.foldr max 0) tp g m :=
      le_min hcap (le_trans (by omega) (le_max_right _ _))
    have hr := find?_of_le_limit hone hlimit hbucket
    exact .inr ⟨by simp [hsync, hm], by omega, List.mem_of_find?_eq_some hr,
      le_covering pairwise_bucketLadder hr (by omega)⟩

/-- Without the host sync the bucket is a rung, provided a graph step's counts
fit a capture size. -/
theorem planStage_no_sync_mem (htp : 0 < tp) (hg : 0 < g)
    (h : planStage md attnSize tp cap g graphMode (bucketLadder cap sizes tp g m) m = .ok plan)
    (hsync : plan.doCpuSync = false)
    (hgraph : graphMode = true → ∃ s ∈ sizes, 1 ≤ s ∧ ∀ c ∈ md.counts, c ≤ (s : Int)) :
    plan.bucket ∈ bucketLadder cap sizes tp g m := by
  obtain ⟨tokens, most, htokens, hmost, hcap, hbucket, -, hplan, -⟩ := planStage_ok h
  refine List.mem_of_find?_eq_some (find?_of_le_limit (one_le_bucket hg most) (le_min hcap ?_) hbucket)
  cases graphMode with
  | false =>
    rw [hsync, Bool.not_false, Bool.true_and, eq_comm, decide_eq_false_iff_not] at hplan
    exact le_trans (by omega) (le_max_right _ _)
  | true =>
    obtain ⟨s, hs, h1, hle⟩ := hgraph rfl
    have hmax := roundUp_mono hg (max?_le_ceilDiv htp htokens hmost h1 hle)
    exact (hmax.trans (captureRung_mono htp hg (le_foldr_max hs))).trans (le_max_left _ _)

/-- A step padded to a capture size lands on that size's rung. -/
theorem planStage_padded (htp : 0 < tp) (hg : 0 < g)
    (h : planStage md attnSize tp cap g graphMode (bucketLadder cap sizes tp g m) m = .ok plan) {s : Nat}
    (hs : s ∈ sizes) (h1 : 1 ≤ s) (hpad : (s : Int) ∈ md.counts) (hle : ∀ c ∈ md.counts, c ≤ (s : Int)) :
    plan.bucket = captureRung tp g s ∧ captureRung tp g s ∈ bucketLadder cap sizes tp g m := by
  obtain ⟨tokens, most, htokens, hmost, hcap, hbucket, -, -, -⟩ := planStage_ok h
  have hle' := max?_le_ceilDiv htp htokens hmost h1 hle
  have hge : ((s ⌈/⌉ tp : Nat) : Int) ≤ most := by
    rw [← neg_neg_ediv htp]
    exact (List.max?_eq_some_iff.1 hmost).2 _
      ((mem_of_tokensPerAttentionRank htokens htp _).2 ⟨s, hpad, rfl⟩)
  have hmax : (max 1 most).toNat = s ⌈/⌉ tp := by
    have := one_le_ceilDiv htp h1
    omega
  rw [hmax] at hcap hbucket
  have hmem : captureRung tp g s ∈ bucketLadder cap sizes tp g m :=
    captureRung_mem_bucketLadder htp hg hs h1 hcap
  have hr := find?_of_ladderBucket pairwise_bucketLadder hbucket hmem le_rfl
  rw [show roundUp g (s ⌈/⌉ tp) = captureRung tp g s from rfl,
    find?_self_of_mem pairwise_bucketLadder hmem] at hr
  exact ⟨(Option.some.inj hr).symm, hmem⟩

/-- The precompiled bucket set covers the plans of the same settings: every
pair of an eager step is precompiled; a step without the host sync (in graph
mode one whose counts fit a capture size) gets a rung of the ladder, at most
the no-sync limit; a step padded to a capture size gets that size's rung; and
the ladder is strictly increasing and ends at or below the capacity. -/
theorem bucket_plan_covered (cap tp g m attnSize : Nat) (sizes : List Nat) (htp : 1 ≤ tp) (hg : 1 ≤ g) :
    (∀ md graphMode plan, planStage md attnSize tp cap g graphMode (bucketLadder cap sizes tp g m)
      m = .ok plan →
      (graphMode = false →
        (plan.bucket, plan.doCpuSync) ∈ precompileBuckets (bucketLadder cap sizes tp g m) cap m) ∧
      (plan.doCpuSync = false → (graphMode = true → ∃ s ∈ sizes, 1 ≤ s ∧ ∀ c ∈ md.counts, c ≤ (s : Int)) →
        plan.bucket ∈ bucketLadder cap sizes tp g m ∧
          plan.bucket ≤ noSyncBucketLimit cap (sizes.foldr max 0) tp g m) ∧
      (∀ s ∈ sizes, 1 ≤ s → (s : Int) ∈ md.counts → (∀ c ∈ md.counts, c ≤ (s : Int)) →
        plan.bucket = captureRung tp g s ∧ captureRung tp g s ∈ bucketLadder cap sizes tp g m)) ∧
    (bucketLadder cap sizes tp g m).Pairwise (· < ·) ∧
    (∀ last, (bucketLadder cap sizes tp g m).getLast? = some last → last ≤ cap) := by
  refine ⟨fun md graphMode plan h => ⟨?_, fun hsync hgraph => ?_, fun s hs h1 hpad hle => ?_⟩,
    pairwise_bucketLadder, fun last hlast => ?_⟩
  · rintro rfl
    exact planStage_eager_mem hg h
  · have hmem := planStage_no_sync_mem htp hg h hsync hgraph
    exact ⟨hmem, bucketLadder_le_limit hmem⟩
  · exact planStage_padded htp hg h hs h1 hpad hle
  · exact (bucketLadder_le_limit (List.mem_of_getLast? hlast)).trans (min_le_left _ _)

/-- Capture sizes 8 and 16 on two TP ranks, granularity 8, threshold 20. -/
theorem bucket_plan_covered_tp_two :
    planStage ⟨[9, 16], 16⟩ 4 2 64 8 true (bucketLadder 64 [8, 16] 2 8 20) 20 = .ok ⟨[5, 5, 8, 8], 8,
      false, true⟩ ∧
      8 ∈ bucketLadder 64 [8, 16] 2 8 20 :=
  ⟨by decide +kernel,
    (((bucket_plan_covered 64 2 8 20 4 [8, 16] (by decide) (by decide)).1 ⟨[9, 16], 16⟩ true
      ⟨[5, 5, 8, 8], 8, false, true⟩ (by decide +kernel)).2.2 16 (by decide) (by decide) (by decide)
      (by decide)).2⟩

/-- A graph step above every capture size is planned without the host sync
and gets the capacity, which is no rung. -/
theorem graph_step_above_capture_sizes :
    planStage ⟨[50], 50⟩ 1 1 100 1 true (bucketLadder 100 [8] 1 1 0) 0 = .ok ⟨[50], 100, false, true⟩ ∧
      bucketLadder 100 [8] 1 1 0 = [8] ∧ 100 ∉ bucketLadder 100 [8] 1 1 0 := by
  decide +kernel

end Plan

end AfdPlugin.Deepep
