import AfdPlugin.Connectors.P2p
/-!
# Control payloads of the Attention runner

Before each forward the Attention runner publishes the token counts of the
forward's stages: one stage for the whole batch, or one for each micro-batch.
-/

namespace AfdPlugin.AttentionMetadata

open P2p

/-- A forward's batch as vLLM prepares it: its DP metadata, the token counts
of its micro-batches, and the tokens of the whole batch. -/
structure Batch where
  dpMetadata : Option AFDDPMetadata
  ubatchSlices : List Int32
  numTokens : Int32
  /-- the padded size, when the batch runs as a FULL CUDA graph -/
  paddedGraphTokens : Option Int32

/-- `if ubatch_slices and len(ubatch_slices) > 1`. -/
def Batch.ubatched (b : Batch) : Prop := 1 < b.ubatchSlices.length

instance (b : Batch) : Decidable b.ubatched := inferInstanceAs (Decidable (1 < b.ubatchSlices.length))

/-- `build_ubatch_dp_metadata_list`: every DP rank runs the same slices. -/
def buildUbatchDpMetadataList (dpSize : Nat) (ubatchSlices : List Int32) : List AFDDPMetadata :=
  if dpSize ≤ 1 then ubatchSlices.map fun numTokens => ⟨[numTokens], numTokens⟩
  else ubatchSlices.map fun numTokens => ⟨List.replicate dpSize numTokens, numTokens⟩

/-- `build_capture_dp_metadata`. -/
def buildCaptureDpMetadata (dpSize : Nat) (numTokens : Int32) : AFDDPMetadata :=
  ⟨List.replicate dpSize numTokens, numTokens⟩

/-- `_ensure_dp_metadata`: without DP the counts are the transaction's own. -/
def ensureDpMetadata (dpSize : Nat) (tokensLens : List Int32) :
    Option AFDDPMetadata → Except String AFDDPMetadata
  | some md => .ok md
  | none =>
    if dpSize ≠ 1 then .error "AFD expected vLLM DPMetadata for attention DP > 1"
    else
      match tokensLens with
      | [numTokens] => .ok ⟨[numTokens], numTokens⟩
      | _ => .error "AFD DP=1 fallback only supports one stage"

/-- The token counts of a transaction's stages, `tokens_lens`. -/
def Batch.tokensLens (b : Batch) : List Int32 := if b.ubatched then b.ubatchSlices else [b.numTokens]

/-- The DP metadata an eager batch, or the descriptor of a FULL graph, publishes. -/
def Batch.publishedDpMetadata (dpSize : Nat) (b : Batch) : Option AFDDPMetadata :=
  match b.paddedGraphTokens with
  | some n => if b.ubatchSlices = [] then some (buildCaptureDpMetadata dpSize (max 1 n)) else b.dpMetadata
  | none => b.dpMetadata

/-- `send_dp_metadata`: the payload's stages. -/
def dpMetadataList (dpSize : Nat) (b : Batch) : Except String (Dict Int AFDDPMetadata) :=
  if b.ubatched then
    .ok (Dict.setAll ∅
      ((buildUbatchDpMetadataList dpSize b.ubatchSlices).zipIdx.map fun e => ((e.2 : Int), e.1)))
  else do
    let md ← ensureDpMetadata dpSize b.tokensLens (b.publishedDpMetadata dpSize)
    .ok (Dict.set ∅ 0 md)

/-- The rows of each stage's hidden states. -/
def Batch.stageRows (b : Batch) : List Int32 :=
  if b.ubatched then b.ubatchSlices
  else
    match b.paddedGraphTokens with
    | some n => if b.ubatchSlices = [] then [max 1 n] else [b.numTokens]
    | none => [b.numTokens]

/-- What vLLM guarantees of a batch on DP rank `dpRank`: no stage is empty,
and the rank's own entry of the DP metadata is the batch's token count. -/
structure Batch.Prepared (b : Batch) (dpSize dpRank : Nat) : Prop where
  rows_pos : ∀ n ∈ b.stageRows, 1 ≤ n.toInt
  length_counts : ∀ md, b.dpMetadata = some md → md.counts.length = dpSize
  own_count : ∀ md, b.dpMetadata = some md → md.counts.getD dpRank 0 = b.numTokens.toInt

/-! ## Every stage is announced with its own rows -/

/-- The counts of a payload cover the DP ranks; each is expanded over the
rank's TP peers. -/
theorem numTokensForAttentionRank_expanded {D tp a : Nat} (hD : 0 < D) (ha : a < D * tp)
    {md : AFDDPMetadata} (hlen : md.counts.length = D) :
    numTokensForAttentionRank md (a : Nat) (D * tp) = max 1 (md.counts.getD (a / tp) 0) := by
  have htp : 0 < tp := Nat.pos_of_ne_zero fun h => by simp [h] at ha
  have hne : md.counts ≠ [] := fun h => by rw [h] at hlen; simp at hlen; omega
  have hdiv : D * tp / D = tp := Nat.mul_div_cancel_left tp hD
  unfold numTokensForAttentionRank
  rw [if_neg hne]
  simp only [hlen, Nat.mul_mod_right, and_true, hdiv]
  by_cases h1 : D < D * tp
  · rw [if_pos h1,
      if_pos ⟨Int.natCast_nonneg
        a, by simpa only [List.length_map, List.length_range, Nat.cast_lt] using ha⟩, Int.toNat_natCast,
      List.getD_eq_getElem?_getD, List.getElem?_map, List.getElem?_range ha]
    rfl
  · have htp1 : tp = 1 := by
      by_contra hne1
      have h2 : 2 ≤ tp := by omega
      exact h1 (by nlinarith)
    subst htp1
    rw [if_neg h1, if_pos (by simp only [hlen]; omega), Int.toNat_natCast, Nat.div_one]

theorem counts_replicate (n : Nat) (k m : Int32) :
    (⟨List.replicate n k, m⟩ : AFDDPMetadata).counts = List.replicate n k.toInt := List.map_replicate

/-- A stage's metadata that holds one count for all DP ranks. -/
theorem rows_of_replicate {D tp a : Nat} (hD : 0 < D) (ha : a < D * tp) {k m : Int32} (hk : 1 ≤ k.toInt) :
    numTokensForAttentionRank ⟨List.replicate D k, m⟩ (a : Nat) (D * tp) = k.toInt := by
  have hlt : a / tp < D := Nat.div_lt_of_lt_mul (by rwa [Nat.mul_comm])
  rw [numTokensForAttentionRank_expanded hD ha (by rw [counts_replicate, List.length_replicate]),
    counts_replicate, List.getD_eq_getElem?_getD, List.getElem?_replicate_of_lt hlt]
  exact max_eq_right hk

theorem keys_zipIdx (l : List AFDDPMetadata) :
    (l.zipIdx.map fun e => ((e.2 : Int), e.1)).map Prod.fst = (List.range l.length).map Nat.cast := by
  rw [List.map_map, List.range_eq_range', ← List.zipIdx_map_snd 0 l, List.map_map]
  rfl

theorem nodup_range_cast (n : Nat) : ((List.range n).map (Nat.cast : Nat → Int)).Nodup :=
  List.nodup_range.map Nat.cast_injective

/-- A payload's stages are numbered from zero in the order of the batch. -/
theorem keys_dpMetadataList {D : Nat} {b : Batch} {d : Dict Int AFDDPMetadata}
    (h : dpMetadataList D b = .ok d) :
    d.keys = (List.range b.stageRows.length).map Nat.cast := by
  unfold dpMetadataList at h
  unfold Batch.stageRows
  split at h
  · rename_i hu
    have hlen : (buildUbatchDpMetadataList D b.ubatchSlices).length = b.ubatchSlices.length := by
      unfold buildUbatchDpMetadataList
      split <;> exact List.length_map _
    have hn := nodup_range_cast b.ubatchSlices.length
    rw [← hlen, ← keys_zipIdx] at hn
    cases h
    rw [if_pos hu, Dict.keys, Dict.entries_empty_setAll hn, keys_zipIdx, hlen]
  · rename_i hu
    cases hmd : ensureDpMetadata D b.tokensLens (b.publishedDpMetadata D) with
    | error e => rw [hmd] at h; cases h
    | ok md =>
      rw [hmd] at h
      cases h
      rw [if_neg hu]
      split <;> try split
      all_goals rfl

theorem ubatch_metadata_rows {D tp a : Nat} (hD : 0 < D) (ha : a < D * tp) {slices : List Int32}
    {i : Nat} {n : Int32} (hi : slices[i]? = some n) (hn : 1 ≤ n.toInt) :
    ∃ md, (buildUbatchDpMetadataList D slices)[i]? = some md ∧
      numTokensForAttentionRank md (a : Nat) (D * tp) = n.toInt := by
  unfold buildUbatchDpMetadataList
  split
  · have hone : D = 1 := by omega
    subst hone
    exact ⟨⟨[n], n⟩, by simp [hi], rows_of_replicate hD ha (m := n) hn⟩
  · exact ⟨⟨List.replicate D n, n⟩, by simp [hi], rows_of_replicate hD ha hn⟩

theorem ensured_rows {D tp a : Nat} (hD : 0 < D) (ha : a < D * tp) {b : Batch} (hb : b.Prepared D (a / tp))
    (hu : ¬ b.ubatched) {md : AFDDPMetadata}
    (h : ensureDpMetadata D b.tokensLens (b.publishedDpMetadata D) = .ok md) {n : Int32}
    (hn : b.stageRows = [n]) : numTokensForAttentionRank md (a : Nat) (D * tp) = n.toInt := by
  have hpos : 1 ≤ n.toInt := hb.rows_pos n (by simp [hn])
  -- an eager batch: native metadata where there is some, else the transaction's own count
  have heager : b.publishedDpMetadata D = b.dpMetadata → n = b.numTokens →
      numTokensForAttentionRank md (a : Nat) (D * tp) = n.toInt := by
    intro hp hnb
    rw [hp] at h
    cases hmd : b.dpMetadata with
    | some own =>
      rw [hmd] at h
      cases h
      rw [numTokensForAttentionRank_expanded hD ha (hb.length_counts _ hmd), hb.own_count _ hmd, ← hnb]
      exact max_eq_right hpos
    | none =>
      rw [hmd] at h
      simp only [ensureDpMetadata, Batch.tokensLens, if_neg hu] at h
      split at h
      · cases h
      · rename_i hone
        have hone : D = 1 := by simpa using hone
        subst hone
        cases h
        rw [← hnb]
        exact rows_of_replicate hD ha (m := n) hpos
  unfold Batch.stageRows at hn
  rw [if_neg hu] at hn
  cases hg : b.paddedGraphTokens with
  | none =>
    rw [hg] at hn
    cases hn
    exact heager (by simp only [Batch.publishedDpMetadata, hg]) rfl
  | some k =>
    rw [hg] at hn
    by_cases hs : b.ubatchSlices = []
    · simp only [hs, if_true] at hn
      cases hn
      simp only [Batch.publishedDpMetadata, hg, hs, if_true] at h
      cases h
      exact rows_of_replicate hD ha hpos
    · simp only [hs, if_false] at hn
      cases hn
      exact heager (by simp only [Batch.publishedDpMetadata, hg, hs, if_false]) rfl

/-- Both ends of a pair derive, from the payload, the rows the stage really has. -/
theorem rows_of_dpMetadataList {D tp a : Nat} (hD : 0 < D) (ha : a < D * tp) {b : Batch}
    (hb : b.Prepared D (a / tp)) {d : Dict Int AFDDPMetadata} (h : dpMetadataList D b = .ok d) {i : Nat}
    {n : Int32} (hi : b.stageRows[i]? = some n) :
    ∃ md, d.get? (i : Int) = some md ∧ numTokensForAttentionRank md (a : Nat) (D * tp) = n.toInt := by
  have hpos : 1 ≤ n.toInt := hb.rows_pos n (List.mem_of_getElem? hi)
  unfold dpMetadataList at h
  split at h
  · rename_i hu
    rw [Batch.stageRows, if_pos hu] at hi
    obtain ⟨md, hmd, hrows⟩ := ubatch_metadata_rows hD ha hi hpos
    have hn := nodup_range_cast (buildUbatchDpMetadataList D b.ubatchSlices).length
    rw [← keys_zipIdx] at hn
    cases h
    refine ⟨md, Dict.get?_setAll_of_mem _ hn (List.mem_map.2 ⟨(md, i), ?_, rfl⟩), hrows⟩
    exact List.mem_zipIdx_iff_getElem?.2 hmd
  · rename_i hu
    cases hmd : ensureDpMetadata D b.tokensLens (b.publishedDpMetadata D) with
    | error e => rw [hmd] at h; cases h
    | ok md =>
      rw [hmd] at h
      cases h
      have hone : ∃ m, b.stageRows = [m] := by
        unfold Batch.stageRows
        rw [if_neg hu]
        split <;> try split
        all_goals exact ⟨_, rfl⟩
      obtain ⟨m, hm⟩ := hone
      rw [hm] at hi
      obtain ⟨rfl, rfl⟩ : i = 0 ∧ m = n := by
        cases i with
        | zero => exact ⟨rfl, by simpa using hi⟩
        | succ i => simp at hi
      exact ⟨md, by simp, ensured_rows hD ha hb hu hmd hm⟩

end AfdPlugin.AttentionMetadata
