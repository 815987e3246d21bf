import AfdPlugin.Compat.NpuFeatureValidation
import AfdPlugin.Connectors.AsyncCam
import AfdPlugin.Models.SharedExperts
/-!
# The round trip through the Async CAM layout

What the ranks of a TP group send are blocks of equal size of the padded
tokens. Restoring what comes back gives every rank the rows it started with, and
no rank sends more than its share of the batch capacity.
-/

namespace AfdPlugin.Cam

open SharedExperts (blockRows rankRows sliceRows_map length_sliceRows flatMap_blocks map_rankRows)
open Collective

/-! ## Restoring -/

section Restore
variable {Y : Type}

/-- `_all_gather_rows` on every rank's tensor. -/
def allGatherRows (tpSize : Nat) (tensor : Nat → List Y) (expectedRows : Nat) : Except String (List Y) := do
  let gathered ← allGather tpSize tensor
  if gathered.length ≠ expectedRows then
    .error ("Async CAM TP all-gather returned an unexpected row count: " ++
      s!"expected={expectedRows}, actual={gathered.length}")
  else .ok gathered

/-- `restore_cam_dispatch_output` on the rank of `layout`, where `localOutput` is
every rank's output. -/
def restoreCamDispatchOutput (localOutput : Nat → List Y) (layout : CAMDispatchLayout) :
    Except String (List Y) :=
  let actual := (localOutput layout.tpRank).length
  if actual ≠ layout.localTokens then
    .error ("CAM output does not match the dispatched rank-local token count: " ++
      s!"expected={layout.localTokens}, actual={actual}")
  else if ¬ layout.requiresTpAllGather then .ok (localOutput layout.tpRank)
  else do
    let globalOutput ← allGatherRows layout.tpSize localOutput layout.paddedTokens
    .ok (globalOutput.take layout.parentTokens)

end Restore

/-! ## What a group sends -/

/-- A token, or a padding row, in the four tensors of a payload. -/
structure TokenRow (H W L : Type) (topk : Nat) where
  hiddenStates : H
  topkWeights : Vector W topk
  topkIds : Vector Nat topk
  routerLogits : L

section Group
variable {H W L : Type} [Zero H] [Zero W] [Zero L] {topk : Nat}

instance : Zero (TokenRow H W L topk) := ⟨⟨0, 0, 0, 0⟩⟩

/-- `prepare_cam_dispatch_payload` of the tensors that hold the rows `rows`. -/
def prepareRows (rows : List (TokenRow H W L topk)) (withLogits sp : Bool) (tpRank tpSize : Nat) :
    Except String (CAMDispatchPayload H W L topk) :=
  prepareCamDispatchPayload (rows.map (·.hiddenStates)) (rows.map (·.topkWeights)) (rows.map (·.topkIds))
    (if withLogits then some (rows.map (·.routerLogits)) else none) sp tpRank tpSize

/-- The tensors of a payload hold the rows `rows`. -/
structure Carries (payload : CAMDispatchPayload H W L topk) (rows : List (TokenRow H W L topk))
    (withLogits : Bool) :
    Prop where
  hiddenStates : payload.hiddenStates = rows.map (·.hiddenStates)
  topkWeights : payload.topkWeights = rows.map (·.topkWeights)
  topkIds : payload.topkIds = rows.map (·.topkIds)
  routerLogits : payload.routerLogits = if withLogits then some (rows.map (·.routerLogits)) else none

/-- The rows behind the tokens: what the model padded its blocks with, or zero
rows where the layout cuts the blocks. -/
def paddingRows (sp : Bool) (tp : Nat) (tokens padding : List (TokenRow H W L topk)) :
    List (TokenRow H W L topk) :=
  if sp then padding else List.replicate (blockRows tokens.length tp * tp - tokens.length) 0

/-- What rank `r` sends. -/
def sentRows (sp : Bool) (tp : Nat) (tokens padding : List (TokenRow H W L topk)) (r : Nat) :
    List (TokenRow H W L topk) :=
  rankRows true tp tokens (paddingRows sp tp tokens padding) r

variable {tokens padding : List (TokenRow H W L topk)} {tp : Nat} {sp : Bool}

theorem length_paddedRows (htp : 0 < tp)
    (hpad : sp = true → padding.length = blockRows tokens.length tp * tp - tokens.length) :
    (tokens ++ paddingRows sp tp tokens padding).length = blockRows tokens.length tp * tp := by
  have hle : tokens.length ≤ blockRows tokens.length tp * tp := le_slices htp
  rw [List.length_append, paddingRows]
  split
  · rename_i hsp
    rw [hpad hsp]
    omega
  · rw [List.length_replicate]
    omega

theorem length_sentRows (hpad : sp = true →
    padding.length = blockRows tokens.length tp * tp - tokens.length) {r : Nat} (hr : r < tp) :
    (sentRows sp tp tokens padding r).length = blockRows tokens.length tp :=
  length_sliceRows (length_paddedRows (by omega) hpad) hr

theorem flatMap_sentRows (htp : 0 < tp)
    (hpad : sp = true → padding.length = blockRows tokens.length tp * tp - tokens.length) :
    (List.range tp).flatMap (sentRows sp tp tokens padding) = tokens ++ paddingRows sp tp tokens padding :=
  flatMap_blocks (length_paddedRows htp hpad)

/-- A rank's local rows of a tensor of the tokens. -/
theorem localRows_map {α : Type} [Zero α] (f : TokenRow H W L topk → α) (hzero : f 0 = 0) (htp : 0 < tp)
    {layout : CAMDispatchLayout} (hpadded : layout.paddedTokens = blockRows tokens.length tp * tp) {r : Nat}
    (hslice : layout.localTokenSlice =
      (r * blockRows tokens.length tp, r * blockRows tokens.length tp + blockRows tokens.length tp)) :
    localRows layout (tokens.map f) = .ok ((sentRows false tp tokens padding r).map f) := by
  have hle : (tokens.map f).length ≤ layout.paddedTokens := by
    rw [List.length_map, hpadded]
    exact le_slices htp
  rw [localRows, padFirstDim_ok hle, Fallible.ok_bind, hslice, sentRows, rankRows, if_pos rfl,
    sliceRows_map, paddingRows, List.map_append, hpadded]
  simp [hzero, pure, Except.pure]

theorem requireMatchingFirstDim_self {α : Type} {tensor : List α} {n : Nat} (h : tensor.length = n)
    (name : String) :
    requireMatchingFirstDim tensor n name = .ok () := if_neg (not_not.2 h)

/-- The layout of rank `r` when it cuts the blocks itself, and when it does not. -/
def layoutOf (sp : Bool) (tp : Nat) (tokens padding : List (TokenRow H W L topk)) (r : Nat) :
    CAMDispatchLayout :=
  let n := (rankRows sp tp tokens padding r).length
  if sp ∨ tp ≤ 1 then ⟨n, n, (0, n), false, sp, r, tp⟩
  else
    let c := blockRows tokens.length tp
    ⟨n, c * tp, (r * c, r * c + c), true, false, r, tp⟩

/-- With one rank there is nothing to cut. -/
theorem sentRows_single (hsp : ¬ sp) {r : Nat} (hr : r < 1) : sentRows sp 1 tokens padding r = tokens := by
  have hr0 : r = 0 := by omega
  have hblock : blockRows tokens.length 1 = tokens.length := by simp [blockRows]
  simp [sentRows, rankRows, sliceRows, paddingRows, hsp, hr0, hblock]

/-- A rank that passes its tensors through sends what it holds. -/
theorem sentRows_pass (hpass : sp = true ∨ tp ≤ 1) {r : Nat} (hr : r < tp) :
    sentRows sp tp tokens padding r = rankRows sp tp tokens padding r := by
  by_cases hsp : sp = true
  · rw [hsp]
    rfl
  · have hone : tp = 1 := by
      rcases hpass with h | h
      · exact absurd h hsp
      · omega
    subst hone
    rw [sentRows_single hsp hr, rankRows, if_neg hsp]

theorem prepareRows_ok (withLogits : Bool) {r : Nat} (hr : r < tp) :
    ∃ payload, prepareRows (rankRows sp tp tokens padding r) withLogits sp r tp = .ok payload ∧
      Carries payload (sentRows sp tp tokens padding r) withLogits ∧
        payload.layout = layoutOf sp tp tokens padding r := by
  have htp : 0 < tp := by omega
  unfold prepareRows prepareCamDispatchPayload
  dsimp only
  rw [requireMatchingFirstDim_self (by simp), Fallible.ok_bind, requireMatchingFirstDim_self (by simp),
    Fallible.ok_bind]
  have hlogits : (if withLogits then some ((rankRows sp tp tokens padding r).map (·.routerLogits))
      else none).forM
      (requireMatchingFirstDim · ((rankRows sp tp tokens padding r).map (·.hiddenStates)).length
        "router_logits") = .ok () := by
    cases withLogits with
    | false => rfl
    | true => exact requireMatchingFirstDim_self (by simp) _
  rw [hlogits, Fallible.ok_bind]
  by_cases hpass : sp = true ∨ tp ≤ 1
  · rw [if_pos hpass]
    refine ⟨_, rfl, ?_, ?_⟩
    · rw [sentRows_pass hpass hr]
      exact ⟨rfl, rfl, rfl, rfl⟩
    · rw [layoutOf, if_pos hpass, List.length_map]
  · have hplain : sp = false := by
      cases sp
      · rfl
      · exact absurd (.inl rfl) hpass
    subst hplain
    rw [if_neg hpass]
    have hown : rankRows false tp tokens padding r = tokens := rfl
    have hlayout : layoutOf false tp tokens padding r = ⟨tokens.length, blockRows tokens.length tp * tp,
        (r * blockRows tokens.length tp, r * blockRows tokens.length tp + blockRows tokens.length tp),
            true, false, r, tp⟩ :=
      if_neg hpass
    have hlocal {α : Type} [Zero α] (f : TokenRow H W L topk → α) (hzero : f 0 = 0) :
        localRows (layoutOf false tp tokens padding r) (tokens.map f) =
          .ok ((sentRows false tp tokens padding r).map f) := by
      apply localRows_map f hzero htp <;> rw [hlayout]
    have hlocalLogits : (if withLogits then some (tokens.map (·.routerLogits)) else none).mapM
        (localRows (layoutOf false tp tokens padding r)) =
          .ok (if withLogits then some ((sentRows false tp tokens padding r).map (·.routerLogits))
            else none) := by
      cases withLogits with
      | false => rfl
      | true =>
        simp only [if_true, Option.mapM_some, hlocal (fun row => row.routerLogits) rfl]
        rfl
    rw [hown, List.length_map]
    rw [hlayout, blockRows] at hlocal hlocalLogits
    rw [hlocal (fun row => row.hiddenStates) rfl, Fallible.ok_bind,
      hlocal (fun row => row.topkWeights) rfl, Fallible.ok_bind, hlocal (fun row => row.topkIds) rfl,
      Fallible.ok_bind, hlocalLogits]
    exact ⟨_, rfl, ⟨rfl, rfl, rfl, rfl⟩, hlayout.symm⟩

theorem localTokens_layoutOf (hpad : sp = true →
    padding.length = blockRows tokens.length tp * tp - tokens.length) {r : Nat} (hr : r < tp) :
    (layoutOf sp tp tokens padding r).localTokens = blockRows tokens.length tp := by
  unfold layoutOf
  dsimp only
  split
  · rename_i hpass
    rw [← sentRows_pass hpass hr, ← length_sentRows hpad hr]
    exact Nat.sub_zero _
  · exact Nat.add_sub_cancel_left _ _

/-- Restoring gives a rank the results of the rows that it held. -/
theorem restoreRows_ok {Y : Type} (f : TokenRow H W L topk → Y)
    (hpad : sp = true → padding.length = blockRows tokens.length tp * tp - tokens.length) {r : Nat}
    (hr : r < tp) :
    restoreCamDispatchOutput (fun s => (sentRows sp tp tokens padding s).map f)
      (layoutOf sp tp tokens padding r) =
      .ok ((rankRows sp tp tokens padding r).map f) := by
  have htp : 0 < tp := by omega
  have hlocal : (layoutOf sp tp tokens padding r).localTokens = blockRows tokens.length tp :=
    localTokens_layoutOf hpad hr
  have hrank : (layoutOf sp tp tokens padding r).tpRank = r := by
    unfold layoutOf
    dsimp only
    split <;> rfl
  unfold restoreCamDispatchOutput
  dsimp only
  rw [hrank, hlocal, if_neg (by simp [length_sentRows hpad hr])]
  by_cases hpass : sp = true ∨ tp ≤ 1
  · have hgather : (layoutOf sp tp tokens padding r).requiresTpAllGather = false := by
      rw [layoutOf, if_pos hpass]
    rw [hgather, if_pos (by simp), sentRows_pass hpass hr]
  · have hplain : sp = false := by
      cases sp
      · rfl
      · exact absurd (.inl rfl) hpass
    have hgather : (layoutOf sp tp tokens padding r).requiresTpAllGather = true := by
      rw [layoutOf, if_neg hpass]
    have hsize : (layoutOf sp tp tokens padding r).tpSize = tp := by rw [layoutOf, if_neg hpass]
    have hpadded : (layoutOf sp tp tokens padding r).paddedTokens = blockRows tokens.length tp * tp := by
      rw [layoutOf, if_neg hpass]
    have hparent : (layoutOf sp tp tokens padding r).parentTokens = tokens.length := by
      rw [layoutOf, if_neg hpass, rankRows, if_neg (by simp [hplain])]
    have hsame : SameRows tp fun s => (sentRows sp tp tokens padding s).map f := by
      intro s hs
      simp only [List.length_map]
      rw [length_sentRows hpad hs, length_sentRows hpad htp]
    have hall : (List.range tp).flatMap (fun s => (sentRows sp tp tokens padding s).map f) =
        (tokens ++ paddingRows sp tp tokens padding).map f := by
      rw [← flatMap_sentRows htp hpad, List.map_flatMap]
    rw [hgather, if_neg (by simp), hsize, hpadded, hparent, allGatherRows, allGather_ok hsame,
      Fallible.ok_bind, hall, if_neg (by rw [List.length_map, length_paddedRows htp hpad]; simp),
      Fallible.ok_bind, List.map_append, List.take_left' (List.length_map _), rankRows,
      if_neg (by simp [hplain])]

end Group

/-! ## The send capacity -/

theorem blockRows_le {n capacity tp : Nat} (h : n ≤ capacity) (hmod : capacity % tp = 0) (htp : 0 < tp) :
    blockRows n tp ≤ capacity / tp := by
  calc
    blockRows n tp ≤ (tp - 1 + tp * (capacity / tp)) / tp := by
      apply Nat.div_le_div_right
      have hmul := Nat.mul_div_cancel' (Nat.dvd_of_mod_eq_zero hmod)
      omega
    _ = capacity / tp := by rw [Nat.add_mul_div_left _ _ htp, Nat.div_eq_of_lt (by omega), Nat.zero_add]

section Capacity
open AsyncCam

def capacityMessage : String := "Async CAM batch exceeds max_num_batched_tokens / TP capacity"

/-- A message starts as its first part does. -/
theorem head_append {a : String} {x : Char} (h : a.toList.head? = some x) (b : String) :
    (a ++ b).toList.head? = some x := by
  simp [String.toList_append, h]

theorem ne_capacityMessage {s : String} (x : Char) (hx : x ≠ 'A') (h : s.toList.head? = some x) :
    s ≠ capacityMessage := by
  rintro rfl
  have hA : capacityMessage.toList.head? = some 'A' := by decide
  exact hx (Option.some.inj (h.symm.trans hA))

theorem validateTopkPayload_ne {W : Type} {topkIds : Tensor Int32} {topkWeights : Tensor W}
    {batchSize topk : Int} :
    validateTopkPayload topkIds topkWeights batchSize topk ≠ .error capacityMessage := by
  intro h
  unfold validateTopkPayload at h
  split at h
  · refine ne_capacityMessage 't' (by decide) ?_ (Except.error.inj h)
    iterate 6 apply head_append
    decide
  split at h
  · refine ne_capacityMessage 't' (by decide) ?_ (Except.error.inj h)
    iterate 6 apply head_append
    decide
  · cases h

/-- Rows within the share of a rank are never refused for the capacity: only the
operator itself could raise that message. -/
theorem sendAttnOutput_within {X W : Type} (c : CAMAsyncAFDConnector X W)
    (args : CAMAsyncAFDConnector.SendAttnOutputArgs X W) (htp : c.tpSize ≠ 0)
    (h : (c.contexts args.context).metadata.totalTokens ≤ (c.maxNumBatchedTokens / c.tpSize : Nat))
    (hraise : (c.sendAttnOutput args).2 = .error capacityMessage) : args.fault = some capacityMessage := by
  unfold CAMAsyncAFDConnector.sendAttnOutput at hraise
  dsimp only at hraise
  split at hraise
  · exact absurd (Except.error.inj hraise) (ne_capacityMessage 'C' (by decide) (by decide))
  split at hraise
  · refine absurd (Except.error.inj hraise) (ne_capacityMessage 'h' (by decide) ?_)
    iterate 3 apply head_append
    decide
  split at hraise
  · split at hraise
    · rename_i heq
      exact absurd (heq.trans hraise) validateTopkPayload_ne
    split at hraise
    · rename_i h0
      exact absurd h0 htp
    split at hraise
    · rename_i hgt
      exact absurd h (not_le.2 hgt)
    split at hraise
    · rename_i heq
      rw [heq, Except.error.inj hraise]
    · cases hraise
  · exact absurd (Except.error.inj hraise) (ne_capacityMessage 'C' (by decide) (by decide))

end Capacity

/-! ## The round trip -/

section RoundTrip
variable {H W L : Type} [Zero H] [Zero W] [Zero L] {topk tp : Nat}
  {tokens padding : List (TokenRow H W L topk)} {sp withLogits : Bool}

/-- The payloads of a TP group: equal blocks that make up the padded tokens, and
a way back for every function that works row by row. -/
structure RoundTrip (sp withLogits : Bool) (tp : Nat) (tokens padding : List (TokenRow H W L topk))
    (payload : Nat → CAMDispatchPayload H W L topk) : Prop where
  prepared : ∀ r < tp, prepareRows (rankRows sp tp tokens padding r) withLogits sp r tp = .ok (payload r)
  carries : ∀ r < tp, Carries (payload r) (sentRows sp tp tokens padding r) withLogits
  equal : ∀ r < tp, (sentRows sp tp tokens padding r).length = blockRows tokens.length tp
  partition : (List.range tp).flatMap (sentRows sp tp tokens padding) =
    tokens ++ paddingRows sp tp tokens padding
  restored : ∀ {Y : Type} (f : TokenRow H W L topk → Y), ∀ r < tp,
    restoreCamDispatchOutput (fun s => (sentRows sp tp tokens padding s).map f) (payload r).layout =
      .ok ((rankRows sp tp tokens padding r).map f)
  /-- The restored rows are those of the tokens: on each rank, or in the ranks'
  blocks without the padding. -/
  original : ∀ {Y : Type} (f : TokenRow H W L topk → Y),
    if sp then ((List.range tp).flatMap fun r => (rankRows sp tp tokens padding r).map
      f).take tokens.length = tokens.map f
    else ∀ r < tp, (rankRows sp tp tokens padding r).map f = tokens.map f

theorem roundTrip_exists (htp : 0 < tp)
    (hpad : sp = true → padding.length = blockRows tokens.length tp * tp - tokens.length) :
    ∃ payload, RoundTrip sp withLogits tp tokens padding payload := by
  have hrank : ∀ r, r < tp → ∃ payload,
      prepareRows (rankRows sp tp tokens padding r) withLogits sp r tp = .ok payload ∧
        Carries payload (sentRows sp tp tokens padding r) withLogits ∧
            payload.layout = layoutOf sp tp tokens padding r :=
    fun r hr => prepareRows_ok withLogits hr
  have : Nonempty (CAMDispatchPayload H W L topk) := ⟨(hrank 0 htp).choose⟩
  choose! payload hpayload using hrank
  have hpadded : (List.range tp).flatMap (sentRows sp tp tokens padding) =
      tokens ++ paddingRows sp tp tokens padding :=
    flatMap_sentRows htp hpad
  refine ⟨payload, fun r hr => (hpayload r hr).1, fun r hr => (hpayload r hr).2.1,
    fun r hr => length_sentRows hpad hr, hpadded, fun f r hr => ?_, fun f => ?_⟩
  · rw [(hpayload r hr).2.2]
    exact restoreRows_ok f hpad hr
  · split
    · rename_i hsp
      subst hsp
      -- the model's own blocks are what is sent
      have hown : (List.range tp).flatMap (rankRows true tp tokens padding) = tokens ++ padding := hpadded
      rw [← List.map_flatMap, hown, List.map_append, List.take_left' (List.length_map _)]
    · rename_i hsp
      intro r _
      rw [rankRows, if_neg hsp]

/-- The round trip for every number of tokens and every TP size. An Attention
worker that starts and has no more tokens than its configured maximum sends on no
rank more than its share, so the capacity check stays quiet. -/
theorem layout_round_trip (htp : 0 < tp)
    (hpad : sp = true → padding.length = blockRows tokens.length tp * tp - tokens.length) :
    ∃ payload, RoundTrip sp withLogits tp tokens padding payload ∧
      ∀ (env : NpuFeatures.Env) (vllm : NpuFeatures.VllmConfig) (afd : NpuFeatures.ParsedConfig)
        (info : NpuFeatures.AFDAsyncExtraInfo),
        NpuFeatures.validateAttentionWorker env vllm afd (.async info) = .ok () →
          afd.connector = .camAsync →
        vllm.parallelConfig.tensorParallelSize = tp → tokens.length ≤ vllm.maxNumBatchedTokens → ∀ r < tp,
          (payload r).hiddenStates.length ≤ vllm.maxNumBatchedTokens / tp ∧
          ∀ {X : Type} (c : AsyncCam.CAMAsyncAFDConnector X W) (args :
            AsyncCam.CAMAsyncAFDConnector.SendAttnOutputArgs X W),
            c.tpSize = info.attnRanksPerDp → c.maxNumBatchedTokens = vllm.maxNumBatchedTokens →
            (c.contexts args.context).metadata.seqLens = [((payload r).hiddenStates.length : Int)] →
            (c.sendAttnOutput args).2 = .error capacityMessage → args.fault = some capacityMessage := by
  obtain ⟨payload, hround⟩ : ∃ payload, RoundTrip sp withLogits tp tokens padding payload :=
    roundTrip_exists htp hpad
  refine ⟨payload, hround, fun env vllm afd info haccepted hconnector hsize hmax r hr => ?_⟩
  obtain ⟨hmod, hranks⟩ := NpuFeatures.accepted_capacity haccepted hconnector
  rw [hsize] at hranks
  have hwithin : (payload r).hiddenStates.length ≤ vllm.maxNumBatchedTokens / tp := by
    rw [(hround.carries r hr).hiddenStates, List.length_map, hround.equal r hr]
    exact blockRows_le hmax (by rw [hranks]; exact hmod) htp
  refine ⟨hwithin, fun c args hctp hcmax hseq hraise => sendAttnOutput_within c args (by omega) ?_ hraise⟩
  rw [P2p.AFDTransferMetadata.totalTokens, hseq, hctp, hcmax, ← hranks, List.sum_singleton]
  exact_mod_cast hwithin

end RoundTrip

/-- Five tokens with an expert each, and a deployment of two TP ranks with room for six. -/
def fiveTokens : List (TokenRow Int Int Int 1) :=
  (List.range 5).map fun i => ⟨Int.ofNat i, Vector.replicate 1 10, Vector.replicate 1 i, 0⟩

def twoRanksInfo : NpuFeatures.AFDAsyncExtraInfo := ⟨1, 2, false, Nat.two_pos⟩

def twoRanksConfig : NpuFeatures.ParsedConfig := ⟨⟨.attention, 2, 1, true⟩, .camAsync, true⟩

def twoRanksVllm : NpuFeatures.VllmConfig where
  useV2ModelRunner := true
  modelConfig := ⟨none, ⟨"deepseek_v3", []⟩, false, false, true, true, true⟩
  parallelConfig := { tensorParallelSize := 2 }
  maxNumBatchedTokens := 6
  maxNumSeqs := 4

theorem layout_round_trip_two_ranks :
    NpuFeatures.validateAttentionWorker {} twoRanksVllm twoRanksConfig (.async twoRanksInfo) = .ok () ∧
      ∃ payload, RoundTrip false true 2 fiveTokens [] payload ∧
        ∀ r < 2, (payload r).hiddenStates.length ≤ 6 / 2 := by
  have haccepted : NpuFeatures.validateAttentionWorker {} twoRanksVllm twoRanksConfig
      (.async twoRanksInfo) = .ok () := by
    rfl
  obtain ⟨payload, hround, hcapacity⟩ : ∃ payload, RoundTrip false true 2 fiveTokens [] payload ∧ _ :=
    layout_round_trip Nat.two_pos (fun h => absurd h Bool.false_ne_true)
  exact ⟨haccepted, payload, hround, fun r hr =>
    (hcapacity {} twoRanksVllm twoRanksConfig twoRanksInfo haccepted rfl rfl (by decide) r hr).1⟩

end AfdPlugin.Cam
