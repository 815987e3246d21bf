import AfdPlugin.Connectors.P2pTransfer
import Mathlib.Data.List.SplitLengths
/-!
# The rows of the P2P connector's tensors

The connector gathers the rows of its Attention peers into one tensor and
splits the FFN output again. Both sides only exchange shapes, so where a row
goes is decided by the sizes stored for the receive and by those the transfer
context carries to the send. A tensor is its rows here.
-/

namespace AfdPlugin.P2p

namespace P2pNcclAFDConnector

variable {α β : Type}

/-! ## Gathering -/

/-- The rows a receive leaves in its buffer. NCCL matches a send with the
buffer posted for it by size alone. -/
def recvRows (buffer : TensorMetadata) (sent : List α) : Except String (List α) :=
  if buffer.numTokens = sent.length then .ok sent else .error "NCCL message size mismatch"

/-- The rows of one peer, in the buffer for its hidden states. -/
def recvPeerRows (sent : Nat → List α) (received : Nat × List WireTensor) : Except String (List α) :=
  match received.2.find? (·.kind = .hiddenStates) with
  | some buffer => recvRows buffer.metadata (sent received.1)
  | none => .error "no hidden-state buffer"

/-- `recv_attn_output` with rows: the peers' tensors, concatenated. -/
def gatherRows (c : P2pNcclAFDConnector) (ubatchIdx : Int) (routingSpec : Option AFDExpertRoutingSpec)
    (recvInputIds : Bool) (sent : Nat → List α) : Except String (List α × AFDA2FTransferPayload) := do
  let (received, payload) ← c.recvAttnOutput ubatchIdx routingSpec recvInputIds
  let rows ← received.mapM (recvPeerRows sent)
  return (rows.flatten, payload)

/-! ## Splitting -/

/-- The rows of `ffn_output[start:end]`. -/
def rowsOf (output : List α) (slice : Nat × Int × WireTensor) : Nat × List α :=
  (slice.1, (output.drop slice.2.1.toNat).take slice.2.2.metadata.numTokens.toNat)

/-- `send_ffn_output` with rows: what each peer is sent. -/
def returnRows (c : P2pNcclAFDConnector) (output : List α) (dtype : Dtype) (width : Int)
    (metadata : AFDTransferMetadata) :
    Except String (List (Nat × List α)) := do
  let slices ← c.sendFfnOutput ⟨dtype, [output.length, width]⟩ metadata
  return slices.map (rowsOf output)

/-- Slices of given lengths, from a row on, are the chunks of those lengths. -/
theorem map_rowsOf_outputSlices (dtype : Dtype) (width : Int) (output : List α) (dsts lens : List Nat)
    (start : Nat) (h : start + lens.sum ≤ output.length) :
    (outputSlices ⟨dtype, [(output.length : Int), width]⟩ start (dsts.zip (lens.map Int.ofNat))).map
      (rowsOf output) =
      dsts.zip (lens.splitLengths (output.drop start)) := by
  induction lens generalizing dsts start with
  | nil => simp [outputSlices]
  | cons len lens ih =>
    cases dsts with
    | nil => simp [outputSlices]
    | cons dst dsts =>
      rw [List.sum_cons] at h
      have hrest := ih dsts (start + len) (by omega)
      have hrows : (min ((start : Int) + Int.ofNat len) output.length - min (start : Int)
          output.length).toNat = len := by
        rw [Int.ofNat_eq_natCast]
        omega
      simp only [List.map_cons, List.zip_cons_cons, outputSlices, List.splitLengths_cons]
      refine congrArg₂ List.cons ?_ ?_
      · simp only [rowsOf, TensorMetadata.numTokens, List.headD_cons, hrows, Int.toNat_natCast]
      · rw [List.drop_drop]
        exact_mod_cast hrest

theorem length_peers (c : P2pNcclAFDConnector) : c.peers.length = c.ratio := by
  simp [peers, ratio, groupSize]

/-- With one size for each peer, the peers get the chunks of those sizes. -/
theorem returnRows_of_seqLens (c : P2pNcclAFDConnector) {dtype : Dtype} {width : Int} {layerIdx : Nat}
    {stage : Int} (output : List α) {lens : List Nat} (hlen : lens.length = c.ratio)
    (hsum : lens.sum = output.length) :
    c.returnRows output dtype width ⟨layerIdx, stage, lens.map Int.ofNat⟩ =
      .ok (c.peers.zip (lens.splitLengths output)) := by
  have hcast : (lens.map Int.ofNat).sum = (output.length : Int) := by
    rw [← hsum, Nat.cast_list_sum]
    rfl
  have hvalid : (⟨layerIdx, stage, lens.map Int.ofNat⟩ : AFDTransferMetadata).validateTensorShape
      [(output.length : Int), width] = true := by
    simp [AFDTransferMetadata.validateTensorShape, AFDTransferMetadata.totalTokens, hcast]
  have hlen' : ¬ (lens.map Int.ofNat).length ≠ c.ratio := by simpa using hlen
  have hsend : c.sendFfnOutput ⟨dtype, [(output.length : Int), width]⟩ ⟨layerIdx, stage,
      lens.map Int.ofNat⟩ =
      .ok (outputSlices ⟨dtype, [(output.length : Int), width]⟩ 0
        (c.peers.zip (lens.map Int.ofNat))) := by
    unfold sendFfnOutput
    simp only [hvalid, hlen', not_true, if_false]
    rfl
  rw [returnRows, hsend]
  exact congrArg Except.ok (map_rowsOf_outputSlices dtype width output c.peers lens 0 (by omega))

section Even
variable (c : P2pNcclAFDConnector) (dtype : Dtype) (width : Int) (metadata : AFDTransferMetadata) {n : Nat}
  (hlen : metadata.seqLens.length ≠ c.ratio) (htotal : metadata.totalTokens = n)
include hlen htotal

/-- Without a size for each peer the rows are split evenly. -/
theorem sendFfnOutput_even (heven : n % c.ratio = 0) :
    c.sendFfnOutput ⟨dtype, [(n : Int), width]⟩ metadata =
      .ok (outputSlices ⟨dtype, [(n : Int), width]⟩ 0
        (c.peers.zip ((List.replicate c.ratio (n / c.ratio)).map Int.ofNat))) := by
  have hvalid : metadata.validateTensorShape [(n : Int), width] = true := by
    simp [AFDTransferMetadata.validateTensorShape, htotal]
  have hrows : (⟨dtype, [(n : Int), width]⟩ : TensorMetadata).numTokens = n := rfl
  have hmod : ¬ (n : Int) % (c.ratio : Int) ≠ 0 := by
    rw [not_not]
    exact_mod_cast heven
  unfold sendFfnOutput
  rw [if_neg (not_not.2 hvalid), if_pos hlen, hrows, if_neg hmod, List.map_replicate]
  rfl

/-- Rows that do not divide are refused. -/
theorem sendFfnOutput_uneven (huneven : n % c.ratio ≠ 0) :
    c.sendFfnOutput ⟨dtype, [(n : Int), width]⟩ metadata =
      .error s!"cannot evenly split FFN output across Attention peers: tokens={(n : Int)}, ratio={c.ratio}" := by
  have hvalid : metadata.validateTensorShape [(n : Int), width] = true := by
    simp [AFDTransferMetadata.validateTensorShape, htotal]
  have hrows : (⟨dtype, [(n : Int), width]⟩ : TensorMetadata).numTokens = n := rfl
  have hmod : (n : Int) % (c.ratio : Int) ≠ 0 := by exact_mod_cast huneven
  unfold sendFfnOutput
  rw [if_neg (not_not.2 hvalid), if_pos hlen, hrows, if_pos hmod]
  rfl

end Even

/-- Even chunks are chunks of the whole output. -/
theorem sum_replicate_div {n k : Nat} (h : n % k = 0) : (List.replicate k (n / k)).sum = n := by
  rw [List.sum_replicate, smul_eq_mul]
  exact Nat.mul_div_cancel' (Nat.dvd_of_mod_eq_zero h)

/-! ## There and back -/

theorem mapM_recvPeerRows {sent : Nat → List α} {rows : Nat → Nat} {dtype : Dtype} {width : Int}
    {routingSpec : Option AFDExpertRoutingSpec} {recvInputIds : Bool} (l : List Nat)
    (hsent : ∀ src ∈ l, (sent src).length = rows src) :
    (l.map fun src =>
      (src, expectedMessage ⟨dtype, [(rows src : Int), width]⟩ routingSpec recvInputIds)).mapM
      (recvPeerRows sent) = .ok (l.map sent) := by
  rw [List.mapM_map]
  apply Fallible.mapM_ok
  intro src hsrc
  have hrows : ((rows src : Int) = (sent src).length) := by rw [hsent src hsrc]
  simp [recvPeerRows, expectedMessage, message, recvRows, TensorMetadata.numTokens, hrows]

/-- Chunks of the lengths of a list of lists, out of its flattening, are the
lists. -/
theorem splitLengths_flatten (l : List (List α)) : (l.map List.length).splitLengths l.flatten = l := by
  induction l with
  | nil => rfl
  | cons x l ih => simp [ih]

/-- What peers that get consecutive chunks of an output get. -/
theorem zip_splitLengths {peers lens : List Nat} {output : List β} (hlen : lens.length = peers.length)
    (hsum : lens.sum = output.length) :
    let slices := peers.zip (lens.splitLengths output)
    slices.map Prod.fst = peers ∧ slices.flatMap Prod.snd = output ∧
      slices.map (fun s => s.2.length) = lens := by
  intro slices
  have hchunks : (lens.splitLengths output).length = peers.length := by rw [List.length_splitLengths, hlen]
  have hsnd : slices.map Prod.snd = lens.splitLengths output := List.map_snd_zip hchunks.le
  refine ⟨List.map_fst_zip hchunks.ge, ?_, ?_⟩
  · rw [List.flatMap_def, hsnd, List.flatten_splitLengths _ _ hsum.ge]
  · have hmap : slices.map (fun s => s.2.length) = (slices.map Prod.snd).map List.length := by
      rw [List.map_map]
      rfl
    rw [hmap, hsnd, List.map_splitLengths_length _ _ hsum.le]

/-- The gather of an FFN rank. -/
theorem gatherRows_eq {c : P2pNcclAFDConnector} (hb : c.BuffersKeyed) (hpeers : c.peers ≠ [])
    {stage : Int} {total : TensorMetadata} (htotal : c.tensorMetadataList.get? stage = some total)
    {rows : Nat → Nat} {dtype : Dtype} {width : Int}
    (hmeta : ∀ src ∈ c.peers, c.recvAttnTensorMetadataList.get? (stage, src) =
      some ⟨dtype, [(rows src : Int), width]⟩) (routingSpec : Option AFDExpertRoutingSpec)
    (recvInputIds : Bool) {sent : Nat → List α}
    (hsent : ∀ src ∈ c.peers, (sent src).length = rows src) :
    ∃ payload, c.gatherRows stage routingSpec recvInputIds sent = .ok (c.peers.flatMap sent, payload) ∧
      payload.metadata = ⟨0, stage, (c.peers.map rows).map Int.ofNat⟩ := by
  obtain ⟨payload, hrecv, -, hmetadata, -, -⟩ := recvAttnOutput_eq hb hpeers htotal hmeta
    (fun src _ => Int.natCast_nonneg (rows src)) routingSpec recvInputIds
  refine ⟨payload, ?_, by rw [hmetadata, List.map_map]; rfl⟩
  rw [gatherRows, hrecv, Fallible.ok_bind]
  simp only [mapM_recvPeerRows c.peers hsent, Fallible.ok_bind]
  rfl

/-- Gather and return on the P2P connector. Whatever rows the peers of an FFN
rank send, the FFN rank sees them in peer order; an output with as many rows is
cut into one slice for each peer, in peer order, so that with a row-wise FFN a
peer gets the results of its own rows, into a buffer of that size. Without a
size for each peer the output is cut evenly, or refused. -/
theorem gather_and_return (c : P2pNcclAFDConnector) (hb : c.BuffersKeyed) (hpeers : c.peers ≠ [])
    (stage : Int) (total : TensorMetadata) (htotal : c.tensorMetadataList.get? stage = some total)
    (rows : Nat → Nat) (dtype : Dtype) (width : Int)
    (hmeta : ∀ src ∈ c.peers, c.recvAttnTensorMetadataList.get? (stage, src) =
      some ⟨dtype, [(rows src : Int), width]⟩) (routingSpec : Option AFDExpertRoutingSpec)
    (recvInputIds : Bool) (sent : Nat → List α)
    (hsent : ∀ src ∈ c.peers, (sent src).length = rows src) :
    ∃ payload, c.gatherRows stage routingSpec recvInputIds sent = .ok (c.peers.flatMap sent, payload) ∧
      (∀ output : List β, output.length = (c.peers.flatMap sent).length →
        ∃ slices, c.returnRows output dtype width payload.metadata = .ok slices ∧
          slices.map Prod.fst = c.peers ∧
          slices.flatMap Prod.snd = output ∧ slices.map (fun s => s.2.length) = c.peers.map rows) ∧
      (∀ f : α → β, c.returnRows ((c.peers.flatMap sent).map f) dtype width payload.metadata =
        .ok (c.peers.map fun src => (src, (sent src).map f))) ∧
      (∀ (ca : P2pNcclAFDConnector) (m : TensorMetadata), ca.groupSize ≠ 1 →
        ca.tensorMetadataList.get? stage = some m → m.size ≠ [] → ∀ src ∈ c.peers,
        ∃ buffer, ca.recvFfnOutput ⟨dtype, [(rows src : Int), width]⟩ stage = .ok buffer ∧
          buffer.metadata.numTokens = rows src) ∧
      (∀ (metadata : AFDTransferMetadata) (output : List β), metadata.seqLens.length ≠ c.ratio →
        metadata.totalTokens = output.length →
        (∃ slices, c.returnRows output dtype width metadata = .ok slices ∧ slices.map Prod.fst = c.peers ∧
          slices.flatMap Prod.snd = output ∧
          slices.map (fun s => s.2.length) = List.replicate c.ratio (output.length / c.ratio)) ∨
        c.returnRows output dtype width metadata = .error
          s!"cannot evenly split FFN output across Attention peers: tokens={(output.length : Int)}, ratio={c.ratio}") := by
  obtain ⟨payload, hgather, hmetadata⟩ :=
    gatherRows_eq hb hpeers htotal hmeta routingSpec recvInputIds hsent
  have hlen : (c.peers.map rows).length = c.ratio := by rw [List.length_map, length_peers]
  have hlens : (c.peers.map fun src => (sent src).length) = c.peers.map rows := List.map_congr_left hsent
  have hsum : (c.peers.map rows).sum = (c.peers.flatMap sent).length := by rw [List.length_flatMap, hlens]
  refine ⟨payload, hgather, ?_, ?_, ?_, ?_⟩
  · intro output houtput
    rw [hmetadata]
    refine ⟨_, c.returnRows_of_seqLens output hlen (hsum.trans houtput.symm), ?_⟩
    exact zip_splitLengths (by rw [List.length_map]) (hsum.trans houtput.symm)
  · intro f
    rw [hmetadata, c.returnRows_of_seqLens _ hlen (by rw [List.length_map]; exact hsum)]
    have hresults : (c.peers.map rows).splitLengths ((c.peers.flatMap sent).map f) =
        c.peers.map fun src => (sent src).map f := by
      have hflat : (c.peers.flatMap sent).map f = (c.peers.map fun src => (sent src).map f).flatten := by
        rw [List.map_flatMap, List.flatMap_def]
      have hrows : c.peers.map rows = (c.peers.map fun src => (sent src).map f).map List.length := by
        rw [List.map_map, ← hlens]
        simp
      rw [hflat, hrows, splitLengths_flatten]
    rw [hresults, List.map_prod_left_eq_zip]
  · intro ca m hgroup hstage hm src _
    have hrows : (recvBuffer m (some ⟨dtype, [(rows src : Int), width]⟩)).numTokens = rows src := by
      obtain ⟨mdtype, msize⟩ := m
      cases msize with
      | nil => exact absurd rfl hm
      | cons n rest =>
        unfold recvBuffer
        dsimp only
        split <;> rfl
    refine ⟨⟨.ffnOutput, recvBuffer m (some ⟨dtype, [(rows src : Int), width]⟩)⟩, ?_, hrows⟩
    unfold recvFfnOutput
    rw [hstage]
    dsimp only
    rw [if_neg hgroup]
    rfl
  · intro metadata output hne htokens
    by_cases heven : output.length % c.ratio = 0
    · refine .inl
        ⟨c.peers.zip ((List.replicate c.ratio (output.length / c.ratio)).splitLengths output), ?_, ?_⟩
      · rw [returnRows, c.sendFfnOutput_even dtype width metadata hne htokens heven]
        exact congrArg Except.ok (map_rowsOf_outputSlices dtype width output c.peers _ 0
          (by rw [sum_replicate_div heven, Nat.zero_add]))
      · exact zip_splitLengths (by rw [List.length_replicate, length_peers]) (sum_replicate_div heven)
    · refine .inr ?_
      rw [returnRows, c.sendFfnOutput_uneven dtype width metadata hne htokens heven]
      rfl

/-- Two peers with two rows and none, doubled. -/
theorem gather_and_return_two_peers :
    let c : P2pNcclAFDConnector := ⟨⟨.ffn, 2, 1, false⟩, 0, _, rfl, 8, .bfloat16, true, ∅, false, false,
      (∅ : Dict Int TensorMetadata).set 0 ⟨.bfloat16, [2, 8]⟩,
      ((∅ : Dict (Int × Nat) TensorMetadata).set (0, 1) ⟨.bfloat16, [2, 8]⟩).set (0, 2)
        ⟨.bfloat16, [0, 8]⟩, ∅, ∅⟩
    ∃ payload, c.gatherRows 0 none false (fun src => if src = 1 then [3, 4] else []) = .ok
      ([3, 4], payload) ∧
      c.returnRows [6, 8] .bfloat16 8 payload.metadata = .ok [(1, [6, 8]), (2, [])] := by
  intro c
  have hb : c.BuffersKeyed := by
    constructor
    all_goals
      intro k m h
      cases h
  have hpeers : c.peers = [1, 2] := rfl
  have hall := @gather_and_return Nat Nat c hb (by simp [hpeers]) 0 ⟨.bfloat16, [2, 8]⟩
    rfl (fun src => if src = 1 then 2 else 0) .bfloat16 8 ?_ none false (fun src => if src = 1 then
      [3, 4] else []) ?_
  · obtain ⟨payload, hgather, -, hreturn, -⟩ := hall
    exact ⟨payload, hgather, hreturn (2 * ·)⟩
  · intro src hsrc
    rw [hpeers] at hsrc
    simp only [List.mem_cons, List.not_mem_nil, or_false] at hsrc
    rcases hsrc with rfl | rfl <;> rfl
  · intro src _
    split <;> rfl

end P2pNcclAFDConnector

end AfdPlugin.P2p
