import AfdPlugin.Worker.AttentionMetadata
import AfdPlugin.Worker.FfnModelRunner
/-!
# The two loops agree on the wire

The Attention decoder and the FFN runner each decide on their own which layers
cross the wire and what a message holds. Both are reduced here to one list:
the remote layers in order, each stage at each, and the message of each.
-/

namespace AfdPlugin.WireAgreement

open P2p P2pNcclAFDConnector Models FfnModelRunner AttentionMetadata

/-! ## What crosses the wire -/

section Model
variable (m : Model) (g : Bool)

/-- The layers an Attention rank does not keep. -/
def remoteLayers : List Nat := (List.range m.layers.length).filter fun l => m.attentionMlp g l ≠ .localMlp

/-- Router logits cross the wire for Attention-gated MoE layers. -/
def routingSpecOf (l : Nat) : Option AFDExpertRoutingSpec :=
  if g ∧ m.isMoeLayer l then some ⟨m.nRoutedExperts, m.routerDtype.getD m.dtype⟩ else none

/-- The message of one layer for a stage of `rows` rows. -/
def layerMessage (l : Nat) (rows : Int) : List WireTensor :=
  expectedMessage ⟨m.dtype, [rows, m.hiddenSize]⟩ (routingSpecOf m g l) m.afdRequiresInputIds

/-- The FFN output of one layer for a peer's rows. -/
def layerOutput (rows : Int) : WireTensor := ⟨.ffnOutput, ⟨m.dtype, [rows, m.hiddenSize]⟩⟩

variable {m g}

/-- Only DeepSeek V2 can have the gate on Attention. -/
theorem adapter_of_gate (hm : m.validate true = .ok ()) : m.adapter = .deepseekV2 := by
  unfold Model.validate at hm
  cases ha : m.adapter with
  | deepseekV2 => rfl
  | _ =>
    rw [ha] at hm
    cases hm

theorem mem_remoteLayers {l : Nat} :
    l ∈ remoteLayers m g ↔ l < m.layers.length ∧ m.attentionMlp g l ≠ .localMlp := by
  simp [remoteLayers]

/-- The FFN loop serves exactly the layers that Attention does not keep. -/
theorem layerIndices_eq (hm : m.validate g = .ok ()) (hlayers : m.layers ≠ []) :
    layerIndices m g = remoteLayers m g := by
  have hlen : max m.layers.length 1 = m.layers.length :=
    max_eq_left (List.length_pos_iff.2 hlayers)
  unfold layerIndices remoteLayers
  cases g with
  | true =>
    have ha := adapter_of_gate hm
    have hexperts : m.getExpertsLayerIndices = (List.range m.layers.length).filter fun l =>
        m.isMoeLayer l := by
      simp only [Model.getExpertsLayerIndices, ha]
    have hsorted : (List.range m.layers.length).Pairwise (· ≤ ·) :=
      List.pairwise_lt_range.imp fun h => Nat.le_of_lt h
    rw [if_pos rfl, hexperts, (List.nodup_range.filter _).dedup,
      List.Pairwise.insertionSort_eq (hsorted.filter _)]
    refine List.filter_congr fun l _ => ?_
    unfold Model.attentionMlp
    rw [ha]
    cases m.isMoeLayer l <;> simp
  | false =>
    rw [if_neg (by simp), hlen]
    refine (List.filter_eq_self.2 fun l _ => ?_).symm
    unfold Model.attentionMlp
    cases m.adapter with
    | deepseekV2 => cases m.isMoeLayer l <;> simp
    | _ => simp

/-- The layers whose experts the runner calls with Attention's logits. -/
theorem gated_iff (hm : m.validate g = .ok ()) {l : Nat} (hl : l < m.layers.length) :
    (l ∈ m.getExpertsLayerIndices ∧ g = true) ↔ (g = true ∧ m.isMoeLayer l = true) := by
  cases g with
  | true =>
    have ha := adapter_of_gate hm
    simp [Model.getExpertsLayerIndices, ha, hl]
  | false => simp

end Model

/-! ## The Attention side -/

section Attention
variable {m : Model} {g : Bool} (native : Native) {c : P2pNcclAFDConnector}

/-- What a stage of `rows` rows sends, and receives, around one remote layer. -/
def sends (m : Model) (g : Bool) (stage : Int × Int32) (l : Nat) : List Op :=
  (layerMessage m g l stage.2.toInt).map fun t => .send ⟨l, stage.1, t⟩

def recvs (m : Model) (stage : Int × Int32) (l : Nat) : List Op :=
  [.recv ⟨l, stage.1, layerOutput m stage.2.toInt⟩]

/-- The connector of an Attention rank that expects `stage.2` rows in stage `stage.1`. -/
structure Announced (c : P2pNcclAFDConnector) (m : Model) (stage : Int × Int32) : Prop where
  group : c.groupSize ≠ 1
  rows : 0 ≤ stage.2.toInt
  stage : c.tensorMetadataList.get? stage.1 = some ⟨m.dtype, [stage.2.toInt, m.hiddenSize]⟩

theorem sendAndReceive_eq {stage : Int × Int32} (h : Announced c m stage) {l : Nat}
    {routerLogits inputIds : Option TensorMetadata}
    (hlogits : ∀ t, routerLogits = some t → t.numTokens = stage.2.toInt)
    (hids : ∀ t, inputIds = some t → t = ⟨.int32, [stage.2.toInt]⟩) :
    sendAndReceive c l stage.1 ⟨m.dtype, [stage.2.toInt, m.hiddenSize]⟩ routerLogits inputIds =
      .ok ((message ⟨m.dtype, [stage.2.toInt, m.hiddenSize]⟩ routerLogits inputIds).map
          (fun t => .op (.send ⟨l, stage.1, t⟩)) ++
            [.dboYield, .op (.recv ⟨l, stage.1, layerOutput m stage.2.toInt⟩)]) := by
  have hnew : AFDTransferMetadata.new l stage.1 [stage.2.toInt] = .ok ⟨l, stage.1, [stage.2.toInt]⟩ := by
    have hneg : ¬ ([stage.2.toInt].any (· < 0)) = true := by simpa using h.rows
    unfold AFDTransferMetadata.new
    rw [if_neg (List.cons_ne_nil _ _), if_neg hneg]
  have hsend : c.sendAttnOutput ⟨m.dtype, [stage.2.toInt, m.hiddenSize]⟩ ⟨l, stage.1, [stage.2.toInt]⟩
      routerLogits
      inputIds = .ok (message ⟨m.dtype, [stage.2.toInt, m.hiddenSize]⟩ routerLogits inputIds) :=
    sendAttnOutput_eq h.group (List.cons_ne_nil _ _) hlogits hids
  have hrecv : c.recvFfnOutput ⟨m.dtype, [stage.2.toInt, m.hiddenSize]⟩ stage.1 =
      .ok (layerOutput m stage.2.toInt) :=
    recvFfnOutput_eq h.group h.stage (List.cons_ne_nil _ _) rfl
  unfold sendAndReceive
  simp only [TensorMetadata.numTokens, List.headD_cons]
  rw [hnew, Fallible.ok_bind, hsend, Fallible.ok_bind, hrecv]
  rfl

/-- The actions around one remote layer. -/
def exchange (m : Model) (g : Bool) (stage : Int × Int32) (l : Nat) : List (Ring.Action Op) :=
  (sends m g stage l).map .op ++ .dboYield :: (recvs m stage l).map .op

theorem sendAndReceive_layer {stage : Int × Int32} (h : Announced c m stage) {l : Nat}
    {routerLogits inputIds : Option TensorMetadata}
    (hlogits : ∀ t, routerLogits = some t → t.numTokens = stage.2.toInt)
    (hids : ∀ t, inputIds = some t → t = ⟨.int32, [stage.2.toInt]⟩)
    (hmessage : message ⟨m.dtype, [stage.2.toInt, m.hiddenSize]⟩ routerLogits inputIds =
      layerMessage m g l stage.2.toInt) :
    sendAndReceive c l stage.1 ⟨m.dtype, [stage.2.toInt, m.hiddenSize]⟩ routerLogits inputIds =
      .ok (exchange m g stage l) := by
  rw [sendAndReceive_eq h hlogits hids, hmessage, exchange, sends, List.map_map]
  rfl

theorem sendAndReceive_plain {stage : Int × Int32} (h : Announced c m stage) {l : Nat}
    (hids : m.afdRequiresInputIds = false) (hspec : routingSpecOf m g l = none) :
    sendAndReceive c l stage.1 ⟨m.dtype, [stage.2.toInt, m.hiddenSize]⟩ none none =
      .ok (exchange m g stage l) := by
  apply sendAndReceive_layer h
  · intro t ht
    cases ht
  · intro t ht
    cases ht
  · rw [layerMessage, expectedMessage, hspec, hids]
    rfl

theorem routingSpecOf_ungated (hm : m.validate g = .ok ()) (ha : m.adapter ≠ .deepseekV2) (l : Nat) :
    routingSpecOf m g l = none := by
  cases g with
  | true => exact absurd (adapter_of_gate hm) ha
  | false => simp [routingSpecOf]

/-- One layer: its message, a yield and the receive, or nothing where Attention keeps it. -/
theorem mlpForward_eq (hm : m.validate g = .ok ()) {stage : Int × Int32}
    (h : Announced c m stage) (l : Nat) :
    m.mlpForward native c g stage.1 ⟨m.dtype, [stage.2.toInt, m.hiddenSize]⟩ ⟨.int32, [stage.2.toInt]⟩ l =
      .ok (if m.attentionMlp g l = .localMlp then [] else exchange m g stage l) := by
  unfold Model.mlpForward
  cases ha : m.adapter with
  | deepseekV4 =>
    have hmlp : m.attentionMlp g l = .remoteDeepseekV4Ffn := by simp only [Model.attentionMlp, ha]
    have haligned : ¬ (([stage.2.toInt] : List Int).length ≠ 1 ∨ stage.2.toInt ≠ stage.2.toInt) := by simp
    have hrequired : m.afdRequiresInputIds = true := by simp [Model.afdRequiresInputIds, ha]
    have hspec := routingSpecOf_ungated hm (by rw [ha]; exact Adapter.noConfusion) l
    simp only [hmlp, TensorMetadata.numTokens, List.headD_cons, haligned, if_false, reduceCtorEq]
    apply sendAndReceive_layer h
    · intro t ht
      cases ht
    · intro t ht
      cases ht
      rfl
    · rw [layerMessage, expectedMessage, hspec, hrequired]
      rfl
  | qwen3Moe =>
    have hmlp : m.attentionMlp g l = .remoteFfnProxy := by simp only [Model.attentionMlp, ha]
    simp only [hmlp, reduceCtorEq, if_false]
    exact sendAndReceive_plain h (by simp [Model.afdRequiresInputIds, ha])
      (routingSpecOf_ungated hm (by rw [ha]; exact Adapter.noConfusion) l)
  | qwen3_5Moe =>
    have hmlp : m.attentionMlp g l = .qwen3_5RemoteExpertsMoe := by simp only [Model.attentionMlp, ha]
    simp only [hmlp, reduceCtorEq, if_false]
    exact sendAndReceive_plain h (by simp [Model.afdRequiresInputIds, ha])
      (routingSpecOf_ungated hm (by rw [ha]; exact Adapter.noConfusion) l)
  | deepseekV2 =>
    have hids : m.afdRequiresInputIds = false := by simp [Model.afdRequiresInputIds, ha]
    cases hmoe : m.isMoeLayer l with
    | false =>
      have hspec : routingSpecOf m g l = none := by simp [routingSpecOf, hmoe]
      cases g with
      | false =>
        have hmlp : m.attentionMlp false l = .remoteFfnProxy := by simp [Model.attentionMlp, ha, hmoe]
        simp only [hmlp, reduceCtorEq, if_false]
        exact sendAndReceive_plain h hids hspec
      | true =>
        have hmlp : m.attentionMlp true l = .localMlp := by simp [Model.attentionMlp, ha, hmoe]
        simp only [hmlp, if_true]
    | true =>
      have hmlp : m.attentionMlp g l = .remoteExpertsMoe g := by simp [Model.attentionMlp, ha, hmoe]
      simp only [hmlp, reduceCtorEq, if_false, native.gateLinear_eq]
      cases g with
      | false => exact sendAndReceive_plain h hids (by simp [routingSpecOf])
      | true =>
        have hspec : routingSpecOf m true l = some ⟨m.nRoutedExperts, m.routerDtype.getD m.dtype⟩ := by
          simp [routingSpecOf, hmoe]
        simp only [if_true]
        apply sendAndReceive_layer h
        · intro t ht
          cases ht
          rfl
        · intro t ht
          cases ht
        · rw [layerMessage, expectedMessage, hspec, hids]
          rfl

/-- A stage's forward exchanges at every remote layer, in order. -/
theorem stageForward_eq (hm : m.validate g = .ok ()) {stage : Int × Int32} (h : Announced c m stage) :
    m.stageForward native c g stage =
      .ok (Ring.exchanges (sends m g) (recvs m) stage (remoteLayers m g)) := by
  have hlayers := Fallible.mapM_ok (l := List.range m.layers.length) fun l _ => mlpForward_eq native hm h l
  unfold Model.stageForward
  dsimp only
  rw [hlayers, Fallible.ok_bind]
  refine congrArg Except.ok ?_
  unfold Ring.exchanges remoteLayers
  induction List.range m.layers.length with
  | nil => rfl
  | cons l ls ih =>
    rw [List.map_cons, List.flatten_cons, ih, List.filter_cons]
    by_cases hl : m.attentionMlp g l = .localMlp
    · simp [hl]
    · simp [hl, exchange]

end Attention

/-! ## The FFN side -/

section Ffn
variable {m : Model} {g : Bool} (native : Native) {c : P2pNcclAFDConnector} {stage : Int}
  {rows : Nat → Int} {l : Nat}

/-- The connector of an FFN rank that expects `rows src` rows of each peer in a stage. -/
structure Expecting (c : P2pNcclAFDConnector) (m : Model) (stage : Int) (rows : Nat → Int) : Prop where
  buffers : c.BuffersKeyed
  peers : c.peers ≠ []
  total : ∃ t, c.tensorMetadataList.get? stage = some t
  peer : ∀ src ∈ c.peers, c.recvAttnTensorMetadataList.get? (stage, src) =
    some ⟨m.dtype, [rows src, m.hiddenSize]⟩
  rows : ∀ src ∈ c.peers, 0 ≤ rows src

/-- What the runner does for one layer and stage. -/
def roundOf (c : P2pNcclAFDConnector) (m : Model) (g : Bool) (rows : Nat → Int) (l : Nat)
    (stage : Int) : Round where
  layerIdx := l
  stageIdx := stage
  received := c.peers.map fun src => (src, layerMessage m g l (rows src))
  sent := c.peers.map fun src => (src, ((List.range' 1 (src - 1)).map rows).sum, layerOutput m (rows src))

theorem routingSpec_eq (hm : m.validate g = .ok ()) (hl : l < m.layers.length) :
    routingSpec m g l = .ok (routingSpecOf m g l) := by
  simp only [routingSpec, gated_iff hm hl, routingSpecOf]
  split
  · rename_i hgate
    have ha := adapter_of_gate (hgate.1 ▸ hm)
    simp only [Model.getExpertsRoutingSpec, ha]
    rfl
  · rfl

theorem computeExpertsOutput_eq (hm : m.validate g = .ok ()) (hgate : g = true ∧ m.isMoeLayer l = true)
    (t : TensorMetadata) : m.computeExpertsOutput native g t l = .ok t := by
  obtain ⟨rfl, hmoe⟩ := hgate
  simp [Model.computeExpertsOutput, adapter_of_gate hm, hmoe, native.ffn_eq]

theorem computeFfnOutput_eq (hm : m.validate g = .ok ()) (hl : l ∈ remoteLayers m g)
    (hgate : ¬ (g = true ∧ m.isMoeLayer l = true)) (t : TensorMetadata)
    {inputIds : Option TensorMetadata} (hids : inputIds.isSome = m.afdRequiresInputIds) :
    m.computeFfnOutput native g t l inputIds = .ok t := by
  have hremote := (mem_remoteLayers.1 hl).2
  unfold Model.computeFfnOutput
  cases ha : m.adapter with
  | deepseekV2 =>
    cases g with
    | false => simp [native.ffn_eq]
    | true =>
      -- a dense layer stays with Attention, an MoE layer is gated
      cases hmoe : m.isMoeLayer l with
      | false => exact absurd (by simp [Model.attentionMlp, ha, hmoe]) hremote
      | true => exact absurd ⟨rfl, hmoe⟩ hgate
  | deepseekV4 =>
    cases inputIds with
    | none => simp [Model.afdRequiresInputIds, ha] at hids
    | some ids => exact congrArg Except.ok (native.ffn_eq l t)
  | qwen3Moe => exact congrArg Except.ok (native.ffn_eq l t)
  | qwen3_5Moe => exact congrArg Except.ok (native.ffn_eq l t)

theorem rankFfnOutput_eq (hm : m.validate g = .ok ()) (hl : l ∈ remoteLayers m g)
    {payload : AFDA2FTransferPayload}
    (hlogits : payload.routerLogits.isSome = (routingSpecOf m g l).isSome)
    (hids : payload.inputIds.isSome = m.afdRequiresInputIds) :
    rankFfnOutput m native g l payload = .ok payload.hiddenStates := by
  unfold rankFfnOutput
  simp only [gated_iff hm (mem_remoteLayers.1 hl).1]
  split
  · rename_i hgate
    have hsome : ¬ payload.routerLogits.isNone = true := by
      intro hnone
      rw [Option.isNone_iff_eq_none] at hnone
      simp [hnone, routingSpecOf, hgate] at hlogits
    rw [if_neg hsome, computeExpertsOutput_eq native hm hgate]
  · rename_i hgate
    exact computeFfnOutput_eq native hm hl hgate _ hids

theorem stageRound_eq (hm : m.validate g = .ok ()) (hl : l ∈ remoteLayers m g)
    (h : Expecting c m stage rows) :
    stageRound m native c g l stage = .ok (roundOf c m g rows l stage) := by
  have hlt := (mem_remoteLayers.1 hl).1
  obtain ⟨total, htotal⟩ := h.total
  obtain ⟨payload, hrecv, hhidden, hmeta, hlogits, hids⟩ :=
    recvAttnOutput_eq h.buffers h.peers htotal h.peer h.rows (routingSpecOf m g l) m.afdRequiresInputIds
  have hsend : c.sendFfnOutput payload.hiddenStates { payload.metadata with
      layerIdx := l, stageIdx := stage } = .ok (roundOf c m g rows l stage).sent := by
    rw [hhidden, hmeta]
    exact sendFfnOutput_eq h.rows
  unfold stageRound
  rw [routingSpec_eq hm hlt, Fallible.ok_bind, hrecv, Fallible.ok_bind]
  dsimp only
  rw [rankFfnOutput_eq native hm hl hlogits hids, Fallible.ok_bind, hsend]
  rfl

end Ffn

/-! ## A mapped pair -/

/-- An Attention rank and the FFN rank it is mapped to. Both run the same
model; the FFN rank may have served any payloads before. -/
structure MappedPair (A F : Nat) (g : Bool) (m : Model) where
  attention : P2pNcclAFDConnector
  ffn : P2pNcclAFDConnector
  attention_config : attention.afdConfig = ⟨.attention, A, F, g⟩
  ffn_config : ffn.afdConfig = ⟨.ffn, A, F, g⟩
  attention_model : attention.hiddenSize = m.hiddenSize ∧ attention.dtype = m.dtype
  ffn_model : ffn.hiddenSize = m.hiddenSize ∧ ffn.dtype = m.dtype
  mapped : ffn.mapping.roleRank = attention.mapping.subgroupIndex
  ffn_reachable : ffn.Reachable

/-- The stages of a batch, with their rows. -/
def stages (b : Batch) : List (Int × Int32) := b.stageRows.zipIdx.map fun e => ((e.2 : Int), e.1)

theorem mem_stages {b : Batch} {s : Int × Int32} (hs : s ∈ stages b) :
    ∃ i : Nat, s.1 = i ∧ b.stageRows[i]? = some s.2 := by
  obtain ⟨e, he, rfl⟩ := List.mem_map.1 hs
  exact ⟨e.2, rfl, List.mem_zipIdx_iff_getElem?.1 he⟩

theorem stageRows_ne_nil (b : Batch) : b.stageRows ≠ [] := by
  unfold Batch.stageRows
  split
  · rename_i hu
    intro hnil
    rw [Batch.ubatched, hnil] at hu
    exact absurd hu (by simp)
  · split <;> try split
    all_goals exact List.cons_ne_nil _ _

/-- The runner visits the stages in the batch's order. -/
theorem stageIds_eq {D : Nat} {b : Batch} {d : Dict Int AFDDPMetadata} (hd : dpMetadataList D b = .ok d) :
    RoutedFfn.stageIds d = (stages b).map Prod.fst := by
  have hfst : (stages b).map Prod.fst = (List.range b.stageRows.length).map Nat.cast := by
    rw [stages, List.map_map, List.range_eq_range', ← List.zipIdx_map_snd 0 b.stageRows, List.map_map]
    rfl
  have hsorted : ((List.range b.stageRows.length).map (Nat.cast : Nat → Int)).Pairwise (· ≤ ·) :=
    List.pairwise_map.2 (List.pairwise_lt_range.imp fun h => Int.ofNat_le.2 (Nat.le_of_lt h))
  have hne : (List.range b.stageRows.length).map (Nat.cast : Nat → Int) ≠ [] := by
    simpa using stageRows_ne_nil b
  unfold RoutedFfn.stageIds
  rw [keys_dpMetadataList hd, List.Pairwise.insertionSort_eq hsorted, hfst]
  split
  · rename_i hnil
    exact absurd hnil hne
  · rfl

section Pair
variable {D tp F : Nat} {g : Bool} {m : Model} (native : Native) (p : MappedPair (D * tp) F g m) {b : Batch}
  {payload : AFDControlPayload}

/-- The rows an FFN rank expects of each peer in a stage. -/
def MappedPair.peerRows (payload : AFDControlPayload) (stage : Int) (src : Nat) : Int :=
  match payload.dpMetadataList.get? stage with
  | some md => (p.ffn.peerMetadata md src).numTokens
  | none => 0

/-- What the payload leaves in the two connectors for one stage of the batch. -/
theorem pair_ready (hF : 1 ≤ F) (hFA : F ≤ D * tp) (hb : b.Prepared D (p.attention.mapping.roleRank / tp))
    (hd : dpMetadataList D b = .ok payload.dpMetadataList) {s : Int × Int32} (hs : s ∈ stages b) :
    Announced (p.attention.updateStateFromDpMetadata payload) m s ∧
      Expecting (p.ffn.updateStateFromDpMetadata payload) m s.1 (p.peerRows payload s.1) ∧
      p.peerRows payload s.1 p.attention.mapping.rankInSubgroup = s.2.toInt ∧
      (payload.dpMetadataList.get? s.1).isSome := by
  obtain ⟨a, hplace⟩ := place_of_pair hF hFA p.attention_config p.ffn_config p.mapped
  obtain ⟨-, -, -, hA, -, -, -⟩ := p.attention.mapping_attention hF hFA p.attention_config
  have hD : 0 < D := Nat.pos_of_ne_zero fun h => by simp [h] at hFA; omega
  obtain ⟨i, hi, hrow⟩ := mem_stages hs
  rw [hplace.roleRank] at hb
  obtain ⟨md, hmd, hrows⟩ := rows_of_dpMetadataList hD hplace.lt hb hd hrow
  rw [← hi] at hmd
  have hroleA : p.attention.afdConfig.role = .attention := by rw [p.attention_config]
  have hroleF : p.ffn.afdConfig.role = .ffn := by rw [p.ffn_config]
  have hgroup := hplace.groupSize
  have h1 := hplace.pos
  have h2 := hplace.lt_groupSize
  have hpos := one_le_numTokensForAttentionRank md (a : Nat) (D * tp)
  have hpeers : (p.ffn.updateStateFromDpMetadata payload).peers = List.range' 1 (p.ffn.groupSize - 1) := by
    rw [peers, groupSize_update]
  refine ⟨⟨?_, ?_, ?_⟩, ⟨?_, ?_, ?_, ?_, ?_⟩, ?_, by rw [hmd]; rfl⟩
  · rw [groupSize_update]
    omega
  · omega
  · rw [tensorMetadataList_update, hmd, Option.map_some]
    simp only [stageMetadata, hroleA, hA, hplace.roleRank, hrows, p.attention_model]
  · exact (p.ffn_reachable.update payload).buffersKeyed
  · rw [hpeers]
    intro hnil
    rw [List.range'_eq_nil_iff] at hnil
    omega
  · rw [tensorMetadataList_update, hmd]
    exact ⟨_, rfl⟩
  · intro src hsrc
    rw [hpeers] at hsrc
    obtain ⟨hlo, hhi⟩ := List.mem_range'_1.1 hsrc
    rw [recvAttnTensorMetadataList_update p.ffn hroleF payload s.1 hlo (by omega), hmd, Option.map_some]
    simp only [MappedPair.peerRows, hmd, peerMetadata, TensorMetadata.numTokens, List.headD_cons,
      p.ffn_model]
  · intro src _
    simp only [MappedPair.peerRows, hmd, peerMetadata, TensorMetadata.numTokens, List.headD_cons]
    exact Int.le_of_lt (one_le_numTokensForAttentionRank _ _ _)
  · simp only [MappedPair.peerRows, hmd]
    rw [hplace.peer, hrows]

/-- The runner serves every remote layer, each stage at each. -/
theorem ffnForward_eq (hm : m.validate g = .ok ()) (hlayers : m.layers ≠ []) {c : P2pNcclAFDConnector}
    (rows : Int → Nat → Int) {d : Dict Int AFDDPMetadata} (hd : dpMetadataList D b = .ok d)
    (hc : ∀ s ∈ stages b, Expecting c m s.1 (rows s.1) ∧ (d.get? s.1).isSome) :
    ffnForward m native c g d = .ok ((remoteLayers m g).flatMap fun l =>
      (stages b).map fun s => roundOf c m g (rows s.1) l s.1) := by
  have hkeys : ¬ ((stages b).map Prod.fst).any (fun s => (d.get? s).isNone) = true := by
    simp only [List.any_map, List.any_eq_true, Function.comp_apply, not_exists, not_and,
      Option.isNone_iff_eq_none]
    intro s hs hnone
    have hsome := (hc s hs).2
    rw [hnone] at hsome
    cases hsome
  have hlayer : ∀ l ∈ remoteLayers m g, ((stages b).map Prod.fst).mapM (stageRound m native c g l) =
      .ok ((stages b).map fun s => roundOf c m g (rows s.1) l s.1) := fun l hl =>
    Fallible.mapM_map_ok fun s hs => stageRound_eq native hm hl (hc s hs).1
  unfold ffnForward
  dsimp only
  rw [stageIds_eq hd, if_neg hkeys, layerIndices_eq hm hlayers, Fallible.mapM_ok hlayer]
  exact congrArg Except.ok List.flatMap_def.symm

/-- A peer's entries among all peers' are the ones at its place. -/
theorem filter_peers {α : Type} {c : P2pNcclAFDConnector} {peer : Nat} (hpeer : peer ∈ c.peers)
    (f : Nat → α) :
    (c.peers.map fun src => (src, f src)).filter (fun p => p.1 = peer) = [(peer, f peer)] := by
  have hnodup : c.peers.Nodup := List.nodup_range'
  rw [List.filter_map]
  have hsingle : c.peers.filter ((fun p : Nat × α => decide (p.1 = peer)) ∘ fun src => (src, f src)) =
      [peer] := by
    have hcount : c.peers.filter (· = peer) = List.replicate (List.count peer c.peers) peer :=
      List.filter_eq peer
    rw [List.count_eq_one_of_mem hnodup hpeer] at hcount
    exact hcount
  rw [hsingle]
  rfl

/-- What crosses the wire in one forward: every remote layer in order, each
stage at each. -/
def forwardMessages (m : Model) (g : Bool) (b : Batch) : List Transfer :=
  (remoteLayers m g).flatMap fun l =>
    (stages b).flatMap fun s => (layerMessage m g l s.2.toInt).map fun t => ⟨l, s.1, t⟩

/-- What comes back. -/
def forwardOutputs (m : Model) (g : Bool) (b : Batch) : List Transfer :=
  (remoteLayers m g).flatMap fun l => (stages b).map fun s => ⟨l, s.1, layerOutput m s.2.toInt⟩

/-- The Attention rank's micro-batch threads, each on its stage, send and receive these. -/
theorem attention_forward (hm : m.validate g = .ok ()) {c : P2pNcclAFDConnector}
    (hc : ∀ s ∈ stages b, Announced c m s) :
    ∃ threads ops, (stages b).mapM (m.stageForward native c g) = .ok threads ∧
      Rendezvous.Issues Ring.ring (threads.map Ring.segments) ops ∧
      ops.filterMap Op.sent = forwardMessages m g b ∧ ops.filterMap Op.received = forwardOutputs m g b := by
  have hthreads := Fallible.mapM_ok (l := stages b) fun s hs => stageForward_eq native hm (hc s hs)
  refine ⟨_, (Ring.links none (remoteLayers m g)).flatMap fun r =>
      (stages b).flatMap fun s => Ring.linkOps (sends m g) (recvs m) s r, hthreads, ?_, ?_, ?_⟩
  · have hsegments : ∀ s, Ring.segments (Ring.exchanges (sends m g) (recvs m) s (remoteLayers m g)) =
        (Ring.links none (remoteLayers m g)).map (Ring.linkOps (sends m g) (recvs m) s) := fun s =>
      Ring.segments_exchanges (sends m g) (recvs m) s none (remoteLayers m g)
    rw [List.map_map]
    simp only [Function.comp_def, hsegments]
    exact Ring.issues_rounds _ (stages b) _
  · rw [Ring.filterMap_links_before _ _ _ _ fun s l => rfl]
    simp only [forwardMessages, sends, List.filterMap_map]
    simp [Function.comp_def, Op.sent]
  · have hsends : ∀ s l, (sends m g s l).filterMap Op.received = [] := by
      intro s l
      simp [sends, List.filterMap_map, Function.comp_def, Op.received]
    rw [Ring.filterMap_links_after _ _ _ _ hsends]
    simp only [forwardOutputs, recvs, List.map_eq_flatMap]
    rfl

/-- The first row of a peer's hidden states in the concatenated batch of a round. -/
def firstRow (r : Round) (peer : Nat) : Int :=
  ((r.received.filter fun p => p.1 < peer).map fun p =>
    ((ofKind .hiddenStates [p]).map TensorMetadata.numTokens).sum).sum

theorem filter_lt_range' (k n peer : Nat) :
    (List.range' k n).filter (· < peer) = List.range' k (min n (peer - k)) := by
  induction n generalizing k with
  | zero => simp
  | succ n ih =>
    rw [List.range'_succ, List.filter_cons, ih]
    by_cases hk : k < peer
    · have hmin : min (n + 1) (peer - k) = min n (peer - (k + 1)) + 1 := by omega
      rw [if_pos (by simpa using hk), hmin, List.range'_succ]
    · have h1 : min n (peer - (k + 1)) = 0 := by omega
      have h2 : min (n + 1) (peer - k) = 0 := by omega
      rw [if_neg (by simpa using hk), h1, h2]
      rfl

/-- A slice starts where the peer's own rows were placed. -/
theorem firstRow_roundOf (c : P2pNcclAFDConnector) (rows : Nat → Int) (l : Nat) (stage : Int) :
    ∀ x ∈ (roundOf c m g rows l stage).sent, x.2.1 = firstRow (roundOf c m g rows l stage) x.1 := by
  intro x hx
  obtain ⟨src, hsrc, rfl⟩ := List.mem_map.1 hx
  obtain ⟨hlo, hhi⟩ := List.mem_range'_1.1 hsrc
  have hmin : min (c.groupSize - 1) (src - 1) = src - 1 := by omega
  have hone : ∀ src', ofKind .hiddenStates [(src', layerMessage m g l (rows src'))] =
      [⟨m.dtype, [rows src', m.hiddenSize]⟩] := fun src' =>
    ofKind_hiddenStates [src'] (fun src' => ⟨m.dtype, [rows src', m.hiddenSize]⟩) (routingSpecOf m g l) _
  simp only [firstRow, roundOf, List.filter_map, List.map_map]
  have hbefore : c.peers.filter ((fun p : Nat × List WireTensor => decide (p.1 < src)) ∘
      fun src' => (src', layerMessage m g l (rows src'))) = List.range' 1 (src - 1) := by
    have h := filter_lt_range' 1 (c.groupSize - 1) src
    rw [hmin] at h
    exact h
  rw [hbefore]
  refine congrArg List.sum (List.map_congr_left fun src' _ => ?_)
  simp [hone, TensorMetadata.numTokens]

end Pair

/-- The P2P wire agreement. One forward of an Attention rank, whose
micro-batch threads hand over at each yield, against the FFN runner executing
the payload published for it: the tensors sent are the tensors received from
that peer, one by one, and the outputs sent back to it are the outputs it
receives, each slice starting at the peer's own first row. Attention keeps
exactly the layers the FFN loop skips. -/
theorem p2p_wire_agreement {D tp F : Nat} (hF : 1 ≤ F) (hFA : F ≤ D * tp) {g : Bool} {m : Model}
    (hm : m.validate g = .ok ()) (hlayers : m.layers ≠ []) (native : Native)
    (p : MappedPair (D * tp) F g m) {b : Batch} (hb : b.Prepared D (p.attention.mapping.roleRank / tp))
    {payload : AFDControlPayload} (hd : dpMetadataList D b = .ok payload.dpMetadataList) :
    ∃ threads ops rounds,
      (stages b).mapM (m.stageForward native (p.attention.updateStateFromDpMetadata payload) g) =
        .ok threads ∧
      Rendezvous.Issues Ring.ring (threads.map Ring.segments) ops ∧
      ffnForward m native (p.ffn.updateStateFromDpMetadata payload) g payload.dpMetadataList = .ok rounds ∧
      ops.filterMap Op.sent = forwardMessages m g b ∧
      receivedFrom p.attention.mapping.rankInSubgroup rounds = ops.filterMap Op.sent ∧
      sentTo p.attention.mapping.rankInSubgroup rounds = ops.filterMap Op.received ∧
      (∀ r ∈ rounds, ∀ x ∈ r.sent, x.2.1 = firstRow r x.1) ∧
      (∀ l < m.layers.length, m.attentionMlp g l = .localMlp ↔ l ∉ layerIndices m g) := by
  obtain ⟨a, hplace⟩ := place_of_pair hF hFA p.attention_config p.ffn_config p.mapped
  have hready := fun s (hs : s ∈ stages b) => pair_ready p hF hFA hb hd hs
  obtain ⟨threads, ops, hthreads, hissues, hsent, hreceived⟩ :=
    attention_forward native hm fun s hs => (hready s hs).1
  have hpeer : p.attention.mapping.rankInSubgroup ∈ (p.ffn.updateStateFromDpMetadata payload).peers := by
    have h1 := hplace.pos
    have h2 := hplace.lt_groupSize
    rw [peers, groupSize_update]
    exact List.mem_range'_1.2 ⟨h1, by omega⟩
  have hrounds := ffnForward_eq native hm hlayers (p.peerRows payload) hd fun s hs =>
    ⟨(hready s hs).2.1, (hready s hs).2.2.2⟩
  refine ⟨threads, ops, _, hthreads, hissues, hrounds, hsent, ?_, ?_, ?_, ?_⟩
  · rw [hsent, receivedFrom, forwardMessages, List.flatMap_assoc]
    refine List.flatMap_congr fun l _ => ?_
    rw [List.flatMap_map]
    refine List.flatMap_congr fun s hs => ?_
    simp only [roundOf, filter_peers hpeer, List.flatMap_singleton, (hready s hs).2.2.1]
  · rw [hreceived, sentTo, forwardOutputs, List.flatMap_assoc]
    refine List.flatMap_congr fun l _ => ?_
    rw [List.flatMap_map, List.map_eq_flatMap]
    refine List.flatMap_congr fun s hs => ?_
    simp only [roundOf, filter_peers hpeer, List.map_singleton, (hready s hs).2.2.1]
  · intro r hr
    obtain ⟨l, -, hr⟩ := List.mem_flatMap.1 hr
    obtain ⟨s, -, rfl⟩ := List.mem_map.1 hr
    exact firstRow_roundOf _ _ l s.1
  · intro l hl
    rw [layerIndices_eq hm hlayers, mem_remoteLayers]
    constructor
    · intro h h'
      exact h'.2 h
    · intro h
      by_contra hne
      exact h ⟨hl, hne⟩

/-- DeepSeek V2 with a dense first layer and the gate on Attention. -/
def gatedModel : Model where
  adapter := .deepseekV2
  hiddenSize := 8
  dtype := .bfloat16
  nRoutedExperts := 4
  routerDtype := some .float32
  layers := (List.range 3).map (deepseekIsMoeLayer (some 4) 1 1)

def shapeNative : Native where
  ffn _ t := t
  ffn_eq _ _ := rfl
  gateLinear outFeatures dtype t := ⟨dtype, [t.numTokens, outFeatures]⟩
  gateLinear_eq _ _ _ := rfl

/-- The second of three Attention ranks, mapped to the first of two FFN ranks. -/
def gatedPair : MappedPair (3 * 1) 2 true gatedModel where
  attention := ⟨⟨.attention, 3, 2, true⟩, 1, _, rfl, 8, .bfloat16, true, ∅, false, false, ∅, ∅, ∅, ∅⟩
  ffn := ⟨⟨.ffn, 3, 2, true⟩, 0, _, rfl, 8, .bfloat16, true, ∅, false, false, ∅, ∅, ∅, ∅⟩
  attention_config := rfl
  ffn_config := rfl
  attention_model := ⟨rfl, rfl⟩
  ffn_model := ⟨rfl, rfl⟩
  mapped := rfl
  ffn_reachable := .init (init_eq rfl)

def ubatchedBatch : Batch := ⟨none, [5, 4], 9, none⟩

theorem ubatchedBatch_prepared (dpSize dpRank : Nat) : ubatchedBatch.Prepared dpSize dpRank where
  rows_pos := by
    intro n hn
    have hn : n = 5 ∨ n = 4 := by simpa [Batch.stageRows, Batch.ubatched, ubatchedBatch] using hn
    rcases hn with rfl | rfl <;> decide
  length_counts md h := by cases h
  own_count md h := by cases h

/-- Two micro-batches: the two MoE layers cross the wire with their router logits. -/
theorem p2p_wire_agreement_gated : ∃ rounds,
    ffnForward gatedModel shapeNative
      (gatedPair.ffn.updateStateFromDpMetadata
        ⟨Dict.setAll ∅ [(0, ⟨[5, 5, 5], 5⟩), (1, ⟨[4, 4, 4], 4⟩)], false, false, false, false⟩) true
      (Dict.setAll ∅ [(0, ⟨[5, 5, 5], 5⟩), (1, ⟨[4, 4, 4], 4⟩)]) = .ok rounds ∧
    receivedFrom gatedPair.attention.mapping.rankInSubgroup rounds = forwardMessages gatedModel true
      ubatchedBatch ∧
    (forwardMessages gatedModel true ubatchedBatch).map (fun t => (t.layerIdx, t.stageIdx, t.tensor.kind)) =
      [(1, 0, .hiddenStates), (1, 0, .routerLogits), (1, 1, .hiddenStates), (1, 1, .routerLogits),
        (2, 0, .hiddenStates), (2, 0, .routerLogits), (2, 1, .hiddenStates), (2, 1, .routerLogits)] :=
  have ⟨_, _, rounds, _, _, hrounds, hsent, hreceived, _⟩ :=
    p2p_wire_agreement (D := 3) (F := 2) (by decide) (by decide) (m := gatedModel) rfl (by decide)
      shapeNative gatedPair (ubatchedBatch_prepared 3 _) rfl
  ⟨rounds, hrounds, hreceived.trans hsent, by decide +kernel⟩

end AfdPlugin.WireAgreement
