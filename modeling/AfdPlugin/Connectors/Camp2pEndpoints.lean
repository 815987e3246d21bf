import AfdPlugin.Connectors.Camp2pTransfer
/-!
# The ends of a CAMP2P exchange

What each end puts into its operator calls: an Attention rank's rows and ids are
padded to its count in the live metadata, its receive uses the state its stage's
send has left, and an FFN rank whose group sends equal counts reads and answers
for their sum.
-/

namespace AfdPlugin.Camp2p

open AfdPlugin.P2p (AFDTransferMetadata)

/-! ## Padding -/

section Padding
variable {α : Type} [Zero α]

/-- A rank's entries, followed by zeros up to `n`. -/
def padded (l : List α) (n : Nat) : List α := l ++ List.replicate (n - l.length) 0

theorem length_padded {l : List α} {n : Nat} (h : l.length ≤ n) : (padded l n).length = n := by
  rw [padded, List.length_append, List.length_replicate]
  omega

theorem take_padded (l : List α) (n : Nat) : (padded l n).take l.length = l := by
  rw [padded, List.take_left]

theorem padded_of_length {l : List α} {n : Nat} (h : l.length = n) : padded l n = l := by
  rw [padded, h, Nat.sub_self, List.replicate_zero, List.append_nil]

theorem padRows_ok {l : List α} {n : Nat} (h : l.length ≤ n) :
    padRows l 0 ((n : Int) - l.length) = .ok (padded l n) := by
  have hpos : ¬ ((n : Int) - l.length < 0) := by omega
  have hnat : ((n : Int) - l.length).toNat = n - l.length := by omega
  rw [padRows, if_neg hpos, hnat]
  rfl

/-- Ids are padded by rows of zeros, which are the packed zero ids. -/
theorem padRows_packTokenIds {ids : List Int32} {n : Nat} (h : ids.length ≤ n) (topk : Nat) :
    padRows (packTokenIds ids topk) (List.replicate topk 0) ((n : Int) - ids.length) =
      .ok (packTokenIds (padded ids n) topk) := by
  have hpos : ¬ ((n : Int) - ids.length < 0) := by omega
  have hnat : ((n : Int) - ids.length).toNat = n - ids.length := by omega
  rw [padRows, if_neg hpos, hnat, packTokenIds, packTokenIds, padded, List.map_append, List.map_replicate]

theorem padRows_inertScales {m n : Nat} (h : m ≤ n) (topk : Nat) :
    padRows (inertScales m topk : List (List α)) (List.replicate topk 0) ((n : Int) - m) =
      .ok (inertScales n topk) := by
  have hpos : ¬ ((n : Int) - m < 0) := by omega
  have hnat : ((n : Int) - m).toNat = n - m := by omega
  rw [padRows, if_neg hpos, hnat, inertScales, inertScales, List.replicate_append_replicate,
    Nat.add_sub_cancel' h]

end Padding

/-! ## Token ids -/

theorem length_packTokenIds (ids : List Int32) (topk : Nat) :
    (packTokenIds ids topk).length = ids.length := by
  rw [packTokenIds, List.length_map]

/-- The first column of packed ids is the ids. -/
theorem receivedTokenIds_packed {ids : List Int32} {topk : Nat} (htopk : 1 ≤ topk) :
    receivedTokenIds (packTokenIds ids topk) ids.length = .ok ids := by
  have hcol : (packTokenIds ids topk).mapM firstColumn = .ok ids := by
    obtain ⟨k, rfl⟩ := Nat.exists_eq_add_of_le' htopk
    have hmap := Fallible.mapM_map_ok (f := firstColumn) (g := List.replicate (k + 1))
      (h := fun id => id) (l := ids) fun _ _ => rfl
    rwa [List.map_id'] at hmap
  have hlen := length_packTokenIds ids topk
  rw [receivedTokenIds, if_neg (by omega), Int.toNat_natCast, ← hlen, List.take_length, hcol]

/-! ## Row-wise computation -/

section Compute
variable {Row : Type} (ffn : Row → Option Int32 → Row)

theorem length_computeFfnOutput {rows : List Row} {ids : Option (List Int32)}
    (h : ∀ i ∈ ids, i.length = rows.length) :
    (computeFfnOutput ffn rows ids).length = rows.length := by
  cases ids with
  | none => simp [computeFfnOutput]
  | some i => simp [computeFfnOutput, h i rfl]

/-- What follows a rank's rows and ids does not change its outputs. -/
theorem take_computeFfnOutput {rows rows' : List Row} {ids : Option (List Int32)}
    {ids' : Option (List Int32)} {m : Nat} (hrows : rows'.take m = rows)
    (hids : ids'.map (·.take m) = ids) :
    (computeFfnOutput ffn rows' ids').take m = computeFfnOutput ffn rows ids := by
  subst hrows hids
  cases ids' with
  | none => simp [computeFfnOutput]
  | some i => simp [computeFfnOutput, List.take_zipWith]

/-- Rows are computed rank by rank. -/
theorem computeFfnOutput_flatMap {β : Type} {rows : β → List Row} {ids : Option (β → List Int32)}
    {l : List β} (h : ∀ i ∈ ids, ∀ b ∈ l, (i b).length = (rows b).length) :
    computeFfnOutput ffn (l.flatMap rows) (ids.map fun i => l.flatMap i) =
      l.flatMap fun b => computeFfnOutput ffn (rows b) (ids.map fun i => i b) := by
  cases ids with
  | none => simp [computeFfnOutput, List.map_flatMap]
  | some i =>
    have hi := h i rfl
    clear h
    induction l with
    | nil => rfl
    | cons b l ih =>
      have hb : (rows b).length = (i b).length := (hi b List.mem_cons_self).symm
      simp only [Option.map_some, computeFfnOutput, List.flatMap_cons] at ih ⊢
      rw [List.zipWith_append hb, ih fun b hb => hi b (List.mem_cons_of_mem _ hb)]

end Compute

/-! ## Started deployments -/

section Deployment
variable {Row Scale Handle : Type}

/-- The endpoint has joined the groups and has the model's dimensions. -/
structure Joined (ops : CamOperators Row Scale Handle) (numUbatches hiddenSize topk : Nat)
    (e : CAMP2pEndpoint) :
    Prop where
  names : e.initAfdConnector numUbatches (ops.commName e.worldRank) = e
  hiddenSize_eq : e.hiddenSize = hiddenSize
  topk_eq : e.numExpertsPerTok = topk

/-- Every process of both roles, after `init_afd_connector`. -/
structure Deployment (ops : CamOperators Row Scale Handle) (A F : Nat) where
  numUbatches : Nat
  hiddenSize : Nat
  topk : Nat
  attention : Nat → CAMP2pEndpoint
  ffn : Nat → CAMP2pEndpoint
  attention_pos : 0 < A
  attention_config : ∀ a < A, ∃ g, (attention a).connector.afdConfig = ⟨.attention, A, F, g⟩
  attention_rank : ∀ a < A, (attention a).connector.roleRank = a
  ffn_config : ∀ f < F, ∃ g, (ffn f).connector.afdConfig = ⟨.ffn, A, F, g⟩
  ffn_rank : ∀ f < F, (ffn f).connector.roleRank = f
  attention_joined : ∀ a < A, Joined ops numUbatches hiddenSize topk (attention a)
  ffn_joined : ∀ f < F, Joined ops numUbatches hiddenSize topk (ffn f)

/-- An endpoint's place and dimensions, which a payload does not change. -/
structure Endpoint (ops : CamOperators Row Scale Handle)
    (A F numUbatches hiddenSize topk rank roleRank : Nat) (e : CAMP2pEndpoint) : Prop where
  joined : Joined ops numUbatches hiddenSize topk e
  attnSize : e.attnSize = A
  ffnSize : e.ffnSize = F
  worldRank : e.worldRank = rank
  roleRank : e.connector.topology.roleRank = roleRank

theorem topology_attention {A F a : Nat} {g : Bool} {c : CAMP2pAFDConnector}
    (hc : c.afdConfig = ⟨.attention, A, F, g⟩) (hr : c.roleRank = a) (ha : a < A) :
    c.topology.worldRank = F + a ∧ c.topology.roleRank = a := by
  obtain ⟨hF, hFA, -, -⟩ := CAMP2pAFDConnector.sizes_of_config hc
  have hbuilt := c.built
  rw [hc, hr, buildCamp2pTopology_attention hF hFA ha] at hbuilt
  rw [← Except.ok.inj hbuilt]
  exact ⟨rfl, rfl⟩

theorem topology_ffn {A F f : Nat} {g : Bool} {c : CAMP2pAFDConnector} (hc : c.afdConfig = ⟨.ffn, A, F, g⟩)
    (hr : c.roleRank = f) (hf : f < F) : c.topology.worldRank = f ∧ c.topology.roleRank = f := by
  obtain ⟨hF, hFA, -, -⟩ := CAMP2pAFDConnector.sizes_of_config hc
  have hbuilt := c.built
  rw [hc, hr, buildCamp2pTopology_ffn hF hFA hf] at hbuilt
  rw [← Except.ok.inj hbuilt]
  exact ⟨rfl, rfl⟩

namespace Deployment
variable {ops : CamOperators Row Scale Handle} {A F : Nat} (d : Deployment ops A F)

theorem attention_endpoint {a : Nat} (ha : a < A) :
    Endpoint ops A F d.numUbatches d.hiddenSize d.topk (F + a) a (d.attention a) := by
  obtain ⟨g, hc⟩ := d.attention_config a ha
  obtain ⟨-, -, hattn, hffn⟩ := CAMP2pAFDConnector.sizes_of_config hc
  obtain ⟨hworld, hrole⟩ := topology_attention hc (d.attention_rank a ha) ha
  exact ⟨d.attention_joined a ha, hattn, hffn, hworld, hrole⟩

theorem ffn_endpoint {f : Nat} (hf : f < F) :
    Endpoint ops A F d.numUbatches d.hiddenSize d.topk f f (d.ffn f) := by
  obtain ⟨g, hc⟩ := d.ffn_config f hf
  obtain ⟨-, -, hattn, hffn⟩ := CAMP2pAFDConnector.sizes_of_config hc
  obtain ⟨hworld, hrole⟩ := topology_ffn hc (d.ffn_rank f hf) hf
  exact ⟨d.ffn_joined f hf, hattn, hffn, hworld, hrole⟩

end Deployment

/-- The group of a stage: the first one also serves every stage from the third
ubatch on. -/
def groupOf (stage : Int) : Nat := if stage = 1 then 1 else if stage = 2 then 2 else 0

namespace Endpoint
variable {ops : CamOperators Row Scale Handle} {A F numUbatches hiddenSize topk rank roleRank : Nat}
  {e : CAMP2pEndpoint} (he : Endpoint ops A F numUbatches hiddenSize topk rank roleRank e)
include he

theorem isInitialized : e.isInitialized = true := by
  rw [← he.joined.names]
  rfl

/-- A stage resolves to the same group on every endpoint. -/
theorem getGroupEp_eq {stage : Int} (h0 : 0 ≤ stage) (hstage : stage < numUbatches) :
    getGroupEp stage e.hcclCommName e.hcclCommName2 e.hcclCommName3 =
      .ok (ops.commName rank (groupOf stage)) := by
  have hname := ops.commName_ne e.worldRank
  rw [← he.joined.names, ← he.worldRank]
  simp only [getGroupEp, groupOf, CAMP2pEndpoint.initAfdConnector]
  by_cases h1 : stage = 1
  · have hseveral : max 1 numUbatches > 1 := by omega
    simp [h1, hseveral, hname]
  · by_cases h2 : stage = 2
    · have hthree : max 1 numUbatches > 2 := by omega
      simp [h2, hthree, hname]
    · simp [h1, h2, not_lt.2 h0]

/-- Only the connector's metadata changes. -/
theorem withMetadata {c : CAMP2pAFDConnector} (hc : c.topology = e.connector.topology) :
    Endpoint ops A F numUbatches hiddenSize topk rank roleRank { e with connector := c } := by
  obtain ⟨⟨hnames, hhidden, htopk⟩, hattn, hffn, hworld, hrole⟩ := he
  refine ⟨⟨?_, hhidden, htopk⟩, ?_, ?_, ?_, ?_⟩
  · have hrank : CAMP2pEndpoint.worldRank { e with connector := c } = e.worldRank := by
      simp only [CAMP2pEndpoint.worldRank, hc]
    rw [hrank]
    conv_rhs => rw [← hnames]
    rfl
  · simpa only [CAMP2pEndpoint.attnSize, CAMP2pAFDConnector.attnSize, hc] using hattn
  · simpa only [CAMP2pEndpoint.ffnSize, CAMP2pAFDConnector.ffnSize, hc] using hffn
  · simpa only [CAMP2pEndpoint.worldRank, hc] using hworld
  · simpa only [hc] using hrole

end Endpoint

end Deployment

/-! ## Attention ranks send their count -/

section Send
variable {Row Scale Handle : Type}

/-- The call of an Attention rank: its rows and ids, up to its count. -/
structure SendsCount [Zero Row] (ops : CamOperators Row Scale Handle) (A F hiddenSize topk a n : Nat)
    (stage : Int) (rows : List Row) (ids : Option (List Int32)) (call : A2ECall Row Scale) : Prop where
  x : call.x = padded rows n
  expertIds : call.expertIds = ids.map fun ids => packTokenIds (padded ids n) topk
  rank : call.rank = F + a
  groupEp : call.groupEp = ops.commName (F + a) (groupOf stage)
  shape : call.expertRankSize = F ∧ call.attentionRankSize = A ∧ call.hiddenSize = hiddenSize ∧
    call.topk = topk
  computeGate : call.computeGate = if ids.isSome then 1 else 0

/-- The context that the stage's thread runs in. `_make_forward_contexts` gives
each of several stages its number; Python sets it where it runs. -/
def OwnContext (ctx : ForwardContext Handle) (stage : Int) (numStages : Nat) (mode : RunMode) : Prop :=
  match mode with
  | .eager _ => True
  | .compiled _ => ctx.ubatchIdx = some stage ∨ (numStages ≤ 1 ∧ stage = 0 ∧ ctx.ubatchIdx = none)

variable [Zero Row] [Zero Scale] {ops : CamOperators Row Scale Handle}
  {A F numUbatches hiddenSize topk a : Nat} {e : CAMP2pEndpoint}
  (he : Endpoint ops A F numUbatches hiddenSize topk (F + a) a e) {stage : Int} (h0 : 0 ≤ stage)
  (hstage : stage < numUbatches) {rows : List Row} {ids : Option (List Int32)} {n : Nat}
  (hrows : rows.length ≤ n) (hids : ∀ i ∈ ids, i.length = rows.length)
  (hcount : F < A → 1 < e.connector.dpMetadataList.entries.length →
    ∃ md, e.connector.dpMetadataList.get? stage = some md ∧ md.counts[a]? = some (n : Int))
  (hreal : ¬ (F < A ∧ 1 < e.connector.dpMetadataList.entries.length) → rows.length = n)
include he h0 hstage hrows hids hcount hreal

/-- The operator pads to the count in the live metadata, whatever batch size it
was given. -/
theorem sendAttnOutputImpl_ok {ctx : ForwardContext Handle} (hidx : ctx.ubatchIdx.getD 0 = stage)
    (hseveral : 1 < e.connector.dpMetadataList.entries.length → ctx.ubatchIdx = some stage)
    (batchSize : Int) :
    ∃ call st, sendAttnOutputImpl ops e.connector ctx (sendAttnOutputArgs e rows batchSize
        (ids.map fun i => (packTokenIds i topk, inertScales i.length topk))) =
          .ok (call, { ctx with camAfdtransferState := some st }) ∧
      st.attenBatchSize = some (ops.a2eSend call) ∧
      SendsCount ops A F hiddenSize topk a n stage rows ids call := by
  have hgroup := he.getGroupEp_eq h0 hstage
  have hA := he.attnSize
  have hF := he.ffnSize
  have hW := he.worldRank
  have hH := he.joined.hiddenSize_eq
  have hK := he.joined.topk_eq
  -- the call as the binding gets it; only its batch size argument depends on the path
  let call (b : Int) : A2ECall Row Scale := {
    x := padded rows n, expertIds := ids.map fun i => packTokenIds (padded i n) topk
    scales := ids.map fun _ => inertScales n topk, batchSize := b, hiddenSize := hiddenSize, topk := topk
    expertRankSize := F, attentionRankSize := A, rank := F + a, groupEp :=
      ops.commName (F + a) (groupOf stage)
    aivNum := e.aivNum, computeGate := if ids.isSome then 1 else 0 }
  let st (b : Int) : CAMP2PTransferState Handle := {
    aivNum := e.aivNum, batchSize := b, h := hiddenSize, k := topk, attenBatchSize :=
      some (ops.a2eSend (call b)) }
  have hcall : ∀ b, SendsCount ops A F hiddenSize topk a n stage rows ids (call b) := by
    intro b
    exact ⟨rfl, rfl, rfl, rfl, ⟨rfl, rfl, rfl, rfl⟩, rfl⟩
  by_cases hpad : F < A ∧ 1 < e.connector.dpMetadataList.entries.length
  · obtain ⟨md, hmd, hn⟩ := hcount hpad.1 hpad.2
    have htokens : physicalTokens e.connector ctx (F + a) F = .ok (n : Int) := by
      simp only [physicalTokens, hseveral hpad.2, hmd, Nat.add_sub_cancel_left, hn]
    have hx := padRows_ok hrows
    have hi : (ids.map fun i => packTokenIds i topk).mapM
        (padRows · (List.replicate topk 0) ((n : Int) - rows.length)) =
          .ok (ids.map fun i => packTokenIds (padded i n) topk) := by
      cases ids with
      | none => rfl
      | some i =>
        have hlen := hids i rfl
        have hp := @padRows_packTokenIds i n (by omega) topk
        rw [hlen] at hp
        simp only [Option.map_some, Option.mapM, hp]
        rfl
    have hs : (ids.map fun i => (inertScales i.length topk : List (List Scale))).mapM
          (padRows · (List.replicate topk 0) ((n : Int) - rows.length)) =
        .ok (ids.map fun _ => inertScales n topk) := by
      cases ids with
      | none => rfl
      | some i =>
        have hlen := hids i rfl
        have hp := @padRows_inertScales Scale _ i.length n (by omega) topk
        rw [hlen] at hp
        simp only [Option.map_some, Option.mapM, hlen, hp]
        rfl
    refine ⟨call n, st n, ?_, rfl, hcall n⟩
    simp only [sendAttnOutputImpl, sendAttnOutputArgs, hidx, hgroup, hA, hF, hW, hH, hK, hpad, htokens, hx,
      Option.map_map, Function.comp_def, hi, hs, Option.isSome_map, bind, Except.bind, pure, Except.pure,
      and_self, if_true]
    rfl
  · have hlen := hreal hpad
    have hx : padded rows n = rows := padded_of_length hlen
    have hi : (ids.map fun i => packTokenIds (padded i n) topk) = ids.map fun i => packTokenIds i topk := by
      apply Option.map_congr
      intro i hi
      rw [padded_of_length ((hids i hi).trans hlen)]
    have hs : (ids.map fun _ => (inertScales n topk : List (List Scale))) =
        ids.map fun i => inertScales i.length topk := by
      apply Option.map_congr
      intro i hi
      rw [(hids i hi).trans hlen]
    refine ⟨call batchSize, st batchSize, ?_, rfl, hcall batchSize⟩
    simp only [sendAttnOutputImpl, sendAttnOutputArgs, hidx, hgroup, hA, hF, hW, hH, hK, hpad,
      Option.map_map, Function.comp_def, Option.isSome_map, bind, Except.bind, pure, Except.pure,
      if_false, call, st, hx, hi, hs]

/-- A send leaves the handle of its own call on the stage's context. -/
theorem send_ok {ctx : ForwardContext Handle} {mode : RunMode}
    (hctx : OwnContext ctx stage e.connector.dpMetadataList.entries.length mode) :
    ∃ call ctx' st, send ops e ctx stage mode rows ids = .ok (call, ctx') ∧
      ctx'.camAfdtransferState = some st ∧ st.attenBatchSize = some (ops.a2eSend call) ∧
      ctx'.ubatchIdx.getD 0 = stage ∧ SendsCount ops A F hiddenSize topk a n stage rows ids call := by
  have hK := he.joined.topk_eq
  cases mode with
  | compiled batchSize =>
    have hidx : ctx.ubatchIdx.getD 0 = stage := by
      rcases hctx with h | ⟨-, hzero, h⟩
      · rw [h]
        rfl
      · rw [h, hzero]
        rfl
    have hseveral : 1 < e.connector.dpMetadataList.entries.length → ctx.ubatchIdx = some stage := by
      intro hlen
      rcases hctx with h | ⟨hone, -, -⟩
      · exact h
      · omega
    obtain ⟨call, st, hsend, hst, hcall⟩ :=
      sendAttnOutputImpl_ok he h0 hstage hrows hids hcount hreal hidx hseveral batchSize
    exact ⟨call, { ctx with camAfdtransferState := some st }, st, by rw [send, hK, hsend], rfl, hst,
      hidx, hcall⟩
  | eager layerIdx =>
    have hnew : AFDTransferMetadata.new layerIdx stage [(rows.length : Int)] =
        .ok ⟨layerIdx, stage, [rows.length]⟩ := by
      have hpos : ¬ (rows.length : Int) < 0 := by omega
      simp [AFDTransferMetadata.new, hpos]
    have hids' : ids.mapM (prepareTokenIdTransfer · topk (rows.length : Int)) =
        .ok (ids.map fun i =>
          ((packTokenIds i topk, inertScales i.length topk) : _ × List (List Scale))) := by
      cases ids with
      | none => rfl
      | some i =>
        have hlen : (i.length : Int) = rows.length := by rw [hids i rfl]
        simp only [Option.mapM, prepareTokenIdTransfer, hlen, ne_eq, not_true_eq_false, if_false,
          Option.map_some]
        rfl
    let own : ForwardContext Handle := { ctx with
      camAfdtransferState :=
        some { aivNum := e.aivNum, batchSize := rows.length, h := e.hiddenSize, k := topk }
      ubatchIdx := some stage }
    obtain ⟨call, st, hsend, hst, hcall⟩ :=
      sendAttnOutputImpl_ok he h0 hstage hrows hids hcount hreal
        (show own.ubatchIdx.getD 0 = stage from rfl) (fun _ => rfl) rows.length
    refine ⟨call, { own with camAfdtransferState := some st }, st, ?_, rfl, hst, rfl, hcall⟩
    simp only [send, hnew, sendAttnOutput, he.isInitialized, AFDTransferMetadata.validateTensorShape,
      AFDTransferMetadata.totalTokens, List.sum_singleton, hK, hids', bind, Except.bind]
    simp only [not_true_eq_false, if_false, List.headD_cons, ne_eq, reduceCtorEq, not_false_eq_true,
      and_self, decide_true]
    exact hsend

end Send

/-! ## Attention ranks receive on their own state -/

section Receive
variable {Row Scale Handle : Type} {ops : CamOperators Row Scale Handle}

theorem receive_ok {A F numUbatches hiddenSize topk a : Nat} {e : CAMP2pEndpoint}
    (he : Endpoint ops A F numUbatches hiddenSize topk (F + a) a e) {stage : Int} (h0 : 0 ≤ stage)
    (hstage : stage < numUbatches) {ctx : ForwardContext Handle} {st : CAMP2PTransferState Handle}
    {handle : Handle} (hst : ctx.camAfdtransferState = some st)
    (hhandle : st.attenBatchSize = some handle) (hidx : ctx.ubatchIdx.getD 0 = stage) (mode : RunMode)
    (refTensor : List Row) :
    ∃ batchSize ctx', receive e ctx stage mode refTensor = .ok ({
      expandX := refTensor, attenBatchSize := handle, batchSize := batchSize, hiddenSize :=
        hiddenSize, topk := topk
      expertRankSize := F, attentionRankSize := A, rank := F + a, groupEp :=
        ops.commName (F + a) (groupOf stage)
      aivNum := e.aivNum }, ctx') := by
  have hgroup := he.getGroupEp_eq h0 hstage
  have hA := he.attnSize
  have hF := he.ffnSize
  have hW := he.worldRank
  have hH := he.joined.hiddenSize_eq
  have hK := he.joined.topk_eq
  cases mode with
  | compiled batchSize =>
    refine ⟨batchSize, ?_⟩
    simp only [receive, recvFfnOutputImpl, hst, hhandle, hidx, hgroup, hA, hF, hW, hH, hK, bind,
      Except.bind, pure, Except.pure]
    exact ⟨_, rfl⟩
  | eager layerIdx =>
    refine ⟨st.batchSize, ?_⟩
    simp only [receive, recvFfnOutput, he.isInitialized, not_true_eq_false, if_false, recvFfnOutputImpl,
      hst, hhandle, Option.getD_some, hgroup, hA, hF, hW, hH, hK, bind, Except.bind, pure, Except.pure]
    exact ⟨_, rfl⟩

variable [Zero Row] [Zero Scale] {e : CAMP2pEndpoint} {contexts contexts' : Int → ForwardContext Handle}

/-- A step of one stage's thread leaves the other stages' contexts alone. -/
theorem attnStep_other {op : AttnOp Row} {s : Int} (hs : op.stageIdx ≠ s)
    (h : attnStep ops e contexts op = .ok contexts') : contexts' s = contexts s := by
  cases op with
  | send t mode rows ids =>
    cases hsend : send ops e (contexts t) t mode rows ids with
    | error err => simp [attnStep, hsend, bind, Except.bind] at h
    | ok r =>
      simp only [attnStep, hsend, bind, Except.bind, pure, Except.pure, Except.ok.injEq] at h
      rw [← h]
      exact Function.update_of_ne (Ne.symm hs) _ _
  | receive t mode ref =>
    cases hrecv : receive e (contexts t) t mode ref with
    | error err => simp [attnStep, hrecv, bind, Except.bind] at h
    | ok r =>
      simp only [attnStep, hrecv, bind, Except.bind, pure, Except.pure, Except.ok.injEq] at h
      rw [← h]
      exact Function.update_of_ne (Ne.symm hs) _ _

theorem attnRun_other {operations : List (AttnOp Row)} {s : Int} (hs : ∀ op ∈ operations, op.stageIdx ≠ s)
    (h : attnRun ops e contexts operations = .ok contexts') : contexts' s = contexts s := by
  induction operations generalizing contexts with
  | nil =>
    rw [← Except.ok.inj h]
  | cons op operations ih =>
    rw [attnRun, List.foldlM_cons] at h
    cases hstep : attnStep ops e contexts op with
    | error err => simp [hstep, bind, Except.bind] at h
    | ok middle =>
      rw [hstep] at h
      rw [ih (fun op hop => hs op (List.mem_cons_of_mem _ hop)) h]
      exact attnStep_other (hs op List.mem_cons_self) hstep

end Receive

/-! ## FFN ranks -/

theorem toInt_ofInt_natCast {k : Nat} (h : k < 2 ^ 31) : (Int32.ofInt k).toInt = k := by
  apply Int32.toInt_ofInt_of_le <;> omega

section Ffn
variable {Row Scale Handle : Type} [Zero Row] {ops : CamOperators Row Scale Handle}
  (hops : MovesEqualChunks ops) {A F numUbatches hiddenSize topk f : Nat} (hf : f < F) (hFA : F ∣ A)
  {e : CAMP2pEndpoint} (he : Endpoint ops A F numUbatches hiddenSize topk f f e) {stage : Int}
  (h0 : 0 ≤ stage) (hstage : stage < numUbatches)

/-- The ranks of a group, as many as the ratio. -/
theorem length_group (hf : f < F) (hFA : F ∣ A) : (Strided.group A F f).length = A / F := by
  conv_lhs => rw [← Nat.div_mul_cancel hFA, Strided.group_mul hf]
  simp

include hops hf hFA he h0 hstage

/-- An FFN rank that derives the sum of its group's counts receives the group's
padded rows, and the ids beside them. -/
theorem recvAttnOutput_ok {rows : Nat → List Row} {ids : Option (Nat → List Int32)} {n : Nat}
    (hrows : ∀ a ∈ Strided.group A F f, (rows a).length ≤ n)
    (hids : ∀ i ∈ ids, ∀ a ∈ Strided.group A F f, (i a).length = (rows a).length)
    (htopk : ids.isSome → 1 ≤ topk) {calls : Nat → A2ECall Row Scale}
    (hcalls : ∀ a ∈ Strided.group A F f, SendsCount ops A F hiddenSize topk a n stage (rows a)
      (ids.map (· a)) (calls a)) {fallback : Int}
    (hbatch : numTokensForFfnRank e.connector.dpMetadataList stage f A F fallback =
      .ok ((A / F * n : Nat) : Int)) (hfit : A / F * n < 2 ^ 31) (layerIdx : Nat) :
    ∃ handle, recvAttnOutput ops e ((Strided.group A F f).map calls) stage layerIdx fallback
      ids.isSome = .ok {
      hiddenStates := (Strided.group A F f).flatMap fun a => padded (rows a) n
      metadata := ⟨layerIdx, stage, [((A / F * n : Nat) : Int)]⟩
      states := {
        aivNum := e.aivNum, batchSize := (A / F * n : Nat), h := hiddenSize, k :=
          topk, attenBatchSize := some handle }
      inputIds := ids.map fun i => (Strided.group A F f).flatMap fun a => padded (i a) n } := by
  have hlenGroup := length_group hf hFA
  let own : A2ECall Row Scale := {
    x := [], expertIds := some [], scales := some [], batchSize :=
      (A / F * n : Nat), hiddenSize := hiddenSize
    topk := topk, expertRankSize := F, attentionRankSize := A, rank := f, groupEp :=
      ops.commName f (groupOf stage)
    aivNum := e.aivNum, computeGate := if ids.isSome then 1 else 0 }
  let group := (Strided.group A F f).map calls
  have hbase : own.baseBatchSize.toInt = ((A / F * n : Nat) : Int) := by
    have hrank : ¬ f ≥ F := by omega
    simp only [A2ECall.baseBatchSize, own, hrank, if_false]
    exact toInt_ofInt_natCast hfit
  have hmatched : A2EMatched ops own group := by
    refine ⟨hf, ?_, ⟨groupOf stage, rfl, ?_⟩, ?_⟩
    · rw [List.map_map]
      exact List.map_congr_left fun a ha => (hcalls a ha).rank
    · intro c hc
      obtain ⟨a, ha, rfl⟩ := List.mem_map.1 hc
      rw [(hcalls a ha).groupEp, (hcalls a ha).rank]
    · intro c hc
      obtain ⟨a, ha, rfl⟩ := List.mem_map.1 hc
      obtain ⟨hF, hA, hH, hK⟩ := (hcalls a ha).shape
      refine ⟨hF, hA, hH, hK, ?_⟩
      rw [(hcalls a ha).computeGate, Option.isSome_map]
  have hx : ∀ c ∈ group, c.x.length = n := by
    intro c hc
    obtain ⟨a, ha, rfl⟩ := List.mem_map.1 hc
    rw [(hcalls a ha).x, length_padded (hrows a ha)]
  have hsum : own.baseBatchSize.toInt = group.length * n := by
    rw [hbase, List.length_map, hlenGroup]
    push_cast
    rfl
  have hhidden : (ops.a2eRecv own group).expandX = (Strided.group A F f).flatMap fun a =>
      padded (rows a) n := by
    rw [hops.a2e_hidden own group n hmatched hx hsum, List.flatMap_map]
    exact List.flatMap_congr fun a ha => (hcalls a ha).x
  have hreceived : (if ids.isSome = true then
        (receivedTokenIds (ops.a2eRecv own group).simulateExpertIds ((A / F * n : Nat) : Int)).map some
      else pure none) = .ok (ids.map fun i => (Strided.group A F f).flatMap fun a => padded (i a) n) := by
    cases ids with
    | none => rfl
    | some i =>
      have hpacked : ∀ c ∈ group, ∃ packed, c.expertIds = some packed ∧ packed.length = n := by
        intro c hc
        obtain ⟨a, ha, rfl⟩ := List.mem_map.1 hc
        have hlen : (i a).length ≤ n := (hids i rfl a ha).trans_le (hrows a ha)
        refine ⟨_, (hcalls a ha).expertIds, ?_⟩
        rw [length_packTokenIds, length_padded hlen]
      have hgot : (ops.a2eRecv own group).simulateExpertIds =
          packTokenIds ((Strided.group A F f).flatMap fun a => padded (i a) n) topk := by
        rw [hops.a2e_ids own group n hmatched hx hsum rfl hpacked, packTokenIds, List.map_flatMap,
          List.flatMap_map]
        apply List.flatMap_congr
        intro a ha
        rw [(hcalls a ha).expertIds]
        rfl
      have hlen : ((Strided.group A F f).flatMap fun a => padded (i a) n).length = A / F * n := by
        rw [List.length_flatMap, List.map_congr_left fun a ha =>
          length_padded ((hids i rfl a ha).trans_le (hrows a ha)), List.map_const',
            List.sum_replicate, hlenGroup,
          smul_eq_mul]
      rw [hgot, ← hlen, receivedTokenIds_packed (htopk rfl)]
      rfl
  have hnew : AFDTransferMetadata.new layerIdx stage [((A / F * n : Nat) : Int)] =
      .ok ⟨layerIdx, stage, [((A / F * n : Nat) : Int)]⟩ := by
    have hpos : ¬ ((A / F * n : Nat) : Int) < 0 := by omega
    simp only [AFDTransferMetadata.new, List.any_cons, List.any_nil, hpos, decide_false, Bool.or_false,
      reduceCtorEq, if_false, Bool.false_eq_true]
  have hbinding : a2eOnFfn ops own group = .ok (ops.a2eRecv own group) := by
    have hpos : ¬ own.baseBatchSize < 0 := by
      rw [Int32.lt_iff_toInt_lt, hbase]
      exact not_lt.2 (Int.natCast_nonneg _)
    rw [a2eOnFfn, if_neg hpos]
  refine ⟨(ops.a2eRecv own group).attenBatchSize, ?_⟩
  simp only [recvAttnOutput, he.isInitialized, he.roleRank, he.attnSize, he.ffnSize, he.worldRank,
    he.joined.hiddenSize_eq, he.joined.topk_eq, hbatch, hnew, he.getGroupEp_eq h0 hstage, bind,
    Except.bind, pure, Except.pure, not_true_eq_false, if_false]
  rw [hbinding]
  simp only [hhidden]
  cases ids with
  | none => rfl
  | some i =>
    simp only [Option.isSome_some, if_true] at hreceived ⊢
    rw [hreceived]

omit hops hf hFA [Zero Row] in
theorem sendFfnOutput_ok {states : CAMP2PTransferState Handle} {handle : Handle}
    (hhandle : states.attenBatchSize = some handle) (out : List Row) (metadata : AFDTransferMetadata) :
    sendFfnOutput e out metadata states (some stage) = .ok {
      expandX := out, attenBatchSize := handle, batchSize := states.batchSize, hiddenSize :=
        states.h, topk := states.k
      expertRankSize := F, attentionRankSize := A, rank := f, groupEp := ops.commName f (groupOf stage)
      aivNum := states.aivNum } := by
  simp only [sendFfnOutput, he.isInitialized, not_true_eq_false, if_false, hhandle, Option.getD_some,
    he.getGroupEp_eq h0 hstage, he.ffnSize, he.attnSize, he.worldRank, bind, Except.bind, pure, Except.pure]

omit he h0 hstage [Zero Row] in
/-- An Attention rank gets back the first of its group's rows, as many as it has
a reference for. -/
theorem e2a_group {out : Nat → List Row} {n m : Nat}
    (hout : ∀ a ∈ Strided.group A F f, (out a).length = n) (hfit : A / F * n < 2 ^ 31) {a : Nat}
    (ha : a ∈ Strided.group A F f) (hm : m ≤ n) {ref : List Row} (href : ref.length = m)
    (handle handle' : Handle) (batchSize : Int) (hidden topk topk' aiv aiv' g : Nat) :
    ops.e2a {
        expandX := (Strided.group A F f).flatMap out, attenBatchSize := handle, batchSize :=
          (A / F * n : Nat)
        hiddenSize := hidden, topk := topk, expertRankSize := F, attentionRankSize := A, rank := f
        groupEp := ops.commName f g, aivNum := aiv } {
        expandX := ref, attenBatchSize := handle', batchSize := batchSize, hiddenSize :=
          hidden, topk := topk'
        expertRankSize := F, attentionRankSize := A, rank := F + a, groupEp := ops.commName (F + a) g
        aivNum := aiv' } = (out a).take m := by
  obtain ⟨hlt, hmod⟩ := Strided.mem_group.1 ha
  have hlenGroup := length_group hf hFA
  have hlenOut : ((Strided.group A F f).flatMap out).length = A / F * n := by
    rw [List.length_flatMap, List.map_congr_left hout, List.map_const', List.sum_replicate, hlenGroup,
      smul_eq_mul]
  have hrow : a / F < (Strided.group A F f).length := by
    rw [hlenGroup]
    exact Nat.div_lt_div_of_lt_of_dvd hFA hlt
  have hget : (Strided.group A F f)[a / F] = a := by
    have hgroup : Strided.group A F f = (List.range (A / F)).map fun row => row * F + f := by
      conv_lhs => rw [← Nat.div_mul_cancel hFA, Strided.group_mul hf]
    simp only [hgroup, List.getElem_map, List.getElem_range]
    rw [← hmod]
    exact Nat.div_add_mod' a F
  have hnF : ¬ f ≥ F := by omega
  have hone : 1 ≤ A / F := by
    rw [← hlenGroup]
    exact Nat.zero_lt_of_lt hrow
  have hmfit : m < 2 ^ 31 := by
    have := Nat.mul_le_mul_right n hone
    omega
  let sent : E2ACall Row Handle := {
    expandX := (Strided.group A F f).flatMap out, attenBatchSize := handle, batchSize := (A / F * n : Nat)
    hiddenSize := hidden, topk := topk, expertRankSize := F, attentionRankSize := A, rank := f
    groupEp := ops.commName f g, aivNum := aiv }
  let asked : E2ACall Row Handle := {
    expandX := ref, attenBatchSize := handle', batchSize := batchSize, hiddenSize := hidden, topk := topk'
    expertRankSize := F, attentionRankSize := A, rank := F + a, groupEp :=
      ops.commName (F + a) g, aivNum := aiv' }
  have hmatched : E2AMatched ops sent asked := ⟨hf, ⟨a, ha, rfl⟩, ⟨g, rfl, rfl⟩, rfl, rfl, rfl⟩
  have hsent : sent.baseBatchSize.toInt = ((A / F * n : Nat) : Int) := by
    simp only [E2ACall.baseBatchSize, sent, hnF, if_false]
    exact toInt_ofInt_natCast hfit
  have hasked : asked.baseBatchSize.toInt = m := by
    have hrank : F + a ≥ F := by omega
    simp only [E2ACall.baseBatchSize, asked, hrank, if_true, href]
    exact toInt_ofInt_natCast hmfit
  have hchunk := Strided.take_drop_flatMap hout hrow
  rw [hget] at hchunk
  calc ops.e2a sent asked
      = (((Strided.group A F f).flatMap out).drop (a / F * n)).take m :=
        hops.e2a_rows sent asked a n m hmatched rfl (by rw [hsent, ← hlenOut])
          (by rw [hsent]; push_cast; rfl) hasked hm
    _ = (out a).take m := by rw [← hchunk, List.take_take, min_eq_left hm]

end Ffn

end AfdPlugin.Camp2p
