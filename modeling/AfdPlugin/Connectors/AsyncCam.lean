import AfdPlugin.Connectors.P2pTransfer
/-!
# The Async CAM connector on an Attention rank

Attention dispatches the tokens of a stage and later combines what the experts
made of them. The combine needs the routing of the dispatch it belongs to, so
the connector queues the routing of each dispatch by stage.
-/

namespace AfdPlugin.AsyncCam

open P2p

/-- A tensor of any element type. -/
structure Tensor (α : Type) where
  shape : List Int
  values : List α
  deriving DecidableEq, Repr

def Tensor.map {α β : Type} (f : α → β) (t : Tensor α) : Tensor β := ⟨t.shape, t.values.map f⟩

/-- `AFDAsyncTransferState`, as far as Attention fills it. -/
structure AFDAsyncTransferState where
  batchSize : Int
  hiddenSize : Int
  topk : Int
  layerIdx : Nat
  deriving DecidableEq, Repr

/-- `AFDTransferContext`. It is passed by reference: the connector writes its states. -/
structure AFDTransferContext where
  metadata : AFDTransferMetadata
  states : Option AFDAsyncTransferState := none
  deriving DecidableEq, Repr

/-- `_validate_topk_payload`. -/
def validateTopkPayload {W : Type} (topkIds : Tensor Int32) (topkWeights : Tensor W)
    (batchSize topk : Int) :
    Except String Unit :=
  if topkIds.shape ≠ [batchSize, topk] then
    .error s!"topk_ids shape must match ({batchSize}, {topk}), got torch.Size({topkIds.shape})"
  else if topkWeights.shape ≠ [batchSize, topk] then
    .error s!"topk_weights shape must match ({batchSize}, {topk}), got torch.Size({topkWeights.shape})"
  else .ok ()

section Connector
variable {X W : Type}

/-- One queued dispatch: its context, and its routing. -/
structure Pending (W : Type) where
  context : Nat
  topkIds : Tensor Int32
  topkWeights : Tensor W
  deriving DecidableEq, Repr

/-- A call of an operator for a stage, and whether it went through. -/
inductive OpCall (X W : Type) where
  | afdAsyncDispatchSend (stageIdx : Int) (hiddenStates : Tensor X) (routing : Pending W)
      (states : AFDAsyncTransferState) (ok : Bool)
  | afdAsyncCombineRecv (stageIdx : Int) (routing : Pending W) (states : AFDAsyncTransferState) (ok : Bool)

/-- The connector, the contexts its callers have, and its operator calls so far. -/
structure CAMAsyncAFDConnector (X W : Type) where
  isInitialized : Bool
  hiddenSize : Int
  topk : Int
  maxNumBatchedTokens : Nat
  tpSize : Nat
  contexts : Nat → AFDTransferContext
  pendingAttentionPayloads : Dict Int (List (Pending W)) := ∅
  calls : List (OpCall X W) := []

namespace CAMAsyncAFDConnector

variable (c : CAMAsyncAFDConnector X W)

def setStates (context : Nat) (states : AFDAsyncTransferState) : CAMAsyncAFDConnector X W :=
  { c with contexts := fun i => if i = context then { c.contexts i with
    states := some states } else c.contexts i }

/-- The arguments of a call of `send_attn_output`, and what the operator does. -/
structure SendAttnOutputArgs (X W : Type) where
  hiddenStates : Tensor X
  context : Nat
  topkIds : Option (Tensor Int)
  topkWeights : Option (Tensor W)
  /-- The error that the operator raises, if it does. -/
  fault : Option String := none

/-- The routing of a send: its context, the ids in the operator's element type, the
weights as they come. -/
structure SendAttnOutputArgs.Routes (args : SendAttnOutputArgs X W) (routing : Pending W) : Prop where
  context : routing.context = args.context
  topkIds : args.topkIds.map (·.map Int32.ofInt) = some routing.topkIds
  topkWeights : args.topkWeights = some routing.topkWeights

/-- `send_attn_output`. Weights come in the operator's own element type. -/
def sendAttnOutput (args : SendAttnOutputArgs X W) : CAMAsyncAFDConnector X W × Except String Unit :=
  if ¬ c.isInitialized then (c, .error "CAMAsyncAFDConnector is not initialized")
  else
    let metadata := (c.contexts args.context).metadata
    if ¬ metadata.validateTensorShape args.hiddenStates.shape then
      (c, .error (s!"hidden_states shape torch.Size({args.hiddenStates.shape}) does not match AFD async metadata " ++
        s!"token count {metadata.totalTokens}"))
    else
      let states : AFDAsyncTransferState := ⟨metadata.totalTokens, c.hiddenSize, c.topk, metadata.layerIdx⟩
      -- the context has its states also when the rest of the call fails
      let c := c.setStates args.context states
      match args.topkIds, args.topkWeights with
      | some topkIds, some topkWeights =>
        let topkIds := topkIds.map Int32.ofInt
        match validateTopkPayload topkIds topkWeights states.batchSize states.topk with
        | .error e => (c, .error e)
        | .ok () =>
          if c.tpSize = 0 then (c, .error "integer division or modulo by zero")
          else if states.batchSize > (c.maxNumBatchedTokens / c.tpSize : Nat) then
            (c, .error "Async CAM batch exceeds max_num_batched_tokens / TP capacity")
          else
            let stageIdx := metadata.stageIdx
            let routing : Pending W := ⟨args.context, topkIds, topkWeights⟩
            let c := { c with
              calls := c.calls ++
                [.afdAsyncDispatchSend stageIdx args.hiddenStates routing states args.fault.isNone] }
            match args.fault with
            | some e => (c, .error e)
            | none =>
              let queue := (c.pendingAttentionPayloads.get? stageIdx).getD []
              ({ c with
                 pendingAttentionPayloads := c.pendingAttentionPayloads.set stageIdx (queue ++ [routing]) }, .ok ())
      | _, _ => (c, .error "CAMAsyncAFDConnector send_attn_output requires topk_ids/topk_weights")

/-- The arguments of a call of `recv_ffn_output`, and what the operator does. -/
structure RecvFfnOutputArgs where
  ubatchIdx : Int := 0
  context : Option Nat := none
  fault : Option String := none

/-- `recv_ffn_output`. -/
def recvFfnOutput (args : RecvFfnOutputArgs) : CAMAsyncAFDConnector X W × Except String Unit :=
  if ¬ c.isInitialized then (c, .error "CAMAsyncAFDConnector is not initialized")
  else
    match c.pendingAttentionPayloads.get? args.ubatchIdx with
    | none | some [] =>
      (c, .error "CAMAsyncAFDConnector recv_ffn_output is missing pending Attention metadata")
    | some (routing :: payloads) =>
      if args.context.any (· ≠ routing.context) then
        (c, .error ("CAMAsyncAFDConnector recv_ffn_output context does not match the next pending Attention " ++
          "dispatch"))
      else
        let pending := c.pendingAttentionPayloads.set args.ubatchIdx payloads
        let c := { c with
          pendingAttentionPayloads := if payloads = [] then pending.erase args.ubatchIdx else pending }
        match (c.contexts routing.context).states with
        | none => (c, .error "CAMAsyncAFDConnector requires AFDAsyncTransferState in the transfer context")
        | some states =>
          match validateTopkPayload routing.topkIds routing.topkWeights states.batchSize states.topk with
          | .error e => (c, .error e)
          | .ok () =>
            let c := { c with
              calls := c.calls ++ [.afdAsyncCombineRecv args.ubatchIdx routing states args.fault.isNone] }
            match args.fault with
            | some e => (c, .error e)
            | none => (c, .ok ())

/-! ## Runs -/

/-- A call of the connector. -/
inductive Action (X W : Type) where
  | send (args : SendAttnOutputArgs X W)
  | recv (args : RecvFfnOutputArgs)

def step : Action X W → CAMAsyncAFDConnector X W × Except String Unit
  | .send args => c.sendAttnOutput args
  | .recv args => c.recvFfnOutput args

def run (actions : List (Action X W)) : CAMAsyncAFDConnector X W :=
  actions.foldl (fun c a => (c.step a).1) c

/-- The dispatches of a stage that went through, oldest first. -/
def dispatched (stage : Int) : List (Pending W) :=
  c.calls.filterMap fun
    | .afdAsyncDispatchSend s _ routing _ ok => if s = stage ∧ ok = true then some routing else none
    | .afdAsyncCombineRecv _ _ _ _ => none

/-- The routing that the receives of a stage used, oldest first. -/
def combined (stage : Int) : List (Pending W) :=
  c.calls.filterMap fun
    | .afdAsyncDispatchSend _ _ _ _ _ => none
    | .afdAsyncCombineRecv s routing _ _ => if s = stage then some routing else none

/-- The queue of a stage. -/
def pending (stage : Int) : List (Pending W) := (c.pendingAttentionPayloads.get? stage).getD []

/-- The states of a context that the connector itself makes. -/
def ownStates (context : Nat) : AFDAsyncTransferState :=
  let metadata := (c.contexts context).metadata
  ⟨metadata.totalTokens, c.hiddenSize, c.topk, metadata.layerIdx⟩

/-- A queued dispatch can be combined: its context has its states, and its routing fits them. -/
structure Combinable (routing : Pending W) : Prop where
  states : (c.contexts routing.context).states = some (c.ownStates routing.context)
  topkIds : routing.topkIds.shape = [(c.ownStates routing.context).batchSize, c.topk]
  topkWeights : routing.topkWeights.shape = [(c.ownStates routing.context).batchSize, c.topk]

/-- Every dispatch of a stage was either used or is queued, in the order of the
dispatches; no stage has an empty queue, and what is queued can be combined. -/
structure Queued : Prop where
  conserved : ∀ stage, c.dispatched stage = c.combined stage ++ c.pending stage
  nonempty : ∀ stage, c.pendingAttentionPayloads.get? stage ≠ some []
  combinable : ∀ stage, ∀ routing ∈ c.pending stage, c.Combinable routing

/-! ## What a call does -/

variable {c}

theorem validateTopkPayload_eq_ok {topkIds : Tensor Int32} {topkWeights : Tensor W} {batchSize topk : Int} :
    validateTopkPayload topkIds topkWeights batchSize topk = .ok () ↔
      topkIds.shape = [batchSize, topk] ∧ topkWeights.shape = [batchSize, topk] := by
  unfold validateTopkPayload
  split
  · rename_i h
    simp [h]
  · rename_i h
    split
    · rename_i h'
      simp [h']
    · rename_i h'
      simp [not_not.1 h, not_not.1 h']

theorem ownStates_setStates (context : Nat) (states : AFDAsyncTransferState) (i : Nat) :
    (c.setStates context states).ownStates i = c.ownStates i := by
  unfold ownStates setStates
  dsimp only
  by_cases h : i = context
  · simp [h]
  · simp [h]

theorem Combinable.setStates {routing : Pending W} (h : c.Combinable routing) (context : Nat) :
    (c.setStates context (c.ownStates context)).Combinable routing := by
  refine ⟨?_, ?_, ?_⟩
  · rw [ownStates_setStates]
    by_cases hi : routing.context = context
    · simp [CAMAsyncAFDConnector.setStates, hi]
    · simp only [CAMAsyncAFDConnector.setStates, hi, if_false]
      exact h.states
  · rw [ownStates_setStates]
    exact h.topkIds
  · rw [ownStates_setStates]
    exact h.topkWeights

/-- A send that fails: the context may have got its states, and the operator may
have been called in vain. -/
structure SendFailed (c c' : CAMAsyncAFDConnector X W) (context : Nat) : Prop where
  contexts : c'.contexts = c.contexts ∨ c'.contexts = (c.setStates context (c.ownStates context)).contexts
  config : c'.hiddenSize = c.hiddenSize ∧ c'.topk = c.topk ∧ c'.isInitialized = c.isInitialized
  pending : c'.pendingAttentionPayloads = c.pendingAttentionPayloads
  dispatched : ∀ stage, c'.dispatched stage = c.dispatched stage
  combined : ∀ stage, c'.combined stage = c.combined stage

/-- A send that goes through. -/
structure SendQueued (c c' : CAMAsyncAFDConnector X W) (args : SendAttnOutputArgs X W)
    (routing : Pending W) : Prop where
  routes : args.Routes routing
  contexts : c'.contexts = (c.setStates args.context (c.ownStates args.context)).contexts
  config : c'.hiddenSize = c.hiddenSize ∧ c'.topk = c.topk ∧ c'.isInitialized = c.isInitialized
  topkIds : routing.topkIds.shape = [(c.ownStates args.context).batchSize, c.topk]
  topkWeights : routing.topkWeights.shape = [(c.ownStates args.context).batchSize, c.topk]
  pending : c'.pendingAttentionPayloads =
    c.pendingAttentionPayloads.set (c.contexts args.context).metadata.stageIdx
    (c.pending (c.contexts args.context).metadata.stageIdx ++ [routing])
  dispatched : ∀ stage, c'.dispatched stage =
    c.dispatched stage ++ if (c.contexts args.context).metadata.stageIdx = stage then [routing] else []
  combined : ∀ stage, c'.combined stage = c.combined stage

theorem sendAttnOutput_spec (args : SendAttnOutputArgs X W) :
    (∃ e, (c.sendAttnOutput args).2 = .error e ∧ SendFailed c (c.sendAttnOutput args).1 args.context) ∨
      ((c.sendAttnOutput args).2 = .ok () ∧
        ∃ routing, SendQueued c (c.sendAttnOutput args).1 args routing) := by
  have hunchanged : SendFailed c c args.context :=
    ⟨.inl rfl, ⟨rfl, rfl, rfl⟩, rfl, fun _ => rfl, fun _ => rfl⟩
  have hstates : SendFailed c (c.setStates args.context (c.ownStates args.context)) args.context :=
    ⟨.inr rfl, ⟨rfl, rfl, rfl⟩, rfl, fun _ => rfl, fun _ => rfl⟩
  unfold sendAttnOutput
  split
  · exact .inl ⟨_, rfl, hunchanged⟩
  · dsimp only
    split
    · exact .inl ⟨_, rfl, hunchanged⟩
    · split
      · rename_i topkIds topkWeights hgivenIds hgivenWeights
        split
        · exact .inl ⟨_, rfl, hstates⟩
        · rename_i hvalid
          obtain ⟨hids, hweights⟩ := validateTopkPayload_eq_ok.1 hvalid
          split
          · exact .inl ⟨_, rfl, hstates⟩
          · split
            · exact .inl ⟨_, rfl, hstates⟩
            · cases hfault : args.fault with
              | some e =>
                refine .inl ⟨e, rfl, .inr rfl, ⟨rfl, rfl, rfl⟩, rfl, ?_, ?_⟩
                · intro stage
                  simp [dispatched, setStates]
                · intro stage
                  simp [combined, setStates]
              | none =>
                have hroutes : args.Routes ⟨args.context, topkIds.map Int32.ofInt, topkWeights⟩ :=
                  ⟨rfl, by rw [hgivenIds]; rfl, hgivenWeights⟩
                refine .inr ⟨rfl, ⟨args.context, topkIds.map Int32.ofInt, topkWeights⟩, hroutes, rfl,
                  ⟨rfl, rfl, rfl⟩, hids, hweights, rfl, ?_, ?_⟩
                · intro stage
                  by_cases hs : (c.contexts args.context).metadata.stageIdx = stage
                  · simp [dispatched, setStates, hs]
                  · simp [dispatched, setStates, hs]
                · intro stage
                  simp [combined, setStates]
      · exact .inl ⟨_, rfl, hstates⟩

/-- A receive that takes a dispatch: the one at the head of its queue. -/
structure RecvTook (c c' : CAMAsyncAFDConnector X W) (stage : Int) (routing : Pending W)
    (rest : List (Pending W)) :
    Prop where
  contexts : c'.contexts = c.contexts
  config : c'.hiddenSize = c.hiddenSize ∧ c'.topk = c.topk ∧ c'.isInitialized = c.isInitialized
  head : c.pending stage = routing :: rest
  pending : ∀ s, c'.pendingAttentionPayloads.get? s =
    if s = stage then if rest = [] then none else some rest else c.pendingAttentionPayloads.get? s
  dispatched : ∀ s, c'.dispatched s = c.dispatched s
  combined : ∀ s, c'.combined s = c.combined s ++ if stage = s then [routing] else []

/-- Whether a receive may take the head of its queue. -/
def Matches (c : CAMAsyncAFDConnector X W) (args : RecvFfnOutputArgs) (routing : Pending W) : Prop :=
  c.isInitialized = true ∧ ∀ context, args.context = some context → context = routing.context

theorem recvFfnOutput_spec (hq : c.Queued) (args : RecvFfnOutputArgs) :
    ((∀ routing rest, c.pending args.ubatchIdx = routing :: rest → ¬ c.Matches args routing) ∧
        ∃ e, c.recvFfnOutput args = (c, .error e)) ∨
      ∃ routing rest, c.Matches args routing ∧
        RecvTook c (c.recvFfnOutput args).1 args.ubatchIdx routing rest ∧
        (c.recvFfnOutput args).2 = match args.fault with
          | some e => .error e
          | none => .ok () := by
  unfold recvFfnOutput
  by_cases hinit : c.isInitialized = true
  · rw [if_neg (by simp [hinit])]
    cases hget : c.pendingAttentionPayloads.get? args.ubatchIdx with
    | none =>
      refine .inl ⟨?_, _, rfl⟩
      intro routing rest hpending
      rw [pending, hget] at hpending
      cases hpending
    | some payloads =>
      have hpending : c.pending args.ubatchIdx = payloads := by rw [pending, hget]; rfl
      cases payloads with
      | nil => exact absurd hget (hq.nonempty _)
      | cons routing rest =>
        dsimp only
        by_cases hmatch : args.context.any (· ≠ routing.context) = true
        · rw [if_pos hmatch]
          refine .inl ⟨?_, _, rfl⟩
          intro routing' rest' hpending' hmatches
          rw [hpending] at hpending'
          cases hpending'
          cases hcontext : args.context with
          | none =>
            rw [hcontext] at hmatch
            cases hmatch
          | some context =>
            have hne : context ≠ routing.context := by simpa [hcontext] using hmatch
            exact hne (hmatches.2 context hcontext)
        · rw [if_neg hmatch]
          have hmatches : c.Matches args routing := by
            refine ⟨hinit, ?_⟩
            intro context hcontext
            by_contra hne
            exact hmatch (by rw [hcontext]; simpa using hne)
          obtain ⟨hstates, hids, hweights⟩ := hq.combinable args.ubatchIdx routing
            (by rw [hpending]; exact List.mem_cons_self)
          have hvalid : validateTopkPayload routing.topkIds routing.topkWeights
              (c.ownStates routing.context).batchSize (c.ownStates routing.context).topk = .ok () :=
            validateTopkPayload_eq_ok.2 ⟨hids, hweights⟩
          simp only [hstates, hvalid]
          refine .inr ⟨routing, rest, hmatches, ?_, ?_⟩
          · have hentry : ∀ s, (if rest = [] then
                (c.pendingAttentionPayloads.set args.ubatchIdx rest).erase args.ubatchIdx
                else c.pendingAttentionPayloads.set args.ubatchIdx rest).get? s =
                if s = args.ubatchIdx then if rest = [] then none else some rest
                else c.pendingAttentionPayloads.get? s := by
              intro s
              by_cases hrest : rest = []
              · rw [if_pos hrest, if_pos hrest, Dict.get?_erase, Dict.get?_set]
                split <;> rfl
              · rw [if_neg hrest, if_neg hrest, Dict.get?_set]
            cases args.fault with
            | none =>
              refine ⟨rfl, ⟨rfl, rfl, rfl⟩, hpending, hentry, ?_, ?_⟩
              · intro s
                simp [dispatched]
              · intro s
                by_cases hs : args.ubatchIdx = s
                · simp [combined, hs]
                · simp [combined, hs]
            | some e =>
              refine ⟨rfl, ⟨rfl, rfl, rfl⟩, hpending, hentry, ?_, ?_⟩
              · intro s
                simp [dispatched]
              · intro s
                by_cases hs : args.ubatchIdx = s
                · simp [combined, hs]
                · simp [combined, hs]
          · cases args.fault with
            | none => rfl
            | some e => rfl
  · rw [if_pos hinit]
    refine .inl ⟨?_, _, rfl⟩
    intro routing rest _ hmatches
    exact hinit hmatches.1

/-! ## The queues of a run -/

theorem combinable_congr {c' : CAMAsyncAFDConnector X W} {routing : Pending W} (h : c.Combinable routing)
    (hcontexts : c'.contexts = c.contexts) (hconfig : c'.hiddenSize = c.hiddenSize ∧ c'.topk = c.topk) :
    c'.Combinable routing := by
  have hown : c'.ownStates routing.context = c.ownStates routing.context := by
    simp only [ownStates, hcontexts, hconfig.1, hconfig.2]
  exact ⟨by rw [hown, hcontexts]; exact h.states, by rw [hown, hconfig.2]; exact h.topkIds,
    by rw [hown, hconfig.2]; exact h.topkWeights⟩

theorem Queued.sendFailed {c' : CAMAsyncAFDConnector X W} {context : Nat} (h : c.Queued)
    (hs : SendFailed c c' context) :
    c'.Queued := by
  have hpending : ∀ stage, c'.pending stage = c.pending stage :=
    fun stage => by rw [pending, pending, hs.pending]
  refine ⟨?_, ?_, ?_⟩
  · intro stage
    rw [hs.dispatched, hs.combined, hpending]
    exact h.conserved stage
  · intro stage
    rw [hs.pending]
    exact h.nonempty stage
  · intro stage routing hr
    rw [hpending] at hr
    have hold := h.combinable stage routing hr
    rcases hs.contexts with hsame | hset
    · exact combinable_congr hold hsame ⟨hs.config.1, hs.config.2.1⟩
    · exact combinable_congr (hold.setStates context) hset ⟨hs.config.1, hs.config.2.1⟩

/-- A send adds its routing to the queue of its stage. -/
theorem SendQueued.pending_eq {c' : CAMAsyncAFDConnector X W} {args : SendAttnOutputArgs X W}
    {routing : Pending W} (hs : SendQueued c c' args routing) (stage : Int) : c'.pending stage =
      c.pending stage ++ if (c.contexts args.context).metadata.stageIdx = stage then [routing] else [] := by
  rw [CAMAsyncAFDConnector.pending, hs.pending, Dict.get?_set]
  by_cases hstage : stage = (c.contexts args.context).metadata.stageIdx
  · rw [if_pos hstage, if_pos hstage.symm, hstage]
    rfl
  · rw [if_neg hstage, if_neg (Ne.symm hstage), List.append_nil]
    rfl

theorem Queued.sendQueued {c' : CAMAsyncAFDConnector X W} {args : SendAttnOutputArgs X W}
    {routing : Pending W} (h : c.Queued) (hs : SendQueued c c' args routing) : c'.Queued := by
  refine ⟨?_, ?_, ?_⟩
  · intro stage
    rw [hs.dispatched, hs.combined, hs.pending_eq, h.conserved, List.append_assoc]
  · intro stage
    rw [hs.pending, Dict.get?_set]
    split
    · intro hnil
      exact absurd (Option.some.inj hnil) (by simp)
    · exact h.nonempty stage
  · intro stage r hr
    rw [hs.pending_eq, List.mem_append] at hr
    rcases hr with hr | hr
    · exact combinable_congr ((h.combinable stage r hr).setStates args.context) hs.contexts
        ⟨hs.config.1, hs.config.2.1⟩
    · split at hr
      · obtain rfl := List.mem_singleton.1 hr
        have hnew : (c.setStates args.context (c.ownStates args.context)).Combinable r := by
          refine ⟨?_, ?_, ?_⟩
          · rw [ownStates_setStates, hs.routes.context]
            simp [setStates]
          · rw [ownStates_setStates, hs.routes.context]
            exact hs.topkIds
          · rw [ownStates_setStates, hs.routes.context]
            exact hs.topkWeights
        exact combinable_congr hnew hs.contexts ⟨hs.config.1, hs.config.2.1⟩
      · cases hr

theorem Queued.recvTook {c' : CAMAsyncAFDConnector X W} {stage : Int} {routing : Pending W}
    {rest : List (Pending W)} (h : c.Queued) (ht : RecvTook c c' stage routing rest) : c'.Queued := by
  have hpending : ∀ s, c'.pending s = if s = stage then rest else c.pending s := by
    intro s
    rw [pending, ht.pending]
    by_cases hs : s = stage
    · rw [if_pos hs, if_pos hs]
      split
      · rename_i hrest
        rw [hrest]
        rfl
      · rfl
    · rw [if_neg hs, if_neg hs]
      rfl
  refine ⟨?_, ?_, ?_⟩
  · intro s
    rw [ht.dispatched, ht.combined, hpending, h.conserved]
    by_cases hs : s = stage
    · rw [if_pos hs.symm, if_pos hs, hs, ht.head, List.append_assoc]
      rfl
    · rw [if_neg (Ne.symm hs), if_neg hs, List.append_nil]
  · intro s
    rw [ht.pending]
    split
    · split
      · intro hnone
        cases hnone
      · rename_i hrest
        exact fun hnil => hrest (Option.some.inj hnil)
    · exact h.nonempty s
  · intro s r hr
    rw [hpending] at hr
    have hold : r ∈ c.pending s := by
      split at hr
      · rename_i hs
        rw [hs, ht.head]
        exact List.mem_cons_of_mem _ hr
      · exact hr
    exact combinable_congr (h.combinable s r hold) ht.contexts ⟨ht.config.1, ht.config.2.1⟩

theorem Queued.step (h : c.Queued) (a : Action X W) : (c.step a).1.Queued := by
  cases a with
  | send args =>
    rcases sendAttnOutput_spec (c := c) args with ⟨e, -, hfailed⟩ | ⟨-, routing, hqueued⟩
    · exact h.sendFailed hfailed
    · exact h.sendQueued hqueued
  | recv args =>
    rcases recvFfnOutput_spec h args with ⟨-, e, herror⟩ | ⟨routing, rest, -, htook, -⟩
    · rw [CAMAsyncAFDConnector.step, herror]
      exact h
    · exact h.recvTook htook

theorem queued_run (h : c.Queued) (actions : List (Action X W)) : (c.run actions).Queued := by
  induction actions generalizing c with
  | nil => exact h
  | cons a actions ih => exact ih (h.step a)

/-- A connector that has not sent anything. -/
structure Fresh (c : CAMAsyncAFDConnector X W) : Prop where
  pending : c.pendingAttentionPayloads = ∅
  calls : c.calls = []

theorem Fresh.queued (h : c.Fresh) : c.Queued := by
  refine ⟨?_, ?_, ?_⟩
  · intro stage
    rw [dispatched, combined, CAMAsyncAFDConnector.pending, h.calls, h.pending]
    rfl
  · intro stage hnil
    rw [h.pending] at hnil
    cases hnil
  · intro stage routing hr
    rw [CAMAsyncAFDConnector.pending, h.pending] at hr
    cases hr

/-- The pending-dispatch queues. After any calls, what the receives of a stage
used, followed by its queue, are the dispatches of the stage in their order, and
a stage has an entry exactly when a dispatch was not received. The next call of
either kind changes the queue of its stage by the one dispatch it sends or takes,
where a send dispatches and queues its own context, ids and weights; a send that
fails and a receive that does not match change no queue. -/
theorem pending_dispatch_fifo (hfresh : c.Fresh) (actions : List (Action X W)) :
    let d := c.run actions
    (∀ stage, d.dispatched stage = d.combined stage ++ d.pending stage ∧
      (d.pending stage).length = (d.dispatched stage).length - (d.combined stage).length ∧
      ((d.pendingAttentionPayloads.get? stage).isSome ↔
        0 < (d.dispatched stage).length - (d.combined stage).length)) ∧
    (∀ args, (∃ e, (d.sendAttnOutput args).2 = .error e ∧
        (d.sendAttnOutput args).1.pendingAttentionPayloads = d.pendingAttentionPayloads ∧
        ∀ stage, (d.sendAttnOutput args).1.dispatched stage = d.dispatched stage) ∨
      (d.sendAttnOutput args).2 = .ok () ∧ ∃ routing, args.Routes routing ∧ ∀ stage,
        let sent := if (d.contexts args.context).metadata.stageIdx = stage then [routing] else []
        (d.sendAttnOutput args).1.dispatched stage = d.dispatched stage ++ sent ∧
          (d.sendAttnOutput args).1.pending stage = d.pending stage ++ sent) ∧
    (∀ args, (∀ routing rest, d.pending args.ubatchIdx = routing :: rest → ¬ d.Matches args routing) →
      ∃ e, d.recvFfnOutput args = (d, .error e)) ∧
    ∀ args routing rest, d.pending args.ubatchIdx = routing :: rest → d.Matches args routing →
      (d.recvFfnOutput args).1.pending args.ubatchIdx = rest ∧
      (∀ stage, (d.recvFfnOutput args).1.combined stage =
        d.combined stage ++ if args.ubatchIdx = stage then [routing] else []) ∧
      (d.recvFfnOutput args).2 = match args.fault with
        | some e => .error e
        | none => .ok () := by
  intro d
  have hq : d.Queued := queued_run hfresh.queued actions
  refine ⟨?_, ?_, ?_, ?_⟩
  · intro stage
    have hlen := congrArg List.length (hq.conserved stage)
    rw [List.length_append] at hlen
    have hlen' : (d.pending stage).length =
      (d.dispatched stage).length - (d.combined stage).length := by omega
    refine ⟨hq.conserved stage, hlen', ?_⟩
    rw [← hlen', pending]
    cases hget : d.pendingAttentionPayloads.get? stage with
    | none => simp
    | some queue =>
      have hne : queue ≠ [] := fun hnil => hq.nonempty stage (by rw [hget, hnil])
      simpa [List.length_pos_iff] using hne
  · intro args
    rcases sendAttnOutput_spec (c := d) args with ⟨e, herror, hfailed⟩ | ⟨hok, routing, hqueued⟩
    · exact .inl ⟨e, herror, hfailed.pending, hfailed.dispatched⟩
    · exact .inr ⟨hok, routing, hqueued.routes,
        fun stage => ⟨hqueued.dispatched stage, hqueued.pending_eq stage⟩⟩
  · intro args hnot
    rcases recvFfnOutput_spec hq args with ⟨-, herror⟩ | ⟨routing, rest, hmatches, htook, -⟩
    · exact herror
    · exact absurd hmatches (hnot routing rest htook.head)
  · intro args routing rest hhead hmatches
    rcases recvFfnOutput_spec hq args with ⟨hnot, -⟩ | ⟨routing', rest', -, htook, hresult⟩
    · exact absurd hmatches (hnot routing rest hhead)
    · obtain ⟨rfl, rfl⟩ := List.cons.inj (hhead.symm.trans htook.head)
      refine ⟨?_, htook.combined, hresult⟩
      rw [pending, htook.pending, if_pos rfl]
      split
      · rename_i hrest
        rw [hrest]
        rfl
      · rfl

/-- One token a stage, two stages; the contexts of stage 0 are 0 and 1. -/
def twoStages : CAMAsyncAFDConnector Nat Nat where
  isInitialized := true
  hiddenSize := 4
  topk := 2
  maxNumBatchedTokens := 8
  tpSize := 2
  contexts i := ⟨⟨0, if i < 2 then 0 else 1, [1]⟩, none⟩

def oneToken (context : Nat) (ids : List Int) : SendAttnOutputArgs Nat Nat :=
  ⟨⟨[1, 4], [0, 0, 0, 0]⟩, context, some ⟨[1, 2], ids⟩, some ⟨[1, 2], [1, 1]⟩, none⟩

/-- Two dispatches of stage 0 with one of stage 1 between them; a receive with
the context of the second is refused, and one with the first's takes the first. The
next send of stage 1 queues its ids and weights behind the earlier ones. -/
theorem pending_dispatch_fifo_two_stages :
    let d := twoStages.run [.send (oneToken 0 [3, 4]), .send (oneToken 2 [7, 8]), .send (oneToken 1 [5, 6]),
      .recv ⟨0, some 1, none⟩, .recv ⟨0, some 0, none⟩]
    d.dispatched 0 = d.combined 0 ++ d.pending 0 ∧
      (d.combined 0).map (·.topkIds.values) = [[3, 4]] ∧ (d.pending 0).map (·.topkIds.values) = [[5, 6]] ∧
      (d.sendAttnOutput (oneToken 3 [1, 2])).1.pending 1 =
        d.pending 1 ++ [⟨3, ⟨[1, 2], [1, 2]⟩, ⟨[1, 2], [1, 1]⟩⟩] := by
  intro d
  obtain ⟨hqueues, hsends, -⟩ := pending_dispatch_fifo (c := twoStages) ⟨rfl, rfl⟩
    [.send (oneToken 0 [3, 4]), .send (oneToken 2 [7, 8]), .send (oneToken 1 [5, 6]),
      .recv ⟨0, some 1, none⟩, .recv ⟨0, some 0, none⟩]
  refine ⟨(hqueues 0).1, ?_, ?_, ?_⟩
  · decide +kernel
  · decide +kernel
  · rcases hsends (oneToken 3 [1, 2]) with ⟨e, herror, -⟩ | ⟨-, ⟨context, ids, weights⟩,
      ⟨hcontext, hids, hweights⟩, hqueued⟩
    · have hok : (d.sendAttnOutput (oneToken 3 [1, 2])).2.isOk = true := by decide +kernel
      rw [herror] at hok
      cases hok
    · cases hcontext
      cases hids
      cases hweights
      exact (hqueued 1).2

end CAMAsyncAFDConnector

end Connector

end AfdPlugin.AsyncCam
