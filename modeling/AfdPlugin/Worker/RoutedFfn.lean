import AfdPlugin.Connectors.Metadata
import AfdPlugin.Lib.Rendezvous
/-!
# The routed-experts FFN schedule

The FFN runner receives the routed rows of a layer and stage, runs that
layer's experts, and sends the result back just before that stage's next
receive, in the order in which two Attention micro-batch threads dispatch and
combine.
-/

namespace AfdPlugin.RoutedFfn

open Rendezvous

/-- `AFDTransferContext`, as far as the FFN side reads it. -/
structure TransferContext where
  stageIdx : Int
  deriving DecidableEq, Repr

/-- `AFDA2FTransferPayload`. -/
structure TransferPayload (Rows : Type) where
  hiddenStates : Rows
  context : TransferContext

section Runner
variable {Rows Weights Output : Type}

/-- A call of the runner on its connector. -/
inductive Event (Rows Weights Output : Type) where
  | recvAttnOutput (ubatchIdx : Int) (payload : TransferPayload Rows)
  | runExperts (payload : TransferPayload Rows) (weights : Weights) (output : Output)
  | sendFfnOutput (output : Output) (context : TransferContext)

/-- The loop's variables, the number of receives so far, and its calls. -/
structure Loop (Rows Weights Output : Type) where
  received : Nat := 0
  pendingOutputs : Dict Int (Output × TransferContext) := ∅
  calls : List (Event Rows Weights Output) := []

/-- `if stage_idx in pending_outputs: send_ffn_output(*pending_outputs.pop(stage_idx))`. -/
def Loop.sendPending (loop : Loop Rows Weights Output) (stageIdx : Int) : Loop Rows Weights Output :=
  match loop.pendingOutputs.get? stageIdx with
  | some (output, context) =>
    { loop with
      pendingOutputs := loop.pendingOutputs.erase stageIdx
      calls := loop.calls ++ [.sendFfnOutput output context] }
  | none => loop

/-- The body of the two loops. The connector's `n`-th receive delivers
`arrivals n`, with a context for the stage asked for. -/
def Loop.stageRound (arrivals : Nat → Rows) (experts : Weights → Rows → Output) (weights : Weights)
    (loop : Loop Rows Weights Output) (stageIdx : Int) : Loop Rows Weights Output :=
  let loop := loop.sendPending stageIdx
  let payload : TransferPayload Rows := ⟨arrivals loop.received, ⟨stageIdx⟩⟩
  let ffnOutput := experts weights payload.hiddenStates
  { received := loop.received + 1
    pendingOutputs := loop.pendingOutputs.set stageIdx (ffnOutput, payload.context)
    calls := loop.calls ++ [.recvAttnOutput stageIdx payload, .runExperts payload weights ffnOutput] }

/-- `sorted(int(stage_idx) for stage_idx in dp_metadata_list) or [0]`. -/
def stageIds (dpMetadataList : Dict Int AFDDPMetadata) : List Int :=
  match dpMetadataList.keys.insertionSort (· ≤ ·) with
  | [] => [0]
  | ids => ids

/-- `_ffn_forward`, after the connector state is updated. -/
def ffnForward (arrivals : Nat → Rows) (experts : Weights → Rows → Output) (localExperts : Nat → Weights)
    (moeLayerIndices : List Nat) (dpMetadataList : Dict Int AFDDPMetadata) : Loop Rows Weights Output :=
  let ids := stageIds dpMetadataList
  let loop := moeLayerIndices.foldl
    (fun loop layerIdx => ids.foldl (Loop.stageRound arrivals experts (localExperts layerIdx)) loop) {}
  ids.foldl Loop.sendPending loop

end Runner

/-! ## The Attention side -/

/-- What a micro-batch thread does around one remote layer. -/
inductive ThreadAction where
  | dispatch (stageIdx : Int)
  | dboYield
  | combine (stageIdx : Int)
  deriving DecidableEq, Repr

/-- `_send_and_receive`. -/
def sendAndReceive (stageIdx : Int) : List ThreadAction :=
  [.dispatch stageIdx, .dboYield, .combine stageIdx]

/-- One thread's forward through `numLayers` remote layers. -/
def threadForward (stageIdx : Int) : Nat → List ThreadAction
  | 0 => []
  | numLayers + 1 => sendAndReceive stageIdx ++ threadForward stageIdx numLayers

/-- The transport operations the two sides issue. -/
inductive AttentionOp where
  | dispatch (stageIdx : Int)
  | combine (stageIdx : Int)
  deriving DecidableEq, Repr

inductive FfnOp where
  | recv (stageIdx : Int)
  | send (stageIdx : Int)
  deriving DecidableEq, Repr

/-- Two micro-batch threads, the running one first. A yield hands over to the
other thread, and so does a thread that has finished. -/
def ubatchThreads : Process (List ThreadAction × List ThreadAction) AttentionOp
  | (.dispatch stageIdx :: rest, other) => some (some (.dispatch stageIdx), (rest, other))
  | (.combine stageIdx :: rest, other) => some (some (.combine stageIdx), (rest, other))
  | (.dboYield :: rest, other) => some (none, (other, rest))
  | ([], other :: rest) => some (none, (other :: rest, []))
  | ([], []) => none

/-- The transport operation of a runner call; running experts is none. -/
def Event.op {Rows Weights Output : Type} : Event Rows Weights Output → Option FfnOp
  | .recvAttnOutput ubatchIdx _ => some (.recv ubatchIdx)
  | .runExperts _ _ _ => none
  | .sendFfnOutput _ context => some (.send context.stageIdx)

/-- A dispatch meets the receive of its stage, a combine the send. -/
def AttentionOp.mirror : AttentionOp → FfnOp
  | .dispatch stageIdx => .recv stageIdx
  | .combine stageIdx => .send stageIdx

/-! ## What one round does -/

section Rounds
variable {Rows Weights Output : Type} (arrivals : Nat → Rows) (experts : Weights → Rows → Output)

/-- The stage a call is for. -/
def Event.stage : Event Rows Weights Output → Int
  | .recvAttnOutput ubatchIdx _ => ubatchIdx
  | .runExperts payload _ _ => payload.context.stageIdx
  | .sendFfnOutput _ context => context.stageIdx

/-- The send a stage still owes. -/
def Loop.owed (loop : Loop Rows Weights Output) (stage : Int) : List (Event Rows Weights Output) :=
  match loop.pendingOutputs.get? stage with
  | some (output, context) => [.sendFfnOutput output context]
  | none => []

/-- Pending results are kept under the stage they are for. -/
def Loop.Keyed (loop : Loop Rows Weights Output) : Prop :=
  ∀ stage output context, loop.pendingOutputs.get? stage = some (output, context) → context.stageIdx = stage

variable {loop : Loop Rows Weights Output}

theorem sendPending_calls (s : Int) : (loop.sendPending s).calls = loop.calls ++ loop.owed s := by
  unfold Loop.sendPending Loop.owed
  split <;> simp

theorem sendPending_get? (s t : Int) :
    (loop.sendPending s).pendingOutputs.get? t = if t = s then none else loop.pendingOutputs.get? t := by
  unfold Loop.sendPending
  split
  · exact Dict.get?_erase _ s t
  · rename_i h
    by_cases hts : t = s
    · simp [hts, h]
    · simp [hts]

theorem sendPending_received (s : Int) : (loop.sendPending s).received = loop.received := by
  unfold Loop.sendPending
  split <;> rfl

theorem stageRound_calls (w : Weights) (s : Int) :
    (loop.stageRound arrivals experts w s).calls = loop.calls ++ loop.owed s ++
      [.recvAttnOutput s ⟨arrivals loop.received, ⟨s⟩⟩,
        .runExperts ⟨arrivals loop.received, ⟨s⟩⟩ w (experts w (arrivals loop.received))] := by
  simp only [Loop.stageRound, sendPending_calls, sendPending_received]

theorem stageRound_get? (w : Weights) (s t : Int) :
    (loop.stageRound arrivals experts w s).pendingOutputs.get? t =
      if t = s then some (experts w (arrivals loop.received), ⟨s⟩) else loop.pendingOutputs.get? t := by
  simp only [Loop.stageRound, Dict.get?_set, sendPending_get?, sendPending_received]
  split <;> rfl

theorem keyed_init : ({} : Loop Rows Weights Output).Keyed := fun _ _ _ h => nomatch h

theorem Loop.Keyed.sendPending (h : loop.Keyed) (s : Int) : (loop.sendPending s).Keyed := by
  intro t output context ht
  rw [sendPending_get?] at ht
  split at ht
  · cases ht
  · exact h t output context ht

theorem Loop.Keyed.stageRound (h : loop.Keyed) (w : Weights) (s : Int) :
    (loop.stageRound arrivals experts w s).Keyed := by
  intro t output context ht
  rw [stageRound_get?] at ht
  split at ht
  · rename_i hts
    cases ht
    exact hts.symm
  · exact h t output context ht

theorem owed_stage (h : loop.Keyed) {s : Int} {e : Event Rows Weights Output} (he : e ∈ loop.owed s) :
    e.stage = s := by
  unfold Loop.owed at he
  split at he
  · rename_i output context hs
    rw [List.mem_singleton] at he
    subst he
    exact h s output context hs
  · cases he

theorem owed_congr {loop' : Loop Rows Weights Output} {t : Int}
    (h : loop'.pendingOutputs.get? t = loop.pendingOutputs.get? t) : loop'.owed t = loop.owed t := by
  unfold Loop.owed
  rw [h]

/-! ## One stage's calls -/

/-- A stage's calls, completed by the send it still owes. -/
def Loop.view (loop : Loop Rows Weights Output) (t : Int) : List (Event Rows Weights Output) :=
  loop.calls.filter (fun e => e.stage = t) ++ loop.owed t

/-- Receive, run the layer's experts on what was received, send the result. -/
def exchange (t : Int) (step : Weights × Rows) : List (Event Rows Weights Output) :=
  [.recvAttnOutput t ⟨step.2, ⟨t⟩⟩, .runExperts ⟨step.2, ⟨t⟩⟩ step.1 (experts step.1 step.2),
    .sendFfnOutput (experts step.1 step.2) ⟨t⟩]

theorem filter_owed (h : loop.Keyed) (s t : Int) :
    (loop.owed s).filter (fun e => e.stage = t) = if s = t then loop.owed s else [] := by
  split
  · rename_i hst
    exact List.filter_eq_self.2 fun e he => by simpa [hst] using owed_stage h he
  · rename_i hst
    refine List.filter_eq_nil_iff.2 fun e he => ?_
    rw [owed_stage h he]
    simpa using hst

theorem view_sendPending (h : loop.Keyed) (s t : Int) : (loop.sendPending s).view t = loop.view t := by
  unfold Loop.view
  rw [sendPending_calls, List.filter_append, filter_owed h]
  by_cases hst : s = t
  · subst hst
    have hnone : (loop.sendPending s).owed s = [] := by
      unfold Loop.owed
      rw [sendPending_get?, if_pos rfl]
    simp [hnone]
  · have hsame : (loop.sendPending s).owed t = loop.owed t :=
      owed_congr (by rw [sendPending_get?, if_neg fun he => hst he.symm])
    simp [hst, hsame]

theorem view_stageRound (h : loop.Keyed) (w : Weights) (s t : Int) :
    (loop.stageRound arrivals experts w s).view t =
      loop.view t ++ if s = t then exchange experts t (w, arrivals loop.received) else [] := by
  unfold Loop.view
  rw [stageRound_calls, List.filter_append, List.filter_append, filter_owed h]
  by_cases hst : s = t
  · subst hst
    have howed : (loop.stageRound arrivals experts w s).owed s =
        [.sendFfnOutput (experts w (arrivals loop.received)) ⟨s⟩] := by
      unfold Loop.owed
      rw [stageRound_get?, if_pos rfl]
    simp [howed, exchange, Event.stage]
  · have hsame : (loop.stageRound arrivals experts w s).owed t = loop.owed t :=
      owed_congr (by rw [stageRound_get?, if_neg fun he => hst he.symm])
    simp [hst, hsame, Event.stage]

/-! ## Layers -/

/-- One layer: every stage of the list exchanges once. -/
theorem layer_view (w : Weights) {ids : List Int} (hn : ids.Nodup) (h : loop.Keyed) :
    (ids.foldl (Loop.stageRound arrivals experts w) loop).Keyed ∧
      ∀ t, ∃ rows, (ids.foldl (Loop.stageRound arrivals experts w) loop).view t =
        loop.view t ++ if t ∈ ids then exchange experts t (w, rows) else [] := by
  induction ids generalizing loop with
  | nil => exact ⟨h, fun t => ⟨arrivals 0, by simp⟩⟩
  | cons s ids ih =>
    obtain ⟨hs, hn⟩ := List.nodup_cons.1 hn
    obtain ⟨hkeyed, hview⟩ := ih hn (h.stageRound arrivals experts w s)
    refine ⟨hkeyed, fun t => ?_⟩
    obtain ⟨rows, hrows⟩ := hview t
    rw [List.foldl_cons, hrows, view_stageRound arrivals experts h]
    by_cases hst : s = t
    · subst hst
      exact ⟨arrivals loop.received, by simp [hs]⟩
    · have hts : ¬ t = s := fun he => hst he.symm
      exact ⟨rows, by simp [hst, hts]⟩

/-- All layers: a stage of the list exchanges once for each, in order. -/
theorem layers_view (localExperts : Nat → Weights) {ids : List Int} (hn : ids.Nodup) (layers : List Nat)
    (h : loop.Keyed) :
    (layers.foldl (fun loop l => ids.foldl (Loop.stageRound arrivals experts (localExperts l)) loop)
      loop).Keyed ∧
      ∀ t, ∃ rows : List Rows, rows.length = layers.length ∧
        (layers.foldl (fun loop l => ids.foldl (Loop.stageRound arrivals experts (localExperts l)) loop)
          loop).view t =
          loop.view t ++
            if t ∈ ids then ((layers.map localExperts).zip rows).flatMap (exchange experts t) else [] := by
  induction layers generalizing loop with
  | nil => exact ⟨h, fun t => ⟨[], rfl, by simp⟩⟩
  | cons l layers ih =>
    obtain ⟨hkeyed, hlayer⟩ := layer_view arrivals experts (localExperts l) hn h
    obtain ⟨hkeyed, hview⟩ := ih hkeyed
    refine ⟨hkeyed, fun t => ?_⟩
    obtain ⟨row, hrow⟩ := hlayer t
    obtain ⟨rows, hlen, hrows⟩ := hview t
    refine ⟨row :: rows, by simp [hlen], ?_⟩
    rw [List.foldl_cons, hrows, hrow, List.append_assoc]
    split <;> simp

/-- Sending back what is owed completes every stage of the list. -/
theorem flush_view {ids : List Int} (h : loop.Keyed) (t : Int) :
    (ids.foldl Loop.sendPending loop).view t = loop.view t ∧
      (ids.foldl Loop.sendPending loop).pendingOutputs.get? t =
        if t ∈ ids then none else loop.pendingOutputs.get? t := by
  induction ids generalizing loop with
  | nil => exact ⟨rfl, by simp⟩
  | cons s ids ih =>
    obtain ⟨hview, hget⟩ := ih (h.sendPending s)
    rw [List.foldl_cons, hview, hget, view_sendPending h, sendPending_get?]
    refine ⟨rfl, ?_⟩
    by_cases hts : t = s
    · simp [hts]
    · simp [hts]

/-- A stage outside the list never has a result pending. -/
theorem layers_get?_of_notMem (localExperts : Nat → Weights) {ids : List Int} {t : Int} (ht : t ∉ ids)
    (layers : List Nat) :
    (layers.foldl (fun loop l => ids.foldl (Loop.stageRound arrivals experts (localExperts l)) loop) loop
      ).pendingOutputs.get? t = loop.pendingOutputs.get? t := by
  have hlayer : ∀ (w : Weights) (ids' : List Int) (loop : Loop Rows Weights Output), t ∉ ids' →
      (ids'.foldl (Loop.stageRound arrivals experts w) loop).pendingOutputs.get? t =
          loop.pendingOutputs.get? t := by
    intro w ids'
    induction ids' with
    | nil => intro loop _; rfl
    | cons s ids' ih =>
      intro loop hmem
      rw [List.mem_cons, not_or] at hmem
      rw [List.foldl_cons, ih _ hmem.2, stageRound_get?, if_neg hmem.1]
  induction layers generalizing loop with
  | nil => rfl
  | cons l layers ih => rw [List.foldl_cons, ih, hlayer _ _ _ ht]

end Rounds

theorem nodup_stageIds (d : Dict Int AFDDPMetadata) : (stageIds d).Nodup := by
  have hn : (d.keys.insertionSort (· ≤ ·)).Nodup := (List.perm_insertionSort _ _).nodup_iff.2 d.nodup
  unfold stageIds
  split
  · exact List.nodup_singleton 0
  · exact hn

section Forward
variable {Rows Weights Output : Type} (arrivals : Nat → Rows) (experts : Weights → Rows → Output)
  (localExperts : Nat → Weights) (layers : List Nat) (d : Dict Int AFDDPMetadata)

theorem ffnForward_pending : (ffnForward arrivals experts localExperts layers d).pendingOutputs = ∅ := by
  have hkeyed := (layers_view arrivals experts localExperts (nodup_stageIds d) layers keyed_init).1
  have hnone : ∀ t, (ffnForward arrivals experts localExperts layers d).pendingOutputs.get? t = none := by
    intro t
    rw [ffnForward, (flush_view hkeyed t).2]
    split
    · rfl
    · rename_i ht
      exact layers_get?_of_notMem arrivals experts localExperts ht layers
  have hkeys : (ffnForward arrivals experts localExperts layers d).pendingOutputs.keys = [] :=
    List.eq_nil_iff_forall_not_mem.2 fun t => Dict.get?_eq_none_iff.1 (hnone t)
  exact Dict.ext (List.map_eq_nil_iff.1 hkeys)

/-- The calls of one stage are one exchange for every layer, in order. -/
theorem ffnForward_calls (t : Int) : ∃ rows : List Rows, rows.length = layers.length ∧
    (ffnForward arrivals experts localExperts layers d).calls.filter (fun e => e.stage = t) =
      if t ∈ stageIds d then ((layers.map localExperts).zip rows).flatMap (exchange experts t) else [] := by
  obtain ⟨hkeyed, hview⟩ := layers_view arrivals experts localExperts (nodup_stageIds d) layers keyed_init
  obtain ⟨rows, hlen, hrows⟩ := hview t
  refine ⟨rows, hlen, ?_⟩
  have howed : (ffnForward arrivals experts localExperts layers d).owed t = [] := by
    unfold Loop.owed
    rw [ffnForward_pending]
    rfl
  have hfinal : (ffnForward arrivals experts localExperts layers d).view t =
      (ffnForward arrivals experts localExperts layers d).calls.filter (fun e => e.stage = t) := by
    rw [Loop.view, howed, List.append_nil]
  rw [← hfinal, ffnForward, (flush_view hkeyed t).1, hrows]
  rfl

/-! ## The order of the transport operations -/

section Order
variable {loop : Loop Rows Weights Output}

def Loop.ops (loop : Loop Rows Weights Output) : List FfnOp := loop.calls.filterMap Event.op

theorem owed_ops (h : loop.Keyed) (s : Int) :
    (loop.owed s).filterMap Event.op = if (loop.pendingOutputs.get? s).isSome then [.send s] else [] := by
  unfold Loop.owed
  cases hs : loop.pendingOutputs.get? s with
  | none => rfl
  | some p =>
    obtain ⟨output, context⟩ := p
    simp [Event.op, h s output context hs]

/-- What a stage issues in one layer: its owed send, if any, then a receive. -/
def roundOps (owing : Bool) (s : Int) : List FfnOp := (if owing then [.send s] else []) ++ [.recv s]

theorem layer_ops (w : Weights) {ids : List Int} (hn : ids.Nodup) (h : loop.Keyed) {owing : Bool}
    (ho : ∀ s ∈ ids, (loop.pendingOutputs.get? s).isSome = owing) :
    (ids.foldl (Loop.stageRound arrivals experts w) loop).ops = loop.ops ++ ids.flatMap (roundOps owing) ∧
      ∀ s, (s ∈ ids ∨ (loop.pendingOutputs.get? s).isSome) →
        ((ids.foldl (Loop.stageRound arrivals experts w) loop).pendingOutputs.get? s).isSome := by
  induction ids generalizing loop with
  | nil => exact ⟨by simp, fun s hs => by simpa using hs⟩
  | cons s ids ih =>
    obtain ⟨hs, hn⟩ := List.nodup_cons.1 hn
    have ho' : ∀ t ∈ ids,
        ((loop.stageRound arrivals experts w s).pendingOutputs.get? t).isSome = owing := by
      intro t ht
      have hts : t ≠ s := fun he => hs (he ▸ ht)
      rw [stageRound_get?, if_neg hts]
      exact ho t (List.mem_cons_of_mem s ht)
    obtain ⟨hops, hsome⟩ := ih hn (h.stageRound arrivals experts w s) ho'
    rw [List.foldl_cons]
    refine ⟨?_, fun t ht => hsome t ?_⟩
    · have hround : (loop.stageRound arrivals experts w s).ops = loop.ops ++ roundOps owing s := by
        unfold Loop.ops
        rw [stageRound_calls, List.filterMap_append, List.filterMap_append, owed_ops h,
          ho s List.mem_cons_self, List.append_assoc]
        rfl
      rw [hops, hround, List.append_assoc, List.flatMap_cons]
    · rw [stageRound_get?]
      by_cases hts : t = s
      · simp [hts]
      · simpa [hts] using ht

/-- Layers after the first: every stage owes a send. -/
theorem layers_ops {ids : List Int} (hn : ids.Nodup) (h : loop.Keyed)
    (ho : ∀ s ∈ ids, (loop.pendingOutputs.get? s).isSome = true) :
    (layers.foldl (fun loop l => ids.foldl (Loop.stageRound arrivals experts (localExperts l))
      loop) loop).ops =
        loop.ops ++ (List.replicate layers.length (ids.flatMap (roundOps true))).flatten ∧
      ∀ s ∈ ids, ((layers.foldl
        (fun loop l => ids.foldl (Loop.stageRound arrivals experts (localExperts l)) loop)
        loop).pendingOutputs.get? s).isSome = true := by
  induction layers generalizing loop with
  | nil => exact ⟨by simp, ho⟩
  | cons l layers ih =>
    obtain ⟨hops, hsome⟩ := layer_ops arrivals experts (localExperts l) hn h ho
    obtain ⟨hops', hsome'⟩ := ih (layer_view arrivals experts (localExperts l) hn h).1 fun s hs =>
      hsome s (.inl hs)
    refine ⟨?_, hsome'⟩
    rw [List.foldl_cons, hops', hops, List.append_assoc, List.length_cons, List.replicate_succ,
      List.flatten_cons]

theorem flush_ops {ids : List Int} (hn : ids.Nodup) (h : loop.Keyed)
    (ho : ∀ s ∈ ids, (loop.pendingOutputs.get? s).isSome = true) :
    (ids.foldl Loop.sendPending loop).ops = loop.ops ++ ids.map .send := by
  induction ids generalizing loop with
  | nil => simp
  | cons s ids ih =>
    obtain ⟨hs, hn⟩ := List.nodup_cons.1 hn
    have hflush : (loop.sendPending s).ops = loop.ops ++ [.send s] := by
      unfold Loop.ops
      rw [sendPending_calls, List.filterMap_append, owed_ops h, ho s List.mem_cons_self]
      rfl
    rw [List.foldl_cons, ih hn (h.sendPending s) fun t ht => ?_, hflush, List.append_assoc]
    · rfl
    · have hts : t ≠ s := fun he => hs (he ▸ ht)
      rw [sendPending_get?, if_neg hts]
      exact ho t (List.mem_cons_of_mem s ht)

end Order

/-- The operations of a forward over `n` layers. -/
def forwardOps (ids : List Int) : Nat → List FfnOp
  | 0 => []
  | n + 1 => ids.map .recv ++ (List.replicate n (ids.flatMap (roundOps true))).flatten ++ ids.map .send

theorem flush_init (ids : List Int) :
    ids.foldl Loop.sendPending ({} : Loop Rows Weights Output) = {} := by
  induction ids with
  | nil => rfl
  | cons s ids ih => exact ih

theorem ffnForward_ops :
    (ffnForward arrivals experts localExperts layers d).ops = forwardOps (stageIds d) layers.length := by
  rcases layers with _ | ⟨l, layers⟩
  · rw [ffnForward, List.foldl_nil, flush_init]
    rfl
  have hn := nodup_stageIds d
  have hnone : ∀ s ∈ stageIds d, (({} : Loop Rows Weights Output).pendingOutputs.get? s).isSome = false :=
    fun _ _ => rfl
  obtain ⟨hops, hsome⟩ := layer_ops arrivals experts (localExperts l) hn keyed_init hnone
  have hkeyed := (layer_view arrivals experts (localExperts l) hn keyed_init).1
  obtain ⟨hops', hsome'⟩ := layers_ops arrivals experts localExperts layers hn hkeyed fun s hs =>
    hsome s (.inl hs)
  have hkeyed' := (layers_view arrivals experts localExperts hn layers hkeyed).1
  have hfirst : (stageIds d).flatMap (roundOps false) = (stageIds d).map .recv := by
    rw [List.map_eq_flatMap]
    rfl
  rw [ffnForward, List.foldl_cons, flush_ops hn hkeyed' hsome', hops', hops, hfirst]
  rfl

end Forward

/-! ## Two micro-batch threads -/

section Threads
variable (s0 s1 : Int)

/-- What the two threads issue once both have dispatched a layer, with `n` more layers to go. -/
def tailOps : Nat → List AttentionOp
  | 0 => [.combine s0, .combine s1]
  | n + 1 => .combine s0 :: .dispatch s0 :: .combine s1 :: .dispatch s1 :: tailOps n

theorem issues_tailOps (n : Nat) :
    Issues ubatchThreads (.combine s0 :: threadForward s0 n, .combine s1 :: threadForward s1 n)
      (tailOps s0 s1 n) := by
  induction n with
  | zero =>
    refine .offer rfl (.internal rfl (.offer rfl (.done rfl)))
  | succ n ih =>
    -- each thread combines, dispatches its next layer and yields
    refine .offer rfl (.offer rfl (.internal rfl (.offer rfl (.offer rfl (.internal rfl ih)))))

theorem issues_threads (n : Nat) :
    Issues ubatchThreads (threadForward s0 (n + 1), threadForward s1 (n + 1))
      (.dispatch s0 :: .dispatch s1 :: tailOps s0 s1 n) :=
  .offer rfl (.internal rfl (.offer rfl (.internal rfl (issues_tailOps s0 s1 n))))

theorem map_mirror_tailOps (n : Nat) :
    (tailOps s0 s1 n).map AttentionOp.mirror =
      (List.replicate n ([s0, s1].flatMap (roundOps true))).flatten ++ [.send s0, .send s1] := by
  induction n with
  | zero => rfl
  | succ n ih =>
    rw [List.replicate_succ, List.flatten_cons, List.append_assoc, ← ih]
    rfl

/-- The order in which the threads issue mirrors the runner's. -/
theorem issues_mirror (n : Nat) : ∃ ops, Issues ubatchThreads (threadForward s0 n, threadForward s1 n) ops ∧
    forwardOps [s0, s1] n = ops.map AttentionOp.mirror := by
  rcases n with _ | n
  · exact ⟨[], .done rfl, rfl⟩
  · refine ⟨_, issues_threads s0 s1 n, ?_⟩
    rw [List.map_cons, List.map_cons, map_mirror_tailOps]
    rfl

end Threads

/-- The routed FFN schedule. For every stage the runner's calls are, for each
layer in order, one receive, one run of that layer's experts on what it
returned, and one send of that result; nothing is left pending. With two
stages the order of its transport operations mirrors that of the two
micro-batch threads, so the two sides never get stuck before both are done. -/
theorem routed_ffn_schedule {Rows Weights Output : Type} (arrivals : Nat → Rows)
    (experts : Weights → Rows → Output) (localExperts : Nat → Weights) (layers : List Nat)
    (d : Dict Int AFDDPMetadata) :
    (∀ t, ∃ rows : List Rows, rows.length = layers.length ∧
      (ffnForward arrivals experts localExperts layers d).calls.filter (fun e => e.stage = t) =
        if t ∈ stageIds d then ((layers.map localExperts).zip rows).flatMap (exchange experts t) else []) ∧
    (ffnForward arrivals experts localExperts layers d).pendingOutputs = ∅ ∧
    ∀ s0 s1, stageIds d = [s0, s1] →
      (∃ ops, Issues ubatchThreads (threadForward s0 layers.length, threadForward s1 layers.length) ops ∧
        (ffnForward arrivals experts localExperts layers d).calls.filterMap Event.op =
          ops.map AttentionOp.mirror) ∧
      ∀ st, Relation.ReflTransGen (Step ubatchThreads (script Event.op) fun a b => b = a.mirror)
          ((threadForward s0 layers.length, threadForward s1 layers.length),
            (ffnForward arrivals experts localExperts layers d).calls) st →
        (ubatchThreads st.1 = none ∧ script Event.op st.2 = none) ∨
          ∃ st', Step ubatchThreads (script Event.op) (fun a b => b = a.mirror) st st' := by
  refine ⟨ffnForward_calls arrivals experts localExperts layers d,
    ffnForward_pending arrivals experts localExperts layers d, ?_⟩
  intro s0 s1 hids
  obtain ⟨ops, hissues, hmirror⟩ := issues_mirror s0 s1 layers.length
  have hops := ffnForward_ops arrivals experts localExperts layers d
  rw [hids, hmirror] at hops
  refine ⟨⟨ops, hissues, hops⟩, ?_⟩
  intro st hreach
  refine Aligned.never_stuck ⟨ops, _, hissues, issues_script Event.op _, ?_⟩ hreach
  have hcalls : (ffnForward arrivals experts localExperts layers d).calls.filterMap Event.op =
      ops.map AttentionOp.mirror := hops
  rw [hcalls, List.forall₂_map_right_iff]
  exact List.forall₂_same.2 fun _ _ => rfl

/-- Two layers and the stages 0 and 1. -/
theorem routed_ffn_schedule_two_layers :
    (∃ ops, Issues ubatchThreads (threadForward 0 2, threadForward 1 2) ops ∧
      (ffnForward id Nat.add (fun l => 10 * l) [3, 4]
        ((Dict.empty.set 1 ⟨[5], 5⟩).set 0 ⟨[6], 6⟩)).calls.filterMap Event.op =
          ops.map AttentionOp.mirror) :=
  ((routed_ffn_schedule id Nat.add (fun l => 10 * l) [3, 4]
    ((Dict.empty.set 1 ⟨[5], 5⟩).set 0 ⟨[6], 6⟩)).2.2 0 1 (by decide)).1

end AfdPlugin.RoutedFfn
