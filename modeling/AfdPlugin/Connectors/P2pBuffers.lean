import AfdPlugin.Connectors.P2pTransfer
/-!
# The P2P connector's persistent receive buffers

An FFN rank keeps receive buffers between steps, by stage, peer and shape, so
that a captured graph finds them again. Serving sees arbitrary token counts, so
what makes a cache grow decides whether it stays small. Router logits are
received into a fresh tensor each time.
-/

namespace AfdPlugin.P2p

namespace P2pNcclAFDConnector

/-- The hidden-state buffers for what the peers announce. -/
def hiddenStateItems (peers : List ((Int × Nat) × TensorMetadata)) :
    List ((Int × Nat × List Int) × TensorMetadata) :=
  peers.map fun e => ((e.1.1, e.1.2, e.2.size), e.2)

/-- The input-id buffers for what the peers announce. -/
def inputIdsItems (peers : List ((Int × Nat) × TensorMetadata)) :
    List ((Int × Nat × List Int) × TensorMetadata) :=
  peers.map fun e => ((e.1.1, e.1.2, [e.2.numTokens]), ⟨.int32, [e.2.numTokens]⟩)

theorem updateBuffers_eq (c : P2pNcclAFDConnector) (stage : Int) (src : Nat) (m : TensorMetadata) :
    c.updateBuffers stage src m =
      { c with
        recvAttnBuffers :=
          if c.isGraphCapturing then c.recvAttnBuffers.setMissing (stage, src, m.size) m
            else c.recvAttnBuffers
        recvAttnInputIdsBuffers :=
          c.recvAttnInputIdsBuffers.setMissing (stage, src, [m.numTokens]) ⟨.int32, [m.numTokens]⟩ } := by
  obtain ⟨_, _, _, _, _, _, _, _, capturing, _, _, _, hidden, ids⟩ := c
  cases hids : ids.contains (stage, src, [m.numTokens])
  all_goals
    cases capturing
    · simp [updateBuffers, Dict.setMissing, hids]
    · cases hhidden : hidden.contains (stage, src, m.size)
        <;> simp [updateBuffers, Dict.setMissing, hids, hhidden]

/-- What the loop over the peers leaves in the caches. -/
theorem buffers_foldl_updateBuffers (c : P2pNcclAFDConnector) (l : List ((Int × Nat) × TensorMetadata)) :
    let c' := l.foldl (fun c e => c.updateBuffers e.1.1 e.1.2 e.2) c
    c'.recvAttnBuffers =
      (if c.isGraphCapturing then c.recvAttnBuffers.setAllMissing (hiddenStateItems l)
        else c.recvAttnBuffers) ∧
    c'.recvAttnInputIdsBuffers = c.recvAttnInputIdsBuffers.setAllMissing (inputIdsItems l) := by
  induction l generalizing c with
  | nil =>
    refine ⟨?_, rfl⟩
    split <;> rfl
  | cons e l ih =>
    obtain ⟨hhidden, hids⟩ := ih (c.updateBuffers e.1.1 e.1.2 e.2)
    rw [updateBuffers_eq] at hhidden hids
    refine ⟨?_, ?_⟩
    · rw [List.foldl_cons, updateBuffers_eq, hhidden]
      cases c.isGraphCapturing <;> rfl
    · rw [List.foldl_cons, updateBuffers_eq, hids]
      rfl

/-- What the peers announce in a payload. -/
def announced (c : P2pNcclAFDConnector) (payload : AFDControlPayload) :
    List ((Int × Nat) × TensorMetadata) :=
  payload.dpMetadataList.entries.flatMap c.stagePeers

/-- The rank keeps receive buffers at all: an FFN rank that may use graphs. -/
def keepsBuffers (c : P2pNcclAFDConnector) : Prop := c.afdConfig.role = .ffn ∧ ¬ c.enforceEager

/-- The caches after a payload. -/
theorem buffers_update (c : P2pNcclAFDConnector) (hkeeps : c.keepsBuffers) (payload : AFDControlPayload) :
    (c.updateStateFromDpMetadata payload).recvAttnBuffers =
      (if payload.isGraphCapturing then
        c.recvAttnBuffers.setAllMissing (hiddenStateItems (c.announced payload))
        else c.recvAttnBuffers) ∧
    (c.updateStateFromDpMetadata payload).recvAttnInputIdsBuffers =
      c.recvAttnInputIdsBuffers.setAllMissing (inputIdsItems (c.announced payload)) := by
  have hentries : ((∅ : Dict (Int × Nat) TensorMetadata).setAll (c.announced payload)).entries =
      c.announced payload :=
    Dict.entries_empty_setAll (c.nodup_keys_flatMap_stagePeers payload.dpMetadataList.nodup)
  have hloop : c.updateStateFromDpMetadata payload =
      (c.announced payload).foldl (fun c e => c.updateBuffers e.1.1 e.1.2 e.2)
        { c.storePayload payload with
          tensorMetadataList := (∅ : Dict Int TensorMetadata).setAll
            (payload.dpMetadataList.entries.map fun e => (e.1, c.stageMetadata e))
          recvAttnTensorMetadataList :=
            (∅ : Dict (Int × Nat) TensorMetadata).setAll (c.announced payload) } := by
    have hkeeps' : c.afdConfig.role = .ffn ∧ ¬ c.enforceEager = true := hkeeps
    rw [updateStateFromDpMetadata, foldl_updateStage_ffn (c.storePayload payload) hkeeps.1]
    rw [if_pos hkeeps']
    exact congrArg (List.foldl _ _) hentries
  rw [hloop]
  exact buffers_foldl_updateBuffers _ _

/-- An Attention rank, and a rank that runs eagerly, keeps no buffer. -/
theorem buffers_update_of_not_keeps (c : P2pNcclAFDConnector) (hkeeps : ¬ c.keepsBuffers)
    (payload : AFDControlPayload) :
    (c.updateStateFromDpMetadata payload).recvAttnBuffers = c.recvAttnBuffers ∧
    (c.updateStateFromDpMetadata payload).recvAttnInputIdsBuffers = c.recvAttnInputIdsBuffers := by
  have hstages : ∀ l : List (Int × AFDDPMetadata), ∀ c' : P2pNcclAFDConnector,
      (l.foldl (fun c e => c.updateStage e.1 e.2) c').recvAttnBuffers = c'.recvAttnBuffers ∧
      (l.foldl (fun c e => c.updateStage e.1 e.2) c').recvAttnInputIdsBuffers =
          c'.recvAttnInputIdsBuffers := by
    intro l
    induction l with
    | nil => exact fun _ => ⟨rfl, rfl⟩
    | cons e l ih =>
      intro c'
      obtain ⟨hhidden, hids⟩ := ih (c'.updateStage e.1 e.2)
      rw [List.foldl_cons, hhidden, hids, updateStage]
      split <;> exact ⟨rfl, rfl⟩
  have hkeeps' : ¬ (c.afdConfig.role = .ffn ∧ ¬ c.enforceEager = true) := hkeeps
  rw [updateStateFromDpMetadata, if_neg hkeeps']
  exact hstages _ _

/-! ## Runs -/

/-- What an FFN rank's loop does with its connector. -/
inductive Event where
  | payload (payload : AFDControlPayload)
  | recvAttnOutput (ubatchIdx : Int) (routingSpec : Option AFDExpertRoutingSpec) (recvInputIds : Bool)

/-- A receive reads the connector and leaves it as it is. -/
def handle (c : P2pNcclAFDConnector) : Event → P2pNcclAFDConnector
  | .payload payload => c.updateStateFromDpMetadata payload
  | .recvAttnOutput _ _ _ => c

def run (c : P2pNcclAFDConnector) (events : List Event) : P2pNcclAFDConnector := events.foldl handle c

/-- The payload of an event that captures a graph. -/
def Event.captured : Event → Option AFDControlPayload
  | .payload p => if p.isGraphCapturing then some p else none
  | .recvAttnOutput _ _ _ => none

def Event.payload? : Event → Option AFDControlPayload
  | .payload p => some p
  | .recvAttnOutput _ _ _ => none

/-- The hidden-state shapes captured in a run, by stage and peer. -/
def capturedShapes (c : P2pNcclAFDConnector) (events : List Event) : List (Int × Nat × List Int) :=
  (events.filterMap Event.captured).flatMap fun payload =>
    (hiddenStateItems (c.announced payload)).map Prod.fst

/-- The input-id shapes announced in a run, by stage and peer. -/
def announcedShapes (c : P2pNcclAFDConnector) (events : List Event) : List (Int × Nat × List Int) :=
  (events.filterMap Event.payload?).flatMap fun payload =>
    (inputIdsItems (c.announced payload)).map Prod.fst

/-- What a payload does not change of a connector. -/
theorem handle_settings (c : P2pNcclAFDConnector) (e : Event) :
    (c.handle e).announced = c.announced ∧ ((c.handle e).keepsBuffers ↔ c.keepsBuffers) := by
  cases e with
  | recvAttnOutput stage spec ids => exact ⟨rfl, Iff.rfl⟩
  | payload payload =>
    obtain ⟨b, i, h⟩ := c.updateStateFromDpMetadata_eq payload
    rw [handle, h]
    exact ⟨rfl, Iff.rfl⟩

/-- The caches after one event. -/
theorem buffers_handle (c : P2pNcclAFDConnector) (hkeeps : c.keepsBuffers) (e : Event)
    (key : Int × Nat × List Int) :
    (key ∈ (c.handle e).recvAttnBuffers.keys ↔ key ∈ c.recvAttnBuffers.keys ∨ key ∈ c.capturedShapes [e]) ∧
    (key ∈ (c.handle e).recvAttnInputIdsBuffers.keys ↔
      key ∈ c.recvAttnInputIdsBuffers.keys ∨ key ∈ c.announcedShapes [e]) := by
  cases e with
  | recvAttnOutput stage spec ids =>
    simp [handle, capturedShapes, announcedShapes, Event.captured, Event.payload?]
  | payload payload =>
    obtain ⟨hhidden, hids⟩ := c.buffers_update hkeeps payload
    rw [handle, hhidden, hids]
    constructor
    · cases hcapture : payload.isGraphCapturing
      · simp [capturedShapes, Event.captured, hcapture]
      · simp only [if_true, Dict.mem_keys_setAllMissing, capturedShapes, List.filterMap_cons,
          Event.captured, hcapture, List.filterMap_nil, List.flatMap_cons, List.flatMap_nil,
          List.append_nil]
    · simp only [Dict.mem_keys_setAllMissing, announcedShapes, List.filterMap_cons, Event.payload?,
        List.filterMap_nil, List.flatMap_cons, List.flatMap_nil, List.append_nil]

theorem handle_of_not_keeps (c : P2pNcclAFDConnector) (hkeeps : ¬ c.keepsBuffers) (e : Event) :
    (c.handle e).recvAttnBuffers = c.recvAttnBuffers ∧
    (c.handle e).recvAttnInputIdsBuffers = c.recvAttnInputIdsBuffers := by
  cases e with
  | recvAttnOutput stage spec ids => exact ⟨rfl, rfl⟩
  | payload payload => exact c.buffers_update_of_not_keeps hkeeps payload

theorem keepsBuffers_run (c : P2pNcclAFDConnector) (events : List Event) :
    ((c.run events).keepsBuffers ↔ c.keepsBuffers) ∧ (c.run events).announced = c.announced := by
  induction events generalizing c with
  | nil => exact ⟨Iff.rfl, rfl⟩
  | cons e events ih =>
    obtain ⟨hkeeps, hannounced⟩ := ih (c.handle e)
    obtain ⟨hannounced', hkeeps'⟩ := c.handle_settings e
    exact ⟨hkeeps.trans hkeeps', hannounced.trans hannounced'⟩

/-- The caches after a run: the shapes it captured, and those it announced. -/
theorem keys_run (c : P2pNcclAFDConnector) (hkeeps : c.keepsBuffers) (events : List Event)
    (key : Int × Nat × List Int) :
    (key ∈ (c.run events).recvAttnBuffers.keys ↔ key ∈ c.recvAttnBuffers.keys ∨
      key ∈ c.capturedShapes events) ∧
    (key ∈ (c.run events).recvAttnInputIdsBuffers.keys ↔
      key ∈ c.recvAttnInputIdsBuffers.keys ∨ key ∈ c.announcedShapes events) := by
  induction events generalizing c with
  | nil => simp [run, capturedShapes, announcedShapes]
  | cons e events ih =>
    obtain ⟨hannounced, hkeeps'⟩ := c.handle_settings e
    obtain ⟨hhidden, hids⟩ := ih (c.handle e) (hkeeps'.2 hkeeps)
    obtain ⟨hhidden', hids'⟩ := c.buffers_handle hkeeps e key
    have hcaptured : (c.handle e).capturedShapes events = c.capturedShapes events := by
      rw [capturedShapes, hannounced]
      rfl
    have hannouncedShapes : (c.handle e).announcedShapes events = c.announcedShapes events := by
      rw [announcedShapes, hannounced]
      rfl
    have hsplit : c.capturedShapes (e :: events) = c.capturedShapes [e] ++ c.capturedShapes events := by
      rw [capturedShapes, capturedShapes, capturedShapes, ← List.flatMap_append, ← List.filterMap_append]
      rfl
    have hsplit' : c.announcedShapes (e :: events) = c.announcedShapes [e] ++ c.announcedShapes events := by
      rw [announcedShapes, announcedShapes, announcedShapes, ← List.flatMap_append, ← List.filterMap_append]
      rfl
    rw [hsplit, hsplit', List.mem_append, List.mem_append, ← or_assoc, ← or_assoc, ← hhidden', ← hids',
      ← hcaptured, ← hannouncedShapes]
    exact ⟨hhidden, hids⟩

/-- The receive-buffer caches of an FFN rank, over every sequence of payloads
and receives: the hidden-state cache changes only with a capturing payload and
holds one buffer per captured shape; the input-id cache also grows with eager
payloads, and holds one buffer per announced shape. A rank that is eager by
configuration, or an Attention rank, keeps none. -/
theorem receive_buffers_bounded {cfg : AFDConfig} {roleRank : Int} {hiddenSize : Nat} {dtype : Dtype}
    {enforceEager : Bool} {c : P2pNcclAFDConnector}
    (h : init cfg roleRank hiddenSize dtype enforceEager = .ok c) (events : List Event) :
    (∀ e, e.captured = none →
      ((c.run events).handle e).recvAttnBuffers = (c.run events).recvAttnBuffers) ∧
    (∀ key, key ∈ (c.run events).recvAttnBuffers.keys ↔ c.keepsBuffers ∧ key ∈ c.capturedShapes events) ∧
    (c.run events).recvAttnBuffers.entries.length ≤ (c.capturedShapes events).dedup.length ∧
    (∀ key, key ∈ (c.run events).recvAttnInputIdsBuffers.keys ↔ c.keepsBuffers ∧
      key ∈ c.announcedShapes events) ∧
    (c.run events).recvAttnInputIdsBuffers.entries.length ≤ (c.announcedShapes events).dedup.length := by
  obtain ⟨hempty, hempty'⟩ : c.recvAttnBuffers = ∅ ∧ c.recvAttnInputIdsBuffers = ∅ := by
    unfold P2pNcclAFDConnector.init at h
    split at h
    · cases h
      exact ⟨rfl, rfl⟩
    · cases h
  have hkeys : ∀ key, (key ∈ (c.run events).recvAttnBuffers.keys ↔ c.keepsBuffers ∧
      key ∈ c.capturedShapes events) ∧
      (key ∈ (c.run events).recvAttnInputIdsBuffers.keys ↔ c.keepsBuffers ∧
          key ∈ c.announcedShapes events) := by
    intro key
    by_cases hkeeps : c.keepsBuffers
    · have hrun := c.keys_run hkeeps events key
      simpa only [hempty, hempty', Dict.keys_empty, List.not_mem_nil, false_or, hkeeps, true_and] using hrun
    · have hsame : ∀ events : List Event, (c.run events).recvAttnBuffers = c.recvAttnBuffers ∧
          (c.run events).recvAttnInputIdsBuffers = c.recvAttnInputIdsBuffers := by
        intro events
        induction events using List.reverseRecOn with
        | nil => exact ⟨rfl, rfl⟩
        | append_singleton events e ih =>
          have hstep :=
            (c.run events).handle_of_not_keeps (fun hk => hkeeps ((c.keepsBuffers_run events).1.1 hk)) e
          rw [run, List.foldl_append]
          exact ⟨hstep.1.trans ih.1, hstep.2.trans ih.2⟩
      obtain ⟨hhidden, hids⟩ := hsame events
      simp [hhidden, hids, hempty, hempty', hkeeps]
  refine ⟨?_, fun key => (hkeys key).1, Dict.length_entries_le fun key hkey => (((hkeys key).1).1 hkey).2,
    fun key => (hkeys key).2, Dict.length_entries_le fun key hkey => (((hkeys key).2).1 hkey).2⟩
  intro e he
  cases e with
  | recvAttnOutput stage spec ids => rfl
  | payload payload =>
    have hcapture : payload.isGraphCapturing = false := by
      cases hc : payload.isGraphCapturing
      · rfl
      · simp [Event.captured, hc] at he
    by_cases hkeeps : (c.run events).keepsBuffers
    · simpa [handle, hcapture] using ((c.run events).buffers_update hkeeps payload).1
    · exact ((c.run events).buffers_update_of_not_keeps hkeeps payload).1

/-- A captured step of two tokens and an eager one of three. -/
theorem receive_buffers_bounded_capture_eager :
    ∃ c, init ⟨.ffn, 1, 1, false⟩ 0 16 .bfloat16 false = .ok c ∧
      (c.run [.payload ⟨(∅ : Dict Int AFDDPMetadata).set 0 ⟨[2], 2⟩, true, false, false, false⟩,
        .payload ⟨(∅ : Dict Int AFDDPMetadata).set 0 ⟨[3], 3⟩, false, false, false,
          false⟩]).recvAttnBuffers.entries.length
        ≤ 1 :=
  ⟨_, init_eq rfl, receive_buffers_bounded (init_eq rfl)
    [.payload ⟨(∅ : Dict Int AFDDPMetadata).set 0 ⟨[2], 2⟩, true, false, false, false⟩,
      .payload ⟨(∅ : Dict Int AFDDPMetadata).set 0 ⟨[3], 3⟩, false, false, false, false⟩] |>.2.2.1⟩

/-- Eager payloads of two, three and five tokens each leave an input-id
buffer. -/
theorem eager_payloads_keep_input_ids :
    ∃ c, init ⟨.ffn, 1, 1, false⟩ 0 16 .bfloat16 false = .ok c ∧
      let events : List Event := [
        .payload ⟨(∅ : Dict Int AFDDPMetadata).set 0 ⟨[2], 2⟩, false, false, false, false⟩,
        .payload ⟨(∅ : Dict Int AFDDPMetadata).set 0 ⟨[3], 3⟩, false, false, false, false⟩,
        .payload ⟨(∅ : Dict Int AFDDPMetadata).set 0 ⟨[5], 5⟩, false, false, false, false⟩]
      events.filterMap Event.captured = [] ∧ c.recvAttnInputIdsBuffers.entries.length = 0 ∧
        (c.run events).recvAttnInputIdsBuffers.entries.length = 3 :=
  ⟨_, init_eq rfl, rfl, rfl, by decide⟩

end P2pNcclAFDConnector

end AfdPlugin.P2p
