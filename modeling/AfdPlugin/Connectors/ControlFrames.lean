import AfdPlugin.Connectors.ControlPlane
import AfdPlugin.Lib.JsonText
import AfdPlugin.Worker.RoutedFfn
/-!
# Control payloads as bytes

A payload is sent as two messages, the number of its bytes and the bytes. The
receiver makes room for as many bytes as it was told, so a frame that is read
with the wrong size would shift every later one.
-/

namespace AfdPlugin.ControlFrames

open ControlPlane

/-! ## The codec -/

/-- `encode_control_payload`. -/
def encodeControlPayloadBytes (payload : AFDControlPayload) : ByteArray :=
  (Json.dumps (encodeControlPayload payload)).toUTF8

/-- `decode_control_payload`. -/
def decodeControlPayloadBytes (payloadBytes : ByteArray) : Except String AFDControlPayload :=
  match String.fromUTF8? payloadBytes with
  | none => .error "'utf-8' codec can't decode bytes: invalid start byte"
  | some text => do decodeControlPayload (← Json.loads text)

/-! ## Frames -/

/-- A tensor under way: one `long` element, or `uint8` elements. -/
inductive Message where
  | long (value : Int64)
  | uint8 (elements : ByteArray)

/-- A process group, as one sender sees it: what is under way to each rank, oldest first. -/
structure ProcessGroup where
  registered : Bool := true
  queued : Nat → List Message := fun _ => []

/-- `torch.distributed.send`. -/
def ProcessGroup.send (g : ProcessGroup) (dst : Nat) (m : Message) : ProcessGroup :=
  { g with queued := fun d => if d = dst then g.queued d ++ [m] else g.queued d }

/-- `torch.tensor([value], dtype=torch.long)`. -/
def toInt64 (value : Nat) : Except String Int64 :=
  if value < 2 ^ 63 then .ok (Int64.ofNat value) else .error "Overflow when unpacking long"

def sendControlPayload (payload : AFDControlPayload) (dsts : List Nat) (g : ProcessGroup) :
    Except String ProcessGroup := do
  let objectBytes := encodeControlPayloadBytes payload
  let size ← toInt64 objectBytes.size
  pure (dsts.foldl (fun g d => (g.send d (.long size)).send d (.uint8 objectBytes)) g)

def notRegistered : String :=
  "Group is not registered, please create group with torch.distributed.new_group API"

/-- The oldest message to `dst`. A group that is gone is reported as closed when
the receiver was closed. -/
def recvTensor (dst : Nat) (checkClosed : Except String Unit) (g : ProcessGroup) :
    Except String (Message × ProcessGroup) :=
  if ¬ g.registered then
    match checkClosed with
    | .error e => .error e
    | .ok () => .error notRegistered
  else
    match g.queued dst with
    | [] => .error "no message"
    | m :: rest => .ok (m, { g with queued := fun d => if d = dst then rest else g.queued d })

/-- `recv_control_payload` at rank `dst`. A message must have the type and the
number of elements of the tensor it is received into. -/
def recvControlPayload (dst : Nat) (checkClosed : Except String Unit) (g : ProcessGroup) :
    Except String (AFDControlPayload × ProcessGroup) := do
  let (sizeTensor, g) ← recvTensor dst checkClosed g
  match sizeTensor with
  | .uint8 _ => .error "message type mismatch"
  | .long rawSize => do
    checkClosed
    if rawSize < 0 then .error "Trying to create tensor with negative dimension"
    else do
      let (objectTensor, g) ← recvTensor dst checkClosed g
      match objectTensor with
      | .long _ => .error "message type mismatch"
      | .uint8 elements =>
        if elements.size ≠ rawSize.toNatClampNeg then .error "message size mismatch"
        else do
          checkClosed
          return (← decodeControlPayloadBytes elements, g)

/-! ## Runs -/

/-- What can happen next: a payload is sent, or one rank receives. -/
inductive Action where
  | send (payload : AFDControlPayload) (dsts : List Nat)
  | recv (dst : Nat)

/-- The group, and what each rank has received, oldest first. -/
structure Run where
  group : ProcessGroup := {}
  received : Nat → List AFDControlPayload := fun _ => []

def Run.step (r : Run) : Action → Except String Run
  | .send payload dsts => do
    let group ← sendControlPayload payload dsts r.group
    pure { r with group := group }
  | .recv dst => do
    let (payload, group) ← recvControlPayload dst (.ok ()) r.group
    pure { group := group, received := fun d => if d = dst then r.received d ++ [payload] else r.received d }

/-- The payloads that are sent to a rank, once for each time it is named. -/
def sentTo (dst : Nat) (actions : List Action) : List AFDControlPayload :=
  actions.flatMap fun
    | .send payload dsts => List.replicate (dsts.count dst) payload
    | .recv _ => []

/-! ## One payload -/

theorem distinctKeys_stagePayload (md : AFDDPMetadata) : Json.DistinctKeys (.object (stagePayload md)) := by
  apply Json.distinctKeys_object (nodup_stagePayload md)
  intro f hf
  simp only [stagePayload, List.mem_cons, List.not_mem_nil, or_false] at hf
  rcases hf with rfl | rfl
  · apply Json.DistinctKeys.arr
    intro j hj
    obtain ⟨n, -, rfl⟩ := List.mem_map.1 hj
    exact .int n
  · exact .int _

theorem distinctKeys_encode (payload : AFDControlPayload) :
    Json.DistinctKeys (encodeControlPayload payload) := by
  apply Json.distinctKeys_object (nodup_wirePayload payload)
  intro f hf
  simp only [AfdPlugin.wirePayload, List.mem_cons, List.not_mem_nil, or_false] at hf
  rcases hf with rfl | rfl | rfl | rfl | rfl
  · apply Json.distinctKeys_object
    · rw [List.map_map]
      -- distinct stages have distinct decimal names
      have hinj : Function.Injective fun e : Int => toString e := by
        intro a b h
        have ha := Json.parseInt_toString a
        rw [show toString a = toString b from h, Json.parseInt_toString b] at ha
        exact (Except.ok.inj ha).symm
      have hkeys := payload.dpMetadataList.nodup.map hinj
      rwa [List.map_map] at hkeys
    · intro g hg
      obtain ⟨e, -, rfl⟩ := List.mem_map.1 hg
      exact distinctKeys_stagePayload e.2
  all_goals exact .bool _

theorem fromUTF8_toUTF8 (text : String) : String.fromUTF8? text.toUTF8 = some text := by
  simp [String.fromUTF8?, String.fromUTF8, text.isValidUTF8]

/-- Decoding the bytes gives the payload back. -/
theorem decodeControlPayloadBytes_encode (payload : AFDControlPayload) :
    ∃ received, decodeControlPayloadBytes (encodeControlPayloadBytes payload) = .ok received ∧
      Delivered payload received := by
  obtain ⟨d, hperm, hdecode⟩ := decodeControlPayload_encode payload
  refine ⟨{ payload with dpMetadataList := d }, ?_, hperm, rfl⟩
  rw [decodeControlPayloadBytes, encodeControlPayloadBytes, fromUTF8_toUTF8]
  dsimp only
  rw [Json.loads_dumps (distinctKeys_encode payload), Fallible.ok_bind, hdecode]

/-- The stages as the runners' loops and graph keys meet them: by increasing
index, each with its counts. -/
def iterated (payload : AFDControlPayload) : List (Int × Option AFDDPMetadata) :=
  (RoutedFfn.stageIds payload.dpMetadataList).map fun stage => (stage, payload.dpMetadataList.get? stage)

theorem stageIds_of_perm {d d' : Dict Int AFDDPMetadata} (h : d.entries.Perm d'.entries) :
    RoutedFfn.stageIds d = RoutedFfn.stageIds d' := by
  have hsorted : d.keys.insertionSort (· ≤ ·) = d'.keys.insertionSort (· ≤ ·) :=
    List.Perm.eq_of_pairwise (fun a b _ _ hab hba => le_antisymm hab hba) (List.pairwise_insertionSort _ _)
      (List.pairwise_insertionSort _ _)
      (((List.perm_insertionSort _ _).trans (h.map Prod.fst)).trans (List.perm_insertionSort _ _).symm)
  unfold RoutedFfn.stageIds
  rw [hsorted]

theorem iterated_of_delivered {payload received : AFDControlPayload} (h : Delivered payload received) :
    iterated received = iterated payload := by
  unfold iterated
  rw [stageIds_of_perm h.1]
  simp only [Dict.get?_eq_of_perm h.1]

/-- The P2P connector's loop over the stages in arrival order leaves the same
shapes as over the stages as they were sent. -/
theorem p2p_update_of_delivered {payload received : AFDControlPayload} (h : Delivered payload received)
    (c : P2p.P2pNcclAFDConnector) :
    (∀ stage, (c.updateStateFromDpMetadata received).tensorMetadataList.get? stage =
        (c.updateStateFromDpMetadata payload).tensorMetadataList.get? stage) ∧
      ∀ key, (c.updateStateFromDpMetadata received).recvAttnTensorMetadataList.get? key =
        (c.updateStateFromDpMetadata payload).recvAttnTensorMetadataList.get? key := by
  constructor
  · intro stage
    rw [P2p.P2pNcclAFDConnector.tensorMetadataList_update,
      P2p.P2pNcclAFDConnector.tensorMetadataList_update, Dict.get?_eq_of_perm h.1]
  · intro key
    obtain ⟨b, i, hr⟩ := c.updateStateFromDpMetadata_eq received
    obtain ⟨b', i', hp⟩ := c.updateStateFromDpMetadata_eq payload
    rw [hr, hp]
    dsimp only
    split
    · exact Dict.get?_eq_of_perm (Dict.entries_setAll_perm (h.1.flatMap_right _)
        (c.nodup_keys_flatMap_stagePeers received.dpMetadataList.nodup)) key
    · rfl

/-- So does the CAMP2P connector's. -/
theorem physicalPayload_of_delivered {payload received phys : AFDControlPayload}
    (h : Delivered payload received) {c : Camp2p.CAMP2pAFDConnector}
    (hphys : c.physicalPayload payload = .ok phys) :
    ∃ phys', c.physicalPayload received = .ok phys' ∧ Delivered phys phys' := by
  have hlen : received.dpMetadataList.entries.length = payload.dpMetadataList.entries.length :=
    h.1.length_eq
  unfold Camp2p.CAMP2pAFDConnector.physicalPayload at hphys ⊢
  rw [hlen]
  split
  · rename_i hcond
    rw [if_pos hcond] at hphys
    cases hphys
    exact ⟨received, rfl, h⟩
  · rename_i hcond
    rw [if_neg hcond] at hphys
    cases hm : payload.dpMetadataList.entries.mapM c.physicalStage with
    | error e =>
      rw [hm] at hphys
      cases hphys
    | ok stages =>
      rw [hm] at hphys
      cases hphys
      obtain ⟨stages', hm', hperm⟩ := Fallible.mapM_perm h.1.symm hm
      have hkey : ∀ x y, c.physicalStage x = .ok y → y.1 = x.1 := by
        intro x y hxy
        unfold Camp2p.CAMP2pAFDConnector.physicalStage at hxy
        cases hc : Camp2p.physicalCounts c.attnSize c.ffnSize c.ratio x.2.numTokensAcrossDpCpu with
        | error e =>
          rw [hc] at hxy
          cases hxy
        | ok counts =>
          cases hn : AFDDPMetadata.new counts none with
          | error e =>
            rw [hc, Fallible.ok_bind, hn] at hxy
            cases hxy
          | ok md =>
            rw [hc, Fallible.ok_bind, hn] at hxy
            cases hxy
            rfl
      have hnodup : (stages'.map Prod.fst).Nodup := by
        rw [Fallible.map_fst_mapM hkey hm']
        exact received.dpMetadataList.nodup
      refine ⟨{ received with dpMetadataList := Dict.setAll ∅ stages' }, by rw [hm']; rfl, ?_, ?_⟩
      · exact Dict.entries_setAll_perm hperm.symm hnodup
      · rw [h.2]

/-- What the receiver has is the payload that was sent, and no consumer can tell
in which order its stages came. -/
structure Preserved (payload received : AFDControlPayload) : Prop where
  delivered : Delivered payload received
  iterated : iterated received = iterated payload
  p2p : ∀ c : P2p.P2pNcclAFDConnector,
    (∀ stage, (c.updateStateFromDpMetadata received).tensorMetadataList.get? stage =
        (c.updateStateFromDpMetadata payload).tensorMetadataList.get? stage) ∧
      ∀ key, (c.updateStateFromDpMetadata received).recvAttnTensorMetadataList.get? key =
        (c.updateStateFromDpMetadata payload).recvAttnTensorMetadataList.get? key
  camp2p : ∀ (c : Camp2p.CAMP2pAFDConnector) phys, c.physicalPayload payload = .ok phys →
    ∃ phys', c.physicalPayload received = .ok phys' ∧ Delivered phys phys'

theorem preserved_of_delivered {payload received : AFDControlPayload} (h : Delivered payload received) :
    Preserved payload received :=
  ⟨h, iterated_of_delivered h, p2p_update_of_delivered h, fun _ _ => physicalPayload_of_delivered h⟩

/-! ## One frame -/

/-- The two messages of a payload. -/
def frame (payload : AFDControlPayload) : List Message :=
  [.long (Int64.ofNat (encodeControlPayloadBytes payload).size), .uint8 (encodeControlPayloadBytes payload)]

/-- The size of a payload's bytes fits the `long` that announces it. -/
def Announceable (payload : AFDControlPayload) : Prop := (encodeControlPayloadBytes payload).size < 2 ^ 63

@[simp] theorem send_registered (g : ProcessGroup) (dst : Nat) (m : Message) :
    (g.send dst m).registered = g.registered := rfl

theorem queued_sends (payload : AFDControlPayload) (dsts : List Nat) (g : ProcessGroup) (d : Nat) :
    let g' := dsts.foldl
      (fun g d => (g.send d (.long (Int64.ofNat (encodeControlPayloadBytes payload).size))).send d
      (.uint8 (encodeControlPayloadBytes payload))) g
    g'.registered = g.registered ∧
      g'.queued d = g.queued d ++ (List.replicate (dsts.count d) payload).flatMap frame := by
  induction dsts generalizing g with
  | nil => simp
  | cons e dsts ih =>
    obtain ⟨hreg, hqueue⟩ :=
      ih ((g.send e (.long (Int64.ofNat (encodeControlPayloadBytes payload).size))).send e
        (.uint8 (encodeControlPayloadBytes payload)))
    dsimp only at hreg hqueue ⊢
    rw [List.foldl_cons, hreg, hqueue, List.count_cons]
    refine ⟨rfl, ?_⟩
    by_cases hd : d = e
    · subst hd
      simp [ProcessGroup.send, List.replicate_succ, frame]
    · have hed : ¬ e = d := fun h => hd h.symm
      simp [ProcessGroup.send, hd, hed]

/-- Sending queues one frame for each time a rank is named. -/
theorem sendControlPayload_eq {payload : AFDControlPayload} {dsts : List Nat} {g g' : ProcessGroup}
    (h : sendControlPayload payload dsts g = .ok g') :
    Announceable payload ∧ g'.registered = g.registered ∧
      ∀ d, g'.queued d = g.queued d ++ (List.replicate (dsts.count d) payload).flatMap frame := by
  unfold sendControlPayload at h
  dsimp only at h
  by_cases hsize : (encodeControlPayloadBytes payload).size < 2 ^ 63
  · rw [toInt64, if_pos hsize, Fallible.ok_bind] at h
    cases h
    exact ⟨hsize, (queued_sends payload dsts g 0).1, fun d => (queued_sends payload dsts g d).2⟩
  · rw [toInt64, if_neg hsize] at h
    cases h

theorem exists_sendControlPayload {payload : AFDControlPayload} (h : Announceable payload) (dsts : List Nat)
    (g : ProcessGroup) : ∃ g', sendControlPayload payload dsts g = .ok g' := by
  unfold sendControlPayload
  dsimp only
  rw [toInt64, if_pos (show (encodeControlPayloadBytes payload).size < 2 ^ 63 from h), Fallible.ok_bind]
  exact ⟨_, rfl⟩

/-- Receiving takes exactly the oldest frame and decodes it. -/
theorem recvControlPayload_frame {payload : AFDControlPayload} (h : Announceable payload)
    {g : ProcessGroup} {dst : Nat} (hreg : g.registered = true) {rest : List Message}
    (hqueue : g.queued dst = frame payload ++ rest) :
    ∃ received, Delivered payload received ∧
      recvControlPayload dst (.ok ()) g =
        .ok (received, { g with queued := fun d => if d = dst then rest else g.queued d }) := by
  obtain ⟨received, hdecode, hdelivered⟩ := decodeControlPayloadBytes_encode payload
  refine ⟨received, hdelivered, ?_⟩
  have hsize : (Int64.ofNat (encodeControlPayloadBytes payload).size).toNatClampNeg =
      (encodeControlPayloadBytes payload).size := Int64.toNatClampNeg_ofNat_of_lt h
  have hnonneg : ¬ Int64.ofNat (encodeControlPayloadBytes payload).size < 0 := by
    rw [Int64.lt_iff_toInt_lt, Int64.toInt_ofNat_of_lt h, Int64.toInt_zero]
    omega
  have hqueue' : g.queued dst = .long (Int64.ofNat (encodeControlPayloadBytes payload).size) ::
      .uint8 (encodeControlPayloadBytes payload) :: rest := hqueue
  unfold recvControlPayload recvTensor
  simp only [hreg, not_true, if_false, hqueue', Fallible.ok_bind, hnonneg, if_true, hsize, ne_eq, hdecode]
  have hqueues : (fun d => if d = dst then rest else
      if d = dst then Message.uint8 (encodeControlPayloadBytes payload) :: rest else g.queued d) =
        fun d => if d = dst then rest else g.queued d := by
    funext d
    split <;> rfl
  rw [hqueues]
  rfl

/-! ## Runs -/

/-- Between a sender and one rank: what was received is what was sent first,
and what is under way are the frames of the rest. -/
structure InStep (r : Run) (sent : List AFDControlPayload) (dst : Nat) : Prop where
  registered : r.group.registered = true
  received_le : (r.received dst).length ≤ sent.length
  received : List.Forall₂ Delivered (sent.take (r.received dst).length) (r.received dst)
  queued : r.group.queued dst = (sent.drop (r.received dst).length).flatMap frame
  announceable : ∀ p ∈ sent, Announceable p

theorem inStep_init (dst : Nat) : InStep {} [] dst := ⟨rfl, le_rfl, .nil, rfl, by simp⟩

/-- A rank that is behind receives the oldest payload it has not seen. -/
theorem InStep.recv {r : Run} {sent : List AFDControlPayload} {dst : Nat} (h : InStep r sent dst)
    (hlt : (r.received dst).length < sent.length) :
    ∃ r', r.step (.recv dst) = .ok r' ∧ InStep r' sent dst ∧ r'.group.registered = true ∧
      (r'.received dst).length = (r.received dst).length + 1 ∧
      ∀ d, d ≠ dst → r'.received d = r.received d ∧ r'.group.queued d = r.group.queued d := by
  have hdrop : sent.drop (r.received dst).length =
    sent[(r.received dst).length] :: sent.drop ((r.received dst).length + 1) :=
    List.drop_eq_getElem_cons hlt
  have hqueue := h.queued
  rw [hdrop, List.flatMap_cons] at hqueue
  obtain ⟨received, hdelivered, hrecv⟩ := recvControlPayload_frame
    (h.announceable _ (List.getElem_mem hlt)) h.registered hqueue
  let r' : Run := {
    group := { r.group with queued := fun d =>
      if d = dst then (sent.drop ((r.received dst).length + 1)).flatMap frame else r.group.queued d }
    received := fun d => if d = dst then r.received d ++ [received] else r.received d }
  have hstep : r.step (.recv dst) = .ok r' := by
    rw [Run.step, hrecv]
    rfl
  have hreceived : r'.received dst = r.received dst ++ [received] := if_pos rfl
  have hlen : (r'.received dst).length = (r.received dst).length + 1 := by
    rw [hreceived, List.length_append]; rfl
  refine ⟨r', hstep, ⟨h.registered, ?_, ?_, ?_, h.announceable⟩, h.registered, hlen, ?_⟩
  · omega
  · rw [hlen, hreceived, List.take_succ_eq_append_getElem hlt]
    exact List.rel_append h.received (.cons hdelivered .nil)
  · rw [hlen]
    exact if_pos rfl
  · intro d hd
    exact ⟨if_neg hd, if_neg hd⟩

/-- A receive of a rank that has seen everything finds no message. -/
theorem recv_error {r : Run} {dst : Nat} (hreg : r.group.registered = true)
    (hqueue : r.group.queued dst = []) :
    r.step (.recv dst) = .error "no message" := by
  rw [Run.step, recvControlPayload, recvTensor]
  simp only [hreg, not_true, if_false, hqueue]
  rfl

theorem InStep.step {r r' : Run} {sent : List AFDControlPayload} {dst : Nat} {a : Action}
    (h : InStep r sent dst) (hother : ∀ d, ∃ sent', InStep r sent' d) (hstep : r.step a = .ok r') :
    InStep r' (sent ++ sentTo dst [a]) dst := by
  cases a with
  | send payload dsts =>
    rw [Run.step] at hstep
    cases hsend : sendControlPayload payload dsts r.group with
    | error e =>
      rw [hsend] at hstep
      cases hstep
    | ok g =>
      rw [hsend] at hstep
      cases hstep
      obtain ⟨hsize, hreg, hqueue⟩ := sendControlPayload_eq hsend
      have hsent : sentTo dst [.send payload dsts] = List.replicate (dsts.count dst) payload := by
        simp [sentTo]
      have hle := h.received_le
      rw [hsent]
      refine ⟨hreg.trans h.registered, ?_, ?_, ?_, ?_⟩
      · rw [List.length_append]
        exact Nat.le_add_right_of_le hle
      · dsimp only
        rw [List.take_append_of_le_length hle]
        exact h.received
      · dsimp only
        rw [hqueue, h.queued, List.drop_append_of_le_length hle, List.flatMap_append]
      · intro p hp
        rcases List.mem_append.1 hp with hp | hp
        · exact h.announceable p hp
        · exact List.eq_of_mem_replicate hp ▸ hsize
  | recv d =>
    have hsent : sentTo dst [.recv d] = [] := rfl
    rw [hsent, List.append_nil]
    obtain ⟨sent', hd⟩ := hother d
    by_cases hlt : (r.received d).length < sent'.length
    · obtain ⟨r'', hstep', hin, hreg, -, hframe⟩ := hd.recv hlt
      obtain rfl := Except.ok.inj (hstep'.symm.trans hstep)
      by_cases heq : dst = d
      · subst heq
        have hlt' : (r.received dst).length < sent.length := by
          by_contra hge
          have hnone : r.group.queued dst = [] := by
            rw [h.queued, List.drop_eq_nil_of_le (not_lt.1 hge)]; rfl
          rw [recv_error h.registered hnone] at hstep
          cases hstep
        obtain ⟨r₁, hstep₁, hin₁, -⟩ := h.recv hlt'
        exact Except.ok.inj (hstep₁.symm.trans hstep) ▸ hin₁
      · obtain ⟨hreceived, hqueue⟩ := hframe dst heq
        exact ⟨hreg, by rw [hreceived]; exact h.received_le, by rw [hreceived]; exact h.received,
          by rw [hreceived, hqueue]; exact h.queued, h.announceable⟩
    · have hnone : r.group.queued d = [] := by rw [hd.queued, List.drop_eq_nil_of_le (not_lt.1 hlt)]; rfl
      rw [recv_error hd.registered hnone] at hstep
      cases hstep

theorem inStep_run {actions : List Action} {r : Run} (h : actions.foldlM Run.step {} = .ok r) (dst : Nat) :
    InStep r (sentTo dst actions) dst := by
  induction actions using List.reverseRecOn generalizing r dst with
  | nil =>
    cases h
    exact inStep_init dst
  | append_singleton actions a ih =>
    rw [List.foldlM_append] at h
    cases hr : actions.foldlM Run.step {} with
    | error e =>
      rw [hr] at h
      cases h
    | ok r' =>
      rw [hr, Fallible.ok_bind, List.foldlM_cons] at h
      have hstep : r'.step a = .ok r := by
        cases hs : r'.step a with
        | error e =>
          rw [hs] at h
          cases h
        | ok r'' =>
          rw [hs] at h
          exact h
      have hsent : sentTo dst (actions ++ [a]) = sentTo dst actions ++ sentTo dst [a] := by simp [sentTo]
      rw [hsent]
      exact (ih hr dst).step (fun d => ⟨_, ih hr d⟩) hstep

/-- The control payload codec. Decoding the bytes of a payload gives it back,
and in any interleaving of sends with the receives of any ranks, the `k`-th
payload that a rank receives is the `k`-th that was sent to it; what it has not
received is under way as whole frames, and it can receive the next one. -/
theorem control_payload_codec :
    (∀ payload, ∃ received, decodeControlPayloadBytes (encodeControlPayloadBytes payload) = .ok received ∧
      Preserved payload received) ∧
    (∀ payload, Announceable payload → ∀ dsts g, ∃ g', sendControlPayload payload dsts g = .ok g') ∧
    ∀ actions r, actions.foldlM Run.step {} = .ok r → ∀ dst,
      (r.received dst).length ≤ (sentTo dst actions).length ∧
      (∀ (k : Nat) received, (r.received dst)[k]? = some received →
        ∃ payload, (sentTo dst actions)[k]? = some payload ∧ Preserved payload received) ∧
      r.group.queued dst = ((sentTo dst actions).drop (r.received dst).length).flatMap frame ∧
      ((r.received dst).length < (sentTo dst actions).length → ∃ r', r.step (.recv dst) = .ok r') := by
  refine ⟨?_, fun payload h dsts g => exists_sendControlPayload h dsts g, ?_⟩
  · intro payload
    obtain ⟨received, hdecode, hdelivered⟩ := decodeControlPayloadBytes_encode payload
    exact ⟨received, hdecode, preserved_of_delivered hdelivered⟩
  · intro actions r hrun dst
    have h := inStep_run hrun dst
    refine ⟨h.received_le, ?_, h.queued, ?_⟩
    · intro k received hk
      obtain ⟨hlt, rfl⟩ := List.getElem?_eq_some_iff.1 hk
      have hlt' : k < (sentTo dst actions).length := lt_of_lt_of_le hlt h.received_le
      have hget := (List.forall₂_iff_get.1 h.received).2 k (by rw [List.length_take]; omega) hlt
      simp only [List.get_eq_getElem, List.getElem_take] at hget
      exact ⟨_, List.getElem?_eq_getElem hlt', preserved_of_delivered hget⟩
    · intro hlt
      obtain ⟨r', hstep, -⟩ := h.recv hlt
      exact ⟨r', hstep⟩

/-- The stages 10 and 2: their names sort the other way round. -/
def twoStages : AFDControlPayload :=
  ⟨Dict.setAll ∅ [(2, ⟨[4, 4, -4], 4⟩), (10, ⟨[5, 5, 5], 7⟩)], false, true, true, false⟩

theorem announceable_twoStages : Announceable twoStages := by
  unfold Announceable
  decide +kernel

theorem control_payload_codec_two_stages : ∃ r received,
    [Action.send twoStages [0, 1], .send twoStages [0], .recv 0].foldlM Run.step {} = .ok r ∧
      (r.received 0)[0]? = some received ∧ Preserved twoStages received := by
  obtain ⟨g, hg⟩ := exists_sendControlPayload announceable_twoStages [0, 1] {}
  obtain ⟨g', hg'⟩ := exists_sendControlPayload announceable_twoStages [0] g
  have hsends : [Action.send twoStages [0, 1], .send twoStages [0]].foldlM Run.step {} =
      .ok { group := g' } := by
    rw [List.foldlM_cons, Run.step, hg, Fallible.ok_bind]
    simp only [List.foldlM_cons, Run.step, hg', Fallible.ok_bind, List.foldlM_nil, pure, Except.pure]
  obtain ⟨r, hrecv, -, -, hlen, -⟩ := (inStep_run hsends 0).recv (Nat.succ_pos _)
  have hrun : [Action.send twoStages [0, 1], .send twoStages [0], .recv 0].foldlM Run.step {} = .ok r := by
    have happend : [Action.send twoStages [0, 1], .send twoStages [0], .recv 0] =
        [Action.send twoStages [0, 1], .send twoStages [0]] ++ [.recv 0] := rfl
    rw [happend, List.foldlM_append, hsends, Fallible.ok_bind, List.foldlM_cons, hrecv]
    rfl
  have hzero : 0 < (r.received 0).length := by omega
  obtain ⟨payload, hpayload, hpreserved⟩ := (control_payload_codec.2.2 _ r hrun 0).2.1 0 _
    (List.getElem?_eq_getElem hzero)
  cases hpayload
  exact ⟨r, _, hrun, List.getElem?_eq_getElem hzero, hpreserved⟩

end AfdPlugin.ControlFrames
