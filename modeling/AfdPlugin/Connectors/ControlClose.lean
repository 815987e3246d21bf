import AfdPlugin.Connectors.ControlFrames
/-!
# Closing the control plane during a receive

An FFN rank waits for control payloads on a thread of its own. The thread that
stops the worker closes the control plane, which aborts the process group under
the receive: the receive may then raise, or end with whatever its buffers hold. It
checks the close after each wait.
-/

namespace AfdPlugin.ControlClose

open ControlFrames

/-! ## Data -/

/-- The GPU connectors, which have a control plane of their own each. -/
inductive Kind where
  | p2p
  | deepep
  deriving DecidableEq, Repr

def Kind.closedMessage : Kind → String
  | .p2p => "P2P metadata control plane is closed"
  | .deepep => "DeepEPM2N control plane is closed"

def Kind.notInitialized : Kind → String
  | .p2p => "P2P DP metadata process group is not initialized"
  | .deepep => "DeepEPM2N control plane is not initialized"

/-- What `torch.distributed` and the device raise. -/
inductive TransportError where
  | valueError (message : String)
  | runtimeError (message : String)
  deriving DecidableEq, Repr

inductive Exn where
  /-- `AFDControlPlaneClosedError` -/
  | closed (message : String)
  | transport (error : TransportError)
  | runtimeError (message : String)
  | decode (message : String)
  deriving DecidableEq, Repr

/-- Torch's lookup of a group that is gone. -/
def TransportError.isUnregistered : TransportError → Bool
  | .valueError message =>
    "Group ".toList.isPrefixOf
      message.toList &&
      "is not registered, please create group with torch.distributed.new_group API".toList.isSuffixOf
      message.toList
  | .runtimeError _ => false

/-- The next statement of `close`. -/
inductive CloserPc where
  | setClosed
  | readGroup
  | abortGroup
  | clearGroup
  deriving DecidableEq, Repr

/-- The next statement of `recv_dp_metadata_list`, with the values that it uses. -/
inductive ReceiverPc where
  | readGroup
  | checkFirst (group : Bool)
  | requireGroup (group : Bool)
  | recvSize
  | waitSize (rankSize : Nat)
  | checkSize (rankSize : Nat) (rawSize : Int64)
  | allocate (rankSize : Nat) (rawSize : Int64)
  | recvObject (rankSize : Nat)
  | compareRanks (rankSize rankObject : Nat)
  | copyObject
  | checkObject (objectBytes : ByteArray)
  | decode (objectBytes : ByteArray)
  /-- `recv_tensor` has caught an error of torch's lookup. -/
  | unregistered (error : TransportError)
  /-- DeepEP's `except Exception`. -/
  | handle (error : Exn)
  | done (result : Except Exn AFDControlPayload)

/-- An error that the transport raised in a call. -/
structure Failure where
  error : TransportError
  /-- In `torch.distributed.recv`, and not in a wait for the device. -/
  inRecv : Bool
  becauseOfClose : Bool
  deriving DecidableEq, Repr

/-- A call of `recv_dp_metadata_list`, and what has happened in it. -/
structure Receiver where
  pc : ReceiverPc
  /-- The control plane was closed when the call began. -/
  startedClosed : Bool := false
  /-- The call has seen that the control plane is closed. -/
  observed : Bool := false
  /-- A wait ended without the message. -/
  torn : Bool := false
  /-- The connector had no group. -/
  noGroup : Bool := false
  failure : Option Failure := none

/-- The connector with its two threads. -/
structure Sys where
  kind : Kind
  /-- Whether `init_afd_connector` made the group. -/
  initialized : Bool
  /-- The rank that sends the payloads. -/
  src : Nat
  closed : Bool := false
  group : Bool
  /-- The abort has begun, and the transport may fail because of it. -/
  aborted : Bool := false
  closer : CloserPc := .setClosed
  receiver : Receiver

def start (kind : Kind) (initialized : Bool) (src : Nat) : Sys where
  kind := kind
  initialized := initialized
  src := src
  group := initialized
  receiver := { pc := .readGroup }

/-! ## Steps -/

/-- `close`. It may be called again. -/
def Sys.closeStep (s : Sys) : Sys :=
  match s.closer with
  | .setClosed => { s with closed := true, closer := .readGroup }
  | .readGroup => { s with closer := if s.group then .abortGroup else .setClosed }
  | .abortGroup => { s with aborted := true, closer := .clearGroup }
  | .clearGroup => { s with group := false, closer := .setClosed }

def Sys.goto (s : Sys) (pc : ReceiverPc) : Sys := { s with receiver := { s.receiver with pc := pc } }

def Kind.closedError (kind : Kind) : Except Exn AFDControlPayload := .error (.closed kind.closedMessage)

/-- `_check_closed`, as a statement or in a handler: `next` follows if the
control plane is open. -/
def Sys.checkClosed (s : Sys) (next : Sys) : Sys :=
  if s.closed then
    { s with receiver := { s.receiver with observed := true, pc := .done s.kind.closedError } }
    else next

/-- An exception leaves `recv_control_payload`. -/
def Sys.raise (s : Sys) (e : Exn) : Sys :=
  match s.kind with
  | .p2p => s.goto (.done (.error e))
  | .deepep => s.goto (.handle e)

def Sys.fail (s : Sys) (error : TransportError) (inRecv becauseOfClose : Bool) : Sys :=
  let s := { s with receiver := { s.receiver with failure := some ⟨error, inRecv, becauseOfClose⟩ } }
  if inRecv && error.isUnregistered then s.goto (.unregistered error) else s.raise (.transport error)

def Sys.tear (s : Sys) (torn : Bool) : Sys :=
  { s with receiver := { s.receiver with torn := s.receiver.torn || torn } }

/-- What the scheduler and the transport do next. -/
inductive Event where
  | close
  /-- A statement of the receiver that does not use the transport. -/
  | receiver
  /-- `torch.distributed.recv` returns. -/
  | received
  /-- `size_tensor.item()`. -/
  | size (rawSize : Int64) (torn : Bool)
  /-- `object_tensor.cpu()`. -/
  | object (objectBytes : ByteArray) (torn : Bool)
  | raises (error : TransportError) (becauseOfClose : Bool)

/-- Only an abort tears a message or makes the transport fail because of it. -/
def Event.Allowed (s : Sys) : Event → Bool
  | .size _ torn | .object _ torn => !torn || s.aborted
  | .raises _ becauseOfClose => !becauseOfClose || s.aborted
  | _ => true

/-- A statement of the receiver on its own. A call that is done is followed by the next one. -/
def Sys.receiverStep (s : Sys) : Option Sys :=
  match s.receiver.pc with
  | .readGroup => some (s.goto (.checkFirst s.group))
  | .checkFirst group => some (s.checkClosed (s.goto (.requireGroup group)))
  | .requireGroup group =>
    if group then some (s.goto .recvSize)
    else some { s with receiver := { s.receiver with
      noGroup := true, pc := .done (.error (.runtimeError s.kind.notInitialized)) } }
  | .checkSize rankSize rawSize => some (s.checkClosed (s.goto (.allocate rankSize rawSize)))
  | .allocate rankSize rawSize =>
    if rawSize < 0 then
      some (s.raise
        (.runtimeError s!"Trying to create tensor with negative dimension {rawSize}: [{rawSize}]"))
    else some (s.goto (.recvObject rankSize))
  | .compareRanks rankSize rankObject =>
    if rankObject ≠ rankSize then
      some (s.raise (.runtimeError "received AFD DP metadata fragments from different ranks"))
    else some (s.goto .copyObject)
  | .checkObject objectBytes => some (s.checkClosed (s.goto (.decode objectBytes)))
  | .decode objectBytes =>
    match decodeControlPayloadBytes objectBytes with
    | .ok payload => some (s.goto (.done (.ok payload)))
    | .error message => some (s.raise (.decode message))
  | .unregistered error => some (s.checkClosed (s.raise (.transport error)))
  | .handle e => some (s.checkClosed (s.goto (.done (.error e))))
  | .done _ => some { s with receiver := { pc := .readGroup, startedClosed := s.closed } }
  | _ => none

def Sys.step (s : Sys) (event : Event) : Option Sys :=
  if event.Allowed s then
    match event, s.receiver.pc with
    | .close, _ => some s.closeStep
    | .receiver, _ => s.receiverStep
    | .received, .recvSize => some (s.goto (.waitSize s.src))
    | .received, .recvObject rankSize => some (s.goto (.compareRanks rankSize s.src))
    | .size rawSize torn, .waitSize rankSize => some ((s.tear torn).goto (.checkSize rankSize rawSize))
    | .object objectBytes torn, .copyObject => some ((s.tear torn).goto (.checkObject objectBytes))
    | .raises error becauseOfClose, .recvSize => some (s.fail error true becauseOfClose)
    | .raises error becauseOfClose, .recvObject _ => some (s.fail error true becauseOfClose)
    | .raises error becauseOfClose, .waitSize _ => some (s.fail error false becauseOfClose)
    | .raises error becauseOfClose, .copyObject => some (s.fail error false becauseOfClose)
    | _, _ => none
  else none

/-- An interleaving of closes and receives. -/
def run (s : Sys) (events : List Event) : Option Sys := events.foldlM Sys.step s

/-! ## What a call knows -/

/-- How a call that is done has ended. -/
structure Finished (kind : Kind) (initialized closed : Bool) (r : Receiver)
    (result : Except Exn AFDControlPayload) :
    Prop where
  observed : r.observed = true → result = kind.closedError
  startedClosed : r.startedClosed = true → result = kind.closedError
  payload : ∀ payload, result = .ok payload → r.observed = false ∧ r.torn = false ∧ r.failure = none
  failed : ∀ f, r.failure = some f → f.becauseOfClose = true →
    (result = kind.closedError ↔ kind = .deepep ∨ f.inRecv = true ∧ f.error.isUnregistered = true) ∧
      (result = kind.closedError ∨ result = .error (.transport f.error))
  noGroup : r.noGroup = true → initialized = false
  closed : result = kind.closedError → closed = true

/-- Nothing has gone wrong in the call so far. -/
structure Quiet (r : Receiver) : Prop where
  observed : r.observed = false
  noGroup : r.noGroup = false
  failure : r.failure = none

/-- The failure that an exception under way came with. -/
structure Raised (closed : Bool) (r : Receiver) (f : Failure) : Prop where
  failure : r.failure = some f
  observed : r.observed = false
  noGroup : r.noGroup = false
  startedClosed : r.startedClosed = false
  becauseOfClose : f.becauseOfClose = true → closed = true

def PcInv (kind : Kind) (initialized closed : Bool) (r : Receiver) : Prop :=
  match r.pc with
  | .readGroup => Quiet r ∧ r.torn = false ∧ (r.startedClosed = true → closed = true)
  | .checkFirst group => Quiet r ∧ r.torn = false ∧ (r.startedClosed = true → closed = true) ∧
      (group = false → initialized = false ∨ closed = true)
  | .requireGroup group =>
    Quiet r ∧ r.torn = false ∧ r.startedClosed = false ∧ (group = false → initialized = false)
  | .checkSize _ _ | .checkObject _ => Quiet r ∧ (r.torn = true → closed = true) ∧ r.startedClosed = false
  | .unregistered error =>
    ∃ f, Raised closed r f ∧ f.error = error ∧ f.inRecv = true ∧ error.isUnregistered = true
  | .handle e => kind = .deepep ∧
      ((Quiet r ∧ r.startedClosed = false ∧ ∀ message, e ≠ .closed message) ∨ ∃ f, Raised closed r f ∧
        e = .transport f.error)
  | .done result => Finished kind initialized closed r result
  | _ => Quiet r ∧ r.torn = false ∧ r.startedClosed = false

/-- What the closer's fields mean: the flag is set before anything else. -/
structure Flagged (s : Sys) : Prop where
  aborted : s.aborted = true → s.closed = true
  closer : s.closer ≠ .setClosed → s.closed = true
  group : s.group = false → s.initialized = false ∨ s.closed = true

structure Inv (s : Sys) : Prop extends Flagged s where
  receiver : PcInv s.kind s.initialized s.closed s.receiver

section Steps
variable {s : Sys}

theorem Raised.close {closed : Bool} {r : Receiver} {f : Failure} (h : Raised closed r f) :
    Raised true r f :=
  ⟨h.failure, h.observed, h.noGroup, h.startedClosed, fun _ => rfl⟩

/-- Closing the control plane makes nothing false that a call knows. -/
theorem PcInv.close {kind : Kind} {initialized closed : Bool} {r : Receiver}
    (h : PcInv kind initialized closed r) :
    PcInv kind initialized true r := by
  unfold PcInv at h ⊢
  split at h
  · exact ⟨h.1, h.2.1, fun _ => rfl⟩
  · exact ⟨h.1, h.2.1, fun _ => rfl, fun _ => .inr rfl⟩
  · exact h
  · exact ⟨h.1, fun _ => rfl, h.2.2⟩
  · exact ⟨h.1, fun _ => rfl, h.2.2⟩
  · obtain ⟨f, hf, hrest⟩ := h
    exact ⟨f, hf.close, hrest⟩
  · obtain ⟨hkind, hquiet | ⟨f, hf, he⟩⟩ := h
    · exact ⟨hkind, .inl hquiet⟩
    · exact ⟨hkind, .inr ⟨f, hf.close, he⟩⟩
  · exact ⟨h.observed, h.startedClosed, h.payload, h.failed, h.noGroup, fun _ => rfl⟩
  · exact h

theorem Inv.closeStep (hi : Inv s) : Inv s.closeStep := by
  unfold Sys.closeStep
  split
  · exact ⟨⟨fun _ => rfl, fun _ => rfl, fun _ => .inr rfl⟩, hi.receiver.close⟩
  · rename_i hpc
    have hclosed := hi.closer (by simp [hpc])
    exact ⟨⟨hi.aborted, fun _ => hclosed, hi.group⟩, hi.receiver⟩
  · rename_i hpc
    have hclosed := hi.closer (by simp [hpc])
    exact ⟨⟨fun _ => hclosed, fun _ => hclosed, hi.group⟩, hi.receiver⟩
  · rename_i hpc
    have hclosed := hi.closer (by simp [hpc])
    exact ⟨⟨hi.aborted, fun _ => hclosed, fun _ => .inr hclosed⟩, hi.receiver⟩

theorem Flagged.goto (hs : Flagged s) {pc : ReceiverPc}
    (hpc : PcInv s.kind s.initialized s.closed { s.receiver with pc := pc }) : Inv (s.goto pc) :=
  ⟨⟨hs.aborted, hs.closer, hs.group⟩, hpc⟩

/-- A check that sees the close ends the call with the error of a closed control
plane, also in a handler of an error that it translates. -/
theorem Flagged.checkClosed (hs : Flagged s) {next : Sys} (hnoGroup : s.receiver.noGroup = false)
    (hfailed : ∀ f, s.receiver.failure = some f → f.becauseOfClose = true →
      s.kind = .deepep ∨ f.inRecv = true ∧ f.error.isUnregistered = true)
    (hnext : s.closed = false → Inv next) : Inv (s.checkClosed next) := by
  unfold Sys.checkClosed
  split
  · rename_i hclosed
    refine ⟨⟨hs.aborted, hs.closer, hs.group⟩,
      ⟨fun _ => rfl, fun _ => rfl, fun _ h => (nomatch h), ?_, ?_, fun _ => hclosed⟩⟩
    · exact fun f hf hcause => ⟨⟨fun _ => hfailed f hf hcause, fun _ => rfl⟩, .inl rfl⟩
    · intro h
      rw [hnoGroup] at h
      cases h
  · rename_i hopen
    exact hnext (by simpa using hopen)

theorem Quiet.not_failed {r : Receiver} (h : Quiet r) {P : Failure → Prop} :
    ∀ f, r.failure = some f → f.becauseOfClose = true → P f := by
  intro f hf
  rw [h.failure] at hf
  cases hf

/-- A call ends without having seen the close. -/
theorem Quiet.finished {kind : Kind} {initialized closed : Bool} {r : Receiver}
    {result : Except Exn AFDControlPayload} (h : Quiet r) (hstarted : r.startedClosed = false)
    (htorn : ∀ payload, result = .ok payload → r.torn = false) (hresult : result ≠ kind.closedError) :
    Finished kind initialized closed r result where
  observed := fun h' => absurd h' (by simp [h.observed])
  startedClosed := fun h' => absurd h' (by simp [hstarted])
  payload := fun payload h' => ⟨h.observed, htorn payload h', h.failure⟩
  failed := h.not_failed
  noGroup := fun h' => absurd h' (by simp [h.noGroup])
  closed := fun h' => absurd h' hresult

/-- A call ends with the error of the transport. -/
theorem Raised.finished {kind : Kind} {initialized closed : Bool} {r : Receiver} {f : Failure}
    (h : Raised closed r f)
    (hcause : f.becauseOfClose = true →
      ¬ (kind = .deepep ∨ f.inRecv = true ∧ f.error.isUnregistered = true)) :
    Finished kind initialized closed r (.error (.transport f.error)) where
  observed := fun h' => absurd h' (by simp [h.observed])
  startedClosed := fun h' => absurd h' (by simp [h.startedClosed])
  payload := fun _ h' => (nomatch h')
  failed := by
    intro f' hf' hclose
    obtain rfl : f = f' := Option.some.inj (h.failure.symm.trans hf')
    exact ⟨⟨fun h' => (nomatch h'), fun h' => absurd h' (hcause hclose)⟩, .inr rfl⟩
  noGroup := fun h' => absurd h' (by simp [h.noGroup])
  closed := fun h' => (nomatch h')

theorem Quiet.goto {r : Receiver} (h : Quiet r) (pc : ReceiverPc) : Quiet { r with pc := pc } :=
  ⟨h.observed, h.noGroup, h.failure⟩

theorem Raised.goto {closed : Bool} {r : Receiver} {f : Failure} (h : Raised closed r f) (pc : ReceiverPc) :
    Raised closed { r with pc := pc } f :=
  ⟨h.failure, h.observed, h.noGroup, h.startedClosed, h.becauseOfClose⟩

/-- An error of the receive itself. -/
theorem Flagged.raise (hs : Flagged s) (hquiet : Quiet s.receiver)
    (hstarted : s.receiver.startedClosed = false) {e : Exn} (he : ∀ message, e ≠ .closed message) :
    Inv (s.raise e) := by
  unfold Sys.raise
  split
  · exact hs.goto ((hquiet.goto _).finished hstarted (fun _ h => (nomatch h)) fun h =>
      he _ (Except.error.inj h))
  · rename_i hkind
    exact hs.goto ⟨hkind, .inl ⟨hquiet.goto _, hstarted, he⟩⟩

/-- An error of the transport that `recv_tensor` does not translate. -/
theorem Flagged.raiseTransport (hs : Flagged s) {f : Failure} (hf : Raised s.closed s.receiver f)
    (hother : f.becauseOfClose = true → ¬ (f.inRecv = true ∧ f.error.isUnregistered = true)) :
    Inv (s.raise (.transport f.error)) := by
  unfold Sys.raise
  split
  · rename_i hkind
    refine hs.goto ((hf.goto _).finished fun hcause => ?_)
    rintro (h | h)
    · rw [hkind] at h
      cases h
    · exact hother hcause h
  · rename_i hkind
    exact hs.goto ⟨hkind, .inr ⟨f, hf.goto _, rfl⟩⟩

theorem Flagged.fail (hs : Flagged s) (hquiet : Quiet s.receiver)
    (hstarted : s.receiver.startedClosed = false) (error : TransportError)
    (inRecv becauseOfClose : Bool) (hallowed : becauseOfClose = true → s.aborted = true) :
    Inv (s.fail error inRecv becauseOfClose) := by
  have hcause (h : becauseOfClose = true) : s.closed = true := hs.aborted (hallowed h)
  unfold Sys.fail
  dsimp only
  split
  · rename_i hlookup
    rw [Bool.and_eq_true] at hlookup
    refine ⟨⟨hs.aborted, hs.closer, hs.group⟩,
      ⟨⟨error, inRecv, becauseOfClose⟩, ?_, rfl, hlookup.1, hlookup.2⟩⟩
    exact ⟨rfl, hquiet.observed, hquiet.noGroup, hstarted, hcause⟩
  · rename_i hlookup
    have hs' : Flagged { s with
        receiver := { s.receiver with failure := some ⟨error, inRecv, becauseOfClose⟩ } } :=
      ⟨hs.aborted, hs.closer, hs.group⟩
    exact hs'.raiseTransport ⟨rfl, hquiet.observed, hquiet.noGroup, hstarted, hcause⟩
      fun _ h => hlookup (Bool.and_eq_true_iff.2 h)

theorem eq_false_of_open {b : Bool} (h : b = true → s.closed = true) (hopen : s.closed = false) :
    b = false := by
  cases b with
  | false => rfl
  | true => rw [h rfl] at hopen; cases hopen

theorem Inv.receiverStep (hi : Inv s) {t : Sys} (h : s.receiverStep = some t) : Inv t := by
  have hpc := hi.receiver
  unfold PcInv at hpc
  unfold Sys.receiverStep at h
  cases heq : s.receiver.pc with
  | recvSize | waitSize _ | recvObject _ | copyObject =>
    rw [heq] at h
    cases h
  | readGroup =>
    rw [heq] at h hpc
    cases h
    exact hi.goto ⟨hpc.1.goto _, hpc.2.1, hpc.2.2, hi.group⟩
  | checkFirst group =>
    rw [heq] at h hpc
    cases h
    obtain ⟨hquiet, htorn, hstarted, hgroup⟩ := hpc
    refine hi.checkClosed hquiet.noGroup hquiet.not_failed fun hopen =>
      hi.goto ⟨hquiet.goto _, htorn, ?_, fun hno => ?_⟩
    · exact eq_false_of_open hstarted hopen
    · -- a group that the close had cleared would have come with the flag
      rcases hgroup hno with h | h
      · exact h
      · rw [hopen] at h
        cases h
  | requireGroup group =>
    rw [heq] at h hpc
    obtain ⟨hquiet, htorn, hstarted, hgroup⟩ := hpc
    dsimp only at h
    split at h
    · cases h
      exact hi.goto ⟨hquiet.goto _, htorn, hstarted⟩
    · rename_i hno
      cases h
      refine ⟨⟨hi.aborted, hi.closer, hi.group⟩,
        ⟨fun h => ?_, fun h => ?_, fun _ h => (nomatch h), hquiet.not_failed,
          fun _ => hgroup (by simpa using hno), fun h => (nomatch h)⟩⟩
      · exact absurd h (by simp [hquiet.observed])
      · exact absurd h (by simp [hstarted])
  | checkSize rankSize rawSize =>
    rw [heq] at h hpc
    cases h
    obtain ⟨hquiet, htorn, hstarted⟩ := hpc
    exact hi.checkClosed hquiet.noGroup hquiet.not_failed fun hopen =>
      hi.goto ⟨hquiet.goto _, eq_false_of_open htorn hopen, hstarted⟩
  | allocate rankSize rawSize =>
    rw [heq] at h hpc
    obtain ⟨hquiet, htorn, hstarted⟩ := hpc
    dsimp only at h
    split at h
    · cases h
      exact hi.raise hquiet hstarted fun _ h => nomatch h
    · cases h
      exact hi.goto ⟨hquiet.goto _, htorn, hstarted⟩
  | compareRanks rankSize rankObject =>
    rw [heq] at h hpc
    obtain ⟨hquiet, htorn, hstarted⟩ := hpc
    dsimp only at h
    split at h
    · cases h
      exact hi.raise hquiet hstarted fun _ h => nomatch h
    · cases h
      exact hi.goto ⟨hquiet.goto _, htorn, hstarted⟩
  | checkObject objectBytes =>
    rw [heq] at h hpc
    cases h
    obtain ⟨hquiet, htorn, hstarted⟩ := hpc
    exact hi.checkClosed hquiet.noGroup hquiet.not_failed fun hopen =>
      hi.goto ⟨hquiet.goto _, eq_false_of_open htorn hopen, hstarted⟩
  | decode objectBytes =>
    rw [heq] at h hpc
    obtain ⟨hquiet, htorn, hstarted⟩ := hpc
    dsimp only at h
    split at h
    · cases h
      exact hi.goto ((hquiet.goto _).finished hstarted (fun _ _ => htorn) fun h => (nomatch h))
    · cases h
      exact hi.raise hquiet hstarted fun _ h => nomatch h
  | unregistered error =>
    rw [heq] at h hpc
    cases h
    obtain ⟨f, hf, rfl, hlookup⟩ := hpc
    refine hi.checkClosed hf.noGroup (fun f' hf' _ => ?_) fun hopen => hi.raiseTransport hf fun hcause => ?_
    · obtain rfl : f = f' := Option.some.inj (hf.failure.symm.trans hf')
      exact .inr hlookup
    · -- the flag is set before the abort, so the lookup failed for another reason
      have hclosed := hf.becauseOfClose hcause
      rw [hopen] at hclosed
      cases hclosed
  | handle e =>
    rw [heq] at h hpc
    cases h
    obtain ⟨hkind, hcases⟩ := hpc
    rcases hcases with ⟨hquiet, hstarted, he⟩ | ⟨f, hf, rfl⟩
    · exact hi.checkClosed hquiet.noGroup (fun _ _ _ => .inl hkind) fun _ =>
        hi.goto ((hquiet.goto _).finished hstarted (fun _ h => (nomatch h)) fun h =>
          he _ (Except.error.inj h))
    · refine hi.checkClosed hf.noGroup (fun _ _ _ => .inl hkind) fun hopen =>
        hi.goto ((hf.goto _).finished fun hcause => ?_)
      have hclosed := hf.becauseOfClose hcause
      rw [hopen] at hclosed
      cases hclosed
  | done result =>
    rw [heq] at h
    cases h
    exact ⟨⟨hi.aborted, hi.closer, hi.group⟩, ⟨rfl, rfl, rfl⟩, rfl, id⟩

theorem of_allowed {b aborted : Bool} (h : (!b || aborted) = true) (hb : b = true) : aborted = true := by
  rw [hb] at h
  exact h

/-- A wait ends: only an abort can have torn the message. -/
theorem Inv.waited (hi : Inv s) (hquiet : Quiet s.receiver) (htorn : s.receiver.torn = false)
    (hstarted : s.receiver.startedClosed = false) {torn : Bool}
    (hallowed : torn = true → s.aborted = true) {pc : ReceiverPc}
    (hpc : Quiet (s.tear torn).receiver → ((s.tear torn).receiver.torn = true → s.closed = true) →
      (s.tear torn).receiver.startedClosed = false →
      PcInv s.kind s.initialized s.closed { (s.tear torn).receiver with pc := pc }) :
    Inv ((s.tear torn).goto pc) := by
  refine ⟨⟨hi.aborted, hi.closer, hi.group⟩, hpc ⟨hquiet.observed, hquiet.noGroup, hquiet.failure⟩
    (fun h => ?_) hstarted⟩
  have htorn' : torn = true := by simpa [Sys.tear, htorn] using h
  exact hi.aborted (hallowed htorn')

theorem Inv.step (hi : Inv s) {event : Event} {t : Sys} (h : s.step event = some t) : Inv t := by
  have hpc := hi.receiver
  unfold PcInv at hpc
  unfold Sys.step at h
  split at h
  · rename_i hallowed
    split at h
    · cases h
      exact hi.closeStep
    · exact hi.receiverStep h
    · rename_i heq
      cases h
      rw [heq] at hpc
      exact hi.goto ⟨hpc.1.goto _, hpc.2⟩
    · rename_i heq
      cases h
      rw [heq] at hpc
      exact hi.goto ⟨hpc.1.goto _, hpc.2⟩
    · rename_i heq
      cases h
      rw [heq] at hpc
      exact hi.waited hpc.1 hpc.2.1 hpc.2.2 (of_allowed hallowed) fun hquiet htorn hstarted =>
        ⟨hquiet.goto _, htorn, hstarted⟩
    · rename_i heq
      cases h
      rw [heq] at hpc
      exact hi.waited hpc.1 hpc.2.1 hpc.2.2 (of_allowed hallowed) fun hquiet htorn hstarted =>
        ⟨hquiet.goto _, htorn, hstarted⟩
    all_goals
      first
      | (cases h; done)
      | rename_i heq
        cases h
        rw [heq] at hpc
        exact hi.fail hpc.1 hpc.2.2 _ _ _ (of_allowed hallowed)
  · cases h

/-! What no step changes. -/

def Sys.config (s : Sys) : Kind × Bool := (s.kind, s.initialized)

@[simp] theorem goto_config (pc : ReceiverPc) : (s.goto pc).config = s.config := rfl

@[simp] theorem tear_config (torn : Bool) : (s.tear torn).config = s.config := rfl

@[simp] theorem raise_config (e : Exn) : (s.raise e).config = s.config := by
  unfold Sys.raise
  split <;> rfl

@[simp] theorem fail_config (error : TransportError) (inRecv becauseOfClose : Bool) :
    (s.fail error inRecv becauseOfClose).config = s.config := by
  unfold Sys.fail
  dsimp only
  split
  · rfl
  · simp [Sys.config, Sys.raise]
    split <;> exact ⟨rfl, rfl⟩

@[simp] theorem checkClosed_config {next : Sys} (h : next.config = s.config) :
    (s.checkClosed next).config = s.config := by
  unfold Sys.checkClosed
  split
  · rfl
  · exact h

theorem closeStep_config : s.closeStep.config = s.config := by
  unfold Sys.closeStep
  split <;> rfl

theorem receiverStep_config {t : Sys} (h : s.receiverStep = some t) : t.config = s.config := by
  unfold Sys.receiverStep at h
  split at h <;> (try split at h) <;> cases h <;>
    first
      | rfl
      | exact raise_config _
      | exact checkClosed_config rfl
      | exact checkClosed_config (raise_config _)

theorem step_config {event : Event} {t : Sys} (h : s.step event = some t) : t.config = s.config := by
  unfold Sys.step at h
  split at h
  · split at h
    · cases h
      exact closeStep_config
    · exact receiverStep_config h
    all_goals cases h
    all_goals simp
  · cases h

theorem run_cons (event : Event) (events : List Event) :
    run s (event :: events) = (s.step event).bind (run · events) := rfl

theorem Inv.run (hi : Inv s) {events : List Event} {t : Sys} (h : run s events = some t) :
    Inv t ∧ t.config = s.config := by
  induction events generalizing s with
  | nil =>
    cases h
    exact ⟨hi, rfl⟩
  | cons event events ih =>
    rw [run_cons] at h
    obtain ⟨u, hstep, hrest⟩ := Option.bind_eq_some_iff.1 h
    obtain ⟨hinv, hconfig⟩ := ih (hi.step hstep) hrest
    exact ⟨hinv, hconfig.trans (step_config hstep)⟩

end Steps

theorem inv_start (kind : Kind) (initialized : Bool) (src : Nat) : Inv (start kind initialized src) :=
  ⟨⟨fun h => (nomatch h), fun h => absurd rfl h, .inl⟩, ⟨⟨rfl, rfl, rfl⟩, rfl, fun h => (nomatch h)⟩⟩

/-! ## Results -/

/-- However closes and receives interleave: a receive that has seen the close, or
began after it, raises the error of a closed control plane, and no receive returns
what an abort has torn. An error that the transport raises because of the close
becomes that error in DeepEP, and in P2P if it is of torch's lookup of the group;
any other one leaves the receive of P2P as it is. -/
theorem closed_control_plane (kind : Kind) (initialized : Bool) (src : Nat) (events : List Event) (s : Sys)
    (result : Except Exn AFDControlPayload) (hrun : run (start kind initialized src) events = some s)
    (hdone : s.receiver.pc = .done result) : Finished kind initialized s.closed s.receiver result := by
  obtain ⟨hinv, hconfig⟩ := (inv_start kind initialized src).run hrun
  obtain ⟨hkind, hinitialized⟩ := Prod.mk.inj hconfig
  have hfinished := hinv.receiver
  unfold PcInv at hfinished
  rw [hdone, hkind, hinitialized] at hfinished
  exact hfinished

/-- The group is aborted while the call waits for the size. -/
def abortedReceive : List Event :=
  [.receiver, .receiver, .receiver, .close, .close, .close,
    .raises (.runtimeError "NCCL communicator was aborted") true]

theorem closed_control_plane_deepep :
    ∃ s, run (start .deepep true 1) (abortedReceive ++ [.receiver]) = some s ∧
    Finished .deepep true s.closed s.receiver Kind.deepep.closedError :=
  ⟨_, rfl, closed_control_plane .deepep true 1 (abortedReceive ++ [.receiver]) _ _ rfl rfl⟩

/-- P2P passes the error of the transport on. -/
theorem p2p_reports_transport_error :
    ¬ ∀ (kind : Kind) (initialized : Bool) (src : Nat) (events : List Event) (s : Sys)
    (result : Except Exn AFDControlPayload) (f : Failure), run (start kind initialized src)
      events = some s →
      s.receiver.pc = .done result → s.receiver.failure = some f → f.becauseOfClose = true →
        result = kind.closedError := by
  intro h
  have hresult := h .p2p true 1 abortedReceive _ _ _ rfl rfl rfl rfl
  cases hresult

end AfdPlugin.ControlClose
