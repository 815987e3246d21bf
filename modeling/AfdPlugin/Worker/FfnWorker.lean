import Mathlib.Tactic
/-!
# The receive loop of an FFN worker

An FFN worker runs its receive loop in a thread of its own. The engine starts
and stops the loop, asks whether it failed, and shuts the worker down; the calls
come one after the other, but the loop ends whenever it likes, also while `stop`
waits for it. The two workers do the same job with different code.
-/

namespace AfdPlugin.FfnWorker

inductive Kind where
  /-- `AFDFFNWorker` -/
  | gpu
  /-- `AFDNPUFFNWorker` -/
  | npu
  deriving DecidableEq, Repr

/-- How a receive loop ends. -/
inductive Exit (E : Type) where
  | normal
  /-- Its receive was cancelled, because the connection is closed. -/
  | cancelled (exc : E)
  | failed (exc : E)
  deriving DecidableEq, Repr

/-- What a call raises. -/
inductive Failure (E : Type) where
  | loopFailed (cause : E)
  | notStopped
  | initFailed (exc : E)
  deriving DecidableEq, Repr

def Failure.message {E : Type} (kind : Kind) (requiresAsyncDrain : Bool) : Failure E → Option String
  | .loopFailed _ => match kind with
    | .gpu => some "AFD FFN worker loop failed"
    | .npu => some "AFD NPU FFN worker loop failed"
  | .notStopped => match kind with
    | .gpu => some "AFD FFN worker loop did not stop before shutdown"
    | .npu =>
      if requiresAsyncDrain then some "Async graph receive is pending; retain resources"
      else some "AFD NPU FFN worker loop did not stop after connector close"
  | .initFailed _ => none

variable {E : Type}

structure FFNWorker (E : Type) where
  kind : Kind
  /-- Async CAM in FULL mode or with two streams. -/
  requiresAsyncDrain : Bool
  connectorInitialized : Bool
  /-- The control plane (GPU) or the connector (NPU) was closed: receives are
  cancelled. -/
  closed : Bool
  /-- The thread, and whether it is alive. -/
  ffnThread : Option Bool
  /-- The event, and whether it is set. -/
  ffnShutdownEvent : Option Bool
  ffnLoopError : Option E
  deriving DecidableEq, Repr

namespace FFNWorker

variable (w : FFNWorker E)

def alive : Prop := w.ffnThread = some true

instance : Decidable w.alive := by unfold alive; infer_instance

/-- `_requires_async_drain`; the GPU worker has no such mode. -/
def drains : Prop := w.kind = .npu ∧ w.requiresAsyncDrain = true

instance : Decidable w.drains := by unfold drains; infer_instance

/-- The loop drops an exception that comes after the stop request: the GPU
worker that of a cancelled receive, the NPU worker any. -/
def drops (x : Exit E) : Prop :=
  w.ffnShutdownEvent = some true ∧
    match w.kind, x with
    | .gpu, .cancelled _ => True
    | .gpu, _ => False
    | .npu, _ => ¬ w.drains

instance (x : Exit E) : Decidable (w.drops x) := by
  unfold drops
  cases w.kind <;> cases x <;> dsimp only <;> infer_instance

/-- `ffn_worker_loop` ends. -/
def finishLoop (x : Exit E) : FFNWorker E :=
  let w' := { w with ffnThread := some false }
  match x with
  | .normal => w'
  | .cancelled exc | .failed exc => if w.drops x then w' else { w' with ffnLoopError := some exc }

/-- `raise_ffn_loop_error_if_any`. -/
def raiseFfnLoopErrorIfAny : FFNWorker E × Option (Failure E) :=
  match w.ffnLoopError with
  | none => (w, none)
  | some exc =>
    match w.kind with
    | .gpu => (w, some (.loopFailed exc))
    | .npu => (if w.drains then w else { w with ffnLoopError := none }, some (.loopFailed exc))

/-- The rest of `start_ffn_server_loop`, once it starts a thread. -/
def startThread : FFNWorker E :=
  { w with ffnShutdownEvent := some false, ffnLoopError := none, ffnThread := some true }

/-- `start_ffn_server_loop`; `initError` is what `initialize_afd_connector`
raises, if it is called. -/
def startFfnServerLoop (initError : Option E) : FFNWorker E × Option (Failure E) :=
  if w.alive then w.raiseFfnLoopErrorIfAny
  else
    match w.raiseFfnLoopErrorIfAny with
    | (w, some failure) => (w, some failure)
    | (w, none) =>
      if w.connectorInitialized then (w.startThread, none)
      else match initError with
        | some exc => (w, some (.initFailed exc))
        | none =>
          -- the GPU connectors keep their closed control plane
          let closed := match w.kind with
            | .gpu => w.closed
            | .npu => false
          ({ w with connectorInitialized := true, closed := closed }.startThread, none)

/-- `stop_ffn_server_loop`, until it waits for the thread. -/
def requestStop : FFNWorker E :=
  let w' := { w with ffnShutdownEvent := w.ffnShutdownEvent.map fun _ => true }
  if w.drains then w'
  else match w.kind with
    | .gpu => { w' with closed := true }
    | .npu => { w' with closed := true, connectorInitialized := false }

/-- `stop_ffn_server_loop` waits for the thread; `exit` tells how the loop ends
meanwhile, if it does. -/
def join (exit : Option (Exit E)) : FFNWorker E :=
  match exit with
  | none => w
  | some x => w.finishLoop x

/-- `stop_ffn_server_loop`, after it has waited. -/
def afterJoin : FFNWorker E × Option (Failure E) :=
  if w.alive then (w, some .notStopped)
  else if w.drains then
    match w.raiseFfnLoopErrorIfAny with
    | (w, some failure) => (w, some failure)
    | (w, none) => ({ w with ffnThread := none, ffnShutdownEvent := none }, none)
  else { w with ffnThread := none, ffnShutdownEvent := none }.raiseFfnLoopErrorIfAny

def stopFfnServerLoop (exit : Option (Exit E)) : FFNWorker E × Option (Failure E) :=
  (w.requestStop.join exit).afterJoin

/-- `shutdown`, and whether it calls the native `shutdown`. -/
def shutdown (exit : Option (Exit E)) : FFNWorker E × Option (Failure E) × Bool :=
  match w.stopFfnServerLoop exit with
  | (w, raised) =>
    match w.kind with
    | .gpu => (w, raised, w.ffnThread.isNone)
    | .npu => (w, raised, raised.isNone)

end FFNWorker

/-! ## Runs -/

inductive Event (E : Type) where
  | loopExit (x : Exit E)
  | start (initError : Option E)
  | raiseIfFailed
  | stop (exit : Option (Exit E))
  | shutdown (exit : Option (Exit E))
  deriving DecidableEq, Repr

/-- A worker, and the error that ended its loop, until the loop is started
again. -/
structure Sys (E : Type) where
  worker : FFNWorker E
  ended : Option E
  deriving DecidableEq, Repr

/-- A loop that fails has an error of its own, a cancelled one has not. -/
def Exit.error (x : Exit E) (ended : Option E) : Option E :=
  match x with
  | .failed exc => some exc
  | _ => ended

/-- What an event does, what its call raises, and whether it releases the native
resources. -/
structure Outcome (E : Type) where
  after : Sys E
  raised : Option (Failure E) := none
  released : Bool := false
  deriving DecidableEq, Repr

def Sys.step (s : Sys E) : Event E → Outcome E
  | .loopExit x => { after := ⟨s.worker.finishLoop x, x.error s.ended⟩ }
  | .start initError =>
    let (w, raised) := s.worker.startFfnServerLoop initError
    { after := ⟨w, if w.alive then none else s.ended⟩, raised := raised }
  | .raiseIfFailed =>
    let (w, raised) := s.worker.raiseFfnLoopErrorIfAny
    { after := ⟨w, s.ended⟩, raised := raised }
  | .stop exit =>
    let (w, raised) := s.worker.stopFfnServerLoop exit
    { after := ⟨w, exit.elim s.ended (·.error s.ended)⟩, raised := raised }
  | .shutdown exit =>
    let (w, raised, released) := s.worker.shutdown exit
    { after := ⟨w, exit.elim s.ended (·.error s.ended)⟩, raised := raised, released := released }

/-- A loop that runs can end, and only a closed connection cancels its receive. -/
def Exit.Possible (w : FFNWorker E) (x : Exit E) : Prop :=
  w.alive ∧ ∀ exc, x = .cancelled exc → w.closed = true

/-- An event that can happen. -/
def Event.Possible (s : Sys E) : Event E → Prop
  | .loopExit x => x.Possible s.worker
  | .start _ | .raiseIfFailed => True
  | .stop exit | .shutdown exit => ∀ x, exit = some x → x.Possible s.worker.requestStop

/-- An event of a run. -/
structure Record (E : Type) where
  before : Sys E
  event : Event E
  outcome : Outcome E

def Sys.run (s : Sys E) : List (Event E) → List (Record E)
  | [] => []
  | ev :: evs => ⟨s, ev, s.step ev⟩ :: (s.step ev).after.run evs

/-- A worker whose loop was not started. -/
structure Fresh (s : Sys E) : Prop where
  ended : s.ended = none
  error : s.worker.ffnLoopError = none
  thread : s.worker.ffnThread = none
  closed : s.worker.closed = false
  drain : s.worker.requiresAsyncDrain = false

def Event.IsCall : Event E → Prop
  | .loopExit _ => False
  | _ => True

/-- The four promises of the lifecycle, as one event keeps them. -/
structure Record.Ok (r : Record E) : Prop where
  /-- Native resources are released after the thread has exited. -/
  exited : r.outcome.released = true → ¬ r.outcome.after.worker.alive
  /-- An error that ended the loop is reported, unless the call starts the loop again. -/
  reported : r.event.IsCall → ∀ exc, r.outcome.after.ended = some exc →
    r.outcome.raised = some (.loopFailed exc)
  /-- Nothing else is reported as a loop error, in particular no cancellation. -/
  failed : ∀ exc, r.outcome.raised = some (.loopFailed exc) → r.outcome.after.ended = some exc
  /-- Once the thread has exited, `shutdown` releases the resources. -/
  releases : ∀ exit, r.event = .shutdown exit → ¬ r.outcome.after.worker.alive → r.outcome.released = true

/-- The events at which both workers keep the promises. The GPU worker does not
start its loop on a control plane that an earlier stop has closed. The loop of
the NPU worker does not fail after the stop request, and after a failure only one
call comes, not `shutdown`, before the loop is started again. -/
def Event.Fine (s : Sys E) (ev : Event E) : Prop :=
  match s.worker.kind, ev with
  | .gpu, .start _ => ¬ s.worker.alive → s.worker.ffnLoopError = none → s.worker.closed = false
  | .gpu, _ => True
  | .npu, .loopExit (.failed _) => s.worker.ffnShutdownEvent ≠ some true
  | .npu, .loopExit _ => True
  | .npu, .stop (some (.failed _)) | .npu, .shutdown (some (.failed _)) => False
  | .npu, .shutdown _ => s.ended = none
  | .npu, .start (some _) =>
    s.ended.isSome → s.worker.ffnLoopError = none → s.worker.connectorInitialized = true
  | .npu, .start none => True
  | .npu, .raiseIfFailed | .npu, .stop _ => s.ended.isSome → s.worker.ffnLoopError.isSome

/-! ## What the functions do -/

namespace FFNWorker
variable {w : FFNWorker E}

theorem raise_snd : w.raiseFfnLoopErrorIfAny.2 = w.ffnLoopError.map .loopFailed := by
  unfold raiseFfnLoopErrorIfAny
  cases w.ffnLoopError with
  | none => rfl
  | some exc => cases w.kind <;> rfl

/-- Reporting changes nothing but the error. -/
theorem raise_fst : w.raiseFfnLoopErrorIfAny.1 =
    { w with ffnLoopError := if w.kind = .npu ∧ ¬ w.drains then none else w.ffnLoopError } := by
  unfold raiseFfnLoopErrorIfAny
  cases herror : w.ffnLoopError with
  | none => cases w; simp_all
  | some exc =>
    cases hkind : w.kind with
    | gpu => cases w; simp_all
    | npu => by_cases hdrain : w.drains <;> cases w <;> simp_all

theorem finishLoop_alive (x : Exit E) : ¬ (w.finishLoop x).alive := by
  unfold finishLoop alive
  cases x with
  | normal => simp
  | cancelled exc => dsimp only; split <;> simp
  | failed exc => dsimp only; split <;> simp

/-- The end of a loop changes the thread and the error. -/
theorem finishLoop_eq (x : Exit E) : w.finishLoop x =
    { w with ffnThread := some false, ffnLoopError := (w.finishLoop x).ffnLoopError } := by
  unfold finishLoop
  cases x with
  | normal => rfl
  | cancelled exc => dsimp only; split <;> rfl
  | failed exc => dsimp only; split <;> rfl

/-- The error that a loop leaves. -/
theorem finishLoop_error (hdrain : w.requiresAsyncDrain = false) (x : Exit E) :
    (w.finishLoop x).ffnLoopError =
      match x with
      | .normal => w.ffnLoopError
      | .cancelled exc => if w.ffnShutdownEvent = some true then w.ffnLoopError else some exc
      | .failed exc => if w.kind = .npu ∧ w.ffnShutdownEvent = some true then w.ffnLoopError
        else some exc := by
  unfold finishLoop
  cases x with
  | normal => rfl
  | cancelled exc =>
    by_cases hset : w.ffnShutdownEvent = some true
      <;> cases hkind : w.kind <;> simp [drops, drains, hset, hkind, hdrain]
  | failed exc =>
    by_cases hset : w.ffnShutdownEvent = some true
      <;> cases hkind : w.kind <;> simp [drops, drains, hset, hkind, hdrain]

@[simp] theorem finishLoop_kind (x : Exit E) : (w.finishLoop x).kind = w.kind := by
  rw [finishLoop_eq]

@[simp] theorem finishLoop_drain (x : Exit E) :
    (w.finishLoop x).requiresAsyncDrain = w.requiresAsyncDrain := by
  rw [finishLoop_eq]

/-- The stop request sets the event and closes the connection. -/
theorem requestStop_eq (hdrain : w.requiresAsyncDrain = false) : w.requestStop =
    { w with
      ffnShutdownEvent := w.ffnShutdownEvent.map fun _ => true
      closed := true
      connectorInitialized := if w.kind = .npu then false else w.connectorInitialized } := by
  have hnot : ¬ w.drains := by simp [drains, hdrain]
  unfold requestStop
  rw [if_neg hnot]
  cases hkind : w.kind <;> simp

@[simp] theorem requestStop_kind : w.requestStop.kind = w.kind := by
  unfold requestStop
  split
  · rfl
  · cases hkind : w.kind <;> rfl

@[simp] theorem requestStop_drain : w.requestStop.requiresAsyncDrain = w.requiresAsyncDrain := by
  unfold requestStop
  split
  · rfl
  · cases hkind : w.kind <;> rfl

@[simp] theorem requestStop_thread : w.requestStop.ffnThread = w.ffnThread := by
  unfold requestStop
  split
  · rfl
  · cases hkind : w.kind <;> rfl

@[simp] theorem requestStop_alive : w.requestStop.alive ↔ w.alive := by
  unfold alive
  rw [requestStop_thread]

@[simp] theorem requestStop_error : w.requestStop.ffnLoopError = w.ffnLoopError := by
  unfold requestStop
  split
  · rfl
  · cases hkind : w.kind <;> rfl

@[simp] theorem requestStop_event :
    w.requestStop.ffnShutdownEvent = w.ffnShutdownEvent.map fun _ => true := by
  unfold requestStop
  split
  · rfl
  · cases hkind : w.kind <;> rfl

@[simp] theorem join_kind (exit : Option (Exit E)) : (w.join exit).kind = w.kind := by
  cases exit with
  | none => rfl
  | some x => exact finishLoop_kind x

@[simp] theorem join_drain (exit : Option (Exit E)) :
    (w.join exit).requiresAsyncDrain = w.requiresAsyncDrain := by
  cases exit with
  | none => rfl
  | some x => exact finishLoop_drain x

/-- A worker whose thread was joined, before `stop` reports its error. -/
def stopped (w : FFNWorker E) (exit : Option (Exit E)) : FFNWorker E :=
  { w.requestStop.join exit with ffnThread := none, ffnShutdownEvent := none }

theorem afterJoin_alive (halive : w.alive) : w.afterJoin = (w, some .notStopped) := by
  unfold afterJoin
  rw [if_pos halive]

theorem afterJoin_exited (hexited : ¬ w.alive) (hdrain : ¬ w.drains) :
    w.afterJoin = { w with ffnThread := none, ffnShutdownEvent := none }.raiseFfnLoopErrorIfAny := by
  unfold afterJoin
  rw [if_neg hexited, if_neg hdrain]

/-- `stop` either leaves a thread that does not end, or reports the error of the
worker it has stopped. -/
theorem stop_cases (hdrain : w.requiresAsyncDrain = false) (exit : Option (Exit E)) :
    (exit = none ∧ w.alive ∧ w.stopFfnServerLoop exit = (w.requestStop, some .notStopped)) ∨
    ((exit = none → ¬ w.alive) ∧ w.stopFfnServerLoop exit = (w.stopped exit).raiseFfnLoopErrorIfAny) := by
  have hnot : ¬ (w.requestStop.join exit).drains := by simp [drains, hdrain]
  cases exit with
  | none =>
    by_cases halive : w.alive
    · left
      refine ⟨rfl, halive, ?_⟩
      exact afterJoin_alive (requestStop_alive.2 halive)
    · right
      refine ⟨fun _ => halive, ?_⟩
      apply afterJoin_exited _ hnot
      exact mt requestStop_alive.1 halive
  | some x =>
    right
    refine ⟨fun h => absurd h (Option.some_ne_none x), ?_⟩
    exact afterJoin_exited (finishLoop_alive x) hnot

@[simp] theorem raise_thread : w.raiseFfnLoopErrorIfAny.1.ffnThread = w.ffnThread := by rw [raise_fst]

@[simp] theorem raise_alive : w.raiseFfnLoopErrorIfAny.1.alive ↔ w.alive := by
  unfold alive
  rw [raise_thread]

theorem raise_of_none (herror : w.ffnLoopError = none) : w.raiseFfnLoopErrorIfAny = (w, none) := by
  unfold raiseFfnLoopErrorIfAny
  rw [herror]

/-- A call of `start` reports an error, or cannot initialize the connector, or
starts a thread. A connector that is initialized again is open, but a GPU worker
keeps its control plane. -/
theorem start_cases (initError : Option E) :
    ((w.alive ∨ w.ffnLoopError.isSome) ∧ w.startFfnServerLoop initError = w.raiseFfnLoopErrorIfAny) ∨
    (¬ w.alive ∧ w.ffnLoopError = none ∧ w.connectorInitialized = false ∧
      ∃ exc, initError = some exc ∧ w.startFfnServerLoop initError = (w, some (.initFailed exc))) ∨
    (¬ w.alive ∧ w.ffnLoopError = none ∧ ∃ closed,
      (closed = true → w.closed = true ∧ (w.kind = .npu → w.connectorInitialized = true)) ∧
      w.startFfnServerLoop initError =
        ({ w with connectorInitialized := true, closed := closed }.startThread, none)) := by
  by_cases halive : w.alive
  · left
    refine ⟨Or.inl halive, ?_⟩
    unfold startFfnServerLoop
    rw [if_pos halive]
  cases herror : w.ffnLoopError with
  | some exc =>
    left
    refine ⟨Or.inr rfl, ?_⟩
    have hraise : w.raiseFfnLoopErrorIfAny = (w.raiseFfnLoopErrorIfAny.1, some (.loopFailed exc)) := by
      have hsnd : w.raiseFfnLoopErrorIfAny.2 = some (.loopFailed exc) := by
        rw [raise_snd, herror]
        rfl
      rw [← hsnd]
    unfold startFfnServerLoop
    rw [if_neg halive, hraise]
  | none =>
    right
    unfold startFfnServerLoop
    rw [if_neg halive, raise_of_none herror]
    dsimp only
    cases hinit : w.connectorInitialized with
    | true =>
      right
      refine ⟨halive, rfl, w.closed, fun h => ⟨h, fun _ => rfl⟩, ?_⟩
      simp [startThread, hinit]
    | false =>
      cases initError with
      | some exc =>
        left
        exact ⟨halive, rfl, rfl, exc, rfl, rfl⟩
      | none =>
        right
        refine ⟨halive, rfl, _, ?_, rfl⟩
        cases hkind : w.kind with
        | gpu => exact fun h => ⟨h, nofun⟩
        | npu => exact nofun

theorem stopped_exited (exit : Option (Exit E)) : ¬ (w.stopped exit).alive := by
  unfold stopped alive
  simp

@[simp] theorem stopped_kind (exit : Option (Exit E)) : (w.stopped exit).kind = w.kind := by
  unfold stopped
  simp

@[simp] theorem stopped_drain (exit : Option (Exit E)) :
    (w.stopped exit).requiresAsyncDrain = w.requiresAsyncDrain := by
  unfold stopped
  simp

theorem stopped_error (exit : Option (Exit E)) :
    (w.stopped exit).ffnLoopError = (w.requestStop.join exit).ffnLoopError := rfl

theorem stopped_connectorInitialized (exit : Option (Exit E)) :
    (w.stopped exit).connectorInitialized = w.requestStop.connectorInitialized := by
  cases exit with
  | none => rfl
  | some x =>
    change (w.requestStop.finishLoop x).connectorInitialized = _
    rw [finishLoop_eq]

@[simp] theorem raise_kind : w.raiseFfnLoopErrorIfAny.1.kind = w.kind := by rw [raise_fst]

@[simp] theorem raise_drain :
    w.raiseFfnLoopErrorIfAny.1.requiresAsyncDrain = w.requiresAsyncDrain := by rw [raise_fst]

@[simp] theorem raise_event : w.raiseFfnLoopErrorIfAny.1.ffnShutdownEvent = w.ffnShutdownEvent := by
  rw [raise_fst]

@[simp] theorem raise_closed : w.raiseFfnLoopErrorIfAny.1.closed = w.closed := by rw [raise_fst]

@[simp] theorem raise_connectorInitialized :
    w.raiseFfnLoopErrorIfAny.1.connectorInitialized = w.connectorInitialized := by rw [raise_fst]

/-- The GPU worker keeps its error. -/
theorem raise_gpu (hkind : w.kind = .gpu) : w.raiseFfnLoopErrorIfAny.1 = w := by
  rw [raise_fst]
  cases w
  simp_all

theorem raise_error {exc : E} (h : w.raiseFfnLoopErrorIfAny.1.ffnLoopError = some exc) :
    w.ffnLoopError = some exc := by
  rw [raise_fst] at h
  dsimp only at h
  split at h
  · contradiction
  · exact h

end FFNWorker

theorem FFNWorker.startThread_alive {w : FFNWorker E} : w.startThread.alive := rfl

/-- `shutdown` is `stop`, and releases the native resources: the GPU worker when
it has no thread left, the NPU worker when `stop` raises nothing. -/
theorem FFNWorker.shutdown_eq (w : FFNWorker E) (exit : Option (Exit E)) :
    w.shutdown exit = ((w.stopFfnServerLoop exit).1, (w.stopFfnServerLoop exit).2,
      match (w.stopFfnServerLoop exit).1.kind with
      | .gpu => (w.stopFfnServerLoop exit).1.ffnThread.isNone
      | .npu => (w.stopFfnServerLoop exit).2.isNone) := by
  unfold shutdown
  cases hkind : (w.stopFfnServerLoop exit).1.kind <;> simp [hkind]

theorem Sys.step_shutdown_after (s : Sys E) (exit : Option (Exit E)) :
    (s.step (.shutdown exit)).after =
      ⟨(s.worker.stopFfnServerLoop exit).1, exit.elim s.ended (·.error s.ended)⟩ := by
  simp only [Sys.step, FFNWorker.shutdown_eq]

theorem Exit.error_of_some {x : Exit E} {exc : E} (h : x.error none = some exc) : x = .failed exc := by
  cases x with
  | normal => contradiction
  | cancelled _ => contradiction
  | failed exc' =>
    cases h
    rfl

/-! ## Every run -/

/-- What holds in every run. -/
structure Inv (s : Sys E) : Prop where
  drain : s.worker.requiresAsyncDrain = false
  running : s.worker.alive → s.ended = none ∧ s.worker.ffnLoopError = none ∧
    s.worker.ffnShutdownEvent.isSome
  /-- The GPU worker has the error that ended the loop. -/
  kept : s.worker.kind = .gpu → ∀ exc, s.ended = some exc → s.worker.ffnLoopError = some exc

namespace Inv
variable {s : Sys E}

theorem fresh (h : Fresh s) : Inv s where
  drain := h.drain
  running halive := by
    unfold FFNWorker.alive at halive
    rw [h.thread] at halive
    contradiction
  kept _ exc hended := by
    rw [h.ended] at hended
    contradiction

theorem raise (hs : Inv s) : Inv ⟨s.worker.raiseFfnLoopErrorIfAny.1, s.ended⟩ where
  drain := by
    rw [FFNWorker.raise_drain]
    exact hs.drain
  running halive := by
    obtain ⟨hended, herror, hevent⟩ := hs.running (FFNWorker.raise_alive.1 halive)
    rw [FFNWorker.raise_of_none herror]
    exact ⟨hended, herror, hevent⟩
  kept hkind := by
    have hgpu : s.worker.kind = .gpu := by simpa using hkind
    rw [FFNWorker.raise_gpu hgpu]
    exact hs.kept hgpu

/-- A worker without a thread keeps the invariant if it has the error. -/
theorem of_exited {w : FFNWorker E} {ended : Option E} (hdrain : w.requiresAsyncDrain = false)
    (hexited : ¬ w.alive)
    (hkept : w.kind = .gpu → ∀ exc, ended = some exc → w.ffnLoopError = some exc) : Inv ⟨w, ended⟩ where
  drain := hdrain
  running halive := absurd halive hexited
  kept := hkept

/-- A loop that ends leaves its error in the GPU worker. -/
theorem finishLoop_kept (hs : Inv s) {w : FFNWorker E} (hkind : w.kind = .gpu)
    (hdrain : w.requiresAsyncDrain = false) (halive : s.worker.alive) (x : Exit E) (exc : E)
    (h : x.error s.ended = some exc) : (w.finishLoop x).ffnLoopError = some exc := by
  rw [(hs.running halive).1] at h
  have hx := Exit.error_of_some h
  rw [FFNWorker.finishLoop_error hdrain, hx]
  dsimp only
  rw [if_neg]
  rintro ⟨hnpu, _⟩
  rw [hkind] at hnpu
  contradiction

theorem loopExit (hs : Inv s) {x : Exit E} (hx : x.Possible s.worker) :
    Inv ⟨s.worker.finishLoop x, x.error s.ended⟩ := by
  apply of_exited
  · rw [FFNWorker.finishLoop_drain]
    exact hs.drain
  · exact FFNWorker.finishLoop_alive x
  · intro hkind exc h
    rw [FFNWorker.finishLoop_kind] at hkind
    exact hs.finishLoop_kept hkind hs.drain hx.1 x exc h

theorem stopped (hs : Inv s) {exit : Option (Exit E)}
    (hexit : ∀ x, exit = some x → x.Possible s.worker.requestStop) :
    Inv ⟨s.worker.stopped exit, exit.elim s.ended (·.error s.ended)⟩ := by
  apply of_exited
  · rw [FFNWorker.stopped_drain]
    exact hs.drain
  · exact FFNWorker.stopped_exited exit
  · intro hkind exc h
    rw [FFNWorker.stopped_kind] at hkind
    rw [FFNWorker.stopped_error]
    cases exit with
    | none =>
      change s.worker.requestStop.ffnLoopError = some exc
      rw [FFNWorker.requestStop_error]
      exact hs.kept hkind exc h
    | some x =>
      apply hs.finishLoop_kept _ _ _ x exc h
      · simpa using hkind
      · simpa using hs.drain
      · exact FFNWorker.requestStop_alive.1 (hexit x rfl).1

/-- `stop` keeps the invariant. -/
theorem stop (hs : Inv s) {exit : Option (Exit E)}
    (hexit : ∀ x, exit = some x → x.Possible s.worker.requestStop) :
    Inv ⟨(s.worker.stopFfnServerLoop exit).1, exit.elim s.ended (·.error s.ended)⟩ := by
  obtain ⟨rfl, halive, heq⟩ | ⟨_, heq⟩ := FFNWorker.stop_cases hs.drain exit
  · rw [heq]
    obtain ⟨hended, herror, hevent⟩ := hs.running halive
    exact {
      drain := by simpa using hs.drain
      running := fun _ => by simpa using ⟨hended, herror, hevent⟩
      kept := by
        intro _ exc h
        change s.ended = some exc at h
        rw [hended] at h
        contradiction }
  · rw [heq]
    exact (hs.stopped hexit).raise

theorem startThread {w : FFNWorker E} (hdrain : w.requiresAsyncDrain = false) :
    Inv ⟨w.startThread, none⟩ where
  drain := hdrain
  running _ := ⟨rfl, rfl, rfl⟩
  kept _ _ h := by contradiction

theorem start (hs : Inv s) (initError : Option E) :
    Inv ⟨(s.worker.startFfnServerLoop initError).1,
      if (s.worker.startFfnServerLoop initError).1.alive then none else s.ended⟩ := by
  obtain ⟨_, heq⟩ | ⟨hexited, _, _, exc, _, heq⟩ | ⟨_, _, closed, _, heq⟩ :=
    FFNWorker.start_cases (w := s.worker) initError
  · rw [heq]
    by_cases halive : s.worker.alive
    · rw [if_pos (FFNWorker.raise_alive.2 halive), ← (hs.running halive).1]
      exact hs.raise
    · rw [if_neg (mt FFNWorker.raise_alive.1 halive)]
      exact hs.raise
  · rw [heq]
    dsimp only
    rw [if_neg hexited]
    exact hs
  · rw [heq]
    dsimp only
    rw [if_pos FFNWorker.startThread_alive]
    exact startThread hs.drain

/-- Every event keeps the invariant. -/
theorem step (hs : Inv s) {ev : Event E} (hev : ev.Possible s) : Inv (s.step ev).after := by
  cases ev with
  | loopExit x => exact hs.loopExit hev
  | start initError => exact hs.start initError
  | raiseIfFailed => exact hs.raise
  | stop exit => exact hs.stop hev
  | shutdown exit =>
    rw [Sys.step_shutdown_after]
    exact hs.stop hev

/-- The GPU worker reports the error that ended its loop. -/
theorem gpu_reported (hs : Inv s) (hkind : s.worker.kind = .gpu) {ev : Event E} (hev : ev.Possible s)
    (hcall : ev.IsCall) (exc : E) (h : (s.step ev).after.ended = some exc) :
    (s.step ev).raised = some (.loopFailed exc) := by
  have hstop : ∀ exit : Option (Exit E), (∀ x, exit = some x → x.Possible s.worker.requestStop) →
      exit.elim s.ended (·.error s.ended) = some exc →
      (s.worker.stopFfnServerLoop exit).2 = some (.loopFailed exc) := by
    intro exit hexit h
    obtain ⟨rfl, halive, _⟩ | ⟨_, heq⟩ := FFNWorker.stop_cases hs.drain exit
    · change s.ended = some exc at h
      rw [(hs.running halive).1] at h
      contradiction
    · have herror := (hs.stopped hexit).kept (by simpa using hkind) exc h
      rw [heq, FFNWorker.raise_snd, herror]
      rfl
  cases ev with
  | loopExit x => contradiction
  | start initError =>
    change (s.worker.startFfnServerLoop initError).2 = _
    change (if (s.worker.startFfnServerLoop initError).1.alive then none else s.ended) = some exc at h
    split at h
    · contradiction
    have herror := hs.kept hkind exc h
    obtain ⟨_, heq⟩ | ⟨_, hnone, _⟩ | ⟨_, hnone, _⟩ := FFNWorker.start_cases (w := s.worker) initError
    · rw [heq, FFNWorker.raise_snd, herror]
      rfl
    · rw [hnone] at herror
      contradiction
    · rw [hnone] at herror
      contradiction
  | raiseIfFailed =>
    change s.worker.raiseFfnLoopErrorIfAny.2 = _
    rw [FFNWorker.raise_snd, hs.kept hkind exc h]
    rfl
  | stop exit => exact hstop exit hev h
  | shutdown exit =>
    rw [Sys.step_shutdown_after] at h
    simp only [Sys.step, FFNWorker.shutdown_eq]
    exact hstop exit hev h

end Inv

/-- A `stop` that raises nothing leaves no thread. -/
theorem FFNWorker.afterJoin_thread (w : FFNWorker E) (h : w.afterJoin.2 = none) :
    w.afterJoin.1.ffnThread = none := by
  by_cases halive : w.alive
  · rw [afterJoin_alive halive] at h
    contradiction
  by_cases hdrain : w.drains
  · unfold afterJoin at h ⊢
    rw [if_neg halive, if_pos hdrain] at h ⊢
    cases herror : w.ffnLoopError with
    | none => rw [raise_of_none herror]
    | some exc =>
      have hsnd : w.raiseFfnLoopErrorIfAny.2 = some (.loopFailed exc) := by
        rw [raise_snd, herror]
        rfl
      rw [← Prod.eta w.raiseFfnLoopErrorIfAny, hsnd] at h
      contradiction
  · rw [afterJoin_exited halive hdrain, raise_thread]

/-- The call that releases the resources leaves no thread. -/
theorem Sys.step_thread (s : Sys E) (ev : Event E) (h : (s.step ev).released = true) :
    (s.step ev).after.worker.ffnThread = none := by
  cases ev with
  | shutdown exit =>
    simp only [Sys.step, FFNWorker.shutdown_eq] at h ⊢
    split at h
    · simpa using h
    · apply FFNWorker.afterJoin_thread
      exact Option.isNone_iff_eq_none.1 h
  | _ => contradiction

/-- The resources are released only after the thread has exited. -/
theorem Sys.step_exited (s : Sys E) (ev : Event E) (h : (s.step ev).released = true) :
    ¬ (s.step ev).after.worker.alive := by
  intro halive
  unfold FFNWorker.alive at halive
  rw [s.step_thread ev h] at halive
  contradiction

theorem FFNWorker.stop_thread {w : FFNWorker E} (hdrain : w.requiresAsyncDrain = false)
    (exit : Option (Exit E)) (hexited : ¬ (w.stopFfnServerLoop exit).1.alive) :
    (w.stopFfnServerLoop exit).1.ffnThread = none := by
  obtain ⟨_, halive, heq⟩ | ⟨_, heq⟩ := stop_cases hdrain exit
  · rw [heq] at hexited
    exact absurd (requestStop_alive.2 halive) hexited
  · rw [heq, raise_thread]
    rfl

@[simp] theorem FFNWorker.stop_kind {w : FFNWorker E} (hdrain : w.requiresAsyncDrain = false)
    (exit : Option (Exit E)) : (w.stopFfnServerLoop exit).1.kind = w.kind := by
  obtain ⟨_, _, heq⟩ | ⟨_, heq⟩ := stop_cases hdrain exit
  · rw [heq, requestStop_kind]
  · rw [heq, raise_kind, stopped_kind]

/-- The GPU worker releases the resources once the thread has exited. -/
theorem Inv.gpu_releases {s : Sys E} (hs : Inv s) (hkind : s.worker.kind = .gpu) (exit : Option (Exit E))
    (h : ¬ (s.step (.shutdown exit)).after.worker.alive) : (s.step (.shutdown exit)).released = true := by
  rw [Sys.step_shutdown_after] at h
  simp only [Sys.step, FFNWorker.shutdown_eq]
  rw [FFNWorker.stop_kind hs.drain, hkind]
  dsimp only
  rw [FFNWorker.stop_thread hs.drain exit h]
  rfl

/-! ## Runs of fine events -/

/-- What holds besides when every event is fine. -/
structure Settled (s : Sys E) : Prop where
  inv : Inv s
  genuine : ∀ exc, s.worker.ffnLoopError = some exc → s.ended = some exc
  requested : s.worker.alive → s.worker.closed = true → s.worker.ffnShutdownEvent = some true
  reopened : s.worker.kind = .npu → s.worker.closed = true → s.worker.connectorInitialized = false

namespace Settled
variable {s : Sys E}

theorem fresh (h : Fresh s) : Settled s where
  inv := Inv.fresh h
  genuine exc herror := by
    rw [h.error] at herror
    contradiction
  requested halive := by
    unfold FFNWorker.alive at halive
    rw [h.thread] at halive
    contradiction
  reopened _ hclosed := by
    rw [h.closed] at hclosed
    contradiction

/-- The error of the worker is the one that ended the loop, if the worker still
has one. -/
theorem error_eq (hs : Settled s) (h : s.ended.isSome → s.worker.ffnLoopError.isSome) :
    s.worker.ffnLoopError = s.ended := by
  cases herror : s.worker.ffnLoopError with
  | some exc => exact (hs.genuine exc herror).symm
  | none =>
    cases hended : s.ended with
    | none => rfl
    | some exc =>
      rw [hended, herror] at h
      exact absurd (h rfl) Bool.false_ne_true

theorem gpu_error_eq (hs : Settled s) (hkind : s.worker.kind = .gpu) : s.worker.ffnLoopError = s.ended := by
  apply hs.error_eq
  intro h
  obtain ⟨exc, hended⟩ := Option.isSome_iff_exists.1 h
  rw [hs.inv.kept hkind exc hended]
  rfl

theorem raise (hs : Settled s) : Settled ⟨s.worker.raiseFfnLoopErrorIfAny.1, s.ended⟩ where
  inv := hs.inv.raise
  genuine exc herror := hs.genuine exc (FFNWorker.raise_error herror)
  requested := by
    simp only [FFNWorker.raise_alive, FFNWorker.raise_closed, FFNWorker.raise_event]
    exact hs.requested
  reopened := by
    simp only [FFNWorker.raise_kind, FFNWorker.raise_closed, FFNWorker.raise_connectorInitialized]
    exact hs.reopened

/-- A loop that ends leaves its own error, and no other: when its receive is
cancelled, the event is set, and when the loop of the NPU worker fails, it is not. -/
theorem finishLoop_error {w : FFNWorker E} (hdrain : w.requiresAsyncDrain = false)
    (herror : w.ffnLoopError = none) {x : Exit E}
    (hcancelled : ∀ exc, x = .cancelled exc → w.ffnShutdownEvent = some true)
    (hfailed : ∀ exc, x = .failed exc → w.kind = .npu → w.ffnShutdownEvent ≠ some true) :
    (w.finishLoop x).ffnLoopError = x.error none := by
  rw [FFNWorker.finishLoop_error hdrain]
  cases x with
  | normal => exact herror
  | cancelled exc =>
    dsimp only
    rw [if_pos (hcancelled exc rfl)]
    exact herror
  | failed exc =>
    dsimp only
    rw [if_neg]
    · rfl
    · rintro ⟨hkind, hset⟩
      exact hfailed exc rfl hkind hset

theorem loopExit (hs : Settled s) {x : Exit E} (hx : x.Possible s.worker)
    (hfine : Event.Fine s (.loopExit x)) :
    Settled ⟨s.worker.finishLoop x, x.error s.ended⟩ := by
  obtain ⟨hended, herror, _⟩ := hs.inv.running hx.1
  have hleft : (s.worker.finishLoop x).ffnLoopError = x.error s.ended := by
    rw [hended]
    apply finishLoop_error hs.inv.drain herror
    · intro exc h
      exact hs.requested hx.1 (hx.2 exc h)
    · rintro exc rfl hkind
      unfold Event.Fine at hfine
      rw [hkind] at hfine
      exact hfine
  exact {
    inv := hs.inv.loopExit hx
    genuine := fun exc h => by rw [← hleft]; exact h
    requested := fun halive => absurd halive (FFNWorker.finishLoop_alive x)
    reopened := by
      rw [FFNWorker.finishLoop_eq]
      exact hs.reopened }

/-- What `stop` needs of a run: the worker still has its error, and the loop of
the NPU worker does not fail while `stop` waits for it. -/
def Stoppable (s : Sys E) (exit : Option (Exit E)) : Prop :=
  s.worker.kind = .npu → (s.ended.isSome → s.worker.ffnLoopError.isSome) ∧ ∀ exc, exit ≠ some (.failed exc)

theorem stoppable {exit : Option (Exit E)} (hfine : Event.Fine s (.stop exit)) : Stoppable s exit := by
  intro hkind
  unfold Event.Fine at hfine
  rw [hkind] at hfine
  cases exit with
  | none => exact ⟨hfine, fun _ => nofun⟩
  | some x =>
    cases x with
    | failed exc => exact hfine.elim
    | normal => exact ⟨hfine, fun _ => nofun⟩
    | cancelled exc => exact ⟨hfine, fun _ => nofun⟩

/-- The NPU worker is shut down when no error has ended its loop. -/
theorem shutdown_fine {exit : Option (Exit E)} (hfine : Event.Fine s (.shutdown exit))
    (hkind : s.worker.kind = .npu) : s.ended = none ∧ ∀ exc, exit ≠ some (.failed exc) := by
  unfold Event.Fine at hfine
  rw [hkind] at hfine
  cases exit with
  | none => exact ⟨hfine, fun _ => nofun⟩
  | some x =>
    cases x with
    | failed exc => exact hfine.elim
    | normal => exact ⟨hfine, fun _ => nofun⟩
    | cancelled exc => exact ⟨hfine, fun _ => nofun⟩

theorem shutdown_stoppable {exit : Option (Exit E)} (hfine : Event.Fine s (.shutdown exit)) :
    Stoppable s exit := by
  intro hkind
  obtain ⟨hended, hfailed⟩ := shutdown_fine hfine hkind
  refine ⟨?_, hfailed⟩
  rw [hended]
  intro h
  contradiction

/-- The error of a stopped worker is the one that ended the loop. -/
theorem stopped_error (hs : Settled s) {exit : Option (Exit E)} (hstop : Stoppable s exit)
    (hexit : ∀ x, exit = some x → x.Possible s.worker.requestStop) :
    (s.worker.stopped exit).ffnLoopError = exit.elim s.ended (·.error s.ended) := by
  rw [FFNWorker.stopped_error]
  cases exit with
  | none =>
    change s.worker.requestStop.ffnLoopError = s.ended
    rw [FFNWorker.requestStop_error]
    cases hkind : s.worker.kind with
    | gpu => exact hs.gpu_error_eq hkind
    | npu => exact hs.error_eq (hstop hkind).1
  | some x =>
    have halive := FFNWorker.requestStop_alive.1 (hexit x rfl).1
    obtain ⟨hended, herror, hevent⟩ := hs.inv.running halive
    change (s.worker.requestStop.finishLoop x).ffnLoopError = x.error s.ended
    rw [hended]
    apply finishLoop_error
    · simpa using hs.inv.drain
    · simpa using herror
    · intro exc _
      obtain ⟨set, hset⟩ := Option.isSome_iff_exists.1 hevent
      rw [FFNWorker.requestStop_event, hset]
      rfl
    · rintro exc rfl hkind
      rw [FFNWorker.requestStop_kind] at hkind
      exact absurd rfl ((hstop hkind).2 exc)

/-- `stop` reports exactly the error that ended the loop. -/
theorem stop_reports (hs : Settled s) {exit : Option (Exit E)} (hstop : Stoppable s exit)
    (hexit : ∀ x, exit = some x → x.Possible s.worker.requestStop) (exc : E) :
    (s.worker.stopFfnServerLoop exit).2 = some (.loopFailed exc) ↔
      exit.elim s.ended (·.error s.ended) = some exc := by
  obtain ⟨rfl, halive, heq⟩ | ⟨_, heq⟩ := FFNWorker.stop_cases hs.inv.drain exit
  · have hended := (hs.inv.running halive).1
    rw [heq]
    simp [hended]
  · rw [heq, FFNWorker.raise_snd, hs.stopped_error hstop hexit]
    simp

theorem stop (hs : Settled s) {exit : Option (Exit E)} (hstop : Stoppable s exit)
    (hexit : ∀ x, exit = some x → x.Possible s.worker.requestStop) :
    Settled ⟨(s.worker.stopFfnServerLoop exit).1, exit.elim s.ended (·.error s.ended)⟩ := by
  obtain ⟨rfl, halive, heq⟩ | ⟨_, heq⟩ := FFNWorker.stop_cases hs.inv.drain exit
  · have hinv := hs.inv.stop hexit
    rw [heq] at hinv ⊢
    obtain ⟨_, herror, hevent⟩ := hs.inv.running halive
    obtain ⟨set, hset⟩ := Option.isSome_iff_exists.1 hevent
    exact {
      inv := hinv
      genuine := by
        intro exc h
        change s.worker.requestStop.ffnLoopError = some exc at h
        rw [FFNWorker.requestStop_error, herror] at h
        contradiction
      requested := by
        intro _ _
        change s.worker.requestStop.ffnShutdownEvent = some true
        rw [FFNWorker.requestStop_event, hset]
        rfl
      reopened := by
        rw [FFNWorker.requestStop_eq hs.inv.drain]
        intro hkind _
        exact if_pos hkind }
  · rw [heq]
    have hstopped : Settled ⟨s.worker.stopped exit, exit.elim s.ended (·.error s.ended)⟩ := {
      inv := hs.inv.stopped hexit
      genuine := fun exc h => by rw [← hs.stopped_error hstop hexit]; exact h
      requested := fun halive => absurd halive (FFNWorker.stopped_exited exit)
      reopened := by
        intro hkind _
        change (s.worker.stopped exit).connectorInitialized = false
        rw [FFNWorker.stopped_connectorInitialized, FFNWorker.requestStop_eq hs.inv.drain]
        exact if_pos (by simpa using hkind) }
    exact hstopped.raise

/-- A fine call of `start` that starts no thread for an NPU worker reports its
error, or initializes a connector after no error. -/
theorem start_npu {initError : Option E} (hfine : Event.Fine s (.start initError))
    (hkind : s.worker.kind = .npu) (hinit : initError.isSome) :
    s.ended.isSome → s.worker.ffnLoopError = none → s.worker.connectorInitialized = true := by
  unfold Event.Fine at hfine
  rw [hkind] at hfine
  cases initError with
  | none => contradiction
  | some exc => exact hfine

/-- The connection of a loop that a fine call starts is open. -/
theorem start_open (hs : Settled s) {initError : Option E} (hfine : Event.Fine s (.start initError))
    (hexited : ¬ s.worker.alive) (herror : s.worker.ffnLoopError = none)
    (hinit : s.worker.kind = .npu → s.worker.connectorInitialized = true) : s.worker.closed = false := by
  cases hkind : s.worker.kind with
  | gpu =>
    unfold Event.Fine at hfine
    rw [hkind] at hfine
    exact hfine hexited herror
  | npu =>
    cases hclosed : s.worker.closed with
    | false => rfl
    | true =>
      have hreset := hs.reopened hkind hclosed
      rw [hinit hkind] at hreset
      contradiction

/-- `start` reports exactly the error that ended the loop, unless it starts the
loop again. -/
theorem start_reports (hs : Settled s) {initError : Option E}
    (hfine : Event.Fine s (.start initError)) (exc : E) :
    (s.worker.startFfnServerLoop initError).2 = some (.loopFailed exc) ↔
      (if (s.worker.startFfnServerLoop initError).1.alive then none else s.ended) = some exc := by
  obtain ⟨hor, heq⟩ | ⟨hexited, herror, hclosed, exc', rfl, heq⟩ | ⟨_, _, _, _, heq⟩ :=
    FFNWorker.start_cases (w := s.worker) initError
  · rw [heq, FFNWorker.raise_snd]
    by_cases halive : s.worker.alive
    · obtain ⟨_, herror, _⟩ := hs.inv.running halive
      rw [if_pos (FFNWorker.raise_alive.2 halive), herror]
      simp
    · rw [if_neg (mt FFNWorker.raise_alive.1 halive)]
      have hagree : s.worker.ffnLoopError = s.ended := hs.error_eq fun _ => hor.resolve_left halive
      rw [hagree]
      simp
  · -- the connector could not be initialized, so no error has ended the loop
    have hended : s.ended = none := by
      cases hkind : s.worker.kind with
      | gpu =>
        rw [← hs.gpu_error_eq hkind]
        exact herror
      | npu =>
        cases hended : s.ended with
        | none => rfl
        | some exc' =>
          have hinit := start_npu hfine hkind rfl (by rw [hended]; rfl) herror
          rw [hclosed] at hinit
          contradiction
    rw [heq, hended]
    simp
  · rw [heq]
    dsimp only
    rw [if_pos FFNWorker.startThread_alive]
    simp

theorem start (hs : Settled s) {initError : Option E} (hfine : Event.Fine s (.start initError)) :
    Settled ⟨(s.worker.startFfnServerLoop initError).1,
      if (s.worker.startFfnServerLoop initError).1.alive then none else s.ended⟩ := by
  have hinv := hs.inv.start initError
  obtain ⟨_, heq⟩ | ⟨hexited, _, _, _, _, heq⟩ | ⟨hexited, herror, closed, hclosed, heq⟩ :=
    FFNWorker.start_cases (w := s.worker) initError
  · rw [heq]
    by_cases halive : s.worker.alive
    · rw [if_pos (FFNWorker.raise_alive.2 halive), ← (hs.inv.running halive).1]
      exact hs.raise
    · rw [if_neg (mt FFNWorker.raise_alive.1 halive)]
      exact hs.raise
  · rw [heq]
    dsimp only
    rw [if_neg hexited]
    exact hs
  · rw [heq] at hinv ⊢
    have hopen : closed = false := by
      cases closed with
      | false => rfl
      | true =>
        obtain ⟨htrue, hinit⟩ := hclosed rfl
        rw [hs.start_open hfine hexited herror hinit] at htrue
        contradiction
    subst hopen
    exact {
      inv := hinv
      genuine := fun _ h => by contradiction
      requested := fun _ h => by contradiction
      reopened := fun _ h => by contradiction }

/-- Every fine event keeps what is settled. -/
theorem step (hs : Settled s) {ev : Event E} (hev : ev.Possible s) (hfine : ev.Fine s) :
    Settled (s.step ev).after := by
  cases ev with
  | loopExit x => exact hs.loopExit hev hfine
  | start initError => exact hs.start hfine
  | raiseIfFailed => exact hs.raise
  | stop exit => exact hs.stop (stoppable hfine) hev
  | shutdown exit =>
    rw [Sys.step_shutdown_after]
    exact hs.stop (shutdown_stoppable hfine) hev

/-- A fine call reports exactly the error that ended the loop. -/
theorem reports (hs : Settled s) {ev : Event E} (hev : ev.Possible s) (hfine : ev.Fine s)
    (hcall : ev.IsCall) (exc : E) :
    (s.step ev).raised = some (.loopFailed exc) ↔ (s.step ev).after.ended = some exc := by
  cases ev with
  | loopExit x => contradiction
  | start initError => exact hs.start_reports hfine exc
  | raiseIfFailed =>
    have hagree : s.worker.ffnLoopError = s.ended := by
      cases hkind : s.worker.kind with
      | gpu => exact hs.gpu_error_eq hkind
      | npu =>
        unfold Event.Fine at hfine
        rw [hkind] at hfine
        exact hs.error_eq hfine
    change s.worker.raiseFfnLoopErrorIfAny.2 = _ ↔ s.ended = some exc
    rw [FFNWorker.raise_snd, hagree]
    simp
  | stop exit => exact hs.stop_reports (stoppable hfine) hev exc
  | shutdown exit =>
    rw [Sys.step_shutdown_after]
    simp only [Sys.step, FFNWorker.shutdown_eq]
    exact hs.stop_reports (shutdown_stoppable hfine) hev exc

/-- A fine `shutdown` releases the resources once the thread has exited. -/
theorem releases (hs : Settled s) {exit : Option (Exit E)} (hev : Event.Possible s (.shutdown exit))
    (hfine : Event.Fine s (.shutdown exit)) (h : ¬ (s.step (.shutdown exit)).after.worker.alive) :
    (s.step (.shutdown exit)).released = true := by
  cases hkind : s.worker.kind with
  | gpu => exact hs.inv.gpu_releases hkind exit h
  | npu =>
    obtain ⟨hended, hfailed⟩ := shutdown_fine hfine hkind
    rw [Sys.step_shutdown_after] at h
    simp only [Sys.step, FFNWorker.shutdown_eq]
    rw [FFNWorker.stop_kind hs.inv.drain, hkind]
    obtain ⟨_, halive, heq⟩ | ⟨_, heq⟩ := FFNWorker.stop_cases hs.inv.drain exit
    · rw [heq] at h
      exact absurd (FFNWorker.requestStop_alive.2 halive) h
    · have hnone : (s.worker.stopped exit).ffnLoopError = none := by
        rw [hs.stopped_error (shutdown_stoppable hfine) hev, hended]
        cases exit with
        | none => rfl
        | some x =>
          cases herror : x.error (none : Option E) with
          | none => exact herror
          | some exc =>
            rw [Exit.error_of_some herror] at hfailed
            exact absurd rfl (hfailed exc)
      rw [heq, FFNWorker.raise_snd, hnone]
      rfl

end Settled

/-! ## The promises hold in every run -/

theorem Sys.forall_mem_run_cons {P : Record E → Prop} (s : Sys E) (ev : Event E) (evs : List (Event E)) :
    (∀ r ∈ s.run (ev :: evs), P r) ↔ P ⟨s, ev, s.step ev⟩ ∧ ∀ r ∈ (s.step ev).after.run evs, P r := by
  simp [run]

/-- What every step keeps holds before every event of a run. -/
theorem Sys.run_of_step {P : Sys E → Prop} {Q : Record E → Prop}
    (hstep : ∀ s ev, P s → Q ⟨s, ev, s.step ev⟩ → P (s.step ev).after) (evs : List (Event E)) :
    ∀ s : Sys E, P s → (∀ r ∈ s.run evs, Q r) →
      ∀ r ∈ s.run evs, P r.before ∧ r.outcome = r.before.step r.event := by
  induction evs with
  | nil =>
    intro s _ _ r hr
    simp [run] at hr
  | cons ev evs ih =>
    intro s hs hevs
    rw [forall_mem_run_cons] at hevs ⊢
    exact ⟨⟨hs, rfl⟩, ih _ (hstep s ev hs hevs.1) hevs.2⟩

theorem Inv.step_kind {s : Sys E} (hs : Inv s) (ev : Event E) :
    (s.step ev).after.worker.kind = s.worker.kind := by
  cases ev with
  | loopExit x => exact FFNWorker.finishLoop_kind x
  | start initError =>
    change (s.worker.startFfnServerLoop initError).1.kind = _
    obtain ⟨_, heq⟩ | ⟨_, _, _, _, _, heq⟩ | ⟨_, _, _, _, heq⟩ :=
      FFNWorker.start_cases (w := s.worker) initError
    · rw [heq, FFNWorker.raise_kind]
    · rw [heq]
    · rw [heq]
      rfl
  | raiseIfFailed => exact FFNWorker.raise_kind
  | stop exit => exact FFNWorker.stop_kind hs.drain exit
  | shutdown exit =>
    rw [Sys.step_shutdown_after]
    exact FFNWorker.stop_kind hs.drain exit

/-- What the GPU worker promises of an event. -/
theorem Inv.gpu_promises {r : Record E} (hs : Inv r.before) (hkind : r.before.worker.kind = .gpu)
    (houtcome : r.outcome = r.before.step r.event) (hev : r.event.Possible r.before) :
    (r.event.IsCall → ∀ exc, r.outcome.after.ended = some exc → r.outcome.raised = some (.loopFailed exc)) ∧
    ∀ exit, r.event = .shutdown exit → ¬ r.outcome.after.worker.alive → r.outcome.released = true := by
  rw [houtcome]
  constructor
  · exact fun hcall exc h => hs.gpu_reported hkind hev hcall exc h
  · intro exit hshutdown hexited
    rw [hshutdown] at hexited ⊢
    exact hs.gpu_releases hkind exit hexited

theorem Settled.ok {s : Sys E} (hs : Settled s) {ev : Event E} (hev : ev.Possible s) (hfine : ev.Fine s) :
    Record.Ok ⟨s, ev, s.step ev⟩ where
  exited h := s.step_exited ev h
  reported hcall exc := (hs.reports hev hfine hcall exc).2
  failed exc h := by
    cases ev with
    | loopExit x => contradiction
    | _ => exact (hs.reports hev hfine trivial exc).1 h
  releases exit hshutdown hexited := by
    change ev = .shutdown exit at hshutdown
    subst hshutdown
    exact hs.releases hev hfine hexited

/-- Every run releases the native resources only after the thread has exited. In
every run of the GPU worker each call reports the error that ended the loop, and
`shutdown` releases the resources once the thread has exited. In every run of
either worker whose events are fine, all the promises are kept. -/
theorem lifecycle (s : Sys E) (hs : Fresh s) (evs : List (Event E))
    (hevs : ∀ r ∈ s.run evs, r.event.Possible r.before) :
    (∀ r ∈ s.run evs, r.outcome.released = true → ¬ r.outcome.after.worker.alive) ∧
    (s.worker.kind = .gpu → ∀ r ∈ s.run evs,
      (r.event.IsCall → ∀ exc, r.outcome.after.ended = some exc →
        r.outcome.raised = some (.loopFailed exc)) ∧
      ∀ exit, r.event = .shutdown exit → ¬ r.outcome.after.worker.alive → r.outcome.released = true) ∧
    ((∀ r ∈ s.run evs, r.event.Fine r.before) → ∀ r ∈ s.run evs, r.Ok) := by
  refine ⟨?_, ?_, ?_⟩
  · intro r hr hreleased
    obtain ⟨_, houtcome⟩ := Sys.run_of_step (P := fun _ => True) (Q := fun _ => True)
      (fun _ _ _ _ => trivial) evs s trivial (fun _ _ => trivial) r hr
    rw [houtcome] at hreleased ⊢
    exact r.before.step_exited r.event hreleased
  · intro hkind r hr
    obtain ⟨⟨hinv, hgpu⟩, houtcome⟩ := Sys.run_of_step
      (P := fun t => Inv t ∧ t.worker.kind = .gpu) (Q := fun r => r.event.Possible r.before)
      (fun t ev ht hev => ⟨ht.1.step hev, by rw [ht.1.step_kind]; exact ht.2⟩)
      evs s ⟨Inv.fresh hs, hkind⟩ hevs r hr
    exact hinv.gpu_promises hgpu houtcome (hevs r hr)
  · intro hfine r hr
    obtain ⟨hsettled, houtcome⟩ := Sys.run_of_step
      (P := Settled) (Q := fun r => r.event.Possible r.before ∧ r.event.Fine r.before)
      (fun t ev ht hev => ht.step hev.1 hev.2)
      evs s (Settled.fresh hs) (fun r hr => ⟨hevs r hr, hfine r hr⟩) r hr
    obtain ⟨before, ev, outcome⟩ := r
    change outcome = before.step ev at houtcome
    rw [houtcome]
    exact hsettled.ok (hevs _ hr) (hfine _ hr)

/-- A worker before its loop is started. -/
def idle (kind : Kind) : Sys Nat :=
  { worker := ⟨kind, false, true, false, none, none, none⟩, ended := none }

theorem idle_fresh (kind : Kind) : Fresh (idle kind) := ⟨rfl, rfl, rfl, rfl, rfl⟩

/-- A loop that fails, and the calls after it. -/
def failingRun : List (Event Nat) := [.start none, .loopExit (.failed 7), .shutdown none, .raiseIfFailed]

theorem failingRun_possible (kind : Kind) :
    ∀ r ∈ (idle kind).run failingRun, r.event.Possible r.before := by
  simp only [failingRun, Sys.forall_mem_run_cons]
  refine ⟨trivial, ⟨?_, fun _ h => by contradiction⟩, fun _ h => by contradiction, trivial, ?_⟩
  · cases kind <;> rfl
  · intro r hr
    simp [Sys.run] at hr

theorem lifecycle_failing_gpu : Fresh (idle .gpu) ∧ ∀ r ∈ (idle .gpu).run failingRun, r.Ok := by
  refine ⟨idle_fresh .gpu, ?_⟩
  apply (lifecycle (idle .gpu) (idle_fresh .gpu) failingRun (failingRun_possible .gpu)).2.2
  simp only [failingRun, Sys.forall_mem_run_cons]
  refine ⟨fun _ _ => rfl, trivial, trivial, trivial, ?_⟩
  intro r hr
  simp [Sys.run] at hr

/-- The `shutdown` of the NPU worker reports the error of a failed loop and keeps
the resources. -/
theorem npu_keeps_resources : ¬ ∀ (s : Sys Nat) (evs : List (Event Nat)), Fresh s →
    (∀ r ∈ s.run evs, r.event.Possible r.before) → ∀ r ∈ s.run evs, r.Ok := by
  intro h
  have hok := h (idle .npu) failingRun (idle_fresh .npu) (failingRun_possible .npu)
  simp only [failingRun, Sys.forall_mem_run_cons] at hok
  obtain ⟨_, _, hshutdown, _⟩ := hok
  have hreleased := hshutdown.releases none rfl (by decide)
  contradiction

end AfdPlugin.FfnWorker
