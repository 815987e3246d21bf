import AfdPlugin.Lib.Dict
import AfdPlugin.Lib.StreamOrder
import AfdPlugin.Worker.RoutedFfn
/-!
# The streams of the DeepEP lanes

On an FFN rank each stage has a lane, and with two lanes each lane has a stream of
its own for its dispatches and combines; the experts run on the caller's stream.
The connector orders the streams by events: what each step leaves in its fields
decides where the next one waits.

A captured step goes to the graph instead: its commands are those of a session of
their own, and a lane's stream takes part once it has waited for an event of that
session. A replay runs the whole graph as one command of the caller's stream.
-/

namespace AfdPlugin.Deepep.LaneStreams

open Streams

/-! ## Data -/

inductive Exc where
  | runtimeError (message : String)
  | keyError (key : String)
  /-- `cudaErrorStreamCaptureIsolation`: a wait across the border of a capture. -/
  | streamCaptureIsolation
  deriving DecidableEq, Repr

inductive StreamName where
  | caller
  | lane (i : Nat)
  deriving DecidableEq, Repr

/-- A stream within a capture session, or outside of captures (session 0). -/
@[ext] structure CudaStream where
  session : Nat
  name : StreamName
  deriving DecidableEq, Repr

/-- What runs on a stream. A lane numbers its dispatches, and the handle of a
dispatch goes to its experts and its combine. -/
inductive Kernel where
  | work
  | dispatch (lane : Int) (handle : Nat)
  | experts (lane : Int) (handle : Nat)
  | combine (lane : Int) (handle : Nat)
  | replay (session : Nat)
  deriving DecidableEq, Repr

abbrev CudaEvent := Streams.Event CudaStream

/-- `DeepEPM2NTransferState`. -/
structure TransferState where
  handle : Nat
  lane : Int
  readyEvent : CudaEvent
  expertsDone : Option CudaEvent := none

/-- The connector's fields for its lanes. -/
structure Connector where
  /-- `len(self.lanes)` -/
  numLanes : Nat
  laneStreams : List StreamName
  stagePlans : List Int := []
  laneDone : Dict Int CudaEvent := ∅
  stepFork : Option CudaEvent := none
  stepForkCapturing : Bool := false
  lanesJoined : List Int := []

/-- The lanes of `init_afd_connector`: one lane runs on the caller's stream. -/
def initLanes (numLanes : Nat) : Connector where
  numLanes := numLanes
  laneStreams := if 1 < numLanes then (List.range numLanes).map .lane else []

/-- An FFN process: its connector, its device, and the payload it holds for each
stage. -/
structure Host where
  connector : Connector
  device : Device CudaStream Kernel := fun _ => ⟨[], 0, false⟩
  /-- The capture that is going on, or 0. -/
  session : Nat := 0
  captures : Nat := 0
  /-- How often each lane has dispatched. -/
  dispatches : Int → Nat := fun _ => 0
  payloads : Int → Option TransferState := fun _ => none

abbrev M := Except Exc

/-! ## Streams -/

namespace Host

/-- Where a stream's commands go. -/
def place (h : Host) (s : StreamName) : CudaStream :=
  if s = .caller ∨ (h.device ⟨h.session, s⟩).commands.isEmpty = false then ⟨h.session, s⟩ else ⟨0, s⟩

def launch (h : Host) (s : StreamName) (k : Kernel) : Host :=
  { h with device := h.device.enqueue (h.place s) [.kernel k] }

/-- `Event()`, then `record`. -/
def record (h : Host) (s : StreamName) : CudaEvent := h.device.record (h.place s)

/-- `wait_event`. A stream that waits for an event of the capture becomes part of it. -/
def waitEvent (h : Host) (s : StreamName) (e : CudaEvent) : M Host :=
  if e.stream.session = (h.place s).session ∨ e.stream.session = h.session then
    .ok { h with device := h.device.enqueue ⟨e.stream.session, s⟩ [.waitEvent e] }
  else .error .streamCaptureIsolation

/-- `_lanes`, then the stream: a lane without a stream runs on the caller's. -/
def laneStream (h : Host) (stageIdx : Int) : M StreamName :=
  if 0 ≤ stageIdx ∧ stageIdx < h.connector.numLanes then
    .ok (if h.connector.laneStreams.isEmpty then .caller
      else h.connector.laneStreams.getD stageIdx.toNat .caller)
  else .error (.runtimeError s!"stage {stageIdx} has no lane ({h.connector.numLanes})")

def forkTo (h : Host) (laneStream : StreamName) : M Host :=
  if laneStream ≠ .caller then h.waitEvent laneStream (h.record .caller) else .ok h

def resetStepFork (h : Host) : Host :=
  { h with connector := { h.connector with
    stepFork := none, stepForkCapturing := false, lanesJoined := [] } }

def isCapturing (h : Host) : Bool := h.session ≠ 0

/-- A change of capture mode starts over. -/
def checkStepFork (h : Host) : Host :=
  if h.connector.stepFork.isSome ∧ h.isCapturing ≠ h.connector.stepForkCapturing then h.resetStepFork else h

/-- The fork event of the step, which its first lane operation records. -/
def stepForkEvent (h : Host) : CudaEvent := h.connector.stepFork.getD (h.record .caller)

def recordStepFork (h : Host) : Host :=
  if h.connector.stepFork.isSome then h
  else { h with connector := { h.connector with
    stepFork := some (h.record .caller), stepForkCapturing := h.isCapturing } }

def addJoined (h : Host) (lane : Int) : Host :=
  { h with connector := { h.connector with lanesJoined := lane :: h.connector.lanesJoined } }

/-- `_join_step`, on a stream of the lane's own. -/
def joinOwn (h : Host) (lane : Int) (laneStream : StreamName) : M Host :=
  if lane ∈ h.connector.lanesJoined then .ok h
  else (h.recordStepFork.waitEvent laneStream h.stepForkEvent).map (·.addJoined lane)

def joinStep (h : Host) (lane : Int) (laneStream : StreamName) : M Host :=
  if laneStream = .caller then .ok h else h.checkStepFork.joinOwn lane laneStream

/-! ## Calls -/

def setPayload (h : Host) (stageIdx : Int) (state : Option TransferState) : Host :=
  { h with payloads := Function.update h.payloads stageIdx state }

def setLaneDone (h : Host) (laneDone : Dict Int CudaEvent) : Host :=
  { h with connector := { h.connector with laneDone := laneDone } }

/-- `_dispatch`. -/
def dispatch (h : Host) (stageIdx : Int) (laneStream : StreamName) : M Host :=
  if stageIdx ∈ h.connector.stagePlans then
    .ok { h.launch laneStream (.dispatch stageIdx (h.dispatches stageIdx)) with
      dispatches := Function.update h.dispatches stageIdx (h.dispatches stageIdx + 1) }
  else .error (.runtimeError
    s!"no plan for stage {stageIdx}; call control_plane.update_state_from_dp_metadata first")

def recvAttnOutput (h : Host) (ubatchIdx : Int) : M Host := do
  let laneStream ← h.laneStream ubatchIdx
  let joined ← h.joinStep ubatchIdx laneStream
  let dispatched ← joined.dispatch ubatchIdx laneStream
  pure (dispatched.setPayload ubatchIdx
    (some ⟨joined.dispatches ubatchIdx, ubatchIdx, dispatched.record laneStream, none⟩))

/-- `_transfer_state` of the payload that is held for the stage. -/
def transferState (h : Host) (stageIdx : Int) : M TransferState :=
  match h.payloads stageIdx with
  | some state => .ok state
  | none => .error (.runtimeError "context does not come from DeepEPM2N recv_attn_output")

/-- `run_experts`, of the payload held for the stage. -/
def runExperts (h : Host) (stageIdx : Int) : M Host := do
  let state ← h.transferState stageIdx
  let ready ← h.waitEvent .caller state.readyEvent
  let _ ← ready.laneStream state.lane
  let ran := ready.launch .caller (.experts state.lane state.handle)
  pure (if ran.connector.laneStreams.isEmpty then ran
    else ran.setPayload stageIdx (some { state with expertsDone := some (ran.record .caller) }))

/-- What the lane waits for before it combines: the lane's experts, or all of the
caller's work if the output is not theirs. -/
def joinExperts (h : Host) (state : TransferState) (laneStream : StreamName) : M Host :=
  match state.expertsDone with
  | some expertsDone =>
    if laneStream ≠ .caller then (h.waitEvent laneStream expertsDone).map (·.addJoined state.lane)
    else h.forkTo laneStream
  | none => h.forkTo laneStream

def sendFfnOutput (h : Host) (stageIdx : Int) : M Host := do
  let state ← h.transferState stageIdx
  let laneStream ← h.laneStream state.lane
  let joined ← h.joinExperts state laneStream
  let combined := joined.launch laneStream (.combine state.lane state.handle)
  pure ((combined.setLaneDone
    (combined.connector.laneDone.set state.lane (combined.record laneStream))).setPayload stageIdx none)

/-- `synchronize_lanes`. -/
def synchronizeLanes (h : Host) : M Host := do
  let joined ← h.connector.laneDone.entries.foldlM (fun h done => h.waitEvent .caller done.2) h
  pure (joined.setLaneDone ∅).resetStepFork

end Host

/-! ## Steps -/

/-- What the runner does in a step; `work` is work of its own on its stream. -/
inductive Call where
  | work
  | recvAttnOutput (stageIdx : Int)
  | runExperts (stageIdx : Int)
  | sendFfnOutput (stageIdx : Int)
  deriving DecidableEq, Repr

def Call.run (h : Host) : Call → M Host
  | .work => .ok (h.launch .caller .work)
  | .recvAttnOutput stageIdx => h.recvAttnOutput stageIdx
  | .runExperts stageIdx => h.runExperts stageIdx
  | .sendFfnOutput stageIdx => h.sendFfnOutput stageIdx

/-- A step: the control plane plans its stages, then the calls, then the lanes are
synchronized. -/
def laneStep (plans : List Int) (calls : List Call) (h : Host) : M Host := do
  let done ← calls.foldlM Call.run { h with connector := { h.connector with stagePlans := plans } }
  done.synchronizeLanes

/-- Work of the caller. -/
def works (n : Nat) (h : Host) : Host := (List.replicate n Kernel.work).foldl (Host.launch · .caller) h

def beginCapture (h : Host) : Host := { h with session := h.captures + 1, captures := h.captures + 1 }

def endCapture (h : Host) : Host := { h with session := 0 }

inductive Item where
  | work
  | step (plans : List Int) (calls : List Call)
  /-- A step that is captured, between other work of the caller's. -/
  | capture (plans : List Int) (before : Nat) (calls : List Call) (after : Nat)
  | replay (session : Nat)

def Item.run (h : Host) : Item → M Host
  | .work => .ok (works 1 h)
  | .step plans calls => laneStep plans calls h
  | .capture plans before calls after => do
    let captured ← laneStep plans calls (works before (beginCapture h))
    pure (endCapture (works after captured))
  | .replay session =>
    if 0 < session ∧ session ≤ h.captures then .ok (h.launch .caller (.replay session))
    else .error (.keyError "graph")

/-! ## What is ordered -/

/-- The stream that a stage's lane works on. -/
def laneName (numLanes : Nat) (lane : Int) : StreamName :=
  if 1 < numLanes then .lane lane.toNat else .caller

/-- What has to come before what. Within a session a lane dispatches after it has
combined what it dispatched before. -/
inductive Precedes : Nat → Kernel → Nat → Kernel → Prop where
  | dispatch_experts (s t : Nat) (lane : Int) (handle : Nat) :
      Precedes s (.dispatch lane handle) t (.experts lane handle)
  | experts_combine (s t : Nat) (lane : Int) (handle : Nat) :
      Precedes s (.experts lane handle) t (.combine lane handle)
  | combine_dispatch (s : Nat) (lane : Int) {handle later : Nat} (h : handle < later) :
      Precedes s (.combine lane handle) s (.dispatch lane later)

def Kernel.label : Kernel → Option (Int × Nat)
  | .dispatch lane handle => some (lane, handle)
  | .experts lane handle => some (lane, handle)
  | .combine lane handle => some (lane, handle)
  | _ => none

/-- The kernels on the device are ordered, and their handles are taken. -/
structure Sound (numLanes : Nat) (d : Device CudaStream Kernel) (dispatches : Int → Nat) : Prop where
  handle : ∀ x k l m, d.KernelAt x k → k.label = some (l, m) → m < dispatches l
  combine_stream : ∀ x l m, d.KernelAt x (.combine l m) → x.stream.name = laneName numLanes l
  ordered : ∀ x y j k, d.KernelAt x j → d.KernelAt y k →
    Precedes x.stream.session j y.stream.session k → d.Before x y

theorem Precedes.irrefl {s : Nat} {k : Kernel} (h : Precedes s k s k) : False := by
  cases h

theorem Precedes.label_left {s t : Nat} {j k : Kernel} (h : Precedes s j t k) : j.label ≠ none := by
  cases h <;> simp [Kernel.label]

theorem Precedes.label_right {s t : Nat} {j k : Kernel} (h : Precedes s j t k) : k.label ≠ none := by
  cases h <;> simp [Kernel.label]

/-! A kernel has one kind of kernel right before it, and one right after it. -/

theorem precedes_dispatch {s t : Nat} {j : Kernel} {l : Int} {m : Nat}
    (h : Precedes s j t (.dispatch l m)) :
    s = t ∧ ∃ m' < m, j = .combine l m' := by
  cases h with
  | combine_dispatch _ h => exact ⟨rfl, _, h, rfl⟩

theorem precedes_experts {s t : Nat} {j : Kernel} {l : Int} {m : Nat} (h : Precedes s j t (.experts l m)) :
    j = .dispatch l m := by
  cases h
  rfl

theorem precedes_combine {s t : Nat} {j : Kernel} {l : Int} {m : Nat} (h : Precedes s j t (.combine l m)) :
    j = .experts l m := by
  cases h
  rfl

theorem dispatch_precedes {s t : Nat} {k : Kernel} {l : Int} {m : Nat}
    (h : Precedes s (.dispatch l m) t k) :
    k = .experts l m := by
  cases h
  rfl

theorem experts_precedes {s t : Nat} {k : Kernel} {l : Int} {m : Nat} (h : Precedes s (.experts l m) t k) :
    k = .combine l m := by
  cases h
  rfl

theorem combine_precedes {s t : Nat} {k : Kernel} {l : Int} {m : Nat} (h : Precedes s (.combine l m) t k) :
    ∃ m', m < m' ∧ k = .dispatch l m' := by
  cases h with
  | combine_dispatch _ h => exact ⟨_, h, rfl⟩

section Sound
variable {numLanes : Nat} {d : Device CudaStream Kernel} {dispatches dispatches' : Int → Nat}

theorem Sound.wait (hs : Sound numLanes d dispatches) (s : CudaStream) (e : CudaEvent) :
    Sound numLanes (d.enqueue s [.waitEvent e]) dispatches where
  handle x k l m hk := hs.handle x k l m (Device.kernelAt_enqueue_wait.1 hk)
  combine_stream x l m hk := hs.combine_stream x l m (Device.kernelAt_enqueue_wait.1 hk)
  ordered x y j k hj hk hp :=
    (hs.ordered x y j k (Device.kernelAt_enqueue_wait.1 hj) (Device.kernelAt_enqueue_wait.1 hk) hp).mono
      (Device.extends_enqueue d s _)

/-- A kernel may be launched when everything it has to wait for reaches its stream,
and nothing has to wait for it yet. -/
theorem Sound.launch (hs : Sound numLanes d dispatches) {s : CudaStream} {k : Kernel}
    (hdispatches : ∀ l, dispatches l ≤ dispatches' l)
    (hlabel : ∀ l m, k.label = some (l, m) → m < dispatches' l)
    (hcombine : ∀ l m, k = .combine l m → s.name = laneName numLanes l)
    (hbefore : ∀ x j, d.KernelAt x j → Precedes x.stream.session j s.session k → d.Reaches x s)
    (hafter : ∀ y j, d.KernelAt y j → ¬ Precedes s.session k y.stream.session j) :
    Sound numLanes (d.enqueue s [.kernel k]) dispatches' where
  handle x j l m hj hl := by
    obtain hj | ⟨-, rfl⟩ := Device.kernelAt_enqueue_kernel.1 hj
    · exact Nat.lt_of_lt_of_le (hs.handle x j l m hj hl) (hdispatches l)
    · exact hlabel l m hl
  combine_stream x l m hj := by
    obtain hj | ⟨rfl, hk⟩ := Device.kernelAt_enqueue_kernel.1 hj
    · exact hs.combine_stream x l m hj
    · exact hcombine l m hk.symm
  ordered x y j j' hj hj' hp := by
    have hext := Device.extends_enqueue d s [.kernel k]
    obtain hx | ⟨rfl, rfl⟩ := Device.kernelAt_enqueue_kernel.1 hj
    · obtain hy | ⟨rfl, rfl⟩ := Device.kernelAt_enqueue_kernel.1 hj'
      · exact (hs.ordered x y j j' hx hy hp).mono hext
      · exact (hbefore x j hx hp).before hext (Nat.le_refl _) (by simp)
    · obtain hy | ⟨rfl, rfl⟩ := Device.kernelAt_enqueue_kernel.1 hj'
      · exact absurd hp (hafter y j' hy)
      · exact hp.irrefl.elim

/-- Other work is not ordered. -/
theorem Sound.launch_other (hs : Sound numLanes d dispatches) (s : CudaStream) {k : Kernel}
    (hk : k.label = none) :
    Sound numLanes (d.enqueue s [.kernel k]) dispatches := by
  apply hs.launch
  · exact fun _ => Nat.le_refl _
  · intro l m hl
    rw [hk] at hl
    cases hl
  · rintro l m rfl
    cases hk
  · exact fun x j _ hp => absurd hk hp.label_right
  · exact fun y j _ hp => hp.label_left hk

end Sound

end AfdPlugin.Deepep.LaneStreams
