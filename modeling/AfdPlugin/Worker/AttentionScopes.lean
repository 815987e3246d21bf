import AfdPlugin.Lib.Scopes
import AfdPlugin.Worker.AttentionMetadata
import Mathlib.Tactic
/-!
# The scopes of the Attention runner

The Attention runner publishes its control payloads from inside native calls:
while it executes or captures a model it replaces callables of the native runner
with closures of its own, and keeps what it has decided in side fields. A scope
saves what it replaces and puts it back, whether its body raises or not.

Native code is a program of the calls that meet a replaced callable, of further
scopes, and of exceptions.
-/

namespace AfdPlugin.AttentionRunner

open AttentionMetadata

/-! ## Data -/

inductive Exc where
  | runtimeError (message : String)
  | assertionError (message : String)
  | attributeError (name : String)
  | keyError (key : String)
  /-- An exception of native code. -/
  | native (id : Nat)
  deriving DecidableEq, Repr

inductive CUDAGraphMode where
  | none
  | piecewise
  | full
  deriving DecidableEq, Repr

structure BatchExecutionDescriptor where
  cgMode : CUDAGraphMode
  numTokens : Int32
  numReqs : Nat
  numUbatches : Nat := 1
  deriving DecidableEq, Repr

/-- A micro-batch: its token slice, of `numTokens` tokens, and where its requests
start. -/
structure UBatchSlice where
  tokenStart : Int
  numTokens : Int32
  requestStart : Int
  deriving DecidableEq, Repr

structure AFDForwardContextMetadata where
  tokensStartLoc : List Int
  requestsStartLoc : List Int
  stageIdx : Nat
  tokensLens : List Int32
  numStages : Nat
  transactionId : String
  tokensUnpaddedLens : List Int
  deriving DecidableEq, Repr

/-- A forward context as the native factory creates it; `afdMetadata` is what its
`additional_kwargs` hold already. -/
structure ForwardContext where
  afdMetadata : Option AFDForwardContextMetadata := none
  hasAttnMetadata : Bool := true
  ubatchSlices : Option (List UBatchSlice) := none
  dpMetadata : Option AFDDPMetadata := none
  /-- `num_tokens` of the batch descriptor. -/
  batchDescriptor : Option Int32 := none
  cudagraphRuntimeMode : CUDAGraphMode := .none
  deriving DecidableEq

/-- A call of `UBatchRunner.prepare`, and the stages that the native method
prepares. -/
structure UBatchCall where
  numReqs : Nat
  numTokens : Int32
  numTokensAfterPadding : Int32
  cgMode : CUDAGraphMode := .none
  slices : List UBatchSlice
  numForwardContexts : Nat
  deriving DecidableEq, Repr

/-- `_AFDCaptureEventTracker`. -/
structure CaptureEventTracker where
  expectedEvents : List (BatchExecutionDescriptor × Bool)
  eventIndex : Nat
  deriving DecidableEq, Repr

/-- `__init__`: each descriptor once for warmup, then once for capture. -/
def CaptureEventTracker.new (captureDescs : List BatchExecutionDescriptor) : CaptureEventTracker :=
  ⟨captureDescs.flatMap fun desc => [(desc, true), (desc, false)], 0⟩

/-! ### Callables

A callable is a native one, or a closure over the callable it replaced. -/

/-- `prepare` of the micro-batch runner. -/
inductive Prepare where
  | native (id : Nat)
  /-- `_use_v4_ubatch_preparation` -/
  | aligned (original : Prepare)
  /-- `_use_afd_ubatch_preparation`, with the tracker of a capture -/
  | afd (tracker : Option Nat) (original : Prepare)
  deriving DecidableEq, Repr

/-- `begin_capturable_run` of the micro-batch runner, and `prepare_attn` of the
model state. -/
inductive V4Callable where
  | native (id : Nat)
  | aligned (original : V4Callable)
  deriving DecidableEq, Repr

/-- `run_fullgraph` of the graph manager. -/
inductive RunFullgraph where
  | native (id : Nat)
  | afd (realTokens : Int32) (original : RunFullgraph)
  deriving DecidableEq, Repr

/-- `forward_context.create_forward_context`. -/
inductive CreateForwardContext where
  | native (id : Nat)
  | withAfd (original : CreateForwardContext)
  deriving DecidableEq, Repr

/-- `cudagraph_utils.prepare_inputs_to_capture`. -/
inductive PrepareInputsToCapture where
  | native (id : Nat)
  | afd (tracker : Nat) (original : PrepareInputsToCapture)
  deriving DecidableEq, Repr

/-- `model_runner.dispatch_cg_and_sync_dp`. -/
inductive Dispatch where
  | native (id : Nat)
  | dbo
  deriving DecidableEq, Repr

/-! ### State -/

/-- What the scopes replace: entries of instance dictionaries, and module globals. -/
structure Patches where
  prepare : Option Prepare := none
  beginCapturableRun : Option V4Callable := none
  prepareAttn : Option V4Callable := none
  runFullgraph : Option RunFullgraph := none
  /-- `_afd_fullgraph_replay_hook_active` -/
  hookMarker : Option Unit := none
  createForwardContext : CreateForwardContext := .native 0
  prepareInputsToCapture : PrepareInputsToCapture := .native 0
  dispatch : Dispatch := .native 0
  deriving DecidableEq, Repr

/-- The fields of the runner that a scope saves. -/
structure Sidecar where
  pendingMetadata : Option AFDForwardContextMetadata := none
  suppressMetadataSend : Bool := false
  isWarmup : Bool := false
  isGraphCapturing : Bool := false
  isGraphReplaying : Bool := false
  deriving DecidableEq, Repr

/-- What the peers see of the runner. -/
inductive Event where
  | control (payload : AFDControlPayload)
  | exchange
  deriving DecidableEq

structure Runner where
  patches : Patches := {}
  sidecar : Sidecar := {}
  transactionCounter : Nat := 0
  /-- `_afd_v4_ubatch_inputs`, made for this number of stages. -/
  v4UbatchInputs : Option Nat := none
  /-- The trackers that were made, in order. -/
  trackers : List CaptureEventTracker := []
  /-- How often the control plane was called. -/
  controlCalls : Nat := 0
  log : List Event := []
  deriving DecidableEq

/-- What does not change during a run. `controlFault` tells what the control plane
raises, if it raises, when it is called for the n-th time. -/
structure Env where
  dpSize : Nat := 1
  hasControlPlane : Bool := true
  /-- The number of micro-batches of `ubatch_runner`. -/
  numUbatches : Option Nat := none
  /-- DeepSeek-V4 on CUDA. -/
  deepseekV4Cuda : Bool := false
  /-- `cudagraph_mode` is `FULL_DECODE_ONLY`. -/
  fullDecodeOnly : Bool := false
  hasGraphManager : Bool := true
  captureDescs : List BatchExecutionDescriptor := []
  maxFullDescsToCapture : Option Nat := none
  controlFault : Nat → Option Exc := fun _ => none

abbrev M := Eff Runner Exc

/-! ## Metadata and control -/

/-- What `build_afd_metadata` builds, of the transaction that has the counter's id. -/
def afdMetadata (counter : Nat) (ubatchSlices : List UBatchSlice) (numTokensUnpadded : Int32) :
    AFDForwardContextMetadata :=
  if 1 < ubatchSlices.length then {
    tokensStartLoc := ubatchSlices.map (·.tokenStart)
    requestsStartLoc := ubatchSlices.map (·.requestStart)
    stageIdx := 0
    tokensLens := ubatchSlices.map (·.numTokens)
    numStages := ubatchSlices.length
    transactionId := "afd-" ++ toString counter
    tokensUnpaddedLens := ubatchSlices.map (·.numTokens.toInt) }
  else {
    tokensStartLoc := [0]
    requestsStartLoc := [0]
    stageIdx := 0
    tokensLens := [numTokensUnpadded]
    numStages := 1
    transactionId := "afd-" ++ toString counter
    tokensUnpaddedLens := [numTokensUnpadded.toInt] }

/-- `build_afd_metadata`, with `_next_afd_transaction_id`. -/
def buildAfdMetadata (ubatchSlices : List UBatchSlice) (numTokensUnpadded : Int32) :
    M AFDForwardContextMetadata := do
  let counter ← Eff.read Runner.transactionCounter
  Eff.modify fun r => { r with transactionCounter := counter + 1 }
  pure (afdMetadata counter ubatchSlices numTokensUnpadded)

/-- `_ensure_dp_metadata`. -/
def ensureDpMetadata (env : Env) (dpMetadata : Option AFDDPMetadata)
    (pendingMetadata : Option AFDForwardContextMetadata) : Except Exc AFDDPMetadata :=
  if dpMetadata.isNone ∧ env.dpSize = 1 ∧ pendingMetadata.isNone then
    .error (.runtimeError "AFD metadata is not available for DP metadata fallback")
  else
    (AttentionMetadata.ensureDpMetadata env.dpSize (pendingMetadata.elim [] (·.tokensLens))
      dpMetadata).mapError Exc.runtimeError

/-- `update_state_from_dp_metadata` and `send_dp_metadata_list` of the control
plane. -/
def sendPayload (env : Env) (payload : AFDControlPayload) : M Unit := do
  let n ← Eff.read Runner.controlCalls
  Eff.modify fun r => { r with controlCalls := n + 1 }
  match env.controlFault n with
  | some exc => Eff.raise exc
  | none => Eff.modify fun r => { r with log := r.log ++ [.control payload] }

/-- The stages of a payload: the micro-batches, or the whole batch as stage 0. -/
def dpMetadataList (env : Env) (dpMetadata : Option AFDDPMetadata) (ubatchSlices : List UBatchSlice)
    (pendingMetadata : Option AFDForwardContextMetadata) : Except Exc (Dict Int AFDDPMetadata) :=
  if 1 < ubatchSlices.length then
    .ok (Dict.setAll ∅ ((buildUbatchDpMetadataList env.dpSize (ubatchSlices.map (·.numTokens))).zipIdx.map
      fun e => ((e.2 : Int), e.1)))
  else (ensureDpMetadata env dpMetadata pendingMetadata).map (Dict.set ∅ 0)

/-- `send_dp_metadata`. -/
def sendDpMetadata (env : Env) (dpMetadata : Option AFDDPMetadata) (ubatchSlices : List UBatchSlice) :
    M Unit :=
  if env.hasControlPlane = false then
    Eff.raise (.assertionError "send_dp_metadata needs control plane driven connectors")
  else do
    let sidecar ← Eff.read Runner.sidecar
    let stages ← Eff.ofExcept (dpMetadataList env dpMetadata ubatchSlices sidecar.pendingMetadata)
    sendPayload env {
      dpMetadataList := stages
      isGraphCapturing := sidecar.isGraphCapturing
      isWarmup := sidecar.isWarmup
      isGraphReplaying := sidecar.isGraphReplaying }

/-- How much of a micro-batch lies within the real input. -/
def UBatchSlice.unpaddedLen (ub : UBatchSlice) (numTokensUnpadded : Int32) : Int :=
  max 0 (min (ub.tokenStart + ub.numTokens.toInt) numTokensUnpadded.toInt - ub.tokenStart)

/-- `install_mrv2_ubatch_metadata`; the sidecars of the stages' own contexts are
left out. -/
def installMrv2UbatchMetadata (call : UBatchCall) : M Unit :=
  if call.slices.length ≠ call.numForwardContexts then
    Eff.raise (.assertionError "len(ubatch_slices) == len(forward_contexts)")
  else do
    let metadata ← buildAfdMetadata call.slices call.numTokens
    Eff.modify fun r => { r with sidecar := { r.sidecar with
      pendingMetadata := some { metadata with
        tokensUnpaddedLens := call.slices.map (·.unpaddedLen call.numTokens) }
      suppressMetadataSend := true } }

/-- `_is_ubatch_child_afd_context`. -/
def isUbatchChildAfdContext (ctx : ForwardContext) (metadata : AFDForwardContextMetadata) : Prop :=
  ctx.ubatchSlices = none ∧ 1 < metadata.numStages ∧ metadata.tokensLens.length = 1

instance (ctx : ForwardContext) (metadata : AFDForwardContextMetadata) :
    Decidable (isUbatchChildAfdContext ctx metadata) := by
  unfold isUbatchChildAfdContext
  infer_instance

/-- `_afd_num_tokens_for_context` of the ModelRunnerV2. -/
def afdNumTokensForContext (ctx : ForwardContext) : Except Exc Int32 :=
  match ctx.batchDescriptor with
  | none => .error (.runtimeError "AFD ModelRunnerV2 requires a native eager BatchDescriptor")
  | some numTokens => .ok numTokens

/-- `_full_cudagraph_padded_tokens`. -/
def fullCudagraphPaddedTokens (ctx : ForwardContext) : Option Int32 :=
  if ctx.cudagraphRuntimeMode = .full then ctx.batchDescriptor.map (max 1 ·) else none

/-- The DP metadata that a context publishes: that of its padded graph, or its own. -/
def publishedDpMetadata (env : Env) (ctx : ForwardContext) : Option AFDDPMetadata :=
  match fullCudagraphPaddedTokens ctx with
  | some n =>
    if (ctx.ubatchSlices.getD []).isEmpty then some (buildCaptureDpMetadata env.dpSize n)
      else ctx.dpMetadata
  | none => ctx.dpMetadata

/-- A context that meets no pending transaction starts one. -/
def ensurePendingMetadata (ctx : ForwardContext) : M Unit := do
  let pending ← Eff.read (·.sidecar.pendingMetadata)
  match pending with
  | some _ => pure ()
  | none => do
    let numTokens ← Eff.ofExcept (afdNumTokensForContext ctx)
    let metadata ← buildAfdMetadata (ctx.ubatchSlices.getD []) numTokens
    Eff.modify fun r => { r with sidecar := { r.sidecar with pendingMetadata := some metadata } }

/-- `install_afd_metadata_on_forward_context` of the mixin. -/
def installAfdMetadata (env : Env) (ctx : ForwardContext) : M Unit :=
  if ∃ metadata ∈ ctx.afdMetadata, isUbatchChildAfdContext ctx metadata then pure ()
  else do
    ensurePendingMetadata ctx
    let suppressed ← Eff.read (·.sidecar.suppressMetadataSend)
    if env.hasControlPlane = false ∨ suppressed = true then pure ()
    else sendDpMetadata env (publishedDpMetadata env ctx) (ctx.ubatchSlices.getD [])

/-- `install_afd_metadata_on_forward_context` of the runner: a context for KV work
alone starts no transaction. -/
def installAfdMetadataOnForwardContext (env : Env) (ctx : ForwardContext) : M Unit :=
  if ctx.batchDescriptor = none ∧ ctx.hasAttnMetadata = false then pure ()
  else installAfdMetadata env ctx

/-! ## The capture tracker -/

def Runner.tracker (r : Runner) (t : Nat) : CaptureEventTracker := r.trackers.getD t (.new [])

/-- `consume`. -/
def consume (t numReqs : Nat) (numTokens : Int32) (numUbatches : Nat) :
    M (BatchExecutionDescriptor × Bool) := do
  let tracker ← Eff.read (·.tracker t)
  match tracker.expectedEvents[tracker.eventIndex]? with
  | none =>
    Eff.raise (.runtimeError "AFD ModelRunnerV2 CUDA Graph observed extra capture input preparation")
  | some (desc, isWarmup) => do
    Eff.modify fun r => { r with
      trackers := r.trackers.set t { tracker with eventIndex := tracker.eventIndex + 1 } }
    if numReqs ≠ desc.numReqs ∨ numTokens ≠ desc.numTokens ∨ numUbatches ≠ desc.numUbatches then
      Eff.raise (.runtimeError
        ("AFD ModelRunnerV2 CUDA Graph capture descriptor/order drift: expected (" ++
          toString desc.numReqs ++ ", " ++ toString desc.numTokens ++ ", " ++
          toString desc.numUbatches ++ "), got (" ++ toString numReqs ++ ", " ++ toString numTokens ++
          ", " ++ toString numUbatches ++ ")"))
    else pure (desc, isWarmup)

/-- `assert_complete`. -/
def assertComplete (t : Nat) : M Unit := do
  let tracker ← Eff.read (·.tracker t)
  if tracker.eventIndex ≠ tracker.expectedEvents.length then
    Eff.raise (.runtimeError
      ("AFD ModelRunnerV2 CUDA Graph capture input-preparation call count drift: expected " ++
        toString tracker.expectedEvents.length ++ ", got " ++ toString tracker.eventIndex))
  else pure ()

/-- A capture event has been prepared for: it is a warmup or the capture itself. -/
def setCaptureEvent (isWarmup : Bool) : M Unit :=
  Eff.modify fun r => { r with sidecar := { r.sidecar with
    isWarmup := isWarmup
    isGraphCapturing := !isWarmup
    isGraphReplaying := false } }

/-! ## Calls of the callables -/

/-- Prepared stages are a capture event of a tracker, or else eager work or a
replay. -/
def markPrepared (call : UBatchCall) : Option Nat → M Unit
  | some tracker => do
    let event ← consume tracker call.numReqs call.numTokensAfterPadding call.slices.length
    setCaptureEvent event.2
  | none =>
    Eff.modify fun r => { r with sidecar := { r.sidecar with isGraphReplaying := call.cgMode = .full } }

/-- A call of `prepare`. -/
def Prepare.run (env : Env) (call : UBatchCall) (native : M Unit) : Prepare → M Unit
  | .native _ => native
  | .aligned original => original.run env call native
  | .afd tracker original => do
    original.run env call native
    markPrepared call tracker
    installMrv2UbatchMetadata call
    if env.hasControlPlane then sendDpMetadata env none call.slices else pure ()

/-- A call of `create_forward_context`. -/
def CreateForwardContext.run (env : Env) (ctx : ForwardContext) (native : M Unit) :
    CreateForwardContext → M Unit
  | .native _ => native
  | .withAfd original => do
    original.run env ctx native
    installAfdMetadataOnForwardContext env ctx

/-- A call of `prepare_inputs_to_capture`. -/
def PrepareInputsToCapture.run (env : Env) (numReqs : Nat) (numTokens : Int32) (native : M Unit) :
    PrepareInputsToCapture → M Unit
  | .native _ => native
  | .afd tracker original => do
    original.run env numReqs numTokens native
    let event ← consume tracker numReqs numTokens 1
    setCaptureEvent event.2
    let metadata ← buildAfdMetadata [] event.1.numTokens
    Eff.modify fun r => { r with sidecar := { r.sidecar with pendingMetadata := some metadata } }
    sendDpMetadata env (some (buildCaptureDpMetadata env.dpSize event.1.numTokens)) []
    Eff.modify fun r => { r with sidecar := { r.sidecar with suppressMetadataSend := true } }

/-- A call of `run_fullgraph`. -/
def RunFullgraph.run (env : Env) (desc : BatchExecutionDescriptor) (native : M Unit) : RunFullgraph → M Unit
  | .native _ => native
  | .afd realTokens original =>
    if 1 < desc.numUbatches then do
      -- `prepare` has sent the payload of the stages
      let pending ← Eff.read (·.sidecar.pendingMetadata)
      match pending with
      | none => Eff.raise (.assertionError "runner._afd_pending_metadata is not None")
      | some metadata =>
        if metadata.numStages ≠ desc.numUbatches then
          Eff.raise (.assertionError "runner._afd_pending_metadata.num_stages == desc.num_ubatches")
        else original.run env desc native
    else do
      let previous ← Eff.read (·.sidecar.isGraphReplaying)
      Eff.tryFinally
        (do
          let metadata ← buildAfdMetadata [] realTokens
          Eff.modify fun r => { r with sidecar := {
            pendingMetadata := some { metadata with tokensLens := [desc.numTokens] }
            suppressMetadataSend := true
            isWarmup := false
            isGraphCapturing := false
            isGraphReplaying := true } }
          sendDpMetadata env (some (buildCaptureDpMetadata env.dpSize desc.numTokens)) []
          original.run env desc native)
        (Eff.modify fun r => { r with sidecar := { r.sidecar with isGraphReplaying := previous } })

/-! ## The scopes -/

namespace Patches

def prepareField : Field Patches (Option Prepare) :=
  ⟨(·.prepare), fun v p => { p with prepare := v }, fun _ _ => rfl, fun _ => rfl, fun _ _ _ => rfl⟩

def beginField : Field Patches (Option V4Callable) :=
  ⟨(·.beginCapturableRun), fun v p => { p with beginCapturableRun := v }, fun _ _ => rfl, fun _ => rfl,
    fun _ _ _ => rfl⟩

def prepareAttnField : Field Patches (Option V4Callable) :=
  ⟨(·.prepareAttn), fun v p => { p with prepareAttn := v }, fun _ _ => rfl, fun _ => rfl, fun _ _ _ => rfl⟩

def runFullgraphField : Field Patches (Option RunFullgraph) :=
  ⟨(·.runFullgraph), fun v p => { p with runFullgraph := v }, fun _ _ => rfl, fun _ => rfl,
    fun _ _ _ => rfl⟩

def hookMarkerField : Field Patches (Option Unit) :=
  ⟨(·.hookMarker), fun v p => { p with hookMarker := v }, fun _ _ => rfl, fun _ => rfl, fun _ _ _ => rfl⟩

def createForwardContextField : Field Patches CreateForwardContext :=
  ⟨(·.createForwardContext), fun v p => { p with createForwardContext := v }, fun _ _ => rfl,
    fun _ => rfl, fun _ _ _ => rfl⟩

def prepareInputsToCaptureField : Field Patches PrepareInputsToCapture :=
  ⟨(·.prepareInputsToCapture), fun v p => { p with prepareInputsToCapture := v }, fun _ _ => rfl,
    fun _ => rfl, fun _ _ _ => rfl⟩

def dispatchField : Field Patches Dispatch :=
  ⟨(·.dispatch), fun v p => { p with dispatch := v }, fun _ _ => rfl, fun _ => rfl, fun _ _ _ => rfl⟩

/-! Without an entry of the instance, its class has the callable. -/

def boundPrepare (p : Patches) : Prepare := p.prepare.getD (.native 0)

def boundBegin (p : Patches) : V4Callable := p.beginCapturableRun.getD (.native 0)

def boundPrepareAttn (p : Patches) : V4Callable := p.prepareAttn.getD (.native 0)

def boundRunFullgraph (p : Patches) : RunFullgraph := p.runFullgraph.getD (.native 0)

end Patches

section Fields
variable {V : Type}

def getPatch (f : Field Patches V) (r : Runner) : V := f.get r.patches

def setPatch (f : Field Patches V) (v : V) (r : Runner) : Runner := { r with patches := f.set v r.patches }

/-- `del obj.name`. -/
def delEntry (f : Field Patches (Option V)) (missing : Exc) : M Unit := do
  let entry ← Eff.read (getPatch f)
  if entry.isNone then Eff.raise missing else Eff.modify (setPatch f none)

/-- An instance entry that was overridden gets its previous value, or is deleted if
it had none. -/
def restoreEntry (f : Field Patches (Option V)) (name : String) (previous : Option V) : M Unit :=
  match previous with
  | some v => Eff.modify (setPatch f (some v))
  | none => delEntry f (.attributeError name)

/-- A module global is replaced while the body runs. -/
def withGlobal (f : Field Patches V) (v : Patches → V) (body : M Unit) : M Unit :=
  Eff.scope (getPatch f) (fun r => setPatch f (v r.patches) r)
    (fun previous => Eff.modify (setPatch f previous)) body

end Fields

/-- `use_gpu_mrv2_dbo_dispatch`. -/
def useGpuMrv2DboDispatch (body : M Unit) : M Unit :=
  withGlobal Patches.dispatchField (fun _ => .dbo) body

/-- `use_afd_metadata_provider`, with the installer of the runner. -/
def useAfdMetadataProvider (body : M Unit) : M Unit :=
  withGlobal Patches.createForwardContextField (fun p => .withAfd p.createForwardContext) body

/-- `_use_afd_capture_input_preparation`. -/
def useAfdCaptureInputPreparation (tracker : Nat) (body : M Unit) : M Unit :=
  withGlobal Patches.prepareInputsToCaptureField (fun p => .afd tracker p.prepareInputsToCapture) body

/-- What `_use_v4_ubatch_preparation` does last; it was given the previous
`prepare_attn`, `prepare` and `begin_capturable_run`. -/
def restoreV4Callables (previous : Option V4Callable × Option Prepare × Option V4Callable) : M Unit := do
  restoreEntry Patches.prepareField "prepare" previous.2.1
  restoreEntry Patches.beginField "begin_capturable_run" previous.2.2
  restoreEntry Patches.prepareAttnField "prepare_attn" previous.1

/-- `_use_v4_ubatch_preparation`; the inputs of the stages are made once. -/
def useV4UbatchPreparation (numUbatches : Nat) (body : M Unit) : M Unit := do
  Eff.modify fun r => { r with v4UbatchInputs := some (r.v4UbatchInputs.getD numUbatches) }
  Eff.scope (fun r => (r.patches.prepareAttn, r.patches.prepare, r.patches.beginCapturableRun))
    (fun r => { r with patches := { r.patches with
      prepareAttn := some (.aligned r.patches.boundPrepareAttn)
      beginCapturableRun := some (.aligned r.patches.boundBegin)
      prepare := some (.aligned r.patches.boundPrepare) } })
    restoreV4Callables
    body

/-- `_use_afd_ubatch_preparation`. -/
def useAfdUbatchPreparation (env : Env) (tracker : Option Nat) (body : M Unit) : M Unit :=
  match env.numUbatches with
  | none => body
  | some numUbatches =>
    let prepared : M Unit :=
      Eff.scope (getPatch Patches.prepareField)
        (fun r => setPatch Patches.prepareField (some (.afd tracker r.patches.boundPrepare)) r)
        (restoreEntry Patches.prepareField "prepare")
        body
    if env.deepseekV4Cuda then useV4UbatchPreparation numUbatches prepared else prepared

/-- What `_use_afd_fullgraph_replay_hook` does last. -/
def removeReplayHook (previous : Option RunFullgraph) : M Unit := do
  restoreEntry Patches.runFullgraphField "run_fullgraph" previous
  delEntry Patches.hookMarkerField (.keyError "_afd_fullgraph_replay_hook_active")

/-- `_use_afd_fullgraph_replay_hook`. -/
def useAfdFullgraphReplayHook (env : Env) (realTokens : Int32) (body : M Unit) : M Unit :=
  if env.hasGraphManager = false then
    Eff.raise (.runtimeError "AFD FULL graph replay hook requires an initialized graph manager")
  else do
    let marker ← Eff.read (getPatch Patches.hookMarkerField)
    if marker.isSome then Eff.raise (.runtimeError "AFD FULL graph replay hook is already active")
    else
      Eff.scope (getPatch Patches.runFullgraphField)
        (fun r => { r with patches := { r.patches with
          hookMarker := some ()
          runFullgraph := some (.afd realTokens r.patches.boundRunFullgraph) } })
        removeReplayHook
        body

/-- `_use_afd_execution_context`. -/
def useAfdExecutionContext (env : Env) (realTokens : Int32) (body : M Unit) : M Unit :=
  let useFullgraphReplayHook := env.fullDecodeOnly && env.hasGraphManager
  let replayed (inner : M Unit) : M Unit :=
    if useFullgraphReplayHook then useAfdFullgraphReplayHook env realTokens inner else inner
  Eff.scope Runner.sidecar
    (fun r => { r with sidecar := { r.sidecar with isGraphReplaying := false } })
    (fun previous => Eff.modify fun r => { r with sidecar := previous })
    (useGpuMrv2DboDispatch (replayed (useAfdUbatchPreparation env none (useAfdMetadataProvider body))))

/-- The descriptors that native capture goes through. -/
def Env.fullCaptureDescs (env : Env) : List BatchExecutionDescriptor :=
  match env.maxFullDescsToCapture with
  | none => env.captureDescs
  | some n => env.captureDescs.take n

/-- `capture_model`, around the native one. -/
def captureModel (env : Env) (native : M Unit) : M Unit :=
  if env.hasGraphManager = false then Eff.raise (.attributeError "_capture_descs")
  else if env.fullCaptureDescs = [] then
    Eff.raise (.runtimeError "AFD ModelRunnerV2 CUDA Graph expected at least one FULL capture descriptor")
  else if ∃ desc ∈ env.fullCaptureDescs, desc.cgMode ≠ .full then
    Eff.raise (.runtimeError "AFD ModelRunnerV2 CUDA Graph expected only FULL capture descriptors")
  else do
    let tracker ← Eff.read (·.trackers.length)
    Eff.modify fun r => { r with trackers := r.trackers ++ [.new env.fullCaptureDescs] }
    Eff.scope Runner.sidecar id (fun previous => Eff.modify fun r => { r with sidecar := previous })
      (useAfdCaptureInputPreparation tracker
        (useAfdUbatchPreparation env (some tracker) (do
          useAfdMetadataProvider native
          assertComplete tracker)))

/-! ## Native code -/

/-- What native code does as far as AFD meets it. A call of a replaced callable
names what the native callable itself does. -/
inductive Prog where
  | done
  | raise (exc : Exc)
  | seq (first rest : Prog)
  /-- `try`, then `except` of every exception. -/
  | recover (body handler : Prog)
  /-- Tensors are exchanged with the FFN ranks. -/
  | exchange
  | createForwardContext (ctx : ForwardContext) (native : Prog)
  | prepare (call : UBatchCall) (native : Prog)
  | prepareInputsToCapture (numReqs : Nat) (numTokens : Int32) (native : Prog)
  | runFullgraph (desc : BatchExecutionDescriptor) (native : Prog)
  /-- `execute_model` of the AFD runner, which runs the native one in its scope. -/
  | executeModel (realTokens : Int32) (native : Prog)
  /-- `capture_model` of the AFD runner. -/
  | captureModel (native : Prog)
  deriving DecidableEq

def Prog.run (env : Env) : Prog → M Unit
  | .done => pure ()
  | .raise exc => Eff.raise exc
  | .seq first rest => do
    first.run env
    rest.run env
  | .recover body handler => Eff.recover (body.run env) fun _ => handler.run env
  | .exchange => Eff.modify fun r => { r with log := r.log ++ [.exchange] }
  | .createForwardContext ctx native => do
    let callable ← Eff.read (·.patches.createForwardContext)
    callable.run env ctx (native.run env)
  | .prepare call native => do
    if env.numUbatches = none then Eff.raise (.attributeError "prepare")
    else do
      let callable ← Eff.read (·.patches.boundPrepare)
      callable.run env call (native.run env)
  | .prepareInputsToCapture numReqs numTokens native => do
    let callable ← Eff.read (·.patches.prepareInputsToCapture)
    callable.run env numReqs numTokens (native.run env)
  | .runFullgraph desc native => do
    if env.hasGraphManager = false then Eff.raise (.attributeError "run_fullgraph")
    else do
      let callable ← Eff.read (·.patches.boundRunFullgraph)
      callable.run env desc (native.run env)
  | .executeModel realTokens native => useAfdExecutionContext env realTokens (native.run env)
  | .captureModel native => AttentionRunner.captureModel env (native.run env)

/-! ## Native code keeps what the scopes replace -/

/-- What no code changes for good: the replaced callables. The transaction
counter only grows, the inputs of the stages stay once they are made, and a tracker
goes on expecting the events it was made for. -/
structure Frame (s t : Runner) : Prop where
  patches : t.patches = s.patches
  transactionCounter : s.transactionCounter ≤ t.transactionCounter
  v4UbatchInputs : ∀ n, s.v4UbatchInputs = some n → t.v4UbatchInputs = some n
  trackers : s.trackers.map (·.expectedEvents) <+: t.trackers.map (·.expectedEvents)

instance : IsPreorder Runner Frame where
  refl _ := ⟨rfl, Nat.le_refl _, fun _ h => h, List.prefix_rfl⟩
  trans _ _ _ hst htu :=
    ⟨htu.patches.trans hst.patches, Nat.le_trans hst.transactionCounter htu.transactionCounter,
      fun n h => htu.v4UbatchInputs n (hst.v4UbatchInputs n h), hst.trackers.trans htu.trackers⟩

open Eff

theorem frame_modify_sidecar (f : Runner → Sidecar) :
    Within Frame (modify fun r => { r with sidecar := f r } : M Unit) :=
  within_modify fun _ => ⟨rfl, Nat.le_refl _, fun _ h => h, List.prefix_rfl⟩

theorem frame_modify_log (f : Runner → List Event) :
    Within Frame (modify fun r => { r with log := f r } : M Unit) :=
  within_modify fun _ => ⟨rfl, Nat.le_refl _, fun _ h => h, List.prefix_rfl⟩

theorem frame_buildAfdMetadata (slices : List UBatchSlice) (numTokens : Int32) :
    Within Frame (buildAfdMetadata slices numTokens) :=
  fun _ => ⟨rfl, Nat.le_succ _, fun _ h => h, List.prefix_rfl⟩

theorem frame_sendPayload (env : Env) (payload : AFDControlPayload) :
    Within Frame (sendPayload env payload) := by
  unfold sendPayload
  refine within_bind (within_read _) fun n => ?_
  apply within_bind
  · exact within_modify fun _ => ⟨rfl, Nat.le_refl _, fun _ h => h, List.prefix_rfl⟩
  · intro _
    cases env.controlFault n with
    | some exc => exact within_raise exc
    | none => exact frame_modify_log _

theorem frame_sendDpMetadata (env : Env) (dpMetadata : Option AFDDPMetadata) (slices : List UBatchSlice) :
    Within Frame (sendDpMetadata env dpMetadata slices) := by
  unfold sendDpMetadata
  refine within_ite (within_raise _) ?_
  refine within_bind (within_read _) fun sidecar => ?_
  refine within_bind (within_ofExcept _) fun stages => ?_
  exact frame_sendPayload env _

theorem frame_installMrv2UbatchMetadata (call : UBatchCall) :
    Within Frame (installMrv2UbatchMetadata call) := by
  unfold installMrv2UbatchMetadata
  refine within_ite (within_raise _) ?_
  refine within_bind (frame_buildAfdMetadata _ _) fun metadata => ?_
  exact frame_modify_sidecar _

theorem frame_ensurePendingMetadata (ctx : ForwardContext) : Within Frame (ensurePendingMetadata ctx) := by
  unfold ensurePendingMetadata
  refine within_bind (within_read _) fun pending => ?_
  cases pending with
  | some _ => exact within_pure _
  | none =>
    refine within_bind (within_ofExcept _) fun numTokens => ?_
    refine within_bind (frame_buildAfdMetadata _ _) fun metadata => ?_
    exact frame_modify_sidecar _

theorem frame_installAfdMetadataOnForwardContext (env : Env) (ctx : ForwardContext) :
    Within Frame (installAfdMetadataOnForwardContext env ctx) := by
  unfold installAfdMetadataOnForwardContext installAfdMetadata
  refine within_ite (within_pure _) (within_ite (within_pure _) ?_)
  refine within_bind (frame_ensurePendingMetadata ctx) fun _ => ?_
  refine within_bind (within_read _) fun suppressed => ?_
  exact within_ite (within_pure _) (frame_sendDpMetadata env _ _)

/-- A tracker that goes on expects what it did. -/
theorem expectedEvents_set (s : Runner) (t eventIndex : Nat) :
    (s.trackers.set t { s.tracker t with eventIndex := eventIndex }).map (·.expectedEvents) =
      s.trackers.map (·.expectedEvents) := by
  apply List.ext_getElem?
  intro i
  rw [List.map_set, List.getElem?_set, List.length_map]
  split
  · rename_i hi
    subst hi
    unfold Runner.tracker
    cases h : s.trackers[t]? with
    | none => simp [List.getElem?_eq_none_iff.1 h]
    | some tracker => simp [(List.getElem?_eq_some_iff.1 h).1, List.getD]
  · rfl

theorem frame_consume (t numReqs : Nat) (numTokens : Int32) (numUbatches : Nat) :
    Within Frame (consume t numReqs numTokens numUbatches) := by
  intro s
  rw [consume, read_bind]
  cases (s.tracker t).expectedEvents[(s.tracker t).eventIndex]? with
  | none => exact refl_of Frame s
  | some event =>
    have hset : Frame s { s with
        trackers := s.trackers.set t { s.tracker t with eventIndex := (s.tracker t).eventIndex + 1 } } :=
      ⟨rfl, Nat.le_refl _, fun _ h => h, by rw [expectedEvents_set]⟩
    dsimp only
    rw [modify_bind]
    split
    · exact hset
    · exact hset

theorem frame_assertComplete (t : Nat) : Within Frame (assertComplete t) := by
  unfold assertComplete
  refine within_bind (within_read _) fun tracker => ?_
  exact within_ite (within_raise _) (within_pure _)

/-! ### Calls -/

section Calls
variable {native : M Unit} (hnative : Within Frame native)
include hnative

theorem frame_prepare (env : Env) (call : UBatchCall) (f : Prepare) :
    Within Frame (f.run env call native) := by
  induction f with
  | native id => exact hnative
  | aligned original ih => exact ih
  | afd tracker original ih =>
    refine within_bind ih fun _ => ?_
    apply within_bind
    · cases tracker with
      | none => exact frame_modify_sidecar _
      | some t => exact within_bind (frame_consume _ _ _ _) fun event => frame_modify_sidecar _
    · intro _
      refine within_bind (frame_installMrv2UbatchMetadata call) fun _ => ?_
      exact within_ite (frame_sendDpMetadata env _ _) (within_pure _)

theorem frame_createForwardContext (env : Env) (ctx : ForwardContext) (f : CreateForwardContext) :
    Within Frame (f.run env ctx native) := by
  induction f with
  | native id => exact hnative
  | withAfd original ih =>
    exact within_bind ih fun _ => frame_installAfdMetadataOnForwardContext env ctx

theorem frame_prepareInputsToCapture (env : Env) (numReqs : Nat) (numTokens : Int32)
    (f : PrepareInputsToCapture) :
    Within Frame (f.run env numReqs numTokens native) := by
  induction f with
  | native id => exact hnative
  | afd tracker original ih =>
    refine within_bind ih fun _ => ?_
    refine within_bind (frame_consume _ _ _ _) fun event => ?_
    refine within_bind (frame_modify_sidecar _) fun _ => ?_
    refine within_bind (frame_buildAfdMetadata _ _) fun metadata => ?_
    refine within_bind (frame_modify_sidecar _) fun _ => ?_
    refine within_bind (frame_sendDpMetadata env _ _) fun _ => ?_
    exact frame_modify_sidecar _

theorem frame_runFullgraph (env : Env) (desc : BatchExecutionDescriptor) (f : RunFullgraph) :
    Within Frame (f.run env desc native) := by
  induction f with
  | native id => exact hnative
  | afd realTokens original ih =>
    refine within_ite ?_ ?_
    · refine within_bind (within_read _) fun pending => ?_
      cases pending with
      | none => exact within_raise _
      | some metadata => exact within_ite (within_raise _) ih
    · refine within_bind (within_read _) fun previous => ?_
      apply within_tryFinally
      · refine within_bind (frame_buildAfdMetadata _ _) fun metadata => ?_
        refine within_bind (frame_modify_sidecar _) fun _ => ?_
        exact within_bind (frame_sendDpMetadata env _ _) fun _ => ih
      · intro s t hst
        exact trans_of Frame hst (frame_modify_sidecar _ t)

end Calls

/-! ### Scopes -/

section Fields
variable {V : Type}

theorem delEntry_run (f : Field Patches (Option V)) (missing : Exc) {v : V} {t : Runner}
    (h : f.get t.patches = some v) : delEntry f missing t = (.ok (), setPatch f none t) := by
  change (if (f.get t.patches).isNone then raise missing else modify (setPatch f none) : M Unit) t = _
  rw [h]
  rfl

/-- A restored entry has its previous value. -/
theorem restoreEntry_run (f : Field Patches (Option V)) (name : String) {v : V} {t : Runner}
    (h : f.get t.patches = some v) (previous : Option V) :
    restoreEntry f name previous t = (.ok (), setPatch f previous t) := by
  cases previous with
  | none => exact delEntry_run f _ h
  | some v => rfl

/-- A replaced global is put back. -/
theorem frame_withGlobal {f : Field Patches V} {v : Patches → V} {body : M Unit}
    (hbody : Within Frame body) :
    Within Frame (withGlobal f v body) := by
  refine within_scope hbody fun s t hst => ?_
  refine ⟨?_, hst.transactionCounter, hst.v4UbatchInputs, hst.trackers⟩
  change f.set (f.get s.patches) t.patches = s.patches
  rw [hst.patches]
  exact f.restore (v s.patches) s.patches

end Fields

/-- The callables of DeepSeek-V4 are restored if they are there. -/
theorem restoreV4Callables_run {t : Runner} {prepare : Prepare} {begin attn : V4Callable}
    (hprepare : t.patches.prepare = some prepare) (hbegin : t.patches.beginCapturableRun = some begin)
    (hattn : t.patches.prepareAttn = some attn)
    (previous : Option V4Callable × Option Prepare × Option V4Callable) :
    restoreV4Callables previous t = (.ok (), { t with patches := { t.patches with
      prepareAttn := previous.1
      prepare := previous.2.1
      beginCapturableRun := previous.2.2 } }) := by
  have hfirst := restoreEntry_run Patches.prepareField "prepare" hprepare previous.2.1
  have hsecond := restoreEntry_run Patches.beginField "begin_capturable_run"
    (t := setPatch Patches.prepareField previous.2.1 t) hbegin previous.2.2
  have hthird := restoreEntry_run Patches.prepareAttnField "prepare_attn"
    (t := setPatch Patches.beginField previous.2.2 (setPatch Patches.prepareField previous.2.1 t))
    hattn previous.1
  unfold restoreV4Callables
  rw [bind_of_ok hfirst, bind_of_ok hsecond, hthird]
  rfl

theorem removeReplayHook_run {t : Runner} {runFullgraph : RunFullgraph}
    (hrun : t.patches.runFullgraph = some runFullgraph) (hmarker : t.patches.hookMarker = some ())
    (previous : Option RunFullgraph) :
    removeReplayHook previous t =
      (.ok (), { t with patches := { t.patches with runFullgraph := previous, hookMarker := none } }) := by
  have hfirst := restoreEntry_run Patches.runFullgraphField "run_fullgraph" hrun previous
  have hsecond := delEntry_run Patches.hookMarkerField (.keyError "_afd_fullgraph_replay_hook_active")
    (t := setPatch Patches.runFullgraphField previous t) hmarker
  unfold removeReplayHook
  rw [bind_of_ok hfirst, hsecond]
  rfl

theorem frame_useV4UbatchPreparation (numUbatches : Nat) {body : M Unit} (hbody : Within Frame body) :
    Within Frame (useV4UbatchPreparation numUbatches body) := by
  unfold useV4UbatchPreparation
  apply within_bind
  · apply within_modify
    intro s
    refine ⟨rfl, Nat.le_refl _, ?_, List.prefix_rfl⟩
    intro n h
    change some (s.v4UbatchInputs.getD numUbatches) = some n
    rw [h]
    rfl
  · intro _
    refine within_scope hbody fun s t hst => ?_
    have hpatches := hst.patches
    -- the three entries are still there
    rw [restoreV4Callables_run (show t.patches.prepare = some _ by rw [hpatches])
      (show t.patches.beginCapturableRun = some _ by rw [hpatches])
      (show t.patches.prepareAttn = some _ by rw [hpatches])]
    refine ⟨?_, hst.transactionCounter, hst.v4UbatchInputs, hst.trackers⟩
    change { t.patches with
      prepareAttn := s.patches.prepareAttn
      prepare := s.patches.prepare
      beginCapturableRun := s.patches.beginCapturableRun } = s.patches
    rw [hpatches]

theorem frame_useAfdUbatchPreparation (env : Env) (tracker : Option Nat) {body : M Unit}
    (hbody : Within Frame body) :
    Within Frame (useAfdUbatchPreparation env tracker body) := by
  unfold useAfdUbatchPreparation
  cases env.numUbatches with
  | none => exact hbody
  | some numUbatches =>
    have hprepared : Within Frame (scope (getPatch Patches.prepareField)
        (fun r => setPatch Patches.prepareField (some (.afd tracker r.patches.boundPrepare)) r)
        (restoreEntry Patches.prepareField "prepare") body) := by
      refine within_scope hbody fun s t hst => ?_
      have hpatches := hst.patches
      rw [restoreEntry_run Patches.prepareField "prepare"
        (show t.patches.prepare = some _ by rw [hpatches]; rfl)]
      refine ⟨?_, hst.transactionCounter, hst.v4UbatchInputs, hst.trackers⟩
      change Patches.prepareField.set (Patches.prepareField.get s.patches) t.patches = s.patches
      rw [hpatches]
      exact Patches.prepareField.restore _ s.patches
    exact within_ite (frame_useV4UbatchPreparation numUbatches hprepared) hprepared

theorem frame_useAfdFullgraphReplayHook (env : Env) (realTokens : Int32) {body : M Unit}
    (hbody : Within Frame body) :
    Within Frame (useAfdFullgraphReplayHook env realTokens body) := by
  unfold useAfdFullgraphReplayHook
  refine within_ite (within_raise _) ?_
  intro s
  change Frame s ((if s.patches.hookMarker.isSome then raise _ else scope _ _ _ body : M Unit) s).2
  split
  · exact refl_of Frame s
  · -- the marker was not there before, and the scope deletes it last
    rename_i hmarker
    rw [scope_snd]
    have hst := hbody { s with patches := { s.patches with
      hookMarker := some ()
      runFullgraph := some (.afd realTokens s.patches.boundRunFullgraph) } }
    generalize (body _).2 = t at hst ⊢
    have hpatches := hst.patches
    rw [removeReplayHook_run (show t.patches.runFullgraph = some _ by rw [hpatches])
      (show t.patches.hookMarker = some () by rw [hpatches])]
    refine ⟨?_, hst.transactionCounter, hst.v4UbatchInputs, hst.trackers⟩
    change { t.patches with runFullgraph := s.patches.runFullgraph, hookMarker := none } = s.patches
    rw [hpatches, ← Option.not_isSome_iff_eq_none.1 hmarker]

/-- What a scope of the runner leaves: besides the callables also the side fields. -/
structure Restored (s t : Runner) : Prop extends Frame s t where
  sidecar : t.sidecar = s.sidecar

instance : IsPreorder Runner Restored where
  refl s := ⟨refl_of Frame s, rfl⟩
  trans _ _ _ hst htu := ⟨trans_of Frame hst.toFrame htu.toFrame, htu.sidecar.trans hst.sidecar⟩

theorem restored_useAfdExecutionContext (env : Env) (realTokens : Int32) {body : M Unit}
    (hbody : Within Frame body) :
    Within Restored (useAfdExecutionContext env realTokens body) := by
  unfold useAfdExecutionContext
  have hprepared := frame_useAfdUbatchPreparation env none
    (frame_withGlobal (f := Patches.createForwardContextField)
      (v := fun p => .withAfd p.createForwardContext) hbody)
  refine within_scope (frame_withGlobal (within_ite ?_ hprepared)) fun s t hst => ?_
  · exact frame_useAfdFullgraphReplayHook env realTokens hprepared
  · exact ⟨⟨hst.patches, hst.transactionCounter, hst.v4UbatchInputs, hst.trackers⟩, rfl⟩

theorem restored_captureScope (env : Env) (tracker : Nat) {native : M Unit}
    (hnative : Within Frame native) :
    Within Restored
      (scope Runner.sidecar id (fun previous => Eff.modify fun r => { r with sidecar := previous })
      (useAfdCaptureInputPreparation tracker (useAfdUbatchPreparation env (some tracker) (do
        useAfdMetadataProvider native
        assertComplete tracker)))) := by
  have hbody : Within Frame (useAfdMetadataProvider native >>= fun _ => assertComplete tracker) :=
    within_bind (frame_withGlobal hnative) fun _ => frame_assertComplete tracker
  refine within_scope (frame_withGlobal (frame_useAfdUbatchPreparation env (some tracker) hbody))
    fun s t hst => ?_
  exact ⟨⟨hst.patches, hst.transactionCounter, hst.v4UbatchInputs, hst.trackers⟩, rfl⟩

theorem restored_captureModel (env : Env) {native : M Unit} (hnative : Within Frame native) :
    Within Restored (captureModel env native) := by
  unfold captureModel
  refine within_ite (within_raise _) (within_ite (within_raise _) (within_ite (within_raise _) ?_))
  refine within_bind (within_read _) fun tracker => ?_
  apply within_bind
  · exact within_modify fun s => ⟨⟨rfl, Nat.le_refl _, fun _ h => h, by simp⟩, rfl⟩
  · intro _
    exact restored_captureScope env tracker hnative

/-- Any program leaves the callables as they were, by induction on the program. -/
theorem frame_run (env : Env) (p : Prog) : Within Frame (p.run env) := by
  induction p with
  | done => exact within_pure _
  | raise exc => exact within_raise exc
  | seq first rest ihfirst ihrest => exact within_bind ihfirst fun _ => ihrest
  | recover body handler ihbody ihhandler => exact within_recover ihbody fun _ => ihhandler
  | exchange => exact frame_modify_log _
  | createForwardContext ctx native ih =>
    exact within_bind (within_read _) fun callable => frame_createForwardContext ih env ctx callable
  | prepare call native ih =>
    refine within_ite (within_raise _) ?_
    exact within_bind (within_read _) fun callable => frame_prepare ih env call callable
  | prepareInputsToCapture numReqs numTokens native ih =>
    exact within_bind (within_read _) fun callable =>
      frame_prepareInputsToCapture ih env numReqs numTokens callable
  | runFullgraph desc native ih =>
    refine within_ite (within_raise _) ?_
    exact within_bind (within_read _) fun callable => frame_runFullgraph ih env desc callable
  | executeModel realTokens native ih =>
    exact (restored_useAfdExecutionContext env realTokens ih).mono fun _ _ h => h.toFrame
  | captureModel native ih => exact (restored_captureModel env ih).mono fun _ _ h => h.toFrame

/-- Code outside the scopes: it enters them one after the other. What is inside
a scope is any code. -/
inductive Prog.Outside : Prog → Prop where
  | done : Outside .done
  | raise (exc : Exc) : Outside (.raise exc)
  | seq {first rest : Prog} : Outside first → Outside rest → Outside (.seq first rest)
  | recover {body handler : Prog} : Outside body → Outside handler → Outside (.recover body handler)
  | exchange : Outside .exchange
  | executeModel (realTokens : Int32) (native : Prog) : Outside (.executeModel realTokens native)
  | captureModel (native : Prog) : Outside (.captureModel native)

/-- After the outermost scopes every field that a scope saves, every overridden
callable, the hook marker and every patched global is what it was before, also
when an exception was raised. The transaction counter has not gone back, and the
inputs of the stages are kept once they are made. -/
theorem scopes_restore (env : Env) (p : Prog) (hp : p.Outside) (s : Runner) :
    Restored s (p.run env s).2 := by
  have hwithin : Within Restored (p.run env) := by
    induction hp with
    | done => exact within_pure _
    | raise exc => exact within_raise exc
    | seq _ _ ihfirst ihrest => exact within_bind ihfirst fun _ => ihrest
    | recover _ _ ihbody ihhandler => exact within_recover ihbody fun _ => ihhandler
    | exchange => exact within_modify fun _ => ⟨⟨rfl, Nat.le_refl _, fun _ h => h, List.prefix_rfl⟩, rfl⟩
    | executeModel realTokens native =>
      exact restored_useAfdExecutionContext env realTokens (frame_run env native)
    | captureModel native => exact restored_captureModel env (frame_run env native)
  exact hwithin s

/-- An execution that captures a model inside, which fails in its first warmup. -/
def failingCapture : Prog :=
  .executeModel 4 (.seq (.createForwardContext { batchDescriptor := some 4 } .done)
    (.captureModel (.prepareInputsToCapture 1 8 (.raise (.native 0)))))

theorem scopes_restore_failingCapture :
    Restored {} ((failingCapture.run
      { captureDescs := [⟨.full, 8, 1, 1⟩], fullDecodeOnly := true } {}).2) :=
  scopes_restore _ failingCapture (.executeModel _ _) {}

/-- A transaction takes an id for good, and the inputs of the stages stay. -/
theorem scopes_change_fields : ¬ ∀ (env : Env) (p : Prog) (s : Runner), p.Outside →
    (p.run env s).2.transactionCounter = s.transactionCounter ∧
    (p.run env s).2.v4UbatchInputs = s.v4UbatchInputs := by
  intro h
  have hcounter := (h {} (.executeModel 4 (.createForwardContext { batchDescriptor := some 4 } .done)) {}
    (.executeModel _ _)).1
  revert hcounter
  decide

end AfdPlugin.AttentionRunner
