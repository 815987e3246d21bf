import AfdPlugin.Compat.Mrv2Ubatching
import Mathlib.Data.List.Nodup
import Mathlib.Tactic.Common

/-! Two microbatch threads share CAM's single window: a dispatch's receive is
run by the peer, through vLLM's receive-hook slot. -/

namespace AfdPlugin.AsyncCamDbo

open AfdPlugin.Mrv2Ubatching (Ubatch)

/-! ## What a thread does -/

/-- A call of `send_async_cam_remote_call`: the thread and the layer's place in its model. -/
structure Call where
  stage : Ubatch
  layer : Nat
  deriving DecidableEq

/-- The steps of a thread that the window, the hooks and the turn depend on. -/
inductive Op where
  /-- `dbo_maybe_run_recv_hook()` -/
  | maybeRunRecvHook
  /-- `connector.send_attn_output` -/
  | sendAttnOutput (layer : Nat)
  /-- `dbo_register_recv_hook(receive)` -/
  | registerRecvHook (layer : Nat)
  /-- `maybe_apply_dbo_yield` -/
  | dboYield
  /-- the layer's `receive()`, whose output the model goes on with -/
  | receive (layer : Nat)
  /-- vLLM's `__exit__`: the registry entries, the pending hook, the peer's event -/
  | unregister
  | exitRecvHook
  | wakePeer
  deriving DecidableEq

/-- `overlapping` is `dbo_enabled()`. -/
def sendAsyncCamRemoteCall (overlapping : Bool) (layer : Nat) : List Op :=
  (if overlapping then [.maybeRunRecvHook] else []) ++ [.sendAttnOutput layer] ++
    if overlapping then [.registerRecvHook layer] else []

structure DecoderLayer where
  isMoeLayer : Bool

/-- `pending_ffn_recv` and `pending_receive`. -/
structure Pending where
  ffnRecv : Bool
  receive : Option Nat

/-- `receive_pending_ffn`; the layout is set with the closure. -/
def receivePendingFfn (pending : Pending) : Except String (List Op) :=
  match pending.receive with
  | none => .error "Async CAM receive is missing its dispatch layout"
  | some layer => .ok [.receive layer]

/-- The loop of DeepSeek V2's `run_attention_gate_afd_forward` from a layer on. -/
def attentionGateLoop (overlapping : Bool) : Nat → List DecoderLayer → Pending → Except String (List Op)
  | _, [], pending => if pending.ffnRecv then receivePendingFfn pending else .ok []
  | offset, layer :: layers, pending => do
    let received ← if offset > 0 ∧ pending.ffnRecv then receivePendingFfn pending else .ok []
    let pending : Pending := if offset > 0 ∧ pending.ffnRecv then ⟨false, none⟩ else pending
    if !layer.isMoeLayer then
      return received ++ (← attentionGateLoop overlapping (offset + 1) layers pending)
    return received ++ sendAsyncCamRemoteCall overlapping offset ++ [.dboYield] ++
      (← attentionGateLoop overlapping (offset + 1) layers ⟨true, some offset⟩)

def runAttentionGateAfdForward (overlapping : Bool) (layers : List DecoderLayer) :
    Except String (List Op) :=
  attentionGateLoop overlapping 0 layers ⟨false, none⟩

/-- DeepSeek V4's `AFDDeepseekV4AttentionGateRemoteMoE.forward`. -/
def remoteMoeForward (overlapping : Bool) (layer : Nat) : List Op :=
  sendAsyncCamRemoteCall overlapping layer ++ [.dboYield, .receive layer]

/-- The models with Async CAM: V2's loop, and V4's layers one after the other,
each with a remote MoE. -/
inductive AsyncCamModel where
  | deepseekV2 (layers : List DecoderLayer)
  | deepseekV4 (layers : Nat)

def AsyncCamModel.forward (overlapping : Bool) : AsyncCamModel → Except String (List Op)
  | .deepseekV2 layers => runAttentionGateAfdForward overlapping layers
  | .deepseekV4 layers => .ok ((List.range layers).flatMap (remoteMoeForward overlapping))

/-- Where the model's remote calls are. -/
def AsyncCamModel.remoteLayers : AsyncCamModel → List Nat
  | .deepseekV2 layers => (layers.zipIdx.filter fun x => x.1.isMoeLayer).map (·.2)
  | .deepseekV4 layers => List.range layers

/-- vLLM's `UBatchContext.__exit__`. -/
def exitOps : List Op := [.unregister, .exitRecvHook, .wakePeer]

/-! ## The two threads -/

/-- `running` has the turn. `window` is what lies in CAM's window; `sent` and
`received` are the dispatches and the raw receives so far, each receive with
the dispatch it read. -/
structure Machine where
  todo : Ubatch → List Op
  running : Ubatch
  registered : Ubatch → Bool
  recvHook : Ubatch → Option Call
  window : Option Call
  sent : List Call
  received : List (Call × Call)

/-- Both threads have entered, and the first has the turn. -/
def start (ops : List Op) : Machine :=
  ⟨fun _ => ops ++ exitOps, .first, fun _ => true, fun _ => none, none, [], []⟩

namespace Machine

def dboEnabled (w : Machine) : Bool := w.registered .first || w.registered .second

/-- The closure's `output`, once its receive has run. -/
def output (w : Machine) (c : Call) : Option Call := w.received.lookup c

/-- `receive()`: the first call reads the window, later ones return the output. -/
def receive (w : Machine) (c : Call) : Option Machine :=
  match w.output c with
  | some _ => some w
  | none => w.window.map fun x => { w with window := none, received := w.received ++ [(c, x)] }

/-- `maybe_run_recv_hook` -/
def runRecvHook (w : Machine) (i : Ubatch) : Option Machine :=
  match w.recvHook i with
  | none => some w
  | some c => (w.receive c).map fun w => { w with recvHook := Function.update w.recvHook i none }

def exec (w : Machine) (i : Ubatch) : Op → Option Machine
  | .maybeRunRecvHook => if w.dboEnabled then w.runRecvHook i else some w
  | .sendAttnOutput layer => some { w with window := some ⟨i, layer⟩, sent := w.sent ++ [⟨i, layer⟩] }
  | .registerRecvHook layer =>
    if w.dboEnabled then
      -- the next context is `None` once its thread has left
      if w.registered i.peer then
        some { w with recvHook := Function.update w.recvHook i.peer (some ⟨i, layer⟩) } else none
    else some w
  | .dboYield => some (if w.dboEnabled then { w with running := i.peer } else w)
  | .receive layer => w.receive ⟨i, layer⟩
  | .unregister => some { w with registered := Function.update w.registered i false }
  | .exitRecvHook => w.runRecvHook i
  | .wakePeer => some { w with running := i.peer }

/-- One step of the thread with the turn; `none` when it has none left, fails or hangs. -/
def step (w : Machine) : Option Machine :=
  match w.todo w.running with
  | [] => none
  | op :: rest => exec { w with todo := Function.update w.todo w.running rest } w.running op

end Machine

inductive Reachable (m : Machine) : Machine → Prop where
  | refl : Reachable m m
  | step {w v : Machine} : Reachable m w → w.step = some v → Reachable m v

end AfdPlugin.AsyncCamDbo
