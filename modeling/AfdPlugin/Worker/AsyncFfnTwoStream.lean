import AfdPlugin.Lib.Streams
import Mathlib.Data.Fin.Basic

/-! `AsyncFFNTwoStream`: receive and compute on one stream, send on another,
over two slots that are used in turn. -/

namespace AfdPlugin.AsyncFfnTwoStream

open Streams

/-! ## Tensors and kernels -/

/-- What a dispatch-recv returns. -/
structure Payload (α : Type) where
  hiddenStates : α
  dynamicScales : α
  tokenNumsRankidLayeridx : α
  groupList : α

/-- What a call of the executor leaves in its `retained_tensors`; `output` is its result. -/
structure Computed (α : Type) where
  layerIndex : α
  activation : α
  scale : α
  output : α

variable {α β : Type}

def Payload.tensors (p : Payload α) : List α :=
  [p.hiddenStates, p.dynamicScales, p.tokenNumsRankidLayeridx, p.groupList]

def Computed.tensors (c : Computed α) : List α := [c.layerIndex, c.activation, c.scale, c.output]

def Payload.map (f : α → β) (p : Payload α) : Payload β :=
  ⟨f p.hiddenStates, f p.dynamicScales, f p.tokenNumsRankidLayeridx, f p.groupList⟩

abbrev Address := Nat

/-- The two streams of the owner. -/
inductive Queue where
  | compute | send
  deriving DecidableEq

inductive Kernel where
  | dispatchRecv (p : Payload Address)
  | executor (p : Payload Address) (c : Computed Address)
  /-- Of the context only `TokenNums_Rankid_Layeridx` is read on the device. -/
  | combineSend (output info : Address)

abbrev Cmd := Command Queue Kernel

/-! ## The owner -/

structure Slot where
  ready : Option (Event Queue)
  done : Option (Event Queue)
  submitted : Bool
  payload : Option (Payload Address)
  output : Option Address
  tensors : List Address
  /-- What was captured. -/
  computeGraph : Option (List Kernel)
  sendGraph : Option (List Kernel)

namespace Slot

def fresh : Slot := ⟨none, none, false, none, none, [], none, none⟩

def releaseTransaction (s : Slot) : Slot := { s with payload := none, output := none, tensors := [] }

def captured (s : Slot) : Bool := s.computeGraph.isSome

/-- The memory its references keep alive. -/
def held (s : Slot) : List Address := (s.payload.elim [] Payload.tensors) ++ s.output.toList ++ s.tensors

/-- `_compute`: the receive. -/
def receive (s : Slot) (p : Payload Address) : Slot := { s with payload := some p }

/-- `_compute`: the executor. -/
def execute (s : Slot) (c : Computed Address) : Slot :=
  { s with output := some c.output, tensors := s.tensors ++ c.tensors }

end Slot

/-- Which of `self.slots`. -/
abbrev Index := Fin 2

/-- Where the host is: outside any call, or at the next thing it does in one.
`count` is what remains of `submit`'s loop, the current round included. -/
inductive Pc where
  | idle
  | retires (count : Nat)
  | waitsDone (count : Nat)
  | receives (count : Nat)
  | executes (count : Nat)
  | handsOver (count : Nat)
  | sends (count : Nat)
  /-- With a `wait` callback or with `synchronize`. -/
  | completes (wait : Bool)
  | capturesCompute (i : Index)
  | capturesSend (i : Index)

structure Host where
  slots : Index → Slot
  sequence : Nat
  captureCount : Nat
  replayCount : Nat
  pending : Bool
  closed : Bool
  failure : Bool
  pc : Pc

namespace Host

variable (h : Host)

def start : Host := ⟨fun _ => .fresh, 0, 0, 0, false, false, false, .idle⟩

/-- `sequence % 2`. -/
def current : Index := Fin.ofNat 2 h.sequence

/-- `(sequence - 1) % len(slots)`. -/
def last : Index := Fin.ofNat 2 h.sequence - 1

def slot : Slot := h.slots h.current

def setSlot (i : Index) (s : Slot) : Host := { h with slots := Function.update h.slots i s }

def goto (pc : Pc) : Host := { h with pc := pc }

/-- `_check_live` passes. -/
def Live : Prop := h.failure = false ∧ h.closed = false

instance : Decidable h.Live := inferInstanceAs (Decidable (_ ∧ _))

def held (a : Address) : Prop := ∃ i, a ∈ (h.slots i).held

/-- A call of the owner and its argument. -/
inductive Call where
  | submit (count : Int)
  | complete (wait : Bool)
  | capture
  | close (receiverExited : Bool)

/-- A call up to the first thing it asks of the device; `none` when it raises. -/
def call : Call → Option Host
  | .submit count =>
    if ¬h.Live ∨ h.pending = true ∨ count < 1 then none
    else some { h with pending := true, pc := .retires count.toNat }
  | .complete wait =>
    if ¬h.Live ∨ h.pending = false then none else some (h.goto (.completes wait))
  | .capture =>
    if ¬h.Live ∨ h.pending = true ∨ h.captureCount ≠ 0 then none else some (h.goto (.capturesCompute 0))
  | .close receiverExited =>
    if h.closed = true then some h
    else if ¬h.Live ∨ h.pending = true ∨ receiverExited = false then none
    else some { h with
      slots := fun i => { (h.slots i).releaseTransaction with computeGraph := none, sendGraph := none }
      closed := true }

end Host

/-! ## The device -/

/-- The owner, its streams and their memory. `received` counts the completed
dispatch-recvs and `sent` is what the completed combine-sends read. -/
structure World (V : Type) where
  host : Host
  device : Device Queue Kernel
  memory : Address → V
  received : Nat
  sent : List (V × V)

/-- What the device works with: the transactions in the order in which the
dispatch-recvs meet them, and the executor. -/
structure Kernels (V : Type) where
  source : Nat → Payload V
  executor : Payload V → Computed V

variable {V : Type}

/-- Writes the tensors `vs` to the addresses `as`. -/
def store (m : Address → V) : List Address → List V → Address → V
  | a :: as, v :: vs => Function.update (store m as vs) a v
  | _, _ => m

def Kernel.writes : Kernel → List Address
  | .dispatchRecv p => p.tensors
  | .executor _ c => c.tensors
  | .combineSend .. => []

/-- What a kernel has done when it is complete. -/
def Kernel.run (e : Kernels V) (w : World V) : Kernel → World V
  | .dispatchRecv p =>
    { w with memory := store w.memory p.tensors (e.source w.received).tensors, received := w.received + 1 }
  | .executor p c => { w with memory := store w.memory c.tensors (e.executor (p.map w.memory)).tensors }
  | .combineSend output info => { w with sent := w.sent ++ [(w.memory output, w.memory info)] }

/-- The device goes on. While a kernel runs, what it writes may hold anything. -/
inductive DeviceStep (e : Kernels V) (w : World V) : World V → Prop
  | begins {q : Queue} {k : Kernel} {m : Address → V} (hnext : w.device.next q = some (.kernel k))
      (hidle : (w.device q).running = false) (hm : ∀ a ∉ k.writes, m a = w.memory a) :
      DeviceStep e w { w with device := w.device.launch q, memory := m }
  | finishes {q : Queue} {k : Kernel} (hnext : w.device.next q = some (.kernel k))
      (hbusy : (w.device q).running = true) :
      DeviceStep e w { k.run e w with device := w.device.advance q }
  | passes {q : Queue} {v : Event Queue} (hnext : w.device.next q = some (.waitEvent v))
      (hdone : w.device.Done v) : DeviceStep e w { w with device := w.device.advance q }

/-! ## The host -/

namespace Slot

/-- `done.synchronize()` and `release_transaction()`, where a round finds the slot used and not captured. -/
def retires (s : Slot) : Bool := s.submitted && !s.captured

def retired (s : Slot) : Slot := if s.retires then s.releaseTransaction else s

/-- What the compute stream waits for before it uses the slot. -/
def guard (s : Slot) : List Cmd := if s.submitted then s.done.toList.map .waitEvent else []

/-- `capture`: the compute graph. -/
def captureCompute (s : Slot) (p : Payload Address) (c : Computed Address) : Slot :=
  { (s.receive p).execute c with computeGraph := some [.dispatchRecv p, .executor p c] }

end Slot

namespace Host

/-- The end of a round: the slot's send is recorded, and the loop goes on. -/
def finishRound (h : Host) (done : Event Queue) (count : Nat) : Host :=
  { h.setSlot h.current { h.slot with done := some done, submitted := true } with
    sequence := h.sequence + 1
    pc := if count ≤ 1 then .idle else .retires (count - 1) }

/-- The end of `complete`. -/
def finishComplete (h : Host) : Host :=
  { h with
    pending := false
    slots := if h.captureCount = 0 then fun i => (h.slots i).releaseTransaction else h.slots
    pc := .idle }

/-- A slot of `capture` is done; after the last one the counters start anew. -/
def finishCapture (h : Host) (i : Index) (send : List Kernel) : Host :=
  let h' := { h.setSlot i { h.slots i with sendGraph := some send } with
    captureCount := h.captureCount + 2 }
  if i = 0 then h'.goto (.capturesCompute 1) else { h' with sequence := 0, replayCount := 0, pc := .idle }

end Host

namespace World

def start (m : Address → V) : World V := ⟨.start, fun _ => ⟨[], 0, false⟩, m, 0, []⟩

variable (w : World V)

def enqueue (q : Queue) (cs : List Cmd) : World V := { w with device := w.device.enqueue q cs }

/-- The host goes on, its current slot as `s`. -/
def goes (s : Slot) (pc : Pc) : World V := { w with host := (w.host.setSlot w.host.current s).goto pc }

def replayed : World V := { w with host := { w.host with replayCount := w.host.replayCount + 1 } }

/-- The allocator hands out distinct addresses that nothing refers to. -/
def Free (as : List Address) : Prop := as.Nodup ∧ ∀ a ∈ as, ¬w.host.held a

end World

/-- The host goes on: by one call of the device, with the Python around it. -/
inductive HostStep (w : World V) : World V → Prop
  | calls {c : Host.Call} {h : Host} (hpc : w.host.pc = .idle) (hcall : w.host.call c = some h) :
      HostStep w { w with host := h }
  | retires {n : Nat} (hpc : w.host.pc = .retires n)
      (hdone : w.host.slot.retires = true → ∀ v ∈ w.host.slot.done, w.device.Done v) :
      HostStep w (w.goes w.host.slot.retired (.waitsDone n))
  | waitsDone {n : Nat} (hpc : w.host.pc = .waitsDone n) :
      HostStep w ((w.enqueue .compute w.host.slot.guard).goes w.host.slot (.receives n))
  | receives {n : Nat} {p : Payload Address} (hpc : w.host.pc = .receives n)
      (hgraph : w.host.slot.computeGraph = none) (hfree : w.Free p.tensors) :
      HostStep w ((w.enqueue .compute [.kernel (.dispatchRecv p)]).goes (w.host.slot.receive p)
        (.executes n))
  | executes {n : Nat} {p : Payload Address} {c : Computed Address} (hpc : w.host.pc = .executes n)
      (hp : w.host.slot.payload = some p) (hfree : w.Free c.tensors) :
      HostStep w ((w.enqueue .compute [.kernel (.executor p c)]).goes (w.host.slot.execute c)
        (.handsOver n))
  | replaysCompute {n : Nat} {g : List Kernel} (hpc : w.host.pc = .receives n)
      (hgraph : w.host.slot.computeGraph = some g) :
      HostStep w ((w.replayed.enqueue .compute (g.map .kernel)).goes w.host.slot (.handsOver n))
  /-- `ready.record(self.compute)` and `send.wait_event(ready)`. -/
  | handsOver {n : Nat} (hpc : w.host.pc = .handsOver n) :
      HostStep w ((w.enqueue .send [.waitEvent (w.device.record .compute)]).goes
        { w.host.slot with ready := some (w.device.record .compute) } (.sends n))
  | sends {n : Nat} {p : Payload Address} {o : Address} (hpc : w.host.pc = .sends n)
      (hgraph : w.host.slot.computeGraph = none) (hp : w.host.slot.payload = some p)
      (ho : w.host.slot.output = some o) :
      HostStep w { w.enqueue .send [.kernel (.combineSend o p.tokenNumsRankidLayeridx)] with
          host := w.host.finishRound
            ((w.enqueue .send [.kernel (.combineSend o p.tokenNumsRankidLayeridx)]).device.record .send) n }
  | replaysSend {n : Nat} {g : List Kernel} (hpc : w.host.pc = .sends n)
      (hcaptured : w.host.slot.captured = true) (hgraph : w.host.slot.sendGraph = some g) :
      HostStep w { w.replayed.enqueue .send (g.map .kernel) with
          host := w.replayed.host.finishRound ((w.enqueue .send (g.map .kernel)).device.record .send) n }
  | synchronizes (hpc : w.host.pc = .completes false) (hdone : w.device.Drained) :
      HostStep w { w with host := w.host.finishComplete }
  | waits (hpc : w.host.pc = .completes true)
      (hdone : ∀ v ∈ (w.host.slots w.host.last).done, w.device.Done v) :
      HostStep w { w with host := w.host.finishComplete }
  | capturesCompute {i : Index} {p : Payload Address} {c : Computed Address}
      (hpc : w.host.pc = .capturesCompute i) (hfree : w.Free (p.tensors ++ c.tensors)) :
      HostStep w { w with
        host := (w.host.setSlot i ((w.host.slots i).captureCompute p c)).goto (.capturesSend i) }
  | capturesSend {i : Index} {p : Payload Address} {o : Address} (hpc : w.host.pc = .capturesSend i)
      (hp : (w.host.slots i).payload = some p) (ho : (w.host.slots i).output = some o) :
      HostStep w { w with host := w.host.finishCapture i [.combineSend o p.tokenNumsRankidLayeridx] }
  /-- An exception inside a call. -/
  | fails (hpc : w.host.pc ≠ .idle) :
      HostStep w { w with host := { w.host with failure := true, pc := .idle } }

inductive Step (e : Kernels V) (w : World V) : World V → Prop
  | device {v : World V} (h : DeviceStep e w v) : Step e w v
  | host {v : World V} (h : HostStep w v) : Step e w v

inductive Reachable (e : Kernels V) : World V → Prop
  | start (m : Address → V) : Reachable e (.start m)
  | step {w v : World V} (h : Reachable e w) (hs : Step e w v) : Reachable e v

/-! ## The transactions -/

def Cmd.receive? : Cmd → Option (Payload Address)
  | .kernel (.dispatchRecv p) => some p
  | _ => none

def Cmd.execute? : Cmd → Option (Payload Address × Computed Address)
  | .kernel (.executor p c) => some (p, c)
  | _ => none

def Cmd.send? : Cmd → Option (Address × Address)
  | .kernel (.combineSend o i) => some (o, i)
  | _ => none

def receives (cs : List Cmd) : List (Payload Address) := cs.filterMap Cmd.receive?
def executes (cs : List Cmd) : List (Payload Address × Computed Address) := cs.filterMap Cmd.execute?
def sends (cs : List Cmd) : List (Address × Address) := cs.filterMap Cmd.send?

namespace World

variable (w : World V)

/-- What was ever enqueued on a stream. -/
def commands (q : Queue) : List Cmd := (w.device q).commands

/-- The memory of the `k`-th receive and of what is computed from it. -/
def footprint (k : Nat) : List Address :=
  (receives (w.commands .compute))[k]?.elim [] Payload.tensors ++
    (executes (w.commands .compute))[k]?.elim [] (Computed.tensors ∘ Prod.snd)

/-- The kernel that runs on `q` belongs to the `k`-th receive and writes to `a`. -/
def Writes (k : Nat) (a : Address) : Prop :=
  ∃ q c, (w.device q).running = true ∧ w.device.next q = some (.kernel c) ∧ a ∈ c.writes ∧
    match c with
    | .dispatchRecv _ => k = (receives (w.device.past q)).length
    | .executor .. => k = (executes (w.device.past q)).length
    | .combineSend .. => False

end World

end AfdPlugin.AsyncFfnTwoStream
