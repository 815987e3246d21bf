import Mathlib.Logic.Function.Basic

/-! The two microbatch threads of NPU DBO: `NPUUBatchContext` over vLLM's
`UBatchContext`, Python's `threading.Barrier` and the parent of
`begin_capturable_run`. -/

namespace AfdPlugin.Mrv2Ubatching

/-! ## The start barrier -/

inductive BarrierState where
  | filling | draining | broken
  deriving DecidableEq

/-- `threading.Barrier`: its `_state` and its `_count`. -/
structure Barrier where
  state : BarrierState
  waiting : Nat
  deriving DecidableEq

/-- What a caller of `wait` meets. -/
inductive Wait where
  | blocked
  | waits (b : Barrier)
  | passes (b : Barrier)
  | raises (b : Barrier)

namespace Barrier

/-- `num_ubatches + 1`: both threads and their parent. -/
def parties : Nat := 3

def fresh : Barrier := ⟨.filling, 0⟩

/-- `abort`, and `_break` when a wait times out. -/
def abort (b : Barrier) : Barrier := { b with state := .broken }

/-- The `finally` of `wait`: the last one out of a draining barrier refills it. -/
def leave (b : Barrier) : Barrier :=
  if b.waiting - 1 = 0 ∧ b.state = .draining then ⟨.filling, 0⟩ else { b with waiting := b.waiting - 1 }

/-- `wait` up to the point where it sleeps. -/
def enter (b : Barrier) : Wait :=
  match b.state with
  | .draining => .blocked
  | .broken => .raises b
  | .filling =>
    if b.waiting + 1 = parties then .passes (leave ⟨.draining, parties⟩)
      else .waits { b with waiting := b.waiting + 1 }

/-- `wait` from its sleep on. -/
def resume (b : Barrier) : Wait :=
  match b.state with
  | .filling => .blocked
  | .draining => .passes b.leave
  | .broken => .raises b.leave

@[simp] theorem abort_state (b : Barrier) : b.abort.state = .broken := rfl

theorem leave_broken {b : Barrier} : b.leave.state = .broken ↔ b.state = .broken := by
  unfold leave
  split
  · rename_i h
    simp [h.2]
  · rfl

/-- Whoever waits or passes has met an unbroken barrier, and leaves it unbroken. -/
theorem enter_unbroken {b b' : Barrier} (h : b.enter = .waits b' ∨ b.enter = .passes b') :
    b.state ≠ .broken ∧ b'.state ≠ .broken := by
  unfold enter at h
  rcases b with ⟨_ | _ | _, n⟩ <;> simp only [reduceCtorEq, or_self] at h
  split at h
  · rcases h with h | h
    · cases h
    · obtain rfl := Wait.passes.inj h
      exact ⟨by simp, by simp [leave, parties]⟩
  · rcases h with h | h
    · obtain rfl := Wait.waits.inj h
      exact ⟨by simp, by simp⟩
    · cases h

theorem enter_raises {b b' : Barrier} (h : b.enter = .raises b') : b.state = .broken ∧ b' = b := by
  unfold enter at h
  rcases b with ⟨_ | _ | _, n⟩ <;> simp only [reduceCtorEq] at h
  · split at h <;> cases h
  · exact ⟨rfl, (Wait.raises.inj h).symm⟩

theorem resume_passes {b b' : Barrier} (h : b.resume = .passes b') :
    b.state = .draining ∧ b' = b.leave := by
  unfold resume at h
  rcases b with ⟨_ | _ | _, n⟩ <;> simp only [reduceCtorEq, Wait.passes.injEq] at h
  exact ⟨rfl, h.symm⟩

theorem resume_raises {b b' : Barrier} (h : b.resume = .raises b') : b.state = .broken ∧ b' = b.leave := by
  unfold resume at h
  rcases b with ⟨_ | _ | _, n⟩ <;> simp only [reduceCtorEq, Wait.raises.injEq] at h
  exact ⟨rfl, h.symm⟩

end Barrier

/-! ## Threads -/

/-- The two microbatches. -/
inductive Ubatch where
  | first | second
  deriving DecidableEq

def Ubatch.peer : Ubatch → Ubatch
  | .first => .second
  | .second => .first

@[simp] theorem Ubatch.peer_peer (i : Ubatch) : i.peer.peer = i := by cases i <;> rfl
@[simp] theorem Ubatch.peer_ne (i : Ubatch) : i.peer ≠ i := by cases i <;> nofun
@[simp] theorem Ubatch.ne_peer (i : Ubatch) : i ≠ i.peer := by cases i <;> nofun

theorem Ubatch.eq_or_eq_peer (i j : Ubatch) : j = i ∨ j = i.peer := by cases i <;> cases j <;> simp [peer]

/-- The straight-line steps of a thread that leaves. -/
inductive Cleanup where
  /-- `ready_barrier.abort()` -/
  | abortBarrier
  /-- `cpu_wait_event.set()`: its own event -/
  | setWait
  /-- `cpu_signal_event.set()`: the peer's event -/
  | setSignal
  /-- the thread's entries of `_THREAD_ID_TO_CONTEXT` and `_CURRENT_CONTEXTS` -/
  | unregister
  /-- `maybe_run_recv_hook()` -/
  | recvHook
  deriving DecidableEq

/-- `_abort` -/
def abort : List Cleanup := [.abortBarrier, .setWait, .setSignal]

/-- The `except` branch of `__enter__`. -/
def enterFailed : List Cleanup := abort ++ [.unregister]

/-- vLLM's own `__exit__`. -/
def nativeExit : List Cleanup := [.unregister, .recvHook, .setSignal]

/-- `__exit__` without an exception, its `finally` included. -/
def exitDone : List Cleanup := nativeExit ++ [.setSignal]

/-- `__exit__` with an exception. -/
def exitFailed : List Cleanup := abort ++ nativeExit ++ [.setSignal]

/-- `__exit__` after vLLM's own has raised: the `except` branch and the `finally`. -/
def hookFailed : List Cleanup := abort ++ [.setSignal]

/-- Where a thread is. -/
inductive Pc where
  | setDevice | register | arrive | atBarrier | entryWait | entryClear | entryCheck
  | body
  | yieldCheck | yieldSignal | yieldWait | yieldClear | yieldRecheck
  /-- `raised`: by an exception -/
  | leaving (raised : Bool) (todo : List Cleanup)
  deriving DecidableEq

/-- Where the parent is: before the barrier, at it, before it sets the first
thread's event, joining, back from the run, out of it by an exception. -/
inductive Parent where
  | starting | atBarrier | releasing | joining | returned | raised
  deriving DecidableEq

/-- One run of two threads on a runner: `event i` is thread `i`'s
`cpu_wait_event` (its peer's `cpu_signal_event`), `registry i` its registry
entries. -/
structure World where
  barrier : Barrier
  event : Ubatch → Bool
  registry : Ubatch → Bool
  pc : Ubatch → Pc
  parent : Parent

/-- A run starts on the runner's barrier with contexts and threads of its own. -/
def start (b : Barrier) : World :=
  ⟨b, fun _ => false, fun _ => false, fun _ => .setDevice, .starting⟩

namespace World

@[simp] def goto (w : World) (i : Ubatch) (pc : Pc) : World := { w with pc := Function.update w.pc i pc }

@[simp] def setEvent (w : World) (i : Ubatch) (v : Bool) : World :=
  { w with event := Function.update w.event i v }

@[simp] def withBarrier (w : World) (b : Barrier) : World := { w with barrier := b }

/-- An exception in thread `i`, with the cleanup it starts. -/
@[simp] def raise (w : World) (i : Ubatch) (todo : List Cleanup) : World := w.goto i (.leaving true todo)

@[simp] def cleanup (w : World) (i : Ubatch) : Cleanup → World
  | .abortBarrier => w.withBarrier w.barrier.abort
  | .setWait => w.setEvent i true
  | .setSignal => w.setEvent i.peer true
  | .unregister => { w with registry := Function.update w.registry i false }
  | .recvHook => w

/-- `_check_cancelled` raises. -/
def Cancelled (w : World) : Prop := w.barrier.state = .broken

/-- An exception was raised in thread `i`. -/
def Failed (w : World) (i : Ubatch) : Prop := ∃ todo, w.pc i = .leaving true todo

end World

/-! ## Steps -/

open World in
/-- One step of thread `i`. -/
inductive ThreadStep (i : Ubatch) (w : World) : World → Prop where
  -- `NPUUBatchContext.__enter__` up to the barrier
  | setDevice (h : w.pc i = .setDevice) : ThreadStep i w (w.goto i .register)
  | deviceFails (h : w.pc i = .setDevice) : ThreadStep i w (w.raise i enterFailed)
  | register (h : w.pc i = .register) :
      ThreadStep i w ({ w with registry := Function.update w.registry i true }.goto i .arrive)
  | arriveWaits {b : Barrier} (h : w.pc i = .arrive) (hb : w.barrier.enter = .waits b) :
      ThreadStep i w ((w.withBarrier b).goto i .atBarrier)
  | arrivePasses {b : Barrier} (h : w.pc i = .arrive) (hb : w.barrier.enter = .passes b) :
      ThreadStep i w ((w.withBarrier b).goto i .entryWait)
  | arriveRaises {b : Barrier} (h : w.pc i = .arrive) (hb : w.barrier.enter = .raises b) :
      ThreadStep i w ((w.withBarrier b).raise i enterFailed)
  | barrierPasses {b : Barrier} (h : w.pc i = .atBarrier) (hb : w.barrier.resume = .passes b) :
      ThreadStep i w ((w.withBarrier b).goto i .entryWait)
  | barrierRaises {b : Barrier} (h : w.pc i = .atBarrier) (hb : w.barrier.resume = .raises b) :
      ThreadStep i w ((w.withBarrier b).raise i enterFailed)
  | barrierTimesOut (h : w.pc i = .atBarrier) (hb : w.barrier.state = .filling) :
      ThreadStep i w ((w.withBarrier w.barrier.abort.leave).raise i enterFailed)
  | barrierFails (h : w.pc i = .atBarrier) :
      ThreadStep i w ((w.withBarrier w.barrier.leave).raise i enterFailed)
  -- the rest of `__enter__`: `wait` has returned before `clear` is called
  | entryWakes (h : w.pc i = .entryWait) (he : w.event i = true) : ThreadStep i w (w.goto i .entryClear)
  | entryClears (h : w.pc i = .entryClear) : ThreadStep i w ((w.setEvent i false).goto i .entryCheck)
  | enters (h : w.pc i = .entryCheck) (hb : ¬ w.Cancelled) : ThreadStep i w (w.goto i .body)
  | entryCancelled (h : w.pc i = .entryCheck) (hb : w.Cancelled) : ThreadStep i w (w.raise i enterFailed)
  -- the model: it hands over, fails or returns, in any order and number
  | yields (h : w.pc i = .body) : ThreadStep i w (w.goto i .yieldCheck)
  | bodyFails (h : w.pc i = .body) : ThreadStep i w (w.raise i exitFailed)
  | bodyReturns (h : w.pc i = .body) : ThreadStep i w (w.goto i (.leaving false exitDone))
  -- `_cpu_yield`
  | yieldChecks (h : w.pc i = .yieldCheck) (hb : ¬ w.Cancelled) : ThreadStep i w (w.goto i .yieldSignal)
  | yieldCancelled (h : w.pc i = .yieldCheck) (hb : w.Cancelled) : ThreadStep i w (w.raise i exitFailed)
  | yieldSignals (h : w.pc i = .yieldSignal) : ThreadStep i w ((w.setEvent i.peer true).goto i .yieldWait)
  | yieldWakes (h : w.pc i = .yieldWait) (he : w.event i = true) : ThreadStep i w (w.goto i .yieldClear)
  | yieldClears (h : w.pc i = .yieldClear) : ThreadStep i w ((w.setEvent i false).goto i .yieldRecheck)
  | yieldReturns (h : w.pc i = .yieldRecheck) (hb : ¬ w.Cancelled) : ThreadStep i w (w.goto i .body)
  | recheckCancelled (h : w.pc i = .yieldRecheck) (hb : w.Cancelled) : ThreadStep i w (w.raise i exitFailed)
  -- leaving
  | cleans {raised : Bool} {c : Cleanup} {todo : List Cleanup} (h : w.pc i = .leaving raised (c :: todo)) :
      ThreadStep i w ((w.cleanup i c).goto i (.leaving raised todo))
  | hookFails {raised : Bool} {todo : List Cleanup} (h : w.pc i = .leaving raised (.recvHook :: todo)) :
      ThreadStep i w (w.raise i hookFailed)

/-- One step of anybody else. -/
inductive OtherStep (w : World) : World → Prop where
  | parentWaits {b : Barrier} (h : w.parent = .starting) (hb : w.barrier.enter = .waits b) :
      OtherStep w { w with barrier := b, parent := .atBarrier }
  | parentPasses {b : Barrier}
      (h : w.parent = .starting ∧ w.barrier.enter = .passes b ∨ w.parent = .atBarrier ∧
        w.barrier.resume = .passes b) : OtherStep w { w with barrier := b, parent := .releasing }
  | parentRaises {b : Barrier}
      (h : w.parent = .starting ∧ w.barrier.enter = .raises b ∨ w.parent = .atBarrier ∧
        w.barrier.resume = .raises b) : OtherStep w { w with barrier := b, parent := .raised }
  | parentTimesOut (h : w.parent = .atBarrier) (hb : w.barrier.state = .filling) :
      OtherStep w { w with barrier := w.barrier.abort.leave, parent := .raised }
  | parentReleases (h : w.parent = .releasing) :
      OtherStep w ({ w with parent := .joining }.setEvent .first true)
  | parentJoins (h : w.parent = .joining) (hleft : ∀ i, ∃ raised, w.pc i = .leaving raised []) :
      OtherStep w { w with parent := .returned }
  -- a thread of an earlier run whose parent did not wait for it: it can only abort a broken barrier or leave it
  | stale {b : Barrier} (h : w.barrier.state = .broken) (hb : b.state = .broken) :
      OtherStep w { w with barrier := b }

/-- `n` steps of the threads, any others between them. -/
inductive Steps : Nat → World → World → Prop where
  | refl (w : World) : Steps 0 w w
  | thread {n : Nat} {w u v : World} (i : Ubatch) : Steps n w u → ThreadStep i u v → Steps (n + 1) w v
  | other {n : Nat} {w u v : World} : Steps n w u → OtherStep u v → Steps n w v

/-- The parent is back from the run and the runner free for another. -/
def World.Over (w : World) : Prop := w.parent = .returned ∨ w.parent = .raised

/-- Worlds of any run on one runner. -/
inductive Reachable : World → Prop where
  | first : Reachable (start .fresh)
  | thread {w v : World} (i : Ubatch) : Reachable w → ThreadStep i w v → Reachable v
  | other {w v : World} : Reachable w → OtherStep w v → Reachable v
  | again {w : World} : Reachable w → w.Over → Reachable (start w.barrier)

/-- Worlds of the runs that follow `w`'s on its runner. -/
inductive Later (w : World) : World → Prop where
  | again {n : Nat} {v : World} : Steps n w v → v.Over → Later w (start v.barrier)
  | thread {v v' : World} (i : Ubatch) : Later w v → ThreadStep i v v' → Later w v'
  | other {v v' : World} : Later w v → OtherStep v v' → Later w v'
  | next {v : World} : Later w v → v.Over → Later w (start v.barrier)

end AfdPlugin.Mrv2Ubatching
