import AfdPlugin.Compat.Mrv2Ubatching
import Mathlib.Tactic.Common

/-! One thread runs at a time until somebody aborts, and an abort wakes both. -/

namespace AfdPlugin.Mrv2Ubatching

open World

/-! ## Facts about one step -/

section Step
variable {w v : World} {i : Ubatch}

@[simp] theorem update_peer {β : Type} (f : Ubatch → β) (i : Ubatch) (b : β) :
    Function.update f i b i.peer = f i.peer := Function.update_of_ne i.peer_ne b f

@[simp] theorem update_peer_left {β : Type} (f : Ubatch → β) (i : Ubatch) (b : β) :
    Function.update f i.peer b i = f i := Function.update_of_ne i.ne_peer b f

/-- Only thread `i` moves, and nobody mends the barrier. -/
theorem ThreadStep.frame (hs : ThreadStep i w v) :
    v.pc i.peer = w.pc i.peer ∧ v.registry i.peer = w.registry i.peer ∧ v.parent = w.parent ∧
      (w.Cancelled → v.Cancelled) := by
  cases hs with
  | arriveWaits _ hb => exact ⟨by simp, rfl, rfl, fun h => absurd h (Barrier.enter_unbroken (.inl hb)).1⟩
  | arrivePasses _ hb => exact ⟨by simp, rfl, rfl, fun h => absurd h (Barrier.enter_unbroken (.inr hb)).1⟩
  | arriveRaises _ hb =>
    obtain ⟨hbroken, rfl⟩ := Barrier.enter_raises hb
    exact ⟨by simp, rfl, rfl, fun _ => hbroken⟩
  | barrierPasses _ hb =>
    obtain ⟨-, rfl⟩ := Barrier.resume_passes hb
    exact ⟨by simp, rfl, rfl, Barrier.leave_broken.2⟩
  | barrierRaises _ hb =>
    obtain ⟨-, rfl⟩ := Barrier.resume_raises hb
    exact ⟨by simp, rfl, rfl, Barrier.leave_broken.2⟩
  | barrierTimesOut => exact ⟨by simp, rfl, rfl, fun _ => Barrier.leave_broken.2 rfl⟩
  | barrierFails => exact ⟨by simp, rfl, rfl, Barrier.leave_broken.2⟩
  | @cleans raised c todo h =>
    cases c with
    | abortBarrier => exact ⟨by simp, rfl, rfl, fun _ => rfl⟩
    | unregister => exact ⟨by simp, by simp, rfl, id⟩
    | _ => exact ⟨by simp, rfl, rfl, id⟩
  | deviceFails | entryCancelled | bodyFails | yieldCancelled | recheckCancelled | hookFails =>
    exact ⟨by simp, rfl, rfl, id⟩
  | register => exact ⟨by simp, by simp, rfl, id⟩
  | _ => exact ⟨by simp, rfl, rfl, id⟩

/-- Whoever is not a thread moves none. -/
theorem OtherStep.frame (hs : OtherStep w v) :
    v.pc = w.pc ∧ v.registry = w.registry ∧ (∀ j, w.event j = true → v.event j = true) ∧
      (w.Cancelled → v.Cancelled) := by
  cases hs with
  | parentWaits _ hb =>
    exact ⟨rfl, rfl, fun _ => id, fun h => absurd h (Barrier.enter_unbroken (.inl hb)).1⟩
  | parentPasses h =>
    refine ⟨rfl, rfl, fun _ => id, fun hb => ?_⟩
    rcases h with ⟨-, h⟩ | ⟨-, h⟩
    · exact absurd hb (Barrier.enter_unbroken (.inr h)).1
    · exact absurd hb (by simp [Cancelled, (Barrier.resume_passes h).1])
  | parentRaises h =>
    refine ⟨rfl, rfl, fun _ => id, fun hb => ?_⟩
    rcases h with ⟨-, h⟩ | ⟨-, h⟩
    · exact (Barrier.enter_raises h).2 ▸ hb
    · exact (Barrier.resume_raises h).2 ▸ Barrier.leave_broken.2 hb
  | parentTimesOut => exact ⟨rfl, rfl, fun _ => id, fun _ => Barrier.leave_broken.2 rfl⟩
  | parentReleases => exact ⟨rfl, rfl, fun j hj => by cases j <;> simp [setEvent, Function.update, hj], id⟩
  | parentJoins => exact ⟨rfl, rfl, fun _ => id, id⟩
  | stale _ hb => exact ⟨rfl, rfl, fun _ => id, fun _ => hb⟩

/-- A thread fails by raising, and then works off its cleanup. -/
theorem ThreadStep.failed_inv {todo : List Cleanup} (hs : ThreadStep i w v)
    (h : v.pc i = .leaving true todo) :
    (∃ rest, todo = abort ++ rest) ∨
      ∃ c, w.pc i = .leaving true (c :: todo) ∧ v = (w.cleanup i c).goto i (.leaving true todo) := by
  cases hs with
  | deviceFails | arriveRaises | barrierRaises | barrierTimesOut | barrierFails | entryCancelled | bodyFails
      | yieldCancelled | recheckCancelled | hookFails =>
    simp only [raise, withBarrier, goto, Function.update_self, Pc.leaving.injEq, true_and] at h
    exact .inl ⟨_, h.symm⟩
  | @cleans raised c rest hpc =>
    simp only [goto, Function.update_self, Pc.leaving.injEq] at h
    obtain ⟨rfl, rfl⟩ := h
    exact .inr ⟨c, hpc, rfl⟩
  | _ => simp at h

/-- A leaving thread works off its cleanup, or the receive hook fails. -/
theorem ThreadStep.of_leaving {raised : Bool} {todo : List Cleanup} (hs : ThreadStep i w v)
    (h : w.pc i = .leaving raised todo) :
    (∃ c rest, todo = c :: rest ∧ v = (w.cleanup i c).goto i (.leaving raised rest)) ∨
      ∃ rest, todo = .recvHook :: rest ∧ v = w.raise i hookFailed := by
  cases hs with
  | @cleans raised' c rest hpc =>
    obtain ⟨rfl, rfl⟩ := Pc.leaving.inj (h.symm.trans hpc)
    exact .inl ⟨c, rest, rfl, rfl⟩
  | @hookFails raised' rest hpc => exact .inr ⟨rest, (Pc.leaving.inj (h.symm.trans hpc)).2, rfl⟩
  | _ => simp_all

end Step

/-! ## Wakeups -/

/-- The thread has cleared its event and not passed the check behind it, or it leaves. -/
def Pc.Cleared : Pc → Prop
  | .entryCheck | .yieldRecheck | .leaving _ _ => True
  | _ => False

/-- What failed threads leave behind. -/
structure Wakes (w : World) : Prop where
  aborts : ∀ i todo, w.pc i = .leaving true todo → w.Cancelled ∨ ∃ rest, todo = abort ++ rest
  wakeup : ∀ i todo, w.pc i = .leaving true todo → .setSignal ∈ todo ∨ w.event i.peer = true ∨
    (w.pc i.peer).Cleared
  parent : w.parent = .raised → w.Cancelled

section Wakes
variable {w v : World} {i : Ubatch}

/-- A wakeup is lost only to a check that passes. -/
theorem ThreadStep.woken (hs : ThreadStep i w v) (h : w.event i = true ∨ (w.pc i).Cleared) :
    v.event i = true ∨ (v.pc i).Cleared ∨ ¬ w.Cancelled := by
  cases hs with
  | enters _ hb | yieldReturns _ hb => exact .inr (.inr hb)
  | entryClears | yieldClears => exact .inr (.inl (by simp [Pc.Cleared]))
  | @cleans _ c => exact .inr (.inl (by simp [Pc.Cleared]))
  | deviceFails | arriveRaises | barrierRaises | barrierTimesOut | barrierFails | entryCancelled | bodyFails
      | yieldCancelled | recheckCancelled | hookFails | bodyReturns => exact .inr (.inl (by simp [Pc.Cleared]))
  | setDevice hpc | register hpc | arriveWaits hpc | arrivePasses hpc | barrierPasses hpc | entryWakes hpc
      | yields hpc | yieldChecks hpc | yieldSignals hpc | yieldWakes hpc =>
    rcases h with h | h
    · exact .inl (by simpa using h)
    · rw [hpc] at h
      exact h.elim

theorem Wakes.thread (h : Wakes w) (hs : ThreadStep i w v) : Wakes v := by
  obtain ⟨hpeer, -, hparent, hbroken⟩ := hs.frame
  refine ⟨fun j todo hj => ?_, fun j todo hj => ?_, fun hr => hbroken (h.parent (hparent ▸ hr))⟩
  · rcases Ubatch.eq_or_eq_peer i j with rfl | rfl
    · rcases hs.failed_inv hj with hraise | ⟨c, hpc, rfl⟩
      · exact .inr hraise
      · refine .inl ?_
        rcases h.aborts j _ hpc with hc | ⟨rest, hrest⟩
        · exact hbroken hc
        · obtain rfl := (List.cons.inj hrest).1
          rfl
    · exact (h.aborts _ _ (hpeer ▸ hj)).imp_left hbroken
  · rcases Ubatch.eq_or_eq_peer i j with rfl | rfl
    · rcases hs.failed_inv hj with ⟨rest, rfl⟩ | ⟨c, hpc, rfl⟩
      · exact .inl (by simp [abort])
      · rcases h.wakeup j _ hpc with hmem | hwoken
        · rcases List.mem_cons.1 hmem with rfl | hmem
          · exact .inr (.inl (by simp))
          · exact .inl hmem
        · refine .inr (hwoken.imp (fun he => ?_) fun hc => hpeer.symm ▸ hc)
          cases c <;> simp [he]
    · rw [hpeer] at hj
      rw [Ubatch.peer_peer]
      rcases h.wakeup _ _ hj with hmem | hwoken
      · exact .inl hmem
      · rw [Ubatch.peer_peer] at hwoken
        rcases hs.woken hwoken with he | hc | hpassed
        · exact .inr (.inl he)
        · exact .inr (.inr hc)
        · obtain ⟨rest, rfl⟩ := (h.aborts _ _ hj).resolve_left hpassed
          exact .inl (by simp [abort])

theorem Wakes.other (h : Wakes w) (hs : OtherStep w v) : Wakes v := by
  obtain ⟨hpc, -, hevent, hbroken⟩ := hs.frame
  refine ⟨fun j todo hj => ?_, fun j todo hj => ?_, fun hr => ?_⟩
  · exact (h.aborts j todo (hpc ▸ hj)).imp_left hbroken
  · rw [hpc] at hj ⊢
    exact (h.wakeup j todo hj).imp_right (Or.imp_left (hevent _))
  · cases hs with
    | parentRaises hw =>
      rcases hw with ⟨-, hw⟩ | ⟨-, hw⟩
      · exact (Barrier.enter_raises hw).2 ▸ (Barrier.enter_raises hw).1
      · exact (Barrier.resume_raises hw).2 ▸ Barrier.leave_broken.2 (Barrier.resume_raises hw).1
    | parentTimesOut => exact Barrier.leave_broken.2 rfl
    | stale _ hb => exact hb
    | _ => cases hr

theorem Wakes.start (b : Barrier) : Wakes (start b) := ⟨nofun, nofun, nofun⟩

theorem Reachable.wakes (h : Reachable w) : Wakes w := by
  induction h with
  | first => exact .start _
  | thread i _ hs ih => exact ih.thread hs
  | other _ hs ih => exact ih.other hs
  | again => exact .start _

end Wakes

/-! ## One thread at a time -/

/-- Before its first turn, or parked in a handoff. -/
def Pc.Outside : Pc → Prop
  | .setDevice | .register | .arrive | .atBarrier | .entryWait => True
  | _ => False

/-- From the clear behind one wait to the next wait, and through the exit up to
the native wakeup of the peer. -/
def Pc.Running : Pc → Prop
  | .entryCheck | .body | .yieldCheck | .yieldSignal | .yieldRecheck => True
  | .leaving false todo => ∃ pre, todo = pre ++ [.setSignal, .setSignal] ∧ pre <:+ [.unregister, .recvHook]
  | _ => False

/-- Waiting for the peer in a handoff, or just woken. -/
def Pc.InWait : Pc → Prop
  | .yieldWait | .yieldClear | .yieldRecheck => True
  | _ => False

/-- Raised, and not even the barrier aborted yet. -/
def Pc.Raising (pc : Pc) : Prop := ∃ rest, pc = .leaving true (abort ++ rest)

/-- Without the turn. -/
structure Idle (w : World) (i : Ubatch) : Prop where
  event : w.event i = false
  pc : (w.pc i).Outside ∨ w.pc i = .yieldWait ∨ (w.pc i).Raising

/-- Thread `i` has the turn: its event is set, or it runs, or it has raised. -/
structure Turn (w : World) (i : Ubatch) : Prop where
  peer : Idle w i.peer
  pc : (w.event i = true ∧
    ((w.pc i).Outside ∨ w.pc i = .yieldWait ∨ w.pc i = .entryClear ∨ w.pc i = .yieldClear)) ∨
    (w.event i = false ∧ (w.pc i).Running) ∨ (w.pc i).Raising
  handoff : (w.pc i).InWait → w.pc i.peer = .yieldWait
  parent : w.parent = .joining ∨ w.parent = .returned

/-- Nobody has had the turn yet. -/
structure Before (w : World) : Prop where
  parent : w.parent = .starting ∨ w.parent = .atBarrier ∨ w.parent = .releasing
  idle : ∀ i, w.event i = false ∧ ((w.pc i).Outside ∨ (w.pc i).Raising)

/-- Thread `i` has left in order and passed the turn on. -/
structure Left (w : World) (i : Ubatch) : Prop where
  pc : w.pc i = .leaving false [.setSignal] ∨ w.pc i = .leaving false []
  parent : w.parent = .joining ∨ w.parent = .returned

/-- While nobody has aborted. -/
inductive Scheduled (w : World) : Prop where
  | cancelled (h : w.Cancelled)
  | before (h : Before w)
  | turn (i : Ubatch) (h : Turn w i)
  | left (i : Ubatch) (h : Left w i)

/-- A thread outside or raising is in no wait. -/
theorem Pc.not_inWait {pc : Pc} (h : pc.Outside ∨ pc.Raising) : ¬ pc.InWait := by
  rcases h with h | ⟨rest, rfl⟩
  · cases pc with
    | yieldWait | yieldClear | yieldRecheck => exact h.elim
    | _ => exact id
  · exact id

section Schedule
variable {w v : World} {i : Ubatch}

/-- A thread without the turn comes nearer to its first wait, raises, or breaks the barrier. -/
theorem ThreadStep.idle (hs : ThreadStep i w v) (h : Idle w i) :
    v.Cancelled ∨ v.event = w.event ∧ (w.pc i).Outside ∧ ((v.pc i).Outside ∨ (v.pc i).Raising) := by
  obtain ⟨hevent, hidle⟩ := h
  cases hs with
  | setDevice hpc | register hpc | arriveWaits hpc | arrivePasses hpc | barrierPasses hpc =>
    exact .inr ⟨rfl, by simp [hpc, Pc.Outside], .inl (by simp [Pc.Outside])⟩
  | deviceFails hpc | barrierFails hpc => exact .inr ⟨rfl, by simp [hpc, Pc.Outside], .inr ⟨_, by simp; rfl⟩⟩
  | arriveRaises _ hb => exact .inl ((Barrier.enter_raises hb).2 ▸ (Barrier.enter_raises hb).1)
  | barrierRaises _ hb =>
    exact .inl ((Barrier.resume_raises hb).2 ▸ Barrier.leave_broken.2 (Barrier.resume_raises hb).1)
  | barrierTimesOut => exact .inl (Barrier.leave_broken.2 rfl)
  | entryWakes _ he | yieldWakes _ he => exact absurd he (by simp [hevent])
  | @cleans raised c todo hpc =>
    simp only [hpc, Pc.Outside, Pc.Raising, Pc.leaving.injEq, reduceCtorEq, false_or] at hidle
    obtain ⟨rest, rfl, hrest⟩ := hidle
    obtain rfl := (List.cons.inj hrest).1
    exact .inl rfl
  | hookFails hpc =>
    simp [hpc, Pc.Outside, Pc.Raising, abort] at hidle
  | entryClears hpc | enters hpc | entryCancelled hpc | yields hpc | bodyFails hpc | bodyReturns hpc
  | yieldChecks hpc | yieldCancelled hpc | yieldSignals hpc | yieldClears hpc | yieldReturns hpc
  | recheckCancelled hpc =>
    simp [hpc, Pc.Outside, Pc.Raising] at hidle

theorem Before.thread (h : Before w) (hs : ThreadStep i w v) : Scheduled v := by
  obtain ⟨hpeer, -, hparent, -⟩ := hs.frame
  have hi := h.idle i
  rcases hs.idle ⟨hi.1, hi.2.imp_right .inr⟩ with hc | ⟨hevent, -, hpc⟩
  · exact .cancelled hc
  · refine .before ⟨hparent ▸ h.parent, fun j => ?_⟩
    rw [hevent]
    rcases Ubatch.eq_or_eq_peer i j with rfl | rfl
    · exact ⟨hi.1, hpc⟩
    · rw [hpeer]
      exact h.idle _

theorem Left.thread (h : Left w i) {j : Ubatch} (hs : ThreadStep j w v) : Left v i := by
  obtain ⟨hpeer, -, hparent, -⟩ := hs.frame
  refine ⟨?_, hparent ▸ h.parent⟩
  rcases Ubatch.eq_or_eq_peer j i with rfl | rfl
  · rcases h.pc with hpc | hpc
    · rcases hs.of_leaving hpc with ⟨c, rest, heq, rfl⟩ | ⟨rest, heq, -⟩
      · obtain rfl := (List.cons.inj heq).2
        exact .inr (by simp)
      · cases heq
    · rcases hs.of_leaving hpc with ⟨c, rest, heq, -⟩ | ⟨rest, heq, -⟩ <;> cases heq
  · rw [hpeer]
    exact h.pc

/-- A step of the thread without the turn. -/
theorem Turn.peerStep (h : Turn w i) (hs : ThreadStep i.peer w v) : Scheduled v := by
  obtain ⟨hi, -, hparent, -⟩ := hs.frame
  rw [Ubatch.peer_peer] at hi
  rcases hs.idle h.peer with hc | ⟨hevent, hout, hpc⟩
  · exact .cancelled hc
  · refine .turn i ⟨⟨hevent ▸ h.peer.event, hpc.imp_right .inr⟩, ?_, fun hwait => ?_, hparent ▸ h.parent⟩
    · rw [hevent, hi]
      exact h.pc
    · rw [hi] at hwait
      rw [h.handoff hwait] at hout
      exact hout.elim

/-- A thread that has raised breaks the barrier next. -/
theorem ThreadStep.of_raising (hs : ThreadStep i w v) (h : (w.pc i).Raising) : v.Cancelled := by
  obtain ⟨rest, hpc⟩ := h
  rcases hs.of_leaving hpc with ⟨c, rest', heq, rfl⟩ | ⟨rest', heq, -⟩
  · obtain rfl := (List.cons.inj heq).1
    rfl
  · cases heq

/-- The turn stays with a thread that runs on. -/
theorem Turn.runs (h : Turn w i) {pc : Pc} (hevent : v.event = w.event)
    (hmove : v.pc = Function.update w.pc i pc) (hparent : v.parent = w.parent) (he : w.event i = false)
    (hpc : pc.Running) (hwait : ¬ pc.InWait) : Scheduled v := by
  refine .turn i ⟨⟨hevent ▸ h.peer.event, ?_⟩, .inr (.inl ⟨hevent ▸ he, ?_⟩), fun hw => ?_,
    hparent ▸ h.parent⟩
  · simpa [hmove] using h.peer.pc
  · simpa [hmove] using hpc
  · exact absurd hw (by simpa [hmove] using hwait)

/-- The turn stays with a thread on its way through a wait whose event is set. -/
theorem Turn.wakes (h : Turn w i) {pc : Pc} (hevent : v.event = w.event)
    (hmove : v.pc = Function.update w.pc i pc) (hparent : v.parent = w.parent) (he : w.event i = true)
    (hpc : pc.Outside ∨ pc = .entryClear ∨ pc = .yieldClear) (hwait : pc.InWait → (w.pc i).InWait) :
    Scheduled v := by
  refine .turn i ⟨⟨hevent ▸ h.peer.event, ?_⟩, .inl ⟨hevent ▸ he, ?_⟩, fun hw => ?_, hparent ▸ h.parent⟩
  · simpa [hmove] using h.peer.pc
  · simpa [hmove] using hpc.imp_right .inr
  · rw [hmove, update_peer]
    exact h.handoff (hwait (by simpa [hmove] using hw))

/-- The turn stays with a thread that raises. -/
theorem Turn.raises (h : Turn w i) {rest : List Cleanup} (hevent : v.event = w.event)
    (hmove : v.pc = Function.update w.pc i (.leaving true (abort ++ rest)))
    (hparent : v.parent = w.parent) :
    Scheduled v := by
  refine .turn i ⟨⟨hevent ▸ h.peer.event, ?_⟩, .inr (.inr ⟨rest, by simp [hmove]⟩), fun hw => ?_,
    hparent ▸ h.parent⟩
  · simpa [hmove] using h.peer.pc
  · simp [hmove, Pc.InWait] at hw

/-- The turn stays with a thread that clears its event. -/
theorem Turn.clears (h : Turn w i) {pc : Pc} (hpc : pc.Running) (hwait : pc.InWait → (w.pc i).InWait) :
    Scheduled ((w.setEvent i false).goto i pc) := by
  refine .turn i ⟨⟨by simpa using h.peer.event, by simpa using h.peer.pc⟩, ?_, fun hw => ?_, h.parent⟩
  · exact .inr (.inl ⟨by simp, by simpa using hpc⟩)
  · simpa using h.handoff (hwait (by simpa using hw))

/-- A handoff gives the turn to the peer. -/
theorem Turn.signals (h : Turn w i) (he : w.event i = false) :
    Scheduled ((w.setEvent i.peer true).goto i .yieldWait) := by
  refine .turn i.peer ⟨⟨by simpa using he, by simp⟩, ?_, fun _ => by simp, h.parent⟩
  rcases h.peer.pc with hpc | hpc | hpc
  · exact .inl ⟨by simp, .inl (by simpa using hpc)⟩
  · exact .inl ⟨by simp, .inr (.inl (by simpa using hpc))⟩
  · exact .inr (.inr (by simpa using hpc))

/-- One step of the thread that leaves in order. -/
theorem Turn.leaves (h : Turn w i) {todo : List Cleanup} (hpc : w.pc i = .leaving false todo)
    (hs : ThreadStep i w v) : Scheduled v := by
  have hrun : w.event i = false ∧ (w.pc i).Running := by
    simpa [hpc, Pc.Outside, Pc.Raising] using h.pc
  obtain ⟨he, hrun⟩ := hrun
  rw [hpc] at hrun
  obtain ⟨pre, rfl, hpre⟩ := hrun
  rcases hs.of_leaving hpc with ⟨c, rest, heq, rfl⟩ | ⟨rest, -, rfl⟩
  · cases pre with
    | nil =>
      obtain ⟨rfl, rfl⟩ := List.cons.inj heq
      exact .left i ⟨.inl (by simp), h.parent⟩
    | cons c' pre =>
      obtain ⟨rfl, rfl⟩ := List.cons.inj heq
      have hrest : (Pc.leaving false (pre ++ [.setSignal, .setSignal])).Running :=
        ⟨pre, rfl, (List.suffix_cons c' pre).trans hpre⟩
      have hmem : c' = .unregister ∨ c' = .recvHook := by simpa using hpre.subset List.mem_cons_self
      rcases hmem with rfl | rfl
      · exact h.runs rfl rfl rfl he hrest nofun
      · exact h.runs rfl rfl rfl he hrest nofun
  · exact h.raises rfl rfl rfl

/-- One step of the thread with the turn. -/
theorem Turn.ownStep (h : Turn w i) (hs : ThreadStep i w v) : Scheduled v := by
  have hpc := h.pc
  cases hs with
  | setDevice hat | register hat | arriveWaits hat | arrivePasses hat | barrierPasses hat =>
    have he : w.event i = true := by simpa [hat, Pc.Outside, Pc.Running, Pc.Raising] using hpc
    exact h.wakes rfl rfl rfl he (.inl trivial) nofun
  | entryWakes _ he => exact h.wakes rfl rfl rfl he (.inr (.inl rfl)) nofun
  | yieldWakes hat he => exact h.wakes rfl rfl rfl he (.inr (.inr rfl)) fun _ => by simp [hat, Pc.InWait]
  | deviceFails | barrierFails | bodyFails => exact h.raises rfl rfl rfl
  | arriveRaises _ hb => exact .cancelled ((Barrier.enter_raises hb).2 ▸ (Barrier.enter_raises hb).1)
  | barrierRaises _ hb =>
    exact .cancelled ((Barrier.resume_raises hb).2 ▸ Barrier.leave_broken.2 (Barrier.resume_raises hb).1)
  | barrierTimesOut => exact .cancelled (Barrier.leave_broken.2 rfl)
  | entryClears => exact h.clears trivial nofun
  | yieldClears hat => exact h.clears trivial fun _ => by simp [hat, Pc.InWait]
  | enters hat | yields hat | yieldChecks hat | yieldReturns hat =>
    have he : w.event i = false := by simpa [hat, Pc.Outside, Pc.Raising, Pc.Running] using hpc
    exact h.runs rfl rfl rfl he trivial nofun
  | bodyReturns hat =>
    have he : w.event i = false := by simpa [hat, Pc.Outside, Pc.Raising, Pc.Running] using hpc
    exact h.runs rfl rfl rfl he ⟨[.unregister, .recvHook], rfl, List.suffix_rfl⟩ nofun
  | yieldSignals hat =>
    have he : w.event i = false := by simpa [hat, Pc.Outside, Pc.Raising, Pc.Running] using hpc
    exact h.signals he
  | entryCancelled _ hb | yieldCancelled _ hb | recheckCancelled _ hb => exact .cancelled hb
  | @cleans raised c todo hat =>
    cases raised with
    | false => exact h.leaves hat (.cleans hat)
    | true =>
      refine .cancelled (ThreadStep.of_raising (.cleans hat) ?_)
      simpa [hat, Pc.Outside, Pc.Running] using hpc
  | @hookFails raised todo hat =>
    cases raised with
    | false => exact h.leaves hat (.hookFails hat)
    | true =>
      refine .cancelled (ThreadStep.of_raising (.hookFails hat) ?_)
      simpa [hat, Pc.Outside, Pc.Running] using hpc

theorem Scheduled.thread (h : Scheduled w) (hs : ThreadStep i w v) : Scheduled v := by
  cases h with
  | cancelled h => exact .cancelled (hs.frame.2.2.2 h)
  | before h => exact h.thread hs
  | turn j h =>
    rcases Ubatch.eq_or_eq_peer j i with rfl | rfl
    · exact h.ownStep hs
    · exact h.peerStep hs
  | left j h => exact .left j (h.thread hs)

/-- The parent gives the first thread the first turn. -/
theorem Before.releases (h : Before w) :
    Scheduled ({ w with parent := .joining }.setEvent .first true) := by
  refine .turn .first ⟨⟨?_, (h.idle .second).2.imp_right .inr⟩, ?_, fun hw => ?_, .inl rfl⟩
  · exact (h.idle .second).1
  · rcases (h.idle .first).2 with hpc | hpc
    · exact .inl ⟨rfl, .inl hpc⟩
    · exact .inr (.inr hpc)
  · exact absurd hw (Pc.not_inWait (h.idle .first).2)

/-- Once the turns have begun the parent only joins. -/
theorem OtherStep.joins (hs : OtherStep w v) (h : w.parent = .joining ∨ w.parent = .returned) :
    v.Cancelled ∨ v.event = w.event ∧ v.pc = w.pc ∧ (v.parent = .joining ∨ v.parent = .returned) := by
  cases hs with
  | parentWaits hat | parentTimesOut hat | parentReleases hat => simp [hat] at h
  | parentPasses hat | parentRaises hat => rcases hat with hat | hat <;> simp [hat.1] at h
  | parentJoins => exact .inr ⟨rfl, rfl, .inr rfl⟩
  | stale _ hb => exact .inl hb

theorem Before.other (h : Before w) (hs : OtherStep w v) : Scheduled v := by
  cases hs with
  | parentWaits => exact .before ⟨.inr (.inl rfl), h.idle⟩
  | parentPasses => exact .before ⟨.inr (.inr rfl), h.idle⟩
  | parentRaises hw =>
    rcases hw with ⟨-, hw⟩ | ⟨-, hw⟩
    · exact .cancelled ((Barrier.enter_raises hw).2 ▸ (Barrier.enter_raises hw).1)
    · exact .cancelled ((Barrier.resume_raises hw).2 ▸ Barrier.leave_broken.2 (Barrier.resume_raises hw).1)
  | parentTimesOut => exact .cancelled (Barrier.leave_broken.2 rfl)
  | parentReleases => exact h.releases
  | parentJoins hat => rcases h.parent with h | h | h <;> cases hat.symm.trans h
  | stale _ hb => exact .cancelled hb

theorem Scheduled.other (h : Scheduled w) (hs : OtherStep w v) : Scheduled v := by
  cases h with
  | cancelled h => exact .cancelled (hs.frame.2.2.2 h)
  | before h => exact h.other hs
  | turn i h =>
    rcases hs.joins h.parent with hc | ⟨hevent, hpc, hparent⟩
    · exact .cancelled hc
    · exact .turn i ⟨⟨hevent ▸ h.peer.event, hpc ▸ h.peer.pc⟩, hevent ▸ hpc ▸ h.pc,
        hpc ▸ h.handoff, hparent⟩
  | left i h =>
    rcases hs.joins h.parent with hc | ⟨-, hpc, hparent⟩
    · exact .cancelled hc
    · exact .left i ⟨hpc ▸ h.pc, hparent⟩

theorem Scheduled.start (b : Barrier) : Scheduled (start b) :=
  .before ⟨.inl rfl, fun _ => ⟨rfl, .inl trivial⟩⟩

theorem Reachable.scheduled (h : Reachable w) : Scheduled w := by
  induction h with
  | first => exact .start _
  | thread i _ hs ih => exact ih.thread hs
  | other _ hs ih => exact ih.other hs
  | again => exact .start _

/-- Nobody returns from a handoff between the peer's exception and its abort. -/
theorem Scheduled.not_woken (h : Scheduled w) (hfailed : w.Failed i.peer) (hb : ¬ w.Cancelled) :
    w.pc i ≠ .yieldRecheck := by
  intro hpc
  obtain ⟨todo, htodo⟩ := hfailed
  cases h with
  | cancelled h => exact hb h
  | before h => simpa [hpc, Pc.Outside, Pc.Raising] using (h.idle i).2
  | turn j h =>
    rcases Ubatch.eq_or_eq_peer i j with rfl | rfl
    · have hwait := h.handoff (by simp [hpc, Pc.InWait])
      cases htodo.symm.trans hwait
    · simpa [hpc, Pc.Outside, Pc.Raising] using h.peer.pc
  | left j h =>
    rcases Ubatch.eq_or_eq_peer i j with rfl | rfl
    · simpa [hpc] using h.pc
    · simpa [htodo] using h.pc

end Schedule

end AfdPlugin.Mrv2Ubatching
