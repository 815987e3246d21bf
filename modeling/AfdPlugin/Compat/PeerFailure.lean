import AfdPlugin.Compat.Turns

/-! What becomes of the other thread when one of the two microbatch threads
fails. -/

namespace AfdPlugin.Mrv2Ubatching

open World

/-! ## The handoff after a failure -/

/-- Anywhere in `_cpu_yield`. -/
def Pc.InYield : Pc → Prop
  | .yieldCheck | .yieldSignal | .yieldWait | .yieldClear | .yieldRecheck => True
  | _ => False

/-- A failing receive hook adds a cleanup of four steps. -/
def Cleanup.cost : Cleanup → Nat
  | .recvHook => 5
  | _ => 1

def cleanupRank : List Cleanup → Nat
  | [] => 0
  | c :: todo => c.cost + cleanupRank todo

/-- Steps left in a handoff, or in a cleanup. -/
def Pc.rank : Pc → Nat
  | .yieldCheck => 5
  | .yieldSignal => 4
  | .yieldWait => 3
  | .yieldClear => 2
  | .yieldRecheck => 1
  | .leaving _ todo => cleanupRank todo
  | _ => 0

def World.rank (w : World) (i : Ubatch) : Nat := (w.pc i).rank + (w.pc i.peer).rank

section Handoff
variable {w v : World} {i : Ubatch}

/-- A failed thread stays failed and comes nearer to its end. -/
theorem ThreadStep.failed (hs : ThreadStep i w v) (h : w.Failed i) :
    v.Failed i ∧ (v.pc i).rank < (w.pc i).rank := by
  obtain ⟨todo, hpc⟩ := h
  rcases hs.of_leaving hpc with ⟨c, rest, rfl, rfl⟩ | ⟨rest, rfl, rfl⟩
  · refine ⟨⟨rest, by simp⟩, ?_⟩
    have hcost : 0 < c.cost := by cases c <;> decide
    simpa [hpc, Pc.rank, cleanupRank] using hcost
  · refine ⟨⟨hookFailed, by simp⟩, ?_⟩
    simp [hpc, Pc.rank, cleanupRank, hookFailed, abort, Cleanup.cost]
    omega

/-- Whoever does not return from a handoff raises in it or comes nearer to its end. -/
theorem ThreadStep.inYield (hs : ThreadStep i w v) (h : (w.pc i).InYield)
    (hreturn : w.pc i = .yieldRecheck → w.Cancelled) :
    v.Failed i ∨ (v.pc i).InYield ∧ (v.pc i).rank < (w.pc i).rank := by
  cases hs with
  | yieldChecks hat | yieldSignals hat | yieldWakes hat | yieldClears hat =>
    exact .inr ⟨by simp [Pc.InYield], by simp [hat, Pc.rank]⟩
  | yieldCancelled | recheckCancelled => exact .inl ⟨_, by simp; rfl⟩
  | yieldReturns hat hb => exact absurd (hreturn hat) hb
  | _ => simp_all [Pc.InYield]

/-- Once the peer has failed, a handoff ends with an exception after boundedly many steps. -/
theorem handoff_fails (h : Reachable w) (hfailed : w.Failed i.peer) (hyield : (w.pc i).InYield) {n : Nat}
    (hs : Steps n w v) :
    Reachable v ∧ v.Failed i.peer ∧ (v.Failed i ∨ (v.pc i).InYield ∧ n + v.rank i ≤ w.rank i) := by
  induction hs with
  | refl => exact ⟨h, hfailed, .inr ⟨hyield, by omega⟩⟩
  | @thread n w u v j _ hs ih =>
    obtain ⟨hr, hpeer, hi⟩ := ih h hfailed hyield
    obtain ⟨hother, -⟩ := hs.frame
    refine ⟨hr.thread j hs, ?_⟩
    rcases Ubatch.eq_or_eq_peer i j with rfl | rfl
    · have hpeer' : v.Failed j.peer := hpeer.imp fun _ => hother.trans
      refine ⟨hpeer', ?_⟩
      rcases hi with hi | ⟨hin, hrank⟩
      · exact .inl (hs.failed hi).1
      · have hreturn : u.pc j = .yieldRecheck → u.Cancelled := fun hat => by
          by_contra hb
          exact hr.scheduled.not_woken hpeer hb hat
        rcases hs.inYield hin hreturn with hf | ⟨hin', hlt⟩
        · exact .inl hf
        · refine .inr ⟨hin', ?_⟩
          unfold World.rank at hrank ⊢
          rw [hother]
          omega
    · obtain ⟨hpeer', hlt⟩ := hs.failed hpeer
      rw [Ubatch.peer_peer] at hother
      refine ⟨hpeer', hi.imp (fun hi => hi.imp fun _ => hother.trans) fun ⟨hin, hrank⟩ =>
        ⟨hother ▸ hin, ?_⟩⟩
      unfold World.rank at hrank ⊢
      rw [hother]
      omega
  | other _ hs ih =>
    obtain ⟨hr, hpeer, hi⟩ := ih h hfailed hyield
    obtain ⟨hpc, -⟩ := hs.frame
    unfold World.Failed World.rank at *
    rw [hpc]
    exact ⟨hr.other hs, hpeer, hi⟩

end Handoff

/-! ## The registry and later runs -/

/-- A registered thread is past the registration, and its cleanup unregisters
it before it runs the receive hook. -/
def Pc.Registered : Pc → Prop
  | .setDevice | .register => False
  | .leaving _ todo => ∃ pre rest, todo = pre ++ .unregister :: rest ∧ .recvHook ∉ pre
  | _ => True

/-- Turned away by the barrier. -/
structure Refused (w : World) : Prop where
  cancelled : w.Cancelled
  threads : ∀ i, w.pc i = .setDevice ∨ w.pc i = .register ∨ w.pc i = .arrive ∨ w.Failed i
  parent : w.parent = .starting ∨ w.parent = .raised

section Later
variable {w v : World} {i : Ubatch}

theorem ThreadStep.registered (hs : ThreadStep i w v) (h : w.registry i = true → (w.pc i).Registered)
    (hv : v.registry i = true) : (v.pc i).Registered := by
  cases hs with
  | setDevice hat | deviceFails hat => simpa [hat, Pc.Registered] using h hv
  | arriveRaises | barrierRaises | barrierTimesOut | barrierFails | entryCancelled | bodyFails | yieldCancelled
      | recheckCancelled =>
    simp only [raise, goto, Function.update_self]
    exact ⟨abort, _, rfl, by decide⟩
  | bodyReturns =>
    simp only [goto, Function.update_self]
    exact ⟨[], _, rfl, by decide⟩
  | @cleans raised c todo hat =>
    simp only [goto, Function.update_self]
    rcases eq_or_ne c .unregister with rfl | hc
    · simp at hv
    · have hw : w.registry i = true := by cases c <;> simp_all
      obtain ⟨pre, rest, heq, hpre⟩ := (hat ▸ h hw : (Pc.leaving raised (c :: todo)).Registered)
      cases pre with
      | nil => exact absurd (List.cons.inj heq).1 hc
      | cons c' pre => exact ⟨pre, rest, (List.cons.inj heq).2, fun hm => hpre (List.mem_cons_of_mem _ hm)⟩
  | @hookFails raised todo hat =>
    obtain ⟨pre, rest, heq, hpre⟩ := (hat ▸ h hv : (Pc.leaving raised (.recvHook :: todo)).Registered)
    cases pre with
    | nil => cases heq
    | cons c pre => exact absurd ((List.cons.inj heq).1 ▸ List.mem_cons_self) hpre
  | _ => simp [Pc.Registered]

theorem Reachable.registered (h : Reachable w) (i : Ubatch) :
    w.registry i = true → (w.pc i).Registered := by
  induction h generalizing i with
  | first | again => nofun
  | thread j _ hs ih =>
    rcases Ubatch.eq_or_eq_peer j i with rfl | rfl
    · exact hs.registered (ih _)
    · rw [hs.frame.1, hs.frame.2.1]
      exact ih _
  | other _ hs ih =>
    rw [hs.frame.1, hs.frame.2.1]
    exact ih i

theorem Refused.start {b : Barrier} (h : b.state = .broken) : Refused (start b) :=
  ⟨h, fun _ => .inl rfl, .inl rfl⟩

theorem Refused.thread (h : Refused w) (hs : ThreadStep i w v) : Refused v := by
  obtain ⟨hpeer, -, hparent, hbroken⟩ := hs.frame
  refine ⟨hbroken h.cancelled, fun j => ?_, hparent ▸ h.parent⟩
  rcases Ubatch.eq_or_eq_peer i j with rfl | rfl
  · rcases h.threads j with hat | hat | hat | hf
    · cases hs with
      | setDevice => exact .inr (.inl (by simp))
      | deviceFails => exact .inr (.inr (.inr ⟨_, by simp; rfl⟩))
      | _ => simp_all
    · cases hs with
      | register => exact .inr (.inr (.inl (by simp)))
      | _ => simp_all
    · cases hs with
      | arriveRaises => exact .inr (.inr (.inr ⟨_, by simp; rfl⟩))
      | arriveWaits _ hb => exact absurd h.cancelled (Barrier.enter_unbroken (.inl hb)).1
      | arrivePasses _ hb => exact absurd h.cancelled (Barrier.enter_unbroken (.inr hb)).1
      | _ => simp_all
    · exact .inr (.inr (.inr (hs.failed hf).1))
  · unfold World.Failed
    rw [hpeer]
    exact h.threads _

theorem Refused.other (h : Refused w) (hs : OtherStep w v) : Refused v := by
  obtain ⟨hpc, -, -, hbroken⟩ := hs.frame
  refine ⟨hbroken h.cancelled, fun j => ?_, ?_⟩
  · unfold World.Failed
    rw [hpc]
    exact h.threads j
  · cases hs with
    | parentWaits _ hb => exact absurd h.cancelled (Barrier.enter_unbroken (.inl hb)).1
    | parentPasses hw =>
      rcases hw with ⟨-, hw⟩ | ⟨hat, -⟩
      · exact absurd h.cancelled (Barrier.enter_unbroken (.inr hw)).1
      · rcases h.parent with hp | hp <;> cases hat.symm.trans hp
    | parentRaises | parentTimesOut => exact .inr rfl
    | parentReleases hat | parentJoins hat => rcases h.parent with hp | hp <;> cases hat.symm.trans hp
    | stale => exact h.parent

/-- The parent returns when both threads have left, and raises at a broken barrier. -/
theorem Reachable.joined (h : Reachable w) (hret : w.parent = .returned) :
    ∀ i, ∃ raised, w.pc i = .leaving raised [] := by
  induction h with
  | first | again => cases hret
  | thread i _ hs ih =>
    obtain ⟨hpeer, -, hparent, -⟩ := hs.frame
    have hleft := ih (hparent ▸ hret)
    obtain ⟨raised, hpc⟩ := hleft i
    rcases hs.of_leaving hpc with ⟨c, rest, heq, -⟩ | ⟨rest, heq, -⟩ <;> cases heq
  | other _ hs ih =>
    rw [hs.frame.1]
    cases hs with
    | parentJoins _ hleft => exact hleft
    | stale => exact ih hret
    | _ => cases hret

/-- A run in which a thread has failed is over only with a broken barrier. -/
theorem Reachable.over (h : Reachable w) (hfailed : w.Failed i) (hover : w.Over) : w.Cancelled := by
  rcases hover with hret | hraised
  · obtain ⟨todo, hpc⟩ := hfailed
    obtain ⟨raised, hleft⟩ := h.joined hret i
    rcases h.wakes.aborts i todo hpc with hc | ⟨rest, rfl⟩
    · exact hc
    · cases hpc.symm.trans hleft
  · exact h.wakes.parent hraised

theorem Steps.failed {n : Nat} (hs : Steps n w v) (h : Reachable w) (hfailed : w.Failed i) :
    Reachable v ∧ v.Failed i := by
  induction hs with
  | refl => exact ⟨h, hfailed⟩
  | thread j _ hs ih =>
    obtain ⟨hr, hf⟩ := ih h hfailed
    refine ⟨hr.thread j hs, ?_⟩
    rcases Ubatch.eq_or_eq_peer j i with rfl | rfl
    · exact (hs.failed hf).1
    · exact hf.imp fun _ => hs.frame.1.trans
  | other _ hs ih =>
    obtain ⟨hr, hf⟩ := ih h hfailed
    exact ⟨hr.other hs, hf.imp fun _ => (congrFun hs.frame.1 i).trans⟩

theorem Later.refused (h : Reachable w) (hfailed : w.Failed i) (hl : Later w v) : Refused v := by
  induction hl with
  | again hs hover =>
    obtain ⟨hr, hf⟩ := hs.failed h hfailed
    exact .start (hr.over hf hover)
  | thread _ _ hs ih => exact ih.thread hs
  | other _ hs ih => exact ih.other hs
  | next _ _ ih => exact .start ih.cancelled

end Later

/-! ## Peer failure -/

/-- A thread that waits for a failed peer has its wakeup set or in the peer's
cleanup; its handoff ends with an exception, after boundedly many steps and
never stuck; threads that have left are out of the registry; and the barrier
turns every later run away. -/
theorem npu_dbo_peer_failure {w : World} (h : Reachable w) :
    (∀ i, w.pc i = .yieldWait ∨ w.pc i = .entryWait → w.Failed i.peer →
      w.event i = true ∨ ∃ todo, w.pc i.peer = .leaving true todo ∧ .setSignal ∈ todo) ∧
    (∀ i, w.Failed i.peer → (w.pc i).InYield → ∀ n v, Steps n w v →
      v.Failed i ∨ (v.pc i).InYield ∧ n ≤ w.rank i ∧ ∃ j u, ThreadStep j v u) ∧
    ((∀ i, ∃ raised, w.pc i = .leaving raised []) → ∀ i, w.registry i = false) ∧
    ∀ i, w.Failed i → ∀ v, Later w v → Refused v := by
  have hwake : ∀ {u : World}, Reachable u → ∀ i, u.pc i = .yieldWait ∨ u.pc i = .entryWait →
      u.Failed i.peer →
      u.event i = true ∨ ∃ todo, u.pc i.peer = .leaving true todo ∧ .setSignal ∈ todo := by
    rintro u hu i hat ⟨todo, hpeer⟩
    have hwoken := hu.wakes.wakeup _ _ hpeer
    rw [Ubatch.peer_peer] at hwoken
    rcases hwoken with hmem | he | hc
    · exact .inr ⟨todo, hpeer, hmem⟩
    · exact .inl he
    · rcases hat with hat | hat <;> exact (hat ▸ hc).elim
  refine ⟨hwake h, fun i hfailed hyield n v hs => ?_, fun hleft i => ?_,
    fun i hfailed v hl => hl.refused h hfailed⟩
  · obtain ⟨hv, hpeer, hi⟩ := handoff_fails h hfailed hyield hs
    refine hi.imp_right fun ⟨hin, hrank⟩ => ⟨hin, by omega, ?_⟩
    by_cases hb : v.Cancelled
    all_goals
      match hat : v.pc i, hin with
      | .yieldCheck, _ => first | exact ⟨i, _, .yieldCancelled hat hb⟩ | exact ⟨i, _, .yieldChecks hat hb⟩
      | .yieldSignal, _ => exact ⟨i, _, .yieldSignals hat⟩
      | .yieldClear, _ => exact ⟨i, _, .yieldClears hat⟩
      | .yieldRecheck, _ =>
        first | exact ⟨i, _, .recheckCancelled hat hb⟩ | exact ⟨i, _, .yieldReturns hat hb⟩
      | .yieldWait, _ =>
        rcases hwake hv i (.inl hat) hpeer with he | ⟨todo, hpc, hmem⟩
        · exact ⟨i, _, .yieldWakes hat he⟩
        · obtain ⟨c, rest, rfl⟩ := List.exists_cons_of_ne_nil (List.ne_nil_of_mem hmem)
          exact ⟨i.peer, _, .cleans hpc⟩
  · obtain ⟨raised, hpc⟩ := hleft i
    by_contra hr
    obtain ⟨pre, rest, heq, -⟩ :=
      (hpc ▸ h.registered i (by simpa using hr) : (Pc.leaving raised []).Registered)
    simp at heq

/-- The first thread hands over and parks, the second fails in its model: the
first is not left asleep, and the runner's later runs are turned away. -/
theorem npu_dbo_peer_failure_parked :
    ∃ w, w.pc .first = .yieldWait ∧ w.event .first = false ∧
      (w.event .first = true ∨ ∃ todo, w.pc .second = .leaving true todo ∧ .setSignal ∈ todo) ∧
      ∀ v, Later w v → Refused v := by
  have h := Reachable.first
  replace h := ((h.thread .first (.setDevice rfl)).thread .first (.register rfl)).thread .first
    (.arriveWaits rfl rfl)
  replace h := ((h.thread .second (.setDevice rfl)).thread .second (.register rfl)).thread .second
    (.arriveWaits rfl rfl)
  replace h := h.other (.parentPasses (.inl ⟨rfl, rfl⟩))
  replace h := (h.thread .first (.barrierPasses rfl rfl)).thread .second (.barrierPasses rfl rfl)
  replace h := h.other (.parentReleases rfl)
  replace h := (h.thread .first (.entryWakes rfl rfl)).thread .first (.entryClears rfl)
  replace h := (h.thread .first (.enters rfl nofun)).thread .first (.yields rfl)
  replace h := (h.thread .first (.yieldChecks rfl nofun)).thread .first (.yieldSignals rfl)
  replace h := (h.thread .second (.entryWakes rfl rfl)).thread .second (.entryClears rfl)
  replace h := (h.thread .second (.enters rfl nofun)).thread .second (.bodyFails rfl)
  obtain ⟨hwake, -, -, hlater⟩ := npu_dbo_peer_failure h
  exact ⟨_, rfl, rfl, hwake .first (.inl rfl) ⟨_, rfl⟩, hlater .second ⟨_, rfl⟩⟩

end AfdPlugin.Mrv2Ubatching
