import AfdPlugin.Connectors.DeepepM2n.LaneStreams
import Mathlib.Tactic
/-!
# The order of the lanes

Within a step the connector's fields say where each lane stands: whether it has
joined the step, which event its next experts or combine wait for, and after its
last combine, which event the caller will wait for. At the end of a step all lanes
have rejoined the caller's stream and the fields are as they were at first, so the
steps can be taken one after the other, captured or not.
-/

namespace AfdPlugin.Deepep.LaneStreams

open Streams Device

/-! ## The fields during a step -/

def Host.callerStream (h : Host) : CudaStream := ⟨h.session, .caller⟩

def Host.laneAt (h : Host) (i : Nat) : CudaStream := ⟨h.session, .lane i⟩

/-- The lane's first command since `h₀` is a wait for the caller. -/
def JoinedSince (h₀ h : Host) (i : Nat) : Prop :=
  ∃ e, (h.device (h₀.laneAt i)).commands[(h₀.device (h₀.laneAt i)).commands.length]? = some (.waitEvent e) ∧
    e.stream = h₀.callerStream ∧ (h₀.device h₀.callerStream).commands.length ≤ e.position

/-- How a step that began in `h₀` has come to `h`. -/
structure Base (numLanes : Nat) (h₀ h : Host) : Prop where
  numLanes_eq : h.connector.numLanes = numLanes
  laneStreams_eq : h.connector.laneStreams = (initLanes numLanes).laneStreams
  stagePlans : h.connector.stagePlans = h₀.connector.stagePlans
  session : h.session = h₀.session
  captures : h.captures = h₀.captures
  extend : h₀.device.Extends h.device
  elsewhere : ∀ s, s.session ≠ h₀.session → h.device s = h₀.device s
  fork : ∀ e, h.connector.stepFork = some e →
    e.stream = h₀.callerStream ∧ (h₀.device h₀.callerStream).commands.length ≤ e.position
  capturing : h.connector.stepFork.isSome → h.connector.stepForkCapturing = h.isCapturing
  joined : ∀ l ∈ h.connector.lanesJoined, 1 < numLanes ∧ 0 ≤ l ∧ JoinedSince h₀ h l.toNat
  quiet : ∀ i, (∀ l ∈ h.connector.lanesJoined, l.toNat ≠ i) →
    (h.device (h₀.laneAt i)).commands = (h₀.device (h₀.laneAt i)).commands
  laneDone : ∀ l e, h.connector.laneDone.get? l = some e → e.stream = ⟨h₀.session, laneName numLanes l⟩
  sound : Sound numLanes h.device h.dispatches
  replays : ∀ x k, h.device.KernelAt x (.replay k) → h₀.device.KernelAt x (.replay k)

/-- What only waits do: they add to the stream `s`, and only lane `l` joins. -/
structure Steady (h h' : Host) (s : CudaStream) (l : Int) : Prop where
  payloads : h'.payloads = h.payloads
  dispatches : h'.dispatches = h.dispatches
  laneDone : h'.connector.laneDone = h.connector.laneDone
  joined : ∀ l' ∈ h'.connector.lanesJoined, l' = l ∨ l' ∈ h.connector.lanesJoined
  joined_mono : ∀ l' ∈ h.connector.lanesJoined, l' ∈ h'.connector.lanesJoined
  kernels : ∀ x k, h'.device.KernelAt x k ↔ h.device.KernelAt x k
  extend : h.device.Extends h'.device
  other : ∀ t, t ≠ s → h'.device t = h.device t

theorem Steady.refl (h : Host) (s : CudaStream) (l : Int) : Steady h h s l where
  payloads := rfl
  dispatches := rfl
  laneDone := rfl
  joined _ hl := .inr hl
  joined_mono _ hl := hl
  kernels _ _ := Iff.rfl
  extend := Extends.refl _
  other _ _ := rfl

section Base
variable {numLanes : Nat} {h₀ h : Host} {l : Int}

theorem laneName_of_lt (hn : 1 < numLanes) (l : Int) : laneName numLanes l = .lane l.toNat := if_pos hn

theorem laneName_of_not_lt (hn : ¬ 1 < numLanes) (l : Int) : laneName numLanes l = .caller := if_neg hn

theorem toNat_ne {l' : Int} (hl : 0 ≤ l) (hl' : 0 ≤ l') (h : l ≠ l') : l.toNat ≠ l'.toNat := by omega

theorem Base.laneStream (hb : Base numLanes h₀ h) (hl : 0 ≤ l) (hlt : l < numLanes) :
    h.laneStream l = .ok (laneName numLanes l) := by
  unfold Host.laneStream laneName
  rw [hb.numLanes_eq, if_pos ⟨hl, hlt⟩, hb.laneStreams_eq, initLanes]
  split
  · have hindex : l.toNat < numLanes := by omega
    have hne : ¬ numLanes = 0 := by omega
    simp [hindex, hne]
  · simp

theorem Base.place_caller (hb : Base numLanes h₀ h) : h.place .caller = h₀.callerStream := by
  simp [Host.place, Host.callerStream, hb.session]

/-- A lane that has joined works in the session that goes on. -/
theorem Base.place_lane (hb : Base numLanes h₀ h) (hjoined : 1 < numLanes → l ∈ h.connector.lanesJoined) :
    h.place (laneName numLanes l) = ⟨h₀.session, laneName numLanes l⟩ := by
  by_cases hn : 1 < numLanes
  · obtain ⟨-, -, e, hwait, -⟩ := hb.joined l (hjoined hn)
    have hne : (h.device ⟨h₀.session, .lane l.toNat⟩).commands.isEmpty = false := by
      apply List.isEmpty_eq_false_iff.2
      exact List.ne_nil_of_length_pos (Nat.zero_lt_of_lt (List.getElem?_eq_some_iff.1 hwait).1)
    rw [laneName_of_lt hn, Host.place, hb.session, if_pos (.inr hne)]
  · rw [laneName_of_not_lt hn, hb.place_caller]
    rfl

/-- A wait for an event of the session is part of it. -/
theorem Base.waitEvent (hb : Base numLanes h₀ h) (s : StreamName) {e : CudaEvent}
    (he : e.stream.session = h₀.session) :
    h.waitEvent s e = .ok { h with device := h.device.enqueue ⟨h₀.session, s⟩ [.waitEvent e] } := by
  rw [Host.waitEvent, if_pos (.inr (he.trans hb.session.symm)), he]

theorem steady_wait (h : Host) (s : CudaStream) (e : CudaEvent) (l : Int) :
    Steady h { h with device := h.device.enqueue s [.waitEvent e] } s l where
  payloads := rfl
  dispatches := rfl
  laneDone := rfl
  joined _ hl := .inr hl
  joined_mono _ hl := hl
  kernels _ _ := kernelAt_enqueue_wait
  extend := extends_enqueue _ _ _
  other _ ht := enqueue_other ht _

/-- Commands go to the caller's stream or to a lane that has joined. -/
theorem Base.enqueue (hb : Base numLanes h₀ h) {s : CudaStream}
    (hs : s = h₀.callerStream ∨ ∃ l ∈ h.connector.lanesJoined, s = h₀.laneAt l.toNat)
    (cs : List (Command CudaStream Kernel)) (hcs : ∀ k, .kernel (.replay k) ∉ cs) {dispatches : Int → Nat}
    (hsound : Sound numLanes (h.device.enqueue s cs) dispatches) :
    Base numLanes h₀ { h with device := h.device.enqueue s cs, dispatches := dispatches } where
  numLanes_eq := hb.numLanes_eq
  laneStreams_eq := hb.laneStreams_eq
  stagePlans := hb.stagePlans
  session := hb.session
  captures := hb.captures
  extend := hb.extend.trans (extends_enqueue _ _ _)
  elsewhere t ht := by
    have hne : t ≠ s := by
      rintro rfl
      obtain rfl | ⟨l, -, rfl⟩ := hs
      · exact ht rfl
      · exact ht rfl
    exact (enqueue_other hne cs).trans (hb.elsewhere t ht)
  fork := hb.fork
  capturing := hb.capturing
  joined l hl := by
    obtain ⟨hn, hl0, e, hwait, hcaller⟩ := hb.joined l hl
    exact ⟨hn, hl0, e, (extends_enqueue _ _ _).getElem? hwait, hcaller⟩
  quiet i hi := by
    have hne : h₀.laneAt i ≠ s := by
      rintro rfl
      obtain hs | ⟨l, hl, hs⟩ := hs
      · simp [Host.laneAt, Host.callerStream] at hs
      · simp only [Host.laneAt, CudaStream.mk.injEq, StreamName.lane.injEq, true_and] at hs
        exact hi l hl hs.symm
    exact (congrArg Stream.commands (enqueue_other hne cs)).trans (hb.quiet i hi)
  laneDone := hb.laneDone
  sound := hsound
  replays x k hx := hb.replays x k ((kernelAt_of_enqueue hx).resolve_right (hcs k))

theorem Base.enqueue_caller (hb : Base numLanes h₀ h) (cs : List (Command CudaStream Kernel))
    (hcs : ∀ k, .kernel (.replay k) ∉ cs) {dispatches : Int → Nat}
    (hsound : Sound numLanes (h.device.enqueue h₀.callerStream cs) dispatches) :
    Base numLanes h₀ { h with device := h.device.enqueue h₀.callerStream cs, dispatches := dispatches } :=
  hb.enqueue (.inl rfl) cs hcs hsound

theorem Base.enqueue_lane (hb : Base numLanes h₀ h) (hjoined : 1 < numLanes → l ∈ h.connector.lanesJoined)
    (cs : List (Command CudaStream Kernel)) (hcs : ∀ k, .kernel (.replay k) ∉ cs) {dispatches : Int → Nat}
    (hsound : Sound numLanes (h.device.enqueue ⟨h₀.session, laneName numLanes l⟩ cs) dispatches) :
    Base numLanes h₀ { h with
      device := h.device.enqueue ⟨h₀.session, laneName numLanes l⟩ cs, dispatches := dispatches } := by
  refine hb.enqueue ?_ cs hcs hsound
  by_cases hn : 1 < numLanes
  · exact .inr ⟨l, hjoined hn, by rw [laneName_of_lt hn, Host.laneAt]⟩
  · exact .inl (by rw [laneName_of_not_lt hn, Host.callerStream])

/-! ### Joining -/

theorem Base.checkStepFork (hb : Base numLanes h₀ h) : h.checkStepFork = h := by
  refine if_neg ?_
  rintro ⟨hsome, hne⟩
  exact hne (hb.capturing hsome).symm

/-- The fork event of the step is recorded on the caller's stream, after all that
came before the step. -/
theorem Base.recordStepFork (hb : Base numLanes h₀ h) :
    Base numLanes h₀ h.recordStepFork ∧ h.recordStepFork.connector.stepFork = some h.stepForkEvent := by
  unfold Host.recordStepFork Host.stepForkEvent
  cases hfork : h.connector.stepFork with
  | some e => exact ⟨hb, hfork⟩
  | none =>
    refine ⟨{ hb with fork := ?_, capturing := fun _ => rfl }, rfl⟩
    intro e he
    cases he
    rw [Host.record, hb.place_caller]
    exact ⟨rfl, hb.extend.length_le _⟩

theorem recordStepFork_lanesJoined (h : Host) :
    h.recordStepFork.connector.lanesJoined = h.connector.lanesJoined := by
  unfold Host.recordStepFork
  split <;> rfl

theorem steady_recordStepFork (h : Host) (s : CudaStream) (l : Int) : Steady h h.recordStepFork s l := by
  unfold Host.recordStepFork
  split
  · exact Steady.refl h s l
  · exact ⟨rfl, rfl, rfl, fun _ hl => .inr hl, fun _ hl => hl, fun _ _ => Iff.rfl, Extends.refl _,
      fun _ _ => rfl⟩

/-- A lane joins with a wait for the fork event. -/
theorem Base.join (hb : Base numLanes h₀ h) (hn : 1 < numLanes) (hl : 0 ≤ l)
    (hnew : l ∉ h.connector.lanesJoined) {e : CudaEvent} (he : h.connector.stepFork = some e) :
    Base numLanes h₀
      (Host.addJoined { h with device := h.device.enqueue (h₀.laneAt l.toNat) [.waitEvent e] } l) := by
  obtain ⟨hstream, hposition⟩ := hb.fork e he
  have hsame := hb.quiet l.toNat fun l' hl' => by
    have hne : l' ≠ l := fun h => hnew (h ▸ hl')
    exact toNat_ne (hb.joined l' hl').2.1 hl hne
  refine { hb with
    extend := ?_, elsewhere := ?_, joined := ?_, quiet := ?_, sound := hb.sound.wait _ _
    replays := fun x k hx => hb.replays x k (kernelAt_enqueue_wait.1 hx) }
  · exact hb.extend.trans (extends_enqueue _ _ _)
  · intro t ht
    have hne : t ≠ h₀.laneAt l.toNat := fun h => ht (congrArg CudaStream.session h)
    exact (enqueue_other hne _).trans (hb.elsewhere t ht)
  · intro l' hl'
    obtain rfl | hl' := List.mem_cons.1 hl'
    · refine ⟨hn, hl, e, ?_, hstream, hposition⟩
      simp [Host.addJoined, hsame]
    · obtain ⟨-, hl0, e', hwait, hcaller⟩ := hb.joined l' hl'
      exact ⟨hn, hl0, e', (extends_enqueue _ _ _).getElem? hwait, hcaller⟩
  · intro i hi
    have hne : h₀.laneAt i ≠ h₀.laneAt l.toNat := by
      intro heq
      simp only [Host.laneAt, CudaStream.mk.injEq, StreamName.lane.injEq, true_and] at heq
      exact hi l List.mem_cons_self heq.symm
    exact (congrArg Stream.commands (enqueue_other hne _)).trans
      (hb.quiet i fun l' hl' => hi l' (List.mem_cons_of_mem l hl'))

theorem Base.joinStep (hb : Base numLanes h₀ h) (hl : 0 ≤ l) :
    ∃ h', h.joinStep l (laneName numLanes l) = .ok h' ∧ Base numLanes h₀ h' ∧
      (1 < numLanes → l ∈ h'.connector.lanesJoined) ∧ Steady h h' ⟨h₀.session, laneName numLanes l⟩ l := by
  by_cases hn : 1 < numLanes
  · rw [laneName_of_lt hn, Host.joinStep, if_neg StreamName.noConfusion, hb.checkStepFork, Host.joinOwn]
    by_cases hjoined : l ∈ h.connector.lanesJoined
    · rw [if_pos hjoined]
      exact ⟨h, rfl, hb, fun _ => hjoined, Steady.refl h _ l⟩
    · rw [if_neg hjoined]
      obtain ⟨hrecorded, hfork⟩ := hb.recordStepFork
      obtain ⟨hstream, -⟩ := hrecorded.fork _ hfork
      have hnew : l ∉ h.recordStepFork.connector.lanesJoined := by
        rwa [recordStepFork_lanesJoined]
      rw [hrecorded.waitEvent _ (congrArg CudaStream.session hstream)]
      refine ⟨_, rfl, hrecorded.join hn hl hnew hfork, fun _ => List.mem_cons_self, ?_⟩
      have hsteady := steady_recordStepFork h (h₀.laneAt l.toNat) l
      refine ⟨hsteady.payloads, hsteady.dispatches, hsteady.laneDone, ?_, ?_, ?_, ?_, ?_⟩
      · intro l' hl'
        obtain rfl | hl' := List.mem_cons.1 hl'
        · exact .inl rfl
        · exact hsteady.joined l' hl'
      · exact fun l' hl' => List.mem_cons_of_mem l (hsteady.joined_mono l' hl')
      · exact fun x k => kernelAt_enqueue_wait.trans (hsteady.kernels x k)
      · exact hsteady.extend.trans (extends_enqueue _ _ _)
      · exact fun t ht => (enqueue_other ht _).trans (hsteady.other t ht)
  · rw [laneName_of_not_lt hn, Host.joinStep, if_pos rfl]
    exact ⟨h, rfl, hb, fun hlt => absurd hlt hn, Steady.refl h _ l⟩

end Base

/-! ## The stages of a step -/

/-- Where a stage stands: nothing is under way, it has received, or its experts have
been launched. -/
inductive Phase where
  | idle
  | received
  | ran
  deriving DecidableEq, Repr

/-- What the payload held for a stage says about the device. -/
inductive StageInv (numLanes session : Nat) (d : Device CudaStream Kernel) (dispatches : Nat) (l : Int) :
    Option TransferState → Phase → Prop where
  | idle (payload : Option TransferState) : StageInv numLanes session d dispatches l payload .idle
  | received {state : TransferState} (lane : state.lane = l) (handle : state.handle + 1 = dispatches)
      (notRun : state.expertsDone = none) (ready : state.readyEvent.stream = ⟨session, laneName numLanes l⟩)
      (covered : ∀ x, d.KernelAt x (.dispatch l state.handle) → d.Covers state.readyEvent x)
      (noExperts : ∀ x, ¬ d.KernelAt x (.experts l state.handle))
      (noCombine : ∀ x, ¬ d.KernelAt x (.combine l state.handle)) :
      StageInv numLanes session d dispatches l (some state) .received
  | ran {state : TransferState} (lane : state.lane = l) (handle : state.handle + 1 = dispatches)
      (done : 1 < numLanes → ∃ e, state.expertsDone = some e ∧ e.stream = ⟨session, .caller⟩ ∧
        ∀ x, d.KernelAt x (.experts l state.handle) → d.Covers e x)
      (alone : ¬ 1 < numLanes → state.expertsDone = none ∧
        ∀ x, d.KernelAt x (.experts l state.handle) → d.Reaches x ⟨session, .caller⟩)
      (noCombine : ∀ x, ¬ d.KernelAt x (.combine l state.handle)) :
      StageInv numLanes session d dispatches l (some state) .ran

theorem StageInv.mono {numLanes session : Nat} {d d' : Device CudaStream Kernel} {dispatches : Nat}
    {l : Int} {payload : Option TransferState} {phase : Phase}
    (hi : StageInv numLanes session d dispatches l payload phase) (hext : d.Extends d')
    (hkernels : ∀ x k m, d'.KernelAt x k → k.label = some (l, m) → d.KernelAt x k) :
    StageInv numLanes session d' dispatches l payload phase := by
  cases hi with
  | idle payload => exact .idle payload
  | received lane handle notRun ready covered noExperts noCombine =>
    refine .received lane handle notRun ready ?_ ?_ ?_
    · exact fun x hx => (covered x (hkernels x _ _ hx rfl)).mono hext
    · exact fun x hx => noExperts x (hkernels x _ _ hx rfl)
    · exact fun x hx => noCombine x (hkernels x _ _ hx rfl)
  | ran lane handle done alone noCombine =>
    refine .ran lane handle ?_ ?_ ?_
    · intro hn
      obtain ⟨e, he, hstream, hcovers⟩ := done hn
      exact ⟨e, he, hstream, fun x hx => (hcovers x (hkernels x _ _ hx rfl)).mono hext⟩
    · intro hn
      obtain ⟨hnone, hreaches⟩ := alone hn
      exact ⟨hnone, fun x hx => (hreaches x (hkernels x _ _ hx rfl)).mono hext⟩
    · exact fun x hx => noCombine x (hkernels x _ _ hx rfl)

/-- A step under way: each stage is in a phase, and the lanes that are idle again
have left the event of their last command. -/
structure StepInv (numLanes : Nat) (h₀ h : Host) (phase : Int → Phase) :
    Prop extends Base numLanes h₀ h where
  active : ∀ l, phase l ≠ .idle → 1 < numLanes → l ∈ h.connector.lanesJoined
  finished : ∀ l ∈ h.connector.lanesJoined, phase l = .idle → ∃ e, h.connector.laneDone.get? l = some e ∧
    e.position = (h.device ⟨h₀.session, laneName numLanes l⟩).commands.length
  stages : ∀ l, StageInv numLanes h₀.session h.device (h.dispatches l) l (h.payloads l) (phase l)

/-- What the calls of stage `l` do: nothing to the other stages. -/
structure LaneOnly (numLanes : Nat) (h₀ h h' : Host) (l : Int) : Prop where
  payloads : ∀ l', l' ≠ l → h'.payloads l' = h.payloads l'
  dispatches : ∀ l', l' ≠ l → h'.dispatches l' = h.dispatches l'
  laneDone : ∀ l', l' ≠ l → h'.connector.laneDone.get? l' = h.connector.laneDone.get? l'
  joined : ∀ l' ∈ h'.connector.lanesJoined, l' = l ∨ l' ∈ h.connector.lanesJoined
  joined_mono : ∀ l' ∈ h.connector.lanesJoined, l' ∈ h'.connector.lanesJoined
  kernels : ∀ x k l' m, h'.device.KernelAt x k → k.label = some (l', m) → l' ≠ l → h.device.KernelAt x k
  extend : h.device.Extends h'.device
  other : ∀ t, t ≠ h₀.callerStream → t ≠ ⟨h₀.session, laneName numLanes l⟩ → h'.device t = h.device t

section Stages
variable {numLanes : Nat} {h₀ h h' : Host} {l : Int} {phase : Int → Phase}

theorem LaneOnly.trans {h'' : Host} (h₁ : LaneOnly numLanes h₀ h h' l)
    (h₂ : LaneOnly numLanes h₀ h' h'' l) :
    LaneOnly numLanes h₀ h h'' l where
  payloads l' hl := (h₂.payloads l' hl).trans (h₁.payloads l' hl)
  dispatches l' hl := (h₂.dispatches l' hl).trans (h₁.dispatches l' hl)
  laneDone l' hl := (h₂.laneDone l' hl).trans (h₁.laneDone l' hl)
  joined l' hl := by
    obtain hl | hl := h₂.joined l' hl
    · exact .inl hl
    · exact h₁.joined l' hl
  joined_mono l' hl := h₂.joined_mono l' (h₁.joined_mono l' hl)
  kernels x k l' m hx hk hl := h₁.kernels x k l' m (h₂.kernels x k l' m hx hk hl) hk hl
  extend := h₁.extend.trans h₂.extend
  other t ht ht' := (h₂.other t ht ht').trans (h₁.other t ht ht')

theorem Steady.laneOnly {s : CudaStream} (hs : Steady h h' s l)
    (hstream : s = h₀.callerStream ∨ s = ⟨h₀.session, laneName numLanes l⟩) :
    LaneOnly numLanes h₀ h h' l where
  payloads l' _ := by rw [hs.payloads]
  dispatches l' _ := by rw [hs.dispatches]
  laneDone l' _ := by rw [hs.laneDone]
  joined := hs.joined
  joined_mono := hs.joined_mono
  kernels x k _ _ hx _ _ := (hs.kernels x k).1 hx
  extend := hs.extend
  other t ht ht' := by
    refine hs.other t ?_
    rintro rfl
    exact hstream.elim ht ht'

/-- Launching a kernel of the stage. -/
theorem laneOnly_launch {s : CudaStream} {k : Kernel} {m : Nat} (hk : k.label = some (l, m))
    (hstream : s = h₀.callerStream ∨ s = ⟨h₀.session, laneName numLanes l⟩) (dispatches : Int → Nat)
    (hdispatches : ∀ l', l' ≠ l → dispatches l' = h.dispatches l') :
    LaneOnly numLanes h₀ h { h with
      device := h.device.enqueue s [.kernel k], dispatches := dispatches } l where
  payloads _ _ := rfl
  dispatches := hdispatches
  laneDone _ _ := rfl
  joined _ hl := .inr hl
  joined_mono _ hl := hl
  kernels x k' l' m' hx hk' hl := by
    obtain hx | ⟨-, rfl⟩ := kernelAt_enqueue_kernel.1 hx
    · exact hx
    · rw [hk] at hk'
      cases hk'
      exact absurd rfl hl
  extend := extends_enqueue _ _ _
  other t ht ht' := by
    refine enqueue_other ?_ _
    rintro rfl
    exact hstream.elim ht ht'

theorem laneOnly_setPayload (h₀ h : Host) (l : Int) (payload : Option TransferState) :
    LaneOnly numLanes h₀ h (h.setPayload l payload) l where
  payloads _ hl := Function.update_of_ne hl _ _
  dispatches _ _ := rfl
  laneDone _ _ := rfl
  joined _ hl := .inr hl
  joined_mono _ hl := hl
  kernels _ _ _ _ hx _ _ := hx
  extend := Extends.refl _
  other _ _ _ := rfl

theorem laneOnly_setLaneDone (h₀ h : Host) (l : Int) (e : CudaEvent) :
    LaneOnly numLanes h₀ h (h.setLaneDone (h.connector.laneDone.set l e)) l where
  payloads _ _ := rfl
  dispatches _ _ := rfl
  laneDone _ hl := Dict.get?_set_ne _ hl e
  joined _ hl := .inr hl
  joined_mono _ hl := hl
  kernels _ _ _ _ hx _ _ := hx
  extend := Extends.refl _
  other _ _ _ := rfl

/-- A call of one stage leaves the others where they are. -/
theorem StepInv.advance (hi : StepInv numLanes h₀ h phase) (hb : Base numLanes h₀ h')
    (hframe : LaneOnly numLanes h₀ h h' l) (hl : 0 ≤ l) {p : Phase}
    (hactive : p ≠ .idle → 1 < numLanes → l ∈ h'.connector.lanesJoined)
    (hfinished : p = .idle → ∃ e, h'.connector.laneDone.get? l = some e ∧
      e.position = (h'.device ⟨h₀.session, laneName numLanes l⟩).commands.length)
    (hstage : StageInv numLanes h₀.session h'.device (h'.dispatches l) l (h'.payloads l) p) :
    StepInv numLanes h₀ h' (Function.update phase l p) where
  toBase := hb
  active l' hp hn := by
    by_cases hll : l' = l
    · subst hll
      rw [Function.update_self] at hp
      exact hactive hp hn
    · rw [Function.update_of_ne hll] at hp
      exact hframe.joined_mono l' (hi.active l' hp hn)
  finished l' hl' hp := by
    by_cases hll : l' = l
    · subst hll
      rw [Function.update_self] at hp
      exact hfinished hp
    · rw [Function.update_of_ne hll] at hp
      have hold := (hframe.joined l' hl').resolve_left hll
      obtain ⟨hn, hl0, -⟩ := hi.joined l' hold
      obtain ⟨e, he, hposition⟩ := hi.finished l' hold hp
      -- the stream of another lane is another stream
      have hsame : h'.device ⟨h₀.session, laneName numLanes l'⟩ =
          h.device ⟨h₀.session, laneName numLanes l'⟩ := by
        rw [laneName_of_lt hn]
        apply hframe.other
        · simp [Host.callerStream]
        · rw [laneName_of_lt hn]
          simpa using toNat_ne hl0 hl hll
      exact ⟨e, (hframe.laneDone l' hll).trans he,
        hposition.trans (congrArg (·.commands.length) hsame.symm)⟩
  stages l' := by
    by_cases hll : l' = l
    · subst hll
      rw [Function.update_self]
      exact hstage
    · rw [Function.update_of_ne hll, hframe.dispatches l' hll, hframe.payloads l' hll]
      exact (hi.stages l').mono hframe.extend fun x k m hx hk => hframe.kernels x k l' m hx hk hll

/-! ### Calls -/

@[simp] theorem setPayload_device (h : Host) (l : Int) (payload : Option TransferState) :
    (h.setPayload l payload).device = h.device := rfl

@[simp] theorem setPayload_dispatches (h : Host) (l : Int) (payload : Option TransferState) :
    (h.setPayload l payload).dispatches = h.dispatches := rfl

@[simp] theorem setPayload_payloads (h : Host) (l : Int) (payload : Option TransferState) :
    (h.setPayload l payload).payloads l = payload := Function.update_self ..

theorem Base.setPayload (hb : Base numLanes h₀ h) (stage : Int) (payload : Option TransferState) :
    Base numLanes h₀ (h.setPayload stage payload) := { hb with }

theorem bind_ok {A B : Type} {m : M A} {k : A → M B} {a : A} (h : m = .ok a) : (m >>= k) = k a := by
  rw [h]
  rfl

/-- Work of the caller's own. -/
theorem StepInv.work (hi : StepInv numLanes h₀ h phase) :
    StepInv numLanes h₀ (h.launch .caller .work) phase := by
  have hb : Base numLanes h₀ (h.launch .caller .work) := by
    unfold Host.launch
    rw [hi.place_caller]
    exact hi.enqueue_caller _ (by simp) (hi.sound.launch_other _ rfl)
  refine ⟨hb, hi.active, ?_, ?_⟩
  · intro l hl hp
    obtain ⟨e, he, hposition⟩ := hi.finished l hl hp
    refine ⟨e, he, hposition.trans ?_⟩
    unfold Host.launch
    rw [hi.place_caller, laneName_of_lt (hi.joined l hl).1]
    simp [Host.callerStream]
  · intro l
    refine (hi.stages l).mono (extends_enqueue _ _ _) fun x k m hx hk => ?_
    obtain hx | ⟨-, rfl⟩ := kernelAt_enqueue_kernel.1 hx
    · exact hx
    · cases hk

theorem StepInv.recvAttnOutput (hi : StepInv numLanes h₀ h phase) (hl : 0 ≤ l) (hlt : l < numLanes)
    (hplan : l ∈ h₀.connector.stagePlans) :
    ∃ h', h.recvAttnOutput l = .ok h' ∧ StepInv numLanes h₀ h' (Function.update phase l .received) := by
  obtain ⟨joined, hjoin, hb, hattached, hsteady⟩ := hi.joinStep hl
  have hplace := hb.place_lane hattached
  let stream : CudaStream := ⟨h₀.session, laneName numLanes l⟩
  let m := joined.dispatches l
  let dispatched : Host := { joined with
    device := joined.device.enqueue stream [.kernel (.dispatch l m)]
    dispatches := Function.update joined.dispatches l (m + 1) }
  have hsound : Sound numLanes dispatched.device dispatched.dispatches := by
    apply hb.sound.launch
    · intro l'
      by_cases hll : l' = l
      · simp [dispatched, hll, m]
      · simp [dispatched, hll]
    · intro l' m' hlabel
      cases hlabel
      simp [dispatched, m]
    · intro l' m' hk
      cases hk
    · intro x j hx hp
      obtain ⟨hsession, m', -, rfl⟩ := precedes_dispatch hp
      -- an earlier combine is on the same stream
      have hstream : x.stream = stream := CudaStream.ext hsession (hb.sound.combine_stream x l m' hx)
      obtain ⟨s, i⟩ := x
      subst hstream
      exact reaches_own (List.getElem?_eq_some_iff.1 hx).1
    · intro y j hy hp
      rw [dispatch_precedes hp] at hy
      exact absurd (hb.sound.handle y _ l m hy rfl) (Nat.lt_irrefl m)
  have hdispatched : Base numLanes h₀ dispatched := hb.enqueue_lane hattached _ (by simp) hsound
  have hplace' : dispatched.place (laneName numLanes l) = stream := hdispatched.place_lane hattached
  have hdispatch : joined.dispatch l (laneName numLanes l) = .ok dispatched := by
    rw [Host.dispatch, if_pos (by rw [hb.stagePlans]; exact hplan), Host.launch, hplace]
  let state : TransferState := ⟨m, l, dispatched.record (laneName numLanes l), none⟩
  refine ⟨dispatched.setPayload l (some state), ?_, ?_⟩
  · rw [Host.recvAttnOutput, bind_ok (hi.laneStream hl hlt), bind_ok hjoin, bind_ok hdispatch]
    rfl
  · have hframe : LaneOnly numLanes h₀ joined dispatched l :=
      laneOnly_launch rfl (.inr rfl) _ fun l' hll => Function.update_of_ne hll _ _
    refine hi.advance (hdispatched.setPayload l _) (((hsteady.laneOnly (.inr rfl)).trans hframe).trans
      (laneOnly_setPayload h₀ dispatched l _)) hl (fun _ => hattached) (fun hidle => by cases hidle) ?_
    have hnone : ∀ (x : Node CudaStream) (k : Kernel), k.label = some (l, m) →
        ¬ joined.device.KernelAt x k := by
      intro x k hk hx
      exact absurd (hb.sound.handle x k l m hx hk) (Nat.lt_irrefl m)
    have hready : state.readyEvent = dispatched.device.record stream := by
      rw [← hplace']
      rfl
    rw [setPayload_payloads]
    refine .received rfl ?_ rfl (by rw [hready]; rfl) ?_ ?_ ?_
    · simp [dispatched, state, m]
    · intro x hx
      obtain hx | ⟨rfl, -⟩ := kernelAt_enqueue_kernel.1 hx
      · exact absurd hx (hnone x _ rfl)
      · rw [hready]
        exact reaches_own (by simp [dispatched])
    · intro x hx
      obtain hx | ⟨-, hk⟩ := kernelAt_enqueue_kernel.1 hx
      · exact hnone x _ rfl hx
      · cases hk
    · intro x hx
      obtain hx | ⟨-, hk⟩ := kernelAt_enqueue_kernel.1 hx
      · exact hnone x _ rfl hx
      · cases hk

theorem StepInv.runExperts (hi : StepInv numLanes h₀ h phase) (hl : 0 ≤ l) (hlt : l < numLanes)
    (hphase : phase l = .received) :
    ∃ h', h.runExperts l = .ok h' ∧ StepInv numLanes h₀ h' (Function.update phase l .ran) := by
  have hstage := hi.stages l
  rw [hphase] at hstage
  generalize hpayload : h.payloads l = payload at hstage
  cases hstage with
  | @received state hlane hhandle hnotRun hready hcovered hnoExperts hnoCombine =>
    -- the caller waits for the dispatch, then launches the experts
    let waited : Host := { h with device := h.device.enqueue h₀.callerStream [.waitEvent state.readyEvent] }
    have hwait : h.waitEvent .caller state.readyEvent = .ok waited :=
      hi.waitEvent .caller (congrArg CudaStream.session hready)
    have hsteady := steady_wait h h₀.callerStream state.readyEvent l
    have hb : Base numLanes h₀ waited := hi.enqueue_caller _ (by simp) (hi.sound.wait _ _)
    let ran : Host := { waited with
      device := waited.device.enqueue h₀.callerStream [.kernel (.experts l state.handle)] }
    have hsound : Sound numLanes ran.device ran.dispatches := by
      apply hb.sound.launch
      · exact fun _ => Nat.le_refl _
      · intro l' m hlabel
        cases hlabel
        exact Nat.lt_of_succ_le (Nat.le_of_eq hhandle)
      · intro l' m hk
        cases hk
      · intro x j hx hp
        rw [precedes_experts hp] at hx
        exact (hcovered x ((hsteady.kernels x _).1 hx)).reaches h₀.callerStream
      · intro y j hy hp
        rw [experts_precedes hp] at hy
        exact hnoCombine y ((hsteady.kernels y _).1 hy)
    have hran : Base numLanes h₀ ran := hb.enqueue_caller _ (by simp) hsound
    have hlaunch : waited.launch .caller (.experts state.lane state.handle) = ran := by
      rw [Host.launch, hb.place_caller, hlane]
    have hframe : LaneOnly numLanes h₀ h ran l :=
      (hsteady.laneOnly (.inl rfl)).trans (laneOnly_launch rfl (.inl rfl) waited.dispatches fun _ _ => rfl)
    have hrun : ∀ x, ran.device.KernelAt x (.experts l state.handle) →
        ran.device.Reaches x h₀.callerStream := by
      intro x hx
      obtain hx | ⟨rfl, -⟩ := kernelAt_enqueue_kernel.1 hx
      · exact absurd ((hsteady.kernels x _).1 hx) (hnoExperts x)
      · exact reaches_own (by simp [ran])
    have hcombine : ∀ x, ¬ ran.device.KernelAt x (.combine l state.handle) := by
      intro x hx
      obtain hx | ⟨-, hk⟩ := kernelAt_enqueue_kernel.1 hx
      · exact hnoCombine x ((hsteady.kernels x _).1 hx)
      · cases hk
    have hstart : h.runExperts l = .ok (if ran.connector.laneStreams.isEmpty then ran
        else ran.setPayload l (some { state with expertsDone := some (ran.record .caller) })) := by
      have hlanes : waited.laneStream state.lane = .ok (laneName numLanes l) := by
        rw [hlane]
        exact hb.laneStream hl hlt
      have hstate : h.transferState l = .ok state := by
        rw [Host.transferState, hpayload]
      rw [Host.runExperts, bind_ok hstate, bind_ok hwait, bind_ok hlanes, hlaunch]
      rfl
    by_cases hn : 1 < numLanes
    · refine ⟨ran.setPayload l (some { state with expertsDone := some (ran.record .caller) }), ?_, ?_⟩
      · rw [hstart, hran.laneStreams_eq, initLanes, if_pos hn, if_neg (by simp; omega)]
      · refine hi.advance (hran.setPayload l _) (hframe.trans (laneOnly_setPayload h₀ ran l _)) hl
          (fun _ _ => hi.active l (by simp [hphase]) hn) (fun hidle => by cases hidle) ?_
        rw [setPayload_payloads]
        refine .ran hlane hhandle (fun _ => ⟨_, rfl, ?_, ?_⟩) (fun hnot => absurd hn hnot) hcombine
        · rw [Host.record, hran.place_caller]
          rfl
        · intro x hx
          rw [Host.record, hran.place_caller]
          exact hrun x hx
    · refine ⟨ran, ?_, ?_⟩
      · rw [hstart, hran.laneStreams_eq, initLanes, if_neg hn]
        rfl
      · refine hi.advance hran hframe hl (fun _ hlt' => absurd hlt' hn) (fun hidle => by cases hidle) ?_
        change StageInv numLanes h₀.session ran.device (h.dispatches l) l (h.payloads l) .ran
        rw [hpayload]
        exact .ran hlane hhandle (fun hlt' => absurd hlt' hn) (fun _ => ⟨hnotRun, hrun⟩) hcombine

theorem Base.addJoined (hb : Base numLanes h₀ h) (hl : l ∈ h.connector.lanesJoined) :
    Base numLanes h₀ (h.addJoined l) := by
  have hmem : ∀ l', l' ∈ (h.addJoined l).connector.lanesJoined ↔ l' ∈ h.connector.lanesJoined := by
    intro l'
    refine List.mem_cons.trans ⟨?_, .inr⟩
    rintro (rfl | hl')
    · exact hl
    · exact hl'
  refine { hb with joined := ?_, quiet := ?_ }
  · exact fun l' hl' => hb.joined l' ((hmem l').1 hl')
  · exact fun i hi => hb.quiet i fun l' hl' => hi l' ((hmem l').2 hl')

theorem steady_addJoined (h : Host) (s : CudaStream) (l : Int) : Steady h (h.addJoined l) s l where
  payloads := rfl
  dispatches := rfl
  laneDone := rfl
  joined _ hl' := List.mem_cons.1 hl'
  joined_mono _ hl' := List.mem_cons_of_mem l hl'
  kernels _ _ := Iff.rfl
  extend := Extends.refl _
  other _ _ := rfl

theorem Steady.trans {h'' : Host} {s : CudaStream} (h₁ : Steady h h' s l) (h₂ : Steady h' h'' s l) :
    Steady h h'' s l where
  payloads := h₂.payloads.trans h₁.payloads
  dispatches := h₂.dispatches.trans h₁.dispatches
  laneDone := h₂.laneDone.trans h₁.laneDone
  joined l' hl' := by
    obtain hl' | hl' := h₂.joined l' hl'
    · exact .inl hl'
    · exact h₁.joined l' hl'
  joined_mono l' hl' := h₂.joined_mono l' (h₁.joined_mono l' hl')
  kernels x k := (h₂.kernels x k).trans (h₁.kernels x k)
  extend := h₁.extend.trans h₂.extend
  other t ht := (h₂.other t ht).trans (h₁.other t ht)

/-- The lane waits for its experts. -/
theorem StepInv.joinExperts (hi : StepInv numLanes h₀ h phase) (hphase : phase l = .ran)
    {state : TransferState} (hlane : state.lane = l)
    (hdone : 1 < numLanes → ∃ e, state.expertsDone = some e ∧ e.stream = ⟨h₀.session, .caller⟩ ∧
      ∀ x, h.device.KernelAt x (.experts l state.handle) → h.device.Covers e x)
    (halone : ¬ 1 < numLanes → state.expertsDone = none ∧
      ∀ x, h.device.KernelAt x (.experts l state.handle) → h.device.Reaches x ⟨h₀.session, .caller⟩) :
    ∃ h', h.joinExperts state (laneName numLanes l) = .ok h' ∧ Base numLanes h₀ h' ∧
      (1 < numLanes → l ∈ h'.connector.lanesJoined) ∧ Steady h h' ⟨h₀.session, laneName numLanes l⟩ l ∧
      ∀ x, h'.device.KernelAt x (.experts l state.handle) →
        h'.device.Reaches x ⟨h₀.session, laneName numLanes l⟩ := by
  by_cases hn : 1 < numLanes
  · obtain ⟨e, he, hstream, hcovers⟩ := hdone hn
    have hjoined := hi.active l (by simp [hphase]) hn
    rw [laneName_of_lt hn]
    let waited : Host := { h with device := h.device.enqueue ⟨h₀.session, .lane l.toNat⟩ [.waitEvent e] }
    have hwait : h.waitEvent (.lane l.toNat) e = .ok waited :=
      hi.waitEvent _ (congrArg CudaStream.session hstream)
    have hb : Base numLanes h₀ waited := hi.enqueue (.inr ⟨l, hjoined, rfl⟩) _ (by simp) (hi.sound.wait _ _)
    have hsteady := steady_wait h ⟨h₀.session, .lane l.toNat⟩ e l
    refine ⟨waited.addJoined l, ?_, hb.addJoined hjoined, fun _ => List.mem_cons_self,
      hsteady.trans (steady_addJoined waited _ l), ?_⟩
    · simp only [Host.joinExperts, he]
      rw [if_pos StreamName.noConfusion, hwait, hlane]
      rfl
    · exact fun x hx => (hcovers x ((hsteady.kernels x _).1 hx)).reaches _
  · obtain ⟨hnone, hreaches⟩ := halone hn
    rw [laneName_of_not_lt hn]
    refine ⟨h, ?_, hi.toBase, fun hlt => absurd hlt hn, Steady.refl h _ l, hreaches⟩
    simp only [Host.joinExperts, hnone, Host.forkTo]
    exact if_neg (not_not.2 rfl)

theorem StepInv.sendFfnOutput (hi : StepInv numLanes h₀ h phase) (hl : 0 ≤ l) (hlt : l < numLanes)
    (hphase : phase l = .ran) :
    ∃ h', h.sendFfnOutput l = .ok h' ∧ StepInv numLanes h₀ h' (Function.update phase l .idle) := by
  have hstage := hi.stages l
  rw [hphase] at hstage
  generalize hpayload : h.payloads l = payload at hstage
  cases hstage with
  | @ran state hlane hhandle hdone halone hnoCombine =>
    obtain ⟨joined, hjoin, hb, hattached, hsteady, hreaches⟩ := hi.joinExperts hphase hlane hdone halone
    let stream : CudaStream := ⟨h₀.session, laneName numLanes l⟩
    let combined : Host := { joined with
      device := joined.device.enqueue stream [.kernel (.combine l state.handle)] }
    have hsound : Sound numLanes combined.device combined.dispatches := by
      apply hb.sound.launch
      · exact fun _ => Nat.le_refl _
      · intro l' m hlabel
        cases hlabel
        rw [hsteady.dispatches]
        exact Nat.lt_of_succ_le (Nat.le_of_eq hhandle)
      · intro l' m hk
        cases hk
        rfl
      · intro x j hx hp
        rw [precedes_combine hp] at hx
        exact hreaches x hx
      · intro y j hy hp
        obtain ⟨m, hm, rfl⟩ := combine_precedes hp
        have hbound := hb.sound.handle y _ l m hy rfl
        rw [hsteady.dispatches, ← hhandle] at hbound
        exact absurd hm (Nat.not_lt.2 (Nat.le_of_lt_succ hbound))
    have hcombined : Base numLanes h₀ combined := hb.enqueue_lane hattached _ (by simp) hsound
    have hplace : combined.place (laneName numLanes l) = stream := hcombined.place_lane hattached
    let e := combined.record (laneName numLanes l)
    have he : e = combined.device.record stream := by
      rw [← hplace]
      rfl
    let recorded := combined.setLaneDone (combined.connector.laneDone.set l e)
    have hrecorded : Base numLanes h₀ recorded := by
      refine { hcombined with laneDone := ?_ }
      intro l' e' he'
      change (combined.connector.laneDone.set l e).get? l' = some e' at he'
      rw [Dict.get?_set] at he'
      split at he'
      · rename_i hll
        cases he'
        rw [he, hll]
        rfl
      · exact hcombined.laneDone l' e' he'
    refine ⟨recorded.setPayload l none, ?_, ?_⟩
    · have hstate : h.transferState l = .ok state := by
        rw [Host.transferState, hpayload]
      have hlanes : h.laneStream state.lane = .ok (laneName numLanes l) := by
        rw [hlane]
        exact hi.laneStream hl hlt
      have hlaunch : joined.launch (laneName numLanes l) (.combine state.lane state.handle) = combined := by
        rw [Host.launch, hb.place_lane hattached, hlane]
      rw [Host.sendFfnOutput, bind_ok hstate, bind_ok hlanes, bind_ok hjoin, hlaunch, hlane]
      rfl
    · have hframe : LaneOnly numLanes h₀ joined combined l :=
        laneOnly_launch rfl (.inr rfl) joined.dispatches fun _ _ => rfl
      refine hi.advance (hrecorded.setPayload l none) ((((hsteady.laneOnly (.inr rfl)).trans hframe).trans
        (laneOnly_setLaneDone h₀ combined l e)).trans (laneOnly_setPayload h₀ recorded l none)) hl
        (fun hne => absurd rfl hne) (fun _ => ⟨e, Dict.get?_set_self _ l e, ?_⟩) (.idle _)
      rw [he]
      rfl

end Stages

end AfdPlugin.Deepep.LaneStreams
