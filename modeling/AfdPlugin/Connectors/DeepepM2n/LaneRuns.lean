import AfdPlugin.Connectors.DeepepM2n.LaneOrder
/-!
# Steps of the DeepEP lanes

Between two steps every lane has rejoined the caller's stream. A step takes each of
its stages through any number of rounds, in any interleaving: a receive, the
experts, a send. The routed-experts runner makes steps of this kind.
-/

namespace AfdPlugin.Deepep.LaneStreams

open Streams Device

/-! ## Rounds -/

def Call.stage? : Call → Option Int
  | .work => none
  | .recvAttnOutput stageIdx => some stageIdx
  | .runExperts stageIdx => some stageIdx
  | .sendFfnOutput stageIdx => some stageIdx

def round (stageIdx : Int) : List Call :=
  [.recvAttnOutput stageIdx, .runExperts stageIdx, .sendFfnOutput stageIdx]

/-- The calls of a step: its stages have lanes and plans, and the calls of each
stage are rounds. -/
structure Rounds (numLanes : Nat) (plans : List Int) (calls : List Call) : Prop where
  stages : ∀ c ∈ calls, ∀ l, c.stage? = some l → 0 ≤ l ∧ l < numLanes ∧ l ∈ plans
  rounds : ∀ l, ∃ n, calls.filter (fun c => c.stage? = some l) = (List.replicate n (round l)).flatten

/-- What is left of a round. -/
def Phase.rest (l : Int) : Phase → List Call
  | .idle => []
  | .received => [.runExperts l, .sendFfnOutput l]
  | .ran => [.sendFfnOutput l]

/-- The calls to come finish the rounds that are under way. -/
def Remaining (phase : Int → Phase) (calls : List Call) : Prop :=
  ∀ l, ∃ n, calls.filter (fun c => c.stage? = some l) =
    (phase l).rest l ++ (List.replicate n (round l)).flatten

section Remaining
variable {phase : Int → Phase} {c : Call} {calls : List Call} {l : Int}

theorem Remaining.nil (h : Remaining phase []) : phase = fun _ => .idle := by
  funext l
  obtain ⟨n, hn⟩ := h l
  cases hp : phase l with
  | idle => rfl
  | received =>
    rw [hp] at hn
    cases hn
  | ran =>
    rw [hp] at hn
    cases hn

theorem Remaining.work (h : Remaining phase (.work :: calls)) : Remaining phase calls := by
  intro l
  obtain ⟨n, hn⟩ := h l
  refine ⟨n, ?_⟩
  rw [← hn, List.filter_cons_of_neg (by simp [Call.stage?])]

/-- A call of one stage leaves what the others have to do. -/
theorem Remaining.update (h : Remaining phase (c :: calls)) (hc : c.stage? = some l) {p : Phase} {n : Nat}
    (hl : calls.filter (fun c => c.stage? = some l) = p.rest l ++ (List.replicate n (round l)).flatten) :
    Remaining (Function.update phase l p) calls := by
  intro l'
  by_cases hll : l' = l
  · subst hll
    rw [Function.update_self]
    exact ⟨n, hl⟩
  · obtain ⟨n', hn'⟩ := h l'
    refine ⟨n', ?_⟩
    rw [Function.update_of_ne hll, ← hn', List.filter_cons_of_neg]
    simpa [hc] using fun heq => hll heq.symm

/-- The next call of a stage is the one its phase asks for. -/
theorem Remaining.next (h : Remaining phase (c :: calls)) (hc : c.stage? = some l) :
    (phase l = .idle ∧ c = .recvAttnOutput l ∧ Remaining (Function.update phase l .received) calls) ∨
    (phase l = .received ∧ c = .runExperts l ∧ Remaining (Function.update phase l .ran) calls) ∨
    (phase l = .ran ∧ c = .sendFfnOutput l ∧ Remaining (Function.update phase l .idle) calls) := by
  obtain ⟨n, hn⟩ := h l
  rw [List.filter_cons_of_pos (by simpa using hc)] at hn
  cases hp : phase l with
  | idle =>
    rw [hp] at hn
    cases n with
    | zero => cases hn
    | succ n =>
      obtain ⟨hcall, hrest⟩ := List.cons.inj hn
      exact .inl ⟨rfl, hcall, h.update hc hrest⟩
  | received =>
    rw [hp] at hn
    obtain ⟨hcall, hrest⟩ := List.cons.inj hn
    exact .inr (.inl ⟨rfl, hcall, h.update hc hrest⟩)
  | ran =>
    rw [hp] at hn
    obtain ⟨hcall, hrest⟩ := List.cons.inj hn
    exact .inr (.inr ⟨rfl, hcall, h.update hc hrest⟩)

end Remaining

/-- The calls of a step, by induction on the calls: every one succeeds, and in the
end all stages are idle. -/
theorem StepInv.calls {numLanes : Nat} {h₀ h : Host} {phase : Int → Phase}
    (hi : StepInv numLanes h₀ h phase) (calls : List Call)
    (hstages : ∀ c ∈ calls, ∀ l, c.stage? = some l → 0 ≤ l ∧ l < numLanes ∧ l ∈ h₀.connector.stagePlans)
    (hrest : Remaining phase calls) :
    ∃ h', calls.foldlM Call.run h = .ok h' ∧ StepInv numLanes h₀ h' fun _ => .idle := by
  induction calls generalizing h phase with
  | nil =>
    rw [hrest.nil] at hi
    exact ⟨h, rfl, hi⟩
  | cons c calls ih =>
    have htail := fun c' hc' => hstages c' (List.mem_cons_of_mem c hc')
    have hstep : ∃ h' phase', c.run h = .ok h' ∧ StepInv numLanes h₀ h' phase' ∧
        Remaining phase' calls := by
      cases hc : c.stage? with
      | none =>
        cases c with
        | work => exact ⟨_, phase, rfl, hi.work, hrest.work⟩
        | _ => cases hc
      | some l =>
        obtain ⟨hl, hlt, hplan⟩ := hstages c List.mem_cons_self l hc
        obtain ⟨-, rfl, hrest'⟩ | ⟨hp, rfl, hrest'⟩ | ⟨hp, rfl, hrest'⟩ := hrest.next hc
        · obtain ⟨h', hrun, hi'⟩ := hi.recvAttnOutput hl hlt hplan
          exact ⟨h', _, hrun, hi', hrest'⟩
        · obtain ⟨h', hrun, hi'⟩ := hi.runExperts hl hlt hp
          exact ⟨h', _, hrun, hi', hrest'⟩
        · obtain ⟨h', hrun, hi'⟩ := hi.sendFfnOutput hl hlt hp
          exact ⟨h', _, hrun, hi', hrest'⟩
    obtain ⟨h', phase', hrun, hi', hrest'⟩ := hstep
    rw [List.foldlM_cons, bind_ok hrun]
    exact ih hi' htail hrest'

/-! ## Synchronizing the lanes -/

/-- The caller waits for a list of events. -/
theorem Base.waitAll {numLanes : Nat} {h₀ h : Host} (hb : Base numLanes h₀ h)
    (events : List (Int × CudaEvent)) (hevents : ∀ e ∈ events, e.2.stream.session = h₀.session) :
    ∃ h', events.foldlM (fun h done => h.waitEvent .caller done.2) h = .ok h' ∧ Base numLanes h₀ h' ∧
      h'.connector = h.connector ∧ h.device.Extends h'.device ∧
      (∀ t, t ≠ h₀.callerStream → h'.device t = h.device t) ∧
      ∀ e ∈ events, ∀ x, h.device.Covers e.2 x → h'.device.Reaches x h₀.callerStream := by
  induction events generalizing h with
  | nil => exact ⟨h, rfl, hb, rfl, Extends.refl _, fun _ _ => rfl, fun _ he => absurd he List.not_mem_nil⟩
  | cons e events ih =>
    have hwait := hb.waitEvent .caller (hevents e List.mem_cons_self)
    have hwaited := hb.enqueue_caller [.waitEvent e.2] (by simp) (hb.sound.wait _ _)
    obtain ⟨h', hrun, hb', hconnector, hext, hother, hreaches⟩ :=
      ih hwaited fun e' he' => hevents e' (List.mem_cons_of_mem e he')
    have hfirst := extends_enqueue h.device h₀.callerStream [.waitEvent e.2]
    refine ⟨h', ?_, hb', hconnector, hfirst.trans hext, ?_, ?_⟩
    · rw [List.foldlM_cons, bind_ok hwait]
      exact hrun
    · exact fun t ht => (hother t ht).trans (enqueue_other ht _)
    · intro e' he' x hx
      obtain rfl | he' := List.mem_cons.1 he'
      · exact (hx.reaches h₀.callerStream).mono hext
      · exact hreaches e' he' x (hx.mono hfirst)

/-- All lanes have rejoined the caller's stream. -/
structure Between (numLanes : Nat) (h : Host) : Prop where
  numLanes_eq : h.connector.numLanes = numLanes
  laneStreams_eq : h.connector.laneStreams = (initLanes numLanes).laneStreams
  laneDone : h.connector.laneDone = ∅
  stepFork : h.connector.stepFork = none
  lanesJoined : h.connector.lanesJoined = []
  sound : Sound numLanes h.device h.dispatches
  settled : ∀ x, x.stream.session = h.session → x.index < (h.device x.stream).commands.length →
    h.device.Reaches x h.callerStream

/-- What happens on the streams of the session from `h` to `h'`: each stream goes on
after all that the caller had given its own, a lane begins with a wait for an event
of the caller's stream, and in the end the caller's stream is after everything. -/
structure StepOrdered (h h' : Host) : Prop where
  joins : ∀ x y, x.stream = h.callerStream → x.index < (h.device x.stream).commands.length →
    y.stream.session = h.session → (h.device y.stream).commands.length ≤ y.index →
    y.index < (h'.device y.stream).commands.length → h'.device.Before x y
  forked : ∀ i, (h.device (h.laneAt i)).commands.length < (h'.device (h.laneAt i)).commands.length →
    JoinedSince h h' i
  rejoins : ∀ x, x.stream.session = h.session → x.index < (h'.device x.stream).commands.length →
    h'.device.Reaches x h.callerStream

/-- What a step does elsewhere: nothing. -/
structure SessionOnly (h h' : Host) : Prop where
  session : h'.session = h.session
  captures : h'.captures = h.captures
  extend : h.device.Extends h'.device
  elsewhere : ∀ s, s.session ≠ h.session → h'.device s = h.device s
  replays : ∀ x k, h'.device.KernelAt x (.replay k) → h.device.KernelAt x (.replay k)

section Step
variable {numLanes : Nat} {h₀ h : Host}

theorem Between.begin (hb : Between numLanes h) : StepInv numLanes h h fun _ => .idle where
  numLanes_eq := hb.numLanes_eq
  laneStreams_eq := hb.laneStreams_eq
  stagePlans := rfl
  session := rfl
  captures := rfl
  extend := Extends.refl _
  elsewhere _ _ := rfl
  fork e he := by
    rw [hb.stepFork] at he
    cases he
  capturing hsome := by
    rw [hb.stepFork] at hsome
    cases hsome
  joined l hl := by
    rw [hb.lanesJoined] at hl
    cases hl
  quiet _ _ := rfl
  laneDone l e he := by
    rw [hb.laneDone] at he
    cases he
  sound := hb.sound
  replays _ _ hx := hx
  active _ hp _ := absurd rfl hp
  finished l hl _ := by
    rw [hb.lanesJoined] at hl
    cases hl
  stages l := .idle _

/-- A lane that has joined begins after all that the caller had given its stream. -/
theorem JoinedSince.before {i : Nat} (hjoined : JoinedSince h₀ h i) {x y : Node CudaStream}
    (hx : x.stream = h₀.callerStream) (hlt : x.index < (h₀.device x.stream).commands.length)
    (hy : y.stream = h₀.laneAt i) (hge : (h₀.device y.stream).commands.length ≤ y.index)
    (hyl : y.index < (h.device y.stream).commands.length) : h.device.Before x y := by
  obtain ⟨e, hwait, hstream, hposition⟩ := hjoined
  obtain ⟨s, j⟩ := x
  obtain ⟨t, n⟩ := y
  dsimp only at hx hlt hy hge hyl
  subst hx
  subst hy
  have hcovers : h.device.Covers e ⟨h₀.callerStream, j⟩ := by
    rw [← hstream]
    exact covers_own (Nat.lt_of_lt_of_le hlt hposition)
  have hfirst : h.device.Before ⟨h₀.callerStream, j⟩
      ⟨h₀.laneAt i, (h₀.device (h₀.laneAt i)).commands.length⟩ :=
    hcovers.wait hwait
  obtain heq | hlater := Nat.eq_or_lt_of_le hge
  · rw [← heq]
    exact hfirst
  · exact hfirst.trans (.single (.stream hlater hyl))

theorem StepInv.synchronizeLanes (hi : StepInv numLanes h₀ h fun _ => .idle) (hb : Between numLanes h₀) :
    ∃ h', h.synchronizeLanes = .ok h' ∧ Between numLanes h' ∧ StepOrdered h₀ h' ∧ SessionOnly h₀ h' := by
  have hevents : ∀ e ∈ h.connector.laneDone.entries, e.2.stream.session = h₀.session := by
    rintro ⟨l, e⟩ he
    rw [hi.laneDone l e (Dict.mem_entries_iff.1 he)]
  obtain ⟨joined, hrun, hjoined, hconnector, hext, hother, hreaches⟩ :=
    hi.waitAll h.connector.laneDone.entries hevents
  have hlane : ∀ i, joined.device (h₀.laneAt i) = h.device (h₀.laneAt i) := fun i =>
    hother _ (by simp [Host.laneAt, Host.callerStream])
  have hrejoins : ∀ x : Node CudaStream, x.stream.session = h₀.session →
      x.index < (joined.device x.stream).commands.length → joined.device.Reaches x h₀.callerStream := by
    rintro ⟨⟨session, name⟩, j⟩ hsession hj
    dsimp only at hsession hj
    subst hsession
    cases name with
    | caller => exact reaches_own hj
    | lane i =>
      change j < (joined.device (h₀.laneAt i)).commands.length at hj
      rw [hlane] at hj
      by_cases hlanes : ∃ l ∈ h.connector.lanesJoined, l.toNat = i
      · -- the lane has left the event of its last combine
        obtain ⟨l, hl, rfl⟩ := hlanes
        obtain ⟨hn, -, -⟩ := hi.joined l hl
        obtain ⟨e, he, hposition⟩ := hi.finished l hl rfl
        have hstream : e.stream = h₀.laneAt l.toNat := by
          rw [hi.laneDone l e he, laneName_of_lt hn]
          rfl
        rw [laneName_of_lt hn] at hposition
        refine hreaches (l, e) (Dict.mem_entries_iff.2 he) _ ?_
        have hown := covers_own (d := h.device) (e := e) (i := j) (by rw [hposition]; exact hj)
        rwa [hstream] at hown
      · -- it has been given nothing in this step
        have hquiet := hi.quiet i fun l hl heq => hlanes ⟨l, hl, heq⟩
        rw [hquiet] at hj
        exact (hb.settled ⟨h₀.laneAt i, j⟩ rfl hj).mono (hi.extend.trans hext)
  let h' : Host := (joined.setLaneDone ∅).resetStepFork
  have hsession : h'.session = h₀.session := hjoined.session
  refine ⟨h', ?_, ?_, ?_, ?_⟩
  · rw [Host.synchronizeLanes, bind_ok hrun]
    rfl
  · refine ⟨hjoined.numLanes_eq, hjoined.laneStreams_eq, rfl, rfl, rfl, hjoined.sound, ?_⟩
    intro x hx hlt
    rw [hsession] at hx
    have hcaller : h'.callerStream = h₀.callerStream := by
      rw [Host.callerStream, hsession]
      rfl
    rw [hcaller]
    exact hrejoins x hx hlt
  · have hsince : ∀ i, (h₀.device (h₀.laneAt i)).commands.length <
        (joined.device (h₀.laneAt i)).commands.length →
        JoinedSince h₀ joined i := by
      intro i hlt
      by_cases hlanes : ∃ l ∈ joined.connector.lanesJoined, l.toNat = i
      · obtain ⟨l, hl, rfl⟩ := hlanes
        exact (hjoined.joined l hl).2.2
      · rw [hjoined.quiet i fun l hl heq => hlanes ⟨l, hl, heq⟩] at hlt
        exact absurd hlt (Nat.lt_irrefl _)
    refine ⟨?_, hsince, hrejoins⟩
    rintro x ⟨⟨session, name⟩, j⟩ hx hlt hsession' hge hyl
    dsimp only at hsession' hge hyl
    subst hsession'
    cases name with
    | caller =>
      obtain ⟨s, i⟩ := x
      dsimp only at hx hlt
      subst hx
      exact .single (.stream (Nat.lt_of_lt_of_le hlt hge) hyl)
    | lane i => exact (hsince i (Nat.lt_of_le_of_lt hge hyl)).before hx hlt rfl hge hyl
  · exact ⟨hjoined.session, hjoined.captures, hjoined.extend, hjoined.elsewhere, hjoined.replays⟩

/-- A step succeeds, and orders its lanes. -/
theorem laneStep_spec (hb : Between numLanes h) {plans : List Int} {calls : List Call}
    (hcalls : Rounds numLanes plans calls) :
    ∃ h', laneStep plans calls h = .ok h' ∧ Between numLanes h' ∧ StepOrdered h h' ∧ SessionOnly h h' := by
  let planned : Host := { h with connector := { h.connector with stagePlans := plans } }
  have hplanned : Between numLanes planned := { hb with }
  obtain ⟨called, hrun, hi⟩ := hplanned.begin.calls calls hcalls.stages hcalls.rounds
  obtain ⟨h', hsync, hbetween, hordered, honly⟩ := hi.synchronizeLanes hplanned
  refine ⟨h', ?_, hbetween, { hordered with }, { honly with }⟩
  rw [laneStep, bind_ok hrun]
  exact hsync

end Step

/-! ## Work of the caller between the steps -/

section Work
variable {numLanes : Nat} {h h' : Host}

theorem place_caller (h : Host) : h.place .caller = h.callerStream := if_pos (.inl rfl)

/-- A command on the caller's stream comes after everything. -/
theorem Between.launch (hb : Between numLanes h) {k : Kernel} (hk : k.label = none) :
    Between numLanes (h.launch .caller k) ∧ StepOrdered h (h.launch .caller k) := by
  have hdevice : (h.launch .caller k).device = h.device.enqueue h.callerStream [.kernel k] := by
    rw [Host.launch, place_caller]
  have hext := extends_enqueue h.device h.callerStream [.kernel k]
  have hsettled : ∀ x : Node CudaStream, x.stream.session = h.session →
      x.index < ((h.launch .caller k).device x.stream).commands.length →
      (h.launch .caller k).device.Reaches x h.callerStream := by
    rintro ⟨s, i⟩ hs hi
    rw [hdevice] at hi ⊢
    by_cases hcaller : s = h.callerStream
    · subst hcaller
      exact reaches_own hi
    · dsimp only at hi
      rw [enqueue_other hcaller] at hi
      exact (hb.settled ⟨s, i⟩ hs hi).mono hext
  refine ⟨⟨hb.numLanes_eq, hb.laneStreams_eq, hb.laneDone, hb.stepFork, hb.lanesJoined, ?_, hsettled⟩,
    ?_, ?_, hsettled⟩
  · rw [hdevice]
    exact hb.sound.launch_other _ hk
  · rintro ⟨s, i⟩ ⟨t, j⟩ hx hi - hge hj
    dsimp only at hx hi hge hj
    subst hx
    rw [hdevice] at hj ⊢
    by_cases hcaller : t = h.callerStream
    · subst hcaller
      exact .single (.stream (Nat.lt_of_lt_of_le hi hge) hj)
    · rw [enqueue_other hcaller] at hj
      exact absurd hj (Nat.not_lt.2 hge)
  · intro i hi
    rw [hdevice, enqueue_other (by simp [Host.laneAt, Host.callerStream])] at hi
    exact absurd hi (Nat.lt_irrefl _)

theorem sessionOnly_launch (h : Host) {k : Kernel} (hk : ∀ session, k ≠ .replay session) :
    SessionOnly h (h.launch .caller k) := by
  have hdevice : (h.launch .caller k).device = h.device.enqueue h.callerStream [.kernel k] := by
    rw [Host.launch, place_caller]
  refine ⟨rfl, rfl, ?_, ?_, ?_⟩
  · rw [hdevice]
    exact extends_enqueue _ _ _
  · rintro s hs
    rw [hdevice]
    refine enqueue_other ?_ _
    rintro rfl
    exact hs rfl
  · intro x session hx
    rw [hdevice] at hx
    obtain hx | ⟨-, heq⟩ := kernelAt_enqueue_kernel.1 hx
    · exact hx
    · exact absurd heq.symm (hk session)

theorem SessionOnly.refl (h : Host) : SessionOnly h h :=
  ⟨rfl, rfl, Extends.refl _, fun _ _ => rfl, fun _ _ hx => hx⟩

theorem SessionOnly.trans {h'' : Host} (h₁ : SessionOnly h h') (h₂ : SessionOnly h' h'') :
    SessionOnly h h'' where
  session := h₂.session.trans h₁.session
  captures := h₂.captures.trans h₁.captures
  extend := h₁.extend.trans h₂.extend
  elsewhere s hs := (h₂.elsewhere s (by rwa [h₁.session])).trans (h₁.elsewhere s hs)
  replays x k hx := h₁.replays x k (h₂.replays x k hx)

theorem Between.works (hb : Between numLanes h) (n : Nat) :
    Between numLanes (works n h) ∧ SessionOnly h (works n h) := by
  induction n generalizing h with
  | zero => exact ⟨hb, SessionOnly.refl h⟩
  | succ n ih =>
    obtain ⟨hbetween, honly⟩ := ih (hb.launch (k := .work) rfl).1
    exact ⟨hbetween, (sessionOnly_launch h fun _ => Kernel.noConfusion).trans honly⟩

end Work

/-! ## Runs -/

/-- The process between two items of its run: no capture goes on, later sessions
have no commands, and what is replayed has been captured. -/
structure Clean (numLanes : Nat) (h : Host) : Prop extends Between numLanes h where
  session : h.session = 0
  fresh : ∀ s, h.captures < s.session → (h.device s).commands = []
  replayed : ∀ x k, h.device.KernelAt x (.replay k) → 0 < k ∧ k ≤ h.captures

def Item.Conforms (numLanes : Nat) (h : Host) : Item → Prop
  | .work => True
  | .step plans calls => Rounds numLanes plans calls
  | .capture plans _ calls _ => Rounds numLanes plans calls
  | .replay session => 0 < session ∧ session ≤ h.captures

/-- The states that a process comes to. -/
inductive Reachable (numLanes : Nat) : Host → Prop where
  | start : Reachable numLanes { connector := initLanes numLanes }
  | item {h h' : Host} (item : Item) (hh : Reachable numLanes h) (hitem : item.Conforms numLanes h)
      (hrun : item.run h = .ok h') : Reachable numLanes h'

/-- A command that the device executes: one of its own, or, in the replay with this
index on the caller's stream, one of a captured graph. -/
inductive Executed (h : Host) : Option Nat × Node CudaStream → Prop where
  | eager (x : Node CudaStream) (hx : x.stream.session = 0)
      (hlt : x.index < (h.device x.stream).commands.length) : Executed h (none, x)
  | replayed (i : Nat) (x : Node CudaStream)
      (hreplay : h.device.KernelAt ⟨⟨0, .caller⟩, i⟩ (.replay x.stream.session))
      (hlt : x.index < (h.device x.stream).commands.length) : Executed h (some i, x)

/-- Where the device executes it: a graph runs at its replay. -/
def anchor : Option Nat × Node CudaStream → Node CudaStream
  | (none, x) => x
  | (some i, _) => ⟨⟨0, .caller⟩, i⟩

/-- The order of what is executed: that of the streams, and within a replay that of
its graph. -/
def ExecutedBefore (h : Host) (a b : Option Nat × Node CudaStream) : Prop :=
  h.device.Before (anchor a) (anchor b) ∨ (a.1.isSome ∧ a.1 = b.1 ∧ h.device.Before a.2 b.2)

section Runs
variable {numLanes : Nat} {h h' : Host}

/-- What a process has done before a step comes before what it does in the step. -/
theorem StepOrdered.after (ho : StepOrdered h h') (hb : Between numLanes h)
    (hext : h.device.Extends h'.device) {x y : Node CudaStream} (hx : x.stream.session = h.session)
    (hxl : x.index < (h.device x.stream).commands.length) (hy : y.stream.session = h.session)
    (hge : (h.device y.stream).commands.length ≤ y.index)
    (hyl : y.index < (h'.device y.stream).commands.length) : h'.device.Before x y := by
  obtain ⟨i, hi, rfl | hbefore⟩ := hb.settled x hx hxl
  · exact ho.joins _ y rfl hi hy hge hyl
  · exact (hbefore.mono hext).trans (ho.joins ⟨h.callerStream, i⟩ y rfl hi hy hge hyl)

/-- On a device that has run the caller's stream to the end of a step, all lanes have
completed their part. -/
theorem StepOrdered.completed (ho : StepOrdered h h') {d : Device CudaStream Kernel} (hd : d.Ordered)
    (hext : h'.device.Extends d)
    (hcaller : (h'.device h.callerStream).commands.length ≤ (d h.callerStream).completed)
    {x : Node CudaStream} (hx : x.stream.session = h.session)
    (hlt : x.index < (h'.device x.stream).commands.length) :
    x.index < (d x.stream).completed := by
  obtain ⟨i, hi, rfl | hbefore⟩ := ho.rejoins x hx hlt
  · exact Nat.lt_of_lt_of_le hi hcaller
  · exact (hbefore.mono hext).completed hd (Nat.lt_of_lt_of_le hi hcaller)

/-- How an item changes what came before it: it only adds, it adds nothing to what
was captured, and what it adds to the device's own streams comes after what was
there. -/
structure ItemSpec (numLanes : Nat) (h h' : Host) : Prop where
  clean : Clean numLanes h'
  extend : h.device.Extends h'.device
  captured : ∀ s, 0 < s.session → s.session ≤ h.captures → h'.device s = h.device s
  after : ∀ x y : Node CudaStream, x.stream.session = 0 → x.index < (h.device x.stream).commands.length →
    y.stream.session = 0 → (h.device y.stream).commands.length ≤ y.index →
    y.index < (h'.device y.stream).commands.length → h'.device.Before x y

/-- Items that work on the device's own streams. -/
theorem Clean.ownStep (hc : Clean numLanes h) (hb : Between numLanes h') (ho : StepOrdered h h')
    (hsession : h'.session = h.session) (hcaptures : h'.captures = h.captures)
    (hext : h.device.Extends h'.device)
    (helsewhere : ∀ s, s.session ≠ h.session → h'.device s = h.device s)
    (hreplayed : ∀ x k, h'.device.KernelAt x (.replay k) → 0 < k ∧ k ≤ h.captures) :
    ItemSpec numLanes h h' where
  clean := by
    refine ⟨hb, hsession.trans hc.session, ?_, ?_⟩
    · intro s hs
      rw [hcaptures] at hs
      rw [helsewhere s (by rw [hc.session]; omega)]
      exact hc.fresh s hs
    · intro x k hx
      rw [hcaptures]
      exact hreplayed x k hx
  extend := hext
  captured s hs _ := helsewhere s (by rw [hc.session]; omega)
  after x y hx hxl hy hge hyl :=
    ho.after hc.toBetween hext (hx.trans hc.session.symm) hxl (hy.trans hc.session.symm) hge hyl

/-- A new capture begins with empty streams. -/
theorem Clean.beginCapture (hc : Clean numLanes h) : Between numLanes (beginCapture h) where
  numLanes_eq := hc.numLanes_eq
  laneStreams_eq := hc.laneStreams_eq
  laneDone := hc.laneDone
  stepFork := hc.stepFork
  lanesJoined := hc.lanesJoined
  sound := hc.sound
  settled x hx hlt := by
    have hempty := hc.fresh x.stream (by rw [hx]; exact Nat.lt_succ_self _)
    change x.index < (h.device x.stream).commands.length at hlt
    rw [hempty] at hlt
    exact absurd hlt (Nat.not_lt_zero _)

/-- An item succeeds. -/
theorem Clean.item (hc : Clean numLanes h) (item : Item) (hitem : item.Conforms numLanes h) :
    ∃ h', item.run h = .ok h' ∧ ItemSpec numLanes h h' := by
  cases item with
  | work =>
    obtain ⟨hb, ho⟩ := hc.launch (k := .work) rfl
    have honly := sessionOnly_launch h (k := .work) fun _ => Kernel.noConfusion
    exact ⟨_, rfl, hc.ownStep hb ho rfl rfl honly.extend honly.elsewhere
      fun x k hx => hc.replayed x k (honly.replays x k hx)⟩
  | step plans calls =>
    obtain ⟨h', hrun, hb, ho, honly⟩ := laneStep_spec hc.toBetween hitem
    exact ⟨h', hrun, hc.ownStep hb ho honly.session honly.captures honly.extend honly.elsewhere
      fun x k hx => hc.replayed x k (honly.replays x k hx)⟩
  | capture plans before calls after =>
    obtain ⟨hbegun, hbefore⟩ := hc.beginCapture.works before
    obtain ⟨captured, hrun, hb, -, hstep⟩ := laneStep_spec hbegun hitem
    obtain ⟨hended, hafter⟩ := hb.works after
    have honly := (hbefore.trans hstep).trans hafter
    have hsession : (works after captured).session = h.captures + 1 := honly.session
    have hcaptures : (works after captured).captures = h.captures + 1 := honly.captures
    -- the capture leaves all other sessions alone
    have hother : ∀ s : CudaStream, s.session ≠ h.captures + 1 →
        (works after captured).device s = h.device s :=
      honly.elsewhere
    refine ⟨endCapture (works after captured), ?_, ?_, honly.extend, ?_, ?_⟩
    · rw [Item.run, bind_ok hrun]
      rfl
    · refine ⟨⟨hended.numLanes_eq, hended.laneStreams_eq, hended.laneDone, hended.stepFork,
        hended.lanesJoined, hended.sound, ?_⟩, rfl, ?_, ?_⟩
      · intro x hx hlt
        change x.stream.session = 0 at hx
        change x.index < ((works after captured).device x.stream).commands.length at hlt
        rw [hother x.stream (by omega)] at hlt
        have hsettled := (hc.settled x (hx.trans hc.session.symm) hlt).mono honly.extend
        rw [Host.callerStream, hc.session] at hsettled
        exact hsettled
      · intro s hs
        change (works after captured).captures < s.session at hs
        change ((works after captured).device s).commands = []
        rw [hother s (by omega)]
        exact hc.fresh s (by omega)
      · intro x k hx
        change 0 < k ∧ k ≤ (works after captured).captures
        have hbound := hc.replayed x k (honly.replays x k hx)
        omega
    · exact fun s _ hs => hother s (by omega)
    · intro x y _ _ hy hge hyl
      change y.index < ((works after captured).device y.stream).commands.length at hyl
      rw [hother y.stream (by omega)] at hyl
      omega
  | replay session =>
    obtain ⟨hb, ho⟩ := hc.launch (k := .replay session) rfl
    refine ⟨_, if_pos hitem, hc.ownStep hb ho rfl rfl (extends_enqueue _ _ _) ?_ ?_⟩
    · intro s hs
      refine enqueue_other ?_ _
      rw [place_caller]
      rintro rfl
      exact hs rfl
    · intro x k hx
      obtain hx | ⟨-, hk⟩ := kernelAt_enqueue_kernel.1 hx
      · exact hc.replayed x k hx
      · cases hk
        exact hitem

theorem clean_start (numLanes : Nat) : Clean numLanes { connector := initLanes numLanes } where
  numLanes_eq := rfl
  laneStreams_eq := rfl
  laneDone := rfl
  stepFork := rfl
  lanesJoined := rfl
  sound := by
    constructor
    · intro x k l m hx
      cases hx
    · intro x l m hx
      cases hx
    · intro x y j k hx
      cases hx
  settled x _ hlt := absurd hlt (Nat.not_lt_zero _)
  session := rfl
  fresh _ _ := rfl
  replayed x k hx := by
    cases hx

theorem Reachable.clean (hh : Reachable numLanes h) : Clean numLanes h := by
  induction hh with
  | start => exact clean_start numLanes
  | item item _ hitem hrun ih =>
    obtain ⟨h', hrun', hspec⟩ := ih.item item hitem
    rw [hrun] at hrun'
    cases hrun'
    exact hspec.clean

/-- What an item makes the device execute comes after what it executed before. -/
theorem ItemSpec.executedBefore (hs : ItemSpec numLanes h h') (hc : Clean numLanes h)
    {a b : Option Nat × Node CudaStream} (ha : Executed h a) (hb : Executed h' b) (hnew : ¬ Executed h b) :
    ExecutedBefore h' a b := by
  have hanchor : (anchor a).stream.session = 0 ∧
      (anchor a).index < (h.device (anchor a).stream).commands.length := by
    cases ha with
    | eager x hx hlt => exact ⟨hx, hlt⟩
    | replayed i x hreplay _ => exact ⟨rfl, (List.getElem?_eq_some_iff.1 hreplay).1⟩
  refine .inl ?_
  cases hb with
  | eager x hx hlt =>
    refine hs.after _ x hanchor.1 hanchor.2 hx (Nat.le_of_not_lt fun hold => ?_) hlt
    exact hnew (.eager x hx hold)
  | replayed i x hreplay hlt =>
    refine hs.after _ ⟨⟨0, .caller⟩, i⟩ hanchor.1 hanchor.2 rfl (Nat.le_of_not_lt fun hold => ?_)
      (List.getElem?_eq_some_iff.1 hreplay).1
    -- an old replay is of an old capture, which has not grown
    have hreplay' : h.device.KernelAt ⟨⟨0, .caller⟩, i⟩ (.replay x.stream.session) := by
      have hget := hs.extend.getElem? (List.getElem?_eq_getElem hold)
      have heq := hget.symm.trans hreplay
      rw [Device.KernelAt, ← heq, List.getElem?_eq_getElem hold]
    obtain ⟨hpos, hle⟩ := hc.replayed _ _ hreplay'
    rw [hs.captured x.stream hpos hle] at hlt
    exact hnew (.replayed i x hreplay' hlt)

end Runs

/-! ## The routed-experts runner -/

section Runner
open RoutedFfn
variable {Rows Weights Output : Type}

/-- A call of the runner, on the payload it holds for the stage. -/
def Call.ofEvent : RoutedFfn.Event Rows Weights Output → Call
  | .recvAttnOutput ubatchIdx _ => .recvAttnOutput ubatchIdx
  | .runExperts payload _ _ => .runExperts payload.context.stageIdx
  | .sendFfnOutput _ context => .sendFfnOutput context.stageIdx

theorem stage?_ofEvent (e : RoutedFfn.Event Rows Weights Output) :
    (Call.ofEvent e).stage? = some e.stage := by
  cases e <;> rfl

/-- The calls of `_ffn_forward`. -/
def runnerCalls (arrivals : Nat → Rows) (experts : Weights → Rows → Output) (localExperts : Nat → Weights)
    (layers : List Nat) (d : Dict Int AFDDPMetadata) : List Call :=
  (ffnForward arrivals experts localExperts layers d).calls.map Call.ofEvent

theorem mem_stageIds {d : Dict Int AFDDPMetadata} (hne : d.keys ≠ []) (l : Int) :
    l ∈ stageIds d ↔ l ∈ d.keys := by
  unfold stageIds
  split
  · rename_i hnil
    have hlength := congrArg List.length hnil
    rw [List.length_insertionSort] at hlength
    exact absurd (List.length_eq_zero_iff.1 hlength) hne
  · exact List.mem_insertionSort _

theorem map_exchange (experts : Weights → Rows → Output) (l : Int) (steps : List (Weights × Rows)) :
    (steps.flatMap (exchange experts l)).map Call.ofEvent =
      (List.replicate steps.length (round l)).flatten := by
  induction steps with
  | nil => rfl
  | cons step steps ih =>
    rw [List.flatMap_cons, List.map_append, ih]
    rfl

/-- The runner's steps consist of rounds. -/
theorem rounds_runnerCalls (arrivals : Nat → Rows) (experts : Weights → Rows → Output)
    (localExperts : Nat → Weights) (layers : List Nat) {d : Dict Int AFDDPMetadata} {numLanes : Nat}
    (hne : d.keys ≠ []) (hd : ∀ l ∈ d.keys, 0 ≤ l ∧ l < numLanes) :
    Rounds numLanes d.keys (runnerCalls arrivals experts localExperts layers d) where
  stages c hc l hl := by
    obtain ⟨e, he, rfl⟩ := List.mem_map.1 hc
    rw [stage?_ofEvent] at hl
    cases hl
    obtain ⟨rows, -, hcalls⟩ := ffnForward_calls arrivals experts localExperts layers d e.stage
    have hmem : e.stage ∈ stageIds d := by
      by_contra hnot
      rw [if_neg hnot] at hcalls
      have hin : e ∈ (ffnForward arrivals experts localExperts layers d).calls.filter fun e' =>
          e'.stage = e.stage :=
        List.mem_filter.2 ⟨he, decide_eq_true rfl⟩
      rw [hcalls] at hin
      cases hin
    have hkey := (mem_stageIds hne e.stage).1 hmem
    exact ⟨(hd _ hkey).1, (hd _ hkey).2, hkey⟩
  rounds l := by
    obtain ⟨rows, -, hcalls⟩ := ffnForward_calls arrivals experts localExperts layers d l
    have hfilter : (runnerCalls arrivals experts localExperts layers d).filter
        (fun c => c.stage? = some l) =
          ((ffnForward arrivals experts localExperts layers d).calls.filter fun e => e.stage = l).map
        Call.ofEvent := by
      rw [runnerCalls, List.filter_map]
      congr 2
      funext e
      simp [stage?_ofEvent]
    rw [hfilter, hcalls]
    split
    · exact ⟨_, map_exchange experts l _⟩
    · exact ⟨0, rfl⟩

end Runner

/-! ## The order of the lanes in any run -/

/-- In every state that a process comes to, by any steps, captures and replays:

* each dispatch comes before its experts, these before their combine, and that
  before the next dispatch of the lane in the session;
* whatever comes next succeeds, so no wait crosses the border of a capture, and all
  that the device executes for it comes after all that it has executed before;
* a step, captured or not, gives no stream anything that does not come after the
  caller's earlier work, begins each lane with a wait for the caller's stream, and
  leaves the caller's stream after everything on every lane.

The steps may interleave their stages in any way, as the runner's do in its own. -/
theorem lane_streams_ordered (numLanes : Nat) (h : Host) (hh : Reachable numLanes h) :
    (∀ x y j k, h.device.KernelAt x j → h.device.KernelAt y k →
      Precedes x.stream.session j y.stream.session k →
      h.device.Before x y) ∧
    (∀ item : Item, item.Conforms numLanes h → ∃ h', item.run h = .ok h' ∧
      ∀ a b, Executed h a → Executed h' b → ¬ Executed h b → ExecutedBefore h' a b) ∧
    (∀ plans calls, Rounds numLanes plans calls →
      (∃ h', laneStep plans calls h = .ok h' ∧ StepOrdered h h') ∧
      ∀ before, ∃ h', laneStep plans calls (works before (beginCapture h)) = .ok h' ∧
        StepOrdered (works before (beginCapture h)) h') ∧
    ∀ (Rows Weights Output : Type) (arrivals : Nat → Rows) (experts : Weights → Rows → Output)
      (localExperts : Nat → Weights) (layers : List Nat) (d : Dict Int AFDDPMetadata),
      d.keys ≠ [] → (∀ l ∈ d.keys, 0 ≤ l ∧ l < numLanes) →
        Rounds numLanes d.keys (runnerCalls arrivals experts localExperts layers d) := by
  have hc := hh.clean
  refine ⟨fun x y j k hx hy hp => hc.sound.ordered x y j k hx hy hp, ?_, ?_, ?_⟩
  · intro item hitem
    obtain ⟨h', hrun, hspec⟩ := hc.item item hitem
    exact ⟨h', hrun, fun a b ha hb hnew => hspec.executedBefore hc ha hb hnew⟩
  · intro plans calls hcalls
    refine ⟨?_, fun before => ?_⟩
    · obtain ⟨h', hrun, -, ho, -⟩ := laneStep_spec hc.toBetween hcalls
      exact ⟨h', hrun, ho⟩
    · obtain ⟨h', hrun, -, ho, -⟩ := laneStep_spec (hc.beginCapture.works before).1 hcalls
      exact ⟨h', hrun, ho⟩
  · intro Rows Weights Output arrivals experts localExperts layers d hne hd
    exact rounds_runnerCalls arrivals experts localExperts layers hne hd

/-- The metadata of two stages. -/
def twoStageMetadata : Dict Int AFDDPMetadata := (Dict.empty.set 0 ⟨[5], 5⟩).set 1 ⟨[6], 6⟩

/-- The runner's calls for two stages of one layer. -/
def twoStageCalls : List Call := runnerCalls id Nat.add id [3] twoStageMetadata

def twoStageStart : Host := { connector := initLanes 2 }

def twoStageEnd : Host :=
  match Item.run twoStageStart (.step twoStageMetadata.keys twoStageCalls) with
  | .ok h => h
  | .error _ => twoStageStart

theorem twoStageCalls_rounds : Rounds 2 twoStageMetadata.keys twoStageCalls := by
  apply rounds_runnerCalls
  · exact List.cons_ne_nil _ _
  · have hkeys : twoStageMetadata.keys = [0, 1] := rfl
    intro l hl
    rw [hkeys] at hl
    obtain rfl | rfl : l = 0 ∨ l = 1 := by simpa using hl
    · omega
    · omega

theorem twoStage_ordered : twoStageEnd.device.Before ⟨⟨0, .lane 1⟩, 1⟩ ⟨⟨0, .caller⟩, 3⟩ :=
  (lane_streams_ordered 2 twoStageEnd (.item (.step _ twoStageCalls) .start twoStageCalls_rounds rfl)).1
    _ _ (.dispatch 1 0) (.experts 1 0) rfl rfl (.dispatch_experts ..)

end AfdPlugin.Deepep.LaneStreams
