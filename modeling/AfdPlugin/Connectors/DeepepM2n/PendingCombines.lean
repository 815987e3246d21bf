import AfdPlugin.Connectors.DeepepM2n.LaneStreams
import AfdPlugin.Connectors.DeepepM2n.Plan
import AfdPlugin.Lib.Scopes
/-!
# Dispatches that wait for their combine

An Attention rank dispatches the tokens of a stage on the stage's lane and later
combines what comes back. The combine takes the handle of the dispatch, which
the connector keeps by stage in between. Either call can raise at any of its
steps.
-/

namespace AfdPlugin.Deepep.PendingCombines

open LaneStreams (StreamName)

/-! ## The connector -/

inductive Exc where
  | runtimeError (message : String)
  | keyError (key : Int)
  | assertionError
  /-- What the device or the transport raises. -/
  | external (message : String)
  deriving DecidableEq, Repr

/-- `DispatchHandle`: a dispatch that the transport has taken, and the rows it
received. -/
structure DispatchHandle where
  serial : Nat
  recvShape : Nat × Nat
  deriving DecidableEq, Repr

/-- A call on a lane. A dispatch that raises has no handle. -/
inductive LaneCall where
  | dispatch (lane : Nat) (plan : StagePlan) (handle : Option DispatchHandle)
  | combine (lane : Nat) (rows : Nat) (handle : DispatchHandle)
  deriving DecidableEq, Repr

/-- The Attention side of `DeepEPM2NAFDConnector`, and its calls on lanes. -/
structure Connector where
  initialized : Bool
  isFp8Payload : Bool
  numLanes : Nat
  laneStreams : List StreamName
  stagePlans : Dict Int StagePlan
  /-- The shape of the buffer of zero rows. -/
  combineZeros : Option (Nat × Nat)
  pendingCombines : Dict Int DispatchHandle := ∅
  /-- How many dispatches the transport has taken. -/
  issued : Nat := 0
  laneCalls : List LaneCall := []

abbrev M := Eff Connector Exc

/-- `if …: raise …`. -/
def raiseIf (fails : Connector → Bool) (exc : Connector → Exc) : M Unit := fun c =>
  if fails c then (.error (exc c), c) else (.ok (), c)

def checkInitialized : M Unit :=
  raiseIf (fun c => !c.initialized) fun _ => .runtimeError "DeepEPM2NAFDConnector is not initialized"

/-- `_lanes`. -/
def lanes (stageIdx : Int) : M Nat := do
  raiseIf (fun c => !decide (0 ≤ stageIdx ∧ stageIdx < c.numLanes)) fun c =>
    .runtimeError s!"stage {stageIdx} has no lane ({c.numLanes})"
  pure stageIdx.toNat

/-- `_lane_stream`. -/
def laneStream (stageIdx : Int) : M StreamName := do
  let lane ← lanes stageIdx
  Eff.read fun c => if c.laneStreams.isEmpty then .caller else c.laneStreams.getD lane .caller

/-! ## Dispatch -/

/-- What the device and the transport do in a dispatch. -/
structure DispatchEnv where
  waitStream : Except Exc Unit := .ok ()
  quantize : Except Exc Unit := .ok ()
  /-- The shape a lane's dispatch receives. -/
  dispatch : Nat → StagePlan → Except Exc (Nat × Nat)
  keepAlive : Except Exc Unit := .ok ()

/-- `_fork_to`. -/
def forkTo (env : DispatchEnv) (laneStream : StreamName) : M Unit :=
  if laneStream ≠ .caller then Eff.ofExcept env.waitStream else pure ()

/-- `per_token_group_quant_fp8`, for an FP8 payload. -/
def quantize (env : DispatchEnv) : M Unit := fun c => (if c.isFp8Payload then env.quantize else .ok (), c)

def stagePlan (stageIdx : Int) : M StagePlan := fun c =>
  match c.stagePlans.get? stageIdx with
  | none => (.error (.runtimeError (s!"no plan for stage {stageIdx}; call " ++
      "control_plane.update_state_from_dp_metadata first")), c)
  | some plan => (.ok plan, c)

/-- `ElasticBuffer.dispatch`. -/
def laneDispatch (lane : Nat) (plan : StagePlan) (outcome : Except Exc (Nat × Nat)) :
    M DispatchHandle := fun c =>
  match outcome with
  | .error e => (.error e, { c with laneCalls := c.laneCalls ++ [.dispatch lane plan none] })
  | .ok recvShape =>
    (.ok ⟨c.issued, recvShape⟩, { c with
      issued := c.issued + 1, laneCalls :=
        c.laneCalls ++ [.dispatch lane plan (some ⟨c.issued, recvShape⟩)] })

/-- `_dispatch`. -/
def dispatch (env : DispatchEnv) (stageIdx : Int) : M DispatchHandle := do
  let plan ← stagePlan stageIdx
  let lane ← lanes stageIdx
  laneDispatch lane plan (env.dispatch lane plan)

def dispatchAttention (env : DispatchEnv) (stageIdx : Int) : M Unit := do
  checkInitialized
  raiseIf (fun c => c.pendingCombines.contains stageIdx) fun _ =>
    .runtimeError s!"stage {stageIdx} dispatched twice without combine"
  let laneStream ← laneStream stageIdx
  forkTo env laneStream
  quantize env
  let handle ← dispatch env stageIdx
  Eff.ofExcept env.keepAlive
  Eff.modify fun c => { c with pendingCombines := c.pendingCombines.set stageIdx handle }

/-! ## Combine -/

/-- What the device and the transport do in a combine, and the shape of `out`. -/
structure CombineEnv where
  /-- The shape that a lane's combine returns. -/
  combine : Nat → DispatchHandle → Except Exc (List Nat)
  outShape : List Nat
  waitStream : Except Exc Unit := .ok ()
  keepAlive : Except Exc Unit := .ok ()
  copy : Except Exc Unit := .ok ()

/-- `self._pending_combines.pop(stage_idx)`. -/
def popPending (stageIdx : Int) : M DispatchHandle := fun c =>
  match c.pendingCombines.get? stageIdx with
  | none => (.error (.keyError stageIdx), c)
  | some handle => (.ok handle, { c with pendingCombines := c.pendingCombines.erase stageIdx })

/-- `_combine_zero_rows`: how many rows. -/
def combineZeroRows (shape : Nat × Nat) : M Nat := do
  raiseIf (fun c => c.combineZeros.isNone) fun _ => .assertionError
  raiseIf (fun c => c.combineZeros.any fun zeros => zeros.1 < shape.1 ∨ shape.2 ≠ zeros.2) fun c =>
    .runtimeError (s!"combine needs zero rows of shape {shape} but the buffer holds " ++
      s!"{c.combineZeros.getD (0, 0)}: afdEP-comm gave an Attention rank receive " ++
      "rows, which its AFD transport never does")
  pure shape.1

/-- `ElasticBuffer.combine`. -/
def laneCombine (lane rows : Nat) (handle : DispatchHandle) (outcome : Except Exc (List Nat)) :
    M (List Nat) := fun c =>
  (outcome, { c with laneCalls := c.laneCalls ++ [.combine lane rows handle] })

/-- The caller's stream waits for the lane, unless it is the lane's. -/
def joinCaller (env : CombineEnv) (laneStream : StreamName) : M Unit :=
  if laneStream ≠ .caller then do
    Eff.ofExcept env.waitStream
    Eff.ofExcept env.keepAlive
  else pure ()

def combineAttention (env : CombineEnv) (stageIdx : Int) : M Unit := do
  checkInitialized
  let handle ← popPending stageIdx
  let laneStream ← laneStream stageIdx
  let lane ← lanes stageIdx
  -- Attention ranks hold no experts, so they contribute zero rows
  let rows ← combineZeroRows handle.recvShape
  let combined ← laneCombine lane rows handle (env.combine lane handle)
  raiseIf (fun _ => combined != env.outShape) fun _ =>
    .runtimeError s!"combined shape {combined} != out {env.outShape}"
  joinCaller env laneStream
  Eff.ofExcept env.copy

/-! ## Runs -/

/-- A call on the connector. Between the dispatches and combines the control plane
derives new plans. -/
inductive Call where
  | dispatchAttention (env : DispatchEnv) (stageIdx : Int)
  | combineAttention (env : CombineEnv) (stageIdx : Int)
  | updatePlans (plans : Dict Int StagePlan)

def Call.run : Call → M Unit
  | .dispatchAttention env stageIdx => PendingCombines.dispatchAttention env stageIdx
  | .combineAttention env stageIdx => PendingCombines.combineAttention env stageIdx
  | .updatePlans plans => Eff.modify fun c => { c with stagePlans := plans }

/-- A finished call: its result, and its calls on lanes. -/
structure Entry where
  call : Call
  result : Except Exc Unit
  laneCalls : List LaneCall

def Connector.step (c : Connector) (call : Call) : Connector × Entry :=
  let r := call.run { c with laneCalls := [] }
  (r.2, ⟨call, r.1, r.2.laneCalls⟩)

/-- The calls of a run, in order. -/
def Connector.runFrom (c : Connector) (history : List Entry) : List Call → Connector × List Entry
  | [] => (c, history)
  | call :: calls => (c.step call).1.runFrom (history ++ [(c.step call).2]) calls

def Connector.run (c : Connector) (calls : List Call) : Connector × List Entry := c.runFrom [] calls

/-! ## How a call ends -/

section Ends
variable {c : Connector}

theorem triple_raiseIf {fails : Connector → Bool} {exc : Connector → Exc}
    {post : Unit → Connector → Prop} {raises : Exc → Connector → Prop}
    (hok : fails c = false → post () c) (hraise : fails c = true → raises (exc c) c) :
    Eff.Triple c (raiseIf fails exc) post raises := by
  cases hc : fails c with
  | false => exact Eff.triple_of_eq (by simp [raiseIf, hc]) (hok hc)
  | true => exact Eff.triple_of_raise (by simp [raiseIf, hc]) (hraise hc)

theorem triple_lanes {stageIdx : Int} {post : Nat → Connector → Prop} {raises : Exc → Connector → Prop}
    (hok : ∀ lane : Nat, (lane : Int) = stageIdx → post lane c)
    (hraise : ¬ (0 ≤ stageIdx ∧ stageIdx < c.numLanes) → ∀ e, raises e c) :
    Eff.Triple c (lanes stageIdx) post raises := by
  refine Eff.triple_bind (triple_raiseIf (fun h => Eff.triple_pure (hok _ ?_)) fun h =>
    hraise (fun hstage => ?_) _)
  rotate_left
  · simp [hstage] at h
  have hstage : 0 ≤ stageIdx ∧ stageIdx < c.numLanes := by simpa using h
  exact Int.toNat_of_nonneg hstage.1

theorem triple_laneStream {stageIdx : Int} {post : StreamName → Connector → Prop}
    {raises : Exc → Connector → Prop} (hok : ∀ s, post s c)
    (hraise : ¬ (0 ≤ stageIdx ∧ stageIdx < c.numLanes) → ∀ e, raises e c) :
    Eff.Triple c (laneStream stageIdx) post raises :=
  Eff.triple_bind (triple_lanes (fun _ _ => Eff.triple_read (hok _)) hraise)

theorem triple_forkTo {env : DispatchEnv} {s : StreamName} {post : Unit → Connector → Prop}
    {raises : Exc → Connector → Prop} (hok : post () c) (hraise : ∀ e, raises e c) :
    Eff.Triple c (forkTo env s) post raises := by
  unfold forkTo
  split
  · exact Eff.triple_ofExcept (fun _ => hok) hraise
  · exact Eff.triple_pure hok

theorem triple_quantize {env : DispatchEnv} {post : Unit → Connector → Prop}
    {raises : Exc → Connector → Prop} (hok : post () c) (hraise : ∀ e, raises e c) :
    Eff.Triple c (quantize env) post raises :=
  Eff.triple_ofExcept (fun _ => hok) hraise

theorem triple_stagePlan {stageIdx : Int} {post : StagePlan → Connector → Prop}
    {raises : Exc → Connector → Prop} (hok : ∀ plan, post plan c) (hraise : ∀ e, raises e c) :
    Eff.Triple c (stagePlan stageIdx) post raises := by
  cases h : c.stagePlans.get? stageIdx with
  | none => exact Eff.triple_of_raise (by simp [stagePlan, h]; rfl) (hraise _)
  | some plan => exact Eff.triple_of_eq (by simp [stagePlan, h]) (hok plan)

/-- How a dispatch ends: with an exception, before the transport takes it, in the
transport or after it; or with the handle recorded. -/
inductive DispatchEnd (c : Connector) (stageIdx : Int) : Except Exc Unit → Connector → Prop where
  | early (e : Exc) : DispatchEnd c stageIdx (.error e) c
  | refused (e : Exc) (lane : Nat) (plan : StagePlan) :
      DispatchEnd c stageIdx (.error e) { c with laneCalls := c.laneCalls ++ [.dispatch lane plan none] }
  | lost (e : Exc) (lane : Nat) (plan : StagePlan) (handle : DispatchHandle)
      (hserial : handle.serial = c.issued) : DispatchEnd c stageIdx (.error e) { c with
        issued := c.issued + 1, laneCalls := c.laneCalls ++ [.dispatch lane plan (some handle)] }
  | recorded (lane : Nat) (plan : StagePlan) (handle : DispatchHandle)
      (hserial : handle.serial = c.issued) (hlane : (lane : Int) = stageIdx)
      (hfree : c.pendingCombines.get? stageIdx = none) (hinit : c.initialized = true) :
      DispatchEnd c stageIdx (.ok ()) { c with
        issued := c.issued + 1, laneCalls := c.laneCalls ++ [.dispatch lane plan (some handle)],
        pendingCombines := c.pendingCombines.set stageIdx handle }

/-- A dispatch that raises leaves the pending handles as they were, and a second one
for a stage raises. -/
theorem DispatchEnd.keeps {stageIdx : Int} {r : Except Exc Unit} {c' : Connector}
    (h : DispatchEnd c stageIdx r c') :
    (r ≠ .ok () → c'.pendingCombines = c.pendingCombines) ∧
      (c.pendingCombines.get? stageIdx ≠ none → r ≠ .ok ()) := by
  cases h with
  | early e => exact ⟨fun _ => rfl, fun _ h => nomatch h⟩
  | refused e lane plan => exact ⟨fun _ => rfl, fun _ h => nomatch h⟩
  | lost e lane plan handle hserial => exact ⟨fun _ => rfl, fun _ h => nomatch h⟩
  | recorded lane plan handle hserial hlane hfree hinit =>
    exact ⟨fun h => absurd rfl h, fun h => absurd hfree h⟩

/-- A dispatch that returns has its handle from the stage's lane. -/
theorem DispatchEnd.returned {stageIdx : Int} {r : Except Exc Unit} {c' : Connector}
    (h : DispatchEnd c stageIdx r c') (hok : r = .ok ()) :
    ∃ (lane : Nat) (plan : StagePlan) (handle : DispatchHandle),
      (lane : Int) = stageIdx ∧ .dispatch lane plan (some handle) ∈ c'.laneCalls := by
  cases h with
  | early | refused | lost => cases hok
  | recorded lane plan handle hserial hlane hfree hinit =>
    exact ⟨lane, plan, handle, hlane, List.mem_append_right _ (List.mem_singleton_self _)⟩

/-- The stage has a lane, and the buffer has the zero rows that its combine passes. -/
structure Connector.CanPass (c : Connector) (stageIdx : Int) (handle : DispatchHandle) : Prop where
  lane : 0 ≤ stageIdx ∧ stageIdx < c.numLanes
  zeros : ∃ zeros, c.combineZeros = some zeros ∧ handle.recvShape.1 ≤ zeros.1 ∧ handle.recvShape.2 = zeros.2

/-- How a combine ends: it has no handle to take, or it takes the stage's handle
and passes it to the stage's lane if it can. -/
inductive CombineEnd (c : Connector) (stageIdx : Int) : Except Exc Unit → Connector → Prop where
  | uninitialized (e : Exc) (h : c.initialized = false) : CombineEnd c stageIdx (.error e) c
  | nothing (e : Exc) (h : c.pendingCombines.get? stageIdx = none) : CombineEnd c stageIdx (.error e) c
  | early (e : Exc) (handle : DispatchHandle) (h : c.pendingCombines.get? stageIdx = some handle)
      (hcannot : ¬ c.CanPass stageIdx handle) :
      CombineEnd c stageIdx (.error e) { c with pendingCombines := c.pendingCombines.erase stageIdx }
  | passed (r : Except Exc Unit) (lane : Nat) (handle : DispatchHandle) (hlane : (lane : Int) = stageIdx)
      (h : c.pendingCombines.get? stageIdx = some handle) :
      CombineEnd c stageIdx r { c with
        pendingCombines := c.pendingCombines.erase stageIdx
        laneCalls := c.laneCalls ++ [.combine lane handle.recvShape.1 handle] }

/-- A combine of a stage with a handle passes it on when it can, and one that returns
has passed it on. -/
theorem CombineEnd.passes {stageIdx : Int} {r : Except Exc Unit} {c' : Connector}
    (h : CombineEnd c stageIdx r c') :
    (∀ handle, c.initialized = true → c.pendingCombines.get? stageIdx = some handle →
      c.CanPass stageIdx handle →
      ∃ lane : Nat, (lane : Int) = stageIdx ∧
        c'.laneCalls = c.laneCalls ++ [.combine lane handle.recvShape.1 handle]) ∧
    (r = .ok () → ∃ (lane : Nat) (handle : DispatchHandle), (lane : Int) = stageIdx ∧
      c.pendingCombines.get? stageIdx = some handle ∧
        c'.laneCalls = c.laneCalls ++ [.combine lane handle.recvShape.1 handle]) := by
  cases h with
  | uninitialized e hno =>
    exact ⟨fun _ hinit => absurd (hno.symm.trans hinit) Bool.false_ne_true, fun hok => (by cases hok)⟩
  | nothing e hnone => exact ⟨fun _ _ hsome => (by cases hnone.symm.trans hsome), fun hok => (by cases hok)⟩
  | early e handle hpending hcannot =>
    refine ⟨fun handle' _ hpending' hcan => ?_, fun hok => (by cases hok)⟩
    cases hpending.symm.trans hpending'
    exact absurd hcan hcannot
  | passed r lane handle hlane hpending =>
    refine ⟨fun handle' _ hpending' _ => ?_, fun _ => ⟨lane, handle, hlane, hpending, rfl⟩⟩
    cases hpending.symm.trans hpending'
    exact ⟨lane, hlane, rfl⟩

/-- A run that meets both postconditions of a relation meets the relation. -/
theorem end_of_triple {m : M Unit} {P : Except Exc Unit → Connector → Prop}
    (h : Eff.Triple c m (fun _ c' => P (.ok ()) c') fun e c' => P (.error e) c') : P (m c).1 (m c).2 := by
  cases hm : m c with
  | mk r c' =>
    cases r with
    | ok u => exact h.1 u c' hm
    | error e => exact h.2 e c' hm

theorem triple_laneDispatch {lane : Nat} {plan : StagePlan} {outcome : Except Exc (Nat × Nat)}
    {post : DispatchHandle → Connector → Prop} {raises : Exc → Connector → Prop}
    (hok : ∀ handle : DispatchHandle, handle.serial = c.issued → post handle { c with
      issued := c.issued + 1, laneCalls := c.laneCalls ++ [.dispatch lane plan (some handle)] })
    (hraise : ∀ e, raises e { c with laneCalls := c.laneCalls ++ [.dispatch lane plan none] }) :
    Eff.Triple c (laneDispatch lane plan outcome) post raises := by
  cases outcome with
  | ok recvShape => exact Eff.triple_of_eq rfl (hok _ rfl)
  | error e => exact Eff.triple_of_raise rfl (hraise e)

theorem triple_laneCombine {lane rows : Nat} {handle : DispatchHandle} {outcome : Except Exc (List Nat)}
    {post : List Nat → Connector → Prop} {raises : Exc → Connector → Prop}
    (hok : ∀ combined, post combined { c with laneCalls := c.laneCalls ++ [.combine lane rows handle] })
    (hraise : ∀ e, raises e { c with laneCalls := c.laneCalls ++ [.combine lane rows handle] }) :
    Eff.Triple c (laneCombine lane rows handle outcome) post raises := by
  cases outcome with
  | ok combined => exact Eff.triple_of_eq rfl (hok combined)
  | error e => exact Eff.triple_of_raise rfl (hraise e)

theorem triple_joinCaller {env : CombineEnv} {s : StreamName} {post : Unit → Connector → Prop}
    {raises : Exc → Connector → Prop} (hok : post () c) (hraise : ∀ e, raises e c) :
    Eff.Triple c (joinCaller env s) post raises := by
  unfold joinCaller
  split
  · refine Eff.triple_bind (Eff.triple_ofExcept (fun _ => ?_) hraise)
    exact Eff.triple_ofExcept (fun _ => hok) hraise
  · exact Eff.triple_pure hok

theorem dispatchAttention_end (env : DispatchEnv) (stageIdx : Int) :
    DispatchEnd c stageIdx (dispatchAttention env stageIdx c).1 (dispatchAttention env stageIdx c).2 := by
  apply end_of_triple
  refine Eff.triple_bind (triple_raiseIf (fun hinit => ?_) fun _ => .early _)
  refine Eff.triple_bind (triple_raiseIf (fun hfree => ?_) fun _ => .early _)
  have hfree : c.pendingCombines.get? stageIdx = none := by
    rw [Dict.get?_eq_none_iff]
    simpa [Dict.contains] using hfree
  refine Eff.triple_bind (triple_laneStream (fun laneStream => ?_) fun _ e => .early e)
  refine Eff.triple_bind (triple_forkTo ?_ fun e => .early e)
  refine Eff.triple_bind (triple_quantize ?_ fun e => .early e)
  refine Eff.triple_bind (Eff.triple_bind (triple_stagePlan (fun plan => ?_) fun e => .early e))
  refine Eff.triple_bind (triple_lanes (fun lane hlane => ?_) fun _ e => .early e)
  refine triple_laneDispatch (fun handle hserial => ?_) fun e => .refused e lane plan
  refine Eff.triple_bind (Eff.triple_ofExcept (fun _ => ?_) fun e => .lost e lane plan handle hserial)
  exact Eff.triple_modify (.recorded lane plan handle hserial hlane hfree (by simpa using hinit))

theorem combineAttention_end (env : CombineEnv) (stageIdx : Int) :
    CombineEnd c stageIdx (combineAttention env stageIdx c).1 (combineAttention env stageIdx c).2 := by
  apply end_of_triple
  refine Eff.triple_bind (triple_raiseIf (fun _ => ?_) fun hinit => .uninitialized _ (by simpa using hinit))
  cases hpending : c.pendingCombines.get? stageIdx with
  | none =>
    refine Eff.triple_bind
      (Eff.triple_of_raise (?_ : popPending stageIdx c = (.error (.keyError stageIdx), c)) ?_)
    · simp [popPending, hpending]
    · exact .nothing _ hpending
  | some handle =>
    refine Eff.triple_bind
      (Eff.triple_of_eq
        (?_ : popPending stageIdx c =
          (.ok handle, { c with pendingCombines := c.pendingCombines.erase stageIdx })) ?_)
    · simp [popPending, hpending]
    -- from here on the stage has no handle, whatever raises
    have hearly (e : Exc) (hcannot : ¬ c.CanPass stageIdx handle) :
        CombineEnd c stageIdx (.error e) { c with
        pendingCombines := c.pendingCombines.erase stageIdx } := .early e handle hpending hcannot
    refine Eff.triple_bind (triple_laneStream (fun laneStream => ?_) fun hno e => hearly e fun hcan =>
      hno hcan.lane)
    refine Eff.triple_bind (triple_lanes (fun lane hlane => ?_) fun hno e => hearly e fun hcan =>
      hno hcan.lane)
    refine Eff.triple_bind
      (Eff.triple_bind (triple_raiseIf (fun _ => ?_) fun hnone => hearly _ fun hcan => ?_))
    rotate_left
    · obtain ⟨zeros, hzeros, -⟩ := hcan.zeros
      simp [hzeros] at hnone
    refine Eff.triple_bind (triple_raiseIf (fun _ => Eff.triple_pure ?_) fun hsmall =>
      hearly _ fun hcan => ?_)
    rotate_left
    · obtain ⟨zeros, hzeros, hrows, hwidth⟩ := hcan.zeros
      simp only [hzeros, Option.any_some, decide_eq_true_eq] at hsmall
      rcases hsmall with hlt | hne
      · omega
      · exact hne hwidth
    have hpassed (r : Except Exc Unit) : CombineEnd c stageIdx r { c with
        pendingCombines := c.pendingCombines.erase stageIdx,
        laneCalls := c.laneCalls ++ [.combine lane handle.recvShape.1 handle] } :=
          .passed r lane handle hlane hpending
    refine Eff.triple_bind (triple_laneCombine (fun combined => ?_) fun e => hpassed _)
    refine Eff.triple_bind (triple_raiseIf (fun _ => ?_) fun _ => hpassed _)
    refine Eff.triple_bind (triple_joinCaller ?_ fun e => hpassed _)
    exact Eff.triple_ofExcept (fun _ => hpassed _) fun e => hpassed _

end Ends

/-! ## Histories -/

/-- A dispatch of the stage that returned; the lane gave it the handle. -/
def Entry.Dispatched (e : Entry) (stageIdx : Int) (handle : DispatchHandle) : Prop :=
  (∃ env, e.call = .dispatchAttention env stageIdx) ∧ e.result = .ok () ∧
    ∃ (lane : Nat) (plan : StagePlan), (lane : Int) = stageIdx ∧
      .dispatch lane plan (some handle) ∈ e.laneCalls

/-- A combine of the stage, however it ended. -/
def Entry.Attempts (e : Entry) (stageIdx : Int) : Prop := ∃ env, e.call = .combineAttention env stageIdx

/-- The last dispatch of the stage that returned has `handle`, and no combine of the
stage came after it. -/
def Waiting (history : List Entry) (stageIdx : Int) (handle : DispatchHandle) : Prop :=
  ∃ before e after, history = before ++ e :: after ∧ e.Dispatched stageIdx handle ∧
    ∀ later ∈ after, ¬ later.Attempts stageIdx ∧ ∀ other, ¬ later.Dispatched stageIdx other

/-- After `before`, a combine call on a lane is of the stage's own lane, with the
handle of the stage's last dispatch, which no other stage has and which was not
combined before. -/
def PairedWith (before : List Entry) (e : Entry) : Prop :=
  ∀ (lane rows : Nat) (handle : DispatchHandle), .combine lane rows handle ∈ e.laneCalls →
    ∃ env stageIdx, e.call = .combineAttention env stageIdx ∧ (lane : Int) = stageIdx ∧
      Waiting before stageIdx handle ∧ e.laneCalls = [.combine lane rows handle] ∧
      (∀ other ∈ before, ∀ stage, other.Dispatched stage handle → stage = stageIdx) ∧
      ∀ other ∈ before, ∀ lane rows : Nat, .combine lane rows handle ∉ other.laneCalls

def Paired (history : List Entry) : Prop :=
  ∀ before e after, history = before ++ e :: after → PairedWith before e

section History
variable {history : List Entry} {e : Entry} {stageIdx : Int} {handle : DispatchHandle}

theorem waiting_append : Waiting (history ++ [e]) stageIdx handle ↔
    e.Dispatched stageIdx handle ∨
      Waiting history stageIdx handle ∧ ¬ e.Attempts stageIdx ∧ ∀ other, ¬ e.Dispatched stageIdx other := by
  constructor
  · rintro ⟨before, d, after, heq, hd, hafter⟩
    rcases List.eq_nil_or_concat' after with rfl | ⟨after, last, rfl⟩
    · obtain ⟨-, hlast⟩ := List.append_inj' heq rfl
      obtain rfl : e = d := List.head_eq_of_cons_eq hlast
      exact .inl hd
    · rw [← List.cons_append, ← List.append_assoc] at heq
      obtain ⟨rfl, hlast⟩ := List.append_inj' heq rfl
      obtain rfl : e = last := List.head_eq_of_cons_eq hlast
      refine .inr ⟨⟨before, d, after, rfl, hd, fun later h => hafter later (List.mem_append_left _ h)⟩, ?_⟩
      exact hafter e (List.mem_append_right _ (.head _))
  · rintro (hd | ⟨⟨before, d, after, rfl, hd, hafter⟩, hattempts, hother⟩)
    · exact ⟨history, e, [], rfl, hd, fun _ h => absurd h List.not_mem_nil⟩
    · refine ⟨before, d, after ++ [e], by simp, hd, fun later h => ?_⟩
      rcases List.mem_append.1 h with h | h
      · exact hafter later h
      · rw [List.mem_singleton] at h
        subst h
        exact ⟨hattempts, hother⟩

theorem Waiting.dispatched (h : Waiting history stageIdx handle) :
    ∃ e ∈ history, e.Dispatched stageIdx handle := by
  obtain ⟨before, d, after, rfl, hd, -⟩ := h
  exact ⟨d, by simp, hd⟩

theorem paired_append (h : Paired history) (he : PairedWith history e) : Paired (history ++ [e]) := by
  intro before d after heq
  rcases List.eq_nil_or_concat' after with rfl | ⟨after, last, rfl⟩
  · obtain ⟨rfl, hlast⟩ := List.append_inj' heq rfl
    obtain rfl : e = d := List.head_eq_of_cons_eq hlast
    exact he
  · rw [← List.cons_append, ← List.append_assoc] at heq
    obtain ⟨rfl, -⟩ := List.append_inj' heq rfl
    exact h before d after rfl

/-- What the connector holds, after a history. -/
structure Inv (c : Connector) (history : List Entry) : Prop where
  pending : ∀ stageIdx handle, c.pendingCombines.get? stageIdx = some handle ↔
    Waiting history stageIdx handle
  uninitialized : c.initialized = false → ∀ stageIdx, c.pendingCombines.get? stageIdx = none
  /-- The transport's handles are numbered. -/
  issued : ∀ e ∈ history, ∀ stageIdx handle, e.Dispatched stageIdx handle → handle.serial < c.issued
  own : ∀ e ∈ history, ∀ e' ∈ history, ∀ stageIdx stage handle,
    e.Dispatched stageIdx handle → e'.Dispatched stage handle → stage = stageIdx
  uncombined : ∀ stageIdx handle, c.pendingCombines.get? stageIdx = some handle →
    ∀ e ∈ history, ∀ lane rows : Nat, .combine lane rows handle ∉ e.laneCalls
  paired : Paired history

variable {c : Connector}

theorem Inv.combined_issued (hi : Inv c history) (he : e ∈ history) {lane rows : Nat}
    (h : .combine lane rows handle ∈ e.laneCalls) : handle.serial < c.issued := by
  obtain ⟨before, after, rfl⟩ := List.append_of_mem he
  obtain ⟨_, stageIdx, -, -, hwaiting, -⟩ := hi.paired before e after rfl lane rows handle h
  obtain ⟨d, hd, hdispatched⟩ := hwaiting.dispatched
  exact hi.issued d (List.mem_append_left _ hd) stageIdx handle hdispatched

/-- A call that neither records a handle nor takes one. -/
theorem Inv.idle (hi : Inv c history) {c' : Connector}
    (hpending : c'.pendingCombines = c.pendingCombines) (hinit : c'.initialized = c.initialized)
    (hissued : c.issued ≤ c'.issued) (hdispatched : ∀ stage handle, ¬ e.Dispatched stage handle)
    (hattempts : ∀ stage, e.Attempts stage → c.pendingCombines.get? stage = none)
    (hcombine : ∀ (lane rows : Nat) (handle : DispatchHandle),
      .combine lane rows handle ∉ e.laneCalls) : Inv c' (history ++ [e]) := by
  refine ⟨fun stageIdx handle => ?_, ?_, ?_, ?_, ?_, paired_append hi.paired fun lane rows handle h =>
    absurd h (hcombine lane rows handle)⟩
  · rw [waiting_append, hpending, hi.pending]
    constructor
    · intro hw
      refine .inr ⟨hw, fun ha => ?_, hdispatched stageIdx⟩
      have hnone := hattempts stageIdx ha
      rw [(hi.pending stageIdx handle).2 hw] at hnone
      cases hnone
    · rintro (hd | ⟨hw, -⟩)
      · exact absurd hd (hdispatched stageIdx handle)
      · exact hw
  · rw [hinit, hpending]
    exact hi.uninitialized
  · intro d hd stageIdx handle hdd
    rcases List.mem_append.1 hd with hd | hd
    · exact (hi.issued d hd stageIdx handle hdd).trans_le hissued
    · rw [List.mem_singleton.1 hd] at hdd
      exact absurd hdd (hdispatched stageIdx handle)
  · intro d hd d' hd' stageIdx stage handle hdd hdd'
    rcases List.mem_append.1 hd with hd | hd
    · rcases List.mem_append.1 hd' with hd' | hd'
      · exact hi.own d hd d' hd' stageIdx stage handle hdd hdd'
      · rw [List.mem_singleton.1 hd'] at hdd'
        exact absurd hdd' (hdispatched stage handle)
    · rw [List.mem_singleton.1 hd] at hdd
      exact absurd hdd (hdispatched stageIdx handle)
  · rw [hpending]
    intro stageIdx handle hp d hd lane rows
    rcases List.mem_append.1 hd with hd | hd
    · exact hi.uncombined stageIdx handle hp d hd lane rows
    · rw [List.mem_singleton.1 hd]
      exact hcombine lane rows handle

/-- A call on a connector whose lane calls are forgotten. -/
theorem Inv.forget (hi : Inv c history) : Inv { c with laneCalls := [] } history :=
  ⟨hi.pending, hi.uninitialized, hi.issued, hi.own, hi.uncombined, hi.paired⟩

theorem Inv.dispatchAttention (hi : Inv c history) (hcalls : c.laneCalls = []) {env : DispatchEnv}
    {r : Except Exc Unit} {c' : Connector} (hend : DispatchEnd c stageIdx r c') :
    Inv c' (history ++ [⟨.dispatchAttention env stageIdx, r, c'.laneCalls⟩]) := by
  have hattempts {r : Except Exc Unit} {calls : List LaneCall} (stage : Int) :
      ¬ Entry.Attempts ⟨.dispatchAttention env stageIdx, r, calls⟩ stage := fun ⟨_, h⟩ => nomatch h
  have hfailed {x : Exc} {calls : List LaneCall} (stage : Int) (handle : DispatchHandle) :
    ¬ Entry.Dispatched ⟨.dispatchAttention env stageIdx, .error x, calls⟩ stage handle :=
    fun h => nomatch h.2.1
  cases hend with
  | early x =>
    exact hi.idle rfl rfl le_rfl hfailed (fun stage h => absurd h (hattempts stage)) (by simp [hcalls])
  | refused x lane plan =>
    exact hi.idle rfl rfl le_rfl hfailed (fun stage h => absurd h (hattempts stage)) (by simp [hcalls])
  | lost x lane plan handle hserial =>
    exact hi.idle rfl rfl (Nat.le_succ _) hfailed (fun stage h => absurd h (hattempts stage))
      (by simp [hcalls])
  | recorded lane plan handle hserial hlane hfree hinit =>
    have hrecorded (stage : Int) (other : DispatchHandle) :
        Entry.Dispatched ⟨.dispatchAttention env stageIdx, .ok (),
          c.laneCalls ++ [.dispatch lane plan (some handle)]⟩
          stage other ↔ stage = stageIdx ∧ other = handle := by
      simp only [Entry.Dispatched, hcalls, List.nil_append, List.mem_singleton, LaneCall.dispatch.injEq,
        Call.dispatchAttention.injEq, Option.some.injEq]
      constructor
      · rintro ⟨⟨_, -, rfl⟩, -, _, _, -, -, -, rfl⟩
        exact ⟨rfl, rfl⟩
      · rintro ⟨rfl, rfl⟩
        exact ⟨⟨env, by simp⟩, by simp, lane, plan, hlane, by simp⟩
    have hcombine (lane' rows : Nat) (other : DispatchHandle) :
        .combine lane' rows other ∉ c.laneCalls ++ [.dispatch lane plan (some handle)] := by simp [hcalls]
    -- the transport has not given the handle before
    have hfresh : ∀ d ∈ history, ∀ stage, ¬ d.Dispatched stage handle := by
      intro d hd stage h
      have := hi.issued d hd stage handle h
      omega
    refine ⟨fun stage other => ?_, fun hno => ?_, fun d hd stage other h => ?_,
      fun d hd d' hd' stage stage' other h h' => ?_, fun stage other h d hd lane' rows hmem => ?_,
      paired_append hi.paired fun lane' rows other h => absurd h (hcombine _ _ _)⟩
    · rw [waiting_append, hrecorded, Dict.get?_set]
      by_cases hstage : stage = stageIdx
      · rw [if_pos hstage]
        constructor
        · intro h
          exact .inl ⟨hstage, (Option.some.inj h).symm⟩
        · rintro (⟨-, rfl⟩ | ⟨-, -, hno⟩)
          · rfl
          · exact absurd ((hrecorded stage handle).2 ⟨hstage, rfl⟩) (hno handle)
      · rw [if_neg hstage, hi.pending]
        constructor
        · intro h
          exact .inr ⟨h, hattempts stage, fun other hd => hstage ((hrecorded stage other).1 hd).1⟩
        · rintro (⟨h, -⟩ | ⟨h, -⟩)
          · exact absurd h hstage
          · exact h
    · rw [hinit] at hno
      cases hno
    · rcases List.mem_append.1 hd with hd | hd
      · exact (hi.issued d hd stage other h).trans (Nat.lt_succ_self _)
      · rw [List.mem_singleton.1 hd] at h
        obtain ⟨-, rfl⟩ := (hrecorded stage other).1 h
        exact hserial.trans_lt (Nat.lt_succ_self _)
    · rcases List.mem_append.1 hd with hold | hnew <;> rcases List.mem_append.1 hd' with hold' | hnew'
      · exact hi.own d hold d' hold' stage stage' other h h'
      · rw [List.mem_singleton.1 hnew'] at h'
        rw [((hrecorded stage' other).1 h').2] at h
        exact absurd h (hfresh d hold stage)
      · rw [List.mem_singleton.1 hnew] at h
        rw [((hrecorded stage other).1 h).2] at h'
        exact absurd h' (hfresh d' hold' stage')
      · rw [List.mem_singleton.1 hnew] at h
        rw [List.mem_singleton.1 hnew'] at h'
        rw [((hrecorded stage other).1 h).1, ((hrecorded stage' other).1 h').1]
    · rcases List.mem_append.1 hd with hd | hd
      · rw [Dict.get?_set] at h
        split at h
        · cases h
          have := hi.combined_issued hd hmem
          omega
        · exact hi.uncombined stage other h d hd lane' rows hmem
      · rw [List.mem_singleton.1 hd] at hmem
        exact hcombine lane' rows other hmem

theorem Inv.combineAttention (hi : Inv c history) (hcalls : c.laneCalls = []) {env : CombineEnv}
    {r : Except Exc Unit} {c' : Connector} (hend : CombineEnd c stageIdx r c') :
    Inv c' (history ++ [⟨.combineAttention env stageIdx, r, c'.laneCalls⟩]) := by
  have hdispatched {r : Except Exc Unit} {calls : List LaneCall} (stage : Int)
    (handle : DispatchHandle) : ¬ Entry.Dispatched ⟨.combineAttention env stageIdx, r, calls⟩ stage
    handle := fun ⟨⟨_, h⟩, _⟩ => nomatch h
  have hattempts {r : Except Exc Unit} {calls : List LaneCall} (stage : Int) :
      Entry.Attempts ⟨.combineAttention env stageIdx, r, calls⟩ stage ↔ stage = stageIdx := by
    constructor
    · rintro ⟨_, h⟩
      exact (Call.combineAttention.inj h).2.symm
    · rintro rfl
      exact ⟨env, rfl⟩
  -- the stage's handle is gone, and the others are as before
  have htaken {c' : Connector} {r : Except Exc Unit}
      (hpending : c'.pendingCombines = c.pendingCombines.erase stageIdx)
      (hinit : c'.initialized = c.initialized) (hissued : c'.issued = c.issued)
      (hpaired : PairedWith history ⟨.combineAttention env stageIdx, r, c'.laneCalls⟩)
      (hother : ∀ stage other, stage ≠ stageIdx → c.pendingCombines.get? stage = some other →
        ∀ lane rows : Nat, .combine lane rows other ∉ c'.laneCalls) :
      Inv c' (history ++ [⟨.combineAttention env stageIdx, r, c'.laneCalls⟩]) := by
    have hget (stage : Int) (other : DispatchHandle) : c'.pendingCombines.get? stage = some other ↔
        stage ≠ stageIdx ∧ c.pendingCombines.get? stage = some other := by
      rw [hpending, Dict.get?_erase]
      split
      · rename_i hstage
        simp [hstage]
      · rename_i hstage
        simp [hstage]
    have hold : ∀ d ∈ history ++ [⟨.combineAttention env stageIdx, r, c'.laneCalls⟩], ∀ stage other,
        d.Dispatched stage other → d ∈ history := by
      intro d hd stage other h
      rcases List.mem_append.1 hd with hd | hd
      · exact hd
      · rw [List.mem_singleton.1 hd] at h
        exact absurd h (hdispatched stage other)
    refine ⟨fun stage other => ?_, fun hno stage => ?_, fun d hd stage other h => ?_,
      fun d hd d' hd' stage stage' other h h' => ?_, fun stage other h d hd lane' rows hmem => ?_,
      paired_append hi.paired hpaired⟩
    · rw [waiting_append, hget, hi.pending, hattempts]
      constructor
      · rintro ⟨hstage, hw⟩
        exact .inr ⟨hw, hstage, hdispatched stage⟩
      · rintro (hd | ⟨hw, hstage, -⟩)
        · exact absurd hd (hdispatched stage other)
        · exact ⟨hstage, hw⟩
    · rw [hinit] at hno
      rw [hpending, Dict.get?_erase, hi.uninitialized hno, ite_self]
    · rw [hissued]
      exact hi.issued d (hold d hd stage other h) stage other h
    · exact hi.own d (hold d hd stage other h) d' (hold d' hd' stage' other h') stage stage' other h h'
    · obtain ⟨hstage, hp⟩ := (hget stage other).1 h
      rcases List.mem_append.1 hd with hd | hd
      · exact hi.uncombined stage other hp d hd lane' rows hmem
      · rw [List.mem_singleton.1 hd] at hmem
        exact hother stage other hstage hp lane' rows hmem
  cases hend with
  | uninitialized x hno =>
    refine hi.idle rfl rfl le_rfl hdispatched (fun stage _ => hi.uninitialized hno stage) (by simp [hcalls])
  | nothing x hnone =>
    refine hi.idle rfl rfl le_rfl hdispatched (fun stage h => ?_) (by simp [hcalls])
    rw [(hattempts stage).1 h, hnone]
  | early x _ _ _ =>
    refine htaken rfl rfl rfl (fun lane rows handle h => ?_) (by simp [hcalls])
    simp [hcalls] at h
  | passed r lane handle hlane hpending =>
    have hwaiting := (hi.pending stageIdx handle).1 hpending
    obtain ⟨d, hd, hown⟩ := hwaiting.dispatched
    refine htaken rfl rfl rfl ?_ ?_
    · intro lane' rows' other h
      simp only [hcalls, List.nil_append, List.mem_singleton, LaneCall.combine.injEq] at h
      obtain ⟨rfl, rfl, rfl⟩ := h
      refine ⟨env, stageIdx, rfl, hlane, hwaiting, by simp [hcalls], fun d' hd' stage h => ?_, ?_⟩
      · exact hi.own d hd d' hd' stageIdx stage other hown h
      · exact fun d' hd' => hi.uncombined stageIdx other hpending d' hd'
    · intro stage other hstage hp lane' rows' h
      simp only [hcalls, List.nil_append, List.mem_singleton, LaneCall.combine.injEq] at h
      obtain ⟨-, -, rfl⟩ := h
      obtain ⟨d', hd', hown'⟩ := ((hi.pending stage other).1 hp).dispatched
      exact hstage (hi.own d hd d' hd' stageIdx stage other hown hown')

theorem Inv.step (hi : Inv c history) (call : Call) :
    Inv (c.step call).1 (history ++ [(c.step call).2]) := by
  cases call with
  | dispatchAttention env stageIdx =>
    exact hi.forget.dispatchAttention rfl (dispatchAttention_end env stageIdx)
  | combineAttention env stageIdx =>
    exact hi.forget.combineAttention rfl (combineAttention_end env stageIdx)
  | updatePlans plans =>
    exact hi.idle rfl rfl le_rfl (fun _ _ h => nomatch h.1) (fun _ h => nomatch h) fun _ _ _ =>
      List.not_mem_nil

theorem Inv.runFrom (hi : Inv c history) (calls : List Call) :
    Inv (c.runFrom history calls).1 (c.runFrom history calls).2 := by
  induction calls generalizing c history with
  | nil => exact hi
  | cons call calls ih => exact ih (hi.step call)

theorem map_call_runFrom (c : Connector) (history : List Entry) (calls : List Call) :
    (c.runFrom history calls).2.map (·.call) = history.map (·.call) ++ calls := by
  induction calls generalizing c history with
  | nil => simp [Connector.runFrom]
  | cons call calls ih =>
    rw [Connector.runFrom, ih]
    simp [Connector.step]

theorem inv_start (h : ∀ stageIdx, c.pendingCombines.get? stageIdx = none) : Inv c [] where
  pending stageIdx handle := by
    rw [h]
    refine ⟨fun h => (nomatch h), ?_⟩
    rintro ⟨before, e, after, heq, -⟩
    simp at heq
  uninitialized _ := h
  issued _ he := absurd he List.not_mem_nil
  own _ he := absurd he List.not_mem_nil
  uncombined _ _ _ _ he := absurd he List.not_mem_nil
  paired before e after heq := by simp at heq

/-- Over every run of calls, whichever of them raise: a stage has a pending handle
exactly while its last dispatch that returned waits for a combine; each lane
combines the handle of its own stage's last dispatch once; a dispatch that
raises, as every second one does, leaves the pending handles as they were, and one
that returns has a handle. A combine of a stage with a handle passes exactly that
handle to the stage's lane, unless there is no lane or no room for its zero rows,
and it returns only then. -/
theorem pending_combines_runs (hfresh : ∀ stageIdx, c.pendingCombines.get? stageIdx = none)
    (calls : List Call) :
    let d := (c.run calls).1
    (c.run calls).2.map (·.call) = calls ∧
    (∀ stageIdx handle, d.pendingCombines.get? stageIdx = some handle ↔
      Waiting (c.run calls).2 stageIdx handle) ∧
    Paired (c.run calls).2 ∧
    (∀ env stageIdx,
      ((d.step (.dispatchAttention env stageIdx)).2.result ≠ .ok () →
        (d.step (.dispatchAttention env stageIdx)).1.pendingCombines = d.pendingCombines) ∧
      (d.pendingCombines.get? stageIdx ≠ none →
        (d.step (.dispatchAttention env stageIdx)).2.result ≠ .ok ()) ∧
      ((d.step (.dispatchAttention env stageIdx)).2.result = .ok () →
        ∃ handle, (d.step (.dispatchAttention env stageIdx)).2.Dispatched stageIdx handle)) ∧
    ∀ env stageIdx,
      (∀ handle, d.pendingCombines.get? stageIdx = some handle → d.CanPass stageIdx handle → ∃ lane : Nat,
        (lane : Int) = stageIdx ∧
          (d.step (.combineAttention env stageIdx)).2.laneCalls =
            [.combine lane handle.recvShape.1 handle]) ∧
      ((d.step (.combineAttention env stageIdx)).2.result = .ok () →
        ∃ (lane : Nat) (handle : DispatchHandle),
        (lane : Int) = stageIdx ∧ d.pendingCombines.get? stageIdx = some handle ∧
          (d.step (.combineAttention env stageIdx)).2.laneCalls =
            [.combine lane handle.recvShape.1 handle]) := by
  intro d
  have hi := (inv_start hfresh).runFrom calls
  refine ⟨map_call_runFrom c [] calls, hi.pending, hi.paired, fun env stageIdx => ?_,
    fun env stageIdx => ?_⟩
  · have hend := dispatchAttention_end (c := { d with laneCalls := [] }) env stageIdx
    obtain ⟨hraises, htwice⟩ := hend.keeps
    refine ⟨hraises, htwice, fun hok => ?_⟩
    obtain ⟨lane, plan, handle, hlane, hmem⟩ := hend.returned hok
    exact ⟨handle, ⟨env, rfl⟩, hok, lane, plan, hlane, hmem⟩
  · obtain ⟨hpasses, hreturns⟩ :=
      (combineAttention_end (c := { d with laneCalls := [] }) env stageIdx).passes
    refine ⟨fun handle hpending hcan => ?_, hreturns⟩
    -- an uninitialized connector has no handles
    have hinit : d.initialized = true := by
      by_contra hno
      have hnone := hi.uninitialized (Bool.eq_false_iff.2 hno) stageIdx
      cases hnone.symm.trans hpending
    exact hpasses handle hinit hpending ⟨hcan.lane, hcan.zeros⟩

end History

/-- Two lanes with a plan for stage 0 only. -/
def twoLanes : Connector where
  initialized := true
  isFp8Payload := true
  numLanes := 2
  laneStreams := [.lane 0, .lane 1]
  stagePlans := Dict.empty.set 0 ⟨[3], 8, false, false⟩
  combineZeros := some (0, 16)

/-- Stage 0 dispatches twice, its combine returns another shape than `out`, and it
dispatches again; the transport fails, then not. Stages 1 and 2 have no plan and no lane. -/
def raisingCalls : List Call :=
  let ok : DispatchEnv := { dispatch := fun _ _ => .ok (0, 16) }
  [.dispatchAttention ok 0, .dispatchAttention ok 0, .dispatchAttention ok 1, .dispatchAttention ok 2,
   .combineAttention { combine := fun _ _ => .ok [3, 16], outShape := [4, 16] } 0,
   .dispatchAttention { dispatch := fun _ _ => .error (.external "timeout") } 0, .dispatchAttention ok 0]

/-- The last dispatch of the run waits, and a combine then passes it to lane 0. -/
theorem pending_combines_runs_raising :
    let d := (twoLanes.run raisingCalls).1
    (twoLanes.run raisingCalls).2.map (·.result.isOk) = [true, false, false, false, false, false, true] ∧
    (∀ stageIdx handle, d.pendingCombines.get? stageIdx = some handle ↔
      Waiting (twoLanes.run raisingCalls).2 stageIdx handle) ∧
    Paired (twoLanes.run raisingCalls).2 ∧
    ∀ env, (d.step (.combineAttention env 0)).2.laneCalls = [.combine 0 0 ⟨1, (0, 16)⟩] := by
  obtain ⟨-, hpending, hpaired, -, hcombine⟩ :=
    pending_combines_runs (c := twoLanes) (fun _ => rfl) raisingCalls
  refine ⟨rfl, hpending, hpaired, fun env => ?_⟩
  obtain ⟨lane, hlane, hcalls⟩ := (hcombine env 0).1 ⟨1, (0, 16)⟩ rfl ⟨by decide, (0, 16), rfl, le_rfl, rfl⟩
  obtain rfl : lane = 0 := Int.ofNat_eq_zero.1 hlane
  exact hcalls

end AfdPlugin.Deepep.PendingCombines
