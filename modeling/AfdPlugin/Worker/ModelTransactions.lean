import AfdPlugin.Worker.AttentionScopes
/-!
# One control payload for each model transaction

The FFN ranks follow the Attention runner by its control payloads alone: each
model transaction must announce itself once, before it exchanges any tensor, and
tell what it is. Native vLLM runs a transaction in one of a few ways, and each
way meets another of the replaced callables.

`Emits` says what a computation adds to the log: all of the given events if it
ends well, and a beginning of them if it raises.
-/

namespace AfdPlugin.AttentionRunner

open AttentionMetadata Eff

/-! ## Transactions -/

/-- What a control payload's flags say. -/
inductive Kind where
  | forward
  | replay
  | warmup
  | capture
  deriving DecidableEq, Repr

def Kind.payload (kind : Kind) (stages : Dict Int AFDDPMetadata) : AFDControlPayload where
  dpMetadataList := stages
  isGraphCapturing := kind = .capture
  isWarmup := kind = .warmup
  isGraphReplaying := kind = .replay

/-- The stages of a batch that is split into micro-batches. -/
def ubatchStages (env : Env) (slices : List UBatchSlice) : Dict Int AFDDPMetadata :=
  Dict.setAll ∅ ((buildUbatchDpMetadataList env.dpSize (slices.map (·.numTokens))).zipIdx.map
    fun e => ((e.2 : Int), e.1))

/-- The stage of a padded batch. -/
def graphStages (env : Env) (numTokens : Int32) : Dict Int AFDDPMetadata :=
  Dict.set ∅ 0 (buildCaptureDpMetadata env.dpSize numTokens)

/-- The stages of an eager batch; without DP metadata it has its own tokens. -/
def eagerStages (env : Env) (ctx : ForwardContext) (numTokens : Int32) : Dict Int AFDDPMetadata :=
  if 1 < (ctx.ubatchSlices.getD []).length then ubatchStages env (ctx.ubatchSlices.getD [])
  else Dict.set ∅ 0 ((publishedDpMetadata env ctx).getD ⟨[numTokens], numTokens⟩)

/-- How native `execute_model` runs the model. -/
inductive Work where
  /-- Without a forward, as when it only moves KV caches. -/
  | idle
  /-- In a forward context of its own, with this many tokens. -/
  | eager (ctx : ForwardContext) (numTokens : Int32)
  /-- As the replay of a FULL graph, which creates no context. -/
  | replay (desc : BatchExecutionDescriptor)
  /-- In micro-batches, whose contexts come from an alias of the factory. -/
  | ubatchEager (call : UBatchCall)
  /-- As the replay of a graph of micro-batches, whose inputs are prepared first. -/
  | ubatchReplay (call : UBatchCall) (desc : BatchExecutionDescriptor)
  deriving DecidableEq

def Prog.exchanges : Nat → Prog
  | 0 => .done
  | n + 1 => .seq .exchange (exchanges n)

/-- The native calls, with the exchanges of the forward. -/
def Work.native (exchanges : Nat) : Work → Prog
  | .idle => .done
  | .eager ctx _ => .seq (.createForwardContext ctx .done) (.exchanges exchanges)
  | .replay desc => .runFullgraph desc (.exchanges exchanges)
  | .ubatchEager call => .seq (.prepare call .done) (.exchanges exchanges)
  | .ubatchReplay call desc => .seq (.prepare call .done) (.runFullgraph desc (.exchanges exchanges))

def Work.payload (env : Env) : Work → Option AFDControlPayload
  | .idle => none
  | .eager ctx numTokens => some (Kind.forward.payload (eagerStages env ctx numTokens))
  | .replay desc => some (Kind.replay.payload (graphStages env desc.numTokens))
  | .ubatchEager call => some (Kind.forward.payload (ubatchStages env call.slices))
  | .ubatchReplay call _ => some (Kind.replay.payload (ubatchStages env call.slices))

/-- A call that prepares micro-batches, each with its context. -/
structure UBatchCall.Splits (env : Env) (call : UBatchCall) : Prop where
  runner : env.numUbatches.isSome
  slices : 1 < call.slices.length
  contexts : call.slices.length = call.numForwardContexts

/-- What native vLLM guarantees of a forward. -/
def Work.Possible (env : Env) : Work → Prop
  | .idle => True
  | .eager ctx numTokens => ctx.afdMetadata = none ∧ ctx.batchDescriptor = some numTokens ∧
      ((publishedDpMetadata env ctx).isSome ∨ env.dpSize = 1 ∨ 1 < (ctx.ubatchSlices.getD []).length)
  | .replay desc => env.fullDecodeOnly = true ∧ env.hasGraphManager = true ∧ desc.numUbatches ≤ 1
  | .ubatchEager call => call.Splits env ∧ call.cgMode ≠ .full
  | .ubatchReplay call desc => call.Splits env ∧ call.cgMode = .full ∧
      env.fullDecodeOnly = true ∧ env.hasGraphManager = true ∧ desc.numUbatches = call.slices.length

/-- A call of the runner: one model execution, which may create contexts for KV
work alone besides, or the capture of the graphs. -/
inductive Call where
  | execute (realTokens : Int32) (work : Work) (exchanges : Nat) (kv : List ForwardContext)
  /-- For each descriptor: its exchanges, the context of its forward, and how it is
  prepared when it has micro-batches. -/
  | capture (exchanges : BatchExecutionDescriptor → Nat) (ctx : BatchExecutionDescriptor → ForwardContext)
      (call : BatchExecutionDescriptor → UBatchCall)

def Prog.kvContexts : List ForwardContext → Prog
  | [] => .done
  | ctx :: rest => .seq (.createForwardContext ctx .done) (kvContexts rest)

/-- Native capture runs a descriptor's forward once to warm up, and once to record it. -/
def Prog.captureForward (exchanges : BatchExecutionDescriptor → Nat)
    (ctx : BatchExecutionDescriptor → ForwardContext) (call : BatchExecutionDescriptor → UBatchCall)
    (desc : BatchExecutionDescriptor) : Prog :=
  if desc.numUbatches = 1 then
    .seq (.prepareInputsToCapture desc.numReqs desc.numTokens .done)
      (.seq (.createForwardContext (ctx desc) .done) (.exchanges (exchanges desc)))
  else .seq (.prepare (call desc) .done) (.exchanges (exchanges desc))

def Prog.captureAll (forward : BatchExecutionDescriptor → Prog) : List BatchExecutionDescriptor → Prog
  | [] => .done
  | desc :: rest => .seq (forward desc) (.seq (forward desc) (captureAll forward rest))

def Call.prog (env : Env) : Call → Prog
  | .execute realTokens work exchanges kv =>
    .executeModel realTokens (.seq (work.native exchanges) (.kvContexts kv))
  | .capture exchanges ctx call =>
    .captureModel (.captureAll (.captureForward exchanges ctx call) env.fullCaptureDescs)

/-- The payload, then the exchanges. -/
def announce (payload : AFDControlPayload) (exchanges : Nat) : List Event :=
  .control payload :: List.replicate exchanges .exchange

def captureStages (env : Env) (call : BatchExecutionDescriptor → UBatchCall)
    (desc : BatchExecutionDescriptor) :
    Dict Int AFDDPMetadata :=
  if desc.numUbatches = 1 then graphStages env desc.numTokens else ubatchStages env (call desc).slices

/-- What a call must add to the log. -/
def Call.events (env : Env) : Call → List Event
  | .execute _ work exchanges _ => (work.payload env).elim [] (announce · exchanges)
  | .capture exchanges _ call => env.fullCaptureDescs.flatMap fun desc =>
      announce (Kind.warmup.payload (captureStages env call desc)) (exchanges desc) ++
      announce (Kind.capture.payload (captureStages env call desc)) (exchanges desc)

/-- What native vLLM guarantees of a call. -/
def Call.Possible (env : Env) : Call → Prop
  | .execute _ work _ kv =>
    work.Possible env ∧ ∀ ctx ∈ kv, ctx.batchDescriptor = none ∧ ctx.hasAttnMetadata = false
  | .capture _ _ call => env.hasGraphManager = true ∧ env.fullCaptureDescs ≠ [] ∧
      ∀ desc ∈ env.fullCaptureDescs, desc.cgMode = .full ∧ (desc.numUbatches ≠ 1 →
        (call desc).Splits env ∧ (call desc).slices.length = desc.numUbatches ∧
        (call desc).numReqs = desc.numReqs ∧ (call desc).numTokensAfterPadding = desc.numTokens)

/-- Calls one after the other. -/
def Prog.calls (env : Env) : List Call → Prog
  | [] => .done
  | call :: rest => .seq (call.prog env) (calls env rest)

/-- No callable is replaced by AFD. -/
structure Patches.Unpatched (p : Patches) : Prop where
  hookMarker : p.hookMarker = none
  prepare : ∃ id, p.boundPrepare = .native id
  runFullgraph : ∃ id, p.boundRunFullgraph = .native id
  createForwardContext : ∃ id, p.createForwardContext = .native id
  prepareInputsToCapture : ∃ id, p.prepareInputsToCapture = .native id

/-- The runner outside its scopes. -/
structure Idle (r : Runner) : Prop where
  sidecar : r.sidecar = {}
  patches : r.patches.Unpatched

/-! ## What a computation adds to the log -/

abbrev Cond := Sidecar → List CaptureEventTracker → Prop

/-- The outcome of a computation that adds `es` to the log and ends in `post`. -/
structure Emitted (env : Env) (es : List Event) (post : Cond) (s : Runner)
    (outcome : Except Exc Unit × Runner) :
    Prop where
  patches : outcome.2.patches = s.patches
  log : ∃ es', es' <+: es ∧ outcome.2.log = s.log ++ es'
  done : ∀ u, outcome.1 = .ok u →
    outcome.2.log = s.log ++ es ∧ post outcome.2.sidecar outcome.2.trackers
  /-- Only the control plane makes it raise. -/
  total : (∀ n, env.controlFault n = none) → ∃ u, outcome.1 = .ok u

/-- With the callables `p`, from `pre`, `m` adds `es` to the log and leads to `post`. -/
def Emits (env : Env) (p : Patches) (pre : Cond) (m : M Unit) (es : List Event) (post : Cond) : Prop :=
  ∀ s, s.patches = p → pre s.sidecar s.trackers → Emitted env es post s (m s)

section Rules
variable {env : Env} {p : Patches} {pre mid post : Cond} {m : M Unit} {es : List Event}

/-- A computation that does not raise. -/
theorem emits_of_ok (h : ∀ s, s.patches = p → pre s.sidecar s.trackers → ∃ t, m s = (.ok (), t) ∧
    t.patches = s.patches ∧ t.log = s.log ++ es ∧ post t.sidecar t.trackers) :
    Emits env p pre m es post := by
  intro s hs hpre
  obtain ⟨t, hm, hpatches, hlog, hpost⟩ := h s hs hpre
  rw [hm]
  exact ⟨hpatches, ⟨es, List.prefix_refl es, hlog⟩, fun _ _ => ⟨hlog, hpost⟩, fun _ => ⟨(), rfl⟩⟩

theorem emits_pure : Emits env p pre (pure ()) [] pre :=
  emits_of_ok fun s _ hpre => ⟨s, rfl, rfl, (List.append_nil _).symm, hpre⟩

theorem emits_bind (es es' : List Event) {m' : M Unit} (hm : Emits env p pre m es mid)
    (hm' : Emits env p mid m' es' post) : Emits env p pre (m >>= fun _ => m') (es ++ es') post := by
  intro s hs hpre
  have hfirst := hm s hs hpre
  cases h : m s with
  | mk outcome t =>
    rw [h] at hfirst
    cases outcome with
    | error exc =>
      rw [bind_of_error h]
      obtain ⟨es1, hes1, hlog⟩ := hfirst.log
      refine ⟨hfirst.patches, ⟨es1, hes1.trans (List.prefix_append es es'), hlog⟩, ?_, ?_⟩
      · intro u hu
        cases hu
      · intro hfault
        obtain ⟨u, hu⟩ := hfirst.total hfault
        cases hu
    | ok u =>
      rw [bind_of_ok h]
      obtain ⟨hlog, hmid⟩ := hfirst.done u rfl
      have hsecond := hm' t (hfirst.patches.trans hs) hmid
      obtain ⟨es2, hes2, hlog2⟩ := hsecond.log
      refine ⟨hsecond.patches.trans hfirst.patches, ⟨es ++ es2, ?_, ?_⟩, ?_, hsecond.total⟩
      · exact (List.prefix_append_right_inj es).2 hes2
      · rw [hlog2, hlog, List.append_assoc]
      · intro v hv
        obtain ⟨hlog3, hpost⟩ := hsecond.done v hv
        refine ⟨?_, hpost⟩
        rw [hlog3, hlog, List.append_assoc]

/-- A first part that adds nothing and does not raise. -/
theorem emits_step (mid : Cond) (m' : M Unit)
    (h : ∀ s, s.patches = p → pre s.sidecar s.trackers → ∃ t, m s = m' t ∧ t.patches = s.patches ∧
      t.log = s.log ∧ mid t.sidecar t.trackers) (hm' : Emits env p mid m' es post) :
    Emits env p pre m es post := by
  intro s hs hpre
  obtain ⟨t, hm, hpatches, hlog, hmid⟩ := h s hs hpre
  have hrest := hm' t (hpatches.trans hs) hmid
  rw [hm]
  exact ⟨hrest.patches.trans hpatches, hlog ▸ hrest.log, hlog ▸ hrest.done, hrest.total⟩

theorem Emits.mono {post' : Cond} (hm : Emits env p pre m es mid) (h : ∀ sc tr, mid sc tr → post' sc tr) :
    Emits env p pre m es post' := by
  intro s hs hpre
  have hout := hm s hs hpre
  refine ⟨hout.patches, hout.log, ?_, hout.total⟩
  intro u hu
  obtain ⟨hlog, hmid⟩ := hout.done u hu
  exact ⟨hlog, h _ _ hmid⟩

/-- A cleanup that does not raise. -/
theorem emits_tryFinally {p' : Patches} {pre' : Cond} {cleanup : M Unit} {s s' : Runner}
    (hm : Emits env p' pre' m es mid) (hs' : s'.patches = p') (hpre : pre' s'.sidecar s'.trackers)
    (hlog : s'.log = s.log)
    (hcleanup : ∀ t : Runner, t.patches = p' → ∃ u, cleanup t = (.ok (), u) ∧ u.patches = s.patches ∧
      u.log = t.log ∧ (mid t.sidecar t.trackers → post u.sidecar u.trackers)) :
    Emitted env es post s (tryFinally m cleanup s') := by
  have hbody := hm s' hs' hpre
  obtain ⟨u, hu, hpatches, hulog, hpost⟩ := hcleanup _ (hbody.patches.trans hs')
  rw [tryFinally_of_ok hu]
  refine ⟨hpatches, ?_, ?_, hbody.total⟩
  · rw [hulog, ← hlog]
    exact hbody.log
  · intro v hv
    obtain ⟨hlog', hmid⟩ := hbody.done v hv
    refine ⟨?_, hpost hmid⟩
    rw [hulog, hlog', hlog]

theorem emits_scope {V : Type} {save : Runner → V} {enter : Runner → Runner} {cleanup : V → M Unit}
    {p' : Patches} {pre' : Cond} (hm : Emits env p' pre' m es mid)
    (henter : ∀ s, s.patches = p → pre s.sidecar s.trackers →
      (enter s).patches = p' ∧ (enter s).log = s.log ∧ pre' (enter s).sidecar (enter s).trackers)
    (hcleanup : ∀ s t, s.patches = p → pre s.sidecar s.trackers → t.patches = p' →
      ∃ u, cleanup (save s) t = (.ok (), u) ∧ u.patches = p ∧ u.log = t.log ∧
        (mid t.sidecar t.trackers → post u.sidecar u.trackers)) :
    Emits env p pre (scope save enter cleanup m) es post := by
  intro s hs hpre
  obtain ⟨hpatches, hlog, hpre'⟩ := henter s hs hpre
  apply emits_tryFinally hm hpatches hpre' hlog
  intro t ht
  rw [hs]
  exact hcleanup s t hs hpre ht

end Rules

/-! ## The scopes of an execution -/

section Scopes
variable {env : Env} {p : Patches} {pre post : Cond} {body : M Unit} {es : List Event}

theorem emits_withGlobal {V : Type} {f : Field Patches V} {v : Patches → V}
    (hbody : Emits env (f.set (v p) p) pre body es post) :
    Emits env p pre (withGlobal f v body) es post := by
  apply emits_scope hbody
  · intro s hs hpre
    refine ⟨?_, rfl, hpre⟩
    change f.set (v s.patches) s.patches = _
    rw [hs]
  · intro s t hs _ ht
    refine ⟨setPatch f (getPatch f s) t, rfl, ?_, rfl, id⟩
    change f.set (f.get s.patches) t.patches = p
    rw [ht, hs]
    exact f.restore (v p) p

/-- The callables while micro-batches are prepared for AFD. -/
def preparing (env : Env) (tracker : Option Nat) (p : Patches) : Patches :=
  match env.numUbatches with
  | none => p
  | some _ =>
    let p := if env.deepseekV4Cuda then { p with
        prepareAttn := some (.aligned p.boundPrepareAttn)
        beginCapturableRun := some (.aligned p.boundBegin)
        prepare := some (.aligned p.boundPrepare) }
      else p
    { p with prepare := some (.afd tracker p.boundPrepare) }

theorem emits_prepared {tracker : Option Nat}
    (hbody : Emits env { p with prepare := some (.afd tracker p.boundPrepare) } pre body es post) :
    Emits env p pre (scope (getPatch Patches.prepareField)
      (fun r => setPatch Patches.prepareField (some (.afd tracker r.patches.boundPrepare)) r)
      (restoreEntry Patches.prepareField "prepare") body) es post := by
  apply emits_scope hbody
  · intro s hs hpre
    refine ⟨?_, rfl, hpre⟩
    rw [← hs]
    rfl
  · intro s t hs _ ht
    have hrun := restoreEntry_run Patches.prepareField "prepare" (t := t)
      (show t.patches.prepare = some _ by rw [ht]) s.patches.prepare
    refine ⟨_, hrun, ?_, rfl, id⟩
    change { t.patches with prepare := s.patches.prepare } = p
    rw [ht, hs]

theorem emits_useAfdUbatchPreparation {tracker : Option Nat}
    (hbody : Emits env (preparing env tracker p) pre body es post) :
    Emits env p pre (useAfdUbatchPreparation env tracker body) es post := by
  unfold preparing at hbody
  unfold useAfdUbatchPreparation
  cases hn : env.numUbatches with
  | none =>
    rw [hn] at hbody
    exact hbody
  | some n =>
    rw [hn] at hbody
    dsimp only at hbody ⊢
    split
    · rename_i hv4
      rw [if_pos hv4] at hbody
      unfold useV4UbatchPreparation
      -- the inputs of the stages are made before the scope is entered
      apply emits_step pre (scope _ _ restoreV4Callables _)
      · intro s _ hpre
        exact ⟨{ s with v4UbatchInputs := some (s.v4UbatchInputs.getD n) }, rfl, rfl, rfl, hpre⟩
      · apply emits_scope (emits_prepared hbody)
        · intro s hs hpre
          refine ⟨?_, rfl, hpre⟩
          rw [← hs]
        · intro s t hs _ ht
          refine ⟨_, restoreV4Callables_run (show t.patches.prepare = some _ by rw [ht])
            (show t.patches.beginCapturableRun = some _ by rw [ht])
            (show t.patches.prepareAttn = some _ by rw [ht]) _, ?_, rfl, id⟩
          change { t.patches with
            prepareAttn := s.patches.prepareAttn
            prepare := s.patches.prepare
            beginCapturableRun := s.patches.beginCapturableRun } = p
          rw [ht, hs]
    · rename_i hv4
      rw [if_neg hv4] at hbody
      exact emits_prepared hbody

/-- The callables while the replay hook is there. -/
def hooked (env : Env) (realTokens : Int32) (p : Patches) : Patches :=
  if env.fullDecodeOnly && env.hasGraphManager then { p with
    hookMarker := some ()
    runFullgraph := some (.afd realTokens p.boundRunFullgraph) }
  else p

theorem emits_useAfdFullgraphReplayHook {realTokens : Int32} (hmanager : env.hasGraphManager = true)
    (hmarker : p.hookMarker = none)
    (hbody : Emits env { p with
      hookMarker := some ()
      runFullgraph := some (.afd realTokens p.boundRunFullgraph) } pre body es post) :
    Emits env p pre (useAfdFullgraphReplayHook env realTokens body) es post := by
  unfold useAfdFullgraphReplayHook
  rw [if_neg (by simp [hmanager])]
  apply emits_step pre (scope _ _ removeReplayHook _)
  · intro s hs hpre
    refine ⟨s, ?_, rfl, rfl, hpre⟩
    change (if s.patches.hookMarker.isSome then raise _ else scope _ _ removeReplayHook body : M Unit) s = _
    rw [hs, hmarker]
    rfl
  · apply emits_scope hbody
    · intro s hs hpre
      refine ⟨?_, rfl, hpre⟩
      rw [← hs]
    · intro s t hs _ ht
      refine ⟨_, removeReplayHook_run (show t.patches.runFullgraph = some _ by rw [ht])
        (show t.patches.hookMarker = some () by rw [ht]) _, ?_, rfl, id⟩
      change { t.patches with runFullgraph := s.patches.runFullgraph, hookMarker := none } = p
      rw [ht, hs, ← hmarker]

/-- The callables inside an execution. -/
def executing (env : Env) (realTokens : Int32) (p : Patches) : Patches :=
  let p := preparing env none (hooked env realTokens { p with dispatch := .dbo })
  { p with createForwardContext := .withAfd p.createForwardContext }

/-- Nothing is pending and every flag is off. -/
def Clean : Cond := fun sidecar _ => sidecar = {}

theorem emits_useAfdExecutionContext {realTokens : Int32} (hmarker : p.hookMarker = none)
    (hbody : Emits env (executing env realTokens p) Clean body es post) :
    Emits env p Clean (useAfdExecutionContext env realTokens body) es Clean := by
  have hprovided : Emits env (preparing env none (hooked env realTokens { p with dispatch := .dbo })) Clean
      (useAfdMetadataProvider body) es post := emits_withGlobal hbody
  have hprepared := emits_useAfdUbatchPreparation hprovided
  have hreplayed : Emits env { p with dispatch := .dbo } Clean
      (if env.fullDecodeOnly && env.hasGraphManager then
        useAfdFullgraphReplayHook env realTokens
          (useAfdUbatchPreparation env none (useAfdMetadataProvider body))
      else useAfdUbatchPreparation env none (useAfdMetadataProvider body)) es post := by
    unfold hooked at hprepared
    split
    · rename_i huse
      rw [if_pos huse] at hprepared
      rw [Bool.and_eq_true] at huse
      exact emits_useAfdFullgraphReplayHook huse.2 hmarker hprepared
    · rename_i huse
      rw [if_neg huse] at hprepared
      exact hprepared
  unfold useAfdExecutionContext
  apply emits_scope (emits_withGlobal hreplayed)
  · intro s hs hpre
    refine ⟨hs, rfl, ?_⟩
    change ({ s.sidecar with isGraphReplaying := false } : Sidecar) = {}
    rw [show s.sidecar = {} from hpre]
  · intro s t hs hpre ht
    exact ⟨_, rfl, ht, rfl, fun _ => hpre⟩

end Scopes

/-! ## Control and exchanges -/

section Calls
variable {env : Env} {p : Patches} {pre post : Cond}

theorem emits_exchanges (n : Nat) :
    Emits env p pre ((Prog.exchanges n).run env) (List.replicate n .exchange) pre := by
  induction n with
  | zero => exact emits_pure
  | succ n ih =>
    apply emits_bind [.exchange] _ _ ih
    apply emits_of_ok
    intro s _ hpre
    exact ⟨{ s with log := s.log ++ [.exchange] }, rfl, rfl, rfl, hpre⟩

/-- A payload is sent or the control plane raises. -/
theorem emits_sendPayload (payload : AFDControlPayload) :
    Emits env p pre (sendPayload env payload) [.control payload] pre := by
  intro s _ hpre
  cases hfault : env.controlFault s.controlCalls with
  | none =>
    have hrun : sendPayload env payload s = (.ok (), { s with
        controlCalls := s.controlCalls + 1, log := s.log ++ [.control payload] }) := by
      rw [sendPayload, read_bind, modify_bind, hfault]
      rfl
    rw [hrun]
    exact ⟨rfl, ⟨_, List.prefix_refl _, rfl⟩, fun _ _ => ⟨rfl, hpre⟩, fun _ => ⟨(), rfl⟩⟩
  | some exc =>
    have hrun : sendPayload env payload s =
        (.error exc, { s with controlCalls := s.controlCalls + 1 }) := by
      rw [sendPayload, read_bind, modify_bind, hfault]
      rfl
    rw [hrun]
    refine ⟨rfl, ⟨[], List.nil_prefix, (List.append_nil _).symm⟩, ?_, ?_⟩
    · intro u hu
      cases hu
    · intro hnone
      rw [hnone] at hfault
      cases hfault

/-- `send_dp_metadata` sends the payload that the runner's flags call for. -/
theorem emits_sendDpMetadata (hplane : env.hasControlPlane = true) (dpMetadata : Option AFDDPMetadata)
    (slices : List UBatchSlice) (kind : Kind) (stages : Dict Int AFDDPMetadata)
    (hpre : ∀ sc tr, pre sc tr → dpMetadataList env dpMetadata slices sc.pendingMetadata = .ok stages ∧
      sc.isGraphCapturing = decide (kind = .capture) ∧ sc.isWarmup = decide (kind = .warmup) ∧
      sc.isGraphReplaying = decide (kind = .replay)) :
    Emits env p pre (sendDpMetadata env dpMetadata slices) [.control (kind.payload stages)] pre := by
  apply emits_step pre _ _ (emits_sendPayload (kind.payload stages))
  intro s _ hs
  obtain ⟨hstages, hcapturing, hwarmup, hreplaying⟩ := hpre _ _ hs
  refine ⟨s, ?_, rfl, rfl, hs⟩
  unfold sendDpMetadata
  rw [if_neg (by simp [hplane]), read_bind, hstages, ok_bind, hcapturing, hwarmup, hreplaying]
  rfl

/-- In micro-batches the stages do not depend on anything else. -/
theorem dpMetadataList_ubatch {dpMetadata : Option AFDDPMetadata} {slices : List UBatchSlice}
    (h : 1 < slices.length) (pending : Option AFDForwardContextMetadata) :
    dpMetadataList env dpMetadata slices pending = .ok (ubatchStages env slices) := if_pos h

theorem dpMetadataList_some (md : AFDDPMetadata) (pending : Option AFDForwardContextMetadata) :
    dpMetadataList env (some md) [] pending = .ok (Dict.set ∅ 0 md) := rfl

/-! ### Forward contexts -/

/-- A context inside an execution is announced by the AFD installer. -/
theorem emits_createForwardContext {ctx : ForwardContext} {id : Nat} {es : List Event}
    (hp : p.createForwardContext = .withAfd (.native id))
    (h : Emits env p pre (installAfdMetadataOnForwardContext env ctx) es post) :
    Emits env p pre ((Prog.createForwardContext ctx .done).run env) es post := by
  apply emits_step pre _ _ h
  intro s hs hpre
  refine ⟨s, ?_, rfl, rfl, hpre⟩
  change (s.patches.createForwardContext.run env ctx (pure ())) s = _
  rw [hs, hp]
  rfl

theorem emits_kvContexts {id : Nat} (hp : p.createForwardContext = .withAfd (.native id))
    (kv : List ForwardContext)
    (hkv : ∀ ctx ∈ kv, ctx.batchDescriptor = none ∧ ctx.hasAttnMetadata = false) :
    Emits env p pre ((Prog.kvContexts kv).run env) [] pre := by
  induction kv with
  | nil => exact emits_pure
  | cons ctx rest ih =>
    apply emits_bind [] [] _ (ih fun c hc => hkv c (List.mem_cons_of_mem ctx hc))
    apply emits_createForwardContext hp
    unfold installAfdMetadataOnForwardContext
    rw [if_pos (hkv ctx List.mem_cons_self)]
    exact emits_pure

theorem dpMetadataList_eager {ctx : ForwardContext} {numTokens : Int32}
    (h : (publishedDpMetadata env ctx).isSome ∨ env.dpSize = 1 ∨ 1 < (ctx.ubatchSlices.getD []).length)
    (counter : Nat) :
    dpMetadataList env (publishedDpMetadata env ctx) (ctx.ubatchSlices.getD [])
      (some (afdMetadata counter (ctx.ubatchSlices.getD []) numTokens)) =
        .ok (eagerStages env ctx numTokens) := by
  unfold eagerStages
  by_cases hsplit : 1 < (ctx.ubatchSlices.getD []).length
  · rw [if_pos hsplit]
    exact dpMetadataList_ubatch hsplit _
  · rw [if_neg hsplit]
    unfold dpMetadataList ensureDpMetadata afdMetadata
    rw [if_neg hsplit, if_neg hsplit]
    cases hdp : publishedDpMetadata env ctx with
    | some md => rfl
    | none =>
      rw [hdp] at h
      have hone : env.dpSize = 1 := by
        rcases h with h | h | h
        · contradiction
        · exact h
        · exact absurd h hsplit
      rw [hone]
      rfl

theorem buildAfdMetadata_bind {B : Type} (slices : List UBatchSlice) (numTokens : Int32)
    (k : AFDForwardContextMetadata → M B) (s : Runner) :
    (buildAfdMetadata slices numTokens >>= k) s = k (afdMetadata s.transactionCounter slices numTokens)
      { s with transactionCounter := s.transactionCounter + 1 } := rfl

/-- A clean runner starts a transaction of its own. -/
theorem ensurePendingMetadata_run {ctx : ForwardContext} {numTokens : Int32} {s : Runner}
    (hs : s.sidecar = {}) (hdesc : ctx.batchDescriptor = some numTokens) :
    let metadata := afdMetadata s.transactionCounter (ctx.ubatchSlices.getD []) numTokens
    ensurePendingMetadata ctx s = (.ok (), { s with
      transactionCounter := s.transactionCounter + 1
      sidecar := { pendingMetadata := some metadata } }) := by
  unfold ensurePendingMetadata afdNumTokensForContext
  rw [read_bind, hs, hdesc]
  dsimp only
  rw [ok_bind, buildAfdMetadata_bind]
  change (Except.ok (), { s with
    transactionCounter := s.transactionCounter + 1
    sidecar := { s.sidecar with pendingMetadata := _ } }) = _
  rw [hs]

/-- A transaction that a context has started is pending. -/
def Started (slices : List UBatchSlice) (numTokens : Int32) : Cond := fun sidecar _ =>
  ∃ counter, sidecar = { pendingMetadata := some (afdMetadata counter slices numTokens) }

/-- The context of an eager forward starts the transaction and sends its payload. -/
theorem emits_eager (hplane : env.hasControlPlane = true) {ctx : ForwardContext} {numTokens : Int32}
    (hctx : (Work.eager ctx numTokens).Possible env) :
    Emits env p Clean (installAfdMetadataOnForwardContext env ctx)
      [.control (Kind.forward.payload (eagerStages env ctx numTokens))]
      (Started (ctx.ubatchSlices.getD []) numTokens) := by
  obtain ⟨hnew, hdesc, hstages⟩ := hctx
  apply emits_step (Started (ctx.ubatchSlices.getD []) numTokens)
    (sendDpMetadata env (publishedDpMetadata env ctx) (ctx.ubatchSlices.getD []))
  · intro s _ hs
    refine ⟨{ s with
      transactionCounter := s.transactionCounter + 1
      sidecar := {
        pendingMetadata := some (afdMetadata s.transactionCounter (ctx.ubatchSlices.getD []) numTokens) } },
      ?_, rfl, rfl, s.transactionCounter, rfl⟩
    unfold installAfdMetadataOnForwardContext installAfdMetadata
    rw [if_neg (by simp [hdesc]), if_neg (by simp [hnew]),
      bind_of_ok (ensurePendingMetadata_run hs hdesc), read_bind, if_neg (by simp [hplane])]
  · apply emits_sendDpMetadata hplane _ _ .forward
    rintro _ _ ⟨counter, rfl⟩
    exact ⟨dpMetadataList_eager hstages counter, rfl, rfl, rfl⟩

/-- A context whose transaction was announced before it adds nothing. -/
theorem emits_suppressed (ctx : ForwardContext)
    (hpre : ∀ sc tr, pre sc tr → sc.pendingMetadata.isSome ∧ sc.suppressMetadataSend = true) :
    Emits env p pre (installAfdMetadataOnForwardContext env ctx) [] pre := by
  apply emits_step pre (pure ()) _ emits_pure
  intro s _ hs
  obtain ⟨hpending, hsuppress⟩ := hpre _ _ hs
  obtain ⟨metadata, hmetadata⟩ := Option.isSome_iff_exists.1 hpending
  refine ⟨s, ?_, rfl, rfl, hs⟩
  unfold installAfdMetadataOnForwardContext installAfdMetadata
  split
  · rfl
  · split
    · rfl
    · have hensure : ensurePendingMetadata ctx s = (.ok (), s) := by
        unfold ensurePendingMetadata
        rw [read_bind, hmetadata]
        rfl
      rw [bind_of_ok hensure, read_bind, if_pos (Or.inr hsuppress)]

/-! ### Micro-batches -/

/-- The flags of the runner say what its next payload announces. -/
def Flags (kind : Kind) (sidecar : Sidecar) : Prop :=
  sidecar.isGraphCapturing = decide (kind = .capture) ∧ sidecar.isWarmup = decide (kind = .warmup) ∧
    sidecar.isGraphReplaying = decide (kind = .replay)

/-- The stages of micro-batches are pending, and their control was sent. -/
structure Staged (numStages : Nat) (sidecar : Sidecar) : Prop where
  pending : ∃ metadata, sidecar.pendingMetadata = some metadata ∧ metadata.numStages = numStages
  suppressed : sidecar.suppressMetadataSend = true

/-- The metadata of prepared micro-batches. -/
def stagedMetadata (counter : Nat) (call : UBatchCall) : AFDForwardContextMetadata :=
  { afdMetadata counter call.slices call.numTokens with
    tokensUnpaddedLens := call.slices.map (·.unpaddedLen call.numTokens) }

theorem installMrv2UbatchMetadata_run {call : UBatchCall} (hsplit : call.Splits env) (s : Runner) :
    installMrv2UbatchMetadata call s = (.ok (), { s with
      transactionCounter := s.transactionCounter + 1
      sidecar := { s.sidecar with
        pendingMetadata := some (stagedMetadata s.transactionCounter call)
        suppressMetadataSend := true } }) := by
  unfold installMrv2UbatchMetadata
  rw [if_neg (not_not.2 hsplit.contexts), buildAfdMetadata_bind]
  rfl

theorem stagedMetadata_numStages {call : UBatchCall} (hsplit : call.Splits env) (counter : Nat) :
    (stagedMetadata counter call).numStages = call.slices.length := by
  unfold stagedMetadata afdMetadata
  rw [if_pos hsplit.slices]

/-- Prepared micro-batches are announced with all their stages. -/
theorem emits_announceStages (hplane : env.hasControlPlane = true) {call : UBatchCall}
    (hsplit : call.Splits env) (kind : Kind) (T : List CaptureEventTracker → Prop) :
    Emits env p (fun sc tr => Flags kind sc ∧ T tr)
      (do
        installMrv2UbatchMetadata call
        if env.hasControlPlane then sendDpMetadata env none call.slices else pure ())
      [.control (kind.payload (ubatchStages env call.slices))]
      (fun sc tr => (Flags kind sc ∧ Staged call.slices.length sc) ∧ T tr) := by
  apply emits_step (fun sc tr => (Flags kind sc ∧ Staged call.slices.length sc) ∧ T tr)
    (sendDpMetadata env none call.slices)
  · intro s _ hs
    refine ⟨{ s with
      transactionCounter := s.transactionCounter + 1
      sidecar := { s.sidecar with
        pendingMetadata := some (stagedMetadata s.transactionCounter call)
        suppressMetadataSend :=
          true } }, ?_, rfl, rfl, ⟨hs.1, ⟨_, rfl, stagedMetadata_numStages hsplit _⟩, rfl⟩, hs.2⟩
    rw [bind_of_ok (installMrv2UbatchMetadata_run hsplit s), if_pos hplane]
  · apply emits_sendDpMetadata hplane
    intro sc tr hsc
    exact ⟨dpMetadataList_ubatch hsplit.slices _, hsc.1.1⟩

/-- A native `prepare`, perhaps with aligned inputs. -/
def Prepare.Plain : Prepare → Prop
  | .native _ => True
  | .aligned original => original.Plain
  | .afd _ _ => False

theorem Prepare.Plain.run {f : Prepare} (hf : f.Plain) (call : UBatchCall) (native : M Unit) :
    f.run env call native = native := by
  induction f with
  | native id => rfl
  | aligned original ih => exact ih hf
  | afd tracker original ih => exact hf.elim

/-- A call of `prepare` marks the stages, then announces them. -/
theorem emits_prepare {tracker : Option Nat} {original : Prepare} {call : UBatchCall}
    {es : List Event} {mid : Cond} (hp : p.boundPrepare = .afd tracker original) (hplain : original.Plain)
    (hsplit : call.Splits env) (hmark : Emits env p pre (markPrepared call tracker) [] mid)
    (hstages : Emits env p mid (do
      installMrv2UbatchMetadata call
      if env.hasControlPlane then sendDpMetadata env none call.slices else pure ()) es post) :
    Emits env p pre ((Prog.prepare call .done).run env) es post := by
  apply emits_step pre (markPrepared call tracker >>= fun _ => (do
      installMrv2UbatchMetadata call
      if env.hasControlPlane then sendDpMetadata env none call.slices else pure ()))
  · intro s hs hpre
    refine ⟨s, ?_, rfl, rfl, hpre⟩
    have hrunner : env.numUbatches ≠ none := by
      intro hnone
      have hsome := hsplit.runner
      rw [hnone] at hsome
      contradiction
    unfold Prog.run
    rw [if_neg hrunner, read_bind, hs, hp]
    unfold Prepare.run
    rw [hplain.run]
    rfl
  · exact emits_bind [] es hmark hstages

/-! ### Replays -/

/-- The runner says that it replays a graph. -/
def Replaying : Cond := fun sidecar _ => Flags .replay sidecar

/-- A replay of one stage sends its padded payload, then runs. -/
theorem emits_replay (hplane : env.hasControlPlane = true) (hmanager : env.hasGraphManager = true)
    {realTokens : Int32} {id : Nat} {desc : BatchExecutionDescriptor} {native : Prog} {es : List Event}
    (hp : p.boundRunFullgraph = .afd realTokens (.native id)) (hone : desc.numUbatches ≤ 1)
    (hnative : Emits env p Replaying (native.run env) es Replaying) :
    Emits env p Clean ((Prog.runFullgraph desc native).run env)
      (.control (Kind.replay.payload (graphStages env desc.numTokens)) :: es) (fun _ _ => True) := by
  let prepared (metadata : AFDForwardContextMetadata) : Sidecar := {
    pendingMetadata := some { metadata with tokensLens := [desc.numTokens] }
    suppressMetadataSend := true
    isWarmup := false
    isGraphCapturing := false
    isGraphReplaying := true }
  have hbody : Emits env p Clean (do
      let metadata ← buildAfdMetadata [] realTokens
      Eff.modify fun r => { r with sidecar := prepared metadata }
      sendDpMetadata env (some (buildCaptureDpMetadata env.dpSize desc.numTokens)) []
      native.run env)
      (.control (Kind.replay.payload (graphStages env desc.numTokens)) :: es) Replaying := by
    apply emits_step Replaying (do
      sendDpMetadata env (some (buildCaptureDpMetadata env.dpSize desc.numTokens)) []
      native.run env)
    · intro s _ _
      exact ⟨{ s with
        transactionCounter := s.transactionCounter + 1
        sidecar := prepared (afdMetadata s.transactionCounter [] realTokens) }, rfl, rfl, rfl,
          rfl, rfl, rfl⟩
    · apply emits_bind [_] es _ hnative
      apply emits_sendDpMetadata hplane
      intro sc _ hsc
      exact ⟨dpMetadataList_some _ _, hsc⟩
  intro s hs hclean
  rw [Prog.run, if_neg (by simp [hmanager]), read_bind, hs, hp, RunFullgraph.run,
    if_neg (Nat.not_lt.2 hone), read_bind]
  apply emits_tryFinally hbody hs hclean rfl
  intro t ht
  exact ⟨_, rfl, ht.trans hs.symm, rfl, fun _ => trivial⟩

/-- The replay of prepared micro-batches sends nothing of its own. -/
theorem emits_ubatchReplay (hmanager : env.hasGraphManager = true) {realTokens : Int32}
    {id numStages : Nat} {desc : BatchExecutionDescriptor} {native : Prog} {es : List Event}
    (hp : p.boundRunFullgraph = .afd realTokens (.native id)) (hmany : 1 < desc.numUbatches)
    (hnum : desc.numUbatches = numStages) (hpre : ∀ sc tr, pre sc tr → Staged numStages sc)
    (hnative : Emits env p pre (native.run env) es pre) :
    Emits env p pre ((Prog.runFullgraph desc native).run env) es pre := by
  apply emits_step pre (native.run env) _ hnative
  intro s hs hsc
  obtain ⟨metadata, hmetadata, hstages⟩ := (hpre _ _ hsc).pending
  refine ⟨s, ?_, rfl, rfl, hsc⟩
  rw [Prog.run, if_neg (by simp [hmanager]), read_bind, hs, hp, RunFullgraph.run, if_pos hmany,
    read_bind, hmetadata]
  dsimp only
  rw [if_neg (by rw [hstages, hnum]; exact not_not.2 rfl)]
  rfl

end Calls

/-! ## Executions -/

section Executions
variable {env : Env} {p : Patches}

theorem preparing_createForwardContext (tracker : Option Nat) :
    (preparing env tracker p).createForwardContext = p.createForwardContext := by
  unfold preparing
  split
  · rfl
  · dsimp only
    split <;> rfl

theorem preparing_runFullgraph (tracker : Option Nat) :
    (preparing env tracker p).boundRunFullgraph = p.boundRunFullgraph := by
  unfold preparing
  split
  · rfl
  · dsimp only
    split <;> rfl

theorem preparing_prepareInputsToCapture (tracker : Option Nat) :
    (preparing env tracker p).prepareInputsToCapture = p.prepareInputsToCapture := by
  unfold preparing
  split
  · rfl
  · dsimp only
    split <;> rfl

/-- Where there is a micro-batch runner its `prepare` is AFD's, around a native one. -/
theorem preparing_prepare (tracker : Option Nat) (hrunner : env.numUbatches.isSome) (id : Nat)
    (hp : p.boundPrepare = .native id) :
    ∃ original, (preparing env tracker p).boundPrepare = .afd tracker original ∧ original.Plain := by
  unfold preparing
  split
  · rename_i hnone
    rw [hnone] at hrunner
    contradiction
  · dsimp only
    split
    · refine ⟨_, rfl, ?_⟩
      change p.boundPrepare.Plain
      rw [hp]
      trivial
    · refine ⟨_, rfl, ?_⟩
      rw [hp]
      trivial

theorem executing_createForwardContext (env : Env) (hp : p.Unpatched) (realTokens : Int32) :
    ∃ id, (executing env realTokens p).createForwardContext = .withAfd (.native id) := by
  obtain ⟨id, hid⟩ := hp.createForwardContext
  refine ⟨id, ?_⟩
  change CreateForwardContext.withAfd (preparing env none _).createForwardContext = _
  rw [preparing_createForwardContext, ← hid]
  unfold hooked
  split <;> rfl

theorem executing_prepare (hp : p.Unpatched) (realTokens : Int32) (hrunner : env.numUbatches.isSome) :
    ∃ original, (executing env realTokens p).boundPrepare = .afd none original ∧ original.Plain := by
  obtain ⟨id, hid⟩ := hp.prepare
  apply preparing_prepare none hrunner id
  rw [← hid]
  unfold hooked
  split <;> rfl

theorem executing_runFullgraph (hp : p.Unpatched) (realTokens : Int32) (hmode : env.fullDecodeOnly = true)
    (hmanager : env.hasGraphManager = true) :
    ∃ id, (executing env realTokens p).boundRunFullgraph = .afd realTokens (.native id) := by
  obtain ⟨id, hid⟩ := hp.runFullgraph
  refine ⟨id, ?_⟩
  change (preparing env none _).boundRunFullgraph = _
  rw [preparing_runFullgraph, ← hid]
  unfold hooked
  rw [if_pos (by simp [hmode, hmanager])]
  rfl

/-- Eager work and replays are marked as such. -/
theorem emits_markPrepared {call : UBatchCall} (kind : Kind)
    (hkind : decide (call.cgMode = .full) = decide (kind = .replay))
    (hrun : kind = .forward ∨ kind = .replay) :
    Emits env p Clean (markPrepared call none) [] fun sc _ => Flags kind sc ∧ True := by
  apply emits_of_ok
  intro s _ hs
  refine ⟨{ s with sidecar := { s.sidecar with isGraphReplaying := call.cgMode = .full } }, rfl, rfl,
    (List.append_nil _).symm, ?_, trivial⟩
  rw [show s.sidecar = {} from hs]
  obtain rfl | rfl := hrun
  · exact ⟨rfl, rfl, hkind⟩
  · exact ⟨rfl, rfl, hkind⟩

/-- The native calls of an execution announce its work, then exchange. -/
theorem emits_work (hplane : env.hasControlPlane = true) (hp : p.Unpatched) (realTokens : Int32)
    (work : Work) (hwork : work.Possible env) (exchanges : Nat) :
    Emits env (executing env realTokens p) Clean ((work.native exchanges).run env)
      ((work.payload env).elim [] (announce · exchanges)) fun _ _ => True := by
  cases work with
  | idle => exact Emits.mono emits_pure fun _ _ _ => trivial
  | eager ctx numTokens =>
    obtain ⟨id, hctx⟩ := executing_createForwardContext env hp realTokens
    have hstart := emits_createForwardContext hctx (emits_eager hplane hwork)
    exact (emits_bind [_] _ hstart (emits_exchanges exchanges)).mono fun _ _ _ => trivial
  | replay desc =>
    obtain ⟨hmode, hmanager, hone⟩ := hwork
    obtain ⟨id, hrun⟩ := executing_runFullgraph hp realTokens hmode hmanager
    exact emits_replay hplane hmanager hrun hone (emits_exchanges exchanges)
  | ubatchEager call =>
    obtain ⟨hsplit, hmode⟩ := hwork
    obtain ⟨original, hprepare, hplain⟩ := executing_prepare hp realTokens hsplit.runner
    have hmark : Emits env (executing env realTokens p) Clean (markPrepared call none) [] _ :=
      emits_markPrepared .forward (by simp [hmode]) (Or.inl rfl)
    have hstages := emits_prepare hprepare hplain hsplit hmark
      (emits_announceStages hplane hsplit .forward fun _ => True)
    exact (emits_bind [_] _ hstages (emits_exchanges exchanges)).mono fun _ _ _ => trivial
  | ubatchReplay call desc =>
    obtain ⟨hsplit, hmode, hfull, hmanager, hnum⟩ := hwork
    obtain ⟨original, hprepare, hplain⟩ := executing_prepare hp realTokens hsplit.runner
    obtain ⟨id, hrun⟩ := executing_runFullgraph hp realTokens hfull hmanager
    have hmark : Emits env (executing env realTokens p) Clean (markPrepared call none) [] _ :=
      emits_markPrepared .replay (by simp [hmode]) (Or.inr rfl)
    have hstages := emits_prepare hprepare hplain hsplit hmark
      (emits_announceStages hplane hsplit .replay fun _ => True)
    have hexchanges : Emits env (executing env realTokens p)
        (fun sc _ => (Flags .replay sc ∧ Staged call.slices.length sc) ∧ True)
        ((Prog.exchanges exchanges).run env) _ _ := emits_exchanges exchanges
    have hreplay := emits_ubatchReplay hmanager hrun (by rw [hnum]; exact hsplit.slices) hnum
      (fun _ _ h => h.1.2) hexchanges
    exact (emits_bind [_] _ hstages hreplay).mono fun _ _ _ => trivial

/-- An execution announces its work once, and leaves the runner clean. -/
theorem emits_execute (hplane : env.hasControlPlane = true) (hp : p.Unpatched) (realTokens : Int32)
    (work : Work) (exchanges : Nat) (kv : List ForwardContext)
    (h : (Call.execute realTokens work exchanges kv).Possible env) :
    Emits env p Clean (((Call.execute realTokens work exchanges kv).prog env).run env)
      ((Call.execute realTokens work exchanges kv).events env) Clean := by
  obtain ⟨id, hctx⟩ := executing_createForwardContext env hp realTokens
  have hbody : Emits env (executing env realTokens p) Clean
      ((Prog.seq (work.native exchanges) (.kvContexts kv)).run env) _ fun _ _ => True :=
    emits_bind _ [] (emits_work hplane hp realTokens work h.1 exchanges) (emits_kvContexts hctx kv h.2)
  rw [List.append_nil] at hbody
  exact emits_useAfdExecutionContext hp.hookMarker hbody

end Executions

/-! ## Captures -/

/-- The events that a tracker still expects. -/
def Remaining (t : Nat) (events : List (BatchExecutionDescriptor × Bool))
    (trackers : List CaptureEventTracker) : Prop :=
  ∃ tracker, trackers[t]? = some tracker ∧ tracker.expectedEvents.drop tracker.eventIndex = events ∧
    tracker.eventIndex ≤ tracker.expectedEvents.length

theorem tracker_eq {s : Runner} {t : Nat} {tracker : CaptureEventTracker}
    (h : s.trackers[t]? = some tracker) :
    s.tracker t = tracker := by
  unfold Runner.tracker
  rw [List.getD_eq_getElem?_getD, h]
  rfl

/-- The next expected event is consumed when the call is its own. -/
theorem consume_run {t : Nat} {desc : BatchExecutionDescriptor} {isWarmup : Bool}
    {events : List (BatchExecutionDescriptor × Bool)} {s : Runner}
    (h : Remaining t ((desc, isWarmup) :: events) s.trackers) :
    ∃ trackers, Remaining t events trackers ∧
      consume t desc.numReqs desc.numTokens desc.numUbatches s =
        (.ok (desc, isWarmup), { s with trackers := trackers }) := by
  obtain ⟨tracker, htracker, hdrop, hle⟩ := h
  have hnext : tracker.expectedEvents[tracker.eventIndex]? = some (desc, isWarmup) := by
    rw [← List.head?_drop, hdrop]
    rfl
  obtain ⟨hlt, _⟩ := List.getElem?_eq_some_iff.1 hnext
  refine ⟨s.trackers.set t { tracker with eventIndex := tracker.eventIndex + 1 }, ?_, ?_⟩
  · refine ⟨{ tracker with eventIndex := tracker.eventIndex + 1 }, ?_, ?_, hlt⟩
    · obtain ⟨hbound, _⟩ := List.getElem?_eq_some_iff.1 htracker
      rw [List.getElem?_set_self hbound]
    · rw [← List.drop_drop, hdrop]
      rfl
  · unfold consume
    rw [read_bind, tracker_eq htracker, hnext]
    dsimp only
    rw [modify_bind, if_neg (by simp)]
    rfl

theorem assertComplete_run {t : Nat} {s : Runner} (h : Remaining t [] s.trackers) :
    assertComplete t s = (.ok (), s) := by
  obtain ⟨tracker, htracker, hdrop, hle⟩ := h
  have hend : tracker.eventIndex = tracker.expectedEvents.length :=
    Nat.le_antisymm hle (List.drop_eq_nil_iff.1 hdrop)
  unfold assertComplete
  rw [read_bind, tracker_eq htracker, if_neg (not_not.2 hend)]
  rfl

def captureKind (isWarmup : Bool) : Kind := if isWarmup then .warmup else .capture

section Captures
variable {env : Env} {p : Patches}

/-- The next capture event is marked. -/
theorem emits_markCaptured {t : Nat} {desc : BatchExecutionDescriptor} {isWarmup : Bool}
    {events : List (BatchExecutionDescriptor × Bool)} {call : UBatchCall}
    (hreqs : call.numReqs = desc.numReqs) (htokens : call.numTokensAfterPadding = desc.numTokens)
    (hslices : call.slices.length = desc.numUbatches) :
    Emits env p (fun _ tr => Remaining t ((desc, isWarmup) :: events) tr) (markPrepared call (some t)) []
      (fun sc tr => Flags (captureKind isWarmup) sc ∧ Remaining t events tr) := by
  apply emits_of_ok
  intro s _ hs
  obtain ⟨trackers, hremaining, hconsume⟩ := consume_run hs
  refine ⟨{ s with trackers := trackers, sidecar := { s.sidecar with
    isWarmup := isWarmup, isGraphCapturing := !isWarmup, isGraphReplaying := false } }, ?_, rfl,
    (List.append_nil _).symm, ?_, hremaining⟩
  · unfold markPrepared
    dsimp only
    rw [hreqs, htokens, hslices, bind_of_ok hconsume]
    rfl
  · cases isWarmup <;> exact ⟨rfl, rfl, rfl⟩

/-- `prepare_inputs_to_capture` announces the next capture event. -/
theorem emits_prepareInputsToCapture (hplane : env.hasControlPlane = true) {t id : Nat}
    {desc : BatchExecutionDescriptor} {events : List (BatchExecutionDescriptor × Bool)}
    (hp : p.prepareInputsToCapture = .afd t (.native id)) (hone : desc.numUbatches = 1)
    (isWarmup : Bool) :
    Emits env p (fun _ tr => Remaining t ((desc, isWarmup) :: events) tr)
      ((Prog.prepareInputsToCapture desc.numReqs desc.numTokens .done).run env)
      [.control ((captureKind isWarmup).payload (graphStages env desc.numTokens))]
      (fun sc tr => (sc.pendingMetadata.isSome ∧ sc.suppressMetadataSend = true) ∧
        Remaining t events tr) := by
  have hsend : Emits env p
      (fun sc tr => (Flags (captureKind isWarmup) sc ∧ sc.pendingMetadata.isSome) ∧ Remaining t events tr)
      (sendDpMetadata env (some (buildCaptureDpMetadata env.dpSize desc.numTokens)) [] >>= fun _ =>
        Eff.modify fun r => { r with sidecar := { r.sidecar with suppressMetadataSend := true } })
      ([.control ((captureKind isWarmup).payload (graphStages env desc.numTokens))] ++ [])
      (fun sc tr => (sc.pendingMetadata.isSome ∧ sc.suppressMetadataSend = true) ∧
          Remaining t events tr) := by
    apply emits_bind
    · apply emits_sendDpMetadata hplane
      intro sc _ hsc
      exact ⟨dpMetadataList_some _ _, hsc.1.1⟩
    · apply emits_of_ok
      intro s _ hs
      exact ⟨_, rfl, rfl, (List.append_nil _).symm, ⟨hs.1.2, rfl⟩, hs.2⟩
  apply emits_step _ _ _ hsend
  intro s hs hremaining
  obtain ⟨trackers, hrest, hconsume⟩ := consume_run hremaining
  rw [hone] at hconsume
  refine ⟨{ s with
    trackers := trackers
    transactionCounter := s.transactionCounter + 1
    sidecar := { s.sidecar with
      isWarmup := isWarmup
      isGraphCapturing := !isWarmup
      isGraphReplaying := false
      pendingMetadata := some (afdMetadata s.transactionCounter [] desc.numTokens) } }, ?_, rfl, rfl,
        ⟨?_, rfl⟩, hrest⟩
  · rw [Prog.run, read_bind, hs, hp]
    change (consume t desc.numReqs desc.numTokens 1 >>= _) s = _
    rw [bind_of_ok hconsume]
    unfold setCaptureEvent
    rw [modify_bind, buildAfdMetadata_bind, modify_bind]
    dsimp only
    rw [hs]
  · cases isWarmup <;> exact ⟨rfl, rfl, rfl⟩

/-- One forward of a capture announces the next event, then exchanges. -/
theorem emits_captureForward (hplane : env.hasControlPlane = true) {t id id' : Nat} (original : Prepare)
    (hinputs : p.prepareInputsToCapture = .afd t (.native id))
    (hctx : p.createForwardContext = .withAfd (.native id'))
    {exchanges : BatchExecutionDescriptor → Nat} {ctx : BatchExecutionDescriptor → ForwardContext}
    {call : BatchExecutionDescriptor → UBatchCall} {desc : BatchExecutionDescriptor}
    (hprepare : desc.numUbatches ≠ 1 → p.boundPrepare = .afd (some t) original ∧ original.Plain ∧
      (call desc).Splits env ∧ (call desc).slices.length = desc.numUbatches ∧
      (call desc).numReqs = desc.numReqs ∧ (call desc).numTokensAfterPadding = desc.numTokens)
    (isWarmup : Bool) (events : List (BatchExecutionDescriptor × Bool)) :
    Emits env p (fun _ tr => Remaining t ((desc, isWarmup) :: events) tr)
      ((Prog.captureForward exchanges ctx call desc).run env)
      (announce ((captureKind isWarmup).payload (captureStages env call desc)) (exchanges desc))
      (fun _ tr => Remaining t events tr) := by
  unfold Prog.captureForward captureStages
  split
  · rename_i hone
    have hcontext : Emits env p
        (fun sc tr => (sc.pendingMetadata.isSome ∧ sc.suppressMetadataSend = true) ∧ Remaining t events tr)
        ((Prog.createForwardContext (ctx desc) .done).run env) [] _ :=
      emits_createForwardContext hctx (emits_suppressed (ctx desc) fun _ _ h => h.1)
    have hforward : Emits env p _
        ((Prog.seq (.createForwardContext (ctx desc) .done) (.exchanges (exchanges desc))).run env) _ _ :=
      emits_bind [] _ hcontext (emits_exchanges (exchanges desc))
    have hannounced := emits_bind [_] _ (emits_prepareInputsToCapture hplane hinputs hone isWarmup) hforward
    exact hannounced.mono fun _ _ h => h.2
  · rename_i hmany
    obtain ⟨hp, hplain, hsplit, hslices, hreqs, htokens⟩ := hprepare hmany
    have hstages := emits_prepare hp hplain hsplit (emits_markCaptured hreqs htokens hslices)
      (emits_announceStages hplane hsplit (captureKind isWarmup) (Remaining t events))
    exact (emits_bind [_] _ hstages (emits_exchanges (exchanges desc))).mono fun _ _ h => h.2

/-- Native capture announces each descriptor as one warmup and one capture, by
induction on the descriptors. -/
theorem emits_captureAll {t : Nat} {forward : BatchExecutionDescriptor → Prog}
    {announced : BatchExecutionDescriptor → Bool → List Event} (descs : List BatchExecutionDescriptor)
    (hforward : ∀ desc ∈ descs, ∀ isWarmup events,
      Emits env p (fun _ tr => Remaining t ((desc, isWarmup) :: events) tr) ((forward desc).run env)
      (announced desc isWarmup) (fun _ tr => Remaining t events tr)) :
    Emits env p (fun _ tr => Remaining t (CaptureEventTracker.new descs).expectedEvents tr)
      ((Prog.captureAll forward descs).run env)
      (descs.flatMap fun desc => announced desc true ++ announced desc false)
        (fun _ tr => Remaining t [] tr) := by
  induction descs with
  | nil => exact emits_pure
  | cons desc rest ih =>
    have hrest := ih fun d hd => hforward d (List.mem_cons_of_mem desc hd)
    have hdesc := hforward desc List.mem_cons_self
    rw [List.flatMap_cons, List.append_assoc]
    exact emits_bind _ _ (hdesc true _) (emits_bind _ _ (hdesc false _) hrest)

/-- The scope of a capture saves and restores the side fields. -/
theorem emits_sidecarScope {T : List CaptureEventTracker → Prop} {post : Cond} {body : M Unit}
    {es : List Event} (hbody : Emits env p (fun _ tr => T tr) body es post) :
    Emits env p (fun sc tr => Clean sc tr ∧ T tr)
      (scope Runner.sidecar id (fun previous => Eff.modify fun r => { r with sidecar := previous })
        body) es Clean := by
  apply emits_scope hbody
  · intro s hs hpre
    exact ⟨hs, rfl, hpre.2⟩
  · intro s t _ hpre ht
    exact ⟨_, rfl, ht, rfl, fun _ => hpre.1⟩

/-- A capture announces its descriptors and leaves the runner clean. -/
theorem emits_capture (hplane : env.hasControlPlane = true) (hp : p.Unpatched)
    (exchanges : BatchExecutionDescriptor → Nat) (ctx : BatchExecutionDescriptor → ForwardContext)
    (call : BatchExecutionDescriptor → UBatchCall) (h : (Call.capture exchanges ctx call).Possible env) :
    Emits env p Clean (((Call.capture exchanges ctx call).prog env).run env)
      ((Call.capture exchanges ctx call).events env) Clean := by
  obtain ⟨hmanager, hne, hdescs⟩ := h
  obtain ⟨id, hinputs⟩ := hp.prepareInputsToCapture
  obtain ⟨id', hctx⟩ := hp.createForwardContext
  obtain ⟨id'', hprepare⟩ := hp.prepare
  intro s hs hclean
  -- the tracker of this capture is the next one
  let t := s.trackers.length
  let inner : Patches :=
    preparing env (some t) { p with prepareInputsToCapture := .afd t p.prepareInputsToCapture }
  let inside : Patches := { inner with createForwardContext := .withAfd inner.createForwardContext }
  have hforward : ∀ desc ∈ env.fullCaptureDescs, ∀ isWarmup events,
      Emits env inside (fun _ tr => Remaining t ((desc, isWarmup) :: events) tr)
        ((Prog.captureForward exchanges ctx call desc).run env)
        (announce ((captureKind isWarmup).payload (captureStages env call desc)) (exchanges desc))
        (fun _ tr => Remaining t events tr) := by
    intro desc hdesc isWarmup events
    have hinputs' : inside.prepareInputsToCapture = .afd t (.native id) := by
      change inner.prepareInputsToCapture = _
      rw [preparing_prepareInputsToCapture, ← hinputs]
    have hctx' : inside.createForwardContext = .withAfd (.native id') := by
      change CreateForwardContext.withAfd inner.createForwardContext = _
      rw [preparing_createForwardContext, ← hctx]
    by_cases hone : desc.numUbatches = 1
    · apply emits_captureForward hplane (.native 0) hinputs' hctx'
      exact fun hmany => absurd hone hmany
    · have hcall := (hdescs desc hdesc).2 hone
      have hbound : ({ p with prepareInputsToCapture := .afd t p.prepareInputsToCapture } :
        Patches).boundPrepare = .native id'' := hprepare
      obtain ⟨original, horiginal, hplain⟩ := preparing_prepare (some t) hcall.1.runner id'' hbound
      apply emits_captureForward hplane original hinputs' hctx'
      exact fun _ => ⟨horiginal, hplain, hcall⟩
  have hnative :
      Emits env inner
      (fun _ tr => Remaining t (CaptureEventTracker.new env.fullCaptureDescs).expectedEvents tr)
      (useAfdMetadataProvider
        ((Prog.captureAll (.captureForward exchanges ctx call) env.fullCaptureDescs).run env))
      ((Call.capture exchanges ctx call).events env) (fun _ tr => Remaining t [] tr) :=
    emits_withGlobal (emits_captureAll env.fullCaptureDescs hforward)
  have hcomplete : Emits env inner (fun _ tr => Remaining t [] tr) (assertComplete t) []
      (fun _ _ => True) := by
    apply emits_of_ok
    intro r _ hr
    exact ⟨r, assertComplete_run hr, rfl, (List.append_nil _).symm, trivial⟩
  have hbody : Emits env p
      (fun _ tr => Remaining t (CaptureEventTracker.new env.fullCaptureDescs).expectedEvents tr)
      (useAfdCaptureInputPreparation t (useAfdUbatchPreparation env (some t) (do
        useAfdMetadataProvider
          ((Prog.captureAll (.captureForward exchanges ctx call) env.fullCaptureDescs).run env)
        assertComplete t))) _ (fun _ _ => True) :=
    emits_withGlobal (emits_useAfdUbatchPreparation (emits_bind _ [] hnative hcomplete))
  rw [List.append_nil] at hbody
  have hscope := emits_sidecarScope hbody
  have hout := hscope { s with trackers := s.trackers ++ [.new env.fullCaptureDescs] } hs ⟨hclean, ?_⟩
  · rw [Call.prog, Prog.run, captureModel, if_neg (by simp [hmanager]), if_neg hne, if_neg ?_,
      read_bind, modify_bind]
    · exact ⟨hout.patches, hout.log, hout.done, hout.total⟩
    · rintro ⟨desc, hdesc, hmode⟩
      exact hmode (hdescs desc hdesc).1
  · exact ⟨.new env.fullCaptureDescs, by simp [t], rfl, Nat.zero_le _⟩

end Captures

/-! ## The tracker of a capture -/

section Tracker
open Eff

/-- All events of the tracker have been consumed. -/
def Consumed (t : Nat) (r : Runner) : Prop := (r.tracker t).eventIndex = (r.tracker t).expectedEvents.length

theorem ends_assertComplete (t : Nat) : Ends (Consumed t) (assertComplete t) := by
  intro s u s' h
  rw [assertComplete, read_bind] at h
  split at h
  · cases h
  · rename_i hend
    cases h
    exact not_not.1 hend

/-- What the end of a scope does to the trackers: nothing. -/
def SameTrackers (s t : Runner) : Prop := t.trackers = s.trackers

instance : IsPreorder Runner SameTrackers where
  refl _ := rfl
  trans _ _ _ hst htu := htu.trans hst

theorem SameTrackers.consumed {s s' : Runner} {t : Nat} (h : SameTrackers s s') (hs : Consumed t s) :
    Consumed t s' := by
  have htracker : s'.tracker t = s.tracker t := congrArg (·.getD t (.new [])) h
  rw [Consumed, htracker]
  exact hs

theorem sameTrackers_restoreEntry {V : Type} (f : Field Patches (Option V)) (name : String)
    (previous : Option V) :
    Within SameTrackers (restoreEntry f name previous) := by
  cases previous with
  | some v => exact within_modify fun _ => rfl
  | none =>
    exact within_bind (within_read _) fun _ => within_ite (within_raise _) (within_modify fun _ => rfl)

theorem sameTrackers_restoreV4Callables
    (previous : Option V4Callable × Option Prepare × Option V4Callable) :
    Within SameTrackers (restoreV4Callables previous) := by
  refine within_bind (sameTrackers_restoreEntry _ _ _) fun _ => ?_
  exact within_bind (sameTrackers_restoreEntry _ _ _) fun _ => sameTrackers_restoreEntry _ _ _

theorem ends_withGlobal {V : Type} {t : Nat} {f : Field Patches V} {v : Patches → V} {body : M Unit}
    (hbody : Ends (Consumed t) body) : Ends (Consumed t) (withGlobal f v body) :=
  ends_scope hbody fun _ _ h => h

theorem ends_useAfdUbatchPreparation {env : Env} {t : Nat} {tracker : Option Nat} {body : M Unit}
    (hbody : Ends (Consumed t) body) : Ends (Consumed t) (useAfdUbatchPreparation env tracker body) := by
  unfold useAfdUbatchPreparation
  cases env.numUbatches with
  | none => exact hbody
  | some numUbatches =>
    have hprepared : Ends (Consumed t) (scope (getPatch Patches.prepareField)
        (fun r => setPatch Patches.prepareField (some (.afd tracker r.patches.boundPrepare)) r)
        (restoreEntry Patches.prepareField "prepare") body) :=
      ends_scope hbody fun _ s h => (sameTrackers_restoreEntry _ _ _ s).consumed h
    dsimp only
    split
    · refine ends_bind fun _ => ?_
      exact ends_scope hprepared fun previous s h => (sameTrackers_restoreV4Callables previous s).consumed h
    · exact hprepared

/-- Whatever native code does, a capture that ends well has taken each descriptor
as one warmup and then one capture, in order. -/
theorem capture_consumed {env : Env} {native : Prog} {s s' : Runner} {u : Unit}
    (h : captureModel env (native.run env) s = (.ok u, s')) :
    (s'.tracker s.trackers.length).expectedEvents =
      env.fullCaptureDescs.flatMap (fun desc => [(desc, true), (desc, false)]) ∧
    Consumed s.trackers.length s' := by
  rw [captureModel] at h
  split at h
  · cases h
  split at h
  · cases h
  split at h
  · cases h
  rw [read_bind, modify_bind] at h
  have hframe := restored_captureScope env s.trackers.length (frame_run env native)
    { s with trackers := s.trackers ++ [.new env.fullCaptureDescs] }
  refine ⟨?_, ?_⟩
  · rw [h] at hframe
    obtain ⟨later, hlater⟩ := hframe.trackers
    have hexpected : (s'.trackers.map (·.expectedEvents))[s.trackers.length]? =
        some (CaptureEventTracker.new env.fullCaptureDescs).expectedEvents := by
      rw [← hlater, List.getElem?_append_left (by simp)]
      simp
    rw [List.getElem?_map] at hexpected
    obtain ⟨tracker, htracker, hevents⟩ := Option.map_eq_some_iff.1 hexpected
    rw [tracker_eq htracker, hevents]
    rfl
  · refine ends_scope ?_ ?_ _ u s' h
    · exact ends_withGlobal (ends_useAfdUbatchPreparation (ends_bind fun _ => ends_assertComplete _))
    · exact fun _ _ h => h

end Tracker

/-! ## Every call announces itself -/

theorem emits_call {env : Env} {p : Patches} (hplane : env.hasControlPlane = true) (hp : p.Unpatched)
    (call : Call) (h : call.Possible env) :
    Emits env p Clean ((call.prog env).run env) (call.events env) Clean := by
  cases call with
  | execute realTokens work exchanges kv => exact emits_execute hplane hp realTokens work exchanges kv h
  | capture exchanges ctx call => exact emits_capture hplane hp exchanges ctx call h

theorem emits_calls {env : Env} {p : Patches} (hplane : env.hasControlPlane = true) (hp : p.Unpatched)
    (calls : List Call) (h : ∀ call ∈ calls, call.Possible env) :
    Emits env p Clean ((Prog.calls env calls).run env) (calls.flatMap (·.events env)) Clean := by
  induction calls with
  | nil => exact emits_pure
  | cons call rest ih =>
    rw [List.flatMap_cons]
    exact emits_bind _ _ (emits_call hplane hp call (h call List.mem_cons_self))
      (ih fun c hc => h c (List.mem_cons_of_mem call hc))

/-- For every sequence of model transactions of an idle runner: the log grows by
each transaction's control payload, which says what the transaction is, and then
its exchanges, in order. A call that raises leaves a beginning of this; without
faults of the control plane none raises. A capture announces each of its
descriptors as one warmup and then one capture; and whatever native code does, a
capture that ends well has consumed just these events of its tracker. -/
theorem one_payload_per_transaction (env : Env) (hplane : env.hasControlPlane = true) (s : Runner)
    (hs : Idle s) (calls : List Call) (hcalls : ∀ call ∈ calls, call.Possible env) :
    (∃ es, es <+: calls.flatMap (·.events env) ∧ ((Prog.calls env calls).run env s).2.log = s.log ++ es) ∧
    (∀ u, ((Prog.calls env calls).run env s).1 = .ok u →
      ((Prog.calls env calls).run env s).2.log = s.log ++ calls.flatMap (·.events env)) ∧
    ((∀ n, env.controlFault n = none) → ∃ u, ((Prog.calls env calls).run env s).1 = .ok u) ∧
    ∀ (native : Prog) (r r' : Runner) (u : Unit), captureModel env (native.run env) r = (.ok u, r') →
      (r'.tracker r.trackers.length).expectedEvents =
        env.fullCaptureDescs.flatMap (fun desc => [(desc, true), (desc, false)]) ∧
      Consumed r.trackers.length r' := by
  have hout := emits_calls hplane hs.patches calls hcalls s rfl hs.sidecar
  exact ⟨hout.log, fun u hu => (hout.done u hu).1, hout.total, fun _ _ _ _ h => capture_consumed h⟩

/-- A runner with two micro-batches, and graphs for one stage and for two. -/
def smallEnv : Env := {
  numUbatches := some 2
  fullDecodeOnly := true
  captureDescs := [⟨.full, 8, 1, 1⟩, ⟨.full, 8, 2, 2⟩] }

/-- Two micro-batches of four tokens. -/
def twoStages (cgMode : CUDAGraphMode) : UBatchCall :=
  { numReqs := 2, numTokens := 7, numTokensAfterPadding := 8, cgMode := cgMode,
    slices := [⟨0, 4, 0⟩, ⟨4, 4, 1⟩], numForwardContexts := 2 }

def smallCalls : List Call := [
  .capture (fun _ => 1) (fun _ => {}) (fun _ => twoStages .full),
  .execute 3 (.eager { batchDescriptor := some 3 } 3) 2 [{ hasAttnMetadata := false }],
  .execute 5 (.replay ⟨.full, 8, 1, 1⟩) 2 [],
  .execute 7 (.ubatchEager (twoStages .none)) 2 [],
  .execute 7 (.ubatchReplay (twoStages .full) ⟨.full, 8, 2, 2⟩) 2 []]

theorem twoStages_splits (cgMode : CUDAGraphMode) : (twoStages cgMode).Splits smallEnv :=
  ⟨rfl, Nat.one_lt_two, rfl⟩

theorem smallCalls_possible : ∀ call ∈ smallCalls, call.Possible smallEnv := by
  simp only [smallCalls, List.mem_cons, List.not_mem_nil, or_false]
  rintro call (rfl | rfl | rfl | rfl | rfl)
  · refine ⟨rfl, by decide, ?_⟩
    intro desc hdesc
    have hdescs : desc = ⟨.full, 8, 1, 1⟩ ∨ desc = ⟨.full, 8, 2, 2⟩ := by
      simpa [Env.fullCaptureDescs, smallEnv] using hdesc
    obtain rfl | rfl := hdescs
    · exact ⟨rfl, fun h => absurd rfl h⟩
    · exact ⟨rfl, fun _ => ⟨twoStages_splits .full, rfl, rfl, rfl⟩⟩
  · refine ⟨⟨rfl, rfl, Or.inr (Or.inl rfl)⟩, ?_⟩
    intro ctx hctx
    rw [List.mem_singleton.1 hctx]
    exact ⟨rfl, rfl⟩
  · exact ⟨⟨rfl, rfl, Nat.le_refl 1⟩, fun ctx hctx => by cases hctx⟩
  · exact ⟨⟨twoStages_splits .none, by decide⟩, fun ctx hctx => by cases hctx⟩
  · exact ⟨⟨twoStages_splits .full, rfl, rfl, rfl, rfl⟩, fun ctx hctx => by cases hctx⟩

theorem one_payload_small : ((Prog.calls smallEnv smallCalls).run smallEnv {}).2.log =
    smallCalls.flatMap (·.events smallEnv) := by
  have hidle : Idle {} := ⟨rfl, ⟨rfl, ⟨0, rfl⟩, ⟨0, rfl⟩, ⟨0, rfl⟩, ⟨0, rfl⟩⟩⟩
  obtain ⟨_, hdone, htotal, _⟩ :=
    one_payload_per_transaction smallEnv rfl {} hidle smallCalls smallCalls_possible
  obtain ⟨u, hu⟩ := htotal fun _ => rfl
  exact hdone u hu

end AfdPlugin.AttentionRunner
