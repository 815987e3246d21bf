import AfdPlugin.Lib.Fallible
/-!
# Microbatch dispatch without data parallelism

vLLM decides on microbatches only when it synchronises data-parallel ranks. The
patched dispatch decides locally for one rank: the native thresholds, then a
microbatched graph, unless its size would leave the second microbatch without
real tokens, otherwise two eager microbatches.
-/

namespace AfdPlugin.Mrv2Dispatch

inductive CUDAGraphMode where
  | none
  | piecewise
  | full
  deriving DecidableEq, Repr

structure BatchExecutionDescriptor where
  cgMode : CUDAGraphMode
  numTokens : Nat
  numReqs : Option Nat
  uniformTokenCount : Option Nat := .none
  maxQueryLen : Option Nat := .none
  numActiveLoras : Nat := 0
  numUbatches : Nat := 1
  deriving DecidableEq, Repr

structure DPSyncState where
  numTokensAcrossDp : List Nat
  uniformTokenCount : Option Nat
  eager : Bool
  deriving DecidableEq, Repr

/-- The arguments of `CudaGraphManager.dispatch`. -/
structure ManagerCall where
  numReqs : Nat
  numTokens : Nat
  uniformTokenCount : Option Nat
  numActiveLoras : Nat
  maxQueryLen : Option Nat := .none
  numUbatches : Nat := 1

abbrev Manager := ManagerCall → BatchExecutionDescriptor

/-- The arguments of `dispatch_cg_and_sync_dp`. -/
structure Batch (Config : Type) where
  cudagraphManager : Option Manager
  numReqs : Nat
  numTokens : Nat
  uniformTokenCount : Option Nat
  dpSize : Nat
  dpRank : Nat
  maxQueryLen : Option Nat := .none
  needEager : Bool := false
  numActiveLoras : Nat := 0
  parallelConfig : Option Config := .none
  allowUbatching : Bool := false
  uniformDecode : Bool := false
  dpSyncState : Option DPSyncState := .none

/-- vLLM's own functions. -/
structure Native (Config : Type) where
  getNumUbatches : Config → Nat
  checkUbatchThresholds : Config → Nat → Bool → Bool
  syncCudagraphAndDpPadding : Batch Config → BatchExecutionDescriptor →
    Except String (BatchExecutionDescriptor × Option DPSyncState)

section Dispatch
variable {Config : Type} (native : Native Config) (b : Batch Config)

def reuseEager : Bool :=
  match b.dpSyncState with
  | some sync => sync.eager
  | none => false

/-- No graph is looked up. -/
def eager : Bool := b.needEager || reuseEager b

def eagerDesc (numUbatches : Nat) : BatchExecutionDescriptor where
  cgMode := .none
  numTokens := b.numTokens
  numReqs := some b.numReqs
  numActiveLoras := b.numActiveLoras
  numUbatches := numUbatches

/-- `batch_desc`. -/
def batchDesc : Except String BatchExecutionDescriptor :=
  if eager b then .ok (eagerDesc b 1)
  else
    match b.cudagraphManager with
    | none =>
      .error "cudagraph_manager should only be None during profile run, where need_eager must be True"
    | some manager => .ok (manager {
        numReqs := b.numReqs
        numTokens := b.numTokens
        uniformTokenCount :=
          match b.dpSyncState with
          | some sync => sync.uniformTokenCount
          | none => b.uniformTokenCount
        numActiveLoras := b.numActiveLoras
        maxQueryLen := b.maxQueryLen })

/-- The batch is split: the thresholds hold and every microbatch can have a token. -/
def eligible (config : Config) : Bool :=
  b.allowUbatching && decide (native.getNumUbatches config ≤ b.numTokens) &&
    native.checkUbatchThresholds config b.numTokens b.uniformDecode

/-- The microbatched graph the manager offers. -/
def candidate (manager : Manager) (numUbatches : Nat) : BatchExecutionDescriptor :=
  manager {
    numReqs := b.numReqs
    numTokens := b.numTokens
    uniformTokenCount := b.uniformTokenCount
    numActiveLoras := b.numActiveLoras
    numUbatches := numUbatches }

/-- `ubatch_desc`. -/
def ubatchDesc (numUbatches : Nat) : Except String BatchExecutionDescriptor :=
  if eager b then .ok (eagerDesc b numUbatches)
  else
    match b.cudagraphManager with
    | none => .error "AssertionError"
    | some manager =>
      -- the guard against an empty trailing stage
      if numUbatches * b.numTokens < (candidate b manager numUbatches).numTokens then
        .ok (eagerDesc b numUbatches)
      else .ok (candidate b manager numUbatches)

/-- The part behind `dp_size == 1`. -/
def dispatchLocal (desc : BatchExecutionDescriptor) : Except String BatchExecutionDescriptor :=
  match b.parallelConfig with
  | some config =>
    if eligible native b config then ubatchDesc b (native.getNumUbatches config) else .ok desc
  | none => .ok desc

/-- The reuse of an earlier agreement. -/
def reuseSync (desc : BatchExecutionDescriptor) (sync : DPSyncState) :
    Except String (BatchExecutionDescriptor × Option DPSyncState) :=
  if sync.numTokensAcrossDp[b.dpRank]? ≠ some b.numTokens then
    .error "reusing a DP sync taken over a different batch"
  else if ¬(sync.uniformTokenCount = none ∨ b.uniformTokenCount = sync.uniformTokenCount) then
    .error "reusing a DP sync taken over a different batch"
  else if !sync.eager && desc.numTokens ≠ b.numTokens then
    .ok (desc, some { sync with numTokensAcrossDp := sync.numTokensAcrossDp.map fun _ => desc.numTokens })
  else .ok (desc, some sync)

def dispatchCgAndSyncDp : Except String (BatchExecutionDescriptor × Option DPSyncState) := do
  let desc ← batchDesc b
  if b.dpSize = 1 then return (← dispatchLocal native b desc, none)
  else
    match b.dpSyncState with
    | some sync => reuseSync b desc sync
    | none => native.syncCudagraphAndDpPadding b desc

end Dispatch

/-! ## Stages without real tokens -/

/-- Both halves of the padded batch hold one of the `numTokens` real tokens;
`split` is where the native slicing cuts. -/
structure BothStagesReal (split : Nat → Nat) (numTokens padded : Nat) : Prop where
  first : ∃ t < numTokens, t < split padded
  second : ∃ t < numTokens, split padded ≤ t ∧ t < padded

theorem bothStagesReal_iff {split : Nat → Nat} (hsplit : ∀ padded, split padded = padded / 2)
    {numTokens padded : Nat} (htwo : 2 ≤ numTokens) (hpad : numTokens ≤ padded)
    (hguard : ¬2 * numTokens < padded) :
    BothStagesReal split numTokens padded ↔ padded ≠ 2 * numTokens := by
  have hcut := hsplit padded
  constructor
  · rintro ⟨-, t, ht, hle, -⟩ rfl
    omega
  · intro hne
    exact ⟨⟨0, by omega, by omega⟩, ⟨padded / 2, by omega, by omega, by omega⟩⟩

section Stages
variable {Config : Type} (native : Native Config) (b : Batch Config)

/-- Microbatching means two microbatches, and a graph has at least the tokens
of its batch and as many microbatches as asked for. -/
structure TwoMicrobatches : Prop where
  count : ∀ config, b.parallelConfig = some config →
    native.checkUbatchThresholds config b.numTokens b.uniformDecode = true →
      native.getNumUbatches config = 2
  graph : ∀ manager, b.cudagraphManager = some manager → ∀ call,
    (manager call).numUbatches = call.numUbatches ∧ call.numTokens ≤ (manager call).numTokens

/-- The real tokens end where the graph the manager offers is cut. -/
structure EndsAtSplit : Prop where
  lookup : eager b = false
  split : ∃ config, b.parallelConfig = some config ∧ eligible native b config = true
  size : ∃ manager, b.cudagraphManager = some manager ∧ (candidate b manager 2).numTokens = 2 * b.numTokens

variable {native b}

/-- What `batch_desc` is made of is not microbatched. -/
theorem numUbatches_batchDesc (h : TwoMicrobatches native b) {desc : BatchExecutionDescriptor}
    (hdesc : batchDesc b = .ok desc) : desc.numUbatches = 1 := by
  unfold batchDesc at hdesc
  split at hdesc
  · cases hdesc
    rfl
  split at hdesc
  · cases hdesc
  · rename_i manager hmanager
    cases hdesc
    exact (h.graph manager hmanager _).1

/-- The descriptor a split batch runs with. -/
theorem ubatchDesc_spec (h : TwoMicrobatches native b) (htwo : 2 ≤ b.numTokens) {split : Nat → Nat}
    (hsplit : ∀ padded, split padded = padded / 2) {desc : BatchExecutionDescriptor}
    (hdesc : ubatchDesc b 2 = .ok desc) :
    desc.numUbatches = 2 ∧ (BothStagesReal split b.numTokens desc.numTokens ↔
      ¬(eager b = false ∧ ∃ manager, b.cudagraphManager = some manager ∧
        (candidate b manager 2).numTokens = 2 * b.numTokens)) := by
  -- an eager pair is cut in the middle of its real tokens
  have heager : BothStagesReal split b.numTokens b.numTokens :=
    (bothStagesReal_iff hsplit htwo le_rfl (by omega)).2 (by omega)
  unfold ubatchDesc at hdesc
  split at hdesc
  · rename_i hlookup
    cases hdesc
    exact ⟨rfl, ⟨fun _ hend => by simp [hlookup] at hend, fun _ => heager⟩⟩
  · rename_i hlookup
    split at hdesc
    · cases hdesc
    · rename_i manager hmanager
      obtain ⟨hub, hpad⟩ := h.graph manager hmanager ⟨b.numReqs, b.numTokens, b.uniformTokenCount,
        b.numActiveLoras, none, 2⟩
      change (candidate b manager 2).numUbatches = 2 at hub
      change b.numTokens ≤ (candidate b manager 2).numTokens at hpad
      split at hdesc
      · rename_i hguard
        cases hdesc
        refine ⟨rfl, fun _ => ?_, fun _ => heager⟩
        rintro ⟨-, manager', hmanager', hsize⟩
        obtain rfl := Option.some.inj (hmanager.symm.trans hmanager')
        omega
      · rename_i hguard
        cases hdesc
        refine ⟨hub, (bothStagesReal_iff hsplit htwo hpad hguard).trans ⟨?_, ?_⟩⟩
        · rintro hne ⟨-, manager', hmanager', hsize⟩
          obtain rfl := Option.some.inj (hmanager.symm.trans hmanager')
          exact hne hsize
        · intro hend hsize
          exact hend ⟨by simpa using hlookup, manager, hmanager, hsize⟩

/-- A microbatched descriptor has a real token in both stages, unless the real
tokens end where the graph is cut. -/
theorem dispatch_stages_real_iff (h : TwoMicrobatches native b) (hdp : b.dpSize = 1) {split : Nat → Nat}
    (hsplit : ∀ padded, split padded = padded / 2) {desc : BatchExecutionDescriptor}
    {sync : Option DPSyncState} (hok : dispatchCgAndSyncDp native b = .ok (desc, sync)) :
    (1 < desc.numUbatches → BothStagesReal split b.numTokens desc.numTokens) ↔ ¬EndsAtSplit native b := by
  obtain ⟨base, hbase, hrest⟩ := Fallible.bind_eq_ok.1 hok
  have hone := numUbatches_batchDesc h hbase
  rw [if_pos hdp] at hrest
  obtain ⟨chosen, hchosen, hret⟩ := Fallible.bind_eq_ok.1 hrest
  cases hret
  unfold dispatchLocal at hchosen
  split at hchosen
  · rename_i config hconfig
    split at hchosen
    · rename_i helig
      -- split: the thresholds hold, so there are two microbatches and a token for each
      have hparts := helig
      simp only [eligible, Bool.and_eq_true, decide_eq_true_eq] at hparts
      have hcount := h.count config hconfig hparts.2
      rw [hcount] at hchosen hparts
      obtain ⟨hub, hiff⟩ := ubatchDesc_spec h hparts.1.2 hsplit hchosen
      constructor
      · rintro hreal ⟨hlookup, -, hsize⟩
        exact hiff.1 (hreal (by omega)) ⟨hlookup, hsize⟩
      · intro hend _
        exact hiff.2 fun hboth => hend ⟨hboth.1, ⟨config, hconfig, helig⟩, hboth.2⟩
    · rename_i helig
      cases hchosen
      refine ⟨fun _ hend => ?_, fun _ hub => by omega⟩
      obtain ⟨config', hconfig', helig'⟩ := hend.split
      obtain rfl := Option.some.inj (hconfig.symm.trans hconfig')
      exact helig helig'
  · rename_i hconfig
    cases hchosen
    refine ⟨fun _ hend => ?_, fun _ hub => by omega⟩
    obtain ⟨config, hsome, -⟩ := hend.split
    rw [hconfig] at hsome
    cases hsome

end Stages

/-! ### Eight and nine decode tokens against a graph of sixteen -/

/-- Two microbatches from two tokens on. -/
def decodeNative : Native Unit where
  getNumUbatches _ := 2
  checkUbatchThresholds _ numTokens _ := 2 ≤ numTokens
  syncCudagraphAndDpPadding _ desc := .ok (desc, none)

/-- A manager with one graph, for `size` tokens. -/
def graphManager (size : Nat) : Manager := fun call =>
  { cgMode := if call.numTokens ≤ size then .full else .none
    numTokens := if call.numTokens ≤ size then size else call.numTokens
    numReqs := some call.numReqs
    numUbatches := call.numUbatches }

def decodeBatch (numTokens : Nat) : Batch Unit where
  cudagraphManager := some (graphManager 16)
  numReqs := numTokens
  numTokens := numTokens
  uniformTokenCount := some 1
  dpSize := 1
  dpRank := 0
  parallelConfig := some ()
  allowUbatching := true
  uniformDecode := true

theorem decode_twoMicrobatches (numTokens : Nat) :
    TwoMicrobatches decodeNative (decodeBatch numTokens) where
  count _ _ _ := rfl
  graph manager hmanager call := by
    cases hmanager
    refine ⟨rfl, ?_⟩
    simp only [graphManager]
    split <;> omega

theorem dispatch_stages_real_nine : ∃ desc sync,
    dispatchCgAndSyncDp decodeNative (decodeBatch 9) = .ok (desc, sync) ∧ desc.numTokens = 16 ∧
      BothStagesReal (· / 2) 9 desc.numTokens := by
  have hok : dispatchCgAndSyncDp decodeNative (decodeBatch 9) =
      .ok (⟨.full, 16, some 9, none, none, 0, 2⟩, none) := by decide
  refine ⟨_, _, hok, rfl, ?_⟩
  refine (dispatch_stages_real_iff (decode_twoMicrobatches 9) rfl (fun _ => rfl) hok).2 ?_ (by decide)
  rintro ⟨-, -, manager, hmanager, hsize⟩
  cases hmanager
  exact absurd hsize (by decide)

/-- Eight real tokens in a graph of sixteen: the second stage is padding. -/
theorem dispatch_padding_only : ∃ desc sync,
    dispatchCgAndSyncDp decodeNative (decodeBatch 8) = .ok (desc, sync) ∧ 1 < desc.numUbatches ∧
      ¬BothStagesReal (· / 2) 8 desc.numTokens := by
  refine ⟨⟨.full, 16, some 8, none, none, 0, 2⟩, none, by decide, by decide, ?_⟩
  rintro ⟨-, t, ht, hcut, -⟩
  simp only at hcut
  omega

end AfdPlugin.Mrv2Dispatch
