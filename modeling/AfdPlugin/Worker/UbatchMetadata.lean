import AfdPlugin.Lib.Dict
import AfdPlugin.Lib.Scopes
import Mathlib
/-!
# Metadata of prepared microbatches

Before the microbatch threads start, every prepared forward context gets a copy
of the transaction's metadata that holds its own stage only. Objects live in a
heap, so that a copy and what it shares with others can be told apart.
-/

namespace AfdPlugin.UbatchMetadata

/-- A native slice: its tokens and its first request. -/
structure UBatchSlice where
  tokenStart : Nat
  tokenStop : Nat
  requestStart : Nat
  deriving DecidableEq, Repr

def UBatchSlice.numTokens (ub : UBatchSlice) : Nat := ub.tokenStop - ub.tokenStart

/-- `AFDForwardContextMetadata`; a list field is a reference. -/
structure ForwardContextMetadata where
  tokensStartLoc : Nat
  requestsStartLoc : Nat
  stageIdx : Nat
  connector : Nat
  tokensLens : Nat
  numStages : Nat
  transactionId : String
  tokensUnpaddedLens : Nat
  deriving DecidableEq, Repr

inductive Value where
  | metadata (r : Nat)
  | other (n : Nat)
  deriving DecidableEq, Repr

inductive Obj where
  | ints (l : List Int)
  | metadata (m : ForwardContextMetadata)
  | kwargs (d : Dict String Value)
  | context (additionalKwargs : Option Nat)
  deriving DecidableEq

structure World where
  heap : List Obj
  connector : Nat
  afdTransactionCounter : Nat
  afdPendingMetadata : Option Nat
  afdSuppressMetadataSend : Bool

abbrev Code (A : Type) := Eff World String A

/-! ## Objects -/

def alloc (o : Obj) : Code Nat := fun w => (.ok w.heap.length, { w with heap := w.heap ++ [o] })

def store (r : Nat) (o : Obj) : Code Unit := Eff.modify fun w => { w with heap := w.heap.set r o }

def ints (r : Nat) : Code (List Int) := fun w =>
  match w.heap[r]? with
  | some (.ints l) => (.ok l, w)
  | _ => (.error "TypeError", w)

def metadataAt (r : Nat) : Code ForwardContextMetadata := fun w =>
  match w.heap[r]? with
  | some (.metadata m) => (.ok m, w)
  | _ => (.error "TypeError", w)

/-- `context.additional_kwargs`. -/
def additionalKwargs (r : Nat) : Code (Option Nat) := fun w =>
  match w.heap[r]? with
  | some (.context kwargs) => (.ok kwargs, w)
  | _ => (.error "TypeError", w)

/-- `dict(kwargs or {})`. -/
def copyKwargs (kwargs : Option Nat) : Code (Dict String Value) := fun w =>
  match kwargs with
  | none => (.ok ∅, w)
  | some r =>
    match w.heap[r]? with
    | some (.kwargs d) => (.ok d, w)
    | _ => (.error "TypeError", w)

/-- `list(l)`. -/
def copyList (r : Nat) : Code Nat := do alloc (.ints (← ints r))

/-- `[l[i]]`. -/
def singleton (r i : Nat) : Code Nat := do
  let l ← ints r
  match l[i]? with
  | some x => alloc (.ints [x])
  | none => Eff.raise "IndexError: list index out of range"

/-! ## Installation -/

def nextAfdTransactionId : Code String := fun w =>
  (.ok s!"afd-{w.afdTransactionCounter}", { w with afdTransactionCounter := w.afdTransactionCounter + 1 })

/-- The values of `build_afd_metadata`: per stage, or for the whole batch. -/
def tokensStartLocs (ubatchSlices : List UBatchSlice) : List Int :=
  if 1 < ubatchSlices.length then ubatchSlices.map fun ub => (ub.tokenStart : Int) else [0]

def requestsStartLocs (ubatchSlices : List UBatchSlice) : List Int :=
  if 1 < ubatchSlices.length then ubatchSlices.map fun ub => (ub.requestStart : Int) else [0]

def tokensLensOf (ubatchSlices : List UBatchSlice) (numTokensUnpadded : Nat) : List Int :=
  if 1 < ubatchSlices.length then ubatchSlices.map fun ub => (ub.numTokens : Int)
    else [(numTokensUnpadded : Int)]

def numStagesOf (ubatchSlices : List UBatchSlice) : Nat :=
  if 1 < ubatchSlices.length then ubatchSlices.length else 1

def buildAfdMetadata (ubatchSlices : List UBatchSlice) (numTokensUnpadded : Nat) : Code Nat := do
  let tokensStartLoc ← alloc (.ints (tokensStartLocs ubatchSlices))
  let requestsStartLoc ← alloc (.ints (requestsStartLocs ubatchSlices))
  let tokensLens ← alloc (.ints (tokensLensOf ubatchSlices numTokensUnpadded))
  let tokensUnpaddedLens ← alloc (.ints (tokensLensOf ubatchSlices numTokensUnpadded))
  let transactionId ← nextAfdTransactionId
  let connector ← Eff.read World.connector
  alloc (.metadata {
    tokensStartLoc := tokensStartLoc
    requestsStartLoc := requestsStartLoc
    stageIdx := 0
    connector := connector
    tokensLens := tokensLens
    numStages := numStagesOf ubatchSlices
    transactionId := transactionId
    tokensUnpaddedLens := tokensUnpaddedLens })

/-- `clone`. -/
def clone (r : Nat) : Code Nat := do
  let m ← metadataAt r
  let tokensStartLoc ← copyList m.tokensStartLoc
  let requestsStartLoc ← copyList m.requestsStartLoc
  let tokensLens ← copyList m.tokensLens
  let tokensUnpaddedLens ← copyList m.tokensUnpaddedLens
  alloc (.metadata { m with
    tokensStartLoc := tokensStartLoc
    requestsStartLoc := requestsStartLoc
    tokensLens := tokensLens
    tokensUnpaddedLens := tokensUnpaddedLens })

/-- The intersection of a slice with the real tokens. -/
def unpaddedLen (numTokensUnpadded : Nat) (ub : UBatchSlice) : Int :=
  max 0 (min (ub.tokenStop : Int) numTokensUnpadded - ub.tokenStart)

/-- One turn of the loop over the contexts. -/
def installStage (metadata stageIdx context : Nat) : Code Unit := do
  let stage ← clone metadata
  let parent ← metadataAt metadata
  let tokensStartLoc ← singleton parent.tokensStartLoc stageIdx
  let requestsStartLoc ← singleton parent.requestsStartLoc stageIdx
  let tokensLens ← singleton parent.tokensLens stageIdx
  let tokensUnpaddedLens ← singleton parent.tokensUnpaddedLens stageIdx
  let cloned ← metadataAt stage
  store stage (.metadata { cloned with
    stageIdx := stageIdx
    tokensStartLoc := tokensStartLoc
    requestsStartLoc := requestsStartLoc
    tokensLens := tokensLens
    tokensUnpaddedLens := tokensUnpaddedLens })
  let kwargs ← copyKwargs (← additionalKwargs context)
  let kwargs ← alloc (.kwargs (kwargs.set "afd_metadata" (.metadata stage)))
  store context (.context (some kwargs))

def installStages (metadata : Nat) : Nat → List Nat → Code Unit
  | _, [] => pure ()
  | stageIdx, context :: rest => do
    installStage metadata stageIdx context
    installStages metadata (stageIdx + 1) rest

/-- `install_mrv2_ubatch_metadata`; contexts are references. -/
def installMrv2UbatchMetadata (ubatchSlices : List UBatchSlice) (forwardContexts : List Nat)
    (numTokensUnpadded : Nat) :
    Code Unit :=
  if ubatchSlices.length ≠ forwardContexts.length then Eff.raise "AssertionError"
  else do
    let metadata ← buildAfdMetadata ubatchSlices numTokensUnpadded
    let unpaddedLens ← alloc (.ints (ubatchSlices.map (unpaddedLen numTokensUnpadded)))
    let built ← metadataAt metadata
    store metadata (.metadata { built with tokensUnpaddedLens := unpaddedLens })
    installStages metadata 0 forwardContexts
    Eff.modify fun w => { w with afdPendingMetadata := some metadata, afdSuppressMetadataSend := true }

/-! ## What a context carries -/

/-- The metadata a model reads from a forward context, with the lists read. -/
structure StageView where
  tokensStartLoc : List Int
  requestsStartLoc : List Int
  stageIdx : Nat
  connector : Nat
  tokensLens : List Int
  numStages : Nat
  transactionId : String
  tokensUnpaddedLens : List Int
  deriving DecidableEq, Repr

section View
variable (heap : List Obj)

def intsOf (r : Nat) : Option (List Int) :=
  match heap[r]? with
  | some (.ints l) => some l
  | _ => none

/-- The metadata object of a context and the references on the way to it. -/
def stageMetadata (context : Nat) : Option (Nat × Nat × ForwardContextMetadata) :=
  match heap[context]? with
  | some (.context (some kwargs)) =>
    match heap[kwargs]? with
    | some (.kwargs d) =>
      match d.get? "afd_metadata" with
      | some (.metadata r) =>
        match heap[r]? with
        | some (.metadata m) => some (kwargs, r, m)
        | _ => none
      | _ => none
    | _ => none
  | _ => none

def stageView (context : Nat) : Option StageView := do
  let (_, _, m) ← stageMetadata heap context
  pure {
    tokensStartLoc := ← intsOf heap m.tokensStartLoc
    requestsStartLoc := ← intsOf heap m.requestsStartLoc
    stageIdx := m.stageIdx
    connector := m.connector
    tokensLens := ← intsOf heap m.tokensLens
    numStages := m.numStages
    transactionId := m.transactionId
    tokensUnpaddedLens := ← intsOf heap m.tokensUnpaddedLens }

/-- The objects of a stage's copy: the context, its keyword dictionary, the
metadata and its lists. -/
def owned (context : Nat) : List Nat :=
  match stageMetadata heap context with
  | some (kwargs, r, m) =>
    [context, kwargs, r, m.tokensStartLoc, m.requestsStartLoc, m.tokensLens, m.tokensUnpaddedLens]
  | none => [context]

end View

/-! ## Allocation -/

/-- The world with more objects. -/
def World.push (w : World) (os : List Obj) : World := { w with heap := w.heap ++ os }

section Push
variable {w : World} (os : List Obj)

theorem World.push_nil (w : World) : w.push [] = w := by
  rw [World.push, List.append_nil]

theorem heap_push {r : Nat} {o : Obj} (h : w.heap[r]? = some o) : (w.push os).heap[r]? = some o := by
  have hlt := (List.getElem?_eq_some_iff.1 h).1
  exact (List.getElem?_append_left hlt).trans h

theorem heap_push_new {k : Nat} {o : Obj} (h : os[k]? = some o) :
    (w.push os).heap[w.heap.length + k]? = some o := by
  have hright : (w.heap ++ os)[w.heap.length + k]? = os[k]? := by
    rw [List.getElem?_append_right (Nat.le_add_right _ _), Nat.add_sub_cancel_left]
  exact hright.trans h

theorem alloc_push (o : Obj) :
    alloc o (w.push os) = (.ok (w.heap.length + os.length), w.push (os ++ [o])) := by
  simp [alloc, World.push]

theorem store_push (k : Nat) (o : Obj) :
    store (w.heap.length + k) o (w.push os) = (.ok (), w.push (os.set k o)) := by
  have hset : (w.heap ++ os).set (w.heap.length + k) o = w.heap ++ os.set k o := by
    rw [List.set_append_right _ _ (Nat.le_add_right _ _), Nat.add_sub_cancel_left]
  simp only [store, Eff.modify, World.push, hset]

theorem metadataAt_run {v : World} {r : Nat} {m : ForwardContextMetadata}
    (h : v.heap[r]? = some (.metadata m)) :
    metadataAt r v = (.ok m, v) := by
  simp [metadataAt, h]

theorem ints_run {v : World} {r : Nat} {l : List Int} (h : v.heap[r]? = some (.ints l)) :
    ints r v = (.ok l, v) := by
  simp [ints, h]

theorem copyList_push {r : Nat} {l : List Int} (h : w.heap[r]? = some (.ints l)) :
    copyList r (w.push os) = (.ok (w.heap.length + os.length), w.push (os ++ [.ints l])) := by
  rw [copyList, Eff.bind_of_ok (ints_run (heap_push os h))]
  exact alloc_push os _

theorem singleton_push {r i : Nat} {l : List Int} {x : Int} (h : w.heap[r]? = some (.ints l))
    (hx : l[i]? = some x) :
    singleton r i (w.push os) = (.ok (w.heap.length + os.length), w.push (os ++ [.ints [x]])) := by
  rw [singleton, Eff.bind_of_ok (ints_run (heap_push os h)), hx]
  exact alloc_push os _

end Push

/-! ## The turns of the loop -/

/-- The transaction's metadata as the loop finds it. -/
structure Parent (heap : List Obj) (r : Nat) (m : ForwardContextMetadata)
    (starts reqs lens unpadded : List Int) :
    Prop where
  object : heap[r]? = some (.metadata m)
  starts : heap[m.tokensStartLoc]? = some (.ints starts)
  reqs : heap[m.requestsStartLoc]? = some (.ints reqs)
  lens : heap[m.tokensLens]? = some (.ints lens)
  unpadded : heap[m.tokensUnpaddedLens]? = some (.ints unpadded)

/-- A forward context with or without keyword arguments. -/
def ContextOk (heap : List Obj) (c : Nat) : Prop :=
  ∃ kwargs, heap[c]? = some (.context kwargs) ∧ ∀ r, kwargs = some r → ∃ d, heap[r]? = some (.kwargs d)

/-- A stage's copy on a heap of `n` objects: the clone's lists, the copy and
the lists of its own. -/
def copyObjs (n : Nat) (m : ForwardContextMetadata) (starts reqs lens unpadded : List Int) (i : Nat)
    (a b c d : Int) :
    List Obj :=
  [.ints starts, .ints reqs, .ints lens, .ints unpadded,
    .metadata { m with
      stageIdx := i
      tokensStartLoc := n + 5
      requestsStartLoc := n + 6
      tokensLens := n + 7
      tokensUnpaddedLens := n + 8 },
    .ints [a], .ints [b], .ints [c], .ints [d]]

/-- The keyword dictionary that points to it. -/
def copyKw (n : Nat) (kwargs : Dict String Value) : Obj :=
  .kwargs (kwargs.set "afd_metadata" (.metadata (n + 4)))

section Turn
variable {w : World} {r : Nat} {m : ForwardContextMetadata} {starts reqs lens unpadded : List Int}

theorem clone_run (h : Parent w.heap r m starts reqs lens unpadded) :
    clone r w = (.ok (w.heap.length + 4), w.push [.ints starts, .ints reqs, .ints lens, .ints unpadded,
      .metadata { m with
        tokensStartLoc := w.heap.length
        requestsStartLoc := w.heap.length + 1
        tokensLens := w.heap.length + 2
        tokensUnpaddedLens := w.heap.length + 3 }]) := by
  conv_lhs => rw [← World.push_nil w]
  rw [clone, Eff.bind_of_ok (metadataAt_run (heap_push [] h.object)),
    Eff.bind_of_ok (copyList_push _ h.starts), Eff.bind_of_ok (copyList_push _ h.reqs),
    Eff.bind_of_ok (copyList_push _ h.lens), Eff.bind_of_ok (copyList_push _ h.unpadded)]
  exact alloc_push _ _

theorem copyKwargs_run {v : World} {kwargs : Option Nat}
    (h : ∀ r, kwargs = some r → ∃ d, v.heap[r]? = some (.kwargs d)) :
    ∃ d, copyKwargs kwargs v = (.ok d, v) := by
  cases kwargs with
  | none => exact ⟨∅, rfl⟩
  | some r =>
    obtain ⟨d, hd⟩ := h r rfl
    exact ⟨d, by simp [copyKwargs, hd]⟩

/-- One turn: ten new objects, and the context points to the last of them. -/
theorem installStage_run (h : Parent w.heap r m starts reqs lens unpadded) {i : Nat} {a b c d : Int}
    (ha : starts[i]? = some a) (hb : reqs[i]? = some b) (hc : lens[i]? = some c)
    (hd : unpadded[i]? = some d) {ctx : Nat} (hctx : ContextOk w.heap ctx) :
    ∃ kwargs, installStage r i ctx w = (.ok (), { w with
      heap := w.heap.set ctx (.context (some (w.heap.length + 9))) ++
        (copyObjs w.heap.length m starts reqs lens unpadded i a b c d ++
          [copyKw w.heap.length kwargs]) }) := by
  obtain ⟨kw, hkw, hdict⟩ := hctx
  have hlt := (List.getElem?_eq_some_iff.1 hkw).1
  generalize hcopy : copyObjs w.heap.length m starts reqs lens unpadded i a b c d = copy
  have hlen : copy.length = 9 := by rw [← hcopy]; rfl
  have hget : additionalKwargs ctx (w.push copy) = (.ok kw, w.push copy) := by
    simp [additionalKwargs, heap_push _ hkw]
  obtain ⟨old, hold⟩ := copyKwargs_run (v := w.push copy) fun r hr => (hdict r hr).imp fun _ hobj =>
    heap_push _ hobj
  refine ⟨old, ?_⟩
  rw [installStage, Eff.bind_of_ok (clone_run h), Eff.bind_of_ok (metadataAt_run (heap_push _ h.object)),
    Eff.bind_of_ok (singleton_push _ h.starts ha), Eff.bind_of_ok (singleton_push _ h.reqs hb),
    Eff.bind_of_ok (singleton_push _ h.lens hc), Eff.bind_of_ok (singleton_push _ h.unpadded hd),
    Eff.bind_of_ok (metadataAt_run (heap_push_new _ rfl)), Eff.bind_of_ok (store_push _ 4 _)]
  -- the nine objects so far are the copy
  change (additionalKwargs ctx >>= _)
    (w.push (copyObjs w.heap.length m starts reqs lens unpadded i a b c d)) = _
  rw [hcopy, Eff.bind_of_ok hget, Eff.bind_of_ok hold, Eff.bind_of_ok (alloc_push _ _), hlen]
  have hset : (w.heap ++ (copy ++ [copyKw w.heap.length old])).set ctx
      (.context (some (w.heap.length + 9))) =
      w.heap.set ctx (.context (some (w.heap.length + 9))) ++ (copy ++ [copyKw w.heap.length old]) :=
    List.set_append_left _ _ hlt
  simp only [store, Eff.modify, World.push]
  rw [← hset]
  rfl

end Turn

/-! ## What a turn leaves -/

/-- A stage's copy is in place: the objects from `n` on and the context. -/
structure Placed (heap : List Obj) (ctx n : Nat) (m : ForwardContextMetadata) (i : Nat)
    (a b c d : Int) : Prop where
  context : heap[ctx]? = some (.context (some (n + 9)))
  kwargs : ∃ kwargs, heap[n + 9]? = some (copyKw n kwargs)
  object : heap[n + 4]? = some (.metadata { m with
    stageIdx := i
    tokensStartLoc := n + 5
    requestsStartLoc := n + 6
    tokensLens := n + 7
    tokensUnpaddedLens := n + 8 })
  starts : heap[n + 5]? = some (.ints [a])
  reqs : heap[n + 6]? = some (.ints [b])
  lens : heap[n + 7]? = some (.ints [c])
  unpadded : heap[n + 8]? = some (.ints [d])

section Placed
variable {heap heap' : List Obj} {ctx n : Nat} {m : ForwardContextMetadata} {i : Nat} {a b c d : Int}

theorem Placed.stageMetadata (h : Placed heap ctx n m i a b c d) :
    stageMetadata heap ctx = some (n + 9, n + 4, { m with
    stageIdx := i
    tokensStartLoc := n + 5
    requestsStartLoc := n + 6
    tokensLens := n + 7
    tokensUnpaddedLens := n + 8 }) := by
  obtain ⟨kw, hkw⟩ := h.kwargs
  simp [UbatchMetadata.stageMetadata, h.context, hkw, copyKw, h.object]

theorem Placed.view (h : Placed heap ctx n m i a b c d) : stageView heap ctx = some {
    tokensStartLoc := [a]
    requestsStartLoc := [b]
    stageIdx := i
    connector := m.connector
    tokensLens := [c]
    numStages := m.numStages
    transactionId := m.transactionId
    tokensUnpaddedLens := [d] } := by
  simp [stageView, h.stageMetadata, intsOf, h.starts, h.reqs, h.lens, h.unpadded]

theorem Placed.owned (h : Placed heap ctx n m i a b c d) :
    owned heap ctx = [ctx, n + 9, n + 4, n + 5, n + 6, n + 7, n + 8] := by
  simp [UbatchMetadata.owned, h.stageMetadata]

/-- A copy stays in place when its own objects do. -/
theorem Placed.congr (h : Placed heap ctx n m i a b c d)
    (hsame : ∀ r ∈ [ctx, n + 9, n + 4, n + 5, n + 6, n + 7, n + 8], heap'[r]? = heap[r]?) :
    Placed heap' ctx n m i a b c d where
  context := (hsame ctx (by simp)).trans h.context
  kwargs := h.kwargs.imp fun _ hkw => (hsame (n + 9) (by simp)).trans hkw
  object := (hsame (n + 4) (by simp)).trans h.object
  starts := (hsame (n + 5) (by simp)).trans h.starts
  reqs := (hsame (n + 6) (by simp)).trans h.reqs
  lens := (hsame (n + 7) (by simp)).trans h.lens
  unpadded := (hsame (n + 8) (by simp)).trans h.unpadded

/-- What `installStage_run` leaves. -/
theorem placed_of_copy {starts reqs lens unpadded : List Int} {kwargs : Dict String Value}
    (hctx : ctx < heap.length) :
    Placed (heap.set ctx (.context (some (heap.length + 9))) ++
      (copyObjs heap.length m starts reqs lens unpadded i a b c d ++ [copyKw heap.length kwargs])) ctx
        heap.length m i
      a b c d := by
  have hnew : ∀ k,
      (heap.set ctx (.context (some (heap.length + 9))) ++
        (copyObjs heap.length m starts reqs lens unpadded i a b c d ++
          [copyKw heap.length kwargs]))[heap.length + k]? =
        (copyObjs heap.length m starts reqs lens unpadded i a b c d ++
          [copyKw heap.length kwargs])[k]? := by
    intro k
    rw [List.getElem?_append_right (by simp), List.length_set, Nat.add_sub_cancel_left]
  refine ⟨?_, ⟨kwargs, hnew 9⟩, hnew 4, hnew 5, hnew 6, hnew 7, hnew 8⟩
  rw [List.getElem?_append_left (by simpa using hctx), List.getElem?_set_self hctx]

end Placed

/-! ## The whole loop -/

/-- What the loop starts from. -/
structure Setting (heap : List Obj) (r : Nat) (m : ForwardContextMetadata)
    (starts reqs lens unpadded : List Int) (contexts : List Nat) : Prop where
  parent : Parent heap r m starts reqs lens unpadded
  ok : ∀ c ∈ contexts, ContextOk heap c
  nodup : contexts.Nodup
  starts_fit : contexts.length ≤ starts.length
  reqs_fit : contexts.length ≤ reqs.length
  lens_fit : contexts.length ≤ lens.length
  unpadded_fit : contexts.length ≤ unpadded.length

/-- After the contexts `done`: their copies are in place, ten objects each, and
the other old objects are as before. -/
structure Installed (before heap : List Obj) (m : ForwardContextMetadata)
    (starts reqs lens unpadded : List Int) (done : List Nat) : Prop where
  length : heap.length = before.length + 10 * done.length
  placed : ∀ i c, done[i]? = some c → Placed heap c (before.length + 10 * i) m i
    (starts.getD i 0) (reqs.getD i 0) (lens.getD i 0) (unpadded.getD i 0)
  frame : ∀ r < before.length, r ∉ done → heap[r]? = before[r]?

section Loop
variable {before heap : List Obj} {r : Nat} {m : ForwardContextMetadata}
  {starts reqs lens unpadded : List Int}

/-- An object that is no context keeps its place through the loop. -/
theorem Installed.get {contexts done : List Nat}
    (hs : Setting before r m starts reqs lens unpadded contexts)
    (hi : Installed before heap m starts reqs lens unpadded done) (hsub : ∀ c ∈ done, c ∈ contexts)
    {x : Nat} {o : Obj} (hx : before[x]? = some o) (hno : ∀ kwargs, o ≠ .context kwargs) :
    heap[x]? = some o := by
  rw [hi.frame x (List.getElem?_eq_some_iff.1 hx).1 ?_, hx]
  intro hmem
  obtain ⟨kwargs, hkw, -⟩ := hs.ok x (hsub x hmem)
  exact hno kwargs (Option.some.inj (hx.symm.trans hkw))

/-- One more turn. -/
theorem Installed.turn {w : World} {done rest : List Nat} {c : Nat}
    (hs : Setting before r m starts reqs lens unpadded (done ++ c :: rest))
    (hi : Installed before w.heap m starts reqs lens unpadded done) :
    ∃ w', installStage r done.length c w = (.ok (), w') ∧ w' = { w with heap := w'.heap } ∧
      Installed before w'.heap m starts reqs lens unpadded (done ++ [c]) := by
  have hsub : ∀ x ∈ done, x ∈ done ++ c :: rest := fun x hx => List.mem_append_left _ hx
  have hcmem : c ∈ done ++ c :: rest := by simp
  have hcnot : c ∉ done := by
    intro hmem
    exact (List.nodup_append.1 hs.nodup).2.2 c hmem c List.mem_cons_self rfl
  obtain ⟨kw, hkw, hdict⟩ := hs.ok c hcmem
  have hclt := (List.getElem?_eq_some_iff.1 hkw).1
  have hctx : ContextOk w.heap c := by
    refine ⟨kw, (hi.frame c hclt hcnot).trans hkw, fun x hx => ?_⟩
    obtain ⟨d, hd⟩ := hdict x hx
    exact ⟨d, hi.get hs hsub hd (by simp)⟩
  have hparent : Parent w.heap r m starts reqs lens unpadded :=
    ⟨hi.get hs hsub hs.parent.object (by simp), hi.get hs hsub hs.parent.starts (by simp),
      hi.get hs hsub hs.parent.reqs (by simp), hi.get hs hsub hs.parent.lens (by simp),
      hi.get hs hsub hs.parent.unpadded (by simp)⟩
  have hget : ∀ {l : List Int}, (done ++ c :: rest).length ≤ l.length →
      l[done.length]? = some (l.getD done.length 0) := by
    intro l hl
    rw [List.length_append, List.length_cons] at hl
    rw [List.getD_eq_getElem?_getD, List.getElem?_eq_getElem (by omega)]
    rfl
  obtain ⟨kwargs, hrun⟩ := installStage_run hparent (hget hs.starts_fit) (hget hs.reqs_fit)
    (hget hs.lens_fit) (hget hs.unpadded_fit) hctx
  have hlt : c < w.heap.length := by rw [hi.length]; omega
  refine ⟨_, hrun, rfl, ?_, fun i x hx => ?_, fun x hx hnot => ?_⟩
  · simp only [List.length_append, List.length_set, hi.length, copyObjs, List.length_cons, List.length_nil]
    omega
  · rcases Nat.lt_or_ge i done.length with hi' | hge
    · -- an earlier stage: this turn touches none of its objects
      rw [List.getElem?_append_left hi'] at hx
      refine (hi.placed i x hx).congr fun y hy => ?_
      have hxne : x ≠ c := fun he => hcnot (he ▸ List.mem_of_getElem? hx)
      have hxlt : x < before.length := by
        obtain ⟨kw', hkw', -⟩ := hs.ok x (hsub x (List.mem_of_getElem? hx))
        exact (List.getElem?_eq_some_iff.1 hkw').1
      have hy' : y ≠ c ∧ y < w.heap.length := by
        have hlen := hi.length
        simp only [List.mem_cons, List.not_mem_nil, or_false] at hy
        rcases hy with rfl | rfl | rfl | rfl | rfl | rfl | rfl
        · exact ⟨hxne, by omega⟩
        all_goals exact ⟨by omega, by omega⟩
      rw [List.getElem?_append_left (by simpa using hy'.2), List.getElem?_set_ne (Ne.symm hy'.1)]
    · rw [List.getElem?_append_right hge, List.getElem?_singleton] at hx
      split at hx
      · cases hx
        obtain rfl : i = done.length := by omega
        rw [← hi.length]
        exact placed_of_copy hlt
      · cases hx
  · rw [List.mem_append, List.mem_singleton, not_or] at hnot
    rw [List.getElem?_append_left (by rw [List.length_set, hi.length]; omega),
      List.getElem?_set_ne (Ne.symm hnot.2)]
    exact hi.frame x hx hnot.1

theorem installStages_run {w : World} {done rest : List Nat}
    (hs : Setting before r m starts reqs lens unpadded (done ++ rest))
    (hi : Installed before w.heap m starts reqs lens unpadded done) :
    ∃ w', installStages r done.length rest w = (.ok (), w') ∧ w' = { w with heap := w'.heap } ∧
      Installed before w'.heap m starts reqs lens unpadded (done ++ rest) := by
  induction rest generalizing w done with
  | nil => exact ⟨w, rfl, rfl, by rwa [List.append_nil]⟩
  | cons c rest ih =>
    obtain ⟨w₁, hrun, hw₁, hi₁⟩ := hi.turn hs
    have happ : done ++ c :: rest = done ++ [c] ++ rest := by simp
    rw [happ] at hs
    obtain ⟨w₂, hrest, hw₂, hi₂⟩ := ih hs hi₁
    rw [List.length_append, List.length_singleton] at hrest
    refine ⟨w₂, ?_, ?_, happ ▸ hi₂⟩
    · rw [installStages, Eff.bind_of_ok hrun]
      exact hrest
    · rw [hw₂, hw₁]

end Loop

/-! ## Lengths without padding -/

/-- Contiguous slices from `a` to `padded`. -/
def CoversFrom (padded : Nat) : Nat → List UBatchSlice → Prop
  | a, [] => a = padded
  | a, ub :: rest => ub.tokenStart = a ∧ a ≤ ub.tokenStop ∧ CoversFrom padded ub.tokenStop rest

/-- Which tokens of a stage are real. -/
def realTokens (numTokens : Nat) (len : Int) : List Bool :=
  List.replicate len.toNat true ++ List.replicate (numTokens - len.toNat) false

/-- The lengths without padding of the stages of `padded` tokens, `real` of
which are real. -/
structure LensSound (ubatchSlices : List UBatchSlice) (real padded : Nat) (lens : List Int) : Prop where
  le : List.Forall₂ (fun ub len => 0 ≤ len ∧ len ≤ (ub.numTokens : Int)) ubatchSlices lens
  sum : lens.sum = (min real padded : Nat)
  suffix : (List.zipWith (fun ub len => realTokens ub.numTokens len) ubatchSlices lens).flatten =
    List.replicate (min real padded) true ++ List.replicate (padded - min real padded) false

section Lens
variable {real padded : Nat}

theorem coversFrom_le {a : Nat} {slices : List UBatchSlice} (h : CoversFrom padded a slices) :
    a ≤ padded := by
  induction slices generalizing a with
  | nil => exact h.le
  | cons ub rest ih => exact h.2.1.trans (ih h.2.2)

theorem unpaddedLen_eq (real : Nat) {ub : UBatchSlice} (h : ub.tokenStart ≤ ub.tokenStop) :
    unpaddedLen real ub = ((min real ub.tokenStop - min real ub.tokenStart : Nat) : Int) := by
  simp only [unpaddedLen]
  omega

theorem sum_unpaddedLen (real : Nat) {a : Nat} {slices : List UBatchSlice}
    (h : CoversFrom padded a slices) :
    (slices.map (unpaddedLen real)).sum = ((min real padded - min real a : Nat) : Int) := by
  induction slices generalizing a with
  | nil =>
    obtain rfl : a = padded := h
    simp
  | cons ub rest ih =>
    obtain ⟨rfl, hle, hrest⟩ := h
    have hle' := coversFrom_le hrest
    rw [List.map_cons, List.sum_cons, ih hrest, unpaddedLen_eq real hle]
    omega

/-- Real tokens come first: a stage with padding is followed by padding only. -/
theorem flatten_realTokens (real : Nat) {a : Nat} {slices : List UBatchSlice}
    (h : CoversFrom padded a slices) :
    (List.zipWith (fun ub len => realTokens ub.numTokens len) slices
      (slices.map (unpaddedLen real))).flatten =
      List.replicate (min real padded - min real a) true ++
        List.replicate (padded - a - (min real padded - min real a)) false := by
  induction slices generalizing a with
  | nil =>
    obtain rfl : a = padded := h
    simp
  | cons ub rest ih =>
    obtain ⟨rfl, hle, hrest⟩ := h
    have hle' := coversFrom_le hrest
    rw [List.map_cons, List.zipWith_cons_cons, List.flatten_cons, ih hrest, realTokens,
      unpaddedLen_eq real hle, Int.toNat_natCast, UBatchSlice.numTokens]
    rcases Nat.lt_or_ge ub.tokenStop real with hlt | hge
    · -- the stage is full
      have hnone : ub.tokenStop - ub.tokenStart - (min real ub.tokenStop - min real ub.tokenStart) =
        0 := by omega
      rw [hnone, List.replicate_zero, List.append_nil, ← List.append_assoc, List.replicate_append_replicate]
      congr 2 <;> omega
    · -- the real tokens end here
      have hnone : min real padded - min real ub.tokenStop = 0 := by omega
      rw [hnone, List.replicate_zero, List.nil_append, List.append_assoc, List.replicate_append_replicate]
      congr 2 <;> omega

theorem lensSound {slices : List UBatchSlice} (h : CoversFrom padded 0 slices) :
    LensSound slices real padded (slices.map (unpaddedLen real)) where
  le := by
    have hstep : ∀ ub ∈ slices, 0 ≤ unpaddedLen real ub ∧ unpaddedLen real ub ≤ (ub.numTokens : Int) := by
      intro ub _
      simp only [unpaddedLen, UBatchSlice.numTokens]
      omega
    rw [List.forall₂_map_right_iff, List.forall₂_same]
    exact hstep
  sum := by simpa using sum_unpaddedLen real h
  suffix := by simpa using flatten_realTokens real h

end Lens

/-! ## The installation -/

/-- What stage `i`'s context carries: its own values only. -/
def stageValues (w : World) (ubatchSlices : List UBatchSlice) (real i : Nat) (ub : UBatchSlice) :
    StageView where
  tokensStartLoc := [if 1 < ubatchSlices.length then (ub.tokenStart : Int) else 0]
  requestsStartLoc := [if 1 < ubatchSlices.length then (ub.requestStart : Int) else 0]
  stageIdx := i
  connector := w.connector
  tokensLens := [if 1 < ubatchSlices.length then (ub.numTokens : Int) else (real : Int)]
  numStages := numStagesOf ubatchSlices
  transactionId := s!"afd-{w.afdTransactionCounter}"
  tokensUnpaddedLens := [unpaddedLen real ub]

/-- The copies of one installation. -/
structure StagesSound (w w' : World) (ubatchSlices : List UBatchSlice) (contexts : List Nat)
    (real : Nat) : Prop where
  view : ∀ (i : Nat) (ub : UBatchSlice) (c : Nat), ubatchSlices[i]? = some ub → contexts[i]? = some c →
    stageView w'.heap c = some (stageValues w ubatchSlices real i ub)
  isolated : ∀ (i j c c' : Nat), contexts[i]? = some c → contexts[j]? = some c' → i ≠ j →
    ∀ heap : List Obj, (∀ r, r ∉ owned w'.heap c' → heap[r]? = w'.heap[r]?) →
      stageView heap c = stageView w'.heap c

section Install

/-- The transaction's metadata, its lists of unpadded lengths at `unpadded`. -/
def builtMetadata (w : World) (ubatchSlices : List UBatchSlice) (unpadded : Nat) :
    ForwardContextMetadata where
  tokensStartLoc := w.heap.length
  requestsStartLoc := w.heap.length + 1
  stageIdx := 0
  connector := w.connector
  tokensLens := w.heap.length + 2
  numStages := numStagesOf ubatchSlices
  transactionId := s!"afd-{w.afdTransactionCounter}"
  tokensUnpaddedLens := unpadded

/-- The objects there when the loop starts. -/
def loopObjs (w : World) (ubatchSlices : List UBatchSlice) (real : Nat) : List Obj :=
  [.ints (tokensStartLocs ubatchSlices), .ints (requestsStartLocs ubatchSlices),
    .ints (tokensLensOf ubatchSlices real), .ints (tokensLensOf ubatchSlices real),
    .metadata (builtMetadata w ubatchSlices (w.heap.length + 5)),
    .ints (ubatchSlices.map (unpaddedLen real))]

variable {w : World} {ubatchSlices : List UBatchSlice} {contexts : List Nat} {real padded : Nat}

/-- A transaction id taken, nothing else. -/
def World.counted (w : World) : World := { w with afdTransactionCounter := w.afdTransactionCounter + 1 }

theorem buildAfdMetadata_run (w : World) (ubatchSlices : List UBatchSlice) (real : Nat) :
    buildAfdMetadata ubatchSlices real w = (.ok (w.counted.heap.length + 4), w.counted.push
      [.ints (tokensStartLocs ubatchSlices), .ints (requestsStartLocs ubatchSlices),
        .ints (tokensLensOf ubatchSlices real), .ints (tokensLensOf ubatchSlices real),
        .metadata (builtMetadata w ubatchSlices (w.heap.length + 3))]) := by
  have hid : ∀ os, nextAfdTransactionId (w.push os) =
      (.ok s!"afd-{w.afdTransactionCounter}", w.counted.push os) :=
    fun _ => rfl
  conv_lhs => rw [← World.push_nil w]
  rw [buildAfdMetadata, Eff.bind_of_ok (alloc_push _ _), Eff.bind_of_ok (alloc_push _ _),
    Eff.bind_of_ok (alloc_push _ _), Eff.bind_of_ok (alloc_push _ _), Eff.bind_of_ok (hid _),
    Eff.read_bind]
  exact alloc_push _ _

/-- What the loop of an installation starts from. -/
def Starting (w : World) (ubatchSlices : List UBatchSlice) (real : Nat) (contexts : List Nat) : Prop :=
  Setting (w.heap ++ loopObjs w ubatchSlices real) (w.heap.length + 4)
    (builtMetadata w ubatchSlices (w.heap.length + 5)) (tokensStartLocs ubatchSlices)
    (requestsStartLocs ubatchSlices) (tokensLensOf ubatchSlices real)
    (ubatchSlices.map (unpaddedLen real)) contexts

/-- The loop of an installation after the contexts `done`. -/
def InstalledFor (w : World) (ubatchSlices : List UBatchSlice) (real : Nat) (heap : List Obj)
    (done : List Nat) : Prop :=
  Installed (w.heap ++ loopObjs w ubatchSlices real) heap (builtMetadata w ubatchSlices (w.heap.length + 5))
    (tokensStartLocs ubatchSlices) (requestsStartLocs ubatchSlices) (tokensLensOf ubatchSlices real)
    (ubatchSlices.map (unpaddedLen real)) done

theorem starting (hlen : ubatchSlices.length = contexts.length) (hctx : ∀ c ∈ contexts, ContextOk w.heap c)
    (hnd : contexts.Nodup) : Starting w ubatchSlices real contexts := by
  have hnew : ∀ {k : Nat} {o : Obj}, (loopObjs w ubatchSlices real)[k]? = some o →
      (w.heap ++ loopObjs w ubatchSlices real)[w.heap.length + k]? = some o := fun h => heap_push_new _ h
  have hold : ∀ {r : Nat} {o : Obj}, w.heap[r]? = some o →
      (w.heap ++ loopObjs w ubatchSlices real)[r]? = some o :=
    fun h => heap_push _ h
  refine ⟨⟨hnew (k := 4) rfl, hnew (k := 0) rfl, hnew (k := 1) rfl, hnew (k := 2) rfl,
    hnew (k := 5) rfl⟩, ?_, hnd, ?_, ?_, ?_, ?_⟩
  · intro c hc
    obtain ⟨kw, hkw, hdict⟩ := hctx c hc
    exact ⟨kw, hold hkw, fun r hr => (hdict r hr).imp fun _ hd => hold hd⟩
  · rw [tokensStartLocs]
    split <;> simp <;> omega
  · rw [requestsStartLocs]
    split <;> simp <;> omega
  · rw [tokensLensOf]
    split <;> simp <;> omega
  · simp [hlen]

/-- The installation up to the runner's own fields. -/
theorem install_run (hlen : ubatchSlices.length = contexts.length)
    (hctx : ∀ c ∈ contexts, ContextOk w.heap c) (hnd : contexts.Nodup) :
    ∃ w', installMrv2UbatchMetadata ubatchSlices contexts real w = (.ok (), w') ∧
      InstalledFor w ubatchSlices real w'.heap contexts := by
  have hstart : InstalledFor w ubatchSlices real (w.counted.push (loopObjs w ubatchSlices real)).heap [] :=
    ⟨rfl, fun i c hc => by simp at hc, fun _ _ _ => rfl⟩
  have hsetting : Starting w ubatchSlices real ([] ++ contexts) := starting hlen hctx hnd
  obtain ⟨w', hrun, -, hi⟩ := installStages_run hsetting hstart
  rw [List.length_nil] at hrun
  refine ⟨{ w' with afdPendingMetadata := some (w.heap.length + 4), afdSuppressMetadataSend := true },
    ?_, hi⟩
  rw [installMrv2UbatchMetadata, if_neg (not_not.2 hlen),
    Eff.bind_of_ok (buildAfdMetadata_run w ubatchSlices real), Eff.bind_of_ok (alloc_push _ _),
    Eff.bind_of_ok (metadataAt_run (heap_push_new _ rfl)), Eff.bind_of_ok (store_push _ 4 _)]
  change (installStages (w.heap.length + 4) 0 contexts >>= _)
    (w.counted.push (loopObjs w ubatchSlices real)) = _
  rw [Eff.bind_of_ok hrun]
  rfl

/-- Each stage's copy, in place with the stage's values. -/
theorem InstalledFor.values {heap : List Obj} (hi : InstalledFor w ubatchSlices real heap contexts)
    {i : Nat} {ub : UBatchSlice} {c : Nat} (hub : ubatchSlices[i]? = some ub)
    (hc : contexts[i]? = some c) :
    stageView heap c = some (stageValues w ubatchSlices real i ub) := by
  have hlt := (List.getElem?_eq_some_iff.1 hub).1
  rw [(hi.placed i c hc).view]
  simp only [stageValues, builtMetadata, tokensStartLocs, requestsStartLocs, tokensLensOf,
    Option.some.injEq, StageView.mk.injEq, List.cons.injEq, and_true, true_and,
    List.getD_eq_getElem?_getD, List.getElem?_map, hub]
  split
  · simp [hub]
  · -- one stage only, so it is the first
    obtain rfl : i = 0 := by omega
    simp

/-- The copies of different stages share no object. -/
theorem InstalledFor.isolated {heap : List Obj} (hsetting : Starting w ubatchSlices real contexts)
    (hi : InstalledFor w ubatchSlices real heap contexts) {i j c c' : Nat} (hc : contexts[i]? = some c)
    (hc' : contexts[j]? = some c') (hij : i ≠ j) {heap' : List Obj}
    (hsame : ∀ r, r ∉ owned heap c' → heap'[r]? = heap[r]?) : stageView heap' c = stageView heap c := by
  have hplaced := hi.placed i c hc
  have hne : c ≠ c' := by
    intro he
    have hlt := (List.getElem?_eq_some_iff.1 hc).1
    exact hij ((List.getElem?_inj hlt hsetting.nodup).1 (hc.trans (he ▸ hc'.symm)))
  have hold : ∀ x ∈ contexts, x < (w.heap ++ loopObjs w ubatchSlices real).length := by
    intro x hx
    obtain ⟨kw, hkw, -⟩ := hsetting.ok x hx
    exact (List.getElem?_eq_some_iff.1 hkw).1
  have hclt := hold c (List.mem_of_getElem? hc)
  have hclt' := hold c' (List.mem_of_getElem? hc')
  rw [(hi.placed j c' hc').owned] at hsame
  have hplaced' : Placed heap' c _ _ _ _ _ _ _ := hplaced.congr fun x hx => by
    apply hsame
    simp only [List.mem_cons, List.not_mem_nil, or_false, not_or] at hx ⊢
    rcases hx with rfl | rfl | rfl | rfl | rfl | rfl | rfl
    · exact ⟨hne, by omega, by omega, by omega, by omega, by omega, by omega⟩
    all_goals exact ⟨by omega, by omega, by omega, by omega, by omega, by omega, by omega⟩
  rw [hplaced'.view, hplaced.view]

/-- The installation gives every context its own stage's values; the lengths
without padding add up to the real tokens, padding comes last, and no change to
the objects of one stage's copy is seen in another stage. -/
theorem installMrv2UbatchMetadata_sound (hlen : ubatchSlices.length = contexts.length)
    (hctx : ∀ c ∈ contexts, ContextOk w.heap c) (hnd : contexts.Nodup)
    (hcover : CoversFrom padded 0 ubatchSlices) :
    ∃ w', installMrv2UbatchMetadata ubatchSlices contexts real w = (.ok (), w') ∧
      LensSound ubatchSlices real padded (ubatchSlices.map (unpaddedLen real)) ∧
      StagesSound w w' ubatchSlices contexts real := by
  obtain ⟨w', hrun, hi⟩ := install_run hlen hctx hnd
  exact ⟨w', hrun, lensSound hcover, fun i ub c hub hc => hi.values hub hc,
    fun i j c c' hc hc' hij heap hsame => hi.isolated (starting hlen hctx hnd) hc hc' hij hsame⟩

/-- Two stages of four tokens, three of them real, with two fresh contexts. -/
theorem install_twoStages : ∃ w', installMrv2UbatchMetadata [⟨0, 4, 0⟩, ⟨4, 8, 1⟩] [0, 1] 3
      ⟨[.context none, .context none], 9, 5, none, false⟩ = (.ok (), w') ∧
    LensSound [⟨0, 4, 0⟩, ⟨4, 8, 1⟩] 3 8 [3, 0] ∧
    StagesSound ⟨[.context none, .context none], 9, 5, none, false⟩ w' [⟨0, 4, 0⟩, ⟨4, 8, 1⟩] [0, 1] 3 := by
  refine installMrv2UbatchMetadata_sound rfl ?_ (by decide) ⟨rfl, by decide, rfl, by decide, rfl⟩
  intro c hc
  simp only [List.mem_cons, List.not_mem_nil, or_false] at hc
  rcases hc with rfl | rfl
  · exact ⟨none, rfl, by simp⟩
  · exact ⟨none, rfl, by simp⟩

end Install

end AfdPlugin.UbatchMetadata
