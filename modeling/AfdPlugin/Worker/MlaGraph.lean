import AfdPlugin.Lib.Dict
import AfdPlugin.Lib.Scopes
import Mathlib.Tactic
/-!
# Graph-local MLA parameters

In a microbatched full graph every stage records its own MLA parameters. For
replay the two registries are merged into one, layer by layer and stage by
stage, since the updater walks metadata, events, handles and parameters by
position. Registries hold references to list objects, so what a merge does to
its inputs is visible in the heap.
-/

namespace AfdPlugin.Worker.MlaGraph

/-- The list objects; a reference is an index. -/
abbrev Heap (Obj : Type) := List (List Obj)

/-- `GraphParams`: per token count a workspace object and three lists. -/
structure GraphParams (Obj : Type) where
  events : Dict Nat Nat
  workspaces : Dict Nat Obj
  handles : Dict Nat Nat
  attnParams : Dict Nat Nat

section Code
variable {Obj M A : Type}

def newList : Eff (Heap Obj) String Nat := fun heap => (.ok heap.length, heap ++ [[]])

def deref (r : Nat) : Eff (Heap Obj) String (List Obj) := Eff.read fun heap => heap.getD r []

def append (r : Nat) (x : Obj) : Eff (Heap Obj) String Unit :=
  Eff.modify fun heap => heap.modify r (· ++ [x])

/-- `d[k]`. -/
def item {K : Type} [DecidableEq K] [ToString K] (d : Dict K A) (k : K) : Eff (Heap Obj) String A :=
  match d.get? k with
  | some v => Eff.ofExcept (.ok v)
  | none => Eff.raise s!"KeyError: {k}"

def newMlaGraphParams (numTokens : Nat) (workspace : Obj) : Eff (Heap Obj) String (GraphParams Obj) := do
  let events ← newList
  let handles ← newList
  let attnParams ← newList
  pure {
    events := (∅ : Dict Nat Nat).set numTokens events
    workspaces := (∅ : Dict Nat Obj).set numTokens workspace
    handles := (∅ : Dict Nat Nat).set numTokens handles
    attnParams := (∅ : Dict Nat Nat).set numTokens attnParams }

/-- The record counts of one stage against the number of layers. -/
def checkRecords (numTokens expectedRecords stageIndex : Nat) (params : GraphParams Obj) :
    Eff (Heap Obj) String Unit := do
  let events ← deref (← item params.events numTokens)
  let handles ← deref (← item params.handles numTokens)
  let attnParams ← deref (← item params.attnParams numTokens)
  if (events.length, handles.length, attnParams.length) ≠ (expectedRecords, expectedRecords,
      expectedRecords) then
    Eff.raise (s!"MLA DBO FULL graph record count mismatch for stage {stageIndex}: metadata={expectedRecords}, " ++
      s!"events={events.length}, handles={handles.length}, params={attnParams.length}")
  else pure ()

/-- `merged[num_tokens].append(records[num_tokens][layer_index])`. -/
def appendRecord (numTokens layerIndex : Nat) (records merged : Dict Nat Nat) :
    Eff (Heap Obj) String Unit := do
  let list ← deref (← item records numTokens)
  match list[layerIndex]? with
  | some record => append (← item merged numTokens) record
  | none => Eff.raise "IndexError: list index out of range"

/-- The two stages. -/
abbrev stage0 : Fin 2 := ⟨0, Nat.two_pos⟩

abbrev stage1 : Fin 2 := ⟨1, Nat.one_lt_two⟩

/-- One turn of the merge loop. -/
structure Visit (Obj M : Type) where
  layerIndex : Nat
  layerKey : String
  stageIndex : Fin 2
  metadata : Dict String M
  params : GraphParams Obj

def mergeRecord (numTokens : Nat) (merged : GraphParams Obj) (mergedMetadata : Dict (String × Fin 2) M)
    (visit : Visit Obj M) : Eff (Heap Obj) String (Dict (String × Fin 2) M) := do
  let value ← item visit.metadata visit.layerKey
  appendRecord numTokens visit.layerIndex visit.params.events merged.events
  appendRecord numTokens visit.layerIndex visit.params.handles merged.handles
  appendRecord numTokens visit.layerIndex visit.params.attnParams merged.attnParams
  pure (mergedMetadata.set (visit.layerKey, visit.stageIndex) value)

/-- Layer-major, stage-minor. -/
def visits (layerKeys : List String) (m₀ m₁ : Dict String M) (p₀ p₁ : GraphParams Obj) :
    List (Visit Obj M) :=
  layerKeys.zipIdx.flatMap fun layer =>
    [⟨layer.2, layer.1, stage0, m₀, p₀⟩, ⟨layer.2, layer.1, stage1, m₁, p₁⟩]

/-- The checks on two stages, then the merge. -/
def mergeStages [DecidableEq Obj] (m₀ m₁ : Dict String M) (p₀ p₁ : GraphParams Obj) (numTokens : Nat) :
    Eff (Heap Obj) String (Dict (String × Fin 2) M × GraphParams Obj) :=
  let layerKeys := m₀.keys
  if m₁.keys ≠ layerKeys then Eff.raise "MLA DBO FULL graph layer order differs by stage"
  else do
    checkRecords numTokens layerKeys.length 0 p₀
    checkRecords numTokens layerKeys.length 1 p₁
    let workspace ← item p₀.workspaces numTokens
    let other ← item p₁.workspaces numTokens
    if other ≠ workspace then Eff.raise "MLA DBO FULL graph requires one shared FIA workspace"
    else do
      let merged ← newMlaGraphParams numTokens workspace
      let mergedMetadata ← (visits layerKeys m₀ m₁ p₀ p₁).foldlM (mergeRecord numTokens merged) ∅
      pure (mergedMetadata, merged)

/-- Validate and merge two stage-local MLA registries for graph replay. -/
def mergeMlaGraphParams [DecidableEq Obj] (attnMetadata : List (Dict String M))
    (graphParams : List (GraphParams Obj)) (numTokens : Nat) :
    Eff (Heap Obj) String (Dict (String × Fin 2) M × GraphParams Obj) :=
  match attnMetadata, graphParams with
  | [m₀, m₁], [p₀, p₁] => mergeStages m₀ m₁ p₀ p₁ numTokens
  | _, _ => Eff.raise ("MLA DBO FULL graph requires exactly two metadata stages; " ++
      s!"got metadata={attnMetadata.length}, params={graphParams.length}")

end Code

/-! ## Single operations -/

section Operations
variable {Obj M A : Type}

theorem item_ok {K : Type} [DecidableEq K] [ToString K] {d : Dict K A} {k : K} {v : A}
    (h : d.get? k = some v) (heap : Heap Obj) : item d k heap = (.ok v, heap) := by
  rw [item, h]
  rfl

/-- The list a registry field has for a token count. -/
def records (heap : Heap Obj) (field : Dict Nat Nat) (numTokens : Nat) : List Obj :=
  match field.get? numTokens with
  | some r => heap.getD r []
  | none => []

/-- The registry has its four entries for the token count. -/
structure HasEntries (heap : Heap Obj) (numTokens : Nat) (params : GraphParams Obj) : Prop where
  events : ∃ r, params.events.get? numTokens = some r ∧ r < heap.length
  handles : ∃ r, params.handles.get? numTokens = some r ∧ r < heap.length
  attnParams : ∃ r, params.attnParams.get? numTokens = some r ∧ r < heap.length
  workspace : ∃ w, params.workspaces.get? numTokens = some w

/-- Every list has one record for each layer. -/
structure CountsMatch (heap : Heap Obj) (numTokens layers : Nat) (params : GraphParams Obj) : Prop where
  events : (records heap params.events numTokens).length = layers
  handles : (records heap params.handles numTokens).length = layers
  attnParams : (records heap params.attnParams numTokens).length = layers

theorem checkRecords_run {heap : Heap Obj} {numTokens : Nat} {params : GraphParams Obj}
    (h : HasEntries heap numTokens params) (layers stage : Nat) :
    (CountsMatch heap numTokens layers params → checkRecords numTokens layers stage params heap =
      (.ok (), heap)) ∧
      (¬CountsMatch heap numTokens layers params →
        ∃ msg, checkRecords numTokens layers stage params heap = (.error msg, heap)) := by
  obtain ⟨e, he, -⟩ := h.events
  obtain ⟨g, hg, -⟩ := h.handles
  obtain ⟨a, ha, -⟩ := h.attnParams
  rw [checkRecords, Eff.bind_of_ok (item_ok he heap), deref, Eff.read_bind,
    Eff.bind_of_ok (item_ok hg heap), deref, Eff.read_bind, Eff.bind_of_ok (item_ok ha heap), deref,
    Eff.read_bind]
  have hcounts : CountsMatch heap numTokens layers params ↔
      ((heap.getD e []).length, (heap.getD g []).length, (heap.getD a []).length) =
          (layers, layers, layers) := by
    rw [Prod.mk.injEq, Prod.mk.injEq]
    constructor
    · rintro ⟨h₁, h₂, h₃⟩
      simp only [records, he, hg, ha] at h₁ h₂ h₃
      exact ⟨h₁, h₂, h₃⟩
    · rintro ⟨h₁, h₂, h₃⟩
      exact ⟨by simpa only [records, he] using h₁, by simpa only [records, hg] using h₂,
        by simpa only [records, ha] using h₃⟩
  constructor
  · intro hmatch
    rw [if_neg (not_not.2 (hcounts.1 hmatch))]
    rfl
  · intro hmatch
    rw [if_pos fun heq => hmatch (hcounts.2 heq)]
    exact ⟨_, rfl⟩

theorem appendRecord_run {heap : Heap Obj} {numTokens i r t : Nat} {field merged : Dict Nat Nat}
    {x : Obj} (hr : field.get? numTokens = some r) (hx : (heap.getD r [])[i]? = some x)
    (ht : merged.get? numTokens = some t) :
    appendRecord numTokens i field merged heap = (.ok (), heap.modify t (· ++ [x])) := by
  rw [appendRecord, Eff.bind_of_ok (item_ok hr heap), deref, Eff.read_bind, hx]
  change (item merged numTokens >>= fun t => append t x) heap = _
  rw [Eff.bind_of_ok (item_ok ht heap)]
  rfl

end Operations

/-! ## The merge loop -/

section Loop
variable {Obj M : Type}

/-- The registry that `new_mla_graph_params` makes on a heap of `n` lists. -/
def fresh (numTokens : Nat) (workspace : Obj) (n : Nat) : GraphParams Obj where
  events := (∅ : Dict Nat Nat).set numTokens n
  workspaces := (∅ : Dict Nat Obj).set numTokens workspace
  handles := (∅ : Dict Nat Nat).set numTokens (n + 1)
  attnParams := (∅ : Dict Nat Nat).set numTokens (n + 2)

theorem fresh_events (numTokens : Nat) (workspace : Obj) (n : Nat) :
    (fresh numTokens workspace n).events.get? numTokens = some (n + 0) := Dict.get?_set_self _ _ _

theorem fresh_handles (numTokens : Nat) (workspace : Obj) (n : Nat) :
    (fresh numTokens workspace n).handles.get? numTokens = some (n + 1) := Dict.get?_set_self _ _ _

theorem fresh_attnParams (numTokens : Nat) (workspace : Obj) (n : Nat) :
    (fresh numTokens workspace n).attnParams.get? numTokens = some (n + 2) := Dict.get?_set_self _ _ _

theorem newList_run (heap : Heap Obj) : newList heap = (.ok heap.length, heap ++ [[]]) := rfl

theorem newMlaGraphParams_run (numTokens : Nat) (workspace : Obj) (heap : Heap Obj) :
    newMlaGraphParams numTokens workspace heap =
      (.ok (fresh numTokens workspace heap.length), heap ++ [[], [], []]) := by
  rw [newMlaGraphParams, Eff.bind_of_ok (newList_run _), Eff.bind_of_ok (newList_run _),
    Eff.bind_of_ok (newList_run _)]
  simp [fresh, pure]

/-- What one turn appends. -/
structure Finds (heap : Heap Obj) (numTokens : Nat) (visit : Visit Obj M) (e g a : Obj) (v : M) : Prop where
  events : ∃ r, visit.params.events.get? numTokens = some r ∧ r < heap.length ∧
    (heap.getD r [])[visit.layerIndex]? = some e
  handles : ∃ r, visit.params.handles.get? numTokens = some r ∧ r < heap.length ∧
    (heap.getD r [])[visit.layerIndex]? = some g
  attnParams : ∃ r, visit.params.attnParams.get? numTokens = some r ∧ r < heap.length ∧
    (heap.getD r [])[visit.layerIndex]? = some a
  metadata : visit.metadata.get? visit.layerKey = some v

/-- Appending to one of the lists behind the old ones. -/
theorem appendRecord_new {heap news : Heap Obj} {numTokens i r t : Nat} {field merged : Dict Nat Nat}
    {x : Obj} (hr : field.get? numTokens = some r) (hlt : r < heap.length)
    (hx : (heap.getD r [])[i]? = some x) (ht : merged.get? numTokens = some (heap.length + t)) :
    appendRecord numTokens i field merged (heap ++ news) = (.ok (), heap ++ news.modify t (· ++ [x])) := by
  have hread : (heap ++ news).getD r [] = heap.getD r [] := by
    simp [List.getD_eq_getElem?_getD, List.getElem?_append_left hlt]
  rw [appendRecord_run hr (hread.symm ▸ hx) ht]
  exact congrArg _ (List.modifyTailIdx_add _ t heap news)

/-- One turn appends a record to each of the three new lists. -/
theorem mergeRecord_run {heap : Heap Obj} {numTokens : Nat} (workspace : Obj) {visit : Visit Obj M}
    {e g a : Obj} {v : M} (h : Finds heap numTokens visit e g a v) (md : Dict (String × Fin 2) M)
    (es gs as : List Obj) :
    mergeRecord numTokens (fresh numTokens workspace heap.length) md visit (heap ++ [es, gs, as]) =
      (.ok (md.set (visit.layerKey, visit.stageIndex) v), heap ++ [es ++ [e], gs ++ [g], as ++ [a]]) := by
  obtain ⟨re, hre, hlte, he⟩ := h.events
  obtain ⟨rg, hrg, hltg, hg⟩ := h.handles
  obtain ⟨ra, hra, hlta, ha⟩ := h.attnParams
  rw [mergeRecord, Eff.bind_of_ok (item_ok h.metadata _),
    Eff.bind_of_ok (appendRecord_new hre hlte he (fresh_events _ _ _)),
    Eff.bind_of_ok (appendRecord_new hrg hltg hg (fresh_handles _ _ _)),
    Eff.bind_of_ok (appendRecord_new hra hlta ha (fresh_attnParams _ _ _))]
  rfl

/-- The loop over visits that find `e`, `g`, `a` and `v`. -/
theorem mergeLoop_run {heap : Heap Obj} {numTokens : Nat} (workspace : Obj) {visits : List (Visit Obj M)}
    {e g a : Visit Obj M → Obj} {v : Visit Obj M → M}
    (h : ∀ visit ∈ visits, Finds heap numTokens visit (e visit) (g visit) (a visit) (v visit))
    (md : Dict (String × Fin 2) M) (es gs as : List Obj) :
    visits.foldlM (mergeRecord numTokens (fresh numTokens workspace heap.length)) md
      (heap ++ [es, gs, as]) =
      (.ok (md.setAll (visits.map fun visit => ((visit.layerKey, visit.stageIndex), v visit))),
        heap ++ [es ++ visits.map e, gs ++ visits.map g, as ++ visits.map a]) := by
  induction visits generalizing md es gs as with
  | nil =>
    simp only [List.map_nil, List.append_nil]
    rfl
  | cons visit rest ih =>
    have hstep := mergeRecord_run workspace (h visit List.mem_cons_self) md es gs as
    rw [List.foldlM_cons, Eff.bind_of_ok hstep, ih fun w hw => h w (List.mem_cons_of_mem _ hw)]
    simp [Dict.setAll]

end Loop

/-! ## Interleaved lists -/

/-- Two entries for each index, in order. -/
theorem getElem?_flatMap_pair {α : Type} (f : Nat → Fin 2 → α) {n i : Nat} (hi : i < n) (s : Fin 2) :
    ((List.range n).flatMap fun i => [f i stage0, f i stage1])[2 * i + s.val]? = some (f i s) := by
  have hlen : ∀ n, ((List.range n).flatMap fun i => [f i stage0, f i stage1]).length = 2 * n := by
    intro n
    simp [List.length_flatMap, Nat.mul_comm]
  induction n with
  | zero => cases hi
  | succ n ih =>
    rw [List.range_succ, List.flatMap_append, List.flatMap_singleton]
    rcases Nat.lt_or_ge i n with hlt | hge
    · rw [List.getElem?_append_left (by rw [hlen]; omega)]
      exact ih hlt
    · have hin : i = n := by omega
      subst hin
      rw [List.getElem?_append_right (by rw [hlen]; omega), hlen, Nat.add_sub_cancel_left]
      match s with
      | 0 => rfl
      | 1 => rfl

/-- Entry `2 * i + s` is entry `i` of stage `s`. -/
structure Interleaved {α : Type} (layers : Nat) (stage : Fin 2 → List α) (merged : List α) : Prop where
  length : merged.length = 2 * layers
  entry : ∀ i < layers, ∀ s : Fin 2, merged[2 * i + s.val]? = (stage s)[i]?

theorem interleaved_flatMap {α : Type} {layers : Nat} {stage : Fin 2 → List α} {f : Nat → Fin 2 → α}
    (h : ∀ i < layers, ∀ s, (stage s)[i]? = some (f i s)) :
    Interleaved layers stage ((List.range layers).flatMap fun i => [f i stage0, f i stage1]) where
  length := by simp [List.length_flatMap, Nat.mul_comm]
  entry i hi s := by rw [getElem?_flatMap_pair f hi s, h i hi s]

/-! ## The merge -/

section Merge
variable {Obj M : Type}

/-- The stages agree on the layers, every list has one record for each, and the
workspace is one object. -/
structure Mergeable (heap : Heap Obj) (numTokens : Nat) (metadata : Fin 2 → Dict String M)
    (params : Fin 2 → GraphParams Obj) : Prop where
  keys : (metadata stage1).keys = (metadata stage0).keys
  counts : ∀ s, CountsMatch heap numTokens (metadata stage0).keys.length (params s)
  workspace : (params stage1).workspaces.get? numTokens = (params stage0).workspaces.get? numTokens

/-- No list object that was there has changed. -/
def Unchanged (heap heap' : Heap Obj) : Prop := ∀ r < heap.length, heap'[r]? = heap[r]?

/-- What a merge returns: four sequences in step. -/
structure Merged (heap heap' : Heap Obj) (numTokens : Nat) (metadata : Fin 2 → Dict String M)
    (params : Fin 2 → GraphParams Obj) (mergedMetadata : Dict (String × Fin 2) M)
    (merged : GraphParams Obj) : Prop where
  entries : Interleaved (metadata stage0).keys.length (fun s => (metadata s).entries.map fun entry =>
    ((entry.1, s), entry.2)) mergedMetadata.entries
  events : Interleaved (metadata stage0).keys.length (fun s => records heap (params s).events numTokens)
    (records heap' merged.events numTokens)
  handles : Interleaved (metadata stage0).keys.length (fun s => records heap (params s).handles numTokens)
    (records heap' merged.handles numTokens)
  attnParams : Interleaved (metadata stage0).keys.length
    (fun s => records heap (params s).attnParams numTokens) (records heap' merged.attnParams numTokens)
  workspace : merged.workspaces.get? numTokens = (params stage0).workspaces.get? numTokens

/-- Visits in loop order, by index. -/
theorem visits_eq (keys : List String) (m₀ m₁ : Dict String M) (p₀ p₁ : GraphParams Obj) :
    visits keys m₀ m₁ p₀ p₁ = (List.range keys.length).flatMap fun i =>
      [⟨i, keys.getD i "", stage0, m₀, p₀⟩, ⟨i, keys.getD i "", stage1, m₁, p₁⟩] := by
  have hzip : keys.zipIdx = (List.range keys.length).map fun i => (keys.getD i "", i) := by
    apply List.ext_getElem
    · simp
    · intro i hi _
      have hi : i < keys.length := by simpa using hi
      simp [List.getElem?_eq_getElem hi]
  rw [visits, hzip, List.flatMap_map]

section Visits
variable (heap : Heap Obj) (numTokens : Nat) (metadata : Fin 2 → Dict String M)
  (params : Fin 2 → GraphParams Obj)

def visitAt (i : Nat) (s : Fin 2) : Visit Obj M :=
  ⟨i, (metadata stage0).keys.getD i "", s, metadata s, params s⟩

theorem visits_eq_visitAt :
    visits (metadata stage0).keys (metadata stage0) (metadata stage1) (params stage0) (params stage1) =
    (List.range (metadata stage0).keys.length).flatMap fun i =>
      [visitAt metadata params i stage0, visitAt metadata params i stage1] :=
  visits_eq _ _ _ _ _

theorem map_visits {B : Type} (f : Visit Obj M → B) :
    (visits (metadata stage0).keys (metadata stage0) (metadata stage1) (params stage0)
      (params stage1)).map f =
      (List.range (metadata stage0).keys.length).flatMap fun i =>
        [f (visitAt metadata params i stage0), f (visitAt metadata params i stage1)] := by
  rw [visits_eq_visitAt, List.map_flatMap]
  rfl

variable [Inhabited Obj] [Inhabited M]

/-- The record a visit takes from a field. -/
def recordOf (field : GraphParams Obj → Dict Nat Nat) (visit : Visit Obj M) : Obj :=
  (records heap (field visit.params) numTokens).getD visit.layerIndex default

def valueOf (visit : Visit Obj M) : M := (visit.metadata.get? visit.layerKey).getD default

variable {heap numTokens metadata params}

omit [Inhabited M] in
/-- A list with one record for each layer has one for each visit. -/
theorem record_found (field : GraphParams Obj → Dict Nat Nat) {s : Fin 2}
    (hentry : ∃ r, (field (params s)).get? numTokens = some r ∧ r < heap.length)
    (hcount : (records heap (field (params s)) numTokens).length = (metadata stage0).keys.length) {i : Nat}
    (hi : i < (metadata stage0).keys.length) :
    (∃ r, (field (params s)).get? numTokens = some r ∧ r < heap.length ∧
      (heap.getD r [])[i]? = some (recordOf heap numTokens field (visitAt metadata params i s))) ∧
    (records heap (field (params s)) numTokens)[i]? =
      some (recordOf heap numTokens field (visitAt metadata params i s)) := by
  obtain ⟨r, hr, hlt⟩ := hentry
  have hget : (records heap (field (params s)) numTokens)[i]? =
      some (recordOf heap numTokens field (visitAt metadata params i s)) := by
    have hlt : i < (records heap (field (params s)) numTokens).length := hcount ▸ hi
    simp [recordOf, visitAt, List.getElem?_eq_getElem hlt]
  refine ⟨⟨r, hr, hlt, ?_⟩, hget⟩
  simpa only [records, hr] using hget

omit [Inhabited Obj] in
/-- The layer's entry of a stage. -/
theorem entry_found (hm : Mergeable heap numTokens metadata params) {i : Nat}
    (hi : i < (metadata stage0).keys.length) (s : Fin 2) : (metadata s).entries[i]? =
      some ((visitAt metadata params i s).layerKey, valueOf (visitAt metadata params i s)) := by
  have hkeys : (metadata s).keys = (metadata stage0).keys := by
    match s with
    | 0 => rfl
    | 1 => exact hm.keys
  have hlen : i < (metadata s).entries.length := by
    have hlt : i < (metadata s).keys.length := hkeys ▸ hi
    simpa [Dict.keys] using hlt
  have hkey : ((metadata s).entries[i]).1 = (visitAt metadata params i s).layerKey := by
    rw [visitAt, ← hkeys]
    simp [Dict.keys, List.getElem?_eq_getElem hlen]
  have hvalue : (metadata s).get? (visitAt metadata params i s).layerKey =
      some ((metadata s).entries[i]).2 := by
    rw [← hkey]
    exact Dict.mem_entries_iff.1 (List.getElem_mem hlen)
  rw [List.getElem?_eq_getElem hlen, valueOf, show (visitAt metadata params i s).metadata =
    metadata s from rfl, hvalue, ← hkey]
  rfl

/-- Every visit of the loop finds its records and its metadata. -/
theorem visits_found (hentries : ∀ s, HasEntries heap numTokens (params s))
    (hm : Mergeable heap numTokens metadata params) :
    ∀ visit ∈ visits (metadata stage0).keys (metadata stage0) (metadata stage1) (params
      stage0) (params stage1),
      Finds heap numTokens visit (recordOf heap numTokens (·.events) visit)
        (recordOf heap numTokens (·.handles) visit)
        (recordOf heap numTokens (·.attnParams) visit) (valueOf visit) := by
  have hfound : ∀ i < (metadata stage0).keys.length, ∀ s,
      Finds heap numTokens (visitAt metadata params i s)
        (recordOf heap numTokens (·.events) (visitAt metadata params i s))
        (recordOf heap numTokens (·.handles) (visitAt metadata params i s))
        (recordOf heap numTokens (·.attnParams) (visitAt metadata params i s))
        (valueOf (visitAt metadata params i s)) := by
    intro i hi s
    exact {
      events := (record_found (·.events) (hentries s).events (hm.counts s).events hi).1
      handles := (record_found (·.handles) (hentries s).handles (hm.counts s).handles hi).1
      attnParams := (record_found (·.attnParams) (hentries s).attnParams (hm.counts s).attnParams hi).1
      metadata := Dict.mem_entries_iff.1 (List.mem_of_getElem? (entry_found hm hi s)) }
  intro visit hvisit
  rw [visits_eq_visitAt, List.mem_flatMap] at hvisit
  obtain ⟨i, hi, hmem⟩ := hvisit
  rw [List.mem_range] at hi
  simp only [List.mem_cons, List.not_mem_nil, or_false] at hmem
  rcases hmem with rfl | rfl
  · exact hfound i hi stage0
  · exact hfound i hi stage1

variable (heap numTokens metadata params) in
/-- What the visits append to one of the new lists. -/
def newRecords (field : GraphParams Obj → Dict Nat Nat) : List Obj :=
  (visits (metadata stage0).keys (metadata stage0) (metadata stage1) (params stage0)
    (params stage1)).map (recordOf heap numTokens field)

variable (metadata params) in
def newMetadata : Dict (String × Fin 2) M :=
  (∅ : Dict _ M).setAll
    ((visits (metadata stage0).keys (metadata stage0) (metadata stage1) (params stage0)
      (params stage1)).map fun visit => ((visit.layerKey, visit.stageIndex), valueOf visit))

omit [Inhabited M] in
theorem interleaved_newRecords (field : GraphParams Obj → Dict Nat Nat)
    (hentries : ∀ s, ∃ r, (field (params s)).get? numTokens = some r ∧ r < heap.length)
    (hcounts : ∀ s, (records heap (field (params s)) numTokens).length = (metadata stage0).keys.length) :
    Interleaved (metadata stage0).keys.length (fun s => records heap (field (params s)) numTokens)
      (newRecords heap numTokens metadata params field) := by
  rw [newRecords, map_visits]
  apply interleaved_flatMap (f := fun i s => recordOf heap numTokens field (visitAt metadata params i s))
  intro i hi s
  exact (record_found field (hentries s) (hcounts s) hi).2

omit [Inhabited Obj] [Inhabited M] in
/-- The merged keys are distinct. -/
theorem nodup_visitKeys (metadata : Fin 2 → Dict String M) (params : Fin 2 → GraphParams Obj) :
    ((visits (metadata stage0).keys (metadata stage0) (metadata stage1) (params stage0)
      (params stage1)).map
    fun visit => (visit.layerKey, visit.stageIndex)).Nodup := by
  rw [map_visits, List.nodup_flatMap]
  refine ⟨fun i _ => by simp [visitAt], ?_⟩
  refine List.pairwise_lt_range.imp_of_mem fun hi hj hlt => ?_
  rw [List.mem_range] at hi hj
  intro key hkey hkey'
  -- two layers with one key would be one layer
  simp only [visitAt, List.mem_cons, List.not_mem_nil, or_false] at hkey hkey'
  have hsame : (metadata stage0).keys.getD _ "" = (metadata stage0).keys.getD _ "" :=
    (hkey.elim (congrArg Prod.fst) (congrArg Prod.fst)).symm.trans
      (hkey'.elim (congrArg Prod.fst) (congrArg Prod.fst))
  simp only [List.getD_eq_getElem?_getD, List.getElem?_eq_getElem hi, List.getElem?_eq_getElem hj,
    Option.getD_some] at hsame
  exact absurd ((metadata stage0).nodup.getElem_inj_iff.1 hsame) (Nat.ne_of_lt hlt)

omit [Inhabited Obj] in
theorem interleaved_newMetadata (hm : Mergeable heap numTokens metadata params) :
    Interleaved (metadata stage0).keys.length (fun s => (metadata s).entries.map fun entry =>
      ((entry.1, s), entry.2))
      (newMetadata metadata params).entries := by
  have hkeys := nodup_visitKeys metadata params
  rw [newMetadata,
    Dict.entries_empty_setAll (by simpa [List.map_map, Function.comp_def] using hkeys), map_visits]
  apply interleaved_flatMap (f := fun i s => (((visitAt metadata params i s).layerKey, s),
    valueOf (visitAt metadata params i s)))
  intro i hi s
  simp [entry_found hm hi s]

/-- A merge whose checks pass. -/
theorem mergeStages_run [DecidableEq Obj] (hentries : ∀ s, HasEntries heap numTokens (params s))
    (hm : Mergeable heap numTokens metadata params) {w : Obj}
    (hw : (params stage0).workspaces.get? numTokens = some w) :
    mergeStages (metadata stage0) (metadata stage1) (params stage0) (params stage1) numTokens heap =
      (.ok (newMetadata metadata params, fresh numTokens w heap.length),
        heap ++ [newRecords heap numTokens metadata params (·.events),
          newRecords heap numTokens metadata params (·.handles),
          newRecords heap numTokens metadata params (·.attnParams)]) := by
  have hloop := mergeLoop_run w (visits_found hentries hm) ∅ [] [] []
  rw [mergeStages, if_neg (not_not.2 hm.keys),
    Eff.bind_of_ok ((checkRecords_run (hentries stage0) _ _).1 (hm.counts stage0)),
    Eff.bind_of_ok ((checkRecords_run (hentries stage1) _ _).1 (hm.counts stage1)),
    Eff.bind_of_ok (item_ok hw heap), Eff.bind_of_ok (item_ok (hm.workspace.trans hw) heap),
    if_neg (not_not.2 rfl), Eff.bind_of_ok (newMlaGraphParams_run _ _ _), Eff.bind_of_ok hloop]
  rfl

omit [Inhabited Obj] [Inhabited M] in
/-- A merge with a failing check. -/
theorem mergeStages_error [DecidableEq Obj] (hentries : ∀ s, HasEntries heap numTokens (params s))
    (hm : ¬Mergeable heap numTokens metadata params) :
    ∃ msg, mergeStages (metadata stage0) (metadata stage1) (params stage0) (params stage1) numTokens
      heap = (.error msg, heap) := by
  rw [mergeStages]
  by_cases hkeys : (metadata stage1).keys = (metadata stage0).keys
  swap
  · rw [if_pos hkeys]
    exact ⟨_, rfl⟩
  rw [if_neg (not_not.2 hkeys)]
  by_cases h₀ : CountsMatch heap numTokens (metadata stage0).keys.length (params stage0)
  swap
  · obtain ⟨msg, hmsg⟩ := (checkRecords_run (hentries stage0) (metadata stage0).keys.length 0).2 h₀
    exact ⟨msg, Eff.bind_of_error hmsg⟩
  rw [Eff.bind_of_ok ((checkRecords_run (hentries stage0) _ _).1 h₀)]
  by_cases h₁ : CountsMatch heap numTokens (metadata stage0).keys.length (params stage1)
  swap
  · obtain ⟨msg, hmsg⟩ := (checkRecords_run (hentries stage1) (metadata stage0).keys.length 1).2 h₁
    exact ⟨msg, Eff.bind_of_error hmsg⟩
  rw [Eff.bind_of_ok ((checkRecords_run (hentries stage1) _ _).1 h₁)]
  obtain ⟨w, hw⟩ := (hentries stage0).workspace
  obtain ⟨w', hw'⟩ := (hentries stage1).workspace
  -- the lists agree, so only the workspaces can differ
  have hne : w' ≠ w := by
    intro heq
    refine hm ⟨hkeys, fun s => ?_, by rw [hw, hw', heq]⟩
    match s with
    | 0 => exact h₀
    | 1 => exact h₁
  rw [Eff.bind_of_ok (item_ok hw heap), Eff.bind_of_ok (item_ok hw' heap), if_pos hne]
  exact ⟨_, rfl⟩

/-- A merge raises and changes nothing exactly when the layer orders differ, a
record list is short or long, or the workspaces are two objects; otherwise the
four merged sequences run in step and the inputs are as before. -/
theorem mergeMlaGraphParams_spec [DecidableEq Obj] (hentries : ∀ s, HasEntries heap numTokens (params s)) :
    (¬Mergeable heap numTokens metadata params → ∃ msg,
      mergeMlaGraphParams [metadata stage0, metadata stage1] [params stage0, params stage1] numTokens
        heap = (.error msg, heap)) ∧
    (Mergeable heap numTokens metadata params → ∃ mergedMetadata merged heap',
      mergeMlaGraphParams [metadata stage0, metadata stage1] [params stage0, params stage1] numTokens heap =
        (.ok (mergedMetadata, merged), heap') ∧
      Unchanged heap heap' ∧ Merged heap heap' numTokens metadata params mergedMetadata merged) := by
  refine ⟨mergeStages_error hentries, fun hm => ?_⟩
  obtain ⟨w, hw⟩ := (hentries stage0).workspace
  refine ⟨_, _, _, mergeStages_run hentries hm hw, fun r hr => List.getElem?_append_left hr, ?_,
    ?_, ?_, ?_, ?_⟩
  · exact interleaved_newMetadata hm
  · simpa [records, fresh_events] using
      interleaved_newRecords (·.events) (fun s => (hentries s).events) fun s => (hm.counts s).events
  · simpa [records, fresh_handles] using
      interleaved_newRecords (·.handles) (fun s => (hentries s).handles) fun s => (hm.counts s).handles
  · simpa [records, fresh_attnParams] using
      interleaved_newRecords (·.attnParams) (fun s => (hentries s).attnParams)
        fun s => (hm.counts s).attnParams
  · rw [hw]
    exact Dict.get?_set_self _ _ _

end Visits

end Merge

/-! ### Two layers, four tokens -/

/-- Stage `s`: lists `3 * s`, `3 * s + 1` and `3 * s + 2`, workspace 7. -/
def stageParams (s : Fin 2) : GraphParams Nat where
  events := (∅ : Dict Nat Nat).set 4 (3 * s.val)
  workspaces := (∅ : Dict Nat Nat).set 4 7
  handles := (∅ : Dict Nat Nat).set 4 (3 * s.val + 1)
  attnParams := (∅ : Dict Nat Nat).set 4 (3 * s.val + 2)

def stageMetadata (s : Fin 2) : Dict String Nat :=
  ((∅ : Dict String Nat).set "layer0" (50 + s.val)).set "layer1" (60 + s.val)

def stageHeap : Heap Nat := [[10, 12], [20, 22], [30, 32], [11, 13], [21, 23], [31, 33]]

/-- The events come layer by layer, and of a layer stage by stage. -/
theorem merge_twoLayers : ∃ mergedMetadata merged heap',
    mergeMlaGraphParams [stageMetadata stage0, stageMetadata stage1] [stageParams stage0,
      stageParams stage1] 4 stageHeap =
      (.ok (mergedMetadata, merged), heap') ∧
    Unchanged stageHeap heap' ∧ Merged stageHeap heap' 4 stageMetadata stageParams mergedMetadata merged ∧
    ∀ i < 4, (records heap' merged.events 4)[i]? = [10, 11, 12, 13][i]? := by
  have hentries : ∀ s, HasEntries stageHeap 4 (stageParams s) := by
    intro s
    have hs := s.isLt
    exact ⟨⟨_, rfl, by simp [stageHeap]; omega⟩, ⟨_, rfl, by simp [stageHeap]; omega⟩,
      ⟨_, rfl, by simp [stageHeap]; omega⟩, ⟨_, rfl⟩⟩
  have hcounts : ∀ s, CountsMatch stageHeap 4 (stageMetadata stage0).keys.length (stageParams s) := by
    intro s
    match s with
    | 0 => exact ⟨rfl, rfl, rfl⟩
    | 1 => exact ⟨rfl, rfl, rfl⟩
  obtain ⟨mergedMetadata, merged, heap', hrun, hsame, hmerged⟩ :=
    (mergeMlaGraphParams_spec hentries).2 ⟨rfl, hcounts, rfl⟩
  refine ⟨mergedMetadata, merged, heap', hrun, hsame, hmerged, fun i hi => ?_⟩
  have hentry := hmerged.events.entry
  interval_cases i
  · exact hentry 0 (by decide) stage0
  · exact hentry 0 (by decide) stage1
  · exact hentry 1 (by decide) stage0
  · exact hentry 1 (by decide) stage1

end AfdPlugin.Worker.MlaGraph
