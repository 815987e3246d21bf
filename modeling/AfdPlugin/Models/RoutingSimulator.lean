import AfdPlugin.Lib.CyclicWalk
import AfdPlugin.Lib.Dict
import AfdPlugin.Lib.Fallible
/-!
# The balanced routing strategy

A benchmark strategy that gives every token `top_k` experts from a fixed cycle
over the selected experts, and keeps the longest table it has built for each
configuration.
-/

namespace AfdPlugin.RoutingSimulator

structure RoutingConfig where
  numExperts : Nat
  epSize : Nat
  epRank : Nat
  topK : Nat
  topnPerRank : Int
  deriving DecidableEq, Repr

structure RoutingBuffers where
  weights : List (List Rat)
  expertIds : List (List Nat)
  deriving DecidableEq

/-- The type the ids are cast to. -/
inductive IndicesDtype where
  | int32
  | int64
  | uint32
  deriving DecidableEq, Repr

def localExperts (config : RoutingConfig) : Nat := config.numExperts / config.epSize

/-- `topn_per_rank or local_experts`. -/
def selectedPerRank (config : RoutingConfig) : Int :=
  if config.topnPerRank ≠ 0 then config.topnPerRank else localExperts config

def validateConfig (config : RoutingConfig) : Except String Unit :=
  if config.numExperts = 0 then .error "num_experts must be positive"
  else if config.epSize = 0 then .error "ep_size must be positive"
  else if ¬config.epRank < config.epSize then .error "ep_rank must be within the expert-parallel group"
  else if config.topK = 0 then .error "top_k must be positive"
  else if config.numExperts % config.epSize ≠ 0 then .error "num_experts must be divisible by ep_size"
  else if ¬(0 < selectedPerRank config ∧ selectedPerRank config ≤ localExperts config) then
    .error s!"AFD_BENCHMARK_FORCE_LB_TOPN_PER_RANK must be between 0 and {localExperts config}"
  else if (config.topK : Int) > selectedPerRank config * config.epSize then
    .error "selected expert pool must contain at least top_k experts"
  else .ok ()

/-- `randperm n` stands for `torch.randperm` of `n` with the fixed seed. -/
def buildExpertCycle (randperm : Nat → List Nat) (config : RoutingConfig) : Except String (List Nat) := do
  validateConfig config
  let expertCycle :=
    if config.topnPerRank ≠ 0 then
      (List.range config.epSize).flatMap fun rank =>
        List.range' (rank * localExperts config) config.topnPerRank.toNat
    else randperm config.numExperts
  let sourceRankOffset := config.epRank * localExperts config
  pure (expertCycle.map fun e => (e + sourceRankOffset) % config.numExperts)

def buildRoutingBuffers (randperm : Nat → List Nat) (config : RoutingConfig) (maxTokens : Nat) :
    Except String RoutingBuffers := do
  let expertCycle ← buildExpertCycle randperm config
  let totalIds := maxTokens * config.topK
  let repeatCount := (totalIds + expertCycle.length - 1) / expertCycle.length
  let expertIds := ((List.range repeatCount).flatMap fun _ => expertCycle).take totalIds
  pure {
    weights := List.replicate maxTokens (List.replicate config.topK (1 / config.topK))
    expertIds := Cyclic.reshape expertIds maxTokens config.topK }

/-- What one call of `route_tokens` reads: the shapes, the expert-parallel
group, the device and the index type. -/
structure Request where
  numExperts : Nat
  epSize : Nat
  epRank : Nat
  topK : Nat
  device : String
  indicesType : Option IndicesDtype
  numTokens : Nat
  deriving DecidableEq, Repr

abbrev Buffers := Dict (RoutingConfig × String × IndicesDtype) RoutingBuffers

section Route
variable (randperm : Nat → List Nat) (topnPerRank : Int)

def Request.config (request : Request) : RoutingConfig :=
  ⟨request.numExperts, request.epSize, request.epRank, request.topK, topnPerRank⟩

def Request.key (request : Request) : RoutingConfig × String × IndicesDtype :=
  (request.config topnPerRank, request.device, request.indicesType.getD .int32)

/-- The cached buffers, when they are long enough. -/
def cached (buffers : Buffers) (request : Request) : Option RoutingBuffers :=
  (buffers.get? (request.key topnPerRank)).filter fun b => ¬b.expertIds.length < request.numTokens

/-- `route_tokens`, with `_buffers` before and after. -/
def routeTokens (buffers : Buffers) (request : Request) : Except String RoutingBuffers × Buffers :=
  let rows (b : RoutingBuffers) : RoutingBuffers :=
    ⟨b.weights.take request.numTokens, b.expertIds.take request.numTokens⟩
  match cached topnPerRank buffers request with
  | some b => (.ok (rows b), buffers)
  | none =>
    match buildRoutingBuffers randperm (request.config topnPerRank) request.numTokens with
    | .error msg => (.error msg, buffers)
    | .ok b => (.ok (rows b), buffers.set (request.key topnPerRank) b)

/-- The buffers after a history of calls, some of which may have raised. -/
def buffersAfter (history : List Request) : Buffers :=
  history.foldl (fun buffers request => (routeTokens randperm topnPerRank buffers request).2) ∅

end Route

/-! ## Valid configurations -/

/-- The checks that a valid configuration has passed. -/
structure Valid (config : RoutingConfig) : Prop where
  epRank_lt : config.epRank < config.epSize
  topK_pos : 0 < config.topK
  divides : config.epSize * localExperts config = config.numExperts
  selected_pos : 0 < selectedPerRank config
  selected_le : selectedPerRank config ≤ localExperts config
  topK_le : (config.topK : Int) ≤ selectedPerRank config * config.epSize

theorem valid_of_ok {config : RoutingConfig} (h : validateConfig config = .ok ()) : Valid config := by
  unfold validateConfig at h
  split at h
  · cases h
  split at h
  · cases h
  split at h
  · cases h
  rename_i hrank
  split at h
  · cases h
  rename_i htopK
  split at h
  · cases h
  rename_i hdiv
  split at h
  · cases h
  rename_i hsel
  split at h
  · cases h
  rename_i htop
  rw [not_not] at hrank hdiv hsel
  exact ⟨hrank, Nat.pos_of_ne_zero htopK, Nat.mul_div_cancel' (Nat.dvd_of_mod_eq_zero hdiv), hsel.1,
    hsel.2, not_lt.1 htop⟩

/-- The experts the strategy may pick: the first `selected_per_rank` of every
rank. -/
def Selectable (config : RoutingConfig) (e : Nat) : Prop :=
  e < config.numExperts ∧ (e % localExperts config : Nat) < selectedPerRank config

instance (config : RoutingConfig) : DecidablePred (Selectable config) :=
  fun _ => inferInstanceAs (Decidable (_ ∧ _))

def selectable (config : RoutingConfig) : List Nat :=
  (List.range config.numExperts).filter fun e => Selectable config e

theorem mem_selectable {config : RoutingConfig} {e : Nat} :
    e ∈ selectable config ↔ Selectable config e := by
  rw [selectable, List.mem_filter, List.mem_range, decide_eq_true_eq]
  exact ⟨fun h => h.2, fun h => ⟨h.1, h⟩⟩

theorem nodup_selectable (config : RoutingConfig) : (selectable config).Nodup := List.nodup_range.filter _

/-! ## The cycle -/

section Cycle
variable {randperm : Nat → List Nat} {config : RoutingConfig}

/-- The cycle before it is shifted by the rank. -/
def baseCycle (randperm : Nat → List Nat) (config : RoutingConfig) : List Nat :=
  if config.topnPerRank ≠ 0 then
    (List.range config.epSize).flatMap fun rank =>
      List.range' (rank * localExperts config) config.topnPerRank.toNat
  else randperm config.numExperts

def shift (config : RoutingConfig) (e : Nat) : Nat :=
  (e + config.epRank * localExperts config) % config.numExperts

theorem buildExpertCycle_ok (h : validateConfig config = .ok ()) :
    buildExpertCycle randperm config = .ok ((baseCycle randperm config).map (shift config)) := by
  rw [buildExpertCycle, h]
  rfl

theorem Valid.localExperts_pos (hv : Valid config) : 0 < localExperts config := by
  have := hv.selected_pos
  have := hv.selected_le
  omega

theorem Valid.numExperts_pos (hv : Valid config) : 0 < config.numExperts := by
  rw [← hv.divides]
  exact Nat.mul_pos (by have := hv.epRank_lt; omega) hv.localExperts_pos

/-- The pools of the ranks, one after the other. -/
theorem pools_perm (hv : Valid config) (htopn : config.topnPerRank ≠ 0) :
    ((List.range config.epSize).flatMap fun rank =>
      List.range' (rank * localExperts config) config.topnPerRank.toNat).Perm (selectable config) := by
  have hlocal := hv.localExperts_pos
  have hle := hv.selected_le
  have hsel : selectedPerRank config = config.topnPerRank := if_pos htopn
  rw [hsel] at hle
  rw [List.perm_ext_iff_of_nodup _ (nodup_selectable config)]
  · intro e
    rw [mem_selectable, Selectable, hsel, ← hv.divides, List.mem_flatMap]
    constructor
    · rintro ⟨rank, hrank, he⟩
      rw [List.mem_range] at hrank
      rw [List.mem_range'_1] at he
      obtain ⟨t, rfl⟩ := Nat.exists_eq_add_of_le he.1
      have ht : t < localExperts config := by omega
      have hnext := Nat.mul_le_mul_right (localExperts config) (Nat.succ_le_of_lt hrank)
      rw [Nat.succ_mul] at hnext
      rw [Nat.mul_comm rank, Nat.mul_add_mod, Nat.mod_eq_of_lt ht, Nat.mul_comm _ rank]
      omega
    · rintro ⟨he, hpool⟩
      refine ⟨e / localExperts config, List.mem_range.2 ((Nat.div_lt_iff_lt_mul hlocal).2 he), ?_⟩
      have hsplit := Nat.div_add_mod' e (localExperts config)
      rw [List.mem_range'_1]
      omega
  · rw [List.nodup_flatMap]
    refine ⟨fun _ _ => List.nodup_range', List.pairwise_lt_range.imp fun {rank rank'} hlt e he he' => ?_⟩
    rw [List.mem_range'_1] at he he'
    have hnext := Nat.mul_le_mul_right (localExperts config) (Nat.succ_le_of_lt hlt)
    rw [Nat.succ_mul] at hnext
    omega

theorem baseCycle_perm (hperm : ∀ n, (randperm n).Perm (List.range n)) (hv : Valid config) :
    (baseCycle randperm config).Perm (selectable config) := by
  rw [baseCycle]
  split
  · rename_i htopn
    exact pools_perm hv htopn
  · rename_i htopn
    have hall : selectable config = List.range config.numExperts := by
      rw [selectable, List.filter_eq_self]
      intro e he
      have hsel : selectedPerRank config = localExperts config := if_neg htopn
      have hmod := Nat.mod_lt e hv.localExperts_pos
      simp only [Selectable, hsel, decide_eq_true_eq]
      exact ⟨List.mem_range.1 he, by omega⟩
    rw [hall]
    exact hperm _

/-- Shifting by whole ranks keeps an expert's place in its pool. -/
theorem selectable_shift (hv : Valid config) {e : Nat} (he : Selectable config e) :
    Selectable config (shift config e) := by
  refine ⟨Nat.mod_lt _ hv.numExperts_pos, ?_⟩
  have hdvd : localExperts config ∣ config.numExperts := ⟨config.epSize, by rw [Nat.mul_comm, hv.divides]⟩
  rw [shift, Nat.mod_mod_of_dvd _ hdvd, Nat.add_mul_mod_self_right]
  exact he.2

theorem shift_inj {e e' : Nat} (he : e < config.numExperts) (he' : e' < config.numExperts)
    (h : shift config e = shift config e') : e = e' :=
  Nat.ModEq.eq_of_lt_of_lt (Nat.ModEq.add_right_cancel' (config.epRank * localExperts config) h) he he'

/-- The cycle meets every selectable expert once. -/
theorem cycle_perm (hperm : ∀ n, (randperm n).Perm (List.range n)) (hv : Valid config) :
    ((baseCycle randperm config).map (shift config)).Perm (selectable config) := by
  have hbase := baseCycle_perm hperm hv
  have hnodup : ((selectable config).map (shift config)).Nodup := by
    refine List.Nodup.map_on ?_ (nodup_selectable config)
    intro e he e' he' heq
    exact shift_inj (mem_selectable.1 he).1 (mem_selectable.1 he').1 heq
  have hsub : (selectable config).map (shift config) ⊆ selectable config := by
    intro x hx
    obtain ⟨e, he, rfl⟩ := List.mem_map.1 hx
    exact mem_selectable.2 (selectable_shift hv (mem_selectable.1 he))
  have hself := (List.subperm_of_subset hnodup hsub).perm_of_length_le (by rw [List.length_map])
  exact (hbase.map _).trans hself

/-- There are enough selectable experts for a row. -/
theorem topK_le_selectable (hperm : ∀ n, (randperm n).Perm (List.range n)) (hv : Valid config) :
    config.topK ≤ (selectable config).length := by
  have htop := hv.topK_le
  rw [← (baseCycle_perm hperm hv).length_eq, baseCycle]
  split
  · rename_i htopn
    have hsel : selectedPerRank config = config.topnPerRank := if_pos htopn
    have hpos := hv.selected_pos
    rw [hsel] at htop hpos
    obtain ⟨topn, hn⟩ := Int.eq_ofNat_of_zero_le hpos.le
    rw [hn] at htop
    simp only [List.length_flatMap, List.length_range', List.map_const', List.sum_replicate,
      List.length_range, smul_eq_mul, hn, Int.toNat_natCast]
    rw [Nat.mul_comm]
    exact_mod_cast htop
  · rename_i htopn
    have hsel : selectedPerRank config = localExperts config := if_neg htopn
    rw [hsel] at htop
    rw [(hperm _).length_eq, List.length_range, ← hv.divides, Nat.mul_comm]
    exact_mod_cast htop

end Cycle

/-! ## The tables -/

/-- What the ids of a step of `n` tokens are worth. -/
structure Balanced (config : RoutingConfig) (n : Nat) (ids : List (List Nat)) : Prop where
  rows : ids.length = n
  topK : ∀ row ∈ ids, row.length = config.topK
  distinct : ∀ row ∈ ids, row.Nodup
  selected : ∀ row ∈ ids, ∀ e ∈ row, Selectable config e
  balance : ∀ e, Selectable config e →
    ids.flatten.count e = n * config.topK / (selectable config).length ∨
      ids.flatten.count e = (n * config.topK) ⌈/⌉ (selectable config).length

section Tables
variable {randperm : Nat → List Nat} {config : RoutingConfig}

/-- The ids of `n` tokens, row by row. -/
def expertRows (randperm : Nat → List Nat) (config : RoutingConfig) (n : Nat) : List (List Nat) :=
  (List.range n).map fun i => (List.range config.topK).map fun j =>
    Cyclic.item ((baseCycle randperm config).map (shift config)) 0 (i * config.topK + j)

def tables (randperm : Nat → List Nat) (config : RoutingConfig) (n : Nat) : RoutingBuffers where
  weights := List.replicate n (List.replicate config.topK (1 / config.topK))
  expertIds := expertRows randperm config n

theorem buildRoutingBuffers_ok (hperm : ∀ n, (randperm n).Perm (List.range n))
    (h : validateConfig config = .ok ()) (n : Nat) :
    buildRoutingBuffers randperm config n = .ok (tables randperm config n) := by
  have hv := valid_of_ok h
  have hlen : 0 < ((baseCycle randperm config).map (shift config)).length := by
    rw [(cycle_perm hperm hv).length_eq]
    exact hv.topK_pos.trans_le (topK_le_selectable hperm hv)
  rw [buildRoutingBuffers, buildExpertCycle_ok h, Fallible.ok_bind, tables, expertRows]
  generalize (baseCycle randperm config).map (shift config) = cycle at hlen
  have hrepeat : n * config.topK ≤ (n * config.topK + cycle.length - 1) / cycle.length * cycle.length := by
    have hmod := Nat.div_add_mod' (n * config.topK + cycle.length - 1) cycle.length
    have hlt := Nat.mod_lt (n * config.topK + cycle.length - 1) hlen
    omega
  simp only [Cyclic.take_repeat hrepeat (d := 0), Cyclic.reshape_walk]
  rfl

theorem balanced_expertRows (hperm : ∀ n, (randperm n).Perm (List.range n)) (hv : Valid config) (n : Nat) :
    Balanced config n (expertRows randperm config n) := by
  have hcycle := cycle_perm hperm hv
  have hnodup := hcycle.nodup_iff.2 (nodup_selectable config)
  have htopK := topK_le_selectable hperm hv
  have hne : (baseCycle randperm config).map (shift config) ≠ [] := by
    intro hnil
    rw [← hcycle.length_eq, hnil] at htopK
    exact absurd hv.topK_pos (Nat.not_lt.2 htopK)
  have hrow : ∀ row ∈ expertRows randperm config n, ∃ i, row = (List.range config.topK).map fun j =>
      Cyclic.item ((baseCycle randperm config).map (shift config)) 0 (i * config.topK + j) := by
    intro row hmem
    obtain ⟨i, -, rfl⟩ := List.mem_map.1 hmem
    exact ⟨i, rfl⟩
  refine ⟨by simp [expertRows], fun row hmem => ?_, fun row hmem => ?_, fun row hmem e he => ?_,
    fun e he => ?_⟩
  · obtain ⟨i, rfl⟩ := hrow row hmem
    simp
  · obtain ⟨i, rfl⟩ := hrow row hmem
    exact Cyclic.nodup_window hnodup (by rwa [hcycle.length_eq]) _
  · obtain ⟨i, rfl⟩ := hrow row hmem
    obtain ⟨j, -, rfl⟩ := List.mem_map.1 he
    exact mem_selectable.1 (hcycle.mem_iff.1 (Cyclic.item_mem hne _))
  · rw [expertRows, Cyclic.flatten_rows, ← hcycle.length_eq]
    exact Cyclic.count_walk_cases hnodup (hcycle.mem_iff.2 (mem_selectable.2 he)) _

/-- A longer table starts with the shorter one. -/
theorem take_tables (randperm : Nat → List Nat) (config : RoutingConfig) {n m : Nat} (h : n ≤ m) :
    (tables randperm config m).expertIds.take n = (tables randperm config n).expertIds ∧
      (tables randperm config m).weights.take n = (tables randperm config n).weights := by
  constructor
  · simp [tables, expertRows, ← List.map_take, List.take_range, Nat.min_eq_left h]
  · simp [tables, Nat.min_eq_left h]

end Tables

/-! ## Histories -/

section Histories
variable {randperm : Nat → List Nat} {topnPerRank : Int}

/-- Every cached table is one its configuration gives. -/
def CacheSound (randperm : Nat → List Nat) (buffers : Buffers) : Prop :=
  ∀ key b, buffers.get? key = some b → ∃ m, buildRoutingBuffers randperm key.1 m = .ok b

theorem cacheSound_empty (randperm : Nat → List Nat) : CacheSound randperm ∅ := fun _ _ hget => nomatch hget

/-- A call that builds caches what it built. -/
theorem cacheSound_routeTokens {buffers : Buffers} (h : CacheSound randperm buffers) (request : Request) :
    CacheSound randperm (routeTokens randperm topnPerRank buffers request).2 := by
  unfold routeTokens
  split
  · exact h
  · split
    · exact h
    · rename_i b hbuild
      intro key b' hget
      rw [Dict.get?_set] at hget
      split at hget
      · rename_i hkey
        cases hget
        rw [hkey]
        exact ⟨_, hbuild⟩
      · exact h key b' hget

theorem cacheSound_buffersAfter (history : List Request) :
    CacheSound randperm (buffersAfter randperm topnPerRank history) := by
  induction history using List.reverseRecOn with
  | nil => exact cacheSound_empty randperm
  | append_singleton history request ih =>
    rw [buffersAfter, List.foldl_append]
    exact cacheSound_routeTokens ih request

/-- From a sound cache a valid call returns the tables of its token count. -/
theorem routeTokens_fst (hperm : ∀ n, (randperm n).Perm (List.range n)) {buffers : Buffers}
    (hs : CacheSound randperm buffers) {request : Request}
    (hvalid : validateConfig (request.config topnPerRank) = .ok ()) :
    (routeTokens randperm topnPerRank buffers request).1 =
      .ok (tables randperm (request.config topnPerRank) request.numTokens) := by
  have hbuild := buildRoutingBuffers_ok hperm hvalid
  unfold routeTokens
  split
  · rename_i b hcached
    obtain ⟨hget, hlen⟩ := Option.filter_eq_some_iff.1 hcached
    obtain ⟨m, hm⟩ := hs _ _ hget
    cases (hbuild m).symm.trans hm
    have hle : request.numTokens ≤ m := by simpa [tables, expertRows] using hlen
    obtain ⟨hids, hweights⟩ := take_tables randperm (request.config topnPerRank) hle
    simp only [hids, hweights]
  · rw [hbuild]
    obtain ⟨hids, hweights⟩ := take_tables randperm (request.config topnPerRank) (le_refl request.numTokens)
    simp only [hids, hweights]

/-- After every history of calls a valid call gives its tokens distinct
selected experts, each expert equally often up to one over the step, and the
result is the one a fresh strategy gives. -/
theorem routeTokens_balanced (hperm : ∀ n, (randperm n).Perm (List.range n)) (history : List Request)
    (request : Request) (hvalid : validateConfig (request.config topnPerRank) = .ok ()) :
    ∃ result, (routeTokens randperm topnPerRank (buffersAfter randperm topnPerRank history) request).1 =
      .ok result ∧
      (routeTokens randperm topnPerRank ∅ request).1 = .ok result ∧
      Balanced (request.config topnPerRank) request.numTokens result.expertIds :=
  ⟨_, routeTokens_fst hperm (cacheSound_buffersAfter history) hvalid,
    routeTokens_fst hperm (cacheSound_empty randperm) hvalid,
    balanced_expertRows hperm (valid_of_ok hvalid) _⟩

/-- Two ranks with two of four experts each, after a longer call. -/
theorem routeTokens_balanced_pools : ∃ result,
    (routeTokens List.range 2 (buffersAfter List.range 2 [⟨8, 2, 0, 4, "cuda:0", none, 5⟩])
      ⟨8, 2, 0, 4, "cuda:0", none, 2⟩).1 = .ok result ∧
    (routeTokens List.range 2 ∅ ⟨8, 2, 0, 4, "cuda:0", none, 2⟩).1 = .ok result ∧
    Balanced ⟨8, 2, 0, 4, 2⟩ 2 result.expertIds :=
  routeTokens_balanced (fun _ => List.Perm.refl _) _ ⟨8, 2, 0, 4, "cuda:0", none, 2⟩ rfl

end Histories

end AfdPlugin.RoutingSimulator
