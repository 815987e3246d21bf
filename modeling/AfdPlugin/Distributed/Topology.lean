import AfdPlugin.Config
import AfdPlugin.Lib.Blocks
/-!
# The P2P rank topology

The P2P world is `[F0, F1, …, A0, A1, …]`. Each FFN rank owns a subgroup:
itself at subgroup rank 0, then a contiguous block of Attention ranks. Every
process computes its own `AFDRankMapping`; nothing is exchanged, so the
theorems here are about the mappings of different processes agreeing.
-/

namespace AfdPlugin.Topology

open Blocks

/-- What one process knows about its place in the P2P world. -/
structure AFDRankMapping where
  role : AFDRole
  roleRank : Nat
  worldRank : Nat
  p2pRank : Nat
  attentionSize : Nat
  ffnSize : Nat
  minSize : Nat
  subgroupIndex : Nat
  rankInSubgroup : Nat
  subgroupRanks : List Nat
  dpMetadataDestinations : List Nat := []
  deriving DecidableEq, Repr

def AFDRankMapping.isAttentionTopMinSizeRank (m : AFDRankMapping) : Bool :=
  decide (m.ffnSize ≤ m.worldRank ∧ m.worldRank < m.ffnSize + m.minSize)

def AFDRankMapping.participatesInDpMetadataGroup (m : AFDRankMapping) : Bool :=
  decide (m.worldRank < m.ffnSize) || m.isAttentionTopMinSizeRank

/-- `(attention_size, ffn_size)`. -/
def topologyFromConfig (config : AFDConfig) : Nat × Nat := (config.numAttentionRanks, config.numFfnRanks)

def validateP2pTopology (config : AFDConfig) : Except String Unit :=
  let (attentionSize, ffnSize) := topologyFromConfig config
  if attentionSize < ffnSize then
    .error s!"P2pNcclAFDConnector currently requires num_attention_ranks >= num_ffn_ranks, got {attentionSize} < {ffnSize}"
  else .ok ()

/-- Attention role ranks owned by one FFN rank: contiguous, sizes within one. -/
def subgroupAttentionBlock (subgroupIndex attentionSize ffnSize : Nat) : List Nat :=
  let start := (subgroupIndex * attentionSize + ffnSize - 1) / ffnSize
  let stop := ((subgroupIndex + 1) * attentionSize + ffnSize - 1) / ffnSize
  List.range' start (stop - start)

/-- The `while` loop that collects `dp_metadata_destinations`; `fuel` bounds
its rounds (each moves `destination` up by `min_size ≥ 1`). -/
def destinationsFrom (ffnSize minSize : Nat) : Nat → Nat → List Nat
  | 0, _ => []
  | fuel + 1, destination =>
    if destination < ffnSize then
      destination :: destinationsFrom ffnSize minSize fuel (destination + minSize)
    else []

/-- The world ranks of one subgroup, in subgroup order. -/
def subgroupRanksOf (subgroupIndex attentionSize ffnSize : Nat) : List Nat :=
  subgroupIndex :: (subgroupAttentionBlock subgroupIndex attentionSize ffnSize).map (ffnSize + ·)

/-- Build the P2P rank mapping for one Attention or FFN process. -/
def buildRankMapping (config : AFDConfig) (roleRank : Int) : Except String AFDRankMapping := do
  validateP2pTopology config
  let (attentionSize, ffnSize) := topologyFromConfig config
  if roleRank < 0 then
    throw s!"AFD role rank must be non-negative, got {roleRank}"
  let rank := roleRank.toNat
  let (worldRank, subgroupIndex) ← match config.role with
    | .attention =>
      if rank ≥ attentionSize then
        throw s!"Attention role rank must be within attention size (rank={rank}, size={attentionSize})"
      else pure (ffnSize + rank, rank * ffnSize / attentionSize)
    | .ffn =>
      if rank ≥ ffnSize then
        throw s!"FFN role rank must be within FFN size (rank={rank}, size={ffnSize})"
      else pure (rank, rank)
  let minSize := min ffnSize attentionSize
  let subgroupRanks := subgroupRanksOf subgroupIndex attentionSize ffnSize
  let rankInSubgroup ← match subgroupRanks.idxOf? worldRank with
    | some i => pure i
    | none => throw "tuple.index(x): x not in tuple"
  let p2pRank := match config.role with
    | .attention => rank + minSize
    | .ffn => rank
  let destinations :=
    if ffnSize ≤ worldRank ∧ worldRank < ffnSize + minSize then
      destinationsFrom ffnSize minSize ffnSize (worldRank - ffnSize)
    else []
  pure {
    role := config.role
    roleRank := rank
    worldRank := worldRank
    p2pRank := p2pRank
    attentionSize := attentionSize
    ffnSize := ffnSize
    minSize := minSize
    subgroupIndex := subgroupIndex
    rankInSubgroup := rankInSubgroup
    subgroupRanks := subgroupRanks
    dpMetadataDestinations := destinations }

/-- The mapping the process at one world rank builds. -/
def mappingAt (attentionSize ffnSize worldRank : Nat) : Except String AFDRankMapping :=
  if worldRank < ffnSize then
    buildRankMapping { role := .ffn, numAttentionRanks := attentionSize, numFfnRanks := ffnSize } worldRank
  else
    buildRankMapping { role := .attention, numAttentionRanks := attentionSize, numFfnRanks := ffnSize }
      (worldRank - ffnSize : Nat)

/-! ## Blocks of Attention ranks -/

section Sizes
variable {A F : Nat}

theorem subgroupAttentionBlock_eq (f A F : Nat) :
    subgroupAttentionBlock f A F = block (ceilBound A F) f := rfl

theorem mem_subgroupAttentionBlock (hA : 0 < A) (hF : 0 < F) {f a : Nat} :
    a ∈ subgroupAttentionBlock f A F ↔ a * F / A = f := by
  rw [subgroupAttentionBlock_eq, mem_block_ceilBound hA hF]

theorem length_subgroupAttentionBlock (hF : 0 < F) (f : Nat) :
    A / F ≤ (subgroupAttentionBlock f A F).length ∧ (subgroupAttentionBlock f A F).length ≤ A / F + 1 := by
  have := ceilBound_succ A hF f
  rw [subgroupAttentionBlock_eq, length_block]
  generalize A / F = q at *
  omega

theorem subgroupAttentionBlock_lt (hA : 0 < A) (hF : 0 < F) {f a : Nat} (hf : f < F)
    (ha : a ∈ subgroupAttentionBlock f A F) : a < A := by
  rw [mem_subgroupAttentionBlock hA hF] at ha
  by_contra h
  have hle : F ≤ a * F / A :=
    (Nat.le_div_iff_mul_le hA).2 (by rw [Nat.mul_comm]; exact Nat.mul_le_mul_right F (by omega))
  omega

theorem subgroup_lt (hA : 0 < A) {a : Nat} (ha : a < A) (hF : 0 < F) : a * F / A < F := by
  rw [Nat.div_lt_iff_lt_mul hA, Nat.mul_comm F A]
  exact Nat.mul_lt_mul_of_pos_right ha hF

/-- The blocks of all FFN ranks are the Attention ranks in order. -/
theorem flatMap_subgroupAttentionBlock (hA : 0 < A) (hF : 0 < F) :
    (List.range F).flatMap (subgroupAttentionBlock · A F) = List.range A := by
  have h := flatMap_block (b := ceilBound A F) (n := F) fun i _ => ceilBound_mono hA hF (Nat.le_succ i)
  rw [ceilBound_zero, ceilBound_last A hF, Nat.sub_zero, ← List.range_eq_range'] at h
  exact h

/-! ## Subgroups -/

theorem subgroupRanksOf_nodup (f : Nat) (hf : f < F) : (subgroupRanksOf f A F).Nodup := by
  rw [subgroupRanksOf, List.nodup_cons]
  refine ⟨?_, (nodup_block (ceilBound A F) f).map fun x y h => Nat.add_left_cancel h⟩
  simp only [List.mem_map, not_exists, not_and]
  intro a _ h
  omega

theorem mem_subgroupRanksOf (hA : 0 < A) (hF : 0 < F) {f w : Nat} (hf : f < F) :
    w ∈ subgroupRanksOf f A F ↔ w = f ∨ F ≤ w ∧ w < F + A ∧ (w - F) * F / A = f := by
  simp only [subgroupRanksOf, List.mem_cons, List.mem_map]
  constructor
  · rintro (rfl | ⟨a, ha, rfl⟩)
    · exact .inl rfl
    · have hlt := subgroupAttentionBlock_lt hA hF hf ha
      rw [mem_subgroupAttentionBlock hA hF] at ha
      exact .inr ⟨by omega, by omega, by rwa [Nat.add_sub_cancel_left]⟩
  · rintro (rfl | ⟨h1, h2, h3⟩)
    · exact .inl rfl
    · exact .inr ⟨w - F, (mem_subgroupAttentionBlock hA hF).2 h3, by omega⟩

/-- What an FFN process computes. -/
theorem buildRankMapping_ffn (hFA : F ≤ A) {g : Bool} {f : Nat} (hf : f < F) :
    buildRankMapping ⟨.ffn, A, F, g⟩ f = .ok {
      role := .ffn, roleRank := f, worldRank := f, p2pRank := f, attentionSize := A, ffnSize := F,
      minSize := min F A, subgroupIndex := f, rankInSubgroup := 0, subgroupRanks := subgroupRanksOf f A F,
      dpMetadataDestinations := [] } := by
  have hidx : (subgroupRanksOf f A F).idxOf? f = some 0 := by simp [subgroupRanksOf, List.idxOf?_cons]
  have hA : ¬ A < F := by omega
  have hr : ¬ f ≥ F := by omega
  simp only [buildRankMapping, validateP2pTopology, topologyFromConfig, hA, if_false, Int.toNat_natCast,
    hr, hidx, Int.natCast_nonneg, not_lt.2, bind, Except.bind, pure, Except.pure, false_and]

/-- What an Attention process computes. -/
theorem buildRankMapping_attention (hF : 0 < F) (hFA : F ≤ A) {g : Bool} {a : Nat} (ha : a < A) :
    buildRankMapping ⟨.attention, A, F, g⟩ a = .ok {
      role := .attention, roleRank := a, worldRank := F + a, p2pRank := a + min F A, attentionSize :=
        A, ffnSize := F,
      minSize := min F A, subgroupIndex := a * F / A,
      rankInSubgroup := (subgroupRanksOf (a * F / A) A F).idxOf (F + a),
      subgroupRanks := subgroupRanksOf (a * F / A) A F,
      dpMetadataDestinations := if a < min F A then destinationsFrom F (min F A) F a else [] } := by
  have hA0 : 0 < A := by omega
  have hmem : F + a ∈ subgroupRanksOf (a * F / A) A F :=
    (mem_subgroupRanksOf hA0 hF (subgroup_lt hA0 ha hF)).2
      (.inr ⟨by omega, by omega, by rw [Nat.add_sub_cancel_left]⟩)
  have hidx : (subgroupRanksOf (a * F / A) A F).idxOf? (F + a) =
      some ((subgroupRanksOf (a * F / A) A F).idxOf (F + a)) := by
    rw [List.idxOf?_eq_some_iff]
    refine ⟨List.idxOf_lt_length_of_mem hmem, List.getElem_idxOf _, fun j hj h => ?_⟩
    exact absurd h (by simpa [List.idxOf] using List.not_of_lt_findIdx hj)
  have hA : ¬ A < F := by omega
  have hr : ¬ a ≥ A := by omega
  have hw : (F ≤ F + a ∧ F + a < F + min F A) ↔ a < min F A := by omega
  simp only [buildRankMapping, validateP2pTopology, topologyFromConfig, hA, if_false, Int.toNat_natCast,
    hr, hidx, hw, Int.natCast_nonneg, not_lt.2, bind, Except.bind, pure, Except.pure,
    Nat.add_sub_cancel_left]

/-- A mapping is only built for a rank of its role. -/
theorem roleRank_of_buildRankMapping {config : AFDConfig} {r : Int} {m : AFDRankMapping}
    (h : buildRankMapping config r = .ok m) :
    ∃ n : Nat, r = n ∧ n < match config.role with
      | .attention => config.numAttentionRanks
      | .ffn => config.numFfnRanks := by
  have hr : ¬ r < 0 := by
    intro hr
    unfold buildRankMapping at h
    cases hv : validateP2pTopology config
      <;> simp [hv, hr, bind, Except.bind, throw, throwThe, MonadExceptOf.throw] at h
  refine ⟨r.toNat, by omega, ?_⟩
  unfold buildRankMapping at h
  cases hv : validateP2pTopology config with
  | error e => simp [hv, bind, Except.bind] at h
  | ok u =>
    cases hrole : config.role <;>
      (simp only [hrole, topologyFromConfig] at h ⊢
       by_contra hge
       simp [hv, hr, bind, Except.bind, throw, throwThe, MonadExceptOf.throw, not_lt.1 hge] at h)

/-- The subgroup an FFN or Attention process belongs to. -/
theorem mappingAt_spec (hF : 0 < F) (hFA : F ≤ A) {w : Nat} (hw : w < F + A) :
    ∃ m f, mappingAt A F w = .ok m ∧ f < F ∧ m.worldRank = w ∧ m.subgroupIndex = f ∧
      w ∈ subgroupRanksOf f A F ∧
      m.subgroupRanks = subgroupRanksOf f A F ∧ m.rankInSubgroup = (subgroupRanksOf f A F).idxOf w := by
  unfold mappingAt
  split
  case isTrue h =>
    refine ⟨_, w, buildRankMapping_ffn hFA h, h, rfl, rfl, ?_, rfl, ?_⟩ <;> simp [subgroupRanksOf]
  case isFalse h =>
    have hA : 0 < A := by omega
    have ha : w - F < A := by omega
    have hsum : F + (w - F) = w := by omega
    refine ⟨_, (w - F) * F / A, buildRankMapping_attention hF hFA ha, subgroup_lt hA ha hF, hsum, rfl,
      ?_, rfl, ?_⟩
    · exact (mem_subgroupRanksOf hA hF (subgroup_lt hA ha hF)).2 (.inr ⟨by omega, hw, rfl⟩)
    · rw [hsum]

/-- The lists the FFN ranks build cut the world into disjoint subgroups. -/
theorem flatMap_subgroupRanksOf_perm (hA : 0 < A) (hF : 0 < F) :
    ((List.range F).flatMap (subgroupRanksOf · A F)).Perm (List.range (F + A)) := by
  have hsplit : ((List.range F).flatMap (subgroupRanksOf · A F)).Perm
      (List.range F ++ (List.range F).flatMap fun f => (subgroupAttentionBlock f A F).map (F + ·)) := by
    have h := List.flatMap_append_perm (List.range F) (fun f => [f])
      fun f => (subgroupAttentionBlock f A F).map (F + ·)
    simpa [subgroupRanksOf] using h.symm
  rw [← List.map_flatMap, flatMap_subgroupAttentionBlock hA hF, ← List.range_add] at hsplit
  exact hsplit

/-- Every member of a subgroup computes the same roster and finds itself at
its own index in it. -/
theorem mappingAt_member (hF : 0 < F) (hFA : F ≤ A) {f i : Nat} (hf : f < F)
    (hi : i < (subgroupRanksOf f A F).length) :
    ∃ m, mappingAt A F (subgroupRanksOf f A F)[i] = .ok m ∧ m.worldRank = (subgroupRanksOf f A F)[i] ∧
      m.subgroupIndex = f ∧ m.subgroupRanks = subgroupRanksOf f A F ∧ m.rankInSubgroup = i := by
  have hA : 0 < A := by omega
  have hmem := List.getElem_mem hi
  have hw : (subgroupRanksOf f A F)[i] < F + A := by
    rcases (mem_subgroupRanksOf hA hF hf).1 hmem with h | h <;> omega
  obtain ⟨m, f', hm, hf', hwr, hsi, hin, hsr, hri⟩ := mappingAt_spec hF hFA hw
  have hff : f' = f := by
    rcases (mem_subgroupRanksOf hA hF hf).1 hmem with h | h <;>
      rcases (mem_subgroupRanksOf hA hF hf').1 hin with h' | h' <;> omega
  subst hff
  refine ⟨m, hm, hwr, hsi, hsr, ?_⟩
  rw [hri, (subgroupRanksOf_nodup f' hf).idxOf_getElem]

end Sizes

/-- The P2P topology: the rosters the FFN ranks build partition the world; a
roster is one FFN rank followed by a non-empty contiguous block of Attention
ranks, and block sizes differ by at most one; Attention rank `a` is in block
`f` exactly when its own mapping sends it to `f`; and every member of a
subgroup computes the same roster, in which its `rank_in_subgroup` is its
index. -/
theorem p2p_topology (A F : Nat) (hF : 1 ≤ F) (hFA : F ≤ A) :
    (∀ f < F, ∃ m, mappingAt A F f = .ok m ∧ m.subgroupRanks = subgroupRanksOf f A F) ∧
    ((List.range F).flatMap (subgroupRanksOf · A F)).Perm (List.range (F + A)) ∧
    (∀ f < F, ∃ start size, 1 ≤ size ∧ subgroupAttentionBlock f A F = List.range' start size ∧
      subgroupRanksOf f A F = f :: (List.range' start size).map (F + ·)) ∧
    (∀ f < F, ∀ f' < F, (subgroupAttentionBlock f A F).length ≤
      (subgroupAttentionBlock f' A F).length + 1) ∧
    (∀ a < A, ∃ m, mappingAt A F (F + a) = .ok m ∧ m.subgroupIndex = a * F / A ∧
      ∀ f < F, a ∈ subgroupAttentionBlock f A F ↔ m.subgroupIndex = f) ∧
    (∀ f < F, ∀ i, ∀ hi : i < (subgroupRanksOf f A F).length,
      ∃ m, mappingAt A F (subgroupRanksOf f A F)[i] = .ok m ∧ m.worldRank = (subgroupRanksOf f A F)[i] ∧
        m.subgroupRanks = subgroupRanksOf f A F ∧ m.rankInSubgroup = i) := by
  have hA : 0 < A := by omega
  refine ⟨fun f hf => ?_, flatMap_subgroupRanksOf_perm hA hF, fun f hf => ?_, fun f _ f' _ => ?_,
    fun a ha => ?_, fun f hf i hi => ?_⟩
  · exact ⟨_, by rw [mappingAt, if_pos hf]; exact buildRankMapping_ffn hFA hf, rfl⟩
  · have hlen := (length_subgroupAttentionBlock (A := A) hF f).1
    have hdiv : 1 ≤ A / F := (Nat.one_le_div_iff hF).2 hFA
    rw [subgroupAttentionBlock_eq, length_block] at hlen
    exact ⟨ceilBound A F f, _, hdiv.trans hlen, subgroupAttentionBlock_eq f A F, rfl⟩
  · have h1 := (length_subgroupAttentionBlock (A := A) hF f).2
    have h2 := (length_subgroupAttentionBlock (A := A) hF f').1
    omega
  · have hm : mappingAt A F (F + a) = buildRankMapping ⟨.attention, A, F, false⟩ a := by
      rw [mappingAt, if_neg (by omega), Nat.add_sub_cancel_left]
    exact ⟨_, hm.trans (buildRankMapping_attention hF hFA ha), rfl,
      fun f _ => mem_subgroupAttentionBlock hA hF⟩
  · obtain ⟨m, hm, hw, -, hsr, hri⟩ := mappingAt_member hF hFA hf hi
    exact ⟨m, hm, hw, hsr, hri⟩

/-- Three Attention ranks on two FFN ranks. -/
theorem p2p_topology_three_two :
    (∀ f < 2, ∀ f' < 2, (subgroupAttentionBlock f 3 2).length ≤
      (subgroupAttentionBlock f' 3 2).length + 1) ∧
      (List.range 2).map (subgroupRanksOf · 3 2) = [[0, 2, 3], [1, 4]] :=
  ⟨(p2p_topology 3 2 (by decide) (by decide)).2.2.2.1, by decide⟩

end AfdPlugin.Topology
