import AfdPlugin.Kernels.WindowRounds
/-!
# Places of a window

The rounds keep counters, flags and rows apart; in a rank's window all of them lie
in one range of memory, the flags first, then the counters, then the rows. Here is
where the kernels put each, and that no two overlap.
-/

namespace AfdPlugin.Kernels

/-! ## The layout -/

def CAM_MAX_RANK_SIZE : Nat := 384

/-- Sizes that the two architectures lay a window out with. -/
structure WindowLayout where
  OPT_RANK_OFFSET : Nat
  IPC_DATA_OFFSET : Nat

def layoutA3 : WindowLayout := ⟨512, 2 * 1024 * 1024⟩

def layoutA5 : WindowLayout := ⟨1024, 1024 * 1024⟩

namespace WindowLayout
variable (w : WindowLayout)

/-- Where `shareAddrs` of a rank points in its window. -/
def shareAddr (rank : Nat) : Nat := rank * w.OPT_RANK_OFFSET

/-- Where the counter of a core is. -/
def magicAddr (blockNum blockIdx : Nat) : Nat := w.IPC_DATA_OFFSET - blockNum * 4 * 8 + blockIdx * 8 * 4

/-- Where the rows begin. -/
def dataAddr (rank : Nat) : Nat := w.shareAddr rank + w.IPC_DATA_OFFSET

end WindowLayout

/-- What a window holds: the counter of a core, a flag by its offset, a byte of the
rows. -/
inductive Place
  | counter (core : Nat)
  | flag (addr : Nat)
  | row (offset : Nat)
  deriving DecidableEq, Repr

/-- The bytes of a place in the window of a rank with `blockNum` cores. -/
def WindowLayout.region (w : WindowLayout) (blockNum rank : Nat) : Place → Region
  | .counter core => ⟨w.magicAddr blockNum core, 32⟩
  | .flag addr => ⟨w.shareAddr rank + addr, 8⟩
  | .row offset => ⟨w.dataAddr rank + offset, 1⟩

/-! ## What the cores use -/

/-- The place of an address, when it is in a window. -/
def Address.places (a : Address) : List (Nat × Place) :=
  match a.buffer with
  | .window rank => [(rank, .row a.offset)]
  | _ => []

/-- The places an operation of a core uses, each with the rank of the window. -/
def CoreOp.places (rank core : Nat) : CoreOp → List (Nat × Place)
  | .add => [(rank, .counter core)]
  | .read => [(rank, .counter core)]
  | .copy src dst => src.places ++ dst.places
  | .arrive => []
  | .leave => []
  | .flag r addr => [(r, .flag addr)]
  -- the upper word of the flag
  | .wait word => [(rank, .flag (word - 4))]
  | .poll addr => [(rank, .flag addr)]

theorem mem_places {a : Address} {r : Nat} {p : Place} (h : (r, p) ∈ a.places) :
    a.buffer = .window r ∧ p = .row a.offset := by
  unfold Address.places at h
  split at h
  · rename_i rank hbuffer
    simp only [List.mem_singleton, Prod.mk.injEq] at h
    exact ⟨by rw [hbuffer, h.1], h.2⟩
  · cases h

namespace Rounds
variable {g : Rounds}

/-- The places that the rounds use in the window of a rank. -/
def Uses (g : Rounds) (rank : Nat) : Place → Prop
  | .counter core => core < g.cores rank
  | .flag addr => ∃ ℓ, g.validLink ℓ ∧ addr = flagAddr (g.slot ℓ)
  | .row _ => True

theorem window_lt (h : g.Valid) {ℓ : Link} (hℓ : g.validLink ℓ) : g.window ℓ < g.rankSize := by
  rcases ℓ with ⟨e, i, channel⟩ | ⟨e, i⟩
  · exact attn_lt h hℓ.1 hℓ.2.1
  · exact attn_lt h hℓ.1 hℓ.2

/-- A wait is the wait for a link that leads here. -/
theorem exists_wait (h : g.Valid) {rank n c : Nat} {op : CoreOp} (hrank : rank < g.rankSize)
    (hop : (∃ word, op = .wait word) ∨ ∃ addr, op = .poll addr) (hmem : op ∈ g.ops rank n c) :
    ∃ ℓ, g.validLink ℓ ∧ g.receiver ℓ = rank ∧ op = g.waitOp ℓ := by
  have hcopies : ∀ bytes : List (Address × Address), op ∉ bytes.map copyOp :=
    not_mem_map_copyOp fun src dst heq => by rcases hop with ⟨_, rfl⟩ | ⟨_, rfl⟩ <;> cases heq
  rcases Nat.lt_or_ge rank g.expertRankSize with hlt | hge
  · rcases Nat.mod_two_eq_zero_or_one n with hn | hn
    · rw [ops_expert_even h hlt hn, List.mem_append, List.mem_flatMap] at hmem
      rcases hmem with hmem | ⟨⟨channel, i⟩, hs, hmem⟩
      · rcases hop with ⟨_, rfl⟩ | ⟨_, rfl⟩ <;> simp [countOps] at hmem
      · exact ⟨.forward rank i channel, ⟨hlt, recvSegments_valid hs⟩, rfl,
          (List.mem_cons.1 hmem).resolve_right (hcopies _)⟩
    · simp only [ops_expert_odd h hlt hn, List.mem_append, hcopies, or_false] at hmem
      rcases hop with ⟨_, rfl⟩ | ⟨_, rfl⟩ <;> simp [countOps, syncAll, flagOp] at hmem
  · obtain ⟨e, he, i, hi, rfl⟩ := exists_attn h hge hrank
    rcases Nat.mod_two_eq_zero_or_one n with hn | hn
    · simp only [ops_attn_even h he hn, List.mem_append, hcopies, or_false] at hmem
      split_ifs at hmem <;> rcases hop with ⟨_, rfl⟩ | ⟨_, rfl⟩ <;> simp [countOps, syncAll, flagOp] at hmem
    · simp only [ops_attn_odd hn, List.mem_append, hcopies, or_false, List.mem_singleton] at hmem
      refine ⟨.back e i, ⟨he, hi⟩, rfl, hmem.resolve_left fun hcount => ?_⟩
      rcases hop with ⟨_, rfl⟩ | ⟨_, rfl⟩ <;> simp [countOps] at hcount

/-- What a core uses is one of the places. -/
theorem uses_of_mem_places (h : g.Valid) {rank core n : Nat} {op : CoreOp} (hrank : rank < g.rankSize)
    (hcore : core < g.cores rank) (hop : op ∈ g.ops rank n core) {r : Nat} {p : Place}
    (hp : (r, p) ∈ op.places rank core) : r < g.rankSize ∧ g.Uses r p := by
  have hown : ∀ {p'}, (r, p) ∈ [(rank, p')] → r = rank ∧ p = p' := by
    intro p' hmem
    simpa using hmem
  cases op with
  | add | read =>
    obtain ⟨rfl, rfl⟩ := hown hp
    exact ⟨hrank, hcore⟩
  | copy src dst =>
    rcases List.mem_append.1 hp with hp | hp <;> obtain ⟨hbuffer, rfl⟩ := mem_places hp
    · obtain ⟨ℓ, hℓ, -, -, rfl⟩ := exists_read_link h hrank hcore hbuffer hop
      exact ⟨window_lt h hℓ, trivial⟩
    · obtain ⟨ℓ, hℓ, -, -, rfl, -⟩ := exists_payload h hrank hcore hbuffer hop
      exact ⟨window_lt h hℓ, trivial⟩
  | arrive | leave => cases hp
  | flag r' addr =>
    obtain ⟨ℓ, hℓ, -, -, heq⟩ := exists_flag h hrank hop
    simp only [flagOp, CoreOp.flag.injEq] at heq
    simp only [CoreOp.places, List.mem_singleton, Prod.mk.injEq] at hp
    obtain ⟨rfl, rfl⟩ := hp
    exact ⟨heq.1 ▸ receiver_lt h hℓ, ℓ, hℓ, heq.2⟩
  | wait word =>
    obtain ⟨ℓ, hℓ, -, heq⟩ := exists_wait h hrank (.inl ⟨word, rfl⟩) hop
    obtain ⟨rfl, rfl⟩ := hown hp
    refine ⟨hrank, ℓ, hℓ, ?_⟩
    cases ℓ with
    | forward e i channel =>
      simp only [waitOp, CoreOp.wait.injEq] at heq
      rw [heq, magicWord, Nat.add_sub_cancel]
    | back e i => cases heq
  | poll addr =>
    obtain ⟨ℓ, hℓ, -, heq⟩ := exists_wait h hrank (.inr ⟨addr, rfl⟩) hop
    obtain ⟨rfl, rfl⟩ := hown hp
    refine ⟨hrank, ℓ, hℓ, ?_⟩
    cases ℓ with
    | forward e i channel => cases heq
    | back e i => exact CoreOp.poll.inj heq

/-! ## No two overlap -/

theorem magicAddr_eq (w : WindowLayout) (blockNum core : Nat) :
    w.magicAddr blockNum core = w.magicAddr blockNum 0 + core * 32 := by
  simp only [WindowLayout.magicAddr]
  omega

/-- Flags, counters and rows are in areas of their own: in a window the flags come
first, then the counters, then the rows. -/
theorem areas_apart {w : WindowLayout} (hw : w = layoutA3 ∨ w = layoutA5)
    (hsize : g.rankSize ≤ CAM_MAX_RANK_SIZE) {rank blockNum : Nat} (hrank : rank < g.rankSize)
    (hcores : blockNum ≤ 2 ^ 14) :
    (∀ ℓ, g.validLink ℓ → w.shareAddr rank + flagAddr (g.slot ℓ) + 8 ≤ w.magicAddr blockNum 0) ∧
      w.magicAddr blockNum 0 + blockNum * 32 ≤ w.dataAddr rank := by
  have hratio : g.ratio ≤ g.attentionRankSize := Nat.div_le_self _ _
  have hslot : ∀ ℓ, g.validLink ℓ → g.slot ℓ ≤ 4 * g.rankSize := by
    rintro (⟨e, i, channel⟩ | ⟨e, i⟩) hℓ
    · have hi : i < g.ratio := hℓ.2.1
      rw [rankSize]
      cases channel <;> simp only [slot, Channel.flagOffset] <;> omega
    · exact Nat.zero_le _
  unfold CAM_MAX_RANK_SIZE at hsize
  refine ⟨fun ℓ hℓ => ?_, ?_⟩
  · have := hslot ℓ hℓ
    rcases hw with rfl | rfl <;>
      simp only [WindowLayout.shareAddr, WindowLayout.magicAddr, layoutA3, layoutA5, flagAddr,
        flagUnitInt64Num] <;>
      omega
  · rcases hw with rfl | rfl <;>
      simp only [WindowLayout.shareAddr, WindowLayout.magicAddr, WindowLayout.dataAddr, layoutA3,
        layoutA5] <;> omega

/-- Two places of one window do not overlap. -/
theorem region_disjoint {w : WindowLayout} (hw : w = layoutA3 ∨ w = layoutA5)
    (hsize : g.rankSize ≤ CAM_MAX_RANK_SIZE) {rank : Nat} (hrank : rank < g.rankSize)
    (hcores : g.cores rank ≤ 2 ^ 14) {p p' : Place} (hp : g.Uses rank p) (hp' : g.Uses rank p')
    (hne : p ≠ p') :
    (w.region (g.cores rank) rank p).Disjoint (w.region (g.cores rank) rank p') := by
  obtain ⟨hflags, hcounters⟩ := areas_apart hw hsize hrank hcores
  have hcounter : ∀ core, w.region (g.cores rank) rank (.counter core) =
      ⟨w.magicAddr (g.cores rank) 0 + core * 32, 32⟩ := by
    intro core
    rw [WindowLayout.region, magicAddr_eq]
  have hflag : ∀ {addr}, g.Uses rank (.flag addr) →
      w.shareAddr rank + addr + 8 ≤ w.magicAddr (g.cores rank) 0 := by
    rintro addr ⟨ℓ, hℓ, rfl⟩
    exact hflags ℓ hℓ
  rcases p with core | addr | offset <;> rcases p' with core' | addr' | offset'
  · have hcore : core ≠ core' := fun heq => hne (by rw [heq])
    simp only [hcounter, Region.Disjoint, Region.stop]
    omega
  · rw [hcounter]
    exact (Region.disjoint_of_le ((hflag hp').trans (Nat.le_add_right _ _))).symm
  · have hcore : core < g.cores rank := hp
    rw [hcounter]
    apply Region.disjoint_of_le
    simp only [Region.stop, WindowLayout.region]
    omega
  · rw [hcounter]
    exact Region.disjoint_of_le ((hflag hp).trans (Nat.le_add_right _ _))
  · -- flags are four words apart
    have haddr : addr ≠ addr' := fun heq => hne (by rw [heq])
    obtain ⟨ℓ, -, rfl⟩ := hp
    obtain ⟨ℓ', -, rfl⟩ := hp'
    simp only [flagAddr, flagUnitInt64Num] at haddr
    simp only [WindowLayout.region, Region.Disjoint, Region.stop, flagAddr, flagUnitInt64Num]
    omega
  · apply Region.disjoint_of_le
    have := hflag hp
    simp only [Region.stop, WindowLayout.region]
    omega
  · have hcore : core' < g.cores rank := hp'
    rw [hcounter]
    apply Region.Disjoint.symm
    apply Region.disjoint_of_le
    simp only [Region.stop, WindowLayout.region]
    omega
  · apply Region.Disjoint.symm
    apply Region.disjoint_of_le
    have := hflag hp'
    simp only [Region.stop, WindowLayout.region]
    omega
  · have hoffset : offset ≠ offset' := fun heq => hne (by rw [heq])
    simp only [WindowLayout.region, Region.Disjoint, Region.stop]
    omega

/-- What the cores of the rounds use of a window at different places does not
overlap. -/
def PlacesApart (g : Rounds) (w : WindowLayout) : Prop :=
  ∀ rank < g.rankSize, ∀ core < g.cores rank, ∀ n, ∀ op ∈ g.ops rank n core,
  ∀ rank' < g.rankSize, ∀ core' < g.cores rank', ∀ n', ∀ op' ∈ g.ops rank' n' core',
  ∀ r p p', (r, p) ∈ op.places rank core → (r, p') ∈ op'.places rank' core' → p ≠ p' →
    (w.region (g.cores r) r p).Disjoint (w.region (g.cores r) r p')

theorem placesApart (h : g.Valid) {w : WindowLayout} (hw : w = layoutA3 ∨ w = layoutA5)
    (hsize : g.rankSize ≤ CAM_MAX_RANK_SIZE) (hcores : ∀ rank < g.rankSize, g.cores rank ≤ 2 ^ 14) :
    g.PlacesApart w := by
  intro rank hrank core hcore n op hop rank' hrank' core' hcore' n' op' hop' r p p' hp hp' hne
  obtain ⟨hr, huses⟩ := uses_of_mem_places h hrank hcore hop hp
  obtain ⟨-, huses'⟩ := uses_of_mem_places h hrank' hcore' hop' hp'
  exact region_disjoint hw hsize hr (hcores r hr) huses huses' hne

end Rounds

end AfdPlugin.Kernels
