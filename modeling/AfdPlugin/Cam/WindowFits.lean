import AfdPlugin.Cam.WindowLayout
/-!
# When the window layout is sound

The hosts check the sizes with the kernels' own 32-bit arithmetic, so they
accept a size that was truncated, and they leave no room for the round-robin
slot at the end of a MoE rank's window. Dispatch-recv keeps only 16 bits of
`tpSize`.
-/

namespace AfdPlugin.Cam

/-! ## A MoE rank's window -/

section Moe
variable {R B L K : Nat}

theorem workspaceSizePerAttn_eq (R B L K : Nat) :
    workspaceSizePerAttn R B L K =
      64 + ceilRem (4 * R) 32 + ceilRem (4 * R) 32 + ceilRem (B * L) 32 + ceilRem (2 * L * K) 32 := by
  have hheader : ceilRem (8 * BATCH_INFO_VAL_NUM) UB_ALIGN = 64 := by decide
  have hr := ceilRem_mod (4 * R)
  have ht := ceilRem_mod (B * L)
  have hq := ceilRem_mod (2 * L * K)
  unfold workspaceSizePerAttn
  rw [hheader]
  simp only [UB_ALIGN]
  omega

/-- The offsets of a part when nothing wraps around in 64 bits. -/
theorem attnOffsets_eq {a : Nat}
    (h : workspaceSizePerAttn R B L K * a + workspaceSizePerAttn R B L K < 2 ^ 64) :
    attnOffsets R B L K a =
      let w := workspaceSizePerAttn R B L K * a
      ⟨w, w + 64, w + 64 + ceilRem (4 * R) 32, w + 64 + ceilRem (4 * R) 32 + ceilRem (4 * R) 32,
        w + 64 + ceilRem (4 * R) 32 + ceilRem (4 * R) 32 + ceilRem (B * L) 32⟩ := by
  have hheader : ceilRem (8 * BATCH_INFO_VAL_NUM) 32 = 64 := by decide
  have hW := workspaceSizePerAttn_eq R B L K
  unfold attnOffsets
  simp only [UB_ALIGN, hheader]
  generalize workspaceSizePerAttn R B L K * a = w at h ⊢
  simp (disch := omega) only [u64_of_lt]

/-- The part of rank `a` starts at `w`. -/
def partStart (R B L w : Nat) : AttnPart → Nat
  | .header => w
  | .counts => w + 64
  | .chunkFlags => w + 64 + ceilRem (4 * R) 32
  | .tokenRows => w + 64 + ceilRem (4 * R) 32 + ceilRem (4 * R) 32
  | .tokenAddrs => w + 64 + ceilRem (4 * R) 32 + ceilRem (4 * R) 32 + ceilRem (B * L) 32

theorem start_attnOffsets {a : Nat}
    (h : workspaceSizePerAttn R B L K * a + workspaceSizePerAttn R B L K < 2 ^ 64) (p : AttnPart) :
    (attnOffsets R B L K a).start p = partStart R B L (workspaceSizePerAttn R B L K * a) p := by
  rw [attnOffsets_eq h]
  cases p <;> rfl

/-- The parts follow each other when the counts and the token rows are not
truncated. -/
theorem parts_ordered {w : Nat} (hr : 4 * R ≤ 2 ^ 32 - 32) (ht : B * L ≤ 2 ^ 32 - 32) {p p' : AttnPart}
    (hne : p ≠ p') :
    Region.Disjoint ⟨partStart R B L w p, partBytes R B L K p⟩ ⟨partStart R B L w p',
      partBytes R B L K p'⟩ := by
  have hr' := le_ceilRem_iff.2 hr
  have ht' := le_ceilRem_iff.2 ht
  cases p <;> cases p' <;> first
    | exact absurd rfl hne
    | (simp only [Region.Disjoint, Region.stop, partStart, partBytes, BATCH_INFO_VAL_NUM]
       omega)

/-- Every part ends before the token addresses do. -/
theorem part_stop_le {w : Nat} (hr : 4 * R ≤ 2 ^ 32 - 32) (ht : B * L ≤ 2 ^ 32 - 32) (p : AttnPart) :
    partStart R B L w p + partBytes R B L K p ≤
      w + 64 + ceilRem (4 * R) 32 + ceilRem (4 * R) 32 + ceilRem (B * L) 32 + 2 * L * K := by
  have hr' := le_ceilRem_iff.2 hr
  have ht' := le_ceilRem_iff.2 ht
  cases p <;> simp only [partStart, partBytes, BATCH_INFO_VAL_NUM] <;> omega

theorem le_partStart (w : Nat) (p : AttnPart) : w ≤ partStart R B L w p := by
  cases p <;> simp only [partStart] <;> omega

/-- The areas of a window of `S` bytes, by the sizes they are computed from. -/
def moeAreas (R B L K S : Nat) : MoeArea → Region
  | .part a p => ⟨(attnOffsets R B L K a).start p, partBytes R B L K p⟩
  | .lastProcessed => ⟨S - UB_ALIGN, UB_ALIGN⟩

/-- A MoE rank's window fits: no size of a part is truncated that another part
follows, and the parts of `A` ranks end before the round-robin slot. -/
structure MoeFits (R B L K A S : Nat) : Prop where
  counts : 4 * R ≤ 2 ^ 32 - 32
  tokenRows : B * L ≤ 2 ^ 32 - 32
  tokenAddrs : 2 ≤ A → 2 * L * K ≤ 2 ^ 32 - 32
  window : (A - 1) * (64 + 2 * roundUp 32 (4 * R) + roundUp 32 (B * L) + roundUp 32 (2 * L * K)) +
    (64 + 2 * roundUp 32 (4 * R) + roundUp 32 (B * L) + 2 * L * K) + 32 ≤ S

theorem workspaceSizePerAttn_lt (R B L K : Nat) : workspaceSizePerAttn R B L K < 2 ^ 35 := by
  rw [workspaceSizePerAttn_eq]
  have := ceilRem_lt (4 * R)
  have := ceilRem_lt (B * L)
  have := ceilRem_lt (2 * L * K)
  omega

theorem moeAreas_part {a : Nat} (h : workspaceSizePerAttn R B L K * a < 2 ^ 63) (S : Nat) (p : AttnPart) :
    moeAreas R B L K S (.part a p) =
      ⟨partStart R B L (workspaceSizePerAttn R B L K * a) p, partBytes R B L K p⟩ := by
  have := workspaceSizePerAttn_lt R B L K
  rw [moeAreas, start_attnOffsets (by omega)]

section Fits
variable {A S : Nat}

theorem MoeFits.size_eq (h : MoeFits R B L K A S) (hA : 2 ≤ A) :
    workspaceSizePerAttn R B L K =
      64 + 2 * roundUp 32 (4 * R) + roundUp 32 (B * L) + roundUp 32 (2 * L * K) := by
  rw [workspaceSizePerAttn_eq, ceilRem_of_le h.counts, ceilRem_of_le h.tokenRows,
    ceilRem_of_le (h.tokenAddrs hA)]
  omega

/-- The last part ends before the slot. -/
theorem MoeFits.last_stop (h : MoeFits R B L K A S) :
    workspaceSizePerAttn R B L K * (A - 1) + 64 + ceilRem (4 * R) 32 + ceilRem (4 * R) 32 + ceilRem
      (B * L) 32 +
      2 * L * K + 32 ≤ S := by
  have hwin := h.window
  have hcr := ceilRem_of_le h.counts
  have hct := ceilRem_of_le h.tokenRows
  rcases Nat.lt_or_ge 1 A with hA | hA
  · rw [← h.size_eq hA, Nat.mul_comm (A - 1)] at hwin
    omega
  · rw [show A - 1 = 0 by omega, Nat.zero_mul] at hwin
    rw [show A - 1 = 0 by omega, Nat.mul_zero]
    omega

/-- A part of an earlier rank ends where the next rank's part begins. -/
theorem MoeFits.part_stop (h : MoeFits R B L K A S) {a b : Nat} (hab : a < b) (hb : b < A) (p : AttnPart) :
    partStart R B L (workspaceSizePerAttn R B L K * a) p + partBytes R B L K p ≤
      workspaceSizePerAttn R B L K * b := by
  have hstop := part_stop_le (K := K) (w := workspaceSizePerAttn R B L K * a) h.counts h.tokenRows p
  have hq := le_ceilRem_iff.2 (h.tokenAddrs (by omega))
  have hW := workspaceSizePerAttn_eq R B L K
  have hstep : workspaceSizePerAttn R B L K * a + workspaceSizePerAttn R B L K ≤
      workspaceSizePerAttn R B L K * b := by
    rw [← Nat.mul_succ]
    exact Nat.mul_le_mul_left _ hab
  omega

theorem MoeFits.part_before_slot (h : MoeFits R B L K A S) {a : Nat} (ha : a < A) (p : AttnPart) :
    partStart R B L (workspaceSizePerAttn R B L K * a) p + partBytes R B L K p + 32 ≤ S := by
  have hstop := part_stop_le (K := K) (w := workspaceSizePerAttn R B L K * a) h.counts h.tokenRows p
  have hle : workspaceSizePerAttn R B L K * a ≤ workspaceSizePerAttn R B L K * (A - 1) :=
    Nat.mul_le_mul_left _ (by omega)
  have := h.last_stop
  omega

theorem MoeFits.laidOut (h : MoeFits R B L K A S) (hS : S ≤ 2 ^ 35) :
    LaidOut (MoeArea.Valid A) (moeAreas R B L K S) S := by
  have hsmall : ∀ a < A, workspaceSizePerAttn R B L K * a < 2 ^ 63 := by
    intro a ha
    have := h.part_before_slot ha .header
    simp only [partStart] at this
    omega
  have hslot : ∀ a < A, ∀ p,
      (moeAreas R B L K S (.part a p)).Disjoint (moeAreas R B L K S .lastProcessed) := by
    intro a ha p
    rw [moeAreas_part (hsmall a ha)]
    apply Region.disjoint_of_le
    have := h.part_before_slot ha p
    simp only [Region.stop, moeAreas, UB_ALIGN]
    omega
  have hlt : ∀ a b p p', a < b → b < A →
      (moeAreas R B L K S (.part a p)).Disjoint (moeAreas R B L K S (.part b p')) := by
    intro a b p p' hab hb
    rw [moeAreas_part (hsmall a (by omega)), moeAreas_part (hsmall b hb)]
    exact Region.disjoint_of_le ((h.part_stop hab hb p).trans (le_partStart _ p'))
  refine ⟨fun i hi => ?_, fun i j hi hj hij => ?_⟩
  · rcases i with ⟨a, p⟩ | _
    · have := h.part_before_slot hi p
      rw [moeAreas_part (hsmall a hi)]
      simp only [Region.stop]
      omega
    · have := h.window
      simp only [moeAreas, Region.stop, UB_ALIGN]
      omega
  · rcases i with ⟨a, p⟩ | _ <;> rcases j with ⟨b, p'⟩ | _
    · rcases lt_trichotomy a b with hab | rfl | hab
      · exact hlt a b p p' hab hj
      · rw [moeAreas_part (hsmall a hi), moeAreas_part (hsmall a hi)]
        exact parts_ordered h.counts h.tokenRows fun hp => hij (by rw [hp])
      · exact (hlt b a p' p hab hi).symm
    · exact hslot a hi p
    · exact (hslot b hj p').symm
    · exact absurd rfl hij

theorem u64_zero_mul : workspaceSizePerAttn R B L K * 0 < 2 ^ 63 := by simp

/-- Adjacent parts of rank 0 overlap when the first one's size is truncated. -/
theorem le_ceilRem_of_laidOut (h : LaidOut (MoeArea.Valid A) (moeAreas R B L K S) S) (hA : 1 ≤ A)
    (hR : 1 ≤ R) (hB : 1 ≤ B) (hL : 1 ≤ L) (hK : 1 ≤ K) :
    4 * R ≤ 2 ^ 32 - 32 ∧ B * L ≤ 2 ^ 32 - 32 := by
  have hBL : 1 ≤ B * L := Nat.mul_pos hB hL
  have hLK : 1 ≤ 2 * L * K := Nat.mul_pos (by omega) hK
  constructor
  · have hdis := h.disjoint (.part 0 .counts) (.part 0 .chunkFlags) hA hA (by simp)
    rw [moeAreas_part u64_zero_mul, moeAreas_part u64_zero_mul] at hdis
    apply le_ceilRem_iff.1
    have := hdis.stop_le (by simp only [partBytes]; omega) (by simp only [partBytes]; omega)
      (by simp only [Region.stop, partStart, partBytes]; omega)
    simp only [Region.stop, partStart, partBytes] at this
    omega
  · have hdis := h.disjoint (.part 0 .tokenRows) (.part 0 .tokenAddrs) hA hA (by simp)
    rw [moeAreas_part u64_zero_mul, moeAreas_part u64_zero_mul] at hdis
    apply le_ceilRem_iff.1
    have := hdis.stop_le (by simp only [partBytes]; omega) (by simp only [partBytes]; omega)
      (by simp only [Region.stop, partStart, partBytes]; omega)
    simp only [Region.stop, partStart, partBytes] at this
    omega

/-- Rank 0's token addresses overlap rank 1's header when their size is
truncated. -/
theorem tokenAddrs_of_laidOut (h : LaidOut (MoeArea.Valid A) (moeAreas R B L K S) S) (hA : 2 ≤ A)
    (hL : 1 ≤ L) (hK : 1 ≤ K) : 2 * L * K ≤ 2 ^ 32 - 32 := by
  have hLK : 1 ≤ 2 * L * K := Nat.mul_pos (by omega) hK
  have hW := workspaceSizePerAttn_eq R B L K
  have hlt := workspaceSizePerAttn_lt R B L K
  have hone : workspaceSizePerAttn R B L K * 1 < 2 ^ 63 := by omega
  have hdis := h.disjoint (.part 0 .tokenAddrs) (.part 1 .header) (by simp only [MoeArea.Valid]; omega)
    (by simp only [MoeArea.Valid]; omega) (by simp)
  rw [moeAreas_part u64_zero_mul, moeAreas_part hone] at hdis
  apply le_ceilRem_iff.1
  have := hdis.stop_le (by simp only [partBytes]; omega)
    (by simp only [partBytes, BATCH_INFO_VAL_NUM]; omega)
    (by simp only [Region.stop, partStart, partBytes, BATCH_INFO_VAL_NUM]; omega)
  simp only [Region.stop, partStart, partBytes] at this
  omega

/-- A rank whose part starts inside the window ends before the slot. -/
theorem tokenAddrs_stop_of_laidOut (h : LaidOut (MoeArea.Valid A) (moeAreas R B L K S) S) (hS : S ≤ 2 ^ 35)
    (hL : 1 ≤ L) (hK : 1 ≤ K) {a : Nat} (ha : a < A) (hstart : workspaceSizePerAttn R B L K * a ≤ S) :
    workspaceSizePerAttn R B L K * a + 64 + ceilRem (4 * R) 32 + ceilRem (4 * R) 32 + ceilRem (B * L) 32 +
      2 * L * K + 32 ≤ S := by
  have hLK : 1 ≤ 2 * L * K := Nat.mul_pos (by omega) hK
  have hsmall : workspaceSizePerAttn R B L K * a < 2 ^ 63 := by omega
  have hin := h.inside (.part a .tokenAddrs) ha
  have hdis := h.disjoint (.part a .tokenAddrs) .lastProcessed ha trivial (by simp)
  rw [moeAreas_part hsmall] at hin hdis
  simp only [Region.stop, partStart, partBytes] at hin
  have := hdis.stop_le (by simp only [partBytes]; omega) (by simp only [moeAreas, UB_ALIGN]; omega)
    (by simp only [Region.stop, moeAreas, partStart, UB_ALIGN]; omega)
  simp only [Region.stop, moeAreas, partStart, partBytes, UB_ALIGN] at this
  omega

/-- With two or more ranks, the last rank's part starts inside the window: the
rank in whose part the window ends would not fit. -/
theorem last_start_of_laidOut (h : LaidOut (MoeArea.Valid A) (moeAreas R B L K S) S) (hS : S ≤ 2 ^ 35)
    (hL : 1 ≤ L) (hK : 1 ≤ K) (hA : 2 ≤ A) : workspaceSizePerAttn R B L K * (A - 1) ≤ S := by
  by_contra hlast
  have hW := workspaceSizePerAttn_eq R B L K
  have hq := tokenAddrs_of_laidOut h hA hL hK
  have hru := roundUp_32 (2 * L * K)
  rw [ceilRem_of_le hq] at hW
  generalize hw : workspaceSizePerAttn R B L K = W at *
  have hpos : 0 < W := by omega
  have hdiv := Nat.div_add_mod S W
  have hmod := Nat.mod_lt S hpos
  have ha : S / W < A - 1 := by
    by_contra hge
    have := Nat.mul_le_mul_left W (not_lt.1 hge)
    omega
  have hstop := tokenAddrs_stop_of_laidOut h hS hL hK (a := S / W) (by omega) (by rw [hw]; omega)
  rw [hw] at hstop
  omega

/-- A MoE rank's window is laid out without overlap exactly when it fits. -/
theorem moe_laidOut_iff (hA : 1 ≤ A) (hR : 1 ≤ R) (hB : 1 ≤ B) (hL : 1 ≤ L) (hK : 1 ≤ K) (hS : S ≤ 2 ^ 35) :
    LaidOut (MoeArea.Valid A) (moeAreas R B L K S) S ↔ MoeFits R B L K A S := by
  refine ⟨fun h => ?_, fun h => h.laidOut hS⟩
  obtain ⟨hcounts, hrows⟩ := le_ceilRem_of_laidOut h hA hR hB hL hK
  refine ⟨hcounts, hrows, fun hA2 => tokenAddrs_of_laidOut h hA2 hL hK, ?_⟩
  have hcr := ceilRem_of_le hcounts
  have hct := ceilRem_of_le hrows
  rcases Nat.lt_or_ge 1 A with hA2 | hA1
  · have hstop := tokenAddrs_stop_of_laidOut h hS hL hK (a := A - 1) (by omega)
      (last_start_of_laidOut h hS hL hK hA2)
    have hW := workspaceSizePerAttn_eq R B L K
    rw [ceilRem_of_le (tokenAddrs_of_laidOut h hA2 hL hK), hcr, hct] at hW
    rw [show 64 + 2 * roundUp 32 (4 * R) + roundUp 32 (B * L) + roundUp 32 (2 * L * K) =
      workspaceSizePerAttn R B L K by omega, Nat.mul_comm]
    omega
  · have hstop := tokenAddrs_stop_of_laidOut h hS hL hK (a := 0) (by omega) (by simp)
    rw [show A - 1 = 0 by omega, Nat.zero_mul]
    omega

end Fits

end Moe

/-! ## An Attention rank's window -/

section Attn
variable {aivNum M R H N S : Nat}

/-- Statistics entries of a core. -/
def statEntries (M R : Nat) : Nat := u32 (M + u32 (R * M))

/-- The areas of a window of `S` bytes, by the sizes they are computed from. -/
def attnAreas (M R H aivNum : Nat) : AttnArea → Region
  | .coreStats => ⟨0, 4 * statEntries M R * aivNum⟩
  | .flags => ⟨(combineOffsets M R H).dispatchOffset, 4 * M⟩
  | .row i => ⟨(combineOffsets M R H).row 0 i, 2 * H⟩

/-- An Attention rank's window fits: the statistics of all cores end before the
flags, the flags before the rows, no row index wraps around in 32 bits, and the
`N` rows end inside the window. -/
structure AttnFits (M R H N aivNum S : Nat) : Prop where
  stats : 4 * statEntries M R * aivNum ≤ 4 * statEntries M R * MAX_AIV_NUM % 2 ^ 32
  flags : 4 * M ≤ 2 ^ 32 - 32
  rowIndex : H * (N - 1) < 2 ^ 32
  window : 4 * statEntries M R * MAX_AIV_NUM % 2 ^ 32 + roundUp 32 (4 * M) + 2 * (H * N) ≤ S

theorem dispatchOffset_eq (M R H : Nat) :
    (combineOffsets M R H).dispatchOffset = 4 * statEntries M R * MAX_AIV_NUM % 2 ^ 32 := by
  change ceilRem (4 * statEntries M R * 48) 32 = 4 * statEntries M R * 48 % 2 ^ 32
  generalize statEntries M R = n
  have haligned : 4 * n * 48 % 2 ^ 32 % 32 = 0 := by omega
  unfold ceilRem u32
  rw [if_pos haligned]
  omega

theorem row_zero_eq (M R H i : Nat) :
    (combineOffsets M R H).row 0 i =
      4 * statEntries M R * MAX_AIV_NUM % 2 ^ 32 + ceilRem (4 * M) 32 + 2 * u32 (H * i) := by
  have hD : 4 * statEntries M R * MAX_AIV_NUM % 2 ^ 32 < 2 ^ 32 := Nat.mod_lt _ (by decide)
  rw [← dispatchOffset_eq M R H] at hD ⊢
  have hflags := ceilRem_lt (4 * M)
  have hidx := u32_lt (H * i)
  simp only [combineOffsets, UB_ALIGN, Nat.mul_zero, Nat.add_zero] at hD ⊢
  rw [u64_of_lt (n := ceilRem (4 * M) 32) (by omega), u64_of_lt (by omega)]

/-- The last row is inside the rows. -/
theorem mul_pred_add (hN : 1 ≤ N) : H * (N - 1) + H = H * N := by
  rw [← Nat.mul_succ, Nat.succ_eq_add_one, Nat.sub_add_cancel hN]

theorem AttnFits.index (h : AttnFits M R H N aivNum S) {i : Nat} (hi : i < N) :
    u32 (H * i) = H * i ∧ H * i + H ≤ H * N := by
  have hle : H * i ≤ H * (N - 1) := Nat.mul_le_mul_left H (by omega)
  have hlast : H * (N - 1) + H = H * N := mul_pred_add (by omega)
  have := h.rowIndex
  exact ⟨u32_of_lt (by omega), by omega⟩

theorem AttnFits.laidOut (h : AttnFits M R H N aivNum S) :
    LaidOut (AttnArea.Valid N) (attnAreas M R H aivNum) S := by
  have hstats := h.stats
  have hflags := le_ceilRem_iff.2 h.flags
  have hwin := h.window
  rw [← ceilRem_of_le h.flags] at hwin
  -- the order of the areas
  have hsf : (attnAreas M R H aivNum .coreStats).stop ≤ (attnAreas M R H aivNum .flags).start := by
    simp only [attnAreas, Region.stop, dispatchOffset_eq]
    omega
  have hfr : ∀ i, (attnAreas M R H aivNum .flags).stop ≤ (attnAreas M R H aivNum (.row i)).start := by
    intro i
    simp only [attnAreas, Region.stop, dispatchOffset_eq, row_zero_eq]
    omega
  have hsr : ∀ i, (attnAreas M R H aivNum .coreStats).stop ≤ (attnAreas M R H aivNum (.row i)).start :=
    fun i => hsf.trans ((Nat.le_add_right _ _).trans (hfr i))
  have hrr : ∀ i j, i < j → j < N →
      (attnAreas M R H aivNum (.row i)).stop ≤ (attnAreas M R H aivNum (.row j)).start := by
    intro i j hij hj
    have hstep : H * i + H ≤ H * j := by
      rw [← Nat.mul_succ]
      exact Nat.mul_le_mul_left H hij
    simp only [attnAreas, Region.stop, row_zero_eq, (h.index hj).1, (h.index (hij.trans hj)).1]
    omega
  refine ⟨fun i hi => ?_, fun i j hi hj hij => ?_⟩
  · rcases i with _ | _ | i
    · simp only [attnAreas, Region.stop]
      omega
    · simp only [attnAreas, Region.stop, dispatchOffset_eq]
      omega
    · have := h.index hi
      simp only [attnAreas, Region.stop, row_zero_eq, this.1]
      omega
  · rcases i with _ | _ | i <;> rcases j with _ | _ | j
    · exact absurd rfl hij
    · exact Region.disjoint_of_le hsf
    · exact Region.disjoint_of_le (hsr j)
    · exact (Region.disjoint_of_le hsf).symm
    · exact absurd rfl hij
    · exact Region.disjoint_of_le (hfr j)
    · exact (Region.disjoint_of_le (hsr i)).symm
    · exact (Region.disjoint_of_le (hfr i)).symm
    · rcases lt_trichotomy i j with hlt | rfl | hlt
      · exact Region.disjoint_of_le (hrr i j hlt hj)
      · exact absurd rfl hij
      · exact (Region.disjoint_of_le (hrr j i hlt hi)).symm

/-- Rows whose element index wraps around overlap row 0. -/
theorem rowIndex_of_laidOut (h : LaidOut (AttnArea.Valid N) (attnAreas M R H aivNum) S) (hH : 1 ≤ H)
    (hN : 1 ≤ N) (hH' : H < 2 ^ 32) : H * (N - 1) < 2 ^ 32 := by
  by_contra hge
  -- the first row past 2 ^ 32 elements
  have hdiv := Nat.div_add_mod (2 ^ 32 + H - 1) H
  have hmod := Nat.mod_lt (2 ^ 32 + H - 1) hH
  have hle : (2 ^ 32 + H - 1) / H ≤ N - 1 := by
    by_contra hlt
    have hstep := Nat.mul_le_mul_left H (Nat.succ_le_of_lt (not_le.1 hlt))
    rw [Nat.mul_succ] at hstep
    omega
  generalize (2 ^ 32 + H - 1) / H = i at hdiv hle
  have hpos : i ≠ 0 := by
    rintro rfl
    omega
  have hwrap : u32 (H * i) = H * i - 2 ^ 32 := by
    unfold u32
    omega
  have hdis := h.disjoint (.row 0) (.row i) hN (by simp only [AttnArea.Valid]; omega)
    (by simpa using hpos.symm)
  simp only [Region.Disjoint, Region.stop, attnAreas, row_zero_eq, hwrap, Nat.mul_zero,
    u32_of_lt (n := 0) (by decide)] at hdis
  omega

theorem attn_laidOut_iff (R aivNum S : Nat) (hM : 1 ≤ M) (hH : 1 ≤ H) (hN : 1 ≤ N) (hH' : H < 2 ^ 32) :
    LaidOut (AttnArea.Valid N) (attnAreas M R H aivNum) S ↔ AttnFits M R H N aivNum S := by
  refine ⟨fun h => ?_, AttnFits.laidOut⟩
  have hindex := rowIndex_of_laidOut h hH hN hH'
  have hflags : 4 * M ≤ 2 ^ 32 - 32 := by
    have hdis := h.disjoint .flags (.row 0) trivial hN (by simp)
    apply le_ceilRem_iff.1
    simp only [Region.Disjoint, Region.stop, attnAreas, row_zero_eq, dispatchOffset_eq, Nat.mul_zero,
      u32_of_lt (n := 0) (by decide)] at hdis
    omega
  refine ⟨?_, hflags, hindex, ?_⟩
  · have hdis := h.disjoint .coreStats .flags trivial trivial (by simp)
    simp only [Region.Disjoint, Region.stop, attnAreas, dispatchOffset_eq] at hdis
    omega
  · have hin := h.inside (.row (N - 1)) (by simp only [AttnArea.Valid]; omega)
    have hlast := mul_pred_add (H := H) hN
    simp only [Region.stop, attnAreas, row_zero_eq, u32_of_lt hindex] at hin
    rw [← ceilRem_of_le hflags]
    omega

end Attn

/-! ## The rows dispatch-recv reckons with -/

/-- Dispatch-recv divides `maxSeqLen` by the low 16 bits of `tpSize`: they are
not zero, and the rows it gets take the space that the sender gives them. -/
structure RecvRowsFit (c : ShapeConfig) : Prop where
  tpSize : u16 c.tpSize ≠ 0
  tokenRows : ceilRem (tokenRowBytes c.dynamicQuant c.hiddenSize * (c.maxSeqLen / u16 c.tpSize)) UB_ALIGN =
    ceilRem (tokenRowBytes c.dynamicQuant c.hiddenSize * (c.maxSeqLen / c.tpSize)) UB_ALIGN
  tokenAddrs : ceilRem (2 * (c.maxSeqLen / u16 c.tpSize) * c.topk) UB_ALIGN =
    ceilRem (2 * (c.maxSeqLen / c.tpSize) * c.topk) UB_ALIGN

/-- A `tpSize` of 16 bits is kept whole. -/
theorem recvRowsFit_of_lt {c : ShapeConfig} (hpos : 1 ≤ c.tpSize) (h : c.tpSize < 2 ^ 16) :
    RecvRowsFit c := by
  have hkept := u16_of_lt h
  refine ⟨?_, ?_, ?_⟩ <;> rw [hkept]
  omega

section Recv
variable {R B L L' K : Nat}

/-- Rows that take the same space give the same offsets. -/
theorem attnOffsets_congr (hrows : ceilRem (B * L') UB_ALIGN = ceilRem (B * L) UB_ALIGN)
    (haddrs : ceilRem (2 * L' * K) UB_ALIGN = ceilRem (2 * L * K) UB_ALIGN) (a : Nat) :
    attnOffsets R B L' K a = attnOffsets R B L K a := by
  have hsize : workspaceSizePerAttn R B L' K = workspaceSizePerAttn R B L K := by
    unfold workspaceSizePerAttn
    rw [hrows, haddrs]
  unfold attnOffsets
  rw [hsize, hrows]

/-- Rank 0's addresses show the space of its rows. -/
theorem rows_of_attnOffsets (h : attnOffsets R B L' K 0 = attnOffsets R B L K 0) :
    ceilRem (B * L') UB_ALIGN = ceilRem (B * L) UB_ALIGN := by
  have hW := workspaceSizePerAttn_lt R B L K
  have hW' := workspaceSizePerAttn_lt R B L' K
  have hstart := congrArg (fun o : AttnOffsets => o.tokenAddrStoreOffset) h
  simp only [attnOffsets_eq (a := 0)
      (show workspaceSizePerAttn R B L K * 0 + workspaceSizePerAttn R B L K < 2 ^ 64 by
    omega), attnOffsets_eq (a := 0)
        (show workspaceSizePerAttn R B L' K * 0 + workspaceSizePerAttn R B L' K < 2 ^ 64 by
    omega)] at hstart
  simp only [UB_ALIGN]
  omega

/-- Where rank 1's part begins shows the space of rank 0's addresses. -/
theorem addrs_of_attnOffsets (hrows : ceilRem (B * L') UB_ALIGN = ceilRem (B * L) UB_ALIGN)
    (h : attnOffsets R B L' K 1 = attnOffsets R B L K 1) :
    ceilRem (2 * L' * K) UB_ALIGN = ceilRem (2 * L * K) UB_ALIGN := by
  have hW := workspaceSizePerAttn_lt R B L K
  have hW' := workspaceSizePerAttn_lt R B L' K
  have hstart := congrArg (fun o : AttnOffsets => o.attnWorkspaceOffset) h
  simp only [attnOffsets_eq (a := 1)
      (show workspaceSizePerAttn R B L K * 1 + workspaceSizePerAttn R B L K < 2 ^ 64 by
    omega), attnOffsets_eq (a := 1)
        (show workspaceSizePerAttn R B L' K * 1 + workspaceSizePerAttn R B L' K < 2 ^ 64 by
    omega), Nat.mul_one, workspaceSizePerAttn_eq] at hstart
  simp only [UB_ALIGN] at hrows ⊢
  omega

end Recv

/-! ## Both windows -/

/-- The shape's sizes fit both windows of `S` bytes. -/
structure WindowsFit (c : ShapeConfig) (aivNum S : Nat) : Prop where
  moe : MoeFits c.routeExpertNumPerMoe (tokenRowBytes c.dynamicQuant c.hiddenSize)
    (c.maxSeqLen / c.tpSize) c.topk c.attnRankNum S
  attn : AttnFits c.moeRankNum c.routeExpertNumPerMoe c.hiddenSize (c.batchSize * c.topk) (u32 aivNum) S
  recvRows : RecvRowsFit c

/-- Rows of at most 2 ^ 32 - 32 bytes have `uint32_t` element indices. -/
theorem tokenRowOffset_eq {dynamicQuant H L i : Nat} (hL : 1 ≤ L) (hi : i < L)
    (h : tokenRowBytes dynamicQuant H * L ≤ 2 ^ 32 - 32) :
    tokenRowOffset dynamicQuant H i = tokenRowBytes dynamicQuant H * i := by
  have hle : tokenRowBytes dynamicQuant H * i ≤ tokenRowBytes dynamicQuant H * L :=
    Nat.mul_le_mul_left _ hi.le
  have hone : tokenRowBytes dynamicQuant H ≤ tokenRowBytes dynamicQuant H * L :=
    Nat.le_mul_of_pos_right _ hL
  unfold tokenRowBytes at h hle hone ⊢
  unfold tokenRowOffset
  split
  · rename_i hq
    simp only [hq, if_true, Nat.mul_assoc] at h hle ⊢
    rw [u32_of_lt (by omega)]
  · rename_i hq
    simp only [hq, if_false, Nat.div_one] at h hle hone ⊢
    rw [u32_of_lt (n := 1 * H + UB_ALIGN) (by omega), u32_of_lt (by omega), Nat.one_mul]

/-- Both sides place every rank's part alike only when the rows take the same
space; one rank alone has `tpSize` 1. -/
theorem recvRowsFit_of_offsets {c : ShapeConfig} (hok : c.Ok)
    (h : ∀ a < c.attnRankNum, (if u16 c.tpSize = 0 then none else
      some (attnOffsets c.routeExpertNumPerMoe (tokenRowBytes c.dynamicQuant c.hiddenSize)
        (c.maxSeqLen / u16 c.tpSize) c.topk a)) =
      some (attnOffsets c.routeExpertNumPerMoe (tokenRowBytes c.dynamicQuant c.hiddenSize)
        (c.maxSeqLen / c.tpSize) c.topk a)) : RecvRowsFit c := by
  have htp : u16 c.tpSize ≠ 0 := by
    intro h0
    have := h 0 hok.attnRankNum
    rw [if_pos h0] at this
    cases this
  simp only [if_neg htp, Option.some.injEq] at h
  rcases Nat.lt_or_ge 1 c.attnRankNum with hA | hA
  · have hrows := rows_of_attnOffsets (h 0 hok.attnRankNum)
    exact ⟨htp, hrows, addrs_of_attnOffsets hrows (h 1 hA)⟩
  · have hone : c.tpSize ∣ 1 := by
      have := Nat.dvd_of_mod_eq_zero hok.groups
      rwa [show c.attnRankNum = 1 from le_antisymm hA hok.attnRankNum] at this
    exact recvRowsFit_of_lt hok.tpSize (by rw [Nat.dvd_one.1 hone]; decide)

/-- A row does not move when some of the rows before it are counted as prefix. -/
theorem AttnFits.row_split {M R H N aivNum S : Nat} (h : AttnFits M R H N aivNum S) {moePrefix idx : Nat}
    (hlt : moePrefix + idx < N) : (combineOffsets M R H).row moePrefix idx =
      (combineOffsets M R H).row 0 (moePrefix + idx) := by
  have hD : 4 * statEntries M R * MAX_AIV_NUM % 2 ^ 32 < 2 ^ 32 := Nat.mod_lt _ (by decide)
  have hflags := ceilRem_lt (4 * M)
  have hsum := h.index hlt
  have hidx := h.index (i := idx) (by omega)
  have hmul : H * (moePrefix + idx) = H * moePrefix + H * idx := Nat.mul_add H moePrefix idx
  have hbound := h.rowIndex
  have hlast := mul_pred_add (H := H) (N := N) (by omega)
  have hle : H * (moePrefix + idx) ≤ H * (N - 1) := Nat.mul_le_mul_left H (by omega)
  rw [row_zero_eq, hsum.1, hmul]
  rw [← dispatchOffset_eq M R H] at hD ⊢
  simp only [combineOffsets, UB_ALIGN, Nat.mul_assoc, hidx.1] at hD ⊢
  rw [u64_of_lt (n := ceilRem (4 * M) 32 + 2 * (H * moePrefix)) (by omega), u64_of_lt (by omega)]
  omega

/-- The hosts' checks do not make the layout sound. Of a shape that all four
hosts accept for one window size, the areas of both windows are inside and
disjoint, with equal offsets on both sides, exactly when the sizes fit. -/
theorem windows_laidOut_iff (c : ShapeConfig) (hcclBuffsize : Option Nat)
    (aivNum attnRankId layerIndex moeRankId : Nat) (maxSeqLenFactor : ℚ) (send : DispatchSendTiling)
    (recv : DispatchRecvTiling) (combineSend : CombineSendTiling) (combineRecv : CombineRecvTiling)
    (hsend : dispatchSendTiling c (getMaxWindowSize hcclBuffsize) aivNum attnRankId layerIndex =
      some send) (hrecv : dispatchRecvTiling c (getMaxWindowSize hcclBuffsize) aivNum moeRankId
      maxSeqLenFactor = some recv)
    (hcombineSend : combineSendTiling c (getMaxWindowSize hcclBuffsize) aivNum moeRankId =
      some combineSend)
    (hcombineRecv : combineRecvTiling c (getMaxWindowSize hcclBuffsize) aivNum attnRankId =
      some combineRecv) :
    WindowsLaidOut send recv combineSend combineRecv ↔
      WindowsFit c aivNum (getMaxWindowSize hcclBuffsize) := by
  obtain ⟨-, hS⟩ := getMaxWindowSize_spec hcclBuffsize
  generalize getMaxWindowSize hcclBuffsize = S at *
  obtain ⟨hok, hsL, hsH, hsK, hsM, hsA, hsR, hsq, hsaiv⟩ := dispatchSendTiling_ok hsend
  obtain ⟨hrL, hrH, hrK, hrR, hrT, hrq, hrS⟩ := dispatchRecvTiling_ok hrecv
  obtain ⟨htH, htM, htR⟩ := combineSendTiling_ok hcombineSend
  obtain ⟨hcb, hcH, hcK, hcM, hcR, hcS⟩ := combineRecvTiling_ok hcombineRecv
  have hmax := hok.maxSeqLen
  simp only [LIMIT_MAX_SEQ_LEN_MAX] at hmax
  have hL : c.maxSeqLen / c.tpSize ≤ c.maxSeqLen := Nat.div_le_self _ _
  have hT : c.tpSize ≤ c.maxSeqLen := by
    by_contra hlt
    have := Nat.div_eq_of_lt (not_le.1 hlt)
    have := hok.batch
    omega
  have hbatch := hok.batch
  rw [u32_of_lt (by omega)] at hsL hrL hrT hcb
  rw [u32_of_lt c.hiddenSize_lt] at hsH hrH htH hcH
  rw [u32_of_lt c.topk_lt] at hsK hrK hcK
  rw [u32_of_lt c.moeRankNum_lt] at hsM htM hcM
  rw [u32_of_lt c.routeExpertNumPerMoe_lt] at hsR hrR htR hcR
  rw [u32_of_lt c.attnRankNum_lt] at hsA
  have hL1 : 1 ≤ c.maxSeqLen / c.tpSize := by omega
  have hB1 : 1 ≤ tokenRowBytes c.dynamicQuant c.hiddenSize := by
    have := hok.hiddenSize
    unfold tokenRowBytes
    split <;> omega
  have hmoe : moeRegion send recv =
      moeAreas c.routeExpertNumPerMoe (tokenRowBytes c.dynamicQuant c.hiddenSize)
      (c.maxSeqLen / c.tpSize) c.topk S := by
    funext area
    cases area <;> simp only [moeRegion, moeAreas, DispatchSendTiling.offsets, hsL, hsH, hsK, hsR, hsq, hrS]
  have hattn : attnRegion send combineRecv =
      attnAreas c.moeRankNum c.routeExpertNumPerMoe c.hiddenSize (u32 aivNum) := by
    funext area
    cases area <;> simp only [attnRegion, attnAreas, DispatchSendTiling.statEntriesPerAiv, statEntries,
      CombineRecvTiling.offsets, hsM, hsR, hsaiv, hcM, hcR, hcH]
  have hmoeIff := moe_laidOut_iff (R := c.routeExpertNumPerMoe) (K := c.topk) (S := S) hok.attnRankNum
    hok.routeExpertNumPerMoe hB1 hL1 hok.topk hS
  have hattnIff := attn_laidOut_iff c.routeExpertNumPerMoe (u32 aivNum) S hok.moeRankNum
    hok.hiddenSize (Nat.mul_pos hok.batch.1 hok.topk : 1 ≤ c.batchSize * c.topk) c.hiddenSize_lt
  have hrecvOffsets : ∀ a, recv.offsets a = if u16 c.tpSize = 0 then none else
      some (attnOffsets c.routeExpertNumPerMoe (tokenRowBytes c.dynamicQuant c.hiddenSize)
        (c.maxSeqLen / u16 c.tpSize) c.topk a) := by
    intro a
    simp only [DispatchRecvTiling.offsets, hrL, hrH, hrK, hrR, hrT, hrq]
  have hsendOffsets : ∀ a,
      send.offsets a = attnOffsets c.routeExpertNumPerMoe (tokenRowBytes c.dynamicQuant c.hiddenSize)
      (c.maxSeqLen / c.tpSize) c.topk a := by
    intro a
    simp only [DispatchSendTiling.offsets, hsL, hsH, hsK, hsR, hsq]
  refine ⟨fun h => ⟨hmoeIff.1 ?_, hattnIff.1 ?_, recvRowsFit_of_offsets hok fun a ha => ?_⟩, fun h => ?_⟩
  · rw [← hmoe, ← hsA, ← hrS]
    exact h.moe
  · rw [← hattn, ← hcb, ← hcK, ← hcS]
    exact h.attn
  · rw [← hrecvOffsets, ← hsendOffsets]
    exact h.sameDispatch a (by rwa [hsA])
  · refine ⟨?_, ?_, fun a _ => ?_, ?_, fun moePrefix idx hlt => ?_, fun i hi _ => ?_⟩
    · rw [hmoe, hsA, hrS]
      exact hmoeIff.2 h.moe
    · rw [hattn, hcb, hcK, hcS]
      exact hattnIff.2 h.attn
    · rw [hrecvOffsets, hsendOffsets, if_neg h.recvRows.tpSize,
        attnOffsets_congr h.recvRows.tokenRows h.recvRows.tokenAddrs]
    · simp only [CombineSendTiling.offsets, CombineRecvTiling.offsets, htH, htM, htR, hcM, hcR, hcH]
    · rw [hcb, hcK] at hlt
      simp only [CombineRecvTiling.offsets, hcM, hcR, hcH]
      exact h.attn.row_split hlt
    · rw [hsL] at hi
      rw [hsq, hsH]
      exact tokenRowOffset_eq hL1 hi h.moe.tokenRows

/-- Two Attention ranks and one MoE rank of eight experts, hidden size 512,
top-8; `maxSeqLen` rows a rank. -/
def twoRanks (maxSeqLen : Nat) : ShapeConfig where
  maxSeqLen
  batchSize := 1
  hiddenSize := 512
  topk := 8
  moeRankNum := 1
  attnRankNum := 2
  routeExpertNumPerMoe := 8
  worldSize := 3
  tpSize := 1
  dynamicQuant := 0
  hiddenSize_lt := by decide
  topk_lt := by decide
  moeRankNum_lt := by decide
  attnRankNum_lt := by decide
  routeExpertNumPerMoe_lt := by decide

def twoRanksSend (maxSeqLen sharedMemSize : Nat) : DispatchSendTiling :=
  ⟨maxSeqLen, 1, 512, 8, 1, 2, 8, 0, 3, 0, 1, 0, 48, sharedMemSize⟩

def twoRanksRecv (maxSeqLen sharedMemSize : Nat) : DispatchRecvTiling :=
  ⟨maxSeqLen, 512, 8, 1, 2, 8, 2, 3, 1, 262144, 0, 48, sharedMemSize⟩

/-- With 256 rows a rank, a window of 1 MiB is enough. -/
theorem windows_laidOut_iff_two_ranks :
    WindowsLaidOut (twoRanksSend 256 1048576) (twoRanksRecv 256 1048576) ⟨256, 512, 8, 1, 2, 8, 2, 3, 1,
      48, 1048576⟩
      ⟨1, 512, 8, 1, 2, 8, 0, 3, 48, 1048576⟩ :=
  (windows_laidOut_iff (twoRanks 256) (some 1) 48 0 0 2 1 _ _ _ _ (by decide +kernel)
    (by decide +kernel) (by decide +kernel) (by decide +kernel)).2
    ⟨⟨by decide, by decide, by decide, by decide +kernel⟩,
      ⟨by decide, by decide, by decide, by decide +kernel⟩, recvRowsFit_of_lt (by decide) (by decide)⟩

/-- With 504 rows a rank, the parts of the two ranks take the whole window of
1 MiB: all four hosts accept it, and the second rank's last token addresses are
in the round-robin slot. -/
theorem token_addrs_overlap_slot :
    dispatchSendTiling (twoRanks 504) (getMaxWindowSize (some 1)) 48 0 0 = some (twoRanksSend 504 1048576) ∧
      dispatchRecvTiling (twoRanks 504) (getMaxWindowSize (some 1)) 48 2 1 =
        some (twoRanksRecv 504 1048576) ∧
      (combineSendTiling (twoRanks 504) (getMaxWindowSize (some 1)) 48 2).isSome ∧
      (combineRecvTiling (twoRanks 504) (getMaxWindowSize (some 1)) 48 0).isSome ∧
      moeRegion (twoRanksSend 504 1048576) (twoRanksRecv 504 1048576) (.part 1 .tokenAddrs) =
        ⟨1040512, 8064⟩ ∧
      moeRegion (twoRanksSend 504 1048576) (twoRanksRecv 504 1048576) .lastProcessed = ⟨1048544, 32⟩ ∧
      ∀ combineSend combineRecv,
        ¬ WindowsLaidOut (twoRanksSend 504 1048576) (twoRanksRecv 504 1048576) combineSend combineRecv := by
  refine ⟨by decide +kernel, by decide +kernel, by decide +kernel, by decide +kernel, by decide +kernel,
    by decide +kernel, fun combineSend combineRecv h => ?_⟩
  have hdis := h.moe.disjoint (.part 1 .tokenAddrs) .lastProcessed Nat.one_lt_two trivial (by decide)
  revert hdis
  decide +kernel

end AfdPlugin.Cam
