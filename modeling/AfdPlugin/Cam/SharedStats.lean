import AfdPlugin.Cam.SendStats
import AfdPlugin.Cam.Tiling
import AfdPlugin.Lib.SharedPhase
/-!
# The shared statistics of dispatch-send

`PreProcess` between its two barriers, read by read and write by write: a core
gathers the whole table while others already write their prefixes into it. The
table is in global memory, row after row without gaps.
-/

namespace AfdPlugin.Cam

section Model
variable {V S : Type} (sh : CamShape) (b : Batch V S)

/-- Where the table's entry is in global memory. -/
def CamShape.statAddr (entry : Nat × Nat) : Nat := sh.statEntriesPerAiv * entry.1 + entry.2

/-- A table in global memory, or gathered in UB. -/
def CamShape.statAt (mem : Nat → Nat) (entry : Nat × Nat) : Nat := mem (sh.statAddr entry)

/-- Writes of entries, in global memory. -/
def CamShape.toGM (writes : List ((Nat × Nat) × Nat)) : List (Nat × Nat) :=
  writes.map fun w => (sh.statAddr w.1, w.2)

/-- A core shares its row: nothing is read. -/
def statProgram (aivId : Nat) : CoreProgram Nat Nat where
  reads := []
  buffer := fun _ => 0
  writes := fun _ => sh.toGM (statWrites sh b aivId)

/-! The staged path. -/

/-- Entries from a row of the staging buffer to the next. -/
def prefixRowStride (columnCount : Nat) : Nat := roundUp UB_ALIGN (4 * columnCount) / 4

structure StageState where
  sum : Nat
  prefixTensor : Nat → Nat

def stageRow (aivStat : Nat → Nat) (columnStart columnCount col : Nat) (s : StageState) (row : Nat) :
    StageState :=
  let sum := s.sum + aivStat (sh.statEntriesPerAiv * row + columnStart + col)
  ⟨sum, Function.update s.prefixTensor ((row - 1) * prefixRowStride columnCount + col) sum⟩

def stageColumn (aivStat : Nat → Nat) (columnStart columnCount : Nat) (prefixTensor : Nat → Nat)
    (col : Nat) : Nat → Nat :=
  (forRange 1 (sh.attnAivNum - 1) ⟨aivStat (columnStart + col), prefixTensor⟩
    (stageRow sh aivStat columnStart columnCount col)).prefixTensor

/-- `DataCopyPad` of `blockCount` blocks out of UB. In UB a block begins at a
multiple of 32 bytes, in global memory `dstStride` entries after the last one. -/
def copyBlocks (src : Nat → Nat) (srcStart dst blockCount blockLen dstStride : Nat) : List (Nat × Nat) :=
  (List.range blockCount).flatMap fun i => (List.range blockLen).map fun j =>
    (dst + i * (blockLen + dstStride) + j, src (srcStart + i * (roundUp UB_ALIGN (4 * blockLen) / 4) + j))

def PREFIX_COPY_ROWS : Nat := 32

/-- Prefixes of consecutive columns. -/
def stagedWrites (aivStat : Nat → Nat) (aivId : Nat) : List (Nat × Nat) :=
  let columnStart := Blocks.spread sh.statEntriesPerAiv sh.attnAivNum aivId
  let columnCount := Blocks.spread sh.statEntriesPerAiv sh.attnAivNum (aivId + 1) - columnStart
  if 0 < columnCount ∧ 1 < sh.attnAivNum then
    let prefixTensor := forRange 0 columnCount (fun _ => 0) (stageColumn sh aivStat columnStart columnCount)
    (List.range' 1 ((sh.attnAivNum - 1 + (PREFIX_COPY_ROWS - 1)) / PREFIX_COPY_ROWS)
        PREFIX_COPY_ROWS).flatMap fun row =>
      copyBlocks prefixTensor ((row - 1) * prefixRowStride columnCount)
        (sh.statEntriesPerAiv * row + columnStart) (min (sh.attnAivNum - row) PREFIX_COPY_ROWS)
        columnCount (sh.statEntriesPerAiv - columnCount)
  else []

/-- A core gathers the table and writes the prefixes of its columns. -/
def prefixProgram (aivId : Nat) : CoreProgram Nat Nat where
  reads := List.range (sh.statEntriesPerAiv * sh.attnAivNum)
  buffer := fun _ => 0
  writes := fun aivStat =>
    if sh.stagesPrefix then stagedWrites sh aivStat aivId
    else sh.toGM (directPrefixWrites sh (sh.statAt aivStat) aivId)

/-- `PreProcess` on all cores, from what global memory holds before to what it
holds after. -/
def PreProcessed (mem mem' : Nat → Nat) : Prop :=
  ∃ table, PhaseRun (statProgram sh b) sh.attnAivNum mem table ∧
    PhaseRun (prefixProgram sh) sh.attnAivNum table mem'

end Model

/-! ## The staged path -/

section Staged
variable {columnCount : Nat}

theorem columnCount_le_stride : columnCount ≤ prefixRowStride columnCount := by
  rw [prefixRowStride, UB_ALIGN, roundUp_32]
  omega

/-- Rows and columns of a table with gaps. -/
theorem row_col_inj {stride row col row' col' : Nat} (hcol : col < stride) (hcol' : col' < stride)
    (h : row * stride + col = row' * stride + col') : row = row' ∧ col = col' := by
  have hdiv : ∀ r c, c < stride → (r * stride + c) / stride = r := fun r c hc => by
    rw [Nat.mul_comm, Nat.mul_add_div (by omega), Nat.div_eq_of_lt hc, Nat.add_zero]
  have hrow : row = row' := by rw [← hdiv row col hcol, h, hdiv row' col' hcol']
  subst hrow
  exact ⟨rfl, by omega⟩

/-- The staging buffer has the prefixes of a column, one in each row. -/
def Staged (sh : CamShape) (aivStat : Nat → Nat) (columnStart columnCount col : Nat)
    (prefixTensor : Nat → Nat) : Prop :=
  ∀ row, 1 ≤ row → row < sh.attnAivNum →
    prefixTensor ((row - 1) * prefixRowStride columnCount + col) =
      columnPrefix (sh.statAt aivStat) (columnStart + col) row

/-- The loop over the rows stages its column and leaves the other columns alone. -/
theorem stageColumn_eq (sh : CamShape) (aivStat : Nat → Nat) (columnStart : Nat)
    (prefixTensor : Nat → Nat) {col : Nat} (hcol : col < columnCount) :
    Staged sh aivStat columnStart columnCount col
      (stageColumn sh aivStat columnStart columnCount prefixTensor col) ∧
      ∀ r c, c < columnCount → c ≠ col →
        stageColumn sh aivStat columnStart columnCount prefixTensor col
          (r * prefixRowStride columnCount + c) =
          prefixTensor (r * prefixRowStride columnCount + c) := by
  have hstride : columnCount ≤ prefixRowStride columnCount := columnCount_le_stride
  have hpos := sh.attnAivNum_pos
  have hloop := forRange_inv (a := 1) (n := sh.attnAivNum - 1)
    (s := ⟨aivStat (columnStart + col), prefixTensor⟩)
    (f := stageRow sh aivStat columnStart columnCount col)
    (fun row t => t.sum = columnPrefix (sh.statAt aivStat) (columnStart + col) (row - 1) ∧
      (∀ r, 1 ≤ r → r < row → t.prefixTensor ((r - 1) * prefixRowStride columnCount + col) =
        columnPrefix (sh.statAt aivStat) (columnStart + col) r) ∧ ∀ r c, c < columnCount → c ≠ col →
      t.prefixTensor (r * prefixRowStride columnCount + c) =
        prefixTensor (r * prefixRowStride columnCount + c)) ⟨?_, fun r hr hlt => by omega,
      fun _ _ _ _ => rfl⟩ (fun row t hrow _ ⟨hsum, hstaged, hothers⟩ => ?_)
  · rw [Nat.add_sub_cancel' hpos] at hloop
    exact hloop.2
  · simp [columnPrefix, CamShape.statAt, CamShape.statAddr]
  · have hnext : t.sum + aivStat (sh.statEntriesPerAiv * row + columnStart + col) =
        columnPrefix (sh.statAt aivStat) (columnStart + col) row := by
      obtain ⟨r, rfl⟩ : ∃ r, row = r + 1 := ⟨row - 1, by omega⟩
      rw [hsum, columnPrefix, Nat.add_sub_cancel, CamShape.statAt, CamShape.statAddr, Nat.add_assoc]
    refine ⟨hnext, fun r hr hlt => ?_, fun r c hc hne => ?_⟩
    · rcases eq_or_ne r row with rfl | hne
      · simp only [stageRow, Function.update_self]
        exact hnext
      · simp only [stageRow]
        rw [Function.update_of_ne]
        · exact hstaged r hr (by omega)
        · intro heq
          obtain ⟨hrows, -⟩ := row_col_inj (by omega) (by omega) heq
          omega
    · simp only [stageRow]
      rw [Function.update_of_ne]
      · exact hothers r c hc hne
      · intro heq
        exact hne (row_col_inj (by omega) (by omega) heq).2

/-- After the loop over the columns all of them are staged. -/
theorem staged_columns (sh : CamShape) (aivStat : Nat → Nat) (columnStart : Nat) {col : Nat}
    (hcol : col < columnCount) :
    Staged sh aivStat columnStart columnCount col
      (forRange 0 columnCount (fun _ => 0) (stageColumn sh aivStat columnStart columnCount)) := by
  have hloop := forRange_inv (a := 0) (n := columnCount) (s := fun _ => 0)
    (f := stageColumn sh aivStat columnStart columnCount)
    (fun bound t => ∀ c < bound, Staged sh aivStat columnStart columnCount c t)
    (fun c hc => (Nat.not_lt_zero c hc).elim)
    (fun bound t _ hbound hstaged c hc => ?_)
  · exact hloop col (by omega)
  · obtain ⟨hself, hothers⟩ := stageColumn_eq sh aivStat columnStart t (show bound < columnCount by omega)
    rcases Nat.lt_succ_iff_lt_or_eq.1 hc with hlt | rfl
    · intro row hrow hlt'
      rw [hothers (row - 1) c (by omega) (by omega)]
      exact hstaged c hlt row hrow hlt'
    · exact hself

/-- The copies put every staged prefix where it belongs. -/
theorem stagedWrites_eq (sh : CamShape) (aivStat : Nat → Nat) (aivId : Nat) (haiv : aivId < sh.attnAivNum) :
    stagedWrites sh aivStat aivId = sh.toGM (stagedPrefixWrites sh (sh.statAt aivStat) aivId) := by
  unfold stagedWrites stagedPrefixWrites
  dsimp only
  have hcount : Blocks.spread sh.statEntriesPerAiv sh.attnAivNum (aivId + 1) ≤ sh.statEntriesPerAiv :=
    Blocks.spread_le _ haiv sh.attnAivNum_pos
  generalize Blocks.spread sh.statEntriesPerAiv sh.attnAivNum aivId = columnStart
  generalize hn : Blocks.spread sh.statEntriesPerAiv sh.attnAivNum (aivId + 1) - columnStart = columnCount
  split
  · rw [CamShape.toGM, List.map_flatMap]
    apply List.flatMap_congr
    intro row hrow
    obtain ⟨k, hk, rfl⟩ := List.mem_range'.1 hrow
    rw [copyBlocks, List.range'_eq_map_range, List.flatMap_map, List.map_flatMap, Nat.min_comm]
    apply List.flatMap_congr
    intro i hi
    rw [List.map_map]
    apply List.map_congr_left
    intro j hj
    rw [List.mem_range] at hi hj
    unfold PREFIX_COPY_ROWS at hi ⊢
    have hstaged := staged_columns sh aivStat columnStart hj (1 + 32 * k + i)
      (by omega) (by omega)
    have hsrc : (1 + 32 * k - 1) * prefixRowStride
        columnCount + i * (roundUp UB_ALIGN (4 * columnCount) / 4) + j =
          (1 + 32 * k + i - 1) * prefixRowStride columnCount + j := by
      rw [← prefixRowStride, ← Nat.add_mul, show 1 + 32 * k - 1 + i = 1 + 32 * k + i - 1 by omega]
    have hdst : sh.statEntriesPerAiv * (1 + 32 * k) + columnStart + i *
        (columnCount + (sh.statEntriesPerAiv - columnCount)) + j =
          sh.statEntriesPerAiv * (1 + 32 * k + i) + (columnStart + j) := by
      rw [Nat.add_sub_cancel' (by omega), Nat.mul_add _ (1 + 32 * k), Nat.mul_comm i]
      omega
    simp only [Function.comp_apply, CamShape.statAddr]
    rw [hsrc, hdst, hstaged]
  · rfl

end Staged

/-! ## The two phases -/

section Phases
variable {V S : Type} {sh : CamShape} {b : Batch V S} {mem mem' table : Nat → Nat}

theorem statEntriesPerAiv_pos : 0 < sh.statEntriesPerAiv := Nat.add_pos_left sh.moeRankNum_pos _

theorem statAddr_row {row col : Nat} (hcol : col < sh.statEntriesPerAiv) :
    sh.statAddr (row, col) / sh.statEntriesPerAiv = row := by
  rw [CamShape.statAddr, Nat.mul_add_div statEntriesPerAiv_pos, Nat.div_eq_of_lt hcol, Nat.add_zero]

theorem statAddr_col {row col : Nat} (hcol : col < sh.statEntriesPerAiv) :
    sh.statAddr (row, col) % sh.statEntriesPerAiv = col := by
  rw [CamShape.statAddr, Nat.mul_add_mod, Nat.mod_eq_of_lt hcol]

theorem statAddr_div_mod (sh : CamShape) (a : Nat) :
    sh.statAddr (a / sh.statEntriesPerAiv, a % sh.statEntriesPerAiv) = a :=
  Nat.div_add_mod a _

theorem statAddr_lt {row col : Nat} (hrow : row < sh.attnAivNum) (hcol : col < sh.statEntriesPerAiv) :
    sh.statAddr (row, col) < sh.statEntriesPerAiv * sh.attnAivNum :=
  calc sh.statEntriesPerAiv * row + col < sh.statEntriesPerAiv * (row + 1) := by rw [Nat.mul_succ]; omega
    _ ≤ sh.statEntriesPerAiv * sh.attnAivNum := Nat.mul_le_mul_left _ hrow

theorem mem_toGM {writes : List ((Nat × Nat) × Nat)} {w : Nat × Nat} :
    w ∈ sh.toGM writes ↔ ∃ w' ∈ writes, (sh.statAddr w'.1, w'.2) = w := List.mem_map

/-- The first phase: each core owns a row. -/
theorem statProgram_run (h : PhaseRun (statProgram sh b) sh.attnAivNum mem table) {c col : Nat}
    (hc : c < sh.attnAivNum) (hcol : col < sh.statEntriesPerAiv) :
    sh.statAt table (c, col) = coreStat sh b c col := by
  have howned : Owned (statProgram sh b) sh.attnAivNum (· / sh.statEntriesPerAiv) mem
      fun a => coreStat sh b (a / sh.statEntriesPerAiv) (a % sh.statEntriesPerAiv) := by
    intro c' _ buffer _
    have hwrite : ∀ w, w ∈ (statProgram sh b c').writes buffer ↔
        ∃ col < sh.statEntriesPerAiv, w = (sh.statAddr (c', col), coreStat sh b c' col) := by
      intro w
      rw [statProgram, mem_toGM]
      constructor
      · rintro ⟨w', hw', rfl⟩
        obtain ⟨col, hcol, rfl⟩ := (mem_statWrites sh b).1 hw'
        exact ⟨col, hcol, rfl⟩
      · rintro ⟨col, hcol, rfl⟩
        exact ⟨_, (mem_statWrites sh b).2 ⟨col, hcol, rfl⟩, rfl⟩
    refine ⟨fun w hw => ?_, fun k hk hnone => ?_⟩
    · obtain ⟨col, hcol, rfl⟩ := (hwrite w).1 hw
      refine ⟨statAddr_row hcol, ?_⟩
      simp only [statAddr_row hcol, statAddr_col hcol]
    · -- every entry of its row is written
      have hmem := (hwrite _).2 ⟨k % sh.statEntriesPerAiv, Nat.mod_lt k statEntriesPerAiv_pos, rfl⟩
      exact absurd (by rw [← hk, statAddr_div_mod]) (hnone _ hmem)
  rw [CamShape.statAt, h.eq howned, if_pos (by rwa [statAddr_row hcol])]
  simp only [statAddr_row hcol, statAddr_col hcol]

/-- Either path writes the prefixes of the core's columns. -/
theorem mem_prefixProgram {c : Nat} (hc : c < sh.attnAivNum) {aivStat : Nat → Nat} {w : Nat × Nat} :
    w ∈ (prefixProgram sh c).writes aivStat ↔ ∃ col row, OwnsColumn sh c col ∧
      (1 ≤ row ∧ row < sh.attnAivNum) ∧
      w = (sh.statAddr (row, col), columnPrefix (sh.statAt aivStat) col row) := by
  have hpaths : (prefixProgram sh c).writes aivStat = sh.toGM (prefixWrites sh (sh.statAt aivStat) c) := by
    simp only [prefixProgram, prefixWrites, stagedWrites_eq sh aivStat c hc]
    split <;> rfl
  rw [hpaths, mem_toGM]
  constructor
  · rintro ⟨w', hw', rfl⟩
    obtain ⟨col, howns, hw'⟩ := mem_prefixWrites.1 hw'
    obtain ⟨row, hrow, rfl⟩ := mem_columnWrites.1 hw'
    exact ⟨col, row, howns, hrow, rfl⟩
  · rintro ⟨col, row, howns, hrow, rfl⟩
    exact ⟨_, mem_prefixWrites.2 ⟨col, howns, mem_columnWrites.2 ⟨row, hrow, rfl⟩⟩, rfl⟩

theorem ownsColumn_lt {c col : Nat} (hc : c < sh.attnAivNum) (h : OwnsColumn sh c col) :
    col < sh.statEntriesPerAiv := by
  unfold OwnsColumn at h
  split at h
  · have hlast :=
      Blocks.spread_le sh.statEntriesPerAiv (show c + 1 ≤ sh.attnAivNum from hc) sh.attnAivNum_pos
    have := (Blocks.mem_block.1 h).2
    omega
  · exact h.1

theorem ownsColumn_unique {c c' col : Nat} (hc : c < sh.attnAivNum) (hc' : c' < sh.attnAivNum)
    (h : OwnsColumn sh c col) (h' : OwnsColumn sh c' col) : c = c' := by
  unfold OwnsColumn at h h'
  split at h
  · rename_i hstages
    rw [if_pos hstages] at h'
    exact Blocks.block_unique (fun i _ => Blocks.spread_le_succ _ _ i) hc hc' h h'
  · rename_i hstages
    rw [if_neg hstages] at h'
    exact h.2.symm.trans h'.2

theorem columnPrefix_congr {t t' : Nat × Nat → Nat} {col row : Nat}
    (h : ∀ r ≤ row, t (r, col) = t' (r, col)) :
    columnPrefix t col row = columnPrefix t' col row := by
  induction row with
  | zero => exact h 0 le_rfl
  | succ row ih => rw [columnPrefix, columnPrefix, ih fun r hr => h r (by omega), h (row + 1) le_rfl]

theorem exists_columnOwner (sh : CamShape) : ∃ owner : Nat → Nat, ∀ col < sh.statEntriesPerAiv,
    owner col < sh.attnAivNum ∧ ∀ c < sh.attnAivNum, OwnsColumn sh c col ↔ owner col = c := by
  have h : ∀ col, ∃ c, col < sh.statEntriesPerAiv → c < sh.attnAivNum ∧ OwnsColumn sh c col := by
    intro col
    by_cases hcol : col < sh.statEntriesPerAiv
    · obtain ⟨c, hc, howns⟩ := exists_owner hcol
      exact ⟨c, fun _ => ⟨hc, howns⟩⟩
    · exact ⟨0, fun hlt => absurd hlt hcol⟩
  choose owner howner using h
  refine ⟨owner, fun col hcol => ⟨(howner col hcol).1, fun c hc => ⟨fun howns => ?_, ?_⟩⟩⟩
  · exact ownsColumn_unique (howner col hcol).1 hc (howner col hcol).2 howns
  · rintro rfl
    exact (howner col hcol).2

/-- The owner of a table entry is its column's; nobody owns what follows the table. -/
def CamShape.cellOwner (sh : CamShape) (owner : Nat → Nat) (a : Nat) : Nat :=
  if a < sh.statEntriesPerAiv * sh.attnAivNum then owner (a % sh.statEntriesPerAiv) else sh.attnAivNum

theorem cellOwner_statAddr {owner : Nat → Nat} {row col : Nat} (hrow : row < sh.attnAivNum)
    (hcol : col < sh.statEntriesPerAiv) : sh.cellOwner owner (sh.statAddr (row, col)) = owner col := by
  rw [CamShape.cellOwner, if_pos (statAddr_lt hrow hcol), statAddr_col hcol]

theorem lt_of_cellOwner {owner : Nat → Nat} {a c : Nat} (hc : c < sh.attnAivNum)
    (h : sh.cellOwner owner a = c) :
    a < sh.statEntriesPerAiv * sh.attnAivNum := by
  by_contra hge
  rw [CamShape.cellOwner, if_neg hge] at h
  omega

/-- The second phase: each core owns the columns whose prefixes it computes. What
it gathers of other columns may be old or new; it does not use it. -/
theorem prefixProgram_owned {owner : Nat → Nat}
    (howner : ∀ col < sh.statEntriesPerAiv, owner col < sh.attnAivNum ∧ ∀ c < sh.attnAivNum,
      OwnsColumn sh c col ↔ owner col = c) (table : Nat → Nat) :
    Owned (prefixProgram sh) sh.attnAivNum (sh.cellOwner owner) table
      fun a => columnPrefix (sh.statAt table) (a % sh.statEntriesPerAiv) (a / sh.statEntriesPerAiv) := by
  intro c hc buffer hbuffer
  refine ⟨fun w hw => ?_, fun k hk hnone => ?_⟩
  · obtain ⟨col, row, howns, hrow, rfl⟩ := (mem_prefixProgram hc).1 hw
    have hcol := ownsColumn_lt hc howns
    have hc' : owner col = c := ((howner col hcol).2 c hc).1 howns
    refine ⟨(cellOwner_statAddr hrow.2 hcol).trans hc', ?_⟩
    simp only [statAddr_row hcol, statAddr_col hcol]
    refine columnPrefix_congr fun r hr => hbuffer _ (List.mem_range.2 (statAddr_lt (by omega) hcol)) ?_
    exact (cellOwner_statAddr (by omega) hcol).trans hc'
  · have hcol : k % sh.statEntriesPerAiv < sh.statEntriesPerAiv := Nat.mod_lt k statEntriesPerAiv_pos
    have hlt := lt_of_cellOwner hc hk
    rw [CamShape.cellOwner, if_pos hlt] at hk
    -- of its own columns it leaves the first row
    have hfirst : k / sh.statEntriesPerAiv = 0 := by
      by_contra hrow
      have hpos := Nat.pos_of_ne_zero hrow
      refine hnone _ ((mem_prefixProgram hc).2 ⟨k % sh.statEntriesPerAiv, k / sh.statEntriesPerAiv,
        ((howner _ hcol).2 c hc).2 hk, ⟨hpos, Nat.div_lt_of_lt_mul hlt⟩, rfl⟩) (statAddr_div_mod sh k)
    have haddr := statAddr_div_mod sh k
    dsimp only
    rw [hfirst] at haddr ⊢
    rw [columnPrefix, CamShape.statAt, haddr]

theorem prefixProgram_run (h : PhaseRun (prefixProgram sh) sh.attnAivNum table mem') {c col : Nat}
    (hc : c < sh.attnAivNum) (hcol : col < sh.statEntriesPerAiv) :
    sh.statAt mem' (c, col) = columnPrefix (sh.statAt table) col c := by
  obtain ⟨owner, howner⟩ := exists_columnOwner sh
  rw [CamShape.statAt, h.eq (prefixProgram_owned howner table), if_pos]
  · simp only [statAddr_row hcol, statAddr_col hcol]
  · rw [cellOwner_statAddr hc hcol]
    exact (howner col hcol).1

/-- In whatever order the cores read and write: row `c` of the table then tells
what cores `0, …, c` send. -/
theorem PreProcessed.stat (h : PreProcessed sh b mem mem') {c col : Nat} (hc : c < sh.attnAivNum)
    (hcol : col < sh.statEntriesPerAiv) :
    sh.statAt mem' (c, col) = b.statUpTo sh col (sh.topk * b.aivStart sh (c + 1)) := by
  obtain ⟨table, hstat, hprefix⟩ := h
  rw [prefixProgram_run hprefix hc hcol]
  exact columnPrefix_eq sh b fun c' hc' => statProgram_run hstat (by omega) hcol

theorem exists_preProcessed (sh : CamShape) (b : Batch V S) (mem : Nat → Nat) :
    ∃ mem', PreProcessed sh b mem mem' := by
  obtain ⟨table, hstat⟩ := exists_phaseRun (statProgram sh b) sh.attnAivNum mem
  obtain ⟨mem', hprefix⟩ := exists_phaseRun (prefixProgram sh) sh.attnAivNum table
  exact ⟨mem', table, hstat, hprefix⟩

end Phases

end AfdPlugin.Cam
