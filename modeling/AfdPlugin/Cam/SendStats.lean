import AfdPlugin.Cam.Routing
import AfdPlugin.Lib.Loops
/-!
# Statistics of dispatch-send

Before it sends, every core counts its own tokens for each MoE rank and its own
assignments for each expert, and shares them. The cores then turn the columns of
this table into prefix sums, so that row `c` tells what cores `0, …, c` send.
-/

namespace AfdPlugin.Cam

section Model
variable {V S : Type} (sh : CamShape) (b : Batch V S)

/-- First token of a core. -/
def Batch.aivStart (aivId : Nat) : Nat := Blocks.spread b.batchSize sh.attnAivNum aivId

/-- Columns of the statistics: the MoE ranks, then the experts. -/
def CamShape.statEntriesPerAiv : Nat := sh.moeRankNum + sh.expertNum

/-- A new token clears the send table. -/
def resetSent (sent : Nat → Nat) (topkId : Nat) : Nat → Nat :=
  if topkId % sh.topk = 0 then fun m => if m < sh.moeRankNum then 0 else sent m else sent

def markSent (sent : Nat → Nat) (moeRankId : Nat) : Nat → Nat :=
  if sent moeRankId = 0 then Function.update sent moeRankId 1 else sent

structure StatState where
  tokenSentFlag : Nat → Nat
  aivStat : Nat → Nat

/-- One entry of the routing table in the counting loop. -/
def statStep (s : StatState) (topkId : Nat) : StatState :=
  let sent := resetSent sh s.tokenSentFlag topkId
  let expertCol := sh.moeRankNum + b.expertIds topkId
  let stat := Function.update s.aivStat expertCol (s.aivStat expertCol + 1)
  let sent := markSent sent (b.moeRank sh topkId)
  let stat :=
    if (topkId + 1) % sh.topk = 0 then
      fun col => if col < sh.moeRankNum ∧ sent col = 1 then stat col + 1 else stat col
    else stat
  ⟨sent, stat⟩

/-- The counts of one core. -/
def coreStat (aivId : Nat) : Nat → Nat :=
  let start := sh.topk * b.aivStart sh aivId
  (forRange start (sh.topk * b.aivStart sh (aivId + 1) - start) ⟨fun _ => 0, fun _ => 0⟩
    (statStep sh b)).aivStat

/-- A core shares its row of the table. -/
def statWrites (aivId : Nat) : List ((Nat × Nat) × Nat) :=
  (List.range sh.statEntriesPerAiv).map fun col => ((aivId, col), coreStat sh b aivId col)

/-- The sum of rows `0, …, row` of a column. -/
def columnPrefix (table : Nat × Nat → Nat) (col : Nat) : Nat → Nat
  | 0 => table (0, col)
  | row + 1 => columnPrefix table col row + table (row + 1, col)

/-- Prefixes of consecutive columns, staged and copied in blocks of 32 rows. -/
def stagedPrefixWrites (table : Nat × Nat → Nat) (aivId : Nat) : List ((Nat × Nat) × Nat) :=
  let columnStart := Blocks.spread sh.statEntriesPerAiv sh.attnAivNum aivId
  let columnCount := Blocks.spread sh.statEntriesPerAiv sh.attnAivNum (aivId + 1) - columnStart
  if 0 < columnCount ∧ 1 < sh.attnAivNum then
    (List.range' 1 ((sh.attnAivNum - 1 + 31) / 32) 32).flatMap fun row =>
      (List.range' row (min 32 (sh.attnAivNum - row))).flatMap fun r =>
        (List.range columnCount).map fun col =>
          ((r, columnStart + col), columnPrefix table (columnStart + col) r)
  else []

structure DirectState where
  aivStat : Nat × Nat → Nat
  writes : List ((Nat × Nat) × Nat)

/-- One row of a column that is copied entry by entry; the first entry of the
buffer serves as the source of the copy. -/
def directStep (col : Nat) (s : DirectState) (row : Nat) : DirectState :=
  let sum := s.aivStat (row - 1, col) + s.aivStat (row, col)
  let stat := Function.update (Function.update s.aivStat (row, col) sum) (0, 0) sum
  ⟨stat, s.writes ++ [((row, col), stat (0, 0))]⟩

/-- Prefixes of every `aivNum`-th column, when the buffer has no room to stage. -/
def directPrefixWrites (table : Nat × Nat → Nat) (aivId : Nat) : List ((Nat × Nat) × Nat) :=
  (forRange 0 sh.statEntriesPerAiv ⟨table, []⟩ fun s col =>
    if col % sh.attnAivNum ≠ aivId then s else forRange 1 (sh.attnAivNum - 1) s (directStep col)).writes

def prefixWrites (table : Nat × Nat → Nat) (aivId : Nat) : List ((Nat × Nat) × Nat) :=
  if sh.stagesPrefix then stagedPrefixWrites sh table aivId else directPrefixWrites sh table aivId

/-- The table after both phases. -/
def preProcess (sched : Schedule) (stat : Nat × Nat → Nat) : Nat × Nat → Nat :=
  let table := sched.phase stat sh.attnAivNum (statWrites sh b)
  sched.phase table sh.attnAivNum (prefixWrites sh table)

end Model

/-! ## The send table -/

section Sent
variable {V S : Type} {sh : CamShape} {b : Batch V S}

theorem namedBefore_succ (m t p : Nat) :
    b.NamedBefore sh m t (p + 1) ↔ b.NamedBefore sh m t p ∨ (t * sh.topk ≤ p ∧ b.moeRank sh p = m) := by
  constructor
  · rintro ⟨q, hq, hle, hm⟩
    rcases Nat.lt_succ_iff_lt_or_eq.1 hq with hlt | rfl
    · exact .inl ⟨q, hlt, hle, hm⟩
    · exact .inr ⟨hle, hm⟩
  · rintro (⟨q, hq, hle, hm⟩ | ⟨hle, hm⟩)
    · exact ⟨q, by omega, hle, hm⟩
    · exact ⟨p, by omega, hle, hm⟩

/-- Nothing is named before a token's first entry. -/
theorem not_namedBefore_first {m p : Nat} (h : p % sh.topk = 0) : ¬ b.NamedBefore sh m (p / sh.topk) p := by
  rintro ⟨q, hq, hle, -⟩
  have := Nat.div_mul_cancel (Nat.dvd_of_mod_eq_zero h)
  omega

/-- The send table tells which MoE ranks entries of the token have named. -/
def SentTable (sh : CamShape) (b : Batch V S) (sent : Nat → Nat) (t p : Nat) : Prop :=
  ∀ m < sh.moeRankNum, sent m = if b.NamedBefore sh m t p then 1 else 0

theorem resetSent_table {sent : Nat → Nat} {p : Nat}
    (h : p % sh.topk ≠ 0 → SentTable sh b sent (p / sh.topk) p) :
    SentTable sh b (resetSent sh sent p) (p / sh.topk) p := by
  intro m hm
  unfold resetSent
  split
  · rename_i hfirst
    simp only [hm, if_true]
    rw [if_neg (not_namedBefore_first hfirst)]
  · rename_i hlater
    exact h hlater m hm

theorem markSent_table {sent : Nat → Nat} {p : Nat} (h : SentTable sh b sent (p / sh.topk) p) :
    SentTable sh b (markSent sent (b.moeRank sh p)) (p / sh.topk) (p + 1) := by
  have hle : p / sh.topk * sh.topk ≤ p := Nat.div_mul_le_self _ _
  intro m hm
  have hold := h m hm
  unfold markSent
  rcases eq_or_ne m (b.moeRank sh p) with rfl | hne
  · have hnamed : b.NamedBefore sh (b.moeRank sh p) (p / sh.topk) (p + 1) :=
      (namedBefore_succ _ _ _).2 (.inr ⟨hle, rfl⟩)
    rw [if_pos hnamed]
    split
    · rw [Function.update_self]
    · rename_i hsent
      rw [hold] at hsent ⊢
      split at hsent
      · rename_i hbefore
        exact if_pos hbefore
      · exact absurd rfl hsent
  · have hiff : b.NamedBefore sh m (p / sh.topk) (p + 1) ↔ b.NamedBefore sh m (p / sh.topk) p := by
      rw [namedBefore_succ]
      exact or_iff_left fun h => hne h.2.symm
    simp only [hiff, ← hold]
    split
    · exact Function.update_of_ne hne _ _
    · rfl

/-- The table still holds at the token's next entry. -/
theorem sentTable_next {sent : Nat → Nat} {p : Nat} (h : SentTable sh b sent (p / sh.topk) (p + 1))
    (hp : (p + 1) % sh.topk ≠ 0) : SentTable sh b sent ((p + 1) / sh.topk) (p + 1) := by
  rwa [Nat.succ_div, if_neg fun hdvd => hp (Nat.mod_eq_zero_of_dvd hdvd), Nat.add_zero]

end Sent

/-! ## What the cores count -/

section Count
variable {V S : Type} {sh : CamShape} {b : Batch V S}

/-- What the entries before `p` add up to in a column. -/
def Batch.statUpTo (sh : CamShape) (b : Batch V S) (col p : Nat) : Nat :=
  if col < sh.moeRankNum then b.moeTokens sh col (p / sh.topk)
  else occurrences b.expertIds (col - sh.moeRankNum) p

theorem aivStart_le (sh : CamShape) (b : Batch V S) {c : Nat} (hc : c ≤ sh.attnAivNum) :
    b.aivStart sh c ≤ b.batchSize := Blocks.spread_le _ hc sh.attnAivNum_pos

theorem aivStart_mono (sh : CamShape) (b : Batch V S) {c c' : Nat} (h : c ≤ c') :
    b.aivStart sh c ≤ b.aivStart sh c' :=
  Blocks.spread_mono _ _ h

theorem topk_mul_aivStart_le (sh : CamShape) (b : Batch V S) {c : Nat} (hc : c ≤ sh.attnAivNum) :
    sh.topk * b.aivStart sh c ≤ b.assignments sh := by
  rw [Batch.assignments, Nat.mul_comm b.batchSize]
  exact Nat.mul_le_mul_left _ (aivStart_le sh b hc)

theorem statUpTo_succ {sent : Nat → Nat} {p : Nat}
    (hsent : SentTable sh b sent (p / sh.topk) (p + 1)) (col : Nat) :
    b.statUpTo sh col (p + 1) = b.statUpTo sh col p +
      (if col = sh.moeRankNum + b.expertIds p then 1 else 0) +
      (if (p + 1) % sh.topk = 0 ∧ col < sh.moeRankNum ∧ sent col = 1 then 1 else 0) := by
  unfold Batch.statUpTo
  by_cases hcol : col < sh.moeRankNum
  · have hne : col ≠ sh.moeRankNum + b.expertIds p := by omega
    simp only [hcol, if_true, hne, if_false, Nat.add_zero, true_and]
    rw [moeTokens_div_succ, hsent col hcol]
    congr 1
    split <;> simp_all
  · have hiff : b.expertIds p = col - sh.moeRankNum ↔ col = sh.moeRankNum + b.expertIds p := by omega
    simp only [hcol, if_false, false_and, and_false, Nat.add_zero]
    rw [occurrences_succ]
    simp only [hiff]

/-- The loop counts the entries it has passed. -/
theorem statStep_inv {p0 p : Nat} {s : StatState}
    (hcount : ∀ col, s.aivStat col + b.statUpTo sh col p0 = b.statUpTo sh col p)
    (hsent : p % sh.topk ≠ 0 → SentTable sh b s.tokenSentFlag (p / sh.topk) p) :
    (∀ col, (statStep sh b s p).aivStat col + b.statUpTo sh col p0 = b.statUpTo sh col (p + 1)) ∧
      ((p + 1) % sh.topk ≠ 0 → SentTable sh b (statStep sh b s p).tokenSentFlag ((p + 1) / sh.topk)
        (p + 1)) := by
  have htable := markSent_table (resetSent_table hsent)
  refine ⟨fun col => ?_, fun hnext => sentTable_next htable hnext⟩
  have hold := hcount col
  rw [statUpTo_succ htable col]
  by_cases hlast : (p + 1) % sh.topk = 0
    <;> rcases eq_or_ne col (sh.moeRankNum + b.expertIds p) with rfl | hcol
  · simp [statStep, hlast]
    omega
  · simp only [statStep, hlast, if_true, Function.update_of_ne hcol, hcol, if_false, Nat.add_zero, true_and]
    split <;> omega
  · simp [statStep, hlast]
    omega
  · simp only [statStep, hlast, if_false, Function.update_of_ne hcol, hcol, false_and, Nat.add_zero]
    exact hold

theorem coreStat_eq (sh : CamShape) (b : Batch V S) (c col : Nat) :
    coreStat sh b c col + b.statUpTo sh col (sh.topk * b.aivStart sh c) =
      b.statUpTo sh col (sh.topk * b.aivStart sh (c + 1)) := by
  have hle : sh.topk * b.aivStart sh c ≤ sh.topk * b.aivStart sh (c + 1) :=
    Nat.mul_le_mul_left _ (aivStart_mono sh b (Nat.le_succ c))
  have hloop := forRange_inv (n := sh.topk * b.aivStart sh (c + 1) - sh.topk * b.aivStart sh c)
    (s := (⟨fun _ => 0, fun _ => 0⟩ : StatState)) (f := statStep sh b)
    (fun p s => (∀ col, s.aivStat col + b.statUpTo sh col (sh.topk * b.aivStart sh c) =
      b.statUpTo sh col p) ∧ (p % sh.topk ≠ 0 → SentTable sh b s.tokenSentFlag (p / sh.topk) p))
    ⟨fun col => Nat.zero_add _, fun hne => absurd (Nat.mul_mod_right _ _) hne⟩
    (fun p s _ _ hs => statStep_inv hs.1 hs.2)
  rw [Nat.add_sub_cancel' hle] at hloop
  exact hloop.1 col

end Count

/-! ## Prefix sums of the columns -/

section Prefix
variable (sh : CamShape) (table : Nat × Nat → Nat)

/-- Columns whose prefixes core `aivId` computes. -/
def OwnsColumn (aivId col : Nat) : Prop :=
  if sh.stagesPrefix then col ∈ Blocks.block (Blocks.spread sh.statEntriesPerAiv sh.attnAivNum) aivId
  else col < sh.statEntriesPerAiv ∧ col % sh.attnAivNum = aivId

/-- The writes of a column, from its second row on. -/
def columnWrites (col : Nat) : List ((Nat × Nat) × Nat) :=
  (List.range' 1 (sh.attnAivNum - 1)).map fun row => ((row, col), columnPrefix table col row)

variable {sh table}

theorem mem_columnWrites {col : Nat} {w : (Nat × Nat) × Nat} :
    w ∈ columnWrites sh table col ↔
      ∃ row, (1 ≤ row ∧ row < sh.attnAivNum) ∧ w = ((row, col), columnPrefix table col row) := by
  simp only [columnWrites, List.mem_map, List.mem_range'_1]
  constructor
  · rintro ⟨row, hrow, rfl⟩
    exact ⟨row, by omega, rfl⟩
  · rintro ⟨row, hrow, rfl⟩
    exact ⟨row, by omega, rfl⟩

/-- Each column has an owner. -/
theorem exists_owner {col : Nat} (h : col < sh.statEntriesPerAiv) :
    ∃ c < sh.attnAivNum, OwnsColumn sh c col := by
  unfold OwnsColumn
  split
  · have hmem : col ∈ (List.range sh.attnAivNum).flatMap
        (Blocks.block (Blocks.spread sh.statEntriesPerAiv sh.attnAivNum)) := by
      rw [Blocks.flatMap_block fun i _ => Blocks.spread_le_succ _ _ i, Blocks.spread_zero,
        Blocks.spread_last _ sh.attnAivNum_pos, List.mem_range'_1]
      omega
    obtain ⟨c, hc, hcol⟩ := List.mem_flatMap.1 hmem
    exact ⟨c, List.mem_range.1 hc, hcol⟩
  · exact ⟨col % sh.attnAivNum, Nat.mod_lt _ sh.attnAivNum_pos, h, rfl⟩

theorem mem_stagedPrefixWrites {c : Nat} {w : (Nat × Nat) × Nat} :
    w ∈ stagedPrefixWrites sh table c ↔
      ∃ col ∈ Blocks.block (Blocks.spread sh.statEntriesPerAiv sh.attnAivNum) c,
        w ∈ columnWrites sh table col := by
  simp only [mem_columnWrites, Blocks.mem_block, stagedPrefixWrites]
  constructor
  · intro hw
    split at hw
    · simp only [List.mem_flatMap, List.mem_range', List.mem_map, List.mem_range] at hw
      obtain ⟨-, ⟨i, hi, rfl⟩, r, ⟨j, hj, rfl⟩, col, hcol, rfl⟩ := hw
      exact ⟨_, by omega, _, by omega, rfl⟩
    · cases hw
  · rintro ⟨col, hcol, row, hrow, rfl⟩
    rw [if_pos ⟨by omega, by omega⟩]
    simp only [List.mem_flatMap, List.mem_range', List.mem_map, List.mem_range]
    refine ⟨1 + 32 * ((row - 1) / 32), ⟨(row - 1) / 32, by omega, rfl⟩, row,
      ⟨(row - 1) % 32, by omega, by omega⟩, col - Blocks.spread sh.statEntriesPerAiv sh.attnAivNum
      c, by omega, ?_⟩
    rw [Nat.add_sub_cancel' hcol.1]

/-- The inner loop writes the column and leaves the later ones alone. -/
theorem directStep_loop {col : Nat} {s : DirectState}
    (hs : ∀ r, ∀ c ≥ col, s.aivStat (r, c) = table (r, c)) :
    (forRange 1 (sh.attnAivNum - 1) s (directStep col)).writes = s.writes ++ columnWrites sh table col ∧
      ∀ r, ∀ c > col, (forRange 1 (sh.attnAivNum - 1) s (directStep col)).aivStat (r, c) =
        table (r, c) := by
  have hloop := forRange_inv (a := 1) (n := sh.attnAivNum - 1) (s := s) (f := directStep col)
    (fun row t => t.aivStat (row - 1, col) = columnPrefix table col (row - 1) ∧
      (∀ r ≥ row, t.aivStat (r, col) = table (r, col)) ∧
      (∀ r, ∀ c > col, t.aivStat (r, c) = table (r, c)) ∧
      t.writes = s.writes ++ (List.range' 1 (row - 1)).map fun row =>
      ((row, col), columnPrefix table col row)) ⟨hs 0 col le_rfl, fun r _ => hs r col le_rfl,
      fun r c hc => hs r c hc.le, by simp⟩ (fun row t hrow _ ⟨hprev, hrest, hother, hwrites⟩ => ?_)
  · rw [Nat.add_sub_cancel_left] at hloop
    exact ⟨hloop.2.2.2, hloop.2.2.1⟩
  · have hsum : t.aivStat (row - 1, col) + t.aivStat (row, col) = columnPrefix table col row := by
      obtain ⟨r, rfl⟩ : ∃ r, row = r + 1 := ⟨row - 1, by omega⟩
      rw [hprev, hrest _ le_rfl]
      rfl
    refine ⟨?_, fun r hr => ?_, fun r c hc => ?_, ?_⟩
    · have hne : ((row, col) : Nat × Nat) ≠ (0, 0) := by simp; omega
      simp [directStep, hsum, Function.update_of_ne hne]
    · have hne : ((r, col) : Nat × Nat) ≠ (0, 0) := by simp; omega
      have hne' : ((r, col) : Nat × Nat) ≠ (row, col) := by simp; omega
      simp only [directStep, Function.update_of_ne hne, Function.update_of_ne hne']
      exact hrest r (by omega)
    · have hne : ((r, c) : Nat × Nat) ≠ (0, 0) := by simp; omega
      have hne' : ((r, c) : Nat × Nat) ≠ (row, col) := by simp; omega
      simp only [directStep, Function.update_of_ne hne, Function.update_of_ne hne']
      exact hother r c hc
    · obtain ⟨r, rfl⟩ : ∃ r, row = r + 1 := ⟨row - 1, by omega⟩
      rw [Nat.add_sub_cancel] at hsum hwrites
      simp only [directStep, Nat.add_sub_cancel, hsum, hwrites, Function.update_self, List.append_assoc]
      rw [List.range'_concat, List.map_append, Nat.one_mul, Nat.add_comm 1 r]
      rfl

theorem mem_directPrefixWrites {c : Nat} {w : (Nat × Nat) × Nat} :
    w ∈ directPrefixWrites sh table c ↔
      ∃ col, (col < sh.statEntriesPerAiv ∧ col % sh.attnAivNum = c) ∧ w ∈ columnWrites sh table col := by
  have hloop := forRange_inv (a := 0) (n := sh.statEntriesPerAiv) (s := (⟨table, []⟩ : DirectState))
    (f := fun s col => if col % sh.attnAivNum ≠ c then
      s else forRange 1 (sh.attnAivNum - 1) s (directStep col))
    (fun bound t => (∀ r, ∀ col ≥ bound, t.aivStat (r, col) = table (r, col)) ∧ ∀ w, w ∈ t.writes ↔
      ∃ col, (col < bound ∧ col % sh.attnAivNum = c) ∧ w ∈ columnWrites sh table col) ⟨fun _ _ _ => rfl,
      fun w => by simp⟩ (fun bound t _ _ ⟨hstat, hwrites⟩ => ?_)
  · rw [Nat.zero_add] at hloop
    exact hloop.2 w
  · have hsplit : ∀ col, col < bound + 1 ↔ col < bound ∨ col = bound := fun col => by omega
    split
    · rename_i hne
      refine ⟨fun r col hcol => hstat r col (by omega), fun w => ?_⟩
      rw [hwrites]
      refine exists_congr fun col => and_congr_left fun _ => ?_
      rw [hsplit]
      refine ⟨fun h => ⟨.inl h.1, h.2⟩, fun h => ⟨h.1.resolve_right fun heq => hne (heq ▸ h.2), h.2⟩⟩
    · rename_i heq
      rw [not_not] at heq
      have hcol := @directStep_loop sh table bound _ hstat
      refine ⟨fun r col hc => hcol.2 r col (by omega), fun w => ?_⟩
      rw [hcol.1, List.mem_append, hwrites]
      constructor
      · rintro (⟨col, ⟨hlt, howner⟩, hw⟩ | hw)
        · exact ⟨col, ⟨by omega, howner⟩, hw⟩
        · exact ⟨bound, ⟨by omega, heq⟩, hw⟩
      · rintro ⟨col, ⟨hlt, howner⟩, hw⟩
        rcases (hsplit col).1 hlt with hlt | rfl
        · exact .inl ⟨col, ⟨hlt, howner⟩, hw⟩
        · exact .inr hw

/-- A core writes the prefixes of the columns it owns. -/
theorem mem_prefixWrites {c : Nat} {w : (Nat × Nat) × Nat} :
    w ∈ prefixWrites sh table c ↔ ∃ col, OwnsColumn sh c col ∧ w ∈ columnWrites sh table col := by
  unfold prefixWrites OwnsColumn
  split
  · exact mem_stagedPrefixWrites
  · exact mem_directPrefixWrites

end Prefix

/-! ## The shared table -/

section Shared
variable {V S : Type} (sh : CamShape) (b : Batch V S) (sched : Schedule) (stat : Nat × Nat → Nat)

theorem mem_statWrites {c : Nat} {w : (Nat × Nat) × Nat} :
    w ∈ statWrites sh b c ↔ ∃ col < sh.statEntriesPerAiv, w = ((c, col), coreStat sh b c col) := by
  simp only [statWrites, List.mem_map, List.mem_range]
  exact exists_congr fun col => and_congr_right fun _ => eq_comm

theorem stat_phase {c col : Nat} (hc : c < sh.attnAivNum) (hcol : col < sh.statEntriesPerAiv) :
    sched.phase stat sh.attnAivNum (statWrites sh b) (c, col) = coreStat sh b c col := by
  apply sched.phase_of_mem hc ((mem_statWrites sh b).2 ⟨col, hcol, rfl⟩)
  intro c' _ w hw hk
  obtain ⟨col', -, rfl⟩ := (mem_statWrites sh b).1 hw
  cases hk
  rfl

theorem prefix_phase (table : Nat × Nat → Nat) {c col : Nat} (hc : c < sh.attnAivNum)
    (hcol : col < sh.statEntriesPerAiv) :
    sched.phase table sh.attnAivNum (prefixWrites sh table) (c, col) = columnPrefix table col c := by
  rcases Nat.eq_zero_or_pos c with rfl | hpos
  · apply sched.phase_of_not_mem
    intro c' _ w hw hk
    obtain ⟨col', -, hw⟩ := mem_prefixWrites.1 hw
    obtain ⟨row, hrow, rfl⟩ := mem_columnWrites.1 hw
    cases hk
    omega
  · obtain ⟨owner, howner, howns⟩ := exists_owner hcol
    apply sched.phase_of_mem howner
      (mem_prefixWrites.2 ⟨col, howns, mem_columnWrites.2 ⟨c, ⟨hpos, hc⟩, rfl⟩⟩)
    intro c' _ w hw hk
    obtain ⟨col', -, hw⟩ := mem_prefixWrites.1 hw
    obtain ⟨row, -, rfl⟩ := mem_columnWrites.1 hw
    cases hk
    rfl

theorem columnPrefix_eq {table : Nat × Nat → Nat} {c col : Nat}
    (h : ∀ c' ≤ c, table (c', col) = coreStat sh b c' col) :
    columnPrefix table col c = b.statUpTo sh col (sh.topk * b.aivStart sh (c + 1)) := by
  induction c with
  | zero =>
    have hcore := coreStat_eq sh b 0 col
    have hstart : b.statUpTo sh col (sh.topk * b.aivStart sh 0) = 0 := by
      simp [Batch.aivStart, Batch.statUpTo, Batch.moeTokens]
    rw [columnPrefix, h 0 le_rfl]
    omega
  | succ c ih =>
    have hcore := coreStat_eq sh b (c + 1) col
    rw [columnPrefix, ih fun c' hc' => h c' (by omega), h (c + 1) le_rfl]
    omega

/-- After the two phases, row `c` tells what cores `0, …, c` send. -/
theorem preProcess_eq {c col : Nat} (hc : c < sh.attnAivNum) (hcol : col < sh.statEntriesPerAiv) :
    preProcess sh b sched stat (c, col) = b.statUpTo sh col (sh.topk * b.aivStart sh (c + 1)) := by
  unfold preProcess
  rw [prefix_phase sh sched _ hc hcol]
  exact columnPrefix_eq sh b fun c' hc' => stat_phase sh b sched stat (by omega) hcol

end Shared

end AfdPlugin.Cam
