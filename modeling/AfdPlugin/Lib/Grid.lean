import AfdPlugin.Lib.Loops
import AfdPlugin.Lib.Placement
/-!
# Items in the cells of a grid

Cells `0, 1, …` hold `cnt 0, cnt 1, …` items, one cell after the other; item `r` is
in the cell whose block of the prefix sums has `r`. A grid is walked row after row:
with `n` columns, cell `k` is column `k % n` of row `k / n`.
-/

namespace AfdPlugin

/-! ## Cells in a row -/

/-- `owner` tells the cell of an item, for the first `n` cells. -/
def CellOwner (cnt : Nat → Nat) (n : Nat) (owner : Nat → Nat) : Prop :=
  ∀ k < n, ∀ r ∈ Blocks.block (prefixSum cnt) k, owner r = k

section Cells
variable {cnt owner : Nat → Nat} {n : Nat}

theorem prefixSum_le_succ (cnt : Nat → Nat) (k : Nat) : prefixSum cnt k ≤ prefixSum cnt (k + 1) :=
  Nat.le_add_right _ _

theorem exists_cellOwner (cnt : Nat → Nat) (n : Nat) : ∃ owner, CellOwner cnt n owner :=
  Blocks.exists_owner fun k _ => prefixSum_le_succ cnt k

/-- Places in a cell. -/
theorem CellOwner.eq (h : CellOwner cnt n owner) {k o : Nat} (hk : k < n) (ho : o < cnt k) :
    owner (prefixSum cnt k + o) = k := by
  apply h k hk
  rw [Blocks.mem_block, prefixSum_succ]
  omega

theorem CellOwner.of_mem (h : CellOwner cnt n owner) {k r : Nat} (hk : k < n) (hle : prefixSum cnt k ≤ r)
    (hlt : r < prefixSum cnt (k + 1)) : owner r = k :=
  h k hk r (Blocks.mem_block.2 ⟨hle, hlt⟩)

/-- The items of a cell, by their places. -/
theorem map_block {α : Type} (cnt : Nat → Nat) (k : Nat) (f : Nat → α) :
    (Blocks.block (prefixSum cnt) k).map f = (List.range (cnt k)).map fun o => f (prefixSum cnt k + o) := by
  rw [Blocks.block, prefixSum_succ, Nat.add_sub_cancel_left, List.range'_eq_map_range, List.map_map]
  rfl

/-- Items in order are the cells in order, with the items of each. -/
theorem CellOwner.map_range {α : Type} (h : CellOwner cnt n owner) (f : Nat → Nat → α) :
    (List.range (prefixSum cnt n)).map (fun r => f (owner r) r) =
      (List.range n).flatMap fun k => (List.range (cnt k)).map fun o => f k (prefixSum cnt k + o) := by
  have hmap := Blocks.flatMap_map_block (b := prefixSum cnt) (fun k _ => prefixSum_le_succ cnt k) h f
  rw [prefixSum_zero, Nat.sub_zero, ← List.range_eq_range'] at hmap
  rw [← hmap]
  apply List.flatMap_congr
  intro k _
  exact map_block cnt k (f k)

/-- The items of several owners' shares are all items. -/
theorem flatMap_spread {α : Type} (total : Nat) {owners : Nat} (hpos : 0 < owners) (f : Nat → α) :
    ((List.range owners).flatMap fun c => (Blocks.block (Blocks.spread total owners) c).map f) =
      (List.range total).map f := by
  rw [← List.map_flatMap, Blocks.flatMap_block fun c _ => Blocks.spread_le_succ total owners c,
    Blocks.spread_zero, Blocks.spread_last total hpos, Nat.sub_zero, List.range_eq_range']

theorem lt_of_mem_share {total owners c r : Nat} (hc : c < owners)
    (hr : r ∈ Blocks.block (Blocks.spread total owners) c) :
    r < total := by
  have hle : Blocks.spread total owners (c + 1) ≤ total := Blocks.spread_le total hc (by omega)
  have hlt := (Blocks.mem_block.1 hr).2
  omega

end Cells

/-- The order of two loops only orders what they collect. -/
theorem flatMap_swap_perm {α β γ : Type} (l : List α) (l' : List β) (f : α → β → List γ) :
    (l.flatMap fun a => l'.flatMap (f a)).Perm (l'.flatMap fun b => l.flatMap fun a => f a b) := by
  induction l with
  | nil =>
    apply List.Perm.of_eq
    simp
  | cons a l ih =>
    simp only [List.flatMap_cons]
    exact (ih.append_left _).trans (List.flatMap_append_perm l' (f a) _)

/-! ## One element of a list -/

section Single
variable {α β κ : Type} [DecidableEq κ] {l : List α} {a : α}

/-- When only one element yields anything, it yields all. -/
theorem flatMap_eq_single (hnodup : l.Nodup) (ha : a ∈ l) {f : α → List β} (h : ∀ b ∈ l, b ≠ a → f b = []) :
    l.flatMap f = f a := by
  induction l with
  | nil => cases ha
  | cons b l ih =>
    obtain ⟨hnotin, hnodup⟩ := List.nodup_cons.1 hnodup
    rw [List.flatMap_cons]
    rcases List.mem_cons.1 ha with rfl | ha
    · have hnone : l.flatMap f = [] := by
        rw [List.flatMap_eq_nil_iff]
        intro b hb
        apply h b (List.mem_cons_of_mem _ hb)
        rintro rfl
        exact hnotin hb
      rw [hnone, List.append_nil]
    · have hne : b ≠ a := by
        rintro rfl
        exact hnotin ha
      rw [h b List.mem_cons_self hne, List.nil_append]
      exact ih hnodup ha fun c hc => h c (List.mem_cons_of_mem _ hc)

/-- Elements are found by a key that tells them apart. -/
theorem filter_key_eq {k : α → κ} (hnodup : (l.map k).Nodup) (ha : a ∈ l) :
    (l.filter fun b => k b = k a) = [a] := by
  have hsplit : (l.filter fun b => k b = k a) = l.flatMap fun b => if k b = k a then [b] else [] := by
    clear hnodup ha
    induction l with
    | nil => rfl
    | cons b l ih =>
      rw [List.flatMap_cons, ← ih, List.filter_cons]
      by_cases hb : k b = k a
      · simp [hb]
      · simp [hb]
  rw [hsplit, flatMap_eq_single (hnodup.of_map _) ha fun b hb hne => ?_, if_pos rfl]
  rw [if_neg]
  intro hkey
  exact hne (List.inj_on_of_nodup_map hnodup hb ha hkey)

end Single

/-! ## Looking for a cell -/

section Seek
variable {σ : Type} {c : σ → Bool} {f : σ → σ}

/-- A loop that goes from cell to cell while the cell ends before `r` stops at the
cell of `r`. -/
theorem whileLoop_seek (state : Nat → σ) (cnt : Nat → Nat) (hf : ∀ k, f (state k) = state (k + 1))
    {r : Nat} (hc : ∀ k, c (state k) = decide (prefixSum cnt (k + 1) ≤ r)) {n k : Nat} (fuel : Nat)
    (hk : prefixSum cnt k ≤ r) (hr : r < prefixSum cnt n) (hfuel : n ≤ k + fuel) :
    ∃ k', k ≤ k' ∧ k' < n ∧ prefixSum cnt k' ≤ r ∧ r < prefixSum cnt (k' + 1) ∧
      whileLoop c f fuel (state k) = state k' := by
  obtain ⟨k', hk', hle, hlt⟩ := exists_block hr
  have hkk' : k ≤ k' := by
    by_contra hgt
    have hmono := prefixSum_mono cnt (show k' + 1 ≤ k by omega)
    omega
  refine ⟨k', hkk', hk', hle, hlt, whileLoop_eq hf hkk' (fun i _ hi => ?_) ?_ (by omega)⟩
  · rw [hc, decide_eq_true_eq]
    exact (prefixSum_mono cnt hi).trans hle
  · rw [hc, decide_eq_false_iff_not]
    omega

/-- With a strict test the loop may stop a cell earlier, in front of `r`. -/
theorem whileLoop_seek_lt (state : Nat → σ) (cnt : Nat → Nat) (hf : ∀ k, f (state k) = state (k + 1))
    {r : Nat} (hc : ∀ k, c (state k) = decide (prefixSum cnt (k + 1) < r)) {n : Nat} (fuel : Nat)
    (hr : r ≤ prefixSum cnt (n + 1)) (hfuel : n ≤ fuel) :
    ∃ k ≤ n, prefixSum cnt k ≤ r ∧ whileLoop c f fuel (state 0) = state k := by
  have hstop : ∃ k, ¬ prefixSum cnt (k + 1) < r := ⟨n, by omega⟩
  have hfound := Nat.find_spec hstop
  have hbefore : ∀ k < Nat.find hstop, prefixSum cnt (k + 1) < r := fun k hk => by
    have hmin := Nat.find_min hstop hk
    omega
  have hn : Nat.find hstop ≤ n := Nat.find_min' hstop (by omega)
  generalize Nat.find hstop = k at hfound hbefore hn
  refine ⟨k, hn, ?_, whileLoop_eq hf (Nat.zero_le k) (fun i _ hi => ?_) ?_ (by omega)⟩
  · rcases Nat.eq_zero_or_pos k with rfl | hpos
    · exact Nat.zero_le r
    · have hlast := hbefore (k - 1) (by omega)
      rw [Nat.sub_add_cancel hpos] at hlast
      omega
  · rw [hc, decide_eq_true_eq]
    exact hbefore i hi
  · rw [hc, decide_eq_false_iff_not]
    exact hfound

end Seek

/-! ## Rows and columns -/

/-- Items in cell `k` of a grid of `n` columns, from those of column `i` in row `e`. -/
def gridCount (c : Nat → Nat → Nat) (n k : Nat) : Nat := c (k % n) (k / n)

/-- Items in a row. -/
def rowCount (c : Nat → Nat → Nat) (n e : Nat) : Nat := prefixSum (fun i => c i e) n

section Grid
variable {c : Nat → Nat → Nat} {n : Nat}

theorem gridCount_cell (c : Nat → Nat → Nat) {e i : Nat} (hi : i < n) :
    gridCount c n (n * e + i) = c i e := by
  rw [gridCount, Nat.mul_add_mod, Nat.mod_eq_of_lt hi, Nat.mul_add_div (by omega), Nat.div_eq_of_lt hi,
    Nat.add_zero]

/-- A grid from row `d` on. -/
theorem gridCount_rows (c : Nat → Nat → Nat) (hn : 0 < n) (d k : Nat) :
    gridCount (fun i e => c i (d + e)) n k = gridCount c n (n * d + k) := by
  rw [gridCount, gridCount, Nat.mul_add_mod, Nat.mul_add_div hn]

/-- What is before a cell: the rows before its row, then the columns before it. -/
theorem prefixSum_gridCount (c : Nat → Nat → Nat) (e : Nat) {i : Nat} (hi : i ≤ n) :
    prefixSum (gridCount c n) (n * e + i) = prefixSum (rowCount c n) e + prefixSum (fun i => c i e) i := by
  have hrow : ∀ e i, i ≤ n →
      prefixSum (fun i => gridCount c n (n * e + i)) i = prefixSum (fun i => c i e) i :=
    fun e i hi => prefixSum_congr fun j hj => gridCount_cell c (by omega)
  have hrows : prefixSum (gridCount c n) (n * e) = prefixSum (rowCount c n) e := by
    induction e with
    | zero => rfl
    | succ e ih => rw [Nat.mul_succ, prefixSum_add, ih, hrow e n le_rfl, prefixSum_succ, rowCount]
  rw [prefixSum_add, hrows, hrow e i hi]

theorem prefixSum_gridCount_rows (c : Nat → Nat → Nat) (n e : Nat) :
    prefixSum (gridCount c n) (n * e) = prefixSum (rowCount c n) e :=
  prefixSum_gridCount c e (Nat.zero_le n)

/-- The cells in order are the rows in order, with the columns of each. -/
theorem flatMap_grid {α : Type} (n rows : Nat) (f : Nat → List α) :
    (List.range (n * rows)).flatMap f = (List.range rows).flatMap fun e =>
      (List.range n).flatMap fun i => f (n * e + i) := by
  induction rows with
  | zero => rfl
  | succ rows ih =>
    rw [Nat.mul_succ, List.range_add, List.flatMap_append, ih, List.range_succ, List.flatMap_append,
      List.flatMap_map, List.flatMap_singleton]

/-- A grid may be summed by rows or by columns. -/
theorem prefixSum_rowCount (c : Nat → Nat → Nat) (n rows : Nat) :
    prefixSum (rowCount c n) rows = prefixSum (fun i => prefixSum (c i) rows) n := by
  induction rows with
  | zero =>
    induction n with
    | zero => rfl
    | succ n ih => rw [prefixSum_succ, ← ih]; rfl
  | succ rows ih =>
    rw [prefixSum_succ, ih, rowCount]
    clear ih
    induction n with
    | zero => rfl
    | succ n ih =>
      rw [prefixSum_succ, prefixSum_succ, prefixSum_succ, prefixSum_succ, ← ih]
      omega

end Grid

/-! ## Occurrences of a column -/

section Occurrences
variable {key : Nat → Nat}

/-- Items with one key count for that key only. -/
theorem occurrences_add (key : Nat → Nat) (a : Nat) {o k₀ : Nat} (h : ∀ j < o, key (a + j) = k₀) (k : Nat) :
    occurrences key k (a + o) = occurrences key k a + if k₀ = k then o else 0 := by
  induction o with
  | zero => simp
  | succ o ih =>
    rw [← Nat.add_assoc, occurrences_succ, ih fun j hj => h j (by omega), h o (by omega)]
    split
    · rw [Nat.add_assoc]
    · rfl

/-- The cell after a row's last one begins the next row. -/
theorem next_cell {n : Nat} (hn : 0 < n) (k : Nat) :
    (k % n + 1 = n ∧ (k + 1) / n = k / n + 1 ∧ (k + 1) % n = 0) ∨
      (k % n + 1 < n ∧ (k + 1) / n = k / n ∧ (k + 1) % n = k % n + 1) := by
  have hmod := Nat.mod_lt k hn
  have hsplit := Nat.div_add_mod k n
  rcases Nat.eq_or_lt_of_le (show k % n + 1 ≤ n from hmod) with hlast | hlt
  · have hnext : k + 1 = n * (k / n + 1) := by rw [Nat.mul_succ]; omega
    refine .inl ⟨hlast, ?_, ?_⟩
    · rw [hnext, Nat.mul_div_cancel_left _ hn]
    · rw [hnext, Nat.mul_mod_right]
  · have hnext : k + 1 = n * (k / n) + (k % n + 1) := by omega
    refine .inr ⟨hlt, ?_, ?_⟩
    · rw [hnext, Nat.mul_add_div hn, Nat.div_eq_of_lt hlt, Nat.add_zero]
    · rw [hnext, Nat.mul_add_mod, Nat.mod_eq_of_lt hlt]

/-- The items of column `i` before a cell. -/
theorem occurrences_column {c : Nat → Nat → Nat} {n cells : Nat} {owner : Nat → Nat} (hn : 0 < n)
    (howner : CellOwner (gridCount c n) cells owner) {i : Nat} (hi : i < n) {k : Nat} (hk : k ≤ cells) :
    occurrences (fun r => owner r % n) i (prefixSum (gridCount c n) k) =
      prefixSum (c i) (k / n + if i < k % n then 1 else 0) := by
  induction k with
  | zero => simp
  | succ k ih =>
    have hcell : ∀ j < gridCount c n k, owner (prefixSum (gridCount c n) k + j) % n = k % n := fun j hj =>
      congrArg (· % n) (howner.eq hk hj)
    have hblock := occurrences_add (fun r => owner r % n) (prefixSum (gridCount c n) k) hcell i
    rw [prefixSum_succ, hblock, ih (by omega), gridCount]
    rcases next_cell hn k with ⟨hlast, hdiv, hmod⟩ | ⟨hlt, hdiv, hmod⟩
    · rw [hdiv, hmod, if_neg (Nat.not_lt_zero i), Nat.add_zero]
      rcases Nat.lt_or_ge i (k % n) with hbefore | hge
      · rw [if_pos hbefore, if_neg (by omega), Nat.add_zero]
      · obtain rfl : i = k % n := by omega
        rw [if_neg (Nat.lt_irrefl _), if_pos rfl, Nat.add_zero, prefixSum_succ]
    · rw [hdiv, hmod]
      rcases lt_trichotomy i (k % n) with hbefore | rfl | hafter
      · rw [if_pos hbefore, if_neg (by omega), if_pos (by omega), Nat.add_zero]
      · rw [if_neg (Nat.lt_irrefl _), if_pos rfl, if_pos (Nat.lt_succ_self _), Nat.add_zero, prefixSum_succ]
      · rw [if_neg (by omega), if_neg (by omega), if_neg (by omega)]
        rfl

/-- An item's number among the items of its column: those of the rows before, then
its place in the cell. -/
theorem occurrences_cell {c : Nat → Nat → Nat} {n cells : Nat} {owner : Nat → Nat} (hn : 0 < n)
    (howner : CellOwner (gridCount c n) cells owner) {k o : Nat} (hk : k < cells)
    (ho : o ≤ gridCount c n k) :
    occurrences (fun r => owner r % n) (k % n) (prefixSum (gridCount c n) k + o) =
      prefixSum (c (k % n)) (k / n) + o := by
  have hcell : ∀ j < o, owner (prefixSum (gridCount c n) k + j) % n = k % n := fun j hj =>
    congrArg (· % n) (howner.eq hk (by omega))
  rw [occurrences_add (fun r => owner r % n) (prefixSum (gridCount c n) k) hcell, if_pos rfl,
    occurrences_column hn howner (Nat.mod_lt k hn) hk.le, if_neg (Nat.lt_irrefl _), Nat.add_zero]

/-- The items with a key, by their numbers. -/
theorem map_occurrences (key : Nat → Nat) (k n : Nat) :
    ((List.range n).filter fun p => key p = k).map (occurrences key k) =
      List.range (occurrences key k n) := by
  induction n with
  | zero => rfl
  | succ n ih =>
    rw [List.range_succ, List.filter_append, List.map_append, ih, occurrences_succ]
    by_cases h : key n = k
    · simp [h, List.range_succ]
    · simp [h]

/-- Sorting by key neither loses nor adds an item. -/
theorem flatMap_filter_perm {key : Nat → Nat} {l : List Nat} {keys : Nat} (h : ∀ p ∈ l, key p < keys) :
    ((List.range keys).flatMap fun k => l.filter fun p => key p = k).Perm l := by
  have hbelow : ∀ K,
      ((List.range K).flatMap fun k => l.filter fun p => key p = k).Perm
      (l.filter fun p => key p < K) := by
    intro K
    induction K with
    | zero => simp
    | succ K ih =>
      have hsplit := List.filter_append_perm (fun p => decide (key p < K)) (l.filter fun p => key p < K + 1)
      rw [List.filter_filter, List.filter_filter] at hsplit
      have hlow : (fun p => decide (key p < K) && decide (key p < K + 1)) = fun p =>
          decide (key p < K) := by
        funext p
        rw [← Bool.decide_and]
        exact decide_eq_decide.2 (by omega)
      have hhigh : (fun p => !decide (key p < K) && decide (key p < K + 1)) = fun p =>
          decide (key p = K) := by
        funext p
        rw [← decide_not, ← Bool.decide_and]
        exact decide_eq_decide.2 (by omega)
      rw [hlow, hhigh] at hsplit
      rw [List.range_succ, List.flatMap_append, List.flatMap_singleton]
      exact (ih.append_right _).trans hsplit
  have hall : (l.filter fun p => decide (key p < keys)) = l := by
    apply List.filter_eq_self.2
    intro p hp
    exact decide_eq_true (h p hp)
  have hkeys := hbelow keys
  rwa [hall] at hkeys

end Occurrences

end AfdPlugin
