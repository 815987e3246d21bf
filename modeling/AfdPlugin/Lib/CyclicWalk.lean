import AfdPlugin.Lib.Strided
import Mathlib.Algebra.Order.Floor.Div
import Mathlib.Data.Int.CardIntervalMod
/-!
# Walking around a cycle

The first `n` items met when a list is walked through again and again. A longer
walk extends a shorter one, as many consecutive items as the cycle has are
distinct, and all items are met equally often up to one.
-/

namespace AfdPlugin.Cyclic

variable {α : Type}

/-- The `k`-th item of the walk. -/
def item (cycle : List α) (d : α) (k : Nat) : α := cycle.getD (k % cycle.length) d

/-- The first `n` items of the walk. -/
def walk (cycle : List α) (d : α) (n : Nat) : List α := (List.range n).map (item cycle d)

/-- A list cut into rows. -/
def reshape (l : List α) (rows cols : Nat) : List (List α) :=
  (List.range rows).map fun i => (l.drop (i * cols)).take cols

section Walk
variable {cycle : List α} {d : α}

@[simp] theorem length_walk (cycle : List α) (d : α) (n : Nat) : (walk cycle d n).length = n := by
  simp [walk]

theorem item_mem (h : cycle ≠ []) (k : Nat) : item cycle d k ∈ cycle := by
  have hlt : k % cycle.length < cycle.length := Nat.mod_lt _ (List.length_pos_iff.2 h)
  rw [item, List.getD_eq_getElem _ _ hlt]
  exact List.getElem_mem hlt

/-- Repeating the list often enough. -/
theorem take_repeat {r n : Nat} (h : n ≤ r * cycle.length) :
    ((List.range r).flatMap fun _ => cycle).take n = walk cycle d n := by
  have hlen : ((List.range r).flatMap fun _ => cycle).length = r * cycle.length := by
    simp [List.length_flatMap]
  apply List.ext_getElem
  · rw [length_walk, List.length_take, hlen]
    exact Nat.min_eq_left h
  · intro k hk hk'
    rw [length_walk] at hk'
    have hget := Strided.getD_flatMap_const cycle r (hk'.trans_le h) d
    rw [List.getD_eq_getElem _ _ (by rw [hlen]; exact hk'.trans_le h)] at hget
    simpa [walk, item] using hget

theorem drop_take_walk (cycle : List α) (d : α) {n i k : Nat} (h : i + k ≤ n) :
    ((walk cycle d n).drop i).take k = (List.range k).map fun j => item cycle d (i + j) := by
  apply List.ext_getElem
  · simp
    omega
  · intro j hj hj'
    simp [walk]

/-- As many consecutive items as the cycle has are distinct. -/
theorem nodup_window (hn : cycle.Nodup) {k : Nat} (hk : k ≤ cycle.length) (i : Nat) :
    ((List.range k).map fun j => item cycle d (i + j)).Nodup := by
  refine List.Nodup.map_on ?_ List.nodup_range
  intro j hj j' hj' heq
  rw [List.mem_range] at hj hj'
  have hpos : 0 < cycle.length := by omega
  have hlt := Nat.mod_lt (i + j) hpos
  have hlt' := Nat.mod_lt (i + j') hpos
  rw [item, item, List.getD_eq_getElem _ _ hlt, List.getD_eq_getElem _ _ hlt'] at heq
  have hmod : i + j ≡ i + j' [MOD cycle.length] := hn.getElem_inj_iff.1 heq
  exact Nat.ModEq.eq_of_lt_of_lt (Nat.ModEq.add_left_cancel' i hmod) (by omega) (by omega)

/-- How often the walk meets an item. -/
theorem count_walk [DecidableEq α] (hn : cycle.Nodup) {i : Nat} (hi : i < cycle.length) (n : Nat) :
    (walk cycle d n).count cycle[i] = n / cycle.length + if i < n % cycle.length then 1 else 0 := by
  have hpos : 0 < cycle.length := by omega
  have hat : ∀ k, item cycle d k = cycle[i] ↔ k ≡ i [MOD cycle.length] := by
    intro k
    rw [item, List.getD_eq_getElem _ _ (Nat.mod_lt k hpos), hn.getElem_inj_iff, Nat.ModEq,
      Nat.mod_eq_of_lt hi]
  have hcount : (walk cycle d n).count cycle[i] = Nat.count (· ≡ i [MOD cycle.length]) n := by
    induction n with
    | zero => rfl
    | succ n ih =>
      rw [walk, List.range_succ, List.map_append, List.count_append, Nat.count_succ, ← ih]
      simp [walk, List.count_singleton, hat]
  rw [hcount, Nat.count_modEq_card n hpos, Nat.mod_eq_of_lt hi]

/-- Every item of the cycle is met `n / length` times, rounded down or up. -/
theorem count_walk_cases [DecidableEq α] (hn : cycle.Nodup) {x : α} (hx : x ∈ cycle) (n : Nat) :
    (walk cycle d n).count x = n / cycle.length ∨ (walk cycle d n).count x = n ⌈/⌉ cycle.length := by
  obtain ⟨i, hi, rfl⟩ := List.getElem_of_mem hx
  have hpos : 0 < cycle.length := by omega
  rw [count_walk hn hi]
  split
  · rename_i hlt
    refine .inr ?_
    have hdiv := Nat.div_add_mod n cycle.length
    apply le_antisymm
    · have := (ceilDiv_le_iff_le_mul (b := n) (c := n ⌈/⌉ cycle.length) hpos).1 le_rfl
      by_contra hle
      have hle' : n ⌈/⌉ cycle.length ≤ n / cycle.length := by omega
      have := Nat.mul_le_mul_left cycle.length hle'
      omega
    · rw [ceilDiv_le_iff_le_mul hpos, Nat.mul_succ]
      have := Nat.mod_lt n hpos
      omega
  · exact .inl rfl

/-! ## Rows of a walk -/

theorem reshape_walk (cycle : List α) (d : α) (rows cols : Nat) :
    reshape (walk cycle d (rows * cols)) rows cols =
    (List.range rows).map fun i => (List.range cols).map fun j => item cycle d (i * cols + j) := by
  refine List.map_congr_left fun i hi => drop_take_walk cycle d ?_
  rw [← Nat.succ_mul]
  exact Nat.mul_le_mul_right cols (List.mem_range.1 hi)

theorem flatten_rows (cycle : List α) (d : α) (rows cols : Nat) :
    ((List.range rows).map fun i => (List.range cols).map fun j => item cycle d (i * cols + j)).flatten =
      walk cycle d (rows * cols) := by
  rw [walk, Strided.range_mul, List.map_flatMap, List.flatMap_def]
  simp [Function.comp_def]

end Walk

end AfdPlugin.Cyclic
