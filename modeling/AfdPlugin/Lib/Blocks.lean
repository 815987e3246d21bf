import Mathlib.Tactic
import Mathlib.Algebra.Order.Floor.Div
/-!
# Contiguous blocks

A family of boundaries `b 0 ≤ b 1 ≤ … ≤ b n` cuts the indices from `b 0` to
`b n` into blocks; block `i` is `[b i, b (i + 1))`. Two families come up
wherever work or peers are spread evenly: `spread`, which hands out
`total` indices over `n` owners with the remainder going to the first ones,
and `ceilBound`, whose block `i` holds the indices that `k * n / total` maps
to `i`.
-/

namespace AfdPlugin.Blocks

/-- Block `i` of the boundaries `b`. -/
def block (b : Nat → Nat) (i : Nat) : List Nat := List.range' (b i) (b (i + 1) - b i)

@[simp] theorem mem_block {b : Nat → Nat} {i k : Nat} : k ∈ block b i ↔ b i ≤ k ∧ k < b (i + 1) := by
  simp only [block, List.mem_range'_1]
  omega

@[simp] theorem length_block (b : Nat → Nat) (i : Nat) : (block b i).length = b (i + 1) - b i := by
  simp [block]

theorem nodup_block (b : Nat → Nat) (i : Nat) : (block b i).Nodup := List.nodup_range'

theorem monotone_le_of_step {b : Nat → Nat} {n : Nat} (hb : ∀ i < n, b i ≤ b (i + 1)) {i j : Nat}
    (hij : i ≤ j) (hj : j ≤ n) : b i ≤ b j := by
  induction j, hij using Nat.le_induction with
  | base => exact le_rfl
  | succ j _ ih => exact (ih (by omega)).trans (hb j (by omega))

/-- The blocks in order are the indices in order. -/
theorem flatMap_block {b : Nat → Nat} {n : Nat} (hb : ∀ i < n, b i ≤ b (i + 1)) :
    (List.range n).flatMap (block b) = List.range' (b 0) (b n - b 0) := by
  induction n with
  | zero => simp
  | succ n ih =>
    have h0 : b 0 ≤ b n := monotone_le_of_step hb (Nat.zero_le n) (Nat.le_succ n)
    have hn : b n ≤ b (n + 1) := hb n (Nat.lt_succ_self n)
    rw [List.range_succ, List.flatMap_append, ih fun i hi => hb i (by omega)]
    simp only [List.flatMap_singleton, block]
    have hlen : b (n + 1) - b 0 = (b n - b 0) + (b (n + 1) - b n) := by omega
    have hstart : b n = b 0 + 1 * (b n - b 0) := by omega
    rw [hlen, ← List.range'_append, ← hstart]

/-- Two blocks that share an index are the same block. -/
theorem block_unique {b : Nat → Nat} {n : Nat} (hb : ∀ i < n, b i ≤ b (i + 1)) {i j k : Nat} (hi : i < n)
    (hj : j < n) (hki : k ∈ block b i) (hkj : k ∈ block b j) : i = j := by
  rw [mem_block] at hki hkj
  rcases lt_trichotomy i j with h | h | h
  · have := monotone_le_of_step hb (i := i + 1) (j := j) h hj.le
    omega
  · exact h
  · have := monotone_le_of_step hb (i := j + 1) (j := i) h hi.le
    omega

/-- Indices know their block. -/
theorem exists_owner {b : Nat → Nat} {n : Nat} (hb : ∀ i < n, b i ≤ b (i + 1)) :
    ∃ owner : Nat → Nat, ∀ i < n, ∀ k ∈ block b i, owner k = i := by
  have h : ∀ k, ∃ i, ∀ j < n, k ∈ block b j → i = j := by
    intro k
    by_cases hk : ∃ i < n, k ∈ block b i
    · obtain ⟨i, hi, hki⟩ := hk
      exact ⟨i, fun j hj hkj => block_unique hb hi hj hki hkj⟩
    · exact ⟨0, fun j hj hkj => absurd ⟨j, hj, hkj⟩ hk⟩
  choose owner howner using h
  exact ⟨owner, fun i hi k hk => howner k i hi hk⟩

/-- Maps of the blocks make one map of all indices. -/
theorem flatMap_map_block {α : Type} {b owner : Nat → Nat} {n : Nat} (hb : ∀ i < n, b i ≤ b (i + 1))
    (howner : ∀ i < n, ∀ k ∈ block b i, owner k = i) (f : Nat → Nat → α) :
    (List.range n).flatMap (fun i => (block b i).map (f i)) =
      (List.range' (b 0) (b n - b 0)).map fun k => f (owner k) k := by
  rw [← flatMap_block hb, List.map_flatMap]
  apply List.flatMap_congr
  intro i hi
  apply List.map_congr_left
  intro k hk
  rw [howner i (List.mem_range.1 hi) k hk]

/-! ## Spreading indices over owners -/

/-- Where owner `i` starts when `total` indices are spread over `n` owners,
the first `total % n` of which take one more. -/
def spread (total n i : Nat) : Nat := total / n * i + min i (total % n)

@[simp] theorem spread_zero (total n : Nat) : spread total n 0 = 0 := by simp [spread]

theorem spread_last (total : Nat) {n : Nat} (hn : 0 < n) : spread total n n = total := by
  rw [spread, min_eq_right (Nat.mod_lt total hn).le, Nat.mul_comm]
  exact Nat.div_add_mod total n

theorem spread_succ (total n i : Nat) :
    spread total n (i + 1) = spread total n i + total / n + if i < total % n then 1 else 0 := by
  simp only [spread, Nat.mul_succ]
  split <;> omega

theorem spread_le_succ (total n i : Nat) : spread total n i ≤ spread total n (i + 1) := by
  rw [spread_succ, Nat.add_assoc]; exact Nat.le_add_right _ _

theorem spread_mono (total n : Nat) {i j : Nat} (h : i ≤ j) : spread total n i ≤ spread total n j :=
  monotone_le_of_step (n := j) (fun i _ => spread_le_succ total n i) h le_rfl

theorem spread_le (total : Nat) {n i : Nat} (hi : i ≤ n) (hn : 0 < n) : spread total n i ≤ total :=
  (spread_mono total n hi).trans_eq (spread_last total hn)

/-! ## Blocks of a floor map -/

/-- The least `k` with `i ≤ k * n / total`. -/
def ceilBound (total n i : Nat) : Nat := (i * total + n - 1) / n

theorem ceilBound_le_iff {total n : Nat} (ht : 0 < total) (hn : 0 < n) (i k : Nat) :
    ceilBound total n i ≤ k ↔ i ≤ k * n / total := by
  rw [ceilBound, ← Nat.ceilDiv_eq_add_pred_div, ceilDiv_le_iff_le_mul hn, Nat.le_div_iff_mul_le ht,
    Nat.mul_comm n k]

theorem ceilBound_mono {total n : Nat} (ht : 0 < total) (hn : 0 < n) {i j : Nat} (h : i ≤ j) :
    ceilBound total n i ≤ ceilBound total n j :=
  (ceilBound_le_iff ht hn i _).2 (h.trans ((ceilBound_le_iff ht hn j _).1 le_rfl))

@[simp] theorem ceilBound_zero (total n : Nat) : ceilBound total n 0 = 0 := by
  rcases n with _ | n <;> simp [ceilBound]

theorem ceilBound_last (total : Nat) {n : Nat} (hn : 0 < n) : ceilBound total n n = total := by
  rw [ceilBound, ← Nat.ceilDiv_eq_add_pred_div, ← smul_eq_mul]
  exact smul_ceilDiv hn total

/-- Block `i` of the ceilings is the fibre of `k * n / total` over `i`. -/
theorem mem_block_ceilBound {total n : Nat} (ht : 0 < total) (hn : 0 < n) {i k : Nat} :
    k ∈ block (ceilBound total n) i ↔ k * n / total = i := by
  rw [mem_block, ceilBound_le_iff ht hn, ← not_le, ceilBound_le_iff ht hn]
  omega

/-- The ceilings grow by `total / n` or one more. -/
theorem ceilBound_succ (total : Nat) {n : Nat} (hn : 0 < n) (i : Nat) :
    ceilBound total n i + total / n ≤ ceilBound total n (i + 1) ∧
      ceilBound total n (i + 1) ≤ ceilBound total n i + total / n + 1 := by
  have hdiv : total = n * (total / n) + total % n := (Nat.div_add_mod total n).symm
  have hmod : total % n < n := Nat.mod_lt total hn
  have hsum : (i + 1) * total + n - 1 = (i * total + n - 1 + total % n) + n * (total / n) := by
    rw [Nat.succ_mul]; omega
  simp only [ceilBound]
  rw [hsum, Nat.add_mul_div_left _ _ hn]
  have hlow : (i * total + n - 1) / n ≤ (i * total + n - 1 + total % n) / n :=
    Nat.div_le_div_right (Nat.le_add_right _ _)
  have hhigh : (i * total + n - 1 + total % n) / n ≤ (i * total + n - 1 + n) / n :=
    Nat.div_le_div_right (by omega)
  rw [Nat.add_div_right _ hn] at hhigh
  omega

end AfdPlugin.Blocks
