import AfdPlugin.Lib.Blocks
import Mathlib.Data.Nat.Count
/-!
# Stable placement by key

Items `0, 1, …, n - 1` with keys are placed as counting sort does: an item's
place is the number of items with smaller keys plus the number of earlier items
with the same key. Prefix sums give the first places of the keys.
-/

namespace AfdPlugin

/-! ## Prefix sums -/

/-- `cnt 0 + … + cnt (n - 1)`. -/
def prefixSum (cnt : Nat → Nat) : Nat → Nat
  | 0 => 0
  | n + 1 => prefixSum cnt n + cnt n

section PrefixSum
variable {cnt cnt' : Nat → Nat}

@[simp] theorem prefixSum_zero (cnt : Nat → Nat) : prefixSum cnt 0 = 0 := rfl

theorem prefixSum_succ (cnt : Nat → Nat) (n : Nat) : prefixSum cnt (n + 1) = prefixSum cnt n + cnt n := rfl

theorem prefixSum_mono (cnt : Nat → Nat) {m n : Nat} (h : m ≤ n) : prefixSum cnt m ≤ prefixSum cnt n :=
  Blocks.monotone_le_of_step (n := n) (fun _ _ => Nat.le_add_right _ _) h le_rfl

theorem prefixSum_congr {n : Nat} (h : ∀ i < n, cnt i = cnt' i) : prefixSum cnt n = prefixSum cnt' n := by
  induction n with
  | zero => rfl
  | succ n ih => rw [prefixSum_succ, prefixSum_succ, ih fun i hi => h i (by omega), h n (by omega)]

theorem prefixSum_eq_zero {n : Nat} (h : ∀ i < n, cnt i = 0) : prefixSum cnt n = 0 := by
  induction n with
  | zero => rfl
  | succ n ih => rw [prefixSum_succ, ih fun i hi => h i (by omega), h n (by omega)]

/-- A sum in two parts. -/
theorem prefixSum_add (cnt : Nat → Nat) (m n : Nat) :
    prefixSum cnt (m + n) = prefixSum cnt m + prefixSum (fun i => cnt (m + i)) n := by
  induction n with
  | zero => rfl
  | succ n ih => rw [← Nat.add_assoc, prefixSum_succ, ih, prefixSum_succ, Nat.add_assoc]

/-- Every number below the sum is in the block of one index. -/
theorem exists_block {n r : Nat} (h : r < prefixSum cnt n) :
    ∃ i < n, prefixSum cnt i ≤ r ∧ r < prefixSum cnt (i + 1) := by
  induction n with
  | zero => exact absurd h (Nat.not_lt_zero r)
  | succ n ih =>
    rcases Nat.lt_or_ge r (prefixSum cnt n) with hlt | hge
    · obtain ⟨i, hi, hir⟩ := ih hlt
      exact ⟨i, by omega, hir⟩
    · exact ⟨n, by omega, hge, h⟩

/-- Blocks do not overlap. -/
theorem block_inj {i j o o' : Nat} (hi : o < cnt i) (hj : o' < cnt j)
    (h : prefixSum cnt i + o = prefixSum cnt j + o') : i = j ∧ o = o' := by
  have hsi := prefixSum_succ cnt i
  have hsj := prefixSum_succ cnt j
  rcases lt_trichotomy i j with hlt | rfl | hlt
  · have := prefixSum_mono cnt (show i + 1 ≤ j from hlt)
    omega
  · exact ⟨rfl, by omega⟩
  · have := prefixSum_mono cnt (show j + 1 ≤ i from hlt)
    omega

/-- The number of blocks that end before a number is that of its own block. -/
theorem count_blocks {i n r : Nat} (hle : prefixSum cnt i ≤ r) (hlt : r < prefixSum cnt (i + 1))
    (hi : i ≤ n) :
    Nat.count (fun j => prefixSum cnt (j + 1) ≤ r) n = i := by
  induction n with
  | zero => rw [Nat.count_zero, Nat.le_zero.1 hi]
  | succ n ih =>
    rw [Nat.count_succ]
    rcases Nat.eq_or_lt_of_le hi with rfl | hin
    · have hall : ∀ j ≤ n, prefixSum cnt (j + 1) ≤ r :=
        fun j hj => (prefixSum_mono cnt (by omega)).trans hle
      rw [if_pos (hall n le_rfl)]
      congr 1
      clear ih hi hle hlt
      induction n with
      | zero => exact Nat.count_zero _
      | succ n ih => rw [Nat.count_succ, if_pos (hall n (by omega)), ih fun j hj => hall j (by omega)]
    · have hmono := prefixSum_mono cnt (show i + 1 ≤ n + 1 by omega)
      rw [ih (by omega), if_neg (by omega), Nat.add_zero]

end PrefixSum

/-! ## Occurrences -/

/-- How many of the first `p` items have the key `k`. -/
def occurrences (key : Nat → Nat) (k p : Nat) : Nat := Nat.count (fun q => key q = k) p

section Occurrences
variable {key : Nat → Nat} {k : Nat}

@[simp] theorem occurrences_zero (key : Nat → Nat) (k : Nat) : occurrences key k 0 = 0 := Nat.count_zero _

theorem occurrences_succ (key : Nat → Nat) (k p : Nat) :
    occurrences key k (p + 1) = occurrences key k p + if key p = k then 1 else 0 := Nat.count_succ _ _

theorem occurrences_mono (key : Nat → Nat) (k : Nat) {p q : Nat} (h : p ≤ q) :
    occurrences key k p ≤ occurrences key k q := Nat.count_monotone _ h

/-- An item is counted after it. -/
theorem occurrences_lt {p n : Nat} (hp : key p = k) (hlt : p < n) :
    occurrences key k p < occurrences key k n :=
  Nat.count_strict_mono hp hlt

/-- Items with one key are told apart by their occurrence number. -/
theorem occurrences_inj {p q : Nat} (hp : key p = k) (hq : key q = k)
    (h : occurrences key k p = occurrences key k q) : p = q := Nat.count_injective hp hq h

/-- Every number below a count is the count before a counted item. -/
theorem exists_count_eq {P : Nat → Prop} [DecidablePred P] {n o : Nat} (h : o < Nat.count P n) :
    ∃ p < n, P p ∧ Nat.count P p = o := by
  induction n with
  | zero =>
    rw [Nat.count_zero] at h
    omega
  | succ n ih =>
    rw [Nat.count_succ] at h
    rcases Nat.lt_or_ge o (Nat.count P n) with hlt | hge
    · obtain ⟨p, hp, hcounted⟩ := ih hlt
      exact ⟨p, by omega, hcounted⟩
    · split at h
      · rename_i hcounted
        exact ⟨n, by omega, hcounted, by omega⟩
      · omega

/-- Every occurrence number is that of an item. -/
theorem exists_occurrence {n o : Nat} (h : o < occurrences key k n) :
    ∃ p < n, key p = k ∧ occurrences key k p = o := exists_count_eq h

theorem occurrences_le (key : Nat → Nat) (k p : Nat) : occurrences key k p ≤ p := Nat.count_le _

end Occurrences

end AfdPlugin
