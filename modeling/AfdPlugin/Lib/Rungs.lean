import Mathlib.Algebra.Order.Floor.Div
import Mathlib.Data.List.Sort
import Mathlib.Tactic
/-!
# Rounding up

Rounding a size up to a multiple, and up to the next element of a sorted list
of admissible sizes (its rungs).
-/

namespace AfdPlugin

/-- The least multiple of `g` that is at least `n`. -/
def roundUp (g n : Nat) : Nat := n ⌈/⌉ g * g

section RoundUp
variable {g : Nat} (hg : 0 < g)
include hg

theorem le_roundUp (n : Nat) : n ≤ roundUp g n := by
  rw [roundUp, Nat.mul_comm, ← smul_eq_mul]
  exact le_smul_ceilDiv hg

theorem ceilDiv_mono {n m : Nat} (h : n ≤ m) : n ⌈/⌉ g ≤ m ⌈/⌉ g := (gc_smul_ceilDiv hg).monotone_l h

theorem roundUp_mono {n m : Nat} (h : n ≤ m) : roundUp g n ≤ roundUp g m :=
  Nat.mul_le_mul_right g (ceilDiv_mono hg h)

/-- A multiple above the size is above the rounded size. -/
theorem roundUp_le_of_dvd {n q : Nat} (h : n ≤ q) (hq : g ∣ q) : roundUp g n ≤ q := by
  obtain ⟨k, rfl⟩ := hq
  have hk : n ⌈/⌉ g ≤ k := (ceilDiv_le_iff_le_mul hg).2 h
  rw [roundUp, Nat.mul_comm g k]
  exact Nat.mul_le_mul_right g hk

theorem one_le_ceilDiv {n : Nat} (h : 1 ≤ n) : 1 ≤ n ⌈/⌉ g := by
  by_contra hlt
  have := (ceilDiv_le_iff_le_mul (b := n) (c := 0) hg).1 (by omega)
  rw [Nat.mul_zero] at this
  omega

/-- Ceiling division, as written with floor division of integers. -/
theorem neg_neg_ediv_le_iff (c k : Int) : -(-c / (g : Int)) ≤ k ↔ c ≤ k * g := by
  have hg' : (0 : Int) < g := by exact_mod_cast hg
  rw [neg_le, Int.le_ediv_iff_mul_le hg', Int.neg_mul, Int.neg_le_neg_iff]

theorem neg_neg_ediv (n : Nat) : -(-(n : Int) / g) = (n ⌈/⌉ g : Nat) := by
  have hle : n ≤ g * (n ⌈/⌉ g) := smul_eq_mul g (n ⌈/⌉ g) ▸ le_smul_ceilDiv hg
  refine le_antisymm ((neg_neg_ediv_le_iff hg _ _).2 (by rw [mul_comm]; exact_mod_cast hle)) ?_
  have hback := (neg_neg_ediv_le_iff hg (n : Int) _).1 le_rfl
  have hpos : 0 ≤ -(-(n : Int) / g) := by
    by_contra hneg
    have hg' : (0 : Int) < g := by exact_mod_cast hg
    have := mul_neg_of_neg_of_pos (not_le.1 hneg) hg'
    omega
  obtain ⟨k, hk⟩ := Int.eq_ofNat_of_zero_le hpos
  rw [hk] at hback ⊢
  exact_mod_cast (ceilDiv_le_iff_le_mul hg).2 (by rw [Nat.mul_comm]; exact_mod_cast hback)

end RoundUp

/-! ## Sorted lists -/

section Sorted
variable {l : List Nat} (hl : l.Pairwise (· < ·))
include hl

/-- The first element from `b` up is the least one. -/
theorem find?_le_least {b r : Nat} (h : l.find? (b ≤ ·) = some r) {x : Nat} (hx : x ∈ l) (hbx : b ≤ x) :
    r ≤ x := by
  induction l with
  | nil => cases hx
  | cons y ys ih =>
    obtain ⟨hy, hys⟩ := List.pairwise_cons.1 hl
    rw [List.find?_cons] at h
    by_cases hby : b ≤ y
    · simp only [hby, decide_true, Option.some.injEq] at h
      rcases List.mem_cons.1 hx with rfl | hx
      · exact h.symm.le
      · exact h ▸ (hy x hx).le
    · simp only [hby, decide_false] at h
      rcases List.mem_cons.1 hx with rfl | hx
      · exact absurd hbx hby
      · exact ih hys h hx

theorem le_getLast_of_mem {last : Nat} (h : l.getLast? = some last) {x : Nat} (hx : x ∈ l) : x ≤ last := by
  obtain ⟨ys, rfl⟩ := List.getLast?_eq_some_iff.1 h
  rcases List.mem_append.1 hx with hx | hx
  · exact ((List.pairwise_append.1 hl).2.2 x hx last (List.mem_singleton_self last)).le
  · exact (List.mem_singleton.1 hx).le

/-- Every element rounds up to itself. -/
theorem find?_self_of_mem {x : Nat} (hx : x ∈ l) : l.find? (x ≤ ·) = some x := by
  cases h : l.find? (x ≤ ·) with
  | none => exact absurd (List.find?_eq_none.1 h x hx) (by simp)
  | some r =>
    have hxr : x ≤ r := by simpa using List.find?_some h
    exact congrArg some (le_antisymm (find?_le_least hl h hx le_rfl) hxr)

end Sorted

/-- `sorted(set(l))`. -/
def sortedSet (l : List Nat) : List Nat := l.dedup.insertionSort (· ≤ ·)

@[simp] theorem mem_sortedSet {l : List Nat} {x : Nat} : x ∈ sortedSet l ↔ x ∈ l := by
  rw [sortedSet, List.mem_insertionSort, List.mem_dedup]

theorem pairwise_sortedSet (l : List Nat) : (sortedSet l).Pairwise (· < ·) := by
  have hle : (sortedSet l).Pairwise (· ≤ ·) := List.pairwise_insertionSort (· ≤ ·) l.dedup
  have hnodup : (sortedSet l).Nodup := (List.perm_insertionSort (· ≤ ·) l.dedup).nodup_iff.2 l.nodup_dedup
  exact (hle.and hnodup).imp fun h => lt_of_le_of_ne h.1 h.2

end AfdPlugin
