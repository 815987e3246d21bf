import Mathlib.Data.List.GetD
import Mathlib.Data.List.Sort
import Mathlib.Tactic
/-!
# Strided groups

The indices below `n` fall into `step` groups: group `f` is `f, f + step, …`.
Lists that repeat each entry, or repeat as a whole, are read here by the entry
an index falls on.
-/

namespace AfdPlugin.Strided

/-- The indices below `n` of group `f`. -/
def group (n step f : Nat) : List Nat := (List.range n).filter fun a => a % step = f

@[simp] theorem mem_group {n step f a : Nat} : a ∈ group n step f ↔ a < n ∧ a % step = f := by
  simp [group]

/-- A slice with a step visits a group in order. -/
theorem range'_eq_group {n step f : Nat} (hf : f < step) :
    List.range' f ((n - f + step - 1) / step) step = group n step f := by
  have hstep : 0 < step := by omega
  apply List.Pairwise.eq_of_mem_iff (List.pairwise_lt_range' step hstep) (List.pairwise_lt_range.filter _)
  intro a
  rw [List.mem_range', ← group, mem_group]
  constructor
  · rintro ⟨i, hi, rfl⟩
    refine ⟨?_, by rw [Nat.add_mul_mod_self_left, Nat.mod_eq_of_lt hf]⟩
    have hmul := Nat.mul_le_of_le_div step (i + 1) _ hi
    rw [Nat.succ_mul, Nat.mul_comm i] at hmul
    omega
  · rintro ⟨ha, rfl⟩
    have hdiv := Nat.mod_add_div a step
    refine ⟨a / step, ?_, hdiv.symm⟩
    apply (Nat.le_div_iff_mul_le hstep).2
    rw [Nat.succ_mul, Nat.mul_comm]
    omega

/-- A group, by the position of its members. -/
theorem group_eq_map {n step f : Nat} (hf : f < step) :
    group n step f = (List.range ((n - f + step - 1) / step)).map fun i => f + i * step := by
  rw [← range'_eq_group hf]
  apply List.ext_getElem (by simp)
  intro i _ _
  simp [Nat.mul_comm]

/-- When the groups are equal, group `f` is `f`, `f + step`, …, once in each
row. -/
theorem group_mul {rows step f : Nat} (hf : f < step) :
    group (rows * step) step f = (List.range rows).map fun row => row * step + f := by
  have hstep : 0 < step := by omega
  apply List.Pairwise.eq_of_mem_iff (List.pairwise_lt_range.filter _)
  · rw [List.pairwise_map]
    exact List.pairwise_lt_range.imp fun h => Nat.add_lt_add_right (Nat.mul_lt_mul_of_pos_right h hstep) f
  intro a
  rw [← group, mem_group, List.mem_map]
  constructor
  · rintro ⟨ha, rfl⟩
    exact ⟨a / step, List.mem_range.2 ((Nat.div_lt_iff_lt_mul hstep).2 ha), Nat.div_add_mod' a step⟩
  · rintro ⟨row, hrow, rfl⟩
    refine ⟨?_, by rw [Nat.mul_comm, Nat.mul_add_mod, Nat.mod_eq_of_lt hf]⟩
    have hle := Nat.mul_le_mul_right step (List.mem_range.1 hrow)
    rw [Nat.succ_mul] at hle
    omega

section Lists
variable {α : Type}

/-- A list whose entries are repeated `k` times each. -/
theorem getElem?_flatMap_replicate (l : List α) {k : Nat} (hk : 0 < k) (i : Nat) :
    (l.flatMap (List.replicate k))[i]? = l[i / k]? := by
  induction l generalizing i with
  | nil => rfl
  | cons x l ih =>
    rw [List.flatMap_cons]
    by_cases hi : i < k
    · rw [List.getElem?_append_left (by simpa using hi), Nat.div_eq_of_lt hi]
      simp [hi]
    · rw [List.getElem?_append_right (by simpa using hi), List.length_replicate, ih,
        Nat.div_eq_sub_div hk (not_lt.1 hi), List.getElem?_cons_succ]

theorem getD_flatMap_replicate (l : List α) {k : Nat} (hk : 0 < k) (i : Nat) (d : α) :
    (l.flatMap (List.replicate k)).getD i d = l.getD (i / k) d := by
  rw [List.getD_eq_getElem?_getD, List.getD_eq_getElem?_getD, getElem?_flatMap_replicate l hk]

theorem length_flatMap_replicate (l : List α) (k : Nat) :
    (l.flatMap (List.replicate k)).length = l.length * k := by
  simp [List.length_flatMap]

/-- A list repeated `n` times. -/
theorem getD_flatMap_const (l : List α) (n : Nat) {i : Nat} (hi : i < n * l.length) (d : α) :
    ((List.range n).flatMap fun _ => l).getD i d = l.getD (i % l.length) d := by
  have hlen : ∀ n, ((List.range n).flatMap fun _ => l).length = n * l.length :=
    fun n => by simp [List.length_flatMap]
  induction n with
  | zero => simp at hi
  | succ n ih =>
    rw [List.range_succ, List.flatMap_append, List.flatMap_singleton]
    by_cases h : i < n * l.length
    · rw [List.getD_append _ _ _ _ (by rwa [hlen]), ih h]
    · rw [List.getD_append_right _ _ _ _ (by rw [hlen]; omega), hlen]
      obtain ⟨j, rfl⟩ := Nat.exists_eq_add_of_le (not_lt.1 h)
      rw [Nat.add_sub_cancel_left, Nat.mul_comm, Nat.mul_add_mod, Nat.mod_eq_of_lt]
      rw [Nat.succ_mul] at hi
      omega

/-- A row given by its columns, repeated `n` times. -/
theorem length_flatMap_columns (row : Nat → α) (n cols : Nat) :
    ((List.range n).flatMap fun _ => (List.range cols).map row).length = n * cols := by
  simp [List.length_flatMap]

theorem getD_flatMap_columns (row : Nat → α) {n cols i : Nat} (hcols : 0 < cols)
    (hi : i < n * cols) (d : α) :
    ((List.range n).flatMap fun _ => (List.range cols).map row).getD i d = row (i % cols) := by
  have hlen : ((List.range cols).map row).length = cols := by simp
  rw [getD_flatMap_const _ _ (by rwa [hlen]), hlen,
    List.getD_eq_getElem _ _ (by rw [hlen]; exact Nat.mod_lt _ hcols)]
  simp

/-- The indices below a product, row by row. -/
theorem range_mul (n cols : Nat) :
    List.range (n * cols) = (List.range n).flatMap fun i => (List.range cols).map fun j =>
      i * cols + j := by
  induction n with
  | zero => simp
  | succ n ih =>
    rw [Nat.succ_mul, List.range_add, ih, List.range_succ, List.flatMap_append, List.flatMap_singleton]

/-- A list put together from pieces of one length `n`, cut again. -/
theorem take_drop_flatMap {β : Type} {g : β → List α} {n : Nat} {l : List β}
    (h : ∀ b ∈ l, (g b).length = n) {i : Nat} (hi : i < l.length) :
    ((l.flatMap g).drop (i * n)).take n = g l[i] := by
  induction l generalizing i with
  | nil => cases hi
  | cons b l ih =>
    have hb : (g b).length = n := h b List.mem_cons_self
    rw [List.flatMap_cons]
    cases i with
    | zero =>
      rw [Nat.zero_mul, List.drop_zero, List.take_append_of_le_length hb.ge, ← hb, List.take_length]
      rfl
    | succ i =>
      have htail : (g b ++ l.flatMap g).drop ((i + 1) * n) = (l.flatMap g).drop (i * n) := by
        rw [Nat.succ_mul, Nat.add_comm, ← hb, List.drop_length_add_append]
      rw [htail]
      exact ih (fun b hb => h b (List.mem_cons_of_mem _ hb)) (by simpa using hi)

end Lists

end AfdPlugin.Strided
