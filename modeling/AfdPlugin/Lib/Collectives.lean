import Mathlib
/-!
# Collectives on rows

The ranks below `tp` each hold a tensor, a list of rows. A collective is a
function of all of them: it takes every rank's tensor and gives what each rank
gets. It fails when the ranks' row counts do not fit.
-/

namespace AfdPlugin.Collective

variable {α β : Type} {tp : Nat}

/-- Every rank has as many rows as the first one. -/
def SameRows (tp : Nat) (x : Nat → List α) : Prop := ∀ r < tp, (x r).length = (x 0).length

instance (tp : Nat) (x : Nat → List α) : Decidable (SameRows tp x) :=
  inferInstanceAs (Decidable (∀ r < tp, (x r).length = (x 0).length))

/-- The tensors one after the other, on every rank. -/
def allGather (tp : Nat) (x : Nat → List α) : Except String (List α) :=
  if SameRows tp x then .ok ((List.range tp).flatMap x)
    else .error "all_gather: ranks differ in their row counts"

/-- The sum of the tensors, row by row. -/
def sumRows [AddCommMonoid α] (tp : Nat) (x : Nat → List α) : List α :=
  (List.range (x 0).length).map fun i => ∑ r ∈ Finset.range tp, (x r).getD i 0

/-- The sum of the tensors, on every rank. -/
def allReduce [AddCommMonoid α] (tp : Nat) (x : Nat → List α) : Except String (List α) :=
  if SameRows tp x then .ok (sumRows tp x) else .error "all_reduce: ranks differ in their row counts"

/-- The sum of the tensors, an equal part on each rank. -/
def reduceScatter [AddCommMonoid α] (tp : Nat) (x : Nat → List α) : Except String (Nat → List α) :=
  if ¬ SameRows tp x then .error "reduce_scatter: ranks differ in their row counts"
  else if (x 0).length % tp ≠ 0 then .error "reduce_scatter: rows are not divisible by the ranks"
  else
    let rows := (x 0).length / tp
    .ok fun r => ((sumRows tp x).drop (r * rows)).take rows

theorem allGather_ok {x : Nat → List α} (h : SameRows tp x) :
    allGather tp x = .ok ((List.range tp).flatMap x) := if_pos h

theorem allReduce_ok [AddCommMonoid α] {x : Nat → List α} (h : SameRows tp x) :
    allReduce tp x = .ok (sumRows tp x) :=
  if_pos h

theorem reduceScatter_ok [AddCommMonoid α] {x : Nat → List α} (rows : Nat) (h : SameRows tp x)
    (htp : 0 < tp) (hrows : (x 0).length = rows * tp) :
    reduceScatter tp x = .ok fun r => ((sumRows tp x).drop (r * rows)).take rows := by
  have hdiv : (x 0).length / tp = rows := by rw [hrows, Nat.mul_div_cancel _ htp]
  rw [reduceScatter, if_neg (not_not.2 h), if_neg (by simp [hrows])]
  simp only [hdiv]

/-- The sum of row-wise functions of the same rows is their pointwise sum. -/
theorem sumRows_map [AddCommMonoid β] {x : Nat → List β} (rows : List α) (f : Nat → α → β)
    (h : ∀ r, x r = rows.map (f r)) :
    sumRows tp x = rows.map fun row => ∑ r ∈ Finset.range tp, f r row := by
  apply List.ext_getElem
  · simp [sumRows, h]
  · intro i hi _
    have hlt : i < rows.length := by simpa [sumRows, h] using hi
    simp [sumRows, h, hlt]

/-- Zero rows behind the tensors are zero rows behind their sum. -/
theorem sumRows_append_zero [AddCommMonoid α] {x y : Nat → List α} (k : Nat) (h : SameRows tp x)
    (hy : ∀ r, y r = x r ++ List.replicate k 0) : sumRows tp y = sumRows tp x ++ List.replicate k 0 := by
  apply List.ext_getElem
  · simp [sumRows, hy]
  · intro i hi _
    simp only [sumRows, List.getElem_map, List.getElem_range, List.getElem_append, List.length_map,
      List.length_range, List.getElem_replicate]
    split
    · rename_i hlt
      refine Finset.sum_congr rfl fun r hr => ?_
      have hr' : i < (x r).length := (h r (Finset.mem_range.1 hr)).symm ▸ hlt
      simp [hy, List.getElem?_append_left hr']
    · rename_i hge
      refine Finset.sum_eq_zero fun r hr => ?_
      have hr' : (x r).length ≤ i := (h r (Finset.mem_range.1 hr)).symm ▸ not_lt.1 hge
      rw [hy, List.getD_eq_getElem?_getD, List.getElem?_append_right hr', List.getElem?_replicate]
      split <;> rfl

end AfdPlugin.Collective
