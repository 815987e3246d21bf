import AfdPlugin.Lib.Fallible
/-!
# Rows picked and placed by index

Reading the rows of a buffer at a list of indices, and writing rows to such a
list. With distinct indices every written row is read back and the other rows
stay.
-/

namespace AfdPlugin.Gather

variable {α β : Type}

/-- `rows[idx]`. -/
def gather (rows : List α) (idx : List Nat) : Except String (List α) :=
  idx.mapM fun i =>
    match rows[i]? with
    | some row => .ok row
    | none => .error s!"index {i} is out of bounds for dimension 0 with size {rows.length}"

/-- The rows after the writes of `writes`, in order. -/
def place (rows : List α) (writes : List (Nat × α)) : List α :=
  writes.foldl (fun rows w => rows.set w.1 w.2) rows

/-- `rows[idx] = vals`. -/
def scatter (rows : List α) (idx : List Nat) (vals : List α) : Except String (List α) :=
  if idx.length ≠ vals.length then
    .error s!"shape mismatch: value of {vals.length} rows cannot be broadcast to indexing result of {idx.length} rows"
  else match idx.find? (rows.length ≤ ·) with
    | some i => .error s!"index {i} is out of bounds for dimension 0 with size {rows.length}"
    | none => .ok (place rows (idx.zip vals))

theorem gather_ok {rows : List α} {idx : List Nat} {row : Nat → α}
    (h : ∀ i ∈ idx, rows[i]? = some (row i)) :
    gather rows idx = .ok (idx.map row) := by
  apply Fallible.mapM_ok
  intro i hi
  simp [h i hi]

theorem scatter_ok (rows : List α) (writes : List (Nat × α)) (h : ∀ w ∈ writes, w.1 < rows.length) :
    scatter rows (writes.map Prod.fst) (writes.map Prod.snd) = .ok (place rows writes) := by
  have hfind : (writes.map Prod.fst).find? (rows.length ≤ ·) = none := by
    rw [List.find?_eq_none]
    intro i hi
    obtain ⟨w, hw, rfl⟩ := List.mem_map.1 hi
    simpa using h w hw
  have hzip : (writes.map Prod.fst).zip (writes.map Prod.snd) = writes := by
    rw [List.zip_map', List.map_id'']
    intro w
    rfl
  rw [scatter, if_neg (by simp), hfind, hzip]

@[simp] theorem length_place (rows : List α) (writes : List (Nat × α)) :
    (place rows writes).length = rows.length := by
  induction writes generalizing rows with
  | nil => rfl
  | cons w writes ih => simpa [place] using ih (rows.set w.1 w.2)

theorem place_of_not_mem (rows : List α) {writes : List (Nat × α)} {i : Nat} (h : i ∉ writes.map Prod.fst) :
    (place rows writes)[i]? = rows[i]? := by
  induction writes generalizing rows with
  | nil => rfl
  | cons w writes ih =>
    rw [List.map_cons, List.mem_cons, not_or] at h
    have hset : (rows.set w.1 w.2)[i]? = rows[i]? := List.getElem?_set_ne (Ne.symm h.1)
    exact (ih (rows.set w.1 w.2) h.2).trans hset

theorem place_of_mem (rows : List α) {writes : List (Nat × α)} (hnd : (writes.map Prod.fst).Nodup)
    {w : Nat × α} (hw : w ∈ writes) (hi : w.1 < rows.length) :
    (place rows writes)[w.1]? = some w.2 := by
  induction writes generalizing rows with
  | nil => cases hw
  | cons v writes ih =>
    rw [List.map_cons, List.nodup_cons] at hnd
    rcases List.mem_cons.1 hw with rfl | hw
    · -- the first write stays, since no later one has its index
      have hrest := place_of_not_mem (rows.set w.1 w.2) hnd.1
      rw [List.getElem?_set_self hi] at hrest
      exact hrest
    · exact ih (rows.set v.1 v.2) hnd.2 hw (by simpa using hi)

end AfdPlugin.Gather
