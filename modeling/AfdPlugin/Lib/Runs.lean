import Mathlib.Data.List.Chain
import Mathlib.Data.List.Dedup
import Mathlib.Tactic
/-!
# Runs of equal entries

A list cut into its runs: neighbouring runs differ and none is empty. The values
of the runs are distinct exactly when equal entries of the list are contiguous,
and then a run is as long as its value is frequent.
-/

namespace AfdPlugin.Runs

variable {α : Type}

/-- The list with these runs. -/
def expand (runs : List (α × Nat)) : List α := runs.flatMap fun r => List.replicate r.2 r.1

/-- No run is empty and neighbours differ. -/
structure Canonical (runs : List (α × Nat)) : Prop where
  pos : ∀ r ∈ runs, 0 < r.2
  chain : (runs.map Prod.fst).IsChain (· ≠ ·)

/-- Between two equal entries there is nothing else. -/
def Contiguous (l : List α) : Prop := ∀ a b, [a, b, a].Sublist l → b = a

/-- All values are equally frequent. -/
def EqualCounts [DecidableEq α] (l : List α) : Prop := ∀ a ∈ l, ∀ b ∈ l, l.count a = l.count b

@[simp] theorem expand_nil : expand ([] : List (α × Nat)) = [] := rfl

@[simp] theorem expand_cons (r : α × Nat) (runs : List (α × Nat)) :
    expand (r :: runs) = List.replicate r.2 r.1 ++ expand runs := rfl

@[simp] theorem expand_append (runs runs' : List (α × Nat)) :
    expand (runs ++ runs') = expand runs ++ expand runs' :=
  List.flatMap_append

theorem length_expand (runs : List (α × Nat)) : (expand runs).length = (runs.map Prod.snd).sum := by
  simp [expand, List.length_flatMap]

theorem mem_of_mem_expand {runs : List (α × Nat)} {a : α} (h : a ∈ expand runs) :
    a ∈ runs.map Prod.fst := by
  obtain ⟨r, hr, ha⟩ := List.mem_flatMap.1 h
  exact List.mem_map.2 ⟨r, hr, (List.eq_of_mem_replicate ha).symm⟩

theorem mem_expand {runs : List (α × Nat)} (h : ∀ r ∈ runs, 0 < r.2) {a : α} :
    a ∈ expand runs ↔ a ∈ runs.map Prod.fst := by
  refine ⟨mem_of_mem_expand, fun ha => ?_⟩
  obtain ⟨r, hr, rfl⟩ := List.mem_map.1 ha
  exact List.mem_flatMap.2 ⟨r, hr, List.mem_replicate.2 ⟨(h r hr).ne', rfl⟩⟩

/-- The values of the runs, in order, are entries of the list. -/
theorem map_fst_sublist {runs : List (α × Nat)} (h : ∀ r ∈ runs, 0 < r.2) :
    (runs.map Prod.fst).Sublist (expand runs) := by
  induction runs with
  | nil => exact .refl _
  | cons r runs ih =>
    obtain ⟨hr, hruns⟩ := List.forall_mem_cons.1 h
    obtain ⟨n, hn⟩ := Nat.exists_eq_succ_of_ne_zero hr.ne'
    rw [List.map_cons, expand_cons, hn, List.replicate_succ, List.cons_append]
    exact (ih hruns).trans (List.sublist_append_right _ _) |>.cons_cons _

/-- A value that comes back has another one in between. -/
theorem exists_between {names : List α} (h : names.IsChain (· ≠ ·)) {a : α} (haa : [a, a].Sublist names) :
    ∃ b, b ≠ a ∧ [a, b, a].Sublist names := by
  induction names with
  | nil => cases haa
  | cons c names ih =>
    cases haa with
    | cons _ haa =>
      obtain ⟨b, hb, hsub⟩ := ih h.tail haa
      exact ⟨b, hb, hsub.cons _⟩
    | cons_cons _ ha =>
      cases names with
      | nil => cases ha
      | cons b names =>
        have hne : a ≠ b := (List.isChain_cons_cons.1 h).1
        have hmem : a ∈ names := (List.mem_cons.1 (List.singleton_sublist.1 ha)).resolve_left hne
        exact ⟨b, hne.symm, ((List.singleton_sublist.2 hmem).cons_cons b).cons_cons a⟩

/-- Runs with distinct values: equal entries are in one run. -/
theorem contiguous_of_nodup {runs : List (α × Nat)} (h : (runs.map Prod.fst).Nodup) :
    Contiguous (expand runs) := by
  induction runs with
  | nil =>
    intro a b hsub
    cases hsub
  | cons r runs ih =>
    obtain ⟨hr, hruns⟩ := List.nodup_cons.1 h
    intro a b hsub
    rw [expand_cons, List.sublist_append_iff] at hsub
    obtain ⟨l₁, l₂, heq, h₁, h₂⟩ := hsub
    have hrun : ∀ x ∈ l₁, x = r.1 := fun x hx => List.eq_of_mem_replicate (h₁.subset hx)
    -- how much of `[a, b, a]` lies in the first run
    match l₁, heq with
    | [], heq =>
      rw [List.nil_append] at heq
      exact ih hruns a b (heq ▸ h₂)
    | [x], heq =>
      obtain ⟨rfl, rfl⟩ := List.cons.inj heq
      have hmem := mem_of_mem_expand (h₂.subset (List.mem_cons_of_mem b List.mem_cons_self))
      rw [hrun a List.mem_cons_self] at hmem
      exact absurd hmem hr
    | x :: y :: l₁, heq =>
      simp only [List.cons_append, List.cons.injEq] at heq
      rw [heq.1, heq.2.1, hrun x (by simp), hrun y (by simp)]

theorem nodup_iff_contiguous {runs : List (α × Nat)} (h : Canonical runs) :
    (runs.map Prod.fst).Nodup ↔ Contiguous (expand runs) := by
  refine ⟨contiguous_of_nodup, fun hcont => List.nodup_iff_sublist.2 fun a haa => ?_⟩
  obtain ⟨b, hb, hsub⟩ := exists_between h.chain haa
  exact hb (hcont a b (hsub.trans (map_fst_sublist h.pos)))

section Counts
variable [DecidableEq α]

/-- A run is as long as its value is frequent. -/
theorem count_expand {runs : List (α × Nat)} (h : (runs.map Prod.fst).Nodup) {r : α × Nat} (hr : r ∈ runs) :
    (expand runs).count r.1 = r.2 := by
  induction runs with
  | nil => cases hr
  | cons s runs ih =>
    obtain ⟨hs, hruns⟩ := List.nodup_cons.1 h
    rw [expand_cons, List.count_append, List.count_replicate]
    rcases List.mem_cons.1 hr with rfl | hr
    · have hzero : (expand runs).count r.1 = 0 :=
        List.count_eq_zero.2 fun hmem => hs (mem_of_mem_expand hmem)
      simp [hzero]
    · have hne : s.1 ≠ r.1 := fun heq => hs (heq ▸ List.mem_map_of_mem hr)
      simp [hne, ih hruns hr]

theorem equalCounts_iff {runs : List (α × Nat)} (h : Canonical runs) (hnodup : (runs.map Prod.fst).Nodup) :
    EqualCounts (expand runs) ↔ ∀ r ∈ runs, ∀ s ∈ runs, r.2 = s.2 := by
  constructor
  · intro hcounts r hr s hs
    rw [← count_expand hnodup hr, ← count_expand hnodup hs]
    exact hcounts _ ((mem_expand h.pos).2 (List.mem_map_of_mem hr)) _
      ((mem_expand h.pos).2 (List.mem_map_of_mem hs))
  · intro hsizes a ha b hb
    obtain ⟨r, hr, rfl⟩ := List.mem_map.1 (mem_of_mem_expand ha)
    obtain ⟨s, hs, rfl⟩ := List.mem_map.1 (mem_of_mem_expand hb)
    rw [count_expand hnodup hr, count_expand hnodup hs, hsizes r hr s hs]

/-- As many runs as distinct values. -/
theorem length_dedup_expand {runs : List (α × Nat)} (h : Canonical runs)
    (hnodup : (runs.map Prod.fst).Nodup) :
    (expand runs).dedup.length = runs.length := by
  have hperm : (expand runs).dedup.Perm (runs.map Prod.fst) := by
    apply (List.perm_ext_iff_of_nodup (List.nodup_dedup _) hnodup).2
    intro a
    rw [List.mem_dedup, mem_expand h.pos]
  rw [hperm.length_eq, List.length_map]

end Counts

theorem length_dedup_eq_length [DecidableEq α] {l : List α} : l.dedup.length = l.length ↔ l.Nodup := by
  rw [← List.dedup_eq_self]
  exact ⟨(List.dedup_sublist l).eq_of_length, congrArg List.length⟩

/-- One value in a list, and it has one. -/
theorem length_dedup_eq_one [DecidableEq α] {l : List α} :
    l.dedup.length = 1 ↔ l ≠ [] ∧ ∀ a ∈ l, ∀ b ∈ l, a = b := by
  constructor
  · intro h
    obtain ⟨x, hx⟩ := List.length_eq_one_iff.1 h
    have hmem : ∀ a ∈ l, a = x := fun a ha => List.mem_singleton.1 (hx ▸ List.mem_dedup.2 ha)
    refine ⟨?_, fun a ha b hb => (hmem a ha).trans (hmem b hb).symm⟩
    rintro rfl
    cases hx
  · rintro ⟨hne, heq⟩
    obtain ⟨x, hx⟩ := List.exists_mem_of_ne_nil l hne
    have hperm : l.dedup.Perm [x] := by
      apply (List.perm_ext_iff_of_nodup (List.nodup_dedup _) (List.nodup_singleton x)).2
      intro a
      rw [List.mem_dedup, List.mem_singleton]
      exact ⟨fun ha => heq a ha x hx, fun ha => ha ▸ hx⟩
    rw [hperm.length_eq, List.length_singleton]

end AfdPlugin.Runs
