import Mathlib.Data.List.Dedup
import Mathlib.Data.List.Nodup
import Mathlib.Data.List.Perm.Subperm
/-!
# Insertion-ordered dictionaries

A dictionary that iterates in insertion order: assigning to a key that is
present keeps its place, a new key goes to the end. The entries carry the
proof that no key occurs twice, so looking a key up and meeting it while
iterating agree.
-/

namespace AfdPlugin

variable {κ α β : Type} [DecidableEq κ]

theorem lookup_cons_eq_ite (q : κ) (e : κ × α) (l : List (κ × α)) :
    (e :: l).lookup q = if q = e.1 then some e.2 else l.lookup q := by
  obtain ⟨k, v⟩ := e
  by_cases h : q = k
  · simp [h]
  · simp only [List.lookup_cons, beq_eq_false_iff_ne.2 h, h, if_false]

/-- Assignment on the entries. -/
def setEntry (k : κ) (v : α) : List (κ × α) → List (κ × α)
  | [] => [(k, v)]
  | e :: rest => if e.1 = k then (k, v) :: rest else e :: setEntry k v rest

theorem map_fst_setEntry (k : κ) (v : α) (l : List (κ × α)) :
    (setEntry k v l).map Prod.fst = if k ∈ l.map Prod.fst then l.map Prod.fst
      else l.map Prod.fst ++ [k] := by
  induction l with
  | nil => rfl
  | cons e rest ih =>
    by_cases h : e.1 = k
    · simp [setEntry, h]
    · have h' : k ≠ e.1 := fun he => h he.symm
      simp only [setEntry, h, if_false, List.map_cons, ih, List.mem_cons, h', false_or]
      split <;> simp

theorem lookup_setEntry (k q : κ) (v : α) (l : List (κ × α)) :
    (setEntry k v l).lookup q = if q = k then some v else l.lookup q := by
  induction l with
  | nil => simp only [setEntry, lookup_cons_eq_ite]
  | cons e rest ih =>
    by_cases h : e.1 = k
    · subst h
      simp only [setEntry, if_true, lookup_cons_eq_ite]
      split <;> rfl
    · simp only [setEntry, h, if_false, lookup_cons_eq_ite, ih]
      by_cases hq : q = e.1
      · simp [hq, h]
      · simp [hq]

theorem setEntry_of_notMem {k : κ} {v : α} {l : List (κ × α)} (h : k ∉ l.map Prod.fst) :
    setEntry k v l = l ++ [(k, v)] := by
  induction l with
  | nil => rfl
  | cons e rest ih =>
    rw [List.map_cons, List.mem_cons, not_or] at h
    rw [setEntry, if_neg fun he => h.1 he.symm, ih h.2, List.cons_append]

/-- A dictionary in insertion order. -/
structure Dict (κ α : Type) [DecidableEq κ] where
  entries : List (κ × α)
  nodup : (entries.map Prod.fst).Nodup

namespace Dict

@[ext] theorem ext {d d' : Dict κ α} (h : d.entries = d'.entries) : d = d' := by
  cases d; cases d'; cases h; rfl

instance [DecidableEq α] : DecidableEq (Dict κ α) := fun d d' =>
  decidable_of_iff (d.entries = d'.entries) ⟨ext, fun h => h ▸ rfl⟩

def empty : Dict κ α := ⟨[], List.nodup_nil⟩

instance : EmptyCollection (Dict κ α) := ⟨empty⟩

instance : Inhabited (Dict κ α) := ⟨empty⟩

def keys (d : Dict κ α) : List κ := d.entries.map Prod.fst

def get? (d : Dict κ α) (k : κ) : Option α := d.entries.lookup k

def contains (d : Dict κ α) (k : κ) : Bool := k ∈ d.keys

/-- `d[k] = v`. -/
def set (d : Dict κ α) (k : κ) (v : α) : Dict κ α where
  entries := setEntry k v d.entries
  nodup := by
    rw [map_fst_setEntry]
    split
    · exact d.nodup
    · exact List.nodup_append.2 ⟨d.nodup, List.nodup_singleton k, by rintro a ha b hb rfl; simp_all⟩

/-- `d.pop(k)`: the dictionary without the key. -/
def erase (d : Dict κ α) (k : κ) : Dict κ α where
  entries := d.entries.filter (·.1 ≠ k)
  nodup := d.nodup.sublist (List.filter_sublist.map _)

/-- `{k: f(k, v) for k, v in d.items()}`. -/
def mapVals (f : κ → α → β) (d : Dict κ α) : Dict κ β where
  entries := d.entries.map fun e => (e.1, f e.1 e.2)
  nodup := by simpa [List.map_map, Function.comp_def] using d.nodup

/-- The assignments of a list of items, first to last. -/
def setAll (d : Dict κ α) (items : List (κ × α)) : Dict κ α := items.foldl (fun d e => d.set e.1 e.2) d

/-! ## Lookup -/

@[simp] theorem keys_empty : (∅ : Dict κ α).keys = [] := rfl

@[simp] theorem get?_empty (k : κ) : (∅ : Dict κ α).get? k = none := rfl

theorem get?_set (d : Dict κ α) (k q : κ) (v : α) :
    (d.set k v).get? q = if q = k then some v else d.get? q :=
  lookup_setEntry k q v d.entries

@[simp] theorem get?_set_self (d : Dict κ α) (k : κ) (v : α) : (d.set k v).get? k = some v := by
  rw [get?_set, if_pos rfl]

theorem get?_set_ne (d : Dict κ α) {k q : κ} (h : q ≠ k) (v : α) : (d.set k v).get? q = d.get? q := by
  rw [get?_set, if_neg h]

theorem keys_set (d : Dict κ α) (k : κ) (v : α) :
    (d.set k v).keys = if k ∈ d.keys then d.keys else d.keys ++ [k] :=
  map_fst_setEntry k v d.entries

theorem get?_eq_none_iff {d : Dict κ α} {k : κ} : d.get? k = none ↔ k ∉ d.keys := by
  simp only [get?, keys, List.lookup_eq_none_iff, List.mem_map, not_exists, not_and, bne_iff_ne]
  exact forall₂_congr fun e _ => ne_comm

theorem get?_isSome_iff {d : Dict κ α} {k : κ} : (d.get? k).isSome ↔ k ∈ d.keys := by
  rw [← not_iff_not, ← get?_eq_none_iff, Option.not_isSome_iff_eq_none]

end Dict

/-- In a list of items without a repeated key, lookup finds every item. -/
theorem mem_iff_lookup_eq_some {l : List (κ × α)} (hn : (l.map Prod.fst).Nodup) {k : κ} {v : α} :
    (k, v) ∈ l ↔ l.lookup k = some v := by
  induction l with
  | nil => simp
  | cons e rest ih =>
    obtain ⟨k', v'⟩ := e
    obtain ⟨hnot, hrest⟩ := List.nodup_cons.1 (List.map_cons ▸ hn)
    by_cases h : k = k'
    · subst h
      have hk : (k, v) ∉ rest := fun hm => hnot (List.mem_map.2 ⟨(k, v), hm, rfl⟩)
      simp [lookup_cons_eq_ite, hk, eq_comm]
    · simp [lookup_cons_eq_ite, h, ih hrest]

namespace Dict

/-- Iterating meets exactly what lookup finds. -/
theorem mem_entries_iff {d : Dict κ α} {k : κ} {v : α} : (k, v) ∈ d.entries ↔ d.get? k = some v :=
  mem_iff_lookup_eq_some d.nodup

theorem get?_eq_of_perm {d d' : Dict κ α} (h : d.entries.Perm d'.entries) (k : κ) : d.get? k = d'.get? k :=
  Option.ext fun v => by rw [← mem_entries_iff, ← mem_entries_iff, h.mem_iff]

theorem get?_mapVals (f : κ → α → β) (d : Dict κ α) (k : κ) :
    (d.mapVals f).get? k = (d.get? k).map (f k) := by
  obtain ⟨l, hn⟩ := d
  simp only [get?, mapVals]
  induction l with
  | nil => rfl
  | cons e rest ih =>
    have ih := ih (List.nodup_cons.1 (List.map_cons ▸ hn)).2
    by_cases h : k = e.1
    · simp [lookup_cons_eq_ite, h]
    · simp [lookup_cons_eq_ite, h, ih]

@[simp] theorem keys_mapVals (f : κ → α → β) (d : Dict κ α) : (d.mapVals f).keys = d.keys := by
  simp [keys, mapVals]

theorem get?_erase (d : Dict κ α) (k q : κ) : (d.erase k).get? q = if q = k then none else d.get? q := by
  obtain ⟨l, hn⟩ := d
  simp only [get?, erase]
  induction l with
  | nil => simp
  | cons e rest ih =>
    have ih := ih (List.nodup_cons.1 (List.map_cons ▸ hn)).2
    by_cases h : e.1 = k
    · rw [List.filter_cons_of_neg (by simpa using h), ih, lookup_cons_eq_ite, h]
      by_cases hq : q = k <;> simp [hq]
    · rw [List.filter_cons_of_pos (by simpa using h), lookup_cons_eq_ite, ih, lookup_cons_eq_ite]
      by_cases hq : q = e.1 <;> simp [hq, h]

/-- Assigning a list of items: a key keeps the value of its last item. -/
theorem get?_setAll_of_nodup (d : Dict κ α) {items : List (κ × α)}
    (hn : (items.map Prod.fst).Nodup) (q : κ) :
    (d.setAll items).get? q = (items.lookup q).or (d.get? q) := by
  induction items generalizing d with
  | nil => rfl
  | cons e rest ih =>
    obtain ⟨hnot, hrest⟩ := List.nodup_cons.1 (List.map_cons ▸ hn)
    have hset := ih (d.set e.1 e.2) hrest
    simp only [setAll, List.foldl_cons] at hset ⊢
    rw [hset, get?_set, lookup_cons_eq_ite]
    by_cases h : q = e.1
    · have hl : rest.lookup q = none := by
        rw [List.lookup_eq_none_iff]
        intro p hp
        refine bne_iff_ne.2 fun he => hnot ?_
        rw [← h, he]
        exact List.mem_map_of_mem hp
      simp [h, h ▸ hl]
    · simp [h]

theorem get?_setAll_of_mem (d : Dict κ α) {items : List (κ × α)} (hn : (items.map Prod.fst).Nodup)
    {q : κ} {v : α} (h : (q, v) ∈ items) : (d.setAll items).get? q = some v := by
  rw [get?_setAll_of_nodup d hn, (mem_iff_lookup_eq_some hn).1 h, Option.some_or]

theorem get?_setAll_of_forall_ne (d : Dict κ α) {items : List (κ × α)} {q : κ} (h : ∀ e ∈ items, e.1 ≠ q) :
    (d.setAll items).get? q = d.get? q := by
  induction items generalizing d with
  | nil => rfl
  | cons e rest ih =>
    have hset := ih (d.set e.1 e.2) fun e' he' => h e' (List.mem_cons_of_mem _ he')
    rw [get?_set_ne d (h e List.mem_cons_self).symm] at hset
    exact hset

/-- Filling an empty dictionary from another one's items. -/
theorem get?_empty_setAll_map (f : κ × α → β) (d : Dict κ α) (q : κ) :
    ((∅ : Dict κ β).setAll (d.entries.map fun e => (e.1, f e))).get? q = (d.get? q).map fun v =>
      f (q, v) := by
  have hset := get?_setAll_of_nodup ∅ (d.mapVals fun k v => f (k, v)).nodup q
  rw [get?_empty, Option.or_none] at hset
  exact hset.trans (get?_mapVals (fun k v => f (k, v)) d q)

/-- Items without a repeated key are the entries of the dictionary they fill. -/
theorem entries_setAll (d : Dict κ α) {items : List (κ × α)} (hn : (d.keys ++ items.map Prod.fst).Nodup) :
    (d.setAll items).entries = d.entries ++ items := by
  induction items generalizing d with
  | nil => rw [List.append_nil]; rfl
  | cons e rest ih =>
    have hnot : e.1 ∉ d.keys := fun hm => (List.nodup_append.1 hn).2.2 e.1 hm e.1 List.mem_cons_self rfl
    have hset : (d.set e.1 e.2).entries = d.entries ++ [e] := setEntry_of_notMem hnot
    have hkeys : (d.set e.1 e.2).keys = d.keys ++ [e.1] := by rw [keys_set, if_neg hnot]
    have hrest := ih (d.set e.1 e.2) (by rw [hkeys, List.append_assoc]; exact hn)
    rw [hset, List.append_assoc] at hrest
    exact hrest

theorem entries_empty_setAll {items : List (κ × α)} (hn : (items.map Prod.fst).Nodup) :
    ((∅ : Dict κ α).setAll items).entries = items :=
  entries_setAll ∅ hn

theorem entries_setAll_perm {l l' : List (κ × α)} (h : l.Perm l') (hn : (l.map Prod.fst).Nodup) :
    ((∅ : Dict κ α).setAll l).entries.Perm ((∅ : Dict κ α).setAll l').entries := by
  rw [entries_empty_setAll hn, entries_empty_setAll ((h.map Prod.fst).nodup_iff.1 hn)]
  exact h

/-! ## Keys added where they are missing -/

/-- `if k not in d: d[k] = v`. -/
def setMissing (d : Dict κ α) (k : κ) (v : α) : Dict κ α := if d.contains k then d else d.set k v

def setAllMissing (d : Dict κ α) (items : List (κ × α)) : Dict κ α :=
  items.foldl (fun d e => d.setMissing e.1 e.2) d

theorem setMissing_of_mem {d : Dict κ α} {k : κ} (h : k ∈ d.keys) (v : α) : d.setMissing k v = d := by
  simp [setMissing, contains, h]

theorem mem_keys_setMissing {d : Dict κ α} {k q : κ} {v : α} :
    q ∈ (d.setMissing k v).keys ↔ q ∈ d.keys ∨ q = k := by
  by_cases h : k ∈ d.keys
  · rw [setMissing_of_mem h]
    exact ⟨.inl, fun hq => hq.elim id fun he => he ▸ h⟩
  · simp [setMissing, contains, h, keys_set]

/-- A key is there if it was before or one of the items has it. -/
theorem mem_keys_setAllMissing {d : Dict κ α} {items : List (κ × α)} {q : κ} :
    q ∈ (d.setAllMissing items).keys ↔ q ∈ d.keys ∨ q ∈ items.map Prod.fst := by
  induction items generalizing d with
  | nil => simp [setAllMissing]
  | cons e rest ih =>
    have hstep : d.setAllMissing (e :: rest) = (d.setMissing e.1 e.2).setAllMissing rest := rfl
    rw [hstep, ih, mem_keys_setMissing, List.map_cons, List.mem_cons, or_assoc]

/-- A dictionary has at most as many entries as a list that covers its keys. -/
theorem length_entries_le {d : Dict κ α} {l : List κ} (h : ∀ k ∈ d.keys, k ∈ l) :
    d.entries.length ≤ l.dedup.length := by
  have hsub : d.keys.Subperm l.dedup := List.subperm_of_subset d.nodup fun k hk => List.mem_dedup.2 (h k hk)
  simpa [keys] using hsub.length_le

theorem setAll_append (d : Dict κ α) (l l' : List (κ × α)) : d.setAll (l ++ l') = (d.setAll l).setAll l' :=
  List.foldl_append

end Dict

end AfdPlugin
