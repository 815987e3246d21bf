import Mathlib.Tactic
/-!
# Writes that wait in queues

Parties that share a memory each have a plan of writes and a queue of those that they
have not done. When writes to one place agree on its value, the order in which the
queues are emptied does not matter: a planned write waits, or its place holds it.
-/

namespace AfdPlugin

section Queues
variable {κ β : Type} {parties : Nat} {plan plan' queue queue' : Nat → List (κ × β)}
  {mem mem' : κ → β} {w : κ × β}

/-- Planned writes to one place write the same. -/
def Agrees (parties : Nat) (plan : Nat → List (κ × β)) : Prop :=
  ∀ c < parties, ∀ c' < parties, ∀ w ∈ plan c, ∀ w' ∈ plan c', w.1 = w'.1 → w.2 = w'.2

/-- Every planned write waits or is done. -/
structure Covered (parties : Nat) (plan queue : Nat → List (κ × β)) (mem : κ → β) : Prop where
  planned : ∀ c < parties, ∀ w ∈ queue c, w ∈ plan c
  done : ∀ c < parties, ∀ w ∈ plan c, w ∈ queue c ∨ mem w.1 = w.2

theorem covered_start (plan : Nat → List (κ × β)) (mem : κ → β) : Covered parties plan plan mem :=
  ⟨fun _ _ _ hw => hw, fun _ _ _ hw => .inl hw⟩

/-- A write is done that agrees with what is planned for its place. -/
theorem Covered.write_planned (h : Covered parties plan queue mem)
    (hvalue : ∀ c < parties, ∀ w' ∈ plan c, w'.1 = w.1 → w'.2 = w.2)
    (hless : ∀ c < parties, ∀ w ∈ queue' c, w ∈ queue c)
    (hrest : ∀ c < parties, ∀ w' ∈ queue c, w' ∈ queue' c ∨ w' = w) (hself : mem' w.1 = w.2)
    (hothers : ∀ k ≠ w.1, mem' k = mem k) : Covered parties plan queue' mem' := by
  refine ⟨fun c hc w hw => h.planned c hc w (hless c hc w hw), fun c hc w' hw' => ?_⟩
  by_cases hplace : w'.1 = w.1
  · right
    rw [hplace, hself]
    exact (hvalue c hc w' hw' hplace).symm
  · rcases h.done c hc w' hw' with hqueue | hmem
    · rcases hrest c hc w' hqueue with hstays | rfl
      · exact .inl hstays
      · exact absurd rfl hplace
    · exact .inr ((hothers w'.1 hplace).trans hmem)

/-- A write of a queue is done. -/
theorem Covered.write (h : Covered parties plan queue mem) (hagree : Agrees parties plan) {c : Nat}
    (hc : c < parties) (hw : w ∈ queue c) (hless : ∀ c < parties, ∀ w ∈ queue' c, w ∈ queue c)
    (hrest : ∀ c < parties, ∀ w' ∈ queue c, w' ∈ queue' c ∨ w' = w) (hself : mem' w.1 = w.2)
    (hothers : ∀ k ≠ w.1, mem' k = mem k) : Covered parties plan queue' mem' :=
  h.write_planned (fun c' hc' w' hw' => hagree c' hc' c hc w' hw' w (h.planned c hc w hw)) hless hrest
    hself hothers

/-- Places of no planned write may change. -/
theorem Covered.frame (h : Covered parties plan queue mem)
    (hqueue : ∀ c < parties, ∀ w, w ∈ queue' c ↔ w ∈ queue c)
    (hmem : ∀ c < parties, ∀ w ∈ plan c, mem' w.1 = mem w.1) : Covered parties plan queue' mem' := by
  refine ⟨fun c hc w hw => h.planned c hc w ((hqueue c hc w).1 hw), fun c hc w hw => ?_⟩
  rcases h.done c hc w hw with hwaits | hdone
  · exact .inl ((hqueue c hc w).2 hwaits)
  · exact .inr ((hmem c hc w hw).trans hdone)

/-- More writes are planned and wait. -/
theorem Covered.plan_more (h : Covered parties plan queue mem)
    (hplanned : ∀ c < parties, ∀ w ∈ queue' c, w ∈ plan' c)
    (hqueue : ∀ c < parties, ∀ w ∈ queue c, w ∈ queue' c)
    (hnew : ∀ c < parties, ∀ w ∈ plan' c, w ∈ plan c ∨ w ∈ queue' c) :
    Covered parties plan' queue' mem := by
  refine ⟨hplanned, fun c hc w hw => ?_⟩
  rcases hnew c hc w hw with hold | hwaits
  · exact (h.done c hc w hold).imp_left (hqueue c hc w)
  · exact .inl hwaits

/-- When the queues are empty the memory holds all that was planned. -/
theorem Covered.all_done (h : Covered parties plan queue mem) (hempty : ∀ c < parties, queue c = [])
    {c : Nat} (hc : c < parties) (hw : w ∈ plan c) : mem w.1 = w.2 := by
  rcases h.done c hc w hw with hwaits | hdone
  · rw [hempty c hc] at hwaits
    exact absurd hwaits List.not_mem_nil
  · exact hdone

end Queues

/-! ## Queues in to-do lists -/

section Todo
variable {α β : Type} (f : α → Option β) {before after : List α} {a : α} {b : β}

/-- Which writes stay when an operation leaves its list. -/
theorem mem_filterMap_remove :
    b ∈ (before ++ a :: after).filterMap f ↔ b ∈ (before ++ after).filterMap f ∨ f a = some b := by
  simp only [List.filterMap_append, List.filterMap_cons, List.mem_append]
  cases h : f a with
  | none => simp
  | some b' =>
    simp only [List.mem_cons, Option.some.injEq]
    constructor
    · rintro (hb | rfl | ha)
      · exact .inl (.inl hb)
      · exact .inr rfl
      · exact .inl (.inr ha)
    · rintro ((hb | ha) | rfl)
      · exact .inl hb
      · exact .inr (.inr ha)
      · exact .inr (.inl rfl)

end Todo

end AfdPlugin
