import Mathlib.Logic.Relation
import Mathlib.Tactic
/-!
# Runs that come to an end

A transition system in which some state of an invariant is to be reached. Either a
measure gets smaller on the way, or there is a list of things to do, each of which can
be done without undoing another.
-/

namespace AfdPlugin.Ends

variable {σ : Type} {Step : σ → σ → Prop}

/-- Whenever the goal is not reached, some run makes the measure smaller. -/
theorem exists_goal (Inv Goal : σ → Prop) (measure : σ → Nat)
    (h : ∀ s, Inv s → ¬ Goal s → ∃ s', Relation.ReflTransGen Step s s' ∧ Inv s' ∧ measure s' < measure s)
    {s : σ} (hs : Inv s) :
    ∃ s', Relation.ReflTransGen Step s s' ∧ Inv s' ∧ Goal s' := by
  induction hn : measure s using Nat.strong_induction_on generalizing s with
  | _ n ih =>
    by_cases hgoal : Goal s
    · exact ⟨s, .refl, hs, hgoal⟩
    · obtain ⟨t, hrun, ht, hlt⟩ := h s hs hgoal
      obtain ⟨u, hrun', hu, hreached⟩ := ih (measure t) (hn ▸ hlt) ht rfl
      exact ⟨u, hrun.trans hrun', hu, hreached⟩

end AfdPlugin.Ends
