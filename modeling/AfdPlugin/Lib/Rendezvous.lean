import Mathlib.Logic.Relation
import Mathlib.Tactic
/-!
# Two processes that meet

Two deterministic processes run side by side. A process does internal steps on
its own; an operation it offers completes only together with a matching
operation of the other process. If the operations the two processes issue
match one by one, the pair never gets stuck.
-/

namespace AfdPlugin.Rendezvous

variable {σ τ α β : Type}

/-- What a process does next: nothing more, an internal step, or an offer. -/
abbrev Process (σ α : Type) := σ → Option (Option α × σ)

/-- The operations a process issues from a state to its end. -/
inductive Issues (p : Process σ α) : σ → List α → Prop
  | done {s} : p s = none → Issues p s []
  | internal {s s' ops} : p s = some (none, s') → Issues p s' ops → Issues p s ops
  | offer {s a s' ops} : p s = some (some a, s') → Issues p s' ops → Issues p s (a :: ops)

/-- One step of the pair. -/
inductive Step (p : Process σ α) (q : Process τ β) (Matches : α → β → Prop) : σ × τ → σ × τ → Prop
  | left {s s' t} : p s = some (none, s') → Step p q Matches (s, t) (s', t)
  | right {s t t'} : q t = some (none, t') → Step p q Matches (s, t) (s, t')
  | meet {s s' t t' a b} : p s = some (some a, s') → q t = some (some b, t') → Matches a b →
      Step p q Matches (s, t) (s', t')

variable {p : Process σ α} {q : Process τ β} {Matches : α → β → Prop}

/-! ## What a process still issues -/

theorem Issues.internal_inv {s s' : σ} {ops : List α} (h : Issues p s ops) (hs : p s = some (none, s')) :
    Issues p s' ops := by
  cases h with
  | done h => rw [hs] at h; cases h
  | internal h hrest => rw [hs] at h; cases h; exact hrest
  | offer h hrest => rw [hs] at h; cases h

theorem Issues.offer_inv {s s' : σ} {a : α} {ops : List α} (h : Issues p s ops)
    (hs : p s = some (some a, s')) :
    ∃ rest, ops = a :: rest ∧ Issues p s' rest := by
  cases h with
  | done h => rw [hs] at h; cases h
  | internal h hrest => rw [hs] at h; cases h
  | offer h hrest => rw [hs] at h; cases h; exact ⟨_, rfl, hrest⟩

theorem Issues.eq_nil_of_done {s : σ} {ops : List α} (h : Issues p s ops) (hs : p s = none) : ops = [] := by
  cases h with
  | done h => rfl
  | internal h hrest => rw [hs] at h; cases h
  | offer h hrest => rw [hs] at h; cases h

/-- A fixed list of actions, some of them internal, issues the others. -/
def script (op : α → Option β) : Process (List α) β
  | [] => none
  | a :: rest => some (op a, rest)

theorem issues_script (op : α → Option β) (l : List α) : Issues (script op) l (l.filterMap op) := by
  induction l with
  | nil => exact .done rfl
  | cons a l ih =>
    cases h : op a with
    | none =>
      rw [List.filterMap_cons_none h]
      exact .internal (by rw [script, h]) ih
    | some b =>
      rw [List.filterMap_cons_some h]
      exact .offer (by rw [script, h]) ih

/-! ## The pair -/

/-- What remains to be issued on both sides matches. -/
def Aligned (p : Process σ α) (q : Process τ β) (Matches : α → β → Prop) (st : σ × τ) : Prop :=
  ∃ as bs, Issues p st.1 as ∧ Issues q st.2 bs ∧ List.Forall₂ Matches as bs

theorem Step.aligned {st st' : σ × τ} (h : Step p q Matches st st') (hi : Aligned p q Matches st) :
    Aligned p q Matches st' := by
  obtain ⟨as, bs, has, hbs, hm⟩ := hi
  cases h with
  | left h => exact ⟨as, bs, has.internal_inv h, hbs, hm⟩
  | right h => exact ⟨as, bs, has, hbs.internal_inv h, hm⟩
  | meet ha hb _ =>
    obtain ⟨as', rfl, has'⟩ := has.offer_inv ha
    obtain ⟨bs', rfl, hbs'⟩ := hbs.offer_inv hb
    cases hm with
    | cons _ hm => exact ⟨as', bs', has', hbs', hm⟩

/-- An aligned pair is done on both sides, or can step. -/
theorem Aligned.progress {st : σ × τ} (hi : Aligned p q Matches st) :
    (p st.1 = none ∧ q st.2 = none) ∨ ∃ st', Step p q Matches st st' := by
  obtain ⟨s, t⟩ := st
  obtain ⟨as, bs, has, hbs, hm⟩ := hi
  rcases hp : p s with _ | ⟨_ | a, s'⟩
  · -- the left side is done, so the right side offers nothing more
    have hnil := has.eq_nil_of_done hp
    subst hnil
    cases hm
    rcases hq : q t with _ | ⟨_ | b, t'⟩
    · exact .inl ⟨rfl, rfl⟩
    · exact .inr ⟨_, .right hq⟩
    · obtain ⟨rest, hrest, -⟩ := hbs.offer_inv hq
      cases hrest
  · exact .inr ⟨_, .left hp⟩
  · obtain ⟨as', rfl, -⟩ := has.offer_inv hp
    rcases hq : q t with _ | ⟨_ | b, t'⟩
    · have hnil := hbs.eq_nil_of_done hq
      subst hnil
      cases hm
    · exact .inr ⟨_, .right hq⟩
    · obtain ⟨bs', rfl, -⟩ := hbs.offer_inv hq
      cases hm with
      | cons hab _ => exact .inr ⟨_, .meet hp hq hab⟩

/-- A pair that starts aligned never gets stuck before both sides are done. -/
theorem Aligned.never_stuck {st st' : σ × τ} (hi : Aligned p q Matches st)
    (hr : Relation.ReflTransGen (Step p q Matches) st st') :
    (p st'.1 = none ∧ q st'.2 = none) ∨ ∃ st'', Step p q Matches st' st'' := by
  apply Aligned.progress
  induction hr with
  | refl => exact hi
  | tail _ hstep ih => exact hstep.aligned ih

end AfdPlugin.Rendezvous
