import Mathlib.Tactic
/-!
# Loops and shared memory

Rules for the loops of an imperative program written as folds, and memory that
several cores write between two barriers: a phase is the list of all their
writes, in any order.
-/

namespace AfdPlugin

/-! ## Counting loops -/

/-- `for (i = a; i < a + n; ++i) s = f(s, i)`. -/
def forRange {σ : Type} (a n : Nat) (s : σ) (f : σ → Nat → σ) : σ := (List.range' a n).foldl f s

section ForRange
variable {σ : Type} {a n : Nat} {s : σ} {f : σ → Nat → σ}

@[simp] theorem forRange_zero : forRange a 0 s f = s := rfl

theorem forRange_succ : forRange a (n + 1) s f = f (forRange a n s f) (a + n) := by
  rw [forRange, List.range'_concat, List.foldl_append, Nat.one_mul]
  rfl

/-- What each pass keeps holds after the loop; the invariant may name the
index. -/
theorem forRange_inv (P : Nat → σ → Prop) (h0 : P a s)
    (hstep : ∀ i t, a ≤ i → i < a + n → P i t → P (i + 1) (f t i)) :
    P (a + n) (forRange a n s f) := by
  induction n with
  | zero => exact h0
  | succ n ih =>
    rw [forRange_succ]
    exact hstep (a + n) _ (by omega) (by omega) (ih fun i t hi hlt => hstep i t hi (by omega))

end ForRange

/-! ## Condition loops -/

/-- `while (c(s)) s = f(s)`, for at most `fuel` passes. -/
def whileLoop {σ : Type} (c : σ → Bool) (f : σ → σ) : Nat → σ → σ
  | 0, s => s
  | fuel + 1, s => if c s then whileLoop c f fuel (f s) else s

/-- A loop through the states `at n, at (n + 1), …` stops at the first one whose
condition fails, when there is fuel to get there. -/
theorem whileLoop_eq {σ : Type} {c : σ → Bool} {f : σ → σ} {state : Nat → σ}
    (hf : ∀ n, f (state n) = state (n + 1)) {n m : Nat} (hnm : n ≤ m)
    (hbefore : ∀ k, n ≤ k → k < m → c (state k) = true) (hstop : c (state m) = false) {fuel : Nat}
    (hfuel : m ≤ n + fuel) : whileLoop c f fuel (state n) = state m := by
  induction fuel generalizing n with
  | zero =>
    rw [show m = n by omega]
    rfl
  | succ fuel ih =>
    unfold whileLoop
    rcases Nat.eq_or_lt_of_le hnm with rfl | hlt
    · rw [if_neg (by simp [hstop])]
    · rw [if_pos (hbefore n le_rfl hlt), hf]
      exact ih hlt (fun k hk hkm => hbefore k (by omega) hkm) (by omega)

/-- What every pass keeps holds after the loop. -/
theorem whileLoop_keeps {σ : Type} {c : σ → Bool} {f : σ → σ} (P : σ → Prop)
    (hstep : ∀ s, P s → P (f s)) (fuel : Nat) {s : σ} (hs : P s) : P (whileLoop c f fuel s) := by
  induction fuel generalizing s with
  | zero => exact hs
  | succ fuel ih =>
    unfold whileLoop
    split
    · exact ih (hstep s hs)
    · exact hs

/-- A loop whose passes keep `P` and lower a measure ends with `P` and without its
condition, when there is fuel for the measure. -/
theorem whileLoop_inv {σ : Type} {c : σ → Bool} {f : σ → σ} (P : σ → Prop) (measure : σ → Nat)
    (hstep : ∀ s, P s → c s = true → P (f s) ∧ measure (f s) < measure s) (fuel : Nat) {s : σ} (hs : P s)
    (hfuel : measure s ≤ fuel) : P (whileLoop c f fuel s) ∧ c (whileLoop c f fuel s) = false := by
  induction fuel generalizing s with
  | zero =>
    refine ⟨hs, ?_⟩
    change c s = false
    cases h : c s with
    | false => rfl
    | true =>
      have hlower := (hstep s hs h).2
      omega
  | succ fuel ih =>
    unfold whileLoop
    split
    · rename_i h
      obtain ⟨hnext, hlower⟩ := hstep s hs h
      exact ih hnext (by omega)
    · rename_i h
      exact ⟨hs, by simpa using h⟩

/-! ## Shared memory -/

/-- The memory after the writes `(address, value)`, the last one to an address
winning. -/
def store {κ β : Type} [DecidableEq κ] (mem : κ → β) (writes : List (κ × β)) : κ → β :=
  writes.foldl (fun m w => Function.update m w.1 w.2) mem

section Store
variable {κ β : Type} [DecidableEq κ] {mem : κ → β} {writes : List (κ × β)} {k : κ} {v : β}

/-- An address that nothing writes keeps its value. -/
theorem store_of_not_mem (h : ∀ w ∈ writes, w.1 ≠ k) : store mem writes k = mem k := by
  induction writes generalizing mem with
  | nil => rfl
  | cons w ws ih =>
    have htail : store mem (w :: ws) = store (Function.update mem w.1 w.2) ws := rfl
    rw [htail, ih fun w' hw' => h w' (List.mem_cons_of_mem _ hw')]
    exact Function.update_of_ne (h w List.mem_cons_self).symm _ _

/-- An address whose writes all have one value holds it. -/
theorem store_of_mem (hmem : (k, v) ∈ writes) (hall : ∀ w ∈ writes, w.1 = k → w.2 = v) :
    store mem writes k = v := by
  induction writes generalizing mem with
  | nil => cases hmem
  | cons w ws ih =>
    have htail : store mem (w :: ws) = store (Function.update mem w.1 w.2) ws := rfl
    by_cases hlater : (k, v) ∈ ws
    · rw [htail]
      exact ih hlater fun w' hw' => hall w' (List.mem_cons_of_mem _ hw')
    · have hw : (k, v) = w := (List.mem_cons.1 hmem).resolve_right hlater
      rw [htail, store_of_not_mem fun w' hw' heq => ?_, ← hw, Function.update_self]
      have hv := hall w' (List.mem_cons_of_mem _ hw') heq
      exact hlater ((Prod.ext heq hv : w' = (k, v)) ▸ hw')

/-- Writes to different addresses may come in any order. -/
theorem store_of_perm {l : List (κ × β)} (hperm : writes.Perm l) (hnodup : (l.map Prod.fst).Nodup)
    (hmem : (k, v) ∈ l) :
    store mem writes k = v := by
  apply store_of_mem (hperm.mem_iff.2 hmem)
  intro w hw hk
  have heq := List.inj_on_of_nodup_map hnodup (hperm.mem_iff.1 hw) hmem hk
  exact congrArg Prod.snd heq

end Store

/-- An order in which the writes of a phase reach memory. -/
structure Schedule where
  order : {α : Type} → List α → List α
  perm : ∀ {α : Type} (l : List α), (order l).Perm l

namespace Schedule

/-- The writes of one core after those of another. -/
def inOrder : Schedule := ⟨fun l => l, fun l => List.Perm.refl l⟩

variable (sched : Schedule) {κ β : Type}

theorem mem_writes {cores : Nat} {writes : Nat → List (κ × β)} {w : κ × β} :
    w ∈ sched.order ((List.range cores).flatMap writes) ↔ ∃ c < cores, w ∈ writes c := by
  rw [(sched.perm _).mem_iff, List.mem_flatMap]
  simp only [List.mem_range]

variable [DecidableEq κ]

/-- The memory after a phase in which core `c` does the writes `writes c`. -/
def phase (mem : κ → β) (cores : Nat) (writes : Nat → List (κ × β)) : κ → β :=
  store mem (sched.order ((List.range cores).flatMap writes))

variable {mem : κ → β} {cores : Nat} {writes : Nat → List (κ × β)} {k : κ} {v : β}

/-- What a core wrote is there after the phase if nobody wrote another value. -/
theorem phase_of_mem {c : Nat} (hc : c < cores) (hmem : (k, v) ∈ writes c)
    (hall : ∀ c' < cores, ∀ w ∈ writes c', w.1 = k → w.2 = v) : sched.phase mem cores writes k = v := by
  apply store_of_mem ((sched.mem_writes).2 ⟨c, hc, hmem⟩)
  intro w hw hk
  obtain ⟨c', hc', hw'⟩ := sched.mem_writes.1 hw
  exact hall c' hc' w hw' hk

theorem phase_of_not_mem (h : ∀ c < cores, ∀ w ∈ writes c, w.1 ≠ k) :
    sched.phase mem cores writes k = mem k := by
  apply store_of_not_mem
  intro w hw
  obtain ⟨c, hc, hw'⟩ := sched.mem_writes.1 hw
  exact h c hc w hw'

end Schedule

end AfdPlugin
