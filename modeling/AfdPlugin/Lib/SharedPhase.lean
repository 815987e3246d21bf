import Mathlib.Tactic
/-!
# Cores between two barriers

Every core reads cells of a shared memory into a buffer of its own and then
writes what it computes from the buffer, while the other cores do the same. When
each core writes only cells of its own, and needs only these from its buffer, the
memory at the next barrier does not depend on the order of the steps.
-/

namespace AfdPlugin

/-- What a core does until the next barrier. -/
structure CoreProgram (κ β : Type) where
  /-- The cells that it reads, one after another. -/
  reads : List κ
  buffer : κ → β
  writes : (κ → β) → List (κ × β)

inductive CoreState (κ β : Type) where
  | reading (rest : List κ) (buffer : κ → β)
  | writing (rest : List (κ × β))

structure PhaseState (κ β : Type) where
  mem : κ → β
  core : Nat → CoreState κ β

section Phase
variable {κ β : Type} [DecidableEq κ] (progs : Nat → CoreProgram κ β)

namespace PhaseState

def start (mem : κ → β) : PhaseState κ β := ⟨mem, fun c => .reading (progs c).reads (progs c).buffer⟩

def setCore (s : PhaseState κ β) (c : Nat) (core : CoreState κ β) : PhaseState κ β :=
  { s with core := Function.update s.core c core }

/-- Core `c` does its next read or write. -/
def step (s : PhaseState κ β) (c : Nat) : Option (PhaseState κ β) :=
  match s.core c with
  | .reading (k :: rest) buffer => some (s.setCore c (.reading rest (Function.update buffer k (s.mem k))))
  | .reading [] buffer => some (s.setCore c (.writing ((progs c).writes buffer)))
  | .writing (w :: rest) => some { s.setCore c (.writing rest) with mem := Function.update s.mem w.1 w.2 }
  | .writing [] => none

def run (s : PhaseState κ β) (order : List Nat) : Option (PhaseState κ β) := order.foldlM (step progs) s

end PhaseState

/-- The cores `0, …, cores - 1` take `mem` to `mem'` when their steps come in
some order. -/
def PhaseRun (cores : Nat) (mem mem' : κ → β) : Prop :=
  ∃ order s, (∀ c ∈ order, c < cores) ∧ (PhaseState.start progs mem).run progs order = some s ∧
    (∀ c < cores, s.core c = .writing []) ∧ s.mem = mem'

/-! ## Cells with an owner -/

/-- Each core that has its own cells in the buffer writes them, and only them, to
what `target` says. -/
def Owned (cores : Nat) (owner : κ → Nat) (mem target : κ → β) : Prop :=
  ∀ c < cores, ∀ buffer : κ → β, (∀ k ∈ (progs c).reads, owner k = c → buffer k = mem k) →
    (∀ w ∈ (progs c).writes buffer, owner w.1 = c ∧ w.2 = target w.1) ∧
      ∀ k, owner k = c → (∀ w ∈ (progs c).writes buffer, w.1 ≠ k) → target k = mem k

/-- What a core has done to its own cells. -/
def CoreInv (owner : κ → Nat) (mem target : κ → β) (s : PhaseState κ β) (c : Nat) : Prop :=
  match s.core c with
  | .reading rest buffer =>
    (∀ k, owner k = c → s.mem k = mem k) ∧ ∀ k ∈ (progs c).reads, k ∉ rest → owner k = c → buffer k = mem k
  | .writing rest =>
    (∀ w ∈ rest, owner w.1 = c ∧ w.2 = target w.1) ∧
      ∀ k, owner k = c → (∀ w ∈ rest, w.1 ≠ k) → s.mem k = target k

structure PhaseInv (cores : Nat) (owner : κ → Nat) (mem target : κ → β) (s : PhaseState κ β) : Prop where
  core : ∀ c < cores, CoreInv progs owner mem target s c
  others : ∀ k, cores ≤ owner k → s.mem k = mem k

variable {progs} {cores : Nat} {owner : κ → Nat} {mem target : κ → β} {s t : PhaseState κ β}

omit [DecidableEq κ] in
theorem phaseInv_start : PhaseInv progs cores owner mem target (PhaseState.start progs mem) :=
  ⟨fun _ _ => ⟨fun _ _ => rfl, fun _ hk hrest => absurd hk hrest⟩, fun _ _ => rfl⟩

omit [DecidableEq κ] in
/-- A core that takes no step keeps what it knows while nobody writes its cells. -/
theorem CoreInv.frame {c : Nat} (h : CoreInv progs owner mem target s c) (hcore : t.core c = s.core c)
    (hmem : ∀ k, owner k = c → t.mem k = s.mem k) : CoreInv progs owner mem target t c := by
  unfold CoreInv at h ⊢
  rw [hcore]
  cases hs : s.core c with
  | reading rest buffer =>
    rw [hs] at h
    exact ⟨fun k hk => (hmem k hk).trans (h.1 k hk), h.2⟩
  | writing rest =>
    rw [hs] at h
    exact ⟨h.1, fun k hk hw => (hmem k hk).trans (h.2 k hk hw)⟩

omit [DecidableEq κ] in
/-- A step of core `c` that writes at most a cell of its own. -/
theorem PhaseInv.of_core (h : PhaseInv progs cores owner mem target s) {c : Nat} (hc : c < cores)
    (hothers : ∀ c' ≠ c, t.core c' = s.core c') (hmem : ∀ k, owner k ≠ c → t.mem k = s.mem k)
    (hcore : CoreInv progs owner mem target t c) : PhaseInv progs cores owner mem target t := by
  refine ⟨fun c' hc' => ?_, fun k hk => ?_⟩
  · rcases eq_or_ne c' c with rfl | hne
    · exact hcore
    · exact (h.core c' hc').frame (hothers c' hne) fun k hk => hmem k (hk ▸ hne)
  · rw [hmem k (by omega)]
    exact h.others k hk

/-- One read or write keeps the invariant. -/
theorem PhaseInv.step (howned : Owned progs cores owner mem target)
    (h : PhaseInv progs cores owner mem target s) {c : Nat} (hc : c < cores)
    (hstep : s.step progs c = some t) : PhaseInv progs cores owner mem target t := by
  have hcore := h.core c hc
  unfold CoreInv at hcore
  unfold PhaseState.step at hstep
  split at hstep
  · rename_i k rest buffer heq
    cases hstep
    rw [heq] at hcore
    obtain ⟨hmem, hbuffer⟩ := hcore
    refine h.of_core hc (fun c' hne => Function.update_of_ne hne _ _) (fun _ _ => rfl) ?_
    simp only [CoreInv, PhaseState.setCore, Function.update_self]
    refine ⟨hmem, fun k' hk' hrest howner => ?_⟩
    rcases eq_or_ne k' k with rfl | hne
    · rw [Function.update_self]
      exact hmem k' howner
    · rw [Function.update_of_ne hne]
      refine hbuffer k' hk' (fun hmem' => ?_) howner
      rcases List.mem_cons.1 hmem' with heq' | hmem'
      · exact hne heq'
      · exact hrest hmem'
  · rename_i buffer heq
    cases hstep
    rw [heq] at hcore
    obtain ⟨hmem, hbuffer⟩ := hcore
    obtain ⟨hwrites, hrest⟩ := howned c hc buffer fun k hk => hbuffer k hk List.not_mem_nil
    refine h.of_core hc (fun c' hne => Function.update_of_ne hne _ _) (fun _ _ => rfl) ?_
    simp only [CoreInv, PhaseState.setCore, Function.update_self]
    exact ⟨hwrites, fun k hk hw => (hmem k hk).trans (hrest k hk hw).symm⟩
  · rename_i w rest heq
    cases hstep
    rw [heq] at hcore
    obtain ⟨hwrites, hdone⟩ := hcore
    obtain ⟨howner, hvalue⟩ := hwrites w List.mem_cons_self
    have hother : ∀ k, owner k ≠ c → Function.update s.mem w.1 w.2 k = s.mem k := by
      intro k hk
      apply Function.update_of_ne
      rintro rfl
      exact hk howner
    refine h.of_core hc (fun c' hne => Function.update_of_ne hne _ _) hother ?_
    simp only [CoreInv, PhaseState.setCore, Function.update_self]
    refine ⟨fun w' hw' => hwrites w' (List.mem_cons_of_mem _ hw'), fun k hk hw => ?_⟩
    rcases eq_or_ne k w.1 with rfl | hne
    · rw [Function.update_self]
      exact hvalue
    · rw [Function.update_of_ne hne]
      refine hdone k hk fun w' hw' => ?_
      rcases List.mem_cons.1 hw' with rfl | hw'
      · exact hne.symm
      · exact hw w' hw'
  · cases hstep

theorem PhaseState.run_cons (s : PhaseState κ β) (c : Nat) (order : List Nat) :
    s.run progs (c :: order) = (s.step progs c).bind (·.run progs order) := rfl

theorem PhaseInv.run (howned : Owned progs cores owner mem target) {order : List Nat}
    (horder : ∀ c ∈ order, c < cores) (h : PhaseInv progs cores owner mem target s)
    (hrun : s.run progs order = some t) :
    PhaseInv progs cores owner mem target t := by
  induction order generalizing s with
  | nil =>
    cases hrun
    exact h
  | cons c order ih =>
    rw [PhaseState.run_cons] at hrun
    obtain ⟨u, hstep, hrest⟩ := Option.bind_eq_some_iff.1 hrun
    exact ih (fun c' hc' => horder c' (List.mem_cons_of_mem _ hc'))
      (h.step howned (horder c List.mem_cons_self) hstep) hrest

/-- After the phase a cell holds what its owner's target says, and a cell that no
core owns what it held. -/
theorem PhaseRun.eq {mem' : κ → β} (hrun : PhaseRun progs cores mem mem')
    (howned : Owned progs cores owner mem target) (k : κ) :
    mem' k = if owner k < cores then target k else mem k := by
  obtain ⟨order, s, horder, hsome, hdone, rfl⟩ := hrun
  have hinv : PhaseInv progs cores owner mem target s := phaseInv_start.run howned horder hsome
  split
  · rename_i hk
    have hcore := hinv.core _ hk
    unfold CoreInv at hcore
    rw [hdone _ hk] at hcore
    exact hcore.2 k rfl fun w hw => (List.not_mem_nil hw).elim
  · rename_i hk
    exact hinv.others k (by omega)

/-! ## Cells that nobody writes -/

/-- No core has a write of cell `k` left. -/
structure Untouched (cores : Nat) (k : κ) (x : β) (s : PhaseState κ β) : Prop where
  mem : s.mem k = x
  writes : ∀ c < cores, ∀ rest, s.core c = .writing rest → ∀ w ∈ rest, w.1 ≠ k

theorem Untouched.step {k : κ} {x : β}
    (hwrites : ∀ c < cores, ∀ buffer, ∀ w ∈ (progs c).writes buffer, w.1 ≠ k)
    (h : Untouched cores k x s) {c : Nat} (hc : c < cores) (hstep : s.step progs c = some t) :
    Untouched cores k x t := by
  -- a core whose writes leave the cell alone
  have hcore : ∀ {core : CoreState κ β}, (∀ rest, core = .writing rest → ∀ w ∈ rest, w.1 ≠ k) →
      ∀ c' < cores, ∀ rest, Function.update s.core c core c' = .writing rest → ∀ w ∈ rest, w.1 ≠ k := by
    intro core hnew c' hc' rest heq
    rcases eq_or_ne c' c with rfl | hne
    · rw [Function.update_self] at heq
      exact hnew rest heq
    · rw [Function.update_of_ne hne] at heq
      exact h.writes c' hc' rest heq
  unfold PhaseState.step at hstep
  split at hstep
  · cases hstep
    exact ⟨h.mem, hcore fun rest heq => by cases heq⟩
  · cases hstep
    refine ⟨h.mem, hcore fun rest heq => ?_⟩
    cases heq
    exact hwrites c hc _
  · rename_i w rest heq
    cases hstep
    have hrest := h.writes c hc _ heq
    refine ⟨?_, hcore fun rest' heq' => ?_⟩
    · rw [← h.mem]
      exact Function.update_of_ne (hrest w List.mem_cons_self).symm _ _
    · cases heq'
      exact fun w' hw' => hrest w' (List.mem_cons_of_mem _ hw')
  · cases hstep

/-- A cell that no core writes holds what it held. -/
theorem PhaseRun.frame {mem' : κ → β} (hrun : PhaseRun progs cores mem mem') {k : κ}
    (hwrites : ∀ c < cores, ∀ buffer, ∀ w ∈ (progs c).writes buffer, w.1 ≠ k) : mem' k = mem k := by
  obtain ⟨order, s, horder, hsome, -, rfl⟩ := hrun
  have hstart : Untouched cores k (mem k) (PhaseState.start progs mem) :=
    ⟨rfl, fun c _ rest heq => by cases heq⟩
  have hall : ∀ {order : List Nat} {s t : PhaseState κ β}, (∀ c ∈ order, c < cores) →
      Untouched cores k (mem k) s →
      s.run progs order = some t → Untouched cores k (mem k) t := by
    intro order
    induction order with
    | nil =>
      intro s t _ hs hrun
      cases hrun
      exact hs
    | cons c order ih =>
      intro s t horder hs hrun
      rw [PhaseState.run_cons] at hrun
      obtain ⟨u, hstep, hrest⟩ := Option.bind_eq_some_iff.1 hrun
      exact ih (fun c' hc' => horder c' (List.mem_cons_of_mem _ hc'))
        (hs.step hwrites (horder c List.mem_cons_self) hstep) hrest
  exact (hall horder hstart hsome).mem

/-! ## Every phase can end -/

theorem PhaseState.run_append (s : PhaseState κ β) (order order' : List Nat) :
    s.run progs (order ++ order') = (s.run progs order).bind (·.run progs order') := by
  induction order generalizing s with
  | nil => rfl
  | cons c order ih =>
    rw [List.cons_append, PhaseState.run_cons, PhaseState.run_cons]
    cases s.step progs c with
    | none => rfl
    | some u => exact ih u

/-- `t` is `s` after steps of core `c` alone, which have finished it. -/
def CoreDone (progs : Nat → CoreProgram κ β) (c : Nat) (s t : PhaseState κ β) : Prop :=
  ∃ n, s.run progs (List.replicate n c) = some t ∧ t.core c = .writing [] ∧ ∀ c' ≠ c, t.core c' = s.core c'

theorem CoreDone.cons {c : Nat} {u : PhaseState κ β} (hstep : s.step progs c = some u)
    (hothers : ∀ c' ≠ c, u.core c' = s.core c') (h : CoreDone progs c u t) : CoreDone progs c s t := by
  obtain ⟨n, hrun, hdone, hrest⟩ := h
  refine ⟨n + 1, ?_, hdone, fun c' hne => (hrest c' hne).trans (hothers c' hne)⟩
  rw [List.replicate_succ, PhaseState.run_cons, hstep]
  exact hrun

theorem coreDone_writing {c : Nat} {rest : List (κ × β)} (h : s.core c = .writing rest) :
    ∃ t, CoreDone progs c s t := by
  induction rest generalizing s with
  | nil => exact ⟨s, 0, rfl, h, fun _ _ => rfl⟩
  | cons w rest ih =>
    obtain ⟨t, ht⟩ := ih (s := { s.setCore c (.writing rest) with mem := Function.update s.mem w.1 w.2 })
      (Function.update_self c _ _)
    refine ⟨t, ht.cons ?_ fun c' hne => Function.update_of_ne hne _ _⟩
    simp only [PhaseState.step, h]

theorem coreDone_reading {c : Nat} {rest : List κ} {buffer : κ → β} (h : s.core c = .reading rest buffer) :
    ∃ t, CoreDone progs c s t := by
  induction rest generalizing s buffer with
  | nil =>
    obtain ⟨t, ht⟩ : ∃ t, CoreDone progs c (s.setCore c (.writing ((progs c).writes buffer))) t :=
      coreDone_writing (Function.update_self c _ _)
    refine ⟨t, ht.cons ?_ fun c' hne => Function.update_of_ne hne _ _⟩
    simp only [PhaseState.step, h]
  | cons k rest ih =>
    obtain ⟨t, ht⟩ := ih (s := s.setCore c (.reading rest (Function.update buffer k (s.mem k))))
      (Function.update_self c _ _)
    refine ⟨t, ht.cons ?_ fun c' hne => Function.update_of_ne hne _ _⟩
    simp only [PhaseState.step, h]

theorem coreDone (progs : Nat → CoreProgram κ β) (s : PhaseState κ β) (c : Nat) :
    ∃ t, CoreDone progs c s t := by
  cases h : s.core c with
  | reading rest buffer => exact coreDone_reading h
  | writing rest => exact coreDone_writing h

theorem exists_phaseRun (progs : Nat → CoreProgram κ β) (cores : Nat) (mem : κ → β) :
    ∃ mem', PhaseRun progs cores mem mem' := by
  suffices h : ∃ order s, (∀ c ∈ order, c < cores) ∧ (PhaseState.start progs mem).run progs order = some s ∧
      ∀ c < cores, s.core c = .writing [] by
    obtain ⟨order, s, horder, hrun, hdone⟩ := h
    exact ⟨s.mem, order, s, horder, hrun, hdone, rfl⟩
  induction cores with
  | zero =>
    exact ⟨[], _, fun c hc => (List.not_mem_nil hc).elim, rfl, fun c hc => (Nat.not_lt_zero c hc).elim⟩
  | succ cores ih =>
    obtain ⟨order, s, horder, hrun, hdone⟩ := ih
    obtain ⟨t, n, hlast, hcore, hothers⟩ := coreDone progs s cores
    refine ⟨order ++ List.replicate n cores, t, fun c hc => ?_, ?_, fun c hc => ?_⟩
    · rcases List.mem_append.1 hc with hc | hc
      · exact Nat.lt_succ_of_lt (horder c hc)
      · rw [List.eq_of_mem_replicate hc]
        exact Nat.lt_succ_self cores
    · rw [PhaseState.run_append, hrun]
      exact hlast
    · rcases eq_or_ne c cores with rfl | hne
      · exact hcore
      · rw [hothers c hne]
        exact hdone c (by omega)

end Phase

end AfdPlugin
