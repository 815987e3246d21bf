import AfdPlugin.Lib.Ends
/-!
# Processes joined by channels

Each process runs a list of sends and receives; between two processes messages
arrive in the order they were sent. A run interleaves the processes in any
order. What a process has received from another, followed by what is under way
and by what the other still sends, is always what the other's program sends.
-/

namespace AfdPlugin.Channels

variable {P M : Type}

/-- One operation of a process. -/
inductive Op (P M : Type) where
  | send (dst : P) (m : M)
  | recv (src : P)

/-- The processes' remaining programs, the messages under way from one process
to another, and what each process has received from each other one. -/
structure Net (P M : Type) where
  todo : P → List (Op P M)
  queue : P → P → List M
  got : P → P → List M

def Net.init (prog : P → List (Op P M)) : Net P M := ⟨prog, fun _ _ => [], fun _ _ => []⟩

section Step
variable [DecidableEq P]

/-- Replace the entry for one pair of processes. -/
def put (f : P → P → List M) (p q : P) (l : List M) : P → P → List M :=
  Function.update f p (Function.update (f p) q l)

inductive Step : Net P M → Net P M → Prop
  | send {n : Net P M} {p d : P} {m : M} {rest : List (Op P M)} : n.todo p = .send d m :: rest →
      Step n ⟨Function.update n.todo p rest, put n.queue p d (n.queue p d ++ [m]), n.got⟩
  | recv {n : Net P M} {p s : P} {m : M} {rest : List (Op P M)} {q : List M} : n.todo p = .recv s :: rest →
      n.queue s p = m :: q →
      Step n ⟨Function.update n.todo p rest, put n.queue s p q, put n.got p s (n.got p s ++ [m])⟩

abbrev Steps : Net P M → Net P M → Prop := Relation.ReflTransGen Step

theorem put_apply (f : P → P → List M) (p q p' q' : P) (l : List M) :
    put f p q l p' q' = if p' = p ∧ q' = q then l else f p' q' := by
  unfold put
  by_cases hp : p' = p
  · subst hp
    by_cases hq : q' = q <;> simp [hq]
  · simp [hp]

/-- The messages a program sends to `d`. -/
def sendsTo (d : P) (ops : List (Op P M)) : List M :=
  ops.filterMap fun
    | .send d' m => if d' = d then some m else none
    | .recv _ => none

/-- How often a program receives from `s`. -/
def recvsFrom (s : P) (ops : List (Op P M)) : Nat :=
  ops.countP fun
    | .send _ _ => false
    | .recv s' => s' = s

@[simp] theorem sendsTo_nil (d : P) : sendsTo d ([] : List (Op P M)) = [] := rfl

theorem sendsTo_send (d d' : P) (m : M) (ops : List (Op P M)) :
    sendsTo d (.send d' m :: ops) = (if d' = d then [m] else []) ++ sendsTo d ops := by
  unfold sendsTo
  rw [List.filterMap_cons]
  by_cases h : d' = d <;> simp [h]

@[simp] theorem sendsTo_recv (d s : P) (ops : List (Op P M)) :
    sendsTo d (.recv s :: ops) = sendsTo d ops := rfl

@[simp] theorem recvsFrom_nil (s : P) : recvsFrom s ([] : List (Op P M)) = 0 := rfl

@[simp] theorem recvsFrom_send (s d : P) (m : M) (ops : List (Op P M)) :
    recvsFrom s (.send d m :: ops) = recvsFrom s ops := by
  simp [recvsFrom]

theorem recvsFrom_recv (s s' : P) (ops : List (Op P M)) :
    recvsFrom s (.recv s' :: ops) = (if s' = s then 1 else 0) + recvsFrom s ops := by
  unfold recvsFrom
  rw [List.countP_cons, Nat.add_comm]
  by_cases h : s' = s <;> simp [h]

/-! ## Accounting -/

/-- Nothing is lost, doubled or reordered on any channel. -/
structure Accounts (prog : P → List (Op P M)) (n : Net P M) : Prop where
  sent : ∀ s d, n.got d s ++ n.queue s d ++ sendsTo d (n.todo s) = sendsTo d (prog s)
  received : ∀ s d, (n.got d s).length + recvsFrom s (n.todo d) = recvsFrom s (prog d)
  suffix : ∀ p, n.todo p <:+ prog p

variable {prog : P → List (Op P M)} {n n' : Net P M}

theorem accounts_init (prog : P → List (Op P M)) : Accounts prog (.init prog) :=
  ⟨fun _ _ => rfl, fun _ _ => Nat.zero_add _, fun _ => List.suffix_rfl⟩

theorem Step.accounts (h : Step n n') (ha : Accounts prog n) : Accounts prog n' := by
  cases h with
  | @send p d m rest htodo =>
    refine ⟨fun s d' => ?_, fun s d' => ?_, fun p' => ?_⟩
    · have hold := ha.sent s d'
      dsimp only
      rw [put_apply]
      by_cases hs : s = p
      · subst hs
        rw [htodo, sendsTo_send] at hold
        rw [Function.update_self, ← hold]
        by_cases hd : d' = d
        · subst hd
          simp
        · simp [hd, Ne.symm hd]
      · rw [Function.update_of_ne hs, if_neg fun h => hs h.1]
        exact hold
    · have hold := ha.received s d'
      dsimp only
      by_cases hd : d' = p
      · subst hd
        rw [htodo, recvsFrom_send] at hold
        rwa [Function.update_self]
      · rwa [Function.update_of_ne hd]
    · dsimp only
      by_cases hp : p' = p
      · subst hp
        rw [Function.update_self]
        exact (List.suffix_cons _ _).trans (htodo ▸ ha.suffix p')
      · rw [Function.update_of_ne hp]
        exact ha.suffix p'
  | @recv p s m rest q htodo hqueue =>
    refine ⟨fun s' d' => ?_, fun s' d' => ?_, fun p' => ?_⟩
    · have hold := ha.sent s' d'
      have htail : sendsTo d' (Function.update n.todo p rest s') = sendsTo d' (n.todo s') := by
        by_cases hs : s' = p
        · subst hs
          rw [Function.update_self, htodo, sendsTo_recv]
        · rw [Function.update_of_ne hs]
      dsimp only
      rw [htail, put_apply, put_apply, ← hold]
      by_cases hsd : s' = s ∧ d' = p
      · obtain ⟨rfl, rfl⟩ := hsd
        simp [hqueue]
      · rw [if_neg hsd, if_neg fun h => hsd h.symm]
    · have hold := ha.received s' d'
      dsimp only
      rw [put_apply]
      by_cases hd : d' = p
      · subst hd
        rw [htodo, recvsFrom_recv] at hold
        rw [Function.update_self]
        by_cases hs : s' = s
        · subst hs
          simp only [and_self, if_true, List.length_append, List.length_singleton] at hold ⊢
          omega
        · simp only [hs, Ne.symm hs, and_false, if_false] at hold ⊢
          omega
      · rw [Function.update_of_ne hd, if_neg fun h => hd h.1]
        exact hold
    · dsimp only
      by_cases hp : p' = p
      · subst hp
        rw [Function.update_self]
        exact (List.suffix_cons _ _).trans (htodo ▸ ha.suffix p')
      · rw [Function.update_of_ne hp]
        exact ha.suffix p'

theorem Steps.accounts (h : Steps (.init prog) n) : Accounts prog n := by
  induction h with
  | refl => exact accounts_init prog
  | tail _ hstep ih => exact hstep.accounts ih

/-! ## Senders and receivers -/

/-- Every process only sends or only receives, and each pair agrees on the
number of messages. -/
structure OneWay (prog : P → List (Op P M)) : Prop where
  sides : ∀ p, (∀ d m, Op.send d m ∉ prog p) ∨ ∀ s, Op.recv s ∉ prog p
  balanced : ∀ s d, (sendsTo d (prog s)).length = recvsFrom s (prog d)

theorem recvsFrom_pos {s : P} {ops : List (Op P M)} (h : .recv s ∈ ops) : 0 < recvsFrom s ops :=
  List.countP_pos_iff.2 ⟨_, h, by simp⟩

theorem sendsTo_eq_nil {d : P} {ops : List (Op P M)} (h : ∀ d m, Op.send d m ∉ ops) :
    sendsTo d ops = [] := by
  rw [sendsTo, List.filterMap_eq_nil_iff]
  intro op hop
  cases op with
  | send d' m => exact absurd hop (h d' m)
  | recv s => rfl

/-- A run of one-way processes can always go on until every process is done,
and then every message has been received, in order. -/
theorem OneWay.complete (h : OneWay prog) (hn : Steps (.init prog) n) :
    (∃ n', Step n n') ∨ ((∀ p, n.todo p = []) ∧ ∀ s d, n.got d s = sendsTo d (prog s)) := by
  have ha := hn.accounts
  by_cases hdone : ∀ p, n.todo p = []
  · refine .inr ⟨hdone, fun s d => ?_⟩
    have hsent := ha.sent s d
    have hreceived := ha.received s d
    rw [hdone, sendsTo_nil, List.append_nil] at hsent
    rw [hdone, recvsFrom_nil, Nat.add_zero, ← h.balanced] at hreceived
    -- as many are received as were sent, so nothing is under way
    have hqueue : n.queue s d = [] := by
      rw [← hsent, List.length_append] at hreceived
      exact List.eq_nil_of_length_eq_zero (by omega)
    rwa [hqueue, List.append_nil] at hsent
  · left
    push Not at hdone
    obtain ⟨p, hp⟩ := hdone
    rcases htodo : n.todo p with _ | ⟨op, rest⟩
    · exact absurd htodo hp
    · cases op with
      | send d m => exact ⟨_, .send htodo⟩
      | recv s =>
        -- the peer sends, or a message of it is under way
        have hmem : Op.recv s ∈ prog p := (ha.suffix p).subset (htodo ▸ List.mem_cons_self)
        rcases hs : n.todo s with _ | ⟨op', rest'⟩
        · rcases hqueue : n.queue s p with _ | ⟨m, q⟩
          · have hsent := ha.sent s p
            have hreceived := ha.received s p
            rw [hs, hqueue, sendsTo_nil, List.append_nil, List.append_nil] at hsent
            rw [← h.balanced, ← hsent] at hreceived
            have hpos := recvsFrom_pos (show Op.recv s ∈ n.todo p by rw [htodo]; exact List.mem_cons_self)
            omega
          · exact ⟨_, .recv htodo hqueue⟩
        · cases op' with
          | send d m => exact ⟨_, .send hs⟩
          | recv s' =>
            have hmem' : Op.recv s' ∈ prog s := (ha.suffix s).subset (hs ▸ List.mem_cons_self)
            have hnone : ∀ d m, Op.send d m ∉ prog s := (h.sides s).resolve_right fun hno => hno s' hmem'
            have hbalanced := h.balanced s p
            rw [sendsTo_eq_nil hnone] at hbalanced
            have hpos := recvsFrom_pos hmem
            rw [← hbalanced] at hpos
            exact absurd hpos (Nat.lt_irrefl 0)

/-- A step takes one operation of one process. -/
theorem Step.length_lt {ps : Finset P} (h : Step n n') (hps : ∀ p ∉ ps, n.todo p = []) :
    (∀ p ∉ ps, n'.todo p = []) ∧ ∑ p ∈ ps, (n'.todo p).length < ∑ p ∈ ps, (n.todo p).length := by
  have htail : ∀ {p : P} {op : Op P M} {rest : List (Op P M)}, n.todo p = op :: rest →
      (∀ q ∉ ps, Function.update n.todo p rest q = []) ∧
        ∑ q ∈ ps, (Function.update n.todo p rest q).length < ∑ q ∈ ps, (n.todo q).length := by
    intro p op rest htodo
    have hp : p ∈ ps := by
      by_contra hp
      cases htodo.symm.trans (hps p hp)
    refine ⟨fun q hq => ?_, Finset.sum_lt_sum (fun q _ => ?_) ⟨p, hp, ?_⟩⟩
    · rw [Function.update_of_ne (ne_of_mem_of_not_mem hp hq).symm]
      exact hps q hq
    · rcases eq_or_ne q p with rfl | hne
      · simp [htodo]
      · rw [Function.update_of_ne hne]
    · simp [htodo]
  cases h with
  | send htodo => exact htail htodo
  | recv htodo => exact htail htodo

/-- Finitely many one-way processes come to their end. -/
theorem OneWay.exists_done (h : OneWay prog) (ps : Finset P) (hps : ∀ p ∉ ps, prog p = []) :
    ∃ n, Steps (.init prog) n ∧ ∀ p, n.todo p = [] := by
  let Inv (n : Net P M) := Steps (.init prog) n ∧ ∀ p ∉ ps, n.todo p = []
  have hgoes : ∀ n, Inv n → ¬ (∀ p, n.todo p = []) →
      ∃ n', Steps n n' ∧ Inv n' ∧ ∑ p ∈ ps, (n'.todo p).length < ∑ p ∈ ps, (n.todo p).length := by
    intro n hn hnot
    obtain ⟨n', hstep⟩ := (h.complete hn.1).resolve_right fun hdone => hnot hdone.1
    obtain ⟨hps', hlt⟩ := hstep.length_lt hn.2
    exact ⟨n', .single hstep, ⟨hn.1.tail hstep, hps'⟩, hlt⟩
  obtain ⟨n, -, hn, hdone⟩ := Ends.exists_goal Inv _ _ hgoes ⟨.refl, hps⟩
  exact ⟨n, hn.1, hdone⟩

end Step

end AfdPlugin.Channels
