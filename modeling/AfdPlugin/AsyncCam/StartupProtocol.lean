import AfdPlugin.AsyncCam.Startup
import Mathlib.Tactic.Common

/-! The startup protocol under every interleaving and every failure. -/

namespace AfdPlugin.AsyncCamStartup

open World

/-! ## What a step writes -/

section Frame
variable {c : Config} {r : Nat} {w v : World}

@[simp] theorem setRank_rank (w : World) (r : Nat) (k : Rank) : (w.setRank r k).rank r = k :=
  Function.update_self ..

theorem setRank_other (w : World) {r r' : Nat} (k : Rank) (h : r' ≠ r) :
    (w.setRank r k).rank r' = w.rank r' :=
  Function.update_of_ne h ..

@[simp] theorem setRank_store (w : World) (r : Nat) (k : Rank) : (w.setRank r k).store = w.store := rfl
@[simp] theorem put_rank (w : World) (key : Key) (x : Value) : (w.put key x).rank = w.rank := rfl

/-- A rank moves alone, publishes more, and writes keys of its own that it has published. -/
theorem RankStep.frame (hs : RankStep c r w v) :
    (∀ r', r' ≠ r → v.rank r' = w.rank r') ∧ (w.rank r).published <+: (v.rank r).published ∧
      ∀ p stage r' x, v.store (.entry p stage r') = some x → w.store (.entry p stage r') = some x ∨
        r' = r ∧ x = c.value r stage ∧ stage ∈ (v.rank r).published := by
  cases hs with
  | @publish stage rest h =>
    refine ⟨fun r' hr => setRank_other _ _ hr, by simp, fun p stage' r' x hx => ?_⟩
    simp only [setRank_store, put, Function.update_apply] at hx
    split at hx
    · rename_i heq
      obtain ⟨rfl, rfl, rfl⟩ := Key.entry.inj heq
      exact .inr ⟨rfl, (Option.some.inj hx).symm, by simp⟩
    · exact .inl hx
  | setNonce =>
    refine ⟨fun r' hr => setRank_other _ _ hr, by simp [goto], fun p stage r' x hx => .inl ?_⟩
    simpa [goto, put, Function.update_apply] using hx
  | _ => exact ⟨fun r' hr => setRank_other _ _ hr, by simp [goto, raise], fun _ _ _ _ => .inl⟩

end Frame

/-! ## The course of a rank -/

/-- The stage an action publishes. -/
def Action.publishes : Action → Option Stage
  | .publish stage => some stage
  | _ => none

/-- The stage whose wait an action is in. -/
def Action.waits : Action → Option Stage
  | .poll stage _ => some stage
  | _ => none

/-- The phases of a startup, for every rank. -/
def schedule (a : Agreed) : List Stage :=
  .plan :: (if a.twoStream then [.streamsValidated] else []) ++
    if a.mode = "full" then [.validated, .warmup, .captured] else []

section Schedule
variable (c : Config) (r : Nat) (a : Agreed)

/-- What a rank publishes in all: the FFN ranks also their service. -/
def announced : List Stage :=
  schedule a ++ if ¬ r < c.attnSize ∧ (a.mode = "full" ∨ a.twoStream) then [.service] else []

/-- What a rank waits for in all: the Attention ranks also for the service. -/
def awaited : List Stage := schedule a ++ if r < c.attnSize ∧ a.mode = "full" then [.service] else []

theorem startup_publishes : .plan :: (startup c r a).filterMap Action.publishes = announced c r a := by
  by_cases hmode : a.mode = "full" <;> by_cases hattn : r < c.attnSize <;> cases hstream : a.twoStream <;>
    simp [startup, initializeGraphStartup, negotiate, announced, schedule, phase, runAttentionGraphStartup,
      ffnGraphStartup, serviceReady, waitServiceReady, List.filterMap_cons, Action.publishes, hmode,
      hattn, hstream]

theorem startup_waits : .plan :: (startup c r a).filterMap Action.waits = awaited c r a := by
  by_cases hmode : a.mode = "full" <;> by_cases hattn : r < c.attnSize <;> cases hstream : a.twoStream <;>
    simp [startup, initializeGraphStartup, negotiate, awaited, schedule, phase, runAttentionGraphStartup,
      ffnGraphStartup, serviceReady, waitServiceReady, List.filterMap_cons, Action.waits, hmode, hattn,
      hstream]

end Schedule

/-- The entries of all ranks, in order. -/
def allEntries (c : Config) : List PlanEntry := (List.range c.worldSize).map c.entry

/-- Actions behind the decision `a`. -/
def Action.Behind (a : Agreed) : Action → Prop
  | .setNonce | .getNonce | .readPlans _ => False
  | .negotiated b => b = a
  | _ => True

theorem startup_behind (c : Config) (r : Nat) (a : Agreed) : ∀ x ∈ startup c r a, x.Behind a := by
  by_cases hmode : a.mode = "full" <;> by_cases hattn : r < c.attnSize <;> cases hstream : a.twoStream <;>
    simp [startup, initializeGraphStartup, negotiate, phase, runAttentionGraphStartup, ffnGraphStartup,
      serviceReady, waitServiceReady, Action.Behind, hmode, hattn, hstream]

/-- A rank that has not decided. -/
inductive Opening (c : Config) (r : Nat) : List Action → List Stage → List Stage → Prop where
  | setNonce : Opening c r [.setNonce, .getNonce, .publish .plan, .poll .plan 0, .readPlans []] [] []
  | getNonce : Opening c r [.getNonce, .publish .plan, .poll .plan 0, .readPlans []] [] []
  | publish : Opening c r [.publish .plan, .poll .plan 0, .readPlans []] [] []
  | poll (seen : Nat) : Opening c r [.poll .plan seen, .readPlans []] [.plan] []
  | read (n : Nat) : Opening c r [.readPlans ((List.range n).map c.entry)] [.plan] [.plan]

/-- A rank behind the decision: what it has done and what it is still to do make up its course. -/
structure Decided (c : Config) (r : Nat) (a : Agreed) (k : Rank) : Prop where
  decision : resolveEntries c.attnSize (allEntries c) = .ok a
  published : k.published ++ k.todo.filterMap Action.publishes = announced c r a
  passed : k.passed ++ k.todo.filterMap Action.waits = awaited c r a
  behind : ∀ x ∈ k.todo, x.Behind a
  negotiated : ∀ b, k.negotiated = some b → b = a

inductive Course (c : Config) (r : Nat) (k : Rank) : Prop where
  | opening (h : Opening c r k.todo k.published k.passed) (hn : k.negotiated = none)
  | decided (a : Agreed) (h : Decided c r a k)

/-- What holds in every world. -/
structure Inv (c : Config) (w : World) : Prop where
  keys : ∀ p stage r v, w.store (.entry p stage r) = some v → stage ≠ .error →
    stage ∈ (w.rank r).published ∧ (stage = .plan → v = .plan (c.entry r))
  passed : ∀ r stage, stage ∈ (w.rank r).passed → ∀ r' ∈ c.participants stage, stage ∈ (w.rank r').published
  course : ∀ r, Course c r (w.rank r)

section Course
variable {c : Config} {r : Nat} {w v : World}

/-- An action that neither publishes nor waits leaves a decided rank decided. -/
theorem Decided.goto {a : Agreed} {k : Rank} {x : Action} {rest : List Action} (h : Decided c r a k)
    (htodo : k.todo = x :: rest) (hp : x.publishes = none) (hw : x.waits = none) :
    Decided c r a { k with todo := rest } := by
  have hpub := h.published
  have hpassed := h.passed
  rw [htodo, List.filterMap_cons, hp] at hpub
  rw [htodo, List.filterMap_cons, hw] at hpassed
  exact ⟨h.decision, hpub, hpassed, fun y hy => h.behind y (htodo ▸ List.mem_cons_of_mem _ hy),
    h.negotiated⟩

/-- A round of a wait leaves a decided rank decided. -/
theorem Decided.poll {a : Agreed} {k : Rank} {stage : Stage} {seen seen' : Nat} {rest : List Action}
    (h : Decided c r a k) (htodo : k.todo = .poll stage seen :: rest) :
    Decided c r a { k with todo := .poll stage seen' :: rest } := by
  have hpub := h.published
  have hpassed := h.passed
  rw [htodo] at hpub hpassed
  refine ⟨h.decision, hpub, hpassed, fun y hy => ?_, h.negotiated⟩
  rcases List.mem_cons.1 hy with rfl | hy
  · trivial
  · exact h.behind y (htodo ▸ List.mem_cons_of_mem _ hy)

/-- Failing changes the status alone. -/
theorem Course.status {k : Rank} (h : Course c r k) (status : Status) :
    Course c r { k with status := status } := by
  cases h with
  | opening h hn => exact .opening h hn
  | decided a h => exact .decided a ⟨h.decision, h.published, h.passed, h.behind, h.negotiated⟩

/-- A rank that has read all plans decides as everybody does. -/
theorem decided_startup {a : Agreed} {k : Rank} (ha : resolveEntries c.attnSize (allEntries c) = .ok a)
    (hpub : k.published = [.plan]) (hpassed : k.passed = [.plan]) (hn : k.negotiated = none) :
    Decided c r a { k with todo := startup c r a } := by
  refine ⟨ha, ?_, ?_, startup_behind c r a, fun b hb => ?_⟩
  · rw [← startup_publishes, hpub]
    rfl
  · rw [← startup_waits, hpassed]
    rfl
  · cases hn.symm.trans hb

theorem opening_start (c : Config) (r : Nat) : Opening c r (initializeOps r) [] [] := by
  unfold initializeOps
  split
  · exact .setNonce
  · exact .getNonce

theorem Course.of_opening {k : Rank} {todo : List Action} {pub passed : List Stage}
    (h : Opening c r todo pub passed) (htodo : k.todo = todo) (hpub : k.published = pub)
    (hpassed : k.passed = passed) (hn : k.negotiated = none) :
    Course c r k := by
  subst htodo hpub hpassed
  exact .opening h hn

/-- One step before the decision, or the decision. -/
theorem Opening.step (hinv : Inv c w) (hs : RankStep c r w v) {todo : List Action}
    {pub passed : List Stage} (htodo : (w.rank r).todo = todo) (hpub : (w.rank r).published = pub)
    (hpassed : (w.rank r).passed = passed) (h : Opening c r todo pub passed)
    (hn : (w.rank r).negotiated = none) : Course c r (v.rank r) := by
  cases hs with
  | fails | timesOut | errorSeen | checkFails | resolveFails =>
    rw [World.raise, setRank_rank]
    exact (hinv.course r).status _
  | setNonce hat =>
    obtain rfl := htodo.symm.trans hat
    cases h
    rw [World.goto, setRank_rank]
    exact .of_opening .getNonce rfl hpub hpassed hn
  | getNonce hat =>
    obtain rfl := htodo.symm.trans hat
    cases h
    rw [setRank_rank]
    exact .of_opening .publish rfl hpub hpassed hn
  | publish hat =>
    obtain rfl := htodo.symm.trans hat
    cases h
    rw [setRank_rank, hpub]
    exact .of_opening (.poll 0) rfl rfl hpassed hn
  | @noError stage seen rest hat =>
    obtain rfl := htodo.symm.trans hat
    cases h
    rw [World.goto, setRank_rank]
    exact .of_opening (.poll _) rfl hpub hpassed hn
  | pollAgain hat =>
    obtain rfl := htodo.symm.trans hat
    cases h
    rw [World.goto, setRank_rank]
    exact .of_opening (.poll _) rfl hpub hpassed hn
  | passes hat =>
    obtain rfl := htodo.symm.trans hat
    cases h
    rw [setRank_rank, hpassed]
    exact .of_opening (.read 0) rfl hpub rfl hn
  | @readPlan entries rest entry hat hlt hv =>
    obtain rfl := htodo.symm.trans hat
    cases h with
    | read n =>
      obtain rfl : entry = c.entry n := by simpa using (hinv.keys _ _ _ _ hv (by decide)).2 rfl
      rw [World.goto, setRank_rank]
      have hsucc : (List.range n).map c.entry ++ [c.entry n] = (List.range (n + 1)).map c.entry := by
        simp [List.range_succ]
      exact .of_opening (.read (n + 1)) (by rw [hsucc]) hpub hpassed hn
  | @resolves entries rest a hat hlen ha =>
    obtain rfl := htodo.symm.trans hat
    cases h with
    | read n =>
      obtain rfl : n = c.worldSize := by simpa using hlen
      rw [World.goto, setRank_rank, List.append_nil]
      exact .decided a (decided_startup ha hpub hpassed hn)
  | checkedOne hat | checked hat | returns hat | works hat =>
    obtain rfl := htodo.symm.trans hat
    cases h

/-- One step behind the decision. -/
theorem Decided.step {a : Agreed} (h : Decided c r a (w.rank r)) (hs : RankStep c r w v) :
    Course c r (v.rank r) := by
  have hbehind : ∀ {x : Action} {rest : List Action}, (w.rank r).todo = x :: rest → x.Behind a :=
    fun hat => h.behind _ (hat ▸ List.mem_cons_self)
  cases hs with
  | fails | timesOut | errorSeen | checkFails | resolveFails =>
    rw [World.raise, setRank_rank]
    exact Course.status (.decided a h) _
  | setNonce hat | getNonce hat | readPlan hat | resolves hat =>
    exact False.elim (hbehind hat)
  | @publish stage rest hat =>
    rw [setRank_rank]
    refine .decided a ⟨h.decision, ?_, ?_, fun y hy => h.behind y (hat ▸ List.mem_cons_of_mem _ hy),
      h.negotiated⟩
    · rw [← h.published, hat, List.append_assoc]
      rfl
    · rw [← h.passed, hat]
      rfl
  | @passes stage rest hat =>
    rw [setRank_rank]
    refine .decided a ⟨h.decision, ?_, ?_, fun y hy => h.behind y (hat ▸ List.mem_cons_of_mem _ hy),
      h.negotiated⟩
    · rw [← h.published, hat]
      rfl
    · rw [← h.passed, hat, List.append_assoc]
      rfl
  | noError hat | pollAgain hat =>
    rw [World.goto, setRank_rank]
    exact .decided a (h.poll hat)
  | checkedOne hat =>
    rw [World.goto, setRank_rank]
    refine .decided a ⟨h.decision, ?_, ?_, fun y hy => ?_, h.negotiated⟩
    · rw [← h.published, hat]
      rfl
    · rw [← h.passed, hat]
      rfl
    · rcases List.mem_cons.1 hy with rfl | hy
      · trivial
      · exact h.behind y (hat ▸ List.mem_cons_of_mem _ hy)
  | checked hat | works hat =>
    rw [World.goto, setRank_rank]
    exact .decided a (h.goto hat rfl rfl)
  | @returns b rest hat =>
    obtain rfl : b = a := hbehind hat
    rw [setRank_rank]
    have hgoto := h.goto hat rfl rfl
    exact .decided b ⟨hgoto.decision, hgoto.published, hgoto.passed, hgoto.behind,
      fun x hx => (Option.some.inj hx).symm⟩

theorem Course.step (hinv : Inv c w) (hs : RankStep c r w v) : Course c r (v.rank r) := by
  cases hinv.course r with
  | opening h hn => exact h.step hinv hs rfl rfl rfl hn
  | decided a h => exact h.step hs

/-- No rank waits for an error. -/
theorem Course.waits_ne_error {k : Rank} (h : Course c r k) {stage : Stage}
    (hw : stage ∈ k.todo.filterMap Action.waits) : stage ≠ .error := by
  cases h with
  | opening h hn =>
    generalize k.todo = todo at h hw
    generalize k.published = pub at h
    generalize k.passed = passed at h
    have hplan : stage = .plan := by cases h <;> simp_all [List.filterMap_cons, Action.waits]
    rw [hplan]
    decide
  | decided a h =>
    have hmem : stage ∈ awaited c r a := h.passed ▸ List.mem_append_right _ hw
    rintro rfl
    unfold awaited schedule at hmem
    grind

theorem Inv.runs (h : Inv c w) (hs : RankStep c r w v) : Inv c v := by
  obtain ⟨hother, hpub, hstore⟩ := hs.frame
  have hmono : ∀ r' stage, stage ∈ (w.rank r').published → stage ∈ (v.rank r').published := by
    intro r' stage hmem
    rcases eq_or_ne r' r with rfl | hne
    · exact hpub.subset hmem
    · rw [hother r' hne]
      exact hmem
  have hcourse : ∀ r', Course c r' (v.rank r') := by
    intro r'
    rcases eq_or_ne r' r with rfl | hne
    · exact Course.step h hs
    · rw [hother r' hne]
      exact h.course r'
  refine ⟨fun p stage r' x hx herror => ?_, fun r' stage hp s hs' => ?_, hcourse⟩
  · rcases hstore p stage r' x hx with hx | ⟨rfl, rfl, hmem⟩
    · exact (h.keys p stage r' x hx herror).imp_left (hmono _ _)
    · exact ⟨hmem, fun hplan => hplan ▸ rfl⟩
  · rcases eq_or_ne r' r with rfl | hne
    · cases hs with
      | @passes stage' rest hat hkeys =>
        rw [setRank_rank] at hp
        rcases List.mem_append.1 hp with hp | hp
        · exact hmono _ _ (h.passed _ _ hp _ hs')
        · obtain rfl := List.mem_singleton.1 hp
          have hwait : stage ∈ (w.rank r').todo.filterMap Action.waits := by simp [hat, Action.waits]
          obtain ⟨x, hx⟩ := Option.ne_none_iff_exists'.1 (hkeys s hs')
          exact hmono _ _ (h.keys _ _ _ _ hx ((h.course r').waits_ne_error hwait)).1
      | _ =>
        refine hmono _ _ (h.passed r' stage ?_ s hs')
        simpa [World.goto, World.raise] using hp
    · rw [hother r' hne] at hp
      exact hmono _ _ (h.passed _ _ hp _ hs')

theorem Inv.status (h : Inv c w) (r : Nat) (status : Status) :
    Inv c (w.setRank r { w.rank r with status := status }) := by
  have hrank : ∀ r', (w.setRank r { w.rank r with status := status }).rank r' =
      { w.rank r' with status := if r' = r then status else (w.rank r').status } := by
    intro r'
    rcases eq_or_ne r' r with rfl | hne
    · rw [setRank_rank, if_pos rfl]
    · rw [setRank_other _ _ hne, if_neg hne]
  refine ⟨fun p stage r' x hx herror => ?_, fun r' stage hp s hs => ?_, fun r' => ?_⟩
  · rw [hrank]
    exact h.keys p stage r' x hx herror
  · rw [hrank] at hp ⊢
    exact h.passed r' stage hp s hs
  · rw [hrank]
    exact (h.course r').status _

theorem Inv.error (h : Inv c w) (p : Option String) (r : Nat) (x : Value) :
    Inv c (w.put (.entry p .error r) x) := by
  refine ⟨fun p' stage r' y hy herror => ?_, h.passed, h.course⟩
  have hne : Key.entry p' stage r' ≠ Key.entry p .error r := fun heq => herror (Key.entry.inj heq).2.1
  exact h.keys p' stage r' y (by simpa [put, Function.update_of_ne hne] using hy) herror

theorem Step.inv (hs : Step c w v) (h : Inv c w) : Inv c v := by
  cases hs with
  | runs r _ _ hs => exact h.runs hs
  | publishesError r => exact (h.error (w.rank r).pfx r _).status r .failed
  | crashes r => exact h.status r .failed

theorem Steps.inv (hs : Steps c w v) (h : Inv c w) : Inv c v := by
  induction hs with
  | refl => exact h
  | step _ hs ih => exact hs.inv ih

theorem Reachable.inv (h : Reachable c w) : Inv c w :=
  Steps.inv h ⟨nofun, nofun, fun r => .opening (opening_start c r) rfl⟩

/-- A rank that has failed publishes nothing more. -/
theorem Step.failed (hs : Step c w v) (hf : (w.rank r).status ≠ .running) :
    (v.rank r).status ≠ .running ∧ (v.rank r).published = (w.rank r).published := by
  cases hs with
  | runs r' _ hrun hs =>
    have hne : r ≠ r' := by
      rintro rfl
      exact hf hrun
    rw [hs.frame.1 r hne]
    exact ⟨hf, rfl⟩
  | publishesError r' | crashes r' =>
    rcases eq_or_ne r r' with rfl | hne
    · simp
    · simp [setRank_other _ _ hne, hf]

theorem Steps.failed (hs : Steps c w v) (hf : (w.rank r).status ≠ .running) :
    (v.rank r).status ≠ .running ∧ (v.rank r).published = (w.rank r).published := by
  induction hs with
  | refl => exact ⟨hf, rfl⟩
  | step _ hs ih =>
    obtain ⟨hfv, hpub⟩ := hs.failed ih.1
    exact ⟨hfv, hpub.trans ih.2⟩

end Course

/-! ## The protocol -/

/-- The phases of a list of stages: everything but the service. -/
def phases (stages : List Stage) : List Stage := stages.filter (· ≠ .service)

section Protocol
variable {c : Config} {w : World}

theorem phases_schedule (a : Agreed) : phases (schedule a) = schedule a := by
  by_cases hmode : a.mode = "full"
    <;> cases hstream : a.twoStream <;> simp [phases, schedule, hmode, hstream]

theorem Opening.inPlan {r : Nat} {todo : List Action} {pub passed : List Stage}
    (h : Opening c r todo pub passed) :
    phases pub <+: [.plan] ∧ phases passed <+: [.plan] := by
  cases h <;> decide

theorem Decided.inPlan {r : Nat} {a : Agreed} {k : Rank} (h : Decided c r a k) :
    phases k.published <+: schedule a ∧ phases k.passed <+: schedule a := by
  have hservice : ∀ p : Prop, [Decidable p] →
      phases (schedule a ++ if p then [.service] else []) = schedule a := by
    intro p _
    rw [phases, List.filter_append, ← phases, phases_schedule]
    split <;> simp
  have hpub : k.published <+: announced c r a := h.published ▸ List.prefix_append ..
  have hpassed : k.passed <+: awaited c r a := h.passed ▸ List.prefix_append ..
  have hannounced : phases (announced c r a) = schedule a := hservice _
  have hawaited : phases (awaited c r a) = schedule a := hservice _
  constructor
  · rw [← hannounced]
    exact hpub.filter _
  · rw [← hawaited]
    exact hpassed.filter _

/-- What the ranks have published and passed are beginnings of one schedule. -/
theorem Inv.common (h : Inv c w) : ∃ common : List Stage, ∀ r,
    phases (w.rank r).published <+: common ∧ phases (w.rank r).passed <+: common := by
  by_cases hdecided : ∃ r a, Decided c r a (w.rank r)
  · obtain ⟨r₀, a, h₀⟩ := hdecided
    have hplan : [.plan] <+: schedule a := by simp [schedule]
    refine ⟨schedule a, fun r => ?_⟩
    cases h.course r with
    | opening ho hn => exact ⟨ho.inPlan.1.trans hplan, ho.inPlan.2.trans hplan⟩
    | decided b hb =>
      obtain rfl : b = a := Except.ok.inj (hb.decision.symm.trans h₀.decision)
      exact hb.inPlan
  · refine ⟨[.plan], fun r => ?_⟩
    cases h.course r with
    | opening ho hn => exact ho.inPlan
    | decided b hb => exact absurd ⟨r, b, hb⟩ hdecided

theorem Inv.decided (h : Inv c w) {r : Nat} {a : Agreed} (hn : (w.rank r).negotiated = some a) :
    Decided c r a (w.rank r) := by
  cases h.course r with
  | opening _ hnone => cases hnone.symm.trans hn
  | decided b hb =>
    obtain rfl := hb.negotiated a hn
    exact hb

/-- For any number of ranks, any interleaving of their store operations and any
failures: ranks whose negotiation returns agree; nobody leaves a phase's wait
before every participant has published it, and never if one fails before that;
all ranks go through the same phases in the same order, and a rank's course, what it
has done and what it is still to do, is the agreed schedule, no phase left out; and
Attention leaves the service wait only when every FFN rank has published its service. -/
theorem async_cam_startup {c : Config} {w : World} (h : Reachable c w) :
    (∀ r r' a a', (w.rank r).negotiated = some a → (w.rank r').negotiated = some a' → a = a') ∧
    (∀ r stage, stage ∈ (w.rank r).passed → ∀ s ∈ c.participants stage, stage ∈ (w.rank s).published) ∧
    (∀ s stage, s ∈ c.participants stage → (w.rank s).status ≠ .running → stage ∉ (w.rank s).published →
      ∀ v, Steps c w v → ∀ r, stage ∉ (v.rank r).passed) ∧
    (∀ r r', (phases (w.rank r).published <+: phases (w.rank r').published ∨
        phases (w.rank r').published <+: phases (w.rank r).published) ∧
      (phases (w.rank r).passed <+: phases (w.rank r').passed ∨
        phases (w.rank r').passed <+: phases (w.rank r).passed)) ∧
    (∀ r a, (w.rank r).negotiated = some a →
      (w.rank r).published ++ (w.rank r).todo.filterMap Action.publishes = announced c r a ∧
        (w.rank r).passed ++ (w.rank r).todo.filterMap Action.waits = awaited c r a) ∧
    ∀ r < c.attnSize, .service ∈ (w.rank r).passed →
      ∀ f, c.attnSize ≤ f → f < c.worldSize → .service ∈ (w.rank f).published := by
  have hinv := h.inv
  refine ⟨fun r r' a a' ha ha' => ?_, hinv.passed, fun s stage hs hf hpub v hv r hp => ?_, fun r r' => ?_,
    fun r a ha => ⟨(hinv.decided ha).published, (hinv.decided ha).passed⟩, fun r _ hp f hf hlt => ?_⟩
  · exact Except.ok.inj ((hinv.decided ha).decision.symm.trans (hinv.decided ha').decision)
  · have hpublished := (hv.inv hinv).passed r stage hp s hs
    rw [(hv.failed hf).2] at hpublished
    exact hpub hpublished
  · obtain ⟨common, hcommon⟩ := hinv.common
    exact ⟨List.prefix_or_prefix_of_prefix (hcommon r).1 (hcommon r').1,
      List.prefix_or_prefix_of_prefix (hcommon r).2 (hcommon r').2⟩
  · refine hinv.passed r .service hp f (List.mem_range'_1.2 ⟨hf, ?_⟩)
    exact hlt

/-- Of one Attention and one FFN rank the FFN rank dies before it has published
its plan: nobody ever passes the plan phase. -/
theorem async_cam_startup_ffn_dies :
    ¬∃ v r, Steps ⟨1, 1, "n", fun _ => "t", fun _ => .default⟩
        (start.setRank 1 { start.rank 1 with status := .failed }) v ∧ .plan ∈ (v.rank r).passed := by
  rintro ⟨v, r, hv, hr⟩
  exact (async_cam_startup (.step .refl (.crashes 1 (by decide)))).2.2.1 1 .plan (by decide) nofun
    nofun v hv r hr

end Protocol

end AfdPlugin.AsyncCamStartup
