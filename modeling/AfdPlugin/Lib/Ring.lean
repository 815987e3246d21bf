import AfdPlugin.Lib.Rendezvous
/-!
# Threads in a ring

Threads that share one processor run in turn: the running thread performs its
operations until it yields, and the next thread takes over. When every thread
goes through the same rounds, yielding after each, the ring performs the first
round of every thread, then the second round of every thread, and so on.
-/

namespace AfdPlugin.Ring

open Rendezvous

variable {α β ρ σ : Type}

/-- What a thread does: an operation, or a hand-over to the next thread. -/
inductive Action (β : Type) where
  | op (b : β)
  | dboYield
  deriving DecidableEq, Repr

/-- A thread's operations, cut at its yields. -/
def segments : List (Action β) → List (List β)
  | [] => [[]]
  | .dboYield :: rest => [] :: segments rest
  | .op b :: rest =>
    match segments rest with
    | [] => [[b]]
    | seg :: segs => (b :: seg) :: segs

/-- The threads still to run, the running one first. A finished thread leaves the ring. -/
def ring : Process (List (List (List β))) β
  | [] => none
  | [] :: others => some (none, others)
  | ([] :: segs) :: others => some (none, others ++ [segs])
  | ((b :: seg) :: segs) :: others => some (some b, (seg :: segs) :: others)

/-! ## Cutting at yields -/

theorem segments_ops_append (rest : List (Action β)) {seg : List β} {segs : List (List β)}
    (h : segments rest = seg :: segs) (ops : List β) :
    segments (ops.map .op ++ rest) = (ops ++ seg) :: segs := by
  induction ops with
  | nil => exact h
  | cons b ops ih => simp only [List.map_cons, List.cons_append, segments, ih]

/-! ## Rounds -/

/-- The running thread finishes its segment and goes to the back of the ring. -/
theorem issues_segment {seg : List β} {segs : List (List β)} {others : List (List (List β))} {ops : List β}
    (h : Issues ring (others ++ [segs]) ops) : Issues ring ((seg :: segs) :: others) (seg ++ ops) := by
  induction seg with
  | nil => exact .internal rfl h
  | cons b seg ih => exact .offer rfl ih

/-- One round of every thread. -/
theorem issues_round (head : σ → List β) (tail : σ → List (List β)) (threads : List σ)
    (back : List (List (List β))) {ops : List β} (h : Issues ring (back ++ threads.map tail) ops) :
    Issues ring (threads.map (fun s => head s :: tail s) ++ back) (threads.flatMap head ++ ops) := by
  induction threads generalizing back with
  | nil => simpa using h
  | cons s threads ih =>
    rw [List.map_cons, List.cons_append, List.flatMap_cons, List.append_assoc]
    apply issues_segment
    rw [List.append_assoc]
    apply ih
    simpa using h

theorem issues_finished (threads : List σ) :
    Issues ring (threads.map fun _ => ([] : List (List β))) [] := by
  induction threads with
  | nil => exact .done rfl
  | cons s threads ih => exact .internal rfl ih

/-- Threads that go through the same rounds take turns at each round. -/
theorem issues_rounds (seg : σ → ρ → List β) (threads : List σ) (rounds : List ρ) :
    Issues ring (threads.map fun s => rounds.map (seg s))
      (rounds.flatMap fun r => threads.flatMap fun s => seg s r) := by
  induction rounds with
  | nil => exact issues_finished threads
  | cons r rounds ih =>
    have hround := issues_round (fun s => seg s r) (fun s => rounds.map (seg s)) threads [] ih
    rw [List.append_nil] at hround
    exact hround

/-! ## Exchanges with a yield in the middle -/

section Exchanges
variable (before after : σ → α → List β)

/-- A thread that sends before it yields and receives afterwards, for each item in turn. -/
def exchanges (s : σ) (items : List α) : List (Action β) :=
  items.flatMap fun a => (before s a).map .op ++ .dboYield :: (after s a).map .op

/-- The rounds between two yields: after one item, before the next. -/
def links : Option α → List α → List (Option α × Option α)
  | prev, [] => [(prev, none)]
  | prev, a :: items => (prev, some a) :: links (some a) items

/-- What a thread does between two yields. -/
def linkOps (s : σ) (link : Option α × Option α) : List β :=
  link.1.toList.flatMap (after s) ++ link.2.toList.flatMap (before s)

theorem segments_exchanges (s : σ) (prev : Option α) (items : List α) :
    segments ((prev.toList.flatMap (after s)).map .op ++ exchanges before after s items) =
      (links prev items).map (linkOps before after s) := by
  induction items generalizing prev with
  | nil =>
    rw [exchanges, List.flatMap_nil, segments_ops_append [] rfl]
    simp [links, linkOps]
  | cons a items ih =>
    have hrest := ih (some a)
    simp only [Option.toList_some, List.flatMap_singleton] at hrest
    have hcut : segments (exchanges before after s (a :: items)) =
        before s a :: (links (some a) items).map (linkOps before after s) := by
      rw [exchanges, List.flatMap_cons, List.append_assoc, List.cons_append, ← hrest]
      rw [segments_ops_append (.dboYield :: _) rfl, List.append_nil, exchanges]
    rw [segments_ops_append _ hcut]
    simp [links, linkOps]

/-- The operations of the ring that belong to one direction: every item in turn, and every thread at each. -/
theorem filterMap_links_before {γ : Type} (sel : β → Option γ) (threads : List σ)
    (hafter : ∀ s a, (after s a).filterMap sel = []) (prev : Option α) (items : List α) :
    ((links prev items).flatMap fun r => threads.flatMap fun s => linkOps before after s r).filterMap sel =
      items.flatMap fun a => threads.flatMap fun s => (before s a).filterMap sel := by
  induction items generalizing prev with
  | nil =>
    cases prev <;> simp [links, linkOps, List.filterMap_flatMap, hafter]
  | cons a items ih =>
    rw [links, List.flatMap_cons, List.filterMap_append, ih, List.flatMap_cons]
    cases prev <;> simp [linkOps, List.filterMap_flatMap, hafter]

theorem filterMap_links_after {γ : Type} (sel : β → Option γ) (threads : List σ)
    (hbefore : ∀ s a, (before s a).filterMap sel = []) (prev : Option α) (items : List α) :
    ((links prev items).flatMap fun r => threads.flatMap fun s => linkOps before after s r).filterMap sel =
      (prev.toList ++ items).flatMap fun a => threads.flatMap fun s => (after s a).filterMap sel := by
  induction items generalizing prev with
  | nil =>
    cases prev <;> simp [links, linkOps, List.filterMap_flatMap]
  | cons a items ih =>
    rw [links, List.flatMap_cons, List.filterMap_append, ih]
    cases prev <;> simp [linkOps, List.filterMap_flatMap, hbefore]

end Exchanges

end AfdPlugin.Ring
