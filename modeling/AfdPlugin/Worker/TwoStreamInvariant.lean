import AfdPlugin.Worker.AsyncFfnTwoStream

/-! What holds of the owner and its two streams at every moment. Transactions
are numbered by their receives; `σ k` is the slot the `k`-th one uses. -/

namespace AfdPlugin.AsyncFfnTwoStream

open Streams

variable {V : Type} {e : Kernels V} {σ : Nat → Index}

/-! ## Commands -/

section Commands

variable {C S cs pre : List Cmd} {k : Nat}

@[simp] theorem receives_append (a b : List Cmd) : receives (a ++ b) = receives a ++ receives b :=
  List.filterMap_append
@[simp] theorem executes_append (a b : List Cmd) : executes (a ++ b) = executes a ++ executes b :=
  List.filterMap_append
@[simp] theorem sends_append (a b : List Cmd) : sends (a ++ b) = sends a ++ sends b := List.filterMap_append

@[simp] theorem receives_dispatchRecv (p : Payload Address) :
    receives [.kernel (.dispatchRecv p)] = [p] := rfl
@[simp] theorem receives_executor (p : Payload Address) (c : Computed Address) :
    receives [.kernel (.executor p c)] = [] := rfl
@[simp] theorem executes_dispatchRecv (p : Payload Address) :
    executes [.kernel (.dispatchRecv p)] = [] := rfl
@[simp] theorem executes_executor (p : Payload Address) (c : Computed Address) :
    executes [.kernel (.executor p c)] = [(p, c)] := rfl
@[simp] theorem receives_graph (p q : Payload Address) (c : Computed Address) :
    receives [.kernel (.dispatchRecv p), .kernel (.executor q c)] = [p] := rfl
@[simp] theorem executes_graph (p q : Payload Address) (c : Computed Address) :
    executes [.kernel (.dispatchRecv p), .kernel (.executor q c)] = [(q, c)] := rfl
@[simp] theorem sends_waitEvent (v : Event Queue) : sends [.waitEvent v] = [] := rfl
@[simp] theorem sends_combineSend (o i : Address) : sends [.kernel (.combineSend o i)] = [(o, i)] := rfl

@[simp] theorem receives_guard (s : Slot) : receives s.guard = [] := by
  unfold Slot.guard receives
  cases s.done <;> split <;> rfl

@[simp] theorem executes_guard (s : Slot) : executes s.guard = [] := by
  unfold Slot.guard executes
  cases s.done <;> split <;> rfl

/-- Those before the `k`-th that used its slot were sent before some event that `pre` waits for. -/
def Guarded (σ : Nat → Index) (S pre : List Cmd) (k : Nat) : Prop :=
  ∀ j < k, σ j = σ k → ∃ m, .waitEvent ⟨.send, m⟩ ∈ pre ∧ j < (sends (S.take m)).length

/-- A command of the compute stream and those before it. -/
def ComputeRule (σ : Nat → Index) (S pre : List Cmd) : Cmd → Prop
  | .waitEvent _ => True
  | .kernel (.dispatchRecv _) =>
    (receives pre).length = (executes pre).length ∧ Guarded σ S pre (receives pre).length
  | .kernel (.executor p _) =>
    (receives pre)[(executes pre).length]? = some p ∧ (receives pre).length = (executes pre).length + 1 ∧
      Guarded σ S pre (executes pre).length
  | .kernel (.combineSend ..) => False

/-- A command of the send stream and those before it: the `k`-th send reads what
the `k`-th executor wrote, after an event recorded behind that one. -/
def SendRule (C pre : List Cmd) : Cmd → Prop
  | .waitEvent _ => True
  | .kernel (.combineSend o i) =>
    ∃ m p c, .waitEvent ⟨.compute, m⟩ ∈ pre ∧ (executes (C.take m))[(sends pre).length]? = some (p, c) ∧
      o = c.output ∧ i = p.tokenNumsRankidLayeridx
  | .kernel _ => False

/-- The order of the commands of both streams. -/
structure Script (σ : Nat → Index) (C S : List Cmd) : Prop where
  compute : Each (ComputeRule σ S) C
  send : Each (SendRule C) S

theorem take_isPrefix_append (l cs : List Cmd) (m : Nat) : l.take m <+: (l ++ cs).take m := by
  rw [List.take_append]
  exact List.prefix_append ..

theorem Guarded.append (h : Guarded σ S pre k) (cs : List Cmd) : Guarded σ (S ++ cs) pre k := by
  intro j hj hσ
  obtain ⟨m, hm, hlt⟩ := h j hj hσ
  exact ⟨m, hm, hlt.trans_le (length_filterMap_of_isPrefix (take_isPrefix_append S cs m))⟩

theorem Guarded.mono {pre' : List Cmd} (h : Guarded σ S pre k) (hpre : ∀ c ∈ pre, c ∈ pre') :
    Guarded σ S pre' k := by
  intro j hj hσ
  obtain ⟨m, hm, hlt⟩ := h j hj hσ
  exact ⟨m, hpre _ hm, hlt⟩

theorem ComputeRule.append {c : Cmd} (h : ComputeRule σ S pre c) (cs : List Cmd) :
    ComputeRule σ (S ++ cs) pre c := by
  match c, h with
  | .waitEvent _, _ => trivial
  | .kernel (.dispatchRecv _), h => exact ⟨h.1, h.2.append cs⟩
  | .kernel (.executor ..), h => exact ⟨h.1, h.2.1, h.2.2.append cs⟩

theorem SendRule.append {c : Cmd} (h : SendRule C pre c) (cs : List Cmd) : SendRule (C ++ cs) pre c := by
  match c, h with
  | .waitEvent _, _ => trivial
  | .kernel (.combineSend ..), ⟨m, p, x, hm, hx, ho, hi⟩ =>
    exact ⟨m, p, x, hm, getElem?_filterMap_of_isPrefix (take_isPrefix_append C cs m) hx, ho, hi⟩

theorem Script.snoc_compute (h : Script σ C S) {c : Cmd} (hc : ComputeRule σ S C c) :
    Script σ (C ++ [c]) S :=
  ⟨h.compute.snoc hc, h.send.mono fun _ _ hx => hx.append [c]⟩

theorem Script.snoc_send (h : Script σ C S) {c : Cmd} (hc : SendRule C S c) : Script σ C (S ++ [c]) :=
  ⟨h.compute.mono fun _ _ hx => hx.append [c], h.send.snoc hc⟩

theorem Script.guard (h : Script σ C S) (s : Slot) : Script σ (C ++ s.guard) S := by
  unfold Slot.guard
  split
  · cases s.done with
    | none => simpa using h
    | some v => exact h.snoc_compute trivial
  · simpa using h

theorem Guarded.congr {σ' : Nat → Index} (h : Guarded σ S pre k) (hσ : ∀ j ≤ k, σ' j = σ j) :
    Guarded σ' S pre k := by
  intro j hj hj'
  rw [hσ j hj.le, hσ k le_rfl] at hj'
  exact h j hj hj'

/-- The slot of a transaction that is not yet received does not matter. -/
theorem Script.assign (h : Script σ C S) {N : Nat} (hN : (receives C).length = N) (i : Index) :
    Script (Function.update σ N i) C S := by
  refine ⟨fun pre c post heq => ?_, h.send⟩
  have hrule := h.compute pre c post heq
  have hlen : (receives pre).length + (receives (c :: post)).length = N := by
    rw [← hN, heq, receives_append, List.length_append]
  have hσ : ∀ j < N, Function.update σ N i j = σ j := fun j hj => Function.update_of_ne hj.ne ..
  match c, hrule with
  | .waitEvent _, _ => trivial
  | .kernel (.dispatchRecv p), hrule =>
    have hpos : (receives (.kernel (.dispatchRecv p) :: post)).length = (receives post).length + 1 := rfl
    exact ⟨hrule.1, hrule.2.congr fun j hj => hσ j (by omega)⟩
  | .kernel (.executor ..), hrule =>
    exact ⟨hrule.1, hrule.2.1, hrule.2.2.congr fun j hj => hσ j (by have := hrule.2.1; omega)⟩

/-- What the `k`-th executor reads is what the `k`-th receive wrote. -/
theorem receive_of_execute (h : Each (ComputeRule σ S) C) {p : Payload Address} {c : Computed Address}
    (hk : (executes C)[k]? = some (p, c)) : (receives C)[k]? = some p := by
  obtain ⟨pre, x, post, rfl, hx, hlen⟩ := split_of_getElem?_filterMap hk
  have hrule := h pre x post rfl
  match x, hx with
  | .kernel (.executor ..), rfl =>
    rw [← hlen]
    exact getElem?_filterMap_of_isPrefix (List.prefix_append ..) hrule.1

theorem Script.of_send (h : Script σ C S) {o i : Address} (hk : (sends S)[k]? = some (o, i)) :
    ∃ p c, (executes C)[k]? = some (p, c) ∧ o = c.output ∧ i = p.tokenNumsRankidLayeridx := by
  obtain ⟨pre, x, post, rfl, hx, hlen⟩ := split_of_getElem?_filterMap hk
  have hrule := h.send pre x post rfl
  match x, hx with
  | .kernel (.combineSend ..), rfl =>
    obtain ⟨m, p, c, -, hc, ho, hi⟩ := hrule
    exact ⟨p, c, hlen ▸ getElem?_filterMap_of_isPrefix (List.take_prefix ..) hc, ho, hi⟩

end Commands

/-! ## References -/

/-- What a slot refers to. -/
def Slot.refs (s : Slot) : Option (Payload Address) × Option Address × List Address :=
  (s.payload, s.output, s.tensors)

def Slot.Cleared (s : Slot) : Prop := s.refs = (none, none, [])

theorem Slot.held_of_refs {s t : Slot} (h : s.refs = t.refs) : s.held = t.held := by
  simp only [refs, Prod.mk.injEq] at h
  simp [held, h]

@[simp] theorem Slot.refs_releaseTransaction (s : Slot) :
    s.releaseTransaction.refs = (none, none, []) := rfl

theorem Slot.Cleared.held {s : Slot} (h : s.Cleared) : s.held = [] := by
  simp only [Cleared, refs, Prod.mk.injEq] at h
  simp [Slot.held, h]

/-- The unsent transactions (from the `n`-th on) are what the slots refer to, and
no memory has two owners. -/
structure Owned (σ : Nat → Index) (slots : Index → Slot) (C : List Cmd) (n : Nat) : Prop where
  payload : ∀ k p, n ≤ k → (receives C)[k]? = some p → (slots (σ k)).payload = some p
  computed : ∀ k p c, n ≤ k → (executes C)[k]? = some (p, c) →
    (slots (σ k)).output = some c.output ∧ (slots (σ k)).tensors = c.tensors
  distinct : ∀ i j, i ≠ j → ∀ a ∈ (slots i).held, a ∉ (slots j).held
  tensors : ∀ i, (slots i).tensors.Nodup
  payloads : ∀ i p, (slots i).payload = some p → p.tensors.Nodup ∧ ∀ a ∈ p.tensors, a ∉ (slots i).tensors

namespace Owned

variable {slots slots' : Index → Slot} {C C' : List Cmd} {n n' : Nat}

theorem later (h : Owned σ slots C n) (hn : n ≤ n') : Owned σ slots C n' where
  payload k p hk := h.payload k p (hn.trans hk)
  computed k p c hk := h.computed k p c (hn.trans hk)
  distinct := h.distinct
  tensors := h.tensors
  payloads := h.payloads

/-- Only the references count. -/
theorem congr (h : Owned σ slots C n) (hs : ∀ i, (slots' i).refs = (slots i).refs) :
    Owned σ slots' C n := by
  have hpayload : ∀ i, (slots' i).payload = (slots i).payload := fun i => congrArg Prod.fst (hs i)
  have houtput : ∀ i, (slots' i).output = (slots i).output := fun i => congrArg (·.2.1) (hs i)
  have htensors : ∀ i, (slots' i).tensors = (slots i).tensors := fun i => congrArg (·.2.2) (hs i)
  have hheld : ∀ i, (slots' i).held = (slots i).held := fun i => Slot.held_of_refs (hs i)
  constructor
  · intro k p hk hp
    rw [hpayload]
    exact h.payload k p hk hp
  · intro k p c hk hc
    rw [houtput, htensors]
    exact h.computed k p c hk hc
  · intro i j hij a ha
    rw [hheld] at ha ⊢
    exact h.distinct i j hij a ha
  · intro i
    rw [htensors]
    exact h.tensors i
  · intro i p hp
    rw [hpayload] at hp
    rw [htensors]
    exact h.payloads i p hp

theorem commands (h : Owned σ slots C n) (hr : receives C' = receives C) (hx : executes C' = executes C) :
    Owned σ slots C' n where
  payload k p hk hp := h.payload k p hk (hr ▸ hp)
  computed k p c hk hc := h.computed k p c hk (hx ▸ hc)
  distinct := h.distinct
  tensors := h.tensors
  payloads := h.payloads

/-- A slot of its own for the next transaction. -/
theorem assign (h : Owned σ slots C n) {N : Nat} (hr : (receives C).length = N)
    (hx : (executes C).length = N) (i : Index) : Owned (Function.update σ N i) slots C n where
  payload k p hk hp := by
    have hlt := (List.getElem?_eq_some_iff.1 hp).1
    rw [Function.update_of_ne (by omega)]
    exact h.payload k p hk hp
  computed k p c hk hc := by
    have hlt := (List.getElem?_eq_some_iff.1 hc).1
    rw [Function.update_of_ne (by omega)]
    exact h.computed k p c hk hc
  distinct := h.distinct
  tensors := h.tensors
  payloads := h.payloads

/-- Slot `i` becomes `s`: it refers to what it referred to and to memory that
nothing refers to, and `s` has every unsent transaction that uses it. -/
theorem set (h : Owned σ slots C n) {i : Index} {s : Slot}
    (hheld : ∀ a ∈ s.held, a ∈ (slots i).held ∨ ∀ j, a ∉ (slots j).held) (htensors : s.tensors.Nodup)
    (hpayloads : ∀ p, s.payload = some p → p.tensors.Nodup ∧ ∀ a ∈ p.tensors, a ∉ s.tensors)
    (hp : ∀ k p, n ≤ k → (receives C')[k]? = some p → σ k = i ∧ s.payload = some p ∨ σ k ≠ i ∧
      (receives C)[k]? = some p)
    (hc : ∀ k p c, n ≤ k → (executes C')[k]? = some (p, c) → σ k = i ∧ s.output = some c.output ∧
      s.tensors = c.tensors ∨ σ k ≠ i ∧ (executes C)[k]? = some (p, c)) :
    Owned σ (Function.update slots i s) C' n := by
  constructor
  · intro k p hk hr
    rcases hp k p hk hr with ⟨hσ, hs⟩ | ⟨hσ, hr⟩
    · rw [hσ, Function.update_self, hs]
    · rw [Function.update_of_ne hσ]
      exact h.payload k p hk hr
  · intro k p c hk hx
    rcases hc k p c hk hx with ⟨hσ, hs⟩ | ⟨hσ, hx⟩
    · rw [hσ, Function.update_self]
      exact hs
    · rw [Function.update_of_ne hσ]
      exact h.computed k p c hk hx
  · intro j j' hne a ha ha'
    by_cases hj : j = i
    · have hj' : j' ≠ i := fun h' => hne (hj.trans h'.symm)
      rw [hj, Function.update_self] at ha
      rw [Function.update_of_ne hj'] at ha'
      rcases hheld a ha with ha | ha
      · exact h.distinct i j' (hj ▸ hne) a ha ha'
      · exact ha j' ha'
    · rw [Function.update_of_ne hj] at ha
      by_cases hj' : j' = i
      · rw [hj', Function.update_self] at ha'
        rcases hheld a ha' with ha' | ha'
        · exact h.distinct j i hj a ha ha'
        · exact ha' j ha
      · rw [Function.update_of_ne hj'] at ha'
        exact h.distinct j j' hne a ha ha'
  · intro j
    by_cases hj : j = i
    · rw [hj, Function.update_self]
      exact htensors
    · rw [Function.update_of_ne hj]
      exact h.tensors j
  · intro j p hj
    by_cases hji : j = i
    · rw [hji, Function.update_self] at hj ⊢
      exact hpayloads p hj
    · rw [Function.update_of_ne hji] at hj ⊢
      exact h.payloads j p hj

/-- Nothing is unsent. -/
theorem of_sent (hr : (receives C).length ≤ n) (hx : (executes C).length ≤ n)
    (hdistinct : ∀ i j, i ≠ j → ∀ a ∈ (slots i).held, a ∉ (slots j).held)
    (htensors : ∀ i, (slots i).tensors.Nodup)
    (hpayloads : ∀ i p, (slots i).payload = some p → p.tensors.Nodup ∧ ∀ a ∈ p.tensors,
      a ∉ (slots i).tensors) :
    Owned σ slots C n where
  payload k p hk hp := by
    have hlt := (List.getElem?_eq_some_iff.1 hp).1
    omega
  computed k p c hk hc := by
    have hlt := (List.getElem?_eq_some_iff.1 hc).1
    omega
  distinct := hdistinct
  tensors := htensors
  payloads := hpayloads

end Owned

/-! ## The invariant -/

/-- The slot's two graphs stand for its own memory. -/
def Slot.Replayable (s : Slot) : Prop :=
  ∃ p c, s.computeGraph = some [.dispatchRecv p, .executor p c] ∧
    s.sendGraph = some [.combineSend c.output p.tokenNumsRankidLayeridx] ∧
    s.payload = some p ∧ s.output = some c.output ∧ s.tensors = c.tensors

/-- The compute graph is captured, the send graph not yet. -/
def Slot.HalfCaptured (s : Slot) : Prop :=
  ∃ p c, s.computeGraph = some [.dispatchRecv p, .executor p c] ∧
    s.payload = some p ∧ s.output = some c.output ∧ s.tensors = c.tensors

namespace World

variable (w : World V)

/-- How many sends were enqueued. -/
def issued : Nat := (sends (w.commands .send)).length

/-- Every transaction was handed to both streams. -/
def Balanced : Prop :=
  (receives (w.commands .compute)).length = w.issued ∧ (executes (w.commands .compute)).length = w.issued

/-- The last send is the last command, and waits for the whole compute stream. -/
def Covered : Prop :=
  (w.host.slots w.host.last).done = some (w.device.record .send) ∧
    .waitEvent (w.device.record .compute) ∈ w.commands .send

/-- No transaction of the current slot is unsent. -/
def Sent (σ : Nat → Index) : Prop := ∀ k < w.issued, σ k = w.host.current → k < w.sent.length

/-- Where the host is in a round or a capture. -/
def Phase (σ : Nat → Index) : Pc → Prop
  | .idle => w.Balanced ∧ (w.host.pending = true → w.Covered)
  | .completes _ => w.Balanced ∧ w.Covered
  | .retires _ => w.Balanced ∧ w.host.pending = true
  | .waitsDone _ =>
    w.Balanced ∧ w.host.pending = true ∧ (w.host.slot.computeGraph = none → w.host.slot.Cleared ∧ w.Sent σ)
  | .receives _ =>
    w.Balanced ∧ w.host.pending = true ∧
      (w.host.slot.computeGraph = none → w.host.slot.Cleared ∧ w.Sent σ) ∧
      σ w.issued = w.host.current ∧ Guarded σ (w.commands .send) (w.commands .compute) w.issued
  | .executes _ =>
    (receives (w.commands .compute)).length = w.issued + 1 ∧
      (executes (w.commands .compute)).length = w.issued ∧
      w.host.pending = true ∧ (w.host.slot.computeGraph = none ∧ w.host.slot.tensors = [] ∧ w.Sent σ) ∧
      σ w.issued = w.host.current ∧ Guarded σ (w.commands .send) (w.commands .compute) w.issued
  | .handsOver _ =>
    (receives (w.commands .compute)).length = w.issued + 1 ∧
      (executes (w.commands .compute)).length = w.issued + 1 ∧
      w.host.pending = true ∧ σ w.issued = w.host.current
  | .sends _ =>
    (receives (w.commands .compute)).length = w.issued + 1 ∧
      (executes (w.commands .compute)).length = w.issued + 1 ∧
      w.host.pending = true ∧ σ w.issued = w.host.current ∧
      .waitEvent (w.device.record .compute) ∈ w.commands .send
  | .capturesCompute i =>
    w.Balanced ∧ w.host.pending = false ∧ (∀ j < i, (w.host.slots j).Replayable) ∧
      ∀ j, i ≤ j → (w.host.slots j).computeGraph = none
  | .capturesSend i =>
    w.Balanced ∧ w.host.pending = false ∧ (∀ j < i, (w.host.slots j).Replayable) ∧
      (w.host.slots i).HalfCaptured ∧
      ∀ j, i < j → (w.host.slots j).computeGraph = none

end World

/-- The current slot is in use by an open transaction. -/
def Pc.Opened : Pc → Prop
  | .executes _ | .handsOver _ | .sends _ => True
  | _ => False

def Pc.Capturing : Pc → Prop
  | .capturesCompute _ | .capturesSend _ => True
  | _ => False

/-- The host's own bookkeeping, while no call has raised and the owner is open. -/
structure Bookkeeping (σ : Nat → Index) (w : World V) : Prop where
  /-- A slot's `done` is behind every send that used it. -/
  marks : ∀ k < w.issued, (w.host.slots (σ k)).submitted = true ∧
    ∃ m, (w.host.slots (σ k)).done = some ⟨.send, m⟩ ∧ k < (sends ((w.commands .send).take m)).length
  /-- Either nothing was captured or both slots were. -/
  mode : ¬w.host.pc.Capturing →
    w.host.captureCount = 0 ∧ (∀ i, (w.host.slots i).computeGraph = none) ∨
      w.host.captureCount ≠ 0 ∧ ∀ i, (w.host.slots i).Replayable
  /-- Eager slots are empty before their first round and between batches. -/
  cleared : ∀ i, (w.host.slots i).computeGraph = none →
    (w.host.slots i).submitted = false ∨ w.host.pending = false →
    ¬(i = w.host.current ∧ w.host.pc.Opened) → (w.host.slots i).Cleared
  phase : w.Phase σ w.host.pc

/-- What the device has done so far. -/
structure Carried (e : Kernels V) (w : World V) : Prop where
  received : w.received = (receives (w.device.past .compute)).length
  sent : w.sent.length = (sends (w.device.past .send)).length
  payload : ∀ k p, (receives (w.device.past .compute))[k]? = some p → w.sent.length ≤ k →
    p.tensors.map w.memory = (e.source k).tensors
  computed : ∀ k p c, (executes (w.device.past .compute))[k]? = some (p, c) → w.sent.length ≤ k →
    c.tensors.map w.memory = (e.executor (e.source k)).tensors
  log : ∀ k x, w.sent[k]? = some x →
    x = ((e.executor (e.source k)).output, (e.source k).tokenNumsRankidLayeridx)

structure Inv (e : Kernels V) (σ : Nat → Index) (w : World V) : Prop where
  ordered : w.device.Ordered
  script : Script σ (w.commands .compute) (w.commands .send)
  owned : Owned σ w.host.slots (w.commands .compute) w.sent.length
  carried : Carried e w
  drained : w.host.pending = false → w.device.Drained
  books : w.host.Live → Bookkeeping σ w

theorem inv_start (m : Address → V) : Inv e σ (.start m) where
  ordered := ⟨fun _ => Nat.le_refl _, by simp [World.start], by simp [World.start, Device.past]⟩
  script := ⟨each_nil, each_nil⟩
  owned := .of_sent (Nat.le_refl _) (Nat.le_refl _)
    (by simp [World.start, Host.start, Slot.fresh, Slot.held]) (fun _ => List.nodup_nil)
    (by simp [World.start, Host.start, Slot.fresh])
  carried := ⟨rfl, rfl, by simp [World.start, Device.past, receives],
    by simp [World.start, Device.past, executes], by simp [World.start]⟩
  drained _ _ := rfl
  books _ :=
    { marks := by simp [World.issued, World.commands, World.start, sends]
      mode _ := .inl ⟨rfl, fun _ => rfl⟩
      cleared _ _ _ _ := rfl
      phase := ⟨⟨rfl, rfl⟩, by simp [World.start, Host.start]⟩ }

end AfdPlugin.AsyncFfnTwoStream
