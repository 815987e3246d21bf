import AfdPlugin.Worker.TwoStreamHost

/-! Slot safety: whatever the order in which the device completes its work, what a
slot received and computed stays as it is until it was sent. -/

namespace AfdPlugin.AsyncFfnTwoStream

open Streams

variable {V : Type} {e : Kernels V} {σ : Nat → Index} {w v : World V}

/-! ## Memory -/

theorem store_of_notMem {a : Address} {as : List Address} (ha : a ∉ as) (m : Address → V) (vs : List V) :
    store m as vs a = m a := by
  induction as generalizing vs with
  | nil => rfl
  | cons b as ih =>
    cases vs with
    | nil => rfl
    | cons x vs =>
      rw [store, Function.update_of_ne (List.ne_of_not_mem_cons ha)]
      exact ih (fun h => ha (List.mem_cons_of_mem _ h)) vs

theorem map_store {as : List Address} (has : as.Nodup) (m : Address → V) {vs : List V}
    (hlen : as.length = vs.length) :
    as.map (store m as vs) = vs := by
  induction as generalizing vs with
  | nil => exact (List.length_eq_zero_iff.1 hlen.symm).symm
  | cons b as ih =>
    cases vs with
    | nil => cases hlen
    | cons x vs =>
      obtain ⟨hb, has⟩ := List.nodup_cons.1 has
      rw [List.map_cons, store, Function.update_self]
      congr 1
      refine Eq.trans ?_ (ih has (Nat.succ.inj hlen))
      apply List.map_congr_left
      intro a ha
      rw [Function.update_of_ne (ne_of_mem_of_not_mem ha hb)]

theorem map_eq_of_tensors {p : Payload Address} {x : Payload V} {m : Address → V}
    (h : p.tensors.map m = x.tensors) :
    p.map m = x := by
  simp only [Payload.tensors, List.map_cons, List.map_nil, List.cons.injEq, and_true] at h
  obtain ⟨h1, h2, h3, h4⟩ := h
  rw [Payload.map, h1, h2, h3, h4]

/-! ## The device -/

namespace Inv

theorem compute_rule (h : Inv e σ w) {c : Cmd} (hnext : w.device.next .compute = some c) :
    ComputeRule σ (w.commands .send) (w.device.past .compute) c := by
  obtain ⟨post, heq⟩ := Device.next_eq hnext
  exact h.script.compute _ _ _ heq

theorem send_rule (h : Inv e σ w) {c : Cmd} (hnext : w.device.next .send = some c) :
    SendRule (w.commands .compute) (w.device.past .send) c := by
  obtain ⟨post, heq⟩ := Device.next_eq hnext
  exact h.script.send _ _ _ heq

/-- The compute stream has passed its wait, so the slot's earlier transactions are sent. -/
theorem sent_of_guarded (h : Inv e σ w) {r : Nat}
    (hg : Guarded σ (w.commands .send) (w.device.past .compute) r) :
    ∀ k < r, σ k = σ r → k < w.sent.length := by
  intro k hk hσ
  obtain ⟨m, hm, hlt⟩ := hg k hk hσ
  have hle : m ≤ (w.device .send).completed := h.ordered.waited .compute _ hm
  rw [h.carried.sent]
  exact hlt.trans_le (length_filterMap_of_isPrefix (List.take_prefix_take_left hle))

theorem executes_le_receives (h : Inv e σ w) :
    (executes (w.device.past .compute)).length ≤ (receives (w.device.past .compute)).length := by
  have heach := h.script.compute.of_isPrefix (w.device.past_isPrefix .compute)
  rcases Nat.eq_zero_or_pos (executes (w.device.past .compute)).length with h0 | hpos
  · omega
  · have hlast := List.getElem?_eq_getElem (Nat.sub_lt hpos Nat.one_pos)
    have := (List.getElem?_eq_some_iff.1 (receive_of_execute heach (p := _) (c := _) hlast)).1
    omega

theorem sent_le_executes (h : Inv e σ w) : w.sent.length ≤ (executes (w.device.past .compute)).length := by
  rcases Nat.eq_zero_or_pos w.sent.length with h0 | hpos
  · omega
  · rw [h.carried.sent] at hpos
    obtain ⟨pre, x, post, heq, hx, hlen⟩ :=
      split_of_getElem?_filterMap (List.getElem?_eq_getElem (Nat.sub_lt hpos Nat.one_pos))
    have hrule := h.script.send.of_isPrefix (w.device.past_isPrefix .send) pre x post heq
    match x, hx with
    | .kernel (.combineSend ..), _ =>
      obtain ⟨m, p, c, hm, hc, -⟩ := hrule
      have hle : m ≤ (w.device .compute).completed :=
        h.ordered.waited .send ⟨.compute, m⟩ (heq ▸ List.mem_append_left _ hm)
      have hget := getElem?_filterMap_of_isPrefix (List.take_prefix_take_left hle) hc
      have hlt := (List.getElem?_eq_some_iff.1 hget).1
      have hpre : (sends pre).length = (sends (w.device.past .send)).length - 1 := hlen
      rw [h.carried.sent]
      change (sends pre).length < (executes (w.device.past .compute)).length at hlt
      omega

/-- What a send that is about to run reads was computed. -/
theorem computed_of_send (h : Inv e σ w) {o i : Address}
    (hnext : w.device.next .send = some (.kernel (.combineSend o i))) :
    ∃ p c, (executes (w.device.past .compute))[w.sent.length]? = some (p, c) ∧
      (receives (w.device.past .compute))[w.sent.length]? = some p ∧ o = c.output ∧
        i = p.tokenNumsRankidLayeridx := by
  obtain ⟨m, p, c, hm, hc, ho, hi⟩ := h.send_rule hnext
  have hle : m ≤ (w.device .compute).completed := h.ordered.waited .send _ hm
  rw [← h.carried.sent] at hc
  have hx := getElem?_filterMap_of_isPrefix (List.take_prefix_take_left hle) hc
  exact ⟨p, c, hx,
    receive_of_execute (h.script.compute.of_isPrefix (w.device.past_isPrefix .compute)) hx, ho, hi⟩

/-! ## What a running kernel writes -/

theorem footprint_held (h : Inv e σ w) {k : Nat} (hk : w.sent.length ≤ k) {a : Address}
    (ha : a ∈ w.footprint k) :
    a ∈ (w.host.slots (σ k)).held := by
  rw [World.footprint, List.mem_append] at ha
  rcases ha with ha | ha
  · cases hp : (receives (w.commands .compute))[k]? with
    | none => simp [hp] at ha
    | some p =>
      rw [hp] at ha
      simp only [Slot.held, h.owned.payload k p hk hp, List.mem_append]
      exact .inl (.inl ha)
  · cases hx : (executes (w.commands .compute))[k]? with
    | none => simp [hx] at ha
    | some x =>
      rw [hx] at ha
      simp only [Slot.held, (h.owned.computed k x.1 x.2 hk hx).2, List.mem_append]
      exact .inr ha

/-- The number of the transaction a kernel of the compute stream works for. -/
def number (past : List Cmd) : Kernel → Nat
  | .dispatchRecv _ => (receives past).length
  | .executor .. => (executes past).length
  | .combineSend .. => 0

theorem guarded_next (h : Inv e σ w) {c : Kernel} (hnext : w.device.next .compute = some (.kernel c)) :
    Guarded σ (w.commands .send) (w.device.past .compute) (number (w.device.past .compute) c) := by
  have hrule := h.compute_rule hnext
  match c, hrule with
  | .dispatchRecv _, hrule => exact hrule.2
  | .executor .., hrule => exact hrule.2.2

theorem sent_le_number (h : Inv e σ w) {c : Kernel} (hnext : w.device.next .compute = some (.kernel c)) :
    w.sent.length ≤ number (w.device.past .compute) c := by
  have hrule := h.compute_rule hnext
  match c, hrule with
  | .dispatchRecv _, _ => exact h.sent_le_executes.trans h.executes_le_receives
  | .executor .., _ => exact h.sent_le_executes

theorem writes_held (h : Inv e σ w) {c : Kernel} (hnext : w.device.next .compute = some (.kernel c))
    {a : Address} (ha : a ∈ c.writes) :
    a ∈ (w.host.slots (σ (number (w.device.past .compute) c))).held := by
  obtain ⟨post, heq⟩ := Device.next_eq hnext
  refine h.footprint_held (h.sent_le_number hnext) ?_
  rw [World.footprint, List.mem_append]
  match c, ha with
  | .dispatchRecv p, ha =>
    have hp : (receives (w.commands .compute))[(receives (w.device.past .compute)).length]? = some p :=
      getElem?_filterMap_of_split heq rfl
    rw [number, hp]
    exact .inl ha
  | .executor p x, ha =>
    have hx : (executes (w.commands .compute))[(executes (w.device.past .compute)).length]? = some (p, x) :=
      getElem?_filterMap_of_split heq rfl
    rw [number, hx]
    exact .inr ha

/-- A kernel never writes to what an earlier transaction still has to send. -/
theorem apart (h : Inv e σ w) {c : Kernel} (hnext : w.device.next .compute = some (.kernel c)) {k : Nat}
    (hk : k < number (w.device.past .compute) c) (hsent : w.sent.length ≤ k) {a : Address}
    (ha : a ∈ w.footprint k) :
    a ∉ c.writes := by
  intro hw
  by_cases hσ : σ k = σ (number (w.device.past .compute) c)
  · have := h.sent_of_guarded (h.guarded_next hnext) k hk hσ
    omega
  · exact h.owned.distinct _ _ hσ a (h.footprint_held hsent ha) (h.writes_held hnext hw)

theorem mem_footprint_payload {k : Nat} {p : Payload Address}
    (hp : (receives (w.device.past .compute))[k]? = some p) {a : Address} (ha : a ∈ p.tensors) :
    a ∈ w.footprint k := by
  have hp' : (receives (w.commands .compute))[k]? = some p :=
    getElem?_filterMap_of_isPrefix (w.device.past_isPrefix .compute) hp
  rw [World.footprint, hp', List.mem_append]
  exact .inl ha

theorem mem_footprint_computed {k : Nat} {p : Payload Address} {c : Computed Address}
    (hc : (executes (w.device.past .compute))[k]? = some (p, c)) {a : Address} (ha : a ∈ c.tensors) :
    a ∈ w.footprint k := by
  have hc' : (executes (w.commands .compute))[k]? = some (p, c) :=
    getElem?_filterMap_of_isPrefix (w.device.past_isPrefix .compute) hc
  rw [World.footprint, hc', List.mem_append]
  exact .inr ha

/-- What was received and computed and is still to be sent is not touched by the
kernel of the compute stream. -/
theorem untouched (h : Inv e σ w) {c : Kernel} (hnext : w.device.next .compute = some (.kernel c))
    {m : Address → V} (hm : ∀ a ∉ c.writes, m a = w.memory a) :
    (∀ k p, (receives (w.device.past .compute))[k]? = some p → w.sent.length ≤ k →
      p.tensors.map m = (e.source k).tensors) ∧
      ∀ k p x, (executes (w.device.past .compute))[k]? = some (p, x) → w.sent.length ≤ k →
        x.tensors.map m = (e.executor (e.source k)).tensors := by
  have hrule := h.compute_rule hnext
  refine ⟨fun k p hp hk => ?_, fun k p x hx hk => ?_⟩
  · rw [← h.carried.payload k p hp hk]
    apply List.map_congr_left
    intro a ha
    refine hm a fun hw => ?_
    have hlt := (List.getElem?_eq_some_iff.1 hp).1
    by_cases hlast : k < number (w.device.past .compute) c
    · exact h.apart hnext hlast hk (mem_footprint_payload hp ha) hw
    · match c, hrule with
      | .dispatchRecv _, _ => exact hlast hlt
      | .executor q x, ⟨_, hlen, _⟩ =>
        -- the executor's own payload, which shares no memory with its results
        obtain rfl : k = (executes (w.device.past .compute)).length := by
          simp only [number] at hlast
          omega
        obtain ⟨post, heq⟩ := Device.next_eq hnext
        have hx : (executes (w.commands .compute))[(executes (w.device.past .compute)).length]? =
            some (q, x) :=
          getElem?_filterMap_of_split heq rfl
        have hp' : (receives (w.commands .compute))[(executes (w.device.past .compute)).length]? = some p :=
          getElem?_filterMap_of_isPrefix (w.device.past_isPrefix .compute) hp
        have hpayload := h.owned.payload _ _ hk hp'
        have htensors := (h.owned.computed _ _ _ hk hx).2
        exact (h.owned.payloads _ p hpayload).2 a ha (htensors ▸ hw)
  · rw [← h.carried.computed k p x hx hk]
    apply List.map_congr_left
    intro a ha
    refine hm a fun hw => h.apart hnext ?_ hk (mem_footprint_computed hx ha) hw
    have hlt := (List.getElem?_eq_some_iff.1 hx).1
    match c, hrule with
    | .dispatchRecv _, ⟨hlen, _⟩ => exact hlt.trans_eq hlen.symm
    | .executor .., _ => exact hlt

end Inv

/-- The device only ever gets further; where the host is stays true. -/
theorem World.Phase.later {pc : Pc} (h : w.Phase σ pc) (hhost : v.host = w.host)
    (hcommands : v.commands = w.commands) (hsent : w.sent.length ≤ v.sent.length) : v.Phase σ pc := by
  have hissued : v.issued = w.issued := by rw [World.issued, hcommands, World.issued]
  have hrecord : v.device.record = w.device.record := by
    funext q
    exact congrArg (fun l : List Cmd => (⟨q, l.length⟩ : Event Queue)) (congrFun hcommands q)
  have hbalanced : v.Balanced ↔ w.Balanced := by rw [World.Balanced, hissued, hcommands, World.Balanced]
  have hcovered : v.Covered ↔ w.Covered := by rw [World.Covered, hhost, hrecord, hcommands, World.Covered]
  have hslot : w.Sent σ → v.Sent σ := fun hs k hk hσ => by
    rw [hissued] at hk
    rw [hhost] at hσ
    exact (hs k hk hσ).trans_le hsent
  cases pc with
  | idle =>
    rw [World.Phase, hbalanced, hcovered, hhost]
    exact h
  | completes =>
    rw [World.Phase, hbalanced, hcovered]
    exact h
  | retires =>
    rw [World.Phase, hbalanced, hhost]
    exact h
  | waitsDone =>
    rw [World.Phase, hbalanced, hhost]
    exact ⟨h.1, h.2.1, fun hg => (h.2.2 hg).imp_right hslot⟩
  | receives =>
    rw [World.Phase, hbalanced, hhost, hissued, hcommands]
    exact ⟨h.1, h.2.1, fun hg => (h.2.2.1 hg).imp_right hslot, h.2.2.2⟩
  | executes =>
    rw [World.Phase, hhost, hissued, hcommands]
    obtain ⟨hr, hx, hp, ⟨hg, ht, hs⟩, hrest⟩ := h
    exact ⟨hr, hx, hp, ⟨hg, ht, hslot hs⟩, hrest⟩
  | handsOver =>
    rw [World.Phase, hhost, hissued, hcommands]
    exact h
  | sends =>
    rw [World.Phase, hhost, hissued, hcommands, hrecord]
    exact h
  | capturesCompute =>
    rw [World.Phase, hbalanced, hhost]
    exact h
  | capturesSend =>
    rw [World.Phase, hbalanced, hhost]
    exact h

namespace Inv

theorem of_device (h : Inv e σ w) (hhost : v.host = w.host) (hcommands : v.commands = w.commands)
    (hsent : w.sent.length ≤ v.sent.length) (hordered : v.device.Ordered) (hcarried : Carried e v)
    (hpending : w.host.pending = true) : Inv e σ v where
  ordered := hordered
  script := hcommands ▸ h.script
  owned := by
    rw [hhost, hcommands]
    exact h.owned.later hsent
  carried := hcarried
  drained hp := by simp [hhost, hpending] at hp
  books hl := by
    have hb := h.books (hhost ▸ hl)
    have hissued : v.issued = w.issued := by rw [World.issued, hcommands, World.issued]
    refine ⟨?_, ?_, ?_, ?_⟩
    · rw [hissued, hcommands, hhost]
      exact hb.marks
    · rw [hhost]
      exact hb.mode
    · rw [hhost]
      exact hb.cleared
    · rw [hhost]
      exact hb.phase.later hhost hcommands hsent

theorem pending_of_next (h : Inv e σ w) {q : Queue} {c : Cmd} (hnext : w.device.next q = some c) :
    w.host.pending = true := by
  by_contra hp
  have hlt := (List.getElem?_eq_some_iff.1 hnext).1
  rw [h.drained (Bool.eq_false_of_not_eq_true hp) q] at hlt
  exact Nat.lt_irrefl _ hlt

theorem of_begins (h : Inv e σ w) {q : Queue} {c : Kernel} {m : Address → V}
    (hnext : w.device.next q = some (.kernel c)) (hm : ∀ a ∉ c.writes, m a = w.memory a) :
    Inv e σ { w with device := w.device.launch q, memory := m } := by
  refine h.of_device rfl (by funext r; exact launch_commands q r) le_rfl (h.ordered.launch hnext) ?_
    (h.pending_of_next hnext)
  have hpast : ∀ r, (w.device.launch q).past r = w.device.past r := launch_past q
  have hkeeps : (∀ k p, (receives (w.device.past .compute))[k]? = some p → w.sent.length ≤ k →
      p.tensors.map m = (e.source k).tensors) ∧
      ∀ k p x, (executes (w.device.past .compute))[k]? = some (p, x) → w.sent.length ≤ k →
        x.tensors.map m = (e.executor (e.source k)).tensors := by
    cases q with
    | compute => exact h.untouched hnext hm
    | send =>
      match c, h.send_rule hnext with
      | .combineSend .., _ =>
        obtain rfl : m = w.memory := by
          funext a
          exact hm a List.not_mem_nil
        exact ⟨h.carried.payload, h.carried.computed⟩
  constructor
  · exact (hpast .compute).symm ▸ h.carried.received
  · exact (hpast .send).symm ▸ h.carried.sent
  · rw [hpast]
    exact hkeeps.1
  · rw [hpast]
    exact hkeeps.2
  · exact h.carried.log

theorem of_passes (h : Inv e σ w) {q : Queue} {x : Event Queue}
    (hnext : w.device.next q = some (.waitEvent x)) (hdone : w.device.Done x) :
    Inv e σ { w with device := w.device.advance q } := by
  refine h.of_device rfl (by funext r; exact advance_commands q r) le_rfl ?_ ?_ (h.pending_of_next hnext)
  · exact h.ordered.advance hnext fun y hy => by
      obtain rfl := Command.waitEvent.inj hy
      exact hdone
  · have hreceives : receives ((w.device.advance q).past .compute) = receives (w.device.past .compute) := by
      cases q with
      | compute => rw [advance_past hnext, receives_append]; exact List.append_nil _
      | send => rw [advance_past_other (by simp)]
    have hexecutes : executes ((w.device.advance q).past .compute) = executes (w.device.past .compute) := by
      cases q with
      | compute => rw [advance_past hnext, executes_append]; exact List.append_nil _
      | send => rw [advance_past_other (by simp)]
    have hsends : sends ((w.device.advance q).past .send) = sends (w.device.past .send) := by
      cases q with
      | compute => rw [advance_past_other (by simp)]
      | send => rw [advance_past hnext, sends_append]; exact List.append_nil _
    constructor
    · rw [hreceives]
      exact h.carried.received
    · rw [hsends]
      exact h.carried.sent
    · rw [hreceives]
      exact h.carried.payload
    · rw [hexecutes]
      exact h.carried.computed
    · exact h.carried.log

/-- A receive is complete. -/
theorem of_received (h : Inv e σ w) {p : Payload Address}
    (hnext : w.device.next .compute = some (.kernel (.dispatchRecv p))) :
    Inv e σ { Kernel.run e w (.dispatchRecv p) with device := w.device.advance .compute } := by
  refine h.of_device rfl (by funext r; exact advance_commands .compute r) le_rfl
    (h.ordered.advance hnext nofun) ?_ (h.pending_of_next hnext)
  have hpast := advance_past hnext
  have hsend : (w.device.advance .compute).past .send = w.device.past .send := advance_past_other (by simp)
  obtain ⟨hpayloads, hcomputed⟩ := h.untouched hnext
    (m := store w.memory p.tensors (e.source w.received).tensors) fun a ha => store_of_notMem ha ..
  constructor
  · rw [hpast, receives_append, List.length_append, ← h.carried.received]
    rfl
  · rw [hsend]
    exact h.carried.sent
  · rw [hpast, receives_append, receives_dispatchRecv]
    intro k p' hp' hk
    rcases lt_or_eq_of_le
      (Nat.le_of_lt_succ (by simpa using (List.getElem?_eq_some_iff.1 hp').1)) with hlt | rfl
    · rw [List.getElem?_append_left hlt] at hp'
      exact hpayloads k p' hp' hk
    · rw [List.getElem?_concat_length] at hp'
      obtain rfl := Option.some.inj hp'
      obtain ⟨post, heq⟩ := Device.next_eq hnext
      have hget : (receives (w.commands .compute))[(receives (w.device.past .compute)).length]? = some p :=
        getElem?_filterMap_of_split heq rfl
      have hnodup := (h.owned.payloads _ p (h.owned.payload _ _ hk hget)).1
      rw [← h.carried.received]
      exact map_store hnodup _ rfl
  · rw [hpast, executes_append, executes_dispatchRecv, List.append_nil]
    exact hcomputed
  · exact h.carried.log

/-- The executor is complete: it read what its transaction received. -/
theorem of_executed (h : Inv e σ w) {p : Payload Address} {c : Computed Address}
    (hnext : w.device.next .compute = some (.kernel (.executor p c))) :
    Inv e σ { Kernel.run e w (.executor p c) with device := w.device.advance .compute } := by
  refine h.of_device rfl (by funext r; exact advance_commands .compute r) le_rfl
    (h.ordered.advance hnext nofun) ?_ (h.pending_of_next hnext)
  have hpast := advance_past hnext
  have hsend : (w.device.advance .compute).past .send = w.device.past .send := advance_past_other (by simp)
  obtain ⟨hpayloads, hcomputed⟩ := h.untouched hnext
    (m := store w.memory c.tensors (e.executor (p.map w.memory)).tensors) fun a ha =>
    store_of_notMem ha ..
  obtain ⟨hget, -, -⟩ := h.compute_rule hnext
  constructor
  · rw [hpast, receives_append, receives_executor, List.append_nil]
    exact h.carried.received
  · rw [hsend]
    exact h.carried.sent
  · rw [hpast, receives_append, receives_executor, List.append_nil]
    exact hpayloads
  · rw [hpast, executes_append, executes_executor]
    intro k p' c' hc' hk
    rcases lt_or_eq_of_le
      (Nat.le_of_lt_succ (by simpa using (List.getElem?_eq_some_iff.1 hc').1)) with hlt | rfl
    · rw [List.getElem?_append_left hlt] at hc'
      exact hcomputed k p' c' hc' hk
    · rw [List.getElem?_concat_length] at hc'
      obtain ⟨-, rfl⟩ := Prod.mk.inj (Option.some.inj hc')
      obtain ⟨post, heq⟩ := Device.next_eq hnext
      have hx : (executes (w.commands .compute))[(executes (w.device.past .compute)).length]? =
          some (p, c) :=
        getElem?_filterMap_of_split heq rfl
      have hnodup : c.tensors.Nodup := (h.owned.computed _ _ _ hk hx).2 ▸ h.owned.tensors _
      rw [← map_eq_of_tensors (h.carried.payload _ p hget hk)]
      exact map_store hnodup _ rfl
  · exact h.carried.log

/-- A send is complete: it carried the output of its own receive. -/
theorem of_combined (h : Inv e σ w) {o i : Address}
    (hnext : w.device.next .send = some (.kernel (.combineSend o i))) :
    Inv e σ { Kernel.run e w (.combineSend o i) with device := w.device.advance .send } := by
  refine h.of_device rfl (by funext r; exact advance_commands .send r) (by simp [Kernel.run])
    (h.ordered.advance hnext nofun) ?_ (h.pending_of_next hnext)
  have hpast := advance_past hnext
  have hcompute : (w.device.advance .send).past .compute = w.device.past .compute :=
    advance_past_other (by simp)
  have hle : w.sent.length ≤ (w.sent ++ [(w.memory o, w.memory i)]).length := by simp
  constructor
  · rw [hcompute]
    exact h.carried.received
  · rw [hpast, sends_append, List.length_append, ← h.carried.sent]
    exact List.length_append
  · rw [hcompute]
    exact fun k p hp hk => h.carried.payload k p hp (hle.trans hk)
  · rw [hcompute]
    exact fun k p c hc hk => h.carried.computed k p c hc (hle.trans hk)
  · intro k x hx
    rcases lt_or_eq_of_le
      (Nat.le_of_lt_succ (by simpa [Kernel.run] using (List.getElem?_eq_some_iff.1 hx).1)) with hlt |
      rfl
    · exact h.carried.log k x ((List.getElem?_append_left hlt).symm.trans hx)
    · obtain ⟨p, c, hc, hp, rfl, rfl⟩ := h.computed_of_send hnext
      have hpayload := h.carried.payload _ p hp le_rfl
      have hcomputed := h.carried.computed _ p c hc le_rfl
      simp only [Payload.tensors, Computed.tensors, List.map_cons, List.map_nil,
        List.cons.injEq] at hpayload hcomputed
      rw [← hcomputed.2.2.2.1, ← hpayload.2.2.1]
      exact Option.some.inj (hx.symm.trans List.getElem?_concat_length)

end Inv

theorem DeviceStep.inv (hs : DeviceStep e w v) (h : Inv e σ w) : Inv e σ v := by
  cases hs with
  | begins hnext hidle hm => exact h.of_begins hnext hm
  | passes hnext hdone => exact h.of_passes hnext hdone
  | @finishes q c hnext hbusy =>
    cases q with
    | compute =>
      match c, h.compute_rule hnext with
      | .dispatchRecv _, _ => exact h.of_received hnext
      | .executor .., _ => exact h.of_executed hnext
    | send =>
      match c, h.send_rule hnext with
      | .combineSend .., _ => exact h.of_combined hnext

@[simp] theorem Kernel.run_host (c : Kernel) : (c.run e w).host = w.host := by cases c <;> rfl

theorem Reachable.inv (h : Reachable e w) : (w.host.pc ≠ .idle → w.host.Live) ∧ ∃ σ, Inv e σ w := by
  induction h with
  | start m => exact ⟨fun hne => absurd rfl hne, fun _ => 0, inv_start m⟩
  | step _ hs ih =>
    obtain ⟨hactive, σ, hinv⟩ := ih
    cases hs with
    | device hd =>
      refine ⟨?_, σ, hd.inv hinv⟩
      cases hd with
      | finishes => simpa using hactive
      | begins | passes => exact hactive
    | host hh => exact ⟨hh.active hactive, hh.inv hinv hactive⟩

/-- What the `k`-th receive brought, once it is complete, is in its tensors, and
what was computed from it, once that is complete, in those of the executor. -/
def World.Intact (e : Kernels V) (w : World V) (k : Nat) : Prop :=
  (∀ p, (receives (w.device.past .compute))[k]? = some p → p.tensors.map w.memory = (e.source k).tensors) ∧
    ∀ p c, (executes (w.device.past .compute))[k]? = some (p, c) →
      c.tensors.map w.memory = (e.executor (e.source k)).tensors

/-- After any calls and with the device anywhere in its work: until the `k`-th
send is complete, the memory of the `k`-th receive is referred to, is intact,
and no kernel of a later one writes to it; the `k`-th send carries what was
computed from the `k`-th receive; and between `complete` and the next `submit`
nothing is left on either stream. -/
theorem two_stream_slot_safety (h : Reachable e w) :
    (∀ k, w.sent.length ≤ k → w.Intact e k ∧
      ∀ a ∈ w.footprint k, w.host.held a ∧ ∀ r, k < r → ¬w.Writes r a) ∧
    (∀ k x, w.sent[k]? = some x →
      x = ((e.executor (e.source k)).output, (e.source k).tokenNumsRankidLayeridx)) ∧
    (w.host.pending = false → w.device.Drained) := by
  obtain ⟨-, σ, hinv⟩ := h.inv
  refine ⟨fun k hk =>
    ⟨⟨fun p hp => ?_, fun p c hc => ?_⟩, fun a ha => ⟨⟨_, hinv.footprint_held hk ha⟩, ?_⟩⟩,
    hinv.carried.log, hinv.drained⟩
  · exact hinv.carried.payload k p hp hk
  · exact hinv.carried.computed k p c hc hk
  · rintro r hr ⟨q, c, -, hnext, hw, hnumber⟩
    cases q with
    | compute =>
      match c, hnumber with
      | .dispatchRecv _, hnumber => exact hinv.apart hnext (hr.trans_eq hnumber) hk ha hw
      | .executor .., hnumber => exact hinv.apart hnext (hr.trans_eq hnumber) hk ha hw
    | send =>
      match c, hinv.send_rule hnext with
      | .combineSend .., _ => cases hw

/-- One eager round up to its executor. -/
theorem two_stream_slot_safety_eager :
    ∃ w : World Nat, w.footprint 0 = [0, 1, 2, 3, 4, 5, 6, 7] ∧ ∀ a ∈ w.footprint 0, w.host.held a := by
  have h : Reachable ⟨fun k => ⟨k, k, k, k⟩, fun p => ⟨p.hiddenStates, 0, 0, 0⟩⟩
    (World.start fun _ => (0 : Nat)) := .start _
  replace h := h.step (.host (.calls (c := .submit 1) rfl rfl))
  replace h := h.step (.host (.retires rfl nofun))
  replace h := h.step (.host (.waitsDone rfl))
  replace h := h.step (.host (.receives (p := ⟨0, 1, 2, 3⟩) rfl rfl ⟨by decide, fun a _ ⟨i, hi⟩ =>
    match i, hi with
    | 0, hi | 1, hi => List.not_mem_nil hi⟩))
  replace h := h.step (.host (.executes (c := ⟨4, 5, 6, 7⟩) rfl rfl ⟨by decide, fun a ha ⟨i, hi⟩ =>
    match i, hi with
    | 0, hi => (by decide : ∀ a ∈ [4, 5, 6, 7], a ∉ [0, 1, 2, 3]) a ha hi
    | 1, hi => List.not_mem_nil hi⟩))
  exact ⟨_, rfl, fun a ha => (((two_stream_slot_safety h).1 0 (Nat.le_refl _)).2 a ha).1⟩

end AfdPlugin.AsyncFfnTwoStream
