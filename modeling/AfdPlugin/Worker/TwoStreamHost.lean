import AfdPlugin.Worker.TwoStreamInvariant

/-! Whatever the host does next, the invariant of the two streams is kept. -/

namespace AfdPlugin.AsyncFfnTwoStream

open Streams

variable {V : Type} {e : Kernels V} {σ : Nat → Index} {w v : World V}

section Updates

variable (w)

@[simp] theorem goes_device (s : Slot) (pc : Pc) : (w.goes s pc).device = w.device := rfl
@[simp] theorem goes_sent (s : Slot) (pc : Pc) : (w.goes s pc).sent = w.sent := rfl
@[simp] theorem goes_commands (s : Slot) (pc : Pc) : (w.goes s pc).commands = w.commands := rfl
@[simp] theorem goes_issued (s : Slot) (pc : Pc) : (w.goes s pc).issued = w.issued := rfl
@[simp] theorem goes_pending (s : Slot) (pc : Pc) : (w.goes s pc).host.pending = w.host.pending := rfl
@[simp] theorem goes_pc (s : Slot) (pc : Pc) : (w.goes s pc).host.pc = pc := rfl
@[simp] theorem goes_current (s : Slot) (pc : Pc) : (w.goes s pc).host.current = w.host.current := rfl
@[simp] theorem goes_captureCount (s : Slot) (pc : Pc) :
    (w.goes s pc).host.captureCount = w.host.captureCount := rfl

@[simp] theorem goes_slots (s : Slot) (pc : Pc) :
    (w.goes s pc).host.slots = Function.update w.host.slots w.host.current s := rfl

@[simp] theorem goes_slot (s : Slot) (pc : Pc) : (w.goes s pc).host.slot = s := by
  simp [Host.slot]

@[simp] theorem enqueue_host (q : Queue) (cs : List Cmd) : (w.enqueue q cs).host = w.host := rfl
@[simp] theorem enqueue_sent (q : Queue) (cs : List Cmd) : (w.enqueue q cs).sent = w.sent := rfl
@[simp] theorem enqueue_device (q : Queue) (cs : List Cmd) :
    (w.enqueue q cs).device = w.device.enqueue q cs := rfl

@[simp] theorem enqueue_commands (q : Queue) (cs : List Cmd) :
    (w.enqueue q cs).commands q = w.commands q ++ cs := by
  simp [World.commands]

@[simp] theorem enqueue_commands_other {q r : Queue} (h : r ≠ q) (cs : List Cmd) :
    (w.enqueue q cs).commands r = w.commands r := by
  simp [World.commands, h]

@[simp] theorem enqueue_issued (cs : List Cmd) : (w.enqueue .compute cs).issued = w.issued := by
  simp [World.issued]

@[simp] theorem enqueue_sent' (σ : Nat → Index) (cs : List Cmd) :
    (w.enqueue .compute cs).Sent σ ↔ w.Sent σ := by
  simp [World.Sent]

end Updates

/-- `(sequence + 1 - 1) % 2`. -/
theorem last_succ (n : Nat) : (Fin.ofNat 2 (n + 1) : Index) - 1 = Fin.ofNat 2 n := by
  apply Fin.ext
  simp only [Fin.ofNat, Fin.sub_def]
  omega

theorem lt_one_of_ne {j : Index} : j ≠ 1 → j < 1 := by
  revert j
  decide

theorem eq_zero_of_lt_one {j : Index} : j < 1 → j = 0 := by
  revert j
  decide

theorem pos_of_one_le {j : Index} : 1 ≤ j → 0 < j := by
  revert j
  decide

/-- A field that one slot keeps is kept by all. -/
theorem update_field {β : Type} (f : Slot → β) {slots : Index → Slot} {i : Index} {s : Slot}
    (hs : f s = f (slots i)) (j : Index) : f (Function.update slots i s j) = f (slots j) := by
  by_cases hj : j = i
  · rw [hj, Function.update_self, hs]
  · rw [Function.update_of_ne hj]

theorem commands_congr (h : v.device = w.device) : v.commands = w.commands := by
  funext q
  exact congrArg (fun d => (d q).commands) h

theorem Slot.retires_iff {s : Slot} : s.retires = true ↔ s.submitted = true ∧ s.computeGraph = none := by
  simp [retires, captured]

/-- What a call that does not raise has checked, and where it leaves the host. -/
theorem Host.call_cases {h h' : Host} {c : Host.Call} (hcall : h.call c = some h') :
    (h.Live ∧ h.pending = false ∧ ∃ n, h' = { h with pending := true, pc := .retires n }) ∨
      (h.Live ∧ h.pending = true ∧ ∃ wait, h' = h.goto (.completes wait)) ∨
      (h.Live ∧ h.pending = false ∧ h.captureCount = 0 ∧ h' = h.goto (.capturesCompute 0)) ∨
      h' = h ∨
      (h.Live ∧ h.pending = false ∧ h' = { h with
        slots := fun i => { (h.slots i).releaseTransaction with computeGraph := none, sendGraph := none }
        closed := true }) := by
  cases c with
  | submit count =>
    simp only [Host.call, Option.ite_none_left_eq_some, not_or, Decidable.not_not,
      Bool.not_eq_true] at hcall
    obtain ⟨⟨hlive, hpending, -⟩, heq⟩ := hcall
    exact .inl ⟨hlive, hpending, _, (Option.some.inj heq).symm⟩
  | complete wait =>
    simp only [Host.call, Option.ite_none_left_eq_some, not_or, Decidable.not_not,
      Bool.not_eq_false] at hcall
    obtain ⟨⟨hlive, hpending⟩, heq⟩ := hcall
    exact .inr (.inl ⟨hlive, hpending, wait, (Option.some.inj heq).symm⟩)
  | capture =>
    simp only [Host.call, Option.ite_none_left_eq_some, not_or, Decidable.not_not,
      Bool.not_eq_true] at hcall
    obtain ⟨⟨hlive, hpending, hcount⟩, heq⟩ := hcall
    exact .inr (.inr (.inl ⟨hlive, hpending, hcount, (Option.some.inj heq).symm⟩))
  | close receiverExited =>
    simp only [Host.call] at hcall
    split at hcall
    · exact .inr (.inr (.inr (.inl (Option.some.inj hcall).symm)))
    · simp only [Option.ite_none_left_eq_some, not_or, Decidable.not_not, Bool.not_eq_true] at hcall
      obtain ⟨⟨hlive, hpending, -⟩, heq⟩ := hcall
      exact .inr (.inr (.inr (.inr ⟨hlive, hpending, (Option.some.inj heq).symm⟩)))

theorem Carried.congr (h : Carried e w) (hpast : ∀ q, v.device.past q = w.device.past q)
    (hm : v.memory = w.memory) (hr : v.received = w.received) (hs : v.sent = w.sent) : Carried e v := by
  constructor
  · rw [hr, hpast]
    exact h.received
  · rw [hs, hpast]
    exact h.sent
  · rw [hpast, hs, hm]
    exact h.payload
  · rw [hpast, hs, hm]
    exact h.computed
  · rw [hs]
    exact h.log

theorem Carried.enqueue (h : Carried e w) (ho : w.device.Ordered) (q : Queue) (cs : List Cmd) :
    Carried e (w.enqueue q cs) :=
  h.congr (fun r => ho.enqueue_past q r cs) rfl rfl rfl

namespace Bookkeeping

/-- Before any capture. -/
theorem eager (hb : Bookkeeping σ w) (hpc : ¬w.host.pc.Capturing) {i : Index}
    (hg : (w.host.slots i).computeGraph = none) :
    w.host.captureCount = 0 ∧ ∀ i, (w.host.slots i).computeGraph = none := by
  rcases hb.mode hpc with h | ⟨-, h⟩
  · exact h
  · obtain ⟨p, c, hsome, -⟩ := h i
    cases hg.symm.trans hsome

theorem replayable (hb : Bookkeeping σ w) (hpc : ¬w.host.pc.Capturing) {i : Index} {g : List Kernel}
    (hg : (w.host.slots i).computeGraph = some g) : (w.host.slots i).Replayable := by
  rcases hb.mode hpc with ⟨-, h⟩ | ⟨-, h⟩
  · cases (h i).symm.trans hg
  · exact h i

/-- The host goes on within a round. -/
theorem opens (hb : Bookkeeping σ w) (hpc : ¬w.host.pc.Capturing) {q : Queue} {cs : List Cmd} {s : Slot}
    {pc : Pc} (hissued : (w.enqueue q cs).issued = w.issued)
    (hsubmitted : s.submitted = w.host.slot.submitted) (hdone : s.done = w.host.slot.done)
    (hgraph : s.computeGraph = w.host.slot.computeGraph)
    (hreplay : w.host.slot.Replayable → s.Replayable) (hopen : pc.Opened)
    (hphase : ((w.enqueue q cs).goes s pc).Phase σ pc) :
    Bookkeeping σ ((w.enqueue q cs).goes s pc) := by
  refine ⟨fun k hk => ?_, fun _ => ?_, fun i hg hs hi => ?_, hphase⟩
  · obtain ⟨hsub, m, hm, hlt⟩ := hb.marks k (hissued ▸ hk)
    rw [goes_slots, enqueue_host, update_field (·.submitted) hsubmitted, update_field (·.done) hdone,
      goes_commands]
    refine ⟨hsub, m, hm, hlt.trans_le ?_⟩
    by_cases hq : .send = q
    · rw [← hq, enqueue_commands]
      exact length_filterMap_of_isPrefix (take_isPrefix_append _ cs m)
    · rw [enqueue_commands_other w hq]
  · rcases hb.mode hpc with ⟨hcount, h⟩ | ⟨hcount, h⟩
    · refine .inl ⟨hcount, fun i => ?_⟩
      rw [goes_slots, enqueue_host, update_field (·.computeGraph) hgraph]
      exact h i
    · refine .inr ⟨hcount, fun i => ?_⟩
      by_cases hi : i = w.host.current
      · rw [goes_slots, enqueue_host, hi, Function.update_self]
        exact hreplay (h w.host.current)
      · rw [goes_slots, enqueue_host, Function.update_of_ne hi]
        exact h i
  · have hne : i ≠ w.host.current := fun h => hi ⟨h, hopen⟩
    rw [goes_slots, enqueue_host, Function.update_of_ne hne] at hg hs ⊢
    exact hb.cleared i hg hs fun h => hne h.1

end Bookkeeping

namespace Inv

/-- What a slot's `done` covers was sent, once that event is complete. -/
theorem sent_of_done (h : Inv e σ w) (hb : Bookkeeping σ w) {i : Index}
    (hdone : ∀ v ∈ (w.host.slots i).done, w.device.Done v) :
    ∀ k < w.issued, σ k = i → k < w.sent.length := by
  intro k hk hσ
  obtain ⟨-, m, hm, hlt⟩ := hb.marks k hk
  have hle : m ≤ (w.device .send).completed := hdone ⟨.send, m⟩ (hσ ▸ hm)
  have hsub : (w.commands .send).take m <+: w.device.past .send := List.take_prefix_take_left hle
  rw [h.carried.sent]
  exact hlt.trans_le (length_filterMap_of_isPrefix hsub)

theorem sent_le_issued (h : Inv e σ w) : w.sent.length ≤ w.issued := by
  rw [h.carried.sent]
  exact length_filterMap_of_isPrefix (w.device.past_isPrefix .send)

/-- Once everything is complete everything was sent. -/
theorem sent_of_drained (h : Inv e σ w) (hd : w.device.Drained) : w.sent.length = w.issued := by
  rw [h.carried.sent, hd.past]
  rfl

/-- A step of the host alone. -/
theorem of_host (h : Inv e σ w) (hdevice : v.device = w.device) (hm : v.memory = w.memory)
    (hr : v.received = w.received) (hs : v.sent = w.sent)
    (howned : Owned σ v.host.slots (w.commands .compute) w.sent.length)
    (hdrained : v.host.pending = false → w.device.Drained) (hb : v.host.Live → Bookkeeping σ v) :
    Inv e σ v where
  ordered := hdevice ▸ h.ordered
  script := by
    rw [commands_congr hdevice]
    exact h.script
  owned := by
    rw [commands_congr hdevice, hs]
    exact howned
  carried := h.carried.congr (fun q => by rw [hdevice]) hm hr hs
  drained hp := hdevice ▸ hdrained hp
  books := hb

/-- A step of the host that enqueues. -/
theorem of_enqueue (h : Inv e σ w) {σ' : Nat → Index} {q : Queue} {cs : List Cmd}
    (hdevice : v.device = w.device.enqueue q cs) (hm : v.memory = w.memory)
    (hr : v.received = w.received) (hs : v.sent = w.sent)
    (hscript : Script σ' (v.commands .compute) (v.commands .send))
    (howned : Owned σ' v.host.slots (v.commands .compute) w.sent.length)
    (hpending : v.host.pending = true) (hb : Bookkeeping σ' v) : Inv e σ' v where
  ordered := hdevice ▸ h.ordered.enqueue q cs
  script := hscript
  owned := hs ▸ howned
  carried := (h.carried.enqueue h.ordered q cs).congr (fun r => by rw [hdevice]; rfl) hm hr hs
  drained hp := by simp [hpending] at hp
  books _ := hb

/-- `release_transaction` of a slot whose transactions are all sent. -/
theorem owned_release (h : Inv e σ w) (hbal : w.Balanced) {i : Index}
    (hsent : ∀ k < w.issued, σ k = i → k < w.sent.length) :
    Owned σ (Function.update w.host.slots i (w.host.slots i).releaseTransaction) (w.commands .compute)
      w.sent.length := by
  apply h.owned.set
  · simp [Slot.held, Slot.releaseTransaction]
  · exact List.nodup_nil
  · simp [Slot.releaseTransaction]
  · intro k p hk hp
    have hlt := (List.getElem?_eq_some_iff.1 hp).1
    refine .inr ⟨fun hσ => ?_, hp⟩
    have := hsent k (hbal.1 ▸ hlt) hσ
    omega
  · intro k p c hk hc
    have hlt := (List.getElem?_eq_some_iff.1 hc).1
    refine .inr ⟨fun hσ => ?_, hc⟩
    have := hsent k (hbal.2 ▸ hlt) hσ
    omega

theorem of_retires (h : Inv e σ w) (hb : Bookkeeping σ w) {n : Nat} (hpc : w.host.pc = .retires n)
    (hdone : w.host.slot.retires = true → ∀ v ∈ w.host.slot.done, w.device.Done v) :
    Inv e σ (w.goes w.host.slot.retired (.waitsDone n)) := by
  obtain ⟨hbal, hpending⟩ : w.Balanced ∧ w.host.pending = true := by
    have := hb.phase
    rwa [hpc] at this
  have hopen : ¬(w.host.pc).Opened := by simp [hpc, Pc.Opened]
  have hmode := hb.mode (by simp [hpc, Pc.Capturing])
  have hkeeps : ∀ {β : Type} (f : Slot → β), (∀ s : Slot, f s.releaseTransaction = f s) →
      ∀ i, f ((w.goes w.host.slot.retired (.waitsDone n)).host.slots i) = f (w.host.slots i) := by
    intro β f hf
    apply update_field f
    unfold Slot.retired
    split
    · exact hf _
    · rfl
  by_cases hr : w.host.slot.retires = true
  · have hsent : w.Sent σ := h.sent_of_done hb (hdone hr)
    have hretired : w.host.slot.retired = w.host.slot.releaseTransaction := if_pos hr
    have hgraph : w.host.slot.computeGraph = none := (Slot.retires_iff.1 hr).2
    have hnone := hmode.resolve_right fun hm => by
      obtain ⟨p, c, hg, -⟩ := hm.2 w.host.current
      cases hgraph.symm.trans hg
    refine h.of_host rfl rfl rfl rfl ?_ (by simp [hpending]) fun _ =>
      ⟨?_, fun _ => .inl ⟨hnone.1, ?_⟩, ?_, hbal, hpending, ?_⟩
    · rw [goes_slots, hretired]
      exact h.owned_release hbal hsent
    · intro k hk
      rw [hkeeps (·.submitted) fun _ => rfl, hkeeps (·.done) fun _ => rfl]
      exact hb.marks k hk
    · intro i
      rw [hkeeps (·.computeGraph) fun _ => rfl]
      exact hnone.2 i
    · intro i hg hs _
      by_cases hi : i = w.host.current
      · rw [goes_slots, hi, Function.update_self, hretired]
        rfl
      · rw [goes_slots, Function.update_of_ne hi] at hg hs ⊢
        exact hb.cleared i hg hs fun ho => hi ho.1
    · intro _
      rw [goes_slot, hretired]
      exact ⟨rfl, hsent⟩
  · have hsame : (w.goes w.host.slot.retired (.waitsDone n)).host.slots = w.host.slots := by
      rw [goes_slots, Slot.retired, if_neg hr]
      exact Function.update_eq_self ..
    refine h.of_host rfl rfl rfl rfl (hsame ▸ h.owned) (by simp [hpending]) fun _ =>
      ⟨?_, fun _ => ?_, ?_, hbal, hpending, ?_⟩
    · rw [hsame]
      exact hb.marks
    · rw [hsame]
      exact hmode
    · rw [hsame]
      intro i hg hs _
      exact hb.cleared i hg hs fun ho => hopen ho.2
    · rw [Host.slot, hsame]
      intro hg
      have hfresh : w.host.slot.submitted = false := by
        by_contra hne
        exact hr (Slot.retires_iff.2 ⟨Bool.eq_true_of_not_eq_false hne, hg⟩)
      refine ⟨hb.cleared _ hg (.inl hfresh) fun ho => hopen ho.2, fun k hk hσ => ?_⟩
      have hsub := (hb.marks k hk).1
      rw [hσ] at hsub
      cases hfresh.symm.trans hsub

theorem of_waitsDone (h : Inv e σ w) (hb : Bookkeeping σ w) {n : Nat} (hpc : w.host.pc = .waitsDone n) :
    Inv e (Function.update σ w.issued w.host.current)
      ((w.enqueue .compute w.host.slot.guard).goes w.host.slot (.receives n)) := by
  obtain ⟨hbal, hpending, hslot⟩ : w.Balanced ∧ w.host.pending = true ∧
      (w.host.slot.computeGraph = none → w.host.slot.Cleared ∧ w.Sent σ) := by
    have := hb.phase
    rwa [hpc] at this
  have hσ : ∀ k < w.issued, Function.update σ w.issued w.host.current k = σ k := fun k hk =>
    Function.update_of_ne hk.ne ..
  have hsame : ((w.enqueue .compute w.host.slot.guard).goes w.host.slot (.receives n)).host.slots =
      w.host.slots :=
    Function.update_eq_self ..
  have hreceives : receives (w.commands .compute ++ w.host.slot.guard) =
    receives (w.commands .compute) := by simp
  have hexecutes : executes (w.commands .compute ++ w.host.slot.guard) =
    executes (w.commands .compute) := by simp
  refine h.of_enqueue rfl rfl rfl rfl ?_ ?_ hpending ⟨?_, fun _ => ?_, ?_, ?_⟩
  · rw [goes_commands, enqueue_commands, enqueue_commands_other w (by simp)]
    exact (h.script.assign hbal.1 w.host.current).guard w.host.slot
  · rw [hsame, goes_commands, enqueue_commands]
    exact (h.owned.assign hbal.1 hbal.2 w.host.current).commands hreceives hexecutes
  · rw [hsame]
    intro k hk
    rw [goes_issued, enqueue_issued] at hk
    rw [hσ k hk]
    simpa using hb.marks k hk
  · rw [hsame]
    exact hb.mode (by simp [hpc, Pc.Capturing])
  · rw [hsame]
    intro i hg hs _
    exact hb.cleared i hg hs (by simp [hpc, Pc.Opened])
  · have hbalanced : ((w.enqueue .compute w.host.slot.guard).goes w.host.slot (.receives n)).Balanced := by
      simpa [World.Balanced] using hbal
    refine ⟨hbalanced, hpending, fun hg => ?_, by simp, fun j hj hj' => ?_⟩
    · rw [goes_slot] at hg ⊢
      refine ⟨(hslot hg).1, fun k hk hk' => (hslot hg).2 k ?_ ?_⟩
      · simpa using hk
      · rwa [hσ k (by simpa using hk)] at hk'
    · rw [goes_issued, enqueue_issued] at hj hj'
      rw [hσ j hj, Function.update_self] at hj'
      obtain ⟨hsub, m, hm, hlt⟩ := hb.marks j hj
      rw [hj'] at hsub hm
      refine ⟨m, ?_, by simpa using hlt⟩
      have hguard : w.host.slot.guard = [.waitEvent ⟨.send, m⟩] := by
        simp [Slot.guard, Host.slot, hsub, hm]
      simp [hguard]

theorem of_receives (h : Inv e σ w) (hb : Bookkeeping σ w) {n : Nat} {p : Payload Address}
    (hpc : w.host.pc = .receives n) (hgraph : w.host.slot.computeGraph = none)
    (hfree : w.Free p.tensors) :
    Inv e σ ((w.enqueue .compute [.kernel (.dispatchRecv p)]).goes (w.host.slot.receive p)
      (.executes n)) := by
  obtain ⟨hbal, hpending, hslot, hσ, hguard⟩ :=
    (by have := hb.phase; rwa [hpc] at this : w.Phase σ (.receives n))
  obtain ⟨hcleared, hsent⟩ := hslot hgraph
  obtain ⟨-, houtput, htensors⟩ : w.host.slot.payload = none ∧ w.host.slot.output = none ∧
      w.host.slot.tensors = [] := by
    simpa [Slot.Cleared, Slot.refs] using hcleared
  refine h.of_enqueue rfl rfl rfl rfl ?_ ?_ hpending
    (hb.opens (by simp [hpc, Pc.Capturing]) (enqueue_issued w _) rfl rfl rfl ?_ trivial ?_)
  · rw [goes_commands, enqueue_commands, enqueue_commands_other w (by simp)]
    exact h.script.snoc_compute ⟨hbal.1.trans hbal.2.symm, hbal.1 ▸ hguard⟩
  · rw [goes_slots, goes_commands, enqueue_commands]
    apply h.owned.set
    · intro a ha
      simp only [Slot.held, Slot.receive, houtput, htensors, Option.elim_some, Option.toList_none,
        List.append_nil] at ha
      exact .inr fun j hj => hfree.2 a ha ⟨j, hj⟩
    · exact h.owned.tensors w.host.current
    · intro p' hp'
      obtain rfl := Option.some.inj hp'
      exact ⟨hfree.1, by simp [Slot.receive, htensors]⟩
    · intro k p' hk hp
      rw [receives_append, receives_dispatchRecv] at hp
      rcases lt_or_eq_of_le
        (Nat.le_of_lt_succ (by simpa using (List.getElem?_eq_some_iff.1 hp).1)) with hlt | rfl
      · rw [List.getElem?_append_left hlt] at hp
        exact .inr ⟨fun hk' => absurd (hsent k (hbal.1 ▸ hlt) hk') (by omega), hp⟩
      · rw [List.getElem?_concat_length] at hp
        exact .inl ⟨hbal.1 ▸ hσ, hp⟩
    · intro k p' c hk hc
      rw [executes_append, executes_dispatchRecv, List.append_nil] at hc
      have hlt := (List.getElem?_eq_some_iff.1 hc).1
      exact .inr ⟨fun hk' => absurd (hsent k (hbal.2 ▸ hlt) hk') (by omega), hc⟩
  · rintro ⟨p', c, hg, -⟩
    cases hgraph.symm.trans hg
  · refine ⟨?_, ?_, hpending, ⟨?_, ?_, ?_⟩, ?_, ?_⟩
    · simp [hbal.1]
    · simp [hbal.2]
    · rw [goes_slot]
      exact hgraph
    · rw [goes_slot]
      exact htensors
    · intro k hk hk'
      exact hsent k (by simpa using hk) hk'
    · rw [goes_issued, enqueue_issued]
      exact hσ
    · rw [goes_issued, enqueue_issued, goes_commands, enqueue_commands, enqueue_commands_other w (by simp)]
      exact hguard.mono fun c hc => List.mem_append_left _ hc

/-- What the open transaction received is what its slot refers to. -/
theorem open_payload (h : Inv e σ w) {p : Payload Address}
    (hr : (receives (w.commands .compute)).length = w.issued + 1) (hσ : σ w.issued = w.host.current)
    (hp : w.host.slot.payload = some p) :
    (receives (w.commands .compute))[w.issued]? = some p := by
  have hlt : w.issued < (receives (w.commands .compute)).length := by omega
  have hget := List.getElem?_eq_getElem hlt
  have hown := h.owned.payload _ _ h.sent_le_issued hget
  rw [hσ] at hown
  rw [hget, ← hown]
  exact hp

theorem of_executes (h : Inv e σ w) (hb : Bookkeeping σ w) {n : Nat} {p : Payload Address}
    {c : Computed Address} (hpc : w.host.pc = .executes n) (hp : w.host.slot.payload = some p)
    (hfree : w.Free c.tensors) :
    Inv e σ ((w.enqueue .compute [.kernel (.executor p c)]).goes (w.host.slot.execute c)
      (.handsOver n)) := by
  obtain ⟨hr, hx, hpending, ⟨hgraph, htensors, hsent⟩, hσ, hguard⟩ :=
    (by have := hb.phase; rwa [hpc] at this : w.Phase σ (.executes n))
  have hopen := h.open_payload hr hσ hp
  have hheld : ∀ a ∈ p.tensors, a ∈ w.host.slot.held := by
    intro a ha
    simp [Slot.held, hp, ha]
  refine h.of_enqueue rfl rfl rfl rfl ?_ ?_ hpending
    (hb.opens (by simp [hpc, Pc.Capturing]) (enqueue_issued w _) rfl rfl rfl ?_ trivial ?_)
  · rw [goes_commands, enqueue_commands, enqueue_commands_other w (by simp)]
    exact h.script.snoc_compute ⟨hx ▸ hopen, by omega, hx ▸ hguard⟩
  · rw [goes_slots, goes_commands, enqueue_commands]
    apply h.owned.set
    · intro a ha
      simp only [Slot.held, Slot.execute, hp, htensors, Option.elim_some, Option.toList_some,
        List.nil_append, List.mem_append, List.mem_singleton] at ha
      rcases ha with (ha | ha) | ha
      · exact .inl (hheld a ha)
      · exact .inr fun j hj => hfree.2 a (by simp [Computed.tensors, ha]) ⟨j, hj⟩
      · exact .inr fun j hj => hfree.2 a ha ⟨j, hj⟩
    · simpa [Slot.execute, htensors] using hfree.1
    · intro p' hp'
      obtain rfl := Option.some.inj (hp.symm.trans hp')
      refine ⟨(h.owned.payloads _ p hp).1, fun a ha hc => ?_⟩
      rw [Slot.execute, htensors, List.nil_append] at hc
      exact hfree.2 a hc ⟨_, hheld a ha⟩
    · intro k p' hk hp'
      rw [receives_append, receives_executor, List.append_nil] at hp'
      rcases lt_or_eq_of_le (Nat.le_of_lt_succ (hr ▸ (List.getElem?_eq_some_iff.1 hp').1)) with hlt | rfl
      · exact .inr ⟨fun hk' => absurd (hsent k hlt hk') (by omega), hp'⟩
      · exact .inl ⟨hσ, hp.trans (hopen.symm.trans hp')⟩
    · intro k p' c' hk hc
      rw [executes_append, executes_executor] at hc
      rcases lt_or_eq_of_le
        (Nat.le_of_lt_succ (by simpa using (List.getElem?_eq_some_iff.1 hc).1)) with hlt | rfl
      · rw [List.getElem?_append_left hlt] at hc
        exact .inr ⟨fun hk' => absurd (hsent k (hx ▸ hlt) hk') (by omega), hc⟩
      · rw [List.getElem?_concat_length] at hc
        obtain ⟨-, rfl⟩ := Prod.mk.inj (Option.some.inj hc)
        exact .inl ⟨hx ▸ hσ, rfl, by simp [Slot.execute, htensors]⟩
  · rintro ⟨p', c', hg, -⟩
    cases hgraph.symm.trans hg
  · refine ⟨?_, ?_, hpending, by simpa using hσ⟩
    · simp [hr]
    · simp [hx]

/-- The replay of a compute graph: the receive and the executor it was captured with. -/
theorem of_replaysCompute (h : Inv e σ w) (hb : Bookkeeping σ w) {n : Nat} {g : List Kernel}
    (hpc : w.host.pc = .receives n) (hgraph : w.host.slot.computeGraph = some g) :
    Inv e σ ((w.enqueue .compute (g.map .kernel)).goes w.host.slot (.handsOver n)) := by
  obtain ⟨hbal, hpending, -, hσ, hguard⟩ :=
    (by have := hb.phase; rwa [hpc] at this : w.Phase σ (.receives n))
  have hcap : ¬w.host.pc.Capturing := by simp [hpc, Pc.Capturing]
  obtain ⟨p, c, hg, hsend, hp, ho, ht⟩ := hb.replayable hcap hgraph
  obtain rfl := Option.some.inj (hgraph.symm.trans hg)
  have hsplit : w.commands .compute ++ [Kernel.dispatchRecv p, .executor p c].map .kernel =
      (w.commands .compute ++ [.kernel (.dispatchRecv p)]) ++ [.kernel (.executor p c)] := by simp
  have hsame : ((w.enqueue .compute ([Kernel.dispatchRecv p, .executor p c].map .kernel)).goes w.host.slot
      (.handsOver n)).host.slots = w.host.slots := Function.update_eq_self ..
  refine h.of_enqueue rfl rfl rfl rfl ?_ ?_ hpending
    (hb.opens hcap (enqueue_issued w _) rfl rfl rfl id trivial ?_)
  · rw [goes_commands, enqueue_commands, enqueue_commands_other w (by simp), hsplit]
    have hrecv := h.script.snoc_compute (c := .kernel (.dispatchRecv p)) ⟨hbal.1.trans hbal.2.symm,
      hbal.1 ▸ hguard⟩
    refine hrecv.snoc_compute ⟨?_, ?_, ?_⟩
    · simp [hbal.1, hbal.2]
    · simp [hbal.1, hbal.2]
    · simp only [executes_append, executes_dispatchRecv, List.append_nil, hbal.2]
      exact hguard.mono fun x hx => List.mem_append_left _ hx
  · rw [hsame, goes_commands, enqueue_commands, hsplit]
    refine ⟨fun k p' hk hp' => ?_, fun k p' c' hk hc' => ?_, h.owned.distinct, h.owned.tensors,
      h.owned.payloads⟩
    · rw [receives_append, receives_executor, List.append_nil, receives_append,
        receives_dispatchRecv] at hp'
      rcases lt_or_eq_of_le
        (Nat.le_of_lt_succ (by simpa using (List.getElem?_eq_some_iff.1 hp').1)) with hlt | rfl
      · rw [List.getElem?_append_left hlt] at hp'
        exact h.owned.payload k p' hk hp'
      · rw [List.getElem?_concat_length] at hp'
        rw [hbal.1, hσ, ← hp']
        exact hp
    · rw [executes_append, executes_executor, executes_append, executes_dispatchRecv,
        List.append_nil] at hc'
      rcases lt_or_eq_of_le
        (Nat.le_of_lt_succ (by simpa using (List.getElem?_eq_some_iff.1 hc').1)) with hlt | rfl
      · rw [List.getElem?_append_left hlt] at hc'
        exact h.owned.computed k p' c' hk hc'
      · rw [List.getElem?_concat_length] at hc'
        obtain ⟨-, rfl⟩ := Prod.mk.inj (Option.some.inj hc')
        rw [hbal.2, hσ]
        exact ⟨ho, ht⟩
  · refine ⟨?_, ?_, hpending, by simpa using hσ⟩
    · simp [hbal.1]
    · simp [hbal.2]

theorem of_handsOver (h : Inv e σ w) (hb : Bookkeeping σ w) {n : Nat} (hpc : w.host.pc = .handsOver n) :
    Inv e σ ((w.enqueue .send [.waitEvent (w.device.record .compute)]).goes
      { w.host.slot with ready := some (w.device.record .compute) } (.sends n)) := by
  obtain ⟨hr, hx, hpending, hσ⟩ := (by have := hb.phase; rwa [hpc] at this : w.Phase σ (.handsOver n))
  have hissued : (w.enqueue .send [.waitEvent (w.device.record .compute)]).issued = w.issued := by
    simp [World.issued]
  refine h.of_enqueue rfl rfl rfl rfl ?_ ?_ hpending
    (hb.opens (by simp [hpc, Pc.Capturing]) hissued rfl rfl rfl id trivial ?_)
  · rw [goes_commands, enqueue_commands, enqueue_commands_other w (by simp)]
    exact h.script.snoc_send trivial
  · rw [goes_commands, enqueue_commands_other w (by simp)]
    exact h.owned.congr (update_field Slot.refs rfl)
  · refine ⟨?_, ?_, hpending, ?_, ?_⟩
    · rw [goes_commands, enqueue_commands_other w (by simp), goes_issued, hissued]
      exact hr
    · rw [goes_commands, enqueue_commands_other w (by simp), goes_issued, hissued]
      exact hx
    · rw [goes_issued, hissued]
      exact hσ
    · rw [goes_commands, enqueue_commands]
      apply List.mem_append_right
      simp [Device.record]

/-- The end of a round: the slot's output goes onto the send stream, eagerly or by replay. -/
theorem of_sends (h : Inv e σ w) (hb : Bookkeeping σ w) {n : Nat} {p : Payload Address} {o : Address}
    (hpc : w.host.pc = .sends n) (hp : w.host.slot.payload = some p) (ho : w.host.slot.output = some o)
    (hv : v = { w.enqueue .send [.kernel (.combineSend o p.tokenNumsRankidLayeridx)] with
      host := w.host.finishRound
        ((w.enqueue .send [.kernel (.combineSend o p.tokenNumsRankidLayeridx)]).device.record .send) n }) :
    Inv e σ v := by
  obtain ⟨hr, hx, hpending, hσ, hready⟩ := (by have := hb.phase; rwa [hpc] at this : w.Phase σ (.sends n))
  have hcompute : v.commands .compute = w.commands .compute := by
    rw [hv]
    exact enqueue_commands_other w (by simp) _
  have hsend : v.commands .send =
      w.commands .send ++ [.kernel (.combineSend o p.tokenNumsRankidLayeridx)] := by
    rw [hv]
    exact enqueue_commands w ..
  have hissued : v.issued = w.issued + 1 := by
    rw [World.issued, hsend, sends_append, sends_combineSend, List.length_append]
    rfl
  have hslots : v.host.slots = Function.update w.host.slots w.host.current
      { w.host.slot with done := some (v.device.record .send), submitted := true } := by rw [hv]; rfl
  have hlt : w.issued < (executes (w.commands .compute)).length := by omega
  obtain ⟨⟨p', c⟩, hget⟩ : ∃ pc, (executes (w.commands .compute))[w.issued]? = some pc :=
    ⟨_, List.getElem?_eq_getElem hlt⟩
  obtain ⟨hout, -⟩ := hσ ▸ h.owned.computed _ _ _ h.sent_le_issued hget
  obtain rfl :=
    Option.some.inj ((h.open_payload hr hσ hp).symm.trans (receive_of_execute h.script.compute hget))
  have hbalanced : v.Balanced := by
    rw [World.Balanced, hcompute, hissued]
    exact ⟨hr, hx⟩
  have hpending' : v.host.pending = true := by
    rw [hv]
    exact hpending
  refine h.of_enqueue (q := .send) (by rw [hv]; rfl) (by rw [hv]; rfl) (by rw [hv]; rfl)
    (by rw [hv]; rfl) ?_ ?_ hpending' ⟨fun k hk => ?_, fun _ => ?_, fun i hg hs hi => ?_, ?_⟩
  · rw [hcompute, hsend]
    refine h.script.snoc_send ⟨(w.commands .compute).length, p, c, hready, ?_,
      Option.some.inj (ho.symm.trans hout), rfl⟩
    rw [List.take_length]
    exact hget
  · rw [hcompute, hslots]
    exact h.owned.congr (update_field Slot.refs rfl)
  · by_cases hk' : σ k = w.host.current
    · rw [hslots, hk', Function.update_self]
      refine ⟨rfl, (v.commands .send).length, rfl, ?_⟩
      rw [List.take_length]
      exact hk
    · have hlt : k < w.issued := by
        rcases lt_or_eq_of_le (Nat.le_of_lt_succ (hissued ▸ hk)) with hlt | rfl
        · exact hlt
        · exact absurd hσ hk'
      obtain ⟨hsub, m, hm, hkm⟩ := hb.marks k hlt
      rw [hslots, Function.update_of_ne hk', hsend]
      exact ⟨hsub, m, hm, hkm.trans_le (length_filterMap_of_isPrefix (take_isPrefix_append ..))⟩
  · have hcount : v.host.captureCount = w.host.captureCount := by rw [hv]; rfl
    rw [hcount, hslots]
    refine (hb.mode (by simp [hpc, Pc.Capturing])).imp (fun hm => ⟨hm.1, fun i => ?_⟩) fun hm =>
      ⟨hm.1, fun i => ?_⟩
    · rw [update_field (·.computeGraph) (by rfl)]
      exact hm.2 i
    · by_cases hi : i = w.host.current
      · rw [hi, Function.update_self]
        exact hm.2 w.host.current
      · rw [Function.update_of_ne hi]
        exact hm.2 i
  · have hs' := hs.resolve_right (by simp [hpending'])
    by_cases hi' : i = w.host.current
    · rw [hslots, hi', Function.update_self] at hs'
      cases hs'
    · rw [hslots, Function.update_of_ne hi'] at hg hs' ⊢
      exact hb.cleared i hg (.inl hs') fun hc => hi' hc.1
  · have hcovered : v.Covered := by
      have hlast : v.host.last = w.host.current := by
        rw [hv]
        exact last_succ w.host.sequence
      refine ⟨?_, ?_⟩
      · rw [hlast, hslots, Function.update_self]
      · have hrecord : v.device.record .compute = w.device.record .compute :=
          congrArg (fun l : List Cmd => (⟨.compute, l.length⟩ : Event Queue)) hcompute
        rw [hsend, hrecord]
        exact List.mem_append_left _ hready
    have hpc' : v.host.pc = if n ≤ 1 then .idle else .retires (n - 1) := by rw [hv]; rfl
    rw [hpc']
    split
    · exact ⟨hbalanced, fun _ => hcovered⟩
    · exact ⟨hbalanced, hpending'⟩

/-- A complete last send has everything before it complete. -/
theorem drained_of_done (h : Inv e σ w) (hcovered : w.Covered)
    (hdone : ∀ v ∈ (w.host.slots w.host.last).done, w.device.Done v) : w.device.Drained := by
  have hsend : (w.device .send).completed = (w.device .send).commands.length :=
    le_antisymm (h.ordered.bounded .send) (hdone _ hcovered.1)
  have hpast : w.device.past .send = w.commands .send := by
    rw [Device.past, hsend, List.take_length]
    rfl
  have hcompute : w.device.Done (w.device.record .compute) := h.ordered.waited .send _ (hpast ▸ hcovered.2)
  intro q
  cases q with
  | compute => exact le_antisymm (h.ordered.bounded .compute) hcompute
  | send => exact hsend

theorem of_finishComplete (h : Inv e σ w) (hb : Bookkeeping σ w) {wait : Bool}
    (hpc : w.host.pc = .completes wait) (hd : w.device.Drained) :
    Inv e σ { w with host := w.host.finishComplete } := by
  obtain ⟨hbal, -⟩ := (by have := hb.phase; rwa [hpc] at this : w.Phase σ (.completes wait))
  have hmode := hb.mode (by simp [hpc, Pc.Capturing])
  have hsent := h.sent_of_drained hd
  have hkeeps : ∀ {β : Type} (f : Slot → β), (∀ s : Slot, f s.releaseTransaction = f s) →
      ∀ i, f (w.host.finishComplete.slots i) = f (w.host.slots i) := by
    intro β f hf i
    unfold Host.finishComplete
    dsimp only
    split
    · exact hf _
    · rfl
  by_cases hcount : w.host.captureCount = 0
  · have hslots : w.host.finishComplete.slots = fun i => (w.host.slots i).releaseTransaction :=
      if_pos hcount
    have hnone := (hmode.resolve_right fun hm => hm.1 hcount).2
    refine h.of_host rfl rfl rfl rfl ?_ (fun _ => hd) fun _ =>
      ⟨fun k hk => ?_, fun _ => .inl ⟨hcount, fun i => ?_⟩, fun i _ _ _ => ?_,
        hbal, by simp [Host.finishComplete]⟩
    · rw [hslots]
      exact .of_sent (hbal.1.trans hsent.symm).le (hbal.2.trans hsent.symm).le
        (by simp [Slot.held, Slot.releaseTransaction]) (fun _ => List.nodup_nil)
        (by simp [Slot.releaseTransaction])
    · rw [hkeeps (·.submitted) fun _ => rfl, hkeeps (·.done) fun _ => rfl]
      exact hb.marks k hk
    · rw [hkeeps (·.computeGraph) fun _ => rfl]
      exact hnone i
    · rw [hslots]
      rfl
  · have hslots : w.host.finishComplete.slots = w.host.slots := if_neg hcount
    have hall := (hmode.resolve_left fun hm => hcount hm.1).2
    refine h.of_host rfl rfl rfl rfl (hslots ▸ h.owned) (fun _ => hd) fun _ =>
      ⟨?_, fun _ => .inr ⟨hcount, ?_⟩, fun i hg _ _ => ?_, hbal, by simp [Host.finishComplete]⟩
    · rw [hslots]
      exact hb.marks
    · rw [hslots]
      exact hall
    · rw [hslots] at hg
      obtain ⟨p, c, hsome, -⟩ := hall i
      cases hg.symm.trans hsome

theorem of_capturesCompute (h : Inv e σ w) (hb : Bookkeeping σ w) {i : Index} {p : Payload Address}
    {c : Computed Address} (hpc : w.host.pc = .capturesCompute i)
    (hfree : w.Free (p.tensors ++ c.tensors)) :
    Inv e σ { w with
      host := (w.host.setSlot i ((w.host.slots i).captureCompute p c)).goto (.capturesSend i) } := by
  obtain ⟨hbal, hpending, hdone, hnone⟩ :=
    (by have := hb.phase; rwa [hpc] at this : w.Phase σ (.capturesCompute i))
  have hsent := h.sent_of_drained (h.drained hpending)
  obtain ⟨-, -, htensors⟩ : (w.host.slots i).payload = none ∧ (w.host.slots i).output = none ∧
      (w.host.slots i).tensors = [] := by
    simpa [Slot.Cleared, Slot.refs] using hb.cleared i (hnone i (Fin.le_refl i)) (.inr hpending)
      (by simp [hpc, Pc.Opened])
  have hnodup := List.nodup_append.1 hfree.1
  refine h.of_host rfl rfl rfl rfl ?_ (fun _ => h.drained hpending) fun _ =>
    ⟨fun k hk => ?_, (absurd trivial ·), fun j hg _ _ => ?_, hbal, hpending, fun j hj => ?_, ?_,
      fun j hj => ?_⟩
  · apply h.owned.set
    · intro a ha
      refine .inr fun j hj => hfree.2 a ?_ ⟨j, hj⟩
      simp only [Slot.held, Slot.captureCompute, Slot.receive, Slot.execute, htensors, Option.elim_some,
        Option.toList_some, List.nil_append, List.mem_append, List.mem_singleton] at ha
      rcases ha with (ha | ha) | ha
      · exact List.mem_append_left _ ha
      · exact List.mem_append_right _ (by simp [Computed.tensors, ha])
      · exact List.mem_append_right _ ha
    · simpa [Slot.captureCompute, Slot.receive, Slot.execute, htensors] using hnodup.2.1
    · intro p' hp'
      obtain rfl := Option.some.inj hp'
      refine ⟨hnodup.1, fun a ha hc => hnodup.2.2 a ha a ?_ rfl⟩
      simpa [Slot.captureCompute, Slot.receive, Slot.execute, htensors] using hc
    · intro k p' hk hp'
      have hlt := (List.getElem?_eq_some_iff.1 hp').1
      rw [hbal.1] at hlt
      omega
    · intro k p' c' hk hc'
      have hlt := (List.getElem?_eq_some_iff.1 hc').1
      rw [hbal.2] at hlt
      omega
  · simp only [Host.goto, Host.setSlot]
    rw [update_field (·.submitted) (by rfl), update_field (·.done) (by rfl)]
    exact hb.marks k hk
  · have hj : j ≠ i := by
      rintro rfl
      simp only [Host.goto, Host.setSlot, Function.update_self] at hg
      cases hg
    simp only [Host.goto, Host.setSlot, Function.update_of_ne hj] at hg ⊢
    exact hb.cleared j hg (.inr hpending) (by simp [hpc, Pc.Opened])
  · simp only [Host.goto, Host.setSlot, Function.update_of_ne (Fin.ne_of_lt hj)]
    exact hdone j hj
  · simp only [Host.goto, Host.setSlot, Function.update_self]
    exact ⟨p, c, rfl, rfl, rfl, by simp [Slot.captureCompute, Slot.receive, Slot.execute, htensors]⟩
  · simp only [Host.goto, Host.setSlot, Function.update_of_ne (Fin.ne_of_lt hj).symm]
    exact hnone j (Fin.le_of_lt hj)

theorem of_capturesSend (h : Inv e σ w) (hb : Bookkeeping σ w) {i : Index} {p : Payload Address}
    {o : Address} (hpc : w.host.pc = .capturesSend i) (hp : (w.host.slots i).payload = some p)
    (ho : (w.host.slots i).output = some o) :
    Inv e σ { w with host := w.host.finishCapture i [.combineSend o p.tokenNumsRankidLayeridx] } := by
  obtain ⟨hbal, hpending, hdone, ⟨p', c, hgraph, hp', ho', ht⟩, hnone⟩ :=
    (by have := hb.phase; rwa [hpc] at this : w.Phase σ (.capturesSend i))
  obtain rfl := Option.some.inj (hp.symm.trans hp')
  obtain rfl := Option.some.inj (ho.symm.trans ho')
  set s : Slot := { w.host.slots i with
    sendGraph := some [.combineSend c.output p.tokenNumsRankidLayeridx] } with hs
  have hslots : (w.host.finishCapture i [.combineSend c.output p.tokenNumsRankidLayeridx]).slots =
      Function.update w.host.slots i s := by
    unfold Host.finishCapture
    dsimp only
    split <;> rfl
  have hpending' : (w.host.finishCapture i [.combineSend c.output p.tokenNumsRankidLayeridx]).pending =
      false := by
    unfold Host.finishCapture
    dsimp only
    split <;> exact hpending
  have hready : s.Replayable := ⟨p, c, hgraph, rfl, hp, ho, ht⟩
  have hopened : ¬(w.host.finishCapture i [.combineSend c.output p.tokenNumsRankidLayeridx]).pc.Opened := by
    unfold Host.finishCapture
    dsimp only
    split <;> exact id
  refine h.of_host rfl rfl rfl rfl ?_ (fun _ => h.drained hpending) fun _ =>
    ⟨fun k hk => ?_, fun hcap => ?_, fun j hg _ _ => ?_, ?_⟩
  · rw [hslots]
    exact h.owned.congr (update_field Slot.refs rfl)
  · rw [hslots, update_field (·.submitted) (by rfl), update_field (·.done) (by rfl)]
    exact hb.marks k hk
  · have hi : i = 1 := by
      apply Fin.eq_one_of_ne_zero
      rintro rfl
      exact hcap trivial
    refine .inr ⟨?_, fun j => ?_⟩
    · rw [hi]
      exact Nat.succ_ne_zero _
    · rw [hslots]
      by_cases hj : j = i
      · rw [hj, Function.update_self]
        exact hready
      · rw [Function.update_of_ne hj]
        exact hdone j (hi ▸ lt_one_of_ne (hi ▸ hj))
  · rw [hslots] at hg ⊢
    by_cases hj : j = i
    · rw [hj, Function.update_self] at hg
      cases hg.symm.trans hgraph
    · rw [Function.update_of_ne hj] at hg ⊢
      exact hb.cleared j hg (.inr hpending) (by simp [hpc, Pc.Opened])
  · by_cases hi : i = 0
    · subst hi
      refine ⟨hbal, hpending, fun j hj => ?_, fun j hj => ?_⟩
      · obtain rfl := eq_zero_of_lt_one hj
        rw [hslots, Function.update_self]
        exact hready
      · have hj' := pos_of_one_le hj
        rw [hslots, Function.update_of_ne (Fin.ne_of_lt hj').symm]
        exact hnone j hj'
    · have hpc' : (w.host.finishCapture i [.combineSend c.output p.tokenNumsRankidLayeridx]).pc =
          .idle := by
        unfold Host.finishCapture
        rw [if_neg hi]
      show World.Phase _ σ (w.host.finishCapture i [.combineSend c.output p.tokenNumsRankidLayeridx]).pc
      rw [hpc']
      exact ⟨hbal, fun hp => by simp [hpending'] at hp⟩

/-- A call that only moves the host on. -/
theorem of_enters (h : Inv e σ w) {host : Host} (hslots : host.slots = w.host.slots)
    (hsequence : host.sequence = w.host.sequence) (hcount : host.captureCount = w.host.captureCount)
    (hdrained : host.pending = false → w.host.pending = false) (hb : Bookkeeping σ w)
    (hidle : w.host.pc = .idle) (hphase : World.Phase { w with host := host } σ host.pc) :
    Inv e σ { w with host := host } := by
  have hcurrent : host.current = w.host.current := congrArg (Fin.ofNat 2) hsequence
  refine h.of_host rfl rfl rfl rfl (hslots ▸ h.owned) (fun hp => h.drained (hdrained hp)) fun _ =>
    ⟨?_, fun _ => ?_, fun i hg hs hi => ?_, hphase⟩
  · rw [hslots]
    exact hb.marks
  · rw [hcount, hslots]
    exact hb.mode (by simp [hidle, Pc.Capturing])
  · rw [hslots] at hg hs ⊢
    exact hb.cleared i hg (hs.imp_right hdrained) (by simp [hidle, Pc.Opened])

theorem of_calls (h : Inv e σ w) {c : Host.Call} {host : Host} (hpc : w.host.pc = .idle)
    (hcall : w.host.call c = some host) :
    Inv e σ { w with host := host } := by
  have hphase : w.host.Live → w.Balanced ∧ (w.host.pending = true → w.Covered) := fun hl => by
    have := (h.books hl).phase
    rwa [hpc] at this
  rcases Host.call_cases hcall with ⟨hlive, -, n, rfl⟩ | ⟨hlive, hpending, wait, rfl⟩ | ⟨hlive,
    hpending, hcount, rfl⟩ | rfl | ⟨hlive, hpending, rfl⟩
  · exact h.of_enters rfl rfl rfl (by simp) (h.books hlive) hpc ⟨(hphase hlive).1, rfl⟩
  · exact h.of_enters rfl rfl rfl id (h.books hlive) hpc ⟨(hphase hlive).1, (hphase hlive).2 hpending⟩
  · have hnone :=
      (((h.books hlive).mode (by simp [hpc, Pc.Capturing])).resolve_right fun hm => hm.1 hcount).2
    exact h.of_enters rfl rfl rfl id (h.books hlive) hpc
      ⟨(hphase hlive).1, hpending, fun j hj => absurd hj (Fin.not_lt_zero j), fun j _ => hnone j⟩
  · exact h
  · have hdrained := h.drained hpending
    have hsent := h.sent_of_drained hdrained
    obtain ⟨hr, hx⟩ := (hphase hlive).1
    refine h.of_host rfl rfl rfl rfl ?_ (fun _ => hdrained) fun hl => ?_
    · exact .of_sent (hr.trans hsent.symm).le (hx.trans hsent.symm).le
        (by simp [Slot.held, Slot.releaseTransaction]) (fun _ => List.nodup_nil)
        (by simp [Slot.releaseTransaction])
    · cases hl.2

theorem replayed (h : Inv e σ w) : Inv e σ w.replayed :=
  h.of_host rfl rfl rfl rfl h.owned h.drained fun hl =>
    have hb := h.books hl
    ⟨hb.marks, hb.mode, hb.cleared, hb.phase⟩

end Inv

/-- Only an owner that is open and has not failed is inside a call. -/
theorem HostStep.active (hs : HostStep w v) (h : w.host.pc ≠ .idle → w.host.Live) :
    v.host.pc ≠ .idle → v.host.Live := by
  cases hs with
  | calls hpc hcall =>
    intro hne
    rcases Host.call_cases hcall with ⟨hlive, -, n, rfl⟩ | ⟨hlive, -, wait, rfl⟩ | ⟨hlive, -, -, rfl⟩ |
      rfl | ⟨-, -, rfl⟩
    · exact hlive
    · exact hlive
    · exact hlive
    · exact absurd hpc hne
    · exact absurd hpc hne
  | fails hpc => exact fun hne => absurd rfl hne
  | capturesSend hpc hp ho =>
    intro _
    unfold Host.finishCapture
    dsimp only
    split <;> exact h (by simp [hpc])
  | retires hpc | waitsDone hpc | receives hpc | executes hpc | replaysCompute hpc | handsOver hpc
  | sends hpc | replaysSend hpc | synchronizes hpc | waits hpc | capturesCompute hpc => exact fun _ => h (by simp [hpc])

/-- The host keeps the invariant; it may choose the slot of the next transaction. -/
theorem HostStep.inv (hs : HostStep w v) (h : Inv e σ w) (hlive : w.host.pc ≠ .idle → w.host.Live) :
    ∃ σ', Inv e σ' v := by
  cases hs with
  | calls hpc hcall => exact ⟨σ, h.of_calls hpc hcall⟩
  | retires hpc hdone => exact ⟨σ, h.of_retires (h.books (hlive (by simp [hpc]))) hpc hdone⟩
  | waitsDone hpc => exact ⟨_, h.of_waitsDone (h.books (hlive (by simp [hpc]))) hpc⟩
  | receives hpc hgraph hfree => exact ⟨σ, h.of_receives (h.books (hlive (by simp [hpc]))) hpc hgraph hfree⟩
  | executes hpc hp hfree => exact ⟨σ, h.of_executes (h.books (hlive (by simp [hpc]))) hpc hp hfree⟩
  | replaysCompute hpc hgraph =>
    exact ⟨σ, h.replayed.of_replaysCompute (h.replayed.books (hlive (by simp [hpc]))) hpc hgraph⟩
  | handsOver hpc => exact ⟨σ, h.of_handsOver (h.books (hlive (by simp [hpc]))) hpc⟩
  | sends hpc hgraph hp ho => exact ⟨σ, h.of_sends (h.books (hlive (by simp [hpc]))) hpc hp ho rfl⟩
  | replaysSend hpc hcaptured hgraph =>
    have hb := h.books (hlive (by simp [hpc]))
    obtain ⟨g, hg⟩ := Option.isSome_iff_exists.1 hcaptured
    obtain ⟨p, c, -, hsend, hp, ho, -⟩ := hb.replayable (by simp [hpc, Pc.Capturing]) hg
    obtain rfl := Option.some.inj (hgraph.symm.trans hsend)
    exact ⟨σ, h.replayed.of_sends (h.replayed.books (hlive (by simp [hpc]))) hpc hp ho rfl⟩
  | synchronizes hpc hdone => exact ⟨σ, h.of_finishComplete (h.books (hlive (by simp [hpc]))) hpc hdone⟩
  | waits hpc hdone =>
    have hb := h.books (hlive (by simp [hpc]))
    obtain ⟨-, hcovered⟩ := (by have := hb.phase; rwa [hpc] at this : w.Phase σ (.completes true))
    exact ⟨σ, h.of_finishComplete hb hpc (h.drained_of_done hcovered hdone)⟩
  | capturesCompute hpc hfree => exact ⟨σ, h.of_capturesCompute (h.books (hlive (by simp [hpc]))) hpc hfree⟩
  | capturesSend hpc hp ho => exact ⟨σ, h.of_capturesSend (h.books (hlive (by simp [hpc]))) hpc hp ho⟩
  | fails hpc =>
    exact ⟨σ, h.of_host rfl rfl rfl rfl h.owned h.drained fun hl => by cases hl.1⟩

end AfdPlugin.AsyncFfnTwoStream
