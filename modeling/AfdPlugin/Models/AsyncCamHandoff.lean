import AfdPlugin.Models.AsyncCamDbo

/-! CAM's window holds one dispatch at a time, and each is received once, by the
peer, for the call that sent it. -/

namespace AfdPlugin.AsyncCamDbo

open AfdPlugin.Mrv2Ubatching (Ubatch)

/-! ## A thread's steps -/

/-- One remote call and what follows it. -/
def callOps (layer : Nat) : List Op :=
  [.maybeRunRecvHook, .sendAttnOutput layer, .registerRecvHook layer, .dboYield, .receive layer]

/-- The rest of a thread that still has these calls to make. -/
def tail (layers : List Nat) : List Op := layers.flatMap callOps ++ exitOps

/-- The same with a receive before. -/
def resume (pending : Option Nat) (layers : List Nat) : List Op :=
  (pending.map .receive).toList ++ tail layers

theorem tail_cons (layer : Nat) (layers : List Nat) :
    tail (layer :: layers) = callOps layer ++ tail layers := by
  simp [tail]

/-- V2's loop receives at the next layer what V4 receives at once. -/
theorem attentionGateLoop_eq (layers : List DecoderLayer) (offset : Nat) (pending : Pending)
    (h : pending = ⟨false, none⟩ ∨ 0 < offset ∧ ∃ layer, pending = ⟨true, some layer⟩) :
    attentionGateLoop true offset layers pending = .ok ((pending.receive.map .receive).toList ++
      (((layers.zipIdx offset).filter fun x => x.1.isMoeLayer).map (·.2)).flatMap callOps) := by
  induction layers generalizing offset pending with
  | nil => rcases h with rfl | ⟨-, layer, rfl⟩ <;> simp [attentionGateLoop, receivePendingFfn]
  | cons layer layers ih =>
    have hnone := ih (offset + 1) ⟨false, none⟩ (.inl rfl)
    have hsome := ih (offset + 1) ⟨true, some offset⟩ (.inr ⟨by omega, offset, rfl⟩)
    clear ih
    rcases h with rfl | ⟨hpos, l, rfl⟩ <;> cases hmoe : layer.isMoeLayer
    all_goals
      simp_all [attentionGateLoop, receivePendingFfn, sendAsyncCamRemoteCall, callOps]
      rfl

theorem forward_eq (model : AsyncCamModel) :
    model.forward true = .ok (model.remoteLayers.flatMap callOps) := by
  cases model with
  | deepseekV2 layers => exact attentionGateLoop_eq layers 0 ⟨false, none⟩ (.inl rfl)
  | deepseekV4 layers => rfl

theorem nodup_remoteLayers (model : AsyncCamModel) : model.remoteLayers.Nodup := by
  cases model with
  | deepseekV2 layers =>
    have hsub : ((layers.zipIdx.filter fun x => x.1.isMoeLayer).map (·.2)).Sublist
        (layers.zipIdx.map (·.2)) :=
      List.filter_sublist.map _
    refine hsub.nodup ?_
    rw [List.zipIdx_map_snd]
    exact List.nodup_range'
  | deepseekV4 layers => exact List.nodup_range

/-! ## Calls in the order of their dispatches -/

/-- Both threads' calls at these layers. -/
def calls (layers : List Nat) : List Call := layers.flatMap fun l => [⟨.first, l⟩, ⟨.second, l⟩]

theorem mem_calls {layers : List Nat} {c : Call} : c ∈ calls layers ↔ c.layer ∈ layers := by
  rcases c with ⟨_ | _, l⟩ <;> simp [calls]

theorem calls_append (xs ys : List Nat) : calls (xs ++ ys) = calls xs ++ calls ys := List.flatMap_append

theorem nodup_calls {layers : List Nat} (h : layers.Nodup) : (calls layers).Nodup := by
  unfold calls
  rw [List.nodup_flatMap]
  refine ⟨fun l _ => by simp, h.imp fun hne c hx hy => ?_⟩
  simp only [List.mem_cons, List.not_mem_nil, or_false] at hx hy
  rcases hx with rfl | rfl <;> simp_all

/-! ## Machines in order -/

/-- A value for each thread. -/
def both {α : Type} (a b : α) : Ubatch → α
  | .first => a
  | .second => b

@[simp] theorem both_first {α : Type} (a b : α) : both a b .first = a := rfl
@[simp] theorem both_second {α : Type} (a b : α) : both a b .second = b := rfl

@[simp] theorem update_both_first {α : Type} (a b x : α) :
    Function.update (both a b) .first x = both x b := by
  funext i
  cases i <;> rfl

@[simp] theorem update_both_second {α : Type} (a b x : α) :
    Function.update (both a b) .second x = both a x := by
  funext i
  cases i <;> rfl

/-- Every receive so far has read its own dispatch, and the window holds the
only dispatch that has not been received. -/
def machine (running : Ubatch) (todo : Ubatch → List Op) (registered : Ubatch → Bool)
    (recvHook : Ubatch → Option Call) (window : Option Call) (got : List Call) : Machine :=
  ⟨todo, running, registered, recvHook, window, got ++ window.toList, got.map fun c => (c, c)⟩

section Exec
variable {i : Ubatch} {todo : Ubatch → List Op} {registered : Ubatch → Bool} {hook : Ubatch → Option Call}
  {window : Option Call} {got : List Call} {c : Call}

theorem step_machine {op : Op} {rest : List Op} (h : todo i = op :: rest) :
    (machine i todo registered hook window got).step =
      (machine i (Function.update todo i rest) registered hook window got).exec i op := by
  simp [Machine.step, machine, h]

theorem output_machine :
    (machine i todo registered hook window got).output c = if c ∈ got then some c else none := by
  simp only [Machine.output, machine]
  induction got with
  | nil => rfl
  | cons x got ih =>
    rw [List.map_cons, List.lookup_cons]
    rcases eq_or_ne c x with rfl | hne
    · simp
    · simp [beq_false_of_ne hne, hne, ih]

theorem receive_again (h : c ∈ got) :
    (machine i todo registered hook window got).receive c =
      some (machine i todo registered hook window got) := by
  rw [Machine.receive, output_machine, if_pos h]

theorem receive_window (h : c ∉ got) :
    (machine i todo registered hook (some c) got).receive c =
      some (machine i todo registered hook none (got ++ [c])) := by
  rw [Machine.receive, output_machine, if_neg h]
  simp [machine]

theorem runRecvHook_none {j : Ubatch} (h : hook j = none) :
    (machine i todo registered hook window got).runRecvHook j =
      some (machine i todo registered hook window got) := by
  simp only [Machine.runRecvHook, machine, h]

theorem runRecvHook_some {j : Ubatch} (hhook : hook j = some c) (h : c ∉ got) :
    (machine i todo registered hook (some c) got).runRecvHook j =
      some (machine i todo registered (Function.update hook j none) none (got ++ [c])) := by
  have hj : (machine i todo registered hook (some c) got).recvHook j = some c := hhook
  simp only [Machine.runRecvHook, hj, receive_window h, Option.map_some]
  rfl

theorem exec_send {layer : Nat} :
    (machine i todo registered hook none got).exec i (.sendAttnOutput layer) =
      some (machine i todo registered hook (some ⟨i, layer⟩) got) := by
  simp [Machine.exec, machine]

theorem exec_maybeRunRecvHook :
    (machine i todo (both true true) hook window got).exec i .maybeRunRecvHook =
      (machine i todo (both true true) hook window got).runRecvHook i := rfl

theorem exec_exitRecvHook :
    (machine i todo registered hook window got).exec i .exitRecvHook =
      (machine i todo registered hook window got).runRecvHook i := rfl

theorem exec_register {layer : Nat} :
    (machine i todo (both true true) hook window got).exec i (.registerRecvHook layer) =
      some (machine i todo (both true true) (Function.update hook i.peer (some ⟨i, layer⟩))
        window got) := by
  cases i <;> rfl

theorem exec_yield :
    (machine i todo (both true true) hook window got).exec i .dboYield =
      some (machine i.peer todo (both true true) hook window got) := rfl

theorem exec_unregister :
    (machine i todo registered hook window got).exec i .unregister =
      some (machine i todo (Function.update registered i false) hook window got) := rfl

theorem exec_wake :
    (machine i todo registered hook window got).exec i .wakePeer =
      some (machine i.peer todo registered hook window got) := rfl

end Exec

/-- The calls of the last layer, when the second thread has not yet received. -/
def firstOf (pending : Option Nat) : List Call := (pending.map (⟨.first, ·⟩)).toList

def secondOf (pending : Option Nat) : Option Call := pending.map (⟨.second, ·⟩)

theorem calls_toList (pending : Option Nat) :
    calls pending.toList = firstOf pending ++ (secondOf pending).toList := by
  cases pending <;> rfl

/-- The states of a run over the remote layers `ls`: `done` are the layers both
threads are through with, `pending` the one whose output the second thread has
not received (or not gone on with), `rest` the ones before them. -/
inductive Phase (ls : List Nat) : Machine → Prop where
  | firstReady (dn : List Nat) (pending : Option Nat) (rest : List Nat)
      (h : dn ++ pending.toList ++ rest = ls) :
      Phase ls (machine .first (both (tail rest) (resume pending rest)) (both true true)
        (both (secondOf pending) none) (secondOf pending) (calls dn ++ firstOf pending))
  | firstSends (dn : List Nat) (pending : Option Nat) (l : Nat) (rest : List Nat)
      (h : dn ++ l :: rest = ls) (hp : ∀ p ∈ pending, p ∈ dn) :
      Phase ls (machine .first (both ((callOps l).tail ++ tail rest) (resume pending (l :: rest)))
        (both true true) (both none none) none (calls dn))
  | firstRegisters (dn : List Nat) (pending : Option Nat) (l : Nat) (rest : List Nat)
      (h : dn ++ l :: rest = ls) (hp : ∀ p ∈ pending, p ∈ dn) :
      Phase ls (machine .first (both ((callOps l).drop 2 ++ tail rest) (resume pending (l :: rest)))
        (both true true) (both none none) (some ⟨.first, l⟩) (calls dn))
  | firstYields (dn : List Nat) (pending : Option Nat) (l : Nat) (rest : List Nat)
      (h : dn ++ l :: rest = ls) (hp : ∀ p ∈ pending, p ∈ dn) :
      Phase ls (machine .first (both ((callOps l).drop 3 ++ tail rest) (resume pending (l :: rest)))
        (both true true) (both none (some ⟨.first, l⟩)) (some ⟨.first, l⟩) (calls dn))
  | secondReady (dn : List Nat) (pending : Option Nat) (l : Nat) (rest : List Nat)
      (h : dn ++ l :: rest = ls) (hp : ∀ p ∈ pending, p ∈ dn) :
      Phase ls (machine .second (both (resume (some l) rest) (resume pending (l :: rest)))
        (both true true) (both none (some ⟨.first, l⟩)) (some ⟨.first, l⟩) (calls dn))
  | secondSends (dn : List Nat) (l : Nat) (rest : List Nat) (h : dn ++ l :: rest = ls) :
      Phase ls (machine .second (both (resume (some l) rest) ((callOps l).tail ++ tail rest))
        (both true true) (both none none) none (calls dn ++ [⟨.first, l⟩]))
  | secondRegisters (dn : List Nat) (l : Nat) (rest : List Nat) (h : dn ++ l :: rest = ls) :
      Phase ls (machine .second (both (resume (some l) rest) ((callOps l).drop 2 ++ tail rest))
        (both true true) (both none none) (some ⟨.second, l⟩) (calls dn ++ [⟨.first, l⟩]))
  | secondYields (dn : List Nat) (l : Nat) (rest : List Nat) (h : dn ++ l :: rest = ls) :
      Phase ls (machine .second (both (resume (some l) rest) ((callOps l).drop 3 ++ tail rest))
        (both true true) (both (some ⟨.second, l⟩) none) (some ⟨.second, l⟩)
        (calls dn ++ [⟨.first, l⟩]))
  | firstReceives (dn : List Nat) (l : Nat) (rest : List Nat) (h : dn ++ l :: rest = ls) :
      Phase ls (machine .first (both (resume (some l) rest) (resume (some l) rest)) (both true true)
        (both (some ⟨.second, l⟩) none) (some ⟨.second, l⟩) (calls dn ++ [⟨.first, l⟩]))
  -- the first thread leaves: its exit runs the last hook
  | firstExits (dn : List Nat) (pending : Option Nat) (h : dn ++ pending.toList = ls) :
      Phase ls (machine .first (both exitOps.tail (resume pending [])) (both false true)
        (both (secondOf pending) none) (secondOf pending) (calls dn ++ firstOf pending))
  | firstWakes (pending : Option Nat) (hp : ∀ p ∈ pending, p ∈ ls) :
      Phase ls (machine .first (both [.wakePeer] (resume pending [])) (both false true) (both none none)
        none (calls ls))
  | secondLast (pending : Option Nat) (hp : ∀ p ∈ pending, p ∈ ls) :
      Phase ls (machine .second (both [] (resume pending [])) (both false true) (both none none)
        none (calls ls))
  | secondExits :
    Phase ls (machine .second (both [] exitOps.tail) (both false false) (both none none)
      none (calls ls))
  | secondWakes :
    Phase ls (machine .second (both [] [.wakePeer]) (both false false) (both none none) none (calls ls))
  | finished : Phase ls (machine .first (both [] []) (both false false) (both none none) none (calls ls))

section Step
variable {ls : List Nat}

/-- A thread runs on to the receive of its own call, whose output is there. -/
theorem step_receive {i : Ubatch} {todo : Ubatch → List Op} {registered : Ubatch → Bool}
    {hook : Ubatch → Option Call} {window : Option Call} {got : List Call} {layer : Nat}
    {rest : List Op} (h : todo i = .receive layer :: rest) (hgot : ⟨i, layer⟩ ∈ got) :
    (machine i todo registered hook window got).step =
      some (machine i (Function.update todo i rest) registered hook window got) :=
  (step_machine h).trans (receive_again hgot)

theorem not_mem_calls {dn rest : List Nat} {l : Nat} (hn : ls.Nodup) (h : dn ++ l :: rest = ls)
    {i : Ubatch} :
    ⟨i, l⟩ ∉ calls dn := by
  rw [mem_calls]
  subst h
  exact fun hl => (List.nodup_append.1 hn).2.2 l hl l List.mem_cons_self rfl

theorem second_not_mem {dn rest : List Nat} {l : Nat} (hn : ls.Nodup) (h : dn ++ l :: rest = ls) :
    (⟨.second, l⟩ : Call) ∉ calls dn ++ [⟨.first, l⟩] := by
  simp [not_mem_calls hn h]

/-- The last dispatch of the second thread is received by the first, if there is one. -/
theorem runRecvHook_pending {i : Ubatch} {todo : Ubatch → List Op} {registered : Ubatch → Bool}
    {dn rest : List Nat} (hn : ls.Nodup) (pending : Option Nat)
    (h : dn ++ pending.toList ++ rest = ls) :
    (machine i todo registered (both (secondOf pending) none) (secondOf pending)
      (calls dn ++ firstOf pending)).runRecvHook
        .first =
      some (machine i todo registered (both none none) none (calls (dn ++ pending.toList))) := by
  rw [calls_append, calls_toList]
  cases pending with
  | none => exact (runRecvHook_none rfl).trans (by simp [secondOf, firstOf])
  | some p =>
    have hmem : (⟨.second, p⟩ : Call) ∉ calls dn ++ firstOf (some p) :=
      second_not_mem hn (show dn ++ p :: rest = ls by simpa using h)
    refine (runRecvHook_some rfl hmem).trans ?_
    simp [secondOf]

theorem Phase.next (hn : ls.Nodup) {w : Machine} (h : Phase ls w) :
    (∃ v, w.step = some v ∧ Phase ls v) ∨ (∀ i, w.todo i = []) ∧ w.received.map (·.1) = calls ls := by
  cases h with
  | firstReady dn pending rest h =>
    refine .inl ?_
    cases rest with
    | nil =>
      refine ⟨_, (step_machine rfl).trans exec_unregister, ?_⟩
      simpa using .firstExits dn pending (by simpa using h)
    | cons l rest =>
      refine ⟨_, (step_machine rfl).trans
        (exec_maybeRunRecvHook.trans (runRecvHook_pending hn pending h)), ?_⟩
      simpa using .firstSends (dn ++ pending.toList) pending l rest h fun p hp => by simp_all
  | firstSends dn pending l rest h hp =>
    refine .inl ⟨_, (step_machine rfl).trans exec_send, ?_⟩
    simpa using .firstRegisters dn pending l rest h hp
  | firstRegisters dn pending l rest h hp =>
    refine .inl ⟨_, (step_machine rfl).trans exec_register, ?_⟩
    simpa [Ubatch.peer] using .firstYields dn pending l rest h hp
  | firstYields dn pending l rest h hp =>
    refine .inl ⟨_, (step_machine rfl).trans exec_yield, ?_⟩
    simpa [Ubatch.peer] using .secondReady dn pending l rest h hp
  | secondReady dn pending l rest h hp =>
    refine .inl ?_
    cases pending with
    | none =>
      refine ⟨_, (step_machine rfl).trans
        (exec_maybeRunRecvHook.trans (runRecvHook_some rfl (not_mem_calls hn h))), ?_⟩
      simpa using .secondSends dn l rest h
    | some p =>
      refine ⟨_, step_receive rfl (mem_calls.2 (hp p rfl)), ?_⟩
      simpa using .secondReady dn none l rest h (by simp)
  | secondSends dn l rest h =>
    refine .inl ⟨_, (step_machine rfl).trans exec_send, ?_⟩
    simpa using .secondRegisters dn l rest h
  | secondRegisters dn l rest h =>
    refine .inl ⟨_, (step_machine rfl).trans exec_register, ?_⟩
    simpa [Ubatch.peer] using .secondYields dn l rest h
  | secondYields dn l rest h =>
    refine .inl ⟨_, (step_machine rfl).trans exec_yield, ?_⟩
    simpa [Ubatch.peer] using .firstReceives dn l rest h
  | firstReceives dn l rest h =>
    refine .inl ⟨_, step_receive rfl (by simp), ?_⟩
    simpa using .firstReady dn (some l) rest (by simpa using h)
  | firstExits dn pending h =>
    have hdone : dn ++ pending.toList ++ [] = ls := by simpa using h
    refine .inl ⟨_,
      (step_machine rfl).trans (exec_exitRecvHook.trans (runRecvHook_pending hn pending hdone)), ?_⟩
    rw [h]
    simpa using .firstWakes pending fun p hp => h ▸ by simp_all
  | firstWakes pending hp =>
    refine .inl ⟨_, (step_machine rfl).trans exec_wake, ?_⟩
    simpa [Ubatch.peer] using .secondLast pending hp
  | secondLast pending hp =>
    refine .inl ?_
    cases pending with
    | none =>
      refine ⟨_, (step_machine rfl).trans exec_unregister, ?_⟩
      simpa using .secondExits
    | some p =>
      refine ⟨_, step_receive rfl (mem_calls.2 (hp p rfl)), ?_⟩
      simpa using .secondLast none (by simp)
  | secondExits =>
    refine .inl ⟨_, (step_machine rfl).trans (exec_exitRecvHook.trans (runRecvHook_none rfl)), ?_⟩
    simpa using .secondWakes
  | secondWakes =>
    refine .inl ⟨_, (step_machine rfl).trans exec_wake, ?_⟩
    simpa [Ubatch.peer] using .finished
  | finished => exact .inr ⟨fun i => by cases i <;> rfl, List.map_map.trans (List.map_id _)⟩

/-- What holds in every state of a run over these layers. -/
structure Handoff (ls : List Nat) (w : Machine) : Prop where
  /-- Only what lies in the window is dispatched and not received. -/
  outstanding : w.sent = w.received.map (·.1) ++ w.window.toList
  /-- No call receives twice, and each receives its own dispatch. -/
  once : (w.received.map (·.1)).Nodup
  own : ∀ r ∈ w.received, r.2 = r.1
  /-- A dispatch finds all earlier ones received. -/
  dispatch : ∀ layer rest, w.todo w.running = .sendAttnOutput layer :: rest → w.sent = w.received.map (·.1)
  /-- A call's output is there before the model goes on with it. -/
  output : ∀ layer rest, w.todo w.running = .receive layer :: rest →
    w.output ⟨w.running, layer⟩ = some ⟨w.running, layer⟩
  /-- A hook is registered into an empty slot of a thread that is still there. -/
  register : ∀ layer rest, w.todo w.running = .registerRecvHook layer :: rest →
    w.registered w.running.peer = true ∧ w.recvHook w.running.peer = none
  /-- A thread with a hook has yet to run it, in its exit at the latest. -/
  hook : ∀ i c, w.recvHook i = some c → .exitRecvHook ∈ w.todo i
  /-- `dbo_enabled()` when a call asks for it. -/
  enabled : ∀ rest, w.todo w.running = .maybeRunRecvHook :: rest → w.dboEnabled = true
  /-- Nobody is stuck; in the end every call of both threads has been received. -/
  progress : (∃ v, w.step = some v) ∨ (∀ i, w.todo i = []) ∧ w.received.map (·.1) = calls ls

/-- What the next step finds. -/
def Finds (i : Ubatch) (registered : Ubatch → Bool) (hook : Ubatch → Option Call) (window : Option Call)
    (got : List Call) : Op → Prop
  | .maybeRunRecvHook => registered = both true true
  | .sendAttnOutput _ => window = none
  | .registerRecvHook _ => registered = both true true ∧ hook = both none none
  | .receive layer => ⟨i, layer⟩ ∈ got
  | _ => True

theorem Handoff.of_machine {i : Ubatch} {todo : Ubatch → List Op} {registered : Ubatch → Bool}
    {hook : Ubatch → Option Call} {window : Option Call} {got : List Call} (hgot : got.Nodup)
    (hhead : ∀ op rest, todo i = op :: rest → Finds i registered hook window got op)
    (hhook : ∀ j c, hook j = some c → .exitRecvHook ∈ todo j)
    (hprogress : (∃ v, (machine i todo registered hook window got).step = some v) ∨
      (∀ j, todo j = []) ∧ (machine i todo registered hook window got).received.map (·.1) = calls ls) :
    Handoff ls (machine i todo registered hook window got) := by
  have hfst : (machine i todo registered hook window got).received.map (·.1) = got :=
    List.map_map.trans (List.map_id got)
  refine ⟨?_, hfst.symm ▸ hgot, ?_, fun layer rest h => ?_, fun layer rest h => ?_,
    fun layer rest h => ?_, hhook, fun rest h => ?_, hprogress⟩
  · rw [hfst]
    rfl
  · intro r hr
    obtain ⟨c, -, rfl⟩ := List.mem_map.1 hr
    rfl
  · obtain rfl : window = none := hhead _ _ h
    rw [hfst]
    simp [machine]
  · exact output_machine.trans (if_pos (hhead _ _ h))
  · obtain ⟨rfl, rfl⟩ := hhead _ _ h
    cases i <;> exact ⟨rfl, rfl⟩
  · obtain rfl := hhead _ _ h
    rfl

theorem exitRecvHook_mem_tail (layers : List Nat) : .exitRecvHook ∈ tail layers := by simp [tail, exitOps]

theorem nodup_done {dn rest : List Nat} (hn : ls.Nodup) (h : dn ++ rest = ls) : (calls dn).Nodup :=
  nodup_calls (hn.sublist (h ▸ List.sublist_append_left dn rest))

theorem nodup_first {dn rest : List Nat} {l : Nat} (hn : ls.Nodup) (h : dn ++ l :: rest = ls) :
    (calls dn ++ [(⟨.first, l⟩ : Call)]).Nodup := by
  rw [List.nodup_append_comm]
  exact List.nodup_cons.2 ⟨not_mem_calls hn h, nodup_done hn h⟩

theorem nodup_pending {dn rest : List Nat} (hn : ls.Nodup) (pending : Option Nat)
    (h : dn ++ pending.toList ++ rest = ls) : (calls dn ++ firstOf pending).Nodup := by
  cases pending with
  | none => exact (List.append_nil _).symm ▸ nodup_done hn (show dn ++ rest = ls by simpa using h)
  | some p => exact nodup_first hn (show dn ++ p :: rest = ls by simpa using h)

theorem Phase.handoff (hn : ls.Nodup) {w : Machine} (h : Phase ls w) : Handoff ls w := by
  have hprogress := (h.next hn).imp_left (Exists.imp fun _ => And.left)
  cases h with
  | firstReady dn pending rest h =>
    refine .of_machine (nodup_pending hn pending h) (fun op rest' hop => ?_) (fun j c hc => ?_) hprogress
    · cases rest with
      | nil => exact (List.cons.inj hop).1 ▸ trivial
      | cons l rest => exact (List.cons.inj hop).1 ▸ rfl
    · cases j with
      | first => exact exitRecvHook_mem_tail rest
      | second => cases hc
  | firstSends dn pending l rest h hp =>
    refine .of_machine (nodup_done hn h) (fun op rest' hop => ?_) (fun j c hc => ?_) hprogress
    · exact (List.cons.inj hop).1 ▸ rfl
    · cases j <;> cases hc
  | firstRegisters dn pending l rest h hp =>
    refine .of_machine (nodup_done hn h) (fun op rest' hop => ?_) (fun j c hc => ?_) hprogress
    · exact (List.cons.inj hop).1 ▸ ⟨rfl, rfl⟩
    · cases j <;> cases hc
  | firstYields dn pending l rest h hp =>
    refine .of_machine (nodup_done hn h) (fun op rest' hop => ?_) (fun j c hc => ?_) hprogress
    · exact (List.cons.inj hop).1 ▸ trivial
    · cases j with
      | first => cases hc
      | second => exact List.mem_append_right _ (exitRecvHook_mem_tail _)
  | secondReady dn pending l rest h hp =>
    refine .of_machine (nodup_done hn h) (fun op rest' hop => ?_) (fun j c hc => ?_) hprogress
    · cases pending with
      | none => exact (List.cons.inj hop).1 ▸ rfl
      | some p => exact (List.cons.inj hop).1 ▸ mem_calls.2 (hp p rfl)
    · cases j with
      | first => cases hc
      | second => exact List.mem_append_right _ (exitRecvHook_mem_tail _)
  | secondSends dn l rest h =>
    refine .of_machine (nodup_first hn h) (fun op rest' hop => ?_) (fun j c hc => ?_) hprogress
    · exact (List.cons.inj hop).1 ▸ rfl
    · cases j <;> cases hc
  | secondRegisters dn l rest h =>
    refine .of_machine (nodup_first hn h) (fun op rest' hop => ?_) (fun j c hc => ?_) hprogress
    · exact (List.cons.inj hop).1 ▸ ⟨rfl, rfl⟩
    · cases j <;> cases hc
  | secondYields dn l rest h =>
    refine .of_machine (nodup_first hn h) (fun op rest' hop => ?_) (fun j c hc => ?_) hprogress
    · exact (List.cons.inj hop).1 ▸ trivial
    · cases j with
      | first => exact List.mem_append_right _ (exitRecvHook_mem_tail _)
      | second => cases hc
  | firstReceives dn l rest h =>
    refine .of_machine (nodup_first hn h) (fun op rest' hop => ?_) (fun j c hc => ?_) hprogress
    · exact (List.cons.inj hop).1 ▸ List.mem_append_right _ List.mem_cons_self
    · cases j with
      | first => exact List.mem_append_right _ (exitRecvHook_mem_tail _)
      | second => cases hc
  | firstExits dn pending h =>
    have hdone : dn ++ pending.toList ++ [] = ls := by simpa using h
    refine .of_machine (nodup_pending hn pending hdone) (fun op rest' hop => ?_)
      (fun j c hc => ?_) hprogress
    · exact (List.cons.inj hop).1 ▸ trivial
    · cases j with
      | first => exact List.mem_cons_self
      | second => cases hc
  | firstWakes pending hp =>
    refine .of_machine (nodup_calls hn) (fun op rest' hop => ?_) (fun j c hc => ?_) hprogress
    · exact (List.cons.inj hop).1 ▸ trivial
    · cases j <;> cases hc
  | secondLast pending hp =>
    refine .of_machine (nodup_calls hn) (fun op rest' hop => ?_) (fun j c hc => ?_) hprogress
    · cases pending with
      | none => exact (List.cons.inj hop).1 ▸ trivial
      | some p => exact (List.cons.inj hop).1 ▸ mem_calls.2 (hp p rfl)
    · cases j <;> cases hc
  | secondExits | secondWakes =>
    refine .of_machine (nodup_calls hn) (fun op rest' hop => ?_) (fun j c hc => ?_) hprogress
    · exact (List.cons.inj hop).1 ▸ trivial
    · cases j <;> cases hc
  | finished => exact .of_machine (nodup_calls hn) nofun (fun j c hc => by cases j <;> cases hc) hprogress

theorem start_eq (ls : List Nat) :
    machine .first (both (tail ls) (resume none ls)) (both true true) (both (secondOf none) none)
      (secondOf none)
      (calls [] ++ firstOf none) = start (ls.flatMap callOps) := by
  have hboth : ∀ {α : Type} (a : α), both a a = fun _ => a := fun a => funext fun i => by cases i <;> rfl
  simp only [machine, start, ← hboth]
  rfl

end Step

/-! ## The handoff -/

/-- In every reachable state of two threads that run an Async CAM model, dense
and MoE layers mixed, the window holds the only outstanding dispatch, every
dispatch is received once and for its own call, and no hook is lost. -/
theorem async_cam_handoff (model : AsyncCamModel) :
    ∃ ops, model.forward true = .ok ops ∧ ∀ w, Reachable (start ops) w → Handoff model.remoteLayers w := by
  refine ⟨_, forward_eq model, fun w h => ?_⟩
  have hn := nodup_remoteLayers model
  have hphase : Phase model.remoteLayers w := by
    induction h with
    | refl => exact start_eq model.remoteLayers ▸ .firstReady [] none model.remoteLayers rfl
    | step _ hs ih =>
      rcases ih.next hn with ⟨v, hv, hphase⟩ | ⟨hnil, -⟩
      · obtain rfl := Option.some.inj (hs.symm.trans hv)
        exact hphase
      · simp [Machine.step, hnil] at hs
  exact hphase.handoff hn

end AfdPlugin.AsyncCamDbo
