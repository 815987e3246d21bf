import AfdPlugin.Connectors.Camp2pCounts
import AfdPlugin.Connectors.P2p
import AfdPlugin.Lib.Channels
/-!
# Control payloads on their way

Attention ranks announce each step to the FFN ranks over a group of their own,
in which the FFN ranks come first. Who sends, to whom, and from whom an FFN rank
receives are three formulas that both connectors carry.
-/

namespace AfdPlugin.ControlPlane

open AfdPlugin.Topology Channels P2p Camp2p

/-! ## The control group -/

/-- What one process knows of the control group. -/
structure ControlRank where
  participates : Bool
  p2pRank : Nat
  worldRank : Nat
  ffnSize : Nat
  minSize : Nat
  dstList : List Nat
  deriving DecidableEq, Repr

namespace ControlRank

/-- Whether `send_dp_metadata_list` sends at all. -/
def sends (c : ControlRank) : Bool :=
  c.participates && decide (c.ffnSize ≤ c.worldRank ∧ c.worldRank < c.ffnSize + c.minSize)

/-- Who receives its payloads. -/
def sendTargets (c : ControlRank) : List Nat := if c.sends then c.dstList else []

/-- Whom `recv_dp_metadata_list` receives from. -/
def recvSource (c : ControlRank) : Nat := c.p2pRank % c.minSize + c.ffnSize

end ControlRank

/-- A connector with a control plane. -/
inductive Connector where
  | p2p (c : P2pNcclAFDConnector)
  | camp2p (c : CAMP2pAFDConnector)

namespace Connector

def afdConfig : Connector → AFDConfig
  | .p2p c => c.afdConfig
  | .camp2p c => c.afdConfig

def roleRank : Connector → Int
  | .p2p c => c.roleRank
  | .camp2p c => c.roleRank

def controlRank : Connector → ControlRank
  | .p2p c => {
      participates := c.mapping.participatesInDpMetadataGroup
      p2pRank := c.mapping.p2pRank
      worldRank := c.mapping.worldRank
      ffnSize := c.mapping.ffnSize
      minSize := c.mapping.minSize
      dstList := c.mapping.dpMetadataDestinations }
  | .camp2p c => {
      participates := c.topology.participatesInP2pGroup
      p2pRank := c.topology.p2pRank
      worldRank := c.topology.worldRank
      ffnSize := c.topology.ffnSize
      minSize := c.topology.minSize
      dstList := c.topology.dpMetadataDestinations }

/-- The payload that goes on the wire. -/
def wirePayload : Connector → AFDControlPayload → Except String AFDControlPayload
  | .p2p _, payload => .ok payload
  | .camp2p c, payload => c.physicalPayload payload

end Connector

/-! ## Sending and receiving -/

/-- The two messages of a payload. -/
inductive Fragment where
  | size (numel : Nat)
  | object (payload : Json)

variable (numel : Json → Nat)

def sendControlPayload (payload : AFDControlPayload) (dsts : List Nat) : List (Op Nat Fragment) :=
  dsts.flatMap fun d =>
    [.send d (.size (numel (encodeControlPayload payload))),
      .send d (.object (encodeControlPayload payload))]

def recvControlPayload (src : Nat) : List (Op Nat Fragment) := [.recv src, .recv src]

/-- `send_dp_metadata_list`. -/
def Connector.sendDpMetadataList (c : Connector) (payload : AFDControlPayload) :
    Except String (List (Op Nat Fragment)) :=
  if ¬ c.controlRank.sends then .ok []
  else do
    let wire ← c.wirePayload payload
    pure (sendControlPayload numel wire c.controlRank.dstList)

/-- What `recv_control_payload` makes of the messages it receives: an object
must have the size announced for it. -/
def decodeFragments : List Fragment → Except String (List AFDControlPayload)
  | [] => .ok []
  | .size n :: .object payload :: rest =>
    if numel payload = n then do
      let p ← decodeControlPayload payload
      pure (p :: (← decodeFragments rest))
    else .error "message size mismatch"
  | _ => .error "unexpected message"

/-! ## A world of connectors -/

/-- The connectors of `F` FFN and `A` Attention ranks, by world rank. -/
structure IsWorld (A F : Nat) (conns : Nat → Connector) : Prop where
  ffn : ∀ f < F, ∃ g, (conns f).afdConfig = ⟨.ffn, A, F, g⟩ ∧ (conns f).roleRank = f
  attention : ∀ a < A, ∃ g, (conns (F + a)).afdConfig = ⟨.attention, A, F, g⟩ ∧ (conns (F + a)).roleRank = a

/-- What the process at group rank `r` does in `rounds` steps: an FFN rank
receives, and an Attention rank does what its calls of `send_dp_metadata_list`
do. -/
def program (A F : Nat) (conns : Nat → Connector) (rounds : Nat)
    (calls : Nat → List (List (Op Nat Fragment))) (r : Nat) : List (Op Nat Fragment) :=
  (List.range (F + A)).flatMap fun w =>
    let c := (conns w).controlRank
    if c.participates ∧ c.p2pRank = r then
      if w < F then (List.replicate rounds (recvControlPayload c.recvSource)).flatten
        else (calls (w - F)).flatten
    else []

/-- A received payload says what the wire payload says; its stages may come in
another order. -/
def Delivered (wire payload : AFDControlPayload) : Prop :=
  payload.dpMetadataList.entries.Perm wire.dpMetadataList.entries ∧
    payload = { wire with dpMetadataList := payload.dpMetadataList }

section World
variable {A F : Nat} {conns : Nat → Connector}

theorem destinationsFrom_self {F a : Nat} (ha : a < F) : destinationsFrom F F F a = [a] := by
  obtain ⟨n, rfl⟩ : ∃ n, F = n + 1 := ⟨F - 1, by omega⟩
  have hnext : destinationsFrom (n + 1) (n + 1) n (a + (n + 1)) = [] := by
    cases n with
    | zero => rfl
    | succ n => exact if_neg (by omega)
  rw [destinationsFrom, if_pos ha, hnext]

theorem controlRank_ffn (hF : 1 ≤ F) (hFA : F ≤ A) (h : IsWorld A F conns) {f : Nat} (hf : f < F) :
    (conns f).controlRank = ⟨true, f, f, F, F, []⟩ := by
  obtain ⟨g, hconfig, hrank⟩ := h.ffn f hf
  cases hc : conns f with
  | p2p c =>
    rw [hc] at hconfig hrank
    have hbuilt := c.built
    rw [show c.afdConfig = _ from hconfig, show c.roleRank = _ from hrank,
      buildRankMapping_ffn hFA hf] at hbuilt
    simp only [Connector.controlRank, ← Except.ok.inj hbuilt, AFDRankMapping.participatesInDpMetadataGroup,
      decide_eq_true hf, Bool.true_or, Nat.min_eq_left hFA]
  | camp2p c =>
    rw [hc] at hconfig hrank
    have hbuilt := c.built
    rw [show c.afdConfig = _ from hconfig, show c.roleRank = _ from hrank,
      buildCamp2pTopology_ffn hF hFA hf] at hbuilt
    simp only [Connector.controlRank, ← Except.ok.inj hbuilt, CAMP2PTopology.participatesInP2pGroup,
      decide_eq_true hf, Bool.true_or]

theorem controlRank_attention (hF : 1 ≤ F) (hFA : F ≤ A) (h : IsWorld A F conns) {a : Nat} (ha : a < A) :
    (conns (F + a)).controlRank = ⟨decide (a < F), a + F, F + a, F, F, if a < F then [a] else []⟩ := by
  obtain ⟨g, hconfig, hrank⟩ := h.attention a ha
  have hdst : (if a < F then destinationsFrom F F F a else []) = if a < F then [a] else [] := by
    split
    · rename_i haF
      exact destinationsFrom_self haF
    · rfl
  have hin : (decide (F + a < F) || decide (F ≤ F + a ∧ F + a < F + F)) = decide (a < F) := by
    rw [decide_eq_false (by omega), Bool.false_or]
    exact decide_eq_decide.2 (by omega)
  cases hc : conns (F + a) with
  | p2p c =>
    rw [hc] at hconfig hrank
    have hbuilt := c.built
    rw [show c.afdConfig = _ from hconfig, show c.roleRank = _ from hrank,
      buildRankMapping_attention hF hFA ha, Nat.min_eq_left hFA] at hbuilt
    simp only [Connector.controlRank, ← Except.ok.inj hbuilt, AFDRankMapping.participatesInDpMetadataGroup,
      AFDRankMapping.isAttentionTopMinSizeRank, hdst, hin]
  | camp2p c =>
    rw [hc] at hconfig hrank
    have hbuilt := c.built
    rw [show c.afdConfig = _ from hconfig, show c.roleRank = _ from hrank,
      buildCamp2pTopology_attention hF hFA ha] at hbuilt
    simp only [Connector.controlRank, ← Except.ok.inj hbuilt, CAMP2PTopology.participatesInP2pGroup,
      CAMP2PTopology.isAttnTopMinSizeRank, hdst, hin]

/-- The first `F` Attention ranks send, each to one FFN rank. -/
theorem sendTargets_attention (hF : 1 ≤ F) (hFA : F ≤ A) (h : IsWorld A F conns) {a : Nat} (ha : a < A) :
    (conns (F + a)).controlRank.sends = decide (a < F) ∧
      (conns (F + a)).controlRank.sendTargets = if a < F then [a] else [] := by
  have hsends : (conns (F + a)).controlRank.sends = decide (a < F) := by
    rw [controlRank_attention hF hFA h ha, ControlRank.sends]
    by_cases haF : a < F <;> simp [haF]
  refine ⟨hsends, ?_⟩
  rw [ControlRank.sendTargets, hsends, controlRank_attention hF hFA h ha]
  by_cases haF : a < F <;> simp [haF]

theorem recvSource_ffn (hF : 1 ≤ F) (hFA : F ≤ A) (h : IsWorld A F conns) {f : Nat} (hf : f < F) :
    (conns f).controlRank.recvSource = f + F := by
  rw [controlRank_ffn hF hFA h hf, ControlRank.recvSource, Nat.mod_eq_of_lt hf]

/-! ## The programs of the group -/

theorem flatMap_range_eq {α : Type} {n : Nat} {f : Nat → List α} {k : Nat} (hk : k < n)
    (h : ∀ w < n, w ≠ k → f w = []) : (List.range n).flatMap f = f k := by
  induction n with
  | zero => exact absurd hk (Nat.not_lt_zero k)
  | succ n ih =>
    rw [List.range_succ, List.flatMap_append, List.flatMap_singleton]
    rcases Nat.lt_succ_iff_lt_or_eq.1 hk with hlt | rfl
    · rw [ih hlt fun w hw => h w (by omega), h n (Nat.lt_succ_self n) (by omega), List.append_nil]
    · rw [List.flatMap_eq_nil_iff.2 fun w hw => h w (by have := List.mem_range.1 hw; omega)
        (by have := List.mem_range.1 hw; omega), List.nil_append]

section Programs
variable {rounds : Nat} {calls : Nat → List (List (Op Nat Fragment))} (hF : 1 ≤ F) (hFA : F ≤ A)
  (h : IsWorld A F conns)
include hF hFA h

/-- Which process has which group rank. -/
theorem p2pRank_eq_iff {w r : Nat} (hw : w < F + A) :
    ((conns w).controlRank.participates ∧ (conns w).controlRank.p2pRank = r) ↔ w = r ∧ r < F + F := by
  rcases Nat.lt_or_ge w F with hwF | hwF
  · rw [controlRank_ffn hF hFA h hwF]
    dsimp only
    constructor
    · rintro ⟨-, rfl⟩
      exact ⟨rfl, by omega⟩
    · rintro ⟨rfl, -⟩
      exact ⟨rfl, rfl⟩
  · obtain ⟨a, rfl⟩ := Nat.exists_eq_add_of_le hwF
    rw [controlRank_attention hF hFA h (show a < A by omega)]
    dsimp only
    constructor
    · rintro ⟨haF, rfl⟩
      exact ⟨Nat.add_comm F a, by have := of_decide_eq_true haF; omega⟩
    · rintro ⟨rfl, hlt⟩
      exact ⟨decide_eq_true (by omega), Nat.add_comm a F⟩

theorem program_ffn {f : Nat} (hf : f < F) :
    program A F conns rounds calls f = (List.replicate rounds (recvControlPayload (f + F))).flatten := by
  rw [program, flatMap_range_eq (k := f) (by omega) fun w hw hne => ?_]
  · rw [if_pos ((p2pRank_eq_iff hF hFA h (by omega)).2 ⟨rfl, by omega⟩), if_pos hf,
      recvSource_ffn hF hFA h hf]
  · exact if_neg fun hr => hne ((p2pRank_eq_iff hF hFA h hw).1 hr).1

theorem program_sender {a : Nat} (ha : a < F) :
    program A F conns rounds calls (F + a) = (calls a).flatten := by
  rw [program, flatMap_range_eq (k := F + a) (by omega) fun w hw hne => ?_]
  · rw [if_pos ((p2pRank_eq_iff hF hFA h (by omega)).2 ⟨rfl, by omega⟩), if_neg (by omega),
      Nat.add_sub_cancel_left]
  · exact if_neg fun hr => hne ((p2pRank_eq_iff hF hFA h hw).1 hr).1

theorem program_other {r : Nat} (hr : F + F ≤ r) : program A F conns rounds calls r = [] := by
  refine List.flatMap_eq_nil_iff.2 fun w hw => if_neg fun hw' => ?_
  have := ((p2pRank_eq_iff hF hFA h (List.mem_range.1 hw)).1 hw').2
  omega

end Programs

/-! ## What the programs send and receive -/

theorem sendsTo_append (d : Nat) (l l' : List (Op Nat Fragment)) :
    sendsTo d (l ++ l') = sendsTo d l ++ sendsTo d l' :=
  List.filterMap_append

/-- The messages of a list of payloads. -/
def fragments (wires : List AFDControlPayload) : List Fragment :=
  wires.flatMap fun wire => [.size (numel (encodeControlPayload wire)), .object (encodeControlPayload wire)]

/-- A sender's calls put the wire payloads on the channel to its FFN rank and
nothing on any other. -/
theorem exists_wires (hF : 1 ≤ F) (hFA : F ≤ A) (h : IsWorld A F conns) {a : Nat} (ha : a < F)
    {payloads : List AFDControlPayload} {calls : List (List (Op Nat Fragment))}
    (hcalls : List.Forall₂ (fun payload ops => (conns (F + a)).sendDpMetadataList numel payload =
      .ok ops) payloads calls) :
    ∃ wires, List.Forall₂ (fun payload wire => (conns (F + a)).wirePayload payload = .ok wire)
      payloads wires ∧
      (∀ d, sendsTo d calls.flatten = if d = a then fragments numel wires else []) ∧
        ∀ s, .recv s ∉ calls.flatten := by
  obtain ⟨hsends, -⟩ := sendTargets_attention hF hFA h (show a < A by omega)
  have hdst : (conns (F + a)).controlRank.dstList = [a] := by
    rw [controlRank_attention hF hFA h (by omega)]
    exact if_pos ha
  induction hcalls with
  | nil => exact ⟨[], .nil, fun d => by simp [fragments], fun s => List.not_mem_nil⟩
  | @cons payload ops payloads calls hcall _ ih =>
    obtain ⟨wires, hwires, hsent, hrecv⟩ := ih
    rw [Connector.sendDpMetadataList, hsends, decide_eq_true ha, if_neg (by simp)] at hcall
    cases hwire : (conns (F + a)).wirePayload payload with
    | error e =>
      rw [hwire] at hcall
      cases hcall
    | ok wire =>
      rw [hwire, hdst] at hcall
      obtain rfl := Except.ok.inj hcall
      refine ⟨wire :: wires, .cons hwire hwires, fun d => ?_, fun s => ?_⟩
      · rw [List.flatten_cons, sendsTo_append, hsent]
        simp only [sendControlPayload, List.flatMap_singleton, sendsTo_send, sendsTo_nil, List.append_nil]
        by_cases hd : d = a
        · simp [hd, fragments]
        · simp [hd, Ne.symm hd]
      · rw [List.flatten_cons, List.mem_append, not_or]
        exact ⟨by simp [sendControlPayload], hrecv s⟩

theorem recvsFrom_receives (src s rounds : Nat) :
    recvsFrom s ((List.replicate rounds (recvControlPayload src)).flatten) = if src = s then 2 * rounds
      else 0 := by
  induction rounds with
  | zero => simp
  | succ rounds ih =>
    rw [List.replicate_succ, List.flatten_cons, recvControlPayload, List.cons_append, List.cons_append,
      List.nil_append, recvsFrom_recv, recvsFrom_recv, ← recvControlPayload, ih]
    split <;> omega

theorem length_fragments (wires : List AFDControlPayload) :
    (fragments numel wires).length = 2 * wires.length := by
  simp [fragments, List.length_flatMap, Nat.mul_comm]

/-- Decoding the messages gives the payloads back. -/
theorem decodeFragments_fragments (wires : List AFDControlPayload) :
    ∃ received, decodeFragments numel (fragments numel wires) = .ok received ∧
      List.Forall₂ Delivered wires received := by
  induction wires with
  | nil => exact ⟨[], rfl, .nil⟩
  | cons wire wires ih =>
    obtain ⟨received, hdecode, hdelivered⟩ := ih
    obtain ⟨d, hperm, hwire⟩ := decodeControlPayload_encode wire
    refine ⟨{ wire with dpMetadataList := d } :: received, ?_, .cons ⟨hperm, rfl⟩ hdelivered⟩
    rw [fragments, List.flatMap_cons, List.cons_append, List.cons_append, List.nil_append,
      decodeFragments, if_pos rfl, hwire, ← fragments, hdecode]
    rfl

/-- Every process made its calls; a sender made one in each round. -/
structure Calls (A F rounds : Nat) (conns : Nat → Connector) (payloads : Nat → List AFDControlPayload)
    (calls : Nat → List (List (Op Nat Fragment))) : Prop where
  returned : ∀ a < A,
    List.Forall₂ (fun payload ops => (conns (F + a)).sendDpMetadataList numel payload = .ok ops)
    (payloads a) (calls a)
  rounds : ∀ a < A, (payloads a).length = rounds

section Runs
variable {numel} {rounds : Nat} {payloads : Nat → List AFDControlPayload}
  {calls : Nat → List (List (Op Nat Fragment))} (hF : 1 ≤ F) (hFA : F ≤ A) (h : IsWorld A F conns)
  (hcalls : Calls numel A F rounds conns payloads calls)
include hF hFA h hcalls

theorem recvsFrom_program (s d : Nat) :
    recvsFrom s (program A F conns rounds calls d) = if d < F ∧ d + F = s then 2 * rounds else 0 := by
  rcases Nat.lt_or_ge d F with hd | hd
  · rw [program_ffn hF hFA h hd, recvsFrom_receives]
    simp only [hd, true_and]
  · rw [if_neg (by omega)]
    rcases Nat.lt_or_ge d (F + F) with hd' | hd'
    · obtain ⟨a, rfl⟩ := Nat.exists_eq_add_of_le hd
      obtain ⟨wires, -, -, hrecv⟩ :=
        exists_wires numel hF hFA h (show a < F by omega) (hcalls.returned a (by omega))
      rw [program_sender hF hFA h (by omega)]
      by_contra hne
      obtain ⟨op, hop, hs⟩ := List.countP_pos_iff.1 (Nat.pos_of_ne_zero hne)
      cases op with
      | send d' m => simp at hs
      | recv s' => exact hrecv s' hop
    · rw [program_other hF hFA h hd', recvsFrom_nil]

theorem oneWay_program : OneWay (program A F conns rounds calls) := by
  have hffn : ∀ f < F, ∀ d m, Op.send d m ∉ program A F conns rounds calls f := by
    intro f hf d m hmem
    rw [program_ffn hF hFA h hf, List.mem_flatten] at hmem
    obtain ⟨l, hl, hm⟩ := hmem
    rw [(List.mem_replicate.1 hl).2] at hm
    simp [recvControlPayload] at hm
  refine ⟨fun r => ?_, fun s d => ?_⟩
  · rcases Nat.lt_or_ge r F with hr | hr
    · exact .inl (hffn r hr)
    · rcases Nat.lt_or_ge r (F + F) with hr' | hr'
      · obtain ⟨a, rfl⟩ := Nat.exists_eq_add_of_le hr
        obtain ⟨wires, -, -, hrecv⟩ :=
          exists_wires numel hF hFA h (show a < F by omega) (hcalls.returned a (by omega))
        rw [program_sender hF hFA h (by omega)]
        exact .inr hrecv
      · rw [program_other hF hFA h hr']
        exact .inl fun d m => List.not_mem_nil
  · rw [recvsFrom_program hF hFA h hcalls]
    rcases Nat.lt_or_ge s F with hs | hs
    · rw [sendsTo_eq_nil (hffn s hs), if_neg (by omega)]
      rfl
    · rcases Nat.lt_or_ge s (F + F) with hs' | hs'
      · obtain ⟨a, rfl⟩ := Nat.exists_eq_add_of_le hs
        have ha : a < F := by omega
        obtain ⟨wires, hwires, hsent, -⟩ := exists_wires numel hF hFA h ha (hcalls.returned a (by omega))
        rw [program_sender hF hFA h ha, hsent]
        by_cases hd : d = a
        · subst hd
          rw [if_pos rfl, if_pos ⟨ha, Nat.add_comm d F⟩, length_fragments, ← hwires.length_eq,
            hcalls.rounds d (by omega)]
        · rw [if_neg hd, if_neg (by omega)]
          rfl
      · rw [program_other hF hFA h hs', if_neg (by omega)]
        rfl

/-- In a finished run each FFN rank has its sender's payloads. -/
theorem received_of_finished {net : Net Nat Fragment}
    (hgot : ∀ s d, net.got d s = sendsTo d (program A F conns rounds calls s)) {f : Nat} (hf : f < F) :
    ∃ received, decodeFragments numel (net.got f (f + F)) = .ok received ∧
      List.Forall₂ (fun payload p => ∃ wire, (conns (F + f)).wirePayload payload = .ok wire ∧
        Delivered wire p)
        (payloads f) received := by
  obtain ⟨wires, hwires, hsent, -⟩ := exists_wires numel hF hFA h hf (hcalls.returned f (by omega))
  obtain ⟨received, hdecode, hdelivered⟩ := decodeFragments_fragments numel wires
  refine ⟨received, ?_, ?_⟩
  · rw [hgot, Nat.add_comm, program_sender hF hFA h hf, hsent, if_pos rfl, hdecode]
  · clear hdecode hsent
    generalize payloads f = sent at hwires ⊢
    induction hwires generalizing received with
    | nil =>
      cases hdelivered
      exact .nil
    | cons hwire _ ih =>
      cases hdelivered with
      | cons hp hrest => exact .cons ⟨_, hwire, hp⟩ (ih _ hrest)

end Runs

/-! ## Routing -/

/-- The control plane of either connector: each FFN rank is the destination of
exactly one Attention rank and receives from that rank's place in the group;
the members of the group have the ranks `0, …, F + min A F - 1`; no other
Attention rank sends; and a run in which each sender makes its calls can always
go on until everyone is done, and then every FFN rank has received its sender's
payloads, in order. -/
theorem control_plane_routing {A F : Nat} (hF : 1 ≤ F) (hFA : F ≤ A) (conns : Nat → Connector)
    (h : IsWorld A F conns) :
    (∀ f < F, ∃ a < A, (conns (F + a)).controlRank.sendTargets.count f = 1 ∧
      (conns f).controlRank.recvSource = (conns (F + a)).controlRank.p2pRank ∧
      ∀ a' < A, a' ≠ a → f ∉ (conns (F + a')).controlRank.sendTargets) ∧
    (((List.range (F + A)).filter fun w => (conns w).controlRank.participates).map
      fun w => (conns w).controlRank.p2pRank).Perm (List.range (F + min A F)) ∧
    (∀ a < A, min A F ≤ a → (conns (F + a)).controlRank.participates = false ∧
      ∀ numel payload, (conns (F + a)).sendDpMetadataList numel payload = .ok []) ∧
    ∀ numel rounds payloads calls, Calls numel A F rounds conns payloads calls →
      ∀ net, Steps (.init (program A F conns rounds calls)) net →
        (∃ net', Step net net') ∨
          ((∀ r, net.todo r = []) ∧ ∀ f < F, ∃ received,
            decodeFragments numel (net.got f (conns f).controlRank.recvSource) = .ok received ∧
            List.Forall₂ (fun payload p => ∃ wire, (conns (F + f)).wirePayload payload = .ok wire ∧
              Delivered wire p)
              (payloads f) received) := by
  refine ⟨fun f hf => ⟨f, by omega, ?_, ?_, fun a' ha' hne => ?_⟩, ?_,
    fun a ha hmin => ⟨?_, fun numel payload => ?_⟩,
    fun numel rounds payloads calls hcalls net hnet => ?_⟩
  · rw [(sendTargets_attention hF hFA h (by omega)).2, if_pos hf]
    simp
  · rw [recvSource_ffn hF hFA h hf, controlRank_attention hF hFA h (by omega)]
  · rw [(sendTargets_attention hF hFA h ha').2]
    split
    · simpa using Ne.symm hne
    · exact List.not_mem_nil
  · rw [Nat.min_eq_right hFA]
    have hfilter : (List.range (F + A)).filter (fun w => (conns w).controlRank.participates) =
        List.range (F + F) := by
      apply List.Pairwise.eq_of_mem_iff (List.pairwise_lt_range.filter _) List.pairwise_lt_range
      intro w
      rw [List.mem_filter, List.mem_range, List.mem_range]
      constructor
      · rintro ⟨hw, hin⟩
        exact ((p2pRank_eq_iff hF hFA h hw).1 ⟨hin, rfl⟩).1 ▸ ((p2pRank_eq_iff hF hFA h hw).1 ⟨hin, rfl⟩).2
      · intro hw
        exact ⟨by omega, ((p2pRank_eq_iff hF hFA h (by omega)).2 ⟨rfl, hw⟩).1⟩
    have hid : (List.range (F + F)).map (fun w => (conns w).controlRank.p2pRank) = List.range (F + F) := by
      conv_rhs => rw [← List.map_id (List.range (F + F))]
      refine List.map_congr_left fun w hw => ?_
      have hw := List.mem_range.1 hw
      exact ((p2pRank_eq_iff hF hFA h (by omega)).2 ⟨rfl, hw⟩).2
    rw [hfilter, hid]
  · rw [controlRank_attention hF hFA h ha]
    exact decide_eq_false (by omega)
  · rw [Connector.sendDpMetadataList, (sendTargets_attention hF hFA h ha).1, decide_eq_false (by omega)]
    rfl
  · rcases (oneWay_program hF hFA h hcalls).complete hnet with hstep | ⟨hdone, hgot⟩
    · exact .inl hstep
    · refine .inr ⟨hdone, fun f hf => ?_⟩
      rw [recvSource_ffn hF hFA h hf]
      exact received_of_finished hF hFA h hcalls hgot hf

end World

/-- The CAMP2P connectors of three Attention and two FFN ranks. -/
def threeTwo : Nat → Connector
  | 0 => .camp2p ⟨⟨.ffn, 3, 2, false⟩, 0, _, rfl, ∅, false, false⟩
  | 1 => .camp2p ⟨⟨.ffn, 3, 2, false⟩, 1, _, rfl, ∅, false, false⟩
  | 2 => .camp2p ⟨⟨.attention, 3, 2, false⟩, 0, _, rfl, ∅, false, false⟩
  | 3 => .camp2p ⟨⟨.attention, 3, 2, false⟩, 1, _, rfl, ∅, false, false⟩
  | _ => .camp2p ⟨⟨.attention, 3, 2, false⟩, 2, _, rfl, ∅, false, false⟩

theorem isWorld_threeTwo : IsWorld 3 2 threeTwo := by
  refine ⟨fun f hf => ⟨false, ?_⟩, fun a ha => ⟨false, ?_⟩⟩
  · interval_cases f <;> exact ⟨rfl, rfl⟩
  · interval_cases a <;> exact ⟨rfl, rfl⟩

/-- One stage, with the counts of three DP ranks. -/
def threeTwoPayload (a : Nat) : AFDControlPayload :=
  ⟨(∅ : Dict Int AFDDPMetadata).set 0 ⟨[5, 7, 9], 9⟩, false, a = 1, false, false⟩

/-- Every Attention rank announces one step. -/
def threeTwoCalls (a : Nat) : List (List (Op Nat Fragment)) :=
  [if a < 2 then sendControlPayload (fun _ => 64) (threeTwoPayload a) [a] else []]

theorem calls_threeTwo :
    Calls (fun _ => 64) 3 2 1 threeTwo (fun a => [threeTwoPayload a]) threeTwoCalls := by
  refine ⟨fun a ha => .cons ?_ .nil, fun a ha => rfl⟩
  interval_cases a <;> rfl

/-- Three Attention ranks on two FFN ranks: the group has four members, and the two FFN
ranks receive what the first two Attention ranks announce. -/
theorem control_plane_routing_three_two :
    (((List.range 5).filter fun w => (threeTwo w).controlRank.participates).map
      fun w => (threeTwo w).controlRank.p2pRank).Perm [0, 1, 2, 3] ∧
    ∃ net, Steps (.init (program 3 2 threeTwo 1 threeTwoCalls)) net ∧ (∀ r, net.todo r = []) ∧
      ∀ f < 2, ∃ payload, decodeFragments (fun _ => 64) (net.got f (f + 2)) = .ok [payload] ∧
        Delivered (threeTwoPayload f) payload := by
  obtain ⟨-, hmembers, -, hdelivers⟩ :=
    control_plane_routing (by decide) (by decide) threeTwo isWorld_threeTwo
  refine ⟨hmembers, ?_⟩
  have honeWay := oneWay_program (by decide) (by decide) isWorld_threeTwo calls_threeTwo
  obtain ⟨net, hrun, hdone⟩ := honeWay.exists_done (Finset.range 4) fun r hr =>
    program_other (by decide) (by decide) isWorld_threeTwo (by simpa using hr)
  refine ⟨net, hrun, hdone, fun f hf => ?_⟩
  rcases hdelivers _ _ _ _ calls_threeTwo net hrun with ⟨net', hstep⟩ | ⟨-, hreceived⟩
  · cases hstep with
    | send htodo => cases htodo.symm.trans (hdone _)
    | recv htodo => cases htodo.symm.trans (hdone _)
  · obtain ⟨received, hdecode, hpayloads⟩ := hreceived f hf
    cases hpayloads with
    | @cons _ payload _ _ hpayload hnone =>
      cases hnone
      obtain ⟨wire, hwire, hpayload⟩ := hpayload
      have hsource : (threeTwo f).controlRank.recvSource = f + 2 := by interval_cases f <;> rfl
      rw [hsource] at hdecode
      obtain rfl : threeTwoPayload f = wire := by
        interval_cases f
        · exact Except.ok.inj hwire
        · exact Except.ok.inj hwire
      exact ⟨payload, hdecode, hpayload⟩

end AfdPlugin.ControlPlane
