import AfdPlugin.Kernels.CoreOps
/-!
# Rounds of A2E and E2A through the windows

There are no acknowledgements: each core counts its own calls, both kernels count
in one counter, and rows go both ways through the data area of the Attention rank's
window. Every rank runs A2E as kernel `2 * r` and E2A as kernel `2 * r + 1`; the
cores of all ranks interleave freely. Row counts may differ between the groups and
between the two kernels of a round.
-/

namespace AfdPlugin.Kernels

/-- The calls of a deployment, round after round; sizes are those of a kernel. -/
structure Rounds where
  expertRankSize : Nat
  attentionRankSize : Nat
  computeGate : Nat
  /-- Cores of a rank. -/
  cores : Nat → Nat
  /-- Rows of each Attention rank of an expert rank. A2E may carry padding that E2A
  does not return. -/
  batchSize : (kernel expertRank : Nat) → Nat
  hiddenSize : Nat → Nat
  topk : Nat → Nat

namespace Rounds
variable (g : Rounds)

/-- Attention ranks of an expert rank. -/
def ratio : Nat := g.attentionRankSize / g.expertRankSize

def rankSize : Nat := g.expertRankSize + g.attentionRankSize

/-- The batch of a rank: an expert rank has that of all its Attention ranks. -/
def rankBatch (kernel rank : Nat) : Nat :=
  if rank < g.expertRankSize then g.batchSize kernel rank * g.ratio
    else g.batchSize kernel (rank % g.expertRankSize)

def a2eTiling (kernel rank : Nat) : A2ETilingData :=
  ⟨g.rankBatch kernel rank, g.hiddenSize kernel, g.topk kernel, g.expertRankSize, g.attentionRankSize, rank,
    g.computeGate⟩

def e2aTiling (kernel rank : Nat) : E2ATilingData :=
  ⟨g.rankBatch kernel rank, g.hiddenSize kernel, g.topk kernel, g.expertRankSize, g.attentionRankSize, rank⟩

/-- The sizes of a call fit an `int`, and the ids of a sender fit the buffer. -/
def CallFits (kernel rank : Nat) : Prop :=
  if kernel % 2 = 0 then
    if rank < g.expertRankSize then (g.a2eTiling kernel rank).RecvFits (g.cores rank)
    else (g.a2eTiling kernel rank).SendFits (g.cores rank)
  else
    if rank < g.expertRankSize then (g.e2aTiling kernel rank).SendFits (g.cores rank)
    else (g.e2aTiling kernel rank).RecvFits (g.cores rank)

structure Valid : Prop where
  expert_pos : 0 < g.expertRankSize
  attention_pos : 0 < g.attentionRankSize
  dvd : g.expertRankSize ∣ g.attentionRankSize
  cores_pos : ∀ rank < g.rankSize, 0 < g.cores rank
  gate : g.computeGate ≠ 0 → ∀ rank < g.rankSize, 3 ≤ g.cores rank
  fits : ∀ kernel, ∀ rank < g.rankSize, g.CallFits kernel rank

/-- What the cores of a rank do in a kernel, with all that they compute. -/
def call (rank kernel : Nat) : List Event :=
  if kernel % 2 = 0 then a2e (g.a2eTiling kernel rank) (g.cores rank)
    else e2a (g.e2aTiling kernel rank) (g.cores rank)

/-- What a core runs in a kernel of its rank. -/
def ops (rank kernel core : Nat) : List CoreOp :=
  if kernel % 2 = 0 then a2eOps (g.a2eTiling kernel rank) (g.cores rank) core
  else e2aOps (g.e2aTiling kernel rank) (g.cores rank) core

def launches : Launches CoreOp := ⟨g.cores, g.ops⟩

end Rounds

/-! ## The machine -/

/-- All ranks with their windows. Words are those of the flag areas. -/
structure Machine (V : Type) where
  position : Position
  counter : Nat → Nat → Nat
  magic : Nat → Nat → Nat
  arrived : Nat → Nat → Bool
  word : Nat → Nat → Nat
  mem : Address → V

/-- A function of two arguments, changed at one place. -/
def setAt {α : Type} (f : Nat → Nat → α) (i j : Nat) (v : α) : Nat → Nat → α :=
  fun i' j' => if i' = i ∧ j' = j then v else f i' j'

namespace Machine
variable {V : Type} (g : Rounds) (input : Nat → Nat → Channel → Nat → V)

/-- Before the first call: counters and flags are zero. -/
def start (mem : Address → V) : Machine V :=
  ⟨.start, fun _ _ => 0, fun _ _ => 0, fun _ _ => false, fun _ _ => 0, mem⟩

/-- A byte as a kernel reads it; its inputs are those of the call. -/
def load (m : Machine V) (kernel : Nat) (a : Address) : V :=
  match a.buffer with
  | .input rank channel => input kernel rank channel a.offset
  | _ => m.mem a

/-- What an operation does; a wait that does not pass has no step. -/
def effect (m : Machine V) (rank core : Nat) : CoreOp → Option (Machine V)
  | .add => some { m with counter := setAt m.counter rank core ((m.counter rank core + 1) % 2 ^ 32) }
  | .read => some { m with magic := setAt m.magic rank core (m.counter rank core) }
  | .copy src dst =>
    some { m with mem := Function.update m.mem dst (m.load input (m.position.kernel rank) src) }
  | .arrive => some { m with arrived := setAt m.arrived rank core true }
  | .leave => if ∀ c < g.cores rank, m.arrived rank c = true then some m else none
  -- `mergeMagicWithValue`: the lower word is zero
  | .flag r addr =>
    some { m with word := setAt (setAt m.word r addr 0) r (magicWord addr) (m.magic rank core) }
  | .wait w => if m.word rank w = m.magic rank core then some m else none
  | .poll addr =>
    if m.word rank addr = 0 ∧ m.word rank (magicWord addr) = m.magic rank core then some m else none

/-- One step of a core. -/
def coreStep (m : Machine V) (rank core : Nat) : Option (Machine V) := do
  let op ← g.launches.next m.position rank core
  let m' ← m.effect g input rank core op
  some { m' with position := m.position.advance rank core }

/-- The stream of a rank goes on when all cores are through. -/
def launchStep (m : Machine V) (rank : Nat) : Option (Machine V) :=
  if g.launches.Finished m.position rank then
    some { m with
      position := m.position.launch rank
      arrived := fun r c => if r = rank then false else m.arrived r c }
  else none

inductive Action
  | core (rank core : Nat)
  | launch (rank : Nat)

def step (m : Machine V) : Action → Option (Machine V)
  | .core rank core =>
    if rank < g.rankSize ∧ core < g.cores rank then m.coreStep g input rank core else none
  | .launch rank => if rank < g.rankSize then m.launchStep g rank else none

/-- The states of all interleavings. -/
inductive Reachable : Machine V → Prop
  | start (mem : Address → V) : Reachable (start mem)
  | step {m m' : Machine V} (action : Action) : Reachable m → m.step g input action = some m' → Reachable m'

end Machine

/-! ## Links -/

/-- A channel of an Attention rank to its expert rank `e`, or the way back. The
Attention ranks of an expert rank are numbered. -/
inductive Link
  | forward (e i : Nat) (channel : Channel)
  | back (e i : Nat)
  deriving DecidableEq, Repr

namespace Rounds
variable (g : Rounds)

/-- Attention rank `i` of expert rank `e`. -/
def attn (e i : Nat) : Nat := e + (i + 1) * g.expertRankSize

def validLink : Link → Prop
  | .forward e i channel => e < g.expertRankSize ∧ i < g.ratio ∧ channel ∈ channels g.computeGate
  | .back e i => e < g.expertRankSize ∧ i < g.ratio

def sender : Link → Nat
  | .forward e i _ => g.attn e i
  | .back e _ => e

def receiver : Link → Nat
  | .forward e _ _ => e
  | .back e i => g.attn e i

/-- The rank whose window the rows go through. -/
def window : Link → Nat
  | .forward e i _ => g.attn e i
  | .back e i => g.attn e i

def parity : Link → Nat
  | .forward _ _ _ => 0
  | .back _ _ => 1

def slot : Link → Nat
  | .forward _ i channel => channel.flagOffset * g.ratio + i
  | .back _ _ => 0

def flagOp (ℓ : Link) : CoreOp := .flag (g.receiver ℓ) (flagAddr (g.slot ℓ))

def waitOp : Link → CoreOp
  | .forward e i channel => .wait (magicWord (flagAddr (g.slot (.forward e i channel))))
  | .back e i => .poll (flagAddr (g.slot (.back e i)))

def reverse : Link → Link
  | .forward e i _ => .back e i
  | .back e i => .forward e i .x

/-- The bytes of a slice of an answer. -/
def sliceBytes (n e : Nat) : Nat := g.batchSize n e * g.hiddenSize n * 2

/-- What the sender of a link moves in kernel `n`. -/
def payload (n : Nat) : Link → List (Address × Address)
  | .forward e i channel => sendBytes (g.a2eTiling n (g.attn e i)) channel
  | .back e i => (List.range (g.sliceBytes n e)).map fun j =>
    (⟨.input e .x, i * g.sliceBytes n e + j⟩, ⟨.window (g.attn e i), j⟩)

/-- What its receiver moves, byte by byte in the same order. -/
def reads (n : Nat) : Link → List (Address × Address)
  | .forward e i channel => recvBytes (g.a2eTiling n e) channel i
  | .back e i =>
    (List.range (g.sliceBytes n e)).map fun j =>
      (⟨.window (g.attn e i), j⟩, ⟨.output (g.attn e i) .x, j⟩)

end Rounds

/-! ### Ranks and slots -/

namespace Rounds
variable {g : Rounds}

theorem attn_eq (e i : Nat) : g.attn e i = g.expertRankSize + (e + i * g.expertRankSize) :=
  (sender_rank _ _ _).symm

theorem attn_mod {e : Nat} (he : e < g.expertRankSize) (i : Nat) : g.attn e i % g.expertRankSize = e := by
  rw [attn_eq]
  exact (sender_mod_div he i).1

theorem attn_div {e : Nat} (he : e < g.expertRankSize) (i : Nat) :
    g.attn e i / g.expertRankSize - 1 = i := by
  rw [attn_eq]
  exact (sender_mod_div he i).2

theorem le_attn (e i : Nat) : g.expertRankSize ≤ g.attn e i := by
  rw [attn_eq]
  omega

theorem attn_inj {e i e' i' : Nat} (he : e < g.expertRankSize) (he' : e' < g.expertRankSize)
    (h : g.attn e i = g.attn e' i') : e = e' ∧ i = i' := by
  constructor
  · rw [← attn_mod he i, h, attn_mod he' i']
  · rw [← attn_div he i, h, attn_div he' i']

theorem flagAddr_inj {s s' : Nat} (h : flagAddr s = flagAddr s') : s = s' := by
  simp only [flagAddr, flagUnitInt64Num] at h
  omega

/-- The words of two flags are apart. -/
theorem magicWord_ne_flagAddr (s s' : Nat) : magicWord (flagAddr s) ≠ flagAddr s' := by
  simp only [magicWord, flagAddr, flagUnitInt64Num]
  omega

theorem slot_inj {e i e' i' : Nat} {channel channel' : Channel} (hi : i < g.ratio) (hi' : i' < g.ratio)
    (h : g.slot (.forward e i channel) = g.slot (.forward e' i' channel')) :
    i = i' ∧ channel = channel' := by
  simp only [slot] at h
  cases channel <;> cases channel' <;> simp only [Channel.flagOffset] at h <;>
    first
      | exact ⟨by omega, rfl⟩
      | omega

theorem expert_lt {e : Nat} (he : e < g.expertRankSize) : e < g.rankSize := by
  rw [rankSize]
  omega

theorem rankBatch_attn {e : Nat} (he : e < g.expertRankSize) (i n : Nat) :
    g.rankBatch n (g.attn e i) = g.batchSize n e := by
  rw [rankBatch, if_neg (not_lt.2 (le_attn e i)), attn_mod he]

section Valid
variable (h : g.Valid)
include h

theorem ratio_mul : g.ratio * g.expertRankSize = g.attentionRankSize := Nat.div_mul_cancel h.dvd

theorem ratio_pos : 0 < g.ratio := Nat.div_pos (Nat.le_of_dvd h.attention_pos h.dvd) h.expert_pos

theorem attn_lt {e i : Nat} (he : e < g.expertRankSize) (hi : i < g.ratio) : g.attn e i < g.rankSize := by
  have hmul := Nat.mul_le_mul_right g.expertRankSize (Nat.succ_le_of_lt hi)
  rw [ratio_mul h, Nat.succ_mul] at hmul
  rw [attn_eq, rankSize]
  omega

theorem receiver_lt {ℓ : Link} (hℓ : g.validLink ℓ) : g.receiver ℓ < g.rankSize := by
  rcases ℓ with ⟨e, i, channel⟩ | ⟨e, i⟩
  · exact expert_lt hℓ.1
  · exact attn_lt h hℓ.1 hℓ.2

/-- Every Attention rank belongs to an expert rank. -/
theorem exists_attn {rank : Nat} (hle : g.expertRankSize ≤ rank) (hlt : rank < g.rankSize) :
    ∃ e < g.expertRankSize, ∃ i < g.ratio, rank = g.attn e i := by
  have hF := h.expert_pos
  have hdiv := Nat.div_add_mod (rank - g.expertRankSize) g.expertRankSize
  refine ⟨(rank - g.expertRankSize) % g.expertRankSize, Nat.mod_lt _ hF,
    (rank - g.expertRankSize) / g.expertRankSize, ?_, ?_⟩
  · rw [Nat.div_lt_iff_lt_mul hF, ratio_mul h]
    rw [rankSize] at hlt
    omega
  · rw [attn_eq, Nat.mul_comm]
    omega

theorem ceilRatio_eq_ratio : ceilRatio g.expertRankSize g.attentionRankSize = g.ratio := by
  rw [ceilRatio_eq h.expert_pos (Nat.le_of_dvd h.attention_pos h.dvd),
    if_pos (Nat.mod_eq_zero_of_dvd h.dvd)]
  rfl

theorem correctedRatio_eq_ratio (rank : Nat) :
    correctedRatio g.expertRankSize g.attentionRankSize rank = g.ratio := by
  have hmod := Nat.mod_eq_zero_of_dvd h.dvd
  rw [correctedRatio, if_neg (fun hcond => hcond.2.2.2 hmod), ceilRatio_eq_ratio h]

theorem rankBatch_div {e : Nat} (he : e < g.expertRankSize) (n : Nat) :
    g.rankBatch n e / g.ratio = g.batchSize n e := by
  rw [rankBatch, if_pos he, Nat.mul_div_cancel _ (ratio_pos h)]

theorem recvBatchSize_eq {e : Nat} (he : e < g.expertRankSize) (n : Nat) :
    (A2e.init (g.a2eTiling n e)).recvBatchSize = g.batchSize n e := by
  change g.rankBatch n e / ceilRatio g.expertRankSize g.attentionRankSize = _
  rw [ceilRatio_eq_ratio h, rankBatch_div h he]

theorem flagOf_eq (n rank e i : Nat) (channel : Channel) :
    flagOf (g.a2eTiling n rank) channel i = flagAddr (g.slot (.forward e i channel)) := by
  change flagAddr (_ * correctedRatio g.expertRankSize g.attentionRankSize rank + i) = _
  rw [correctedRatio_eq_ratio h]
  rfl

/-- No call computes anything that does not fit. -/
theorem call_allSafe {rank : Nat} (hrank : rank < g.rankSize) (n : Nat) : AllSafe (g.call rank n) := by
  have hfits := h.fits n rank hrank
  have hcores := h.cores_pos rank hrank
  have hratio : 0 < correctedRatio g.expertRankSize g.attentionRankSize rank := by
    rw [correctedRatio_eq_ratio h]
    exact ratio_pos h
  unfold CallFits at hfits
  unfold call
  split_ifs at hfits ⊢ with hn hlt hlt
  · exact (allSafe_a2e_recv (t := g.a2eTiling n rank) hlt hcores hratio).2 hfits
  · exact (allSafe_a2e_send (not_lt.1 hlt) hcores).2 hfits
  · exact (allSafe_e2a_send (t := g.e2aTiling n rank) hlt hcores hratio).2 hfits
  · exact (allSafe_e2a_recv (not_lt.1 hlt) hcores).2 hfits

/-! ### What the cores run -/

/-- An Attention rank in A2E. -/
theorem ops_attn_even {e i n c : Nat} (he : e < g.expertRankSize) (hn : n % 2 = 0) :
    g.ops (g.attn e i) n c =
      countOps ++ (moved (a2eCore (g.a2eTiling n (g.attn e i)) (g.cores (g.attn e i)) c)).map copyOp ++
        if sendChannel g.computeGate (g.cores (g.attn e i)) c = .x then
          syncAll ++ [g.flagOp (.forward e i .x)]
        else g.flagOp (.forward e i (sendChannel g.computeGate (g.cores (g.attn e i)) c)) :: syncAll := by
  have hflag : ∀ channel, sendFlagOp (g.a2eTiling n (g.attn e i)) channel =
      g.flagOp (.forward e i channel) := by
    intro channel
    change CoreOp.flag (g.attn e i % g.expertRankSize)
      (flagOf _ channel (g.attn e i / g.expertRankSize - 1)) = _
    rw [attn_mod he, attn_div he, flagOf_eq h _ _ e]
    rfl
  rw [ops, if_pos hn, a2eOps_send (le_attn e i), hflag, hflag]
  rfl

/-- An expert rank in A2E. -/
theorem ops_expert_even {e n c : Nat} (he : e < g.expertRankSize) (hn : n % 2 = 0) :
    g.ops e n c = countOps ++ (recvSegments g.computeGate (g.cores e) g.ratio c).flatMap fun s =>
      g.waitOp (.forward e s.2 s.1) :: (moved (recvTrace (g.a2eTiling n e) (g.cores e) c s)).map
        copyOp := by
  have hratio : (A2e.init (g.a2eTiling n e)).attnToMoeRatio = g.ratio := correctedRatio_eq_ratio h e
  rw [ops, if_pos hn, a2eOps_recv he, hratio]
  simp only [recvWaitOp, flagOf_eq h _ _ e]
  rfl

/-- An expert rank in E2A. -/
theorem ops_expert_odd {e n c : Nat} (he : e < g.expertRankSize) (hn : n % 2 = 1) :
    g.ops e n c = countOps ++ (moved (e2aCore (g.e2aTiling n e) (g.cores e) c)).map copyOp ++
      (syncAll ++ (List.range g.ratio).map fun i => g.flagOp (.back e i)) := by
  have hratio : (g.e2aTiling n e).attnToMoeRatio = g.ratio := correctedRatio_eq_ratio h e
  rw [ops, if_neg (by omega), e2aOps_send he, hratio]
  rfl

omit h in
/-- An Attention rank in E2A. -/
theorem ops_attn_odd {e i n c : Nat} (hn : n % 2 = 1) :
    g.ops (g.attn e i) n c = (countOps ++ [g.waitOp (.back e i)]) ++
      (moved (e2aCore (g.e2aTiling n (g.attn e i)) (g.cores (g.attn e i)) c)).map copyOp := by
  rw [ops, if_neg (by omega), e2aOps_recv (le_attn e i)]
  rfl

omit h in
theorem flagOp_mem_send {e i c : Nat} {part : List CoreOp} {channel : Channel}
    (hc : sendChannel g.computeGate (g.cores (g.attn e i)) c = channel) :
    g.flagOp (.forward e i channel) ∈ part ++
      if sendChannel g.computeGate (g.cores (g.attn e i)) c = .x then
        syncAll ++ [g.flagOp (.forward e i .x)]
      else g.flagOp (.forward e i (sendChannel g.computeGate (g.cores (g.attn e i)) c)) :: syncAll := by
  rw [hc]
  split_ifs with hx
  · simp [hx]
  · simp

/-- The links of a deployment. -/
def links : Links CoreOp Link where
  toLaunches := g.launches
  valid := g.validLink
  sender := g.sender
  receiver := g.receiver
  parity := parity
  flag := g.flagOp
  wait := g.waitOp
  back := reverse
  parity_lt ℓ _ := by cases ℓ <;> simp [parity]
  flagged := by
    rintro (⟨e, i, channel⟩ | ⟨e, i⟩) n hℓ hn
    · obtain ⟨he, hi, hchannel⟩ := hℓ
      have hlt := attn_lt h he hi
      obtain ⟨c, hc, hcore⟩ := exists_sendChannel (h.cores_pos _ hlt) (fun hg => h.gate hg _ hlt) hchannel
      refine ⟨c, hc, ?_⟩
      change _ ∈ g.ops (g.attn e i) n c
      rw [ops_attn_even h he hn]
      exact flagOp_mem_send hcore
    · obtain ⟨he, hi⟩ := hℓ
      refine ⟨0, h.cores_pos _ (expert_lt he), ?_⟩
      change _ ∈ g.ops e n 0
      rw [ops_expert_odd h he hn]
      simp only [List.mem_append, List.mem_map, List.mem_range]
      exact .inr (.inr ⟨i, hi, rfl⟩)
  awaited := by
    rintro (⟨e, i, channel⟩ | ⟨e, i⟩) n hℓ hn
    · obtain ⟨he, hi, hchannel⟩ := hℓ
      have hlt := expert_lt he
      obtain ⟨c, hc, hmem⟩ := exists_recvSegment (h.cores_pos _ hlt)
        (fun hg => (by omega : 2 ≤ 3).trans (h.gate hg _ hlt)) hchannel hi
      refine ⟨c, hc, ?_⟩
      change _ ∈ g.ops e n c
      rw [ops_expert_even h he hn, List.mem_append, List.mem_flatMap]
      exact .inr ⟨_, hmem, List.mem_cons_self⟩
    · obtain ⟨he, hi⟩ := hℓ
      refine ⟨0, h.cores_pos _ (attn_lt h he hi), ?_⟩
      change _ ∈ g.ops (g.attn e i) n 0
      rw [ops_attn_odd hn]
      simp [waitOp]
  back_valid := by
    rintro (⟨e, i, channel⟩ | ⟨e, i⟩) hℓ
    · exact ⟨hℓ.1, hℓ.2.1⟩
    · refine ⟨hℓ.1, hℓ.2, ?_⟩
      unfold channels
      split <;> simp
  back_sender ℓ := by cases ℓ <;> rfl
  back_receiver ℓ := by cases ℓ <;> rfl
  back_parity ℓ := by cases ℓ <;> rfl

/-- A core begins with its counter and does not touch it again. -/
theorem ops_count {rank : Nat} (hrank : rank < g.rankSize) (n c : Nat) :
    ∃ body, g.ops rank n c = countOps ++ body ∧ .add ∉ body ∧ .read ∉ body := by
  rcases Nat.lt_or_ge rank g.expertRankSize with hlt | hge
  · rcases Nat.mod_two_eq_zero_or_one n with hn | hn
    · refine ⟨_, ops_expert_even h hlt hn, ?_, ?_⟩ <;> simp [waitOp, copyOp]
    · refine ⟨_, (ops_expert_odd h hlt hn).trans (List.append_assoc _ _ _), ?_, ?_⟩
        <;> simp [syncAll, flagOp, copyOp]
  · obtain ⟨e, he, i, hi, rfl⟩ := exists_attn h hge hrank
    rcases Nat.mod_two_eq_zero_or_one n with hn | hn
    · refine ⟨_, (ops_attn_even h he hn).trans (List.append_assoc _ _ _), ?_, ?_⟩ <;> split_ifs <;>
        simp [syncAll, flagOp, copyOp]
    · refine ⟨_, (ops_attn_odd hn).trans (List.append_assoc _ _ _), ?_, ?_⟩ <;> simp [waitOp, copyOp]

/-- The counter is the first thing of a call. -/
theorem next_count {p : Position} {rank core : Nat} {op : CoreOp} (hrank : rank < g.rankSize)
    (hnext : g.launches.next p rank core = some op) :
    (op = .add ↔ p.pc rank core = 0) ∧ (op = .read ↔ p.pc rank core = 1) := by
  obtain ⟨body, hops, hadd, hread⟩ := ops_count h hrank (p.kernel rank) core
  rw [Launches.next, show g.launches.ops = g.ops from rfl, hops, countOps] at hnext
  rcases hpc : p.pc rank core with _ | _ | pc
  · rw [hpc] at hnext
    cases hnext
    simp
  · rw [hpc] at hnext
    cases hnext
    simp
  · rw [hpc] at hnext
    have hmem : op ∈ body := List.mem_of_getElem? hnext
    refine ⟨⟨?_, fun h => by omega⟩, ⟨?_, fun h => by omega⟩⟩
    · rintro rfl
      exact absurd hmem hadd
    · rintro rfl
      exact absurd hmem hread

theorem two_le_length {rank : Nat} (hrank : rank < g.rankSize) (n c : Nat) :
    2 ≤ (g.ops rank n c).length := by
  obtain ⟨body, hops, -, -⟩ := ops_count h hrank n c
  rw [hops, List.length_append, countOps]
  simp

/-! ### Flags -/

omit h in
/-- A link is known by the flag. -/
theorem link_inj {ℓ ℓ' : Link} (hℓ : g.validLink ℓ) (hℓ' : g.validLink ℓ')
    (hreceiver : g.receiver ℓ = g.receiver ℓ') (hslot : g.slot ℓ = g.slot ℓ') : ℓ = ℓ' := by
  rcases ℓ with ⟨e, i, channel⟩ | ⟨e, i⟩ <;> rcases ℓ' with ⟨e', i', channel'⟩ | ⟨e', i'⟩
  · obtain ⟨rfl, rfl⟩ := slot_inj hℓ.2.1 hℓ'.2.1 hslot
    cases hreceiver
    rfl
  · have hlt := hℓ.1
    have hle := le_attn (g := g) e' i'
    simp only [receiver] at hreceiver
    omega
  · have hlt := hℓ'.1
    have hle := le_attn (g := g) e i
    simp only [receiver] at hreceiver
    omega
  · obtain ⟨rfl, rfl⟩ := attn_inj hℓ.1 hℓ'.1 hreceiver
    rfl

omit h in
theorem flagOp_inj {ℓ ℓ' : Link} (hℓ : g.validLink ℓ) (hℓ' : g.validLink ℓ')
    (heq : g.flagOp ℓ = g.flagOp ℓ') :
    ℓ = ℓ' := by
  simp only [flagOp, CoreOp.flag.injEq] at heq
  exact link_inj hℓ hℓ' heq.1 (flagAddr_inj heq.2)

omit h in
theorem copy_mem_map {src dst : Address} {bytes : List (Address × Address)} :
    CoreOp.copy src dst ∈ bytes.map copyOp ↔ (src, dst) ∈ bytes := by
  rw [List.mem_map]
  constructor
  · rintro ⟨m, hm, heq⟩
    cases heq
    exact hm
  · exact fun hm => ⟨_, hm, rfl⟩

omit h in
theorem not_mem_map_copyOp {op : CoreOp} (hop : ∀ src dst, op ≠ .copy src dst)
    (bytes : List (Address × Address)) :
    op ∉ bytes.map copyOp := by
  intro hmem
  obtain ⟨m, -, rfl⟩ := List.mem_map.1 hmem
  exact hop _ _ rfl

omit h in
theorem sendChannel_valid {e i : Nat} (he : e < g.expertRankSize) (hi : i < g.ratio) (n c : Nat) :
    g.validLink (.forward e i (sendChannel g.computeGate n c)) := ⟨he, hi, sendChannel_mem _⟩

/-- A flag is the flag of a link that leads from here. -/
theorem exists_flag {rank n c r addr : Nat} (hrank : rank < g.rankSize)
    (hmem : .flag r addr ∈ g.ops rank n c) :
    ∃ ℓ, g.validLink ℓ ∧ g.sender ℓ = rank ∧ n % 2 = parity ℓ ∧ .flag r addr = g.flagOp ℓ := by
  have hcopies : ∀ bytes : List (Address × Address), .flag r addr ∉ bytes.map copyOp :=
    not_mem_map_copyOp fun _ _ hop => by cases hop
  rcases Nat.lt_or_ge rank g.expertRankSize with hlt | hge
  · rcases Nat.mod_two_eq_zero_or_one n with hn | hn
    · rw [ops_expert_even h hlt hn] at hmem
      simp [countOps, waitOp, hcopies] at hmem
    · rw [ops_expert_odd h hlt hn] at hmem
      simp only [countOps, syncAll, List.mem_append, List.mem_map, List.mem_range, hcopies] at hmem
      simp at hmem
      obtain ⟨i, hi, heq⟩ := hmem
      exact ⟨.back rank i, ⟨hlt, hi⟩, rfl, hn, heq.symm⟩
  · obtain ⟨e, he, i, hi, rfl⟩ := exists_attn h hge hrank
    rcases Nat.mod_two_eq_zero_or_one n with hn | hn
    · rw [ops_attn_even h he hn] at hmem
      refine ⟨.forward e i (sendChannel g.computeGate (g.cores (g.attn e i)) c),
        sendChannel_valid he hi _ _, rfl, hn, ?_⟩
      split_ifs at hmem with hx
      · rw [hx]
        simpa [countOps, syncAll, hcopies] using hmem
      · simpa [countOps, syncAll, hcopies] using hmem
    · rw [ops_attn_odd hn] at hmem
      simp [countOps, waitOp, hcopies] at hmem

/-! ### Rows -/

omit h in
/-- What the cores of an Attention rank move in A2E. -/
theorem mem_payload_forward {e i n c : Nat} (hc : c < g.cores (g.attn e i)) {m : Address × Address}
    (hm : m ∈ moved (a2eCore (g.a2eTiling n (g.attn e i)) (g.cores (g.attn e i)) c)) :
    m ∈ g.payload n (.forward e i (sendChannel g.computeGate (g.cores (g.attn e i)) c)) :=
  mem_moved_a2eCore_send (le_attn e i) hc hm

/-- What the cores of an expert rank move in E2A. -/
theorem mem_moved_e2a_expert {e n : Nat} (he : e < g.expertRankSize) (hcores : 0 < g.cores e)
    {m : Address × Address} :
    (∃ c < g.cores e, m ∈ moved (e2aCore (g.e2aTiling n e) (g.cores e) c)) ↔
      ∃ i < g.ratio, m ∈ g.payload n (.back e i) := by
  have hratio : (g.e2aTiling n e).attnToMoeRatio = g.ratio := correctedRatio_eq_ratio h e
  have hslice : (g.e2aTiling n e).batchSize / g.ratio * (g.e2aTiling n e).hiddenSize * 2 =
      g.sliceBytes n e := by
    change g.rankBatch n e / g.ratio * g.hiddenSize n * 2 = _
    rw [rankBatch_div h he]
    rfl
  have hperm := (moved_e2a_send (t := g.e2aTiling n e) he hcores).mem_iff (a := m)
  rw [hratio, hslice, e2a, moved_flatMap] at hperm
  simp only [List.mem_flatMap, List.mem_range] at hperm
  exact hperm

omit h in
/-- What the cores of an Attention rank move in E2A. -/
theorem mem_reads_back {e i n c : Nat} (he : e < g.expertRankSize) (hc : c < g.cores (g.attn e i))
    {m : Address × Address}
    (hm : m ∈ moved (e2aCore (g.e2aTiling n (g.attn e i)) (g.cores (g.attn e i)) c)) :
    m ∈ g.reads n (.back e i) := by
  have hslice : (g.e2aTiling n (g.attn e i)).batchSize * (g.e2aTiling n (g.attn e i)).hiddenSize * 2 =
      g.sliceBytes n e := by
    change g.rankBatch n (g.attn e i) * g.hiddenSize n * 2 = _
    rw [rankBatch_attn he]
    rfl
  have hall := moved_e2a_recv (t := g.e2aTiling n (g.attn e i)) (le_attn e i) (Nat.zero_lt_of_lt hc)
  rw [hslice, e2a, moved_flatMap] at hall
  have hmem : m ∈ (List.range (g.cores (g.attn e i))).flatMap fun c =>
      moved (e2aCore (g.e2aTiling n (g.attn e i)) (g.cores (g.attn e i)) c) :=
    List.mem_flatMap.2 ⟨c, List.mem_range.2 hc, hm⟩
  rw [hall] at hmem
  exact hmem

omit h in
theorem src_of_mem_payload {n : Nat} {ℓ : Link} {m : Address × Address} (hm : m ∈ g.payload n ℓ) :
    ∃ rank channel, m.1.buffer = .input rank channel ∧ m.2.buffer = .window (g.window ℓ) := by
  rcases ℓ with ⟨e, i, channel⟩ | ⟨e, i⟩ <;> obtain ⟨j, -, rfl⟩ := List.mem_map.1 hm
  · exact ⟨_, _, rfl, rfl⟩
  · exact ⟨_, _, rfl, rfl⟩

omit h in
theorem dst_of_mem_reads {n : Nat} {ℓ : Link} {m : Address × Address} (hm : m ∈ g.reads n ℓ) :
    ∃ rank channel, m.2.buffer = .output rank channel := by
  rcases ℓ with ⟨e, i, channel⟩ | ⟨e, i⟩ <;> obtain ⟨j, -, rfl⟩ := List.mem_map.1 hm
  · exact ⟨_, _, rfl⟩
  · exact ⟨_, _, rfl⟩

/-- What is read is what was sent, byte by byte. -/
theorem reads_payload {n : Nat} {ℓ : Link} (hℓ : g.validLink ℓ) {src dst : Address}
    (hm : (src, dst) ∈ g.reads n ℓ) :
    ∃ (k : Nat) (src₀ : Address), (g.payload n ℓ)[k]? = some (src₀, src) ∧
      (g.reads n ℓ)[k]? = some (src, dst) := by
  rcases ℓ with ⟨e, i, channel⟩ | ⟨e, i⟩
  · obtain ⟨he, hi, -⟩ := hℓ
    have hoffset : ∀ b, (g.a2eTiling n e).windowOffset b channel =
        (g.a2eTiling n (g.attn e i)).windowOffset b channel := by
      intro b
      cases channel <;> rfl
    have hwidth : (g.a2eTiling n e).rowBytes channel = (g.a2eTiling n (g.attn e i)).rowBytes channel := by
      cases channel <;> rfl
    have hbatch : (g.a2eTiling n (g.attn e i)).batchSize = g.batchSize n e := rankBatch_attn he i _
    obtain ⟨j, hj, heq⟩ := List.mem_map.1 hm
    rw [recvBatchSize_eq h he] at hj
    have hlt := List.mem_range.1 hj
    refine ⟨j, ⟨.input (g.attn e i) channel, j⟩, ?_, ?_⟩
    · rw [payload, sendBytes, List.getElem?_map, hbatch, ← hwidth, List.getElem?_range hlt, Option.map_some]
      rw [recvBatchSize_eq h he, hoffset] at heq
      cases heq
      rfl
    · rw [reads, recvBytes, List.getElem?_map, recvBatchSize_eq h he, List.getElem?_range hlt,
        Option.map_some]
      rw [recvBatchSize_eq h he] at heq
      rw [heq]
  · obtain ⟨j, hj, heq⟩ := List.mem_map.1 hm
    have hlt := List.mem_range.1 hj
    cases heq
    refine ⟨j, ⟨.input e .x, i * g.sliceBytes n e + j⟩, ?_, ?_⟩
    · rw [payload, List.getElem?_map, List.getElem?_range hlt]
      rfl
    · rw [reads, List.getElem?_map, List.getElem?_range hlt]
      rfl

omit h in
theorem windowOffset_inj {t : A2ETilingData} {j j' : Nat} {channel channel' : Channel}
    (hj : j < t.batchSize * t.rowBytes channel) (hj' : j' < t.batchSize * t.rowBytes channel')
    (heq : t.windowOffset t.batchSize channel + j = t.windowOffset t.batchSize channel' + j') :
    channel = channel' ∧ j = j' := by
  have hids : t.batchSize * t.rowBytes .ids = t.batchSize * t.topk * 4 := (Nat.mul_assoc _ _ _).symm
  have hscales : t.batchSize * t.rowBytes .scales = t.batchSize * t.topk * 4 := (Nat.mul_assoc _ _ _).symm
  cases channel <;> cases channel' <;> simp only [A2ETilingData.windowOffset] at heq <;>
    first
      | exact ⟨rfl, by omega⟩
      | omega

omit h in
/-- One sender moves one byte to a place of a window. -/
theorem payload_src {n : Nat} {ℓ ℓ' : Link} (hℓ : g.validLink ℓ) (hℓ' : g.validLink ℓ')
    (hparity : parity ℓ = parity ℓ') {src src' dst : Address} (hm : (src, dst) ∈ g.payload n ℓ)
    (hm' : (src', dst) ∈ g.payload n ℓ') : src = src' := by
  rcases ℓ with ⟨e, i, channel⟩ | ⟨e, i⟩ <;> rcases ℓ' with ⟨e', i', channel'⟩ | ⟨e', i'⟩ <;>
    obtain ⟨j, hj, heq⟩ := List.mem_map.1 hm <;> obtain ⟨j', hj', heq'⟩ := List.mem_map.1 hm'
  · rw [← (Prod.mk.inj heq').2] at heq
    simp only [Prod.mk.injEq, Address.mk.injEq, Buffer.window.injEq] at heq heq'
    obtain ⟨rfl, rfl⟩ := attn_inj hℓ.1 hℓ'.1 heq.2.1
    obtain ⟨rfl, rfl⟩ := windowOffset_inj (List.mem_range.1 hj) (List.mem_range.1 hj') heq.2.2
    rw [← heq.1, ← heq'.1]
  · cases hparity
  · cases hparity
  · rw [← (Prod.mk.inj heq').2] at heq
    simp only [Prod.mk.injEq, Address.mk.injEq, Buffer.window.injEq] at heq heq'
    obtain ⟨rfl, rfl⟩ := attn_inj hℓ.1 hℓ'.1 heq.2.1
    rw [← heq.1, ← heq'.1, heq.2.2]

/-- Expert ranks wait in A2E, Attention ranks in E2A. -/
theorem parity_of_wait {ℓ : Link} {n c : Nat} {op : CoreOp} (hℓ : g.validLink ℓ)
    (hop : op = .wait (magicWord (flagAddr (g.slot ℓ))) ∨ op = .poll (flagAddr (g.slot ℓ)))
    (hmem : op ∈ g.ops (g.receiver ℓ) n c) : n % 2 = parity ℓ := by
  have hcopies : ∀ bytes : List (Address × Address), op ∉ bytes.map copyOp :=
    not_mem_map_copyOp fun src dst heq => by rcases hop with rfl | rfl <;> cases heq
  by_contra hne
  rcases ℓ with ⟨e, i, channel⟩ | ⟨e, i⟩
  · have hodd : n % 2 = 1 := by
      simp only [parity] at hne
      omega
    simp only [receiver, ops_expert_odd h hℓ.1 hodd, List.mem_append, hcopies, or_false] at hmem
    rcases hop with rfl | rfl <;> simp [countOps, syncAll, flagOp] at hmem
  · have heven : n % 2 = 0 := by
      simp only [parity] at hne
      omega
    simp only [receiver, ops_attn_even h hℓ.1 heven, List.mem_append, hcopies, or_false] at hmem
    split_ifs at hmem <;> rcases hop with rfl | rfl <;> simp [countOps, syncAll, flagOp] at hmem

section Copies
variable {n c : Nat} {src dst : Address}

theorem copy_attn_even {e i : Nat} (he : e < g.expertRankSize) (hn : n % 2 = 0)
    (hc : c < g.cores (g.attn e i)) (hmem : .copy src dst ∈ g.ops (g.attn e i) n c) :
    (src, dst) ∈ g.payload n (.forward e i (sendChannel g.computeGate (g.cores (g.attn e i)) c)) := by
  rw [ops_attn_even h he hn] at hmem
  have hcopy : CoreOp.copy src dst ∈
      (moved (a2eCore (g.a2eTiling n (g.attn e i)) (g.cores (g.attn e i)) c)).map copyOp := by
    split_ifs at hmem <;> simpa [countOps, syncAll, flagOp] using hmem
  exact mem_payload_forward hc (copy_mem_map.1 hcopy)

theorem copy_expert_odd {e : Nat} (he : e < g.expertRankSize) (hn : n % 2 = 1) (hc : c < g.cores e)
    (hmem : .copy src dst ∈ g.ops e n c) : ∃ i < g.ratio, (src, dst) ∈ g.payload n (.back e i) := by
  rw [ops_expert_odd h he hn] at hmem
  have hcopy : CoreOp.copy src dst ∈ (moved (e2aCore (g.e2aTiling n e) (g.cores e) c)).map copyOp := by
    simpa [countOps, syncAll, flagOp] using hmem
  exact (mem_moved_e2a_expert h he (Nat.zero_lt_of_lt hc)).1 ⟨c, hc, copy_mem_map.1 hcopy⟩

theorem copy_expert_even {e : Nat} (he : e < g.expertRankSize) (hn : n % 2 = 0) (hc : c < g.cores e)
    (hmem : .copy src dst ∈ g.ops e n c) :
    ∃ ℓ, g.validLink ℓ ∧ g.receiver ℓ = e ∧ parity ℓ = 0 ∧ (src, dst) ∈ g.reads n ℓ := by
  rw [ops_expert_even h he hn, List.mem_append, List.mem_flatMap] at hmem
  rcases hmem with hmem | ⟨⟨channel, i⟩, hs, hmem⟩
  · simp [countOps] at hmem
  · have hcopy : CoreOp.copy src dst ∈
        (moved (recvTrace (g.a2eTiling n e) (g.cores e) c (channel, i))).map copyOp := by
      simpa [waitOp] using hmem
    exact ⟨.forward e i channel, ⟨he, recvSegments_valid hs⟩, rfl, rfl,
      mem_moved_recvTrace hc hs (copy_mem_map.1 hcopy)⟩

omit h in
theorem copy_attn_odd {e i : Nat} (he : e < g.expertRankSize) (hn : n % 2 = 1)
    (hc : c < g.cores (g.attn e i)) (hmem : .copy src dst ∈ g.ops (g.attn e i) n c) :
    (src, dst) ∈ g.reads n (.back e i) := by
  rw [ops_attn_odd hn] at hmem
  have hcopy : CoreOp.copy src dst ∈
      (moved (e2aCore (g.e2aTiling n (g.attn e i)) (g.cores (g.attn e i)) c)).map copyOp := by
    simpa [countOps, waitOp] using hmem
  exact mem_reads_back he hc (copy_mem_map.1 hcopy)

/-- A core that copies into a window carries the rows of a link that leads from here. -/
theorem exists_payload {rank w : Nat} (hrank : rank < g.rankSize) (hc : c < g.cores rank)
    (hdst : dst.buffer = .window w) (hmem : .copy src dst ∈ g.ops rank n c) :
    ∃ ℓ, g.validLink ℓ ∧ g.sender ℓ = rank ∧ n % 2 = parity ℓ ∧ g.window ℓ = w ∧
      (src, dst) ∈ g.payload n ℓ := by
  have hwindow : ∀ ℓ, (src, dst) ∈ g.payload n ℓ → g.window ℓ = w := by
    intro ℓ hpayload
    obtain ⟨_, _, -, hbuffer⟩ := src_of_mem_payload hpayload
    rw [hdst] at hbuffer
    exact (Buffer.window.inj hbuffer).symm
  have hout : ∀ {ℓ}, (src, dst) ∉ g.reads n ℓ := by
    intro ℓ hreads
    obtain ⟨_, _, hbuffer⟩ := dst_of_mem_reads hreads
    rw [hdst] at hbuffer
    cases hbuffer
  rcases Nat.lt_or_ge rank g.expertRankSize with hlt | hge
  · rcases Nat.mod_two_eq_zero_or_one n with hn | hn
    · obtain ⟨ℓ, -, -, -, hreads⟩ := copy_expert_even h hlt hn hc hmem
      exact absurd hreads hout
    · obtain ⟨i, hi, hpayload⟩ := copy_expert_odd h hlt hn hc hmem
      exact ⟨.back rank i, ⟨hlt, hi⟩, rfl, hn, hwindow _ hpayload, hpayload⟩
  · obtain ⟨e, he, i, hi, rfl⟩ := exists_attn h hge hrank
    rcases Nat.mod_two_eq_zero_or_one n with hn | hn
    · have hpayload := copy_attn_even h he hn hc hmem
      exact ⟨_, sendChannel_valid he hi _ _, rfl, hn, hwindow _ hpayload, hpayload⟩
    · exact absurd (copy_attn_odd he hn hc hmem) hout

/-- A copy out of a window is one of a link that leads here. -/
theorem exists_read_link {rank w : Nat} (hrank : rank < g.rankSize) (hc : c < g.cores rank)
    (hsrc : src.buffer = .window w) (hmem : .copy src dst ∈ g.ops rank n c) :
    ∃ ℓ, g.validLink ℓ ∧ g.receiver ℓ = rank ∧ n % 2 = parity ℓ ∧ g.window ℓ = w := by
  have hin : ∀ {ℓ}, (src, dst) ∉ g.payload n ℓ := by
    intro ℓ hpayload
    obtain ⟨_, _, hinput, -⟩ := src_of_mem_payload hpayload
    rw [hsrc] at hinput
    cases hinput
  have hwindow : ∀ {ℓ}, g.validLink ℓ → (src, dst) ∈ g.reads n ℓ → g.window ℓ = w := by
    intro ℓ hℓ hreads
    obtain ⟨k, src₀, hpayload, -⟩ := reads_payload h hℓ hreads
    obtain ⟨_, _, -, hbuffer⟩ := src_of_mem_payload (List.mem_of_getElem? hpayload)
    rw [hsrc] at hbuffer
    exact (Buffer.window.inj hbuffer).symm
  rcases Nat.lt_or_ge rank g.expertRankSize with hlt | hge
  · rcases Nat.mod_two_eq_zero_or_one n with hn | hn
    · obtain ⟨ℓ, hℓ, hreceiver, hparity, hreads⟩ := copy_expert_even h hlt hn hc hmem
      exact ⟨ℓ, hℓ, hreceiver, hn.trans hparity.symm, hwindow hℓ hreads⟩
    · obtain ⟨i, -, hpayload⟩ := copy_expert_odd h hlt hn hc hmem
      exact absurd hpayload hin
  · obtain ⟨e, he, i, hi, rfl⟩ := exists_attn h hge hrank
    rcases Nat.mod_two_eq_zero_or_one n with hn | hn
    · exact absurd (copy_attn_even h he hn hc hmem) hin
    · exact ⟨.back e i, ⟨he, hi⟩, rfl, hn, hwindow ⟨he, hi⟩ (copy_attn_odd he hn hc hmem)⟩

/-- A core that copies out of a window has waited for the link before. -/
theorem exists_reads {p : Position} {rank w : Nat} (hrank : rank < g.rankSize) (hc : c < g.cores rank)
    (hsrc : src.buffer = .window w) (hnext : g.launches.next p rank c = some (.copy src dst)) :
    ∃ ℓ, g.validLink ℓ ∧ g.receiver ℓ = rank ∧ p.kernel rank % 2 = parity ℓ ∧
      (src, dst) ∈ g.reads (p.kernel rank) ℓ ∧
      g.waitOp ℓ ∈ g.ops rank (p.kernel rank) c ∧
        g.launches.Done p rank (p.kernel rank) c (g.waitOp ℓ) := by
  have hmem : CoreOp.copy src dst ∈ g.ops rank (p.kernel rank) c := Launches.mem_of_next hnext
  have hin : ∀ {ℓ}, (src, dst) ∉ g.payload (p.kernel rank) ℓ := by
    intro ℓ hpayload
    obtain ⟨_, _, hinput, -⟩ := src_of_mem_payload hpayload
    rw [hsrc] at hinput
    cases hinput
  rcases Nat.lt_or_ge rank g.expertRankSize with hlt | hge
  · rcases Nat.mod_two_eq_zero_or_one (p.kernel rank) with hn | hn
    · have hops := ops_expert_even h hlt (c := c) hn
      have hlen : countOps.length ≤ p.pc rank c := by
        by_contra hpc
        rw [Launches.next, show g.launches.ops = g.ops from rfl, hops,
          List.getElem?_append_left (by omega)] at hnext
        simpa [countOps] using List.mem_of_getElem? hnext
      rw [Launches.next, show g.launches.ops = g.ops from rfl, hops,
        List.getElem?_append_right hlen] at hnext
      obtain ⟨⟨channel, i⟩, hs, hguarded, hguard⟩ := exists_guard hnext fun s _ hop => by cases hop
      refine ⟨.forward rank i channel, ⟨hlt, recvSegments_valid hs⟩, rfl, hn, ?_, ?_, .inr ⟨rfl, ?_⟩⟩
      · exact mem_moved_recvTrace hc hs (copy_mem_map.1 hguarded)
      · rw [hops, List.mem_append, List.mem_flatMap]
        exact .inr ⟨_, hs, List.mem_cons_self⟩
      · change _ ∈ (g.ops _ _ _).take _
        rw [hops, List.take_append, List.mem_append]
        exact .inr hguard
    · obtain ⟨i, -, hpayload⟩ := copy_expert_odd h hlt hn hc hmem
      exact absurd hpayload hin
  · obtain ⟨e, he, i, hi, rfl⟩ := exists_attn h hge hrank
    rcases Nat.mod_two_eq_zero_or_one (p.kernel (g.attn e i)) with hn | hn
    · exact absurd (copy_attn_even h he hn hc hmem) hin
    · have hops := ops_attn_odd (g := g) (e := e) (i := i) (c := c) hn
      refine ⟨.back e i, ⟨he, hi⟩, rfl, hn, copy_attn_odd he hn hc hmem, ?_, ?_⟩
      · rw [hops]
        simp
      · refine Launches.done_of_next hops hnext ?_ _ (by simp)
        simp [countOps, waitOp]

end Copies

/-! ### Behind a flag -/

omit h in
/-- No core has left a barrier that another has not reached. -/
def Met (p : Position) : Prop :=
  ∀ rank n c c', c < g.cores rank → c' < g.cores rank → g.launches.Done p rank n c .leave →
    g.launches.Done p rank n c' .arrive

omit h in
theorem payload_channel {e i n : Nat} {channel channel' : Channel} {m : Address × Address}
    (hm : m ∈ g.payload n (.forward e i channel)) (hm' : m ∈ g.payload n (.forward e i channel')) :
    channel = channel' := by
  obtain ⟨j, -, rfl⟩ := List.mem_map.1 hm
  obtain ⟨j', -, heq⟩ := List.mem_map.1 hm'
  simp only [Prod.mk.injEq, Address.mk.injEq, Buffer.input.injEq] at heq
  exact heq.1.1.2.symm

omit h in
theorem not_mem_moves {op : CoreOp} (hop : ∀ src dst, op ≠ .copy src dst) (hcount : op ∉ countOps)
    (bytes : List (Address × Address)) : op ∉ countOps ++ bytes.map copyOp := by
  rw [List.mem_append, not_or]
  exact ⟨hcount, not_mem_map_copyOp hop bytes⟩

omit h in
theorem arrive_not_mem_moves (bytes : List (Address × Address)) : .arrive ∉ countOps ++ bytes.map copyOp :=
  not_mem_moves (fun _ _ hop => by cases hop) (by simp [countOps]) bytes

omit h in
theorem flagOp_not_mem_moves (ℓ : Link) (bytes : List (Address × Address)) :
    g.flagOp ℓ ∉ countOps ++ bytes.map copyOp :=
  not_mem_moves (fun _ _ hop => by cases hop) (by simp [countOps, flagOp]) bytes

omit h in
theorem flagOp_not_mem_met (ℓ : Link) (bytes : List (Address × Address)) :
    g.flagOp ℓ ∉ countOps ++ bytes.map copyOp ++ syncAll := by
  rw [List.mem_append, not_or]
  exact ⟨flagOp_not_mem_moves ℓ bytes, by simp [syncAll, flagOp]⟩

/-- A core that raises the flag of a channel has the channel. -/
theorem sendChannel_of_flag {e i n c : Nat} {channel : Channel} (he : e < g.expertRankSize)
    (hi : i < g.ratio) (hn : n % 2 = 0)
    (hflag : g.flagOp (.forward e i channel) ∈ g.ops (g.attn e i) n c) :
    sendChannel g.computeGate (g.cores (g.attn e i)) c = channel := by
  have hinj : ∀ {channel'}, g.flagOp (.forward e i channel) = g.flagOp (.forward e i channel') →
      channel = channel' := by
    intro channel' heq
    simp only [flagOp, CoreOp.flag.injEq] at heq
    exact (slot_inj hi hi (flagAddr_inj heq.2)).2
  rw [ops_attn_even h he hn] at hflag
  have hrest := (List.mem_append.1 hflag).resolve_left (flagOp_not_mem_moves _ _)
  split_ifs at hrest with hx
  · rw [hx]
    exact (hinj (by simpa [syncAll, flagOp] using hrest)).symm
  · exact (hinj (by simpa [syncAll, flagOp] using hrest)).symm

/-- When a flag is up, all rows of its link are in place, and no core is still
moving one. -/
theorem sealed {p : Position} (hmet : g.Met p) {ℓ : Link} {n c : Nat} (hℓ : g.validLink ℓ)
    (hn : n % 2 = parity ℓ) (hpub : (g.links h).Published p ℓ n) (hc : c < g.cores (g.sender ℓ))
    {src dst : Address} (hpayload : (src, dst) ∈ g.payload n ℓ)
    (hmem : .copy src dst ∈ g.ops (g.sender ℓ) n c) :
    g.launches.Done p (g.sender ℓ) n c (.copy src dst) ∧
      (p.kernel (g.sender ℓ) = n → g.launches.next p (g.sender ℓ) c ≠ some (.copy src dst)) := by
  obtain ⟨c₀, hc₀, hflag, hdone⟩ := hpub
  rcases ℓ with ⟨e, i, channel⟩ | ⟨e, i⟩
  · obtain ⟨he, hi, -⟩ := hℓ
    have hchannel := payload_channel (copy_attn_even h he hn hc hmem) hpayload
    have hchannel₀ := sendChannel_of_flag h he hi hn hflag
    have hops := ops_attn_even h (i := i) (c := c) he hn
    have hafter : CoreOp.copy src dst ∉ if sendChannel g.computeGate (g.cores (g.attn e i)) c = .x then
        syncAll ++ [g.flagOp (.forward e i .x)]
        else g.flagOp (.forward e i
          (sendChannel g.computeGate (g.cores (g.attn e i)) c)) :: syncAll := by
      split_ifs <;> simp [syncAll, flagOp]
    have hbefore := (List.mem_append.1 (hops ▸ hmem)).resolve_right hafter
    by_cases hx : channel = .x
    · -- the core of the flag has left the barrier, so this one has reached it
      have hops₀ := ops_attn_even h (i := i) (c := c₀) he hn
      rw [if_pos (hchannel₀.trans hx), ← List.append_assoc] at hops₀
      have hleave := hdone.before hops₀ (flagOp_not_mem_met _ _) .leave (by simp [syncAll])
      exact (hmet _ n c₀ c hc₀ hc hleave).past hops (arrive_not_mem_moves _) hbefore hafter
    · have hcore : c₀ = c := sendChannel_core (hchannel ▸ hx) (hchannel₀.trans hchannel.symm)
      subst hcore
      exact hdone.past hops (flagOp_not_mem_moves _ _) hbefore hafter
  · obtain ⟨he, hi⟩ := hℓ
    have hops := ops_expert_odd h (c := c) he hn
    have hafter : CoreOp.copy src dst ∉ syncAll ++ (List.range g.ratio).map fun i =>
        g.flagOp (.back e i) := by
      simp [syncAll, flagOp]
    have hbefore := (List.mem_append.1 (hops ▸ hmem)).resolve_right hafter
    have hops₀ := ops_expert_odd h (c := c₀) he hn
    rw [← List.append_assoc] at hops₀
    have hleave := hdone.before hops₀ (flagOp_not_mem_met _ _) .leave (by simp [syncAll])
    exact (hmet _ n c₀ c hc₀ hc hleave).past hops (arrive_not_mem_moves _) hbefore hafter

omit h in
/-- The links through one window are those of one Attention rank. -/
theorem ends_of_window {ℓ ℓ' : Link} (hℓ : g.validLink ℓ) (hℓ' : g.validLink ℓ')
    (hwindow : g.window ℓ = g.window ℓ') :
    (parity ℓ = parity ℓ' → g.sender ℓ = g.sender ℓ' ∧ g.receiver ℓ = g.receiver ℓ') ∧
      (parity ℓ ≠ parity ℓ' → g.receiver ℓ' = g.sender ℓ ∧ g.sender ℓ' = g.receiver ℓ) := by
  rcases ℓ with ⟨e, i, channel⟩ | ⟨e, i⟩ <;> rcases ℓ' with ⟨e', i', channel'⟩ | ⟨e', i'⟩ <;>
    obtain ⟨rfl, rfl⟩ := attn_inj hℓ.1 hℓ'.1 hwindow <;> simp [parity, sender, receiver]

/-- Every byte of a link is moved by a core of its sender. -/
theorem exists_core {ℓ : Link} {n : Nat} (hℓ : g.validLink ℓ) (hn : n % 2 = parity ℓ)
    {src dst : Address} (hpayload : (src, dst) ∈ g.payload n ℓ) :
    ∃ c < g.cores (g.sender ℓ), .copy src dst ∈ g.ops (g.sender ℓ) n c := by
  rcases ℓ with ⟨e, i, channel⟩ | ⟨e, i⟩
  · obtain ⟨he, hi, hchannel⟩ := hℓ
    have hlt := attn_lt h he hi
    obtain ⟨c, hc, -, hm⟩ := exists_core_send (t := g.a2eTiling n (g.attn e i)) (le_attn e i)
      (h.cores_pos _ hlt) (fun hg => h.gate hg _ hlt) hchannel hpayload
    refine ⟨c, hc, ?_⟩
    change _ ∈ g.ops (g.attn e i) n c
    rw [ops_attn_even h he hn]
    exact List.mem_append_left _ (List.mem_append_right _ (copy_mem_map.2 hm))
  · obtain ⟨he, hi⟩ := hℓ
    obtain ⟨c, hc, hm⟩ := (mem_moved_e2a_expert h he (h.cores_pos _ (expert_lt he))).2 ⟨i, hi, hpayload⟩
    refine ⟨c, hc, ?_⟩
    change _ ∈ g.ops e n c
    rw [ops_expert_odd h he hn]
    exact List.mem_append_left _ (List.mem_append_right _ (copy_mem_map.2 hm))

end Valid

end Rounds

end AfdPlugin.Kernels
