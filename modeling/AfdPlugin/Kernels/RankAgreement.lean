import AfdPlugin.Kernels.Bounds
import AfdPlugin.Lib.Loops
import AfdPlugin.Lib.Strided
/-!
# What A2E and E2A agree on

In one exchange the Attention ranks of a group send `batchSize` rows each, their
expert rank gathers them, and its results go back to where the rows came from.
The two sides compute peers, flag slots and offsets on their own. An expert rank
that the last round of Attention ranks does not reach takes too few rows from
each sender: A2E divides its batch by the ratio before correcting it. Nothing
keeps the sizes within an `int`; an overflow counts as a failure.
-/

namespace AfdPlugin.Kernels

/-! ## Memory -/

/-- Global memory after the cores did their copies, in any order of the bytes. -/
def run (sched : Schedule) (mem : Address → UInt8) (trace : List Event) : Address → UInt8 :=
  store mem (sched.order ((moved trace).map fun m => (m.2, mem m.1)))

section Run
variable {sched : Schedule} {mem : Address → UInt8} {trace : List Event} {src dst : Address}

theorem run_of_mem (h : (src, dst) ∈ moved trace) (hall : ∀ m ∈ moved trace, m.2 = dst → m.1 = src) :
    run sched mem trace dst = mem src := by
  apply store_of_mem
  · rw [(sched.perm _).mem_iff]
    exact List.mem_map.2 ⟨_, h, rfl⟩
  · intro w hw hdst
    obtain ⟨m, hm, rfl⟩ := List.mem_map.1 ((sched.perm _).mem_iff.1 hw)
    exact congrArg mem (hall m hm hdst)

theorem run_of_not_mem (h : ∀ m ∈ moved trace, m.2 ≠ dst) : run sched mem trace dst = mem dst := by
  apply store_of_not_mem
  intro w hw
  obtain ⟨m, hm, rfl⟩ := List.mem_map.1 ((sched.perm _).mem_iff.1 hw)
  exact h m hm

end Run

/-! ## Ranks -/

section Ranks
variable {A F f : Nat}

/-- The Attention ranks of an expert rank: one in every whole round, and one more
if the last round reaches it. -/
theorem length_group (hf : f < F) : (Strided.group A F f).length = A / F + if f < A % F then 1 else 0 := by
  have hF : 0 < F := by omega
  have hA : F * (A / F) + A % F = A := Nat.div_add_mod A F
  have hmod : A % F < F := Nat.mod_lt A hF
  rw [Strided.group_eq_map hf, List.length_map, List.length_range]
  split
  · rw [show A - f + F - 1 = (A % F - f - 1) + F * (A / F + 1) by rw [Nat.mul_succ]; omega,
      Nat.add_mul_div_left _ _ hF, Nat.div_eq_of_lt (by omega)]
    omega
  · rcases Nat.eq_zero_or_pos (A / F) with hzero | hpos
    · rw [hzero, Nat.mul_zero] at hA
      rw [hzero, Nat.div_eq_of_lt (by omega)]
    · have hmul := Nat.mul_le_mul_left F hpos
      rw [show A - f + F - 1 = (A % F + F - 1 - f) + F * (A / F) by omega, Nat.add_mul_div_left _ _ hF,
        Nat.div_eq_of_lt (by omega)]
      omega

theorem ceilRatio_eq (hF : 0 < F) (hFA : F ≤ A) : ceilRatio F A = A / F + if A % F = 0 then 0 else 1 := by
  have hA : F * (A / F) + A % F = A := Nat.div_add_mod A F
  have hmod : A % F < F := Nat.mod_lt A hF
  by_cases hgt : A > F
  · rw [ceilRatio, if_pos hgt]
    split
    · rw [show A + F - 1 = F - 1 + F * (A / F) by omega, Nat.add_mul_div_left _ _ hF,
        Nat.div_eq_of_lt (by omega)]
      omega
    · rw [show A + F - 1 = (A % F - 1) + F * (A / F + 1) by rw [Nat.mul_succ]; omega,
        Nat.add_mul_div_left _ _ hF, Nat.div_eq_of_lt (by omega)]
      omega
  · -- as many Attention ranks as expert ranks
    obtain rfl : A = F := by omega
    simp [ceilRatio, Nat.div_self hF]

/-- The corrected ratio is the number of Attention ranks. -/
theorem correctedRatio_eq (hFA : F ≤ A) (hf : f < F) :
    correctedRatio F A f = (Strided.group A F f).length := by
  have hF : 0 < F := by omega
  have hmod : A % F < F := Nat.mod_lt A hF
  rw [length_group hf, correctedRatio, ceilRatio_eq hF hFA, Nat.mod_eq_of_lt hf]
  by_cases hone : F = 1
  · obtain rfl : f = 0 := by omega
    subst hone
    simp [Nat.mod_one]
  by_cases hgt : A > F
  · simp only [hgt, hone, ne_eq, not_false_eq_true, true_and]
    generalize A / F = rounds
    split_ifs <;> omega
  · obtain rfl : A = F := by omega
    simp

theorem sender_rank (F f i : Nat) : F + (f + i * F) = f + (i + 1) * F := by
  rw [Nat.succ_mul]
  omega

/-- A sender's expert rank and its position, from its rank. -/
theorem sender_mod_div (hf : f < F) (i : Nat) :
    (F + (f + i * F)) % F = f ∧ (F + (f + i * F)) / F - 1 = i := by
  rw [sender_rank, Nat.mul_comm]
  constructor
  · rw [Nat.add_mul_mod_self_left, Nat.mod_eq_of_lt hf]
  · rw [Nat.add_mul_div_left _ _ (by omega), Nat.div_eq_of_lt hf]
    omega

theorem sender_inj (hf : f < F) {i i' : Nat} (h : f + i * F = f + i' * F) : i = i' :=
  Nat.mul_right_cancel (by omega : 0 < F) (by omega)

/-- A sender and its position. -/
theorem mem_group_iff (hf : f < F) {a : Nat} :
    a ∈ Strided.group A F f ↔ ∃ i < (Strided.group A F f).length, a = f + i * F := by
  rw [Strided.group_eq_map hf]
  simp [eq_comm]

/-- A sender has the ratio of its expert rank. -/
theorem correctedRatio_sender (hFA : F ≤ A) (hf : f < F) (i : Nat) :
    correctedRatio F A (F + (f + i * F)) = (Strided.group A F f).length := by
  rw [← correctedRatio_eq hFA hf, correctedRatio, correctedRatio, (sender_mod_div hf i).1,
    Nat.mod_eq_of_lt hf]

theorem group_pos (hFA : F ≤ A) (hf : f < F) : 0 < (Strided.group A F f).length := by
  have := Nat.div_pos hFA (by omega)
  rw [length_group hf]
  omega

/-- The last round of Attention ranks reaches every expert rank or this one. -/
def Reached (A F f : Nat) : Prop := A % F = 0 ∨ f < A % F

instance (A F f : Nat) : Decidable (Reached A F f) := by unfold Reached; infer_instance

theorem ceilRatio_of_reached (hFA : F ≤ A) (hf : f < F) (h : Reached A F f) :
    ceilRatio F A = (Strided.group A F f).length := by
  rw [length_group hf, ceilRatio_eq (by omega) hFA]
  unfold Reached at h
  split_ifs <;> omega

theorem ceilRatio_of_not_reached (hFA : F ≤ A) (hf : f < F) (h : ¬ Reached A F f) :
    ceilRatio F A = (Strided.group A F f).length + 1 := by
  rw [length_group hf, ceilRatio_eq (by omega) hFA]
  unfold Reached at h
  split_ifs <;> omega

theorem rows_of_reached (hFA : F ≤ A) (hf : f < F) (h : Reached A F f) (b : Nat) :
    b * (Strided.group A F f).length / ceilRatio F A = b := by
  rw [ceilRatio_of_reached hFA hf h, Nat.mul_div_cancel _ (group_pos hFA hf)]

theorem rows_of_not_reached (hFA : F ≤ A) (hf : f < F) (h : ¬ Reached A F f) {b : Nat} (hb : 0 < b) :
    b * (Strided.group A F f).length / ceilRatio F A < b := by
  rw [ceilRatio_of_not_reached hFA hf h, Nat.div_lt_iff_lt_mul (Nat.succ_pos _), Nat.mul_succ]
  omega

/-- The rows taken from the senders are the whole batch of any size when the
round reaches the expert rank and the batch is the same for each sender. -/
theorem rows_cover_iff (hFA : F ≤ A) (hf : f < F) {b : Nat} (hb : 0 < b) :
    (Strided.group A F f).length * (b / ceilRatio F A) = b ↔ Reached A F f ∧
      (Strided.group A F f).length ∣ b := by
  constructor
  · intro h
    have hreached : Reached A F f := by
      by_contra hnot
      rw [ceilRatio_of_not_reached hFA hf hnot] at h
      have hle := Nat.mul_div_le b ((Strided.group A F f).length + 1)
      rw [Nat.succ_mul, h] at hle
      rw [Nat.eq_zero_of_le_zero (by omega : b / ((Strided.group A F f).length + 1) ≤ 0), Nat.mul_zero] at h
      omega
    exact ⟨hreached, Dvd.intro _ h⟩
  · rintro ⟨hreached, hdvd⟩
    rw [ceilRatio_of_reached hFA hf hreached, Nat.mul_div_cancel' hdvd]

end Ranks

/-! ## One exchange -/

/-- The calls of one exchange. Every Attention rank sends `batchSize` rows. -/
structure Exchange where
  expertRankSize : Nat
  attentionRankSize : Nat
  batchSize : Nat
  hiddenSize : Nat
  topk : Nat
  computeGate : Nat
  attnCores : Nat
  ffnCores : Nat

namespace Exchange
variable (s : Exchange)

/-- The Attention ranks of expert rank `f`, in ascending order. -/
def senders (f : Nat) : List Nat := Strided.group s.attentionRankSize s.expertRankSize f

/-- The batch of expert rank `f`. -/
def expertBatch (f : Nat) : Nat := s.batchSize * (s.senders f).length

def attention (a : Nat) : A2ETilingData :=
  ⟨s.batchSize, s.hiddenSize, s.topk, s.expertRankSize, s.attentionRankSize, s.expertRankSize + a,
    s.computeGate⟩

def expert (f : Nat) : A2ETilingData :=
  ⟨s.expertBatch f, s.hiddenSize, s.topk, s.expertRankSize, s.attentionRankSize, f, s.computeGate⟩

def attentionA2e (a : Nat) : List Event := a2e (s.attention a) s.attnCores

def expertA2e (f : Nat) : List Event := a2e (s.expert f) s.ffnCores

def expertE2a (f : Nat) : List Event :=
  e2a ⟨s.expertBatch f, s.hiddenSize, s.topk, s.expertRankSize, s.attentionRankSize, f⟩ s.ffnCores

def attentionE2a (a : Nat) : List Event :=
  e2a ⟨s.batchSize, s.hiddenSize, s.topk, s.expertRankSize, s.attentionRankSize,
    s.expertRankSize + a⟩ s.attnCores

/-- Bytes of a row of the channel. -/
def rowBytes : Channel → Nat
  | .ids => s.topk * 4
  | .scales => s.topk * 4
  | .x => s.hiddenSize * 2

/-- Memory after the Attention ranks of `f` sent and `f` received. -/
def afterA2e (sched sched' : Schedule) (mem : Address → UInt8) (f : Nat) : Address → UInt8 :=
  run sched' (run sched mem ((s.senders f).flatMap s.attentionA2e)) (s.expertA2e f)

/-- Memory after `f` answered and its Attention ranks received. -/
def afterE2a (sched sched' : Schedule) (mem : Address → UInt8) (f : Nat) : Address → UInt8 :=
  run sched' (run sched mem (s.expertE2a f)) ((s.senders f).flatMap s.attentionE2a)

/-- What the ranks of a group are to agree on. -/
structure Agreement (f : Nat) : Prop where
  /-- A2E outputs the senders' rows, one sender after the other. -/
  gathered : ∀ channel ∈ channels s.computeGate, ∀ sched sched' mem,
    ((List.range (s.expertBatch f * s.rowBytes channel)).map fun j =>
        s.afterA2e sched sched' mem f ⟨.output f channel, j⟩) =
      (s.senders f).flatMap fun a => (List.range (s.batchSize * s.rowBytes channel)).map fun j =>
        mem ⟨.input (s.expertRankSize + a) channel, j⟩
  /-- The words waited on are those of the flags the senders write here. -/
  matched : ∀ w, w ∈ waits (s.expertA2e f) ↔
    ∃ a ∈ s.senders f, ∃ flag, (f, flag) ∈ signals (s.attentionA2e a) ∧ w = magicWord flag
  /-- Senders do not share a flag. -/
  distinct : ∀ a ∈ s.senders f, ∀ a' ∈ s.senders f, a ≠ a' →
    ∀ w ∈ signals (s.attentionA2e a), w ∉ signals (s.attentionA2e a')
  /-- A sender writes one flag for each channel. -/
  perChannel : ∀ a ∈ s.senders f, (signals (s.attentionA2e a)).toFinset.card =
    (channels s.computeGate).length
  /-- E2A returns to a sender the rows where A2E put its own. -/
  returned : ∀ sched sched' mem i, ∀ h : i < (s.senders f).length, ∀ j < s.batchSize * s.rowBytes .x,
    s.afterE2a sched sched' mem f ⟨.output (s.expertRankSize + (s.senders f)[i]) .x, j⟩ =
      mem ⟨.input f .x, i * (s.batchSize * s.rowBytes .x) + j⟩
  /-- No `int` of the calls overflows, and what passes the buffer has room. -/
  withinBounds : (∀ a ∈ s.senders f, AllSafe (s.attentionA2e a) ∧ AllSafe (s.attentionE2a a)) ∧
    AllSafe (s.expertA2e f) ∧ AllSafe (s.expertE2a f)

/-! ### Who sends what -/

section Group
variable {s} {f : Nat}

theorem getElem_senders (hf : f < s.expertRankSize) {i : Nat} (h : i < (s.senders f).length) :
    (s.senders f)[i] = f + i * s.expertRankSize := by
  simp only [senders, Strided.group_eq_map hf, List.getElem_map, List.getElem_range]

/-- A sender and its position. -/
theorem mem_senders (hf : f < s.expertRankSize) {a : Nat} :
    a ∈ s.senders f ↔ ∃ i < (s.senders f).length, a = f + i * s.expertRankSize := mem_group_iff hf

theorem attention_rowBytes (a : Nat) (channel : Channel) :
    (s.attention a).rowBytes channel = s.rowBytes channel := by
  cases channel <;> rfl

theorem expert_rowBytes (f : Nat) (channel : Channel) :
    (s.expert f).rowBytes channel = s.rowBytes channel := by
  cases channel <;> rfl

theorem windowOffset_eq (a f batchSize : Nat) (channel : Channel) :
    (s.expert f).windowOffset batchSize channel = (s.attention a).windowOffset batchSize channel := by
  cases channel <;> rfl

/-- The channels do not overlap in a window. -/
theorem windowOffset_inj {a b j j' : Nat} {channel channel' : Channel} (hj : j < b * s.rowBytes channel)
    (hj' : j' < b * s.rowBytes channel')
    (h : (s.attention a).windowOffset b channel + j = (s.attention a).windowOffset b channel' + j') :
    channel = channel' ∧ j = j' := by
  have hids : b * s.rowBytes .ids = b * s.topk * 4 := (Nat.mul_assoc _ _ _).symm
  have hscales : b * s.rowBytes .scales = b * s.topk * 4 := (Nat.mul_assoc _ _ _).symm
  cases channel <;> cases channel' <;> simp only [A2ETilingData.windowOffset, attention] at h <;>
    first
      | exact ⟨rfl, by omega⟩
      | omega

/-- The bytes the senders move. -/
theorem mem_moved_senders (hf : f < s.expertRankSize) (hcores : 0 < s.attnCores) {m : Address × Address} :
    m ∈ moved ((s.senders f).flatMap s.attentionA2e) ↔ ∃ i < (s.senders f).length,
      ∃ channel ∈ sendChannels s.computeGate s.attnCores, ∃ j < s.batchSize * s.rowBytes channel,
        m = (⟨.input (f + (i + 1) * s.expertRankSize) channel, j⟩,
          ⟨.window (f + (i + 1) * s.expertRankSize),
            (s.attention 0).windowOffset s.batchSize channel + j⟩) := by
  rw [moved_flatMap]
  simp only [List.mem_flatMap, mem_senders hf]
  constructor
  · rintro ⟨a, ⟨i, hi, rfl⟩, hm⟩
    rw [attentionA2e, moved_a2e_send (t := s.attention _) (Nat.le_add_right _ _) hcores,
      List.mem_flatMap] at hm
    obtain ⟨channel, hchannel, hm⟩ := hm
    rw [sendBytes, attention_rowBytes, List.mem_map] at hm
    obtain ⟨j, hj, rfl⟩ := hm
    refine ⟨i, hi, channel, hchannel, j, List.mem_range.1 hj, ?_⟩
    rw [← sender_rank]
    cases channel <;> rfl
  · rintro ⟨i, hi, channel, hchannel, j, hj, rfl⟩
    refine ⟨f + i * s.expertRankSize, ⟨i, hi, rfl⟩, ?_⟩
    rw [attentionA2e, moved_a2e_send (t := s.attention _) (Nat.le_add_right _ _) hcores, List.mem_flatMap]
    refine ⟨channel, hchannel, ?_⟩
    rw [sendBytes, attention_rowBytes, List.mem_map]
    refine ⟨j, List.mem_range.2 hj, ?_⟩
    rw [← sender_rank]
    cases channel <;> rfl

/-- What the windows hold after the senders. -/
theorem run_senders (hf : f < s.expertRankSize) (hcores : 0 < s.attnCores) (sched : Schedule)
    (mem : Address → UInt8) {i j : Nat} (hi : i < (s.senders f).length) {channel : Channel}
    (hchannel : channel ∈ sendChannels s.computeGate s.attnCores)
    (hj : j < s.batchSize * s.rowBytes channel) :
    run sched mem ((s.senders f).flatMap s.attentionA2e)
        ⟨.window (f + (i + 1) * s.expertRankSize), (s.attention 0).windowOffset s.batchSize channel + j⟩ =
      mem ⟨.input (f + (i + 1) * s.expertRankSize) channel, j⟩ := by
  apply run_of_mem ((mem_moved_senders hf hcores).2 ⟨i, hi, channel, hchannel, j, hj, rfl⟩)
  intro m hm hdst
  obtain ⟨i', -, channel', -, j', hj', rfl⟩ := (mem_moved_senders hf hcores).1 hm
  simp only [Address.mk.injEq, Buffer.window.injEq] at hdst
  obtain ⟨rfl, rfl⟩ := windowOffset_inj hj' hj hdst.2
  simp only [hdst.1]

/-- Rows that the expert rank takes from a sender. -/
def recvRowCount (s : Exchange) (f : Nat) : Nat :=
  s.expertBatch f / ceilRatio s.expertRankSize s.attentionRankSize

/-- The bytes the expert rank moves. -/
theorem mem_moved_expert (hFA : s.expertRankSize ≤ s.attentionRankSize) (hf : f < s.expertRankSize)
    (hcores : 0 < s.ffnCores) {m : Address × Address} :
    m ∈ moved (s.expertA2e f) ↔
      ∃ i < (s.senders f).length, ∃ channel ∈ recvChannels s.computeGate s.ffnCores,
      ∃ j < s.recvRowCount f * s.rowBytes channel,
        m = (⟨.window (f + (i + 1) * s.expertRankSize),
          (s.attention 0).windowOffset (s.recvRowCount f) channel + j⟩,
          ⟨.output f channel, i * (s.recvRowCount f * s.rowBytes channel) + j⟩) := by
  rw [expertA2e, (moved_a2e_recv (t := s.expert f) hf hcores).mem_iff]
  have hratio : (A2e.init (s.expert f)).attnToMoeRatio = (s.senders f).length := correctedRatio_eq hFA hf
  simp only [List.mem_flatMap, List.mem_range, hratio, recvBytes, List.mem_map, expert_rowBytes,
    windowOffset_eq 0]
  constructor
  · rintro ⟨i, hi, channel, hchannel, j, hj, rfl⟩
    exact ⟨i, hi, channel, hchannel, j, hj, rfl⟩
  · rintro ⟨i, hi, channel, hchannel, j, hj, rfl⟩
    exact ⟨i, hi, channel, hchannel, j, hj, rfl⟩

theorem recvRowCount_of_reached (hFA : s.expertRankSize ≤ s.attentionRankSize) (hf : f < s.expertRankSize)
    (h : Reached s.attentionRankSize s.expertRankSize f) : s.recvRowCount f = s.batchSize :=
  rows_of_reached hFA hf h _

theorem recvRowCount_le (hFA : s.expertRankSize ≤ s.attentionRankSize) (hf : f < s.expertRankSize) :
    s.recvRowCount f ≤ s.batchSize := by
  rcases Nat.eq_zero_or_pos s.batchSize with hzero | hpos
  · simp [recvRowCount, expertBatch, hzero]
  · by_cases h : Reached s.attentionRankSize s.expertRankSize f
    · exact (rows_of_reached hFA hf h _).le
    · exact (rows_of_not_reached hFA hf h hpos).le

theorem recvRowCount_lt (hFA : s.expertRankSize ≤ s.attentionRankSize) (hf : f < s.expertRankSize)
    (h : ¬ Reached s.attentionRankSize s.expertRankSize f) (hb : 0 < s.batchSize) :
    s.recvRowCount f < s.batchSize :=
  rows_of_not_reached hFA hf h hb

/-- A row of a sender in the expert rank's output. -/
theorem afterA2e_row (hFA : s.expertRankSize ≤ s.attentionRankSize) (hf : f < s.expertRankSize)
    (hattn : 0 < s.attnCores) (hffn : 0 < s.ffnCores) (hrows : s.recvRowCount f = s.batchSize)
    {channel : Channel} (hsend : channel ∈ sendChannels s.computeGate s.attnCores)
    (hrecv : channel ∈ recvChannels s.computeGate s.ffnCores) (sched sched' : Schedule)
    (mem : Address → UInt8) {i j : Nat} (hi : i < (s.senders f).length)
    (hj : j < s.batchSize * s.rowBytes channel) :
    s.afterA2e sched sched' mem f ⟨.output f channel, i * (s.batchSize * s.rowBytes channel) + j⟩ =
      mem ⟨.input (f + (i + 1) * s.expertRankSize) channel, j⟩ := by
  rw [← run_senders hf hattn sched mem hi hsend hj, afterA2e]
  apply run_of_mem
  · apply (mem_moved_expert hFA hf hffn).2
    rw [hrows]
    exact ⟨i, hi, channel, hrecv, j, hj, rfl⟩
  · intro m hm hdst
    rw [mem_moved_expert hFA hf hffn, hrows] at hm
    obtain ⟨i', -, channel', -, j', hj', rfl⟩ := hm
    simp only [Address.mk.injEq, Buffer.output.injEq, true_and] at hdst
    obtain ⟨rfl, hoffset⟩ := hdst
    -- the sender and the byte are read off the offset
    have hpos : 0 < s.batchSize * s.rowBytes channel' := Nat.zero_lt_of_lt hj
    have hdiv : ∀ k l, l < s.batchSize * s.rowBytes channel' →
        (k * (s.batchSize * s.rowBytes channel') + l) / (s.batchSize * s.rowBytes channel') = k := by
      intro k l hl
      rw [Nat.add_comm, Nat.add_mul_div_right _ _ hpos, Nat.div_eq_of_lt hl, Nat.zero_add]
    obtain rfl : i' = i := by rw [← hdiv i' j' hj', hoffset, hdiv i j hj]
    obtain rfl : j' = j := by omega
    rfl

/-- With the senders' row count right, the output is the senders' rows. -/
theorem gathered_of_rows (hFA : s.expertRankSize ≤ s.attentionRankSize) (hf : f < s.expertRankSize)
    (hattn : 0 < s.attnCores) (hffn : 0 < s.ffnCores) (hrows : s.recvRowCount f = s.batchSize)
    {channel : Channel} (hsend : channel ∈ sendChannels s.computeGate s.attnCores)
    (hrecv : channel ∈ recvChannels s.computeGate s.ffnCores) (sched sched' : Schedule)
    (mem : Address → UInt8) :
    ((List.range (s.expertBatch f * s.rowBytes channel)).map fun j =>
        s.afterA2e sched sched' mem f ⟨.output f channel, j⟩) =
      (s.senders f).flatMap fun a => (List.range (s.batchSize * s.rowBytes channel)).map fun j =>
        mem ⟨.input (s.expertRankSize + a) channel, j⟩ := by
  have hsize : s.expertBatch f * s.rowBytes channel =
      (s.senders f).length * (s.batchSize * s.rowBytes channel) := by
    rw [expertBatch, Nat.mul_comm s.batchSize, Nat.mul_assoc]
  have hsenders : s.senders f = (List.range (s.senders f).length).map fun i =>
      f + i * s.expertRankSize := by
    apply List.ext_getElem (by simp)
    intro i hi _
    rw [getElem_senders hf hi]
    simp
  rw [hsize, Strided.range_mul, List.map_flatMap]
  conv_rhs => rw [hsenders, List.flatMap_map]
  apply List.flatMap_congr
  intro i hi
  rw [List.map_map]
  apply List.map_congr_left
  intro j hj
  rw [sender_rank]
  exact afterA2e_row hFA hf hattn hffn hrows hsend hrecv sched sched' mem (List.mem_range.1 hi)
    (List.mem_range.1 hj)

/-- With too few rows of each sender, the end of the output is not written. -/
theorem not_gathered (hFA : s.expertRankSize ≤ s.attentionRankSize) (hf : f < s.expertRankSize)
    (hattn : 0 < s.attnCores) (hffn : 0 < s.ffnCores) (hrows : s.recvRowCount f < s.batchSize)
    {channel : Channel} (hbytes : 0 < s.batchSize * s.rowBytes channel) :
    ∃ mem, ((List.range (s.expertBatch f * s.rowBytes channel)).map fun j =>
        s.afterA2e .inOrder .inOrder mem f ⟨.output f channel, j⟩) ≠
      (s.senders f).flatMap fun a => (List.range (s.batchSize * s.rowBytes channel)).map fun j =>
        mem ⟨.input (s.expertRankSize + a) channel, j⟩ := by
  have hlen := group_pos hFA hf
  have hwidth : 0 < s.rowBytes channel := Nat.pos_of_mul_pos_left hbytes
  let last := (s.senders f).length * (s.recvRowCount f * s.rowBytes channel)
  have hlast : last < s.expertBatch f * s.rowBytes channel := by
    have hlt : s.recvRowCount f * s.rowBytes channel < s.batchSize * s.rowBytes channel :=
      Nat.mul_lt_mul_of_pos_right hrows hwidth
    rw [expertBatch, Nat.mul_comm s.batchSize, Nat.mul_assoc]
    exact Nat.mul_lt_mul_of_pos_left hlt hlen
  refine ⟨fun a => if a = ⟨.output f channel, last⟩ then 1 else 0, fun heq => ?_⟩
  have hmem : (1 : UInt8) ∈ (s.senders f).flatMap fun a =>
      (List.range (s.batchSize * s.rowBytes channel)).map fun j =>
      if (⟨.input (s.expertRankSize + a) channel, j⟩ : Address) = ⟨.output f channel, last⟩ then
          (1 : UInt8) else 0 := by
    rw [← heq, List.mem_map]
    refine ⟨last, List.mem_range.2 hlast, ?_⟩
    rw [afterA2e, run_of_not_mem, run_of_not_mem]
    · exact if_pos rfl
    · intro m hm hdst
      obtain ⟨i, -, channel', -, j, -, rfl⟩ := (mem_moved_senders hf hattn).1 hm
      cases hdst
    · intro m hm hdst
      obtain ⟨i, hi, channel', -, j, hj, rfl⟩ := (mem_moved_expert hFA hf hffn).1 hm
      simp only [Address.mk.injEq, Buffer.output.injEq, true_and] at hdst
      obtain ⟨rfl, hoffset⟩ := hdst
      have hle := Nat.mul_le_mul_right (s.recvRowCount f * s.rowBytes channel') (Nat.succ_le_of_lt hi)
      rw [Nat.succ_mul] at hle
      change i * (s.recvRowCount f * s.rowBytes channel') + j =
        (s.senders f).length * (s.recvRowCount f * s.rowBytes channel') at hoffset
      omega
  simp at hmem

/-! ### Flags -/

/-- The flag of sender `index` for a channel, on expert rank `f`. -/
def senderFlag (s : Exchange) (f : Nat) (channel : Channel) (index : Nat) : Nat :=
  flagAddr (channel.flagOffset * (s.senders f).length + index)

theorem senderFlag_inj {channel channel' : Channel} {i i' : Nat} (hi : i < (s.senders f).length)
    (hi' : i' < (s.senders f).length) (h : s.senderFlag f channel i = s.senderFlag f channel' i') :
    channel = channel' ∧ i = i' := by
  simp only [senderFlag, flagAddr, flagUnitInt64Num] at h
  cases channel <;> cases channel' <;> simp only [Channel.flagOffset] at h <;>
    first
      | exact ⟨rfl, by omega⟩
      | omega

theorem mem_signals_sender (hFA : s.expertRankSize ≤ s.attentionRankSize) (hf : f < s.expertRankSize)
    (hcores : 0 < s.attnCores) {i : Nat} {w : Nat × Nat} :
    w ∈ signals (s.attentionA2e (f + i * s.expertRankSize)) ↔
      ∃ channel ∈ sendChannels s.computeGate s.attnCores, w = (f, s.senderFlag f channel i) := by
  obtain ⟨hmod, hdiv⟩ := sender_mod_div hf i
  have hratio : (A2e.init (s.attention (f + i * s.expertRankSize))).attnToMoeRatio = (s.senders f).length :=
    correctedRatio_sender hFA hf i
  rw [attentionA2e, mem_signals_a2e (t := s.attention _) (Nat.le_add_right _ _) hcores]
  change (∃ channel ∈ sendChannels s.computeGate s.attnCores,
    w = ((s.expertRankSize + (f + i * s.expertRankSize)) % s.expertRankSize, flagOf _ channel
      ((s.expertRankSize + (f + i * s.expertRankSize)) / s.expertRankSize - 1))) ↔ _
  simp only [hmod, hdiv, flagOf, hratio, senderFlag]

theorem mem_waits_expert (hFA : s.expertRankSize ≤ s.attentionRankSize) (hf : f < s.expertRankSize)
    (hcores : 0 < s.ffnCores) {w : Nat} :
    w ∈ waits (s.expertA2e f) ↔ ∃ channel ∈ recvChannels s.computeGate s.ffnCores,
      ∃ i < (s.senders f).length,
      w = magicWord (s.senderFlag f channel i) := by
  have hratio : (A2e.init (s.expert f)).attnToMoeRatio = (s.senders f).length := correctedRatio_eq hFA hf
  rw [expertA2e, mem_waits_a2e (t := s.expert f) hf hcores]
  simp only [flagOf, hratio]
  rfl

theorem magicWord_inj {flag flag' : Nat} (h : magicWord flag = magicWord flag') : flag = flag' :=
  Nat.add_right_cancel h

/-- A sender writes as many flags as it has channels served. -/
theorem card_signals_sender (hFA : s.expertRankSize ≤ s.attentionRankSize) (hf : f < s.expertRankSize)
    (hcores : 0 < s.attnCores) {i : Nat} (hi : i < (s.senders f).length) :
    (signals (s.attentionA2e (f + i * s.expertRankSize))).toFinset.card =
      (sendChannels s.computeGate s.attnCores).length := by
  have himage : (signals (s.attentionA2e (f + i * s.expertRankSize))).toFinset =
      (sendChannels s.computeGate s.attnCores).toFinset.image fun channel =>
      (f, s.senderFlag f channel i) := by
    ext w
    rw [List.mem_toFinset, mem_signals_sender hFA hf hcores, Finset.mem_image]
    simp only [List.mem_toFinset, eq_comm]
  rw [himage, Finset.card_image_of_injective, List.toFinset_card_of_nodup]
  · unfold sendChannels
    split_ifs <;> decide
  · intro channel channel' h
    exact (senderFlag_inj hi hi (Prod.mk.inj h).2).1

/-! ### The way back -/

theorem e2a_returned (hFA : s.expertRankSize ≤ s.attentionRankSize) (hf : f < s.expertRankSize)
    (hattn : 0 < s.attnCores) (hffn : 0 < s.ffnCores) (sched sched' : Schedule) (mem : Address → UInt8)
    {i : Nat} (hi : i < (s.senders f).length) {j : Nat} (hj : j < s.batchSize * s.rowBytes .x) :
    s.afterE2a sched sched' mem f ⟨.output (f + (i + 1) * s.expertRankSize) .x, j⟩ =
      mem ⟨.input f .x, i * (s.batchSize * s.rowBytes .x) + j⟩ := by
  have hratio : correctedRatio s.expertRankSize s.attentionRankSize f = (s.senders f).length :=
    correctedRatio_eq hFA hf
  have hrows : s.expertBatch f / (s.senders f).length * s.hiddenSize * 2 = s.batchSize * s.rowBytes .x := by
    have hlen : 0 < (s.senders f).length := group_pos hFA hf
    rw [expertBatch, Nat.mul_div_cancel _ hlen, Nat.mul_assoc]
    rfl
  have hsent : ∀ m, m ∈ moved (s.expertE2a f) ↔
      ∃ i < (s.senders f).length, ∃ j < s.batchSize * s.rowBytes .x,
      m = (⟨.input f .x, i * (s.batchSize * s.rowBytes .x) + j⟩,
          ⟨.window (f + (i + 1) * s.expertRankSize), j⟩) := by
    intro m
    rw [expertE2a, (moved_e2a_send hf hffn).mem_iff]
    simp only [E2ATilingData.attnToMoeRatio, hratio, hrows, List.mem_flatMap, List.mem_range,
      List.mem_map, eq_comm]
  have hreceived : ∀ m, m ∈ moved ((s.senders f).flatMap s.attentionE2a) ↔ ∃ i < (s.senders f).length,
      ∃ j < s.batchSize * s.rowBytes .x,
          m = (⟨.window (f + (i + 1) * s.expertRankSize), j⟩,
            ⟨.output (f + (i + 1) * s.expertRankSize) .x, j⟩) := by
    intro m
    rw [moved_flatMap, List.mem_flatMap]
    constructor
    · rintro ⟨a, ha, hm⟩
      obtain ⟨i, hi, rfl⟩ := (mem_senders hf).1 ha
      rw [attentionE2a, moved_e2a_recv (Nat.le_add_right _ _) hattn, List.mem_map] at hm
      obtain ⟨j, hj, rfl⟩ := hm
      rw [List.mem_range, Nat.mul_assoc] at hj
      exact ⟨i, hi, j, hj, by rw [← sender_rank]⟩
    · rintro ⟨i, hi, j, hj, rfl⟩
      refine ⟨f + i * s.expertRankSize, (mem_senders hf).2 ⟨i, hi, rfl⟩, ?_⟩
      rw [attentionE2a, moved_e2a_recv (Nat.le_add_right _ _) hattn, List.mem_map]
      refine ⟨j, ?_, by rw [← sender_rank]⟩
      rw [List.mem_range, Nat.mul_assoc]
      exact hj
  rw [afterE2a, run_of_mem ((hreceived _).2 ⟨i, hi, j, hj, rfl⟩),
    run_of_mem ((hsent _).2 ⟨i, hi, j, hj, rfl⟩)]
  · intro m hm hdst
    obtain ⟨i', -, j', -, rfl⟩ := (hsent m).1 hm
    simp only [Address.mk.injEq, Buffer.window.injEq] at hdst
    obtain ⟨hrank, rfl⟩ := hdst
    obtain rfl : i' = i := by
      have := sender_inj (f := f) hf
        (by omega : f + (i' + 1) * s.expertRankSize = f + (i + 1) * s.expertRankSize)
      omega
    rfl
  · intro m hm hdst
    obtain ⟨i', -, j', -, rfl⟩ := (hreceived m).1 hm
    simp only [Address.mk.injEq, Buffer.output.injEq] at hdst
    obtain ⟨⟨hrank, -⟩, rfl⟩ := hdst
    simp only [hrank]

/-! ### Sizes -/

/-- Enough cores for every channel on both sides. -/
def CoresServe (s : Exchange) : Prop := s.computeGate = 0 ∨ (3 ≤ s.attnCores ∧ 2 ≤ s.ffnCores)

/-- The offsets and element counts of the group of `f` fit an `int`, and a sender's
ids fit the buffer. -/
def SizesFit (s : Exchange) (f : Nat) : Prop :=
  4 + s.batchSize * s.topk * 4 + s.batchSize * s.topk * 4 < 2 ^ 31 ∧
    s.batchSize * s.hiddenSize + s.attnCores < 2 ^ 31 ∧ s.batchSize * s.hiddenSize + s.ffnCores < 2 ^ 31 ∧
    (s.senders f).length * (s.batchSize * s.hiddenSize) < 2 ^ 31 ∧
    (s.computeGate ≠ 0 → 1024 + s.batchSize * s.topk * 4 ≤ ubSingleTotalSizeMax ∧
      (s.senders f).length * (s.batchSize * s.topk) < 2 ^ 31 ∧
      s.batchSize * s.topk + (s.ffnCores - 1) < 2 ^ 31)

/-- What the A2E and E2A calls of the Attention ranks need. -/
theorem allSafe_attention (hattn : 0 < s.attnCores) (a : Nat) :
    AllSafe (s.attentionA2e a) ∧ AllSafe (s.attentionE2a a) ↔
      4 + s.batchSize * s.topk * 4 + s.batchSize * s.topk * 4 < 2 ^ 31 ∧
        s.batchSize * s.hiddenSize + s.attnCores < 2 ^ 31 := by
  rw [attentionA2e, attentionE2a, allSafe_a2e_send (t := s.attention a) (Nat.le_add_right _ _) hattn,
    allSafe_e2a_recv (Nat.le_add_right _ _) hattn]
  change ((4 + s.batchSize * s.topk * 4 + s.batchSize * s.topk * 4 < 2 ^ 31 ∧
    s.batchSize * s.hiddenSize < 2 ^ 31 ∧
    (s.computeGate = 0 → s.batchSize * s.hiddenSize + s.attnCores < 2 ^ 31) ∧
    (s.computeGate ≠ 0 → 3 ≤ s.attnCores → s.batchSize * s.hiddenSize + (s.attnCores - 2) < 2 ^ 31)) ∧
    s.batchSize * s.hiddenSize + s.attnCores < 2 ^ 31) ↔ _
  exact ⟨fun h => ⟨h.1.1, h.2⟩,
    fun h => ⟨⟨h.1, by omega, fun _ => h.2, fun _ hthree => by omega⟩, h.2⟩⟩

/-- What the E2A call of the expert rank needs. -/
theorem allSafe_expertE2a (hFA : s.expertRankSize ≤ s.attentionRankSize) (hf : f < s.expertRankSize)
    (hffn : 0 < s.ffnCores) : AllSafe (s.expertE2a f) ↔ s.batchSize * s.hiddenSize + s.ffnCores < 2 ^ 31 ∧
      (s.senders f).length * (s.batchSize * s.hiddenSize) < 2 ^ 31 := by
  have hlen : 0 < (s.senders f).length := group_pos hFA hf
  have hratio : correctedRatio s.expertRankSize s.attentionRankSize f = (s.senders f).length :=
    correctedRatio_eq hFA hf
  rw [expertE2a, allSafe_e2a_send hf hffn (by rw [E2ATilingData.attnToMoeRatio, hratio]; exact hlen)]
  simp only [E2ATilingData.SendFits, E2ATilingData.attnToMoeRatio, hratio, expertBatch,
    Nat.mul_div_cancel _ hlen]

/-- What its A2E call needs, from the rows it takes of each sender. -/
theorem allSafe_expertA2e (hFA : s.expertRankSize ≤ s.attentionRankSize) (hf : f < s.expertRankSize)
    (hffn : 0 < s.ffnCores) : AllSafe (s.expertA2e f) ↔
      if s.computeGate = 0 then 4 + s.recvRowCount f * s.topk * 4 + s.recvRowCount f * s.topk * 4 < 2 ^ 31 ∧
        s.recvRowCount f * s.hiddenSize + s.ffnCores < 2 ^ 31 ∧
        (s.senders f).length * (s.recvRowCount f * s.hiddenSize) < 2 ^ 31
      else (1024 + s.recvRowCount f * s.topk * 4 ≤ ubSingleTotalSizeMax ∧
          (s.senders f).length * (s.recvRowCount f * s.topk) < 2 ^ 31) ∧
        (2 ≤ s.ffnCores → s.recvRowCount f * s.topk + (s.ffnCores - 1) < 2 ^ 31 ∧
          s.recvRowCount f * s.hiddenSize + (s.ffnCores - 1) < 2 ^ 31 ∧
          (s.senders f).length * (s.recvRowCount f * s.hiddenSize) < 2 ^ 31) := by
  have hlen : 0 < (s.senders f).length := group_pos hFA hf
  have hratio : (A2e.init (s.expert f)).attnToMoeRatio = (s.senders f).length := correctedRatio_eq hFA hf
  have hsafe := allSafe_a2e_recv (t := s.expert f) hf hffn (by rw [hratio]; exact hlen)
  rw [A2ETilingData.RecvFits, hratio] at hsafe
  exact hsafe

/-- With cores for every channel and the ids of all rows taken, the calls are within
bounds exactly when the sizes fit. -/
theorem withinBounds_iff (hFA : s.expertRankSize ≤ s.attentionRankSize) (hf : f < s.expertRankSize)
    (hattn : 0 < s.attnCores) (hffn : 0 < s.ffnCores) (hcores : s.CoresServe)
    (hids : s.computeGate ≠ 0 → s.recvRowCount f * s.topk = s.batchSize * s.topk) :
    ((∀ a ∈ s.senders f, AllSafe (s.attentionA2e a) ∧ AllSafe (s.attentionE2a a)) ∧
      AllSafe (s.expertA2e f) ∧ AllSafe (s.expertE2a f)) ↔ s.SizesFit f := by
  have hsender : 0 ∈ List.range (s.senders f).length := List.mem_range.2 (group_pos hFA hf)
  have hfirst := (mem_senders hf).2 ⟨0, List.mem_range.1 hsender, rfl⟩
  -- the rows taken are not more than those sent
  have hle := recvRowCount_le (s := s) hFA hf
  have hrows : s.recvRowCount f * s.hiddenSize ≤ s.batchSize * s.hiddenSize := Nat.mul_le_mul_right _ hle
  have htopk : s.recvRowCount f * s.topk ≤ s.batchSize * s.topk := Nat.mul_le_mul_right _ hle
  have hall : (s.senders f).length * (s.recvRowCount f * s.hiddenSize) ≤
      (s.senders f).length * (s.batchSize * s.hiddenSize) := Nat.mul_le_mul_left _ hrows
  simp only [allSafe_attention hattn, allSafe_expertE2a hFA hf hffn, allSafe_expertA2e hFA hf hffn]
  unfold SizesFit
  constructor
  · rintro ⟨hsend, hrecv, hback⟩
    obtain ⟨hoffset, hx⟩ := hsend _ hfirst
    refine ⟨hoffset, hx, hback.1, hback.2, fun hgate => ?_⟩
    rw [if_neg hgate, hids hgate] at hrecv
    have htwo : 2 ≤ s.ffnCores := (hcores.resolve_left hgate).2
    exact ⟨hrecv.1.1, hrecv.1.2, (hrecv.2 htwo).1⟩
  · rintro ⟨hoffset, hx, hback, hsum, hgated⟩
    refine ⟨fun _ _ => ⟨hoffset, hx⟩, ?_, hback, hsum⟩
    split
    · exact ⟨by omega, by omega, by omega⟩
    · rename_i hgate
      obtain ⟨hbuffer, hidsum, hscales⟩ := hgated hgate
      rw [hids hgate]
      exact ⟨⟨hbuffer, hidsum⟩, fun _ => ⟨hscales, by omega, by omega⟩⟩

/-! ### When the ranks agree -/

/-- Agreement needs cores for every channel and, if there is something to send, an
expert rank that the last round reaches. -/
theorem Agreement.served (h : s.Agreement f) (hFA : s.expertRankSize ≤ s.attentionRankSize)
    (hf : f < s.expertRankSize) (hattn : 0 < s.attnCores) (hffn : 0 < s.ffnCores) :
    s.CoresServe ∧ ((∀ channel ∈ channels s.computeGate, s.batchSize * s.rowBytes channel = 0) ∨
      Reached s.attentionRankSize s.expertRankSize f) := by
  have hlen : 0 < (s.senders f).length := group_pos hFA hf
  refine ⟨?_, ?_⟩
  · by_cases hgate : s.computeGate = 0
    · exact .inl hgate
    have hcard := h.perChannel _ ((mem_senders hf).2 ⟨0, hlen, rfl⟩)
    rw [card_signals_sender hFA hf hattn hlen, sendChannels, channels, if_neg hgate, if_neg hgate] at hcard
    have hthree : 3 ≤ s.attnCores := by
      split_ifs at hcard
      · cases hcard
      · cases hcard
      · omega
    refine .inr ⟨hthree, ?_⟩
    -- the first sender raises its flag for the rows, so some core waits for it
    have hsignal : (f, s.senderFlag f .x 0) ∈ signals (s.attentionA2e (f + 0 * s.expertRankSize)) := by
      rw [mem_signals_sender hFA hf hattn]
      refine ⟨.x, ?_, rfl⟩
      rw [sendChannels, if_neg hgate, if_neg (by omega), if_neg (by omega)]
      simp
    have hwait := (h.matched _).2 ⟨_, (mem_senders hf).2 ⟨0, hlen, rfl⟩, _, hsignal, rfl⟩
    obtain ⟨channel, hchannel, i, hi, hword⟩ := (mem_waits_expert hFA hf hffn).1 hwait
    obtain ⟨rfl, -⟩ := senderFlag_inj hlen hi (magicWord_inj hword)
    rw [recvChannels, if_neg hgate] at hchannel
    split_ifs at hchannel with hone
    · simp at hchannel
    · omega
  · by_contra hnot
    push Not at hnot
    obtain ⟨⟨channel, hchannel, hbytes⟩, hreached⟩ := hnot
    have hpos : 0 < s.batchSize * s.rowBytes channel := Nat.pos_of_ne_zero hbytes
    obtain ⟨mem, hne⟩ := not_gathered hFA hf hattn hffn
      (recvRowCount_lt hFA hf hreached (Nat.pos_of_mul_pos_right hpos)) hpos
    exact hne (h.gathered channel hchannel _ _ mem)

/-- The group of `f` agrees exactly when the cores serve every channel, the sizes fit
and there is nothing to send or the last round of Attention ranks reaches `f` or is
full. -/
theorem agreement_iff (hFA : s.expertRankSize ≤ s.attentionRankSize) (hf : f < s.expertRankSize)
    (hattn : 0 < s.attnCores) (hffn : 0 < s.ffnCores) :
    s.Agreement f ↔ s.CoresServe ∧ s.SizesFit f ∧
      ((∀ channel ∈ channels s.computeGate, s.batchSize * s.rowBytes channel = 0) ∨
        Reached s.attentionRankSize s.expertRankSize f) := by
  have hids : ((∀ channel ∈ channels s.computeGate, s.batchSize * s.rowBytes channel = 0) ∨
      Reached s.attentionRankSize s.expertRankSize f) → s.computeGate ≠ 0 →
      s.recvRowCount f * s.topk = s.batchSize * s.topk := by
    rintro (hnone | hreached) hgate
    · have hzero := hnone .ids (by rw [channels, if_neg hgate]; simp)
      rw [rowBytes, ← Nat.mul_assoc] at hzero
      have hle := Nat.mul_le_mul_right s.topk (recvRowCount_le (s := s) hFA hf)
      omega
    · rw [recvRowCount_of_reached hFA hf hreached]
  rw [and_left_comm, and_comm (a := s.SizesFit f)]
  constructor
  · intro h
    have hserved := h.served hFA hf hattn hffn
    exact ⟨hserved, (withinBounds_iff hFA hf hattn hffn hserved.1 (hids hserved.2)).1 h.withinBounds⟩
  · rintro ⟨⟨hcores, hrows⟩, hfits⟩
    have hsend : sendChannels s.computeGate s.attnCores = channels s.computeGate := by
      unfold sendChannels channels
      rcases hcores with hgate | ⟨hthree, -⟩
      · rw [if_pos hgate, if_pos hgate]
      · rw [if_neg (show s.attnCores ≠ 1 by omega), if_neg (show s.attnCores ≠ 2 by omega)]
    have hrecv : recvChannels s.computeGate s.ffnCores = channels s.computeGate := by
      unfold recvChannels channels
      rcases hcores with hgate | ⟨-, htwo⟩
      · rw [if_pos hgate, if_pos hgate]
      · rw [if_neg (show s.ffnCores ≠ 1 by omega)]
    constructor
    case gathered =>
      intro channel hchannel sched sched' mem
      rcases hrows with hnone | hreached
      · have hzero := hnone channel hchannel
        rw [expertBatch, Nat.mul_right_comm, hzero]
        simp
      · exact gathered_of_rows hFA hf hattn hffn (recvRowCount_of_reached hFA hf hreached)
          (hsend ▸ hchannel) (hrecv ▸ hchannel) sched sched' mem
    case matched =>
      intro w
      rw [mem_waits_expert hFA hf hffn, hrecv]
      constructor
      · rintro ⟨channel, hchannel, i, hi, rfl⟩
        exact ⟨_, (mem_senders hf).2 ⟨i, hi, rfl⟩, _,
          (mem_signals_sender hFA hf hattn).2 ⟨channel, hsend ▸ hchannel, rfl⟩, rfl⟩
      · rintro ⟨a, ha, flag, hflag, rfl⟩
        obtain ⟨i, hi, rfl⟩ := (mem_senders hf).1 ha
        obtain ⟨channel, hchannel, heq⟩ := (mem_signals_sender hFA hf hattn).1 hflag
        exact ⟨channel, hsend ▸ hchannel, i, hi, congrArg magicWord (Prod.mk.inj heq).2⟩
    case distinct =>
      intro a ha a' ha' hne w hw hw'
      obtain ⟨i, hi, rfl⟩ := (mem_senders hf).1 ha
      obtain ⟨i', hi', rfl⟩ := (mem_senders hf).1 ha'
      obtain ⟨channel, -, rfl⟩ := (mem_signals_sender hFA hf hattn).1 hw
      obtain ⟨channel', -, heq⟩ := (mem_signals_sender hFA hf hattn).1 hw'
      obtain ⟨-, rfl⟩ := senderFlag_inj hi hi' (Prod.mk.inj heq).2
      exact hne rfl
    case perChannel =>
      intro a ha
      obtain ⟨i, hi, rfl⟩ := (mem_senders hf).1 ha
      rw [card_signals_sender hFA hf hattn hi, hsend]
    case returned =>
      intro sched sched' mem i hi j hj
      rw [getElem_senders hf hi, sender_rank]
      exact e2a_returned hFA hf hattn hffn sched sched' mem hi hj
    case withinBounds => exact (withinBounds_iff hFA hf hattn hffn hcores (hids hrows)).2 hfits

end Group

/-- Two rounds over four Attention ranks: every group agrees. -/
theorem agreement_fourByTwo : (⟨2, 4, 3, 8, 2, 1, 4, 3⟩ : Exchange).Agreement 1 :=
  (agreement_iff (by decide) (by decide) (by decide) (by decide)).2 ⟨.inr (by decide),
    ⟨by decide, by decide, by decide, by decide, fun _ => ⟨by decide, by decide, by decide⟩⟩,
    .inr (by decide)⟩

/-- Three Attention ranks on two expert ranks: expert rank 1 has one sender of two
rows and takes one. -/
theorem second_expert_takes_half : ¬ (⟨2, 3, 2, 8, 2, 0, 4, 4⟩ : Exchange).Agreement 1 := by
  intro h
  have hbytes : 0 < 2 * (⟨2, 3, 2, 8, 2, 0, 4, 4⟩ : Exchange).rowBytes .x := by decide
  obtain ⟨mem, hne⟩ := not_gathered (s := ⟨2, 3, 2, 8, 2, 0, 4, 4⟩) (f := 1) (by decide) (by decide)
    (by decide) (by decide) (by decide) hbytes
  exact hne (h.gathered .x (by decide) _ _ mem)

end Exchange

end AfdPlugin.Kernels
