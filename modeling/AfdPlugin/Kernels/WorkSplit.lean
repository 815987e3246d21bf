import AfdPlugin.Kernels.RankAgreement
/-!
# Work split and on-chip bounds of A2E

The cores of a call share its rows, ids and scales. Nothing bounds the core count
or the sizes: with `computeGate` an Attention rank needs a core for the ids, one
for the scales and one for the rows, an expert rank a core for the ids and one
for the rest, and the ids of a sender pass the unified buffer in one piece. An
`int` that overflows counts as a failure.
-/

namespace AfdPlugin.Kernels

/-! ## Bytes of a tensor -/

/-- The bytes of a tensor among bytes moved. -/
def bytesIn (buffer : Buffer) (l : List (Address × Address)) : List Nat :=
  l.filterMap fun m =>
    if m.1.buffer = buffer then some m.1.offset else if m.2.buffer = buffer then some m.2.offset else none

theorem bytesIn_flatMap {ι : Type} (buffer : Buffer) (l : List ι) (f : ι → List (Address × Address)) :
    bytesIn buffer (l.flatMap f) = l.flatMap fun i => bytesIn buffer (f i) := List.filterMap_flatMap

/-- The tensor that a call reads its rows from or writes them to. -/
def A2ETilingData.tensor (t : A2ETilingData) (channel : Channel) : Buffer :=
  if t.rank < t.expertRankSize then .output t.rank channel else .input t.rank channel

/-- The cores of a call stay within bounds and move each byte of its rows, ids
and scales once. -/
structure CallSound (t : A2ETilingData) (blockNum : Nat) : Prop where
  safe : AllSafe (a2e t blockNum)
  covers : ∀ channel ∈ channels t.computeGate,
    (bytesIn (t.tensor channel) (moved (a2e t blockNum))).Perm
    (List.range (t.batchSize * t.rowBytes channel))

section Covers
variable {t : A2ETilingData} {blockNum : Nat}

theorem bytesIn_sendBytes (channel channel' : Channel) :
    bytesIn (.input t.rank channel) (sendBytes t channel') =
      if channel' = channel then List.range (t.batchSize * t.rowBytes channel) else [] := by
  rw [bytesIn, sendBytes, List.filterMap_map]
  by_cases h : channel' = channel
  · subst h
    simp
  · simp [h]

theorem bytesIn_recvBytes (channel channel' : Channel) (index : Nat) :
    bytesIn (.output t.rank channel) (recvBytes t channel' index) =
      if channel' = channel then (List.range ((A2e.init t).recvBatchSize * t.rowBytes channel)).map fun j =>
        index * ((A2e.init t).recvBatchSize * t.rowBytes channel) + j else [] := by
  rw [bytesIn, recvBytes, List.filterMap_map]
  by_cases h : channel' = channel
  · subst h
    simp
  · simp [h]

/-- Channels are listed once. -/
theorem flatMap_channel {l : List Channel} (hl : l.Nodup) (channel : Channel) (bytes : List Nat) :
    (l.flatMap fun channel' => if channel' = channel then bytes else []) = if channel ∈ l then bytes
      else [] := by
  induction l with
  | nil => rfl
  | cons c l ih =>
    obtain ⟨hc, hl⟩ := List.nodup_cons.1 hl
    rw [List.flatMap_cons, ih hl]
    by_cases h : c = channel
    · subst h
      simp [hc]
    · rw [if_neg h, List.nil_append]
      simp [Ne.symm h]

theorem sendChannels_nodup (computeGate blockNum : Nat) : (sendChannels computeGate blockNum).Nodup := by
  unfold sendChannels
  split_ifs <;> decide

theorem recvChannels_nodup (computeGate blockNum : Nat) : (recvChannels computeGate blockNum).Nodup := by
  unfold recvChannels
  split_ifs <;> decide

theorem perm_range_iff {m n : Nat} : (List.range m).Perm (List.range n) ↔ m = n := by
  constructor
  · intro h
    simpa using h.length_eq
  · rintro rfl
    exact .refl _

/-- What an Attention rank's cores move of a tensor: all of it if they serve the
channel. -/
theorem covers_send_iff (hrank : t.expertRankSize ≤ t.rank) (hcores : 0 < blockNum) (channel : Channel) :
    (bytesIn (t.tensor channel) (moved (a2e t blockNum))).Perm
      (List.range (t.batchSize * t.rowBytes channel)) ↔
      channel ∈ sendChannels t.computeGate blockNum ∨ t.batchSize * t.rowBytes channel = 0 := by
  rw [A2ETilingData.tensor, if_neg (not_lt.2 hrank), moved_a2e_send hrank hcores, bytesIn_flatMap]
  simp only [bytesIn_sendBytes]
  rw [flatMap_channel (sendChannels_nodup _ _)]
  by_cases hserved : channel ∈ sendChannels t.computeGate blockNum
  · rw [if_pos hserved]
    exact iff_of_true (.refl _) (.inl hserved)
  · rw [if_neg hserved]
    rw [List.nil_perm, List.range_eq_nil]
    simp [hserved]

/-- An expert rank's cores move, of a channel they serve, the rows they take from
each sender. -/
theorem covers_recv_iff (hrank : t.rank < t.expertRankSize) (hcores : 0 < blockNum) (channel : Channel) :
    (bytesIn (t.tensor channel) (moved (a2e t blockNum))).Perm
      (List.range (t.batchSize * t.rowBytes channel)) ↔
      (channel ∈ recvChannels t.computeGate blockNum ∧
        (A2e.init t).attnToMoeRatio * ((A2e.init t).recvBatchSize * t.rowBytes channel) =
          t.batchSize * t.rowBytes channel) ∨ t.batchSize * t.rowBytes channel = 0 := by
  have hmoved : (bytesIn (t.tensor channel) (moved (a2e t blockNum))).Perm
      (if channel ∈ recvChannels t.computeGate blockNum then
        List.range ((A2e.init t).attnToMoeRatio * ((A2e.init t).recvBatchSize * t.rowBytes channel))
            else []) := by
    rw [A2ETilingData.tensor, if_pos hrank]
    apply ((moved_a2e_recv hrank hcores).filterMap _).trans
    change (bytesIn _ _).Perm _
    rw [bytesIn_flatMap]
    simp only [bytesIn_flatMap, bytesIn_recvBytes, flatMap_channel (recvChannels_nodup _ _)]
    split
    · exact .of_eq (Strided.range_mul _ _).symm
    · simp
  rw [hmoved.congr_left]
  by_cases hserved : channel ∈ recvChannels t.computeGate blockNum
  · rw [if_pos hserved, perm_range_iff]
    constructor
    · exact fun h => .inl ⟨hserved, h⟩
    · rintro (h | h)
      · exact h.2
      · -- without bytes to take there are none in a sender's rows either
        have hrows : (A2e.init t).recvBatchSize * t.rowBytes channel = 0 := by
          rcases Nat.mul_eq_zero.1 h with hb | hw
          · have hzero : (A2e.init t).recvBatchSize =
              t.batchSize / ceilRatio t.expertRankSize t.attentionRankSize := rfl
            rw [hzero, hb, Nat.zero_div, Nat.zero_mul]
          · rw [hw, Nat.mul_zero]
        rw [h, hrows, Nat.mul_zero]
  · rw [if_neg hserved, List.nil_perm, List.range_eq_nil]
    simp [hserved]

end Covers

/-! ## The calls of a group -/

/-- A2E calls with the same shape on all ranks. The ranks have row counts of their
own. -/
structure GroupCalls where
  expertRankSize : Nat
  attentionRankSize : Nat
  hiddenSize : Nat
  topk : Nat
  computeGate : Nat
  attnCores : Nat
  ffnCores : Nat
  attentionRows : Nat → Nat
  expertRows : Nat → Nat

namespace GroupCalls
variable (g : GroupCalls)

/-- The Attention ranks of expert rank `f`. -/
def senders (f : Nat) : List Nat := Strided.group g.attentionRankSize g.expertRankSize f

def attention (a : Nat) : A2ETilingData :=
  ⟨g.attentionRows a, g.hiddenSize, g.topk, g.expertRankSize, g.attentionRankSize, g.expertRankSize + a,
    g.computeGate⟩

def expert (f : Nat) : A2ETilingData :=
  ⟨g.expertRows f, g.hiddenSize, g.topk, g.expertRankSize, g.attentionRankSize, f, g.computeGate⟩

/-- The calls of a group are sound, and a sender writes every flag that is waited
for. -/
structure Sound (f : Nat) : Prop where
  attention : ∀ a ∈ g.senders f, CallSound (g.attention a) g.attnCores
  expert : CallSound (g.expert f) g.ffnCores
  flags : ∀ w ∈ waits (a2e (g.expert f) g.ffnCores), ∃ a ∈ g.senders f, ∃ flag,
    (f, flag) ∈ signals (a2e (g.attention a) g.attnCores) ∧ w = magicWord flag

/-- What an Attention rank's call needs, for `b` rows. -/
def SendFits (b : Nat) : Prop :=
  4 + b * g.topk * 4 + b * g.topk * 4 < 2 ^ 31 ∧ b * g.hiddenSize < 2 ^ 31 ∧
    if g.computeGate = 0 then b * g.hiddenSize + g.attnCores < 2 ^ 31
    else (0 < b * g.hiddenSize → 3 ≤ g.attnCores) ∧ (0 < b * g.topk → 2 ≤ g.attnCores) ∧
      (3 ≤ g.attnCores → b * g.hiddenSize + (g.attnCores - 2) < 2 ^ 31)

/-- What an expert rank's call needs, for a batch of `b` rows of which it takes
`b / ceilRatio` from each sender. -/
def RecvFits (f b : Nat) : Prop :=
  let rows := b / ceilRatio g.expertRankSize g.attentionRankSize
  let senders := (g.senders f).length
  if g.computeGate = 0 then
    4 + rows * g.topk * 4 + rows * g.topk * 4 < 2 ^ 31 ∧ rows * g.hiddenSize + g.ffnCores < 2 ^ 31 ∧
      senders * (rows * g.hiddenSize) < 2 ^ 31 ∧
      (0 < b * g.hiddenSize → Reached g.attentionRankSize g.expertRankSize f ∧ senders ∣ b)
  else
    1024 + rows * g.topk * 4 ≤ ubSingleTotalSizeMax ∧ senders * (rows * g.topk) < 2 ^ 31 ∧
      (2 ≤ g.ffnCores → rows * g.topk + (g.ffnCores - 1) < 2 ^ 31 ∧
        rows * g.hiddenSize + (g.ffnCores - 1) < 2 ^ 31 ∧
        senders * (rows * g.hiddenSize) < 2 ^ 31) ∧
      (0 < b * g.hiddenSize ∨ 0 < b * g.topk →
        2 ≤ g.ffnCores ∧ Reached g.attentionRankSize g.expertRankSize f ∧ senders ∣ b)

/-- The flags an expert rank waits for with these cores are written. -/
def FlagsServed : Prop := g.computeGate = 0 ∨ g.ffnCores = 1 ∨ 3 ≤ g.attnCores

section Sound
variable {g} {f : Nat}

/-- The host tiling accepts the calls. -/
theorem accepted (hf : f < g.expertRankSize) :
    (g.expert f).Accepted ∧ ∀ a ∈ g.senders f, (g.attention a).Accepted := by
  refine ⟨?_, fun a ha => ?_⟩
  · change f < g.expertRankSize + g.attentionRankSize
    omega
  · have := (Strided.mem_group.1 ha).1
    change g.expertRankSize + a < g.expertRankSize + g.attentionRankSize
    omega

theorem mul_four_pos {b n : Nat} : b * (n * 4) = 0 ↔ ¬ 0 < b * n := by
  rw [← Nat.mul_assoc]
  omega

theorem mul_two_pos {b n : Nat} : b * (n * 2) = 0 ↔ ¬ 0 < b * n := by
  rw [← Nat.mul_assoc]
  omega

theorem callSound_attention (hcores : 0 < g.attnCores) (a : Nat) :
    CallSound (g.attention a) g.attnCores ↔ g.SendFits (g.attentionRows a) := by
  have hrank : (g.attention a).expertRankSize ≤ (g.attention a).rank := Nat.le_add_right _ _
  have hsafe := allSafe_a2e_send hrank hcores
  have hcovers : (∀ channel ∈ channels g.computeGate,
      (bytesIn ((g.attention a).tensor channel) (moved (a2e (g.attention a) g.attnCores))).Perm
        (List.range ((g.attention a).batchSize * (g.attention a).rowBytes channel))) ↔
      (g.computeGate ≠ 0 → (0 < g.attentionRows a * g.hiddenSize → 3 ≤ g.attnCores) ∧
        (0 < g.attentionRows a * g.topk → 2 ≤ g.attnCores)) := by
    simp only [covers_send_iff hrank hcores]
    change (∀ channel ∈ channels g.computeGate, channel ∈ sendChannels g.computeGate g.attnCores ∨ _) ↔ _
    unfold channels sendChannels
    by_cases hgate : g.computeGate = 0
    · simp [hgate]
    · simp only [if_neg hgate, List.forall_mem_cons, List.not_mem_nil, false_imp_iff,
        implies_true, and_true]
      change (_ ∨ g.attentionRows a * (g.hiddenSize * 2) = 0) ∧
        (_ ∨ g.attentionRows a * (g.topk * 4) = 0) ∧ _ ↔ _
      rw [mul_four_pos, mul_two_pos]
      by_cases hone : g.attnCores = 1
      · simp [hone, hgate]
      by_cases htwo : g.attnCores = 2
      · simp [htwo, hgate]
      · have hthree : 3 ≤ g.attnCores := by omega
        simp [hone, htwo, hthree]
        omega
  unfold SendFits
  constructor
  · rintro ⟨hs, hc⟩
    obtain ⟨hoffset, hproduct, hrows, hrows'⟩ := hsafe.1 hs
    refine ⟨hoffset, hproduct, ?_⟩
    split
    · rename_i hgate
      exact hrows hgate
    · rename_i hgate
      exact ⟨(hcovers.1 hc hgate).1, (hcovers.1 hc hgate).2, hrows' hgate⟩
  · rintro ⟨hoffset, hproduct, hmode⟩
    refine ⟨hsafe.2 ⟨hoffset, hproduct, fun (hgate : g.computeGate = 0) => ?_,
      fun (hgate : g.computeGate ≠ 0) => ?_⟩, hcovers.2 fun hgate => ?_⟩
    · rwa [if_pos hgate] at hmode
    · rw [if_neg hgate] at hmode
      exact hmode.2.2
    · rw [if_neg hgate] at hmode
      exact ⟨hmode.1, hmode.2.1⟩

theorem callSound_expert (hFA : g.expertRankSize ≤ g.attentionRankSize) (hf : f < g.expertRankSize)
    (hcores : 0 < g.ffnCores) : CallSound (g.expert f) g.ffnCores ↔ g.RecvFits f (g.expertRows f) := by
  have hrank : (g.expert f).rank < (g.expert f).expertRankSize := hf
  have hratio : (A2e.init (g.expert f)).attnToMoeRatio = (g.senders f).length := correctedRatio_eq hFA hf
  have hlen : 0 < (g.senders f).length := group_pos hFA hf
  have hrows : (A2e.init (g.expert f)).recvBatchSize =
    g.expertRows f / ceilRatio g.expertRankSize g.attentionRankSize := rfl
  have hsafe := allSafe_a2e_recv hrank hcores (hratio ▸ hlen)
  rw [A2ETilingData.RecvFits, hratio, hrows] at hsafe
  -- of each tensor, everything or nothing is there to take
  have hsum : ∀ size,
      (g.senders f).length * (g.expertRows f / ceilRatio g.expertRankSize g.attentionRankSize * size) =
      g.expertRows f * size ↔ (0 < g.expertRows f * size →
        Reached g.attentionRankSize g.expertRankSize f ∧ (g.senders f).length ∣ g.expertRows f) := by
    intro size
    rw [← Nat.mul_assoc]
    rcases Nat.eq_zero_or_pos size with rfl | hsize
    · simp
    rcases Nat.eq_zero_or_pos (g.expertRows f) with hzero | hpos
    · simp [hzero]
    · rw [Nat.mul_left_inj hsize.ne', senders, rows_cover_iff hFA hf hpos]
      exact ⟨fun h _ => h, fun h => h (Nat.mul_pos hpos hsize)⟩
  have hcovers : ∀ channel,
      (bytesIn ((g.expert f).tensor channel) (moved (a2e (g.expert f) g.ffnCores))).Perm
      (List.range ((g.expert f).batchSize * (g.expert f).rowBytes channel)) ↔
      (0 < g.expertRows f * (g.expert f).rowBytes channel →
          channel ∈ recvChannels g.computeGate g.ffnCores ∧
          Reached g.attentionRankSize g.expertRankSize f ∧ (g.senders f).length ∣ g.expertRows f) := by
    intro channel
    rw [covers_recv_iff hrank hcores, hratio, hrows]
    change _ ∧ (g.senders f).length * (_ * (g.expert f).rowBytes channel) =
      g.expertRows f * (g.expert f).rowBytes channel ∨
        g.expertRows f * (g.expert f).rowBytes channel = 0 ↔ _
    rw [hsum]
    rcases Nat.eq_zero_or_pos (g.expertRows f * (g.expert f).rowBytes channel) with hzero | hpos
    · simp [hzero]
    · have hmode : (g.expert f).computeGate = g.computeGate := rfl
      simp [hpos, hpos.ne', hmode]
  have hx : 0 < g.expertRows f * (g.expert f).rowBytes .x ↔ 0 < g.expertRows f * g.hiddenSize := by
    change 0 < g.expertRows f * (g.hiddenSize * 2) ↔ _
    rw [← Nat.mul_assoc]
    omega
  have hids : 0 < g.expertRows f * (g.topk * 4) ↔ 0 < g.expertRows f * g.topk := by
    rw [← Nat.mul_assoc]
    omega
  unfold RecvFits
  dsimp only
  by_cases hgate : g.computeGate = 0
  · have hchannels : channels g.computeGate = [.x] := if_pos hgate
    have hrecv : recvChannels g.computeGate g.ffnCores = [.x] := if_pos hgate
    have hcov := hcovers .x
    rw [if_pos (show (g.expert f).computeGate = 0 from hgate)] at hsafe
    rw [hrecv, hx] at hcov
    rw [if_pos hgate]
    constructor
    · rintro ⟨hs, hc⟩
      obtain ⟨hoffset, hcopy, hsums⟩ := hsafe.1 hs
      have hrow := hcov.1
        (hc .x (by rw [show (g.expert f).computeGate = g.computeGate from rfl, hchannels]; simp))
      exact ⟨hoffset, hcopy, hsums, fun hpos => (hrow hpos).2⟩
    · rintro ⟨hoffset, hcopy, hsums, hrow⟩
      refine ⟨hsafe.2 ⟨hoffset, hcopy, hsums⟩, fun channel hchannel => ?_⟩
      rw [show (g.expert f).computeGate = g.computeGate from rfl, hchannels] at hchannel
      obtain rfl := List.mem_singleton.1 hchannel
      exact hcov.2 fun hpos => ⟨List.mem_singleton_self _, hrow hpos⟩
  have hchannels : channels g.computeGate = [.x, .scales, .ids] := if_neg hgate
  rw [if_neg (show (g.expert f).computeGate ≠ 0 from hgate)] at hsafe
  rw [if_neg hgate]
  constructor
  · rintro ⟨hs, hc⟩
    obtain ⟨⟨hbuffer, hidsum⟩, hrest⟩ := hsafe.1 hs
    refine ⟨hbuffer, hidsum, hrest, ?_⟩
    rw [show (g.expert f).computeGate = g.computeGate from rfl, hchannels] at hc
    have htwo : ∀ channel, channel ≠ .ids → channel ∈ recvChannels g.computeGate g.ffnCores →
        2 ≤ g.ffnCores := by
      intro channel hne hmem
      rw [recvChannels, if_neg hgate] at hmem
      split_ifs at hmem with hone
      · exact absurd (List.mem_singleton.1 hmem) hne
      · omega
    rintro (hpos | hpos)
    · have hrow := (hcovers .x).1 (hc .x (by simp)) (hx.2 hpos)
      exact ⟨htwo .x (by decide) hrow.1, hrow.2⟩
    · have hrow := (hcovers .scales).1 (hc .scales (by simp)) (hids.2 hpos)
      exact ⟨htwo .scales (by decide) hrow.1, hrow.2⟩
  · rintro ⟨hbuffer, hidsum, hrest, hrow⟩
    refine ⟨hsafe.2 ⟨⟨hbuffer, hidsum⟩, hrest⟩, fun channel _ => (hcovers channel).2 fun hpos => ?_⟩
    have hsize : 0 < g.expertRows f * g.hiddenSize ∨ 0 < g.expertRows f * g.topk := by
      cases channel with
      | x => exact .inl (hx.1 hpos)
      | scales => exact .inr (hids.1 hpos)
      | ids => exact .inr (hids.1 hpos)
    obtain ⟨htwo, hrest⟩ := hrow hsize
    refine ⟨?_, hrest⟩
    rw [recvChannels, if_neg hgate, if_neg (by omega)]
    cases channel <;> simp

theorem flags_iff (hFA : g.expertRankSize ≤ g.attentionRankSize) (hf : f < g.expertRankSize)
    (hattn : 0 < g.attnCores) (hffn : 0 < g.ffnCores) :
    (∀ w ∈ waits (a2e (g.expert f) g.ffnCores), ∃ a ∈ g.senders f, ∃ flag,
      (f, flag) ∈ signals (a2e (g.attention a) g.attnCores) ∧ w = magicWord flag) ↔ g.FlagsServed := by
  have hratio : (A2e.init (g.expert f)).attnToMoeRatio = (g.senders f).length := correctedRatio_eq hFA hf
  have hlen : 0 < (g.senders f).length := group_pos hFA hf
  have hflag : ∀ i channel, flagOf (g.attention (f + i * g.expertRankSize)) channel i =
      flagOf (g.expert f) channel i := by
    intro i channel
    have hsender : (A2e.init (g.attention (f + i * g.expertRankSize))).attnToMoeRatio =
        (g.senders f).length :=
      correctedRatio_sender hFA hf i
    rw [flagOf, flagOf, hsender, hratio]
  have hsignals : ∀ i w, w ∈ signals (a2e (g.attention (f + i * g.expertRankSize)) g.attnCores) ↔
      ∃ channel ∈ sendChannels g.computeGate g.attnCores, w = (f, flagOf (g.expert f) channel i) := by
    intro i w
    obtain ⟨hmod, hdiv⟩ := sender_mod_div hf i
    rw [mem_signals_a2e (Nat.le_add_right _ _) hattn]
    change (∃ channel ∈ sendChannels g.computeGate g.attnCores, w =
      ((g.expertRankSize + (f + i * g.expertRankSize)) % g.expertRankSize, flagOf _ channel
        ((g.expertRankSize + (f + i * g.expertRankSize)) / g.expertRankSize - 1))) ↔ _
    simp only [hmod, hdiv, hflag]
  constructor
  · intro h
    by_contra hnot
    simp only [FlagsServed, not_or, not_le] at hnot
    obtain ⟨hgate, hffn1, hattn3⟩ := hnot
    -- the rows of the first sender are waited for, and no core sends them
    have hwait : magicWord (flagOf (g.expert f) .x 0) ∈ waits (a2e (g.expert f) g.ffnCores) := by
      rw [mem_waits_a2e hf hffn, hratio]
      refine ⟨.x, ?_, 0, hlen, rfl⟩
      change _ ∈ recvChannels g.computeGate g.ffnCores
      rw [recvChannels, if_neg hgate, if_neg hffn1]
      simp
    obtain ⟨a, ha, flag, hsignal, hword⟩ := h _ hwait
    obtain ⟨i, hi, rfl⟩ := (mem_group_iff hf).1 ha
    obtain ⟨channel, hchannel, heq⟩ := (hsignals i _).1 hsignal
    obtain rfl : flag = flagOf (g.expert f) channel i := (Prod.mk.inj heq).2
    have hi : i < (g.senders f).length := hi
    simp only [magicWord, flagOf, flagAddr, flagUnitInt64Num, hratio, Channel.flagOffset] at hword
    rw [sendChannels, if_neg hgate] at hchannel
    split_ifs at hchannel
    · obtain rfl := List.mem_singleton.1 hchannel
      simp only at hword
      omega
    · simp only [List.mem_cons, List.not_mem_nil, or_false] at hchannel
      rcases hchannel with rfl | rfl
      · simp only at hword
        omega
      · simp only at hword
        omega
    · omega
  · intro hserved w hw
    rw [mem_waits_a2e hf hffn, hratio] at hw
    obtain ⟨channel, hchannel, i, hi, rfl⟩ := hw
    refine ⟨f + i * g.expertRankSize, (mem_group_iff hf).2 ⟨i, hi, rfl⟩, _,
      (hsignals i _).2 ⟨channel, ?_, rfl⟩, rfl⟩
    change channel ∈ recvChannels g.computeGate g.ffnCores at hchannel
    unfold recvChannels at hchannel
    unfold sendChannels
    rcases hserved with hgate | hone | hthree
    · rwa [if_pos hgate] at hchannel ⊢
    · rw [if_pos hone] at hchannel
      split_ifs at hchannel ⊢ <;> simp_all
    · rw [if_neg (show g.attnCores ≠ 1 by omega), if_neg (show g.attnCores ≠ 2 by omega)]
      split_ifs at hchannel ⊢ <;> simp_all

/-- The calls of a group are sound exactly when the sizes fit, every channel has
cores on both sides, and the batch of the expert rank is made of equal parts
that the kernel's division finds. -/
theorem sound_iff (hFA : g.expertRankSize ≤ g.attentionRankSize) (hf : f < g.expertRankSize)
    (hattn : 0 < g.attnCores) (hffn : 0 < g.ffnCores) :
    g.Sound f ↔ (∀ a ∈ g.senders f, g.SendFits (g.attentionRows a)) ∧ g.RecvFits f (g.expertRows f) ∧
      g.FlagsServed := by
  rw [← callSound_expert hFA hf hffn, ← flags_iff hFA hf hattn hffn]
  simp only [← callSound_attention hattn]
  exact ⟨fun h => ⟨h.attention, h.expert, h.flags⟩, fun h => ⟨h.1, h.2.1, h.2.2⟩⟩

/-- Two Attention ranks of 16 rows on one expert rank with eight cores each. -/
theorem sound_twoByOne : (⟨1, 2, 64, 8, 1, 8, 8, fun _ => 16, fun _ => 32⟩ : GroupCalls).Sound 0 := by
  apply (sound_iff (by decide) (by decide) (by decide) (by decide)).2
  refine ⟨fun a _ => ?_, ?_, ?_⟩
  · simp [SendFits]
  · refine ⟨by decide, by decide, by decide, fun _ => ⟨by decide, .inl (by decide), by decide⟩⟩
  · exact .inr (.inr (by decide))

/-- The ids of 8192 rows with eight experts each do not fit the buffer at once. -/
theorem ids_overflow_buffer :
    ¬ (⟨1, 1, 7168, 8, 1, 8, 8, fun _ => 8192, fun _ => 8192⟩ : GroupCalls).Sound 0 := by
  intro h
  have hfits := (callSound_expert (g := ⟨1, 1, 7168, 8, 1, 8, 8, fun _ => 8192, fun _ => 8192⟩) (f := 0)
    (by decide) (by decide) (by decide)).1 h.expert
  exact absurd hfits.1 (by decide)

end Sound

end GroupCalls

end AfdPlugin.Kernels
