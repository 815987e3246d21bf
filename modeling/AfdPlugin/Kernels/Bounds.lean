import AfdPlugin.Kernels.E2a
/-!
# Calls within bounds

The kernels compute sizes and offsets in an `int` and stage what they move in a
buffer of 192 KiB, and no host checks either. Here is when all that the cores of
a call compute fits, for each kernel and both roles.
-/

namespace AfdPlugin.Kernels

/-! ## Safe traces -/

def AllSafe (trace : List Event) : Prop := ∀ e ∈ trace, e.Safe

@[simp] theorem allSafe_nil : AllSafe [] := by simp [AllSafe]

@[simp] theorem allSafe_cons {e : Event} {trace : List Event} :
    AllSafe (e :: trace) ↔ e.Safe ∧ AllSafe trace :=
  List.forall_mem_cons

@[simp] theorem allSafe_append {l l' : List Event} : AllSafe (l ++ l') ↔ AllSafe l ∧ AllSafe l' :=
  List.forall_mem_append

theorem allSafe_flatMap {ι : Type} {l : List ι} {trace : ι → List Event} :
    AllSafe (l.flatMap trace) ↔ ∀ i ∈ l, AllSafe (trace i) := by
  simp only [AllSafe, List.mem_flatMap]
  exact ⟨fun h i hi e he => h e ⟨i, hi, he⟩, fun h e ⟨i, hi, he⟩ => h i hi e he⟩

@[simp] theorem safe_int {value : Nat} : (Event.int value).Safe ↔ value < 2 ^ 31 := Iff.rfl

@[simp] theorem safe_onChip {region : Region} :
    (Event.onChip region).Safe ↔ region.stop ≤ ubSingleTotalSizeMax := Iff.rfl

/-! ## A2E calls -/

section A2e
variable {t : A2ETilingData} {blockNum : Nat}

theorem allSafe_init (trace : List Event) : AllSafe (.onChip ⟨0, 32⟩ :: trace) ↔ AllSafe trace := by
  rw [allSafe_cons]
  exact and_iff_right (safe_onChip.2 (by decide))

theorem allSafe_sendFlag (k : A2e) (channel : Channel) (sendOffset : Nat) :
    AllSafe (k.sendFlag channel sendOffset) := by
  simp only [A2e.sendFlag, allSafe_cons, allSafe_nil, and_true]
  exact ⟨safe_onChip.2 (by decide), trivial⟩

/-- The offsets fit when the last one does. -/
theorem allSafe_sendReserve : AllSafe (sendReserve t) ↔
    t.windowOffset t.batchSize .x < 2 ^ 31 ∧ t.batchSize * t.hiddenSize < 2 ^ 31 := by
  simp only [sendReserve, allSafe_cons, allSafe_nil, and_true, safe_int, A2ETilingData.windowOffset]
  omega

theorem allSafe_sendRows {used c : Nat} (hc : c < used) :
    AllSafe (sendRows t used c) ↔ t.batchSize * t.hiddenSize + used < 2 ^ 31 := copyGmToGmWithBlocks_safe hc

/-- What an Attention rank's call with `blockNum` cores needs. -/
def A2ETilingData.SendFits (t : A2ETilingData) (blockNum : Nat) : Prop :=
  t.windowOffset t.batchSize .x < 2 ^ 31 ∧ t.batchSize * t.hiddenSize < 2 ^ 31 ∧
    (t.computeGate = 0 → t.batchSize * t.hiddenSize + blockNum < 2 ^ 31) ∧
    (t.computeGate ≠ 0 → 3 ≤ blockNum → t.batchSize * t.hiddenSize + (blockNum - 2) < 2 ^ 31)

/-- When an Attention rank's call is safe. -/
theorem allSafe_a2e_send (hrank : t.expertRankSize ≤ t.rank) (hcores : 0 < blockNum) :
    AllSafe (a2e t blockNum) ↔ t.SendFits blockNum := by
  have hcore : ∀ c < blockNum, AllSafe (a2eCore t blockNum c) ↔
      (t.windowOffset t.batchSize .x < 2 ^ 31 ∧ t.batchSize * t.hiddenSize < 2 ^ 31) ∧
        (if t.computeGate = 0 then t.batchSize * t.hiddenSize + blockNum < 2 ^ 31
          else c + 2 < blockNum → t.batchSize * t.hiddenSize + (blockNum - 2) < 2 ^ 31) := by
    intro c hc
    rw [a2eCore_send hrank, List.cons_append, allSafe_init, allSafe_append, allSafe_sendReserve]
    apply and_congr_right
    intro _
    by_cases hgate : t.computeGate = 0
    · rw [if_pos hgate, if_pos hgate, allSafe_append, allSafe_sendRows hc]
      exact and_iff_left (allSafe_sendFlag _ _ _)
    rw [if_neg hgate, if_neg hgate]
    by_cases hids : c + 1 = blockNum
    · rw [if_pos hids, A2e.sendExpertIds, allSafe_append]
      have hsafe := allSafe_sendFlag (A2e.init t) .ids (t.rank / t.expertRankSize - 1)
      exact iff_of_true ⟨fun e he => cpGM2GMPingPong_safe he, hsafe⟩ fun hlt => absurd hlt (by omega)
    by_cases hscales : c + 2 = blockNum
    · rw [if_neg hids, if_pos hscales, A2e.sendExpertScales, allSafe_append]
      have hsafe := allSafe_sendFlag (A2e.init t) .scales (t.rank / t.expertRankSize - 1)
      exact iff_of_true ⟨fun e he => cpGM2GMPingPong_safe he, hsafe⟩ fun hlt => absurd hlt (by omega)
    · rw [if_neg hids, if_neg hscales, allSafe_append, allSafe_sendRows (by omega)]
      have hsafe := allSafe_sendFlag (A2e.init t) .x (t.rank / t.expertRankSize - 1)
      exact ⟨fun h _ => h.1, fun h => ⟨h (by omega), hsafe⟩⟩
  rw [a2e, allSafe_flatMap]
  constructor
  · intro h
    have hfirst := (hcore 0 hcores).1 (h 0 (List.mem_range.2 hcores))
    refine ⟨hfirst.1.1, hfirst.1.2, fun hgate => ?_, fun hgate hthree => ?_⟩
    · simpa only [if_pos hgate] using hfirst.2
    · have hrows := hfirst.2
      rw [if_neg hgate] at hrows
      exact hrows (by omega)
  · rintro ⟨hoffset, hproduct, hrows, hrows'⟩ c hc
    apply (hcore c (List.mem_range.1 hc)).2
    refine ⟨⟨hoffset, hproduct⟩, ?_⟩
    split
    · rename_i hgate
      exact hrows hgate
    · rename_i hgate
      exact fun hlt => hrows' hgate (by omega)

/-- Bytes of the ids that pass the buffer at once. -/
def idBytes (t : A2ETilingData) : Nat := (A2e.init t).recvBatchSize * t.topk * 4

theorem allSafe_recvReserve :
    AllSafe (recvReserve t) ↔ t.windowOffset (A2e.init t).recvBatchSize .x < 2 ^ 31 := by
  simp only [recvReserve, allSafe_cons, allSafe_nil, and_true, safe_int, A2ETilingData.windowOffset]
  omega

theorem allSafe_recvRows {used c : Nat} (hc : c < used) (index : Nat) :
    AllSafe (recvRows t used c index) ↔ (A2e.init t).recvBatchSize * t.hiddenSize + used < 2 ^ 31 ∧
      (index + 1) * ((A2e.init t).recvBatchSize * t.hiddenSize) < 2 ^ 31 := by
  have hcopy : ∀ dst src,
    AllSafe (copyGmToGmWithBlocks 2 dst src ((A2e.init t).recvBatchSize * t.hiddenSize) used c) ↔
      (A2e.init t).recvBatchSize * t.hiddenSize + used < 2 ^ 31 := fun _ _ => copyGmToGmWithBlocks_safe hc
  simp only [recvRows, allSafe_append, allSafe_cons, allSafe_nil, and_true, safe_int, hcopy, Nat.succ_mul]
  constructor
  · rintro ⟨⟨-, hcopy⟩, hsum⟩
    exact ⟨hcopy, hsum⟩
  · rintro ⟨hcopy, hsum⟩
    exact ⟨⟨⟨trivial, by omega⟩, hcopy⟩, hsum⟩

theorem allSafe_recvScaleRows {used c : Nat} (hc : c < used) (index : Nat) :
    AllSafe (recvScaleRows t used c index) ↔ (A2e.init t).recvBatchSize * t.topk + used < 2 ^ 31 ∧
      (index + 1) * ((A2e.init t).recvBatchSize * t.topk) < 2 ^ 31 := by
  have hcopy : ∀ dst src,
    AllSafe (copyGmToGmWithBlocks 4 dst src ((A2e.init t).recvBatchSize * t.topk) used c) ↔
      (A2e.init t).recvBatchSize * t.topk + used < 2 ^ 31 := fun _ _ => copyGmToGmWithBlocks_safe hc
  simp only [recvScaleRows, allSafe_append, allSafe_cons, allSafe_nil, and_true, safe_int, hcopy,
    Nat.succ_mul]
  constructor
  · rintro ⟨⟨-, hcopy⟩, hsum⟩
    exact ⟨hcopy, hsum⟩
  · rintro ⟨hcopy, hsum⟩
    exact ⟨⟨trivial, hcopy⟩, hsum⟩

theorem allSafe_recvIdRows (index : Nat) :
    AllSafe (recvIdRows t index) ↔ 1024 + idBytes t ≤ ubSingleTotalSizeMax ∧
      (index + 1) * ((A2e.init t).recvBatchSize * t.topk) < 2 ^ 31 := by
  simp only [recvIdRows, allSafe_cons, allSafe_nil, and_true, safe_int, safe_onChip, Nat.succ_mul]
  constructor
  · rintro ⟨-, -, hbuffer, -, hsum⟩
    exact ⟨hbuffer, hsum⟩
  · rintro ⟨hbuffer, hsum⟩
    exact ⟨trivial, by omega, hbuffer, trivial, hsum⟩

/-- A bound on what grows with the senders, from the last one. -/
theorem forall_index_iff {n size bound : Nat} (hn : 0 < n) :
    (∀ i ∈ List.range n, (i + 1) * size < bound) ↔ n * size < bound := by
  constructor
  · intro h
    have hlast := h (n - 1) (List.mem_range.2 (by omega))
    rwa [Nat.sub_add_cancel hn] at hlast
  · intro h i hi
    exact lt_of_le_of_lt (Nat.mul_le_mul_right _ (List.mem_range.1 hi)) h

/-- What an expert rank's call with `blockNum` cores needs. -/
def A2ETilingData.RecvFits (t : A2ETilingData) (blockNum : Nat) : Prop :=
  if t.computeGate = 0 then t.windowOffset (A2e.init t).recvBatchSize .x < 2 ^ 31 ∧
    (A2e.init t).recvBatchSize * t.hiddenSize + blockNum < 2 ^ 31 ∧
    (A2e.init t).attnToMoeRatio * ((A2e.init t).recvBatchSize * t.hiddenSize) < 2 ^ 31
  else (1024 + idBytes t ≤ ubSingleTotalSizeMax ∧
      (A2e.init t).attnToMoeRatio * ((A2e.init t).recvBatchSize * t.topk) < 2 ^ 31) ∧
    (2 ≤ blockNum → (A2e.init t).recvBatchSize * t.topk + (blockNum - 1) < 2 ^ 31 ∧
      (A2e.init t).recvBatchSize * t.hiddenSize + (blockNum - 1) < 2 ^ 31 ∧
      (A2e.init t).attnToMoeRatio * ((A2e.init t).recvBatchSize * t.hiddenSize) < 2 ^ 31)

/-- When an expert rank's call is safe. -/
theorem allSafe_a2e_recv (hrank : t.rank < t.expertRankSize) (hcores : 0 < blockNum)
    (hratio : 0 < (A2e.init t).attnToMoeRatio) : AllSafe (a2e t blockNum) ↔ t.RecvFits blockNum := by
  rw [a2e, allSafe_flatMap, A2ETilingData.RecvFits]
  by_cases hgate : t.computeGate = 0
  · have hcore : ∀ c < blockNum, AllSafe (a2eCore t blockNum c) ↔
        t.windowOffset (A2e.init t).recvBatchSize .x < 2 ^ 31 ∧
          (A2e.init t).recvBatchSize * t.hiddenSize + blockNum < 2 ^ 31 ∧
          (A2e.init t).attnToMoeRatio * ((A2e.init t).recvBatchSize * t.hiddenSize) < 2 ^ 31 := by
      intro c hc
      rw [a2eCore_recv hrank, allSafe_init, if_pos hgate, allSafe_flatMap, ← forall_index_iff hratio]
      simp only [allSafe_append, allSafe_recvReserve, allSafe_recvRows hc]
      exact ⟨fun h => ⟨(h 0 (List.mem_range.2 hratio)).1, (h 0 (List.mem_range.2 hratio)).2.1,
        fun i hi => (h i hi).2.2⟩, fun h i hi => ⟨h.1, h.2.1, h.2.2 i hi⟩⟩
    rw [if_pos hgate]
    exact ⟨fun h => (hcore 0 hcores).1 (h 0 (List.mem_range.2 hcores)),
      fun h c hc => (hcore c (List.mem_range.1 hc)).2 h⟩
  rw [if_neg hgate]
  have hlast : ∀ c, ¬ c + 1 < blockNum → (AllSafe (a2eCore t blockNum c) ↔
      1024 + idBytes t ≤ ubSingleTotalSizeMax ∧
        (A2e.init t).attnToMoeRatio * ((A2e.init t).recvBatchSize * t.topk) < 2 ^ 31) := by
    intro c hc
    rw [a2eCore_recv hrank, allSafe_init, if_neg hgate, if_neg hc, allSafe_flatMap,
      ← forall_index_iff hratio]
    simp only [allSafe_recvIdRows]
    exact ⟨fun h => ⟨(h 0 (List.mem_range.2 hratio)).1, fun i hi => (h i hi).2⟩,
      fun h i hi => ⟨h.1, h.2 i hi⟩⟩
  have hother : ∀ c, c + 1 < blockNum → (AllSafe (a2eCore t blockNum c) ↔
      t.windowOffset (A2e.init t).recvBatchSize .x < 2 ^ 31 ∧
        ((A2e.init t).recvBatchSize * t.topk + (blockNum - 1) < 2 ^ 31 ∧
          (A2e.init t).attnToMoeRatio * ((A2e.init t).recvBatchSize * t.topk) < 2 ^ 31) ∧
        (A2e.init t).recvBatchSize * t.hiddenSize + (blockNum - 1) < 2 ^ 31 ∧
        (A2e.init t).attnToMoeRatio * ((A2e.init t).recvBatchSize * t.hiddenSize) < 2 ^ 31) := by
    intro c hc
    have hc' : c < blockNum - 1 := by omega
    rw [a2eCore_recv hrank, allSafe_init, if_neg hgate, if_pos hc, allSafe_flatMap,
      ← forall_index_iff hratio, ← forall_index_iff hratio]
    simp only [allSafe_append, allSafe_recvReserve, allSafe_recvRows hc', allSafe_recvScaleRows hc']
    have hzero := List.mem_range.2 hratio
    exact ⟨fun h => ⟨(h 0 hzero).1.1, ⟨(h 0 hzero).1.2.1, fun i hi => (h i hi).1.2.2⟩, (h 0 hzero).2.1,
        fun i hi => (h i hi).2.2⟩,
      fun h i hi => ⟨⟨h.1, h.2.1.1, h.2.1.2 i hi⟩, h.2.2.1, h.2.2.2 i hi⟩⟩
  have hbuffer : 1024 + idBytes t ≤ ubSingleTotalSizeMax →
      t.windowOffset (A2e.init t).recvBatchSize .x < 2 ^ 31 := by
    have hmax : ubSingleTotalSizeMax = 196608 := rfl
    simp only [idBytes, A2ETilingData.windowOffset, hmax]
    omega
  constructor
  · intro h
    have hids := (hlast (blockNum - 1) (by omega)).1 (h _ (List.mem_range.2 (by omega)))
    refine ⟨hids, fun htwo => ?_⟩
    have hrows := (hother 0 (by omega)).1 (h 0 (List.mem_range.2 hcores))
    exact ⟨hrows.2.1.1, hrows.2.2⟩
  · rintro ⟨hids, hrows⟩ c hc
    by_cases hclast : c + 1 < blockNum
    · obtain ⟨hscales, hx⟩ := hrows (by omega)
      exact (hother c hclast).2 ⟨hbuffer hids.1, ⟨hscales, hids.2⟩, hx⟩
    · exact (hlast c hclast).2 hids

end A2e

/-! ## E2A calls -/

/-- What an expert rank's E2A call with `blockNum` cores needs. -/
def E2ATilingData.SendFits (t : E2ATilingData) (blockNum : Nat) : Prop :=
  let size := t.batchSize / t.attnToMoeRatio * t.hiddenSize
  size + blockNum < 2 ^ 31 ∧ t.attnToMoeRatio * size < 2 ^ 31

/-- What an Attention rank's E2A call with `blockNum` cores needs. -/
def E2ATilingData.RecvFits (t : E2ATilingData) (blockNum : Nat) : Prop :=
  t.batchSize * t.hiddenSize + blockNum < 2 ^ 31

section E2a
variable {t : E2ATilingData} {blockNum : Nat}

theorem allSafe_sendFlags (n sendRank : Nat) : AllSafe (t.sendFlags n sendRank) := by
  induction n generalizing sendRank with
  | zero => exact allSafe_nil
  | succ n ih => exact allSafe_cons.2 ⟨trivial, ih _⟩

theorem allSafe_sendSlice {size c : Nat} (hc : c < blockNum) (sendRank i : Nat) :
    AllSafe (sendSlice t size blockNum c sendRank 0 i) ↔ size + blockNum < 2 ^ 31 ∧
      (i + 1) * size < 2 ^ 31 := by
  have hcopy : ∀ dst src, AllSafe (copyGmToGmWithBlocks 2 dst src size blockNum c) ↔
      size + blockNum < 2 ^ 31 :=
    fun _ _ => copyGmToGmWithBlocks_safe hc
  simp only [sendSlice, List.cons_append, allSafe_append, allSafe_cons, allSafe_nil, and_true, safe_int,
    hcopy, Nat.zero_add]
  exact ⟨fun h => h.2, fun h => ⟨by omega, h⟩⟩

/-- When an expert rank's E2A call is safe. -/
theorem allSafe_e2a_send (hrank : t.rank < t.expertRankSize) (hcores : 0 < blockNum)
    (hratio : 0 < t.attnToMoeRatio) :
    AllSafe (e2a t blockNum) ↔ t.SendFits blockNum := by
  have hcore : ∀ c < blockNum, AllSafe (e2aCore t blockNum c) ↔ t.SendFits blockNum := by
    intro c hc
    rw [e2aCore, allSafe_init, if_pos hrank, E2ATilingData.sendWithMte, allSafe_append, allSafe_cons,
      sendCopies_eq, allSafe_flatMap, E2ATilingData.SendFits, ← forall_index_iff hratio]
    simp only [allSafe_sendSlice hc]
    have hflags : Event.Safe (.onChip ⟨0, 8⟩) ∧
        AllSafe (t.sendFlags t.attnToMoeRatio (t.rank + t.expertRankSize)) :=
      ⟨safe_onChip.2 (by decide), allSafe_sendFlags _ _⟩
    have hfirst := List.mem_range.2 hratio
    exact ⟨fun h => ⟨(h.1 0 hfirst).1, fun i hi => (h.1 i hi).2⟩,
      fun h => ⟨fun i hi => ⟨h.1, h.2 i hi⟩, hflags⟩⟩
  rw [e2a, allSafe_flatMap]
  exact ⟨fun h => (hcore 0 hcores).1 (h 0 (List.mem_range.2 hcores)),
    fun h c hc => (hcore c (List.mem_range.1 hc)).2 h⟩

/-- When an Attention rank's E2A call is safe. -/
theorem allSafe_e2a_recv (hrank : t.expertRankSize ≤ t.rank) (hcores : 0 < blockNum) :
    AllSafe (e2a t blockNum) ↔ t.RecvFits blockNum := by
  have hcore : ∀ c < blockNum, AllSafe (e2aCore t blockNum c) ↔ t.RecvFits blockNum := by
    intro c hc
    have hcopy : ∀ dst src,
      AllSafe (copyGmToGmWithBlocks 2 dst src (t.batchSize * t.hiddenSize) blockNum c) ↔
        t.RecvFits blockNum := fun _ _ => copyGmToGmWithBlocks_safe hc
    rw [e2aCore, allSafe_init, if_neg (not_lt.2 hrank), E2ATilingData.recvWithMte, allSafe_append, hcopy]
    simp only [allSafe_cons, allSafe_nil, and_true, safe_int, safe_onChip]
    refine ⟨fun h => h.2, fun h => ⟨⟨by decide, trivial, ?_⟩, h⟩⟩
    unfold E2ATilingData.RecvFits at h
    omega
  rw [e2a, allSafe_flatMap]
  exact ⟨fun h => (hcore 0 hcores).1 (h 0 (List.mem_range.2 hcores)),
    fun h c hc => (hcore c (List.mem_range.1 hc)).2 h⟩

end E2a

end AfdPlugin.Kernels
