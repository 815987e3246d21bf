import AfdPlugin.Kernels.RankAgreement
import AfdPlugin.Lib.Launches
/-!
# The kernels with their counters and barriers

Round after round, every rank of a CAMP2P group runs A2E and then E2A. Here a core
of a call does its operations one by one: it adds to its counter and reads it
back, moves single bytes, waits in `SyncAll` for the other cores of its rank,
writes flags and polls them.
-/

namespace AfdPlugin.Kernels

/-! ## Operations -/

/-- What a core does in one step. `SyncAll` is two of them: a core arrives, and it
leaves when all cores have arrived. -/
inductive CoreOp
  | add
  | read
  | copy (src dst : Address)
  | arrive
  | leave
  | flag (rank addr : Nat)
  /-- `waitFlagWithScalar`, on the upper word of a flag of its own rank. -/
  | wait (word : Nat)
  /-- The loop of E2A, on the whole flag. -/
  | poll (addr : Nat)
  deriving DecidableEq, Repr

def copyOp (m : Address × Address) : CoreOp := .copy m.1 m.2

def Event.ops : Event → List CoreOp
  | .signal rank flag => [.flag rank flag]
  | .wait addr => [.wait addr]
  | e => e.bytes.map copyOp

/-- The steps of a trace. -/
def coreOps (trace : List Event) : List CoreOp := trace.flatMap Event.ops

/-- The counter of the core, in `init`. -/
def countOps : List CoreOp := [.add, .read]

def syncAll : List CoreOp := [.arrive, .leave]

@[simp] theorem coreOps_nil : coreOps [] = [] := rfl

@[simp] theorem coreOps_cons (e : Event) (trace : List Event) :
    coreOps (e :: trace) = e.ops ++ coreOps trace := rfl

@[simp] theorem coreOps_append (l l' : List Event) : coreOps (l ++ l') = coreOps l ++ coreOps l' :=
  List.flatMap_append

theorem coreOps_flatMap {ι : Type} (l : List ι) (f : ι → List Event) :
    coreOps (l.flatMap f) = l.flatMap fun i => coreOps (f i) := List.flatMap_assoc

@[simp] theorem ops_int (value : Nat) : (Event.int value).ops = [] := rfl

@[simp] theorem ops_onChip (region : Region) : (Event.onChip region).ops = [] := rfl

@[simp] theorem ops_signal (rank flag : Nat) : (Event.signal rank flag).ops = [.flag rank flag] := rfl

@[simp] theorem ops_wait (addr : Nat) : (Event.wait addr).ops = [.wait addr] := rfl

/-- A trace without flags only moves bytes. -/
theorem coreOps_of_quiet {trace : List Event} (hsignals : signals trace = []) (hwaits : waits trace = []) :
    coreOps trace = (moved trace).map copyOp := by
  induction trace with
  | nil => rfl
  | cons e trace ih =>
    rw [coreOps_cons, moved_cons, List.map_append]
    cases e with
    | signal rank flag => simp [signals] at hsignals
    | wait addr => simp [waits] at hwaits
    | int value => rw [ih hsignals hwaits]; rfl
    | divide divisor => rw [ih hsignals hwaits]; rfl
    | onChip region => rw [ih hsignals hwaits]; rfl
    | move src dst size => rw [ih hsignals hwaits]; rfl

theorem coreOps_copyGmToGmWithBlocks (sizeofT : Nat) (dst src : Address) (elementNum used c : Nat) :
    coreOps (copyGmToGmWithBlocks sizeofT dst src elementNum used c) =
      (moved (copyGmToGmWithBlocks sizeofT dst src elementNum used c)).map copyOp :=
  coreOps_of_quiet (signals_copyGmToGmWithBlocks c) (waits_copyGmToGmWithBlocks c)

theorem coreOps_cpGM2GMPingPong (sizeofT size : Nat) (src dst : Address) :
    coreOps (cpGM2GMPingPong sizeofT size src dst) =
      (moved (cpGM2GMPingPong sizeofT size src dst)).map copyOp :=
  coreOps_of_quiet (signals_cpGM2GMPingPong size) (waits_cpGM2GMPingPong size)

/-! ## A2E -/

namespace A2e
variable (k : A2e)

/-- The ids are announced before the barrier. -/
def sendExpertIdsOps (sendOffset expertIdsOffset : Nat) : List CoreOp :=
  coreOps (k.sendExpertIds sendOffset expertIdsOffset) ++ syncAll

def sendExpertScalesOps (sendOffset expertScalesOffset : Nat) : List CoreOp :=
  coreOps (k.sendExpertScales sendOffset expertScalesOffset) ++ syncAll

/-- The rows are announced after it, by every core that has some. -/
def sendXOps (blockNum blockIdx sendOffset xOffset : Nat) : List CoreOp :=
  let actualBlockNum := if k.computeGate = 0 then blockNum else blockNum - 2
  coreOps (copyGmToGmWithBlocks 2 ⟨.window k.rank, xOffset⟩ ⟨.input k.rank .x, 0⟩
    (k.batchSize * k.hiddenSize) actualBlockNum blockIdx) ++ syncAll ++
    coreOps (k.sendFlag .x sendOffset)

def sendWithMteOps (blockNum blockIdx : Nat) : List CoreOp :=
  let sendOffset := k.rank / k.expertRankSize - 1
  let expertIdsReserveSize := k.batchSize * k.topk * 4
  let expertScalesReserveSize := k.batchSize * k.topk * 4
  let xOffset := 4 + expertIdsReserveSize + expertScalesReserveSize
  let expertScalesOffset := 4 + expertIdsReserveSize
  let expertIdsOffset := 4
  if k.computeGate = 0 then k.sendXOps blockNum blockIdx sendOffset xOffset
  else if blockIdx + 1 = blockNum then k.sendExpertIdsOps sendOffset expertIdsOffset
  else if blockIdx + 2 = blockNum then k.sendExpertScalesOps sendOffset expertScalesOffset
  else k.sendXOps blockNum blockIdx sendOffset xOffset

end A2e

/-- A core of an A2E call. A receiving call has no barrier. -/
def a2eOps (t : A2ETilingData) (blockNum blockIdx : Nat) : List CoreOp :=
  countOps ++
    if t.rank ≥ t.expertRankSize then (A2e.init t).sendWithMteOps blockNum blockIdx
    else coreOps ((A2e.init t).process blockNum blockIdx)

/-- The channel that a sending core has. -/
def sendChannel (computeGate blockNum blockIdx : Nat) : Channel :=
  if computeGate = 0 then .x
  else if blockIdx + 1 = blockNum then .ids
  else if blockIdx + 2 = blockNum then .scales
  else .x

/-- Cores among which a channel of a receiving call is split. -/
def recvCores (computeGate blockNum : Nat) : Nat := if computeGate = 0 then blockNum else blockNum - 1

/-- What core `c` does for a channel of a sender. -/
def recvTrace (t : A2ETilingData) (blockNum c : Nat) : Channel × Nat → List Event
  | (.ids, i) => recvIdRows t i
  | (.scales, i) => recvScaleRows t (recvCores t.computeGate blockNum) c i
  | (.x, i) => recvRows t (recvCores t.computeGate blockNum) c i

/-- The channels and senders of a receiving core, in its order. -/
def recvSegments (computeGate blockNum ratio c : Nat) : List (Channel × Nat) :=
  (List.range ratio).flatMap fun i =>
    if computeGate = 0 then [(.x, i)] else if c + 1 < blockNum then [(.scales, i), (.x, i)] else [(.ids, i)]

section A2eOps
variable {t : A2ETilingData} {blockNum c : Nat}

/-- The flag that a sending core raises. -/
def sendFlagOp (t : A2ETilingData) (channel : Channel) : CoreOp :=
  .flag (t.rank % t.expertRankSize) (flagOf t channel (t.rank / t.expertRankSize - 1))

theorem coreOps_sendFlag (channel : Channel) :
    coreOps ((A2e.init t).sendFlag channel (t.rank / t.expertRankSize - 1)) = [sendFlagOp t channel] := rfl

theorem sendXOps_eq :
    (A2e.init t).sendXOps blockNum c (t.rank / t.expertRankSize - 1) (t.windowOffset t.batchSize .x) =
    (moved (sendRows t (if t.computeGate = 0 then blockNum else blockNum - 2) c)).map copyOp ++
      (syncAll ++ [sendFlagOp t .x]) := by
  rw [A2e.sendXOps, coreOps_sendFlag, List.append_assoc, coreOps_copyGmToGmWithBlocks]
  rfl

theorem sendExpertIdsOps_eq (offset : Nat) :
    (A2e.init t).sendExpertIdsOps (t.rank / t.expertRankSize - 1) offset =
      (moved ((A2e.init t).sendExpertIds (t.rank / t.expertRankSize - 1) offset)).map copyOp ++
        (sendFlagOp t .ids :: syncAll) := by
  rw [A2e.sendExpertIdsOps, A2e.sendExpertIds, coreOps_append, coreOps_sendFlag,
    coreOps_cpGM2GMPingPong, moved_append, moved_sendFlag, List.append_nil, List.append_assoc]
  rfl

theorem sendExpertScalesOps_eq (offset : Nat) :
    (A2e.init t).sendExpertScalesOps (t.rank / t.expertRankSize - 1) offset =
      (moved ((A2e.init t).sendExpertScales (t.rank / t.expertRankSize - 1) offset)).map copyOp ++
        (sendFlagOp t .scales :: syncAll) := by
  rw [A2e.sendExpertScalesOps, A2e.sendExpertScales, coreOps_append, coreOps_sendFlag,
    coreOps_cpGM2GMPingPong, moved_append, moved_sendFlag, List.append_nil, List.append_assoc]
  rfl

/-- The bytes of a sending core. -/
theorem moved_a2eCore_send (hrank : t.expertRankSize ≤ t.rank) :
    moved (a2eCore t blockNum c) =
      if t.computeGate = 0 then moved (sendRows t blockNum c)
      else if c + 1 = blockNum then moved ((A2e.init t).sendExpertIds (t.rank / t.expertRankSize - 1) 4)
      else if c + 2 = blockNum then
        moved ((A2e.init t).sendExpertScales (t.rank / t.expertRankSize - 1)
          (t.windowOffset t.batchSize .scales))
      else moved (sendRows t (blockNum - 2) c) := by
  rw [a2eCore_send hrank, moved_append, moved_cons, moved_sendReserve]
  split_ifs
  · simp [moved_sendFlag, Event.bytes]
  · simp [Event.bytes]
  · simp [Event.bytes]
  · simp [moved_sendFlag, Event.bytes]

/-- A sending core moves its bytes and raises the flag of its channel; for the rows
the barrier is between them. -/
theorem a2eOps_send (hrank : t.expertRankSize ≤ t.rank) :
    a2eOps t blockNum c = countOps ++ (moved (a2eCore t blockNum c)).map copyOp ++
      if sendChannel t.computeGate blockNum c = .x then syncAll ++ [sendFlagOp t .x]
      else sendFlagOp t (sendChannel t.computeGate blockNum c) :: syncAll := by
  rw [a2eOps, if_pos hrank, List.append_assoc, moved_a2eCore_send hrank]
  congr 1
  change ite (t.computeGate = 0)
    ((A2e.init t).sendXOps blockNum c (t.rank / t.expertRankSize - 1) (t.windowOffset t.batchSize .x))
    (ite (c + 1 = blockNum) ((A2e.init t).sendExpertIdsOps (t.rank / t.expertRankSize - 1) 4)
      (ite (c + 2 = blockNum)
        ((A2e.init t).sendExpertScalesOps (t.rank / t.expertRankSize - 1)
          (t.windowOffset t.batchSize .scales))
        ((A2e.init t).sendXOps blockNum c (t.rank / t.expertRankSize - 1)
          (t.windowOffset t.batchSize .x)))) = _
  rw [sendXOps_eq, sendExpertIdsOps_eq, sendExpertScalesOps_eq]
  unfold sendChannel
  split_ifs with hgate hids hscales <;> simp_all

/-- What a sending core moves is its channel's. -/
theorem mem_moved_a2eCore_send (hrank : t.expertRankSize ≤ t.rank) (hc : c < blockNum)
    {m : Address × Address} (hm : m ∈ moved (a2eCore t blockNum c)) :
    m ∈ sendBytes t (sendChannel t.computeGate blockNum c) := by
  rw [moved_a2eCore_send hrank] at hm
  unfold sendChannel
  split_ifs at hm ⊢ with hgate hids hscales
  · rw [← moved_sendRows (Nat.zero_lt_of_lt hc), List.mem_flatMap]
    exact ⟨c, List.mem_range.2 hc, hm⟩
  · rwa [moved_sendExpertIds] at hm
  · rwa [moved_sendExpertScales] at hm
  · have hused : c < blockNum - 2 := by omega
    rw [← moved_sendRows (Nat.zero_lt_of_lt hused), List.mem_flatMap]
    exact ⟨c, List.mem_range.2 hused, hm⟩

/-- Each byte of a channel is moved by a core that has the channel. -/
theorem exists_core_send (hrank : t.expertRankSize ≤ t.rank) (hcores : 0 < blockNum)
    (hgate : t.computeGate ≠ 0 → 3 ≤ blockNum) {channel : Channel}
    (hchannel : channel ∈ channels t.computeGate) {m : Address × Address}
    (hm : m ∈ sendBytes t channel) :
    ∃ c < blockNum, sendChannel t.computeGate blockNum c = channel ∧ m ∈ moved (a2eCore t blockNum c) := by
  simp only [moved_a2eCore_send hrank]
  unfold sendChannel
  by_cases hzero : t.computeGate = 0
  · simp only [channels, hzero, if_true, List.mem_singleton] at hchannel
    subst hchannel
    rw [← moved_sendRows hcores, List.mem_flatMap] at hm
    obtain ⟨c, hc, hm⟩ := hm
    exact ⟨c, List.mem_range.1 hc, by rw [if_pos hzero], by rwa [if_pos hzero]⟩
  have hthree := hgate hzero
  simp only [if_neg hzero]
  cases channel with
  | ids =>
    refine ⟨blockNum - 1, by omega, ?_, ?_⟩
    · rw [if_pos (by omega)]
    · rwa [if_pos (by omega), moved_sendExpertIds]
  | scales =>
    refine ⟨blockNum - 2, by omega, ?_, ?_⟩
    · rw [if_neg (by omega), if_pos (by omega)]
    · rwa [if_neg (by omega), if_pos (by omega), moved_sendExpertScales]
  | x =>
    rw [← moved_sendRows (by omega : 0 < blockNum - 2), List.mem_flatMap] at hm
    obtain ⟨c, hc, hm⟩ := hm
    have hlt := List.mem_range.1 hc
    refine ⟨c, by omega, ?_, ?_⟩
    · rw [if_neg (by omega), if_neg (by omega)]
    · rwa [if_neg (by omega), if_neg (by omega)]

theorem exists_sendChannel (hcores : 0 < blockNum) {computeGate : Nat}
    (hgate : computeGate ≠ 0 → 3 ≤ blockNum) {channel : Channel}
    (hchannel : channel ∈ channels computeGate) :
    ∃ c < blockNum, sendChannel computeGate blockNum c = channel := by
  unfold sendChannel
  by_cases hzero : computeGate = 0
  · simp only [channels, hzero, if_true, List.mem_singleton] at hchannel
    exact ⟨0, hcores, by rw [if_pos hzero, hchannel]⟩
  have hthree := hgate hzero
  simp only [if_neg hzero]
  cases channel with
  | ids => exact ⟨blockNum - 1, by omega, if_pos (by omega)⟩
  | scales => exact ⟨blockNum - 2, by omega, by rw [if_neg (by omega), if_pos (by omega)]⟩
  | x => exact ⟨0, by omega, by rw [if_neg (by omega), if_neg (by omega)]⟩

theorem sendChannel_mem (computeGate : Nat) :
    sendChannel computeGate blockNum c ∈ channels computeGate := by
  unfold sendChannel channels
  split_ifs <;> simp

/-- Only the rows have more than one core. -/
theorem sendChannel_core {computeGate c' : Nat} (hx : sendChannel computeGate blockNum c ≠ .x)
    (heq : sendChannel computeGate blockNum c' = sendChannel computeGate blockNum c) : c' = c := by
  unfold sendChannel at hx heq
  split_ifs at hx heq <;> first | omega | exact absurd rfl hx

/-! ### Receiving -/

/-- The wait of a receiving core for a channel of a sender. -/
def recvWaitOp (t : A2ETilingData) (s : Channel × Nat) : CoreOp := .wait (magicWord (flagOf t s.1 s.2))

theorem coreOps_recvTrace (s : Channel × Nat) :
    coreOps (recvTrace t blockNum c s) = recvWaitOp t s :: (moved (recvTrace t blockNum c s)).map
      copyOp := by
  obtain ⟨channel, i⟩ := s
  cases channel with
  | ids =>
    simp only [recvTrace, recvIdRows, A2e.waitFlag, coreOps_cons, coreOps_nil, moved_cons, moved_nil,
      Event.bytes, Event.ops, List.map_nil, List.nil_append, List.append_nil, List.singleton_append]
    rfl
  | scales =>
    simp only [recvTrace, recvScaleRows, coreOps_append, coreOps_copyGmToGmWithBlocks, moved_append]
    simp [A2e.waitFlag, recvWaitOp, flagOf, flagAddr, magicWord, Event.bytes]
  | x =>
    simp only [recvTrace, recvRows, coreOps_append, coreOps_copyGmToGmWithBlocks, moved_append]
    simp [A2e.waitFlag, recvWaitOp, flagOf, flagAddr, magicWord, Event.bytes]

/-- A receiving core waits for each channel it has of each sender and then moves
its part. -/
theorem a2eOps_recv (hrank : t.rank < t.expertRankSize) :
    a2eOps t blockNum c =
      countOps ++ (recvSegments t.computeGate blockNum (A2e.init t).attnToMoeRatio c).flatMap
      fun s => recvWaitOp t s :: (moved (recvTrace t blockNum c s)).map copyOp := by
  have hprocess : coreOps ((A2e.init t).process blockNum c) = coreOps (a2eCore t blockNum c) := rfl
  have hreserve : coreOps (recvReserve t) = [] := rfl
  have hids : ∀ i, coreOps (recvIdRows t i) = coreOps (recvTrace t blockNum c (.ids, i)) := fun _ => rfl
  rw [a2eOps, if_neg (not_le.2 hrank), hprocess, a2eCore_recv hrank]
  simp only [← coreOps_recvTrace]
  congr 1
  rw [recvSegments, List.flatMap_assoc, coreOps_cons, ops_onChip, List.nil_append]
  split_ifs with hgate hlast
  · simp only [coreOps_flatMap, coreOps_append, hreserve, List.nil_append, List.flatMap_singleton,
      recvTrace, recvCores, if_pos hgate]
  · simp only [coreOps_flatMap, coreOps_append, hreserve, List.nil_append, List.flatMap_cons,
      List.flatMap_nil, List.append_nil, recvTrace, recvCores, if_neg hgate]
  · simp only [coreOps_flatMap, hids, List.flatMap_singleton]

theorem mem_recvSegments {computeGate ratio : Nat} {channel : Channel} {i : Nat} :
    (channel, i) ∈ recvSegments computeGate blockNum ratio c ↔ i < ratio ∧
      channel ∈ if computeGate = 0 then [Channel.x] else if c + 1 < blockNum then [.scales, .x]
        else [.ids] := by
  simp only [recvSegments, List.mem_flatMap, List.mem_range]
  constructor
  · rintro ⟨i', hi', hmem⟩
    split_ifs at hmem ⊢ <;> simp only [List.mem_cons, Prod.mk.injEq, List.not_mem_nil, or_false] at hmem ⊢
    · exact ⟨hmem.2 ▸ hi', hmem.1⟩
    · rcases hmem with ⟨rfl, rfl⟩ | ⟨rfl, rfl⟩
      · exact ⟨hi', .inl rfl⟩
      · exact ⟨hi', .inr rfl⟩
    · exact ⟨hmem.2 ▸ hi', hmem.1⟩
  · rintro ⟨hi, hmem⟩
    refine ⟨i, hi, ?_⟩
    split_ifs at hmem ⊢ <;> simpa using hmem

theorem recvSegments_valid {computeGate ratio : Nat} {channel : Channel} {i : Nat}
    (h : (channel, i) ∈ recvSegments computeGate blockNum ratio c) :
    i < ratio ∧ channel ∈ channels computeGate := by
  obtain ⟨hi, hmem⟩ := mem_recvSegments.1 h
  refine ⟨hi, ?_⟩
  unfold channels
  split_ifs at hmem ⊢
  · exact hmem
  · simp only [List.mem_cons, List.not_mem_nil, or_false] at hmem
    rcases hmem with rfl | rfl <;> simp
  · rw [List.mem_singleton.1 hmem]
    simp

/-- Some receiving core has the channel. -/
theorem exists_recvSegment (hcores : 0 < blockNum) {computeGate ratio : Nat}
    (hgate : computeGate ≠ 0 → 2 ≤ blockNum) {channel : Channel}
    (hchannel : channel ∈ channels computeGate) {i : Nat} (hi : i < ratio) :
    ∃ c < blockNum, (channel, i) ∈ recvSegments computeGate blockNum ratio c := by
  simp only [mem_recvSegments]
  by_cases hzero : computeGate = 0
  · simp only [channels, hzero, if_true] at hchannel
    exact ⟨0, hcores, hi, by rwa [if_pos hzero]⟩
  have htwo := hgate hzero
  simp only [if_neg hzero]
  cases channel with
  | ids => exact ⟨blockNum - 1, by omega, hi, by rw [if_neg (by omega)]; simp⟩
  | scales => exact ⟨0, by omega, hi, by rw [if_pos (by omega)]; simp⟩
  | x => exact ⟨0, by omega, hi, by rw [if_pos (by omega)]; simp⟩

/-- What a receiving core moves for a channel of a sender are bytes of that channel. -/
theorem mem_moved_recvTrace (hc : c < blockNum) {channel : Channel} {i ratio : Nat}
    (hs : (channel, i) ∈ recvSegments t.computeGate blockNum ratio c) {m : Address × Address}
    (hm : m ∈ moved (recvTrace t blockNum c (channel, i))) : m ∈ recvBytes t channel i := by
  have hused : channel ≠ .ids → c < recvCores t.computeGate blockNum := by
    intro hne
    have hmem := (mem_recvSegments.1 hs).2
    unfold recvCores
    split_ifs at hmem ⊢ with hgate hlast
    · exact hc
    · omega
    · exact absurd (List.mem_singleton.1 hmem) hne
  cases channel with
  | ids => rwa [recvTrace, moved_recvIdRows] at hm
  | scales =>
    have hlt := hused (fun h => by cases h)
    rw [← moved_recvScaleRows (Nat.zero_lt_of_lt hlt), List.mem_flatMap]
    exact ⟨c, List.mem_range.2 hlt, hm⟩
  | x =>
    have hlt := hused (fun h => by cases h)
    rw [← moved_recvRows (Nat.zero_lt_of_lt hlt), List.mem_flatMap]
    exact ⟨c, List.mem_range.2 hlt, hm⟩

end A2eOps

/-! ## E2A -/

namespace E2ATilingData
variable (t : E2ATilingData)

def sendWithMteOps (blockNum blockIdx : Nat) : List CoreOp :=
  let sendRank := t.rank + t.expertRankSize
  let sendBatchSize := t.batchSize / t.attnToMoeRatio
  coreOps (t.sendCopies sendBatchSize blockNum blockIdx t.attnToMoeRatio sendRank 0) ++ syncAll ++
    coreOps (t.sendFlags t.attnToMoeRatio sendRank)

def recvWithMteOps (blockNum blockIdx : Nat) : List CoreOp :=
  .poll (flagAddr 0) :: coreOps
    (copyGmToGmWithBlocks 2 ⟨.output t.rank .x, 0⟩ ⟨.window t.rank, 0⟩ (t.batchSize * t.hiddenSize)
      blockNum blockIdx)

end E2ATilingData

/-- A core of an E2A call. -/
def e2aOps (t : E2ATilingData) (blockNum blockIdx : Nat) : List CoreOp :=
  countOps ++ if t.rank < t.expertRankSize then t.sendWithMteOps blockNum blockIdx
    else t.recvWithMteOps blockNum blockIdx

section E2aOps
variable {t : E2ATilingData} {blockNum c : Nat}

theorem coreOps_sendFlags (n sendRank : Nat) : coreOps (t.sendFlags n sendRank) =
    (List.range n).map fun i => .flag (sendRank + i * t.expertRankSize) (flagAddr 0) := by
  induction n generalizing sendRank with
  | zero => rfl
  | succ n ih =>
    rw [E2ATilingData.sendFlags, coreOps_cons, ih, List.range_succ_eq_map, List.map_cons, List.map_map]
    simp only [ops_signal, List.singleton_append, Nat.zero_mul, Nat.add_zero]
    congr 1
    apply List.map_congr_left
    intro i _
    rw [Function.comp_apply, Nat.succ_mul]
    congr 1
    omega

theorem coreOps_sendSlice (size sendRank sendOffset i : Nat) :
    coreOps (sendSlice t size blockNum c sendRank sendOffset i) =
      (moved (copyGmToGmWithBlocks 2 ⟨.window (sendRank + i * t.expertRankSize), 0⟩
        ⟨.input t.rank .x, (sendOffset + i * size) * 2⟩ size blockNum c)).map copyOp := by
  simp [sendSlice, coreOps_copyGmToGmWithBlocks]

/-- An expert rank moves the slices, meets at the barrier and raises all flags. -/
theorem e2aOps_send (hrank : t.rank < t.expertRankSize) :
    e2aOps t blockNum c = countOps ++ (moved (e2aCore t blockNum c)).map copyOp ++
      (syncAll ++ (List.range t.attnToMoeRatio).map fun i =>
        .flag (t.rank + (i + 1) * t.expertRankSize) (flagAddr 0)) := by
  have hmoved : moved (e2aCore t blockNum c) =
      moved (t.sendCopies (t.batchSize / t.attnToMoeRatio) blockNum c t.attnToMoeRatio
        (t.rank + t.expertRankSize) 0) := by
    rw [e2aCore, if_pos hrank, E2ATilingData.sendWithMte, moved_cons, moved_append, moved_cons,
      moved_sendFlags]
    simp [Event.bytes]
  have hcopies : coreOps (t.sendCopies (t.batchSize / t.attnToMoeRatio) blockNum c t.attnToMoeRatio
      (t.rank + t.expertRankSize) 0) = (moved (t.sendCopies (t.batchSize / t.attnToMoeRatio) blockNum c
      t.attnToMoeRatio (t.rank + t.expertRankSize) 0)).map copyOp := by
    simp only [sendCopies_eq, coreOps_flatMap, moved_flatMap, List.map_flatMap, moved_sendSlice,
      coreOps_sendSlice]
  rw [e2aOps, if_pos hrank, E2ATilingData.sendWithMteOps, coreOps_sendFlags, hmoved, hcopies]
  simp only [List.append_assoc, Nat.succ_mul, Nat.add_assoc, Nat.add_comm t.expertRankSize]

/-- An Attention rank polls its flag and then moves its batch. -/
theorem e2aOps_recv (hrank : t.expertRankSize ≤ t.rank) :
    e2aOps t blockNum c = (countOps ++ [.poll (flagAddr 0)]) ++ (moved (e2aCore t blockNum c)).map
      copyOp := by
  have hmoved : moved (e2aCore t blockNum c) =
      moved (copyGmToGmWithBlocks 2 ⟨.output t.rank .x, 0⟩ ⟨.window t.rank, 0⟩
        (t.batchSize * t.hiddenSize) blockNum c) := by
    rw [e2aCore, if_neg (not_lt.2 hrank), E2ATilingData.recvWithMte]
    simp [Event.bytes]
  rw [e2aOps, if_neg (not_lt.2 hrank), E2ATilingData.recvWithMteOps, hmoved,
    coreOps_copyGmToGmWithBlocks, List.append_assoc]
  rfl

end E2aOps

end AfdPlugin.Kernels
