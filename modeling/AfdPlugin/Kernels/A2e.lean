import AfdPlugin.Kernels.DataCopy
/-!
# The A2E kernel

One rank's A2E call, core by core. Attention ranks come after the expert ranks in
the group; Attention rank `a` writes its rows into its own window and raises
flags on expert rank `a % expertRankSize`, which waits for them and copies the
rows to its output. With `computeGate` the last two cores carry the expert ids
and their scales.
-/

namespace AfdPlugin.Kernels

/-- `A2ETilingData` -/
structure A2ETilingData where
  batchSize : Nat
  hiddenSize : Nat
  topk : Nat
  expertRankSize : Nat
  attentionRankSize : Nat
  rank : Nat
  computeGate : Nat
  deriving DecidableEq, Repr

/-- The check of `A2eTilingFuncImpl`. -/
def A2ETilingData.Accepted (t : A2ETilingData) : Prop := t.rank < t.expertRankSize + t.attentionRankSize

/-- The kernel object after `init`. -/
structure A2e extends A2ETilingData where
  recvBatchSize : Nat
  attnToMoeRatio : Nat
  deriving DecidableEq, Repr

/-- `attnToMoeRatio` as both kernels first set it. -/
def ceilRatio (expertRankSize attentionRankSize : Nat) : Nat :=
  if attentionRankSize > expertRankSize then
    (attentionRankSize + expertRankSize - 1) / expertRankSize else 1

/-- `attnToMoeRatio` after the correction for a rank that the last round of
Attention ranks does not reach. -/
def correctedRatio (expertRankSize attentionRankSize rank : Nat) : Nat :=
  if expertRankSize ≠ 1 ∧ attentionRankSize > expertRankSize ∧
    rank % expertRankSize ≥ attentionRankSize % expertRankSize ∧
      attentionRankSize % expertRankSize ≠ 0 then ceilRatio expertRankSize attentionRankSize - 1
  else ceilRatio expertRankSize attentionRankSize

/-- `A2e::init`. The rows of a sender are counted before the ratio is corrected. -/
def A2e.init (t : A2ETilingData) : A2e :=
  { t with
    recvBatchSize := t.batchSize / ceilRatio t.expertRankSize t.attentionRankSize
    attnToMoeRatio := correctedRatio t.expertRankSize t.attentionRankSize t.rank }

def flagUnitInt64Num : Nat := 4

/-- Byte offset of flag slot `slot`. -/
def flagAddr (slot : Nat) : Nat := slot * flagUnitInt64Num * 8

/-- The upper half of a flag, where `mergeMagicWithValue` puts the magic. -/
def magicWord (flag : Nat) : Nat := flag + 4

/-- The slots of a channel start at this multiple of the ratio. -/
def Channel.flagOffset : Channel → Nat
  | .ids => 1
  | .scales => 2
  | .x => 3

/-! ## Sending -/

namespace A2e
variable (k : A2e)

/-- The flag a sending core writes for a channel. -/
def sendFlag (channel : Channel) (sendOffset : Nat) : List Event :=
  [.onChip ⟨0, 8⟩,
    .signal (k.rank % k.expertRankSize) (flagAddr (channel.flagOffset * k.attnToMoeRatio + sendOffset))]

def sendExpertIds (sendOffset expertIdsOffset : Nat) : List Event :=
  cpGM2GMPingPong 4 (k.batchSize * k.topk * 4) ⟨.input k.rank .ids, 0⟩ ⟨.window k.rank, expertIdsOffset⟩ ++
    k.sendFlag .ids sendOffset

def sendExpertScales (sendOffset expertScalesOffset : Nat) : List Event :=
  cpGM2GMPingPong 4 (k.batchSize * k.topk * 4) ⟨.input k.rank .scales, 0⟩
    ⟨.window k.rank, expertScalesOffset⟩ ++ k.sendFlag .scales sendOffset

def sendX (blockNum blockIdx sendOffset xOffset : Nat) : List Event :=
  let actualBlockNum := if k.computeGate = 0 then blockNum else blockNum - 2
  copyGmToGmWithBlocks 2 ⟨.window k.rank, xOffset⟩ ⟨.input k.rank .x, 0⟩ (k.batchSize * k.hiddenSize)
    actualBlockNum blockIdx ++ k.sendFlag .x sendOffset

def sendWithMte (blockNum blockIdx : Nat) : List Event :=
  let sendOffset := k.rank / k.expertRankSize - 1
  let expertIdsReserveSize := k.batchSize * k.topk * 4
  let expertScalesReserveSize := k.batchSize * k.topk * 4
  let xOffset := 4 + expertIdsReserveSize + expertScalesReserveSize
  let expertScalesOffset := 4 + expertIdsReserveSize
  let expertIdsOffset := 4
  -- `xReserveSize` is not used, but its product is an `int` too
  [.int (k.batchSize * k.topk), .int expertIdsReserveSize, .int expertScalesReserveSize,
      .int (k.batchSize * k.hiddenSize), .int xOffset, .int expertScalesOffset] ++
    if k.computeGate = 0 then k.sendX blockNum blockIdx sendOffset xOffset
    else if blockIdx + 1 = blockNum then k.sendExpertIds sendOffset expertIdsOffset
    else if blockIdx + 2 = blockNum then k.sendExpertScales sendOffset expertScalesOffset
    else k.sendX blockNum blockIdx sendOffset xOffset

/-! ## Receiving -/

/-- Elements written to each output so far. -/
structure OutputOffsets where
  expandX : Nat := 0
  expertIds : Nat := 0
  expertScales : Nat := 0

/-- `waitFlagWithScalar` for a channel of sender `index`. -/
def waitFlag (channel : Channel) (index : Nat) : Event :=
  .wait ((channel.flagOffset * k.attnToMoeRatio + index) * flagUnitInt64Num * 8 + 4)

/-- The scales part of `recvWithMte`. -/
def recvScales (usedBlockNum blockIdx index expertScalesOffset : Nat) (o : OutputOffsets) :
    List Event × OutputOffsets :=
  let sendRank := k.rank + (index + 1) * k.expertRankSize
  let elementNum := k.recvBatchSize * k.topk
  ([k.waitFlag .scales index] ++ copyGmToGmWithBlocks 4 ⟨.output k.rank .scales, o.expertScales * 4⟩
    ⟨.window sendRank, expertScalesOffset⟩ elementNum usedBlockNum blockIdx ++
      [.int (o.expertScales + elementNum)], { o with expertScales := o.expertScales + elementNum })

/-- The rows part of `recvWithMte`. -/
def recvX (usedBlockNum blockIdx index xOffset : Nat) (o : OutputOffsets) : List Event × OutputOffsets :=
  let sendRank := k.rank + (index + 1) * k.expertRankSize
  let elementNum := k.recvBatchSize * k.hiddenSize
  ([k.waitFlag .x index, .int elementNum] ++ copyGmToGmWithBlocks 2 ⟨.output k.rank .x, o.expandX * 2⟩
    ⟨.window sendRank, xOffset⟩ elementNum usedBlockNum blockIdx ++ [.int (o.expandX + elementNum)],
    { o with expandX := o.expandX + elementNum })

def recvWithMte (blockNum blockIdx index : Nat) (o : OutputOffsets) : List Event × OutputOffsets :=
  let expertIdsReserveSize := k.recvBatchSize * k.topk * 4
  let expertScalesReserveSize := k.recvBatchSize * k.topk * 4
  let xOffset := 4 + expertIdsReserveSize + expertScalesReserveSize
  let expertScalesOffset := 4 + expertIdsReserveSize
  let reserve := [.int (k.recvBatchSize * k.topk), .int expertIdsReserveSize,
    .int expertScalesReserveSize, .int xOffset, .int expertScalesOffset]
  if k.computeGate = 0 then
    let x := k.recvX blockNum blockIdx index xOffset o
    (reserve ++ x.1, x.2)
  else
    let scales := k.recvScales (blockNum - 1) blockIdx index expertScalesOffset o
    let x := k.recvX (blockNum - 1) blockIdx index xOffset scales.2
    (reserve ++ scales.1 ++ x.1, x.2)

/-- The ids go through the buffer in one piece. -/
def recvExpertIdsWithMte (index : Nat) (o : OutputOffsets) : List Event × OutputOffsets :=
  let sendRank := k.rank + (index + 1) * k.expertRankSize
  let expertIdsOffset := 4
  let ubOffset := 1024
  let size := k.recvBatchSize * k.topk * 4
  ([k.waitFlag .ids index, .int (k.recvBatchSize * k.topk), .onChip ⟨ubOffset, size⟩,
      .move ⟨.window sendRank, expertIdsOffset⟩ ⟨.output k.rank .ids, o.expertIds * 4⟩ size,
      .int (o.expertIds + k.recvBatchSize * k.topk)],
    { o with expertIds := o.expertIds + k.recvBatchSize * k.topk })

/-! ## The call -/

/-- `n` passes of a receive loop from index `i`. -/
def passes (pass : Nat → OutputOffsets → List Event × OutputOffsets) :
    Nat → Nat → OutputOffsets → List Event
  | 0, _, _ => []
  | n + 1, i, o => (pass i o).1 ++ passes pass n (i + 1) (pass i o).2

def process (blockNum blockIdx : Nat) : List Event :=
  if k.computeGate = 0 then
    if k.rank ≥ k.expertRankSize then k.sendWithMte blockNum blockIdx
    else passes (k.recvWithMte blockNum blockIdx) k.attnToMoeRatio 0 {}
  else
    if k.rank < k.expertRankSize then
      passes (if blockIdx + 1 < blockNum then k.recvWithMte blockNum blockIdx else k.recvExpertIdsWithMte)
        k.attnToMoeRatio 0 {}
    else k.sendWithMte blockNum blockIdx

end A2e

/-- What core `blockIdx` of a call does: `init` adds to its counter through the
buffer, then the core runs `process`. -/
def a2eCore (t : A2ETilingData) (blockNum blockIdx : Nat) : List Event :=
  .onChip ⟨0, 32⟩ :: (A2e.init t).process blockNum blockIdx

/-- What the cores of a call do. -/
def a2e (t : A2ETilingData) (blockNum : Nat) : List Event :=
  (List.range blockNum).flatMap (a2eCore t blockNum)

/-! ## Channels of a call -/

/-- Bytes of a row of the channel. -/
def A2ETilingData.rowBytes (t : A2ETilingData) : Channel → Nat
  | .ids => t.topk * 4
  | .scales => t.topk * 4
  | .x => t.hiddenSize * 2

/-- Where `batchSize` rows of the channel are in a window's data area. -/
def A2ETilingData.windowOffset (t : A2ETilingData) (batchSize : Nat) : Channel → Nat
  | .ids => 4
  | .scales => 4 + batchSize * t.topk * 4
  | .x => 4 + batchSize * t.topk * 4 + batchSize * t.topk * 4

/-- What the call is to transport. -/
def channels (computeGate : Nat) : List Channel := if computeGate = 0 then [.x] else [.x, .scales, .ids]

/-- The channels that the cores of an Attention rank serve: the last one has the
ids, the one before it the scales, the others the rows. -/
def sendChannels (computeGate blockNum : Nat) : List Channel :=
  if computeGate = 0 then [.x]
  else if blockNum = 1 then [.ids]
  else if blockNum = 2 then [.scales, .ids]
  else [.x, .scales, .ids]

/-- The channels that the cores of an expert rank serve: the last one has the
ids, the others the rows and the scales. -/
def recvChannels (computeGate blockNum : Nat) : List Channel :=
  if computeGate = 0 then [.x]
  else if blockNum = 1 then [.ids]
  else [.x, .scales, .ids]

/-- The bytes an Attention rank is to move for a channel. -/
def sendBytes (t : A2ETilingData) (channel : Channel) : List (Address × Address) :=
  (List.range (t.batchSize * t.rowBytes channel)).map fun j =>
    (⟨.input t.rank channel, j⟩, ⟨.window t.rank, t.windowOffset t.batchSize channel + j⟩)

/-- The bytes an expert rank moves for a channel of sender `index`. -/
def recvBytes (t : A2ETilingData) (channel : Channel) (index : Nat) : List (Address × Address) :=
  (List.range ((A2e.init t).recvBatchSize * t.rowBytes channel)).map fun j =>
    (⟨.window (t.rank + (index + 1) * t.expertRankSize),
      t.windowOffset (A2e.init t).recvBatchSize channel + j⟩,
      ⟨.output t.rank channel, index * ((A2e.init t).recvBatchSize * t.rowBytes channel) + j⟩)

/-! ## What a sending call does -/

section Send
variable {t : A2ETilingData} {blockNum : Nat}

/-- The offsets every sending core computes. -/
def sendReserve (t : A2ETilingData) : List Event :=
  [.int (t.batchSize * t.topk), .int (t.batchSize * t.topk * 4), .int (t.batchSize * t.topk * 4),
    .int (t.batchSize * t.hiddenSize), .int (t.windowOffset t.batchSize .x),
    .int (t.windowOffset t.batchSize .scales)]

/-- What `used` cores do for the rows, in core `c`. -/
def sendRows (t : A2ETilingData) (used c : Nat) : List Event :=
  copyGmToGmWithBlocks 2 ⟨.window t.rank, t.windowOffset t.batchSize .x⟩ ⟨.input t.rank .x, 0⟩
    (t.batchSize * t.hiddenSize) used c

theorem a2eCore_send (hrank : t.expertRankSize ≤ t.rank) (c : Nat) :
    a2eCore t blockNum c = .onChip ⟨0, 32⟩ :: sendReserve t ++
      if t.computeGate = 0 then
        sendRows t blockNum c ++ (A2e.init t).sendFlag .x (t.rank / t.expertRankSize - 1)
      else if c + 1 = blockNum then (A2e.init t).sendExpertIds (t.rank / t.expertRankSize - 1) 4
      else if c + 2 = blockNum then
        (A2e.init t).sendExpertScales (t.rank / t.expertRankSize - 1) (t.windowOffset t.batchSize .scales)
      else sendRows t (blockNum - 2) c ++ (A2e.init t).sendFlag .x (t.rank / t.expertRankSize - 1) := by
  have hprocess : (A2e.init t).process blockNum c = (A2e.init t).sendWithMte blockNum c := by
    unfold A2e.process
    split
    · exact if_pos hrank
    · exact if_neg (not_lt.2 hrank)
  have hx : (A2e.init t).sendX blockNum c (t.rank / t.expertRankSize - 1) (t.windowOffset t.batchSize .x) =
      sendRows t (if t.computeGate = 0 then blockNum else blockNum - 2) c ++
        (A2e.init t).sendFlag .x (t.rank / t.expertRankSize - 1) := rfl
  rw [a2eCore, hprocess, List.cons_append]
  change _ :: (sendReserve t ++ ite (t.computeGate = 0)
    ((A2e.init t).sendX blockNum c (t.rank / t.expertRankSize - 1) (t.windowOffset t.batchSize .x)) _) = _
  rw [hx]
  by_cases hgate : t.computeGate = 0
  · rw [if_pos hgate, if_pos hgate, if_pos hgate]
  · rw [if_neg hgate, if_neg hgate]
    change _ :: (_ ++ ite (c + 1 = blockNum) _ (ite (c + 2 = blockNum) _
      ((A2e.init t).sendX blockNum c (t.rank / t.expertRankSize - 1) (t.windowOffset t.batchSize .x)))) = _
    rw [hx, if_neg hgate]
    rfl

theorem moved_sendReserve (t : A2ETilingData) : moved (sendReserve t) = [] := rfl

theorem moved_sendFlag (k : A2e) (channel : Channel) (sendOffset : Nat) :
    moved (k.sendFlag channel sendOffset) = [] := rfl

theorem moved_sendExpertIds (sendOffset : Nat) :
    moved ((A2e.init t).sendExpertIds sendOffset 4) = sendBytes t .ids := by
  rw [A2e.sendExpertIds, moved_append, moved_sendFlag, List.append_nil,
    moved_cpGM2GMPingPong (by decide), sendBytes, A2ETilingData.rowBytes, Nat.mul_assoc]
  apply List.map_congr_left
  intro j _
  simp [Address.add, A2ETilingData.windowOffset, A2e.init]

theorem moved_sendExpertScales (sendOffset : Nat) :
    moved ((A2e.init t).sendExpertScales sendOffset (t.windowOffset t.batchSize .scales)) =
      sendBytes t .scales := by
  rw [A2e.sendExpertScales, moved_append, moved_sendFlag, List.append_nil,
    moved_cpGM2GMPingPong (by decide), sendBytes, A2ETilingData.rowBytes, Nat.mul_assoc]
  apply List.map_congr_left
  intro j _
  simp [Address.add, A2e.init]

/-- The rows of `used` cores. -/
theorem moved_sendRows {used : Nat} (hused : 0 < used) :
    ((List.range used).flatMap fun c => moved (sendRows t used c)) = sendBytes t .x := by
  simp only [sendRows]
  rw [moved_copyGmToGmWithBlocks (by decide) hused, sendBytes, A2ETilingData.rowBytes, Nat.mul_assoc]
  apply List.map_congr_left
  intro j _
  simp [Address.add]

/-- The cores of an Attention rank move the channels they serve. -/
theorem moved_a2e_send (hrank : t.expertRankSize ≤ t.rank) (hcores : 0 < blockNum) :
    moved (a2e t blockNum) = (sendChannels t.computeGate blockNum).flatMap (sendBytes t) := by
  have hcore : ∀ c, moved (a2eCore t blockNum c) =
      if t.computeGate = 0 then moved (sendRows t blockNum c)
      else if c + 1 = blockNum then sendBytes t .ids
      else if c + 2 = blockNum then sendBytes t .scales
      else moved (sendRows t (blockNum - 2) c) := by
    intro c
    rw [a2eCore_send hrank, moved_append, moved_cons, moved_sendReserve]
    split_ifs
    · simp [moved_sendFlag, Event.bytes]
    · simp [moved_sendExpertIds, Event.bytes]
    · simp [moved_sendExpertScales, Event.bytes]
    · simp [moved_sendFlag, Event.bytes]
  rw [a2e, moved_flatMap]
  simp only [hcore]
  unfold sendChannels
  by_cases hgate : t.computeGate = 0
  · simp only [hgate, if_true, List.flatMap_singleton]
    exact moved_sendRows hcores
  simp only [if_neg hgate]
  rcases blockNum with _ | _ | _ | n
  · cases hcores
  · simp
  · simp [List.range_succ]
  · have hfirst : ((List.range (n + 1)).flatMap fun c => if c + 1 = n + 3 then sendBytes t .ids
        else if c + 2 = n + 3 then sendBytes t .scales else moved (sendRows t (n + 3 - 2) c)) =
        sendBytes t .x := by
      rw [← moved_sendRows (Nat.succ_pos n)]
      apply List.flatMap_congr
      intro c hc
      have hlt := List.mem_range.1 hc
      rw [if_neg (by omega), if_neg (by omega)]
      rfl
    rw [List.range_succ, List.range_succ, List.flatMap_append, List.flatMap_append, hfirst]
    simp

end Send

/-! ## What a receiving call does -/

section Receive
variable {t : A2ETilingData} {blockNum : Nat}

/-- The offsets every pass of `recvWithMte` computes. -/
def recvReserve (t : A2ETilingData) : List Event :=
  let rows := (A2e.init t).recvBatchSize
  [.int (rows * t.topk), .int (rows * t.topk * 4), .int (rows * t.topk * 4), .int (t.windowOffset rows .x),
    .int (t.windowOffset rows .scales)]

/-- What core `c` of `used` does for the rows of sender `index`. -/
def recvRows (t : A2ETilingData) (used c index : Nat) : List Event :=
  let elementNum := (A2e.init t).recvBatchSize * t.hiddenSize
  [(A2e.init t).waitFlag .x index, .int elementNum] ++ copyGmToGmWithBlocks 2 ⟨.output t.rank .x,
    index * elementNum * 2⟩ ⟨.window (t.rank + (index + 1) * t.expertRankSize),
    t.windowOffset (A2e.init t).recvBatchSize .x⟩ elementNum used c ++
    [.int (index * elementNum + elementNum)]

/-- What core `c` of `used` does for the scales of sender `index`. -/
def recvScaleRows (t : A2ETilingData) (used c index : Nat) : List Event :=
  let elementNum := (A2e.init t).recvBatchSize * t.topk
  [(A2e.init t).waitFlag .scales index] ++ copyGmToGmWithBlocks 4 ⟨.output t.rank .scales,
    index * elementNum * 4⟩ ⟨.window (t.rank + (index + 1) * t.expertRankSize),
    t.windowOffset (A2e.init t).recvBatchSize .scales⟩ elementNum used c ++
    [.int (index * elementNum + elementNum)]

/-- What the last core does for the ids of sender `index`. -/
def recvIdRows (t : A2ETilingData) (index : Nat) : List Event :=
  let elementNum := (A2e.init t).recvBatchSize * t.topk
  [(A2e.init t).waitFlag .ids index, .int elementNum, .onChip ⟨1024, elementNum * 4⟩,
    .move ⟨.window (t.rank + (index + 1) * t.expertRankSize), 4⟩ ⟨.output t.rank .ids,
      index * elementNum * 4⟩ (elementNum * 4), .int (index * elementNum + elementNum)]

/-- A receive loop whose offsets are known in every pass. -/
theorem passes_eq {pass : Nat → A2e.OutputOffsets → List Event × A2e.OutputOffsets}
    {offsets : Nat → A2e.OutputOffsets} {events : Nat → List Event}
    (h : ∀ i, pass i (offsets i) = (events i, offsets (i + 1))) (n i : Nat) :
    A2e.passes pass n i (offsets i) = (List.range' i n).flatMap events := by
  induction n generalizing i with
  | zero => rfl
  | succ n ih =>
    rw [A2e.passes, h i, List.range'_succ, List.flatMap_cons]
    exact congrArg _ (ih (i + 1))

theorem a2eCore_recv (hrank : t.rank < t.expertRankSize) (c : Nat) :
    a2eCore t blockNum c = .onChip ⟨0, 32⟩ ::
      if t.computeGate = 0 then
        (List.range (A2e.init t).attnToMoeRatio).flatMap fun i => recvReserve t ++ recvRows t blockNum c i
      else if c + 1 < blockNum then
        (List.range (A2e.init t).attnToMoeRatio).flatMap fun i =>
          recvReserve t ++ recvScaleRows t (blockNum - 1) c i ++ recvRows t (blockNum - 1) c i
      else (List.range (A2e.init t).attnToMoeRatio).flatMap (recvIdRows t) := by
  have hloop : ∀ {pass : Nat → A2e.OutputOffsets → List Event × A2e.OutputOffsets} (offsets : Nat →
      A2e.OutputOffsets)
      {events : Nat → List Event}, offsets 0 = {} →
        (∀ i, pass i (offsets i) = (events i, offsets (i + 1))) →
      A2e.passes pass (A2e.init t).attnToMoeRatio 0 {} =
          (List.range (A2e.init t).attnToMoeRatio).flatMap events := by
    intro pass offsets events h0 h
    rw [List.range_eq_range', ← passes_eq h, h0]
  let rows := (A2e.init t).recvBatchSize
  rw [a2eCore, A2e.process]
  change _ :: ite (t.computeGate = 0) (ite (t.expertRankSize ≤ t.rank) _ _)
    (ite (t.rank < t.expertRankSize) _ _) = _
  congr 1
  by_cases hgate : t.computeGate = 0
  · rw [if_pos hgate, if_pos hgate, if_neg (not_le.2 hrank)]
    apply hloop fun i => ⟨i * (rows * t.hiddenSize), 0, 0⟩
    · simp
    · intro i
      rw [A2e.recvWithMte]
      change ite (t.computeGate = 0) _ _ = _
      rw [if_pos hgate, Nat.succ_mul]
      rfl
  rw [if_neg hgate, if_neg hgate, if_pos hrank]
  split
  · apply hloop fun i => ⟨i * (rows * t.hiddenSize), 0, i * (rows * t.topk)⟩
    · simp
    · intro i
      rw [A2e.recvWithMte]
      change ite (t.computeGate = 0) _ _ = _
      rw [if_neg hgate, Nat.succ_mul, Nat.succ_mul]
      rfl
  · apply hloop fun i => ⟨0, i * (rows * t.topk), 0⟩
    · simp
    · intro i
      rw [Nat.succ_mul]
      rfl

theorem moved_recvRows {used : Nat} (hused : 0 < used) (index : Nat) :
    ((List.range used).flatMap fun c => moved (recvRows t used c index)) = recvBytes t .x index := by
  have hcore : ∀ c, moved (recvRows t used c index) =
      moved (copyGmToGmWithBlocks 2 ⟨.output t.rank .x,
        index * ((A2e.init t).recvBatchSize * t.hiddenSize) * 2⟩
        ⟨.window (t.rank + (index + 1) * t.expertRankSize),
          t.windowOffset (A2e.init t).recvBatchSize .x⟩ ((A2e.init t).recvBatchSize * t.hiddenSize)
        used c) := by
    intro c
    simp [recvRows, A2e.waitFlag, Event.bytes]
  simp only [hcore]
  rw [moved_copyGmToGmWithBlocks (by decide) hused, recvBytes, A2ETilingData.rowBytes]
  simp only [Nat.mul_assoc]
  apply List.map_congr_left
  intro j _
  simp [Address.add]

theorem moved_recvScaleRows {used : Nat} (hused : 0 < used) (index : Nat) :
    ((List.range used).flatMap fun c => moved (recvScaleRows t used c index)) =
      recvBytes t .scales index := by
  have hcore : ∀ c, moved (recvScaleRows t used c index) =
      moved (copyGmToGmWithBlocks 4 ⟨.output t.rank .scales,
        index * ((A2e.init t).recvBatchSize * t.topk) * 4⟩
        ⟨.window (t.rank + (index + 1) * t.expertRankSize),
          t.windowOffset (A2e.init t).recvBatchSize .scales⟩ ((A2e.init t).recvBatchSize * t.topk)
        used c) := by
    intro c
    simp [recvScaleRows, A2e.waitFlag, Event.bytes]
  simp only [hcore]
  rw [moved_copyGmToGmWithBlocks (by decide) hused, recvBytes, A2ETilingData.rowBytes]
  simp only [Nat.mul_assoc]
  apply List.map_congr_left
  intro j _
  simp [Address.add]

theorem moved_recvIdRows (index : Nat) : moved (recvIdRows t index) = recvBytes t .ids index := by
  simp only [recvIdRows, A2e.waitFlag, moved_cons, moved_nil, Event.bytes, List.nil_append, List.append_nil]
  rw [recvBytes, A2ETilingData.rowBytes]
  simp only [Nat.mul_assoc]
  apply List.map_congr_left
  intro j _
  simp [Address.add, A2ETilingData.windowOffset]

theorem moved_recvReserve (t : A2ETilingData) : moved (recvReserve t) = [] := rfl

/-- The cores of an expert rank move the channels they serve, of each sender in
turn. -/
theorem moved_a2e_recv (hrank : t.rank < t.expertRankSize) (hcores : 0 < blockNum) :
    (moved (a2e t blockNum)).Perm ((List.range (A2e.init t).attnToMoeRatio).flatMap fun i =>
      (recvChannels t.computeGate blockNum).flatMap fun channel => recvBytes t channel i) := by
  have hcore : ∀ c, moved (a2eCore t blockNum c) = (List.range (A2e.init t).attnToMoeRatio).flatMap fun i =>
      if t.computeGate = 0 then moved (recvRows t blockNum c i)
      else if c + 1 < blockNum then
        moved (recvScaleRows t (blockNum - 1) c i) ++ moved (recvRows t (blockNum - 1) c i)
      else recvBytes t .ids i := by
    intro c
    have hcons : ∀ l, moved (.onChip ⟨0, 32⟩ :: l) = moved l := fun _ => rfl
    rw [a2eCore_recv hrank, hcons]
    split_ifs
    · simp only [moved_flatMap, moved_append, moved_recvReserve, List.nil_append]
    · simp only [moved_flatMap, moved_append, moved_recvReserve, List.nil_append]
    · simp only [moved_flatMap, moved_recvIdRows]
  rw [a2e, moved_flatMap]
  simp only [hcore]
  apply (flatMap_swap_perm _ _ _).trans
  apply List.Perm.flatMap_left
  intro i _
  unfold recvChannels
  by_cases hgate : t.computeGate = 0
  · simp only [hgate, if_true, List.flatMap_singleton]
    exact .of_eq (moved_recvRows hcores i)
  simp only [if_neg hgate]
  match blockNum, hcores with
  | 1, _ => simp
  | n + 2, _ =>
    -- the last core has the ids, the others a part of the scales and of the rows each
    have hfirst : ((List.range (n + 1)).flatMap fun c => if c + 1 < n + 2 then
          moved (recvScaleRows t (n + 2 - 1) c i) ++ moved (recvRows t (n + 2 - 1) c i)
            else recvBytes t .ids i) =
        (List.range (n + 1)).flatMap fun c => moved (recvScaleRows t (n + 1) c i) ++
            moved (recvRows t (n + 1) c i) := by
      apply List.flatMap_congr
      intro c hc
      rw [if_pos (Nat.succ_lt_succ (List.mem_range.1 hc))]
      rfl
    have hparts := List.flatMap_append_perm (List.range (n + 1))
      (fun c => moved (recvScaleRows t (n + 1) c i)) fun c => moved (recvRows t (n + 1) c i)
    rw [moved_recvScaleRows (Nat.succ_pos n), moved_recvRows (Nat.succ_pos n)] at hparts
    rw [List.range_succ, List.flatMap_append, hfirst, List.flatMap_singleton, if_neg (lt_irrefl _),
      if_neg (by omega)]
    refine ((hparts.symm.trans List.perm_append_comm).append_right _).trans (.of_eq ?_)
    simp

end Receive

/-! ## Flags -/

section Flags
variable {t : A2ETilingData} {blockNum : Nat}

/-- The flag of a channel and sender. -/
def flagOf (t : A2ETilingData) (channel : Channel) (index : Nat) : Nat :=
  flagAddr (channel.flagOffset * (A2e.init t).attnToMoeRatio + index)

theorem signals_sendFlag (channel : Channel) (sendOffset : Nat) :
    signals ((A2e.init t).sendFlag channel sendOffset) =
      [(t.rank % t.expertRankSize, flagOf t channel sendOffset)] := rfl

/-- The flags that the cores of an Attention rank write. -/
theorem mem_signals_a2e (hrank : t.expertRankSize ≤ t.rank) (hcores : 0 < blockNum) {w : Nat × Nat} :
    w ∈ signals (a2e t blockNum) ↔ ∃ channel ∈ sendChannels t.computeGate blockNum,
      w = (t.rank % t.expertRankSize, flagOf t channel (t.rank / t.expertRankSize - 1)) := by
  have hcore : ∀ c, signals (a2eCore t blockNum c) =
      [(t.rank % t.expertRankSize, flagOf t (if t.computeGate = 0 then .x else if c + 1 = blockNum then
        .ids else if c + 2 = blockNum then .scales else .x) (t.rank / t.expertRankSize - 1))] := by
    intro c
    have hreserve : signals (.onChip ⟨0, 32⟩ :: sendReserve t) = [] := rfl
    rw [a2eCore_send hrank, signals_append, hreserve, List.nil_append]
    split_ifs
    · rw [signals_append, sendRows, signals_copyGmToGmWithBlocks, signals_sendFlag, List.nil_append]
    · rw [A2e.sendExpertIds, signals_append, signals_cpGM2GMPingPong, signals_sendFlag, List.nil_append]
    · rw [A2e.sendExpertScales, signals_append, signals_cpGM2GMPingPong, signals_sendFlag, List.nil_append]
    · rw [signals_append, sendRows, signals_copyGmToGmWithBlocks, signals_sendFlag, List.nil_append]
  have hchannels : ∀ channel, channel ∈ sendChannels t.computeGate blockNum ↔ ∃ c < blockNum, channel =
      if t.computeGate = 0 then .x else if c + 1 = blockNum then .ids else if c + 2 = blockNum then
          .scales else .x := by
    intro channel
    unfold sendChannels
    by_cases hgate : t.computeGate = 0
    · simp only [hgate, if_true, List.mem_singleton]
      exact ⟨fun h => ⟨0, hcores, h⟩, fun ⟨_, _, h⟩ => h⟩
    simp only [if_neg hgate]
    match blockNum, hcores with
    | 1, _ =>
      simp
    | 2, _ =>
      rw [if_neg (by decide), if_pos rfl]
      simp only [List.mem_cons, List.not_mem_nil, or_false]
      constructor
      · rintro (rfl | rfl)
        · exact ⟨0, by decide, rfl⟩
        · exact ⟨1, by decide, rfl⟩
      · rintro ⟨c, hc, rfl⟩
        split_ifs
        · exact .inr rfl
        · exact .inl rfl
        · omega
    | n + 3, _ =>
      rw [if_neg (by omega), if_neg (by omega)]
      simp only [List.mem_cons, List.not_mem_nil, or_false]
      constructor
      · rintro (rfl | rfl | rfl)
        · exact ⟨0, by omega, by rw [if_neg (by omega), if_neg (by omega)]⟩
        · exact ⟨n + 1, by omega, by rw [if_neg (by omega), if_pos rfl]⟩
        · exact ⟨n + 2, by omega, by rw [if_pos rfl]⟩
      · rintro ⟨c, hc, rfl⟩
        split_ifs <;> simp
  rw [a2e, signals_flatMap]
  simp only [hcore, List.mem_flatMap, List.mem_range, List.mem_singleton, hchannels]
  constructor
  · rintro ⟨c, hc, rfl⟩
    exact ⟨_, ⟨c, hc, rfl⟩, rfl⟩
  · rintro ⟨_, ⟨c, hc, rfl⟩, rfl⟩
    exact ⟨c, hc, rfl⟩

/-- The words that the cores of an expert rank wait on. -/
theorem mem_waits_a2e (hrank : t.rank < t.expertRankSize) (hcores : 0 < blockNum) {w : Nat} :
    w ∈ waits (a2e t blockNum) ↔ ∃ channel ∈ recvChannels t.computeGate blockNum,
      ∃ i < (A2e.init t).attnToMoeRatio, w = magicWord (flagOf t channel i) := by
  have hrows : ∀ used c i, waits (recvRows t used c i) = [magicWord (flagOf t .x i)] := by
    intro used c i
    rw [recvRows, waits_append, waits_append, waits_copyGmToGmWithBlocks]
    rfl
  have hscales : ∀ used c i, waits (recvScaleRows t used c i) = [magicWord (flagOf t .scales i)] := by
    intro used c i
    rw [recvScaleRows, waits_append, waits_append, waits_copyGmToGmWithBlocks]
    rfl
  have hids : ∀ i, waits (recvIdRows t i) = [magicWord (flagOf t .ids i)] := fun _ => rfl
  have hreserve : waits (recvReserve t) = [] := rfl
  have hcore : ∀ c, waits (a2eCore t blockNum c) = (List.range (A2e.init t).attnToMoeRatio).flatMap fun i =>
      if t.computeGate = 0 then [magicWord (flagOf t .x i)]
      else if c + 1 < blockNum then [magicWord (flagOf t .scales i), magicWord (flagOf t .x i)]
      else [magicWord (flagOf t .ids i)] := by
    intro c
    have hcons : ∀ l, waits (.onChip ⟨0, 32⟩ :: l) = waits l := fun _ => rfl
    rw [a2eCore_recv hrank, hcons]
    split_ifs
    · simp only [waits_flatMap, waits_append, hreserve, hrows, List.nil_append]
    · simp only [waits_flatMap, waits_append, hreserve, hrows, hscales, List.nil_append,
        List.singleton_append]
    · simp only [waits_flatMap, hids]
  rw [a2e, waits_flatMap]
  simp only [hcore, List.mem_flatMap, List.mem_range]
  unfold recvChannels
  by_cases hgate : t.computeGate = 0
  · simp only [hgate, if_true, List.mem_singleton, exists_eq_left]
    exact ⟨fun ⟨_, _, h⟩ => h, fun h => ⟨0, hcores, h⟩⟩
  simp only [if_neg hgate]
  constructor
  · rintro ⟨c, hc, i, hi, h⟩
    split_ifs at h with hlast
    · rw [if_neg (by omega)]
      simp only [List.mem_cons, List.not_mem_nil, or_false] at h
      rcases h with rfl | rfl
      · exact ⟨.scales, by simp, i, hi, rfl⟩
      · exact ⟨.x, by simp, i, hi, rfl⟩
    · refine ⟨.ids, ?_, i, hi, List.mem_singleton.1 h⟩
      split <;> simp
  · rintro ⟨channel, hchannel, i, hi, rfl⟩
    split_ifs at hchannel with hone
    · obtain rfl := List.mem_singleton.1 hchannel
      exact ⟨0, hcores, i, hi, by rw [if_neg (by omega)]; exact List.mem_singleton_self _⟩
    · simp only [List.mem_cons, List.not_mem_nil, or_false] at hchannel
      rcases hchannel with rfl | rfl | rfl
      · exact ⟨0, hcores, i, hi, by rw [if_pos (by omega)]; simp⟩
      · exact ⟨0, hcores, i, hi, by rw [if_pos (by omega)]; simp⟩
      · exact ⟨blockNum - 1, by omega, i, hi, by rw [if_neg (by omega)]; simp⟩

end Flags

end AfdPlugin.Kernels
