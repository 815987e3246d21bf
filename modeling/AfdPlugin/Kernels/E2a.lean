import AfdPlugin.Kernels.A2e
/-!
# The E2A kernel

E2A returns an expert rank's rows to its Attention ranks through their windows,
an equal slice to each.
-/

namespace AfdPlugin.Kernels

/-! ## The E2A kernel -/

/-- `E2ATilingData` -/
structure E2ATilingData where
  batchSize : Nat
  hiddenSize : Nat
  topk : Nat
  expertRankSize : Nat
  attentionRankSize : Nat
  rank : Nat
  deriving DecidableEq, Repr

namespace E2ATilingData
variable (t : E2ATilingData)

/-- `attnToMoeRatio` after `init`. -/
def attnToMoeRatio : Nat := correctedRatio t.expertRankSize t.attentionRankSize t.rank

/-- `n` passes of the copy loop of `sendWithMte` from these offsets on. -/
def sendCopies (sendBatchSize blockNum blockIdx : Nat) : Nat → Nat → Nat → List Event
  | 0, _, _ => []
  | n + 1, sendRank, sendOffset =>
    .int (sendBatchSize * t.hiddenSize) :: copyGmToGmWithBlocks 2 ⟨.window sendRank, 0⟩
      ⟨.input t.rank .x, sendOffset * 2⟩ (sendBatchSize * t.hiddenSize) blockNum blockIdx ++
        .int (sendOffset + sendBatchSize * t.hiddenSize) :: sendCopies sendBatchSize blockNum blockIdx n
      (sendRank + t.expertRankSize) (sendOffset + sendBatchSize * t.hiddenSize)

/-- The flag loop of `sendWithMte`. -/
def sendFlags : Nat → Nat → List Event
  | 0, _ => []
  | n + 1, sendRank => .signal sendRank (flagAddr 0) :: sendFlags n (sendRank + t.expertRankSize)

def sendWithMte (blockNum blockIdx : Nat) : List Event :=
  let sendRank := t.rank + t.expertRankSize
  let sendBatchSize := t.batchSize / t.attnToMoeRatio
  t.sendCopies sendBatchSize blockNum blockIdx t.attnToMoeRatio sendRank 0 ++
    .onChip ⟨0, 8⟩ :: t.sendFlags t.attnToMoeRatio sendRank

def recvWithMte (blockNum blockIdx : Nat) : List Event :=
  [.onChip ⟨0, 8⟩, .wait (magicWord (flagAddr 0)), .int (t.batchSize * t.hiddenSize)] ++
    copyGmToGmWithBlocks 2 ⟨.output t.rank .x, 0⟩ ⟨.window t.rank, 0⟩ (t.batchSize * t.hiddenSize)
    blockNum blockIdx

end E2ATilingData

/-- What core `blockIdx` of an E2A call does. -/
def e2aCore (t : E2ATilingData) (blockNum blockIdx : Nat) : List Event :=
  .onChip ⟨0, 32⟩ ::
    if t.rank < t.expertRankSize then t.sendWithMte blockNum blockIdx else t.recvWithMte blockNum blockIdx

/-- What the cores of an E2A call do. -/
def e2a (t : E2ATilingData) (blockNum : Nat) : List Event :=
  (List.range blockNum).flatMap (e2aCore t blockNum)

section E2A
variable {t : E2ATilingData} {blockNum : Nat}

/-- The slice of Attention rank `i`, of `size` elements. -/
def sendSlice (t : E2ATilingData) (size blockNum c sendRank sendOffset i : Nat) : List Event :=
  .int size :: copyGmToGmWithBlocks 2 ⟨.window (sendRank + i * t.expertRankSize), 0⟩
      ⟨.input t.rank .x, (sendOffset + i * size) * 2⟩ size blockNum c ++
    [.int (sendOffset + (i + 1) * size)]

theorem sendCopies_eq (sendBatchSize c n sendRank sendOffset : Nat) :
    t.sendCopies sendBatchSize blockNum c n sendRank sendOffset = (List.range n).flatMap
      (sendSlice t (sendBatchSize * t.hiddenSize) blockNum c sendRank sendOffset) := by
  induction n generalizing sendRank sendOffset with
  | zero => rfl
  | succ n ih =>
    have hnext : sendSlice t (sendBatchSize * t.hiddenSize) blockNum c (sendRank + t.expertRankSize)
        (sendOffset + sendBatchSize * t.hiddenSize) =
        fun i => sendSlice t (sendBatchSize * t.hiddenSize) blockNum c sendRank sendOffset (i + 1) := by
      funext i
      have hrank : sendRank + t.expertRankSize + i * t.expertRankSize =
          sendRank + (i + 1) * t.expertRankSize := by
        rw [Nat.succ_mul]
        omega
      have hoffset : ∀ j, sendOffset + sendBatchSize * t.hiddenSize + j * (sendBatchSize * t.hiddenSize) =
          sendOffset + (j + 1) * (sendBatchSize * t.hiddenSize) := by
        intro j
        rw [Nat.succ_mul]
        omega
      simp only [sendSlice, hrank, hoffset]
    rw [E2ATilingData.sendCopies, ih, hnext, List.range_succ_eq_map, List.flatMap_cons, List.flatMap_map]
    simp only [sendSlice, Nat.zero_mul, Nat.add_zero, Nat.zero_add, Nat.one_mul, List.cons_append,
      List.append_assoc, List.nil_append]

theorem moved_sendSlice (size c sendRank sendOffset i : Nat) :
    moved (sendSlice t size blockNum c sendRank sendOffset i) =
      moved (copyGmToGmWithBlocks 2 ⟨.window (sendRank + i * t.expertRankSize), 0⟩
        ⟨.input t.rank .x, (sendOffset + i * size) * 2⟩ size blockNum c) := by
  simp [sendSlice, Event.bytes]

theorem moved_sendFlags (n sendRank : Nat) : moved (t.sendFlags n sendRank) = [] := by
  induction n generalizing sendRank with
  | zero => rfl
  | succ n ih => exact ih _

/-- An expert rank moves a slice of its rows to each of its Attention ranks. -/
theorem moved_e2a_send (hrank : t.rank < t.expertRankSize) (hcores : 0 < blockNum) :
    (moved (e2a t blockNum)).Perm ((List.range t.attnToMoeRatio).flatMap fun i =>
      (List.range (t.batchSize / t.attnToMoeRatio * t.hiddenSize * 2)).map fun j =>
        (⟨.input t.rank .x, i * (t.batchSize / t.attnToMoeRatio * t.hiddenSize * 2) + j⟩,
          ⟨.window (t.rank + (i + 1) * t.expertRankSize), j⟩)) := by
  have hcore : ∀ c, moved (e2aCore t blockNum c) = (List.range t.attnToMoeRatio).flatMap fun i =>
      moved (copyGmToGmWithBlocks 2 ⟨.window (t.rank + t.expertRankSize + i * t.expertRankSize), 0⟩
        ⟨.input t.rank .x, (0 + i * (t.batchSize / t.attnToMoeRatio * t.hiddenSize)) * 2⟩
        (t.batchSize / t.attnToMoeRatio * t.hiddenSize) blockNum c) := by
    intro c
    have hcons : ∀ r l, moved (.onChip r :: l) = moved l := fun _ _ => rfl
    rw [e2aCore, hcons, if_pos hrank, E2ATilingData.sendWithMte, moved_append, hcons, moved_sendFlags,
      List.append_nil, sendCopies_eq, moved_flatMap]
    simp only [moved_sendSlice]
  rw [e2a, moved_flatMap]
  simp only [hcore]
  apply (flatMap_swap_perm _ _ _).trans
  apply List.Perm.flatMap_left
  intro i _
  rw [moved_copyGmToGmWithBlocks (by decide) hcores]
  apply List.Perm.of_eq
  apply List.map_congr_left
  intro j _
  have hrank : t.rank + t.expertRankSize + i * t.expertRankSize = t.rank + (i + 1) * t.expertRankSize := by
    rw [Nat.succ_mul]
    omega
  simp [Address.add, Nat.mul_assoc, hrank]

/-- An Attention rank moves its whole batch to its output. -/
theorem moved_e2a_recv (hrank : t.expertRankSize ≤ t.rank) (hcores : 0 < blockNum) :
    moved (e2a t blockNum) = (List.range (t.batchSize * t.hiddenSize * 2)).map fun j =>
      (⟨.window t.rank, j⟩, ⟨.output t.rank .x, j⟩) := by
  have hcore : ∀ c, moved (e2aCore t blockNum c) = moved (copyGmToGmWithBlocks 2 ⟨.output t.rank .x, 0⟩
      ⟨.window t.rank, 0⟩ (t.batchSize * t.hiddenSize) blockNum c) := by
    intro c
    have hcons : ∀ r l, moved (.onChip r :: l) = moved l := fun _ _ => rfl
    rw [e2aCore, hcons, if_neg (not_lt.2 hrank), E2ATilingData.recvWithMte, moved_append]
    rfl
  rw [e2a, moved_flatMap]
  simp only [hcore]
  rw [moved_copyGmToGmWithBlocks (by decide) hcores]
  apply List.map_congr_left
  intro j _
  simp [Address.add]

end E2A

end AfdPlugin.Kernels
