import AfdPlugin.Lib.Blocks
import AfdPlugin.Lib.Regions
/-!
# Copies through the unified buffer

What the cores of the A2E and E2A kernels do, as a trace of events, and the
copy helpers the kernels share. A copy between two places of global memory goes
through two halves of the core's unified buffer; `copyGmToGmWithBlocks` splits it
over cores.
-/

namespace AfdPlugin.Kernels

/-! ## Events of a core -/

/-- What an A2E call transports. -/
inductive Channel
  | ids
  | scales
  | x
  deriving DecidableEq, Repr

/-- Global memory: the tensors of the call on a rank, and the data area of a
rank's window. -/
inductive Buffer
  | input (rank : Nat) (channel : Channel)
  | window (rank : Nat)
  | output (rank : Nat) (channel : Channel)
  deriving DecidableEq, Repr

/-- A byte of global memory. -/
structure Address where
  buffer : Buffer
  offset : Nat
  deriving DecidableEq, Repr

def Address.add (a : Address) (n : Nat) : Address := ⟨a.buffer, a.offset + n⟩

@[simp] theorem Address.add_buffer (a : Address) (n : Nat) : (a.add n).buffer = a.buffer := rfl

@[simp] theorem Address.add_offset (a : Address) (n : Nat) : (a.add n).offset = a.offset + n := rfl

theorem Address.add_add (a : Address) (m n : Nat) : (a.add m).add n = a.add (m + n) := by
  simp [Address.add, Nat.add_assoc]

/-- What a core does: it computes a value in an `int`, divides, uses bytes of the
unified buffer, moves bytes of global memory, writes a flag of a rank or waits
on a word of its own rank's flags. -/
inductive Event
  | int (value : Nat)
  | divide (divisor : Nat)
  | onChip (region : Region)
  | move (src dst : Address) (size : Nat)
  | signal (rank flag : Nat)
  | wait (addr : Nat)
  deriving DecidableEq, Repr

/-- `UB_SINGLE_TOTAL_SIZE_MAX` -/
def ubSingleTotalSizeMax : Nat := 192 * 1024

/-- The value fits the `int`, the division is one, the bytes are reserved. -/
def Event.Safe : Event → Prop
  | .int value => value < 2 ^ 31
  | .divide divisor => 0 < divisor
  | .onChip region => region.stop ≤ ubSingleTotalSizeMax
  | _ => True

/-- The bytes an event moves, each as source and destination. -/
def Event.bytes : Event → List (Address × Address)
  | .move src dst size => (List.range size).map fun j => (src.add j, dst.add j)
  | _ => []

/-- The bytes a trace moves. -/
def moved (trace : List Event) : List (Address × Address) := trace.flatMap Event.bytes

@[simp] theorem moved_nil : moved [] = [] := rfl

@[simp] theorem moved_cons (e : Event) (trace : List Event) :
    moved (e :: trace) = e.bytes ++ moved trace := rfl

@[simp] theorem moved_append (l l' : List Event) : moved (l ++ l') = moved l ++ moved l' :=
  List.flatMap_append

theorem moved_flatMap {ι : Type} (l : List ι) (f : ι → List Event) :
    moved (l.flatMap f) = l.flatMap fun i => moved (f i) :=
  List.flatMap_assoc

/-- The bytes of a family of traces, taken along either of two indices. -/
theorem flatMap_swap_perm {ι κ β : Type} (l : List ι) (m : List κ) (f : ι → κ → List β) :
    (l.flatMap fun a => m.flatMap (f a)).Perm (m.flatMap fun b => l.flatMap fun a => f a b) := by
  induction l with
  | nil => simp
  | cons a l ih =>
    rw [List.flatMap_cons]
    simp only [List.flatMap_cons]
    exact (ih.append_left _).trans (List.flatMap_append_perm m _ _)

/-- The flags a trace writes, each with its rank. -/
def signals (trace : List Event) : List (Nat × Nat) :=
  trace.filterMap fun e => match e with
    | .signal rank flag => some (rank, flag)
    | _ => none

/-- The words a trace waits on. -/
def waits (trace : List Event) : List Nat :=
  trace.filterMap fun e => match e with
    | .wait addr => some addr
    | _ => none

@[simp] theorem signals_append (l l' : List Event) : signals (l ++ l') = signals l ++ signals l' :=
  List.filterMap_append

@[simp] theorem waits_append (l l' : List Event) : waits (l ++ l') = waits l ++ waits l' :=
  List.filterMap_append

theorem signals_flatMap {ι : Type} (l : List ι) (f : ι → List Event) :
    signals (l.flatMap f) = l.flatMap fun i => signals (f i) := List.filterMap_flatMap

theorem waits_flatMap {ι : Type} (l : List ι) (f : ι → List Event) :
    waits (l.flatMap f) = l.flatMap fun i => waits (f i) := List.filterMap_flatMap

/-! ## Through the unified buffer -/

/-- `UB_SINGLE_PING_PONG_ADD_SIZE_MAX` -/
def ubBlockSize : Nat := 190 * 1024 / 2

def ubHeadOffset : Nat := 96

def ubMidOffset : Nat := ubHeadOffset + ubBlockSize + 32

/-- The loop of `CpGM2GMPingPong` from pass `i`, for elements of `sizeofT` bytes. -/
def pingPongFrom (sizeofT : Nat) (src dst : Address) (i offsetNum dataSizeRemain : Nat) : List Event :=
  if dataSizeRemain = 0 then []
  else
    let size := if dataSizeRemain > ubBlockSize then ubBlockSize else dataSizeRemain
    [.onChip ⟨if i % 2 = 1 then ubHeadOffset else ubMidOffset, size⟩,
      .move (src.add (offsetNum * sizeofT)) (dst.add (offsetNum * sizeofT)) size] ++
      pingPongFrom sizeofT src dst (i + 1) (offsetNum + size / sizeofT) (dataSizeRemain - size)
termination_by dataSizeRemain
decreasing_by
  have hblock : 0 < ubBlockSize := by decide
  split <;> omega

def cpGM2GMPingPong (sizeofT dataSizeRemain : Nat) (src dst : Address) : List Event :=
  pingPongFrom sizeofT src dst 0 0 dataSizeRemain

section PingPong
variable {sizeofT : Nat} {src dst : Address}

/-- A pass takes whole elements, at least one. -/
theorem exists_pass (hdvd : sizeofT ∣ ubBlockSize) {len : Nat} (hlen : len ≠ 0) :
    ∃ m, 0 < m ∧ m ≤ len ∧ (if len * sizeofT > ubBlockSize then ubBlockSize else len * sizeofT) =
      m * sizeofT := by
  obtain ⟨block, hblock⟩ := hdvd
  rw [Nat.mul_comm] at hblock
  split
  · rename_i hlong
    rw [hblock] at hlong
    refine ⟨block, ?_, (Nat.lt_of_mul_lt_mul_right hlong).le, hblock⟩
    have hpos : 0 < block * sizeofT := by
      rw [← hblock]
      decide
    exact Nat.pos_of_mul_pos_right hpos
  · exact ⟨len, by omega, le_rfl, rfl⟩

theorem moved_pingPongFrom (hdvd : sizeofT ∣ ubBlockSize) (i offsetNum len : Nat) :
    moved (pingPongFrom sizeofT src dst i offsetNum (len * sizeofT)) =
      (List.range' (offsetNum * sizeofT) (len * sizeofT)).map fun j => (src.add j, dst.add j) := by
  have hpos : 0 < sizeofT := Nat.pos_of_dvd_of_pos hdvd (by decide)
  induction len using Nat.strong_induction_on generalizing i offsetNum with
  | _ len ih =>
    rw [pingPongFrom]
    by_cases hzero : len = 0
    · simp [hzero]
    obtain ⟨m, hm, hle, hsize⟩ := exists_pass hdvd hzero
    have hlen : len * sizeofT = m * sizeofT + (len - m) * sizeofT := by
      rw [← Nat.add_mul, Nat.add_sub_cancel' hle]
    have hfirst :
        (Event.move (src.add (offsetNum * sizeofT)) (dst.add (offsetNum * sizeofT))
          (m * sizeofT)).bytes = (List.range' (offsetNum * sizeofT) (m * sizeofT)).map fun j =>
        (src.add j, dst.add j) := by
      rw [Event.bytes, List.range'_eq_map_range, List.map_map]
      apply List.map_congr_left
      intro j _
      simp [Address.add_add]
    rw [if_neg (Nat.mul_ne_zero hzero hpos.ne')]
    dsimp only
    rw [hsize, Nat.mul_div_cancel _ hpos, ← Nat.sub_mul, moved_append, ih (len - m) (by omega),
      moved_cons, moved_cons, moved_nil, List.append_nil, hfirst, hlen, ← List.range'_append,
      List.map_append, Nat.one_mul, ← Nat.add_mul]
    rfl

/-- The copy moves each byte once, in order. -/
theorem moved_cpGM2GMPingPong (hdvd : sizeofT ∣ ubBlockSize) (len : Nat) :
    moved (cpGM2GMPingPong sizeofT (len * sizeofT) src dst) =
      (List.range (len * sizeofT)).map fun j => (src.add j, dst.add j) := by
  rw [cpGM2GMPingPong, moved_pingPongFrom hdvd, Nat.zero_mul, List.range_eq_range']

/-- The copy uses the two halves and moves bytes, and does nothing else. -/
theorem mem_pingPongFrom {i offsetNum dataSizeRemain : Nat} {e : Event}
    (h : e ∈ pingPongFrom sizeofT src dst i offsetNum dataSizeRemain) :
    (∃ start size, e = .onChip ⟨start, size⟩ ∧ start ≤ ubMidOffset ∧ size ≤ ubBlockSize) ∨
      ∃ src' dst' size, e = .move src' dst' size := by
  fun_induction pingPongFrom sizeofT src dst i offsetNum dataSizeRemain with
  | case1 => cases h
  | case2 i offsetNum remain hne size ih =>
    rw [List.mem_append] at h
    rcases h with h | h
    · simp only [List.mem_cons, List.not_mem_nil, or_false] at h
      rcases h with rfl | rfl
      · refine .inl ⟨_, _, rfl, ?_, ?_⟩
        · split <;> decide
        · change (if remain > ubBlockSize then ubBlockSize else remain) ≤ ubBlockSize
          split <;> omega
      · exact .inr ⟨_, _, _, rfl⟩
    · exact ih h

theorem cpGM2GMPingPong_safe {dataSizeRemain : Nat} {e : Event}
    (h : e ∈ cpGM2GMPingPong sizeofT dataSizeRemain src dst) :
    e.Safe := by
  rcases mem_pingPongFrom h with ⟨start, size, rfl, hstart, hsize⟩ | ⟨_, _, _, rfl⟩
  · have hmid : ubMidOffset + ubBlockSize ≤ ubSingleTotalSizeMax := by decide
    change start + size ≤ ubSingleTotalSizeMax
    omega
  · trivial

theorem signals_cpGM2GMPingPong (dataSizeRemain : Nat) :
    signals (cpGM2GMPingPong sizeofT dataSizeRemain src dst) = [] := by
  rw [signals, List.filterMap_eq_nil_iff]
  intro e he
  rcases mem_pingPongFrom he with ⟨_, _, rfl, -, -⟩ | ⟨_, _, _, rfl⟩ <;> rfl

theorem waits_cpGM2GMPingPong (dataSizeRemain : Nat) :
    waits (cpGM2GMPingPong sizeofT dataSizeRemain src dst) = [] := by
  rw [waits, List.filterMap_eq_nil_iff]
  intro e he
  rcases mem_pingPongFrom he with ⟨_, _, rfl, -, -⟩ | ⟨_, _, _, rfl⟩ <;> rfl

end PingPong

/-! ## Split over cores -/

def copyGmToGmWithBlocks (sizeofT : Nat) (dst src : Address) (elementNum usedBlockNum blockIdx : Nat) :
    List Event :=
  let elementPerBlock := (elementNum + usedBlockNum - 1) / usedBlockNum
  let copyOffset := elementPerBlock * blockIdx
  let copyLen := if elementNum - copyOffset < elementPerBlock then elementNum - copyOffset
    else elementPerBlock
  [.int (elementNum + usedBlockNum), .divide usedBlockNum, .int copyOffset] ++ if copyLen = 0 then
    [] else cpGM2GMPingPong sizeofT (copyLen * sizeofT) (src.add (copyOffset * sizeofT)) (dst.add
      (copyOffset * sizeofT))

section Blocks
variable {sizeofT : Nat} {src dst : Address} {elementNum usedBlockNum : Nat}

/-- Where the elements of core `c` start. -/
def copyBound (elementNum usedBlockNum c : Nat) : Nat :=
  min elementNum ((elementNum + usedBlockNum - 1) / usedBlockNum * c)

theorem copyBound_le_succ (c : Nat) :
    copyBound elementNum usedBlockNum c ≤ copyBound elementNum usedBlockNum (c + 1) :=
  min_le_min_left _ (Nat.mul_le_mul_left _ (Nat.le_succ c))

theorem copyBound_zero : copyBound elementNum usedBlockNum 0 = 0 := by simp [copyBound]

theorem copyBound_last (h : 0 < usedBlockNum) :
    copyBound elementNum usedBlockNum usedBlockNum = elementNum := by
  apply min_eq_left
  rw [← Nat.ceilDiv_eq_add_pred_div, Nat.mul_comm, ← smul_eq_mul]
  exact le_smul_ceilDiv h

theorem moved_copyGmToGmWithBlocks_core (hdvd : sizeofT ∣ ubBlockSize) (c : Nat) :
    moved (copyGmToGmWithBlocks sizeofT dst src elementNum usedBlockNum c) =
      (List.range' (copyBound elementNum usedBlockNum c * sizeofT)
        ((copyBound elementNum usedBlockNum (c + 1) - copyBound elementNum usedBlockNum c) * sizeofT)).map
        fun j => (src.add j, dst.add j) := by
  have hlen : copyBound elementNum usedBlockNum (c + 1) - copyBound elementNum usedBlockNum c =
      if elementNum - (elementNum + usedBlockNum - 1) / usedBlockNum * c <
      (elementNum + usedBlockNum - 1) / usedBlockNum then
      elementNum - (elementNum + usedBlockNum - 1) / usedBlockNum * c
      else (elementNum + usedBlockNum - 1) / usedBlockNum := by
    unfold copyBound
    rw [Nat.mul_succ]
    generalize (elementNum + usedBlockNum - 1) / usedBlockNum = per
    split <;> omega
  unfold copyGmToGmWithBlocks
  dsimp only
  rw [← hlen]
  split
  · rename_i hzero
    rw [hzero]
    simp [Event.bytes]
  · rename_i hne
    have hstart : copyBound elementNum usedBlockNum c =
        (elementNum + usedBlockNum - 1) / usedBlockNum * c := by
      unfold copyBound at hne ⊢
      omega
    rw [moved_append, moved_cpGM2GMPingPong hdvd, hstart, List.range'_eq_map_range, List.map_map]
    simp only [moved_cons, moved_nil, Event.bytes, List.nil_append, Address.add_add]
    rfl

/-- The cores together move each byte once. -/
theorem moved_copyGmToGmWithBlocks (hdvd : sizeofT ∣ ubBlockSize) (h : 0 < usedBlockNum) :
    ((List.range usedBlockNum).flatMap fun c =>
      moved (copyGmToGmWithBlocks sizeofT dst src elementNum usedBlockNum c)) =
      (List.range (elementNum * sizeofT)).map fun j => (src.add j, dst.add j) := by
  simp only [moved_copyGmToGmWithBlocks_core hdvd, Nat.sub_mul]
  have hblocks := Blocks.flatMap_block (b := fun c => copyBound elementNum usedBlockNum c * sizeofT)
    (n := usedBlockNum) fun c _ => Nat.mul_le_mul_right _ (copyBound_le_succ c)
  rw [copyBound_zero, copyBound_last h, Nat.zero_mul, Nat.sub_zero, ← List.range_eq_range'] at hblocks
  rw [← hblocks, List.map_flatMap]
  rfl

theorem mem_copyGmToGmWithBlocks {c : Nat} {e : Event}
    (he : e ∈ copyGmToGmWithBlocks sizeofT dst src elementNum usedBlockNum c) :
    (e = .int (elementNum + usedBlockNum) ∨ e = .divide usedBlockNum ∨
        e = .int ((elementNum + usedBlockNum - 1) / usedBlockNum * c)) ∨
      ∃ size src' dst', e ∈ cpGM2GMPingPong sizeofT size src' dst' := by
  rw [copyGmToGmWithBlocks, List.mem_append] at he
  apply he.imp
  · simp
  · intro he
    by_cases hzero :
      (if elementNum - (elementNum + usedBlockNum - 1) / usedBlockNum * c <
        (elementNum + usedBlockNum - 1) / usedBlockNum then
        elementNum - (elementNum + usedBlockNum - 1) / usedBlockNum * c
        else (elementNum + usedBlockNum - 1) / usedBlockNum) = 0
    · rw [if_pos hzero] at he
      cases he
    · rw [if_neg hzero] at he
      exact ⟨_, _, _, he⟩

/-- A core's part is safe exactly when the sum in `ceil` fits. -/
theorem copyGmToGmWithBlocks_safe {c : Nat} (hc : c < usedBlockNum) :
    (∀ e ∈ copyGmToGmWithBlocks sizeofT dst src elementNum usedBlockNum c, e.Safe) ↔
      elementNum + usedBlockNum < 2 ^ 31 := by
  constructor
  · intro h
    exact h (.int (elementNum + usedBlockNum)) (by simp [copyGmToGmWithBlocks])
  intro hfit e he
  rcases mem_copyGmToGmWithBlocks he with (rfl | rfl | rfl) | ⟨_, _, _, he⟩
  · exact hfit
  · exact Nat.zero_lt_of_lt hc
  · -- the offset is at most `ceil` times the other cores
    have hmul := Nat.div_mul_le_self (elementNum + usedBlockNum - 1) usedBlockNum
    have hle := Nat.mul_le_mul_left ((elementNum + usedBlockNum - 1) / usedBlockNum) hc.le
    exact lt_of_le_of_lt (hle.trans hmul) (by omega)
  · exact cpGM2GMPingPong_safe he

theorem signals_copyGmToGmWithBlocks (c : Nat) :
    signals (copyGmToGmWithBlocks sizeofT dst src elementNum usedBlockNum c) = [] := by
  rw [signals, List.filterMap_eq_nil_iff]
  intro e he
  rcases mem_copyGmToGmWithBlocks he with (rfl | rfl | rfl) | ⟨_, _, _, he⟩
  · rfl
  · rfl
  · rfl
  · exact List.filterMap_eq_nil_iff.1 (signals_cpGM2GMPingPong _) e he

theorem waits_copyGmToGmWithBlocks (c : Nat) :
    waits (copyGmToGmWithBlocks sizeofT dst src elementNum usedBlockNum c) = [] := by
  rw [waits, List.filterMap_eq_nil_iff]
  intro e he
  rcases mem_copyGmToGmWithBlocks he with (rfl | rfl | rfl) | ⟨_, _, _, he⟩
  · rfl
  · rfl
  · rfl
  · exact List.filterMap_eq_nil_iff.1 (waits_cpGM2GMPingPong _) e he

end Blocks

end AfdPlugin.Kernels
