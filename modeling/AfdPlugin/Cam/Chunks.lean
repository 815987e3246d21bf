import Mathlib.Algebra.BigOperators.Intervals
import Mathlib.Tactic
/-!
# Chunk selection of the Async CAM receive

A MoE rank receives the assignments of a TP group in chunks of whole experts.
Each call of dispatch-recv takes the first experts that are still pending and
together fit the receive capacity, and marks them read; when the next pending
expert does not fit alone, the call takes its error return.
-/

namespace AfdPlugin.Cam

/-- What the selection loop has found so far. -/
structure Selection where
  startExpert : Nat
  endExpert : Nat
  foundExpert : Bool
  tokenCnt : Nat
  deriving DecidableEq, Repr

/-- The selection loop over the `n` experts from `i`. -/
def selectFrom (maxTokenNum : Nat) (chunkFlag tpCount : Nat → Nat) : Nat → Nat → Selection → Selection
  | _, 0, s => s
  | i, n + 1, s =>
    if chunkFlag i = 0 then
      -- `tokenCnt` and the counts are `uint32_t`
      let tokenCnt := (s.tokenCnt + tpCount i) % 2 ^ 32
      if tokenCnt ≤ maxTokenNum then
        selectFrom maxTokenNum chunkFlag tpCount (i + 1) n
          ⟨if s.foundExpert then s.startExpert else i, i, true, tokenCnt⟩
      else s
    else selectFrom maxTokenNum chunkFlag tpCount (i + 1) n s

/-- First and last expert of the chunk a call takes; `none` is the error return. -/
def selectChunk (expertNumPerMoe maxTokenNum : Nat) (chunkFlag tpCount : Nat → Nat) : Option (Nat × Nat) :=
  let s := selectFrom maxTokenNum chunkFlag tpCount 0 expertNumPerMoe ⟨expertNumPerMoe,
    expertNumPerMoe, false, 0⟩
  if s.foundExpert then some (s.startExpert, s.endExpert) else none

/-- The chunk flags after a chunk that ends at `endExpert`. -/
def markRead (chunkFlag : Nat → Nat) (endExpert : Nat) : Nat → Nat :=
  fun i => if i ≤ endExpert then 1 else chunkFlag i

/-- The chunk flags when the first `d` experts are read. -/
def readFlags (d : Nat) : Nat → Nat := fun i => if i < d then 1 else 0

theorem readFlags_zero : readFlags 0 = fun _ => 0 := by
  funext i
  simp [readFlags]

theorem readFlags_eq_zero {d i : Nat} : readFlags d i = 0 ↔ d ≤ i := by
  unfold readFlags
  split <;> omega

theorem markRead_readFlags {d e : Nat} (h : d ≤ e + 1) : markRead (readFlags d) e = readFlags (e + 1) := by
  funext i
  simp only [markRead, readFlags, Nat.lt_succ_iff]
  split
  · rfl
  · exact if_neg (by omega)

/-! ## What a call selects -/

section Select
variable (maxTokenNum : Nat) (tpCount : Nat → Nat)

/-- Once an expert is found, the loop only moves the end. -/
theorem selectFrom_found (chunkFlag : Nat → Nat) (n i : Nat) {s : Selection} (hs : s.foundExpert = true)
    (hi : s.endExpert < i) :
    (selectFrom maxTokenNum chunkFlag tpCount i n s).foundExpert = true ∧
      (selectFrom maxTokenNum chunkFlag tpCount i n s).startExpert = s.startExpert ∧
      s.endExpert ≤ (selectFrom maxTokenNum chunkFlag tpCount i n s).endExpert ∧
      (selectFrom maxTokenNum chunkFlag tpCount i n s).endExpert < i + n := by
  induction n generalizing i s with
  | zero => exact ⟨hs, rfl, le_rfl, by simpa [selectFrom] using hi⟩
  | succ n ih =>
    unfold selectFrom
    split
    · simp only
      split
      · have h := @ih (i + 1) ⟨s.startExpert, i, true, (s.tokenCnt + tpCount i) % 2 ^ 32⟩
          rfl (Nat.lt_succ_self i)
        exact ⟨h.1, h.2.1, hi.le.trans h.2.2.1, by have := h.2.2.2; omega⟩
      · exact ⟨hs, rfl, le_rfl, by omega⟩
    · have h := @ih (i + 1) s hs (by omega)
      exact ⟨h.1, h.2.1, h.2.2.1, by have := h.2.2.2; omega⟩

/-- Experts already read are passed over. -/
theorem selectFrom_readFlags {d : Nat} (n i : Nat) (s : Selection) (hi : i ≤ d) :
    selectFrom maxTokenNum (readFlags d) tpCount i (d - i + n) s =
      selectFrom maxTokenNum (readFlags d) tpCount d n s := by
  induction hk : d - i generalizing i with
  | zero => rw [Nat.zero_add, show i = d by omega]
  | succ k ih =>
    have hflag : readFlags d i ≠ 0 := by
      rw [Ne, readFlags_eq_zero]
      omega
    rw [Nat.succ_add, selectFrom, if_neg hflag]
    exact ih (i + 1) (by omega) (by omega)

/-- With the first `d` experts read, a call takes a run of experts from `d`
when expert `d` fits the capacity, and fails when it does not. -/
theorem selectChunk_readFlags {R d : Nat} (hd : d < R) :
    (tpCount d % 2 ^ 32 ≤ maxTokenNum ∧
        ∃ e, selectChunk R maxTokenNum (readFlags d) tpCount = some (d, e) ∧ d ≤ e ∧ e < R) ∨
      (maxTokenNum < tpCount d % 2 ^ 32 ∧ selectChunk R maxTokenNum (readFlags d) tpCount = none) := by
  have hskip := selectFrom_readFlags maxTokenNum tpCount (R - d) 0 ⟨R, R, false, 0⟩
    (Nat.zero_le d)
  rw [show d - 0 + (R - d) = R by omega, show R - d = (R - d - 1) + 1 by omega, selectFrom,
    if_pos (readFlags_eq_zero.2 le_rfl)] at hskip
  simp only [Nat.zero_add] at hskip
  unfold selectChunk
  simp only [hskip]
  split
  · rename_i hfit
    have h := selectFrom_found maxTokenNum tpCount (readFlags d) (R - d - 1) (d + 1)
      (s := ⟨d, d, true, tpCount d % 2 ^ 32⟩) rfl (Nat.lt_succ_self d)
    simp only [Bool.false_eq_true, if_false]
    refine .inl ⟨hfit, _, ?_, h.2.2.1, ?_⟩
    · rw [if_pos h.1, h.2.1]
    · have := h.2.2.2
      omega
  · rename_i hfit
    exact .inr ⟨not_le.1 hfit, by simp⟩

variable {maxTokenNum tpCount}

/-- The loop goes on while the sum fits. -/
theorem selectFrom_run {R d e : Nat} (he : e < R)
    (hfit : ∑ i ∈ Finset.Ico d (e + 1), tpCount i ≤ maxTokenNum)
    (hwrap : maxTokenNum + tpCount (e + 1) < 2 ^ 32)
    (hstop : e + 1 = R ∨ maxTokenNum < ∑ i ∈ Finset.Ico d (e + 2), tpCount i) (n i : Nat)
    (hn : i + n = R) (hd : d < i) (hi : i ≤ e + 1) :
    selectFrom maxTokenNum (readFlags d) tpCount i n ⟨d, i - 1, true, ∑ i ∈ Finset.Ico d i, tpCount i⟩ =
      ⟨d, e, true, ∑ i ∈ Finset.Ico d (e + 1), tpCount i⟩ := by
  induction n generalizing i with
  | zero =>
    obtain rfl : i = e + 1 := by omega
    rfl
  | succ n ih =>
    have hsum : ∑ i ∈ Finset.Ico d i, tpCount i + tpCount i = ∑ i ∈ Finset.Ico d (i + 1), tpCount i :=
      (Finset.sum_Ico_succ_top hd.le tpCount).symm
    rw [selectFrom, if_pos (readFlags_eq_zero.2 hd.le)]
    dsimp only
    rw [hsum]
    rcases Nat.lt_or_ge e i with hlt | hle
    · -- the expert after the last one that fits
      obtain rfl : i = e + 1 := by omega
      have hover : maxTokenNum < ∑ i ∈ Finset.Ico d (e + 1 + 1), tpCount i := hstop.resolve_left (by omega)
      rw [Nat.mod_eq_of_lt (by omega), if_neg (not_le.2 hover)]
      rfl
    · have hle' : ∑ i ∈ Finset.Ico d (i + 1), tpCount i ≤ ∑ i ∈ Finset.Ico d (e + 1), tpCount i :=
        Finset.sum_le_sum_of_subset (Finset.Ico_subset_Ico_right (by omega))
      rw [Nat.mod_eq_of_lt (by omega), if_pos (hle'.trans hfit)]
      exact ih (i + 1) (by omega) (by omega) (by omega)

/-- A call takes the longest run of pending experts that fits. -/
theorem selectChunk_eq_some {R d e : Nat} (hde : d ≤ e) (he : e < R)
    (hfit : ∑ i ∈ Finset.Ico d (e + 1), tpCount i ≤ maxTokenNum)
    (hwrap : maxTokenNum + tpCount (e + 1) < 2 ^ 32)
    (hstop : e + 1 = R ∨ maxTokenNum < ∑ i ∈ Finset.Ico d (e + 2), tpCount i) :
    selectChunk R maxTokenNum (readFlags d) tpCount = some (d, e) := by
  have hskip := selectFrom_readFlags maxTokenNum tpCount (R - d) 0 ⟨R, R, false, 0⟩ (Nat.zero_le d)
  have hfirst : ∑ i ∈ Finset.Ico d (d + 1), tpCount i = tpCount d := by simp
  have hle : tpCount d ≤ maxTokenNum := by
    rw [← hfirst]
    exact (Finset.sum_le_sum_of_subset (Finset.Ico_subset_Ico_right (by omega))).trans hfit
  rw [show d - 0 + (R - d) = R by omega, show R - d = (R - d - 1) + 1 by omega, selectFrom,
    if_pos (readFlags_eq_zero.2 le_rfl)] at hskip
  dsimp only at hskip
  rw [Nat.zero_add, Nat.mod_eq_of_lt (by omega), if_pos hle] at hskip
  have hrun := selectFrom_run he hfit hwrap hstop (R - d - 1) (d + 1) (by omega)
    (Nat.lt_succ_self d) (by omega)
  rw [hfirst, Nat.add_sub_cancel] at hrun
  simp only [Bool.false_eq_true, if_false] at hskip
  rw [hrun] at hskip
  rw [selectChunk, hskip]
  rfl

end Select

/-! ## Whole rounds -/

/-- The chunk flags a MoE rank can find when it calls dispatch-recv: cleared by
the senders, or left by a call that did not take the last expert. -/
inductive Pending (R maxTokenNum : Nat) (tpCount : Nat → Nat) : (Nat → Nat) → Prop
  | fresh : Pending R maxTokenNum tpCount fun _ => 0
  | next {chunkFlag : Nat → Nat} {s e : Nat} (h : Pending R maxTokenNum tpCount chunkFlag)
      (hsel : selectChunk R maxTokenNum chunkFlag tpCount = some (s, e)) (hlast : e ≠ R - 1) :
      Pending R maxTokenNum tpCount (markRead chunkFlag e)

/-- Every call of the round takes a chunk of at least one expert. -/
def NeverStalls (R maxTokenNum : Nat) (tpCount : Nat → Nat) : Prop :=
  ∀ chunkFlag, Pending R maxTokenNum tpCount chunkFlag →
    ∃ s e, selectChunk R maxTokenNum chunkFlag tpCount = some (s, e) ∧ s ≤ e ∧ e < R

/-- Pending flags mark the experts before some `d`. -/
theorem Pending.eq_readFlags {R maxTokenNum : Nat} {tpCount chunkFlag : Nat → Nat} (hR : 0 < R)
    (h : Pending R maxTokenNum tpCount chunkFlag) : ∃ d < R, chunkFlag = readFlags d := by
  induction h with
  | fresh => exact ⟨0, hR, readFlags_zero.symm⟩
  | @next chunkFlag s e _ hsel hlast ih =>
    obtain ⟨d, hd, rfl⟩ := ih
    rcases selectChunk_readFlags maxTokenNum tpCount hd with
      ⟨-, e', he', hde, heR⟩ | ⟨-, hnone⟩
    · obtain ⟨-, rfl⟩ := Prod.mk.inj (Option.some.inj (hsel.symm.trans he'))
      exact ⟨e + 1, by omega, markRead_readFlags (by omega)⟩
    · rw [hnone] at hsel
      cases hsel

/-- A capacity that holds each expert never stalls. -/
theorem neverStalls_of_le {R maxTokenNum : Nat} {tpCount : Nat → Nat} (hR : 0 < R)
    (h : ∀ i < R, tpCount i ≤ maxTokenNum) : NeverStalls R maxTokenNum tpCount := by
  intro chunkFlag hpending
  obtain ⟨d, hd, rfl⟩ := hpending.eq_readFlags hR
  rcases selectChunk_readFlags maxTokenNum tpCount hd with ⟨-, e, he⟩ | ⟨hlt, -⟩
  · exact ⟨d, e, he⟩
  · have := Nat.mod_le (tpCount d) (2 ^ 32)
    have := h d hd
    omega

/-- A first expert that does not fit stalls the first call. -/
theorem not_neverStalls_of_lt {R maxTokenNum : Nat} {tpCount : Nat → Nat} (hR : 0 < R)
    (h : maxTokenNum < tpCount 0 % 2 ^ 32) :
    selectChunk R maxTokenNum (fun _ => 0) tpCount = none ∧ ¬ NeverStalls R maxTokenNum tpCount := by
  have hnone : selectChunk R maxTokenNum (fun _ => 0) tpCount = none := by
    rcases selectChunk_readFlags maxTokenNum tpCount hR with ⟨hle, -⟩ | ⟨-, hnone⟩
    · omega
    · rwa [readFlags_zero] at hnone
  refine ⟨hnone, fun hstall => ?_⟩
  obtain ⟨s, e, hsel, -⟩ := hstall _ .fresh
  rw [hnone] at hsel
  cases hsel

end AfdPlugin.Cam
