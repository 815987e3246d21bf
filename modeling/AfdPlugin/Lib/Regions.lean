import AfdPlugin.Lib.Rungs
/-!
# Byte regions

Byte ranges of a memory window, families of ranges that do not overlap, and the
machine arithmetic that sizes are computed with.
-/

namespace AfdPlugin

/-- The bytes from `start` on, `size` of them. -/
structure Region where
  start : Nat
  size : Nat
  deriving DecidableEq, Repr

namespace Region

def stop (r : Region) : Nat := r.start + r.size

/-- No byte in common. -/
def Disjoint (r s : Region) : Prop := r.size = 0 ∨ s.size = 0 ∨ r.stop ≤ s.start ∨ s.stop ≤ r.start

instance (r s : Region) : Decidable (r.Disjoint s) := by unfold Disjoint; infer_instance

theorem Disjoint.symm {r s : Region} (h : r.Disjoint s) : s.Disjoint r := by
  unfold Disjoint at h ⊢
  tauto

theorem disjoint_of_le {r s : Region} (h : r.stop ≤ s.start) : r.Disjoint s := .inr (.inr (.inl h))

/-- Disjoint ranges with bytes, the first of which starts before the other
ends, come in this order. -/
theorem Disjoint.stop_le {r s : Region} (h : r.Disjoint s) (hr : 0 < r.size) (hs : 0 < s.size)
    (hlt : r.start < s.stop) : r.stop ≤ s.start := by
  unfold Disjoint at h
  omega

end Region

/-- Ranges of a window of `size` bytes, one for each valid index: all inside,
and no two with different indices overlap. -/
structure LaidOut {ι : Type} (valid : ι → Prop) (region : ι → Region) (size : Nat) : Prop where
  inside : ∀ i, valid i → (region i).stop ≤ size
  disjoint : ∀ i j, valid i → valid j → i ≠ j → (region i).Disjoint (region j)

/-! ## Machine arithmetic -/

/-- Conversion to `uint16_t`. -/
def u16 (n : Nat) : Nat := n % 2 ^ 16

/-- Conversion to `uint32_t`. -/
def u32 (n : Nat) : Nat := n % 2 ^ 32

/-- Conversion to `uint64_t`. -/
def u64 (n : Nat) : Nat := n % 2 ^ 64

theorem u16_of_lt {n : Nat} (h : n < 2 ^ 16) : u16 n = n := Nat.mod_eq_of_lt h

theorem u32_of_lt {n : Nat} (h : n < 2 ^ 32) : u32 n = n := Nat.mod_eq_of_lt h

theorem u64_of_lt {n : Nat} (h : n < 2 ^ 64) : u64 n = n := Nat.mod_eq_of_lt h

theorem u32_lt (n : Nat) : u32 n < 2 ^ 32 := Nat.mod_lt n (by decide)

theorem roundUp_32 (n : Nat) : roundUp 32 n = (n + 31) / 32 * 32 := by
  rw [roundUp, Nat.ceilDiv_eq_add_pred_div]
  rfl

/-- Both ways to align up in 32 bits: `(n + align - 1) / align * align` and
`align * (n / align + (n % align == 0 ? 0 : 1))`. -/
def ceilAdd (n align : Nat) : Nat := u32 (u32 n + align - 1) / align * align

@[inherit_doc ceilAdd] def ceilRem (n align : Nat) : Nat :=
  u32 (align * (u32 n / align + if u32 n % align = 0 then 0 else 1))

theorem ceilAdd_eq_ceilRem (n : Nat) : ceilAdd n 32 = ceilRem n 32 := by
  unfold ceilAdd ceilRem u32
  split <;> omega

theorem ceilRem_of_le {n : Nat} (h : n ≤ 2 ^ 32 - 32) : ceilRem n 32 = roundUp 32 n := by
  rw [← ceilAdd_eq_ceilRem, roundUp_32, ceilAdd, u32_of_lt (n := n) (by omega), u32_of_lt (by omega)]
  rfl

/-- Room for `n` bytes is enough only when nothing was truncated. -/
theorem le_ceilRem_iff {n : Nat} : n ≤ ceilRem n 32 ↔ n ≤ 2 ^ 32 - 32 := by
  constructor
  · intro h
    unfold ceilRem u32 at h
    split at h <;> omega
  · intro h
    rw [ceilRem_of_le h]
    exact le_roundUp (by decide) n

theorem ceilRem_lt (n : Nat) : ceilRem n 32 < 2 ^ 32 := u32_lt _

theorem ceilRem_mod (n : Nat) : ceilRem n 32 % 32 = 0 := by
  unfold ceilRem u32
  omega

end AfdPlugin
