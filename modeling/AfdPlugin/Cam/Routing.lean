import AfdPlugin.Lib.Placement
/-!
# Routing of a batch

An Attention rank routes each token of its batch to `topk` experts; expert
`m * R + i` is local expert `i` of MoE rank `m`. The token's row goes to a MoE
rank once, whatever number of its experts are there; each assignment gets a slot
of its MoE rank, ordered by expert and then by position.
-/

namespace AfdPlugin.Cam

/-- Sizes that the four kernels share, as the hosts check them. -/
structure CamShape where
  attnRankNum : Nat
  moeRankNum : Nat
  /-- Routed experts of a MoE rank. -/
  expertNumPerMoe : Nat
  tpSize : Nat
  topk : Nat
  /-- Cores of an Attention and of a MoE device. -/
  attnAivNum : Nat
  moeAivNum : Nat
  /-- Receive capacity in rows. -/
  maxTokenNum : Nat
  /-- Rows that combine-send can stage. -/
  maxUbTokenNum : Nat
  /-- Whether dispatch-send has room to stage the prefixes of its columns. -/
  stagesPrefix : Bool
  moeRankNum_pos : 0 < moeRankNum
  expertNumPerMoe_pos : 0 < expertNumPerMoe
  tpSize_pos : 0 < tpSize
  tpSize_dvd : tpSize ∣ attnRankNum
  topk_pos : 0 < topk
  attnAivNum_pos : 0 < attnAivNum
  moeAivNum_pos : 0 < moeAivNum
  maxUbTokenNum_pos : 0 < maxUbTokenNum

def CamShape.expertNum (sh : CamShape) : Nat := sh.expertNumPerMoe * sh.moeRankNum

/-- What an Attention rank hands to dispatch-send and combine-recv. The tables
are row-major: entry `t * topk + k` belongs to slot `k` of token `t`. -/
structure Batch (V S : Type) where
  batchSize : Nat
  x : Nat → V
  expertIds : Nat → Nat
  expertScales : Nat → S

section Routing
variable {V S : Type} (sh : CamShape) (b : Batch V S)

/-- Entries of the routing table. -/
def Batch.assignments : Nat := b.batchSize * sh.topk

structure Batch.Valid : Prop where
  batchSize_pos : 0 < b.batchSize
  expertIds_lt : ∀ p < b.assignments sh, b.expertIds p < sh.expertNum

/-- Assignments to an expert. -/
def Batch.expertTokenNum (e : Nat) : Nat := occurrences b.expertIds e (b.assignments sh)

/-- Assignments to each local expert of MoE rank `m`. -/
def Batch.localCounts (m i : Nat) : Nat := b.expertTokenNum sh (sh.expertNumPerMoe * m + i)

/-- Assignments to MoE rank `m`. -/
def Batch.moeTokenNum (m : Nat) : Nat := prefixSum (b.localCounts sh m) sh.expertNumPerMoe

/-- Assignments to the MoE ranks before `m`. -/
def Batch.moePrefix (m : Nat) : Nat := prefixSum (b.moeTokenNum sh) m

def Batch.moeRank (p : Nat) : Nat := b.expertIds p / sh.expertNumPerMoe

def Batch.localExpert (p : Nat) : Nat := b.expertIds p % sh.expertNumPerMoe

/-- The entries of token `t` before `p` name an expert of MoE rank `m`. -/
def Batch.NamedBefore (m t p : Nat) : Prop := ∃ q < p, t * sh.topk ≤ q ∧ b.moeRank sh q = m

instance (m t p : Nat) : Decidable (b.NamedBefore sh m t p) := by unfold Batch.NamedBefore; infer_instance

/-- Token `t` is routed to MoE rank `m`. -/
def Batch.Routed (m t : Nat) : Prop := b.NamedBefore sh m t ((t + 1) * sh.topk)

instance (m : Nat) : DecidablePred (b.Routed sh m) := fun t => by unfold Batch.Routed; infer_instance

/-- Tokens before `t` that are routed to MoE rank `m`. -/
def Batch.moeTokens (m t : Nat) : Nat := Nat.count (b.Routed sh m) t

/-- Slots of MoE rank `m` before local expert `i`. -/
def Batch.expertPrefix (m i : Nat) : Nat := prefixSum (b.localCounts sh m) i

/-- The slot of an assignment at its MoE rank. -/
def Batch.slot (p : Nat) : Nat :=
  b.expertPrefix sh (b.moeRank sh p) (b.localExpert sh p) + occurrences b.expertIds (b.expertIds p) p

end Routing

/-! ## Facts about slots -/

section Facts
variable {V S : Type} {sh : CamShape} {b : Batch V S}

theorem expertIds_eq (p : Nat) :
    b.expertIds p = sh.expertNumPerMoe * b.moeRank sh p + b.localExpert sh p := (Nat.div_add_mod _ _).symm

theorem localExpert_lt (p : Nat) : b.localExpert sh p < sh.expertNumPerMoe :=
  Nat.mod_lt _ sh.expertNumPerMoe_pos

theorem moeRank_lt (h : b.Valid sh) {p : Nat} (hp : p < b.assignments sh) :
    b.moeRank sh p < sh.moeRankNum :=
  Nat.div_lt_of_lt_mul (h.expertIds_lt p hp)

/-- An assignment is one of its expert's. -/
theorem occurrences_lt_localCounts {p : Nat} (hp : p < b.assignments sh) :
    occurrences b.expertIds (b.expertIds p) p < b.localCounts sh (b.moeRank sh p) (b.localExpert sh p) := by
  unfold Batch.localCounts
  rw [← expertIds_eq]
  exact occurrences_lt rfl hp

theorem slot_lt {p : Nat} (hp : p < b.assignments sh) :
    b.slot sh p < b.moeTokenNum sh (b.moeRank sh p) := by
  have hocc : occurrences b.expertIds (b.expertIds p) p <
      b.localCounts sh (b.moeRank sh p) (b.localExpert sh p) :=
    occurrences_lt_localCounts hp
  have hmono := prefixSum_mono (b.localCounts sh (b.moeRank sh p))
    (show b.localExpert sh p + 1 ≤ sh.expertNumPerMoe from localExpert_lt p)
  rw [prefixSum_succ] at hmono
  unfold Batch.slot Batch.expertPrefix Batch.moeTokenNum
  omega

/-- Assignments of one MoE rank have different slots. -/
theorem slot_inj {p q : Nat} (hp : p < b.assignments sh) (hq : q < b.assignments sh)
    (hm : b.moeRank sh p = b.moeRank sh q) (h : b.slot sh p = b.slot sh q) : p = q := by
  have hop : occurrences b.expertIds (b.expertIds p) p <
      b.localCounts sh (b.moeRank sh p) (b.localExpert sh p) :=
    occurrences_lt_localCounts hp
  have hoq : occurrences b.expertIds (b.expertIds q) q <
      b.localCounts sh (b.moeRank sh q) (b.localExpert sh q) :=
    occurrences_lt_localCounts hq
  unfold Batch.slot Batch.expertPrefix at h
  rw [hm] at hop h
  obtain ⟨hi, ho⟩ := block_inj hop hoq h
  have hid : b.expertIds p = b.expertIds q := by
    have hsplit : ∀ r, b.expertIds r = sh.expertNumPerMoe * b.moeRank sh r + b.localExpert sh r :=
      expertIds_eq
    rw [hsplit p, hsplit q, hm, hi]
  rw [hid] at ho
  exact occurrences_inj hid rfl ho

/-- Every place among an expert's assignments is taken. -/
theorem exists_assignment {m i o : Nat} (hi : i < sh.expertNumPerMoe) (ho : o < b.localCounts sh m i) :
    ∃ p < b.assignments sh, b.moeRank sh p = m ∧ b.localExpert sh p = i ∧
      occurrences b.expertIds (b.expertIds p) p = o := by
  obtain ⟨p, hp, hid, hocc⟩ := exists_occurrence ho
  refine ⟨p, hp, ?_, ?_, by rw [hid, hocc]⟩
  · rw [Batch.moeRank, hid, Nat.mul_add_div sh.expertNumPerMoe_pos, Nat.div_eq_of_lt hi, Nat.add_zero]
  · rw [Batch.localExpert, hid, Nat.mul_add_mod, Nat.mod_eq_of_lt hi]

/-! ## Tokens of a MoE rank -/

theorem token_lt {p : Nat} (hp : p < b.assignments sh) : p / sh.topk < b.batchSize :=
  Nat.div_lt_of_lt_mul (by rw [Nat.mul_comm]; exact hp)

/-- The token of an assignment is routed to the assignment's MoE rank. -/
theorem routed_moeRank (p : Nat) : b.Routed sh (b.moeRank sh p) (p / sh.topk) := by
  refine ⟨p, ?_, Nat.div_mul_le_self p sh.topk, rfl⟩
  rw [Nat.mul_comm]
  exact Nat.lt_mul_div_succ p sh.topk_pos

theorem moeTokens_lt {m t : Nat} (h : b.Routed sh m t) {n : Nat} (ht : t < n) :
    b.moeTokens sh m t < b.moeTokens sh m n :=
  Nat.count_strict_mono h ht

theorem moeTokens_inj {m t t' : Nat} (h : b.Routed sh m t) (h' : b.Routed sh m t')
    (heq : b.moeTokens sh m t = b.moeTokens sh m t') : t = t' := Nat.count_injective h h' heq

theorem moeTokens_le (m t : Nat) : b.moeTokens sh m t ≤ t := Nat.count_le _

/-- Passing an entry passes a token when it is the token's last one. -/
theorem moeTokens_div_succ (m p : Nat) :
    b.moeTokens sh m ((p + 1) / sh.topk) = b.moeTokens sh m (p / sh.topk) +
      if (p + 1) % sh.topk = 0 ∧ b.NamedBefore sh m (p / sh.topk) (p + 1) then 1 else 0 := by
  have hsucc := Nat.succ_div (a := p) (b := sh.topk)
  by_cases hlast : (p + 1) % sh.topk = 0
  · have hdvd : sh.topk ∣ p + 1 := Nat.dvd_of_mod_eq_zero hlast
    rw [if_pos hdvd] at hsucc
    have hend : (p / sh.topk + 1) * sh.topk = p + 1 := by
      rw [← hsucc]
      exact Nat.div_mul_cancel hdvd
    rw [hsucc, Batch.moeTokens, Nat.count_succ]
    simp only [Batch.Routed, hend, hlast, true_and]
    rfl
  · rw [if_neg fun h => hlast (Nat.mod_eq_zero_of_dvd h), Nat.add_zero] at hsucc
    simp [hsucc, hlast]

end Facts

end AfdPlugin.Cam
