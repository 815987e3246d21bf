import AfdPlugin.Cam.Layout
import AfdPlugin.Lib.Blocks
import AfdPlugin.Lib.Collectives
/-!
# Shared experts on an Attention TP group

Async CAM runs the shared experts of a layer outside the fused runner, so the
adapter does that runner's collectives itself. Which ones depends on the layout:
the weights are sharded over the TP ranks or replicated, and the tokens are
replicated or, under sequence parallelism, a block of them is on each rank.
-/

namespace AfdPlugin.SharedExperts

open Cam (sliceRows getElem?_sliceRows flatMap_sliceRows flatMap_congr_range le_slices)
open Blocks (spread)
open Collective

/-! ## The adapter -/

/-- The quantization scheme of a linear layer. -/
inductive Scheme where
  | w8a8Dynamic (actQuantIsInt8 : Bool)
  | other
  deriving DecidableEq, Repr

/-- `quant_method` of a projection. -/
inductive QuantMethod where
  | ascendLinear (scheme : Scheme)
  | other
  deriving DecidableEq, Repr

/-- The activation between the projections. -/
inductive ActFn (S : Type) where
  | siluAndMulWithClamp (swigluLimit alpha beta : S)
  | other
  deriving DecidableEq, Repr

/-- The MLP with the weights that one TP rank holds. Both ways to run it work row
by row. -/
structure LocalMlp (Row S : Type) where
  gateUpProj : QuantMethod
  downProj : QuantMethod
  actFn : ActFn S
  /-- `DeepseekV2MLP.forward`. -/
  native : Row → Row
  /-- The fused kernels, with the clamp limit and the two terms of the activation. -/
  fused : S → S → S → Row → Row

section Forward
variable {Row S : Type} [AddCommMonoid Row] [Zero S] [One S]

def QuantMethod.runsFused (method : QuantMethod) : Bool :=
  match method with
  | .ascendLinear (.w8a8Dynamic actQuantIsInt8) => actQuantIsInt8
  | _ => false

def LocalMlp.row (m : LocalMlp Row S) : Row → Row :=
  if m.gateUpProj.runsFused && m.downProj.runsFused then
    -- the actual activation, including nondefault terms
    match m.actFn with
    | .siluAndMulWithClamp swigluLimit alpha beta => m.fused swigluLimit alpha beta
    | .other => m.fused 0 1 0
  else m.native

def LocalMlp.runLocalMlp (m : LocalMlp Row S) (x : List Row) : List Row := x.map m.row

/-- `AFDDeepseekV4SharedExperts` on the ranks of one TP group. -/
structure AFDDeepseekV4SharedExperts (Row S : Type) where
  tpSize : Nat
  isSequenceParallel : Bool
  /-- `shared_expert_dp_enabled()`. -/
  weightsReplicated : Bool
  localMlp : Nat → LocalMlp Row S

/-- Zero rows up to a multiple of the ranks. -/
def padRows (tpSize : Nat) (x : List Row) : List Row :=
  let padSize := (tpSize - x.length % tpSize) % tpSize
  if padSize ≠ 0 then x ++ List.replicate padSize 0 else x

/-- `torch.tensor_split(x, sections)[i]`. -/
def tensorSplit (x : List Row) (sections i : Nat) : List Row :=
  sliceRows x (spread x.length sections i, spread x.length sections (i + 1))

/-- `forward` on the TP group, where `x` and the result are each rank's own
tensor, and `numTokens` is the forward context's `num_tokens`. -/
def AFDDeepseekV4SharedExperts.forward (m : AFDDeepseekV4SharedExperts Row S) (numTokens : Nat)
    (x : Nat → List Row) : Except String (Nat → List Row) :=
  if m.tpSize = 1 then .ok fun r => (m.localMlp r).runLocalMlp (x r)
  else if m.weightsReplicated then
    if m.isSequenceParallel then .ok fun r => (m.localMlp r).runLocalMlp (x r)
    else do
      -- full tokens are split across the ranks, and the disjoint outputs gathered
      let output := fun r => (m.localMlp r).runLocalMlp (tensorSplit (padRows m.tpSize (x r)) m.tpSize r)
      let gathered ← allGather m.tpSize output
      .ok fun r => gathered.take (x r).length
  else if m.isSequenceParallel then do
    let gathered ← allGather m.tpSize x
    let output := fun r => (m.localMlp r).runLocalMlp (gathered.take numTokens)
    reduceScatter m.tpSize fun r => padRows m.tpSize (output r)
  else do
    let reduced ← allReduce m.tpSize fun r => (m.localMlp r).runLocalMlp (x r)
    .ok fun _ => reduced

end Forward

/-! ## The layouts -/

/-- Rows of a rank's block of `n` tokens. -/
def blockRows (n tp : Nat) : Nat := (n + tp - 1) / tp

section Layout
variable {Row S : Type}

/-- What rank `r` holds of the tokens `rows`: all of them, or under sequence
parallelism its block, with `padding` behind the tokens. -/
def rankRows (sp : Bool) (tp : Nat) (rows padding : List Row) (r : Nat) : List Row :=
  if sp then sliceRows (rows ++ padding) (r * blockRows rows.length tp,
    r * blockRows rows.length tp + blockRows rows.length tp)
  else rows

/-- How many of the rows of rank `r` are tokens. They are its first ones. -/
def realRows (sp : Bool) (tp n r : Nat) : Nat :=
  if sp then min (blockRows n tp) (n - r * blockRows n tp) else n

variable [AddCommMonoid Row] [Zero S] [One S]

/-- The ranks' weights are those of the MLP `mlp`: each rank has all of them, or
the ranks' partial results add up to it. -/
def Computes (m : AFDDeepseekV4SharedExperts Row S) (mlp : Row → Row) : Prop :=
  if m.weightsReplicated then ∀ r < m.tpSize, (m.localMlp r).row = mlp
  else ∀ row, ∑ r ∈ Finset.range m.tpSize, (m.localMlp r).row row = mlp row

/-! ## Padding and slices -/

omit [AddCommMonoid Row] in
theorem sliceRows_map {β : Type} (f : Row → β) (x : List Row) (s : Nat × Nat) :
    (sliceRows x s).map f = sliceRows (x.map f) s := by
  simp [sliceRows, List.map_take, List.map_drop]

omit [AddCommMonoid Row] in
theorem length_sliceRows {x : List Row} {c tp r : Nat} (hx : x.length = c * tp) (hr : r < tp) :
    (sliceRows x (r * c, r * c + c)).length = c := by
  have hle : (r + 1) * c ≤ c * tp := by
    rw [Nat.mul_comm c]
    exact Nat.mul_le_mul_right c hr
  rw [Nat.succ_mul] at hle
  simp [sliceRows, hx]
  omega

omit [AddCommMonoid Row] in
/-- The tokens of a block are those of the block without the padding. -/
theorem take_sliceRows (rows padding : List Row) (r c : Nat) :
    (sliceRows (rows ++ padding) (r * c, r * c + c)).take (min c (rows.length - r * c)) =
      sliceRows rows (r * c, r * c + c) := by
  apply List.ext_getElem?
  intro i
  rw [List.getElem?_take, getElem?_sliceRows, getElem?_sliceRows]
  split
  · rename_i hi
    have hlt : r * c + i < rows.length := by omega
    rw [List.getElem?_append_left hlt]
  · rename_i hi
    split
    · have hge : rows.length ≤ r * c + i := by omega
      rw [List.getElem?_eq_none hge]
    · rfl

theorem padRows_eq {tp : Nat} (htp : 0 < tp) (x : List Row) :
    padRows tp x = x ++ List.replicate (blockRows x.length tp * tp - x.length) 0 := by
  have hpad : (tp - x.length % tp) % tp = blockRows x.length tp * tp - x.length := by
    have hdiv := Nat.div_add_mod x.length tp
    have hmod := Nat.mod_lt x.length htp
    generalize x.length / tp = q at hdiv
    rcases Nat.eq_zero_or_pos (x.length % tp) with h0 | hpos
    · have hq : blockRows x.length tp = q := by
        rw [blockRows, show x.length + tp - 1 = tp - 1 + tp * q by omega, Nat.add_mul_div_left _ _ htp,
          Nat.div_eq_of_lt (by omega), Nat.zero_add]
      rw [h0, Nat.sub_zero, Nat.mod_self, hq, Nat.mul_comm q]
      omega
    · have hq : blockRows x.length tp = q + 1 := by
        rw [blockRows, show x.length + tp - 1 =
          (x.length % tp - 1) + tp * (q + 1) by rw [Nat.mul_add]; omega, Nat.add_mul_div_left _ _ htp,
          Nat.div_eq_of_lt (by omega), Nat.zero_add]
      rw [Nat.mod_eq_of_lt (by omega), hq, Nat.add_mul, Nat.one_mul, Nat.mul_comm q]
      omega
  unfold padRows
  dsimp only
  rw [hpad]
  split
  · rfl
  · rename_i h0
    rw [not_not.1 h0, List.replicate_zero, List.append_nil]

theorem length_padRows {tp : Nat} (htp : 0 < tp) (x : List Row) :
    (padRows tp x).length = blockRows x.length tp * tp := by
  have hle : x.length ≤ blockRows x.length tp * tp := le_slices htp
  rw [padRows_eq htp, List.length_append, List.length_replicate]
  omega

omit [AddCommMonoid Row] in
/-- Rows that are a multiple of the ranks split into equal parts. -/
theorem tensorSplit_eq {tp c : Nat} (htp : 0 < tp) {x : List Row} (hx : x.length = c * tp) (r : Nat) :
    tensorSplit x tp r = sliceRows x (r * c, r * c + c) := by
  have hspread (i : Nat) : spread x.length tp i = i * c := by
    rw [spread, hx, Nat.mul_mod_left, Nat.mul_div_cancel _ htp, Nat.mul_comm]
    simp
  rw [tensorSplit, hspread, hspread, Nat.succ_mul]

/-! ## Each layout -/

section Ranks
variable {m : AFDDeepseekV4SharedExperts Row S} {mlp : Row → Row} {rows padding : List Row}

omit [AddCommMonoid Row] in
theorem flatMap_blocks {tp : Nat} {x : List Row} {c : Nat} (hx : x.length = c * tp) :
    (List.range tp).flatMap (fun r => sliceRows x (r * c, r * c + c)) = x := by
  rw [flatMap_sliceRows, List.take_of_length_le (by rw [hx, Nat.mul_comm])]

/-- With one rank the partial result is the result. -/
theorem Computes.single (h : Computes m mlp) (htp : m.tpSize = 1) : (m.localMlp 0).row = mlp := by
  unfold Computes at h
  split at h
  · exact h 0 (by omega)
  · funext row
    simpa [htp] using h row

theorem Computes.replicated (h : Computes m mlp) (hw : m.weightsReplicated) {r : Nat} (hr : r < m.tpSize) :
    (m.localMlp r).row = mlp := by
  rw [Computes, if_pos hw] at h
  exact h r hr

theorem Computes.sharded (h : Computes m mlp) (hw : ¬ m.weightsReplicated) :
    (fun row => ∑ r ∈ Finset.range m.tpSize, (m.localMlp r).row row) = mlp := by
  rw [Computes, if_neg hw] at h
  funext row
  exact h row

/-- Replicated weights, replicated tokens: the gathered slices are the results of
the tokens and then of zero rows, which are cut off. -/
theorem forward_replicated (h : Computes m mlp) (htp : 1 < m.tpSize) (hw : m.weightsReplicated)
    (hsp : ¬ m.isSequenceParallel) (numTokens : Nat) :
    m.forward numTokens (fun _ => rows) = .ok fun _ => rows.map mlp := by
  have hpos : 0 < m.tpSize := by omega
  have hlen := length_padRows hpos rows
  have hslice : ∀ r < m.tpSize,
      (m.localMlp r).runLocalMlp (tensorSplit (padRows m.tpSize rows) m.tpSize r) =
        sliceRows ((padRows m.tpSize rows).map mlp) (r * blockRows rows.length m.tpSize,
          r * blockRows rows.length m.tpSize + blockRows rows.length m.tpSize) := by
    intro r hr
    rw [LocalMlp.runLocalMlp, h.replicated hw hr, tensorSplit_eq hpos hlen, sliceRows_map]
  have hmap : ((padRows m.tpSize rows).map mlp).length = blockRows rows.length m.tpSize * m.tpSize := by
    rw [List.length_map, hlen]
  have hsame : SameRows m.tpSize fun r =>
      (m.localMlp r).runLocalMlp (tensorSplit (padRows m.tpSize rows) m.tpSize r) := by
    intro r hr
    simp only [hslice r hr, hslice 0 hpos]
    rw [length_sliceRows hmap hr, length_sliceRows hmap hpos]
  have htake : ((padRows m.tpSize rows).map mlp).take rows.length = rows.map mlp := by
    rw [padRows_eq hpos, List.map_append, List.take_left' (by simp)]
  rw [AFDDeepseekV4SharedExperts.forward, if_neg (by omega), if_pos hw, if_neg hsp]
  simp only [allGather_ok hsame, Fallible.ok_bind]
  rw [flatMap_congr_range hslice, flatMap_blocks hmap, htake]

/-- Sharded weights, replicated tokens. -/
theorem forward_allReduce (h : Computes m mlp) (htp : 1 < m.tpSize) (hw : ¬ m.weightsReplicated)
    (hsp : ¬ m.isSequenceParallel) (numTokens : Nat) :
    m.forward numTokens (fun _ => rows) = .ok fun _ => rows.map mlp := by
  have hsame : SameRows m.tpSize fun r => (m.localMlp r).runLocalMlp rows := by
    intro r _
    simp [LocalMlp.runLocalMlp]
  have hsum : sumRows m.tpSize (fun r => (m.localMlp r).runLocalMlp rows) =
      rows.map fun row => ∑ r ∈ Finset.range m.tpSize, (m.localMlp r).row row :=
    sumRows_map rows (fun r => (m.localMlp r).row) fun r => rfl
  rw [AFDDeepseekV4SharedExperts.forward, if_neg (by omega), if_neg hw, if_neg hsp]
  simp only [allReduce_ok hsame, Fallible.ok_bind]
  rw [hsum, h.sharded hw]

/-- Sharded weights, a block of the tokens on each rank: the ranks gather the
tokens without the padding, and each gets back the results of its block, with
zero rows for the padding. -/
theorem forward_reduceScatter (h : Computes m mlp) (htp : 1 < m.tpSize) (hw : ¬ m.weightsReplicated)
    (hsp : m.isSequenceParallel)
    (hpad : padding.length = blockRows rows.length m.tpSize * m.tpSize - rows.length) :
    m.forward rows.length (rankRows true m.tpSize rows padding) =
      .ok (rankRows true m.tpSize (rows.map mlp) (List.replicate padding.length 0)) := by
  have hpos : 0 < m.tpSize := by omega
  have hle : rows.length ≤ blockRows rows.length m.tpSize * m.tpSize := le_slices hpos
  have hlen : (rows ++ padding).length = blockRows rows.length m.tpSize * m.tpSize := by
    rw [List.length_append, hpad]
    omega
  have hsame : SameRows m.tpSize (rankRows true m.tpSize rows padding) := by
    intro r hr
    simp only [rankRows, if_true]
    rw [length_sliceRows hlen hr, length_sliceRows hlen hpos]
  have hgather : (List.range m.tpSize).flatMap (rankRows true m.tpSize rows padding) =
    rows ++ padding := flatMap_blocks hlen
  have hpadded (r : Nat) : padRows m.tpSize ((m.localMlp r).runLocalMlp rows) =
      rows.map (m.localMlp r).row ++ List.replicate padding.length 0 := by
    rw [padRows_eq hpos, LocalMlp.runLocalMlp, List.length_map, hpad]
  have hrows : SameRows m.tpSize fun r => padRows m.tpSize ((m.localMlp r).runLocalMlp rows) := by
    intro r _
    simp [hpadded]
  have hpartial : SameRows m.tpSize fun r => rows.map (m.localMlp r).row := by
    intro r _
    simp
  have hadd : sumRows m.tpSize (fun r => rows.map (m.localMlp r).row) =
      rows.map fun row => ∑ r ∈ Finset.range m.tpSize, (m.localMlp r).row row :=
    sumRows_map rows (fun r => (m.localMlp r).row) fun r => rfl
  have hsum : sumRows m.tpSize (fun r => padRows m.tpSize ((m.localMlp r).runLocalMlp rows)) =
      rows.map mlp ++ List.replicate padding.length 0 := by
    rw [sumRows_append_zero padding.length hpartial hpadded, hadd, h.sharded hw]
  rw [AFDDeepseekV4SharedExperts.forward, if_neg (by omega), if_neg hw, if_pos hsp]
  simp only [allGather_ok hsame, Fallible.ok_bind]
  rw [hgather, List.take_left' rfl]
  have hblocks : (padRows m.tpSize ((m.localMlp 0).runLocalMlp rows)).length =
      blockRows rows.length m.tpSize * m.tpSize := by
    rw [hpadded, List.length_append, List.length_map, List.length_replicate, hpad]
    omega
  rw [reduceScatter_ok _ hrows hpos hblocks, hsum]
  refine congrArg Except.ok (funext fun r => ?_)
  simp [rankRows, sliceRows]

/-! ## Every layout returns the rank's own rows -/

omit [AddCommMonoid Row] in
theorem take_rankRows (sp : Bool) (tp : Nat) (rows padding : List Row) (r : Nat) :
    (rankRows sp tp rows padding r).take (realRows sp tp rows.length r) = rankRows sp tp rows [] r := by
  cases sp with
  | false => simp [rankRows, realRows]
  | true =>
    simp only [rankRows, realRows, if_true, List.append_nil]
    apply take_sliceRows

omit [AddCommMonoid Row] in
theorem map_rankRows {β : Type} (f : Row → β) (sp : Bool) (tp : Nat) (rows : List Row) (r : Nat) :
    (rankRows sp tp rows [] r).map f = rankRows sp tp (rows.map f) [] r := by
  cases sp with
  | false => rfl
  | true => simp [rankRows, sliceRows_map]

/-- In every layout each rank's output has the rows of its input, and on the
tokens among them it is the MLP row by row. -/
theorem forward_own_rows (htp : 0 < m.tpSize) (h : Computes m mlp)
    (hpad : padding.length = blockRows rows.length m.tpSize * m.tpSize - rows.length) :
    ∃ out, m.forward rows.length (rankRows m.isSequenceParallel m.tpSize rows padding) = .ok out ∧
      ∀ r < m.tpSize,
        (out r).length = (rankRows m.isSequenceParallel m.tpSize rows padding r).length ∧
        (out r).take (realRows m.isSequenceParallel m.tpSize rows.length r) =
          ((rankRows m.isSequenceParallel m.tpSize rows padding r).take
            (realRows m.isSequenceParallel m.tpSize rows.length r)).map mlp := by
  -- a rank that runs the whole MLP on what it holds
  have hlocal (hrow : ∀ r < m.tpSize, (m.localMlp r).row = mlp) : ∀ r < m.tpSize,
      ((m.localMlp r).runLocalMlp (rankRows m.isSequenceParallel m.tpSize rows padding r)).length =
        (rankRows m.isSequenceParallel m.tpSize rows padding r).length ∧
      ((m.localMlp r).runLocalMlp (rankRows m.isSequenceParallel m.tpSize rows padding r)).take
          (realRows m.isSequenceParallel m.tpSize rows.length r) =
        ((rankRows m.isSequenceParallel m.tpSize rows padding r).take
          (realRows m.isSequenceParallel m.tpSize rows.length r)).map mlp := by
    intro r hr
    rw [LocalMlp.runLocalMlp, hrow r hr]
    exact ⟨List.length_map _, (List.map_take ..).symm⟩
  by_cases hone : m.tpSize = 1
  · refine ⟨_, if_pos hone, hlocal fun r hr => ?_⟩
    rw [show r = 0 by omega]
    exact h.single hone
  have hmore : 1 < m.tpSize := by omega
  by_cases hw : m.weightsReplicated
  · by_cases hsp : m.isSequenceParallel
    · refine ⟨_, ?_, hlocal fun r hr => h.replicated hw hr⟩
      rw [AFDDeepseekV4SharedExperts.forward, if_neg hone, if_pos hw, if_pos hsp]
    · have hplain : m.isSequenceParallel = false := by simpa using hsp
      have hall : rankRows false m.tpSize rows padding = fun _ => rows := rfl
      rw [hplain, hall]
      refine ⟨_, forward_replicated h hmore hw hsp rows.length, fun r _ => ⟨List.length_map _, ?_⟩⟩
      exact (List.map_take ..).symm
  · by_cases hsp : m.isSequenceParallel
    · rw [hsp]
      refine ⟨_, forward_reduceScatter h hmore hw hsp hpad, fun r hr => ⟨?_, ?_⟩⟩
      · have hle : rows.length ≤ blockRows rows.length m.tpSize * m.tpSize := le_slices htp
        simp only [rankRows, if_true, List.length_map]
        rw [length_sliceRows (by simp; omega) hr, length_sliceRows (by simp; omega) hr]
      · have hreal := take_rankRows true m.tpSize (rows.map mlp) (List.replicate padding.length 0) r
        rw [List.length_map] at hreal
        rw [hreal, take_rankRows, map_rankRows]
    · have hplain : m.isSequenceParallel = false := by simpa using hsp
      have hall : rankRows false m.tpSize rows padding = fun _ => rows := rfl
      rw [hplain, hall]
      refine ⟨_, forward_allReduce h hmore hw hsp rows.length, fun r _ => ⟨List.length_map _, ?_⟩⟩
      exact (List.map_take ..).symm

end Ranks

end Layout

/-- Two ranks whose weights compute `2 * x` and `3 * x`, with a block of the tokens each. -/
def twoShards : AFDDeepseekV4SharedExperts Int Int where
  tpSize := 2
  isSequenceParallel := true
  weightsReplicated := false
  localMlp r := ⟨.other, .other, .other, fun x => if r = 0 then 2 * x else 3 * x, fun _ _ _ x => x⟩

def threeTokens : List Int := [10, 20, 30]

theorem forward_own_rows_twoShards :
    Computes twoShards (fun x => 5 * x) ∧
    ∃ out, twoShards.forward threeTokens.length (rankRows true 2 threeTokens [40]) = .ok out ∧
      ∀ r < 2, (out r).length = (rankRows true 2 threeTokens [40] r).length ∧
        (out r).take (realRows true 2 threeTokens.length r) =
          ((rankRows true 2 threeTokens [40] r).take (realRows true 2 threeTokens.length r)).map
            fun x => 5 * x := by
  have hcomputes : Computes twoShards (fun x => 5 * x) := by
    intro x
    simp [twoShards, LocalMlp.row, QuantMethod.runsFused, Finset.sum_range_succ]
    ring
  exact ⟨hcomputes, @forward_own_rows Int Int _ _ _ twoShards (fun x => 5 * x) threeTokens [40]
    (by decide) hcomputes (by decide)⟩

end AfdPlugin.SharedExperts
