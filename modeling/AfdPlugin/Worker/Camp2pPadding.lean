import AfdPlugin.Connectors.Camp2pCounts
import AfdPlugin.Worker.AttentionScopes
/-!
# Padding of eager CAMP2P steps

Attention rank `a` sends to FFN rank `a % F`, and the ranks of one FFN rank must
send equally many rows. The native dispatch agrees on one count for each
Attention DP rank, which the TP workers of that rank share; the runner enlarges
these counts before the inputs are prepared. Two DP ranks need the same count
when a chain of shared DP ranks and shared FFN ranks connects them.
-/

namespace AfdPlugin.Camp2p

open AttentionRunner

/-- `num_groups`: how many different counts there may be. Blocks of TP workers
that do not line up with the FFN ranks connect all DP ranks. -/
def numGroups (attentionTp ffnSize : Nat) : Nat :=
  if ffnSize % attentionTp = 0 then ffnSize / attentionTp else 1

/-- The counts, as rows of one count for each group, made equal to the largest of
their column. -/
def paddedCounts (attentionSize ffnSize dpSize : Nat) (counts : List Int32) : Except String (List Int32) :=
  if dpSize = 0 then .error "integer division or modulo by zero"
  else
    let attentionTp := attentionSize / dpSize
    if attentionTp = 0 then .error "integer modulo by zero"
    else
      let cols := numGroups attentionTp ffnSize
      if cols = 0 ∨ counts.length % cols ≠ 0 then
        .error s!"shape '[-1, {cols}]' is invalid for input of size {counts.length}"
      else if counts.length = 0 then .error "amax(): Expected reduction dim 0 to have non-zero size."
      else
        .ok ((List.range (dpSize / cols)).flatMap fun _ =>
          (List.range cols).map fun column => columnMax counts cols column (counts.length / cols - 1))

/-- What the DP ranks agreed on; `rest` stands for what the padding carries
along. -/
structure DPSyncState (Rest : Type) where
  numTokensAcrossDp : List Int32
  rest : Rest
  deriving DecidableEq, Repr

section Dispatch
variable {Rest : Type}

/-- `dispatch_cg_and_sync_dp` inside `_use_camp2p_dp_padding`, from what the
native function returned. -/
def padDispatch (attentionSize ffnSize dpSize dpRank : Nat)
    (native : BatchExecutionDescriptor × Option (DPSyncState Rest)) :
    Except String (BatchExecutionDescriptor × Option (DPSyncState Rest)) :=
  match native.1.cgMode, native.2 with
  | .none, some sync => do
    let padded ← paddedCounts attentionSize ffnSize dpSize sync.numTokensAcrossDp
    match padded[dpRank]? with
    | none => .error s!"index {dpRank} is out of bounds for dimension 0 with size {padded.length}"
    | some numTokens =>
      .ok ({ native.1 with numTokens := numTokens }, some { sync with numTokensAcrossDp := padded })
  | _, _ => .ok native

/-- The dispatch of `execute_model`. -/
def dispatchCgAndSyncDp (asyncDp : Bool) (attentionSize ffnSize dpSize dpRank : Nat)
    (native : BatchExecutionDescriptor × Option (DPSyncState Rest)) :
    Except String (BatchExecutionDescriptor × Option (DPSyncState Rest)) :=
  if asyncDp = false ∧ attentionSize > ffnSize then padDispatch attentionSize ffnSize dpSize dpRank native
  else .ok native

/-- What the native dispatch of the Attention ranks promises: the TP workers of a
DP rank run the same batch, every rank knows all counts when there are several
DP ranks, and a graph has one size. -/
structure NativeAgreement (dp tp : Nat) (counts : List Int32)
    (native : Nat → BatchExecutionDescriptor × Option (DPSyncState Rest)) : Prop where
  length : counts.length = dp
  numTokens : ∀ a < dp * tp, (native a).1.numTokens = counts.getD (a / tp) 0
  synced : ∀ a < dp * tp, (native a).2 = none → dp = 1
  agreed : ∀ a < dp * tp, ∀ sync ∈ (native a).2, sync.numTokensAcrossDp = counts
  graph : ∀ a < dp * tp, (native a).1.cgMode ≠ .none → ∀ d < dp, counts.getD d 0 = counts.getD 0 0

end Dispatch

/-! ## Groups -/

section Groups
variable {dp tp F : Nat} {Rest : Type}

/-- The groups divide the DP ranks. -/
theorem numGroups_pos (hF : 0 < F) (htp : 0 < tp) : 0 < numGroups tp F := by
  unfold numGroups
  split
  · rename_i h
    exact Nat.div_pos (Nat.le_of_dvd hF (Nat.dvd_of_mod_eq_zero h)) htp
  · exact Nat.one_pos

theorem numGroups_dvd (htp : 0 < tp) (hdvd : F ∣ dp * tp) : numGroups tp F ∣ dp := by
  unfold numGroups
  split
  · rename_i h
    refine Nat.dvd_of_mul_dvd_mul_right htp ?_
    rwa [Nat.div_mul_cancel (Nat.dvd_of_mod_eq_zero h)]
  · exact one_dvd dp

/-- The Attention ranks of one FFN rank are in one group. -/
theorem group_congr {a b : Nat} (h : a % F = b % F) :
    a / tp % numGroups tp F = b / tp % numGroups tp F := by
  unfold numGroups
  split
  · rename_i hmod
    obtain ⟨g, rfl⟩ := Nat.dvd_of_mod_eq_zero hmod
    rcases Nat.eq_zero_or_pos tp with rfl | htp
    · simp
    · rw [Nat.mul_div_cancel_left g htp, ← Nat.mod_mul_right_div_self, ← Nat.mod_mul_right_div_self, h]
  · rw [Nat.mod_one, Nat.mod_one]

/-- What the count of DP rank `d` becomes. -/
def paddedCount (counts : List Int32) (cols d : Nat) : Int32 :=
  columnMax counts cols (d % cols) (counts.length / cols - 1)

/-- No DP rank gets less than its real count. -/
theorem le_paddedCount {counts : List Int32} {cols d : Nat} (hcols : 0 < cols) (h : cols ∣ counts.length)
    (hd : d < counts.length) : counts.getD d 0 ≤ paddedCount counts cols d := by
  have hrow : d / cols ≤ counts.length / cols - 1 := by
    have := (Nat.div_lt_iff_lt_mul hcols).2
      (show d < counts.length / cols * cols by rwa [Nat.div_mul_cancel h])
    omega
  have hle := le_columnMax counts cols (d % cols) hrow
  rw [Nat.div_add_mod'] at hle
  exact Int32.le_iff_toInt_le.2 hle

/-- Counts that agree within each group stay. -/
theorem paddedCount_eq {counts : List Int32} {cols d : Nat} (hcols : 0 < cols) (h : cols ∣ counts.length)
    (hd : d < counts.length)
    (hgroup : ∀ e < counts.length, e % cols = d % cols → counts.getD e 0 = counts.getD d 0) :
    paddedCount counts cols d = counts.getD d 0 := by
  apply columnMax_const
  intro row hrow
  apply hgroup
  · have hmul := Nat.mul_le_mul_right cols (show row + 1 ≤ counts.length / cols by
      have := Nat.div_pos (Nat.le_of_dvd (by omega) h) hcols
      omega)
    rw [Nat.div_mul_cancel h, Nat.succ_mul] at hmul
    have := Nat.mod_lt d hcols
    omega
  · rw [Nat.mul_comm, Nat.mul_add_mod, Nat.mod_mod]

/-- Without agreed counts, and for a graph, nothing is padded. -/
theorem padDispatch_keeps {A d : Nat} {native : BatchExecutionDescriptor × Option (DPSyncState Rest)}
    (h : native.1.cgMode ≠ .none ∨ native.2 = none) : padDispatch A F dp d native = .ok native := by
  unfold padDispatch
  split
  · rename_i sync hmode hsync
    rcases h with h | h
    · exact absurd hmode h
    · rw [h] at hsync
      cases hsync
  · rfl

section Accepted
variable (hdp : 0 < dp) (htp : 0 < tp) (hF : 0 < F) (hdvd : F ∣ dp * tp)
include hdp htp hF hdvd

/-- The padding goes through, and gives every DP rank its padded count. -/
theorem paddedCounts_ok {counts : List Int32} (hlen : counts.length = dp) :
    ∃ padded, paddedCounts (dp * tp) F dp counts = .ok padded ∧ padded.length = dp ∧
      ∀ d < dp, padded.getD d 0 = paddedCount counts (numGroups tp F) d := by
  have hcols := numGroups_pos hF htp
  have hmul : dp / numGroups tp F * numGroups tp F = dp := Nat.div_mul_cancel (numGroups_dvd htp hdvd)
  have hmod : dp % numGroups tp F = 0 := Nat.mod_eq_zero_of_dvd (numGroups_dvd htp hdvd)
  refine ⟨(List.range (dp / numGroups tp F)).flatMap fun _ => (List.range (numGroups tp F)).map
      fun column =>
    columnMax counts (numGroups tp F) column (dp / numGroups tp F - 1), ?_, ?_, fun d hd => ?_⟩
  · have hbad : ¬ (numGroups tp F = 0 ∨ dp % numGroups tp F ≠ 0) := by omega
    simp only [paddedCounts, Nat.mul_div_cancel_left tp hdp, hdp.ne', htp.ne', hbad, hlen, if_false]
  · rw [Strided.length_flatMap_columns, hmul]
  · rw [Strided.getD_flatMap_columns _ hcols (by rwa [hmul]), paddedCount, hlen]

/-- Counts that agree within each group are their own padding. -/
theorem paddedCounts_eq {counts : List Int32} (hlen : counts.length = dp)
    (hgroup : ∀ d < dp, ∀ e < dp, e % numGroups tp F = d % numGroups tp F →
      counts.getD e 0 = counts.getD d 0) :
    paddedCounts (dp * tp) F dp counts = .ok counts := by
  obtain ⟨padded, hpadded, hlen', hget⟩ := paddedCounts_ok hdp htp hF hdvd hlen
  rw [hpadded]
  refine congrArg Except.ok (List.ext_getElem (by omega) fun d h1 h2 => ?_)
  rw [← List.getD_eq_getElem _ 0 h1, ← List.getD_eq_getElem _ 0 h2, hget d (by omega)]
  have hcols := numGroups_dvd htp hdvd
  rw [← hlen] at hcols hgroup
  exact paddedCount_eq (numGroups_pos hF htp) hcols h2 (hgroup d h2)

/-- An eager dispatch of a rank takes the padded counts. -/
theorem padDispatch_eager {counts padded : List Int32} (hlen : counts.length = dp)
    (hpadded : paddedCounts (dp * tp) F dp counts = .ok padded) {d : Nat} (hd : d < dp)
    {desc : BatchExecutionDescriptor} (hmode : desc.cgMode = .none) {sync : DPSyncState Rest}
    (hsync : sync.numTokensAcrossDp = counts) :
    padDispatch (dp * tp) F dp d (desc, some sync) =
      .ok ({ desc with numTokens := padded.getD d 0 }, some { sync with numTokensAcrossDp := padded }) := by
  obtain ⟨p, hp, hlen', -⟩ := paddedCounts_ok hdp htp hF hdvd hlen
  obtain rfl : p = padded := Except.ok.inj (hp.symm.trans hpadded)
  have hget : p[d]? = some (p.getD d 0) := by
    rw [List.getElem?_eq_getElem (by omega), List.getD_eq_getElem _ _ (by omega)]
  simp only [padDispatch, hmode, hsync, hp, bind, Except.bind, hget]

/-- Counts that are their own padding are dispatched unchanged. -/
theorem padDispatch_padded {counts : List Int32} (hlen : counts.length = dp)
    (hpadded : paddedCounts (dp * tp) F dp counts = .ok counts) {d : Nat} (hd : d < dp)
    {native : BatchExecutionDescriptor × Option (DPSyncState Rest)}
    (hdesc : native.1.numTokens = counts.getD d 0)
    (hsync : ∀ sync ∈ native.2, sync.numTokensAcrossDp = counts) :
    padDispatch (dp * tp) F dp d native = .ok native := by
  by_cases hmode : native.1.cgMode = .none
  · obtain ⟨desc, sync⟩ := native
    cases sync with
    | none => exact padDispatch_keeps (.inr rfl)
    | some sync =>
      rw [padDispatch_eager hdp htp hF hdvd hlen hpadded hd hmode (hsync sync rfl), ← hdesc,
        ← hsync sync rfl]
  · exact padDispatch_keeps (.inl hmode)

end Accepted

/-- What the padding of the counts must give. -/
structure Padding (dp tp F : Nat) (counts padded : List Int32) : Prop where
  length : padded.length = dp
  covers : ∀ d < dp, counts.getD d 0 ≤ padded.getD d 0
  /-- The Attention ranks of one FFN rank get one count. -/
  strided : ∀ a < dp * tp, ∀ b < dp * tp, a % F = b % F → padded.getD (a / tp) 0 = padded.getD (b / tp) 0
  idempotent : paddedCounts (dp * tp) F dp padded = .ok padded

theorem padding_of_paddedCounts (hdp : 0 < dp) (htp : 0 < tp) (hF : 0 < F) (hdvd : F ∣ dp * tp)
    {counts padded : List Int32} (hlen : counts.length = dp)
    (hpadded : paddedCounts (dp * tp) F dp counts = .ok padded) :
    Padding dp tp F counts padded := by
  obtain ⟨p, hp, hlen', hget⟩ := paddedCounts_ok hdp htp hF hdvd hlen
  obtain rfl : p = padded := Except.ok.inj (hp.symm.trans hpadded)
  have hgroup : ∀ d < dp, ∀ e < dp, e % numGroups tp F = d % numGroups tp F → p.getD e 0 = p.getD d 0 := by
    intro d hd e he h
    rw [hget e he, hget d hd, paddedCount, h, paddedCount]
  refine ⟨hlen', fun d hd => ?_, fun a ha b hb h => ?_, paddedCounts_eq hdp htp hF hdvd hlen' hgroup⟩
  · rw [hget d hd]
    exact le_paddedCount (numGroups_pos hF htp) (by rw [hlen]; exact numGroups_dvd htp hdvd) (by omega)
  · exact hgroup _ ((Nat.div_lt_iff_lt_mul htp).2 hb) _ ((Nat.div_lt_iff_lt_mul htp).2 ha) (group_congr h)

/-- What a rank dispatches. -/
theorem dispatch_padded (hdp : 0 < dp) (htp : 0 < tp) (hF : 0 < F) (hdvd : F ∣ dp * tp)
    {counts padded : List Int32} {native : Nat → BatchExecutionDescriptor × Option (DPSyncState Rest)}
    (h : NativeAgreement dp tp counts native)
    (hpadded : paddedCounts (dp * tp) F dp counts = .ok padded) {a : Nat} (ha : a < dp * tp) :
    dispatchCgAndSyncDp false (dp * tp) F dp (a / tp) (native a) =
      .ok ({ (native a).1 with numTokens := padded.getD (a / tp) 0 },
        (native a).2.map fun sync => { sync with numTokensAcrossDp := padded }) := by
  have hd : a / tp < dp := (Nat.div_lt_iff_lt_mul htp).2 ha
  have hnative : paddedCounts (dp * tp) F dp counts = .ok counts →
      ((native a).1, (native a).2) = ({ (native a).1 with numTokens := padded.getD (a / tp) 0 },
        (native a).2.map fun sync => { sync with numTokensAcrossDp := padded }) := by
    intro heq
    obtain rfl : counts = padded := Except.ok.inj (heq.symm.trans hpadded)
    rw [← h.numTokens a ha]
    have hsync := h.agreed a ha
    cases hs : (native a).2 with
    | none => rfl
    | some sync =>
      rw [Option.map_some, ← hsync sync hs]
  unfold dispatchCgAndSyncDp
  split
  · rename_i hlt
    by_cases hkeep : (native a).1.cgMode ≠ .none ∨ (native a).2 = none
    · rw [padDispatch_keeps hkeep]
      refine congrArg Except.ok (hnative (paddedCounts_eq hdp htp hF hdvd h.length fun d hd e he _ => ?_))
      rcases hkeep with hmode | hnone
      · rw [h.graph a ha hmode e he, h.graph a ha hmode d hd]
      · obtain rfl := h.synced a ha hnone
        obtain rfl : d = e := by omega
        rfl
    · simp only [not_or, not_not] at hkeep
      obtain ⟨sync, hsync⟩ := Option.ne_none_iff_exists'.1 hkeep.2
      have hcall := padDispatch_eager hdp htp hF hdvd h.length hpadded hd hkeep.1 (h.agreed a ha sync hsync)
      rw [← hsync] at hcall
      rw [hcall, hsync]
      rfl
  · -- one Attention rank for each FFN rank
    rename_i hle
    have hF' : F = dp * tp := le_antisymm (Nat.le_of_dvd (Nat.mul_pos hdp htp) hdvd) (by simpa using hle)
    refine congrArg Except.ok (hnative (paddedCounts_eq hdp htp hF hdvd h.length fun d hd e he hmod => ?_))
    have hcols : numGroups tp F = dp := by
      rw [numGroups, hF', if_pos (Nat.mul_mod_left dp tp), Nat.mul_div_cancel dp htp]
    rw [hcols, Nat.mod_eq_of_lt hd, Nat.mod_eq_of_lt he] at hmod
    rw [hmod]

/-- Whatever counts the DP ranks have, they all install one padded vector: it
covers the real counts, agrees for the Attention ranks of each FFN rank, and is
its own padding; a rank's batch has the count of its DP rank. -/
theorem camp2p_dp_padding (hdp : 0 < dp) (htp : 0 < tp) (hF : 0 < F) (hdvd : F ∣ dp * tp)
    {counts : List Int32} {native : Nat → BatchExecutionDescriptor × Option (DPSyncState Rest)}
    (h : NativeAgreement dp tp counts native) :
    ∃ padded, paddedCounts (dp * tp) F dp counts = .ok padded ∧ Padding dp tp F counts padded ∧
      ∀ a < dp * tp, ∃ out, dispatchCgAndSyncDp false (dp * tp) F dp (a / tp) (native a) = .ok out ∧
        out.1 = { (native a).1 with numTokens := padded.getD (a / tp) 0 } ∧
        out.2 = (native a).2.map (fun sync => { sync with numTokensAcrossDp := padded }) ∧
        dispatchCgAndSyncDp false (dp * tp) F dp (a / tp) out = .ok out := by
  obtain ⟨padded, hpadded, hlen, -⟩ := paddedCounts_ok hdp htp hF hdvd h.length
  have hpad := padding_of_paddedCounts hdp htp hF hdvd h.length hpadded
  refine ⟨padded, hpadded, hpad,
    fun a ha => ⟨_, dispatch_padded hdp htp hF hdvd h hpadded ha, rfl, rfl, ?_⟩⟩
  unfold dispatchCgAndSyncDp
  split
  · apply padDispatch_padded hdp htp hF hdvd hlen hpad.idempotent ((Nat.div_lt_iff_lt_mul htp).2 ha) rfl
    intro sync hsync
    obtain ⟨s, -, rfl⟩ := Option.mem_map.1 hsync
    rfl
  · rfl

/-- Eight Attention ranks, two in a DP rank, on four FFN ranks. -/
def fourByTwo (a : Nat) : BatchExecutionDescriptor × Option (DPSyncState Unit) :=
  (⟨.none, [3, 9, 5, 4].getD (a / 2) 0, 1, 1⟩, some ⟨[3, 9, 5, 4], ()⟩)

theorem camp2p_dp_padding_fourByTwo :
    ∃ padded, paddedCounts (4 * 2) 4 4 [3, 9, 5, 4] = .ok padded ∧ Padding 4 2 4 [3, 9, 5, 4] padded ∧
      ∀ a < 4 * 2, ∃ out, dispatchCgAndSyncDp false (4 * 2) 4 4 (a / 2) (fourByTwo a) = .ok out ∧
        out.1 = { (fourByTwo a).1 with numTokens := padded.getD (a / 2) 0 } ∧
        out.2 = (fourByTwo a).2.map (fun sync => { sync with numTokensAcrossDp := padded }) ∧
        dispatchCgAndSyncDp false (4 * 2) 4 4 (a / 2) out = .ok out := by
  apply @camp2p_dp_padding 4 2 4 Unit (by decide) (by decide) (by decide) (by decide) [3, 9, 5, 4] fourByTwo
  refine ⟨rfl, fun a _ => rfl, fun a _ h => ?_, fun a _ sync h => ?_, fun a _ h => ?_⟩
  · cases h
  · cases h
    rfl
  · exact absurd rfl h

/-- Blocks of two TP workers on four FFN ranks leave two groups; blocks of three
on two FFN ranks connect all DP ranks. -/
example : paddedCounts 8 4 4 [3, 9, 5, 4] = .ok [5, 9, 5, 9] ∧ paddedCounts 6 2 2 [3, 9] = .ok [9, 9] := by
  decide

end Groups

end AfdPlugin.Camp2p
