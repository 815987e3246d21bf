import AfdPlugin.Connectors.DeepepM2n.Agreement
import AfdPlugin.Lib.Blocks
import AfdPlugin.Lib.JsonText
/-!
# What every rank holds

DeepEP numbers the experts of all ranks through, so many for each rank. With
the FFN ranks first, their numbers are the real expert ids. After the weights
are loaded, every rank checks that the FFN ranks hold the experts of their
numbers.
-/

namespace AfdPlugin.Deepep

/-! ## The layout -/

namespace DeepEPM2NLayout

def expertsPerRank (layout : DeepEPM2NLayout) : Nat := layout.numExperts / layout.ffnSize

/-- Real experts, and the slots of the Attention ranks. -/
def deepepNumExperts (layout : DeepEPM2NLayout) : Nat := layout.unionSize * layout.expertsPerRank

/-- The real expert ids of an FFN rank. -/
def expertRange (layout : DeepEPM2NLayout) (ffnRank : Nat) : List Nat :=
  List.range' (ffnRank * layout.expertsPerRank) layout.expertsPerRank

/-- The world rank that owns a slot: every rank has `expertsPerRank`. -/
def slotRank (layout : DeepEPM2NLayout) (slot : Nat) : Nat := slot / layout.expertsPerRank

end DeepEPM2NLayout

/-! ## Reports -/

/-- `_describe_tensor`: dtype and shape. -/
structure DescribedTensor where
  dtype : String
  shape : List Nat
  deriving DecidableEq, Repr

/-- `LocalExpertWeights`. -/
structure LocalExpertWeights where
  w13 : DescribedTensor
  w2 : DescribedTensor
  w13Scale : Option DescribedTensor
  w2Scale : Option DescribedTensor
  deriving DecidableEq, Repr

structure FFNLocalExperts where
  expertIds : List Int
  weights : LocalExpertWeights
  deriving DecidableEq, Repr

/-- One layer's entry of a report. -/
structure DescribedExperts where
  ids : List Int
  w13 : Option DescribedTensor
  w2 : Option DescribedTensor
  w13Scale : Option DescribedTensor
  w2Scale : Option DescribedTensor
  deriving DecidableEq, Repr

structure ModelInfo where
  moeLayers : List Int
  experts : Option (Dict Int DescribedExperts)
  deriving DecidableEq

def FFNLocalExperts.described (e : FFNLocalExperts) : DescribedExperts where
  ids := e.expertIds
  w13 := some e.weights.w13
  w2 := some e.weights.w2
  w13Scale := e.weights.w13Scale
  w2Scale := e.weights.w2Scale

/-- `local_model_info`: what this rank loaded, or `None` if it does not report. -/
def localModelInfo (moeLayerIndices : Option (List Int))
    (localExperts : Option (Dict Int FFNLocalExperts)) :
    Option ModelInfo :=
  moeLayerIndices.map fun layers => ⟨layers, localExperts.map fun d => d.mapVals fun _ e => e.described⟩

/-! ## Texts -/

/-- `str` of a list, from the texts of its items. -/
def pyList : List (List Char) → List Char
  | [] => ['[', ']']
  | item :: rest => '[' :: item ++ (rest.flatMap fun item => ',' :: ' ' :: item) ++ [']']

/-- `str` of a list of integers. -/
def pyInts (l : List Int) : String := String.ofList (pyList (l.map fun i => (toString i).toList))

def pyTensor : Option DescribedTensor → String
  | none => "None"
  | some t => s!"['{t.dtype}', {pyInts (t.shape.map Nat.cast)}]"

/-! ## The check -/

/-- The tensors of a report, by name. -/
def DescribedExperts.tensors (d : DescribedExperts) : List (String × Option DescribedTensor) :=
  [("w13", d.w13), ("w2", d.w2), ("w13_scale", d.w13Scale), ("w2_scale", d.w2Scale)]

/-- `_expected_expert_tensors`: dtype and shape of every tensor. -/
def expectedExpertTensors (numExperts hiddenSize intermediateSize : Nat) (payloadFormat : PayloadFormat) :
    List (String × Option DescribedTensor) :=
  let weightDtype := match payloadFormat with
    | .bf16 => "torch.bfloat16"
    | .fp8Block128Fp32 => "torch.float8_e4m3fn"
  let hiddenBlocks := hiddenSize ⌈/⌉ 128
  let intermediateBlocks := intermediateSize ⌈/⌉ 128
  let scale (shape : List Nat) : Option DescribedTensor := match payloadFormat with
    | .bf16 => none
    | .fp8Block128Fp32 => some ⟨"torch.float32", shape⟩
  [("w13", some ⟨weightDtype, [numExperts, 2 * intermediateSize, hiddenSize]⟩),
    ("w2", some ⟨weightDtype, [numExperts, hiddenSize, intermediateSize]⟩),
    ("w13_scale", scale [numExperts, (2 * intermediateSize) ⌈/⌉ 128, hiddenBlocks]),
    ("w2_scale", scale [numExperts, hiddenBlocks, intermediateBlocks])]

/-- The message for a layer whose experts are not the rank's. -/
def placementMessage (worldRank : Nat) (layerIdx : Int) (ids expectedIds : List Int) : String :=
  match expectedIds with
  | [] => "list index out of range"
  | first :: rest =>
    s!"FFN world rank {worldRank} layer {layerIdx} holds experts {pyInts ids}, but DeepEP M2N routes experts " ++
      s!"[{first}, {rest.getLastD first + 1}) to it: use linear expert placement with EP size = num_ffn_ranks"

/-- One layer of one FFN rank. -/
def checkLayer (layout : DeepEPM2NLayout) (hiddenSize : Nat) (payloadFormat : PayloadFormat)
    (worldRank : Nat) (layerIdx : Int) (described : DescribedExperts) : Except String Unit := do
  let expectedIds := (layout.expertRange worldRank).map Nat.cast
  require (described.ids = expectedIds) (placementMessage worldRank layerIdx described.ids expectedIds)
  match described.w2 with
  | none => .error "'NoneType' object is not subscriptable"
  | some w2 =>
    match w2.shape[2]? with
    | none => .error "list index out of range"
    | some intermediateSize =>
      let expected := expectedExpertTensors layout.expertsPerRank hiddenSize intermediateSize payloadFormat
      let wrong := (described.tensors.zip expected).filter fun p => p.1.2 ≠ p.2.2
      require (wrong = [])
        (s!"FFN world rank {worldRank} layer {layerIdx} expert tensors {wrong.map fun p => (p.1.1, pyTensor p.1.2)} do " ++
          s!"not match payload_format='{payloadFormat.text}', expected {wrong.map fun p => (p.2.1, pyTensor p.2.2)}")

/-- One FFN rank. -/
def checkExperts (infos : List (Option ModelInfo)) (layout : DeepEPM2NLayout) (hiddenSize : Nat)
    (payloadFormat : PayloadFormat) (moeLayers : List Int) (worldRank : Nat) : Except String Unit :=
  match infos[worldRank]? with
  | none => .error "list index out of range"
  | some info =>
    match info.bind (·.experts) with
    | none => .error s!"FFN world rank {worldRank} reported no local experts"
    | some experts => do
      require (experts.keys.insertionSort (· ≤ ·) = moeLayers.insertionSort (· ≤ ·))
        (s!"FFN world rank {worldRank} holds experts for layers {pyInts (experts.keys.insertionSort (· ≤ ·))}, " ++
          s!"expected MoE layers {pyInts moeLayers}")
      checkAll (fun _ item => checkLayer layout hiddenSize payloadFormat worldRank item.1 item.2) 0
        experts.entries

/-- `validate_model_infos`. -/
def validateModelInfos (infos : List (Option ModelInfo)) (layout : DeepEPM2NLayout) (hiddenSize : Nat)
    (payloadFormat : PayloadFormat) : Except String Unit :=
  match infos.filterMap id with
  | [] => .ok ()
  | first :: reported => do
    let layerLists := ((first :: reported).map fun info => pyInts info.moeLayers).dedup
    require (layerLists.length = 1) s!"ranks disagree on MoE layers: {layerLists.insertionSort (· ≤ ·)}"
    checkAll (fun _ => checkExperts infos layout hiddenSize payloadFormat first.moeLayers) 0
      (List.range layout.ffnSize)

/-! ## Texts tell lists apart -/

/-- A number, and what follows it. -/
theorem toString_append_inj {i j : Int} {r r' : List Char} (hr : Json.Ends r) (hr' : Json.Ends r')
    (h : (toString i).toList ++ r = (toString j).toList ++ r') : i = j ∧ r = r' := by
  have hi := Json.scanNumber_toString i hr
  rw [h, Json.scanNumber_toString j hr'] at hi
  cases hi
  exact ⟨rfl, rfl⟩

theorem ends_rest (l : List Int) :
    Json.Ends (((l.map fun i => (toString i).toList).flatMap fun item => ',' :: ' ' :: item) ++ [']']) := by
  cases l with
  | nil => exact Json.ends_cons (by decide) _
  | cons i l => exact Json.ends_cons (by decide) _

theorem rest_injective {l l' : List Int}
    (h : ((l.map fun i => (toString i).toList).flatMap fun item => ',' :: ' ' :: item) ++ [']'] =
      ((l'.map fun i => (toString i).toList).flatMap fun item => ',' :: ' ' :: item) ++ [']']) :
    l = l' := by
  induction l generalizing l' with
  | nil =>
    cases l' with
    | nil => rfl
    | cons j l' => simp at h
  | cons i l ih =>
    cases l' with
    | nil => simp at h
    | cons j l' =>
      simp only [List.map_cons, List.flatMap_cons, List.cons_append, List.append_assoc, List.cons.injEq,
        true_and] at h
      obtain ⟨rfl, hrest⟩ := toString_append_inj (ends_rest l) (ends_rest l') h
      rw [ih hrest]

theorem pyInts_injective {l l' : List Int} (h : pyInts l = pyInts l') : l = l' := by
  have htext := String.ofList_injective h
  cases l with
  | nil =>
    cases l' with
    | nil => rfl
    | cons j l' =>
      obtain ⟨c, rest, hc, hdigit⟩ := Json.encode_head (.int j)
      rw [Json.encode] at hc
      simp only [List.map_nil, List.map_cons, pyList, hc, List.cons_append, List.cons.injEq,
        true_and] at htext
      exact absurd htext.1.symm hdigit.2.1
  | cons i l =>
    cases l' with
    | nil =>
      obtain ⟨c, rest, hc, hdigit⟩ := Json.encode_head (.int i)
      rw [Json.encode] at hc
      simp only [List.map_nil, List.map_cons, pyList, hc, List.cons_append, List.cons.injEq,
        true_and] at htext
      exact absurd htext.1 hdigit.2.1
    | cons j l' =>
      simp only [List.map_cons, pyList, List.cons_append, List.append_assoc, List.cons.injEq,
        true_and] at htext
      obtain ⟨rfl, hrest⟩ := toString_append_inj (ends_rest l) (ends_rest l') htext
      rw [rest_injective hrest]

/-! ## The layout is a partition -/

namespace DeepEPM2NLayout

variable (layout : DeepEPM2NLayout)

theorem ffnSize_mul_expertsPerRank : layout.ffnSize * layout.expertsPerRank = layout.numExperts :=
  Nat.mul_div_cancel' (Nat.dvd_of_mod_eq_zero layout.divisible)

theorem expertRange_eq_block (rank : Nat) :
    layout.expertRange rank = Blocks.block (fun r => r * layout.expertsPerRank) rank := by
  rw [expertRange, Blocks.block, Nat.succ_mul, Nat.add_sub_cancel_left]

/-- The ranges of the FFN ranks, in order, are all experts. -/
theorem flatMap_expertRange :
    (List.range layout.ffnSize).flatMap layout.expertRange = List.range layout.numExperts := by
  have hblocks := Blocks.flatMap_block (b := fun r => r * layout.expertsPerRank) (n := layout.ffnSize)
    fun i _ => Nat.mul_le_mul_right _ (Nat.le_succ i)
  have hrange : layout.expertRange = Blocks.block fun r => r * layout.expertsPerRank :=
    funext layout.expertRange_eq_block
  rw [hrange, hblocks, ffnSize_mul_expertsPerRank, Nat.zero_mul, Nat.sub_zero, List.range_eq_range']

theorem mem_expertRange {rank e : Nat} :
    e ∈ layout.expertRange rank ↔ 0 < layout.expertsPerRank ∧ layout.slotRank e = rank := by
  rw [expertRange_eq_block, Blocks.mem_block, slotRank]
  constructor
  · rintro ⟨hlo, hhi⟩
    have hpos : 0 < layout.expertsPerRank := by
      refine Nat.pos_of_ne_zero fun hzero => ?_
      simp only [hzero, Nat.mul_zero] at hhi
      omega
    exact ⟨hpos, Nat.div_eq_of_lt_le hlo hhi⟩
  · rintro ⟨hpos, rfl⟩
    refine ⟨Nat.div_mul_le_self e _, ?_⟩
    rw [Nat.mul_comm]
    exact Nat.lt_mul_div_succ e hpos

/-- A real expert's slot is on an FFN rank, at the expert's place in the rank's range. -/
theorem slot_of_expert {e : Nat} (he : e < layout.numExperts) :
    layout.slotRank e < layout.ffnSize ∧ e < layout.deepepNumExperts ∧
      (layout.expertRange (layout.slotRank e))[e % layout.expertsPerRank]? = some e := by
  have htotal := layout.ffnSize_mul_expertsPerRank
  have hpos : 0 < layout.expertsPerRank := by
    refine Nat.pos_of_ne_zero fun hzero => ?_
    rw [hzero, Nat.mul_zero] at htotal
    omega
  refine ⟨?_, ?_, ?_⟩
  · rw [slotRank, Nat.div_lt_iff_lt_mul hpos, htotal]
    exact he
  · rw [deepepNumExperts, unionSize, Nat.add_mul, htotal]
    exact Nat.lt_add_right _ he
  · rw [expertRange, List.getElem?_range' (Nat.mod_lt e hpos), Nat.one_mul, slotRank, Nat.div_add_mod']

/-- The slots after the real experts are on Attention ranks. -/
theorem dummy_slot {slot : Nat} (hlo : layout.numExperts ≤ slot) (hhi : slot < layout.deepepNumExperts) :
    ∃ a < layout.attnSize, layout.slotRank slot = layout.ffnSize + a := by
  have htotal := layout.ffnSize_mul_expertsPerRank
  have hpos : 0 < layout.expertsPerRank := by
    refine Nat.pos_of_ne_zero fun hzero => ?_
    rw [deepepNumExperts, hzero, Nat.mul_zero] at hhi
    omega
  have hge : layout.ffnSize ≤ layout.slotRank slot := by
    rw [slotRank, Nat.le_div_iff_mul_le hpos, htotal]
    exact hlo
  have hlt : layout.slotRank slot < layout.ffnSize + layout.attnSize := by
    rw [slotRank, Nat.div_lt_iff_lt_mul hpos]
    exact hhi
  exact ⟨layout.slotRank slot - layout.ffnSize, by omega, by omega⟩

end DeepEPM2NLayout

/-! ## What an accepted check says -/

/-- The experts that a rank reports for a layer. -/
def heldExperts (infos : List (Option ModelInfo)) (rank : Nat) (layer : Int) : Option (List Int) := do
  let info ← (infos[rank]?).join
  let experts ← info.experts
  (experts.get? layer).map (·.ids)

section Accepted
variable {infos : List (Option ModelInfo)} {layout : DeepEPM2NLayout} {hiddenSize : Nat}
  {payloadFormat : PayloadFormat}

/-- Every FFN rank that passes holds its range for every layer, and nothing else. -/
theorem heldExperts_of_checkExperts {moeLayers : List Int} {rank : Nat}
    (h : checkExperts infos layout hiddenSize payloadFormat moeLayers rank = .ok ()) (layer : Int) :
    heldExperts infos rank layer =
      if layer ∈ moeLayers then some ((layout.expertRange rank).map Nat.cast) else none := by
  unfold checkExperts at h
  split at h
  · cases h
  · rename_i info hinfo
    split at h
    · cases h
    · rename_i experts hexperts
      obtain ⟨_, hlayers, hall⟩ := Fallible.bind_eq_ok.1 h
      have hsorted := require_eq_ok.1 hlayers
      have hperm : experts.keys.Perm moeLayers :=
        (List.perm_insertionSort (· ≤ ·) experts.keys).symm.trans
          (hsorted ▸ List.perm_insertionSort (· ≤ ·) moeLayers)
      obtain ⟨reported, rfl, hreported⟩ := Option.bind_eq_some_iff.1 hexperts
      have hheld : heldExperts infos rank layer = (experts.get? layer).map (·.ids) := by
        unfold heldExperts
        rw [hinfo]
        simp only [Option.join, id_eq, hreported, Option.bind_eq_bind, Option.bind_some]
      rw [hheld]
      split
      · rename_i hmem
        obtain ⟨described, hget⟩ :=
          Option.isSome_iff_exists.1 (Dict.get?_isSome_iff.2 (hperm.mem_iff.2 hmem))
        obtain ⟨i, hlt, hi⟩ := List.getElem_of_mem (Dict.mem_entries_iff.2 hget)
        have hcheck := checkAll_ok hall (List.getElem?_eq_some_iff.2 ⟨hlt, hi⟩)
        obtain ⟨_, hids, -⟩ := Fallible.bind_eq_ok.1 hcheck
        rw [hget, Option.map_some, require_eq_ok.1 hids]
      · rename_i hmem
        rw [Dict.get?_eq_none_iff.2 fun hkey => hmem (hperm.mem_iff.1 hkey)]
        rfl

/-- All reports list the layers of the first one. -/
theorem moeLayers_eq_of_ok {first : ModelInfo} {reported : List ModelInfo}
    (hreported : infos.filterMap id = first :: reported)
    (h : validateModelInfos infos layout hiddenSize payloadFormat = .ok ()) {info : ModelInfo}
    (hinfo : some info ∈ infos) :
    info.moeLayers = first.moeLayers ∧
      checkAll (fun _ => checkExperts infos layout hiddenSize payloadFormat first.moeLayers) 0
        (List.range layout.ffnSize) = .ok () := by
  unfold validateModelInfos at h
  rw [hreported] at h
  obtain ⟨_, hlists, hall⟩ := Fallible.bind_eq_ok.1 h
  obtain ⟨text, htext⟩ := List.length_eq_one_iff.1 (require_eq_ok.1 hlists)
  have hsole : ∀ i ∈ first :: reported, pyInts i.moeLayers = text := by
    intro i hi
    have hmem := List.mem_dedup.2 (List.mem_map_of_mem (f := fun i : ModelInfo => pyInts i.moeLayers) hi)
    rwa [htext, List.mem_singleton] at hmem
  have hin : info ∈ first :: reported := by
    rw [← hreported]
    exact List.mem_filterMap.2 ⟨some info, hinfo, rfl⟩
  exact ⟨pyInts_injective ((hsole info hin).trans (hsole first List.mem_cons_self).symm), hall⟩

end Accepted

/-- The model check. When it passes and any rank reports, all reports list the
same MoE layers, and each FFN rank holds exactly the experts of its range, in
order, for exactly these layers. The ranges are a partition of the experts, and
the slot of an expert is on the one rank that holds it, at its own place, while
the other slots are on Attention ranks. -/
theorem model_check_sound {infos : List (Option ModelInfo)} {layout : DeepEPM2NLayout} {hiddenSize : Nat}
    {payloadFormat : PayloadFormat} (hreport : ∃ info, some info ∈ infos)
    (hok : validateModelInfos infos layout hiddenSize payloadFormat = .ok ()) :
    ∃ moeLayers : List Int,
      (∀ info, some info ∈ infos → info.moeLayers = moeLayers) ∧
      (∀ rank < layout.ffnSize, ∀ layer, heldExperts infos rank layer =
        if layer ∈ moeLayers then some ((layout.expertRange rank).map Nat.cast) else none) ∧
      (List.range layout.ffnSize).flatMap layout.expertRange = List.range layout.numExperts ∧
      (∀ e < layout.numExperts, layout.slotRank e < layout.ffnSize ∧ e < layout.deepepNumExperts ∧
        ∀ layer ∈ moeLayers, ∀ rank < layout.ffnSize, ∀ ids, heldExperts infos rank layer = some ids →
          (if rank = layout.slotRank e then ids[e % layout.expertsPerRank]? = some (e : Int)
            else (e : Int) ∉ ids)) ∧
      ∀ slot, layout.numExperts ≤ slot → slot < layout.deepepNumExperts →
        ∃ a < layout.attnSize, layout.slotRank slot = layout.ffnSize + a := by
  obtain ⟨info, hinfo⟩ := hreport
  cases hreported : infos.filterMap id with
  | nil =>
    have hmem : info ∈ infos.filterMap id := List.mem_filterMap.2 ⟨some info, hinfo, rfl⟩
    rw [hreported] at hmem
    cases hmem
  | cons first reported =>
    have hheld : ∀ rank < layout.ffnSize, ∀ layer, heldExperts infos rank layer =
        if layer ∈ first.moeLayers then some ((layout.expertRange rank).map Nat.cast) else none := by
      intro rank hrank layer
      have hall := (moeLayers_eq_of_ok hreported hok hinfo).2
      exact heldExperts_of_checkExperts (checkAll_ok hall (List.getElem?_range hrank)) layer
    refine ⟨first.moeLayers, fun i hi => (moeLayers_eq_of_ok hreported hok hi).1, hheld,
      layout.flatMap_expertRange, ?_, fun slot hlo hhi => layout.dummy_slot hlo hhi⟩
    intro e he
    obtain ⟨hrank, hslot, hplace⟩ := layout.slot_of_expert he
    refine ⟨hrank, hslot, ?_⟩
    intro layer hlayer rank hr ids hids
    rw [hheld rank hr, if_pos hlayer] at hids
    obtain rfl := Option.some.inj hids
    split
    · rename_i heq
      rw [heq, List.getElem?_map, hplace]
      rfl
    · rename_i hne
      rw [List.mem_map]
      rintro ⟨e', he', hcast⟩
      obtain rfl := Int.ofNat_inj.1 hcast
      exact hne (layout.mem_expertRange.1 he').2.symm

/-- Two FFN ranks and one Attention rank that reports its layers. -/
def twoRanksLayout : DeepEPM2NLayout := ⟨2, 1, 4, Nat.two_pos, Nat.one_pos, rfl⟩

def twoRanksInfos : List (Option ModelInfo) :=
  let weights : LocalExpertWeights :=
    ⟨⟨"torch.bfloat16", [2, 16, 4]⟩, ⟨"torch.bfloat16", [2, 4, 8]⟩, none, none⟩
  [localModelInfo (some [1, 3]) (some (Dict.setAll ∅ [(1, ⟨[0, 1], weights⟩), (3, ⟨[0, 1], weights⟩)])),
    localModelInfo (some [1, 3]) (some (Dict.setAll ∅ [(3, ⟨[2, 3], weights⟩), (1, ⟨[2, 3], weights⟩)])),
    localModelInfo (some [1, 3]) none]

theorem model_check_sound_two_ranks : heldExperts twoRanksInfos 1 3 = some [2, 3] := by
  have hok : validateModelInfos twoRanksInfos twoRanksLayout 4 .bf16 = .ok () := by decide +kernel
  have hreport : ∃ info, some info ∈ twoRanksInfos := ⟨_, List.mem_cons_self⟩
  obtain ⟨moeLayers, hlayers, hheld, -⟩ := model_check_sound hreport hok
  have hfirst : [1, 3] = moeLayers := hlayers _ List.mem_cons_self
  rw [hheld 1 (by decide), ← hfirst]
  rfl

end AfdPlugin.Deepep
