import AfdPlugin.Connectors.DeepepM2n.Handshake
/-!
# The ranks plan alike

A plan reads the layout, the handshake's result, two options every rank must
configure alike, and the payload. An accepted list of reports fixes all but
the payload, on every rank.
-/

namespace AfdPlugin.Deepep

/-! ## Accepted reports -/

theorem checkAll_ok {α : Type} {check : Nat → α → Except String Unit} {start : Nat} {l : List α}
    (h : checkAll check start l = .ok ()) {i : Nat} {x : α} (hx : l[i]? = some x) :
    check (start + i) x = .ok () := by
  induction l generalizing start i with
  | nil => cases hx
  | cons y ys ih =>
    obtain ⟨_, hy, hys⟩ := Fallible.bind_eq_ok.1 h
    cases i with
    | zero => cases hx; exact hy
    | succ i =>
      have := ih hys hx
      rwa [Nat.add_assoc, Nat.add_comm 1 i] at this

theorem require_eq_ok {p : Prop} [Decidable p] {message : String} {u : Unit} :
    require p message = .ok u ↔ p := by
  unfold require
  split <;> simp_all

/-- What acceptance says, as far as the plans are concerned. -/
structure Accepted (infos : List HandshakeInfo) (layout : DeepEPM2NLayout) (r : HandshakeResult) :
    Prop where
  length : infos.length = layout.unionSize
  ranks : checkAll (checkRank layout) 0 infos = .ok ()
  mustMatch : checkAll (fun _ => checkMustMatch infos) 0 mustMatch = .ok ()
  attnTpSize : ∃ m, soleValue ((infos.drop layout.ffnSize).map (·.attnTpSize)) m = .ok r.attnTpSize
  attnTpSize_pos : 0 < r.attnTpSize
  capacity : ∃ m,
    soleValue ((infos.drop layout.ffnSize).map (·.capacityTokensPerRank) ++
      ((infos.take layout.ffnSize).map (·.capacityTokensPerRank)).filter Option.isSome) m =
      .ok r.capacityTokensPerRank
  ladder : ∃ m, soleValue ((infos.drop layout.ffnSize).map (·.bucketLadder)) m = .ok r.bucketLadder

theorem accepted {infos : List HandshakeInfo} {layout : DeepEPM2NLayout} {network : NetworkConfig}
    {r : HandshakeResult} (h : validateHandshake infos layout network = .ok r) :
    Accepted infos layout r := by
  obtain ⟨_, hlength, h⟩ := Fallible.bind_eq_ok.1 h
  obtain ⟨_, hranks, h⟩ := Fallible.bind_eq_ok.1 h
  obtain ⟨_, hmatch, h⟩ := Fallible.bind_eq_ok.1 h
  obtain ⟨_, -, h⟩ := Fallible.bind_eq_ok.1 h
  obtain ⟨_, -, h⟩ := Fallible.bind_eq_ok.1 h
  obtain ⟨_, -, h⟩ := Fallible.bind_eq_ok.1 h
  obtain ⟨tp, htp, h⟩ := Fallible.bind_eq_ok.1 h
  obtain ⟨_, hdvd, h⟩ := Fallible.bind_eq_ok.1 h
  obtain ⟨cap, hcap, h⟩ := Fallible.bind_eq_ok.1 h
  obtain ⟨ladder, hladder, h⟩ := Fallible.bind_eq_ok.1 h
  obtain ⟨plan, -, h⟩ := Fallible.bind_eq_ok.1 h
  cases h
  exact ⟨require_eq_ok.1 hlength, hranks, hmatch, ⟨_, htp⟩, (require_eq_ok.1 hdvd).1, ⟨_, hcap⟩,
    ⟨_, hladder⟩⟩

theorem soleValue_eq {α : Type} [DecidableEq α] {reports : List (Option α)} {m : String} {v : α}
    (h : soleValue reports m = .ok v) : reports.dedup = [some v] := by
  unfold soleValue at h
  split at h
  · rename_i hd
    rw [hd, Except.ok.inj h]
  · cases h

theorem soleValue_unique {α : Type} [DecidableEq α] {reports : List (Option α)} {m m' : String} {v v' : α}
    (h : soleValue reports m = .ok v) (h' : soleValue reports m' = .ok v') : v = v' := by
  have heq := (soleValue_eq h).symm.trans (soleValue_eq h')
  simpa using heq

namespace Accepted

variable {infos : List HandshakeInfo} {layout layout' : DeepEPM2NLayout} {r r' : HandshakeResult}

theorem role (h : Accepted infos layout r) {i : Nat} {info : HandshakeInfo} (hi : infos[i]? = some info) :
    info.role = if i < layout.ffnSize then .ffn else .attention := by
  have hrank := checkAll_ok h.ranks hi
  rw [Nat.zero_add] at hrank
  obtain ⟨_, hreq, -⟩ := Fallible.bind_eq_ok.1 hrank
  exact (require_eq_ok.1 hreq).2

/-- The roles fix where the FFN ranks end. -/
theorem ffnSize_le (h : Accepted infos layout r) (h' : Accepted infos layout' r') :
    layout'.ffnSize ≤ layout.ffnSize := by
  by_contra hlt
  have hpos := layout.attnSize_pos
  have hi : layout.ffnSize < infos.length := by rw [h.length, DeepEPM2NLayout.unionSize]; omega
  have hinfo := List.getElem?_eq_getElem hi
  have h1 := h.role hinfo
  have h2 := h'.role hinfo
  rw [if_neg (lt_irrefl _)] at h1
  rw [if_pos (not_le.1 hlt), h1] at h2
  cases h2

theorem sizes_eq (h : Accepted infos layout r) (h' : Accepted infos layout' r') :
    layout.ffnSize = layout'.ffnSize ∧ layout.attnSize = layout'.attnSize := by
  have hf := le_antisymm (h'.ffnSize_le h) (h.ffnSize_le h')
  have hlen := h.length.symm.trans h'.length
  simp only [DeepEPM2NLayout.unionSize] at hlen
  omega

/-- The negotiated values are the same wherever the reports are accepted. -/
theorem results_eq (h : Accepted infos layout r) (h' : Accepted infos layout' r') :
    r.attnTpSize = r'.attnTpSize ∧ r.capacityTokensPerRank = r'.capacityTokensPerRank ∧
      r.bucketLadder = r'.bucketLadder := by
  obtain ⟨hf, -⟩ := h.sizes_eq h'
  obtain ⟨⟨_, htp⟩, ⟨_, hcap⟩, ⟨_, hladder⟩⟩ := h.attnTpSize, h.capacity, h.ladder
  obtain ⟨⟨_, htp'⟩, ⟨_, hcap'⟩, ⟨_, hladder'⟩⟩ := h'.attnTpSize, h'.capacity, h'.ladder
  rw [hf] at htp hcap hladder
  exact ⟨soleValue_unique htp htp', soleValue_unique hcap hcap', soleValue_unique hladder hladder'⟩

/-- Two reports agree under every key that must match. -/
theorem mustMatch_eq (h : Accepted infos layout r) {n : Nat} {key : String × (HandshakeInfo → String)}
    (hkey : Deepep.mustMatch[n]? = some key) {info info' : HandshakeInfo} (hi : info ∈ infos)
    (hi' : info' ∈ infos) :
    key.2 info = key.2 info' := by
  have hlen := require_eq_ok.1 (checkAll_ok h.mustMatch hkey)
  obtain ⟨v, hv⟩ := List.length_eq_one_iff.1 hlen
  have hmem : ∀ i ∈ infos, key.2 i = v := fun i hi => by
    have := List.mem_dedup.2 (List.mem_map_of_mem (f := key.2) hi)
    rwa [hv, List.mem_singleton] at this
  rw [hmem info hi, hmem info' hi']

theorem options_eq (h : Accepted infos layout r) {info info' : HandshakeInfo} (hi : info ∈ infos)
    (hi' : info' ∈ infos) :
    info.numLanes = info'.numLanes ∧ info.bucketGranularity = info'.bucketGranularity ∧
      info.cpuSyncMinTokens = info'.cpuSyncMinTokens :=
  ⟨Nat.repr_injective (h.mustMatch_eq (n := 6) rfl hi hi'),
    Nat.repr_injective (h.mustMatch_eq (n := 9) rfl hi hi'),
    Nat.repr_injective (h.mustMatch_eq (n := 10) rfl hi hi')⟩

end Accepted

/-! ## Applying a payload -/

namespace DeepEPM2NAFDConnector

/-- The plan a rank with the given handshake result makes of one stage. -/
def planOf (c : DeepEPM2NAFDConnector) (r : HandshakeResult) (payload : AFDControlPayload)
    (md : AFDDPMetadata) :
    Except String StagePlan :=
  planStage md c.layout.attnSize r.attnTpSize r.capacityTokensPerRank c.config.bucketGranularity
    (payload.isGraphCapturing || payload.isGraphReplaying) r.bucketLadder c.config.cpuSyncMinTokens

/-- A connector that holds the result of its handshake. -/
structure Joined (c : DeepEPM2NAFDConnector) (infos : List HandshakeInfo) (r : HandshakeResult) : Prop where
  accepted : Accepted infos c.layout r
  attnTpSize : c.attnTpSize = some r.attnTpSize
  capacity : c.capacityTokensPerRank = some r.capacityTokensPerRank
  ladder : c.bucketLadder = some r.bucketLadder

theorem handshake_ok {c d : DeepEPM2NAFDConnector} {infos : List HandshakeInfo}
    (h : c.handshake infos = .ok d) :
    ∃ r, d.Joined infos r ∧ d.layout = c.layout ∧ d.config = c.config ∧ d.numLanes = c.numLanes ∧
      d.role = c.role ∧
      d.roleRank = c.roleRank := by
  obtain ⟨r, hr, h⟩ := Fallible.bind_eq_ok.1 h
  cases h
  exact ⟨r, ⟨Deepep.accepted hr, rfl, rfl, rfl⟩, rfl, rfl, rfl, rfl, rfl⟩

variable {c c' e : DeepEPM2NAFDConnector} {infos : List HandshakeInfo} {r r' : HandshakeResult}
  {payload : AFDControlPayload}

/-- Applying a payload succeeds when the stages fit the lanes and each stage
has a plan, and leaves exactly these plans. -/
theorem Joined.update_ok (h : c.Joined infos r) :
    c.updateStateFromDpMetadata payload = .ok e ↔
      payload.dpMetadataList.entries.length ≤ c.numLanes ∧ ∃ plans,
        List.Forall₂ (fun s p => p.1 = s.1 ∧ c.planOf r payload s.2 = .ok p.2)
          payload.dpMetadataList.entries plans ∧
        e = { c with stagePlans := Dict.setAll ∅ plans } := by
  unfold updateStateFromDpMetadata
  simp only [h.attnTpSize, h.capacity, h.ladder, Fallible.bind_eq_ok, require_eq_ok, exists_const,
    Fallible.mapM_ok_iff]
  refine and_congr_right fun _ => exists_congr fun plans => and_congr ?_ ?_
  · constructor
    · refine List.Forall₂.imp fun s p hp => ?_
      obtain ⟨plan, hplan, hp⟩ := hp
      cases hp
      exact ⟨rfl, hplan⟩
    · refine List.Forall₂.imp fun s p hp => ⟨p.2, hp.2, ?_⟩
      rw [← hp.1]
      rfl
  · exact ⟨fun h => (Except.ok.inj h).symm, fun h => h ▸ rfl⟩

theorem exists_left_of_forall₂ {α β : Type} {R : α → β → Prop} {l : List α} {r : List β}
    (h : List.Forall₂ R l r) {b : β} (hb : b ∈ r) : ∃ a ∈ l, R a b := by
  induction h with
  | nil => cases hb
  | cons hab _ ih =>
    rcases List.mem_cons.1 hb with rfl | hb
    · exact ⟨_, List.mem_cons_self, hab⟩
    · obtain ⟨a, ha, hR⟩ := ih hb
      exact ⟨a, List.mem_cons_of_mem _ ha, hR⟩

theorem forall₂_of_forall_exists {α β : Type} {R : α → β → Prop} {l : List α} (h : ∀ a ∈ l, ∃ b, R a b) :
    ∃ r, List.Forall₂ R l r := by
  induction l with
  | nil => exact ⟨[], .nil⟩
  | cons a l ih =>
    obtain ⟨b, hb⟩ := h a List.mem_cons_self
    obtain ⟨r, hr⟩ := ih fun a' ha' => h a' (List.mem_cons_of_mem a ha')
    exact ⟨b :: r, .cons hb hr⟩

theorem map_eq_of_forall₂ {α β γ : Type} {f : α → γ} {g : β → γ} {l : List α} {r : List β}
    (h : List.Forall₂ (fun a b => f a = g b) l r) : r.map g = l.map f := by
  induction h with
  | nil => rfl
  | cons hab _ ih => rw [List.map_cons, List.map_cons, hab, ih]

/-- A stage's plan after the update is its plan from the payload. -/
theorem Joined.get?_stagePlans (h : c.Joined infos r) (hu : c.updateStateFromDpMetadata payload = .ok e)
    (stage : Int) (plan : StagePlan) : e.stagePlans.get? stage = some plan ↔
      ∃ md, payload.dpMetadataList.get? stage = some md ∧ c.planOf r payload md = .ok plan := by
  obtain ⟨-, plans, hplans, rfl⟩ := h.update_ok.1 hu
  have hkeys : plans.map Prod.fst = payload.dpMetadataList.entries.map Prod.fst :=
    map_eq_of_forall₂ (hplans.imp fun s p hsp => hsp.1.symm)
  have hn : (plans.map Prod.fst).Nodup := hkeys ▸ payload.dpMetadataList.nodup
  simp only [Dict.get?_setAll_of_nodup _ hn, Dict.get?_empty, Option.or_none, ← mem_iff_lookup_eq_some hn]
  constructor
  · intro hmem
    obtain ⟨⟨s, md⟩, hs, hstage, hplan⟩ := exists_left_of_forall₂ hplans hmem
    cases hstage
    exact ⟨md, Dict.mem_entries_iff.1 hs, hplan⟩
  · rintro ⟨md, hmd, hplan⟩
    obtain ⟨p, hp, hstage, hplan'⟩ := exists_left_of_forall₂ hplans.flip (Dict.mem_entries_iff.2 hmd)
    cases hplan.symm.trans hplan'
    have heq : p = (stage, p.2) := Prod.ext hstage rfl
    exact heq ▸ hp

/-- An update needs only that the stages fit and all have plans. -/
theorem Joined.exists_update (h : c.Joined infos r) : (∃ e, c.updateStateFromDpMetadata payload = .ok e) ↔
    payload.dpMetadataList.entries.length ≤ c.numLanes ∧
      ∀ s ∈ payload.dpMetadataList.entries, ∃ plan, c.planOf r payload s.2 = .ok plan := by
  simp only [h.update_ok]
  constructor
  · rintro ⟨e, hlen, plans, hplans, -⟩
    refine ⟨hlen, fun s hs => ?_⟩
    obtain ⟨p, -, -, hplan⟩ := exists_left_of_forall₂ hplans.flip hs
    exact ⟨p.2, hplan⟩
  · rintro ⟨hlen, hall⟩
    obtain ⟨plans, hplans⟩ := forall₂_of_forall_exists (R := fun s p => p.1 = s.1 ∧
      c.planOf r payload s.2 = .ok p.2) fun s hs => (hall s hs).elim fun plan hplan =>
      ⟨(s.1, plan), rfl, hplan⟩
    exact ⟨_, hlen, plans, hplans, rfl⟩

end DeepEPM2NAFDConnector

/-! ## Rows -/

theorem sequenceParallelChunkRows_eq {tp : Nat} (htp : 0 < tp) (n : Nat) :
    sequenceParallelChunkRows tp n = n ⌈/⌉ tp := by
  have hdiv := Nat.div_add_mod n tp
  have hlt := Nat.mod_lt n htp
  rw [Nat.ceilDiv_eq_add_pred_div]
  simp only [sequenceParallelChunkRows]
  split
  · have h1 : n + (tp - n % tp) = tp * (n / tp + 1) := by rw [Nat.mul_add]; omega
    have h2 : n + tp - 1 = n % tp - 1 + tp * (n / tp + 1) := by rw [Nat.mul_add]; omega
    have hsmall : (n % tp - 1) / tp = 0 := Nat.div_eq_of_lt (by omega)
    rw [h1, h2, Nat.mul_div_cancel_left _ htp, Nat.add_mul_div_left _ _ htp, hsmall, Nat.zero_add]
  · have h2 : n + tp - 1 = tp - 1 + tp * (n / tp) := by omega
    rw [h2, Nat.add_mul_div_left _ _ htp, Nat.div_eq_of_lt (by omega : tp - 1 < tp), Nat.zero_add]

theorem dispatchedRows_eq {tp : Nat} (htp : 0 < tp) (n : Nat) : dispatchedRows tp n = n ⌈/⌉ tp := by
  unfold dispatchedRows
  split
  · exact sequenceParallelChunkRows_eq htp n
  · have h1 : tp = 1 := by omega
    rw [h1, ceilDiv_one]

/-! ## Agreement -/

/-- `p` is the payload itself, or what a receiver decodes. -/
def Delivered (payload p : AFDControlPayload) : Prop :=
  p = payload ∨ decodeControlPayload (encodeControlPayload payload) = .ok p

theorem Delivered.same {payload p : AFDControlPayload} (h : Delivered payload p) :
    p.dpMetadataList.entries.Perm payload.dpMetadataList.entries ∧
      p.isGraphCapturing = payload.isGraphCapturing ∧
      p.isGraphReplaying = payload.isGraphReplaying := by
  rcases h with rfl | h
  · exact ⟨.refl _, rfl, rfl⟩
  · obtain ⟨d, hperm, hd⟩ := decodeControlPayload_encode payload
    cases hd.symm.trans h
    exact ⟨hperm, rfl, rfl⟩

namespace DeepEPM2NAFDConnector

/-- The tokens this rank has in a stage: its DP rank's count, and one dummy
token where there is none. -/
def stageTokens (c : DeepEPM2NAFDConnector) (md : AFDDPMetadata) : Nat :=
  (max 1 (md.counts.getD (c.roleRank / c.attnTpSize.getD 1) 0)).toNat

/-- The rows this rank dispatches for `numTokens` tokens; an FFN rank takes
part with none. -/
def dispatchRows (c : DeepEPM2NAFDConnector) (numTokens : Nat) : Nat :=
  match c.role with
  | .attention => dispatchedRows (c.attnTpSize.getD 1) numTokens
  | .ffn => 0

/-- A rank's own report is among the gathered ones, under its world rank. -/
def Reported (c : DeepEPM2NAFDConnector) (infos : List HandshakeInfo) : Prop :=
  infos[c.worldRank]? = some c.localHandshakeInfo

variable {c c' d d' : DeepEPM2NAFDConnector} {infos : List HandshakeInfo} {r r' : HandshakeResult}

theorem planOf_eq (hc : c.Reported infos) (hc' : c'.Reported infos) (h : d.Joined infos r)
    (h' : d'.Joined infos r') (hcfg : d.config = c.config) (hcfg' : d'.config = c'.config)
    {payload p p' : AFDControlPayload} (hp : Delivered payload p) (hp' : Delivered payload p')
    (md : AFDDPMetadata) :
    d.planOf r p md = d'.planOf r' p' md := by
  obtain ⟨-, hattn⟩ := h.accepted.sizes_eq h'.accepted
  obtain ⟨htp, hcap, hladder⟩ := h.accepted.results_eq h'.accepted
  obtain ⟨-, hg, hm⟩ := h.accepted.options_eq (List.mem_of_getElem? hc) (List.mem_of_getElem? hc')
  have hg : c.config.bucketGranularity = c'.config.bucketGranularity := hg
  have hm : c.config.cpuSyncMinTokens = c'.config.cpuSyncMinTokens := hm
  simp only [planOf, hattn, htp, hcap, hladder, hcfg, hcfg', hg, hm, hp.same.2.1, hp.same.2.2, hp'.same.2.1,
    hp'.same.2.2]

/-- The bucket of a stage covers the rows of every rank. -/
theorem dispatchRows_le_bucket (h : d.Joined infos r) {p : AFDControlPayload} {md : AFDDPMetadata}
    {plan : StagePlan} (hplan : d.planOf r p md = .ok plan) {n : Nat} (hn : n ≤ d.stageTokens md) :
    d.dispatchRows n ≤ plan.bucket := by
  have htp := h.accepted.attnTpSize_pos
  obtain ⟨hone, hle⟩ := le_bucket_of_planStage d.config.bucketGranularity_pos hplan
  obtain ⟨tokens, most, htokens, -, -, -, hplanTokens, -, -⟩ := planStage_ok hplan
  simp only [dispatchRows, stageTokens, h.attnTpSize, Option.getD_some] at hn ⊢
  cases d.role with
  | ffn => exact Nat.zero_le _
  | attention =>
    dsimp only
    rw [dispatchedRows_eq htp]
    refine (ceilDiv_mono htp hn).trans ?_
    generalize hcount : md.counts.getD (d.roleRank / r.attnTpSize) 0 = count
    rcases le_or_gt count 1 with hsmall | hbig
    · rw [max_eq_left hsmall]
      exact ((ceilDiv_le_iff_le_mul htp).2 (by omega)).trans hone
    · have hmem : count ∈ md.counts := by
        rw [List.getD_eq_getElem?_getD] at hcount
        cases hget : md.counts[d.roleRank / r.attnTpSize]? with
        | none => rw [hget, Option.getD_none] at hcount; omega
        | some x => rw [hget] at hcount; exact hcount ▸ List.mem_of_getElem? hget
      have hslice :=
        hle _ (hplanTokens ▸ (mem_of_tokensPerAttentionRank htokens htp _).2 ⟨count, hmem, rfl⟩)
      rw [max_eq_right hbig.le]
      obtain ⟨k, rfl⟩ := Int.eq_ofNat_of_zero_le (by omega : 0 ≤ count)
      rw [neg_neg_ediv htp] at hslice
      exact_mod_cast hslice

end DeepEPM2NAFDConnector

open DeepEPM2NAFDConnector in
/-- Whichever two ranks of an accepted handshake apply a payload (the sender's
or the decoded one, after any earlier payloads): both or neither succeed, they
then hold a plan for every stage of the payload, and the same one, and the bucket
of a stage covers the rows either of them dispatches in it. -/
theorem deepep_plan_agreement {infos : List HandshakeInfo} {c c' d d' : DeepEPM2NAFDConnector}
    (hc : c.Reported infos) (hc' : c'.Reported infos) (hd : c.handshake infos = .ok d)
    (hd' : c'.handshake infos = .ok d') {payload p p' : AFDControlPayload} (hp : Delivered payload p)
    (hp' : Delivered payload p') (plans plans' : Dict Int StagePlan) :
    ((∃ e, { d with stagePlans := plans }.updateStateFromDpMetadata p = .ok e) ↔
      ∃ e', { d' with stagePlans := plans' }.updateStateFromDpMetadata p' = .ok e') ∧
    ∀ e e', { d with stagePlans := plans }.updateStateFromDpMetadata p = .ok e →
      { d' with stagePlans := plans' }.updateStateFromDpMetadata p' = .ok e' →
      (∀ stage, e.stagePlans.get? stage = e'.stagePlans.get? stage) ∧
      (∀ stage md, payload.dpMetadataList.get? stage = some md →
        ∃ plan, e.stagePlans.get? stage = some plan) ∧
      ∀ stage plan, e.stagePlans.get? stage = some plan →
        ∃ md, payload.dpMetadataList.get? stage = some md ∧
        tokensPerAttentionRank md d.layout.attnSize (d.attnTpSize.getD 1) = .ok plan.tokensPerAttnRank ∧
        ∀ n ≤ d.stageTokens md, d.dispatchRows n ≤ plan.bucket := by
  obtain ⟨r, hj, hlayout, hcfg, hlanes, hrole, hrank⟩ := handshake_ok hd
  obtain ⟨r', hj', hlayout', hcfg', hlanes', hrole', hrank'⟩ := handshake_ok hd'
  have h : Joined { d with stagePlans := plans } infos r :=
    ⟨hj.accepted, hj.attnTpSize, hj.capacity, hj.ladder⟩
  have h' : Joined { d' with stagePlans := plans' } infos r' :=
    ⟨hj'.accepted, hj'.attnTpSize, hj'.capacity, hj'.ladder⟩
  have hplan := planOf_eq hc hc' h h' hcfg hcfg' hp hp'
  have hperm := hp.same.1.trans hp'.same.1.symm
  have hnum : d.numLanes = d'.numLanes := by
    rw [hlanes, hlanes']
    exact (h.accepted.options_eq (List.mem_of_getElem? hc) (List.mem_of_getElem? hc')).1
  refine ⟨?_, fun e e' he he' => ⟨fun stage => ?_, fun stage md hmd => ?_, fun stage plan hstage => ?_⟩⟩
  · rw [h.exists_update, h'.exists_update, hperm.length_eq]
    refine and_congr (by rw [hnum]) (forall_congr' fun s => ?_)
    rw [hperm.mem_iff]
    exact imp_congr_right fun _ => exists_congr fun plan => by rw [hplan]
  · refine Option.ext fun plan => ?_
    rw [h.get?_stagePlans he, h'.get?_stagePlans he', Dict.get?_eq_of_perm hperm]
    exact exists_congr fun md => and_congr_right fun _ => by rw [hplan]
  · have hmd' := (Dict.get?_eq_of_perm hp.same.1 stage).trans hmd
    obtain ⟨-, hall⟩ := h.exists_update.1 ⟨e, he⟩
    obtain ⟨plan, hok⟩ := hall _ (Dict.mem_entries_iff.2 hmd')
    exact ⟨plan, (h.get?_stagePlans he stage plan).2 ⟨md, hmd', hok⟩⟩
  · obtain ⟨md, hmd, hok⟩ := (h.get?_stagePlans he stage plan).1 hstage
    obtain ⟨tokens, -, htokens, -, -, -, hplanTokens, -, -⟩ := planStage_ok hok
    refine ⟨md, (Dict.get?_eq_of_perm hp.same.1 stage).symm.trans hmd, ?_, fun n hn => ?_⟩
    · rw [hj.attnTpSize, Option.getD_some, hplanTokens]
      exact htokens
    · exact dispatchRows_le_bucket h hok hn

/-- One rank of the smallest deployment, one FFN and one Attention rank. -/
def soloConnector (role : AFDRole) : DeepEPM2NAFDConnector where
  role := role
  roleRank := 0
  config := ⟨.bf16, {}, 8, 0, by decide⟩
  layout := ⟨1, 1, 4, by decide, by decide, by decide⟩
  computeGateOnAttention := true
  hiddenSize := 16
  dtype := "torch.bfloat16"
  topK := 2
  numLanes := 1
  sm := (9, 0)
  topology := ⟨if role = .ffn then 0 else 1, "host", "host:host"⟩
  ffnDeployment := if role = .ffn then
    some ⟨true, 1, 1, "linear", false, "allgather_reducescatter", "bf16"⟩ else none
  expertAlignment := if role = .ffn then some 128 else none
  attnTpSize := if role = .ffn then none else some 1
  capacityTokensPerRank := if role = .ffn then none else some 64
  bucketLadder := if role = .ffn then none else some [8, 16]

def soloInfos : List HandshakeInfo :=
  [(soloConnector .ffn).localHandshakeInfo, (soloConnector .attention).localHandshakeInfo]

def soloJoined (role : AFDRole) : DeepEPM2NAFDConnector :=
  { soloConnector role with
    expertAlignment := some 128
    networkPlan := some ⟨1, 2, false, true, 3⟩
    attnTpSize := some 1
    capacityTokensPerRank := some 64
    bucketLadder := some [8, 16] }

/-- An Attention rank that plans five tokens; the FFN rank then has a plan for them
too, with room for them. -/
theorem deepep_plan_agreement_solo :
    ∃ e, { soloJoined .ffn with stagePlans := ∅ }.updateStateFromDpMetadata
      ⟨(∅ : Dict Int AFDDPMetadata).set 0 ⟨[5], 5⟩, false, false, false, false⟩ = .ok e ∧
      ∃ plan, e.stagePlans.get? 0 = some plan ∧ 5 ≤ plan.bucket := by
  have hattention : { soloJoined .attention with stagePlans := ∅ }.updateStateFromDpMetadata
    ⟨(∅ : Dict Int AFDDPMetadata).set 0 ⟨[5], 5⟩, false, false, false, false⟩ =
      .ok { soloJoined .attention with
        stagePlans := (∅ : Dict Int StagePlan).set 0 ⟨[5], 8, true, false⟩ } := by rfl
  have hc : (soloConnector .attention).Reported soloInfos := rfl
  have hc' : (soloConnector .ffn).Reported soloInfos := rfl
  have hd : (soloConnector .attention).handshake soloInfos = .ok (soloJoined .attention) := rfl
  have hd' : (soloConnector .ffn).handshake soloInfos = .ok (soloJoined .ffn) := rfl
  obtain ⟨hboth, hagree⟩ := deepep_plan_agreement hc hc' hd hd' (.inl rfl) (.inl rfl) ∅ ∅
  obtain ⟨e, he⟩ := hboth.1 ⟨_, hattention⟩
  obtain ⟨hsame, hplanned, hcovers⟩ := hagree _ e hattention he
  obtain ⟨plan, hplan⟩ := hplanned 0 ⟨[5], 5⟩ rfl
  obtain ⟨md, hmd, -, hrows⟩ := hcovers 0 plan hplan
  cases hmd
  exact ⟨e, he, plan, (hsame 0).symm.trans hplan, hrows 5 (by decide)⟩

end AfdPlugin.Deepep
