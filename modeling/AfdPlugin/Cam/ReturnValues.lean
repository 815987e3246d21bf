import AfdPlugin.Cam.ReceivedChunks
/-!
# What comes back

While rows and flags of combine-send arrive in any order, the rows of the experts that
a MoE rank has done with are there, and a flag that is set comes after all of them.
-/

namespace AfdPlugin.Cam

/-! ## Rows of a round -/

section Rows
variable {V S F : Type} {net : CamNet V S F} {a a' : AttnRank V} {rank m D : Nat}

/-- The output of an assignment's expert. -/
def CamNet.output (net : CamNet V S F) (round rank q : Nat) : V :=
  net.expert (net.layerIndex round rank) ((net.batch round rank).expertIds q)
    ((net.batch round rank).x (q / net.sh.topk))

/-- The outputs of the first `D` experts of MoE rank `m` are back. -/
def RowsBack (net : CamNet V S F) (a : AttnRank V) (rank m D : Nat) : Prop :=
  ∀ q < (net.batch a.round rank).assignments net.sh, (net.batch a.round rank).moeRank net.sh q = m →
    (net.batch a.round rank).localExpert net.sh q < D →
    a.window.row ((net.batch a.round rank).returnRow net.sh q) = net.output a.round rank q

theorem RowsBack.same (h : RowsBack net a rank m D) (hround : a'.round = a.round)
    (hrow : a'.window.row = a.window.row) :
    RowsBack net a' rank m D := by
  unfold RowsBack at h ⊢
  rw [hround, hrow]
  exact h

/-- A row of the round arrives. -/
theorem RowsBack.write (h : RowsBack net a rank m D) {q : Nat}
    (hq : q < (net.batch a.round rank).assignments net.sh) :
    RowsBack net { a with
      window := a.window.write net.sh
        (.row ((net.batch a.round rank).returnRow net.sh q) (net.output a.round rank q)) }
      rank m D := by
  intro q' hq' hmoe hD
  have hrow : ∀ r,
    (a.window.write net.sh
      (.row ((net.batch a.round rank).returnRow net.sh q) (net.output a.round rank q))).row r =
      Function.update a.window.row ((net.batch a.round rank).returnRow net.sh q)
    (net.output a.round rank q) r := fun _ => rfl
  refine (hrow _).trans ?_
  by_cases heq : (net.batch a.round rank).returnRow net.sh q' = (net.batch a.round rank).returnRow net.sh q
  · obtain rfl := returnRow_inj hq' hq heq
    exact Function.update_self _ _ _
  · rw [Function.update_of_ne heq]
    exact h q' hq' hmoe hD

end Rows

/-! ## The rows of a chunk -/

section Chunk
variable {V S F : Type} {net : CamNet V S F} {st : MoeRank V} {p : Progress} {m c : Nat}

def MoeOp.asRow : MoeOp V → Option ((Nat × Nat) × V)
  | .put rank (.row r x) => some ((rank, r), x)
  | _ => none

/-- The rows that a core of combine-send writes. -/
def rowPlan (net : CamNet V S F) (st : MoeRank V) (m c : Nat) : List ((Nat × Nat) × V) :=
  ((combineSendRows net.sh st.chunk.batchInfo (st.expertOut net m) c).map fun w =>
    MoeOp.put w.1 w.2).filterMap MoeOp.asRow

/-- An assignment of the group's `i`-th rank to an expert of the chunk. -/
structure ChunkEntry (net : CamNet V S F) (round : Nat) (info : Nat → Nat) (m i q : Nat) : Prop where
  rank : i < net.sh.tpSize
  lt : q < (net.batch round (info 1 + i)).assignments net.sh
  moeRank : (net.batch round (info 1 + i)).moeRank net.sh q = m
  first : info 3 ≤ (net.batch round (info 1 + i)).localExpert net.sh q
  last : (net.batch round (info 1 + i)).localExpert net.sh q ≤ info 4

/-- Its row. -/
def chunkRow (net : CamNet V S F) (round : Nat) (info : Nat → Nat) (i q : Nat) : (Nat × Nat) × V :=
  ((info 1 + i, (net.batch round (info 1 + i)).returnRow net.sh q), net.output round (info 1 + i) q)

/-- The cores together write one row for each assignment to an expert of the chunk. -/
theorem ChunkHeld.mem_rowPlan (h : ChunkHeld net st p m) (hadmitted : net.GroupsAdmitted)
    {x : (Nat × Nat) × V} :
    (∃ c < net.sh.moeAivNum, x ∈ rowPlan net st m c) ↔
      ∃ i q, ChunkEntry net (chunkRound net p st.chunk.batchInfo) st.chunk.batchInfo m i q ∧
        x = chunkRow net (chunkRound net p st.chunk.batchInfo) st.chunk.batchInfo i q := by
  obtain ⟨hgroup, w, hholds, hserving⟩ := h
  obtain ⟨flags, hserve, hflags⟩ := serveChunk_eq net.expert hserving hholds
  obtain ⟨hde, he⟩ := hholds.experts
  generalize chunkRound net p st.chunk.batchInfo = round at hserving hserve hflags ⊢
  have hoffset : ∀ i q, i < net.sh.tpSize → chunkRow net round st.chunk.batchInfo i q =
      ((st.chunk.batchInfo 1 + i, (net.batch round (st.chunk.batchInfo 1 + i)).returnRow net.sh q),
          net.expert (net.layerIndex round (st.chunk.batchInfo 1))
          ((net.batch round (st.chunk.batchInfo 1 + i)).expertIds q)
          ((net.batch round (st.chunk.batchInfo 1 + i)).x (q / net.sh.topk))) := by
    intro i q hi
    unfold chunkRow CamNet.output
    rw [hadmitted.layer _ _ hgroup i hi]
  -- among the writes of the chunk the rows are those of its assignments
  have hrows : ∀ rank r y, (rank, CombineWrite.row r y) ∈ serveChunk net.sh net.expert m st.chunk ↔
      ∃ c < net.sh.moeAivNum,
          (rank, CombineWrite.row r y) ∈ combineSendRows net.sh st.chunk.batchInfo
          (st.expertOut net m) c := by
    intro rank r y
    have hsplit : serveChunk net.sh net.expert m st.chunk =
      ((List.range net.sh.moeAivNum).flatMap fun c => combineSendRows net.sh st.chunk.batchInfo
        (st.expertOut net m) c) ++ (List.range net.sh.moeAivNum).flatMap fun c =>
      combineSendFlags net.sh V st.chunk.batchInfo m c := rfl
    rw [hsplit, List.mem_append, List.mem_flatMap]
    constructor
    · rintro (⟨c, hc, hmem⟩ | hmem)
      · exact ⟨c, List.mem_range.1 hc, hmem⟩
      · obtain ⟨c, -, hmem⟩ := List.mem_flatMap.1 hmem
        rw [combineSendFlags_eq] at hmem
        obtain ⟨i, -, heq⟩ := List.mem_map.1 hmem
        cases heq
    · rintro ⟨c, hc, hmem⟩
      exact .inl ⟨c, List.mem_range.2 hc, hmem⟩
  have hnone : ∀ rank r y, (rank, CombineWrite.row r y) ∉ flags := by
    intro rank r y hmem
    have hmem := hflags.mem_iff.1 hmem
    split at hmem
    · obtain ⟨i, -, heq⟩ := List.mem_map.1 hmem
      cases heq
    · exact absurd hmem List.not_mem_nil
  constructor
  · rintro ⟨c, hc, hx⟩
    obtain ⟨op, hop, hrow⟩ := List.mem_filterMap.1 hx
    obtain ⟨w', hw', rfl⟩ := List.mem_map.1 hop
    obtain ⟨i', -, r, y, rfl⟩ := mem_combineSendRows hw'
    obtain rfl := Option.some.inj hrow
    have hmem := (hrows _ _ _).2 ⟨c, hc, hw'⟩
    rw [hserve] at hmem
    have hmem := (List.mem_append.1 hmem).resolve_right (hnone _ _ _)
    obtain ⟨j, hj, hmem⟩ := List.mem_flatMap.1 hmem
    obtain ⟨i, hi, hmem⟩ := List.mem_flatMap.1 hmem
    obtain ⟨q, hq, heq⟩ := List.mem_map.1 hmem
    rw [List.mem_range] at hi hj
    obtain ⟨hlt, hid⟩ := mem_expertAssignments.1 hq
    obtain ⟨hrank, hlocal⟩ := rank_of_expertIds (by omega) hid
    obtain ⟨heq, hwrite⟩ := Prod.mk.inj heq
    obtain ⟨rfl, rfl⟩ := CombineWrite.row.inj hwrite
    refine ⟨i, q, ⟨hi, hlt, hrank, ?_, ?_⟩, ?_⟩
    · rw [hlocal]
      omega
    · rw [hlocal]
      omega
    · rw [hoffset i q hi, ← heq]
  · rintro ⟨i, q, ⟨hi, hlt, hrank, hfirst, hlast⟩, rfl⟩
    have hid : (net.batch round (st.chunk.batchInfo 1 + i)).expertIds q =
        net.sh.expertNumPerMoe * m +
        (st.chunk.batchInfo 3 + ((net.batch round (st.chunk.batchInfo 1 + i)).localExpert net.sh
          q - st.chunk.batchInfo 3)) := by
      rw [Nat.add_sub_cancel' hfirst, ← hrank]
      exact (Nat.div_add_mod _ _).symm
    have hmem : (st.chunk.batchInfo 1 + i, (net.batch round (st.chunk.batchInfo 1 + i)).returned net.sh
        (net.expert (net.layerIndex round (st.chunk.batchInfo 1))) q) ∈ serveChunk net.sh net.expert m
        st.chunk := by
      rw [hserve]
      refine List.mem_append_left _
        (List.mem_flatMap.2
          ⟨(net.batch round (st.chunk.batchInfo 1 + i)).localExpert net.sh q - st.chunk.batchInfo 3,
            List.mem_range.2 (by omega),
            List.mem_flatMap.2 ⟨i, List.mem_range.2 hi, List.mem_map.2 ⟨q, ?_, rfl⟩⟩⟩)
      exact mem_expertAssignments.2 ⟨hlt, hid⟩
    obtain ⟨c, hc, hmem⟩ := (hrows _ _ _).1 hmem
    rw [hoffset i q hi]
    exact ⟨c, hc, List.mem_filterMap.2 ⟨_, List.mem_map.2 ⟨_, hmem, rfl⟩, rfl⟩⟩

end Chunk

/-! ## Where a MoE rank is with a dispatch -/

section BackAt
variable {V S F : Type} {net : CamNet V S F} {st st' : MoeRank V} {sent : Nat → Nat} {p : Progress}
  {m g i D : Nat}

/-- The group's `i`-th rank is to get more, and is to have the outputs of the first `D`
experts. -/
def BackAt (net : CamNet V S F) (st : MoeRank V) (p : Progress) (g i D : Nat) : Prop :=
  i < net.sh.tpSize ∧
    match st.phase with
    | .search => p.current = some (g, D)
    | .rows _ => p.current = some (g, D)
    | .returns => st.chunk.batchInfo 1 = g ∧ st.chunk.batchInfo 3 = D
    | .flags => st.chunk.batchInfo 1 = g ∧ st.chunk.batchInfo 4 + 1 = D ∧
        (st.chunk.batchInfo 4 = net.sh.expertNumPerMoe - 1 → st.returned (g + i) < p.services g)

/-- The dispatch that the rank is to get more of is announced and not flagged. -/
theorem MoeInv.backAt (h : MoeInv net st sent p m)
    (htoken : ∀ rank < net.sh.attnRankNum, (st.window.region rank).tokenNum ≠ 0 → st.taken rank < sent rank)
    (hsent : ∀ rank < net.sh.attnRankNum, st.taken rank ≤ sent rank) (hback : BackAt net st p g i D) :
    IsGroup net.sh g ∧ st.returned (g + i) < sent (g + i) ∧
      (st.phase = .returns ∨ st.phase = .flags →
        chunkRound net p st.chunk.batchInfo = st.returned (g + i)) := by
  unfold MoeInv at h
  obtain ⟨hi, hback⟩ := hback
  have hopened : ∀ {k : Nat}, IsGroup net.sh g → RankOpen st k (g + i) →
      st.returned (g + i) < sent (g + i) := by
    intro k hg hopen
    have hlt := htoken _ (hg.rank_lt hi) hopen.tokenNum
    rw [hopen.taken, ← hopen.returned] at hlt
    exact hlt
  have hcleared : ∀ {k : Nat}, IsGroup net.sh g → RankCleared st k (g + i) →
      st.returned (g + i) < sent (g + i) := by
    intro k hg hclear
    have hle := hsent _ (hg.rank_lt hi)
    rw [hclear.taken, ← hclear.returned] at hle
    exact hle
  cases hcase : st.phase with
  | search =>
    rw [hcase] at h hback
    obtain ⟨cur, hsearch⟩ := h
    have hcur : cur = some (g, D) := by
      rcases hsearch.current with heq | hnone
      · exact heq.trans hback
      · exact absurd (hnone.symm.trans hback) (by simp)
    obtain ⟨hopen, -⟩ := hsearch.opened g D hcur
    exact ⟨hopen.group, hopened hopen.group (hopen.rank i hi), fun hphase => by simp at hphase⟩
  | rows k =>
    rw [hcase] at h hback
    obtain ⟨g', d, e, q, hrows⟩ := h
    have hcurrent := hrows.taken.current
    rw [show p.current = some (g, D) from hback] at hcurrent
    obtain ⟨rfl, -⟩ := Prod.mk.inj hcurrent
    refine ⟨hrows.taken.group, ?_, fun hphase => by simp at hphase⟩
    by_cases hq : i < q
    · exact hcleared hrows.taken.group (hrows.cleared i hq)
    · exact hopened hrows.taken.group (hrows.uncleared i (by omega) hi)
  | returns =>
    rw [hcase] at h hback
    obtain ⟨g', d, e, hreturns⟩ := h
    obtain ⟨hinfo1, -, hinfo4, -⟩ := hreturns.sending.recorded
    obtain ⟨rfl, -⟩ := hback
    rw [hinfo1] at hopened hcleared ⊢
    unfold chunkRound
    rw [hinfo1, hinfo4]
    by_cases he : e = net.sh.expertNumPerMoe - 1
    · obtain ⟨k, hk, hranks⟩ := hreturns.cleared he
      refine ⟨hreturns.sending.group, hcleared hreturns.sending.group (hranks i hi), fun _ => ?_⟩
      rw [if_pos he, hk, (hranks i hi).returned, Nat.add_sub_cancel]
    · obtain ⟨-, hopen⟩ := hreturns.sending.part he
      refine ⟨hopen.group, hopened hopen.group (hopen.rank i hi), fun _ => ?_⟩
      rw [if_neg he, (hopen.rank i hi).returned]
  | flags =>
    rw [hcase] at h hback
    obtain ⟨g', d, e, pending, hflags⟩ := h
    obtain ⟨hinfo1, -, hinfo4, -⟩ := hflags.sending.recorded
    obtain ⟨rfl, -, hwaits⟩ := hback
    rw [hinfo1, hinfo4] at hwaits
    rw [hinfo1] at hopened hcleared ⊢
    unfold chunkRound
    rw [hinfo1, hinfo4]
    by_cases he : e = net.sh.expertNumPerMoe - 1
    · obtain ⟨k, hk, hflagged⟩ := hflags.flagged he
      have hrank := hflagged i hi
      have hlt := hwaits he
      split at hrank
      · refine ⟨hflags.sending.group, hcleared hflags.sending.group hrank, fun _ => ?_⟩
        rw [if_pos he, hk, hrank.returned, Nat.add_sub_cancel]
      · rw [hrank.returned, hk] at hlt
        exact absurd hlt (Nat.lt_irrefl _)
    · obtain ⟨-, hopen⟩ := hflags.sending.part he
      refine ⟨hopen.group, hopened hopen.group (hopen.rank i hi), fun _ => ?_⟩
      rw [if_neg he, (hopen.rank i hi).returned]

/-- An Attention rank with a dispatch under way is in its round. -/
theorem AttnInv.collected_eq {a : AttnRank V} {region : Nat → AttnRegion V} {returned : Nat → Nat}
    {rank : Nat} (h : AttnInv net a region returned rank) (hm : m < net.sh.moeRankNum)
    (hlt : a.collected m < a.sent m) :
    a.collected m = a.round := by
  unfold AttnInv at h
  cases hcase : a.phase with
  | ready =>
    rw [hcase] at h
    exact (h.1 m hm).2
  | send =>
    rw [hcase] at h
    exact (h.1 m hm).2
  | announce =>
    rw [hcase] at h
    exact h.1 m hm
  | combine =>
    rw [hcase] at h
    exact (h.1 m hm).2
  | clear =>
    rw [hcase] at h
    obtain ⟨k, -, hclear⟩ := h
    obtain ⟨hsent, -, hcollected⟩ := hclear.flags m hm
    split at hcollected
    · rw [hsent, hcollected] at hlt
      exact absurd hlt (Nat.lt_irrefl _)
    · exact hcollected

/-- The rank that is to get more is in the round of the dispatch. -/
theorem CamSystem.Inv.backAt {s : CamSystem V} (h : s.Inv net) (hm : m < net.sh.moeRankNum)
    (hp : received net.sh.expertNumPerMoe (s.moe m).calls = some p) (hback : BackAt net (s.moe m) p g i D) :
    IsGroup net.sh g ∧ g + i < net.sh.attnRankNum ∧ (s.moe m).returned (g + i) = (s.attn (g + i)).round ∧
      ((s.moe m).phase = .returns ∨ (s.moe m).phase = .flags →
        chunkRound net p (s.moe m).chunk.batchInfo = (s.attn (g + i)).round) := by
  have hmoe := h.moe_of_received hm hp
  obtain ⟨hgroup, hlt, hround⟩ := hmoe.backAt (fun rank hrank => (h.link rank hrank m hm).tokenNum)
    (fun rank hrank => (h.link rank hrank m hm).handoff.taken_le) hback
  have hrank := hgroup.rank_lt hback.1
  obtain ⟨hcollected, -, -, hsent⟩ := (h.link (g + i) hrank m hm).handoff
  have heq := (h.attn (g + i) hrank).collected_eq hm (by omega)
  have hreturned : (s.moe m).returned (g + i) = (s.attn (g + i)).round := by omega
  exact ⟨hgroup, hrank, hreturned, fun hphase => (hround hphase).trans hreturned⟩

end BackAt

/-! ## What has come back -/

section MoeBack
variable {V S F : Type} (net : CamNet V S F) (attn : Nat → AttnRank V) (st : MoeRank V) (m : Nat)

/-- What the ranks have got of MoE rank `m`. A flag comes after all the rows. -/
structure MoeBack : Prop where
  part : ∀ p, received net.sh.expertNumPerMoe st.calls = some p → ∀ g i D, BackAt net st p g i D →
    RowsBack net (attn (g + i)) (g + i) m D
  rows : st.phase = .returns →
    Covered net.sh.moeAivNum (rowPlan net st m) (fun c => (st.core c).todo.filterMap MoeOp.asRow)
    fun place => (attn place.1).window.row place.2
  all : ∀ rank < net.sh.attnRankNum, st.returned rank = (attn rank).round + 1 →
    RowsBack net (attn rank) rank m net.sh.expertNumPerMoe
  flag : ∀ rank < net.sh.attnRankNum, (attn rank).window.moeFlag net.sh m ≠ 0 →
    (attn rank).window.moeFlag net.sh m = (net.batch (attn rank).round rank).moePrefix net.sh m + 1

variable {net attn st m} {attn' : Nat → AttnRank V} {st' : MoeRank V} {rank : Nat}

/-- Attention ranks change nothing but flags, which they clear. -/
theorem MoeBack.own (h : MoeBack net attn st m) (hround : ∀ r, (attn' r).round = (attn r).round)
    (hrow : ∀ r, (attn' r).window.row = (attn r).window.row)
    (hflag : ∀ r, (attn' r).window.moeFlag net.sh m = 0 ∨ (attn' r).window.moeFlag net.sh m =
      (attn r).window.moeFlag net.sh m) :
    MoeBack net attn' st m := by
  refine ⟨fun p hp g i D hback => (h.part p hp g i D hback).same (hround _) (hrow _), fun hphase => ?_,
    fun r hr hreturned => ?_, fun r hr hne => ?_⟩
  · refine (h.rows hphase).frame (fun _ _ _ => Iff.rfl) fun c _ w _ => ?_
    rw [hrow]
  · rw [hround] at hreturned
    exact (h.all r hr hreturned).same (hround r) (hrow r)
  · rcases hflag r with hzero | hsame
    · exact absurd hzero hne
    · rw [hsame] at hne
      rw [hsame, hround]
      exact h.flag r hr hne

/-- An Attention rank begins its next round. -/
theorem MoeBack.advance (h : MoeBack net attn st m) (hothers : ∀ r ≠ rank, attn' r = attn r)
    (hwindow : (attn' rank).window = (attn rank).window)
    (hround : (attn' rank).round = (attn rank).round + 1)
    (hreturned : st.returned rank = (attn rank).round + 1)
    (hflag : (attn rank).window.moeFlag net.sh m = 0)
    (hback : ∀ p, received net.sh.expertNumPerMoe st.calls = some p → ∀ g i D, BackAt net st p g i D →
      st.returned (g + i) = (attn (g + i)).round) : MoeBack net attn' st m := by
  refine ⟨fun p hp g i D hat => ?_, fun hphase => ?_, fun r hr hall => ?_, fun r hr hne => ?_⟩
  · have hother : g + i ≠ rank := by
      intro heq
      have hold := hback p hp g i D hat
      rw [heq, hreturned] at hold
      omega
    rw [hothers _ hother]
    exact h.part p hp g i D hat
  · refine (h.rows hphase).frame (fun _ _ _ => Iff.rfl) fun c _ w _ => ?_
    rcases eq_or_ne w.1.1 rank with heq | hne
    · rw [heq, hwindow]
    · rw [hothers _ hne]
  · rcases eq_or_ne r rank with rfl | hne
    · rw [hround, hreturned] at hall
      omega
    · rw [hothers r hne] at hall ⊢
      exact h.all r hr hall
  · rcases eq_or_ne r rank with rfl | hother
    · rw [hwindow] at hne
      exact absurd hflag hne
    · rw [hothers r hother] at hne ⊢
      exact h.flag r hr hne

/-- A step of dispatch-recv returns nothing. -/
theorem MoeBack.receive (h : MoeBack net attn st m) (hcase : st.phase ≠ .returns)
    (hcase' : st.phase ≠ .flags) (hphase : st'.phase = st.phase) (hcalls : st'.calls = st.calls)
    (hreturned : st'.returned = st.returned) :
    MoeBack net attn st' m := by
  refine ⟨fun p hp g i D hback => ?_, fun hreturns => ?_, fun r hr hall => ?_, h.flag⟩
  · rw [hcalls] at hp
    refine h.part p hp g i D ⟨hback.1, ?_⟩
    have hat := hback.2
    rw [hphase] at hat
    cases hp' : st.phase with
    | search =>
      rw [hp'] at hat
      exact hat
    | rows k =>
      rw [hp'] at hat
      exact hat
    | returns => exact absurd hp' hcase
    | flags => exact absurd hp' hcase'
  · exact absurd (hphase.symm.trans hreturns) hcase
  · rw [hreturned] at hall
    exact h.all r hr hall

/-- A row of a round arrives at its rank. -/
theorem MoeBack.row (h : MoeBack net attn st m) (hadmitted : net.GroupsAdmitted) {q : Nat}
    (hq : q < (net.batch (attn rank).round rank).assignments net.sh) {r : Nat} {x : V}
    (hr : r = (net.batch (attn rank).round rank).returnRow net.sh q)
    (hx : x = net.output (attn rank).round rank q)
    (hself : attn' rank = { attn rank with window := (attn rank).window.write net.sh (.row r x) })
    (hothers : ∀ r ≠ rank, attn' r = attn r) (hphase : st'.phase = st.phase)
    (hcalls : st'.calls = st.calls) (hchunk : st'.chunk = st.chunk)
    (hreturned : st'.returned = st.returned)
    (hheld : st.phase = .returns → ∃ p, received net.sh.expertNumPerMoe st.calls = some p ∧
      ChunkHeld net st p m ∧ ∀ i < net.sh.tpSize, chunkRound net p st.chunk.batchInfo =
        (attn (st.chunk.batchInfo 1 + i)).round)
    (hless : ∀ c < net.sh.moeAivNum, ∀ w ∈ (st'.core c).todo.filterMap MoeOp.asRow,
      w ∈ (st.core c).todo.filterMap MoeOp.asRow)
    (hrest : ∀ c < net.sh.moeAivNum, ∀ w ∈ (st.core c).todo.filterMap MoeOp.asRow,
      w ∈ (st'.core c).todo.filterMap MoeOp.asRow ∨ w = ((rank, r), x)) : MoeBack net attn' st' m := by
  subst hr hx
  have hround : ∀ r, (attn' r).round = (attn r).round := by
    intro r
    rcases eq_or_ne r rank with rfl | hne
    · rw [hself]
    · rw [hothers r hne]
  have hrows : ∀ {r D : Nat}, RowsBack net (attn r) r m D → RowsBack net (attn' r) r m D := by
    intro r D hr
    rcases eq_or_ne r rank with rfl | hne
    · rw [hself]
      exact hr.write hq
    · rw [hothers r hne]
      exact hr
  have hback : ∀ p g i D, BackAt net st' p g i D → BackAt net st p g i D := by
    intro p g i D hat
    unfold BackAt at hat ⊢
    rw [hphase, hchunk, hreturned] at hat
    exact hat
  refine ⟨fun p hp g i D hat => ?_, fun hreturns => ?_, fun r hr hall => ?_, fun r hr hne => ?_⟩
  · rw [hcalls] at hp
    exact hrows (h.part p hp g i D (hback p g i D hat))
  · rw [hphase] at hreturns
    obtain ⟨p, -, hchunkHeld, hrank⟩ := hheld hreturns
    have hplan : ∀ c, rowPlan net st' m c = rowPlan net st m c := by
      intro c
      unfold rowPlan MoeRank.expertOut
      rw [hchunk]
    have hplan : rowPlan net st' m = rowPlan net st m := funext hplan
    rw [hplan]
    refine (h.rows hreturns).write_planned
      (w := ((rank, (net.batch (attn rank).round rank).returnRow net.sh q),
        net.output (attn rank).round rank q)) (fun c hc w' hw' hplace => ?_) hless hrest ?_
      fun place hne => ?_
    · -- a planned row at the place is the same assignment's
      obtain ⟨i, q', hentry, rfl⟩ := (hchunkHeld.mem_rowPlan hadmitted).1 ⟨c, hc, hw'⟩
      unfold chunkRow at hplace ⊢
      obtain ⟨hfirst, hrow⟩ := Prod.mk.inj hplace
      have hlt := hentry.lt
      dsimp only
      rw [hrank i hentry.rank, hfirst] at hrow hlt ⊢
      rw [returnRow_inj hlt hq hrow]
    · dsimp only
      rw [hself]
      exact Function.update_self _ _ _
    · rcases eq_or_ne place.1 rank with heq | hother
      · have hrow : place.2 ≠ (net.batch (attn rank).round rank).returnRow net.sh q :=
          fun hrow => hne (Prod.ext heq hrow)
        rw [heq, hself]
        exact Function.update_of_ne hrow _ _
      · rw [hothers _ hother]
  · rw [hreturned, hround] at hall
    exact hrows (h.all r hr hall)
  · have hflag : (attn' r).window.moeFlag net.sh m = (attn r).window.moeFlag net.sh m := by
      rcases eq_or_ne r rank with rfl | hother
      · rw [hself]
        rfl
      · rw [hothers r hother]
    rw [hflag] at hne ⊢
    rw [hround]
    exact h.flag r hr hne

/-- Rows and flags are written in phases of their own. -/
theorem MoeInv.put_phase {sent : Nat → Nat} {p : Progress} {aivId : Nat} {w : CombineWrite V}
    {rest : List (MoeOp V)} (h : MoeInv net st sent p m) (haiv : aivId < net.sh.moeAivNum)
    (htodo : (st.core aivId).todo = .put rank w :: rest) :
    st.phase = .returns ∧ (∃ r x, w = .row r x) ∨ st.phase = .flags ∧ ∃ v, w = .flag m v := by
  have hmem : .put rank w ∈ (st.core aivId).todo := htodo ▸ List.mem_cons_self
  unfold MoeInv at h
  cases hcase : st.phase with
  | search =>
    rw [hcase] at h
    obtain ⟨cur, hsearch⟩ := h
    exact ((hsearch.core aivId haiv).no_put htodo).elim
  | rows k =>
    rw [hcase] at h
    obtain ⟨g, d, e, q, hrows⟩ := h
    exact (hrows.ops aivId haiv (.put rank w) hmem).elim
  | returns =>
    rw [hcase] at h
    obtain ⟨g, d, e, hreturns⟩ := h
    obtain ⟨i, -, r, x, heq⟩ := hreturns.ops aivId haiv (.put rank w) hmem
    cases heq
    exact .inl ⟨rfl, r, x, rfl⟩
  | flags =>
    rw [hcase] at h
    obtain ⟨g, d, e, pending, hflags⟩ := h
    rw [hflags.todo aivId haiv] at hmem
    obtain ⟨i, -, heq⟩ := List.mem_map.1 hmem
    cases heq
    exact .inr ⟨rfl, _, rfl⟩

/-- Only dispatch-recv computes. -/
theorem MoeInv.op_phase {sent : Nat → Nat} {p : Progress} {aivId : Nat} {op : MoeOp V}
    {rest : List (MoeOp V)} (h : MoeInv net st sent p m) (haiv : aivId < net.sh.moeAivNum)
    (htodo : (st.core aivId).todo = op :: rest) (hop : st.op net aivId rest op = some st') :
    st.phase ≠ .returns ∧ st.phase ≠ .flags ∧ st'.phase = st.phase := by
  have hmem : op ∈ (st.core aivId).todo := htodo ▸ List.mem_cons_self
  unfold MoeInv at h
  cases hcase : st.phase with
  | search =>
    rw [hcase] at h
    obtain ⟨cur, hsearch⟩ := h
    obtain ⟨hphase, -⟩ := MoeRank.op_effect hop fun rank => (hsearch.core aivId haiv).touched htodo
    exact ⟨by simp, by simp, hphase.trans hcase⟩
  | rows k =>
    rw [hcase] at h
    obtain ⟨g, d, e, q, hrows⟩ := h
    obtain ⟨hphase, -⟩ :=
      MoeRank.op_effect hop fun rank => hrows.touched haiv (hrows.ops aivId haiv op hmem)
    exact ⟨by simp, by simp, hphase.trans hcase⟩
  | returns =>
    rw [hcase] at h
    obtain ⟨g, d, e, hreturns⟩ := h
    obtain ⟨i, -, r, x, rfl⟩ := hreturns.ops aivId haiv op hmem
    cases hop
  | flags =>
    rw [hcase] at h
    obtain ⟨g, d, e, pending, hflags⟩ := h
    rw [hflags.todo aivId haiv] at hmem
    obtain ⟨i, -, rfl⟩ := List.mem_map.1 hmem
    cases hop

/-- The MoE rank's flag arrives. -/
theorem MoeBack.flagged (h : MoeBack net attn st m) {p : Progress}
    (hp : received net.sh.expertNumPerMoe st.calls = some p) {sent : Nat → Nat} {aivId v : Nat}
    {rest : List (MoeOp V)} (hmoe : MoeInv net st sent p m) (hheld : Receives net st p m)
    (haiv : aivId < net.sh.moeAivNum) (htodo : (st.core aivId).todo = .put rank (.flag m v) :: rest)
    (hround : ∀ g i D, BackAt net st p g i D → st.returned (g + i) = (attn (g + i)).round ∧
      (st.phase = .returns ∨ st.phase = .flags →
        chunkRound net p st.chunk.batchInfo = (attn (g + i)).round))
    (hself : attn' rank = { attn rank with window := (attn rank).window.write net.sh (.flag m v) })
    (hothers : ∀ r ≠ rank, attn' r = attn r) :
    MoeBack net attn' (st.put aivId rest rank (.flag m v)) m := by
  have hphase : st.phase = .flags := by
    rcases hmoe.put_phase haiv htodo with ⟨-, r, x, heq⟩ | ⟨hphase, -⟩
    · cases heq
    · exact hphase
  unfold MoeInv at hmoe
  unfold Receives at hheld
  rw [hphase] at hmoe hheld
  obtain ⟨g, d, e, pending, hflags⟩ := hmoe
  obtain ⟨hgroup, w, hholds, hserving⟩ := hheld
  obtain ⟨hinfo1, -, hinfo4, -⟩ := hflags.sending.recorded
  have hops := htodo.symm.trans (hflags.todo aivId haiv)
  have hmem : MoeOp.put rank (.flag m v) ∈ (pending aivId).map fun i =>
      MoeOp.put (V := V) (g + i) (.flag m (st.chunk.batchInfo (INFO_NUM + i) + 1)) :=
        hops ▸ List.mem_cons_self
  obtain ⟨i, hpending, heq⟩ := List.mem_map.1 hmem
  obtain ⟨hi, hown⟩ := (hflags.share aivId haiv).2 i hpending
  cases heq
  have he : e = net.sh.expertNumPerMoe - 1 := by
    by_contra hne
    rw [hflags.none hne aivId haiv] at hpending
    exact absurd hpending List.not_mem_nil
  obtain ⟨k, hk, hranks⟩ := hflags.flagged he
  have hcleared := hranks i hi
  rw [hown, if_pos hpending] at hcleared
  -- what was to come is there
  have hat : BackAt net st p g i net.sh.expertNumPerMoe := by
    unfold BackAt
    rw [hphase]
    refine ⟨hi, hinfo1, ?_, fun _ => ?_⟩
    · rw [hinfo4, he]
      exact Nat.sub_add_cancel net.sh.expertNumPerMoe_pos
    · rw [hcleared.returned, hk]
      exact Nat.lt_succ_self k
  obtain ⟨hreturned, hchunk⟩ := hround g i _ hat
  have hchunk := hchunk (.inr hphase)
  have hrow : ∀ r, (attn' r).window.row = (attn r).window.row := by
    intro r
    rcases eq_or_ne r (g + i) with rfl | hne
    · rw [hself]
      rfl
    · rw [hothers r hne]
  have hround' : ∀ r, (attn' r).round = (attn r).round := by
    intro r
    rcases eq_or_ne r (g + i) with rfl | hne
    · rw [hself]
    · rw [hothers r hne]
  have hput : (st.put aivId rest (g + i) (.flag m (st.chunk.batchInfo (INFO_NUM + i) + 1))).returned =
      Function.update st.returned (g + i) (st.returned (g + i) + 1) := rfl
  refine ⟨fun p' hp' g' i' D hback => ?_, fun hreturns => ?_, fun r hr hall => ?_, fun r hr hne => ?_⟩
  · refine (h.part p' hp' g' i' D ?_).same (hround' _) (hrow _)
    unfold BackAt at hback ⊢
    have hphase' : (st.put aivId rest (g + i) (.flag m (st.chunk.batchInfo (INFO_NUM + i) + 1))).phase =
      .flags := hphase
    rw [hphase', hput] at hback
    rw [hphase]
    obtain ⟨hi', hfirst, hlast, hwaits⟩ := hback
    refine ⟨hi', hfirst, hlast, fun hend => ?_⟩
    have hlt := hwaits hend
    rcases eq_or_ne (g' + i') (g + i) with heq | hne
    · rw [heq, Function.update_self] at hlt
      rw [heq]
      omega
    · rwa [Function.update_of_ne hne] at hlt
  · exact absurd (hphase.symm.trans hreturns) (by simp)
  · rw [hput, hround'] at hall
    rcases eq_or_ne r (g + i) with rfl | hne
    · exact (h.part p hp g i _ hat).same (hround' _) (hrow _)
    · rw [Function.update_of_ne hne] at hall
      exact (h.all r hr hall).same (hround' _) (hrow _)
  · rw [hround']
    rcases eq_or_ne r (g + i) with rfl | hother
    · obtain ⟨g'', hg'', hregion⟩ := hserving i hi
      have hprefix := hholds.prefixes i hi
      rw [hregion] at hprefix
      have hprefix : st.chunk.batchInfo (INFO_NUM + i) =
          (net.batch (chunkRound net p st.chunk.batchInfo) (st.chunk.batchInfo 1 + i)).moePrefix net.sh m :=
        hprefix.trans hg''.moePreTokenNum
      rw [hself]
      have hflag :=
        moeFlag_write_flag net.sh (attn (g + i)).window m (st.chunk.batchInfo (INFO_NUM + i) + 1) m
      rw [if_pos rfl] at hflag
      rw [hchunk, hinfo1] at hprefix
      exact hflag.trans (congrArg (· + 1) hprefix)
    · rw [hothers r hother] at hne ⊢
      exact h.flag r hr hne

/-- A MoE rank passes a barrier. What it has planned has come when its cores are done. -/
theorem MoeBack.next (h : MoeBack net attn st m) (hadmitted : net.GroupsAdmitted) {p p' : Progress}
    (hp : received net.sh.expertNumPerMoe st.calls = some p)
    (hp' : received net.sh.expertNumPerMoe st'.calls = some p') {sent : Nat → Nat}
    (hmoe : MoeInv net st sent p m) (hheld : Receives net st p m)
    (hround : ∀ g i D, BackAt net st p g i D → st.returned (g + i) = (attn (g + i)).round ∧
      (st.phase = .returns ∨ st.phase = .flags →
        chunkRound net p st.chunk.batchInfo = (attn (g + i)).round))
    (htodo : ∀ c < net.sh.moeAivNum, (st.core c).todo = []) (hnext : st.next net m = some st') :
    MoeBack net attn st' m := by
  have hsome : ∀ {q : Progress}, received net.sh.expertNumPerMoe st'.calls = some q → q = p' := fun hq =>
    Option.some.inj (hq.symm.trans hp')
  have hsame : st'.calls = st.calls → p' = p := by
    intro hcalls
    rw [hcalls, hp] at hp'
    exact (Option.some.inj hp').symm
  unfold MoeInv at hmoe
  unfold Receives at hheld
  unfold MoeRank.next at hnext
  cases hcase : st.phase with
  | search =>
    rw [hcase] at hnext
    cases hnext
    refine ⟨fun q hq g i D hback => h.part p hp g i D ?_, fun hreturns => (by cases hreturns),
      h.all, h.flag⟩
    obtain rfl := hsome hq
    obtain rfl := hsame rfl
    unfold BackAt
    rw [hcase]
    exact hback
  | rows k =>
    rw [hcase] at hnext
    dsimp only at hnext
    split at hnext
    · cases hnext
      refine ⟨fun q hq g i D hback => h.part p hp g i D ?_, fun hreturns => (by cases hreturns),
        h.all, h.flag⟩
      obtain rfl := hsome hq
      obtain rfl := hsame rfl
      unfold BackAt
      rw [hcase]
      exact hback
    · split at hnext
      · cases hnext
        refine ⟨fun q hq g i D hback => ?_, fun _ => covered_start _ _, h.all, h.flag⟩
        obtain ⟨hi, rfl, rfl⟩ := hback
        -- the chunk goes on where the last one ended
        rw [received_append, hp] at hp'
        change p.call net.sh.expertNumPerMoe ⟨st.chunk.batchInfo 1, st.chunk.batchInfo 3,
          st.chunk.batchInfo 4⟩ = some p' at hp'
        unfold Progress.call at hp'
        split at hp'
        · rename_i hcall
          have hstart := hcall.1
          dsimp only at hstart
          cases hcurrent : p.current with
          | none =>
            rw [hcurrent] at hstart
            have hzero : st.chunk.batchInfo 3 = 0 := (Prod.mk.inj hstart).2.symm
            intro q hq hrank hlt
            exact absurd (hzero ▸ hlt) (Nat.not_lt_zero _)
          | some cur =>
            rw [hcurrent] at hstart
            refine h.part p hp _ i _ ⟨hi, ?_⟩
            rw [hcase]
            exact hcurrent.trans (congrArg some hstart)
        · cases hp'
      · cases hnext
  | returns =>
    rw [hcase] at hnext hheld hmoe
    cases hnext
    obtain ⟨g', d, e, hreturns⟩ := hmoe
    obtain ⟨hinfo1, hinfo3, hinfo4, -⟩ := hreturns.sending.recorded
    refine ⟨fun q hq g i D hback => ?_, fun hreturns => (by cases hreturns), h.all, h.flag⟩
    obtain ⟨hi, rfl, rfl, -⟩ := hback
    have hat : BackAt net st p (st.chunk.batchInfo 1) i (st.chunk.batchInfo 3) := by
      unfold BackAt
      rw [hcase]
      exact ⟨hi, rfl, rfl⟩
    have hbefore := h.part p hp _ i _ hat
    have hchunk := (hround _ i _ hat).2 (.inl hcase)
    intro q hq hrank hlt
    change (net.batch (attn (st.chunk.batchInfo 1 + i)).round (st.chunk.batchInfo 1 + i)).localExpert
      net.sh q < st.chunk.batchInfo 4 + 1 at hlt
    by_cases hfirst :
      (net.batch (attn (st.chunk.batchInfo 1 + i)).round (st.chunk.batchInfo 1 + i)).localExpert net.sh
      q < st.chunk.batchInfo 3
    · exact hbefore q hq hrank hfirst
    · have hentry : ChunkEntry net (chunkRound net p st.chunk.batchInfo) st.chunk.batchInfo m i q := by
        rw [hchunk]
        exact ⟨hi, hq, hrank, Nat.not_lt.1 hfirst, Nat.lt_succ_iff.1 hlt⟩
      obtain ⟨c, hc, hmem⟩ := (hheld.mem_rowPlan hadmitted).2 ⟨i, q, hentry, rfl⟩
      have hdone := (h.rows hcase).all_done (fun c hc => by rw [htodo c hc]; rfl) hc hmem
      unfold chunkRow at hdone
      rw [hchunk] at hdone
      exact hdone
  | flags =>
    rw [hcase] at hnext hmoe
    cases hnext
    obtain ⟨g', d, e, pending, hflags⟩ := hmoe
    obtain ⟨hinfo1, -, hinfo4, -⟩ := hflags.sending.recorded
    refine ⟨fun q hq g i D hback => h.part p hp g i D ?_, fun hreturns => (by cases hreturns),
      h.all, h.flag⟩
    obtain rfl := hsome hq
    obtain rfl := hsame rfl
    obtain ⟨hi, hcurrent⟩ := hback
    have hcurrent : q.current = some (g, D) := hcurrent
    have he : e ≠ net.sh.expertNumPerMoe - 1 := by
      intro he
      rw [hflags.sending.last he] at hcurrent
      cases hcurrent
    obtain ⟨hpart, -⟩ := hflags.sending.part he
    obtain ⟨rfl, rfl⟩ := Prod.mk.inj (Option.some.inj (hcurrent.symm.trans hpart))
    unfold BackAt
    rw [hcase, hinfo1, hinfo4]
    exact ⟨hi, rfl, rfl, fun heq => absurd heq he⟩

end MoeBack

/-! ## The system -/

namespace CamSystem
variable {V S F : Type} {net : CamNet V S F} {s s' : CamSystem V} {rank m aivId : Nat}

/-- What the Attention ranks get back is what the MoE ranks have computed for them. -/
def Back (net : CamNet V S F) (s : CamSystem V) : Prop :=
  ∀ m < net.sh.moeRankNum, MoeBack net s.attn (s.moe m) m

theorem Start.back (h : s.Start net) : s.Back net := by
  intro m hm
  obtain ⟨hphase, -, -, hcalls, hranks⟩ := h.moe m hm
  refine ⟨fun p hp g i D hback => ?_, fun hreturns => ?_, fun r hr hall => ?_, fun r hr hne => ?_⟩
  · rw [hcalls] at hp
    obtain rfl := Option.some.inj hp
    have hcurrent := hback.2
    rw [hphase] at hcurrent
    cases hcurrent
  · rw [hphase] at hreturns
    cases hreturns
  · rw [(hranks r hr).2.2.2] at hall
    exact absurd hall.symm (Nat.succ_ne_zero _)
  · exact absurd ((h.attn r hr).2.2.2 m hm).1 hne

/-- The MoE ranks' own view of what is to come. -/
theorem Inv.backRound (h : s.Inv net) (hm : m < net.sh.moeRankNum) {p : Progress}
    (hp : AfdPlugin.Cam.received net.sh.expertNumPerMoe (s.moe m).calls = some p) :
    ∀ g i D, BackAt net (s.moe m) p g i D → (s.moe m).returned (g + i) = (s.attn (g + i)).round ∧
      ((s.moe m).phase = .returns ∨ (s.moe m).phase = .flags →
        chunkRound net p (s.moe m).chunk.batchInfo = (s.attn (g + i)).round) := by
  intro g i D hback
  obtain ⟨-, -, hreturned, hround⟩ := h.backAt hm hp hback
  exact ⟨hreturned, hround⟩

/-- An Attention rank takes a step of its own. -/
theorem Back.setAttn (h : s.Back net) {a : AttnRank V} (hround : a.round = (s.attn rank).round)
    (hrow : a.window.row = (s.attn rank).window.row)
    (hflag : ∀ m, a.window.moeFlag net.sh m = 0 ∨
      a.window.moeFlag net.sh m = (s.attn rank).window.moeFlag net.sh m) :
    (s.setAttn rank a).Back net := by
  intro m hm
  refine (h m hm).own (fun r => ?_) (fun r => ?_) fun r => ?_
  · rcases eq_or_ne r rank with rfl | hne
    · rw [setAttn_attn_self, hround]
    · rw [setAttn_attn_of_ne _ _ _ hne]
  · rcases eq_or_ne r rank with rfl | hne
    · rw [setAttn_attn_self, hrow]
    · rw [setAttn_attn_of_ne _ _ _ hne]
  · rcases eq_or_ne r rank with rfl | hne
    · rw [setAttn_attn_self]
      exact hflag m
    · rw [setAttn_attn_of_ne _ _ _ hne]
      exact .inr rfl

/-- A write to a region returns nothing. -/
theorem Back.land (h : s.Back net) (op : AttnOp V) : (s.land rank op).Back net := by
  cases op with
  | write m' w =>
    intro m hm
    rcases eq_or_ne m m' with rfl | hne
    · have hmoe : (s.land rank (.write m w)).moe m =
          (s.moe m).landed rank (((s.moe m).window.region rank).write w) :=
        setMoe_moe_self _ _ _
      rw [hmoe]
      have hold := h m hm
      exact ⟨hold.part, hold.rows, hold.all, hold.flag⟩
    · have hmoe : (s.land rank (.write m' w)).moe m = s.moe m := setMoe_moe_of_ne _ _ _ hne
      rw [hmoe]
      exact h m hm
  | load | seed | poll | gather | clear => exact h

theorem Back.attnOp (h : s.Back net) (aivId : Nat) (rest : List (AttnOp V)) (op : AttnOp V) :
    ((s.setAttn rank ((s.attn rank).op net rank aivId rest op)).land rank op).Back net := by
  refine Back.land (Back.setAttn h (AttnRank.op_round op) ?_ fun m => ?_) op
  · cases op <;> rfl
  · cases op with
    | clear m' =>
      have hflag := moeFlag_write_flag net.sh (s.attn rank).window m' 0 m
      split at hflag
      · exact .inl hflag
      · exact .inr hflag
    | write | load | seed | poll | gather => exact .inr rfl

/-- A rank passes a barrier; past the last one all of its flags are cleared. -/
theorem Back.attnNext (h : s.Back net) (hinv : s.Inv net) (hrank : rank < net.sh.attnRankNum)
    (hphase : (s.attn rank).phase ≠ .ready)
    (htodo : ∀ aivId < net.sh.attnAivNum, (s.attn rank).todo aivId = []) :
    (s.setAttn rank ((s.attn rank).next net rank)).Back net := by
  have hattn := hinv.attn rank hrank
  obtain ⟨-, -, -, hwindow⟩ := hattn.next hphase htodo
  have hsame : ((s.attn rank).next net rank).round = (s.attn rank).round →
      (s.setAttn rank ((s.attn rank).next net rank)).Back net :=
    fun hround => Back.setAttn h hround (by rw [hwindow]) fun m => .inr (by rw [hwindow])
  unfold AttnInv at hattn
  cases hcase : (s.attn rank).phase with
  | ready => exact absurd hcase hphase
  | send => exact hsame (by unfold AttnRank.next; rw [hcase])
  | announce => exact hsame (by unfold AttnRank.next; rw [hcase])
  | combine => exact hsame (by unfold AttnRank.next; rw [hcase])
  | clear =>
    rw [hcase] at hattn
    obtain ⟨k, hk, hclear⟩ := hattn
    obtain rfl : k = net.sh.moeRankNum := by
      have hfirst := hclear.todo 0 net.sh.attnAivNum_pos
      rw [htodo 0 net.sh.attnAivNum_pos, if_pos rfl] at hfirst
      have hlen := congrArg List.length hfirst
      simp only [List.length_nil, List.length_map, List.length_range'] at hlen
      omega
    intro m hm
    obtain ⟨hsent, hreturned, hcollected⟩ := hclear.flags m hm
    rw [if_pos hm] at hcollected
    obtain ⟨p, hp, -⟩ := hinv.moe m hm
    refine (h m hm).advance (fun r (hne : r ≠ rank) => setAttn_attn_of_ne _ _ _ hne) ?_ ?_ hreturned ?_
        fun p hp g i D hback =>
      (hinv.backRound hm hp g i D hback).1
    · rw [setAttn_attn_self, hwindow]
    · rw [setAttn_attn_self]
      unfold AttnRank.next
      rw [hcase]
    · by_contra hne
      have hlt := (hinv.link rank hrank m hm).moeFlag hne
      rw [hcollected, hreturned] at hlt
      exact absurd hlt (Nat.lt_irrefl _)

/-- The chunk whose rows are written is of the round that its ranks are in. -/
theorem Received.held (h : s.Received net) (hinv : s.Inv net) (hm : m < net.sh.moeRankNum)
    (hphase : (s.moe m).phase = .returns) :
    ∃ p, AfdPlugin.Cam.received net.sh.expertNumPerMoe (s.moe m).calls = some p ∧
      ChunkHeld net (s.moe m) p m ∧
      ∀ i < net.sh.tpSize, chunkRound net p (s.moe m).chunk.batchInfo =
        (s.attn ((s.moe m).chunk.batchInfo 1 + i)).round := by
  obtain ⟨p, hp, -⟩ := hinv.moe m hm
  have hheld := h m hm p hp
  unfold Receives at hheld
  rw [hphase] at hheld
  refine ⟨p, hp, hheld, fun i hi => ?_⟩
  have hat : BackAt net (s.moe m) p ((s.moe m).chunk.batchInfo 1) i ((s.moe m).chunk.batchInfo 3) := by
    unfold BackAt
    rw [hphase]
    exact ⟨hi, rfl, rfl⟩
  exact (hinv.backRound hm hp _ i _ hat).2 (.inl hphase)

/-- A row of combine-send arrives. -/
theorem Back.putRow (h : s.Back net) (hadmitted : net.GroupsAdmitted) (hinv : s.Inv net)
    (hreceived : s.Received net) (hm : m < net.sh.moeRankNum) (haiv : aivId < net.sh.moeAivNum)
    {r : Nat} {x : V} {rest : List (MoeOp V)}
    (htodo : ((s.moe m).core aivId).todo = .put rank (.row r x) :: rest)
    (hphase : (s.moe m).phase = .returns) :
    ((s.setMoe m ((s.moe m).put aivId rest rank (.row r x))).setAttn rank
      { s.attn rank with window := (s.attn rank).window.write net.sh (.row r x) }).Back net := by
  obtain ⟨p, hp, hheld, hround⟩ := hreceived.held hinv hm hphase
  -- the row is of an assignment of the rank's round
  have hqueue : ((rank, r), x) ∈ ((s.moe m).core aivId).todo.filterMap MoeOp.asRow := by
    rw [htodo]
    exact List.mem_cons_self
  obtain ⟨i, q, hentry, heq⟩ := (hheld.mem_rowPlan hadmitted).1
    ⟨aivId, haiv, ((h m hm).rows hphase).planned aivId haiv _ hqueue⟩
  unfold chunkRow at heq
  obtain ⟨hplace, hx⟩ := Prod.mk.inj heq
  obtain ⟨hrank, hr⟩ := Prod.mk.inj hplace
  have hq := hentry.lt
  rw [hround i hentry.rank, ← hrank] at hr hx hq
  intro m' hm'
  have hself := setAttn_attn_self (s.setMoe m ((s.moe m).put aivId rest rank (.row r x))) rank
    { s.attn rank with window := (s.attn rank).window.write net.sh (.row r x) }
  have hothers : ∀ r' ≠ rank, ((s.setMoe m ((s.moe m).put aivId rest rank (.row r x))).setAttn rank
      { s.attn rank with window := (s.attn rank).window.write net.sh (.row r x) }).attn r' = s.attn r' :=
    fun r' hne => setAttn_attn_of_ne _ _ _ hne
  rcases eq_or_ne m' m with rfl | hne
  · rw [setAttn_moe, setMoe_moe_self]
    have hcore : ∀ c, (((s.moe m').put aivId rest rank (.row r x)).core c).todo =
        if c = aivId then rest else ((s.moe m').core c).todo := by
      intro c
      dsimp only [MoeRank.put, MoeRank.setCore]
      split
      · rename_i heq
        subst heq
        rw [Function.update_self]
      · rename_i hne
        rw [Function.update_of_ne hne]
    refine (h m' hm').row hadmitted hq hr hx hself hothers
      rfl rfl rfl rfl (fun hreturns => hreceived.held hinv hm' hreturns) (fun c hc w hw => ?_)
      fun c hc w hw => ?_
    · rw [hcore] at hw
      split at hw
      · rename_i heq
        rw [heq, htodo]
        exact List.mem_cons_of_mem _ hw
      · exact hw
    · rw [hcore]
      split
      · rename_i heq
        rw [heq, htodo] at hw
        exact (List.mem_cons.1 hw).symm
      · exact .inl hw
  · rw [setAttn_moe, setMoe_moe_of_ne _ _ _ hne]
    exact (h m' hm').row hadmitted hq hr hx hself hothers
      rfl rfl rfl rfl (fun hreturns => hreceived.held hinv hm' hreturns) (fun _ _ _ hw => hw)
      fun _ _ _ hw => .inl hw

/-- A flag of combine-send arrives. -/
theorem Back.putFlag (h : s.Back net) (hinv : s.Inv net) (hreceived : s.Received net)
    (hm : m < net.sh.moeRankNum) (haiv : aivId < net.sh.moeAivNum) {v : Nat} {rest : List (MoeOp V)}
    (htodo : ((s.moe m).core aivId).todo = .put rank (.flag m v) :: rest) :
    ((s.setMoe m ((s.moe m).put aivId rest rank (.flag m v))).setAttn rank
      { s.attn rank with window := (s.attn rank).window.write net.sh (.flag m v) }).Back net := by
  intro m' hm'
  have hself := setAttn_attn_self (s.setMoe m ((s.moe m).put aivId rest rank (.flag m v))) rank
    { s.attn rank with window := (s.attn rank).window.write net.sh (.flag m v) }
  have hothers : ∀ r ≠ rank, ((s.setMoe m ((s.moe m).put aivId rest rank (.flag m v))).setAttn rank
      { s.attn rank with window := (s.attn rank).window.write net.sh (.flag m v) }).attn r = s.attn r :=
    fun r hne => setAttn_attn_of_ne _ _ _ hne
  rcases eq_or_ne m' m with rfl | hne
  · rw [setAttn_moe, setMoe_moe_self]
    obtain ⟨p, hp, -⟩ := hinv.moe m' hm'
    exact (h m' hm').flagged hp (hinv.moe_of_received hm' hp) (hreceived m' hm' p hp) haiv htodo
      (hinv.backRound hm' hp) hself hothers
  · rw [setAttn_moe, setMoe_moe_of_ne _ _ _ hne]
    refine (h m' hm').own (fun r => ?_) (fun r => ?_) fun r => .inr ?_
    all_goals rcases eq_or_ne r rank with rfl | hother
    · rw [hself]
    · rw [hothers r hother]
    · rw [hself]
      rfl
    · rw [hothers r hother]
    · rw [hself]
      exact (moeFlag_write_flag net.sh (s.attn r).window m v m').trans (if_neg hne)
    · rw [hothers r hother]

theorem Back.setMoe (h : s.Back net) {st : MoeRank V} (hmoe : MoeBack net s.attn st m) :
    (s.setMoe m st).Back net := by
  intro m' hm'
  rcases eq_or_ne m' m with rfl | hne
  · rw [setMoe_moe_self]
    exact hmoe
  · rw [setMoe_moe_of_ne _ _ _ hne]
    exact h m' hm'

/-- Every step of every core. -/
theorem Back.step (hadmitted : net.GroupsAdmitted) (hinv : s.Inv net) (hreceived : s.Received net)
    (h : s.Back net) (hstep : s.Step net s') : s'.Back net := by
  cases hstep with
  | @begin rank mem hrank _ hmem =>
    exact Back.setAttn h rfl rfl fun m => .inr (hmem.flags hadmitted.attnAivNum_le m)
  | send => exact Back.attnOp h _ _ _
  | attn => exact Back.attnOp h _ _ _
  | attnNext hrank hphase htodo => exact Back.attnNext h hinv hrank hphase htodo
  | @moe m aivId op rest st hm haiv htodo hop =>
    obtain ⟨p, hp, hmoe⟩ := hinv.moe m hm
    obtain ⟨-, hcalls, htouch⟩ := hmoe.op hadmitted.attnRankNum_pos
      (fun rank hrank => (hinv.link rank hrank m hm).tokenNum) haiv htodo hop
    have hreturned : st.returned = (s.moe m).returned := funext fun rank => (htouch rank).returned
    obtain ⟨hreturns, hflags, hphase⟩ := hmoe.op_phase haiv htodo hop
    exact Back.setMoe h ((h m hm).receive hreturns hflags hphase hcalls hreturned)
  | @put m aivId rank w rest hm haiv htodo =>
    obtain ⟨p, hp, hmoe⟩ := hinv.moe m hm
    rcases hmoe.put_phase haiv htodo with ⟨hphase, r, x, rfl⟩ | ⟨-, v, rfl⟩
    · exact Back.putRow h hadmitted hinv hreceived hm haiv htodo hphase
    · exact Back.putFlag h hinv hreceived hm haiv htodo
  | @moeNext m st hm htodo hnext =>
    obtain ⟨p, hp, hmoe⟩ := hinv.moe m hm
    obtain ⟨⟨p', hp', -⟩, -⟩ := hmoe.next hadmitted.attnRankNum_pos hp htodo hnext
    exact Back.setMoe h
      ((h m hm).next hadmitted hp hp' hmoe (hreceived m hm p hp) (hinv.backRound hm hp) htodo hnext)

theorem Reachable.back (hadmitted : net.GroupsAdmitted) (h : s.Reachable net) : s.Back net := by
  induction h with
  | start hstart => exact hstart.back
  | step hs hstep ih => exact ih.step hadmitted (hs.inv hadmitted.admitted) (hs.receives hadmitted) hstep

end CamSystem

end AfdPlugin.Cam
