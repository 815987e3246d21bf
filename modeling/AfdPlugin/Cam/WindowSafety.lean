import AfdPlugin.Cam.Interleavings
import AfdPlugin.Cam.RoundTrip
/-!
# What the cores still use

The regions that the cores of a MoE rank are still to read or clear, the rows and flags
that they are still to write, and the same of the cores of an Attention rank, as the
invariants of the ranks have them.
-/

namespace AfdPlugin.Cam

/-- The rank whose region an operation reads or writes; the search polls flags only. -/
def MoeOp.uses {V : Type} (c : MoeCore V) : MoeOp V → Option Nat
  | .mark _ | .flags => some c.tpAttnRankId
  | .count i | .enter i | .copy i _ _ | .chunkFlags i | .clearHeader i => some (c.tpAttnRankId + i)
  | _ => none

section Moe
variable {V S F : Type} {net : CamNet V S F} {st : MoeRank V} {sent : Nat → Nat} {p : Progress}
  {m g d e k q aivId rank : Nat} {op : MoeOp V}

/-- What a core uses in the search belongs to the group that is being received, or that
it is about to mark. -/
theorem SearchInv.uses {cur : Option (Nat × Nat)} (h : SearchInv net st sent p cur)
    (haiv : aivId < net.sh.moeAivNum) (hop : op ∈ (st.core aivId).todo)
    (huses : op.uses (st.core aivId) = some rank) :
    rank < net.sh.attnRankNum ∧ (st.window.region rank).tokenNum ≠ 0 := by
  have hopen : ∀ {d i : Nat}, cur = some ((st.core aivId).tpAttnRankId, d) → i < net.sh.tpSize →
      (st.core aivId).tpAttnRankId + i < net.sh.attnRankNum ∧
        (st.window.region ((st.core aivId).tpAttnRankId + i)).tokenNum ≠ 0 := by
    intro d i hcur hi
    obtain ⟨hopen, -⟩ := h.opened _ _ hcur
    exact ⟨hopen.group.rank_lt hi, (hopen.rank i hi).tokenNum⟩
  cases h.core aivId haiv with
  | start todo =>
    rw [todo, List.mem_singleton] at hop
    subst hop
    cases huses
  | probe core todo =>
    rw [todo, List.mem_singleton] at hop
    subst hop
    cases huses
  | mark core todo first hn group own found =>
    rw [todo, List.mem_singleton] at hop
    subst hop
    cases huses
    exact ⟨group.lt, found 0 net.sh.tpSize_pos⟩
  | follow core todo =>
    rw [todo, List.mem_singleton] at hop
    subst hop
    cases huses
  | count hcur hi todo =>
    rw [todo] at hop
    rcases List.mem_append.1 hop with hop | hop
    · obtain ⟨l, hl, rfl⟩ := List.mem_map.1 hop
      cases huses
      exact hopen hcur (by have := List.mem_range'_1.1 hl; omega)
    · rw [List.mem_singleton] at hop
      subst hop
      cases huses
      exact hopen hcur net.sh.tpSize_pos
  | chosen hcur todo =>
    rw [todo] at hop
    exact absurd hop List.not_mem_nil

/-- What a core uses after the search is not cleared yet. -/
theorem RowsInv.uses (h : RowsInv net st sent p g d e k q) (haiv : aivId < net.sh.moeAivNum)
    (hop : op ∈ (st.core aivId).todo) (huses : op.uses (st.core aivId) = some rank) :
    rank < net.sh.attnRankNum ∧ (st.window.region rank).tokenNum ≠ 0 := by
  have hq : q ≤ k := by
    rcases h.clears with heq | ⟨heq, -⟩
    · exact heq.le
    · omega
  have hbarriers := h.barriers
  have hopen : ∀ i, q ≤ i → i < net.sh.tpSize → g + i < net.sh.attnRankNum ∧
      (st.window.region (g + i)).tokenNum ≠ 0 := fun i hi hlt =>
    ⟨h.taken.group.rank_lt hlt, (h.uncleared i hi hlt).tokenNum⟩
  have hpart : ∀ i, (if e = net.sh.expertNumPerMoe - 1 then i = k ∧ k < net.sh.tpSize
      else i < net.sh.tpSize) →
      g + i < net.sh.attnRankNum ∧ (st.window.region (g + i)).tokenNum ≠ 0 := by
    intro i hi
    split at hi
    · exact hopen i (by omega) (by omega)
    · rename_i he
      rw [if_neg he] at hbarriers
      exact hopen i (by omega) hi
  have hgroup := (h.taken.core aivId haiv).1
  have hrows := h.ops aivId haiv op hop
  cases op with
  | enter i =>
    cases huses
    rw [hgroup]
    exact hpart i hrows
  | copy i r n =>
    cases huses
    rw [hgroup]
    exact hpart i hrows
  | chunkFlags i =>
    cases huses
    rw [hgroup]
    exact hpart i hrows.2
  | clearHeader i =>
    cases huses
    obtain ⟨-, hk, rfl⟩ := hrows
    rw [hgroup]
    split at hbarriers
    · exact hopen i le_rfl (by omega)
    · omega
  | record => cases huses
  | _ => exact absurd hrows id

theorem MoeInv.uses (h : MoeInv net st sent p m) (haiv : aivId < net.sh.moeAivNum)
    (hop : op ∈ (st.core aivId).todo) (huses : op.uses (st.core aivId) = some rank) :
    rank < net.sh.attnRankNum ∧ (st.window.region rank).tokenNum ≠ 0 := by
  unfold MoeInv at h
  cases hcase : st.phase with
  | search =>
    rw [hcase] at h
    obtain ⟨cur, hsearch⟩ := h
    exact hsearch.uses haiv hop huses
  | rows k =>
    rw [hcase] at h
    obtain ⟨g, d, e, q, hrows⟩ := h
    exact hrows.uses haiv hop huses
  | returns =>
    rw [hcase] at h
    obtain ⟨g, d, e, hreturns⟩ := h
    obtain ⟨i, -, r, x, rfl⟩ := hreturns.ops aivId haiv op hop
    cases huses
  | flags =>
    rw [hcase] at h
    obtain ⟨g, d, e, pending, hflags⟩ := h
    rw [hflags.todo aivId haiv] at hop
    obtain ⟨i, -, rfl⟩ := List.mem_map.1 hop
    cases huses

/-- A row or a flag that is still to be written is of a dispatch whose flag is not set; a
flag is of one that is read to its end. -/
theorem MoeInv.puts (h : MoeInv net st sent p m) (haiv : aivId < net.sh.moeAivNum) {w : CombineWrite V}
    (hop : .put rank w ∈ (st.core aivId).todo) :
    rank < net.sh.attnRankNum ∧
      ((∃ r x, w = .row r x) ∧ (st.window.region rank).tokenNum ≠ 0 ∨ st.returned rank < st.taken rank) := by
  have hcleared : ∀ {k r : Nat}, RankCleared st k r → st.returned r < st.taken r := by
    intro k r hr
    rw [hr.taken, hr.returned]
    exact Nat.lt_succ_self k
  unfold MoeInv at h
  cases hcase : st.phase with
  | search =>
    rw [hcase] at h
    obtain ⟨cur, hsearch⟩ := h
    cases hsearch.core aivId haiv with
    | count hcur hi todo =>
      rw [todo] at hop
      simp at hop
    | start todo | probe core todo | mark core todo | follow core todo | chosen hcur todo =>
      rw [todo] at hop
      simp at hop
  | rows k =>
    rw [hcase] at h
    obtain ⟨g, d, e, q, hrows⟩ := h
    exact absurd (hrows.ops aivId haiv _ hop) id
  | returns =>
    rw [hcase] at h
    obtain ⟨g, d, e, hreturns⟩ := h
    obtain ⟨i, hi, r, x, heq⟩ := hreturns.ops aivId haiv _ hop
    cases heq
    refine ⟨hreturns.sending.group.rank_lt hi, ?_⟩
    by_cases he : e = net.sh.expertNumPerMoe - 1
    · obtain ⟨k, -, hall⟩ := hreturns.cleared he
      exact .inr (hcleared (hall i hi))
    · exact .inl ⟨⟨r, x, rfl⟩, ((hreturns.sending.part he).2.rank i hi).tokenNum⟩
  | flags =>
    rw [hcase] at h
    obtain ⟨g, d, e, pending, hflags⟩ := h
    rw [hflags.todo aivId haiv] at hop
    obtain ⟨i, hi, heq⟩ := List.mem_map.1 hop
    cases heq
    obtain ⟨hlt, hown⟩ := (hflags.share aivId haiv).2 i hi
    refine ⟨hflags.sending.group.rank_lt hlt, .inr ?_⟩
    have he : e = net.sh.expertNumPerMoe - 1 := by
      by_contra he
      rw [hflags.none he aivId haiv] at hi
      exact List.not_mem_nil hi
    obtain ⟨k, -, hall⟩ := hflags.flagged he
    have hone := hall i hlt
    rw [hown, if_pos hi] at hone
    exact hcleared hone

/-- The complete receptions of a group are those whose headers are cleared, up to the
call that is not ended yet. -/
theorem MoeInv.services (h : MoeInv net st sent p m) (hg : IsGroup net.sh g) {i : Nat}
    (hi : i < net.sh.tpSize) :
    st.returned (g + i) ≤ p.services g ∧ p.services g ≤ st.taken (g + i) := by
  have hidle : ∀ {k : Nat}, RankIdle st sent k (g + i) → st.returned (g + i) ≤ k ∧
      k ≤ st.taken (g + i) := fun hr =>
    ⟨hr.returned.le, hr.taken.ge⟩
  have hopen : ∀ {k : Nat}, RankOpen st k (g + i) → st.returned (g + i) ≤ k ∧
      k ≤ st.taken (g + i) := fun hr =>
    ⟨hr.returned.le, hr.taken.ge⟩
  have hothers : ∀ {cur : Option Nat}, OthersIdle net st sent p cur → cur ≠ some g →
      st.returned (g + i) ≤ p.services g ∧ p.services g ≤ st.taken (g + i) :=
        fun hall hne => hidle (hall g hg hne i hi)
  unfold MoeInv at h
  cases hcase : st.phase with
  | search =>
    rw [hcase] at h
    obtain ⟨cur, hsearch⟩ := h
    by_cases hcur : cur.map Prod.fst = some g
    · obtain ⟨⟨g', d⟩, rfl, rfl⟩ := Option.map_eq_some_iff.1 hcur
      exact hopen ((hsearch.opened g' d rfl).1.rank i hi)
    · exact hothers hsearch.others hcur
  | rows k =>
    rw [hcase] at h
    obtain ⟨g', d, e, q, hrows⟩ := h
    by_cases hcur : some g' = some g
    · cases hcur
      rcases Nat.lt_or_ge i q with hlt | hge
      · have hr := hrows.cleared i hlt
        rw [hr.taken, hr.returned]
        exact ⟨le_rfl, Nat.le_succ _⟩
      · exact hopen (hrows.uncleared i hge hi)
    · exact hothers hrows.others hcur
  | returns =>
    rw [hcase] at h
    obtain ⟨g', d, e, hreturns⟩ := h
    by_cases hcur : some g' = some g
    · cases hcur
      by_cases he : e = net.sh.expertNumPerMoe - 1
      · obtain ⟨k, hk, hall⟩ := hreturns.cleared he
        have hr := hall i hi
        rw [hr.taken, hr.returned, hk]
        exact ⟨Nat.le_succ k, le_rfl⟩
      · exact hopen ((hreturns.sending.part he).2.rank i hi)
    · exact hothers hreturns.sending.others hcur
  | flags =>
    rw [hcase] at h
    obtain ⟨g', d, e, pending, hflags⟩ := h
    by_cases hcur : some g' = some g
    · cases hcur
      by_cases he : e = net.sh.expertNumPerMoe - 1
      · obtain ⟨k, hk, hall⟩ := hflags.flagged he
        have hr := hall i hi
        rw [hk]
        split at hr
        · rw [hr.taken, hr.returned]
          exact ⟨Nat.le_succ k, le_rfl⟩
        · exact hidle hr
      · exact hopen ((hflags.sending.part he).2.rank i hi)
    · exact hothers hflags.sending.others hcur

/-- The cores of a rank have taken one chunk, and no barrier keeps some of them only. -/
theorem MoeInv.meet (h : MoeInv net st sent p m) :
    (∀ k, st.phase = .rows k → ∃ g d e, IsGroup net.sh g ∧ ∀ aivId < net.sh.moeAivNum,
      (st.core aivId).tpAttnRankId = g ∧ (st.core aivId).startExpert = d ∧ (st.core aivId).endExpert = e) ∧
    st.next net m ≠ none := by
  unfold MoeInv at h
  unfold MoeRank.next
  cases hcase : st.phase with
  | rows k =>
    rw [hcase] at h
    obtain ⟨g, d, e, q, hrows⟩ := h
    refine ⟨fun k' _ => ⟨g, d, e, hrows.taken.group, hrows.taken.core⟩, ?_⟩
    have hbarriers : ∀ aivId < net.sh.moeAivNum,
        (st.core aivId).barriers net = if e = net.sh.expertNumPerMoe - 1 then net.sh.tpSize
            else 0 := fun aivId haiv =>
      barriers_eq (hrows.taken.core aivId haiv).2.2
    dsimp only
    rcases Nat.lt_or_eq_of_le hrows.barriers with hlt | heq
    · rw [if_pos fun aivId haiv => (hbarriers aivId haiv).symm ▸ hlt]
      exact Option.some_ne_none _
    · rw [if_neg fun hall => ?_, if_pos fun aivId haiv => (hbarriers aivId haiv).trans heq.symm]
      · exact Option.some_ne_none _
      · have hfirst := hall 0 net.sh.moeAivNum_pos
        rw [hbarriers 0 net.sh.moeAivNum_pos, ← heq] at hfirst
        exact absurd hfirst (Nat.lt_irrefl k)
  | _ => exact ⟨fun k hphase => (by cases hphase), Option.some_ne_none _⟩

end Moe

/-! ## Attention ranks -/

section Attention
variable {V S F : Type} {net : CamNet V S F} {st : AttnRank V} {region : Nat → AttnRegion V}
  {returned : Nat → Nat} {rank aivId m : Nat}

/-- What is still to be written goes to regions of which nothing is under way. -/
theorem AttnInv.writes (h : AttnInv net st region returned rank) (haiv : aivId < net.sh.attnAivNum)
    {w : RegionWrite V} (hop : .write m w ∈ st.todo aivId) : st.sent m = st.collected m := by
  unfold AttnInv at h
  cases hcase : st.phase with
  | ready =>
    rw [hcase] at h
    rw [h.2 aivId haiv] at hop
    exact absurd hop List.not_mem_nil
  | send =>
    rw [hcase] at h
    obtain ⟨m', hm, w', -, heq⟩ := h.2 aivId haiv _ hop
    cases heq
    exact (h.1 m hm).1.trans (h.1 m hm).2.symm
  | announce =>
    rw [hcase] at h
    obtain ⟨as, k, hcore⟩ := h.2 aivId haiv
    rw [hcore.todo] at hop
    obtain ⟨a, ha, hop⟩ := List.mem_flatMap.1 (List.mem_of_mem_drop hop)
    have hm : m = a.moeRankId := by
      simp only [announceOps, List.mem_cons, AttnOp.write.injEq, List.not_mem_nil, or_false] at hop
      rcases hop with hop | hop | hop | hop <;> exact hop.1
    obtain ⟨hlt, hown⟩ := hcore.ranks a ha
    subst hm
    have hsent := hcore.sent _ hlt hown
    rw [if_pos (List.mem_map_of_mem ha)] at hsent
    exact hsent.trans (h.1 _ hlt).symm
  | combine =>
    rw [hcase] at h
    cases h.2 aivId haiv with
    | load todo | seed todo | poll todo =>
      rw [todo] at hop
      simp at hop
    | gather todo =>
      obtain ⟨row, heq⟩ := todo _ hop
      cases heq
  | clear =>
    rw [hcase] at h
    obtain ⟨k, -, hclear⟩ := h
    rw [hclear.todo aivId haiv] at hop
    split at hop
    · simp at hop
    · exact absurd hop List.not_mem_nil

end Attention

end AfdPlugin.Cam
