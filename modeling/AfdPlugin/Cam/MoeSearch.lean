import AfdPlugin.Cam.HandoffInvariant
/-!
# The search of a MoE rank

Core 0 opens a group whose ranks have all announced a dispatch, or goes on with the one
that is received in part; the other cores find its mark. All of them then take the same
chunk.
-/

namespace AfdPlugin.Cam

section Frames
variable {V S F : Type} {net : CamNet V S F} {st st' : MoeRank V} {sent sent' : Nat → Nat}
  {p : Progress} {g d k rank : Nat}

/-- A rank's region and counts are as before. -/
structure SameRank (st st' : MoeRank V) (rank : Nat) : Prop where
  region : st'.window.region rank = st.window.region rank
  taken : st'.taken rank = st.taken rank
  returned : st'.returned rank = st.returned rank

theorem RankIdle.same (h : RankIdle st sent k rank) (hsame : SameRank st st' rank)
    (hsent : sent' rank = sent rank) :
    RankIdle st' sent' k rank := by
  refine ⟨hsame.taken.trans h.taken, hsame.returned.trans h.returned, ?_, ?_⟩
  · rw [hsame.region]
    exact h.marker
  · rw [hsame.region, hsent]
    exact h.chunkFlag

theorem RankOpen.same (h : RankOpen st k rank) (hsame : SameRank st st' rank) : RankOpen st' k rank := by
  refine ⟨hsame.taken.trans h.taken, hsame.returned.trans h.returned, ?_⟩
  rw [hsame.region]
  exact h.tokenNum

theorem RankCleared.same (h : RankCleared st k rank) (hsame : SameRank st st' rank) :
    RankCleared st' k rank := by
  refine ⟨hsame.taken.trans h.taken, hsame.returned.trans h.returned, ?_⟩
  rw [hsame.region]
  exact h.marker

theorem GroupOpen.same (h : GroupOpen net st p g d) (hsame : ∀ i < net.sh.tpSize, SameRank st st' (g + i)) :
    GroupOpen net st' p g d := by
  refine ⟨h.group, h.lt, fun i hi => (h.rank i hi).same (hsame i hi), fun i hi => ?_, ?_⟩
  · rw [(hsame i hi).region]
    exact h.marker i hi
  · have hfirst := (hsame 0 net.sh.tpSize_pos).region
    rw [Nat.add_zero] at hfirst
    rw [hfirst]
    exact h.chunkFlag

theorem OthersIdle.same {cur : Option Nat} (h : OthersIdle net st sent p cur)
    (hsame : ∀ g', IsGroup net.sh g' → cur ≠ some g' → ∀ i < net.sh.tpSize, SameRank st st' (g' + i)) :
    OthersIdle net st' sent p cur :=
  fun g' hg' hne i hi => (h g' hg' hne i hi).same (hsame g' hg' hne i hi) rfl

/-- A group's counts are those of its ranks. -/
theorem groupCounts_congr {w w' : MoeWindow V} {sh : CamShape} {tpAttnRankId : Nat}
    (h : ∀ i < sh.tpSize, (w'.region (tpAttnRankId + i)).expertRecvTokenNum =
      (w.region (tpAttnRankId + i)).expertRecvTokenNum) :
    groupCounts sh w' tpAttnRankId = groupCounts sh w tpAttnRankId := by
  unfold groupCounts forRange
  apply List.foldl_ext
  intro counts i hi
  funext j
  rw [h i (by simpa using hi)]

/-- A core that has read the counts of a group reads its chunk flags. -/
theorem groupCounts_of_read {w view : MoeWindow V} {sh : CamShape} {tpAttnRankId : Nat}
    {chunkFlag : Nat → Nat}
    (h : ∀ i < sh.tpSize, (view.region (tpAttnRankId + i)).expertRecvTokenNum =
      (w.region (tpAttnRankId + i)).expertRecvTokenNum) :
    groupCounts sh (view.setRegion tpAttnRankId { view.region tpAttnRankId with chunkFlag }) tpAttnRankId =
      groupCounts sh w tpAttnRankId := by
  refine groupCounts_congr fun i hi => ?_
  rw [← h i hi, MoeWindow.setRegion]
  rcases eq_or_ne i 0 with rfl | hne
  · rw [Nat.add_zero]
    dsimp only
    rw [Function.update_self]
  · dsimp only
    rw [Function.update_of_ne (by omega)]

theorem Chosen.frame {c : MoeCore V} (h : Chosen net st c)
    (hcounts : ∀ i < net.sh.tpSize, (st'.window.region (c.tpAttnRankId + i)).expertRecvTokenNum =
      (st.window.region (c.tpAttnRankId + i)).expertRecvTokenNum)
    (hflags : (st'.window.region c.tpAttnRankId).chunkFlag =
      (st.window.region c.tpAttnRankId).chunkFlag) : Chosen net st' c := by
  refine ⟨?_, ?_, ?_⟩
  · rw [groupCounts_congr hcounts, hflags]
    exact h.chunk
  · rw [groupCounts_congr hcounts]
    exact h.tensor
  · rw [hflags]
    exact h.chunkFlag

/-- A core's search goes on while announced dispatches stay and the open group's counts
and chunk flags are left alone. -/
theorem SearchCore.frame {cur : Option (Nat × Nat)} {c : Nat} (h : SearchCore net st p cur c)
    (hcore : st'.core c = st.core c) (hlast : st'.window.lastAttn = st.window.lastAttn)
    (htoken : ∀ rank, (st.window.region rank).tokenNum ≠ 0 → (st'.window.region rank).tokenNum ≠ 0)
    (hgroup : ∀ g d, cur = some (g, d) →
      (st'.window.region g).chunkFlag = (st.window.region g).chunkFlag ∧ ∀ i < net.sh.tpSize,
      (st'.window.region (g + i)).expertRecvTokenNum = (st.window.region (g + i)).expertRecvTokenNum) :
    SearchCore net st' p cur c := by
  cases h with
  | start todo first => exact .start (by rw [hcore, todo]) first
  | probe core todo first view hj hj' own found =>
    exact .probe core (by rw [hcore, todo]) first (by rw [hcore, view, hlast]) hj hj' own fun l hl hl' =>
      hlast ▸ htoken _ (found l hl hl')
  | mark core todo first hn group own found =>
    rw [← hcore] at todo group own found
    exact .mark core todo first hn group own fun l hl => htoken _ (found l hl)
  | follow core todo view => exact .follow core (by rw [hcore, todo]) (by rw [hcore, view, hlast])
  | count hcur hi todo counts =>
    rw [← hcore] at hcur todo counts
    exact .count hcur hi todo fun l hl => (counts l hl).trans ((hgroup _ _ hcur).2 l (by omega)).symm
  | chosen hcur todo chosen =>
    rw [← hcore] at hcur todo chosen
    exact .chosen hcur todo (chosen.frame (hgroup _ _ hcur).2 (hgroup _ _ hcur).1)

end Frames

/-! ## Attention ranks at work -/

section Land
variable {V S F : Type} {net : CamNet V S F} {st : MoeRank V} {sent sent' : Nat → Nat} {p : Progress}
  {rank k a : Nat} {g' : AttnRegion V}

/-- The MoE rank after a write of an Attention rank. -/
def MoeRank.landed (st : MoeRank V) (rank : Nat) (g : AttnRegion V) : MoeRank V :=
  { st with window := st.window.setRegion rank g }

theorem MoeRank.landed_of_ne (hne : rank ≠ a) : SameRank st (st.landed a g') rank :=
  ⟨Function.update_of_ne hne _ _, rfl, rfl⟩

/-- Nothing of Attention rank `a` is under way, and it writes to its region. -/
structure Quiet (st : MoeRank V) (sent sent' : Nat → Nat) (a : Nat) (g' : AttnRegion V) : Prop where
  tokenNum : (st.window.region a).tokenNum = 0
  counts : st.taken a = st.returned a
  marker : (st.window.region a).marker = 0 → g'.marker = 0
  chunkFlag : st.taken a < sent' a → g'.chunkFlag = readFlags 0
  sent : ∀ r ≠ a, sent' r = sent r

theorem Quiet.idle (h : Quiet st sent sent' a g') (hidle : RankIdle st sent k rank) :
    RankIdle (st.landed a g') sent' k rank := by
  rcases eq_or_ne rank a with rfl | hne
  · have hself : (st.landed rank g').window.region rank = g' := Function.update_self _ _ _
    refine ⟨hidle.taken, hidle.returned, ?_, ?_⟩
    · rw [hself]
      exact h.marker hidle.marker
    · rw [hself, ← hidle.taken]
      exact h.chunkFlag
  · exact hidle.same (MoeRank.landed_of_ne hne) (h.sent rank hne)

/-- What is being received is another rank's. -/
theorem Quiet.ne_of_open (h : Quiet st sent sent' a g') (hopen : RankOpen st k rank) : rank ≠ a := by
  rintro rfl
  exact hopen.tokenNum h.tokenNum

theorem Quiet.ne_of_cleared (h : Quiet st sent sent' a g') (hcleared : RankCleared st k rank) :
    rank ≠ a := by
  rintro rfl
  have := h.counts
  rw [hcleared.taken, hcleared.returned] at this
  omega

theorem Quiet.opened {g d : Nat} (h : Quiet st sent sent' a g') (hopen : GroupOpen net st p g d) :
    GroupOpen net (st.landed a g') p g d :=
  hopen.same fun i hi => MoeRank.landed_of_ne (h.ne_of_open (hopen.rank i hi))

theorem Quiet.others {cur : Option Nat} (h : Quiet st sent sent' a g')
    (hidle : OthersIdle net st sent p cur) :
    OthersIdle net (st.landed a g') sent' p cur := fun g hg hne i hi => h.idle (hidle g hg hne i hi)

theorem Quiet.search {cur : Option (Nat × Nat)} (h : Quiet st sent sent' a g')
    (hsearch : SearchInv net st sent p cur) :
    SearchInv net (st.landed a g') sent' p cur := by
  refine ⟨hsearch.current,
    fun g d hcur => ⟨h.opened (hsearch.opened g d hcur).1, (hsearch.opened g d hcur).2⟩,
    h.others hsearch.others, hsearch.lastAttn, hsearch.resumes, fun c hc => ?_⟩
  refine (hsearch.core c hc).frame rfl rfl (fun r hr => ?_) fun g d hcur => ?_
  · have hne : r ≠ a := by
      rintro rfl
      exact hr h.tokenNum
    rwa [(MoeRank.landed_of_ne hne).region]
  · obtain ⟨hopen, -⟩ := hsearch.opened g d hcur
    have hregion : ∀ i < net.sh.tpSize, (st.landed a g').window.region (g + i) =
        st.window.region (g + i) := fun i hi =>
      (MoeRank.landed_of_ne (h.ne_of_open (hopen.rank i hi))).region
    have hfirst := hregion 0 net.sh.tpSize_pos
    rw [Nat.add_zero] at hfirst
    exact ⟨by rw [hfirst], fun i hi => by rw [hregion i hi]⟩

theorem Quiet.rows {g d e k q : Nat} (h : Quiet st sent sent' a g')
    (hrows : RowsInv net st sent p g d e k q) :
    RowsInv net (st.landed a g') sent' p g d e k q := by
  have hregion : ∀ i < net.sh.tpSize, (st.landed a g').window.region (g + i) =
      st.window.region (g + i) := by
    intro i hi
    rcases Nat.lt_or_ge i q with hlt | hge
    · exact (MoeRank.landed_of_ne (h.ne_of_cleared (hrows.cleared i hlt))).region
    · exact (MoeRank.landed_of_ne (h.ne_of_open (hrows.uncleared i hge hi))).region
  have hfirst := hregion 0 net.sh.tpSize_pos
  rw [Nat.add_zero] at hfirst
  refine { hrows with
    taken := ⟨hrows.taken.group, hrows.taken.current, hrows.taken.le, hrows.taken.lt, hrows.taken.core⟩
    others := h.others hrows.others
    cleared := fun i hi =>
      (hrows.cleared i hi).same (MoeRank.landed_of_ne (h.ne_of_cleared (hrows.cleared i hi)))
    uncleared := fun i hge hi =>
      (hrows.uncleared i hge hi).same (MoeRank.landed_of_ne (h.ne_of_open (hrows.uncleared i hge hi)))
    marker := fun i hge hi => ?_
    chunkFlag := ?_ }
  · rw [hregion i hi]
    exact hrows.marker i hge hi
  · rw [hfirst]
    exact hrows.chunkFlag

theorem Quiet.sending {g d e : Nat} (h : Quiet st sent sent' a g')
    (hsending : Sending net st sent p g d e) :
    Sending net (st.landed a g') sent' p g d e where
  group := hsending.group
  lt := hsending.lt
  recorded := hsending.recorded
  others := h.others hsending.others
  part := fun he => ⟨(hsending.part he).1, h.opened (hsending.part he).2⟩
  last := hsending.last

/-- A MoE rank's side is kept by what an Attention rank writes while nothing of it is
under way. -/
theorem MoeInv.land {m : Nat} (hinv : MoeInv net st sent p m) (h : Quiet st sent sent' a g') :
    MoeInv net (st.landed a g') sent' p m := by
  unfold MoeInv at hinv ⊢
  have hphase : (st.landed a g').phase = st.phase := rfl
  rw [hphase]
  cases hcase : st.phase with
  | search =>
    rw [hcase] at hinv
    obtain ⟨cur, hsearch⟩ := hinv
    exact ⟨cur, h.search hsearch⟩
  | rows k =>
    rw [hcase] at hinv
    obtain ⟨g, d, e, q, hrows⟩ := hinv
    exact ⟨g, d, e, q, h.rows hrows⟩
  | returns =>
    rw [hcase] at hinv
    obtain ⟨g, d, e, hreturns⟩ := hinv
    refine ⟨g, d, e, h.sending hreturns.sending, fun he => ?_, hreturns.ops⟩
    obtain ⟨k, hk, hcleared⟩ := hreturns.cleared he
    exact ⟨k, hk, fun i hi => (hcleared i hi).same (MoeRank.landed_of_ne (h.ne_of_cleared (hcleared i hi)))⟩
  | flags =>
    rw [hcase] at hinv
    obtain ⟨g, d, e, pending, hflags⟩ := hinv
    refine ⟨g, d, e, pending, h.sending hflags.sending, hflags.todo, hflags.share, hflags.none,
      fun he => ?_⟩
    obtain ⟨k, hk, hflagged⟩ := hflags.flagged he
    refine ⟨k, hk, fun i hi => ?_⟩
    have hold := hflagged i hi
    by_cases hmem : i ∈ pending (i % net.sh.moeAivNum)
    · rw [if_pos hmem] at hold ⊢
      exact hold.same (MoeRank.landed_of_ne (h.ne_of_cleared hold))
    · rw [if_neg hmem] at hold ⊢
      exact h.idle hold

end Land

/-! ## The search -/

section Search
variable {V S F : Type} {net : CamNet V S F} {st st' : MoeRank V} {sent : Nat → Nat} {p : Progress}
  {cur : Option (Nat × Nat)} {aivId : Nat} {op : MoeOp V} {rest : List (MoeOp V)}

/-- A step that only moves the core. -/
theorem SearchInv.setCore (h : SearchInv net st sent p cur) {c : MoeCore V}
    (hcore : aivId < net.sh.moeAivNum → SearchCore net (st.setCore aivId c) p cur aivId) :
    SearchInv net (st.setCore aivId c) sent p cur := by
  refine ⟨h.current, fun g d hcur => ⟨(h.opened g d hcur).1.same fun _ _ => ⟨rfl, rfl, rfl⟩,
    (h.opened g d hcur).2⟩, h.others.same fun _ _ _ _ _ => ⟨rfl, rfl, rfl⟩, h.lastAttn, h.resumes,
    fun c' hc' => ?_⟩
  rcases eq_or_ne c' aivId with rfl | hne
  · exact hcore hc'
  · exact (h.core c' hc').frame (Function.update_of_ne hne _ _) rfl (fun _ hr => hr) fun _ _ _ =>
      ⟨rfl, fun _ _ => rfl⟩

@[simp] theorem MoeRank.setCore_core (c : MoeCore V) : (st.setCore aivId c).core aivId = c :=
  Function.update_self _ _ _

theorem SearchInv.start (h : SearchInv net st sent p cur) (hfirst : aivId = 0 → cur = p.current)
    (hop : st.op net aivId [] .start = some st') : SearchInv net st' sent p cur := by
  cases hop
  refine h.setCore fun _ => ?_
  by_cases hzero : aivId = 0
  · refine .probe hzero ?_ (hfirst hzero) ?_ net.sh.tpSize_pos le_rfl (fun _ => rfl) fun l hl hl' =>
      absurd hl' (by omega)
    · simp [hzero]
    · rw [MoeRank.setCore_core]
      rfl
  · refine .follow (i := 0) hzero ?_ ?_
    · simp [hzero]
    · rw [MoeRank.setCore_core]
      rfl

/-- Core 0 looks at a rank. -/
theorem SearchInv.probe {i j : Nat} (h : SearchInv net st sent p cur) (hA : 0 < net.sh.attnRankNum)
    (hzero : aivId = 0) (hfirst : cur = p.current)
    (hview : (st.core aivId).view.lastAttn = st.window.lastAttn) (hj : 1 ≤ j) (hj' : j ≤ net.sh.tpSize)
    (hown : cur ≠ none → i = 0)
    (hfound : ∀ l, j ≤ l → l < net.sh.tpSize →
      (st.window.region
        ((st.window.lastAttn + (net.sh.tpSize * i + l)) % net.sh.attnRankNum)).tokenNum ≠ 0)
    (hop : st.op net aivId [] (.probe i j) = some st') : SearchInv net st' sent p cur := by
  have hsrc : (st.core aivId).view.lastAttn + (net.sh.tpSize * i + j - 1) =
      st.window.lastAttn + (net.sh.tpSize * i + (j - 1)) := by
    rw [hview]
    omega
  have hdvd : net.sh.tpSize ∣ st.window.lastAttn + net.sh.tpSize * i :=
    (Nat.dvd_add_right h.lastAttn.dvd).2 (Dvd.intro _ rfl)
  unfold MoeRank.op at hop
  dsimp only at hop
  rw [hsrc] at hop
  split at hop
  · rename_i hnone
    cases hop
    refine h.setCore fun _ => .probe (i := (i + 1) % (net.sh.attnRankNum / net.sh.tpSize)) hzero ?_
      hfirst ?_ net.sh.tpSize_pos le_rfl (fun hcur => ?_) fun l hl hl' => absurd hl' (by omega)
    · rw [MoeRank.setCore_core]
    · rw [MoeRank.setCore_core]
      exact hview
    · -- the ranks of an open group have announced their dispatches
      obtain ⟨⟨g, d⟩, rfl⟩ := Option.ne_none_iff_exists'.1 hcur
      obtain rfl := hown hcur
      obtain ⟨hopen, -⟩ := h.opened g d rfl
      have hlast := h.resumes g d hfirst.symm
      have hrank : (st.window.lastAttn + (net.sh.tpSize * 0 + (j - 1))) % net.sh.attnRankNum =
          g + (j - 1) := by
        rw [hlast, Nat.mul_zero, Nat.zero_add, Nat.mod_eq_of_lt (hopen.group.rank_lt (by omega))]
      rw [hrank] at hnone
      exact absurd hnone (hopen.rank (j - 1) (by omega)).tokenNum
  · rename_i hsome
    have hfound' : ∀ l, j - 1 ≤ l → l < net.sh.tpSize →
        (st.window.region
            ((st.window.lastAttn + (net.sh.tpSize * i + l)) % net.sh.attnRankNum)).tokenNum ≠ 0 := by
      intro l hl hl'
      rcases Nat.eq_or_lt_of_le hl with rfl | hlt
      · exact hsome
      · exact hfound l (by omega) hl'
    split at hop
    · cases hop
      refine h.setCore fun _ => .probe hzero ?_ hfirst ?_ (by omega) (by omega) hown hfound'
      · rw [MoeRank.setCore_core]
      · rw [MoeRank.setCore_core]
        exact hview
    · cases hop
      refine h.setCore fun _ => .mark hzero ?_ hfirst hsome ?_ (fun g d hcur => ?_) fun l hl => ?_
      · rw [MoeRank.setCore_core]
      · rw [MoeRank.setCore_core]
        dsimp only
        rw [hview]
        exact isGroup_mod hA hdvd
      · rw [MoeRank.setCore_core]
        have hi := hown (by simp [hcur])
        have hlast := h.resumes g d (hfirst ▸ hcur)
        dsimp only
        rw [hview, hi, hlast, Nat.mul_zero, Nat.add_zero]
        exact Nat.mod_eq_of_lt (h.opened g d hcur).1.group.lt
      · rw [MoeRank.setCore_core]
        dsimp only
        rw [hview, ← add_mod_group hA hdvd hl, Nat.add_assoc]
        exact hfound' l (by omega) hl

/-- The other cores look for a mark. Only the open group has one. -/
theorem SearchInv.follow {i : Nat} (h : SearchInv net st sent p cur) (hA : 0 < net.sh.attnRankNum)
    (hzero : aivId ≠ 0) (hview : (st.core aivId).view.lastAttn = st.window.lastAttn)
    (hop : st.op net aivId [] (.follow i) = some st') :
    SearchInv net st' sent p cur := by
  have hdvd : net.sh.tpSize ∣ st.window.lastAttn + net.sh.tpSize * i :=
    (Nat.dvd_add_right h.lastAttn.dvd).2 (Dvd.intro _ rfl)
  unfold MoeRank.op at hop
  dsimp only at hop
  rw [hview] at hop
  split at hop
  · cases hop
    refine h.setCore fun _ => .follow (i := (i + 1) % (net.sh.attnRankNum / net.sh.tpSize)) hzero ?_ ?_
    · rw [MoeRank.setCore_core]
    · rw [MoeRank.setCore_core]
      exact hview
  · rename_i hmarker
    cases hop
    have hgroup := isGroup_mod hA hdvd
    obtain ⟨d, hcur⟩ : ∃ d,
        cur = some ((st.window.lastAttn + net.sh.tpSize * i) % net.sh.attnRankNum, d) := by
      by_contra hnone
      refine hmarker (h.others _ hgroup (fun heq => hnone ?_) 0 net.sh.tpSize_pos).marker
      obtain ⟨⟨g, d⟩, hcur, rfl⟩ := Option.map_eq_some_iff.1 heq
      exact ⟨d, hcur⟩
    refine h.setCore fun _ => .count (d := d) ?_ (Nat.zero_le _) ?_ fun l hl =>
      absurd hl (Nat.not_lt_zero l)
    · rw [MoeRank.setCore_core]
      exact hcur
    · rw [MoeRank.setCore_core]
      simp [countTodo, List.range_eq_range']

/-- The counts of a rank of the group. -/
theorem SearchInv.count {d i : Nat} (h : SearchInv net st sent p cur)
    (hcur : cur = some ((st.core aivId).tpAttnRankId, d)) (hi : i < net.sh.tpSize)
    (hcounts : ∀ l < i,
      ((st.core aivId).view.region ((st.core aivId).tpAttnRankId + l)).expertRecvTokenNum =
        (st.window.region ((st.core aivId).tpAttnRankId + l)).expertRecvTokenNum)
    (hrest : rest = (List.range' (i + 1) (net.sh.tpSize - (i + 1))).map .count ++ [.flags])
    (hop : st.op net aivId rest (.count i) = some st') : SearchInv net st' sent p cur := by
  cases hop
  refine h.setCore fun _ => .count (d := d) (i := i + 1) ?_ hi ?_ fun l hl => ?_
  · rw [MoeRank.setCore_core]
    exact hcur
  · rw [MoeRank.setCore_core]
    exact hrest
  · rw [MoeRank.setCore_core]
    dsimp only [MoeWindow.setRegion]
    rcases Nat.lt_succ_iff_lt_or_eq.1 hl with hlt | rfl
    · rw [Function.update_of_ne (by omega)]
      exact hcounts l hlt
    · rw [Function.update_self]
      rfl

/-- A core takes a chunk. -/
theorem SearchInv.flags {d : Nat} (h : SearchInv net st sent p cur)
    (hcur : cur = some ((st.core aivId).tpAttnRankId, d))
    (hcounts : ∀ l < net.sh.tpSize,
      ((st.core aivId).view.region ((st.core aivId).tpAttnRankId + l)).expertRecvTokenNum =
        (st.window.region ((st.core aivId).tpAttnRankId + l)).expertRecvTokenNum)
    (hop : st.op net aivId [] .flags = some st') : SearchInv net st' sent p cur := by
  obtain ⟨⟨start, stop⟩, hchunk, rfl⟩ := Option.map_eq_some_iff.1 hop
  have htensor : groupCounts net.sh ((st.core aivId).view.setRegion (st.core aivId).tpAttnRankId
      { (st.core aivId).view.region (st.core aivId).tpAttnRankId with
        chunkFlag := (st.window.region (st.core aivId).tpAttnRankId).chunkFlag })
          (st.core aivId).tpAttnRankId =
      groupCounts net.sh st.window (st.core aivId).tpAttnRankId := groupCounts_of_read hcounts
  refine h.setCore fun _ => .chosen (d := d) ?_ ?_ ?_
  · rw [MoeRank.setCore_core]
    exact hcur
  · rw [MoeRank.setCore_core]
  · rw [MoeRank.setCore_core]
    refine ⟨?_, htensor, ?_⟩
    · have hselect := hchunk
      rw [htensor] at hselect
      exact hselect
    · dsimp only [MoeWindow.setRegion]
      rw [Function.update_self]
      rfl

/-- Core 0 marks a group: it opens it, or goes on with it. -/
theorem SearchInv.mark {n : Nat} (h : SearchInv net st sent p cur) (hfirst : cur = p.current)
    (hn : n ≠ 0) (hzero : aivId = 0)
    (htoken : ∀ rank < net.sh.attnRankNum, (st.window.region rank).tokenNum ≠ 0 →
      st.taken rank < sent rank) (hgroup : IsGroup net.sh (st.core aivId).tpAttnRankId)
    (hown : ∀ g d, cur = some (g, d) → (st.core aivId).tpAttnRankId = g)
    (hfound : ∀ l < net.sh.tpSize, (st.window.region ((st.core aivId).tpAttnRankId + l)).tokenNum ≠ 0)
    (hop : st.op net aivId [] (.mark n) = some st') : ∃ cur, SearchInv net st' sent p cur := by
  subst hzero
  obtain ⟨g, hg⟩ : ∃ g, (st.core 0).tpAttnRankId = g := ⟨_, rfl⟩
  rw [hg] at hgroup hown hfound
  have hst : st' = { st.setCore 0 { st.core 0 with todo := countTodo net ++ [] } with
      window := st.window.setRegion g { st.window.region g with marker := n } } := by
    rw [← hg]
    exact (Option.some.inj hop).symm
  have hlast : st'.window.lastAttn = st.window.lastAttn := by rw [hst]; rfl
  have hcore : st'.core 0 = { st.core 0 with todo := countTodo net ++ [] } := by
    rw [hst]
    exact Function.update_self 0 _ st.core
  have hcore' : ∀ c, c ≠ 0 → st'.core c = st.core c := by
    intro c hc
    rw [hst]
    exact Function.update_of_ne hc _ _
  have hne : ∀ rank, rank ≠ g → SameRank st st' rank := by
    intro rank hrank
    rw [hst]
    exact ⟨Function.update_of_ne hrank _ _, rfl, rfl⟩
  have hself : st'.window.region g = { st.window.region g with marker := n } := by
    rw [hst]
    exact Function.update_self g _ st.window.region
  have hsame : st'.taken = st.taken ∧ st'.returned = st.returned := by
    rw [hst]
    exact ⟨rfl, rfl⟩
  clear hst hop
  have hregion : ∀ rank, (st'.window.region rank).tokenNum = (st.window.region rank).tokenNum ∧
      (st'.window.region rank).chunkFlag = (st.window.region rank).chunkFlag ∧
      (st'.window.region rank).expertRecvTokenNum = (st.window.region rank).expertRecvTokenNum := by
    intro rank
    rcases eq_or_ne rank g with rfl | hrank
    · rw [hself]
      exact ⟨rfl, rfl, rfl⟩
    · rw [(hne rank hrank).region]
      exact ⟨rfl, rfl, rfl⟩
  -- the group as it was: its ranks have announced, and `d` of its experts are received
  obtain ⟨d, hd, hcount, hflag, hmarkers⟩ : ∃ d, (cur = some (g, d) ∨ cur = none ∧ d = 0) ∧
      (d < net.sh.expertNumPerMoe ∧
      ∀ i < net.sh.tpSize, st.taken (g + i) = p.services g ∧ st.returned (g + i) = p.services g) ∧
      (st.window.region g).chunkFlag = readFlags d ∧ ∀ i < net.sh.tpSize, i ≠ 0 →
          (st.window.region (g + i)).marker = 0 := by
    rcases hcase : cur with _ | ⟨g', d⟩
    · have hidle : GroupIdle net st sent p g := h.others g hgroup (by simp [hcase])
      refine ⟨0, .inr ⟨rfl, rfl⟩,
        ⟨net.sh.expertNumPerMoe_pos, fun i hi => ⟨(hidle i hi).taken, (hidle i hi).returned⟩⟩, ?_,
        fun i hi _ => (hidle i hi).marker⟩
      have hrank := hidle 0 net.sh.tpSize_pos
      rw [Nat.add_zero] at hrank
      refine hrank.chunkFlag ?_
      rw [← hrank.taken]
      exact htoken g hgroup.lt (by simpa using hfound 0 net.sh.tpSize_pos)
    · obtain rfl := hown g' d hcase
      obtain ⟨hopen, -⟩ := h.opened g d hcase
      refine ⟨d, .inl rfl,
        ⟨hopen.lt, fun i hi => ⟨(hopen.rank i hi).taken, (hopen.rank i hi).returned⟩⟩, hopen.chunkFlag,
        fun i hi hne => ?_⟩
      by_contra hmarker
      exact hne ((hopen.marker i hi).1 hmarker)
  have hopen : GroupOpen net st' p g d := by
    refine ⟨hgroup, hcount.1, fun i hi => ⟨?_, ?_, ?_⟩, fun i hi => ?_, ?_⟩
    · rw [hsame.1]
      exact (hcount.2 i hi).1
    · rw [hsame.2]
      exact (hcount.2 i hi).2
    · rw [(hregion (g + i)).1]
      exact hfound i hi
    · rcases eq_or_ne i 0 with rfl | hi0
      · rw [Nat.add_zero, hself]
        simp [hn]
      · rw [(hne (g + i) (by omega)).region]
        simp [hmarkers i hi hi0, hi0]
    · rw [(hregion g).2.1]
      exact hflag
  have hcores : ∀ c < net.sh.moeAivNum, c ≠ 0 → SearchCore net st' p (some (g, d)) c := by
    intro c hc hc0
    have hframe : SearchCore net st' p cur c := (h.core c hc).frame (hcore' c hc0) hlast
      (fun rank hrank => by rwa [(hregion rank).1]) fun g' d' _ =>
      ⟨(hregion g').2.1, fun i _ => (hregion (g' + i)).2.2⟩
    rcases hd with rfl | ⟨rfl, -⟩
    · exact hframe
    · -- nobody has found the mark yet
      cases hframe with
      | start todo _ => exact .start todo fun heq => absurd heq hc0
      | probe core => exact absurd core hc0
      | mark core => exact absurd core hc0
      | follow core todo view => exact .follow core todo view
      | count hcur => cases hcur
      | chosen hcur => cases hcur
  refine ⟨some (g, d), ?_, fun g' d' heq => ?_, ?_, hlast ▸ h.lastAttn, hlast ▸ h.resumes, fun c hc => ?_⟩
  · rcases hd with rfl | ⟨rfl, rfl⟩
    · exact .inl hfirst
    · exact .inr hfirst.symm
  · obtain ⟨rfl, rfl⟩ := Prod.mk.inj (Option.some.inj heq)
    refine ⟨hopen, fun hnone => ?_⟩
    rcases hd with rfl | ⟨-, rfl⟩
    · exact (h.opened _ _ rfl).2 hnone
    · rfl
  · intro g' hg' hne' i hi
    have hother : g ≠ g' := fun heq => hne' (by simp [heq])
    have hold : RankIdle st sent (p.services g') (g' + i) := by
      refine h.others g' hg' ?_ i hi
      rcases hd with rfl | ⟨rfl, -⟩
      · exact hne'
      · simp
    refine hold.same (hne _ fun heq => hother ?_) rfl
    exact (hgroup.rank_inj hg' net.sh.tpSize_pos hi (by omega)).1
  · rcases eq_or_ne c 0 with rfl | hc0
    · refine .count (d := d) (i := 0) ?_ (Nat.zero_le _) ?_ fun l hl => absurd hl (Nat.not_lt_zero l)
      · rw [hcore]
        exact hg ▸ rfl
      · rw [hcore]
        simp [countTodo, List.range_eq_range']
    · exact hcores c hc hc0

/-- A step of the search. -/
theorem SearchInv.step (h : SearchInv net st sent p cur) (hA : 0 < net.sh.attnRankNum)
    (htoken : ∀ rank < net.sh.attnRankNum, (st.window.region rank).tokenNum ≠ 0 →
      st.taken rank < sent rank) (haiv : aivId < net.sh.moeAivNum)
    (htodo : (st.core aivId).todo = op :: rest) (hop : st.op net aivId rest op = some st') :
    ∃ cur, SearchInv net st' sent p cur := by
  cases h.core aivId haiv with
  | start todo first =>
    obtain ⟨rfl, rfl⟩ := List.cons.inj (htodo.symm.trans todo)
    exact ⟨cur, h.start first hop⟩
  | probe core todo first view hj hj' own found =>
    obtain ⟨rfl, rfl⟩ := List.cons.inj (htodo.symm.trans todo)
    exact ⟨cur, h.probe hA core first view hj hj' own found hop⟩
  | mark core todo first hn group own found =>
    obtain ⟨rfl, rfl⟩ := List.cons.inj (htodo.symm.trans todo)
    exact h.mark first hn core htoken group own found hop
  | follow core todo view =>
    obtain ⟨rfl, rfl⟩ := List.cons.inj (htodo.symm.trans todo)
    exact ⟨cur, h.follow hA core view hop⟩
  | @count d i hcur hi todo counts =>
    have hops := htodo.symm.trans todo
    rcases Nat.eq_or_lt_of_le hi with rfl | hlt
    · rw [Nat.sub_self, List.range'_zero, List.map_nil, List.nil_append] at hops
      obtain ⟨rfl, rfl⟩ := List.cons.inj hops
      exact ⟨cur, h.flags hcur counts hop⟩
    · rw [show net.sh.tpSize - i = net.sh.tpSize - (i + 1) + 1 by omega, List.range'_succ,
        List.map_cons, List.cons_append] at hops
      obtain ⟨rfl, hrest⟩ := List.cons.inj hops
      exact ⟨cur, h.count hcur hlt counts hrest hop⟩
  | chosen _ todo _ =>
    rw [todo] at htodo
    cases htodo

end Search

end AfdPlugin.Cam
