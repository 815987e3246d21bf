import AfdPlugin.Cam.Dispatches
/-!
# What a MoE rank receives

The cores of a call copy rows while they clear headers one by one. With the regions as
they were when the chunk was chosen they would copy the same, so that the chunk that
leaves dispatch-recv is the one of that moment.
-/

namespace AfdPlugin.Cam

/-! ## Copies by row number -/

section Copies
variable {V : Type} (sh : CamShape) (w : MoeWindow V) (g d e : Nat)

/-- The copies of a core are found without the rows. -/
theorem dispatchRecvRouted_rowNumbers (tensor : Nat → Nat) (region : AttnRegion V) (d e aivId : Nat) :
    dispatchRecvRouted sh tensor region d e aivId =
      (dispatchRecvRouted sh tensor region.rowNumbers d e aivId).map fun copy =>
        (copy.1, region.tokenStore copy.2) := by
  have hloop : ∀ (start : Nat) (seek : Seek) (f : Seek → Nat → Seek) (row : Seek → Nat →
      Nat) (send : Nat → Nat) (n : Nat),
      let s := forRange start n (seek, ([] : List (Nat × V))) fun s i =>
        (f s.1 i, s.2 ++ [(row (f s.1 i) i, region.tokenStore (send i))])
      let s' := forRange start n (seek, ([] : List (Nat × Nat))) fun s i =>
        (f s.1 i, s.2 ++ [(row (f s.1 i) i, send i)])
      s.1 = s'.1 ∧ s.2 = s'.2.map fun copy => (copy.1, region.tokenStore copy.2) := by
    intro start seek f row send n
    induction n with
    | zero => exact ⟨rfl, rfl⟩
    | succ n ih =>
      obtain ⟨hseek, hcopies⟩ := ih
      dsimp only
      rw [forRange_succ, forRange_succ]
      dsimp only
      rw [hseek, hcopies, List.map_append]
      exact ⟨rfl, rfl⟩
  unfold dispatchRecvRouted
  dsimp only
  exact (hloop _ _ (fun seek i => whileLoop (fun s => decide (s.nextExpertTokenNum ≤ i))
    (Seek.next tensor region.expertRecvTokenNum) sh.expertNumPerMoe seek)
    (fun seek i => seek.preExpertTokenNum + tensor (sh.expertNumPerMoe + seek.currExpertId) +
      (i - seek.currExpertTokenNum)) (fun i => region.tokenAddr (_ + _ + (i - _))) _).2

/-- `tpExpertRecvTokenNumTensor_` when `n` ranks are received. -/
def tensorAfter (n : Nat) : Nat → Nat :=
  forRange 0 n (groupCounts sh w g) fun tensor i =>
    addReceived sh d e (w.region (g + i)).expertRecvTokenNum tensor

/-- A core's copies of the `i`-th rank, by the numbers of their rows. -/
def rankCopies (aivId i : Nat) : List (Nat × Nat) :=
  dispatchRecvRouted sh (tensorAfter sh w g d e i) (w.region (g + i)).rowNumbers d e aivId

/-- A core's copies of the first `n` ranks. -/
def copyPlan (n aivId : Nat) : List (Nat × V) :=
  (List.range n).flatMap fun i => (rankCopies sh w g d e aivId i).map fun copy =>
    (copy.1, (w.region (g + i)).tokenStore copy.2)

variable {sh w g d e}

theorem tensorAfter_succ (n : Nat) :
    tensorAfter sh w g d e (n + 1) = addReceived sh d e (w.region (g + n)).expertRecvTokenNum
      (tensorAfter sh w g d e n) := by
  rw [tensorAfter, forRange_succ, Nat.zero_add]
  rfl

theorem mem_copyPlan_succ {n aivId : Nat} {x : Nat × V} : x ∈ copyPlan sh w g d e (n + 1) aivId ↔
    x ∈ copyPlan sh w g d e n aivId ∨ ∃ copy ∈ rankCopies sh w g d e aivId n,
      x = (copy.1, (w.region (g + n)).tokenStore copy.2) := by
  rw [copyPlan, List.range_succ, List.flatMap_append, List.flatMap_singleton, List.mem_append, List.mem_map]
  simp only [eq_comm (a := x)]
  rfl

theorem receiveRanks_copyPlan (aivId : Nat) :
    receiveRanks sh w g d e aivId =
      (tensorAfter sh w g d e sh.tpSize, copyPlan sh w g d e sh.tpSize aivId) := by
  have hall : ∀ n, forRange 0 n (groupCounts sh w g, ([] : List (Nat × V))) (fun s tpIndex =>
      let region := w.region (g + tpIndex)
      (addReceived sh d e region.expertRecvTokenNum s.1,
        s.2 ++ dispatchRecvRouted sh s.1 region d e aivId)) =
      (tensorAfter sh w g d e n, copyPlan sh w g d e n aivId) := by
    intro n
    induction n with
    | zero => rfl
    | succ n ih =>
      rw [forRange_succ, ih, Nat.zero_add]
      dsimp only
      rw [← tensorAfter_succ, dispatchRecvRouted_rowNumbers]
      simp only [copyPlan, List.range_succ, List.flatMap_append, List.flatMap_singleton]
      rfl
  exact hall sh.tpSize

theorem copyPlan_mono {n n' aivId : Nat} (h : n ≤ n') {x : Nat × V} (hx : x ∈ copyPlan sh w g d e n aivId) :
    x ∈ copyPlan sh w g d e n' aivId := by
  induction n' with
  | zero =>
    obtain rfl := Nat.le_zero.1 h
    exact hx
  | succ n' ih =>
    rcases Nat.lt_or_eq_of_le h with hlt | rfl
    · exact mem_copyPlan_succ.2 (.inl (ih (Nat.le_of_lt_succ hlt)))
    · exact hx

/-- The cores copy each row of the chunk once, so their plans agree. -/
theorem copyPlan_agrees (hfits : w.Fits sh g) (hmax : sh.maxTokenNum < 2 ^ 32) (hde : d ≤ e)
    (he : e < sh.expertNumPerMoe) {n : Nat → Nat} (hn : ∀ c < sh.moeAivNum, n c ≤ sh.tpSize) :
    Agrees sh.moeAivNum fun c => copyPlan sh w g d e (n c) c := by
  have hmem : ∀ c < sh.moeAivNum, ∀ x ∈ copyPlan sh w g d e (n c) c, x ∈ chunkCopies sh w g d e := by
    intro c hc x hx
    refine (receiveRanks_perm hfits hmax hde he).mem_iff.1 (List.mem_flatMap.2 ⟨c, List.mem_range.2 hc, ?_⟩)
    rw [receiveRanks_copyPlan]
    exact copyPlan_mono (hn c hc) hx
  have hnodup : ((chunkCopies sh w g d e).map Prod.fst).Nodup := by
    rw [chunkCopies_rows]
    exact List.nodup_range
  intro c hc c' hc' x hx x' hx' hrow
  rw [List.inj_on_of_nodup_map hnodup (hmem c hc x hx) (hmem c' hc' x' hx') hrow]

end Copies

/-! ## Cores that copy -/

def MoeOp.asEnter {V : Type} : MoeOp V → Option Nat
  | .enter i => some i
  | _ => none

/-- A copy, with the row that the window has for it. -/
def MoeOp.asCopy {V : Type} (w : MoeWindow V) (g : Nat) : MoeOp V → Option (Nat × V)
  | .copy i r n => some (r, (w.region (g + i)).tokenStore n)
  | _ => none

section Receiving
variable {V S F : Type} (net : CamNet V S F)

/-- The ranks that a core receives up to barrier `k` of a chunk that ends at `e`. -/
def rankLimit (sh : CamShape) (e k : Nat) : Nat :=
  if e = sh.expertNumPerMoe - 1 then min (k + 1) sh.tpSize else sh.tpSize

/-- A core that has received `n` ranks of the group. -/
structure ReceivingCore (g d e k : Nat) (w : MoeWindow V) (c : MoeCore V) (n : Nat) : Prop where
  le : n ≤ rankLimit net.sh e k
  enters : c.todo.filterMap MoeOp.asEnter = List.range' n (rankLimit net.sh e k - n)
  tensor : c.tensor = tensorAfter net.sh w g d e n
  view : ∀ i < n, (c.view.region (g + i)).moePreTokenNum = (w.region (g + i)).moePreTokenNum ∧
    (c.view.region (g + i)).expertRecvTokenNum = (w.region (g + i)).expertRecvTokenNum

/-- What dispatch-recv says of a chunk. -/
def ChunkTold (chunk : RecvChunk V) (R g d e : Nat) (w : MoeWindow V) : Prop :=
  (∀ j, chunk.batchInfo j = if j = 2 then net.layerIndex R g else tpBatchInfo net.sh w g d e j) ∧
    ∀ i, chunk.epRecvCountRouted i = tensorAfter net.sh w g d e net.sh.tpSize (net.sh.expertNumPerMoe + i)

/-- The cores copy the chunk `d, …, e` of the group's round `R` as they would with the
window `w` that it was chosen from. -/
structure Receiving (st : MoeRank V) (R m g d e k : Nat) (w : MoeWindow V) (n : Nat → Nat) : Prop where
  serving : w.Serving net.sh (fun i => net.batch R (g + i)) (net.layerIndex R g) m g d
  chunk : selectChunk net.sh.expertNumPerMoe net.sh.maxTokenNum (readFlags d)
    (groupCounts net.sh w g) = some (d, e)
  layer : (st.core 0).layerIndex = net.layerIndex R g
  same : ∀ i < net.sh.tpSize, st.taken (g + i) = R →
    SameDispatch (w.region (g + i)) (st.window.region (g + i))
  core : ∀ c < net.sh.moeAivNum, ReceivingCore net g d e k w (st.core c) (n c)
  copies : Covered net.sh.moeAivNum (fun c => copyPlan net.sh w g d e (n c) c)
    (fun c => (st.core c).todo.filterMap (MoeOp.asCopy w g)) st.chunk.expandXOut
  last : (st.core 0).todo.Pairwise fun op _ => op ≠ .record
  record : .record ∈ (st.core 0).todo → rankLimit net.sh e k = net.sh.tpSize
  told : (k = if e = net.sh.expertNumPerMoe - 1 then net.sh.tpSize else 0) →
    .record ∈ (st.core 0).todo ∨ ChunkTold net st.chunk R g d e w

variable {net} {st st' : MoeRank V} {sent : Nat → Nat} {p : Progress} {m g d e k q aivId : Nat}
  {w : MoeWindow V} {n : Nat → Nat} {op : MoeOp V} {rest : List (MoeOp V)}

theorem rankLimit_le (e k : Nat) : rankLimit net.sh e k ≤ net.sh.tpSize := by
  unfold rankLimit
  split
  · exact min_le_right _ _
  · exact le_rfl

/-- A rank whose rows are copied is not cleared. -/
theorem RowsInv.taken_of_op (h : RowsInv net st sent p g d e k q) {i : Nat}
    (hi : if e = net.sh.expertNumPerMoe - 1 then i = k ∧ k < net.sh.tpSize else i < net.sh.tpSize) :
    i < net.sh.tpSize ∧ st.taken (g + i) = p.services g := by
  have hq : q ≤ k := by
    rcases h.clears with heq | ⟨heq, -⟩
    · exact heq.le
    · omega
  have hbarriers := h.barriers
  split at hi
  · obtain ⟨rfl, hlt⟩ := hi
    exact ⟨hlt, (h.uncleared i hq hlt).taken⟩
  · rename_i he
    rw [if_neg he] at hbarriers
    exact ⟨hi, (h.uncleared i (by omega) hi).taken⟩

/-- The copies of a rank depend on what dispatch-send has left there. -/
theorem dispatchRecvRouted_congr {U : Type} {sh : CamShape} {tensor : Nat → Nat}
    {region region' : AttnRegion U} (hcounts : region'.expertRecvTokenNum = region.expertRecvTokenNum)
    (haddr : region'.tokenAddr = region.tokenAddr) (hstore : region'.tokenStore = region.tokenStore)
    (d e aivId : Nat) :
    dispatchRecvRouted sh tensor region' d e aivId = dispatchRecvRouted sh tensor region d e aivId := by
  unfold dispatchRecvRouted
  rw [hcounts, haddr, hstore]

/-- A core does an operation that is neither the start of a rank nor a copy. -/
theorem Receiving.pop {R : Nat} (h : Receiving net st R m g d e k w n)
    (htodo : (st.core aivId).todo = op :: rest)
    (hcore : st'.core = Function.update st.core aivId { st.core aivId with todo := rest })
    (henter : op.asEnter = none)
    (hsame : ∀ i < net.sh.tpSize, st'.taken (g + i) = R →
      SameDispatch (w.region (g + i)) (st'.window.region (g + i)))
    (hcopies : Covered net.sh.moeAivNum (fun c => copyPlan net.sh w g d e (n c) c)
      (fun c => (st'.core c).todo.filterMap (MoeOp.asCopy w g)) st'.chunk.expandXOut)
    (htold : (k = if e = net.sh.expertNumPerMoe - 1 then net.sh.tpSize else 0) →
      .record ∈ (st'.core 0).todo ∨ ChunkTold net st'.chunk R g d e w) :
    Receiving net st' R m g d e k w n := by
  have hself : st'.core aivId = { st.core aivId with todo := rest } := by rw [hcore, Function.update_self]
  have hother : ∀ c ≠ aivId, st'.core c = st.core c := by
    intro c hne
    rw [hcore, Function.update_of_ne hne]
  have hless : ∃ before, (st.core 0).todo = before ++ (st'.core 0).todo := by
    rcases eq_or_ne 0 aivId with rfl | hne
    · exact ⟨[op], by rw [htodo, hself]; rfl⟩
    · exact ⟨[], by rw [hother 0 hne]; rfl⟩
  obtain ⟨before, hless⟩ := hless
  refine ⟨h.serving, h.chunk, ?_, hsame, fun c hc => ?_, hcopies, ?_, fun hmem => h.record ?_, htold⟩
  · rw [← h.layer]
    rcases eq_or_ne 0 aivId with rfl | hne
    · rw [hself]
    · rw [hother 0 hne]
  · obtain ⟨hle, henters, htensor, hview⟩ := h.core c hc
    rcases eq_or_ne c aivId with rfl | hne
    · rw [hself]
      rw [htodo, List.filterMap_cons_none henter] at henters
      exact ⟨hle, henters, htensor, hview⟩
    · rw [hother c hne]
      exact ⟨hle, henters, htensor, hview⟩
  · have hlast := h.last
    rw [hless] at hlast
    exact (List.pairwise_append.1 hlast).2.1
  · rw [hless]
    exact List.mem_append_right _ hmem

/-- An operation that is no copy leaves the copies as they are. -/
theorem Receiving.copies_of_pop {R : Nat} (h : Receiving net st R m g d e k w n)
    (htodo : (st.core aivId).todo = op :: rest)
    (hcore : st'.core = Function.update st.core aivId { st.core aivId with todo := rest })
    (hcopy : op.asCopy w g = none) (hchunk : st'.chunk.expandXOut = st.chunk.expandXOut) :
    Covered net.sh.moeAivNum (fun c => copyPlan net.sh w g d e (n c) c)
      (fun c => (st'.core c).todo.filterMap (MoeOp.asCopy w g))
      st'.chunk.expandXOut := by
  rw [hchunk]
  refine h.copies.frame (fun c _ x => ?_) fun _ _ _ _ => rfl
  rcases eq_or_ne c aivId with rfl | hne
  · rw [hcore, Function.update_self, htodo, List.filterMap_cons_none hcopy]
  · rw [hcore, Function.update_of_ne hne]

/-- The next rank of the group. -/
theorem Receiving.enter {R i : Nat} (h : Receiving net st R m g d e k w n) (hR : R = p.services g)
    (hrows : RowsInv net st sent p g d e k q) (haiv : aivId < net.sh.moeAivNum)
    (htodo : (st.core aivId).todo = .enter i :: rest) (hop : st.op net aivId rest (.enter i) = some st') :
    Receiving net st' R m g d e k w (Function.update n aivId (n aivId + 1)) := by
  subst hR
  have hallowed := hrows.ops aivId haiv (.enter i) (htodo ▸ List.mem_cons_self)
  obtain ⟨hi, htaken⟩ := hrows.taken_of_op hallowed
  obtain ⟨hrank, hstart, hend⟩ := hrows.taken.core aivId haiv
  obtain ⟨hle, henters, htensor, hview⟩ := h.core aivId haiv
  have hsame := h.same i hi htaken
  rw [htodo] at henters
  change i :: rest.filterMap MoeOp.asEnter = _ at henters
  obtain ⟨hlen, rfl, hrest⟩ : n aivId < rankLimit net.sh e k ∧ i = n aivId ∧
      rest.filterMap MoeOp.asEnter = List.range' (n aivId + 1) (rankLimit net.sh e k - (n aivId + 1)) := by
    cases hn : rankLimit net.sh e k - n aivId with
    | zero =>
      rw [hn] at henters
      cases henters
    | succ l =>
      rw [hn, List.range'_succ] at henters
      obtain ⟨hhead, htail⟩ := List.cons.inj henters
      exact ⟨by omega, hhead, by rw [htail, show rankLimit net.sh e k - (n aivId + 1) = l by omega]⟩
  -- what the core finds is what the window had
  obtain ⟨found, hfound⟩ : ∃ found : AttnRegion V, found = { (st.core aivId).view.region (g + n aivId) with
      moePreTokenNum := (st.window.region (g + n aivId)).moePreTokenNum
      expertRecvTokenNum := (st.window.region (g + n aivId)).expertRecvTokenNum
      tokenAddr := (st.window.region (g + n aivId)).tokenAddr } := ⟨_, rfl⟩
  have hcopies : dispatchRecvRouted net.sh (st.core aivId).tensor found.rowNumbers d e aivId =
      rankCopies net.sh w g d e aivId (n aivId) := by
    rw [rankCopies, ← htensor]
    have hstore : found.rowNumbers.tokenStore = (w.region (g + n aivId)).rowNumbers.tokenStore := rfl
    refine dispatchRecvRouted_congr ?_ ?_ hstore d e aivId
    · rw [hfound]
      exact hsame.expertRecvTokenNum
    · rw [hfound]
      exact hsame.tokenAddr
  have hst : st' = st.setCore aivId { st.core aivId with
      view := (st.core aivId).view.setRegion (g + n aivId) found
      tensor := tensorAfter net.sh w g d e (n aivId + 1)
      todo := (rankCopies net.sh w g d e aivId (n aivId)).map
          (fun copy => .copy (n aivId) copy.1 copy.2) ++ rest } := by
    have hcounts : found.expertRecvTokenNum = (w.region (g + n aivId)).expertRecvTokenNum := by
      rw [hfound]
      exact hsame.expertRecvTokenNum
    rw [← hcopies, tensorAfter_succ, ← hcounts, ← htensor, ← hstart, ← hend, hfound, ← hrank]
    exact (Option.some.inj hop).symm
  have hself : st'.core aivId = { st.core aivId with
      view := (st.core aivId).view.setRegion (g + n aivId) found
      tensor := tensorAfter net.sh w g d e (n aivId + 1)
      todo := (rankCopies net.sh w g d e aivId (n aivId)).map
          (fun copy => .copy (n aivId) copy.1 copy.2) ++ rest } := by
    rw [hst]
    exact Function.update_self _ _ _
  have hother : ∀ c ≠ aivId, st'.core c = st.core c := by
    intro c hne
    rw [hst]
    exact Function.update_of_ne hne _ _
  have hwindow : st'.window = st.window ∧ st'.taken = st.taken ∧ st'.chunk = st.chunk := by
    rw [hst]
    exact ⟨rfl, rfl, rfl⟩
  have hqueue : (st'.core aivId).todo.filterMap (MoeOp.asCopy w g) =
      ((rankCopies net.sh w g d e aivId (n aivId)).map fun copy =>
        (copy.1, (w.region (g + n aivId)).tokenStore copy.2)) ++ rest.filterMap (MoeOp.asCopy w g) := by
    rw [hself]
    dsimp only
    rw [List.filterMap_append, List.filterMap_map, ← List.filterMap_eq_map]
    rfl
  have hold : (st.core aivId).todo.filterMap (MoeOp.asCopy w g) = rest.filterMap (MoeOp.asCopy w g) := by
    rw [htodo, List.filterMap_cons_none rfl]
  have hnew : ∀ op' ∈ (rankCopies net.sh w g d e aivId (n aivId)).map fun copy => MoeOp.copy (V := V) (n
      aivId) copy.1 copy.2, op' ≠ .record := by
    intro op' hop'
    obtain ⟨copy, -, rfl⟩ := List.mem_map.1 hop'
    simp
  have hrecord : .record ∈ (st'.core 0).todo ↔ .record ∈ (st.core 0).todo := by
    rcases eq_or_ne 0 aivId with rfl | hne
    · rw [hself, htodo]
      simp
    · rw [hother 0 hne]
  clear hst hop
  refine ⟨h.serving, h.chunk, ?_, ?_, fun c hc => ?_, ?_, ?_, fun hmem => h.record (hrecord.1 hmem),
    fun hk => ?_⟩
  · rw [← h.layer]
    rcases eq_or_ne 0 aivId with rfl | hne
    · rw [hself]
    · rw [hother 0 hne]
  · rw [hwindow.1, hwindow.2.1]
    exact h.same
  · rcases eq_or_ne c aivId with rfl | hne
    · rw [Function.update_self, hself]
      refine ⟨hlen, ?_, rfl, fun i hi => ?_⟩
      · dsimp only
        rw [List.filterMap_append, hrest, List.filterMap_map]
        have hnone : (rankCopies net.sh w g d e c (n c)).filterMap
            (MoeOp.asEnter ∘ fun copy => MoeOp.copy (V := V) (n c) copy.1 copy.2) = [] := by
          rw [List.filterMap_eq_nil_iff]
          intro copy _
          rfl
        rw [hnone, List.nil_append]
      · dsimp only [MoeWindow.setRegion]
        rcases Nat.lt_succ_iff_lt_or_eq.1 hi with hlt | rfl
        · rw [Function.update_of_ne (by omega)]
          exact hview i hlt
        · rw [Function.update_self, hfound]
          exact ⟨hsame.moePreTokenNum, hsame.expertRecvTokenNum⟩
    · rw [Function.update_of_ne hne, hother c hne]
      exact h.core c hc
  · rw [hwindow.2.2]
    refine h.copies.plan_more (fun c hc x hx => ?_) (fun c hc x hx => ?_) fun c hc x hx => ?_
    · rcases eq_or_ne c aivId with rfl | hne
      · rw [Function.update_self, mem_copyPlan_succ]
        rw [hqueue] at hx
        rcases List.mem_append.1 hx with hx | hx
        · obtain ⟨copy, hcopy, rfl⟩ := List.mem_map.1 hx
          exact .inr ⟨copy, hcopy, rfl⟩
        · exact .inl (h.copies.planned c hc x (hold ▸ hx))
      · rw [Function.update_of_ne hne]
        rw [hother c hne] at hx
        exact h.copies.planned c hc x hx
    · rcases eq_or_ne c aivId with rfl | hne
      · rw [hold] at hx
        rw [hqueue]
        exact List.mem_append_right _ hx
      · rwa [hother c hne]
    · rcases eq_or_ne c aivId with rfl | hne
      · rw [Function.update_self, mem_copyPlan_succ] at hx
        rcases hx with hx | ⟨copy, hcopy, rfl⟩
        · exact .inl hx
        · rw [hqueue]
          exact .inr (List.mem_append_left _ (List.mem_map_of_mem hcopy))
      · rw [Function.update_of_ne hne] at hx
        exact .inl hx
  · rcases eq_or_ne 0 aivId with rfl | hne
    · have hlast := h.last
      rw [htodo] at hlast
      rw [hself]
      dsimp only
      rw [List.pairwise_append]
      refine ⟨List.pairwise_of_forall_mem_list fun op' hop' _ _ => hnew op' hop',
        (List.pairwise_cons.1 hlast).2, fun op' hop' _ _ => hnew op' hop'⟩
    · rw [hother 0 hne]
      exact h.last
  · rw [hwindow.2.2]
    exact (h.told hk).imp_left hrecord.2

/-- What a core leaves of a region that it copies from. -/
theorem Receiving.same_of_op {R : Nat} (h : Receiving net st R m g d e k w n) (hR : R = p.services g)
    (hrows : RowsInv net st sent p g d e k q) (hop : st.op net aivId rest op = some st') {i : Nat}
    (hi : i < net.sh.tpSize) (htaken : st'.taken (g + i) = R) :
    SameDispatch (w.region (g + i)) (st'.window.region (g + i)) := by
  subst hR
  rcases MoeRank.op_keeps hop (g + i) with ⟨hsame, hregion⟩ | hmore
  · exact (h.same i hi (hsame.symm.trans htaken)).trans hregion
  · -- no header is cleared twice
    rcases Nat.lt_or_ge i q with hlt | hge
    · have := (hrows.cleared i hlt).taken
      omega
    · have := (hrows.uncleared i hge hi).taken
      omega

theorem Receiving.told_of_pop {R : Nat} (h : Receiving net st R m g d e k w n)
    (htodo : (st.core aivId).todo = op :: rest)
    (hcore : st'.core = Function.update st.core aivId { st.core aivId with todo := rest })
    (hop : op ≠ .record) (hinfo : st'.chunk.batchInfo = st.chunk.batchInfo)
    (hcounts : st'.chunk.epRecvCountRouted = st.chunk.epRecvCountRouted)
    (hk : k = if e = net.sh.expertNumPerMoe - 1 then net.sh.tpSize else 0) :
    .record ∈ (st'.core 0).todo ∨ ChunkTold net st'.chunk R g d e w := by
  rcases h.told hk with hmem | ⟨htold, hrecv⟩
  · left
    rw [hcore]
    rcases eq_or_ne 0 aivId with rfl | hne
    · rw [Function.update_self]
      rw [htodo] at hmem
      exact (List.mem_cons.1 hmem).resolve_left hop.symm
    · rwa [Function.update_of_ne hne]
  · right
    refine ⟨fun j => ?_, fun i => ?_⟩
    · rw [hinfo]
      exact htold j
    · rw [hcounts]
      exact hrecv i

/-- The copies agree on the rows of the chunk. -/
theorem Receiving.agrees {R : Nat} (h : Receiving net st R m g d e k w n)
    (hgroup : GroupAdmitted net.sh fun i => net.batch R (g + i)) (hm : m < net.sh.moeRankNum)
    (hde : d ≤ e) (he : e < net.sh.expertNumPerMoe) :
    Agrees net.sh.moeAivNum fun c => copyPlan net.sh w g d e (n c) c := by
  have hmax := hgroup.maxTokenNum_lt
  exact copyPlan_agrees (h.serving.fits hgroup hm) (by omega) hde he fun c hc =>
    (h.core c hc).le.trans (rankLimit_le e k)

/-- A row of the chunk. -/
theorem Receiving.copy {R i r a : Nat} (h : Receiving net st R m g d e k w n) (hR : R = p.services g)
    (hgroup : GroupAdmitted net.sh fun i => net.batch R (g + i)) (hm : m < net.sh.moeRankNum)
    (hrows : RowsInv net st sent p g d e k q) (haiv : aivId < net.sh.moeAivNum)
    (htodo : (st.core aivId).todo = .copy i r a :: rest)
    (hop : st.op net aivId rest (.copy i r a) = some st') : Receiving net st' R m g d e k w n := by
  have hallowed := hrows.ops aivId haiv (.copy i r a) (htodo ▸ List.mem_cons_self)
  obtain ⟨hi, htaken⟩ := hrows.taken_of_op hallowed
  obtain ⟨hrank, -, -⟩ := hrows.taken.core aivId haiv
  have hst : st' = { st.setCore aivId { st.core aivId with todo := rest } with
      chunk := { st.chunk with
        expandXOut := Function.update st.chunk.expandXOut r ((w.region (g + i)).tokenStore a) } } := by
    rw [← (h.same i hi (htaken.trans hR.symm)).tokenStore, ← hrank]
    exact (Option.some.inj hop).symm
  have hcore : st'.core = Function.update st.core aivId { st.core aivId with todo := rest } := by
    rw [hst]; rfl
  refine h.pop htodo hcore rfl (fun i hi => h.same_of_op hR hrows hop hi) ?_
    (h.told_of_pop htodo hcore (by simp) (by rw [hst]) (by rw [hst]))
  have hout : st'.chunk.expandXOut =
    Function.update st.chunk.expandXOut r ((w.region (g + i)).tokenStore a) := by rw [hst]
  have hqueue : (st.core aivId).todo.filterMap (MoeOp.asCopy w g) =
      (r, (w.region (g + i)).tokenStore a) :: rest.filterMap (MoeOp.asCopy w g) := by
    rw [htodo]
    rfl
  refine h.copies.write (w := (r, (w.region (g + i)).tokenStore a))
    (h.agrees hgroup hm hrows.taken.le hrows.taken.lt) haiv ?_ (fun c hc x hx => ?_)
    (fun c hc x hx => ?_) ?_ fun r' hr' => ?_
  · rw [hqueue]
    exact List.mem_cons_self
  · rw [hcore] at hx
    rcases eq_or_ne c aivId with rfl | hne
    · rw [Function.update_self] at hx
      rw [hqueue]
      exact List.mem_cons_of_mem _ hx
    · rwa [Function.update_of_ne hne] at hx
  · rw [hcore]
    rcases eq_or_ne c aivId with rfl | hne
    · rw [hqueue] at hx
      rw [Function.update_self]
      exact (List.mem_cons.1 hx).symm
    · rw [Function.update_of_ne hne]
      exact .inl hx
  · rw [hout, Function.update_self]
  · rw [hout, Function.update_of_ne hr']

/-- The batch info goes by what the cores have read of the ranks. -/
theorem tpBatchInfo_congr {sh : CamShape} {v w : MoeWindow V} {g : Nat}
    (h : ∀ i < sh.tpSize, (v.region (g + i)).moePreTokenNum = (w.region (g + i)).moePreTokenNum ∧
      (v.region (g + i)).expertRecvTokenNum = (w.region (g + i)).expertRecvTokenNum) (d e : Nat)
    {j : Nat} (hj : j ≠ 2) :
    tpBatchInfo sh v g d e j = tpBatchInfo sh w g d e j := by
  unfold tpBatchInfo
  dsimp only
  rw [groupCounts_congr fun i hi => (h i hi).2, if_neg hj, if_neg hj]
  unfold forRange
  congr 4
  refine congrFun ?_ j
  apply List.foldl_ext
  intro info i hi
  obtain ⟨hfirsts, hcounts⟩ := h i (by simpa using hi)
  funext k
  rw [hfirsts, hcounts]

/-- The outputs. -/
theorem Receiving.record_step {R : Nat} (h : Receiving net st R m g d e k w n) (hR : R = p.services g)
    (hrows : RowsInv net st sent p g d e k q) (htodo : (st.core 0).todo = .record :: rest)
    (hop : st.op net 0 rest .record = some st') : Receiving net st' R m g d e k w n := by
  have haiv := net.sh.moeAivNum_pos
  obtain ⟨hrank, hstart, hend⟩ := hrows.taken.core 0 haiv
  obtain ⟨hle, henters, htensor, hview⟩ := h.core 0 haiv
  have hlast := h.last
  have hlimit := h.record (htodo ▸ List.mem_cons_self)
  rw [htodo] at henters hlast
  obtain rfl : rest = [] :=
    List.eq_nil_iff_forall_not_mem.2 fun op hmem => (List.pairwise_cons.1 hlast).1 op hmem rfl
  have hn : n 0 = net.sh.tpSize := by
    change [] = _ at henters
    have hlen := congrArg List.length henters
    simp at hlen
    omega
  rw [hn] at hview htensor
  obtain ⟨chunk, hchunk, htold⟩ : ∃ chunk, st'.chunk = chunk ∧ ChunkTold net chunk R g d e w := by
    cases hop
    refine ⟨_, rfl, fun j => ?_, fun i => ?_⟩
    · dsimp only
      split
      · exact h.layer
      · rename_i hj
        rw [hrank, hstart, hend, tpBatchInfo_congr hview d e hj]
    · dsimp only
      rw [htensor]
  have hcore : st'.core = Function.update st.core 0 { st.core 0 with todo := [] } := by
    cases hop
    rfl
  have hout : st'.chunk.expandXOut = st.chunk.expandXOut := by
    cases hop
    rfl
  exact h.pop htodo hcore rfl (fun i hi => h.same_of_op hR hrows hop hi)
    (h.copies_of_pop htodo hcore rfl hout) fun _ => .inr (hchunk ▸ htold)

/-- Every step of dispatch-recv past the search. -/
theorem Receiving.step {R : Nat} (h : Receiving net st R m g d e k w n) (hR : R = p.services g)
    (hgroup : GroupAdmitted net.sh fun i => net.batch R (g + i)) (hm : m < net.sh.moeRankNum)
    (hrows : RowsInv net st sent p g d e k q) (haiv : aivId < net.sh.moeAivNum)
    (htodo : (st.core aivId).todo = op :: rest) (hop : st.op net aivId rest op = some st') :
    ∃ n, Receiving net st' R m g d e k w n := by
  have hallowed := hrows.ops aivId haiv op (htodo ▸ List.mem_cons_self)
  cases op with
  | enter i => exact ⟨_, h.enter hR hrows haiv htodo hop⟩
  | copy i r a => exact ⟨n, h.copy hR hgroup hm hrows haiv htodo hop⟩
  | record =>
    obtain rfl : aivId = 0 := hallowed
    exact ⟨n, h.record_step hR hrows htodo hop⟩
  | chunkFlags i | clearHeader i =>
    have hrest : st'.core = Function.update st.core aivId { st.core aivId with todo := rest } ∧
        st'.chunk = st.chunk := by
      cases hop
      exact ⟨rfl, rfl⟩
    obtain ⟨hcore, hchunk⟩ := hrest
    refine ⟨n, h.pop htodo hcore rfl (fun i hi => h.same_of_op hR hrows hop hi)
      (h.copies_of_pop htodo hcore rfl (by rw [hchunk]))
      (h.told_of_pop htodo hcore (by simp) (by rw [hchunk]) (by rw [hchunk]))⟩
  | start | probe | mark | follow | count | flags | put => exact absurd hallowed id

/-- Attention ranks write to other regions. -/
theorem Receiving.landed {R a : Nat} {region : AttnRegion V} (h : Receiving net st R m g d e k w n)
    (hR : R = p.services g) (hrows : RowsInv net st sent p g d e k q)
    (htoken : (st.window.region a).tokenNum = 0) :
    Receiving net (st.landed a region) R m g d e k w n := by
  refine ⟨h.serving, h.chunk, h.layer, fun i hi htaken => ?_, h.core, h.copies, h.last, h.record, h.told⟩
  have htaken : st.taken (g + i) = R := htaken
  have hne : g + i ≠ a := by
    rintro rfl
    rcases Nat.lt_or_ge i q with hlt | hge
    · have := (hrows.cleared i hlt).taken
      omega
    · exact (hrows.uncleared i hge hi).tokenNum htoken
  rw [(MoeRank.landed_of_ne hne).region]
  exact h.same i hi htaken

end Receiving

end AfdPlugin.Cam
