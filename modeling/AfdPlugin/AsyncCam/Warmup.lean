import AfdPlugin.Cam.Admission
import AfdPlugin.Cam.ReceiveWindow
/-!
# Receives of the graph warmup

During startup each Attention rank dispatches one row, to the experts below
`topk`. An FFN rank computes beforehand how many calls of dispatch-recv that
takes, and makes so many; one call more would wait for good, one call less would
leave a slot to the first step of service.
-/

namespace AfdPlugin.Cam

/-! ## What the ranks compute -/

/-- `graph_startup_chunks`. -/
def graphStartupChunks (expertPerRank topk worldRank attnSize tpSize receiveCapacity : Int) :
    Except String Int :=
  let localExperts := max 0 (min expertPerRank (topk - (worldRank - attnSize) * expertPerRank))
  if tpSize = 0 then .error "integer division or modulo by zero"
  else
    let expertsPerChunk := receiveCapacity.fdiv tpSize
    if expertsPerChunk = 0 then .error "integer division or modulo by zero"
    else .ok (max 1 ((localExperts + expertsPerChunk - 1).fdiv expertsPerChunk))

/-- How often the FFN runner receives. -/
def startupReceives (chunks attnSize tpSize : Int) : Int := chunks * attnSize.fdiv tpSize

/-- The one row that an Attention rank dispatches: `torch.arange(topk)`. -/
def startupIds (topk : Nat) : Vector Nat topk := Vector.range topk

/-- What it sends to expert `e` of FFN rank `m`. -/
def startupTokenNum (c : RecvTiling) (m e : Nat) : Nat :=
  expertCount [startupIds c.topk] (c.routeExpertNumPerMoe * m + e)

/-- What the ranks of a TP group send to an expert, when each sends the same. -/
def groupTokenNum (c : RecvTiling) (announced : Slot) (e : Nat) : Nat :=
  (List.range c.tpSize).foldl (fun n _ => (n + announced.expertRecvTokenNum e) % 2 ^ 32) 0

/-- The calls that take a round of chunks to its end. -/
inductive Finishes (R maxTokenNum : Nat) (tpCount : Nat → Nat) : (Nat → Nat) → Nat → Prop
  | last {chunkFlag : Nat → Nat} {s : Nat}
      (h : selectChunk R maxTokenNum chunkFlag tpCount = some (s, R - 1)) :
      Finishes R maxTokenNum tpCount chunkFlag 1
  | next {chunkFlag : Nat → Nat} {s e n : Nat}
      (h : selectChunk R maxTokenNum chunkFlag tpCount = some (s, e)) (hlast : e ≠ R - 1)
      (hrest : Finishes R maxTokenNum tpCount (markRead chunkFlag e) n) :
      Finishes R maxTokenNum tpCount chunkFlag (n + 1)

/-! ## Chunks of a startup dispatch -/

theorem startupTokenNum_eq (c : RecvTiling) (m e : Nat) :
    startupTokenNum c m e = if c.routeExpertNumPerMoe * m + e < c.topk then 1 else 0 := by
  have hids : (startupIds c.topk).toList = List.range c.topk := by simp [startupIds, Vector.toList]
  rw [startupTokenNum, expertCount, List.flatMap_singleton, hids]
  split
  · rename_i hlt
    exact List.count_eq_one_of_mem List.nodup_range (List.mem_range.2 hlt)
  · rename_i hlt
    exact List.count_eq_zero_of_not_mem fun h => hlt (List.mem_range.1 h)

section Chunks
variable {R L tp cap : Nat}

/-- Chunks that `L` experts of `tp` assignments each take. -/
def chunksOf (L k : Nat) : Nat := max 1 ((L + k - 1) / k)

theorem chunksOf_pos (L k : Nat) : 0 < chunksOf L k := le_max_left 1 _

theorem sum_startup {d b : Nat} : ∑ i ∈ Finset.Ico d b, (if i < L then tp else 0) = (min b L - d) * tp := by
  rw [← Finset.sum_filter, Finset.Ico_filter_lt, Finset.sum_const, Nat.card_Ico, smul_eq_mul]

/-- A chunk has `k` experts with an assignment; the last one has the rest, and the
experts without. -/
theorem selectChunk_startup (hR : 0 < R) (htp : 0 < tp) (hle : tp ≤ cap) (hcap : cap ≤ 1024 * 256) {t : Nat}
    (ht : t < chunksOf (min R L) (cap / tp)) :
    ∃ e, selectChunk R cap (readFlags (t * (cap / tp))) (fun i => if i < L then tp else 0) =
        some (t * (cap / tp), e) ∧
      (t + 1 = chunksOf (min R L) (cap / tp) → e = R - 1) ∧
      (t + 1 < chunksOf (min R L) (cap / tp) → e ≠ R - 1 ∧
        markRead (readFlags (t * (cap / tp))) e = readFlags ((t + 1) * (cap / tp))) := by
  have hk : 0 < cap / tp := Nat.div_pos hle htp
  have hkcap : cap / tp * tp ≤ cap := Nat.div_mul_le_self cap tp
  have hover : cap < (cap / tp + 1) * tp := by
    rw [Nat.mul_comm]
    exact Nat.lt_mul_div_succ cap htp
  generalize hk' : cap / tp = k at ht hk hkcap hover ⊢
  have hwrap : ∀ i, cap + (if i < L then tp else 0) < 2 ^ 32 := fun i => by split <;> omega
  have hmul : (t + 1) * k = t * k + k := Nat.succ_mul t k
  have hceil : ∀ n, n < (min R L + k - 1) / k ↔ n * k < min R L := by
    intro n
    rw [Nat.lt_iff_add_one_le, Nat.le_div_iff_mul_le hk, Nat.succ_mul]
    omega
  by_cases hlast : t + 1 < chunksOf (min R L) k
  · -- more than `k` experts with an assignment are left
    have hlt : (t + 1) * k < min R L := by
      rw [← hceil]
      unfold chunksOf at hlast
      omega
    refine ⟨(t + 1) * k - 1, selectChunk_eq_some (by omega) (by omega) ?_ (hwrap _) (.inr ?_), by omega,
      fun _ => ⟨by omega, ?_⟩⟩
    · rw [sum_startup, show min ((t + 1) * k - 1 + 1) L - t * k = k by omega]
      exact hkcap
    · rw [sum_startup, show min ((t + 1) * k - 1 + 2) L - t * k = k + 1 by omega]
      exact hover
    · rw [markRead_readFlags (by omega), show (t + 1) * k - 1 + 1 = (t + 1) * k by omega]
  · have hall : min R L ≤ (t + 1) * k := by
      rw [← not_lt, ← hceil]
      unfold chunksOf at hlast
      omega
    have hstart : t * k < R := by
      rcases Nat.eq_zero_or_pos t with rfl | hpos
      · omega
      · have := (hceil t).1 (by unfold chunksOf at ht; omega)
        omega
    refine ⟨R - 1, selectChunk_eq_some (by omega) (by omega) ?_ (hwrap _) (.inl (by omega)),
      fun _ => rfl, fun h => absurd h hlast⟩
    rw [sum_startup, show R - 1 + 1 = R by omega]
    exact (Nat.mul_le_mul_right tp (show min R L - t * k ≤ k by omega)).trans hkcap

/-- The calls from chunk `t` on. -/
theorem finishes_startup (hR : 0 < R) (htp : 0 < tp) (hle : tp ≤ cap) (hcap : cap ≤ 1024 * 256)
    (n : Nat) {t : Nat} (ht : t + (n + 1) = chunksOf (min R L) (cap / tp)) :
    Finishes R cap (fun i => if i < L then tp else 0) (readFlags (t * (cap / tp))) (n + 1) := by
  induction n generalizing t with
  | zero =>
    obtain ⟨e, hsel, hlast, -⟩ := selectChunk_startup (L := L) hR htp hle hcap (t := t) (by omega)
    rw [hlast (by omega)] at hsel
    exact .last hsel
  | succ n ih =>
    obtain ⟨e, hsel, -, hnext⟩ := selectChunk_startup (L := L) hR htp hle hcap (t := t) (by omega)
    obtain ⟨hne, hflags⟩ := hnext (by omega)
    refine .next hsel hne ?_
    rw [hflags]
    exact ih (by omega)

end Chunks

/-! ## A warmup -/

/-- An FFN rank in its warmup: its window, which Attention ranks have dispatched,
the step of the search in the current call, and the calls so far. -/
structure Warmup where
  window : Window
  dispatched : Nat → Bool
  scan : Nat
  received : Nat
  failed : Bool

/-- Before the first dispatch the window is clear. -/
def Warmup.Initial (w : Warmup) : Prop :=
  w.window.lastAttn = 0 ∧ (∀ r, (w.window.slot r).tokenNum = 0 ∧ (w.window.slot r).marker = 0) ∧
    (∀ r, w.dispatched r = false) ∧ w.scan = 0 ∧ w.received = 0 ∧ w.failed = false

/-- A rank announces its dispatch, or the FFN rank looks at one more group; it
makes `total` calls. -/
inductive Warmup.Step (c : RecvTiling) (announced : Slot) (total : Nat) (w : Warmup) : Warmup → Prop
  | dispatch {r : Nat} (hr : r < c.attnRankNum) (hfirst : w.dispatched r = false) :
      Step c announced total w { w with
        window := { w.window with slot := Function.update w.window.slot r announced }
        dispatched := Function.update w.dispatched r true }
  | search (hcall : w.received < total) (hrun : w.failed = false) (hnot : ¬ c.GroupReady w.window w.scan) :
      Step c announced total w { w with scan := (w.scan + 1) % c.groups }
  | receive {v : Window} (hcall : w.received < total) (hrun : w.failed = false)
      (hready : c.GroupReady w.window w.scan)
      (hrecv : c.dispatchRecv (RecvTiling.mark w.window (c.srcRank w.window w.scan))
        (c.srcRank w.window w.scan) = some v) :
      Step c announced total w { w with window := v, scan := 0, received := w.received + 1 }
  | fail (hcall : w.received < total) (hrun : w.failed = false) (hready : c.GroupReady w.window w.scan)
      (hrecv : c.dispatchRecv (RecvTiling.mark w.window (c.srcRank w.window w.scan))
        (c.srcRank w.window w.scan) = none) : Step c announced total w { w with failed := true }

inductive Warmup.Reachable (c : RecvTiling) (announced : Slot) (total : Nat) : Warmup → Prop
  | init {w : Warmup} (h : w.Initial) : Reachable c announced total w
  | step {w v : Warmup} (h : Reachable c announced total w) (hs : Step c announced total w v) :
      Reachable c announced total v

/-- What the slots hold when `taken g` chunks of each group `g` were received, of
`chunks` chunks with `k` experts. -/
structure Warmup.Inv (c : RecvTiling) (announced : Slot) (chunks k : Nat) (taken : Nat → Nat)
    (w : Warmup) : Prop where
  failed : w.failed = false
  received : ∑ g ∈ Finset.range c.groups, taken g = w.received
  le : ∀ g < c.groups, taken g ≤ chunks
  /-- Only the group where the search begins can be received in part. -/
  pointer : ∃ p < c.groups, w.window.lastAttn = p * c.tpSize ∧
    ∀ g < c.groups, 0 < taken g → taken g < chunks → g = p ∧ w.scan = 0
  idle : ∀ g < c.groups, ∀ j < c.tpSize, w.dispatched (g * c.tpSize + j) = false →
    taken g = 0 ∧ (w.window.slot (g * c.tpSize + j)).tokenNum = 0 ∧
      (w.window.slot (g * c.tpSize + j)).marker = 0
  pending : ∀ g < c.groups, taken g < chunks → ∀ j < c.tpSize, w.dispatched (g * c.tpSize + j) = true →
    w.window.slot (g * c.tpSize + j) = { announced with
      marker := if 0 < taken g ∧ j = 0 then announced.tokenNum else 0
      chunkFlag := readFlags (taken g * k) }
  done : ∀ g < c.groups, taken g = chunks → ∀ j < c.tpSize,
    (w.window.slot (g * c.tpSize + j)).tokenNum = 0 ∧ (w.window.slot (g * c.tpSize + j)).marker = 0

/-- A dispatch of every rank of a group is received in `chunks` calls, of `k`
experts each but for the last. -/
structure Chunked (c : RecvTiling) (announced : Slot) (chunks k : Nat) : Prop where
  tokenNum : announced.tokenNum ≠ 0
  marker : announced.marker = 0
  chunkFlag : announced.chunkFlag = fun _ => 0
  pos : 0 < chunks
  select : ∀ t < chunks, ∃ e,
      selectChunk c.routeExpertNumPerMoe c.maxTokenNum (readFlags (t * k)) (groupTokenNum c announced) =
        some (t * k, e) ∧
      (t + 1 = chunks → e = c.routeExpertNumPerMoe - 1) ∧
      (t + 1 < chunks → e ≠ c.routeExpertNumPerMoe - 1 ∧
        markRead (readFlags (t * k)) e = readFlags ((t + 1) * k))

section Run
variable {c : RecvTiling} {announced : Slot} {chunks k total : Nat} {taken : Nat → Nat} {w v : Warmup}

theorem Warmup.Initial.inv (h : w.Initial) (hchunked : Chunked c announced chunks k) :
    w.Inv c announced chunks k fun _ => 0 := by
  obtain ⟨hlast, hslot, hdispatched, -, hreceived, hfailed⟩ := h
  refine ⟨hfailed, by simp [hreceived], fun g _ => Nat.zero_le chunks,
    ⟨0, c.groups_pos, by rw [hlast, Nat.zero_mul], fun g _ h => absurd h (Nat.lt_irrefl 0)⟩,
    fun g _ j _ _ => ⟨rfl, hslot _⟩, fun g _ _ j _ hd => ?_, fun g _ hzero => ?_⟩
  · rw [hdispatched] at hd
    cases hd
  · exact absurd hzero hchunked.pos.ne

namespace Warmup.Inv
variable (h : w.Inv c announced chunks k taken)
include h

/-- A group whose ranks have all announced is one that is not yet received. -/
theorem of_ready {q : Nat} (hq : q < c.groups)
    (hready : ∀ j < c.tpSize, (w.window.slot (q * c.tpSize + j)).tokenNum ≠ 0) :
    taken q < chunks ∧ ∀ j < c.tpSize, w.dispatched (q * c.tpSize + j) = true := by
  constructor
  · by_contra hge
    have hdone := h.done q hq (le_antisymm (h.le q hq) (not_lt.1 hge)) 0 c.tpSize_pos
    exact hready 0 c.tpSize_pos hdone.1
  · intro j hj
    by_contra hd
    exact hready j hj (h.idle q hq j hj (Bool.not_eq_true _ ▸ hd)).2.1

/-- The other way round. -/
theorem ready_of_dispatched (hchunked : Chunked c announced chunks k) {q : Nat} (hq : q < c.groups)
    (hlt : taken q < chunks) (hall : ∀ j < c.tpSize, w.dispatched (q * c.tpSize + j) = true) :
    ∀ j < c.tpSize, (w.window.slot (q * c.tpSize + j)).tokenNum ≠ 0 := by
  intro j hj
  rw [h.pending q hq hlt j hj (hall j hj)]
  exact hchunked.tokenNum

theorem dispatched_of_taken {q : Nat} (hq : q < c.groups) (hpos : 0 < taken q) :
    ∀ j < c.tpSize, w.dispatched (q * c.tpSize + j) = true := by
  intro j hj
  by_contra hd
  have := (h.idle q hq j hj (Bool.not_eq_true _ ▸ hd)).1
  omega

/-- A call that goes through takes the next chunk of the group it found. -/
theorem receive (hchunked : Chunked c announced chunks k) {p : Nat}
    (hlast : w.window.lastAttn = p * c.tpSize) {i q : Nat} (hq : (p + i) % c.groups = q)
    (hready : c.GroupReady w.window i) :
    taken q < chunks ∧ (∀ j < c.tpSize, w.dispatched (q * c.tpSize + j) = true) ∧
      ∃ v, c.dispatchRecv (RecvTiling.mark w.window (c.srcRank w.window i))
        (c.srcRank w.window i) = some v ∧
        (v.lastAttn = if taken q + 1 = chunks then (q + 1) % c.groups * c.tpSize else q * c.tpSize) ∧
        (∀ g < c.groups, g ≠ q → ∀ j < c.tpSize, v.slot (g * c.tpSize + j) =
          w.window.slot (g * c.tpSize + j)) ∧
        (taken q + 1 = chunks → ∀ j < c.tpSize,
          (v.slot (q * c.tpSize + j)).tokenNum = 0 ∧ (v.slot (q * c.tpSize + j)).marker = 0) ∧
        (taken q + 1 < chunks → ∀ j < c.tpSize, v.slot (q * c.tpSize + j) = { announced with
          marker := if j = 0 then announced.tokenNum else 0
          chunkFlag := readFlags ((taken q + 1) * k) }) := by
  have hqlt : q < c.groups := hq ▸ Nat.mod_lt _ c.groups_pos
  have hready' : ∀ j < c.tpSize, (w.window.slot (q * c.tpSize + j)).tokenNum ≠ 0 := by
    intro j hj
    have hj' := hready j hj
    rwa [RecvTiling.searched_rank hlast i hj, hq] at hj'
  obtain ⟨hlt, hall⟩ := h.of_ready hqlt hready'
  have hslots := fun j hj => h.pending q hqlt hlt j hj (hall j hj)
  obtain ⟨e, hsel, hend, hmid⟩ := hchunked.select (taken q) hlt
  have hbase : c.srcRank w.window i = q * c.tpSize := by rw [RecvTiling.srcRank_eq hlast, hq]
  have hslot0 := hslots 0 c.tpSize_pos
  rw [Nat.add_zero] at hslot0
  refine ⟨hlt, hall, ?_⟩
  rw [hbase]
  have hmark : ∀ j < c.tpSize, (RecvTiling.mark w.window (q * c.tpSize)).slot (q * c.tpSize + j) =
      { announced with
        marker := if j = 0 then announced.tokenNum else 0
        chunkFlag := readFlags (taken q * k) } := by
    intro j hj
    unfold RecvTiling.mark
    dsimp only
    rcases Nat.eq_zero_or_pos j with rfl | hpos
    · rw [Nat.add_zero, if_pos rfl, hslot0, if_pos rfl]
    · rw [if_neg (by omega), hslots j hj, if_neg (by omega), if_neg (by omega)]
  have hmark0 := hmark 0 c.tpSize_pos
  rw [Nat.add_zero] at hmark0
  have hcount : c.tpExpertRecvTokenNum (RecvTiling.mark w.window (q * c.tpSize)) (q * c.tpSize) =
      groupTokenNum c announced := by
    funext i
    refine List.foldl_ext _ _ _ fun n j hj => ?_
    rw [hmark j (List.mem_range.1 hj)]
  have hother : ∀ g < c.groups, g ≠ q → ∀ j < c.tpSize,
      ¬ (q * c.tpSize ≤ g * c.tpSize + j ∧ g * c.tpSize + j < q * c.tpSize + c.tpSize) := by
    rintro g hg hne j hj ⟨hge, hltq⟩
    obtain ⟨j', hj'⟩ := Nat.exists_eq_add_of_le hge
    exact hne (RecvTiling.rank_inj hj (by omega) hj').1
  refine ⟨_, by rw [RecvTiling.dispatchRecv, hcount, hmark0, hsel, Option.map_some], ?_,
    fun g hg hne j hj => ?_, fun hone j hj => ?_, fun hmore j hj => ?_⟩
  · dsimp only
    by_cases hone : taken q + 1 = chunks
    · rw [if_pos (hend hone), if_pos hone]
      have hnext := @RecvTiling.srcRank_eq c ⟨q * c.tpSize, w.window.slot⟩ q rfl 1
      rwa [RecvTiling.srcRank, Nat.mul_one] at hnext
    · rw [if_neg (hmid (by omega)).1, if_neg hone]
  · dsimp only
    rw [if_neg (hother g hg hne j hj)]
    unfold RecvTiling.mark
    dsimp only
    rw [if_neg]
    intro heq
    exact hne (@RecvTiling.rank_inj c g q j 0 hj c.tpSize_pos (by rw [heq, Nat.add_zero])).1
  · dsimp only
    rw [if_pos (by omega)]
    simp [RecvTiling.receiveSlot, hend hone]
  · dsimp only
    rw [if_pos (by omega), hmark j hj, RecvTiling.receiveSlot]
    simp [(hmid hmore).1, (hmid hmore).2]

/-- Only the first rank of a group received in part is marked. -/
theorem marker_eq_zero {g : Nat} (hg : g < c.groups)
    (hnot : ¬ (0 < taken g ∧ taken g < chunks)) {j : Nat} (hj : j < c.tpSize) :
    (w.window.slot (g * c.tpSize + j)).marker = 0 := by
  rcases Nat.eq_or_lt_of_le (h.le g hg) with heq | hlt
  · exact (h.done g hg heq j hj).2
  · cases hd : w.dispatched (g * c.tpSize + j) with
    | false => exact (h.idle g hg j hj hd).2.2
    | true =>
      rw [h.pending g hg hlt j hj hd]
      exact if_neg (by omega)

/-- The other cores take the group that core 0 found. -/
theorem followed_eq (hready : c.GroupReady w.window w.scan) :
    c.followed (RecvTiling.mark w.window (c.srcRank w.window w.scan)) =
      some (c.srcRank w.window w.scan) := by
  obtain ⟨p, hp, hlast, hpartial⟩ := h.pointer
  generalize hq : (p + w.scan) % c.groups = q
  have hbase : c.srcRank w.window w.scan = q * c.tpSize := by rw [RecvTiling.srcRank_eq hlast, hq]
  have hmarked : ∀ i, ((RecvTiling.mark w.window (q * c.tpSize)).slot (c.srcRank w.window i)).marker ≠ 0 ↔
      (p + i) % c.groups = q := by
    intro i
    rw [RecvTiling.srcRank_eq hlast, RecvTiling.mark]
    dsimp only
    by_cases hi : (p + i) % c.groups = q
    · have hready' := hready 0 c.tpSize_pos
      rw [RecvTiling.searched_rank hlast w.scan c.tpSize_pos, hq, Nat.add_zero] at hready'
      rw [hi, if_pos rfl]
      exact ⟨fun _ => rfl, fun _ => hready'⟩
    · have hne : (p + i) % c.groups * c.tpSize ≠ q * c.tpSize := fun heq =>
        hi (Nat.eq_of_mul_eq_mul_right c.tpSize_pos heq)
      have hlt := Nat.mod_lt (p + i) c.groups_pos
      have hzero := h.marker_eq_zero hlt (fun hpart => hi ?_) c.tpSize_pos
      · rw [if_neg hne]
        rw [Nat.add_zero] at hzero
        exact ⟨fun hnot => absurd hzero hnot, fun heq => absurd heq hi⟩
      · obtain ⟨heq, hscan⟩ := hpartial _ hlt hpart.1 hpart.2
        rw [heq, ← hq, hscan, Nat.add_zero, Nat.mod_eq_of_lt hp]
  rw [hbase, RecvTiling.followed]
  cases hfind : (List.range c.groups).find? fun i =>
      decide (((RecvTiling.mark w.window (q * c.tpSize)).slot (c.srcRank w.window i)).marker ≠ 0) with
  | none =>
    have hnone := List.find?_eq_none.1 hfind (w.scan % c.groups)
      (List.mem_range.2 (Nat.mod_lt _ c.groups_pos))
    refine absurd (decide_eq_true ((hmarked _).2 ?_)) hnone
    rw [Nat.add_mod_mod, hq]
  | some i =>
    have hfound := List.find?_some hfind
    have hi := (hmarked i).1 (by simpa only [decide_eq_true_eq] using hfound)
    have hrank : c.srcRank w.window i = q * c.tpSize := by rw [RecvTiling.srcRank_eq hlast, hi]
    exact (congrArg (Option.map (c.srcRank w.window)) hfind).trans (congrArg some hrank)

end Warmup.Inv

theorem Warmup.Step.inv (hs : w.Step c announced total v) (hchunked : Chunked c announced chunks k)
    (h : w.Inv c announced chunks k taken) : ∃ taken', v.Inv c announced chunks k taken' := by
  obtain ⟨p, hp, hlast, hpartial⟩ := h.pointer
  cases hs with
  | @dispatch r hr hfirst =>
    refine ⟨taken, h.failed, h.received, h.le, ⟨p, hp, hlast, hpartial⟩, fun g hg j hj hd => ?_,
      fun g hg hlt j hj hd => ?_, fun g hg hdone j hj => ?_⟩
    · have hne : g * c.tpSize + j ≠ r := by
        rintro rfl
        simp at hd
      dsimp only at hd ⊢
      rw [Function.update_of_ne hne] at hd ⊢
      exact h.idle g hg j hj hd
    · dsimp only at hd ⊢
      by_cases heq : g * c.tpSize + j = r
      · subst heq
        have hzero := (h.idle g hg j hj hfirst).1
        rw [Function.update_self, hzero, if_neg (by omega)]
        exact Slot.ext rfl hchunked.marker rfl (by rw [hchunked.chunkFlag, Nat.zero_mul, readFlags_zero])
      · rw [Function.update_of_ne heq] at hd ⊢
        exact h.pending g hg hlt j hj hd
    · dsimp only
      have hne : g * c.tpSize + j ≠ r := by
        rintro rfl
        have hzero := (h.idle g hg j hj hfirst).1
        have := hchunked.pos
        omega
      rw [Function.update_of_ne hne]
      exact h.done g hg hdone j hj
  | search hcall hrun hnot =>
    refine ⟨taken, h.failed, h.received, h.le, ⟨p, hp, hlast, fun g hg hpos hlt => ?_⟩, h.idle,
      h.pending, h.done⟩
    -- a group received in part would have been found
    obtain ⟨rfl, hscan⟩ := hpartial g hg hpos hlt
    refine absurd (fun j hj => ?_) hnot
    rw [RecvTiling.searched_rank hlast w.scan hj, hscan, Nat.add_zero, Nat.mod_eq_of_lt hg]
    exact h.ready_of_dispatched hchunked hg hlt (h.dispatched_of_taken hg hpos) j hj
  | @receive window hcall hrun hready hrecv =>
    obtain ⟨hlt, hall, window', hrecv', hnext, hother, hend, hmore⟩ := h.receive hchunked hlast rfl hready
    obtain rfl : window' = window := Option.some.inj (hrecv'.symm.trans hrecv)
    generalize hq : (p + w.scan) % c.groups = q at hlt hall hnext hother hend hmore
    have hqlt : q < c.groups := hq ▸ Nat.mod_lt _ c.groups_pos
    have hpartial' : ∀ g < c.groups, 0 < taken g → taken g < chunks → g = q := by
      intro g hg hpos hlt
      obtain ⟨rfl, hscan⟩ := hpartial g hg hpos hlt
      rw [← hq, hscan, Nat.add_zero, Nat.mod_eq_of_lt hg]
    refine ⟨fun g => taken g + if g = q then 1 else 0, h.failed, ?_, fun g hg => ?_, ?_,
      fun g hg j hj hd => ?_, fun g hg hltg j hj hd => ?_, fun g hg hdone j hj => ?_⟩
    · rw [Finset.sum_add_distrib, h.received, Finset.sum_ite_eq' (Finset.range c.groups) q,
        if_pos (Finset.mem_range.2 hqlt)]
    · have := h.le g hg
      split
      · rename_i heq
        rw [heq]
        omega
      · exact this
    · by_cases hone : taken q + 1 = chunks
      · refine ⟨(q + 1) % c.groups, Nat.mod_lt _ c.groups_pos, by rw [hnext, if_pos hone],
          fun g hg hpos hlt => ?_⟩
        split at hlt
        · rename_i heq
          rw [heq] at hlt
          omega
        · rename_i hne
          rw [if_neg hne] at hpos
          exact absurd (hpartial' g hg hpos hlt) hne
      · refine ⟨q, hqlt, by rw [hnext, if_neg hone], fun g hg hpos hlt => ⟨?_, rfl⟩⟩
        by_contra hne
        rw [if_neg hne] at hpos hlt
        exact hne (hpartial' g hg hpos hlt)
    · dsimp only at hd ⊢
      by_cases hg' : g = q
      · rw [hg', hall j hj] at hd
        cases hd
      · rw [if_neg hg', hother g hg hg' j hj]
        exact h.idle g hg j hj hd
    · dsimp only at hltg hd ⊢
      by_cases hg' : g = q
      · subst hg'
        rw [if_pos rfl] at hltg ⊢
        rw [hmore hltg j hj]
        simp
      · rw [if_neg hg'] at hltg ⊢
        rw [hother g hg hg' j hj]
        exact h.pending g hg hltg j hj hd
    · dsimp only at hdone ⊢
      by_cases hg' : g = q
      · subst hg'
        rw [if_pos rfl] at hdone
        exact hend hdone j hj
      · rw [if_neg hg'] at hdone
        rw [hother g hg hg' j hj]
        exact h.done g hg hdone j hj
  | fail hcall hrun hready hrecv =>
    obtain ⟨-, -, window', hrecv', -⟩ := h.receive hchunked hlast rfl hready
    rw [hrecv'] at hrecv
    cases hrecv

theorem Warmup.Reachable.inv (h : w.Reachable c announced total) (hchunked : Chunked c announced chunks k) :
    ∃ taken, w.Inv c announced chunks k taken := by
  induction h with
  | init h => exact ⟨_, h.inv hchunked⟩
  | step _ hs ih =>
    obtain ⟨taken, htaken⟩ := ih
    exact hs.inv hchunked htaken

/-! ## What a run has done -/

namespace Warmup.Inv
variable (h : w.Inv c announced chunks k taken)
include h

theorem received_le : w.received ≤ chunks * c.groups := by
  rw [← h.received]
  calc ∑ g ∈ Finset.range c.groups, taken g ≤ ∑ _g ∈ Finset.range c.groups, chunks :=
        Finset.sum_le_sum fun g hg => h.le g (Finset.mem_range.1 hg)
    _ = chunks * c.groups := by rw [Finset.sum_const, Finset.card_range, smul_eq_mul, Nat.mul_comm]

/-- After all the calls nothing is left. -/
theorem all_received (hpos : 0 < chunks) (hall : w.received = chunks * c.groups) {r : Nat}
    (hr : r < c.attnRankNum) :
    w.dispatched r = true ∧ (w.window.slot r).tokenNum = 0 := by
  have hsum : ∑ g ∈ Finset.range c.groups, taken g = ∑ _g ∈ Finset.range c.groups, chunks := by
    rw [h.received, hall, Finset.sum_const, Finset.card_range, smul_eq_mul, Nat.mul_comm]
  have htaken := (Finset.sum_eq_sum_iff_of_le fun g hg => h.le g (Finset.mem_range.1 hg)).1 hsum
  have hg : r / c.tpSize < c.groups := by
    rw [Nat.div_lt_iff_lt_mul c.tpSize_pos, c.groups_mul]
    exact hr
  have hj := Nat.mod_lt r c.tpSize_pos
  have heq := htaken _ (Finset.mem_range.2 hg)
  rw [← Nat.div_add_mod' r c.tpSize]
  exact ⟨h.dispatched_of_taken hg (by omega) _ hj, (h.done _ hg heq _ hj).1⟩

/-- Before that, a call finds a group as soon as every rank has dispatched. -/
theorem exists_ready (hchunked : Chunked c announced chunks k) (hless : w.received < chunks * c.groups)
    (hall : ∀ r < c.attnRankNum, w.dispatched r = true) : ∃ i < c.groups, c.GroupReady w.window i := by
  obtain ⟨p, hp, hlast, -⟩ := h.pointer
  have hsome : ∃ g < c.groups, taken g < chunks := by
    by_contra hnone
    push Not at hnone
    have hge : ∑ _g ∈ Finset.range c.groups, chunks ≤ ∑ g ∈ Finset.range c.groups, taken g :=
      Finset.sum_le_sum fun g hg => hnone g (Finset.mem_range.1 hg)
    rw [h.received, Finset.sum_const, Finset.card_range, smul_eq_mul, Nat.mul_comm] at hge
    omega
  obtain ⟨g, hg, hlt⟩ := hsome
  have hfound : (p + (g + c.groups - p) % c.groups) % c.groups = g := by
    rw [Nat.add_mod_mod, show p + (g + c.groups - p) = g + c.groups by omega, Nat.add_mod_right,
      Nat.mod_eq_of_lt hg]
  refine ⟨(g + c.groups - p) % c.groups, Nat.mod_lt _ c.groups_pos, fun j hj => ?_⟩
  rw [RecvTiling.searched_rank hlast _ hj, hfound]
  exact h.ready_of_dispatched hchunked hg hlt (fun j hj => hall _ (RecvTiling.rank_lt hg hj)) j hj

end Warmup.Inv

end Run

/-! ## The startup dispatch -/

theorem foldl_wrap (f : Nat → Nat) (n : Nat) :
    (List.range n).foldl (fun s i => (s + f i) % 2 ^ 32) 0 = (∑ i ∈ Finset.range n, f i) % 2 ^ 32 := by
  induction n with
  | zero => rfl
  | succ n ih =>
    rw [List.range_succ, List.foldl_append, ih, Finset.sum_range_succ, List.foldl_cons, List.foldl_nil,
      Nat.mod_add_mod]

section Startup
variable (c : RecvTiling) (m : Nat)

/-- What an Attention rank announces to FFN rank `m` in the warmup. -/
def startupSlot : Slot := SetFlags c.routeExpertNumPerMoe (startupTokenNum c m)

/-- The calls that one TP group's startup dispatch takes. -/
def startupChunks : Nat :=
  chunksOf (min c.routeExpertNumPerMoe (c.topk - c.routeExpertNumPerMoe * m)) (c.maxTokenNum / c.tpSize)

theorem routeExpertNumPerMoe_pos : 0 < c.routeExpertNumPerMoe := by
  have hle := c.topk_le
  have hpos := c.topk_pos
  refine Nat.pos_of_ne_zero fun hzero => ?_
  rw [hzero, Nat.zero_mul] at hle
  omega

theorem groupTokenNum_startup (htp : c.tpSize < 2 ^ 32) :
    groupTokenNum c (startupSlot c m) = fun i => if i < c.topk - c.routeExpertNumPerMoe * m then
      c.tpSize else 0 := by
  funext i
  have hiff : c.routeExpertNumPerMoe * m + i < c.topk ↔ i < c.topk - c.routeExpertNumPerMoe * m := by omega
  change (List.range c.tpSize).foldl (fun n _ => (n + startupTokenNum c m i) % 2 ^ 32) 0 = _
  rw [foldl_wrap fun _ => startupTokenNum c m i, startupTokenNum_eq, Finset.sum_const, Finset.card_range]
  by_cases h : c.routeExpertNumPerMoe * m + i < c.topk
  · rw [if_pos h, if_pos (hiff.1 h), smul_eq_mul, Nat.mul_one, Nat.mod_eq_of_lt htp]
  · rw [if_neg h, if_neg (fun h' => h (hiff.2 h'))]
    rfl

theorem startupSlot_tokenNum (hids : c.topk ≤ 2 ^ 31) : (startupSlot c m).tokenNum ≠ 0 := by
  have hle : ∑ i ∈ Finset.range c.routeExpertNumPerMoe, startupTokenNum c m i ≤ c.topk := by
    calc ∑ i ∈ Finset.range c.routeExpertNumPerMoe, startupTokenNum c m i =
        ∑ i ∈ Finset.Ico 0 c.routeExpertNumPerMoe, if i < c.topk - c.routeExpertNumPerMoe * m then
        1 else 0 := by
          rw [Finset.range_eq_Ico]
          refine Finset.sum_congr rfl fun i _ => ?_
          rw [startupTokenNum_eq]
          exact if_congr (by omega) rfl rfl
      _ ≤ c.topk := by
          rw [sum_startup]
          omega
  change ((List.range c.routeExpertNumPerMoe).foldl (fun n i => (n + startupTokenNum c m i) % 2 ^ 32)
    0 + 1) % 2 ^ 32 ≠ 0
  rw [foldl_wrap, Nat.mod_eq_of_lt (by omega), Nat.mod_eq_of_lt (by omega)]
  omega

theorem chunked_startup (hle : c.tpSize ≤ c.maxTokenNum) (hids : c.topk ≤ 2 ^ 31) :
    Chunked c (startupSlot c m) (startupChunks c m) (c.maxTokenNum / c.tpSize) := by
  have hcap := c.maxTokenNum_le
  have hR := routeExpertNumPerMoe_pos c
  refine ⟨startupSlot_tokenNum c m hids, rfl, rfl, chunksOf_pos _ _, fun t ht => ?_⟩
  rw [groupTokenNum_startup c m (by omega)]
  exact selectChunk_startup hR c.tpSize_pos hle hcap ht

/-- The runner's formula. -/
theorem graphStartupChunks_eq (hle : c.tpSize ≤ c.maxTokenNum) :
    graphStartupChunks c.routeExpertNumPerMoe c.topk (c.attnRankNum + m) c.attnRankNum c.tpSize
      c.maxTokenNum =
      .ok (startupChunks c m : Nat) := by
  have htp := c.tpSize_pos
  have hk : 0 < c.maxTokenNum / c.tpSize := Nat.div_pos hle htp
  have hlocal : max 0 (min (c.routeExpertNumPerMoe : Int)
      ((c.topk : Int) - ((c.attnRankNum : Int) + m - c.attnRankNum) * c.routeExpertNumPerMoe)) =
      (min c.routeExpertNumPerMoe (c.topk - c.routeExpertNumPerMoe * m) : Nat) := by
    rw [show (c.attnRankNum : Int) + m - c.attnRankNum = m by omega, Int.mul_comm, ← Int.natCast_mul]
    omega
  have hchunk : (c.maxTokenNum : Int).fdiv c.tpSize = (c.maxTokenNum / c.tpSize : Nat) := by
    rw [Int.fdiv_eq_ediv_of_nonneg _ (Int.natCast_nonneg _), Int.natCast_ediv]
  unfold graphStartupChunks startupChunks
  rw [hlocal, hchunk, if_neg (by omega)]
  generalize c.maxTokenNum / c.tpSize = k at hk
  generalize min c.routeExpertNumPerMoe (c.topk - c.routeExpertNumPerMoe * m) = L
  have hsum : (L : Int) + k - 1 = (L + k - 1 : Nat) := by omega
  dsimp only
  rw [if_neg (by omega), hsum, Int.fdiv_eq_ediv_of_nonneg _ (Int.natCast_nonneg _), ← Int.natCast_ediv,
    chunksOf, Nat.cast_max]
  rfl

/-- A validated configuration has room for a row of every TP rank. -/
theorem tpSize_le_of_validate {maxTokens : Int}
    (hvalid : validateGraphCapacity maxTokens c.tpSize c.maxTokenNum = .ok ()) :
    c.tpSize ≤ c.maxTokenNum := by
  obtain ⟨hpos, -, hmod, hle, -⟩ := validateGraphCapacity_ok hvalid
  have := Int.le_of_dvd hpos (Int.dvd_of_emod_eq_zero hmod)
  omega

/-- The chunks that an FFN rank computes are the calls that one TP group's startup
dispatch takes, and its receives are those of all groups: in every run no call
fails, all cores of a call take one group, as long as a call is left and every
Attention rank has dispatched there is a group to receive, and after the last
call there is none. -/
theorem startup_receives {maxTokens : Int}
    (hvalid : validateGraphCapacity maxTokens c.tpSize c.maxTokenNum = .ok ()) (hids : c.topk ≤ 2 ^ 31) :
    ∃ chunks : Nat,
      graphStartupChunks c.routeExpertNumPerMoe c.topk (c.attnRankNum + m) c.attnRankNum c.tpSize
        c.maxTokenNum =
        .ok chunks ∧
      Finishes c.routeExpertNumPerMoe c.maxTokenNum (groupTokenNum c (startupSlot c m))
        (fun _ => 0) chunks ∧
      ∃ total : Nat, startupReceives chunks c.attnRankNum c.tpSize = total ∧
        ∀ w : Warmup, w.Reachable c (startupSlot c m) total →
          w.failed = false ∧ w.received ≤ total ∧
          (c.GroupReady w.window w.scan →
            c.followed (RecvTiling.mark w.window (c.srcRank w.window w.scan)) =
              some (c.srcRank w.window w.scan)) ∧
          (w.received < total → (∀ r < c.attnRankNum, w.dispatched r = true) →
            ∃ i < c.groups, c.GroupReady w.window i) ∧
          (w.received = total → ∀ r < c.attnRankNum, w.dispatched r = true ∧
            (w.window.slot r).tokenNum = 0) := by
  have hle := tpSize_le_of_validate c hvalid
  have hcap := c.maxTokenNum_le
  have hchunked := chunked_startup c m hle hids
  have hchunks := graphStartupChunks_eq c m hle
  refine ⟨startupChunks c m, hchunks, ?_, startupChunks c m * c.groups, ?_, fun w hw => ?_⟩
  · obtain ⟨n, hn⟩ := Nat.exists_eq_succ_of_ne_zero hchunked.pos.ne'
    have hrun := finishes_startup (L := c.topk - c.routeExpertNumPerMoe * m)
      (routeExpertNumPerMoe_pos c) c.tpSize_pos hle hcap n (t := 0) ((Nat.zero_add _).trans hn.symm)
    rw [hn, groupTokenNum_startup c m (by omega), ← readFlags_zero]
    rwa [Nat.zero_mul] at hrun
  · rw [startupReceives, Int.fdiv_eq_ediv_of_nonneg _ (Int.natCast_nonneg _), ← Int.natCast_ediv,
      ← Int.natCast_mul]
    rfl
  · obtain ⟨taken, hinv⟩ := hw.inv hchunked
    exact ⟨hinv.failed, hinv.received_le, hinv.followed_eq,
      fun hless hall => hinv.exists_ready hchunked hless hall,
      fun hall r hr => hinv.all_received hchunked.pos hall hr⟩

end Startup

/-- Four Attention ranks in two TP groups; eight experts on two FFN ranks, of which
five get a row; room for two experts' rows. -/
def fiveOfEight : RecvTiling :=
  ⟨4, 2, 4, 2, 5, 4, by decide, by decide, by decide, by decide, by decide, by decide⟩

theorem startup_receives_fiveOfEight :
    ∃ chunks : Nat, graphStartupChunks 4 5 (4 + 0) 4 2 4 = .ok chunks ∧
      Finishes 4 4 (groupTokenNum fiveOfEight (startupSlot fiveOfEight 0)) (fun _ => 0) chunks ∧
      ∃ total : Nat, startupReceives chunks 4 2 = total ∧
        ∀ w : Warmup, w.Reachable fiveOfEight (startupSlot fiveOfEight 0) total →
          w.failed = false ∧ w.received ≤ total ∧
          (fiveOfEight.GroupReady w.window w.scan →
            fiveOfEight.followed (RecvTiling.mark w.window (fiveOfEight.srcRank w.window w.scan)) =
              some (fiveOfEight.srcRank w.window w.scan)) ∧
          (w.received < total → (∀ r < 4, w.dispatched r = true) →
            ∃ i < 2, fiveOfEight.GroupReady w.window i) ∧
          (w.received = total → ∀ r < 4, w.dispatched r = true ∧ (w.window.slot r).tokenNum = 0) :=
  @startup_receives fiveOfEight 0 4 (by decide) (by decide)

end AfdPlugin.Cam
