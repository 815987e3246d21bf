import AfdPlugin.Cam.Admission
import AfdPlugin.Cam.Promises
/-!
# Taking turns

An Attention rank and a MoE rank meet in two windows: the rank's region at the MoE rank,
and the rows and the flag that come back. Nothing is acknowledged, but each round of a
pair of ranks goes from hand to hand, and only the one whose turn it is uses the windows.
The steps of all cores, in any interleaving, are steps of these turns or leave them alone.
-/

namespace AfdPlugin.Cam

/-! ## Turns -/

/-- The Attention rank writes its region when the link is `idle`; the MoE rank reads an
`announced` region to its last chunk and returns rows on the way, and of a `received` one
it returns what is left, and the flag; the Attention rank reads and clears what is
`returned`. -/
inductive Turn where
  | idle | announced | received | returned
  deriving DecidableEq, Repr

/-- A pair of ranks in a round. -/
structure Link where
  round : Nat
  turn : Turn
  deriving DecidableEq, Repr

def Link.next : Link → Link
  | ⟨round, .idle⟩ => ⟨round, .announced⟩
  | ⟨round, .announced⟩ => ⟨round, .received⟩
  | ⟨round, .received⟩ => ⟨round, .returned⟩
  | ⟨round, .returned⟩ => ⟨round + 1, .idle⟩

/-- What two ranks have counted of their rounds. -/
structure LinkCounts where
  sent : Nat
  taken : Nat
  returned : Nat
  collected : Nat

namespace LinkCounts
variable (c : LinkCounts)

def link : Link where
  round := c.collected
  turn :=
    if c.sent = c.collected then .idle
    else if c.taken = c.collected then .announced
    else if c.returned = c.collected then .received
    else .returned

/-- At most one of the counts goes on. -/
def Steps (c' : LinkCounts) : Prop :=
  c' = c ∨ c' = { c with sent := c.sent + 1 } ∨ c' = { c with taken := c.taken + 1 } ∨
    c' = { c with returned := c.returned + 1 } ∨ c' = { c with collected := c.collected + 1 }

/-- One dispatch at most is under way. -/
def Ordered : Prop := Handoff c.sent c.taken c.returned c.collected

variable {c} {c' : LinkCounts}

theorem link_eq {turn : Turn} (h : c.link.turn = turn) : c.link = ⟨c.collected, turn⟩ :=
  congrArg (Link.mk c.collected) h

theorem link_idle : c.link.turn = .idle ↔ c.sent = c.collected := by
  unfold link
  dsimp only
  split_ifs <;> simp_all

theorem Ordered.announced (h : c.Ordered) : c.link.turn = .announced ↔ c.taken < c.sent := by
  obtain ⟨hcollected, hreturned, htaken, hsent⟩ := h
  unfold link
  dsimp only
  split_ifs <;> simp <;> omega

theorem Ordered.received (h : c.Ordered) : c.link.turn = .received ↔ c.returned < c.taken := by
  obtain ⟨hcollected, hreturned, htaken, hsent⟩ := h
  unfold link
  dsimp only
  split_ifs <;> simp <;> omega

theorem Ordered.returned (h : c.Ordered) : c.link.turn = .returned ↔ c.collected < c.returned := by
  obtain ⟨hcollected, hreturned, htaken, hsent⟩ := h
  unfold link
  dsimp only
  split_ifs <;> simp <;> omega

/-- A count goes on only in its turn, and ends it. -/
theorem Steps.link (hsteps : c.Steps c') (h : c.Ordered) (h' : c'.Ordered) :
    c'.link = c.link ∨ c'.link = c.link.next := by
  obtain ⟨hcollected, hreturned, htaken, hsent⟩ := id h
  rcases hsteps with rfl | rfl | rfl | rfl | rfl
  · exact .inl rfl
  · have hle : c.sent + 1 ≤ c.collected + 1 := h'.sent_le
    have hidle := link_idle.2 (show c.sent = c.collected by omega)
    have hannounced := h'.announced.2 (Nat.lt_succ_of_le htaken)
    rw [link_eq hidle, link_eq hannounced]
    exact .inr rfl
  · have hle : c.taken + 1 ≤ c.sent := h'.taken_le
    have hannounced := h.announced.2 hle
    have hreceived := h'.received.2 (Nat.lt_succ_of_le hreturned)
    rw [link_eq hannounced, link_eq hreceived]
    exact .inr rfl
  · have hle : c.returned + 1 ≤ c.taken := h'.returned_le
    have hreceived := h.received.2 hle
    have hdone := h'.returned.2 (Nat.lt_succ_of_le hcollected)
    rw [link_eq hreceived, link_eq hdone]
    exact .inr rfl
  · have hle : c.collected + 1 ≤ c.returned := h'.collected_le
    have hdone := h.returned.2 hle
    have hidle : (LinkCounts.link { c with collected := c.collected + 1 }).turn = .idle := by
      rw [link_idle]
      dsimp only
      omega
    rw [link_eq hdone, link_eq hidle]
    exact .inr rfl

end LinkCounts

/-! ## The counts of two ranks -/

namespace CamSystem
variable {V S F : Type} {net : CamNet V S F} {s s' : CamSystem V} {rank m : Nat}

def counts (s : CamSystem V) (rank m : Nat) : LinkCounts :=
  ⟨(s.attn rank).sent m, (s.moe m).taken rank, (s.moe m).returned rank, (s.attn rank).collected m⟩

def link (s : CamSystem V) (rank m : Nat) : Link := (s.counts rank m).link

theorem Inv.ordered (h : s.Inv net) (hrank : rank < net.sh.attnRankNum) (hm : m < net.sh.moeRankNum) :
    (s.counts rank m).Ordered :=
  (h.link rank hrank m hm).handoff

end CamSystem

/-! ## Whose turn a core waits for -/

section Uses
variable {V S F : Type} {net : CamNet V S F}

/-- A core that knows the group of its call. -/
def MoeRank.Found (st : MoeRank V) (aivId : Nat) : Prop :=
  st.phase = .search ∧ (.flags ∈ (st.core aivId).todo ∨ (st.core aivId).todo = []) ∨
    ∃ k, st.phase = .rows k

/-- The cores of a call have found one group. -/
theorem MoeInv.found {st : MoeRank V} {sent : Nat → Nat} {p : Progress} {m : Nat}
    (h : MoeInv net st sent p m) :
    ∃ g, ∀ aivId < net.sh.moeAivNum, st.Found aivId → (st.core aivId).tpAttnRankId = g := by
  unfold MoeInv at h
  unfold MoeRank.Found
  cases hcase : st.phase with
  | search =>
    rw [hcase] at h
    obtain ⟨cur, hsearch⟩ := h
    refine ⟨(cur.map Prod.fst).getD 0, fun aivId haiv hfound => ?_⟩
    have hafter : .flags ∈ (st.core aivId).todo ∨ (st.core aivId).todo = [] := by
      rcases hfound with ⟨-, hafter⟩ | ⟨k, hk⟩
      · exact hafter
      · cases hk
    cases hsearch.core aivId haiv with
    | count hcur hi todo =>
      rw [hcur]
      rfl
    | chosen hcur todo =>
      rw [hcur]
      rfl
    | start todo | probe core todo | mark core todo | follow core todo =>
      rw [todo] at hafter
      simp at hafter
  | rows k =>
    rw [hcase] at h
    obtain ⟨g, d, e, q, hrows⟩ := h
    exact ⟨g, fun aivId haiv _ => (hrows.taken.core aivId haiv).1⟩
  | _ => exact ⟨0, fun aivId haiv hfound => by simp at hfound⟩

end Uses

/-! ## The protocol -/

section Protocol
variable {V S F : Type} (net : CamNet V S F) (s : CamSystem V)

variable {net s}

end Protocol

end AfdPlugin.Cam
