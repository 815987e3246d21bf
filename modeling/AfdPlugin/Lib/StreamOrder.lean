import AfdPlugin.Lib.Streams
import Mathlib.Logic.Relation
import Mathlib.Order.Basic
/-!
# The order that streams and events impose

The commands of one stream are ordered, and a wait comes after everything that
its event stands for. All that a device guarantees is the closure of this
(`Before`); the host only ever adds to it (`Extends`).
-/

namespace AfdPlugin.Streams

variable {S K : Type}

/-- The place of a command: its stream, and how many commands are before it there. -/
structure Node (S : Type) where
  stream : S
  index : Nat

namespace Device
variable (d : Device S K)

def KernelAt (x : Node S) (k : K) : Prop := (d x.stream).commands[x.index]? = some (.kernel k)

inductive Edge : Node S → Node S → Prop where
  | stream {s : S} {i j : Nat} (hij : i < j) (hj : j < (d s).commands.length) : Edge ⟨s, i⟩ ⟨s, j⟩
  | event {e : Event S} {i : Nat} {y : Node S} (hi : i < e.position)
      (hy : (d y.stream).commands[y.index]? = some (.waitEvent e)) : Edge ⟨e.stream, i⟩ y

def Before : Node S → Node S → Prop := Relation.TransGen d.Edge

/-- Whoever waits for the event comes after the node. -/
def Covers (e : Event S) (x : Node S) : Prop :=
  ∃ i < e.position, x = ⟨e.stream, i⟩ ∨ d.Before x ⟨e.stream, i⟩

/-- Whatever the stream is given next comes after the node. -/
def Reaches (x : Node S) (s : S) : Prop := d.Covers (d.record s) x

/-- The host has added commands. -/
def Extends (d d' : Device S K) : Prop := ∀ s, (d s).commands <+: (d' s).commands

end Device

open Device

variable {d d' : Device S K} {x y : Node S} {e : Event S} {s t : S}

theorem Device.Extends.refl (d : Device S K) : d.Extends d := fun _ => List.prefix_rfl

theorem Device.Extends.trans {d'' : Device S K} (h : d.Extends d') (h' : d'.Extends d'') : d.Extends d'' :=
  fun s => (h s).trans (h' s)

theorem Device.Extends.length_le (h : d.Extends d') (s : S) :
    (d s).commands.length ≤ (d' s).commands.length :=
  (h s).length_le

theorem Device.Extends.getElem? (h : d.Extends d') {i : Nat} {c : Command S K}
    (hc : (d s).commands[i]? = some c) :
    (d' s).commands[i]? = some c := by
  obtain ⟨l, hl⟩ := h s
  rw [← hl, List.getElem?_append_left (List.getElem?_eq_some_iff.1 hc).1]
  exact hc

theorem Device.Before.trans {z : Node S} (hxy : d.Before x y) (hyz : d.Before y z) : d.Before x z :=
  Relation.TransGen.trans hxy hyz

/-! ## What stays when the host goes on -/

theorem Device.Before.mono (h : d.Extends d') (hxy : d.Before x y) : d'.Before x y := by
  refine Relation.TransGen.mono ?_ _ _ hxy
  intro a b hab
  cases hab with
  | stream hij hj => exact .stream hij (Nat.lt_of_lt_of_le hj (h.length_le _))
  | event hi hy => exact .event hi (h.getElem? hy)

theorem Device.Covers.mono (h : d.Extends d') (hx : d.Covers e x) : d'.Covers e x := by
  obtain ⟨i, hi, hx⟩ := hx
  exact ⟨i, hi, hx.imp_right fun hb => hb.mono h⟩

/-- A later event of the stream stands for more. -/
theorem Device.Covers.of_le {i j : Nat} (hx : d.Covers ⟨s, i⟩ x) (hij : i ≤ j) : d.Covers ⟨s, j⟩ x := by
  obtain ⟨n, hn, hx⟩ := hx
  exact ⟨n, Nat.lt_of_lt_of_le hn hij, hx⟩

theorem Device.Reaches.mono (h : d.Extends d') (hx : d.Reaches x s) : d'.Reaches x s :=
  (Covers.mono h hx).of_le (h.length_le s)

/-! ## What comes before what -/

theorem Device.covers_own {i : Nat} (hi : i < e.position) : d.Covers e ⟨e.stream, i⟩ := ⟨i, hi, .inl rfl⟩

theorem Device.Covers.of_before (hxy : d.Before x y) (hy : d.Covers e y) : d.Covers e x := by
  obtain ⟨i, hi, rfl | hyi⟩ := hy
  · exact ⟨i, hi, .inr hxy⟩
  · exact ⟨i, hi, .inr (hxy.trans hyi)⟩

/-- A wait comes after what its event covers. -/
theorem Device.Covers.wait (hx : d.Covers e x)
    (hy : (d y.stream).commands[y.index]? = some (.waitEvent e)) :
    d.Before x y := by
  obtain ⟨i, hi, rfl | hxi⟩ := hx
  · exact .single (.event hi hy)
  · exact hxi.tail (.event hi hy)

/-- The commands after an event in its own stream come after what it covers. -/
theorem Device.Covers.before {j : Nat} (hx : d.Covers e x) (hj : e.position ≤ j)
    (hlt : j < (d e.stream).commands.length) : d.Before x ⟨e.stream, j⟩ := by
  obtain ⟨i, hi, rfl | hxi⟩ := hx
  · exact .single (.stream (Nat.lt_of_lt_of_le hi hj) hlt)
  · exact hxi.tail (.stream (Nat.lt_of_lt_of_le hi hj) hlt)

/-- Whoever comes after a command of a stream, comes after what reached the
stream before. -/
theorem Device.Reaches.before {j : Nat} (hx : d.Reaches x s) (hd : d.Extends d')
    (hj : (d s).commands.length ≤ j) (hlt : j < (d' s).commands.length) : d'.Before x ⟨s, j⟩ :=
  (Covers.mono hd hx).before hj hlt

theorem Device.reaches_own {i : Nat} (hi : i < (d s).commands.length) : d.Reaches ⟨s, i⟩ s := covers_own hi

theorem Device.Reaches.of_before (hxy : d.Before x y) (hy : d.Reaches y s) : d.Reaches x s :=
  Covers.of_before hxy hy

/-! ## Runs -/

theorem Device.Edge.completed (hd : d.Ordered) (hxy : d.Edge x y) (hy : y.index < (d y.stream).completed) :
    x.index < (d x.stream).completed := by
  cases hxy with
  | stream hij _ => exact Nat.lt_trans hij hy
  | @event e i y hi hw =>
    have hpast : .waitEvent e ∈ d.past y.stream := by
      refine List.mem_of_getElem? (i := y.index) ?_
      rw [past, List.getElem?_take_of_lt hy, hw]
    exact Nat.lt_of_lt_of_le hi (hd.waited _ e hpast)

/-- A device that runs its commands completes them in this order. -/
theorem Device.Before.completed (hd : d.Ordered) (hxy : d.Before x y)
    (hy : y.index < (d y.stream).completed) :
    x.index < (d x.stream).completed := by
  induction hxy using Relation.TransGen.head_induction_on with
  | single hxy => exact hxy.completed hd hy
  | head hxz _ ih => exact hxz.completed hd ih

/-! ## Enqueueing -/

variable [DecidableEq S]

theorem Device.extends_enqueue (d : Device S K) (s : S) (cs : List (Command S K)) :
    d.Extends (d.enqueue s cs) := by
  intro t
  by_cases ht : t = s
  · rw [ht, enqueue_self]
    exact List.prefix_append _ _
  · have hsame := congrArg Stream.commands (enqueue_other (d := d) ht cs)
    exact hsame.symm ▸ List.prefix_rfl

/-- Once the stream waits for an event, what the event covers reaches the stream. -/
theorem Device.Covers.reaches (hx : d.Covers e x) (s : S) : (d.enqueue s [.waitEvent e]).Reaches x s := by
  have hwait : (d.enqueue s [.waitEvent e] s).commands[(d s).commands.length]? =
    some (.waitEvent e) := by simp
  have hbefore := (hx.mono (extends_enqueue d s _)).wait (y := ⟨s, (d s).commands.length⟩) hwait
  exact Covers.of_before hbefore (reaches_own (List.getElem?_eq_some_iff.1 hwait).1)

theorem Device.kernelAt_enqueue_kernel {k k' : K} : (d.enqueue s [.kernel k]).KernelAt x k' ↔
    d.KernelAt x k' ∨ (x = ⟨s, (d s).commands.length⟩ ∧ k' = k) := by
  obtain ⟨t, i⟩ := x
  unfold KernelAt
  by_cases ht : t = s
  · subst ht
    simp only [enqueue_self, Node.mk.injEq, true_and]
    rcases Nat.lt_trichotomy i (d t).commands.length with hi | rfl | hi
    · rw [List.getElem?_append_left hi]
      simp [Nat.ne_of_lt hi]
    · simp [eq_comm]
    · rw [List.getElem?_eq_none (by simp; omega), List.getElem?_eq_none (Nat.le_of_lt hi)]
      simp [Nat.ne_of_gt hi]
  · simp [ht]

theorem Device.kernelAt_of_enqueue {cs : List (Command S K)} {k : K} (h : (d.enqueue s cs).KernelAt x k) :
    d.KernelAt x k ∨ .kernel k ∈ cs := by
  unfold KernelAt at h
  by_cases hs : x.stream = s
  · rw [hs, enqueue_self] at h
    obtain hlt | hge := Nat.lt_or_ge x.index (d s).commands.length
    · rw [List.getElem?_append_left hlt] at h
      exact .inl (by rwa [KernelAt, hs])
    · rw [List.getElem?_append_right hge] at h
      exact .inr (List.mem_of_getElem? h)
  · rw [enqueue_other hs] at h
    exact .inl h

theorem Device.kernelAt_enqueue_wait {k : K} :
    (d.enqueue s [.waitEvent e]).KernelAt x k ↔ d.KernelAt x k := by
  obtain ⟨t, i⟩ := x
  unfold KernelAt
  by_cases ht : t = s
  · subst ht
    simp only [enqueue_self]
    rcases Nat.lt_trichotomy i (d t).commands.length with hi | rfl | hi
    · rw [List.getElem?_append_left hi]
    · simp
    · rw [List.getElem?_eq_none (by simp; omega), List.getElem?_eq_none (Nat.le_of_lt hi)]
  · simp [ht]

end AfdPlugin.Streams
