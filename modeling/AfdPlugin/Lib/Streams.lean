import Mathlib.Logic.Function.Basic
import Mathlib.Data.List.Basic

/-! Command streams of a device. The host appends commands; each stream runs its
own first in, first out, one at a time. An event recorded on a stream stands
for the commands that stream had been given by then, and a stream that meets a
wait for it goes on once they are complete. -/

namespace AfdPlugin.Streams

variable {S K : Type}

/-- A recorded event: a stream, and how many commands it had then. -/
structure Event (S : Type) where
  stream : S
  position : Nat

inductive Command (S K : Type) where
  | kernel (k : K)
  | waitEvent (e : Event S)

structure Stream (S K : Type) where
  /-- Everything the host ever enqueued, in order. -/
  commands : List (Command S K)
  completed : Nat
  /-- Whether the kernel at `completed` has begun. -/
  running : Bool

abbrev Device (S K : Type) := S → Stream S K

namespace Device

variable (d : Device S K)

/-- What a stream has completed. -/
def past (s : S) : List (Command S K) := (d s).commands.take (d s).completed

/-- What it runs or meets next. -/
def next (s : S) : Option (Command S K) := (d s).commands[(d s).completed]?

def record (s : S) : Event S := ⟨s, (d s).commands.length⟩

/-- `Event.query`. -/
def Done (e : Event S) : Prop := e.position ≤ (d e.stream).completed

/-- `synchronize` returns. -/
def Drained : Prop := ∀ s, (d s).completed = (d s).commands.length

variable [DecidableEq S]

def enqueue (s : S) (cs : List (Command S K)) : Device S K :=
  Function.update d s { d s with commands := (d s).commands ++ cs }

def launch (s : S) : Device S K := Function.update d s { d s with running := true }

def advance (s : S) : Device S K :=
  Function.update d s { d s with completed := (d s).completed + 1, running := false }

/-- A stream is never ahead of its commands, has begun nothing but a kernel, and
has passed no wait whose event is not complete. -/
structure Ordered : Prop where
  bounded : ∀ s, (d s).completed ≤ (d s).commands.length
  running : ∀ s, (d s).running = true → ∃ k, d.next s = some (.kernel k)
  waited : ∀ s e, .waitEvent e ∈ d.past s → d.Done e

end Device

variable {d : Device S K}

theorem Device.next_eq {s : S} {c : Command S K} (h : d.next s = some c) :
    ∃ post, (d s).commands = d.past s ++ c :: post := by
  obtain ⟨hlt, hc⟩ := List.getElem?_eq_some_iff.1 h
  refine ⟨(d s).commands.drop ((d s).completed + 1), ?_⟩
  conv_lhs => rw [← List.take_append_drop (d s).completed (d s).commands, List.drop_eq_getElem_cons hlt, hc]
  rfl

theorem Device.past_isPrefix (s : S) : d.past s <+: (d s).commands := List.take_prefix ..

theorem Device.Drained.past (h : d.Drained) (s : S) : d.past s = (d s).commands := by
  rw [Device.past, h s, List.take_length]

variable [DecidableEq S]

@[simp] theorem enqueue_self (s : S) (cs : List (Command S K)) :
    d.enqueue s cs s = { d s with commands := (d s).commands ++ cs } := Function.update_self ..

@[simp] theorem enqueue_other {s t : S} (h : t ≠ s) (cs : List (Command S K)) : d.enqueue s cs t = d t :=
  Function.update_of_ne h ..

@[simp] theorem launch_self (s : S) : d.launch s s = { d s with running := true } := Function.update_self ..

@[simp] theorem launch_other {s t : S} (h : t ≠ s) : d.launch s t = d t := Function.update_of_ne h ..

@[simp] theorem advance_self (s : S) :
    d.advance s s = { d s with completed := (d s).completed + 1, running := false } :=
      Function.update_self ..

@[simp] theorem advance_other {s t : S} (h : t ≠ s) : d.advance s t = d t := Function.update_of_ne h ..

/-! ## What the operations leave alone -/

@[simp] theorem launch_commands (s t : S) : (d.launch s t).commands = (d t).commands := by
  by_cases h : t = s
  · rw [h, launch_self]
  · rw [launch_other h]

@[simp] theorem launch_completed (s t : S) : (d.launch s t).completed = (d t).completed := by
  by_cases h : t = s
  · rw [h, launch_self]
  · rw [launch_other h]

@[simp] theorem launch_past (s t : S) : (d.launch s).past t = d.past t := by simp [Device.past]

@[simp] theorem advance_commands (s t : S) : (d.advance s t).commands = (d t).commands := by
  by_cases h : t = s
  · rw [h, advance_self]
  · rw [advance_other h]

theorem advance_past {s : S} {c : Command S K} (h : d.next s = some c) :
    (d.advance s).past s = d.past s ++ [c] := by
  obtain ⟨hlt, hc⟩ := List.getElem?_eq_some_iff.1 h
  simp only [Device.past, advance_self]
  rw [List.take_succ_eq_append_getElem hlt, hc]

@[simp] theorem advance_past_other {s t : S} (h : t ≠ s) : (d.advance s).past t = d.past t := by
  simp [Device.past, h]

theorem completed_le_advance (s t : S) : (d t).completed ≤ (d.advance s t).completed := by
  by_cases h : t = s
  · rw [h, advance_self]
    exact Nat.le_succ _
  · exact Nat.le_of_eq (congrArg Stream.completed (advance_other h)).symm

theorem Device.Done.advance {e : Event S} (h : d.Done e) (s : S) : (d.advance s).Done e :=
  Nat.le_trans h (completed_le_advance s e.stream)

@[simp] theorem enqueue_completed (s t : S) (cs : List (Command S K)) :
    (d.enqueue s cs t).completed = (d t).completed := by
  by_cases h : t = s
  · rw [h, enqueue_self]
  · rw [enqueue_other h]

@[simp] theorem enqueue_done (s : S) (cs : List (Command S K)) (e : Event S) :
    (d.enqueue s cs).Done e ↔ d.Done e := by
  simp [Device.Done]

theorem Device.enqueue_next {s t : S} {c : Command S K} (hc : d.next t = some c) (cs : List (Command S K)) :
    (d.enqueue s cs).next t = some c := by
  by_cases ht : t = s
  · obtain ⟨hlt, -⟩ := List.getElem?_eq_some_iff.1 hc
    rw [Device.next, ht, enqueue_self]
    rw [ht] at hlt
    exact (List.getElem?_append_left hlt).trans (ht ▸ hc)
  · rw [Device.next, enqueue_other ht]
    exact hc

namespace Device.Ordered

theorem enqueue_past (h : d.Ordered) (s t : S) (cs : List (Command S K)) :
    (d.enqueue s cs).past t = d.past t := by
  by_cases ht : t = s
  · rw [ht, past, enqueue_self]
    exact List.take_append_of_le_length (h.bounded s)
  · rw [past, enqueue_other ht, past]

theorem enqueue (h : d.Ordered) (s : S) (cs : List (Command S K)) : (d.enqueue s cs).Ordered where
  bounded t := by
    by_cases ht : t = s
    · have := h.bounded s
      simp only [ht, enqueue_self, List.length_append]
      omega
    · rw [enqueue_other ht]
      exact h.bounded t
  running t hr := by
    have hr' : (d t).running = true := by
      by_cases ht : t = s
      · simpa [ht] using hr
      · rwa [enqueue_other ht] at hr
    obtain ⟨k, hk⟩ := h.running t hr'
    exact ⟨k, Device.enqueue_next hk cs⟩
  waited t e he := by
    rw [h.enqueue_past] at he
    rw [enqueue_done]
    exact h.waited t e he

theorem launch (h : d.Ordered) {s : S} {k : K} (hk : d.next s = some (.kernel k)) :
    (d.launch s).Ordered where
  bounded t := by simpa using h.bounded t
  running t hr := by
    have hnext : (d.launch s).next t = d.next t := by simp [next]
    rw [hnext]
    by_cases ht : t = s
    · exact ⟨k, ht ▸ hk⟩
    · exact h.running t (by rwa [launch_other ht] at hr)
  waited t e he := by
    rw [launch_past] at he
    simpa [Done] using h.waited t e he

/-- A stream goes on past a kernel it has run, or past a wait whose event is complete. -/
theorem advance (h : d.Ordered) {s : S} {c : Command S K} (hc : d.next s = some c)
    (hwait : ∀ e, c = .waitEvent e → d.Done e) : (d.advance s).Ordered where
  bounded t := by
    by_cases ht : t = s
    · obtain ⟨hlt, -⟩ := List.getElem?_eq_some_iff.1 hc
      rw [ht, advance_self]
      exact Nat.succ_le_of_lt hlt
    · rw [advance_other ht]
      exact h.bounded t
  running t hr := by
    by_cases ht : t = s
    · simp [ht] at hr
    · rw [advance_other ht] at hr
      rw [next, advance_other ht]
      exact h.running t hr
  waited t e he := by
    apply Done.advance
    by_cases ht : t = s
    · rw [ht, advance_past hc, List.mem_append, List.mem_singleton] at he
      rcases he with he | he
      · exact h.waited s e he
      · exact hwait e he.symm
    · rw [advance_past_other ht] at he
      exact h.waited t e he

end Device.Ordered

/-! ## What is said of a command and those before it -/

/-- Every command stands in the relation `Q` to those enqueued before it. -/
def Each {α : Type} (Q : List α → α → Prop) (l : List α) : Prop :=
  ∀ pre c post, l = pre ++ c :: post → Q pre c

theorem each_nil {α : Type} {Q : List α → α → Prop} : Each Q [] := by
  intro pre c post h
  simp at h

theorem Each.snoc {α : Type} {Q : List α → α → Prop} {l : List α} {c : α} (h : Each Q l) (hc : Q l c) :
    Each Q (l ++ [c]) := by
  intro pre x post heq
  rcases List.eq_nil_or_concat post with rfl | ⟨post', y, rfl⟩
  · obtain ⟨rfl, hx⟩ := List.append_inj' heq rfl
    exact List.singleton_inj.1 hx ▸ hc
  · rw [List.concat_eq_append, ← List.cons_append, ← List.append_assoc] at heq
    exact h pre x post' (List.append_inj' heq rfl).1

theorem Each.mono {α : Type} {Q R : List α → α → Prop} {l : List α} (h : Each Q l)
    (hQR : ∀ pre c, Q pre c → R pre c) :
    Each R l := fun pre c post heq => hQR pre c (h pre c post heq)

theorem Each.of_isPrefix {α : Type} {Q : List α → α → Prop} {l l' : List α} (h : Each Q l')
    (hl : l <+: l') : Each Q l := by
  obtain ⟨t, rfl⟩ := hl
  intro pre c post heq
  exact h pre c (post ++ t) (by rw [heq, List.append_assoc, List.cons_append])

/-! ## The `k`-th command of a kind -/

variable {α β : Type} {f : α → Option β}

theorem getElem?_filterMap_of_split {l pre post : List α} {c : α} {b : β} (hl : l = pre ++ c :: post)
    (hb : f c = some b) :
    (l.filterMap f)[(pre.filterMap f).length]? = some b := by
  subst hl
  simp [hb]

theorem split_of_getElem?_filterMap {l : List α} {k : Nat} {b : β} (h : (l.filterMap f)[k]? = some b) :
    ∃ pre c post, l = pre ++ c :: post ∧ f c = some b ∧ (pre.filterMap f).length = k := by
  induction l generalizing k with
  | nil => simp at h
  | cons x l ih =>
    cases hx : f x with
    | none =>
      rw [List.filterMap_cons_none hx] at h
      obtain ⟨pre, c, post, rfl, hc, hk⟩ := ih h
      exact ⟨x :: pre, c, post, rfl, hc, by rw [List.filterMap_cons_none hx, hk]⟩
    | some y =>
      rw [List.filterMap_cons_some hx] at h
      cases k with
      | zero => exact ⟨[], x, l, rfl, hx.trans (by simpa using h), rfl⟩
      | succ k =>
        obtain ⟨pre, c, post, rfl, hc, hk⟩ := ih (by simpa using h)
        exact ⟨x :: pre, c, post, rfl, hc, by rw [List.filterMap_cons_some hx, List.length_cons, hk]⟩

theorem getElem?_filterMap_of_isPrefix {l l' : List α} (hl : l <+: l') {k : Nat} {b : β}
    (h : (l.filterMap f)[k]? = some b) : (l'.filterMap f)[k]? = some b := by
  obtain ⟨t, ht⟩ := hl.filterMap f
  rw [← ht, List.getElem?_append_left (List.getElem?_eq_some_iff.1 h).1]
  exact h

theorem length_filterMap_of_isPrefix {l l' : List α} (hl : l <+: l') :
    (l.filterMap f).length ≤ (l'.filterMap f).length :=
  (hl.filterMap f).length_le

end AfdPlugin.Streams
