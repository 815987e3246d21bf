import Mathlib.Tactic
/-!
# Kernels launched in a row

Every rank runs kernels one after another on all of its cores, and a core runs the
operations of its kernel in order. A link leads from one rank to another: in every
other kernel its sender raises a flag and its receiver waits for it, and in the
kernels between a link leads back. The flag holds the number of the kernel that
raised it last, up to a modulus. As long as every wait was answered in its own
kernel, neither end is a whole round ahead, and so the next wait is as well.
-/

namespace AfdPlugin

/-- What the cores of all ranks run. -/
structure Launches (β : Type) where
  cores : Nat → Nat
  /-- The operations of a core, by rank, kernel and core. -/
  ops : Nat → Nat → Nat → List β

/-- Where the cores are: the kernel of every rank, and how many of its operations
each core has done. -/
structure Position where
  kernel : Nat → Nat
  pc : Nat → Nat → Nat

namespace Position

def start : Position := ⟨fun _ => 0, fun _ _ => 0⟩

/-- A core has done one more operation. -/
def advance (p : Position) (rank core : Nat) : Position :=
  { p with pc := fun r c => if r = rank ∧ c = core then p.pc r c + 1 else p.pc r c }

/-- A rank starts its next kernel. -/
def launch (p : Position) (rank : Nat) : Position where
  kernel r := if r = rank then p.kernel r + 1 else p.kernel r
  pc r c := if r = rank then 0 else p.pc r c

@[simp] theorem advance_kernel (p : Position) (rank core r : Nat) :
    (p.advance rank core).kernel r = p.kernel r := rfl

theorem kernel_le_launch (p : Position) (rank r : Nat) : p.kernel r ≤ (p.launch rank).kernel r := by
  simp only [launch]
  split <;> omega

end Position

namespace Launches
variable {β : Type} (l : Launches β)

/-- The operation a core is at. -/
def next (p : Position) (rank core : Nat) : Option β := (l.ops rank (p.kernel rank) core)[p.pc rank core]?

/-- All cores of a rank are through. -/
def Finished (p : Position) (rank : Nat) : Prop :=
  ∀ c < l.cores rank, (l.ops rank (p.kernel rank) c).length ≤ p.pc rank c

instance (p : Position) (rank : Nat) : Decidable (l.Finished p rank) := by
  unfold Finished
  infer_instance

/-- A core has done an operation of a kernel. -/
def Done (p : Position) (rank kernel core : Nat) (op : β) : Prop :=
  kernel < p.kernel rank ∨ kernel = p.kernel rank ∧ op ∈ (l.ops rank kernel core).take (p.pc rank core)

variable {l} {p : Position} {rank kernel core r k c : Nat} {op o : β}

theorem Done.kernel_le (h : l.Done p rank kernel core op) : kernel ≤ p.kernel rank :=
  h.elim le_of_lt fun h => h.1.le

theorem done_of_lt (h : kernel < p.kernel rank) : l.Done p rank kernel core op := .inl h

theorem mem_of_next (h : l.next p rank core = some op) : op ∈ l.ops rank (p.kernel rank) core :=
  List.mem_of_getElem? h

/-- A step does the operation the core is at, and nothing else. -/
theorem done_advance (h : l.next p rank core = some op) :
    l.Done (p.advance rank core) r k c o ↔ l.Done p r k c o ∨ r = rank ∧ k = p.kernel rank ∧ c = core ∧
      o = op := by
  unfold Done
  by_cases hcore : r = rank ∧ c = core
  · obtain ⟨rfl, rfl⟩ := hcore
    have htake : k = p.kernel r →
        (l.ops r k c).take (p.pc r c + 1) = (l.ops r k c).take (p.pc r c) ++ [op] := by
      rintro rfl
      rw [List.take_add_one, show (l.ops r (p.kernel r) c)[p.pc r c]? = some op from h]
      rfl
    constructor
    · rintro (hlt | ⟨hk, ho⟩)
      · exact .inl (.inl hlt)
      · simp only [Position.advance, and_self, if_true] at ho
        rw [htake hk, List.mem_append, List.mem_singleton] at ho
        rcases ho with ho | rfl
        · exact .inl (.inr ⟨hk, ho⟩)
        · exact .inr ⟨rfl, hk, rfl, rfl⟩
    · rintro ((hlt | ⟨hk, ho⟩) | ⟨-, hk, -, rfl⟩)
      · exact .inl hlt
      · refine .inr ⟨hk, ?_⟩
        simp only [Position.advance, and_self, if_true]
        rw [htake hk]
        exact List.mem_append_left _ ho
      · refine .inr ⟨hk, ?_⟩
        simp only [Position.advance, and_self, if_true]
        rw [htake hk]
        exact List.mem_append_right _ (List.mem_singleton_self _)
  · simp only [Position.advance, if_neg hcore]
    constructor
    · exact .inl
    · rintro (h | ⟨rfl, -, rfl, -⟩)
      · exact h
      · exact absurd ⟨rfl, rfl⟩ hcore

theorem Done.advance (h : l.next p rank core = some op) (ho : l.Done p r k c o) :
    l.Done (p.advance rank core) r k c o :=
  (done_advance h).2 (.inl ho)

/-- A launch does nothing that was not done. -/
theorem done_launch (h : l.Finished p rank) (hc : c < l.cores r) (ho : o ∈ l.ops r k c) :
    l.Done (p.launch rank) r k c o ↔ l.Done p r k c o := by
  unfold Done Position.launch
  rcases eq_or_ne r rank with rfl | hne
  · simp only [if_true, List.take_zero, List.not_mem_nil, and_false, or_false]
    constructor
    · intro hk
      rcases Nat.lt_succ_iff_lt_or_eq.1 hk with hlt | rfl
      · exact .inl hlt
      · refine .inr ⟨rfl, ?_⟩
        rw [List.take_of_length_le (h c hc)]
        exact ho
    · rintro (hlt | ⟨rfl, -⟩) <;> omega
  · simp only [if_neg hne]

/-! ## Order within a core -/

/-- An operation that comes after `before` finds all of it done. -/
theorem done_of_next {before after : List β} (hops : l.ops rank (p.kernel rank) core = before ++ after)
    (h : l.next p rank core = some op) (hop : op ∉ before) :
    ∀ o ∈ before, l.Done p rank (p.kernel rank) core o := by
  have hpc : before.length ≤ p.pc rank core := by
    by_contra hlt
    rw [next, hops, List.getElem?_append_left (by omega)] at h
    exact hop (List.mem_of_getElem? h)
  intro o ho
  refine .inr ⟨rfl, ?_⟩
  rw [hops, List.take_append, List.take_of_length_le hpc]
  exact List.mem_append_left _ ho

theorem length_lt_pc {before after : List β} (hops : l.ops rank (p.kernel rank) core = before ++ after)
    (h : l.Done p rank (p.kernel rank) core op) (hop : op ∉ before) : before.length < p.pc rank core := by
  rcases h with h | ⟨-, h⟩
  · exact absurd h (lt_irrefl _)
  by_contra hle
  rw [hops, List.take_append_of_le_length (by omega)] at h
  exact hop (List.mem_of_mem_take h)

/-- Once an operation that comes after `before` is done, all of it is. -/
theorem Done.before {before after : List β} (hops : l.ops rank kernel core = before ++ after)
    (h : l.Done p rank kernel core op) (hop : op ∉ before) : ∀ o ∈ before, l.Done p rank kernel core o := by
  rcases h.kernel_le.lt_or_eq with hlt | rfl
  · exact fun o _ => done_of_lt hlt
  intro o ho
  refine .inr ⟨rfl, ?_⟩
  rw [hops, List.take_append, List.take_of_length_le (length_lt_pc hops h hop).le]
  exact List.mem_append_left _ ho

/-- And then the core is past it. -/
theorem Done.next_mem {before after : List β} (hops : l.ops rank (p.kernel rank) core = before ++ after)
    (h : l.Done p rank (p.kernel rank) core op) (hop : op ∉ before)
    (hnext : l.next p rank core = some o) : o ∈ after := by
  have hpc := length_lt_pc hops h hop
  rw [next, hops, List.getElem?_append_right hpc.le] at hnext
  exact List.mem_of_getElem? hnext

/-- What comes before an operation that is done is behind the core. -/
theorem Done.past {before after : List β} (hops : l.ops rank kernel core = before ++ after)
    (h : l.Done p rank kernel core op) (hop : op ∉ before) (ho : o ∈ before) (hafter : o ∉ after) :
    l.Done p rank kernel core o ∧ (p.kernel rank = kernel → l.next p rank core ≠ some o) := by
  refine ⟨h.before hops hop o ho, ?_⟩
  rintro rfl hnext
  exact hafter (h.next_mem hops hop hnext)

end Launches

/-! ## Guarded segments -/

/-- In a list of segments, each a guard and what it guards, a guarded element comes
after its guard. -/
theorem exists_guard {β σ : Type} {guard : σ → β} {guarded : σ → List β} {segments : List σ} {n : Nat}
    {op : β} (h : (segments.flatMap fun s => guard s :: guarded s)[n]? = some op)
    (hop : ∀ s ∈ segments, op ≠ guard s) :
    ∃ s ∈ segments, op ∈ guarded s ∧ guard s ∈ (segments.flatMap fun s => guard s :: guarded s).take n := by
  induction segments generalizing n with
  | nil => simp at h
  | cons s segments ih =>
    rw [List.flatMap_cons] at h ⊢
    rcases Nat.lt_or_ge n (guard s :: guarded s).length with hlt | hle
    · rw [List.getElem?_append_left hlt] at h
      rcases n with _ | n
      · exact absurd (Option.some.inj h).symm (hop s List.mem_cons_self)
      · refine ⟨s, List.mem_cons_self, List.mem_of_getElem? h, ?_⟩
        simp
    · rw [List.getElem?_append_right hle] at h
      obtain ⟨s', hs', hmem, htake⟩ := ih h fun s' hs' => hop s' (List.mem_cons_of_mem _ hs')
      refine ⟨s', List.mem_cons_of_mem _ hs', hmem, ?_⟩
      rw [List.take_append, List.mem_append]
      exact .inr htake

/-! ## Links -/

/-- Flags between ranks. A link is used in the kernels of its parity. -/
structure Links (β Λ : Type) extends Launches β where
  valid : Λ → Prop
  sender : Λ → Nat
  receiver : Λ → Nat
  parity : Λ → Nat
  flag : Λ → β
  wait : Λ → β
  back : Λ → Λ
  parity_lt : ∀ ℓ, valid ℓ → parity ℓ < 2
  flagged : ∀ ℓ n, valid ℓ → n % 2 = parity ℓ → ∃ c < cores (sender ℓ), flag ℓ ∈ ops (sender ℓ) n c
  awaited : ∀ ℓ n, valid ℓ → n % 2 = parity ℓ → ∃ c < cores (receiver ℓ), wait ℓ ∈ ops (receiver ℓ) n c
  back_valid : ∀ ℓ, valid ℓ → valid (back ℓ)
  back_sender : ∀ ℓ, sender (back ℓ) = receiver ℓ
  back_receiver : ∀ ℓ, receiver (back ℓ) = sender ℓ
  back_parity : ∀ ℓ, parity (back ℓ) = 1 - parity ℓ

namespace Links
variable {β Λ : Type} (l : Links β Λ) (p : Position)

/-- Some core of the sender has raised the flag in kernel `n`. -/
def Published (ℓ : Λ) (n : Nat) : Prop :=
  ∃ c < l.cores (l.sender ℓ), l.flag ℓ ∈ l.ops (l.sender ℓ) n c ∧ l.Done p (l.sender ℓ) n c (l.flag ℓ)

/-- Every wait was answered in its own kernel. -/
def Answered : Prop :=
  ∀ ℓ n c, l.valid ℓ → n % 2 = l.parity ℓ → c < l.cores (l.receiver ℓ) →
    l.wait ℓ ∈ l.ops (l.receiver ℓ) n c →
    l.Done p (l.receiver ℓ) n c (l.wait ℓ) → l.Published p ℓ n

/-- `v` is the last kernel whose flag was raised. -/
structure Last (ℓ : Λ) (v : Option Nat) : Prop where
  parity : ∀ n ∈ v, n % 2 = l.parity ℓ
  iff : ∀ n, n % 2 = l.parity ℓ → (l.Published p ℓ n ↔ ∃ last ∈ v, n ≤ last)

/-- What the flag holds. -/
def stamp (modulus : Nat) : Option Nat → Nat
  | none => 0
  | some n => (n + 1) % modulus

variable {l p} {ℓ : Λ} {n : Nat}

theorem Published.kernel_le (h : l.Published p ℓ n) : n ≤ p.kernel (l.sender ℓ) := by
  obtain ⟨c, -, -, hdone⟩ := h
  exact hdone.kernel_le

theorem published_of_lt (hℓ : l.valid ℓ) (hn : n % 2 = l.parity ℓ) (h : n < p.kernel (l.sender ℓ)) :
    l.Published p ℓ n := by
  obtain ⟨c, hc, hmem⟩ := l.flagged ℓ n hℓ hn
  exact ⟨c, hc, hmem, .inl h⟩

namespace Answered
variable (h : l.Answered p)
include h

/-- A receiver that is past a kernel was answered in it. -/
theorem published (hℓ : l.valid ℓ) (hn : n % 2 = l.parity ℓ) (hlt : n < p.kernel (l.receiver ℓ)) :
    l.Published p ℓ n := by
  obtain ⟨c, hc, hmem⟩ := l.awaited ℓ n hℓ hn
  exact h ℓ n c hℓ hn hc hmem (.inl hlt)

/-- The sender leaves the round only after the receiver has left the kernel. -/
theorem receiver_past (hℓ : l.valid ℓ) (hn : n % 2 = l.parity ℓ) (hlt : n + 1 < p.kernel (l.sender ℓ)) :
    n < p.kernel (l.receiver ℓ) := by
  have hparity := l.parity_lt ℓ hℓ
  have hback : (n + 1) % 2 = l.parity (l.back ℓ) := by
    rw [l.back_parity]
    omega
  have hpublished := h.published (l.back_valid ℓ hℓ) hback (by rwa [l.back_receiver])
  have hle := hpublished.kernel_le
  rw [l.back_sender] at hle
  exact hle

/-- A wait that the flag lets pass is answered in its own kernel. -/
theorem of_stamp {modulus : Nat} (hmodulus : 2 < modulus) (hℓ : l.valid ℓ) (hn : n % 2 = l.parity ℓ)
    (hkernel : p.kernel (l.receiver ℓ) = n) {v : Option Nat} (hv : l.Last p ℓ v)
    (hstamp : stamp modulus v = (n + 1) % modulus) : l.Published p ℓ n := by
  have hbefore : 2 ≤ n → l.Published p ℓ (n - 2) := fun h2 => h.published hℓ (by omega) (by omega)
  rcases v with _ | last
  · -- nothing was raised yet, so this is the first round
    have hfirst : n < 2 := by
      by_contra hge
      obtain ⟨_, hmem, -⟩ := (hv.iff _ (by omega)).1 (hbefore (by omega))
      cases hmem
    rw [stamp, Nat.mod_eq_of_lt (by omega)] at hstamp
    omega
  · have hparity := hv.parity last rfl
    have hlast := ((hv.iff last hparity).2 ⟨last, rfl, le_rfl⟩).kernel_le
    have hupper : last < n + 2 := by
      by_contra hge
      have hpast := h.receiver_past hℓ hn (by omega : n + 1 < p.kernel (l.sender ℓ))
      omega
    have hlower : n ≤ last + 2 := by
      by_contra hlt
      obtain ⟨_, hmem, hle⟩ := (hv.iff _ (by omega)).1 (hbefore (by omega))
      cases hmem
      omega
    obtain rfl : last = n := by
      rcases Nat.lt_or_ge last n with hlt | hge
      · -- two kernels do not have one number modulo more than two
        obtain rfl : n = last + 2 := by omega
        rw [stamp] at hstamp
        have hdvd := (Nat.modEq_iff_dvd' (by omega : last + 1 ≤ last + 2 + 1)).1 hstamp
        have hle := Nat.le_of_dvd (by omega) hdvd
        omega
      · omega
    exact (hv.iff last hn).2 ⟨last, rfl, le_rfl⟩

end Answered

/-! ### Steps -/

section Steps
variable {rank core : Nat} {op : β}

theorem published_advance (h : l.next p rank core = some op) (hop : l.sender ℓ = rank → op ≠ l.flag ℓ) :
    l.Published (p.advance rank core) ℓ n ↔ l.Published p ℓ n := by
  unfold Published
  simp only [Launches.done_advance h]
  constructor
  · rintro ⟨c, hc, hmem, hdone | ⟨hrank, -, -, hflag⟩⟩
    · exact ⟨c, hc, hmem, hdone⟩
    · exact absurd hflag.symm (hop hrank)
  · rintro ⟨c, hc, hmem, hdone⟩
    exact ⟨c, hc, hmem, .inl hdone⟩

theorem Published.advance (h : l.next p rank core = some op) (hp : l.Published p ℓ n) :
    l.Published (p.advance rank core) ℓ n := by
  obtain ⟨c, hc, hmem, hdone⟩ := hp
  exact ⟨c, hc, hmem, hdone.advance h⟩

theorem published_launch (h : l.Finished p rank) : l.Published (p.launch rank) ℓ n ↔ l.Published p ℓ n := by
  unfold Published
  constructor
  · rintro ⟨c, hc, hmem, hdone⟩
    exact ⟨c, hc, hmem, (Launches.done_launch h hc hmem).1 hdone⟩
  · rintro ⟨c, hc, hmem, hdone⟩
    exact ⟨c, hc, hmem, (Launches.done_launch h hc hmem).2 hdone⟩

theorem last_start : l.Last .start ℓ none := by
  refine ⟨?_, fun n _ => ⟨?_, ?_⟩⟩
  · rintro n ⟨⟩
  · rintro ⟨c, -, -, hlt | ⟨-, hmem⟩⟩
    · exact absurd hlt (Nat.not_lt_zero _)
    · simp [Position.start] at hmem
  · rintro ⟨last, ⟨⟩, -⟩

/-- Raising the flag makes the sender's kernel the last one. -/
theorem last_flag (hℓ : l.valid ℓ) (hcore : core < l.cores (l.sender ℓ))
    (hn : p.kernel (l.sender ℓ) % 2 = l.parity ℓ) (h : l.next p (l.sender ℓ) core = some (l.flag ℓ)) :
    l.Last (p.advance (l.sender ℓ) core) ℓ (some (p.kernel (l.sender ℓ))) := by
  refine ⟨?_, fun n hparity => ⟨fun hp => ⟨_, rfl, hp.kernel_le⟩, ?_⟩⟩
  · rintro n ⟨⟩
    exact hn
  · rintro ⟨last, ⟨⟩, hle⟩
    rcases hle.lt_or_eq with hlt | rfl
    · exact published_of_lt hℓ hparity hlt
    · exact ⟨core, hcore, Launches.mem_of_next h, (Launches.done_advance h).2 (.inr ⟨rfl, rfl, rfl, rfl⟩)⟩

theorem Last.congr {p' : Position} {v : Option Nat} (hv : l.Last p ℓ v)
    (h : ∀ n, l.Published p' ℓ n ↔ l.Published p ℓ n) : l.Last p' ℓ v :=
  ⟨hv.parity, fun n hn => (h n).trans (hv.iff n hn)⟩

theorem answered_start : l.Answered .start := by
  rintro ℓ n c - - - - (hlt | ⟨-, hmem⟩)
  · exact absurd hlt (Nat.not_lt_zero _)
  · simp [Position.start] at hmem

/-- Only a wait has to be answered. -/
theorem Answered.advance (h : l.Answered p) (hnext : l.next p rank core = some op)
    (hwait : ∀ ℓ, l.valid ℓ → l.receiver ℓ = rank → p.kernel rank % 2 = l.parity ℓ → op = l.wait ℓ →
      l.Published p ℓ (p.kernel rank)) : l.Answered (p.advance rank core) := by
  intro ℓ n c hℓ hn hc hmem hdone
  rcases (Launches.done_advance hnext).1 hdone with hdone | ⟨hrank, rfl, -, hop⟩
  · exact (h ℓ n c hℓ hn hc hmem hdone).advance hnext
  · exact (hwait ℓ hℓ hrank hn hop.symm).advance hnext

theorem Answered.launch (h : l.Answered p) (hfinished : l.Finished p rank) :
    l.Answered (p.launch rank) := by
  intro ℓ n c hℓ hn hc hmem hdone
  exact (published_launch hfinished).2
    (h ℓ n c hℓ hn hc hmem ((Launches.done_launch hfinished hc hmem).1 hdone))

end Steps

end Links

end AfdPlugin
