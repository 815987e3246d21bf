import AfdPlugin.Kernels.WindowPlaces
/-!
# Rounds do not disturb each other

The invariant of all interleavings, and what follows from it: the two ends of a
flag count alike, a wait passes when the rows it is for are in place, nothing is
overwritten that is still to be read, and a copy reads the rows of its own round.
-/

namespace AfdPlugin.Kernels

variable {V : Type} {g : Rounds} {input : Nat → Nat → Channel → Nat → V}

@[simp] theorem setAt_self {α : Type} (f : Nat → Nat → α) (i j : Nat) (v : α) : setAt f i j v i j = v := by
  simp [setAt]

theorem setAt_of_ne {α : Type} (f : Nat → Nat → α) {i j i' j' : Nat} (v : α) (h : ¬ (i' = i ∧ j' = j)) :
    setAt f i j v i' j' = f i' j' := if_neg h

namespace Machine

theorem load_input (m : Machine V) {kernel : Nat} {a : Address} {rank : Nat} {channel : Channel}
    (h : a.buffer = .input rank channel) : m.load input kernel a = input kernel rank channel a.offset := by
  rw [load, h]

/-- What an operation leaves alone. -/
structure Frame (m m' : Machine V) (op : CoreOp) : Prop where
  position : m'.position = m.position
  counter : op ≠ .add → m'.counter = m.counter
  magic : op ≠ .read → m'.magic = m.magic
  arrived : op ≠ .arrive → m'.arrived = m.arrived
  word : (∀ r addr, op ≠ .flag r addr) → m'.word = m.word
  mem : (∀ src dst, op ≠ .copy src dst) → m'.mem = m.mem

theorem effect_frame {m m' : Machine V} {rank core : Nat} {op : CoreOp}
    (h : m.effect g input rank core op = some m') :
    m.Frame m' op := by
  cases op with
  | add =>
    cases h; exact ⟨rfl, fun hne => absurd rfl hne, fun _ => rfl, fun _ => rfl, fun _ => rfl, fun _ => rfl⟩
  | read =>
    cases h; exact ⟨rfl, fun _ => rfl, fun hne => absurd rfl hne, fun _ => rfl, fun _ => rfl, fun _ => rfl⟩
  | copy src dst =>
    cases h
    exact ⟨rfl, fun _ => rfl, fun _ => rfl, fun _ => rfl, fun _ => rfl, fun hne => absurd rfl (hne src dst)⟩
  | arrive =>
    cases h; exact ⟨rfl, fun _ => rfl, fun _ => rfl, fun hne => absurd rfl hne, fun _ => rfl, fun _ => rfl⟩
  | leave =>
    rw [effect, Option.ite_none_right_eq_some] at h
    cases h.2
    exact ⟨rfl, fun _ => rfl, fun _ => rfl, fun _ => rfl, fun _ => rfl, fun _ => rfl⟩
  | flag r addr =>
    cases h
    exact ⟨rfl, fun _ => rfl, fun _ => rfl, fun _ => rfl, fun hne => absurd rfl (hne r addr), fun _ => rfl⟩
  | wait w =>
    rw [effect, Option.ite_none_right_eq_some] at h
    cases h.2
    exact ⟨rfl, fun _ => rfl, fun _ => rfl, fun _ => rfl, fun _ => rfl, fun _ => rfl⟩
  | poll addr =>
    rw [effect, Option.ite_none_right_eq_some] at h
    cases h.2
    exact ⟨rfl, fun _ => rfl, fun _ => rfl, fun _ => rfl, fun _ => rfl, fun _ => rfl⟩

/-- A step of a core is the effect of the operation it is at. -/
theorem coreStep_eq_some {m m' : Machine V} {rank core : Nat} :
    m.coreStep g input rank core = some m' ↔ ∃ op m₁, g.launches.next m.position rank core = some op ∧
      m.effect g input rank core op = some m₁ ∧
        m' = { m₁ with position := m.position.advance rank core } := by
  simp only [coreStep, Option.bind_eq_bind, Option.bind_eq_some_iff, Option.some.injEq, eq_comm (b := m'),
    exists_and_left]

theorem launchStep_eq_some {m m' : Machine V} {rank : Nat} :
    m.launchStep g rank = some m' ↔ g.launches.Finished m.position rank ∧
      m' = { m with
        position := m.position.launch rank
        arrived := fun r c => if r = rank then false else m.arrived r c } := by
  rw [launchStep, Option.ite_none_right_eq_some, Option.some.injEq, eq_comm (b := m')]

/-! ## The invariant -/

/-- What holds in all interleavings. -/
structure Inv (h : g.Valid) (input : Nat → Nat → Channel → Nat → V) (m : Machine V) : Prop where
  /-- A core has counted its calls. -/
  counter : ∀ rank < g.rankSize, ∀ core < g.cores rank,
    m.counter rank core = (m.position.kernel rank + if 0 < m.position.pc rank core then 1 else 0) % 2 ^ 32
  magic : ∀ rank < g.rankSize, ∀ core < g.cores rank, 1 < m.position.pc rank core →
    m.magic rank core = (m.position.kernel rank + 1) % 2 ^ 32
  arrived : ∀ rank core, m.arrived rank core = true →
    g.launches.Done m.position rank (m.position.kernel rank) core .arrive
  met : g.Met m.position
  answered : (g.links h).Answered m.position
  /-- A flag has the number of the kernel that raised it last. -/
  stamped : ∀ ℓ, g.validLink ℓ → ∃ v, (g.links h).Last m.position ℓ v ∧
    m.word (g.receiver ℓ) (magicWord (flagAddr (g.slot ℓ))) = Links.stamp (2 ^ 32) v
  /-- What was moved stays in the window until the receiver has left the kernel. -/
  data : ∀ ℓ n c src dst, g.validLink ℓ → n % 2 = Rounds.parity ℓ → (src, dst) ∈ g.payload n ℓ →
    c < g.cores (g.sender ℓ) →
    .copy src dst ∈ g.ops (g.sender ℓ) n c → g.launches.Done m.position (g.sender ℓ) n c (.copy src dst) →
    m.position.kernel (g.receiver ℓ) ≤ n → m.mem dst = m.load input n src

theorem inv_start (h : g.Valid) (mem : Address → V) : Inv h input (Machine.start mem) where
  counter _ _ _ _ := rfl
  magic _ _ _ _ hpc := absurd hpc (Nat.not_lt_zero _)
  arrived _ _ harrived := by cases harrived
  met := by
    rintro rank n c c' - - (hlt | ⟨-, hmem⟩)
    · exact absurd hlt (Nat.not_lt_zero _)
    · simp [Machine.start, Position.start] at hmem
  answered := Links.answered_start
  stamped _ _ := ⟨none, Links.last_start, rfl⟩
  data := by
    rintro ℓ n c src dst - - - - - (hlt | ⟨-, hmem⟩)
    · exact absurd hlt (Nat.not_lt_zero _)
    · simp [Machine.start, Position.start] at hmem

/-! ## One step -/

section Step
variable {h : g.Valid} {m m' m₁ : Machine V} {rank core : Nat} {op : CoreOp}

/-- A core at an operation other than those of its counter knows its number. -/
theorem Inv.magic_of_next (hinv : Inv h input m) (hrank : rank < g.rankSize) (hcore : core < g.cores rank)
    (hnext : g.launches.next m.position rank core = some op) (hadd : op ≠ .add) (hread : op ≠ .read) :
    m.magic rank core = (m.position.kernel rank + 1) % 2 ^ 32 := by
  obtain ⟨hzero, hone⟩ := Rounds.next_count h hrank hnext
  apply hinv.magic rank hrank core hcore
  have h0 : m.position.pc rank core ≠ 0 := fun heq => hadd (hzero.2 heq)
  have h1 : m.position.pc rank core ≠ 1 := fun heq => hread (hone.2 heq)
  omega

theorem pc_advance_self (p : Position) (rank core : Nat) :
    (p.advance rank core).pc rank core = p.pc rank core + 1 :=
  if_pos ⟨rfl, rfl⟩

theorem pc_advance_of_ne (p : Position) {rank core r c : Nat} (hne : ¬ (r = rank ∧ c = core)) :
    (p.advance rank core).pc r c = p.pc r c := if_neg hne

theorem Inv.counter_step (hinv : Inv h input m) (hrank : rank < g.rankSize)
    (hcore : core < g.cores rank) (hnext : g.launches.next m.position rank core = some op)
    (heffect : m.effect g input rank core op = some m₁) :
    ∀ r < g.rankSize, ∀ c < g.cores r, m₁.counter r c =
      (m.position.kernel r + if 0 < (m.position.advance rank core).pc r c then 1 else 0) % 2 ^ 32 := by
  intro r hr c hc
  have hframe := effect_frame heffect
  have hold := hinv.counter r hr c hc
  by_cases hself : r = rank ∧ c = core
  · obtain ⟨rfl, rfl⟩ := hself
    rw [pc_advance_self, if_pos (Nat.succ_pos _)]
    have hzero := (Rounds.next_count h hrank hnext).1
    by_cases hadd : op = .add
    · subst hadd
      cases heffect
      rw [if_neg (by rw [hzero.1 rfl]; omega), Nat.add_zero] at hold
      dsimp only
      rw [setAt_self, hold, Nat.mod_add_mod]
    · rw [hframe.counter hadd, hold, if_pos (Nat.pos_of_ne_zero fun heq => hadd (hzero.2 heq))]
  · rw [pc_advance_of_ne _ hself, ← hold]
    by_cases hadd : op = .add
    · subst hadd
      cases heffect
      exact setAt_of_ne _ _ hself
    · rw [hframe.counter hadd]

theorem Inv.magic_step (hinv : Inv h input m) (hrank : rank < g.rankSize)
    (hnext : g.launches.next m.position rank core = some op)
    (heffect : m.effect g input rank core op = some m₁) :
    ∀ r < g.rankSize, ∀ c < g.cores r, 1 < (m.position.advance rank core).pc r c →
      m₁.magic r c = (m.position.kernel r + 1) % 2 ^ 32 := by
  intro r hr c hc hpc
  have hframe := effect_frame heffect
  by_cases hself : r = rank ∧ c = core
  · obtain ⟨rfl, rfl⟩ := hself
    rw [pc_advance_self] at hpc
    have hone := (Rounds.next_count h hrank hnext).2
    by_cases hread : op = .read
    · subst hread
      cases heffect
      dsimp only
      rw [setAt_self, hinv.counter r hr c hc, if_pos (by omega)]
    · rw [hframe.magic hread]
      have hne : m.position.pc r c ≠ 1 := fun heq => hread (hone.2 heq)
      exact hinv.magic r hr c hc (by omega)
  · rw [pc_advance_of_ne _ hself] at hpc
    rw [← hinv.magic r hr c hc hpc]
    by_cases hread : op = .read
    · subst hread
      cases heffect
      exact setAt_of_ne _ _ hself
    · rw [hframe.magic hread]

theorem Inv.arrived_step (hinv : Inv h input m) (hnext : g.launches.next m.position rank core = some op)
    (heffect : m.effect g input rank core op = some m₁) (r c : Nat) (harrived : m₁.arrived r c = true) :
    g.launches.Done (m.position.advance rank core) r (m.position.kernel r) c .arrive := by
  by_cases hop : op = .arrive
  · subst hop
    cases heffect
    by_cases hself : r = rank ∧ c = core
    · obtain ⟨rfl, rfl⟩ := hself
      exact (Launches.done_advance hnext).2 (.inr ⟨rfl, rfl, rfl, rfl⟩)
    · dsimp only at harrived
      rw [setAt_of_ne _ _ hself] at harrived
      exact (hinv.arrived r c harrived).advance hnext
  · rw [(effect_frame heffect).arrived hop] at harrived
    exact (hinv.arrived r c harrived).advance hnext

theorem Inv.met_step (hinv : Inv h input m) (hnext : g.launches.next m.position rank core = some op)
    (heffect : m.effect g input rank core op = some m₁) : g.Met (m.position.advance rank core) := by
  intro r n c c' hc hc' hleave
  rcases (Launches.done_advance hnext).1 hleave with hleave | ⟨rfl, rfl, rfl, rfl⟩
  · exact (hinv.met r n c c' hc hc' hleave).advance hnext
  · rw [effect, Option.ite_none_right_eq_some] at heffect
    exact (hinv.arrived r c' (heffect.1 c' hc')).advance hnext

/-- A wait that passes is answered. -/
theorem Inv.published_of_wait (hinv : Inv h input m) {ℓ : Link} (hℓ : g.validLink ℓ)
    (hcore : core < g.cores (g.receiver ℓ))
    (hparity : m.position.kernel (g.receiver ℓ) % 2 = Rounds.parity ℓ)
    (hnext : g.launches.next m.position (g.receiver ℓ) core = some (g.waitOp ℓ))
    (heffect : m.effect g input (g.receiver ℓ) core (g.waitOp ℓ) = some m₁) :
    (g.links h).Published m.position ℓ (m.position.kernel (g.receiver ℓ)) := by
  have hrank := Rounds.receiver_lt h hℓ
  obtain ⟨v, hv, hword⟩ := hinv.stamped ℓ hℓ
  have hpass : m.word (g.receiver ℓ) (magicWord (flagAddr (g.slot ℓ))) = m.magic (g.receiver ℓ) core := by
    rcases ℓ with ⟨e, i, channel⟩ | ⟨e, i⟩
      <;> rw [Rounds.waitOp, effect, Option.ite_none_right_eq_some] at heffect
    · exact heffect.1
    · exact heffect.1.2
  have hmagic := hinv.magic_of_next hrank hcore hnext (by cases ℓ <;> simp [Rounds.waitOp])
    (by cases ℓ <;> simp [Rounds.waitOp])
  exact hinv.answered.of_stamp (by decide) hℓ hparity rfl hv (hword.symm.trans (hpass.trans hmagic))

theorem Inv.answered_step (hinv : Inv h input m) (hcore : core < g.cores rank)
    (hnext : g.launches.next m.position rank core = some op)
    (heffect : m.effect g input rank core op = some m₁) :
    (g.links h).Answered (m.position.advance rank core) := by
  refine hinv.answered.advance hnext ?_
  rintro ℓ hℓ rfl hparity rfl
  exact hinv.published_of_wait hℓ hcore hparity hnext heffect

/-- Raising a flag stamps it; the other flags keep what they have. -/
theorem Inv.stamped_step (hinv : Inv h input m) (hrank : rank < g.rankSize)
    (hcore : core < g.cores rank) (hnext : g.launches.next m.position rank core = some op)
    (heffect : m.effect g input rank core op = some m₁) (ℓ : Link) (hℓ : g.validLink ℓ) :
    ∃ v, (g.links h).Last (m.position.advance rank core) ℓ v ∧
      m₁.word (g.receiver ℓ) (magicWord (flagAddr (g.slot ℓ))) = Links.stamp (2 ^ 32) v := by
  obtain ⟨v, hv, hword⟩ := hinv.stamped ℓ hℓ
  by_cases hself : g.sender ℓ = rank ∧ op = g.flagOp ℓ
  · obtain ⟨rfl, rfl⟩ := hself
    have hparity : m.position.kernel (g.sender ℓ) % 2 = Rounds.parity ℓ := by
      obtain ⟨ℓ', hℓ', -, hparity, heq⟩ := Rounds.exists_flag h hrank (Launches.mem_of_next hnext)
      obtain rfl := Rounds.flagOp_inj hℓ hℓ' heq
      exact hparity
    refine ⟨_, Links.last_flag hℓ hcore hparity hnext, ?_⟩
    have hmagic := hinv.magic_of_next hrank hcore hnext (by simp [Rounds.flagOp]) (by simp [Rounds.flagOp])
    cases heffect
    dsimp only
    rw [setAt_self, hmagic]
    rfl
  · refine ⟨v, hv.congr fun n => Links.published_advance hnext fun hs heq => hself ⟨hs, heq⟩, ?_⟩
    rw [← hword]
    by_cases hflag : ∃ r addr, op = .flag r addr
    · obtain ⟨r, addr, rfl⟩ := hflag
      obtain ⟨ℓ', hℓ', hsender, -, heq⟩ := Rounds.exists_flag h hrank (Launches.mem_of_next hnext)
      simp only [Rounds.flagOp, CoreOp.flag.injEq] at heq
      obtain ⟨rfl, rfl⟩ := heq
      have hne : ¬ (g.receiver ℓ = g.receiver ℓ' ∧ g.slot ℓ = g.slot ℓ') := by
        rintro ⟨hr, hs⟩
        obtain rfl := Rounds.link_inj hℓ hℓ' hr hs
        exact hself ⟨hsender, rfl⟩
      cases heffect
      dsimp only
      rw [setAt_of_ne, setAt_of_ne]
      · exact fun hcond => Rounds.magicWord_ne_flagAddr _ _ hcond.2
      · exact fun hcond => hne ⟨hcond.1, Rounds.flagAddr_inj (Exchange.magicWord_inj hcond.2)⟩
    · rw [(effect_frame heffect).word fun r addr heq => hflag ⟨r, addr, heq⟩]

/-- A core that copies into the window of a link whose rows are still to be read
moves the same byte again. -/
theorem Inv.same_byte (hinv : Inv h input m) {ℓ ℓ' : Link} {n : Nat} {src src' dst : Address}
    (hℓ : g.validLink ℓ) (hn : n % 2 = Rounds.parity ℓ) (hpayload : (src, dst) ∈ g.payload n ℓ)
    (hkernel : n ≤ m.position.kernel (g.sender ℓ)) (hreceiver : m.position.kernel (g.receiver ℓ) ≤ n)
    (hℓ' : g.validLink ℓ') (hn' : m.position.kernel (g.sender ℓ') % 2 = Rounds.parity ℓ')
    (hpayload' : (src', dst) ∈ g.payload (m.position.kernel (g.sender ℓ')) ℓ')
    (hcore : core < g.cores (g.sender ℓ'))
    (hnext : g.launches.next m.position (g.sender ℓ') core = some (.copy src' dst)) :
    g.sender ℓ' = g.sender ℓ ∧ m.position.kernel (g.sender ℓ') = n ∧ src' = src := by
  obtain ⟨_, _, -, hwindow⟩ := Rounds.src_of_mem_payload hpayload
  obtain ⟨_, _, -, hwindow'⟩ := Rounds.src_of_mem_payload hpayload'
  have hends := Rounds.ends_of_window hℓ hℓ' (Buffer.window.inj (hwindow.symm.trans hwindow'))
  by_cases hparity : Rounds.parity ℓ = Rounds.parity ℓ'
  · -- the same way: the sender is not a round ahead
    have hsender := (hends.1 hparity).1
    rw [← hsender] at hn' hpayload' ⊢
    have heq : m.position.kernel (g.sender ℓ) = n := by
      by_contra hne
      have hpast := hinv.answered.receiver_past hℓ hn (show n + 1 < m.position.kernel (g.sender ℓ) by omega)
      exact absurd hpast (not_lt.2 hreceiver)
    rw [heq] at hpayload'
    exact ⟨rfl, heq, (Rounds.payload_src hℓ hℓ' hparity hpayload hpayload').symm⟩
  · -- the other way: its rows of this kernel were read before
    obtain ⟨hreceiver', hsender'⟩ := hends.2 hparity
    rw [← hsender'] at hreceiver
    have hlt : m.position.kernel (g.sender ℓ') < m.position.kernel (g.receiver ℓ') := by
      rw [hreceiver']
      have hne : m.position.kernel (g.sender ℓ') ≠ n := by
        intro heq
        rw [heq] at hn'
        exact hparity (hn.symm.trans hn')
      omega
    have hpub := hinv.answered.published hℓ' hn' hlt
    have hsealed := Rounds.sealed h hinv.met hℓ' hn' hpub hcore hpayload' (Launches.mem_of_next hnext)
    exact absurd hnext (hsealed.2 rfl)

theorem Inv.data_step (hinv : Inv h input m) (hrank : rank < g.rankSize) (hcore : core < g.cores rank)
    (hnext : g.launches.next m.position rank core = some op)
    (heffect : m.effect g input rank core op = some m₁) {ℓ : Link} {n c : Nat} {src dst : Address}
    (hℓ : g.validLink ℓ) (hn : n % 2 = Rounds.parity ℓ) (hpayload : (src, dst) ∈ g.payload n ℓ)
    (hc : c < g.cores (g.sender ℓ)) (hmem : .copy src dst ∈ g.ops (g.sender ℓ) n c)
    (hdone : g.launches.Done (m.position.advance rank core) (g.sender ℓ) n c (.copy src dst))
    (hreceiver : m.position.kernel (g.receiver ℓ) ≤ n) : m₁.mem dst = m.load input n src := by
  obtain ⟨_, _, hsrc, hdst⟩ := Rounds.src_of_mem_payload hpayload
  by_cases hcopy : ∃ src', op = .copy src' dst
  · obtain ⟨src', rfl⟩ := hcopy
    obtain ⟨ℓ', hℓ', rfl, hn', -, hpayload'⟩ :=
      Rounds.exists_payload h hrank hcore hdst (Launches.mem_of_next hnext)
    obtain ⟨-, heq, rfl⟩ :=
      hinv.same_byte hℓ hn hpayload hdone.kernel_le hreceiver hℓ' hn' hpayload' hcore hnext
    cases heffect
    dsimp only
    rw [Function.update_self, heq]
  · have hold : g.launches.Done m.position (g.sender ℓ) n c (.copy src dst) := by
      rcases (Launches.done_advance hnext).1 hdone with hold | ⟨-, -, -, heq⟩
      · exact hold
      · exact absurd ⟨src, heq.symm⟩ hcopy
    rw [← hinv.data ℓ n c src dst hℓ hn hpayload hc hmem hold hreceiver]
    by_cases hmove : ∃ src' dst', op = .copy src' dst'
    · obtain ⟨src', dst', rfl⟩ := hmove
      cases heffect
      exact Function.update_of_ne (fun heq => hcopy ⟨src', by rw [heq]⟩) _ _
    · rw [(effect_frame heffect).mem fun src' dst' heq => hmove ⟨src', dst', heq⟩]

/-- A step of a core keeps the invariant. -/
theorem Inv.core_step (hinv : Inv h input m) (hrank : rank < g.rankSize) (hcore : core < g.cores rank)
    (hstep : m.coreStep g input rank core = some m') : Inv h input m' := by
  obtain ⟨op, m₁, hnext, heffect, rfl⟩ := coreStep_eq_some.1 hstep
  have hcounter := hinv.counter_step hrank hcore hnext heffect
  have hmagic := hinv.magic_step hrank hnext heffect
  have harrived := hinv.arrived_step hnext heffect
  have hstamped := hinv.stamped_step hrank hcore hnext heffect
  refine ⟨hcounter, hmagic, harrived, hinv.met_step hnext heffect,
    hinv.answered_step hcore hnext heffect, hstamped, ?_⟩
  intro ℓ n c src dst hℓ hn hpayload hc hmem hdone hreceiver
  obtain ⟨_, _, hsrc, -⟩ := Rounds.src_of_mem_payload hpayload
  have hload := hinv.data_step hrank hcore hnext heffect hℓ hn hpayload hc hmem hdone hreceiver
  rw [load_input _ hsrc] at hload ⊢
  exact hload

/-- The next kernel of a rank keeps the invariant. -/
theorem Inv.launch_step (hinv : Inv h input m) (hrank : rank < g.rankSize)
    (hstep : m.launchStep g rank = some m') :
    Inv h input m' := by
  obtain ⟨hfinished, rfl⟩ := launchStep_eq_some.1 hstep
  have hself : ∀ {r}, r = rank → (m.position.launch rank).kernel r = m.position.kernel rank + 1 := by
    rintro r rfl
    exact if_pos rfl
  have hother : ∀ {r}, r ≠ rank → (m.position.launch rank).kernel r = m.position.kernel r :=
    fun hne => if_neg hne
  have hpc : ∀ {r} c, r = rank → (m.position.launch rank).pc r c = 0 := fun _ heq => if_pos heq
  have hpc' : ∀ {r} c, r ≠ rank → (m.position.launch rank).pc r c = m.position.pc r c :=
    fun _ hne => if_neg hne
  refine ⟨?_, ?_, ?_, ?_, hinv.answered.launch hfinished, ?_, ?_⟩
  · intro r hr c hc
    dsimp only
    rw [hinv.counter r hr c hc]
    by_cases heq : r = rank
    · subst heq
      have hlen := (Rounds.two_le_length h hr (m.position.kernel r) c).trans (hfinished c hc)
      rw [hself rfl, hpc c rfl, if_pos (by omega)]
      rfl
    · rw [hother heq, hpc' c heq]
  · intro r hr c hc hlt
    dsimp only at hlt ⊢
    by_cases heq : r = rank
    · rw [hpc c heq] at hlt
      exact absurd hlt (by omega)
    · rw [hpc' c heq] at hlt
      rw [hother heq]
      exact hinv.magic r hr c hc hlt
  · intro r c harrived
    dsimp only at harrived ⊢
    by_cases heq : r = rank
    · rw [if_pos heq] at harrived
      cases harrived
    · rw [if_neg heq] at harrived
      have hdone := hinv.arrived r c harrived
      unfold Launches.Done at hdone ⊢
      rwa [hother heq, hpc' c heq]
  · intro r n c c' hc hc' hleave
    dsimp only at hleave ⊢
    by_cases heq : r = rank
    · rcases hleave with hlt | ⟨-, hmem⟩
      · exact .inl hlt
      · rw [hpc c heq, List.take_zero] at hmem
        cases hmem
    · have hmet := hinv.met r n c c' hc hc'
      unfold Launches.Done at hleave hmet ⊢
      rw [hother heq, hpc' _ heq] at hleave ⊢
      exact hmet hleave
  · intro ℓ hℓ
    obtain ⟨v, hv, hword⟩ := hinv.stamped ℓ hℓ
    exact ⟨v, hv.congr fun n => Links.published_launch hfinished, hword⟩
  · intro ℓ n c src dst hℓ hn hpayload hc hmem hdone hreceiver
    obtain ⟨_, _, hsrc, -⟩ := Rounds.src_of_mem_payload hpayload
    have hold := (Launches.done_launch hfinished hc hmem).1 hdone
    have hdata := hinv.data ℓ n c src dst hℓ hn hpayload hc hmem hold
      ((Position.kernel_le_launch _ _ _).trans hreceiver)
    rw [load_input _ hsrc] at hdata ⊢
    exact hdata

/-- The invariant holds in all interleavings. -/
theorem Reachable.inv (h : g.Valid) (hm : Reachable g input m) : Inv h input m := by
  induction hm with
  | start mem => exact inv_start h mem
  | step action _ hstep ih =>
    cases action with
    | core rank core =>
      rw [Machine.step, Option.ite_none_right_eq_some] at hstep
      exact ih.core_step hstep.1.1 hstep.1.2 hstep.2
    | launch rank =>
      rw [Machine.step, Option.ite_none_right_eq_some] at hstep
      exact ih.launch_step hstep.1 hstep.2

end Step

/-! ## What follows -/

/-- What the ranks can rely on in a state. -/
structure Safe (g : Rounds) (input : Nat → Nat → Channel → Nat → V) (m : Machine V) : Prop where
  /-- No call overflows an `int`. -/
  bounded : ∀ rank < g.rankSize, AllSafe (g.call rank (m.position.kernel rank))
  /-- Counters, flags and rows are different bytes of a window. -/
  apart : ∀ w, w = layoutA3 ∨ w = layoutA5 → g.rankSize ≤ CAM_MAX_RANK_SIZE →
    (∀ rank < g.rankSize, g.cores rank ≤ 2 ^ 14) → g.PlacesApart w
  /-- After `init`, a core's number is that of its kernel. The two ends of a link are
  in one kernel when they use it. -/
  numbered : ∀ rank < g.rankSize, ∀ core < g.cores rank, ∀ op, g.launches.next m.position rank
    core = some op →
    op ≠ .add → op ≠ .read → m.magic rank core = (m.position.kernel rank + 1) % 2 ^ 32
  /-- A wait that passes finds a flag of its own kernel, all copies of the sender done
  and the rows in place. -/
  released : ∀ ℓ, g.validLink ℓ → ∀ core < g.cores (g.receiver ℓ),
    g.launches.next m.position (g.receiver ℓ) core = some (g.waitOp ℓ) →
    (m.step g input (.core (g.receiver ℓ) core)).isSome →
    (∃ c < g.cores (g.sender ℓ),
      g.launches.Done m.position (g.sender ℓ) (m.position.kernel (g.receiver ℓ)) c (g.flagOp ℓ)) ∧
    ∀ src dst, (src, dst) ∈ g.payload (m.position.kernel (g.receiver ℓ)) ℓ →
      (∀ c < g.cores (g.sender ℓ), .copy src dst ∈ g.ops (g.sender ℓ) (m.position.kernel (g.receiver ℓ)) c →
        g.launches.Done m.position (g.sender ℓ) (m.position.kernel (g.receiver ℓ)) c (.copy src dst)) ∧
      m.mem dst = m.load input (m.position.kernel (g.receiver ℓ)) src
  /-- A byte of a window is written when all reads of it by earlier kernels are done. -/
  rowsKept : ∀ rank < g.rankSize, ∀ core < g.cores rank, ∀ src dst w,
    g.launches.next m.position rank core = some (.copy src dst) → dst.buffer = .window w →
    ∀ rank' < g.rankSize, ∀ core' < g.cores rank', ∀ n' < m.position.kernel rank, ∀ out,
      .copy dst out ∈ g.ops rank' n' core' → g.launches.Done m.position rank' n' core' (.copy dst out)
  /-- A flag is written when all waits for it in earlier kernels are done. -/
  flagsKept : ∀ rank < g.rankSize, ∀ core < g.cores rank, ∀ r addr,
    g.launches.next m.position rank core = some (.flag r addr) →
    ∀ core' < g.cores r, ∀ n' < m.position.kernel rank, ∀ op, op = .wait (magicWord addr) ∨
      op = .poll addr →
      op ∈ g.ops r n' core' → g.launches.Done m.position r n' core' op
  /-- A copy out of a window takes what the sender put there in the same kernel. -/
  current : ∀ rank < g.rankSize, ∀ core < g.cores rank, ∀ src dst w,
    g.launches.next m.position rank core = some (.copy src dst) → src.buffer = .window w →
    ∃ (ℓ : Link) (k : Nat) (src₀ : Address), g.validLink ℓ ∧ g.receiver ℓ = rank ∧
      m.position.kernel rank % 2 = Rounds.parity ℓ ∧
      (g.payload (m.position.kernel rank) ℓ)[k]? = some (src₀, src) ∧
      (g.reads (m.position.kernel rank) ℓ)[k]? = some (src, dst) ∧
      m.mem src = m.load input (m.position.kernel rank) src₀

section Safe
variable {h : g.Valid} {m : Machine V}

/-- The rows of a link whose flag is up. -/
theorem Inv.rows (hinv : Inv h input m) {ℓ : Link} (hℓ : g.validLink ℓ)
    (hparity : m.position.kernel (g.receiver ℓ) % 2 = Rounds.parity ℓ)
    (hpub : (g.links h).Published m.position ℓ (m.position.kernel (g.receiver ℓ))) {src dst : Address}
    (hpayload : (src, dst) ∈ g.payload (m.position.kernel (g.receiver ℓ)) ℓ) :
    m.mem dst = m.load input (m.position.kernel (g.receiver ℓ)) src := by
  obtain ⟨c, hc, hmem⟩ := Rounds.exists_core h hℓ hparity hpayload
  have hdone := (Rounds.sealed h hinv.met hℓ hparity hpub hc hpayload hmem).1
  exact hinv.data ℓ _ c src dst hℓ hparity hpayload hc hmem hdone le_rfl

theorem Inv.released (hinv : Inv h input m) {ℓ : Link} (hℓ : g.validLink ℓ) {core : Nat}
    (hcore : core < g.cores (g.receiver ℓ))
    (hnext : g.launches.next m.position (g.receiver ℓ) core = some (g.waitOp ℓ))
    (hstep : (m.step g input (.core (g.receiver ℓ) core)).isSome) :
    m.position.kernel (g.receiver ℓ) % 2 = Rounds.parity ℓ ∧
      (g.links h).Published m.position ℓ (m.position.kernel (g.receiver ℓ)) := by
  obtain ⟨m', hm'⟩ := Option.isSome_iff_exists.1 hstep
  rw [Machine.step, Option.ite_none_right_eq_some] at hm'
  obtain ⟨op, m₁, hop, heffect, -⟩ := coreStep_eq_some.1 hm'.2
  obtain rfl := Option.some.inj (hnext.symm.trans hop)
  have hparity := Rounds.parity_of_wait h hℓ (by cases ℓ <;> simp [Rounds.waitOp])
    (Launches.mem_of_next hnext)
  exact ⟨hparity, hinv.published_of_wait hℓ hcore hparity hnext heffect⟩

/-- Receivers are past the kernels before that of the sender. -/
theorem Inv.receiver_past (hinv : Inv h input m) {ℓ : Link} (hℓ : g.validLink ℓ) {n : Nat}
    (hsender : m.position.kernel (g.sender ℓ) % 2 = Rounds.parity ℓ) (hn : n % 2 = Rounds.parity ℓ)
    (hlt : n < m.position.kernel (g.sender ℓ)) : n < m.position.kernel (g.receiver ℓ) :=
  hinv.answered.receiver_past hℓ hn (show n + 1 < m.position.kernel (g.sender ℓ) by omega)

theorem Inv.safe (hinv : Inv h input m) : m.Safe g input where
  bounded rank hrank := Rounds.call_allSafe h hrank _
  apart _ hw hsize hcores := Rounds.placesApart h hw hsize hcores
  numbered rank hrank core hcore op hnext hadd hread := hinv.magic_of_next hrank hcore hnext hadd hread
  released := by
    intro ℓ hℓ core hcore hnext hstep
    obtain ⟨hparity, hpub⟩ := hinv.released hℓ hcore hnext hstep
    refine ⟨?_, fun src dst hpayload => ⟨?_, hinv.rows hℓ hparity hpub hpayload⟩⟩
    · obtain ⟨c, hc, -, hdone⟩ := hpub
      exact ⟨c, hc, hdone⟩
    · intro c hc hmem
      exact (Rounds.sealed h hinv.met hℓ hparity hpub hc hpayload hmem).1
  rowsKept := by
    intro rank hrank core hcore src dst w hnext hdst rank' hrank' core' hcore' n' hn' out hmem
    obtain ⟨ℓ, hℓ, rfl, hparity, hwindow, -⟩ :=
      Rounds.exists_payload h hrank hcore hdst (Launches.mem_of_next hnext)
    obtain ⟨ℓ', hℓ', rfl, hparity', hwindow'⟩ := Rounds.exists_read_link h hrank' hcore' hdst hmem
    have hends := Rounds.ends_of_window hℓ hℓ' (hwindow.trans hwindow'.symm)
    apply Launches.done_of_lt
    by_cases heq : Rounds.parity ℓ = Rounds.parity ℓ'
    · rw [← (hends.1 heq).2]
      exact hinv.receiver_past hℓ hparity (hparity'.trans heq.symm) hn'
    · rwa [(hends.2 heq).1]
  flagsKept := by
    intro rank hrank core hcore r addr hnext core' hcore' n' hn' op hop hmem
    obtain ⟨ℓ, hℓ, rfl, hparity, heq⟩ := Rounds.exists_flag h hrank (Launches.mem_of_next hnext)
    simp only [Rounds.flagOp, CoreOp.flag.injEq] at heq
    obtain ⟨rfl, rfl⟩ := heq
    exact Launches.done_of_lt (hinv.receiver_past hℓ hparity (Rounds.parity_of_wait h hℓ hop hmem) hn')
  current := by
    intro rank hrank core hcore src dst w hnext hsrc
    obtain ⟨ℓ, hℓ, rfl, hparity, hreads, hwait, hdone⟩ := Rounds.exists_reads h hrank hcore hsrc hnext
    obtain ⟨k, src₀, hpayload, hread⟩ := Rounds.reads_payload h hℓ hreads
    have hpub := hinv.answered ℓ _ core hℓ hparity hcore hwait hdone
    exact ⟨ℓ, k, src₀, hℓ, rfl, hparity, hpayload, hread,
      hinv.rows hℓ hparity hpub (List.mem_of_getElem? hpayload)⟩

end Safe

/-- In every interleaving of any number of rounds, the ends of a link use one
number in one kernel, waits pass with the rows in place, nothing is overwritten
that is still to be read, and each copy takes the rows of its own round. -/
theorem window_rounds_safe (h : g.Valid) (input : Nat → Nat → Channel → Nat → V) (m : Machine V)
    (hm : Reachable g input m) : m.Safe g input :=
  (hm.inv h).safe

/-! ## A run -/

/-- A core does these operations, none of which waits in vain. -/
def effects (g : Rounds) (input : Nat → Nat → Channel → Nat → V) (rank core : Nat) :
    List CoreOp → Machine V → Option (Machine V)
  | [], m => some m
  | op :: ops, m => do
    let m₁ ← m.effect g input rank core op
    effects g input rank core ops { m₁ with position := m.position.advance rank core }

theorem Reachable.effects {m m' : Machine V} (hm : Reachable g input m) (rank core : Nat)
    (ops : List CoreOp) (hrank : rank < g.rankSize) (hcore : core < g.cores rank)
    (hops : ops <+: (g.ops rank (m.position.kernel rank) core).drop (m.position.pc rank core))
    (h : m.effects g input rank core ops = some m') : Reachable g input m' := by
  induction ops generalizing m with
  | nil =>
    cases h
    exact hm
  | cons op ops ih =>
    simp only [Machine.effects, Option.bind_eq_bind, Option.bind_eq_some_iff] at h
    obtain ⟨m₁, heffect, h⟩ := h
    obtain ⟨rest, hrest⟩ := hops
    have hnext : g.launches.next m.position rank core = some op := by
      change (g.ops rank (m.position.kernel rank) core)[m.position.pc rank core]? = some op
      rw [← Nat.add_zero (m.position.pc rank core), ← List.getElem?_drop, ← hrest]
      rfl
    have hstep : m.step g input (.core rank core) =
        some { m₁ with position := m.position.advance rank core } := by
      rw [Machine.step, if_pos ⟨hrank, hcore⟩, coreStep_eq_some]
      exact ⟨op, m₁, hnext, heffect, rfl⟩
    refine ih (hm.step _ hstep) ⟨rest, ?_⟩ h
    dsimp only
    rw [pc_advance_self, ← List.drop_drop]
    change _ = ((g.ops rank (m.position.kernel rank) core).drop (m.position.pc rank core)).drop 1
    rw [← hrest]
    rfl

/-- Two Attention ranks of one expert rank with three cores each. A2E has two rows of
each, the second for padding. -/
def twoToOne : Rounds := ⟨1, 2, 1, fun _ => 3, fun n _ => 2 - n % 2, fun _ => 1, fun _ => 1⟩

theorem twoToOne_valid : twoToOne.Valid where
  expert_pos := by decide
  attention_pos := by decide
  dvd := by decide
  cores_pos _ _ := Nat.succ_pos 2
  gate _ _ _ := le_rfl
  fits kernel rank hrank := by
    have hrank : rank < 3 := hrank
    have ha2e : twoToOne.a2eTiling kernel rank =
        ⟨if rank < 1 then (2 - kernel % 2) * 2 else 2 - kernel % 2, 1, 1, 1, 2, rank, 1⟩ := rfl
    have he2a : twoToOne.e2aTiling kernel rank =
        ⟨if rank < 1 then (2 - kernel % 2) * 2 else 2 - kernel % 2, 1, 1, 1, 2, rank⟩ := rfl
    unfold Rounds.CallFits A2ETilingData.RecvFits A2ETilingData.SendFits E2ATilingData.RecvFits
      E2ATilingData.SendFits
    rw [ha2e, he2a]
    rcases Nat.mod_two_eq_zero_or_one kernel with hn | hn <;> rw [hn] <;> interval_cases rank <;> decide

/-- The last core of the first Attention rank moves the ids and raises their flag. -/
theorem twoToOne_send_ids : twoToOne.ops 1 0 2 =
    countOps ++ (sendBytes (twoToOne.a2eTiling 0 1) .ids).map copyOp ++
      (twoToOne.flagOp (.forward 0 0 .ids) :: syncAll) := by
  have hops := Rounds.ops_attn_even twoToOne_valid (e := 0) (i := 0) (n := 0) (c := 2) (by decide) rfl
  have hmoved : moved (a2eCore (twoToOne.a2eTiling 0 1) 3 2) = sendBytes (twoToOne.a2eTiling 0 1) .ids := by
    rw [moved_a2eCore_send (by decide), if_neg (by decide), if_pos rfl, moved_sendExpertIds]
  rw [← hmoved]
  exact hops

/-- The expert rank's last core has passed its wait for the first Attention rank and
has the first byte of the ids. -/
theorem window_rounds_safe_twoToOne :
    ∃ m : Machine Nat, Reachable twoToOne (fun n rank _ j => n + rank + j) m ∧ m.position.pc 0 2 = 4 ∧
      m.mem ⟨.output 0 .ids, 0⟩ = 1 ∧ m.Safe twoToOne fun n rank _ j => n + rank + j := by
  have hstart : Reachable twoToOne (fun n rank _ j => n + rank + j) (start fun _ => 0) := .start _
  have hsent := hstart.effects 1 2 (countOps ++ (sendBytes (twoToOne.a2eTiling 0 1) .ids).map copyOp ++
      [twoToOne.flagOp (.forward 0 0 .ids)]) (by decide) (by decide) ⟨syncAll, by
      change _ = twoToOne.ops 1 0 2
      rw [twoToOne_send_ids]
      rfl⟩ rfl
  have hread := hsent.effects 0 2
    (countOps ++ [twoToOne.waitOp (.forward 0 0 .ids), .copy ⟨.window 1, 4⟩ ⟨.output 0 .ids, 0⟩])
    (by decide) (by decide) ⟨_, rfl⟩ rfl
  exact ⟨_, hread, rfl, rfl, window_rounds_safe twoToOne_valid _ _ hread⟩

end Machine

end AfdPlugin.Kernels
