import Mathlib.Data.List.Forall2
import Mathlib.Tactic
/-!
# Fallible code

Sequencing in `Except`, and loops whose steps can fail.
-/

namespace AfdPlugin.Fallible

theorem ok_bind {α β : Type} (a : α) (f : α → Except String β) : (Except.ok a >>= f) = f a := rfl

theorem bind_eq_ok {α β : Type} {x : Except String α} {f : α → Except String β} {b : β} :
    (x >>= f) = .ok b ↔ ∃ a, x = .ok a ∧ f a = .ok b := by
  cases x with
  | error e => exact ⟨fun h => (nomatch h), fun ⟨_, h, _⟩ => (nomatch h)⟩
  | ok a => exact ⟨fun h => ⟨a, rfl, h⟩, fun ⟨_, ha, h⟩ => by cases ha; exact h⟩

/-- A loop of checks succeeds when each of them does. -/
theorem forM_eq_ok {α : Type} {f : α → Except String PUnit} {l : List α} :
    l.forM f = .ok () ↔ ∀ a ∈ l, f a = .ok () := by
  induction l with
  | nil => simp [pure, Except.pure]
  | cons a l ih =>
    have hcons : (a :: l).forM f = f a >>= fun _ => l.forM f := rfl
    rw [hcons, bind_eq_ok, List.forall_mem_cons]
    exact ⟨fun ⟨_, ha, hl⟩ => ⟨ha, ih.1 hl⟩, fun ⟨ha, hl⟩ => ⟨_, ha, ih.2 hl⟩⟩

/-- A loop that succeeds on every item. -/
theorem mapM_ok {α γ : Type} {f : α → Except String γ} {h : α → γ} {l : List α}
    (hf : ∀ a ∈ l, f a = .ok (h a)) :
    l.mapM f = .ok (l.map h) := by
  induction l with
  | nil => rfl
  | cons a l ih =>
    rw [List.mapM_cons, hf a List.mem_cons_self, ih fun b hb => hf b (List.mem_cons_of_mem a hb)]
    rfl

theorem mapM_congr {α γ : Type} {f g : α → Except String γ} {l : List α} (h : ∀ a ∈ l, f a = g a) :
    l.mapM f = l.mapM g := by
  induction l with
  | nil => rfl
  | cons a l ih =>
    rw [List.mapM_cons, List.mapM_cons, h a List.mem_cons_self,
      ih fun b hb => h b (List.mem_cons_of_mem a hb)]

theorem mapM_map_ok {α β γ : Type} {f : β → Except String γ} {g : α → β} {h : α → γ} {l : List α}
    (hf : ∀ a ∈ l, f (g a) = .ok (h a)) : (l.map g).mapM f = .ok (l.map h) := by
  rw [List.mapM_map]
  exact mapM_ok hf

theorem mapM_perm {α β : Type} {f : α → Except String β} {l l' : List α} (h : l.Perm l') {r : List β}
    (hr : l.mapM f = .ok r) : ∃ r', l'.mapM f = .ok r' ∧ r.Perm r' := by
  induction h generalizing r with
  | nil => exact ⟨r, hr, .refl r⟩
  | @cons a l l' _ ih =>
    rw [List.mapM_cons] at hr ⊢
    cases ha : f a with
    | error e =>
      rw [ha] at hr
      cases hr
    | ok b =>
      cases hl : l.mapM f with
      | error e =>
        rw [ha, hl] at hr
        cases hr
      | ok rest =>
        obtain ⟨rest', hrest, hperm⟩ := ih hl
        rw [ha, hl] at hr
        cases hr
        exact ⟨b :: rest', by rw [hrest]; rfl, hperm.cons b⟩
  | swap a b l =>
    simp only [List.mapM_cons] at hr ⊢
    cases ha : f a with
    | error e => cases hb : f b <;> simp [ha, hb, bind, Except.bind] at hr
    | ok x =>
      cases hb : f b with
      | error e => simp [hb, bind, Except.bind] at hr
      | ok y =>
        cases hl : l.mapM f with
        | error e => simp [ha, hb, hl, bind, Except.bind] at hr
        | ok rest =>
          simp only [ha, hb, hl, bind, Except.bind, pure, Except.pure, Except.ok.injEq] at hr ⊢
          exact ⟨_, rfl, hr ▸ List.Perm.swap x y rest⟩
  | trans _ _ ih ih' =>
    obtain ⟨r', hr', hperm⟩ := ih hr
    obtain ⟨r'', hr'', hperm'⟩ := ih' hr'
    exact ⟨r'', hr'', hperm.trans hperm'⟩

theorem map_fst_mapM {α β γ : Type} {f : α × β → Except String (α × γ)}
    (hf : ∀ x y, f x = .ok y → y.1 = x.1) {l : List (α × β)} {r : List (α × γ)}
    (hr : l.mapM f = .ok r) : r.map Prod.fst = l.map Prod.fst := by
  induction l generalizing r with
  | nil =>
    cases hr
    rfl
  | cons a l ih =>
    rw [List.mapM_cons] at hr
    cases ha : f a with
    | error e =>
      rw [ha] at hr
      cases hr
    | ok b =>
      cases hl : l.mapM f with
      | error e =>
        rw [ha, hl] at hr
        cases hr
      | ok rest =>
        rw [ha, hl] at hr
        cases hr
        rw [List.map_cons, List.map_cons, ih hl, hf a b ha]

theorem mapM_ok_iff {α β : Type} {f : α → Except String β} {l : List α} {r : List β} :
    l.mapM f = .ok r ↔ List.Forall₂ (fun a b => f a = .ok b) l r := by
  induction l generalizing r with
  | nil =>
    rw [List.mapM_nil]
    constructor
    · intro h; cases h; exact .nil
    · rintro ⟨⟩; rfl
  | cons a l ih =>
    rw [List.mapM_cons, bind_eq_ok]
    constructor
    · rintro ⟨b, hb, h⟩
      obtain ⟨bs, hbs, h⟩ := bind_eq_ok.1 h
      cases h
      exact .cons hb (ih.1 hbs)
    · rintro (_ | ⟨hb, hbs⟩)
      exact ⟨_, hb, bind_eq_ok.2 ⟨_, ih.2 hbs, rfl⟩⟩

/-- Every step of a loop that succeeds does. -/
theorem exists_of_mapM_ok {α β : Type} {f : α → Except String β} {l : List α} {r : List β}
    (h : l.mapM f = .ok r) {a : α} (ha : a ∈ l) : ∃ b, f a = .ok b := by
  induction mapM_ok_iff.1 h with
  | nil => cases ha
  | cons hb _ ih =>
    rename_i hl
    rcases List.mem_cons.1 ha with rfl | ha
    · exact ⟨_, hb⟩
    · exact ih (mapM_ok_iff.2 hl) ha

end AfdPlugin.Fallible
