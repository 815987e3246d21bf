import Mathlib.Order.Defs.Unbundled
/-!
# Scopes that survive exceptions

A computation reads and changes a state, and may raise: what it has changed by
then stays changed. A scope changes the state, runs a body and changes the state
back, whether the body has raised or not.

`Within r m` says that `m` leads from each state to one that `r` relates it to,
also when it raises. For a preorder it is kept by every way to put computations
together, so a program is within `r` once its basic steps are. A scope may be
within a finer relation than its body (`within_scope`). `Triple` follows one run,
with a postcondition for each of its two ends.
-/

namespace AfdPlugin

/-- A computation on `S` that raises exceptions `X`. -/
def Eff (S X A : Type) : Type := S → Except X A × S

namespace Eff

variable {S X A B : Type}

instance : Monad (Eff S X) where
  pure a := fun s => (.ok a, s)
  bind m k := fun s =>
    match m s with
    | (.ok a, s') => k a s'
    | (.error x, s') => (.error x, s')

def raise (x : X) : Eff S X A := fun s => (.error x, s)

def read (f : S → A) : Eff S X A := fun s => (.ok (f s), s)

def modify (f : S → S) : Eff S X Unit := fun s => (.ok (), f s)

def ofExcept (r : Except X A) : Eff S X A := fun s => (r, s)

/-- `try`, then `except` of every exception. -/
def recover (body : Eff S X A) (handler : X → Eff S X A) : Eff S X A := fun s =>
  match body s with
  | (.ok a, s') => (.ok a, s')
  | (.error x, s') => handler x s'

/-- `try`, then `finally`. -/
def tryFinally (body : Eff S X A) (cleanup : Eff S X Unit) : Eff S X A := fun s =>
  match cleanup (body s).2 with
  | (.ok _, s') => ((body s).1, s')
  | (.error x, s') => (.error x, s')

/-! ## Runs -/

theorem bind_of_ok {m : Eff S X A} {k : A → Eff S X B} {s s' : S} {a : A} (h : m s = (.ok a, s')) :
    (m >>= k) s = k a s' := by
  change (match m s with | (.ok a, s') => k a s' | (.error x, s') => (.error x, s')) = _
  rw [h]

theorem bind_of_error {m : Eff S X A} {k : A → Eff S X B} {s s' : S} {x : X} (h : m s = (.error x, s')) :
    (m >>= k) s = (.error x, s') := by
  change (match m s with | (.ok a, s') => k a s' | (.error x, s') => (.error x, s')) = _
  rw [h]

theorem read_bind (f : S → A) (k : A → Eff S X B) (s : S) : (read f >>= k) s = k (f s) s := rfl

theorem modify_bind (f : S → S) (k : Unit → Eff S X B) (s : S) : (modify f >>= k) s = k () (f s) := rfl

theorem ok_bind (a : A) (k : A → Eff S X B) (s : S) : (ofExcept (.ok a) >>= k) s = k a s := rfl

theorem tryFinally_of_ok {body : Eff S X A} {cleanup : Eff S X Unit} {s t : S} {u : Unit}
    (h : cleanup (body s).2 = (.ok u, t)) : tryFinally body cleanup s = ((body s).1, t) := by
  unfold tryFinally
  rw [h]

/-! ## What computations stay within -/

/-- Every run of `m` ends in a state that `r` relates to the first one. -/
def Within (r : S → S → Prop) (m : Eff S X A) : Prop := ∀ s, r s (m s).2

section Preorder
variable {r : S → S → Prop}

theorem Within.mono {r' : S → S → Prop} (hr : ∀ s t, r s t → r' s t) {m : Eff S X A} (hm : Within r m) :
    Within r' m :=
  fun s => hr s _ (hm s)

theorem within_modify {f : S → S} (hf : ∀ s, r s (f s)) : Within r (modify f : Eff S X Unit) := hf

theorem within_ite {c : Prop} [Decidable c] {m m' : Eff S X A} (hm : Within r m) (hm' : Within r m') :
    Within r (if c then m else m') := by
  split
  · exact hm
  · exact hm'

variable [IsPreorder S r]

theorem within_pure (a : A) : Within r (pure a : Eff S X A) := fun s => refl_of r s

theorem within_raise (x : X) : Within r (raise x : Eff S X A) := fun s => refl_of r s

theorem within_read (f : S → A) : Within r (read f : Eff S X A) := fun s => refl_of r s

theorem within_ofExcept (e : Except X A) : Within r (ofExcept e : Eff S X A) := fun s => refl_of r s

theorem within_bind {m : Eff S X A} {k : A → Eff S X B} (hm : Within r m) (hk : ∀ a, Within r (k a)) :
    Within r (m >>= k) := by
  intro s
  have hfirst := hm s
  cases h : m s with
  | mk result s' =>
    rw [h] at hfirst
    cases result with
    | ok a =>
      rw [bind_of_ok h]
      exact trans_of r hfirst (hk a s')
    | error x =>
      rw [bind_of_error h]
      exact hfirst

theorem within_recover {m : Eff S X A} {handler : X → Eff S X A} (hm : Within r m)
    (hhandler : ∀ x, Within r (handler x)) : Within r (recover m handler) := by
  intro s
  have hfirst := hm s
  unfold recover
  cases h : m s with
  | mk result s' =>
    rw [h] at hfirst
    cases result with
    | ok a => exact hfirst
    | error x => exact trans_of r hfirst (hhandler x s')

end Preorder

/-! ## Pre- and postconditions -/

/-- From `s`, a normal end of `m` meets `post`, and an exception meets `raises`. -/
def Triple (s : S) (m : Eff S X A) (post : A → S → Prop) (raises : X → S → Prop) : Prop :=
  (∀ a t, m s = (.ok a, t) → post a t) ∧ ∀ x t, m s = (.error x, t) → raises x t

section Triples
variable {s : S} {post : A → S → Prop} {raises : X → S → Prop}

theorem triple_of_eq {m : Eff S X A} {a : A} {t : S} (h : m s = (.ok a, t)) (hpost : post a t) :
    Triple s m post raises := by
  refine ⟨fun b u hb => ?_, fun x u hx => ?_⟩
  · rw [h] at hb
    cases hb
    exact hpost
  · rw [h] at hx
    cases hx

theorem triple_of_raise {m : Eff S X A} {x : X} {t : S} (h : m s = (.error x, t)) (hraises : raises x t) :
    Triple s m post raises := by
  refine ⟨fun b u hb => ?_, fun y u hy => ?_⟩
  · rw [h] at hb
    cases hb
  · rw [h] at hy
    cases hy
    exact hraises

theorem triple_pure {a : A} (h : post a s) : Triple s (pure a : Eff S X A) post raises := triple_of_eq rfl h

theorem triple_read {f : S → A} (h : post (f s) s) : Triple s (read f : Eff S X A) post raises :=
  triple_of_eq rfl h

theorem triple_modify {f : S → S} {post : Unit → S → Prop} (h : post () (f s)) :
    Triple s (modify f : Eff S X Unit) post raises := triple_of_eq rfl h

theorem triple_ofExcept {r : Except X A} (hok : ∀ a, post a s) (herror : ∀ x, raises x s) :
    Triple s (ofExcept r) post raises := by
  cases r with
  | ok a => exact triple_of_eq rfl (hok a)
  | error x => exact triple_of_raise rfl (herror x)

theorem triple_bind {m : Eff S X A} {k : A → Eff S X B} {post : B → S → Prop}
    (h : Triple s m (fun a t => Triple t (k a) post raises) raises) : Triple s (m >>= k) post raises := by
  cases hm : m s with
  | mk result t =>
    cases result with
    | ok a =>
      obtain ⟨hpost, hraises⟩ := h.1 a t hm
      exact ⟨fun b u hb => hpost b u ((bind_of_ok hm).symm.trans hb),
        fun x u hx => hraises x u ((bind_of_ok hm).symm.trans hx)⟩
    | error x => exact triple_of_raise (bind_of_error hm) (h.2 x t hm)

end Triples

/-! ## What holds after a normal end -/

/-- `post` holds of every state that `m` ends in without raising. -/
def Ends (post : S → Prop) (m : Eff S X A) : Prop := ∀ s a t, m s = (.ok a, t) → post t

theorem ends_bind {post : S → Prop} {m : Eff S X A} {k : A → Eff S X B} (hk : ∀ a, Ends post (k a)) :
    Ends post (m >>= k) := by
  intro s b t h
  cases hm : m s with
  | mk result s' =>
    cases result with
    | ok a =>
      rw [bind_of_ok hm] at h
      exact hk a s' b t h
    | error x =>
      rw [bind_of_error hm] at h
      cases h

theorem tryFinally_snd (body : Eff S X A) (cleanup : Eff S X Unit) (s : S) :
    (tryFinally body cleanup s).2 = (cleanup (body s).2).2 := by
  unfold tryFinally
  cases h : cleanup (body s).2 with
  | mk result s' => cases result <;> rfl

/-- The cleanup takes the states the body can end in to states that `r` relates
to the first one. -/
theorem within_tryFinally {r r' : S → S → Prop} {body : Eff S X A} {cleanup : Eff S X Unit}
    (hbody : Within r' body) (hcleanup : ∀ s t, r' s t → r s (cleanup t).2) :
    Within r (tryFinally body cleanup) := by
  intro s
  rw [tryFinally_snd]
  exact hcleanup s _ (hbody s)

/-! ## Scopes -/

/-- A scope saves what it is about to change, changes it, and runs its body; its
cleanup gets what was saved. -/
def scope (save : S → B) (enter : S → S) (cleanup : B → Eff S X Unit) (body : Eff S X A) : Eff S X A :=
  fun s => tryFinally body (cleanup (save s)) (enter s)

theorem scope_snd (save : S → B) (enter : S → S) (cleanup : B → Eff S X Unit) (body : Eff S X A) (s : S) :
    (scope save enter cleanup body s).2 = (cleanup (save s) (body (enter s)).2).2 :=
  tryFinally_snd body (cleanup (save s)) (enter s)

/-- A scope is within a relation when its cleanup undoes what it has changed, in
every state its body can lead to. -/
theorem within_scope {r r' : S → S → Prop} {save : S → B} {enter : S → S} {cleanup : B → Eff S X Unit}
    {body : Eff S X A} (hbody : Within r' body)
    (hcleanup : ∀ s t, r' (enter s) t → r s (cleanup (save s) t).2) :
    Within r (scope save enter cleanup body) := by
  intro s
  rw [scope_snd]
  exact hcleanup s _ (hbody (enter s))

/-- A scope ends normally only if its body does. -/
theorem ends_scope {post : S → Prop} {save : S → B} {enter : S → S} {cleanup : B → Eff S X Unit}
    {body : Eff S X A} (hbody : Ends post body) (hcleanup : ∀ v t, post t → post (cleanup v t).2) :
    Ends post (scope save enter cleanup body) := by
  intro s a t h
  have hend : (cleanup (save s) (body (enter s)).2).2 = t := by rw [← scope_snd, h]
  have hresult : (body (enter s)).1 = .ok a := by
    unfold scope tryFinally at h
    split at h
    · exact congrArg Prod.fst h
    · cases h
  rw [← hend]
  exact hcleanup _ _ (hbody (enter s) a _ (Prod.ext hresult rfl))

end Eff

/-- A part of a state that can be set on its own. -/
structure Field (S V : Type) where
  get : S → V
  set : V → S → S
  get_set : ∀ v s, get (set v s) = v
  set_get : ∀ s, set (get s) s = s
  set_set : ∀ v w s, set v (set w s) = set v s

/-- What was saved of a field puts back the state before it was set. -/
theorem Field.restore {S V : Type} (f : Field S V) (v : V) (s : S) : f.set (f.get s) (f.set v s) = s := by
  rw [f.set_set, f.set_get]

end AfdPlugin
