import AfdPlugin.Lib.Dict
import AfdPlugin.Lib.Fallible
import Mathlib.Data.List.Induction
import Mathlib.Tactic
/-!
# A server that caches recorded work

A server gets requests and does one piece of work for each. It may do the work,
do it while recording it under the request's key, or run what it has recorded
under that key before. When requests with one key need the same work, a
recording never stands for other work than the request it is run for.
-/

namespace AfdPlugin.GraphCache

/-- How a request is served. -/
inductive RunMode where
  | eager
  | warmup
  | capture
  | replay
  deriving DecidableEq, Repr

/-- One piece of work that was done. -/
structure Execution (κ ω : Type) where
  mode : RunMode
  key : κ
  work : ω
  deriving DecidableEq, Repr

/-- The recordings, and what was done so far. -/
structure Server (κ ω : Type) [DecidableEq κ] where
  graphs : Dict κ ω := ∅
  log : List (Execution κ ω) := []

section Serve
variable {ρ κ ω : Type} [DecidableEq κ] (key : ρ → Except String κ) (work : ρ → Except String ω)
  (modeOf : ρ → Bool → RunMode)

/-- What is run for a request: a recording, when there is one to replay. -/
def doneFor (r : ρ) (mode : RunMode) (recorded : Option ω) : Except String ω :=
  match mode, recorded with
  | .replay, some w => .ok w
  | _, _ => work r

/-- Serve one request. -/
def Server.serve (s : Server κ ω) (r : ρ) : Except String (Server κ ω) := do
  let k ← key r
  let mode := modeOf r (s.graphs.get? k).isSome
  let done ← doneFor work r mode (s.graphs.get? k)
  return {
    graphs := if mode = .capture then s.graphs.set k done else s.graphs
    log := s.log ++ [⟨mode, k, done⟩] }

def Server.run (s : Server κ ω) (requests : List ρ) : Except String (Server κ ω) :=
  requests.foldlM (Server.serve key work modeOf) s

/-- Something was recorded under a key before place `i` of the log. -/
def RecordedBefore (log : List (Execution κ ω)) (i : Nat) (k : κ) : Prop :=
  ∃ j < i, ∃ w, log[j]? = some ⟨.capture, k, w⟩

/-- What the log of a run must be: one execution for each request, of its key
and its work, in the mode that its flags and the earlier recordings call for;
and a replay runs what was recorded earlier under its key. -/
structure Serves (requests : List ρ) (log : List (Execution κ ω)) : Prop where
  length : log.length = requests.length
  own : ∀ i r, requests[i]? = some r → ∃ mode k w, key r = .ok k ∧ work r = .ok w ∧
    log[i]? = some ⟨mode, k, w⟩ ∧
    ∃ cached, (cached = true ↔ RecordedBefore log i k) ∧ mode = modeOf r cached
  replay : ∀ (i : Nat) k w, log[i]? = some ⟨.replay, k, w⟩ → ∃ j < i, log[j]? = some ⟨.capture, k, w⟩

/-! ## The cache holds what was recorded -/

/-- The recordings are those in the log. -/
structure Recorded (s : Server κ ω) : Prop where
  captured : ∀ k w, s.graphs.get? k = some w → ∃ j : Nat, s.log[j]? = some ⟨.capture, k, w⟩
  kept : ∀ (j : Nat) k w, s.log[j]? = some ⟨.capture, k, w⟩ → (s.graphs.get? k).isSome

variable {key work modeOf}

/-- What serving a request adds. -/
theorem serve_ok {s s' : Server κ ω} {r : ρ} (h : s.serve key work modeOf r = .ok s') :
    ∃ k done, key r = .ok k ∧
      doneFor work r (modeOf r (s.graphs.get? k).isSome) (s.graphs.get? k) = .ok done ∧
      s'.graphs = (if modeOf r (s.graphs.get? k).isSome = .capture then s.graphs.set k done else s.graphs) ∧
      s'.log = s.log ++ [⟨modeOf r (s.graphs.get? k).isSome, k, done⟩] := by
  obtain ⟨k, hk, h⟩ := Fallible.bind_eq_ok.1 h
  obtain ⟨done, hdone, h⟩ := Fallible.bind_eq_ok.1 h
  cases h
  exact ⟨k, done, hk, hdone, rfl, rfl⟩

theorem doneFor_of_ne {r : ρ} {mode : RunMode} {recorded : Option ω} (h : mode ≠ .replay) :
    doneFor work r mode recorded = work r := by
  unfold doneFor
  split
  · exact absurd rfl h
  · rfl

theorem doneFor_error {r : ρ} {mode : RunMode} {recorded : Option ω} {e : String}
    (h : doneFor work r mode recorded = .error e) : work r = .error e := by
  unfold doneFor at h
  split at h
  · cases h
  · exact h

/-- What was done is the request's own work or the recording. -/
theorem doneFor_ok {r : ρ} {mode : RunMode} {recorded : Option ω} {w : ω}
    (h : doneFor work r mode recorded = .ok w) :
    work r = .ok w ∨ recorded = some w := by
  unfold doneFor at h
  split at h
  · exact .inr (congrArg some (Except.ok.inj h))
  · exact .inl h

section Modes
variable {s : Server κ ω} {r : ρ} {k : κ} {mode : RunMode} (hk : key r = .ok k)
  (hm : modeOf r (s.graphs.get? k).isSome = mode)
include hk hm

/-- A request that is neither recorded nor replayed. -/
theorem serve_forward (hreplay : mode ≠ .replay) (hcapture : mode ≠ .capture) :
    s.serve key work modeOf r = work r >>= fun w => .ok ⟨s.graphs, s.log ++ [⟨mode, k, w⟩]⟩ := by
  unfold Server.serve
  rw [hk, Fallible.ok_bind]
  simp only [hm, doneFor_of_ne hreplay, if_neg hcapture]
  rfl

theorem serve_capture (hmode : mode = .capture) :
    s.serve key work modeOf r = work r >>= fun w =>
      .ok ⟨s.graphs.set k w, s.log ++ [⟨.capture, k, w⟩]⟩ := by
  subst hmode
  have hreplay : RunMode.capture ≠ .replay := RunMode.noConfusion
  unfold Server.serve
  rw [hk, Fallible.ok_bind]
  simp only [hm, doneFor_of_ne hreplay, if_true]
  rfl

theorem serve_replay (hmode : mode = .replay) {w : ω} (hw : s.graphs.get? k = some w) :
    s.serve key work modeOf r = .ok ⟨s.graphs, s.log ++ [⟨.replay, k, w⟩]⟩ := by
  subst hmode
  unfold Server.serve
  rw [hk, Fallible.ok_bind]
  simp only [hm]
  rw [hw]
  rfl

end Modes

/-- A request is not served only when its key or its work fails. -/
theorem serve_error {s : Server κ ω} {r : ρ} {e : String} (h : s.serve key work modeOf r = .error e) :
    key r = .error e ∨ work r = .error e := by
  unfold Server.serve at h
  cases hk : key r with
  | error e' =>
    rw [hk] at h
    cases h
    exact .inl rfl
  | ok k =>
    rw [hk, Fallible.ok_bind] at h
    dsimp only at h
    cases hdone : doneFor work r (modeOf r (s.graphs.get? k).isSome) (s.graphs.get? k) with
    | error e' =>
      rw [hdone] at h
      cases h
      exact .inr (doneFor_error hdone)
    | ok done =>
      rw [hdone] at h
      cases h

theorem getElem?_snoc {α : Type} {l : List α} {x y : α} {i : Nat} (h : (l ++ [x])[i]? = some y) :
    l[i]? = some y ∨ (i = l.length ∧ y = x) := by
  rcases lt_trichotomy i l.length with hlt | rfl | hgt
  · rw [List.getElem?_append_left hlt] at h
    exact .inl h
  · rw [List.getElem?_concat_length] at h
    exact .inr ⟨rfl, (Option.some.inj h).symm⟩
  · rw [List.getElem?_eq_none (by rw [List.length_append, List.length_singleton]; omega)] at h
    cases h

theorem getElem?_append_of_some {α : Type} {l : List α} {x y : α} {i : Nat} (h : l[i]? = some y) :
    (l ++ [x])[i]? = some y := by
  obtain ⟨hlt, -⟩ := List.getElem?_eq_some_iff.1 h
  rw [List.getElem?_append_left hlt, h]

omit [DecidableEq κ] in
/-- What was recorded before a place does not depend on what comes later. -/
theorem recordedBefore_append {log : List (Execution κ ω)} {x : Execution κ ω} {i : Nat}
    (hi : i ≤ log.length) (k : κ) :
    RecordedBefore (log ++ [x]) i k ↔ RecordedBefore log i k := by
  constructor
  · rintro ⟨j, hj, w, h⟩
    rw [List.getElem?_append_left (by omega)] at h
    exact ⟨j, hj, w, h⟩
  · rintro ⟨j, hj, w, h⟩
    exact ⟨j, hj, w, getElem?_append_of_some h⟩

/-- The cache has a recording of a key exactly when the log has one. -/
theorem Recorded.isSome_iff {s : Server κ ω} (h : Recorded s) (k : κ) :
    (s.graphs.get? k).isSome = true ↔ RecordedBefore s.log s.log.length k := by
  constructor
  · intro hk
    obtain ⟨w, hw⟩ := Option.isSome_iff_exists.1 hk
    obtain ⟨j, hj⟩ := h.captured k w hw
    obtain ⟨hlt, -⟩ := List.getElem?_eq_some_iff.1 hj
    exact ⟨j, hlt, w, hj⟩
  · rintro ⟨j, -, w, hj⟩
    exact h.kept j k w hj

theorem Recorded.serve {s s' : Server κ ω} (h : Recorded s) {r : ρ}
    (hserve : s.serve key work modeOf r = .ok s') :
    Recorded s' := by
  obtain ⟨k', done, -, -, hgraphs, hlog⟩ := serve_ok hserve
  by_cases hmode : modeOf r (s.graphs.get? k').isSome = .capture
  · rw [if_pos hmode] at hgraphs
    rw [hmode] at hlog
    refine ⟨?_, ?_⟩ <;> rw [hgraphs, hlog]
    · intro k w hk
      rw [Dict.get?_set] at hk
      split at hk
      · rename_i hkey
        refine ⟨s.log.length, ?_⟩
        rw [List.getElem?_concat_length, hkey, Option.some.inj hk]
      · obtain ⟨j, hj⟩ := h.captured k w hk
        exact ⟨j, getElem?_append_of_some hj⟩
    · intro j k w hj
      rw [Dict.get?_set]
      split
      · rfl
      · rename_i hne
        rcases getElem?_snoc hj with hold | ⟨-, hnew⟩
        · exact h.kept j k w hold
        · exact absurd (congrArg Execution.key hnew) hne
  · rw [if_neg hmode] at hgraphs
    refine ⟨?_, ?_⟩ <;> rw [hgraphs, hlog]
    · intro k w hk
      obtain ⟨j, hj⟩ := h.captured k w hk
      exact ⟨j, getElem?_append_of_some hj⟩
    · intro j k w hj
      rcases getElem?_snoc hj with hold | ⟨-, hnew⟩
      · exact h.kept j k w hold
      · exact absurd (congrArg Execution.mode hnew).symm hmode

/-! ## Runs -/

/-- What was recorded under a key is the work of each request with that key. -/
theorem Serves.recorded {s : Server κ ω} {requests : List ρ} (hrec : Recorded s)
    (h : Serves key work modeOf requests s.log) {r : ρ} {k : κ}
    (hkey : ∀ q ∈ requests, key q = .ok k → work q = work r) {w : ω} (hw : s.graphs.get? k = some w) :
    work r = .ok w := by
  obtain ⟨j, hj⟩ := hrec.captured _ _ hw
  obtain ⟨hlt, -⟩ := List.getElem?_eq_some_iff.1 hj
  have hlen : j < requests.length := h.length ▸ hlt
  obtain ⟨mode, k', w', hk', hw', hlog, -⟩ := h.own j _ (List.getElem?_eq_getElem hlen)
  rw [hj] at hlog
  injection hlog with hlog
  injection hlog with hm hkey' hwork
  rw [hwork, ← hw']
  exact (hkey _ (List.getElem_mem _) (by rw [hk', hkey'])).symm

/-- One more request, when the requests so far with its key need its work. -/
theorem Serves.serve {s s' : Server κ ω} {requests : List ρ} (hrec : Recorded s)
    (h : Serves key work modeOf requests s.log) {r : ρ}
    (hkey : ∀ q ∈ requests, ∀ k, key q = .ok k → key r = .ok k → work q = work r)
    (hmode : modeOf r false ≠ .replay) (hserve : s.serve key work modeOf r = .ok s') :
    Serves key work modeOf (requests ++ [r]) s'.log := by
  obtain ⟨k, done, hk, hdone, -, hlog⟩ := serve_ok hserve
  have hsame : ∀ w, s.graphs.get? k = some w → work r = .ok w := fun w =>
    h.recorded hrec fun q hq hqk => hkey q hq k hqk hk
  have hwork : work r = .ok done := (doneFor_ok hdone).elim id (hsame done)
  rw [hlog]
  refine ⟨?_, ?_, ?_⟩
  · rw [List.length_append, List.length_append, h.length]
    rfl
  · intro i q hq
    rcases getElem?_snoc hq with hold | ⟨rfl, rfl⟩
    · obtain ⟨mode, k', w', hk', hw', hi, cached, hcached, hm⟩ := h.own i q hold
      obtain ⟨hlt, -⟩ := List.getElem?_eq_some_iff.1 hi
      refine ⟨mode, k', w', hk', hw', getElem?_append_of_some hi, cached, ?_, hm⟩
      rw [hcached, recordedBefore_append (Nat.le_of_lt hlt)]
    · refine ⟨_, k, done, hk, hwork, by rw [← h.length, List.getElem?_concat_length], _, ?_, rfl⟩
      rw [hrec.isSome_iff, recordedBefore_append (by rw [h.length]), h.length]
  · intro i k' w hi
    rcases getElem?_snoc hi with hold | ⟨rfl, hnew⟩
    · obtain ⟨j, hj, hcap⟩ := h.replay i k' w hold
      exact ⟨j, hj, getElem?_append_of_some hcap⟩
    · injection hnew with hm hk' hw
      cases hg : s.graphs.get? k with
      | none =>
        rw [hg] at hm
        exact absurd hm.symm hmode
      | some w' =>
        obtain ⟨j, hj⟩ := hrec.captured _ _ hg
        obtain ⟨hlt, -⟩ := List.getElem?_eq_some_iff.1 hj
        refine ⟨j, hlt, ?_⟩
        rw [hk', hw, Except.ok.inj (hwork.symm.trans (hsame w' hg))]
        exact getElem?_append_of_some hj

theorem run_snoc (s : Server κ ω) (requests : List ρ) (r : ρ) :
    s.run key work modeOf (requests ++ [r]) = s.run key work modeOf requests >>= fun s =>
      s.serve key work modeOf r := by
  rw [Server.run, List.foldlM_append]
  refine congrArg (Except.bind _) (funext fun s => ?_)
  exact bind_pure _

/-- Every run serves its requests, when requests with one key need the same
work and only a recording is replayed. -/
theorem serves_run {requests : List ρ}
    (hkey : ∀ q ∈ requests, ∀ r ∈ requests, ∀ k, key q = .ok k → key r = .ok k → work q = work r)
    (hmode : ∀ r ∈ requests, modeOf r false ≠ .replay) {s : Server κ ω}
    (hrun : Server.run key work modeOf {} requests = .ok s) :
    Recorded s ∧ Serves key work modeOf requests s.log := by
  induction requests using List.reverseRecOn generalizing s with
  | nil =>
    cases hrun
    refine ⟨⟨?_, ?_⟩, rfl, ?_, ?_⟩
    · intro k w h
      cases h
    · intro j k w h
      cases h
    · intro i r h
      cases h
    · intro i k w h
      cases h
  | append_singleton requests r ih =>
    rw [run_snoc] at hrun
    obtain ⟨t, ht, hserve⟩ := Fallible.bind_eq_ok.1 hrun
    obtain ⟨hrec, hserves⟩ := ih
      (fun q hq r' hr' => hkey q (List.mem_append_left _ hq) r' (List.mem_append_left _ hr'))
      (fun q hq => hmode q (List.mem_append_left _ hq)) ht
    have hr : r ∈ requests ++ [r] := List.mem_append_right _ (List.mem_singleton_self r)
    exact ⟨hrec.serve hserve,
      hserves.serve hrec (fun q hq => hkey q (List.mem_append_left _ hq) r hr) (hmode r hr) hserve⟩

/-- A run that fails has served the requests before one whose key or work fails. -/
theorem run_stops {requests : List ρ} {s : Server κ ω} {e : String}
    (h : s.run key work modeOf requests = .error e) :
    ∃ done r rest, requests = done ++ r :: rest ∧ (∃ t, s.run key work modeOf done = .ok t) ∧
      (key r = .error e ∨ work r = .error e) := by
  induction requests generalizing s with
  | nil => cases h
  | cons r requests ih =>
    rw [Server.run, List.foldlM_cons] at h
    cases hserve : s.serve key work modeOf r with
    | error e' =>
      rw [hserve] at h
      cases h
      exact ⟨[], r, requests, rfl, ⟨s, rfl⟩, serve_error hserve⟩
    | ok t =>
      rw [hserve] at h
      obtain ⟨done, r', rest, rfl, ⟨u, hu⟩, hfails⟩ := ih h
      refine ⟨r :: done, r', rest, rfl, ⟨u, ?_⟩, hfails⟩
      rw [Server.run, List.foldlM_cons, hserve]
      exact hu

/-! ## Refinement -/

/-- What a worker's runs must be: one that handles all its requests serves
them, and one that fails does so at a request whose own key or work fails. -/
structure Served (key : ρ → Except String κ) (work : ρ → Except String ω) (modeOf : ρ → Bool → RunMode)
    (run : List ρ → Except String (List (Execution κ ω))) (requests : List ρ) : Prop where
  serves : ∀ log, run requests = .ok log → Serves key work modeOf requests log
  stops : ∀ e, run requests = .error e → ∃ done r rest, requests = done ++ r :: rest ∧
    (∃ log, run done = .ok log) ∧
    (key r = .error e ∨ work r = .error e)

section Refinement
variable {σ : Type} {handle : σ → ρ → Except String σ} {abs : σ → Server κ ω} {Inv : σ → Prop}
  {Ok : ρ → Prop} (hstep : ∀ s r, Inv s → Ok r → (handle s r).map abs = (abs s).serve key work modeOf r)
  (hinv : ∀ s r s', Inv s → handle s r = .ok s' → Inv s')
include hstep hinv

/-- A worker whose every step is a step of the server runs as the server does,
and fails where it fails. -/
theorem run_refines {requests : List ρ} (hok : ∀ r ∈ requests, Ok r) {s : σ} (hs : Inv s) :
    (requests.foldlM handle s).map abs = (abs s).run key work modeOf requests := by
  induction requests generalizing s with
  | nil => rfl
  | cons r requests ih =>
    rw [Server.run, List.foldlM_cons, List.foldlM_cons, ← hstep s r hs (hok r List.mem_cons_self)]
    cases h : handle s r with
    | error e => rfl
    | ok s' => exact ih (fun q hq => hok q (List.mem_cons_of_mem r hq)) (hinv s r s' hs h)

/-- Its runs from an empty cache serve their requests. -/
theorem served_of_refines {requests : List ρ} (hok : ∀ r ∈ requests, Ok r) {s : σ} (hs : Inv s)
    (hempty : abs s = {})
    (hkey : ∀ q ∈ requests, ∀ r ∈ requests, ∀ k, key q = .ok k → key r = .ok k → work q = work r)
    (hmode : ∀ r ∈ requests, modeOf r false ≠ .replay) :
    Served key work modeOf (fun rs => (rs.foldlM handle s).map fun t => (abs t).log) requests := by
  have hrun : ∀ rs : List ρ, (∀ r ∈ rs, Ok r) → (rs.foldlM handle s).map (fun t => (abs t).log) =
      (Server.run key work modeOf {} rs).map Server.log := by
    intro rs hrs
    rw [← hempty, ← run_refines hstep hinv hrs hs]
    cases rs.foldlM handle s with
    | error e => rfl
    | ok t => rfl
  refine ⟨?_, ?_⟩
  · intro log hlog
    rw [hrun requests hok] at hlog
    cases hserver : Server.run key work modeOf {} requests with
    | error e =>
      rw [hserver] at hlog
      cases hlog
    | ok t =>
      rw [hserver] at hlog
      cases hlog
      exact (serves_run hkey hmode hserver).2
  · intro e he
    rw [hrun requests hok] at he
    cases hserver : Server.run key work modeOf {} requests with
    | ok t =>
      rw [hserver] at he
      cases he
    | error e' =>
      rw [hserver] at he
      cases he
      obtain ⟨done, r, rest, rfl, ⟨t, ht⟩, hfails⟩ := run_stops hserver
      refine ⟨done, r, rest, rfl, ⟨t.log, ?_⟩, hfails⟩
      rw [hrun done fun q hq => hok q (List.mem_append_left _ hq), ht]
      rfl

end Refinement

end Serve

end AfdPlugin.GraphCache
