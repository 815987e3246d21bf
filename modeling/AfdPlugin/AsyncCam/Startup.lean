import Mathlib.Data.List.Dedup
import Mathlib.Logic.Function.Basic

/-! The host-only startup protocol of Async CAM: ranks negotiate the FFN mode and
pass phases over a shared key-value store. -/

namespace AfdPlugin.AsyncCamStartup

/-! ## Plans -/

structure FFNGraphPlan where
  requested : String
  graphError : String
  signature : String
  layerIds : List Nat
  streamSignature : String
  streamError : String
  deriving DecidableEq

/-- `FFNGraphPlan()` -/
def FFNGraphPlan.default : FFNGraphPlan := ⟨"eager", "", "", [], "", ""⟩

/-- `len(set(xs)) == 1` -/
def allEqual {α : Type} [DecidableEq α] (xs : List α) : Bool := xs.dedup.length == 1

def resolveFfnMode (plans : List FFNGraphPlan) : Except String String :=
  match plans with
  | [] => .error "All FFN ranks must request the same execution mode"
  | first :: _ =>
    if !allEqual (plans.map (·.requested)) then .error "All FFN ranks must request the same execution mode"
    else if !allEqual (plans.map (·.streamSignature)) then
      .error "FFN two-stream execution signatures differ across ranks"
    else
      let streamErrors := (plans.map (·.streamError)).filter (· ≠ "")
      if streamErrors ≠ [] then
        .error ("Async FFN two-stream is unsupported: " ++ String.intercalate "; " streamErrors)
      else if first.requested = "eager" ∧ first.streamSignature = "" then .ok "eager"
      else if first.requested ≠ "eager" ∧ first.requested ≠ "full" then
        .error "Unknown Async FFN execution mode"
      else
        let execution := if first.requested = "full" then "FULL" else "two-stream"
        let graphErrors := (plans.map (·.graphError)).filter (· ≠ "")
        let differ := ((plans.filter (·.graphError = "")).map (·.signature)).dedup.length > 1
        let errors := graphErrors ++ if differ then ["FFN graph signatures differ across ranks"] else []
        if errors ≠ [] then
          .error ("Async FFN " ++ execution ++ " is unsupported: " ++ String.intercalate "; "
            errors.eraseDups)
        else if first.signature = "" ∨ first.layerIds = [] then
          .error ("Async FFN " ++ execution ++ " requires a loaded executor signature")
        else if !allEqual (plans.map (·.layerIds)) then .error "Async FFN layer tables differ across ranks"
        else .ok first.requested

/-- What a rank publishes for the negotiation; Attention ranks have no FFN plan. -/
structure PlanEntry where
  transport : String
  ffn : Option FFNGraphPlan

/-- What a negotiation decides. -/
structure Agreed where
  mode : String
  twoStream : Bool
  warmupLayerId : Option Nat

/-- `_negotiate` from the entries it has read, up to the streams' own phase. -/
def resolveEntries (attnSize : Nat) (entries : List PlanEntry) : Except String Agreed := do
  let plans ← (entries.drop attnSize).mapM fun entry =>
    match entry.ffn with
    | some plan => .ok plan
    | none => .error "'NoneType' object is not subscriptable"
  let mode ← resolveFfnMode plans
  let ffnPlan := plans.headD .default
  let twoStream := ffnPlan.streamSignature ≠ ""
  if (mode = "full" ∨ twoStream) ∧ !allEqual (entries.map (·.transport)) then
    .error "Async CAM graph transport signatures differ"
  else .ok ⟨mode, twoStream, if mode = "full" then ffnPlan.layerIds.head? else none⟩

/-! ## The store -/

inductive Stage where
  | plan | streamsValidated | validated | warmup | captured | service | error
  deriving DecidableEq

/-- `ffn_graph/nonce` and, under a rank's prefix, `stage/rank`. -/
inductive Key where
  | nonce
  | entry (pfx : Option String) (stage : Stage) (rank : Nat)
  deriving DecidableEq

inductive Value where
  | text (s : String)
  | plan (entry : PlanEntry)

/-- `value.decode()` -/
def Value.decode : Value → String
  | .text s => s
  | .plan entry => entry.transport

/-- The ranks of one startup and what they bring to it. -/
structure Config where
  attnSize : Nat
  ffnSize : Nat
  nonce : String
  transport : Nat → String
  plan : Nat → FFNGraphPlan

namespace Config
variable (c : Config)

def worldSize : Nat := c.attnSize + c.ffnSize

def entry (rank : Nat) : PlanEntry :=
  ⟨c.transport rank, if rank < c.attnSize then none else some (c.plan rank)⟩

/-- The value a rank publishes for a stage. -/
def value (rank : Nat) : Stage → Value
  | .plan => .plan (c.entry rank)
  | _ => .text "ready"

/-- Service readiness is the FFN ranks' alone. -/
def participants : Stage → List Nat
  | .service => List.range' c.attnSize c.ffnSize
  | _ => List.range c.worldSize

end Config

/-! ## A rank's course -/

inductive Action where
  | setNonce
  | getNonce
  | publish (stage : Stage)
  /-- `_wait`, next to look at the error of rank `seen`, or at the keys -/
  | poll (stage : Stage) (seen : Nat)
  /-- `_negotiate`, next to read the entry behind those -/
  | readPlans (entries : List PlanEntry)
  /-- `_negotiate` returns -/
  | negotiated (a : Agreed)
  /-- `check_failure`, next to look at the error of rank `seen` -/
  | checkFailure (seen : Nat)
  /-- validation, device work or the process group; nothing of it writes the store -/
  | work

def phase (stage : Stage) : List Action := [.publish stage, .poll stage 0]

def serviceReady : List Action := [.checkFailure 0, .publish .service]

def waitServiceReady : List Action := [.poll .service 0]

/-- `initialize` up to the decision of the negotiation. -/
def initializeOps (rank : Nat) : List Action :=
  (if rank = 0 then [.setNonce] else []) ++ [.getNonce, .publish .plan, .poll .plan 0, .readPlans []]

section Course
variable (c : Config) (rank : Nat) (a : Agreed)

/-- The rest of `_negotiate`. -/
def negotiate : List Action :=
  (if a.twoStream then (if rank < c.attnSize then [.work] else []) ++ phase .streamsValidated
    else []) ++ [.negotiated a]

/-- The rest of `_initialize_graph_startup`. -/
def initializeGraphStartup : List Action :=
  negotiate c rank a ++ if a.mode = "full" then .work :: phase .validated else []

/-- `_run_attention_graph_startup` -/
def runAttentionGraphStartup : List Action := .work :: phase .warmup ++ phase .captured ++ waitServiceReady

/-- The FFN's `initialize_afd_connector` behind its connector, and the first
`execute_connector_driven_step` of an executor with a graph or two streams. -/
def ffnGraphStartup : List Action :=
  (if a.mode = "full" then .work :: phase .warmup ++ .work :: phase .captured else []) ++
    if a.mode = "full" ∨ a.twoStream then .work :: serviceReady else []

/-- Everything behind the decision. -/
def startup : List Action :=
  initializeGraphStartup c rank a ++ .work :: if rank < c.attnSize then
    (if a.mode = "full" then runAttentionGraphStartup else []) else ffnGraphStartup a

end Course

inductive Status where
  | running
  /-- an exception is on its way to `fail` -/
  | failing (message : String)
  | failed
  deriving DecidableEq

/-- A rank: `published` and `passed` are the stages it has published and whose wait it has left. -/
structure Rank where
  pfx : Option String
  todo : List Action
  status : Status
  negotiated : Option Agreed
  published : List Stage
  passed : List Stage

structure World where
  store : Key → Option Value
  rank : Nat → Rank

/-- The rendezvous has made a new store. -/
def start : World := ⟨fun _ => none, fun r => ⟨none, initializeOps r, .running, none, [], []⟩⟩

namespace World

def setRank (w : World) (r : Nat) (k : Rank) : World := { w with rank := Function.update w.rank r k }

def put (w : World) (key : Key) (v : Value) : World :=
  { w with store := Function.update w.store key (some v) }

def raise (w : World) (r : Nat) (message : String) : World :=
  w.setRank r { w.rank r with status := .failing message }

def goto (w : World) (r : Nat) (todo : List Action) : World := w.setRank r { w.rank r with todo := todo }

end World

/-! ## Steps -/

/-- One step of rank `r`, by the action it is at. -/
inductive RankStep (c : Config) (r : Nat) (w : World) : World → Prop where
  | setNonce {rest} (h : (w.rank r).todo = .setNonce :: rest) :
      RankStep c r w ((w.put .nonce (.text c.nonce)).goto r rest)
  | getNonce {rest v} (h : (w.rank r).todo = .getNonce :: rest) (hv : w.store .nonce = some v) :
      RankStep c r w (w.setRank r { w.rank r with pfx := some v.decode, todo := rest })
  | publish {stage rest} (h : (w.rank r).todo = .publish stage :: rest) :
      RankStep c r w ((w.put (.entry (w.rank r).pfx stage r) (c.value r stage)).setRank r
        { w.rank r with todo := rest, published := (w.rank r).published ++ [stage] })
  -- `check_failure`, on its own and in `_wait`
  | noError {stage seen rest} (h : (w.rank r).todo = .poll stage seen :: rest) (hseen : seen < c.worldSize)
      (hv : w.store (.entry (w.rank r).pfx .error seen) = none) :
      RankStep c r w (w.goto r (.poll stage (seen + 1) :: rest))
  | errorSeen {stage seen rest v} (h : (w.rank r).todo = .poll stage seen :: rest)
      (hseen : seen < c.worldSize) (hv : w.store (.entry (w.rank r).pfx .error seen) = some v) :
      RankStep c r w (w.raise r v.decode)
  | checkedOne {seen rest} (h : (w.rank r).todo = .checkFailure seen :: rest) (hseen : seen < c.worldSize)
      (hv : w.store (.entry (w.rank r).pfx .error seen) = none) :
      RankStep c r w (w.goto r (.checkFailure (seen + 1) :: rest))
  | checked {rest} (h : (w.rank r).todo = .checkFailure c.worldSize :: rest) :
      RankStep c r w (w.goto r rest)
  | checkFails {seen rest v} (h : (w.rank r).todo = .checkFailure seen :: rest) (hseen : seen < c.worldSize)
      (hv : w.store (.entry (w.rank r).pfx .error seen) = some v) : RankStep c r w (w.raise r v.decode)
  -- the end of a round of `_wait`
  | passes {stage rest} (h : (w.rank r).todo = .poll stage c.worldSize :: rest)
      (hkeys : ∀ r' ∈ c.participants stage, w.store (.entry (w.rank r).pfx stage r') ≠ none) :
      RankStep c r w (w.setRank r { w.rank r with todo := rest, passed := (w.rank r).passed ++ [stage] })
  | pollAgain {stage rest} (h : (w.rank r).todo = .poll stage c.worldSize :: rest)
      (hkeys : ∃ r' ∈ c.participants stage, w.store (.entry (w.rank r).pfx stage r') = none) :
      RankStep c r w (w.goto r (.poll stage 0 :: rest))
  | timesOut {stage rest} (h : (w.rank r).todo = .poll stage c.worldSize :: rest)
      (hkeys : ∃ r' ∈ c.participants stage, w.store (.entry (w.rank r).pfx stage r') = none) :
      RankStep c r w (w.raise r "Async FFN graph handshake timed out; retain resources")
  -- the negotiation
  | readPlan {entries rest entry} (h : (w.rank r).todo = .readPlans entries :: rest)
      (hlt : entries.length < c.worldSize)
      (hv : w.store (.entry (w.rank r).pfx .plan entries.length) = some (.plan entry)) :
      RankStep c r w (w.goto r (.readPlans (entries ++ [entry]) :: rest))
  | resolves {entries rest a} (h : (w.rank r).todo = .readPlans entries :: rest)
      (hlen : entries.length = c.worldSize) (ha : resolveEntries c.attnSize entries = .ok a) :
      RankStep c r w (w.goto r (startup c r a ++ rest))
  | resolveFails {entries rest message} (h : (w.rank r).todo = .readPlans entries :: rest)
      (hlen : entries.length = c.worldSize) (ha : resolveEntries c.attnSize entries = .error message) :
      RankStep c r w (w.raise r message)
  | returns {a rest} (h : (w.rank r).todo = .negotiated a :: rest) :
      RankStep c r w (w.setRank r { w.rank r with todo := rest, negotiated := some a })
  | works {rest} (h : (w.rank r).todo = .work :: rest) : RankStep c r w (w.goto r rest)
  -- any other exception, anywhere
  | fails (message : String) : RankStep c r w (w.raise r message)

inductive Step (c : Config) (w : World) : World → Prop where
  | runs {v : World} (r : Nat) (hr : r < c.worldSize) (h : (w.rank r).status = .running)
      (hs : RankStep c r w v) : Step c w v
  -- `fail`
  | publishesError {message : String} (r : Nat) (hr : r < c.worldSize)
      (h : (w.rank r).status = .failing message) :
      Step c w ((w.put (.entry (w.rank r).pfx .error r) (.text message)).setRank r { w.rank r with
        status := .failed })
  -- the process dies, or the exception is raised outside the guarded parts
  | crashes (r : Nat) (hr : r < c.worldSize) : Step c w (w.setRank r { w.rank r with status := .failed })

inductive Steps (c : Config) (w : World) : World → Prop where
  | refl : Steps c w w
  | step {u v : World} : Steps c w u → Step c u v → Steps c w v

def Reachable (c : Config) (w : World) : Prop := Steps c start w

end AfdPlugin.AsyncCamStartup
