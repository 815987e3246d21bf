import AfdPlugin.Cam.MoeRound
/-!
# The Async CAM system

Every Attention rank repeats dispatch-send and combine-recv, every MoE rank repeats
dispatch-recv, its experts and combine-send, and nobody acknowledges anything: the
ranks meet in their windows only. The cores of all ranks take their steps in any
order. A core computes from what it has read itself, with the kernels' functions.

The kernels have room for their buffers in UB, and a MoE rank works on one stream: where
`async_ffn_two_stream` lets the next dispatch-recv begin before combine-send is done, the
ranks are not covered here. Nor is what follows the error return of dispatch-recv, after
which the runner goes on with outputs that nobody has written; batches whose experts fit
the receive capacity never come to it.
-/

namespace AfdPlugin.Cam

/-- What a deployment computes. -/
structure CamNet (V S F : Type) where
  sh : CamShape
  /-- Batch and layer of a rank, by round. -/
  batch : Nat → Nat → Batch V S
  layerIndex : Nat → Nat → Nat
  /-- What an expert of a layer computes for a row. -/
  expert : Nat → Nat → V → V
  ops : RowOps V S F
  /-- What a core's UB holds before, by round, rank and core. -/
  ubRow : Nat → Nat → Nat → V
  ub : Nat → Nat → Nat → CombineUb F

/-! ## Attention ranks -/

/-- What dispatch-send writes into its rank's region. -/
inductive RegionWrite (V : Type) where
  | token (i : Nat) (x : V)
  | addr (i v : Nat)
  /-- The batch info, without token number and marker. -/
  | header (layerIndex moePreTokenNum : Nat)
  | counts (expertRecvTokenNum : Nat → Nat)
  | chunkFlags
  | tokenNum (n : Nat)

def AttnRegion.write {V : Type} (g : AttnRegion V) : RegionWrite V → AttnRegion V
  | .token i x => { g with tokenStore := Function.update g.tokenStore i x }
  | .addr i v => { g with tokenAddr := Function.update g.tokenAddr i v }
  | .header layerIndex moePreTokenNum => { g with tokenNum := 0, marker := 0, layerIndex, moePreTokenNum }
  | .counts expertRecvTokenNum => { g with expertRecvTokenNum }
  | .chunkFlags => { g with chunkFlag := fun _ => 0 }
  | .tokenNum n => { g with tokenNum := n }

inductive AttnOp (V : Type) where
  | write (moeRankId : Nat) (w : RegionWrite V)
  /-- `LoadPreProcess`, and the start of `PreProcess`. -/
  | load
  | seed
  /-- One flag in the wait of combine-recv. -/
  | poll (i : Nat)
  | gather (row : Nat)
  | clear (moeRankId : Nat)

/-- The windows that combine-recv goes by, as far as a core has read them. -/
structure CombineView (V : Type) where
  loaded : AttnWindow V
  seeded : AttnWindow V
  ready : AttnWindow V

/-- Between two barriers: `ready` is before dispatch-send, `combine` is combine-recv up
to its last barrier. -/
inductive AttnPhase where
  | ready | send | announce | combine | clear
  deriving DecidableEq, Repr

/-- An Attention rank. `sent` and `collected` count its announcements to a MoE rank and
the flags of it that are cleared. -/
structure AttnRank (V : Type) where
  round : Nat
  phase : AttnPhase
  /-- The table of `PreProcess`. -/
  stat : Nat → Nat
  todo : Nat → List (AttnOp V)
  view : Nat → CombineView V
  window : AttnWindow V
  sent : Nat → Nat
  collected : Nat → Nat

section Attention
variable {V S F : Type} (net : CamNet V S F) (rank : Nat) (st : AttnRank V)

/-- The rows and address entries of a core. -/
def sendTodo (round rank : Nat) (stat : Nat → Nat) (aivId : Nat) : List (AttnOp V) :=
  let outcome := dispatchSend net.sh (net.batch round rank) ⟨true, true⟩ stat aivId
  (outcome.tokenWrites.map fun w => .write w.1.1 (.token w.1.2 (w.2.getD (net.ubRow round rank aivId)))) ++
    outcome.addrWrites.map fun w => .write w.1.1 (.addr w.1.2 w.2)

/-- `SetFlags` for one MoE rank. -/
def announceOps (layerIndex : Nat) (a : Announcement) : List (AttnOp V) :=
  [.write a.moeRankId (.header layerIndex a.moePrefixTokenNum),
    .write a.moeRankId (.counts a.expertRecvTokenNum), .write a.moeRankId .chunkFlags,
    .write a.moeRankId (.tokenNum a.tokenNum)]

def announceTodo (round rank : Nat) (stat : Nat → Nat) (aivId : Nat) : List (AttnOp V) :=
  (setFlags net.sh (coreStart net.sh (net.sh.statAt stat) aivId) aivId).flatMap
    (announceOps (net.layerIndex round rank))

/-- What a core of combine-recv computes from what it has read. -/
def AttnRank.outcome (aivId : Nat) : CombineOutcome V :=
  let b := net.batch st.round rank
  let view := st.view aivId
  (combineRecv net.sh b net.ops ⟨true, true⟩ (b.useDispatchPrefix net.sh) (net.ub st.round rank aivId)
    view.loaded view.seeded view.ready aivId).getD ⟨[], [], []⟩

/-- The outputs of combine-recv. -/
def AttnRank.xOut : List (Nat × V) :=
  (List.range net.sh.attnAivNum).flatMap fun aivId => (st.outcome net rank aivId).xOut

def clearTodo (aivId : Nat) : List (AttnOp V) :=
  if aivId = 0 then (List.range net.sh.moeRankNum).map .clear else []

/-- `PreProcess` of dispatch-send has left `mem` in the rank's own window. -/
def AttnRank.begin (mem : Nat → Nat) : AttnRank V :=
  { st with
    phase := .send
    stat := mem
    window := { st.window with word := mem }
    todo := sendTodo net st.round rank mem }

/-- Past the barrier. -/
def AttnRank.next : AttnRank V :=
  match st.phase with
  | .ready => st
  | .send => { st with phase := .announce, todo := announceTodo net st.round rank st.stat }
  | .announce => { st with phase := .combine, todo := fun _ => [.load, .seed, .poll 0] }
  | .combine => { st with phase := .clear, todo := clearTodo net }
  | .clear => { st with phase := .ready, round := st.round + 1, todo := fun _ => [] }

/-- What a core does to its own rank. -/
def AttnRank.op (aivId : Nat) (rest : List (AttnOp V)) : AttnOp V → AttnRank V
  | .write moeRankId w =>
    { st with
      todo := Function.update st.todo aivId rest
      sent := match w with
        | .tokenNum _ => Function.update st.sent moeRankId (st.sent moeRankId + 1)
        | _ => st.sent }
  | .load =>
    { st with
      todo := Function.update st.todo aivId rest
      view := Function.update st.view aivId { st.view aivId with loaded := st.window } }
  | .seed =>
    { st with
      todo := Function.update st.todo aivId rest
      view := Function.update st.view aivId { st.view aivId with seeded := st.window } }
  | .poll i =>
    let word := net.sh.dispatchOffset + i
    let view := { st.view aivId with
      ready := { (st.view aivId).ready with
        word := Function.update (st.view aivId).ready.word word (st.window.word word) } }
    let polled : AttnRank V := { st with view := Function.update st.view aivId view }
    -- a flag that is not set sends the core back to the first one
    let ops : List (AttnOp V) :=
      if st.window.moeFlag net.sh i = 0 then [.poll 0]
      else if i + 1 < net.sh.moeRankNum then [.poll (i + 1)]
      else (polled.outcome net rank aivId).rows.map fun row => .gather row.2
    { polled with todo := Function.update st.todo aivId (ops ++ rest) }
  | .gather row =>
    let view := { st.view aivId with
      ready := { (st.view aivId).ready with
        row := Function.update (st.view aivId).ready.row row (st.window.row row) } }
    { st with todo := Function.update st.todo aivId rest, view := Function.update st.view aivId view }
  | .clear moeRankId =>
    { st with
      todo := Function.update st.todo aivId rest
      window := st.window.write net.sh (.flag moeRankId 0)
      collected := Function.update st.collected moeRankId (st.collected moeRankId + 1) }

end Attention

/-! ## MoE ranks -/

inductive MoeOp (V : Type) where
  /-- Where the search begins. -/
  | start
  /-- The search of core 0 at the `j`-th rank of the `i`-th group. -/
  | probe (i j : Nat)
  | mark (tokenNum : Nat)
  /-- The search of the other cores at the `i`-th group. -/
  | follow (i : Nat)
  | count (tpIndex : Nat)
  | flags
  /-- Batch info, counts and address entries of a rank of the group. -/
  | enter (tpIndex : Nat)
  | copy (tpIndex row moeTokenSendIdx : Nat)
  | chunkFlags (tpIndex : Nat)
  /-- `ClearFlags`, after its barrier. -/
  | clearHeader (tpIndex : Nat)
  /-- The outputs, and where the next search begins. -/
  | record
  | put (rank : Nat) (w : CombineWrite V)

/-- A core of a MoE rank, with what it has read of the window. -/
structure MoeCore (V : Type) where
  todo : List (MoeOp V)
  view : MoeWindow V
  tpAttnRankId : Nat
  layerIndex : Nat
  /-- `tpExpertRecvTokenNumTensor_`. -/
  tensor : Nat → Nat
  startExpert : Nat
  endExpert : Nat

/-- `rows k` are the copies of dispatch-recv after `k` more barriers. -/
inductive MoePhase where
  | search | rows (k : Nat) | returns | flags
  deriving DecidableEq, Repr

/-- One call of dispatch-recv. -/
structure RecvCall where
  tpAttnRankId : Nat
  startExpert : Nat
  endExpert : Nat
  deriving DecidableEq, Repr

/-- A MoE rank with its device memory. `taken` and `returned` count the dispatches of a
rank that are cleared and the flags set at it; `calls` are the ended calls. -/
structure MoeRank (V : Type) where
  phase : MoePhase
  core : Nat → MoeCore V
  window : MoeWindow V
  chunk : RecvChunk V
  taken : Nat → Nat
  returned : Nat → Nat
  calls : List RecvCall

/-- A region in which each row is its own number. -/
def AttnRegion.rowNumbers {V : Type} (g : AttnRegion V) : AttnRegion Nat :=
  ⟨g.toSlot, g.layerIndex, g.moePreTokenNum, id, g.tokenAddr⟩

/-- A window with one region changed. -/
def MoeWindow.setRegion {V : Type} (w : MoeWindow V) (rank : Nat) (g : AttnRegion V) : MoeWindow V :=
  { w with region := Function.update w.region rank g }

def MoeRank.setCore {V : Type} (st : MoeRank V) (aivId : Nat) (k : MoeCore V) : MoeRank V :=
  { st with core := Function.update st.core aivId k }

section Moe
variable {V S F : Type} (net : CamNet V S F) (moeRankId : Nat) (st : MoeRank V)

def MoeCore.isLast (k : MoeCore V) : Bool := k.endExpert = net.sh.expertNumPerMoe - 1

/-- After the search. -/
def countTodo : List (MoeOp V) := (List.range net.sh.tpSize).map .count ++ [.flags]

/-- `DispatchRecvRouted` for one rank of the group, up to `ClearFlags`. -/
def rankTodo (V : Type) (aivId tpIndex : Nat) : List (MoeOp V) :=
  .enter tpIndex :: if aivId = 0 then [.chunkFlags tpIndex] else []

/-- What a core does after `k` barriers of `ClearFlags`. There are none unless the chunk
has the last expert. -/
def MoeCore.rowsTodo (c : MoeCore V) (aivId k : Nat) : List (MoeOp V) :=
  if c.isLast net then
    (if aivId = 0 ∧ 0 < k then [.clearHeader (k - 1)] else []) ++
      if k < net.sh.tpSize then rankTodo V aivId k else if aivId = 0 then [.record] else []
  else ((List.range net.sh.tpSize).flatMap (rankTodo V aivId)) ++ if aivId = 0 then [.record] else []

/-- Barriers of `ClearFlags` that a core takes part in. -/
def MoeCore.barriers (c : MoeCore V) : Nat := if c.isLast net then net.sh.tpSize else 0

/-- The expert outputs of a chunk. -/
def MoeRank.expertOut : Nat → V :=
  groupedRows net.sh st.chunk.epRecvCountRouted
    (fun e => net.expert (st.chunk.batchInfo 2) (net.sh.expertNumPerMoe * moeRankId + e))
    st.chunk.expandXOut

/-- A phase with the operations of its cores. -/
def MoeRank.enterPhase (phase : MoePhase) (todo : Nat → List (MoeOp V)) : MoeRank V :=
  { st with phase, core := fun aivId => { st.core aivId with todo := todo aivId } }

/-- Past the barrier; the ends of the kernels are barriers too. `none`: the cores wait
at different ones. -/
def MoeRank.next : Option (MoeRank V) :=
  let info := st.chunk.batchInfo
  match st.phase with
  | .search => some (st.enterPhase (.rows 0) fun aivId => (st.core aivId).rowsTodo net aivId 0)
  | .rows k =>
    if ∀ aivId < net.sh.moeAivNum, k < (st.core aivId).barriers net then
      some (st.enterPhase (.rows (k + 1)) fun aivId => (st.core aivId).rowsTodo net aivId (k + 1))
    else if ∀ aivId < net.sh.moeAivNum, (st.core aivId).barriers net = k then
      some { st.enterPhase .returns fun aivId =>
          (combineSendRows net.sh info (st.expertOut net moeRankId) aivId).map fun w => .put w.1 w.2 with
        calls := st.calls ++ [⟨info 1, info 3, info 4⟩] }
    else none
  | .returns =>
    some (st.enterPhase .flags fun aivId => (combineSendFlags net.sh V info moeRankId aivId).map
      fun w => .put w.1 w.2)
  | .flags => some (st.enterPhase .search fun _ => [.start])

/-- What a core does to its own rank. `none` is the error return of dispatch-recv: no
expert of the group fits, the kernel ends without its outputs, and no step models how the
rank goes on. -/
def MoeRank.op (aivId : Nat) (rest : List (MoeOp V)) : MoeOp V → Option (MoeRank V)
  | .start =>
    let c := st.core aivId
    let search := if aivId = 0 then .probe 0 net.sh.tpSize else .follow 0
    some (st.setCore aivId { c with
      view := { c.view with lastAttn := st.window.lastAttn }, todo := search :: rest })
  | .probe i j =>
    let c := st.core aivId
    let srcRankId := (c.view.lastAttn + (net.sh.tpSize * i + j - 1)) % net.sh.attnRankNum
    let g := st.window.region srcRankId
    if g.tokenNum = 0 then
      some (st.setCore aivId { c with
        todo := .probe ((i + 1) % (net.sh.attnRankNum / net.sh.tpSize)) net.sh.tpSize :: rest })
    else if 1 < j then some (st.setCore aivId { c with todo := .probe i (j - 1) :: rest })
    else
      some (st.setCore aivId { c with
        tpAttnRankId := (c.view.lastAttn + net.sh.tpSize * i) % net.sh.attnRankNum
        layerIndex := g.layerIndex
        todo := .mark g.tokenNum :: rest })
  | .mark tokenNum =>
    let c := st.core aivId
    let g := st.window.region c.tpAttnRankId
    some { st.setCore aivId { c with todo := countTodo net ++ rest } with
      window := st.window.setRegion c.tpAttnRankId { g with marker := tokenNum } }
  | .follow i =>
    let c := st.core aivId
    let srcRankId := (c.view.lastAttn + net.sh.tpSize * i) % net.sh.attnRankNum
    let g := st.window.region srcRankId
    if g.marker = 0 then
      some (st.setCore aivId { c with
        todo := .follow ((i + 1) % (net.sh.attnRankNum / net.sh.tpSize)) :: rest })
    else some (st.setCore aivId { c with
      tpAttnRankId := srcRankId, layerIndex := g.layerIndex, todo := countTodo net ++ rest })
  | .count tpIndex =>
    let c := st.core aivId
    let rank := c.tpAttnRankId + tpIndex
    let g := { c.view.region rank with expertRecvTokenNum := (st.window.region rank).expertRecvTokenNum }
    some (st.setCore aivId { c with view := c.view.setRegion rank g, todo := rest })
  | .flags =>
    let c := st.core aivId
    let g := { c.view.region c.tpAttnRankId with chunkFlag := (st.window.region c.tpAttnRankId).chunkFlag }
    let view := c.view.setRegion c.tpAttnRankId g
    let tensor := groupCounts net.sh view c.tpAttnRankId
    (selectChunk net.sh.expertNumPerMoe net.sh.maxTokenNum g.chunkFlag tensor).map fun chunk =>
      st.setCore aivId { c with view, tensor, startExpert := chunk.1, endExpert := chunk.2, todo := rest }
  | .enter tpIndex =>
    let c := st.core aivId
    let rank := c.tpAttnRankId + tpIndex
    let found := st.window.region rank
    let g := { c.view.region rank with
      moePreTokenNum := found.moePreTokenNum
      expertRecvTokenNum := found.expertRecvTokenNum
      tokenAddr := found.tokenAddr }
    let copies := dispatchRecvRouted net.sh c.tensor g.rowNumbers c.startExpert c.endExpert aivId
    some (st.setCore aivId { c with
      view := c.view.setRegion rank g
      tensor := addReceived net.sh c.startExpert c.endExpert g.expertRecvTokenNum c.tensor
      todo := copies.map (fun copy => .copy tpIndex copy.1 copy.2) ++ rest })
  | .copy tpIndex row moeTokenSendIdx =>
    let c := st.core aivId
    let x := (st.window.region (c.tpAttnRankId + tpIndex)).tokenStore moeTokenSendIdx
    some { st.setCore aivId { c with todo := rest } with
      chunk := { st.chunk with expandXOut := Function.update st.chunk.expandXOut row x } }
  | .chunkFlags tpIndex =>
    let c := st.core aivId
    let rank := c.tpAttnRankId + tpIndex
    let chunkFlag := markRead (c.view.region c.tpAttnRankId).chunkFlag c.endExpert
    some { st.setCore aivId { c with todo := rest } with
      window := st.window.setRegion rank { st.window.region rank with chunkFlag } }
  | .clearHeader tpIndex =>
    let c := st.core aivId
    let rank := c.tpAttnRankId + tpIndex
    some { st.setCore aivId { c with todo := rest } with
      window := st.window.setRegion rank
        { st.window.region rank with tokenNum := 0, marker := 0, layerIndex := 0, moePreTokenNum := 0 }
      taken := Function.update st.taken rank (st.taken rank + 1) }
  | .record =>
    let c := st.core aivId
    let info := tpBatchInfo net.sh c.view c.tpAttnRankId c.startExpert c.endExpert
    some { st.setCore aivId { c with todo := rest } with
      chunk := { st.chunk with
        batchInfo := fun k => if k = 2 then c.layerIndex else info k
        epRecvCountRouted := fun i => c.tensor (net.sh.expertNumPerMoe + i) }
      window := { st.window with
        lastAttn := if c.isLast net then (c.tpAttnRankId + net.sh.tpSize) % net.sh.attnRankNum
          else c.tpAttnRankId } }
  | .put _ _ => none

/-- A write of combine-send, seen from the MoE rank. -/
def MoeRank.put (aivId : Nat) (rest : List (MoeOp V)) (rank : Nat) (w : CombineWrite V) : MoeRank V :=
  { st.setCore aivId { st.core aivId with todo := rest } with
    returned := match w with
      | .flag _ _ => Function.update st.returned rank (st.returned rank + 1)
      | .row _ _ => st.returned }

end Moe

/-! ## The system -/

structure CamSystem (V : Type) where
  attn : Nat → AttnRank V
  moe : Nat → MoeRank V

namespace CamSystem
variable {V S F : Type} (net : CamNet V S F) (s : CamSystem V)

def setAttn (rank : Nat) (st : AttnRank V) : CamSystem V :=
  { s with attn := Function.update s.attn rank st }

def setMoe (moeRankId : Nat) (st : MoeRank V) : CamSystem V :=
  { s with moe := Function.update s.moe moeRankId st }

/-- A write of an Attention rank lands in its region. -/
def land (rank : Nat) : AttnOp V → CamSystem V
  | .write moeRankId w =>
    let st := s.moe moeRankId
    s.setMoe moeRankId { st with window := st.window.setRegion rank ((st.window.region rank).write w) }
  | _ => s

/-- One step of a core, or of all cores of a rank past a barrier. -/
inductive Step : CamSystem V → CamSystem V → Prop
  | begin {s : CamSystem V} {rank : Nat} {mem : Nat → Nat} (hrank : rank < net.sh.attnRankNum)
      (hphase : (s.attn rank).phase = .ready)
      (hmem : PreProcessed net.sh (net.batch (s.attn rank).round rank) (s.attn rank).window.word mem) :
      Step s (s.setAttn rank ((s.attn rank).begin net rank mem))
  /-- The rows and address entries of a core may arrive in any order. -/
  | send {s : CamSystem V} {rank aivId : Nat} {op : AttnOp V} {before after : List (AttnOp V)}
      (hrank : rank < net.sh.attnRankNum) (haiv : aivId < net.sh.attnAivNum)
      (hphase : (s.attn rank).phase = .send)
      (htodo : (s.attn rank).todo aivId = before ++ op :: after) :
      Step s ((s.setAttn rank ((s.attn rank).op net rank aivId (before ++ after) op)).land rank op)
  | attn {s : CamSystem V} {rank aivId : Nat} {op : AttnOp V} {rest : List (AttnOp V)}
      (hrank : rank < net.sh.attnRankNum) (haiv : aivId < net.sh.attnAivNum)
      (hphase : (s.attn rank).phase ≠ .send) (htodo : (s.attn rank).todo aivId = op :: rest) :
      Step s ((s.setAttn rank ((s.attn rank).op net rank aivId rest op)).land rank op)
  | attnNext {s : CamSystem V} {rank : Nat} (hrank : rank < net.sh.attnRankNum)
      (hphase : (s.attn rank).phase ≠ .ready)
      (htodo : ∀ aivId < net.sh.attnAivNum, (s.attn rank).todo aivId = []) :
      Step s (s.setAttn rank ((s.attn rank).next net rank))
  | moe {s : CamSystem V} {moeRankId aivId : Nat} {op : MoeOp V} {rest : List (MoeOp V)}
      {st : MoeRank V} (hmoe : moeRankId < net.sh.moeRankNum) (haiv : aivId < net.sh.moeAivNum)
      (htodo : ((s.moe moeRankId).core aivId).todo = op :: rest)
      (hop : (s.moe moeRankId).op net aivId rest op = some st) : Step s (s.setMoe moeRankId st)
  | put {s : CamSystem V} {moeRankId aivId rank : Nat} {w : CombineWrite V} {rest : List (MoeOp V)}
      (hmoe : moeRankId < net.sh.moeRankNum) (haiv : aivId < net.sh.moeAivNum)
      (htodo : ((s.moe moeRankId).core aivId).todo = .put rank w :: rest) :
      Step s ((s.setMoe moeRankId ((s.moe moeRankId).put aivId rest rank w)).setAttn rank
        { s.attn rank with window := (s.attn rank).window.write net.sh w })
  | moeNext {s : CamSystem V} {moeRankId : Nat} {st : MoeRank V} (hmoe : moeRankId < net.sh.moeRankNum)
      (htodo : ∀ aivId < net.sh.moeAivNum, ((s.moe moeRankId).core aivId).todo = [])
      (hnext : (s.moe moeRankId).next net moeRankId = some st) : Step s (s.setMoe moeRankId st)

/-- Before the first round: the windows' flags are zero, their rows are arbitrary. -/
structure Start : Prop where
  attn : ∀ rank < net.sh.attnRankNum, let st := s.attn rank
    st.round = 0 ∧ st.phase = .ready ∧ (∀ aivId, st.todo aivId = []) ∧
      ∀ m < net.sh.moeRankNum, st.window.moeFlag net.sh m = 0 ∧ st.sent m = 0 ∧ st.collected m = 0
  moe : ∀ m < net.sh.moeRankNum, let st := s.moe m
    st.phase = .search ∧ (∀ aivId, (st.core aivId).todo = [.start]) ∧ st.window.lastAttn = 0 ∧
      st.calls = [] ∧
      ∀ rank < net.sh.attnRankNum, (st.window.region rank).tokenNum = 0 ∧
        (st.window.region rank).marker = 0 ∧
        st.taken rank = 0 ∧ st.returned rank = 0

/-- The states of all interleavings. -/
inductive Reachable : CamSystem V → Prop
  | start {s : CamSystem V} : s.Start net → Reachable s
  | step {s s' : CamSystem V} : Reachable s → s.Step net s' → Reachable s'

end CamSystem

end AfdPlugin.Cam
