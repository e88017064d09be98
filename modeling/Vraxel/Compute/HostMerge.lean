import Vraxel.AgentGw.Register
import Vraxel.Compute.Create
/-
  The merge of a duplicate host into the one that it duplicates
  (`pkg/apis/compute/host_merge.go`), next to the channels that agents open.

  Each call of a store is one statement, `MoveBinding` as well. A call can fail with the text `fault`,
  and nothing is written then.
-/

namespace Vraxel.Compute

open Relational Api Db Txn Interleave AgentGw

/-- What fits the columns of a host. -/
abbrev ReportedFacts := { f : AgentHostFacts // firstViolation f.widths = .ok () }

structure MergeState where
  reg : RegState
  facts : Int → ReportedFacts
  removed : List HostAgentRow

namespace MergeState

variable (hostID id : Int) (s : MergeState)

def onHost (r : HostAgentRow) : Bool := r.hostID = hostID

def visible (sf : Filter) (h : HostRow) : Bool :=
  h.id = id && passes sf.workspaceID h.workspaceID && passes sf.namespaceID h.namespaceID

def getHost (id : Int) (sf : Filter) : Except Err (HostRow × ReportedFacts) :=
  match s.reg.db.hosts.find? (visible id sf) with
  | some h => .ok (h, s.facts id)
  | none => .error (RegState.hostNotFound id)

def agentNotFound : Err := .tagged ("host agent for host " ++ Strconv.formatInt hostID) .notFound

def getAgent (hostID : Int) : Except Err HostAgentRow :=
  match s.reg.agents.find? (onHost hostID) with
  | some r => .ok r
  | none => .error (agentNotFound hostID)

def moveTo (r : HostAgentRow) : HostAgentRow := { r with hostID := hostID }

def moved (fromHostID toHostID : Int) : MergeState :=
  { s with
    reg := { s.reg with
      agents := (s.reg.agents.delete (onHost toHostID)).update (onHost fromHostID) (moveTo toHostID) }
    removed := s.removed ++ s.reg.agents.select (onHost toHostID) }

def moveBinding (fromHostID toHostID : Int) : Except Err (Unit × MergeState) :=
  if (s.reg.agents.delete (onHost toHostID)).exists? (onHost fromHostID) then
    if references s.reg.db.hosts (some toHostID) then .ok ((), s.moved fromHostID toHostID)
    else .error ((checkPG (foreignKeyViolation "host_agents" "host_id" toHostID "hosts")).wrap "move host agent binding")
  else .error (agentNotFound fromHostID)

def updatedFacts (id : Int) (facts : ReportedFacts) : MergeState :=
  { s with
    reg := { s.reg with
      db := { s.reg.db with hosts := s.reg.db.hosts.update (·.id = id) fun h => { h with connectivityMode := "agent" } } }
    facts := Function.update s.facts id facts }

def updateFacts (id : Int) (facts : ReportedFacts) : Except Err (Unit × MergeState) :=
  if s.reg.db.hosts.exists? (·.id = id) then .ok ((), s.updatedFacts id facts)
  else .error (RegState.hostNotFound id)

def deletedHost (id : Int) : MergeState :=
  { s with
    reg := { s.reg with
      db := { s.reg.db with
        hosts := s.reg.db.hosts.delete (·.id = id)
        joinTokens := s.reg.db.joinTokens.delete (·.targetHostID = some id) }
      agents := s.reg.agents.delete (onHost id) } }

def deleteHost (id : Int) (sf : Filter) : Except Err (Unit × MergeState) :=
  if s.reg.db.hosts.exists? (visible id sf) then .ok ((), s.deletedHost id) else .error (RegState.hostNotFound id)

end MergeState

inductive MergeStmt where
  | getHost (id : Int) (sf : Filter) (fault : Option String)
  | getAgent (hostID : Int) (fault : Option String)
  | moveBinding (fromHostID toHostID : Int) (fault : Option String)
  | updateFacts (id : Int) (facts : ReportedFacts) (fault : Option String)
  | deleteHost (id : Int) (sf : Filter) (agentMoved : Bool) (fault : Option String)
  | gateway (q : RegStmt)

def MergeStmt.Ans : MergeStmt → Type
  | getHost _ _ _ => HostRow × ReportedFacts
  | getAgent _ _ => HostAgentRow
  | gateway q => q.Ans
  | _ => Unit

abbrev mergeSig : Sig := ⟨MergeStmt, MergeStmt.Ans⟩

def orFault {α : Type} (what : String) (fault : Option String) (x : M MergeState Err α) : M MergeState Err α :=
  match fault with
  | some text => fail (.plain (what ++ ": " ++ text))
  | none => x

def MergeStmt.sem : (q : MergeStmt) → M MergeState Err q.Ans
  | getHost id sf fault => orFault "get host" fault (query fun s => s.getHost id sf)
  | getAgent hostID fault => orFault "get host agent by host id" fault (query fun s => s.getAgent hostID)
  | moveBinding fromHostID toHostID fault =>
    orFault "move host agent binding" fault (stmt fun s => s.moveBinding fromHostID toHostID)
  | updateFacts id facts fault => orFault "update agent host facts" fault (stmt fun s => s.updateFacts id facts)
  | deleteHost id sf _ fault => orFault "delete host" fault (stmt fun s => s.deleteHost id sf)
  | gateway q => fun s => (q.sem.result s.reg, { s with reg := q.sem.exec s.reg })

structure MergeFaults where
  getTarget : Option String
  getSource : Option String
  getTargetAgent : Option String
  getSourceAgent : Option String
  moveBinding : Option String
  updateFacts : Option String
  delete : Option String

def MergeFaults.none : MergeFaults := ⟨.none, .none, .none, .none, .none, .none, .none⟩

structure MergeRequest where
  targetID : Int
  sourceHostID : String
  workspaceID : Int
  namespaceID : Int
  faults : MergeFaults

inductive MergeAnswer where
  | merged (hostID : String) (agentMoved : Bool)
  | gateway (o : Outcome)
  deriving DecidableEq

abbrev MergeM : Type → Type := Prog mergeSig Err

namespace HostMerge

open Prog

section Handler

variable (c : MergeRequest) (sourceID : Int)

def sf : Filter := Filter.fromIDs c.workspaceID c.namespaceID

def deleteSource (agentMoved : Bool) : MergeM MergeAnswer := do
  mapErr (mapDomain · "host") (ask (G := mergeSig) (.deleteHost sourceID (sf c) agentMoved c.faults.delete))
  pure (.merged (Strconv.formatInt c.targetID) agentMoved)

variable (facts : ReportedFacts)

def carryFacts : MergeM MergeAnswer := do
  mapErr (mapDomain · "host") (ask (G := mergeSig) (.updateFacts c.targetID facts c.faults.updateFacts))
  deleteSource c sourceID true

def moveAgent : MergeM MergeAnswer := do
  mapErr (mapDomain · "host") (ask (G := mergeSig) (.moveBinding sourceID c.targetID c.faults.moveBinding))
  carryFacts c sourceID facts

def readSourceAgent : MergeM MergeAnswer := do
  let sourceAgent ← attempt (ask (G := mergeSig) (.getAgent sourceID c.faults.getSourceAgent))
  match sourceAgent with
  | .ok _ => moveAgent c sourceID facts
  | .error e => if isNotFound e "agent" then deleteSource c sourceID false else fail (mapDomain e "host")

def liveAgent : Err :=
  .ofStatus (newConflictMessage "this host has a live agent of its own, so it is not the same machine")

def readTargetAgent : MergeM MergeAnswer := do
  let targetAgent : Except Err HostAgentRow ← attempt (ask (G := mergeSig) (.getAgent c.targetID c.faults.getTargetAgent))
  match targetAgent with
  | .ok row => if row.status = .online then fail liveAgent else readSourceAgent c sourceID facts
  | .error e => if isNotFound e "agent" then readSourceAgent c sourceID facts else fail (mapDomain e "host")

def sameScope (source target : HostRow) : Bool :=
  source.scope = target.scope ∧ source.workspaceID = target.workspaceID ∧ source.namespaceID = target.namespaceID

def readBoth : MergeM MergeAnswer := do
  let target : HostRow × ReportedFacts ←
    mapErr (mapDomain · "host") (ask (G := mergeSig) (.getHost c.targetID (sf c) c.faults.getTarget))
  let source : HostRow × ReportedFacts ←
    mapErr (mapDomain · "host") (ask (G := mergeSig) (.getHost sourceID (sf c) c.faults.getSource))
  if sameScope source.1 target.1 then readTargetAgent c sourceID source.2
  else fail (badRequest "these hosts are in different scopes")

end Handler

def merge (c : MergeRequest) : MergeM MergeAnswer :=
  match Strconv.parseInt c.sourceHostID with
  | none => fail (badRequest "sourceHostId must be a host id")
  | some sourceID =>
    if sourceID ≤ 0 then fail (badRequest "sourceHostId must be a host id")
    else if sourceID = c.targetID then fail (badRequest "a host cannot be merged into itself")
    else readBoth c sourceID

def ofGateway : Reg.RegM Outcome → MergeM MergeAnswer
  | .done r => .done (r.map .gateway)
  | .exec q next => .exec (.gateway q) fun r => ofGateway (next r)

end HostMerge

/-- A merge, the channels of agents, the sweep of stale rows, and time that passes. -/
inductive MergeCall where
  | merge (c : MergeRequest)
  | connect (c : Reg.ConnectCall)
  | heartbeat (hostID : Int) (instanceID version : String) (clockSkewMs : Int)
  | closed (hostID : Int) (instanceID : String)
  | markStaleOffline
  | tick (d : Nat)

def mergeProg (cfg : RegConfig) : MergeCall → MergeM MergeAnswer
  | .merge c => HostMerge.merge c
  | .connect c => HostMerge.ofGateway (gatewayProg cfg (.connect c))
  | .heartbeat hostID instanceID version clockSkewMs =>
    HostMerge.ofGateway (gatewayProg cfg (.heartbeat hostID instanceID version clockSkewMs))
  | .closed hostID instanceID => HostMerge.ofGateway (gatewayProg cfg (.closed hostID instanceID))
  | .markStaleOffline => HostMerge.ofGateway (gatewayProg cfg .markStaleOffline)
  | .tick d => HostMerge.ofGateway (gatewayProg cfg (.tick d))

def mergeSystem (cfg : RegConfig) : System MergeState mergeSig Err MergeAnswer MergeCall :=
  ⟨MergeStmt.sem, fun _ _ => true, mergeProg cfg⟩

end Vraxel.Compute
