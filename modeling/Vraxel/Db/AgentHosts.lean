import Vraxel.Db.Compute
/-
  What a registration writes to `hosts` and `host_agent_join_tokens`
  (`pkg/db/query/host_agent_host.sql`, `host_agent_join_token.sql`). Each statement keeps
  its query's name; an UPDATE of a token is a function on rows with the rows it is for.

  A host row has no columns for what its agent reports; the texts are only tested against the widths
  of theirs. `DeleteAgentHost` also reads `host_agents` and is in `Register`.
-/

namespace Vraxel.Db

open Relational Api Txn

structure AgentHostFacts where
  hostname : String
  os : String
  arch : String
  cpuCores : Int
  memoryMB : Int
  diskGB : Int
  primaryIP : String

def AgentHostFacts.widths (f : AgentHostFacts) : List (Bool × Err) :=
  [varchar 255 f.hostname, varchar 100 f.os, varchar 50 f.arch, varchar 45 f.primaryIP]

structure CreateAgentHostParams where
  name : String
  facts : AgentHostFacts
  parts : ScopeParts
  createdBy : Option Int

variable (p : CreateAgentHostParams)

/-- The row that `CreateAgentHost` inserts; the display name is the reported host name. -/
def CreateAgentHostParams.row : HostRow where
  id := 0
  name := p.name
  displayName := p.facts.hostname
  description := ""
  scope := p.parts.scope
  workspaceID := p.parts.workspaceID
  namespaceID := p.parts.namespaceID
  sshPort := 22
  origin := "agent"
  connectivityMode := "agent"
  primaryIPOverride := ""
  createdBy := p.createdBy
  chk := p.parts.chk

def createAgentHostChecks (db : DB) : Except Err Unit :=
  firstViolation ([varchar 255 p.name] ++ p.facts.widths ++ [
    (!db.hosts.exists? (·.sameName p.row), uniqueViolation ("uk_hosts_" ++ p.parts.scope.name)),
    createdByRef "hosts" p.createdBy db])

def createAgentHost : DbM HostRow :=
  hostsTable.insert (createAgentHostChecks p) p.row

def updateAgentHostFacts (id : Int) (f : AgentHostFacts) : DbM Nat :=
  hostsTable.update (·.id = id) (fun _ => firstViolation f.widths) fun h => { h with connectivityMode := "agent" }

def HostRow.parts (h : HostRow) : ScopeParts := ⟨h.scope, h.workspaceID, h.namespaceID, h.chk⟩

/-! Join tokens. `expires_at` is in seconds. -/

namespace JoinTokenRow

variable (t : JoinTokenRow)

def parts : ScopeParts := ⟨t.scope, t.workspaceID, t.namespaceID, t.chk⟩

/-- The rows of `PeekHostAgentJoinToken` and `ConsumeHostAgentJoinToken`. -/
def live (tokenHash : String) (nowSeconds : Int) (t : JoinTokenRow) : Bool :=
  t.tokenHash = tokenHash ∧ nowSeconds < t.expiresAt ∧ t.usedCount < t.maxUses

def consume : JoinTokenRow := { t with usedCount := t.usedCount + 1 }

def refund : JoinTokenRow := { t with usedCount := t.usedCount - 1 }

def refundable (id : Int) (t : JoinTokenRow) : Bool := t.id = id ∧ 0 < t.usedCount

def bindTarget (hostID : Int) (t : JoinTokenRow) : JoinTokenRow := { t with targetHostID := some hostID }

def unbound (id : Int) (t : JoinTokenRow) : Bool := t.id = id ∧ t.targetHostID = none ∧ t.maxUses = 1

end JoinTokenRow

def bindHostAgentJoinTokenTarget (id hostID : Int) : DbM Nat :=
  joinTokensTable.update (JoinTokenRow.unbound id)
    (fun db => firstViolation [(references db.hosts (some hostID),
      foreignKeyViolation "host_agent_join_tokens" "target_host_id" hostID "hosts")])
    (JoinTokenRow.bindTarget hostID)

end Vraxel.Db
