import Vraxel.Db.Schema
/-
  The statements on `hosts`, `host_alert_rules` and `host_agent_join_tokens`
  (`pkg/db/query/host.sql`, `host_alert.sql`, `host_agent_join_token.sql`). Each
  keeps its query's name.

  Hosts name their workspace and their namespace without a foreign key; alert rules and join tokens
  have one for each of the two columns. No constraint relates the two columns of a row to each
  other.
-/

namespace Vraxel.Db

open Relational Api Txn

def passes (narg column : Option Int) : Bool := narg.isNone || column = narg

theorem passes_some_iff {i : Int} {column : Option Int} : passes (some i) column ↔ column = some i := by
  simp [passes]

namespace DB

variable (db : DB)

def workspaceLabel (workspaceID : Option Int) : String :=
  match workspaceID.bind db.workspaces.get? with
  | some w => if w.displayName ≠ "" then w.displayName else w.name
  | none => ""

def namespaceLabel (namespaceID : Option Int) : String :=
  match namespaceID.bind db.namespaces.get? with
  | some ns => if ns.displayName ≠ "" then ns.displayName else ns.name
  | none => ""

end DB

def createdByRef (table : String) (createdBy : Option Int) (db : DB) : Bool × Err :=
  (references db.users createdBy, foreignKeyViolation table "created_by" (createdBy.getD 0) "users")

def tenancyRefs (table : String) (parts : ScopeParts) (db : DB) : List (Bool × Err) := [
  (references db.workspaces parts.workspaceID,
    foreignKeyViolation table "workspace_id" (parts.workspaceID.getD 0) "workspaces"),
  (references db.namespaces parts.namespaceID,
    foreignKeyViolation table "namespace_id" (parts.namespaceID.getD 0) "namespaces")]

structure CreateHostParams where
  name : String
  displayName : String
  description : String
  parts : ScopeParts
  sshPort : Int
  primaryIPOverride : String
  createdBy : Option Int

variable (p : CreateHostParams)

/-- The row `CreateHost` inserts: recorded by hand, without an agent. -/
def CreateHostParams.row : HostRow where
  id := 0
  name := p.name
  displayName := p.displayName
  description := p.description
  scope := p.parts.scope
  workspaceID := p.parts.workspaceID
  namespaceID := p.parts.namespaceID
  sshPort := p.sshPort
  origin := "manual"
  connectivityMode := "ssh"
  primaryIPOverride := p.primaryIPOverride
  createdBy := p.createdBy
  chk := p.parts.chk

/-- The unique indexes of `hosts`, one for each scope: the same name in the same place. -/
def HostRow.sameName (a b : HostRow) : Bool :=
  a.scope = b.scope && a.name = b.name &&
    match b.scope with
    | .platform => true
    | .workspace => a.workspaceID = b.workspaceID
    | .namespace => a.namespaceID = b.namespaceID

def createHostChecks (db : DB) : Except Err Unit :=
  firstViolation [
    varchar 255 p.name, varchar 255 p.displayName, varchar 45 p.primaryIPOverride,
    (!db.hosts.exists? (·.sameName p.row), uniqueViolation ("uk_hosts_" ++ p.parts.scope.name)),
    createdByRef "hosts" p.createdBy db]

def createHost : DbM HostRow := hostsTable.insert (createHostChecks p) p.row

structure HostDetailRow extends HostRow where
  creatorName : String
  workspaceName : String
  namespaceName : String

variable (id : Int) (workspaceIDFilter namespaceIDFilter : Option Int)

def getHostByID : DbM (Option HostDetailRow) :=
  read fun db =>
    (db.hosts.find? fun h => h.id = id && passes workspaceIDFilter h.workspaceID &&
      passes namespaceIDFilter h.namespaceID).map fun h => { h with
        creatorName := db.creatorName h.createdBy
        workspaceName := db.workspaceLabel h.workspaceID
        namespaceName := db.namespaceLabel h.namespaceID }

def HostRow.visible (h : HostRow) : Bool :=
  h.id = id && passes workspaceIDFilter h.workspaceID && passes namespaceIDFilter h.namespaceID

def updateHost (displayName description : String) :
    DbM Nat :=
  hostsTable.update (HostRow.visible id workspaceIDFilter namespaceIDFilter)
    (fun _ => firstViolation [varchar 255 displayName])
    fun h => { h with displayName := displayName, description := description }

structure CreateHostAlertRuleParams where
  name : String
  description : String
  parts : ScopeParts
  metric : String
  op : String
  threshold : Rat
  forSeconds : Int
  severity : String
  enabled : Bool
  createdBy : Option Int

def CreateHostAlertRuleParams.row (p : CreateHostAlertRuleParams) : HostAlertRuleRow where
  id := 0
  name := p.name
  description := p.description
  scope := p.parts.scope
  workspaceID := p.parts.workspaceID
  namespaceID := p.parts.namespaceID
  metric := p.metric
  op := p.op
  threshold := p.threshold
  forSeconds := p.forSeconds
  severity := p.severity
  enabled := p.enabled
  createdBy := p.createdBy

def createHostAlertRuleChecks (p : CreateHostAlertRuleParams) (db : DB) : Except Err Unit :=
  firstViolation ([
    varchar 255 p.name, varchar 1000 p.description, varchar 32 p.metric, varchar 2 p.op, varchar 16 p.severity]
    ++ tenancyRefs "host_alert_rules" p.parts db ++ [createdByRef "host_alert_rules" p.createdBy db])

def createHostAlertRule (p : CreateHostAlertRuleParams) : DbM HostAlertRuleRow :=
  hostAlertRulesTable.insert (createHostAlertRuleChecks p) p.row

structure HostAlertRuleDetailRow extends HostAlertRuleRow where
  creatorName : String
  workspaceName : String
  namespaceName : String

def getHostAlertRule :
    DbM (Option HostAlertRuleDetailRow) :=
  read fun db =>
    (db.hostAlertRules.find? fun r => r.id = id && passes workspaceIDFilter r.workspaceID &&
      passes namespaceIDFilter r.namespaceID).map fun r => { r with
        creatorName := db.creatorName r.createdBy
        workspaceName := db.workspaceLabel r.workspaceID
        namespaceName := db.namespaceLabel r.namespaceID }

/-- The rows `UpdateHostAlertRule` and `DeleteHostAlertRule` are for. -/
def HostAlertRuleRow.visible (r : HostAlertRuleRow) :
    Bool :=
  r.id = id && passes workspaceIDFilter r.workspaceID && passes namespaceIDFilter r.namespaceID

structure UpdateHostAlertRuleParams where
  name : String
  description : String
  metric : String
  op : String
  threshold : Rat
  forSeconds : Int
  severity : String
  enabled : Bool

def UpdateHostAlertRuleParams.set (p : UpdateHostAlertRuleParams) (r : HostAlertRuleRow) : HostAlertRuleRow :=
  { r with
    name := p.name
    description := p.description
    metric := p.metric
    op := p.op
    threshold := p.threshold
    forSeconds := p.forSeconds
    severity := p.severity
    enabled := p.enabled }

def updateHostAlertRule
    (p : UpdateHostAlertRuleParams) : DbM Nat :=
  hostAlertRulesTable.update (HostAlertRuleRow.visible id workspaceIDFilter namespaceIDFilter)
    (fun _ => firstViolation [varchar 255 p.name, varchar 1000 p.description, varchar 32 p.metric,
      varchar 2 p.op, varchar 16 p.severity])
    p.set

def deleteHostAlertRule : DbM Nat :=
  hostAlertRulesTable.delete fun _ => HostAlertRuleRow.visible id workspaceIDFilter namespaceIDFilter

structure CreateHostAgentJoinTokenParams where
  name : String
  tokenHash : String
  parts : ScopeParts
  maxUses : Int
  expiresAt : Int
  createdBy : Option Int
  targetHostID : Option Int

variable (p : CreateHostAgentJoinTokenParams)

def CreateHostAgentJoinTokenParams.row : JoinTokenRow where
  id := 0
  name := p.name
  tokenHash := p.tokenHash
  scope := p.parts.scope
  workspaceID := p.parts.workspaceID
  namespaceID := p.parts.namespaceID
  maxUses := p.maxUses
  usedCount := 0
  expiresAt := p.expiresAt
  createdBy := p.createdBy
  targetHostID := p.targetHostID
  chk := p.parts.chk

def createHostAgentJoinTokenChecks (db : DB) : Except Err Unit :=
  let table := "host_agent_join_tokens"
  firstViolation ([
    varchar 255 p.name,
    (p.targetHostID.isNone || p.maxUses = 1, checkViolation table "chk_join_token_bound_single_use"),
    (p.maxUses > 0, checkViolation table "chk_join_token_uses"),
    (!db.joinTokens.exists? (·.tokenHash = p.tokenHash),
      uniqueViolation "host_agent_join_tokens_token_hash_key")]
    ++ tenancyRefs table p.parts db ++ [createdByRef table p.createdBy db,
    (references db.hosts p.targetHostID,
      foreignKeyViolation table "target_host_id" (p.targetHostID.getD 0) "hosts")])

def createHostAgentJoinToken : DbM JoinTokenRow :=
  joinTokensTable.insert (createHostAgentJoinTokenChecks p) p.row

def deleteHostAgentJoinToken : DbM Nat :=
  joinTokensTable.delete fun _ t =>
    t.id = id && passes workspaceIDFilter t.workspaceID && passes namespaceIDFilter t.namespaceID

end Vraxel.Db
