import Vraxel.ApiServer.Ctx
import Vraxel.Db.Compute
import Vraxel.Go.Net
/-
  The create operations of hosts, alert rules and agent join tokens
  (`compute/storage_host.go`, `storage_alert_rule.go`,
  `storage_agent_join_token.go`, `validation.go`), their stores, and the tenancy
  columns they stamp (`shared/scope/filter.go`).
-/

namespace Vraxel.Compute

open Relational Api Db Txn ApiServer Strconv Strings

def domainErr {α : Type} (x : DbM α) : DbM α := mapErr (mapDomain · "host") x

structure Filter where
  workspaceID : Option Int
  namespaceID : Option Int

namespace Filter

def fromIDs (workspaceID namespaceID : Int) : Filter where
  workspaceID := if workspaceID > 0 then some workspaceID else none
  namespaceID := if namespaceID > 0 then some namespaceID else none

/-- What a new row's tenancy columns hold. The level follows from which ids are
there; the ids are not compared with each other. -/
def partsForCreate : Filter → ScopeParts
  | ⟨w, some n⟩ => ⟨.namespace, w, some n, chkScope_namespace w n⟩
  | ⟨some w, none⟩ => ⟨.workspace, some w, none, chkScope_workspace w⟩
  | ⟨none, none⟩ => ⟨.platform, none, none, chkScope_platform⟩

theorem partsForCreate_namespaceID (f : Filter) : f.partsForCreate.namespaceID = f.namespaceID := by
  rcases f with ⟨_ | w, _ | n⟩ <;> rfl

theorem partsForCreate_workspaceID (f : Filter) : f.partsForCreate.workspaceID = f.workspaceID := by
  rcases f with ⟨_ | w, _ | n⟩ <;> rfl

end Filter

def scopeFilter (ctx : Ctx) : Filter := .fromIDs ctx.scope.workspaceID ctx.scope.namespaceID

def idText : Option Int → String
  | some id => formatInt id
  | none => ""

structure HostSpec where
  displayName : String := ""
  description : String := ""
  origin : String := ""
  connectivityMode : String := ""
  ip : String := ""
  sshPort : Int := 0
  scope : String := ""
  workspaceID : String := ""
  namespaceID : String := ""
  workspaceName : String := ""
  namespaceName : String := ""
  createdByName : String := ""

structure Host where
  id : String := ""
  name : String := ""
  spec : HostSpec := {}

def hostToAPI (r : HostDetailRow) : Host where
  id := formatInt r.id
  name := r.name
  spec := {
    displayName := r.displayName
    description := r.description
    origin := r.origin
    connectivityMode := r.connectivityMode
    ip := r.primaryIPOverride
    sshPort := r.sshPort
    scope := r.scope.name
    workspaceID := idText r.workspaceID
    namespaceID := idText r.namespaceID
    workspaceName := r.workspaceName
    namespaceName := r.namespaceName
    createdByName := r.creatorName }

def maxDisplayNameLen : Nat := 128
def maxDescriptionLen : Nat := 1000
def defaultSSHPort : Int := 22

/-- `nameRegexp`: `^[a-zA-Z0-9]([a-zA-Z0-9_-]{1,48}[a-zA-Z0-9])?$`. -/
def nameRegexp (s : String) : Bool :=
  match s.toList with
  | [] => false
  | c :: cs => c.isAlphanum && (cs = [] ||
    (2 ≤ cs.length && cs.length ≤ 49 && cs.dropLast.all (fun c => c.isAlphanum || c = '_' || c = '-')
      && (cs.getLast?.map Char.isAlphanum).getD false))

def validateHostCreate (h : Host) : Except Err Unit :=
  let name := trimSpace h.name
  let ip := trimSpace h.spec.ip
  if name = "" then .error (badRequest "name is required")
  else if !nameRegexp name then .error (badRequest
    "name must be 3-50 characters of letters, digits, underscore or hyphen, starting and ending alphanumeric")
  else if len h.spec.displayName > maxDisplayNameLen then
    .error (badRequest ("displayName must be at most " ++ formatInt maxDisplayNameLen ++ " characters"))
  else if len h.spec.description > maxDescriptionLen then
    .error (badRequest ("description must be at most " ++ formatInt maxDescriptionLen ++ " characters"))
  else if ip ≠ "" && !Net.parseIP ip then .error (badRequest ("ip " ++ quote ip ++ " is not a valid address"))
  else if h.spec.sshPort ≠ 0 && (h.spec.sshPort < 1 || h.spec.sshPort > 65535) then
    .error (badRequest "sshPort must be between 1 and 65535")
  else .ok ()

namespace PgHostStore

def getByID (id : Int) (sf : Filter) : DbM HostDetailRow := do
  match ← getHostByID id sf.workspaceID sf.namespaceID with
  | some row => return row
  | none => fail (.tagged ("host " ++ formatInt id) .notFound)

def create (p : CreateHostParams) : DbM Int := do
  let row ← mapErr (fun e => (checkPG e).wrap "create host") (createHost p)
  return row.id

end PgHostStore

namespace HostOps

def input (ctx : Ctx) (h : Host) : CreateHostParams where
  name := trimSpace h.name
  displayName := h.spec.displayName
  description := h.spec.description
  parts := (scopeFilter ctx).partsForCreate
  sshPort := if h.spec.sshPort = 0 then defaultSSHPort else h.spec.sshPort
  primaryIPOverride := trimSpace h.spec.ip
  createdBy := ctx.userID

def get (ctx : Ctx) (id : Int) : DbM Host := do
  let row ← domainErr (PgHostStore.getByID id (scopeFilter ctx))
  return hostToAPI row

def create (ctx : Ctx) (h : Host) : DbM Host := do
  lift (validateHostCreate h)
  let id ← domainErr (PgHostStore.create (input ctx h))
  get ctx id

end HostOps

structure HostAlertRuleSpec where
  description : String := ""
  scope : String := ""
  workspaceID : String := ""
  namespaceID : String := ""
  workspaceName : String := ""
  namespaceName : String := ""
  metric : String := ""
  op : String := ""
  threshold : Rat := 0
  forSeconds : Int := 0
  severity : String := ""
  enabled : Option Bool := none
  createdByName : String := ""

structure HostAlertRule where
  id : String := ""
  name : String := ""
  spec : HostAlertRuleSpec := {}

def alertRuleToAPI (r : HostAlertRuleDetailRow) : HostAlertRule where
  id := formatInt r.id
  name := r.name
  spec := {
    description := r.description
    scope := r.scope.name
    workspaceID := idText r.workspaceID
    namespaceID := idText r.namespaceID
    workspaceName := r.workspaceName
    namespaceName := r.namespaceName
    metric := r.metric
    op := r.op
    threshold := r.threshold
    forSeconds := r.forSeconds
    severity := r.severity
    enabled := some r.enabled
    createdByName := r.creatorName }

def alertMetrics : List String :=
  ["cpu_used_pct", "mem_used_pct", "disk_used_pct", "load1", "load5", "load15", "net_rx_bps", "net_tx_bps"]

def alertComparators : List String := ["gt", "ge", "lt", "le"]
def alertSeverities : List String := ["info", "warning", "critical"]
def alertMaxForSecs : Int := 24 * 3600
def alertNameMaxLen : Nat := 255
def alertDescMaxLen : Nat := 1000
def alertDefaultSecs : Int := 60

structure AlertRuleInput where
  name : String
  description : String
  metric : String
  op : String
  threshold : Rat
  forSeconds : Int
  severity : String
  enabled : Bool

def alertRuleInput (r : HostAlertRule) : Except Err AlertRuleInput :=
  let name := trimSpace r.name
  let forSecs := if r.spec.forSeconds = 0 then alertDefaultSecs else r.spec.forSeconds
  if name = "" || len name > alertNameMaxLen then
    .error (badRequest "name is required and at most 255 characters")
  else if len r.spec.description > alertDescMaxLen then
    .error (badRequest "description is at most 1000 characters")
  else if r.spec.metric ∉ alertMetrics then
    .error (badRequest ("metric must be one of " ++ join alertMetrics ", "))
  else if r.spec.op ∉ alertComparators then
    .error (badRequest "op must be one of gt, ge, lt, le")
  else if r.spec.severity ∉ alertSeverities then
    .error (badRequest "severity must be one of info, warning, critical")
  else if forSecs < 0 || forSecs > alertMaxForSecs then
    .error (badRequest "forSeconds must be between 0 and 86400")
  else .ok {
    name := name
    description := trimSpace r.spec.description
    metric := r.spec.metric
    op := r.spec.op
    threshold := r.spec.threshold
    forSeconds := forSecs
    severity := r.spec.severity
    enabled := r.spec.enabled.getD true }

namespace PgAlertRuleStore

def getByID (id : Int) (sf : Filter) : DbM HostAlertRuleDetailRow := do
  match ← getHostAlertRule id sf.workspaceID sf.namespaceID with
  | some row => return row
  | none => fail (.tagged ("alert rule " ++ formatInt id) .notFound)

def params (parts : ScopeParts) (createdBy : Option Int) (r : AlertRuleInput) : CreateHostAlertRuleParams where
  name := r.name
  description := r.description
  parts := parts
  metric := r.metric
  op := r.op
  threshold := r.threshold
  forSeconds := r.forSeconds
  severity := r.severity
  enabled := r.enabled
  createdBy := createdBy

def create (parts : ScopeParts) (createdBy : Option Int) (r : AlertRuleInput) : DbM Int := do
  let row ← mapErr (fun e => (checkPG e).wrap "create alert rule")
    (createHostAlertRule (params parts createdBy r))
  return row.id

end PgAlertRuleStore

namespace AlertOps

def get (ctx : Ctx) (id : Int) : DbM HostAlertRule := do
  let row ← domainErr (PgAlertRuleStore.getByID id (scopeFilter ctx))
  return alertRuleToAPI row

def create (ctx : Ctx) (r : HostAlertRule) : DbM HostAlertRule := do
  let input ← lift (alertRuleInput r)
  let id ← domainErr (PgAlertRuleStore.create (scopeFilter ctx).partsForCreate ctx.userID input)
  get ctx id

end AlertOps

structure AgentJoinTokenSpec where
  scope : String := ""
  workspaceID : String := ""
  namespaceID : String := ""
  targetHostID : String := ""
  targetHostName : String := ""
  maxUses : Int := 0
  usedCount : Int := 0
  ttlHours : Int := 0
  expiresAt : Option Int := none
  token : String := ""
  serverURL : String := ""

structure AgentJoinToken where
  id : String := ""
  name : String := ""
  spec : AgentJoinTokenSpec := {}

def joinTokenToAPI (r : JoinTokenRow) (targetHostName : String) : AgentJoinToken where
  id := formatInt r.id
  name := r.name
  spec := {
    scope := r.scope.name
    workspaceID := idText r.workspaceID
    namespaceID := idText r.namespaceID
    targetHostID := idText r.targetHostID
    targetHostName := targetHostName
    maxUses := r.maxUses
    usedCount := r.usedCount
    expiresAt := some r.expiresAt }

def defaultJoinTokenTTLHours : Int := 24
def maxJoinTokenTTLHours : Int := 24 * 30

/-- What the operation takes from outside: the deployment's address, the clock in
seconds, a fresh plaintext and the hash tokens are stored by. -/
structure JoinTokenEnv where
  serverURL : String
  now : Int
  plaintext : String
  hashToken : String → String

def PgJoinTokenStore.create (p : CreateHostAgentJoinTokenParams) : DbM JoinTokenRow :=
  mapErr (fun e => (checkPG e).wrap "create join token") (createHostAgentJoinToken p)

namespace JoinTokenOps

def ttl (t : AgentJoinToken) : Int :=
  if t.spec.ttlHours = 0 then defaultJoinTokenTTLHours else t.spec.ttlHours

def target (sf : Filter) (raw : String) : DbM (Option HostDetailRow) := do
  if raw = "" then
    return none
  else match parseInt raw with
    | none => fail (badRequest "targetHostId must be a host id")
    | some hostID =>
      if hostID ≤ 0 then
        fail (badRequest "targetHostId must be a host id")
      else
        let host ← domainErr (PgHostStore.getByID hostID sf)
        return some host

def parts (sf : Filter) : Option HostDetailRow → ScopeParts
  | some host => ⟨host.scope, host.workspaceID, host.namespaceID, host.chk⟩
  | none => sf.partsForCreate

def input (env : JoinTokenEnv) (ctx : Ctx) (t : AgentJoinToken) (host : Option HostDetailRow) :
    CreateHostAgentJoinTokenParams where
  name := t.name
  tokenHash := env.hashToken env.plaintext
  parts := parts (scopeFilter ctx) host
  maxUses := 1
  expiresAt := env.now + ttl t * 3600
  createdBy := ctx.userID
  targetHostID := host.map (·.id)

def create (env : JoinTokenEnv) (ctx : Ctx) (t : AgentJoinToken) : DbM AgentJoinToken := do
  if ttl t < 1 || ttl t > maxJoinTokenTTLHours then
    fail (badRequest "ttlHours must be between 1 and 720")
  else
    let host ← target (scopeFilter ctx) t.spec.targetHostID
    let row ← domainErr (PgJoinTokenStore.create (input env ctx t host))
    let out := joinTokenToAPI row ((host.map (·.name)).getD "")
    return { out with spec := { out.spec with
      token := env.plaintext
      ttlHours := ttl t
      serverURL := env.serverURL } }

end JoinTokenOps

end Vraxel.Compute
