import Vraxel.Compute.Create
/-
  Updates of hosts and alert rules, and deletions of alert rules and join tokens
  (`compute/storage_host.go`, `storage_alert_rule.go`, `storage_agent_join_token.go`), with
  their stores. A host is deleted together with its agent, by the statement of `HostMerge`.
-/

namespace Vraxel.Compute

open Relational Api Db Txn ApiServer Strconv Strings

def touching (what : String) (id : Int) (q : DbM Nat) : DbM Unit := do
  let n ← q
  if n = 0 then
    fail (.tagged (what ++ " " ++ formatInt id) .notFound)

def validateHostUpdate (h : Host) : Except Err Unit :=
  if len h.spec.displayName > maxDisplayNameLen then
    .error (badRequest ("displayName must be at most " ++ formatInt maxDisplayNameLen ++ " characters"))
  else if len h.spec.description > maxDescriptionLen then
    .error (badRequest ("description must be at most " ++ formatInt maxDescriptionLen ++ " characters"))
  else .ok ()

def PgHostStore.update (id : Int) (sf : Filter) (displayName description : String) : DbM Unit :=
  touching "host" id (mapErr (fun e => (checkPG e).wrap "update host")
    (updateHost id sf.workspaceID sf.namespaceID displayName description))

namespace PgAlertRuleStore

def updateParams (r : AlertRuleInput) : UpdateHostAlertRuleParams where
  name := r.name
  description := r.description
  metric := r.metric
  op := r.op
  threshold := r.threshold
  forSeconds := r.forSeconds
  severity := r.severity
  enabled := r.enabled

def update (id : Int) (sf : Filter) (r : AlertRuleInput) : DbM Unit :=
  touching "alert rule" id (mapErr (fun e => (checkPG e).wrap "update alert rule")
    (updateHostAlertRule id sf.workspaceID sf.namespaceID (updateParams r)))

def delete (id : Int) (sf : Filter) : DbM Unit :=
  touching "alert rule" id (deleteHostAlertRule id sf.workspaceID sf.namespaceID)

end PgAlertRuleStore

namespace AlertOps

def update (ctx : Ctx) (id : Int) (r : HostAlertRule) : DbM HostAlertRule := do
  let input ← lift (alertRuleInput r)
  domainErr (PgAlertRuleStore.update id (scopeFilter ctx) input)
  get ctx id

def delete (ctx : Ctx) (id : Int) : DbM Unit := domainErr (PgAlertRuleStore.delete id (scopeFilter ctx))

end AlertOps

def PgJoinTokenStore.delete (id : Int) (sf : Filter) : DbM Unit :=
  touching "join token" id (deleteHostAgentJoinToken id sf.workspaceID sf.namespaceID)

def JoinTokenOps.delete (ctx : Ctx) (id : Int) : DbM Unit := domainErr (PgJoinTokenStore.delete id (scopeFilter ctx))

/-! The scope of the URL confines a write. -/

end Vraxel.Compute
