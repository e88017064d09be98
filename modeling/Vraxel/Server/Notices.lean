import Vraxel.Compute.HostMerge
import Vraxel.Compute.Update
import Vraxel.Iam.Tenants
import Vraxel.Lib.Part
/-
  Change notifications: what the stores publish next to their writes.

  Two channels go through LISTEN/NOTIFY. `rbac_invalidate` names a user whose bindings changed
  (`iam/store/pg_role_binding.go`), `compute_hosts_event` a host or the agent bound to it
  (`shared/hostevent`).
-/

namespace Vraxel.Server

open Relational Api Db Txn ApiServer

/-- A message on one of the two channels; an event may carry the host's tenancy. -/
inductive Notice where
  | rbacInvalidate (userID : Int)
  | hostEvent (hostID : Int) (tenancy : Option ScopeParts) (deleted : Bool)
  deriving DecidableEq

structure World where
  tables : Compute.MergeState
  sent : List Notice

abbrev OpM := Txn.M World Err

def tablesPart : Part World Compute.MergeState :=
  ⟨World.tables, fun t w => { w with tables := t }, fun _ _ => rfl, fun _ => rfl⟩

def dbPart : Part World DB :=
  ⟨fun w => w.tables.reg.db,
    fun db w => { w with tables := { w.tables with reg := { w.tables.reg with db := db } } },
    fun _ _ => rfl, fun _ => rfl⟩

section

variable {α : Type}

def onDB (x : DbM α) : OpM α := dbPart.on x

def send (notices : List Notice) : OpM Unit := write fun w => { w with sent := w.sent ++ notices }

def announcing (x : OpM α) (notices : α → List Notice) : OpM α := do
  let a ← x
  send (notices a)
  return a

/-- `domainErr`, which the modules have each with a label of their own. -/
def domainErr (label : String) (x : OpM α) : OpM α := mapErr (mapDomain · label) x

end

/-! Role bindings and members. -/

namespace PgRoleBindingStore

def createMany (inputs : List RoleBindingRow) : OpM Nat :=
  announcing (onDB (Iam.PgRoleBindingStore.createMany inputs)) fun _ =>
    inputs.map fun row => .rbacInvalidate row.userID

def delete (id : Int) : OpM Unit := do
  let rb ← onDB (Iam.PgRoleBindingStore.getByID id)
  let rowsAffected ← onDB (Db.deleteRoleBinding id)
  if rowsAffected = 0 then
    fail (.tagged ("rolebinding " ++ Strconv.formatInt id) .notFound)
  else
    send [.rbacInvalidate rb.userID]

def affected (ids : List Int) (db : DB) : List Int :=
  ((db.roleBindings.select fun b => b.id ∈ ids && !b.isOwner).map (·.userID)).eraseDups

def deleteByIDs (ids : List Int) : OpM Nat := do
  let users ← onDB (read (affected ids))
  announcing (onDB (Iam.PgRoleBindingStore.deleteByIDs ids)) fun _ => users.map .rbacInvalidate

def addWorkspaceMember (userID workspaceID roleID : Int) : OpM Unit :=
  announcing (onDB (Iam.PgRoleBindingStore.addWorkspaceMember userID workspaceID roleID)) fun _ =>
    [.rbacInvalidate userID]

def addNamespaceMember (userID namespaceID roleID : Int) : OpM Unit :=
  announcing (onDB (Iam.PgRoleBindingStore.addNamespaceMember userID namespaceID roleID)) fun _ =>
    [.rbacInvalidate userID]

def removeWorkspaceMember (userID workspaceID : Int) : OpM Unit :=
  announcing (onDB (Iam.PgRoleBindingStore.removeWorkspaceMember userID workspaceID)) fun _ =>
    [.rbacInvalidate userID]

def removeNamespaceMember (userID namespaceID : Int) : OpM Unit :=
  announcing (onDB (Iam.PgRoleBindingStore.removeNamespaceMember userID namespaceID)) fun _ =>
    [.rbacInvalidate userID]

end PgRoleBindingStore

section Bindings

open Iam

variable (ctx : Ctx) (body : Body BatchRequest)

def batchBindRole (place : Place)
    (checkRole : RoleRow → Except Err Unit) : OpM BatchResult := do
  let req ← lift (decodePatch body)
  if req.ids = [] then
    fail (badRequest "ids is required")
  else if req.roleID = "" then
    fail (badRequest "roleId is required")
  else match Strconv.parseInt req.roleID with
  | none => fail (badRequest ("invalid role ID: " ++ req.roleID))
  | some roleID =>
    let role ← domainErr "" (onDB (PgRoleStore.getByID roleID))
    lift (checkRole role)
    let userIDs ← lift (parseUserIDs req.ids)
    if ctx.dryRun then
      return ⟨userIDs.length, 0, []⟩
    else
      let created ← domainErr "" (PgRoleBindingStore.createMany
        (userIDs.map fun userID => place.grant userID roleID false))
      return ⟨created, userIDs.length - created, []⟩

def deleteRoleBinding (id : Int) : OpM Unit := do
  let existing ← domainErr "" (onDB (Iam.PgRoleBindingStore.getByID id))
  if existing.isOwner then
    fail (badRequest "cannot delete owner role binding")
  else if ctx.dryRun then
    return ()
  else
    PgRoleBindingStore.delete id

def deleteRoleBindingsCollection (ids : List Int) : OpM BatchResult := do
  if ctx.dryRun then
    return ⟨ids.length, 0, []⟩
  else
    let deleted ← domainErr "" (PgRoleBindingStore.deleteByIDs ids)
    return ⟨deleted, ids.length - deleted, []⟩

/-! The three resources. -/

def RoleBindingOps.create : OpM BatchResult :=
  batchBindRole ctx body .platform (checkRoleAt .platform (fun _ => true) "platform")

def WorkspaceRoleBindingOps.create : OpM BatchResult :=
  let wsID := ctx.scope.workspaceID
  batchBindRole ctx body (.workspace wsID)
    (checkRoleAt .workspace (fun role => role.workspaceID = some wsID) "workspace")

def NamespaceRoleBindingOps.create : OpM BatchResult := do
  let nsID := ctx.scope.namespaceID
  let ns ← domainErr "" (onDB (PgNamespaceStore.getByID nsID))
  batchBindRole ctx body (.namespace ns.workspaceID nsID)
    (checkRoleAt .namespace (fun role => role.namespaceID = some nsID) "namespace")

end Bindings

section Members

open Iam

def batchAddUsers (addFn : Int → OpM Unit) : List String → OpM Nat
  | [] => return 0
  | idStr :: ids =>
    match Strconv.parseInt idStr with
    | none => fail (badRequest ("invalid user ID: " ++ idStr))
    | some uid => do
      onDB (ensureUserExists uid)
      addFn uid
      let added ← batchAddUsers addFn ids
      return added + 1

def batchRemoveUsers (removeFn : Int → OpM Unit) : List Int → OpM (Nat × List String)
  | [] => return (0, [])
  | uid :: ids => do
    let removed ← attempt (removeFn uid)
    let (successCount, failedIDs) ← batchRemoveUsers removeFn ids
    match removed with
    | .ok _ => return (successCount + 1, failedIDs)
    | .error _ => return (successCount, Strconv.formatInt uid :: failedIDs)

def WorkspaceUserOps.create (ctx : Ctx) (body : Body BatchRequest) : OpM BatchResult := do
  let wsID := ctx.scope.workspaceID
  let req ← lift (decodePatch body)
  let roleID ← lift (requestRole req)
  let added ← domainErr ""
    (batchAddUsers (fun uid => PgRoleBindingStore.addWorkspaceMember uid wsID roleID) req.ids)
  return ⟨added, 0, []⟩

def WorkspaceUserOps.batchDelete (ctx : Ctx) (ids : List Int) : OpM BatchResult := do
  let r ← batchRemoveUsers (fun uid => PgRoleBindingStore.removeWorkspaceMember uid ctx.scope.workspaceID) ids
  return removeResult r

def NamespaceUserOps.create (ctx : Ctx) (body : Body BatchRequest) : OpM BatchResult := do
  let nsID := ctx.scope.namespaceID
  let req ← lift (decodePatch body)
  let ns ← domainErr "" (onDB (PgNamespaceStore.getByID nsID))
  onDB (NamespaceUserOps.checkMaxMembers ns nsID req.ids.length)
  let roleID ← lift (requestRole req)
  let added ← domainErr ""
    (batchAddUsers (fun uid => PgRoleBindingStore.addNamespaceMember uid nsID roleID) req.ids)
  return ⟨added, 0, []⟩

def NamespaceUserOps.batchDelete (ctx : Ctx) (ids : List Int) : OpM BatchResult := do
  let r ← batchRemoveUsers (fun uid => PgRoleBindingStore.removeNamespaceMember uid ctx.scope.namespaceID) ids
  return removeResult r

end Members

section Hosts

open Compute Interleave

/-- What a call of a store publishes if it goes through; the tenancy of a deleted host is read
before it is gone. -/
def MergeStmt.notices (s : MergeState) : MergeStmt → List Notice
  | .moveBinding fromHostID toHostID _ => [.hostEvent fromHostID none false, .hostEvent toHostID none false]
  | .updateFacts id _ _ => [.hostEvent id none false]
  | .deleteHost id sf _ _ => [.hostEvent id ((s.reg.db.hosts.find? (MergeState.visible id sf)).map HostRow.parts) true]
  | _ => []

def MergeStmt.announced (q : MergeStmt) : OpM q.Ans := fun w =>
  announcing (tablesPart.on q.sem) (fun _ => MergeStmt.notices w.tables q) w

def PgHostStore.create (p : CreateHostParams) : OpM Int :=
  announcing (onDB (Compute.PgHostStore.create p)) fun id => [.hostEvent id (some p.parts) false]

def PgHostStore.update (id : Int) (sf : Filter) (displayName description : String) : OpM Unit :=
  announcing (onDB (Compute.PgHostStore.update id sf displayName description)) fun _ => [.hostEvent id none false]

def PgHostStore.delete (id : Int) (sf : Filter) : OpM Unit := MergeStmt.announced (.deleteHost id sf false none)

def HostOps.create (ctx : Ctx) (h : Host) : OpM Host := do
  lift (validateHostCreate h)
  let id ← domainErr "host" (PgHostStore.create (HostOps.input ctx h))
  onDB (HostOps.get ctx id)

def HostOps.update (ctx : Ctx) (id : Int) (h : Host) : OpM Host := do
  lift (validateHostUpdate h)
  domainErr "host" (PgHostStore.update id (scopeFilter ctx) h.spec.displayName h.spec.description)
  onDB (HostOps.get ctx id)

def HostOps.delete (ctx : Ctx) (id : Int) : OpM Unit :=
  domainErr "host" (PgHostStore.delete id (scopeFilter ctx))

def HostMergeOps.merge (ctx : Ctx) (sourceHostID : String) (faults : MergeFaults) : OpM MergeAnswer :=
  (HostMerge.merge ⟨ctx.id, sourceHostID, ctx.scope.workspaceID, ctx.scope.namespaceID, faults⟩).alone
    MergeStmt.announced

end Hosts

end Vraxel.Server
