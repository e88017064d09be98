import Vraxel.Iam.Members
import Vraxel.Iam.Roles
import Vraxel.Iam.Workspaces
/-
  Creation and deletion of workspaces and creation of namespaces
  (`iam/store/pg_workspace.go`, `pg_namespace.go`, `rbac_builtin.go`,
  `iam/storage_workspace.go`, `storage_namespace.go`).
-/

namespace Vraxel.Iam

open Relational Api Db Txn ApiServer Strconv Strings

def roleWorkspaceAdmin : String := "workspace-admin"
def roleNamespaceAdmin : String := "namespace-admin"

/-- `BuiltinRoleDef`; the scope is the one of the place it is created in. -/
structure BuiltinRoleDef where
  name : String
  displayName : String
  description : String
  rules : List String

def workspaceBuiltinRoles : List BuiltinRoleDef := [
  ⟨roleWorkspaceAdmin, "Workspace Admin", "Full access to all resources within the workspace", ["*:*"]⟩,
  ⟨roleWorkspaceViewer, "Workspace Viewer", "Read-only access to all resources within the workspace",
    ["*:list", "*:get"]⟩,
  ⟨roleWorkspaceMember, "Workspace Member", "Basic workspace membership for namespace-level users", []⟩]

def namespaceBuiltinRoles : List BuiltinRoleDef := [
  ⟨roleNamespaceAdmin, "Namespace Admin", "Full access to all resources within the namespace", ["*:*"]⟩,
  ⟨roleNamespaceViewer, "Namespace Viewer", "Read-only access to all resources within the namespace",
    ["*:list", "*:get"]⟩]

/-- The roles of one place with their rules; the answer is the id of the one called `adminName`. -/
def createBuiltinRoles (adminName : String) (parts : ScopeParts) (adminID : Int) : List BuiltinRoleDef → DbM Int
  | [] => return adminID
  | roleDef :: defs => do
    let role ← mapErr (·.wrap ("create " ++ parts.scope.name ++ " role " ++ roleDef.name))
      (createRole ⟨roleDef.name, roleDef.displayName, roleDef.description, parts, true⟩)
    forEach roleDef.rules fun pattern =>
      mapErr (·.wrap ("add rule " ++ pattern ++ " for role " ++ roleDef.name)) (addRolePermissionRule role.id pattern)
    createBuiltinRoles adminName parts (if roleDef.name = adminName then role.id else adminID) defs

def createBuiltinWorkspaceRoles (workspaceID : Int) : DbM Int :=
  createBuiltinRoles roleWorkspaceAdmin ⟨.workspace, some workspaceID, none, chkScope_workspace _⟩ 0 workspaceBuiltinRoles

theorem chkScope_ownNamespace (n : Int) : chkScope .namespace none (some n) := chkScope_namespace none n

def createBuiltinNamespaceRoles (namespaceID : Int) : DbM Int :=
  createBuiltinRoles roleNamespaceAdmin ⟨.namespace, none, some namespaceID, chkScope_ownNamespace namespaceID⟩ 0
    namespaceBuiltinRoles

def found {α : Type} (what : String) (q : DbM (Option α)) : DbM α := do
  match ← q with
  | some row => return row
  | none => fail (noRows.wrap what)

namespace PgWorkspaceStore

def defaultNamespace (p : CreateWorkspaceParams) (workspaceID : Int) : CreateNamespaceParams where
  name := p.name ++ "-default"
  displayName := "Default"
  description := "Default namespace for workspace " ++ p.name
  workspaceID := workspaceID
  ownerID := p.ownerID
  visibility := "private"
  maxMembers := 0
  status := "active"
  createdBy := p.createdBy

def create (p : CreateWorkspaceParams) : DbM WorkspaceWithOwnerRow :=
  atomically do
    let row ← mapErr (fun e => (checkPG e).wrap "create workspace") (createWorkspace p)
    let wsAdminRoleID ← createBuiltinWorkspaceRoles row.id
    let defaultNS ← mapErr (·.wrap "create default namespace") (createNamespace (defaultNamespace p row.id))
    let nsAdminRoleID ← createBuiltinNamespaceRoles defaultNS.id
    let _ ← mapErr (·.wrap "create workspace owner role binding")
      (createRoleBindingIfNotExists ((Place.workspace row.id).grant p.ownerID wsAdminRoleID true))
    let _ ← mapErr (·.wrap "create default namespace owner role binding")
      (createRoleBindingIfNotExists ((Place.namespace row.id defaultNS.id).grant p.ownerID nsAdminRoleID true))
    found "get workspace after create" (getWorkspaceByID row.id)

def listBlockingResources (workspaceID : Int) : DbM (List BlockingResourceRow) :=
  countWorkspaceBlockingResources workspaceID

def delete (id : Int) : DbM Unit := do
  deleteNamespacesByWorkspaceID id
  let rowsAffected ← mapErr (fun e => (checkPG e).wrap "delete workspace") (deleteWorkspace id)
  if rowsAffected = 0 then
    fail (.tagged ("workspace " ++ formatInt id) .notFound)

def deleteByIDs (ids : List Int) : DbM Nat :=
  if ids = [] then return 0
  else do
    deleteNamespacesByWorkspaceIDs ids
    mapErr (fun e => (checkPG e).wrap "delete workspaces by ids") (deleteWorkspacesByIDs ids)

end PgWorkspaceStore

namespace PgNamespaceStore

def create (p : CreateNamespaceParams) : DbM NamespaceWithOwnerRow :=
  atomically do
    let row ← mapErr (fun e => (checkPG e).wrap "create namespace") (createNamespace p)
    let nsAdminRoleID ← createBuiltinNamespaceRoles row.id
    let _ ← mapErr (·.wrap "create namespace owner role binding")
      (createRoleBindingIfNotExists ((Place.namespace p.workspaceID row.id).grant p.ownerID nsAdminRoleID true))
    found "get namespace after create" (getNamespaceByID row.id)

end PgNamespaceStore

def validateTenantName (name : String) : List FieldError :=
  if name = "" then [⟨"metadata.name", "is required"⟩]
  else fieldTest (nameRegexp name) "metadata.name" "must be 3-50 lowercase alphanumeric characters or hyphens"

def validateWorkspaceCreate (name : String) (spec : WorkspaceSpec) : List FieldError :=
  validateTenantName name
    ++ fieldTest (spec.ownerID ≠ "") "spec.ownerId" "is required"
    ++ fieldTest (runeCount spec.displayName ≤ 128) "spec.displayName" "must be at most 128 characters"
    ++ fieldTest (runeCount spec.description ≤ 1000) "spec.description" "must be at most 1000 characters"
    ++ fieldTest (spec.status ∈ ["", "active", "inactive"]) "spec.status" "must be 'active' or 'inactive'"

def validateNamespaceCreate (name : String) (spec : NamespaceSpec) : List FieldError :=
  validateTenantName name
    ++ fieldTest (spec.workspaceID ≠ "") "spec.workspaceId" "is required"
    ++ fieldTest (spec.ownerID ≠ "") "spec.ownerId" "is required"
    ++ fieldTest (runeCount spec.displayName ≤ 128) "spec.displayName" "must be at most 128 characters"
    ++ fieldTest (runeCount spec.description ≤ 1000) "spec.description" "must be at most 1000 characters"
    ++ fieldTest (spec.visibility ∈ ["", "public", "private"]) "spec.visibility" "must be 'public' or 'private'"
    ++ fieldTest (0 ≤ spec.maxMembers && spec.maxMembers ≤ 1000000) "spec.maxMembers"
      "must be between 0 and 1000000"

def orBadRequest {α : Type} (message : String) (x : DbM α) : DbM Unit := do
  match ← attempt x with
  | .ok _ => return ()
  | .error _ => fail (badRequest message)

def checkOwner (ownerID : Int) : DbM Unit :=
  orBadRequest ("owner user " ++ formatInt ownerID ++ " not found") (found "user" (getUserByID ownerID))

def requestID (field raw : String) : Except Err Int :=
  match parseInt raw with
  | some id => .ok id
  | none => .error (badRequest ("invalid " ++ field ++ ": " ++ raw))

variable (ctx : Ctx)

namespace WorkspaceOps

def owned (ws : Workspace) : Workspace :=
  match ctx.userID with
  | some userID => { ws with spec := { ws.spec with ownerID := formatInt userID } }
  | none => ws

def createInput (ownerID : Int) (ws : Workspace) : CreateWorkspaceParams where
  name := ws.name
  displayName := ws.spec.displayName
  description := ws.spec.description
  ownerID := ownerID
  status := if ws.spec.status = "" then "active" else ws.spec.status
  createdBy := ctx.userID

def create (ctx : Ctx) (ws : Workspace) : DbM Workspace := do
  let ws := owned ctx ws
  lift (validated (validateWorkspaceCreate ws.name ws.spec))
  if ctx.dryRun then
    return ws
  else
    let ownerID ← lift (requestID "ownerId" ws.spec.ownerID)
    checkOwner ownerID
    let created ← domainErr (PgWorkspaceStore.create (createInput ctx ownerID ws))
    return workspaceWithOwnerToAPI created

def checkBlocking (id : Int) : DbM Unit := do
  let rows ← domainErr (PgWorkspaceStore.listBlockingResources id)
  match blockingResourceError "workspace" rows with
  | some e => fail e
  | none => return ()

def delete (ctx : Ctx) (id : Int) : DbM Unit := do
  if ctx.dryRun then
    return ()
  else
    checkBlocking id
    domainErr (PgWorkspaceStore.delete id)

def batchDelete (ids : List Int) : DbM BatchResult := do
  if ctx.dryRun then
    return ⟨ids.length, 0, []⟩
  else
    forEach ids checkBlocking
    let count ← domainErr (PgWorkspaceStore.deleteByIDs ids)
    return ⟨count, ids.length - count, []⟩

end WorkspaceOps

namespace NamespaceOps

def owned (ns : Namespace) : Namespace :=
  { ns with spec := { ns.spec with
      workspaceID := if ctx.scope.level = scopeWorkspace then formatInt ctx.scope.workspaceID else ns.spec.workspaceID
      ownerID := match ctx.userID with
        | some userID => if ns.spec.ownerID = "" then formatInt userID else ns.spec.ownerID
        | none => ns.spec.ownerID } }

def createInput (workspaceID ownerID : Int) (ns : Namespace) : CreateNamespaceParams where
  name := ns.name
  displayName := ns.spec.displayName
  description := ns.spec.description
  workspaceID := workspaceID
  ownerID := ownerID
  visibility := ns.spec.visibility
  maxMembers := toInt32 ns.spec.maxMembers
  status := ns.spec.status
  createdBy := ctx.userID

def create (ctx : Ctx) (ns : Namespace) : DbM Namespace := do
  let ns := owned ctx ns
  lift (validated (validateNamespaceCreate ns.name ns.spec))
  if ctx.dryRun then
    return ns
  else
    let workspaceID ← lift (requestID "workspaceId" ns.spec.workspaceID)
    let ownerID ← lift (requestID "ownerId" ns.spec.ownerID)
    orBadRequest ("workspace " ++ formatInt workspaceID ++ " not found") (PgWorkspaceStore.getByID workspaceID)
    checkOwner ownerID
    let created ← domainErr (PgNamespaceStore.create (createInput ctx workspaceID ownerID ns))
    return namespaceWithOwnerToAPI created

end NamespaceOps

/-! A creation leaves all of the tenant or nothing. -/

section DryRun

variable {ctx : Ctx} (hdry : ctx.dryRun = true)
include hdry

namespace WorkspaceOps

theorem readsOnly_create (ws : Workspace) : ReadsOnly (create ctx ws) := by
  rw [create, hdry]
  exact .of_keeps fun _ => .bind (.lift _) fun _ => .pure _

theorem readsOnly_update (id : Int) (ws : Workspace) : ReadsOnly (update ctx id ws) := by
  intro db
  rw [exec_update, updatePlan, if_pos (by simp [hdry])]
  rfl

theorem readsOnly_patch (id : Int) (body : Body Workspace) : ReadsOnly (patch ctx id body) := by
  intro db
  rw [exec_patch, patchPlan, hdry]
  cases decodePatch body with
  | error e => rfl
  | ok ws => rfl

theorem readsOnly_delete (id : Int) : ReadsOnly (delete ctx id) := by
  rw [delete, hdry]
  exact fun _ => rfl

theorem readsOnly_batchDelete (ids : List Int) : ReadsOnly (batchDelete ctx ids) := by
  rw [batchDelete, hdry]
  exact fun _ => rfl

end WorkspaceOps

namespace NamespaceOps

theorem readsOnly_create (ns : Namespace) : ReadsOnly (create ctx ns) := by
  rw [create, hdry]
  exact .of_keeps fun _ => .bind (.lift _) fun _ => .pure _

theorem readsOnly_update (id : Int) (ns : Namespace) : ReadsOnly (update ctx id ns) := by
  intro db
  rw [exec_update, updatePlan, if_pos (by simp [hdry])]
  rfl

theorem readsOnly_patch (id : Int) (body : Body Namespace) : ReadsOnly (patch ctx id body) := by
  intro db
  rw [exec_patch, patchPlan, hdry]
  cases decodePatch body with
  | error e => rfl
  | ok ns => rfl

theorem readsOnly_delete (id : Int) : ReadsOnly (delete ctx id) := by
  rw [delete, hdry]
  exact fun _ => rfl

theorem readsOnly_batchDelete (ids : List Int) : ReadsOnly (batchDelete ctx ids) := by
  rw [batchDelete, hdry]
  exact fun _ => rfl

end NamespaceOps

end DryRun

end Vraxel.Iam
