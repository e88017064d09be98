import Vraxel.Db.Schema
/-
  The statements on `workspaces` (`pkg/db/query/workspace.sql`). Each keeps its
  query's name.
-/

namespace Vraxel.Db

open Relational Api Txn

structure WorkspaceWithOwnerRow extends WorkspaceRow where
  ownerUsername : String
  creatorName : String
  namespaceCount : Nat
  memberCount : Nat
  roleBindingCount : Nat

namespace DB

variable (db : DB)

def workspaceNamespaceCount (w : Int) : Nat := db.namespaces.count fun ns => ns.workspaceID = w

def workspaceMemberCount (w : Int) : Nat :=
  ((db.roleBindings.select fun b => b.scope = .workspace && b.workspaceID = some w).map
    (·.userID)).dedup.length

def workspaceBindingCount (w : Int) : Nat :=
  db.roleBindings.count fun b => b.scope = .workspace && b.workspaceID = some w

end DB

def getWorkspaceByID (id : Int) : DbM (Option WorkspaceWithOwnerRow) := read fun db => do
  let ws ← db.workspaces.get? id
  let u ← db.users.get? ws.ownerID
  return { ws with
    ownerUsername := u.username
    creatorName := db.creatorName ws.createdBy
    namespaceCount := db.workspaceNamespaceCount id
    memberCount := db.workspaceMemberCount id
    roleBindingCount := db.workspaceBindingCount id }

structure WorkspaceUpdateInput where
  id : Int
  name : String
  displayName : String
  description : String
  ownerID : Int
  status : String

def returningWorkspace (id : Int) : DbM (Option WorkspaceWithOwnerRow) :=
  read fun db => (db.workspaces.get? id).map fun ws => { ws with
    ownerUsername := ((db.users.get? ws.ownerID).map (·.username)).getD ""
    creatorName := ""
    namespaceCount := db.workspaceNamespaceCount id
    memberCount := db.workspaceMemberCount id
    roleBindingCount := db.workspaceBindingCount id }

variable (p : WorkspaceUpdateInput)

def WorkspaceUpdateInput.set (ws : WorkspaceRow) : WorkspaceRow :=
  { ws with
    name := p.name
    displayName := p.displayName
    description := p.description
    ownerID := p.ownerID
    status := p.status }

/-- The columns `PatchWorkspace` sets: an empty string and a zero are NULL, and
`COALESCE` keeps what the row holds. -/
def WorkspaceUpdateInput.patch (ws : WorkspaceRow) : WorkspaceRow :=
  let str (new old : String) : String := if new = "" then old else new
  { ws with
    name := str p.name ws.name
    displayName := str p.displayName ws.displayName
    description := str p.description ws.description
    ownerID := if p.ownerID = 0 then ws.ownerID else p.ownerID
    status := str p.status ws.status }

/-- The constraints on the values a statement writes; `nulls` are the ones it leaves. -/
def workspaceChecks (nulls : Bool) (db : DB) : Except Err Unit :=
  firstViolation [
    varchar 255 p.name, varchar 255 p.displayName, varchar 20 p.status,
    ((nulls && p.name = "") || !db.workspaces.exists? fun ws => ws.name = p.name && ws.id ≠ p.id,
      uniqueViolation "workspaces_name_key"),
    ((nulls && p.ownerID = 0) || references db.users (some p.ownerID),
      foreignKeyViolation "workspaces" "owner_id" p.ownerID "users")]

def writeWorkspace (nulls : Bool) (f : WorkspaceRow → WorkspaceRow) :
    DbM (Option WorkspaceWithOwnerRow) := do
  let _ ← workspacesTable.update (fun ws => ws.id = p.id) (workspaceChecks p nulls) f
  returningWorkspace p.id

def updateWorkspace : DbM (Option WorkspaceWithOwnerRow) :=
  writeWorkspace p false p.set

def patchWorkspace : DbM (Option WorkspaceWithOwnerRow) :=
  writeWorkspace p true p.patch

/-! Creation and deletion. -/

structure CreateWorkspaceParams where
  name : String
  displayName : String
  description : String
  ownerID : Int
  status : String
  createdBy : Option Int

def CreateWorkspaceParams.row (p : CreateWorkspaceParams) : WorkspaceRow where
  id := 0
  name := p.name
  displayName := p.displayName
  description := p.description
  ownerID := p.ownerID
  status := p.status
  createdBy := p.createdBy

def createWorkspaceChecks (p : CreateWorkspaceParams) (db : DB) : Except Err Unit :=
  firstViolation [
    varchar 255 p.name, varchar 255 p.displayName, varchar 20 p.status,
    (!db.workspaces.exists? (·.name = p.name), uniqueViolation "workspaces_name_key"),
    (references db.users (some p.ownerID), foreignKeyViolation "workspaces" "owner_id" p.ownerID "users"),
    (references db.users p.createdBy, foreignKeyViolation "workspaces" "created_by" (p.createdBy.getD 0) "users")]

def createWorkspace (p : CreateWorkspaceParams) : DbM WorkspaceRow :=
  workspacesTable.insert (createWorkspaceChecks p) p.row

/-- The database without the workspaces `ids`: their roles with rules and bindings, their
bindings, alert rules and join tokens cascade. -/
def dropWorkspaces (ids : List Int) (db : DB) : DB :=
  let gone (w : Option Int) : Bool := db.workspaces.exists? fun ws => ws.id ∈ ids && w = some ws.id
  let goneRole (i : Int) : Bool := db.roles.exists? fun r => r.id = i && gone r.workspaceID
  { db with
    workspaces := db.workspaces.delete fun ws => ws.id ∈ ids
    roles := db.roles.delete fun r => gone r.workspaceID
    rolePermissionRules := db.rolePermissionRules.filter fun r => !goneRole r.roleID
    roleBindings := db.roleBindings.delete fun b => gone b.workspaceID || goneRole b.roleID
    hostAlertRules := db.hostAlertRules.delete fun r => gone r.workspaceID
    joinTokens := db.joinTokens.delete fun t => gone t.workspaceID }

def workspaceReferenced (id : Int) : Err :=
  .ofPg ⟨.foreignKeyViolation,
    "update or delete on table \"workspaces\" violates foreign key constraint "
      ++ "\"namespaces_workspace_id_fkey\" on table \"namespaces\"",
    "Key (id)=(" ++ Strconv.formatInt id ++ ") is still referenced from table \"namespaces\".",
    "namespaces_workspace_id_fkey"⟩

def deleteWorkspacesByIDs (ids : List Int) : DbM Nat :=
  stmt fun db =>
    match db.workspaces.find? fun ws => ws.id ∈ ids && db.namespaces.exists? (·.workspaceID = ws.id) with
    | some ws => .error (workspaceReferenced ws.id)
    | none => .ok (db.workspaces.count fun ws => ws.id ∈ ids, dropWorkspaces ids db)

def deleteWorkspace (id : Int) : DbM Nat := deleteWorkspacesByIDs [id]

end Vraxel.Db
