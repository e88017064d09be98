import Vraxel.Db.Compute
import Vraxel.Db.RoleBindings
/-
  The statements that write `roles` and `role_permission_rules`
  (`pkg/db/query/role.sql`, `role_permission_rule.sql`). Each keeps its query's name.

  The rules of a role come in the order of the table; the order by pattern is left out.
-/

namespace Vraxel.Db

open Relational Api Txn

variable (db : DB) (roleID : Int)

def setRoles (t : Table RoleRow) (db : DB) : DB := { db with roles := t }

theorem roles_setRoles (t : Table RoleRow) (db : DB) : (setRoles t db).roles = t := rfl

theorem setRoles_roles : setRoles db.roles db = db := rfl

def rolesTable : Slot DB RoleRow := ⟨DB.roles, setRoles, roles_setRoles, setRoles_roles⟩

structure CreateRoleParams where
  name : String
  displayName : String
  description : String
  parts : ScopeParts
  builtin : Bool

def CreateRoleParams.row (p : CreateRoleParams) : RoleRow where
  id := 0
  name := p.name
  displayName := p.displayName
  description := p.description
  scope := p.parts.scope
  workspaceID := p.parts.workspaceID
  namespaceID := p.parts.namespaceID
  builtin := p.builtin
  chk := p.parts.chk

/-- The unique indexes of `roles`, one for each scope: the same name in the same place. -/
def RoleRow.sameName (a b : RoleRow) : Bool :=
  a.scope = b.scope && a.name = b.name &&
    match b.scope with
    | .platform => true
    | .workspace => a.workspaceID = b.workspaceID
    | .namespace => a.namespaceID = b.namespaceID

def createRoleChecks (p : CreateRoleParams) (db : DB) : Except Err Unit :=
  firstViolation ([
    varchar 255 p.name, varchar 255 p.displayName,
    (!db.roles.exists? (·.sameName p.row), uniqueViolation ("uk_roles_" ++ p.parts.scope.name))]
    ++ tenancyRefs "roles" p.parts db)

def createRole (p : CreateRoleParams) : DbM RoleRow := rolesTable.insert (createRoleChecks p) p.row

def updateRole (id : Int) (displayName description : String) : DbM (Option RoleRow) := do
  let _ ← rolesTable.update (fun r => r.id = id) (fun _ => firstViolation [varchar 255 displayName])
    fun r => { r with displayName := displayName, description := description }
  getRoleByID id

def dropRole (id : Int) (db : DB) : DB :=
  let gone (i : Int) : Bool := db.roles.exists? fun r => r.id = id && r.id = i
  { db with
    roles := db.roles.delete fun r => r.id = id
    rolePermissionRules := db.rolePermissionRules.filter fun r => !gone r.roleID
    roleBindings := db.roleBindings.delete fun b => gone b.roleID }

def deleteRole (id : Int) : DbM Nat :=
  stmt fun db => .ok (db.roles.count fun r => r.id = id, dropRole id db)

/-- `AddRolePermissionRule`; a rule that the role has already is left. -/
def addRolePermissionRule (pattern : String) : DbM Unit :=
  stmt fun db =>
    if ⟨roleID, pattern⟩ ∈ db.rolePermissionRules then .ok ((), db)
    else (firstViolation [varchar 255 pattern,
      (references db.roles (some roleID), foreignKeyViolation "role_permission_rules" "role_id" roleID "roles")]).map
        fun _ => ((), { db with rolePermissionRules := db.rolePermissionRules ++ [⟨roleID, pattern⟩] })

def deleteRolePermissionRules : DbM Unit :=
  write fun db => { db with rolePermissionRules := db.rolePermissionRules.filter fun r => r.roleID ≠ roleID }

def getRulesByRoleID : DbM (List String) :=
  read fun db => (db.rolePermissionRules.filter fun r => r.roleID = roleID).map (·.pattern)

def countRoleBindingsByRoleAndScope (scope : Scope) : DbM Nat :=
  read fun db => db.roleBindings.count fun b => b.roleID = roleID && b.scope = scope

end Vraxel.Db
