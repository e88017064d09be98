import Vraxel.Db.Schema
/-
  The statements on `roles` and `role_bindings` (`pkg/db/query/role.sql`,
  `role_binding.sql`). Each keeps its query's name.

  PostgreSQL tests an INSERT against the CHECK constraints, which rows here meet by type, then
  against the unique indexes, and last against the foreign keys.
-/

namespace Vraxel.Db

open Relational Api Txn

def getRoleByName (name : String) : DbM (Option RoleRow) :=
  read fun db => db.roles.find? fun r => r.name = name && r.scope = .platform

def workspaceRole? (db : DB) (name : String) (workspaceID : Int) : Option RoleRow :=
  db.roles.find? fun r => r.name = name && r.scope = .workspace && r.workspaceID = some workspaceID

def namespaceRole? (db : DB) (name : String) (namespaceID : Int) : Option RoleRow :=
  db.roles.find? fun r => r.name = name && r.scope = .namespace && r.namespaceID = some namespaceID

def getRoleByNameAndWorkspace (name : String) (workspaceID : Int) : DbM (Option RoleRow) :=
  read fun db => workspaceRole? db name workspaceID

def getRoleByNameAndNamespace (name : String) (namespaceID : Int) : DbM (Option RoleRow) :=
  read fun db => namespaceRole? db name namespaceID

def getRoleByID (id : Int) : DbM (Option RoleRow) := read fun db => db.roles.get? id

/-- Where a role is bound. The ids are the ones `chk_binding_ids` asks for, so a
grant at a place is a row by construction. -/
inductive Place where
  | platform
  | workspace (w : Int)
  | namespace (w n : Int)

namespace Place

def scope : Place → Scope
  | .platform => .platform
  | .workspace _ => .workspace
  | .namespace _ _ => .namespace

def workspaceID : Place → Option Int
  | .platform => none
  | .workspace w => some w
  | .namespace w _ => some w

def namespaceID : Place → Option Int
  | .platform => none
  | .workspace _ => none
  | .namespace _ n => some n

theorem chkBindingIds : ∀ p : Place, Db.chkBindingIds p.scope p.workspaceID p.namespaceID
  | .platform => rfl
  | .workspace _ => rfl
  | .namespace _ _ => rfl

def grant (p : Place) (userID roleID : Int) (isOwner : Bool) : RoleBindingRow where
  id := 0
  userID := userID
  roleID := roleID
  scope := p.scope
  workspaceID := p.workspaceID
  namespaceID := p.namespaceID
  isOwner := isOwner
  chk := p.chkBindingIds

end Place

def RoleBindingRow.isAt (b : RoleBindingRow) : Scope → Int → Bool
  | .platform, _ => b.scope = .platform
  | .workspace, w => b.scope = .workspace && b.workspaceID = some w
  | .namespace, n => b.scope = .namespace && b.namespaceID = some n

/-- The unique indexes of `role_bindings`, one for each scope: the two rows grant
the same role to the same user in the same place. -/
def RoleBindingRow.sameGrant (a b : RoleBindingRow) : Bool :=
  a.scope = b.scope && a.userID = b.userID && a.roleID = b.roleID &&
    match b.scope with
    | .platform => true
    | .workspace => a.workspaceID = b.workspaceID
    | .namespace => a.namespaceID = b.namespaceID

theorem isAt_of_sameGrant {b row : RoleBindingRow} (h : b.sameGrant row) :
    b.userID = row.userID ∧ ∀ s id, b.isAt s id = row.isAt s id := by
  simp only [RoleBindingRow.sameGrant, Bool.and_eq_true, decide_eq_true_eq] at h
  obtain ⟨⟨⟨hscope, huser⟩, -⟩, hid⟩ := h
  refine ⟨huser, fun s id => ?_⟩
  cases s <;> cases hs : row.scope <;> rw [hs] at hid <;> simp_all [RoleBindingRow.isAt]

theorem isAt_grant_namespace (place : Place) (u r n : Int) (o : Bool) :
    (place.grant u r o).isAt .namespace n ↔ ∃ w, place = .namespace w n := by
  cases place <;> simp [RoleBindingRow.isAt, Place.grant, Place.scope, Place.namespaceID]

theorem isAt_grant_workspace (place : Place) (u r w : Int) (o : Bool) :
    (place.grant u r o).isAt .workspace w ↔ place = .workspace w := by
  cases place <;> simp [RoleBindingRow.isAt, Place.grant, Place.scope, Place.workspaceID]

def roleBindingRefs (row : RoleBindingRow) (db : DB) : Except Err Unit :=
  let fk (ok : Bool) (column : String) (value : Option Int) (table : String) : Bool × Err :=
    (ok, foreignKeyViolation "role_bindings" column (value.getD 0) table)
  firstViolation [
    fk (references db.users (some row.userID)) "user_id" (some row.userID) "users",
    fk (references db.roles (some row.roleID)) "role_id" (some row.roleID) "roles",
    fk (references db.workspaces row.workspaceID) "workspace_id" row.workspaceID "workspaces",
    fk (references db.namespaces row.namespaceID) "namespace_id" row.namespaceID "namespaces"]

def createRoleBindingIfNotExists (row : RoleBindingRow) : DbM Nat :=
  roleBindingsTable.insertIfNew (·.sameGrant row) (roleBindingRefs row) row

/-- `AddWorkspaceMemberRole`; its conflict target is the index of its scope. -/
def addWorkspaceMemberRole (userID roleID workspaceID : Int) : DbM Unit := do
  let _ ← createRoleBindingIfNotExists ((Place.workspace workspaceID).grant userID roleID false)

def addNamespaceMemberRole (userID roleID workspaceID namespaceID : Int) : DbM Unit := do
  let _ ← createRoleBindingIfNotExists ((Place.namespace workspaceID namespaceID).grant userID roleID false)

def getRoleBindingByID (id : Int) : DbM (Option RoleBindingRow) := read fun db => db.roleBindings.get? id

def deleteRoleBinding (id : Int) : DbM Nat := roleBindingsTable.delete fun _ b => b.id = id

def deleteRoleBindingsByIDs (ids : List Int) : DbM Nat :=
  roleBindingsTable.delete fun _ b => b.id ∈ ids && !b.isOwner

def deleteNonOwnerBindings (scope : Scope) (userID id : Int) : DbM Nat :=
  roleBindingsTable.delete fun _ b => b.userID = userID && b.isAt scope id && !b.isOwner

def deleteNonOwnerWorkspaceBindings (userID workspaceID : Int) : DbM Nat :=
  deleteNonOwnerBindings .workspace userID workspaceID

def deleteNonOwnerNamespaceBindings (userID namespaceID : Int) : DbM Nat :=
  deleteNonOwnerBindings .namespace userID namespaceID

/-! Owners of a workspace or a namespace. -/

def getOwnerForUpdate (scope : Scope) (id : Int) : DbM (Option Int) :=
  read fun db => (db.roleBindings.find? fun b => b.isAt scope id && b.isOwner).map (·.userID)

def getWorkspaceOwnerForUpdate (workspaceID : Int) : DbM (Option Int) :=
  getOwnerForUpdate .workspace workspaceID

def getNamespaceOwnerForUpdate (namespaceID : Int) : DbM (Option Int) :=
  getOwnerForUpdate .namespace namespaceID

def existsMember (scope : Scope) (userID id : Int) : DbM Bool :=
  read fun db => db.roleBindings.exists? fun b => b.userID = userID && b.isAt scope id

def existsWorkspaceMember (userID workspaceID : Int) : DbM Bool := existsMember .workspace userID workspaceID

def existsNamespaceMember (userID namespaceID : Int) : DbM Bool := existsMember .namespace userID namespaceID

def clearScopeOwner (scope : Scope) (id : Int) : DbM Unit := do
  let _ ← roleBindingsTable.update (fun b => b.isAt scope id && b.isOwner) (fun _ => .ok ())
    fun b => { b with isOwner := false }

def clearWorkspaceOwner (workspaceID : Int) : DbM Unit := clearScopeOwner .workspace workspaceID

def clearNamespaceOwner (namespaceID : Int) : DbM Unit := clearScopeOwner .namespace namespaceID

def upsertOwnerGrant (row : RoleBindingRow) : DbM Unit :=
  roleBindingsTable.upsert (·.sameGrant row) (roleBindingRefs row) row fun b => { b with isOwner := true }

def upsertWorkspaceOwner (userID roleID workspaceID : Int) : DbM Unit :=
  upsertOwnerGrant ((Place.workspace workspaceID).grant userID roleID true)

def upsertNamespaceOwner (userID roleID workspaceID namespaceID : Int) : DbM Unit :=
  upsertOwnerGrant ((Place.namespace workspaceID namespaceID).grant userID roleID true)

end Vraxel.Db
