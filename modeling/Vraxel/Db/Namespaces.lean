import Vraxel.Db.Schema
/-
  The statements on `namespaces` (`pkg/db/query/namespace.sql`,
  `scope_resource_check.sql`). Each keeps its query's name.

  A deletion cascades along the foreign keys: to the namespace's roles with their rules and
  bindings, and to its bindings, alert rules and join tokens. Hosts carry no foreign key.
-/

namespace Vraxel.Db

open Relational Api Txn

structure NamespaceWithOwnerRow extends NamespaceRow where
  ownerUsername : String
  workspaceName : String
  creatorName : String
  memberCount : Nat
  roleBindingCount : Nat

namespace DB

variable (db : DB)

def namespaceMemberCount (n : Int) : Nat :=
  ((db.roleBindings.select fun b => b.scope = .namespace && b.namespaceID = some n).map
    (·.userID)).dedup.length

def namespaceBindingCount (n : Int) : Nat :=
  db.roleBindings.count fun b => b.scope = .namespace && b.namespaceID = some n

end DB

variable (id namespaceID : Int)

def namespaceDetail? (db : DB) (id : Int) : Option NamespaceWithOwnerRow := do
  let ns ← db.namespaces.get? id
  let u ← db.users.get? ns.ownerID
  let w ← db.workspaces.get? ns.workspaceID
  return { ns with
    ownerUsername := u.username
    workspaceName := w.name
    creatorName := db.creatorName ns.createdBy
    memberCount := db.namespaceMemberCount id
    roleBindingCount := db.namespaceBindingCount id }

theorem namespaceDetail?_some {db : DB} {n : Int} {ns : NamespaceWithOwnerRow}
    (h : namespaceDetail? db n = some ns) : db.workspaceOf n = some ns.workspaceID ∧
      references db.workspaces (some ns.workspaceID) ∧ references db.namespaces (some n) := by
  simp only [namespaceDetail?, Option.bind_eq_bind, Option.bind_eq_some_iff] at h
  obtain ⟨row, hrow, u, -, w, hw, hns⟩ := h
  cases hns
  exact ⟨by simp [DB.workspaceOf, hrow], by simp [references, hw], by simp [references, hrow]⟩

def getNamespaceByID : DbM (Option NamespaceWithOwnerRow) := read fun db => namespaceDetail? db id

def getNamespaceWorkspaceID : DbM (Option Int) := read fun db => db.workspaceOf id

def countUsersByNamespaceID : DbM Nat := read fun db => db.namespaceMemberCount namespaceID

structure NamespaceUpdateInput where
  id : Int
  name : String
  displayName : String
  description : String
  ownerID : Int
  visibility : String
  maxMembers : Int
  status : String

/-- What the two updates return: the row, with its owner's and its workspace's
name by subquery. The foreign keys make sure that both are there. -/
def returningNamespace : DbM (Option NamespaceWithOwnerRow) :=
  read fun db => (db.namespaces.get? id).map fun ns => { ns with
    ownerUsername := ((db.users.get? ns.ownerID).map (·.username)).getD ""
    workspaceName := ((db.workspaces.get? ns.workspaceID).map (·.name)).getD ""
    creatorName := ""
    memberCount := db.namespaceMemberCount id
    roleBindingCount := db.namespaceBindingCount id }

variable (p : NamespaceUpdateInput)

def NamespaceUpdateInput.set (ns : NamespaceRow) : NamespaceRow :=
  { ns with
    name := p.name
    displayName := p.displayName
    description := p.description
    ownerID := p.ownerID
    visibility := p.visibility
    maxMembers := p.maxMembers
    status := p.status }

/-- The columns `PatchNamespace` sets: an empty string and a zero are NULL, and
`COALESCE` keeps what the row holds. -/
def NamespaceUpdateInput.patch (ns : NamespaceRow) : NamespaceRow :=
  let str (new old : String) : String := if new = "" then old else new
  let int (new old : Int) : Int := if new = 0 then old else new
  { ns with
    name := str p.name ns.name
    displayName := str p.displayName ns.displayName
    description := str p.description ns.description
    ownerID := int p.ownerID ns.ownerID
    visibility := str p.visibility ns.visibility
    maxMembers := int p.maxMembers ns.maxMembers
    status := str p.status ns.status }

/-- The constraints on the values a statement writes; `nulls` are the ones it leaves. -/
def namespaceChecks (nulls : Bool) (db : DB) : Except Err Unit :=
  firstViolation [
    varchar 255 p.name, varchar 255 p.displayName, varchar 20 p.visibility, varchar 20 p.status,
    ((nulls && p.name = "") || !db.namespaces.exists? fun ns => ns.name = p.name && ns.id ≠ p.id,
      uniqueViolation "namespaces_name_key"),
    ((nulls && p.ownerID = 0) || references db.users (some p.ownerID),
      foreignKeyViolation "namespaces" "owner_id" p.ownerID "users")]

def writeNamespace (nulls : Bool) (f : NamespaceRow → NamespaceRow) :
    DbM (Option NamespaceWithOwnerRow) := do
  let _ ← namespacesTable.update (fun ns => ns.id = p.id) (namespaceChecks p nulls) f
  returningNamespace p.id

def updateNamespace : DbM (Option NamespaceWithOwnerRow) :=
  writeNamespace p false p.set

def patchNamespace : DbM (Option NamespaceWithOwnerRow) :=
  writeNamespace p true p.patch

def dropNamespaces (ids : List Int) (db : DB) : DB :=
  let gone (n : Option Int) : Bool := db.namespaces.exists? fun ns => ns.id ∈ ids && n = some ns.id
  let goneRole (i : Int) : Bool := db.roles.exists? fun r => r.id = i && gone r.namespaceID
  { db with
    namespaces := db.namespaces.delete fun ns => ns.id ∈ ids
    roles := db.roles.delete fun r => gone r.namespaceID
    rolePermissionRules := db.rolePermissionRules.filter fun r => !goneRole r.roleID
    roleBindings := db.roleBindings.delete fun b => gone b.namespaceID || goneRole b.roleID
    hostAlertRules := db.hostAlertRules.delete fun r => gone r.namespaceID
    joinTokens := db.joinTokens.delete fun t => gone t.namespaceID }

theorem dropNamespaces_eq_self {ids : List Int} {db : DB} (h : ∀ ns ∈ db.namespaces, ns.id ∉ ids) :
    dropNamespaces ids db = db := by
  have hgone (n : Option Int) : (db.namespaces.exists? fun ns => ns.id ∈ ids && n = some ns.id) = false :=
    Table.exists?_eq_false.2 fun ns hns => by simp [h ns hns]
  have hrole (i : Int) : (db.roles.exists? fun r => r.id = i && false) = false :=
    Table.exists?_eq_false.2 fun r _ => by simp
  have hns : (db.namespaces.delete fun ns => ns.id ∈ ids) = db.namespaces :=
    Table.delete_eq_self fun ns hns => by simpa using h ns hns
  simp only [dropNamespaces, hgone, hrole, hns, Bool.or_self, Bool.not_false, List.filter_true]
  rw [Table.delete_eq_self fun _ _ => rfl, Table.delete_eq_self fun _ _ => rfl,
    Table.delete_eq_self fun _ _ => rfl, Table.delete_eq_self fun _ _ => rfl]

def deleteNamespacesByIDs (ids : List Int) : DbM Nat :=
  stmt fun db => .ok (db.namespaces.count fun ns => ns.id ∈ ids, dropNamespaces ids db)

def deleteNamespace : DbM Nat := deleteNamespacesByIDs [id]

def deleteNamespacesByWorkspaceIDs (workspaceIDs : List Int) : DbM Unit :=
  write fun db =>
    dropNamespaces ((db.namespaces.select fun ns => ns.workspaceID ∈ workspaceIDs).map (·.id)) db

def deleteNamespacesByWorkspaceID (workspaceID : Int) : DbM Unit := deleteNamespacesByWorkspaceIDs [workspaceID]

structure CreateNamespaceParams where
  name : String
  displayName : String
  description : String
  workspaceID : Int
  ownerID : Int
  visibility : String
  maxMembers : Int
  status : String
  createdBy : Option Int

def CreateNamespaceParams.row (p : CreateNamespaceParams) : NamespaceRow where
  id := 0
  name := p.name
  displayName := p.displayName
  description := p.description
  workspaceID := p.workspaceID
  ownerID := p.ownerID
  visibility := p.visibility
  maxMembers := p.maxMembers
  status := p.status
  createdBy := p.createdBy

def createNamespaceChecks (p : CreateNamespaceParams) (db : DB) : Except Err Unit :=
  firstViolation [
    varchar 255 p.name, varchar 255 p.displayName, varchar 20 p.visibility, varchar 20 p.status,
    (!db.namespaces.exists? (·.name = p.name), uniqueViolation "namespaces_name_key"),
    (references db.workspaces (some p.workspaceID),
      foreignKeyViolation "namespaces" "workspace_id" p.workspaceID "workspaces"),
    (references db.users (some p.ownerID), foreignKeyViolation "namespaces" "owner_id" p.ownerID "users"),
    (references db.users p.createdBy, foreignKeyViolation "namespaces" "created_by" (p.createdBy.getD 0) "users")]

def createNamespace (p : CreateNamespaceParams) : DbM NamespaceRow :=
  namespacesTable.insert (createNamespaceChecks p) p.row

/-- One row of `CountNamespaceBlockingResources` and `CountWorkspaceBlockingResources`. -/
structure BlockingResourceRow where
  kind : String
  count : Nat

def blockingResources (db : DB) (namespaceID : Int) : List BlockingResourceRow :=
  [⟨"host", db.hosts.count fun h => h.namespaceID = some namespaceID⟩].filter (·.count > 0)

def countNamespaceBlockingResources : DbM (List BlockingResourceRow) :=
  read fun db => blockingResources db namespaceID

def countWorkspaceBlockingResources (workspaceID : Int) : DbM (List BlockingResourceRow) :=
  read fun db => [⟨"host", db.hosts.count fun h => h.workspaceID = some workspaceID ||
    db.namespaces.exists? fun ns => ns.workspaceID = workspaceID && h.namespaceID = some ns.id⟩].filter (·.count > 0)

end Vraxel.Db
