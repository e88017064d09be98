import Vraxel.ApiServer.Ctx
import Vraxel.Db.Namespaces
import Vraxel.Db.RoleBindings
/-
  Role bindings: the store (`iam/store/pg_role_binding.go`) and the operations of
  the three rolebindings resources (`iam/storage_rolebinding.go`).

  The notifications that make other instances reload a user's rules are in `Server.Notices`: they do
  not touch the database.
-/

namespace Vraxel.Iam

open Relational Api Db Txn ApiServer Strconv

def domainErr {α : Type} (x : DbM α) : DbM α := mapErr (mapDomain · "") x

namespace PgRoleBindingStore

def notFound (id : Int) : Err := .tagged ("roleBinding " ++ formatInt id) .notFound

def getByID (id : Int) : DbM RoleBindingRow := do
  match ← getRoleBindingByID id with
  | some row => return row
  | none => fail (notFound id)

def delete (id : Int) : DbM Unit := do
  let _ ← getByID id
  let rowsAffected ← Db.deleteRoleBinding id
  if rowsAffected = 0 then
    fail (.tagged ("rolebinding " ++ formatInt id) .notFound)

def deleteByIDs (ids : List Int) : DbM Nat :=
  if ids = [] then return 0 else deleteRoleBindingsByIDs ids

def createAll : List RoleBindingRow → DbM Nat
  | [] => return 0
  | row :: rows => do
    let n ← createRoleBindingIfNotExists row
    let m ← createAll rows
    return n + m

def createMany (inputs : List RoleBindingRow) : DbM Nat :=
  if inputs = [] then return 0
  else mapErr (fun e => (checkPG e).wrap "create role bindings") (atomically (createAll inputs))

end PgRoleBindingStore

/-- `pgRoleStore.GetByID`; the checks of a binding do not read the role's rules. -/
def PgRoleStore.getByID (id : Int) : DbM RoleRow := do
  match ← getRoleByID id with
  | some role => return role
  | none => fail (.tagged ("role " ++ formatInt id) .notFound)

def PgNamespaceStore.getByID (id : Int) : DbM NamespaceWithOwnerRow := do
  match ← getNamespaceByID id with
  | some ns => return ns
  | none => fail (.tagged ("namespace " ++ formatInt id) .notFound)

structure BatchRequest where
  ids : List String
  roleID : String

def parseUserIDs (ids : List String) : Except Err (List Int) :=
  ids.mapM fun raw => match parseInt raw with
    | some id => .ok id
    | none => .error (badRequest ("invalid user ID: " ++ raw))

variable (ctx : Ctx)

def batchBindRole (body : Body BatchRequest) (place : Place)
    (checkRole : RoleRow → Except Err Unit) : DbM BatchResult := do
  let req ← lift (decodePatch body)
  if req.ids = [] then
    fail (badRequest "ids is required")
  else if req.roleID = "" then
    fail (badRequest "roleId is required")
  else match parseInt req.roleID with
  | none => fail (badRequest ("invalid role ID: " ++ req.roleID))
  | some roleID =>
    let role ← domainErr (PgRoleStore.getByID roleID)
    lift (checkRole role)
    let userIDs ← lift (parseUserIDs req.ids)
    if ctx.dryRun then
      return ⟨userIDs.length, 0, []⟩
    else
      let created ← domainErr (PgRoleBindingStore.createMany
        (userIDs.map fun userID => place.grant userID roleID false))
      return ⟨created, userIDs.length - created, []⟩

def deleteRoleBinding (id : Int) : DbM Unit := do
  let existing ← domainErr (PgRoleBindingStore.getByID id)
  if existing.isOwner then
    fail (badRequest "cannot delete owner role binding")
  else if ctx.dryRun then
    return ()
  else
    PgRoleBindingStore.delete id

def deleteRoleBindingsCollection (ids : List Int) : DbM BatchResult := do
  if ctx.dryRun then
    return ⟨ids.length, 0, []⟩
  else
    let deleted ← domainErr (PgRoleBindingStore.deleteByIDs ids)
    return ⟨deleted, ids.length - deleted, []⟩

def checkRoleAt (scope : Db.Scope) (belongs : RoleRow → Bool) (place : String) (role : RoleRow) :
    Except Err Unit :=
  if role.scope ≠ scope then
    .error (badRequest ("role scope must be '" ++ scope.name ++ "' for " ++ scope.name ++ "-level bindings"))
  else if !belongs role then
    .error (badRequest ("role does not belong to this " ++ place))
  else .ok ()

namespace RoleBindingOps

def create (ctx : Ctx) (body : Body BatchRequest) : DbM BatchResult :=
  batchBindRole ctx body .platform (checkRoleAt .platform (fun _ => true) "platform")

def delete (ctx : Ctx) (id : Int) : DbM Unit := deleteRoleBinding ctx id

def batchDelete (ctx : Ctx) (ids : List Int) : DbM BatchResult := deleteRoleBindingsCollection ctx ids

end RoleBindingOps

namespace WorkspaceRoleBindingOps

def create (ctx : Ctx) (body : Body BatchRequest) : DbM BatchResult :=
  let wsID := ctx.scope.workspaceID
  batchBindRole ctx body (.workspace wsID)
    (checkRoleAt .workspace (fun role => role.workspaceID = some wsID) "workspace")

def delete (ctx : Ctx) (id : Int) : DbM Unit := deleteRoleBinding ctx id

def batchDelete (ctx : Ctx) (ids : List Int) : DbM BatchResult := deleteRoleBindingsCollection ctx ids

end WorkspaceRoleBindingOps

namespace NamespaceRoleBindingOps

def create (ctx : Ctx) (body : Body BatchRequest) : DbM BatchResult := do
  let nsID := ctx.scope.namespaceID
  let ns ← domainErr (PgNamespaceStore.getByID nsID)
  batchBindRole ctx body (.namespace ns.workspaceID nsID)
    (checkRoleAt .namespace (fun role => role.namespaceID = some nsID) "namespace")

def delete (ctx : Ctx) (id : Int) : DbM Unit := deleteRoleBinding ctx id

def batchDelete (ctx : Ctx) (ids : List Int) : DbM BatchResult := deleteRoleBindingsCollection ctx ids

end NamespaceRoleBindingOps

/-! What a deletion removes. -/

def dropBindings (ids : List Int) (db : DB) : DB :=
  { db with roleBindings := db.roleBindings.delete fun b => b.id ∈ ids && !b.isOwner }

theorem dropBindings_eq_self {ids : List Int} {db : DB}
    (h : ∀ b ∈ db.roleBindings, b.id ∈ ids → b.isOwner) : dropBindings ids db = db := by
  have hself : (db.roleBindings.delete fun b => b.id ∈ ids && !b.isOwner) = db.roleBindings :=
    Table.delete_eq_self fun b hb => by simpa using h b hb
  rw [dropBindings, hself]

namespace PgRoleBindingStore

theorem run_getByID (id : Int) (db : DB) : (getByID id).run db =
    (match db.roleBindings.get? id with | some row => .ok row | none => .error (notFound id), db) := by
  simp only [getByID, getRoleBindingByID, run_read_bind]
  split <;> rfl

theorem exec_delete {id : Int} {db : DB} {row : RoleBindingRow} (h : db.roleBindings.get? id = some row) :
    (delete id).exec db = { db with roleBindings := db.roleBindings.delete fun b => b.id = id } := by
  have hdel : (Db.deleteRoleBinding id).run db = (.ok (db.roleBindings.count fun b => b.id = id),
      { db with roleBindings := db.roleBindings.delete fun b => b.id = id }) := rfl
  simp only [M.exec, delete, run_bind, run_getByID, h, hdel]
  split <;> rfl

end PgRoleBindingStore

theorem exec_deleteRoleBinding (id : Int) (db : DB) :
    (deleteRoleBinding ctx id).exec db = if ctx.dryRun then db else dropBindings [id] db := by
  cases hget : db.roleBindings.get? id with
  | none =>
    have hdrop : dropBindings [id] db = db := dropBindings_eq_self fun b hb hid =>
      absurd (List.mem_singleton.1 hid) (Table.get?_eq_none_iff.1 hget b hb)
    simp [hdrop, M.exec, deleteRoleBinding, domainErr, run_bind, run_mapErr,
      PgRoleBindingStore.run_getByID, hget]
  | some row =>
    obtain ⟨hrow, hid⟩ := Table.get?_eq_some_iff.1 hget
    -- the row is the only one with the id
    have huniq : ∀ b ∈ db.roleBindings, b.id = id → b = row := fun b hb h =>
      Table.eq_of_key_eq _ hb hrow (h.trans hid.symm)
    have hrun : (domainErr (PgRoleBindingStore.getByID id)).run db = (.ok row, db) := by
      simp [domainErr, run_mapErr, PgRoleBindingStore.run_getByID, hget]
    rw [M.exec, deleteRoleBinding, run_bind_of_ok hrun]
    cases hown : row.isOwner with
    | true =>
      have hdrop : dropBindings [id] db = db := dropBindings_eq_self fun b hb h => by
        rw [huniq b hb (List.mem_singleton.1 h), hown]
      simp [hdrop]
    | false =>
      have hdrop : (db.roleBindings.delete fun b => b.id ∈ [id] && !b.isOwner) =
          db.roleBindings.delete fun b => b.id = id := Table.delete_congr fun b hb => by
        by_cases h : b.id = id
        · simp [huniq b hb h, hown]
        · simp [h]
      cases ctx.dryRun with
      | true => rfl
      | false =>
        have hexec := PgRoleBindingStore.exec_delete hget
        rw [← hdrop] at hexec
        exact hexec

theorem exec_deleteRoleBindingsCollection (ids : List Int) (db : DB) :
    (deleteRoleBindingsCollection ctx ids).exec db = if ctx.dryRun then db else dropBindings ids db := by
  rw [deleteRoleBindingsCollection]
  cases ctx.dryRun with
  | true => rfl
  | false =>
    cases ids with
    | nil => exact (dropBindings_eq_self fun b _ h => absurd h List.not_mem_nil).symm
    | cons id ids => rfl

/-! Confinement of the deletions. -/

/-- Of the role bindings only rows with `p` are gone, none is new or changed, and
the rest of the database is as it was. -/
def DeletesOnly (p : RoleBindingRow → Prop) (db db' : DB) : Prop :=
  (∀ b ∈ db'.roleBindings, b ∈ db.roleBindings) ∧
    (∀ b ∈ db.roleBindings, b ∉ db'.roleBindings → p b) ∧
    { db' with roleBindings := db.roleBindings } = db

theorem deletesOnly_refl (p : RoleBindingRow → Prop) (db : DB) : DeletesOnly p db db :=
  ⟨fun _ h => h, fun _ h h' => absurd h h', rfl⟩

theorem deletesOnly_dropBindings_iff {p : RoleBindingRow → Prop} {ids : List Int} {db : DB} :
    DeletesOnly p db (dropBindings ids db) ↔
      ∀ b ∈ db.roleBindings, b.id ∈ ids → b.isOwner = false → p b := by
  have hmem (b : RoleBindingRow) : b ∈ (dropBindings ids db).roleBindings ↔
      b ∈ db.roleBindings ∧ (b.id ∈ ids → b.isOwner = true) := by
    simp [dropBindings]
  constructor
  · rintro ⟨-, hgone, -⟩ b hb hid hown
    refine hgone b hb fun h => ?_
    rw [((hmem b).1 h).2 hid] at hown
    cases hown
  · intro h
    refine ⟨fun b hb => ((hmem b).1 hb).1, fun b hb hgone => ?_, rfl⟩
    by_contra hp
    refine hgone ((hmem b).2 ⟨hb, fun hid => ?_⟩)
    by_contra hown
    exact hp (h b hb hid (by simpa using hown))

inductive BindingLevel where
  | workspace
  | namespace

namespace BindingLevel

def scope : BindingLevel → Db.Scope
  | .workspace => .workspace
  | .namespace => .namespace

def tenant : BindingLevel → Ctx → Int
  | .workspace, ctx => ctx.scope.workspaceID
  | .namespace, ctx => ctx.scope.namespaceID

end BindingLevel

inductive BindingDeletion where
  | delete (id : Int)
  | batchDelete (ids : List Int)

namespace BindingDeletion

def ids : BindingDeletion → List Int
  | .delete id => [id]
  | .batchDelete ids => ids

def run (ctx : Ctx) : BindingLevel → BindingDeletion → DbM Unit
  | .workspace, .delete id => WorkspaceRoleBindingOps.delete ctx id
  | .workspace, .batchDelete ids => do let _ ← WorkspaceRoleBindingOps.batchDelete ctx ids
  | .namespace, .delete id => NamespaceRoleBindingOps.delete ctx id
  | .namespace, .batchDelete ids => do let _ ← NamespaceRoleBindingOps.batchDelete ctx ids

theorem exec_run (ctx : Ctx) (level : BindingLevel) (call : BindingDeletion) (db : DB) :
    (call.run ctx level).exec db = if ctx.dryRun then db else dropBindings call.ids db := by
  have hbatch (ids : List Int) : (do let _ ← deleteRoleBindingsCollection ctx ids : DbM Unit).exec db =
      if ctx.dryRun then db else dropBindings ids db := by
    rw [← exec_deleteRoleBindingsCollection, M.exec, M.exec, run_bind]
    split <;> simp_all
  cases level <;> cases call
  case workspace.delete id => exact exec_deleteRoleBinding ctx id db
  case workspace.batchDelete ids => exact hbatch ids
  case namespace.delete id => exact exec_deleteRoleBinding ctx id db
  case namespace.batchDelete ids => exact hbatch ids

end BindingDeletion

/-- A deletion at the tenant's URL removes only its own non-owner bindings exactly if it is a dry run or
every non-owner binding with one of the ids is the tenant's. -/
theorem binding_deletion_confined_iff (ctx : Ctx) (level : BindingLevel) (call : BindingDeletion) (db : DB) :
    DeletesOnly (fun b => b.isAt level.scope (level.tenant ctx) ∧ b.isOwner = false) db
        ((call.run ctx level).exec db) ↔
      ctx.dryRun ∨ ∀ b ∈ db.roleBindings, b.id ∈ call.ids → b.isOwner = false →
        b.isAt level.scope (level.tenant ctx) := by
  rw [BindingDeletion.exec_run]
  cases ctx.dryRun with
  | true => exact iff_of_true (deletesOnly_refl _ _) (.inl rfl)
  | false =>
    rw [if_neg Bool.false_ne_true, deletesOnly_dropBindings_iff]
    simp only [Bool.false_eq_true, false_or]
    exact forall₄_congr fun b hb hid hown => and_iff_left hown

/-! An id of another place. -/

def workspaceRoleBindingsDef : ResourceDef where
  group := "iam"
  version := ""
  name := "rolebindings"
  scopes := scopeWorkspace
  ancestors := []
  idParam := ""
  ops := { list := true, createAny := true, delete := true, batchDelete := true }
  actions := []
  verbs := []
  singletonGet := false
  permissionTargets := []
  sensitive := false
  extraAllow := none
  listAccessScope := ""
  permScope := 0
  itemScopeResolver := none

def platformBinding : RoleBindingRow := { Place.platform.grant 9 1 false with id := 1 }

def workspaceBinding : RoleBindingRow := { (Place.workspace 1).grant 8 3 false with id := 2 }

def platformAndWorkspace : DB :=
  { DB.empty with
    roleBindings := .ofRows [platformBinding, workspaceBinding] 3 (by decide) }

def ctxOfWorkspace1 : Ctx := ⟨⟨7, "ana"⟩, ⟨scopeWorkspace, 1, 0⟩, 0, [], [], false, some 7⟩

/-- A deletion at the URL of workspace 1 takes the binding of the platform with it. -/
theorem platform_binding_deleted_in_workspace :
    buildCtx ⟨[("workspaceId", "1")], [], some 7, "ana"⟩
        (workspaceRoleBindingsDef.routeMeta scopeWorkspace "deleteCollection" false) = .ok ctxOfWorkspace1 ∧
      ¬ DeletesOnly (fun b => b.isAt .workspace 1 ∧ b.isOwner = false) platformAndWorkspace
        (((BindingDeletion.batchDelete [1]).run ctxOfWorkspace1 .workspace).exec platformAndWorkspace) := by
  refine ⟨by decide, ?_⟩
  rintro ⟨-, hgone, -⟩
  have h := hgone platformBinding (by decide) (by decide)
  exact absurd h.1 (by decide)

end Vraxel.Iam
