import Vraxel.Db.Workspaces
import Vraxel.Iam.Namespaces
/-
  The workspaces resource: the store (`iam/store/pg_workspace.go`), validation,
  and the operations on one workspace that read or write its row
  (`iam/storage_workspace.go`).

  Timestamps and the fields of the per-user views (`roles`, `joinedAt`) are left out of the API
  object, and listing is not modelled; creation and deletion are in `Tenants`.
-/

namespace Vraxel.Iam

open Relational Api Db Txn ApiServer Strconv Strings

structure WorkspaceSpec where
  displayName : String := ""
  description : String := ""
  ownerID : String := ""
  ownerName : String := ""
  createdByName : String := ""
  namespaceCount : Nat := 0
  memberCount : Nat := 0
  roleBindingCount : Nat := 0
  status : String := ""

/-- `Workspace`, with the parts of its metadata the operations use. -/
structure Workspace where
  id : String := ""
  name : String := ""
  spec : WorkspaceSpec := {}

def workspaceToAPI (w : WorkspaceRow) : Workspace where
  id := formatInt w.id
  name := w.name
  spec := {
    displayName := w.displayName
    description := w.description
    ownerID := formatInt w.ownerID
    status := w.status }

def workspaceWithOwnerToAPI (w : WorkspaceWithOwnerRow) : Workspace :=
  let ws := workspaceToAPI w.toWorkspaceRow
  { ws with spec := { ws.spec with
      ownerName := w.ownerUsername
      createdByName := w.creatorName
      namespaceCount := w.namespaceCount
      memberCount := w.memberCount
      roleBindingCount := w.roleBindingCount } }

def validateWorkspaceUpdate (spec : WorkspaceSpec) : List FieldError :=
  fieldTest (runeCount spec.displayName ≤ 128) "spec.displayName" "must be at most 128 characters"
    ++ fieldTest (runeCount spec.description ≤ 1000) "spec.description" "must be at most 1000 characters"
    ++ fieldTest (spec.status ∈ ["", "active", "inactive"]) "spec.status" "must be 'active' or 'inactive'"

namespace PgWorkspaceStore

def returning (onError : Err → Err) (id : Int) (q : DbM (Option WorkspaceWithOwnerRow)) :
    DbM WorkspaceWithOwnerRow := do
  match ← mapErr onError q with
  | some row => return row
  | none => fail (.tagged ("workspace " ++ formatInt id) .notFound)

def getByID (id : Int) : DbM WorkspaceWithOwnerRow := returning (·.wrap "get workspace by id") id (getWorkspaceByID id)

def update (input : WorkspaceUpdateInput) : DbM WorkspaceWithOwnerRow :=
  returning (fun e => (checkPG e).wrap "update workspace") input.id (updateWorkspace input)

def patch (input : WorkspaceUpdateInput) : DbM WorkspaceWithOwnerRow :=
  returning (·.wrap "patch workspace") input.id (patchWorkspace input)

end PgWorkspaceStore

namespace WorkspaceOps

def updateInput (id ownerID : Int) (ws : Workspace) : WorkspaceUpdateInput where
  id := id
  name := ws.name
  displayName := ws.spec.displayName
  description := ws.spec.description
  ownerID := ownerID
  status := ws.spec.status

def get (_ctx : Ctx) (id : Int) : DbM Workspace := do
  let ws ← domainErr (PgWorkspaceStore.getByID id)
  return workspaceWithOwnerToAPI ws

def update (ctx : Ctx) (id : Int) (ws : Workspace) : DbM Workspace := do
  if validateWorkspaceUpdate ws.spec ≠ [] then
    fail (.ofStatus (newBadRequest "validation failed" (validateWorkspaceUpdate ws.spec)))
  else if ctx.dryRun then
    return ws
  else match parseInt ws.spec.ownerID with
  | none => fail (invalidOwnerID ws.spec.ownerID)
  | some ownerID =>
    let updated ← domainErr (PgWorkspaceStore.update (updateInput id ownerID ws))
    return workspaceWithOwnerToAPI updated

def patch (ctx : Ctx) (id : Int) (body : Body Workspace) : DbM Workspace := do
  let ws ← lift (decodePatch body)
  if ctx.dryRun then
    domainErr (get ctx id)
  else match NamespaceOps.patchOwner ws.spec.ownerID with
  | none => fail (invalidOwnerID ws.spec.ownerID)
  | some ownerID =>
    let patched ← domainErr (PgWorkspaceStore.patch (updateInput id ownerID ws))
    return workspaceWithOwnerToAPI patched

end WorkspaceOps

/-! What a request hands to the store: nothing, if it is refused or a dry run. -/

variable (ctx : Ctx)

def WorkspaceOps.updatePlan (id : Int) (ws : Workspace) : Option WorkspaceUpdateInput :=
  if validateWorkspaceUpdate ws.spec ≠ [] || ctx.dryRun then none
  else (parseInt ws.spec.ownerID).map fun ownerID => updateInput id ownerID ws

def WorkspaceOps.patchPlan (id : Int) (body : Body Workspace) : Option WorkspaceUpdateInput :=
  match decodePatch body with
  | .error _ => none
  | .ok ws =>
    if ctx.dryRun then none
    else (NamespaceOps.patchOwner ws.spec.ownerID).map fun ownerID => updateInput id ownerID ws

def NamespaceOps.updatePlan (id : Int) (ns : Namespace) : Option NamespaceUpdateInput :=
  if validateNamespaceUpdate ns.spec ≠ [] || ctx.dryRun then none
  else (parseInt ns.spec.ownerID).map fun ownerID => updateInput id ownerID ns

def NamespaceOps.patchPlan (id : Int) (body : Body Namespace) : Option NamespaceUpdateInput :=
  match decodePatch body with
  | .error _ => none
  | .ok ns =>
    if ctx.dryRun then none
    else (patchOwner ns.spec.ownerID).map fun ownerID => updateInput id ownerID ns

/-! The database an update leaves. -/

theorem exec_answer {α β : Type} (x : DbM α) (f : α → β) (db : DB) :
    (do let a ← domainErr x; return f a : DbM β).exec db = x.exec db := by
  rw [exec_bind_of_readsOnly fun _ _ => rfl, domainErr, exec_mapErr]

variable (g : Err → Err)

namespace PgWorkspaceStore

theorem exec_returning (id : Int) (q : DbM (Option WorkspaceWithOwnerRow)) (db : DB) :
    (returning g id q).exec db = q.exec db := by
  rw [returning, exec_bind_of_readsOnly, exec_mapErr]
  rintro (_ | row)
  · exact fun _ => rfl
  · exact fun _ => rfl

theorem exec_write (p : WorkspaceUpdateInput) (nulls : Bool) (f : WorkspaceRow → WorkspaceRow)
    (db : DB) : (returning g p.id (writeWorkspace p nulls f)).exec db =
      if workspaceChecks p nulls db = .ok () then
        { db with workspaces := db.workspaces.update (fun ws => ws.id = p.id) f }
      else db := by
  rw [exec_returning, writeWorkspace, exec_bind_of_readsOnly fun _ _ => rfl, Slot.exec_update]
  rfl

end PgWorkspaceStore

namespace PgNamespaceStore

theorem exec_returning (id : Int) (q : DbM (Option NamespaceWithOwnerRow)) (db : DB) :
    (returning g id q).exec db = q.exec db := by
  rw [returning, exec_bind_of_readsOnly, exec_mapErr]
  rintro (_ | row)
  · exact fun _ => rfl
  · exact fun _ => rfl

theorem exec_write (p : NamespaceUpdateInput) (nulls : Bool) (f : NamespaceRow → NamespaceRow)
    (db : DB) : (returning g p.id (writeNamespace p nulls f)).exec db =
      if namespaceChecks p nulls db = .ok () then
        { db with namespaces := db.namespaces.update (fun ns => ns.id = p.id) f }
      else db := by
  rw [exec_returning, writeNamespace, exec_bind_of_readsOnly fun _ _ => rfl, Slot.exec_update]
  rfl

end PgNamespaceStore

/-! The handlers of the two resources have the same shape. -/

section Handlers

variable {α β : Type} {store : Int → DbM α} {answer : α → β}

theorem exec_owned (owner : Option Int) (invalid : Err) (db : DB) :
    (match owner with
      | none => fail invalid
      | some ownerID => (do let a ← domainErr (store ownerID); return answer a) : DbM β).exec db =
      owner.elim db fun ownerID => (store ownerID).exec db := by
  cases owner with
  | none => rfl
  | some ownerID => exact exec_answer _ _ db

theorem exec_validated (errs : List FieldError) (dryRun : Bool) (invalid : Err) (x : β) (rest : DbM β) (db : DB) :
    (if errs ≠ [] then fail invalid else if dryRun then return x else rest : DbM β).exec db =
      if errs ≠ [] || dryRun then db else rest.exec db := by
  by_cases herrs : errs = [] <;> cases dryRun <;> simp [herrs, M.exec]

end Handlers

variable (id : Int)

namespace WorkspaceOps

theorem exec_update (ws : Workspace) (db : DB) : (update ctx id ws).exec db =
    (updatePlan ctx id ws).elim db fun p =>
      if workspaceChecks p false db = .ok () then
        { db with workspaces := db.workspaces.update (fun ws => ws.id = p.id) p.set }
      else db := by
  refine (exec_validated _ _ _ _ _ db).trans ?_
  rw [updatePlan]
  split
  · rfl
  · refine (exec_owned (parseInt ws.spec.ownerID) _ db).trans ?_
    cases parseInt ws.spec.ownerID with
    | none => rfl
    | some ownerID => exact PgWorkspaceStore.exec_write _ _ false _ db

theorem exec_get (db : DB) : (get ctx id).exec db = db := by
  rw [get, exec_answer, PgWorkspaceStore.getByID, PgWorkspaceStore.exec_returning]
  rfl

theorem exec_patch (body : Body Workspace) (db : DB) : (patch ctx id body).exec db =
    (patchPlan ctx id body).elim db fun p =>
      if workspaceChecks p true db = .ok () then
        { db with workspaces := db.workspaces.update (fun ws => ws.id = p.id) p.patch }
      else db := by
  rw [patch, patchPlan]
  cases decodePatch body with
  | error e => rfl
  | ok ws =>
    cases ctx.dryRun with
    | true => exact (exec_mapErr _ _ db).trans (exec_get ctx id db)
    | false =>
      refine (exec_owned (NamespaceOps.patchOwner ws.spec.ownerID) _ db).trans ?_
      show _ = Option.elim (Option.map _ (NamespaceOps.patchOwner ws.spec.ownerID)) db _
      cases NamespaceOps.patchOwner ws.spec.ownerID with
      | none => rfl
      | some ownerID => exact PgWorkspaceStore.exec_write _ _ true _ db

end WorkspaceOps

namespace NamespaceOps

theorem exec_update (ns : Namespace) (db : DB) : (update ctx id ns).exec db =
    (updatePlan ctx id ns).elim db fun p =>
      if namespaceChecks p false db = .ok () then
        { db with namespaces := db.namespaces.update (fun ns => ns.id = p.id) p.set }
      else db := by
  refine (exec_validated _ _ _ _ _ db).trans ?_
  rw [updatePlan]
  split
  · rfl
  · refine (exec_owned (parseInt ns.spec.ownerID) _ db).trans ?_
    cases parseInt ns.spec.ownerID with
    | none => rfl
    | some ownerID => exact PgNamespaceStore.exec_write _ _ false _ db

theorem exec_get (db : DB) : (get ctx id).exec db = db := by
  rw [get, exec_answer, M.exec, PgNamespaceStore.run_getByID]

theorem exec_patch (body : Body Namespace) (db : DB) : (patch ctx id body).exec db =
    (patchPlan ctx id body).elim db fun p =>
      if namespaceChecks p true db = .ok () then
        { db with namespaces := db.namespaces.update (fun ns => ns.id = p.id) p.patch }
      else db := by
  rw [patch, patchPlan]
  cases decodePatch body with
  | error e => rfl
  | ok ns =>
    cases ctx.dryRun with
    | true => exact (exec_mapErr _ _ db).trans (exec_get ctx id db)
    | false =>
      refine (exec_owned (patchOwner ns.spec.ownerID) _ db).trans ?_
      show _ = Option.elim (Option.map _ (patchOwner ns.spec.ownerID)) db _
      cases patchOwner ns.spec.ownerID with
      | none => rfl
      | some ownerID => exact PgNamespaceStore.exec_write _ _ true _ db

end NamespaceOps

end Vraxel.Iam
