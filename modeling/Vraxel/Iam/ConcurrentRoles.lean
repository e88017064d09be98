import Vraxel.Lib.Interleave
import Vraxel.Iam.Roles
/-
  The operations of `Iam.Roles` as programs: others can come in between two statements, and a
  statement can fail.
-/

namespace Vraxel.Iam

open Relational Api Db Txn ApiServer Strconv Interleave

inductive RoleStmt where
  | getRoleByID (id : Int)
  | getRulesByRoleID (id : Int)
  | listCodeScopes
  | createRole (p : CreateRoleParams)
  | updateRole (id : Int) (displayName description : String)
  | setPermissionRules (id : Int) (patterns : List String)
  | countRoleBindingsByRoleAndScope (id : Int) (scope : Db.Scope)
  | deleteRole (id : Int)

def RoleStmt.Ans : RoleStmt → Type
  | .getRoleByID _ => Option RoleRow
  | .getRulesByRoleID _ => List String
  | .listCodeScopes => List PermissionCodeScope
  | .createRole _ => RoleRow
  | .updateRole _ _ _ => RoleRow
  | .setPermissionRules _ _ => Unit
  | .countRoleBindingsByRoleAndScope _ _ => Nat
  | .deleteRole _ => Nat

abbrev roleSig : Sig := ⟨RoleStmt, RoleStmt.Ans⟩

def RoleStmt.sem (codeScopes : List PermissionCodeScope) : (q : RoleStmt) → DbM q.Ans
  | .getRoleByID id => Db.getRoleByID id
  | .getRulesByRoleID id => Db.getRulesByRoleID id
  | .listCodeScopes => read fun _ => codeScopes
  | .createRole p => PgRoleStore.create p
  | .updateRole id displayName description => PgRoleStore.update id displayName description
  | .setPermissionRules id patterns => PgRoleStore.setPermissionRules id patterns
  | .countRoleBindingsByRoleAndScope id scope => Db.countRoleBindingsByRoleAndScope id scope
  | .deleteRole id => mapErr (fun e => (checkPG e).wrap "delete role") (Db.deleteRole id)

namespace ConcurrentRoles

open Prog

abbrev RoleM : Type → Type := Prog roleSig Err

/-! One statement each. -/

variable (id : Int) (scope : Db.Scope) (allow : RoleRow → Except Err Unit)

def getRoleByID : RoleM (Option RoleRow) := ask (G := roleSig) (.getRoleByID id)

def getRulesByRoleID : RoleM (List String) := ask (G := roleSig) (.getRulesByRoleID id)

def listCodeScopes : RoleM (List PermissionCodeScope) := ask (G := roleSig) .listCodeScopes

def createRole (p : CreateRoleParams) : RoleM RoleRow := ask (G := roleSig) (.createRole p)

def updateRole (displayName description : String) : RoleM RoleRow :=
  ask (G := roleSig) (.updateRole id displayName description)

def setPermissionRules (patterns : List String) : RoleM Unit :=
  ask (G := roleSig) (.setPermissionRules id patterns)

def countByRoleAndScope : RoleM Nat :=
  ask (G := roleSig) (.countRoleBindingsByRoleAndScope id scope)

def deleteRole : RoleM Nat := ask (G := roleSig) (.deleteRole id)

def domainErr {α : Type} (x : RoleM α) : RoleM α := mapErr (mapDomain · "") x

def getByID : RoleM RoleRow := do
  match ← getRoleByID id with
  | some role => return role
  | none => fail (.tagged ("role " ++ formatInt id) .notFound)

def getWithRules : RoleM RoleWithRulesRow := do
  let role ← getByID id
  let rules ← getRulesByRoleID id
  return { role with rules := rules }

def delete : RoleM Unit := do
  let rowsAffected ← deleteRole id
  if rowsAffected = 0 then
    fail (.tagged ("role " ++ formatInt id) .notFound)

/-! A creation or an update, in parts. -/

/-- At any level; `allow` refuses the roles that are not the caller's to change. -/
inductive RoleWrite where
  | create (parts : ScopeParts) (role : Role)
  | update (scope : Db.Scope) (allow : RoleRow → Except Err Unit) (id : Int) (role : Role)

namespace RoleWrite

def request : RoleWrite → Role
  | create parts role => { role with spec := { role.spec with scope := parts.scope.name } }
  | update _ _ _ role => role

def rules (w : RoleWrite) : List String := w.request.spec.rules

def validateRuleScopes (scope : Db.Scope) (rules : List String) : RoleM Unit := do
  let codeScopes ← domainErr listCodeScopes
  lift (validated (Iam.validateRuleScopes scope rules codeScopes))

def checks (w : RoleWrite) : RoleM Unit :=
  match w with
  | create parts _ => do
    lift (validated (validateRoleCreate w.request.spec))
    validateRuleScopes parts.scope w.rules
  | update scope allow id _ => do
    let existing ← domainErr (getWithRules id)
    lift (allow existing.toRoleRow)
    lift (validated (validateRoleUpdate w.request.spec))
    validateRuleScopes scope w.rules

def params (parts : ScopeParts) (role : Role) : CreateRoleParams :=
  ⟨role.spec.name, role.spec.displayName, role.spec.description, parts, false⟩

def writeRow : RoleWrite → RoleM Int
  | create parts role => do
    let created ← domainErr (createRole (params parts role))
    return created.id
  | update _ _ id role => do
    let _ ← domainErr (updateRole id role.spec.displayName role.spec.description)
    return id

end RoleWrite

def setRules (rules : List String) : RoleM Unit :=
  if rules ≠ [] then domainErr (setPermissionRules id rules) else return ()

def readBack : RoleM Role := do
  let row ← domainErr (getWithRules id)
  return roleWithRulesToAPI row

def RoleWrite.prog (ctx : Ctx) (w : RoleWrite) : RoleM Role := do
  w.checks
  if ctx.dryRun then
    return w.request
  else
    let id ← w.writeRow
    setRules id w.rules
    readBack id

def deleteRoleIn (ctx : Ctx) (scope : Db.Scope) (allow : RoleRow → Except Err Unit) (id : Int) : RoleM Unit := do
  let existing ← domainErr (getWithRules id)
  lift (allow existing.toRoleRow)
  let count ← domainErr (countByRoleAndScope id scope)
  if count > 0 then
    fail (badRequest "cannot delete role with active bindings")
  else if ctx.dryRun then
    return ()
  else
    delete id

def eligible (id : Int) : RoleM Bool := do
  match ← attempt (getWithRules id) with
  | .error _ => return false
  | .ok existing =>
    match allow existing.toRoleRow with
    | .error _ => return false
    | .ok _ =>
      match ← attempt (countByRoleAndScope id scope) with
      | .error _ => return false
      | .ok count => return count = 0

def deleteEligible (ctx : Ctx) (scope : Db.Scope) (allow : RoleRow → Except Err Unit) : List Int → RoleM Nat
  | [] => return 0
  | id :: ids => do
    let ok ← eligible scope allow id
    let success ← (if !ok then return 0
      else if ctx.dryRun then return 1
      else do
        match ← attempt (delete id) with
        | .ok _ => return 1
        | .error _ => return 0 : RoleM Nat)
    let others ← deleteEligible ctx scope allow ids
    return success + others

def batchDeleteRolesIn (ctx : Ctx) (scope : Db.Scope) (allow : RoleRow → Except Err Unit) (ids : List Int) :
    RoleM BatchResult := do
  let success ← deleteEligible ctx scope allow ids
  return ⟨success, ids.length - success, []⟩

end ConcurrentRoles

end Vraxel.Iam
