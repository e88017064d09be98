import Vraxel.Db.Roles
import Vraxel.Iam.Match
import Vraxel.Iam.Namespaces
/-
  The roles resources: the store (`iam/store/pg_role.go`), validation, and the operations
  on platform roles and on the roles of a workspace or a namespace (`iam/storage_role.go`).

  The operations at the three levels do the same but for the roles they let pass, and for the order
  in which they refuse: a platform operation asks for the scope of the role before it asks whether
  the role is built in, the others ask the other way round.
-/

namespace Vraxel.Iam

open Relational Api Db Txn ApiServer Strconv Strings

/-! The API object. -/

structure RoleSpec where
  name : String := ""
  displayName : String := ""
  description : String := ""
  scope : String := ""
  builtin : Bool := false
  rules : List String := []

structure Role where
  id : String := ""
  spec : RoleSpec := {}

structure RoleWithRulesRow extends RoleRow where
  rules : List String

def roleToAPI (r : RoleRow) : Role where
  id := formatInt r.id
  spec := {
    name := r.name
    displayName := r.displayName
    description := r.description
    scope := r.scope.name
    builtin := r.builtin }

def roleWithRulesToAPI (r : RoleWithRulesRow) : Role :=
  let role := roleToAPI r.toRoleRow
  { role with spec := { role.spec with rules := r.rules } }

/-- `roleNameRegexp`, and the names of workspaces and namespaces:
`^[a-zA-Z0-9][a-zA-Z0-9_-]{1,48}[a-zA-Z0-9]$`. -/
def nameRegexp (s : String) : Bool :=
  match s.toList with
  | [] => false
  | c :: cs => c.isAlphanum && 2 ≤ cs.length && cs.length ≤ 49
    && cs.dropLast.all (fun c => c.isAlphanum || c = '_' || c = '-') && (cs.getLast?.map Char.isAlphanum).getD false

def isSegment (s : String) : Bool :=
  match s.toList with
  | [] => false
  | c :: cs => c.isLower && cs.all fun c => c.isAlphanum || c = '-'

/-- `validPatternRegexp`: a wildcard at the end, one at the front, or none at all. -/
def validPatternRegexp (pattern : String) : Bool :=
  match split pattern ':' with
  | first :: second :: rest =>
    let tail := second :: rest
    ((first = "*" || isSegment first) && tail.dropLast.all isSegment && tail.getLast? = some "*")
      || (first = "*" && tail.all isSegment)
      || (isSegment first && tail.all isSegment)
  | _ => false

example : validPatternRegexp "*:*" && validPatternRegexp "iam:namespaces:*" && validPatternRegexp "*:list"
    && validPatternRegexp "iam:users:list" && !validPatternRegexp "iam" && !validPatternRegexp "iam:*:list" := by
  decide

def validatePermissionPattern (pattern : String) : List FieldError :=
  if pattern = "" then [⟨"pattern", "cannot be empty"⟩]
  else fieldTest (validPatternRegexp pattern) "pattern" ("invalid pattern: " ++ pattern)

def ruleField (i : Nat) : String := "spec.rules[" ++ formatInt i ++ "]"

def validateRules (rules : List String) : List FieldError :=
  fieldTest (rules ≠ []) "spec.rules" "must not be empty"
    ++ rules.zipIdx.flatMap fun (rule, i) => (validatePermissionPattern rule).map fun e => ⟨ruleField i, e.message⟩

def validateRoleUpdate (spec : RoleSpec) : List FieldError :=
  fieldTest (runeCount spec.displayName ≤ 128) "spec.displayName" "must be at most 128 characters"
    ++ fieldTest (runeCount spec.description ≤ 1000) "spec.description" "must be at most 1000 characters"
    ++ validateRules spec.rules

def validateRoleCreate (spec : RoleSpec) : List FieldError :=
  (if spec.name = "" then [⟨"spec.name", "is required"⟩]
    else fieldTest (nameRegexp spec.name) "spec.name"
      "must match ^[a-zA-Z0-9][a-zA-Z0-9_-]\x7b1,48\x7d[a-zA-Z0-9]$")
    ++ fieldTest (runeCount spec.displayName ≤ 128) "spec.displayName" "must be at most 128 characters"
    ++ fieldTest (runeCount spec.description ≤ 1000) "spec.description" "must be at most 1000 characters"
    ++ fieldTest (spec.scope ∈ ["platform", "workspace", "namespace"]) "spec.scope"
      "must be platform, workspace, or namespace"
    ++ validateRules spec.rules

/-- `PermissionCodeScope`: a code, and a scope it is registered at. -/
structure PermissionCodeScope where
  code : String
  scope : Db.Scope

def validateRuleScopes (roleScope : Db.Scope) (rules : List String) (codeScopes : List PermissionCodeScope) :
    List FieldError :=
  rules.zipIdx.flatMap fun (rule, i) =>
    fieldTest (codeScopes.any fun cs => cs.scope = roleScope && matchPermission rule cs.code) (ruleField i)
      ("pattern " ++ quote rule ++ " matches no permissions at " ++ roleScope.name ++ " scope")

def validated (errs : List FieldError) : Except Err Unit :=
  if errs ≠ [] then .error (.ofStatus (newBadRequest "validation failed" errs)) else .ok ()

namespace PgRoleStore

def create (p : CreateRoleParams) : DbM RoleRow :=
  mapErr (fun e => (checkPG e).wrap "create role") (createRole p)

def getWithRules (id : Int) : DbM RoleWithRulesRow := do
  let role ← getByID id
  let rules ← getRulesByRoleID id
  return { role with rules := rules }

def update (id : Int) (displayName description : String) : DbM RoleRow := do
  match ← mapErr (fun e => (checkPG e).wrap "update role") (updateRole id displayName description) with
  | some row => return row
  | none => fail (.tagged ("role " ++ formatInt id) .notFound)

def delete (id : Int) : DbM Unit := do
  let rowsAffected ← mapErr (fun e => (checkPG e).wrap "delete role") (deleteRole id)
  if rowsAffected = 0 then
    fail (.tagged ("role " ++ formatInt id) .notFound)

def setPermissionRules (roleID : Int) (patterns : List String) : DbM Unit :=
  atomically do
    deleteRolePermissionRules roleID
    forEach patterns fun pattern =>
      mapErr (·.wrap ("add rule " ++ quote pattern)) (addRolePermissionRule roleID pattern)

theorem readsOnly_getWithRules (id : Int) : ReadsOnly (getWithRules id) :=
  .of_keeps fun _ => .bind (.bind (.read _) fun
    | some _ => .pure _
    | none => .fail _) fun _ => .bind (.read _) fun _ => .pure _

end PgRoleStore

/-! The operations, at any level. -/

section Operations

variable (codeScopes : List PermissionCodeScope) (ctx : Ctx)

def withRules (id : Int) (rules : List String) : DbM Role := do
  if rules ≠ [] then
    domainErr (PgRoleStore.setPermissionRules id rules)
  let row ← domainErr (PgRoleStore.getWithRules id)
  return roleWithRulesToAPI row

def createRoleIn (parts : ScopeParts) (role : Role) : DbM Role := do
  let role := { role with spec := { role.spec with scope := parts.scope.name } }
  lift (validated (validateRoleCreate role.spec))
  lift (validated (validateRuleScopes parts.scope role.spec.rules codeScopes))
  if ctx.dryRun then
    return role
  else
    let created ← domainErr (PgRoleStore.create
      ⟨role.spec.name, role.spec.displayName, role.spec.description, parts, false⟩)
    withRules created.id role.spec.rules

variable (scope : Db.Scope) (allow : RoleRow → Except Err Unit)

def updateRoleIn (id : Int) (role : Role) : DbM Role := do
  let existing ← domainErr (PgRoleStore.getWithRules id)
  lift (allow existing.toRoleRow)
  lift (validated (validateRoleUpdate role.spec))
  lift (validated (validateRuleScopes scope role.spec.rules codeScopes))
  if ctx.dryRun then
    return role
  else
    let _ ← domainErr (PgRoleStore.update id role.spec.displayName role.spec.description)
    withRules id role.spec.rules

def deleteRoleIn (id : Int) : DbM Unit := do
  let existing ← domainErr (PgRoleStore.getWithRules id)
  lift (allow existing.toRoleRow)
  let count ← domainErr (countRoleBindingsByRoleAndScope id scope)
  if count > 0 then
    fail (badRequest "cannot delete role with active bindings")
  else if ctx.dryRun then
    return ()
  else
    PgRoleStore.delete id

def eligible (id : Int) : DbM Bool := do
  match ← attempt (PgRoleStore.getWithRules id) with
  | .error _ => return false
  | .ok existing =>
    match allow existing.toRoleRow with
    | .error _ => return false
    | .ok _ =>
      let count ← countRoleBindingsByRoleAndScope id scope
      return count = 0

def deleteEligible (scope : Db.Scope) (allow : RoleRow → Except Err Unit) : List Int → DbM Nat
  | [] => return 0
  | id :: ids => do
    let ok ← eligible scope allow id
    let success ← (if !ok then return 0
      else if ctx.dryRun then return 1
      else do
        match ← attempt (PgRoleStore.delete id) with
        | .ok _ => return 1
        | .error _ => return 0 : DbM Nat)
    let others ← deleteEligible scope allow ids
    return success + others

def batchDeleteRolesIn (ids : List Int) : DbM BatchResult := do
  let success ← deleteEligible ctx scope allow ids
  return ⟨success, ids.length - success, []⟩

end Operations

def roleNotFound (id : Int) : Err := .ofStatus (newNotFound "role" (formatInt id))

namespace RoleOps

variable (codeScopes : List PermissionCodeScope) (ctx : Ctx)

def allow (what : String) (role : RoleRow) : Except Err Unit :=
  if role.scope ≠ .platform then .error (roleNotFound role.id)
  else if role.builtin then .error (badRequest ("cannot " ++ what ++ " built-in role"))
  else .ok ()

def create (role : Role) : DbM Role := createRoleIn codeScopes ctx ⟨.platform, none, none, chkScope_platform⟩ role

def update (id : Int) (role : Role) : DbM Role :=
  updateRoleIn codeScopes ctx .platform (allow "modify") id role

def delete (id : Int) : DbM Unit := deleteRoleIn ctx .platform (allow "delete") id

def batchDelete (ids : List Int) : DbM BatchResult := batchDeleteRolesIn ctx .platform (allow "delete") ids

end RoleOps

/-! Roles of a workspace or a namespace. -/

namespace ScopedRoleOps

variable (codeScopes : List PermissionCodeScope) (level : BindingLevel) (ctx : Ctx)

def parts : ScopeParts :=
  match level with
  | .workspace => ⟨.workspace, some (level.tenant ctx), none, chkScope_workspace _⟩
  | .namespace => ⟨.namespace, none, some (level.tenant ctx), chkScope_namespace none _⟩

def verifyScopeOwnership (role : RoleRow) : Except Err Unit :=
  if role.scope ≠ level.scope then .error (roleNotFound role.id)
  else
    let owner := match level with
      | .workspace => role.workspaceID
      | .namespace => role.namespaceID
    if owner ≠ some (level.tenant ctx) then .error (roleNotFound role.id) else .ok ()

def allow (what : String) (role : RoleRow) : Except Err Unit :=
  if role.builtin then .error (badRequest ("cannot " ++ what ++ " built-in role"))
  else verifyScopeOwnership level ctx role

def create (role : Role) : DbM Role := createRoleIn codeScopes ctx (parts level ctx) role

def update (id : Int) (role : Role) : DbM Role :=
  updateRoleIn codeScopes ctx level.scope (allow level ctx "modify") id role

def delete (id : Int) : DbM Unit := deleteRoleIn ctx level.scope (allow level ctx "delete") id

def batchDelete (ids : List Int) : DbM BatchResult := batchDeleteRolesIn ctx level.scope (allow level ctx "delete") ids

end ScopedRoleOps

section DryRun

variable {ctx : Ctx} (hdry : ctx.dryRun = true) (codeScopes : List PermissionCodeScope)
include hdry

theorem readsOnly_createRoleIn (parts : ScopeParts) (role : Role) :
    ReadsOnly (createRoleIn codeScopes ctx parts role) := by
  rw [createRoleIn, hdry]
  exact .of_keeps fun _ => .bind (.lift _) fun _ => .bind (.lift _) fun _ => .pure _

theorem readsOnly_updateRoleIn (scope : Db.Scope) (allow : RoleRow → Except Err Unit) (id : Int) (role : Role) :
    ReadsOnly (updateRoleIn codeScopes ctx scope allow id role) := by
  rw [updateRoleIn, hdry]
  refine .of_keeps fun I => .bind ((PgRoleStore.readsOnly_getWithRules id).keeps I).mapErr fun _ => ?_
  exact .bind (.lift _) fun _ => .bind (.lift _) fun _ => .bind (.lift _) fun _ => .pure _

theorem readsOnly_deleteRoleIn (scope : Db.Scope) (allow : RoleRow → Except Err Unit) (id : Int) :
    ReadsOnly (deleteRoleIn ctx scope allow id) := by
  refine .of_keeps fun I => .bind ((PgRoleStore.readsOnly_getWithRules id).keeps I).mapErr fun _ => ?_
  refine .bind (.lift _) fun _ => .bind (Keeps.mapErr (.read _)) fun count => ?_
  split
  · exact .fail _
  · exact .pure _

end DryRun

theorem readsOnly_eligible (scope : Db.Scope) (allow : RoleRow → Except Err Unit) (id : Int) :
    ReadsOnly (eligible scope allow id) := by
  refine .of_keeps fun I => .bind (Keeps.attempt ((PgRoleStore.readsOnly_getWithRules id).keeps I)) fun r => ?_
  cases r with
  | error e => exact .pure _
  | ok existing =>
    dsimp only
    cases allow existing.toRoleRow with
    | error e => exact .pure _
    | ok u => exact .bind (.read _) fun _ => .pure _

theorem readsOnly_batchDeleteRolesIn {ctx : Ctx} (hdry : ctx.dryRun = true) (scope : Db.Scope)
    (allow : RoleRow → Except Err Unit) (ids : List Int) : ReadsOnly (batchDeleteRolesIn ctx scope allow ids) := by
  have hloop (I : DB → Prop) : Keeps I (deleteEligible ctx scope allow ids) := by
    induction ids with
    | nil => exact .pure _
    | cons id ids ih =>
      rw [deleteEligible, hdry]
      refine .bind ((readsOnly_eligible scope allow id).keeps I) fun ok => .bind ?_ fun _ => .bind ih fun _ => .pure _
      cases ok
      · exact .pure _
      · exact .pure _
  exact .of_keeps fun I => .bind (hloop I) fun _ => .pure _

end Vraxel.Iam
