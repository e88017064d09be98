import Vraxel.Iam.UserPermissions
import Vraxel.Db.RoleBindings
/-
  The permission check of the frontend (`ui/src/core/permission/use-permission.ts`), which decides on
  the view of `userPermissions` with ids as texts; the server decides on its own entry.
-/

namespace Vraxel.Ui

open Iam Db Strconv

structure PermissionScope where
  workspaceId : Option String
  namespaceId : Option String

def truthy (text : Option String) : Option String := text.filter (· ≠ "")

def includes (permissions : Option (List String)) (code : String) : Bool :=
  match permissions with
  | some codes => codes.contains code
  | none => false

def checkPermission (perms : UserPermissionsSpec) (code : String) (scope : Option PermissionScope) : Bool :=
  if perms.isPlatformAdmin then true
  else if perms.platform.contains code then true
  else
    match truthy (scope.bind (·.namespaceId)) with
    | some namespaceId =>
      let nsPerms := perms.namespaces.lookup namespaceId
      -- a page that does not name the workspace falls back to the one the namespace is listed with
      let wsId := truthy ((truthy (scope.bind (·.workspaceId))).or (nsPerms.map NamespaceScopePerms.workspaceID))
      let inWorkspace := match wsId with
        | some wsId => includes ((perms.workspaces.lookup wsId).map WorkspaceScopePerms.permissions) code
        | none => false
      if inWorkspace then true
      else includes (nsPerms.map NamespaceScopePerms.permissions) code
    | none =>
      match truthy (scope.bind (·.workspaceId)) with
      | some workspaceId => includes ((perms.workspaces.lookup workspaceId).map WorkspaceScopePerms.permissions) code
      | none => false

/-! A request, as the page and the server name it. -/

inductive Place where
  | platform
  | workspace (w : Int)
  | namespace (w n : Int)

namespace Place

def scope : Place → Option PermissionScope
  | platform => none
  | workspace w => some ⟨some (formatInt w), none⟩
  | .namespace w n => some ⟨some (formatInt w), some (formatInt n)⟩

def level : Place → Db.Scope
  | platform => .platform
  | workspace _ => .workspace
  | .namespace _ _ => .namespace

def wsID : Place → Int
  | platform => 0
  | workspace w => w
  | .namespace w _ => w

def nsID : Place → Int
  | .namespace _ n => n
  | _ => 0

end Place

theorem formatInt_ne_empty (i : Int) : formatInt i ≠ "" := by
  intro h
  have hlist : (formatInt i).toList = [] := by rw [h]; rfl
  cases i with
  | ofNat n =>
    rw [toList_formatInt_ofNat] at hlist
    exact Nat.toDigits_ne_nil hlist
  | negSucc n =>
    rw [toList_formatInt_negSucc] at hlist
    exact List.cons_ne_nil _ _ hlist

@[simp] theorem truthy_formatInt (i : Int) : truthy (some (formatInt i)) = some (formatInt i) := by
  simp [truthy, formatInt_ne_empty i]

@[simp] theorem truthy_none : truthy none = none := rfl

theorem includes_map_iff {α : Type} {entry : Option α} {permissions : α → List String} {code : String} :
    includes (entry.map permissions) code ↔ ∃ e, entry = some e ∧ code ∈ permissions e := by
  cases entry with
  | none => simp [includes]
  | some e => simp [includes]

section Agreement

variable {db : DB} (hdb : BindingsRefer db) (userID : Int) {allCodes : List String} {code : String}
  (hcode : code ∈ allCodes)

include hdb hcode

theorem includes_workspace_iff (w : Int) :
    includes (((userPermissions db userID allCodes).workspaces.lookup (formatInt w)).map
        WorkspaceScopePerms.permissions) code ↔
      HoldsInWorkspace db userID w code :=
  includes_map_iff.trans (workspaces_userPermissions hdb userID hcode w)

theorem includes_namespace_iff (n : Int) :
    includes (((userPermissions db userID allCodes).namespaces.lookup (formatInt n)).map
        NamespaceScopePerms.permissions) code ↔
      HoldsInNamespace db userID n code :=
  includes_map_iff.trans (namespaces_userPermissions hdb userID hcode n)

theorem platform_tests_iff :
    ((userPermissions db userID allCodes).isPlatformAdmin ∨ code ∈ (userPermissions db userID allCodes).platform) ↔
      HoldsAtPlatform db userID code := by
  rw [platform_userPermissions hdb userID hcode]
  refine or_iff_right_of_imp fun hadmin => ?_
  obtain ⟨rb, hrb, hu, hs, rule, hrule, hr, hp⟩ := (isPlatformAdmin_userPermissions hdb userID allCodes).1 hadmin
  exact ⟨rb, hrb, hu, hs, rule, hrule, hr, hp ▸ matchPermission_all code⟩

theorem checkPermission_iff (place : Place) :
    checkPermission (userPermissions db userID allCodes) code place.scope ↔
      HoldsAtPlatform db userID code ∨
      (match place with
        | .platform => False
        | .workspace w => HoldsInWorkspace db userID w code
        | .namespace w n => HoldsInWorkspace db userID w code ∨ HoldsInNamespace db userID n code) := by
  have hplatform := platform_tests_iff hdb userID hcode
  have hworkspace := includes_workspace_iff hdb userID hcode
  have hnamespace := includes_namespace_iff hdb userID hcode
  by_cases hp : HoldsAtPlatform db userID code
  · -- one of the first two tests succeeds
    rcases hplatform.2 hp with hadmin | hlisted
    · simp [checkPermission, hadmin, hp]
    · simp [checkPermission, hlisted, hp]
  · have hnone := mt hplatform.1 hp
    rw [not_or] at hnone
    cases place with
    | platform => simp [checkPermission, Place.scope, hnone, hp]
    | workspace w => simp [checkPermission, Place.scope, hnone, hp, hworkspace]
    | «namespace» w n => simp [checkPermission, Place.scope, hnone, hp, hworkspace, hnamespace]

/-- For a registered code the page and the server agree, wherever the request is made. -/
theorem checkPermission_iff_hasPermission (place : Place) :
    checkPermission (userPermissions db userID allCodes) code place.scope ↔
      (loadUserEntry db userID).hasPermission code place.level.name place.wsID place.nsID := by
  rw [checkPermission_iff hdb userID hcode, loadUserEntry_hasPermission]
  -- the server skips ids that are not positive; no binding names such an id
  have hw : ∀ w, (0 < w ∧ HoldsInWorkspace db userID w code) ↔ HoldsInWorkspace db userID w code :=
    fun w => and_iff_right_of_imp (pos_of_holdsInWorkspace hdb)
  have hn : ∀ n, (0 < n ∧ HoldsInNamespace db userID n code) ↔ HoldsInNamespace db userID n code :=
    fun n => and_iff_right_of_imp (pos_of_holdsInNamespace hdb)
  cases place with
  | platform => simp [Place.level, Scope.name]
  | workspace w => simp [Place.level, Place.wsID, Scope.name, hw]
  | «namespace» w n => simp [Place.level, Place.wsID, Place.nsID, Scope.name, hw, hn]

end Agreement

def anaAdministers : DB :=
  { DB.redWorkspace with
    namespaces := .ofRows [⟨5, "blue", "", "", 1, 7, "private", 0, "active", some 7⟩] 6 (by decide)
    roles := .ofRows [.workspaceBuiltin 3 "admin" 1] 4 (by decide)
    rolePermissionRules := [⟨3, "iam:*"⟩]
    roleBindings := .ofRows [{ (Db.Place.workspace 1).grant 7 3 true with id := 2 }] 3 (by decide) }

theorem checkPermission_anaAdministers :
    checkPermission (userPermissions anaAdministers 7 ["iam:roles:list", "compute:hosts:list"]) "iam:roles:list"
        (Place.namespace 1 5).scope ↔
      (loadUserEntry anaAdministers 7).hasPermission "iam:roles:list" "namespace" 1 5 :=
  checkPermission_iff_hasPermission (by decide) 7 (by decide) (.namespace 1 5)

example : checkPermission (userPermissions anaAdministers 7 ["iam:roles:list", "compute:hosts:list"]) "iam:roles:list"
    (Place.namespace 1 5).scope = true := by decide

end Vraxel.Ui
