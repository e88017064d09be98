import Vraxel.Go.Strings
/-
  Permission patterns (`pkg/apis/iam/rbac_match.go`) and the rules of one user
  (`rbac_checker.go`).
-/

namespace Vraxel.Iam

open Strings

def matchPermission (pattern code : String) : Bool :=
  if pattern = "*:*" then true
  else if hasSuffix pattern ":*" then
    hasPrefix code (String.ofList (pattern.toList.take (pattern.toList.length - 2)) ++ ":")
  else if hasPrefix pattern "*:" then
    hasSuffix code (":" ++ String.ofList (pattern.toList.drop 2))
  else pattern == code

def StarFree (code : String) : Prop := '*' ∉ code.toList

instance (code : String) : Decidable (StarFree code) := inferInstanceAs (Decidable (¬ _))

theorem matchPermission_of_starFree {pattern code : String} (h : StarFree pattern) :
    matchPermission pattern code = (pattern == code) := by
  have hne : pattern ≠ "*:*" := by
    rintro rfl
    exact h (by decide)
  have hs : hasSuffix pattern ":*" = false := hasSuffix_eq_false_of_not_mem h (by decide)
  have hp : hasPrefix pattern "*:" = false := hasPrefix_eq_false_of_not_mem h (by decide)
  simp [matchPermission, hne, hs, hp]

@[simp] theorem matchPermission_all (code : String) : matchPermission "*:*" code = true := rfl

example : matchPermission "iam:namespaces:*" "iam:namespaces:users:create" = true := by decide

example : matchPermission "*:list" "iam:users:list" = true := by decide

example : matchPermission "iam:*" "compute:hosts:list" = false := by decide

def matchesEither (rule target : String) : Bool :=
  matchPermission rule target || matchPermission target rule

theorem matchesEither_of_starFree {rule target : String} (h : StarFree target) :
    matchesEither rule target = matchPermission rule target := by
  rw [matchesEither, matchPermission_of_starFree h]
  by_cases heq : target = rule
  · subst heq
    simp [matchPermission_of_starFree h]
  · simp [heq]

/-! The rules of one user. -/

/-- The permission rules of a user, by scope. The maps are association lists:
the rules of a workspace are all those listed under its id. -/
structure UserPermissionEntry where
  isPlatformAdmin : Bool
  platformRules : List String
  workspaceRules : List (Int × String)
  namespaceRules : List (Int × String)

def rulesOf (rules : List (Int × String)) (id : Int) : List String :=
  (rules.filter fun p => p.1 == id).map (·.2)

@[simp] theorem mem_rulesOf {rules : List (Int × String)} {id : Int} {p : String} :
    p ∈ rulesOf rules id ↔ (id, p) ∈ rules := by
  simp [rulesOf]

namespace UserPermissionEntry

variable (e : UserPermissionEntry)

/-- The scope chain: platform rules apply everywhere, workspace rules below a
workspace, namespace rules in a namespace. `hit` decides one rule. -/
def chain (hit : String → Bool) (scope : String) (wsID nsID : Int) : Bool :=
  e.platformRules.any hit
    || ((scope == "workspace" || scope == "namespace") && wsID > 0 && (rulesOf e.workspaceRules wsID).any hit)
    || (scope == "namespace" && nsID > 0 && (rulesOf e.namespaceRules nsID).any hit)

def hasPermission (code scope : String) (wsID nsID : Int) : Bool :=
  e.chain (fun rule => matchPermission rule code) scope wsID nsID

def hasAnyPermissionTarget (target scope : String) (wsID nsID : Int) : Bool :=
  e.chain (fun rule => matchesEither rule target) scope wsID nsID

def hasAnyPermission (targets : List String) (scope : String) (wsID nsID : Int) : Bool :=
  targets.any fun target => e.hasAnyPermissionTarget target scope wsID nsID

theorem chain_iff {e : UserPermissionEntry} {hit : String → Bool} {scope : String} {wsID nsID : Int} :
    e.chain hit scope wsID nsID ↔
      (∃ p ∈ e.platformRules, hit p) ∨
      ((scope = "workspace" ∨ scope = "namespace") ∧ 0 < wsID ∧ ∃ p, (wsID, p) ∈ e.workspaceRules ∧ hit p) ∨
      (scope = "namespace" ∧ 0 < nsID ∧ ∃ p, (nsID, p) ∈ e.namespaceRules ∧ hit p) := by
  simp [chain, or_assoc, and_assoc]

theorem hasAnyPermission_iff {e : UserPermissionEntry} {targets : List String} {scope : String} {wsID nsID : Int}
    (h : ∀ t ∈ targets, StarFree t) :
    e.hasAnyPermission targets scope wsID nsID ↔ ∃ t ∈ targets, e.hasPermission t scope wsID nsID := by
  simp only [hasAnyPermission, List.any_eq_true]
  refine exists_congr fun t => and_congr_right fun ht => ?_
  have heq : (fun rule => matchesEither rule t) = fun rule => matchPermission rule t :=
    funext fun rule => matchesEither_of_starFree (h t ht)
  rw [hasAnyPermissionTarget, heq, hasPermission]

end UserPermissionEntry

end Vraxel.Iam
