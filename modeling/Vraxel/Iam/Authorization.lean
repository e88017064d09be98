import Vraxel.Lib.Run
import Vraxel.Iam.Checker
import Vraxel.ApiServer.Authz
/-
  Authorization of requests against the role bindings in the database: the
  RBAC checker behind the authorization link, over a history of requests that
  share its cache.
-/

namespace Vraxel.Iam

open Relational Db ApiServer

/-- The clock readings of one request: its two loads of the user's entry. -/
structure Clock where
  adminCheckedAt : Int
  adminLoadedAt : Int
  codesCheckedAt : Int
  codesLoadedAt : Int

def withEntry {α : Type} (load : Except String UserPermissionEntry × Cache) (f : UserPermissionEntry → α) :
    Except String α × Cache := (load.1.map f, load.2)

/-- `RBACChecker` over a store of rules, and a database for the accessible ids. -/
def rbacChecker (store : RuleStore) (db : DB) (clock : Clock) : PermissionChecker Cache where
  isPlatformAdmin userID cache :=
    withEntry (loadEntry store clock.adminCheckedAt clock.adminLoadedAt userID cache) (·.isPlatformAdmin)
  checkAnyPermission userID permCodes scope workspaceID namespaceID cache :=
    withEntry (loadEntry store clock.codesCheckedAt clock.codesLoadedAt userID cache)
      fun e => e.hasAnyPermission permCodes scope workspaceID namespaceID
  getAccessibleWorkspaceIDs userID cache := (.ok (Iam.getAccessibleWorkspaceIDs db userID), cache)
  getAccessibleNamespaceIDs userID cache := (.ok (Iam.getAccessibleNamespaceIDs db userID), cache)

variable (db : DB)

def rbacServer (skipCodes : List String) (clock : Clock) : Server Cache :=
  ⟨some (rbacChecker (dbRuleStore db) db clock), skipCodes⟩

structure Call where
  route : RouteMeta
  request : Request
  clock : Clock

def authorize (skipCodes : List String) (cache : Cache) (call : Call) : Verdict × Cache :=
  authzMiddleware (rbacServer db skipCodes call.clock) call.route call.request cache

def cacheAfter (skipCodes : List String) (history : List Call) : Cache :=
  Transition.run (fun cache call => (authorize db skipCodes cache call).2) [] history

def Admitted (skipCodes : List String) (history : List Call) (call : Call) : Prop :=
  (authorize db skipCodes (cacheAfter db skipCodes history) call).1.admits

instance (db : DB) (skipCodes : List String) (history : List Call) (call : Call) :
    Decidable (Admitted db skipCodes history call) := inferInstanceAs (Decidable (_ = true))

/-! Coherence of the cache over histories. -/

section Checker

variable {db : DB} {cache : Cache} (clock : Clock)

theorem isPlatformAdmin_coherent (h : Coherent db cache) (userID : Int) :
    ((rbacChecker (dbRuleStore db) db clock).isPlatformAdmin userID cache).1
        = .ok (loadUserEntry db userID).isPlatformAdmin ∧
      Coherent db ((rbacChecker (dbRuleStore db) db clock).isPlatformAdmin userID cache).2 := by
  obtain ⟨h₁, h₂⟩ := loadEntry_coherent h clock.adminCheckedAt clock.adminLoadedAt userID
  exact ⟨by simp [rbacChecker, withEntry, h₁, Except.map], h₂⟩

theorem checkAnyPermission_coherent (h : Coherent db cache) (userID : Int) (codes : List String)
    (scope : String) (wsID nsID : Int) :
    ((rbacChecker (dbRuleStore db) db clock).checkAnyPermission userID codes scope wsID nsID cache).1
        = .ok ((loadUserEntry db userID).hasAnyPermission codes scope wsID nsID) ∧
      Coherent db
        ((rbacChecker (dbRuleStore db) db clock).checkAnyPermission userID codes scope wsID nsID cache).2 := by
  obtain ⟨h₁, h₂⟩ := loadEntry_coherent h clock.codesCheckedAt clock.codesLoadedAt userID
  exact ⟨by simp [rbacChecker, withEntry, h₁, Except.map], h₂⟩

end Checker

theorem rbacChecker_keeps_coherent (clock : Clock) :
    (rbacChecker (dbRuleStore db) db clock).Keeps (Coherent db) where
  isPlatformAdmin userID _ h := (isPlatformAdmin_coherent clock h userID).2
  checkAnyPermission userID codes scope wsID nsID _ h :=
    (checkAnyPermission_coherent clock h userID codes scope wsID nsID).2
  getAccessibleWorkspaceIDs _ _ h := h
  getAccessibleNamespaceIDs _ _ h := h

theorem authorize_coherent {db : DB} {skipCodes : List String} {cache : Cache} (h : Coherent db cache)
    (call : Call) : Coherent db (authorize db skipCodes cache call).2 := by
  refine authzMiddleware_keeps ?_ call.route call.request h
  intro c hc
  obtain rfl := Option.some.inj hc
  exact rbacChecker_keeps_coherent db call.clock

theorem coherent_history (skipCodes : List String) (history : List Call) :
    Coherent db (cacheAfter db skipCodes history) := by
  have hstep : ∀ (cache : Cache) (call : Call), Coherent db cache →
      Coherent db ((fun cache call => (authorize db skipCodes cache call).2) cache call) :=
    fun _ call h => authorize_coherent h call
  exact Transition.run_inv_of_step hstep (coherent_nil db) history

/-! What an admission rests on. -/

/-- The user holds a rule for one of the codes, along the chain of the scope. -/
def GrantedAt (userID : Int) (codes : List String) (scope : ScopeInfo) : Prop :=
  ∃ code ∈ codes,
    HoldsAtPlatform db userID code ∨
    ((scope.level.name = "workspace" ∨ scope.level.name = "namespace") ∧ 0 < scope.workspaceID ∧
      HoldsInWorkspace db userID scope.workspaceID code) ∨
    (scope.level.name = "namespace" ∧ 0 < scope.namespaceID ∧
      HoldsInNamespace db userID scope.namespaceID code)

/-- After any history, a request on a checked route is admitted exactly if its
user holds a matching rule along the scope chain. -/
theorem admitted_iff {db : DB} {skipCodes : List String} {history : List Call} {call : Call}
    (hm : (rbacServer db skipCodes call.clock).Checks call.route) (hcodes : call.route.permCodes ≠ [])
    (hstar : ∀ code ∈ call.route.permCodes, StarFree code) :
    Admitted db skipCodes history call ↔
      ∃ userID, call.request.userID = some userID ∧
        GrantedAt db userID call.route.permCodes (call.route.scope call.request) := by
  have hcache := coherent_history db skipCodes history
  rw [Admitted, authorize, authzMiddleware_next_iff rfl hm]
  refine exists_congr fun userID => and_congr_right fun _ => ?_
  obtain ⟨hA, hcoh⟩ := isPlatformAdmin_coherent call.clock hcache userID
  obtain ⟨hC, -⟩ := checkAnyPermission_coherent call.clock hcoh userID call.route.permCodes
    (call.route.scope call.request).level.name (call.route.scope call.request).workspaceID
    (call.route.scope call.request).namespaceID
  rw [hA, hC]
  simp only [Except.ok.injEq, UserPermissionEntry.hasAnyPermission_iff hstar, loadUserEntry_hasPermission]
  constructor
  · rintro (hadmin | ⟨-, hgrant⟩)
    · -- an administrator holds the super permission, which matches every code
      obtain ⟨code, hcode⟩ := List.exists_mem_of_ne_nil _ hcodes
      exact ⟨code, hcode, .inl (holdsAtPlatform_of_isPlatformAdmin hadmin code)⟩
    · exact hgrant
  · intro hgrant
    cases hadmin : (loadUserEntry db userID).isPlatformAdmin with
    | true => exact .inl rfl
    | false => exact .inr ⟨rfl, hgrant⟩

/-! Isolation of namespace routes. -/

/-- The user holds a rule for one of the codes that covers namespace `n`: at
platform scope, in the workspace that owns `n`, or in `n`. -/
def HoldsForNamespace (userID : Int) (codes : List String) (n : Int) : Prop :=
  ∃ code ∈ codes,
    HoldsAtPlatform db userID code ∨
    (∃ ns ∈ db.namespaces, ns.id = n ∧ HoldsInWorkspace db userID ns.workspaceID code) ∨
    HoldsInNamespace db userID n code

instance (db : DB) (userID : Int) (codes : List String) (n : Int) :
    Decidable (HoldsForNamespace db userID codes n) := inferInstanceAs (Decidable (∃ code ∈ codes, _))

/-- The user holds a rule for one of the codes in workspace `w`, which does not
own `n`, and holds none that covers `n`. -/
structure OnlyForeignRule (db : DB) (userID : Int) (codes : List String) (w n : Int) : Prop where
  positive : 0 < w
  notOwner : db.workspaceOf n ≠ some w
  held : ∃ code ∈ codes, HoldsInWorkspace db userID w code
  uncovered : ¬ HoldsForNamespace db userID codes n

section NamespaceRoute

variable {db : DB} {skipCodes : List String} {history : List Call} {d : ResourceDef} {rts : List Route}
  {rt : Route} {r : Request} {userID : Int} {clock : Clock}

/-- A registered route with no hook that is not whitelisted is a checked one,
at every level but platform. -/
theorem checks_of_registered (hreg : register d = .ok rts) (hrt : rt ∈ rts)
    (hlevel : rt.info.scopeLevel ≠ scopePlatform) (hhook : d.extraAllow = none)
    (hskip : (rbacServer db skipCodes clock).skips rt.info = false) :
    (rbacServer db skipCodes clock).Checks rt.info := by
  have hof := register_spec hreg hrt
  exact ⟨hskip, hof.hook.2 hhook, hof.access hlevel⟩

/-- At namespace scope the chain is platform, the workspace in the path and the
namespace in the path. -/
theorem namespace_route_admits_iff (hreg : register d = .ok rts) (hrt : rt ∈ rts)
    (hlevel : rt.info.scopeLevel = scopeNamespace) (hhook : d.extraAllow = none)
    (hskip : (rbacServer db skipCodes clock).skips rt.info = false)
    (hstar : ∀ code ∈ rt.info.permCodes, StarFree code) (hu : r.userID = some userID) :
    Admitted db skipCodes history ⟨rt.info, r, clock⟩ ↔
      ∃ code ∈ rt.info.permCodes,
        HoldsAtPlatform db userID code ∨
        (0 < RouteMeta.idOrZero r "workspaceId" ∧
          HoldsInWorkspace db userID (RouteMeta.idOrZero r "workspaceId") code) ∨
        (0 < RouteMeta.idOrZero r "namespaceId" ∧
          HoldsInNamespace db userID (RouteMeta.idOrZero r "namespaceId") code) := by
  have hchecks := checks_of_registered hreg hrt (by rw [hlevel]; decide) hhook hskip
  rw [admitted_iff hchecks (register_permCodes_ne_nil hreg rt hrt) hstar]
  have hname : Scope.name scopeNamespace = "namespace" := rfl
  simp [hu, GrantedAt, RouteMeta.scope_of_namespace hlevel, hname]

theorem foreign_workspace_rule_admits (hreg : register d = .ok rts) (hrt : rt ∈ rts)
    (hlevel : rt.info.scopeLevel = scopeNamespace) (hhook : d.extraAllow = none)
    (hskip : (rbacServer db skipCodes clock).skips rt.info = false)
    (hstar : ∀ code ∈ rt.info.permCodes, StarFree code) (hu : r.userID = some userID)
    (hw : 0 < RouteMeta.idOrZero r "workspaceId")
    (hheld : ∃ code ∈ rt.info.permCodes, HoldsInWorkspace db userID (RouteMeta.idOrZero r "workspaceId") code) :
    Admitted db skipCodes history ⟨rt.info, r, clock⟩ := by
  obtain ⟨code, hcode, hholds⟩ := hheld
  exact (namespace_route_admits_iff hreg hrt hlevel hhook hskip hstar hu).2
    ⟨code, hcode, .inr (.inl ⟨hw, hholds⟩)⟩

/-- **Isolation of namespace routes.** An admitted user holds a rule that covers
the namespace, unless all the user has is a rule in a workspace that the path
names and that does not own the namespace. -/
theorem namespace_isolation_iff (hreg : register d = .ok rts) (hrt : rt ∈ rts)
    (hlevel : rt.info.scopeLevel = scopeNamespace) (hhook : d.extraAllow = none)
    (hskip : (rbacServer db skipCodes clock).skips rt.info = false)
    (hstar : ∀ code ∈ rt.info.permCodes, StarFree code) (hu : r.userID = some userID) :
    (Admitted db skipCodes history ⟨rt.info, r, clock⟩ →
        HoldsForNamespace db userID rt.info.permCodes (RouteMeta.idOrZero r "namespaceId")) ↔
      ¬ OnlyForeignRule db userID rt.info.permCodes (RouteMeta.idOrZero r "workspaceId")
        (RouteMeta.idOrZero r "namespaceId") := by
  constructor
  · intro hprop hforeign
    exact hforeign.uncovered (hprop (foreign_workspace_rule_admits hreg hrt hlevel hhook hskip hstar hu
      hforeign.positive hforeign.held))
  · intro hforeign hadm
    obtain ⟨code, hcode, hplat | ⟨hw, hws⟩ | ⟨-, hns⟩⟩ :=
      (namespace_route_admits_iff hreg hrt hlevel hhook hskip hstar hu).1 hadm
    · exact ⟨code, hcode, .inl hplat⟩
    · -- a rule in the workspace of the path: either it owns the namespace, or the rule is foreign
      by_contra huncovered
      refine hforeign ⟨hw, ?_, ⟨code, hcode, hws⟩, huncovered⟩
      intro howner
      obtain ⟨ns, hns, hid, hwid⟩ := DB.workspaceOf_eq_some_iff.1 howner
      exact huncovered ⟨code, hcode, .inr (.inl ⟨ns, hns, hid, hwid ▸ hws⟩)⟩
    · exact ⟨code, hcode, .inr (.inr hns)⟩

end NamespaceRoute

/-! Two tenants: workspace 1 owns namespace 4, workspace 2 owns namespace 5, and
user 7 administers workspace 1. -/

def namespaceUsersDef : ResourceDef where
  group := "iam"
  version := ""
  name := "users"
  scopes := scopeNamespace
  ancestors := []
  idParam := ""
  ops := { list := true, get := true, createAny := true, batchDelete := true }
  actions := []
  verbs := ["rolebindings"]
  singletonGet := false
  permissionTargets := []
  sensitive := false
  extraAllow := none
  listAccessScope := ""
  permScope := 0
  itemScopeResolver := none

def addMembers : Route where
  pattern := "POST " ++ namespaceUsersDef.collectionPath scopeNamespace
  info := { namespaceUsersDef.writeMeta scopeNamespace "create" false with kind := "createAny" }

theorem addMembers_registered :
    register namespaceUsersDef = .ok (namespaceUsersDef.scopedRoutes scopeNamespace) ∧
      addMembers ∈ namespaceUsersDef.scopedRoutes scopeNamespace :=
  ⟨rfl, List.mem_of_getElem? (i := 3) rfl⟩

def twoTenants : DB :=
  { DB.empty with
    workspaces := .ofRows [⟨1, "acme", "", "", 7, "active", none⟩, ⟨2, "globex", "", "", 8, "active", none⟩] 3 (by decide)
    namespaces := .ofRows [⟨4, "acme-dev", "", "", 1, 7, "private", 0, "active", none⟩,
      ⟨5, "globex-dev", "", "", 2, 8, "private", 0, "active", none⟩] 6 (by decide)
    roles := .ofRows [.workspaceBuiltin 3 "workspace-admin" 1] 4 (by decide)
    rolePermissionRules := [⟨3, "*:*"⟩]
    roleBindings := .ofRows [⟨1, 7, 3, .workspace, some 1, none, true, rfl⟩] 2 (by decide) }

def addMembersUnder (n : String) : Request :=
  ⟨[("workspaceId", "1"), ("namespaceId", n)], [], some 7, "ana"⟩

/-- The administrator of workspace 1 may add members to namespace 5, which is
workspace 2's, by asking under their own workspace. -/
theorem foreign_namespace_admitted :
    Admitted twoTenants [] [] ⟨addMembers.info, addMembersUnder "5", ⟨0, 0, 0, 0⟩⟩ ∧
      ¬ HoldsForNamespace twoTenants 7 addMembers.info.permCodes 5 := by
  decide

theorem own_namespace_isolated :
    Admitted twoTenants [] [] ⟨addMembers.info, addMembersUnder "4", ⟨0, 0, 0, 0⟩⟩ ∧
      HoldsForNamespace twoTenants 7 addMembers.info.permCodes
        (RouteMeta.idOrZero (addMembersUnder "4") "namespaceId") := by
  have hadm : Admitted twoTenants [] [] ⟨addMembers.info, addMembersUnder "4", ⟨0, 0, 0, 0⟩⟩ := by decide
  refine ⟨hadm, (namespace_isolation_iff addMembers_registered.1 addMembers_registered.2 rfl rfl
    (by decide) (by decide) rfl).2 (fun h => h.notOwner ?_) hadm⟩
  decide

end Vraxel.Iam
