import Vraxel.StatusHub.Hub
import Vraxel.Iam.Authorization
/-
  Watching hosts over a WebSocket (`pkg/apis/compute/host_watch.go`). The authorization link takes 0
  for a segment that is no number; the handler takes it as "the scope above".
-/

namespace Vraxel.Compute

open Relational Db ApiServer Iam StatusHub

def watchAction : ActionDef where
  name := "watch"
  method := "GET"
  onItem := false
  statusCode := 0
  sensitive := false
  interactive := false
  permission := ["compute:hosts:list"]

def hostsDef : ResourceDef where
  group := "compute"
  version := ""
  name := "hosts"
  scopes := scopePlatform ||| scopeWorkspace ||| scopeNamespace
  ancestors := []
  idParam := ""
  ops := { list := true, get := true, create := true, update := true, delete := true }
  actions := [watchAction,
    ⟨"merge", "POST", true, 0, false, false, ["compute:hosts:delete"]⟩,
    ⟨"terminal", "GET", true, 0, false, true, ["compute:hosts:terminal"]⟩,
    ⟨"logs", "GET", true, 0, false, true, ["compute:hosts:logs"]⟩]
  verbs := ["image-siblings", "metrics", "processes"]
  singletonGet := false
  permissionTargets := []
  sensitive := false
  extraAllow := none
  listAccessScope := ""
  permScope := 0
  itemScopeResolver := none

def watchMeta (lv : ApiServer.Scope) : RouteMeta := hostsDef.actionMeta lv watchAction

/-- `mergeQueryParams`: a path parameter wins, then the first query value. -/
def mergeQueryParams (pathParams query : List (String × String)) : List (String × String) :=
  pathParams ++ query

def param (params : List (String × String)) (name : String) : String := (params.lookup name).getD ""

def parseScopeID (raw : String) : Option Int := if raw = "" then none else Strconv.parseInt raw

/-- `resolveWatchScope`: a malformed id degrades to the scope above it. -/
def resolveWatchScope (params : List (String × String)) : String × Option Int × Option Int :=
  match parseScopeID (param params "workspaceId") with
  | none => ("platform", none, none)
  | some wsID => match parseScopeID (param params "namespaceId") with
    | none => ("workspace", some wsID, none)
    | some nsID => ("namespace", some wsID, some nsID)

def watchKey (m : RouteMeta) (r : Request) : String :=
  let scope := resolveWatchScope (mergeQueryParams (m.pathParams r) r.query)
  scopeKey scope.1 scope.2.1 scope.2.2

/-! What a scope may see. -/

/-- The host of the event is visible in the scope: every host at platform, the
hosts of the workspace, the hosts of the namespace. -/
def VisibleAt (s : ScopeInfo) (e : Event) : Prop :=
  if s.level = scopeNamespace then e.namespaceID = some s.namespaceID
  else if s.level = scopeWorkspace then e.workspaceID = some s.workspaceID
  else True

instance (s : ScopeInfo) (e : Event) : Decidable (VisibleAt s e) :=
  inferInstanceAs (Decidable (if s.level = scopeNamespace then e.namespaceID = some s.namespaceID
    else if s.level = scopeWorkspace then e.workspaceID = some s.workspaceID else True))

/-- The host of the event belongs to a tenant the user holds a rule in. -/
def OwnTenant (db : DB) (userID : Int) (code : String) (e : Event) : Prop :=
  (∃ w, e.workspaceID = some w ∧ HoldsInWorkspace db userID w code) ∨
  (∃ n, e.namespaceID = some n ∧ HoldsInNamespace db userID n code)

/-- Whatever happens on the hub before and after the connection subscribes to
`key`, it receives only events of hosts visible in `s`, and, if its user has no
rule at platform scope, of tenants the user holds a rule in. -/
def WatchConfined (db : DB) (userID : Int) (code key : String) (s : ScopeInfo) : Prop :=
  ∀ before after : List StatusHub.Action,
    ∀ e ∈ receivedBy (Transition.run StatusHub.step [] before).length
        (Transition.run StatusHub.step
          (StatusHub.step (Transition.run StatusHub.step [] before) (.subscribe key)) after),
      VisibleAt s e ∧ (¬ HoldsAtPlatform db userID code → OwnTenant db userID code e)

theorem watchConfined_iff {db : DB} {userID : Int} {code key : String} {s : ScopeInfo} :
    WatchConfined db userID code key s ↔
      ∀ e, key ∈ visibilityKeys e → VisibleAt s e ∧ (¬ HoldsAtPlatform db userID code → OwnTenant db userID code e) := by
  constructor
  · intro h e he
    exact h [] _ e (receives_published (Transition.run StatusHub.step [] []) he)
  · intro h before after e he
    exact h e (received_visible he)

/-- Every scope segment of the URL is an int64. -/
def ScopeIDsParse (m : RouteMeta) (r : Request) : Prop :=
  ∀ name ∈ m.scopeParamNames, (Strconv.parseInt (pathValue r name)).isSome

instance (m : RouteMeta) (r : Request) : Decidable (ScopeIDsParse m r) :=
  inferInstanceAs (Decidable (∀ name ∈ m.scopeParamNames, _))

/-! Admission to the watch route. -/

section Admission

variable {db : DB} {skipCodes : List String} {history : List Call} {r : Request} {clock : Clock} {userID : Int}

theorem watch_checks (lv : ApiServer.Scope) (hskip : "compute:hosts:list" ∉ skipCodes) :
    (rbacServer db skipCodes clock).Checks (watchMeta lv) where
  notSkipped := by
    rw [Bool.eq_false_iff]
    intro h
    simp only [Server.skips, Bool.and_eq_true] at h
    exact hskip (by simpa [watchMeta, ResourceDef.actionMeta, watchAction, rbacServer] using h.2)
  noHook := rfl
  noAccessScope := by simp [watchMeta, ResourceDef.actionMeta, ResourceDef.routeMeta, watchAction]

theorem watch_granted {lv : ApiServer.Scope} (hskip : "compute:hosts:list" ∉ skipCodes)
    (hu : r.userID = some userID) (hadm : Admitted db skipCodes history ⟨watchMeta lv, r, clock⟩) :
    GrantedAt db userID ["compute:hosts:list"] ((watchMeta lv).scope r) := by
  have hiff : Admitted db skipCodes history ⟨watchMeta lv, r, clock⟩ ↔ _ :=
    admitted_iff (watch_checks lv hskip) (List.cons_ne_nil "compute:hosts:list" [])
      (by simp only [watchMeta, ResourceDef.actionMeta, watchAction]; decide)
  obtain ⟨u, hu', hg⟩ := hiff.1 hadm
  obtain rfl := Option.some.inj (hu'.symm.trans hu)
  exact hg

end Admission

/-! The key, level by level. -/

theorem parseScopeID_eq (raw : String) : parseScopeID raw = Strconv.parseInt raw := by
  unfold parseScopeID
  split
  · rename_i h
    rw [h]
    decide
  · rfl

theorem idOrZero_of_parse {r : Request} {name : String} {id : Int}
    (h : Strconv.parseInt (pathValue r name) = some id) : RouteMeta.idOrZero r name = id := by
  rw [RouteMeta.idOrZero, parsePathID_eq_ok_iff.2 h]

/-- On the workspace route the path decides the workspace; the query can only
name a namespace below it. -/
theorem watchKey_workspace {r : Request} {w : Int} (h : Strconv.parseInt (pathValue r "workspaceId") = some w) :
    watchKey (watchMeta scopeWorkspace) r = wsKey w ∨ ∃ n, watchKey (watchMeta scopeWorkspace) r = nsKey w n := by
  have hparam : param (mergeQueryParams ((watchMeta scopeWorkspace).pathParams r) r.query) "workspaceId"
      = pathValue r "workspaceId" := rfl
  simp only [watchKey, resolveWatchScope, parseScopeID_eq, hparam, h]
  cases Strconv.parseInt (param (mergeQueryParams ((watchMeta scopeWorkspace).pathParams r) r.query) "namespaceId") with
  | none => exact .inl rfl
  | some n => exact .inr ⟨n, rfl⟩

theorem watchKey_workspace_malformed {r : Request} (h : Strconv.parseInt (pathValue r "workspaceId") = none) :
    watchKey (watchMeta scopeWorkspace) r = "platform" := by
  have hparam : param (mergeQueryParams ((watchMeta scopeWorkspace).pathParams r) r.query) "workspaceId"
      = pathValue r "workspaceId" := rfl
  simp only [watchKey, resolveWatchScope, parseScopeID_eq, hparam, h]
  rfl

theorem watchKey_namespace (r : Request) :
    watchKey (watchMeta scopeNamespace) r =
      match Strconv.parseInt (pathValue r "workspaceId") with
      | none => "platform"
      | some w => match Strconv.parseInt (pathValue r "namespaceId") with
        | none => wsKey w
        | some n => nsKey w n := by
  have hw : param (mergeQueryParams ((watchMeta scopeNamespace).pathParams r) r.query) "workspaceId"
      = pathValue r "workspaceId" := rfl
  have hn : param (mergeQueryParams ((watchMeta scopeNamespace).pathParams r) r.query) "namespaceId"
      = pathValue r "namespaceId" := rfl
  simp only [watchKey, resolveWatchScope, parseScopeID_eq, hw, hn]
  cases Strconv.parseInt (pathValue r "workspaceId") with
  | none => rfl
  | some w => cases Strconv.parseInt (pathValue r "namespaceId") <;> rfl

/-! Confinement, level by level. -/

section Confinement

variable {db : DB} {skipCodes : List String} {history : List Call} {r : Request} {clock : Clock} {userID : Int}

theorem watchConfined_platform (hg : GrantedAt db userID ["compute:hosts:list"] ((watchMeta scopePlatform).scope r))
    (key : String) : WatchConfined db userID "compute:hosts:list" key ((watchMeta scopePlatform).scope r) := by
  have hscope : (watchMeta scopePlatform).scope r = ⟨scopePlatform, 0, 0⟩ := rfl
  rw [hscope] at hg ⊢
  have hname : scopePlatform.name = "platform" := rfl
  have hplat : HoldsAtPlatform db userID "compute:hosts:list" := by
    simpa [GrantedAt, hname] using hg
  rw [watchConfined_iff]
  intro e _
  exact ⟨trivial, fun h => absurd hplat h⟩

theorem watchConfined_workspace
    (hg : GrantedAt db userID ["compute:hosts:list"] ((watchMeta scopeWorkspace).scope r)) :
    WatchConfined db userID "compute:hosts:list" (watchKey (watchMeta scopeWorkspace) r)
        ((watchMeta scopeWorkspace).scope r) ↔
      (Strconv.parseInt (pathValue r "workspaceId")).isSome := by
  have hname : scopeWorkspace.name = "workspace" := rfl
  rw [RouteMeta.scope_of_workspace rfl] at hg ⊢
  rw [watchConfined_iff]
  cases hw : Strconv.parseInt (pathValue r "workspaceId") with
  | none =>
    -- the key is the platform's, and a platform host is not the workspace's
    refine iff_of_false (fun h => ?_) (by simp)
    rw [watchKey_workspace_malformed hw] at h
    have hvis := (h ⟨"host", 1, false, "platform", none, none⟩ (mem_visibilityKeys_platform _)).1
    exact absurd hvis (by simp [VisibleAt, scopeWorkspace, scopeNamespace])
  | some w =>
    refine iff_of_true (fun e he => ?_) rfl
    rw [idOrZero_of_parse hw] at hg ⊢
    have hews : e.workspaceID = some w := by
      rcases watchKey_workspace hw with hkey | ⟨n, hkey⟩ <;> rw [hkey] at he
      · rcases mem_visibilityKeys_wsKey.1 he with h | h
        · exact h.2
        · exact h.2.1
      · exact (mem_visibilityKeys_nsKey.1 he).2.1
    refine ⟨by simpa [VisibleAt, scopeWorkspace, scopeNamespace] using hews, fun hno => .inl ⟨w, hews, ?_⟩⟩
    have hgrant : 0 < w ∧ HoldsInWorkspace db userID w "compute:hosts:list" := by
      simpa [GrantedAt, hname, hno] using hg
    exact hgrant.2

theorem watchConfined_namespace
    (hg : GrantedAt db userID ["compute:hosts:list"] ((watchMeta scopeNamespace).scope r)) :
    WatchConfined db userID "compute:hosts:list" (watchKey (watchMeta scopeNamespace) r)
        ((watchMeta scopeNamespace).scope r) ↔
      (Strconv.parseInt (pathValue r "workspaceId")).isSome ∧
        (Strconv.parseInt (pathValue r "namespaceId")).isSome := by
  have hname : scopeNamespace.name = "namespace" := rfl
  rw [RouteMeta.scope_of_namespace rfl] at hg ⊢
  rw [watchConfined_iff, watchKey_namespace]
  cases hw : Strconv.parseInt (pathValue r "workspaceId") with
  | none =>
    refine iff_of_false (fun h => ?_) (by simp)
    have hvis := (h ⟨"host", 1, false, "platform", none, none⟩ (mem_visibilityKeys_platform _)).1
    exact absurd hvis (by simp [VisibleAt])
  | some w =>
    cases hn : Strconv.parseInt (pathValue r "namespaceId") with
    | none =>
      -- the key is the workspace's, and a host of the workspace is in no namespace
      refine iff_of_false (fun h => ?_) (by simp)
      have hvis := (h ⟨"host", 1, false, "workspace", some w, none⟩
        (mem_visibilityKeys_wsKey.2 (.inl ⟨rfl, rfl⟩))).1
      exact absurd hvis (by simp [VisibleAt])
    | some n =>
      refine iff_of_true (fun e he => ?_) ⟨rfl, rfl⟩
      rw [idOrZero_of_parse hw, idOrZero_of_parse hn] at hg
      rw [idOrZero_of_parse hw, idOrZero_of_parse hn]
      obtain ⟨-, hews, hens⟩ := mem_visibilityKeys_nsKey.1 he
      refine ⟨by simpa [VisibleAt] using hens, fun hno => ?_⟩
      have hgrant : (0 < w ∧ HoldsInWorkspace db userID w "compute:hosts:list") ∨
          (0 < n ∧ HoldsInNamespace db userID n "compute:hosts:list") := by
        simpa [GrantedAt, hname, hno] using hg
      rcases hgrant with ⟨-, h⟩ | ⟨-, h⟩
      · exact .inl ⟨w, hews, h⟩
      · exact .inr ⟨n, hens, h⟩

/-- **Watch confinement.** An admitted connection receives only events of hosts visible in its scope,
and of tenants its user holds a rule in, exactly if every scope segment of the URL is an int64. -/
theorem watch_confined_iff {lv : ApiServer.Scope} (hlv : lv ∈ hostsDef.scopes.levels)
    (hskip : "compute:hosts:list" ∉ skipCodes) (hu : r.userID = some userID)
    (hadm : Admitted db skipCodes history ⟨watchMeta lv, r, clock⟩) :
    WatchConfined db userID "compute:hosts:list" (watchKey (watchMeta lv) r) ((watchMeta lv).scope r) ↔
      ScopeIDsParse (watchMeta lv) r := by
  have hg := watch_granted hskip hu hadm
  have hlevels : hostsDef.scopes.levels = [scopePlatform, scopeWorkspace, scopeNamespace] := by decide
  rw [hlevels] at hlv
  simp only [List.mem_cons, List.not_mem_nil, or_false] at hlv
  rcases hlv with rfl | rfl | rfl
  · have hnames : (watchMeta scopePlatform).scopeParamNames = [] := rfl
    exact iff_of_true (watchConfined_platform hg _) (by simp [ScopeIDsParse, hnames])
  · have hnames : (watchMeta scopeWorkspace).scopeParamNames = ["workspaceId"] := rfl
    rw [watchConfined_workspace hg]
    simp [ScopeIDsParse, hnames]
  · have hnames : (watchMeta scopeNamespace).scopeParamNames = ["workspaceId", "namespaceId"] := rfl
    rw [watchConfined_namespace hg]
    simp [ScopeIDsParse, hnames]

end Confinement

/-! One namespace, one member. -/

def namespaceViewer : DB :=
  { DB.empty with
    namespaces := .ofRows [⟨5, "globex-dev", "", "", 2, 8, "private", 0, "active", none⟩] 6 (by decide)
    roles := .ofRows [.namespaceBuiltin 3 "namespace-viewer" 5] 4 (by decide)
    rolePermissionRules := [⟨3, "*:list"⟩]
    roleBindings := .ofRows [⟨1, 9, 3, .namespace, some 2, some 5, false, rfl⟩] 2 (by decide) }

def watchNamespace5 (w : String) : Request :=
  ⟨[("workspaceId", w), ("namespaceId", "5")], [], some 9, "eve"⟩

/-- With a workspace segment that is no number the watcher is admitted by the
rule in namespace 5 and receives an event of a host of workspace 1. -/
theorem malformed_workspace_leaks :
    Admitted namespaceViewer [] [] ⟨watchMeta scopeNamespace, watchNamespace5 "abc", ⟨0, 0, 0, 0⟩⟩ ∧
      ¬ HoldsAtPlatform namespaceViewer 9 "compute:hosts:list" ∧
      receivedBy 0 (Transition.run StatusHub.step []
        [.subscribe (watchKey (watchMeta scopeNamespace) (watchNamespace5 "abc")),
          .publish ⟨"host", 12, false, "workspace", some 1, none⟩, .receive 0])
        = [⟨"host", 12, false, "workspace", some 1, none⟩] ∧
      ¬ VisibleAt ((watchMeta scopeNamespace).scope (watchNamespace5 "abc"))
        ⟨"host", 12, false, "workspace", some 1, none⟩ := by
  decide

theorem wellformed_watch_confined :
    Admitted namespaceViewer [] [] ⟨watchMeta scopeNamespace, watchNamespace5 "2", ⟨0, 0, 0, 0⟩⟩ ∧
      WatchConfined namespaceViewer 9 "compute:hosts:list" (watchKey (watchMeta scopeNamespace) (watchNamespace5 "2"))
        ((watchMeta scopeNamespace).scope (watchNamespace5 "2")) := by
  have hadm : Admitted namespaceViewer [] []
      ⟨watchMeta scopeNamespace, watchNamespace5 "2", ⟨0, 0, 0, 0⟩⟩ := by decide
  exact ⟨hadm, (watch_confined_iff (by decide) (by decide) rfl hadm).2 (by decide)⟩

end Vraxel.Compute
