import Vraxel.ApiServer.Scope
/-
  From resource definitions to routes (`lib/apiserver/meta.go`, `resource.go`). What authorization
  reads of a route is its `RouteMeta`.
-/

namespace Vraxel.ApiServer

open Strings Api

structure Ancestor where
  name : String
  idParam : String

structure ActionDef where
  name : String
  method : String
  onItem : Bool
  statusCode : Nat
  sensitive : Bool
  interactive : Bool
  permission : List String

structure Ops where
  list : Bool := false
  get : Bool := false
  create : Bool := false
  update : Bool := false
  delete : Bool := false
  batchDelete : Bool := false
  patch : Bool := false
  listAny : Bool := false
  createAny : Bool := false

structure ResourceDef where
  group : String
  version : String
  name : String
  scopes : Scope
  /-- The chain of parents, outermost first. -/
  ancestors : List Ancestor
  idParam : String
  ops : Ops
  actions : List ActionDef
  verbs : List String
  singletonGet : Bool
  permissionTargets : List String
  sensitive : Bool
  extraAllow : Option (String → Request → Int → Bool)
  listAccessScope : String
  permScope : Scope
  itemScopeResolver : Option (Int → ScopeInfo)

structure RouteMeta where
  module : String
  resource : String
  chain : String
  verb : String
  kind : String
  scopeLevel : Scope
  permCodes : List String
  apiVersion : String
  parentParams : List String
  /-- Empty on collection routes. -/
  idParam : String
  statusCode : Nat
  sensitive : Bool
  interactive : Bool
  extraAllow : Option (Request → Int → Bool)
  accessScope : String
  itemScopeResolver : Option (Int → ScopeInfo)

structure Route where
  pattern : String
  info : RouteMeta

def moduleName (group : String) : String := if group = "" then "core" else group

def permCode (group : String) (nameChain : List String) (verb : String) : String :=
  moduleName group ++ ":" ++ join nameChain ":" ++ ":" ++ verb

namespace Ops

def verbs (o : Ops) : List String :=
  (if o.list || o.listAny then ["list"] else []) ++ (if o.get then ["get"] else [])
    ++ (if o.create || o.createAny then ["create"] else []) ++ (if o.update then ["update"] else [])
    ++ (if o.patch then ["patch"] else []) ++ (if o.delete then ["delete"] else [])
    ++ (if o.batchDelete then ["deleteCollection"] else [])

end Ops

variable (d : ResourceDef)

namespace ResourceDef

def versionOrDefault : String := if d.version = "" then "v1" else d.version

def apiVersion : String :=
  if d.group = "" then d.versionOrDefault else d.group ++ "/" ++ d.versionOrDefault

def basePath : String :=
  if d.group = "" then "/api/" ++ d.versionOrDefault
  else "/api/" ++ d.group ++ "/" ++ d.versionOrDefault

def itemParam : String := if d.idParam ≠ "" then d.idParam else singularID d.name

def parentPattern : String :=
  String.join (d.ancestors.map fun a => a.name ++ "/\x7b" ++ sanitizeWildcard a.idParam ++ "\x7d/")

def nameChain : List String := d.ancestors.map (·.name) ++ [d.name]

def routeMeta (lv : Scope) (verb : String) (withID : Bool) : RouteMeta :=
  let codes :=
    if d.permissionTargets ≠ [] then d.permissionTargets else [permCode d.group d.nameChain verb]
  { module := moduleName d.group
    resource := d.name
    chain := join (lv.scopeChainParts ++ d.nameChain) ":"
    verb := verb
    kind := verb
    scopeLevel := lv
    permCodes := codes
    apiVersion := d.apiVersion
    parentParams := d.ancestors.map (·.idParam)
    idParam := if withID then d.itemParam else ""
    statusCode := 0
    sensitive := false
    interactive := false
    extraAllow := d.extraAllow.map fun hook r userID => hook (codes.headD "") r userID
    accessScope := if verb = "list" ∧ lv = scopePlatform then d.listAccessScope else ""
    itemScopeResolver := d.itemScopeResolver }

def writeMeta (lv : Scope) (verb : String) (withID : Bool) : RouteMeta :=
  { d.routeMeta lv verb withID with sensitive := d.sensitive }

def actionMeta (lv : Scope) (a : ActionDef) : RouteMeta :=
  { d.routeMeta lv a.name a.onItem with
    kind := "action"
    permCodes := a.permission
    statusCode := a.statusCode
    sensitive := a.sensitive || d.sensitive
    interactive := a.interactive }

def collectionPath (lv : Scope) : String :=
  d.basePath ++ lv.pathPrefix ++ "/" ++ d.parentPattern ++ d.name

def itemPath (lv : Scope) : String :=
  d.collectionPath lv ++ "/\x7b" ++ sanitizeWildcard d.itemParam ++ "\x7d"

def scopedRoutes (lv : Scope) : List Route :=
  let base := d.collectionPath lv
  let item := d.itemPath lv
  (if d.ops.list then [⟨"GET " ++ base, d.routeMeta lv "list" false⟩] else [])
    ++ (if d.ops.listAny then [⟨"GET " ++ base, d.routeMeta lv "list" false⟩] else [])
    ++ (if d.singletonGet then [⟨"GET " ++ base, d.routeMeta lv "list" false⟩] else [])
    ++ (if d.ops.get then [⟨"GET " ++ item, d.routeMeta lv "get" true⟩] else [])
    -- read-only views check the code of get
    ++ d.verbs.map (fun v => ⟨"GET " ++ item ++ "/" ++ v, { d.routeMeta lv "get" true with kind := "verb" }⟩)
    ++ (if d.ops.create then [⟨"POST " ++ base, d.writeMeta lv "create" false⟩] else [])
    ++ (if d.ops.createAny then
          [⟨"POST " ++ base, { d.writeMeta lv "create" false with kind := "createAny" }⟩] else [])
    ++ (if d.ops.update then [⟨"PUT " ++ item, d.writeMeta lv "update" true⟩] else [])
    ++ (if d.ops.patch then [⟨"PATCH " ++ item, d.writeMeta lv "patch" true⟩] else [])
    ++ (if d.ops.delete then [⟨"DELETE " ++ item, d.routeMeta lv "delete" true⟩] else [])
    ++ (if d.ops.batchDelete then [⟨"DELETE " ++ base, d.routeMeta lv "deleteCollection" false⟩] else [])
    ++ d.actions.map (fun a =>
        ⟨a.method ++ " " ++ (if a.onItem then item else base) ++ "/" ++ a.name, d.actionMeta lv a⟩)

end ResourceDef

/-- `itemKey`, which tells item from collection actions in duplicate checks. -/
def itemKey (onItem : Bool) : String := if onItem then " item" else " collection"

def quoted (s : String) : String := "\"" ++ s ++ "\""

/-- The checks `Register` makes of the actions, in order; `seen` holds the keys so far. -/
def checkActions (resource : String) (seen : List String) : List ActionDef → Except String Unit
  | [] => .ok ()
  | a :: rest =>
    let key := a.method ++ " " ++ a.name ++ itemKey a.onItem
    if a.name = "" then
      .error ("apiserver: resource " ++ quoted resource ++ " has an ActionDef without name or handler "
        ++ "(use Action/ActionAny/WSAction/RawAction constructors)")
    else if a.permission = [] then
      .error ("apiserver: action " ++ quoted a.name ++ " on resource " ++ quoted resource
        ++ ": Permission is required")
    else if key ∈ seen then
      .error ("apiserver: duplicate action " ++ quoted a.name ++ " (" ++ a.method ++ ") on resource "
        ++ quoted resource)
    else checkActions resource (key :: seen) rest

def checkVerbs (resource : String) (seen : List String) : List String → Except String Unit
  | [] => .ok ()
  | v :: rest =>
    if v = "" then
      .error ("apiserver: resource " ++ quoted resource ++ " has a VerbDef without name or handler "
        ++ "(use Verb/VerbAny constructors)")
    else if v ∈ seen then
      .error ("apiserver: duplicate verb " ++ quoted v ++ " on resource " ++ quoted resource)
    else checkVerbs resource (v :: seen) rest

/-- The checks `Register` makes of a definition; the text is the one it panics with. -/
def checkDef : Except String Unit := do
  if d.name = "" then
    throw "apiserver: ResourceDef.Name is required"
  if d.ops.list && d.ops.listAny then
    throw ("apiserver: resource " ++ quoted d.name ++ " declares both List and ListAny")
  if d.ops.create && d.ops.createAny then
    throw ("apiserver: resource " ++ quoted d.name ++ " declares both Create and CreateAny")
  checkActions d.name [] d.actions
  checkVerbs d.name [] d.verbs
  if d.singletonGet && d.ops.list then
    throw ("apiserver: resource " ++ quoted d.name ++ " declares both SingletonGet and Ops.List")

/-- `Register`: the routes of a definition, level by level. No level means platform. -/
def register : Except String (List Route) := do
  checkDef d
  let scopes := if d.scopes = 0 then scopePlatform else d.scopes
  return scopes.levels.flatMap d.scopedRoutes

/-! What every route of a level has in common. -/

/-- The parts of a route's metadata that its definition and its level decide. -/
structure RouteMeta.Of (d : ResourceDef) (lv : Scope) (m : RouteMeta) : Prop where
  level : m.scopeLevel = lv
  hook : m.extraAllow = none ↔ d.extraAllow = none
  resolver : m.itemScopeResolver = d.itemScopeResolver
  access : lv ≠ scopePlatform → m.accessScope = ""

theorem routeMeta_of (lv : Scope) (verb : String) (withID : Bool) :
    (d.routeMeta lv verb withID).Of d lv where
  level := rfl
  hook := by simp [ResourceDef.routeMeta]
  resolver := rfl
  access h := by simp [ResourceDef.routeMeta, h]

variable {d : ResourceDef}

/-- Every route of a level carries that level, its definition's hook and
resolver, and an access scope at platform level only. -/
theorem scopedRoutes_spec {lv : Scope} {rt : Route} (h : rt ∈ d.scopedRoutes lv) :
    rt.info.Of d lv := by
  -- each kind of route changes only fields that `Of` does not read
  have same : ∀ {m : RouteMeta} (verb : String),
      m.scopeLevel = (d.routeMeta lv verb true).scopeLevel →
      m.extraAllow = (d.routeMeta lv verb true).extraAllow →
      m.itemScopeResolver = (d.routeMeta lv verb true).itemScopeResolver →
      m.accessScope = (d.routeMeta lv verb true).accessScope → m.Of d lv := by
    intro m verb h₁ h₂ h₃ h₄
    have hm := routeMeta_of d lv verb true
    exact ⟨h₁ ▸ hm.level, h₂ ▸ hm.hook, h₃ ▸ hm.resolver, h₄ ▸ hm.access⟩
  simp only [ResourceDef.scopedRoutes, List.mem_append, List.mem_map, List.mem_ite_nil_right,
    List.mem_singleton] at h
  rcases h with (((((((((((⟨-, rfl⟩ | ⟨-, rfl⟩) | ⟨-, rfl⟩) | ⟨-, rfl⟩) | ⟨v, -, rfl⟩) | ⟨-, rfl⟩) | ⟨-, rfl⟩) |
    ⟨-, rfl⟩) | ⟨-, rfl⟩) | ⟨-, rfl⟩) | ⟨-, rfl⟩) | ⟨a, -, rfl⟩)
  all_goals exact same _ rfl rfl rfl rfl

/-! Every registered route carries a permission code. -/

theorem permission_ne_nil_of_checkActions {resource : String} {seen : List String} {actions : List ActionDef}
    (h : checkActions resource seen actions = .ok ()) : ∀ a ∈ actions, a.permission ≠ [] := by
  induction actions generalizing seen with
  | nil => simp
  | cons a rest ih =>
    simp only [checkActions] at h
    split at h
    · cases h
    · split at h
      · cases h
      · split at h
        · cases h
        · rintro b (_ | ⟨_, hb⟩)
          · assumption
          · exact ih h b hb

theorem checkActions_of_checkDef (h : checkDef d = .ok ()) :
    checkActions d.name [] d.actions = .ok () := by
  simp only [checkDef, bind, Except.bind, pure, Except.pure, throw, throwThe, MonadExceptOf.throw] at h
  repeat' split at h
  all_goals first | assumption | cases h

theorem scopedRoutes_permCodes_ne_nil {lv : Scope}
    (hactions : ∀ a ∈ d.actions, a.permission ≠ []) :
    ∀ rt ∈ d.scopedRoutes lv, rt.info.permCodes ≠ [] := by
  have hcodes : ∀ verb, (d.routeMeta lv verb true).permCodes ≠ [] := by
    simp only [ResourceDef.routeMeta]
    split <;> simp_all
  intro rt h
  simp only [ResourceDef.scopedRoutes, List.mem_append, List.mem_map, List.mem_ite_nil_right,
    List.mem_singleton] at h
  rcases h with (((((((((((⟨-, rfl⟩ | ⟨-, rfl⟩) | ⟨-, rfl⟩) | ⟨-, rfl⟩) | ⟨v, -, rfl⟩) | ⟨-, rfl⟩) | ⟨-, rfl⟩) |
    ⟨-, rfl⟩) | ⟨-, rfl⟩) | ⟨-, rfl⟩) | ⟨-, rfl⟩) | ⟨a, ha, rfl⟩)
  case inr => exact hactions a ha
  all_goals exact hcodes _

/-- A registered route is a route of one of the levels of its definition, and the definition passed
the checks. -/
theorem mem_scopedRoutes_of_register {rts : List Route} (h : register d = .ok rts)
    {rt : Route} (hrt : rt ∈ rts) : checkDef d = .ok () ∧ ∃ lv, rt ∈ d.scopedRoutes lv := by
  cases hc : checkDef d with
  | error e => simp [register, hc, bind, Except.bind] at h
  | ok u =>
    simp only [register, hc, bind, Except.bind, pure, Except.pure, Except.ok.injEq] at h
    subst h
    obtain ⟨lv, -, hrt⟩ := List.mem_flatMap.1 hrt
    exact ⟨rfl, lv, hrt⟩

theorem register_permCodes_ne_nil {rts : List Route} (h : register d = .ok rts) :
    ∀ rt ∈ rts, rt.info.permCodes ≠ [] := by
  intro rt hrt
  obtain ⟨hc, lv, hrt⟩ := mem_scopedRoutes_of_register h hrt
  exact scopedRoutes_permCodes_ne_nil
    (permission_ne_nil_of_checkActions (checkActions_of_checkDef hc)) rt hrt

theorem register_spec {rts : List Route} (h : register d = .ok rts) {rt : Route}
    (hrt : rt ∈ rts) : rt.info.Of d rt.info.scopeLevel := by
  obtain ⟨-, lv, hrt⟩ := mem_scopedRoutes_of_register h hrt
  have hof := scopedRoutes_spec hrt
  rw [hof.level]
  exact hof

/-! The scope a request addresses. -/

namespace RouteMeta

variable (m : RouteMeta)

def scopeParamNames : List String :=
  if m.scopeLevel = scopeWorkspace then ["workspaceId"]
  else if m.scopeLevel = scopeNamespace then ["workspaceId", "namespaceId"]
  else []

/-- `pathParams`: the path parameters by name, raw. A later name overwrites an
earlier one, so the map is listed last name first. -/
def pathParams (r : Request) : List (String × String) :=
  let names := m.scopeParamNames ++ m.parentParams ++ (if m.idParam ≠ "" then [m.idParam] else [])
  (names.map fun name => (name, ApiServer.pathValue r name)).reverse

def idOrZero (r : Request) (name : String) : Int :=
  match parsePathID r name with
  | .ok id => id
  | .error _ => 0

def pathScope (r : Request) : ScopeInfo where
  level := m.scopeLevel
  workspaceID := if m.scopeLevel &&& (scopeWorkspace ||| scopeNamespace) ≠ 0 then idOrZero r "workspaceId" else 0
  namespaceID := if m.scopeLevel &&& scopeNamespace ≠ 0 then idOrZero r "namespaceId" else 0

/-- `scope`: the scope authorization checks at. A platform item route of a
scope-defining resource asks its resolver. -/
def scope (r : Request) : ScopeInfo :=
  match m.itemScopeResolver with
  | some resolve =>
    if m.idParam ≠ "" ∧ m.scopeLevel = scopePlatform then
      match parsePathID r m.idParam with
      | .ok id => resolve id
      | .error _ => m.pathScope r
    else m.pathScope r
  | none => m.pathScope r

theorem scope_eq_pathScope {m : RouteMeta} {r : Request} (h : m.scopeLevel ≠ scopePlatform) :
    m.scope r = m.pathScope r := by
  unfold scope
  split
  · rw [if_neg fun hc => h hc.2]
  · rfl

theorem scope_of_namespace {m : RouteMeta} {r : Request} (h : m.scopeLevel = scopeNamespace) :
    m.scope r = ⟨scopeNamespace, idOrZero r "workspaceId", idOrZero r "namespaceId"⟩ := by
  rw [scope_eq_pathScope (by rw [h]; decide), pathScope, h]
  rfl

theorem scope_of_workspace {m : RouteMeta} {r : Request} (h : m.scopeLevel = scopeWorkspace) :
    m.scope r = ⟨scopeWorkspace, idOrZero r "workspaceId", 0⟩ := by
  rw [scope_eq_pathScope (by rw [h]; decide), pathScope, h]
  rfl

end RouteMeta

end Vraxel.ApiServer
