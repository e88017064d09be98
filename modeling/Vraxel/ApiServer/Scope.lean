import Vraxel.Api.Errors
import Vraxel.Go.Strings
/-
  Tenancy levels of routes, and the scope a request addresses (`lib/apiserver/scope.go`, `ctx.go`).
-/

namespace Vraxel.ApiServer

open Strings Api

/-- A bitmask of tenancy levels. -/
abbrev Scope := UInt8

def scopePlatform : Scope := 1
def scopeWorkspace : Scope := 2
def scopeNamespace : Scope := 4

namespace Scope

variable (s : Scope)

def levels : List Scope :=
  [scopePlatform, scopeWorkspace, scopeNamespace].filter fun lv => s &&& lv ≠ 0

def name : String :=
  if s = scopeNamespace then "namespace"
  else if s = scopeWorkspace then "workspace"
  else "platform"

def deepest : Scope :=
  if s &&& scopeNamespace ≠ 0 then scopeNamespace
  else if s &&& scopeWorkspace ≠ 0 then scopeWorkspace
  else scopePlatform

def pathPrefix : String :=
  if s = scopeWorkspace then "/workspaces/\x7bworkspaceId\x7d"
  else if s = scopeNamespace then "/workspaces/\x7bworkspaceId\x7d/namespaces/\x7bnamespaceId\x7d"
  else ""

def scopeChainParts : List String :=
  if s = scopeWorkspace then ["workspaces"]
  else if s = scopeNamespace then ["workspaces", "namespaces"]
  else []

end Scope

structure ScopeInfo where
  level : Scope
  workspaceID : Int
  namespaceID : Int
  deriving DecidableEq

namespace ScopeInfo

end ScopeInfo

def singularID (plural : String) : String :=
  let singular :=
    if hasSuffix plural "ses" || hasSuffix plural "xes" || hasSuffix plural "zes" then trimSuffix plural "es"
    else trimSuffix plural "s"
  (if singular = "" then plural else singular) ++ "Id"

def sanitizeWildcard (param : String) : String := replaceAll param '-' '_'

structure Request where
  /-- The wildcards of the matched pattern and the segments they matched. -/
  pathValues : List (String × String)
  /-- The query string, in order. -/
  query : List (String × String)
  /-- The user the authentication middleware put into the context. -/
  userID : Option Int
  username : String

def Request.pathValue (r : Request) (name : String) : String :=
  (r.pathValues.lookup name).getD ""

def Request.queryGet (r : Request) (name : String) : String :=
  (r.query.lookup name).getD ""

def pathValue (r : Request) (param : String) : String := r.pathValue (sanitizeWildcard param)

def invalidIDError (param raw : String) : Err :=
  .ofStatus (newBadRequest ("invalid " ++ trimSuffix param "Id" ++ " ID: " ++ raw) [])

def parsePathID (r : Request) (name : String) : Except Err Int :=
  match Strconv.parseInt (pathValue r name) with
  | some id => .ok id
  | none => .error (invalidIDError name (pathValue r name))

theorem parsePathID_eq_ok_iff {r : Request} {name : String} {id : Int} :
    parsePathID r name = .ok id ↔ Strconv.parseInt (pathValue r name) = some id := by
  unfold parsePathID
  split <;> simp_all

end Vraxel.ApiServer
