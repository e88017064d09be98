import Vraxel.Lib.Txn
import Vraxel.ApiServer.Route
/-
  The typed request context and the route wrappers around a module's operations
  (`lib/apiserver/ctx.go`, `wrap.go`).

  A wrapper builds the `Ctx` of the request from the route's metadata and runs the operation. The
  operations are programs over whatever state the module keeps.
-/

namespace Vraxel.ApiServer

open Api Strings Txn

structure UserInfo where
  id : Int
  username : String
  deriving DecidableEq

structure Ctx where
  user : UserInfo
  scope : ScopeInfo
  /-- The item id; 0 on collection routes. -/
  id : Int
  parents : List Int
  query : List (String × String)
  dryRun : Bool
  /-- `oidc.UserIDFromContext` of the request. -/
  userID : Option Int
  deriving DecidableEq

/-- `parsePathID` of a parameter the level has; 0 for one it does not have. -/
def scopeID (r : Request) (present : Bool) (param : String) : Except Err Int :=
  if present then parsePathID r param else .ok 0

def buildCtx (r : Request) (m : RouteMeta) : Except Err Ctx := do
  let ws ← scopeID r (m.scopeLevel &&& (scopeWorkspace ||| scopeNamespace) ≠ 0) "workspaceId"
  let ns ← scopeID r (m.scopeLevel &&& scopeNamespace ≠ 0) "namespaceId"
  let parents ← m.parentParams.mapM (parsePathID r)
  let id ← scopeID r (m.idParam ≠ "") m.idParam
  return {
    user := ⟨r.userID.getD 0, r.username⟩
    scope := ⟨m.scopeLevel, ws, ns⟩
    id := id
    parents := parents
    query := r.query
    dryRun := r.queryGet "dryRun" = "true"
    userID := r.userID }

inductive Body (P : Type) where
  | json (value : P)
  | malformed (message : String)

def decodePatch {P : Type} : Body P → Except Err P
  | .json p => .ok p
  | .malformed message => .error (.ofStatus (newInvalidJSONBody message []))

structure BatchResult where
  successCount : Int
  failedCount : Int
  failedIDs : List String := []

end Vraxel.ApiServer
