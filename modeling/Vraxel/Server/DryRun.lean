import Vraxel.Compute.HostWatch
import Vraxel.Server.Notices
/-
  Dry runs of the write operations. The server hands the flag on in the context of the operation
  (`lib/apiserver/ctx.go`); its wrappers read it only for the status code of the answer.
-/

namespace Vraxel.Server

open Relational Api Db Txn ApiServer Iam Compute

/-- What the operations take from outside: the permission codes of the modules, and what a join
token is made of. -/
structure Env where
  codeScopes : List PermissionCodeScope
  joinToken : JoinTokenEnv

/-- A write operation with its body. Items are named by the URL; `none` is the platform level. -/
inductive Operation where
  | createWorkspace (ws : Workspace)
  | updateWorkspace (ws : Workspace)
  | patchWorkspace (body : Body Workspace)
  | deleteWorkspace
  | deleteWorkspaces (ids : List Int)
  | createNamespace (ns : Namespace)
  | updateNamespace (ns : Namespace)
  | patchNamespace (body : Body Namespace)
  | deleteNamespace
  | deleteNamespaces (ids : List Int)
  | addUsers (level : BindingLevel) (body : Body BatchRequest)
  | removeUsers (level : BindingLevel) (ids : List Int)
  | createRole (level : Option BindingLevel) (role : Role)
  | updateRole (level : Option BindingLevel) (role : Role)
  | deleteRole (level : Option BindingLevel)
  | deleteRoles (level : Option BindingLevel) (ids : List Int)
  | createRoleBinding (level : Option BindingLevel) (body : Body BatchRequest)
  | deleteRoleBinding (level : Option BindingLevel)
  | deleteRoleBindings (level : Option BindingLevel) (ids : List Int)
  | createHost (h : Host)
  | updateHost (h : Host)
  | deleteHost
  | mergeHost (sourceHostID : String) (faults : MergeFaults)
  | createAlertRule (r : HostAlertRule)
  | updateAlertRule (r : HostAlertRule)
  | deleteAlertRule
  | createJoinToken (t : AgentJoinToken)
  | deleteJoinToken

variable (env : Env)

namespace Operation

def silently {α : Type} (x : OpM α) : OpM Unit := do
  let _ ← x

def run (ctx : Ctx) : Operation → OpM Unit
  | createWorkspace ws => silently (onDB (WorkspaceOps.create ctx ws))
  | updateWorkspace ws => silently (onDB (WorkspaceOps.update ctx ctx.id ws))
  | patchWorkspace body => silently (onDB (WorkspaceOps.patch ctx ctx.id body))
  | deleteWorkspace => onDB (WorkspaceOps.delete ctx ctx.id)
  | deleteWorkspaces ids => silently (onDB (WorkspaceOps.batchDelete ctx ids))
  | createNamespace ns => silently (onDB (NamespaceOps.create ctx ns))
  | updateNamespace ns => silently (onDB (NamespaceOps.update ctx ctx.id ns))
  | patchNamespace body => silently (onDB (NamespaceOps.patch ctx ctx.id body))
  | deleteNamespace => onDB (NamespaceOps.delete ctx ctx.id)
  | deleteNamespaces ids => silently (onDB (NamespaceOps.batchDelete ctx ids))
  | addUsers .workspace body => silently (Server.WorkspaceUserOps.create ctx body)
  | addUsers .namespace body => silently (Server.NamespaceUserOps.create ctx body)
  | removeUsers .workspace ids => silently (Server.WorkspaceUserOps.batchDelete ctx ids)
  | removeUsers .namespace ids => silently (Server.NamespaceUserOps.batchDelete ctx ids)
  | createRole none role => silently (onDB (RoleOps.create env.codeScopes ctx role))
  | createRole (some level) role => silently (onDB (ScopedRoleOps.create env.codeScopes level ctx role))
  | updateRole none role => silently (onDB (RoleOps.update env.codeScopes ctx ctx.id role))
  | updateRole (some level) role => silently (onDB (ScopedRoleOps.update env.codeScopes level ctx ctx.id role))
  | deleteRole none => onDB (RoleOps.delete ctx ctx.id)
  | deleteRole (some level) => onDB (ScopedRoleOps.delete level ctx ctx.id)
  | deleteRoles none ids => silently (onDB (RoleOps.batchDelete ctx ids))
  | deleteRoles (some level) ids => silently (onDB (ScopedRoleOps.batchDelete level ctx ids))
  | createRoleBinding none body => silently (Server.RoleBindingOps.create ctx body)
  | createRoleBinding (some .workspace) body => silently (Server.WorkspaceRoleBindingOps.create ctx body)
  | createRoleBinding (some .namespace) body => silently (Server.NamespaceRoleBindingOps.create ctx body)
  | deleteRoleBinding _ => Server.deleteRoleBinding ctx ctx.id
  | deleteRoleBindings _ ids => silently (Server.deleteRoleBindingsCollection ctx ids)
  | createHost h => silently (Server.HostOps.create ctx h)
  | updateHost h => silently (Server.HostOps.update ctx ctx.id h)
  | deleteHost => Server.HostOps.delete ctx ctx.id
  | mergeHost sourceHostID faults => silently (HostMergeOps.merge ctx sourceHostID faults)
  | createAlertRule r => silently (onDB (AlertOps.create ctx r))
  | updateAlertRule r => silently (onDB (AlertOps.update ctx ctx.id r))
  | deleteAlertRule => onDB (AlertOps.delete ctx ctx.id)
  | createJoinToken t => silently (onDB (JoinTokenOps.create env.joinToken ctx t))
  | deleteJoinToken => onDB (JoinTokenOps.delete ctx ctx.id)

def serve (op : Operation) (m : RouteMeta) (r : Request) : OpM Unit := do
  let ctx ← lift (buildCtx r m)
  op.run env ctx

def honoursDryRun : Operation → Bool
  | createWorkspace _ | updateWorkspace _ | patchWorkspace _ | deleteWorkspace | deleteWorkspaces _ => true
  | createNamespace _ | updateNamespace _ | patchNamespace _ | deleteNamespace | deleteNamespaces _ => true
  | createRole _ _ | updateRole _ _ | deleteRole _ | deleteRoles _ _ => true
  | createRoleBinding _ _ | deleteRoleBinding _ | deleteRoleBindings _ _ => true
  | _ => false

end Operation

/-! The operations that read the flag. -/

theorem readsOnly_silently {α : Type} {x : OpM α} (h : ReadsOnly x) : ReadsOnly (Operation.silently x) := fun w =>
  (exec_bind_of_readsOnly (fun _ _ => rfl) w).trans (h w)

theorem readsOnly_onDB {α : Type} {x : DbM α} (h : ReadsOnly x) : ReadsOnly (onDB x) := dbPart.readsOnly_on h

theorem readsOnly_silentDB {α : Type} {x : DbM α} (h : ReadsOnly x) : ReadsOnly (Operation.silently (onDB x)) :=
  readsOnly_silently (readsOnly_onDB h)

section Bindings

variable {ctx : Ctx} (hdry : ctx.dryRun = true)

theorem readsOnly_getRole (id : Int) : ReadsOnly (onDB (PgRoleStore.getByID id)) :=
  readsOnly_onDB (.of_keeps fun _ => .bind (.read _) fun
    | some _ => .pure _
    | none => .fail _)

theorem readsOnly_getBinding (id : Int) : ReadsOnly (onDB (Iam.PgRoleBindingStore.getByID id)) :=
  readsOnly_onDB (.of_keeps fun _ => .bind (.read _) fun
    | some _ => .pure _
    | none => .fail _)

theorem readsOnly_getNamespace (id : Int) : ReadsOnly (onDB (PgNamespaceStore.getByID id)) :=
  readsOnly_onDB (.of_keeps fun _ => .bind (.read _) fun
    | some _ => .pure _
    | none => .fail _)

include hdry

theorem readsOnly_batchBindRole (body : Body BatchRequest) (place : Place) (checkRole : RoleRow → Except Err Unit) :
    ReadsOnly (Server.batchBindRole ctx body place checkRole) := by
  refine .of_keeps fun I => .bind (.lift _) fun req => ?_
  by_cases hids : req.ids = []
  · rw [if_pos hids]
    exact .fail _
  by_cases hrole : req.roleID = ""
  · rw [if_neg hids, if_pos hrole]
    exact .fail _
  rw [if_neg hids, if_neg hrole]
  cases Strconv.parseInt req.roleID with
  | none => exact .fail _
  | some roleID =>
    refine .bind ((readsOnly_getRole roleID).keeps I).mapErr fun role => ?_
    refine .bind (.lift _) fun _ => .bind (.lift _) fun userIDs => ?_
    rw [if_pos hdry]
    exact .pure _

theorem readsOnly_deleteRoleBinding (id : Int) : ReadsOnly (Server.deleteRoleBinding ctx id) := by
  refine .of_keeps fun I => .bind ((readsOnly_getBinding id).keeps I).mapErr fun existing => ?_
  split
  · exact .fail _
  · exact .pure _

theorem readsOnly_deleteRoleBindingsCollection (ids : List Int) :
    ReadsOnly (Server.deleteRoleBindingsCollection ctx ids) := by
  rw [Server.deleteRoleBindingsCollection, if_pos hdry]
  exact fun _ => rfl

theorem readsOnly_createNamespaceBinding (body : Body BatchRequest) :
    ReadsOnly (Server.NamespaceRoleBindingOps.create ctx body) :=
  .of_keeps fun I => .bind ((readsOnly_getNamespace _).keeps I).mapErr fun _ =>
    (readsOnly_batchBindRole hdry body _ _).keeps I

end Bindings

variable {op : Operation}

namespace Operation

theorem readsOnly_run {ctx : Ctx} (hdry : ctx.dryRun = true) (hop : op.honoursDryRun) :
    ReadsOnly (op.run env ctx) := by
  cases op with
  | createWorkspace ws => exact readsOnly_silentDB (WorkspaceOps.readsOnly_create hdry ws)
  | updateWorkspace ws => exact readsOnly_silentDB (WorkspaceOps.readsOnly_update hdry _ ws)
  | patchWorkspace body => exact readsOnly_silentDB (WorkspaceOps.readsOnly_patch hdry _ body)
  | deleteWorkspace => exact readsOnly_onDB (WorkspaceOps.readsOnly_delete hdry _)
  | deleteWorkspaces ids => exact readsOnly_silentDB (WorkspaceOps.readsOnly_batchDelete hdry ids)
  | createNamespace ns => exact readsOnly_silentDB (NamespaceOps.readsOnly_create hdry ns)
  | updateNamespace ns => exact readsOnly_silentDB (NamespaceOps.readsOnly_update hdry _ ns)
  | patchNamespace body => exact readsOnly_silentDB (NamespaceOps.readsOnly_patch hdry _ body)
  | deleteNamespace => exact readsOnly_onDB (NamespaceOps.readsOnly_delete hdry _)
  | deleteNamespaces ids => exact readsOnly_silentDB (NamespaceOps.readsOnly_batchDelete hdry ids)
  | createRole level role =>
    cases level <;> exact readsOnly_silentDB (readsOnly_createRoleIn hdry _ _ role)
  | updateRole level role =>
    cases level <;> exact readsOnly_silentDB (readsOnly_updateRoleIn hdry _ _ _ _ role)
  | deleteRole level =>
    cases level <;> exact readsOnly_onDB (readsOnly_deleteRoleIn hdry _ _ _)
  | deleteRoles level ids =>
    cases level <;> exact readsOnly_silentDB (readsOnly_batchDeleteRolesIn hdry _ _ ids)
  | createRoleBinding level body =>
    match level with
    | none => exact readsOnly_silently (readsOnly_batchBindRole hdry body _ _)
    | some .workspace => exact readsOnly_silently (readsOnly_batchBindRole hdry body _ _)
    | some .namespace => exact readsOnly_silently (readsOnly_createNamespaceBinding hdry body)
  | deleteRoleBinding level => exact readsOnly_deleteRoleBinding hdry _
  | deleteRoleBindings level ids => exact readsOnly_silently (readsOnly_deleteRoleBindingsCollection hdry ids)
  | _ => cases hop

theorem run_of_not_honours (ctx : Ctx) (hop : op.honoursDryRun = false)
    (query : List (String × String)) (dryRun : Bool) :
    op.run env { ctx with query := query, dryRun := dryRun } = op.run env ctx := by
  cases op with
  | addUsers level body => cases level <;> rfl
  | removeUsers level ids => cases level <;> rfl
  | createHost h => rfl
  | updateHost h => rfl
  | deleteHost => rfl
  | mergeHost sourceHostID faults => rfl
  | createAlertRule r => rfl
  | updateAlertRule r => rfl
  | deleteAlertRule => rfl
  | createJoinToken t => rfl
  | deleteJoinToken => rfl
  | _ => cases hop

end Operation

def withoutParam (r : Request) (name : String) : Request :=
  { r with query := r.query.filter fun p => p.1 ≠ name }

theorem buildCtx_dryRun {r : Request} {m : RouteMeta} {ctx : Ctx} (h : buildCtx r m = .ok ctx) :
    ctx.dryRun = decide (r.queryGet "dryRun" = "true") := by
  simp only [buildCtx, except_bind_ok_iff] at h
  obtain ⟨ws, hws, ns, hns, parents, -, id, hid, hctx⟩ := h
  cases hctx
  rfl

theorem buildCtx_withoutParam (r : Request) (m : RouteMeta) (name : String) :
    ∃ dryRun, buildCtx (withoutParam r name) m =
      (buildCtx r m).map fun ctx => { ctx with query := (withoutParam r name).query, dryRun := dryRun } := by
  refine ⟨decide ((withoutParam r name).queryGet "dryRun" = "true"), ?_⟩
  simp only [buildCtx]
  show (scopeID r _ "workspaceId" >>= fun ws => scopeID r _ "namespaceId" >>= fun ns =>
    m.parentParams.mapM (parsePathID r) >>= fun parents => scopeID r _ m.idParam >>= fun id => _) = _
  cases scopeID r (m.scopeLevel &&& (scopeWorkspace ||| scopeNamespace) ≠ 0) "workspaceId" with
  | error e => rfl
  | ok ws =>
    cases scopeID r (m.scopeLevel &&& scopeNamespace ≠ 0) "namespaceId" with
    | error e => rfl
    | ok ns =>
      cases m.parentParams.mapM (parsePathID r) with
      | error e => rfl
      | ok parents =>
        cases scopeID r (m.idParam ≠ "") m.idParam with
        | error e => rfl
        | ok id => rfl

def Unchanged (x : OpM Unit) (w : World) : Prop := (x.exec w).tables = w.tables ∧ (x.exec w).sent = w.sent

theorem unchanged_of_readsOnly {x : OpM Unit} (h : ReadsOnly x) (w : World) : Unchanged x w := by
  rw [Unchanged, h w]
  exact ⟨rfl, rfl⟩

theorem Operation.serve_withoutParam (hop : op.honoursDryRun = false) (m : RouteMeta)
    (r : Request) (name : String) : op.serve env m (withoutParam r name) = op.serve env m r := by
  obtain ⟨dryRun, hctx⟩ := buildCtx_withoutParam r m name
  rw [serve, serve, hctx]
  cases buildCtx r m with
  | error e => rfl
  | ok ctx => exact run_of_not_honours env ctx hop _ dryRun

theorem Operation.readsOnly_serve (hop : op.honoursDryRun) (m : RouteMeta) {r : Request}
    (hdry : r.queryGet "dryRun" = "true") : ReadsOnly (op.serve env m r) := by
  intro w
  rw [serve]
  cases hctx : buildCtx r m with
  | error e => rfl
  | ok ctx =>
    have hflag : ctx.dryRun = true := by
      rw [buildCtx_dryRun hctx, hdry]
      rfl
    exact readsOnly_run env hflag hop w

def World.red : World where
  tables := ⟨AgentGw.RegState.init .redWorkspace .empty 0, fun _ => ⟨⟨"", "", "", 0, 0, 0, ""⟩, rfl⟩, []⟩
  sent := []

def emptyEnv : Env := ⟨[], ⟨"", 0, "", id⟩⟩

def dryRequest : Request := ⟨[("workspaceId", "1")], [("dryRun", "true")], some 7, "ana"⟩

end Vraxel.Server
