import Vraxel.Db.Users
import Vraxel.Iam.Grants
/-
  Members of workspaces and namespaces: the store (`iam/store/pg_role_binding_members.go`,
  `pg_role_binding_transfer.go`) and the operations of the users resources
  (`iam/storage_workspace.go`, `storage_namespace.go`, `storage_helpers.go`).
-/

namespace Vraxel.Iam

open Relational Api Db Txn ApiServer Strconv

def roleWorkspaceViewer : String := "workspace-viewer"
def roleWorkspaceMember : String := "workspace-member"
def roleNamespaceViewer : String := "namespace-viewer"

namespace PgRoleBindingStore

def required (what : String) (q : DbM (Option RoleRow)) : DbM RoleRow := do
  match ← q with
  | some role => return role
  | none => fail (noRows.wrap what)

def bindRole (roleID : Int) (what : String) (q : DbM (Option RoleRow)) : DbM Int := do
  if roleID ≠ 0 then
    return roleID
  else
    let role ← required what q
    return role.id

variable (userID : Int) (scope : Db.Scope) (resourceID : Int) (adminRoleName : String) (newOwnerUserID : Int)

def addWorkspaceMember (workspaceID roleID : Int) : DbM Unit := do
  let bindRoleID ← bindRole roleID "get workspace-viewer role"
    (getRoleByNameAndWorkspace roleWorkspaceViewer workspaceID)
  mapErr (·.wrap "add workspace member role")
    (atomically (addWorkspaceMemberRole userID bindRoleID workspaceID))

def addNamespaceMember (namespaceID roleID : Int) : DbM Unit := do
  match ← getNamespaceWorkspaceID namespaceID with
  | none => fail (.tagged ("namespace " ++ formatInt namespaceID) .notFound)
  | some wsID =>
    let wsMemberRole ← required "get workspace-member role" (getRoleByNameAndWorkspace roleWorkspaceMember wsID)
    let bindRoleID ← bindRole roleID "get namespace-viewer role"
      (getRoleByNameAndNamespace roleNamespaceViewer namespaceID)
    mapErr (·.wrap "add namespace member") (atomically do
      let _ ← mapErr (·.wrap "auto-add workspace member")
        (createRoleBindingIfNotExists ((Place.workspace wsID).grant userID wsMemberRole.id false))
      addNamespaceMemberRole userID bindRoleID wsID namespaceID)

def removeWorkspaceMember (workspaceID : Int) : DbM Unit := do
  let n ← deleteNonOwnerWorkspaceBindings userID workspaceID
  if n = 0 then
    fail (.tagged "cannot remove workspace owner" .badRequest)

def removeNamespaceMember (namespaceID : Int) : DbM Unit := do
  let n ← deleteNonOwnerNamespaceBindings userID namespaceID
  if n = 0 then
    fail (.tagged "cannot remove namespace owner" .badRequest)

def findOwnerForUpdate : DbM Int := do
  let owner ← (if scope = .workspace then getWorkspaceOwnerForUpdate resourceID
    else getNamespaceOwnerForUpdate resourceID : DbM (Option Int))
  match owner with
  | some userID => return userID
  | none => fail (.tagged ("owner for scope=" ++ scope.name ++ " id=" ++ formatInt resourceID) .notFound)

def checkMembership (userID : Int) : DbM Bool :=
  if scope = .workspace then existsWorkspaceMember userID resourceID
  else existsNamespaceMember userID resourceID

def clearOwner : DbM Unit :=
  if scope = .workspace then clearWorkspaceOwner resourceID else clearNamespaceOwner resourceID

def lookupAdminRoleID : DbM Int := do
  let role ← (if scope = .workspace then getRoleByNameAndWorkspace adminRoleName resourceID
    else getRoleByNameAndNamespace adminRoleName resourceID : DbM (Option RoleRow))
  match role with
  | some row => return row.id
  | none => fail (.plain ("admin role " ++ quote adminRoleName ++ " not found"))

def upsertOwner (adminRoleID : Int) : DbM Unit := do
  if scope = .workspace then
    upsertWorkspaceOwner newOwnerUserID adminRoleID resourceID
  else match ← getNamespaceWorkspaceID resourceID with
    | none => fail (noRows.wrap "look up namespace workspace")
    | some wsID => upsertNamespaceOwner newOwnerUserID adminRoleID wsID resourceID

def transferOwnershipTx (callerID : Int) (callerIsPlatformAdmin : Bool)
    (newOwnerUserID : Int) (adminRoleName : String) : DbM Int := do
  let oldOwner ← findOwnerForUpdate scope resourceID
  if !callerIsPlatformAdmin && callerID ≠ oldOwner then
    fail (.tagged "only the current owner or platform admin can transfer ownership" .forbidden)
  else
    let isMember ← checkMembership scope resourceID newOwnerUserID
    if !isMember then
      fail (.tagged "new owner must be a member of the resource" .badRequest)
    else
      clearOwner scope resourceID
      let adminRoleID ← lookupAdminRoleID scope resourceID adminRoleName
      mapErr (·.wrap "upsert owner binding") (upsertOwner scope resourceID newOwnerUserID adminRoleID)
      return oldOwner

def transferOwnership (callerID : Int) (callerIsPlatformAdmin : Bool)
    (newOwnerUserID : Int) (adminRoleName : String) : DbM Int :=
  if scope = .platform then
    fail (.plain ("unsupported scope for ownership transfer: " ++ scope.name))
  else
    atomically (transferOwnershipTx scope resourceID callerID callerIsPlatformAdmin newOwnerUserID adminRoleName)

theorem readsOnly_findOwnerForUpdate (id : Int) :
    ReadsOnly (findOwnerForUpdate scope id) := by
  refine .of_keeps fun I => .bind ?_ fun
    | none => .fail _
    | some _ => .pure _
  split
  · exact .read _
  · exact .read _

theorem readsOnly_checkMembership (id userID : Int) :
    ReadsOnly (checkMembership scope id userID) := by
  rw [checkMembership]
  split
  · exact fun _ => rfl
  · exact fun _ => rfl

theorem readsOnly_lookupAdminRoleID (id : Int) (name : String) :
    ReadsOnly (lookupAdminRoleID scope id name) := by
  refine .of_keeps fun I => .bind ?_ fun
    | none => .fail _
    | some _ => .pure _
  split
  · exact .read _
  · exact .read _

end PgRoleBindingStore

/-! The users resources. -/

def ensureUserExists (id : Int) : DbM Unit := do
  match ← getUserByID id with
  | some _ => return ()
  | none => fail (badRequest ("user " ++ formatInt id ++ " not found"))

/-- Each user is added in a transaction of its own; the first failure ends the
loop, and the additions before it stay. -/
def batchAddUsers (addFn : Int → DbM Unit) : List String → DbM Nat
  | [] => return 0
  | idStr :: ids =>
    match parseInt idStr with
    | none => fail (badRequest ("invalid user ID: " ++ idStr))
    | some uid => do
      ensureUserExists uid
      addFn uid
      let added ← batchAddUsers addFn ids
      return added + 1

def requestRole (req : BatchRequest) : Except Err Int :=
  if req.roleID = "" then .ok 0
  else match parseInt req.roleID with
    | some roleID => .ok roleID
    | none => .error (badRequest "invalid role ID")

def removeResult (r : Nat × List String) : BatchResult := ⟨r.1, r.2.length, r.2⟩

namespace WorkspaceUserOps

def create (ctx : Ctx) (body : Body BatchRequest) : DbM BatchResult := do
  let wsID := ctx.scope.workspaceID
  let req ← lift (decodePatch body)
  let roleID ← lift (requestRole req)
  let added ← domainErr (batchAddUsers (fun uid => PgRoleBindingStore.addWorkspaceMember uid wsID roleID) req.ids)
  return ⟨added, 0, []⟩

end WorkspaceUserOps

namespace NamespaceUserOps

def checkMaxMembers (ns : NamespaceWithOwnerRow) (nsID : Int) (adding : Nat) : DbM Unit := do
  if ns.maxMembers > 0 then
    let currentCount ← domainErr (countUsersByNamespaceID nsID)
    if (currentCount + adding : Int) > ns.maxMembers then
      fail (badRequest ("namespace member limit exceeded: current " ++ formatInt currentCount ++ ", adding "
        ++ formatInt adding ++ ", max " ++ formatInt ns.maxMembers))

def create (ctx : Ctx) (body : Body BatchRequest) : DbM BatchResult := do
  let nsID := ctx.scope.namespaceID
  let req ← lift (decodePatch body)
  let ns ← domainErr (PgNamespaceStore.getByID nsID)
  checkMaxMembers ns nsID req.ids.length
  let roleID ← lift (requestRole req)
  let added ← domainErr (batchAddUsers (fun uid => PgRoleBindingStore.addNamespaceMember uid nsID roleID) req.ids)
  return ⟨added, 0, []⟩

end NamespaceUserOps

/-! What an addition grants. -/

def memberRole (roleID : Int) (default : Option RoleRow) : Option Int :=
  if roleID ≠ 0 then some roleID else default.map (·.id)

def workspaceMemberRows (db : DB) (userID workspaceID roleID : Int) : Option (List RoleBindingRow) :=
  (memberRole roleID (workspaceRole? db roleWorkspaceViewer workspaceID)).map fun r =>
    [(Place.workspace workspaceID).grant userID r false]

def namespaceMemberRows (db : DB) (userID namespaceID roleID : Int) : Option (List RoleBindingRow) :=
  match db.workspaceOf namespaceID with
  | none => none
  | some w =>
    match workspaceRole? db roleWorkspaceMember w,
      memberRole roleID (namespaceRole? db roleNamespaceViewer namespaceID) with
    | some m, some r =>
      some [(Place.workspace w).grant userID m.id false, (Place.namespace w namespaceID).grant userID r false]
    | _, _ => none

theorem namespaceMemberRows_eq_some {db : DB} {userID namespaceID roleID : Int} {rows : List RoleBindingRow}
    (h : namespaceMemberRows db userID namespaceID roleID = some rows) :
    ∃ w m r, db.workspaceOf namespaceID = some w ∧ workspaceRole? db roleWorkspaceMember w = some m ∧
      memberRole roleID (namespaceRole? db roleNamespaceViewer namespaceID) = some r ∧
      rows = [(Place.workspace w).grant userID m.id false, (Place.namespace w namespaceID).grant userID r false] := by
  rw [namespaceMemberRows] at h
  cases hw : db.workspaceOf namespaceID with
  | none => simp [hw] at h
  | some w =>
    simp only [hw] at h
    split at h
    · rename_i m r hm hr
      cases h
      exact ⟨w, m, r, rfl, hm, hr, rfl⟩
    · cases h

namespace PgRoleBindingStore

theorem run_required (what : String) (q : DB → Option RoleRow) (db : DB) :
    (required what (read q)).run db =
      match q db with
      | some role => (.ok role, db)
      | none => (.error (noRows.wrap what), db) := by
  simp only [required, run_read_bind]
  cases q db <;> rfl

theorem run_bindRole (roleID : Int) (what : String) (q : DB → Option RoleRow) (db : DB) :
    (bindRole roleID what (read q)).run db =
      match memberRole roleID (q db) with
      | some r => (.ok r, db)
      | none => (.error (noRows.wrap what), db) := by
  by_cases hr : roleID = 0
  · simp only [bindRole, memberRole, hr, ne_eq, not_true_eq_false, if_false, run_bind, run_required]
    cases q db <;> rfl
  · simp [bindRole, memberRole, hr]

theorem run_addMemberRole {row : RoleBindingRow} {db : DB} (h : Grantable db row) :
    ∃ db', (do let _ ← createRoleBindingIfNotExists row : DbM Unit).run db = (.ok (), db') ∧ Granted [row] db db' := by
  obtain ⟨n, db', hrun, hg, -⟩ := run_createRoleBindingIfNotExists h
  exact ⟨db', by rw [run_bind_of_ok hrun]; rfl, hg⟩

theorem run_addMemberRole_of_not {row : RoleBindingRow} {db : DB} (h : ¬ Grantable db row) :
    ∃ e, (do let _ ← createRoleBindingIfNotExists row : DbM Unit).run db = (.error e, db) := by
  obtain ⟨e, hrun⟩ := run_createRoleBindingIfNotExists_of_not h
  exact ⟨e, run_bind_of_error hrun⟩

theorem run_addMemberTx (row : RoleBindingRow) (db : DB) (f : Err → Err) :
    GrantsOrFails (mapErr f (atomically do let _ ← createRoleBindingIfNotExists row)) (some [row]) db := by
  by_cases hg : Grantable db row
  · obtain ⟨db', hrun, hgranted⟩ := run_addMemberRole hg
    exact .inl ⟨_, db', rfl, by simpa using hg, by rw [run_mapErr, run_atomically, hrun], hgranted⟩
  · obtain ⟨e, hrun⟩ := run_addMemberRole_of_not hg
    exact .inr ⟨by simpa using hg, f e, by rw [run_mapErr, run_atomically, hrun]⟩

theorem run_addWorkspaceMember (userID workspaceID roleID : Int) (db : DB) :
    GrantsOrFails (addWorkspaceMember userID workspaceID roleID)
      (workspaceMemberRows db userID workspaceID roleID) db := by
  have hrole := run_bindRole roleID "get workspace-viewer role"
    (fun db => workspaceRole? db roleWorkspaceViewer workspaceID) db
  rw [workspaceMemberRows]
  cases hm : memberRole roleID (workspaceRole? db roleWorkspaceViewer workspaceID) with
  | none =>
    rw [hm] at hrole
    exact .inr ⟨by simp, _, run_bind_of_error hrole⟩
  | some r =>
    rw [hm] at hrole
    rw [GrantsOrFails, addWorkspaceMember, getRoleByNameAndWorkspace, run_bind_of_ok hrole]
    exact run_addMemberTx ((Place.workspace workspaceID).grant userID r false) db _

theorem run_addNamespaceMemberTx (row row' : RoleBindingRow) (hscope : row.scope ≠ row'.scope) (db : DB)
    (f g : Err → Err) :
    GrantsOrFails
      (mapErr f (atomically do
        let _ ← mapErr g (createRoleBindingIfNotExists row)
        let _ ← createRoleBindingIfNotExists row'))
      (some [row, row']) db := by
  have hdiff : row.sameGrant row' → row = row' := fun h => by
    simp only [RoleBindingRow.sameGrant, Bool.and_eq_true, decide_eq_true_eq] at h
    exact absurd h.1.1.1 hscope
  by_cases hrow : Grantable db row
  · obtain ⟨n, db₁, hrun, hg, hdb₁⟩ := run_createRoleBindingIfNotExists hrow
    have hrun' : (mapErr g (createRoleBindingIfNotExists row)).run db = (.ok n, db₁) := by rw [run_mapErr, hrun]
    have hiff : Grantable db₁ row' ↔ Grantable db row' := by
      rcases hdb₁ with rfl | ⟨hrefs, rfl⟩
      · exact Iff.rfl
      · exact grantable_iff_of_granted hrefs hdiff
    by_cases hrow' : Grantable db row'
    · obtain ⟨db₂, hrest, hg₂⟩ := run_addMemberRole (hiff.2 hrow')
      refine .inl ⟨_, db₂, rfl, by simp [hrow, hrow'], ?_, hg.append hg₂⟩
      rw [run_mapErr, run_atomically, run_bind_of_ok hrun', hrest]
    · obtain ⟨e, hrest⟩ := run_addMemberRole_of_not (fun h => hrow' (hiff.1 h))
      refine .inr ⟨by simp [hrow'], f e, ?_⟩
      rw [run_mapErr, run_atomically, run_bind_of_ok hrun', hrest]
  · obtain ⟨e, hrun⟩ := run_createRoleBindingIfNotExists_of_not hrow
    have hrun' : (mapErr g (createRoleBindingIfNotExists row)).run db = (.error (g e), db) := by
      rw [run_mapErr, hrun]
    refine .inr ⟨by simp [hrow], f (g e), ?_⟩
    rw [run_mapErr, run_atomically, run_bind_of_error hrun']

theorem run_addNamespaceMember (userID namespaceID roleID : Int) (db : DB) :
    GrantsOrFails (addNamespaceMember userID namespaceID roleID)
      (namespaceMemberRows db userID namespaceID roleID) db := by
  rw [namespaceMemberRows]
  cases hw : db.workspaceOf namespaceID with
  | none =>
    refine .inr ⟨by simp, .tagged ("namespace " ++ formatInt namespaceID) .notFound, ?_⟩
    simp [addNamespaceMember, getNamespaceWorkspaceID, hw]
  | some w =>
    have hmember := run_required "get workspace-member role"
      (fun db => workspaceRole? db roleWorkspaceMember w) db
    have hrole := run_bindRole roleID "get namespace-viewer role"
      (fun db => namespaceRole? db roleNamespaceViewer namespaceID) db
    dsimp only
    cases hm : workspaceRole? db roleWorkspaceMember w with
    | none =>
      rw [hm] at hmember
      refine .inr ⟨by simp, noRows.wrap "get workspace-member role", ?_⟩
      simp only [addNamespaceMember, getNamespaceWorkspaceID, run_read_bind, hw]
      exact run_bind_of_error hmember
    | some m =>
      rw [hm] at hmember
      cases hr : memberRole roleID (namespaceRole? db roleNamespaceViewer namespaceID) with
      | none =>
        rw [hr] at hrole
        refine .inr ⟨by simp, noRows.wrap "get namespace-viewer role", ?_⟩
        simp only [addNamespaceMember, getNamespaceWorkspaceID, run_read_bind, hw]
        exact (run_bind_of_ok hmember).trans (run_bind_of_error hrole)
      | some r =>
        rw [hr] at hrole
        have htx : (addNamespaceMember userID namespaceID roleID).run db = (mapErr (·.wrap "add namespace member")
            (atomically do
              let _ ← mapErr (·.wrap "auto-add workspace member")
                (createRoleBindingIfNotExists ((Place.workspace w).grant userID m.id false))
              addNamespaceMemberRole userID r w namespaceID)).run db := by
          simp only [addNamespaceMember, getNamespaceWorkspaceID, run_read_bind, hw]
          exact (run_bind_of_ok hmember).trans (run_bind_of_ok hrole)
        rw [GrantsOrFails, htx]
        exact run_addNamespaceMemberTx ((Place.workspace w).grant userID m.id false)
          ((Place.namespace w namespaceID).grant userID r false) (by simp [Place.grant, Place.scope]) db _ _

end PgRoleBindingStore

def firstUser? (db : DB) (ids : List String) : Option Int :=
  match ids with
  | [] => none
  | raw :: _ => (parseInt raw).filter fun uid => (db.users.get? uid).isSome

theorem run_ensureUserExists (uid : Int) (db : DB) : (ensureUserExists uid).run db =
    if (db.users.get? uid).isSome then (.ok (), db)
    else (.error (badRequest ("user " ++ formatInt uid ++ " not found")), db) := by
  simp only [ensureUserExists, getUserByID, run_read_bind]
  cases db.users.get? uid <;> rfl

section Batch

variable {addFn : Int → DbM Unit} {db : DB} {ids : List String}

theorem batchAddUsers_keeps {I : DB → Prop} (h : ∀ uid, Keeps I (addFn uid)) (ids : List String) :
    Keeps I (batchAddUsers addFn ids) := by
  induction ids with
  | nil => exact .pure 0
  | cons raw ids ih =>
    rw [batchAddUsers]
    split
    · exact .fail _
    · refine .bind (.bind (.read _) fun u => ?_) fun _ => .bind (h _) fun _ => .bind ih fun _ => .pure _
      cases u with
      | none => exact .fail _
      | some _ => exact .pure _

theorem exec_batchAddUsers_of_none (h : firstUser? db ids = none) : (batchAddUsers addFn ids).exec db = db := by
  cases ids with
  | nil => rfl
  | cons raw ids =>
    cases hparse : parseInt raw with
    | none => simp [M.exec, batchAddUsers, hparse]
    | some uid =>
      have huser : (db.users.get? uid).isSome = false := by
        simpa [firstUser?, hparse, Option.filter] using h
      have hrun := run_ensureUserExists uid db
      simp only [huser, Bool.false_eq_true, if_false] at hrun
      simp [M.exec, batchAddUsers, hparse, run_bind_of_error hrun]

theorem run_batchAddUsers_of_some {uid : Int} (h : firstUser? db ids = some uid) :
    (batchAddUsers addFn ids).run db =
      (addFn uid >>= fun _ => batchAddUsers addFn ids.tail >>= fun added => pure (added + 1)).run db := by
  cases ids with
  | nil => cases h
  | cons raw ids =>
    rw [firstUser?, Option.filter_eq_some_iff] at h
    have hrun := run_ensureUserExists uid db
    rw [if_pos h.2] at hrun
    rw [batchAddUsers, h.1]
    exact run_bind_of_ok hrun

theorem exec_batchAddUsers_of_error {uid : Int} {e : Err} (h : firstUser? db ids = some uid)
    (hadd : (addFn uid).run db = (.error e, db)) : (batchAddUsers addFn ids).exec db = db := by
  rw [M.exec, run_batchAddUsers_of_some h, run_bind_of_error hadd]

theorem exec_batchAddUsers_of_ok {uid : Int} {db' : DB} (h : firstUser? db ids = some uid)
    (hadd : (addFn uid).run db = (.ok (), db')) :
    (batchAddUsers addFn ids).exec db = (batchAddUsers addFn ids.tail).exec db' := by
  rw [M.exec, run_batchAddUsers_of_some h, run_bind_of_ok hadd]
  exact exec_bind_of_readsOnly (fun _ _ => rfl) db'

end Batch

theorem requestRole_eq_ok {req : BatchRequest} {roleID : Int} (h : requestRole req = .ok roleID) :
    roleID = 0 ∨ parseInt req.roleID = some roleID := by
  rw [requestRole] at h
  split at h
  · cases h
    exact .inl rfl
  · split at h
    · rename_i hparse
      cases h
      exact .inr hparse
    · cases h

theorem requestRole_of_parse {req : BatchRequest} {roleID : Int} (h : parseInt req.roleID = some roleID) :
    requestRole req = .ok roleID := by
  have hne : req.roleID ≠ "" := fun hnil => by
    rw [hnil] at h
    cases h
  rw [requestRole, if_neg hne, h]

theorem WorkspaceUserOps.exec_create (ctx : Ctx) (req : BatchRequest) (db : DB) :
    (create ctx (.json req)).exec db =
      match requestRole req with
      | .error _ => db
      | .ok roleID => (batchAddUsers (fun uid =>
          PgRoleBindingStore.addWorkspaceMember uid ctx.scope.workspaceID roleID) req.ids).exec db := by
  rw [create, decodePatch, lift_ok_bind]
  cases requestRole req with
  | error e => rfl
  | ok roleID =>
    rw [lift_ok_bind, exec_bind_of_readsOnly (fun _ _ => rfl), domainErr, exec_mapErr]

namespace NamespaceUserOps

def ExceedsLimit (db : DB) (ns : NamespaceWithOwnerRow) (nsID : Int) (adding : Nat) : Prop :=
  ns.maxMembers > 0 ∧ (db.namespaceMemberCount nsID + adding : Int) > ns.maxMembers

instance (db : DB) (ns : NamespaceWithOwnerRow) (nsID : Int) (adding : Nat) :
    Decidable (ExceedsLimit db ns nsID adding) := inferInstanceAs (Decidable (_ ∧ _))

theorem run_checkMaxMembers_of_exceeds {db : DB} {ns : NamespaceWithOwnerRow} {nsID : Int} {adding : Nat}
    (h : ExceedsLimit db ns nsID adding) : ∃ e, (checkMaxMembers ns nsID adding).run db = (.error e, db) := by
  rw [checkMaxMembers, if_pos h.1, domainErr, countUsersByNamespaceID, run_bind, run_mapErr, run_read]
  dsimp only
  rw [if_pos h.2]
  exact ⟨_, rfl⟩

theorem run_checkMaxMembers {db : DB} {ns : NamespaceWithOwnerRow} {nsID : Int} {adding : Nat}
    (h : ¬ ExceedsLimit db ns nsID adding) : (checkMaxMembers ns nsID adding).run db = (.ok (), db) := by
  rw [checkMaxMembers]
  by_cases hmax : ns.maxMembers > 0
  · rw [if_pos hmax, domainErr, countUsersByNamespaceID, run_bind, run_mapErr, run_read]
    dsimp only
    rw [if_neg fun hgt => h ⟨hmax, hgt⟩]
    rfl
  · rw [if_neg hmax]
    rfl

theorem exec_create (ctx : Ctx) (req : BatchRequest) (db : DB) :
    (create ctx (.json req)).exec db =
      match namespaceDetail? db ctx.scope.namespaceID with
      | none => db
      | some ns =>
        if ExceedsLimit db ns ctx.scope.namespaceID req.ids.length then db
        else match requestRole req with
        | .error _ => db
        | .ok roleID => (batchAddUsers (fun uid =>
            PgRoleBindingStore.addNamespaceMember uid ctx.scope.namespaceID roleID) req.ids).exec db := by
  rw [create, decodePatch, lift_ok_bind, M.exec]
  cases hget : namespaceDetail? db ctx.scope.namespaceID with
  | none => rw [run_bind_of_error (PgNamespaceStore.run_getByID_none hget)]
  | some ns =>
    rw [run_bind_of_ok (PgNamespaceStore.run_getByID_some hget)]
    dsimp only
    split_ifs with hlimit
    · obtain ⟨e, hrun⟩ := run_checkMaxMembers_of_exceeds hlimit
      rw [run_bind_of_error hrun]
    · rw [run_bind_of_ok (run_checkMaxMembers hlimit)]
      cases requestRole req with
      | error e => rfl
      | ok roleID =>
        rw [lift_ok_bind]
        exact (exec_bind_of_readsOnly (fun _ _ => rfl) db).trans (exec_mapErr _ _ db)

end NamespaceUserOps

end Vraxel.Iam
