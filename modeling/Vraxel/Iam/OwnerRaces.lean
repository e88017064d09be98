import Vraxel.Lib.Interleave
import Vraxel.Iam.Owners
/-
  Transfers, deletions and removals at the same time: the operations of `Iam.RoleBindings` and
  `Iam.Members` as programs that others can interrupt between two statements.
-/

namespace Vraxel.Iam

open Relational Api Db Txn ApiServer Strconv Interleave

/-- The committed database, and the bindings that open transfers have locked. -/
structure Session where
  db : DB
  locks : List Int

def onDB {α : Type} (x : DbM α) : M Session Err α := fun s => ((x.run s.db).1, { s with db := (x.run s.db).2 })

inductive OwnerStmt where
  | getRoleBindingByID (id : Int)
  | deleteRoleBinding (id : Int)
  | deleteRoleBindingsByIDs (ids : List Int)
  | deleteNonOwnerBindings (scope : Db.Scope) (userID id : Int)
  | getOwnerForUpdate (scope : Db.Scope) (id : Int)
  | existsMember (scope : Db.Scope) (userID id : Int)
  | commit (locked : Int) (scope : Db.Scope) (resourceID newOwnerUserID : Int) (adminRoleName : String)
  | rollback (locked : Int)

/-- What a statement answers. The row of `getOwnerForUpdate` is the locked one. -/
def OwnerStmt.Ans : OwnerStmt → Type
  | .getRoleBindingByID _ => Option RoleBindingRow
  | .deleteRoleBinding _ => Nat
  | .deleteRoleBindingsByIDs _ => Nat
  | .deleteNonOwnerBindings _ _ _ => Nat
  | .getOwnerForUpdate _ _ => Option RoleBindingRow
  | .existsMember _ _ _ => Bool
  | .commit _ _ _ _ _ => Unit
  | .rollback _ => Unit

abbrev ownerSig : Sig := ⟨OwnerStmt, OwnerStmt.Ans⟩

variable (scope : Db.Scope)

def lockOwner (id : Int) : M Session Err (Option RoleBindingRow) := fun s =>
  match s.db.roleBindings.find? (isOwnerOf scope id) with
  | some owner => (.ok (some owner), { s with locks := owner.id :: s.locks })
  | none => (.ok none, s)

def unlock (locked : Int) : M Session Err Unit := write fun s => { s with locks := s.locks.erase locked }

def commitWrites (locked : Int) (x : DbM Unit) : M Session Err Unit := fun s =>
  let (r, db) := (atomically x).run s.db
  (r, ⟨db, s.locks.erase locked⟩)

def OwnerStmt.sem : (q : OwnerStmt) → M Session Err q.Ans
  | .getRoleBindingByID id => onDB (Db.getRoleBindingByID id)
  | .deleteRoleBinding id => onDB (Db.deleteRoleBinding id)
  | .deleteRoleBindingsByIDs ids => onDB (Db.deleteRoleBindingsByIDs ids)
  | .deleteNonOwnerBindings scope userID id => onDB (Db.deleteNonOwnerBindings scope userID id)
  | .getOwnerForUpdate scope id => lockOwner scope id
  | .existsMember scope userID id => onDB (Db.existsMember scope userID id)
  | .commit locked scope resourceID newOwner adminRoleName =>
    commitWrites locked (PgRoleBindingStore.transferWrites scope resourceID newOwner adminRoleName)
  | .rollback locked => unlock locked

def Session.free (s : Session) (p : RoleBindingRow → Bool) : Bool :=
  (s.db.roleBindings.select p).all fun b => b.id ∉ s.locks

def OwnerStmt.ready : OwnerStmt → Session → Bool
  | .deleteRoleBinding id, s => s.free fun b => b.id = id
  | .deleteRoleBindingsByIDs ids, s => s.free fun b => b.id ∈ ids && !b.isOwner
  | .deleteNonOwnerBindings scope userID id, s =>
    s.free fun b => b.userID = userID && b.isAt scope id && !b.isOwner
  | .getOwnerForUpdate scope id, s => s.free (isOwnerOf scope id)
  | _, _ => true

namespace Concurrent

open Prog

abbrev OwnerM : Type → Type := Prog ownerSig Err

/-! One statement each. -/

def getRoleBindingByID (id : Int) : OwnerM (Option RoleBindingRow) := ask (G := ownerSig) (.getRoleBindingByID id)

def execDeleteRoleBinding (id : Int) : OwnerM Nat := ask (G := ownerSig) (.deleteRoleBinding id)

def deleteRoleBindingsByIDs (ids : List Int) : OwnerM Nat := ask (G := ownerSig) (.deleteRoleBindingsByIDs ids)

def deleteNonOwnerBindings (scope : Db.Scope) (userID id : Int) : OwnerM Nat :=
  ask (G := ownerSig) (.deleteNonOwnerBindings scope userID id)

def getOwnerForUpdate (scope : Db.Scope) (id : Int) : OwnerM (Option RoleBindingRow) :=
  ask (G := ownerSig) (.getOwnerForUpdate scope id)

def existsMember (scope : Db.Scope) (userID id : Int) : OwnerM Bool :=
  ask (G := ownerSig) (.existsMember scope userID id)

def commit (locked : Int) (scope : Db.Scope) (resourceID newOwnerUserID : Int) (adminRoleName : String) : OwnerM Unit :=
  ask (G := ownerSig) (.commit locked scope resourceID newOwnerUserID adminRoleName)

def rollback (locked : Int) : OwnerM Unit := ask (G := ownerSig) (.rollback locked)

/-! The store and the handlers. -/

def domainErr {α : Type} (x : OwnerM α) : OwnerM α := mapErr (mapDomain · "") x

def getByID (id : Int) : OwnerM RoleBindingRow := do
  match ← getRoleBindingByID id with
  | some row => return row
  | none => fail (PgRoleBindingStore.notFound id)

def delete (id : Int) : OwnerM Unit := do
  let _ ← getByID id
  let rowsAffected ← execDeleteRoleBinding id
  if rowsAffected = 0 then
    fail (.tagged ("rolebinding " ++ formatInt id) .notFound)
  else
    return ()

def deleteByIDs (ids : List Int) : OwnerM Nat :=
  if ids = [] then return 0 else deleteRoleBindingsByIDs ids

def deleteRoleBinding (ctx : Ctx) (id : Int) : OwnerM Unit := do
  let existing ← domainErr (getByID id)
  if existing.isOwner then
    fail (badRequest "cannot delete owner role binding")
  else if ctx.dryRun then
    return ()
  else
    delete id

def deleteRoleBindingsCollection (ctx : Ctx) (ids : List Int) : OwnerM BatchResult := do
  if ctx.dryRun then
    return ⟨ids.length, 0, []⟩
  else
    let deleted ← domainErr (deleteByIDs ids)
    return ⟨deleted, ids.length - deleted, []⟩

def removeMember (userID id : Int) : OwnerM Unit := do
  let n ← deleteNonOwnerBindings scope userID id
  if n = 0 then
    fail (.tagged ("cannot remove " ++ scope.name ++ " owner") .badRequest)
  else
    return ()

def batchRemoveUsers (removeFn : Int → OwnerM Unit) : List Int → OwnerM (Nat × List String)
  | [] => return (0, [])
  | uid :: ids => do
    let removed ← attempt (removeFn uid)
    let (successCount, failedIDs) ← batchRemoveUsers removeFn ids
    match removed with
    | .ok _ => return (successCount + 1, failedIDs)
    | .error _ => return (successCount, formatInt uid :: failedIDs)

def transferOwnership (resourceID callerID : Int) (callerIsPlatformAdmin : Bool)
    (newOwnerUserID : Int) (adminRoleName : String) : OwnerM Int := do
  if scope = .platform then
    fail (.plain ("unsupported scope for ownership transfer: " ++ scope.name))
  else match ← getOwnerForUpdate scope resourceID with
  | none => fail (.tagged ("owner for scope=" ++ scope.name ++ " id=" ++ formatInt resourceID) .notFound)
  | some owner =>
    if !callerIsPlatformAdmin && callerID ≠ owner.userID then
      rollback owner.id
      fail (.tagged "only the current owner or platform admin can transfer ownership" .forbidden)
    else
      let isMember ← existsMember scope newOwnerUserID resourceID
      if !isMember then
        rollback owner.id
        fail (.tagged "new owner must be a member of the resource" .badRequest)
      else
        commit owner.id scope resourceID newOwnerUserID adminRoleName
        return owner.userID

end Concurrent

inductive OwnerCall where
  | transferOwnership (scope : Db.Scope) (resourceID callerID : Int) (callerIsPlatformAdmin : Bool)
      (newOwnerUserID : Int) (adminRoleName : String)
  | deleteRoleBinding (ctx : Ctx) (id : Int)
  | deleteRoleBindings (ctx : Ctx) (ids : List Int)
  | removeWorkspaceUsers (ctx : Ctx) (ids : List Int)
  | removeNamespaceUsers (ctx : Ctx) (ids : List Int)

def Concurrent.prog : OwnerCall → OwnerM Unit
  | .transferOwnership scope resourceID callerID admin newOwner adminRoleName => do
    let _ ← transferOwnership scope resourceID callerID admin newOwner adminRoleName
  | .deleteRoleBinding ctx id => deleteRoleBinding ctx id
  | .deleteRoleBindings ctx ids => do
    let _ ← deleteRoleBindingsCollection ctx ids
  | .removeWorkspaceUsers ctx ids => do
    let _ ← batchRemoveUsers (fun uid => removeMember .workspace uid ctx.scope.workspaceID) ids
  | .removeNamespaceUsers ctx ids => do
    let _ ← batchRemoveUsers (fun uid => removeMember .namespace uid ctx.scope.namespaceID) ids

def ownerSystem : System Session ownerSig Err Unit OwnerCall := ⟨OwnerStmt.sem, OwnerStmt.ready, Concurrent.prog⟩

/-- The statement is not the `DELETE` of the place's owner binding by its id. -/
def SparesOwner (id : Int) : OwnerStmt → Session → Prop
  | .deleteRoleBinding i, s => ∀ b ∈ s.db.roleBindings, b.id = i → isOwnerOf scope id b = false
  | _, _ => True

instance (scope : Db.Scope) (id : Int) (q : OwnerStmt) (s : Session) : Decidable (SparesOwner scope id q s) := by
  cases q <;> unfold SparesOwner <;> infer_instance

section Statements

variable {scope : Db.Scope} {id : Int} {s : Session}

theorem oneOwner_delete_iff {db : DB} (h : OneOwner scope id db) (p : RoleBindingRow → Bool) :
    OneOwner scope id { db with roleBindings := db.roleBindings.delete p } ↔
      ∀ b ∈ db.roleBindings, p b → isOwnerOf scope id b = false := by
  obtain ⟨r, hr, howner, honly⟩ := Table.count_eq_one.1 h
  constructor
  · intro h' b hb hp
    obtain ⟨r', hr', howner', -⟩ := Table.count_eq_one.1 h'
    obtain ⟨hmem, hkept⟩ := Table.mem_delete.1 hr'
    -- the survivor is the one owner, so the deleted `b` is not it
    by_contra hb'
    have heq : b = r' := (honly b hb (by simpa using hb')).trans (honly r' hmem howner').symm
    rw [heq, hkept] at hp
    cases hp
  · intro hspared
    have hkept : p r = false := by
      by_contra hp
      have := hspared r hr (by simpa using hp)
      rw [howner] at this
      cases this
    exact Table.count_eq_one.2 ⟨r, Table.mem_delete.2 ⟨hr, hkept⟩, howner,
      fun b hb => honly b (Table.mem_delete.1 hb).1⟩

theorem not_isOwner_of_and {b : RoleBindingRow} {c : Bool} (h : c && !b.isOwner) : b.isOwner = false := by
  rw [Bool.and_eq_true, Bool.not_eq_true'] at h
  exact h.2

theorem OneOwner.delete_nonOwner {db : DB} (h : OneOwner scope id db) {p : RoleBindingRow → Bool}
    (hp : ∀ b, p b → b.isOwner = false) :
    OneOwner scope id { db with roleBindings := db.roleBindings.delete p } :=
  (oneOwner_delete_iff h p).2 fun b _ hb => by
    simp [isOwnerOf, hp b hb]

theorem db_lockOwner (scope : Db.Scope) (id : Int) (s : Session) : ((lockOwner scope id).exec s).db = s.db := by
  simp only [M.exec, M.run, lockOwner]
  split <;> rfl

theorem exec_commitWrites (locked : Int) (scope : Db.Scope) (resourceID newOwner : Int) (name : String)
    (hunique : UniqueGrants s.db) :
    let db' := ((commitWrites locked (PgRoleBindingStore.transferWrites scope resourceID newOwner name)).exec s).db
    db' = s.db ∨ Transferred (ownerScope scope) resourceID newOwner s.db db' := by
  rcases hrun : (atomically (PgRoleBindingStore.transferWrites scope resourceID newOwner name)).run s.db with
    ⟨e | a, db'⟩
  · left
    exact (congrArg Prod.snd hrun).trans (atomically_error hrun)
  · right
    simp only [M.exec, M.run, commitWrites]
    have hdb : ((atomically (PgRoleBindingStore.transferWrites scope resourceID newOwner name)) s.db).2 = db' :=
      congrArg Prod.snd hrun
    rw [hdb]
    exact transferred_transferWrites hunique (atomically_ok_iff.1 hrun)

theorem ownerScope_ne_platform (scope : Db.Scope) : ownerScope scope ≠ .platform := by
  cases scope <;> decide

theorem uniqueGrants_sem (q : OwnerStmt) (s : Session) (h : UniqueGrants s.db) : UniqueGrants (q.sem.exec s).db := by
  cases q with
  | getRoleBindingByID i => exact h
  | deleteRoleBinding i => exact h.delete _
  | deleteRoleBindingsByIDs ids => exact h.delete _
  | deleteNonOwnerBindings sc u i => exact h.delete _
  | getOwnerForUpdate sc i => exact (db_lockOwner sc i s).symm ▸ h
  | existsMember sc u i => exact h
  | commit locked sc i newOwner name =>
    rcases exec_commitWrites locked sc i newOwner name h with heq | ht
    · exact heq.symm ▸ h
    · exact ht.unique
  | rollback locked => exact h

theorem oneOwner_sem_iff (q : OwnerStmt) (s : Session) (hunique : UniqueGrants s.db) (h : OneOwner scope id s.db) :
    OneOwner scope id (q.sem.exec s).db ↔ SparesOwner scope id q s := by
  cases q with
  | getRoleBindingByID i => exact iff_of_true h trivial
  | deleteRoleBinding i =>
    refine (oneOwner_delete_iff h fun b => b.id = i).trans ?_
    simp [SparesOwner]
  | deleteRoleBindingsByIDs ids =>
    exact iff_of_true (h.delete_nonOwner fun b hb => not_isOwner_of_and hb) trivial
  | deleteNonOwnerBindings sc u i =>
    exact iff_of_true (h.delete_nonOwner fun b hb => not_isOwner_of_and hb) trivial
  | getOwnerForUpdate sc i => exact iff_of_true ((db_lockOwner sc i s).symm ▸ h) trivial
  | existsMember sc u i => exact iff_of_true h trivial
  | commit locked sc i newOwner name =>
    refine iff_of_true ?_ trivial
    rcases exec_commitWrites locked sc i newOwner name hunique with heq | ht
    · exact heq.symm ▸ h
    · exact ht.oneOwner (ownerScope_ne_platform sc) h
  | rollback locked => exact iff_of_true h trivial

end Statements

/-- Every committed state has exactly one owner binding for the place if and only if no single deletion
executes its `DELETE` at a time when its binding is the owner binding of the place. -/
theorem one_owner_iff (db : DB) (hunique : UniqueGrants db) (scope : Db.Scope) (id : Int)
    (h : OneOwner scope id db) (es : List (Event OwnerCall)) :
    (∀ st ∈ Transition.states ownerSystem.step (.init ⟨db, []⟩) es, OneOwner scope id st.store.db) ↔
      Transition.Along ownerSystem.step (ownerSystem.Meets (SparesOwner scope id)) (.init ⟨db, []⟩) es :=
  System.forall_stores_iff (I := fun s : Session => OneOwner scope id s.db) uniqueGrants_sem
    (fun q s => oneOwner_sem_iff q s) hunique h es

/-! A transfer to the user whose binding is being deleted. -/

def twoAdmins : DB :=
  { DB.redWorkspace with
    roles := .ofRows [.workspaceBuiltin 1 "workspace-admin" 1] 2 (by decide)
    roleBindings := .ofRows [withKey ((Place.workspace 1).grant 7 1 true) 1,
      withKey ((Place.workspace 1).grant 8 1 false) 2] 3 (by decide) }

def deleteBinding2 : OwnerCall := .deleteRoleBinding ⟨⟨7, "ana"⟩, ⟨scopeWorkspace, 1, 0⟩, 0, [], [], false, some 7⟩ 2

def handOver : OwnerCall := .transferOwnership .workspace 1 7 false 8 "workspace-admin"

/-- The deletion is done before the transfer begins: the transfer is refused, as user 8
is not a member any more. -/
theorem owner_kept_after_deletion :
    UniqueGrants twoAdmins ∧ OneOwner .workspace 1 twoAdmins ∧
      ∀ st ∈ Transition.states ownerSystem.step (.init ⟨twoAdmins, []⟩)
        [.call deleteBinding2, .step 0, .step 0, .step 0, .call handOver, .step 1, .step 1, .step 1],
        OneOwner .workspace 1 st.store.db := by
  exact ⟨by decide, by decide, (one_owner_iff twoAdmins (by decide) .workspace 1 (by decide) _).2 (by decide)⟩

/-- The transfer comes between the check and the `DELETE`: nobody owns the workspace. -/
theorem new_owner_deleted :
    UniqueGrants twoAdmins ∧ OneOwner .workspace 1 twoAdmins ∧
      (Transition.run ownerSystem.step (.init ⟨twoAdmins, []⟩)
        [.call deleteBinding2, .step 0, .step 0, .call handOver, .step 1, .step 1, .step 1,
          .step 0]).store.db.roleBindings.count (isOwnerOf .workspace 1) = 0 := by
  decide

end Vraxel.Iam
