import Vraxel.Lib.Run
import Vraxel.Iam.Owners
import Vraxel.Iam.Workspaces
/-
  The owner column and the owner binding: who owns a place is stored twice. An update and a patch
  write the column and no binding; a transfer writes the bindings and no column.
-/

namespace Vraxel.Iam

open Relational Api Db Txn ApiServer Strconv

/-- The one owner binding of the place is the user's. -/
def HasOwner (db : DB) (scope : Db.Scope) (id userID : Int) : Prop :=
  ∃ b ∈ db.roleBindings, isOwnerOf scope id b ∧ b.userID = userID ∧
    ∀ c ∈ db.roleBindings, isOwnerOf scope id c → c = b

instance (db : DB) (scope : Db.Scope) (id userID : Int) : Decidable (HasOwner db scope id userID) :=
  inferInstanceAs (Decidable (∃ b ∈ db.roleBindings, _))

/-- Each row of a table has the owner its column names. -/
def AllOwned {Row : Type} [Keyed Row] (db : DB) (scope : Db.Scope) (ownerID : Row → Int) (t : Table Row) : Prop :=
  ∀ r ∈ t, HasOwner db scope (key r) (ownerID r)

def OwnersAgree (db : DB) : Prop :=
  AllOwned db .workspace WorkspaceRow.ownerID db.workspaces ∧
    AllOwned db .namespace NamespaceRow.ownerID db.namespaces

instance (db : DB) : Decidable (OwnersAgree db) :=
  inferInstanceAs (Decidable ((∀ w ∈ db.workspaces, _) ∧ ∀ n ∈ db.namespaces, _))

/-- An update or a patch of a workspace or a namespace, or a transfer. -/
inductive OwnerOp where
  | updateWorkspace (ctx : Ctx) (id : Int) (ws : Workspace)
  | patchWorkspace (ctx : Ctx) (id : Int) (body : Body Workspace)
  | updateNamespace (ctx : Ctx) (id : Int) (ns : Namespace)
  | patchNamespace (ctx : Ctx) (id : Int) (body : Body Namespace)
  | transferOwnership (scope : Db.Scope) (resourceID callerID : Int) (callerIsPlatformAdmin : Bool)
      (newOwnerUserID : Int) (adminRoleName : String)

def OwnerOp.step (db : DB) : OwnerOp → DB
  | .updateWorkspace ctx id ws => (WorkspaceOps.update ctx id ws).exec db
  | .patchWorkspace ctx id body => (WorkspaceOps.patch ctx id body).exec db
  | .updateNamespace ctx id ns => (NamespaceOps.update ctx id ns).exec db
  | .patchNamespace ctx id body => (NamespaceOps.patch ctx id body).exec db
  | .transferOwnership scope resourceID callerID admin newOwner adminRoleName =>
    (PgRoleBindingStore.transferOwnership scope resourceID callerID admin newOwner adminRoleName).exec db

/-- The column of the row with this id, if there is one, holds this owner. -/
def ColumnHolds {Row : Type} [Keyed Row] (ownerID : Row → Int) (t : Table Row) (id owner : Int) : Prop :=
  ∀ r ∈ t, key r = id → ownerID r = owner

instance {Row : Type} [Keyed Row] (ownerID : Row → Int) (t : Table Row) (id owner : Int) :
    Decidable (ColumnHolds ownerID t id owner) :=
  inferInstanceAs (Decidable (∀ r ∈ t, _))

/-- The operation is refused, or it names the owner of the day (a patch may name none). -/
def NamesOwner (db : DB) : OwnerOp → Prop
  | .updateWorkspace ctx id ws => ∀ p ∈ WorkspaceOps.updatePlan ctx id ws, workspaceChecks p false db = .ok () →
      ColumnHolds WorkspaceRow.ownerID db.workspaces p.id p.ownerID
  | .patchWorkspace ctx id body => ∀ p ∈ WorkspaceOps.patchPlan ctx id body, workspaceChecks p true db = .ok () →
      p.ownerID = 0 ∨ ColumnHolds WorkspaceRow.ownerID db.workspaces p.id p.ownerID
  | .updateNamespace ctx id ns => ∀ p ∈ NamespaceOps.updatePlan ctx id ns, namespaceChecks p false db = .ok () →
      ColumnHolds NamespaceRow.ownerID db.namespaces p.id p.ownerID
  | .patchNamespace ctx id body => ∀ p ∈ NamespaceOps.patchPlan ctx id body, namespaceChecks p true db = .ok () →
      p.ownerID = 0 ∨ ColumnHolds NamespaceRow.ownerID db.namespaces p.id p.ownerID
  | .transferOwnership scope id callerID admin newOwner name =>
    ∀ owner, (PgRoleBindingStore.transferOwnership scope id callerID admin newOwner name).result db = .ok owner →
      (scope = .workspace → ColumnHolds WorkspaceRow.ownerID db.workspaces id newOwner) ∧
      (scope = .namespace → ColumnHolds NamespaceRow.ownerID db.namespaces id newOwner)

/-! One owner, and the rows that name it. -/

section Owned

variable {Row : Type} [Keyed Row] {ownerID : Row → Int} {t : Table Row} {db db' : DB}
  {scope scope' : Db.Scope} {id u v : Int}

theorem HasOwner.unique (hu : HasOwner db scope id u) (hv : HasOwner db scope id v) : u = v := by
  obtain ⟨b, hb, howner, rfl, -⟩ := hu
  obtain ⟨c, -, -, rfl, honly⟩ := hv
  rw [honly b hb howner]

theorem hasOwner_congr (h : ∀ b, b.isAt scope id → (b ∈ db'.roleBindings ↔ b ∈ db.roleBindings)) :
    HasOwner db' scope id u ↔ HasOwner db scope id u := by
  have howner (b : RoleBindingRow) : b ∈ db'.roleBindings ∧ isOwnerOf scope id b ↔
      b ∈ db.roleBindings ∧ isOwnerOf scope id b :=
    and_congr_left fun hb => h b (Bool.and_eq_true _ _ ▸ hb).1
  simp only [HasOwner, ← and_imp, ← and_assoc, howner]

theorem allOwned_update_iff (h : AllOwned db scope ownerID t) (hkey : ∀ (r : Row) i, ownerID (withKey r i) = ownerID r)
    (i : Int) (f : Row → Row) : AllOwned db scope ownerID (t.update (fun r => key r = i) f) ↔
      ∀ r ∈ t, key r = i → ownerID r = ownerID (f r) := by
  constructor
  · intro h' r hr hi
    have hnew := h' _ (Table.mem_update.2 ⟨r, hr, rfl⟩)
    rw [if_pos (by simpa using hi), Keyed.key_withKey, hkey] at hnew
    exact (h r hr).unique hnew
  · intro hsame s hs
    obtain ⟨r, hr, rfl⟩ := Table.mem_update.1 hs
    by_cases hi : key r = i
    · rw [if_pos (by simpa using hi), Keyed.key_withKey, hkey, ← hsame r hr hi]
      exact h r hr
    · rw [if_neg (by simpa using hi)]
      exact h r hr

theorem Transferred.hasOwner {newOwner : Int} (ht : Transferred scope id newOwner db db') :
    HasOwner db' scope id newOwner := by
  obtain ⟨b, hb, howner, huser, honly⟩ := ht.owner
  exact ⟨b, hb, howner, huser, honly⟩

theorem allOwned_transferred_iff {newOwner : Int} (h : AllOwned db scope ownerID t)
    (ht : Transferred scope' id newOwner db db') (hscope : scope' ≠ .platform) :
    AllOwned db' scope ownerID t ↔ (scope' = scope → ColumnHolds ownerID t id newOwner) := by
  constructor
  · rintro h' rfl r hr rfl
    exact (h' r hr).unique ht.hasOwner
  · intro hcolumn r hr
    by_cases hplace : (scope, key r) = (scope', id)
    · cases hplace
      rw [hcolumn rfl r hr rfl]
      exact ht.hasOwner
    · exact (hasOwner_congr fun b hb => ht.elsewhere b (not_isAt_of_isAt hb hplace hscope)).2 (h r hr)

end Owned

section Step

variable {db : DB}

theorem ownersAgree_writeWorkspace_iff (h : OwnersAgree db) (id : Int) (f : WorkspaceRow → WorkspaceRow) :
    OwnersAgree { db with workspaces := db.workspaces.update (fun ws => ws.id = id) f } ↔
      ∀ ws ∈ db.workspaces, ws.id = id → ws.ownerID = (f ws).ownerID := by
  refine Iff.trans ⟨fun h' => h'.1, fun h' => ⟨h', h.2⟩⟩ ?_
  exact allOwned_update_iff h.1 (fun _ _ => rfl) id f

theorem ownersAgree_writeNamespace_iff (h : OwnersAgree db) (id : Int) (f : NamespaceRow → NamespaceRow) :
    OwnersAgree { db with namespaces := db.namespaces.update (fun ns => ns.id = id) f } ↔
      ∀ ns ∈ db.namespaces, ns.id = id → ns.ownerID = (f ns).ownerID := by
  refine Iff.trans ⟨fun h' => h'.2, fun h' => ⟨h.1, h'⟩⟩ ?_
  exact allOwned_update_iff h.2 (fun _ _ => rfl) id f

theorem ownersAgree_plan_iff {Input : Type} (h : OwnersAgree db) (plan : Option Input) (checks : Input → Except Err Unit)
    (write : Input → DB) {P : Input → Prop} (hwrite : ∀ p ∈ plan, (OwnersAgree (write p) ↔ P p)) :
    OwnersAgree (plan.elim db fun p => if checks p = .ok () then write p else db) ↔
      ∀ p ∈ plan, checks p = .ok () → P p := by
  cases plan with
  | none => exact iff_of_true h fun p hp => by cases hp
  | some p =>
    show OwnersAgree (if checks p = .ok () then write p else db) ↔ _
    simp only [Option.mem_def, Option.some.injEq, forall_eq']
    split
    · rename_i hchk
      exact (hwrite p rfl).trans ⟨fun hp _ => hp, fun hp => hp hchk⟩
    · rename_i hchk
      exact iff_of_true h fun hok => absurd hok hchk

theorem coalesce_iff {Row : Type} [Keyed Row] {ownerID : Row → Int} {t : Table Row} {id owner : Int} :
    (∀ r ∈ t, key r = id → ownerID r = if owner = 0 then ownerID r else owner) ↔
      owner = 0 ∨ ColumnHolds ownerID t id owner := by
  by_cases hzero : owner = 0
  · simp [hzero]
  · simp [hzero, ColumnHolds]

theorem ownersAgree_step_iff (op : OwnerOp) (hunique : UniqueGrants db) (h : OwnersAgree db) :
    OwnersAgree (OwnerOp.step db op) ↔ NamesOwner db op := by
  cases op with
  | updateWorkspace ctx id ws =>
    rw [OwnerOp.step, WorkspaceOps.exec_update]
    exact ownersAgree_plan_iff h _ (workspaceChecks · false db) _ fun p _ =>
      ownersAgree_writeWorkspace_iff h p.id p.set
  | patchWorkspace ctx id body =>
    rw [OwnerOp.step, WorkspaceOps.exec_patch]
    exact ownersAgree_plan_iff h _ (workspaceChecks · true db) _ fun p _ =>
      (ownersAgree_writeWorkspace_iff h p.id p.patch).trans coalesce_iff
  | updateNamespace ctx id ns =>
    rw [OwnerOp.step, NamespaceOps.exec_update]
    exact ownersAgree_plan_iff h _ (namespaceChecks · false db) _ fun p _ =>
      ownersAgree_writeNamespace_iff h p.id p.set
  | patchNamespace ctx id body =>
    rw [OwnerOp.step, NamespaceOps.exec_patch]
    exact ownersAgree_plan_iff h _ (namespaceChecks · true db) _ fun p _ =>
      (ownersAgree_writeNamespace_iff h p.id p.patch).trans coalesce_iff
  | transferOwnership scope id callerID admin newOwner name =>
    rw [OwnerOp.step, NamesOwner, M.exec, M.result]
    rcases run_transferOwnership hunique scope id callerID admin newOwner name with
      ⟨e, hrun⟩ | ⟨owner, db', hrun, hscope, ht⟩
    · rw [hrun]
      exact iff_of_true h fun owner howner => by cases howner
    · rw [hrun]
      have hws : db'.workspaces = db.workspaces := by rw [ht.frame]
      have hns : db'.namespaces = db.namespaces := by rw [ht.frame]
      refine Iff.trans ?_ ⟨fun hboth _ _ => hboth, fun hboth => hboth owner rfl⟩
      simp only [OwnersAgree, hws, hns]
      exact and_congr (allOwned_transferred_iff h.1 ht hscope) (allOwned_transferred_iff h.2 ht hscope)

theorem uniqueGrants_step (op : OwnerOp) (h : UniqueGrants db) : UniqueGrants (OwnerOp.step db op) := by
  have hplan {Input : Type} (plan : Option Input) (checks : Input → Except Err Unit) (write : Input → DB)
      (hwrite : ∀ p, (write p).roleBindings = db.roleBindings) :
      UniqueGrants (plan.elim db fun p => if checks p = .ok () then write p else db) := by
    cases plan with
    | none => exact h
    | some p =>
      show UniqueGrants (if checks p = .ok () then write p else db)
      split
      · rw [UniqueGrants, hwrite p]
        exact h
      · exact h
  cases op with
  | updateWorkspace ctx id ws =>
    rw [OwnerOp.step, WorkspaceOps.exec_update]
    exact hplan _ (workspaceChecks · false db) _ fun _ => rfl
  | patchWorkspace ctx id body =>
    rw [OwnerOp.step, WorkspaceOps.exec_patch]
    exact hplan _ (workspaceChecks · true db) _ fun _ => rfl
  | updateNamespace ctx id ns =>
    rw [OwnerOp.step, NamespaceOps.exec_update]
    exact hplan _ (namespaceChecks · false db) _ fun _ => rfl
  | patchNamespace ctx id body =>
    rw [OwnerOp.step, NamespaceOps.exec_patch]
    exact hplan _ (namespaceChecks · true db) _ fun _ => rfl
  | transferOwnership scope id callerID admin newOwner name =>
    rw [OwnerOp.step, M.exec]
    rcases run_transferOwnership h scope id callerID admin newOwner name with ⟨e, hrun⟩ | ⟨owner, db', hrun, -, ht⟩
    · rw [hrun]
      exact h
    · rw [hrun]
      exact ht.unique

end Step

/-- Columns and bindings agree in every state of a run exactly if no operation of it that goes through
names another owner than the one of the day. -/
theorem owners_agree_iff (db : DB) (hunique : UniqueGrants db) (h : OwnersAgree db) (ops : List OwnerOp) :
    (∀ db' ∈ Transition.states OwnerOp.step db ops, OwnersAgree db') ↔
      Transition.Along OwnerOp.step NamesOwner db ops :=
  Transition.forall_states_iff (fun _ op hu => uniqueGrants_step op hu) (fun _ op hu hdb => ownersAgree_step_iff op hu hdb)
    hunique h ops

/-! Workspace 1 with another owner. -/

def oneOwner : DB :=
  { DB.redWorkspace with
    roles := .ofRows [.workspaceBuiltin 1 "workspace-admin" 1, .workspaceBuiltin 2 "workspace-member" 1] 3 (by decide)
    roleBindings := .ofRows [withKey ((Place.workspace 1).grant 7 1 true) 1,
      withKey ((Place.workspace 1).grant 8 2 false) 2] 3 (by decide) }

def putOwner (ownerID : String) : OwnerOp :=
  .updateWorkspace ⟨⟨7, "ana"⟩, ⟨scopeWorkspace, 1, 0⟩, 0, [], [], false, some 7⟩ 1
    ⟨"", "red", { ownerID := ownerID, status := "active" }⟩

def handOverTo (userID : Int) : OwnerOp := .transferOwnership .workspace 1 7 false userID "workspace-admin"

theorem same_owner_agrees :
    UniqueGrants oneOwner ∧ OwnersAgree oneOwner ∧
      ∀ db' ∈ Transition.states OwnerOp.step oneOwner [putOwner "7", handOverTo 7], OwnersAgree db' := by
  refine ⟨by decide, by decide, (owners_agree_iff oneOwner (by decide) (by decide) _).2 ⟨?_, ?_, trivial⟩⟩
  · show ∀ p ∈ WorkspaceOps.updatePlan _ _ _, _ → _
    decide
  · exact fun owner _ => ⟨fun _ => by decide, fun h => by cases h⟩

/-- An update that names user 8 leaves the binding with user 7, and a transfer to user
8 leaves the column with user 7. -/
theorem changed_owner_disagrees :
    OwnersAgree oneOwner ∧ ¬ OwnersAgree (OwnerOp.step oneOwner (putOwner "8")) ∧
      ¬ OwnersAgree (OwnerOp.step oneOwner (handOverTo 8)) := by
  decide

end Vraxel.Iam
