import Vraxel.Iam.RoleBindings
/-
  The namespaces resource: the store (`iam/store/pg_namespace.go`), validation,
  and the item operations that the flat and the nested routes share
  (`iam/storage_namespace.go`).

  Timestamps are left out of the API object, and listing is not modelled; creation is in `Tenants`.
-/

namespace Vraxel.Iam

open Relational Api Db Txn ApiServer Strconv Strings

/-! The API object. -/

structure NamespaceSpec where
  displayName : String := ""
  description : String := ""
  workspaceID : String := ""
  ownerID : String := ""
  visibility : String := ""
  maxMembers : Int := 0
  ownerName : String := ""
  createdByName : String := ""
  memberCount : Nat := 0
  roleBindingCount : Nat := 0
  workspaceName : String := ""
  status : String := ""
  deriving DecidableEq

/-- `Namespace`, with the parts of its metadata the operations use. -/
structure Namespace where
  id : String := ""
  name : String := ""
  spec : NamespaceSpec := {}
  deriving DecidableEq

def namespaceToAPI (n : NamespaceRow) : Namespace where
  id := formatInt n.id
  name := n.name
  spec := {
    displayName := n.displayName
    description := n.description
    workspaceID := formatInt n.workspaceID
    ownerID := formatInt n.ownerID
    visibility := n.visibility
    maxMembers := n.maxMembers
    status := n.status }

def namespaceWithOwnerToAPI (n : NamespaceWithOwnerRow) : Namespace :=
  let ns := namespaceToAPI n.toNamespaceRow
  { ns with spec := { ns.spec with
      ownerName := n.ownerUsername
      workspaceName := n.workspaceName
      createdByName := n.creatorName
      memberCount := n.memberCount
      roleBindingCount := n.roleBindingCount } }

def fieldTest (ok : Bool) (field message : String) : List FieldError := if ok then [] else [⟨field, message⟩]

def validateNamespaceUpdate (spec : NamespaceSpec) : List FieldError :=
  fieldTest (runeCount spec.displayName ≤ 128) "spec.displayName" "must be at most 128 characters"
    ++ fieldTest (runeCount spec.description ≤ 1000) "spec.description" "must be at most 1000 characters"
    ++ fieldTest (spec.visibility ∈ ["", "public", "private"]) "spec.visibility" "must be 'public' or 'private'"
    ++ fieldTest (0 ≤ spec.maxMembers && spec.maxMembers ≤ 1000000) "spec.maxMembers"
      "must be between 0 and 1000000"
    ++ fieldTest (spec.status ∈ ["", "active", "inactive"]) "spec.status" "must be 'active' or 'inactive'"

namespace PgNamespaceStore

def notFound (id : Int) : Err := .tagged ("namespace " ++ formatInt id) .notFound

def returning (onError : Err → Err) (id : Int) (q : DbM (Option NamespaceWithOwnerRow)) :
    DbM NamespaceWithOwnerRow := do
  match ← mapErr onError q with
  | some row => return row
  | none => fail (notFound id)

def update (input : NamespaceUpdateInput) : DbM NamespaceWithOwnerRow :=
  returning (fun e => (checkPG e).wrap "update namespace") input.id (updateNamespace input)

def patch (input : NamespaceUpdateInput) : DbM NamespaceWithOwnerRow :=
  returning (·.wrap "patch namespace") input.id (patchNamespace input)

def delete (id : Int) : DbM Unit := do
  let rowsAffected ← deleteNamespace id
  if rowsAffected = 0 then
    fail (notFound id)

def deleteByIDs (ids : List Int) : DbM Nat :=
  if ids = [] then return 0 else deleteNamespacesByIDs ids

end PgNamespaceStore

/-- `blockingResourceError`: the conflict that names what is in the way. -/
def blockingResourceError (scope : String) (rows : List BlockingResourceRow) : Option Err :=
  if rows = [] then none
  else
    let parts := rows.map fun r => r.kind ++ "(" ++ formatInt r.count ++ ")"
    some (.ofStatus (newConflictMessage ("cannot delete " ++ scope ++ ": " ++ join parts ", ")))

def checkBlocking (id : Int) : DbM Unit := do
  let rows ← countNamespaceBlockingResources id
  match blockingResourceError "namespace" rows with
  | some e => fail e
  | none => return ()

/-- The store's input for an update and for a patch; `int32(maxMembers)` wraps around. -/
def updateInput (id ownerID : Int) (ns : Namespace) : NamespaceUpdateInput where
  id := id
  name := ns.name
  displayName := ns.spec.displayName
  description := ns.spec.description
  ownerID := ownerID
  visibility := ns.spec.visibility
  maxMembers := toInt32 ns.spec.maxMembers
  status := ns.spec.status

def invalidOwnerID (raw : String) : Err := badRequest ("invalid ownerId: " ++ raw)

namespace NamespaceOps

def get (_ctx : Ctx) (id : Int) : DbM Namespace := do
  let ns ← domainErr (PgNamespaceStore.getByID id)
  return namespaceWithOwnerToAPI ns

def update (ctx : Ctx) (id : Int) (ns : Namespace) : DbM Namespace := do
  if validateNamespaceUpdate ns.spec ≠ [] then
    fail (.ofStatus (newBadRequest "validation failed" (validateNamespaceUpdate ns.spec)))
  else if ctx.dryRun then
    return ns
  else match parseInt ns.spec.ownerID with
  | none => fail (invalidOwnerID ns.spec.ownerID)
  | some ownerID =>
    let updated ← domainErr (PgNamespaceStore.update (updateInput id ownerID ns))
    return namespaceWithOwnerToAPI updated

def patchOwner (raw : String) : Option Int := if raw = "" then some 0 else parseInt raw

def patch (ctx : Ctx) (id : Int) (body : Body Namespace) : DbM Namespace := do
  let ns ← lift (decodePatch body)
  if ctx.dryRun then
    domainErr (get ctx id)
  else match patchOwner ns.spec.ownerID with
  | none => fail (invalidOwnerID ns.spec.ownerID)
  | some ownerID =>
    let patched ← domainErr (PgNamespaceStore.patch (updateInput id ownerID ns))
    return namespaceWithOwnerToAPI patched

def delete (ctx : Ctx) (id : Int) : DbM Unit := do
  if ctx.dryRun then
    return ()
  else
    checkBlocking id
    domainErr (PgNamespaceStore.delete id)

def batchDelete (ctx : Ctx) (ids : List Int) : DbM BatchResult := do
  if ctx.dryRun then
    return ⟨ids.length, 0, []⟩
  else
    forEach ids checkBlocking
    let count ← domainErr (PgNamespaceStore.deleteByIDs ids)
    return ⟨count, ids.length - count, []⟩

end NamespaceOps

/-! What the operations answer, and which database they leave. -/

def blockedErr (db : DB) (id : Int) : Option Err :=
  blockingResourceError "namespace" (blockingResources db id)

theorem run_checkBlocking (id : Int) (db : DB) : (checkBlocking id).run db =
    (match blockedErr db id with | some e => .error e | none => .ok (), db) := by
  simp only [checkBlocking, countNamespaceBlockingResources, run_read_bind, blockedErr]
  split <;> rfl

theorem run_checkAll (ids : List Int) (db : DB) : (forEach ids checkBlocking).run db =
    (match ids.findSome? (blockedErr db) with | some e => .error e | none => .ok (), db) := by
  induction ids with
  | nil => rfl
  | cons id ids ih =>
    rw [forEach_cons, run_bind, run_checkBlocking, List.findSome?_cons]
    cases blockedErr db id with
    | some e => rfl
    | none => exact ih

theorem isNotFound_notFound (id : Int) : (mapDomain (PgNamespaceStore.notFound id) "").isNotFound := rfl

theorem not_isNotFound_of_pg {e : Err} {p : PgError} (hp : e.pg = some p) (hcode : p.code ≠ .checkViolation)
    (label : String) : (mapDomain e label).isNotFound = false := by
  obtain ⟨code, message, detail, constraintName⟩ := p
  rw [mapDomain, fromDomain, hp]
  cases code with
  | checkViolation => exact absurd rfl hcode
  | stringTooLong => rfl
  | uniqueViolation => rfl
  | restrictViolation =>
    dsimp only
    by_cases hd : detail ≠ ""
    · rw [if_pos hd]
      rfl
    · rw [if_neg hd]
      rfl
  | foreignKeyViolation =>
    dsimp only
    by_cases hd : detail ≠ ""
    · rw [if_pos hd]
      rfl
    · rw [if_neg hd]
      rfl

variable {p : NamespaceUpdateInput} {db : DB}

theorem namespaceChecks_error {nulls : Bool} {e : Err}
    (h : namespaceChecks p nulls db = .error e) : ∃ q, e.pg = some q ∧ q.code ≠ .checkViolation := by
  obtain ⟨t, ht, rfl⟩ := mem_of_firstViolation_eq_error h
  simp only [List.mem_cons, List.not_mem_nil, or_false] at ht
  rcases ht with rfl | rfl | rfl | rfl | rfl | rfl <;> exact ⟨_, rfl, PgCode.noConfusion⟩

theorem pg_checkPG (e : Err) : (checkPG e).pg = e.pg := by
  unfold checkPG
  split
  · rfl
  · split <;> rfl

namespace PgNamespaceStore

theorem run_getByID (id : Int) (db : DB) : (getByID id).run db =
    (match namespaceDetail? db id with | some ns => .ok ns | none => .error (notFound id), db) := by
  simp only [getByID, getNamespaceByID, run_read_bind]
  cases namespaceDetail? db id <;> rfl

theorem run_write_of_absent {nulls : Bool} {f : NamespaceRow → NamespaceRow} (g : Err → Err) (h : db.namespaces.get? p.id = none) :
    (returning g p.id (writeNamespace p nulls f)).run db = (.error (notFound p.id), db) := by
  have hno : (db.namespaces.exists? fun ns => ns.id = p.id) = false :=
    Table.exists?_eq_false.2 fun ns hns => by simpa using Table.get?_eq_none_iff.1 h ns hns
  have hstmt : (namespacesTable.update (fun ns => ns.id = p.id) (namespaceChecks p nulls) f).run db =
      (.ok 0, db) := by
    have hself : db.namespaces.update (fun ns => ns.id = p.id) f = db.namespaces :=
      Table.update_eq_self (Table.exists?_eq_false.1 hno)
    refine Slot.update_ok_iff.2 ⟨fun hex => ?_, Table.count_eq_zero.2 fun ns hns => ?_, ?_⟩
    · rw [show namespacesTable.get db = db.namespaces from rfl, hno] at hex
      cases hex
    · simpa using Table.get?_eq_none_iff.1 h ns hns
    · show { db with namespaces := db.namespaces.update (fun ns => ns.id = p.id) f } = db
      rw [hself]
  simp [returning, run_bind, run_mapErr, writeNamespace, hstmt, returningNamespace, h]

/-- An update of a namespace that is there: it succeeds, and the row is written,
or a constraint is violated. -/
theorem run_write_of_present (nulls : Bool) (f : NamespaceRow → NamespaceRow) {ns : NamespaceRow} (g : Err → Err) (h : db.namespaces.get? p.id = some ns) :
    (∃ row, (returning g p.id (writeNamespace p nulls f)).run db =
      (.ok row, { db with namespaces := db.namespaces.update (fun ns => ns.id = p.id) f })) ∨
    ∃ e, namespaceChecks p nulls db = .error e ∧
      (returning g p.id (writeNamespace p nulls f)).run db = (.error (g e), db) := by
  obtain ⟨hns, hid⟩ := Table.get?_eq_some_iff.1 h
  have hex : (namespacesTable.get db).exists? (fun ns => ns.id = p.id) :=
    Table.exists?_iff.2 ⟨ns, hns, by simpa using hid⟩
  cases hchk : namespaceChecks p nulls db with
  | error e =>
    refine .inr ⟨e, rfl, ?_⟩
    simp [returning, run_bind, run_mapErr, writeNamespace, Slot.run_update_of_error hex hchk]
  | ok a =>
    have hstmt : (namespacesTable.update (fun ns => ns.id = p.id) (namespaceChecks p nulls) f).run db =
        (.ok (db.namespaces.count fun ns => ns.id = p.id),
          { db with namespaces := db.namespaces.update (fun ns => ns.id = p.id) f }) :=
      Slot.update_ok_iff.2 ⟨fun _ => hchk, rfl, rfl⟩
    -- the row is still there after the update
    have hget : ∃ ns', (db.namespaces.update (fun ns => ns.id = p.id) f).get? p.id = some ns' :=
      ⟨_, Table.get?_eq_some_iff.2 ⟨Table.mem_update.2 ⟨ns, hns, rfl⟩, by simp [show ns.id = p.id from hid]⟩⟩
    obtain ⟨ns', hns'⟩ := hget
    refine .inl ?_
    simp only [returning, run_bind, run_mapErr, writeNamespace, hstmt, returningNamespace, run_read, hns',
      Option.map_some, run_pure]
    exact ⟨_, rfl⟩

theorem run_delete_of_absent {id : Int} (h : db.namespaces.get? id = none) :
    (delete id).run db = (.error (notFound id), db) := by
  have hno : ∀ ns ∈ db.namespaces, ns.id ∉ [id] := fun ns hns => by
    simpa using Table.get?_eq_none_iff.1 h ns hns
  have hcount : (db.namespaces.count fun ns => ns.id ∈ [id]) = 0 :=
    Table.count_eq_zero.2 fun ns hns => by simpa using hno ns hns
  have hdel : (deleteNamespace id).run db = (.ok (db.namespaces.count fun ns => ns.id ∈ [id]), db) := by
    show (_, dropNamespaces [id] db) = _
    rw [dropNamespaces_eq_self hno]
  rw [delete, run_bind_of_ok hdel, if_pos hcount]
  rfl

theorem run_delete_of_present {id : Int} {ns : NamespaceRow}
    (h : db.namespaces.get? id = some ns) : (delete id).run db = (.ok (), dropNamespaces [id] db) := by
  obtain ⟨hns, hid⟩ := Table.get?_eq_some_iff.1 h
  have hcount : (db.namespaces.count fun ns => ns.id ∈ [id]) ≠ 0 :=
    (Table.count_pos.2 ⟨ns, hns, by simpa using hid⟩).ne'
  have hdel : (deleteNamespace id).run db =
      (.ok (db.namespaces.count fun ns => ns.id ∈ [id]), dropNamespaces [id] db) := rfl
  rw [delete, run_bind_of_ok hdel, if_neg hcount]
  rfl

end PgNamespaceStore

end Vraxel.Iam
