import Vraxel.Iam.Namespaces
/-
  Whether the item operations under `/workspaces/{w}/namespaces` stay with the namespaces of `w`: the
  namespaces of other workspaces are as before (`SameOutside`), and an id that is not a namespace of
  `w` is answered as if it did not exist.
-/

namespace Vraxel.Iam

open Relational Api Db Txn ApiServer Strconv

def OwnedBy (db : DB) (id w : Int) : Prop := db.workspaceOf id = some w

instance (db : DB) (id w : Int) : Decidable (OwnedBy db id w) :=
  inferInstanceAs (Decidable (db.workspaceOf id = some w))

variable {db : DB} {id w : Int} {α : Type}

theorem ownedBy_iff {ns : NamespaceRow} (h : db.namespaces.get? id = some ns) :
    OwnedBy db id w ↔ ns.workspaceID = w := by
  simp [OwnedBy, DB.workspaceOf, h]

def SameOutside (w : Int) (db db' : DB) : Prop :=
  ∀ ns : NamespaceRow, ns.workspaceID ≠ w → (ns ∈ db'.namespaces ↔ ns ∈ db.namespaces)

theorem sameOutside_refl (w : Int) (db : DB) : SameOutside w db db := fun _ _ => Iff.rfl

theorem sameOutside_update {f : NamespaceRow → NamespaceRow} (h : OwnedBy db id w)
    (hf : ∀ ns, (f ns).workspaceID = ns.workspaceID) :
    SameOutside w db { db with namespaces := db.namespaces.update (fun ns => ns.id = id) f } := by
  have howned {ns : NamespaceRow} (hns : ns ∈ db.namespaces) (hid : ns.id = id) : ns.workspaceID = w :=
    (ownedBy_iff (Table.get?_eq_some_iff.2 ⟨hns, hid⟩)).1 h
  intro ns hw
  simp only [Table.mem_update]
  constructor
  · rintro ⟨r, hr, rfl⟩
    by_cases hid : r.id = id
    · rw [if_pos (by simpa using hid)] at hw
      exact absurd ((hf r).trans (howned hr hid)) hw
    · rwa [if_neg (by simpa using hid)]
  · intro hns
    have hid : ns.id ≠ id := fun hid => hw (howned hns hid)
    exact ⟨ns, hns, (if_neg (by simpa using hid)).symm⟩

theorem sameOutside_dropNamespaces_iff {ids : List Int} :
    SameOutside w db (dropNamespaces ids db) ↔
      ∀ ns ∈ db.namespaces, ns.id ∈ ids → ns.workspaceID = w := by
  have hmem (ns : NamespaceRow) : ns ∈ (dropNamespaces ids db).namespaces ↔
      ns ∈ db.namespaces ∧ ns.id ∉ ids := by
    simp [dropNamespaces]
  constructor
  · intro h ns hns hid
    by_contra hw
    exact ((hmem ns).1 ((h ns hw).2 hns)).2 hid
  · intro h ns hw
    rw [hmem, and_iff_left_iff_imp]
    exact fun hns hid => hw (h ns hns hid)

def AnswersNotFound {α : Type} (x : DbM α) (db : DB) : Prop := ∃ e, x.result db = .error e ∧ e.isNotFound

variable (ids : List Int) {x : DbM α}

theorem answersNotFound_map_iff {β : Type} {f : α → β} :
    AnswersNotFound (f <$> x) db ↔ AnswersNotFound x db := by
  simp only [AnswersNotFound, M.result, run_map]
  rcases (x.run db).1 with e | a <;> simp [Except.map]

theorem exec_map {β : Type} (f : α → β) (x : DbM α) (db : DB) : (f <$> x).exec db = x.exec db := by
  simp [M.exec, run_map]

/-- The program leaves the namespaces of other workspaces alone, and answers an id
that is not the workspace's with a 404. -/
def StaysWith {α : Type} (w id : Int) (db : DB) (x : DbM α) : Prop :=
  SameOutside w db (x.exec db) ∧ (¬ OwnedBy db id w → AnswersNotFound x db)

theorem staysWith_map_iff {β : Type} {f : α → β} :
    StaysWith w id db (f <$> x) ↔ StaysWith w id db x := by
  rw [StaysWith, StaysWith, exec_map, answersNotFound_map_iff]

theorem not_answersNotFound_of_ok {db' : DB} {a : α} (h : x.run db = (.ok a, db')) :
    ¬ AnswersNotFound x db := by
  rintro ⟨e, he, -⟩
  rw [M.result, h] at he
  cases he

theorem answersNotFound_of_error {db' : DB} {e : Err}
    (h : x.run db = (.error e, db')) : AnswersNotFound x db ↔ e.isNotFound := by
  simp [AnswersNotFound, M.result, h]

theorem staysWith_congr {y : DbM α} (h : x.run db = y.run db) :
    StaysWith w id db x ↔ StaysWith w id db y := by
  simp [StaysWith, AnswersNotFound, M.exec, M.result, h]

theorem staysWith_iff_of_ok {db' : DB} {a : α} (h : x.run db = (.ok a, db'))
    (hsame : OwnedBy db id w → SameOutside w db db') : StaysWith w id db x ↔ OwnedBy db id w := by
  rw [StaysWith, imp_iff_not (not_answersNotFound_of_ok h), not_not, and_iff_right_of_imp]
  rw [M.exec, h]
  exact hsame

theorem staysWith_iff_of_error {e : Err}
    (h : x.run db = (.error e, db)) : StaysWith w id db x ↔ OwnedBy db id w ∨ e.isNotFound := by
  have hsame : SameOutside w db (x.exec db) := by
    rw [M.exec, h]
    exact sameOutside_refl w db
  rw [StaysWith, and_iff_right hsame, answersNotFound_of_error h, ← or_iff_not_imp_left]

theorem staysWith_write_iff (w : Int) (db : DB) (p : NamespaceUpdateInput) (nulls : Bool)
    (f : NamespaceRow → NamespaceRow) (g : Err → Err) (hf : ∀ ns, (f ns).workspaceID = ns.workspaceID)
    (hg : ∀ e, (g e).pg = e.pg) :
    StaysWith w p.id db (domainErr (PgNamespaceStore.returning g p.id (writeNamespace p nulls f))) ↔
      OwnedBy db p.id w ∨ db.namespaces.get? p.id = none := by
  cases hget : db.namespaces.get? p.id with
  | none =>
    have hrun : (domainErr (PgNamespaceStore.returning g p.id (writeNamespace p nulls f))).run db =
        (.error (mapDomain (PgNamespaceStore.notFound p.id) ""), db) := by
      simp [domainErr, run_mapErr, PgNamespaceStore.run_write_of_absent g hget]
    simp [staysWith_iff_of_error hrun, isNotFound_notFound]
  | some ns =>
    simp only [reduceCtorEq, or_false]
    rcases PgNamespaceStore.run_write_of_present nulls f g hget with ⟨row, hok⟩ | ⟨e, hchk, herr⟩
    · have hrun : (domainErr (PgNamespaceStore.returning g p.id (writeNamespace p nulls f))).run db =
          (.ok row, { db with namespaces := db.namespaces.update (fun ns => ns.id = p.id) f }) := by
        simp [domainErr, run_mapErr, hok]
      exact staysWith_iff_of_ok hrun fun hown => sameOutside_update hown hf
    · have hrun : (domainErr (PgNamespaceStore.returning g p.id (writeNamespace p nulls f))).run db =
          (.error (mapDomain (g e) ""), db) := by
        simp [domainErr, run_mapErr, herr]
      obtain ⟨q, hq, hcode⟩ := namespaceChecks_error hchk
      rw [staysWith_iff_of_error hrun, not_isNotFound_of_pg ((hg e).trans hq) hcode]
      simp

inductive ItemOp where
  | get
  | update (ns : Namespace)
  | patch (body : Body Namespace)
  | delete

variable (ctx : Ctx)

namespace ItemOp

def run (id : Int) : ItemOp → DbM (Option Namespace)
  | get => some <$> NamespaceOps.get ctx id
  | update ns => some <$> NamespaceOps.update ctx id ns
  | patch body => some <$> NamespaceOps.patch ctx id body
  | delete => (fun _ => none) <$> NamespaceOps.delete ctx id

/-- The body passes the tests made before a namespace is looked at. -/
def WellFormed : ItemOp → Prop
  | get => True
  | update ns => validateNamespaceUpdate ns.spec = [] ∧ (ctx.dryRun ∨ (parseInt ns.spec.ownerID).isSome)
  | patch body =>
    ∃ ns, body = .json ns ∧ (ctx.dryRun ∨ (NamespaceOps.patchOwner ns.spec.ownerID).isSome)
  | delete => True

/-- The operation stays with the workspace of its URL. -/
def Confined (id : Int) (op : ItemOp) (db : DB) : Prop :=
  SameOutside ctx.scope.workspaceID db ((op.run ctx id).exec db) ∧
    (op.WellFormed ctx → ¬ OwnedBy db id ctx.scope.workspaceID → AnswersNotFound (op.run ctx id) db)

/-- The condition: the body is rejected, or the id is the workspace's own, or it
is nobody's and the operation finds that out. A dry run of an update or of a
deletion looks at nothing, and a deletion looks at the hosts first. -/
def Addresses (id : Int) (op : ItemOp) (db : DB) : Prop :=
  ¬ op.WellFormed ctx ∨ OwnedBy db id ctx.scope.workspaceID ∨
    match op with
    | get => namespaceDetail? db id = none
    | update _ => ctx.dryRun = false ∧ db.namespaces.get? id = none
    | patch _ => if ctx.dryRun then namespaceDetail? db id = none else db.namespaces.get? id = none
    | delete => ctx.dryRun = false ∧ db.namespaces.get? id = none ∧ blockedErr db id = none

theorem confined_iff_of_wellFormed {ctx : Ctx} {id : Int} {op : ItemOp} {db : DB} (h : op.WellFormed ctx) :
    op.Confined ctx id db ↔ StaysWith ctx.scope.workspaceID id db (op.run ctx id) := by
  exact and_congr_right fun _ => ⟨fun h' => h' h, fun h' _ => h'⟩

theorem confined_iff_of_rejected {ctx : Ctx} {id : Int} {op : ItemOp} {db : DB} (e : Err)
    (h : ¬ op.WellFormed ctx) (hrun : (op.run ctx id).run db = (.error e, db)) :
    op.Confined ctx id db ↔ op.Addresses ctx id db := by
  refine iff_of_true ⟨?_, fun h' => absurd h' h⟩ (.inl h)
  rw [M.exec, hrun]
  exact sameOutside_refl _ db

variable (ctx : Ctx) (id : Int) (db : DB)

theorem run_get : (NamespaceOps.get ctx id).run db =
    (match namespaceDetail? db id with
      | some ns => .ok (namespaceWithOwnerToAPI ns)
      | none => .error (mapDomain (PgNamespaceStore.notFound id) ""), db) := by
  simp only [NamespaceOps.get, domainErr, run_bind, run_mapErr, PgNamespaceStore.run_getByID]
  cases namespaceDetail? db id <;> rfl

theorem staysWith_get_iff {ctx : Ctx} {id w : Int} {db : DB} :
    StaysWith w id db (NamespaceOps.get ctx id) ↔ OwnedBy db id w ∨ namespaceDetail? db id = none := by
  have hrun := run_get ctx id db
  cases hdetail : namespaceDetail? db id with
  | none =>
    rw [hdetail] at hrun
    simp [staysWith_iff_of_error hrun, isNotFound_notFound]
  | some ns =>
    rw [hdetail] at hrun
    simp [staysWith_iff_of_ok hrun fun _ => sameOutside_refl w db]

theorem confined_get_iff :
    get.Confined ctx id db ↔ get.Addresses ctx id db := by
  have hwf : get.WellFormed ctx := trivial
  rw [confined_iff_of_wellFormed hwf, run, staysWith_map_iff, staysWith_get_iff]
  simp [Addresses, hwf]

theorem confined_update_iff (ns : Namespace) (db : DB) :
    (update ns).Confined ctx id db ↔ (update ns).Addresses ctx id db := by
  by_cases hval : validateNamespaceUpdate ns.spec = []
  case neg =>
    have hwf : ¬ (update ns).WellFormed ctx := fun h => hval h.1
    refine confined_iff_of_rejected (.ofStatus (newBadRequest "validation failed" (validateNamespaceUpdate ns.spec))) hwf ?_
    simp [run, run_map, NamespaceOps.update, hval, Except.map]
  case pos =>
    cases hdry : ctx.dryRun with
    | true =>
      have hwf : (update ns).WellFormed ctx := ⟨hval, .inl hdry⟩
      have hrun : (NamespaceOps.update ctx id ns).run db = (.ok ns, db) := by
        simp [NamespaceOps.update, hval, hdry]
      rw [confined_iff_of_wellFormed hwf, run, staysWith_map_iff, staysWith_iff_of_ok hrun fun _ => sameOutside_refl _ db]
      simp [Addresses, hwf, hdry]
    | false =>
      cases howner : parseInt ns.spec.ownerID with
      | none =>
        have hwf : ¬ (update ns).WellFormed ctx := by simp [WellFormed, hval, hdry, howner]
        refine confined_iff_of_rejected (invalidOwnerID ns.spec.ownerID) hwf ?_
        simp [run, run_map, NamespaceOps.update, hval, hdry, howner, Except.map]
      | some ownerID =>
        have hwf : (update ns).WellFormed ctx := by simp [WellFormed, hval, howner]
        have hop : NamespaceOps.update ctx id ns =
            namespaceWithOwnerToAPI <$> domainErr (PgNamespaceStore.update (updateInput id ownerID ns)) := by
          simp only [NamespaceOps.update, hval, ne_eq, not_true_eq_false, if_false, hdry, howner]
          rfl
        rw [confined_iff_of_wellFormed hwf, run, staysWith_map_iff, hop, staysWith_map_iff]
        refine (staysWith_write_iff ctx.scope.workspaceID db (updateInput id ownerID ns) false
          (updateInput id ownerID ns).set (fun e => (checkPG e).wrap "update namespace")
          (fun _ => rfl) fun e => pg_checkPG e).trans ?_
        simp [Addresses, hwf, hdry, updateInput]

theorem confined_patch_iff (body : Body Namespace) (db : DB) :
    (patch body).Confined ctx id db ↔ (patch body).Addresses ctx id db := by
  cases body with
  | malformed message =>
    have hwf : ¬ (patch (.malformed message)).WellFormed ctx := by
      rintro ⟨ns, hns, -⟩
      cases hns
    exact confined_iff_of_rejected (.ofStatus (newInvalidJSONBody message [])) hwf rfl
  | json ns =>
    cases hdry : ctx.dryRun with
    | true =>
      have hwf : (patch (.json ns)).WellFormed ctx := ⟨ns, rfl, .inl hdry⟩
      -- the error of the lookup is mapped a second time, which changes nothing
      have hrun : (NamespaceOps.patch ctx id (.json ns)).run db = (NamespaceOps.get ctx id).run db := by
        simp only [NamespaceOps.patch, decodePatch, lift_ok_bind, hdry, if_true, domainErr, run_mapErr, run_get]
        cases namespaceDetail? db id <;> rfl
      rw [confined_iff_of_wellFormed hwf, run, staysWith_map_iff, staysWith_congr hrun, staysWith_get_iff]
      simp [Addresses, hwf, hdry]
    | false =>
      cases howner : NamespaceOps.patchOwner ns.spec.ownerID with
      | none =>
        have hwf : ¬ (patch (.json ns)).WellFormed ctx := by simp [WellFormed, hdry, howner]
        refine confined_iff_of_rejected (invalidOwnerID ns.spec.ownerID) hwf ?_
        simp [run, run_map, run_bind, NamespaceOps.patch, decodePatch, hdry, howner, Except.map]
      | some ownerID =>
        have hwf : (patch (.json ns)).WellFormed ctx := ⟨ns, rfl, .inr (by rw [howner]; rfl)⟩
        have hop : NamespaceOps.patch ctx id (.json ns) =
            namespaceWithOwnerToAPI <$> domainErr (PgNamespaceStore.patch (updateInput id ownerID ns)) := by
          simp only [NamespaceOps.patch, decodePatch, lift_ok_bind, hdry, Bool.false_eq_true, if_false, howner]
          rfl
        rw [confined_iff_of_wellFormed hwf, run, staysWith_map_iff, hop, staysWith_map_iff]
        refine (staysWith_write_iff ctx.scope.workspaceID db (updateInput id ownerID ns) true
          (updateInput id ownerID ns).patch (·.wrap "patch namespace") (fun _ => rfl) fun _ => rfl).trans ?_
        simp [Addresses, hwf, hdry, updateInput]

theorem confined_delete_iff :
    delete.Confined ctx id db ↔ delete.Addresses ctx id db := by
  have hwf : delete.WellFormed ctx := trivial
  rw [confined_iff_of_wellFormed hwf, run, staysWith_map_iff, Addresses]
  simp only [hwf, not_true_eq_false, false_or]
  cases hdry : ctx.dryRun with
  | true =>
    have hrun : (NamespaceOps.delete ctx id).run db = (.ok (), db) := by
      simp [NamespaceOps.delete, hdry]
    simp [staysWith_iff_of_ok hrun fun _ => sameOutside_refl _ db]
  | false =>
    cases hblock : blockedErr db id with
    | some e =>
      have hop : (NamespaceOps.delete ctx id).run db = (.error e, db) := by
        simp [NamespaceOps.delete, hdry, run_bind, run_checkBlocking, hblock]
      have he : e.isNotFound = false := by
        rw [blockedErr, blockingResourceError] at hblock
        split at hblock
        · cases hblock
        · cases hblock
          rfl
      simp [staysWith_iff_of_error hop, he]
    | none =>
      have hop : (NamespaceOps.delete ctx id).run db = (domainErr (PgNamespaceStore.delete id)).run db := by
        simp [NamespaceOps.delete, hdry, run_bind, run_checkBlocking, hblock]
      cases hget : db.namespaces.get? id with
      | none =>
        have hrun : (NamespaceOps.delete ctx id).run db =
            (.error (mapDomain (PgNamespaceStore.notFound id) ""), db) := by
          simp [hop, domainErr, run_mapErr, PgNamespaceStore.run_delete_of_absent hget]
        simp [staysWith_iff_of_error hrun, isNotFound_notFound]
      | some ns =>
        have hrun : (NamespaceOps.delete ctx id).run db = (.ok (), dropNamespaces [id] db) := by
          simp [hop, domainErr, run_mapErr, PgNamespaceStore.run_delete_of_present hget]
        simp only [reduceCtorEq, false_and, and_false, or_false]
        refine staysWith_iff_of_ok hrun fun hown => sameOutside_dropNamespaces_iff.2 ?_
        intro ns' hns' hid
        exact (ownedBy_iff (Table.get?_eq_some_iff.2 ⟨hns', List.mem_singleton.1 hid⟩)).1 hown

theorem confined_iff (op : ItemOp) (db : DB) :
    op.Confined ctx id db ↔ op.Addresses ctx id db := by
  cases op with
  | get => exact confined_get_iff ctx id db
  | update ns => exact confined_update_iff ctx id ns db
  | patch body => exact confined_patch_iff ctx id body db
  | delete => exact confined_delete_iff ctx id db

end ItemOp

def strangers (db : DB) (w : Int) (ids : List Int) : Nat := ids.countP fun id => ¬ OwnedBy db id w

/-- A batch stays with the workspace: every other id counts as failed, and a
refusal is the one of a listed namespace of the workspace. -/
def BatchConfined (ctx : Ctx) (ids : List Int) (db : DB) : Prop :=
  SameOutside ctx.scope.workspaceID db ((NamespaceOps.batchDelete ctx ids).exec db) ∧
    match (NamespaceOps.batchDelete ctx ids).result db with
    | .ok r => strangers db ctx.scope.workspaceID ids ≤ r.failedCount
    | .error e => ∃ id ∈ ids, OwnedBy db id ctx.scope.workspaceID ∧ blockedErr db id = some e

/-- The condition: a dry run lists the workspace's namespaces only; a batch that
is refused could have been refused for one of them; and one that is carried out
lists nobody else's. -/
def BatchAddresses (ctx : Ctx) (ids : List Int) (db : DB) : Prop :=
  if ctx.dryRun then ∀ id ∈ ids, OwnedBy db id ctx.scope.workspaceID
  else match ids.findSome? (blockedErr db) with
    | some e => ∃ id ∈ ids, OwnedBy db id ctx.scope.workspaceID ∧ blockedErr db id = some e
    | none => ∀ id ∈ ids, OwnedBy db id ctx.scope.workspaceID ∨ db.namespaces.get? id = none

theorem run_deleteByIDs (db : DB) : (PgNamespaceStore.deleteByIDs ids).run db =
    (.ok (db.namespaces.count fun ns => ns.id ∈ ids), dropNamespaces ids db) := by
  rw [PgNamespaceStore.deleteByIDs]
  split
  next h =>
    subst h
    have hcount : (db.namespaces.count fun ns => ns.id ∈ ([] : List Int)) = 0 :=
      Table.count_eq_zero.2 fun ns _ => by simp
    rw [dropNamespaces_eq_self fun ns _ => List.not_mem_nil, hcount]
    rfl
  next => rfl

theorem forall_ownedBy_or_absent_iff {ids : List Int} :
    (∀ id ∈ ids, OwnedBy db id w ∨ db.namespaces.get? id = none) ↔
      ∀ ns ∈ db.namespaces, ns.id ∈ ids → ns.workspaceID = w := by
  constructor
  · intro h ns hns hid
    have hget : db.namespaces.get? ns.id = some ns := Table.get?_eq_some_iff.2 ⟨hns, rfl⟩
    rcases h ns.id hid with hown | hnone
    · exact (ownedBy_iff hget).1 hown
    · rw [hget] at hnone
      cases hnone
  · intro h id hid
    cases hget : db.namespaces.get? id with
    | none => exact .inr rfl
    | some ns =>
      obtain ⟨hns, hkey⟩ := Table.get?_eq_some_iff.1 hget
      exact .inl ((ownedBy_iff hget).2 (h ns hns (by rwa [show ns.id = id from hkey])))

theorem deleted_add_strangers_le {ids : List Int}
    (h : ∀ ns ∈ db.namespaces, ns.id ∈ ids → ns.workspaceID = w) :
    (db.namespaces.count fun ns => ns.id ∈ ids) + strangers db w ids ≤ ids.length := by
  have hnodup : ((db.namespaces.select fun ns => ns.id ∈ ids).map key).Nodup :=
    db.namespaces.nodup.sublist (List.filter_sublist.map key)
  have hsub : (db.namespaces.select fun ns => ns.id ∈ ids).map key ⊆ ids.filter fun id => OwnedBy db id w := by
    intro id hid
    obtain ⟨ns, hns, rfl⟩ := List.mem_map.1 hid
    obtain ⟨hmem, hin⟩ := Table.mem_select.1 hns
    have hin : ns.id ∈ ids := by simpa using hin
    have hown : OwnedBy db ns.id w :=
      (ownedBy_iff (Table.get?_eq_some_iff.2 ⟨hmem, rfl⟩)).2 (h ns hmem hin)
    exact List.mem_filter.2 ⟨hin, by simpa using hown⟩
  have hle := (List.subperm_of_subset hnodup hsub).length_le
  have hcount : (db.namespaces.count fun ns => ns.id ∈ ids) =
      ((db.namespaces.select fun ns => ns.id ∈ ids).map key).length := by
    rw [List.length_map]
    exact List.countP_eq_length_filter
  have hsplit := List.length_eq_countP_add_countP (fun id => decide (OwnedBy db id w)) (l := ids)
  have hstrangers : strangers db w ids = ids.countP fun id => ¬ (decide (OwnedBy db id w) = true) := by
    simp [strangers]
  rw [← List.countP_eq_length_filter] at hle
  omega

theorem batchConfined_iff (ids : List Int) (db : DB) :
    BatchConfined ctx ids db ↔ BatchAddresses ctx ids db := by
  rw [BatchConfined, BatchAddresses]
  cases hdry : ctx.dryRun with
  | true =>
    have hrun : (NamespaceOps.batchDelete ctx ids).run db = (.ok ⟨ids.length, 0, []⟩, db) := by
      simp [NamespaceOps.batchDelete, hdry]
    simp only [M.exec, M.result, hrun, and_iff_right (sameOutside_refl _ db), if_true]
    simp [strangers, List.countP_eq_zero]
  | false =>
    have hop : (NamespaceOps.batchDelete ctx ids).run db = match ids.findSome? (blockedErr db) with
        | some e => (.error e, db)
        | none => (.ok ⟨db.namespaces.count fun ns => ns.id ∈ ids,
            ids.length - db.namespaces.count fun ns => ns.id ∈ ids, []⟩, dropNamespaces ids db) := by
      simp only [NamespaceOps.batchDelete, hdry, Bool.false_eq_true, if_false, run_bind, run_checkAll]
      cases ids.findSome? (blockedErr db) with
      | some e => rfl
      | none => simp [domainErr, run_mapErr, run_deleteByIDs]
    cases hblock : ids.findSome? (blockedErr db) with
    | some e =>
      rw [hblock] at hop
      simp [M.exec, M.result, hop, and_iff_right (sameOutside_refl _ db)]
    | none =>
      rw [hblock] at hop
      simp only [M.exec, M.result, hop, Bool.false_eq_true, if_false, sameOutside_dropNamespaces_iff,
        forall_ownedBy_or_absent_iff]
      refine and_iff_left_of_imp fun h => ?_
      have := deleted_add_strangers_le h
      omega

/-- An operation at the URL of a workspace is confined to it exactly if the ids it is given are the
workspace's own or nobody's, as `Addresses` and `BatchAddresses` say. -/
theorem namespace_ops_confined_iff (ctx : Ctx) (db : DB) :
    (∀ id op, ItemOp.Confined ctx id op db ↔ ItemOp.Addresses ctx id op db) ∧
      ∀ ids, BatchConfined ctx ids db ↔ BatchAddresses ctx ids db :=
  ⟨fun id op => ItemOp.confined_iff ctx id op db, fun ids => batchConfined_iff ctx ids db⟩

/-! A namespace of another workspace. -/

def namespacesDef (db : DB) : ResourceDef where
  group := "iam"
  version := ""
  name := "namespaces"
  scopes := scopePlatform ||| scopeWorkspace
  ancestors := []
  idParam := ""
  ops := { list := true, get := true, create := true, update := true, patch := true, delete := true,
           batchDelete := true }
  actions := []
  verbs := []
  singletonGet := false
  permissionTargets := []
  sensitive := false
  extraAllow := none
  listAccessScope := "namespaces"
  permScope := scopeNamespace
  itemScopeResolver := some fun id => ⟨scopeNamespace, (db.workspaceOf id).getD 0, id⟩

def namespace5 : NamespaceRow := ⟨5, "globex-dev", "", "", 2, 8, "private", 0, "active", none⟩

def globex : DB := { DB.empty with namespaces := .ofRows [namespace5] 6 (by decide) }

def ctxOfNamespace5 : Ctx := ⟨⟨7, "ana"⟩, ⟨scopeWorkspace, 1, 0⟩, 5, [], [], false, some 7⟩

/-- `DELETE /workspaces/1/namespaces/5` deletes a namespace of workspace 2. -/
theorem foreign_namespace_deleted :
    buildCtx ⟨[("workspaceId", "1"), ("namespaceId", "5")], [], some 7, "ana"⟩
        ((namespacesDef globex).routeMeta scopeWorkspace "delete" true) = .ok ctxOfNamespace5 ∧
      ¬ ItemOp.delete.Confined ctxOfNamespace5 5 globex := by
  refine ⟨by decide, ?_⟩
  rintro ⟨hsame, -⟩
  exact absurd ((hsame namespace5 (by decide)).2 (by decide)) (by decide)

end Vraxel.Iam
