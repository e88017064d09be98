import Vraxel.Iam.RoleBindings
/-
  What granting roles does to the bindings.
-/

namespace Vraxel.Iam

open Relational Api Db Txn ApiServer Strconv

/-- From `db` to `db'` the rows are granted, and nothing else happens. -/
structure Granted (rows : List RoleBindingRow) (db db' : DB) : Prop where
  frame : db' = { db with roleBindings := db'.roleBindings }
  kept : ∀ b ∈ db.roleBindings, b ∈ db'.roleBindings
  new : ∀ b ∈ db'.roleBindings, b ∈ db.roleBindings ∨ ∃ row ∈ rows, ∃ i, b = { row with id := i }
  all : ∀ row ∈ rows, ∃ b ∈ db'.roleBindings, b.sameGrant row

namespace Granted

variable {rows rows' : List RoleBindingRow} {db db' db'' : DB}

theorem nil (db : DB) : Granted [] db db :=
  ⟨rfl, fun _ h => h, fun _ h => .inl h, fun _ h => absurd h List.not_mem_nil⟩

variable (h : Granted rows db db')

include h

theorem append (h' : Granted rows' db' db'') : Granted (rows ++ rows') db db'' where
  frame := h'.frame.trans (congrArg (fun d : DB => { d with roleBindings := db''.roleBindings }) h.frame)
  kept b hb := h'.kept b (h.kept b hb)
  new b hb := by
    rcases h'.new b hb with hb | ⟨row, hrow, i, rfl⟩
    · rcases h.new b hb with hb | ⟨row, hrow, i, rfl⟩
      · exact .inl hb
      · exact .inr ⟨row, List.mem_append_left _ hrow, i, rfl⟩
    · exact .inr ⟨row, List.mem_append_right _ hrow, i, rfl⟩
  all row hrow := by
    rcases List.mem_append.1 hrow with hrow | hrow
    · obtain ⟨b, hb, hsame⟩ := h.all row hrow
      exact ⟨b, h'.kept b hb, hsame⟩
    · exact h'.all row hrow

theorem roles_eq : db'.roles = db.roles := by rw [h.frame]

theorem users_eq : db'.users = db.users := by rw [h.frame]

theorem workspaces_eq : db'.workspaces = db.workspaces :=
  by rw [h.frame]

theorem namespaces_eq : db'.namespaces = db.namespaces :=
  by rw [h.frame]

theorem roleBindingRefs_eq (row : RoleBindingRow) :
    roleBindingRefs row db' = roleBindingRefs row db := by
  simp [roleBindingRefs, h.users_eq, h.roles_eq, h.workspaces_eq, h.namespaces_eq]

end Granted

/-- The row can be granted: it is there already, or its foreign keys hold. -/
def Grantable (db : DB) (row : RoleBindingRow) : Prop :=
  db.roleBindings.exists? (·.sameGrant row) ∨ roleBindingRefs row db = .ok ()

instance (db : DB) (row : RoleBindingRow) : Decidable (Grantable db row) :=
  inferInstanceAs (Decidable (_ ∨ _))

theorem sameGrant_withID (row : RoleBindingRow) (i : Int) :
    RoleBindingRow.sameGrant { row with id := i } row := by
  simp only [RoleBindingRow.sameGrant]
  cases row.scope <;> simp

theorem granted_insert (row : RoleBindingRow) (db : DB) :
    Granted [row] db { db with roleBindings := db.roleBindings.insert row } where
  frame := rfl
  kept b hb := Table.mem_insert.2 (.inl hb)
  new b hb := (Table.mem_insert.1 hb).imp_right fun h => ⟨row, List.mem_singleton_self row, _, h⟩
  all r hr := by
    rw [List.mem_singleton.1 hr]
    exact ⟨_, Table.mem_insert.2 (.inr rfl), sameGrant_withID row _⟩

variable {row : RoleBindingRow} {rows? : Option (List RoleBindingRow)} {db : DB}

theorem granted_self (h : db.roleBindings.exists? (·.sameGrant row)) :
    Granted [row] db db where
  frame := rfl
  kept _ hb := hb
  new _ hb := .inl hb
  all r hr := by
    rw [List.mem_singleton.1 hr]
    exact Table.exists?_iff.1 h

theorem run_createRoleBindingIfNotExists (h : Grantable db row) :
    ∃ n db', (createRoleBindingIfNotExists row).run db = (.ok n, db') ∧ Granted [row] db db' ∧
      (db' = db ∨ roleBindingRefs row db = .ok () ∧
        db' = { db with roleBindings := db.roleBindings.insert row }) := by
  cases hex : db.roleBindings.exists? (·.sameGrant row) with
  | true => exact ⟨0, db, Slot.insertIfNew_ok_iff.2 (.inl ⟨hex, rfl, rfl⟩), granted_self hex, .inl rfl⟩
  | false =>
    have hrefs : roleBindingRefs row db = .ok () := h.resolve_left (by simp [hex])
    exact ⟨1, _, Slot.insertIfNew_ok_iff.2 (.inr ⟨hex, hrefs, rfl, rfl⟩), granted_insert row db, .inr ⟨hrefs, rfl⟩⟩

theorem run_createRoleBindingIfNotExists_of_not (h : ¬ Grantable db row) :
    ∃ e, (createRoleBindingIfNotExists row).run db = (.error e, db) := by
  rw [Grantable, not_or, Bool.not_eq_true] at h
  cases hrefs : roleBindingRefs row db with
  | ok a => exact absurd hrefs h.2
  | error e =>
    refine ⟨e, ?_⟩
    have hex : (roleBindingsTable.get db).exists? (·.sameGrant row) = false := h.1
    simp only [createRoleBindingIfNotExists, Slot.insertIfNew, M.run, stmt, hex, hrefs]
    rfl

theorem grantable_iff_of_granted {r : RoleBindingRow} (hrefs : roleBindingRefs row db = .ok ())
    (hsame : row.sameGrant r → row = r) :
    Grantable { db with roleBindings := db.roleBindings.insert row } r ↔ Grantable db r := by
  have hg := granted_insert row db
  rw [Grantable, Grantable, hg.roleBindingRefs_eq, Table.exists?_iff, Table.exists?_iff]
  constructor
  · rintro (⟨b, hb, hbr⟩ | h)
    · rcases Table.mem_insert.1 hb with hb | rfl
      · exact .inl ⟨b, hb, hbr⟩
      · exact .inr (hsame hbr ▸ hrefs)
    · exact .inr h
  · exact Or.imp_left fun ⟨b, hb, hbr⟩ => ⟨b, hg.kept b hb, hbr⟩

/-! The rows of a request. -/

/-- What a program leaves that tries to grant the rows together: all of them if
each can be granted, none otherwise. -/
def Attempted (rows : Option (List RoleBindingRow)) (db db' : DB) : Prop :=
  match rows with
  | none => db' = db
  | some rows => if ∀ row ∈ rows, Grantable db row then Granted rows db db' else db' = db

variable {rows : List RoleBindingRow}

theorem Attempted.granted {db' : DB} (h : Attempted (some rows) db db')
    (hall : ∀ row ∈ rows, Grantable db row) : Granted rows db db' := by
  rwa [Attempted, if_pos hall] at h

theorem Attempted.cases {db db' : DB} (h : Attempted rows? db db') :
    db' = db ∨ ∃ rows, rows? = some rows ∧ (∀ row ∈ rows, Grantable db row) ∧ Granted rows db db' := by
  cases rows? with
  | none => exact .inl h
  | some rows =>
    by_cases hall : ∀ row ∈ rows, Grantable db row
    · exact .inr ⟨rows, rfl, hall, h.granted hall⟩
    · rw [Attempted, if_neg hall] at h
      exact .inl h

/-- The program grants the rows together, or fails and changes nothing. -/
def GrantsOrFails (x : DbM Unit) (rows? : Option (List RoleBindingRow)) (db : DB) : Prop :=
  (∃ rows db', rows? = some rows ∧ (∀ row ∈ rows, Grantable db row) ∧
    x.run db = (.ok (), db') ∧ Granted rows db db') ∨
  ((∀ rows, rows? = some rows → ∃ row ∈ rows, ¬ Grantable db row) ∧ ∃ e, x.run db = (.error e, db))

theorem GrantsOrFails.exec_cases {x : DbM Unit}
    (h : GrantsOrFails x rows? db) : x.exec db = db ∨
      ∃ rows, rows? = some rows ∧ (∀ row ∈ rows, Grantable db row) ∧ Granted rows db (x.exec db) := by
  rcases h with ⟨rows, db', hrows, hall, hrun, hg⟩ | ⟨-, e, hrun⟩
  · exact .inr ⟨rows, hrows, hall, by rwa [M.exec, hrun]⟩
  · exact .inl (by rw [M.exec, hrun])

theorem GrantsOrFails.attempted {x : DbM Unit}
    (h : GrantsOrFails x rows? db) : Attempted rows? db (x.exec db) := by
  rcases h with ⟨rows, db', rfl, hall, hrun, hg⟩ | ⟨hno, e, hrun⟩
  · rw [Attempted, if_pos hall, M.exec, hrun]
    exact hg
  · have hexec : x.exec db = db := by rw [M.exec, hrun]
    cases rows? with
    | none => exact hexec
    | some rows =>
      obtain ⟨row, hrow, hnot⟩ := hno rows rfl
      rw [Attempted, if_neg fun hall => hnot (hall row hrow)]
      exact hexec

def DistinctGrants (rows : List RoleBindingRow) : Prop :=
  ∀ row ∈ rows, ∀ r ∈ rows, row.sameGrant r → row = r

variable (place : Place) (ctx : Ctx) (body : Body BatchRequest)

theorem distinctGrants_map (roleID : Int) (userIDs : List Int) :
    DistinctGrants (userIDs.map fun u => place.grant u roleID false) := by
  intro row hrow r hr hsame
  obtain ⟨u, -, rfl⟩ := List.mem_map.1 hrow
  obtain ⟨v, -, rfl⟩ := List.mem_map.1 hr
  have huv : u = v := by
    simp only [RoleBindingRow.sameGrant, Bool.and_eq_true] at hsame
    exact of_decide_eq_true hsame.1.1.2
  rw [huv]

namespace PgRoleBindingStore

theorem run_createAll (hrows : DistinctGrants rows) (db : DB) :
    ((∀ row ∈ rows, Grantable db row) →
      ∃ n db', (createAll rows).run db = (.ok n, db') ∧ Granted rows db db') ∧
    ((∃ row ∈ rows, ¬ Grantable db row) → ∃ e db', (createAll rows).run db = (.error e, db')) := by
  induction rows generalizing db with
  | nil => exact ⟨fun _ => ⟨0, db, rfl, .nil db⟩, fun ⟨_, h, _⟩ => absurd h List.not_mem_nil⟩
  | cons row rows ih =>
    have htail : DistinctGrants rows := fun r hr r' hr' =>
      hrows r (List.mem_cons_of_mem _ hr) r' (List.mem_cons_of_mem _ hr')
    by_cases hrow : Grantable db row
    · obtain ⟨n, db₁, hrun, hg, hdb₁⟩ := run_createRoleBindingIfNotExists hrow
      -- whether a later row can be granted does not depend on this one
      have hiff : ∀ r ∈ rows, (Grantable db₁ r ↔ Grantable db r) := by
        intro r hr
        rcases hdb₁ with rfl | ⟨hrefs, rfl⟩
        · exact Iff.rfl
        · exact grantable_iff_of_granted hrefs (hrows row List.mem_cons_self r (List.mem_cons_of_mem _ hr))
      obtain ⟨hok, herr⟩ := ih htail db₁
      constructor
      · intro hall
        obtain ⟨m, db₂, hrest, hg₂⟩ := hok fun r hr => (hiff r hr).2 (hall r (List.mem_cons_of_mem _ hr))
        refine ⟨n + m, db₂, ?_, hg.append hg₂⟩
        rw [createAll, run_bind_of_ok hrun, run_bind_of_ok hrest]
        rfl
      · rintro ⟨r, hr, hno⟩
        rcases List.mem_cons.1 hr with rfl | hr
        · exact absurd hrow hno
        · obtain ⟨e, db₂, hrest⟩ := herr ⟨r, hr, fun h => hno ((hiff r hr).1 h)⟩
          exact ⟨e, db₂, by rw [createAll, run_bind_of_ok hrun, run_bind_of_error hrest]⟩
    · obtain ⟨e, hrun⟩ := run_createRoleBindingIfNotExists_of_not hrow
      exact ⟨fun hall => absurd (hall row List.mem_cons_self) hrow,
        fun _ => ⟨e, db, by rw [createAll, run_bind_of_error hrun]⟩⟩

theorem attempted_createMany (hrows : DistinctGrants rows) (db : DB) :
    Attempted (some rows) db ((createMany rows).exec db) := by
  obtain ⟨hok, herr⟩ := run_createAll hrows db
  by_cases hnil : rows = []
  · subst hnil
    exact .nil db
  · rw [createMany, if_neg hnil, Attempted, exec_mapErr, M.exec, run_atomically]
    split_ifs with hall
    · obtain ⟨n, db', hrun, hg⟩ := hok hall
      rw [hrun]
      exact hg
    · obtain ⟨e, db', hrun⟩ := herr (by simpa using hall)
      rw [hrun]

theorem allOrNothing_createMany (rows : List RoleBindingRow) : AllOrNothing id (createMany rows) := by
  rw [createMany]
  split
  · exact .of_keeps fun _ => .pure _
  · exact (AllOrNothing.atomically _).mapErr _

theorem granted_of_createMany (hrows : DistinctGrants rows) {db' : DB} {n : Nat}
    (h : (createMany rows).run db = (.ok n, db')) : Granted rows db db' := by
  rw [createMany] at h
  split at h
  · rename_i hnil
    cases h
    rw [hnil]
    exact .nil db
  · rw [mapErr_ok_iff, atomically_ok_iff] at h
    obtain ⟨hok, herr⟩ := run_createAll hrows db
    by_cases hall : ∀ row ∈ rows, Grantable db row
    · obtain ⟨m, db₁, hrun, hg⟩ := hok hall
      rw [h] at hrun
      cases hrun
      exact hg
    · obtain ⟨e, db₁, hrun⟩ := herr (by simpa using hall)
      rw [h] at hrun
      cases hrun

end PgRoleBindingStore

theorem mem_of_parseUserIDs {ids : List String} {userIDs : List Int} (h : parseUserIDs ids = .ok userIDs) :
    ∀ raw ∈ ids, ∃ uid ∈ userIDs, parseInt raw = some uid := by
  induction ids generalizing userIDs with
  | nil => simp
  | cons raw ids ih =>
    rw [parseUserIDs, List.mapM_cons] at h
    cases hraw : parseInt raw with
    | none => simp [hraw, bind, Except.bind] at h
    | some uid =>
      simp only [hraw] at h
      obtain ⟨uid', huid, h⟩ := except_bind_ok_iff.1 h
      obtain ⟨uids, huids, hlast⟩ := except_bind_ok_iff.1 h
      cases huid
      cases hlast
      refine List.forall_mem_cons.2 ⟨⟨uid, List.mem_cons_self, hraw⟩, fun raw' hraw' => ?_⟩
      obtain ⟨uid', hmem, hparse⟩ := ih huids raw' hraw'
      exact ⟨uid', List.mem_cons_of_mem uid hmem, hparse⟩

variable {checkRole : RoleRow → Except Err Unit}

theorem bound_of_batchBindRole {ctx : Ctx} {body : Body BatchRequest} {place : Place} {db' : DB} {r : BatchResult}
    (h : (batchBindRole ctx body place checkRole).run db = (.ok r, db')) (hdry : ctx.dryRun = false) :
    ∃ req roleID, body = .json req ∧ parseInt req.roleID = some roleID ∧ ∀ raw ∈ req.ids, ∃ uid,
      parseInt raw = some uid ∧ ∃ b ∈ db'.roleBindings, b.sameGrant (place.grant uid roleID false) := by
  cases body with
  | malformed message => cases h
  | json req =>
    rw [batchBindRole, decodePatch, lift_ok_bind, hdry] at h
    split at h
    · cases h
    split at h
    · cases h
    cases hrole : parseInt req.roleID with
    | none =>
      rw [hrole] at h
      cases h
    | some roleID =>
      rw [hrole] at h
      obtain ⟨role, db₁, -, h⟩ := bind_ok_iff.1 h
      obtain ⟨u, db₂, -, h⟩ := bind_ok_iff.1 h
      obtain ⟨userIDs, db₃, husers, h⟩ := bind_ok_iff.1 h
      obtain ⟨n, db₄, hmany, hlast⟩ := bind_ok_iff.1 h
      cases hlast
      have hg := PgRoleBindingStore.granted_of_createMany (distinctGrants_map place roleID userIDs)
        (mapErr_ok_iff.1 hmany)
      refine ⟨req, roleID, rfl, hrole, fun raw hraw => ?_⟩
      obtain ⟨uid, huid, hparse⟩ := mem_of_parseUserIDs (lift_ok_iff.1 husers).1 raw hraw
      exact ⟨uid, hparse, hg.all _ (List.mem_map_of_mem huid)⟩

/-- The rows a create request asks for; none if it is a dry run or is refused
before the store is asked. -/
def bindPlan (place : Place) (checkRole : RoleRow → Except Err Unit)
    (db : DB) : Option (List RoleBindingRow) :=
  match body with
  | .malformed _ => none
  | .json req =>
    if req.ids = [] ∨ ctx.dryRun then none
    else match parseInt req.roleID with
    | none => none
    | some roleID => match db.roles.get? roleID with
      | none => none
      | some role => match checkRole role, parseUserIDs req.ids with
        | .ok _, .ok userIDs => some (userIDs.map fun userID => place.grant userID roleID false)
        | _, _ => none

namespace PgRoleStore

theorem run_getByID_some {id : Int} {role : RoleRow} (h : db.roles.get? id = some role) :
    (domainErr (getByID id)).run db = (.ok role, db) := by
  simp [domainErr, run_mapErr, getByID, getRoleByID, h]

theorem run_getByID_none {id : Int} (h : db.roles.get? id = none) :
    ∃ e, (domainErr (getByID id)).run db = (.error e, db) :=
  ⟨_, by simp only [domainErr, run_mapErr, getByID, getRoleByID, run_read_bind, h]; rfl⟩

end PgRoleStore

theorem exec_batchBindRole (place : Place)
    (checkRole : RoleRow → Except Err Unit) (db : DB) :
    (batchBindRole ctx body place checkRole).exec db =
      match bindPlan ctx body place checkRole db with
      | none => db
      | some rows => (PgRoleBindingStore.createMany rows).exec db := by
  cases body with
  | malformed message => rfl
  | json req =>
    rw [M.exec, batchBindRole, bindPlan, decodePatch, lift_ok_bind]
    by_cases hids : req.ids = []
    · simp [hids]
    rw [if_neg hids]
    by_cases hrole : req.roleID = ""
    · have hparse : parseInt req.roleID = none := by rw [hrole]; rfl
      rw [if_pos hrole]
      simp [hparse]
    rw [if_neg hrole]
    cases hparse : parseInt req.roleID with
    | none => simp
    | some roleID =>
      dsimp only
      cases hget : db.roles.get? roleID with
      | none =>
        obtain ⟨e, hrun⟩ := PgRoleStore.run_getByID_none hget
        rw [run_bind_of_error hrun]
        simp
      | some role =>
        rw [run_bind_of_ok (PgRoleStore.run_getByID_some hget)]
        dsimp only
        cases hchk : checkRole role with
        | error e => simp [run_bind]
        | ok _ =>
          rw [lift_ok_bind]
          cases husers : parseUserIDs req.ids with
          | error e => simp [run_bind]
          | ok userIDs =>
            rw [lift_ok_bind]
            cases ctx.dryRun with
            | true => simp
            | false =>
              simp only [Bool.false_eq_true, if_false, hids, or_self]
              exact (exec_bind_of_readsOnly (fun _ _ => rfl) db).trans (exec_mapErr _ _ db)

theorem mem_bindPlan {ctx : Ctx} {body : Body BatchRequest} {place : Place}
    (h : bindPlan ctx body place checkRole db = some rows) :
    ∃ role ∈ db.roles, checkRole role = .ok () ∧
      ∃ userIDs : List Int, rows = userIDs.map fun u => place.grant u role.id false := by
  cases body with
  | malformed message => cases h
  | json req =>
    rw [bindPlan] at h
    split at h
    · cases h
    · cases hparse : parseInt req.roleID with
      | none => simp [hparse] at h
      | some roleID =>
        cases hget : db.roles.get? roleID with
        | none => simp [hparse, hget] at h
        | some role =>
          obtain ⟨hrole, hid⟩ := Table.get?_eq_some_iff.1 hget
          simp only [hparse, hget] at h
          split at h
          · rename_i userIDs hchk _
            cases h
            exact ⟨role, hrole, hchk, userIDs, by rw [← hid]; rfl⟩
          · cases h

theorem attempted_batchBindRole (place : Place)
    (checkRole : RoleRow → Except Err Unit) (db : DB) :
    Attempted (bindPlan ctx body place checkRole db) db ((batchBindRole ctx body place checkRole).exec db) := by
  rw [exec_batchBindRole]
  cases hplan : bindPlan ctx body place checkRole db with
  | none => rfl
  | some rows =>
    obtain ⟨role, -, -, userIDs, rfl⟩ := mem_bindPlan hplan
    exact PgRoleBindingStore.attempted_createMany (distinctGrants_map place role.id userIDs) db

def namespaceBindPlan (db : DB) : Option (List RoleBindingRow) :=
  let nsID := ctx.scope.namespaceID
  (namespaceDetail? db nsID).bind fun ns => bindPlan ctx body (.namespace ns.workspaceID nsID)
    (checkRoleAt .namespace (fun role => role.namespaceID = some nsID) "namespace") db

namespace PgNamespaceStore

theorem run_getByID_some {id : Int} {ns : NamespaceWithOwnerRow} (h : namespaceDetail? db id = some ns) :
    (domainErr (getByID id)).run db = (.ok ns, db) := by
  simp [domainErr, run_mapErr, getByID, getNamespaceByID, h]

theorem run_getByID_none {id : Int} (h : namespaceDetail? db id = none) :
    (domainErr (getByID id)).run db =
      (.error (mapDomain (.tagged ("namespace " ++ formatInt id) .notFound) ""), db) := by
  simp [domainErr, run_mapErr, getByID, getNamespaceByID, h]

end PgNamespaceStore

theorem NamespaceRoleBindingOps.attempted_create (db : DB) :
    Attempted (namespaceBindPlan ctx body db) db ((create ctx body).exec db) := by
  rw [create, namespaceBindPlan, M.exec]
  cases hget : namespaceDetail? db ctx.scope.namespaceID with
  | none =>
    rw [run_bind_of_error (PgNamespaceStore.run_getByID_none hget)]
    rfl
  | some ns =>
    rw [run_bind_of_ok (PgNamespaceStore.run_getByID_some hget)]
    exact attempted_batchBindRole ctx body _ _ db

end Vraxel.Iam
