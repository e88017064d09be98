import Vraxel.Lib.Faults
import Vraxel.Iam.ConcurrentRoles
/-
  Creations and updates of roles, when a statement of them can fail.
-/

namespace Vraxel.Iam

open Relational Api Db Txn ApiServer Strconv Interleave

namespace PgRoleStore

theorem allOrNothing_create (p : CreateRoleParams) : AllOrNothing id (create p) := by
  refine AllOrNothing.mapErr (fun db => ?_) _
  rcases Slot.insert_cases rolesTable (createRoleChecks p) p.row db with h | ⟨e, h⟩
  · exact .inr ⟨_, congrArg Prod.fst h⟩
  · exact .inl (congrArg Prod.snd h)

def retitled (displayName description : String) (r : RoleRow) : RoleRow :=
  { r with displayName := displayName, description := description }

theorem run_update_cases (id : Int) (displayName description : String) (db : DB) :
    (∃ e, (update id displayName description).run db = (.error e, db)) ∨
    ∃ row, (update id displayName description).run db =
        (.ok row, setRoles (db.roles.update (fun r => r.id = id) (retitled displayName description)) db) ∧
      ∃ r ∈ db.roles, r.id = id := by
  have hstmt := Slot.update_cases rolesTable (fun r => r.id = id) (fun _ => firstViolation [varchar 255 displayName])
    (retitled displayName description) db
  rcases hstmt with ⟨n, h⟩ | ⟨e, h⟩
  · have hupd : (Db.updateRole id displayName description).run db =
        (.ok ((db.roles.update (fun r => r.id = id) (retitled displayName description)).get? id),
          setRoles (db.roles.update (fun r => r.id = id) (retitled displayName description)) db) := run_bind_of_ok h
    cases hrow : (db.roles.update (fun r => r.id = id) (retitled displayName description)).get? id with
    | none =>
      -- no role has the id, so nothing was written
      have hno : ∀ r ∈ db.roles, decide (r.id = id) = false := by
        intro r hr
        rw [decide_eq_false_iff_not]
        intro hid
        refine Table.get?_eq_none_iff.1 hrow _ (Table.mem_update.2 ⟨r, hr, rfl⟩) ?_
        rw [if_pos (by simpa using hid)]
        exact hid
      refine .inl ⟨.tagged ("role " ++ formatInt id) .notFound, ?_⟩
      rw [update, run_bind, run_mapErr, hupd, hrow, Table.update_eq_self hno]
      rfl
    | some row =>
      obtain ⟨hmem, hid⟩ := Table.get?_eq_some_iff.1 hrow
      obtain ⟨r, hr, hrow'⟩ := Table.mem_update.1 hmem
      refine .inr ⟨row, ?_, r, hr, ?_⟩
      · rw [update, run_bind, run_mapErr, hupd, hrow]
        rfl
      · rw [← hid, hrow']
        split <;> rfl
  · refine .inl ⟨(checkPG e).wrap "update role", ?_⟩
    have hupd : (Db.updateRole id displayName description).run db = (.error e, db) := run_bind_of_error h
    rw [update, run_bind, run_mapErr, hupd]

/-- The rules of the role are the patterns, those of the others stay, and nothing else changes. -/
structure Replaced (id : Int) (patterns : List String) (db db' : DB) : Prop where
  roles : db'.roles = db.roles
  own : ∀ pattern, ⟨id, pattern⟩ ∈ db'.rolePermissionRules ↔ pattern ∈ patterns
  others : ∀ r, r.roleID ≠ id → (r ∈ db'.rolePermissionRules ↔ r ∈ db.rolePermissionRules)

theorem addRolePermissionRule_ok {id : Int} {pattern : String} {db db' : DB}
    (h : (addRolePermissionRule id pattern).run db = (.ok (), db')) : db'.roles = db.roles ∧
      ∀ r, r ∈ db'.rolePermissionRules ↔ r ∈ db.rolePermissionRules ∨ r = ⟨id, pattern⟩ := by
  rw [addRolePermissionRule, stmt_ok_iff] at h
  split at h
  · rename_i hmem
    cases h
    refine ⟨rfl, fun r => ⟨.inl, ?_⟩⟩
    rintro (hr | rfl)
    · exact hr
    · exact hmem
  · rcases hchk : firstViolation [varchar 255 pattern, (references db.roles (some id),
        foreignKeyViolation "role_permission_rules" "role_id" id "roles")] with e | u <;> rw [hchk] at h <;> cases h
    exact ⟨rfl, fun r => by simp⟩

theorem forEach_addRolePermissionRule_ok {id : Int} {patterns : List String} {db db' : DB}
    (h : (forEach patterns fun pattern =>
      mapErr (·.wrap ("add rule " ++ quote pattern)) (addRolePermissionRule id pattern)).run db = (.ok (), db')) :
    db'.roles = db.roles ∧ ∀ r, r ∈ db'.rolePermissionRules ↔
      r ∈ db.rolePermissionRules ∨ r.roleID = id ∧ r.pattern ∈ patterns := by
  induction patterns generalizing db with
  | nil =>
    cases h
    simp
  | cons p ps ih =>
    obtain ⟨u, db₁, hadd, hrest⟩ := bind_ok_iff.1 h
    obtain ⟨hroles, hrules⟩ := ih hrest
    obtain ⟨hroles₁, hrules₁⟩ := addRolePermissionRule_ok (mapErr_ok_iff.1 hadd)
    refine ⟨hroles.trans hroles₁, fun r => ?_⟩
    have heq : r = ⟨id, p⟩ ↔ r.roleID = id ∧ r.pattern = p := by
      cases r
      simp
    rw [hrules, hrules₁, heq, List.mem_cons, or_assoc, ← and_or_left]

theorem replaced_of_setPermissionRules {id : Int} {patterns : List String} {db db' : DB}
    (h : (setPermissionRules id patterns).run db = (.ok (), db')) : Replaced id patterns db db' := by
  rw [setPermissionRules, atomically_ok_iff] at h
  obtain ⟨u, db₁, hdel, hadd⟩ := bind_ok_iff.1 h
  cases hdel
  obtain ⟨hroles, hrules⟩ := forEach_addRolePermissionRule_ok hadd
  refine ⟨hroles, fun pattern => (hrules _).trans ?_, fun r hr => (hrules r).trans ?_⟩
  · simp
  · simp [hr]

end PgRoleStore

namespace ConcurrentRoles

variable (codeScopes : List PermissionCodeScope)

abbrev failing {α : Type} (p : RoleM α) : M (Faulty DB Err) Err α := p.faulty (RoleStmt.sem codeScopes)

def SameRoles (db db' : DB) : Prop :=
  (∀ r, r ∈ db'.roles ↔ r ∈ db.roles) ∧ ∀ r, r ∈ db'.rolePermissionRules ↔ r ∈ db.rolePermissionRules

theorem SameRoles.of_eq {db db' : DB} (h : db' = db) : SameRoles db db' := by
  subst h
  exact ⟨fun _ => Iff.rfl, fun _ => Iff.rfl⟩

def HasRules (id : Int) (rules : List String) (db : DB) : Prop :=
  ∀ pattern, ⟨id, pattern⟩ ∈ db.rolePermissionRules ↔ pattern ∈ rules

variable (w : RoleWrite)

namespace RoleWrite

/-- The role that `db` did not have, or that the update names, is in `db'` with the rules of the
request. -/
def Stored (db db' : DB) : Prop :=
  match w with
  | create parts role => ∃ i, (∀ r ∈ db.roles, r.id ≠ i) ∧
    { (params parts role).row with id := i } ∈ db'.roles ∧ HasRules i role.spec.rules db'
  | update _ _ id role => (∃ r ∈ db'.roles, r.id = id) ∧ HasRules id role.spec.rules db'

def SameTexts (db : DB) : Prop :=
  match w with
  | create _ _ => False
  | update _ _ id role => ∀ r ∈ db.roles, r.id = id →
    r.displayName = role.spec.displayName ∧ r.description = role.spec.description

/-- An operation that fails leaves the roles and their rules as they were, and one that succeeds
leaves the role with the rules of the request. -/
def Whole (ctx : Ctx) (w : RoleWrite) (s : Faulty DB Err) : Prop :=
  match (failing codeScopes (w.prog ctx)).run s with
  | (.error _, s') => SameRoles s.1 s'.1
  | (.ok _, s') => w.Stored s.1 s'.1

/-- After the row is written nothing fails; or the role had the texts, and if its rules were
written before the failure also the rules. A dry run finds the role as requested. -/
def Completes (ctx : Ctx) (w : RoleWrite) (s : Faulty DB Err) : Prop :=
  match (failing codeScopes w.checks).run s with
  | (.error _, _) => True
  | (.ok _, s₁) =>
    if ctx.dryRun then w.Stored s.1 s.1
    else match (failing codeScopes w.writeRow).run s₁ with
    | (.error _, _) => True
    | (.ok id, s₂) =>
      match (failing codeScopes (setRules id w.rules)).run s₂ with
      | (.error _, _) => w.SameTexts s.1
      | (.ok _, s₃) =>
        match (failing codeScopes (readBack id)).run s₃ with
        | (.error _, _) => w.SameTexts s.1 ∧ w.Stored s.1 s.1
        | (.ok _, _) => True

variable {codeScopes}

/-! What the parts do. -/

theorem reads_getWithRules (id : Int) : Prog.Reads (RoleStmt.sem codeScopes) (getWithRules id) := by
  refine .bind (.bind (.ask fun _ => rfl) fun role => ?_) fun _ => .bind (.ask fun _ => rfl) fun _ => .done _
  cases role <;> exact .done _

theorem reads_readBack (id : Int) : Prog.Reads (RoleStmt.sem codeScopes) (readBack id) :=
  .bind ((reads_getWithRules id).mapErr _) fun _ => .done _

theorem reads_checks : Prog.Reads (RoleStmt.sem codeScopes) w.checks := by
  have hscopes (scope : Db.Scope) (rules : List String) :
      Prog.Reads (RoleStmt.sem codeScopes) (validateRuleScopes scope rules) :=
    .bind (Prog.Reads.mapErr (.ask fun _ => rfl) _) fun _ => .done _
  cases w with
  | create parts role => exact .bind (.done _) fun _ => hscopes _ _
  | update scope allow id role =>
    exact .bind ((reads_getWithRules id).mapErr _) fun _ => .bind (.done _) fun _ => .bind (.done _) fun _ => hscopes _ _

theorem clean_writeRow : Prog.Clean (RoleStmt.sem codeScopes) w.writeRow := by
  cases w with
  | create parts role => exact (Prog.Clean.mapErr (.ask (PgRoleStore.allOrNothing_create _)) _).answer _
  | update scope allow id role =>
    refine (Prog.Clean.mapErr (.ask fun db => ?_) _).answer _
    rcases PgRoleStore.run_update_cases id role.spec.displayName role.spec.description db with ⟨e, h⟩ | ⟨row, h, -⟩
    · exact .inl (congrArg Prod.snd h)
    · exact .inr ⟨row, congrArg Prod.fst h⟩

theorem clean_setRules (id : Int) (rules : List String) : Prog.Clean (RoleStmt.sem codeScopes) (setRules id rules) := by
  rw [setRules]
  split
  · exact Prog.Clean.mapErr (.ask (AllOrNothing.atomically _)) _
  · exact .of_reads (.done _)

def Written (id : Int) (db db' : DB) : Prop :=
  match w with
  | create parts role => id = db.roles.next ∧ db' = setRoles (db.roles.insert (params parts role).row) db
  | update _ _ i role => id = i ∧ (∃ r ∈ db.roles, r.id = i) ∧
    db' = setRoles (db.roles.update (fun r => r.id = i)
      (PgRoleStore.retitled role.spec.displayName role.spec.description)) db

theorem written_of_ok {w : RoleWrite} {id : Int} {db db' : DB}
    (h : (w.writeRow.alone (RoleStmt.sem codeScopes)).run db = (.ok id, db')) : w.Written id db db' := by
  cases w with
  | create parts role =>
    rw [writeRow, Prog.alone_bind] at h
    obtain ⟨created, db₁, hrow, hlast⟩ := bind_ok_iff.1 h
    cases hlast
    rw [domainErr, Prog.alone_mapErr, mapErr_ok_iff] at hrow
    obtain ⟨-, rfl, rfl⟩ := Slot.insert_ok_iff.1 (mapErr_ok_iff.1 hrow)
    exact ⟨Table.key_inserted db.roles (params parts role).row, rfl⟩
  | update scope allow i role =>
    rw [writeRow, Prog.alone_bind] at h
    obtain ⟨row, db₁, hrow, hlast⟩ := bind_ok_iff.1 h
    cases hlast
    rw [domainErr, Prog.alone_mapErr, mapErr_ok_iff] at hrow
    rcases PgRoleStore.run_update_cases id role.spec.displayName role.spec.description db with
      ⟨e, he⟩ | ⟨row', hrow', hex⟩
    · cases hrow.symm.trans he
    · cases hrow.symm.trans hrow'
      exact ⟨rfl, hex, rfl⟩

section Written

variable {w : RoleWrite} {id : Int} {db db' db'' : DB}

variable (h : w.Written id db db')

include h

theorem Written.rules_eq : db'.rolePermissionRules = db.rolePermissionRules := by
  cases w with
  | create parts role => rw [h.2]; rfl
  | update scope allow i role => rw [h.2.2]; rfl

theorem Written.same_iff : (∀ r, r ∈ db'.roles ↔ r ∈ db.roles) ↔ w.SameTexts db := by
  cases w with
  | create parts role =>
    obtain ⟨-, rfl⟩ := h
    refine iff_of_false (fun hsame => ?_) (fun hfalse => hfalse)
    have hnew := (hsame _).1 (Table.mem_insert.2 (.inr rfl))
    exact Table.key_ne_next hnew (Table.key_inserted db.roles (params parts role).row)
  | update scope allow i role =>
    obtain ⟨-, -, rfl⟩ := h
    let f (r : RoleRow) : RoleRow := if r.id = i then
      PgRoleStore.retitled role.spec.displayName role.spec.description r else r
    have hmem (r : RoleRow) : r ∈ (setRoles (db.roles.update (fun r => r.id = i)
        (PgRoleStore.retitled role.spec.displayName role.spec.description)) db).roles ↔ ∃ r' ∈ db.roles, r = f r' := by
      rw [roles_setRoles, Table.mem_update]
      simp only [f, decide_eq_true_eq]
      rfl
    simp only [hmem]
    constructor
    · intro hsame r hr hid
      have hf := (hsame (f r)).1 ⟨r, hr, rfl⟩
      have heq : f r = r := Table.eq_of_key_eq db.roles hf hr (by simp only [f, if_pos hid]; rfl)
      rw [← heq]
      simp only [f, if_pos hid]
      exact ⟨rfl, rfl⟩
    · intro hsame
      have hf : ∀ r ∈ db.roles, f r = r := by
        intro r hr
        by_cases hid : r.id = i
        · obtain ⟨hname, hdesc⟩ := hsame r hr hid
          simp [f, PgRoleStore.retitled, ← hname, ← hdesc]
        · exact if_neg hid
      intro r
      constructor
      · rintro ⟨r', hr', rfl⟩
        rwa [hf r' hr']
      · exact fun hr => ⟨r, hr, (hf r hr).symm⟩

theorem Written.stored (h' : PgRoleStore.Replaced id w.rules db' db'') : w.Stored db db'' := by
  cases w with
  | create parts role =>
    obtain ⟨rfl, rfl⟩ := h
    refine ⟨_, fun r hr => Table.key_ne_next hr, ?_, h'.own⟩
    rw [h'.roles]
    exact Table.mem_insert.2 (.inr rfl)
  | update scope allow i role =>
    obtain ⟨rfl, ⟨r, hr, hid⟩, rfl⟩ := h
    have hroles := h'.roles
    rw [roles_setRoles] at hroles
    refine ⟨⟨PgRoleStore.retitled role.spec.displayName role.spec.description r, ?_, hid⟩, h'.own⟩
    rw [hroles, Table.mem_update]
    exact ⟨r, hr, by rw [if_pos (by simpa using hid)]; rfl⟩

theorem Written.replaced_same_iff (h' : PgRoleStore.Replaced id w.rules db' db'') :
    SameRoles db db'' ↔ w.SameTexts db ∧ w.Stored db db := by
  rw [SameRoles, h'.roles, h.same_iff]
  refine and_congr_right fun htexts => ?_
  cases w with
  | create parts role => exact htexts.elim
  | update scope allow i role =>
    have hkept := h.rules_eq
    obtain ⟨rfl, hex, -⟩ := h
    refine Iff.trans ?_ (and_iff_right hex).symm
    constructor
    · intro hsame pattern
      rw [← hsame]
      exact h'.own pattern
    · rintro hrules ⟨rid, pattern⟩
      by_cases hid : rid = id
      · rw [hid, h'.own, hrules]
        rfl
      · rw [h'.others _ hid, hkept]

end Written

theorem rules_ne_nil {w : RoleWrite} {s s' : Faulty DB Err} {u : Unit}
    (h : (failing codeScopes w.checks).run s = (.ok u, s')) : w.rules ≠ [] := by
  have hrules : ∀ errs : List FieldError, validated (errs ++ validateRules w.rules) = .ok () → w.rules ≠ [] := by
    intro errs hok hnil
    rw [validated, if_pos (by simp [hnil, validateRules, fieldTest])] at hok
    cases hok
  cases w with
  | create parts role =>
    rw [failing, checks, Prog.faulty_bind] at h
    obtain ⟨v, s₁, hvalid, -⟩ := bind_ok_iff.1 h
    exact hrules _ (lift_ok_iff.1 hvalid).1
  | update scope allow id role =>
    simp only [failing, checks, Prog.faulty_bind] at h
    obtain ⟨existing, s₁, -, h⟩ := bind_ok_iff.1 h
    obtain ⟨v, s₂, -, h⟩ := bind_ok_iff.1 h
    obtain ⟨v', s₃, hvalid, -⟩ := bind_ok_iff.1 h
    exact hrules _ (lift_ok_iff.1 hvalid).1

theorem replaced_of_ok {id : Int} {rules : List String} (hne : rules ≠ []) {db db' : DB} {u : Unit}
    (h : ((setRules id rules).alone (RoleStmt.sem codeScopes)).run db = (.ok u, db')) :
    PgRoleStore.Replaced id rules db db' := by
  rw [setRules, if_pos hne, domainErr, Prog.alone_mapErr, mapErr_ok_iff] at h
  exact PgRoleStore.replaced_of_setPermissionRules h

end RoleWrite

open RoleWrite in
/-- The operation is all or nothing if and only if, once the row is written, nothing fails, or the role
had the texts (and the rules, if they were written) of the request before; and, in a dry run that
succeeds, the role is in place. -/
theorem roleWrite_whole_iff (codeScopes : List PermissionCodeScope) (ctx : Ctx) (w : RoleWrite) (s : Faulty DB Err) :
    w.Whole codeScopes ctx s ↔ w.Completes codeScopes ctx s := by
  simp only [Whole, Completes, failing, RoleWrite.prog, Prog.faulty_bind]
  rcases hchecks : (w.checks.faulty (RoleStmt.sem codeScopes)).run s with ⟨e | u, s₁⟩
  · rw [run_bind_of_error hchecks, hchecks]
    exact iff_of_true (.of_eq ((reads_checks w).store_eq hchecks)) trivial
  have hs₁ : s₁.1 = s.1 := (reads_checks w).store_eq hchecks
  rw [run_bind_of_ok hchecks, hchecks]
  cases ctx.dryRun with
  | true =>
    show w.Stored s.1 s₁.1 ↔ w.Stored s.1 s.1
    rw [hs₁]
  | false =>
    simp only [Bool.false_eq_true, if_false, Prog.faulty_bind]
    rcases (clean_writeRow w).run_cases s₁ with ⟨e, s₂, hrow, heq⟩ | ⟨id, s₂, hrow, hwrite⟩
    · rw [run_bind_of_error hrow, hrow]
      exact iff_of_true (.of_eq (heq.trans hs₁)) trivial
    have hwritten := written_of_ok hwrite
    rw [hs₁] at hwritten
    rw [run_bind_of_ok hrow, hrow]
    dsimp only
    rcases (clean_setRules id w.rules).run_cases s₂ with ⟨e, s₃, hset, heq⟩ | ⟨v, s₃, hset, hsets⟩
    · rw [run_bind_of_error hset, hset]
      dsimp only
      rw [heq, SameRoles, hwritten.rules_eq, hwritten.same_iff]
      exact and_iff_left fun _ => Iff.rfl
    have hreplaced := replaced_of_ok (rules_ne_nil hchecks) hsets
    rw [run_bind_of_ok hset, hset]
    dsimp only
    rcases hback : ((readBack id).faulty (RoleStmt.sem codeScopes)).run s₃ with ⟨e | row, s₄⟩
    · rw [hback]
      dsimp only
      rw [(reads_readBack id).store_eq hback]
      exact hwritten.replaced_same_iff hreplaced
    · rw [hback]
      dsimp only
      rw [(reads_readBack id).store_eq hback]
      exact iff_of_true (hwritten.stored hreplaced) trivial

def readHosts : List PermissionCodeScope := [⟨"compute:hosts:list", .platform⟩]

def reader : RoleWrite :=
  .create ⟨.platform, none, none, chkScope_platform⟩ ⟨"", { name := "reader", rules := ["compute:hosts:list"] }⟩

/-- The role stays, without a rule. -/
theorem row_without_rules : ¬ reader.Whole readHosts ⟨⟨7, "ana"⟩, ⟨scopePlatform, 0, 0⟩, 0, [], [], false, some 7⟩
    (DB.redWorkspace, [none, none, some (.plain "connection lost")]) := by
  intro h
  have hroles := (show SameRoles DB.redWorkspace _ from h).1
  exact absurd ((hroles ⟨1, "reader", "", "", .platform, none, none, false, chkScope_platform⟩).1 (by decide)) (by decide)

end ConcurrentRoles

end Vraxel.Iam
