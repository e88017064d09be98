import Vraxel.Iam.Members
import Vraxel.Lib.Run
/-
  Whether bindings only use roles of their own scope.
-/

namespace Vraxel.Iam

open Relational Api Db Txn ApiServer Strconv

def fits (role : RoleRow) (b : RoleBindingRow) : Bool :=
  role.scope = b.scope &&
    match b.scope with
    | .platform => true
    | .workspace => role.workspaceID = b.workspaceID
    | .namespace => role.namespaceID = b.namespaceID

variable (db : DB)

/-- Every binding names a role of its own place. -/
def RolesFit : Prop := ∀ b ∈ db.roleBindings, ∃ role ∈ db.roles, role.id = b.roleID ∧ fits role b

instance (db : DB) : Decidable (RolesFit db) :=
  inferInstanceAs (Decidable (∀ b ∈ db.roleBindings.rows, ∃ role ∈ db.roles.rows, role.id = b.roleID ∧ fits role b))

inductive BindingAction where
  | addWorkspaceUsers (ctx : Ctx) (body : Body BatchRequest)
  | addNamespaceUsers (ctx : Ctx) (body : Body BatchRequest)
  | bindPlatform (ctx : Ctx) (body : Body BatchRequest)
  | bindWorkspace (ctx : Ctx) (body : Body BatchRequest)
  | bindNamespace (ctx : Ctx) (body : Body BatchRequest)
  | transferOwnership (scope : Db.Scope) (resourceID callerID : Int) (callerIsPlatformAdmin : Bool)
      (newOwnerUserID : Int) (adminRoleName : String)

def BindingAction.step : BindingAction → DB
  | .addWorkspaceUsers ctx body => (WorkspaceUserOps.create ctx body).exec db
  | .addNamespaceUsers ctx body => (NamespaceUserOps.create ctx body).exec db
  | .bindPlatform ctx body => (RoleBindingOps.create ctx body).exec db
  | .bindWorkspace ctx body => (WorkspaceRoleBindingOps.create ctx body).exec db
  | .bindNamespace ctx body => (NamespaceRoleBindingOps.create ctx body).exec db
  | .transferOwnership scope resourceID callerID admin newOwner adminRoleName =>
    (PgRoleBindingStore.transferOwnership scope resourceID callerID admin newOwner adminRoleName).exec db

/-- The request names a role that exists but belongs somewhere else. -/
def NamesForeignRole (req : BatchRequest) (place : Place) : Prop :=
  ∃ role ∈ db.roles, parseInt req.roleID = some role.id ∧ fits role (place.grant 0 role.id false) = false

/-- The addition binds a role of another place in the workspace: it names one, the
workspace exists and so does the first user. -/
def AddsForeignToWorkspace (w : Int) (req : BatchRequest) : Prop :=
  NamesForeignRole db req (.workspace w) ∧ references db.workspaces (some w) ∧ (firstUser? db req.ids).isSome

/-- The same for a namespace, whose member limit and whose workspace's member role
come before. -/
def AddsForeignToNamespace (n : Int) (req : BatchRequest) : Prop :=
  ∃ ns, namespaceDetail? db n = some ns ∧
    ¬ NamespaceUserOps.ExceedsLimit db ns n req.ids.length ∧
    NamesForeignRole db req (.namespace ns.workspaceID n) ∧
    (workspaceRole? db roleWorkspaceMember ns.workspaceID).isSome ∧ (firstUser? db req.ids).isSome

def Safe : BindingAction → Prop
  | .addWorkspaceUsers ctx body => ∀ req, body = .json req → ¬ AddsForeignToWorkspace db ctx.scope.workspaceID req
  | .addNamespaceUsers ctx body => ∀ req, body = .json req → ¬ AddsForeignToNamespace db ctx.scope.namespaceID req
  | _ => True

/-! Bindings that fit. -/

variable {role : RoleRow} {row : RoleBindingRow} {db' : DB} {req : BatchRequest} {place : Place}
    {roleID : Int} {scope : Db.Scope} {db : DB}

theorem fits_of_sameGrant {b : RoleBindingRow} (h : b.sameGrant row) :
    fits role b = fits role row := by
  simp only [RoleBindingRow.sameGrant, Bool.and_eq_true, decide_eq_true_eq] at h
  obtain ⟨⟨⟨hscope, -⟩, -⟩, hid⟩ := h
  rw [fits, fits, hscope]
  cases hs : row.scope <;> rw [hs] at hid <;> simp_all

theorem fits_grant (role : RoleRow) (place : Place) (u r v s : Int) :
    fits role (place.grant u r false) = fits role (place.grant v s false) := rfl

/-- A row names a role of its own place. -/
def Fitted (db : DB) (row : RoleBindingRow) : Prop := ∃ role ∈ db.roles, role.id = row.roleID ∧ fits role row

theorem RolesFit.granted {rows : List RoleBindingRow} (h : RolesFit db)
    (hg : Granted rows db db')
    (hrows : ∀ row ∈ rows, Fitted db row) : RolesFit db' := by
  intro b hb
  rw [hg.roles_eq]
  rcases hg.new b hb with hb | ⟨row, hrow, i, rfl⟩
  · exact h b hb
  · exact hrows row hrow

theorem not_rolesFit_of_mem {b : RoleBindingRow} (hb : b ∈ db.roleBindings)
    (hrole : role ∈ db.roles) (hid : role.id = b.roleID) (hfit : fits role b = false) : ¬ RolesFit db := by
  intro h
  obtain ⟨role', hrole', hid', hfit'⟩ := h b hb
  have heq : role' = role := Table.eq_of_key_eq _ hrole' hrole (hid'.trans hid.symm)
  rw [heq, hfit] at hfit'
  cases hfit'

theorem RolesFit.of_sameGrant (h : RolesFit db)
    (hex : db.roleBindings.exists? (·.sameGrant row)) :
    Fitted db row := by
  obtain ⟨b, hb, hsame⟩ := Table.exists?_iff.1 hex
  obtain ⟨role, hrole, hid, hfit⟩ := h b hb
  have hrow : b.roleID = row.roleID := by
    simp only [RoleBindingRow.sameGrant, Bool.and_eq_true, decide_eq_true_eq] at hsame
    exact hsame.1.2
  exact ⟨role, hrole, hid.trans hrow, by rwa [← fits_of_sameGrant hsame]⟩

theorem roleBindingRefs_eq_ok_iff :
    roleBindingRefs row db = .ok () ↔ (∃ u ∈ db.users, u.id = row.userID) ∧
      (∃ role ∈ db.roles, role.id = row.roleID) ∧ references db.workspaces row.workspaceID ∧
        references db.namespaces row.namespaceID := by
  simp [roleBindingRefs, firstViolation_eq_ok_iff, references_some_iff]

theorem RolesFit.of_grantable (h : RolesFit db) (hg : Grantable db row)
    (hrow : ∀ role ∈ db.roles, role.id = row.roleID → fits role row) :
    Fitted db row := by
  rcases hg with hex | hrefs
  · exact h.of_sameGrant hex
  · obtain ⟨-, ⟨role, hrole, hid⟩, -⟩ := roleBindingRefs_eq_ok_iff.1 hrefs
    exact ⟨role, hrole, hid, hrow role hrole hid⟩

section Additions

variable {addFn : Int → DbM Unit} {rowsOf : DB → Int → Option (List RoleBindingRow)}
  {ids : List String}

variable (hadd : ∀ d uid, GrantsOrFails (addFn uid) (rowsOf d uid) d)

include hadd

theorem RolesFit.batch (h : RolesFit db)
    (hrows : ∀ d uid rows, d.roles = db.roles → RolesFit d → rowsOf d uid = some rows →
      (∀ row ∈ rows, Grantable d row) → ∀ row ∈ rows, Fitted d row) :
    RolesFit ((batchAddUsers addFn ids).exec db) := by
  have hkeep : Keeps (fun d => RolesFit d ∧ d.roles = db.roles) (batchAddUsers addFn ids) := by
    refine batchAddUsers_keeps (fun uid d hd => ?_) ids
    rcases (hadd d uid).exec_cases with heq | ⟨rows, hsome, hall, hg⟩
    · rwa [heq]
    · exact ⟨hd.1.granted hg (hrows d uid rows hd.2 hd.1 hsome hall), hg.roles_eq.trans hd.2⟩
  exact (hkeep db ⟨h, rfl⟩).1

theorem not_rolesFit_batch {uid : Int}
    (hfirst : firstUser? db ids = some uid) {rows : List RoleBindingRow} (hrows : rowsOf db uid = some rows)
    (hall : ∀ row ∈ rows, Grantable db row) {row : RoleBindingRow} (hrow : row ∈ rows) {role : RoleRow}
    (hrole : role ∈ db.roles) (hid : role.id = row.roleID) (hfit : fits role row = false) :
    ¬ RolesFit ((batchAddUsers addFn ids).exec db) := by
  rcases hadd db uid with ⟨rows', db', hrows', -, hrun, hg⟩ | ⟨hno, -⟩
  · rw [hrows] at hrows'
    cases hrows'
    obtain ⟨b, hb, hsame⟩ := hg.all row hrow
    have hkeep : Keeps (fun d => b ∈ d.roleBindings ∧ d.roles = db.roles) (batchAddUsers addFn ids.tail) := by
      refine batchAddUsers_keeps (fun uid d hd => ?_) _
      rcases (hadd d uid).exec_cases with heq | ⟨rows, -, -, hg⟩
      · rwa [heq]
      · exact ⟨hg.kept b hd.1, hg.roles_eq.trans hd.2⟩
    obtain ⟨hmem, hroles⟩ := hkeep db' ⟨hb, hg.roles_eq⟩
    have hb_id : row.roleID = b.roleID := by
      simp only [RoleBindingRow.sameGrant, Bool.and_eq_true, decide_eq_true_eq] at hsame
      exact hsame.1.2.symm
    rw [exec_batchAddUsers_of_ok hfirst hrun]
    exact not_rolesFit_of_mem hmem (hroles ▸ hrole) (hid.trans hb_id) (by rwa [fits_of_sameGrant hsame])
  · obtain ⟨r, hr, hnot⟩ := hno rows hrows
    exact absurd (hall r hr) hnot

theorem exec_batch_of_not_grantable
    (hfirst : ∀ uid, firstUser? db ids = some uid →
      ∀ rows, rowsOf db uid = some rows → ∃ row ∈ rows, ¬ Grantable db row) :
    (batchAddUsers addFn ids).exec db = db := by
  cases huser : firstUser? db ids with
  | none => exact exec_batchAddUsers_of_none huser
  | some uid =>
    rcases hadd db uid with ⟨rows, db', hrows, hall, -⟩ | ⟨-, e, hrun⟩
    · obtain ⟨row, hrow, hnot⟩ := hfirst uid huser rows hrows
      exact absurd (hall row hrow) hnot
    · exact exec_batchAddUsers_of_error huser hrun

end Additions

theorem exists_user_of_firstUser {ids : List String} {uid : Int} (h : firstUser? db ids = some uid) :
    ∃ u ∈ db.users, u.id = uid := by
  cases ids with
  | nil => cases h
  | cons raw ids =>
    rw [firstUser?, Option.filter_eq_some_iff] at h
    obtain ⟨u, hu⟩ := Option.isSome_iff_exists.1 h.2
    exact ⟨u, Table.get?_eq_some_iff.1 hu⟩

theorem workspaceRole?_fits {name : String} {w u : Int}
    (h : workspaceRole? db name w = some role) :
    role ∈ db.roles ∧ fits role ((Place.workspace w).grant u role.id false) := by
  obtain ⟨hrole, hp⟩ := Table.find?_some h
  simp only [Bool.and_eq_true, decide_eq_true_eq] at hp
  exact ⟨hrole, by simp [fits, Place.grant, Place.scope, Place.workspaceID, hp.1.2, hp.2]⟩

theorem namespaceRole?_fits {name : String} {w n u : Int}
    (h : namespaceRole? db name n = some role) :
    role ∈ db.roles ∧ fits role ((Place.namespace w n).grant u role.id false) := by
  obtain ⟨hrole, hp⟩ := Table.find?_some h
  simp only [Bool.and_eq_true, decide_eq_true_eq] at hp
  exact ⟨hrole, by simp [fits, Place.grant, Place.scope, Place.namespaceID, hp.1.2, hp.2]⟩

theorem RolesFit.of_request {d : DB} {r u : Int}
    {default : Option RoleRow} (hreq : requestRole req = .ok roleID)
    (hforeign : ¬ NamesForeignRole db req place) (hroles : d.roles = db.roles) (hfit : RolesFit d)
    (hdefault : ∀ role, default = some role →
      role ∈ d.roles ∧ fits role (place.grant u role.id false))
    (hr : memberRole roleID default = some r) (hg : Grantable d (place.grant u r false)) :
    ∃ role ∈ d.roles, role.id = r ∧ fits role (place.grant u r false) := by
  rw [memberRole] at hr
  split at hr
  · cases hr
    rename_i hne
    refine hfit.of_grantable hg fun role hrole hid => ?_
    by_contra hno
    refine hforeign ⟨role, hroles ▸ hrole, ?_, by
      rw [fits_grant role place 0 role.id u roleID]
      simpa using hno⟩
    rcases requestRole_eq_ok hreq with h0 | hparse
    · exact absurd h0 hne
    · rw [hparse, hid]
      rfl
  · obtain ⟨role, hdef, rfl⟩ := Option.map_eq_some_iff.1 hr
    obtain ⟨hrole, hfits⟩ := hdefault role hdef
    exact ⟨role, hrole, rfl, hfits⟩

theorem memberRole_of_foreign
    {default : Option RoleRow} (hreq : requestRole req = .ok roleID) (hrole : role ∈ db.roles)
    (hparse : parseInt req.roleID = some role.id) : memberRole roleID default = some role.id := by
  have hid : roleID = role.id := by
    rw [requestRole_of_parse hparse] at hreq
    cases hreq
    rfl
  have hne : role.id ≠ 0 := (Table.key_pos hrole).ne'
  rw [memberRole, hid, if_pos hne]

theorem not_namesForeignRole_of_error {e : Err}
    (hreq : requestRole req = .error e) : ¬ NamesForeignRole db req place := by
  rintro ⟨role, -, hparse, -⟩
  rw [requestRole_of_parse hparse] at hreq
  cases hreq

theorem checkRoleAt_eq_ok {belongs : RoleRow → Bool} {place : String}
    (h : checkRoleAt scope belongs place role = .ok ()) : role.scope = scope ∧ belongs role := by
  rw [checkRoleAt] at h
  split_ifs at h with hscope hbelongs
  exact ⟨not_not.1 hscope, by simpa using hbelongs⟩

theorem clearOwner_ok {id : Int} {a : Unit}
    (h : (PgRoleBindingStore.clearOwner scope id).run db = (.ok a, db')) : ∃ p, db' =
      { db with roleBindings := db.roleBindings.update p fun b => { b with isOwner := false } } := by
  have hclear (s : Db.Scope) (h : (clearScopeOwner s id).run db = (.ok a, db')) : ∃ p, db' =
      { db with roleBindings := db.roleBindings.update p fun b => { b with isOwner := false } } := by
    simp only [clearScopeOwner, bind_ok_iff, Slot.update_ok_iff, pure_ok_iff] at h
    obtain ⟨_, _, ⟨-, -, rfl⟩, -, rfl⟩ := h
    exact ⟨_, rfl⟩
  rw [PgRoleBindingStore.clearOwner] at h
  split at h
  · exact hclear .workspace h
  · exact hclear .namespace h

theorem lookupAdminRoleID_ok {id : Int} {name : String}
    (h : (PgRoleBindingStore.lookupAdminRoleID scope id name).run db = (.ok roleID, db')) :
    db' = db ∧ ∃ role ∈ db.roles, role.id = roleID ∧
      (scope = .workspace → ∀ u, fits role ((Place.workspace id).grant u roleID true)) ∧
      (scope ≠ .workspace → ∀ w u, fits role ((Place.namespace w id).grant u roleID true)) := by
  rw [PgRoleBindingStore.lookupAdminRoleID, bind_ok_iff] at h
  obtain ⟨role, d, hrole, hrun⟩ := h
  cases role with
  | none => simp at hrun
  | some role =>
    obtain ⟨rfl, rfl⟩ := hrun
    by_cases hscope : scope = .workspace
    · rw [if_pos hscope, getRoleByNameAndWorkspace, run_read, Prod.mk.injEq, Except.ok.injEq] at hrole
      obtain ⟨hrole, rfl⟩ := hrole
      exact ⟨rfl, role, (workspaceRole?_fits (u := 0) hrole).1, rfl, fun _ u => (workspaceRole?_fits (u := u) hrole).2,
        fun hne => absurd hscope hne⟩
    · rw [if_neg hscope, getRoleByNameAndNamespace, run_read, Prod.mk.injEq, Except.ok.injEq] at hrole
      obtain ⟨hrole, rfl⟩ := hrole
      exact ⟨rfl, role, (namespaceRole?_fits (w := 0) (u := 0) hrole).1, rfl, fun h => absurd h hscope,
        fun _ w u => (namespaceRole?_fits (w := w) (u := u) hrole).2⟩

variable (h : RolesFit db)

include h

theorem RolesFit.grantable_iff
    (hrole : role ∈ db.roles) (hfit : fits role (place.grant 0 role.id false) = false) {uid : Int}
    (huser : ∃ u ∈ db.users, u.id = uid) : Grantable db (place.grant uid role.id false) ↔
      references db.workspaces place.workspaceID ∧ references db.namespaces place.namespaceID := by
  have hno : ¬ db.roleBindings.exists? (·.sameGrant (place.grant uid role.id false)) := by
    intro hex
    obtain ⟨role', hrole', hid', hfit'⟩ := h.of_sameGrant hex
    have heq : role' = role := Table.eq_of_key_eq _ hrole' hrole hid'
    rw [heq, fits_grant role place uid role.id 0 role.id, hfit] at hfit'
    cases hfit'
  rw [Grantable, or_iff_right hno, roleBindingRefs_eq_ok_iff]
  exact ⟨fun hrefs => hrefs.2.2, fun hrefs => ⟨huser, ⟨role, hrole, rfl⟩, hrefs⟩⟩

/-- An addition in a place. What it binds a user with a foreign role of the request is there and
can be granted exactly if `room` holds. -/
theorem rolesFit_batch_iff {addFn : Int → DbM Unit} {rowsOf : DB → Int → Option (List RoleBindingRow)}
    (hadd : ∀ d uid, GrantsOrFails (addFn uid) (rowsOf d uid) d) (hreq : requestRole req = .ok roleID) (place : Place) (room : Prop)
    (hforeign : ∀ role ∈ db.roles, fits role (place.grant 0 role.id false) = false →
      (∀ default, memberRole roleID default = some role.id) → ∀ uid, (∃ u ∈ db.users, u.id = uid) →
        (room → ∃ rows, rowsOf db uid = some rows ∧ (∀ row ∈ rows, Grantable db row) ∧
          place.grant uid role.id false ∈ rows) ∧
        ∀ rows, rowsOf db uid = some rows → (∀ row ∈ rows, Grantable db row) → room)
    (hrows : ∀ d uid rows, d.roles = db.roles → RolesFit d → ¬ NamesForeignRole db req place →
      rowsOf d uid = some rows → (∀ row ∈ rows, Grantable d row) →
        ∀ row ∈ rows, Fitted d row) :
    RolesFit ((batchAddUsers addFn req.ids).exec db) ↔
      ¬ (NamesForeignRole db req place ∧ room ∧ (firstUser? db req.ids).isSome) := by
  by_cases hnames : NamesForeignRole db req place
  · obtain ⟨role, hrole, hparse, hfit⟩ := hnames
    have hrest := hforeign role hrole hfit fun default => memberRole_of_foreign hreq hrole hparse
    by_cases hbad : room ∧ (firstUser? db req.ids).isSome
    · refine iff_of_false ?_ (not_not.2 ⟨⟨role, hrole, hparse, hfit⟩, hbad⟩)
      obtain ⟨uid, huid⟩ := Option.isSome_iff_exists.1 hbad.2
      obtain ⟨rows, hsome, hall, hmem⟩ := (hrest uid (exists_user_of_firstUser huid)).1 hbad.1
      exact not_rolesFit_batch hadd huid hsome hall hmem hrole rfl hfit
    · refine iff_of_true ?_ fun h => hbad h.2
      rwa [exec_batch_of_not_grantable hadd fun uid huid rows hsome => ?_]
      by_contra hno
      push Not at hno
      exact hbad ⟨(hrest uid (exists_user_of_firstUser huid)).2 rows hsome hno, by simp [huid]⟩
  · exact iff_of_true (h.batch hadd fun d uid rows hroles hd => hrows d uid rows hroles hd hnames) fun hbad => hnames hbad.1

theorem rolesFit_addWorkspaceUsers_iff (ctx : Ctx) (req : BatchRequest) :
    RolesFit ((WorkspaceUserOps.create ctx (.json req)).exec db) ↔
      ¬ AddsForeignToWorkspace db ctx.scope.workspaceID req := by
  rw [WorkspaceUserOps.exec_create]
  set w := ctx.scope.workspaceID
  cases hreq : requestRole req with
  | error e => exact iff_of_true h fun hbad => not_namesForeignRole_of_error hreq hbad.1
  | ok roleID =>
    refine rolesFit_batch_iff h (fun d uid => PgRoleBindingStore.run_addWorkspaceMember uid w roleID d) hreq (.workspace w)
      (references db.workspaces (some w)) ?_ ?_
    · intro role hrole hfit hmem uid huser
      have hgrantable : Grantable db ((Place.workspace w).grant uid role.id false) ↔ references db.workspaces (some w) :=
        (h.grantable_iff hrole hfit huser).trans (and_iff_left rfl)
      simp [workspaceMemberRows, hmem, hgrantable]
    · intro d uid rows hroles hd hforeign hsome hall
      rw [workspaceMemberRows, Option.map_eq_some_iff] at hsome
      obtain ⟨r, hr, rfl⟩ := hsome
      simp only [List.mem_singleton, forall_eq] at hall ⊢
      exact RolesFit.of_request hreq hforeign hroles hd (fun role => workspaceRole?_fits) hr hall

theorem rolesFit_addNamespaceUsers_iff (ctx : Ctx) (req : BatchRequest) :
    RolesFit ((NamespaceUserOps.create ctx (.json req)).exec db) ↔
      ¬ AddsForeignToNamespace db ctx.scope.namespaceID req := by
  rw [NamespaceUserOps.exec_create, AddsForeignToNamespace]
  set n := ctx.scope.namespaceID
  cases hget : namespaceDetail? db n with
  | none => simpa using h
  | some ns =>
    obtain ⟨hw, hws, hns⟩ := namespaceDetail?_some hget
    simp only [Option.some.injEq, exists_eq_left']
    split_ifs with hlimit
    · exact iff_of_true h fun hbad => hbad.1 hlimit
    cases hreq : requestRole req with
    | error e => exact iff_of_true h fun hbad => not_namesForeignRole_of_error hreq hbad.2.1
    | ok roleID =>
      refine (rolesFit_batch_iff h (fun d uid => PgRoleBindingStore.run_addNamespaceMember uid n roleID d) hreq
        (.namespace ns.workspaceID n) (workspaceRole? db roleWorkspaceMember ns.workspaceID).isSome
        ?_ ?_).trans (by rw [and_iff_right hlimit])
      · intro role hrole hfit hmem uid huser
        refine ⟨fun hmember => ?_, fun rows hsome _ => ?_⟩
        · obtain ⟨m, hm⟩ := Option.isSome_iff_exists.1 hmember
          have hgm : Grantable db ((Place.workspace ns.workspaceID).grant uid m.id false) :=
            .inr (roleBindingRefs_eq_ok_iff.2 ⟨huser, ⟨m, (Table.find?_some hm).1, rfl⟩, hws, rfl⟩)
          have hgr := (h.grantable_iff hrole hfit huser).2 ⟨hws, hns⟩
          simp [namespaceMemberRows, hw, hm, hmem, hgm, hgr]
        · obtain ⟨w, m, r, hw', hm, -, -⟩ := namespaceMemberRows_eq_some hsome
          rw [hw] at hw'
          cases hw'
          rw [hm]
          rfl
      · intro d uid rows hroles hd hforeign hsome hall
        obtain ⟨w, m, r, -, hm, hr, rfl⟩ := namespaceMemberRows_eq_some hsome
        simp only [List.mem_cons, List.not_mem_nil, or_false, forall_eq_or_imp, forall_eq] at hall ⊢
        obtain ⟨hrole, hfits⟩ := workspaceRole?_fits hm
        exact ⟨⟨m, hrole, rfl, hfits⟩, RolesFit.of_request hreq hforeign hroles hd
          (fun role => namespaceRole?_fits) hr hall.2⟩

/-! Bindings by request, and transfers. -/

theorem RolesFit.attempted {ctx : Ctx} {body : Body BatchRequest}
    {checkRole : RoleRow → Except Err Unit} (ha : Attempted (bindPlan ctx body place checkRole db) db db')
    (hchk : ∀ role, checkRole role = .ok () → fits role (place.grant 0 role.id false)) : RolesFit db' := by
  rcases ha.cases with rfl | ⟨rows, hrows, -, hg⟩
  · exact h
  · obtain ⟨role, hrole, hok, userIDs, rfl⟩ := mem_bindPlan hrows
    refine h.granted hg fun row hrow => ?_
    obtain ⟨u, -, rfl⟩ := List.mem_map.1 hrow
    exact ⟨role, hrole, rfl, hchk role hok⟩

theorem RolesFit.bindPlatform (ctx : Ctx) (body : Body BatchRequest) :
    RolesFit ((RoleBindingOps.create ctx body).exec db) :=
  h.attempted (attempted_batchBindRole ctx body _ _ db) fun role hok => by
    simp [fits, Place.grant, Place.scope, (checkRoleAt_eq_ok hok).1]

theorem RolesFit.bindWorkspace (ctx : Ctx) (body : Body BatchRequest) :
    RolesFit ((WorkspaceRoleBindingOps.create ctx body).exec db) :=
  h.attempted (attempted_batchBindRole ctx body _ _ db) fun role hok => by
    obtain ⟨hscope, hbelongs⟩ := checkRoleAt_eq_ok hok
    simp [fits, Place.grant, Place.scope, Place.workspaceID, hscope, of_decide_eq_true hbelongs]

theorem RolesFit.bindNamespace (ctx : Ctx) (body : Body BatchRequest) :
    RolesFit ((NamespaceRoleBindingOps.create ctx body).exec db) := by
  have ha := NamespaceRoleBindingOps.attempted_create ctx body db
  rw [namespaceBindPlan] at ha
  cases hget : namespaceDetail? db ctx.scope.namespaceID with
  | none =>
    rw [hget] at ha
    have heq : (NamespaceRoleBindingOps.create ctx body).exec db = db := ha
    rwa [heq]
  | some ns =>
    rw [hget] at ha
    refine h.attempted ha fun role hok => ?_
    obtain ⟨hscope, hbelongs⟩ := checkRoleAt_eq_ok hok
    simp [fits, Place.grant, Place.scope, Place.namespaceID, hscope, of_decide_eq_true hbelongs]

theorem RolesFit.update_isOwner (p : RoleBindingRow → Bool) (o : Bool) :
    RolesFit { db with roleBindings := db.roleBindings.update p fun b => { b with isOwner := o } } := by
  intro b hb
  obtain ⟨r, hr, rfl⟩ := Table.mem_update.1 hb
  obtain ⟨role, hrole, hid, hfit⟩ := h r hr
  refine ⟨role, hrole, ?_⟩
  split
  · exact ⟨hid, hfit⟩
  · exact ⟨hid, hfit⟩

theorem RolesFit.upsertOwnerGrant {a : Unit}
    (hrun : (upsertOwnerGrant row).run db = (.ok a, db'))
    (hrow : Fitted db row) : RolesFit db' := by
  rcases Slot.upsert_ok_iff.1 hrun with ⟨-, rfl⟩ | ⟨-, -, rfl⟩
  · exact h.update_isOwner _ true
  · exact h.granted (granted_insert row db) fun r hr => by rwa [List.mem_singleton.1 hr]

theorem RolesFit.upsertOwner {id newOwner : Int} {a : Unit}
    (hrun : (PgRoleBindingStore.upsertOwner scope id newOwner roleID).run db = (.ok a, db')) (hrole : role ∈ db.roles) (hid : role.id = roleID)
    (hws : scope = .workspace → ∀ u, fits role ((Place.workspace id).grant u roleID true))
    (hns : scope ≠ .workspace → ∀ w u, fits role ((Place.namespace w id).grant u roleID true)) :
    RolesFit db' := by
  rw [PgRoleBindingStore.upsertOwner] at hrun
  split at hrun
  · rename_i hscope
    exact h.upsertOwnerGrant hrun ⟨role, hrole, hid, hws hscope newOwner⟩
  · rename_i hscope
    rw [getNamespaceWorkspaceID, run_read_bind] at hrun
    cases hw : db.workspaceOf id with
    | none => simp [hw] at hrun
    | some w =>
      rw [hw] at hrun
      exact h.upsertOwnerGrant hrun ⟨role, hrole, hid, hns hscope w newOwner⟩

theorem RolesFit.transferOwnershipTx {id callerID : Int}
    {admin : Bool} {newOwner : Int} {adminRoleName : String} {owner : Int}
    (hrun : (PgRoleBindingStore.transferOwnershipTx scope id callerID admin newOwner adminRoleName).run db =
      (.ok owner, db')) : RolesFit db' := by
  rw [PgRoleBindingStore.transferOwnershipTx, bind_ok_iff] at hrun
  obtain ⟨oldOwner, d, hfind, hrun⟩ := hrun
  rw [(PgRoleBindingStore.readsOnly_findOwnerForUpdate scope id).store_eq hfind] at hrun
  split at hrun
  · simp at hrun
  · rw [bind_ok_iff] at hrun
    obtain ⟨isMember, d, hmember, hrun⟩ := hrun
    rw [(PgRoleBindingStore.readsOnly_checkMembership scope id newOwner).store_eq hmember] at hrun
    split at hrun
    · simp at hrun
    · simp only [bind_ok_iff, mapErr_ok_iff, pure_ok_iff] at hrun
      obtain ⟨_, d₁, hclear, roleID, d₂, hlookup, _, d₃, hupsert, -, rfl⟩ := hrun
      obtain ⟨p, rfl⟩ := clearOwner_ok hclear
      obtain ⟨rfl, role, hrole, hid, hws, hns⟩ := lookupAdminRoleID_ok hlookup
      exact (h.update_isOwner p false).upsertOwner hupsert hrole hid hws hns

theorem RolesFit.transferOwnership (scope : Db.Scope) (id callerID : Int) (admin : Bool)
    (newOwner : Int) (adminRoleName : String) :
    RolesFit ((PgRoleBindingStore.transferOwnership scope id callerID admin newOwner adminRoleName).exec db) := by
  rw [PgRoleBindingStore.transferOwnership]
  split
  · exact h
  · rcases hrun : (atomically (PgRoleBindingStore.transferOwnershipTx scope id callerID admin newOwner
      adminRoleName)).run db with ⟨e | owner, db'⟩
    · rw [M.exec, hrun, atomically_error hrun]
      exact h
    · rw [M.exec, hrun]
      exact h.transferOwnershipTx (atomically_ok_iff.1 hrun)

theorem rolesFit_step_iff (a : BindingAction) : RolesFit (BindingAction.step db a) ↔ Safe db a := by
  cases a with
  | addWorkspaceUsers ctx body =>
    cases body with
    | malformed message => exact iff_of_true h fun req hreq => by cases hreq
    | json req =>
      refine (rolesFit_addWorkspaceUsers_iff h ctx req).trans ⟨fun hno r hr => ?_, fun hsafe => hsafe req rfl⟩
      cases hr
      exact hno
  | addNamespaceUsers ctx body =>
    cases body with
    | malformed message => exact iff_of_true h fun req hreq => by cases hreq
    | json req =>
      refine (rolesFit_addNamespaceUsers_iff h ctx req).trans ⟨fun hno r hr => ?_, fun hsafe => hsafe req rfl⟩
      cases hr
      exact hno
  | bindPlatform ctx body => exact iff_of_true (h.bindPlatform ctx body) trivial
  | bindWorkspace ctx body => exact iff_of_true (h.bindWorkspace ctx body) trivial
  | bindNamespace ctx body => exact iff_of_true (h.bindNamespace ctx body) trivial
  | transferOwnership scope id callerID admin newOwner adminRoleName =>
    exact iff_of_true (h.transferOwnership scope id callerID admin newOwner adminRoleName) trivial

omit h

/-- The roles fit in every state of a run exactly if no action of it binds a role of another place. -/
theorem bindings_use_own_roles_iff (db : DB) (h : RolesFit db) (as : List BindingAction) :
    (∀ db' ∈ Transition.states BindingAction.step db as, RolesFit db') ↔
      Transition.Along BindingAction.step Safe db as := by
  refine Transition.forall_states_iff (fun _ _ (_ : True) => trivial) (fun db a _ hdb => ?_) trivial h as
  exact rolesFit_step_iff hdb a

/-! A platform role in a workspace. -/

def viewerWorkspace : DB :=
  { DB.redWorkspace with
    roles := .ofRows [.platformBuiltin 1 "platform-admin", .workspaceBuiltin 2 "workspace-viewer" 1] 3 (by decide) }

def addUser8 (roleID : String) : BindingAction :=
  .addWorkspaceUsers ⟨⟨7, "ana"⟩, ⟨scopeWorkspace, 1, 0⟩, 0, [], [], false, some 7⟩ (.json ⟨["8"], roleID⟩)

theorem default_role_bound_in_workspace :
    RolesFit viewerWorkspace ∧ (BindingAction.step viewerWorkspace (addUser8 "")).roleBindings.rows.length = 1 ∧
      ∀ db' ∈ Transition.states BindingAction.step viewerWorkspace [addUser8 ""], RolesFit db' := by
  refine ⟨by decide, by decide, (bindings_use_own_roles_iff viewerWorkspace (by decide) _).2 ⟨?_, trivial⟩⟩
  rintro req hreq ⟨⟨role, -, hparse, -⟩, -⟩
  cases hreq
  cases hparse

/-- A platform role in the request is bound in the workspace. -/
theorem platform_role_bound_in_workspace :
    RolesFit viewerWorkspace ∧ ¬ RolesFit (BindingAction.step viewerWorkspace (addUser8 "1")) := by
  decide

end Vraxel.Iam
