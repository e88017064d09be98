import Vraxel.Iam.Members
import Vraxel.Lib.Run
/-
  Whether members of a namespace are members of its workspace.
-/

namespace Vraxel.Iam

open Relational Api Db Txn ApiServer Strconv

variable (db : DB)

def InWorkspace (userID w : Int) : Prop :=
  ∃ b ∈ db.roleBindings, b.userID = userID ∧ b.isAt .workspace w

/-- Every binding in a namespace comes with one of the same user in its workspace. -/
def MembersNested : Prop :=
  ∀ b ∈ db.roleBindings, ∀ n w, b.isAt .namespace n → db.workspaceOf n = some w → InWorkspace db b.userID w

inductive MembershipAction where
  | addNamespaceMember (userID namespaceID roleID : Int)
  | removeNamespaceMember (userID namespaceID : Int)
  | addWorkspaceMember (userID workspaceID roleID : Int)
  | removeWorkspaceMember (userID workspaceID : Int)
  | bindWorkspace (ctx : Ctx) (body : Body BatchRequest)
  | bindNamespace (ctx : Ctx) (body : Body BatchRequest)
  | deleteBindings (ctx : Ctx) (level : BindingLevel) (call : BindingDeletion)

def MembershipAction.step : MembershipAction → DB
  | .addNamespaceMember u n r => (PgRoleBindingStore.addNamespaceMember u n r).exec db
  | .removeNamespaceMember u n => (PgRoleBindingStore.removeNamespaceMember u n).exec db
  | .addWorkspaceMember u w r => (PgRoleBindingStore.addWorkspaceMember u w r).exec db
  | .removeWorkspaceMember u w => (PgRoleBindingStore.removeWorkspaceMember u w).exec db
  | .bindWorkspace ctx body => (WorkspaceRoleBindingOps.create ctx body).exec db
  | .bindNamespace ctx body => (NamespaceRoleBindingOps.create ctx body).exec db
  | .deleteBindings ctx level call => (call.run ctx level).exec db

def InNamespaceOf (userID w : Int) : Prop :=
  ∃ b ∈ db.roleBindings, b.userID = userID ∧ ∃ n, b.isAt .namespace n ∧ db.workspaceOf n = some w

def OwnsWorkspace (userID w : Int) : Prop :=
  ∃ b ∈ db.roleBindings, b.userID = userID ∧ b.isAt .workspace w ∧ b.isOwner

def Survives (ids : List Int) (b : RoleBindingRow) : Prop := b.id ∈ ids → b.isOwner

/-- The action leaves no user in a namespace without its workspace. -/
def Nests : MembershipAction → Prop
  | .removeWorkspaceMember u w => InNamespaceOf db u w → OwnsWorkspace db u w
  | .bindNamespace ctx body => ∀ rows, namespaceBindPlan ctx body db = some rows →
      (∀ row ∈ rows, Grantable db row) → ∀ row ∈ rows, ∀ w, row.workspaceID = some w → InWorkspace db row.userID w
  | .deleteBindings ctx _ call => ctx.dryRun ∨
      ∀ b ∈ db.roleBindings, Survives call.ids b → ∀ n w, b.isAt .namespace n → db.workspaceOf n = some w →
        ∃ c ∈ db.roleBindings, Survives call.ids c ∧ c.userID = b.userID ∧ c.isAt .workspace w
  | _ => True

section Granted

variable {rows : List RoleBindingRow} {db db' : DB}

variable (hg : Granted rows db db')

include hg

theorem Granted.workspaceOf_eq (n : Int) : db'.workspaceOf n = db.workspaceOf n := by
  rw [DB.workspaceOf, DB.workspaceOf, hg.namespaces_eq]

theorem Granted.inWorkspace {u w : Int} (h : InWorkspace db u w) : InWorkspace db' u w := by
  obtain ⟨b, hb, hat⟩ := h
  exact ⟨b, hg.kept b hb, hat⟩

/-- Grants keep the members nested if each namespace row finds its user in the
workspace afterwards. -/
theorem MembersNested.granted (h : MembersNested db)
    (hrows : ∀ row ∈ rows, ∀ n w, row.isAt .namespace n → db.workspaceOf n = some w →
      InWorkspace db' row.userID w) : MembersNested db' := by
  intro b hb n w hat hw
  rw [hg.workspaceOf_eq] at hw
  rcases hg.new b hb with hb | ⟨row, hrow, i, rfl⟩
  · exact hg.inWorkspace (h b hb n w hat hw)
  · exact hrows row hrow n w hat hw

theorem Granted.inWorkspace_of_row {row : RoleBindingRow} (hrow : row ∈ rows) {w : Int}
    (hat : row.isAt .workspace w) : InWorkspace db' row.userID w := by
  obtain ⟨b, hb, hsame⟩ := hg.all row hrow
  obtain ⟨huser, hisAt⟩ := isAt_of_sameGrant hsame
  exact ⟨b, hb, huser, (hisAt _ _).trans hat⟩

end Granted

theorem MembersNested.addWorkspaceMember {db : DB} (h : MembersNested db) (u w r : Int) :
    MembersNested ((PgRoleBindingStore.addWorkspaceMember u w r).exec db) := by
  rcases (PgRoleBindingStore.run_addWorkspaceMember u w r db).exec_cases with heq | ⟨rows, hrows, -, hg⟩
  · rwa [heq]
  · obtain ⟨role, -, rfl⟩ := Option.map_eq_some_iff.1 hrows
    refine h.granted hg fun row hrow n w' hat _ => ?_
    rw [List.mem_singleton.1 hrow, isAt_grant_namespace] at hat
    obtain ⟨_, hplace⟩ := hat
    cases hplace

theorem MembersNested.addNamespaceMember {db : DB} (h : MembersNested db) (u n r : Int) :
    MembersNested ((PgRoleBindingStore.addNamespaceMember u n r).exec db) := by
  rcases (PgRoleBindingStore.run_addNamespaceMember u n r db).exec_cases with heq | ⟨rows, hrows, -, hg⟩
  · rwa [heq]
  · obtain ⟨w, m, r', hw, -, -, rfl⟩ := namespaceMemberRows_eq_some hrows
    have hin := hg.inWorkspace_of_row List.mem_cons_self ((isAt_grant_workspace _ u m.id w false).2 rfl)
    refine h.granted hg fun row hrow n' w' hat hw' => ?_
    simp only [List.mem_cons, List.not_mem_nil, or_false] at hrow
    rcases hrow with rfl | rfl
    · obtain ⟨_, hplace⟩ := (isAt_grant_namespace _ _ _ _ _).1 hat
      cases hplace
    · obtain ⟨_, hplace⟩ := (isAt_grant_namespace _ _ _ _ _).1 hat
      cases hplace
      rw [hw] at hw'
      cases hw'
      exact hin

theorem MembersNested.bindWorkspace {db : DB} (h : MembersNested db) (ctx : Ctx) (body : Body BatchRequest) :
    MembersNested ((WorkspaceRoleBindingOps.create ctx body).exec db) := by
  have ha := attempted_batchBindRole ctx body (.workspace ctx.scope.workspaceID)
    (checkRoleAt .workspace (fun role => role.workspaceID = some ctx.scope.workspaceID) "workspace") db
  rcases ha.cases with heq | ⟨rows, hrows, -, hg⟩
  · exact heq.symm ▸ h
  · obtain ⟨role, -, -, userIDs, rfl⟩ := mem_bindPlan hrows
    refine h.granted hg fun row hrow n w hat _ => ?_
    obtain ⟨u, -, rfl⟩ := List.mem_map.1 hrow
    obtain ⟨_, hplace⟩ := (isAt_grant_namespace _ _ _ _ _).1 hat
    cases hplace

theorem mem_namespaceBindPlan {ctx : Ctx} {body : Body BatchRequest} {db : DB} {rows : List RoleBindingRow}
    (h : namespaceBindPlan ctx body db = some rows) :
    ∃ w, db.workspaceOf ctx.scope.namespaceID = some w ∧ ∃ roleID, ∃ userIDs : List Int,
      rows = userIDs.map fun u => (Place.namespace w ctx.scope.namespaceID).grant u roleID false := by
  rw [namespaceBindPlan, Option.bind_eq_some_iff] at h
  obtain ⟨ns, hns, hplan⟩ := h
  obtain ⟨role, -, -, userIDs, rfl⟩ := mem_bindPlan hplan
  exact ⟨ns.workspaceID, (namespaceDetail?_some hns).1, role.id, userIDs, rfl⟩

theorem membersNested_bindNamespace_iff {db : DB} (h : MembersNested db) (ctx : Ctx) (body : Body BatchRequest) :
    MembersNested ((NamespaceRoleBindingOps.create ctx body).exec db) ↔ Nests db (.bindNamespace ctx body) := by
  have ha := NamespaceRoleBindingOps.attempted_create ctx body db
  constructor
  · intro hnested rows hrows hall row hrow w hw
    rw [hrows] at ha
    have hg := ha.granted hall
    obtain ⟨w', howner, roleID, userIDs, rfl⟩ := mem_namespaceBindPlan hrows
    obtain ⟨u, -, rfl⟩ := List.mem_map.1 hrow
    cases hw
    -- the granted row asks for a workspace binding, and none of the new rows is one
    obtain ⟨b, hb, hsame⟩ := hg.all _ hrow
    obtain ⟨huser, hisAt⟩ := isAt_of_sameGrant hsame
    obtain ⟨c, hc, hcuser, hcat⟩ := hnested b hb ctx.scope.namespaceID w
      ((hisAt _ _).trans ((isAt_grant_namespace _ _ _ _ _).2 ⟨w, rfl⟩)) (by rw [hg.workspaceOf_eq, howner])
    rcases hg.new c hc with hc | ⟨row', hrow', i, rfl⟩
    · exact ⟨c, hc, hcuser.trans huser, hcat⟩
    · obtain ⟨v, -, rfl⟩ := List.mem_map.1 hrow'
      cases (isAt_grant_workspace (.namespace w ctx.scope.namespaceID) v roleID w false).1 hcat
  · intro hsafe
    rcases ha.cases with heq | ⟨rows, hrows, hall, hg⟩
    · rwa [heq]
    · refine h.granted hg fun row hrow n w hat hw => hg.inWorkspace (hsafe rows hrows hall row hrow w ?_)
      obtain ⟨w', howner, roleID, userIDs, rfl⟩ := mem_namespaceBindPlan hrows
      obtain ⟨u, -, rfl⟩ := List.mem_map.1 hrow
      obtain ⟨_, hplace⟩ := (isAt_grant_namespace _ _ _ _ _).1 hat
      cases hplace
      rw [howner] at hw
      exact hw

theorem membersNested_delete_iff {db : DB} {p : RoleBindingRow → Bool} :
    MembersNested { db with roleBindings := db.roleBindings.delete p } ↔
      ∀ b ∈ db.roleBindings, p b = false → ∀ n w, b.isAt .namespace n → db.workspaceOf n = some w →
        ∃ c ∈ db.roleBindings, p c = false ∧ c.userID = b.userID ∧ c.isAt .workspace w := by
  simp only [MembersNested, InWorkspace, Table.mem_delete, and_assoc, and_imp]
  exact Iff.rfl

def dropMember (scope : Db.Scope) (userID id : Int) (db : DB) : DB :=
  { db with roleBindings := db.roleBindings.delete fun b => b.userID = userID && b.isAt scope id && !b.isOwner }

theorem exec_removeWorkspaceMember (u w : Int) (db : DB) :
    (PgRoleBindingStore.removeWorkspaceMember u w).exec db = dropMember .workspace u w db := by
  refine exec_bind_of_readsOnly (fun n => ?_) db
  split
  · exact fun _ => rfl
  · exact fun _ => rfl

theorem exec_removeNamespaceMember (u n : Int) (db : DB) :
    (PgRoleBindingStore.removeNamespaceMember u n).exec db = dropMember .namespace u n db := by
  refine exec_bind_of_readsOnly (fun n => ?_) db
  split
  · exact fun _ => rfl
  · exact fun _ => rfl

theorem not_isAt_workspace {b : RoleBindingRow} {n : Int} (h : b.isAt .namespace n) (w : Int) :
    b.isAt .workspace w = false := by
  simp only [RoleBindingRow.isAt, Bool.and_eq_true, decide_eq_true_eq] at h ⊢
  simp [h.1]

theorem eq_of_isAt_workspace {b : RoleBindingRow} {w w' : Int} (h : b.isAt .workspace w) (h' : b.isAt .workspace w') :
    w = w' := by
  simp only [RoleBindingRow.isAt, Bool.and_eq_true, decide_eq_true_eq] at h h'
  exact Option.some.inj (h.2.symm.trans h'.2)

theorem MembersNested.removeNamespaceMember {db : DB} (h : MembersNested db) (u n : Int) :
    MembersNested ((PgRoleBindingStore.removeNamespaceMember u n).exec db) := by
  rw [exec_removeNamespaceMember, dropMember, membersNested_delete_iff]
  intro b hb _ n' w hat hw
  obtain ⟨c, hc, huser, hcat⟩ := h b hb n' w hat hw
  refine ⟨c, hc, ?_, huser, hcat⟩
  have hno : c.isAt .namespace n = false := by
    rw [Bool.eq_false_iff]
    intro hcn
    rw [not_isAt_workspace hcn] at hcat
    cases hcat
  simp [hno]

theorem membersNested_removeWorkspaceMember_iff {db : DB} (h : MembersNested db) (u w : Int) :
    MembersNested ((PgRoleBindingStore.removeWorkspaceMember u w).exec db) ↔
      Nests db (.removeWorkspaceMember u w) := by
  rw [exec_removeWorkspaceMember, dropMember, membersNested_delete_iff]
  constructor
  · rintro hnested ⟨b, hb, rfl, n, hat, hw⟩
    obtain ⟨c, hc, hp, huser, hcat⟩ := hnested b hb (by simp [not_isAt_workspace hat]) n w hat hw
    refine ⟨c, hc, huser, hcat, ?_⟩
    simpa [huser, hcat] using hp
  · intro howns b hb _ n w' hat hw
    by_cases hother : b.userID = u ∧ w' = w
    · obtain ⟨rfl, rfl⟩ := hother
      obtain ⟨c, hc, huser, hcat, hown⟩ := howns ⟨b, hb, rfl, n, hat, hw⟩
      exact ⟨c, hc, by simp [hown], huser, hcat⟩
    · -- the removal is about another user or another workspace
      obtain ⟨c, hc, huser, hcat⟩ := h b hb n w' hat hw
      refine ⟨c, hc, ?_, huser, hcat⟩
      rw [Bool.eq_false_iff]
      intro hp
      simp only [Bool.and_eq_true, decide_eq_true_eq] at hp
      exact hother ⟨huser.symm.trans hp.1.1, eq_of_isAt_workspace hcat hp.1.2⟩

theorem membersNested_deleteBindings_iff {db : DB} (h : MembersNested db) (ctx : Ctx) (level : BindingLevel)
    (call : BindingDeletion) :
    MembersNested ((call.run ctx level).exec db) ↔ Nests db (.deleteBindings ctx level call) := by
  have hsurvives (b : RoleBindingRow) :
      (decide (b.id ∈ call.ids) && !b.isOwner) = false ↔ Survives call.ids b := by
    simp [Survives]
  rw [BindingDeletion.exec_run, Nests]
  cases ctx.dryRun with
  | true => exact iff_of_true h (.inl rfl)
  | false =>
    rw [if_neg Bool.false_ne_true, dropBindings, membersNested_delete_iff]
    simp [hsurvives]

theorem membersNested_step_iff (a : MembershipAction) (h : MembersNested db) :
    MembersNested (MembershipAction.step db a) ↔ Nests db a := by
  cases a with
  | addNamespaceMember u n r => exact iff_of_true (h.addNamespaceMember u n r) trivial
  | removeNamespaceMember u n => exact iff_of_true (h.removeNamespaceMember u n) trivial
  | addWorkspaceMember u w r => exact iff_of_true (h.addWorkspaceMember u w r) trivial
  | removeWorkspaceMember u w => exact membersNested_removeWorkspaceMember_iff h u w
  | bindWorkspace ctx body => exact iff_of_true (h.bindWorkspace ctx body) trivial
  | bindNamespace ctx body => exact membersNested_bindNamespace_iff h ctx body
  | deleteBindings ctx level call => exact membersNested_deleteBindings_iff h ctx level call

/-- The members are nested in every state of a run exactly if every action of it leaves no user in a
namespace without its workspace. -/
theorem namespace_members_nested_iff (db : DB) (h : MembersNested db) (as : List MembershipAction) :
    (∀ db' ∈ Transition.states MembershipAction.step db as, MembersNested db') ↔
      Transition.Along MembershipAction.step Nests db as :=
  Transition.forall_states_iff (fun _ _ (_ : True) => trivial) (fun db a _ hdb => membersNested_step_iff db a hdb)
    trivial h as

/-! A member who keeps a namespace. -/

def nestedMember : DB :=
  { DB.empty with
    namespaces := .ofRows [⟨5, "red-prod", "", "", 1, 7, "private", 0, "active", some 7⟩] 6 (by decide)
    roleBindings := .ofRows [{ (Place.workspace 1).grant 8 2 false with id := 1 },
      { (Place.namespace 1 5).grant 8 3 false with id := 2 }] 3 (by decide) }

theorem nestedMember_nested : MembersNested nestedMember := by
  intro b hb n w hat hw
  refine ⟨{ (Place.workspace 1).grant 8 2 false with id := 1 }, by decide, ?_⟩
  rw [Table.mem_def] at hb
  simp only [nestedMember, Table.rows_ofRows, List.mem_cons, List.not_mem_nil, or_false] at hb
  rcases hb with rfl | rfl
  · cases hat
  · obtain rfl : 5 = n := by simpa [RoleBindingRow.isAt, Place.grant, Place.scope, Place.namespaceID] using hat
    obtain rfl : 1 = w := Option.some.inj hw
    exact ⟨rfl, by decide⟩

theorem member_leaves_namespace_first :
    MembersNested nestedMember ∧ ∀ db' ∈ Transition.states MembershipAction.step nestedMember
      [.removeNamespaceMember 8 5, .removeWorkspaceMember 8 1], MembersNested db' := by
  refine ⟨nestedMember_nested,
    (namespace_members_nested_iff nestedMember nestedMember_nested _).2 ⟨trivial, ?_, trivial⟩⟩
  rintro ⟨b, hb, -, n, hat, -⟩
  have hrows : (MembershipAction.step nestedMember (.removeNamespaceMember 8 5)).roleBindings.rows =
      [{ (Place.workspace 1).grant 8 2 false with id := 1 }] := by decide
  rw [Table.mem_def, hrows, List.mem_singleton] at hb
  rw [hb] at hat
  cases hat

/-- Taking the user out of the workspace leaves the namespace binding behind. -/
theorem removed_member_keeps_namespace :
    MembersNested nestedMember ∧
      ¬ MembersNested (MembershipAction.step nestedMember (.removeWorkspaceMember 8 1)) := by
  refine ⟨nestedMember_nested, fun h => ?_⟩
  have hrows : (MembershipAction.step nestedMember (.removeWorkspaceMember 8 1)).roleBindings.rows =
      [{ (Place.namespace 1 5).grant 8 3 false with id := 2 }] := by decide
  obtain ⟨c, hc, -, hcat⟩ := h { (Place.namespace 1 5).grant 8 3 false with id := 2 } (by decide) 5 1 (by decide)
    (by decide)
  rw [Table.mem_def, hrows, List.mem_singleton] at hc
  rw [hc] at hcat
  cases hcat

end Vraxel.Iam
