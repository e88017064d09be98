import Mathlib.Data.Finset.Card
import Vraxel.Lib.Interleave
import Vraxel.Iam.Members
/-
  The member limit of a namespace, under additions and role-binding creations made at the same time.
-/

namespace Vraxel.Iam

open Relational Api Db Txn ApiServer Strconv Interleave

inductive MemberStmt where
  | getNamespaceByID (id : Int)
  | countUsersByNamespaceID (namespaceID : Int)
  | getUserByID (id : Int)
  | getNamespaceWorkspaceID (id : Int)
  | getRoleByNameAndWorkspace (name : String) (workspaceID : Int)
  | getRoleByNameAndNamespace (name : String) (namespaceID : Int)
  | getRoleByID (id : Int)
  | addWorkspaceMemberTx (userID bindRoleID workspaceID : Int)
  | addNamespaceMemberTx (userID wsMemberRoleID bindRoleID wsID namespaceID : Int)
  | createMany (place : Place) (roleID : Int) (userIDs : List Int)

def MemberStmt.Ans : MemberStmt → Type
  | .getNamespaceByID _ => Option NamespaceWithOwnerRow
  | .countUsersByNamespaceID _ => Nat
  | .getUserByID _ => Option UserRow
  | .getNamespaceWorkspaceID _ => Option Int
  | .getRoleByNameAndWorkspace _ _ => Option RoleRow
  | .getRoleByNameAndNamespace _ _ => Option RoleRow
  | .getRoleByID _ => Option RoleRow
  | .addWorkspaceMemberTx _ _ _ => Unit
  | .addNamespaceMemberTx _ _ _ _ _ => Unit
  | .createMany _ _ _ => Nat

abbrev memberSig : Sig := ⟨MemberStmt, MemberStmt.Ans⟩

def MemberStmt.sem : (q : MemberStmt) → DbM q.Ans
  | .getNamespaceByID id => Db.getNamespaceByID id
  | .countUsersByNamespaceID id => Db.countUsersByNamespaceID id
  | .getUserByID id => Db.getUserByID id
  | .getNamespaceWorkspaceID id => Db.getNamespaceWorkspaceID id
  | .getRoleByNameAndWorkspace name id => Db.getRoleByNameAndWorkspace name id
  | .getRoleByNameAndNamespace name id => Db.getRoleByNameAndNamespace name id
  | .getRoleByID id => Db.getRoleByID id
  | .addWorkspaceMemberTx userID bindRoleID workspaceID =>
    mapErr (·.wrap "add workspace member role") (atomically (addWorkspaceMemberRole userID bindRoleID workspaceID))
  | .addNamespaceMemberTx userID wsMemberRoleID bindRoleID wsID namespaceID =>
    mapErr (·.wrap "add namespace member") (atomically do
      let _ ← mapErr (·.wrap "auto-add workspace member")
        (createRoleBindingIfNotExists ((Place.workspace wsID).grant userID wsMemberRoleID false))
      addNamespaceMemberRole userID bindRoleID wsID namespaceID)
  | .createMany place roleID userIDs =>
    PgRoleBindingStore.createMany (userIDs.map fun userID => place.grant userID roleID false)

def MemberStmt.grants : MemberStmt → List RoleBindingRow
  | .addWorkspaceMemberTx userID bindRoleID workspaceID =>
    [(Place.workspace workspaceID).grant userID bindRoleID false]
  | .addNamespaceMemberTx userID wsMemberRoleID bindRoleID wsID namespaceID =>
    [(Place.workspace wsID).grant userID wsMemberRoleID false,
      (Place.namespace wsID namespaceID).grant userID bindRoleID false]
  | .createMany place roleID userIDs => userIDs.map fun userID => place.grant userID roleID false
  | _ => []

namespace ConcurrentMembers

open Prog

abbrev MemberM : Type → Type := Prog memberSig Err

/-! One statement each. -/

variable (id userID roleID : Int) (ctx : Ctx) (body : Body BatchRequest)

def getNamespaceByID : MemberM (Option NamespaceWithOwnerRow) :=
  ask (G := memberSig) (.getNamespaceByID id)

def countUsersByNamespaceID : MemberM Nat := ask (G := memberSig) (.countUsersByNamespaceID id)

def getUserByID : MemberM (Option UserRow) := ask (G := memberSig) (.getUserByID id)

def getNamespaceWorkspaceID : MemberM (Option Int) := ask (G := memberSig) (.getNamespaceWorkspaceID id)

def getRoleByNameAndWorkspace (name : String) (id : Int) : MemberM (Option RoleRow) :=
  ask (G := memberSig) (.getRoleByNameAndWorkspace name id)

def getRoleByNameAndNamespace (name : String) (id : Int) : MemberM (Option RoleRow) :=
  ask (G := memberSig) (.getRoleByNameAndNamespace name id)

def getRoleByID : MemberM (Option RoleRow) := ask (G := memberSig) (.getRoleByID id)

def addWorkspaceMemberTx (bindRoleID workspaceID : Int) : MemberM Unit :=
  ask (G := memberSig) (.addWorkspaceMemberTx userID bindRoleID workspaceID)

def addNamespaceMemberTx (wsMemberRoleID bindRoleID wsID namespaceID : Int) : MemberM Unit :=
  ask (G := memberSig) (.addNamespaceMemberTx userID wsMemberRoleID bindRoleID wsID namespaceID)

def createMany (place : Place) (roleID : Int) (userIDs : List Int) : MemberM Nat :=
  ask (G := memberSig) (.createMany place roleID userIDs)

def domainErr {α : Type} (x : MemberM α) : MemberM α := mapErr (mapDomain · "") x

def required (what : String) (q : MemberM (Option RoleRow)) : MemberM RoleRow := do
  match ← q with
  | some role => return role
  | none => fail (noRows.wrap what)

def bindRole (what : String) (q : MemberM (Option RoleRow)) : MemberM Int := do
  if roleID ≠ 0 then
    return roleID
  else
    let role ← required what q
    return role.id

def addWorkspaceMember (workspaceID roleID : Int) : MemberM Unit := do
  let bindRoleID ← bindRole roleID "get workspace-viewer role"
    (getRoleByNameAndWorkspace roleWorkspaceViewer workspaceID)
  addWorkspaceMemberTx userID bindRoleID workspaceID

def addNamespaceMember (namespaceID roleID : Int) : MemberM Unit := do
  match ← getNamespaceWorkspaceID namespaceID with
  | none => fail (.tagged ("namespace " ++ formatInt namespaceID) .notFound)
  | some wsID =>
    let wsMemberRole ← required "get workspace-member role" (getRoleByNameAndWorkspace roleWorkspaceMember wsID)
    let bindRoleID ← bindRole roleID "get namespace-viewer role"
      (getRoleByNameAndNamespace roleNamespaceViewer namespaceID)
    addNamespaceMemberTx userID wsMemberRole.id bindRoleID wsID namespaceID

def getNamespace : MemberM NamespaceWithOwnerRow := do
  match ← getNamespaceByID id with
  | some ns => return ns
  | none => fail (.tagged ("namespace " ++ formatInt id) .notFound)

def getRole : MemberM RoleRow := do
  match ← getRoleByID id with
  | some role => return role
  | none => fail (.tagged ("role " ++ formatInt id) .notFound)

def ensureUserExists : MemberM Unit := do
  match ← getUserByID id with
  | some _ => return ()
  | none => fail (badRequest ("user " ++ formatInt id ++ " not found"))

def batchAddUsers (addFn : Int → MemberM Unit) : List String → MemberM Nat
  | [] => return 0
  | idStr :: ids =>
    match parseInt idStr with
    | none => fail (badRequest ("invalid user ID: " ++ idStr))
    | some uid => do
      ensureUserExists uid
      addFn uid
      let added ← batchAddUsers addFn ids
      return added + 1

def checkMaxMembers (ns : NamespaceWithOwnerRow) (nsID : Int) (adding : Nat) : MemberM Unit := do
  if ns.maxMembers > 0 then
    let currentCount ← domainErr (countUsersByNamespaceID nsID)
    if (currentCount + adding : Int) > ns.maxMembers then
      fail (badRequest ("namespace member limit exceeded: current " ++ formatInt currentCount ++ ", adding "
        ++ formatInt adding ++ ", max " ++ formatInt ns.maxMembers))

def WorkspaceUserOps.create : MemberM BatchResult := do
  let wsID := ctx.scope.workspaceID
  let req ← lift (decodePatch body)
  let roleID ← lift (requestRole req)
  let added ← domainErr (batchAddUsers (fun uid => addWorkspaceMember uid wsID roleID) req.ids)
  return ⟨added, 0, []⟩

def NamespaceUserOps.create : MemberM BatchResult := do
  let nsID := ctx.scope.namespaceID
  let req ← lift (decodePatch body)
  let ns ← domainErr (getNamespace nsID)
  checkMaxMembers ns nsID req.ids.length
  let roleID ← lift (requestRole req)
  let added ← domainErr (batchAddUsers (fun uid => addNamespaceMember uid nsID roleID) req.ids)
  return ⟨added, 0, []⟩

def batchBindRole (place : Place)
    (checkRole : RoleRow → Except Err Unit) : MemberM BatchResult := do
  let req ← lift (decodePatch body)
  if req.ids = [] then
    fail (badRequest "ids is required")
  else if req.roleID = "" then
    fail (badRequest "roleId is required")
  else match parseInt req.roleID with
  | none => fail (badRequest ("invalid role ID: " ++ req.roleID))
  | some roleID =>
    let role ← domainErr (getRole roleID)
    lift (checkRole role)
    let userIDs ← lift (parseUserIDs req.ids)
    if ctx.dryRun then
      return ⟨userIDs.length, 0, []⟩
    else
      let created ← domainErr (createMany place roleID userIDs)
      return ⟨created, userIDs.length - created, []⟩

def RoleBindingOps.create : MemberM BatchResult :=
  batchBindRole ctx body .platform (checkRoleAt .platform (fun _ => true) "platform")

def WorkspaceRoleBindingOps.create : MemberM BatchResult :=
  let wsID := ctx.scope.workspaceID
  batchBindRole ctx body (.workspace wsID)
    (checkRoleAt .workspace (fun role => role.workspaceID = some wsID) "workspace")

def NamespaceRoleBindingOps.create : MemberM BatchResult := do
  let nsID := ctx.scope.namespaceID
  let ns ← domainErr (getNamespace nsID)
  batchBindRole ctx body (.namespace ns.workspaceID nsID)
    (checkRoleAt .namespace (fun role => role.namespaceID = some nsID) "namespace")

end ConcurrentMembers

inductive MemberCall where
  | createUsers (ctx : Ctx) (body : Body BatchRequest)
  | createRoleBindings (ctx : Ctx) (body : Body BatchRequest)

def ConcurrentMembers.prog : MemberCall → MemberM BatchResult
  | .createUsers ctx body => NamespaceUserOps.create ctx body
  | .createRoleBindings ctx body => NamespaceRoleBindingOps.create ctx body

def memberSystem : System DB memberSig Err BatchResult MemberCall :=
  ⟨MemberStmt.sem, fun _ _ => true, ConcurrentMembers.prog⟩

/-! With nobody in between, the operations are the sequential ones. -/

variable {q : ConcurrentMembers.MemberM (Option RoleRow)}

section Alone

open Prog

theorem alone_required (what : String) {q' : DbM (Option RoleRow)}
    (h : q.alone MemberStmt.sem = q') : (ConcurrentMembers.required what q).alone MemberStmt.sem =
      PgRoleBindingStore.required what q' := by
  apply alone_bind_congr _ h
  intro role
  cases role <;> rfl

theorem alone_bindRole (roleID : Int) (what : String)
    {q' : DbM (Option RoleRow)} (h : q.alone MemberStmt.sem = q') :
    (ConcurrentMembers.bindRole roleID what q).alone MemberStmt.sem = PgRoleBindingStore.bindRole roleID what q' := by
  rw [ConcurrentMembers.bindRole, PgRoleBindingStore.bindRole]
  split
  · rfl
  · exact alone_bind_congr _ (alone_required what h) fun _ => rfl

theorem alone_addWorkspaceMember (userID workspaceID roleID : Int) :
    (ConcurrentMembers.addWorkspaceMember userID workspaceID roleID).alone MemberStmt.sem =
      PgRoleBindingStore.addWorkspaceMember userID workspaceID roleID :=
  alone_bind_congr _ (alone_bindRole _ _ rfl) fun _ => rfl

theorem alone_addNamespaceMember (userID namespaceID roleID : Int) :
    (ConcurrentMembers.addNamespaceMember userID namespaceID roleID).alone MemberStmt.sem =
      PgRoleBindingStore.addNamespaceMember userID namespaceID roleID := by
  apply alone_bind_congr
  · rfl
  · intro wsID
    cases wsID with
    | none => rfl
    | some w =>
      refine alone_bind_congr _ (alone_required _ rfl) fun m => ?_
      exact alone_bind_congr _ (alone_bindRole _ _ rfl) fun r => rfl

theorem alone_getNamespace (id : Int) :
    (ConcurrentMembers.getNamespace id).alone MemberStmt.sem = PgNamespaceStore.getByID id := by
  apply alone_bind_congr
  · rfl
  · intro ns
    cases ns <;> rfl

theorem alone_getRole (id : Int) : (ConcurrentMembers.getRole id).alone MemberStmt.sem = PgRoleStore.getByID id := by
  apply alone_bind_congr
  · rfl
  · intro role
    cases role <;> rfl

theorem alone_domainErr {α : Type} {p : ConcurrentMembers.MemberM α} {x : DbM α}
    (h : p.alone MemberStmt.sem = x) : (ConcurrentMembers.domainErr p).alone MemberStmt.sem = domainErr x := by
  rw [ConcurrentMembers.domainErr, alone_mapErr, h]
  rfl

theorem alone_ensureUserExists (id : Int) :
    (ConcurrentMembers.ensureUserExists id).alone MemberStmt.sem = ensureUserExists id := by
  apply alone_bind_congr
  · rfl
  · intro u
    cases u <;> rfl

theorem alone_batchBindRole (ctx : Ctx) (body : Body BatchRequest) (place : Place)
    (checkRole : RoleRow → Except Err Unit) :
    (ConcurrentMembers.batchBindRole ctx body place checkRole).alone MemberStmt.sem =
      batchBindRole ctx body place checkRole := by
  refine alone_bind_congr _ rfl fun req => ?_
  split
  · rfl
  · split
    · rfl
    · cases parseInt req.roleID with
      | none => rfl
      | some roleID =>
        refine alone_bind_congr _ (alone_domainErr (alone_getRole roleID)) fun role => ?_
        refine alone_bind_congr _ rfl fun _ => ?_
        refine alone_bind_congr _ rfl fun userIDs => ?_
        split
        · rfl
        · exact alone_bind_congr _ (alone_domainErr rfl) fun _ => rfl

theorem alone_namespaceRoleBindingOps_create (ctx : Ctx) (body : Body BatchRequest) :
    (ConcurrentMembers.NamespaceRoleBindingOps.create ctx body).alone MemberStmt.sem =
      NamespaceRoleBindingOps.create ctx body := by
  refine alone_bind_congr _ (alone_domainErr (alone_getNamespace _)) fun ns => ?_
  exact alone_batchBindRole ctx body _ _

end Alone

/-! Members, and what a grant adds to them. -/

def namespaceMembers (db : DB) (n : Int) : Finset Int :=
  ((db.roleBindings.select (·.isAt .namespace n)).map (·.userID)).toFinset

def newcomers (db : DB) (n : Int) (rows : List RoleBindingRow) : Finset Int :=
  ((rows.filter (·.isAt .namespace n)).map (·.userID)).toFinset \ namespaceMembers db n

section Members

variable {db db' : DB} {n : Int} {rows : List RoleBindingRow}

theorem card_namespaceMembers (db : DB) (n : Int) : (namespaceMembers db n).card = db.namespaceMemberCount n :=
  List.card_toFinset _

theorem mem_namespaceMembers {u : Int} :
    u ∈ namespaceMembers db n ↔ ∃ b ∈ db.roleBindings, b.isAt .namespace n ∧ b.userID = u := by
  simp [namespaceMembers, and_assoc]

theorem mem_newcomers {u : Int} : u ∈ newcomers db n rows ↔
    (∃ row ∈ rows, row.isAt .namespace n ∧ row.userID = u) ∧ u ∉ namespaceMembers db n := by
  simp [newcomers, and_assoc]

theorem namespaceMembers_of_granted (h : Granted rows db db') :
    namespaceMembers db' n = namespaceMembers db n ∪ newcomers db n rows := by
  ext u
  rw [Finset.mem_union, mem_newcomers, mem_namespaceMembers, mem_namespaceMembers]
  constructor
  · intro ⟨b, hb, hat, hu⟩
    rcases h.new b hb with hb | ⟨row, hrow, i, rfl⟩
    · exact .inl ⟨b, hb, hat, hu⟩
    · -- the new row grants its user a role in the namespace, whoever that is
      by_cases hold : ∃ b ∈ db.roleBindings, b.isAt .namespace n ∧ b.userID = u
      · exact .inl hold
      · exact .inr ⟨⟨row, hrow, hat, hu⟩, hold⟩
  · intro hu
    rcases hu with ⟨b, hb, hat, hu⟩ | ⟨⟨row, hrow, hat, hu⟩, -⟩
    · exact ⟨b, h.kept b hb, hat, hu⟩
    · obtain ⟨b, hb, hsame⟩ := h.all row hrow
      obtain ⟨huser, hplace⟩ := isAt_of_sameGrant hsame
      exact ⟨b, hb, hplace .namespace n ▸ hat, huser.trans hu⟩

theorem card_namespaceMembers_of_granted (h : Granted rows db db') :
    db'.namespaceMemberCount n = db.namespaceMemberCount n + (newcomers db n rows).card := by
  rw [← card_namespaceMembers, ← card_namespaceMembers, namespaceMembers_of_granted h]
  exact Finset.card_union_of_disjoint Finset.disjoint_sdiff

end Members

/-- The namespace has no limit, or no more members than it. -/
def WithinLimit (n : Int) (db : DB) : Prop :=
  ∀ ns ∈ db.namespaces, ns.id = n → 0 < ns.maxMembers → (db.namespaceMemberCount n : Int) ≤ ns.maxMembers

/-- The statement grants nothing, or the namespace has room for everybody who becomes
a member by it. -/
def HasRoom (n : Int) (q : MemberStmt) (db : DB) : Prop :=
  (∃ row ∈ q.grants, ¬ Grantable db row) ∨
  ∀ ns ∈ db.namespaces, ns.id = n → 0 < ns.maxMembers →
    (db.namespaceMemberCount n + (newcomers db n q.grants).card : Int) ≤ ns.maxMembers

instance (n : Int) (db : DB) : Decidable (WithinLimit n db) :=
  inferInstanceAs (Decidable (∀ ns ∈ db.namespaces, ns.id = n → 0 < ns.maxMembers →
    (db.namespaceMemberCount n : Int) ≤ ns.maxMembers))

instance (n : Int) (q : MemberStmt) (db : DB) : Decidable (HasRoom n q db) :=
  inferInstanceAs (Decidable ((∃ row ∈ q.grants, ¬ Grantable db row) ∨
    ∀ ns ∈ db.namespaces, ns.id = n → 0 < ns.maxMembers →
      (db.namespaceMemberCount n + (newcomers db n q.grants).card : Int) ≤ ns.maxMembers))

section Limit

variable {db db' : DB} {n : Int}

theorem attempted_sem (q : MemberStmt) (db : DB) : Attempted (some q.grants) db (q.sem.exec db) := by
  -- a read grants the empty list of rows
  have hread : Attempted (some []) db db := by
    exact .nil db
  cases q with
  | addWorkspaceMemberTx u r w =>
    exact GrantsOrFails.attempted (PgRoleBindingStore.run_addMemberTx ((Place.workspace w).grant u r false) db _)
  | addNamespaceMemberTx u m r w n =>
    exact GrantsOrFails.attempted (PgRoleBindingStore.run_addNamespaceMemberTx
      ((Place.workspace w).grant u m false) ((Place.namespace w n).grant u r false)
      (by simp [Place.grant, Place.scope]) db _ _)
  | createMany place roleID userIDs =>
    exact PgRoleBindingStore.attempted_createMany (distinctGrants_map place roleID userIDs) db
  | _ => exact hread

theorem withinLimit_of_granted {rows : List RoleBindingRow} (h : Granted rows db db') :
    WithinLimit n db' ↔ ∀ ns ∈ db.namespaces, ns.id = n → 0 < ns.maxMembers →
      (db.namespaceMemberCount n + (newcomers db n rows).card : Int) ≤ ns.maxMembers := by
  rw [WithinLimit, h.namespaces_eq, card_namespaceMembers_of_granted h]
  exact Iff.rfl

theorem withinLimit_sem_iff (q : MemberStmt) (h : WithinLimit n db) :
    WithinLimit n (q.sem.exec db) ↔ HasRoom n q db := by
  have hq := attempted_sem q db
  by_cases hall : ∀ row ∈ q.grants, Grantable db row
  · refine (withinLimit_of_granted (hq.granted hall)).trans ?_
    rw [HasRoom, or_iff_right fun ⟨row, hrow, hno⟩ => hno (hall row hrow)]
  · rw [Attempted, if_neg hall] at hq
    rw [hq]
    exact iff_of_true h (.inl (by simpa using hall))

end Limit

def roomForOne : DB :=
  { DB.redWorkspace with
    users := .ofRows [⟨7, "ana", "ana@example.com", "", "", "", "active", "", false⟩,
      ⟨8, "bo", "bo@example.com", "", "", "", "active", "", false⟩,
      ⟨9, "cy", "cy@example.com", "", "", "", "active", "", false⟩] 10 (by decide)
    namespaces := .ofRows [⟨5, "red-prod", "", "", 1, 7, "private", 2, "active", some 7⟩] 6 (by decide)
    roles := .ofRows [.workspaceBuiltin 2 "workspace-member" 1, .namespaceBuiltin 3 "namespace-viewer" 5] 4 (by decide)
    roleBindings := .ofRows [{ (Place.namespace 1 5).grant 7 3 true with id := 1 }] 2 (by decide) }

def joinCtx : Ctx := ⟨⟨7, "ana"⟩, ⟨scopeNamespace, 1, 5⟩, 0, [], [], false, some 7⟩

def addUser (id : String) : MemberCall := .createUsers joinCtx (.json ⟨[id], ""⟩)

def bindBoth : MemberCall := .createRoleBindings joinCtx (.json ⟨["8", "9"], "3"⟩)

end Vraxel.Iam
