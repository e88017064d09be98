import Vraxel.Lib.Faults
import Vraxel.Iam.MemberLimit
/-
  Requests that give a role to a list of users, when a statement of them can fail. Members are added
  each in a transaction of its own (`batchAddUsers`), role bindings in one (`CreateMany`).
-/

namespace Vraxel.Iam

open Relational Api Db Txn ApiServer Strconv Interleave

def SameBindings (db db' : DB) : Prop := ∀ b, b ∈ db'.roleBindings ↔ b ∈ db.roleBindings

def BoundAs (rows? : Int → Option (List RoleBindingRow)) (db : DB) (idStr : String) : Prop :=
  ∃ uid rows, parseInt idStr = some uid ∧ rows? uid = some rows ∧
    ∀ row ∈ rows, ∃ b ∈ db.roleBindings, b.sameGrant row

theorem BoundAs.mono {rows? : Int → Option (List RoleBindingRow)} {db db' : DB} {idStr : String}
    (h : BoundAs rows? db idStr) (hkept : ∀ b ∈ db.roleBindings, b ∈ db'.roleBindings) : BoundAs rows? db' idStr := by
  obtain ⟨uid, rows, hid, hrows, hall⟩ := h
  refine ⟨uid, rows, hid, hrows, fun row hrow => ?_⟩
  obtain ⟨b, hb, hsame⟩ := hall row hrow
  exact ⟨b, hkept b hb, hsame⟩

variable (ctx : Ctx) (body : Body BatchRequest)

namespace ConcurrentMembers

abbrev failing {α : Type} (p : MemberM α) : M (Faulty DB Err) Err α := p.faulty MemberStmt.sem

theorem failing_bind {α β : Type} (p : MemberM α) (f : α → MemberM β) :
    failing (p >>= f) = failing p >>= fun a => failing (f a) := Prog.faulty_bind _ p f

theorem failing_pure_bind {α β : Type} (a : α) (f : α → M (Faulty DB Err) Err β) :
    failing (pure a) >>= f = f a := rfl

theorem failing_domainErr {α : Type} (p : MemberM α) :
    failing (domainErr p) = Txn.mapErr (mapDomain · "") (failing p) := Prog.faulty_mapErr _ _ p

/-! Additions one after another. -/

def addListed (addFn : Int → MemberM Unit) (idStr : String) : MemberM Unit :=
  match parseInt idStr with
  | none => Prog.fail (badRequest ("invalid user ID: " ++ idStr))
  | some uid => do
    ensureUserExists uid
    addFn uid

/-- No addition fails after one that bound somebody. -/
def Undivided (addFn : Int → MemberM Unit) : List String → Faulty DB Err → Prop
  | [], _ => True
  | idStr :: ids, s => ∀ s', (failing (addListed addFn idStr)).run s = (.ok (), s') →
    (SameBindings s.1 s'.1 → Undivided addFn ids s') ∧
    (¬ SameBindings s.1 s'.1 → ∃ n s'', (failing (batchAddUsers addFn ids)).run s' =
      (.ok n, s''))

/-- What the two ways to add a member have in common: an addition fails and writes nothing, or
grants its rows. -/
structure Adds (addFn : Int → MemberM Unit) (rows? : DB → Int → Option (List RoleBindingRow)) : Prop where
  clean : ∀ uid, Prog.Clean MemberStmt.sem (addFn uid)
  grants : ∀ uid db, GrantsOrFails ((addFn uid).alone MemberStmt.sem) (rows? db uid) db
  frame : ∀ rows db db', Granted rows db db' → rows? db' = rows? db

theorem reads_ensureUserExists (uid : Int) : Prog.Reads MemberStmt.sem (ensureUserExists uid) :=
  .bind (.ask fun _ => rfl) fun u => by cases u <;> exact .done _

section Batch

variable {addFn : Int → MemberM Unit} {rows? : DB → Int → Option (List RoleBindingRow)} {s s' : Faulty DB Err}

theorem batchAddUsers_cons (addFn : Int → MemberM Unit) (idStr : String) (ids : List String) :
    failing (batchAddUsers addFn (idStr :: ids)) =
      failing (addListed addFn idStr) >>= fun _ =>
        failing (batchAddUsers addFn ids) >>= fun n => pure (n + 1) := by
  rw [batchAddUsers, addListed]
  cases parseInt idStr with
  | none => rfl
  | some uid =>
    simp only [failing_bind, bind_assoc]
    rfl

variable (h : Adds addFn rows?)

include h

theorem Adds.run_addListed (idStr : String) (s : Faulty DB Err) :
    (∃ e s', (failing (addListed addFn idStr)).run s = (.error e, s') ∧ s'.1 = s.1) ∨
    ∃ s' uid rows, (failing (addListed addFn idStr)).run s = (.ok (), s') ∧
      parseInt idStr = some uid ∧ rows? s.1 uid = some rows ∧ Granted rows s.1 s'.1 := by
  rw [addListed]
  cases parseInt idStr with
  | none => exact .inl ⟨_, s, rfl, rfl⟩
  | some uid =>
    have hclean := Prog.Clean.bind (reads_ensureUserExists uid) fun _ => h.clean uid
    rcases hclean.run_cases s with herror | ⟨u, s', hrun, halone⟩
    · exact .inl herror
    · rw [Prog.alone_bind] at halone
      obtain ⟨v, db₁, hens, hadd⟩ := bind_ok_iff.1 halone
      rw [alone_ensureUserExists, run_ensureUserExists] at hens
      have hdb₁ : db₁ = s.1 := by
        split at hens <;> exact (Prod.mk.inj hens).2.symm
      subst hdb₁
      rcases h.grants uid s.1 with ⟨rows, db', hrows, -, hrun', hg⟩ | ⟨-, e, hrun'⟩
      · rw [hadd] at hrun'
        cases (Prod.mk.inj hrun').2
        exact .inr ⟨s', uid, rows, hrun, rfl, hrows, hg⟩
      · rw [hadd] at hrun'
        cases hrun'

theorem kept_of_batchAddUsers (ids : List String) {r : Except Err Nat}
    (hrun : (failing (batchAddUsers addFn ids)).run s = (r, s')) :
    ∀ b ∈ s.1.roleBindings, b ∈ s'.1.roleBindings := by
  induction ids generalizing s r with
  | nil =>
    cases hrun
    exact fun _ hb => hb
  | cons idStr ids ih =>
    rw [batchAddUsers_cons] at hrun
    rcases h.run_addListed idStr s with ⟨e, s₁, hadd, heq⟩ | ⟨s₁, uid, rows, hadd, -, -, hg⟩
    · rw [run_bind_of_error hadd] at hrun
      cases hrun
      rw [heq]
      exact fun _ hb => hb
    · rw [run_bind_of_ok hadd, run_bind] at hrun
      rcases hrest : (failing (batchAddUsers addFn ids)).run s₁ with ⟨e | n, s₂⟩ <;>
        rw [hrest] at hrun <;> cases hrun <;>
        exact fun b hb => ih hrest b (hg.kept b hb)

theorem bound_of_batchAddUsers (ids : List String) {n : Nat}
    (hrun : (failing (batchAddUsers addFn ids)).run s = (.ok n, s')) :
    ∀ idStr ∈ ids, BoundAs (rows? s.1) s'.1 idStr := by
  induction ids generalizing s n with
  | nil => simp
  | cons idStr ids ih =>
    rw [batchAddUsers_cons] at hrun
    obtain ⟨u, s₁, hadd, hrest⟩ := bind_ok_iff.1 hrun
    obtain ⟨m, s₂, hids, hlast⟩ := bind_ok_iff.1 hrest
    cases hlast
    rcases h.run_addListed idStr s with ⟨e, s₃, hadd', -⟩ | ⟨s₃, uid, rows, hadd', hid, hrows, hg⟩
    · rw [hadd] at hadd'
      cases hadd'
    · rw [hadd] at hadd'
      cases (Prod.mk.inj hadd').2
      have hthis : BoundAs (rows? s.1) s₁.1 idStr := ⟨uid, rows, hid, hrows, hg.all⟩
      refine List.forall_mem_cons.2 ⟨hthis.mono (kept_of_batchAddUsers h ids hids), ?_⟩
      rw [← h.frame rows s.1 s₁.1 hg]
      exact ih hids

theorem same_of_error_iff (ids : List String) (s : Faulty DB Err) :
    (∀ e s', (failing (batchAddUsers addFn ids)).run s = (.error e, s') →
      SameBindings s.1 s'.1) ↔ Undivided addFn ids s := by
  induction ids generalizing s with
  | nil => exact iff_of_true (fun e s' hrun => by cases hrun) trivial
  | cons idStr ids ih =>
    rw [batchAddUsers_cons, Undivided]
    rcases h.run_addListed idStr s with ⟨e, s₁, hadd, heq⟩ | ⟨s₁, uid, rows, hadd, -, -, hg⟩
    · refine iff_of_true (fun e' s' hrun => ?_) (fun s' hrun => ?_)
      · rw [run_bind_of_error hadd] at hrun
        cases hrun
        exact fun b => by rw [heq]
      · rw [hadd] at hrun
        cases hrun
    -- the batch fails as the rest of the list does
    have hfails : ∀ e s', (failing (addListed addFn idStr) >>= fun _ =>
        failing (batchAddUsers addFn ids) >>= fun n => pure (n + 1)).run s =
          (.error e, s') ↔
        (failing (batchAddUsers addFn ids)).run s₁ = (.error e, s') := by
      rw [run_bind_of_ok hadd, run_bind]
      rcases hrest : (failing (batchAddUsers addFn ids)).run s₁ with ⟨e | n, s₂⟩ <;> simp
    simp only [hfails, hadd, Prod.mk.injEq, true_and, forall_eq']
    by_cases hsame : SameBindings s.1 s₁.1
    · have htrans : ∀ s' : Faulty DB Err, SameBindings s.1 s'.1 ↔ SameBindings s₁.1 s'.1 := fun s' =>
        forall_congr' fun b => by rw [hsame b]
      simp only [hsame, not_true_eq_false, false_implies, and_true, true_implies, htrans]
      exact ih s₁
    · simp only [hsame, false_implies, true_and, not_false_eq_true, true_implies]
      -- somebody is bound now, and stays so
      have hnever : ∀ {r s'}, (failing (batchAddUsers addFn ids)).run s₁ = (r, s') →
          ¬ SameBindings s.1 s'.1 := by
        intro r s' hrun hs'
        exact hsame fun b => ⟨fun hb => (hs' b).1 (kept_of_batchAddUsers h ids hrun b hb), hg.kept b⟩
      constructor
      · intro hall
        rcases hrun : (failing (batchAddUsers addFn ids)).run s₁ with ⟨e | n, s₂⟩
        · exact absurd (hall e s₂ hrun) (hnever hrun)
        · exact ⟨n, s₂, rfl⟩
      · rintro ⟨n, s₂, hok⟩ e s' hrun
        rw [hok] at hrun
        cases hrun

end Batch

/-! The two additions. -/

theorem reads_required (what : String) {q : MemberM (Option RoleRow)} (h : Prog.Reads MemberStmt.sem q) :
    Prog.Reads MemberStmt.sem (required what q) :=
  .bind h fun role => by cases role <;> exact .done _

theorem reads_bindRole (roleID : Int) (what : String) {q : MemberM (Option RoleRow)}
    (h : Prog.Reads MemberStmt.sem q) : Prog.Reads MemberStmt.sem (bindRole roleID what q) := by
  rw [bindRole]
  split
  · exact .done _
  · exact .bind (reads_required what h) fun _ => .done _

theorem adds_workspaceMember (workspaceID roleID : Int) : Adds (fun uid => addWorkspaceMember uid workspaceID roleID)
    (fun db uid => workspaceMemberRows db uid workspaceID roleID) where
  clean uid := .bind (reads_bindRole _ _ (.ask fun _ => rfl)) fun _ => .ask ((AllOrNothing.atomically _).mapErr _)
  grants uid db := by
    rw [alone_addWorkspaceMember]
    exact PgRoleBindingStore.run_addWorkspaceMember uid workspaceID roleID db
  frame rows db db' hg := by
    simp [workspaceMemberRows, workspaceRole?, hg.roles_eq]

theorem adds_namespaceMember (namespaceID roleID : Int) : Adds (fun uid => addNamespaceMember uid namespaceID roleID)
    (fun db uid => namespaceMemberRows db uid namespaceID roleID) where
  clean uid := .bind (.ask fun _ => rfl) fun
    | none => .of_reads (.done _)
    | some _ => .bind (reads_required _ (.ask fun _ => rfl)) fun _ =>
      .bind (reads_bindRole _ _ (.ask fun _ => rfl)) fun _ => .ask ((AllOrNothing.atomically _).mapErr _)
  grants uid db := by
    rw [alone_addNamespaceMember]
    exact PgRoleBindingStore.run_addNamespaceMember uid namespaceID roleID db
  frame rows db db' hg := by
    simp [namespaceMemberRows, workspaceRole?, namespaceRole?, DB.workspaceOf, hg.roles_eq, hg.namespaces_eq]

def WorkspaceUserOps.checks : MemberM (BatchRequest × Int) := do
  let req ← Prog.lift (decodePatch body)
  let roleID ← Prog.lift (requestRole req)
  return (req, roleID)

def NamespaceUserOps.checks (body : Body BatchRequest) : MemberM (BatchRequest × Int) := do
  let nsID := ctx.scope.namespaceID
  let req ← Prog.lift (decodePatch body)
  let ns ← domainErr (getNamespace nsID)
  checkMaxMembers ns nsID req.ids.length
  let roleID ← Prog.lift (requestRole req)
  return (req, roleID)

def addAll (addFn : Int → Int → MemberM Unit) (c : BatchRequest × Int) : MemberM BatchResult := do
  let added ← domainErr (batchAddUsers (addFn c.2) c.1.ids)
  return ⟨added, 0, []⟩

theorem reads_getNamespace (id : Int) : Prog.Reads MemberStmt.sem (getNamespace id) :=
  .bind (.ask fun _ => rfl) fun ns => by cases ns <;> exact .done _

theorem reads_checkMaxMembers (ns : NamespaceWithOwnerRow) (nsID : Int) (adding : Nat) :
    Prog.Reads MemberStmt.sem (checkMaxMembers ns nsID adding) := by
  rw [checkMaxMembers]
  split
  · refine .bind (Prog.Reads.mapErr (.ask fun _ => rfl) _) fun count => ?_
    split <;> exact .done _
  · exact .done _

theorem reads_namespaceChecks :
    Prog.Reads MemberStmt.sem (NamespaceUserOps.checks ctx body) :=
  .bind (.done _) fun _ => .bind ((reads_getNamespace _).mapErr _) fun _ =>
    .bind (reads_checkMaxMembers _ _ _) fun _ => .bind (.done _) fun _ => .done _

theorem failing_namespaceUserOps_create :
    failing (NamespaceUserOps.create ctx body) = failing (NamespaceUserOps.checks ctx body) >>= fun c =>
      failing (addAll (fun roleID uid => addNamespaceMember uid ctx.scope.namespaceID roleID) c) := by
  simp [NamespaceUserOps.create, NamespaceUserOps.checks, addAll, bind_assoc, failing_pure_bind]

theorem failing_workspaceUserOps_create :
    failing (WorkspaceUserOps.create ctx body) = failing (WorkspaceUserOps.checks body) >>= fun c =>
      failing (addAll (fun roleID uid => addWorkspaceMember uid ctx.scope.workspaceID roleID) c) := by
  simp [WorkspaceUserOps.create, WorkspaceUserOps.checks, addAll, bind_assoc, failing_pure_bind]

section Members

variable {prog : MemberM BatchResult} {checks : MemberM (BatchRequest × Int)} {addFn : Int → Int → MemberM Unit}
  {rows? : Int → DB → Int → Option (List RoleBindingRow)} (hreads : Prog.Reads MemberStmt.sem checks)
  (hadds : ∀ roleID, Adds (addFn roleID) (rows? roleID))
  (hprog : failing prog = failing checks >>= fun c => failing (addAll addFn c))
include hreads hadds hprog

theorem bound_of_ok {s s' : Faulty DB Err} {r : BatchResult} (hrun : (failing prog).run s = (.ok r, s')) :
    ∃ c s₁, (failing checks).run s = (.ok c, s₁) ∧ ∀ idStr ∈ c.1.ids, BoundAs (rows? c.2 s.1) s'.1 idStr := by
  rw [hprog] at hrun
  obtain ⟨c, s₁, hchecks, hrest⟩ := bind_ok_iff.1 hrun
  rw [addAll, failing_bind] at hrest
  obtain ⟨n, s₂, hall, hlast⟩ := bind_ok_iff.1 hrest
  cases hlast
  rw [failing_domainErr, mapErr_ok_iff] at hall
  refine ⟨c, s₁, hchecks, ?_⟩
  rw [← hreads.store_eq hchecks]
  exact bound_of_batchAddUsers (hadds c.2) c.1.ids hall

theorem same_iff_undivided (s : Faulty DB Err) :
    (∀ e s', (failing prog).run s = (.error e, s') → SameBindings s.1 s'.1) ↔
      ∀ c s', (failing checks).run s = (.ok c, s') → Undivided (addFn c.2) c.1.ids s' := by
  rw [hprog]
  rcases hchecks : (failing checks).run s with ⟨e | c, s₁⟩
  · refine iff_of_true (fun e' s' hrun => ?_) (fun c s' hrun => by cases hrun)
    rw [run_bind_of_error hchecks] at hrun
    cases hrun
    rw [hreads.store_eq hchecks]
    exact fun _ => Iff.rfl
  · have hrest := same_of_error_iff (hadds c.2) c.1.ids s₁
    rw [hreads.store_eq hchecks] at hrest
    refine Iff.trans ?_ (hrest.trans ⟨fun h c' s' heq => by cases heq; exact h, fun h => h c s₁ rfl⟩)
    rw [run_bind_of_ok hchecks]
    simp only [addAll, failing_bind, failing_domainErr, run_bind, run_mapErr]
    rcases hall : (failing (batchAddUsers (addFn c.2) c.1.ids)).run s₁ with ⟨e | n, s₂⟩
    · simp
    · simp [failing, Prog.faulty]

end Members

inductive BatchGrant where
  | workspaceUsers
  | namespaceUsers
  | roleBindings
  | workspaceRoleBindings
  | namespaceRoleBindings
  deriving DecidableEq

namespace BatchGrant

def prog (body : Body BatchRequest) : BatchGrant → MemberM BatchResult
  | workspaceUsers => WorkspaceUserOps.create ctx body
  | namespaceUsers => NamespaceUserOps.create ctx body
  | roleBindings => RoleBindingOps.create ctx body
  | workspaceRoleBindings => WorkspaceRoleBindingOps.create ctx body
  | namespaceRoleBindings => NamespaceRoleBindingOps.create ctx body

/-- The bindings a request asks for, for one user: the requested role at the scope, and for a
member of a namespace also the one of the workspace. -/
def rows? (req : BatchRequest) (db : DB) (uid : Int) : BatchGrant → Option (List RoleBindingRow)
  | workspaceUsers => (requestRole req).toOption.bind (workspaceMemberRows db uid ctx.scope.workspaceID)
  | namespaceUsers => (requestRole req).toOption.bind (namespaceMemberRows db uid ctx.scope.namespaceID)
  | roleBindings => (parseInt req.roleID).map fun roleID => [Place.platform.grant uid roleID false]
  | workspaceRoleBindings => (parseInt req.roleID).map fun roleID =>
    [(Place.workspace ctx.scope.workspaceID).grant uid roleID false]
  | namespaceRoleBindings => (namespaceDetail? db ctx.scope.namespaceID).bind fun ns =>
    (parseInt req.roleID).map fun roleID =>
      [(Place.namespace ns.workspaceID ctx.scope.namespaceID).grant uid roleID false]

/-- Everybody on the list is bound in `db'` as the request asks for in `db`. -/
def Bound (g : BatchGrant) (ctx : Ctx) (body : Body BatchRequest) (db db' : DB) : Prop :=
  ∃ req, body = .json req ∧ ∀ idStr ∈ req.ids, BoundAs (fun uid => g.rows? ctx req db uid) db' idStr

/-- A request that fails leaves the bindings as they were, and one that succeeds has bound
everybody on the list. -/
def Atomic (g : BatchGrant) (ctx : Ctx) (body : Body BatchRequest) (s : Faulty DB Err) : Prop :=
  (∀ e s', (failing (g.prog ctx body)).run s = (.error e, s') → SameBindings s.1 s'.1) ∧
  ∀ r s', (failing (g.prog ctx body)).run s = (.ok r, s') → g.Bound ctx body s.1 s'.1

/-- No addition of a request for members fails after one that bound somebody; a dry run of a
request for bindings that succeeds finds everybody bound. -/
def Complete (body : Body BatchRequest) (s : Faulty DB Err) : BatchGrant → Prop
  | workspaceUsers => ∀ c s', (failing (WorkspaceUserOps.checks body)).run s = (.ok c, s') →
    Undivided (fun uid => addWorkspaceMember uid ctx.scope.workspaceID c.2) c.1.ids s'
  | namespaceUsers => ∀ c s', (failing (NamespaceUserOps.checks ctx body)).run s = (.ok c, s') →
    Undivided (fun uid => addNamespaceMember uid ctx.scope.namespaceID c.2) c.1.ids s'
  | g => ctx.dryRun = true → ∀ r s', (failing (g.prog ctx body)).run s = (.ok r, s') → g.Bound ctx body s.1 s.1

end BatchGrant

/-! Bindings in one transaction. -/

theorem clean_batchBindRole (place : Place)
    (checkRole : RoleRow → Except Err Unit) :
    Prog.Clean MemberStmt.sem (batchBindRole ctx body place checkRole) := by
  refine .bind (.done _) fun req => ?_
  split
  · exact .of_reads (.done _)
  · split
    · exact .of_reads (.done _)
    · cases parseInt req.roleID with
      | none => exact .of_reads (.done _)
      | some roleID =>
        have hrole : Prog.Reads MemberStmt.sem (getRole roleID) :=
          .bind (.ask fun _ => rfl) fun role => by cases role <;> exact .done _
        refine .bind (hrole.mapErr _) fun role => .bind (.done _) fun _ => .bind (.done _) fun userIDs => ?_
        split
        · exact .of_reads (.done _)
        · exact (Prog.Clean.mapErr (.ask (PgRoleBindingStore.allOrNothing_createMany _)) _).answer _

section Bindings

variable {ctx : Ctx} {body : Body BatchRequest}

theorem bindPlan_of_dryRun (hdry : ctx.dryRun = true) (place : Place) (checkRole : RoleRow → Except Err Unit) (db : DB) :
    bindPlan ctx body place checkRole db = none := by
  cases body with
  | malformed message => rfl
  | json req => simp [bindPlan, hdry]

theorem atomic_iff_of_clean {g : BatchGrant} (hclean : Prog.Clean MemberStmt.sem (g.prog ctx body))
    (hbound : ∀ r db db', ((g.prog ctx body).alone MemberStmt.sem).run db = (.ok r, db') → ctx.dryRun = false →
      g.Bound ctx body db db')
    (hdry : ctx.dryRun = true → ReadsOnly ((g.prog ctx body).alone MemberStmt.sem)) (s : Faulty DB Err) :
    g.Atomic ctx body s ↔ (ctx.dryRun = true → ∀ r s', (failing (g.prog ctx body)).run s = (.ok r, s') →
      g.Bound ctx body s.1 s.1) := by
  rcases hclean.run_cases s with ⟨e, s', hrun, heq⟩ | ⟨r, s', hrun, halone⟩
  · refine iff_of_true ⟨fun e' s'' hrun' => ?_, fun r s'' hrun' => ?_⟩ (fun _ r s'' hrun' => ?_)
    · rw [hrun] at hrun'
      cases hrun'
      rw [heq]
      exact fun _ => Iff.rfl
    · rw [hrun] at hrun'
      cases hrun'
    · rw [hrun] at hrun'
      cases hrun'
  · have hone : g.Atomic ctx body s ↔ g.Bound ctx body s.1 s'.1 := by
      constructor
      · exact fun h => h.2 r s' hrun
      · intro h
        refine ⟨fun e s'' hrun' => ?_, fun r' s'' hrun' => ?_⟩ <;> rw [hrun] at hrun' <;> cases hrun'
        exact h
    rw [hone]
    cases hd : ctx.dryRun with
    | false => exact iff_of_true (hbound r s.1 s'.1 halone hd) (fun h => by cases h)
    | true =>
      rw [(hdry hd).store_eq halone]
      exact ⟨fun h _ _ _ _ => h, fun h => h rfl r s' hrun⟩

theorem atomic_iff_of_place {g : BatchGrant} {place : Place} {checkRole : RoleRow → Except Err Unit}
    (hprog : g.prog ctx body = batchBindRole ctx body place checkRole)
    (hrows : ∀ req db uid, g.rows? ctx req db uid = (parseInt req.roleID).map fun roleID => [place.grant uid roleID false])
    (s : Faulty DB Err) : g.Atomic ctx body s ↔ (ctx.dryRun = true → ∀ r s',
      (failing (g.prog ctx body)).run s = (.ok r, s') → g.Bound ctx body s.1 s.1) := by
  have halone : (g.prog ctx body).alone MemberStmt.sem = Iam.batchBindRole ctx body place checkRole := by
    rw [hprog]
    exact alone_batchBindRole ctx body place checkRole
  refine atomic_iff_of_clean (hprog ▸ clean_batchBindRole ctx body place checkRole) ?_ ?_ s
  · intro r db db' hrun hdry
    rw [halone] at hrun
    obtain ⟨req, roleID, hbody, hrole, hall⟩ := bound_of_batchBindRole hrun hdry
    refine ⟨req, hbody, fun raw hraw => ?_⟩
    obtain ⟨uid, huid, hb⟩ := hall raw hraw
    refine ⟨uid, [place.grant uid roleID false], huid, ?_, by simpa using hb⟩
    simp [hrows, hrole]
  · intro hdry db
    rw [halone, exec_batchBindRole, bindPlan_of_dryRun hdry]

theorem atomic_namespaceRoleBindings_iff (s : Faulty DB Err) :
    BatchGrant.namespaceRoleBindings.Atomic ctx body s ↔ BatchGrant.namespaceRoleBindings.Complete ctx body s := by
  have halone := alone_namespaceRoleBindingOps_create ctx body
  have hclean : Prog.Clean MemberStmt.sem (BatchGrant.namespaceRoleBindings.prog ctx body) :=
    .bind ((reads_getNamespace _).mapErr _) fun ns => clean_batchBindRole _ _ _ _
  refine atomic_iff_of_clean hclean ?_ ?_ s
  · intro r db db' hrun hdry
    rw [BatchGrant.prog, halone, Iam.NamespaceRoleBindingOps.create] at hrun
    cases hns : namespaceDetail? db ctx.scope.namespaceID with
    | none =>
      rw [run_bind_of_error (PgNamespaceStore.run_getByID_none hns)] at hrun
      cases hrun
    | some ns =>
      rw [run_bind_of_ok (PgNamespaceStore.run_getByID_some hns)] at hrun
      obtain ⟨req, roleID, hbody, hrole, hall⟩ := bound_of_batchBindRole hrun hdry
      refine ⟨req, hbody, fun raw hraw => ?_⟩
      obtain ⟨uid, huid, hb⟩ := hall raw hraw
      exact ⟨uid, _, huid, by simp only [BatchGrant.rows?, hns, hrole]; rfl, by simpa using hb⟩
  · intro hdry db
    have hplan : namespaceBindPlan ctx body db = none := by
      simp [namespaceBindPlan, bindPlan_of_dryRun hdry]
    have hattempted := NamespaceRoleBindingOps.attempted_create ctx body db
    rw [hplan] at hattempted
    rw [BatchGrant.prog, halone]
    exact hattempted

end Bindings

theorem workspaceChecks_ok {body : Body BatchRequest} {c : BatchRequest × Int} {s s' : Faulty DB Err}
    (h : (failing (WorkspaceUserOps.checks body)).run s = (.ok c, s')) : body = .json c.1 ∧ requestRole c.1 = .ok c.2 := by
  cases body with
  | malformed message => cases h
  | json req =>
    rw [WorkspaceUserOps.checks, failing_bind] at h
    obtain ⟨req', s₁, hreq, h⟩ := bind_ok_iff.1 h
    cases (lift_ok_iff.1 hreq).1
    rw [failing_bind] at h
    obtain ⟨roleID, s₂, hrole, h⟩ := bind_ok_iff.1 h
    cases h
    exact ⟨rfl, (lift_ok_iff.1 hrole).1⟩

theorem namespaceChecks_ok {ctx : Ctx} {body : Body BatchRequest} {c : BatchRequest × Int} {s s' : Faulty DB Err}
    (h : (failing (NamespaceUserOps.checks ctx body)).run s = (.ok c, s')) :
    body = .json c.1 ∧ requestRole c.1 = .ok c.2 := by
  cases body with
  | malformed message => cases h
  | json req =>
    simp only [NamespaceUserOps.checks, failing_bind] at h
    obtain ⟨req', s₁, hreq, h⟩ := bind_ok_iff.1 h
    cases (lift_ok_iff.1 hreq).1
    obtain ⟨ns, s₂, -, h⟩ := bind_ok_iff.1 h
    obtain ⟨u, s₃, -, h⟩ := bind_ok_iff.1 h
    obtain ⟨roleID, s₄, hrole, h⟩ := bind_ok_iff.1 h
    cases h
    exact ⟨rfl, (lift_ok_iff.1 hrole).1⟩

/-- A request is all or nothing if and only if none of its additions fails after one that bound somebody
and a dry run that succeeds finds everybody bound. -/
theorem batchGrant_atomic_iff (g : BatchGrant) (ctx : Ctx) (body : Body BatchRequest) (s : Faulty DB Err) :
    g.Atomic ctx body s ↔ g.Complete ctx body s := by
  cases g with
  | workspaceUsers =>
    have hreads : Prog.Reads MemberStmt.sem (WorkspaceUserOps.checks body) :=
      .bind (.done _) fun _ => .bind (.done _) fun _ => .done _
    refine Iff.trans (and_iff_left fun r s' hrun => ?_) (same_iff_undivided hreads
      (adds_workspaceMember ctx.scope.workspaceID) (failing_workspaceUserOps_create ctx body) s)
    obtain ⟨c, s₁, hchecks, hall⟩ := bound_of_ok hreads (adds_workspaceMember ctx.scope.workspaceID)
      (failing_workspaceUserOps_create ctx body) hrun
    obtain ⟨hbody, hrole⟩ := workspaceChecks_ok hchecks
    exact ⟨c.1, hbody, by simpa [BatchGrant.rows?, hrole, Except.toOption] using hall⟩
  | namespaceUsers =>
    have hreads := reads_namespaceChecks ctx body
    refine Iff.trans (and_iff_left fun r s' hrun => ?_) (same_iff_undivided hreads
      (adds_namespaceMember ctx.scope.namespaceID) (failing_namespaceUserOps_create ctx body) s)
    obtain ⟨c, s₁, hchecks, hall⟩ := bound_of_ok hreads (adds_namespaceMember ctx.scope.namespaceID)
      (failing_namespaceUserOps_create ctx body) hrun
    obtain ⟨hbody, hrole⟩ := namespaceChecks_ok hchecks
    exact ⟨c.1, hbody, by simpa [BatchGrant.rows?, hrole, Except.toOption] using hall⟩
  | roleBindings => exact atomic_iff_of_place rfl (fun _ _ _ => rfl) s
  | workspaceRoleBindings => exact atomic_iff_of_place rfl (fun _ _ _ => rfl) s
  | namespaceRoleBindings => exact atomic_namespaceRoleBindings_iff s

def viewersOfRed : DB :=
  { DB.redWorkspace with roles := .ofRows [.workspaceBuiltin 2 "workspace-viewer" 1] 3 (by decide) }

/-- `POST /workspaces/1/users` for users 8 and 9 fails at user 9, and user 8 stays a member. -/
theorem first_of_two_stays :
    ¬ BatchGrant.workspaceUsers.Atomic joinCtx (.json ⟨["8", "9"], ""⟩) (viewersOfRed, []) := by
  intro h
  have hsame := h.1 _ _ rfl { (Place.workspace 1).grant 8 2 false with id := 1 }
  exact absurd (hsame.1 (by decide)) (by decide)

end ConcurrentMembers

end Vraxel.Iam
