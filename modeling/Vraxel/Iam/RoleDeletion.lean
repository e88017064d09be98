import Vraxel.Lib.Protocol
import Vraxel.Iam.BatchGrants
import Vraxel.Iam.ConcurrentRoles
/-
  Deletions of roles at the same time as grants of roles.
-/

namespace Vraxel.Iam

open Relational Api Db Txn ApiServer Strconv Interleave Transition

abbrev accessSig : Sig := memberSig.sum roleSig

def accessSem (codeScopes : List PermissionCodeScope) : (q : accessSig.Stmt) → DbM (accessSig.Ans q)
  | .inl q => MemberStmt.sem q
  | .inr q => RoleStmt.sem codeScopes q

/-- The calls; without a level a deletion is one of platform roles. -/
inductive AccessCall where
  | grant (g : ConcurrentMembers.BatchGrant) (ctx : Ctx) (body : Body BatchRequest)
  | deleteRole (level : Option BindingLevel) (ctx : Ctx) (id : Int)
  | deleteRoles (level : Option BindingLevel) (ctx : Ctx) (ids : List Int)

def deletionScope : Option BindingLevel → Db.Scope
  | none => .platform
  | some level => level.scope

def deletionAllow (ctx : Ctx) : Option BindingLevel → RoleRow → Except Err Unit
  | none => RoleOps.allow "delete"
  | some level => ScopedRoleOps.allow level ctx "delete"

def accessProg : AccessCall → Prog accessSig Err Unit
  | .grant g ctx body => Prog.inl roleSig (g.prog ctx body) >>= fun _ => pure ()
  | .deleteRole level ctx id =>
    Prog.inr memberSig (ConcurrentRoles.deleteRoleIn ctx (deletionScope level) (deletionAllow ctx level) id)
  | .deleteRoles level ctx ids =>
    Prog.inr memberSig (ConcurrentRoles.batchDeleteRolesIn ctx (deletionScope level) (deletionAllow ctx level) ids)
      >>= fun _ => pure ()

def accessSystem (codeScopes : List PermissionCodeScope) : System DB accessSig Err Unit AccessCall :=
  ⟨accessSem codeScopes, fun _ _ => true, accessProg⟩

/-! What a deletion executes. -/

def isZero : Except Err Nat → Bool
  | .ok n => n = 0
  | .error _ => false

def counted : (q : RoleStmt) → Except Err q.Ans → Option Int
  | .countRoleBindingsByRoleAndScope id _, r => if isZero r then some id else none
  | _, _ => none

/-- A role is deleted after it was counted, and nothing else is written. -/
def DeletesCounted (c : Option Int) : RoleStmt → Prop
  | .deleteRole id => c = some id
  | .createRole _ => False
  | .updateRole _ _ _ => False
  | .setPermissionRules _ _ => False
  | _ => True

def counting : Protocol roleSig Err (Option Int) := ⟨fun q c => DeletesCounted c q, fun q r _ => counted q r⟩

variable {c : Option Int}

namespace ConcurrentRoles

theorem follows_stmt (q : RoleStmt) (hq : DeletesCounted c q) :
    counting.Follows (fun c' r => c' = counted q r) c (Prog.ask (G := roleSig) q : RoleM q.Ans) :=
  ⟨hq, fun _ => rfl⟩

theorem follows_getWithRules (id : Int) (c : Option Int) :
    counting.Follows (fun _ _ => True) c (getWithRules id) := by
  have hget : counting.Follows (fun _ _ => True) c (getByID id) :=
    .bind (follows_stmt (.getRoleByID id) trivial) (fun _ role _ => by cases role <;> trivial) fun _ _ _ => trivial
  refine hget.bind (fun c' role _ => ?_) fun _ _ _ => trivial
  exact .bind (follows_stmt (.getRulesByRoleID id) trivial) (fun _ _ _ => trivial) fun _ _ _ => trivial

theorem follows_delete (id : Int) : counting.Follows (fun _ _ => True) (some id) (delete id) :=
  .bind (follows_stmt (.deleteRole id) rfl) (fun _ n _ => by split <;> trivial) fun _ _ _ => trivial

theorem counted_count {id : Int} {scope : Db.Scope} {r : Except Err Nat} (hr : r = .ok 0)
    (hc : c = counted (.countRoleBindingsByRoleAndScope id scope) r) : c = some id := by
  rw [hc, hr]
  rfl

theorem follows_deleteRoleIn (ctx : Ctx) (scope : Db.Scope) (allow : RoleRow → Except Err Unit) (id : Int)
    (c : Option Int) : counting.Follows (fun _ _ => True) c (deleteRoleIn ctx scope allow id) := by
  refine .bind (.mapErr _ (follows_getWithRules id c)) (fun c₁ existing _ => ?_) fun _ _ _ => trivial
  refine Protocol.Follows.bind (Q := fun _ _ => True) trivial (fun c₂ _ _ => ?_) fun _ _ _ => trivial
  refine .bind (.mapErr _ (follows_stmt (.countRoleBindingsByRoleAndScope id scope) trivial)) (fun c₃ n hn => ?_)
    fun _ _ _ => trivial
  obtain ⟨r, hr, hc⟩ := hn
  split
  · trivial
  · rename_i hzero
    split
    · trivial
    · have hr0 : r = .ok 0 := by
        cases r with
        | error e => cases hr
        | ok m =>
          cases hr
          exact congrArg Except.ok (Nat.eq_zero_of_not_pos hzero)
      rw [counted_count hr0 hc]
      exact follows_delete id

theorem follows_eligible (scope : Db.Scope) (allow : RoleRow → Except Err Unit) (id : Int) (c : Option Int) :
    counting.Follows (fun c' r => r = .ok true → c' = some id) c (eligible scope allow id) := by
  refine .bind (.attempt (follows_getWithRules id c)) (fun c₁ r _ => ?_) fun _ _ _ h => by cases h
  cases r with
  | error e => exact fun h => by cases h
  | ok existing =>
    dsimp only
    cases allow existing.toRoleRow with
    | error e => exact fun h => by cases h
    | ok u =>
      refine .bind (.attempt (follows_stmt (.countRoleBindingsByRoleAndScope id scope) trivial)) (fun c₂ n hn => ?_)
        fun _ _ _ h => by cases h
      obtain ⟨r, hr, hc⟩ := hn
      cases n with
      | error e => exact fun h => by cases h
      | ok m =>
        intro h
        refine counted_count ?_ hc
        cases hr
        have hm : decide (m = 0) = true := Except.ok.inj h
        rw [of_decide_eq_true hm]

theorem follows_batchDeleteRolesIn (ctx : Ctx) (scope : Db.Scope) (allow : RoleRow → Except Err Unit) (ids : List Int)
    (c : Option Int) : counting.Follows (fun _ _ => True) c (batchDeleteRolesIn ctx scope allow ids) := by
  have hloop : counting.Follows (fun _ _ => True) c (deleteEligible ctx scope allow ids) := by
    induction ids generalizing c with
    | nil => trivial
    | cons id ids ih =>
      refine .bind (follows_eligible scope allow id c) (fun c₁ ok hok => ?_) fun _ _ _ => trivial
      refine Protocol.Follows.bind (Q := fun _ _ => True) ?_ (fun c₂ success _ => ?_) fun _ _ _ => trivial
      · cases ok with
        | false => trivial
        | true =>
          rw [hok rfl]
          split
          · trivial
          · split
            · trivial
            · exact .bind (.attempt (follows_delete id)) (fun _ r _ => by cases r <;> trivial) fun _ _ _ => trivial
      · exact .bind (ih c₂) (fun _ _ _ => trivial) fun _ _ _ => trivial
  exact hloop.bind (fun _ _ _ => trivial) fun _ _ _ => trivial

end ConcurrentRoles

/-! The whole system. -/

def accessProtocol : Protocol accessSig Err (Option Int) where
  allows
    | .inl _, _ => True
    | .inr q, c => DeletesCounted c q
  next
    | .inl _, _, _ => none
    | .inr q, r, _ => counted q r

section

variable {α : Type} {c : Option Int}

theorem follows_inl (p : Prog memberSig Err α) (c : Option Int) :
    accessProtocol.Follows (fun _ _ => True) c (p.inl roleSig) := by
  induction p generalizing c with
  | done r => trivial
  | exec q next ih => exact ⟨trivial, fun r => ih r none⟩

theorem follows_inr {Q : Option Int → Except Err α → Prop} {p : Prog roleSig Err α} (h : counting.Follows Q c p) :
    accessProtocol.Follows Q c (p.inr memberSig) := by
  induction p generalizing c with
  | done r => exact h
  | exec q next ih => exact ⟨h.1, fun r => ih r (h.2 r)⟩

end

theorem follows_accessProg (call : AccessCall) (c : Option Int) :
    accessProtocol.Follows (fun _ _ => True) c (accessProg call) := by
  cases call with
  | grant g ctx body => exact (follows_inl _ c).bind (fun _ _ _ => trivial) fun _ _ _ => trivial
  | deleteRole level ctx id => exact follows_inr (ConcurrentRoles.follows_deleteRoleIn ctx _ _ id c)
  | deleteRoles level ctx ids =>
    exact (follows_inr (ConcurrentRoles.follows_batchDeleteRolesIn ctx _ _ ids c)).bind (fun _ _ _ => trivial)
      fun _ _ _ => trivial

def Unbound (id : Int) (db : DB) : Prop := ∀ b ∈ db.roleBindings, b.roleID ≠ id

def AboutToDelete (p : Prog accessSig Err Unit) (id : Int) : Prop := p.next? = some (.inr (.deleteRole id))

/-- An event that deletes a role finds nobody bound to it. -/
def Spares (codeScopes : List PermissionCodeScope) (st : Pool DB accessSig Err Unit) (e : Event AccessCall) : Prop :=
  ∀ id, (accessSystem codeScopes).executes? st e = some (.inr (.deleteRole id)) → Unbound id st.store

/-- A count finds no binding at another scope, and a grant no program about to delete its role. -/
def Undisputed (codeScopes : List PermissionCodeScope) (st : Pool DB accessSig Err Unit) (e : Event AccessCall) : Prop :=
  match (accessSystem codeScopes).executes? st e with
  | some (.inr (.countRoleBindingsByRoleAndScope id scope)) =>
    ∀ b ∈ st.store.roleBindings, b.roleID = id → b.scope = scope
  | some (.inl q) => ∀ row ∈ MemberStmt.grants q, ∀ p ∈ st.threads, ¬ AboutToDelete p row.roleID
  | _ => True

section Run

variable {codeScopes : List PermissionCodeScope} {db : DB}

theorem bindings_of_member (q : MemberStmt) {b : RoleBindingRow} (hb : b ∈ (q.sem.exec db).roleBindings) :
    b ∈ db.roleBindings ∨ ∃ row ∈ q.grants, b.roleID = row.roleID := by
  rcases (attempted_sem q db).cases with heq | ⟨rows, hrows, -, hg⟩
  · rw [heq] at hb
    exact .inl hb
  · cases hrows
    exact (hg.new b hb).imp_right fun ⟨row, hrow, i, hrow'⟩ => ⟨row, hrow, by rw [hrow']⟩

theorem bindings_of_role {q : RoleStmt} (hq : DeletesCounted c q) {b : RoleBindingRow}
    (hb : b ∈ ((q.sem codeScopes).exec db).roleBindings) : b ∈ db.roleBindings := by
  cases q with
  | deleteRole id => exact (Table.mem_delete.1 hb).1
  | createRole p => exact hq.elim
  | updateRole id displayName description => exact hq.elim
  | setPermissionRules id patterns => exact hq.elim
  | _ => exact hb

/-- A program between two steps: it keeps to the rule, and nobody is bound to the role it is
about to delete. -/
def Guarded (db : DB) (p : Prog accessSig Err Unit) : Prop :=
  (∃ c, accessProtocol.Follows (fun _ _ => True) c p) ∧ ∀ id, AboutToDelete p id → Unbound id db

theorem eq_of_aboutToDelete {p : Prog accessSig Err Unit} {id : Int}
    (h : accessProtocol.Follows (fun _ _ => True) c p) (hp : AboutToDelete p id) : c = some id := by
  cases p with
  | done r => cases hp
  | exec q next =>
    cases hp
    exact h.1

theorem unbound_of_note {q : accessSig.Stmt} {id : Int}
    (hnote : accessProtocol.next q ((accessSem codeScopes q).result db) c = some id)
    (hsafe : ∀ i scope, q = .inr (.countRoleBindingsByRoleAndScope i scope) →
      ∀ b ∈ db.roleBindings, b.roleID = i → b.scope = scope) :
    Unbound id ((accessSem codeScopes q).exec db) := by
  match q with
  | .inl q => cases hnote
  | .inr (.countRoleBindingsByRoleAndScope i scope) =>
    have hzero : isZero (.ok (db.roleBindings.count fun b => b.roleID = i && b.scope = scope)) = true ∧ i = id := by
      have h : (if isZero (.ok (db.roleBindings.count fun b => b.roleID = i && b.scope = scope)) then some i else none) =
        some id := hnote
      split at h
      · rename_i hz
        exact ⟨hz, Option.some.inj h⟩
      · cases h
    obtain ⟨hcount, rfl⟩ := hzero
    intro b hb hid
    have hscope := hsafe i scope rfl b hb hid
    refine Table.count_eq_zero.1 (of_decide_eq_true hcount) b hb ?_
    simp [hid, hscope]
  | .inr (.getRoleByID _) => cases hnote
  | .inr (.getRulesByRoleID _) => cases hnote
  | .inr .listCodeScopes => cases hnote
  | .inr (.createRole _) => cases hnote
  | .inr (.updateRole _ _ _) => cases hnote
  | .inr (.setPermissionRules _ _) => cases hnote
  | .inr (.deleteRole _) => cases hnote

theorem guarded_step (st : Pool DB accessSig Err Unit) (e : Event AccessCall)
    (h : ∀ p ∈ st.threads, Guarded st.store p) (hsafe : Undisputed codeScopes st e) :
    ∀ p ∈ ((accessSystem codeScopes).step st e).threads, Guarded ((accessSystem codeScopes).step st e).store p := by
  cases e with
  | call call =>
    intro p hp
    rcases List.mem_append.1 hp with hp | hp
    · exact h p hp
    · rw [List.mem_singleton.1 hp]
      refine ⟨⟨none, follows_accessProg call none⟩, fun id hid => ?_⟩
      cases eq_of_aboutToDelete (follows_accessProg call none) hid
  | step i =>
    rcases (accessSystem codeScopes).step_cases st i with heq | ⟨q, next, hthread, -, hexec, heq⟩
    · rw [heq]
      exact h
    rw [Undisputed, hexec] at hsafe
    rw [heq]
    obtain ⟨⟨c, hq, hnext⟩, -⟩ := h _ (List.mem_of_getElem? hthread)
    intro p hp
    rcases List.mem_or_eq_of_mem_set hp with hmem | rfl
    · -- another program: the statement binds nobody to the role it is about to delete
      obtain ⟨htracks, hunbound⟩ := h p hmem
      refine ⟨htracks, fun id hid b hb => ?_⟩
      have hold := hunbound id hid
      cases q with
      | inl q =>
        rcases bindings_of_member q hb with hb | ⟨row, hrow, hrole⟩
        · exact hold b hb
        · intro heq
          exact hsafe row hrow p hmem (by rw [← hrole, heq]; exact hid)
      | inr q => exact hold b (bindings_of_role hq hb)
    · refine ⟨⟨_, hnext _⟩, fun id hid => unbound_of_note (eq_of_aboutToDelete (hnext _) hid) ?_⟩
      intro j scope hq'
      subst hq'
      exact hsafe

end Run

/-- If no count finds its role bound at another scope and no role is granted that a program is about to
delete, every deletion finds its role without bindings. -/
theorem no_access_lost (codeScopes : List PermissionCodeScope) (db : DB) (es : List (Event AccessCall))
    (h : Along (accessSystem codeScopes).step (Undisputed codeScopes) (.init db) es) :
    Along (accessSystem codeScopes).step (Spares codeScopes) (.init db) es := by
  have hinv : ∀ st ∈ states (accessSystem codeScopes).step (.init db) es, ∀ p ∈ st.threads, Guarded st.store p :=
    forall_states_of_along guarded_step (fun p hp => by cases hp) h
  refine along_of_states (fun st e hst _ id hid => ?_) hinv
  cases e with
  | call c => cases hid
  | step i =>
    obtain ⟨next, hthread, -⟩ := (System.executes?_step _).1 hid
    exact (hst _ (List.mem_of_getElem? hthread)).2 id rfl

/-! A platform role that is bound in a workspace. -/

def operators : DB :=
  { DB.redWorkspace with roles := .ofRows [⟨1, "operators", "", "", .platform, none, none, false, chkScope_platform⟩] 2 (by decide) }

def adminCtx : Ctx := ⟨⟨7, "ana"⟩, ⟨scopeWorkspace, 1, 0⟩, 0, [], [], false, some 7⟩

def addOperator : AccessCall := .grant .workspaceUsers adminCtx (.json ⟨["8"], "1"⟩)

def bindOperator : AccessCall := .grant .roleBindings adminCtx (.json ⟨["8"], "1"⟩)

def deleteOperators : AccessCall := .deleteRole none adminCtx 1

theorem unused_role_deleted :
    Along (accessSystem []).step (Undisputed []) (.init operators) [.call deleteOperators, .step 0, .step 0, .step 0, .step 0] ∧
      Along (accessSystem []).step (Spares []) (.init operators) [.call deleteOperators, .step 0, .step 0, .step 0, .step 0] := by
  have h : Along (accessSystem []).step (Undisputed []) (.init operators)
      [.call deleteOperators, .step 0, .step 0, .step 0, .step 0] := by
    refine ⟨trivial, trivial, trivial, ?_, trivial, trivial⟩
    show ∀ b ∈ operators.roleBindings, b.roleID = 1 → b.scope = .platform
    decide
  exact ⟨h, no_access_lost [] operators _ h⟩

/-- The binding in the workspace is not counted, and the one that is made between the count and
the deletion was not there. -/
theorem access_lost :
    ¬ Along (accessSystem []).step (Spares []) (.init operators)
      [.call addOperator, .step 0, .step 0, .call deleteOperators, .step 1, .step 1, .step 1, .step 1] ∧
    ¬ Along (accessSystem []).step (Spares []) (.init operators)
      [.call deleteOperators, .step 0, .step 0, .step 0, .call bindOperator, .step 1, .step 1, .step 0] := by
  constructor
  · intro h
    have hlast := h.2.2.2.2.2.2.2.1 1 rfl
    exact absurd rfl (hlast { (Place.workspace 1).grant 8 1 false with id := 1 } (by decide))
  · intro h
    have hlast := h.2.2.2.2.2.2.2.1 1 rfl
    exact absurd rfl (hlast { Place.platform.grant 8 1 false with id := 1 } (by decide))

end Vraxel.Iam
