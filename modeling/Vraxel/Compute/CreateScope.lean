import Vraxel.Compute.Create
import Vraxel.Compute.HostWatch
/-
  Whether the tenancy columns of rows created under `/workspaces/{w}/namespaces/{n}` name a namespace
  and its owner.
-/

namespace Vraxel.Compute

open Relational Api Db Txn ApiServer

inductive Creation where
  | host (h : Host)
  | alertRule (r : HostAlertRule)
  | joinToken (t : AgentJoinToken)

namespace Creation

variable (env : JoinTokenEnv) (ctx : Ctx)

def run : Creation → DbM Unit
  | .host h => do let _ ← HostOps.create ctx h
  | .alertRule r => do let _ ← AlertOps.create ctx r
  | .joinToken t => do let _ ← JoinTokenOps.create env ctx t

/-- The tenancy of the row an accepted request asks for: its fields pass
validation, the host of a bound token is visible, and no constraint of the table
is violated. -/
def accepted (db : DB) : Creation → Option ScopeParts
  | .host h =>
    let p := HostOps.input ctx h
    if validateHostCreate h = .ok () ∧ createHostChecks p db = .ok () then some p.parts else none
  | .alertRule r =>
    match alertRuleInput r with
    | .error _ => none
    | .ok input =>
      let p := PgAlertRuleStore.params (scopeFilter ctx).partsForCreate ctx.userID input
      if createHostAlertRuleChecks p db = .ok () then some p.parts else none
  | .joinToken t =>
    match (JoinTokenOps.target (scopeFilter ctx) t.spec.targetHostID).result db with
    | .error _ => none
    | .ok target =>
      let p := JoinTokenOps.input env ctx t target
      if 1 ≤ JoinTokenOps.ttl t ∧ JoinTokenOps.ttl t ≤ maxJoinTokenTTLHours ∧
        createHostAgentJoinTokenChecks p db = .ok () then some p.parts else none

end Creation

/-- A host, an alert rule or a join token with these tenancy columns is new. -/
def Inserts (db db' : DB) (w n : Option Int) : Prop :=
  (∃ h ∈ db'.hosts, h ∉ db.hosts ∧ h.workspaceID = w ∧ h.namespaceID = n) ∨
    (∃ r ∈ db'.hostAlertRules, r ∉ db.hostAlertRules ∧ r.workspaceID = w ∧ r.namespaceID = n) ∨
    (∃ t ∈ db'.joinTokens, t ∉ db.joinTokens ∧ t.workspaceID = w ∧ t.namespaceID = n)

/-- The two columns name a namespace and its owner. -/
def Consistent (db : DB) (w n : Option Int) : Prop := w.isSome ∧ n.bind db.workspaceOf = w

/-- What a create request under `/workspaces/{w}/namespaces/{n}` should do. -/
def CreatesConsistently (w n : Int) (db db' : DB) : Prop :=
  (∀ w' n', Inserts db db' w' n' → Consistent db w' n') ∧
    (db.workspaceOf n ≠ some w → ∀ w' n', ¬ Inserts db db' w' n')

/-! What a request inserts. -/

theorem not_inserts_self (db : DB) (w n : Option Int) : ¬ Inserts db db w n := by
  rintro (⟨r, h, h', -⟩ | ⟨r, h, h', -⟩ | ⟨r, h, h', -⟩) <;> exact h' h

theorem exists_new_iff {Row : Type} [Keyed Row] {t : Table Row} {row : Row} {p : Row → Prop} :
    (∃ r ∈ t.insert row, r ∉ t ∧ p r) ↔ p (t.inserted row) := by
  constructor
  · rintro ⟨r, hr, hnew, hp⟩
    rcases Table.mem_insert.1 hr with h | rfl
    · exact absurd h hnew
    · exact hp
  · intro hp
    refine ⟨_, Table.mem_insert.2 (.inr rfl), fun h => ?_, hp⟩
    exact Table.key_ne_next h (Table.key_inserted t row)

theorem not_exists_new {Row : Type} [Keyed Row] {t : Table Row} {p : Row → Prop} :
    ¬ ∃ r ∈ t, r ∉ t ∧ p r := fun ⟨_, h, h', _⟩ => h' h

variable (sf : Filter) {db : DB}

theorem inserts_host_iff {p : CreateHostParams} {w n : Option Int} :
    Inserts db { db with hosts := db.hosts.insert p.row } w n ↔
      p.parts.workspaceID = w ∧ p.parts.namespaceID = n := by
  simp only [Inserts, exists_new_iff, not_exists_new, or_false]
  exact Iff.rfl

theorem inserts_alertRule_iff {p : CreateHostAlertRuleParams} {w n : Option Int} :
    Inserts db { db with hostAlertRules := db.hostAlertRules.insert p.row } w n ↔
      p.parts.workspaceID = w ∧ p.parts.namespaceID = n := by
  simp only [Inserts, exists_new_iff, not_exists_new, or_false, false_or]
  exact Iff.rfl

theorem inserts_joinToken_iff {p : CreateHostAgentJoinTokenParams} {w n : Option Int} :
    Inserts db { db with joinTokens := db.joinTokens.insert p.row } w n ↔
      p.parts.workspaceID = w ∧ p.parts.namespaceID = n := by
  simp only [Inserts, exists_new_iff, not_exists_new, false_or]
  exact Iff.rfl

theorem readsOnly_pure {α : Type} (a : α) : ReadsOnly (pure a : DbM α) := fun _ => rfl

theorem readsOnly_lift {α : Type} (r : Except Err α) : ReadsOnly (lift r : DbM α) := fun _ => rfl

theorem PgHostStore.getByID_keeps (id : Int) (sf : Filter) (I : DB → Prop) : Keeps I (getByID id sf) :=
  .bind (.read _) fun
    | none => .fail _
    | some _ => .pure _

theorem PgAlertRuleStore.getByID_keeps (id : Int) (sf : Filter) (I : DB → Prop) : Keeps I (getByID id sf) :=
  .bind (.read _) fun
    | none => .fail _
    | some _ => .pure _

theorem HostOps.readsOnly_get (ctx : Ctx) (id : Int) : ReadsOnly (get ctx id) :=
  .of_keeps fun I => .bind (.mapErr (PgHostStore.getByID_keeps id _ I)) fun _ => .pure _

theorem AlertOps.readsOnly_get (ctx : Ctx) (id : Int) : ReadsOnly (get ctx id) :=
  .of_keeps fun I => .bind (.mapErr (PgAlertRuleStore.getByID_keeps id _ I)) fun _ => .pure _

theorem JoinTokenOps.readsOnly_target (raw : String) : ReadsOnly (target sf raw) := by
  refine .of_keeps fun I => ?_
  unfold target
  split
  · exact .pure _
  · split
    · exact .fail _
    · split
      · exact .fail _
      · exact .bind (.mapErr (PgHostStore.getByID_keeps _ sf I)) fun _ => .pure _

/-! The store after each operation. -/

theorem HostOps.exec_create (ctx : Ctx) (h : Host) (db : DB) :
    (create ctx h).exec db =
      if validateHostCreate h = .ok () ∧ createHostChecks (input ctx h) db = .ok () then
        { db with hosts := db.hosts.insert (input ctx h).row }
      else db := by
  simp only [create, exec_lift_bind, exec_bind_of_readsOnly (readsOnly_get ctx), domainErr, exec_mapErr,
    PgHostStore.create, exec_bind_of_readsOnly (fun _ => readsOnly_pure _), createHost, Slot.exec_insert]
  rw [ite_and]
  rfl

theorem AlertOps.exec_create (ctx : Ctx) (r : HostAlertRule) (db : DB) :
    (create ctx r).exec db = match alertRuleInput r with
      | .error _ => db
      | .ok input =>
        let p := PgAlertRuleStore.params (scopeFilter ctx).partsForCreate ctx.userID input
        if createHostAlertRuleChecks p db = .ok () then
          { db with hostAlertRules := db.hostAlertRules.insert p.row }
        else db := by
  rw [create, (readsOnly_lift _).exec_bind]
  simp only [exec_bind_of_readsOnly (readsOnly_get ctx), domainErr, exec_mapErr, PgAlertRuleStore.create,
    exec_bind_of_readsOnly (fun _ => readsOnly_pure _), createHostAlertRule, Slot.exec_insert]
  cases alertRuleInput r <;> rfl

theorem JoinTokenOps.exec_create (env : JoinTokenEnv) (ctx : Ctx) (t : AgentJoinToken) (db : DB) :
    (create env ctx t).exec db = match (target (scopeFilter ctx) t.spec.targetHostID).result db with
      | .error _ => db
      | .ok host =>
        let p := input env ctx t host
        if 1 ≤ ttl t ∧ ttl t ≤ maxJoinTokenTTLHours ∧ createHostAgentJoinTokenChecks p db = .ok () then
          { db with joinTokens := db.joinTokens.insert p.row }
        else db := by
  by_cases httl : 1 ≤ ttl t ∧ ttl t ≤ maxJoinTokenTTLHours
  · have hno : ¬ (ttl t < 1 || ttl t > maxJoinTokenTTLHours) := by
      simp only [Bool.or_eq_true, decide_eq_true_eq]
      omega
    rw [create, if_neg hno, (readsOnly_target _ _).exec_bind]
    simp only [domainErr, exec_mapErr, PgJoinTokenStore.create,
      exec_bind_of_readsOnly (fun _ => readsOnly_pure _), createHostAgentJoinToken, Slot.exec_insert]
    cases (target (scopeFilter ctx) t.spec.targetHostID).result db with
    | error e => rfl
    | ok host => simp only [httl.1, httl.2, true_and]; rfl
  · have hno : ttl t < 1 || ttl t > maxJoinTokenTTLHours := by
      simp only [Bool.or_eq_true, decide_eq_true_eq]
      omega
    rw [create, if_pos hno]
    cases (target (scopeFilter ctx) t.spec.targetHostID).result db with
    | error e => rfl
    | ok host => exact (if_neg fun h => httl ⟨h.1, h.2.1⟩).symm

theorem inserts_iff (env : JoinTokenEnv) (ctx : Ctx) (c : Creation) (db : DB) (w n : Option Int) :
    Inserts db ((c.run env ctx).exec db) w n ↔
      ∃ parts, c.accepted env ctx db = some parts ∧ parts.workspaceID = w ∧ parts.namespaceID = n := by
  cases c with
  | host h =>
    rw [Creation.run, exec_bind_of_readsOnly (fun _ => readsOnly_pure _), HostOps.exec_create, Creation.accepted]
    split <;> simp [not_inserts_self, inserts_host_iff]
  | alertRule r =>
    rw [Creation.run, exec_bind_of_readsOnly (fun _ => readsOnly_pure _), AlertOps.exec_create, Creation.accepted]
    cases alertRuleInput r with
    | error e => simp [not_inserts_self]
    | ok input => dsimp only; split <;> simp [not_inserts_self, inserts_alertRule_iff]
  | joinToken t =>
    rw [Creation.run, exec_bind_of_readsOnly (fun _ => readsOnly_pure _), JoinTokenOps.exec_create,
      Creation.accepted]
    cases (JoinTokenOps.target (scopeFilter ctx) t.spec.targetHostID).result db with
    | error e => simp [not_inserts_self]
    | ok host => dsimp only; split <;> simp [not_inserts_self, inserts_joinToken_iff]

/-! The tenancy of an accepted request. -/

/-- The tenancy columns agree with the ids the URL claimed, where it claimed one. -/
def Filter.Admits (sf : Filter) (w n : Option Int) : Prop := passes sf.workspaceID w ∧ passes sf.namespaceID n

theorem Filter.admits_partsForCreate :
    sf.Admits sf.partsForCreate.workspaceID sf.partsForCreate.namespaceID := by
  simp [Filter.Admits, passes, Filter.partsForCreate_workspaceID, Filter.partsForCreate_namespaceID]

theorem Filter.admits_fromIDs {w n : Int} {w' n' : Option Int} (hw : 0 < w) (hn : 0 < n)
    (h : (Filter.fromIDs w n).Admits w' n') : w' = some w ∧ n' = some n := by
  simpa [Filter.Admits, Filter.fromIDs, hw, hn, passes_some_iff] using h

theorem PgHostStore.getByID_ok {id : Int} {sf : Filter} {db' : DB} {row : HostDetailRow}
    (h : (getByID id sf).run db = (.ok row, db')) : sf.Admits row.workspaceID row.namespaceID := by
  simp only [getByID, getHostByID, run_read_bind] at h
  cases hfind : db.hosts.find? fun h => h.id = id && passes sf.workspaceID h.workspaceID &&
      passes sf.namespaceID h.namespaceID with
  | none => simp [hfind] at h
  | some r =>
    have hp := (Table.find?_some hfind).2
    simp only [hfind, Option.map_some, run_pure, Prod.mk.injEq, Except.ok.injEq] at h
    rw [← h.1]
    simp only [Bool.and_eq_true, decide_eq_true_eq] at hp
    exact ⟨hp.1.2, hp.2⟩

theorem JoinTokenOps.admits_parts {sf : Filter} {raw : String} {host : Option HostDetailRow}
    (h : (target sf raw).result db = .ok host) :
    sf.Admits (parts sf host).workspaceID (parts sf host).namespaceID := by
  cases host with
  | none => exact sf.admits_partsForCreate
  | some host =>
    have hrun : (target sf raw).run db = (.ok (some host), db) :=
      Prod.ext h (readsOnly_target sf raw db)
    unfold target at hrun
    split at hrun
    · simp at hrun
    · split at hrun
      · simp at hrun
      · split at hrun
        · simp at hrun
        · simp only [domainErr, bind_ok_iff, mapErr_ok_iff, pure_ok_iff] at hrun
          obtain ⟨row, _, hget, hrow, -⟩ := hrun
          cases hrow
          exact PgHostStore.getByID_ok hget

theorem admits_of_accepted {env : JoinTokenEnv} {ctx : Ctx} {c : Creation} {parts : ScopeParts}
    (h : c.accepted env ctx db = some parts) :
    (scopeFilter ctx).Admits parts.workspaceID parts.namespaceID := by
  cases c with
  | host r =>
    simp only [Creation.accepted, Option.ite_none_right_eq_some, Option.some.injEq] at h
    rw [← h.2]
    exact Filter.admits_partsForCreate _
  | alertRule r =>
    rw [Creation.accepted] at h
    cases hin : alertRuleInput r with
    | error e => simp [hin] at h
    | ok input =>
      simp only [hin, Option.ite_none_right_eq_some, Option.some.injEq] at h
      rw [← h.2]
      exact Filter.admits_partsForCreate _
  | joinToken t =>
    rw [Creation.accepted] at h
    cases htarget : (JoinTokenOps.target (scopeFilter ctx) t.spec.targetHostID).result db with
    | error e => simp [htarget] at h
    | ok host =>
      simp only [htarget, Option.ite_none_right_eq_some, Option.some.injEq] at h
      rw [← h.2]
      exact JoinTokenOps.admits_parts htarget

/-- The foreign key from `namespaces` to `workspaces`. -/
def OwnersExist (db : DB) : Prop := ∀ ns ∈ db.namespaces, references db.workspaces (some ns.workspaceID)

instance (db : DB) : Decidable (OwnersExist db) :=
  inferInstanceAs (Decidable (∀ ns ∈ db.namespaces.rows, references db.workspaces (some ns.workspaceID)))

theorem workspaceOf_pos (hfk : OwnersExist db) {w n : Int} (h : db.workspaceOf n = some w) :
    0 < w ∧ 0 < n := by
  obtain ⟨ns, hns, rfl, rfl⟩ := DB.workspaceOf_eq_some_iff.1 h
  obtain ⟨ws, hws, hid⟩ := references_some_iff.1 (hfk ns hns)
  exact ⟨hid ▸ Table.key_pos hws, Table.key_pos hns⟩

/-- The rows created under `/workspaces/{w}/namespaces/{n}` are consistent, and none is created if `n`
is not a namespace of `w`, exactly if the request is refused or `w` owns `n`. -/
theorem creates_consistently_iff (env : JoinTokenEnv) (ctx : Ctx) (c : Creation) (db : DB)
    (hfk : OwnersExist db) :
    CreatesConsistently ctx.scope.workspaceID ctx.scope.namespaceID db ((c.run env ctx).exec db) ↔
      c.accepted env ctx db = none ∨ db.workspaceOf ctx.scope.namespaceID = some ctx.scope.workspaceID := by
  simp only [CreatesConsistently, inserts_iff]
  constructor
  · rintro ⟨-, hnone⟩
    by_contra hcon
    rw [not_or, ← ne_eq, Option.ne_none_iff_exists'] at hcon
    obtain ⟨⟨parts, hparts⟩, hforeign⟩ := hcon
    exact hnone hforeign _ _ ⟨parts, hparts, rfl, rfl⟩
  · rintro (hrefused | howned)
    · simp [hrefused]
    · refine ⟨?_, fun h => absurd howned h⟩
      rintro w' n' ⟨parts, hparts, rfl, rfl⟩
      obtain ⟨hw, hn⟩ := workspaceOf_pos hfk howned
      obtain ⟨hpw, hpn⟩ := Filter.admits_fromIDs hw hn (admits_of_accepted hparts)
      rw [hpw, hpn]
      exact ⟨rfl, howned⟩

/-! A namespace of another workspace. -/

def twoWorkspaces : DB :=
  { DB.empty with
    users := .ofRows [⟨1, "ana", "ana@example.com", "", "", "", "active", "", false⟩] 2 (by decide)
    workspaces := .ofRows [⟨1, "red", "", "", 1, "active", some 1⟩, ⟨2, "blue", "", "", 1, "active", some 1⟩] 3 (by decide)
    namespaces := .ofRows [⟨5, "blue-prod", "", "", 2, 1, "private", 0, "active", some 1⟩] 6 (by decide) }

def testEnv : JoinTokenEnv := ⟨"https://vraxel.example", 0, "secret", fun s => "sha256:" ++ s⟩

def requests : List Creation := [
  .host { name := "node-1", spec := { ip := "10.0.0.1" } },
  .alertRule { name := "cpu", spec := { metric := "cpu_used_pct", op := "gt", threshold := 90, severity := "warning" } },
  .joinToken { name := "join" }]

def ctxAt (w : Int) : Ctx := ⟨⟨1, "ana"⟩, ⟨scopeNamespace, w, 5⟩, 0, [], [], false, some 1⟩

theorem created_in_own_namespace :
    twoWorkspaces.workspaceOf 5 = some 2 ∧
      ∀ c ∈ requests, (c.accepted testEnv (ctxAt 2) twoWorkspaces).isSome ∧
        CreatesConsistently 2 5 twoWorkspaces ((c.run testEnv (ctxAt 2)).exec twoWorkspaces) := by
  refine ⟨by decide, fun c hc => ⟨by revert c; decide, ?_⟩⟩
  exact (creates_consistently_iff testEnv (ctxAt 2) c twoWorkspaces (by decide)).2 (.inr (by decide))

/-- Under the path of another workspace all three rows are created as well. -/
theorem created_in_foreign_namespace :
    twoWorkspaces.workspaceOf 5 = some 2 ∧
      buildCtx ⟨[("workspaceId", "1"), ("namespaceId", "5")], [], some 1, "ana"⟩
        (hostsDef.routeMeta scopeNamespace "create" false) = .ok (ctxAt 1) ∧
      ∀ c ∈ requests,
        ¬ CreatesConsistently 1 5 twoWorkspaces ((c.run testEnv (ctxAt 1)).exec twoWorkspaces) := by
  have haccepted : ∀ c ∈ requests, c.accepted testEnv (ctxAt 1) twoWorkspaces =
      some ⟨.namespace, some 1, some 5, rfl⟩ := by decide
  refine ⟨by decide, by decide, fun c hc h => ?_⟩
  exact h.2 (by decide) _ _ ((inserts_iff _ _ c _ _ _).2 ⟨_, haccepted c hc, rfl, rfl⟩)

end Vraxel.Compute
