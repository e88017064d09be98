import Vraxel.Lib.Statement
import Vraxel.Api.Errors
import Vraxel.Go.Strings
/-
  The database: the tables of `pkg/db/migrations` the modelled code reads or
  writes, and their constraints.

  Every table with a serial key is a `Table`, so keys are unique by type. The CHECK constraints on
  the tenancy columns are fields of the rows: a row whose scope and ids disagree cannot be built.
-/

namespace Vraxel.Db

open Relational Api

inductive Scope where
  | platform
  | workspace
  | namespace
  deriving DecidableEq

def Scope.name : Scope → String
  | .platform => "platform"
  | .workspace => "workspace"
  | .namespace => "namespace"

def chkScope : Scope → Option Int → Option Int → Bool
  | .platform, none, none => true
  | .workspace, some _, none => true
  | .namespace, _, some _ => true
  | _, _, _ => false

theorem chkScope_platform : chkScope .platform none none := rfl

theorem chkScope_workspace (w : Int) : chkScope .workspace (some w) none := rfl

theorem chkScope_namespace (w : Option Int) (n : Int) : chkScope .namespace w (some n) := by
  cases w <;> rfl

def chkBindingIds : Scope → Option Int → Option Int → Bool
  | .platform, none, none => true
  | .workspace, some _, none => true
  | .namespace, some _, some _ => true
  | _, _, _ => false

structure UserRow where
  id : Int
  username : String
  email : String
  displayName : String
  phone : String
  avatarURL : String
  status : String
  passwordHash : String
  builtin : Bool
  deriving DecidableEq

structure WorkspaceRow where
  id : Int
  name : String
  displayName : String
  description : String
  ownerID : Int
  status : String
  createdBy : Option Int
  deriving DecidableEq

structure NamespaceRow where
  id : Int
  name : String
  displayName : String
  description : String
  workspaceID : Int
  ownerID : Int
  visibility : String
  maxMembers : Int
  status : String
  createdBy : Option Int
  deriving DecidableEq

/-- The three tenancy columns, with the CHECK the tables have on them. -/
structure ScopeParts where
  scope : Scope
  workspaceID : Option Int
  namespaceID : Option Int
  chk : chkScope scope workspaceID namespaceID := by decide
  deriving DecidableEq

structure RoleRow where
  id : Int
  name : String
  displayName : String
  description : String
  scope : Scope
  workspaceID : Option Int
  namespaceID : Option Int
  builtin : Bool
  chk : chkScope scope workspaceID namespaceID := by decide
  deriving DecidableEq

namespace RoleRow

/-! The built-in roles of the platform, a workspace and a namespace. -/

def platformBuiltin (id : Int) (name : String) : RoleRow :=
  ⟨id, name, "", "", .platform, none, none, true, chkScope_platform⟩

def workspaceBuiltin (id : Int) (name : String) (w : Int) : RoleRow :=
  ⟨id, name, "", "", .workspace, some w, none, true, chkScope_workspace w⟩

def namespaceBuiltin (id : Int) (name : String) (n : Int) : RoleRow :=
  ⟨id, name, "", "", .namespace, none, some n, true, chkScope_namespace none n⟩

end RoleRow

structure RolePermissionRule where
  roleID : Int
  pattern : String
  deriving DecidableEq

structure RoleBindingRow where
  id : Int
  userID : Int
  roleID : Int
  scope : Scope
  workspaceID : Option Int
  namespaceID : Option Int
  isOwner : Bool
  chk : chkBindingIds scope workspaceID namespaceID := by decide
  deriving DecidableEq

structure UserIdentityRow where
  id : Int
  userID : Int
  provider : String
  providerSubject : String
  email : String
  deriving DecidableEq

structure HostRow where
  id : Int
  name : String
  displayName : String
  description : String
  scope : Scope
  workspaceID : Option Int
  namespaceID : Option Int
  sshPort : Int
  origin : String
  connectivityMode : String
  primaryIPOverride : String
  createdBy : Option Int
  chk : chkScope scope workspaceID namespaceID := by decide
  deriving DecidableEq

/-- A threshold is a `real` column; the model keeps its exact value. -/
structure HostAlertRuleRow where
  id : Int
  name : String
  description : String
  scope : Scope
  workspaceID : Option Int
  namespaceID : Option Int
  metric : String
  op : String
  threshold : Rat
  forSeconds : Int
  severity : String
  enabled : Bool
  createdBy : Option Int
  deriving DecidableEq

structure JoinTokenRow where
  id : Int
  name : String
  tokenHash : String
  scope : Scope
  workspaceID : Option Int
  namespaceID : Option Int
  maxUses : Int
  usedCount : Int
  expiresAt : Int
  createdBy : Option Int
  targetHostID : Option Int
  chk : chkScope scope workspaceID namespaceID := by decide
  deriving DecidableEq

instance : Keyed UserRow := ⟨(·.id), fun r i => { r with id := i }, fun _ _ => rfl, fun _ => rfl⟩
instance : Keyed WorkspaceRow := ⟨(·.id), fun r i => { r with id := i }, fun _ _ => rfl, fun _ => rfl⟩
instance : Keyed NamespaceRow := ⟨(·.id), fun r i => { r with id := i }, fun _ _ => rfl, fun _ => rfl⟩
instance : Keyed RoleRow := ⟨(·.id), fun r i => { r with id := i }, fun _ _ => rfl, fun _ => rfl⟩
instance : Keyed RoleBindingRow := ⟨(·.id), fun r i => { r with id := i }, fun _ _ => rfl, fun _ => rfl⟩
instance : Keyed UserIdentityRow := ⟨(·.id), fun r i => { r with id := i }, fun _ _ => rfl, fun _ => rfl⟩
instance : Keyed HostRow := ⟨(·.id), fun r i => { r with id := i }, fun _ _ => rfl, fun _ => rfl⟩
instance : Keyed HostAlertRuleRow := ⟨(·.id), fun r i => { r with id := i }, fun _ _ => rfl, fun _ => rfl⟩
instance : Keyed JoinTokenRow := ⟨(·.id), fun r i => { r with id := i }, fun _ _ => rfl, fun _ => rfl⟩

@[simp] theorem key_user (r : UserRow) : key r = r.id := rfl
@[simp] theorem key_workspace (r : WorkspaceRow) : key r = r.id := rfl
@[simp] theorem key_namespace (r : NamespaceRow) : key r = r.id := rfl
@[simp] theorem key_role (r : RoleRow) : key r = r.id := rfl
@[simp] theorem key_roleBinding (r : RoleBindingRow) : key r = r.id := rfl
@[simp] theorem key_userIdentity (r : UserIdentityRow) : key r = r.id := rfl
@[simp] theorem key_host (r : HostRow) : key r = r.id := rfl
@[simp] theorem key_alertRule (r : HostAlertRuleRow) : key r = r.id := rfl
@[simp] theorem key_joinToken (r : JoinTokenRow) : key r = r.id := rfl

structure DB where
  users : Table UserRow
  workspaces : Table WorkspaceRow
  namespaces : Table NamespaceRow
  roles : Table RoleRow
  rolePermissionRules : List RolePermissionRule
  roleBindings : Table RoleBindingRow
  userIdentities : Table UserIdentityRow
  hosts : Table HostRow
  hostAlertRules : Table HostAlertRuleRow
  joinTokens : Table JoinTokenRow
  deriving DecidableEq

def DB.empty : DB :=
  ⟨.empty, .empty, .empty, .empty, [], .empty, .empty, .empty, .empty, .empty⟩

def DB.redWorkspace : DB :=
  { DB.empty with
    users := .ofRows [⟨7, "ana", "ana@example.com", "", "", "", "active", "", false⟩,
      ⟨8, "bo", "bo@example.com", "", "", "", "active", "", false⟩] 9 (by decide)
    workspaces := .ofRows [⟨1, "red", "", "", 7, "active", some 7⟩] 2 (by decide) }

/-- A program over the database. -/
abbrev DbM := Txn.M DB Err

/-! The tables the modelled statements write. -/

def usersTable : Slot DB UserRow :=
  ⟨DB.users, fun t db => { db with users := t }, fun _ _ => rfl, fun _ => rfl⟩
def workspacesTable : Slot DB WorkspaceRow :=
  ⟨DB.workspaces, fun t db => { db with workspaces := t }, fun _ _ => rfl, fun _ => rfl⟩

def namespacesTable : Slot DB NamespaceRow :=
  ⟨DB.namespaces, fun t db => { db with namespaces := t }, fun _ _ => rfl, fun _ => rfl⟩
def roleBindingsTable : Slot DB RoleBindingRow :=
  ⟨DB.roleBindings, fun t db => { db with roleBindings := t }, fun _ _ => rfl, fun _ => rfl⟩
def userIdentitiesTable : Slot DB UserIdentityRow :=
  ⟨DB.userIdentities, fun t db => { db with userIdentities := t }, fun _ _ => rfl, fun _ => rfl⟩
def hostsTable : Slot DB HostRow :=
  ⟨DB.hosts, fun t db => { db with hosts := t }, fun _ _ => rfl, fun _ => rfl⟩
def hostAlertRulesTable : Slot DB HostAlertRuleRow :=
  ⟨DB.hostAlertRules, fun t db => { db with hostAlertRules := t }, fun _ _ => rfl, fun _ => rfl⟩
def joinTokensTable : Slot DB JoinTokenRow :=
  ⟨DB.joinTokens, fun t db => { db with joinTokens := t }, fun _ _ => rfl, fun _ => rfl⟩

def noRows : Err := .plain "no rows in result set"

/-! The errors PostgreSQL raises. -/

def uniqueViolation (constraint : String) : Err :=
  .ofPg ⟨.uniqueViolation,
    "duplicate key value violates unique constraint \"" ++ constraint ++ "\"", "", constraint⟩

def foreignKeyViolation (table column : String) (value : Int) (references : String) : Err :=
  let constraint := table ++ "_" ++ column ++ "_fkey"
  .ofPg ⟨.foreignKeyViolation,
    "insert or update on table \"" ++ table ++ "\" violates foreign key constraint \"" ++ constraint ++ "\"",
    "Key (" ++ column ++ ")=(" ++ Strconv.formatInt value ++ ") is not present in table \""
      ++ references ++ "\".", constraint⟩

def checkViolation (table constraint : String) : Err :=
  .ofPg ⟨.checkViolation,
    "new row for relation \"" ++ table ++ "\" violates check constraint \"" ++ constraint ++ "\"", "", constraint⟩

def stringTooLong (limit : Nat) : Err :=
  .ofPg ⟨.stringTooLong,
    "value too long for type character varying(" ++ Strconv.formatInt limit ++ ")", "", ""⟩

def varchar (limit : Nat) (s : String) : Bool × Err := (Strings.runeCount s ≤ limit, stringTooLong limit)

def firstViolation : List (Bool × Err) → Except Err Unit
  | [] => .ok ()
  | (ok, e) :: rest => if ok then firstViolation rest else .error e

theorem firstViolation_eq_ok_iff (tests : List (Bool × Err)) :
    firstViolation tests = .ok () ↔ ∀ t ∈ tests, t.1 = true := by
  induction tests with
  | nil => simp [firstViolation]
  | cons t tests ih =>
    obtain ⟨ok, e⟩ := t
    cases ok <;> simp [firstViolation, ih]

theorem mem_of_firstViolation_eq_error {tests : List (Bool × Err)} {e : Err}
    (h : firstViolation tests = .error e) : ∃ t ∈ tests, t.2 = e := by
  induction tests with
  | nil => cases h
  | cons t tests ih =>
    obtain ⟨ok, e'⟩ := t
    cases ok with
    | false =>
      cases h
      exact ⟨_, List.mem_cons_self, rfl⟩
    | true =>
      obtain ⟨t, ht, rfl⟩ := ih h
      exact ⟨t, List.mem_cons_of_mem _ ht, rfl⟩

def references {Row : Type} [Keyed Row] (t : Table Row) : Option Int → Bool
  | none => true
  | some i => (t.get? i).isSome

theorem references_some_iff {Row : Type} [Keyed Row] {t : Table Row} {i : Int} :
    references t (some i) ↔ ∃ r ∈ t, key r = i := by
  constructor
  · intro h
    obtain ⟨r, hr⟩ := Option.isSome_iff_exists.1 h
    obtain ⟨hm, hk⟩ := Table.get?_eq_some_iff.1 hr
    exact ⟨r, hm, hk⟩
  · rintro ⟨r, hm, hk⟩
    exact Option.isSome_iff_exists.2 ⟨r, Table.get?_eq_some_iff.2 ⟨hm, hk⟩⟩

def DB.workspaceOf (db : DB) (n : Int) : Option Int := (db.namespaces.get? n).map (·.workspaceID)

theorem DB.workspaceOf_eq_some_iff {db : DB} {n w : Int} :
    db.workspaceOf n = some w ↔ ∃ ns ∈ db.namespaces, ns.id = n ∧ ns.workspaceID = w := by
  simp [DB.workspaceOf, Table.get?_eq_some_iff, and_assoc]

/-- The creator of a row as lists show it: `COALESCE(NULLIF(u.display_name, ''), u.username, '')`. -/
def DB.creatorName (db : DB) (createdBy : Option Int) : String :=
  match createdBy.bind db.users.get? with
  | some u => if u.displayName ≠ "" then u.displayName else u.username
  | none => ""

end Vraxel.Db
