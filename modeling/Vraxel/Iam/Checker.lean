import Vraxel.Iam.Match
import Vraxel.Db.Schema
/-
  The RBAC checker (`pkg/apis/iam/rbac_checker.go`) with its cache.

  The clock is an argument: `checkedAt` when freshness is tested, `loadedAt` when a reloaded entry
  is stored. Loads are taken one at a time.
-/

namespace Vraxel.Iam

open Relational Db

structure UserPermissionRuleRow where
  scope : Db.Scope
  workspaceID : Option Int
  namespaceID : Option Int
  pattern : String

/-- `role_bindings` joined with `role_permission_rules`, for one user. -/
def loadUserPermissionRules (db : DB) (userID : Int) : List UserPermissionRuleRow :=
  (db.roleBindings.select fun rb => rb.userID == userID).flatMap fun rb =>
    (db.rolePermissionRules.filter fun rule => rule.roleID == rb.roleID).map fun rule =>
      ⟨rb.scope, rb.workspaceID, rb.namespaceID, rule.pattern⟩

def UserPermissionEntry.empty : UserPermissionEntry := ⟨false, [], [], []⟩

def addRow (e : UserPermissionEntry) (row : UserPermissionRuleRow) : UserPermissionEntry :=
  match row.scope with
  | .platform =>
    { e with
      platformRules := e.platformRules ++ [row.pattern]
      isPlatformAdmin := e.isPlatformAdmin || row.pattern == "*:*" }
  | .workspace => match row.workspaceID with
    | some w => { e with workspaceRules := e.workspaceRules ++ [(w, row.pattern)] }
    | none => e
  | .namespace => match row.namespaceID with
    | some n => { e with namespaceRules := e.namespaceRules ++ [(n, row.pattern)] }
    | none => e

def entryOfRows (rows : List UserPermissionRuleRow) : UserPermissionEntry :=
  rows.foldl addRow .empty

def loadUserEntry (db : DB) (userID : Int) : UserPermissionEntry :=
  entryOfRows (loadUserPermissionRules db userID)

/-! What an entry lists: what one turn of the loop adds, and so what the loop adds. -/

theorem foldl_iff {α β : Type} {f : α → β → α} {P : α → Prop} {Q : β → Prop}
    (hf : ∀ a b, P (f a b) ↔ P a ∨ Q b) (a : α) (bs : List β) :
    P (bs.foldl f a) ↔ P a ∨ ∃ b ∈ bs, Q b := by
  induction bs generalizing a with
  | nil => simp
  | cons b bs ih => simp [ih, hf, or_assoc]

variable (e : UserPermissionEntry) (row : UserPermissionRuleRow) {db : DB} {userID : Int}

theorem mem_platformRules_addRow (p : String) :
    p ∈ (addRow e row).platformRules ↔
      p ∈ e.platformRules ∨ (row.scope = .platform ∧ row.pattern = p) := by
  obtain ⟨scope, w, n, pattern⟩ := row
  cases scope <;> cases w <;> cases n <;> simp [addRow, eq_comm]

theorem mem_workspaceRules_addRow (w : Int) (p : String) :
    (w, p) ∈ (addRow e row).workspaceRules ↔
      (w, p) ∈ e.workspaceRules ∨ (row.scope = .workspace ∧ row.workspaceID = some w ∧ row.pattern = p) := by
  obtain ⟨scope, w', n, pattern⟩ := row
  cases scope <;> cases w' <;> cases n <;> simp [addRow, eq_comm]

theorem mem_namespaceRules_addRow (n : Int) (p : String) :
    (n, p) ∈ (addRow e row).namespaceRules ↔
      (n, p) ∈ e.namespaceRules ∨ (row.scope = .namespace ∧ row.namespaceID = some n ∧ row.pattern = p) := by
  obtain ⟨scope, w, n', pattern⟩ := row
  cases scope <;> cases w <;> cases n' <;> simp [addRow, eq_comm]

theorem isPlatformAdmin_addRow :
    (addRow e row).isPlatformAdmin ↔
      e.isPlatformAdmin ∨ (row.scope = .platform ∧ row.pattern = "*:*") := by
  obtain ⟨scope, w, n, pattern⟩ := row
  cases scope <;> cases w <;> cases n <;> simp [addRow]

/-- The user holds, through a binding of the given kind, a rule with a pattern that `hit` accepts. -/
def Holds (db : DB) (userID : Int) (binding : RoleBindingRow → Prop) (hit : String → Prop) : Prop :=
  ∃ rb ∈ db.roleBindings, rb.userID = userID ∧ binding rb ∧
    ∃ rule ∈ db.rolePermissionRules, rule.roleID = rb.roleID ∧ hit rule.pattern

def HoldsAtPlatform (db : DB) (userID : Int) (code : String) : Prop :=
  Holds db userID (fun rb => rb.scope = .platform) fun p => matchPermission p code

def HoldsInWorkspace (db : DB) (userID w : Int) (code : String) : Prop :=
  Holds db userID (fun rb => rb.scope = .workspace ∧ rb.workspaceID = some w) fun p => matchPermission p code

def HoldsInNamespace (db : DB) (userID n : Int) (code : String) : Prop :=
  Holds db userID (fun rb => rb.scope = .namespace ∧ rb.namespaceID = some n) fun p => matchPermission p code

theorem exists_row_iff {P : UserPermissionRuleRow → Prop} :
    (∃ row ∈ loadUserPermissionRules db userID, P row) ↔
      ∃ rb ∈ db.roleBindings, rb.userID = userID ∧ ∃ rule ∈ db.rolePermissionRules, rule.roleID = rb.roleID ∧
        P ⟨rb.scope, rb.workspaceID, rb.namespaceID, rule.pattern⟩ := by
  simp only [loadUserPermissionRules, List.mem_flatMap, Table.mem_select, List.mem_map, List.mem_filter,
    beq_iff_eq]
  constructor
  · rintro ⟨_, ⟨rb, ⟨hrb, hu⟩, rule, ⟨hrule, hr⟩, rfl⟩, hP⟩
    exact ⟨rb, hrb, hu, rule, hrule, hr, hP⟩
  · rintro ⟨rb, hrb, hu, rule, hrule, hr, hP⟩
    exact ⟨_, ⟨rb, ⟨hrb, hu⟩, rule, ⟨hrule, hr⟩, rfl⟩, hP⟩

instance (db : DB) (userID : Int) (binding : RoleBindingRow → Prop) (hit : String → Prop)
    [DecidablePred binding] [DecidablePred hit] : Decidable (Holds db userID binding hit) :=
  inferInstanceAs (Decidable (∃ rb ∈ db.roleBindings, _))

instance (db : DB) (userID : Int) (code : String) : Decidable (HoldsAtPlatform db userID code) :=
  inferInstanceAs (Decidable (Holds ..))

instance (db : DB) (userID w : Int) (code : String) : Decidable (HoldsInWorkspace db userID w code) :=
  inferInstanceAs (Decidable (Holds ..))

instance (db : DB) (userID n : Int) (code : String) : Decidable (HoldsInNamespace db userID n code) :=
  inferInstanceAs (Decidable (Holds ..))

theorem exists_pattern_iff {binding : RoleBindingRow → Prop} {hit : String → Prop} :
    (∃ p, (∃ rb ∈ db.roleBindings, rb.userID = userID ∧ ∃ rule ∈ db.rolePermissionRules,
      rule.roleID = rb.roleID ∧ binding rb ∧ rule.pattern = p) ∧ hit p) ↔ Holds db userID binding hit := by
  constructor
  · rintro ⟨p, ⟨rb, hrb, hu, rule, hrule, hr, hb, rfl⟩, hp⟩
    exact ⟨rb, hrb, hu, hb, rule, hrule, hr, hp⟩
  · rintro ⟨rb, hrb, hu, hb, rule, hrule, hr, hp⟩
    exact ⟨rule.pattern, ⟨rb, hrb, hu, rule, hrule, hr, hb, rfl⟩, hp⟩

theorem mem_platformRules_loadUserEntry {p : String} :
    p ∈ (loadUserEntry db userID).platformRules ↔
      ∃ rb ∈ db.roleBindings, rb.userID = userID ∧ ∃ rule ∈ db.rolePermissionRules,
        rule.roleID = rb.roleID ∧ rb.scope = .platform ∧ rule.pattern = p := by
  refine (foldl_iff (P := fun e => p ∈ e.platformRules) (fun e row => mem_platformRules_addRow e row p) _ _).trans ?_
  rw [exists_row_iff]
  simp [UserPermissionEntry.empty]

theorem mem_workspaceRules_loadUserEntry {w : Int} {p : String} :
    (w, p) ∈ (loadUserEntry db userID).workspaceRules ↔
      ∃ rb ∈ db.roleBindings, rb.userID = userID ∧ ∃ rule ∈ db.rolePermissionRules,
        rule.roleID = rb.roleID ∧ (rb.scope = .workspace ∧ rb.workspaceID = some w) ∧ rule.pattern = p := by
  refine (foldl_iff (P := fun e => (w, p) ∈ e.workspaceRules) (fun e row => mem_workspaceRules_addRow e row w p) _ _).trans ?_
  rw [exists_row_iff]
  simp [UserPermissionEntry.empty, and_assoc]

theorem mem_namespaceRules_loadUserEntry {n : Int} {p : String} :
    (n, p) ∈ (loadUserEntry db userID).namespaceRules ↔
      ∃ rb ∈ db.roleBindings, rb.userID = userID ∧ ∃ rule ∈ db.rolePermissionRules,
        rule.roleID = rb.roleID ∧ (rb.scope = .namespace ∧ rb.namespaceID = some n) ∧ rule.pattern = p := by
  refine (foldl_iff (P := fun e => (n, p) ∈ e.namespaceRules) (fun e row => mem_namespaceRules_addRow e row n p) _ _).trans ?_
  rw [exists_row_iff]
  simp [UserPermissionEntry.empty, and_assoc]

theorem loadUserEntry_isPlatformAdmin :
    (loadUserEntry db userID).isPlatformAdmin ↔ Holds db userID (·.scope = .platform) (· = "*:*") := by
  refine (foldl_iff (P := fun e : UserPermissionEntry => e.isPlatformAdmin = true) isPlatformAdmin_addRow _ _).trans ?_
  rw [exists_row_iff]
  simp only [UserPermissionEntry.empty, Bool.false_eq_true, false_or]
  constructor
  · rintro ⟨rb, hrb, hu, rule, hrule, hr, hs, hp⟩
    exact ⟨rb, hrb, hu, hs, rule, hrule, hr, hp⟩
  · rintro ⟨rb, hrb, hu, hs, rule, hrule, hr, hp⟩
    exact ⟨rb, hrb, hu, rule, hrule, hr, hs, hp⟩

theorem loadUserEntry_hasPermission {code scope : String} {wsID nsID : Int} :
    (loadUserEntry db userID).hasPermission code scope wsID nsID ↔
      HoldsAtPlatform db userID code ∨
      ((scope = "workspace" ∨ scope = "namespace") ∧ 0 < wsID ∧ HoldsInWorkspace db userID wsID code) ∨
      (scope = "namespace" ∧ 0 < nsID ∧ HoldsInNamespace db userID nsID code) := by
  simp [UserPermissionEntry.hasPermission, UserPermissionEntry.chain_iff, mem_platformRules_loadUserEntry, mem_workspaceRules_loadUserEntry, mem_namespaceRules_loadUserEntry, exists_pattern_iff, HoldsAtPlatform, HoldsInWorkspace, HoldsInNamespace]

theorem holdsAtPlatform_of_isPlatformAdmin
    (h : (loadUserEntry db userID).isPlatformAdmin) (code : String) : HoldsAtPlatform db userID code := by
  obtain ⟨rb, hrb, hu, hs, rule, hrule, hr, hp⟩ := loadUserEntry_isPlatformAdmin.1 h
  exact ⟨rb, hrb, hu, hs, rule, hrule, hr, by rw [hp]; exact matchPermission_all code⟩

/-! Accessible ids, for the lists that are filtered instead of refused. -/

def getAccessibleWorkspaceIDs (db : DB) (userID : Int) : List Int :=
  ((db.roleBindings.select fun rb => rb.userID == userID).filterMap (·.workspaceID)).dedup

/-- `GetAccessibleNamespaceIDs`: bound directly, or through a workspace role that has rules. -/
def getAccessibleNamespaceIDs (db : DB) (userID : Int) : List Int :=
  let direct := (db.roleBindings.select fun rb => rb.userID == userID).filterMap (·.namespaceID)
  let viaWorkspace := (db.namespaces.select fun n => db.roleBindings.exists? fun rb =>
    rb.workspaceID == some n.workspaceID && rb.userID == userID && rb.namespaceID == none
      && db.rolePermissionRules.any fun rule => rule.roleID == rb.roleID).map (·.id)
  (direct ++ viaWorkspace).dedup

def rbacCacheTTL : Int := 5 * 10 ^ 9

structure CacheEntry where
  entry : UserPermissionEntry
  expiresAt : Int

/-- The cache map: the first entry under a user id counts. -/
abbrev Cache := List (Int × CacheEntry)

/-- What the store answers when the rules of a user are read. -/
abbrev RuleStore := Int → Except String (List UserPermissionRuleRow)

def dbRuleStore (db : DB) : RuleStore := fun userID => .ok (loadUserPermissionRules db userID)

def freshEntry (checkedAt : Int) (userID : Int) (cache : Cache) : Option UserPermissionEntry :=
  match cache.lookup userID with
  | some ce => if checkedAt < ce.expiresAt then some ce.entry else none
  | none => none

/-- `loadEntry`: a fresh cached entry, or one loaded from the store and cached. -/
def loadEntry (store : RuleStore) (checkedAt loadedAt : Int) (userID : Int) (cache : Cache) :
    Except String UserPermissionEntry × Cache :=
  match freshEntry checkedAt userID cache with
  | some e => (.ok e, cache)
  | none => match store userID with
    | .error err =>
      (.error ("load permission rules for user " ++ Strconv.formatInt userID ++ ": " ++ err), cache)
    | .ok rows =>
      (.ok (entryOfRows rows), (userID, ⟨entryOfRows rows, loadedAt + rbacCacheTTL⟩) :: cache)

/-- Every cached entry is the one the database gives. -/
def Coherent (db : DB) (cache : Cache) : Prop :=
  ∀ userID ce, cache.lookup userID = some ce → ce.entry = loadUserEntry db userID

theorem coherent_nil (db : DB) : Coherent db [] := by
  intro userID ce h
  cases h

theorem Coherent.cons {cache : Cache} (h : Coherent db cache) (userID expiresAt : Int) :
    Coherent db ((userID, ⟨loadUserEntry db userID, expiresAt⟩) :: cache) := by
  intro u ce hu
  rw [List.lookup_cons] at hu
  split at hu
  · rename_i heq
    obtain rfl := Option.some.inj hu
    rw [eq_of_beq heq]
  · exact h u ce hu

theorem freshEntry_of_coherent {cache : Cache} (h : Coherent db cache) {checkedAt : Int}
    {e : UserPermissionEntry} (he : freshEntry checkedAt userID cache = some e) : e = loadUserEntry db userID := by
  unfold freshEntry at he
  split at he
  · rename_i ce hl
    split at he
    · rw [← Option.some.inj he]
      exact h userID ce hl
    · cases he
  · cases he

theorem loadEntry_coherent {cache : Cache} (h : Coherent db cache) (checkedAt loadedAt userID : Int) :
    (loadEntry (dbRuleStore db) checkedAt loadedAt userID cache).1 = .ok (loadUserEntry db userID) ∧
      Coherent db (loadEntry (dbRuleStore db) checkedAt loadedAt userID cache).2 := by
  unfold loadEntry
  cases hf : freshEntry checkedAt userID cache with
  | some e =>
    obtain rfl := freshEntry_of_coherent h hf
    exact ⟨rfl, h⟩
  | none => exact ⟨rfl, h.cons userID _⟩

end Vraxel.Iam
