import Vraxel.Iam.Checker
/-
  The permission view of a user (`pkg/apis/iam/storage_user_verbs.go`), which the frontend loads once:
  the patterns are grouped by scope, under the ids as texts, and expanded to the codes they match.
-/

namespace Vraxel.Iam

open Relational Db Strconv

/-- `ExpandPatterns`. The codes already `seen` are those of the result. -/
def expandPatterns (patterns allCodes : List String) : List String :=
  allCodes.foldl
    (fun result code =>
      if (patterns.any fun pattern => matchPermission pattern code) && !result.contains code
      then result ++ [code] else result) []

theorem mem_expandPatterns {patterns allCodes : List String} {code : String} :
    code ∈ expandPatterns patterns allCodes ↔
      code ∈ allCodes ∧ ∃ p ∈ patterns, matchPermission p code := by
  -- one turn adds the code it looks at, if a pattern matches it
  have hstep : ∀ (result : List String) (c : String),
      (code ∈ if (patterns.any fun pattern => matchPermission pattern c) && !result.contains c
        then result ++ [c] else result) ↔
        code ∈ result ∨ (c = code ∧ ∃ p ∈ patterns, matchPermission p c) := by
    intro result c
    by_cases hany : ∃ p ∈ patterns, matchPermission p c
    · by_cases hmem : c ∈ result
      · simp only [List.any_eq_true.2 hany, List.contains_iff_mem.2 hmem, Bool.not_true, Bool.and_false,
          Bool.false_eq_true, if_false]
        exact ⟨Or.inl, fun h => h.elim id fun ⟨heq, _⟩ => heq ▸ hmem⟩
      · have hnew : result.contains c = false := by simpa using hmem
        rw [List.any_eq_true.2 hany, hnew, Bool.not_false, Bool.and_self, if_pos rfl, List.mem_append,
          List.mem_singleton, eq_comm, and_iff_left hany]
    · have hnone : (patterns.any fun pattern => matchPermission pattern c) = false := by
        simpa using hany
      simp [hnone, hany]
  refine (foldl_iff hstep [] allCodes).trans ?_
  constructor
  · rintro (h | ⟨c, hc, rfl, hp⟩)
    · cases h
    · exact ⟨hc, hp⟩
  · rintro ⟨hc, hp⟩
    exact Or.inr ⟨code, hc, rfl, hp⟩

/-! The rows, and the groups they are collected in. -/

structure UserRoleBindingWithRules where
  scope : Db.Scope
  workspaceID : Option Int
  namespaceID : Option Int
  roleName : String
  pattern : String

/-- `role_bindings` joined with `roles` and `role_permission_rules`, for one user. -/
def getUserRoleBindingsWithRules (db : DB) (userID : Int) : List UserRoleBindingWithRules :=
  (db.roleBindings.select fun rb => rb.userID == userID).flatMap fun rb =>
    (db.roles.select fun r => r.id == rb.roleID).flatMap fun r =>
      (db.rolePermissionRules.filter fun rule => rule.roleID == rb.roleID).map fun rule =>
        ⟨rb.scope, rb.workspaceID, rb.namespaceID, r.name, rule.pattern⟩

structure UserPermsWsEntry where
  patterns : List String := []
  roleNames : List String := []

structure UserPermsNsEntry where
  patterns : List String := []
  roleNames : List String := []
  workspaceID : String := ""

structure UserPermsGrouped where
  platformPatterns : List String
  isPlatformAdmin : Bool
  wsMap : List (String × UserPermsWsEntry)
  nsMap : List (String × UserPermsNsEntry)

variable {α : Type}

/-- The entry of a map under `key` is changed by `f`; a key the map does not
know gets the entry `init` first. -/
def collect (key : String) (init : α) (f : α → α) : List (String × α) → List (String × α)
  | [] => [(key, f init)]
  | (k, entry) :: rest => if k = key then (k, f entry) :: rest else (k, entry) :: collect key init f rest

def addName (name : String) (names : List String) : List String :=
  if names.contains name then names else names ++ [name]

def userPermsCollectWorkspace (wsMap : List (String × UserPermsWsEntry)) (row : UserRoleBindingWithRules) :
    List (String × UserPermsWsEntry) :=
  match row.workspaceID with
  | none => wsMap
  | some w => collect (formatInt w) {}
      (fun entry => ⟨entry.patterns ++ [row.pattern], addName row.roleName entry.roleNames⟩) wsMap

def userPermsCollectNamespace (nsMap : List (String × UserPermsNsEntry)) (row : UserRoleBindingWithRules) :
    List (String × UserPermsNsEntry) :=
  match row.namespaceID with
  | none => nsMap
  | some n => collect (formatInt n) { workspaceID := (row.workspaceID.map formatInt).getD "" }
      (fun entry => ⟨entry.patterns ++ [row.pattern], addName row.roleName entry.roleNames, entry.workspaceID⟩) nsMap

def groupRow (g : UserPermsGrouped) (row : UserRoleBindingWithRules) : UserPermsGrouped :=
  match row.scope with
  | .platform =>
    { g with
      platformPatterns := g.platformPatterns ++ [row.pattern]
      isPlatformAdmin := g.isPlatformAdmin || row.pattern == "*:*" }
  | .workspace => { g with wsMap := userPermsCollectWorkspace g.wsMap row }
  | .namespace => { g with nsMap := userPermsCollectNamespace g.nsMap row }

def UserPermsGrouped.empty : UserPermsGrouped := ⟨[], false, [], []⟩

def userPermsGroupByScope (rows : List UserRoleBindingWithRules) : UserPermsGrouped :=
  rows.foldl groupRow .empty

structure WorkspaceScopePerms where
  roleNames : List String
  permissions : List String
  deriving DecidableEq

structure NamespaceScopePerms where
  roleNames : List String
  workspaceID : String
  permissions : List String
  deriving DecidableEq

structure UserPermissionsSpec where
  isPlatformAdmin : Bool
  platform : List String
  workspaces : List (String × WorkspaceScopePerms)
  namespaces : List (String × NamespaceScopePerms)
  deriving DecidableEq

/-- `userPermsBuildSpec`: each group of patterns becomes the codes it matches. -/
def userPermsBuildSpec (grouped : UserPermsGrouped) (allCodes : List String) : UserPermissionsSpec where
  isPlatformAdmin := grouped.isPlatformAdmin
  platform := expandPatterns grouped.platformPatterns allCodes
  workspaces := grouped.wsMap.map fun p =>
    (p.1, ⟨p.2.roleNames, expandPatterns p.2.patterns allCodes⟩)
  namespaces := grouped.nsMap.map fun p =>
    (p.1, ⟨p.2.roleNames, p.2.workspaceID, expandPatterns p.2.patterns allCodes⟩)

/-- What `NewUserPermissionsVerb` answers for a user, given the registered codes. -/
def userPermissions (db : DB) (userID : Int) (allCodes : List String) : UserPermissionsSpec :=
  userPermsBuildSpec (userPermsGroupByScope (getUserRoleBindingsWithRules db userID)) allCodes

/-! What the groups hold: what one row adds, and so what all rows add. -/

theorem lookup_collect (key : String) (init : α) (f : α → α) (m : List (String × α)) (k : String) :
    (collect key init f m).lookup k = if k = key then some (f ((m.lookup key).getD init)) else m.lookup k := by
  induction m with
  | nil =>
    by_cases hk : k = key
    · simp [collect, hk, List.lookup]
    · simp [collect, hk, List.lookup, beq_eq_false_iff_ne.2 hk]
  | cons p rest ih =>
    obtain ⟨k', entry⟩ := p
    by_cases hk' : k' = key
    · subst hk'
      by_cases hk : k = k'
      · simp [collect, hk, List.lookup]
      · simp [collect, hk, List.lookup, beq_eq_false_iff_ne.2 hk]
    · by_cases hk : k = k'
      · subst hk
        simp [collect, hk', List.lookup]
      · have hkey : (key == k') = false := beq_eq_false_iff_ne.2 (Ne.symm hk')
        simp [collect, hk', List.lookup, beq_eq_false_iff_ne.2 hk, ih, hkey]

theorem lookup_map_snd {β : Type} (f : α → β) (m : List (String × α)) (k : String) :
    (m.map fun p => (p.1, f p.2)).lookup k = (m.lookup k).map f := by
  induction m with
  | nil => rfl
  | cons p rest ih =>
    by_cases hk : k = p.1
    · simp [List.lookup, hk]
    · simp [List.lookup, beq_eq_false_iff_ne.2 hk, ih]

def patternsAt (patterns : α → List String) (m : List (String × α)) (key : String) : List String :=
  ((m.lookup key).map patterns).getD []

theorem mem_patternsAt_collect {patterns : α → List String} {key : String} {init : α} {f : α → α}
    (pattern : String) (hinit : patterns init = []) (hf : ∀ entry, patterns (f entry) = patterns entry ++ [pattern])
    (m : List (String × α)) (k p : String) :
    p ∈ patternsAt patterns (collect key init f m) k ↔ p ∈ patternsAt patterns m k ∨ (key = k ∧ pattern = p) := by
  unfold patternsAt
  rw [lookup_collect]
  by_cases hk : k = key
  · subst hk
    cases hm : m.lookup k with
    | none => simp [hf, hinit, eq_comm]
    | some entry => simp [hf, eq_comm]
  · simp [hk, Ne.symm hk]

variable (g : UserPermsGrouped) (row : UserRoleBindingWithRules)

theorem mem_platformPatterns_groupRow (p : String) :
    p ∈ (groupRow g row).platformPatterns ↔
      p ∈ g.platformPatterns ∨ (row.scope = .platform ∧ row.pattern = p) := by
  obtain ⟨scope, w, n, name, pattern⟩ := row
  cases scope <;> simp [groupRow, eq_comm]

theorem isPlatformAdmin_groupRow :
    (groupRow g row).isPlatformAdmin ↔
      g.isPlatformAdmin ∨ (row.scope = .platform ∧ row.pattern = "*:*") := by
  obtain ⟨scope, w, n, name, pattern⟩ := row
  cases scope <;> simp [groupRow]

theorem mem_wsMap_groupRow (w : Int) (p : String) :
    p ∈ patternsAt UserPermsWsEntry.patterns (groupRow g row).wsMap (formatInt w) ↔
      p ∈ patternsAt UserPermsWsEntry.patterns g.wsMap (formatInt w) ∨
        ((row.scope = .workspace ∧ row.workspaceID = some w) ∧ row.pattern = p) := by
  obtain ⟨scope, w', n, name, pattern⟩ := row
  cases scope with
  | platform => simp [groupRow]
  | «namespace» => simp [groupRow]
  | workspace =>
    cases w' with
    | none => simp [groupRow, userPermsCollectWorkspace]
    | some w' =>
      have hkey : formatInt w' = formatInt w ↔ w' = w := ⟨formatInt_injective, fun h => h ▸ rfl⟩
      simp only [groupRow, userPermsCollectWorkspace]
      rw [mem_patternsAt_collect pattern rfl (fun _ => rfl)]
      simp [hkey]

theorem mem_nsMap_groupRow (n : Int) (p : String) :
    p ∈ patternsAt UserPermsNsEntry.patterns (groupRow g row).nsMap (formatInt n) ↔
      p ∈ patternsAt UserPermsNsEntry.patterns g.nsMap (formatInt n) ∨
        ((row.scope = .namespace ∧ row.namespaceID = some n) ∧ row.pattern = p) := by
  obtain ⟨scope, w, n', name, pattern⟩ := row
  cases scope with
  | platform => simp [groupRow]
  | workspace => simp [groupRow]
  | «namespace» =>
    cases n' with
    | none => simp [groupRow, userPermsCollectNamespace]
    | some n' =>
      have hkey : formatInt n' = formatInt n ↔ n' = n := ⟨formatInt_injective, fun h => h ▸ rfl⟩
      simp only [groupRow, userPermsCollectNamespace]
      rw [mem_patternsAt_collect pattern rfl (fun _ => rfl)]
      simp [hkey]

/-! The two queries read the same rules: a binding names a role that exists. -/

/-- The foreign keys of `role_bindings` that the view and the checker depend on. -/
structure BindingsRefer (db : DB) : Prop where
  role : ∀ rb ∈ db.roleBindings, references db.roles (some rb.roleID)
  workspace : ∀ rb ∈ db.roleBindings, references db.workspaces rb.workspaceID
  «namespace» : ∀ rb ∈ db.roleBindings, references db.namespaces rb.namespaceID

instance (db : DB) : Decidable (BindingsRefer db) :=
  decidable_of_iff ((∀ rb ∈ db.roleBindings, references db.roles (some rb.roleID)) ∧
    (∀ rb ∈ db.roleBindings, references db.workspaces rb.workspaceID) ∧
    ∀ rb ∈ db.roleBindings, references db.namespaces rb.namespaceID)
    ⟨fun h => ⟨h.1, h.2.1, h.2.2⟩, fun h => ⟨h.role, h.workspace, h.namespace⟩⟩

theorem pos_of_references {Row : Type} [Keyed Row] {t : Table Row} {i : Int} (h : references t (some i)) : 0 < i := by
  obtain ⟨r, hr, rfl⟩ := references_some_iff.1 h
  exact (t.range r hr).1

variable {P : UserRoleBindingWithRules → Prop}

theorem exists_bindingRow_iff {db : DB} (hdb : BindingsRefer db) {userID : Int} {binding : RoleBindingRow → Prop}
    {hit : String → Prop}
    (hP : ∀ (rb : RoleBindingRow) name p, P ⟨rb.scope, rb.workspaceID, rb.namespaceID, name, p⟩ ↔ binding rb ∧ hit p) :
    (∃ row ∈ getUserRoleBindingsWithRules db userID, P row) ↔ Holds db userID binding hit := by
  simp only [getUserRoleBindingsWithRules, List.mem_flatMap, Table.mem_select, List.mem_map, List.mem_filter,
    beq_iff_eq]
  constructor
  · rintro ⟨_, ⟨rb, ⟨hrb, hu⟩, r, _, rule, ⟨hrule, hr⟩, rfl⟩, hrow⟩
    obtain ⟨hb, hp⟩ := (hP rb r.name rule.pattern).1 hrow
    exact ⟨rb, hrb, hu, hb, rule, hrule, hr, hp⟩
  · rintro ⟨rb, hrb, hu, hb, rule, hrule, hr, hp⟩
    obtain ⟨r, hmem, hid⟩ := references_some_iff.1 (hdb.role rb hrb)
    exact ⟨_, ⟨rb, ⟨hrb, hu⟩, r, ⟨hmem, hid⟩, rule, ⟨hrule, hr⟩, rfl⟩, (hP rb r.name rule.pattern).2 ⟨hb, hp⟩⟩

section View

variable {db : DB} (hdb : BindingsRefer db) (userID : Int)

include hdb

/-- What the loop over a user's rows leaves under a key: the rules of the bindings that are collected there. -/
theorem exists_grouped_iff (patterns : UserPermsGrouped → List String) {binding : RoleBindingRow → Prop}
    (hempty : patterns .empty = [])
    (hrow : ∀ (g : UserPermsGrouped) (row : UserRoleBindingWithRules) (p : String),
      p ∈ patterns (groupRow g row) ↔ p ∈ patterns g ∨ (P row ∧ row.pattern = p))
    (hP : ∀ (rb : RoleBindingRow) name p, P ⟨rb.scope, rb.workspaceID, rb.namespaceID, name, p⟩ ↔ binding rb)
    (hit : String → Prop) :
    (∃ p ∈ patterns (userPermsGroupByScope (getUserRoleBindingsWithRules db userID)), hit p) ↔
      Holds db userID binding hit := by
  have hmem : ∀ p, p ∈ patterns (userPermsGroupByScope (getUserRoleBindingsWithRules db userID)) ↔
      ∃ row ∈ getUserRoleBindingsWithRules db userID, P row ∧ row.pattern = p := by
    intro p
    refine (foldl_iff (P := fun g => p ∈ patterns g) (fun g row => hrow g row p) _ _).trans ?_
    simp [hempty]
  rw [← exists_bindingRow_iff hdb (P := fun row => P row ∧ hit row.pattern)
    (fun rb name p => by rw [hP])]
  constructor
  · rintro ⟨p, hp, hhit⟩
    obtain ⟨row, hrowmem, hprow, rfl⟩ := (hmem p).1 hp
    exact ⟨row, hrowmem, hprow, hhit⟩
  · rintro ⟨row, hrowmem, hprow, hhit⟩
    exact ⟨row.pattern, (hmem _).2 ⟨row, hrowmem, hprow, rfl⟩, hhit⟩

theorem isPlatformAdmin_userPermissions (allCodes : List String) :
    (userPermissions db userID allCodes).isPlatformAdmin ↔ Holds db userID (·.scope = .platform) (· = "*:*") := by
  refine (foldl_iff (P := fun g : UserPermsGrouped => g.isPlatformAdmin = true) isPlatformAdmin_groupRow _ _).trans ?_
  have hrow : ∀ (rb : RoleBindingRow) (name p : String),
      ((⟨rb.scope, rb.workspaceID, rb.namespaceID, name, p⟩ : UserRoleBindingWithRules).scope = .platform ∧ p = "*:*") ↔
        rb.scope = .platform ∧ p = "*:*" := fun _ _ _ => Iff.rfl
  rw [exists_bindingRow_iff hdb hrow]
  simp [UserPermsGrouped.empty]

variable {allCodes : List String} {code : String} (hcode : code ∈ allCodes)

include hcode

theorem platform_userPermissions :
    code ∈ (userPermissions db userID allCodes).platform ↔ HoldsAtPlatform db userID code := by
  refine (mem_expandPatterns.trans (and_iff_right hcode)).trans ?_
  exact exists_grouped_iff hdb userID UserPermsGrouped.platformPatterns rfl
    mem_platformPatterns_groupRow (fun rb name p => Iff.rfl) _

theorem workspaces_userPermissions (w : Int) :
    (∃ perms, (userPermissions db userID allCodes).workspaces.lookup (formatInt w) = some perms ∧
      code ∈ perms.permissions) ↔ HoldsInWorkspace db userID w code := by
  rw [HoldsInWorkspace, ← exists_grouped_iff hdb userID
    (fun g => patternsAt UserPermsWsEntry.patterns g.wsMap (formatInt w)) rfl
    (fun g row p => mem_wsMap_groupRow g row w p) (fun rb name p => Iff.rfl)]
  simp only [userPermissions, userPermsBuildSpec, patternsAt]
  rw [lookup_map_snd fun entry : UserPermsWsEntry =>
    (⟨entry.roleNames, expandPatterns entry.patterns allCodes⟩ : WorkspaceScopePerms)]
  cases (userPermsGroupByScope (getUserRoleBindingsWithRules db userID)).wsMap.lookup (formatInt w) with
  | none => simp
  | some entry => simp [mem_expandPatterns, hcode]

theorem namespaces_userPermissions (n : Int) :
    (∃ perms, (userPermissions db userID allCodes).namespaces.lookup (formatInt n) = some perms ∧
      code ∈ perms.permissions) ↔ HoldsInNamespace db userID n code := by
  rw [HoldsInNamespace, ← exists_grouped_iff hdb userID
    (fun g => patternsAt UserPermsNsEntry.patterns g.nsMap (formatInt n)) rfl
    (fun g row p => mem_nsMap_groupRow g row n p) (fun rb name p => Iff.rfl)]
  simp only [userPermissions, userPermsBuildSpec, patternsAt]
  rw [lookup_map_snd fun entry : UserPermsNsEntry =>
    (⟨entry.roleNames, entry.workspaceID, expandPatterns entry.patterns allCodes⟩ : NamespaceScopePerms)]
  cases (userPermsGroupByScope (getUserRoleBindingsWithRules db userID)).nsMap.lookup (formatInt n) with
  | none => simp
  | some entry => simp [mem_expandPatterns, hcode]

end View

theorem pos_of_holdsInWorkspace {db : DB} (hdb : BindingsRefer db) {userID w : Int} {code : String}
    (h : HoldsInWorkspace db userID w code) : 0 < w := by
  obtain ⟨rb, hrb, _, ⟨_, hw⟩, _⟩ := h
  exact pos_of_references (hw ▸ hdb.workspace rb hrb)

theorem pos_of_holdsInNamespace {db : DB} (hdb : BindingsRefer db) {userID n : Int} {code : String}
    (h : HoldsInNamespace db userID n code) : 0 < n := by
  obtain ⟨rb, hrb, _, ⟨_, hn⟩, _⟩ := h
  exact pos_of_references (hn ▸ hdb.namespace rb hrb)

end Vraxel.Iam
