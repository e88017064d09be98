import Vraxel.Iam.RecordsCover
import Vraxel.Lib.Like
/-
  The permissions table, which is rebuilt from the server's records at every boot
  (`iam/rbac_sync.go`, `iam/store/pg_permission.go`, `db/query/permission.sql`).

  Each module is synchronised in a transaction of its own. The modules come from a Go map, in any
  order.
-/

namespace Vraxel.Iam

open Relational Api Db Txn ApiServer Strings

structure PermissionRow where
  id : Int
  code : String
  method : String
  path : String
  scope : String
  description : String

instance : Keyed PermissionRow where
  key := PermissionRow.id
  withKey r i := { r with id := i }
  key_withKey _ _ := rfl
  withKey_key _ := rfl

abbrev Permissions := Table PermissionRow

def permissionsTable : Slot Permissions PermissionRow := ⟨id, fun t _ => t, fun _ _ => rfl, fun _ => rfl⟩

def rowFits (rec : PermRecord) : Except Err Unit :=
  firstViolation [varchar 255 rec.code, varchar 10 rec.method, varchar 512 rec.path, varchar 20 rec.scope]

/-- `UpsertPermission`. A description is only written with a new row. -/
def upsertPermission (rec : PermRecord) : M Permissions Err Unit := do
  lift (rowFits rec)
  permissionsTable.upsert (fun r => r.code = rec.code && r.scope = rec.scope) (fun _ => .ok ())
    ⟨0, rec.code, rec.method, rec.path, rec.scope, ""⟩ fun r => { r with method := rec.method, path := rec.path }

abbrev ModuleRecords := String × List PermRecord

def stale (m : ModuleRecords) (code scope : String) : Bool :=
  like (m.1 ++ ":" ++ "%").toList code.toList && (code ++ ":" ++ scope) ∉ m.2.map fun rec => rec.code ++ ":" ++ rec.scope

def upsertRecord (rec : PermRecord) : M Permissions Err Unit :=
  mapErr (·.wrap ("upsert permission " ++ rec.code ++ " (scope=" ++ rec.scope ++ ")")) (upsertPermission rec)

def syncModule (m : ModuleRecords) : M Permissions Err Unit := atomically do
  forEach m.2 upsertRecord
  let _ ← permissionsTable.delete fun _ r => stale m r.code r.scope

/-- `SyncPermissions`, with the map in the order in which it is walked. -/
def syncPermissions (byModule : List ModuleRecords) : M Permissions Err Unit :=
  forEach byModule fun m => mapErr (·.wrap ("sync v2 permissions for module " ++ m.1)) (syncModule m)

def HasKey (t : Permissions) (code scope : String) : Prop := ∃ r ∈ t, r.code = code ∧ r.scope = scope

instance (t : Permissions) (code scope : String) : Decidable (HasKey t code scope) :=
  inferInstanceAs (Decidable (∃ r ∈ t, r.code = code ∧ r.scope = scope))

def Records (m : ModuleRecords) (code scope : String) : Prop := ∃ rec ∈ m.2, rec.code = code ∧ rec.scope = scope

def Fit (byModule : List ModuleRecords) : Prop := ∀ m ∈ byModule, ∀ rec ∈ m.2, rowFits rec = .ok ()

variable {t t' : Permissions} {code scope : String} {m : ModuleRecords} {rec : PermRecord}

theorem not_stale_of_records (h : Records m code scope) : stale m code scope = false := by
  obtain ⟨rec, hrec, rfl, rfl⟩ := h
  simp only [stale, Bool.and_eq_false_iff, decide_eq_false_iff_not, not_not]
  exact .inr (List.mem_map_of_mem hrec)

theorem upsertPermission_total (h : rowFits rec = .ok ()) (t : Permissions) :
    ∃ t', (upsertPermission rec).run t = (.ok (), t') := by
  simp only [upsertPermission, h, lift_ok_bind]
  cases hc : (permissionsTable.get t).exists? fun r => r.code = rec.code && r.scope = rec.scope
  · exact ⟨_, Slot.upsert_ok_iff.2 (.inr ⟨hc, rfl, rfl⟩)⟩
  · exact ⟨_, Slot.upsert_ok_iff.2 (.inl ⟨hc, rfl⟩)⟩

theorem rowFits_of_upsertPermission (h : (upsertPermission rec).run t = (.ok (), t')) : rowFits rec = .ok () := by
  obtain ⟨u, t₁, hlift, -⟩ := bind_ok_iff.1 h
  exact (lift_ok_iff.1 hlift).1

theorem hasKey_upsertPermission (h : (upsertPermission rec).run t = (.ok (), t')) (code scope : String) :
    HasKey t' code scope ↔ HasKey t code scope ∨ (rec.code = code ∧ rec.scope = scope) := by
  obtain ⟨u, t₁, hlift, h⟩ := bind_ok_iff.1 h
  obtain ⟨-, rfl⟩ := lift_ok_iff.1 hlift
  rcases Slot.upsert_ok_iff.1 h with ⟨hconflict, rfl⟩ | ⟨-, -, rfl⟩
  · -- the row is there, and its key stays
    obtain ⟨r, hr, hkey⟩ := Table.exists?_iff.1 hconflict
    simp only [Bool.and_eq_true, decide_eq_true_eq] at hkey
    constructor
    · rintro ⟨_, hupd, hc⟩
      obtain ⟨r', hr', rfl⟩ := Table.mem_update.1 hupd
      refine .inl ⟨r', hr', ?_⟩
      split at hc <;> exact hc
    · rintro (⟨r', hr', hc⟩ | ⟨rfl, rfl⟩)
      · refine ⟨_, Table.mem_update.2 ⟨r', hr', rfl⟩, ?_⟩
        split <;> exact hc
      · refine ⟨_, Table.mem_update.2 ⟨r, hr, rfl⟩, ?_⟩
        split <;> exact hkey
  · constructor
    · rintro ⟨r, hr, hc⟩
      rcases Table.mem_insert.1 hr with hr | rfl
      · exact .inl ⟨r, hr, hc⟩
      · exact .inr hc
    · rintro (⟨r, hr, hc⟩ | hc)
      · exact ⟨r, Table.mem_insert.2 (.inl hr), hc⟩
      · exact ⟨_, Table.mem_insert.2 (.inr rfl), hc⟩

theorem hasKey_upsertAll {recs : List PermRecord} (code scope : String)
    (h : (forEach recs upsertRecord).run t = (.ok (), t')) :
    HasKey t' code scope ↔ HasKey t code scope ∨ ∃ rec ∈ recs, rec.code = code ∧ rec.scope = scope := by
  induction recs generalizing t with
  | nil =>
    cases h
    simp
  | cons rec recs ih =>
    obtain ⟨u, t₁, hrec, h⟩ := bind_ok_iff.1 h
    rw [ih h, hasKey_upsertPermission (mapErr_ok_iff.1 hrec), List.exists_mem_cons_iff, or_assoc]

theorem hasKey_syncModule (h : (syncModule m).run t = (.ok (), t')) (code scope : String) :
    HasKey t' code scope ↔ Records m code scope ∨ (HasKey t code scope ∧ stale m code scope = false) := by
  obtain ⟨u, t₁, hups, h⟩ := bind_ok_iff.1 (atomically_ok_iff.1 h)
  have ht' : t' = (permissionsTable.get t₁).delete fun r => stale m r.code r.scope := (congrArg Prod.snd h).symm
  have hkeys := hasKey_upsertAll code scope hups
  rw [ht']
  constructor
  · rintro ⟨r, hr, rfl, rfl⟩
    obtain ⟨hr, hkeep⟩ := Table.mem_delete.1 hr
    rcases hkeys.1 ⟨r, hr, rfl, rfl⟩ with hold | hrec
    · exact .inr ⟨hold, hkeep⟩
    · exact .inl hrec
  · intro h
    have hkeep : stale m code scope = false := h.elim not_stale_of_records And.right
    obtain ⟨r, hr, rfl, rfl⟩ := hkeys.2 (h.elim .inr fun hold => .inl hold.1)
    exact ⟨r, Table.mem_delete.2 ⟨hr, hkeep⟩, rfl, rfl⟩

section Orders

variable {byModule order : List ModuleRecords}

theorem syncPermissions_total (hfit : Fit order) (t : Permissions) :
    ∃ t', (syncPermissions order).run t = (.ok (), t') := by
  apply forEach_total
  intro m hm t
  have hrec : ∀ rec ∈ m.2, ∀ t, ∃ t', (upsertRecord rec).run t = (.ok (), t') := fun rec hrec t =>
    (upsertPermission_total (hfit m hm rec hrec) t).imp fun _ h => mapErr_ok_iff.2 h
  obtain ⟨t₁, hups⟩ := forEach_total hrec t
  exact ⟨_, mapErr_ok_iff.2 (atomically_ok_iff.2 (bind_ok_iff.2 ⟨(), t₁, hups, rfl⟩))⟩

theorem fit_of_syncPermissions (h : (syncPermissions order).run t = (.ok (), t')) : Fit order := by
  refine forall_of_forEach_ok (fun m t t' hm => ?_) h
  obtain ⟨u, t₁, hups, -⟩ := bind_ok_iff.1 (atomically_ok_iff.1 (mapErr_ok_iff.1 hm))
  exact forall_of_forEach_ok (fun rec _ _ hrec => rowFits_of_upsertPermission (mapErr_ok_iff.1 hrec)) hups

/-- No deletion hits a record, of whichever module. -/
def Spared (order : List ModuleRecords) (code scope : String) : Prop :=
  (∃ m ∈ order, Records m code scope) → ∀ m ∈ order, stale m code scope = false

theorem hasKey_syncPermissions (h : (syncPermissions order).run t = (.ok (), t')) (hspared : Spared order code scope) :
    HasKey t' code scope ↔
      (∃ m ∈ order, Records m code scope) ∨ (HasKey t code scope ∧ ∀ m ∈ order, stale m code scope = false) := by
  induction order generalizing t with
  | nil =>
    cases h
    simp
  | cons m rest ih =>
    obtain ⟨u, t₁, hrun, h⟩ := bind_ok_iff.1 h
    have hrest : Spared rest code scope := fun ⟨m', hm', hrec⟩ m'' hm'' =>
      hspared ⟨m', List.mem_cons_of_mem m hm', hrec⟩ m'' (List.mem_cons_of_mem m hm'')
    rw [ih h hrest, hasKey_syncModule (mapErr_ok_iff.1 hrun), List.exists_mem_cons_iff, List.forall_mem_cons]
    constructor
    · rintro (hrec | ⟨hrec | ⟨hold, hkeep⟩, hall⟩)
      · exact .inl (.inr hrec)
      · exact .inl (.inl hrec)
      · exact .inr ⟨hold, hkeep, hall⟩
    · rintro ((hrec | hrec) | ⟨hold, hkeep, hall⟩)
      · exact .inr ⟨.inl hrec, (List.forall_mem_cons.1 (hspared ⟨m, List.mem_cons_self, hrec⟩)).2⟩
      · exact .inl hrec
      · exact .inr ⟨.inr ⟨hold, hkeep⟩, hall⟩

/-- The code belongs to a module of the map. -/
def Belongs (byModule : List ModuleRecords) (code : String) : Prop := ∃ m ∈ byModule, hasPrefix code (m.1 ++ ":")

/-- After every order of the map the table has the keys of the records, and the old ones that belong
to no module. -/
def Synchronised (byModule : List ModuleRecords) (t : Permissions) : Prop :=
  ∀ order, order.Perm byModule → ∀ t', (syncPermissions order).run t = (.ok (), t') → ∀ code scope,
    HasKey t' code scope ↔
      (∃ m ∈ byModule, Records m code scope) ∨ (HasKey t code scope ∧ ¬Belongs byModule code)

/-- No deletion hits a record, and the deletions hit those of the other old rows that belong to a
module. -/
def PrunedByModule (byModule : List ModuleRecords) (t : Permissions) : Prop :=
  (∀ code scope, Spared byModule code scope) ∧
  ∀ code scope, HasKey t code scope → (¬∃ m ∈ byModule, Records m code scope) →
    ((∃ m ∈ byModule, stale m code scope) ↔ Belongs byModule code)

theorem stale_of_last (h : (syncPermissions (order ++ [m])).run t = (.ok (), t')) (hkey : HasKey t' code scope) :
    stale m code scope = false := by
  induction order generalizing t with
  | nil =>
    obtain ⟨u, t₁, hrun, h⟩ := bind_ok_iff.1 h
    cases h
    rcases (hasKey_syncModule (mapErr_ok_iff.1 hrun) code scope).1 hkey with hown | ⟨-, hkeep⟩
    · exact not_stale_of_records hown
    · exact hkeep
  | cons m' rest ih =>
    obtain ⟨u, t₁, -, h⟩ := bind_ok_iff.1 h
    exact ih h

theorem spared_of_synchronised (hfit : Fit byModule) (h : Synchronised byModule t) (code scope : String) :
    Spared byModule code scope := by
  intro hrec m hm
  -- the module comes last in some order
  obtain ⟨before, after, rfl⟩ := List.append_of_mem hm
  have hperm : ((before ++ after) ++ [m]).Perm (before ++ m :: after) :=
    (List.perm_append_singleton m (before ++ after)).trans List.perm_middle.symm
  have hfit' : Fit ((before ++ after) ++ [m]) := fun m' hm' => hfit m' (hperm.subset hm')
  obtain ⟨t', hrun⟩ := syncPermissions_total hfit' t
  exact stale_of_last hrun ((h _ hperm t' hrun code scope).2 (.inl hrec))

theorem synchronised_iff (byModule : List ModuleRecords) (t : Permissions) :
    Synchronised byModule t ↔ (Fit byModule → PrunedByModule byModule t) := by
  constructor
  · intro h hfit
    have hspared := spared_of_synchronised hfit h
    refine ⟨hspared, fun code scope hold hrec => ?_⟩
    obtain ⟨t', hrun⟩ := syncPermissions_total hfit t
    have hkeys := (hasKey_syncPermissions hrun (hspared code scope)).symm.trans (h _ (.refl _) t' hrun code scope)
    simp only [hrec, hold, false_or, true_and] at hkeys
    rw [← not_iff_not, ← hkeys]
    simp
  · intro h order hperm t' hrun code scope
    have hmem {m : ModuleRecords} : m ∈ order ↔ m ∈ byModule := hperm.mem_iff
    have hfit : Fit byModule := fun m hm => fit_of_syncPermissions hrun m (hmem.2 hm)
    obtain ⟨hspared, hpruned⟩ := h hfit
    have hspared' : Spared order code scope := by simpa only [Spared, hmem] using hspared code scope
    rw [hasKey_syncPermissions hrun hspared']
    simp only [hmem]
    refine or_congr_right' fun hrec => and_congr_right fun hold => ?_
    rw [← not_iff_not.2 (hpruned code scope hold hrec)]
    simp

/-- If no deletion hits a record, a second boot, in any order, changes no key. -/
theorem second_boot_keeps_keys (hfit : Fit byModule) (hspared : ∀ code scope, Spared byModule code scope)
    (hperm : order.Perm byModule) (t : Permissions) (code scope : String) :
    HasKey ((syncPermissions order).exec ((syncPermissions byModule).exec t)) code scope ↔
      HasKey ((syncPermissions byModule).exec t) code scope := by
  obtain ⟨t', hfirst⟩ := syncPermissions_total hfit t
  obtain ⟨t'', hsecond⟩ := syncPermissions_total (fun m hm => hfit m (hperm.subset hm)) t'
  have hkeys := hasKey_syncPermissions hfirst (hspared code scope)
  have hagain := hasKey_syncPermissions hsecond (by simpa only [Spared, hperm.mem_iff] using hspared code scope)
  simp only [hperm.mem_iff] at hagain
  simp only [M.exec, hfirst, hsecond, hagain]
  constructor
  · exact fun h => h.elim (fun hrec => hkeys.2 (.inl hrec)) And.left
  · exact fun h => (hkeys.1 h).imp_right fun hold => ⟨h, hold.2⟩

def boxes : List ModuleRecords := [("mail", [⟨"mail:boxes:list", "GET", "", "platform"⟩])]

theorem boxes_keep_key :
    HasKey ((syncPermissions boxes).exec ((syncPermissions boxes).exec .empty)) "mail:boxes:list" "platform" :=
  (second_boot_keeps_keys (by simp [Fit, boxes]; decide) (fun _ _ ⟨_, hm, hrec⟩ _ hm' => by
    cases List.mem_singleton.1 hm
    cases List.mem_singleton.1 hm'
    exact not_stale_of_records hrec) (.refl _) .empty _ _).2 (by decide)

end Orders

def jobsAndMail : List Registered := [
  ⟨"runs", plainDef "jobs" "runs" scopePlatform { list := true }
    [⟨"notify", "POST", false, 0, false, false, ["mail:notices:send"]⟩]⟩,
  ⟨"boxes", plainDef "mail" "boxes" scopePlatform { list := true } []⟩]

/-- If `mail` comes last, the code is gone. -/
theorem borrowed_code_lost :
    registerAll (jobsAndMail.map fun reg => ⟨"", reg.resource⟩) = .ok jobsAndMail ∧
    ((syncPermissions (permRecordsByModule jobsAndMail)).run .empty).1 = .ok () ∧
    ((syncPermissions (permRecordsByModule jobsAndMail).reverse).run .empty).1 = .ok () ∧
    ¬HasKey ((syncPermissions (permRecordsByModule jobsAndMail)).exec .empty) "mail:notices:send" "platform" ∧
    HasKey ((syncPermissions (permRecordsByModule jobsAndMail).reverse).exec .empty) "mail:notices:send" "platform" := by
  refine ⟨by rfl, by decide, by decide, by decide, by decide⟩

end Vraxel.Iam
