import Vraxel.Iam.Members
/-
  Owners of workspaces and namespaces: the user of the binding there that has `is_owner` set. No index
  of `role_bindings` keeps a place from having two such bindings, or none.
-/

namespace Vraxel.Iam

open Relational Api Db Txn Strconv

def UniqueGrants (db : DB) : Prop :=
  ∀ a ∈ db.roleBindings, ∀ b ∈ db.roleBindings, a.sameGrant b → a = b

instance (db : DB) : Decidable (UniqueGrants db) :=
  inferInstanceAs (Decidable (∀ a ∈ db.roleBindings, ∀ b ∈ db.roleBindings, a.sameGrant b → a = b))

variable (scope : Db.Scope)

def isOwnerOf (id : Int) (b : RoleBindingRow) : Bool := b.isAt scope id && b.isOwner

def OneOwner (id : Int) (db : DB) : Prop := db.roleBindings.count (isOwnerOf scope id) = 1

instance (scope : Db.Scope) (id : Int) (db : DB) : Decidable (OneOwner scope id db) :=
  inferInstanceAs (Decidable (_ = _))

def ownerScope : Db.Scope := if scope = .workspace then .workspace else .namespace

theorem ownerScope_of_ne {scope : Db.Scope} (h : scope ≠ .platform) : ownerScope scope = scope := by
  cases scope <;> first | rfl | exact absurd rfl h

structure Transferred (scope : Db.Scope) (id newOwner : Int) (db db' : DB) : Prop where
  frame : db' = { db with roleBindings := db'.roleBindings }
  unique : UniqueGrants db'
  elsewhere : ∀ b, b.isAt scope id = false → (b ∈ db'.roleBindings ↔ b ∈ db.roleBindings)
  owner : ∃ b ∈ db'.roleBindings, isOwnerOf scope id b ∧ b.userID = newOwner ∧
    ∀ c ∈ db'.roleBindings, isOwnerOf scope id c → c = b

/-! Grants of the same role to the same user in the same place. -/

variable {b : RoleBindingRow}

theorem sameGrant_iff {a : RoleBindingRow} : a.sameGrant b ↔
    a.scope = b.scope ∧ a.userID = b.userID ∧ a.roleID = b.roleID ∧
      (b.scope = .workspace → a.workspaceID = b.workspaceID) ∧
      (b.scope = .namespace → a.namespaceID = b.namespaceID) := by
  simp only [RoleBindingRow.sameGrant, Bool.and_eq_true, decide_eq_true_eq, and_assoc]
  cases b.scope <;> simp

theorem sameGrant_symm {a : RoleBindingRow} (h : a.sameGrant b) : b.sameGrant a := by
  obtain ⟨hs, hu, hr, hw, hn⟩ := sameGrant_iff.1 h
  exact sameGrant_iff.2 ⟨hs.symm, hu.symm, hr.symm, fun h => (hw (hs ▸ h)).symm, fun h => (hn (hs ▸ h)).symm⟩

theorem sameGrant_trans {a c : RoleBindingRow} (h : a.sameGrant b) (h' : b.sameGrant c) : a.sameGrant c := by
  obtain ⟨hs, hu, hr, hw, hn⟩ := sameGrant_iff.1 h
  obtain ⟨hs', hu', hr', hw', hn'⟩ := sameGrant_iff.1 h'
  exact sameGrant_iff.2 ⟨hs.trans hs', hu.trans hu', hr.trans hr', fun h => (hw (hs'.trans h)).trans (hw' h),
    fun h => (hn (hs'.trans h)).trans (hn' h)⟩

/-! The statements keep the indexes. -/

theorem UniqueGrants.delete {db : DB} (h : UniqueGrants db) (p : RoleBindingRow → Bool) :
    UniqueGrants { db with roleBindings := db.roleBindings.delete p } := fun a ha b hb =>
  h a (Table.mem_delete.1 ha).1 b (Table.mem_delete.1 hb).1

theorem UniqueGrants.update_isOwner {db : DB} (h : UniqueGrants db) (p : RoleBindingRow → Bool) (o : Bool) :
    UniqueGrants { db with roleBindings := db.roleBindings.update p fun b => { b with isOwner := o } } := by
  -- the mark is not part of a grant, so two updated rows grant the same if the old ones did
  intro a ha b hb hsame
  obtain ⟨r, hr, rfl⟩ := Table.mem_update.1 ha
  obtain ⟨s, hs, rfl⟩ := Table.mem_update.1 hb
  have hold : r.sameGrant s := by
    revert hsame
    split <;> split <;> exact id
  rw [h r hr s hs hold]

theorem UniqueGrants.insert {db : DB} (h : UniqueGrants db) {row : RoleBindingRow}
    (hnew : db.roleBindings.exists? (·.sameGrant row) = false) :
    UniqueGrants { db with roleBindings := db.roleBindings.insert row } := by
  have hno := Table.exists?_eq_false.1 hnew
  have hadded : (db.roleBindings.inserted row).sameGrant row := sameGrant_withID row _
  intro a ha b hb hsame
  rcases Table.mem_insert.1 ha with ha | rfl <;> rcases Table.mem_insert.1 hb with hb | rfl
  · exact h a ha b hb hsame
  · exact absurd (sameGrant_trans hsame hadded) (by simp [hno a ha])
  · exact absurd (sameGrant_trans (sameGrant_symm hsame) hadded) (by simp [hno b hb])
  · rfl

/-! The two writes of a transfer. -/

def withoutOwner (id : Int) (db : DB) : DB :=
  { db with roleBindings := db.roleBindings.update (isOwnerOf scope id) fun b => { b with isOwner := false } }

namespace PgRoleBindingStore

theorem run_clearOwner (id : Int) (db : DB) :
    (clearOwner scope id).run db = (.ok (), withoutOwner (ownerScope scope) id db) := by
  have hclear (s : Db.Scope) : (clearScopeOwner s id).run db = (.ok (), withoutOwner s id db) :=
    run_bind_of_ok (Slot.update_ok_iff.2 ⟨fun _ => rfl, rfl, rfl⟩)
  rw [clearOwner, ownerScope]
  split
  · exact hclear .workspace
  · exact hclear .namespace

theorem upsertOwner_ok {scope : Db.Scope} {id u r : Int} {db db' : DB} {a : Unit}
    (h : (upsertOwner scope id u r).run db = (.ok a, db')) :
    ∃ place : Place, (place.grant u r true).isAt (ownerScope scope) id ∧
      (upsertOwnerGrant (place.grant u r true)).run db = (.ok a, db') := by
  rw [upsertOwner] at h
  rw [ownerScope]
  split at h
  · rename_i hscope
    rw [if_pos hscope]
    exact ⟨.workspace id, (isAt_grant_workspace _ u r id true).2 rfl, h⟩
  · rename_i hscope
    rw [if_neg hscope]
    rw [getNamespaceWorkspaceID, run_read_bind] at h
    cases hw : db.workspaceOf id with
    | none => simp [hw] at h
    | some w =>
      rw [hw] at h
      exact ⟨.namespace w id, (isAt_grant_namespace _ u r id true).2 ⟨w, rfl⟩, h⟩

end PgRoleBindingStore

section Writes

variable {scope : Db.Scope} {id newOwner : Int} {db db' : DB}

theorem not_isOwnerOf_withoutOwner (hb : b ∈ (withoutOwner scope id db).roleBindings) :
    isOwnerOf scope id b = false := by
  obtain ⟨r, -, rfl⟩ := Table.mem_update.1 hb
  split <;> rename_i howner
  · exact Bool.and_false _
  · exact Bool.eq_false_of_not_eq_true howner

theorem mem_withoutOwner_elsewhere (h : b.isAt scope id = false) :
    b ∈ (withoutOwner scope id db).roleBindings ↔ b ∈ db.roleBindings := by
  refine Table.mem_update.trans ⟨?_, fun hb => ⟨b, hb, by simp [isOwnerOf, h]⟩⟩
  rintro ⟨r, hr, rfl⟩
  split at h
  · rename_i howner
    have hat : r.isAt scope id := (Bool.and_eq_true _ _ ▸ howner).1
    exact absurd (hat.symm.trans h) (by simp)
  · rename_i howner
    rwa [if_neg howner]

theorem transferred_upsertOwnerGrant {row : RoleBindingRow} {a : Unit} (hat : row.isAt scope id)
    (howner : row.isOwner) (hunique : UniqueGrants db)
    (hclear : ∀ b ∈ db.roleBindings, isOwnerOf scope id b = false)
    (hrun : (upsertOwnerGrant row).run db = (.ok a, db')) : Transferred scope id row.userID db db' := by
  rcases Slot.upsert_ok_iff.1 hrun with ⟨hex, rfl⟩ | ⟨hno, -, rfl⟩
  · obtain ⟨r, hr, hsame⟩ := Table.exists?_iff.1 hex
    obtain ⟨huser, hisAt⟩ := isAt_of_sameGrant hsame
    refine ⟨rfl, hunique.update_isOwner _ true, fun b hb => ?_, { r with isOwner := true }, ?_, ?_, huser, ?_⟩
    · refine Table.mem_update.trans ⟨?_, fun hmem => ⟨b, hmem, (if_neg ?_).symm⟩⟩
      · rintro ⟨s, hs, rfl⟩
        split at hb
        · rename_i hsame'
          have hat' : s.isAt scope id = false := hb
          exact absurd (((isAt_of_sameGrant hsame').2 scope id).trans hat) (by simp [hat'])
        · rename_i hsame'
          rwa [if_neg hsame']
      · exact fun hsame' => absurd (((isAt_of_sameGrant hsame').2 scope id).trans hat) (by simp [hb])
    · exact Table.mem_update.2 ⟨r, hr, (if_pos hsame).symm⟩
    · exact Bool.and_eq_true _ _ ▸ ⟨(hisAt scope id).trans hat, rfl⟩
    · intro c hc hcowner
      obtain ⟨s, hs, rfl⟩ := Table.mem_update.1 hc
      split at hcowner <;> rename_i hsame'
      · rw [if_pos hsame', hunique s hs r hr (sameGrant_trans hsame' (sameGrant_symm hsame))]
        rfl
      · simp [hclear s hs] at hcowner
  · have hadded : (db.roleBindings.inserted row).sameGrant row := sameGrant_withID row _
    obtain ⟨huser, hisAt⟩ := isAt_of_sameGrant hadded
    refine ⟨rfl, hunique.insert hno, fun b hb => ?_, db.roleBindings.inserted row, Table.mem_insert.2 (.inr rfl), ?_,
      huser, ?_⟩
    · refine Table.mem_insert.trans ⟨?_, .inl⟩
      rintro (hmem | rfl)
      · exact hmem
      · exact absurd (hb.symm.trans ((hisAt scope id).trans hat)) (by simp)
    · exact Bool.and_eq_true _ _ ▸ ⟨(hisAt scope id).trans hat, howner⟩
    · intro c hc hcowner
      rcases Table.mem_insert.1 hc with hc | rfl
      · simp [hclear c hc] at hcowner
      · rfl

end Writes

def PgRoleBindingStore.transferWrites (resourceID newOwnerUserID : Int) (adminRoleName : String) :
    DbM Unit := do
  clearOwner scope resourceID
  let adminRoleID ← lookupAdminRoleID scope resourceID adminRoleName
  mapErr (·.wrap "upsert owner binding") (upsertOwner scope resourceID newOwnerUserID adminRoleID)

open PgRoleBindingStore

theorem transferred_transferWrites {scope : Db.Scope} {id newOwner : Int} {name : String} {db db' : DB} {a : Unit}
    (hunique : UniqueGrants db) (hrun : (transferWrites scope id newOwner name).run db = (.ok a, db')) :
    Transferred (ownerScope scope) id newOwner db db' := by
  rw [transferWrites, run_bind_of_ok (run_clearOwner scope id db), bind_ok_iff] at hrun
  obtain ⟨roleID, d, hlookup, hupsert⟩ := hrun
  rw [(readsOnly_lookupAdminRoleID scope id name).store_eq hlookup] at hupsert
  obtain ⟨place, hat, hgrant⟩ := upsertOwner_ok (mapErr_ok_iff.1 hupsert)
  obtain ⟨hframe, hunique', helse, howner⟩ := transferred_upsertOwnerGrant hat rfl
    (hunique.update_isOwner _ false) (fun b hb => not_isOwnerOf_withoutOwner hb) hgrant
  exact ⟨hframe, hunique', fun b hb => (helse b hb).trans (mem_withoutOwner_elsewhere hb), howner⟩

theorem transferOwnershipTx_eq (id callerID : Int) (admin : Bool) (newOwner : Int) (name : String) :
    transferOwnershipTx scope id callerID admin newOwner name = (do
      let oldOwner ← findOwnerForUpdate scope id
      if !admin && callerID ≠ oldOwner then
        fail (.tagged "only the current owner or platform admin can transfer ownership" .forbidden)
      else
        let isMember ← checkMembership scope id newOwner
        if !isMember then
          fail (.tagged "new owner must be a member of the resource" .badRequest)
        else
          transferWrites scope id newOwner name
          return oldOwner) := by
  simp [transferOwnershipTx, transferWrites, bind_assoc]

theorem transferOwnershipTx_ok {scope : Db.Scope} {id callerID newOwner owner : Int} {admin : Bool} {name : String}
    {db db' : DB} (hrun : (transferOwnershipTx scope id callerID admin newOwner name).run db = (.ok owner, db')) :
    (transferWrites scope id newOwner name).run db = (.ok (), db') := by
  rw [transferOwnershipTx_eq, bind_ok_iff] at hrun
  obtain ⟨oldOwner, d, hfind, hrun⟩ := hrun
  rw [(readsOnly_findOwnerForUpdate scope id).store_eq hfind] at hrun
  split at hrun
  · simp at hrun
  · rw [bind_ok_iff] at hrun
    obtain ⟨isMember, d, hmember, hrun⟩ := hrun
    rw [(readsOnly_checkMembership scope id newOwner).store_eq hmember] at hrun
    split at hrun
    · simp at hrun
    · rw [bind_ok_iff] at hrun
      obtain ⟨_, d, hwrites, hrun⟩ := hrun
      rwa [← (pure_ok_iff.1 hrun).2]

theorem run_transferOwnership {db : DB} (hunique : UniqueGrants db) (scope : Db.Scope) (id callerID : Int)
    (admin : Bool) (newOwner : Int) (name : String) :
    (∃ e, (transferOwnership scope id callerID admin newOwner name).run db = (.error e, db)) ∨
      ∃ owner db', (transferOwnership scope id callerID admin newOwner name).run db = (.ok owner, db') ∧
        scope ≠ .platform ∧ Transferred scope id newOwner db db' := by
  rw [transferOwnership]
  split
  · exact .inl ⟨_, rfl⟩
  · rename_i hscope
    rcases hrun : (atomically (transferOwnershipTx scope id callerID admin newOwner name)).run db with ⟨e | owner, db'⟩
    · rw [atomically_error hrun]
      exact .inl ⟨e, rfl⟩
    · have ht := transferred_transferWrites hunique (transferOwnershipTx_ok (atomically_ok_iff.1 hrun))
      rw [ownerScope_of_ne hscope] at ht
      exact .inr ⟨owner, db', rfl, hscope, ht⟩

theorem oneOwner_congr {scope : Db.Scope} {id : Int} {db db' : DB}
    (h : ∀ b, b.isAt scope id → (b ∈ db'.roleBindings ↔ b ∈ db.roleBindings)) :
    OneOwner scope id db' ↔ OneOwner scope id db := by
  have howner (b : RoleBindingRow) : b ∈ db'.roleBindings ∧ isOwnerOf scope id b ↔
      b ∈ db.roleBindings ∧ isOwnerOf scope id b :=
    and_congr_left fun hb => h b (Bool.and_eq_true _ _ ▸ hb).1
  simp only [OneOwner, Table.count_eq_one, ← and_imp, ← and_assoc, howner]

theorem not_isAt_of_isAt {scope scope' : Db.Scope} {id id' : Int} (h : b.isAt scope id)
    (hne : (scope, id) ≠ (scope', id')) (hscope : scope' ≠ .platform) : b.isAt scope' id' = false := by
  by_contra hat
  cases scope <;> cases scope' <;> simp_all [RoleBindingRow.isAt]

theorem Transferred.oneOwner {scope scope' : Db.Scope} {id id' newOwner : Int} {db db' : DB}
    (ht : Transferred scope' id' newOwner db db') (hscope : scope' ≠ .platform) (h : OneOwner scope id db) :
    OneOwner scope id db' := by
  by_cases hplace : (scope, id) = (scope', id')
  · cases hplace
    obtain ⟨b, hb, howner, -, honly⟩ := ht.owner
    exact Table.count_eq_one.2 ⟨b, hb, howner, honly⟩
  · exact (oneOwner_congr fun b hb => ht.elsewhere b (not_isAt_of_isAt hb hplace hscope)).2 h

end Vraxel.Iam
