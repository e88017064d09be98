import Vraxel.Db.Users
import Vraxel.Db.RoleBindings
/-
  Provisioning of accounts (`iam/store/pg_registration.go`): self-service
  registration with a password, and sign-in through an external provider, which
  links the external identity to an account or creates one.

  Both run in one transaction.
-/

namespace Vraxel.Iam

open Relational Api Db Txn Strconv

structure RegisterLocalInput where
  username : String
  email : String
  displayName : String
  passwordHash : String
  defaultRoleName : String

structure SocialLoginInput where
  provider : String
  subject : String
  email : String
  username : String
  displayName : String
  avatarURL : String
  defaultRoleName : String
  allowCreate : Bool

def requireActive (status username : String) : Except Err Unit :=
  if status ≠ "active" then .error (.tagged ("account " ++ quote username ++ " is not active") .forbidden)
  else .ok ()

def getUserRowByID (id : Int) : DbM UserRow := do
  match ← getUserByID id with
  | some row => return row
  | none => fail (noRows.wrap "get user by id")

def bindDefaultPlatformRole (userID : Int) (roleName : String) : DbM Unit := do
  if roleName = "" then
    return ()
  match ← getRoleByName roleName with
  | none => fail (noRows.wrap ("get default role " ++ quote roleName))
  | some role =>
    let _ ← mapErr (·.wrap "bind default role")
      (createRoleBindingIfNotExists (Place.platform.grant userID role.id false))
    return ()

/-- The candidate with suffix `i`, cut to the 50 characters of a username. A
social username is ASCII, so its bytes are its characters. -/
def suffixed (base : String) (i : Nat) : String :=
  let suffix := "-" ++ formatInt i
  let trimmed :=
    if base.length + suffix.length > 50 then String.ofList (base.toList.take (50 - suffix.length)) else base
  trimmed ++ suffix

def uniqueUsernameFrom (base : String) : List Nat → String → DbM String
  | [], _ => fail (.plain ("could not derive a unique username from " ++ quote base))
  | i :: is, candidate => do
    match ← getUserByUsername candidate with
    | none => return candidate
    | some _ => uniqueUsernameFrom base is (suffixed base i)

def uniqueUsername (base : String) : DbM String := uniqueUsernameFrom base (List.range' 2 19) base

def registerLocal (input : RegisterLocalInput) : DbM UserRow := atomically do
  let row ← mapErr (fun e => (checkPG e).wrap "create user") (createUser
    { username := input.username, email := input.email, displayName := input.displayName,
      phone := "", avatarURL := "", status := "active" })
  mapErr (·.wrap "set password hash") (setPasswordHash row.id input.passwordHash)
  bindDefaultPlatformRole row.id input.defaultRoleName
  return row

def linkByEmail (email : String) : DbM Int := do
  if email = "" then
    return 0
  match ← getUserByEmail email with
  | none => return 0
  | some u =>
    if u.builtin then
      fail (.tagged ("social identity matches builtin user " ++ quote u.username ++ " by email") .forbidden)
    else
      lift (requireActive u.status u.username)
      return u.id

variable (input : SocialLoginInput)

def provisionSocial : DbM Int := do
  if !input.allowCreate then
    fail (.tagged "social signups are disabled" .forbidden)
  else
    let username ← uniqueUsername input.username
    let row ← mapErr (fun e => (checkPG e).wrap "create user") (createUser
      { username := username, email := input.email, displayName := input.displayName,
        phone := "", avatarURL := input.avatarURL, status := "active" })
    bindDefaultPlatformRole row.id input.defaultRoleName
    return row.id

def SocialLoginInput.identity (userID : Int) : UserIdentityRow :=
  ⟨0, userID, input.provider, input.subject, input.email⟩

def findOrCreateSocial : DbM UserRow := atomically do
  match ← getUserIdentity input.provider input.subject with
  | some ident =>
    let row ← getUserRowByID ident.userID
    lift (requireActive row.status row.username)
    return row
  | none =>
    let matched ← linkByEmail input.email
    let userID ← (if matched = 0 then provisionSocial input else pure matched : DbM Int)
    let _ ← mapErr (fun e => (checkPG e).wrap "create user identity")
      (createUserIdentity (input.identity userID))
    getUserRowByID userID

/-! What a successful call did. -/

theorem requireActive_eq_ok_iff {status username : String} {a : Unit} :
    requireActive status username = .ok a ↔ status = "active" := by
  rw [requireActive]
  split <;> simp_all

variable {db db' : DB} {input : SocialLoginInput}

theorem getUserRowByID_ok_iff {id : Int} {row : UserRow} :
    (getUserRowByID id).run db = (.ok row, db') ↔ db.users.get? id = some row ∧ db = db' := by
  simp only [getUserRowByID, getUserByID, run_read_bind]
  split <;> simp_all

theorem bindDefaultPlatformRole_ok {userID : Int} {roleName : String} {a : Unit}
    (h : (bindDefaultPlatformRole userID roleName).run db = (.ok a, db')) :
    ∃ t, db' = { db with roleBindings := t } := by
  rw [bindDefaultPlatformRole] at h
  split at h
  · obtain ⟨-, rfl⟩ := pure_ok_iff.1 h
    exact ⟨db.roleBindings, rfl⟩
  simp only [getRoleByName, run_read_bind] at h
  split at h
  · simp at h
  · simp only [bind_ok_iff, mapErr_ok_iff, createRoleBindingIfNotExists, Slot.insertIfNew_ok_iff,
      pure_ok_iff] at h
    obtain ⟨n, db₁, ⟨-, -, rfl⟩ | ⟨-, -, -, rfl⟩, -, rfl⟩ := h
    · exact ⟨db.roleBindings, rfl⟩
    · exact ⟨_, rfl⟩

theorem registerLocal_ok {input : RegisterLocalInput} {row : UserRow}
    (h : (registerLocal input).run db = (.ok row, db')) :
    row.id = db.users.next ∧ row.email = input.email ∧ row.status = "active" ∧
      db'.userIdentities = db.userIdentities ∧
      ∀ u, u ∈ db'.users ↔ u ∈ db.users ∨ u = { row with passwordHash := input.passwordHash } := by
  simp only [registerLocal, atomically_ok_iff, bind_ok_iff, mapErr_ok_iff, pure_ok_iff] at h
  obtain ⟨_, _, hcreate, _, _, hset, _, _, hbind, rfl, rfl⟩ := h
  obtain ⟨rfl, rfl⟩ := createUser_ok hcreate
  obtain rfl := setPasswordHash_ok hset
  obtain ⟨t, rfl⟩ := bindDefaultPlatformRole_ok hbind
  exact ⟨rfl, rfl, rfl, rfl, fun u => Table.mem_update_insert fun u => by simp; rfl⟩

/-- The account a social sign-in newly links: the identity is not linked yet, the
email is carried by an active account that is not built in, and the identity's
columns hold the values. -/
def linksTo (db : DB) (input : SocialLoginInput) : Option UserRow :=
  if db.userIdentities.exists? fun i => i.provider = input.provider && i.providerSubject = input.subject then
    none
  else if input.email = "" then
    none
  else
    (db.users.find? fun u => u.email = input.email).filter fun u =>
      !u.builtin && u.status = "active" && (varchar 32 input.provider).1 && (varchar 255 input.subject).1
        && (varchar 255 input.email).1

theorem linksTo_eq_some_iff {u : UserRow} :
    linksTo db input = some u ↔
      (db.userIdentities.find? fun i => i.provider = input.provider && i.providerSubject = input.subject) = none ∧
        input.email ≠ "" ∧ (db.users.find? fun u => u.email = input.email) = some u ∧
        u.builtin = false ∧ u.status = "active" ∧
        createUserIdentityChecks (input.identity u.id) db = .ok () := by
  rw [linksTo, createUserIdentityChecks, firstViolation_eq_ok_iff]
  cases hident : db.userIdentities.exists? fun i =>
      i.provider = input.provider && i.providerSubject = input.subject with
  | true =>
    obtain ⟨i, hi, hkeys⟩ := Table.exists?_iff.1 hident
    have hsome : (db.userIdentities.find? fun i =>
        i.provider = input.provider && i.providerSubject = input.subject) ≠ none :=
      fun h => Table.find?_none.1 h i hi hkeys
    simp [hsome]
  | false =>
    have hnone : (db.userIdentities.find? fun i =>
        i.provider = input.provider && i.providerSubject = input.subject) = none :=
      Table.find?_none.2 fun i hi => by simp [Table.exists?_eq_false.1 hident i hi]
    by_cases hemail : input.email = ""
    · simp [hemail]
    have href {u : UserRow} (hu : (db.users.find? fun u => u.email = input.email) = some u) :
        references db.users (some u.id) := references_some_iff.2 ⟨u, (Table.find?_some hu).1, rfl⟩
    simp only [Bool.false_eq_true, if_false, hemail, Option.filter_eq_some_iff, Bool.and_eq_true,
      Bool.not_eq_true', decide_eq_true_eq, hnone, ne_eq, not_false_eq_true, true_and,
      SocialLoginInput.identity, List.mem_cons, forall_eq_or_imp, List.not_mem_nil, false_imp_iff,
      implies_true, and_true, and_assoc]
    exact ⟨fun ⟨hu, hb, ha, h₁, h₂, h₃⟩ => ⟨hu, hb, ha, h₁, h₂, h₃, hident, href hu⟩,
      fun ⟨hu, hb, ha, h₁, h₂, h₃, _⟩ => ⟨hu, hb, ha, h₁, h₂, h₃⟩⟩

/-- How a social sign-in succeeds: it answers `row` and leaves `db'`. -/
inductive SocialOutcome (input : SocialLoginInput) (db : DB) (row : UserRow) (db' : DB) : Prop
  | signedIn (ident : UserIdentityRow) (hident : ident ∈ db.userIdentities)
      (hprovider : ident.provider = input.provider) (hsubject : ident.providerSubject = input.subject)
      (hactive : row.status = "active") (hdb : db' = db)
  | linked (hlinks : linksTo db input = some row)
      (hdb : db' = { db with userIdentities := db.userIdentities.insert (input.identity row.id) })
  | created (p : CreateUserParams) (hemail : p.email = input.email) (hactive : p.status = "active")
      (hrow : row = db.users.inserted p.row) (husers : db'.users = db.users.insert p.row)
      (hidents : db'.userIdentities = db.userIdentities.insert (input.identity row.id))

theorem uniqueUsernameFrom_ok {base : String} {is : List Nat} {candidate name : String}
    (h : (uniqueUsernameFrom base is candidate).run db = (.ok name, db')) : db' = db := by
  induction is generalizing candidate with
  | nil => simp [uniqueUsernameFrom] at h
  | cons i is ih =>
    simp only [uniqueUsernameFrom, getUserByUsername, run_read_bind] at h
    split at h
    · exact (pure_ok_iff.1 h).2.symm
    · exact ih h

theorem provisionSocial_ok {userID : Int}
    (h : (provisionSocial input).run db = (.ok userID, db')) :
    ∃ (p : CreateUserParams) (t : Table RoleBindingRow), p.email = input.email ∧ p.status = "active" ∧
      userID = (db.users.inserted p.row).id ∧
      db' = { db with users := db.users.insert p.row, roleBindings := t } := by
  rw [provisionSocial] at h
  split at h
  · simp at h
  simp only [uniqueUsername, bind_ok_iff, mapErr_ok_iff, pure_ok_iff] at h
  obtain ⟨username, _, hname, _, _, hcreate, _, _, hbind, rfl, rfl⟩ := h
  obtain rfl := uniqueUsernameFrom_ok hname
  obtain ⟨rfl, rfl⟩ := createUser_ok hcreate
  obtain ⟨t, rfl⟩ := bindDefaultPlatformRole_ok hbind
  exact ⟨_, t, rfl, rfl, rfl, rfl⟩

theorem linkByEmail_ok {email : String} {id : Int}
    (h : (linkByEmail email).run db = (.ok id, db')) :
    db' = db ∧ (id = 0 ∨ email ≠ "" ∧ ∃ u, (db.users.find? fun u => u.email = email) = some u ∧
      u.builtin = false ∧ u.status = "active" ∧ id = u.id) := by
  rw [linkByEmail] at h
  split at h
  · obtain ⟨rfl, rfl⟩ := pure_ok_iff.1 h
    exact ⟨rfl, .inl rfl⟩
  next hemail =>
  simp only [getUserByEmail, run_read_bind] at h
  split at h
  · obtain ⟨rfl, rfl⟩ := pure_ok_iff.1 h
    exact ⟨rfl, .inl rfl⟩
  next u hu =>
  split at h
  · simp at h
  next hb =>
  simp only [bind_ok_iff, lift_ok_iff, requireActive_eq_ok_iff, pure_ok_iff] at h
  obtain ⟨_, _, ⟨hactive, rfl⟩, rfl, rfl⟩ := h
  exact ⟨rfl, .inr ⟨hemail, u, hu, by simpa using hb, hactive, rfl⟩⟩

theorem findOrCreateSocial_ok {row : UserRow}
    (h : (findOrCreateSocial input).run db = (.ok row, db')) : SocialOutcome input db row db' := by
  simp only [findOrCreateSocial, atomically_ok_iff, getUserIdentity, run_read_bind] at h
  split at h
  next ident hident =>
    simp only [bind_ok_iff, getUserRowByID_ok_iff, lift_ok_iff, requireActive_eq_ok_iff, pure_ok_iff] at h
    obtain ⟨_, _, ⟨hrow, rfl⟩, _, _, ⟨hactive, rfl⟩, rfl, rfl⟩ := h
    obtain ⟨hmem, hkeys⟩ := Table.find?_some hident
    simp only [Bool.and_eq_true, decide_eq_true_eq] at hkeys
    exact .signedIn ident hmem hkeys.1 hkeys.2 hactive rfl
  next hnone =>
    simp only [bind_ok_iff, mapErr_ok_iff, createUserIdentity_ok_iff, getUserRowByID_ok_iff] at h
    obtain ⟨matched, _, hlink, userID, _, huser, _, _, ⟨hchk, -, rfl⟩, hget, rfl⟩ := h
    obtain ⟨rfl, hmatched⟩ := linkByEmail_ok hlink
    split at huser
    next h0 =>
      obtain ⟨p, t, hemail, hactive, rfl, rfl⟩ := provisionSocial_ok huser
      obtain ⟨hmem, hid⟩ := Table.get?_eq_some_iff.1 hget
      obtain rfl : row = _ := Table.eq_of_key_eq _ hmem (Table.mem_insert.2 (.inr rfl)) hid
      exact .created p hemail hactive rfl rfl rfl
    next h0 =>
      obtain ⟨rfl, rfl⟩ := pure_ok_iff.1 huser
      obtain h0' | ⟨hemail, u, hu, hb, hactive, rfl⟩ := hmatched
      · exact absurd h0' h0
      obtain ⟨hmem, -⟩ := Table.find?_some hu
      obtain ⟨hrow, hid⟩ := Table.get?_eq_some_iff.1 hget
      obtain rfl : row = u := Table.eq_of_key_eq _ hrow hmem hid
      exact .linked (linksTo_eq_some_iff.2 ⟨hnone, hemail, hu, hb, hactive, hchk⟩) rfl

/-- The second way, in the other direction: where `linksTo` names an account, the
sign-in links it and answers with it. -/
theorem findOrCreateSocial_of_linksTo {u : UserRow}
    (h : linksTo db input = some u) :
    (findOrCreateSocial input).run db =
      (.ok u, { db with userIdentities := db.userIdentities.insert (input.identity u.id) }) := by
  obtain ⟨hnone, hemail, hu, hb, hactive, hchk⟩ := linksTo_eq_some_iff.1 h
  obtain ⟨hmem, -⟩ := Table.find?_some hu
  have hid : u.id ≠ 0 := (Table.key_pos hmem).ne'
  have hlink : (linkByEmail input.email).run db = (.ok u.id, db) := by
    simp only [linkByEmail, if_neg hemail, getUserByEmail, run_read_bind, hu, hb, Bool.false_eq_true,
      if_false, bind_ok_iff, lift_ok_iff, requireActive_eq_ok_iff, pure_ok_iff]
    exact ⟨(), db, ⟨hactive, rfl⟩, trivial, rfl⟩
  simp only [findOrCreateSocial, atomically_ok_iff, getUserIdentity, run_read_bind, hnone, bind_ok_iff,
    mapErr_ok_iff, createUserIdentity_ok_iff, getUserRowByID_ok_iff]
  refine ⟨u.id, db, hlink, u.id, db, ?_, _, _, ⟨hchk, rfl, rfl⟩, ?_, rfl⟩
  · rw [if_neg hid]
    rfl
  · exact Table.get?_eq_some_iff.2 ⟨hmem, rfl⟩

end Vraxel.Iam
