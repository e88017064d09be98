import Vraxel.Db.Schema
/-
  The statements on `users` and `user_identities` (`pkg/db/query/user.sql`,
  `user_identity.sql`). Each keeps its query's name. A query that may find no
  row answers with an `Option`.
-/

namespace Vraxel.Db

open Relational Api Txn

structure CreateUserParams where
  username : String
  email : String
  displayName : String
  phone : String
  avatarURL : String
  status : String

variable (p : CreateUserParams)

/-- The row `CreateUser` inserts; the columns it does not name take their defaults. -/
def CreateUserParams.row : UserRow where
  id := 0
  username := p.username
  email := p.email
  displayName := p.displayName
  phone := p.phone
  avatarURL := p.avatarURL
  status := p.status
  passwordHash := ""
  builtin := false

def createUserChecks (db : DB) : Except Err Unit :=
  firstViolation [
    varchar 255 p.username, varchar 255 p.email, varchar 255 p.displayName, varchar 50 p.phone,
    varchar 512 p.avatarURL, varchar 20 p.status,
    (!db.users.exists? fun u => u.username = p.username, uniqueViolation "users_username_key"),
    (!db.users.exists? fun u => u.email = p.email, uniqueViolation "users_email_key"),
    (p.phone = "" || !db.users.exists? fun u => u.phone = p.phone, uniqueViolation "uk_users_phone")]

def createUser : DbM UserRow :=
  usersTable.insert (createUserChecks p) p.row

def setPasswordHash (id : Int) (passwordHash : String) : DbM Unit := do
  let _ ← usersTable.update (fun u => u.id = id) (fun _ => firstViolation [varchar 255 passwordHash])
    fun u => { u with passwordHash := passwordHash }

def getUserByID (id : Int) : DbM (Option UserRow) := read fun db => db.users.get? id

def getUserByEmail (email : String) : DbM (Option UserRow) :=
  read fun db => db.users.find? fun u => u.email = email

def getUserByUsername (username : String) : DbM (Option UserRow) :=
  read fun db => db.users.find? fun u => u.username = username

def getUserIdentity (provider subject : String) : DbM (Option UserIdentityRow) :=
  read fun db => db.userIdentities.find? fun i => i.provider = provider && i.providerSubject = subject

def createUserIdentityChecks (row : UserIdentityRow) (db : DB) : Except Err Unit :=
  firstViolation [
    varchar 32 row.provider, varchar 255 row.providerSubject, varchar 255 row.email,
    (!db.userIdentities.exists? fun i =>
      i.provider = row.provider && i.providerSubject = row.providerSubject,
      uniqueViolation "user_identities_provider_provider_subject_key"),
    (references db.users (some row.userID), foreignKeyViolation "user_identities" "user_id" row.userID "users")]

def createUserIdentity (row : UserIdentityRow) : DbM UserIdentityRow :=
  userIdentitiesTable.insert (createUserIdentityChecks row) row

/-! What a statement that succeeds did. -/

theorem createUser_ok {p : CreateUserParams} {db db' : DB} {row : UserRow}
    (h : (createUser p).run db = (.ok row, db')) :
    row = db.users.inserted p.row ∧ db' = { db with users := db.users.insert p.row } := by
  obtain ⟨-, hrow, hdb⟩ := Slot.insert_ok_iff.1 h
  exact ⟨hrow.symm, hdb.symm⟩

theorem setPasswordHash_ok {id : Int} {passwordHash : String} {db db' : DB} {a : Unit}
    (h : (setPasswordHash id passwordHash).run db = (.ok a, db')) :
    db' = { db with users :=
      db.users.update (fun u => u.id = id) fun u => { u with passwordHash := passwordHash } } := by
  simp only [setPasswordHash, bind_ok_iff, Slot.update_ok_iff, pure_ok_iff] at h
  obtain ⟨_, _, ⟨-, -, rfl⟩, -, rfl⟩ := h
  rfl

theorem createUserIdentity_ok_iff {row ident : UserIdentityRow} {db db' : DB} :
    (createUserIdentity row).run db = (.ok ident, db') ↔
      createUserIdentityChecks row db = .ok () ∧ ident = db.userIdentities.inserted row ∧
        db' = { db with userIdentities := db.userIdentities.insert row } := by
  rw [createUserIdentity, Slot.insert_ok_iff, eq_comm (a := ident), eq_comm (a := db')]
  rfl

end Vraxel.Db
