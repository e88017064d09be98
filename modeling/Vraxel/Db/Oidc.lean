import Vraxel.Db.Schema
/-
  The tables of the OIDC provider and the statements on them (`pkg/db/query/oidc_pending_request.sql`,
  `oidc_auth_code.sql`, `refresh_token.sql`).

  The number a pending request or a code carries is bookkeeping, and so are the fields that say where
  a row comes from: the parameters and the client, and the number of password changes that had begun
  for the user at the login (`login`).
-/

namespace Vraxel.Db

open Relational Api Txn

structure AuthorizeParams where
  responseType : String
  clientID : String
  redirectURI : String
  scope : String
  state : String
  nonce : String
  codeChallenge : String
  codeChallengeMethod : String

structure Client where
  id : String
  secret : String
  redirectURIs : List String
  isPublic : Bool

structure PendingRequestRow where
  serial : Int
  id : String
  request : AuthorizeParams
  expiresAt : Int
  params : AuthorizeParams
  client : Client

structure AuthCodeRow where
  serial : Int
  code : String
  clientID : String
  userID : Int
  redirectURI : String
  scopes : String
  nonce : String
  codeChallenge : String
  codeChallengeMethod : String
  authTime : Int
  expiresAt : Int
  consumed : Bool
  params : AuthorizeParams
  client : Client
  login : Nat

structure RefreshTokenRow where
  id : Int
  tokenHash : String
  userID : Int
  clientID : String
  scope : String
  expiresAt : Int
  revoked : Bool
  login : Nat

instance : Keyed PendingRequestRow := ⟨(·.serial), fun r i => { r with serial := i }, fun _ _ => rfl, fun _ => rfl⟩
instance : Keyed AuthCodeRow := ⟨(·.serial), fun r i => { r with serial := i }, fun _ _ => rfl, fun _ => rfl⟩
instance : Keyed RefreshTokenRow := ⟨(·.id), fun r i => { r with id := i }, fun _ _ => rfl, fun _ => rfl⟩

@[simp] theorem key_pendingRequest (r : PendingRequestRow) : key r = r.serial := rfl
@[simp] theorem key_authCode (r : AuthCodeRow) : key r = r.serial := rfl
@[simp] theorem key_refreshToken (r : RefreshTokenRow) : key r = r.id := rfl

structure OidcDB where
  users : Table UserRow
  pendingRequests : Table PendingRequestRow
  authCodes : Table AuthCodeRow
  refreshTokens : Table RefreshTokenRow
  now : Int

abbrev OidcM (α : Type) := M OidcDB Err α

def pendingRequestsTable : Slot OidcDB PendingRequestRow :=
  ⟨(·.pendingRequests), fun t db => { db with pendingRequests := t }, fun _ _ => rfl, fun _ => rfl⟩

def authCodesTable : Slot OidcDB AuthCodeRow :=
  ⟨(·.authCodes), fun t db => { db with authCodes := t }, fun _ _ => rfl, fun _ => rfl⟩

def refreshTokensTable : Slot OidcDB RefreshTokenRow :=
  ⟨(·.refreshTokens), fun t db => { db with refreshTokens := t }, fun _ _ => rfl, fun _ => rfl⟩

def setUserStatus (id : Int) (status : String) : OidcM Unit :=
  write fun db => { db with users := db.users.update (fun u => u.id = id) fun u => { u with status := status } }

def setUserPasswordHash (id : Int) (hash : String) : OidcM Unit :=
  write fun db => { db with users := db.users.update (fun u => u.id = id) fun u => { u with passwordHash := hash } }

variable (row : PendingRequestRow)

def createPendingChecks (db : OidcDB) : Except Err Unit :=
  firstViolation [
    varchar 64 row.id, varchar 20 row.request.responseType, varchar 255 row.request.clientID,
    varchar 255 row.request.nonce, varchar 255 row.request.codeChallenge, varchar 10 row.request.codeChallengeMethod,
    (!db.pendingRequests.exists? fun r => r.id = row.id, uniqueViolation "oidc_pending_requests_pkey")]

def createOIDCPendingRequest : OidcM Unit := do
  let _ ← pendingRequestsTable.insert (createPendingChecks row) row

theorem createOIDCPendingRequest_cases (db : OidcDB) :
    (createOIDCPendingRequest row).run db = (.ok (), { db with pendingRequests := db.pendingRequests.insert row }) ∨
      ∃ e, (createOIDCPendingRequest row).run db = (.error e, db) := by
  rcases pendingRequestsTable.insert_cases (createPendingChecks row) row db with h | ⟨e, h⟩
  · exact .inl (run_bind_of_ok h)
  · exact .inr ⟨e, run_bind_of_error h⟩

def consumeOIDCPendingRequest (id : String) : OidcM (Option PendingRequestRow) := fun db =>
  let live (r : PendingRequestRow) : Bool := r.id = id && db.now < r.expiresAt
  (.ok (db.pendingRequests.find? live), { db with pendingRequests := db.pendingRequests.delete live })

variable (row : AuthCodeRow)

def createAuthCodeChecks (db : OidcDB) : Except Err Unit :=
  firstViolation [
    varchar 64 row.code, varchar 255 row.clientID, varchar 255 row.nonce, varchar 255 row.codeChallenge,
    varchar 10 row.codeChallengeMethod,
    (!db.authCodes.exists? fun r => r.code = row.code, uniqueViolation "oidc_auth_codes_pkey"),
    (references db.users (some row.userID), foreignKeyViolation "oidc_auth_codes" "user_id" row.userID "users")]

def createOIDCAuthCode : OidcM Unit := do
  let _ ← authCodesTable.insert (createAuthCodeChecks row) row

theorem createOIDCAuthCode_cases (db : OidcDB) :
    (createOIDCAuthCode row).run db = (.ok (), { db with authCodes := db.authCodes.insert row }) ∨
      ∃ e, (createOIDCAuthCode row).run db = (.error e, db) := by
  rcases authCodesTable.insert_cases (createAuthCodeChecks row) row db with h | ⟨e, h⟩
  · exact .inl (run_bind_of_ok h)
  · exact .inr ⟨e, run_bind_of_error h⟩

def AuthCodeRow.live (code : String) (now : Int) : Bool :=
  row.code = code && !row.consumed && now < row.expiresAt

def consumeOIDCAuthCode (code : String) : OidcM (Option AuthCodeRow) := fun db =>
  (.ok (db.authCodes.find? (·.live code db.now)), { db with authCodes := db.authCodes.delete (·.live code db.now) })

variable (row : RefreshTokenRow)

def createRefreshTokenChecks (db : OidcDB) : Except Err Unit :=
  firstViolation [
    varchar 255 row.tokenHash, varchar 255 row.clientID,
    (!db.refreshTokens.exists? fun r => r.tokenHash = row.tokenHash, uniqueViolation "refresh_tokens_token_hash_key"),
    (references db.users (some row.userID), foreignKeyViolation "refresh_tokens" "user_id" row.userID "users")]

def createRefreshToken : OidcM RefreshTokenRow :=
  refreshTokensTable.insert (createRefreshTokenChecks row) row

def RefreshTokenRow.live (tokenHash : String) (now : Int) : Bool :=
  row.tokenHash = tokenHash && !row.revoked && now < row.expiresAt

def RefreshTokenRow.revoke : RefreshTokenRow := { row with revoked := true }

theorem mem_update_revoke {t : Table RefreshTokenRow} {p : RefreshTokenRow → Bool} {r : RefreshTokenRow} :
    r ∈ t.update p (·.revoke) ↔ ∃ r₀ ∈ t, r = if p r₀ then r₀.revoke else r₀ :=
  Table.mem_update

def consumeRefreshToken (tokenHash : String) : OidcM (Option RefreshTokenRow) := fun db =>
  (.ok ((db.refreshTokens.find? (·.live tokenHash db.now)).map (·.revoke)),
    { db with refreshTokens := db.refreshTokens.update (·.live tokenHash db.now) (·.revoke) })

def revokeRefreshTokensByUserID (userID : Int) : OidcM Unit :=
  write fun db => { db with refreshTokens := db.refreshTokens.update (fun r => r.userID = userID) (·.revoke) }

end Vraxel.Db
