import Vraxel.Lib.Interleave
import Vraxel.Go.Base64
import Vraxel.Db.Oidc
import Vraxel.Oidc.Token
/-
  The OIDC provider (`lib/oidc/provider.go`) with its PostgreSQL stores
  (`pg_pending_store.go`, `pg_code_store.go`, `iam/store/pg_refresh_token.go`), the
  handlers in front of them (`iam/oidc_handler_auth.go`), and `setUserPasswordAndRevoke`
  (`iam/storage_user.go`).

  Every call is a program that others can interrupt between two statements. What the clock and the
  random source give to a call is part of the call.
-/

namespace Vraxel.Oidc

open Relational Api Db Txn Strconv Strings Interleave

structure CodeExchangeRequest where
  code : String
  redirectURI : String
  clientID : String
  codeVerifier : String

structure RefreshRequest where
  refreshToken : String
  clientID : String

structure TokenPair where
  accessToken : String
  idToken : String
  refreshToken : String
  tokenType : String
  expiresIn : Int
  scope : String

structure ProviderConfig where
  accessTokenTTL : Int
  refreshTokenTTL : Int
  authCodeTTL : Int

/-- The registered clients by id. -/
abbrev Clients := List (String × Client)

def getClient (clients : Clients) (clientID : String) : Option Client := clients.lookup clientID

def validateRedirectURI (client : Client) (uri : String) : Bool := client.redirectURIs.any fun allowed => allowed = uri

def authorizeValidateRequest (clients : Clients) (q : AuthorizeParams) : Except String AuthorizeParams :=
  if q.responseType ≠ "code" then .error "/error?status=400"
  else match getClient clients q.clientID with
  | none => .error "/error?status=400"
  | some client =>
    let redirectURI? := if q.redirectURI = "" then client.redirectURIs.head? else some q.redirectURI
    match redirectURI? with
    | none => .error "/error?status=400"
    | some redirectURI =>
      if !validateRedirectURI client redirectURI then .error "/error?status=403"
      else if client.isPublic && q.codeChallenge = "" then .error "/error?status=400"
      else if q.codeChallenge ≠ "" && q.codeChallengeMethod ≠ "S256" then .error "/error?status=400"
      else .ok { q with redirectURI := redirectURI }

section Hash

variable (sha256 : String → List UInt8)

def hashToken (rawToken : String) : String := Base64.hexEncode (sha256 rawToken)

def verifyPKCE (challenge method verifier : String) : Bool :=
  method = "S256" && Base64.rawURLEncode (sha256 verifier) = challenge

def checkCode (code : AuthCodeRow) (req : CodeExchangeRequest) : Except Err Unit :=
  if code.clientID ≠ req.clientID then .error (.plain "client_id mismatch")
  else if req.redirectURI ≠ "" && code.redirectURI ≠ req.redirectURI then .error (.plain "redirect_uri mismatch")
  else if code.codeChallenge ≠ "" then
    if req.codeVerifier = "" then .error (.plain "code_verifier required")
    else if !verifyPKCE sha256 code.codeChallenge code.codeChallengeMethod req.codeVerifier then
      .error (.plain "PKCE verification failed")
    else .ok ()
  else .ok ()

end Hash

/-! What a call has consumed. -/

inductive Via where
  | code (row : AuthCodeRow) (req : CodeExchangeRequest)
  | refresh (row : RefreshTokenRow) (req : RefreshRequest)

inductive Source where
  | code (serial : Int)
  | refresh (id : Int)

namespace Via

def source : Via → Source
  | code row _ => .code row.serial
  | refresh row _ => .refresh row.id

def userID : Via → Int
  | code row _ => row.userID
  | refresh row _ => row.userID

def clientID : Via → String
  | code row _ => row.clientID
  | refresh row _ => row.clientID

def scopes : Via → List String
  | code row _ => split row.scopes ' '
  | refresh row _ => split row.scope ' '

def nonce : Via → String
  | code row _ => row.nonce
  | refresh _ _ => ""

def authTime (now : Int) : Via → Int
  | code row _ => row.authTime
  | refresh _ _ => now

def login : Via → Nat
  | code row _ => row.login
  | refresh row _ => row.login

end Via

/-- A token pair, what it was issued for, and the user's row that was read for it. -/
structure Issue where
  via : Via
  user : UserRow
  pair : TokenPair

structure OidcState where
  db : OidcDB
  deactivated : Int → Nat
  begun : Int → Nat
  ended : Int → Nat

def OidcState.init (users : Table UserRow) (now : Int) : OidcState :=
  ⟨⟨users, .empty, .empty, .empty, now⟩, fun _ => 0, fun _ => 0, fun _ => 0⟩

def OidcState.activeSince (s : OidcState) (userID : Int) : Option Nat :=
  match s.db.users.get? userID with
  | some user => if user.status = "active" then some (s.deactivated userID) else none
  | none => none

inductive OidcStmt where
  | createPending (row : PendingRequestRow)
  | startLogin (userID : Int)
  | consumePending (id : String)
  | createCode (row : AuthCodeRow)
  | consumeCode (code : String)
  | consumeRefresh (tokenHash : String)
  | checkUser (via : Via)
  | issueUser (via : Via) (since : Option Nat)
  | createRefresh (row : RefreshTokenRow) (via : Via)
  | setStatus (userID : Int) (status : String)
  | startPassword (userID : Int)
  | setPasswordHash (userID : Int) (hash : String)
  | revokeByUser (userID : Int) (call : Nat)
  | tick (d : Nat)

/-- A consumed code, and a checked user, come with `activeSince`. -/
def OidcStmt.Ans : OidcStmt → Type
  | .startLogin _ => Nat
  | .consumePending _ => Option PendingRequestRow
  | .consumeCode _ => Option (AuthCodeRow × Option Nat)
  | .consumeRefresh _ => Option RefreshTokenRow
  | .checkUser _ => Option (UserRow × Option Nat)
  | .issueUser _ _ => Option UserRow
  | .createRefresh _ _ => RefreshTokenRow
  | .startPassword _ => Nat
  | _ => Unit

abbrev oidcSig : Sig := ⟨OidcStmt, OidcStmt.Ans⟩

def onTables {α : Type} (x : OidcM α) : M OidcState Err α := fun s => ((x.run s.db).1, { s with db := (x.run s.db).2 })

def countStatus (userID : Int) (status : String) (deactivated : Int → Nat) : Int → Nat :=
  if status = "active" then deactivated else Function.update deactivated userID (deactivated userID + 1)

def changeStatus (userID : Int) (status : String) : M OidcState Err Unit := do
  onTables (setUserStatus userID status)
  write fun s => { s with deactivated := countStatus userID status s.deactivated }

def OidcStmt.sem : (q : OidcStmt) → M OidcState Err q.Ans
  | .createPending row => onTables (createOIDCPendingRequest row)
  | .startLogin userID => read fun s => s.begun userID
  | .consumePending id => onTables (consumeOIDCPendingRequest id)
  | .createCode row => onTables (createOIDCAuthCode row)
  | .consumeCode code => do
    let row ← onTables (consumeOIDCAuthCode code)
    read fun s => row.map fun r => (r, s.activeSince r.userID)
  | .consumeRefresh tokenHash => onTables (consumeRefreshToken tokenHash)
  | .checkUser via => read fun s => (s.db.users.get? via.userID).map fun u => (u, s.activeSince via.userID)
  | .issueUser via _ => read fun s => s.db.users.get? via.userID
  | .createRefresh row _ => onTables (createRefreshToken row)
  | .setStatus userID status => changeStatus userID status
  | .startPassword userID => fun s =>
    (.ok (s.begun userID + 1), { s with begun := Function.update s.begun userID (s.begun userID + 1) })
  | .setPasswordHash userID hash => onTables (setUserPasswordHash userID hash)
  | .revokeByUser userID call => do
    onTables (revokeRefreshTokensByUserID userID)
    write fun s => { s with ended := Function.update s.ended userID (max (s.ended userID) call) }
  | .tick d => write fun s => { s with db := { s.db with now := s.db.now + d } }

/-- What the random source and the clock give to an authorization. -/
structure CodeDraws where
  code : Option String
  now : Int

structure TokenDraws where
  coins : Nat
  coins' : Nat
  accessNow : Int
  idNow : Int
  authNow : Int
  refreshNow : Int
  refreshToken : Option String

namespace Provider

open Prog

abbrev ProviderM : Type → Type := Prog oidcSig Err

section Programs

variable (lib : Jwt) (ts : TokenService) (cfg : ProviderConfig) (sha256 : String → List UInt8)

/-! The last statement of a call, and the answer. -/

variable (via : Via) (draws : TokenDraws) (accessToken : String) (since : Option Nat)

def refreshRow (raw : String) : RefreshTokenRow where
  id := 0
  tokenHash := hashToken sha256 raw
  userID := via.userID
  clientID := via.clientID
  scope := join via.scopes " "
  expiresAt := draws.refreshNow + cfg.refreshTokenTTL
  revoked := false
  login := via.login

def tokenPair (idToken raw : String) : TokenPair where
  accessToken := accessToken
  idToken := idToken
  refreshToken := raw
  tokenType := "Bearer"
  expiresIn := cfg.accessTokenTTL / second
  scope := join via.scopes " "

def store (user : UserRow) (accessToken idToken raw : String) :
    ProviderM (Option Issue) := do
  let _ ← mapErr (fun e => (mapDomain ((checkPG e).wrap "create refresh token") "").wrap "store refresh token")
    (ask (G := oidcSig) (.createRefresh (refreshRow cfg sha256 via draws raw) via))
  return some ⟨via, user, tokenPair cfg via accessToken idToken raw⟩

def issueFor (user : UserRow) : ProviderM (Option Issue) :=
  let info : UserInfo := ⟨user.displayName, user.email, user.phone⟩
  let idToken :=
    if "openid" ∈ via.scopes then
      issueIDToken lib ts draws.coins' draws.idNow via.userID via.clientID via.nonce (via.authTime draws.authNow)
        accessToken (some info) via.scopes
    else some ""
  match idToken, draws.refreshToken with
  | none, _ => fail (.plain "issue id token")
  | _, none => fail (.plain "generate refresh token")
  | some idToken, some raw => store cfg sha256 via draws user accessToken idToken raw

def readUser (accessToken : String) :
    ProviderM (Option Issue) := do
  let user : Option UserRow ← ask (G := oidcSig) (.issueUser via since)
  match user with
  | none => fail (.plain "get user for id token")
  | some user => issueFor lib ts cfg sha256 via draws accessToken user

def issueTokens : ProviderM (Option Issue) :=
  match issueAccessToken lib ts draws.coins draws.accessNow via.userID via.clientID via.scopes with
  | none => fail (.plain "issue access token")
  | some accessToken => readUser lib ts cfg sha256 via draws since accessToken

def exchange (row : AuthCodeRow) (req : CodeExchangeRequest) (draws : TokenDraws) (since : Option Nat) :
    ProviderM (Option Issue) :=
  match checkCode sha256 row req with
  | .error e => fail e
  | .ok _ => issueTokens lib ts cfg sha256 (.code row req) draws since

def exchangeCode (req : CodeExchangeRequest) (draws : TokenDraws) : ProviderM (Option Issue) := do
  let code : Option (AuthCodeRow × Option Nat) ← ask (G := oidcSig) (.consumeCode req.code)
  match code with
  | none => fail (.plain "invalid authorization code: authorization code not found")
  | some (row, since) => exchange lib ts cfg sha256 row req draws since

def checked (user : UserRow) (since : Option Nat) : ProviderM (Option Issue) :=
  if user.status ≠ "active" then fail (.plain "account is not active")
  else issueTokens lib ts cfg sha256 via draws since

def checkActive : ProviderM (Option Issue) := do
  let user : Option (UserRow × Option Nat) ← ask (G := oidcSig) (.checkUser via)
  match user with
  | none => fail (.plain "account is not active")
  | some (user, since) => checked lib ts cfg sha256 via draws user since

def refresh (row : RefreshTokenRow) (req : RefreshRequest) (draws : TokenDraws) : ProviderM (Option Issue) :=
  if row.clientID ≠ req.clientID then fail (.plain "client_id mismatch")
  else checkActive lib ts cfg sha256 (.refresh row req) draws

def refreshTokens (req : RefreshRequest) (draws : TokenDraws) : ProviderM (Option Issue) := do
  let token : Option RefreshTokenRow ← ask (G := oidcSig) (.consumeRefresh (hashToken sha256 req.refreshToken))
  match token with
  | none => fail (.plain "invalid refresh token: invalid refresh token")
  | some row => refresh lib ts cfg sha256 row req draws

def storePending (row : PendingRequestRow) : ProviderM (Option Issue) := do
  ask (G := oidcSig) (.createPending row)
  return none

/-- `handleAuthorize`: an accepted request waits, for half an hour, for the login. -/
def handleAuthorize (clients : Clients) (params : AuthorizeParams) (draws : CodeDraws) : ProviderM (Option Issue) :=
  match authorizeValidateRequest clients params, getClient clients params.clientID, draws.code with
  | .ok request, some client, some id =>
    storePending ⟨0, id, request, draws.now + 30 * 60 * second, params, client⟩
  | _, _, _ => return none

def storeCode (row : AuthCodeRow) : ProviderM (Option Issue) := do
  let _ ← attempt (ask (G := oidcSig) (.createCode row))
  return none

def codeRow (pending : PendingRequestRow) (userID authTime : Int) (login : Nat) (code : String) (now : Int) :
    AuthCodeRow where
  serial := 0
  code := code
  clientID := pending.request.clientID
  userID := userID
  redirectURI := pending.request.redirectURI
  scopes := join (split pending.request.scope ' ') " "
  nonce := pending.request.nonce
  codeChallenge := pending.request.codeChallenge
  codeChallengeMethod := pending.request.codeChallengeMethod
  authTime := authTime
  expiresAt := now + cfg.authCodeTTL
  consumed := false
  params := pending.params
  client := pending.client
  login := login

def authorize (pending : PendingRequestRow) (userID authTime : Int) (login : Nat) (draws : CodeDraws) :
    ProviderM (Option Issue) :=
  match draws.code with
  | none => fail (.plain "generate code")
  | some code => storeCode (codeRow cfg pending userID authTime login code draws.now)

def consumePending (requestID : String) (userID authTime : Int) (login : Nat) (draws : CodeDraws) :
    ProviderM (Option Issue) := do
  let pending : Option PendingRequestRow ← ask (G := oidcSig) (.consumePending requestID)
  match pending with
  | none => fail (badRequest "invalid or expired request_id")
  | some pending => authorize cfg pending userID authTime login draws

/-- After a login, by password or by another provider: `loginCompleteAuthorize`. -/
def completeAuthorize (requestID : String) (userID authTime : Int) (draws : CodeDraws) :
    ProviderM (Option Issue) := do
  let login : Nat ← ask (G := oidcSig) (.startLogin userID)
  consumePending cfg requestID userID authTime login draws

end Programs

variable (userID : Int)

def revoke (call : Nat) : ProviderM (Option Issue) := do
  ask (G := oidcSig) (.revokeByUser userID call)
  return none

def setPassword (hash : String) (call : Nat) : ProviderM (Option Issue) := do
  ask (G := oidcSig) (.setPasswordHash userID hash)
  revoke userID call

def setUserPasswordAndRevoke (hash : String) : ProviderM (Option Issue) := do
  let call : Nat ← ask (G := oidcSig) (.startPassword userID)
  setPassword userID hash call

def revokeUserRefreshTokens : ProviderM (Option Issue) := revoke userID 0

def setStatus (status : String) : ProviderM (Option Issue) := do
  ask (G := oidcSig) (.setStatus userID status)
  return none

def tick (d : Nat) : ProviderM (Option Issue) := do
  ask (G := oidcSig) (.tick d)
  return none

end Provider

inductive OidcCall where
  | handleAuthorize (clients : Clients) (params : AuthorizeParams) (draws : CodeDraws)
  | completeAuthorize (requestID : String) (userID authTime : Int) (draws : CodeDraws)
  | exchangeCode (req : CodeExchangeRequest) (draws : TokenDraws)
  | refreshTokens (req : RefreshRequest) (draws : TokenDraws)
  | setStatus (userID : Int) (status : String)
  | setUserPasswordAndRevoke (userID : Int) (hash : String)
  | revokeUserRefreshTokens (userID : Int)
  | tick (d : Nat)

section System

variable (lib : Jwt) (ts : TokenService) (cfg : ProviderConfig) (sha256 : String → List UInt8)

def Provider.prog : OidcCall → ProviderM (Option Issue)
  | .handleAuthorize clients params draws => handleAuthorize clients params draws
  | .completeAuthorize requestID userID authTime draws => completeAuthorize cfg requestID userID authTime draws
  | .exchangeCode req draws => exchangeCode lib ts cfg sha256 req draws
  | .refreshTokens req draws => refreshTokens lib ts cfg sha256 req draws
  | .setStatus userID status => setStatus userID status
  | .setUserPasswordAndRevoke userID hash => setUserPasswordAndRevoke userID hash
  | .revokeUserRefreshTokens userID => revokeUserRefreshTokens userID
  | .tick d => tick d

def oidcSystem : System OidcState oidcSig Err (Option Issue) OidcCall :=
  ⟨OidcStmt.sem, fun _ _ => true, Provider.prog lib ts cfg sha256⟩

end System

def issues (st : Pool OidcState oidcSig Err (Option Issue)) : List Issue :=
  st.threads.filterMap fun
    | .done (.ok r) => r
    | _ => none

end Vraxel.Oidc
