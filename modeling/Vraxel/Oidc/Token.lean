import Vraxel.Go.Strconv
import Vraxel.Go.Strings
/-
  The JWTs of the OIDC provider (`lib/oidc/token.go`, `lib/oidc/provider.go`):
  two kinds are issued under one key, access tokens and ID tokens, and one of
  them is verified.

  The JWT library and SHA-256 are not part of the repository.
-/

namespace Vraxel.Oidc

open Strconv Strings

structure RegisteredClaims where
  issuer : String
  subject : String
  audience : List String
  expiresAt : Option Int := none
  notBefore : Option Int := none
  issuedAt : Option Int := none
  id : String := ""
  deriving DecidableEq

structure StandardClaims extends RegisteredClaims where
  scope : String
  deriving DecidableEq

structure IDTokenClaims extends RegisteredClaims where
  nonce : String
  authTime : Int
  atHash : String
  name : String := ""
  email : String := ""
  phoneNumber : String := ""

structure UserInfo where
  name : String
  email : String
  phoneNumber : String

/-- The JWT library at the service's key pair. `decodeHeader` answers the
algorithm a header names, if it is one the library knows. A signature may be
randomised: `sign` takes the coins it is drawn with. -/
structure Jwt where
  encodeHeader : (alg kid : String) → String
  encodeStandard : StandardClaims → String
  encodeID : IDTokenClaims → String
  decodeHeader : String → Option String
  decodeStandard : String → Option StandardClaims
  sign : (coins : Nat) → String → Option String
  verify : (signingString signature : String) → Bool
  computeAtHash : String → String

structure TokenService where
  keyID : String
  alg : String
  issuer : String
  atTTL : Int

def second : Int := 1000000000

def numericDate (t : Int) : Int := t / second

variable (lib : Jwt) (ts : TokenService)

def TokenService.registered (now userID : Int) (clientID : String) : RegisteredClaims where
  issuer := ts.issuer
  subject := formatInt userID
  audience := [clientID]
  expiresAt := some (numericDate (now + ts.atTTL))
  issuedAt := some (numericDate now)

def signingString (payload : String) : String :=
  lib.encodeHeader ts.alg ts.keyID ++ "." ++ payload

def signedString (coins : Nat) (payload : String) : Option String :=
  (lib.sign coins (signingString lib ts payload)).map fun sig => signingString lib ts payload ++ "." ++ sig

def accessClaims (now userID : Int) (clientID : String) (scopes : List String) : StandardClaims :=
  { ts.registered now userID clientID with scope := join scopes " " }

def issueAccessToken (coins : Nat) (now userID : Int) (clientID : String) (scopes : List String) :
    Option String :=
  signedString lib ts coins (lib.encodeStandard (accessClaims ts now userID clientID scopes))

def idClaims (now userID : Int) (clientID nonce : String) (authTime : Int) (accessToken : String)
    (user : Option UserInfo) (scopes : List String) : IDTokenClaims :=
  let claim (scope : String) (f : UserInfo → String) : String :=
    match user with
    | some u => if scope ∈ scopes then f u else ""
    | none => ""
  { ts.registered now userID clientID with
    nonce := nonce
    authTime := numericDate authTime
    atHash := lib.computeAtHash accessToken
    name := claim "profile" (·.name)
    email := claim "email" (·.email)
    phoneNumber := claim "phone" (·.phoneNumber) }

def issueIDToken (coins : Nat) (now userID : Int) (clientID nonce : String) (authTime : Int)
    (accessToken : String) (user : Option UserInfo) (scopes : List String) : Option String :=
  signedString lib ts coins
    (lib.encodeID (idClaims lib ts now userID clientID nonce authTime accessToken user scopes))

/-- `Provider.issueTokens`, its access token and its ID token, which is issued
for the scope `openid`. The two calls read the clock and draw coins one after
the other. -/
def issueTokens (coins coins' : Nat) (now now' userID : Int) (clientID : String) (scopes : List String)
    (nonce : String) (authTime : Int) (user : UserInfo) : Option (String × Option String) := do
  let accessToken ← issueAccessToken lib ts coins now userID clientID scopes
  if "openid" ∈ scopes then
    let idToken ←
      issueIDToken lib ts coins' now' userID clientID nonce authTime accessToken (some user) scopes
    return (accessToken, some idToken)
  return (accessToken, none)

def splitToken (s : String) : Option (String × String × String) := do
  let (header, rest) ← cutAt '.' s.toList
  let (payload, sig) ← cutAt '.' rest
  if '.' ∈ sig then none
  else some (String.ofList header, String.ofList payload, String.ofList sig)

def signedPart (s : String) : Option String :=
  (splitToken s).map fun (header, payload, _) => header ++ "." ++ payload

/-- The validator's checks with `jwt.WithIssuer`: expiry and not-before where
the claims have them, and the issuer if the option names one. -/
def validate (now : Int) (c : StandardClaims) : Bool :=
  (c.expiresAt.all fun exp => now < exp * second) && (c.notBefore.all fun nbf => nbf * second ≤ now)
    && (ts.issuer = "" || c.issuer = ts.issuer)

/-- `VerifyAccessToken`: neither the audience nor a type of token is looked at. -/
def verifyAccessToken (now : Int) (s : String) : Option StandardClaims := do
  let (header, payload, sig) ← splitToken s
  let alg ← lib.decodeHeader header
  let claims ← lib.decodeStandard payload
  if alg ≠ ts.alg then none
  else if !lib.verify (header ++ "." ++ payload) sig then none
  else if validate ts now claims then some claims
  else none

def verifyBearerToken (now : Int) (s : String) : Option Int := do
  let claims ← verifyAccessToken lib ts now s
  parseInt claims.subject

/-! Histories of calls. -/

/-- A call of the service, with the coins and the time it is made at. User ids
are 64-bit. -/
inductive Call where
  | access (coins : Nat) (now userID : Int) (clientID : String) (scopes : List String)
      (int64 : IsInt64 userID)
  | idToken (coins : Nat) (now userID : Int) (clientID nonce : String) (authTime : Int)
      (accessToken : String) (user : Option UserInfo) (scopes : List String) (int64 : IsInt64 userID)

namespace Call

def userID : Call → Int
  | access _ _ u .. => u
  | idToken _ _ u .. => u

def coins : Call → Nat
  | access r .. => r
  | idToken r .. => r

theorem isInt64_userID : ∀ c : Call, IsInt64 c.userID
  | access _ _ _ _ _ h => h
  | idToken _ _ _ _ _ _ _ _ _ h => h

def payload : Call → String
  | access _ t u client scopes _ => lib.encodeStandard (accessClaims ts t u client scopes)
  | idToken _ t u client nonce authTime token user scopes _ =>
    lib.encodeID (idClaims lib ts t u client nonce authTime token user scopes)

def issue : Call → Option String
  | access r t u client scopes _ => issueAccessToken lib ts r t u client scopes
  | idToken r t u client nonce authTime token user scopes _ =>
    issueIDToken lib ts r t u client nonce authTime token user scopes

def IsAccess : Call → Prop
  | access .. => True
  | idToken .. => False

instance : DecidablePred IsAccess
  | access .. => isTrue trivial
  | idToken .. => isFalse id

/-- The claims the payload of a call decodes to. The fields an ID token has
beyond the registered claims are no fields of `StandardClaims`, and it has no
`scope`. -/
def decoded : Call → StandardClaims
  | access _ t u client scopes _ => accessClaims ts t u client scopes
  | idToken _ t u client .. => { ts.registered t u client with scope := "" }

theorem issue_eq (c : Call) : c.issue lib ts = signedString lib ts c.coins (c.payload lib ts) := by
  cases c <;> rfl

end Call

/-- What the results use of the library's encoding, for the tokens of a history:
segments are free of dots, a header names the service's algorithm, a payload
decodes to the claims it encodes, and what is signed verifies. -/
structure Faithful (hist : List Call) : Prop where
  header_dot : '.' ∉ (lib.encodeHeader ts.alg ts.keyID).toList
  header_alg : lib.decodeHeader (lib.encodeHeader ts.alg ts.keyID) = some ts.alg
  payload_dot : ∀ c ∈ hist, '.' ∉ (c.payload lib ts).toList
  payload_decodes : ∀ c ∈ hist, lib.decodeStandard (c.payload lib ts) = some (c.decoded ts)
  sig_dot : ∀ r m sig, lib.sign r m = some sig → '.' ∉ sig.toList
  sig_verifies : ∀ r m sig, lib.sign r m = some sig → lib.verify m sig

/-- Signatures are unforgeable: what verifies was signed by a call of the history. -/
def Unforgeable (hist : List Call) : Prop :=
  ∀ m sig, lib.verify m sig →
    ∃ c ∈ hist, signingString lib ts (c.payload lib ts) = m ∧ (c.issue lib ts).isSome

def UniqueSignatures : Prop := ∀ m sig sig', lib.verify m sig → lib.verify m sig' → sig = sig'

/-! Tokens and their segments. -/

theorem splitToken_eq_some_iff {s header payload sig : String} :
    splitToken s = some (header, payload, sig) ↔
      s = header ++ "." ++ payload ++ "." ++ sig ∧
        '.' ∉ header.toList ∧ '.' ∉ payload.toList ∧ '.' ∉ sig.toList := by
  constructor
  · intro h
    simp only [splitToken, Option.bind_eq_bind, Option.bind_eq_some_iff, Prod.exists] at h
    obtain ⟨hd, rest, h₁, pl, sg, h₂, h₃⟩ := h
    split at h₃
    · cases h₃
    next hdot =>
      cases h₃
      obtain ⟨hs, hhd⟩ := cutAt_eq_some_iff.1 h₁
      obtain ⟨rfl, hpl⟩ := cutAt_eq_some_iff.1 h₂
      refine ⟨String.toList_inj.1 ?_, by simpa using hhd, by simpa using hpl, by simpa using hdot⟩
      simp [hs]
  · rintro ⟨rfl, hh, hp, hs⟩
    have h₁ : cutAt '.' (header ++ "." ++ payload ++ "." ++ sig).toList =
        some (header.toList, payload.toList ++ '.' :: sig.toList) :=
      cutAt_eq_some_iff.2 ⟨by simp, hh⟩
    have h₂ : cutAt '.' (payload.toList ++ '.' :: sig.toList) = some (payload.toList, sig.toList) :=
      cutAt_eq_some_iff.2 ⟨rfl, hp⟩
    simp only [splitToken, Option.bind_eq_bind, h₁, Option.bind_some, h₂, if_neg hs,
      String.ofList_toList]

theorem verifyAccessToken_eq_some_iff {now : Int} {s : String} {claims : StandardClaims} :
    verifyAccessToken lib ts now s = some claims ↔
      ∃ header payload sig, splitToken s = some (header, payload, sig) ∧
        lib.decodeHeader header = some ts.alg ∧ lib.decodeStandard payload = some claims ∧
        lib.verify (header ++ "." ++ payload) sig ∧ validate ts now claims := by
  simp only [verifyAccessToken, Option.bind_eq_bind, Option.bind_eq_some_iff, Prod.exists]
  constructor
  · rintro ⟨header, payload, sig, hs, alg, halg, c, hc, h⟩
    split at h
    · cases h
    next hsame =>
    split at h
    · cases h
    next hver =>
    split at h
    next hval =>
      cases h
      exact ⟨header, payload, sig, hs, by rw [halg, not_not.1 hsame], hc, by simpa using hver, hval⟩
    · cases h
  · rintro ⟨header, payload, sig, hs, halg, hc, hver, hval⟩
    exact ⟨header, payload, sig, hs, ts.alg, halg, claims, hc, by simp [hver, hval]⟩

section History

variable {lib ts} {hist : List Call}

theorem splitToken_of_issue (henc : Faithful lib ts hist) {c : Call} (hc : c ∈ hist) {tok : String}
    (htok : c.issue lib ts = some tok) :
    ∃ sig, splitToken tok = some (lib.encodeHeader ts.alg ts.keyID, c.payload lib ts, sig) ∧
      lib.verify (signingString lib ts (c.payload lib ts)) sig := by
  rw [c.issue_eq, signedString, Option.map_eq_some_iff] at htok
  obtain ⟨sig, hsig, rfl⟩ := htok
  exact ⟨sig, splitToken_eq_some_iff.2
    ⟨rfl, henc.header_dot, henc.payload_dot c hc, henc.sig_dot _ _ _ hsig⟩,
    henc.sig_verifies _ _ _ hsig⟩

theorem subject_decoded (c : Call) : (c.decoded ts).subject = formatInt c.userID := by
  cases c <;> rfl

end History

def loginService : TokenService where
  keyID := "k1"
  alg := "EdDSA"
  issuer := "vraxel"
  atTTL := 3600 * second

def loginUser : UserInfo := ⟨"Ann", "ann@vraxel", ""⟩

def loginCalls : List Call :=
  [.access 0 0 7 "web" ["openid"] (by decide),
   .idToken 1 0 7 "web" "n0" 0 "h.a.s" (some loginUser) ["openid"] (by decide)]

def loginJwt : Jwt where
  encodeHeader _ _ := "h"
  encodeStandard _ := "a"
  encodeID _ := "i"
  decodeHeader h := if h = "h" then some "EdDSA" else none
  decodeStandard p :=
    if p = "a" then some (accessClaims loginService 0 7 "web" ["openid"])
    else if p = "i" then some { loginService.registered 0 7 "web" with scope := "" }
    else none
  sign _ m := if m ∈ ["h.a", "h.i"] then some "s" else none
  verify m sig := m ∈ ["h.a", "h.i"] && sig = "s"
  computeAtHash token := token

theorem loginJwt_sign {r : Nat} {m sig : String} (h : loginJwt.sign r m = some sig) :
    m ∈ ["h.a", "h.i"] ∧ sig = "s" := by
  simp only [loginJwt] at h
  split at h
  next hm =>
    cases h
    exact ⟨hm, rfl⟩
  · cases h

theorem loginJwt_verify {m sig : String} : loginJwt.verify m sig ↔ m ∈ ["h.a", "h.i"] ∧ sig = "s" := by
  simp [loginJwt]

theorem faithful_login : Faithful loginJwt loginService loginCalls where
  header_dot := by decide
  header_alg := by decide
  payload_dot := by decide
  payload_decodes := by decide
  sig_dot _ _ _ h := by
    rw [(loginJwt_sign h).2]
    decide
  sig_verifies _ _ _ h := loginJwt_verify.2 (loginJwt_sign h)

theorem unforgeable_login : Unforgeable loginJwt loginService loginCalls := by
  intro m sig h
  obtain ⟨hm, -⟩ := loginJwt_verify.1 h
  simp only [List.mem_cons, List.not_mem_nil, or_false] at hm
  rcases hm with rfl | rfl
  · exact ⟨_, List.mem_cons_self, by decide, by decide⟩
  · exact ⟨_, List.mem_cons_of_mem _ List.mem_cons_self, by decide, by decide⟩

theorem uniqueSignatures_login : UniqueSignatures loginJwt := fun _ _ _ h h' =>
  (loginJwt_verify.1 h).2.trans (loginJwt_verify.1 h').2.symm

end Vraxel.Oidc
