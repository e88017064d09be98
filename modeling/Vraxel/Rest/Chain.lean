import Vraxel.Go.Strings
/-
  The global middleware chain in front of the API server: authentication by
  session cookie and the double-submit CSRF check (`lib/rest/filters`,
  `app/vraxel-server/handler/handler.go`). The request log is left out.
-/

namespace Vraxel.Rest

open Strings

/-- The parts of an HTTP request the chain reads. Header names are in the
canonical form `net/http` keeps them in. -/
structure HttpRequest where
  method : String
  path : String
  cookies : List (String × String)
  headers : List (String × String)

variable (r : HttpRequest)

/-- `r.Cookie(name)`, taken with its emptiness test: the value of the first
cookie of that name, unless it is empty. -/
def HttpRequest.cookie (name : String) : Option String :=
  (r.cookies.lookup name).filter (· ≠ "")

def HttpRequest.header (name : String) : String := (r.headers.lookup name).getD ""

def cookieAccessToken : String := "vraxel_at"
def cookieCSRFToken : String := "vraxel_csrf"

def headerCSRFToken : String := "X-Csrf-Token"

/-! The CSRF filter. -/

def preSessionPaths : List String := ["/oidc/login", "/oidc/register", "/oidc/token"]

def safeMethods : List String := ["GET", "HEAD", "OPTIONS"]

/-- `csrfExpectedToken`: the token the header must repeat, or `none` where the
check does not apply. -/
def csrfExpectedToken : Option String :=
  if r.method ∈ safeMethods then none
  else if r.path ∈ preSessionPaths then none
  else match r.cookie cookieAccessToken with
    | none => none
    | some _ => r.cookie cookieCSRFToken

def serveCSRF : Bool :=
  match csrfExpectedToken r with
  | none => true
  | some expected => r.header headerCSRFToken ≠ "" && r.header headerCSRFToken == expected

structure Provider where
  verifyBearerToken : String → Except String Int
  checkUserActive : Int → Except String String

structure Identity where
  userID : Int
  username : String
  deriving DecidableEq

inductive Outcome where
  | handler (identity : Option Identity)
  | unauthorized (message : String)
  | forbidden (message : String)
  deriving DecidableEq

/-- `WithAuthentication`: the user of the session cookie, or the text of the 401. -/
def withAuthentication (p : Provider) (r : HttpRequest) : Except String Identity :=
  match r.cookie cookieAccessToken with
  | none => .error "authentication required"
  | some token => match p.verifyBearerToken token with
    | .error _ => .error "invalid or expired token"
    | .ok userID => match p.checkUserActive userID with
      | .error _ => .error "account is not active"
      | .ok username => .ok ⟨userID, username⟩

def csrfThenRoutes (identity : Option Identity) (r : HttpRequest) : Outcome :=
  if serveCSRF r then .handler identity else .forbidden "CSRF token missing or invalid"

/-- `buildChain`: authentication is there if a provider is configured. -/
def buildChain (provider : Option Provider) (r : HttpRequest) : Outcome :=
  match provider with
  | none => csrfThenRoutes none r
  | some p => match withAuthentication p r with
    | .error message => .unauthorized message
    | .ok identity => csrfThenRoutes (some identity) r

/-! The root router. -/

/-! What reaching a handler means. -/

variable {r : HttpRequest}

theorem cookie_ne_empty {name value : String} (h : r.cookie name = some value) : value ≠ "" := by
  simpa using (Option.filter_eq_some_iff.1 h).2

/-- The filter passes a request on if it is safe, opens a session, lacks one of
the cookies, or repeats the CSRF cookie in the header. -/
theorem serveCSRF_iff :
    serveCSRF r ↔ r.method ∈ safeMethods ∨ r.path ∈ preSessionPaths ∨ r.cookie cookieAccessToken = none ∨
      r.cookie cookieCSRFToken = none ∨ r.cookie cookieCSRFToken = some (r.header headerCSRFToken) := by
  unfold serveCSRF csrfExpectedToken
  by_cases hm : r.method ∈ safeMethods
  · simp [hm]
  by_cases hp : r.path ∈ preSessionPaths
  · simp [hm, hp]
  cases hat : r.cookie cookieAccessToken with
  | none => simp [hm, hp]
  | some token =>
    cases hc : r.cookie cookieCSRFToken with
    | none => simp [hm, hp]
    | some value =>
      have hne := cookie_ne_empty hc
      simp only [hm, hp, if_false, false_or, Bool.and_eq_true, decide_eq_true_eq, beq_iff_eq, reduceCtorEq,
        Option.some.injEq]
      constructor
      · rintro ⟨-, h⟩
        exact h.symm
      · rintro rfl
        exact ⟨hne, rfl⟩

theorem withAuthentication_eq_ok_iff {p : Provider} {identity : Identity} :
    withAuthentication p r = .ok identity ↔
      ∃ token, r.cookie cookieAccessToken = some token ∧ p.verifyBearerToken token = .ok identity.userID ∧
        p.checkUserActive identity.userID = .ok identity.username := by
  constructor
  · intro h
    unfold withAuthentication at h
    split at h
    · cases h
    · rename_i token htoken
      split at h
      · cases h
      · rename_i userID hu
        split at h
        · cases h
        · rename_i username hname
          obtain rfl := Except.ok.inj h
          exact ⟨token, htoken, hu, hname⟩
  · rintro ⟨token, htoken, hu, hname⟩
    simp [withAuthentication, htoken, hu, hname]

theorem buildChain_handler_iff {provider : Option Provider} {identity : Option Identity} :
    buildChain provider r = .handler identity ↔
      (∀ p, provider = some p → ∃ i, identity = some i ∧ withAuthentication p r = .ok i) ∧
        (provider = none → identity = none) ∧ serveCSRF r := by
  unfold buildChain csrfThenRoutes
  cases provider with
  | none => by_cases hc : serveCSRF r <;> simp [hc, eq_comm]
  | some p =>
    cases ha : withAuthentication p r with
    | error e => simp [ha]
    | ok i => by_cases hc : serveCSRF r <;> simp [hc, ha, eq_comm]

/-- **CSRF protection of the API.** A request under `/api/` that changes state and reaches a handler
comes with the session cookie of an active user, if a provider is configured, and if it brings both
cookies, the header repeats the CSRF cookie. -/
theorem csrf_enforced {provider : Option Provider} {r : HttpRequest} {identity : Option Identity}
    (hpath : hasPrefix r.path "/api/") (hmethod : r.method ∉ safeMethods)
    (h : buildChain provider r = .handler identity) :
    (∀ p, provider = some p → ∃ token userID username, r.cookie cookieAccessToken = some token ∧
      p.verifyBearerToken token = .ok userID ∧ p.checkUserActive userID = .ok username ∧
      identity = some ⟨userID, username⟩) ∧
    (r.cookie cookieAccessToken = none ∨ r.cookie cookieCSRFToken = none ∨
      r.cookie cookieCSRFToken = some (r.header headerCSRFToken)) := by
  obtain ⟨hauth, -, hcsrf⟩ := buildChain_handler_iff.1 h
  constructor
  · intro p hp
    obtain ⟨i, hi, hok⟩ := hauth p hp
    obtain ⟨token, htoken, hu, hname⟩ := withAuthentication_eq_ok_iff.1 hok
    exact ⟨token, i.userID, i.username, htoken, hu, hname, hi⟩
  · -- no path under `/api/` opens a session
    have hpre : r.path ∉ preSessionPaths := by
      intro hmem
      simp only [preSessionPaths, List.mem_cons, List.not_mem_nil, or_false] at hmem
      rcases hmem with hmem | hmem | hmem <;> rw [hmem] at hpath <;> revert hpath <;> decide
    simpa [hmethod, hpre] using serveCSRF_iff.1 hcsrf

def oneSession : Provider where
  verifyBearerToken token := if token = "t" then .ok 7 else .error "invalid token"
  checkUserActive userID := if userID = 7 then .ok "ana" else .error "user not found"

def browserPost : HttpRequest :=
  ⟨"POST", "/api/iam/v1/users", [("vraxel_at", "t"), ("vraxel_csrf", "c")], [("X-Csrf-Token", "c")]⟩

def sessionCookiePost : HttpRequest := ⟨"POST", "/api/iam/v1/users", [("vraxel_at", "t")], []⟩

theorem csrf_enforced_in_browser :
    buildChain (some oneSession) browserPost = .handler (some ⟨7, "ana"⟩) ∧
      browserPost.cookie cookieCSRFToken = some (browserPost.header headerCSRFToken) := by
  have hreach : buildChain (some oneSession) browserPost = .handler (some ⟨7, "ana"⟩) := by decide
  refine ⟨hreach, ?_⟩
  rcases (csrf_enforced (by decide) (by decide) hreach).2 with h | h | h
  · exact absurd h (by decide)
  · exact absurd h (by decide)
  · exact h

/-- Without the CSRF cookie and without the header, the session cookie alone reaches a handler. -/
theorem session_cookie_alone_reaches_handler :
    buildChain (some oneSession) sessionCookiePost = .handler (some ⟨7, "ana"⟩) ∧
      sessionCookiePost.cookie cookieCSRFToken = none ∧ sessionCookiePost.header headerCSRFToken = "" := by
  decide

end Vraxel.Rest
