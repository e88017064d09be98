import Vraxel.Oidc.Flow
/-
  Who the provider issues tokens for.
-/

namespace Vraxel.Oidc

open Relational Api Db Interleave

section Results

variable (lib : Jwt) (ts : TokenService) (cfg : ProviderConfig) (sha256 : String → List UInt8)

theorem mem_issues {st : Pool OidcState oidcSig Err (Option Issue)} {i : Issue} :
    i ∈ issues st ↔ .done (.ok (some i)) ∈ st.threads := by
  rw [issues, List.mem_filterMap]
  constructor
  · intro ⟨p, hp, hi⟩
    split at hi
    · rw [← hi]
      exact hp
    · cases hi
  · exact fun h => ⟨_, h, rfl⟩

theorem verifier_of_checkCode {row : AuthCodeRow} {req : CodeExchangeRequest} (h : checkCode sha256 row req = .ok ())
    (hchallenge : row.codeChallenge ≠ "") :
    req.clientID = row.clientID ∧ Base64.rawURLEncode (sha256 req.codeVerifier) = row.codeChallenge := by
  rw [checkCode] at h
  split at h
  · cases h
  next hclient =>
    split at h
    · cases h
    split at h
    · cases h
    split at h
    · cases h
    next hpkce =>
      simp only [verifyPKCE, Bool.not_eq_true', Bool.not_eq_false, Bool.and_eq_true, decide_eq_true_eq] at hpkce
      exact ⟨(not_not.1 hclient).symm, hpkce.2⟩

/-- Two calls are not answered with token pairs for the same code or the same refresh token; and a code
of a public client is exchanged for the client id of the authorization and the preimage of its
challenge. -/
theorem issued_once (users : Table UserRow) (now : Int) (es : List (Event OidcCall)) :
    ∀ st ∈ Transition.states (oidcSystem lib ts cfg sha256).step (.init (.init users now)) es,
      (∀ (n m : Nat) (i j : Issue), st.threads[n]? = some (.done (.ok (some i))) →
        st.threads[m]? = some (.done (.ok (some j))) → i.via.source = j.via.source → n = m) ∧
      ∀ i ∈ issues st, ∀ row req, i.via = .code row req → row.client.isPublic →
        req.clientID = row.params.clientID ∧
          Base64.rawURLEncode (sha256 req.codeVerifier) = row.params.codeChallenge ∧
          (Function.Injective sha256 → ∀ verifier,
            Base64.rawURLEncode (sha256 verifier) = row.params.codeChallenge → verifier = req.codeVerifier) := by
  intro st hst
  have halong : Transition.Along (oidcSystem lib ts cfg sha256).step
      ((oidcSystem lib ts cfg sha256).Meets fun q s => False → Undisturbed q s) (.init (.init users now)) es :=
    Transition.along_of_forall fun _ _ _ _ hfalse => hfalse.elim
  obtain ⟨hissued, hunique⟩ := issued_of_along lib ts cfg sha256 False users now halong st hst
  refine ⟨hunique, fun i hi row req hvia hpublic => ?_⟩
  have hchecked := (hissued i (mem_issues.1 hi)).1
  rw [hvia] at hchecked
  obtain ⟨⟨request, haccepted, hclient, hchallenge⟩, hcheck⟩ := hchecked
  obtain ⟨hclient', hchallenge', hnonempty⟩ := haccepted.challenge
  have hrow : row.codeChallenge = row.params.codeChallenge := hchallenge.trans hchallenge'
  obtain ⟨hid, hverifier⟩ := verifier_of_checkCode sha256 hcheck (hrow ▸ hnonempty hpublic)
  refine ⟨hid.trans (hclient.trans hclient'), hverifier.trans hrow, fun hinj verifier hpre => ?_⟩
  exact hinj (Base64.rawURLEncode_injective (hpre.trans (hverifier.trans hrow).symm))

/-- If each call that issues tokens reads the row of a user who was active when the call consumed the
code (for a refresh, when it checked the user), with no deactivation in between, then every pair is
issued for a user whose row, as the call read it, was active. -/
theorem issued_for_active (users : Table UserRow) (now : Int) (es : List (Event OidcCall))
    (h : Transition.Along (oidcSystem lib ts cfg sha256).step ((oidcSystem lib ts cfg sha256).Meets Undisturbed)
      (.init (.init users now)) es) :
    ∀ st ∈ Transition.states (oidcSystem lib ts cfg sha256).step (.init (.init users now)) es,
      ∀ i ∈ issues st, i.user.status = "active" := by
  intro st hst i hi
  have halong : Transition.Along (oidcSystem lib ts cfg sha256).step
      ((oidcSystem lib ts cfg sha256).Meets fun q s => True → Undisturbed q s) (.init (.init users now)) es :=
    Transition.Along.mono (fun _ _ hmeets q hq _ => hmeets q hq) h
  exact ((issued_of_along lib ts cfg sha256 True users now halong st hst).1 i (mem_issues.1 hi)).2 trivial

end Results

/-! A user who is deactivated on the way. -/

def oneUser : Table UserRow :=
  .ofRows [⟨7, "ana", "ana@example.com", "Ana", "", "", "active", "", false⟩] 8 (by decide)

def asBytes (s : String) : List UInt8 := s.toList.map fun c => UInt8.ofNat c.toNat

def webClients : Clients := [("web", ⟨"web", "", ["/callback"], true⟩)]

def webParams : AuthorizeParams :=
  ⟨"code", "web", "/callback", "openid", "s0", "n0", Base64.rawURLEncode (asBytes "v"), "S256"⟩

def webConfig : ProviderConfig := ⟨3600 * second, 86400 * second, 600 * second⟩

abbrev webSystem : System OidcState oidcSig Err (Option Issue) OidcCall :=
  oidcSystem loginJwt loginService webConfig asBytes

def drawing (raw : String) : TokenDraws := ⟨0, 1, 0, 0, 0, 0, some raw⟩

/-- A request of the web client and a login of user 7: the code is `c`. -/
def codeForWeb : List (Event OidcCall) :=
  [.call (.handleAuthorize webClients webParams ⟨some "r", 0⟩), .step 0,
    .call (.completeAuthorize "r" 7 0 ⟨some "c", 0⟩), .step 1, .step 1, .step 1]

def exchangeForWeb (n : Nat) : List (Event OidcCall) :=
  [.call (.exchangeCode ⟨"c", "/callback", "web", "v"⟩ (drawing "t1")), .step n, .step n, .step n]

def deactivate (n : Nat) : List (Event OidcCall) := [.call (.setStatus 7 "inactive"), .step n]

def beginRefresh (n : Nat) : List (Event OidcCall) :=
  [.call (.refreshTokens ⟨"t1", "web"⟩ (drawing "t2")), .step n, .step n]

def endRefresh (n : Nat) : List (Event OidcCall) := [.step n, .step n]

/-- The code of the web client, exchanged twice: one pair, for the verifier of the request. -/
theorem web_code_issued_once :
    let st := Transition.run webSystem.step (.init (.init oneUser 0))
      (codeForWeb ++ exchangeForWeb 2 ++ exchangeForWeb 3)
    (issues st).length = 1 ∧
      (∀ (n m : Nat) (i j : Issue), st.threads[n]? = some (.done (.ok (some i))) →
        st.threads[m]? = some (.done (.ok (some j))) → i.via.source = j.via.source → n = m) ∧
      ∀ i ∈ issues st, ∀ row req, i.via = .code row req → row.client.isPublic →
        req.clientID = row.params.clientID ∧
          Base64.rawURLEncode (asBytes req.codeVerifier) = row.params.codeChallenge ∧
          (Function.Injective asBytes → ∀ verifier,
            Base64.rawURLEncode (asBytes verifier) = row.params.codeChallenge → verifier = req.codeVerifier) :=
  ⟨by decide,
    issued_once loginJwt loginService webConfig asBytes oneUser 0 _ _ (Transition.run_mem_states _ _ _)⟩

theorem issued_for_active_user :
    let es := codeForWeb ++ exchangeForWeb 2
    Transition.Along webSystem.step (webSystem.Meets Undisturbed) (.init (.init oneUser 0)) es ∧
      (∀ st ∈ Transition.states webSystem.step (.init (.init oneUser 0)) es,
        ∀ i ∈ issues st, i.user.status = "active") ∧
      (issues (Transition.run webSystem.step (.init (.init oneUser 0)) es)).length = 1 := by
  have halong : Transition.Along webSystem.step (webSystem.Meets Undisturbed) (.init (.init oneUser 0))
      (codeForWeb ++ exchangeForWeb 2) := by decide
  exact ⟨halong, issued_for_active loginJwt loginService webConfig asBytes oneUser 0 _ halong, by decide⟩

/-- User 7 is deactivated after the login, and the code is exchanged all the same. And a refresh that
has checked the user goes on when the user is deactivated before the row is read again. -/
theorem issued_for_inactive_user :
    let exchanged := Transition.run webSystem.step (.init (.init oneUser 0))
      (codeForWeb ++ deactivate 2 ++ exchangeForWeb 3)
    let refreshed := Transition.run webSystem.step (.init (.init oneUser 0))
      (codeForWeb ++ exchangeForWeb 2 ++ beginRefresh 3 ++ deactivate 4 ++ endRefresh 3)
    (issues exchanged).map (fun i => (i.user.status, i.pair.refreshToken)) = [("inactive", "t1")] ∧
      (issues refreshed).map (fun i => (i.user.status, i.pair.refreshToken)) =
        [("active", "t1"), ("inactive", "t2")] := by
  decide

end Vraxel.Oidc
