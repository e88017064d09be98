import Vraxel.Lib.Run
/-
  Starting a login from the frontend (`ui/src/core/auth/auth.ts`, `ui/src/core/api/client.ts`).
  `startAuthFlow` waits for the hash before it navigates, so other code of the tab runs in between.
-/

namespace Vraxel.Ui.AuthFlow

structure SessionStorage where
  pkceCodeVerifier : Option String
  oidcFlowPending : Bool
  returnTo : Option String

structure Location where
  pathname : String
  search : String
  hash : String

structure Flow where
  codeVerifier : String
  byLogout : Bool

/-- An assignment to `window.location.href`, and the session storage it was made with. -/
structure Navigation where
  codeChallenge : String
  byLogout : Bool
  storage : SessionStorage

/-- A response of 401, which waits for a refresh of the session. -/
structure Request where
  refresh : Nat
  resumed : Bool

/-- The tab; `refreshes` has the outcome of each refresh that is over, `navigated` the logins that are. -/
structure Tab where
  storage : SessionStorage
  authFlowStarted : Bool
  refreshPromise : Option Nat
  refreshes : List (Option Bool)
  requests : List Request
  logouts : List Bool
  flows : List Flow
  navigated : List Nat
  navigations : List Navigation

def Tab.opened (storage : SessionStorage) : Tab := ⟨storage, false, none, [], [], [], [], [], []⟩

variable (s : Tab)

def clearLocalAuthState : Tab :=
  { s with authFlowStarted := false, storage := ⟨none, false, none⟩ }

def isAuthFlowPath (pathname : String) : Bool :=
  pathname == "/login" || pathname == "/register" || pathname == "/auth/callback" || pathname == "/error"

def saveReturnTo (location : Location) (stored : Option String) : Option String :=
  if isAuthFlowPath location.pathname then stored
  else
    let returnTo := location.pathname ++ location.search ++ location.hash
    if returnTo = "/" then stored else some returnTo

/-- `startAuthFlow` up to the `await`. Only a logout asks not to save the path. -/
def startAuthFlow (byLogout : Bool) (location : Location) (codeVerifier : String) : Tab :=
  if s.authFlowStarted then s
  else
    { s with
      authFlowStarted := true
      storage :=
        { pkceCodeVerifier := some codeVerifier
          oidcFlowPending := true
          returnTo := if byLogout then s.storage.returnTo else saveReturnTo location s.storage.returnTo }
      flows := s.flows ++ [⟨codeVerifier, byLogout⟩] }

def refreshTokenOnce : Tab × Nat :=
  match s.refreshPromise with
  | some k => (s, k)
  | none => ({ s with refreshPromise := some s.refreshes.length, refreshes := s.refreshes ++ [none] }, s.refreshes.length)

def unauthorized : Tab :=
  let (s, refresh) := refreshTokenOnce s
  { s with requests := s.requests ++ [⟨refresh, false⟩] }

def refreshed (k : Nat) (ok : Bool) : Tab :=
  if s.refreshes[k]? = some none then
    { s with refreshPromise := none, refreshes := s.refreshes.set k (some ok) }
  else s

/-- Request `r` goes on after its refresh: it is sent again, or a new login is started. -/
def resume (r : Nat) (location : Location) (codeVerifier : String) : Tab :=
  match s.requests[r]? with
  | none => s
  | some q =>
    if q.resumed then s
    else
      match s.refreshes[q.refresh]? with
      | some (some true) => { s with requests := s.requests.set r { q with resumed := true } }
      | some (some false) =>
        startAuthFlow (clearLocalAuthState { s with requests := s.requests.set r { q with resumed := true } })
          false location codeVerifier
      | _ => s

def logout : Tab := { s with logouts := s.logouts ++ [false] }

def loggedOut (i : Nat) (location : Location) (codeVerifier : String) : Tab :=
  if s.logouts[i]? = some false then
    startAuthFlow (clearLocalAuthState { s with logouts := s.logouts.set i true }) true location codeVerifier
  else s

inductive Event where
  | unauthorized
  | refreshed (k : Nat) (ok : Bool)
  | resume (r : Nat) (location : Location) (codeVerifier : String)
  | logout
  | loggedOut (i : Nat) (location : Location) (codeVerifier : String)
  | startAuthFlow (location : Location) (codeVerifier : String)
  | hashed (j : Nat)

section Challenge

-- the challenge of a verifier: its SHA-256, in base64url
variable (challenge : String → String)

def navigate (s : Tab) (j : Nat) : Tab :=
  match s.flows[j]? with
  | none => s
  | some f =>
    if j ∈ s.navigated then s
    else
      { s with
        navigated := j :: s.navigated
        navigations := s.navigations ++ [⟨challenge f.codeVerifier, f.byLogout, s.storage⟩] }

def step (s : Tab) : Event → Tab
  | .unauthorized => unauthorized s
  | .refreshed k ok => refreshed s k ok
  | .resume r location codeVerifier => resume s r location codeVerifier
  | .logout => logout s
  | .loggedOut i location codeVerifier => loggedOut s i location codeVerifier
  | .startAuthFlow location codeVerifier => startAuthFlow s false location codeVerifier
  | .hashed j => navigate challenge s j

/-! What a navigation should find. -/

/-- The stored verifier is the preimage of the challenge, and a logout leaves no path behind. -/
structure Matches (n : Navigation) : Prop where
  verifier : ∃ v, n.storage.pkceCodeVerifier = some v ∧ challenge v = n.codeChallenge
  returnTo : n.byLogout = true → n.storage.returnTo = none

def Good (s : Tab) : Prop := ∀ n ∈ s.navigations, Matches challenge n

def Undisturbed : Event → Prop
  | .hashed j => j < s.flows.length → j ∉ s.navigated → j + 1 = s.flows.length
  | _ => True

/-- The logins started so far have different challenges. -/
def Distinct (s : Tab) : Prop :=
  ∀ (i j : Nat) (f g : Flow), s.flows[i]? = some f → s.flows[j]? = some g →
    challenge f.codeVerifier = challenge g.codeVerifier → i = j

/-! The session storage always belongs to the last login started. -/

def StoredByLast : Prop :=
  match s.flows.getLast? with
  | none => s.authFlowStarted = false
  | some f => s.authFlowStarted = true ∧ s.storage.pkceCodeVerifier = some f.codeVerifier ∧
      (f.byLogout = true → s.storage.returnTo = none)

theorem storedByLast_restart (byLogout : Bool) (location : Location) (codeVerifier : String) :
    StoredByLast (startAuthFlow (clearLocalAuthState s) byLogout location codeVerifier) := by
  cases byLogout <;> simp [StoredByLast, startAuthFlow, clearLocalAuthState]

variable {s : Tab}

theorem storedByLast_startAuthFlow (h : StoredByLast s) (location : Location) (codeVerifier : String) :
    StoredByLast (startAuthFlow s false location codeVerifier) := by
  cases hs : s.authFlowStarted with
  | true => simpa [startAuthFlow, hs] using h
  | false => simp [StoredByLast, startAuthFlow, hs]

theorem storedByLast_step (h : StoredByLast s) (e : Event) : StoredByLast (step challenge s e) := by
  cases e with
  | unauthorized =>
    simp only [step, unauthorized, refreshTokenOnce]
    cases s.refreshPromise <;> exact h
  | refreshed k ok =>
    simp only [step, refreshed]
    split
    · exact h
    · exact h
  | resume r location codeVerifier =>
    simp only [step, resume]
    split
    · exact h
    · split
      · exact h
      · split
        · exact h
        · exact storedByLast_restart _ _ _ _
        · exact h
  | logout => exact h
  | loggedOut i location codeVerifier =>
    simp only [step, loggedOut]
    split
    · exact storedByLast_restart _ _ _ _
    · exact h
  | startAuthFlow location codeVerifier => exact storedByLast_startAuthFlow h location codeVerifier
  | hashed j =>
    simp only [step, navigate]
    split
    · exact h
    · split
      · exact h
      · exact h

theorem navigations_startAuthFlow (s : Tab) (byLogout : Bool) (location : Location) (codeVerifier : String) :
    (startAuthFlow s byLogout location codeVerifier).navigations = s.navigations := by
  unfold startAuthFlow
  split <;> rfl

theorem navigations_step {e : Event} (he : ∀ j, e ≠ .hashed j) :
    (step challenge s e).navigations = s.navigations := by
  cases e with
  | unauthorized =>
    simp only [step, unauthorized, refreshTokenOnce]
    cases s.refreshPromise <;> rfl
  | refreshed k ok =>
    simp only [step, refreshed]
    split <;> rfl
  | resume r location codeVerifier =>
    simp only [step, resume]
    split
    · rfl
    · split
      · rfl
      · split
        · rfl
        · exact navigations_startAuthFlow _ _ _ _
        · rfl
  | logout => rfl
  | loggedOut i location codeVerifier =>
    simp only [step, loggedOut]
    split
    · exact navigations_startAuthFlow _ _ _ _
    · rfl
  | startAuthFlow location codeVerifier => exact navigations_startAuthFlow _ _ _ _
  | hashed j => exact absurd rfl (he j)

/-- The navigation of the last login started finds its own verifier, and no path if it is a logout's. -/
theorem matches_of_last (h : StoredByLast s) {j : Nat} {f : Flow} (hf : s.flows[j]? = some f)
    (hlast : j + 1 = s.flows.length) : Matches challenge ⟨challenge f.codeVerifier, f.byLogout, s.storage⟩ := by
  have hget : s.flows.getLast? = some f := by
    rw [List.getLast?_eq_getElem?, ← hlast, Nat.add_sub_cancel, hf]
  simp only [StoredByLast, hget] at h
  exact ⟨⟨f.codeVerifier, h.2.1, rfl⟩, h.2.2⟩

theorem good_step (hs : StoredByLast s) (hgood : Good challenge s) {e : Event} (he : Undisturbed s e) :
    Good challenge (step challenge s e) := by
  by_cases hhash : ∃ j, e = .hashed j
  · obtain ⟨j, rfl⟩ := hhash
    simp only [step, navigate]
    cases hf : s.flows[j]? with
    | none => exact hgood
    | some f =>
      by_cases hdone : j ∈ s.navigated
      · simpa [hdone] using hgood
      · have hlast : j + 1 = s.flows.length := he (List.getElem?_eq_some_iff.1 hf).1 hdone
        intro n hn
        simp only [hdone, if_false, List.mem_append, List.mem_singleton] at hn
        rcases hn with hn | rfl
        · exact hgood n hn
        · exact matches_of_last challenge hs hf hlast
  · intro n hn
    rw [navigations_step challenge fun j hj => hhash ⟨j, hj⟩] at hn
    exact hgood n hn

theorem undisturbed_of_good (hs : StoredByLast s) (hdistinct : Distinct challenge s) {e : Event}
    (hgood : Good challenge (step challenge s e)) : Undisturbed s e := by
  cases e with
  | hashed j =>
    intro hj hdone
    obtain ⟨f, hf⟩ : ∃ f, s.flows[j]? = some f := ⟨_, List.getElem?_eq_getElem hj⟩
    obtain ⟨l, hl⟩ : ∃ l, s.flows[s.flows.length - 1]? = some l :=
      ⟨_, List.getElem?_eq_getElem (Nat.sub_lt (Nat.zero_lt_of_lt hj) Nat.one_pos)⟩
    have hlast : s.flows.getLast? = some l := by rw [List.getLast?_eq_getElem?, hl]
    simp only [StoredByLast, hlast] at hs
    -- the new navigation is recorded with the verifier of the last login
    have hmem : (⟨challenge f.codeVerifier, f.byLogout, s.storage⟩ : Navigation) ∈
        (step challenge s (.hashed j)).navigations := by
      simp [step, navigate, hf, hdone]
    obtain ⟨v, hv, hchallenge⟩ := (hgood _ hmem).verifier
    have hv' : some l.codeVerifier = some v := hs.2.1.symm.trans hv
    cases hv'
    have := hdistinct _ _ l f hl hf hchallenge
    omega
  | _ => trivial

/-- Logins that navigate undisturbed find their own verifier, and those of a logout no return target;
and if no two verifiers have one challenge, a login that is disturbed does not. -/
theorem verifier_matches (storage : SessionStorage) (es : List Event) :
    (Transition.Along (step challenge) Undisturbed (Tab.opened storage) es →
      ∀ s ∈ Transition.states (step challenge) (Tab.opened storage) es, Good challenge s) ∧
    ((∀ s ∈ Transition.states (step challenge) (Tab.opened storage) es, Distinct challenge s) →
      (∀ s ∈ Transition.states (step challenge) (Tab.opened storage) es, Good challenge s) →
        Transition.Along (step challenge) Undisturbed (Tab.opened storage) es) := by
  have hopened : StoredByLast (Tab.opened storage) := rfl
  have hgood : Good challenge (Tab.opened storage) := by
    intro n hn
    cases hn
  constructor
  · intro has s hs
    have hstep : ∀ s e, StoredByLast s ∧ Good challenge s → Undisturbed s e →
        StoredByLast (step challenge s e) ∧ Good challenge (step challenge s e) :=
      fun s e h he => ⟨storedByLast_step challenge h.1 e, good_step challenge h.1 h.2 he⟩
    exact (Transition.forall_states_of_along hstep ⟨hopened, hgood⟩ has s hs).2
  · intro hdistinct hall
    have hstored := Transition.forall_states_of_step
      (fun s e (h : StoredByLast s) => storedByLast_step challenge h e) hopened es
    have hstep : ∀ s e, StoredByLast s ∧ Distinct challenge s ∧ Good challenge s →
        StoredByLast (step challenge s e) ∧ Distinct challenge (step challenge s e) ∧ Good challenge (step challenge s e) →
        Undisturbed s e := fun s e h h' => undisturbed_of_good challenge h.1 h.2.1 h'.2.2
    exact Transition.along_of_states hstep fun s hs => ⟨hstored s hs, hdistinct s hs, hall s hs⟩

end Challenge

def overtaken : List Event :=
  [.unauthorized, .logout, .loggedOut 0 ⟨"/hosts", "", ""⟩ "aa", .refreshed 0 false,
    .resume 0 ⟨"/hosts", "", ""⟩ "bb", .hashed 0]

theorem navigations_overtaken (challenge : String → String) :
    (Transition.run (step challenge) (Tab.opened ⟨none, false, none⟩) overtaken).navigations =
      [⟨challenge "aa", true, ⟨some "bb", true, some "/hosts"⟩⟩] := by
  rfl

/-- The login of the logout navigates with the verifier of the other login in store, and the path of the
user who signed out is stored again, whatever the hash is. -/
theorem logout_overtaken :
    (¬ ∃ challenge : String → String, challenge "bb" ≠ challenge "aa" ∧
      ∃ n ∈ (Transition.run (step challenge) (Tab.opened ⟨none, false, none⟩) overtaken).navigations,
        ∃ v, n.storage.pkceCodeVerifier = some v ∧ challenge v = n.codeChallenge) ∧
    ¬ ∃ challenge : String → String,
      ∀ n ∈ (Transition.run (step challenge) (Tab.opened ⟨none, false, none⟩) overtaken).navigations,
        n.byLogout = true → n.storage.returnTo = none := by
  constructor
  · rintro ⟨challenge, hne, n, hn, v, hv, heq⟩
    rw [navigations_overtaken, List.mem_singleton] at hn
    subst hn
    cases hv
    exact hne heq
  · rintro ⟨challenge, h⟩
    cases h _ List.mem_cons_self rfl

end Vraxel.Ui.AuthFlow
