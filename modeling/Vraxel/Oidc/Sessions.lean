import Vraxel.Oidc.Issuance
/-
  Password changes and the refresh tokens of earlier logins. A token carries, as bookkeeping, the
  number of calls of `setUserPasswordAndRevoke` for the user that had begun at its login.
-/

namespace Vraxel.Oidc

open Relational Api Db Txn Interleave

namespace OidcState

/-- No token is accepted that descends from a login before a password change whose
revocation is done. -/
def SessionsEnded (s : OidcState) : Prop :=
  ∀ r ∈ s.db.refreshTokens, r.live r.tokenHash s.db.now → s.ended r.userID ≤ r.login

instance (s : OidcState) : Decidable s.SessionsEnded :=
  inferInstanceAs (Decidable (∀ r ∈ s.db.refreshTokens, _))

variable {s s' : OidcState}

theorem SessionsEnded.of_le (h : s.SessionsEnded)
    (hrows : ∀ r ∈ s'.db.refreshTokens, r.live r.tokenHash s'.db.now →
      r ∈ s.db.refreshTokens ∧ r.live r.tokenHash s.db.now ∧ s'.ended r.userID = s.ended r.userID) :
    s'.SessionsEnded := by
  intro r hr hlive
  obtain ⟨hr', hlive', hended⟩ := hrows r hr hlive
  rw [hended]
  exact h r hr' hlive'

theorem SessionsEnded.of_eq (h : s.SessionsEnded) (htokens : s'.db.refreshTokens = s.db.refreshTokens)
    (hnow : s'.db.now = s.db.now) (hended : s'.ended = s.ended) : s'.SessionsEnded :=
  h.of_le fun _ hr hlive => ⟨htokens ▸ hr, hnow ▸ hlive, congrFun hended _⟩

theorem not_live_revoke (r : RefreshTokenRow) (tokenHash : String) (now : Int) : r.revoke.live tokenHash now = false := by
  simp [RefreshTokenRow.live, RefreshTokenRow.revoke]

theorem mem_of_live_revoke {p : RefreshTokenRow → Bool} {t : Table RefreshTokenRow} {r : RefreshTokenRow} {now : Int}
    (hr : r ∈ t.update p (·.revoke)) (hlive : r.live r.tokenHash now) : r ∈ t ∧ p r = false := by
  obtain ⟨r₀, hr₀, rfl⟩ := mem_update_revoke.1 hr
  cases hp : p r₀ with
  | true =>
    rw [hp, if_pos rfl, not_live_revoke] at hlive
    cases hlive
  | false => exact ⟨hr₀, hp⟩

def endSessions (s : OidcState) (userID : Int) (call : Nat) : OidcState :=
  { s with
    db := { s.db with refreshTokens := s.db.refreshTokens.update (fun r => r.userID = userID) (·.revoke) }
    ended := Function.update s.ended userID (max (s.ended userID) call) }

theorem SessionsEnded.endSessions (h : s.SessionsEnded) (userID : Int) (call : Nat) :
    (s.endSessions userID call).SessionsEnded := by
  refine h.of_le fun r hr hlive => ?_
  obtain ⟨hr', hother⟩ := mem_of_live_revoke hr hlive
  exact ⟨hr', hlive, Function.update_of_ne (of_decide_eq_false hother) _ _⟩

theorem SessionsEnded.takeToken (h : s.SessionsEnded) (tokenHash : String) : (s.takeToken tokenHash).SessionsEnded :=
  h.of_le fun _ hr hlive => ⟨(mem_of_live_revoke hr hlive).1, hlive, rfl⟩

theorem SessionsEnded.tick (h : s.SessionsEnded) (d : Nat) :
    SessionsEnded { s with db := { s.db with now := s.db.now + d } } := by
  refine h.of_le fun r hr hlive => ⟨hr, ?_, rfl⟩
  simp only [RefreshTokenRow.live, Bool.and_eq_true, decide_eq_true_eq] at hlive ⊢
  exact ⟨hlive.1, by omega⟩

end OidcState

/-- A token that is stored and can be accepted is from a login that no password change
followed whose revocation is done. -/
def StoredInTime : OidcStmt → OidcState → Prop
  | .createRefresh row _, s => createRefreshTokenChecks row s.db = .ok () → row.live row.tokenHash s.db.now →
    s.ended row.userID ≤ row.login
  | _, _ => True

theorem sessionsEnded_createRefresh {s : OidcState} (h : s.SessionsEnded) (row : RefreshTokenRow) (via : Via) :
    ((OidcStmt.createRefresh row via).sem.exec s).SessionsEnded ↔ StoredInTime (.createRefresh row via) s := by
  have hexec : (OidcStmt.createRefresh row via).sem.exec s = { s with db := (createRefreshToken row).exec s.db } := rfl
  rw [hexec, createRefreshToken, Slot.exec_insert]
  split
  next hchk =>
    constructor
    · exact fun hall _ => hall (s.db.refreshTokens.inserted row) (Table.mem_insert.2 (.inr rfl))
    · intro hrow r hr hlive
      rcases Table.mem_insert.1 hr with hr | rfl
      · exact h r hr hlive
      · exact hrow hchk hlive
  next hchk => exact iff_of_true h fun hok => absurd hok hchk

theorem sessionsEnded_exec {s : OidcState} (h : s.SessionsEnded) (q : OidcStmt) :
    (q.sem.exec s).SessionsEnded ↔ StoredInTime q s := by
  cases q with
  | createRefresh row via => exact sessionsEnded_createRefresh h row via
  | createPending row =>
    exact iff_of_true (OidcState.of_onTables (createOIDCPendingRequest_cases row s.db) (h.of_eq rfl rfl rfl) h) trivial
  | createCode row =>
    exact iff_of_true (OidcState.of_onTables (createOIDCAuthCode_cases row s.db) (h.of_eq rfl rfl rfl) h) trivial
  | consumeRefresh tokenHash => exact iff_of_true (h.takeToken tokenHash) trivial
  | revokeByUser userID call => exact iff_of_true (h.endSessions userID call) trivial
  | tick d => exact iff_of_true (h.tick d) trivial
  | startLogin userID => exact iff_of_true h trivial
  | checkUser via => exact iff_of_true h trivial
  | issueUser via since => exact iff_of_true h trivial
  | consumePending id => exact iff_of_true (h.of_eq rfl rfl rfl) trivial
  | consumeCode code => exact iff_of_true (h.of_eq rfl rfl rfl) trivial
  | setStatus userID status => exact iff_of_true (h.of_eq rfl rfl rfl) trivial
  | startPassword userID => exact iff_of_true (h.of_eq rfl rfl rfl) trivial
  | setPasswordHash userID hash => exact iff_of_true (h.of_eq rfl rfl rfl) trivial

def changePassword (n : Nat) : List (Event OidcCall) :=
  [.call (.setUserPasswordAndRevoke 7 "new"), .step n, .step n, .step n]

def refreshAgain (n : Nat) : List (Event OidcCall) :=
  [.call (.refreshTokens ⟨"t2", "web"⟩ (drawing "t3")), .step n, .step n, .step n, .step n]

end Vraxel.Oidc
