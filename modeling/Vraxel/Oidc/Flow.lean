import Vraxel.Lib.Rely
import Vraxel.Oidc.Provider
/-
  What holds at each point of the provider's programs, in every interleaving. A code or a refresh
  token that a call has consumed is spent: no other call comes by it.
-/

namespace Vraxel.Oidc

open Relational Api Db Txn Interleave

/-! Requests that were accepted. -/

/-- The request was made of these parameters, with this client. -/
def Accepted (client : Client) (params request : AuthorizeParams) : Prop :=
  ∃ clients, getClient clients params.clientID = some client ∧ authorizeValidateRequest clients params = .ok request

/-- The challenge of a request is the one of its parameters, with the method `S256`,
and a public client has one. -/
theorem Accepted.challenge {client : Client} {params request : AuthorizeParams} (h : Accepted client params request) :
    request.clientID = params.clientID ∧ request.codeChallenge = params.codeChallenge ∧
      (client.isPublic → params.codeChallenge ≠ "") := by
  obtain ⟨clients, hclient, hok⟩ := h
  simp only [authorizeValidateRequest, hclient] at hok
  split at hok
  · cases hok
  split at hok
  · cases hok
  split at hok
  · cases hok
  split at hok
  · cases hok
  next hpkce =>
    split at hok
    · cases hok
    · cases hok
      refine ⟨rfl, rfl, fun hpublic hempty => hpkce ?_⟩
      simp [hpublic, hempty]

def PendingAccepted (row : PendingRequestRow) : Prop := Accepted row.client row.params row.request

/-- The code was created for a request that was accepted. -/
def CodeAccepted (row : AuthCodeRow) : Prop :=
  ∃ request, Accepted row.client row.params request ∧ row.clientID = request.clientID ∧
    row.codeChallenge = request.codeChallenge

/-- What a call has consumed has passed the call's tests. -/
def Via.Checked (sha256 : String → List UInt8) : Via → Prop
  | .code row req => CodeAccepted row ∧ checkCode sha256 row req = .ok ()
  | .refresh row req => row.clientID = req.clientID

variable (s : OidcState)

namespace OidcState

/-- Nothing can consume it any more. -/
def Spent : Source → Prop
  | .code serial => serial < s.db.authCodes.next ∧ ∀ r ∈ s.db.authCodes, r.serial ≠ serial
  | .refresh id => id < s.db.refreshTokens.next ∧ ∀ r ∈ s.db.refreshTokens, r.id = id → r.revoked

def Active (userID : Int) : Prop :=
  ∃ user, s.db.users.get? userID = some user ∧ user.status = "active"

/-- A user who was active with that number of deactivations is so unless it has grown. -/
def ActiveUnless (userID : Int) (since : Option Nat) : Prop :=
  ∀ n, since = some n → n ≤ s.deactivated userID ∧ (n = s.deactivated userID → s.Active userID)

structure Sound (s : OidcState) : Prop where
  pending : ∀ r ∈ s.db.pendingRequests, PendingAccepted r
  codes : ∀ r ∈ s.db.authCodes, CodeAccepted r

structure Evolves (s s' : OidcState) : Prop where
  spent : ∀ k, s.Spent k → s'.Spent k
  active : ∀ userID since, s.ActiveUnless userID since → s'.ActiveUnless userID since

theorem sound_init (users : Table UserRow) (now : Int) : (init users now).Sound :=
  ⟨fun r hr => absurd hr (Table.not_mem_empty r), fun r hr => absurd hr (Table.not_mem_empty r)⟩

theorem Evolves.refl : Evolves s s := ⟨fun _ h => h, fun _ _ h => h⟩

variable {s s' : OidcState}

theorem Evolves.trans {s'' : OidcState} (h : Evolves s s') (h' : Evolves s' s'') : Evolves s s'' :=
  ⟨fun k hk => h'.spent k (h.spent k hk), fun userID since hs => h'.active userID since (h.active userID since hs)⟩

theorem activeUnless_activeSince (s : OidcState) (userID : Int) : s.ActiveUnless userID (s.activeSince userID) := by
  intro n hn
  simp only [activeSince] at hn
  split at hn
  next user huser =>
    split at hn
    · next hstatus =>
      cases hn
      exact ⟨le_rfl, fun _ => ⟨user, huser, hstatus⟩⟩
    · cases hn
  · cases hn

theorem evolves_of (hcodes : ∀ r ∈ s'.db.authCodes, r ∈ s.db.authCodes ∨ s.db.authCodes.next ≤ r.serial)
    (hnext : s.db.authCodes.next ≤ s'.db.authCodes.next)
    (htokens : ∀ r ∈ s'.db.refreshTokens, (∃ r₀ ∈ s.db.refreshTokens, r₀.id = r.id ∧ (r₀.revoked → r.revoked)) ∨
      s.db.refreshTokens.next ≤ r.id)
    (hnext' : s.db.refreshTokens.next ≤ s'.db.refreshTokens.next)
    (hactive : ∀ userID since, s.ActiveUnless userID since → s'.ActiveUnless userID since) : Evolves s s' := by
  refine ⟨fun k hk => ?_, hactive⟩
  cases k with
  | code serial =>
    refine ⟨hk.1.trans_le hnext, fun r hr heq => ?_⟩
    rcases hcodes r hr with hold | hnew
    · exact hk.2 r hold heq
    · exact absurd hk.1 (Int.not_lt.2 (heq ▸ hnew))
  | refresh id =>
    refine ⟨hk.1.trans_le hnext', fun r hr heq => ?_⟩
    rcases htokens r hr with ⟨r₀, hr₀, hid, hrevoked⟩ | hnew
    · exact hrevoked (hk.2 r₀ hr₀ (hid.trans heq))
    · exact absurd hk.1 (Int.not_lt.2 (heq ▸ hnew))

theorem evolves_of_eq (hcodes : s'.db.authCodes = s.db.authCodes) (htokens : s'.db.refreshTokens = s.db.refreshTokens)
    (hactive : ∀ userID since, s.ActiveUnless userID since → s'.ActiveUnless userID since) : Evolves s s' := by
  refine evolves_of (fun r hr => .inl (hcodes ▸ hr)) ?_ (fun r hr => .inl ⟨r, htokens ▸ hr, rfl, id⟩) ?_ hactive
  · rw [hcodes]
  · rw [htokens]

theorem Active.update {userID : Int} (h : s.Active userID) {p : UserRow → Bool} {f : UserRow → UserRow}
    (hf : ∀ u : UserRow, u.id = userID → u.status = "active" → p u → (f u).status = "active") :
    Active { s with db := { s.db with users := s.db.users.update p f } } userID := by
  obtain ⟨user, huser, hstatus⟩ := h
  obtain ⟨hmem, hid⟩ := Table.get?_eq_some_iff.1 huser
  refine ⟨if p user then Keyed.withKey (f user) (Keyed.key user) else user, ?_, ?_⟩
  · refine Table.get?_eq_some_iff.2 ⟨Table.mem_update.2 ⟨user, hmem, rfl⟩, ?_⟩
    split
    · rw [Keyed.key_withKey, hid]
    · exact hid
  · split
    next hp => exact hf user hid hstatus hp
    · exact hstatus

theorem of_onTables {P : OidcState → Prop} {α : Type} {x : OidcM α} {a : α} {db : OidcDB}
    (h : x.run s.db = (.ok a, db) ∨ ∃ e, x.run s.db = (.error e, s.db)) (hdone : P { s with db := db }) (hsame : P s) :
    P ((onTables x).exec s) := by
  show P { s with db := (x.run s.db).2 }
  rcases h with h | ⟨e, h⟩
  · rw [h]
    exact hdone
  · rw [h]
    exact hsame

theorem Sound.insertPending (h : s.Sound) {row : PendingRequestRow} (hrow : PendingAccepted row) :
    Sound { s with db := { s.db with pendingRequests := s.db.pendingRequests.insert row } } := by
  refine ⟨fun r hr => ?_, h.codes⟩
  rcases Table.mem_insert.1 hr with hr | rfl
  · exact h.pending r hr
  · exact hrow

theorem Sound.insertCode (h : s.Sound) {row : AuthCodeRow} (hrow : CodeAccepted row) :
    Sound { s with db := { s.db with authCodes := s.db.authCodes.insert row } } := by
  refine ⟨h.pending, fun r hr => ?_⟩
  rcases Table.mem_insert.1 hr with hr | rfl
  · exact h.codes r hr
  · exact hrow

theorem evolves_insertCode (s : OidcState) (row : AuthCodeRow) :
    Evolves s { s with db := { s.db with authCodes := s.db.authCodes.insert row } } := by
  refine evolves_of (fun r hr => ?_) (Int.le_add_one le_rfl) (fun r hr => .inl ⟨r, hr, rfl, id⟩) le_rfl fun _ _ h => h
  rcases Table.mem_insert.1 hr with hr | rfl
  · exact .inl hr
  · exact .inr (Table.key_inserted _ row).ge

theorem evolves_insertToken (s : OidcState) (row : RefreshTokenRow) :
    Evolves s { s with db := { s.db with refreshTokens := s.db.refreshTokens.insert row } } := by
  refine evolves_of (fun r hr => .inl hr) le_rfl (fun r hr => ?_) (Int.le_add_one le_rfl) fun _ _ h => h
  rcases Table.mem_insert.1 hr with hr | rfl
  · exact .inl ⟨r, hr, rfl, id⟩
  · exact .inr (Table.key_inserted _ row).ge

def takePending (s : OidcState) (id : String) : OidcState :=
  { s with db := { s.db with pendingRequests :=
      s.db.pendingRequests.delete fun r => r.id = id && s.db.now < r.expiresAt } }

theorem Sound.takePending (h : s.Sound) (id : String) : (s.takePending id).Sound :=
  ⟨fun r hr => h.pending r (Table.mem_delete.1 hr).1, h.codes⟩

theorem evolves_takePending (s : OidcState) (id : String) : Evolves s (s.takePending id) :=
  evolves_of_eq rfl rfl fun _ _ h => h

theorem run_takePending {id : String} {found : Option PendingRequestRow}
    (h : (s.db.pendingRequests.find? fun r => r.id = id && s.db.now < r.expiresAt) = found) :
    (OidcStmt.consumePending id).sem.run s = (.ok found, s.takePending id) := by
  rw [← h]
  rfl

def takeCode (s : OidcState) (code : String) : OidcState :=
  { s with db := { s.db with authCodes := s.db.authCodes.delete (·.live code s.db.now) } }

def takeToken (s : OidcState) (tokenHash : String) : OidcState :=
  { s with db := { s.db with refreshTokens := s.db.refreshTokens.update (·.live tokenHash s.db.now) (·.revoke) } }

theorem Sound.takeCode (h : s.Sound) (code : String) : (s.takeCode code).Sound :=
  ⟨h.pending, fun r hr => h.codes r (Table.mem_delete.1 hr).1⟩

theorem evolves_takeCode (s : OidcState) (code : String) : Evolves s (s.takeCode code) :=
  evolves_of (fun _ hr => .inl (Table.mem_delete.1 hr).1) le_rfl (fun r hr => .inl ⟨r, hr, rfl, id⟩) le_rfl
    fun _ _ h => h

theorem spent_takeCode {code : String} {row : AuthCodeRow}
    (h : s.db.authCodes.find? (·.live code s.db.now) = some row) :
    ¬ s.Spent (.code row.serial) ∧ (s.takeCode code).Spent (.code row.serial) := by
  obtain ⟨hmem, hlive⟩ := Table.find?_some h
  refine ⟨fun hspent => hspent.2 row hmem rfl, (s.db.authCodes.range row hmem).2, fun r hr heq => ?_⟩
  obtain ⟨hr, hdead⟩ := Table.mem_delete.1 hr
  have hsame := s.db.authCodes.eq_of_key_eq hr hmem heq
  rw [hsame, hlive] at hdead
  cases hdead

theorem run_takeCode {code : String} {found : Option AuthCodeRow}
    (h : s.db.authCodes.find? (·.live code s.db.now) = found) : (OidcStmt.consumeCode code).sem.run s =
      (.ok (found.map fun r => (r, (s.takeCode code).activeSince r.userID)), s.takeCode code) := by
  rw [← h]
  rfl

theorem evolves_revoke (s : OidcState) (p : RefreshTokenRow → Bool) :
    Evolves s { s with db := { s.db with refreshTokens := s.db.refreshTokens.update p (·.revoke) } } := by
  refine evolves_of (fun _ hr => .inl hr) le_rfl (fun r hr => ?_) le_rfl fun _ _ h => h
  obtain ⟨r₀, hr₀, rfl⟩ := mem_update_revoke.1 hr
  refine .inl ⟨r₀, hr₀, ?_, fun h => ?_⟩
  · split <;> rfl
  · split
    · rfl
    · exact h

theorem spent_takeToken {tokenHash : String} {row : RefreshTokenRow}
    (h : s.db.refreshTokens.find? (·.live tokenHash s.db.now) = some row) :
    ¬ s.Spent (.refresh row.id) ∧ (s.takeToken tokenHash).Spent (.refresh row.id) := by
  obtain ⟨hmem, hlive⟩ := Table.find?_some h
  refine ⟨fun hspent => ?_, (s.db.refreshTokens.range row hmem).2, fun r hr heq => ?_⟩
  · have hrevoked := hspent.2 row hmem rfl
    simp [RefreshTokenRow.live, hrevoked] at hlive
  · obtain ⟨r₀, hr₀, rfl⟩ := mem_update_revoke.1 hr
    have hid : r₀.id = row.id := by
      split at heq <;> exact heq
    have hsame := s.db.refreshTokens.eq_of_key_eq hr₀ hmem hid
    rw [hsame, if_pos hlive]
    rfl

theorem run_takeToken {tokenHash : String} {found : Option RefreshTokenRow}
    (h : s.db.refreshTokens.find? (·.live tokenHash s.db.now) = found) :
    (OidcStmt.consumeRefresh tokenHash).sem.run s = (.ok (found.map (·.revoke)), s.takeToken tokenHash) := by
  rw [← h]
  rfl

theorem run_checkUser {via : Via} {user : Option UserRow} (h : s.db.users.get? via.userID = user) :
    (OidcStmt.checkUser via).sem.run s = (.ok (user.map fun u => (u, s.activeSince via.userID)), s) := by
  rw [← h]
  rfl

theorem run_issueUser {via : Via} {since : Option Nat} {user : Option UserRow} (h : s.db.users.get? via.userID = user) :
    (OidcStmt.issueUser via since).sem.run s = (.ok user, s) := run_read_of_eq h

def withStatus (s : OidcState) (userID : Int) (status : String) : OidcState :=
  { s with
    db := { s.db with users := s.db.users.update (fun u => u.id = userID) fun u => { u with status := status } }
    deactivated := countStatus userID status s.deactivated }

theorem activeUnless_withStatus (userID : Int) (status : String) (u : Int) (since : Option Nat)
    (h : s.ActiveUnless u since) : (s.withStatus userID status).ActiveUnless u since := by
  intro n hn
  obtain ⟨hle, hactive⟩ := h n hn
  by_cases hstatus : status = "active"
  · have hcount : (s.withStatus userID status).deactivated = s.deactivated := if_pos hstatus
    rw [hcount]
    exact ⟨hle, fun heq => (hactive heq).update fun _ _ _ _ => hstatus⟩
  · have hcount : (s.withStatus userID status).deactivated =
        Function.update s.deactivated userID (s.deactivated userID + 1) := if_neg hstatus
    rw [hcount]
    by_cases hu : u = userID
    · subst hu
      rw [Function.update_self]
      exact ⟨by omega, fun heq => by omega⟩
    · rw [Function.update_of_ne hu]
      refine ⟨hle, fun heq => (hactive heq).update fun user hid _ hp => ?_⟩
      exact absurd (hid.symm.trans (of_decide_eq_true hp)) hu

end OidcState

/-! What a call has consumed is its own. -/

def consuming : Discipline OidcState oidcSig Err Source where
  take
    | .consumeCode _, .ok (some (row, _)), _ => some (.code row.serial)
    | .consumeRefresh _, .ok (some row), _ => some (.refresh row.id)
    | _, _, v => v
  owned := OidcState.Spent
  rely _ := OidcState.Evolves
  pre
    | _, .createPending row, _ => PendingAccepted row
    | _, .createCode row, _ => CodeAccepted row
    | _, _, _ => True

variable {v : Option Source}

theorem sem_keeps {s : OidcState} (q : OidcStmt) (h : s.Sound) (hpre : consuming.pre v q s) :
    (q.sem.exec s).Sound ∧ s.Evolves (q.sem.exec s) := by
  cases q with
  | createPending row =>
    exact OidcState.of_onTables (P := fun s' => s'.Sound ∧ s.Evolves s') (createOIDCPendingRequest_cases row s.db)
      ⟨h.insertPending hpre, OidcState.evolves_of_eq rfl rfl fun _ _ h => h⟩ ⟨h, .refl s⟩
  | createCode row =>
    exact OidcState.of_onTables (P := fun s' => s'.Sound ∧ s.Evolves s') (createOIDCAuthCode_cases row s.db)
      ⟨h.insertCode hpre, s.evolves_insertCode row⟩ ⟨h, .refl s⟩
  | createRefresh row via =>
    exact OidcState.of_onTables (P := fun s' => s'.Sound ∧ s.Evolves s')
      (refreshTokensTable.insert_cases (createRefreshTokenChecks row) row s.db)
      ⟨⟨h.pending, h.codes⟩, s.evolves_insertToken row⟩ ⟨h, .refl s⟩
  | consumePending id => exact ⟨h.takePending id, s.evolves_takePending id⟩
  | consumeCode code => exact ⟨h.takeCode code, s.evolves_takeCode code⟩
  | consumeRefresh tokenHash => exact ⟨⟨h.pending, h.codes⟩, s.evolves_revoke (·.live tokenHash s.db.now)⟩
  | startLogin userID => exact ⟨h, .refl s⟩
  | checkUser via => exact ⟨h, .refl s⟩
  | issueUser via since => exact ⟨h, .refl s⟩
  | setStatus userID status =>
    exact ⟨⟨h.pending, h.codes⟩, OidcState.evolves_of_eq rfl rfl (OidcState.activeUnless_withStatus userID status)⟩
  | startPassword userID => exact ⟨⟨h.pending, h.codes⟩, OidcState.evolves_of_eq rfl rfl fun _ _ h => h⟩
  | setPasswordHash userID hash =>
    refine ⟨⟨h.pending, h.codes⟩, OidcState.evolves_of_eq rfl rfl fun u since h n hn => ?_⟩
    exact ⟨(h n hn).1, fun heq => ((h n hn).2 heq).update fun _ _ hstatus _ => hstatus⟩
  | revokeByUser userID call =>
    have he := s.evolves_revoke fun r => r.userID = userID
    exact ⟨⟨h.pending, h.codes⟩, he.spent, he.active⟩
  | tick d => exact ⟨⟨h.pending, h.codes⟩, OidcState.evolves_of_eq rfl rfl fun _ _ h => h⟩

theorem spent_of_take {s : OidcState} {k : Source} (q : OidcStmt) (h : s.Sound)
    (hpre : consuming.pre v q s) (hv : ∀ k, v = some k → s.Spent k)
    (hk : consuming.take q (q.sem.result s) v = some k) : (q.sem.exec s).Spent k ∧ (v = some k ∨ ¬ s.Spent k) := by
  have hkept (hk : v = some k) : (q.sem.exec s).Spent k ∧ (v = some k ∨ ¬ s.Spent k) :=
    ⟨(sem_keeps q h hpre).2.spent k (hv k hk), .inl hk⟩
  cases q with
  | consumeCode code =>
    cases hfound : s.db.authCodes.find? (·.live code s.db.now) with
    | none =>
      have hresult : (OidcStmt.consumeCode code).sem.result s = _ := congrArg Prod.fst (OidcState.run_takeCode hfound)
      rw [hresult] at hk
      exact hkept hk
    | some row =>
      have hresult : (OidcStmt.consumeCode code).sem.result s = _ := congrArg Prod.fst (OidcState.run_takeCode hfound)
      rw [hresult] at hk
      cases hk
      exact ⟨(OidcState.spent_takeCode hfound).2, .inr (OidcState.spent_takeCode hfound).1⟩
  | consumeRefresh tokenHash =>
    cases hfound : s.db.refreshTokens.find? (·.live tokenHash s.db.now) with
    | none =>
      have hresult : (OidcStmt.consumeRefresh tokenHash).sem.result s = _ := congrArg Prod.fst (OidcState.run_takeToken hfound)
      rw [hresult] at hk
      exact hkept hk
    | some row =>
      have hresult : (OidcStmt.consumeRefresh tokenHash).sem.result s = _ := congrArg Prod.fst (OidcState.run_takeToken hfound)
      rw [hresult] at hk
      cases hk
      exact ⟨(OidcState.spent_takeToken hfound).2, .inr (OidcState.spent_takeToken hfound).1⟩
  | _ => exact hkept hk

/-- When a call reads the user's row to issue tokens: the user was active when the code
was consumed (for a refresh, when the call checked it), and has not been deactivated
since. -/
def Undisturbed : OidcStmt → OidcState → Prop
  | .issueUser via since, s => since = some (s.deactivated via.userID)
  | _, _ => True

instance (q : OidcStmt) (s : OidcState) : Decidable (Undisturbed q s) := by
  cases q <;> unfold Undisturbed <;> infer_instance

section Calls

variable (lib : Jwt) (ts : TokenService) (cfg : ProviderConfig) (sha256 : String → List UInt8) (strict : Prop)

theorem consuming_sound : consuming.Sound (oidcSystem lib ts cfg sha256) OidcState.Sound
    (fun q s => strict → Undisturbed q s) fun _ _ => False where
  refl _ := .refl
  trans _ _ _ _ h h' := h.trans h'
  owned k _ _ h := h.spent k
  inv q _ _ h hpre _ _ _ := (sem_keeps q h hpre).1
  take q _ _ _ h hpre _ _ hv hk := spent_of_take q h hpre hv hk
  others q _ _ _ h hpre _ _ _ := (sem_keeps q h hpre).2
  need _ _ _ _ _ _ _ _ hk := hk.elim

/-- Tokens are issued for what the call has consumed, after its tests. -/
def Issued (v : Option Source) (_ : OidcState) (r : Except Err (Option Issue)) : Prop :=
  ∀ i, r = .ok (some i) → v = some i.via.source ∧ i.via.Checked sha256 ∧ (strict → i.user.status = "active")

abbrev Safe : Option Source → OidcState → Provider.ProviderM (Option Issue) → Prop :=
  consuming.Safe (oidcSystem lib ts cfg sha256) OidcState.Sound (fun q s => strict → Undisturbed q s) (Issued sha256 strict)

variable {sha256} {s : OidcState} {via : Via} {since : Option Nat}

variable {strict} in
theorem issued_error (e : Err) : Issued sha256 strict v s (.error e) := by
  intro i hi
  cases hi

variable {strict} in
theorem issued_none : Issued sha256 strict v s (.ok none) := by
  intro i hi
  cases hi

variable (draws : TokenDraws)

theorem safe_store (user : UserRow) (accessToken idToken raw : String) (h : via.Checked sha256)
    (hactive : strict → user.status = "active") :
    Safe lib ts cfg sha256 strict (some via.source) s (Provider.store cfg sha256 via draws user accessToken idToken raw) := by
  refine Discipline.safe_exec (fun _ _ _ => trivial) fun s₁ r s₂ _ _ _ _ _ => ?_
  cases r with
  | error e => exact issued_error _
  | ok row =>
    intro i hi
    cases hi
    exact ⟨rfl, h, hactive⟩

theorem safe_issueFor (accessToken : String) (user : UserRow) (h : via.Checked sha256)
    (hactive : strict → user.status = "active") :
    Safe lib ts cfg sha256 strict (some via.source) s (Provider.issueFor lib ts cfg sha256 via draws accessToken user) := by
  rw [Provider.issueFor]
  split
  · exact issued_error _
  · exact issued_error _
  · exact safe_store lib ts cfg strict draws user accessToken _ _ h hactive

theorem safe_issueTokens (h : via.Checked sha256) (hactive : s.ActiveUnless via.userID since) :
    Safe lib ts cfg sha256 strict (some via.source) s (Provider.issueTokens lib ts cfg sha256 via draws since) := by
  rw [Provider.issueTokens]
  split
  · exact issued_error _
  next accessToken _ =>
    refine Discipline.safe_exec (fun _ _ _ => trivial) fun s₁ r s₂ h₁ _ _ hok hrun => ?_
    cases huser : s₁.db.users.get? via.userID with
    | none =>
      cases (OidcState.run_issueUser huser).symm.trans hrun
      exact issued_error _
    | some user =>
      cases (OidcState.run_issueUser huser).symm.trans hrun
      refine safe_issueFor lib ts cfg strict draws accessToken user h fun hstrict => ?_
      -- nobody was deactivated since the user was active, so the row just read is active
      obtain ⟨user', huser', hstatus⟩ := (h₁.active _ _ hactive _ (hok hstrict)).2 rfl
      cases huser.symm.trans huser'
      exact hstatus

theorem safe_exchangeCode (req : CodeExchangeRequest) (draws : TokenDraws) :
    Safe lib ts cfg sha256 strict none s (Provider.exchangeCode lib ts cfg sha256 req draws) := by
  refine Discipline.safe_exec (fun _ _ _ => trivial) fun s₁ r s₂ _ h _ _ hrun => ?_
  cases hfound : s₁.db.authCodes.find? (·.live req.code s₁.db.now) with
  | none =>
    cases (OidcState.run_takeCode hfound).symm.trans hrun
    exact issued_error _
  | some row =>
    cases (OidcState.run_takeCode hfound).symm.trans hrun
    show Safe lib ts cfg sha256 strict _ _ (Provider.exchange lib ts cfg sha256 row req draws _)
    rw [Provider.exchange]
    split
    · exact issued_error _
    next hcheck =>
      have hchecked : Via.Checked sha256 (.code row req) := ⟨h.codes row (Table.find?_some hfound).1, hcheck⟩
      exact safe_issueTokens lib ts cfg strict draws hchecked
        (OidcState.activeUnless_activeSince _ _)

theorem safe_checkActive (h : via.Checked sha256) :
    Safe lib ts cfg sha256 strict (some via.source) s (Provider.checkActive lib ts cfg sha256 via draws) := by
  refine Discipline.safe_exec (fun _ _ _ => trivial) fun s₁ r s₂ _ _ _ _ hrun => ?_
  cases huser : s₁.db.users.get? via.userID with
  | none =>
    cases (OidcState.run_checkUser huser).symm.trans hrun
    exact issued_error _
  | some user =>
    cases (OidcState.run_checkUser huser).symm.trans hrun
    show Safe lib ts cfg sha256 strict _ _ (Provider.checked lib ts cfg sha256 via draws user _)
    rw [Provider.checked]
    split
    · exact issued_error _
    · exact safe_issueTokens lib ts cfg strict draws h (s₁.activeUnless_activeSince via.userID)

theorem safe_refreshTokens (req : RefreshRequest) (draws : TokenDraws) :
    Safe lib ts cfg sha256 strict none s (Provider.refreshTokens lib ts cfg sha256 req draws) := by
  refine Discipline.safe_exec (fun _ _ _ => trivial) fun s₁ r s₂ _ _ _ _ hrun => ?_
  cases hfound : s₁.db.refreshTokens.find? (·.live (hashToken sha256 req.refreshToken) s₁.db.now) with
  | none =>
    cases (OidcState.run_takeToken hfound).symm.trans hrun
    exact issued_error _
  | some row =>
    cases (OidcState.run_takeToken hfound).symm.trans hrun
    show Safe lib ts cfg sha256 strict _ _ (Provider.refresh lib ts cfg sha256 row.revoke req draws)
    rw [Provider.refresh]
    split
    · exact issued_error _
    next hclient =>
      have hchecked : Via.Checked sha256 (.refresh row.revoke req) := not_not.1 hclient
      exact safe_checkActive lib ts cfg strict draws hchecked

theorem safe_completeAuthorize (requestID : String) (userID authTime : Int) (draws : CodeDraws) :
    Safe lib ts cfg sha256 strict none s (Provider.completeAuthorize cfg requestID userID authTime draws) := by
  refine fun s₁ _ _ => ⟨trivial, fun _ _ => ?_⟩
  refine Discipline.safe_exec (fun _ _ _ => trivial) fun s₂ r s₃ _ h _ _ hrun => ?_
  cases hfound : s₂.db.pendingRequests.find? fun r => r.id = requestID && s₂.db.now < r.expiresAt with
  | none =>
    cases (OidcState.run_takePending hfound).symm.trans hrun
    exact issued_error _
  | some pending =>
    cases (OidcState.run_takePending hfound).symm.trans hrun
    show Safe lib ts cfg sha256 strict _ _ (Provider.authorize cfg pending userID authTime _ draws)
    rw [Provider.authorize]
    split
    · exact issued_error _
    · have haccepted := h.pending pending (Table.find?_some hfound).1
      exact fun s₄ _ _ => ⟨⟨pending.request, haccepted, rfl, rfl⟩, fun _ _ => issued_none⟩

theorem safe_handleAuthorize (clients : Clients) (params : AuthorizeParams) (draws : CodeDraws) :
    Safe lib ts cfg sha256 strict none s (Provider.handleAuthorize clients params draws) := by
  rw [Provider.handleAuthorize]
  split
  next hrequest hclient _ =>
    refine Discipline.safe_exec (fun _ _ _ => ⟨clients, hclient, hrequest⟩) fun s₁ r s₂ _ _ _ _ _ => ?_
    cases r with
    | error e => exact issued_error e
    | ok _ => exact issued_none
  · exact issued_none

theorem safe_prog (c : OidcCall) (s : OidcState) :
    Safe lib ts cfg sha256 strict none s ((oidcSystem lib ts cfg sha256).prog c) := by
  cases c with
  | handleAuthorize clients params draws => exact safe_handleAuthorize lib ts cfg strict clients params draws
  | completeAuthorize requestID userID authTime draws =>
    exact safe_completeAuthorize lib ts cfg strict requestID userID authTime draws
  | exchangeCode req draws => exact safe_exchangeCode lib ts cfg strict req draws
  | refreshTokens req draws => exact safe_refreshTokens lib ts cfg strict req draws
  | setStatus userID status => exact fun _ _ _ => ⟨trivial, fun _ _ => issued_none⟩
  | setUserPasswordAndRevoke userID hash =>
    exact fun _ _ _ => ⟨trivial, fun _ _ _ _ _ => ⟨trivial, fun _ _ _ _ _ => ⟨trivial, fun _ _ => issued_none⟩⟩⟩
  | revokeUserRefreshTokens userID => exact fun _ _ _ => ⟨trivial, fun _ _ => issued_none⟩
  | tick d => exact fun _ _ _ => ⟨trivial, fun _ _ => issued_none⟩

variable (sha256)

/-- Every run, from tables without requests, codes and tokens. With `strict`, in the
runs in which no user is disturbed. -/
theorem issued_of_along (users : Table UserRow) (now : Int) {es : List (Event OidcCall)}
    (h : Transition.Along (oidcSystem lib ts cfg sha256).step
      ((oidcSystem lib ts cfg sha256).Meets fun q s => strict → Undisturbed q s) (.init (.init users now)) es) :
    ∀ st ∈ Transition.states (oidcSystem lib ts cfg sha256).step (.init (.init users now)) es,
      (∀ i, .done (.ok (some i)) ∈ st.threads → i.via.Checked sha256 ∧ (strict → i.user.status = "active")) ∧
      ∀ (n m : Nat) (i j : Issue), st.threads[n]? = some (.done (.ok (some i))) →
        st.threads[m]? = some (.done (.ok (some j))) → i.via.source = j.via.source → n = m := by
  intro st hst
  obtain ⟨_, ps, hps, hsafe, hsep, _⟩ := (consuming_sound lib ts cfg sha256 strict).forall_safe (fun _ _ _ _ hQ _ => hQ)
    (safe_prog lib ts cfg strict) (OidcState.sound_init users now) (fun _ => id) h st hst
  rw [← hps]
  refine ⟨fun i hi => ?_, fun n m i j hn hm hsame => ?_⟩
  · obtain ⟨⟨p, v⟩, hx, rfl⟩ := List.mem_map.1 hi
    exact ((hsafe _ hx).1 i rfl).2
  · simp only [List.getElem?_map, Option.map_eq_some_iff] at hn hm
    obtain ⟨⟨p, v⟩, hx, rfl⟩ := hn
    obtain ⟨⟨p', v'⟩, hx', rfl⟩ := hm
    have hv := ((hsafe _ (List.mem_of_getElem? hx)).1 i rfl).1
    have hv' := ((hsafe _ (List.mem_of_getElem? hx')).1 j rfl).1
    exact hsep n m _ _ j.via.source hx hx' (hv.trans (congrArg some hsame)) hv'

end Calls

end Vraxel.Oidc
