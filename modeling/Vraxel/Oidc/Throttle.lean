import Vraxel.Lib.FixedWindow
import Vraxel.Lib.Rely
import Vraxel.Db.Schema
import Vraxel.Oidc.Token
/-
  The lockout of logins (`lib/oidc/throttle.go`, `pg_throttle_store.go`,
  `login_throttle.sql`) in `handleLogin` (`iam/oidc_handler_auth.go`). The counters are read in the
  order the iteration over a Go map gives.
-/

namespace Vraxel.Oidc

open Relational Db Txn Interleave FixedWindow

def loginFailWindow : Int := 15 * 60 * second
def loginUserFailLimit : Nat := 5
def loginIPFailLimit : Nat := 20

def throttleDecision (count : Nat) (windowStart : Int) (limit : Nat) (window now : Int) : Int × Bool :=
  if count < limit then (0, false)
  else
    let remaining := windowStart + window - now
    if remaining ≤ 0 then (0, false) else (remaining, true)

theorem throttleDecision_locked (c : Counter) (limit : Nat) (window now : Int) :
    (throttleDecision c.count c.start limit window now).2 = c.locked limit window now := by
  simp only [throttleDecision, Counter.locked]
  split
  next h => simp [Nat.not_le.2 h]
  next h =>
    split
    next h' => simp [Int.not_lt.2 (by omega : c.start + window ≤ now)]
    next h' => simp [Nat.not_lt.1 h, (by omega : now < c.start + window)]

structure LoginError where
  error : String
  description : String
  status : Nat

/-- A request, with the order in which the map of keys is iterated over and the session
id that is drawn. -/
structure Attempt where
  username : String
  password : String
  ip : String
  ipFirst : Bool
  sessionID : Option String

structure Verification where
  userID : Int
  key : String
  time : Int
  deriving DecidableEq

structure LoginState where
  users : Table UserRow
  counters : String → Option Counter
  now : Int
  log : List Verification
  counts : String → Nat
  unnoted : String → Nat

variable (s : LoginState)

namespace LoginState

def init (users : Table UserRow) (counters : String → Option Counter) (now : Int) : LoginState :=
  ⟨users, counters, now, [], fun _ => 0, fun _ => 0⟩

def getUserForAuth (identifier : String) : Option UserRow :=
  s.users.find? fun u => u.username = identifier || u.email = identifier

def verify (userID : Int) (key : String) : LoginState :=
  { s with log := s.log ++ [⟨userID, key, s.now⟩], unnoted := Function.update s.unnoted key (s.unnoted key + 1) }

/-- `BumpLoginThrottle`; `noted` is one if the attempt has verified a password. -/
def bump (s : LoginState) (key : String) (noted : Nat) : LoginState :=
  { s with
    counters := Function.update s.counters key (some (FixedWindow.bump loginFailWindow s.now (s.counters key)))
    counts := Function.update s.counts key (s.counts key + 1)
    unnoted := Function.update s.unnoted key (s.unnoted key - noted) }

def reset (key : String) : LoginState :=
  { s with
    counters := Function.update s.counters key none
    log := s.log.filter (·.key ≠ key)
    unnoted := Function.update s.unnoted key (s.unnoted key - 1) }

def sweep : LoginState :=
  { s with counters := fun key => (s.counters key).filter fun c => ¬ c.start < s.now - loginFailWindow }

end LoginState

inductive LoginStmt where
  | get (key : String)
  | clock
  | getUser (identifier : String)
  | verify (userID : Int) (key : String) (seen : Option Nat)
  | bump (key : String) (noted : Nat)
  | reset (key : String)
  | sweep
  | setUsers (users : Table UserRow)
  | tick (d : Nat)

/-- A counter comes with the number of counts under its key. -/
def LoginStmt.Ans : LoginStmt → Type
  | .get _ => Option Counter × Nat
  | .clock => Int
  | .getUser _ => Option UserRow
  | _ => Unit

abbrev loginSig : Sig := ⟨LoginStmt, LoginStmt.Ans⟩

def LoginStmt.sem : (q : LoginStmt) → M LoginState LoginError q.Ans
  | .get key => read fun s => (s.counters key, s.counts key)
  | .clock => read fun s => s.now
  | .getUser identifier => read fun s => s.getUserForAuth identifier
  | .verify userID key _ => write fun s => s.verify userID key
  | .bump key noted => write fun s => s.bump key noted
  | .reset key => write fun s => s.reset key
  | .sweep => write fun s => s.sweep
  | .setUsers users => write fun s => { s with users := users }
  | .tick d => write fun s => { s with now := s.now + d }

namespace Login

open Prog

abbrev LoginM : Type → Type := Prog loginSig LoginError

section Programs

variable (toLower : String → String) (bcrypt : (password hash : String) → Bool)

def loginUserKey (username : String) : String := "u:" ++ toLower (Strings.trimSpace username)

def loginIPKey (ip : String) : String := "ip:" ++ ip

variable (a : Attempt)

def keys : List (String × Nat) :=
  if a.ipFirst then [(loginIPKey a.ip, loginIPFailLimit), (loginUserKey toLower a.username, loginUserFailLimit)]
  else [(loginUserKey toLower a.username, loginUserFailLimit), (loginIPKey a.ip, loginIPFailLimit)]

def noteIP (err : LoginError) : LoginM (Option Int) := do
  ask (G := loginSig) (.bump (loginIPKey a.ip) 0)
  fail err

def noteLoginFailure (noted : Nat) (err : LoginError) : LoginM (Option Int) := do
  ask (G := loginSig) (.bump (loginUserKey toLower a.username) noted)
  noteIP a err

def sweepAfter (userID : Int) : LoginM (Option Int) := do
  ask (G := loginSig) .sweep
  return some userID

def noteLoginSuccess (userID : Int) : LoginM (Option Int) := do
  ask (G := loginSig) (.reset (loginUserKey toLower a.username))
  sweepAfter userID

def invalidCredentials : LoginError := ⟨"invalid_grant", "invalid credentials", 401⟩
def notActive : LoginError := ⟨"invalid_grant", "account is not active", 401⟩

def verified (user : UserRow) : LoginM (Option Int) :=
  if bcrypt a.password user.passwordHash ∧ a.sessionID.isSome then noteLoginSuccess toLower a user.id
  else noteLoginFailure toLower a 1 invalidCredentials

def verify (seen : Option Nat) (user : UserRow) : LoginM (Option Int) := do
  ask (G := loginSig) (.verify user.id (loginUserKey toLower a.username) seen)
  verified toLower bcrypt a user

def found (seen : Option Nat) (user : UserRow) : LoginM (Option Int) :=
  if user.status ≠ "active" then noteLoginFailure toLower a 0 notActive
  else if user.passwordHash = "" then noteLoginFailure toLower a 0 invalidCredentials
  else verify toLower bcrypt a seen user

def login (seen : Option Nat) : LoginM (Option Int) := do
  let user : Option UserRow ← ask (G := loginSig) (.getUser a.username)
  match user with
  | none => noteLoginFailure toLower a 0 invalidCredentials
  | some user => found toLower bcrypt a seen user

def note (key : String) (counts : Nat) (seen : Option Nat) : Option Nat :=
  if key = loginUserKey toLower a.username then some counts else seen

def decision (limit : Nat) (c : Counter) (next : LoginM (Option Int)) : LoginM (Option Int) := do
  let now : Int ← ask (G := loginSig) .clock
  if (throttleDecision c.count c.start limit loginFailWindow now).2 then
    fail ⟨"rate_limited", "too many failed login attempts", 429⟩
  else next

def loginLocked (a : Attempt) : List (String × Nat) → Option Nat → LoginM (Option Int)
  | [], seen => login toLower bcrypt a seen
  | (key, limit) :: rest, seen => do
    let r : Option Counter × Nat ← ask (G := loginSig) (.get key)
    match r with
    | (none, counts) => loginLocked a rest (note toLower a key counts seen)
    | (some c, counts) => decision limit c (loginLocked a rest (note toLower a key counts seen))

def handleLogin : LoginM (Option Int) :=
  if a.username = "" ∨ a.password = "" then fail ⟨"invalid_request", "username and password are required", 400⟩
  else loginLocked toLower bcrypt a (keys toLower a) none

end Programs

/-! The rest of the world. -/

def setUsers (users : Table UserRow) : LoginM (Option Int) := do
  ask (G := loginSig) (.setUsers users)
  return none

def tick (d : Nat) : LoginM (Option Int) := do
  ask (G := loginSig) (.tick d)
  return none

end Login

inductive LoginCall where
  | handleLogin (a : Attempt)
  | setUsers (users : Table UserRow)
  | tick (d : Nat)

def loginSystem (toLower : String → String) (bcrypt : (password hash : String) → Bool) :
    System LoginState loginSig LoginError (Option Int) LoginCall where
  sem := LoginStmt.sem
  ready _ _ := true
  prog
    | .handleLogin a => Login.handleLogin toLower bcrypt a
    | .setUsers users => Login.setUsers users
    | .tick d => Login.tick d

/-! Invariants of the counters. -/

namespace LoginState

/-- In the window of the counter under which it was verified last, an account's password
was not verified more often than the limit. -/
def Limited : Prop :=
  ∀ v ∈ s.log, ∀ c ∈ s.counters v.key,
    (s.log.countP fun w => w.userID = v.userID ∧ c.start ≤ w.time ∧ w.time < c.start + loginFailWindow) ≤
      loginUserFailLimit

instance (s : LoginState) : Decidable s.Limited :=
  inferInstanceAs (Decidable (∀ v ∈ s.log, ∀ c ∈ s.counters v.key, _ ≤ loginUserFailLimit))

def times (key : String) : List Int := (s.log.filter (·.key = key)).map (·.time)

structure Accounted (s : LoginState) : Prop where
  accounts : ∀ key, Accounts loginFailWindow (s.counters key) s.now (s.times key) (s.unnoted key)
  within : ∀ key, Within loginUserFailLimit loginFailWindow (s.counters key) (s.times key)
  oneKey : ∀ v ∈ s.log, ∀ w ∈ s.log, v.userID = w.userID → v.key = w.key

variable {s s' : LoginState} {key : String}

theorem accounted_init (users : Table UserRow) (counters : String → Option Counter) (now : Int) :
    (init users counters now).Accounted :=
  ⟨fun key => accounts_nil _ _ _, fun key k _ => Nat.zero_le _, fun v hv => by cases hv⟩

theorem Accounted.limited (h : s.Accounted) : s.Limited := by
  intro v hv c hc
  calc (s.log.countP fun w => w.userID = v.userID ∧ c.start ≤ w.time ∧ w.time < c.start + loginFailWindow)
      ≤ s.log.countP fun w => w.key = v.key ∧ c.start ≤ w.time ∧ w.time < c.start + loginFailWindow := by
        refine List.countP_mono_left fun w hw hp => ?_
        obtain ⟨huser, hwindow⟩ := of_decide_eq_true hp
        exact decide_eq_true ⟨h.oneKey w hw v hv huser, hwindow⟩
    _ = events (s.times v.key) fun t => c.start ≤ t ∧ t < c.start + loginFailWindow := by
        rw [events, times, List.countP_map, List.countP_filter]
        congr 1
        funext w
        simp only [Bool.decide_and, Function.comp_apply]
        exact Bool.and_comm _ _
    _ ≤ loginUserFailLimit := h.within v.key c hc

theorem times_verify_self (s : LoginState) (userID : Int) (key : String) :
    (s.verify userID key).times key = s.times key ++ [s.now] := by
  simp [times, verify, List.filter_append]

theorem times_verify_of_ne (s : LoginState) (userID : Int) {key key' : String} (hne : key' ≠ key) :
    (s.verify userID key).times key' = s.times key' := by
  simp [times, verify, List.filter_append, hne.symm]

theorem Accounted.verify (h : s.Accounted) {userID : Int} (hnoted : s.unnoted key = 0)
    (hfree : ∀ c, s.counters key = some c → ¬ c.locked loginUserFailLimit loginFailWindow s.now)
    (hkey : ∀ v ∈ s.log, v.userID = userID → v.key = key) : (s.verify userID key).Accounted := by
  have haccounts := hnoted ▸ h.accounts key
  refine ⟨fun key' => ?_, fun key' => ?_, fun v hv w hw huser => ?_⟩
  · by_cases hk : key' = key
    · subst hk
      rw [times_verify_self]
      show Accounts _ _ _ _ (Function.update s.unnoted key' (s.unnoted key' + 1) key')
      rw [Function.update_self, hnoted]
      exact haccounts.event
    · rw [times_verify_of_ne s userID hk]
      show Accounts _ _ _ _ (Function.update s.unnoted key (s.unnoted key + 1) key')
      rw [Function.update_of_ne hk]
      exact h.accounts key'
  · by_cases hk : key' = key
    · subst hk
      rw [times_verify_self]
      exact (h.within key').event haccounts hfree
    · rw [times_verify_of_ne s userID hk]
      exact h.within key'
  · rcases List.mem_append.1 hv with hv | hv <;> rcases List.mem_append.1 hw with hw | hw
    · exact h.oneKey v hv w hw huser
    · rw [List.mem_singleton.1 hw] at huser ⊢
      exact hkey v hv huser
    · rw [List.mem_singleton.1 hv] at huser ⊢
      exact (hkey w hw huser.symm).symm
    · rw [List.mem_singleton.1 hv, List.mem_singleton.1 hw]

theorem Accounted.bump (h : s.Accounted) (key : String) {noted : Nat} (hnoted : noted ≤ 1) :
    (s.bump key noted).Accounted := by
  refine ⟨fun key' => ?_, fun key' => ?_, h.oneKey⟩
  · show Accounts _ (Function.update s.counters key _ key') s.now (s.times key') (Function.update s.unnoted key _ key')
    by_cases hk : key' = key
    · subst hk
      rw [Function.update_self, Function.update_self]
      exact (h.accounts key').bump (by decide) (Nat.sub_le _ _) (by omega)
    · rw [Function.update_of_ne hk, Function.update_of_ne hk]
      exact h.accounts key'
  · show Within _ _ (Function.update s.counters key _ key') (s.times key')
    by_cases hk : key' = key
    · subst hk
      rw [Function.update_self]
      exact (h.within key').bump (h.accounts key') (by decide)
    · rw [Function.update_of_ne hk]
      exact h.within key'

theorem times_reset_self (s : LoginState) (key : String) : (s.reset key).times key = [] := by
  simp [times, reset, List.filter_filter]

theorem times_reset_of_ne (s : LoginState) {key key' : String} (hne : key' ≠ key) :
    (s.reset key).times key' = s.times key' := by
  simp only [times, reset, List.filter_filter]
  congr 1
  refine List.filter_congr fun v _ => ?_
  by_cases hv : v.key = key'
  · simp [hv, hne]
  · simp [hv]

theorem Accounted.reset (h : s.Accounted) (key : String) : (s.reset key).Accounted := by
  refine ⟨fun key' => ?_, fun key' => ?_, fun v hv w hw => ?_⟩
  · show Accounts _ (Function.update s.counters key none key') s.now _ (Function.update s.unnoted key _ key')
    by_cases hk : key' = key
    · subst hk
      rw [times_reset_self, Function.update_self, Function.update_self]
      have hsingle := (h.accounts key').single
      have hnone : s.unnoted key' - 1 = 0 := by omega
      rw [hnone]
      exact accounts_nil _ _ _
    · rw [times_reset_of_ne s hk, Function.update_of_ne hk, Function.update_of_ne hk]
      exact h.accounts key'
  · show Within _ _ (Function.update s.counters key none key') _
    by_cases hk : key' = key
    · subst hk
      rw [Function.update_self]
      exact fun k hc => by cases hc
    · rw [times_reset_of_ne s hk, Function.update_of_ne hk]
      exact h.within key'
  · exact h.oneKey v (List.mem_of_mem_filter hv) w (List.mem_of_mem_filter hw)

theorem Accounted.sweep (h : s.Accounted) : s.sweep.Accounted := by
  refine ⟨fun key => ?_, fun key k hk => ?_, h.oneKey⟩
  · cases hkept : s.sweep.counters key with
    | none =>
      refine (h.accounts key).drop fun k hk => ?_
      exact not_not.1 fun hlasts => Option.filter_eq_none_iff.1 hkept k hk (decide_eq_true hlasts)
    | some c =>
      have hc : s.counters key = some c := (Option.filter_eq_some_iff.1 hkept).1
      exact hc ▸ h.accounts key
  · exact h.within key k (Option.filter_eq_some_iff.1 hk).1

theorem Accounted.tick (h : s.Accounted) (d : Nat) : Accounted { s with now := s.now + d } :=
  ⟨fun key => (h.accounts key).tick d, h.within, h.oneKey⟩

structure Evolves (s s' : LoginState) : Prop where
  counts : ∀ key, s.counts key ≤ s'.counts key
  counters : ∀ key, s'.counts key = s.counts key → ∀ c, s'.counters key = some c → s.counters key = some c
  now : s.now ≤ s'.now

theorem evolves_of_eq (hcounts : s'.counts = s.counts) (hcounters : s'.counters = s.counters) (hnow : s.now ≤ s'.now) :
    Evolves s s' :=
  ⟨fun key => (congrFun hcounts key).ge, fun key _ _ hc => (congrFun hcounters key).symm.trans hc, hnow⟩

theorem Evolves.refl (s : LoginState) : Evolves s s := evolves_of_eq rfl rfl le_rfl

theorem Evolves.trans {s'' : LoginState} (h : Evolves s s') (h' : Evolves s' s'') : Evolves s s'' := by
  refine ⟨fun key => (h.counts key).trans (h'.counts key), fun key hcounts c hc => ?_, h.now.trans h'.now⟩
  have hsame : s'.counts key = s.counts key := le_antisymm (hcounts ▸ h'.counts key) (h.counts key)
  exact h.counters key hsame c (h'.counters key (hcounts.trans hsame.symm) c hc)

theorem evolves_bump (s : LoginState) (key : String) (noted : Nat) : Evolves s (s.bump key noted) := by
  refine ⟨fun key' => ?_, fun key' hcounts c hc => ?_, le_rfl⟩
  · by_cases hk : key' = key
    · subst hk
      simp [LoginState.bump]
    · simp [LoginState.bump, hk]
  · by_cases hk : key' = key
    · subst hk
      simp [LoginState.bump] at hcounts
    · simpa [LoginState.bump, hk] using hc

theorem evolves_reset (s : LoginState) (key : String) : Evolves s (s.reset key) := by
  refine ⟨fun _ => le_rfl, fun key' _ c hc => ?_, le_rfl⟩
  by_cases hk : key' = key
  · subst hk
    simp [LoginState.reset] at hc
  · simpa [LoginState.reset, hk] using hc

theorem evolves_sweep (s : LoginState) : Evolves s s.sweep :=
  ⟨fun _ => le_rfl, fun _ _ _ hc => (Option.filter_eq_some_iff.1 hc).1, le_rfl⟩

/-- The user's counter, as it was when there were `n` counts, did not lock. -/
def Unlocked (s : LoginState) (key : String) (n : Nat) : Prop :=
  n ≤ s.counts key ∧
    (n = s.counts key → ∀ c, s.counters key = some c → ¬ c.locked loginUserFailLimit loginFailWindow s.now)

theorem Unlocked.evolves {n : Nat} (h : s.Unlocked key n) (he : Evolves s s') : s'.Unlocked key n := by
  refine ⟨h.1.trans (he.counts key), fun hn c hc hlocked => ?_⟩
  have hle := he.counts key
  have hsame : n = s.counts key := le_antisymm h.1 (hn ▸ hle)
  have hc' := he.counters key (hn.symm.trans hsame) c hc
  exact h.2 hsame c hc' (Counter.locked_mono he.now hlocked)

/-- The user's counter, when there were `n` counts, was `c`. -/
def Saw (s : LoginState) (key : String) (n : Nat) (c : Counter) : Prop :=
  n ≤ s.counts key ∧ (n = s.counts key → ∀ c', s.counters key = some c' → c' = c)

theorem Saw.evolves {n : Nat} {c : Counter} (h : s.Saw key n c) (he : Evolves s s') : s'.Saw key n c := by
  refine ⟨h.1.trans (he.counts key), fun hn c' hc' => ?_⟩
  have hle := he.counts key
  have hsame : n = s.counts key := le_antisymm h.1 (hn ▸ hle)
  exact h.2 hsame c' (he.counters key (hn.symm.trans hsame) c' hc')

theorem Saw.unlocked {n : Nat} {c : Counter} (h : s.Saw key n c)
    (hc : c.locked loginUserFailLimit loginFailWindow s.now = false) : s.Unlocked key n := by
  refine ⟨h.1, fun hn c' hc' => ?_⟩
  rw [h.2 hn c' hc', hc]
  exact Bool.false_ne_true

end LoginState

/-! What an attempt has found, whatever the others do. -/

/-- When a password is verified: nothing has been counted under the user key since the
attempt read its counter, no other attempt under the key has verified a password without
being noted, and the account's password was not verified under another key. -/
def OneAtATime : LoginStmt → LoginState → Prop
  | .verify userID key seen, s =>
    seen = some (s.counts key) ∧ s.unnoted key = 0 ∧ ∀ v ∈ s.log, v.userID = userID → v.key = key
  | _, _ => True

instance (q : LoginStmt) (s : LoginState) : Decidable (OneAtATime q s) := by
  cases q <;> unfold OneAtATime <;> infer_instance

/-- The counter of the user key was found unlocked. -/
def Passed (key : String) (seen : Option Nat) : Prop := ∃ n, seen = some n ∧ s.Unlocked key n

/-- An attempt owns nothing; it verifies a password after the counter was found unlocked. -/
def attempting : Discipline LoginState loginSig LoginError Empty where
  take _ _ v := v
  owned _ _ := False
  rely _ := LoginState.Evolves
  pre
    | _, .verify _ key seen, s => Passed s key seen
    | _, .bump _ noted, _ => noted ≤ 1
    | _, _, _ => True

theorem login_keeps {v : Option Empty} {s : LoginState} (q : LoginStmt) (h : s.Accounted) (hpre : attempting.pre v q s)
    (hok : OneAtATime q s) : (q.sem.exec s).Accounted ∧ s.Evolves (q.sem.exec s) := by
  cases q with
  | get key => exact ⟨h, .refl s⟩
  | clock => exact ⟨h, .refl s⟩
  | getUser identifier => exact ⟨h, .refl s⟩
  | verify userID key seen =>
    obtain ⟨n, hn, hunlocked⟩ := hpre
    obtain ⟨hseen, hnoted, hkey⟩ := hok
    have hfree := hunlocked.2 (Option.some.inj (hn.symm.trans hseen))
    exact ⟨h.verify hnoted hfree hkey, LoginState.evolves_of_eq rfl rfl le_rfl⟩
  | bump key noted => exact ⟨h.bump key hpre, s.evolves_bump key noted⟩
  | reset key => exact ⟨h.reset key, s.evolves_reset key⟩
  | sweep => exact ⟨h.sweep, s.evolves_sweep⟩
  | setUsers users => exact ⟨⟨h.accounts, h.within, h.oneKey⟩, LoginState.evolves_of_eq rfl rfl le_rfl⟩
  | tick d =>
    exact ⟨h.tick d, LoginState.evolves_of_eq rfl rfl (Int.le_add_of_nonneg_right (Int.natCast_nonneg d))⟩

section Attempts

variable (toLower : String → String) (bcrypt : (password hash : String) → Bool)

theorem attempting_sound :
    attempting.Sound (loginSystem toLower bcrypt) LoginState.Accounted OneAtATime fun _ _ => False where
  refl _ := .refl
  trans _ _ _ _ h h' := h.trans h'
  owned k _ _ _ _ := k.elim
  inv q _ _ h hpre _ hok _ := (login_keeps q h hpre hok).1
  take _ _ _ k _ _ _ _ _ _ := k.elim
  others q _ _ _ h hpre _ hok _ := (login_keeps q h hpre hok).2
  need _ _ _ _ _ _ _ _ hk := hk.elim

abbrev SafeAttempt : LoginState → Login.LoginM (Option Int) → Prop :=
  attempting.Safe (loginSystem toLower bcrypt) LoginState.Accounted OneAtATime (fun _ _ _ => True) none

variable {s : LoginState} {seen : Option Nat}

theorem safe_noteLoginFailure (a : Attempt) {noted : Nat} (err : LoginError) (h : noted ≤ 1) :
    SafeAttempt toLower bcrypt s (Login.noteLoginFailure toLower a noted err) :=
  fun _ _ _ => ⟨h, fun _ _ _ _ _ => ⟨Nat.zero_le 1, fun _ _ => trivial⟩⟩

theorem safe_found (a : Attempt) (user : UserRow) (h : Passed s (Login.loginUserKey toLower a.username) seen) :
    SafeAttempt toLower bcrypt s (Login.found toLower bcrypt a seen user) := by
  rw [Login.found]
  split
  · exact safe_noteLoginFailure toLower bcrypt a _ (Nat.zero_le 1)
  split
  · exact safe_noteLoginFailure toLower bcrypt a _ (Nat.zero_le 1)
  · obtain ⟨n, hn, hunlocked⟩ := h
    refine fun s₁ h₁ _ => ⟨⟨n, hn, hunlocked.evolves h₁⟩, fun _ _ => ?_⟩
    rw [Login.verified]
    split
    · exact fun _ _ _ => ⟨trivial, fun _ _ _ _ _ => ⟨trivial, fun _ _ => trivial⟩⟩
    · exact safe_noteLoginFailure toLower bcrypt a _ le_rfl

theorem safe_decision {limit : Nat} {c : Counter} {next : Login.LoginM (Option Int)}
    (h : ∀ s', s.Evolves s' → c.locked limit loginFailWindow s'.now = false → SafeAttempt toLower bcrypt s' next) :
    SafeAttempt toLower bcrypt s (Login.decision limit c next) := by
  refine fun s₁ h₁ _ => ⟨trivial, fun _ _ => ?_⟩
  show SafeAttempt toLower bcrypt s₁ (if (throttleDecision c.count c.start limit loginFailWindow s₁.now).2 then _ else next)
  rw [throttleDecision_locked]
  split
  · trivial
  next hunlocked => exact h s₁ h₁ (Bool.eq_false_of_not_eq_true hunlocked)

/-- The user's counter is still to be read, with its limit, or was unlocked. -/
theorem safe_loginLocked (a : Attempt) (keys : List (String × Nat))
    (hlimits : ∀ k ∈ keys, k.1 = Login.loginUserKey toLower a.username → k.2 = loginUserFailLimit)
    (h : Login.loginUserKey toLower a.username ∈ keys.map Prod.fst ∨
      Passed s (Login.loginUserKey toLower a.username) seen) :
    SafeAttempt toLower bcrypt s (Login.loginLocked toLower bcrypt a keys seen) := by
  induction keys generalizing s seen with
  | nil =>
    obtain ⟨n, hn, hunlocked⟩ := h.resolve_left List.not_mem_nil
    refine fun s₁ h₁ _ => ⟨trivial, fun _ _ => ?_⟩
    have hpassed : Passed s₁ (Login.loginUserKey toLower a.username) seen := ⟨n, hn, hunlocked.evolves h₁⟩
    show SafeAttempt toLower bcrypt s₁ (match s₁.getUserForAuth a.username with
      | none => Login.noteLoginFailure toLower a 0 Login.invalidCredentials
      | some user => Login.found toLower bcrypt a seen user)
    split
    · exact safe_noteLoginFailure toLower bcrypt a _ (Nat.zero_le 1)
    · exact safe_found toLower bcrypt a _ hpassed
  | cons k rest ih =>
    obtain ⟨key, limit⟩ := k
    have hrest := (List.forall_mem_cons.1 hlimits).2
    refine Discipline.safe_exec (fun _ _ _ => trivial) fun s₁ r s₂ h₁ _ _ _ hrun => ?_
    cases hrun
    show SafeAttempt toLower bcrypt s₁ (match (s₁.counters key, s₁.counts key) with
      | (none, counts) => Login.loginLocked toLower bcrypt a rest (Login.note toLower a key counts seen)
      | (some c, counts) =>
        Login.decision limit c (Login.loginLocked toLower bcrypt a rest (Login.note toLower a key counts seen)))
    by_cases hkey : key = Login.loginUserKey toLower a.username
    · have hnote : Login.note toLower a key (s₁.counts key) seen = some (s₁.counts key) := if_pos hkey
      have hlimit : limit = loginUserFailLimit := hlimits _ List.mem_cons_self hkey
      subst hkey
      cases hc : s₁.counters (Login.loginUserKey toLower a.username) with
      | none =>
        refine ih hrest (.inr ⟨_, hnote, le_rfl, fun _ c hc' => ?_⟩)
        cases hc.symm.trans hc'
      | some c =>
        have hsaw : s₁.Saw (Login.loginUserKey toLower a.username) (s₁.counts _) c :=
          ⟨le_rfl, fun _ c' hc' => Option.some.inj (hc'.symm.trans hc)⟩
        refine safe_decision toLower bcrypt fun s₂ h₂ hunlocked => ih hrest (.inr ⟨_, hnote, ?_⟩)
        exact (hsaw.evolves h₂).unlocked (hlimit ▸ hunlocked)
    · have hnote : Login.note toLower a key (s₁.counts key) seen = seen := if_neg hkey
      have hlater (s₂ : LoginState) (h₂ : s.Evolves s₂) : SafeAttempt toLower bcrypt s₂
          (Login.loginLocked toLower bcrypt a rest (Login.note toLower a key (s₁.counts key) seen)) := by
        rw [hnote]
        refine ih hrest (h.imp (fun hmem => ?_) fun ⟨n, hn, hunlocked⟩ => ⟨n, hn, hunlocked.evolves h₂⟩)
        exact (List.mem_cons.1 hmem).resolve_left fun heq => hkey heq.symm
      cases hc : s₁.counters key with
      | none => exact hlater s₁ h₁
      | some c => exact safe_decision toLower bcrypt fun s₂ h₂ _ => hlater s₂ (h₁.trans h₂)

theorem loginIPKey_ne_loginUserKey (username ip : String) : Login.loginIPKey ip ≠ Login.loginUserKey toLower username := by
  intro h
  have hchars := congrArg String.toList h
  simp [Login.loginIPKey, Login.loginUserKey] at hchars

theorem safe_handleLogin (s : LoginState) (a : Attempt) :
    SafeAttempt toLower bcrypt s (Login.handleLogin toLower bcrypt a) := by
  rw [Login.handleLogin]
  split
  · trivial
  · have hne := loginIPKey_ne_loginUserKey toLower a.username a.ip
    refine safe_loginLocked toLower bcrypt a _ (fun k hk heq => ?_) (.inl ?_)
    · rw [Login.keys] at hk
      split at hk <;> simp only [List.mem_cons, List.not_mem_nil, or_false] at hk
      · rcases hk with rfl | rfl
        · exact absurd heq hne
        · rfl
      · rcases hk with rfl | rfl
        · rfl
        · exact absurd heq hne
    · rw [Login.keys]
      split <;> simp

/-- If whenever a password is verified the attempts under the user key do not overlap and the account's
password was not verified under another key since, then no window of a counter has more verifications of
one account's password than the limit at which the counter locks. -/
theorem verifications_limited (toLower : String → String) (bcrypt : (password hash : String) → Bool)
    (users : Table UserRow) (counters : String → Option Counter) (now : Int) (es : List (Event LoginCall))
    (h : Transition.Along (loginSystem toLower bcrypt).step ((loginSystem toLower bcrypt).Meets OneAtATime)
      (.init (.init users counters now)) es) :
    ∀ st ∈ Transition.states (loginSystem toLower bcrypt).step (.init (.init users counters now)) es,
      st.store.Limited := by
  intro st hst
  refine LoginState.Accounted.limited ((attempting_sound toLower bcrypt).forall_safe (Q := fun _ _ _ => True)
    (fun _ _ _ _ _ _ => trivial) (fun c s => ?_) (LoginState.accounted_init users counters now) (fun _ => id) h st hst).1
  cases c with
  | handleLogin a => exact safe_handleLogin toLower bcrypt s a
  | setUsers users => exact fun _ _ _ => ⟨trivial, fun _ _ => trivial⟩
  | tick d => exact fun _ _ _ => ⟨trivial, fun _ _ => trivial⟩

end Attempts

def passwordUser : Table UserRow :=
  .ofRows [⟨7, "ana", "ana@example.com", "Ana", "", "", "active", "right", false⟩] 8 (by decide)

abbrev plainLogins : System LoginState loginSig LoginError (Option Int) LoginCall :=
  loginSystem (fun s => String.ofList (s.toList.map Char.toLower)) fun password hash => password = hash

def guess (identifier : String) : Event LoginCall := .call (.handleLogin ⟨identifier, "guess", "192.0.2.1", false, none⟩)

def guessAlone (identifier : String) (n : Nat) : List (Event LoginCall) := guess identifier :: List.replicate 8 (.step n)

theorem sixth_guess_refused :
    let es := (List.range 6).flatMap (guessAlone "ana")
    let start : Pool LoginState loginSig LoginError (Option Int) := .init (.init passwordUser (fun _ => none) 0)
    Transition.Along plainLogins.step (plainLogins.Meets OneAtATime) start es ∧
      (∀ st ∈ Transition.states plainLogins.step start es, st.store.Limited) ∧
      (Transition.run plainLogins.step start es).store.log.length = 5 := by
  have halong : Transition.Along plainLogins.step (plainLogins.Meets OneAtATime)
      (.init (.init passwordUser (fun _ => none) 0)) ((List.range 6).flatMap (guessAlone "ana")) := by
    decide
  exact ⟨halong, verifications_limited _ _ passwordUser (fun _ => none) 0 _ halong, by decide +kernel⟩

/-- Five guesses for the user name and one for the email address, one after the other;
and six for the user name that all read the counter before the first failure is counted. -/
theorem verifications_exceed :
    let start : Pool LoginState loginSig LoginError (Option Int) := .init (.init passwordUser (fun _ => none) 0)
    let twoNames := Transition.run plainLogins.step start
      ((List.range 5).flatMap (guessAlone "ana") ++ guessAlone "ana@example.com" 5)
    let together := Transition.run plainLogins.step start
      (List.replicate 6 (guess "ana") ++ (List.replicate 8 ((List.range 6).map Event.step)).flatten)
    twoNames.store.log = List.replicate 5 ⟨7, "u:ana", 0⟩ ++ [⟨7, "u:ana@example.com", 0⟩] ∧
      ¬ twoNames.store.Limited ∧
      together.store.log = List.replicate 6 ⟨7, "u:ana", 0⟩ ∧ ¬ together.store.Limited := by
  decide +kernel

end Vraxel.Oidc
