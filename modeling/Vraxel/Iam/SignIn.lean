import Vraxel.Lib.Run
import Vraxel.Iam.Registration
/-
  Who can sign in to an account. A registration is made by whoever knows the password; its email is
  any string.
-/

namespace Vraxel.Iam

open Relational Api Db Txn Transition

variable {Principal : Type}

structure Owners (Principal : Type) where
  subject : (provider subject : String) → Principal
  email : String → Principal

/-- A social sign-in: the provider has verified the email it passes on. -/
structure SocialCall (own : Owners Principal) where
  input : SocialLoginInput
  verified : input.email ≠ "" → own.email input.email = own.subject input.provider input.subject

def SocialCall.principal {own : Owners Principal} (c : SocialCall own) : Principal :=
  own.subject c.input.provider c.input.subject

inductive ProvisionCall (own : Owners Principal) where
  | registerLocal (principal : Principal) (input : RegisterLocalInput)
  | findOrCreateSocial (call : SocialCall own)

/-- A principal knows the password with this hash, set for a user. -/
structure Password (Principal : Type) where
  principal : Principal
  userID : Int
  hash : String

structure SignInState (Principal : Type) where
  db : DB
  passwords : List (Password Principal)
  returned : List UserRow

def SignInState.init (db : DB) : SignInState Principal := ⟨db, [], []⟩

variable (own : Owners Principal)

def signInStep (st : SignInState Principal) : ProvisionCall own → SignInState Principal
  | .registerLocal p input =>
    match (registerLocal input).run st.db with
    | (.ok row, db') => ⟨db', ⟨p, row.id, input.passwordHash⟩ :: st.passwords, row :: st.returned⟩
    | (.error _, db') => { st with db := db' }
  | .findOrCreateSocial c =>
    match (findOrCreateSocial c.input).run st.db with
    | (.ok row, db') => ⟨db', st.passwords, row :: st.returned⟩
    | (.error _, db') => { st with db := db' }

def identityOwner (i : UserIdentityRow) : Principal := own.subject i.provider i.providerSubject

/-- The principal can sign in to the user's account: with the password whose hash
the account holds, or through an identity linked to it. -/
def CanSignIn (st : SignInState Principal) (p : Principal) (userID : Int) : Prop :=
  (∃ pw ∈ st.passwords, pw.principal = p ∧ pw.userID = userID ∧
      ∃ u ∈ st.db.users, u.id = userID ∧ u.passwordHash = pw.hash) ∨
    ∃ i ∈ st.db.userIdentities, i.userID = userID ∧ identityOwner own i = p

instance [DecidableEq Principal] (st : SignInState Principal) (p : Principal) (userID : Int) :
    Decidable (CanSignIn own st p userID) :=
  inferInstanceAs (Decidable ((∃ pw ∈ st.passwords, pw.principal = p ∧ pw.userID = userID ∧
      ∃ u ∈ st.db.users, u.id = userID ∧ u.passwordHash = pw.hash) ∨
    ∃ i ∈ st.db.userIdentities, i.userID = userID ∧ identityOwner own i = p))

def Unshared (st : SignInState Principal) : Prop :=
  ∀ u p q, CanSignIn own st p u → CanSignIn own st q u → p = q

def BuiltinsUnlinked (st : SignInState Principal) : Prop :=
  ∀ i ∈ st.db.userIdentities, ∀ u ∈ st.db.users, u.id = i.userID → u.builtin = false

def ReturnedActive (st : SignInState Principal) : Prop := ∀ u ∈ st.returned, u.status = "active"

/-- The condition on a call: an account it newly links by email was registered
with a password by nobody else than the caller. -/
def LinksOwn (st : SignInState Principal) : ProvisionCall own → Prop
  | .registerLocal .. => True
  | .findOrCreateSocial c =>
    ∀ u, linksTo st.db c.input = some u → ∀ pw ∈ st.passwords, pw.userID = u.id → pw.principal = c.principal

structure SignInSound (st : SignInState Principal) : Prop where
  passwordLive : ∀ pw ∈ st.passwords, ∃ u ∈ st.db.users, u.id = pw.userID ∧ u.passwordHash = pw.hash
  passwordUnique : ∀ pw ∈ st.passwords, ∀ pw' ∈ st.passwords,
    pw.userID = pw'.userID → pw.principal = pw'.principal
  identityUser : ∀ i ∈ st.db.userIdentities, ∃ u ∈ st.db.users, u.id = i.userID ∧ u.builtin = false ∧
    (u.email ≠ "" → own.email u.email = identityOwner own i)
  identitiesAgree : ∀ i ∈ st.db.userIdentities, ∀ j ∈ st.db.userIdentities,
    i.userID = j.userID → identityOwner own i = identityOwner own j
  returnedActive : ReturnedActive st

/-- Whoever knows an account's password owns the identities linked to it. -/
def Mixed (st : SignInState Principal) : Prop :=
  ∀ pw ∈ st.passwords, ∀ i ∈ st.db.userIdentities, i.userID = pw.userID →
    pw.principal = identityOwner own i

variable {own} {st : SignInState Principal}

theorem unshared_iff (h : SignInSound own st) : Unshared own st ↔ Mixed own st := by
  constructor
  · intro hun pw hpw i hi hid
    obtain ⟨u, hu, huid, hhash⟩ := h.passwordLive pw hpw
    exact hun pw.userID _ _ (.inl ⟨pw, hpw, rfl, rfl, u, hu, huid, hhash⟩) (.inr ⟨i, hi, hid, rfl⟩)
  · rintro hmix u p q (⟨pw, hpw, rfl, hpu, -⟩ | ⟨i, hi, hiu, rfl⟩) (⟨pw', hpw', rfl, hpu', -⟩ | ⟨j, hj, hju, rfl⟩)
    · exact h.passwordUnique pw hpw pw' hpw' (hpu.trans hpu'.symm)
    · exact hmix pw hpw j hj (hju.trans hpu.symm)
    · exact (hmix pw' hpw' i hi (hiu.trans hpu'.symm)).symm
    · exact h.identitiesAgree i hi j hj (hiu.trans hju.symm)

theorem builtinsUnlinked (h : SignInSound own st) : BuiltinsUnlinked st := by
  intro i hi u hu hid
  obtain ⟨v, hv, hvid, hvb, -⟩ := h.identityUser i hi
  rw [Table.eq_of_key_eq _ hu hv (hid.trans hvid.symm)]
  exact hvb

theorem signInSound_init {db : DB} (hunlinked : ∀ i, i ∉ db.userIdentities) :
    SignInSound own (.init db) where
  passwordLive _ h := absurd h List.not_mem_nil
  passwordUnique _ h := absurd h List.not_mem_nil
  identityUser i h := absurd h (hunlinked i)
  identitiesAgree i h := absurd h (hunlinked i)
  returnedActive _ h := absurd h List.not_mem_nil

theorem run_registerLocal_error {input : RegisterLocalInput} {db db' : DB} {e : Err}
    (h : (registerLocal input).run db = (.error e, db')) : db' = db := atomically_error h

theorem run_findOrCreateSocial_error {input : SocialLoginInput} {db db' : DB} {e : Err}
    (h : (findOrCreateSocial input).run db = (.error e, db')) : db' = db := atomically_error h

theorem identity_userID_ne_next (h : SignInSound own st) {i : UserIdentityRow}
    (hi : i ∈ st.db.userIdentities) : i.userID ≠ st.db.users.next := by
  obtain ⟨u, hu, hid, -⟩ := h.identityUser i hi
  rw [← hid]
  exact Table.key_ne_next hu

theorem password_userID_ne_next (h : SignInSound own st) {pw : Password Principal}
    (hpw : pw ∈ st.passwords) : pw.userID ≠ st.db.users.next := by
  obtain ⟨u, hu, hid, -⟩ := h.passwordLive pw hpw
  rw [← hid]
  exact Table.key_ne_next hu

theorem signInSound_registered (h : SignInSound own st) {p : Principal} {input : RegisterLocalInput}
    {row : UserRow} {db' : DB} (hrun : (registerLocal input).run st.db = (.ok row, db')) :
    SignInSound own ⟨db', ⟨p, row.id, input.passwordHash⟩ :: st.passwords, row :: st.returned⟩ := by
  obtain ⟨hid, -, hactive, hidents, husers⟩ := registerLocal_ok hrun
  have hold {pw : Password Principal} (hpw : pw ∈ st.passwords) : pw.userID ≠ row.id :=
    hid ▸ password_userID_ne_next h hpw
  constructor
  case passwordLive =>
    intro pw hpw
    rcases List.mem_cons.1 hpw with rfl | hpw
    · exact ⟨_, (husers _).2 (.inr rfl), rfl, rfl⟩
    · obtain ⟨u, hu, huid, hhash⟩ := h.passwordLive pw hpw
      exact ⟨u, (husers u).2 (.inl hu), huid, hhash⟩
  case passwordUnique =>
    intro pw hpw pw' hpw' heq
    rcases List.mem_cons.1 hpw with rfl | hpw <;> rcases List.mem_cons.1 hpw' with rfl | hpw'
    · rfl
    · exact absurd heq.symm (hold hpw')
    · exact absurd heq (hold hpw)
    · exact h.passwordUnique pw hpw pw' hpw' heq
  case identityUser =>
    intro i hi
    obtain ⟨u, hu, hrest⟩ := h.identityUser i (hidents ▸ hi)
    exact ⟨u, (husers u).2 (.inl hu), hrest⟩
  case identitiesAgree =>
    intro i hi j hj
    exact h.identitiesAgree i (hidents ▸ hi) j (hidents ▸ hj)
  case returnedActive => exact List.forall_mem_cons.2 ⟨hactive, h.returnedActive⟩

/-- Linking keeps the identities of an account together: the account's other
identities belong to the owner of its email, who is the caller. -/
theorem signInSound_linked (h : SignInSound own st) (c : SocialCall own) {row : UserRow}
    (hlinks : linksTo st.db c.input = some row) :
    SignInSound own ⟨{ st.db with userIdentities := st.db.userIdentities.insert (c.input.identity row.id) },
      st.passwords, row :: st.returned⟩ := by
  obtain ⟨-, hemail, hfind, hb, hactive, -⟩ := linksTo_eq_some_iff.1 hlinks
  obtain ⟨hrow, hmail⟩ := Table.find?_some hfind
  have hmail : row.email = c.input.email := by simpa using hmail
  have howner {i : UserIdentityRow} (hi : i ∈ st.db.userIdentities) (hid : i.userID = row.id) :
      identityOwner own i = c.principal := by
    obtain ⟨u, hu, huid, -, hue⟩ := h.identityUser i hi
    obtain rfl : u = row := Table.eq_of_key_eq _ hu hrow (huid.trans hid)
    rw [← hue (hmail ▸ hemail), hmail]
    exact c.verified hemail
  constructor
  case passwordLive => exact h.passwordLive
  case passwordUnique => exact h.passwordUnique
  case identityUser =>
    intro i hi
    rcases Table.mem_insert.1 hi with hi | rfl
    · exact h.identityUser i hi
    · exact ⟨row, hrow, rfl, hb, fun _ => hmail ▸ c.verified hemail⟩
  case identitiesAgree =>
    intro i hi j hj heq
    rcases Table.mem_insert.1 hi with hi | rfl <;> rcases Table.mem_insert.1 hj with hj | rfl
    · exact h.identitiesAgree i hi j hj heq
    · exact howner hi heq
    · exact (howner hj heq.symm).symm
    · rfl
  case returnedActive => exact List.forall_mem_cons.2 ⟨hactive, h.returnedActive⟩

theorem signInSound_created (h : SignInSound own st) (c : SocialCall own) {p : CreateUserParams}
    {db' : DB} (hemail : p.email = c.input.email) (hactive : p.status = "active")
    (husers : db'.users = st.db.users.insert p.row)
    (hidents : db'.userIdentities =
      st.db.userIdentities.insert (c.input.identity (st.db.users.inserted p.row).id)) :
    SignInSound own ⟨db', st.passwords, st.db.users.inserted p.row :: st.returned⟩ := by
  have hmem {u : UserRow} (hu : u ∈ st.db.users) : u ∈ db'.users := by
    rw [husers]
    exact Table.mem_insert.2 (.inl hu)
  have hnew : st.db.users.inserted p.row ∈ db'.users := by
    rw [husers]
    exact Table.mem_insert.2 (.inr rfl)
  constructor
  case passwordLive =>
    intro pw hpw
    obtain ⟨u, hu, hrest⟩ := h.passwordLive pw hpw
    exact ⟨u, hmem hu, hrest⟩
  case passwordUnique => exact h.passwordUnique
  case identityUser =>
    intro i hi
    rw [hidents] at hi
    rcases Table.mem_insert.1 hi with hi | rfl
    · obtain ⟨u, hu, hrest⟩ := h.identityUser i hi
      exact ⟨u, hmem hu, hrest⟩
    · exact ⟨_, hnew, rfl, rfl, fun hne => (congrArg own.email hemail).trans (c.verified (hemail ▸ hne))⟩
  case identitiesAgree =>
    intro i hi j hj heq
    rw [hidents] at hi hj
    rcases Table.mem_insert.1 hi with hi | rfl <;> rcases Table.mem_insert.1 hj with hj | rfl
    · exact h.identitiesAgree i hi j hj heq
    · exact absurd heq (identity_userID_ne_next h hi)
    · exact absurd heq.symm (identity_userID_ne_next h hj)
    · rfl
  case returnedActive => exact List.forall_mem_cons.2 ⟨hactive, h.returnedActive⟩

theorem signInSound_step (st : SignInState Principal) (call : ProvisionCall own) (h : SignInSound own st) :
    SignInSound own (signInStep own st call) := by
  cases call with
  | registerLocal p input =>
    rw [signInStep]
    split
    next hrun => exact signInSound_registered h hrun
    next hrun => rwa [run_registerLocal_error hrun]
  | findOrCreateSocial c =>
    rw [signInStep]
    split
    next row db' hrun =>
      cases findOrCreateSocial_ok hrun with
      | signedIn ident hident _ _ hactive hdb =>
        subst hdb
        exact ⟨h.passwordLive, h.passwordUnique, h.identityUser, h.identitiesAgree,
          List.forall_mem_cons.2 ⟨hactive, h.returnedActive⟩⟩
      | linked hlinks hdb =>
        subst hdb
        exact signInSound_linked h c hlinks
      | created p hemail hactive hrow husers hidents =>
        subst hrow
        exact signInSound_created h c hemail hactive husers hidents
    next hrun => rwa [run_findOrCreateSocial_error hrun]

/-- A new identity for the account `userID` keeps password holders and identity
owners together exactly if the account's password, if any, is its owner's. -/
theorem mixed_insert_iff (hmix : Mixed own st) (st' : SignInState Principal) (i : UserIdentityRow)
    (hpasswords : st'.passwords = st.passwords)
    (hidents : st'.db.userIdentities = st.db.userIdentities.insert i) :
    Mixed own st' ↔ ∀ pw ∈ st.passwords, pw.userID = i.userID → pw.principal = identityOwner own i := by
  rw [Mixed, hpasswords, hidents]
  constructor
  · intro h pw hpw hid
    exact h pw hpw (st.db.userIdentities.inserted i) (Table.mem_insert.2 (.inr rfl)) hid.symm
  · intro h pw hpw j hj hid
    rcases Table.mem_insert.1 hj with hj | rfl
    · exact hmix pw hpw j hj hid
    · exact h pw hpw hid.symm

/-- One call keeps password holders and identity owners together exactly if it
links no account that somebody else registered. -/
theorem mixed_step_iff (st : SignInState Principal) (call : ProvisionCall own) (h : SignInSound own st)
    (hmix : Mixed own st) : Mixed own (signInStep own st call) ↔ LinksOwn own st call := by
  cases call with
  | registerLocal p input =>
    refine iff_of_true ?_ trivial
    rw [signInStep]
    split
    next row db' hrun =>
      obtain ⟨hid, -, -, hidents, -⟩ := registerLocal_ok hrun
      intro pw hpw i hi heq
      replace hi : i ∈ st.db.userIdentities := hidents ▸ hi
      rcases List.mem_cons.1 hpw with rfl | hpw
      · exact absurd (heq.trans hid) (identity_userID_ne_next h hi)
      · exact hmix pw hpw i hi heq
    next hrun => rwa [run_registerLocal_error hrun]
  | findOrCreateSocial c =>
    cases hlinks : linksTo st.db c.input with
    | some u =>
      have hnew := mixed_insert_iff hmix (signInStep own st (.findOrCreateSocial c)) (c.input.identity u.id)
        (by simp [signInStep, findOrCreateSocial_of_linksTo hlinks])
        (by simp [signInStep, findOrCreateSocial_of_linksTo hlinks])
      rw [hnew, LinksOwn, hlinks]
      simp only [Option.some.injEq, forall_eq']
      rfl
    | none =>
      have hcond : LinksOwn own st (.findOrCreateSocial c) := by
        intro u hu
        rw [hlinks] at hu
        cases hu
      refine iff_of_true ?_ hcond
      rw [signInStep]
      split
      next row db' hrun =>
        cases findOrCreateSocial_ok hrun with
        | signedIn _ _ _ _ _ hdb =>
          subst hdb
          exact hmix
        | linked hlinks' _ =>
          rw [hlinks] at hlinks'
          cases hlinks'
        | created p _ _ hrow husers hidents =>
          subst hrow
          refine (mixed_insert_iff hmix ⟨db', _, _⟩ _ rfl hidents).2 fun pw hpw hid => ?_
          exact absurd hid (password_userID_ne_next h hpw)
      next hrun => rwa [run_findOrCreateSocial_error hrun]

/-- From a database of built-in users: every account stays with one principal, built-in users get no
identity and every user returned is active, exactly if no call links an account that somebody else
registered. -/
theorem accounts_unshared_iff (own : Owners Principal) (db : DB) (hunlinked : ∀ i, i ∉ db.userIdentities)
    (calls : List (ProvisionCall own)) :
    (∀ st ∈ states (signInStep own) (.init db) calls,
        Unshared own st ∧ BuiltinsUnlinked st ∧ ReturnedActive st) ↔
      Along (signInStep own) (LinksOwn own) (.init db) calls := by
  have hinit : SignInSound own (.init db) := signInSound_init hunlinked
  have hsound := forall_states_of_step signInSound_step hinit calls
  have hmix : Mixed own (.init db) := fun pw hpw => absurd hpw List.not_mem_nil
  rw [← forall_states_iff signInSound_step mixed_step_iff hinit hmix calls]
  refine forall₂_congr fun st hst => ?_
  rw [unshared_iff (hsound st hst)]
  exact ⟨fun h => h.1, fun h => ⟨h, builtinsUnlinked (hsound st hst), (hsound st hst).returnedActive⟩⟩

/-! Two principals and one mailbox. -/

inductive Person where
  | alice
  | mallory
  deriving DecidableEq

def aliceOwns : Owners Person := ⟨fun _ _ => .alice, fun _ => .alice⟩

def seeded : DB :=
  { DB.empty with
    users := .ofRows [⟨1, "admin", "admin@vraxel.io", "", "", "", "active", "h0", true⟩] 2 (by decide)
    roles := .ofRows [.platformBuiltin 1 "platform-viewer"] 2 (by decide) }

def malloryRegisters : ProvisionCall aliceOwns :=
  .registerLocal .mallory ⟨"mallory", "alice@vraxel.io", "Mallory", "h1", "platform-viewer"⟩

def aliceLogin : SocialLoginInput :=
  ⟨"github", "42", "alice@vraxel.io", "github_42", "Alice", "", "platform-viewer", true⟩

def aliceSignsIn : ProvisionCall aliceOwns := .findOrCreateSocial ⟨aliceLogin, fun _ => rfl⟩

/-- Alice's first sign-in is linked to the account Mallory registered, and both can
sign in to it from then on. -/
theorem preregistered_email_shares_account :
    let st := run (signInStep aliceOwns) (.init seeded) [malloryRegisters, aliceSignsIn]
    CanSignIn aliceOwns st .mallory 2 ∧ CanSignIn aliceOwns st .alice 2 ∧ ¬ Unshared aliceOwns st := by
  intro st
  have hmallory : CanSignIn aliceOwns st .mallory 2 := by decide
  have halice : CanSignIn aliceOwns st .alice 2 := by decide
  exact ⟨hmallory, halice, fun h => Person.noConfusion (h 2 _ _ hmallory halice)⟩

theorem unshared_if_owner_first :
    seeded.userIdentities.rows = [] ∧
      ∀ st ∈ states (signInStep aliceOwns) (.init seeded) [aliceSignsIn, malloryRegisters],
        Unshared aliceOwns st ∧ BuiltinsUnlinked st ∧ ReturnedActive st := by
  have hnone : linksTo seeded aliceLogin = none := by decide
  refine ⟨rfl, (accounts_unshared_iff aliceOwns seeded (fun _ => Table.not_mem_empty _) _).2
    ⟨fun u hu => ?_, trivial, trivial⟩⟩
  cases hnone.symm.trans hu

end Vraxel.Iam
