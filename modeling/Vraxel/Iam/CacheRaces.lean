import Vraxel.Lib.Rely
import Vraxel.Db.RoleBindings
import Vraxel.Iam.Checker
/-
  The permission cache under concurrent checks, rule changes and invalidations. Each access to the
  cache map, to the group of loads in flight, to the clock and to the database is a statement.
-/

namespace Vraxel.Iam

open Relational Db Txn Strconv Interleave

/-- An entry, and the number of commits before its rules were read. -/
structure Stamped where
  entry : UserPermissionEntry
  readAt : Nat

structure StampedEntry extends CacheEntry where
  readAt : Nat

/-- A call of the group: its user, when it has read the rules, and its result. -/
structure Flight where
  userID : Int
  readAt : Option Nat
  result : Option (Except String Stamped)

/-- The database and its earlier versions, the clock, the cache and the group. -/
structure RbacState where
  db : DB
  past : List DB
  now : Int
  cache : List (Int × StampedEntry)
  calls : List Flight
  inflight : Int → Option Nat
  dropped : Int → Nat
  returned : Int → Nat

variable (s : RbacState)

namespace RbacState

def init (db : DB) (now : Int) : RbacState := ⟨db, [], now, [], [], fun _ => none, fun _ => 0, fun _ => 0⟩

/-- Every version of the database: number `k` is the one after `k` commits. -/
def history : List DB := s.past ++ [s.db]

def commits : Nat := s.past.length

/-- The entry is the one of the user in the version in which it was read. -/
def Read (userID : Int) (e : Stamped) : Prop :=
  ∃ db, s.history[e.readAt]? = some db ∧ e.entry = loadUserEntry db userID

def store (userID : Int) (e : StampedEntry) : RbacState :=
  { s with cache := (userID, e) :: s.cache }

def join (userID : Int) : RbacState :=
  { s with
    calls := s.calls ++ [⟨userID, none, none⟩]
    inflight := Function.update s.inflight userID (some s.calls.length) }

def load (call : Nat) : RbacState :=
  { s with calls := s.calls.modify call fun f => { f with readAt := some s.commits } }

def finish (call : Nat) (userID : Int) (r : Except String Stamped) : RbacState :=
  { s with
    calls := s.calls.modify call fun f => { f with result := some r }
    inflight := if s.inflight userID = some call then Function.update s.inflight userID none else s.inflight }

def drop (userID : Int) (commits : Nat) : RbacState :=
  { s with
    cache := s.cache.filter fun p => p.1 != userID
    dropped := Function.update s.dropped userID (max (s.dropped userID) commits) }

def setReturned (userID : Int) (commits : Nat) : RbacState :=
  { s with returned := Function.update s.returned userID (max (s.returned userID) commits) }

def commit (db : DB) : RbacState := { s with db := db, past := s.past ++ [s.db] }

def tick (d : Nat) : RbacState := { s with now := s.now + d }

end RbacState

inductive RbacStmt where
  | startCheck (userID : Int)
  | cacheLoad (userID : Int)
  | timeNow (call : Option Nat)
  | sfJoin (userID : Int)
  | sfWait (call : Nat)
  | loadUserPermissionRules (call : Nat) (userID : Int) (fails : Option String)
  | cacheStore (call : Nat) (userID : Int) (e : StampedEntry)
  | sfFinish (call : Nat) (userID : Int) (r : Except String Stamped)
  | startInvalidate
  | cacheDelete (userID : Int) (commits : Nat)
  | returnInvalidate (userID : Int) (commits : Nat)
  | commit (db : DB)
  | tick (d : Nat)

/-- What `Do` does with a caller: it executes the function, or waits for another caller. -/
inductive SfRole where
  | leader (call : Nat)
  | follower (call : Nat)

def RbacStmt.Ans : RbacStmt → Type
  | .startCheck _ => Nat
  | .cacheLoad _ => Option StampedEntry
  | .timeNow _ => Int
  | .sfJoin _ => SfRole
  | .sfWait _ => Except String Stamped
  | .loadUserPermissionRules _ _ _ => Except String (List UserPermissionRuleRow × Nat)
  | .startInvalidate => Nat
  | _ => Unit

abbrev rbacSig : Sig := ⟨RbacStmt, RbacStmt.Ans⟩

def RbacState.resultOf (call : Nat) : Option (Except String Stamped) := s.calls[call]?.bind (·.result)

def RbacStmt.sem : (q : RbacStmt) → M RbacState String q.Ans
  | .startCheck userID => read fun s => s.returned userID
  | .cacheLoad userID => read fun s => s.cache.lookup userID
  | .timeNow _ => read fun s => s.now
  | .sfJoin userID => fun s =>
    match s.inflight userID with
    | some call => (.ok (.follower call), s)
    | none => (.ok (.leader s.calls.length), s.join userID)
  | .sfWait call => read fun s => (s.resultOf call).getD (.error "")
  | .loadUserPermissionRules call userID fails => fun s =>
    match fails with
    | some err => (.ok (.error err), s)
    | none => (.ok (.ok (Iam.loadUserPermissionRules s.db userID, s.commits)), s.load call)
  | .cacheStore _ userID e => write fun s => s.store userID e
  | .sfFinish call userID r => write fun s => s.finish call userID r
  | .startInvalidate => read fun s => s.commits
  | .cacheDelete userID commits => write fun s => s.drop userID commits
  | .returnInvalidate userID commits => write fun s => s.setReturned userID commits
  | .commit db => write fun s => s.commit db
  | .tick d => write fun s => s.tick d

def RbacStmt.ready : RbacStmt → RbacState → Bool
  | .sfWait call, s => (s.resultOf call).isSome
  | _, _ => true

/-- The arguments of `CheckPermission`, and the error a read of the store would give
this caller (its context may be cancelled, for instance). -/
structure Check where
  userID : Int
  permCode : String
  scope : String
  workspaceID : Int
  namespaceID : Int
  fails : Option String
  deriving DecidableEq

/-- An answer, with the commits it must reflect and those it does. -/
structure Answer where
  check : Check
  required : Nat
  readAt : Nat
  allowed : Bool
  deriving DecidableEq

variable (c : Check)

def Check.holds (e : UserPermissionEntry) : Bool :=
  e.hasPermission c.permCode c.scope c.workspaceID c.namespaceID

namespace Rbac

open Prog

abbrev RbacM : Type → Type := Prog rbacSig String

def answer (required : Nat) (e : Stamped) : RbacM (Option Answer) :=
  return some ⟨c, required, e.readAt, c.holds e.entry⟩

def finish (required call : Nat) (e : Stamped) : RbacM (Option Answer) := do
  ask (G := rbacSig) (.sfFinish call c.userID (.ok e))
  answer c required e

def store (required call : Nat) (e : Stamped) (expiresAt : Int) : RbacM (Option Answer) := do
  ask (G := rbacSig) (.cacheStore call c.userID ⟨⟨e.entry, expiresAt⟩, e.readAt⟩)
  finish c required call e

def loaded (required call : Nat) (e : Stamped) : RbacM (Option Answer) := do
  let now : Int ← ask (G := rbacSig) (.timeNow (some call))
  store c required call e (now + rbacCacheTTL)

def abort (call : Nat) (err : String) : RbacM (Option Answer) := do
  ask (G := rbacSig) (.sfFinish call c.userID (.error err))
  fail err

/-- The closure `loadEntry` gives to `Do`, with what `Do` does around it. -/
def lead (required call : Nat) : RbacM (Option Answer) := do
  let rows : Except String (List UserPermissionRuleRow × Nat) ←
    ask (G := rbacSig) (.loadUserPermissionRules call c.userID c.fails)
  match rows with
  | .error err => abort c call ("load permission rules for user " ++ formatInt c.userID ++ ": " ++ err)
  | .ok (rows, readAt) => loaded c required call ⟨entryOfRows rows, readAt⟩

def follow (required call : Nat) : RbacM (Option Answer) := do
  let r : Except String Stamped ← ask (G := rbacSig) (.sfWait call)
  match r with
  | .error err => fail err
  | .ok e => answer c required e

def reload (required : Nat) : RbacM (Option Answer) := do
  let role : SfRole ← ask (G := rbacSig) (.sfJoin c.userID)
  match role with
  | .leader call => lead c required call
  | .follower call => follow c required call

def testExpiry (required : Nat) (ce : StampedEntry) : RbacM (Option Answer) := do
  let now : Int ← ask (G := rbacSig) (.timeNow none)
  if now < ce.expiresAt then answer c required ⟨ce.entry, ce.readAt⟩ else reload c required

def lookup (required : Nat) : RbacM (Option Answer) := do
  let ce : Option StampedEntry ← ask (G := rbacSig) (.cacheLoad c.userID)
  match ce with
  | some ce => testExpiry c required ce
  | none => reload c required

def checkPermission : RbacM (Option Answer) := do
  let required : Nat ← ask (G := rbacSig) (.startCheck c.userID)
  lookup c required

def returnInvalidate (userID : Int) (commits : Nat) : RbacM (Option Answer) := do
  ask (G := rbacSig) (.returnInvalidate userID commits)
  return none

def delete (userID : Int) (commits : Nat) : RbacM (Option Answer) := do
  ask (G := rbacSig) (.cacheDelete userID commits)
  returnInvalidate userID commits

def invalidateUser (userID : Int) : RbacM (Option Answer) := do
  let commits : Nat ← ask (G := rbacSig) .startInvalidate
  delete userID commits

def commit (db : DB) : RbacM (Option Answer) := do
  ask (G := rbacSig) (.commit db)
  return none

def tick (d : Nat) : RbacM (Option Answer) := do
  ask (G := rbacSig) (.tick d)
  return none

end Rbac

inductive RbacCall where
  | checkPermission (c : Check)
  | invalidateUser (userID : Int)
  | commit (db : DB)
  | tick (d : Nat)

def Rbac.prog : RbacCall → RbacM (Option Answer)
  | .checkPermission c => checkPermission c
  | .invalidateUser userID => invalidateUser userID
  | .commit db => commit db
  | .tick d => tick d

def rbacSystem : System RbacState rbacSig String (Option Answer) RbacCall :=
  ⟨RbacStmt.sem, RbacStmt.ready, Rbac.prog⟩

def answers (st : Pool RbacState rbacSig String (Option Answer)) : List Answer :=
  st.threads.filterMap fun
    | .done (.ok a) => a
    | _ => none

/-! What holds of the checker, and of the others while one statement is executed. -/

namespace RbacState

variable {s s' : RbacState} {u : Int} {id : Nat}

theorem length_history (s : RbacState) : s.history.length = s.commits + 1 := by
  simp [history, commits]

theorem read_now (s : RbacState) (u : Int) : s.Read u ⟨loadUserEntry s.db u, s.commits⟩ :=
  ⟨s.db, by simp [history, commits], rfl⟩

theorem Read.mono {e : Stamped} (h : s.Read u e) (hs : s.history <+: s'.history) : s'.Read u e := by
  obtain ⟨db, hdb, he⟩ := h
  obtain ⟨later, hlater⟩ := hs
  refine ⟨db, ?_, he⟩
  rw [← hlater, List.getElem?_append_left (List.getElem?_eq_some_iff.1 hdb).1]
  exact hdb

/-- The call is the one in flight for the user, and it has read at `v`, if at all. -/
def Owns (s : RbacState) (u : Int) (id : Nat) (v : Option Nat) : Prop :=
  s.inflight u = some id ∧ s.calls[id]? = some ⟨u, v, none⟩

/-- Whatever the call answers reflects the required commits. -/
def Follows (s : RbacState) (required : Nat) (u : Int) (id : Nat) : Prop :=
  required ≤ s.commits ∧ ∃ f, s.calls[id]? = some f ∧ f.userID = u ∧ (∀ v, f.readAt = some v → required ≤ v) ∧
    ∀ e, f.result = some (.ok e) → required ≤ e.readAt ∧ s.Read u e

/-- Nothing cached or in flight is older than the deletions that are done. -/
structure Fresh (s : RbacState) : Prop where
  cached : ∀ u ce, s.cache.lookup u = some ce → s.dropped u ≤ ce.readAt ∧ s.Read u ⟨ce.entry, ce.readAt⟩
  flying : ∀ u id v, s.Owns u id (some v) → s.dropped u ≤ v
  owned : ∀ u id, s.inflight u = some id → ∃ v, s.Owns u id v
  dropped_le : ∀ u, s.dropped u ≤ s.commits
  returned_le : ∀ u, s.returned u ≤ s.dropped u

/-- What the others leave to the program with the call `own`. -/
structure Evolves (own : Option Nat) (s s' : RbacState) : Prop where
  history : s.history <+: s'.history
  dropped : ∀ u, s.dropped u ≤ s'.dropped u
  owns : ∀ u id v, own = some id → s.Owns u id v → s'.Owns u id v
  follows : ∀ required u id, s.Follows required u id → s'.Follows required u id

theorem Evolves.refl (own : Option Nat) (s : RbacState) : Evolves own s s :=
  ⟨List.prefix_rfl, fun _ => le_rfl, fun _ _ _ _ h => h, fun _ _ _ h => h⟩

variable {own : Option Nat}

theorem Evolves.trans {s'' : RbacState} (h : Evolves own s s') (h' : Evolves own s' s'') : Evolves own s s'' :=
  ⟨h.history.trans h'.history, fun u => (h.dropped u).trans (h'.dropped u),
    fun u id v hid ho => h'.owns u id v hid (h.owns u id v hid ho), fun k u id hf => h'.follows k u id (h.follows k u id hf)⟩

theorem Evolves.commits (h : Evolves own s s') : s.commits ≤ s'.commits := by
  have hlen := h.history.length_le
  rw [length_history, length_history] at hlen
  omega

theorem evolves_of_eq (own : Option Nat) (hpast : s'.past = s.past) (hdb : s'.db = s.db) (hcalls : s'.calls = s.calls)
    (hinflight : s'.inflight = s.inflight) (hdropped : ∀ u, s.dropped u ≤ s'.dropped u) : Evolves own s s' := by
  have hhist : s'.history = s.history := by rw [RbacState.history, RbacState.history, hpast, hdb]
  refine ⟨by rw [hhist], hdropped, fun u id v _ h => ?_, fun required u id h => ?_⟩
  · rw [Owns, hinflight, hcalls]
    exact h
  · rw [Follows, RbacState.commits, hpast, hcalls]
    simp only [Read, hhist]
    exact h

variable {v : Option Nat}

theorem Owns.lt (h : s.Owns u id v) : id < s.calls.length :=
  (List.getElem?_eq_some_iff.1 h.2).1

theorem fresh_init (db : DB) (now : Int) : Fresh (init db now) where
  cached u ce h := by cases h
  flying u id v h := by cases h.1
  owned u id h := by cases h
  dropped_le u := Nat.zero_le _
  returned_le u := le_rfl

/-! One statement after the other. -/

theorem Fresh.store (h : Fresh s) {ce : StampedEntry} (hle : s.dropped u ≤ ce.readAt)
    (hread : s.Read u ⟨ce.entry, ce.readAt⟩) : Fresh (s.store u ce) := by
  refine ⟨fun v ce' hv => ?_, h.flying, h.owned, h.dropped_le, h.returned_le⟩
  simp only [RbacState.store, List.lookup_cons] at hv
  split at hv
  · rename_i heq
    cases hv
    rw [eq_of_beq heq]
    exact ⟨hle, hread⟩
  · exact h.cached v ce' hv

theorem owns_join_self (s : RbacState) (u : Int) : (s.join u).Owns u s.calls.length none := by
  simp [Owns, join]

theorem Owns.join {w : Int} (h : s.Owns w id v) (hnone : s.inflight u = none) :
    (s.join u).Owns w id v := by
  have hne : w ≠ u := fun heq => by
    rw [heq, Owns, hnone] at h
    cases h.1
  refine ⟨?_, ?_⟩
  · simp only [RbacState.join, Function.update_of_ne hne]
    exact h.1
  · simp only [RbacState.join, List.getElem?_append_left h.lt]
    exact h.2

theorem Owns.of_join {w : Int} (hfresh : Fresh s) (h : (s.join u).Owns w id v) :
    s.Owns w id v ∨ v = none := by
  obtain ⟨hin, hcall⟩ := h
  by_cases hw : w = u
  · subst hw
    simp only [RbacState.join, Function.update_self, Option.some.injEq] at hin
    subst hin
    simp only [RbacState.join, List.getElem?_concat_length, Option.some.injEq, Flight.mk.injEq] at hcall
    exact .inr hcall.2.1.symm
  · simp only [RbacState.join, Function.update_of_ne hw] at hin
    obtain ⟨v', hown⟩ := hfresh.owned w id hin
    simp only [RbacState.join, List.getElem?_append_left hown.lt] at hcall
    exact .inl ⟨hin, hcall⟩

theorem Fresh.join (h : Fresh s) (hnone : s.inflight u = none) : Fresh (s.join u) := by
  refine ⟨h.cached, fun w id v hown => ?_, fun w id hin => ?_, h.dropped_le, h.returned_le⟩
  · rcases hown.of_join h with hown | hv
    · exact h.flying w id v hown
    · cases hv
  · by_cases hw : w = u
    · subst hw
      simp only [RbacState.join, Function.update_self, Option.some.injEq] at hin
      subst hin
      exact ⟨none, owns_join_self s w⟩
    · simp only [RbacState.join, Function.update_of_ne hw] at hin
      obtain ⟨v, hown⟩ := h.owned w id hin
      exact ⟨v, hown.join hnone⟩

theorem evolves_join (own : Option Nat) (hnone : s.inflight u = none) : Evolves own s (s.join u) := by
  refine ⟨List.prefix_rfl, fun _ => le_rfl, fun w id v _ hown => hown.join hnone, fun required w id hf => ?_⟩
  obtain ⟨hle, f, hf, hrest⟩ := hf
  refine ⟨hle, f, ?_, hrest⟩
  simp only [RbacState.join, List.getElem?_append_left (List.getElem?_eq_some_iff.1 hf).1]
  exact hf

theorem getElem?_modify_ne {id' : Nat} (g : Flight → Flight) (hne : id ≠ id') :
    (s.calls.modify id g)[id']? = s.calls[id']? := by
  simp [hne]

theorem Owns.load (h : s.Owns u id v) : (s.load id).Owns u id (some s.commits) := by
  refine ⟨h.1, ?_⟩
  simp [RbacState.load, h.2]

theorem Fresh.load (h : Fresh s) : Fresh (s.load id) := by
  refine ⟨h.cached, fun w id' v hown => ?_, fun w id' hin => ?_, h.dropped_le, h.returned_le⟩
  · by_cases hid : id = id'
    · obtain ⟨v', hown'⟩ := h.owned w id' hown.1
      subst hid
      have := hown'.load.2.symm.trans hown.2
      cases this
      exact h.dropped_le w
    · exact h.flying w id' v ⟨hown.1, (getElem?_modify_ne _ hid).symm.trans hown.2⟩
  · obtain ⟨v, hown⟩ := h.owned w id' hin
    by_cases hid : id = id'
    · subst hid
      exact ⟨_, hown.load⟩
    · exact ⟨v, hin, (getElem?_modify_ne _ hid).trans hown.2⟩

theorem evolves_load (hown : own ≠ some id) (s : RbacState) : Evolves own s (s.load id) := by
  refine ⟨List.prefix_rfl, fun _ => le_rfl, fun w id' v hid ho => ?_, fun required w id' hf => ?_⟩
  · exact ⟨ho.1, (getElem?_modify_ne _ fun h : id = id' => hown (h ▸ hid)).trans ho.2⟩
  · obtain ⟨hle, f, hf, huser, hread, hres⟩ := hf
    by_cases hid : id = id'
    · subst hid
      refine ⟨hle, { f with readAt := some s.commits }, by simp [RbacState.load, hf], huser, ?_, hres⟩
      intro v hv
      cases hv
      exact hle
    · exact ⟨hle, f, (getElem?_modify_ne _ hid).trans hf, huser, hread, hres⟩

theorem inflight_finish (h : s.Owns u id v) (r : Except String Stamped) :
    (s.finish id u r).inflight = Function.update s.inflight u none := by
  rw [RbacState.finish, h.1, if_pos rfl]

theorem owns_finish_iff {w : Option Nat} (h : s.Owns u id v) (r : Except String Stamped) (u' : Int) (id' : Nat) :
    (s.finish id u r).Owns u' id' w ↔ id ≠ id' ∧ s.Owns u' id' w := by
  rw [Owns, inflight_finish h]
  by_cases hu : u' = u
  · subst hu
    simp only [Function.update_self, reduceCtorEq, false_and, false_iff, not_and]
    intro hne hown
    exact hne (Option.some.inj (h.1.symm.trans hown.1))
  · rw [Function.update_of_ne hu]
    constructor
    · intro ⟨hin, hcall⟩
      have hne : id ≠ id' := by
        intro heq
        subst heq
        simp [RbacState.finish, h.2] at hcall
      exact ⟨hne, hin, (getElem?_modify_ne _ hne).symm.trans hcall⟩
    · intro ⟨hne, hin, hcall⟩
      exact ⟨hin, (getElem?_modify_ne _ hne).trans hcall⟩

theorem Fresh.finish (h : Fresh s) (hown : s.Owns u id v) (r : Except String Stamped) :
    Fresh (s.finish id u r) := by
  refine ⟨h.cached, fun u' id' w ho => ?_, fun u' id' hin => ?_, h.dropped_le, h.returned_le⟩
  · exact h.flying u' id' w ((owns_finish_iff hown r u' id').1 ho).2
  · rw [inflight_finish hown] at hin
    by_cases hu : u' = u
    · subst hu
      rw [Function.update_self] at hin
      cases hin
    · rw [Function.update_of_ne hu] at hin
      obtain ⟨w, ho⟩ := h.owned u' id' hin
      refine ⟨w, (owns_finish_iff hown r u' id').2 ⟨?_, ho⟩⟩
      intro heq
      subst heq
      have := hown.2.symm.trans ho.2
      cases this
      exact hu rfl

theorem evolves_finish (hother : own ≠ some id) (hown : s.Owns u id v) {r : Except String Stamped}
    (hr : ∀ e, r = .ok e → v = some e.readAt ∧ s.Read u e) : Evolves own s (s.finish id u r) := by
  refine ⟨List.prefix_rfl, fun _ => le_rfl, fun u' id' w hid ho => ?_, fun required u' id' hf => ?_⟩
  · exact (owns_finish_iff hown r u' id').2 ⟨fun heq => hother (heq ▸ hid), ho⟩
  · obtain ⟨hle, f, hf, huser, hread, hres⟩ := hf
    by_cases hid : id = id'
    · subst hid
      refine ⟨hle, { f with result := some r }, by simp [RbacState.finish, hf], huser, hread, ?_⟩
      intro e he
      obtain ⟨hv, hreads⟩ := hr e (Option.some.inj he)
      have hf' := hown.2.symm.trans hf
      cases hf'
      exact ⟨hread _ hv, huser ▸ hreads⟩
    · exact ⟨hle, f, (getElem?_modify_ne _ hid).trans hf, huser, hread, hres⟩

theorem lookup_filter_ne {α : Type} (l : List (Int × α)) (u v : Int) :
    (l.filter fun p => p.1 != u).lookup v = if v = u then none else l.lookup v := by
  induction l with
  | nil => simp
  | cons p l ih =>
    obtain ⟨w, a⟩ := p
    by_cases hw : w = u
    · subst hw
      by_cases hv : v = w
      · simp [hv] at ih ⊢
        exact ih
      · simp [hv, List.lookup_cons, beq_false_of_ne hv] at ih ⊢
        exact ih
    · by_cases hv : v = w
      · subst hv
        simp [hw]
      · simp [hw, List.lookup_cons, beq_false_of_ne hv, ih]

theorem le_dropped_drop (s : RbacState) (u w : Int) (k : Nat) : s.dropped w ≤ (s.drop u k).dropped w := by
  by_cases hw : w = u
  · subst hw
    simp [drop]
  · simp [drop, Function.update_of_ne hw]

theorem Fresh.drop (h : Fresh s) {k : Nat} (hk : k ≤ s.commits) (hno : ∀ id v, s.Owns u id (some v) → k ≤ v) :
    Fresh (s.drop u k) := by
  have hdropped : ∀ w, w ≠ u → (s.drop u k).dropped w = s.dropped w := fun w hw => by
    simp [RbacState.drop, Function.update_of_ne hw]
  have hself : (s.drop u k).dropped u = max (s.dropped u) k := by simp [RbacState.drop]
  refine ⟨fun w ce hw => ?_, fun w id v hown => ?_, h.owned, fun w => ?_, fun w => ?_⟩
  · simp only [RbacState.drop, lookup_filter_ne] at hw
    split at hw
    · cases hw
    · rename_i hne
      rw [hdropped w hne]
      exact h.cached w ce hw
  · by_cases hw : w = u
    · subst hw
      rw [hself]
      exact max_le (h.flying w id v hown) (hno id v hown)
    · rw [hdropped w hw]
      exact h.flying w id v hown
  · by_cases hw : w = u
    · subst hw
      rw [hself]
      exact max_le (h.dropped_le w) hk
    · rw [hdropped w hw]
      exact h.dropped_le w
  · exact (h.returned_le w).trans (le_dropped_drop s u w k)

theorem Fresh.setReturned (h : Fresh s) {k : Nat} (hk : k ≤ s.dropped u) : Fresh (s.setReturned u k) := by
  refine ⟨h.cached, h.flying, h.owned, h.dropped_le, fun w => ?_⟩
  by_cases hw : w = u
  · subst hw
    simp only [RbacState.setReturned, Function.update_self]
    exact max_le (h.returned_le w) hk
  · simp only [RbacState.setReturned, Function.update_of_ne hw]
    exact h.returned_le w

theorem history_commit (s : RbacState) (db : DB) : s.history <+: (s.commit db).history :=
  List.prefix_append _ _

theorem commits_commit (s : RbacState) (db : DB) : (s.commit db).commits = s.commits + 1 := by
  simp [commits, commit]

theorem Fresh.commit (h : Fresh s) (db : DB) : Fresh (s.commit db) := by
  refine ⟨fun w ce hw => ?_, h.flying, h.owned, fun w => ?_, h.returned_le⟩
  · obtain ⟨hle, hread⟩ := h.cached w ce hw
    exact ⟨hle, hread.mono (history_commit s db)⟩
  · rw [commits_commit]
    exact (h.dropped_le w).trans (Nat.le_succ _)

theorem evolves_commit (own : Option Nat) (s : RbacState) (db : DB) : Evolves own s (s.commit db) := by
  refine ⟨history_commit s db, fun _ => le_rfl, fun _ _ _ _ h => h, fun required w id hf => ?_⟩
  obtain ⟨hle, f, hf, huser, hread, hres⟩ := hf
  refine ⟨?_, f, hf, huser, hread, fun e he => ⟨(hres e he).1, (hres e he).2.mono (history_commit s db)⟩⟩
  rw [commits_commit]
  exact hle.trans (Nat.le_succ _)

end RbacState

/-! Where a program is, and what holds there. -/

/-- The answer is the one of a version of the database that has the required commits. -/
def Answer.Reflects (a : Answer) : Prop :=
  ∃ db, a.required ≤ a.readAt ∧ s.history[a.readAt]? = some db ∧
    a.allowed = a.check.holds (loadUserEntry db a.check.userID)

/-- When a deletion of `InvalidateUser` is executed, no load of the user is in flight
that has read the rules before the changes the invalidation is for. -/
def NoStaleLoad : RbacStmt → RbacState → Prop
  | .cacheDelete userID commits, s => ∀ id ∈ s.inflight userID, ∀ f ∈ s.calls[id]?, ∀ readAt ∈ f.readAt, commits ≤ readAt
  | _, _ => True

instance (q : RbacStmt) (s : RbacState) : Decidable (NoStaleLoad q s) := by
  cases q <;> unfold NoStaleLoad <;> infer_instance

/-- A load owns its call in the group. -/
def discipline : Discipline RbacState rbacSig String Nat where
  take
    | .sfJoin _, .ok (.leader id), _ => some id
    | .sfFinish _ _ _, _, _ => none
    | _, _, v => v
  owned s id := ∃ u w, s.Owns u id w
  rely := RbacState.Evolves
  pre
    | v, .timeNow (some id), _ => v = some id
    | v, .loadUserPermissionRules id u _, s => v = some id ∧ s.Owns u id none
    | v, .cacheStore id u e, s => v = some id ∧ s.Owns u id (some e.readAt) ∧ s.Read u ⟨e.entry, e.readAt⟩
    | v, .sfFinish id u r, s => v = some id ∧ ∃ w, s.Owns u id w ∧ ∀ e, r = .ok e → w = some e.readAt ∧ s.Read u e
    | _, .cacheDelete _ k, s => k ≤ s.commits
    | _, .returnInvalidate u k, s => k ≤ s.dropped u
    | _, _, _ => True

theorem fresh_sem {q : RbacStmt} {s : RbacState} {v : Option Nat} (h : s.Fresh) (hpre : discipline.pre v q s) (hq : NoStaleLoad q s) :
    (q.sem.exec s).Fresh := by
  cases q with
  | sfJoin u =>
    cases hin : s.inflight u with
    | some id => simpa only [RbacStmt.sem, M.exec, M.run, hin] using h
    | none => simpa only [RbacStmt.sem, M.exec, M.run, hin] using h.join hin
  | loadUserPermissionRules id u fails =>
    cases fails with
    | some err => exact h
    | none => exact h.load
  | cacheStore id u e => exact h.store (h.flying u id _ hpre.2.1) hpre.2.2
  | sfFinish id u r =>
    obtain ⟨-, w, hown, -⟩ := hpre
    exact h.finish hown r
  | cacheDelete u k => exact h.drop hpre fun id w hown => hq id hown.1 _ hown.2 w rfl
  | returnInvalidate u k => exact h.setReturned hpre
  | commit db => exact h.commit db
  | tick d => exact ⟨h.cached, h.flying, h.owned, h.dropped_le, h.returned_le⟩
  | _ => exact h

theorem evolves_sem {q : RbacStmt} {s : RbacState} {v own : Option Nat} (hpre : discipline.pre v q s)
    (hne : ∀ id, v = some id → own ≠ some id) : RbacState.Evolves own s (q.sem.exec s) := by
  cases q with
  | sfJoin u =>
    cases hin : s.inflight u with
    | some id => simpa only [RbacStmt.sem, M.exec, M.run, hin] using .refl own s
    | none => simpa only [RbacStmt.sem, M.exec, M.run, hin] using RbacState.evolves_join own hin
  | loadUserPermissionRules id u fails =>
    cases fails with
    | some err => exact .refl own s
    | none => exact RbacState.evolves_load (hne id hpre.1) s
  | sfFinish id u r =>
    obtain ⟨hv, w, hown, hr⟩ := hpre
    exact RbacState.evolves_finish (hne id hv) hown hr
  | cacheStore id u e => exact RbacState.evolves_of_eq own rfl rfl rfl rfl fun _ => le_rfl
  | cacheDelete u k => exact RbacState.evolves_of_eq own rfl rfl rfl rfl fun w => s.le_dropped_drop u w k
  | returnInvalidate u k => exact RbacState.evolves_of_eq own rfl rfl rfl rfl fun _ => le_rfl
  | commit db => exact RbacState.evolves_commit own s db
  | tick d => exact RbacState.evolves_of_eq own rfl rfl rfl rfl fun _ => le_rfl
  | _ => exact .refl own s

theorem sound_discipline : discipline.Sound rbacSystem RbacState.Fresh NoStaleLoad fun _ _ => False where
  refl := .refl
  trans _ _ _ _ h h' := h.trans h'
  owned id s s' h := by
    rintro ⟨u, w, hown⟩
    exact ⟨u, w, h.owns u id w rfl hown⟩
  inv q s v h hpre _ hq _ := fresh_sem h hpre hq
  take q s v id _ hpre _ _ hv htake := by
    cases q with
    | sfJoin u =>
      cases hin : s.inflight u with
      | some id' =>
        simp only [rbacSystem, RbacStmt.sem, M.exec, M.result, M.run, hin] at htake ⊢
        exact ⟨hv id htake, .inl htake⟩
      | none =>
        simp only [rbacSystem, RbacStmt.sem, M.exec, M.result, M.run, hin] at htake ⊢
        cases htake
        refine ⟨⟨u, none, s.owns_join_self u⟩, .inr ?_⟩
        rintro ⟨_, _, hown⟩
        exact lt_irrefl _ hown.lt
    | loadUserPermissionRules id' u fails =>
      obtain rfl := Option.some.inj (hpre.1.symm.trans htake)
      cases fails with
      | some err => exact ⟨hv _ htake, .inl htake⟩
      | none => exact ⟨⟨u, _, hpre.2.load⟩, .inl htake⟩
    | sfFinish id' u r => cases htake
    | _ => exact ⟨hv id htake, .inl htake⟩
  others q s v v' _ hpre _ _ hne := evolves_sem hpre hne
  need _ _ _ _ _ _ _ _ h := h.elim

def Right (_ : Option Nat) (s : RbacState) (r : Except String (Option Answer)) : Prop := ∀ a, r = .ok (some a) → a.Reflects s

abbrev SafeCheck (v : Option Nat) (s : RbacState) (p : Rbac.RbacM (Option Answer)) : Prop :=
  discipline.Safe rbacSystem RbacState.Fresh NoStaleLoad Right v s p

section SafeCheck

variable {s : RbacState} {c : Check} {k id : Nat} {e : Stamped}

theorem safe_answer {v : Option Nat} (hle : k ≤ e.readAt) (hread : s.Read c.userID e) : SafeCheck v s (Rbac.answer c k e) := by
  intro a ha
  cases ha
  obtain ⟨db, hdb, he⟩ := hread
  exact ⟨db, hle, hdb, by rw [he]⟩

theorem safe_loaded (hle : k ≤ e.readAt) (hread : s.Read c.userID e) (hown : s.Owns c.userID id (some e.readAt)) :
    SafeCheck (some id) s (Rbac.loaded c k id e) := by
  refine fun s₁ h₁ _ => ⟨rfl, fun _ _ => ?_⟩
  refine fun s₂ h₂ _ => ?_
  have hown₂ := (h₁.trans h₂).owns _ _ _ rfl hown
  have hread₂ := hread.mono (h₁.trans h₂).history
  refine ⟨⟨rfl, hown₂, hread₂⟩, fun _ _ => ?_⟩
  refine fun s₃ h₃ _ => ?_
  have hread₃ : s₃.Read c.userID e := hread₂.mono h₃.history
  refine ⟨⟨rfl, some e.readAt, h₃.owns _ _ _ rfl hown₂, fun e' he' => ?_⟩, fun _ _ => safe_answer hle hread₃⟩
  cases he'
  exact ⟨rfl, hread₃⟩

theorem safe_lead (h : k ≤ s.dropped c.userID) (hown : s.Owns c.userID id none) : SafeCheck (some id) s (Rbac.lead c k id) := by
  refine fun s₁ h₁ hs₁ => ⟨⟨rfl, h₁.owns _ _ _ rfl hown⟩, fun _ _ => ?_⟩
  have hown₁ := h₁.owns _ _ _ rfl hown
  cases c.fails with
  | some err => exact fun s₂ h₂ _ => ⟨⟨rfl, none, h₂.owns _ _ _ rfl hown₁, nofun⟩, fun _ _ => nofun⟩
  | none =>
    exact safe_loaded ((h.trans (h₁.dropped _)).trans (hs₁.dropped_le _)) (s₁.read_now c.userID) hown₁.load

theorem safe_follow (h : s.Follows k c.userID id) : SafeCheck none s (Rbac.follow c k id) := by
  refine Discipline.safe_exec (fun _ _ _ => trivial) fun s₁ r _ h₁ _ hready _ hrun => ?_
  obtain ⟨-, f, hf, -, -, hres⟩ := h₁.follows _ _ _ h
  simp only [rbacSystem, RbacStmt.ready, RbacState.resultOf, hf, Option.bind_some] at hready
  obtain ⟨r', hr⟩ := Option.isSome_iff_exists.1 hready
  have hget : (s₁.resultOf id).getD (.error "") = r' := by
    rw [RbacState.resultOf, hf, Option.bind_some, hr, Option.getD_some]
  have hread : (RbacStmt.sfWait id).sem.run s₁ = (.ok r', s₁) := run_read_of_eq hget
  cases hread.symm.trans hrun
  cases r' with
  | error err => exact nofun
  | ok e => exact safe_answer (hres e hr).1 (hres e hr).2

theorem safe_reload (h : k ≤ s.dropped c.userID) : SafeCheck none s (Rbac.reload c k) := by
  refine Discipline.safe_exec (fun _ _ _ => trivial) fun s₁ r s₂ h₁ hs₁ _ _ hrun => ?_
  have hk := h.trans (h₁.dropped _)
  cases hin : s₁.inflight c.userID with
  | some id =>
    simp only [rbacSystem, RbacStmt.sem, M.run, hin, Prod.mk.injEq] at hrun
    obtain ⟨rfl, rfl⟩ := hrun
    obtain ⟨v, hown⟩ := hs₁.owned _ id hin
    refine safe_follow ⟨hk.trans (hs₁.dropped_le _), _, hown.2, rfl, fun w hw => ?_, fun e he => ?_⟩
    · cases hw
      exact hk.trans (hs₁.flying _ id w hown)
    · cases he
  | none =>
    simp only [rbacSystem, RbacStmt.sem, M.run, hin, Prod.mk.injEq] at hrun
    obtain ⟨rfl, rfl⟩ := hrun
    exact safe_lead hk (s₁.owns_join_self c.userID)

theorem safe_lookup (h : k ≤ s.dropped c.userID) : SafeCheck none s (Rbac.lookup c k) := by
  refine Discipline.safe_exec (fun _ _ _ => trivial) fun s₁ r _ h₁ hs₁ _ _ hrun => ?_
  have hk := h.trans (h₁.dropped _)
  have hload {a : Option StampedEntry} (ha : s₁.cache.lookup c.userID = a) :
      (RbacStmt.cacheLoad c.userID).sem.run s₁ = (.ok a, s₁) := run_read_of_eq ha
  cases hce : s₁.cache.lookup c.userID with
  | none =>
    cases (hload hce).symm.trans hrun
    exact safe_reload hk
  | some ce =>
    cases (hload hce).symm.trans hrun
    obtain ⟨hle, hread⟩ := hs₁.cached _ ce hce
    refine fun s₂ h₂ _ => ⟨trivial, fun _ _ => ?_⟩
    show SafeCheck none s₂ (if s₂.now < ce.expiresAt then Rbac.answer c k ⟨ce.entry, ce.readAt⟩ else Rbac.reload c k)
    split
    · exact safe_answer (hk.trans hle) (hread.mono h₂.history)
    · exact safe_reload (hk.trans (h₂.dropped _))

theorem safe_prog (call : RbacCall) (s : RbacState) : SafeCheck none s (Rbac.prog call) := by
  cases call with
  | checkPermission c => exact fun s₁ _ hs₁ => ⟨trivial, fun _ _ => safe_lookup (hs₁.returned_le c.userID)⟩
  | invalidateUser u =>
    refine fun s₁ _ _ => ⟨trivial, fun _ _ => ?_⟩
    refine fun s₂ h₂ _ => ⟨h₂.commits, fun _ _ => ?_⟩
    refine fun s₃ h₃ _ => ⟨le_trans ?_ (h₃.dropped u), fun _ _ => nofun⟩
    simp [rbacSystem, RbacStmt.sem, M.exec, M.run, write, RbacState.drop]
  | commit db => exact fun s₁ _ _ => ⟨trivial, fun _ _ => nofun⟩
  | tick d => exact fun s₁ _ _ => ⟨trivial, fun _ _ => nofun⟩

theorem right_evolves (v : Option Nat) (s s' : RbacState) (r : Except String (Option Answer)) (h : Right v s r)
    (he : RbacState.Evolves v s s') : Right v s' r := by
  intro a ha
  obtain ⟨db, hle, hdb, hallowed⟩ := h a ha
  have hread : s.Read a.check.userID ⟨loadUserEntry db a.check.userID, a.readAt⟩ := ⟨db, hdb, rfl⟩
  obtain ⟨db', hdb', heq⟩ := hread.mono he.history
  exact ⟨db', hle, hdb', hallowed.trans (congrArg _ heq)⟩

end SafeCheck

theorem mem_answers {st : Pool RbacState rbacSig String (Option Answer)} {a : Answer} :
    a ∈ answers st ↔ .done (.ok (some a)) ∈ st.threads := by
  rw [answers, List.mem_filterMap]
  constructor
  · intro ⟨p, hp, ha⟩
    split at ha
    · rw [← ha]
      exact hp
    · cases ha
  · exact fun h => ⟨_, h, rfl⟩

/-- If no `InvalidateUser` deletes a user's entry while a load of that user is in flight which has read
the rules before the changes the call is for, then every answer is given by a version of the database
with all the changes committed before any `InvalidateUser` of the user that returned before the check
began. -/
theorem revocation_not_outlived (db : DB) (now : Int) (es : List (Event RbacCall))
    (h : Transition.Along rbacSystem.step (rbacSystem.Meets NoStaleLoad) (.init (.init db now)) es) :
    ∀ st ∈ Transition.states rbacSystem.step (.init (.init db now)) es, ∀ a ∈ answers st, a.Reflects st.store := by
  intro st hst a ha
  obtain ⟨-, ps, hps, hsafe, -⟩ := sound_discipline.forall_safe right_evolves safe_prog
    (RbacState.fresh_init db now) (fun _ => id) h st hst
  have hmem := mem_answers.1 ha
  rw [← hps] at hmem
  obtain ⟨⟨p, v⟩, hp, rfl⟩ := List.mem_map.1 hmem
  exact (hsafe _ hp).1 a rfl

/-! A permission that is revoked while it is being loaded. -/

def oneAdmin : DB :=
  { DB.empty with
    users := .ofRows [⟨7, "ana", "ana@example.com", "", "", "", "active", "", false⟩] 8 (by decide)
    roles := .ofRows [.platformBuiltin 1 "platform-admin"] 2 (by decide)
    rolePermissionRules := [⟨1, "*:*"⟩]
    roleBindings := .ofRows [{ Place.platform.grant 7 1 false with id := 1 }] 2 (by decide) }

def noAdmin : DB := { oneAdmin with roleBindings := .empty }

def mayDelete : Check := ⟨7, "iam:users:delete", "platform", 0, 0, none⟩

theorem refused_after_invalidation :
    let es : List (Event RbacCall) := [.call (.checkPermission mayDelete), .step 0, .step 0, .step 0, .step 0, .step 0,
      .step 0, .step 0, .call (.commit noAdmin), .step 1, .call (.invalidateUser 7), .step 2, .step 2, .step 2,
      .call (.checkPermission mayDelete), .step 3, .step 3, .step 3, .step 3, .step 3, .step 3, .step 3]
    Transition.Along rbacSystem.step (rbacSystem.Meets NoStaleLoad) (.init (.init oneAdmin 0)) es ∧
      (∀ st ∈ Transition.states rbacSystem.step (.init (.init oneAdmin 0)) es,
        ∀ a ∈ answers st, a.Reflects st.store) ∧
      answers (Transition.run rbacSystem.step (.init (.init oneAdmin 0)) es) =
        [⟨mayDelete, 0, 0, true⟩, ⟨mayDelete, 1, 1, false⟩] := by
  exact ⟨by decide, revocation_not_outlived oneAdmin 0 _ (by decide), by decide⟩

/-- The invalidation returns while a load of the user is between its read and its store. A check that
begins afterwards joins the load and is granted what was revoked, and so is another one that finds the
stale entry in the cache. -/
theorem revoked_permission_granted :
    let st := Transition.run rbacSystem.step (.init (.init oneAdmin 0))
      [.call (.checkPermission mayDelete), .step 0, .step 0, .step 0, .step 0,
        .call (.commit noAdmin), .step 1, .call (.invalidateUser 7), .step 2, .step 2, .step 2,
        .call (.checkPermission mayDelete), .step 3, .step 3, .step 3, .step 0, .step 0, .step 0, .step 3,
        .call (.checkPermission mayDelete), .step 4, .step 4, .step 4]
    mayDelete.holds (loadUserEntry noAdmin 7) = false ∧ st.store.history = [oneAdmin, noAdmin] ∧
      answers st = [⟨mayDelete, 0, 0, true⟩, ⟨mayDelete, 1, 0, true⟩, ⟨mayDelete, 1, 0, true⟩] := by
  decide

end Vraxel.Iam
