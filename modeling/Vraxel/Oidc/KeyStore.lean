import Vraxel.Lib.Interleave
import Vraxel.Db.Schema
/-
  The signing keys in the database (`lib/oidc/keys_db.go`, `keys.go`, `oidc_key.sql`).

  The two statements of `LoadOrGenerate` are not in one transaction, and of several rows the read may
  give any: the call says which.
-/

namespace Vraxel.Oidc

open Relational Api Db Txn Interleave

structure OIDCKeyRow where
  id : Int
  keyID : String
  privateKey : String
  publicKey : String
  algorithm : String

instance : Keyed OIDCKeyRow := ⟨(·.id), fun r i => { r with id := i }, fun _ _ => rfl, fun _ => rfl⟩

structure KeySet (Priv Pub : Type) where
  privateKey : Priv
  publicKey : Pub
  keyID : String
  algorithm : String

/-- The packages for the keys. What `generate` draws is in its second argument. -/
structure KeyLib (Priv Pub : Type) where
  generate : String → Nat → Except String (Priv × Pub)
  computeKeyID : Pub → String
  marshal : Priv → Pub → Except String (String × String)
  parse : (privPEM pubPEM : String) → Except String (Priv × Pub)
  parse_marshal : ∀ priv pub privPEM pubPEM, marshal priv pub = .ok (privPEM, pubPEM) → parse privPEM pubPEM = .ok (priv, pub)

abbrev KeyTable := Table OIDCKeyRow

def oidcKeysTable : Slot KeyTable OIDCKeyRow := ⟨id, fun t _ => t, fun _ _ => rfl, fun _ => rfl⟩

def getOIDCKey (algorithm : String) (pick : Nat) : M KeyTable Err (Option OIDCKeyRow) :=
  read fun t =>
    let rows := t.select fun r => r.algorithm = algorithm
    rows[pick % rows.length]?

def createOIDCKeyChecks (row : OIDCKeyRow) (t : KeyTable) : Except Err Unit :=
  firstViolation [
    varchar 64 row.keyID, varchar 16 row.algorithm,
    (!t.exists? fun r => r.keyID = row.keyID, uniqueViolation "oidc_keys_key_id_key")]

def createOIDCKey (row : OIDCKeyRow) : M KeyTable Err OIDCKeyRow := oidcKeysTable.insert (createOIDCKeyChecks row) row

inductive KeyStmt where
  | get (algorithm : String) (pick : Nat)
  | create (row : OIDCKeyRow)

def KeyStmt.Ans : KeyStmt → Type
  | .get _ _ => Option OIDCKeyRow
  | .create _ => OIDCKeyRow

abbrev keySig : Sig := ⟨KeyStmt, KeyStmt.Ans⟩

def KeyStmt.sem : (q : KeyStmt) → M KeyTable Err q.Ans
  | .get algorithm pick => getOIDCKey algorithm pick
  | .create row => createOIDCKey row

section Programs

variable {Priv Pub : Type} (lib : KeyLib Priv Pub)

def generateKeySet (algorithm : String) (draw : Nat) : Except String (KeySet Priv Pub) :=
  if algorithm ∈ ["EdDSA", "ES256", "RS256"] then
    (lib.generate algorithm draw).map fun (priv, pub) => ⟨priv, pub, lib.computeKeyID pub, algorithm⟩
  else .error ("unsupported algorithm: " ++ algorithm)

def parseKeySetPEM (privPEM pubPEM algorithm : String) : Except String (KeySet Priv Pub) :=
  (lib.parse privPEM pubPEM).map fun (priv, pub) => ⟨priv, pub, lib.computeKeyID pub, algorithm⟩

namespace KeyStore

open Prog

abbrev KeyM : Type → Type := Prog keySig Err

def load (row : OIDCKeyRow) : KeyM (KeySet Priv Pub) :=
  .done ((parseKeySetPEM lib row.privateKey row.publicKey row.algorithm).mapError Err.plain)

def store (ks : KeySet Priv Pub) (algorithm privPEM pubPEM : String) : KeyM (KeySet Priv Pub) := do
  let _ ← mapErr (Err.wrap "store key") (ask (G := keySig) (.create ⟨0, ks.keyID, privPEM, pubPEM, algorithm⟩))
  return ks

def generate (algorithm : String) (draw : Nat) : KeyM (KeySet Priv Pub) :=
  match generateKeySet lib algorithm draw with
  | .error e => fail (.plain ("generate key: " ++ e))
  | .ok ks =>
    match lib.marshal ks.privateKey ks.publicKey with
    | .error e => fail (.plain ("marshal key: " ++ e))
    | .ok (privPEM, pubPEM) => store ks algorithm privPEM pubPEM

def loadOrGenerate (algorithm : String) (pick draw : Nat) : KeyM (KeySet Priv Pub) := do
  let row : Option OIDCKeyRow ← ask (G := keySig) (.get algorithm pick)
  match row with
  | some row => load lib row
  | none => generate lib algorithm draw

end KeyStore

structure KeyCall where
  algorithm : String
  pick : Nat
  draw : Nat

def keySystem : System KeyTable keySig Err (KeySet Priv Pub) KeyCall :=
  ⟨KeyStmt.sem, fun _ _ => true, fun c => KeyStore.loadOrGenerate lib c.algorithm c.pick c.draw⟩

end Programs

/-! What the table and the calls know. -/

section Results

variable {Priv Pub : Type}

abbrev KeyPool (Priv Pub : Type) := Pool KeyTable keySig Err (KeySet Priv Pub)

variable (st : KeyPool Priv Pub)

def Answered (ks : KeySet Priv Pub) : Prop := .done (.ok ks) ∈ st.threads

def keySets : List (KeySet Priv Pub) :=
  st.threads.filterMap fun
    | .done (.ok ks) => some ks
    | _ => none

variable {ks : KeySet Priv Pub}

theorem mem_keySets {st : KeyPool Priv Pub} : ks ∈ keySets st ↔ Answered st ks := by
  rw [keySets, List.mem_filterMap, Answered]
  constructor
  · intro ⟨p, hp, hks⟩
    split at hks
    · cases hks
      exact hp
    · cases hks
  · exact fun h => ⟨_, h, rfl⟩

/-- All calls for an algorithm have one key id. -/
def OneKeyID : Prop :=
  ∀ a ∈ keySets st, ∀ b ∈ keySets st, a.algorithm = b.algorithm → a.keyID = b.keyID

instance (st : KeyPool Priv Pub) : Decidable (OneKeyID st) :=
  inferInstanceAs (Decidable (∀ a ∈ keySets st, ∀ b ∈ keySets st, a.algorithm = b.algorithm → a.keyID = b.keyID))

/-- A key is not stored, or is the first one for its algorithm. -/
def NoKeyYet : KeyStmt → KeyTable → Prop
  | .create row, t => createOIDCKeyChecks row t = .ok () → ∀ r ∈ t, r.algorithm ≠ row.algorithm
  | _, _ => True

variable (lib : KeyLib Priv Pub)

structure Holds (r : OIDCKeyRow) (ks : KeySet Priv Pub) : Prop where
  algorithm : r.algorithm = ks.algorithm
  keyID : r.keyID = ks.keyID
  parses : parseKeySetPEM lib r.privateKey r.publicKey r.algorithm = .ok ks

inductive KeyStage : KeyStore.KeyM (KeySet Priv Pub) → Prop
  | loadOrGenerate (algorithm : String) (pick draw : Nat) : KeyStage (KeyStore.loadOrGenerate lib algorithm pick draw)
  | store (ks : KeySet Priv Pub) (privPEM pubPEM : String)
      (h : Holds lib ⟨0, ks.keyID, privPEM, pubPEM, ks.algorithm⟩ ks) :
      KeyStage (KeyStore.store ks ks.algorithm privPEM pubPEM)
  | done (r : Except Err (KeySet Priv Pub)) : KeyStage (.done r)

/-- The rows and the answers are the same keys, and no two rows have one key id. -/
structure KeysSound (st : KeyPool Priv Pub) : Prop where
  stage : ∀ p ∈ st.threads, KeyStage lib p
  answered : ∀ r ∈ st.store, ∃ ks, Answered st ks ∧ Holds lib r ks
  stored : ∀ ks, Answered st ks → ∃ r ∈ st.store, Holds lib r ks
  unique : ∀ r ∈ st.store, ∀ r' ∈ st.store, r.keyID = r'.keyID → r = r'

variable {lib} {st : KeyPool Priv Pub}

theorem keysSound_init : KeysSound lib (.init .empty : KeyPool Priv Pub) := by
  refine ⟨fun p hp => ?_, fun r hr => ?_, fun ks hks => ?_, fun r hr => ?_⟩
  · cases hp
  · exact absurd hr (Table.not_mem_empty r)
  · cases hks
  · exact absurd hr (Table.not_mem_empty r)

theorem keyID_ne_of_checks {row : OIDCKeyRow} {t : KeyTable} (h : createOIDCKeyChecks row t = .ok ()) :
    ∀ r ∈ t, r.keyID ≠ row.keyID := by
  have hunique := (firstViolation_eq_ok_iff _).1 h _ (List.mem_cons_of_mem _ (List.mem_cons_of_mem _ List.mem_cons_self))
  simpa [Table.exists?_eq_false] using hunique

theorem Holds.eq {r : OIDCKeyRow} {ks' : KeySet Priv Pub} (h : Holds lib r ks) (h' : Holds lib r ks') : ks = ks' :=
  Except.ok.inj (h.parses.symm.trans h'.parses)

theorem KeysSound.answered_of_parses (h : KeysSound lib st) {r : OIDCKeyRow} (hr : r ∈ st.store) (hks : parseKeySetPEM lib r.privateKey r.publicKey r.algorithm = .ok ks) : Answered st ks := by
  obtain ⟨ks', hanswered, hholds⟩ := h.answered r hr
  have heq : ks' = ks := Except.ok.inj (hholds.parses.symm.trans hks)
  exact heq ▸ hanswered

theorem KeysSound.eq_of_keyID_eq (h : KeysSound lib st) {a b : KeySet Priv Pub} (ha : Answered st a)
    (hb : Answered st b) (hid : a.keyID = b.keyID) : a = b := by
  obtain ⟨r, hr, hra⟩ := h.stored a ha
  obtain ⟨r', hr', hrb⟩ := h.stored b hb
  have hsame := h.unique r hr r' hr' (hra.keyID.trans (hid.trans hrb.keyID.symm))
  subst hsame
  exact hra.eq hrb

theorem stage_generate (algorithm : String) (draw : Nat) : KeyStage lib (KeyStore.generate lib algorithm draw) := by
  rw [KeyStore.generate]
  split
  · exact .done _
  next ks hks =>
    split
    · exact .done _
    next privPEM pubPEM hpem =>
      -- the key set has the algorithm it was asked for and the id of its public key
      have hfields : ks.algorithm = algorithm ∧ ks.keyID = lib.computeKeyID ks.publicKey := by
        rw [generateKeySet] at hks
        split at hks
        · cases hg : lib.generate algorithm draw with
          | error e =>
            rw [hg] at hks
            cases hks
          | ok k =>
            rw [hg] at hks
            cases hks
            exact ⟨rfl, rfl⟩
        · cases hks
      rw [← hfields.1]
      refine .store ks privPEM pubPEM ⟨rfl, rfl, ?_⟩
      rw [parseKeySetPEM, lib.parse_marshal _ _ _ _ hpem]
      show Except.ok (⟨ks.privateKey, ks.publicKey, lib.computeKeyID ks.publicKey, ks.algorithm⟩ : KeySet Priv Pub) = .ok ks
      rw [← hfields.2]

/-- What an event does: calls end with key sets of rows, or with a new one that is stored. -/
inductive KeyStep (lib : KeyLib Priv Pub) (st : KeyPool Priv Pub) (e : Event KeyCall) : Prop
  | quiet (hstore : ((keySystem lib).step st e).store = st.store)
      (hanswers : ∀ ks, Answered ((keySystem lib).step st e) ks ↔ Answered st ks)
      (hmeets : (keySystem lib).Meets NoKeyYet st e)
  | stores (row : OIDCKeyRow) (ks : KeySet Priv Pub) (hholds : Holds lib row ks)
      (hchecks : createOIDCKeyChecks row st.store = .ok ())
      (hstore : ((keySystem lib).step st e).store = st.store.insert row)
      (hanswers : ∀ ks', Answered ((keySystem lib).step st e) ks' ↔ Answered st ks' ∨ ks' = ks)
      (hmeets : (keySystem lib).Meets NoKeyYet st e ↔ ∀ r ∈ st.store, r.algorithm ≠ row.algorithm)

theorem generate_ne_done (algorithm : String) (draw : Nat) (ks : KeySet Priv Pub) :
    .done (.ok ks) ≠ KeyStore.generate lib algorithm draw := by
  rw [KeyStore.generate]
  split
  · exact fun h => by cases h
  · split <;> exact fun h => by cases h

theorem mem_of_getOIDCKey {algorithm : String} {pick : Nat} {t t' : KeyTable} {row : OIDCKeyRow}
    (h : (getOIDCKey algorithm pick).run t = (.ok (some row), t')) : row ∈ t := by
  have hfound := Except.ok.inj (congrArg Prod.fst h)
  exact (Table.mem_select.1 (List.mem_of_getElem? hfound)).1

variable (h : KeysSound lib st)

include h

theorem stage_set {i : Nat} {p : KeyStore.KeyM (KeySet Priv Pub)} (hp : KeyStage lib p) :
    ∀ p' ∈ st.threads.set i p, KeyStage lib p' := by
  intro p' hp'
  rcases List.mem_or_eq_of_mem_set hp' with hold | rfl
  · exact h.stage p' hold
  · exact hp

theorem key_step_get {i : Nat} {algorithm : String} {pick draw : Nat}
    (hi : st.threads[i]? = some (KeyStore.loadOrGenerate lib algorithm pick draw)) :
    KeyStep lib st (.step i) ∧ ∀ p ∈ ((keySystem lib).step st (.step i)).threads, KeyStage lib p := by
  have hmeets : (keySystem lib).Meets NoKeyYet st (.step i) :=
    (System.meets_step (keySystem lib) NoKeyYet hi rfl).2 trivial
  -- the program it goes on with has no answer that is new
  have hgoes : ∀ p, (keySystem lib).step st (.step i) = ⟨st.store, st.threads.set i p⟩ → KeyStage lib p →
      (∀ ks, .done (.ok ks) = p → Answered st ks) →
      KeyStep lib st (.step i) ∧ ∀ p ∈ ((keySystem lib).step st (.step i)).threads, KeyStage lib p := by
    intro p hstep hstage hold
    refine ⟨.quiet (by rw [hstep]) (fun ks => ?_) hmeets, by rw [hstep]; exact stage_set h hstage⟩
    rw [hstep]
    exact (Pool.done_mem_set hi p (.ok ks)).trans (or_iff_left_of_imp (hold ks))
  rcases hrow : ((KeyStmt.get algorithm pick).sem.run st.store).1 with err | row
  · cases hrow
  have hrun : (KeyStmt.get algorithm pick).sem.run st.store = (.ok row, st.store) := Prod.ext hrow rfl
  have hstep := System.step_of_run (keySystem lib) hi rfl hrun
  cases row with
  | none =>
    exact hgoes _ hstep (stage_generate algorithm draw) fun ks hks => absurd hks (generate_ne_done algorithm draw ks)
  | some row =>
    refine hgoes _ hstep (.done _) fun ks hks => h.answered_of_parses (mem_of_getOIDCKey hrun) ?_
    cases hparse : parseKeySetPEM lib row.privateKey row.publicKey row.algorithm with
    | error err =>
      have hks : .done (.ok ks) = KeyStore.load lib row := hks
      rw [KeyStore.load, hparse] at hks
      cases hks
    | ok ks' =>
      have hks : .done (.ok ks) = KeyStore.load lib row := hks
      rw [KeyStore.load, hparse] at hks
      cases hks
      rfl

theorem key_step_create {i : Nat} {privPEM pubPEM : String}
    (hholds : Holds lib ⟨0, ks.keyID, privPEM, pubPEM, ks.algorithm⟩ ks)
    (hi : st.threads[i]? = some (KeyStore.store ks ks.algorithm privPEM pubPEM)) :
    KeyStep lib st (.step i) ∧ ∀ p ∈ ((keySystem lib).step st (.step i)).threads, KeyStage lib p := by
  let row : OIDCKeyRow := ⟨0, ks.keyID, privPEM, pubPEM, ks.algorithm⟩
  have hmeets := System.meets_step (keySystem lib) NoKeyYet hi rfl
  cases hchecks : createOIDCKeyChecks row st.store with
  | error err =>
    have hrun : (createOIDCKey row).run st.store = (.error err, st.store) := Slot.run_insert_of_error hchecks
    have hstep := System.step_of_run (keySystem lib) hi rfl hrun
    refine ⟨.quiet (by rw [hstep]) (fun ks' => ?_) (hmeets.2 ?_), by rw [hstep]; exact stage_set h (.done _)⟩
    · rw [hstep]
      exact (Pool.done_mem_set hi _ (.ok ks')).trans (or_iff_left_of_imp fun hks => by cases hks)
    · intro hok
      cases hchecks.symm.trans hok
  | ok u =>
    have hrun : (createOIDCKey row).run st.store = (.ok (st.store.inserted row), st.store.insert row) :=
      Slot.insert_ok_iff.2 ⟨hchecks, rfl, rfl⟩
    have hstep := System.step_of_run (keySystem lib) hi rfl hrun
    refine ⟨.stores row ks hholds hchecks (by rw [hstep]) (fun ks' => ?_) (hmeets.trans ?_),
      by rw [hstep]; exact stage_set h (.done _)⟩
    · rw [hstep]
      refine (Pool.done_mem_set hi _ (.ok ks')).trans (or_congr_right ⟨fun hks => ?_, fun hks => ?_⟩)
      · cases hks
        rfl
      · rw [hks]
        rfl
    · exact ⟨fun hno => hno hchecks, fun hno _ => hno⟩

theorem key_step (e : Event KeyCall) :
    KeyStep lib st e ∧ ∀ p ∈ ((keySystem lib).step st e).threads, KeyStage lib p := by
  cases e with
  | call c =>
    refine ⟨.quiet rfl (fun ks => ?_) (System.meets_call _ _ _ _), fun p hp => ?_⟩
    · refine ⟨fun hks => ?_, fun hks => List.mem_append_left _ hks⟩
      exact (List.mem_append.1 hks).resolve_right fun hnew => by cases List.mem_singleton.1 hnew
    · rcases List.mem_append.1 hp with hp | hp
      · exact h.stage p hp
      · rw [List.mem_singleton.1 hp]
        exact .loadOrGenerate _ _ _
  | step i =>
    cases hnext : st.next? i with
    | none =>
      obtain ⟨hstep, hmeets⟩ := System.step_idle (keySystem lib) hnext NoKeyYet
      exact ⟨.quiet (by rw [hstep]) (fun ks => by rw [hstep]) hmeets, by rw [hstep]; exact h.stage⟩
    | some q =>
      obtain ⟨p, hi, hq⟩ := Option.bind_eq_some_iff.1 hnext
      cases h.stage p (List.mem_of_getElem? hi) with
      | loadOrGenerate algorithm pick draw => exact key_step_get h hi
      | store ks privPEM pubPEM hholds => exact key_step_create h hholds hi
      | done r => cases hq

theorem KeysSound.step (e : Event KeyCall) : KeysSound lib ((keySystem lib).step st e) := by
  obtain ⟨hstep, hstage⟩ := key_step h e
  cases hstep with
  | quiet hstore hanswers hmeets =>
    refine ⟨hstage, ?_, ?_, ?_⟩ <;> rw [hstore]
    · exact fun r hr => (h.answered r hr).imp fun ks hks => ⟨(hanswers ks).2 hks.1, hks.2⟩
    · exact fun ks hks => h.stored ks ((hanswers ks).1 hks)
    · exact h.unique
  | stores row ks hholds hchecks hstore hanswers hmeets =>
    have hnew : Holds lib (st.store.inserted row) ks := ⟨hholds.algorithm, hholds.keyID, hholds.parses⟩
    have hfresh := keyID_ne_of_checks hchecks
    refine ⟨hstage, ?_, ?_, ?_⟩ <;> rw [hstore]
    · intro r hr
      rcases Table.mem_insert.1 hr with hr | rfl
      · exact (h.answered r hr).imp fun ks' hks => ⟨(hanswers ks').2 (.inl hks.1), hks.2⟩
      · exact ⟨ks, (hanswers ks).2 (.inr rfl), hnew⟩
    · intro ks' hks
      rcases (hanswers ks').1 hks with hold | rfl
      · obtain ⟨r, hr, hheld⟩ := h.stored ks' hold
        exact ⟨r, Table.mem_insert.2 (.inl hr), hheld⟩
      · exact ⟨_, Table.mem_insert.2 (.inr rfl), hnew⟩
    · intro r hr r' hr' hid
      rcases Table.mem_insert.1 hr with hr | rfl <;> rcases Table.mem_insert.1 hr' with hr' | rfl
      · exact h.unique r hr r' hr' hid
      · exact absurd hid (hfresh r hr)
      · exact absurd hid.symm (hfresh r' hr')
      · rfl

theorem oneKeyID_step (hone : OneKeyID st) (e : Event KeyCall) :
    OneKeyID ((keySystem lib).step st e) ↔ (keySystem lib).Meets NoKeyYet st e := by
  have hone' : ∀ a b, Answered st a → Answered st b → a.algorithm = b.algorithm → a.keyID = b.keyID :=
    fun a b ha hb => hone a (mem_keySets.2 ha) b (mem_keySets.2 hb)
  cases (key_step h e).1 with
  | quiet hstore hanswers hmeets =>
    refine iff_of_true (fun a ha b hb => ?_) hmeets
    exact hone' a b ((hanswers a).1 (mem_keySets.1 ha)) ((hanswers b).1 (mem_keySets.1 hb))
  | stores row ks hholds hchecks hstore hanswers hmeets =>
    rw [hmeets]
    constructor
    · -- a row for the algorithm was an answer, so it would have the id of the new one
      intro hnext r hr halg
      obtain ⟨ks', hanswered, hheld⟩ := h.answered r hr
      have hid := hnext ks' (mem_keySets.2 ((hanswers ks').2 (.inl hanswered))) ks (mem_keySets.2 ((hanswers ks).2 (.inr rfl)))
        (hheld.algorithm.symm.trans (halg.trans hholds.algorithm))
      exact keyID_ne_of_checks hchecks r hr (hheld.keyID.trans (hid.trans hholds.keyID.symm))
    · intro hno a ha b hb halg
      have hnew : ∀ c, Answered st c → c.algorithm ≠ ks.algorithm := by
        intro c hc heq
        obtain ⟨r, hr, hheld⟩ := h.stored c hc
        exact hno r hr (hheld.algorithm.trans (heq.trans hholds.algorithm.symm))
      rcases (hanswers a).1 (mem_keySets.1 ha) with ha | rfl <;> rcases (hanswers b).1 (mem_keySets.1 hb) with hb | rfl
      · exact hone' a b ha hb halg
      · exact absurd halg (hnew a ha)
      · exact absurd halg.symm (hnew b hb)
      · rfl

omit h

variable (lib)

/-- All calls for an algorithm that succeed have one key id, in every state, exactly if no key is stored
for an algorithm that has one already. Answers with one key id are one key set. -/
theorem one_signing_key_iff (es : List (Event KeyCall)) :
    ((∀ st ∈ Transition.states (keySystem lib).step (.init .empty) es, OneKeyID st) ↔
        Transition.Along (keySystem lib).step ((keySystem lib).Meets NoKeyYet) (.init .empty) es) ∧
      ∀ st ∈ Transition.states (keySystem lib).step (.init .empty) es,
        ∀ a ∈ keySets st, ∀ b ∈ keySets st, a.keyID = b.keyID → a = b := by
  have hinit : KeysSound lib (.init .empty : KeyPool Priv Pub) := keysSound_init
  have hstep : ∀ (st : KeyPool Priv Pub) e, KeysSound lib st → KeysSound lib ((keySystem lib).step st e) :=
    fun st e h => h.step e
  refine ⟨?_, fun st hst a ha b hb hid => ?_⟩
  · refine Transition.forall_states_iff hstep (fun st e h hone => oneKeyID_step h hone e) hinit ?_ es
    exact fun a ha => by cases ha
  · have hsound := Transition.forall_states_of_step hstep hinit es st hst
    exact hsound.eq_of_keyID_eq (mem_keySets.1 ha) (mem_keySets.1 hb) hid

end Results

/-! Two servers start together. -/

def numberKeys : KeyLib Nat Nat where
  generate _ draw := .ok (draw, draw)
  computeKeyID pub := String.ofList (List.replicate pub 'k')
  marshal priv pub := .ok (String.ofList (List.replicate priv 'p'), String.ofList (List.replicate pub 'q'))
  parse privPEM pubPEM := .ok (privPEM.length, pubPEM.length)
  parse_marshal := by
    intro priv pub privPEM pubPEM h
    cases h
    simp

/-- Both find no key, and each stores and uses its own. A third server then has the key
of the first or of the second, as the read gives it. -/
theorem two_signing_keys :
    let start : List (Event KeyCall) := [.call ⟨"EdDSA", 0, 1⟩, .call ⟨"EdDSA", 0, 2⟩, .step 0, .step 1, .step 0, .step 1]
    let two := Transition.run (keySystem numberKeys).step (.init .empty) start
    (keySets two).map (·.keyID) = ["k", "kk"] ∧ ¬ OneKeyID two ∧
      ∀ pick < 2, ((keySets (Transition.run (keySystem numberKeys).step two [.call ⟨"EdDSA", pick, 3⟩, .step 2])).map
        (·.keyID))[2]? = ["k", "kk"][pick]? := by
  decide

end Vraxel.Oidc
