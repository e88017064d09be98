import Vraxel.Lib.Run
import Vraxel.Iam.UserPermissions
/-
  The permission store of the frontend (`ui/src/core/permission/permission-store.ts`). Concurrent
  loads share one request through the module variable `fetchPromise`, and every change of the
  signed-in user clears the store.
-/

namespace Vraxel.Ui.PermissionStore

open Iam

/-- A request to the server, with the number of clears before it and the call that started it. -/
structure Fetch where
  userId : String
  clears : Nat
  call : Nat
  pending : Bool
  deriving DecidableEq

/-- A call of `fetchPermissions`, and the request whose promise it returned. -/
structure Call where
  userId : String
  clears : Nat
  fetch : Nat
  deriving DecidableEq

structure State where
  permissions : Option (Nat × UserPermissionsSpec)
  loading : Bool
  fetchPromise : Option Nat
  fetches : List Fetch
  calls : List Call
  clears : Nat
  deriving DecidableEq

def State.initial : State := ⟨none, false, none, [], [], 0⟩

variable (s : State)

def joinFetch (userId : String) (k : Nat) : State :=
  { s with calls := s.calls ++ [⟨userId, s.clears, k⟩] }

def startFetch (userId : String) : State :=
  { s with
    loading := true
    fetchPromise := some s.fetches.length
    fetches := s.fetches ++ [⟨userId, s.clears, s.calls.length, true⟩]
    calls := s.calls ++ [⟨userId, s.clears, s.fetches.length⟩] }

def fetchPermissions (userId : String) : State :=
  match s.fetchPromise with
  | some k => joinFetch s userId k
  | none => startFetch s userId

def noPermissions : UserPermissionsSpec := ⟨false, [], [], []⟩

def answerFetch (k : Nat) (f : Fetch) (spec : UserPermissionsSpec) : State :=
  { s with
    permissions := some (k, spec)
    loading := false
    fetchPromise := none
    fetches := s.fetches.set k { f with pending := false } }

def settle (k : Nat) (answer : Option UserPermissionsSpec) : State :=
  match s.fetches[k]? with
  | none => s
  | some f => if f.pending then answerFetch s k f (answer.getD noPermissions) else s

def clearPermissions : State :=
  { s with permissions := none, loading := false, fetchPromise := none, clears := s.clears + 1 }

inductive Event where
  | fetchPermissions (userId : String)
  | settle (k : Nat) (answer : Option UserPermissionsSpec)
  | clearPermissions

def step : Event → State
  | .fetchPermissions userId => fetchPermissions s userId
  | .settle k answer => settle s k answer
  | .clearPermissions => clearPermissions s

/-! What the store should keep. -/

/-- The permissions held come from a request that was started after the last clear. -/
def Fresh : Prop :=
  ∀ k spec, s.permissions = some (k, spec) → ∃ f, s.fetches[k]? = some f ∧ f.clears = s.clears

def Answered (c : Call) : Prop :=
  ∃ f, s.fetches[c.fetch]? = some f ∧ f.pending = false

/-- What a call made after a clear finds once it is answered was not loaded for another user by an
earlier request. -/
def OwnUser : Prop :=
  ∀ i c, s.calls[i]? = some c → 0 < c.clears → Answered s c →
    ∀ k spec f, s.permissions = some (k, spec) → s.fetches[k]? = some f → f.call < i → f.userId = c.userId

/-- The permissions stay on their side of every clear. -/
def Inside : Prop := Fresh s ∧ OwnUser s

/-- A request is answered before the next clear, and the calls that wait for it are for its user. -/
def InTime : Event → Prop
  | .settle k _ => ∀ f, s.fetches[k]? = some f → f.pending = true →
      f.clears = s.clears ∧ ∀ c ∈ s.calls, c.fetch = k → 0 < c.clears → c.userId = f.userId
  | _ => True

/-! The invariant of the runs whose answers come in time: the request under way since the last clear is
the one `fetchPromise` names, and every later call waits for it. -/

structure Inv (s : State) : Prop where
  clears_le : ∀ (k : Nat) (f : Fetch), s.fetches[k]? = some f → f.clears ≤ s.clears
  call_lt : ∀ (k : Nat) (f : Fetch), s.fetches[k]? = some f → f.call < s.calls.length
  fetch_lt : ∀ (i : Nat) (c : Call), s.calls[i]? = some c → c.fetch < s.fetches.length
  -- a call waits for a request of its own or for one that was there before
  earlier : ∀ (i : Nat) (c : Call) (f : Fetch), s.calls[i]? = some c → s.fetches[c.fetch]? = some f →
    c.userId = f.userId ∨ f.call < i
  promise : ∀ k : Nat, s.fetchPromise = some k → ∃ f, s.fetches[k]? = some f ∧ f.pending = true
  underWay : ∀ (k : Nat) (f : Fetch), s.fetches[k]? = some f → f.pending = true → f.clears = s.clears →
    s.fetchPromise = some k
  joined : ∀ (k : Nat) (f : Fetch) (i : Nat) (c : Call), s.fetches[k]? = some f → f.pending = true →
    f.clears = s.clears → s.calls[i]? = some c → f.call < i → c.fetch = k
  fresh : Fresh s
  own : OwnUser s

theorem inv_initial : Inv State.initial := by
  constructor <;> simp [State.initial, Fresh, OwnUser]

theorem getElem?_concat_eq_some {α : Type} {l : List α} {a b : α} {i : Nat} (h : (l ++ [a])[i]? = some b) :
    l[i]? = some b ∨ (i = l.length ∧ b = a) := by
  rcases Nat.lt_trichotomy i l.length with hlt | heq | hgt
  · left
    rwa [List.getElem?_append_left hlt] at h
  · subst heq
    simpa [eq_comm] using h
  · have hle : (l ++ [a]).length ≤ i := by simpa using hgt
    rw [List.getElem?_eq_none hle] at h
    cases h

theorem lt_of_getElem? {α : Type} {l : List α} {a : α} {i : Nat} (h : l[i]? = some a) : i < l.length :=
  (List.getElem?_eq_some_iff.1 h).1

namespace Inv

variable {s : State}

theorem join (h : Inv s) {k : Nat} (hk : s.fetchPromise = some k) (userId : String) :
    Inv (joinFetch s userId k) := by
  obtain ⟨f, hf, hpending⟩ := h.promise k hk
  unfold joinFetch
  constructor
  · exact h.clears_le
  · intro j g hg
    have := h.call_lt j g hg
    simp only [List.length_append, List.length_singleton]
    omega
  · intro i c hc
    rcases getElem?_concat_eq_some hc with hc | ⟨_, rfl⟩
    · exact h.fetch_lt i c hc
    · exact lt_of_getElem? hf
  · intro i c g hc hg
    rcases getElem?_concat_eq_some hc with hc | ⟨rfl, rfl⟩
    · exact h.earlier i c g hc hg
    · exact Or.inr (h.call_lt k g hg)
  · exact h.promise
  · exact h.underWay
  · intro j g i c hg hgp hgc hc hlt
    rcases getElem?_concat_eq_some hc with hc | ⟨_, rfl⟩
    · exact h.joined j g i c hg hgp hgc hc hlt
    · -- the request under way is the one the promise names
      exact Option.some.inj (hk.symm.trans (h.underWay j g hg hgp hgc))
  · exact h.fresh
  · intro i c hc hclears hans
    rcases getElem?_concat_eq_some hc with hc | ⟨_, rfl⟩
    · exact h.own i c hc hclears hans
    · obtain ⟨g, hg, hdone⟩ := hans
      rw [show s.fetches[k]? = some g from hg] at hf
      cases hf
      rw [hpending] at hdone
      cases hdone

theorem start (h : Inv s) (hnone : s.fetchPromise = none) (userId : String) : Inv (startFetch s userId) := by
  have hkeep : ∀ {i : Nat} {c : Call}, s.calls[i]? = some c → ∀ {g : Fetch},
      (s.fetches ++ [(⟨userId, s.clears, s.calls.length, true⟩ : Fetch)])[c.fetch]? = some g →
        s.fetches[c.fetch]? = some g := by
    intro i c hc g hg
    rwa [List.getElem?_append_left (h.fetch_lt i c hc)] at hg
  unfold startFetch
  constructor
  · intro k f hf
    rcases getElem?_concat_eq_some hf with hf | ⟨_, rfl⟩
    · exact h.clears_le k f hf
    · exact Nat.le_refl _
  · intro k f hf
    simp only [List.length_append, List.length_singleton]
    rcases getElem?_concat_eq_some hf with hf | ⟨_, rfl⟩
    · have := h.call_lt k f hf
      omega
    · exact Nat.lt_succ_self _
  · intro i c hc
    simp only [List.length_append, List.length_singleton]
    rcases getElem?_concat_eq_some hc with hc | ⟨_, rfl⟩
    · have := h.fetch_lt i c hc
      omega
    · exact Nat.lt_succ_self _
  · intro i c f hc hf
    rcases getElem?_concat_eq_some hc with hc | ⟨_, rfl⟩
    · exact h.earlier i c f hc (hkeep hc hf)
    · left
      rcases getElem?_concat_eq_some hf with hf | ⟨_, rfl⟩
      · exact absurd (lt_of_getElem? hf) (Nat.lt_irrefl _)
      · rfl
  · intro k hk
    cases hk
    exact ⟨_, List.getElem?_concat_length, rfl⟩
  · intro k f hf hpending hclears
    rcases getElem?_concat_eq_some hf with hf | ⟨rfl, _⟩
    · have := h.underWay k f hf hpending hclears
      rw [hnone] at this
      cases this
    · rfl
  · intro k f i c hf hpending hclears hc hlt
    rcases getElem?_concat_eq_some hf with hf | ⟨rfl, rfl⟩
    · have := h.underWay k f hf hpending hclears
      rw [hnone] at this
      cases this
    · -- no call is later than the one that starts the request
      have hi := lt_of_getElem? hc
      simp only [List.length_append, List.length_singleton] at hi hlt
      omega
  · intro k spec hk
    obtain ⟨f, hf, hclears⟩ := h.fresh k spec hk
    exact ⟨f, by rw [List.getElem?_append_left (lt_of_getElem? hf)]; exact hf, hclears⟩
  · intro i c hc hclears hans k spec f hk hf hlt
    obtain ⟨f', hf', _⟩ := h.fresh k spec hk
    rw [List.getElem?_append_left (lt_of_getElem? hf')] at hf
    rcases getElem?_concat_eq_some hc with hc | ⟨_, rfl⟩
    · obtain ⟨g, hg, hdone⟩ := hans
      exact h.own i c hc hclears ⟨g, hkeep hc hg, hdone⟩ k spec f hk hf hlt
    · -- the new call is not answered yet
      obtain ⟨g, hg, hdone⟩ := hans
      rcases getElem?_concat_eq_some hg with hg | ⟨_, rfl⟩
      · exact absurd (lt_of_getElem? hg) (Nat.lt_irrefl _)
      · cases hdone

theorem clear (h : Inv s) : Inv (clearPermissions s) := by
  -- no request has been started since this clear
  have hold : ∀ {k : Nat} {f : Fetch}, s.fetches[k]? = some f → f.clears ≠ s.clears + 1 := by
    intro k f hf heq
    have := h.clears_le k f hf
    omega
  constructor
  · intro k f hf
    exact Nat.le_succ_of_le (h.clears_le k f hf)
  · exact h.call_lt
  · exact h.fetch_lt
  · exact h.earlier
  · intro k hk
    cases hk
  · intro k f hf _ hclears
    exact absurd hclears (hold hf)
  · intro k f i c hf _ hclears
    exact absurd hclears (hold hf)
  · intro k spec hk
    cases hk
  · intro i c _ _ _ k spec f hk
    cases hk

end Inv

theorem getElem?_answer {fetches : List Fetch} {k j : Nat} {f g : Fetch} (hf : fetches[k]? = some f)
    (hg : (fetches.set k { f with pending := false })[j]? = some g) :
    (j = k ∧ g = { f with pending := false }) ∨ (j ≠ k ∧ fetches[j]? = some g) := by
  by_cases hjk : j = k
  · subst hjk
    rw [List.getElem?_set_self (lt_of_getElem? hf)] at hg
    exact Or.inl ⟨rfl, (Option.some.inj hg).symm⟩
  · rw [List.getElem?_set_ne (Ne.symm hjk)] at hg
    exact Or.inr ⟨hjk, hg⟩

theorem Inv.answer {s : State} (h : Inv s) {k : Nat} {f : Fetch} (hf : s.fetches[k]? = some f) (hpending : f.pending = true)
    (hfresh : f.clears = s.clears) (hown : ∀ c ∈ s.calls, c.fetch = k → 0 < c.clears → c.userId = f.userId)
    (spec : UserPermissionsSpec) : Inv (answerFetch s k f spec) := by
  have hk : s.fetchPromise = some k := h.underWay k f hf hpending hfresh
  -- no other request is under way since the last clear
  have halone : ∀ {j : Nat} {g : Fetch}, j ≠ k → s.fetches[j]? = some g → g.pending = true → g.clears ≠ s.clears := by
    intro j g hjk hg hp hc
    have := h.underWay j g hg hp hc
    rw [hk] at this
    exact hjk (Option.some.inj this).symm
  unfold answerFetch
  constructor
  · intro j g hg
    rcases getElem?_answer hf hg with ⟨_, rfl⟩ | ⟨_, hg⟩
    · exact h.clears_le k f hf
    · exact h.clears_le j g hg
  · intro j g hg
    rcases getElem?_answer hf hg with ⟨_, rfl⟩ | ⟨_, hg⟩
    · exact h.call_lt k f hf
    · exact h.call_lt j g hg
  · intro i c hc
    rw [List.length_set]
    exact h.fetch_lt i c hc
  · intro i c g hc hg
    rcases getElem?_answer hf hg with ⟨hck, rfl⟩ | ⟨_, hg⟩
    · exact h.earlier i c f hc (hck ▸ hf)
    · exact h.earlier i c g hc hg
  · intro j hj
    cases hj
  · intro j g hg hp hc
    rcases getElem?_answer hf hg with ⟨_, rfl⟩ | ⟨hjk, hg⟩
    · cases hp
    · exact absurd hc (halone hjk hg hp)
  · intro j g i c hg hp hclears
    rcases getElem?_answer hf hg with ⟨_, rfl⟩ | ⟨hjk, hg⟩
    · cases hp
    · exact absurd hclears (halone hjk hg hp)
  · intro j spec' hj
    cases hj
    exact ⟨_, List.getElem?_set_self (lt_of_getElem? hf), hfresh⟩
  · intro i c hc hclears _ j spec' g hj hg hlt
    cases hj
    rcases getElem?_answer hf hg with ⟨_, rfl⟩ | ⟨hne, _⟩
    · -- every call after the one that started the request waits for it
      have hck : c.fetch = k := h.joined k f i c hf hpending hfresh hc hlt
      exact (hown c (List.mem_of_getElem? hc) hck hclears).symm
    · exact absurd rfl hne

theorem inv_step {s : State} (h : Inv s) (e : Event) (he : InTime s e) : Inv (step s e) := by
  cases e with
  | fetchPermissions userId =>
    cases hk : s.fetchPromise with
    | none => simpa only [step, fetchPermissions, hk] using h.start hk userId
    | some k => simpa only [step, fetchPermissions, hk] using h.join hk userId
  | clearPermissions => exact h.clear
  | settle k answer =>
    simp only [step, settle]
    cases hf : s.fetches[k]? with
    | none => exact h
    | some f =>
      cases hp : f.pending with
      | false => simpa [hp] using h
      | true =>
        obtain ⟨hfresh, hown⟩ := he f hf hp
        simpa [hp] using h.answer hf hp hfresh hown (answer.getD noPermissions)

/-- A step to a good state met the condition: the state after an answer shows whose permissions it put
in the store, and to whom. -/
theorem inTime_of_inside {s : State} (h : Inv s) (e : Event) (hin : Inside (step s e)) : InTime s e := by
  cases e with
  | fetchPermissions userId => trivial
  | clearPermissions => trivial
  | settle k answer =>
    intro f hf hpending
    have hstep : step s (.settle k answer) = answerFetch s k f (answer.getD noPermissions) := by
      simp [step, settle, hf, hpending]
    rw [hstep, answerFetch] at hin
    obtain ⟨hfresh, hown⟩ := hin
    have hset : (s.fetches.set k { f with pending := false })[k]? = some { f with pending := false } :=
      List.getElem?_set_self (lt_of_getElem? hf)
    constructor
    · obtain ⟨g, hg, hclears⟩ := hfresh k _ rfl
      rw [hset] at hg
      cases hg
      exact hclears
    · intro c hc hck hclears
      obtain ⟨i, hi⟩ := List.mem_iff_getElem?.1 hc
      rcases h.earlier i c f hi (hck ▸ hf) with heq | hlt
      · exact heq
      · have hans : Answered (answerFetch s k f (answer.getD noPermissions)) c :=
          ⟨{ f with pending := false }, by rw [hck]; exact hset, rfl⟩
        exact (hown i c hi hclears hans k _ _ rfl hset hlt).symm

/-- In a run the permissions stay on their side of every clear exactly if every request is answered in
time. -/
theorem inside_boundary_iff (es : List Event) :
    (∀ s ∈ Transition.states step State.initial es, Inside s) ↔ Transition.Along step InTime State.initial es :=
  Transition.forall_states_iff_of_inv (D := fun _ => True) (fun s (h : Inv s) => ⟨h.fresh, h.own⟩)
    (fun _ e h _ he => inv_step h e he) (fun _ e h _ hin => inTime_of_inside h e hin) inv_initial (fun _ _ => trivial)

def signedOut : List Event :=
  [.fetchPermissions "ana", .clearPermissions, .fetchPermissions "bo", .settle 1 none,
    .settle 0 (some ⟨true, [], [], []⟩)]

/-- The store holds Ana's permissions, and Bo's call finds them. -/
theorem answered_across_clear :
    Transition.run step State.initial signedOut =
      ⟨some (0, ⟨true, [], [], []⟩), false, none, [⟨"ana", 0, 0, false⟩, ⟨"bo", 1, 1, false⟩],
        [⟨"ana", 0, 0⟩, ⟨"bo", 1, 1⟩], 1⟩ ∧
    ¬ Fresh (Transition.run step State.initial signedOut) ∧ ¬ OwnUser (Transition.run step State.initial signedOut) := by
  have hrun : Transition.run step State.initial signedOut =
      ⟨some (0, ⟨true, [], [], []⟩), false, none, [⟨"ana", 0, 0, false⟩, ⟨"bo", 1, 1, false⟩],
        [⟨"ana", 0, 0⟩, ⟨"bo", 1, 1⟩], 1⟩ := by decide
  refine ⟨rfl, ?_, ?_⟩
  · intro h
    obtain ⟨f, hf, hclears⟩ := h 0 _ rfl
    cases hf
    cases hclears
  · intro h
    have := h 1 ⟨"bo", 1, 1⟩ rfl (by decide) ⟨_, rfl, rfl⟩ 0 _ _ rfl rfl (by decide)
    revert this
    decide

end Vraxel.Ui.PermissionStore
