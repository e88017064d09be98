import Vraxel.Lib.Run
import Vraxel.Go.Strconv
/-
  Terminals and log streams of a user (`lib/websocket/session.go`, `runTerminalSession` of
  `pkg/apis/compute/terminal.go`, `runLogsSession` of `logs.go`). The methods of the manager are
  atomic, and between them anything can happen.
-/

namespace Vraxel.Compute

open Strconv Transition

structure Session where
  id : String
  userID : String
  resource : String
  resourceID : String
  label : String

structure SessionManager where
  sessions : String → List Session
  byID : String → Option Session
  counter : Nat
  instanceID : String

variable (m : SessionManager)

namespace SessionManager

def new (instanceID : String) : SessionManager := ⟨fun _ => [], fun _ => none, 0, instanceID⟩

def sessionID (n : Nat) : String := m.instanceID ++ "-" ++ formatInt n

def acquire (userID resource resourceID label : String) : SessionManager :=
  let sess := ⟨m.sessionID (m.counter + 1), userID, resource, resourceID, label⟩
  { m with
    counter := m.counter + 1
    sessions := fun u => if u = userID then m.sessions u ++ [sess] else m.sessions u
    byID := fun id => if id = sess.id then some sess else m.byID id }

def release (id : String) : SessionManager :=
  match m.byID id with
  | none => m
  | some sess => { m with
      byID := fun i => if i = id then none else m.byID i
      sessions := fun u => if u = sess.userID then (m.sessions u).eraseP (·.id = id) else m.sessions u }

def countByResource (userID resource : String) : Nat :=
  (m.sessions userID).countP (·.resource = resource)

end SessionManager

def maxTerminalsPerUser : Nat := 20

def maxLogStreamsPerUser : Nat := 20

/-- A call of a handler. `admitted` says that the data plane is there, that the host is found and
has an agent, and that the parameters are good. -/
structure StreamCall where
  user : Int
  resource : String
  cap : Nat
  admitted : Bool
  hostID : Int
  label : String

def runTerminalSession (user : Int) (admitted : Bool) (hostID : Int) (label : String) : StreamCall :=
  ⟨user, "host", maxTerminalsPerUser, admitted, hostID, label⟩

def runLogsSession (user : Int) (admitted : Bool) (hostID : Int) (label : String) : StreamCall :=
  ⟨user, "host-logs", maxLogStreamsPerUser, admitted, hostID, label⟩

/-- Where a handler is: before the count, after it, after `Acquire`, and after the deferred
`Release`. -/
inductive Stage where
  | start
  | counted
  | streaming (id : String)
  | returned (id : Option String)

structure Streams where
  manager : SessionManager
  handlers : List (StreamCall × Stage)

inductive StreamEvent where
  | terminal (user : Int) (admitted : Bool) (hostID : Int) (label : String)
  | logs (user : Int) (admitted : Bool) (hostID : Int) (label : String)
  | step (n : Nat)

namespace Streams

def init (instanceID : String) : Streams := ⟨.new instanceID, []⟩

def advance (c : StreamCall) : Stage → SessionManager × Stage
  | .start =>
    if !c.admitted then (m, .returned none)
    else if c.cap ≤ m.countByResource (formatInt c.user) c.resource then (m, .returned none)
    else (m, .counted)
  | .counted =>
    (m.acquire (formatInt c.user) c.resource (formatInt c.hostID) c.label, .streaming (m.sessionID (m.counter + 1)))
  | .streaming id => (m.release id, .returned (some id))
  | .returned id => (m, .returned id)

def step (st : Streams) : StreamEvent → Streams
  | .terminal user admitted hostID label =>
    { st with handlers := st.handlers ++ [(runTerminalSession user admitted hostID label, .start)] }
  | .logs user admitted hostID label =>
    { st with handlers := st.handlers ++ [(runLogsSession user admitted hostID label, .start)] }
  | .step n =>
    match st.handlers[n]? with
    | none => st
    | some (c, stage) =>
      let (manager, stage) := advance st.manager c stage
      ⟨manager, st.handlers.set n (c, stage)⟩

end Streams

structure Registered (m : SessionManager) : Prop where
  listed : ∀ u, ∀ s ∈ m.sessions u, m.byID s.id = some s ∧ s.userID = u
  nodup : ∀ u, ((m.sessions u).map Session.id).Nodup
  issued : ∀ id s, m.byID id = some s → s.id = id ∧ ∃ n ≤ m.counter, id = m.sessionID n

section Registered

variable {m : SessionManager}

theorem sessionID_injective {n k : Nat} (h : m.sessionID n = m.sessionID k) : n = k := by
  have h' := congrArg String.toList h
  simp only [SessionManager.sessionID, String.toList_append, List.append_cancel_left_eq] at h'
  exact Int.ofNat.inj (formatInt_injective (String.toList_inj.1 h'))

theorem Registered.fresh (h : Registered m) : m.byID (m.sessionID (m.counter + 1)) = none := by
  by_contra hne
  obtain ⟨s, hs⟩ := Option.ne_none_iff_exists'.1 hne
  obtain ⟨-, n, hn, heq⟩ := h.issued _ s hs
  have := sessionID_injective heq
  omega

theorem Registered.acquire (h : Registered m) (userID resource resourceID label : String) :
    Registered (m.acquire userID resource resourceID label) := by
  have hfresh := h.fresh
  obtain ⟨hlisted, hnodup, hissued⟩ := h
  have hid (n : Nat) : (m.acquire userID resource resourceID label).sessionID n = m.sessionID n := rfl
  constructor
  · intro u s hs
    simp only [SessionManager.acquire] at hs ⊢
    grind
  · intro u
    simp only [SessionManager.acquire]
    split
    · rw [List.map_append, List.nodup_append]
      grind
    · exact hnodup u
  · intro id s hs
    simp only [hid]
    simp only [SessionManager.acquire] at hs ⊢
    grind

theorem mem_eraseP_id {l : List Session} (h : (l.map Session.id).Nodup) {id : String} {s : Session} :
    s ∈ l.eraseP (·.id = id) ↔ s ∈ l ∧ s.id ≠ id := by
  induction l with
  | nil => simp
  | cons a l ih =>
    rw [List.map_cons, List.nodup_cons] at h
    have := ih h.2
    rw [List.eraseP_cons]
    grind

theorem Registered.release (h : Registered m) (id : String) :
    Registered (m.release id) ∧ (m.release id).byID id = none := by
  unfold SessionManager.release
  split
  · next hnone => exact ⟨h, hnone⟩
  · next sess hsess =>
    have hmem (u : String) (s : Session) := @mem_eraseP_id _ (h.nodup u) id s
    obtain ⟨hlisted, hnodup, hissued⟩ := h
    refine ⟨⟨?_, ?_, ?_⟩, by simp⟩
    · intro u s hs
      dsimp only at hs ⊢
      grind
    · intro u
      dsimp only
      split
      · exact (hnodup u).sublist ((List.eraseP_sublist).map _)
      · exact hnodup u
    · intro i s hs
      dsimp only at hs
      split at hs
      · cases hs
      · exact hissued i s hs

theorem countByResource_acquire (userID resource resourceID label u r : String) :
    (m.acquire userID resource resourceID label).countByResource u r =
      m.countByResource u r + if u = userID ∧ r = resource then 1 else 0 := by
  simp only [SessionManager.countByResource, SessionManager.acquire]
  grind

theorem countByResource_release_le (id u r : String) : (m.release id).countByResource u r ≤ m.countByResource u r := by
  unfold SessionManager.release SessionManager.countByResource
  split
  · exact Nat.le_refl _
  · dsimp only
    split
    · exact List.eraseP_sublist.countP_le
    · exact Nat.le_refl _

end Registered

def SessionManager.Issued (id : String) : Prop := ∃ n ≤ m.counter, id = m.sessionID n

/-- A handler that returned has released its session. -/
def Stage.Released : Stage → Prop
  | .streaming id => m.Issued id
  | .returned (some id) => m.byID id = none ∧ m.Issued id
  | _ => True

theorem released_advance {m : SessionManager} (h : Registered m) (c : StreamCall) {stage : Stage} (hstage : stage.Released m) :
    Registered (Streams.advance m c stage).1 ∧ (Streams.advance m c stage).2.Released (Streams.advance m c stage).1 ∧
      ∀ other : Stage, other.Released m → other.Released (Streams.advance m c stage).1 := by
  cases stage with
  | start =>
    unfold Streams.advance
    split_ifs <;> exact ⟨h, trivial, fun _ h => h⟩
  | counted =>
    have hissued (id : String) (hid : m.Issued id) :
        (m.acquire (formatInt c.user) c.resource (formatInt c.hostID) c.label).Issued id := by
      obtain ⟨n, hn, rfl⟩ := hid
      exact ⟨n, Nat.le_succ_of_le hn, rfl⟩
    refine ⟨h.acquire _ _ _ _, ⟨m.counter + 1, Nat.le_refl _, rfl⟩, fun other hother => ?_⟩
    rcases other with _ | _ | id | (_ | id)
    · trivial
    · trivial
    · exact hissued id hother
    · trivial
    · refine ⟨?_, hissued id hother.2⟩
      obtain ⟨hnone, n, hn, rfl⟩ := hother
      have hne : m.sessionID n ≠ m.sessionID (m.counter + 1) := fun heq => by
        have := sessionID_injective heq
        omega
      simpa [Streams.advance, SessionManager.acquire, hne] using hnone
  | streaming id =>
    have hcounter (i : String) : (m.release id).Issued i ↔ m.Issued i := by
      unfold SessionManager.release
      split <;> rfl
    have hnone (i : String) (hi : m.byID i = none) : (m.release id).byID i = none := by
      unfold SessionManager.release
      split
      · exact hi
      · simp [hi]
    obtain ⟨hregistered, hreleased⟩ := h.release id
    refine ⟨hregistered, ⟨hreleased, (hcounter id).2 hstage⟩, fun other hother => ?_⟩
    rcases other with _ | _ | i | (_ | i)
    · trivial
    · trivial
    · exact (hcounter i).2 hother
    · trivial
    · exact ⟨hnone i hother.1, (hcounter i).2 hother.2⟩
  | returned id => exact ⟨h, hstage, fun _ h => h⟩

structure Streams.Released (st : Streams) : Prop where
  register : Registered st.manager
  stages : ∀ h ∈ st.handlers, h.2.Released st.manager

theorem released_init (instanceID : String) : (Streams.init instanceID).Released := by
  refine ⟨⟨?_, ?_, ?_⟩, ?_⟩ <;> simp [Streams.init, SessionManager.new]

theorem Streams.Released.call {st : Streams} (h : st.Released) (c : StreamCall) :
    Streams.Released { st with handlers := st.handlers ++ [(c, .start)] } :=
  ⟨h.register, List.forall_mem_append.2 ⟨h.stages, by simp [Stage.Released]⟩⟩

theorem released_step (st : Streams) (e : StreamEvent) (h : st.Released) : (st.step e).Released := by
  cases e with
  | terminal => exact h.call _
  | logs => exact h.call _
  | step n =>
    simp only [Streams.step]
    split
    · exact h
    · next c stage hn =>
      obtain ⟨hregister, hnew, hothers⟩ := released_advance h.register c (h.stages _ (List.mem_of_getElem? hn))
      refine ⟨hregister, fun h' hh => ?_⟩
      rcases List.mem_or_eq_of_mem_set hh with hh | rfl
      · exact hothers _ (h.stages h' hh)
      · exact hnew

/-- No other handler of the user and the resource is between its count and its `Acquire`. -/
def Undisturbed (st : Streams) : StreamEvent → Prop
  | .step n => ∀ c, st.handlers[n]? = some (c, .counted) → ∀ k c', k ≠ n → st.handlers[k]? = some (c', .counted) →
      ¬(c'.user = c.user ∧ c'.resource = c.resource)
  | _ => True

structure Streams.Within (st : Streams) : Prop where
  terminals : ∀ u, st.manager.countByResource u "host" ≤ maxTerminalsPerUser
  logs : ∀ u, st.manager.countByResource u "host-logs" ≤ maxLogStreamsPerUser
  caps : ∀ h ∈ st.handlers, h.1.resource = "host" ∧ h.1.cap = maxTerminalsPerUser ∨
    h.1.resource = "host-logs" ∧ h.1.cap = maxLogStreamsPerUser
  room : ∀ (k : Nat) (c : StreamCall), st.handlers[k]? = some (c, .counted) →
    st.manager.countByResource (formatInt c.user) c.resource < c.cap

theorem within_init (instanceID : String) : (Streams.init instanceID).Within := by
  constructor <;> simp [Streams.init, SessionManager.new, SessionManager.countByResource]

section Within

variable {st : Streams} {c : StreamCall}

theorem Streams.Within.call (h : st.Within)
    (hc : c.resource = "host" ∧ c.cap = maxTerminalsPerUser ∨ c.resource = "host-logs" ∧ c.cap = maxLogStreamsPerUser) :
    Streams.Within { st with handlers := st.handlers ++ [(c, .start)] } := by
  obtain ⟨hterminals, hlogs, hcaps, hroom⟩ := h
  refine ⟨hterminals, hlogs, List.forall_mem_append.2 ⟨hcaps, by simpa using hc⟩, fun k c' hk => ?_⟩
  rw [List.getElem?_append] at hk
  split at hk
  · exact hroom k c' hk
  · simp [List.getElem?_singleton] at hk

/-- Sessions that are released make room. -/
theorem Streams.Within.advance {n : Nat} {stage stage' : Stage} {m : SessionManager} (h : st.Within)
    (hn : st.handlers[n]? = some (c, stage)) (hle : ∀ u r, m.countByResource u r ≤ st.manager.countByResource u r)
    (hstage : stage' = .counted → st.manager.countByResource (formatInt c.user) c.resource < c.cap) :
    Streams.Within ⟨m, st.handlers.set n (c, stage')⟩ := by
  obtain ⟨hterminals, hlogs, hcaps, hroom⟩ := h
  refine ⟨fun u => (hle u _).trans (hterminals u), fun u => (hle u _).trans (hlogs u), fun h hh => ?_, fun k c' hk => ?_⟩
  · rcases List.mem_or_eq_of_mem_set hh with hh | rfl
    · exact hcaps h hh
    · exact hcaps (c, stage) (List.mem_of_getElem? hn)
  · refine (hle _ _).trans_lt ?_
    rw [List.getElem?_set] at hk
    split_ifs at hk
    · simp only [Option.some.injEq, Prod.mk.injEq] at hk
      exact hk.1 ▸ hstage hk.2
    · exact hroom k c' hk

theorem within_step (st : Streams) (e : StreamEvent) (h : st.Within) (he : Undisturbed st e) : (st.step e).Within := by
  cases e with
  | terminal => exact h.call (.inl ⟨rfl, rfl⟩)
  | logs => exact h.call (.inr ⟨rfl, rfl⟩)
  | step n =>
    simp only [Streams.step]
    split
    · exact h
    · next c stage hn =>
      have hrefl : ∀ u r, st.manager.countByResource u r ≤ st.manager.countByResource u r := fun _ _ => Nat.le_refl _
      cases stage with
      | start =>
        simp only [Streams.advance]
        split_ifs with hadmitted hfull
        · exact h.advance hn hrefl (by simp)
        · exact h.advance hn hrefl (by simp)
        · exact h.advance hn hrefl fun _ => by omega
      | counted =>
        obtain ⟨hterminals, hlogs, hcaps, hroom⟩ := h
        have hcap := hcaps _ (List.mem_of_getElem? hn)
        simp only [Streams.advance]
        refine ⟨fun u => ?_, fun u => ?_, fun h hh => ?_, fun k c' hk => ?_⟩
        · have := hterminals u
          rw [countByResource_acquire]
          grind
        · have := hlogs u
          rw [countByResource_acquire]
          grind
        · rcases List.mem_or_eq_of_mem_set hh with hh | rfl
          · exact hcaps h hh
          · exact hcap
        · rw [List.getElem?_set] at hk
          split_ifs at hk with heq
          · cases hk
          · have hother := he c hn k c' (Ne.symm heq) hk
            rw [countByResource_acquire, if_neg fun h => hother ⟨formatInt_injective h.1, h.2⟩]
            exact hroom k c' hk
      | streaming id => exact h.advance hn (countByResource_release_le id) nofun
      | returned id => exact h.advance hn hrefl nofun

end Within

/-- A handler that has returned has released its session; and if no session is registered between a
handler's count and its own `Acquire`, no user has more terminals or log streams than allowed. -/
theorem streams_within_caps (instanceID : String) (es : List StreamEvent) :
    (∀ st ∈ states Streams.step (.init instanceID) es, ∀ c id, (c, .returned (some id)) ∈ st.handlers →
      st.manager.byID id = none ∧ ∀ u, ∀ s ∈ st.manager.sessions u, s.id ≠ id) ∧
    (Along Streams.step Undisturbed (.init instanceID) es → ∀ st ∈ states Streams.step (.init instanceID) es, ∀ u,
      st.manager.countByResource u "host" ≤ maxTerminalsPerUser ∧
        st.manager.countByResource u "host-logs" ≤ maxLogStreamsPerUser) := by
  constructor
  · intro st hst c id hreturned
    have h := forall_states_of_step released_step (released_init instanceID) es st hst
    obtain ⟨hnone, -⟩ := h.stages _ hreturned
    refine ⟨hnone, fun u s hs heq => ?_⟩
    have := (h.register.listed u s hs).1
    simp [heq, hnone] at this
  · intro halong st hst u
    have h := forall_states_of_along (fun st e => within_step st e) (within_init instanceID) halong st hst
    exact ⟨h.terminals u, h.logs u⟩

def rush : List StreamEvent :=
  List.replicate 21 (.terminal 7 true 1 "node") ++ (List.range 21).map .step ++ (List.range 21).map .step

theorem rush_exceeds_cap :
    (run Streams.step (.init "a") rush).manager.countByResource "7" "host" = 21 ∧ 21 > maxTerminalsPerUser := by
  decide +kernel

end Vraxel.Compute
