import Vraxel.Lib.Run
/-
  The data channel's life (`Run`, `session`, `watchIdle` and `Ensure` of
  `lib/agent/datachan/channel.go`).

  An event is a step of one goroutine. The watcher's test and its `sess.Close()` are two steps, and so
  are `AcceptStream` and `streamStart`. An event that cannot happen changes nothing. The end of the
  process's context is left out.
-/

namespace Vraxel.Agent

open Transition

/-- In nanoseconds. -/
def idleTimeout : Nat := 5 * 60 * 1000000000

/-- Where `Run` is: `starting` is between `AcceptStream` and `streamStart`, `ending` at `wg.Wait`
with the result of `session` (`clean` is nil). -/
inductive Leg where
  | parked
  | dialing
  | accepting
  | starting
  | ending (clean : Bool)
  | backoff
  deriving DecidableEq

/-- `wake` is the buffer of the channel; a token names the session during which it was put there. -/
structure DataChan where
  leg : Leg := .parked
  wake : Option (Option Nat) := none
  session : Nat := 0
  closed : Bool := false
  decided : Bool := false
  streams : Nat := 0
  now : Nat := 0
  lastUse : Nat := 0
  deriving DecidableEq

inductive ChanEvent where
  | ensure
  | wake
  | connect
  | dialFails
  | retry
  | accept
  | streamStart
  | streamDone
  | acceptFails
  | leave
  | check
  | close
  | disconnect
  | tick (d : Nat)
  deriving DecidableEq

namespace DataChan

variable (c : DataChan)

def inSession : Bool :=
  match c.leg with
  | .accepting | .starting | .ending _ => true
  | _ => false

def up : Bool := (c.leg = .accepting ∨ c.leg = .starting) ∧ c.closed = false

def idleClosed : Bool := c.streams = 0 ∧ idleTimeout ≤ c.now - c.lastUse

/-- The streams accepted and not yet ended, counted by `streamStart` or not. -/
def openStreams : Nat := c.streams + if c.leg = .starting then 1 else 0

def step (c : DataChan) : ChanEvent → DataChan
  | .ensure =>
    match c.wake with
    | some _ => c
    | none => { c with wake := some (if c.up then some c.session else none) }
  | .wake => if c.leg = .parked ∧ c.wake.isSome then { c with leg := .dialing, wake := none } else c
  | .connect =>
    if c.leg = .dialing then
      { c with leg := .accepting, session := c.session + 1, closed := false, decided := false, lastUse := c.now }
    else c
  | .dialFails => if c.leg = .dialing then { c with leg := .backoff } else c
  | .retry => if c.leg = .backoff then { c with leg := .dialing } else c
  | .accept => if c.leg = .accepting ∧ c.closed = false then { c with leg := .starting } else c
  | .streamStart =>
    if c.leg = .starting then { c with leg := .accepting, streams := c.streams + 1, lastUse := c.now } else c
  | .streamDone => if c.streams = 0 then c else { c with streams := c.streams - 1, lastUse := c.now }
  | .acceptFails =>
    if c.leg = .accepting ∧ c.closed = true then { c with leg := .ending c.idleClosed } else c
  | .leave =>
    match c.leg with
    | .ending clean => if c.streams = 0 then { c with leg := if clean then .parked else .backoff } else c
    | _ => c
  | .check => if c.inSession ∧ c.idleClosed then { c with decided := true } else c
  | .close => if c.inSession ∧ c.decided then { c with closed := true } else c
  | .disconnect => if c.inSession then { c with closed := true } else c
  | .tick d => { c with now := c.now + d }

end DataChan

/-- A step of `Run` or of a stream, without which nothing more happens. -/
def ChanEvent.own : ChanEvent → Bool
  | .wake | .retry | .streamStart | .streamDone | .acceptFails | .leave => true
  | _ => false

namespace DataChan

variable {c : DataChan} {e : ChanEvent}

/-! ### A wake-up is not lost -/

def distance (c : DataChan) : Nat :=
  c.streams +
    match c.leg with
    | .dialing => 0
    | .parked | .backoff => 1
    | .ending _ => 2
    | .accepting => 3
    | .starting => 5

def turns (c : DataChan) : List ChanEvent → Nat
  | [] => 0
  | e :: es => (if e.own ∧ c.step e ≠ c then 1 else 0) + turns (c.step e) es

/-- There is no session, and `Run` does not park without finding a token. -/
def Owed (c : DataChan) : Prop := c.up = false ∧ (c.wake.isSome ∨ c.leg = .dialing ∨ c.leg = .backoff)

theorem owed_ensure (h : c.up = false) : Owed (c.step .ensure) := by
  unfold Owed step
  cases hw : c.wake <;> simp_all [up]

/-- Until the next dial a wake-up stays owed, and the distance shrinks with every own step. -/
theorem owed_step (h : Owed c) (hd : c.leg ≠ .dialing) (e : ChanEvent) :
    Owed (c.step e) ∧ (c.step e).distance + (if e.own ∧ c.step e ≠ c then 1 else 0) ≤ c.distance := by
  obtain ⟨leg, wake, session, closed, decided, streams, now, lastUse⟩ := c
  cases e <;> cases leg <;> simp_all [Owed, up, step, distance, ChanEvent.own, inSession] <;> grind

/-- In an owed state with no dial under way, `Run` or a stream has a step to take. -/
theorem exists_own_step (h : Owed c) (hd : c.leg ≠ .dialing) : ∃ e : ChanEvent, e.own ∧ c.step e ≠ c := by
  obtain ⟨leg, wake, session, closed, decided, streams, now, lastUse⟩ := c
  cases leg with
  | parked => exact ⟨.wake, rfl, by simp_all [Owed, step]⟩
  | dialing => exact absurd rfl hd
  | accepting => exact ⟨.acceptFails, rfl, by simp_all [Owed, up, step]⟩
  | starting => exact ⟨.streamStart, rfl, by simp [step]⟩
  | backoff => exact ⟨.retry, rfl, by simp [step]⟩
  | ending clean =>
    -- the streams end first
    by_cases hs : streams = 0
    · refine ⟨.leave, rfl, ?_⟩
      cases clean <;> simp [step, hs]
    · refine ⟨.streamDone, rfl, ?_⟩
      simp only [step, hs, if_false, ne_eq, mk.injEq, not_and]
      omega

/-- However the run goes on: a dial has begun, or there is an own step to take, of
which fewer than `distance` have been taken. -/
def LeadsToDial (c : DataChan) : Prop :=
  ∀ es, (∃ c' ∈ states step c es, c'.leg = .dialing) ∨
    (c.turns es < c.distance ∧ ∃ e : ChanEvent, e.own ∧ (run step c es).step e ≠ run step c es)

theorem leadsToDial_of_owed (h : Owed c) : LeadsToDial c := by
  intro es
  induction es generalizing c with
  | nil =>
    by_cases hd : c.leg = .dialing
    · exact Or.inl ⟨c, head_mem_states step c [], hd⟩
    · refine Or.inr ⟨?_, exists_own_step h hd⟩
      cases hl : c.leg <;> simp_all [turns, distance]
  | cons e es ih =>
    by_cases hd : c.leg = .dialing
    · exact Or.inl ⟨c, head_mem_states step c (e :: es), hd⟩
    · obtain ⟨hnext, hless⟩ := owed_step h hd e
      rcases ih hnext with ⟨c', hc', hd'⟩ | ⟨hturns, hown⟩
      · exact Or.inl ⟨c', List.mem_cons_of_mem c hc', hd'⟩
      · refine Or.inr ⟨?_, hown⟩
        simp only [turns]
        omega

/-! ### Tokens left over, and streams cut off -/

/-- What the channel should do at a step: no dial for a token put during the session that has just
been closed, and no idle close with an open stream. -/
def Sound (c : DataChan) (e : ChanEvent) : Prop :=
  (e = .wake → c.leg = .parked → c.wake ≠ some (some c.session)) ∧
    (e = .close → c.up → c.decided → c.openStreams = 0)

instance (c : DataChan) (e : ChanEvent) : Decidable (Sound c e) := inferInstanceAs (Decidable (_ ∧ _))

/-- No `Ensure` puts a token while a session is up, no stream is accepted between the watcher's
test and its close, and none waits to be counted at the test. -/
def Spared (c : DataChan) (e : ChanEvent) : Prop :=
  (e = .ensure → c.up → c.wake.isSome) ∧ (e = .accept → c.decided = false) ∧ (e = .check → c.leg ≠ .starting)

/-- No token names a session, and no stream is open once the watcher has decided. -/
def Clear (c : DataChan) : Prop := (∀ k, c.wake ≠ some (some k)) ∧ (c.decided → c.openStreams = 0)

theorem clear_step (c : DataChan) (e : ChanEvent) (h : Clear c) (he : Spared c e) : Clear (c.step e) := by
  obtain ⟨leg, wake, session, closed, decided, streams, now, lastUse⟩ := c
  simp only [Clear, Spared, openStreams] at h he ⊢
  cases e <;> simp only [step] <;> try split
  all_goals simp_all [up, inSession, idleClosed]
  -- `leave` has a second split
  split <;> cases ‹Bool› <;> simp_all

theorem sound_of_clear (h : Clear c) (e : ChanEvent) : Sound c e :=
  ⟨fun _ _ => h.1 c.session, fun _ _ hd => h.2 hd⟩

/-- An `Ensure` without a session leads to a dial, whatever happens in between; the rest holds in
the runs whose steps are all `Spared`. -/
theorem wakeups_sound (es : List ChanEvent) :
    (∀ c ∈ states step {} es, c.up = false → LeadsToDial (c.step .ensure)) ∧
      (Along step Spared {} es → Along step Sound {} es) := by
  refine ⟨fun c _ hc => leadsToDial_of_owed (owed_ensure hc), fun hes => ?_⟩
  have hclear : ∀ c ∈ states step {} es, Clear c :=
    forall_states_of_along clear_step ⟨by simp, by simp⟩ hes
  exact along_of_states (fun c e hc _ => sound_of_clear hc e) hclear

/-- An `Ensure` while the session is up dials again after the idle close, and a stream accepted
after the watcher's test is cut off. -/
theorem ensure_redials_and_stream_cut :
    let served := [ChanEvent.ensure, .wake, .connect, .ensure, .tick idleTimeout, .check]
    let redialed := served ++ [.close, .acceptFails, .leave, .wake]
    let cut := served ++ [.accept, .streamStart, .close]
    ¬ Along step Sound {} redialed ∧ (run step {} redialed).leg = .dialing ∧
      ¬ Along step Sound {} cut ∧ (run step {} cut).streams = 1 ∧ (run step {} cut).closed = true := by
  decide

end DataChan

end Vraxel.Agent
