import Mathlib
import Vraxel.Lib.Inevitable
/-
  The end of a data channel (`lib/agent/datachan`: `channel.go`, `tcp.go`, `pty.go`, `exec.go`, `file.go`).

  The transport is dead, by itself or because the parent context is cancelled (`cancelled`): every
  read and write on a stream fails.
-/

namespace Vraxel.Agent

open Progress

/-- A goroutine that copies: it reads, it writes, or it has ended. -/
inductive Copy where
  | reading
  | writing
  | done
  deriving DecidableEq

/-- The goroutine that copies a process's output to the stream; it ends at the end of the output or
with a write that has failed. -/
inductive Out where
  | reading
  | writing
  | ended
  | failed
  deriving DecidableEq

/-- `up` copies from the stream to the connection, `down` from the connection to the stream. -/
inductive Tcp where
  | copying (up down : Copy)
  | closing (up down : Copy)
  deriving DecidableEq

inductive Pty where
  | running (reader : Copy) (out : Out)
  | exited (reader : Copy) (out : Out)
  | returned (reader : Copy) (out : Out)
  deriving DecidableEq

/-- `reader` says that the goroutine that reads the stream has not ended. -/
inductive Exec where
  | running (held reader : Bool) (out : Out)
  | exited (held reader : Bool) (out : Out)
  | returned (reader : Bool)
  deriving DecidableEq

/-- The next operation is one on the stream, or one on the disk, which may block. -/
inductive Request where
  | onStream
  | onDisk (blocks : Bool)
  deriving DecidableEq

inductive Stream where
  | opening
  | tcp (t : Tcp)
  | pty (p : Pty)
  | exec (x : Exec)
  | request (q : Request)
  | gone
  deriving DecidableEq

/-! What the agent does. -/

def branch (c : Bool) (st : Stream) : List Stream := if c then [st] else []

def Tcp.own (ctx : Bool) : Tcp → List Stream
  | .copying up down =>
    branch (up = .reading) (.tcp (.copying .done down)) ++ branch (down = .writing) (.tcp (.copying up .done))
      ++ branch (up = .done ∧ down = .done) .gone ++ branch ctx (.tcp (.closing up down))
  | .closing up down =>
    -- both ends are closed, so that nothing blocks
    branch (up ≠ .done) (.tcp (.closing .done down)) ++ branch (down ≠ .done) (.tcp (.closing up .done))
      ++ branch (up = .done ∧ down = .done) .gone

def Pty.own (ctx : Bool) : Pty → List Stream
  | .running reader out =>
    branch (reader = .reading) (.pty (.running .done out)) ++ branch (out = .writing) (.pty (.running reader .failed))
      -- either goroutine cancels the process's context when it fails
      ++ branch (reader = .done ∨ out = .failed ∨ ctx) (.pty (.exited reader out))
  | .exited reader out =>
    branch (reader = .reading) (.pty (.exited .done out)) ++ branch (out = .writing) (.pty (.exited reader .failed))
      ++ [.pty (.returned reader out)]
  | .returned reader out =>
    -- the terminal is closed
    branch (reader ≠ .done) (.pty (.returned .done out)) ++ branch (out = .writing) (.pty (.returned reader .failed))
      ++ branch (out = .reading) (.pty (.returned reader .ended))

def Exec.own (ctx : Bool) : Exec → List Stream
  | .running held reader out =>
    branch reader (.exec (.running held false out)) ++ branch (out = .writing) (.exec (.running held reader .failed))
      ++ branch (!reader ∨ out = .failed ∨ ctx) (.exec (.exited held reader out))
  | .exited held reader out =>
    branch reader (.exec (.exited held false out)) ++ branch (out = .writing) (.exec (.exited held reader .failed))
      ++ branch (out = .reading ∧ !held) (.exec (.exited held reader .ended))
      ++ branch (out = .ended ∨ out = .failed) (.exec (.returned reader))
  | .returned reader => branch reader (.exec (.returned false))

def Request.own : Request → List Stream
  | .onStream => [.gone]
  | .onDisk blocks => branch (!blocks) (.request .onStream)

def Stream.own (ctx : Bool) : Stream → List Stream
  | .opening => [.gone]
  | .tcp t => t.own ctx
  | .pty p => p.own ctx
  | .exec x => x.own ctx
  | .request q => q.own
  | .gone => []

/-! What the peers and the processes may do. -/

def Tcp.env : Tcp → List Stream
  | .copying up down =>
    -- the peer sends or ends its side; it reads what was written or resets the connection
    branch (down = .reading) (.tcp (.copying up .writing)) ++ branch (down = .reading) (.tcp (.copying up .done))
      ++ branch (up = .writing) (.tcp (.copying .reading down)) ++ branch (up = .writing) (.tcp (.copying .done down))
  | .closing _ _ => []

def Pty.env : Pty → List Stream
  | .running reader out =>
    branch (reader = .writing) (.pty (.running .reading out)) ++ branch (out = .reading) (.pty (.running reader .writing))
      ++ branch (out = .reading) (.pty (.running reader .ended)) ++ [.pty (.exited reader out)]
  | .exited reader out =>
    branch (out = .reading) (.pty (.exited reader .writing)) ++ branch (out = .reading) (.pty (.exited reader .ended))
  | .returned _ _ => []

def Exec.env : Exec → List Stream
  | .running held reader out =>
    branch (out = .reading) (.exec (.running held reader .writing))
      ++ branch (out = .reading ∧ !held) (.exec (.running held reader .ended))
      ++ branch held (.exec (.running false reader out)) ++ [.exec (.exited held reader out)]
  | .exited held reader out =>
    branch (out = .reading ∧ held) (.exec (.exited held reader .writing)) ++ branch held (.exec (.exited false reader out))
  | .returned _ => []

def Stream.env : Stream → List Stream
  | .tcp t => t.env
  | .pty p => p.env
  | .exec x => x.env
  | .request (.onDisk true) => [.request (.onDisk false)]
  | _ => []

/-! When a stream has ended. -/

namespace Stream

def returned : Stream → Bool
  | .gone => true
  | .pty (.returned _ _) => true
  | .exec (.returned _) => true
  | _ => false

def ended : Stream → Bool
  | .gone => true
  | .pty (.returned .done out) => out = .ended ∨ out = .failed
  | .exec (.returned reader) => !reader
  | _ => false

def stuck (ctx : Bool) : Stream → Bool
  | .tcp (.copying up down) => !ctx ∧ (up = .writing ∨ down = .reading)
  | .pty (.running reader out) => !ctx ∧ reader = .writing ∧ (out = .reading ∨ out = .ended)
  | .exec (.running held _ out) => held ∧ out = .reading
  | .exec (.exited held _ out) => held ∧ out = .reading
  | .request (.onDisk blocks) => blocks
  | _ => false

end Stream

inductive Main where
  | accepting
  | waiting
  | returned
  deriving DecidableEq

structure Session where
  cancelled : Bool
  main : Main
  streams : List Stream

namespace Session

def ctx (s : Session) : Bool := s.cancelled || s.main = .returned

inductive Own : Session → Session → Prop
  | stream (s : Session) {i : Nat} {st st' : Stream} (h : s.streams[i]? = some st) (hst : st' ∈ st.own s.ctx) :
      Own s { s with streams := s.streams.set i st' }
  | acceptFails (s : Session) (h : s.main = .accepting) : Own s { s with main := .waiting }
  | waited (s : Session) (h : s.main = .waiting) (hall : ∀ st ∈ s.streams, st.returned) : Own s { s with main := .returned }

inductive Env : Session → Session → Prop
  | stream (s : Session) {i : Nat} {st st' : Stream} (h : s.streams[i]? = some st) (hst : st' ∈ st.env) :
      Env s { s with streams := s.streams.set i st' }

/-- The session has returned, its goroutines have ended and its connections are closed. -/
def Unwound (s : Session) : Prop := s.main = .returned ∧ ∀ st ∈ s.streams, st.ended

def dead (cancelled : Bool) (streams : List Stream) : Session := ⟨cancelled, .accepting, streams⟩

def Unwinds (s : Session) : Prop := Inevitable Own Env Unwound s

end Session

/-! One stream. There are finitely many states, and each fact is checked on all of them. -/

section Finite

instance decidableForallCopy (p : Copy → Prop) [DecidablePred p] : Decidable (∀ c, p c) :=
  decidable_of_iff (p .reading ∧ p .writing ∧ p .done)
    ⟨fun h c => by cases c <;> simp [h], fun h => ⟨h _, h _, h _⟩⟩

instance decidableForallOut (p : Out → Prop) [DecidablePred p] : Decidable (∀ o, p o) :=
  decidable_of_iff (p .reading ∧ p .writing ∧ p .ended ∧ p .failed)
    ⟨fun h o => by cases o <;> simp [h], fun h => ⟨h _, h _, h _, h _⟩⟩

instance decidableForallTcp (p : Tcp → Prop) [DecidablePred p] : Decidable (∀ t, p t) :=
  decidable_of_iff ((∀ up down, p (.copying up down)) ∧ ∀ up down, p (.closing up down))
    ⟨fun h t => by cases t <;> simp [h], fun h => ⟨fun _ _ => h _, fun _ _ => h _⟩⟩

instance decidableForallPty (p : Pty → Prop) [DecidablePred p] : Decidable (∀ t, p t) :=
  decidable_of_iff
    ((∀ reader out, p (.running reader out)) ∧ (∀ reader out, p (.exited reader out)) ∧ ∀ reader out, p (.returned reader out))
    ⟨fun h t => by cases t <;> simp [h], fun h => ⟨fun _ _ => h _, fun _ _ => h _, fun _ _ => h _⟩⟩

instance decidableForallExec (p : Exec → Prop) [DecidablePred p] : Decidable (∀ t, p t) :=
  decidable_of_iff
    ((∀ held reader out, p (.running held reader out)) ∧ (∀ held reader out, p (.exited held reader out)) ∧
      ∀ reader, p (.returned reader))
    ⟨fun h t => by cases t <;> simp [h], fun h => ⟨fun _ _ _ => h _, fun _ _ _ => h _, fun _ => h _⟩⟩

instance decidableForallStream (p : Stream → Prop) [DecidablePred p] : Decidable (∀ st, p st) :=
  decidable_of_iff
    (p .opening ∧ p .gone ∧ p (.request .onStream) ∧ (∀ b, p (.request (.onDisk b))) ∧ (∀ t, p (.tcp t)) ∧ (∀ t, p (.pty t)) ∧
      ∀ t, p (.exec t))
    ⟨fun h st => by
      rcases st with _ | t | t | t | q | _
      case request => cases q <;> simp [h]
      all_goals simp [h],
    fun h => ⟨h _, h _, h _, fun _ => h _, fun _ => h _, fun _ => h _, fun _ => h _⟩⟩

end Finite

namespace Stream

def weight : Stream → Nat
  | .opening => 1
  | .tcp (.copying up down) => 20 + upWeight up + downWeight down
  | .tcp (.closing up down) => 10 + upWeight up + downWeight down
  | .pty (.running reader out) => 20 + upWeight reader + outWeight out
  | .pty (.exited reader out) => 10 + upWeight reader + outWeight out
  | .pty (.returned reader out) => upWeight reader + outWeight out
  | .exec (.running held reader out) => 20 + held.toNat + reader.toNat + outWeight out
  | .exec (.exited held reader out) => 10 + held.toNat + reader.toNat + outWeight out
  | .exec (.returned reader) => reader.toNat
  | .request .onStream => 1
  | .request (.onDisk blocks) => 2 + blocks.toNat
  | .gone => 0
where
  upWeight : Copy → Nat
    | .writing => 2
    | .reading => 1
    | .done => 0
  downWeight : Copy → Nat
    | .reading => 2
    | .writing => 1
    | .done => 0
  outWeight : Out → Nat
    | .reading => 2
    | .writing => 1
    | .ended => 0
    | .failed => 0

theorem weight_own : ∀ (ctx : Bool) (st : Stream), (st.own ctx).all fun st' => st'.weight < st.weight := by decide

theorem weight_env : ∀ st : Stream, st.env.all fun st' => st'.weight < st.weight := by decide

theorem own_of_not_returned : ∀ (ctx : Bool) (st : Stream), st.returned = false → st.stuck ctx = false → st.own ctx ≠ [] := by
  decide

theorem own_of_returned : ∀ (ctx : Bool) (st : Stream), st.returned → st.ended = false → st.own ctx ≠ [] := by decide

theorem returned_own : ∀ (ctx : Bool) (st : Stream), st.returned → (st.own ctx).all returned := by decide

theorem returned_env : ∀ st : Stream, st.returned → st.env.all returned := by decide

theorem not_stuck_of_returned : ∀ (ctx : Bool) (st : Stream), st.returned → st.stuck ctx = false := by decide

theorem not_stuck_own : ∀ (ctx : Bool) (st : Stream), st.stuck ctx = false → (st.own ctx).all (!stuck ctx ·) := by
  decide

theorem not_stuck_env : ∀ (ctx : Bool) (st : Stream), st.stuck ctx = false → st.env.all (!stuck ctx ·) := by decide

theorem stuck_own : ∀ (ctx : Bool) (st : Stream), st.stuck ctx → (st.own ctx).all (stuck ctx) := by decide

end Stream

def Main.weight : Main → Nat
  | .accepting => 2
  | .waiting => 1
  | .returned => 0

namespace Session

def weight (s : Session) : Nat := s.main.weight + (s.streams.map Stream.weight).sum

/-- No stream is stuck, and the session has waited for all of them when it has returned. -/
structure Flows (s : Session) : Prop where
  stream : ∀ st ∈ s.streams, st.stuck s.cancelled = false
  waited : s.main = .returned → ∀ st ∈ s.streams, st.returned

theorem forall_mem_set {p : Stream → Prop} {l : List Stream} {i : Nat} {st : Stream} (h : ∀ x ∈ l, p x) (hst : p st) :
    ∀ x ∈ l.set i st, p x := by
  intro x hx
  rcases List.mem_or_eq_of_mem_set hx with hx | rfl
  · exact h x hx
  · exact hst

theorem sum_set_lt {l : List Stream} {i : Nat} {st st' : Stream} (h : l[i]? = some st) (hlt : st'.weight < st.weight) :
    ((l.set i st').map Stream.weight).sum < (l.map Stream.weight).sum := by
  induction l generalizing i with
  | nil => simp at h
  | cons x l ih =>
    cases i with
    | zero =>
      simp only [List.getElem?_cons_zero, Option.some.injEq] at h
      simp only [List.set_cons_zero, List.map_cons, List.sum_cons, h]
      omega
    | succ i =>
      simp only [List.set_cons_succ, List.map_cons, List.sum_cons]
      have := ih h
      omega

variable {s : Session}

theorem ctx_eq (h : s.main ≠ .returned) : s.ctx = s.cancelled := by
  simp [ctx, h]

theorem weight_step {t : Session} (h : Own s t ∨ Env s t) : t.weight < s.weight := by
  rcases h with h | h
  · cases h with
    | stream h hst =>
      have hlt := List.all_eq_true.1 (Stream.weight_own _ _) _ hst
      exact Nat.add_lt_add_left (sum_set_lt h (of_decide_eq_true hlt)) _
    | acceptFails h => simp [weight, h, Main.weight]
    | waited h hall => simp [weight, h, Main.weight]
  · cases h with
    | stream h hst =>
      have hlt := List.all_eq_true.1 (Stream.weight_env _) _ hst
      exact Nat.add_lt_add_left (sum_set_lt h (of_decide_eq_true hlt)) _

theorem Flows.set (hs : s.Flows) {i : Nat} {st st' : Stream} (h : s.streams[i]? = some st)
    (hreturned : st.returned = true → st'.returned = true)
    (hstuck : s.main ≠ .returned → st.stuck s.cancelled = false → st'.stuck s.cancelled = false) :
    Flows { s with streams := s.streams.set i st' } := by
  have hmem : st ∈ s.streams := List.mem_of_getElem? h
  refine ⟨forall_mem_set hs.stream ?_, fun hmain => forall_mem_set (hs.waited hmain) (hreturned (hs.waited hmain st hmem))⟩
  by_cases hmain : s.main = .returned
  · exact Stream.not_stuck_of_returned _ _ (hreturned (hs.waited hmain st hmem))
  · exact hstuck hmain (hs.stream st hmem)

theorem flows_step {t : Session} (hs : s.Flows) (h : Own s t ∨ Env s t) : t.Flows := by
  rcases h with h | h
  · cases h with
    | stream h hst =>
      refine hs.set h (fun hr => List.all_eq_true.1 (Stream.returned_own _ _ hr) _ hst) fun hmain hstuck => ?_
      rw [ctx_eq hmain] at hst
      simpa using List.all_eq_true.1 (Stream.not_stuck_own _ _ hstuck) _ hst
    | acceptFails h => exact ⟨hs.stream, nofun⟩
    | waited h hall => exact ⟨hs.stream, fun _ => hall⟩
  · cases h with
    | stream h hst =>
      refine hs.set h (fun hr => List.all_eq_true.1 (Stream.returned_env _ hr) _ hst) fun _ hstuck => ?_
      simpa using List.all_eq_true.1 (Stream.not_stuck_env _ _ hstuck) _ hst

theorem Flows.go (hs : s.Flows) (h : ¬ s.Unwound) : ∃ t, Own s t := by
  have hstream : ∀ st ∈ s.streams, st.own s.ctx ≠ [] → ∃ t, Own s t := by
    intro st hst hown
    obtain ⟨i, hi⟩ := List.mem_iff_getElem?.1 hst
    obtain ⟨st', hst'⟩ := List.exists_mem_of_ne_nil _ hown
    exact ⟨_, .stream s hi hst'⟩
  cases hmain : s.main with
  | accepting => exact ⟨_, .acceptFails s hmain⟩
  | waiting =>
    by_cases hall : ∀ st ∈ s.streams, st.returned
    · exact ⟨_, .waited s hmain hall⟩
    · simp only [not_forall] at hall
      obtain ⟨st, hst, hnot⟩ := hall
      refine hstream st hst ?_
      rw [ctx_eq (by simp [hmain])]
      exact Stream.own_of_not_returned _ st (by simpa using hnot) (hs.stream st hst)
  | returned =>
    have hnot : ¬ ∀ st ∈ s.streams, st.ended := fun hall => h ⟨hmain, hall⟩
    simp only [not_forall] at hnot
    obtain ⟨st, hst, hnot⟩ := hnot
    exact hstream st hst (Stream.own_of_returned _ st (hs.waited hmain st hst) (by simpa using hnot))

/-- A stream is stuck, and the session waits for it. -/
def Held (s : Session) : Prop := s.main ≠ .returned ∧ ∃ st ∈ s.streams, st.stuck s.cancelled = true

theorem held_own {t : Session} (hs : s.Held) (h : Own s t) : t.Held := by
  obtain ⟨hmain, st, hst, hstuck⟩ := hs
  cases h with
  | @stream i st₀ st' hi hst' =>
    refine ⟨hmain, ?_⟩
    rw [ctx_eq hmain] at hst'
    obtain ⟨j, hj⟩ := List.mem_iff_getElem?.1 hst
    by_cases hij : i = j
    · subst hij
      obtain ⟨hlt, _⟩ := List.getElem?_eq_some_iff.1 hi
      have heq : st₀ = st := Option.some.inj (hi.symm.trans hj)
      exact ⟨st', List.mem_set hlt st', List.all_eq_true.1 (Stream.stuck_own _ _ (heq ▸ hstuck)) _ hst'⟩
    · have hset : (s.streams.set i st')[j]? = some st := by
        rw [List.getElem?_set_ne hij]
        exact hj
      exact ⟨st, List.mem_of_getElem? hset, hstuck⟩
  | acceptFails h => exact ⟨nofun, st, hst, hstuck⟩
  | waited h hall =>
    rw [Stream.not_stuck_of_returned _ _ (hall st hst)] at hstuck
    cases hstuck

theorem not_unwinds_of_held (hs : s.Held) : ¬ s.Unwinds :=
  not_inevitable_of_trap (fun _ hs h => hs.1 h.1) (fun _ _ hs h => held_own hs h) hs

end Session

open Session

/-- The session unwinds if and only if no stream is stuck when the transport is dead. -/
theorem unwinds_iff (cancelled : Bool) (streams : List Stream) :
    (dead cancelled streams).Unwinds ↔ ∀ st ∈ streams, st.stuck cancelled = false := by
  constructor
  · intro h st hst
    by_contra hstuck
    exact not_unwinds_of_held ⟨by simp [dead], st, hst, eq_true_of_ne_false hstuck⟩ h
  · intro h
    have hflows : (dead cancelled streams).Flows := ⟨h, by simp [dead]⟩
    exact inevitable_of_measure weight (fun _ hs hnot => Flows.go hs hnot) (fun _ _ hs => flows_step hs)
      (fun _ _ _ => weight_step) hflows

/-- One connection, to a peer that sends nothing and does not end it; the parent context is not cancelled. -/
theorem silent_peer_holds_session : ¬ (dead false [.tcp (.copying .reading .reading)]).Unwinds :=
  not_unwinds_of_held ⟨by decide, _, List.mem_singleton_self _, rfl⟩

end Vraxel.Agent
