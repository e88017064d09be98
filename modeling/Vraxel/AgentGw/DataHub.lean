import Vraxel.Lib.Rely
import Vraxel.AgentGw.Waiters
import Vraxel.Go.Strconv
/-
  The rendezvous of the data hub (`pkg/apis/agentgw/datachannel.go`).

  A section under the hub's lock is one statement, and so is each thing that is done without the
  lock: the loop of `register` reads one element of its slice and closes one channel at a time. A
  session is a number, and a channel is the number in which it was made.
-/

namespace Vraxel.AgentGw

open Slices Txn Interleave Transition

structure DataHub where
  sessions : Int → Option Nat
  waiters : WaiterMap
  made : Nat
  registers : Nat
  closes : List (Nat × Nat)
  parked : List (Int × Nat)
  drained : List (Nat × Nat)

inductive Wake where
  | ready
  | timeout
  | cancelled (err : String)

inductive Found where
  | session (sess : Nat)
  | parked (ready : Nat)

structure Swapped where
  number : Nat
  prev : Option Nat
  waiters : Option Slice

inductive HubStmt where
  | swap (hostID : Int) (sess : Nat)
  | closeSession (number sess : Nat)
  | load (number : Nat) (waiters : Slice) (k : Nat)
  | close (number ch : Nat)
  | drop (hostID : Int) (sess : Nat)
  | enqueue (hostID : Int)
  | trigger (hostID : Int) (sent : Except String Unit)
  | select (hostID : Int) (ready : Nat) (wake : Wake)
  | get (hostID : Int)
  | cancelWaiter (hostID : Int) (ready : Nat)

def HubStmt.Ans : HubStmt → Type
  | swap _ _ => Swapped
  | load _ _ _ => Nat
  | enqueue _ => Found
  | get _ => Option Nat
  | _ => Unit

abbrev hubSig : Sig := ⟨HubStmt, HubStmt.Ans⟩

namespace DataHub

def empty : DataHub := ⟨fun _ => none, .empty, 0, 0, [], [], []⟩

variable (h : DataHub) (hostID : Int)

def isClosed (ch : Nat) : Bool := ch ∈ h.closes.map Prod.snd

def swap (sess : Nat) : DataHub :=
  { h with
    sessions := Function.update h.sessions hostID (some sess)
    waiters := h.waiters.delete hostID
    registers := h.registers + 1
    parked := h.parked.filter (·.1 ≠ hostID)
    drained := h.drained ++ (h.parked.filter (·.1 = hostID)).map fun w => (h.registers, w.2) }

def drop (sess : Nat) : DataHub :=
  if h.sessions hostID = some sess then { h with sessions := Function.update h.sessions hostID none } else h

def enqueue (grow : Nat → List Nat) : DataHub :=
  { h with
    waiters := h.waiters.enqueue hostID h.made grow
    made := h.made + 1
    parked := h.parked ++ [(hostID, h.made)] }

def cancelled (ready : Nat) : DataHub :=
  { h with
    waiters := h.waiters.cancelWaiter hostID ready
    parked := h.parked.filter (· ≠ (hostID, ready)) }

/-- A close of a closed channel panics; `closes` has it twice then. -/
def close (number ch : Nat) : DataHub := { h with closes := h.closes ++ [(number, ch)] }

end DataHub

variable (hostID : Int)

def Wake.result : Wake → Except String Unit
  | ready => .ok ()
  | timeout => .error ("host " ++ Strconv.formatInt hostID ++ " did not open a data channel within 30s")
  | cancelled err => .error err

/-- What the statements do; `grow` is the room that a new array has. -/
def HubStmt.sem (grow : Nat → List Nat) : (q : HubStmt) → M DataHub String q.Ans
  | swap hostID sess => fun h => (.ok ⟨h.registers, h.sessions hostID, h.waiters.entries hostID⟩, h.swap hostID sess)
  | closeSession _ _ => pure ()
  | load _ waiters k => fun h => (.ok (((waiters.values h.waiters.arrays)[k]?).getD 0), h)
  | close number ch => write (·.close number ch)
  | drop hostID sess => write (·.drop hostID sess)
  | enqueue hostID => fun h =>
    match h.sessions hostID with
    | some sess => (.ok (.session sess), h)
    | none => (.ok (.parked h.made), h.enqueue hostID grow)
  | trigger _ sent => Txn.lift sent
  | select hostID _ wake => Txn.lift (wake.result hostID)
  | get hostID => read (·.sessions hostID)
  | cancelWaiter hostID ready => write (·.cancelled hostID ready)

def HubStmt.ready : HubStmt → DataHub → Bool
  | select _ ready .ready, h => h.isClosed ready
  | _, _ => true

inductive Answer where
  | registered (number : Nat)
  | session (sess : Nat)
  | unit

abbrev HubProg := Prog hubSig String Answer

open Prog

/-- The loop of `register`: `n` elements of the slice are left, from the `k`-th on. -/
def closeFrom (number : Nat) (waiters : Slice) : Nat → Nat → Prog hubSig String Unit
  | _, 0 => pure ()
  | k, n + 1 => do
    let ch : Nat ← ask (G := hubSig) (.load number waiters k)
    ask (G := hubSig) (.close number ch)
    closeFrom number waiters (k + 1) n

def closeAll (number : Nat) : Option Slice → Prog hubSig String Unit
  | none => pure ()
  | some waiters => closeFrom number waiters 0 waiters.len

def closeSuperseded (number : Nat) (prev : Option Nat) (sess : Nat) : Prog hubSig String Unit :=
  match prev.filter (· ≠ sess) with
  | none => pure ()
  | some prev => ask (G := hubSig) (.closeSession number prev)

def register (sess : Nat) : HubProg := do
  let taken : Swapped ← ask (G := hubSig) (.swap hostID sess)
  closeSuperseded taken.number taken.prev sess
  closeAll taken.number taken.waiters
  pure (.registered taken.number)

def unregister (sess : Nat) : HubProg := do
  ask (G := hubSig) (.drop hostID sess)
  pure .unit

def waitFor (sent : Except String Unit) (wake : Wake) (ready : Nat) : HubProg := do
  ask (G := hubSig) (.trigger hostID sent)
  ask (G := hubSig) (.select hostID ready wake)
  let sess : Option Nat ← ask (G := hubSig) (.get hostID)
  match sess with
  | some sess => pure (.session sess)
  | none => fail ("data channel for host " ++ Strconv.formatInt hostID ++ " closed before use")

def await (sent : Except String Unit) (wake : Wake) : HubProg := do
  let found : Found ← ask (G := hubSig) (.enqueue hostID)
  match found with
  | .session sess => pure (.session sess)
  | .parked ready => do
    let r ← attempt (waitFor hostID sent wake ready)
    -- the deferred call
    ask (G := hubSig) (.cancelWaiter hostID ready)
    Prog.lift r

inductive HubCall where
  | register (hostID : Int) (sess : Nat)
  | unregister (hostID : Int) (sess : Nat)
  | await (hostID : Int) (sent : Except String Unit) (wake : Wake)

def HubCall.prog : HubCall → HubProg
  | register hostID sess => AgentGw.register hostID sess
  | unregister hostID sess => AgentGw.unregister hostID sess
  | await hostID sent wake => AgentGw.await hostID sent wake

def hubSystem (grow : Nat → List Nat) : System DataHub hubSig String Answer HubCall where
  sem := HubStmt.sem grow
  ready := HubStmt.ready
  prog := HubCall.prog

end Vraxel.AgentGw
