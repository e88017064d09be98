import Vraxel.Db.Schema
/-
  `host_agents`: the agents and the state of their control channels
  (`pkg/db/query/host_agent.sql`).

  A row belongs to one host (`host_id` is the primary key) and one agent. An UPDATE is a function on
  rows (`HostAgentRow.markOnline`, …) that a statement applies to the rows its WHERE clause selects.
  Times are microseconds on the clock of the database.
-/

namespace Vraxel.Db

open Relational

inductive AgentStatus where
  | online
  | offline
  deriving DecidableEq

structure HostAgentRow where
  serial : Int
  hostID : Int
  agentID : String
  tokenVersion : Int
  version : String
  instanceID : String
  status : AgentStatus
  connectedAt : Option Int
  lastSeenAt : Option Int
  clockSkewMs : Int
  productUUID : String
  machineID : String
  macs : List String
  identitySource : String
  bootAt : Option Int
  bootNonce : String
  prevBootNonce : String
  conflictAt : Option Int
  foreignMachineAt : Option Int
  foreignMachineUUID : String

instance : Keyed HostAgentRow := ⟨(·.serial), fun r i => { r with serial := i }, fun _ _ => rfl, fun _ => rfl⟩

structure FingerprintInput where
  productUUID : String
  machineID : String
  macs : List String
  source : String
  bootAt : Option Int

def versionColumnWidth : Nat := 32
def bootNonceColumnWidth : Nat := 64

def clamp (width : Nat) (s : String) : String :=
  if Strings.len s ≤ width then s
  else String.ofList ((s.toList.inits.filter fun cs => (cs.map Char.utf8Size).sum ≤ width).getLastD [])

def clampVersion : String → String := clamp versionColumnWidth
def clampBootNonce : String → String := clamp bootNonceColumnWidth

namespace HostAgentRow

variable (r : HostAgentRow) (hostID : Int) (version : String) (now : Int) (instanceID : String)

def rebind (fp : FingerprintInput) : HostAgentRow :=
  { r with
    hostID := hostID
    version := version
    tokenVersion := r.tokenVersion + 1
    productUUID := fp.productUUID
    machineID := fp.machineID
    macs := fp.macs
    identitySource := fp.source
    bootAt := fp.bootAt }

def fresh (agentID version : String) (fp : FingerprintInput) : HostAgentRow where
  serial := 0
  hostID := hostID
  agentID := agentID
  tokenVersion := 1
  version := version
  instanceID := ""
  status := .offline
  connectedAt := none
  lastSeenAt := none
  clockSkewMs := 0
  productUUID := fp.productUUID
  machineID := fp.machineID
  macs := fp.macs
  identitySource := fp.source
  bootAt := fp.bootAt
  bootNonce := ""
  prevBootNonce := ""
  conflictAt := none
  foreignMachineAt := none
  foreignMachineUUID := ""

def refreshFingerprint (fp : FingerprintInput) : HostAgentRow :=
  { r with machineID := fp.machineID, macs := fp.macs, bootAt := fp.bootAt, conflictAt := none }

/-- `CheckHostAgentIdentity`: every right-hand side reads the old row. -/
def checkIdentity (bootNonce : String) (now : Int) : HostAgentRow :=
  { r with
    prevBootNonce := if bootNonce ≠ r.bootNonce then r.bootNonce else r.prevBootNonce
    bootNonce := bootNonce
    conflictAt := if bootNonce ≠ "" ∧ bootNonce = r.prevBootNonce then some now else r.conflictAt }

def contended (cooldown : Int) : Bool :=
  match r.conflictAt with
  | none => false
  | some at' => now - cooldown < at'

def markOnline (version : String) (clockSkewMs now : Int) : HostAgentRow :=
  { r with
    status := .online
    instanceID := instanceID
    version := version
    connectedAt := some now
    lastSeenAt := some now
    clockSkewMs := clockSkewMs
    conflictAt := none
    foreignMachineAt := none
    foreignMachineUUID := "" }

def touch (clockSkewMs now : Int) : HostAgentRow :=
  { r with lastSeenAt := some now, clockSkewMs := clockSkewMs }

def touchable (r : HostAgentRow) : Bool :=
  r.hostID = hostID ∧ r.instanceID = instanceID ∧ r.status = .online

def markOffline : HostAgentRow := { r with status := .offline }

def departing (r : HostAgentRow) : Bool :=
  r.hostID = hostID ∧ r.instanceID = instanceID ∧ r.status ≠ .offline

def stale (staleAfter now : Int) (r : HostAgentRow) : Bool :=
  r.status = .online && r.lastSeenAt.all fun seen => seen < now - staleAfter

def recordForeignMachine (foreignMachineUUID : String) (now : Int) : HostAgentRow :=
  { r with foreignMachineAt := some now, foreignMachineUUID := foreignMachineUUID }

end HostAgentRow

end Vraxel.Db
