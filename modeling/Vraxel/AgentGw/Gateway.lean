import Vraxel.Lib.Interleave
import Vraxel.Db.HostAgents
/-
  The control channels of one server instance (`pkg/apis/agentgw/registry.go`,
  `channel.go`, `sessiontoken.go`) over the rows of `host_agents`.

  The critical sections under `r.mu` are single steps, and so is every SQL statement; the connect
  mutex of an agent is held from one statement to another.
-/

namespace Vraxel.AgentGw

open Relational Api Db Txn Interleave

structure Session where
  ref : Nat
  agentID : String
  hostID : Int
  version : String
  deriving DecidableEq

structure Registry where
  byAgent : String → Option Session
  byHost : Int → Option Session

variable (r : Registry)

namespace Registry

def empty : Registry := ⟨fun _ => none, fun _ => none⟩

def add (sess : Session) : Registry :=
  let byHost :=
    match r.byAgent sess.agentID with
    | some prev => if prev.hostID ≠ sess.hostID then Function.update r.byHost prev.hostID none else r.byHost
    | none => r.byHost
  ⟨Function.update r.byAgent sess.agentID (some sess), Function.update byHost sess.hostID (some sess)⟩

def current (sess : Session) : Bool := r.byAgent sess.agentID = some sess

def remove (sess : Session) : Registry :=
  if r.current sess then
    ⟨Function.update r.byAgent sess.agentID none,
      if r.byHost sess.hostID = some sess then Function.update r.byHost sess.hostID none else r.byHost⟩
  else r

def getByHost (hostID : Int) : Option Session := r.byHost hostID

end Registry

structure Clock where
  micros : Int
  pos : 0 < micros

def Clock.add (t : Clock) (d : Nat) : Clock := ⟨t.micros + d, by have := t.pos; omega⟩

structure SessionClaims where
  hostID : Int
  instanceID : String
  connEpoch : Int
  expUnix : Int

/-- An instance, the rows, and the sessions the instance has made. -/
structure GwState where
  registry : Registry
  connLock : String → Bool
  agents : Table HostAgentRow
  now : Clock
  sessions : Nat
  epoch : Session → Int
  tokenGen : Session → Nat
  tokenSent : Session → Bool
  tokens : Session → List SessionClaims
  added : List Session
  claim : Session → Option Int
  leaving : List Session

def GwState.init (agents : Table HostAgentRow) (now : Clock) : GwState where
  registry := .empty
  connLock _ := false
  agents := agents
  now := now
  sessions := 0
  epoch _ := 0
  tokenGen _ := 0
  tokenSent _ := false
  tokens _ := []
  added := []
  claim _ := none
  leaving := []

/-- The id of the instance, and whether the frame with a token reaches the agent. -/
structure GwConfig where
  instanceID : String
  delivers : Session → Nat → Bool

def second : Int := 1000000
def agentStaleAfter : Int := 60 * second
def sessionTokenTTL : Int := 3600 * second

/-- Who issues a token: the handler of the channel, or the renewal beside it. -/
inductive Issuer where
  | handler
  | refresher
  deriving DecidableEq

inductive GwStmt where
  | lockAgent (sess : Session)
  | unlockAgent (sess : Session)
  | add (sess : Session)
  | remove (sess : Session)
  | markOnline (sess : Session) (clockSkewMs : Int)
  | touch (sess : Session) (clockSkewMs : Int)
  | markOffline (sess : Session)
  | markStaleOffline
  | newSession (agentID : String) (hostID : Int) (version : String)
  | setEpoch (sess : Session) (t : Int)
  | epoch (sess : Session) (issuer : Issuer)
  | addTokenGen (sess : Session) (issuer : Issuer) (epoch : Int)
  | writeToken (sess : Session) (issuer : Issuer) (epoch : Int) (gen : Nat)
  | storeTokenSent (sess : Session) (issuer : Issuer) (sent : Bool)
  | loadTokenSent (sess : Session)
  | readMessage (sess : Session)
  | tick (d : Nat)
  deriving DecidableEq

def GwStmt.Ans : GwStmt → Type
  | .remove _ => Bool
  | .markOnline _ _ => Int
  | .touch _ _ => Bool
  | .newSession _ _ _ => Session
  | .epoch _ _ => Int
  | .addTokenGen _ _ _ => Nat
  | .writeToken _ _ _ _ => Bool
  | .loadTokenSent _ => Bool
  | _ => Unit

abbrev gwSig : Sig := ⟨GwStmt, GwStmt.Ans⟩

namespace GwState

def add (s : GwState) (sess : Session) : GwState :=
  { s with
    registry := s.registry.add sess
    added := sess :: s.added
    claim := Function.update s.claim sess none }

def remove (s : GwState) (sess : Session) : GwState :=
  { s with
    registry := s.registry.remove sess
    leaving := if s.registry.current sess then sess :: s.leaving else s.leaving }

def ofHost (hostID : Int) (r : HostAgentRow) : Bool := r.hostID = hostID

def markOnline (cfg : GwConfig) (s : GwState) (sess : Session) (clockSkewMs : Int) : GwState :=
  { s with
    agents := s.agents.update (ofHost sess.hostID) fun r =>
      r.markOnline cfg.instanceID (clampVersion sess.version) clockSkewMs s.now.micros
    claim := Function.update s.claim sess (some s.now.micros) }

def markOffline (cfg : GwConfig) (s : GwState) (sess : Session) : GwState :=
  { s with
    agents := s.agents.update (HostAgentRow.departing sess.hostID cfg.instanceID) HostAgentRow.markOffline
    leaving := s.leaving.filter (· ≠ sess) }

def writeToken (cfg : GwConfig) (s : GwState) (sess : Session) (epoch : Int) : GwState :=
  { s with
    tokens := Function.update s.tokens sess
      (⟨sess.hostID, cfg.instanceID, epoch, (s.now.micros + sessionTokenTTL) / second⟩ :: s.tokens sess) }

end GwState

def notFound (hostID : Int) : Err := .tagged ("host agent for host " ++ toString hostID) .notFound

section Semantics

variable (cfg : GwConfig)

def GwStmt.sem : (q : GwStmt) → M GwState Err q.Ans
  | .lockAgent sess => write fun s => { s with connLock := Function.update s.connLock sess.agentID true }
  | .unlockAgent sess => write fun s => { s with connLock := Function.update s.connLock sess.agentID false }
  | .add sess => write fun s => s.add sess
  | .remove sess => fun s => (.ok (s.registry.current sess), s.remove sess)
  | .markOnline sess clockSkewMs =>
    stmt fun s =>
      if s.agents.exists? (GwState.ofHost sess.hostID) then .ok (s.now.micros, s.markOnline cfg sess clockSkewMs)
      else .error (notFound sess.hostID)
  | .touch sess clockSkewMs => fun s =>
    (.ok (s.agents.exists? (HostAgentRow.touchable sess.hostID cfg.instanceID)),
      { s with
        agents := s.agents.update (HostAgentRow.touchable sess.hostID cfg.instanceID) fun r =>
          r.touch clockSkewMs s.now.micros })
  | .markOffline sess => write fun s => s.markOffline cfg sess
  | .markStaleOffline => write fun s =>
    { s with agents := s.agents.update (HostAgentRow.stale agentStaleAfter s.now.micros) HostAgentRow.markOffline }
  | .newSession agentID hostID version => fun s =>
    (.ok ⟨s.sessions, agentID, hostID, version⟩, { s with sessions := s.sessions + 1 })
  | .setEpoch sess t => write fun s => { s with epoch := Function.update s.epoch sess t }
  | .epoch sess _ => read fun s => s.epoch sess
  | .addTokenGen sess _ _ => fun s =>
    (.ok (s.tokenGen sess + 1), { s with tokenGen := Function.update s.tokenGen sess (s.tokenGen sess + 1) })
  | .writeToken sess _ connEpoch gen => fun s => (.ok (cfg.delivers sess gen), s.writeToken cfg sess connEpoch)
  | .storeTokenSent sess _ sent => write fun s => { s with tokenSent := Function.update s.tokenSent sess sent }
  | .loadTokenSent sess => read fun s => s.tokenSent sess
  | .readMessage _ => pure ()
  | .tick d => write fun s => { s with now := s.now.add d }

def GwStmt.ready : GwStmt → GwState → Bool
  | .lockAgent sess, s => !s.connLock sess.agentID
  | _, _ => true

end Semantics

/-- A frame: a heartbeat or a second hello, or one that the registry has nothing to do with. -/
inductive Frame where
  | beat (clockSkewMs : Int)
  | other

namespace Gw

open Prog

abbrev GwM : Type → Type := Prog gwSig Err

variable (sess : Session) (clockSkewMs : Int) (issuer : Issuer)

def unlockAfterAdd (connectedAt : Option Int) : GwM (Option Int) := do
  ask (G := gwSig) (.unlockAgent sess)
  return connectedAt

def addMarkOnline : GwM (Option Int) := do
  let connectedAt ← attempt (ask (G := gwSig) (.markOnline sess clockSkewMs))
  unlockAfterAdd sess connectedAt.toOption

def addLocked : GwM (Option Int) := do
  ask (G := gwSig) (.add sess)
  addMarkOnline sess clockSkewMs

def add : GwM (Option Int) := do
  ask (G := gwSig) (.lockAgent sess)
  addLocked sess clockSkewMs

def unlockAfterRemove : GwM Unit := ask (G := gwSig) (.unlockAgent sess)

def removeMarkOffline : GwM Unit := do
  ask (G := gwSig) (.markOffline sess)
  unlockAfterRemove sess

def removed (current : Bool) : GwM Unit :=
  if current then removeMarkOffline sess else unlockAfterRemove sess

def removeLocked : GwM Unit := do
  let current : Bool ← ask (G := gwSig) (.remove sess)
  removed sess current

def remove : GwM Unit := do
  ask (G := gwSig) (.lockAgent sess)
  removeLocked sess

def reclaim : GwM (Option Int) := do
  let connectedAt ← attempt (ask (G := gwSig) (.markOnline sess clockSkewMs))
  return connectedAt.toOption

def reclaimUnless (claimed : Bool) : GwM (Option Int) :=
  if claimed then return none else reclaim sess clockSkewMs

def registryTouch : GwM (Option Int) := do
  let claimed : Bool ← ask (G := gwSig) (.touch sess clockSkewMs)
  reclaimUnless sess clockSkewMs claimed

def deliver (epoch : Int) (gen : Nat) : GwM Unit := do
  let sent : Bool ← ask (G := gwSig) (.writeToken sess issuer epoch gen)
  ask (G := gwSig) (.storeTokenSent sess issuer sent)

def mint (epoch : Int) : GwM Unit := do
  let gen : Nat ← ask (G := gwSig) (.addTokenGen sess issuer epoch)
  deliver sess issuer epoch gen

def mintFor (epoch : Int) : GwM Unit :=
  if epoch = 0 then return () else mint sess issuer epoch

def issueSessionToken : GwM Unit := do
  let epoch : Int ← ask (G := gwSig) (.epoch sess issuer)
  mintFor sess issuer epoch

def claimed (t : Int) : GwM Unit := do
  ask (G := gwSig) (.setEpoch sess t)
  issueSessionToken sess .handler

def issueUnless (sent : Bool) : GwM Unit :=
  if sent then return () else issueSessionToken sess .handler

def retryToken : GwM Unit := do
  let sent : Bool ← ask (G := gwSig) (.loadTokenSent sess)
  issueUnless sess sent

def afterTouch : Option Int → GwM Unit
  | some t => claimed sess t
  | none => retryToken sess

def touch : GwM Unit := do
  let reclaimedAt ← registryTouch sess clockSkewMs
  afterTouch sess reclaimedAt

def handleFrame : Frame → GwM Unit
  | .beat clockSkewMs => touch sess clockSkewMs
  | .other => return ()

def serve (sess : Session) : List Frame → GwM Unit
  | [] => do
    ask (G := gwSig) (.readMessage sess)
    remove sess
  | f :: fs => do
    ask (G := gwSig) (.readMessage sess)
    handleFrame sess f
    serve sess fs

def opened (frames : List Frame) : Option Int → GwM Unit
  | some t => do
    claimed sess t
    serve sess frames
  | none => serve sess frames

def handleChannel (agentID : String) (hostID : Int) (version : String) (clockSkewMs : Int) (frames : List Frame) :
    GwM Unit := do
  let sess : Session ← ask (G := gwSig) (.newSession agentID hostID version)
  let connectedAt ← add sess clockSkewMs
  opened sess frames connectedAt

def refreshSessionToken (sess : Session) : Nat → GwM Unit
  | 0 => return ()
  | n + 1 => do
    issueSessionToken sess .refresher
    refreshSessionToken sess n

end Gw

def sessionRowValid (claims : SessionClaims) (row : HostAgentRow) : Bool :=
  match row.status, row.connectedAt with
  | .online, some t => t = claims.connEpoch
  | _, _ => false

inductive RegistryCall where
  | add (sess : Session) (clockSkewMs : Int)
  | remove (sess : Session)

def registryProg : RegistryCall → Gw.GwM Unit
  | .add sess clockSkewMs => do
    let _ ← Gw.add sess clockSkewMs
    return ()
  | .remove sess => Gw.remove sess

def registrySystem (cfg : GwConfig) : System GwState gwSig Err Unit RegistryCall :=
  ⟨fun q => q.sem cfg, GwStmt.ready, registryProg⟩

/-- Connections, the renewal of the tokens of a session, the sweep, and time that passes. -/
inductive ChannelCall where
  | handleChannel (agentID : String) (hostID : Int) (version : String) (clockSkewMs : Int) (frames : List Frame)
  | refreshSessionToken (sess : Session) (ticks : Nat)
  | markStaleOffline
  | tick (d : Nat)

def channelProg : ChannelCall → Gw.GwM Unit
  | .handleChannel agentID hostID version clockSkewMs frames =>
    Gw.handleChannel agentID hostID version clockSkewMs frames
  | .refreshSessionToken sess ticks => Gw.refreshSessionToken sess ticks
  | .markStaleOffline => Prog.ask (G := gwSig) .markStaleOffline
  | .tick d => Prog.ask (G := gwSig) (.tick d)

def channelSystem (cfg : GwConfig) : System GwState gwSig Err Unit ChannelCall :=
  ⟨fun q => q.sem cfg, GwStmt.ready, channelProg⟩

end Vraxel.AgentGw
