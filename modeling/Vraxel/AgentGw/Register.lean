import Vraxel.Db.AgentHosts
import Vraxel.AgentGw.Admission
/-
  The registration of an agent (`pkg/apis/agentgw/register.go`), with the host registrar
  of `pkg/apis/compute/agent_registrar.go` and `Bind` of `store/pg_agent.go`, next to the
  channels that agents open.

  A statement is one step and so is `Bind`, a transaction under an advisory lock on the machine. The
  clock is the database's; `serverNow` is the instance's. `freshID` is the UUID that `Bind` draws.
-/

namespace Vraxel.AgentGw

open Relational Api Db Txn Interleave

structure RegisterRequest where
  machineID : String
  facts : AgentHostFacts
  agentVersion : String
  fingerprint : MachineFingerprint

structure RegisterCall where
  joinToken : Option String
  req : RegisterRequest
  serverNow : Int
  freshID : String

def RegisterCall.fingerprint (c : RegisterCall) : Fingerprint :=
  newFingerprint c.req.machineID c.req.fingerprint c.serverNow

structure BindInput where
  hostID : Int
  version : String
  agentID : String
  claimUUIDs : List String
  fingerprint : FingerprintInput

structure AgentClaims where
  agentID : String
  hostID : Int
  tokenVersion : Int

/-- `hashToken` and `digest64` are made from SHA-256; `issue` signs an agent token. -/
structure RegConfig where
  hashToken : String → String
  digest64 : String → Nat
  issue : AgentClaims → Except Err String

/-- The row that a request has looked up: since then it was moved to another host, and since
its status was read a channel was accepted for it. -/
structure Look where
  agentID : String
  hostID : Int
  moved : Bool
  accepted : Bool

/-- A row as it was when it was rebound, its host, and the token of the request. -/
structure Rebind where
  row : HostAgentRow
  host : Option HostRow
  token : JoinTokenRow

structure RegState where
  db : DB
  agents : Table HostAgentRow
  now : Int
  requests : Nat
  held : List (Nat × Int)
  created : List Int
  binds : Nat
  rebinds : List Rebind
  looks : Nat → Option Look

def RegState.init (db : DB) (agents : Table HostAgentRow) (now : Int) : RegState where
  db := db
  agents := agents
  now := now
  requests := 0
  held := []
  created := []
  binds := 0
  rebinds := []
  looks _ := none

namespace RegState

variable (s : RegState) (agentID : String) (hostID : Int) (input : BindInput)

def byAgentID : Option HostAgentRow := s.agents.find? (·.agentID = agentID)

def byProductUUID (productUUIDs : List String) : List HostAgentRow :=
  s.agents.select fun r => r.productUUID ≠ "" ∧ productUUIDs.contains r.productUUID

def bound : Bool := s.agents.exists? (·.hostID = hostID)

def settle : Nat → Option Look := fun n =>
  (s.looks n).map fun l => if l.agentID = agentID ∧ l.hostID ≠ hostID then { l with moved := true } else l

def accept : Nat → Option Look := fun n =>
  (s.looks n).map fun l =>
    if s.agents.exists? (fun r => r.hostID = hostID ∧ r.agentID = l.agentID) then { l with accepted := true } else l

def invalidAgentID : Err := .tagged ("agent id \"" ++ agentID ++ "\"") .badRequest

def hostRef : Bool × Err :=
  (references s.db.hosts (some hostID), foreignKeyViolation "host_agents" "host_id" hostID "hosts")

def claimant : String :=
  if input.agentID = "" ∧ input.claimUUIDs ≠ [] then
    match s.byProductUUID input.claimUUIDs with
    | [found] => found.agentID
    | _ => ""
  else input.agentID

def rebindChecks : Except Err Unit :=
  firstViolation [
    (uuidShape agentID, invalidAgentID agentID),
    ((s.byAgentID agentID).isSome, .tagged ("host agent " ++ agentID) .notFound),
    (!s.agents.exists? (fun r => r.hostID = hostID ∧ r.agentID ≠ agentID), uniqueViolation "host_agents_pkey"),
    s.hostRef hostID]

def rebound (token : JoinTokenRow) (input : BindInput) (agentID : String) : RegState :=
  { s with
    agents := s.agents.update (·.agentID = agentID) fun r =>
      r.rebind input.hostID (clampVersion input.version) input.fingerprint
    binds := s.binds + 1
    rebinds := (s.agents.select (·.agentID = agentID)).map (fun r => ⟨r, s.db.hosts.get? r.hostID, token⟩) ++ s.rebinds
    looks := s.settle agentID input.hostID }

/-- `DeleteHostAgentByHostID`: the host is detached from the agent it had. -/
def detached : Table HostAgentRow := s.agents.delete (·.hostID = hostID)

def insertChecks : Except Err Unit :=
  firstViolation [
    (uuidShape agentID, invalidAgentID agentID),
    (!(s.detached hostID).exists? (·.agentID = agentID), uniqueViolation "host_agents_agent_id_key"),
    s.hostRef hostID]

def inserted (agentID : String) : RegState :=
  { s with
    agents := (s.detached input.hostID).insert
      (.fresh input.hostID agentID (clampVersion input.version) input.fingerprint)
    binds := s.binds + 1
    looks := s.settle agentID input.hostID }

def boundRow : Except Err HostAgentRow :=
  match s.byAgentID agentID with
  | some r => .ok r
  | none => .error noRows

def bind (token : JoinTokenRow) (input : BindInput) (freshID : String) :
    Except Err (HostAgentRow × RegState) :=
  let agentID := s.claimant input
  if agentID ≠ "" then do
    s.rebindChecks agentID input.hostID
    let row ← (s.rebound token input agentID).boundRow agentID
    return (row, s.rebound token input agentID)
  else do
    s.insertChecks freshID input.hostID
    let row ← (s.inserted input freshID).boundRow freshID
    return (row, s.inserted input freshID)

/-- `DeleteAgentHost`: a host without an agent, and the tokens that name it. -/
def deleteAgentHost : Except Err (Unit × RegState) :=
  if (s.db.hosts.get? hostID).isSome ∧ !s.bound hostID then
    .ok ((), { s with
      db := { s.db with
        hosts := s.db.hosts.delete (·.id = hostID)
        joinTokens := s.db.joinTokens.delete (·.targetHostID = some hostID) } })
  else .error (.tagged ("host " ++ Strconv.formatInt hostID) .notFound)

end RegState

inductive RegStmt where
  | newRequest
  | peek (tokenHash : String)
  | findByProductUUID (req : Nat) (productUUIDs : List String)
  | getByAgentID (req : Nat) (agentID : String)
  | consume (req : Nat) (tokenHash : String)
  | getScope (hostID : Int)
  | updateFacts (hostID : Int) (facts : AgentHostFacts)
  | createAgentHost (p : CreateAgentHostParams)
  | deleteAgentHost (hostID : Int)
  | refund (req : Nat) (tokenID : Int)
  | bind (req : Nat) (token : JoinTokenRow) (input : BindInput) (freshID : String)
  | bindTarget (tokenID hostID : Int)
  | authAgent (agentID : String)
  | refreshFingerprint (hostID : Int) (fp : FingerprintInput)
  | recordForeignMachine (hostID : Int) (productUUID : String)
  | checkIdentity (hostID : Int) (bootNonce : String)
  | markOnline (hostID : Int) (instanceID version : String) (clockSkewMs : Int)
  | touch (hostID : Int) (instanceID : String) (clockSkewMs : Int)
  | markOffline (hostID : Int) (instanceID : String)
  | markStaleOffline
  | tick (d : Nat)

def RegStmt.Ans : RegStmt → Type
  | .newRequest => Nat
  | .peek _ => JoinTokenRow
  | .findByProductUUID _ _ => List HostAgentRow
  | .getByAgentID _ _ => HostAgentRow
  | .consume _ _ => JoinTokenRow
  | .getScope _ => ScopeParts
  | .createAgentHost _ => Int
  | .bind _ _ _ _ => HostAgentRow
  | .authAgent _ => HostAgentRow
  | .checkIdentity _ _ => Bool
  | .touch _ _ _ => Bool
  | _ => Unit

abbrev regSig : Sig := ⟨RegStmt, RegStmt.Ans⟩

namespace RegState

def onDb {α : Type} (x : DbM α) : M RegState Err α := fun s => ((x s.db).1, { s with db := (x s.db).2 })

def orError {α : Type} (e : Err) : Option α → Except Err α
  | some a => .ok a
  | none => .error e

def joinTokenNotFound : Err := .tagged "join token" .notFound

def hostNotFound (hostID : Int) : Err := .tagged ("host " ++ Strconv.formatInt hostID) .notFound

def agentNotFound (agentID : String) : Err := .tagged ("host agent " ++ agentID) .notFound

variable (s : RegState)

def liveToken (tokenHash : String) : Option JoinTokenRow :=
  s.db.joinTokens.find? (JoinTokenRow.live tokenHash (s.now / second))

def consumed (req : Nat) (tokenHash : String) (t : JoinTokenRow) : RegState :=
  { s with
    db := { s.db with
      joinTokens := s.db.joinTokens.update (JoinTokenRow.live tokenHash (s.now / second)) JoinTokenRow.consume }
    held := (req, t.id) :: s.held }

def consume (s : RegState) (req : Nat) (tokenHash : String) : Except Err (JoinTokenRow × RegState) :=
  match s.liveToken tokenHash with
  | some t => .ok (t.consume, s.consumed req tokenHash t)
  | none => .error joinTokenNotFound

def refunded (req : Nat) (tokenID : Int) : RegState :=
  { s with
    db := { s.db with joinTokens := s.db.joinTokens.update (JoinTokenRow.refundable tokenID) JoinTokenRow.refund }
    held := s.held.filter (· ≠ (req, tokenID)) }

def reread (req : Nat) : RegState :=
  { s with looks := Function.update s.looks req ((s.looks req).map fun l => { l with accepted := false }) }

def getByAgentID (req : Nat) (agentID : String) : Except Err (HostAgentRow × RegState) :=
  match s.byAgentID agentID with
  | some row => .ok (row, s.reread req)
  | none => .error (agentNotFound agentID)

def updateAgents (p : HostAgentRow → Bool) (f : HostAgentRow → HostAgentRow) : RegState :=
  { s with agents := s.agents.update p f }

def onHost (hostID : Int) (r : HostAgentRow) : Bool := r.hostID = hostID

end RegState

open RegState in
def RegStmt.sem : (q : RegStmt) → M RegState Err q.Ans
  | .newRequest => fun s => (.ok s.requests, { s with requests := s.requests + 1 })
  | .peek tokenHash => query fun s => orError joinTokenNotFound (s.liveToken tokenHash)
  | .findByProductUUID req productUUIDs => fun s =>
    let found := s.byProductUUID productUUIDs
    (.ok found, { s with
      looks := Function.update s.looks req
        (match found with
        | [r] => some ⟨r.agentID, r.hostID, false, false⟩
        | _ => none) })
  | .getByAgentID req agentID => stmt fun s => s.getByAgentID req agentID
  | .consume req tokenHash => stmt fun s => s.consume req tokenHash
  | .getScope hostID => query fun s => orError (hostNotFound hostID) ((s.db.hosts.get? hostID).map HostRow.parts)
  | .updateFacts hostID facts => onDb do
    let n ← mapErr (fun e => (checkPG e).wrap "update agent host facts") (updateAgentHostFacts hostID facts)
    if n = 0 then fail (hostNotFound hostID)
  | .createAgentHost p => fun s =>
    match (Db.createAgentHost p).run s.db with
    | (.ok h, db) => (.ok h.id, { s with db := db, created := h.id :: s.created })
    | (.error e, db) => (.error ((checkPG e).wrap "create agent host"), { s with db := db })
  | .deleteAgentHost hostID => stmt fun s => s.deleteAgentHost hostID
  | .refund req tokenID => write fun s => s.refunded req tokenID
  | .bind _ token input freshID => stmt fun s => s.bind token input freshID
  | .bindTarget tokenID hostID => onDb do
    let _ ← bindHostAgentJoinTokenTarget tokenID hostID
  | .authAgent agentID => query fun s => orError (agentNotFound agentID) (s.byAgentID agentID)
  | .refreshFingerprint hostID fp => write fun s => s.updateAgents (onHost hostID) (·.refreshFingerprint fp)
  | .recordForeignMachine hostID productUUID => write fun s =>
    s.updateAgents (onHost hostID) fun r => r.recordForeignMachine productUUID s.now
  | .checkIdentity hostID bootNonce => fun s =>
    let s' := s.updateAgents (onHost hostID) fun r => r.checkIdentity (clampBootNonce bootNonce) s.now
    (.ok (s'.agents.exists? fun r => r.hostID = hostID && r.contended s.now identityConflictCooldown), s')
  | .markOnline hostID instanceID version clockSkewMs => write fun s =>
    { s.updateAgents (onHost hostID) (fun r => r.markOnline instanceID (clampVersion version) clockSkewMs s.now) with
      looks := s.accept hostID }
  | .touch hostID instanceID clockSkewMs => fun s =>
    (.ok (s.agents.exists? (HostAgentRow.touchable hostID instanceID)),
      s.updateAgents (HostAgentRow.touchable hostID instanceID) fun r => r.touch clockSkewMs s.now)
  | .markOffline hostID instanceID => write fun s =>
    s.updateAgents (HostAgentRow.departing hostID instanceID) HostAgentRow.markOffline
  | .markStaleOffline => write fun s =>
    s.updateAgents (HostAgentRow.stale agentStaleAfter s.now) HostAgentRow.markOffline
  | .tick d => write fun s => { s with now := s.now + d }

variable (cfg : RegConfig)

def nameSuffixForAgent (nameSeed : String) (n : Nat) : String :=
  let full := Nat.toDigits 16 (cfg.digest64 nameSeed)
  String.ofList ((full ++ List.replicate (n - full.length) '0').take n)

def validNameChar (c : Char) : Bool := c.isAlphanum || c = '_' || c = '-'

/-- `agentHostNameInvalid.ReplaceAllString`: a run of other characters is one hyphen. -/
def replaceInvalid : List Char → List Char
  | [] => []
  | [c] => if validNameChar c then [c] else ['-']
  | c :: d :: rest =>
    if validNameChar c then c :: replaceInvalid (d :: rest)
    else if validNameChar d then '-' :: replaceInvalid (d :: rest)
    else replaceInvalid (d :: rest)

def trimHyphens (cs : List Char) : List Char :=
  let hyphen (c : Char) : Bool := c = '-' || c = '_'
  ((cs.dropWhile hyphen).reverse.dropWhile hyphen).reverse

def agentHostName (hostname : String) : String :=
  let name := trimHyphens (replaceInvalid (Strings.trimSpace hostname).toList)
  let name := if name.length > 37 then trimHyphens (name.take 37) else name
  if name.length < 3 then "agent-host" else String.ofList name

def agentHostNameCandidates (base nameSeed : String) : List String :=
  [base, base ++ "-" ++ nameSuffixForAgent cfg nameSeed 6, base ++ "-" ++ nameSuffixForAgent cfg nameSeed 12]

structure AgentHostSpec where
  existingHostID : Int
  nameSeed : String
  facts : AgentHostFacts
  parts : ScopeParts
  createdBy : Option Int

def rebindAuthorised (token cur : ScopeParts) : Bool :=
  if token.scope = .platform then true
  else token.scope = cur.scope ∧ token.workspaceID = cur.workspaceID ∧ token.namespaceID = cur.namespaceID

def isNotFound (e : Err) (resource : String) : Bool := (fromDomain e resource).any (·.status = 404)
def isConflict (e : Err) (resource : String) : Bool := (fromDomain e resource).any (·.status = 409)
def isForbidden (e : Err) : Bool := e.status.any (·.status = 403)

inductive Outcome where
  | refused (status : Nat) (message : String)
  | registered (agentID : String) (hostID : Int) (agentToken : String)
  | channel (admission : Option Admission)
  | finished
  deriving DecidableEq

namespace Reg

open Prog

abbrev RegM : Type → Type := Prog regSig Err

section Programs

variable (cfg : RegConfig)

def createFirst (spec : AgentHostSpec) (base : String) : List String → RegM (Int × Bool)
  | [] => fail (.plain ("host name \"" ++ base ++ "\" is taken and no disambiguated variant was free"))
  | name :: rest => do
    let id ← attempt (ask (G := regSig) (.createAgentHost ⟨name, spec.facts, spec.parts, spec.createdBy⟩))
    match id with
    | .ok id => return (id, true)
    | .error e => if isConflict e "host" then createFirst spec base rest else fail e

variable (spec : AgentHostSpec)

def createHost : RegM (Int × Bool) :=
  let base := agentHostName spec.facts.hostname
  createFirst spec base (agentHostNameCandidates cfg base spec.nameSeed)

def updateHost : RegM (Int × Bool) := do
  let updated ← attempt (ask (G := regSig) (.updateFacts spec.existingHostID spec.facts))
  match updated with
  | .ok _ => return (spec.existingHostID, false)
  | .error e => if isNotFound e "host" then createHost cfg spec else fail e

def forbidden (cur : ScopeParts) : Err :=
  .ofStatus (newForbidden ("host " ++ Strconv.formatInt spec.existingHostID ++ " is scoped to " ++ cur.scope.name ++
    "; this join token cannot rebind it"))

def claimHost (cur : ScopeParts) : RegM (Int × Bool) :=
  if rebindAuthorised spec.parts cur then updateHost cfg spec else fail (forbidden spec cur)

def registerAgentHost : RegM (Int × Bool) :=
  if spec.existingHostID > 0 then do
    let cur ← attempt (ask (G := regSig) (.getScope spec.existingHostID))
    match cur with
    | .ok cur => claimHost cfg spec cur
    | .error e => if isNotFound e "host" then createHost cfg spec else fail e
  else createHost cfg spec

/-! The handler, from its end to its beginning. -/

section Handler

variable (call : RegisterCall) (req : Nat)

variable (token : JoinTokenRow) (hostID : Int) (m : MatchOutcome) (tokenHash : String)

def refundUse (answer : Outcome) : RegM Outcome := do
  let _ ← attempt (ask (G := regSig) (.refund req token.id))
  return answer

def undoRegistration (hostCreated : Bool) (answer : Outcome) : RegM Outcome :=
  if hostCreated ∧ hostID > 0 then do
    let _ ← attempt (ask (G := regSig) (.deleteAgentHost hostID))
    refundUse req token answer
  else refundUse req token answer

def bindDone (row : HostAgentRow) : RegM Outcome :=
  match cfg.issue ⟨row.agentID, hostID, row.tokenVersion⟩ with
  | .error _ => return .refused 500 "issue agent token"
  | .ok agentToken => do
    let _ ← attempt (ask (G := regSig) (.bindTarget token.id hostID))
    return .registered row.agentID hostID agentToken

def bindInput (hostID : Int) : BindInput where
  hostID := hostID
  version := call.req.agentVersion
  agentID := m.agentID
  claimUUIDs := m.claimUUIDs
  fingerprint := call.fingerprint.toStore m.source

def hostReady (token : JoinTokenRow) (hostID : Int) (hostCreated : Bool) : RegM Outcome := do
  let row ← attempt (ask (G := regSig) (.bind req token (bindInput call m hostID) call.freshID))
  match row with
  | .error _ => undoRegistration req token hostID hostCreated (.refused 500 "persist agent")
  | .ok row => bindDone cfg token hostID row

def hostRefused (e : Err) : Outcome :=
  if isForbidden e then .refused 403 "this join token may not claim that host" else .refused 500 "register host"

def hostSpec (existingHostID : Int) : AgentHostSpec where
  existingHostID := existingHostID
  nameSeed := call.fingerprint.nameSeed
  facts := call.req.facts
  parts := token.parts
  createdBy := token.createdBy

def registerHost (token : JoinTokenRow) (existingHostID : Int) : RegM Outcome := do
  let host ← attempt (registerAgentHost cfg (hostSpec call token existingHostID))
  match host with
  | .error e => undoRegistration req token 0 false (hostRefused e)
  | .ok (hostID, hostCreated) => hostReady cfg call req m token hostID hostCreated

def claimed (token : JoinTokenRow) : RegM Outcome :=
  match token.targetHostID with
  | none => registerHost cfg call req m token m.hostID
  | some target =>
    if m.hostID = 0 then registerHost cfg call req m token target
    else if m.hostID ≠ target then
      undoRegistration req token 0 false (.refused 409 "this agent is already bound to another host")
    else registerHost cfg call req m token m.hostID

def tokenRefused (message : String) (e : Err) : Outcome :=
  if isNotFound e "join token" then .refused 401 "invalid, expired or exhausted join-token" else .refused 500 message

def claimUse (m : MatchOutcome) : RegM Outcome := do
  let token ← attempt (ask (G := regSig) (.consume req tokenHash))
  match token with
  | .error e => return tokenRefused "consume join-token" e
  | .ok token => claimed cfg call req m token

def liveAgent (m : MatchOutcome) (prev : HostAgentRow) : RegM Outcome :=
  if prev.status = .online then
    return .refused 409 "this machine already has a live agent; stop it before re-registering"
  else claimUse cfg call req tokenHash m

def matched (m : MatchOutcome) : RegM Outcome :=
  if m.agentID = "" then claimUse cfg call req tokenHash m
  else do
    let prev ← attempt (ask (G := regSig) (.getByAgentID req m.agentID))
    match prev with
    | .error _ => return .refused 500 "lookup agent"
    | .ok prev => liveAgent cfg call req tokenHash m prev

def matchOf (candidates : List HostAgentRow) : MatchOutcome :=
  matchMachine call.fingerprint candidates (call.serverNow - agentStaleAfter)

def lookUp : RegM Outcome :=
  if call.fingerprint.productUUID = "" then matched cfg call req tokenHash (matchOf call [])
  else do
    let candidates ← attempt (ask (G := regSig) (.findByProductUUID req call.fingerprint.claimUUIDs))
    match candidates with
    | .error _ => return .refused 500 "lookup agent"
    | .ok candidates => matched cfg call req tokenHash (matchOf call candidates)

def checkToken : RegM Outcome := do
  let peeked ← attempt (ask (G := regSig) (.peek tokenHash))
  match peeked with
  | .error e => return tokenRefused "check join-token" e
  | .ok _ => lookUp cfg call req tokenHash

end Handler

def decoded (call : RegisterCall) (joinToken : String) : RegM Outcome :=
  if Strings.trimSpace call.req.machineID = "" then return .refused 400 "machineId is required"
  else if Strings.trimSpace call.req.facts.hostname = "" then return .refused 400 "hostname is required"
  else do
    let req : Nat ← ask (G := regSig) .newRequest
    checkToken cfg call req (cfg.hashToken joinToken)

def handleRegister (call : RegisterCall) : RegM Outcome :=
  match call.joinToken with
  | none => return .refused 401 "missing bearer join-token"
  | some joinToken => decoded cfg call joinToken

structure ConnectCall where
  agentID : String
  tokenVersion : Int
  attempt : Attempt

def openChannel (c : ConnectCall) (row : HostAgentRow) : RegM Outcome := do
  let contended : Bool ← ask (G := regSig) (.checkIdentity row.hostID c.attempt.hello.bootNonce)
  if contended then return .channel (some .contended)
  else do
    ask (G := regSig)
      (.markOnline row.hostID c.attempt.instanceID c.attempt.hello.agentVersion c.attempt.hello.clockSkewMs)
    return .channel (some .added)

def verify (c : ConnectCall) (row : HostAgentRow) : RegM Outcome :=
  let fp := c.attempt.fingerprint
  match verifyMachine row fp with
  | .foreignMachine => do
    ask (G := regSig) (.recordForeignMachine row.hostID fp.productUUID)
    return .channel (some .foreign)
  | .machineIDReset | .hardwareChanged => do
    ask (G := regSig) (.refreshFingerprint row.hostID (fp.toStore row.identitySource))
    openChannel c row
  | .sameMachine | .unverifiable => openChannel c row

def connect (c : ConnectCall) : RegM Outcome := do
  let row : HostAgentRow ← ask (G := regSig) (.authAgent c.agentID)
  if row.tokenVersion ≠ c.tokenVersion then return .channel none else verify c row

def heartbeat (hostID : Int) (instanceID version : String) (clockSkewMs : Int) : RegM Outcome := do
  let claimed : Bool ← ask (G := regSig) (.touch hostID instanceID clockSkewMs)
  if claimed then return .finished
  else do
    ask (G := regSig) (.markOnline hostID instanceID version clockSkewMs)
    return .finished

end Programs

end Reg

/-- Registrations, the channels of agents, the sweep of stale rows, and time that passes. -/
inductive GatewayCall where
  | register (call : RegisterCall)
  | connect (call : Reg.ConnectCall)
  | heartbeat (hostID : Int) (instanceID version : String) (clockSkewMs : Int)
  | closed (hostID : Int) (instanceID : String)
  | markStaleOffline
  | tick (d : Nat)

def gatewayProg : GatewayCall → Reg.RegM Outcome
  | .register call => Reg.handleRegister cfg call
  | .connect call => Reg.connect call
  | .heartbeat hostID instanceID version clockSkewMs => Reg.heartbeat hostID instanceID version clockSkewMs
  | .closed hostID instanceID => do
    Prog.ask (G := regSig) (.markOffline hostID instanceID)
    return .finished
  | .markStaleOffline => do
    Prog.ask (G := regSig) .markStaleOffline
    return .finished
  | .tick d => do
    Prog.ask (G := regSig) (.tick d)
    return .finished

def gatewaySystem : System RegState regSig Err Outcome GatewayCall :=
  ⟨RegStmt.sem, fun _ _ => true, gatewayProg cfg⟩

/-! Where the example runs start. -/

def plainConfig : RegConfig := ⟨("sha256:" ++ ·), fun _ => 81985529216486895, fun c => .ok ("token of " ++ c.agentID)⟩

def joinTokens (uses : Int) : Table JoinTokenRow :=
  (Table.empty.insert ⟨0, "", "sha256:any", .platform, none, none, uses, 0, 1000, none, none, chkScope_platform⟩).insert
    ⟨0, "", "sha256:red", .workspace, some 1, none, uses, 0, 1000, none, none, chkScope_workspace 1⟩

def registration (joinToken productUUID machineID freshID : String) : GatewayCall :=
  .register ⟨some joinToken, ⟨machineID, ⟨"node-1", "linux", "amd64", 4, 8192, 100, "10.0.0.1"⟩, "1.0.0",
    ⟨machineID, productUUID, [], 0⟩⟩, 0, freshID⟩

def stepsOf (i n : Nat) : List (Event GatewayCall) := List.replicate n (.step i)

end Vraxel.AgentGw
