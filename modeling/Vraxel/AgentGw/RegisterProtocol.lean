import Vraxel.Lib.Protocol
import Vraxel.AgentGw.Register
/-
  The protocol of a registration: what a request knows and holds between two of its statements, and
  which statements it executes then. The programs of `Register` follow it, whatever the database
  answers.

  A phase has the number of the request, the UUID that its machine reports, the row that it has
  matched (`look`), whether that row was offline when its status was read, the join token of which it
  holds a use, what it was told about the host that it wants to claim (`scope`), and the host that it
  has created and not bound or deleted yet (`pending`).
-/

namespace Vraxel.AgentGw

open Db Api Interleave

structure Phase where
  req : Option Nat
  uuid : Option String
  look : Option (String × Int)
  offline : Bool
  token : Option JoinTokenRow
  scope : Option (Int × Option ScopeParts)
  pending : Option Int

namespace Phase

def idle (uuid : Option String) : Phase := ⟨none, uuid, none, false, none, none, none⟩

def lookOf (uuid : String) (rows : List HostAgentRow) : Option (String × Int) :=
  match rows.filter fun r => sameProductUUID uuid r.productUUID with
  | [r] => some (r.agentID, r.hostID)
  | _ => none

/-- The request may claim the host that it has matched: its scope was read and the token is
good for it, or the host is gone. -/
def MayClaim (k : Phase) (parts : ScopeParts) (hostID : Int) : Prop :=
  0 < hostID → ∃ cur, k.scope = some (hostID, cur) ∧ ∀ p, cur = some p → rebindAuthorised parts p

def pendingOf (hostID : Int) (hostCreated : Bool) : Option Int :=
  if hostCreated ∧ hostID > 0 then some hostID else none

/-- What a request executes in a phase. -/
def Allows (k : Phase) (q : RegStmt) : Prop :=
  match q with
  | .newRequest => k.req = none ∧ k.token = none ∧ k.look = none ∧ k.scope = none
  | .findByProductUUID req us =>
    k.req = some req ∧ k.look = none ∧ k.offline = false ∧ k.scope = none ∧
      ∃ uuid, k.uuid = some uuid ∧ us = [uuid, swapUUIDByteOrder uuid] ∧ uuidShape uuid
  | .getByAgentID req agentID => k.req = some req ∧ ∃ hostID, k.look = some (agentID, hostID)
  | .consume req _ => k.req = some req ∧ k.token = none
  | .createAgentHost _ => k.pending = none
  | .deleteAgentHost hostID => k.pending = some hostID
  | .refund req tokenID => k.req = some req ∧ ∃ t, k.token = some t ∧ t.id = tokenID
  | .bind req token input _ =>
    k.req = some req ∧ k.token = some token ∧ (k.pending = none ∨ k.pending = some input.hostID) ∧
      k.uuid = some input.fingerprint.productUUID ∧
        (input.claimUUIDs = [] ∨
          input.claimUUIDs = [input.fingerprint.productUUID, swapUUIDByteOrder input.fingerprint.productUUID]) ∧
          (input.agentID ≠ "" → ∃ hostID, k.look = some (input.agentID, hostID) ∧ k.offline ∧ k.MayClaim token.parts hostID)
  | _ => True

def next (q : RegStmt) (r : Except Err q.Ans) (k : Phase) : Phase :=
  match q, r with
  | .newRequest, .ok n => { k with req := some n }
  | .findByProductUUID _ _, .ok rows => { k with look := k.uuid.bind (lookOf · rows) }
  | .getByAgentID _ _, .ok row => { k with offline := row.status = .offline }
  | .consume _ _, .ok t => { k with token := some t }
  | .getScope hostID, r => { k with scope := some (hostID, r.toOption) }
  | .createAgentHost _, .ok id => { k with pending := pendingOf id true }
  | .bind _ _ _ _, .ok _ => { k with pending := none }
  | .deleteAgentHost _, _ => { k with pending := none }
  | .refund _ _, _ => { k with token := none }
  | _, _ => k

end Phase

def regProtocol : Protocol regSig Err Phase := ⟨fun q k => k.Allows q, Phase.next⟩

theorem next_uuid (q : RegStmt) (r : Except Err q.Ans) (k : Phase) : (Phase.next q r k).uuid = k.uuid := by
  cases q <;> cases r <;> rfl

theorem next_look {q : RegStmt} (hq : ∀ req productUUIDs, q ≠ .findByProductUUID req productUUIDs) (r : Except Err q.Ans)
    (k : Phase) : (Phase.next q r k).look = k.look := by
  cases q with
  | findByProductUUID req productUUIDs => exact absurd rfl (hq req productUUIDs)
  | _ => cases r <;> rfl

def Settled {α : Type} (k : Phase) (_ : Except Err α) : Prop := k.pending = none

open Protocol Reg

/-! What a match says. -/

theorem matchMachine_claimUUIDs (fp : Fingerprint) (candidates : List HostAgentRow) (cutoff : Int) :
    (matchMachine fp candidates cutoff).claimUUIDs = [] ∨
      (matchMachine fp candidates cutoff).claimUUIDs = fp.claimUUIDs := by
  unfold matchMachine
  split
  · exact .inl rfl
  · split
    · exact .inr rfl
    · split
      · exact .inl rfl
      · exact .inr rfl
    · exact .inl rfl

variable {hostID : Int}

theorem mem_of_lookOf {uuid : String} {rows : List HostAgentRow} {agentID : String}
    (h : Phase.lookOf uuid rows = some (agentID, hostID)) : ∃ r ∈ rows, r.agentID = agentID ∧ r.hostID = hostID := by
  unfold Phase.lookOf at h
  split at h
  · rename_i r hfound
    cases h
    have hr : r ∈ rows.filter fun r => sameProductUUID uuid r.productUUID := by simp [hfound]
    exact ⟨r, List.mem_of_mem_filter hr, rfl, rfl⟩
  · cases h

theorem lookOf_of_matchMachine {fp : Fingerprint} {candidates : List HostAgentRow} {cutoff : Int}
    (h : (matchMachine fp candidates cutoff).agentID ≠ "") :
    Phase.lookOf fp.productUUID candidates =
      some ((matchMachine fp candidates cutoff).agentID, (matchMachine fp candidates cutoff).hostID) := by
  unfold matchMachine at h ⊢
  unfold Phase.lookOf
  split at h
  · exact absurd rfl h
  · rename_i hne
    rw [if_neg hne]
    generalize candidates.filter (fun c => sameProductUUID fp.productUUID c.productUUID) = found at h ⊢
    match found with
    | [] => exact absurd rfl h
    | [prev] =>
      dsimp only at h ⊢
      split at h
      · exact absurd rfl h
      · rename_i hlive
        rw [if_neg hlive]
    | _ :: _ :: _ => exact absurd rfl h

section Programs

variable {cfg : RegConfig} {call : RegisterCall} {req : Nat} {k : Phase}

/-- What a phase is after the registrar has answered: the host is pending if it was created,
and the scope of an existing one was read. -/
def Registered (k : Phase) (spec : AgentHostSpec) (k' : Phase) (r : Except Err (Int × Bool)) : Prop :=
  ∃ scope pending, k' = { k with scope := scope, pending := pending } ∧
    match r with
    | .ok (hostID, hostCreated) =>
      pending = Phase.pendingOf hostID hostCreated ∧ k'.MayClaim spec.parts spec.existingHostID
    | .error _ => pending = none

variable (spec : AgentHostSpec) {token : JoinTokenRow} {m : MatchOutcome} {tokenHash : String}

theorem follows_createFirst (base : String) (names : List String) (hpending : k.pending = none)
    (hclaim : k.MayClaim spec.parts spec.existingHostID) :
    regProtocol.Follows (Registered k spec) k (createFirst spec base names) := by
  -- the phase does not change until a name is free
  induction names with
  | nil => exact ⟨k.scope, none, by rw [← hpending], rfl⟩
  | cons name rest ih =>
    refine ⟨hpending, ?_⟩
    intro r
    cases r with
    | ok id =>
      exact ⟨k.scope, Phase.pendingOf id true, rfl, rfl, hclaim⟩
    | error e =>
      show regProtocol.Follows (Registered k spec) k (if isConflict e "host" then createFirst spec base rest else Prog.fail e)
      split
      · exact ih
      · exact ⟨k.scope, none, by rw [← hpending], rfl⟩

theorem follows_createHost (hpending : k.pending = none)
    (hclaim : k.MayClaim spec.parts spec.existingHostID) :
    regProtocol.Follows (Registered k spec) k (createHost cfg spec) :=
  follows_createFirst spec _ _ hpending hclaim

theorem follows_updateHost (hpending : k.pending = none)
    (hclaim : k.MayClaim spec.parts spec.existingHostID) :
    regProtocol.Follows (Registered k spec) k (updateHost cfg spec) := by
  refine ⟨trivial, ?_⟩
  intro r
  cases r with
  | ok u => exact ⟨k.scope, none, by rw [← hpending]; rfl, rfl, hclaim⟩
  | error e =>
    show regProtocol.Follows (Registered k spec) k (if isNotFound e "host" then createHost cfg spec else Prog.fail e)
    split
    · exact follows_createHost spec hpending hclaim
    · exact ⟨k.scope, none, by rw [← hpending], rfl⟩

theorem Registered.of_scope {spec : AgentHostSpec} {scope : Option (Int × Option ScopeParts)} {k' : Phase}
    {r : Except Err (Int × Bool)} (h : Registered { k with scope := scope } spec k' r) : Registered k spec k' r := by
  obtain ⟨scope', pending, rfl, hr⟩ := h
  exact ⟨scope', pending, rfl, hr⟩

theorem follows_registerAgentHost (cfg : RegConfig) (spec : AgentHostSpec) (hpending : k.pending = none) :
    regProtocol.Follows (Registered k spec) k (registerAgentHost cfg spec) := by
  unfold registerAgentHost
  split
  · refine ⟨trivial, ?_⟩
    intro r
    show regProtocol.Follows (Registered k spec) { k with scope := some (spec.existingHostID, r.toOption) } _
    have hof : ∀ k' r', Registered { k with scope := some (spec.existingHostID, r.toOption) } spec k' r' →
        Registered k spec k' r' := fun _ _ => Registered.of_scope
    cases r with
    | ok cur =>
      show regProtocol.Follows _ _ (claimHost cfg spec cur)
      unfold claimHost
      split
      · rename_i hauth
        refine (follows_updateHost (k := { k with scope := some (spec.existingHostID, some cur) }) spec hpending ?_).mono hof
        intro _
        refine ⟨some cur, rfl, ?_⟩
        intro p hp
        cases hp
        exact hauth
      · exact ⟨_, none, by rw [← hpending], rfl⟩
    | error e =>
      show regProtocol.Follows _ _ (if isNotFound e "host" then createHost cfg spec else Prog.fail e)
      split
      · refine (follows_createHost (k := { k with scope := some (spec.existingHostID, none) }) spec hpending ?_).mono hof
        intro _
        refine ⟨none, rfl, ?_⟩
        intro p hp
        cases hp
      · exact ⟨_, none, by rw [← hpending], rfl⟩
  · rename_i hpos
    apply follows_createHost spec hpending
    intro h
    exact absurd h hpos

/-! The handler, from its end to its beginning. -/

theorem follows_refundUse {answer : Outcome} (hreq : k.req = some req)
    (htoken : k.token = some token) (hpending : k.pending = none) :
    regProtocol.Follows Settled k (refundUse req token answer) :=
  ⟨⟨hreq, token, htoken, rfl⟩, fun _ => hpending⟩

theorem follows_undoRegistration {answer : Outcome} {hostCreated : Bool}
    (hreq : k.req = some req) (htoken : k.token = some token)
    (hpending : k.pending = Phase.pendingOf hostID hostCreated) :
    regProtocol.Follows Settled k (undoRegistration req token hostID hostCreated answer) := by
  unfold undoRegistration
  split
  · rename_i hcreated
    rw [Phase.pendingOf, if_pos hcreated] at hpending
    refine ⟨hpending, ?_⟩
    intro r
    exact follows_refundUse (k := { k with pending := none }) hreq htoken rfl
  · rename_i hcreated
    rw [Phase.pendingOf, if_neg hcreated] at hpending
    exact follows_refundUse hreq htoken hpending

theorem follows_bindDone {row : HostAgentRow} (hpending : k.pending = none) :
    regProtocol.Follows Settled k (bindDone cfg token hostID row) := by
  unfold bindDone
  split
  · exact hpending
  · exact ⟨trivial, fun _ => hpending⟩

structure Knows (k : Phase) (call : RegisterCall) (req : Nat) (m : MatchOutcome) : Prop where
  req : k.req = some req
  uuid : k.uuid = some call.fingerprint.productUUID
  claim : m.claimUUIDs = [] ∨ m.claimUUIDs = call.fingerprint.claimUUIDs
  look : m.agentID ≠ "" → k.look = some (m.agentID, m.hostID)
  pending : k.pending = none

theorem Knows.of_eq (h : Knows k call req m) {k' : Phase} (hreq : k'.req = k.req) (huuid : k'.uuid = k.uuid)
    (hlook : k'.look = k.look) (hpending : k'.pending = none) : Knows k' call req m :=
  ⟨hreq.trans h.req, huuid.trans h.uuid, h.claim, fun hne => hlook.trans (h.look hne), hpending⟩

theorem productUUID_bindInput (m : MatchOutcome) (hostID : Int) :
    (bindInput call m hostID).fingerprint.productUUID = call.fingerprint.productUUID := rfl

theorem follows_hostReady {hostCreated : Bool}
    (hreq : k.req = some req) (huuid : k.uuid = some call.fingerprint.productUUID)
    (hclaim : m.claimUUIDs = [] ∨ m.claimUUIDs = call.fingerprint.claimUUIDs) (htoken : k.token = some token)
    (hpending : k.pending = Phase.pendingOf hostID hostCreated)
    (hmay : m.agentID ≠ "" → k.look = some (m.agentID, m.hostID) ∧ k.offline ∧ k.MayClaim token.parts m.hostID) :
    regProtocol.Follows Settled k (hostReady cfg call req m token hostID hostCreated) := by
  have hbind : k.Allows (.bind req token (bindInput call m hostID) call.freshID) := by
    refine ⟨hreq, htoken, ?_, ?_, ?_, ?_⟩
    · rw [hpending, Phase.pendingOf]
      split
      · exact .inr rfl
      · exact .inl rfl
    · rw [huuid, productUUID_bindInput]
    · exact hclaim
    · intro hne
      exact ⟨m.hostID, hmay hne⟩
  refine ⟨hbind, ?_⟩
  intro r
  cases r with
  | ok row => exact follows_bindDone (k := { k with pending := none }) rfl
  | error e => exact follows_undoRegistration hreq htoken hpending

theorem follows_registerHost {existingHostID : Int} (hk : Knows k call req m)
    (htoken : k.token = some token) (hexisting : m.agentID ≠ "" → existingHostID = m.hostID ∨ m.hostID = 0)
    (hoffline : m.agentID ≠ "" → k.offline) :
    regProtocol.Follows Settled k (registerHost cfg call req m token existingHostID) := by
  have hhost := (follows_registerAgentHost cfg (hostSpec call token existingHostID) hk.pending).attempt
  refine hhost.bind ?_ ?_
  · rintro k' r ⟨r', hr, scope, pending, rfl, hanswer⟩
    cases hr
    match r with
    | .error e =>
      -- nothing was created
      exact follows_undoRegistration hk.req htoken (hanswer : pending = Phase.pendingOf 0 false)
    | .ok (hostID, hostCreated) =>
      obtain ⟨hpending, hmay⟩ := hanswer
      refine follows_hostReady hk.req hk.uuid hk.claim htoken hpending ?_
      intro hne
      refine ⟨hk.look hne, hoffline hne, ?_⟩
      intro hpos
      rcases hexisting hne with heq | hzero
      · subst heq
        exact hmay hpos
      · omega
  · rintro k' e ⟨r', hr, _⟩
    cases hr

theorem follows_claimed (hk : Knows k call req m)
    (htoken : k.token = some token) (hoffline : m.agentID ≠ "" → k.offline) :
    regProtocol.Follows Settled k (claimed cfg call req m token) := by
  unfold claimed
  split
  · exact follows_registerHost hk htoken (fun _ => .inl rfl) hoffline
  · split_ifs with hzero htarget
    · exact follows_registerHost hk htoken (fun _ => .inr hzero) hoffline
    · exact follows_undoRegistration hk.req htoken (hk.pending : k.pending = Phase.pendingOf 0 false)
    · exact follows_registerHost hk htoken (fun _ => .inl rfl) hoffline

theorem follows_claimUse (hk : Knows k call req m) (htoken : k.token = none)
    (hoffline : m.agentID ≠ "" → k.offline) :
    regProtocol.Follows Settled k (claimUse cfg call req tokenHash m) := by
  refine ⟨⟨hk.req, htoken⟩, ?_⟩
  intro r
  cases r with
  | ok token =>
    exact follows_claimed (k := { k with token := some token }) (hk.of_eq rfl rfl rfl hk.pending) rfl hoffline
  | error e => exact hk.pending

theorem follows_matched (hk : Knows k call req m) (htoken : k.token = none) :
    regProtocol.Follows Settled k (matched cfg call req tokenHash m) := by
  unfold matched
  split
  · rename_i hempty
    exact follows_claimUse hk htoken fun hne => absurd hempty hne
  · rename_i hne
    refine ⟨⟨hk.req, m.hostID, hk.look hne⟩, ?_⟩
    intro r
    cases r with
    | error e => exact hk.pending
    | ok prev =>
      show regProtocol.Follows Settled { k with offline := prev.status = .offline } (liveAgent cfg call req tokenHash m prev)
      unfold liveAgent
      split
      · exact hk.pending
      · rename_i hstatus
        refine follows_claimUse (hk.of_eq rfl rfl rfl hk.pending) htoken ?_
        intro _
        cases hs : prev.status with
        | online => exact absurd hs hstatus
        | offline => rfl

theorem follows_lookUp (hreq : k.req = some req) (huuid : k.uuid = some call.fingerprint.productUUID)
    (hlook : k.look = none) (hoffline : k.offline = false) (hscope : k.scope = none) (htoken : k.token = none)
    (hpending : k.pending = none) : regProtocol.Follows Settled k (lookUp cfg call req tokenHash) := by
  have hclaim := fun candidates => matchMachine_claimUUIDs call.fingerprint candidates (call.serverNow - agentStaleAfter)
  by_cases hempty : call.fingerprint.productUUID = ""
  · rw [lookUp, if_pos hempty]
    refine follows_matched ⟨hreq, huuid, hclaim [], ?_, hpending⟩ htoken
    intro hne
    rw [matchOf, matchMachine, if_pos hempty] at hne
    exact absurd rfl hne
  · rw [lookUp, if_neg hempty]
    have hfind : k.Allows (.findByProductUUID req call.fingerprint.claimUUIDs) := by
      refine ⟨hreq, hlook, hoffline, hscope, call.fingerprint.productUUID, huuid, ?_, ?_⟩
      · rw [Fingerprint.claimUUIDs]
      · exact (productUUID_newFingerprint _ _ _ hempty).1
    refine ⟨hfind, ?_⟩
    intro r
    cases r with
    | error e => exact hpending
    | ok candidates =>
      refine follows_matched (k := { k with look := k.uuid.bind (Phase.lookOf · candidates) })
        ⟨hreq, huuid, hclaim candidates, ?_, hpending⟩ htoken
      intro hmatch
      rw [huuid]
      exact lookOf_of_matchMachine hmatch

theorem follows_handleRegister (cfg : RegConfig) (call : RegisterCall) :
    regProtocol.Follows Settled (Phase.idle (some call.fingerprint.productUUID)) (handleRegister cfg call) := by
  unfold handleRegister
  split
  · exact rfl
  · unfold decoded
    split_ifs
    · exact rfl
    · exact rfl
    · refine ⟨⟨rfl, rfl, rfl, rfl⟩, ?_⟩
      intro r
      cases r with
      | error e => exact rfl
      | ok req =>
        refine ⟨trivial, ?_⟩
        intro r
        cases r with
        | error e => exact rfl
        | ok t =>
          exact follows_lookUp (k := { Phase.idle (some call.fingerprint.productUUID) with req := some req }) rfl rfl rfl rfl rfl
            rfl rfl

end Programs

theorem follows_openChannel (c : ConnectCall) (row : HostAgentRow) {k : Phase} (hk : k.pending = none) :
    regProtocol.Follows Settled k (openChannel c row) := by
  refine ⟨trivial, ?_⟩
  intro r
  cases r with
  | error e => exact hk
  | ok contended =>
    cases contended with
    | true => exact hk
    | false =>
      refine ⟨trivial, ?_⟩
      intro r
      cases r with
      | error e => exact hk
      | ok u => exact hk

theorem follows_connect (c : ConnectCall) {k : Phase} (hk : k.pending = none) :
    regProtocol.Follows Settled k (connect c) := by
  refine ⟨trivial, ?_⟩
  intro r
  cases r with
  | error e => exact hk
  | ok row =>
    show regProtocol.Follows Settled k (if row.tokenVersion ≠ c.tokenVersion then _ else verify c row)
    split
    · exact hk
    · unfold verify
      dsimp only
      split
      · refine ⟨trivial, ?_⟩
        intro r
        cases r with
        | error e => exact hk
        | ok u => exact hk
      all_goals
        first
        | exact follows_openChannel c row hk
        | refine ⟨trivial, ?_⟩
          intro r
          cases r with
          | error e => exact hk
          | ok u => exact follows_openChannel c row hk

theorem follows_heartbeat (hostID : Int) (instanceID version : String) (clockSkewMs : Int) {k : Phase}
    (hk : k.pending = none) : regProtocol.Follows Settled k (heartbeat hostID instanceID version clockSkewMs) := by
  refine ⟨trivial, ?_⟩
  intro r
  cases r with
  | error e => exact hk
  | ok claimed =>
    cases claimed with
    | true => exact hk
    | false =>
      refine ⟨trivial, ?_⟩
      intro r
      cases r with
      | error e => exact hk
      | ok u => exact hk

def startPhase : GatewayCall → Phase
  | .register call => Phase.idle (some call.fingerprint.productUUID)
  | _ => Phase.idle none

theorem follows_gatewayProg (cfg : RegConfig) (c : GatewayCall) :
    regProtocol.Follows Settled (startPhase c) (gatewayProg cfg c) := by
  cases c with
  | register call => exact follows_handleRegister cfg call
  | connect call => exact follows_connect call rfl
  | heartbeat hostID instanceID version clockSkewMs => exact follows_heartbeat hostID instanceID version clockSkewMs rfl
  | closed hostID instanceID => exact ⟨trivial, fun r => by cases r <;> rfl⟩
  | markStaleOffline => exact ⟨trivial, fun r => by cases r <;> rfl⟩
  | tick d => exact ⟨trivial, fun r => by cases r <;> rfl⟩

end Vraxel.AgentGw
