import Vraxel.AgentGw.RegisterProtocol
import Vraxel.AgentGw.RegisterSteps
/-
  Which agents a registration may take over. `handleRegister` refuses an agent whose channel is live,
  and the registrar a host outside the scope of the join token. Both look before `Bind`, and `Bind`
  may rebind a row that nobody has looked at.
-/

namespace Vraxel.AgentGw

open Relational Api Db Txn Interleave Protocol Transition

/-- The row was offline, and on a host that the token may claim. -/
def Rebind.Guarded (b : Rebind) : Prop :=
  b.row.status = .offline ∧ ∃ h, b.host = some h ∧ rebindAuthorised b.token.parts h.parts

/-- Before a `Bind`: the re-check under the lock finds nothing, and the row that the request
has looked up was not moved, nor its channel accepted since the status was read. -/
def Undisturbed : RegStmt → RegState → Prop
  | .bind req _ input _, s =>
    if input.agentID = "" then s.claimant input = ""
    else ∀ l ∈ s.looks req, l.moved = false ∧ l.accepted = false
  | _, _ => True

def undisturbed : RegStmt → RegState → Bool
  | .bind req _ input _, s =>
    if input.agentID = "" then s.claimant input == "" else (s.looks req).all fun l => !l.moved && !l.accepted
  | _, _ => true

variable (q : RegStmt)

theorem undisturbed_iff (s : RegState) : undisturbed q s = true ↔ Undisturbed q s := by
  cases q with
  | bind req token input freshID =>
    simp only [undisturbed, Undisturbed]
    by_cases hid : input.agentID = ""
    · simp [hid]
    · cases s.looks req <;> simp [hid]
  | _ => exact iff_of_true rfl trivial

instance (q : RegStmt) (s : RegState) : Decidable (Undisturbed q s) := decidable_of_iff _ (undisturbed_iff q s)

structure Watches (s : RegState) (k : Phase) (n : Nat) (agentID : String) (hostID : Int) (l : Look) : Prop where
  look : s.looks n = some l
  agent : l.agentID = agentID
  host : l.hostID = hostID
  known : hostID < s.db.hosts.next
  placed : l.moved = false → ∀ r ∈ s.agents, r.agentID = agentID → r.hostID = hostID
  offline : k.offline → l.accepted = false → ∀ r ∈ s.agents, r.agentID = agentID → r.status = .offline
  scope : ∀ cur, k.scope = some (hostID, cur) → ∀ h ∈ s.db.hosts, h.id = hostID → cur = some h.parts

def Watched (s : RegState) (k : Phase) : Prop :=
  ∀ n, k.req = some n → n < s.requests ∧ ∀ agentID hostID, k.look = some (agentID, hostID) →
    ∃ l, Watches s k n agentID hostID l

variable {s : RegState} {k : Phase}

theorem Watched.imp {s' : RegState} {k' : Phase} (hk : Watched s k) (hreq : k'.req = k.req) (hlook : k'.look = k.look)
    (hle : s.requests ≤ s'.requests) (h : ∀ n agentID hostID l, k.req = some n → k.look = some (agentID, hostID) →
      Watches s k n agentID hostID l → ∃ l', Watches s' k' n agentID hostID l') : Watched s' k' := by
  intro n hn
  rw [hreq] at hn
  obtain ⟨hlt, hwatch⟩ := hk n hn
  refine ⟨hlt.trans_le hle, fun agentID hostID hl => ?_⟩
  rw [hlook] at hl
  obtain ⟨l, hwatches⟩ := hwatch agentID hostID hl
  exact h n agentID hostID l hn hl hwatches

theorem Watched.congr {k' : Phase} (hk : Watched s k) (hreq : k'.req = k.req) (hlook : k'.look = k.look)
    (hoffline : k'.offline = k.offline) (hscope : k'.scope = k.scope) : Watched s k' :=
  hk.imp hreq hlook le_rfl fun _ _ _ l _ _ hl =>
    ⟨l, hl.look, hl.agent, hl.host, hl.known, hl.placed, hoffline ▸ hl.offline, hscope ▸ hl.scope⟩

/-! What statements leave alone. -/

theorem hosts_exec (s : RegState) :
    s.db.hosts.next ≤ (q.sem.exec s).db.hosts.next ∧
      ∀ h' ∈ (q.sem.exec s).db.hosts, h'.id < s.db.hosts.next → ∃ h ∈ s.db.hosts, h'.id = h.id ∧ h'.parts = h.parts := by
  rcases exec_cases q s with hplaced | ⟨p, _, hexec⟩ | ⟨hostID, _, _, hexec⟩ | ⟨_, _, _, _, _, _, _, hexec⟩ |
    ⟨_, _, _, _, _, _, _, hexec⟩
  · exact ⟨hplaced.next.ge, fun h' hh' _ => hplaced.mem_hosts hh'⟩
  · rw [hexec]
    refine ⟨Int.le_add_one (le_refl _), fun h' hh' hlt => ?_⟩
    rcases Table.mem_insert.1 hh' with hh' | rfl
    · exact ⟨h', hh', rfl, rfl⟩
    · exact absurd (Table.key_inserted s.db.hosts p.row) (ne_of_lt hlt)
  · rw [hexec]
    exact ⟨le_refl _, fun h' hh' _ => ⟨h', (Table.mem_delete.1 hh').1, rfl, rfl⟩⟩
  all_goals
    rw [hexec]
    exact ⟨le_refl _, fun h' hh' _ => ⟨h', hh', rfl, rfl⟩⟩

def RegStmt.watches : RegStmt → Bool
  | .newRequest | .findByProductUUID _ _ | .getByAgentID _ _ | .markOnline _ _ _ _ | .bind _ _ _ _ => true
  | _ => false

structure Steady (s s' : RegState) : Prop where
  requests : s'.requests = s.requests
  looks : s'.looks = s.looks
  rebinds : s'.rebinds = s.rebinds
  agents : ∀ r' ∈ s'.agents, ∃ r ∈ s.agents,
    r'.agentID = r.agentID ∧ r'.hostID = r.hostID ∧ (r.status = .offline → r'.status = .offline)

theorem Steady.of_eq {s' : RegState} (hrequests : s'.requests = s.requests) (hlooks : s'.looks = s.looks)
    (hrebinds : s'.rebinds = s.rebinds) (hagents : s'.agents = s.agents) : Steady s s' :=
  ⟨hrequests, hlooks, hrebinds, fun r hr => ⟨r, hagents ▸ hr, rfl, rfl, id⟩⟩

theorem Steady.of_updateAgents (s : RegState) (p : HostAgentRow → Bool) {f : HostAgentRow → HostAgentRow}
    (hf : ∀ r, (f r).agentID = r.agentID ∧ (f r).hostID = r.hostID ∧ (r.status = .offline → (f r).status = .offline)) :
    Steady s (s.updateAgents p f) := by
  refine ⟨rfl, rfl, rfl, ?_⟩
  intro r' hr'
  obtain ⟨r, hr, rfl⟩ := Table.mem_update.1 hr'
  refine ⟨r, hr, ?_⟩
  split
  · exact hf r
  · exact ⟨rfl, rfl, id⟩

theorem steady_exec (hq : q.watches = false) (s : RegState) : Steady s (q.sem.exec s) := by
  cases q with
  | newRequest | findByProductUUID | getByAgentID | markOnline | bind => cases hq
  | createAgentHost p =>
    rcases createAgentHost_cases s p with ⟨e, _, hexec⟩ | ⟨_, hexec⟩
    all_goals
      rw [hexec]
      exact .of_eq rfl rfl rfl rfl
  | deleteAgentHost hostID =>
    rcases deleteAgentHost_cases s hostID with ⟨_, hexec⟩ | ⟨_, hexec⟩
    all_goals
      rw [hexec]
      exact .of_eq rfl rfl rfl rfl
  | consume req tokenHash =>
    rcases consume_cases s req tokenHash with ⟨e, _, hexec⟩ | ⟨t, _, _, _, hexec⟩
    all_goals
      rw [hexec]
      exact .of_eq rfl rfl rfl rfl
  | updateFacts hostID facts =>
    exact .of_eq rfl rfl rfl rfl
  | bindTarget tokenID hostID =>
    exact .of_eq rfl rfl rfl rfl
  | peek | getScope | refund | authAgent | tick => exact .of_eq rfl rfl rfl rfl
  | refreshFingerprint | recordForeignMachine | checkIdentity | touch =>
    exact .of_updateAgents s _ fun _ => ⟨rfl, rfl, id⟩
  | markOffline | markStaleOffline => exact .of_updateAgents s _ fun _ => ⟨rfl, rfl, fun _ => rfl⟩

/-! What a request knows, over a step. -/

section Watch

variable {s : RegState} {k : Phase} {n : Nat} {agentID : String} {hostID : Int} {l : Look}
  (h : Watches s k n agentID hostID l)

include h

theorem Watches.scope_exec (q : RegStmt) :
    hostID < (q.sem.exec s).db.hosts.next ∧
      ∀ cur, k.scope = some (hostID, cur) → ∀ w ∈ (q.sem.exec s).db.hosts, w.id = hostID → cur = some w.parts := by
  obtain ⟨hnext, hhosts⟩ := hosts_exec q s
  refine ⟨lt_of_lt_of_le h.known hnext, ?_⟩
  intro cur hcur w hw hid
  obtain ⟨u, hu, hid', hparts⟩ := hhosts w hw (hid ▸ h.known)
  rw [hparts]
  exact h.scope cur hcur u hu (hid'.symm.trans hid)

theorem Watches.of_steady (q : RegStmt) (hsteady : Steady s (q.sem.exec s)) :
    Watches (q.sem.exec s) k n agentID hostID l := by
  obtain ⟨hknown, hscope⟩ := h.scope_exec q
  refine ⟨by rw [hsteady.looks]; exact h.look, h.agent, h.host, hknown, ?_, ?_, hscope⟩
  · intro hmoved r hr hid
    obtain ⟨u, hu, hid', hhost, _⟩ := hsteady.agents r hr
    rw [hhost]
    exact h.placed hmoved u hu (hid'.symm.trans hid)
  · intro hoffline haccepted r hr hid
    obtain ⟨u, hu, hid', _, hstatus⟩ := hsteady.agents r hr
    exact hstatus (h.offline hoffline haccepted u hu (hid'.symm.trans hid))

theorem Watches.of_looks {looks : Nat → Option Look} (hlooks : looks n = some l) :
    Watches { s with looks := looks } k n agentID hostID l :=
  ⟨hlooks, h.agent, h.host, h.known, h.placed, h.offline, h.scope⟩

theorem Watches.of_markOnline (onlineHost : Int) (instanceID version : String)
    (clockSkewMs : Int) :
    ∃ l', Watches ((RegStmt.markOnline onlineHost instanceID version clockSkewMs).sem.exec s) k n agentID hostID l' := by
  have hlooks : ((RegStmt.markOnline onlineHost instanceID version clockSkewMs).sem.exec s).looks n =
      (s.looks n).map fun l => if s.agents.exists? (fun r => r.hostID = onlineHost ∧ r.agentID = l.agentID) then
        { l with accepted := true } else l := rfl
  have hrow : ∀ r' ∈ ((RegStmt.markOnline onlineHost instanceID version clockSkewMs).sem.exec s).agents,
      ∃ r ∈ s.agents, r'.agentID = r.agentID ∧ r'.hostID = r.hostID ∧ (r.hostID ≠ onlineHost → r'.status = r.status) := by
    intro r' hr'
    obtain ⟨r, hr, rfl⟩ := Table.mem_update.1 hr'
    refine ⟨r, hr, ?_⟩
    by_cases honline : r.hostID = onlineHost
    · rw [if_pos (show RegState.onHost onlineHost r from decide_eq_true honline)]
      exact ⟨rfl, rfl, fun hne => absurd honline hne⟩
    · rw [if_neg (by simpa [RegState.onHost] using honline)]
      exact ⟨rfl, rfl, fun _ => rfl⟩
  have hplaced : l.moved = false → ∀ r ∈ ((RegStmt.markOnline onlineHost instanceID version clockSkewMs).sem.exec s).agents,
      r.agentID = agentID → r.hostID = hostID := by
    intro hmoved r hr hid
    obtain ⟨u, hu, hid', hhost, _⟩ := hrow r hr
    rw [hhost]
    exact h.placed hmoved u hu (hid'.symm.trans hid)
  rw [h.look] at hlooks
  by_cases hseen : s.agents.exists? fun r => r.hostID = onlineHost ∧ r.agentID = l.agentID
  · refine ⟨{ l with accepted := true }, ?_, h.agent, h.host, h.known, hplaced, ?_, h.scope⟩
    · rw [hlooks, Option.map_some, if_pos hseen]
    · intro _ haccepted
      cases haccepted
  · refine ⟨l, ?_, h.agent, h.host, h.known, hplaced, ?_, h.scope⟩
    · rw [hlooks, Option.map_some, if_neg hseen]
    · intro hoffline haccepted r hr hid
      obtain ⟨u, hu, hid', _, hstatus⟩ := hrow r hr
      have hother : u.hostID ≠ onlineHost := by
        intro heq
        exact hseen (Table.exists?_iff.2 ⟨u, hu, decide_eq_true ⟨heq, by rw [← hid', hid, h.agent]⟩⟩)
      rw [hstatus hother]
      exact h.offline hoffline haccepted u hu (hid'.symm.trans hid)

/-- An agent is settled on a host: it is not the agent of the watch, or it is on the host that
the watch knows, or the watch has seen it move. -/
theorem Watches.of_settle (s' : RegState) {settled : String} {host : Int}
    (hlooks : s'.looks = s.settle settled host) (hdb : s'.db = s.db)
    (hrow : ∀ r' ∈ s'.agents, (r'.agentID = settled ∧ r'.hostID = host ∨ r'.agentID ≠ settled) ∧
      ((∃ r ∈ s.agents, r'.agentID = r.agentID ∧ r'.status = r.status ∧ (r'.agentID ≠ settled → r'.hostID = r.hostID)) ∨
        r'.agentID = settled ∧ r'.status = .offline)) :
    ∃ l', Watches s' k n agentID hostID l' := by
  have hoffline : ∀ l' : Look, l'.accepted = l.accepted → k.offline → l'.accepted = false → ∀ r ∈ s'.agents,
      r.agentID = agentID → r.status = .offline := by
    intro l' hsame hoff haccepted r hr hid
    rcases (hrow r hr).2 with ⟨u, hu, hid', hstatus, _⟩ | ⟨_, hstatus⟩
    · rw [hstatus]
      exact h.offline hoff (hsame ▸ haccepted) u hu (hid'.symm.trans hid)
    · exact hstatus
  have hlook : s'.looks n = some (if l.agentID = settled ∧ l.hostID ≠ host then { l with moved := true } else l) := by
    rw [hlooks]
    show (s.looks n).map _ = _
    rw [h.look, Option.map_some]
  by_cases hmoved : l.agentID = settled ∧ l.hostID ≠ host
  · rw [if_pos hmoved] at hlook
    refine ⟨_, hlook, h.agent, h.host, hdb ▸ h.known, ?_, hoffline _ rfl, hdb ▸ h.scope⟩
    intro hfalse
    cases hfalse
  · rw [if_neg hmoved] at hlook
    refine ⟨_, hlook, h.agent, h.host, hdb ▸ h.known, ?_, hoffline _ rfl, hdb ▸ h.scope⟩
    intro hunmoved r hr hid
    obtain ⟨hplace, horigin⟩ := hrow r hr
    by_cases hsettled : r.agentID = settled
    · -- the agent of the watch was settled where it was
      have hhere : r.hostID = host := by
        rcases hplace with ⟨_, hhere⟩ | hne
        · exact hhere
        · exact absurd hsettled hne
      have hsame : l.hostID = host := by
        by_contra hne
        exact hmoved ⟨by rw [h.agent, ← hid, hsettled], hne⟩
      rw [hhere, ← hsame, h.host]
    · rcases horigin with ⟨u, hu, hid', _, hhost⟩ | ⟨heq, _⟩
      · rw [hhost hsettled]
        exact h.placed hunmoved u hu (hid'.symm.trans hid)
      · exact absurd heq hsettled

theorem Watches.of_rebound (token : JoinTokenRow) (input : BindInput) (claimant : String) :
    ∃ l', Watches (s.rebound token input claimant) k n agentID hostID l' := by
  refine h.of_settle (s.rebound token input claimant) rfl rfl ?_
  intro r hr
  obtain ⟨u, hu, _, ⟨hid, rfl⟩ | ⟨hid, rfl⟩⟩ := Constrained.mem_rebound hr
  · exact ⟨.inl ⟨hid, rfl⟩, .inl ⟨u, hu, rfl, rfl, fun hne => absurd hid hne⟩⟩
  · exact ⟨.inr hid, .inl ⟨r, hu, rfl, rfl, fun _ => rfl⟩⟩

theorem Watches.of_inserted {input : BindInput} {freshID : String}
    (hchecks : s.insertChecks freshID input.hostID = .ok ()) :
    ∃ l', Watches (s.inserted input freshID) k n agentID hostID l' := by
  refine h.of_settle (s.inserted input freshID) rfl rfl ?_
  intro r hr
  rcases Table.mem_insert.1 hr with hr | rfl
  · have hne := Constrained.ne_of_insertChecks hchecks r hr
    exact ⟨.inr hne, .inl ⟨r, (Table.mem_delete.1 hr).1, rfl, rfl, fun _ => rfl⟩⟩
  · exact ⟨.inl ⟨rfl, rfl⟩, .inr ⟨rfl, rfl⟩⟩

end Watch

theorem watched_exec (s : RegState) (k : Phase) (hk : Watched s k)
    (hfind : ∀ req productUUIDs, q = .findByProductUUID req productUUIDs → k.req ≠ some req)
    (hget : ∀ req agentID, q = .getByAgentID req agentID → k.req ≠ some req) : Watched (q.sem.exec s) k := by
  by_cases hwatches : q.watches = false
  · have hsteady := steady_exec q hwatches s
    exact hk.imp rfl rfl hsteady.requests.ge fun _ _ _ l _ _ hl => ⟨l, hl.of_steady q hsteady⟩
  cases q with
  | newRequest =>
    exact hk.imp rfl rfl (Nat.le_succ _) fun _ _ _ l _ _ hl =>
      ⟨l, hl.look, hl.agent, hl.host, hl.known, hl.placed, hl.offline, hl.scope⟩
  | findByProductUUID req productUUIDs =>
    refine hk.imp rfl rfl le_rfl fun n _ _ l hn _ hl => ⟨l, hl.of_looks ?_⟩
    have hne : n ≠ req := fun heq => hfind req productUUIDs rfl (heq ▸ hn)
    exact (Function.update_of_ne hne _ _).trans hl.look
  | getByAgentID req agentID =>
    rcases getByAgentID_cases s req agentID with ⟨e, _, hexec⟩ | ⟨row, _, _, _, hexec⟩
    · rw [hexec]
      exact hk
    · rw [hexec]
      refine hk.imp rfl rfl le_rfl fun n _ _ l hn _ hl => ⟨l, hl.of_looks ?_⟩
      have hne : n ≠ req := fun heq => hget req agentID rfl (heq ▸ hn)
      exact (Function.update_of_ne hne _ _).trans hl.look
  | markOnline hostID instanceID version clockSkewMs =>
    exact hk.imp rfl rfl le_rfl fun _ _ _ _ _ _ hl => hl.of_markOnline hostID instanceID version clockSkewMs
  | bind req token input freshID =>
    rcases bind_cases s req token input freshID with ⟨e, _, hexec⟩ | ⟨row, _, _, _, hexec⟩ | ⟨row, _, _, hchecks, hexec⟩
    · rw [hexec]
      exact hk
    · rw [hexec]
      exact hk.imp rfl rfl le_rfl fun _ _ _ _ _ _ hl => hl.of_rebound token input (s.claimant input)
    · rw [hexec]
      exact hk.imp rfl rfl le_rfl fun _ _ _ _ _ _ hl => hl.of_inserted hchecks
  | _ => exact absurd rfl hwatches

/-! What a request comes to know. -/

theorem byProductUUID_of_lookOf {uuid : String} (huuid : uuidShape uuid) {agentID : String} {hostID : Int}
    (h : Phase.lookOf uuid (s.byProductUUID [uuid, swapUUIDByteOrder uuid]) = some (agentID, hostID)) :
    ∃ r, s.byProductUUID [uuid, swapUUIDByteOrder uuid] = [r] ∧ r.agentID = agentID ∧ r.hostID = hostID := by
  have hsame : (s.byProductUUID [uuid, swapUUIDByteOrder uuid]).filter (fun r => sameProductUUID uuid r.productUUID) =
      s.byProductUUID [uuid, swapUUIDByteOrder uuid] := by
    apply List.filter_eq_self.2
    intro r hr
    have hmem := List.contains_iff_mem.1 (of_decide_eq_true (Table.mem_select.1 hr).2).2
    have hshape : uuidShape r.productUUID := by
      simp only [List.mem_cons, List.not_mem_nil, or_false] at hmem
      rcases hmem with h | h
      · rw [h]
        exact huuid
      · rw [h]
        exact (swapUUIDByteOrder_swap huuid).1
    exact (sameProductUUID_iff huuid hshape).2 hmem
  rw [Phase.lookOf, hsame] at h
  split at h
  · rename_i r hfound
    cases h
    exact ⟨r, hfound, rfl, rfl⟩
  · cases h

theorem watched_find {req : Nat} {uuid : String} (hs : Constrained s) (hk : Watched s k)
    (hq : k.Allows (.findByProductUUID req [uuid, swapUUIDByteOrder uuid])) (huuid : uuidShape uuid) :
    Watched ((RegStmt.findByProductUUID req [uuid, swapUUIDByteOrder uuid]).sem.exec s)
      { k with look := Phase.lookOf uuid (s.byProductUUID [uuid, swapUUIDByteOrder uuid]) } := by
  obtain ⟨hreq, _, hoffline, hscope, _⟩ := hq
  intro n hn
  have hnreq : req = n := Option.some.inj (hreq.symm.trans hn)
  subst hnreq
  refine ⟨(hk req hn).1, ?_⟩
  intro agentID hostID hlook
  obtain ⟨r, hfound, rfl, rfl⟩ := byProductUUID_of_lookOf huuid hlook
  have hr : r ∈ s.agents := by
    have hmem : r ∈ s.byProductUUID [uuid, swapUUIDByteOrder uuid] := by simp [hfound]
    exact (Table.mem_select.1 hmem).1
  obtain ⟨h, hh, hid⟩ := hs.host r hr
  refine ⟨⟨r.agentID, r.hostID, false, false⟩, ?_, rfl, rfl, ?_, ?_, ?_, ?_⟩
  · show Function.update s.looks req _ req = _
    rw [Function.update_self, hfound]
  · rw [← hid]
    exact (s.db.hosts.range h hh).2
  · intro _ r' hr' hid'
    rw [hs.agentID r' hr' r hr hid']
  · intro htrue
    rw [hoffline] at htrue
    cases htrue
  · intro cur hcur
    rw [hscope] at hcur
    cases hcur

theorem watched_getByAgentID {req : Nat} {row : HostAgentRow} {hostID : Int} (hs : Constrained s)
    (hk : Watched s k) (hreq : k.req = some req) (hlook : k.look = some (row.agentID, hostID)) (hrow : row ∈ s.agents) :
    Watched (s.reread req) { k with offline := row.status = .offline } := by
  refine hk.imp rfl rfl le_rfl fun n agentID hostID' l hn hlook' hl => ?_
  obtain rfl : req = n := Option.some.inj (hreq.symm.trans hn)
  refine ⟨{ l with accepted := false }, ?_, hl.agent, hl.host, hl.known, hl.placed, ?_, hl.scope⟩
  · show Function.update s.looks req _ req = _
    rw [Function.update_self, hl.look, Option.map_some]
  · intro hoffline _ r hr hid
    have hagent : row.agentID = agentID := congrArg Prod.fst (Option.some.inj (hlook.symm.trans hlook'))
    rw [hs.agentID r hr row hrow (hid.trans hagent.symm)]
    exact of_decide_eq_true hoffline

theorem watched_getScope (hk : Watched s k) (hostID : Int) :
    Watched s { k with scope := some (hostID, ((RegStmt.getScope hostID).sem.result s).toOption) } := by
  refine hk.imp rfl rfl le_rfl fun n agentID hostID' l _ _ hl =>
    ⟨l, hl.look, hl.agent, hl.host, hl.known, hl.placed, hl.offline, fun cur hcur h hh hid => ?_⟩
  obtain ⟨rfl, rfl⟩ := Prod.mk.inj (Option.some.inj hcur)
  have hget : s.db.hosts.get? hostID = some h := Table.get?_eq_some_iff.2 ⟨hh, hid⟩
  show (RegState.orError _ ((s.db.hosts.get? hostID).map HostRow.parts)).toOption = _
  rw [hget]
  rfl

theorem watched_next (s : RegState) (k : Phase) (hs : Constrained s) (hk : Watched s k) (hq : k.Allows q) :
    Watched (q.sem.exec s) (Phase.next q (q.sem.result s) k) := by
  have hkeeps := watched_exec q s k hk
  cases q with
  | newRequest =>
    obtain ⟨_, _, hlook, _⟩ := hq
    intro n hn
    cases hn
    refine ⟨Nat.lt_succ_self _, ?_⟩
    intro agentID hostID h
    cases hlook.symm.trans h
  | findByProductUUID req productUUIDs =>
    obtain ⟨_, _, _, _, uuid, huuid, rfl, hshape⟩ := id hq
    have hlook : k.uuid.bind (Phase.lookOf · (s.byProductUUID [uuid, swapUUIDByteOrder uuid])) =
        Phase.lookOf uuid (s.byProductUUID [uuid, swapUUIDByteOrder uuid]) := by
      rw [huuid]
      rfl
    show Watched _ { k with look := k.uuid.bind (Phase.lookOf · (s.byProductUUID [uuid, swapUUIDByteOrder uuid])) }
    rw [hlook]
    exact watched_find hs hk hq hshape
  | getByAgentID req agentID =>
    obtain ⟨hreq, hostID, hlook⟩ := hq
    rcases getByAgentID_cases s req agentID with ⟨e, hresult, hexec⟩ | ⟨row, hrow, rfl, hresult, hexec⟩
    · rw [hresult, hexec]
      exact hk
    · rw [hresult, hexec]
      exact watched_getByAgentID hs hk hreq hlook hrow
  | getScope hostID => exact watched_getScope hk hostID
  | _ =>
    have h := hkeeps (by intro _ _ h; cases h) (by intro _ _ h; cases h)
    generalize RegStmt.sem _ = m at h ⊢
    cases m.result s with
    | error e => exact h.congr rfl rfl rfl rfl
    | ok a => exact h.congr rfl rfl rfl rfl

theorem guarded_bind {req : Nat} {token : JoinTokenRow} {input : BindInput} {freshID : String}
    (hs : Constrained s) (hk : Watched s k) (hq : k.Allows (.bind req token input freshID))
    (hP : Undisturbed (.bind req token input freshID) s) (hclaimant : s.claimant input ≠ "") :
    ∀ r ∈ s.agents, r.agentID = s.claimant input → Rebind.Guarded ⟨r, s.db.hosts.get? r.hostID, token⟩ := by
  obtain ⟨hreq, _, _, _, _, hmatched⟩ := hq
  simp only [Undisturbed] at hP
  split_ifs at hP with hempty
  · exact absurd hP hclaimant
  have hself : s.claimant input = input.agentID := if_neg fun h => hempty h.1
  obtain ⟨hostID, hlook, hoffline, hclaim⟩ := hmatched hempty
  obtain ⟨l, hl⟩ := (hk req hreq).2 input.agentID hostID hlook
  obtain ⟨hmoved, haccepted⟩ := hP l hl.look
  intro r hr hid
  rw [hself] at hid
  have hplace : r.hostID = hostID := hl.placed hmoved r hr hid
  obtain ⟨h, hh, hhid⟩ := hs.host r hr
  have hpos : 0 < h.id := Table.key_pos hh
  rw [hhid, hplace] at hpos
  obtain ⟨cur, hscope, hauthorised⟩ := hclaim hpos
  refine ⟨hl.offline hoffline haccepted r hr hid, h, Table.get?_eq_some_iff.2 ⟨hh, hhid⟩, ?_⟩
  exact hauthorised h.parts (hl.scope cur hscope h hh (hhid.trans hplace))

theorem rebinds_exec {q : RegStmt} (hs : Constrained s) (hk : Watched s k) (hq : k.Allows q)
    (hP : Undisturbed q s) (hrebinds : ∀ b ∈ s.rebinds, b.Guarded) : ∀ b ∈ (q.sem.exec s).rebinds, b.Guarded := by
  rcases exec_cases q s with hplaced | ⟨p, _, hexec⟩ | ⟨hostID, _, _, hexec⟩ |
    ⟨req, token, input, freshID, rfl, hclaimant, _, hexec⟩ | ⟨_, _, _, _, _, _, _, hexec⟩
  · rw [hplaced.rebinds]
    exact hrebinds
  · rw [hexec]
    exact hrebinds
  · rw [hexec]
    exact hrebinds
  · rw [hexec]
    intro b hb
    rcases List.mem_append.1 hb with hb | hb
    · obtain ⟨r, hr, rfl⟩ := List.mem_map.1 hb
      obtain ⟨hr, hid⟩ := Table.mem_select.1 hr
      exact guarded_bind hs hk hq hP hclaimant r hr (of_decide_eq_true hid)
    · exact hrebinds b hb
  · rw [hexec]
    exact hrebinds

theorem req_next {q : RegStmt} {n : Nat} (h : (Phase.next q (q.sem.result s) k).req = some n) :
    k.req = some n ∨ ∀ k', Watched s k' → k'.req ≠ some n := by
  cases q with
  | newRequest =>
    cases h
    refine .inr ?_
    intro k' hk' hn
    exact Nat.lt_irrefl _ (hk' s.requests hn).1
  | _ =>
    refine .inl ?_
    revert h
    generalize RegStmt.sem _ = m
    cases m.result s with
    | error e => exact id
    | ok a => exact id

/-- Every row that is rebound is offline then and on a host that the token may claim. -/
theorem rebinds_guarded (cfg : RegConfig) (db : DB) (agents : Table HostAgentRow) (now : Int)
    (hconstrained : Constrained (.init db agents now)) (es : List (Event GatewayCall))
    (hes : Along (gatewaySystem cfg).step ((gatewaySystem cfg).Meets Undisturbed) (.init (.init db agents now)) es) :
    ∀ st ∈ states (gatewaySystem cfg).step (.init (.init db agents now)) es, ∀ b ∈ st.store.rebinds, b.Guarded := by
  have hall := regProtocol.forall_phases (gatewaySystem cfg) Phase.req (D := fun _ => True)
    (I := fun s => Constrained s ∧ ∀ b ∈ s.rebinds, b.Guarded) (R := Watched) (follows_gatewayProg cfg) ?_ ?_ ?_
    (s := .init db agents now) ⟨hconstrained, fun b hb => (List.not_mem_nil hb).elim⟩ (fun _ _ => trivial) hes
  · intro st hst
    exact (hall st hst).1.2
  · intro c s _ _
    have hidle : (startPhase c).req = none := by cases c <;> rfl
    refine ⟨?_, hidle⟩
    intro n hn
    cases hidle.symm.trans hn
  · rintro q s k ⟨hs, hrebinds⟩ hk hq _ hP
    refine ⟨⟨constrained_exec q s hs, rebinds_exec hs hk hq hP hrebinds⟩, watched_next q s k hs hk hq, ?_⟩
    intro n hn
    exact req_next hn
  · -- a request writes its own look only
    intro q s k k' _ _ hq hk' _ _ hother
    refine watched_exec q s k' hk' ?_ ?_
    · rintro req productUUIDs rfl
      exact hother req hq.1
    · rintro req agentID rfl
      exact hother req hq.1

def registersAgain : List (Event GatewayCall) :=
  .call (registration "any" "8c1e4d56-f7c1-65c9-b323-12015fb893e2" "image-1" "11111111-1111-1111-1111-111111111111") :: stepsOf 0 7 ++
    .call (registration "any" "8c1e4d56-f7c1-65c9-b323-12015fb893e2" "image-1" "22222222-2222-2222-2222-222222222222") :: stepsOf 1 9

theorem offline_agent_rebound :
    (let st := run (gatewaySystem plainConfig).step (.init (.init { DB.empty with joinTokens := joinTokens 5 } .empty 0)) registersAgain
     st.store.rebinds.length = 1 ∧ ∀ b ∈ st.store.rebinds, b.Guarded) :=
  ⟨by decide +kernel, rebinds_guarded plainConfig { DB.empty with joinTokens := joinTokens 5 } .empty 0
    ⟨fun r hr => (Table.not_mem_empty r hr).elim, fun r hr => (Table.not_mem_empty r hr).elim⟩ registersAgain
    (by decide +kernel) _ (run_mem_states (gatewaySystem plainConfig).step _ registersAgain)⟩

def connectsMeanwhile : List (Event GatewayCall) :=
  .call (registration "any" "8c1e4d56-f7c1-65c9-b323-12015fb893e2" "image-1" "11111111-1111-1111-1111-111111111111") :: stepsOf 0 7 ++
    .call (registration "any" "8c1e4d56-f7c1-65c9-b323-12015fb893e2" "image-1" "22222222-2222-2222-2222-222222222222") :: stepsOf 1 4 ++
      .call (.connect ⟨"11111111-1111-1111-1111-111111111111", 1, ⟨⟨"1.0.0", "boot-1", 0,
        ⟨"image-1", "8c1e4d56-f7c1-65c9-b323-12015fb893e2", [], 0⟩⟩, "instance-1", 0, 0⟩⟩) :: stepsOf 2 3 ++ stepsOf 1 5

/-- Both requests find no row. The one with the token of workspace 1 is the last to bind, and
finds the row of the other on a host of the platform. -/
def bindsLast : List (Event GatewayCall) :=
  [.call (registration "any" "8c1e4d56-f7c1-65c9-b323-12015fb893e2" "image-1" "11111111-1111-1111-1111-111111111111"),
    .call (registration "red" "8c1e4d56-f7c1-65c9-b323-12015fb893e2" "image-1" "22222222-2222-2222-2222-222222222222")]
    ++ stepsOf 0 5 ++ stepsOf 1 5 ++ stepsOf 0 2 ++ stepsOf 1 2

theorem live_and_foreign_agents_rebound :
    (∃ b ∈ (run (gatewaySystem plainConfig).step (.init (.init { DB.empty with joinTokens := joinTokens 5 } .empty 0))
        connectsMeanwhile).store.rebinds, b.row.status = .online) ∧
      ∃ b ∈ (run (gatewaySystem plainConfig).step (.init (.init { DB.empty with joinTokens := joinTokens 5 } .empty 0))
        bindsLast).store.rebinds, b.token.workspaceID = some 1 ∧ b.host.map (·.scope) = some .platform ∧
          b.host.any (fun h => rebindAuthorised b.token.parts h.parts) = false := by
  decide +kernel

end Vraxel.AgentGw
