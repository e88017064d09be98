import Vraxel.AgentGw.Register
/-
  What the statements of a registration do to the store: `Bind` and the statements on
  hosts by their outcomes, and all the others by what they leave in place.
-/

namespace Vraxel.AgentGw

open Relational Api Db Txn

/-! The statements that place agents and hosts. -/

theorem stmt_cases {S E α : Type} (f : S → Except E (α × S)) (s : S) :
    (∃ e, f s = .error e ∧ (stmt f : M S E α).result s = .error e ∧ (stmt f : M S E α).exec s = s) ∨
      ∃ a s', f s = .ok (a, s') ∧ (stmt f : M S E α).result s = .ok a ∧ (stmt f : M S E α).exec s = s' := by
  unfold M.exec M.result M.run stmt
  cases h : f s with
  | error e => exact .inl ⟨e, rfl, rfl, rfl⟩
  | ok x => exact .inr ⟨x.1, x.2, rfl, rfl, rfl⟩

section Outcomes

variable (s : RegState) (req : Nat) (token : JoinTokenRow) (input : BindInput) (freshID : String)

theorem bind_cases :
    (∃ e, (RegStmt.bind req token input freshID).sem.result s = .error e ∧
        (RegStmt.bind req token input freshID).sem.exec s = s) ∨
      (∃ row, (RegStmt.bind req token input freshID).sem.result s = .ok row ∧ s.claimant input ≠ "" ∧
        s.rebindChecks (s.claimant input) input.hostID = .ok () ∧
          (RegStmt.bind req token input freshID).sem.exec s = s.rebound token input (s.claimant input)) ∨
        ∃ row, (RegStmt.bind req token input freshID).sem.result s = .ok row ∧ s.claimant input = "" ∧
          s.insertChecks freshID input.hostID = .ok () ∧
            (RegStmt.bind req token input freshID).sem.exec s = s.inserted input freshID := by
  rcases stmt_cases (fun s : RegState => s.bind token input freshID) s with ⟨e, _, h⟩ | ⟨row, s', h, hresult, hexec⟩
  · exact .inl ⟨e, h⟩
  simp only [RegState.bind] at h
  split at h
  · rename_i hclaimant
    obtain ⟨⟨⟩, hchecks, h⟩ := except_bind_ok_iff.1 h
    obtain ⟨_, _, ⟨⟩⟩ := except_bind_ok_iff.1 h
    exact .inr (.inl ⟨row, hresult, hclaimant, hchecks, hexec⟩)
  · rename_i hclaimant
    obtain ⟨⟨⟩, hchecks, h⟩ := except_bind_ok_iff.1 h
    obtain ⟨_, _, ⟨⟩⟩ := except_bind_ok_iff.1 h
    exact .inr (.inr ⟨row, hresult, not_not.1 hclaimant, hchecks, hexec⟩)

theorem createAgentHost_cases (p : CreateAgentHostParams) :
    (∃ e, (RegStmt.createAgentHost p).sem.result s = .error e ∧ (RegStmt.createAgentHost p).sem.exec s = s) ∨
      ((RegStmt.createAgentHost p).sem.result s = .ok s.db.hosts.next ∧
        (RegStmt.createAgentHost p).sem.exec s =
          { s with db := { s.db with hosts := s.db.hosts.insert p.row }, created := s.db.hosts.next :: s.created }) := by
  simp only [M.result, M.exec, M.run, RegStmt.sem]
  cases hcheck : createAgentHostChecks p s.db with
  | error e =>
    have hrun : Db.createAgentHost p s.db = (.error e, s.db) := Slot.run_insert_of_error hcheck
    rw [hrun]
    exact .inl ⟨_, rfl, rfl⟩
  | ok u =>
    have hrun : Db.createAgentHost p s.db = (.ok (s.db.hosts.inserted p.row), { s.db with hosts := s.db.hosts.insert p.row }) :=
      Slot.insert_ok_iff.2 ⟨hcheck, rfl, rfl⟩
    rw [hrun]
    exact .inr ⟨rfl, rfl⟩

theorem deleteAgentHost_cases (hostID : Int) :
    (((s.db.hosts.get? hostID).isSome → s.bound hostID) ∧ (RegStmt.deleteAgentHost hostID).sem.exec s = s) ∨
      (s.bound hostID = false ∧ (RegStmt.deleteAgentHost hostID).sem.exec s =
        { s with db := { s.db with
          hosts := s.db.hosts.delete (·.id = hostID)
          joinTokens := s.db.joinTokens.delete (·.targetHostID = some hostID) } }) := by
  simp only [M.exec, M.run, RegStmt.sem, stmt, RegState.deleteAgentHost]
  by_cases h : (s.db.hosts.get? hostID).isSome ∧ !s.bound hostID
  · rw [if_pos h]
    exact .inr ⟨by simpa using h.2, rfl⟩
  · rw [if_neg h]
    exact .inl ⟨fun hsome => by simpa [hsome] using h, rfl⟩

theorem getByAgentID_cases (agentID : String) :
    (∃ e, (RegStmt.getByAgentID req agentID).sem.result s = .error e ∧ (RegStmt.getByAgentID req agentID).sem.exec s = s) ∨
      ∃ row ∈ s.agents, row.agentID = agentID ∧ (RegStmt.getByAgentID req agentID).sem.result s = .ok row ∧
        (RegStmt.getByAgentID req agentID).sem.exec s = s.reread req := by
  rcases stmt_cases (fun s : RegState => s.getByAgentID req agentID) s with ⟨e, _, h⟩ | ⟨row, s', h, hresult, hexec⟩
  · exact .inl ⟨e, h⟩
  unfold RegState.getByAgentID at h
  split at h <;> cases h
  next hfound =>
    obtain ⟨hmem, hid⟩ := Table.find?_some hfound
    exact .inr ⟨row, hmem, of_decide_eq_true hid, hresult, hexec⟩

theorem consume_cases (tokenHash : String) :
    (∃ e, (RegStmt.consume req tokenHash).sem.result s = .error e ∧ (RegStmt.consume req tokenHash).sem.exec s = s) ∨
      ∃ t ∈ s.db.joinTokens, t.live tokenHash (s.now / second) ∧
        (RegStmt.consume req tokenHash).sem.result s = .ok t.consume ∧
          (RegStmt.consume req tokenHash).sem.exec s = s.consumed req tokenHash t := by
  rcases stmt_cases (fun s : RegState => s.consume req tokenHash) s with ⟨e, _, h⟩ | ⟨row, s', h, hresult, hexec⟩
  · exact .inl ⟨e, h⟩
  unfold RegState.consume at h
  split at h <;> cases h
  next t hlive =>
    obtain ⟨hmem, hok⟩ := Table.find?_some hlive
    exact .inr ⟨t, hmem, hok, hresult, hexec⟩

theorem exec_updateFacts (hostID : Int) (facts : AgentHostFacts) :
    (RegStmt.updateFacts hostID facts).sem.exec s = { s with db := (updateAgentHostFacts hostID facts).exec s.db } := by
  show { s with db := _ } = _
  congr 1
  show ((mapErr _ (updateAgentHostFacts hostID facts) >>= fun n =>
    if n = 0 then fail (RegState.hostNotFound hostID) else pure ()).exec s.db) = _
  rw [exec_bind_of_readsOnly, exec_mapErr]
  intro n db
  split
  · rfl
  · rfl

theorem exec_bindTarget (tokenID hostID : Int) :
    (RegStmt.bindTarget tokenID hostID).sem.exec s =
      { s with db := (bindHostAgentJoinTokenTarget tokenID hostID).exec s.db } := by
  show { s with db := _ } = _
  congr 1
  show ((bindHostAgentJoinTokenTarget tokenID hostID >>= fun _ => pure ()).exec s.db) = _
  rw [exec_bind_of_readsOnly]
  intro n db
  rfl

end Outcomes

/-! The statements that leave agents and hosts in place. -/

def RegStmt.places : RegStmt → Bool
  | .createAgentHost _ | .deleteAgentHost _ | .bind _ _ _ _ => true
  | _ => false

/-- Every row has kept its agent, its host and its UUID, and every host its scope. -/
structure Placed (s s' : RegState) : Prop where
  agents : ∃ f : HostAgentRow → HostAgentRow, s'.agents.rows = s.agents.rows.map f ∧
    ∀ r, (f r).agentID = r.agentID ∧ (f r).hostID = r.hostID ∧ (f r).productUUID = r.productUUID
  hosts : ∃ g : HostRow → HostRow, s'.db.hosts.rows = s.db.hosts.rows.map g ∧
    ∀ h, (g h).id = h.id ∧ (g h).parts = h.parts
  next : s'.db.hosts.next = s.db.hosts.next
  created : s'.created = s.created
  binds : s'.binds = s.binds
  rebinds : s'.rebinds = s.rebinds

variable (s : RegState)

namespace Placed

theorem refl : Placed s s :=
  ⟨⟨id, (List.map_id _).symm, fun _ => ⟨rfl, rfl, rfl⟩⟩, ⟨id, (List.map_id _).symm, fun _ => ⟨rfl, rfl⟩⟩,
    rfl, rfl, rfl, rfl⟩

theorem of_eq {s s' : RegState} (hagents : s'.agents = s.agents) (hhosts : s'.db.hosts = s.db.hosts)
    (hcreated : s'.created = s.created) (hbinds : s'.binds = s.binds) (hrebinds : s'.rebinds = s.rebinds) :
    Placed s s' :=
  ⟨⟨id, by rw [hagents, List.map_id], fun _ => ⟨rfl, rfl, rfl⟩⟩, ⟨id, by rw [hhosts, List.map_id], fun _ => ⟨rfl, rfl⟩⟩,
    by rw [hhosts], hcreated, hbinds, hrebinds⟩

theorem of_updateAgents (p : HostAgentRow → Bool) {f : HostAgentRow → HostAgentRow}
    (hf : ∀ r, (f r).agentID = r.agentID ∧ (f r).hostID = r.hostID ∧ (f r).productUUID = r.productUUID) :
    Placed s (s.updateAgents p f) := by
  refine ⟨⟨fun r => if p r then Keyed.withKey (f r) (Keyed.key r) else r, rfl, fun r => ?_⟩,
    ⟨id, (List.map_id _).symm, fun _ => ⟨rfl, rfl⟩⟩, rfl, rfl, rfl, rfl⟩
  dsimp only
  split
  · exact hf r
  · exact ⟨rfl, rfl, rfl⟩

variable {s s' : RegState}

theorem mem_agents (h : Placed s s') {r' : HostAgentRow} (hr' : r' ∈ s'.agents) :
    ∃ r ∈ s.agents, r'.agentID = r.agentID ∧ r'.hostID = r.hostID ∧ r'.productUUID = r.productUUID := by
  obtain ⟨f, hrows, hf⟩ := h.agents
  rw [Table.mem_def, hrows] at hr'
  obtain ⟨r, hr, rfl⟩ := List.mem_map.1 hr'
  exact ⟨r, hr, hf r⟩

theorem mem_agents_of (h : Placed s s') {r : HostAgentRow} (hr : r ∈ s.agents) :
    ∃ r' ∈ s'.agents, r'.agentID = r.agentID ∧ r'.hostID = r.hostID ∧ r'.productUUID = r.productUUID := by
  obtain ⟨f, hrows, hf⟩ := h.agents
  refine ⟨f r, ?_, hf r⟩
  rw [Table.mem_def, hrows]
  exact List.mem_map_of_mem hr

theorem mem_hosts (h : Placed s s') {w' : HostRow} (hw' : w' ∈ s'.db.hosts) :
    ∃ w ∈ s.db.hosts, w'.id = w.id ∧ w'.parts = w.parts := by
  obtain ⟨g, hrows, hg⟩ := h.hosts
  rw [Table.mem_def, hrows] at hw'
  obtain ⟨w, hw, rfl⟩ := List.mem_map.1 hw'
  exact ⟨w, hw, hg w⟩

theorem mem_hosts_of (h : Placed s s') {w : HostRow} (hw : w ∈ s.db.hosts) :
    ∃ w' ∈ s'.db.hosts, w'.id = w.id ∧ w'.parts = w.parts := by
  obtain ⟨g, hrows, hg⟩ := h.hosts
  refine ⟨g w, ?_, hg w⟩
  rw [Table.mem_def, hrows]
  exact List.mem_map_of_mem hw

end Placed

theorem placed_updateFacts (hostID : Int) (facts : AgentHostFacts) :
    Placed s ((RegStmt.updateFacts hostID facts).sem.exec s) := by
  rw [exec_updateFacts, updateAgentHostFacts, Slot.exec_update]
  split
  · refine ⟨⟨id, (List.map_id _).symm, fun _ => ⟨rfl, rfl, rfl⟩⟩, ⟨_, rfl, fun h => ?_⟩, rfl, rfl, rfl, rfl⟩
    split <;> exact ⟨rfl, rfl⟩
  · exact Placed.refl s

theorem placed_bindTarget (tokenID hostID : Int) :
    Placed s ((RegStmt.bindTarget tokenID hostID).sem.exec s) := by
  rw [exec_bindTarget, bindHostAgentJoinTokenTarget, Slot.exec_update]
  split
  · exact .of_eq rfl rfl rfl rfl rfl
  · exact Placed.refl s

theorem placed_exec (q : RegStmt) (hq : q.places = false) (s : RegState) : Placed s (q.sem.exec s) := by
  cases q with
  | createAgentHost | deleteAgentHost | bind => cases hq
  | getByAgentID req agentID =>
    rcases getByAgentID_cases s req agentID with ⟨e, _, hexec⟩ | ⟨row, _, _, _, hexec⟩
    all_goals
      rw [hexec]
      exact .of_eq rfl rfl rfl rfl rfl
  | consume req tokenHash =>
    rcases consume_cases s req tokenHash with ⟨e, _, hexec⟩ | ⟨t, _, _, _, hexec⟩
    all_goals
      rw [hexec]
      exact .of_eq rfl rfl rfl rfl rfl
  | updateFacts hostID facts => exact placed_updateFacts s hostID facts
  | bindTarget tokenID hostID => exact placed_bindTarget s tokenID hostID
  | refreshFingerprint | recordForeignMachine | checkIdentity | touch | markOffline | markStaleOffline =>
    exact .of_updateAgents s _ fun _ => ⟨rfl, rfl, rfl⟩
  | markOnline hostID instanceID version clockSkewMs =>
    have h := Placed.of_updateAgents s (RegState.onHost hostID)
      (f := fun r => r.markOnline instanceID (clampVersion version) clockSkewMs s.now) fun _ => ⟨rfl, rfl, rfl⟩
    exact ⟨h.agents, h.hosts, rfl, rfl, rfl, rfl⟩
  | newRequest | peek | findByProductUUID | getScope | refund | authAgent | tick => exact .of_eq rfl rfl rfl rfl rfl

/-! The constraints of `host_agents`. -/

structure Constrained (s : RegState) : Prop where
  agentID : ∀ r ∈ s.agents, ∀ r' ∈ s.agents, r.agentID = r'.agentID → r = r'
  host : ∀ r ∈ s.agents, ∃ h ∈ s.db.hosts, h.id = r.hostID

namespace Constrained

variable {s s' : RegState}

theorem of_placed (hs : Constrained s) (h : Placed s s') : Constrained s' := by
  refine ⟨?_, ?_⟩
  · obtain ⟨f, hrows, hf⟩ := h.agents
    intro r hr r' hr' heq
    rw [Table.mem_def, hrows] at hr hr'
    obtain ⟨u, hu, rfl⟩ := List.mem_map.1 hr
    obtain ⟨u', hu', rfl⟩ := List.mem_map.1 hr'
    rw [(hf u).1, (hf u').1] at heq
    rw [hs.agentID u hu u' hu' heq]
  · intro r hr
    obtain ⟨u, hu, _, hhost, _⟩ := h.mem_agents hr
    obtain ⟨w, hw, hid⟩ := hs.host u hu
    obtain ⟨w', hw', hid', _⟩ := h.mem_hosts_of hw
    exact ⟨w', hw', by rw [hid', hid, hhost]⟩

variable {agentID : String}

theorem mem_rebound {token : JoinTokenRow} {input : BindInput} {r : HostAgentRow}
    (hr : r ∈ (s.rebound token input agentID).agents) :
    ∃ u ∈ s.agents, r.agentID = u.agentID ∧
      (u.agentID = agentID ∧ r = Keyed.withKey (u.rebind input.hostID (clampVersion input.version) input.fingerprint) (Keyed.key u) ∨
        u.agentID ≠ agentID ∧ r = u) := by
  obtain ⟨u, hu, rfl⟩ := Table.mem_update.1 hr
  refine ⟨u, hu, ?_⟩
  by_cases hid : u.agentID = agentID
  · rw [if_pos (decide_eq_true hid)]
    exact ⟨rfl, .inl ⟨hid, rfl⟩⟩
  · rw [if_neg (by simpa using hid)]
    exact ⟨rfl, .inr ⟨hid, rfl⟩⟩

theorem of_rebound (hs : Constrained s) {token : JoinTokenRow} {input : BindInput}
    (hchecks : s.rebindChecks agentID input.hostID = .ok ()) : Constrained (s.rebound token input agentID) := by
  refine ⟨?_, ?_⟩
  · intro r hr r' hr' heq
    -- a rebind keeps the agent, so both are the row of one agent
    obtain ⟨u, hu, hid, h⟩ := mem_rebound hr
    obtain ⟨u', hu', hid', h'⟩ := mem_rebound hr'
    obtain rfl := hs.agentID u hu u' hu' (hid.symm.trans (heq.trans hid'))
    rcases h with ⟨hsame, rfl⟩ | ⟨hother, rfl⟩ <;> rcases h' with ⟨hsame', rfl⟩ | ⟨hother', rfl⟩
    · rfl
    · exact absurd hsame hother'
    · exact absurd hsame' hother
    · rfl
  · intro r hr
    obtain ⟨u, hu, _, ⟨_, rfl⟩ | ⟨_, rfl⟩⟩ := mem_rebound hr
    · exact references_some_iff.1 ((firstViolation_eq_ok_iff _).1 hchecks (s.hostRef input.hostID) (by simp))
    · exact hs.host r hu

theorem ne_of_insertChecks {hostID : Int} (hchecks : s.insertChecks agentID hostID = .ok ()) :
    ∀ r ∈ s.detached hostID, r.agentID ≠ agentID := by
  have hno := (firstViolation_eq_ok_iff _).1 hchecks
    (!(s.detached hostID).exists? (·.agentID = agentID), uniqueViolation "host_agents_agent_id_key") (by simp)
  intro r hr heq
  have hex : (s.detached hostID).exists? (·.agentID = agentID) := Table.exists?_iff.2 ⟨r, hr, decide_eq_true heq⟩
  rw [hex] at hno
  cases hno

theorem of_inserted (hs : Constrained s) {input : BindInput}
    (hchecks : s.insertChecks agentID input.hostID = .ok ()) : Constrained (s.inserted input agentID) := by
  have hfree := ne_of_insertChecks hchecks
  refine ⟨?_, ?_⟩
  · intro r hr r' hr' heq
    rcases Table.mem_insert.1 hr with hr | rfl <;> rcases Table.mem_insert.1 hr' with hr' | rfl
    · exact hs.agentID r (Table.mem_delete.1 hr).1 r' (Table.mem_delete.1 hr').1 heq
    · exact absurd heq (hfree r hr)
    · exact absurd heq.symm (hfree r' hr')
    · rfl
  · intro r hr
    rcases Table.mem_insert.1 hr with hr | rfl
    · exact hs.host r (Table.mem_delete.1 hr).1
    · exact references_some_iff.1 ((firstViolation_eq_ok_iff _).1 hchecks (s.hostRef input.hostID) (by simp))

end Constrained

theorem bound_iff {s : RegState} {hostID : Int} : s.bound hostID ↔ ∃ r ∈ s.agents, r.hostID = hostID := by
  simp [RegState.bound]

/-- What a statement can do: it leaves agents and hosts in place, or it is one of the four that place them. -/
theorem exec_cases (q : RegStmt) (s : RegState) :
    Placed s (q.sem.exec s) ∨
      (∃ p, q = .createAgentHost p ∧ q.sem.exec s =
        { s with db := { s.db with hosts := s.db.hosts.insert p.row }, created := s.db.hosts.next :: s.created }) ∨
      (∃ hostID, q = .deleteAgentHost hostID ∧ s.bound hostID = false ∧ q.sem.exec s =
        { s with db := { s.db with
          hosts := s.db.hosts.delete (·.id = hostID)
          joinTokens := s.db.joinTokens.delete (·.targetHostID = some hostID) } }) ∨
      (∃ req token input freshID, q = .bind req token input freshID ∧ s.claimant input ≠ "" ∧
        s.rebindChecks (s.claimant input) input.hostID = .ok () ∧ q.sem.exec s = s.rebound token input (s.claimant input)) ∨
      ∃ req token input freshID, q = .bind req token input freshID ∧ s.claimant input = "" ∧
        s.insertChecks freshID input.hostID = .ok () ∧ q.sem.exec s = s.inserted input freshID := by
  by_cases hq : q.places = false
  · exact .inl (placed_exec q hq s)
  cases q with
  | createAgentHost p =>
    rcases createAgentHost_cases s p with ⟨e, _, hexec⟩ | ⟨_, hexec⟩
    · exact .inl (by rw [hexec]; exact .refl s)
    · exact .inr (.inl ⟨p, rfl, hexec⟩)
  | deleteAgentHost hostID =>
    rcases deleteAgentHost_cases s hostID with ⟨_, hexec⟩ | ⟨hunbound, hexec⟩
    · exact .inl (by rw [hexec]; exact .refl s)
    · exact .inr (.inr (.inl ⟨hostID, rfl, hunbound, hexec⟩))
  | bind req token input freshID =>
    rcases bind_cases s req token input freshID with ⟨e, _, hexec⟩ | ⟨row, _, h⟩ | ⟨row, _, h⟩
    · exact .inl (by rw [hexec]; exact .refl s)
    · exact .inr (.inr (.inr (.inl ⟨req, token, input, freshID, rfl, h⟩)))
    · exact .inr (.inr (.inr (.inr ⟨req, token, input, freshID, rfl, h⟩)))
  | _ => exact absurd rfl hq

theorem constrained_exec (q : RegStmt) (s : RegState) (hs : Constrained s) : Constrained (q.sem.exec s) := by
  rcases exec_cases q s with hplaced | ⟨p, _, hexec⟩ | ⟨hostID, _, hunbound, hexec⟩ | ⟨_, _, _, _, _, _, hchecks, hexec⟩ |
    ⟨_, _, _, _, _, _, hchecks, hexec⟩
  · exact hs.of_placed hplaced
  · rw [hexec]
    refine ⟨hs.agentID, fun r hr => ?_⟩
    obtain ⟨h, hh, hid⟩ := hs.host r hr
    exact ⟨h, Table.mem_insert.2 (.inl hh), hid⟩
  · rw [hexec]
    refine ⟨hs.agentID, fun r hr => ?_⟩
    obtain ⟨h, hh, hid⟩ := hs.host r hr
    refine ⟨h, Table.mem_delete.2 ⟨hh, decide_eq_false fun heq => ?_⟩, hid⟩
    -- the host of a row is bound and is not the one that was deleted
    exact Bool.false_ne_true (hunbound.symm.trans (bound_iff.2 ⟨r, hr, hid.symm.trans heq⟩))
  · rw [hexec]
    exact hs.of_rebound hchecks
  · rw [hexec]
    exact hs.of_inserted hchecks

end Vraxel.AgentGw
