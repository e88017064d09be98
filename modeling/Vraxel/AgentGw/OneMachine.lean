import Vraxel.AgentGw.RegisterProtocol
import Vraxel.AgentGw.RegisterSteps
/-
  One machine that registers several times at once. A request creates its host before `Bind`, and
  the one that comes second moves the row to its own new host: the host of the first stays behind
  without an agent.
-/

namespace Vraxel.AgentGw

open Relational Api Db Txn Interleave Protocol Transition

def carries (uuid : String) (r : HostAgentRow) : Bool :=
  r.productUUID ≠ "" ∧ [uuid, swapUUIDByteOrder uuid].contains r.productUUID

def RegState.carriers (s : RegState) (uuid : String) : Nat := s.agents.count (carries uuid)

/-- Before a `Bind`: the row that it moves is on no host that a request has created, or stays
where it is; and a row is only added where none has the UUID. -/
def KeepsOneHost (uuid : String) : RegStmt → RegState → Prop
  | .bind _ _ input _, s =>
    if s.claimant input ≠ "" then
      ¬ s.agents.exists? fun r => r.agentID = s.claimant input ∧ s.created.contains r.hostID ∧ r.hostID ≠ input.hostID
    else s.carriers uuid = 0
  | _, _ => True

instance (uuid : String) (q : RegStmt) (s : RegState) : Decidable (KeepsOneHost uuid q s) := by
  cases q <;> dsimp only [KeepsOneHost] <;> infer_instance

def FromMachine (uuid : String) : Event GatewayCall → Prop
  | .call (.register call) => call.fingerprint.productUUID ∈ [uuid, swapUUIDByteOrder uuid]
  | _ => True

instance (uuid : String) (e : Event GatewayCall) : Decidable (FromMachine uuid e) := by
  unfold FromMachine
  split <;> infer_instance

/-! Hosts without an agent. -/

def Orphan (s : RegState) (hostID : Int) : Prop :=
  hostID ∈ s.created ∧ (∃ h ∈ s.db.hosts, h.id = hostID) ∧ s.bound hostID = false

theorem not_bound_iff {s : RegState} {hostID : Int} : s.bound hostID = false ↔ ∀ r ∈ s.agents, r.hostID ≠ hostID := by
  rw [← Bool.not_eq_true, bound_iff]
  simp

theorem Orphan.of_placed {s s' : RegState} (h : Placed s s') {hostID : Int} (ho : Orphan s' hostID) : Orphan s hostID := by
  obtain ⟨hcreated, ⟨w, hw, rfl⟩, hunbound⟩ := ho
  obtain ⟨u, hu, hid, _⟩ := h.mem_hosts hw
  refine ⟨h.created ▸ hcreated, ⟨u, hu, hid.symm⟩, not_bound_iff.2 ?_⟩
  intro r hr
  obtain ⟨r', hr', _, hhost, _⟩ := h.mem_agents_of hr
  rw [← hhost]
  exact not_bound_iff.1 hunbound r' hr'

theorem next_pending {q : RegStmt} (hq : q.places = false) (r : Except Err q.Ans) (k : Phase) :
    (Phase.next q r k).pending = k.pending := by
  cases q <;> first
    | (cases hq; done)
    | (cases r <;> rfl)

section Orphans

variable {s : RegState} {input : BindInput} {hostID : Int}

/-- The agent that is moved is on the host of the request then, and the host it leaves is none that a request has created. -/
theorem Orphan.of_rebound {uuid freshID : String} {req : Nat} {token : JoinTokenRow} (hP : KeepsOneHost uuid (.bind req token input freshID) s)
    (hclaimant : s.claimant input ≠ "") (hchecks : s.rebindChecks (s.claimant input) input.hostID = .ok ())
    (ho : Orphan (s.rebound token input (s.claimant input)) hostID) : Orphan s hostID ∧ hostID ≠ input.hostID := by
  obtain ⟨hcreated, hhost, hunbound⟩ := ho
  have hafter := not_bound_iff.1 hunbound
  simp only [KeepsOneHost, if_pos hclaimant] at hP
  have hne : hostID ≠ input.hostID := by
    rintro rfl
    obtain ⟨found, hfound⟩ := Option.isSome_iff_exists.1
      ((firstViolation_eq_ok_iff _).1 hchecks
        ((s.byAgentID (s.claimant input)).isSome, .tagged ("host agent " ++ s.claimant input) .notFound) (by simp))
    obtain ⟨hmem, hid⟩ := Table.find?_some hfound
    exact hafter _ (Table.mem_update.2 ⟨found, hmem, (if_pos hid).symm⟩) rfl
  refine ⟨⟨hcreated, hhost, not_bound_iff.2 fun r hr heq => ?_⟩, hne⟩
  by_cases hid : r.agentID = s.claimant input
  · subst heq
    exact hP (Table.exists?_iff.2 ⟨r, hr, decide_eq_true ⟨hid, List.contains_iff_mem.2 hcreated, hne⟩⟩)
  · exact hafter r (Table.mem_update.2 ⟨r, hr, (if_neg (by simpa using hid)).symm⟩) heq

theorem Orphan.of_inserted {freshID : String} (ho : Orphan (s.inserted input freshID) hostID) :
    Orphan s hostID ∧ hostID ≠ input.hostID := by
  obtain ⟨hcreated, hhost, hunbound⟩ := ho
  have hafter := not_bound_iff.1 hunbound
  have hne : hostID ≠ input.hostID := by
    rintro rfl
    exact hafter _ (Table.mem_insert.2 (.inr rfl)) rfl
  refine ⟨⟨hcreated, hhost, not_bound_iff.2 fun r hr heq => ?_⟩, hne⟩
  exact hafter r (Table.mem_insert.2 (.inl (Table.mem_delete.2 ⟨hr, decide_eq_false (heq ▸ hne)⟩))) heq

end Orphans

/-- After a step a host without an agent is the pending one of the request, or it was one
before and was not the pending one of the request. -/
theorem orphan_exec {uuid : String} (q : RegStmt) (s : RegState) (k : Phase) (hq : k.Allows q) (hP : KeepsOneHost uuid q s)
    (hostID : Int) (ho : Orphan (q.sem.exec s) hostID) :
    (Phase.next q (q.sem.result s) k).pending = some hostID ∨ Orphan s hostID ∧ k.pending ≠ some hostID := by
  by_cases hplaces : q.places = false
  · rw [next_pending hplaces]
    exact or_iff_not_imp_left.2 fun hpending => ⟨ho.of_placed (placed_exec q hplaces s), hpending⟩
  cases q with
  | createAgentHost p =>
    have hnone : k.pending ≠ some hostID := by
      rw [show k.pending = none from hq]
      simp
    rcases createAgentHost_cases s p with ⟨e, hresult, hexec⟩ | ⟨hresult, hexec⟩
    · rw [hexec] at ho
      exact .inr ⟨ho, hnone⟩
    · rw [hexec] at ho
      rw [hresult]
      obtain ⟨hcreated, ⟨h, hh, rfl⟩, hunbound⟩ := ho
      by_cases hnew : h.id = s.db.hosts.next
      · refine .inl ?_
        show Phase.pendingOf s.db.hosts.next true = some h.id
        rw [hnew, Phase.pendingOf, if_pos ⟨rfl, s.db.hosts.pos⟩]
      · refine .inr ⟨⟨(List.mem_cons.1 hcreated).resolve_left hnew, ?_, hunbound⟩, hnone⟩
        rcases Table.mem_insert.1 hh with hh | rfl
        · exact ⟨h, hh, rfl⟩
        · exact absurd (Table.key_inserted s.db.hosts p.row) hnew
  | deleteAgentHost deleted =>
    have hpending : k.pending = some deleted := hq
    rcases deleteAgentHost_cases s deleted with ⟨hkept, hexec⟩ | ⟨_, hexec⟩
    · rw [hexec] at ho
      refine .inr ⟨ho, fun heq => ?_⟩
      -- a host that was not deleted is gone or bound
      obtain rfl : deleted = hostID := Option.some.inj (hpending.symm.trans heq)
      exact Bool.false_ne_true (ho.2.2.symm.trans (hkept (references_some_iff.2 ho.2.1)))
    · rw [hexec] at ho
      obtain ⟨hcreated, ⟨h, hh, rfl⟩, hunbound⟩ := ho
      obtain ⟨hh, hne⟩ := Table.mem_delete.1 hh
      refine .inr ⟨⟨hcreated, ⟨h, hh, rfl⟩, hunbound⟩, fun heq => ?_⟩
      exact of_decide_eq_false hne (Option.some.inj (heq.symm.trans hpending))
  | bind req token input freshID =>
    obtain ⟨_, _, hpending, _⟩ := hq
    -- what is pending is the host of the request
    have hother : hostID ≠ input.hostID → k.pending ≠ some hostID := by
      rintro hne heq
      rcases hpending with hpending | hpending
      · cases hpending.symm.trans heq
      · exact hne (Option.some.inj (heq.symm.trans hpending))
    rcases bind_cases s req token input freshID with
      ⟨e, hresult, hexec⟩ | ⟨row, _, hclaimant, hchecks, hexec⟩ | ⟨row, _, _, _, hexec⟩
    · rw [hexec] at ho
      rw [hresult]
      exact or_iff_not_imp_left.2 fun hpending => ⟨ho, hpending⟩
    · rw [hexec] at ho
      exact .inr ((ho.of_rebound hP hclaimant hchecks).imp_right hother)
    · rw [hexec] at ho
      exact .inr (ho.of_inserted.imp_right hother)
  | _ => exact absurd rfl hplaces

/-! Rows with the UUID. -/

variable {input : BindInput}

section Carriers

variable {uuid : String}

theorem mem_spellings (huuid : uuidShape uuid) {v : String} (hv : v ∈ [uuid, swapUUIDByteOrder uuid]) (w : String) :
    w ∈ [v, swapUUIDByteOrder v] ↔ w ∈ [uuid, swapUUIDByteOrder uuid] := by
  have hswap := (swapUUIDByteOrder_swap huuid).2
  simp only [List.mem_cons, List.not_mem_nil, or_false] at hv ⊢
  rcases hv with rfl | rfl
  · exact Iff.rfl
  · rw [hswap]
    exact or_comm

theorem carries_iff (huuid : uuidShape uuid) {r : HostAgentRow} :
    carries uuid r ↔ r.productUUID ∈ [uuid, swapUUIDByteOrder uuid] := by
  rw [carries, decide_eq_true_eq, List.contains_iff_mem]
  constructor
  · exact And.right
  · intro h
    refine ⟨?_, h⟩
    simp only [List.mem_cons, List.not_mem_nil, or_false] at h
    rcases h with h | h
    · rw [h]
      exact ne_empty_of_uuidShape huuid
    · rw [h]
      exact ne_empty_of_uuidShape (swapUUIDByteOrder_swap huuid).1

variable {s : RegState}

theorem Placed.carriers_eq {s' : RegState} (h : Placed s s') : s'.carriers uuid = s.carriers uuid := by
  obtain ⟨f, hrows, hf⟩ := h.agents
  rw [RegState.carriers, Table.count, hrows, List.countP_map]
  apply List.countP_congr
  intro r _
  simp [carries, (hf r).2.2]

theorem carriers_rebound (huuid : uuidShape uuid) (token : JoinTokenRow) {agentID : String}
    (hinput : input.fingerprint.productUUID ∈ [uuid, swapUUIDByteOrder uuid])
    (hrows : ∀ r ∈ s.agents, r.agentID = agentID → carries uuid r) :
    (s.rebound token input agentID).carriers uuid = s.carriers uuid := by
  show (s.agents.rows.map _).countP (carries uuid) = s.agents.rows.countP (carries uuid)
  rw [List.countP_map]
  apply List.countP_congr
  intro r hr
  simp only [Function.comp]
  by_cases hid : r.agentID = agentID
  · rw [if_pos (decide_eq_true hid)]
    have hnew : carries uuid (Keyed.withKey (r.rebind input.hostID (clampVersion input.version) input.fingerprint) (Keyed.key r)) :=
      (carries_iff huuid).2 hinput
    exact iff_of_true hnew (hrows r hr hid)
  · rw [if_neg (by simpa using hid)]

theorem carriers_inserted (huuid : uuidShape uuid) (agentID : String)
    (hinput : input.fingerprint.productUUID ∈ [uuid, swapUUIDByteOrder uuid]) (hnone : s.carriers uuid = 0) :
    (s.inserted input agentID).carriers uuid = 1 := by
  have hdetached : (s.detached input.hostID).rows.countP (carries uuid) = 0 := by
    apply List.countP_eq_zero.2
    intro r hr
    exact List.countP_eq_zero.1 hnone r (List.mem_of_mem_filter hr)
  have hnew : carries uuid ((s.detached input.hostID).inserted
      (.fresh input.hostID agentID (clampVersion input.version) input.fingerprint)) := (carries_iff huuid).2 hinput
  show ((s.detached input.hostID).rows ++ [(s.detached input.hostID).inserted _]).countP (carries uuid) = 1
  rw [List.countP_append, hdetached, List.countP_cons_of_pos hnew]
  rfl

/-- One row carries the UUID, once a request was bound or if one did before. -/
structure OneRow (uuid : String) (before : Nat) (s : RegState) : Prop where
  constrained : Constrained s
  le : s.carriers uuid ≤ 1
  eq : 0 < before ∨ 0 < s.binds → s.carriers uuid = 1

/-- The request is of the machine, and the agent that it has matched carries the UUID. -/
def OfMachine (uuid : String) (s : RegState) (k : Phase) : Prop :=
  (∀ v, k.uuid = some v → v ∈ [uuid, swapUUIDByteOrder uuid]) ∧
    ∀ agentID hostID, k.look = some (agentID, hostID) → ∃ r ∈ s.agents, r.agentID = agentID ∧ carries uuid r

theorem carries_of_claimant (huuid : uuidShape uuid) {k : Phase} {req : Nat} {token : JoinTokenRow} {freshID : String} (hs : Constrained s) (hk : OfMachine uuid s k)
    (hq : k.Allows (.bind req token input freshID)) (hclaimant : s.claimant input ≠ "") :
    (∃ r ∈ s.agents, r.agentID = s.claimant input ∧ carries uuid r) ∧
      ∀ r ∈ s.agents, r.agentID = s.claimant input → carries uuid r := by
  obtain ⟨_, _, _, hkuuid, hclaim, hmatched⟩ := hq
  have hinput := hk.1 _ hkuuid
  have hfound : ∃ r ∈ s.agents, r.agentID = s.claimant input ∧ carries uuid r := by
    by_cases hid : input.agentID = ""
    · rcases hclaim with hclaim | hclaim
      · simp [RegState.claimant, hid, hclaim] at hclaimant
      · have hne : input.claimUUIDs ≠ [] := by simp [hclaim]
        simp only [RegState.claimant, if_pos (And.intro hid hne)] at hclaimant ⊢
        -- the re-check has found exactly one row
        match hrows : s.byProductUUID input.claimUUIDs with
        | [found] =>
          have hmem : found ∈ s.byProductUUID input.claimUUIDs := by simp [hrows]
          obtain ⟨hmem, hfound⟩ := Table.mem_select.1 hmem
          refine ⟨found, hmem, rfl, (carries_iff huuid).2 ?_⟩
          have hin := List.contains_iff_mem.1 (of_decide_eq_true hfound).2
          rw [hclaim, mem_spellings huuid hinput] at hin
          exact hin
        | [] => simp [hrows] at hclaimant
        | _ :: _ :: _ => simp [hrows] at hclaimant
    · have hself : s.claimant input = input.agentID := if_neg fun h => hid h.1
      obtain ⟨hostID, hlook, _⟩ := hmatched hid
      rw [hself]
      exact hk.2 _ _ hlook
  refine ⟨hfound, ?_⟩
  obtain ⟨r, hr, hid, hcarries⟩ := hfound
  intro r' hr' hid'
  rw [hs.agentID r' hr' r hr (hid'.trans hid.symm)]
  exact hcarries

theorem carries_exec (huuid : uuidShape uuid) {q : RegStmt} {k : Phase} (hk : OfMachine uuid s k)
    (hq : k.Allows q) (hP : KeepsOneHost uuid q s) {agentID : String}
    (h : ∃ r ∈ s.agents, r.agentID = agentID ∧ carries uuid r) :
    ∃ r ∈ (q.sem.exec s).agents, r.agentID = agentID ∧ carries uuid r := by
  obtain ⟨r, hr, hid, hcarries⟩ := h
  rcases exec_cases q s with hplaced | ⟨p, _, hexec⟩ | ⟨hostID, _, _, hexec⟩ |
    ⟨req, token, input, freshID, rfl, _, _, hexec⟩ | ⟨req, token, input, freshID, rfl, hclaimant, _, hexec⟩
  · obtain ⟨r', hr', hid', _, huuid'⟩ := hplaced.mem_agents_of hr
    refine ⟨r', hr', hid'.trans hid, (carries_iff huuid).2 ?_⟩
    rw [huuid']
    exact (carries_iff huuid).1 hcarries
  · rw [hexec]
    exact ⟨r, hr, hid, hcarries⟩
  · rw [hexec]
    exact ⟨r, hr, hid, hcarries⟩
  · rw [hexec]
    have hinput := hk.1 _ hq.2.2.2.1
    by_cases hmoved : r.agentID = s.claimant input
    · exact ⟨_, Table.mem_update.2 ⟨r, hr, (if_pos (decide_eq_true hmoved)).symm⟩, hid, (carries_iff huuid).2 hinput⟩
    · exact ⟨r, Table.mem_update.2 ⟨r, hr, (if_neg (by simpa using hmoved)).symm⟩, hid, hcarries⟩
  · -- nothing is added while there is such a row
    simp only [KeepsOneHost, hclaimant, ne_eq, not_true_eq_false, if_false] at hP
    exact absurd hcarries (List.countP_eq_zero.1 hP r hr)

theorem oneRow_exec (huuid : uuidShape uuid) {before : Nat} {q : RegStmt} {k : Phase} (hs : OneRow uuid before s)
    (hk : OfMachine uuid s k) (hq : k.Allows q) (hP : KeepsOneHost uuid q s) : OneRow uuid before (q.sem.exec s) := by
  have hconstrained := constrained_exec q s hs.constrained
  rcases exec_cases q s with hplaced | ⟨p, _, hexec⟩ | ⟨hostID, _, _, hexec⟩ |
    ⟨req, token, input, freshID, rfl, hclaimant, _, hexec⟩ | ⟨req, token, input, freshID, rfl, hclaimant, _, hexec⟩
  · have hcarriers : (q.sem.exec s).carriers uuid = s.carriers uuid := hplaced.carriers_eq
    refine ⟨hconstrained, hcarriers ▸ hs.le, ?_⟩
    rw [hplaced.binds, hcarriers]
    exact hs.eq
  · rw [hexec] at hconstrained ⊢
    exact ⟨hconstrained, hs.le, hs.eq⟩
  · rw [hexec] at hconstrained ⊢
    exact ⟨hconstrained, hs.le, hs.eq⟩
  · obtain ⟨⟨r, hr, _, hcarries⟩, hrows⟩ := carries_of_claimant huuid hs.constrained hk hq hclaimant
    have hcarriers := carriers_rebound huuid token (hk.1 _ hq.2.2.2.1) hrows
    have hpos : 0 < s.carriers uuid := Table.count_pos.2 ⟨r, hr, hcarries⟩
    have hle := hs.le
    rw [hexec] at hconstrained ⊢
    exact ⟨hconstrained, by omega, fun _ => by omega⟩
  · simp only [KeepsOneHost, hclaimant, ne_eq, not_true_eq_false, if_false] at hP
    have hcarriers := carriers_inserted huuid freshID (hk.1 _ hq.2.2.2.1) hP
    rw [hexec] at hconstrained ⊢
    exact ⟨hconstrained, by omega, fun _ => hcarriers⟩

theorem ofMachine_exec (huuid : uuidShape uuid) {q : RegStmt} {k : Phase} (hk : OfMachine uuid s k)
    (hq : k.Allows q) (hP : KeepsOneHost uuid q s) : OfMachine uuid (q.sem.exec s) (Phase.next q (q.sem.result s) k) := by
  have hkeep : ∀ agentID hostID, k.look = some (agentID, hostID) →
      ∃ r ∈ (q.sem.exec s).agents, r.agentID = agentID ∧ carries uuid r :=
    fun agentID hostID hlook => carries_exec huuid hk hq hP (hk.2 agentID hostID hlook)
  refine ⟨fun v hv => hk.1 v (next_uuid q (q.sem.result s) k ▸ hv), ?_⟩
  intro agentID hostID hlook
  cases q with
  | findByProductUUID req productUUIDs =>
    obtain ⟨_, _, _, _, v, hv, rfl, _⟩ := hq
    have hbind : k.uuid.bind (Phase.lookOf · (s.byProductUUID [v, swapUUIDByteOrder v])) = some (agentID, hostID) := hlook
    rw [hv] at hbind
    obtain ⟨r, hr, hid, _⟩ := mem_of_lookOf hbind
    obtain ⟨hr, hcarries⟩ := Table.mem_select.1 hr
    refine ⟨r, hr, hid, (carries_iff huuid).2 ?_⟩
    exact (mem_spellings huuid (hk.1 v hv) _).1 (List.contains_iff_mem.1 (of_decide_eq_true hcarries).2)
  | _ =>
    rw [next_look (by intro _ _ h; cases h)] at hlook
    exact hkeep agentID hostID hlook

end Carriers

/-- When all programs have finished: one row carries the UUID of the machine, if one did
before or a request was bound, and no host that was created is left without an agent. -/
theorem machine_keeps_one_host (cfg : RegConfig) (db : DB) (agents : Table HostAgentRow) (now : Int) (uuid : String)
    (huuid : uuidShape uuid) (hconstrained : Constrained (.init db agents now))
    (hone : (RegState.init db agents now).carriers uuid ≤ 1) (es : List (Event GatewayCall))
    (hcalls : ∀ e ∈ es, FromMachine uuid e)
    (hes : Along (gatewaySystem cfg).step ((gatewaySystem cfg).Meets (KeepsOneHost uuid)) (.init (.init db agents now)) es) :
    ∀ st ∈ states (gatewaySystem cfg).step (.init (.init db agents now)) es, (∀ p ∈ st.threads, p.next? = none) →
      (0 < (RegState.init db agents now).carriers uuid ∨ 0 < st.store.binds → st.store.carriers uuid = 1) ∧
        ∀ hostID ∈ st.store.created, (∃ h ∈ st.store.db.hosts, h.id = hostID) → st.store.bound hostID := by
  have hinit : OneRow uuid ((RegState.init db agents now).carriers uuid) (.init db agents now) := by
    refine ⟨hconstrained, hone, ?_⟩
    intro h
    rcases h with h | h
    · omega
    · exact absurd h (Nat.lt_irrefl 0)
  have hcall : ∀ c s, FromMachine uuid (.call c) → OneRow uuid ((RegState.init db agents now).carriers uuid) s →
      OfMachine uuid s (startPhase c) ∧ (none : Option Unit) = none := by
    intro c s hc _
    refine ⟨?_, rfl⟩
    cases c with
    | register call =>
      refine ⟨?_, fun agentID hostID h => by cases h⟩
      intro v hv
      cases hv
      exact hc
    | _ => exact ⟨fun v hv => (by cases hv), fun agentID hostID h => by cases h⟩
  have hrows := regProtocol.forall_phases (gatewaySystem cfg) (fun _ => (none : Option Unit)) (follows_gatewayProg cfg) hcall
    (fun q s k hs hk hq _ hP => ⟨oneRow_exec huuid hs hk hq hP, ofMachine_exec huuid hk hq hP, fun v hv => by cases hv⟩)
    (fun q s k k' _ hk hq hk' _ hP _ =>
      ⟨hk'.1, fun agentID hostID hlook => carries_exec huuid hk hq hP (hk'.2 agentID hostID hlook)⟩) hinit (fun c hc => hcalls _ hc) hes
  have horphans := regProtocol.forall_needs (gatewaySystem cfg) Phase.pending (follows_gatewayProg cfg)
    (fun q s k hq _ hP => orphan_exec q s k hq hP) (s := .init db agents now) (fun v hv => (List.not_mem_nil hv.1).elim)
    (fun c hc => hcalls _ hc) hes
  intro st hst hdone
  refine ⟨(hrows st hst).1.eq, ?_⟩
  intro hostID hcreated hhost
  by_contra hunbound
  obtain ⟨ks, htracks, hneeds⟩ := horphans st hst
  -- an orphan is pending in some phase, and no program ends in such a phase
  obtain ⟨k, hk, hpending⟩ := hneeds hostID ⟨hcreated, hhost, eq_false_of_ne_true hunbound⟩
  obtain ⟨r, hsettled⟩ := ends_of_done htracks hdone k hk
  cases hsettled.symm.trans hpending

def machineRegistration (productUUID freshID : String) : GatewayCall := registration "any" productUUID "image-1" freshID

def registersTwice : List (Event GatewayCall) :=
  .call (machineRegistration "8c1e4d56-f7c1-65c9-b323-12015fb893e2" "11111111-1111-1111-1111-111111111111") :: stepsOf 0 7 ++
    .call (machineRegistration "564d1e8c-c1f7-c965-b323-12015fb893e2" "22222222-2222-2222-2222-222222222222") :: stepsOf 1 9

theorem registered_again_on_one_host :
    (let st := run (gatewaySystem plainConfig).step (.init (.init { DB.empty with joinTokens := joinTokens 5 } .empty 0)) registersTwice
     st.store.binds = 2 ∧ st.store.carriers "8c1e4d56-f7c1-65c9-b323-12015fb893e2" = 1 ∧
       ∀ hostID ∈ st.store.created, (∃ h ∈ st.store.db.hosts, h.id = hostID) → st.store.bound hostID) := by
  have h := machine_keeps_one_host plainConfig { DB.empty with joinTokens := joinTokens 5 } .empty 0
    "8c1e4d56-f7c1-65c9-b323-12015fb893e2" (by decide)
    ⟨fun r hr => (Table.not_mem_empty r hr).elim, fun r hr => (Table.not_mem_empty r hr).elim⟩ (by decide)
    registersTwice (by decide +kernel) (by decide +kernel) _ (run_mem_states (gatewaySystem plainConfig).step _ registersTwice)
    (by decide +kernel)
  exact ⟨by decide +kernel, h.1 (.inr (by decide +kernel)), h.2⟩

/-- Both requests find no row and create a host, and the `Bind` of the second one moves the row to its own. -/
def registersAtOnce : List (Event GatewayCall) :=
  [.call (machineRegistration "8c1e4d56-f7c1-65c9-b323-12015fb893e2" "11111111-1111-1111-1111-111111111111"),
    .call (machineRegistration "8c1e4d56-f7c1-65c9-b323-12015fb893e2" "22222222-2222-2222-2222-222222222222")]
    ++ stepsOf 0 5 ++ stepsOf 1 6 ++ stepsOf 0 2 ++ stepsOf 1 2

theorem second_registration_orphans :
    (let st := run (gatewaySystem plainConfig).step (.init (.init { DB.empty with joinTokens := joinTokens 5 } .empty 0)) registersAtOnce
     (∀ p ∈ st.threads, p.next? = none) ∧ st.store.carriers "8c1e4d56-f7c1-65c9-b323-12015fb893e2" = 1 ∧
       st.store.created = [2, 1] ∧ (st.store.db.hosts.get? 1).isSome ∧ (st.store.db.hosts.get? 2).isSome ∧
         st.store.bound 1 = false) := by
  decide +kernel

end Vraxel.AgentGw
