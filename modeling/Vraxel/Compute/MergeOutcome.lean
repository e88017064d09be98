import Vraxel.Compute.HostMerge
/-
  What a merge leaves behind, for every fault of its store calls and every interleaving with
  the channels of agents.
-/

namespace Vraxel.Compute

open Relational Api Db Txn Interleave AgentGw Transition

structure Binding where
  serial : Int
  hostID : Int
  agentID : String
  tokenVersion : Int
  deriving DecidableEq

def binding (r : HostAgentRow) : Binding := ⟨r.serial, r.hostID, r.agentID, r.tokenVersion⟩

def mergeBindings (source target : Int) (bs : List Binding) : List Binding :=
  if bs.any (·.hostID = source) then
    (bs.filter (·.hostID ≠ target)).map fun b => if b.hostID = source then { b with hostID := target } else b
  else bs

theorem mergeBindings_ne {source target : Int} (hne : source ≠ target) {bs : List Binding}
    (hany : bs.any (·.hostID = source)) : mergeBindings source target bs ≠ bs := by
  intro heq
  obtain ⟨b, hb, hsource⟩ := List.any_eq_true.1 hany
  rw [mergeBindings, if_pos hany] at heq
  rw [← heq] at hb
  obtain ⟨b', _, hb'⟩ := List.mem_map.1 hb
  have hsource : b.hostID = source := by simpa using hsource
  by_cases h : b'.hostID = source
  · rw [if_pos h] at hb'
    rw [← hb'] at hsource
    exact hne hsource.symm
  · rw [if_neg h] at hb'
    exact h (hb' ▸ hsource)

namespace MergeState

def hosts (s : MergeState) : Table HostRow := s.reg.db.hosts

def bindings (s : MergeState) : List Binding := s.reg.agents.rows.map binding

/-- The hosts, what was reported about them and the bindings are as they were. -/
structure Kept (s₀ s : MergeState) : Prop where
  hosts : s.hosts = s₀.hosts
  facts : s.facts = s₀.facts
  bindings : s.bindings = s₀.bindings

def targetHosts (s₀ : MergeState) (target : Int) (agentMoved : Bool) : Table HostRow :=
  if agentMoved then s₀.hosts.update (·.id = target) fun h => { h with connectivityMode := "agent" } else s₀.hosts

def targetFacts (s₀ : MergeState) (source target : Int) (agentMoved : Bool) : Int → ReportedFacts :=
  if agentMoved then Function.update s₀.facts target (s₀.facts source) else s₀.facts

/-- The source is gone, its agent is bound to the target, which has its facts, and all other
rows are as they were. -/
structure Merged (source target : Int) (s₀ s : MergeState) (agentMoved : Bool) : Prop where
  hosts : s.hosts = (s₀.targetHosts target agentMoved).delete (·.id = source)
  facts : s.facts = s₀.targetFacts source target agentMoved
  bindings : s.bindings = mergeBindings source target s₀.bindings
  moved : agentMoved = s₀.bindings.any (·.hostID = source)

theorem bindings_any (s : MergeState) (hostID : Int) :
    s.bindings.any (·.hostID = hostID) = s.reg.agents.exists? (onHost hostID) := by
  rw [bindings, List.any_map]
  rfl

end MergeState

def MergeRequest.source? (c : MergeRequest) : Option Int :=
  (Strconv.parseInt c.sourceHostID).filter fun i => 0 < i ∧ i ≠ c.targetID

/-- A merge that has ended has done everything or nothing, and removed no agent that was online. -/
def AllOrNothing (c : MergeRequest) (s₀ : MergeState) (st : Pool MergeState mergeSig Err MergeAnswer) : Prop :=
  (∀ r ∈ st.store.removed, r.status ≠ .online) ∧
    ∀ r, st.threads[0]? = some (.done r) →
      match r with
      | .error _ => s₀.Kept st.store
      | .ok (.merged _ agentMoved) => ∃ source, c.source? = some source ∧ s₀.Merged source c.targetID st.store agentMoved
      | .ok (.gateway _) => False

/-- The agent of the target is not online when it is detached, and what follows does not fail. -/
def MergeStmt.Safe : MergeStmt → MergeState → Prop
  | moveBinding _ toHostID none, s => ∀ r ∈ s.reg.agents, r.hostID = toHostID → r.status ≠ .online
  | updateFacts _ _ fault, _ => fault = none
  | deleteHost _ _ agentMoved fault, _ => fault = none ∨ agentMoved = false
  | _, _ => True

instance (q : MergeStmt) (s : MergeState) : Decidable (q.Safe s) := by
  cases q with
  | moveBinding fromHostID toHostID fault => cases fault <;> dsimp only [MergeStmt.Safe] <;> infer_instance
  | _ =>
    dsimp only [MergeStmt.Safe]
    infer_instance

def isChannel : RegStmt → Bool
  | .authAgent _ | .refreshFingerprint _ _ | .recordForeignMachine _ _ | .checkIdentity _ _ | .markOnline _ _ _ _
  | .touch _ _ _ | .markOffline _ _ | .markStaleOffline | .tick _ => true
  | _ => false

theorem map_binding_update (t : Table HostAgentRow) (p : HostAgentRow → Bool) {f : HostAgentRow → HostAgentRow}
    (hf : ∀ r, (f r).hostID = r.hostID ∧ (f r).agentID = r.agentID ∧ (f r).tokenVersion = r.tokenVersion) :
    (t.update p f).rows.map binding = t.rows.map binding := by
  rw [Table.update, List.map_map]
  apply List.map_congr_left
  intro r _
  obtain ⟨hhost, hagent, hversion⟩ := hf r
  by_cases hp : p r
  · simp only [Function.comp, binding, if_pos hp]
    show Binding.mk r.serial (f r).hostID (f r).agentID (f r).tokenVersion = _
    rw [hhost, hagent, hversion]
  · simp [if_neg hp]

theorem kept_channel {q : RegStmt} (hq : isChannel q) (s : RegState) :
    (q.sem.exec s).db = s.db ∧ (q.sem.exec s).agents.rows.map binding = s.agents.rows.map binding := by
  cases q with
  | authAgent | tick => exact ⟨rfl, rfl⟩
  | refreshFingerprint | recordForeignMachine | checkIdentity | markOnline | touch | markOffline | markStaleOffline =>
    exact ⟨rfl, map_binding_update s.agents _ fun _ => ⟨rfl, rfl, rfl⟩⟩
  | _ => cases hq

/-- Statements of the channels alone. -/
def Channels : MergeM MergeAnswer → Prop
  | .done _ => True
  | .exec q next => (∃ q', q = .gateway q' ∧ isChannel q') ∧ ∀ r, Channels (next r)

theorem channels_bind {q : RegStmt} (hq : isChannel q) {f : q.Ans → Reg.RegM Outcome}
    (h : ∀ a, Channels (HostMerge.ofGateway (f a))) :
    Channels (HostMerge.ofGateway (Prog.ask (G := regSig) q >>= f)) := by
  refine ⟨⟨_, rfl, hq⟩, fun r => ?_⟩
  cases r with
  | error e => trivial
  | ok a => exact h a

theorem channels_openChannel (c : Reg.ConnectCall) (row : HostAgentRow) :
    Channels (HostMerge.ofGateway (Reg.openChannel c row)) := by
  refine channels_bind rfl fun contended => ?_
  cases contended with
  | true => trivial
  | false => exact channels_bind rfl fun _ => trivial

theorem channels_connect (c : Reg.ConnectCall) : Channels (HostMerge.ofGateway (Reg.connect c)) := by
  refine channels_bind rfl fun row => ?_
  show Channels (HostMerge.ofGateway (if row.tokenVersion ≠ c.tokenVersion then _ else Reg.verify c row))
  split
  · trivial
  · unfold Reg.verify
    dsimp only
    cases verifyMachine row c.attempt.fingerprint with
    | foreignMachine => exact channels_bind rfl fun _ => trivial
    | machineIDReset | hardwareChanged => exact channels_bind rfl fun _ => channels_openChannel c row
    | sameMachine | unverifiable => exact channels_openChannel c row

theorem channels_mergeProg (cfg : RegConfig) {call : MergeCall} (hcall : ∀ c, call ≠ .merge c) :
    Channels (mergeProg cfg call) := by
  cases call with
  | merge c => exact absurd rfl (hcall c)
  | connect c => exact channels_connect c
  | heartbeat hostID instanceID version clockSkewMs =>
    refine channels_bind rfl fun claimed => ?_
    cases claimed with
    | true => trivial
    | false => exact channels_bind rfl fun _ => trivial
  | closed | markStaleOffline | tick => exact channels_bind rfl fun _ => trivial

theorem merge_cases (c : MergeRequest) :
    (∃ e, HostMerge.merge c = Prog.fail e) ∨
      ∃ source, c.source? = some source ∧ source ≠ c.targetID ∧ HostMerge.merge c = HostMerge.readBoth c source := by
  unfold HostMerge.merge MergeRequest.source?
  cases Strconv.parseInt c.sourceHostID with
  | none => exact .inl ⟨_, rfl⟩
  | some i =>
    dsimp only
    by_cases hpos : i ≤ 0
    · rw [if_pos hpos]
      exact .inl ⟨_, rfl⟩
    · rw [if_neg hpos]
      by_cases heq : i = c.targetID
      · rw [if_pos heq]
        exact .inl ⟨_, rfl⟩
      · rw [if_neg heq]
        have hlt : 0 < i := by omega
        simp [Option.filter, hlt, heq]

/-! Merges beside channels. -/

namespace MergeState.Kept

variable {s s' s'' : MergeState}

theorem refl (s : MergeState) : s.Kept s := ⟨rfl, rfl, rfl⟩

theorem trans (h : s.Kept s') (h' : s'.Kept s'') : s.Kept s'' :=
  ⟨h'.hosts.trans h.hosts, h'.facts.trans h.facts, h'.bindings.trans h.bindings⟩

end MergeState.Kept

section Merges

variable (c : MergeRequest) (s₀ : MergeState)

def Ended (s : MergeState) : Except Err MergeAnswer → Prop
  | .error _ => s₀.Kept s
  | .ok (.merged _ agentMoved) => ∃ source, c.source? = some source ∧ s₀.Merged source c.targetID s agentMoved
  | .ok (.gateway _) => False

theorem allOrNothing_iff_ended (st : Pool MergeState mergeSig Err MergeAnswer) :
    AllOrNothing c s₀ st ↔ (∀ r ∈ st.store.removed, r.status ≠ .online) ∧
      ∀ r, st.threads[0]? = some (.done r) → Ended c s₀ st.store r := by
  refine and_congr_right fun _ => forall_congr' fun r => imp_congr_right fun _ => ?_
  rcases r with e | (_ | _) <;> exact Iff.rfl

/-- Whatever the channels do in between: safe statements remove no agent that is online and lead to
an end that is all or nothing; one that is not safe removes such an agent, or ends otherwise. -/
def Guarded : MergeM MergeAnswer → MergeState → Prop
  | .done r, s => Ended c s₀ s r
  | .exec q next, s => ∀ s', s.Kept s' → ∃ r s'', q.sem.run s' = (r, s'') ∧
      (q.Safe s' ∧ (∀ a ∈ s''.removed, a ∈ s'.removed ∨ a.status ≠ .online) ∧ Guarded (next r) s'' ∨
        ¬ q.Safe s' ∧ ((∃ a ∈ s''.removed, a.status = .online) ∨ ∃ r', next r = .done r' ∧ ¬ Ended c s₀ s'' r'))

variable {c s₀} {source : Int} {s : MergeState}

theorem Guarded.of_kept {s' : MergeState} {p : MergeM MergeAnswer} (h : Guarded c s₀ p s) (hs : s.Kept s') :
    Guarded c s₀ p s' := by
  cases p with
  | exec q next => exact fun s'' hs' => h s'' (hs.trans hs')
  | done r =>
    rcases r with e | (⟨_, agentMoved⟩ | o)
    · exact MergeState.Kept.trans h hs
    · obtain ⟨source, hsource, hmerged⟩ := h
      exact ⟨source, hsource, hs.hosts.trans hmerged.hosts, hs.facts.trans hmerged.facts,
        hs.bindings.trans hmerged.bindings, hmerged.moved⟩
    · exact h

/-- What the first two statements have seen. -/
structure Seen (c : MergeRequest) (source : Int) (s₀ : MergeState) (facts : ReportedFacts) : Prop where
  target : s₀.hosts.exists? (·.id = c.targetID)
  visible : s₀.hosts.exists? (MergeState.visible source (HostMerge.sf c))
  facts : facts = s₀.facts source

theorem bindings_moved (s : MergeState) {target : Int} (hany : s.bindings.any (·.hostID = source)) :
    (s.moved source target).bindings = mergeBindings source target s.bindings := by
  rw [mergeBindings, if_pos hany]
  have hfilter : (s.reg.agents.rows.filter fun r => !MergeState.onHost target r) =
      s.reg.agents.rows.filter ((fun b => decide (b.hostID ≠ target)) ∘ binding) := by
    apply List.filter_congr
    intro r _
    exact (decide_not (p := r.hostID = target)).symm
  show ((s.reg.agents.rows.filter fun r => !MergeState.onHost target r).map _).map binding = _
  rw [hfilter, MergeState.bindings, List.filter_map, List.map_map, List.map_map]
  apply List.map_congr_left
  intro r _
  by_cases hr : r.hostID = source
  · simp [MergeState.onHost, MergeState.moveTo, binding, hr, Keyed.withKey, Keyed.key]
  · simp [MergeState.onHost, binding, hr]

theorem bindings_deletedHost (s : MergeState) (h : s.bindings.any (·.hostID = source) = false) :
    (s.deletedHost source).bindings = s.bindings := by
  show (s.reg.agents.delete (MergeState.onHost source)).rows.map binding = _
  rw [Table.delete_eq_self]
  · rfl
  · rw [MergeState.bindings_any] at h
    exact Table.exists?_eq_false.1 h

theorem mergeBindings_any {target : Int} (hne : source ≠ target) {bs : List Binding} (hany : bs.any (·.hostID = source)) :
    (mergeBindings source target bs).any (·.hostID = source) = false := by
  rw [mergeBindings, if_pos hany, List.any_eq_false]
  intro b hb
  obtain ⟨b', _, rfl⟩ := List.mem_map.1 hb
  by_cases h : b'.hostID = source
  · rw [if_pos h]
    simpa using hne.symm
  · rw [if_neg h]
    simpa using h

section Statements

variable (s : MergeState) (id : Int) (sf : Filter) (fault : Option String)

theorem run_getHost :
    (∃ e, (MergeStmt.getHost id sf fault).sem.run s = (.error e, s)) ∨
      ∃ h, (MergeStmt.getHost id sf fault).sem.run s = (.ok (h, s.facts id), s) ∧ s.hosts.exists? (MergeState.visible id sf) := by
  cases fault with
  | some text => exact .inl ⟨_, rfl⟩
  | none =>
    show (∃ e, (s.getHost id sf, s) = (.error e, s)) ∨ ∃ h, (s.getHost id sf, s) = (.ok (h, s.facts id), s) ∧ _
    unfold MergeState.getHost
    cases h : s.reg.db.hosts.find? (MergeState.visible id sf) with
    | none => exact .inl ⟨_, rfl⟩
    | some r =>
      obtain ⟨hr, hvisible⟩ := Table.find?_some h
      exact .inr ⟨r, rfl, Table.exists?_iff.2 ⟨r, hr, hvisible⟩⟩

theorem run_getAgent :
    (∃ e, (MergeStmt.getAgent id fault).sem.run s = (.error e, s) ∧ isNotFound e "agent" = false) ∨
      (∃ e, (MergeStmt.getAgent id fault).sem.run s = (.error e, s) ∧ isNotFound e "agent" = true ∧
        s.bindings.any (·.hostID = id) = false) ∨
      ∃ r, (MergeStmt.getAgent id fault).sem.run s = (.ok r, s) ∧ s.bindings.any (·.hostID = id) := by
  cases fault with
  | some text => exact .inl ⟨_, rfl, rfl⟩
  | none =>
    rw [MergeState.bindings_any]
    cases h : s.reg.agents.find? (MergeState.onHost id) with
    | none =>
      have hget : s.getAgent id = .error (MergeState.agentNotFound id) := by rw [MergeState.getAgent, h]
      refine .inr (.inl ⟨_, congrArg (·, s) hget, rfl, ?_⟩)
      exact Table.exists?_eq_false.2 fun r hr => by simpa using Table.find?_none.1 h r hr
    | some r =>
      have hget : s.getAgent id = .ok r := by rw [MergeState.getAgent, h]
      obtain ⟨hr, hon⟩ := Table.find?_some h
      exact .inr (.inr ⟨r, congrArg (·, s) hget, Table.exists?_iff.2 ⟨r, hr, hon⟩⟩)

variable {s id sf}

theorem exists_of_visible (h : s.hosts.exists? (MergeState.visible id sf)) : s.hosts.exists? (·.id = id) := by
  obtain ⟨r, hr, hvisible⟩ := Table.exists?_iff.1 h
  refine Table.exists?_iff.2 ⟨r, hr, ?_⟩
  unfold MergeState.visible at hvisible
  simp only [Bool.and_eq_true] at hvisible
  exact hvisible.1.1

/-- The statement fails for its fault, or it does what it should. -/
def Tried (q : MergeStmt) (fault : Option String) (s : MergeState) (a : q.Ans) (s' : MergeState) : Prop :=
  (∃ text e, fault = some text ∧ q.sem.run s = (.error e, s)) ∨ fault = none ∧ q.sem.run s = (.ok a, s')

theorem run_moveBinding {target : Int} (hne : source ≠ target) (htarget : s.hosts.exists? (·.id = target))
    (hany : s.bindings.any (·.hostID = source)) : Tried (.moveBinding source target fault) fault s () (s.moved source target) := by
  cases fault with
  | some text => exact .inl ⟨text, _, rfl, rfl⟩
  | none =>
    have hsource : (s.reg.agents.delete (MergeState.onHost target)).exists? (MergeState.onHost source) := by
      rw [MergeState.bindings_any] at hany
      obtain ⟨r, hr, hon⟩ := Table.exists?_iff.1 hany
      have hhost : r.hostID = source := of_decide_eq_true hon
      exact Table.exists?_iff.2 ⟨r, Table.mem_delete.2 ⟨hr, decide_eq_false (hhost ▸ hne)⟩, hon⟩
    have hrefs : references s.reg.db.hosts (some target) := by
      obtain ⟨r, hr, hid⟩ := Table.exists?_iff.1 htarget
      exact references_some_iff.2 ⟨r, hr, of_decide_eq_true hid⟩
    refine .inr ⟨rfl, stmt_ok_iff.2 ?_⟩
    rw [MergeState.moveBinding, if_pos hsource, if_pos hrefs]
    rfl

theorem run_updateFacts (facts : ReportedFacts) (hid : s.hosts.exists? (·.id = id)) :
    Tried (.updateFacts id facts fault) fault s () (s.updatedFacts id facts) := by
  cases fault with
  | some text => exact .inl ⟨text, _, rfl, rfl⟩
  | none => exact .inr ⟨rfl, stmt_ok_iff.2 (if_pos hid)⟩

theorem run_deleteHost (agentMoved : Bool) (hvisible : s.hosts.exists? (MergeState.visible id sf)) :
    Tried (.deleteHost id sf agentMoved fault) fault s () (s.deletedHost id) := by
  cases fault with
  | some text => exact .inl ⟨text, _, rfl, rfl⟩
  | none => exact .inr ⟨rfl, stmt_ok_iff.2 (if_pos hvisible)⟩

end Statements

theorem visible_targetHosts {id : Int} {sf : Filter} (target : Int) (agentMoved : Bool)
    (h : s₀.hosts.exists? (MergeState.visible id sf)) :
    (s₀.targetHosts target agentMoved).exists? (MergeState.visible id sf) := by
  cases agentMoved with
  | false => exact h
  | true =>
    obtain ⟨r, hr, hvisible⟩ := Table.exists?_iff.1 h
    refine Table.exists?_iff.2 ⟨_, Table.mem_update.2 ⟨r, hr, rfl⟩, ?_⟩
    split <;> exact hvisible

section Points

variable (hne : source ≠ c.targetID) (hsource : c.source? = some source)
include hsource

theorem guarded_deleteSource (hk : s₀.Kept s) (hvisible : s₀.hosts.exists? (MergeState.visible source (HostMerge.sf c)))
    (hnone : s₀.bindings.any (·.hostID = source) = false) : Guarded c s₀ (HostMerge.deleteSource c source false) s := by
  intro s' hs'
  have hk' := hk.trans hs'
  rw [← hk'.bindings] at hnone
  rcases run_deleteHost c.faults.delete false (hk'.hosts ▸ hvisible) with ⟨_, e, _, hrun⟩ | ⟨_, hrun⟩
  · exact ⟨_, _, hrun, .inl ⟨.inr rfl, fun _ => .inl, hk'⟩⟩
  · refine ⟨_, _, hrun, .inl ⟨.inr rfl, fun _ => .inl, source, hsource, ?_, hk'.facts, ?_, (hk'.bindings ▸ hnone).symm⟩⟩
    · show s'.hosts.delete _ = _
      rw [hk'.hosts]
      rfl
    · rw [bindings_deletedHost s' hnone, mergeBindings, ← hk'.bindings, if_neg (by rw [hnone]; simp)]

include hne

theorem guarded_deleteSource_carried (hhosts : s.hosts = s₀.targetHosts c.targetID true)
    (hfacts : s.facts = s₀.targetFacts source c.targetID true)
    (hbindings : s.bindings = mergeBindings source c.targetID s₀.bindings) (hany : s₀.bindings.any (·.hostID = source))
    (hvisible : s₀.hosts.exists? (MergeState.visible source (HostMerge.sf c))) :
    Guarded c s₀ (HostMerge.deleteSource c source true) s := by
  intro s' hs'
  have hthere := visible_targetHosts c.targetID true hvisible
  rw [← hhosts, ← hs'.hosts] at hthere
  have hmoved := hs'.bindings.trans hbindings
  rcases run_deleteHost c.faults.delete true hthere with ⟨text, e, hfault, hrun⟩ | ⟨hfault, hrun⟩
  · -- the binding has moved already
    refine ⟨_, _, hrun, .inr ⟨by simp [MergeStmt.Safe, hfault], .inr ⟨_, rfl, fun hkept => ?_⟩⟩⟩
    exact mergeBindings_ne hne hany (hmoved.symm.trans hkept.bindings)
  · have hnone : s'.bindings.any (·.hostID = source) = false := by
      rw [hmoved]
      exact mergeBindings_any hne hany
    refine ⟨_, _, hrun, .inl ⟨.inl hfault, fun _ => .inl, source, hsource, ?_, hs'.facts.trans hfacts,
      (bindings_deletedHost s' hnone).trans hmoved, hany.symm⟩⟩
    show s'.hosts.delete _ = _
    rw [hs'.hosts, hhosts]

variable {facts : ReportedFacts} (hseen : Seen c source s₀ facts)
include hseen

theorem guarded_carryFacts (hhosts : s.hosts = s₀.hosts) (hfacts : s.facts = s₀.facts)
    (hbindings : s.bindings = mergeBindings source c.targetID s₀.bindings) (hany : s₀.bindings.any (·.hostID = source)) :
    Guarded c s₀ (HostMerge.carryFacts c source facts) s := by
  intro s' hs'
  have hmoved := hs'.bindings.trans hbindings
  have htarget : s'.hosts.exists? (·.id = c.targetID) := by
    rw [hs'.hosts, hhosts]
    exact hseen.target
  rcases run_updateFacts c.faults.updateFacts facts htarget with ⟨text, e, hfault, hrun⟩ | ⟨hfault, hrun⟩
  · refine ⟨_, _, hrun, .inr ⟨by simp [MergeStmt.Safe, hfault], .inr ⟨_, rfl, fun hkept => ?_⟩⟩⟩
    exact mergeBindings_ne hne hany (hmoved.symm.trans hkept.bindings)
  · refine ⟨_, _, hrun, .inl ⟨hfault, fun _ => .inl, guarded_deleteSource_carried hne hsource ?_ ?_ hmoved hany hseen.visible⟩⟩
    · show s'.hosts.update _ _ = _
      rw [hs'.hosts, hhosts]
      rfl
    · show Function.update s'.facts c.targetID facts = _
      rw [hs'.facts, hfacts, hseen.facts]
      rfl

variable (hk : s₀.Kept s)
include hk

theorem guarded_moveAgent (hany : s₀.bindings.any (·.hostID = source)) :
    Guarded c s₀ (HostMerge.moveAgent c source facts) s := by
  intro s' hs'
  have hk' := hk.trans hs'
  rw [← hk'.bindings] at hany
  rcases run_moveBinding c.faults.moveBinding hne (hk'.hosts ▸ hseen.target) hany with ⟨text, e, hfault, hrun⟩ | ⟨hfault, hrun⟩
  · exact ⟨_, _, hrun, .inl ⟨by simp [MergeStmt.Safe, hfault], fun _ => .inl, hk'⟩⟩
  · rw [hfault] at hrun ⊢
    by_cases hoffline : ∀ r ∈ s'.reg.agents, r.hostID = c.targetID → r.status ≠ .online
    · refine ⟨_, _, hrun, .inl ⟨hoffline, fun a ha => (List.mem_append.1 ha).imp id fun ha => ?_, ?_⟩⟩
      · obtain ⟨hmem, hon⟩ := Table.mem_select.1 ha
        exact hoffline a hmem (of_decide_eq_true hon)
      · refine guarded_carryFacts hne hsource hseen hk'.hosts hk'.facts ?_ (hk'.bindings ▸ hany)
        rw [bindings_moved s' hany, hk'.bindings]
    · refine ⟨_, _, hrun, .inr ⟨hoffline, .inl ?_⟩⟩
      push Not at hoffline
      obtain ⟨r, hr, hhost, honline⟩ := hoffline
      exact ⟨r, List.mem_append_right _ (Table.mem_select.2 ⟨hr, decide_eq_true hhost⟩), honline⟩

theorem guarded_readSourceAgent : Guarded c s₀ (HostMerge.readSourceAgent c source facts) s := by
  intro s' hs'
  have hk' := hk.trans hs'
  rcases run_getAgent s' source c.faults.getSourceAgent with ⟨e, hrun, he⟩ | ⟨e, hrun, he, hnone⟩ | ⟨r, hrun, hany⟩
  · refine ⟨_, _, hrun, .inl ⟨trivial, fun _ => .inl, ?_⟩⟩
    show Guarded c s₀ (if isNotFound e "agent" then _ else _) s'
    rw [he]
    exact hk'
  · refine ⟨_, _, hrun, .inl ⟨trivial, fun _ => .inl, ?_⟩⟩
    show Guarded c s₀ (if isNotFound e "agent" then HostMerge.deleteSource c source false else _) s'
    rw [if_pos he]
    exact guarded_deleteSource hsource hk' hseen.visible (hk'.bindings ▸ hnone)
  · exact ⟨_, _, hrun, .inl ⟨trivial, fun _ => .inl, guarded_moveAgent hne hsource hseen hk' (hk'.bindings ▸ hany)⟩⟩

theorem guarded_readTargetAgent : Guarded c s₀ (HostMerge.readTargetAgent c source facts) s := by
  intro s' hs'
  have hk' := hk.trans hs'
  have hnext := guarded_readSourceAgent hne hsource hseen hk'
  rcases run_getAgent s' c.targetID c.faults.getTargetAgent with ⟨e, hrun, he⟩ | ⟨e, hrun, he, _⟩ | ⟨r, hrun, _⟩
  · refine ⟨_, _, hrun, .inl ⟨trivial, fun _ => .inl, ?_⟩⟩
    show Guarded c s₀ (if isNotFound e "agent" then _ else _) s'
    rw [he]
    exact hk'
  · refine ⟨_, _, hrun, .inl ⟨trivial, fun _ => .inl, ?_⟩⟩
    show Guarded c s₀ (if isNotFound e "agent" then HostMerge.readSourceAgent c source facts else _) s'
    rw [if_pos he]
    exact hnext
  · refine ⟨_, _, hrun, .inl ⟨trivial, fun _ => .inl, ?_⟩⟩
    show Guarded c s₀ (if r.status = .online then _ else HostMerge.readSourceAgent c source facts) s'
    split
    · exact hk'
    · exact hnext

omit hseen

theorem guarded_readBoth : Guarded c s₀ (HostMerge.readBoth c source) s := by
  intro s₁ hs₁
  have hk₁ := hk.trans hs₁
  rcases run_getHost s₁ c.targetID (HostMerge.sf c) c.faults.getTarget with ⟨e, hrun⟩ | ⟨t, hrun, htarget⟩
  · exact ⟨_, _, hrun, .inl ⟨trivial, fun _ => .inl, hk₁⟩⟩
  refine ⟨_, _, hrun, .inl ⟨trivial, fun _ => .inl, fun s₂ hs₂ => ?_⟩⟩
  have hk₂ := hk₁.trans hs₂
  rcases run_getHost s₂ source (HostMerge.sf c) c.faults.getSource with ⟨e, hrun⟩ | ⟨h, hrun, hvisible⟩
  · exact ⟨_, _, hrun, .inl ⟨trivial, fun _ => .inl, hk₂⟩⟩
  have hseen : Seen c source s₀ (s₂.facts source) :=
    ⟨hk₁.hosts ▸ exists_of_visible htarget, hk₂.hosts ▸ hvisible, congrFun hk₂.facts source⟩
  refine ⟨_, _, hrun, .inl ⟨trivial, fun _ => .inl, ?_⟩⟩
  show Guarded c s₀ (if HostMerge.sameScope h t then HostMerge.readTargetAgent c source (s₂.facts source) else _) s₂
  split
  · exact guarded_readTargetAgent hne hsource hseen hk₂
  · exact hk₂

end Points

end Merges

section Runs

variable {cfg : RegConfig} {c : MergeRequest} {s₀ : MergeState} {st : Pool MergeState mergeSig Err MergeAnswer}

/-- The merge is the first program, and the others are channels. -/
structure Running (c : MergeRequest) (s₀ : MergeState) (st : Pool MergeState mergeSig Err MergeAnswer) : Prop where
  merge : ∃ p, st.threads[0]? = some p ∧ Guarded c s₀ p st.store
  others : ∀ i p, st.threads[i + 1]? = some p → Channels p
  removed : ∀ r ∈ st.store.removed, r.status ≠ .online

theorem Running.allOrNothing (h : Running c s₀ st) : AllOrNothing c s₀ st := by
  refine (allOrNothing_iff_ended c s₀ st).2 ⟨h.removed, ?_⟩
  obtain ⟨p, hp, hguarded⟩ := h.merge
  intro r hr
  cases hp.symm.trans hr
  exact hguarded

theorem Running.step (h : Running c s₀ st) {e : Event MergeCall}
    (he : ∀ c', e ≠ .call (.merge c')) (hmeets : (mergeSystem cfg).Meets MergeStmt.Safe st e) :
    Running c s₀ ((mergeSystem cfg).step st e) := by
  obtain ⟨p, hp, hguarded⟩ := h.merge
  cases e with
  | call call =>
    have hlt := (List.getElem?_eq_some_iff.1 hp).1
    refine ⟨⟨p, ?_, hguarded⟩, ?_, h.removed⟩
    · rw [System.step, List.getElem?_append_left hlt]
      exact hp
    · intro i p' hp'
      rw [System.step, List.getElem?_append] at hp'
      split at hp'
      · exact h.others i p' hp'
      · rw [List.mem_singleton.1 (List.mem_of_getElem? hp')]
        exact channels_mergeProg cfg fun c' heq => he c' (congrArg Event.call heq)
  | step i =>
    rcases hthread : st.threads[i]? with _ | (r | ⟨q, next⟩)
    · simpa only [System.step, hthread] using h
    · simpa only [System.step, hthread] using h
    have hlt := (List.getElem?_eq_some_iff.1 hthread).1
    have hsafe := (System.meets_step _ MergeStmt.Safe hthread rfl).1 hmeets
    cases i with
    | zero =>
      cases hp.symm.trans hthread
      obtain ⟨r, s', hrun, ⟨_, hremoved, hnext⟩ | ⟨hno, _⟩⟩ := hguarded st.store (.refl _)
      · rw [System.step_of_run _ hthread rfl hrun]
        refine ⟨⟨_, List.getElem?_set_self hlt, hnext⟩, ?_, fun a ha => (hremoved a ha).elim (h.removed a) id⟩
        intro j p' hp'
        rw [List.getElem?_set_ne (by omega)] at hp'
        exact h.others j p' hp'
      · exact absurd hsafe hno
    | succ i =>
      obtain ⟨⟨q', rfl, hq'⟩, hnext⟩ := h.others i _ hthread
      obtain ⟨hdb, hbindings⟩ := kept_channel hq' st.store.reg
      rw [System.step_of_run _ hthread rfl rfl]
      refine ⟨⟨p, ?_, hguarded.of_kept ⟨congrArg DB.hosts hdb, rfl, hbindings⟩⟩, ?_, h.removed⟩
      · rw [List.getElem?_set_ne (by omega)]
        exact hp
      · intro j p' hp'
        by_cases hij : i = j
        · subst hij
          rw [List.getElem?_set_self hlt] at hp'
          cases hp'
          exact hnext _
        · rw [List.getElem?_set_ne (by omega)] at hp'
          exact h.others j p' hp'

theorem Running.meets (h : Running c s₀ st) {e : Event MergeCall}
    (hgood : AllOrNothing c s₀ ((mergeSystem cfg).step st e)) : (mergeSystem cfg).Meets MergeStmt.Safe st e := by
  cases e with
  | call call => exact System.meets_call _ _ st call
  | step i =>
    intro q hq
    obtain ⟨next, hthread, _⟩ := (System.executes?_step _).1 hq
    cases i with
    | zero =>
      obtain ⟨p, hp, hguarded⟩ := h.merge
      cases hp.symm.trans hthread
      obtain ⟨r, s', hrun, hsafe | ⟨_, hbreaks⟩⟩ := hguarded st.store (.refl _)
      · exact hsafe.1
      rw [System.step_of_run _ hthread rfl hrun, allOrNothing_iff_ended] at hgood
      rcases hbreaks with ⟨a, ha, honline⟩ | ⟨r', hnext, hended⟩
      · exact absurd honline (hgood.1 a ha)
      · refine absurd (hgood.2 r' ?_) hended
        rw [hnext]
        exact List.getElem?_set_self (List.getElem?_eq_some_iff.1 hthread).1
    | succ i =>
      obtain ⟨⟨q', rfl, _⟩, _⟩ := h.others i _ hthread
      trivial

def MergeRequest.called (c : MergeRequest) (reg : RegState) (facts : Int → ReportedFacts) :
    Pool MergeState mergeSig Err MergeAnswer := ⟨⟨reg, facts, []⟩, [HostMerge.merge c]⟩

theorem running_called (c : MergeRequest) (reg : RegState) (facts : Int → ReportedFacts) :
    Running c ⟨reg, facts, []⟩ (c.called reg facts) := by
  refine ⟨⟨_, rfl, ?_⟩, fun i p hp => (by cases hp), fun r hr => (by cases hr)⟩
  rcases merge_cases c with ⟨e, hmerge⟩ | ⟨source, hsource, hne, hmerge⟩
  · rw [hmerge]
    exact .refl _
  · rw [hmerge]
    exact guarded_readBoth hne hsource (.refl _)

/-- The merge is all or nothing, and no agent that it removed was online, exactly if every statement is
safe. -/
theorem all_or_nothing_iff (cfg : RegConfig) (reg : RegState) (facts : Int → ReportedFacts) (c : MergeRequest)
    (es : List (Event MergeCall)) (hes : ∀ e ∈ es, ∀ c', e ≠ .call (.merge c')) :
    (∀ st ∈ states (mergeSystem cfg).step (c.called reg facts) es, AllOrNothing c ⟨reg, facts, []⟩ st) ↔
      Along (mergeSystem cfg).step ((mergeSystem cfg).Meets MergeStmt.Safe) (c.called reg facts) es := by
  exact forall_states_iff_of_inv (fun _ h => h.allOrNothing) (fun _ _ h he hmeets => h.step he hmeets)
    (fun _ _ h _ hgood => h.meets hgood) (running_called c reg facts) hes

end Runs

/-! Two hosts of one machine, whose agents are offline. -/

def nodeFacts : ReportedFacts := ⟨⟨"node", "linux", "amd64", 4, 8192, 100, "10.0.0.1"⟩, by decide +kernel⟩

def nodeRow (name : String) : HostRow :=
  CreateAgentHostParams.row ⟨name, nodeFacts.1, ⟨.platform, none, none, chkScope_platform⟩, none⟩

def nodeAgent (hostID : Int) (agentID : String) : HostAgentRow :=
  .fresh hostID agentID "1.0.0" ⟨"8c1e4d56-f7c1-65c9-b323-12015fb893e2", "image-1", [], "dmi", none⟩

def twoNodes : RegState :=
  .init { DB.empty with hosts := (Table.empty.insert (nodeRow "node")).insert (nodeRow "node-8c1e4d") }
    ((Table.empty.insert (nodeAgent 1 "11111111-1111-1111-1111-111111111111")).insert
      (nodeAgent 2 "22222222-2222-2222-2222-222222222222")) 0

def mergeSecond (faults : MergeFaults) : MergeRequest := ⟨1, "2", 0, 0, faults⟩

def mergeSteps (n : Nat) : List (Event MergeCall) := List.replicate n (.step 0)

theorem second_node_merged :
    (run (mergeSystem plainConfig).step ((mergeSecond .none).called twoNodes fun _ => nodeFacts) (mergeSteps 7)).store.bindings =
        [⟨2, 1, "22222222-2222-2222-2222-222222222222", 1⟩] ∧
      AllOrNothing (mergeSecond .none) ⟨twoNodes, fun _ => nodeFacts, []⟩
        (run (mergeSystem plainConfig).step ((mergeSecond .none).called twoNodes fun _ => nodeFacts) (mergeSteps 7)) :=
  ⟨by decide, (all_or_nothing_iff plainConfig twoNodes (fun _ => nodeFacts) (mergeSecond .none) (mergeSteps 7)
    (fun e he c' heq => by cases heq; cases List.eq_of_mem_replicate he)).2 (by decide) _ (run_mem_states _ _ _)⟩

def ended? (p : MergeM MergeAnswer) : Option (Except Err MergeAnswer) :=
  match p with
  | .done r => some r
  | .exec _ _ => none

theorem eq_done_of_ended? {p : MergeM MergeAnswer} {r : Except Err MergeAnswer} (h : ended? p = some r) : p = .done r := by
  cases p with
  | done r' => rw [Option.some.inj h]
  | exec q next => cases h

def factsFail : MergeRequest := mergeSecond { MergeFaults.none with updateFacts := some "connection reset" }

def connectsToo : List (Event MergeCall) :=
  mergeSteps 3 ++ [.call (.connect ⟨"11111111-1111-1111-1111-111111111111", 1, ⟨⟨"1.0.0", "boot-1", 0,
    ⟨"image-1", "8c1e4d56-f7c1-65c9-b323-12015fb893e2", [], 0⟩⟩, "instance-1", 0, 0⟩⟩), .step 1, .step 1, .step 1] ++ mergeSteps 2

theorem merge_half_done :
    ¬ AllOrNothing factsFail ⟨twoNodes, fun _ => nodeFacts, []⟩
        (run (mergeSystem plainConfig).step (factsFail.called twoNodes fun _ => nodeFacts) (mergeSteps 6)) ∧
      ¬ AllOrNothing (mergeSecond .none) ⟨twoNodes, fun _ => nodeFacts, []⟩
        (run (mergeSystem plainConfig).step ((mergeSecond .none).called twoNodes fun _ => nodeFacts) connectsToo) := by
  constructor
  · intro h
    have hended : ((run (mergeSystem plainConfig).step (factsFail.called twoNodes fun _ => nodeFacts) (mergeSteps 6)).threads[0]?.bind
        ended?) = some (.error (.plain "update agent host facts: connection reset")) := by decide
    obtain ⟨p, hp, hdone⟩ := Option.bind_eq_some_iff.1 hended
    have hkept := h.2 _ (hp.trans (congrArg some (eq_done_of_ended? hdone)))
    exact absurd hkept.bindings (by decide)
  · intro h
    exact absurd h.1 (by decide +kernel)

end Vraxel.Compute
