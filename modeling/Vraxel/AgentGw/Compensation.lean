import Vraxel.Lib.Faults
import Vraxel.Go.Json
import Vraxel.AgentGw.RegisterSteps
/-
  What a refused registration leaves behind (`pkg/apis/agentgw/register.go`). When a later write
  fails, `undoRegistration` deletes the host that was created and refunds the use of the token.
-/

namespace Vraxel.AgentGw

open Relational Api Db Txn Interleave Prog

structure TokenSigner where
  sign : String → List UInt8

def agentTokenPrefix : String := "vra1"

/-- The fields of `AgentClaims`, with the second at which the token is issued. -/
def AgentClaims.toJson (c : AgentClaims) (issuedAtUnix : Int) : Json.Value :=
  Json.struct [⟨"aid", .str c.agentID.toUTF8.toList, false⟩, ⟨"hid", .int c.hostID, false⟩,
    ⟨"ver", .int c.tokenVersion, false⟩, ⟨"iat", .int issuedAtUnix, false⟩]

variable (signer : TokenSigner)

def TokenSigner.issue (issuedAtUnix : Int) (claims : AgentClaims) : Except Err String :=
  match Json.marshal (claims.toJson issuedAtUnix) with
  | .error e => .error (.plain ("marshal agent claims: " ++ e))
  | .ok payload =>
    let body := Base64.rawURLEncode payload
    .ok (agentTokenPrefix ++ "." ++ body ++ "." ++ Base64.rawURLEncode (signer.sign body))

def TokenSigner.config (hashToken : String → String) (digest64 : String → Nat)
    (issuedAtUnix : Int) : RegConfig := ⟨hashToken, digest64, signer.issue issuedAtUnix⟩

theorem issue_ok (issuedAtUnix : Int) (claims : AgentClaims) :
    ∃ agentToken, signer.issue issuedAtUnix claims = .ok agentToken := by
  have hmarshal : Json.marshal (claims.toJson issuedAtUnix) = .ok (claims.toJson issuedAtUnix).encode :=
    Json.marshal_ok_iff.2 ⟨rfl, rfl⟩
  exact ⟨_, rfl⟩

/-! Between the first write and the answer. -/

/-- The constraints of the tables that a registration relies on. -/
structure RegState.Sound (s : RegState) : Prop where
  tokenHash : ∀ t ∈ s.db.joinTokens, ∀ t' ∈ s.db.joinTokens, t.tokenHash = t'.tokenHash → t = t'
  usedCount : ∀ t ∈ s.db.joinTokens, 0 ≤ t.usedCount
  targetHostID : ∀ t ∈ s.db.joinTokens, ∀ id, t.targetHostID = some id → ∃ h ∈ s.db.hosts, h.id = id
  hostID : ∀ r ∈ s.agents, ∃ h ∈ s.db.hosts, h.id = r.hostID

def RegState.hostIDs (s : RegState) : List Int := s.db.hosts.rows.map (·.id)

/-- The join tokens are `tokens`, the hosts of `new` were added, and nothing else has changed. -/
structure Reached (s₀ : RegState) (tokens : Table JoinTokenRow) (new : List Int) (s : RegState) : Prop where
  tokens : s.db.joinTokens = tokens
  hosts : s.hostIDs = s₀.hostIDs ++ new
  agents : s.agents = s₀.agents

/-- The use is back, no host that was created remains, and no agent has changed. -/
abbrev Undone (s₀ : RegState) : RegState → Prop := Reached s₀ s₀.db.joinTokens []

def RegState.used (s₀ : RegState) (t : JoinTokenRow) : Table JoinTokenRow :=
  s₀.db.joinTokens.update (·.id = t.id) JoinTokenRow.consume

/-- The statements that are assumed not to fail: the compensating ones, and the numbering of requests. -/
def RegStmt.safe : RegStmt → Bool
  | .newRequest | .deleteAgentHost _ | .refund _ _ => true
  | _ => false

section Statements

variable {s₀ : RegState} {tokens : Table JoinTokenRow} {new : List Int} {s : RegState}

theorem Reached.of_placed {s' : RegState} (h : Reached s₀ tokens new s) (hp : Placed s s')
    (htokens : s'.db.joinTokens = s.db.joinTokens) (hagents : s'.agents = s.agents) : Reached s₀ tokens new s' := by
  obtain ⟨g, hrows, hg⟩ := hp.hosts
  refine ⟨htokens.trans h.tokens, ?_, hagents.trans h.agents⟩
  have hids : s'.hostIDs = s.hostIDs := by
    rw [RegState.hostIDs, hrows, List.map_map]
    exact List.map_congr_left fun r _ => (hg r).1
  rw [hids, h.hosts]

theorem reached_createAgentHost (p : CreateAgentHostParams) (h : Reached s₀ tokens [] s) :
    (∃ e, (RegStmt.createAgentHost p).sem.result s = .error e ∧
      Reached s₀ tokens [] ((RegStmt.createAgentHost p).sem.exec s)) ∨
      ∃ id : Int, (RegStmt.createAgentHost p).sem.result s = .ok id ∧ 0 < id ∧ id ∉ s₀.hostIDs ∧
        Reached s₀ tokens [id] ((RegStmt.createAgentHost p).sem.exec s) := by
  rcases createAgentHost_cases s p with ⟨e, hresult, hexec⟩ | ⟨hresult, hexec⟩
  · rw [hexec]
    exact .inl ⟨e, hresult, h⟩
  · have hids : s.hostIDs = s₀.hostIDs := by rw [h.hosts, List.append_nil]
    refine .inr ⟨s.db.hosts.next, hresult, s.db.hosts.pos, ?_, ?_⟩
    · rw [← hids, RegState.hostIDs, List.mem_map]
      rintro ⟨r, hr, hid⟩
      exact Table.key_ne_next hr hid
    · rw [hexec]
      refine ⟨h.tokens, ?_, h.agents⟩
      show (s.db.hosts.rows ++ [_]).map HostRow.id = _
      rw [List.map_append, ← hids]
      rfl

theorem reached_deleteAgentHost (hs₀ : s₀.Sound) {t : JoinTokenRow} {id : Int} (hid : id ∉ s₀.hostIDs)
    (h : Reached s₀ (s₀.used t) [id] s) : Reached s₀ (s₀.used t) [] ((RegStmt.deleteAgentHost id).sem.exec s) := by
  have hnone : ∀ id', (∃ w ∈ s₀.db.hosts, w.id = id') → id' ≠ id := by
    rintro id' ⟨w, hw, rfl⟩ heq
    exact hid (heq ▸ List.mem_map_of_mem (f := HostRow.id) hw)
  have hmem : id ∈ s.hostIDs := by
    rw [h.hosts]
    simp
  have hunbound : s.bound id = false := by
    rw [RegState.bound, Table.exists?_eq_false, h.agents]
    intro r hr
    exact decide_eq_false (hnone _ (hs₀.hostID r hr))
  have hkept : s.db.joinTokens.delete (·.targetHostID = some id) = s.db.joinTokens := by
    apply Table.delete_eq_self
    rw [h.tokens]
    intro r hr
    obtain ⟨u, hu, rfl⟩ := Table.mem_update.1 hr
    have htarget : ∀ id', u.targetHostID = some id' → id' ≠ id := fun id' hu' => hnone id' (hs₀.targetHostID u hu id' hu')
    apply decide_eq_false
    split
    · exact fun heq => htarget id heq rfl
    · exact fun heq => htarget id heq rfl
  rcases deleteAgentHost_cases s id with ⟨hbound, -⟩ | ⟨-, hexec⟩
  · obtain ⟨w, hw, rfl⟩ := List.mem_map.1 hmem
    have hsome : s.db.hosts.get? w.id = some w := Table.get?_eq_some_iff.2 ⟨hw, rfl⟩
    rw [hunbound, hsome] at hbound
    exact absurd (hbound rfl) (by decide)
  · rw [hexec]
    refine ⟨hkept.trans h.tokens, ?_, h.agents⟩
    show ((s.db.hosts.rows.filter fun w => !decide (w.id = id)).map (·.id)) = _
    have hfilter : (s.db.hosts.rows.filter fun w => !decide (w.id = id)).map (·.id) =
        s.hostIDs.filter fun i => !decide (i = id) := by
      rw [RegState.hostIDs, List.filter_map]
      rfl
    rw [hfilter, h.hosts, List.filter_append, List.filter_eq_self.2]
    · simp
    · intro i hi
      simpa using fun heq : i = id => hid (heq ▸ hi)

theorem reached_consume (hs₀ : s₀.Sound) (req : Nat) (tokenHash : String) (h : Undone s₀ s) :
    (∃ e, (RegStmt.consume req tokenHash).sem.result s = .error e ∧
      Undone s₀ ((RegStmt.consume req tokenHash).sem.exec s)) ∨
      ∃ t ∈ s₀.db.joinTokens, (RegStmt.consume req tokenHash).sem.result s = .ok t.consume ∧
        Reached s₀ (s₀.used t) [] ((RegStmt.consume req tokenHash).sem.exec s) := by
  rcases consume_cases s req tokenHash with ⟨e, hresult, hexec⟩ | ⟨t, ht, hlive, hresult, hexec⟩
  · rw [hexec]
    exact .inl ⟨e, hresult, h⟩
  · rw [h.tokens] at ht
    refine .inr ⟨t, ht, hresult, ?_⟩
    rw [hexec]
    refine ⟨?_, h.hosts, h.agents⟩
    show s.db.joinTokens.update _ _ = _
    rw [h.tokens]
    apply Table.update_congr
    intro r hr
    by_cases hid : r.id = t.id
    · rw [Table.eq_of_key_eq _ hr ht hid, hlive]
      exact (decide_eq_true rfl).symm
    · rw [decide_eq_false hid]
      apply decide_eq_false
      rintro ⟨hhash, -⟩
      have hhash' : t.tokenHash = tokenHash := (of_decide_eq_true hlive).1
      exact hid (congrArg JoinTokenRow.id (hs₀.tokenHash r hr t ht (hhash.trans hhash'.symm)))

theorem reached_refund (hs₀ : s₀.Sound) (req : Nat) {t : JoinTokenRow} (h : Reached s₀ (s₀.used t) [] s) :
    Undone s₀ ((RegStmt.refund req t.consume.id).sem.exec s) := by
  refine ⟨?_, h.hosts, h.agents⟩
  show s.db.joinTokens.update _ _ = _
  rw [h.tokens]
  refine Table.eq_of_rows ?_ rfl
  show (s₀.db.joinTokens.rows.map _).map _ = _
  rw [List.map_map]
  apply (List.map_congr_left _).trans (List.map_id _)
  intro r hr
  have hused := hs₀.usedCount r hr
  by_cases hid : r.id = t.id
  · have hrefundable : JoinTokenRow.refundable t.consume.id (withKey r.consume (key r)) = true := decide_eq_true ⟨hid, by
      show 0 < r.usedCount + 1
      omega⟩
    simp only [Function.comp, decide_eq_true hid, if_true, hrefundable]
    show ({ r with usedCount := r.usedCount + 1 - 1 } : JoinTokenRow) = r
    rw [Int.add_sub_cancel]
  · have hnot : JoinTokenRow.refundable t.consume.id r = false := decide_eq_false fun hr' => hid hr'.1
    simp only [Function.comp, decide_eq_false hid, Bool.false_eq_true, if_false, hnot]
    rfl

theorem reached_bind (req : Nat) (token : JoinTokenRow) (input : BindInput) (freshID : String) (h : Reached s₀ tokens new s) :
    (∃ row, (RegStmt.bind req token input freshID).sem.result s = .ok row) ∨
      ∃ e, (RegStmt.bind req token input freshID).sem.result s = .error e ∧
        Reached s₀ tokens new ((RegStmt.bind req token input freshID).sem.exec s) := by
  rcases bind_cases s req token input freshID with ⟨e, hresult, hexec⟩ | ⟨row, hresult, -⟩ | ⟨row, hresult, -⟩
  · rw [hexec]
    exact .inr ⟨e, hresult, h⟩
  · exact .inl ⟨row, hresult⟩
  · exact .inl ⟨row, hresult⟩

theorem reached_updateFacts (hostID : Int) (facts : AgentHostFacts) (h : Reached s₀ tokens new s) :
    Reached s₀ tokens new ((RegStmt.updateFacts hostID facts).sem.exec s) := by
  refine h.of_placed (placed_updateFacts s hostID facts) ?_ ?_
  · rw [exec_updateFacts, updateAgentHostFacts, Slot.exec_update]
    split
    · rfl
    · rfl
  · rw [exec_updateFacts]

end Statements

section Programs

variable {s₀ : RegState} (cfg : RegConfig)

/-- The registrar is through: it has created one host, or none. -/
def HostReady (s₀ : RegState) (tokens : Table JoinTokenRow) : Except Err (Int × Bool) → RegState → Prop
  | .ok (hostID, true), s => 0 < hostID ∧ hostID ∉ s₀.hostIDs ∧ Reached s₀ tokens [hostID] s
  | _, s => Reached s₀ tokens [] s

theorem ends_createFirst {tokens : Table JoinTokenRow} (spec : AgentHostSpec) (base : String) (names : List String) :
    Ends RegStmt.safe RegStmt.sem (Reg.createFirst spec base names) (Reached s₀ tokens []) (HostReady s₀ tokens) := by
  induction names with
  | nil => exact ends_done fun s hs => hs
  | cons name names ih =>
    refine Ends.attempt_bind (R := fun r s => HostReady s₀ tokens (r.map (·, true)) s) (ends_ask ?_ fun _ _ _ hs => hs) ?_
    · intro s hs
      rcases reached_createAgentHost _ hs with ⟨e, hresult, hreached⟩ | ⟨id, hresult, hready⟩
      · rw [hresult]
        exact hreached
      · rw [hresult]
        exact hready
    · intro r
      cases r with
      | ok id => exact ends_done fun s hs => hs
      | error e =>
        dsimp only
        split
        · exact ih
        · exact ends_done fun s hs => hs

theorem ends_registerAgentHost {tokens : Table JoinTokenRow} (spec : AgentHostSpec) :
    Ends RegStmt.safe RegStmt.sem (Reg.registerAgentHost cfg spec) (Reached s₀ tokens []) (HostReady s₀ tokens) := by
  have hcreate : Ends RegStmt.safe RegStmt.sem (Reg.createHost cfg spec) (Reached s₀ tokens []) (HostReady s₀ tokens) :=
    ends_createFirst spec _ _
  have hupdate : Ends RegStmt.safe RegStmt.sem (Reg.updateHost cfg spec) (Reached s₀ tokens []) (HostReady s₀ tokens) := by
    refine Ends.attempt_bind (R := fun _ => Reached s₀ tokens [])
      (ends_ask (fun s hs => reached_updateFacts _ _ hs) fun _ _ _ hs => hs) fun r => ?_
    cases r with
    | ok _ => exact ends_done fun s hs => hs
    | error e =>
      dsimp only
      split
      · exact hcreate
      · exact ends_done fun s hs => hs
  rw [Reg.registerAgentHost]
  split
  · refine Ends.attempt_bind (R := fun _ => Reached s₀ tokens []) (ends_ask (fun s hs => hs) fun _ _ _ hs => hs) fun r => ?_
    cases r with
    | ok cur =>
      dsimp only [Reg.claimHost]
      split
      · exact hupdate
      · exact ends_done fun s hs => hs
    | error e =>
      dsimp only
      split
      · exact hcreate
      · exact ends_done fun s hs => hs
  · exact hcreate

variable (call : RegisterCall) (req : Nat) {t : JoinTokenRow}

/-- A refusal leaves nothing behind. -/
def RefusedUndone (s₀ : RegState) (r : Except Err Outcome) (s : RegState) : Prop :=
  ∃ answer, r = .ok answer ∧ ∀ status message, answer = .refused status message → Undone s₀ s

theorem ends_refuse {status : Nat} {message : String} :
    Ends RegStmt.safe RegStmt.sem (pure (.refused status message) : Reg.RegM Outcome) (Undone s₀) (RefusedUndone s₀) :=
  ends_done fun _ hs => ⟨_, rfl, fun _ _ _ => hs⟩

theorem ends_refundUse (hs₀ : s₀.Sound) (answer : Outcome) :
    Ends RegStmt.safe RegStmt.sem (Reg.refundUse req t.consume answer) (Reached s₀ (s₀.used t) []) (RefusedUndone s₀) := by
  refine Ends.attempt_bind (R := fun _ => Undone s₀)
    (ends_ask (fun s hs => reached_refund hs₀ req hs) fun hsafe => by cases hsafe) fun r => ?_
  exact ends_done fun s hs => ⟨answer, rfl, fun _ _ _ => hs⟩

theorem ends_undoRegistration (hs₀ : s₀.Sound) {hostID : Int} {hostCreated : Bool} (answer : Outcome) :
    Ends RegStmt.safe RegStmt.sem (Reg.undoRegistration req t.consume hostID hostCreated answer)
      (HostReady s₀ (s₀.used t) (.ok (hostID, hostCreated))) (RefusedUndone s₀) := by
  cases hostCreated with
  | false =>
    exact ends_refundUse req hs₀ answer
  | true =>
    intro s hs
    have hpos : 0 < hostID := hs.1
    rw [Reg.undoRegistration, if_pos ⟨rfl, hpos⟩]
    refine Ends.attempt_bind (I := HostReady s₀ (s₀.used t) (.ok (hostID, true)))
      (R := fun _ => Reached s₀ (s₀.used t) [])
      (ends_ask (fun s hs => reached_deleteAgentHost hs₀ hs.2.1 hs.2.2) fun hsafe => by cases hsafe)
      (fun _ => ends_refundUse req hs₀ answer) s hs

variable (hissue : ∀ claims, ∃ agentToken, cfg.issue claims = .ok agentToken)
include hissue

theorem ends_bindDone (token : JoinTokenRow) (hostID : Int) (row : HostAgentRow) :
    Ends RegStmt.safe RegStmt.sem (Reg.bindDone cfg token hostID row) (fun _ => True) (RefusedUndone s₀) := by
  obtain ⟨agentToken, htoken⟩ := hissue ⟨row.agentID, hostID, row.tokenVersion⟩
  rw [Reg.bindDone, htoken]
  refine Ends.attempt_bind (R := fun _ _ => True) (ends_ask (fun _ _ => trivial) fun _ _ _ _ => trivial) fun r => ?_
  exact ends_done fun s _ => ⟨_, rfl, fun _ _ h => by cases h⟩

variable (hs₀ : s₀.Sound)

include hs₀

theorem ends_hostReady (m : MatchOutcome) (hostID : Int) (hostCreated : Bool) :
    Ends RegStmt.safe RegStmt.sem (Reg.hostReady cfg call req m t.consume hostID hostCreated)
      (HostReady s₀ (s₀.used t) (.ok (hostID, hostCreated))) (RefusedUndone s₀) := by
  refine Ends.attempt_bind
    (R := fun r s => (∃ row, r = .ok row) ∨ HostReady s₀ (s₀.used t) (.ok (hostID, hostCreated)) s)
    (ends_ask ?_ fun _ _ _ hs => .inr hs) ?_
  · intro s hs
    cases hostCreated with
    | false =>
      rcases reached_bind req _ _ _ hs with hok | ⟨e, -, hreached⟩
      · exact .inl hok
      · exact .inr hreached
    | true =>
      rcases reached_bind req _ _ _ hs.2.2 with hok | ⟨e, -, hreached⟩
      · exact .inl hok
      · exact .inr ⟨hs.1, hs.2.1, hreached⟩
  · intro r
    cases r with
    | ok row => exact fun s _ => ends_bindDone cfg hissue _ hostID row s trivial
    | error e => exact fun s hs => ends_undoRegistration req hs₀ _ s (hs.resolve_left fun ⟨_, h⟩ => by cases h)

theorem ends_registerHost (m : MatchOutcome) (existingHostID : Int) :
    Ends RegStmt.safe RegStmt.sem (Reg.registerHost cfg call req m t.consume existingHostID)
      (Reached s₀ (s₀.used t) []) (RefusedUndone s₀) := by
  refine Ends.attempt_bind (ends_registerAgentHost cfg _) fun r => ?_
  rcases r with e | ⟨hostID, hostCreated⟩
  · exact ends_undoRegistration req hs₀ _
  · exact ends_hostReady cfg call req hissue hs₀ m hostID hostCreated

theorem ends_claimed (m : MatchOutcome) :
    Ends RegStmt.safe RegStmt.sem (Reg.claimed cfg call req m t.consume) (Reached s₀ (s₀.used t) []) (RefusedUndone s₀) := by
  have hregister := fun existingHostID => ends_registerHost (t := t) cfg call req hissue hs₀ m existingHostID
  rw [Reg.claimed]
  split
  · exact hregister _
  · split
    · exact hregister _
    · split
      · exact ends_undoRegistration req hs₀ _
      · exact hregister _

theorem ends_claimUse (tokenHash : String) (m : MatchOutcome) :
    Ends RegStmt.safe RegStmt.sem (Reg.claimUse cfg call req tokenHash m) (Undone s₀) (RefusedUndone s₀) := by
  refine Ends.attempt_bind
    (R := fun r s => (∃ t, r = .ok (t : JoinTokenRow).consume ∧ Reached s₀ (s₀.used t) [] s) ∨
      (∃ e, r = .error e) ∧ Undone s₀ s) (ends_ask ?_ fun _ e _ hs => .inr ⟨⟨e, rfl⟩, hs⟩) ?_
  · intro s hs
    rcases reached_consume hs₀ req tokenHash hs with ⟨e, hresult, hreached⟩ | ⟨t, -, hresult, hreached⟩
    · exact .inr ⟨⟨e, hresult⟩, hreached⟩
    · exact .inl ⟨t, hresult, hreached⟩
  · intro r s hs
    rcases hs with ⟨t, rfl, hreached⟩ | ⟨⟨e, rfl⟩, hundone⟩
    · exact ends_claimed cfg call req hissue hs₀ m s hreached
    · dsimp only [Reg.tokenRefused]
      split
      · exact ends_refuse s hundone
      · exact ends_refuse s hundone

theorem ends_matched (tokenHash : String) (m : MatchOutcome) :
    Ends RegStmt.safe RegStmt.sem (Reg.matched cfg call req tokenHash m) (Undone s₀) (RefusedUndone s₀) := by
  rw [Reg.matched]
  split
  · exact ends_claimUse cfg call req hissue hs₀ tokenHash m
  · refine Ends.attempt_bind (R := fun _ => Undone s₀) (ends_ask ?_ fun _ _ _ hs => hs) fun r => ?_
    · intro s hs
      rcases getByAgentID_cases s req m.agentID with ⟨e, -, hexec⟩ | ⟨row, -, -, -, hexec⟩
      · rw [hexec]
        exact hs
      · rw [hexec]
        exact ⟨hs.tokens, hs.hosts, hs.agents⟩
    · cases r with
      | error e => exact ends_refuse
      | ok prev =>
        dsimp only [Reg.liveAgent]
        split
        · exact ends_refuse
        · exact ends_claimUse cfg call req hissue hs₀ tokenHash m

theorem ends_handleRegister :
    Ends RegStmt.safe RegStmt.sem (Reg.handleRegister cfg call) (Undone s₀) (RefusedUndone s₀) := by
  have hlookUp : ∀ req tokenHash,
      Ends RegStmt.safe RegStmt.sem (Reg.lookUp cfg call req tokenHash) (Undone s₀) (RefusedUndone s₀) := by
    intro req tokenHash
    rw [Reg.lookUp]
    split
    · exact ends_matched cfg call req hissue hs₀ tokenHash _
    · refine Ends.attempt_bind (R := fun _ => Undone s₀)
        (ends_ask (fun s hs => ⟨hs.tokens, hs.hosts, hs.agents⟩) fun _ _ _ hs => hs) fun r => ?_
      cases r with
      | error e => exact ends_refuse
      | ok candidates => exact ends_matched cfg call req hissue hs₀ tokenHash _
  rw [Reg.handleRegister]
  split
  · exact ends_refuse
  · rw [Reg.decoded]
    split
    · exact ends_refuse
    · split
      · exact ends_refuse
      · refine Ends.bind (R := fun r s => (∃ n, r = .ok n) ∧ Undone s₀ s)
          (ends_ask (fun s hs => ⟨⟨_, rfl⟩, hs.tokens, hs.hosts, hs.agents⟩) fun hsafe => by cases hsafe) ?_ ?_
        · intro req
          refine Ends.attempt_bind (R := fun _ => Undone s₀) (ends_ask (fun s hs => hs.2) fun _ _ _ hs => hs.2) fun r => ?_
          cases r with
          | error e =>
            dsimp only [Reg.tokenRefused]
            split
            · exact ends_refuse
            · exact ends_refuse
          | ok token => exact hlookUp req _
        · rintro e s ⟨⟨n, hn⟩, -⟩
          cases hn

end Programs

/-- A request that is answered with an error, wherever it has failed, leaves the uses of every join
token, the agents and the hosts as before. -/
theorem refused_registration_undone (signer : TokenSigner) (hashToken : String → String) (digest64 : String → Nat)
    (issuedAtUnix : Int) (call : RegisterCall) (s : RegState) (hs : s.Sound) (faults : List (Option Err))
    (status : Nat) (message : String) (s' : Faulty RegState Err)
    (hrun : ((Reg.handleRegister (signer.config hashToken digest64 issuedAtUnix) call).faultyBut RegStmt.safe
      RegStmt.sem).run (s, faults) = (.ok (.refused status message), s')) :
    s'.1.db.joinTokens = s.db.joinTokens ∧ s'.1.hostIDs = s.hostIDs ∧ s'.1.agents = s.agents := by
  have hends := ends_handleRegister (signer.config hashToken digest64 issuedAtUnix) call
    (issue_ok signer issuedAtUnix) hs (s, faults) ⟨rfl, (List.append_nil _).symm, rfl⟩
  rw [M.result, M.exec, hrun] at hends
  obtain ⟨answer, hanswer, hundone⟩ := hends
  cases hanswer
  obtain ⟨htokens, hhosts, hagents⟩ := hundone status message rfl
  exact ⟨htokens, hhosts.trans (List.append_nil _), hagents⟩

def bindFails : RegState × List (Option Err) :=
  (.init { DB.empty with joinTokens := joinTokens 1 } .empty 0, [none, none, none, none, some (.plain "timeout")])

def bindFailing : M (Faulty RegState Err) Err Outcome :=
  (Reg.handleRegister ((TokenSigner.mk fun _ => []).config ("sha256:" ++ ·) (fun _ => 81985529216486895) 0)
    ⟨some "any", ⟨"image-1", ⟨"node-1", "linux", "amd64", 4, 8192, 100, "10.0.0.1"⟩, "1.0.0",
      ⟨"image-1", "8c1e4d56-f7c1-65c9-b323-12015fb893e2", [], 0⟩⟩, 0, "11111111-1111-1111-1111-111111111111"⟩).faultyBut
        RegStmt.safe RegStmt.sem

theorem bindFails_sound : bindFails.1.Sound where
  tokenHash := show ∀ t ∈ (joinTokens 1).rows, ∀ t' ∈ (joinTokens 1).rows, t.tokenHash = t'.tokenHash → t = t' by decide
  usedCount := show ∀ t ∈ (joinTokens 1).rows, 0 ≤ t.usedCount by decide
  targetHostID := by
    intro t ht id hid
    have hnone : ∀ t ∈ (joinTokens 1).rows, t.targetHostID = none := by decide
    rw [hnone t ht] at hid
    cases hid
  hostID := fun r hr => absurd hr (Table.not_mem_empty r)

/-- Its host is created and deleted again, and the use comes back. -/
theorem failed_bind_undone :
    bindFailing.result bindFails = .ok (.refused 500 "persist agent") ∧ (bindFailing.exec bindFails).1.created = [1] ∧
      (bindFailing.exec bindFails).1.db.joinTokens = bindFails.1.db.joinTokens ∧
        (bindFailing.exec bindFails).1.hostIDs = bindFails.1.hostIDs ∧
          (bindFailing.exec bindFails).1.agents = bindFails.1.agents :=
  have hresult : bindFailing.result bindFails = .ok (.refused 500 "persist agent") := by decide +kernel
  ⟨hresult, by decide +kernel,
    refused_registration_undone _ _ _ _ _ _ bindFails_sound _ _ _ _ (Prod.ext hresult rfl)⟩

end Vraxel.AgentGw
