import Vraxel.AgentGw.RegisterProtocol
import Vraxel.AgentGw.RegisterSteps
/-
  The uses of a join token. A registration takes a use before it does anything else, and gives it
  back where it fails later on (`undoRegistration`).
-/

namespace Vraxel.AgentGw

open Relational Api Db Txn Interleave Protocol Transition

def RegState.holders (s : RegState) (tokenID : Int) : Nat := s.held.countP (·.2 = tokenID)

def RegStmt.accounts : RegStmt → Bool
  | .newRequest | .consume _ _ | .refund _ _ => true
  | _ => false

structure Accounted (s : RegState) : Prop where
  known : ∀ p ∈ s.held, p.1 < s.requests
  within : ∀ t ∈ s.db.joinTokens, 0 ≤ t.usedCount ∧ t.usedCount ≤ t.maxUses ∧ (s.holders t.id : Int) ≤ t.usedCount

/-- A request holds what its phase says. -/
def HoldsToken (s : RegState) (k : Phase) : Prop :=
  ∀ n, k.req = some n → n < s.requests ∧ ∀ id, (n, id) ∈ s.held ↔ k.token.map (·.id) = some id

/-! The other statements. -/

/-- Nothing is counted, and no token has other uses than before. -/
structure SameUses (s s' : RegState) : Prop where
  requests : s'.requests = s.requests
  held : s'.held = s.held
  tokens : ∀ t' ∈ s'.db.joinTokens, ∃ t ∈ s.db.joinTokens,
    t'.id = t.id ∧ t'.usedCount = t.usedCount ∧ t'.maxUses = t.maxUses

theorem SameUses.of_eq {s s' : RegState} (hrequests : s'.requests = s.requests) (hheld : s'.held = s.held)
    (htokens : s'.db.joinTokens = s.db.joinTokens) : SameUses s s' :=
  ⟨hrequests, hheld, fun t ht => ⟨t, htokens ▸ ht, rfl, rfl, rfl⟩⟩

theorem sameUses_bindTarget (s : RegState) (tokenID hostID : Int) :
    SameUses s ((RegStmt.bindTarget tokenID hostID).sem.exec s) := by
  rw [exec_bindTarget, bindHostAgentJoinTokenTarget, Slot.exec_update]
  split
  · refine ⟨rfl, rfl, ?_⟩
    intro t' ht'
    obtain ⟨t, ht, rfl⟩ := Table.mem_update.1 ht'
    refine ⟨t, ht, ?_⟩
    split <;> exact ⟨rfl, rfl, rfl⟩
  · exact .of_eq rfl rfl rfl

theorem sameUses_exec (q : RegStmt) (hq : q.accounts = false) (s : RegState) : SameUses s (q.sem.exec s) := by
  cases q with
  | newRequest | consume | refund => cases hq
  | getByAgentID req agentID =>
    rcases getByAgentID_cases s req agentID with ⟨e, _, hexec⟩ | ⟨row, _, _, _, hexec⟩
    all_goals
      rw [hexec]
      exact .of_eq rfl rfl rfl
  | createAgentHost p =>
    rcases createAgentHost_cases s p with ⟨e, _, hexec⟩ | ⟨_, hexec⟩
    all_goals
      rw [hexec]
      exact .of_eq rfl rfl rfl
  | deleteAgentHost hostID =>
    rcases deleteAgentHost_cases s hostID with ⟨_, hexec⟩ | ⟨_, hexec⟩
    · rw [hexec]
      exact .of_eq rfl rfl rfl
    · -- the tokens that named the host are gone
      rw [hexec]
      exact ⟨rfl, rfl, fun t ht => ⟨t, (Table.mem_delete.1 ht).1, rfl, rfl, rfl⟩⟩
  | bind req token input freshID =>
    rcases bind_cases s req token input freshID with ⟨e, _, hexec⟩ | ⟨row, _, _, _, hexec⟩ | ⟨row, _, _, _, hexec⟩
    all_goals
      rw [hexec]
      exact .of_eq rfl rfl rfl
  | updateFacts hostID facts =>
    rw [exec_updateFacts, updateAgentHostFacts, Slot.exec_update]
    split <;> exact .of_eq rfl rfl rfl
  | bindTarget tokenID hostID => exact sameUses_bindTarget s tokenID hostID
  | _ => exact .of_eq rfl rfl rfl

theorem SameUses.accounted {s s' : RegState} (h : SameUses s s') (hs : Accounted s) : Accounted s' := by
  refine ⟨?_, ?_⟩
  · rw [h.held, h.requests]
    exact hs.known
  · intro t' ht'
    obtain ⟨t, ht, hid, hused, hmax⟩ := h.tokens t' ht'
    rw [RegState.holders, h.held, hid, hused, hmax]
    exact hs.within t ht

theorem SameUses.holdsToken {s s' : RegState} (h : SameUses s s') {k : Phase} (hk : HoldsToken s k) : HoldsToken s' k := by
  intro n hn
  rw [h.requests, h.held]
  exact hk n hn

theorem next_of_not_accounts {q : RegStmt} (hq : q.accounts = false) (r : Except Err q.Ans) (k : Phase) :
    (Phase.next q r k).req = k.req ∧ (Phase.next q r k).token = k.token := by
  cases q <;> first
    | (cases hq; done)
    | (cases r <;> exact ⟨rfl, rfl⟩)

/-! Taking a use and giving it back. -/

theorem accounted_consumed {s : RegState} {req : Nat} {tokenHash : String} {t : JoinTokenRow} (hs : Accounted s)
    (hreq : req < s.requests) (ht : t ∈ s.db.joinTokens) (hlive : t.live tokenHash (s.now / second)) :
    Accounted (s.consumed req tokenHash t) := by
  refine ⟨?_, ?_⟩
  · intro p hp
    rcases List.mem_cons.1 hp with rfl | hp
    · exact hreq
    · exact hs.known p hp
  · intro t' ht'
    obtain ⟨r, hr, rfl⟩ := Table.mem_update.1 ht'
    obtain ⟨hpos, hmax, hholders⟩ := hs.within r hr
    have hcount : ∀ id, (s.consumed req tokenHash t).holders id = s.holders id + if t.id = id then 1 else 0 := by
      simp [RegState.holders, RegState.consumed, List.countP_cons]
    by_cases hr' : r.live tokenHash (s.now / second)
    · have hleft : r.usedCount < r.maxUses := (of_decide_eq_true hr').2.2
      rw [if_pos hr']
      show 0 ≤ r.usedCount + 1 ∧ r.usedCount + 1 ≤ r.maxUses ∧ ((s.consumed req tokenHash t).holders r.id : Int) ≤ r.usedCount + 1
      rw [hcount]
      split <;> omega
    · -- only the row of the request has another holder, and it is live
      have hne : t.id ≠ r.id := by
        intro heq
        rw [s.db.joinTokens.eq_of_key_eq ht hr heq] at hlive
        exact hr' hlive
      rw [if_neg hr', hcount, if_neg hne]
      exact ⟨hpos, hmax, by omega⟩

theorem countP_filter_ne_lt {α : Type} [DecidableEq α] (p : α → Bool) {a : α} (hp : p a) {l : List α} (ha : a ∈ l) :
    (l.filter (· ≠ a)).countP p < l.countP p := by
  induction l with
  | nil => cases ha
  | cons b l ih =>
    have hle : (l.filter (· ≠ a)).countP p ≤ l.countP p := List.filter_sublist.countP_le
    by_cases hb : b = a
    · subst hb
      rw [List.filter_cons_of_neg (by simp), List.countP_cons_of_pos hp]
      omega
    · have hlt := ih ((List.mem_cons.1 ha).resolve_left (Ne.symm hb))
      rw [List.filter_cons_of_pos (by simpa using hb), List.countP_cons, List.countP_cons]
      omega

theorem accounted_refunded {s : RegState} {req : Nat} {tokenID : Int} (hs : Accounted s)
    (hheld : (req, tokenID) ∈ s.held) : Accounted (s.refunded req tokenID) := by
  refine ⟨fun p hp => hs.known p (List.mem_of_mem_filter hp), ?_⟩
  intro t' ht'
  obtain ⟨r, hr, rfl⟩ := Table.mem_update.1 ht'
  obtain ⟨hpos, hmax, hholders⟩ := hs.within r hr
  by_cases hid : r.id = tokenID
  · have hless : (s.refunded req tokenID).holders r.id < s.holders r.id :=
      countP_filter_ne_lt (fun x : Nat × Int => x.2 = r.id) (decide_eq_true hid.symm) hheld
    have hused : 0 < r.usedCount := by omega
    have hrefundable : JoinTokenRow.refundable tokenID r := decide_eq_true ⟨hid, hused⟩
    rw [if_pos hrefundable]
    show 0 ≤ r.usedCount - 1 ∧ r.usedCount - 1 ≤ r.maxUses ∧ ((s.refunded req tokenID).holders r.id : Int) ≤ r.usedCount - 1
    omega
  · have hnot : ¬ JoinTokenRow.refundable tokenID r := by
      intro h
      exact hid (of_decide_eq_true h).1
    have hle : (s.refunded req tokenID).holders r.id ≤ s.holders r.id := List.filter_sublist.countP_le
    rw [if_neg hnot]
    exact ⟨hpos, hmax, by omega⟩

theorem accounted_exec (q : RegStmt) (s : RegState) (k : Phase) (hs : Accounted s) (hk : HoldsToken s k)
    (hq : k.Allows q) :
    Accounted (q.sem.exec s) ∧ HoldsToken (q.sem.exec s) (Phase.next q (q.sem.result s) k) ∧
      ∀ n, (Phase.next q (q.sem.result s) k).req = some n → k.req = some n ∨ ∀ k', HoldsToken s k' → k'.req ≠ some n := by
  by_cases hacc : q.accounts = false
  · have hsame := sameUses_exec q hacc s
    obtain ⟨hreq, htoken⟩ := next_of_not_accounts hacc (q.sem.result s) k
    refine ⟨hsame.accounted hs, ?_, ?_⟩
    · intro n hn
      rw [htoken]
      exact hsame.holdsToken hk n (hreq ▸ hn)
    · intro n hn
      exact .inl (hreq ▸ hn)
  cases q with
  | newRequest =>
    obtain ⟨_, htoken, _⟩ := hq
    refine ⟨⟨fun p hp => Nat.lt_succ_of_lt (hs.known p hp), hs.within⟩, ?_, ?_⟩
    · intro n hn
      cases hn
      refine ⟨Nat.lt_succ_self s.requests, ?_⟩
      intro id
      show (s.requests, id) ∈ s.held ↔ k.token.map (·.id) = some id
      rw [htoken]
      -- a request that is just counted holds nothing
      have hnot : (s.requests, id) ∉ s.held := fun h => Nat.lt_irrefl _ (hs.known _ h)
      exact iff_of_false hnot (by simp)
    · intro n hn
      cases hn
      refine .inr ?_
      intro k' hk' hreq
      exact Nat.lt_irrefl _ (hk' s.requests hreq).1
  | consume req tokenHash =>
    obtain ⟨hreq, htoken⟩ := hq
    obtain ⟨hknown, hheld⟩ := hk req hreq
    rcases consume_cases s req tokenHash with ⟨e, hresult, hexec⟩ | ⟨t, ht, hlive, hresult, hexec⟩
    · rw [hresult, hexec]
      exact ⟨hs, hk, fun n hn => .inl hn⟩
    · rw [hresult, hexec]
      refine ⟨accounted_consumed hs hknown ht hlive, ?_, fun n hn => .inl hn⟩
      intro n hn
      obtain rfl : req = n := Option.some.inj (hreq.symm.trans hn)
      refine ⟨hknown, ?_⟩
      intro id
      show (req, id) ∈ (req, t.id) :: s.held ↔ some t.id = some id
      have hnone : (req, id) ∉ s.held := by
        rw [hheld id, htoken]
        simp
      simp [hnone, eq_comm]
  | refund req tokenID =>
    obtain ⟨hreq, t, htoken, rfl⟩ := hq
    obtain ⟨hknown, hheld⟩ := hk req hreq
    have hmem : (req, t.id) ∈ s.held := (hheld t.id).2 (by rw [htoken]; rfl)
    refine ⟨accounted_refunded hs hmem, ?_, fun n hn => .inl hn⟩
    intro n hn
    obtain rfl : req = n := Option.some.inj (hreq.symm.trans hn)
    refine ⟨hknown, ?_⟩
    intro id
    show (req, id) ∈ s.held.filter (· ≠ (req, t.id)) ↔ none = some id
    have hnot : (req, id) ∉ s.held.filter (· ≠ (req, t.id)) := by
      intro h
      obtain ⟨h, hne⟩ := List.mem_filter.1 h
      rw [hheld id, htoken] at h
      cases h
      simp at hne
    exact iff_of_false hnot (by simp)
  | _ => exact absurd rfl hacc

theorem holdsToken_others (q : RegStmt) (s : RegState) (k k' : Phase) (hq : k.Allows q) (hk' : HoldsToken s k')
    (hne : ∀ n, k.req = some n → k'.req ≠ some n) : HoldsToken (q.sem.exec s) k' := by
  by_cases hacc : q.accounts = false
  · exact (sameUses_exec q hacc s).holdsToken hk'
  intro n hn
  obtain ⟨hknown, hheld⟩ := hk' n hn
  cases q with
  | newRequest => exact ⟨Nat.lt_succ_of_lt hknown, hheld⟩
  | consume req tokenHash =>
    rcases consume_cases s req tokenHash with ⟨e, _, hexec⟩ | ⟨t, _, _, _, hexec⟩
    · rw [hexec]
      exact ⟨hknown, hheld⟩
    · rw [hexec]
      refine ⟨hknown, ?_⟩
      intro id
      have hreq : n ≠ req := by
        rintro rfl
        exact hne n hq.1 hn
      rw [← hheld id]
      simp [RegState.consumed, hreq]
  | refund req tokenID =>
    refine ⟨hknown, ?_⟩
    intro id
    have hreq : n ≠ req := by
      rintro rfl
      exact hne n hq.1 hn
    rw [← hheld id]
    show (n, id) ∈ s.held.filter (· ≠ (req, tokenID)) ↔ _
    simp [hreq]
  | _ => exact absurd rfl hacc

/-- In every run of registrations and channels, from a database whose tokens meet
`chk_join_token_uses`. -/
theorem uses_within_max (cfg : RegConfig) (db : DB) (agents : Table HostAgentRow) (now : Int)
    (hdb : ∀ t ∈ db.joinTokens, 0 ≤ t.usedCount ∧ t.usedCount ≤ t.maxUses) (es : List (Event GatewayCall)) :
    ∀ st ∈ states (gatewaySystem cfg).step (.init (.init db agents now)) es, ∀ t ∈ st.store.db.joinTokens,
      0 ≤ t.usedCount ∧ t.usedCount ≤ t.maxUses ∧ (st.store.holders t.id : Int) ≤ t.maxUses := by
  have hinit : Accounted (RegState.init db agents now) := by
    refine ⟨fun p hp => (List.not_mem_nil hp).elim, ?_⟩
    intro t ht
    obtain ⟨hpos, hmax⟩ := hdb t ht
    exact ⟨hpos, hmax, hpos⟩
  have hcall : ∀ c s, True → Accounted s → HoldsToken s (startPhase c) ∧ (startPhase c).req = none := by
    intro c s _ _
    have hreq : (startPhase c).req = none := by cases c <;> rfl
    refine ⟨?_, hreq⟩
    intro n hn
    rw [hreq] at hn
    cases hn
  have hes : Along (gatewaySystem cfg).step ((gatewaySystem cfg).Meets fun _ _ => True) (.init (.init db agents now)) es :=
    along_of_forall fun _ _ _ _ => trivial
  have hall := regProtocol.forall_phases (gatewaySystem cfg) Phase.req (follows_gatewayProg cfg) hcall
    (fun q s k hs hk hq _ _ => accounted_exec q s k hs hk hq)
    (fun q s k k' _ _ hq hk' _ _ hne => holdsToken_others q s k k' hq hk' hne) hinit (fun _ _ => trivial) hes
  intro st hst t ht
  obtain ⟨hpos, hmax, hholders⟩ := (hall st hst).1.within t ht
  exact ⟨hpos, hmax, hholders.trans hmax⟩

def oneUse : List (Event GatewayCall) :=
  [.call (registration "any" "8c1e4d56-f7c1-65c9-b323-12015fb893e2" "image-1" "11111111-1111-1111-1111-111111111111"),
    .call (registration "any" "8c1e4d56-f7c1-65c9-b323-12015fb893e3" "image-2" "22222222-2222-2222-2222-222222222222")]
    ++ stepsOf 0 3 ++ stepsOf 1 7 ++ stepsOf 0 5

theorem one_use_held_once :
    (let st := run (gatewaySystem plainConfig).step (.init (.init { DB.empty with joinTokens := joinTokens 1 } .empty 0)) oneUse
     st.store.holders 1 = 1 ∧
       ∀ t ∈ st.store.db.joinTokens, 0 ≤ t.usedCount ∧ t.usedCount ≤ t.maxUses ∧ (st.store.holders t.id : Int) ≤ t.maxUses) :=
  ⟨by decide +kernel,
    uses_within_max plainConfig { DB.empty with joinTokens := joinTokens 1 } .empty 0
      (show ∀ t ∈ (joinTokens 1).rows, 0 ≤ t.usedCount ∧ t.usedCount ≤ t.maxUses by decide) oneUse _
      (run_mem_states (gatewaySystem plainConfig).step _ oneUse)⟩

end Vraxel.AgentGw
