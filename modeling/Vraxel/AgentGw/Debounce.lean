import Vraxel.AgentGw.Alerts
/-
  The debounce of an alert (`pkg/apis/agentgw/alerts.go`), against the automaton that it stands for:
  it counts from the first heartbeat of a run of breaching ones.
-/

namespace Vraxel.AgentGw

open Relational Db Transition

def alertMetrics : List String :=
  ["cpu_used_pct", "mem_used_pct", "disk_used_pct", "load1", "load5", "load15", "net_rx_bps", "net_tx_bps"]

theorem summaryValue_of_mem (m : MetricsSummary) {metric : String} (h : metric ∈ alertMetrics) :
    ∃ value, summaryValue m metric = some value := by
  simp only [alertMetrics, List.mem_cons, List.not_mem_nil, or_false] at h
  rcases h with rfl | rfl | rfl | rfl | rfl | rfl | rfl | rfl
  all_goals exact ⟨_, rfl⟩

variable (r : HostAlertRuleRow)

def breachRun (beats : List Beat) : List Beat := beats.rtakeWhile fun b => Breaches b.metrics r

def heldSince (since : Int) (b : Beat) : Bool := since + r.forSeconds * 1000000 ≤ b.time

def expected (beats : List Beat) : Option (Int × Bool) :=
  match breachRun r beats with
  | [] => none
  | first :: rest => some (first.time, rest.any (heldSince r first.time))

def debounce (b : Beat) : Option (Int × Bool) → Option (Int × Bool)
  | none => if Breaches b.metrics r then some (b.time, false) else none
  | some (since, firing) => if Breaches b.metrics r then some (since, firing || heldSince r since b) else none

theorem expected_snoc (beats : List Beat) (b : Beat) :
    expected r (beats ++ [b]) = debounce r b (expected r beats) := by
  by_cases hb : Breaches b.metrics r
  · rw [expected, breachRun, List.rtakeWhile_concat_pos _ beats b (by simpa using hb), ← breachRun, expected]
    cases breachRun r beats with
    | nil => simp [debounce, hb]
    | cons first rest => simp [debounce, hb, List.any_append]
  · rw [expected, breachRun, List.rtakeWhile_concat_neg _ beats b (by simpa using hb)]
    cases expected r beats with
    | none => simp [debounce, hb]
    | some p => simp [debounce, hb]

def AlertStateRow.view (st : AlertStateRow) : Int × Bool := (st.breachedSince, st.firing)

namespace Alerts

def stateOf (a : Alerts) (hostID ruleID : Int) : Option AlertStateRow := a.states.find? (of hostID ruleID)

section Writes

variable (a : Alerts) {hostID ruleID host rule : Int} {value : Rat} {time : Int}

theorem of_eq_true {st : AlertStateRow} : of hostID ruleID st = true ↔ st.hostID = hostID ∧ st.ruleID = ruleID :=
  decide_eq_true_iff

theorem stateOf_recordBreach_self (h : a.stateOf hostID ruleID = none) :
    (a.recordBreach hostID ruleID value time).stateOf hostID ruleID =
      some ⟨hostID, ruleID, time, false, none, value⟩ := by
  have hnone : a.states.any (of hostID ruleID) = false := by
    rw [List.any_eq_false]
    exact List.find?_eq_none.1 h
  rw [recordBreach, if_neg (by simp [hnone]), stateOf, List.find?_append]
  rw [stateOf] at h
  simp [h, of]

theorem stateOf_recordBreach_of_ne (hne : ¬ (host = hostID ∧ rule = ruleID)) :
    (a.recordBreach hostID ruleID value time).stateOf host rule = a.stateOf host rule := by
  rw [recordBreach]
  split
  · rfl
  · have hother : of host rule ⟨hostID, ruleID, time, false, none, value⟩ = false :=
      decide_eq_false fun h => hne ⟨h.1.symm, h.2.symm⟩
    simp [stateOf, List.find?_append, hother]

theorem stateOf_markFiring : (a.markFiring hostID ruleID value time).stateOf host rule =
    (a.stateOf host rule).map fun st =>
      if of hostID ruleID st ∧ !st.firing then { st with firing := true, firingSince := some time, value := value }
      else st := by
  have hof : (of host rule ∘ fun st : AlertStateRow =>
      if of hostID ruleID st ∧ !st.firing then { st with firing := true, firingSince := some time, value := value }
      else st) = of host rule := by
    funext st
    dsimp only [Function.comp]
    split
    · rfl
    · rfl
  rw [stateOf, markFiring, List.find?_map, hof, stateOf]

theorem stateOf_clear_self : (a.clear hostID ruleID).stateOf hostID ruleID = none := by
  rw [stateOf, List.find?_eq_none]
  intro st hst h
  exact (mem_clear.1 hst).2 (of_eq_true.1 h)

theorem find?_filter_of_imp {α : Type} {p q : α → Bool} {l : List α} (h : ∀ x ∈ l, p x → q x) :
    (l.filter q).find? p = l.find? p := by
  induction l with
  | nil => rfl
  | cons x l ih =>
    have ih := ih fun y hy => h y (List.mem_cons_of_mem x hy)
    by_cases hq : q x
    · rw [List.filter_cons_of_pos hq, List.find?_cons, List.find?_cons, ih]
    · have hp : ¬ p x := fun hp => hq (h x List.mem_cons_self hp)
      rw [List.filter_cons_of_neg hq, List.find?_cons_of_neg hp, ih]

theorem stateOf_clear_of_ne (hne : ¬ (host = hostID ∧ rule = ruleID)) :
    (a.clear hostID ruleID).stateOf host rule = a.stateOf host rule := by
  apply find?_filter_of_imp
  intro st _ hst
  obtain ⟨hhost, hrule⟩ := of_eq_true.1 hst
  rw [Bool.not_eq_true', ← Bool.not_eq_true, of_eq_true, hhost, hrule]
  exact hne

end Writes

section Loop

variable {hostID : Int} {m : MetricsSummary} {byRule : Int → Option AlertStateRow} {host rule : Int}

theorem stateOf_evalRule_of_ne (a : Alerts) (r : HostAlertRuleRow) (hne : ¬ (host = hostID ∧ rule = r.id)) :
    (evalRule hostID m 0 byRule a r).stateOf host rule = a.stateOf host rule := by
  unfold evalRule
  split
  · rfl
  · split
    · split
      · exact stateOf_recordBreach_of_ne a hne
      · split
        · rw [stateOf_markFiring]
          show Option.map _ (a.stateOf host rule) = _
          cases hst : a.stateOf host rule with
          | none => rfl
          | some st =>
            obtain ⟨hhost, hrule⟩ := of_eq_true.1 (List.find?_some hst)
            rw [Option.map_some, if_neg]
            intro h
            obtain ⟨hhost', hrule'⟩ := of_eq_true.1 h.1
            exact hne ⟨hhost ▸ hhost', hrule ▸ hrule'⟩
        · rfl
    · split
      · exact stateOf_clear_of_ne a hne
      · rfl

theorem stateOf_evalRule_self (a : Alerts) (r : HostAlertRuleRow) (hmetric : r.metric ∈ alertMetrics)
    (hread : byRule r.id = a.stateOf hostID r.id) :
    ((evalRule hostID m 0 byRule a r).stateOf hostID r.id).map AlertStateRow.view =
      debounce r ⟨hostID, a.now, m⟩ ((a.stateOf hostID r.id).map AlertStateRow.view) := by
  obtain ⟨value, hvalue⟩ := summaryValue_of_mem m hmetric
  have hbreaches : Breaches m r ↔ breaches value r.op r.threshold := by
    rw [Breaches, hvalue]
    simp
  unfold evalRule
  rw [hvalue, hread]
  dsimp only
  by_cases hb : breaches value r.op r.threshold
  · rw [if_pos hb]
    have hbm := hbreaches.2 hb
    cases hst : a.stateOf hostID r.id with
    | none =>
      rw [stateOf_recordBreach_self a hst]
      simp [AlertStateRow.view, debounce, hbm]
    | some st =>
      have hof : of hostID r.id st = true := List.find?_some hst
      dsimp only
      split
      · next hfire =>
        rw [stateOf_markFiring]
        show Option.map _ (Option.map _ (a.stateOf hostID r.id)) = _
        have hheld : heldSince r st.breachedSince ⟨hostID, a.now, m⟩ = true := decide_eq_true (by
          dsimp only
          omega)
        rw [hst, Option.map_some, Option.map_some, if_pos ⟨hof, hfire.1⟩]
        simp [AlertStateRow.view, debounce, hbm, hheld]
      · next hwait =>
        rw [hst]
        have hkept : (st.firing || heldSince r st.breachedSince ⟨hostID, a.now, m⟩) = st.firing := by
          cases hf : st.firing with
          | true => rfl
          | false =>
            apply decide_eq_false
            intro hheld
            dsimp only at hheld
            exact hwait ⟨by simp [hf], by omega⟩
        simp [AlertStateRow.view, debounce, hbm, hkept]
  · rw [if_neg hb]
    have hbm := mt hbreaches.1 hb
    split
    · rw [stateOf_clear_self]
      cases a.stateOf hostID r.id with
      | none => simp [debounce, hbm]
      | some st => simp [AlertStateRow.view, debounce, hbm]
    · next hnone =>
      rw [Option.not_isSome_iff_eq_none] at hnone
      rw [hnone]
      simp [debounce, hbm]

theorem stateOf_foldl_of_ne {rs : List HostAlertRuleRow} (hne : ∀ r ∈ rs, ¬ (host = hostID ∧ rule = r.id)) (a : Alerts) :
    (rs.foldl (evalRule hostID m 0 byRule) a).stateOf host rule = a.stateOf host rule := by
  induction rs generalizing a with
  | nil => rfl
  | cons r rs ih =>
    rw [List.foldl_cons, ih fun r' hr' => hne r' (List.mem_cons_of_mem r hr')]
    exact stateOf_evalRule_of_ne a r (hne r List.mem_cons_self)

theorem stateOf_foldl {rs : List HostAlertRuleRow} (hnodup : (rs.map (·.id)).Nodup) {r : HostAlertRuleRow} (hr : r ∈ rs)
    (hmetric : r.metric ∈ alertMetrics) (a : Alerts) (hread : byRule r.id = a.stateOf hostID r.id) :
    ((rs.foldl (evalRule hostID m 0 byRule) a).stateOf hostID r.id).map AlertStateRow.view =
      debounce r ⟨hostID, a.now, m⟩ ((a.stateOf hostID r.id).map AlertStateRow.view) := by
  obtain ⟨before, after, rfl⟩ := List.append_of_mem hr
  rw [List.map_append, List.map_cons, List.nodup_append] at hnodup
  obtain ⟨-, hafter, hbefore⟩ := hnodup
  have hne : ∀ r' ∈ before, ¬ (hostID = hostID ∧ r.id = r'.id) := fun r' hr' h =>
    hbefore _ (List.mem_map_of_mem hr') _ List.mem_cons_self h.2.symm
  have hne' : ∀ r' ∈ after, ¬ (hostID = hostID ∧ r.id = r'.id) := fun r' hr' h =>
    (List.nodup_cons.1 hafter).1 (h.2 ▸ List.mem_map_of_mem (f := HostAlertRuleRow.id) hr')
  rw [List.foldl_append, List.foldl_cons, stateOf_foldl_of_ne hne', stateOf_evalRule_self _ r hmetric,
    stateOf_foldl_of_ne hne, (foldl_frame hostID m 0 byRule before a).2.1]
  rw [stateOf_foldl_of_ne hne, hread]

end Loop

theorem stateOf_clearOrphans {applicable : List HostAlertRuleRow} {hostID host rule : Int}
    (h : host = hostID → applicable.any (·.id = rule)) (states : List AlertStateRow) (a : Alerts) :
    (clearOrphans applicable hostID states a).stateOf host rule = a.stateOf host rule := by
  unfold clearOrphans
  induction states generalizing a with
  | nil => rfl
  | cons st states ih =>
    rw [List.foldl_cons, ih]
    split
    · rfl
    · next hnone =>
      apply stateOf_clear_of_ne
      rintro ⟨hhost, hrule⟩
      exact hnone (hrule ▸ h hhost)

section Evaluate

variable (a : Alerts) {workspaceID namespaceID : Option Int} {hostID : Int} {m : MetricsSummary}

theorem stateOf_evaluate {r : HostAlertRuleRow} (hr : r ∈ a.applicable workspaceID namespaceID)
    (hmetric : r.metric ∈ alertMetrics) :
    ((a.evaluate workspaceID namespaceID hostID m 0).stateOf hostID r.id).map AlertStateRow.view =
      debounce r ⟨hostID, a.now, m⟩ ((a.stateOf hostID r.id).map AlertStateRow.view) := by
  have hnodup : ((a.applicable workspaceID namespaceID).map (·.id)).Nodup :=
    a.rules.nodup.sublist ((List.filter_sublist.trans List.filter_sublist).map _)
  have hread : byRule (a.statesOf hostID) r.id = (a.log hostID m).stateOf hostID r.id := by
    show (a.states.filter _).find? _ = a.states.find? _
    rw [List.find?_filter]
    congr 1
    funext st
    simp [of]
  rw [evaluate, if_neg (List.ne_nil_of_mem hr), stateOf_clearOrphans]
  · exact stateOf_foldl hnodup hr hmetric (a.log hostID m) hread
  · intro _
    exact List.any_eq_true.2 ⟨r, hr, decide_eq_true rfl⟩

theorem stateOf_evaluate_of_ne {host rule : Int} (hne : host ≠ hostID) :
    (a.evaluate workspaceID namespaceID hostID m 0).stateOf host rule = a.stateOf host rule := by
  rw [evaluate]
  split
  · rfl
  · rw [stateOf_clearOrphans fun h => absurd h hne, stateOf_foldl_of_ne fun _ _ h => hne h.1]
    rfl

theorem evaluate_frame (workspaceID namespaceID : Option Int) (hostID : Int) (m : MetricsSummary) (delay : Nat) :
    (a.evaluate workspaceID namespaceID hostID m delay).rules = a.rules ∧
      (a.evaluate workspaceID namespaceID hostID m delay).beats = a.beats ++ [⟨hostID, a.now, m⟩] := by
  rw [evaluate]
  split
  · exact ⟨rfl, rfl⟩
  · obtain ⟨hrules, -, hbeats, -⟩ := clearOrphans_frame (a.applicable workspaceID namespaceID) hostID (a.statesOf hostID)
      ((a.applicable workspaceID namespaceID).foldl (evalRule hostID m delay (byRule (a.statesOf hostID))) (a.log hostID m))
    obtain ⟨hrules', -, hbeats'⟩ := foldl_frame hostID m delay (byRule (a.statesOf hostID))
      (a.applicable workspaceID namespaceID) (a.log hostID m)
    exact ⟨hrules.trans hrules', hbeats.trans hbeats'⟩

theorem stateOf_sweepDisabled {r : HostAlertRuleRow} (hr : r ∈ a.rules) (hon : r.enabled) (hostID : Int) :
    a.sweepDisabled.stateOf hostID r.id = a.stateOf hostID r.id := by
  apply find?_filter_of_imp
  intro st _ hst
  rw [Bool.not_eq_true', Table.exists?_eq_false]
  intro r' hr'
  apply decide_eq_false
  rintro ⟨hid, hoff⟩
  have heq : r' = r := a.rules.eq_of_key_eq hr' hr (hid.trans (of_eq_true.1 hst).2)
  rw [heq, hon] at hoff
  cases hoff

end Evaluate

end Alerts

/-- The rules are left as they are, and a heartbeat has one time. -/
def AlertEvent.Steady : AlertEvent → Prop
  | .beat _ _ delay => delay = 0
  | .updateRule _ _ _ => False
  | .sweepDisabled => True
  | .tick _ => True

/-- The table holds what the automata have computed from the heartbeats. -/
structure Tracked (scopes : HostScopes) (rules₀ : Table HostAlertRuleRow) (a : Alerts) : Prop where
  rules : a.rules = rules₀
  row : ∀ hostID, ∀ r ∈ rules₀, r.enabled → appliesTo r (scopes hostID).1 (scopes hostID).2 → r.metric ∈ alertMetrics →
    (a.stateOf hostID r.id).map AlertStateRow.view = expected r (a.beats.filter (Alerts.onHost hostID))

theorem tracked_step {scopes : HostScopes} {rules : Table HostAlertRuleRow} (a : Alerts) (e : AlertEvent) (he : e.Steady)
    (h : Tracked scopes rules a) : Tracked scopes rules (alertStep scopes a e) := by
  cases e with
  | beat host metrics delay =>
    cases metrics with
    | none => exact h
    | some m =>
      have hdelay : delay = 0 := he
      subst hdelay
      obtain ⟨hrules, hbeats⟩ := a.evaluate_frame (scopes host).1 (scopes host).2 host m 0
      refine ⟨hrules.trans h.rules, fun hostID r hr hon happlies hmetric => ?_⟩
      have hrow := h.row hostID r hr hon happlies hmetric
      show ((a.evaluate _ _ host m 0).stateOf hostID r.id).map _ = expected r ((a.evaluate _ _ host m 0).beats.filter _)
      rw [hbeats, List.filter_append]
      by_cases hhost : hostID = host
      · subst hhost
        have hmem : r ∈ a.applicable (scopes hostID).1 (scopes hostID).2 :=
          mem_applicable.2 ⟨h.rules ▸ hr, hon, happlies⟩
        rw [a.stateOf_evaluate hmem hmetric, hrow, List.filter_cons_of_pos (by simp [Alerts.onHost]), List.filter_nil,
          expected_snoc]
      · rw [a.stateOf_evaluate_of_ne hhost, hrow, List.filter_cons_of_neg (by simpa [Alerts.onHost] using Ne.symm hhost),
          List.filter_nil, List.append_nil]
  | updateRule id sf input => cases he
  | sweepDisabled =>
    refine ⟨h.rules, fun hostID r hr hon happlies hmetric => ?_⟩
    show (a.sweepDisabled.stateOf hostID r.id).map _ = expected r (a.beats.filter _)
    rw [a.stateOf_sweepDisabled (h.rules ▸ hr) hon]
    exact h.row hostID r hr hon happlies hmetric
  | tick d => exact ⟨h.rules, h.row⟩

/-- After every heartbeat there is no row if it does not breach the rule; otherwise the row has the
    time of the first heartbeat of the run, and it is firing if a later one came after `for_seconds`. -/
theorem debounce_refines (scopes : HostScopes) (rules : Table HostAlertRuleRow) (now : Int) (es : List AlertEvent)
    (hes : ∀ e ∈ es, e.Steady) :
    ∀ a ∈ states (alertStep scopes) (Alerts.init rules now) es, ∀ hostID, ∀ r ∈ rules, r.enabled →
      appliesTo r (scopes hostID).1 (scopes hostID).2 → r.metric ∈ alertMetrics →
        (a.stateOf hostID r.id).map (fun st => (st.breachedSince, st.firing)) =
          expected r (a.beats.filter (Alerts.onHost hostID)) := by
  intro a ha
  have hinit : Tracked scopes rules (Alerts.init rules now) := ⟨rfl, fun _ _ _ _ _ _ => rfl⟩
  exact (forall_states_of_along (fun a e h he => tracked_step a e he h) hinit (along_of_mem _ hes) a ha).row

def busyBeats : List AlertEvent :=
  [.beat 7 (cpu 10) 0, .tick 30000000, .beat 7 (cpu 60) 0, .tick 30000000, .beat 7 (cpu 60) 0, .tick 30000000,
    .beat 8 (cpu 10) 0, .beat 7 (cpu 60) 0]

theorem busy_beats_debounced :
    ((run (alertStep fun _ => (none, none)) (Alerts.init busyRules 0) busyBeats).stateOf 7 1).map
        (fun st => (st.breachedSince, st.firing)) = some (30000000, true) ∧
      ∀ a ∈ states (alertStep fun _ => (none, none)) (Alerts.init busyRules 0) busyBeats, ∀ hostID, ∀ r ∈ busyRules,
        r.enabled → appliesTo r none none → r.metric ∈ alertMetrics →
          (a.stateOf hostID r.id).map (fun st => (st.breachedSince, st.firing)) =
            expected r (a.beats.filter (Alerts.onHost hostID)) :=
  ⟨by decide, debounce_refines (fun _ => (none, none)) busyRules 0 busyBeats (by simp [busyBeats, AlertEvent.Steady])⟩

/-! Rows of rules that do not apply. -/

def Alerts.NoOrphans (a : Alerts) (workspaceID namespaceID : Option Int) (hostID : Int) : Prop :=
  ∀ st ∈ a.states, st.hostID = hostID → ∃ r ∈ a.applicable workspaceID namespaceID, r.id = st.ruleID

section Orphans

variable {a : Alerts} {workspaceID namespaceID : Option Int} {hostID : Int} {m : MetricsSummary} {delay : Nat}

theorem mem_sweepDisabled {st : AlertStateRow} :
    st ∈ a.sweepDisabled.states ↔ st ∈ a.states ∧ ¬∃ r ∈ a.rules, r.id = st.ruleID ∧ r.enabled = false := by
  simp [Alerts.sweepDisabled, Table.exists?_eq_false]

theorem noOrphans_evaluate (h : a.applicable workspaceID namespaceID ≠ []) :
    (a.evaluate workspaceID namespaceID hostID m delay).NoOrphans workspaceID namespaceID hostID := by
  intro st hst hhost
  rw [Alerts.applicable, Alerts.enabledRules, (a.evaluate_frame _ _ _ _ _).1]
  rw [Alerts.evaluate, if_neg h] at hst
  obtain ⟨hst, horphan⟩ := Alerts.mem_clearOrphans hst
  rcases Alerts.mem_foldl hst with ⟨old, hold, hcarries, _⟩ | ⟨r, hr, _, hrule, _⟩
  · have hread : old ∈ a.statesOf hostID := List.mem_filter.2 ⟨hold, by simpa [← hcarries.1] using hhost⟩
    exact horphan old hread hhost hcarries.2.1.symm
  · exact ⟨r, hr, hrule.symm⟩

/-- After the evaluation and the sweep the host has no orphaned row exactly if a rule applies to it, or
none of its rows was of a rule that is not disabled. -/
theorem no_orphaned_states_iff (a : Alerts) (workspaceID namespaceID : Option Int) (hostID : Int) (m : MetricsSummary)
    (delay : Nat) :
    (a.evaluate workspaceID namespaceID hostID m delay).sweepDisabled.NoOrphans workspaceID namespaceID hostID ↔
      a.applicable workspaceID namespaceID ≠ [] ∨
        ∀ st ∈ a.states, st.hostID = hostID → ∃ r ∈ a.rules, r.id = st.ruleID ∧ r.enabled = false := by
  by_cases h : a.applicable workspaceID namespaceID = []
  · -- `Evaluate` returns before it reads the rows
    have hevaluate : a.evaluate workspaceID namespaceID hostID m delay = a.log hostID m := by
      rw [Alerts.evaluate, if_pos h]
    have happlicable : (a.log hostID m).sweepDisabled.applicable workspaceID namespaceID = [] := h
    have hrows (st : AlertStateRow) : st ∈ (a.log hostID m).sweepDisabled.states ↔
      st ∈ a.states ∧ ¬∃ r ∈ a.rules, r.id = st.ruleID ∧ r.enabled = false := mem_sweepDisabled
    simp only [hevaluate, Alerts.NoOrphans, happlicable, hrows, h, List.not_mem_nil, ne_eq, not_true_eq_false]
    grind
  · simp only [ne_eq, h, not_false_eq_true, true_or, iff_true]
    intro st hst
    exact noOrphans_evaluate h st (mem_sweepDisabled.1 hst).1

/-- A rule of workspace 1 and a row of host 7, which has moved to workspace 2. -/
def movedHost : Alerts where
  rules := .ofRows [⟨1, "busy", "", .workspace, some 1, none, "cpu_used_pct", "gt", 50, 60, "warning", true, none⟩] 2 (by decide)
  states := [⟨7, 1, 0, true, some 0, 60⟩]
  now := 100
  beats := []
  fired := []

theorem moved_host_keeps_row :
    (movedHost.evaluate (some 2) none 7 ⟨60, 0, 0, 0, 0, 0, 0, 0⟩ 0).sweepDisabled.states = movedHost.states ∧
      ¬(movedHost.evaluate (some 2) none 7 ⟨60, 0, 0, 0, 0, 0, 0, 0⟩ 0).sweepDisabled.NoOrphans (some 2) none 7 := by
  constructor
  · decide
  · unfold Alerts.NoOrphans
    decide

end Orphans

end Vraxel.AgentGw
