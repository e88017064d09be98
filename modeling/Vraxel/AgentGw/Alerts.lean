import Vraxel.Lib.Run
import Vraxel.Compute.Create
/-
  Threshold alerts (`pkg/apis/agentgw/alerts.go`, `store/pg_alert.go`,
  `pkg/db/query/host_alert.sql`): what a heartbeat does to the alert states of its host, next to
  operators who edit the rules.

  A heartbeat is evaluated in one step with a fresh cache; `delay` is the time from the evaluator's
  reading of the clock to the statements' `now()`. Times are microseconds and numbers are rationals.
  The tenancy of the hosts is a parameter.
-/

namespace Vraxel.AgentGw

open Relational Db Transition

/-! Rules and heartbeats. -/

structure MetricsSummary where
  cpuUsedPct : Rat
  memUsedPct : Rat
  diskUsedPct : Rat
  load1 : Rat
  load5 : Rat
  load15 : Rat
  netRxBps : Rat
  netTxBps : Rat

def summaryValue (m : MetricsSummary) (metric : String) : Option Rat :=
  match metric with
  | "cpu_used_pct" => some m.cpuUsedPct
  | "mem_used_pct" => some m.memUsedPct
  | "disk_used_pct" => some m.diskUsedPct
  | "load1" => some m.load1
  | "load5" => some m.load5
  | "load15" => some m.load15
  | "net_rx_bps" => some m.netRxBps
  | "net_tx_bps" => some m.netTxBps
  | _ => none

def breaches (value : Rat) (op : String) (threshold : Rat) : Bool :=
  match op with
  | "gt" => value > threshold
  | "ge" => value ≥ threshold
  | "lt" => value < threshold
  | "le" => value ≤ threshold
  | _ => false

def Breaches (m : MetricsSummary) (r : HostAlertRuleRow) : Prop :=
  ∃ value, summaryValue m r.metric = some value ∧ breaches value r.op r.threshold

instance (m : MetricsSummary) (r : HostAlertRuleRow) : Decidable (Breaches m r) :=
  decidable_of_iff ((summaryValue m r.metric).any (breaches · r.op r.threshold)) (by simp [Breaches, Option.any_eq_true])

def appliesTo (r : HostAlertRuleRow) (workspaceID namespaceID : Option Int) : Bool :=
  match r.scope with
  | .platform => true
  | .workspace => r.workspaceID.isSome ∧ r.workspaceID = workspaceID
  | .namespace => r.namespaceID.isSome ∧ r.namespaceID = namespaceID

structure AlertStateRow where
  hostID : Int
  ruleID : Int
  breachedSince : Int
  firing : Bool
  firingSince : Option Int
  value : Rat
  deriving DecidableEq

structure Beat where
  hostID : Int
  time : Int
  metrics : MetricsSummary

structure Fired where
  rule : HostAlertRuleRow
  time : Int
  beats : List Beat

structure Alerts where
  rules : Table HostAlertRuleRow
  states : List AlertStateRow
  now : Int
  beats : List Beat
  fired : List Fired

variable (a : Alerts)

namespace Alerts

def init (rules : Table HostAlertRuleRow) (now : Int) : Alerts := ⟨rules, [], now, [], []⟩

def of (hostID ruleID : Int) (st : AlertStateRow) : Bool := st.hostID = hostID ∧ st.ruleID = ruleID

def recordBreach (hostID ruleID : Int) (value : Rat) (now : Int) : Alerts :=
  if a.states.any (of hostID ruleID) then a
  else { a with states := a.states ++ [⟨hostID, ruleID, now, false, none, value⟩] }

def markFiring (hostID ruleID : Int) (value : Rat) (now : Int) : Alerts :=
  { a with
    states := a.states.map fun st =>
      if of hostID ruleID st ∧ !st.firing then { st with firing := true, firingSince := some now, value := value } else st }

def clear (hostID ruleID : Int) : Alerts :=
  { a with states := a.states.filter (!of hostID ruleID ·) }

def onHost (hostID : Int) (b : Beat) : Bool := b.hostID = hostID

def remember (hostID : Int) (r : HostAlertRuleRow) : Alerts :=
  { a with fired := a.fired ++ [⟨r, a.now, a.beats.filter (onHost hostID)⟩] }

/-- The body of the loop; `byRule` are the states that were read before it. -/
def evalRule (hostID : Int) (m : MetricsSummary) (delay : Nat) (byRule : Int → Option AlertStateRow) (a : Alerts)
    (r : HostAlertRuleRow) : Alerts :=
  match summaryValue m r.metric with
  | none => a
  | some value =>
    if breaches value r.op r.threshold then
      match byRule r.id with
      | none => a.recordBreach hostID r.id value (a.now + delay)
      | some st =>
        if !st.firing ∧ a.now - st.breachedSince ≥ r.forSeconds * 1000000 then
          (a.remember hostID r).markFiring hostID r.id value (a.now + delay)
        else a
    else if (byRule r.id).isSome then a.clear hostID r.id
    else a

def enabledRules : List HostAlertRuleRow := a.rules.select (·.enabled)

def applicable (workspaceID namespaceID : Option Int) : List HostAlertRuleRow :=
  a.enabledRules.filter (appliesTo · workspaceID namespaceID)

def statesOf (hostID : Int) : List AlertStateRow := a.states.filter (·.hostID = hostID)

def byRule (states : List AlertStateRow) (id : Int) : Option AlertStateRow := states.find? (·.ruleID = id)

def log (hostID : Int) (m : MetricsSummary) : Alerts :=
  { a with beats := a.beats ++ [⟨hostID, a.now, m⟩] }

def clearOrphans (applicable : List HostAlertRuleRow) (hostID : Int) (states : List AlertStateRow) (a : Alerts) : Alerts :=
  states.foldl (fun a st => if applicable.any (·.id = st.ruleID) then a else a.clear hostID st.ruleID) a

def evaluate (workspaceID namespaceID : Option Int) (hostID : Int) (m : MetricsSummary) (delay : Nat) : Alerts :=
  let applicable := a.applicable workspaceID namespaceID
  if applicable = [] then a.log hostID m
  else
    let states := a.statesOf hostID
    clearOrphans applicable hostID states
      (applicable.foldl (evalRule hostID m delay (byRule states)) (a.log hostID m))

def updateRule (id : Int) (sf : Compute.Filter) (input : Compute.AlertRuleInput) : Alerts :=
  { a with
    rules := a.rules.update
      (fun r => r.id = id && passes sf.workspaceID r.workspaceID && passes sf.namespaceID r.namespaceID)
      fun r => { r with
        name := input.name
        description := input.description
        metric := input.metric
        op := input.op
        threshold := input.threshold
        forSeconds := input.forSeconds
        severity := input.severity
        enabled := input.enabled } }

def sweepDisabled : Alerts :=
  { a with states := a.states.filter fun st => !a.rules.exists? fun r => r.id = st.ruleID ∧ !r.enabled }

end Alerts

inductive AlertEvent where
  | beat (hostID : Int) (metrics : Option MetricsSummary) (delay : Nat)
  | updateRule (id : Int) (sf : Compute.Filter) (input : Compute.AlertRuleInput)
  | sweepDisabled
  | tick (d : Nat)

/-- The workspace and the namespace of a host. -/
abbrev HostScopes := Int → Option Int × Option Int

def alertStep (scopes : HostScopes) (a : Alerts) : AlertEvent → Alerts
  | .beat _ none _ => a
  | .beat hostID (some m) delay =>
    { a.evaluate (scopes hostID).1 (scopes hostID).2 hostID m delay with now := a.now + delay }
  | .updateRule id sf input => a.updateRule id sf input
  | .sweepDisabled => a.sweepDisabled
  | .tick d => { a with now := a.now + d }

/-- The heartbeats of the last `for_seconds`, and the one that is evaluated, breach the rule. -/
def Fired.Justified (f : Fired) : Prop :=
  ∀ b ∈ f.beats, f.time - f.rule.forSeconds * 1000000 < b.time → Breaches b.metrics f.rule

instance (f : Fired) : Decidable f.Justified := List.decidableBAll _ _

/-- The last heartbeat of the host of a firing row breaches the rule. -/
def Alerts.FiringHolds : Prop :=
  ∀ st ∈ a.states, st.firing → ∀ r ∈ a.rules, r.id = st.ruleID →
    ∃ b, (a.beats.filter (Alerts.onHost st.hostID)).getLast? = some b ∧ Breaches b.metrics r

/-- A rule that some host has a state for keeps its metric, operator and threshold and stays on or off. -/
def KeepsConditions : AlertEvent → Prop
  | .updateRule id _ input => a.states.any (·.ruleID = id) → ∀ r ∈ a.rules, r.id = id →
    input.metric = r.metric ∧ input.op = r.op ∧ input.threshold = r.threshold ∧ input.enabled = r.enabled
  | _ => True

/-! What one heartbeat leaves in the tables. -/

theorem summaryValue_none_iff (m m' : MetricsSummary) (metric : String) :
    summaryValue m metric = none ↔ summaryValue m' metric = none := by
  unfold summaryValue
  split <;> simp

variable {r : HostAlertRuleRow} {hostID : Int}

namespace Alerts

/-- The row is still the one that began then. -/
def Carries (old st : AlertStateRow) : Prop :=
  st.hostID = old.hostID ∧ st.ruleID = old.ruleID ∧ st.breachedSince = old.breachedSince

theorem Carries.refl (st : AlertStateRow) : Carries st st := ⟨rfl, rfl, rfl⟩

theorem Carries.trans {s t u : AlertStateRow} (h : Carries s t) (h' : Carries t u) : Carries s u :=
  ⟨h'.1.trans h.1, h'.2.1.trans h.2.1, h'.2.2.trans h.2.2⟩

variable {st : AlertStateRow}

theorem mem_recordBreach {a : Alerts} {ruleID : Int} {value : Rat} {now : Int}
    (h : st ∈ (a.recordBreach hostID ruleID value now).states) :
    st ∈ a.states ∨ st = ⟨hostID, ruleID, now, false, none, value⟩ := by
  unfold recordBreach at h
  split at h
  · exact Or.inl h
  · simpa using h

theorem mem_markFiring {a : Alerts} {ruleID : Int} {value : Rat} {now : Int}
    (h : st ∈ (a.markFiring hostID ruleID value now).states) : ∃ old ∈ a.states, Carries old st := by
  obtain ⟨old, hold, heq⟩ := List.mem_map.1 h
  refine ⟨old, hold, ?_⟩
  rw [← heq]
  split
  · exact ⟨rfl, rfl, rfl⟩
  · exact Carries.refl old

theorem mem_clear {a : Alerts} {ruleID : Int} :
    st ∈ (a.clear hostID ruleID).states ↔ st ∈ a.states ∧ ¬ (st.hostID = hostID ∧ st.ruleID = ruleID) := by
  simp [clear, of, imp_iff_not_or]

section Loop

variable {hostID : Int} {m : MetricsSummary} {delay : Nat} {byRule : Int → Option AlertStateRow}

theorem evalRule_frame (a : Alerts) (r : HostAlertRuleRow) :
    let b := evalRule hostID m delay byRule a r
    b.rules = a.rules ∧ b.now = a.now ∧ b.beats = a.beats := by
  unfold evalRule recordBreach
  repeat' split
  all_goals exact ⟨rfl, rfl, rfl⟩

/-- A state that had been read is kept only if the heartbeat breaches the rule. -/
def Kept (hostID : Int) (m : MetricsSummary) (byRule : Int → Option AlertStateRow) (st : AlertStateRow)
    (r : HostAlertRuleRow) : Prop :=
  st.hostID = hostID → st.ruleID = r.id → (byRule r.id).isSome → summaryValue m r.metric ≠ none → Breaches m r

/-- A state that this heartbeat began. -/
def Began (hostID : Int) (m : MetricsSummary) (time : Int) (st : AlertStateRow) (r : HostAlertRuleRow) : Prop :=
  st.hostID = hostID ∧ st.ruleID = r.id ∧ st.breachedSince = time ∧ Breaches m r

theorem mem_evalRule {a : Alerts} {st : AlertStateRow}
    (h : st ∈ (evalRule hostID m delay byRule a r).states) :
    (∃ old ∈ a.states, Carries old st ∧ Kept hostID m byRule st r) ∨ Began hostID m (a.now + delay) st r := by
  unfold evalRule at h
  split at h
  case h_1 hvalue => exact Or.inl ⟨st, h, Carries.refl st, fun _ _ _ hne => absurd hvalue hne⟩
  case h_2 value hvalue =>
    by_cases hb : breaches value r.op r.threshold
    · have hbreach : Breaches m r := ⟨value, hvalue, hb⟩
      rw [if_pos hb] at h
      split at h
      · rcases mem_recordBreach h with h | h
        · exact Or.inl ⟨st, h, Carries.refl st, fun _ _ _ _ => hbreach⟩
        · exact Or.inr (h ▸ ⟨rfl, rfl, rfl, hbreach⟩)
      · split at h
        · obtain ⟨old, hold, hcarries⟩ := mem_markFiring h
          exact Or.inl ⟨old, hold, hcarries, fun _ _ _ _ => hbreach⟩
        · exact Or.inl ⟨st, h, Carries.refl st, fun _ _ _ _ => hbreach⟩
    · rw [if_neg hb] at h
      split at h
      · have hmem := mem_clear.1 h
        exact Or.inl ⟨st, hmem.1, Carries.refl st, fun hhost hrule _ _ => absurd ⟨hhost, hrule⟩ hmem.2⟩
      · next hseen => exact Or.inl ⟨st, h, Carries.refl st, fun _ _ hsome _ => absurd hsome hseen⟩

/-- What is marked as firing is a rule that the heartbeat breaches, of a state old enough. -/
def Marked (hostID : Int) (m : MetricsSummary) (byRule : Int → Option AlertStateRow) (f : Fired)
    (r : HostAlertRuleRow) : Prop :=
  f = ⟨r, a.now, a.beats.filter (onHost hostID)⟩ ∧ Breaches m r ∧
    ∃ st, byRule r.id = some st ∧ a.now - st.breachedSince ≥ r.forSeconds * 1000000

theorem fired_evalRule {a : Alerts} {f : Fired}
    (h : f ∈ (evalRule hostID m delay byRule a r).fired) : f ∈ a.fired ∨ Marked a hostID m byRule f r := by
  unfold evalRule at h
  split at h
  case h_1 => exact Or.inl h
  case h_2 value hvalue =>
    by_cases hb : breaches value r.op r.threshold
    · rw [if_pos hb] at h
      split at h
      · unfold recordBreach at h
        split at h <;> exact Or.inl h
      · next st hst =>
        split at h
        · next hfire =>
          rcases List.mem_append.1 h with h | h
          · exact Or.inl h
          · exact Or.inr ⟨List.mem_singleton.1 h, ⟨value, hvalue, hb⟩, st, hst, hfire.2⟩
        · exact Or.inl h
    · rw [if_neg hb] at h
      split at h <;> exact Or.inl h

variable (hostID m delay byRule) in
theorem foldl_frame (rs : List HostAlertRuleRow) (a : Alerts) :
    let b := rs.foldl (evalRule hostID m delay byRule) a
    b.rules = a.rules ∧ b.now = a.now ∧ b.beats = a.beats := by
  induction rs generalizing a with
  | nil => exact ⟨rfl, rfl, rfl⟩
  | cons r rs ih =>
    obtain ⟨hrules, hnow, hbeats⟩ := ih (evalRule hostID m delay byRule a r)
    exact ⟨hrules.trans (evalRule_frame a r).1, hnow.trans (evalRule_frame a r).2.1,
      hbeats.trans (evalRule_frame a r).2.2⟩

theorem mem_foldl {rs : List HostAlertRuleRow} {a : Alerts} {st : AlertStateRow}
    (h : st ∈ (rs.foldl (evalRule hostID m delay byRule) a).states) :
    (∃ old ∈ a.states, Carries old st ∧ ∀ r ∈ rs, Kept hostID m byRule st r) ∨
      ∃ r ∈ rs, Began hostID m (a.now + delay) st r := by
  -- induction on the rules that are left; a state seen at the end goes back through each of them
  induction rs generalizing a with
  | nil => exact Or.inl ⟨st, h, Carries.refl st, by simp⟩
  | cons r rs ih =>
    rcases ih h with ⟨mid, hmid, hcarries, hkept⟩ | ⟨r', hr', hbegan⟩
    · rcases mem_evalRule hmid with ⟨old, hold, hcarries', hkept'⟩ | ⟨hhost, hrule, hsince, hbreach⟩
      · refine Or.inl ⟨old, hold, hcarries'.trans hcarries, ?_⟩
        intro r' hr'
        rcases List.mem_cons.1 hr' with rfl | hr'
        · intro hhost hrule
          exact hkept' (hcarries.1 ▸ hhost) (hcarries.2.1 ▸ hrule)
        · exact hkept r' hr'
      · exact Or.inr ⟨r, List.mem_cons_self, hcarries.1.trans hhost, hcarries.2.1.trans hrule,
          hcarries.2.2.trans hsince, hbreach⟩
    · rw [(evalRule_frame a r).2.1] at hbegan
      exact Or.inr ⟨r', List.mem_cons_of_mem r hr', hbegan⟩

theorem fired_foldl {rs : List HostAlertRuleRow} {a : Alerts} {f : Fired}
    (h : f ∈ (rs.foldl (evalRule hostID m delay byRule) a).fired) :
    f ∈ a.fired ∨ ∃ r ∈ rs, Marked a hostID m byRule f r := by
  induction rs generalizing a with
  | nil => exact Or.inl h
  | cons r rs ih =>
    rcases ih h with h | ⟨r', hr', hmarked⟩
    · rcases fired_evalRule h with h | h
      · exact Or.inl h
      · exact Or.inr ⟨r, List.mem_cons_self, h⟩
    · unfold Marked at hmarked
      rw [(evalRule_frame a r).2.1, (evalRule_frame a r).2.2] at hmarked
      exact Or.inr ⟨r', List.mem_cons_of_mem r hr', hmarked⟩

end Loop

theorem clearOrphans_frame (applicable : List HostAlertRuleRow) (hostID : Int) (states : List AlertStateRow) (a : Alerts) :
    let b := clearOrphans applicable hostID states a
    b.rules = a.rules ∧ b.now = a.now ∧ b.beats = a.beats ∧ b.fired = a.fired := by
  unfold clearOrphans
  induction states generalizing a with
  | nil => exact ⟨rfl, rfl, rfl, rfl⟩
  | cons st states ih =>
    rw [List.foldl_cons]
    split
    · exact ih a
    · exact ih (a.clear hostID st.ruleID)

theorem mem_clearOrphans {applicable : List HostAlertRuleRow} {states : List AlertStateRow} {a : Alerts}
    (h : st ∈ (clearOrphans applicable hostID states a).states) :
    st ∈ a.states ∧ ∀ s ∈ states, st.hostID = hostID → s.ruleID = st.ruleID → ∃ r ∈ applicable, r.id = st.ruleID := by
  unfold clearOrphans at h
  induction states generalizing a with
  | nil => exact ⟨h, by simp⟩
  | cons s states ih =>
    rw [List.foldl_cons] at h
    split at h
    · next hany =>
      obtain ⟨hst, hrest⟩ := ih h
      refine ⟨hst, List.forall_mem_cons.2 ⟨fun _ hrule => ?_, hrest⟩⟩
      simpa [hrule] using hany
    · obtain ⟨hst, hrest⟩ := ih h
      obtain ⟨hst, hother⟩ := mem_clear.1 hst
      exact ⟨hst, List.forall_mem_cons.2 ⟨fun hhost hrule => absurd ⟨hhost, hrule.symm⟩ hother, hrest⟩⟩

end Alerts

def LastBreaches (beats : List Beat) (hostID : Int) (r : HostAlertRuleRow) : Prop :=
  ∃ b, (beats.filter (Alerts.onHost hostID)).getLast? = some b ∧ Breaches b.metrics r

/-- Every heartbeat of the host after that time breaches the rule. -/
def BreachesSince (beats : List Beat) (hostID since : Int) (r : HostAlertRuleRow) : Prop :=
  ∀ b ∈ beats, b.hostID = hostID → since < b.time → Breaches b.metrics r

/-- A state stands for a rule that is on, that applies to the host and that the host has breached since. -/
def Standing (scopes : HostScopes) (a : Alerts) (st : AlertStateRow) : Prop :=
  ∃ r ∈ a.rules, r.id = st.ruleID ∧ r.enabled ∧ appliesTo r (scopes st.hostID).1 (scopes st.hostID).2 ∧
    BreachesSince a.beats st.hostID st.breachedSince r ∧ LastBreaches a.beats st.hostID r

structure AlertInv (scopes : HostScopes) (a : Alerts) : Prop where
  standing : ∀ st ∈ a.states, Standing scopes a st
  past : ∀ b ∈ a.beats, b.time ≤ a.now
  justified : ∀ f ∈ a.fired, f.Justified

theorem alertInv_init (scopes : HostScopes) (rules : Table HostAlertRuleRow) (now : Int) :
    AlertInv scopes (Alerts.init rules now) where
  standing := by simp [Alerts.init]
  past := by simp [Alerts.init]
  justified := by simp [Alerts.init]

variable {st : AlertStateRow}

theorem Standing.carry {scopes : HostScopes} {a b : Alerts} {old : AlertStateRow} (h : Standing scopes a old)
    (hcarries : Alerts.Carries old st) (hrules : b.rules = a.rules) (hbeats : b.beats = a.beats) :
    Standing scopes b st := by
  obtain ⟨hhost, hrule, hsince⟩ := hcarries
  unfold Standing
  rw [hrules, hbeats, hhost, hrule, hsince]
  exact h

theorem Standing.rule {scopes : HostScopes} {a : Alerts} (h : Standing scopes a st) (hr : r ∈ a.rules) (hid : r.id = st.ruleID) :
    BreachesSince a.beats st.hostID st.breachedSince r ∧ LastBreaches a.beats st.hostID r := by
  obtain ⟨r', hr', hid', _, _, hbreaches⟩ := h
  have heq : r' = r := a.rules.eq_of_key_eq hr' hr (hid'.trans hid.symm)
  exact heq ▸ hbreaches

/-! One more heartbeat. -/

section Beats

variable {beats : List Beat} {hostID now : Int} {m : MetricsSummary}

variable {r : HostAlertRuleRow}

theorem LastBreaches.snoc (beats : List Beat) (now : Int) (h : Breaches m r) :
    LastBreaches (beats ++ [⟨hostID, now, m⟩]) hostID r :=
  ⟨⟨hostID, now, m⟩, by simp [Alerts.onHost], h⟩

theorem LastBreaches.snoc_of_ne {host : Int} (h : LastBreaches beats host r)
    (hne : host ≠ hostID) : LastBreaches (beats ++ [⟨hostID, now, m⟩]) host r := by
  obtain ⟨b, hlast, hb⟩ := h
  exact ⟨b, by simpa [Alerts.onHost, List.filter_append, hne.symm] using hlast, hb⟩

theorem BreachesSince.snoc {host since : Int} (h : BreachesSince beats host since r)
    (hm : host = hostID → Breaches m r) : BreachesSince (beats ++ [⟨hostID, now, m⟩]) host since r := by
  intro b hb hhost hsince
  rcases List.mem_append.1 hb with hb | hb
  · exact h b hb hhost hsince
  · rw [List.mem_singleton.1 hb] at hhost ⊢
    exact hm hhost.symm

theorem breachesSince_of_past {host since : Int} (hpast : ∀ b ∈ beats, b.time ≤ since) :
    BreachesSince beats host since r := by
  intro b hb _ hsince
  exact absurd hsince (Int.not_lt.2 (hpast b hb))

end Beats

theorem LastBreaches.metric_known {beats : List Beat}
    (h : LastBreaches beats hostID r) (m : MetricsSummary) : summaryValue m r.metric ≠ none := by
  obtain ⟨b, _, value, hvalue, _⟩ := h
  intro hnone
  rw [(summaryValue_none_iff m b.metrics r.metric).1 hnone] at hvalue
  cases hvalue

section Evaluate

variable {scopes : HostScopes} {a : Alerts} {hostID : Int} {m : MetricsSummary} {delay : Nat}

theorem mem_applicable {workspaceID namespaceID : Option Int} :
    r ∈ a.applicable workspaceID namespaceID ↔
      r ∈ a.rules ∧ r.enabled ∧ appliesTo r workspaceID namespaceID := by
  simp [Alerts.applicable, Alerts.enabledRules, and_assoc]

theorem byRule_isSome (hst : st ∈ a.states) :
    (Alerts.byRule (a.statesOf st.hostID) st.ruleID).isSome := by
  unfold Alerts.byRule Alerts.statesOf
  rw [List.find?_isSome]
  exact ⟨st, by simpa using hst, by simp⟩

theorem byRule_some {id : Int} (h : Alerts.byRule (a.statesOf hostID) id = some st) :
    st ∈ a.states ∧ st.hostID = hostID ∧ st.ruleID = id := by
  have hmem := List.mem_of_find?_eq_some h
  have hid := List.find?_some h
  simp only [Alerts.statesOf, List.mem_filter, decide_eq_true_eq] at hmem hid
  exact ⟨hmem.1, hmem.2, hid⟩

theorem standing_evalRules (h : AlertInv scopes a)
    (hst : st ∈ ((a.applicable (scopes hostID).1 (scopes hostID).2).foldl
      (Alerts.evalRule hostID m delay (Alerts.byRule (a.statesOf hostID))) (a.log hostID m)).states) :
    Standing scopes (a.log hostID m) st := by
  rcases Alerts.mem_foldl hst with ⟨old, hold, hcarries, hkept⟩ | ⟨r, hr, hhost, hrule, hsince, hbreach⟩
  · obtain ⟨r, hr, hid, hon, happlies, hbreaches, hlast⟩ := h.standing old hold
    have hm : old.hostID = hostID → Breaches m r := by
      intro hhost
      refine hkept r (mem_applicable.2 ⟨hr, hon, hhost ▸ happlies⟩) (hcarries.1.trans hhost)
        (hcarries.2.1.trans hid.symm) ?_ (hlast.metric_known m)
      rw [hid, ← hhost]
      exact byRule_isSome hold
    have hlast' : LastBreaches (a.log hostID m).beats old.hostID r := by
      by_cases hhost : old.hostID = hostID
      · exact hhost ▸ LastBreaches.snoc a.beats a.now (hm hhost)
      · exact hlast.snoc_of_ne hhost
    have hstanding : Standing scopes (a.log hostID m) old :=
      ⟨r, hr, hid, hon, happlies, hbreaches.snoc hm, hlast'⟩
    exact hstanding.carry hcarries rfl rfl
  · obtain ⟨hr, hon, happlies⟩ := mem_applicable.1 hr
    refine ⟨r, hr, hrule.symm, hon, hhost ▸ happlies, ?_, hhost ▸ LastBreaches.snoc a.beats a.now hbreach⟩
    -- the state begins now, so that no heartbeat is later
    rw [hsince]
    have hpast : BreachesSince a.beats st.hostID (a.now + delay) r :=
      breachesSince_of_past fun b hb => by have := h.past b hb; omega
    exact hpast.snoc fun _ => hbreach

theorem justified_of_marked (h : AlertInv scopes a) {f : Fired}
    (hr : r ∈ a.applicable (scopes hostID).1 (scopes hostID).2)
    (hmarked : Alerts.Marked (a.log hostID m) hostID m (Alerts.byRule (a.statesOf hostID)) f r) : f.Justified := by
  obtain ⟨rfl, hbreach, st, hst, hfor⟩ := hmarked
  obtain ⟨hmem, hhost, hid⟩ := byRule_some hst
  have hsince := ((h.standing st hmem).rule (mem_applicable.1 hr).1 hid.symm).1
  intro b hb htime
  obtain ⟨hb, hhost'⟩ := List.mem_filter.1 hb
  simp only [Alerts.onHost, decide_eq_true_eq] at hhost'
  have hall : BreachesSince (a.log hostID m).beats st.hostID st.breachedSince r := hsince.snoc fun _ => hbreach
  refine hall b hb (hhost'.trans hhost.symm) ?_
  dsimp only at htime
  omega

theorem alertInv_beat (h : AlertInv scopes a) :
    AlertInv scopes (alertStep scopes a (.beat hostID (some m) delay)) := by
  have hpast : ∀ b ∈ (a.log hostID m).beats, b.time ≤ a.now + delay := by
    intro b hb
    rcases List.mem_append.1 hb with hb | hb
    · have := h.past b hb
      omega
    · rw [List.mem_singleton.1 hb]
      dsimp only
      omega
  simp only [alertStep, Alerts.evaluate]
  split
  case isTrue hnone =>
    refine ⟨?_, hpast, h.justified⟩
    intro st hst
    obtain ⟨r, hr, hid, hon, happlies, hbreaches, hlast⟩ := h.standing st hst
    -- no rule applies to the host, so that the state is of another one
    have hne : st.hostID ≠ hostID := by
      intro hhost
      have hmem : r ∈ a.applicable (scopes hostID).1 (scopes hostID).2 :=
        mem_applicable.2 ⟨hr, hon, hhost ▸ happlies⟩
      simp [hnone] at hmem
    exact ⟨r, hr, hid, hon, happlies, hbreaches.snoc fun hhost => absurd hhost hne, hlast.snoc_of_ne hne⟩
  case isFalse =>
    obtain ⟨hrules, _, hbeats, hfired⟩ := Alerts.clearOrphans_frame (a.applicable (scopes hostID).1 (scopes hostID).2)
      hostID (a.statesOf hostID) ((a.applicable (scopes hostID).1 (scopes hostID).2).foldl
        (Alerts.evalRule hostID m delay (Alerts.byRule (a.statesOf hostID))) (a.log hostID m))
    obtain ⟨hrules', _, hbeats'⟩ := Alerts.foldl_frame hostID m delay (Alerts.byRule (a.statesOf hostID))
      (a.applicable (scopes hostID).1 (scopes hostID).2) (a.log hostID m)
    refine ⟨?_, ?_, ?_⟩
    · intro st hst
      exact (standing_evalRules h (Alerts.mem_clearOrphans hst).1).carry (Alerts.Carries.refl st)
        (hrules.trans hrules') (hbeats.trans hbeats')
    · intro b hb
      exact hpast b (hbeats.trans hbeats' ▸ hb)
    · intro f hf
      rcases Alerts.fired_foldl (hfired ▸ hf) with hf | ⟨r, hr, hmarked⟩
      · exact h.justified f hf
      · exact justified_of_marked h hr hmarked

end Evaluate

/-! The other steps. -/

variable {r' : HostAlertRuleRow}

section Steps

theorem breaches_congr (hmetric : r'.metric = r.metric) (hop : r'.op = r.op)
    (hthreshold : r'.threshold = r.threshold) (m : MetricsSummary) : Breaches m r' ↔ Breaches m r := by
  unfold Breaches
  rw [hmetric, hop, hthreshold]

theorem BreachesSince.mono {beats : List Beat} {since : Int}
    (h : BreachesSince beats hostID since r) (hmono : ∀ m, Breaches m r → Breaches m r') :
    BreachesSince beats hostID since r' :=
  fun b hb hhost hsince => hmono b.metrics (h b hb hhost hsince)

theorem LastBreaches.mono {beats : List Beat}
    (h : LastBreaches beats hostID r) (hmono : ∀ m, Breaches m r → Breaches m r') : LastBreaches beats hostID r' := by
  obtain ⟨b, hlast, hb⟩ := h
  exact ⟨b, hlast, hmono b.metrics hb⟩

variable {scopes : HostScopes} {a : Alerts}

theorem alertInv_updateRule (h : AlertInv scopes a) {id : Int} {sf : Compute.Filter} {input : Compute.AlertRuleInput}
    (hkeep : KeepsConditions a (.updateRule id sf input)) : AlertInv scopes (a.updateRule id sf input) := by
  refine ⟨?_, h.past, h.justified⟩
  intro st hst
  obtain ⟨r, hr, hid, hon, happlies, hbreaches, hlast⟩ := h.standing st hst
  by_cases hp : (r.id = id && passes sf.workspaceID r.workspaceID && passes sf.namespaceID r.namespaceID) = true
  · have hrid : r.id = id := by
      simp only [Bool.and_eq_true, decide_eq_true_eq] at hp
      exact hp.1.1
    have hstate : a.states.any (·.ruleID = id) := by
      rw [List.any_eq_true]
      exact ⟨st, hst, by simp [← hid, hrid]⟩
    obtain ⟨hmetric, hop, hthreshold, henabled⟩ := hkeep hstate r hr hrid
    exact ⟨_, Table.mem_update.2 ⟨r, hr, (if_pos hp).symm⟩, hid, henabled.trans hon, happlies,
      hbreaches.mono fun m => (breaches_congr hmetric hop hthreshold m).2,
      hlast.mono fun m => (breaches_congr hmetric hop hthreshold m).2⟩
  · exact ⟨r, Table.mem_update.2 ⟨r, hr, (if_neg hp).symm⟩, hid, hon, happlies, hbreaches, hlast⟩

theorem alertInv_sweepDisabled (h : AlertInv scopes a) : AlertInv scopes a.sweepDisabled where
  standing := fun st hst => h.standing st (List.mem_filter.1 hst).1
  past := h.past
  justified := h.justified

theorem alertInv_tick (h : AlertInv scopes a) (d : Nat) : AlertInv scopes { a with now := a.now + d } where
  standing := h.standing
  past := fun b hb => by
    have := h.past b hb
    dsimp only
    omega
  justified := h.justified

theorem alertInv_step (e : AlertEvent) (h : AlertInv scopes a) (he : KeepsConditions a e) :
    AlertInv scopes (alertStep scopes a e) := by
  cases e with
  | beat hostID metrics delay =>
    cases metrics with
    | none => exact h
    | some m => exact alertInv_beat h
  | updateRule id sf input => exact alertInv_updateRule h he
  | sweepDisabled => exact alertInv_sweepDisabled h
  | tick d => exact alertInv_tick h d

end Steps

/-- The rule as it reads when it fires was breached for as long as it asks for, and what is left
firing is breached still, if the rules of the states that exist are left as they are. -/
theorem fires_on_current_rule (scopes : HostScopes) (rules : Table HostAlertRuleRow) (now : Int) (es : List AlertEvent)
    (h : Along (alertStep scopes) KeepsConditions (Alerts.init rules now) es) :
    ∀ a ∈ states (alertStep scopes) (Alerts.init rules now) es,
      (∀ f ∈ a.fired, f.Justified) ∧ a.FiringHolds := by
  intro a ha
  have hinv : AlertInv scopes a :=
    forall_states_of_along (fun _ e hinv he => alertInv_step e hinv he) (alertInv_init scopes rules now) h a ha
  refine ⟨hinv.justified, ?_⟩
  intro st hst _ r hr hid
  exact ((hinv.standing st hst).rule hr hid).2

/-! Rule 1, on the whole platform: the processor is used for more than half over a minute. -/

def busy (threshold : Rat) (enabled : Bool) : Compute.AlertRuleInput :=
  ⟨"busy", "", "cpu_used_pct", "gt", threshold, 60, "warning", enabled⟩

def busyRules : Table HostAlertRuleRow :=
  .ofRows [⟨1, "busy", "", .platform, none, none, "cpu_used_pct", "gt", 50, 60, "warning", true, none⟩] 2 (by decide)

def cpu (used : Rat) : Option MetricsSummary := some ⟨used, 0, 0, 0, 0, 0, 0, 0⟩

def editRule (threshold : Rat) (enabled : Bool) : AlertEvent := .updateRule 1 ⟨none, none⟩ (busy threshold enabled)

def busyMinute : List AlertEvent :=
  [.beat 7 (cpu 60) 1000, .tick 60000000, .beat 7 (cpu 60) 1000, .sweepDisabled, .beat 7 (cpu 10) 1000, editRule 80 true]

theorem busy_minute_fires :
    ((run (alertStep fun _ => (none, none)) (Alerts.init busyRules 0) busyMinute).fired.map (·.rule.id)) = [1] ∧
    ∀ a ∈ states (alertStep fun _ => (none, none)) (Alerts.init busyRules 0) busyMinute,
      (∀ f ∈ a.fired, f.Justified) ∧ a.FiringHolds := by
  refine ⟨by decide, fires_on_current_rule _ _ _ _ ⟨trivial, trivial, trivial, trivial, trivial, ?_, trivial⟩⟩
  intro hstate
  revert hstate
  decide

def editedRun : List AlertEvent :=
  [.beat 7 (cpu 60) 1000, .tick 30000000, .beat 7 (cpu 60) 1000, .tick 31000000, editRule 80 true, .beat 7 (cpu 85) 1000]

def pausedRun : List AlertEvent :=
  [.beat 7 (cpu 60) 1000, .tick 30000000, editRule 50 false, .tick 1000000, .beat 7 (cpu 10) 1000, .tick 1000000,
    editRule 50 true, .tick 30000000, .beat 7 (cpu 60) 1000]

/-- Both fire on a heartbeat of the last minute that the rule is not breached by. -/
theorem stale_breach_fires :
    (¬ ∀ f ∈ (run (alertStep fun _ => (none, none)) (Alerts.init busyRules 0) editedRun).fired, f.Justified) ∧
    ¬ ∀ f ∈ (run (alertStep fun _ => (none, none)) (Alerts.init busyRules 0) pausedRun).fired, f.Justified := by
  decide

end Vraxel.AgentGw
