import Vraxel.Lib.Retry
import Vraxel.Ansible.Task
/-
  Skips and retries of a task's items (`executeWithRetry`, `executeModule`, `execTaskHost` in
  `lib/ansible/executor/task.go`).
-/

namespace Vraxel.Ansible

open Retry

variable (task : TaskSpec)

def conditions (a : Attempt) : Option Bool :=
  if a.varsAreMap then (if task.when = [] then .ok true else a.when).toOption else none

def reaches (a : Attempt) : Bool := conditions task a = some true ∧ a.connector.isOk

def succeeds (a : Attempt) : Bool :=
  reaches task a && (if task.failedWhen ≠ [] then a.failedWhen.toOption = some false else a.err.isNone) &&
    (task.changedWhen = [] || a.changedWhen.isOk)

def good (a : Attempt) : Bool := if task.until' = [] then succeeds task a else a.until'

def allowed : Nat := (if task.retries = 0 then 1 else task.retries).toNat

def stops (host : String) (a : Attempt) : Bool :=
  if task.until' = [] then (executeModule task host a).1.error = "" else a.until'

def made (host : String) (attempt : Nat → Attempt) : Nat :=
  tries (fun i => stops task host (attempt i)) 0 (allowed task)

def moduleRuns (host : String) (attempt : Nat → Attempt) : Nat :=
  ((List.range (made task host attempt)).filter fun i => reaches task (attempt i)).length

def failsTask (r : TaskResult) : Prop := r.error ≠ "" ∧ task.ignoreErrors ≠ some true

/-- The item is skipped: it is reported so, the module does not run, and there is nothing to fail the task with. -/
structure Skips (task : TaskSpec) (host : String) (attempt : Nat → Attempt) : Prop where
  status : (executeWithRetry task host attempt).1.status = .skipped
  runs : moduleRuns task host attempt = 0
  error : (executeWithRetry task host attempt).1.error = ""

/-- The item is tried until an attempt is good, and fails if none is. -/
structure Persists (task : TaskSpec) (host : String) (attempt : Nat → Attempt) : Prop where
  once : 1 ≤ moduleRuns task host attempt
  most : (moduleRuns task host attempt : Int) ≤ max 1 task.retries
  first : ∀ i < made task host attempt, good task (attempt i) = true → i + 1 = made task host attempt
  all : (∀ i < made task host attempt, good task (attempt i) = false) → (made task host attempt : Int) = max 1 task.retries
  failed : (executeWithRetry task host attempt).1.error ≠ "" ↔ ∀ i < made task host attempt, good task (attempt i) = false

structure Lawful (task : TaskSpec) (host : String) (attempt : Nat → Attempt) : Prop where
  skipped : conditions task (attempt 0) = some false → Skips task host attempt
  ran : conditions task (attempt 0) = some true → Persists task host attempt

/-- Attempts are made; an item that should be skipped has no `until`, or one that is satisfied; one that
should run gets to the module and, without an `until`, is not skipped after all and does not fail
without a text. -/
def Steady (host : String) (attempt : Nat → Attempt) : Prop :=
  match conditions task (attempt 0) with
  | none => True
  | some false =>
    0 ≤ task.retries ∧ (task.until' = [] ∨ ∃ i < allowed task, (attempt i).until' = true ∧
      conditions task (attempt i) = some false ∧ ∀ j < i, (attempt j).until' = false ∧ reaches task (attempt j) = false)
  | some true =>
    if task.until' = [] then
      (∃ i < allowed task, reaches task (attempt i) = true) ∧
        ∀ i < allowed task, (∀ j < i, succeeds task (attempt j) = false) →
          succeeds task (attempt i) = true ∨ (executeModule task host (attempt i)).1.error ≠ ""
    else ∃ i < allowed task, reaches task (attempt i) = true ∧ ∀ j < i, (attempt j).until' = false

def captured (a : Attempt) : Output :=
  ⟨some ⟨trimRightNewlines a.stdout, trimRightNewlines a.stderr, (a.err.bind (·.code)).getD 0⟩, none⟩

variable (host : String)

/-- The result of an attempt by its conditions; one whose conditions cannot be told has failed. -/
theorem executeModule_cases (a : Attempt) :
    (conditions task a = none ∧ (executeModule task host a).1.status = .failed) ∨
    (conditions task a = some false ∧ (executeModule task host a).1 = ⟨host, .skipped, false, none, ""⟩) ∨
    (conditions task a = some true ∧ ∃ e, a.connector = .error e ∧ (executeModule task host a).1 = ⟨host, .failed, false, none, e⟩) ∨
    (conditions task a = some true ∧ a.connector = .ok () ∧ (executeModule task host a).1 =
      executeModuleApplyChanged task a (executeModuleApplyFailure task a ⟨host, .ok, false, some (captured a), ""⟩)) := by
  unfold executeModule conditions
  cases hmap : a.varsAreMap with
  | false => simp
  | true =>
    generalize (if task.when = [] then .ok true else a.when) = w
    cases w with
    | error e => simp [Except.toOption]
    | ok b =>
      cases b with
      | false => simp [Except.toOption]
      | true =>
        cases a.connector with
        | error e => simp [Except.toOption]
        | ok u => simp [Except.toOption, captured]

variable {a : Attempt}

theorem executeModuleApplyChanged_status {task : TaskSpec} {r : TaskResult} (h : r.status ≠ .skipped) :
    (executeModuleApplyChanged task a r).status ≠ .skipped := by
  unfold executeModuleApplyChanged
  split
  · exact h
  · split
    · simp
    · simp
    · exact h

theorem executeModuleApplyFailure_status {task : TaskSpec} {r : TaskResult} (h : r.status ≠ .skipped) :
    (executeModuleApplyFailure task a r).status ≠ .skipped := by
  unfold executeModuleApplyFailure
  split
  · split
    · simp
    · simp
    · exact h
  · split
    · simp
    · exact h

theorem executeModule_skipped_iff (a : Attempt) :
    (executeModule task host a).1.status = .skipped ↔ conditions task a = some false := by
  rcases executeModule_cases task host a with ⟨hc, h⟩ | ⟨hc, h⟩ | ⟨hc, e, -, h⟩ | ⟨hc, -, h⟩
  · simp [hc, h]
  · simp [hc, h]
  · simp [hc, h]
  · rw [h, hc]
    constructor
    · intro hskipped
      exact absurd hskipped (executeModuleApplyChanged_status (executeModuleApplyFailure_status (by simp)))
    · intro hfalse
      cases hfalse

theorem executeModule_error_of_skipped {task : TaskSpec} (h : conditions task a = some false) :
    (executeModule task host a).1.error = "" := by
  rcases executeModule_cases task host a with ⟨hc, _⟩ | ⟨_, hr⟩ | ⟨hc, _⟩ | ⟨hc, _⟩
  · simp [hc] at h
  · rw [hr]
  · simp [hc] at h
  · simp [hc] at h

theorem executeModule_error_of_succeeds {task : TaskSpec} (h : succeeds task a = true) :
    (executeModule task host a).1.error = "" := by
  simp only [succeeds, Bool.and_eq_true] at h
  obtain ⟨⟨hreaches, hfailed⟩, hchanged⟩ := h
  obtain ⟨hconditions, hconnector⟩ := of_decide_eq_true hreaches
  rcases executeModule_cases task host a with ⟨hc, _⟩ | ⟨hc, _⟩ | ⟨_, e, hc, _⟩ | ⟨_, _, hr⟩
  · simp [hc] at hconditions
  · simp [hc] at hconditions
  · simp [hc, Except.isOk, Except.toBool] at hconnector
  · -- neither the failure nor the change conditions leave a text
    have hfailure : executeModuleApplyFailure task a ⟨host, .ok, false, some (captured a), ""⟩ =
        ⟨host, .ok, false, some (captured a), ""⟩ := by
      unfold executeModuleApplyFailure
      by_cases hw : task.failedWhen = []
      · have herr : a.err = none := by simpa [hw] using hfailed
        simp [hw, herr]
      · simp only [hw, ne_eq, not_false_eq_true, if_true, decide_eq_true_eq] at hfailed
        cases hv : a.failedWhen with
        | error e => simp [hv, Except.toOption] at hfailed
        | ok b => simp_all [Except.toOption]
    rw [hr, hfailure]
    unfold executeModuleApplyChanged
    by_cases hw : task.changedWhen = []
    · simp [hw]
    · cases hv : a.changedWhen with
      | error e => simp [hw, hv, Except.isOk, Except.toBool] at hchanged
      | ok b => cases b <;> simp [hw]

def settled (host : String) (a : Attempt) (last : Bool) : TaskResult :=
  (shouldStop task a last (executeModule task host a).1).1

theorem shouldStop_snd (a : Attempt) (last : Bool) :
    (shouldStop task a last (executeModule task host a).1).2 = stops task host a := by
  unfold shouldStop stops
  by_cases hu : task.until' = []
  · simp [hu]
  · cases hsat : a.until' <;> simp [hu]

theorem settled_status (a : Attempt) (last : Bool) :
    (settled task host a last).status = (executeModule task host a).1.status := by
  unfold settled shouldStop
  split
  · split
    · rfl
    · split <;> rfl
  · rfl

section Item

variable {task : TaskSpec} {host : String} {attempt : Nat → Attempt}

theorem retryLoop_eq {r : TaskResult} {i n k : Nat} (h : tries (fun j => stops task host (attempt j)) i n = k + 1) :
    (retryLoop task host attempt r i n).1 = settled task host (attempt (i + k)) (k + 1 = n) := by
  induction n generalizing r i k with
  | zero => simp [tries] at h
  | succ n ih =>
    unfold tries at h
    simp only [retryLoop, shouldStop_snd]
    by_cases hstop : stops task host (attempt i)
    · simp only [hstop, if_true] at h ⊢
      have hk : k = 0 := by omega
      subst hk
      simp [settled]
    · simp only [hstop] at h ⊢
      cases k with
      | zero =>
        -- no attempt is left after this one
        have hn : n = 0 := by
          by_contra hn
          have hpos : 0 < tries (fun j => stops task host (attempt j)) (i + 1) n := tries_pos (by omega)
          simp at h
          omega
        subst hn
        simp [retryLoop, after, settled]
      | succ k =>
        have hnext := ih (r := (shouldStop task (attempt i) (n = 0) (executeModule task host (attempt i)).1).1)
          (i := i + 1) (k := k) (by simpa using h)
        simp only [after, Bool.false_eq_true, if_false, hnext]
        rw [Nat.add_assoc, Nat.add_comm 1 k]
        simp

theorem made_le : made task host attempt ≤ allowed task := tries_le

theorem allowed_pos (h : 0 ≤ task.retries) : 0 < allowed task := by
  unfold allowed
  split <;> omega

theorem allowed_le : (allowed task : Int) ≤ max 1 task.retries := by
  unfold allowed
  split <;> omega

theorem allowed_eq (h : 0 ≤ task.retries) : (allowed task : Int) = max 1 task.retries := by
  unfold allowed
  split <;> omega

theorem retries_nonneg {i : Nat} (h : i < allowed task) : 0 ≤ task.retries := by
  unfold allowed at h
  split at h <;> omega

theorem executeWithRetry_negative (h : task.retries < 0) :
    made task host attempt = 0 ∧ (executeWithRetry task host attempt).1 = ⟨"", .unset, false, none, ""⟩ := by
  have hallowed : allowed task = 0 := by
    unfold allowed
    split <;> omega
  constructor
  · rw [made, hallowed, tries]
  · unfold allowed at hallowed
    simp [executeWithRetry, hallowed, retryLoop]

theorem executeWithRetry_eq {k : Nat} (h : made task host attempt = k + 1) :
    (executeWithRetry task host attempt).1 = settled task host (attempt k) (k + 1 = allowed task) := by
  have heq := retryLoop_eq (r := ⟨"", .unset, false, none, ""⟩) h
  rw [Nat.zero_add] at heq
  exact heq

theorem lt_made {k : Nat} (hk : k < allowed task) (h : ∀ j < k, stops task host (attempt j) = false) :
    k < made task host attempt :=
  lt_tries hk fun j hj => by rw [Nat.zero_add]; exact h j hj

/-- The attempts that are made, if there are any: all but the last do not stop the loop, and the last one
does or is the last that is allowed. -/
theorem exists_last (host : String) (attempt : Nat → Attempt) {i : Nat} (h : i < allowed task) :
    ∃ k, made task host attempt = k + 1 ∧ k < allowed task ∧ (∀ j < k, stops task host (attempt j) = false) ∧
      (k + 1 < allowed task → stops task host (attempt k) = true) := by
  have hmade := exists_tries (fun j => stops task host (attempt j)) 0 (Nat.zero_lt_of_lt h)
  simp only [Nat.zero_add] at hmade
  obtain ⟨k, hk, hrest⟩ := hmade
  exact ⟨k, hrest.1, hk, hrest.2⟩

theorem one_le_moduleRuns_iff : 1 ≤ moduleRuns task host attempt ↔ ∃ i < made task host attempt, reaches task (attempt i) = true := by
  unfold moduleRuns
  rw [Nat.succ_le_iff, List.length_pos_iff_exists_mem]
  simp [List.mem_filter]

theorem moduleRuns_eq_zero_iff :
    moduleRuns task host attempt = 0 ↔ ∀ i < made task host attempt, reaches task (attempt i) = false := by
  unfold moduleRuns
  simp

theorem moduleRuns_le : moduleRuns task host attempt ≤ made task host attempt := by
  exact (List.length_filter_le _ _).trans (by simp)

/-! Items that should be skipped. -/

theorem stops_of_until (hu : task.until' ≠ []) : stops task host a = a.until' := by
  simp [stops, hu]

theorem stops_of_no_until (hu : task.until' = []) : stops task host a = decide ((executeModule task host a).1.error = "") := by
  simp [stops, hu]

theorem settled_of_no_until (hu : task.until' = []) (last : Bool) :
    settled task host a last = (executeModule task host a).1 := by
  simp [settled, shouldStop, hu]

/-- An attempt that satisfies `until` has no error in the end, and one that is the last and does not, has one. -/
theorem settled_error_until (hu : task.until' ≠ []) {last : Bool} (hlast : a.until' = true ∨ last = true) :
    (settled task host a last).error = "" ↔ a.until' = true := by
  unfold settled shouldStop
  cases hsat : a.until' with
  | true => simp [hu]
  | false =>
    have hlast : last = true := by simpa [hsat] using hlast
    simp only [ne_eq, hu, not_false_eq_true, if_true, hlast, true_and, Bool.false_eq_true, if_false, iff_false]
    split
    · simp
    · assumption

theorem skipped_of_no_until (hu : task.until' = []) (hr : 0 ≤ task.retries) (h0 : conditions task (attempt 0) = some false) :
    Skips task host attempt := by
  have herror := executeModule_error_of_skipped host h0
  have hstop : stops task host (attempt 0) = true := by simp [stops_of_no_until hu, herror]
  have hmade : made task host attempt = 0 + 1 :=
    tries_eq_of_stop (allowed_pos hr) (fun j hj => absurd hj (Nat.not_lt_zero j)) hstop
  have hresult : (executeWithRetry task host attempt).1 = (executeModule task host (attempt 0)).1 := by
    rw [executeWithRetry_eq hmade, settled_of_no_until hu]
  refine ⟨?_, moduleRuns_eq_zero_iff.2 fun i hi => ?_, ?_⟩
  · rw [hresult, executeModule_skipped_iff]
    exact h0
  · have hi0 : i = 0 := by omega
    simp [hi0, reaches, h0]
  · rw [hresult]
    exact herror

theorem skipped_iff_of_until (hu : task.until' ≠ []) :
    Skips task host attempt ↔ ∃ i < allowed task, (attempt i).until' = true ∧ conditions task (attempt i) = some false ∧
      ∀ j < i, (attempt j).until' = false ∧ reaches task (attempt j) = false := by
  constructor
  · intro ⟨hstatus, hruns, herror⟩
    rw [moduleRuns_eq_zero_iff] at hruns
    -- nothing is reported if no attempt is made
    have hallowed : 0 < allowed task := by
      refine allowed_pos (Int.not_lt.1 fun hneg => ?_)
      rw [(executeWithRetry_negative hneg).2] at hstatus
      cases hstatus
    obtain ⟨k, hk, hlt, hbefore, hlast⟩ := exists_last host attempt hallowed
    simp only [stops_of_until hu] at hbefore hlast
    rw [executeWithRetry_eq hk] at hstatus herror
    rw [settled_status, executeModule_skipped_iff] at hstatus
    refine ⟨k, hlt, (settled_error_until hu ?_).1 herror, hstatus, fun j hj => ⟨hbefore j hj, hruns j (by omega)⟩⟩
    rcases Nat.lt_or_ge (k + 1) (allowed task) with hlt | hge
    · exact .inl (hlast hlt)
    · exact .inr (decide_eq_true (by omega))
  · intro ⟨k, hk, hsat, hc, hbefore⟩
    have hmade : made task host attempt = k + 1 :=
      tries_eq_of_stop hk (fun j hj => by rw [Nat.zero_add, stops_of_until hu]; exact (hbefore j hj).1)
        (by rw [Nat.zero_add, stops_of_until hu]; exact hsat)
    refine ⟨?_, moduleRuns_eq_zero_iff.2 fun i hi => ?_, ?_⟩
    · rw [executeWithRetry_eq hmade, settled_status, executeModule_skipped_iff]
      exact hc
    · rcases Nat.lt_or_ge i k with hlt | hge
      · exact (hbefore i hlt).2
      · have hik : i = k := by omega
        simp [hik, reaches, hc]
    · rw [executeWithRetry_eq hmade, settled_error_until hu (.inl hsat)]
      exact hsat

/-! Items that should run. -/

theorem most_moduleRuns : (moduleRuns task host attempt : Int) ≤ max 1 task.retries := by
  have hruns : moduleRuns task host attempt ≤ made task host attempt := moduleRuns_le
  have hmade : made task host attempt ≤ allowed task := made_le
  have hallowed : (allowed task : Int) ≤ max 1 task.retries := allowed_le
  omega

/-- If no attempt before the last one is good, the law is about the last one. -/
theorem persists_iff_last {k : Nat} (hk : made task host attempt = k + 1) (hlt : k < allowed task)
    (hbefore : ∀ j < k, good task (attempt j) = false) :
    Persists task host attempt ↔ (∃ i ≤ k, reaches task (attempt i) = true) ∧
      (k + 1 < allowed task → good task (attempt k) = true) ∧
        ((executeWithRetry task host attempt).1.error = "" ↔ good task (attempt k) = true) := by
  have hallowed := allowed_eq (retries_nonneg hlt)
  have hnone : (∀ j < made task host attempt, good task (attempt j) = false) ↔ good task (attempt k) = false := by
    refine ⟨fun h => h k (by omega), fun h j hj => ?_⟩
    rcases Nat.lt_or_ge j k with hlt | hge
    · exact hbefore j hlt
    · rwa [show j = k by omega]
  constructor
  · intro h
    obtain ⟨i, hi, hreaches⟩ := one_le_moduleRuns_iff.1 h.once
    refine ⟨⟨i, by omega, hreaches⟩, fun hlt => ?_, ?_⟩
    · by_contra hbad
      have hall := h.all (hnone.2 (by simpa using hbad))
      omega
    · rw [← not_iff_not, Bool.not_eq_true, ← hnone]
      exact h.failed
  · intro ⟨⟨i, hi, hreaches⟩, hlast, herror⟩
    refine ⟨one_le_moduleRuns_iff.2 ⟨i, by omega, hreaches⟩, most_moduleRuns, fun j hj hgood => ?_, fun h => ?_, ?_⟩
    · by_contra hne
      rw [hbefore j (by omega)] at hgood
      cases hgood
    · have hend : ¬ k + 1 < allowed task := fun hlt => by simp [hnone.1 h] at hlast; omega
      omega
    · rw [hnone, ne_eq, herror, Bool.not_eq_true]

theorem persists_iff_of_until (hu : task.until' ≠ []) :
    Persists task host attempt ↔ ∃ i < allowed task, reaches task (attempt i) = true ∧ ∀ j < i, (attempt j).until' = false := by
  have hgood : ∀ i, good task (attempt i) = (attempt i).until' := fun i => by simp [good, hu]
  constructor
  · intro h
    obtain ⟨i, hi, hreaches⟩ := one_le_moduleRuns_iff.1 h.once
    have hallowed := Nat.lt_of_lt_of_le hi made_le
    obtain ⟨k, hk, _, hbefore, _⟩ := exists_last host attempt hallowed
    refine ⟨i, hallowed, hreaches, fun j hj => ?_⟩
    rw [← @stops_of_until _ _ host hu]
    exact hbefore j (by omega)
  · intro ⟨i, hi, hreaches, hsat⟩
    have hmade : i < made task host attempt := lt_made hi fun j hj => by rw [stops_of_until hu]; exact hsat j hj
    obtain ⟨k, hk, hlt, hbefore, hlast⟩ := exists_last host attempt hi
    simp only [stops_of_until hu, ← hgood] at hbefore hlast
    refine (persists_iff_last hk hlt hbefore).2 ⟨⟨i, by omega, hreaches⟩, hlast, ?_⟩
    rw [executeWithRetry_eq hk, hgood]
    refine settled_error_until hu ?_
    rcases Nat.lt_or_ge (k + 1) (allowed task) with hlt | hge
    · exact .inl (hgood k ▸ hlast hlt)
    · exact .inr (decide_eq_true (by omega))

theorem persists_iff_of_no_until (hu : task.until' = []) :
    Persists task host attempt ↔ (∃ i < allowed task, reaches task (attempt i) = true) ∧
      ∀ i < allowed task, (∀ j < i, succeeds task (attempt j) = false) →
        succeeds task (attempt i) = true ∨ (executeModule task host (attempt i)).1.error ≠ "" := by
  have hgood : ∀ i, good task (attempt i) = succeeds task (attempt i) := fun i => by simp [good, hu]
  by_cases hallowed : ∃ i < allowed task, reaches task (attempt i) = true
  · obtain ⟨i, hi, hreaches⟩ := hallowed
    obtain ⟨k, hk, hlt, hbefore, hlast⟩ := exists_last host attempt hi
    simp only [stops_of_no_until hu, decide_eq_true_eq, decide_eq_false_iff_not] at hbefore hlast
    have hbad : ∀ j < k, succeeds task (attempt j) = false := fun j hj =>
      Bool.eq_false_iff.2 fun hs => hbefore j hj (executeModule_error_of_succeeds host hs)
    rw [persists_iff_last hk hlt (fun j hj => (hgood j).trans (hbad j hj)), executeWithRetry_eq hk, settled_of_no_until hu, hgood]
    constructor
    · intro ⟨_, hends, herror⟩
      refine ⟨⟨i, hi, hreaches⟩, fun j hj hnone => ?_⟩
      -- the loop goes on before `k`, and does not get beyond it
      rcases Nat.lt_trichotomy j k with hjk | rfl | hjk
      · exact .inr (hbefore j hjk)
      · exact or_iff_not_imp_right.2 fun h => herror.1 (not_not.1 h)
      · rw [hnone k hjk] at hends
        cases hends (by omega)
    · intro ⟨_, htexts⟩
      have herror : (executeModule task host (attempt k)).1.error = "" ↔ succeeds task (attempt k) = true :=
        ⟨fun h => (htexts k hlt hbad).resolve_right (not_not.2 h), executeModule_error_of_succeeds host⟩
      refine ⟨?_, fun h => herror.1 (hlast h), herror⟩
      by_cases hs : succeeds task (attempt k) = true
      · simp only [succeeds, Bool.and_eq_true] at hs
        exact ⟨k, le_rfl, hs.1.1⟩
      · -- all of the allowed attempts are made
        have hall : ¬ k + 1 < allowed task := fun h => hs (herror.1 (hlast h))
        exact ⟨i, by omega, hreaches⟩
  · refine iff_of_false (fun h => hallowed ?_) fun h => hallowed h.1
    obtain ⟨i, hi, hreaches⟩ := one_le_moduleRuns_iff.1 h.once
    exact ⟨i, Nat.lt_of_lt_of_le hi made_le, hreaches⟩

end Item

/-- **Skips and retries.** Which items keep the law. -/
theorem item_lawful_iff (task : TaskSpec) (host : String) (attempt : Nat → Attempt) :
    Lawful task host attempt ↔ Steady task host attempt := by
  unfold Steady
  cases hc : conditions task (attempt 0) with
  | none =>
    refine ⟨fun _ => trivial, fun _ => ⟨fun h => ?_, fun h => ?_⟩⟩
    · cases hc.symm.trans h
    · cases hc.symm.trans h
  | some b =>
    cases b with
    | false =>
      have hlaw : Lawful task host attempt ↔ Skips task host attempt :=
        ⟨fun h => h.skipped hc, fun h => ⟨fun _ => h, fun h' => (by cases hc.symm.trans h')⟩⟩
      rw [hlaw]
      by_cases hu : task.until' = []
      · constructor
        · intro h
          refine ⟨?_, .inl hu⟩
          by_contra hneg
          have hstatus := h.status
          rw [(executeWithRetry_negative (by omega)).2] at hstatus
          cases hstatus
        · intro ⟨hr, _⟩
          exact skipped_of_no_until hu hr hc
      · rw [skipped_iff_of_until hu]
        constructor
        · intro ⟨i, hi, h⟩
          exact ⟨retries_nonneg hi, .inr ⟨i, hi, h⟩⟩
        · intro ⟨_, h⟩
          exact h.resolve_left hu
    | true =>
      have hlaw : Lawful task host attempt ↔ Persists task host attempt :=
        ⟨fun h => h.ran hc, fun h => ⟨fun h' => (by cases hc.symm.trans h'), fun _ => h⟩⟩
      rw [hlaw]
      by_cases hu : task.until' = []
      · simpa [hu] using persists_iff_of_no_until hu
      · simpa [hu] using persists_iff_of_until hu

def waiting : TaskSpec where
  name := "wait"
  module := "command"
  hosts := ["web"]
  when := ["enabled"]
  failedWhen := []
  changedWhen := []
  until' := ["result.rc == 0"]
  loop := none
  retries := 3
  ignoreErrors := none

/-- The condition does not hold, and without a result neither does `until`. -/
def idle : Attempt where
  varsAreMap := true
  when := .ok false
  connector := .ok ()
  stdout := ""
  stderr := ""
  err := none
  failedWhen := .ok false
  changedWhen := .ok false
  until' := false

/-- An item that should be skipped fails its host, because its `until` is not satisfied; and with a
negative number of retries a module that should run does not, and the host is reported as fine. -/
theorem skipped_item_fails :
    ¬ Lawful waiting "web" (fun _ => idle) ∧
      (execTaskHost waiting "web" ⟨1, none, fun _ _ => idle⟩).1 = ⟨"web", .failed, false, none, "until condition not met after retries"⟩ ∧
      ¬ Lawful { waiting with retries := -1 } "web" (fun _ => { idle with when := .ok true }) ∧
      (execTaskHost { waiting with retries := -1 } "web" ⟨1, none, fun _ _ => { idle with when := .ok true }⟩).1 =
        ⟨"web", .ok, false, none, ""⟩ := by
  refine ⟨fun h => ?_, by decide, fun h => ?_, by decide⟩
  · exact absurd (h.skipped (by decide)).error (by decide)
  · exact absurd (h.ran (by decide)).once (by decide)

theorem itemLoop_failed_iff (run : HostRun) {result : TaskResult} (hresult : result.status ≠ .failed)
    (allSkipped : Bool) (i n : Nat) :
    (itemLoop task host run result allSkipped i n).1.status = .failed ↔
      ∃ k < n, failsTask task (executeWithRetry task host (run.attempt (i + k))).1 := by
  induction n generalizing result allSkipped i with
  | zero =>
    simp only [Nat.not_lt_zero, false_and, exists_false, iff_false]
    unfold itemLoop
    split
    · simp
    · split
      · simp
      · exact hresult
  | succ n ih =>
    -- the items after the first one are the first item, or one of the others
    have hsplit : (∃ k < n + 1, failsTask task (executeWithRetry task host (run.attempt (i + k))).1) ↔
        failsTask task (executeWithRetry task host (run.attempt i)).1 ∨
          ∃ k < n, failsTask task (executeWithRetry task host (run.attempt (i + 1 + k))).1 := by
      rw [Nat.exists_lt_succ_left]
      simp [Nat.add_assoc, Nat.add_comm 1]
    rw [hsplit, itemLoop]
    by_cases herror : (executeWithRetry task host (run.attempt i)).1.error = ""
    · have hfine : ¬ failsTask task (executeWithRetry task host (run.attempt i)).1 := fun h => h.1 herror
      simp only [herror, ne_eq, not_true_eq_false, if_false, after, hfine, false_or]
      exact ih (by exact hresult) _ (i + 1)
    · by_cases hignore : task.ignoreErrors = some true
      · have hfine : ¬ failsTask task (executeWithRetry task host (run.attempt i)).1 := fun h => h.2 hignore
        simp only [herror, ne_eq, not_false_eq_true, if_true, hignore, after, hfine, false_or]
        exact ih (by exact hresult) _ (i + 1)
      · have hfails : failsTask task (executeWithRetry task host (run.attempt i)).1 := ⟨herror, hignore⟩
        simp [herror, hignore, hfails]

theorem host_failed_iff {task : TaskSpec} {run : HostRun} {n : Nat} (h : resolveLoop task run = .ok n) :
    (execTaskHost task host run).1.status = .failed ↔ ∃ i < n, failsTask task (executeWithRetry task host (run.attempt i)).1 := by
  unfold execTaskHost
  rw [h]
  have hstart : (⟨host, .ok, false, none, ""⟩ : TaskResult).status ≠ .failed := by simp
  simpa using itemLoop_failed_iff task host run hstart true 0 n

theorem aggregateFrom_failed {status : TaskStatus} (hstatus : status ≠ .failed) (output : Option Output)
    (rs : List TaskResult) : (aggregateFrom status output rs).1 = .failed ↔ ∃ r ∈ rs, r.status = .failed := by
  induction rs generalizing status output with
  | nil => simpa [aggregateFrom] using hstatus
  | cons r rs ih =>
    rw [aggregateFrom, List.exists_mem_cons_iff]
    split
    · next hr => simp [hr]
    · next hr => simp [hr, ih]
    · next hr =>
      rw [ih (by split <;> simp [hstatus])]
      simp [hr]
    · next hr _ _ => rw [ih hstatus, or_iff_right hr]

/-- In whatever order the hosts finish. -/
theorem task_failed_iff (task : TaskSpec) (run : TaskRun) :
    (aggregateResults (execTask task run).1).1 = .failed ↔
      ∃ host ∈ task.hosts, task.module ∉ modules ∨ ∀ n, resolveLoop task (run.host host) = .ok n →
        ∃ i < n, failsTask task (executeWithRetry task host ((run.host host).attempt i)).1 := by
  rw [aggregateResults, aggregateFrom_failed (by decide), execTask]
  split
  · next hmodule =>
    simp only [List.map_map, List.mem_map, exists_exists_and_eq_and, Function.comp, finished,
      List.mem_insertionSort, hmodule, not_true_eq_false, false_or]
    refine exists_congr fun host => and_congr_right fun _ => ?_
    cases hloop : resolveLoop task (run.host host) with
    | error e => simp [execTaskHost, hloop]
    | ok n => simp [host_failed_iff host hloop]
  · next hmodule => simp [hmodule, moduleNotFound]

end Vraxel.Ansible
