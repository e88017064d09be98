import Vraxel.Ansible.Playbook
/-
  One task on its hosts (`lib/ansible/executor/task.go`): loops, retries, the conditions, and what
  is reported for each host. The world answers what the executor asks: the values of the templates,
  whether a connection is there, and what the module returns.
-/

namespace Vraxel.Ansible

open Strconv

inductive TaskStatus where
  | unset
  | ok
  | changed
  | failed
  | skipped
  deriving DecidableEq

def TaskStatus.name : TaskStatus → String
  | .unset => ""
  | .ok => "ok"
  | .changed => "changed"
  | .failed => "failed"
  | .skipped => "skipped"

structure Captured where
  stdout : String
  stderr : String
  rc : Int
  deriving DecidableEq

/-- The output map: what the module returned, and `_ignored_error`. -/
structure Output where
  captured : Option Captured
  ignoredError : Option String
  deriving DecidableEq

structure TaskResult where
  host : String
  status : TaskStatus
  changed : Bool
  output : Option Output
  error : String
  deriving DecidableEq

/-! The world's answers. -/

structure ModuleError where
  text : String
  code : Option Int

structure Attempt where
  varsAreMap : Bool
  when : Except String Bool
  connector : Except String Unit
  stdout : String
  stderr : String
  err : Option ModuleError
  failedWhen : Except String Bool
  changedWhen : Except String Bool
  until' : Bool

/-- `items` is how many items the loop has; `noMapping` is the type of a value that is no mapping. -/
structure HostRun where
  items : Nat
  noMapping : Option String
  attempt : Nat → Nat → Attempt

structure TaskRun where
  rank : String → Nat
  host : String → HostRun

def modules : List String :=
  ["add_hostvars", "assert", "command", "shell", "copy", "debug", "fetch", "file", "http_get_file", "include_vars",
    "result", "service", "systemd", "set_fact", "setup", "stat", "template", "wait_for"]

def trimRightNewlines (s : String) : String :=
  String.ofList (s.toList.reverse.dropWhile (· = '\n')).reverse

variable (task : TaskSpec) (a : Attempt) (r : TaskResult) (host : String) (run : HostRun)
    {rs : List TaskResult}

def executeModuleApplyFailure : TaskResult :=
  if task.failedWhen ≠ [] then
    match a.failedWhen with
    | .error e => { r with error := "evaluate failed_when: " ++ e, status := .failed }
    | .ok true =>
      { r with
        error := "failed_when condition met" ++ (match a.err with | some err => ": " ++ err.text | none => "")
        status := .failed }
    | .ok false => r
  else
    match a.err with
    | some err => { r with error := err.text, status := .failed }
    | none => r

def executeModuleApplyChanged : TaskResult :=
  if task.changedWhen = [] ∨ r.status = .failed ∨ r.status = .skipped then r
  else
    match a.changedWhen with
    | .error e => { r with error := "evaluate changed_when: " ++ e, status := .failed }
    | .ok true => { r with changed := true, status := .changed }
    | .ok false => { r with changed := false }

def debugLines : List String :=
  if task.module = "debug" ∧ a.err = none then ["DEBUG: " ++ a.stdout ++ "\n"] else []

def executeModule (a : Attempt) : TaskResult × List String :=
  let result : TaskResult := ⟨host, .ok, false, none, ""⟩
  if !a.varsAreMap then
    ({ result with error := "host " ++ host ++ ": variables are not a map", status := .failed }, [])
  else
    match (if task.when = [] then .ok true else a.when) with
    | .error e => ({ result with error := "evaluate when: " ++ e, status := .failed }, [])
    | .ok false => ({ result with status := .skipped }, [])
    | .ok true =>
      match a.connector with
      | .error e => ({ result with error := e, status := .failed }, [])
      | .ok () =>
        let rc := (a.err.bind (·.code)).getD 0
        let captured : Captured := ⟨trimRightNewlines a.stdout, trimRightNewlines a.stderr, rc⟩
        (executeModuleApplyChanged task a
          (executeModuleApplyFailure task a { result with output := some ⟨some captured, none⟩ }), debugLines task a)

def after {α : Type} (lines : List String) (x : α × List String) : α × List String := (x.1, lines ++ x.2)

def shouldStop (last : Bool) (r : TaskResult) : TaskResult × Bool :=
  if task.until' ≠ [] then
    if a.until' then ({ r with error := "" }, true)
    else (if last ∧ r.error = "" then { r with error := "until condition not met after retries" } else r, false)
  else (r, r.error = "")

def retryLoop (task : TaskSpec) (host : String) (attempt : Nat → Attempt) (r : TaskResult) (i : Nat) :
    Nat → TaskResult × List String
  | 0 => (r, [])
  | n + 1 =>
    let done := executeModule task host (attempt i)
    let stop := shouldStop task (attempt i) (n = 0) done.1
    if stop.2 then (stop.1, done.2) else after done.2 (retryLoop task host attempt stop.1 (i + 1) n)

def executeWithRetry (attempt : Nat → Attempt) : TaskResult × List String :=
  let retries := if task.retries = 0 then 1 else task.retries
  retryLoop task host attempt ⟨"", .unset, false, none, ""⟩ 0 retries.toNat

def mergeOutput (existing : Option Output) (r : TaskResult) : Option Output := r.output <|> existing

def setIgnored (output : Option Output) (error : String) : Output :=
  ⟨output.bind (·.captured), some error⟩

def itemLoop (task : TaskSpec) (host : String) (run : HostRun) (result : TaskResult) (allSkipped : Bool) (i : Nat) :
    Nat → TaskResult × List String
  | 0 =>
    (if allSkipped then { result with status := .skipped }
     else if result.changed then { result with status := .changed }
     else result, [])
  | n + 1 =>
    let done := executeWithRetry task host (run.attempt i)
    let r := done.1
    let result := { result with output := mergeOutput result.output r, changed := result.changed || r.changed }
    if r.error ≠ "" then
      if task.ignoreErrors = some true then
        after done.2
          (itemLoop task host run { result with output := some (setIgnored result.output r.error) } false (i + 1) n)
      else ({ result with status := .failed, error := r.error }, done.2)
    else after done.2 (itemLoop task host run result (allSkipped && r.status = .skipped) (i + 1) n)

def resolveLoop : Except String Nat :=
  match task.loop with
  | none => .ok 1
  | some .dict =>
    match run.noMapping with
    | some type => .error ("with_dict requires a mapping, got " ++ type)
    | none => .ok run.items
  | some _ => .ok run.items

def execTaskHost : TaskResult × List String :=
  let result : TaskResult := ⟨host, .ok, false, none, ""⟩
  match resolveLoop task run with
  | .error e => ({ result with status := .failed, error := e }, [])
  | .ok n => itemLoop task host run result true 0 n

def moduleNotFound : TaskResult :=
  ⟨host, .failed, false, none, "module " ++ quote task.module ++ " not found"⟩

def finished (run : TaskRun) : List String :=
  task.hosts.insertionSort fun a b => run.rank a ≤ run.rank b

/-- `TaskExecutor.Exec`: the results, and what the modules have written to the log. -/
def execTask (run : TaskRun) : List TaskResult × List String :=
  if task.module ∈ modules then
    let runs := (finished task run).map fun host => execTaskHost task host (run.host host)
    (runs.map (·.1), runs.flatMap (·.2))
  else (task.hosts.map (moduleNotFound task), [])

/-- `aggregateResults` from the results that are left, with the status and the output so far. -/
def aggregateFrom (status : TaskStatus) (output : Option Output) : List TaskResult → TaskStatus × String × Option Output
  | [] => (status, "", output)
  | r :: rs =>
    match r.status with
    | .failed => (.failed, r.error, r.output)
    | .changed => aggregateFrom .changed (output <|> r.output) rs
    | .skipped => aggregateFrom (if status = .ok then .skipped else status) (output <|> r.output) rs
    | _ => aggregateFrom status (output <|> r.output) rs

def aggregateResults (results : List TaskResult) : TaskStatus × String × Option Output := aggregateFrom .ok none results

/-! A failure has a text. -/

/-- A host is reported as failed exactly if there is an error text. -/
def FailedIff : Prop := r.status = .failed ↔ r.error ≠ ""

theorem append_ne_empty {s : String} (h : s ≠ "") (t : String) : s ++ t ≠ "" := by
  intro heq
  have := congrArg String.toList heq
  simp only [String.toList_append, String.toList_empty, List.append_eq_nil_iff, String.toList_eq_nil_iff] at this
  exact h this.1

theorem itemLoop_failedIff {result : TaskResult} (hstatus : result.status = .ok)
    (herror : result.error = "") (allSkipped : Bool) (i n : Nat) :
    FailedIff (itemLoop task host run result allSkipped i n).1 := by
  -- along the items the result has no error and is not failed, until one of them ends the loop
  induction n generalizing result allSkipped i with
  | zero =>
    unfold itemLoop FailedIff
    split
    · simp [herror]
    · split <;> simp [herror, hstatus]
  | succ n ih =>
    rw [itemLoop]
    split
    · next hr =>
      split
      · exact ih (by exact hstatus) (by exact herror) false (i + 1)
      · exact ⟨fun _ => hr, fun _ => rfl⟩
    · exact ih (by exact hstatus) (by exact herror) _ (i + 1)

theorem resolveLoop_error {task : TaskSpec} {run : HostRun} {e : String} (h : resolveLoop task run = .error e) : e ≠ "" := by
  unfold resolveLoop at h
  split at h
  · cases h
  · split at h
    · cases h
      exact append_ne_empty (by decide) _
    · cases h
  · cases h

theorem execTaskHost_failed_iff :
    FailedIff (execTaskHost task host run).1 := by
  unfold execTaskHost
  split
  · next e he => exact ⟨fun _ => resolveLoop_error he, fun _ => rfl⟩
  · exact itemLoop_failedIff task host run rfl rfl true 0 _

theorem execTask_failed_iff (run : TaskRun) {r : TaskResult} (h : r ∈ (execTask task run).1) : FailedIff r := by
  unfold execTask at h
  split at h
  · simp only [List.map_map, List.mem_map, Function.comp] at h
    obtain ⟨host, _, rfl⟩ := h
    exact execTaskHost_failed_iff task host (run.host host)
  · obtain ⟨host, _, rfl⟩ := List.mem_map.1 h
    refine ⟨fun _ => ?_, fun _ => rfl⟩
    rw [moduleNotFound, String.append_assoc]
    exact append_ne_empty (by decide) _

theorem aggregateFrom_status {status : TaskStatus} {output output' : Option Output} {rs' : List TaskResult}
    (h : rs.map (·.status) = rs'.map (·.status)) :
    (aggregateFrom status output rs).1 = (aggregateFrom status output' rs').1 := by
  induction rs generalizing status output output' rs' with
  | nil =>
    cases rs' with
    | nil => rfl
    | cons r' rs' => simp at h
  | cons r rs ih =>
    cases rs' with
    | nil => simp at h
    | cons r' rs' =>
      simp only [List.map_cons, List.cons.injEq] at h
      simp only [aggregateFrom, ← h.1]
      split
      · rfl
      all_goals exact ih h.2

theorem aggregateResults_congr {rs' : List TaskResult} (h : rs.map (·.status) = rs'.map (·.status)) :
    (aggregateResults rs).1 = (aggregateResults rs').1 :=
  aggregateFrom_status h

theorem aggregateFrom_failed_iff {status : TaskStatus} (hstatus : status ≠ .failed) (output : Option Output)
    (h : ∀ r ∈ rs, FailedIff r) :
    (aggregateFrom status output rs).1 = .failed ↔ (aggregateFrom status output rs).2.1 ≠ "" := by
  induction rs generalizing status output with
  | nil => simpa [aggregateFrom] using hstatus
  | cons r rs ih =>
    obtain ⟨hr, hrs⟩ := List.forall_mem_cons.1 h
    rw [aggregateFrom]
    split
    · next hfailed => exact ⟨fun _ => hr.1 hfailed, fun _ => rfl⟩
    · exact ih (by decide) _ hrs
    · refine ih ?_ _ hrs
      split
      · decide
      · exact hstatus
    · exact ih hstatus _ hrs

theorem aggregateResults_failed_iff (h : ∀ r ∈ rs, FailedIff r) :
    (aggregateResults rs).1 = .failed ↔ (aggregateResults rs).2.1 ≠ "" :=
  aggregateFrom_failed_iff (by decide) none h

end Vraxel.Ansible
