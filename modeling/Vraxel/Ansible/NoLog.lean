import Vraxel.Ansible.Executor
/-
  `no_log` (`dealTask`, `dealTaskCheckFailure` in `lib/ansible/executor/block.go`, `debug.go`): two
  runs that differ only in the texts of tasks under `no_log` should look the same.
-/

namespace Vraxel.Ansible

open Bounded

/-! Results without their texts. -/

def Output.blank (o : Output) : Output :=
  ⟨o.captured.map fun c => ⟨"", "", c.rc⟩, o.ignoredError.map fun _ => ""⟩

def TaskResult.blank (r : TaskResult) : TaskResult := { r with output := r.output.map Output.blank, error := "" }

def blanks (rs : List TaskResult) : List TaskResult := rs.map TaskResult.blank

namespace Executed

/-- The task, a section around it or the play carries `no_log`. -/
def Covered (x : Executed) : Prop := x.noLog = true ∨ x.inherited = true

instance (x : Executed) : Decidable x.Covered := inferInstanceAs (Decidable (_ ∨ _))

/-- On some host the task has an output, or an error about its loop. -/
def Leaks (x : Executed) : Prop :=
  x.spec.hosts ≠ [] ∧ x.spec.module ∈ modules ∧
    ((x.noLog = false ∧ x.inherited = true ∧ (0 ≤ x.spec.retries ∨ x.spec.loop = some .dict)) ∨
      (x.Covered ∧ x.spec.module = "debug" ∧ 0 ≤ x.spec.retries))

instance (x : Executed) : Decidable x.Leaks := inferInstanceAs (Decidable (_ ∧ _))

end Executed

/-- The worlds answer alike for the tasks of the trace: the same, or for a task under `no_log` such that
its results differ in their texts alone. -/
def DifferInTexts (t : Trace) (w w' : World) : Prop :=
  ∀ n x, t.executed[n]? = some x →
    w n = w' n ∨ x.Covered ∧ blanks (execTask x.spec (w n)).1 = blanks (execTask x.spec (w' n)).1

def shown (r : Res (Option String) × Trace) : Res (Option String) × List String × List Event := (r.1, r.2.log, r.2.events)

/-- Runs that differ only in the texts of tasks under `no_log` look the same. -/
def TextsHidden (site : Site) (plays : List Play) : Prop :=
  ∀ n w w', DifferInTexts (execute site plays w n .empty).2 w w' →
    shown (execute site plays w n .empty) = shown (execute site plays w' n .empty)

/-! A task that does not leak. -/

section Congr

variable {rs rs' : List TaskResult}

theorem statuses_of_blanks (h : blanks rs = blanks rs') : rs.map (·.status) = rs'.map (·.status) := by
  have := congrArg (List.map TaskResult.status) h
  simpa [blanks, TaskResult.blank, Function.comp_def] using this

theorem failedHost_of_blanks (h : blanks rs = blanks rs') (p : TaskStatus → Bool) :
    (rs.find? (fun r => p r.status)).map (·.host) = (rs'.find? (fun r => p r.status)).map (·.host) := by
  have hfind : ∀ rs : List TaskResult,
      (rs.find? (fun r => p r.status)).map (·.host) = ((blanks rs).find? (fun r => p r.status)).map (·.host) := by
    intro rs
    rw [blanks, List.find?_map, Option.map_map]
    rfl
  rw [hfind rs, hfind rs', h]

variable {base : BlockBase} (hnoLog : base.noLog = true)

include hnoLog

theorem dealTaskCheckFailure_congr (ignoreErrors : Option Bool) (h : blanks rs = blanks rs') :
    dealTaskCheckFailure base ignoreErrors rs = dealTaskCheckFailure base ignoreErrors rs' := by
  have hhost := failedHost_of_blanks h fun s => s = .failed ∧ ignoreErrors ≠ some true
  unfold dealTaskCheckFailure
  simp only [hnoLog, if_true]
  have := congrArg (Option.map fun host =>
    "task " ++ Strconv.quote base.name ++ " failed on host " ++ Strconv.quote host ++ ": " ++ noLogRedacted) hhost
  simpa [Option.map_map, Function.comp_def] using this

theorem taskEnd_congr (index total : Nat) (h : blanks rs = blanks rs') (hrs : ∀ r ∈ rs, FailedIff r)
    (hrs' : ∀ r ∈ rs', FailedIff r) : taskEnd base index total rs = taskEnd base index total rs' := by
  have hstatus : (aggregateResults rs).1 = (aggregateResults rs').1 := aggregateResults_congr (statuses_of_blanks h)
  have herror : ((aggregateResults rs).2.1 ≠ "") = ((aggregateResults rs').2.1 ≠ "") := by
    rw [← eq_iff_iff.2 (aggregateResults_failed_iff hrs), ← eq_iff_iff.2 (aggregateResults_failed_iff hrs'), hstatus]
  simp [taskEnd, hnoLog, hstatus, herror]

end Congr

theorem skippedLine_congr {rs rs' : List TaskResult} (h : blanks rs = blanks rs') : skippedLine rs = skippedLine rs' := by
  unfold skippedLine
  rw [aggregateResults_congr (statuses_of_blanks h)]

/-! What the modules write to the log. -/

section Lines

variable {task : TaskSpec} {host : String}

/-- The task makes no attempt, or it is not `debug`. -/
def Silent (task : TaskSpec) : Prop := task.module ≠ "debug" ∨ task.retries < 0

theorem executeModule_lines (h : task.module ≠ "debug") (a : Attempt) : (executeModule task host a).2 = [] := by
  unfold executeModule
  repeat' split
  all_goals first | rfl | simp [debugLines, h]

theorem retryLoop_lines (h : task.module ≠ "debug") (attempt : Nat → Attempt) (r : TaskResult) (i n : Nat) :
    (retryLoop task host attempt r i n).2 = [] := by
  induction n generalizing r i with
  | zero => rfl
  | succ n ih =>
    rw [retryLoop]
    split
    · exact executeModule_lines h _
    · simp [after, executeModule_lines h, ih]

theorem executeWithRetry_lines (h : Silent task) (attempt : Nat → Attempt) :
    (executeWithRetry task host attempt).2 = [] := by
  unfold executeWithRetry
  rcases h with h | h
  · exact retryLoop_lines h attempt _ _ _
  · have hzero : task.retries ≠ 0 := by omega
    simp only [hzero, if_false]
    rw [Int.toNat_eq_zero.2 (by omega)]
    rfl

theorem itemLoop_lines (h : Silent task) (run : HostRun) (result : TaskResult) (allSkipped : Bool) (i n : Nat) :
    (itemLoop task host run result allSkipped i n).2 = [] := by
  induction n generalizing result allSkipped i with
  | zero => rfl
  | succ n ih =>
    rw [itemLoop]
    repeat' split
    all_goals simp [after, executeWithRetry_lines h, ih]

theorem execTask_lines (h : Silent task) (run : TaskRun) : (execTask task run).2 = [] := by
  unfold execTask
  split
  · rw [List.flatMap_eq_nil_iff]
    intro x hx
    obtain ⟨host, _, rfl⟩ := List.mem_map.1 hx
    unfold execTaskHost
    split
    · rfl
    · exact itemLoop_lines h _ _ _ _ _
  · rfl

end Lines

/-! A task without an attempt has no text. -/

section Textless

variable {task : TaskSpec}

theorem executeWithRetry_of_neg (h : task.retries < 0) (host : String) (attempt : Nat → Attempt) :
    (executeWithRetry task host attempt).1 = ⟨"", .unset, false, none, ""⟩ := by
  have hzero : task.retries ≠ 0 := by omega
  unfold executeWithRetry
  simp only [hzero, if_false]
  rw [Int.toNat_eq_zero.2 (by omega)]
  rfl

theorem itemLoop_blank (h : task.retries < 0) (host : String) (run : HostRun) {result : TaskResult} (hresult : result.blank = result)
    (allSkipped : Bool) (i n : Nat) :
    (itemLoop task host run result allSkipped i n).1.blank = (itemLoop task host run result allSkipped i n).1 := by
  have herror : result.error = "" := by
    rw [← hresult]
    rfl
  have houtput : result.output.map Output.blank = result.output := congrArg TaskResult.output hresult
  induction n generalizing allSkipped i with
  | zero =>
    simp only [itemLoop]
    split
    · simp [TaskResult.blank, herror, houtput]
    · split
      · simp [TaskResult.blank, herror, houtput]
      · exact hresult
  | succ n ih =>
    have hsame : { result with
        output := mergeOutput result.output (executeWithRetry task host (run.attempt i)).1
        changed := result.changed || (executeWithRetry task host (run.attempt i)).1.changed } = result := by
      rw [executeWithRetry_of_neg h]
      simp [mergeOutput]
    rw [itemLoop]
    simp only [hsame]
    rw [if_neg (by rw [executeWithRetry_of_neg h]; simp)]
    exact ih _ _

theorem execTask_blank (h : task.retries < 0) (hloop : task.loop ≠ some .dict) (hmodule : task.module ∈ modules) (run : TaskRun) :
    blanks (execTask task run).1 = (execTask task run).1 := by
  unfold execTask
  rw [if_pos hmodule]
  simp only [blanks, List.map_map]
  refine List.map_congr_left fun host _ => ?_
  simp only [Function.comp]
  unfold execTaskHost
  split
  · next e he =>
    unfold resolveLoop at he
    split at he
    · cases he
    · contradiction
    · cases he
  · exact itemLoop_blank h host _ rfl _ _ _

end Textless

theorem afterTask_congr {e : BlockExecutor} {base : BlockBase} {spec : TaskSpec} {r r' : TaskRun} (t : Trace)
    (hcovered : Executed.Covered ⟨base.noLog, e.inherited, spec⟩) (hleaks : ¬ Executed.Leaks ⟨base.noLog, e.inherited, spec⟩)
    (h : blanks (execTask spec r).1 = blanks (execTask spec r').1) :
    dealTaskCheckFailure base spec.ignoreErrors (execTask spec r).1 = dealTaskCheckFailure base spec.ignoreErrors (execTask spec r').1 ∧
      t.afterTask e base spec (execTask spec r) = t.afterTask e base spec (execTask spec r') := by
  by_cases hsame : execTask spec r = execTask spec r'
  · rw [hsame]
    exact ⟨rfl, rfl⟩
  · -- the results differ, so that there is a host and the module is known
    have hhosts : spec.hosts ≠ [] := by
      intro hnil
      apply hsame
      simp [execTask, finished, hnil]
    have hmodule : spec.module ∈ modules := by
      by_contra hnot
      apply hsame
      simp [execTask, hnot]
    have hleaks' := fun h => hleaks ⟨hhosts, hmodule, h⟩
    have hsilent : Silent spec := by
      by_contra hloud
      simp only [Silent, not_or, not_not, Int.not_lt] at hloud
      exact hleaks' (Or.inr ⟨hcovered, hloud.1, hloud.2⟩)
    have hlines : ∀ run, (execTask spec run).2 = [] := execTask_lines hsilent
    cases hnoLog : base.noLog with
    | true =>
      have hfailed : ∀ run, ∀ x ∈ (execTask spec run).1, FailedIff x := fun run _ hx => execTask_failed_iff spec run hx
      refine ⟨dealTaskCheckFailure_congr hnoLog _ h, ?_⟩
      simp [Trace.afterTask, hlines, skippedLine_congr h, taskEnd_congr hnoLog _ _ h (hfailed r) (hfailed r')]
    | false =>
      -- the task has no attempt, and no text
      exfalso
      have hinherited : e.inherited = true := by
        rcases hcovered with h | h
        · simp [hnoLog] at h
        · exact h
      have hneg : ¬ (0 ≤ spec.retries ∨ spec.loop = some .dict) := fun h => hleaks' (Or.inl ⟨hnoLog, hinherited, h⟩)
      simp only [not_or, Int.not_le] at hneg
      apply hsame
      have hfst : (execTask spec r).1 = (execTask spec r').1 := by
        rw [← execTask_blank hneg.1 hneg.2 hmodule r, h, execTask_blank hneg.1 hneg.2 hmodule r']
      exact Prod.ext hfst (by rw [hlines, hlines])

/-! Runs that do not leak. -/

/-- No task of the trace leaks, and the worlds differ in texts alone. -/
def Quiet (w w' : World) (t : Trace) : Prop := DifferInTexts t w w' ∧ ∀ x ∈ t.executed, ¬ x.Leaks

theorem getElem?_of_le {s t : Trace} (h : s ≤ t) {n : Nat} {x : Executed} (hx : s.executed[n]? = some x) :
    t.executed[n]? = some x := by
  obtain ⟨rest, hrest⟩ := h.2.2.1
  obtain ⟨hlt, _⟩ := List.getElem?_eq_some_iff.1 hx
  rw [← hrest, List.getElem?_append_left hlt]
  exact hx

theorem quiet_of_le {w w' : World} (s t : Trace) (h : s ≤ t) (ht : Quiet w w' t) : Quiet w w' s := by
  refine ⟨?_, fun x hx => ht.2 x (h.2.2.1.subset hx)⟩
  intro n x hx
  exact ht.1 n x (getElem?_of_le h hx)

theorem dealTask_congr {w w' : World} (e : BlockExecutor) (base : BlockBase) (spec : TaskSpec) :
    Agrees (Quiet w w') (dealTask w e base spec) (dealTask w' e base spec) := by
  refine ⟨grows_dealTask w e base spec, ?_⟩
  intro t ht
  have hlast : (dealTask w e base spec t).2.executed[t.executed.length]? = some ⟨base.noLog, e.inherited, spec⟩ := by
    simp [dealTask, Trace.afterTask]
  rcases ht.1 _ _ hlast with hsame | ⟨hcovered, hblanks⟩
  · simp [dealTask, hsame]
  · obtain ⟨herr, hafter⟩ := afterTask_congr t hcovered (ht.2 _ (List.mem_of_getElem? hlast)) hblanks
    simp [dealTask, herr, hafter]

theorem leaves_quiet (w w' : World) : Leaves (Agrees (Quiet w w')) (fun _ => True) w w' where
  congr := congr_agrees quiet_of_le
  note x := ⟨grows_note x, fun _ _ => rfl⟩
  task e base spec _ := dealTask_congr e base spec
  inherit _ _ _ h := h
  sub _ _ _ h := h
  role _ _ _ h := h

theorem execute_agrees (site : Site) (plays : List Play) (w w' : World) (n : Nat) :
    Agrees (Quiet w w') (execute site plays w n) (execute site plays w' n) := by
  have hleaves := leaves_quiet w w'
  refine executeFrom_rel hleaves ?_ (fun _ _ _ => trivial) 0
  refine dealIncludeTasks_rel hleaves (fun _ _ h => h) ⟨fun t => le_refl t, fun _ _ => rfl⟩ ?_ n
  exact fun e file _ _ _ hk =>
    includeStep_rel hleaves.congr site.source (fun reported _ => ⟨grows_visit e file reported, fun _ _ => rfl⟩) hk

/-! Two outcomes of a task that leaks. -/

section Speak

variable {task : TaskSpec}

def speakAttempt (s : String) : Attempt := ⟨true, .ok true, .ok (), s, "", none, .ok false, .ok false, true⟩

def speak (s : String) : TaskRun := ⟨fun _ => 0, fun _ => ⟨1, none, fun _ _ => speakAttempt s⟩⟩

def spokenOutput (s : String) : Output := ⟨some ⟨trimRightNewlines s, "", 0⟩, none⟩

def spoken (s host : String) : TaskResult := ⟨host, .ok, false, some (spokenOutput s), ""⟩

variable (s : String)

theorem applyFailure_speak (r : TaskResult) : executeModuleApplyFailure task (speakAttempt s) r = r := by
  unfold executeModuleApplyFailure
  split <;> rfl

theorem applyChanged_speak {r : TaskResult} (hr : r.changed = false) :
    executeModuleApplyChanged task (speakAttempt s) r = r := by
  unfold executeModuleApplyChanged
  split
  · rfl
  · rw [← hr]
    rfl

theorem executeModule_speak (host s : String) :
    executeModule task host (speakAttempt s) = (spoken s host, debugLines task (speakAttempt s)) := by
  have hwhen : (if task.when = [] then Except.ok true else (speakAttempt s).when) = Except.ok true := by
    split <;> rfl
  have hrun : executeModule task host (speakAttempt s) =
      (executeModuleApplyChanged task (speakAttempt s) (executeModuleApplyFailure task (speakAttempt s) (spoken s host)),
        debugLines task (speakAttempt s)) := by
    unfold executeModule
    rw [hwhen]
    rfl
  rw [hrun, applyFailure_speak, applyChanged_speak s rfl]

theorem executeWithRetry_speak (h : 0 ≤ task.retries) (host s : String) :
    executeWithRetry task host (fun _ => speakAttempt s) = (spoken s host, debugLines task (speakAttempt s)) := by
  obtain ⟨n, hn⟩ : ∃ n, (if task.retries = 0 then 1 else task.retries).toNat = n + 1 := by
    refine Nat.exists_eq_succ_of_ne_zero ?_
    split <;> omega
  have hstop : shouldStop task (speakAttempt s) (n = 0) (spoken s host) = (spoken s host, true) := by
    unfold shouldStop
    split <;> rfl
  simp [executeWithRetry, hn, retryLoop, executeModule_speak, hstop]

theorem execTaskHost_speak (h : 0 ≤ task.retries) (host s : String) :
    execTaskHost task host ((speak s).host host) = (spoken s host, debugLines task (speakAttempt s)) := by
  have hloop : resolveLoop task ((speak s).host host) = .ok 1 := by
    unfold resolveLoop
    split <;> rfl
  have hitem := executeWithRetry_speak h host s
  unfold execTaskHost
  rw [hloop]
  simp only [itemLoop, speak, hitem]
  simp [spoken, after, mergeOutput]

theorem execTask_speak (hmodule : task.module ∈ modules) (h : 0 ≤ task.retries) (s : String) :
    execTask task (speak s) =
      ((finished task (speak s)).map (spoken s), (finished task (speak s)).flatMap fun _ => debugLines task (speakAttempt s)) := by
  unfold execTask
  rw [if_pos hmodule]
  simp [execTaskHost_speak h, List.flatMap_map]

theorem aggregateFrom_spoken (output : Option Output) (hosts : List String) :
    aggregateFrom .ok output (hosts.map (spoken s)) =
      (.ok, "", if hosts = [] then output else output <|> some (spokenOutput s)) := by
  induction hosts generalizing output with
  | nil => rfl
  | cons host hosts ih =>
    simp only [List.map_cons, aggregateFrom, spoken]
    rw [ih]
    cases output <;> simp

theorem aggregateResults_spoken {hosts : List String} (h : hosts ≠ []) :
    aggregateResults (hosts.map (spoken s)) = (.ok, "", some (spokenOutput s)) := by
  rw [aggregateResults, aggregateFrom_spoken, if_neg h]
  rfl

end Speak

section Refuse

variable {task : TaskSpec}

/-- On every host the loop is over a value of type `s`, which is no mapping. -/
def refuse (s : String) : TaskRun := ⟨fun _ => 0, fun _ => ⟨1, some s, fun _ _ => speakAttempt ""⟩⟩

def refused (s host : String) : TaskResult := ⟨host, .failed, false, none, "with_dict requires a mapping, got " ++ s⟩

theorem execTask_refuse (hmodule : task.module ∈ modules) (hloop : task.loop = some .dict) (s : String) :
    (execTask task (refuse s)).1 = (finished task (refuse s)).map (refused s) := by
  have hhost : ∀ host, execTaskHost task host ((refuse s).host host) = (refused s host, []) := by
    simp [execTaskHost, resolveLoop, hloop, refuse, refused]
  unfold execTask
  rw [if_pos hmodule]
  simp [hhost]

end Refuse

theorem finished_ne_nil {task : TaskSpec} (h : task.hosts ≠ []) (run : TaskRun) : finished task run ≠ [] := by
  intro hnil
  have := (List.perm_insertionSort (fun a b => run.rank a ≤ run.rank b) task.hosts).length_eq
  unfold finished at hnil
  rw [hnil] at this
  exact h (List.eq_nil_of_length_eq_zero this.symm)

/-- The traces are told apart by their events or their log, and so is all that comes after them. -/
def ToldApart (t t' : Trace) : Prop :=
  (t.events.length = t'.events.length ∧ t.events ≠ t'.events) ∨ (t.log.length = t'.log.length ∧ t.log ≠ t'.log)

theorem ne_of_prefixes {α : Type} {l l' m m' : List α} (h : l <+: m) (h' : l' <+: m') (hlength : l.length = l'.length)
    (hne : l ≠ l') : m ≠ m' := by
  intro heq
  rw [← heq] at h'
  exact hne ((List.prefix_of_prefix_length_le h h' hlength.le).eq_of_length hlength)

theorem ToldApart.shown_ne {t t' : Trace} (h : ToldApart t t') {r r' : Res (Option String) × Trace} (hle : t ≤ r.2)
    (hle' : t' ≤ r'.2) : shown r ≠ shown r' := by
  intro heq
  simp only [shown, Prod.mk.injEq] at heq
  rcases h with ⟨hlength, hne⟩ | ⟨hlength, hne⟩
  · exact ne_of_prefixes hle.2.1 hle'.2.1 hlength hne heq.2.2
  · exact ne_of_prefixes hle.1 hle'.1 hlength hne heq.2.1

section Differ

variable {e : BlockExecutor} {base : BlockBase} {spec : TaskSpec}

theorem toldApart_of_taskEnd (t : Trace) {done done' : List TaskResult × List String}
    (h : ∀ index total, taskEnd base index total done.1 ≠ taskEnd base index total done'.1) :
    ToldApart (t.afterTask e base spec done) (t.afterTask e base spec done') := by
  refine Or.inl ⟨by simp [Trace.afterTask], ?_⟩
  intro heq
  simp only [Trace.afterTask, List.append_cancel_left_eq, List.cons.injEq, true_and, and_true] at heq
  exact h _ _ heq

theorem toldApart_of_lines (t : Trace) {done done' : List TaskResult × List String} (hlength : done.2.length = done'.2.length)
    (hskipped : skippedLine done.1 = skippedLine done'.1) (h : done.2 ≠ done'.2) :
    ToldApart (t.afterTask e base spec done) (t.afterTask e base spec done') := by
  refine Or.inr ⟨by simp [Trace.afterTask, hlength, hskipped], ?_⟩
  intro heq
  simp only [Trace.afterTask, hskipped, List.append_assoc, List.append_cancel_left_eq, List.append_cancel_right_eq] at heq
  exact h heq

/-- The outcomes of the task differ in their texts alone, and they are told apart. -/
def Differ (x : Executed) (r r' : TaskRun) : Prop :=
  blanks (execTask x.spec r).1 = blanks (execTask x.spec r').1 ∧
    ∀ (t : Trace) (e : BlockExecutor) (base : BlockBase), base.noLog = x.noLog →
      ToldApart (t.afterTask e base x.spec (execTask x.spec r)) (t.afterTask e base x.spec (execTask x.spec r'))

variable {x : Executed}

theorem differ_refuse (hhosts : x.spec.hosts ≠ []) (hmodule : x.spec.module ∈ modules) (hnoLog : x.noLog = false)
    (hloop : x.spec.loop = some .dict) : Differ x (refuse "int") (refuse "string") := by
  have hrefuse := fun s => execTask_refuse hmodule hloop s
  refine ⟨?_, ?_⟩
  · rw [hrefuse, hrefuse]
    simp only [blanks, List.map_map]
    rfl
  · intro t e base hbase
    refine toldApart_of_taskEnd t fun index total heq => ?_
    obtain ⟨host, hosts, hcons⟩ := List.exists_cons_of_ne_nil (finished_ne_nil hhosts (refuse ""))
    have herror := congrArg Event.error heq
    rw [hrefuse, hrefuse] at herror
    simp only [taskEnd, hbase, hnoLog, Bool.false_eq_true, if_false] at herror
    change (aggregateResults ((finished x.spec (refuse "")).map (refused "int"))).2.1 =
      (aggregateResults ((finished x.spec (refuse "")).map (refused "string"))).2.1 at herror
    rw [hcons] at herror
    revert herror
    simp [aggregateResults, aggregateFrom, refused]

theorem blanks_speak (hmodule : x.spec.module ∈ modules) (hretries : 0 ≤ x.spec.retries) :
    blanks (execTask x.spec (speak "a")).1 = blanks (execTask x.spec (speak "b")).1 := by
  rw [execTask_speak hmodule hretries, execTask_speak hmodule hretries]
  simp only [blanks, List.map_map]
  rfl

theorem differ_speak (hhosts : x.spec.hosts ≠ []) (hmodule : x.spec.module ∈ modules) (hnoLog : x.noLog = false)
    (hretries : 0 ≤ x.spec.retries) : Differ x (speak "a") (speak "b") := by
  refine ⟨blanks_speak hmodule hretries, ?_⟩
  intro t e base hbase
  refine toldApart_of_taskEnd t fun index total heq => ?_
  have houtput := congrArg Event.output heq
  rw [execTask_speak hmodule hretries, execTask_speak hmodule hretries] at houtput
  simp only [taskEnd, hbase, hnoLog, Bool.false_eq_true, if_false,
    aggregateResults_spoken _ (finished_ne_nil hhosts _)] at houtput
  revert houtput
  decide

theorem differ_debug (hhosts : x.spec.hosts ≠ []) (hmodule : x.spec.module ∈ modules)
    (hdebug : x.spec.module = "debug") (hretries : 0 ≤ x.spec.retries) : Differ x (speak "a") (speak "b") := by
  have hblanks := blanks_speak hmodule hretries
  refine ⟨hblanks, ?_⟩
  intro t e base _
  refine toldApart_of_lines t ?_ (skippedLine_congr hblanks) ?_
  · rw [execTask_speak hmodule hretries, execTask_speak hmodule hretries]
    simp [debugLines, hdebug, speakAttempt]
    rfl
  · rw [execTask_speak hmodule hretries, execTask_speak hmodule hretries]
    obtain ⟨host, hosts, hcons⟩ := List.exists_cons_of_ne_nil (finished_ne_nil hhosts (speak ""))
    change (finished x.spec (speak "")).flatMap _ ≠ (finished x.spec (speak "")).flatMap _
    rw [hcons]
    simp [debugLines, hdebug, speakAttempt]

theorem Executed.Leaks.differ (h : x.Leaks) : ∃ r r', Differ x r r' := by
  obtain ⟨hhosts, hmodule, ⟨hnoLog, _, hretries | hloop⟩ | ⟨_, hdebug, hretries⟩⟩ := h
  · exact ⟨_, _, differ_speak hhosts hmodule hnoLog hretries⟩
  · exact ⟨_, _, differ_refuse hhosts hmodule hnoLog hloop⟩
  · exact ⟨_, _, differ_debug hhosts hmodule hdebug hretries⟩

end Differ

/-! Two worlds that answer differently for one task. -/

section Fork

variable (w : World) (n : Nat) (r r' : TaskRun)

/-- The traces after the task with number `n`, for the two answers. -/
def Parted (t t' : Trace) : Prop :=
  ∃ (u : Trace) (e : BlockExecutor) (base : BlockBase) (spec : TaskSpec), u.executed.length = n ∧
    t = u.afterTask e base spec (execTask spec r) ∧ t' = u.afterTask e base spec (execTask spec r')

def Ahead (t : Trace) : Prop := t.executed.length ≤ n

theorem forks_dealTask (e : BlockExecutor) (base : BlockBase) (spec : TaskSpec) :
    Forks (Ahead n) (Parted n r r') (dealTask (Function.update w n r) e base spec) (dealTask (Function.update w n r') e base spec) := by
  refine ⟨grows_dealTask _ e base spec, grows_dealTask _ e base spec, ?_⟩
  intro t ht
  rcases Nat.lt_or_eq_of_le ht with hlt | heq
  · left
    have hne : t.executed.length ≠ n := hlt.ne
    refine ⟨?_, ?_⟩
    · simp only [Ahead, dealTask, Trace.afterTask, List.length_append, List.length_singleton]
      omega
    · simp [dealTask, Function.update_of_ne hne]
  · right
    refine ⟨_, _, ⟨t, e, base, spec, heq, rfl, rfl⟩, ?_, ?_⟩
    · simp only [dealTask, heq, Function.update_self]
      exact le_refl _
    · simp only [dealTask, heq, Function.update_self]
      exact le_refl _

theorem leaves_forks : Leaves (Forks (Ahead n) (Parted n r r')) (fun _ => True) (Function.update w n r) (Function.update w n r') where
  congr := congr_forks
  note x := by
    refine ⟨grows_note x, grows_note x, fun t ht => Or.inl ⟨?_, rfl⟩⟩
    cases x <;> exact ht
  task e base spec _ := forks_dealTask w n r r' e base spec
  inherit _ _ _ h := h
  sub _ _ _ h := h
  role _ _ _ h := h

theorem forks_execute (site : Site) (plays : List Play) (k : Nat) :
    Forks (Ahead n) (Parted n r r') (execute site plays (Function.update w n r) k)
      (execute site plays (Function.update w n r') k) := by
  have hleaves := leaves_forks w n r r'
  refine executeFrom_rel hleaves ?_ (fun _ _ _ => trivial) 0
  refine dealIncludeTasks_rel hleaves (fun _ _ h => h) ⟨fun t => le_refl t, fun t => le_refl t, fun _ ht => Or.inl ⟨ht, rfl⟩⟩ ?_ k
  exact fun e file _ _ _ hk => includeStep_rel hleaves.congr site.source
    (fun reported _ => ⟨grows_visit e file reported, grows_visit e file reported, fun _ ht => Or.inl ⟨ht, rfl⟩⟩) hk

theorem parted_of_executed {site : Site} {plays : List Play} {k : Nat} {x : Executed}
    (hx : (execute site plays (Function.update w n r) k .empty).2.executed[n]? = some x) :
    ∃ (u : Trace) (e : BlockExecutor) (base : BlockBase), x = ⟨base.noLog, e.inherited, x.spec⟩ ∧
      u.afterTask e base x.spec (execTask x.spec r) ≤ (execute site plays (Function.update w n r) k .empty).2 ∧
      u.afterTask e base x.spec (execTask x.spec r') ≤ (execute site plays (Function.update w n r') k .empty).2 ∧
      (execute site plays (Function.update w n r') k .empty).2.executed[n]? = some x := by
  have hfork := (forks_execute w n r r' site plays k).2.2 .empty (Nat.zero_le n)
  rcases hfork with ⟨hahead, _⟩ | ⟨t, t', ⟨u, e, base, spec, hlength, rfl, rfl⟩, hle, hle'⟩
  · obtain ⟨hlt, _⟩ := List.getElem?_eq_some_iff.1 hx
    exact absurd hahead (Nat.not_le.2 hlt)
  · have hat : ∀ done, (u.afterTask e base spec done).executed[n]? = some ⟨base.noLog, e.inherited, spec⟩ := by
      simp [Trace.afterTask, ← hlength]
    have hx' : x = ⟨base.noLog, e.inherited, spec⟩ := by
      have := getElem?_of_le hle (hat _)
      rw [hx] at this
      exact Option.some.inj this
    subst hx'
    exact ⟨u, e, base, rfl, hle, hle', getElem?_of_le hle' (hat _)⟩

end Fork

theorem TextsHidden.not_leaks {site : Site} {plays : List Play} (h : TextsHidden site plays) (k : Nat) (w : World) :
    ∀ x ∈ (execute site plays w k .empty).2.executed, ¬ x.Leaks := by
  intro x hx hleaks
  obtain ⟨n, hn⟩ := List.mem_iff_getElem?.1 hx
  obtain ⟨r, r', hblanks, hdiffer⟩ := hleaks.differ
  -- the same run with the first of the two outcomes, and from there the two runs
  have hn' : (execute site plays (Function.update w n (w n)) k .empty).2.executed[n]? = some x := by
    rw [Function.update_eq_self]
    exact hn
  obtain ⟨_, _, _, _, _, _, hr⟩ := parted_of_executed w n (w n) r hn'
  obtain ⟨u, e, base, hx', hle, hle', _⟩ := parted_of_executed w n r r' hr
  have hapart := hdiffer u e base (by rw [hx'])
  refine hapart.shown_ne hle hle' (h k _ _ ?_)
  intro m y hy
  by_cases hm : m = n
  · subst hm
    have hyx : y = x := Option.some.inj (hy.symm.trans hr)
    subst hyx
    simp only [Function.update_self]
    refine Or.inr ⟨?_, hblanks⟩
    rcases hleaks.2.2 with ⟨_, hinherited, _⟩ | ⟨hcovered, _⟩
    · exact Or.inr hinherited
    · exact hcovered
  · exact Or.inl (by simp [Function.update_of_ne hm])

/-- The runs of a playbook that differ only in the texts of tasks under `no_log` look the same, if and
only if no run of it executes a task that leaks. -/
theorem no_log_iff (site : Site) (plays : List Play) :
    TextsHidden site plays ↔ ∀ n w, ∀ x ∈ (execute site plays w n .empty).2.executed, ¬ x.Leaks := by
  constructor
  · intro h n w
    exact h.not_leaks n w
  · intro hquiet n w w' hdiffer
    rw [(execute_agrees site plays w w' n).2 .empty ⟨hdiffer, hquiet n w⟩]

/-! A task `shell` in a block with `no_log`, and a task `debug` with `no_log` of its own. -/

def named (name : String) (noLog : Bool) : BlockBase := ⟨name, noLog, false, none, [], []⟩

def taskOf (name module : String) (noLog : Bool) : Block := .mk (named name noLog) ⟨module, none, [], [], [], 0⟩ "" [] [] []

def playOf (tasks : List Block) : Play := ⟨"site", false, none, false, [], [], tasks, []⟩

def oneNode : Site := ⟨[], [], [], false, fun _ => .ok [["node"]], fun _ => none, fun _ => none⟩

def hiddenBlock : Play :=
  playOf [.mk (named "secrets" true) ⟨"", none, [], [], [], 0⟩ "" [taskOf "rotate" "shell" false] [] []]

def hiddenDebug : Play := playOf [taskOf "print" "debug" true]

/-- Both show what was printed. -/
theorem block_no_log_shows : ¬ TextsHidden oneNode [hiddenBlock] ∧ ¬ TextsHidden oneNode [hiddenDebug] := by
  constructor
  · intro h
    refine h.not_leaks 0 (fun _ => speak "") ⟨false, true, ⟨"rotate", "shell", ["node"], [], [], [], [], none, 0, none⟩⟩ ?_ ?_
    · decide
    · decide
  · intro h
    refine h.not_leaks 0 (fun _ => speak "") ⟨true, false, ⟨"print", "debug", ["node"], [], [], [], [], none, 0, none⟩⟩ ?_ ?_
    · decide
    · decide

end Vraxel.Ansible
