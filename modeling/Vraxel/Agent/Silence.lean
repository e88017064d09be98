import Vraxel.Agent.Probe
/-
  The probe runner with its goroutines (`SetSpecs`, `Close`, `check` of `lib/agent/probe/runner.go`).

  A check is three steps: the probe ends and the context is tested, the verdict is updated under
  `w.mu`, and a flip is reported. `SetSpecs` and `Close` are one step each, under `r.mu`. Without its
  goroutines this is the sequential `Runner` (`runner_setSpecs`). The parent context, the delays and
  the ticker are left out.
-/

namespace Vraxel.Agent

open Json Transition

inductive Phase where
  | probing
  | tested (answer : Answer)
  | flipped (s : ProbeState)

/-- The state that the next call of `OnChange` carries. -/
def Phase.pending : Phase → Option ProbeState
  | .flipped s => some s
  | _ => none

structure Task where
  born : Nat
  worker : Worker
  stopped : Bool := false
  phase : Phase := .probing

def Task.key (t : Task) : Nat × Bytes := (t.born, t.worker.spec.name)

/-- `latest` is the argument of the last `SetSpecs`, or nothing after a `Close`. -/
structure Probes where
  tasks : List Task := []
  calls : Nat := 0
  latest : List ProbeSpec := []

inductive ProbeEvent where
  | setSpecs (specs : List ProbeSpec)
  | close
  | test (k : Nat × Bytes) (answer : Answer)
  | update (k : Nat × Bytes) (now : Int)
  | report (k : Nat × Bytes)

namespace Task

def stop (t : Task) : Task := { t with stopped := true }

def test (answer : Answer) (t : Task) : Task :=
  match t.phase with
  | .probing => if t.stopped then t else { t with phase := .tested answer }
  | _ => t

def update (quote : Bytes → Bytes) (now : Int) (t : Task) : Task :=
  match t.phase with
  | .tested answer =>
    { t with
      worker := t.worker.check quote answer now
      phase := match t.worker.reports quote answer now with
        | [] => .probing
        | s :: _ => .flipped s }
  | _ => t

def report (t : Task) : Task :=
  match t.phase with
  | .flipped _ => { t with phase := .probing }
  | _ => t

end Task

namespace Probes

def setSpecs (p : Probes) (specs : List ProbeSpec) : Probes :=
  let kept := p.tasks.map fun t => if t.worker.spec ∈ Runner.wanted specs then t else t.stop
  let added := (Runner.wanted specs).filter fun s => kept.all fun t => t.stopped ∨ t.worker.spec.name ≠ s.name
  { tasks := kept ++ added.map fun s => { born := p.calls, worker := newWorker s }
    calls := p.calls + 1
    latest := specs }

def close (p : Probes) : Probes := { p with tasks := p.tasks.map Task.stop, latest := [] }

def modify (p : Probes) (k : Nat × Bytes) (f : Task → Task) : Probes :=
  { p with tasks := p.tasks.map fun t => if t.key = k then f t else t }

def step (quote : Bytes → Bytes) (p : Probes) : ProbeEvent → Probes
  | .setSpecs specs => p.setSpecs specs
  | .close => p.close
  | .test k answer => p.modify k (Task.test answer)
  | .update k now => p.modify k (Task.update quote now)
  | .report k => p.modify k Task.report

def runner (p : Probes) : Runner := { workers := (p.tasks.filter fun t => !t.stopped).map Task.worker }

end Probes

/-! ### The registered probes -/

namespace Runner

variable (specs : List ProbeSpec)

/-- At the last occurrence of its name a spec replaces the earlier ones. -/
theorem wanted_concat (s : ProbeSpec) :
    wanted (specs ++ [s]) =
      if s.name = [] then wanted specs else (wanted specs).filter (fun s' => s'.name ≠ s.name) ++ [s] := by
  simp [wanted, List.foldl_append]

theorem nodup_wanted : ((wanted specs).map ProbeSpec.name).Nodup := by
  induction specs using List.reverseRecOn with
  | nil => simp [wanted]
  | append_singleton specs s ih =>
    rw [wanted_concat]
    split
    · exact ih
    · rw [List.map_append, List.nodup_append]
      refine ⟨ih.sublist (List.filter_sublist.map _), by simp, ?_⟩
      simp only [List.mem_map, List.mem_filter, decide_eq_true_eq, List.map_cons, List.map_nil, List.mem_singleton]
      intro n ⟨s', hs', hn⟩ n' hn'
      rw [← hn, hn']
      exact hs'.2

theorem mem_names_wanted (n : Bytes) :
    n ∈ (wanted specs).map ProbeSpec.name ↔ n ≠ [] ∧ ∃ s ∈ specs, s.name = n := by
  induction specs using List.reverseRecOn with
  | nil => simp [wanted]
  | append_singleton specs s ih =>
    rw [wanted_concat]
    by_cases hs : s.name = []
    · rw [if_pos hs, ih]
      grind
    · simp only [List.mem_map] at ih
      simp only [List.mem_append, List.mem_map, List.mem_singleton]
      grind

/-- After `SetSpecs` there is one worker for each wanted spec. -/
theorem specs_setSpecs (r : Runner) (h : (r.workers.map Worker.spec).Nodup) (specs : List ProbeSpec) :
    ((r.setSpecs specs).workers.map Worker.spec).Perm (wanted specs) := by
  have hinj : ∀ s ∈ wanted specs, ∀ s' ∈ wanted specs, s.name = s'.name → s = s' :=
    List.inj_on_of_nodup_map (nodup_wanted specs)
  have hwanted : (wanted specs).Nodup := List.Nodup.of_map _ (nodup_wanted specs)
  rw [List.perm_ext_iff_of_nodup ?_ hwanted]
  · intro s
    simp only [setSpecs, List.map_append, List.map_map, List.mem_append, List.mem_map, List.mem_filter, List.all_eq_true,
      decide_eq_true_eq, Function.comp_apply, newWorker, exists_eq_right]
    constructor
    · rintro (⟨w, hw, rfl⟩ | hs)
      · exact hw.2
      · exact hs.1
    · intro hs
      by_cases hk : ∃ w ∈ r.workers, w.spec ∈ wanted specs ∧ w.spec.name = s.name
      · -- the worker of that name is kept, and its spec is the wanted one
        obtain ⟨w, hw, hws, hn⟩ := hk
        exact Or.inl ⟨w, ⟨hw, hws⟩, hinj _ hws _ hs hn⟩
      · exact Or.inr ⟨hs, fun w hw hn => hk ⟨w, hw.1, hw.2, hn⟩⟩
  · simp only [setSpecs, List.map_append, List.map_map, List.nodup_append]
    refine ⟨h.sublist (List.filter_sublist.map _), ?_, ?_⟩
    · simpa [Function.comp_def, newWorker] using hwanted.filter _
    · simp only [List.mem_map, List.mem_filter, List.all_eq_true, decide_eq_true_eq, Function.comp_apply, newWorker]
      rintro s ⟨w, hw, hs⟩ s' ⟨a, ha, hs'⟩ heq
      exact ha.2 w hw (by rw [hs, heq, ← hs'])

end Runner

variable (quote : Bytes → Bytes)

namespace Probes

variable {p : Probes}

theorem runner_setSpecs (p : Probes) (specs : List ProbeSpec) :
    (p.setSpecs specs).runner = p.runner.setSpecs specs := by
  have hkept : ((p.tasks.map fun t => if t.worker.spec ∈ Runner.wanted specs then t else t.stop).filter
      fun t => !t.stopped).map Task.worker = p.runner.workers.filter fun w => w.spec ∈ Runner.wanted specs := by
    simp only [runner]
    induction p.tasks with
    | nil => rfl
    | cons t ts ih =>
      by_cases hs : t.worker.spec ∈ Runner.wanted specs <;> cases ht : t.stopped <;> simp_all [Task.stop]
  have hall (s : ProbeSpec) (ts : List Task) :
      (ts.all fun t => t.stopped ∨ t.worker.spec.name ≠ s.name) =
        ((ts.filter fun t => !t.stopped).map Task.worker).all fun w => w.spec.name ≠ s.name := by
    induction ts with
    | nil => rfl
    | cons t ts ih => cases ht : t.stopped <;> simp_all
  have hnew (ss : List ProbeSpec) : ((ss.map fun s => (⟨p.calls, newWorker s, false, .probing⟩ : Task)).filter
      fun t => !t.stopped).map Task.worker = ss.map newWorker := by
    induction ss <;> simp_all
  simp only [Runner.setSpecs, ← hkept, ← hall]
  simp [runner, setSpecs, hnew]

theorem runner_close (p : Probes) : p.close.runner = p.runner.close := by
  simp [runner, close, Runner.close, Task.stop]

/-- An update that leaves the spec of a task and its registration alone. -/
structure Internal (f : Task → Task) : Prop where
  spec : ∀ t, (f t).worker.spec = t.worker.spec
  stopped : ∀ t, (f t).stopped = t.stopped

theorem internal_test (answer : Answer) : Internal (Task.test answer) := by
  constructor <;> intro t <;> unfold Task.test <;> split <;> (try split) <;> rfl

theorem internal_update (now : Int) : Internal (Task.update quote now) := by
  constructor <;> intro t <;> unfold Task.update <;> split <;> rfl

theorem internal_report : Internal Task.report := by
  constructor <;> intro t <;> unfold Task.report <;> split <;> rfl

theorem specs_modify {f : Task → Task} (hf : Internal f) (p : Probes) (k : Nat × Bytes) :
    (p.modify k f).runner.workers.map Worker.spec = p.runner.workers.map Worker.spec := by
  simp only [runner, modify]
  induction p.tasks with
  | nil => rfl
  | cons t ts ih =>
    by_cases hk : t.key = k <;> cases ht : t.stopped <;> simp_all [hf.spec, hf.stopped]

end Probes

/-- The task speaks in the name of its spec. -/
structure Task.Named (t : Task) : Prop where
  cur : t.worker.cur.name = t.worker.spec.name
  pending : ∀ s ∈ t.phase.pending, s.name = t.worker.spec.name

theorem name_check {w : Worker} (h : w.cur.name = w.spec.name) (answer : Answer) (now : Int) :
    (w.check quote answer now).cur.name = w.spec.name := by
  simp only [Worker.check, Worker.verdict]
  split_ifs <;> simp [h]

namespace Task.Named

variable {t : Task}

theorem test (h : t.Named) (answer : Answer) : (t.test answer).Named := by
  unfold Task.test
  split
  · split
    · exact h
    · exact ⟨h.cur, by simp [Phase.pending]⟩
  · exact h

theorem update (h : t.Named) (quote : Bytes → Bytes) (now : Int) : (t.update quote now).Named := by
  unfold Task.update
  split
  · rename_i answer _
    have hname := name_check quote h.cur answer now
    refine ⟨hname, ?_⟩
    unfold Worker.reports
    dsimp only
    split_ifs
    · intro s hs
      cases hs
      exact hname
    · simp [Phase.pending]
  · exact h

theorem report (h : t.Named) : t.report.Named := by
  unfold Task.report
  split
  · exact ⟨h.cur, by simp [Phase.pending]⟩
  · exact h

end Task.Named

namespace Probes

variable {p : Probes}

/-- What is true of the new tasks, and what every event keeps for one task, is kept for all. -/
theorem forall_tasks_step {Inv : Task → Prop} {quote : Bytes → Bytes} {e : ProbeEvent} (h : ∀ t ∈ p.tasks, Inv t)
    (hnew : ∀ born s, Inv ⟨born, newWorker s, false, .probing⟩)
    (hspecs : ∀ specs, e = .setSpecs specs → ∀ t ∈ p.tasks, t.worker.spec ∉ Runner.wanted specs → Inv t.stop)
    (hclose : e = .close → ∀ t ∈ p.tasks, Inv t.stop)
    (htest : ∀ answer t, Inv t → Inv (t.test answer)) (hupdate : ∀ now t, Inv t → Inv (t.update quote now))
    (hreport : ∀ t, Inv t → Inv t.report) : ∀ t ∈ (p.step quote e).tasks, Inv t := by
  have hmodify (k : Nat × Bytes) (f : Task → Task) (hf : ∀ t, Inv t → Inv (f t)) : ∀ t ∈ (p.modify k f).tasks, Inv t := by
    intro t ht
    obtain ⟨t₀, ht₀, rfl⟩ := List.mem_map.1 ht
    split
    · exact hf t₀ (h t₀ ht₀)
    · exact h t₀ ht₀
  cases e with
  | setSpecs specs =>
    intro t ht
    simp only [step, setSpecs, List.mem_append, List.mem_map] at ht
    obtain ⟨t₀, ht₀, rfl⟩ | ⟨s, _, rfl⟩ := ht
    · split
      · exact h t₀ ht₀
      · exact hspecs specs rfl t₀ ht₀ ‹_›
    · exact hnew p.calls s
  | close =>
    intro t ht
    obtain ⟨t₀, ht₀, rfl⟩ := List.mem_map.1 ht
    exact hclose rfl t₀ ht₀
  | test k answer => exact hmodify k _ (htest answer)
  | update k now => exact hmodify k _ (hupdate now)
  | report k => exact hmodify k _ hreport

structure Synced (p : Probes) : Prop where
  specs : (p.runner.workers.map Worker.spec).Perm (Runner.wanted p.latest)
  named : ∀ t ∈ p.tasks, t.Named

theorem synced_step (p : Probes) (e : ProbeEvent) (h : Synced p) : Synced (p.step quote e) where
  specs := by
    cases e with
    | setSpecs specs =>
      simp only [step, runner_setSpecs]
      apply Runner.specs_setSpecs
      exact h.specs.nodup_iff.2 (List.Nodup.of_map _ (Runner.nodup_wanted p.latest))
    | close =>
      simp only [step, runner_close]
      rfl
    | test k answer => exact (List.Perm.of_eq (specs_modify (internal_test answer) p k)).trans h.specs
    | update k now => exact (List.Perm.of_eq (specs_modify (internal_update quote now) p k)).trans h.specs
    | report k => exact (List.Perm.of_eq (specs_modify internal_report p k)).trans h.specs
  named := forall_tasks_step h.named (fun _ _ => ⟨rfl, by simp [Phase.pending]⟩)
    (fun _ _ t ht _ => ⟨(h.named t ht).cur, (h.named t ht).pending⟩)
    (fun _ t ht => ⟨(h.named t ht).cur, (h.named t ht).pending⟩)
    (fun answer _ ht => ht.test answer) (fun now _ ht => ht.update quote now) fun _ ht => ht.report

/-- `States` has one entry for each name, the empty one left out. -/
def OneEntryEach (p : Probes) : Prop :=
  (p.runner.states.map (·.name)).Nodup ∧
    ∀ n, n ∈ p.runner.states.map (·.name) ↔ n ≠ [] ∧ ∃ s ∈ p.latest, s.name = n

theorem oneEntryEach_of_synced (h : Synced p) : OneEntryEach p := by
  have hnames : (p.runner.states.map (·.name)).Perm ((Runner.wanted p.latest).map ProbeSpec.name) := by
    refine List.Perm.trans ?_ (h.specs.map ProbeSpec.name)
    refine ((List.perm_insertionSort _ _).map _).trans (List.Perm.of_eq ?_)
    simp only [runner, List.map_map]
    exact List.map_congr_left fun t ht => (h.named t (List.mem_of_mem_filter ht)).cur
  exact ⟨hnames.nodup_iff.2 (Runner.nodup_wanted p.latest),
    fun n => hnames.mem_iff.trans (Runner.mem_names_wanted p.latest n)⟩

def Silent (p : Probes) : ProbeEvent → Prop
  | .report k => ∀ t ∈ p.tasks, t.key = k → ∀ s ∈ t.phase.pending,
      t.stopped = false ∧ t.worker.spec ∈ Runner.wanted p.latest ∧ s.name = t.worker.spec.name
  | _ => True

/-- No worker that is stopped is past the test of its context. -/
def Untested (p : Probes) : ProbeEvent → Prop
  | .setSpecs specs => ∀ t ∈ p.tasks, t.worker.spec ∉ Runner.wanted specs → t.stopped = false → t.phase = .probing
  | .close => ∀ t ∈ p.tasks, t.stopped = false → t.phase = .probing
  | _ => True

def Quiet (t : Task) : Prop := t.stopped = true → t.phase = .probing

theorem quiet_step (p : Probes) (e : ProbeEvent) (h : ∀ t ∈ p.tasks, Quiet t)
    (he : Untested p e) : ∀ t ∈ (p.step quote e).tasks, Quiet t := by
  have hstop (t : Task) (ht : t ∈ p.tasks) (hp : t.stopped = false → t.phase = .probing) : Quiet t.stop := by
    intro _
    cases hs : t.stopped with
    | false => exact hp hs
    | true => exact h t ht hs
  apply forall_tasks_step h
  · exact fun _ _ _ => rfl
  · intro specs hspecs t ht hw
    subst hspecs
    exact hstop t ht (he t ht hw)
  · intro hclose t ht
    subst hclose
    exact hstop t ht (he t ht)
  · intro answer t ht hs
    rw [(internal_test answer).stopped] at hs
    simp [Task.test, ht hs, hs]
  · intro now t ht hs
    rw [(internal_update quote now).stopped] at hs
    simp [Task.update, ht hs]
  · intro t ht hs
    rw [internal_report.stopped] at hs
    simp [Task.report, ht hs]

theorem silent_of_quiet (h : Synced p) (hq : ∀ t ∈ p.tasks, Quiet t) (e : ProbeEvent) : Silent p e := by
  cases e with
  | report k =>
    intro t ht _ s hs
    have hlive : t.stopped = false := by
      by_contra hstopped
      rw [hq t ht (by simpa using hstopped)] at hs
      simp [Phase.pending] at hs
    refine ⟨hlive, h.specs.mem_iff.1 ?_, (h.named t ht).pending s hs⟩
    exact List.mem_map_of_mem (List.mem_map_of_mem (List.mem_filter.2 ⟨ht, by simp [hlive]⟩))
  | _ => trivial

/-- In every run `States` answers for the specs of the last `SetSpecs`, and `SetSpecs` leaves the
workers of unchanged specs alone. Where no worker that is stopped is past the test of its
context, every report comes from a registered worker. -/
theorem removed_probes_silent (quote : Bytes → Bytes) (es : List ProbeEvent) :
    (∀ p ∈ states (step quote) {} es, OneEntryEach p ∧ ∀ specs, ∀ t ∈ p.tasks,
      t.worker.spec ∈ Runner.wanted specs → t ∈ (p.setSpecs specs).tasks) ∧
      (Along (step quote) Untested {} es → Along (step quote) Silent {} es) := by
  have hsynced : ∀ p ∈ states (step quote) {} es, Synced p :=
    forall_states_of_step (synced_step quote) ⟨by simp [runner, Runner.wanted], by simp⟩ es
  refine ⟨fun p hp => ⟨oneEntryEach_of_synced (hsynced p hp), fun specs t ht hs => ?_⟩, fun hes => ?_⟩
  · refine List.mem_append_left _ (List.mem_map.2 ⟨t, ht, ?_⟩)
    rw [if_pos hs]
  · have hquiet : ∀ p ∈ states (step quote) {} es, Synced p ∧ ∀ t ∈ p.tasks, Quiet t :=
      forall_states_of_along (fun p e h he => ⟨synced_step quote p e h.1, quiet_step quote p e h.2 he⟩)
        ⟨⟨by simp [runner, Runner.wanted], by simp⟩, by simp⟩ hes
    exact along_of_states (fun p e hp _ => silent_of_quiet hp.1 hp.2 e) hquiet

/-- The check was past the test when the probe was removed. -/
theorem removed_probe_reports :
    let spec : ProbeSpec := { name := ascii "web", type := ascii "tcp" }
    let p := run (step id) {} [.setSpecs [spec], .test (0, ascii "web") {}, .setSpecs [], .update (0, ascii "web") 7]
    p.latest = [] ∧ p.tasks.map (fun t => (t.key, t.stopped, t.phase.pending)) =
      [((0, ascii "web"), true, some { name := ascii "web", healthy := true, message := [], changedUnixMs := 7 })] ∧
      ¬ Silent p (.report (0, ascii "web")) := by
  exact ⟨by decide, by decide, fun h => absurd (h _ List.mem_cons_self rfl _ rfl).1 (by decide)⟩

end Probes

end Vraxel.Agent
