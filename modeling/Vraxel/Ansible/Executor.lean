import Vraxel.Lib.Bounded
import Vraxel.Ansible.Task
/-
  The executor of playbooks (`lib/ansible/executor`: `block.go`, `role.go`, `playbook.go`).

  A run writes to the log and emits events; these are kept in `Trace`, with two lists of
  bookkeeping: the tasks that were executed and the `include_tasks` that were reached.
-/

namespace Vraxel.Ansible

open Strconv Bounded

inductive EventType where
  | playStart
  | playEnd
  | taskStart
  | taskEnd

structure Event where
  type : EventType
  play : String := ""
  task : String := ""
  index : Nat := 0
  total : Nat := 0
  status : String := ""
  output : Option Output := none
  error : String := ""

/-- A task that was executed: its own `no_log`, that of the play and the sections around it, and the task. -/
structure Executed where
  noLog : Bool
  inherited : Bool
  spec : TaskSpec
  deriving DecidableEq

structure Visit where
  file : String
  includeStack : List String
  active : List String
  reported : Bool

structure Trace where
  log : List String
  events : List Event
  taskIndex : Nat
  executed : List Executed
  visits : List Visit

def Trace.empty : Trace := ⟨[], [], 0, [], []⟩

instance : Preorder Trace where
  le t u := t.log <+: u.log ∧ t.events <+: u.events ∧ t.executed <+: u.executed ∧ t.visits <+: u.visits
  le_refl t := ⟨List.prefix_rfl, List.prefix_rfl, List.prefix_rfl, List.prefix_rfl⟩
  le_trans t u v h h' := ⟨h.1.trans h'.1, h.2.1.trans h'.2.1, h.2.2.1.trans h'.2.2.1, h.2.2.2.trans h'.2.2.2⟩

/-- What a run comes to is the error it returns, if any. -/
abbrev Run := Act Trace (Option String)

inductive Note where
  | write (text : String)
  | emit (e : Event)
  | skip (n : Nat)
  | startBatch

variable (t : Trace) (base : BlockBase) (results : List TaskResult)

def Trace.note : Note → Trace
  | .write text => { t with log := t.log ++ [text] }
  | .emit e => { t with events := t.events ++ [e] }
  | .skip n => { t with taskIndex := t.taskIndex + n }
  | .startBatch => { t with taskIndex := 0 }

def note (x : Note) : Run := fun t => (.done none, t.note x)

def andThen (m m' : Run) : Run := m.bind fun err => if err.isSome then .pure err else m'

abbrev World := Nat → TaskRun

structure BlockExecutor where
  hosts : List String
  ignoreErrors : Option Bool
  when : List String
  tags : Tags
  playTags : List String
  playSkipTags : List String
  role : String
  taskTotal : Nat
  skipRunOnce : Bool
  includeStack : List String
  active : List String
  inherited : Bool

def noLogRedacted : String := "<output withheld: task is marked no_log>"

def failureDetail (r : TaskResult) : String :=
  match r.output.bind (·.captured) with
  | none => r.error
  | some c =>
    r.error ++ (if c.stdout ≠ "" then "\n--- stdout ---\n" ++ c.stdout else "")
      ++ (if c.stderr ≠ "" then "\n--- stderr ---\n" ++ c.stderr else "")

def dealTaskCheckFailure (ignoreErrors : Option Bool) (results : List TaskResult) : Option String :=
  (results.find? fun r => r.status = .failed ∧ ignoreErrors ≠ some true).map fun r =>
    "task " ++ quote base.name ++ " failed on host " ++ quote r.host ++ ": "
      ++ if base.noLog then noLogRedacted else failureDetail r

def taskEnd (index total : Nat) (results : List TaskResult) : Event :=
  let agg := aggregateResults results
  { type := .taskEnd
    task := base.name
    index := index
    total := total
    status := agg.1.name
    output := if base.noLog then none else agg.2.2
    error := if base.noLog then (if agg.2.1 ≠ "" then noLogRedacted else "") else agg.2.1 }

def taskStart (index total : Nat) : Event :=
  { type := .taskStart, task := base.name, index := index, total := total }

def taskName (role : String) (base : BlockBase) : String :=
  (if role ≠ "" then "[" ++ role ++ "] " else "") ++ base.name ++ "\n"

def skippedLine : List String :=
  if (aggregateResults results).1 = .skipped then ["  => SKIPPED\n"] else []

/-- The trace after a task with these results, for which the modules have written `lines`. -/
def Trace.afterTask (e : BlockExecutor) (base : BlockBase) (spec : TaskSpec)
    (done : List TaskResult × List String) : Trace :=
  let index := t.taskIndex + 1
  { log := t.log ++ [taskName e.role base] ++ done.2 ++ skippedLine done.1
    events := t.events ++ [taskStart base index e.taskTotal, taskEnd base index e.taskTotal done.1]
    taskIndex := index
    executed := t.executed ++ [⟨base.noLog, e.inherited, spec⟩]
    visits := t.visits }

def dealTask (w : World) (e : BlockExecutor) (base : BlockBase) (spec : TaskSpec) : Run := fun t =>
  let done := execTask spec (w t.executed.length)
  (.done (dealTaskCheckFailure base spec.ignoreErrors done.1), t.afterTask e base spec done)

def joinErrors (errs : List (Option String)) : Option String :=
  match errs.filterMap id with
  | [] => none
  | texts => some (String.intercalate "\n" texts)

/-- `dealBlockRescueAlways`, with the runs of the three sections; a section may be missing. -/
def dealBlockRescueAlways (block : Run) (rescue always : Option Run) : Run :=
  (block.bind fun blockErr =>
    if blockErr.isNone then .pure none
    else
      match rescue with
      | none => .pure blockErr
      | some rescue => rescue.bind fun rescueErr =>
        .pure (if rescueErr.isNone then none else joinErrors [blockErr, rescueErr])).bind fun errs =>
  match always with
  | none => .pure errs
  | some always => always.bind fun alwaysErr => .pure (joinErrors [errs, alwaysErr])

variable (e : BlockExecutor)

namespace BlockExecutor

def inherit (e : BlockExecutor) (base : BlockBase) (hosts : List String) : BlockExecutor :=
  { e with
    hosts := hosts
    ignoreErrors := if base.ignoreErrors.isNone then e.ignoreErrors else base.ignoreErrors
    when := mergeWhen e.when base.when
    tags := Tags.joinTag e.tags base.tags }

def sub (e : BlockExecutor) (base : BlockBase) (hosts : List String) : BlockExecutor :=
  { e.inherit base hosts with includeStack := [], inherited := e.inherited || base.noLog }

def hostsOf (e : BlockExecutor) (base : BlockBase) : List String := if base.runOnce then e.hosts.take 1 else e.hosts

def enabled : Bool := Tags.isEnabled e.tags e.playTags e.playSkipTags

end BlockExecutor

section Blocks

variable (deal : BlockExecutor → String → Run) (w : World)

mutual

def execBlock (e : BlockExecutor) : Block → Run
  | .mk base task includeTasks block rescue always =>
    let hosts := e.hostsOf base
    let child := e.inherit base hosts
    if base.runOnce && e.skipRunOnce then note (.skip (countBlock (.mk base task includeTasks block rescue always)))
    else if !block.isEmpty then
      dealBlockRescueAlways (execBlocks (e.sub base hosts) block)
        (if rescue.isEmpty then none else some (execBlocks (e.sub base hosts) rescue))
        (if always.isEmpty then none else some (execBlocks (e.sub base hosts) always))
    else if !child.enabled then .pure none
    else if includeTasks ≠ "" then deal child includeTasks
    else dealTask w e base (blockToTaskSpec base task hosts child.when child.ignoreErrors)
termination_by structural b => b

def execBlocks (e : BlockExecutor) : List Block → Run
  | [] => .pure none
  | b :: bs => andThen (execBlock e b) (execBlocks e bs)
termination_by structural bs => bs

end

end Blocks

inductive FileError where
  | parse (msg : String)
  | invalid (msg : String)

/-- The files of a project: what is read from them, or why they are refused. -/
abbrev Source := List (String × Except FileError (List Block))

def Source.blocks (src : Source) (file : String) : Except String (List Block) :=
  match src.lookup file with
  | none => .error ("read " ++ file ++ ": file does not exist")
  | some (.error (.parse msg)) => .error ("parse " ++ file ++ ": " ++ msg)
  | some (.error (.invalid msg)) => .error (file ++ ": " ++ msg)
  | some (.ok blocks) => .ok blocks

def Trace.visit (e : BlockExecutor) (file : String) (reported : Bool) : Trace :=
  { t with visits := t.visits ++ [⟨file, e.includeStack, e.active, reported⟩] }

def visit (e : BlockExecutor) (file : String) (reported : Bool) : Run := fun t => (.done none, t.visit e file reported)

def recursiveInclude (file : String) : String :=
  "include_tasks: recursive include detected: " ++ String.intercalate " -> " (e.includeStack ++ [file])

def BlockExecutor.push (file : String) : BlockExecutor :=
  { e with includeStack := e.includeStack ++ [file], active := e.active ++ [file] }

/-- One `include_tasks`: the list that is searched for the file is `stack e`, and `run` executes the file's blocks. -/
def includeStep (stack : BlockExecutor → List String) (src : Source) (e : BlockExecutor) (file : String)
    (run : List Block → Run) : Run :=
  if file ∈ stack e then andThen (visit e file true) (.pure (some (recursiveInclude e file)))
  else
    match src.blocks file with
    | .error err => andThen (visit e file false) (.pure (some ("include_tasks: " ++ err)))
    | .ok blocks => andThen (visit e file false) (run blocks)

/-- `dealIncludeTasks`, with at most `n` includes inside each other. -/
def dealIncludeTasks (stack : BlockExecutor → List String) (src : Source) (w : World) : Nat → BlockExecutor → String → Run
  | 0, _, _ => fun t => (.pending, t)
  | n + 1, e, file => includeStep stack src e file (execBlocks (dealIncludeTasks stack src w n) w (e.push file))

/-- `BlockExecutor.Exec`, with at most `n` includes inside each other. -/
def BlockExecutor.exec (src : Source) (w : World) (n : Nat) (e : BlockExecutor) (blocks : List Block) : Run :=
  execBlocks (dealIncludeTasks (·.includeStack) src w n) w e blocks

def wrap (text : String) (m : Run) : Run := m.bind fun err => .pure (err.map (text ++ ·))

def loadRoleTasks (src : Source) (role : String) : Except String (List Block) :=
  match src.lookup ("roles/" ++ role ++ "/tasks/main.yml") with
  | none => .error ("role '" ++ role ++ "': read tasks: file does not exist")
  | some (.error (.parse msg)) => .error ("role '" ++ role ++ "': parse tasks: " ++ msg)
  | some (.error (.invalid msg)) => .error ("role '" ++ role ++ "': " ++ msg)
  | some (.ok blocks) => .ok blocks

def Role.name : Role → String
  | .mk role _ _ _ => role

section Roles

variable (src : Source) (deal : BlockExecutor → String → Run) (w : World) (e : BlockExecutor)

mutual

def execRole : Role → Run
  | .mk role when dependencies blocks =>
    andThen (execDependencies dependencies)
      (match loadRoleTasks src role with
      | .error err => .pure (some err)
      | .ok loaded =>
        execBlocks deal w { e with role := role, when := if when.isEmpty then e.when else when }
          (if blocks.isEmpty then loaded else blocks))
termination_by structural r => r

def execDependencies : List Role → Run
  | [] => .pure none
  | r :: rs => andThen (wrap ("role dependency '" ++ r.name ++ "': ") (execRole r)) (execDependencies rs)
termination_by structural rs => rs

end

def execBatchRoles : List Role → Run
  | [] => .pure none
  | r :: rs =>
    andThen (note (.write ("\nROLE [" ++ r.name ++ "] ***\n")))
      (andThen (wrap ("role '" ++ r.name ++ "': ") (execRole src deal w e r)) (execBatchRoles rs))

def execBatchTaskPhase (header errPrefix : String) (blocks : List Block) : Run :=
  if blocks.isEmpty then .pure none
  else andThen (note (.write (header ++ "\n"))) (wrap (errPrefix ++ ": ") (execBlocks deal w e blocks))

end Roles

/-- Where a playbook is executed. For the play with that number: the hosts of its serial batches, and
what is wrong with the connectors and the facts. -/
structure Site where
  source : Source
  tags : List String
  skipTags : List String
  skipRunOnce : Bool
  plan : Nat → Except String (List (List String))
  connect : Nat → Option String
  facts : Nat → Option String

def Role.blocks : Role → List Block
  | .mk _ _ _ blocks => blocks

def countTasks (play : Play) : Nat :=
  countBlocks play.preTasks + countBlocks play.tasks + countBlocks play.postTasks
    + (play.roles.map fun r => countBlocks r.blocks).sum

def makeBlockExec (site : Site) (play : Play) (hosts : List String) : BlockExecutor where
  hosts := hosts
  ignoreErrors := play.ignoreErrors
  when := []
  tags := []
  playTags := site.tags
  playSkipTags := site.skipTags
  role := ""
  taskTotal := countTasks play
  skipRunOnce := site.skipRunOnce
  includeStack := []
  active := []
  inherited := play.noLog

section Plays

variable (site : Site) (deal : BlockExecutor → String → Run) (w : World)

def execBatch (play : Play) (hosts : List String) : Run :=
  let e := makeBlockExec site play hosts
  andThen (note .startBatch)
    (andThen (execBatchTaskPhase deal w e "\nPRE TASKS ***" "pre_tasks" play.preTasks)
      (andThen (execBatchRoles site.source deal w e play.roles)
        (andThen (execBatchTaskPhase deal w e "\nTASKS ***" "tasks" play.tasks)
          (execBatchTaskPhase deal w e "\nPOST TASKS ***" "post_tasks" play.postTasks))))

def execBatches (play : Play) : List (List String) → Run
  | [] => .pure none
  | hosts :: batches => andThen (execBatch site deal w play hosts) (execBatches play batches)

def execPlay (i : Nat) (play : Play) : Run :=
  match site.plan i with
  | .error err => .pure (some err)
  | .ok [] => note (.write "skipping: no hosts matched\n")
  | .ok batches =>
    if (site.connect i).isSome then .pure (site.connect i)
    else if play.gatherFacts && (site.facts i).isSome then .pure ((site.facts i).map ("gather_facts: " ++ ·))
    else execBatches site deal w play batches

def executeFrom (i : Nat) : List Play → Run
  | [] => .pure none
  | play :: plays =>
    andThen (note (.write ("\nPLAY [" ++ play.name ++ "] ***\n")))
      (andThen (note (.emit { type := .playStart, play := play.name }))
        ((execPlay site deal w i play).bind fun err =>
          match err with
          | some err =>
            andThen (note (.emit { type := .playEnd, play := play.name, error := err }))
              (.pure (some ("play " ++ toString (i + 1) ++ " '" ++ play.name ++ "': " ++ err)))
          | none =>
            andThen (note (.emit { type := .playEnd, play := play.name })) (executeFrom (i + 1) plays)))

end Plays

def execute (site : Site) (plays : List Play) (w : World) (n : Nat) : Run :=
  executeFrom site (dealIncludeTasks (·.includeStack) site.source w n) w 0 plays

/-! Two runs of the same blocks. -/

/-- A relation between runs that the leaves of two executions are in, other than the includes; `Q` is
what may be used of the executors. -/
structure Leaves (R : Run → Run → Prop) (Q : BlockExecutor → Prop) (w w' : World) : Prop where
  congr : Congr R
  note : ∀ x, R (note x) (note x)
  task : ∀ e base spec, Q e → R (dealTask w e base spec) (dealTask w' e base spec)
  inherit : ∀ e base hosts, Q e → Q (e.inherit base hosts)
  sub : ∀ e base hosts, Q e → Q (e.sub base hosts)
  role : ∀ e role when, Q e → Q { e with role := role, when := when }

section Rel

variable {R : Run → Run → Prop} {Q : BlockExecutor → Prop} {w w' : World}
variable {deal deal' : BlockExecutor → String → Run}

theorem andThen_rel (h : Congr R) {m m' k k' : Run} (hm : R m m') (hk : R k k') : R (andThen m k) (andThen m' k') := by
  refine h.bind hm fun err => ?_
  split
  · exact h.pure err
  · exact hk

theorem wrap_rel (h : Congr R) (text : String) {m m' : Run} (hm : R m m') : R (wrap text m) (wrap text m') :=
  h.bind hm fun _ => h.pure _

theorem sections_rel (h : Congr R) {block block' rescue rescue' always always' : Run} (hblock : R block block')
    (hrescue : R rescue rescue') (halways : R always always') (hasRescue hasAlways : Bool) :
    R (dealBlockRescueAlways block (if hasRescue then none else some rescue) (if hasAlways then none else some always))
      (dealBlockRescueAlways block' (if hasRescue then none else some rescue') (if hasAlways then none else some always')) := by
  refine h.bind (h.bind hblock fun blockErr => ?_) fun errs => ?_
  · split
    · exact h.pure none
    · cases hasRescue with
      | true => exact h.pure blockErr
      | false => exact h.bind hrescue fun _ => h.pure _
  · cases hasAlways with
    | true => exact h.pure errs
    | false => exact h.bind halways fun _ => h.pure _

theorem includeStep_rel (h : Congr R) {stack : BlockExecutor → List String} (src : Source) {e : BlockExecutor}
    {file : String}
    (hvisit : ∀ reported, (reported = true ↔ file ∈ stack e) → R (visit e file reported) (visit e file reported))
    {k k' : List Block → Run} (hk : ∀ bs, R (k bs) (k' bs)) :
    R (includeStep stack src e file k) (includeStep stack src e file k') := by
  unfold includeStep
  split
  · next hmem => exact andThen_rel h (hvisit true (by simp [hmem])) (h.pure _)
  · next hmem =>
    have hvisit' := hvisit false (by simp [hmem])
    split
    · exact andThen_rel h hvisit' (h.pure _)
    · exact andThen_rel h hvisit' (hk _)

variable (h : Leaves R Q w w') (hdeal : ∀ e file, Q e → R (deal e file) (deal' e file))

include h hdeal

mutual

theorem execBlock_rel {e : BlockExecutor} (he : Q e) : (b : Block) → R (execBlock deal w e b) (execBlock deal' w' e b)
  | .mk base task includeTasks block rescue always => by
    rw [execBlock, execBlock]
    split
    · exact h.note _
    · split
      · have hsub := h.sub e base (e.hostsOf base) he
        exact sections_rel h.congr (execBlocks_rel hsub block) (execBlocks_rel hsub rescue) (execBlocks_rel hsub always) _ _
      · split
        · exact h.congr.pure none
        · split
          · exact hdeal _ _ (h.inherit e base _ he)
          · exact h.task e base _ he
termination_by structural b => b

theorem execBlocks_rel {e : BlockExecutor} (he : Q e) : (bs : List Block) → R (execBlocks deal w e bs) (execBlocks deal' w' e bs)
  | [] => by
    exact h.congr.pure none
  | b :: bs => by
    exact andThen_rel h.congr (execBlock_rel he b) (execBlocks_rel he bs)
termination_by structural bs => bs

end

variable {e : BlockExecutor}

omit hdeal in
theorem dealIncludeTasks_rel (hpush : ∀ e file, Q e → Q (e.push file)) {src : Source}
    {stack stack' : BlockExecutor → List String} (hpending : R (fun t => (.pending, t)) (fun t => (.pending, t)))
    (hstep : ∀ e file (k k' : List Block → Run), Q e → (∀ bs, R (k bs) (k' bs)) →
      R (includeStep stack src e file k) (includeStep stack' src e file k')) :
    ∀ n e file, Q e → R (dealIncludeTasks stack src w n e file) (dealIncludeTasks stack' src w' n e file) := by
  intro n
  induction n with
  | zero => exact fun _ _ _ => hpending
  | succ n ih =>
    intro e file he
    exact hstep e file _ _ he fun bs => execBlocks_rel h ih (hpush e file he) bs

mutual

theorem execRole_rel (src : Source) (he : Q e) : (r : Role) → R (execRole src deal w e r) (execRole src deal' w' e r)
  | .mk role when dependencies blocks => by
    refine andThen_rel h.congr (execDependencies_rel src he dependencies) ?_
    split
    · exact h.congr.pure _
    · exact execBlocks_rel h hdeal (h.role e role _ he) _
termination_by structural r => r

theorem execDependencies_rel (src : Source) (he : Q e) :
    (rs : List Role) → R (execDependencies src deal w e rs) (execDependencies src deal' w' e rs)
  | [] => by
    exact h.congr.pure none
  | r :: rs => by
    exact andThen_rel h.congr (wrap_rel h.congr _ (execRole_rel src he r)) (execDependencies_rel src he rs)
termination_by structural rs => rs

end

theorem execBatchRoles_rel (src : Source) (he : Q e) (rs : List Role) :
    R (execBatchRoles src deal w e rs) (execBatchRoles src deal' w' e rs) := by
  induction rs with
  | nil => exact h.congr.pure none
  | cons r rs ih => exact andThen_rel h.congr (h.note _) (andThen_rel h.congr (wrap_rel h.congr _ (execRole_rel h hdeal src he r)) ih)

theorem execBatchTaskPhase_rel (he : Q e) (header errPrefix : String) (blocks : List Block) :
    R (execBatchTaskPhase deal w e header errPrefix blocks) (execBatchTaskPhase deal' w' e header errPrefix blocks) := by
  unfold execBatchTaskPhase
  split
  · exact h.congr.pure none
  · exact andThen_rel h.congr (h.note _) (wrap_rel h.congr _ (execBlocks_rel h hdeal he blocks))

variable {site : Site}

theorem execBatches_rel {play : Play} (hmake : ∀ hosts, Q (makeBlockExec site play hosts)) (batches : List (List String)) :
    R (execBatches site deal w play batches) (execBatches site deal' w' play batches) := by
  induction batches with
  | nil => exact h.congr.pure none
  | cons hosts batches ih =>
    have hphase := execBatchTaskPhase_rel h hdeal (hmake hosts)
    exact andThen_rel h.congr (andThen_rel h.congr (h.note _) (andThen_rel h.congr (hphase _ _ _)
      (andThen_rel h.congr (execBatchRoles_rel h hdeal _ (hmake hosts) _)
        (andThen_rel h.congr (hphase _ _ _) (hphase _ _ _))))) ih

theorem execPlay_rel {play : Play} (hmake : ∀ hosts, Q (makeBlockExec site play hosts)) (i : Nat) :
    R (execPlay site deal w i play) (execPlay site deal' w' i play) := by
  unfold execPlay
  split
  · exact h.congr.pure _
  · exact h.note _
  · split
    · exact h.congr.pure _
    · split
      · exact h.congr.pure _
      · exact execBatches_rel h hdeal hmake _

theorem executeFrom_rel {plays : List Play} (hmake : ∀ play ∈ plays, ∀ hosts, Q (makeBlockExec site play hosts)) (i : Nat) :
    R (executeFrom site deal w i plays) (executeFrom site deal' w' i plays) := by
  induction plays generalizing i with
  | nil => exact h.congr.pure none
  | cons play plays ih =>
    obtain ⟨hplay, hplays⟩ := List.forall_mem_cons.1 hmake
    refine andThen_rel h.congr (h.note _) (andThen_rel h.congr (h.note _) (h.congr.bind (execPlay_rel h hdeal hplay i) fun err => ?_))
    cases err with
    | some err => exact andThen_rel h.congr (h.note _) (h.congr.pure _)
    | none => exact andThen_rel h.congr (h.note _) (ih hplays (i + 1))

end Rel

/-! A trace only gets longer. -/

theorem grows_note (x : Note) : Grows (note x) := by
  intro t
  cases x with
  | write text => exact ⟨List.prefix_append _ _, List.prefix_rfl, List.prefix_rfl, List.prefix_rfl⟩
  | emit e => exact ⟨List.prefix_rfl, List.prefix_append _ _, List.prefix_rfl, List.prefix_rfl⟩
  | skip n => exact le_refl t
  | startBatch => exact le_refl t

theorem Trace.le_afterTask (base : BlockBase) (spec : TaskSpec)
    (done : List TaskResult × List String) : t ≤ t.afterTask e base spec done := by
  refine ⟨?_, List.prefix_append _ _, List.prefix_append _ _, List.prefix_rfl⟩
  simp only [Trace.afterTask, List.append_assoc]
  exact List.prefix_append _ _

theorem grows_dealTask (w : World) (e : BlockExecutor) (base : BlockBase) (spec : TaskSpec) : Grows (dealTask w e base spec) :=
  fun t => t.le_afterTask e base spec _

theorem Trace.le_visit (file : String) (reported : Bool) : t ≤ t.visit e file reported :=
  ⟨List.prefix_rfl, List.prefix_rfl, List.prefix_rfl, List.prefix_append _ _⟩

theorem grows_visit (file : String) (reported : Bool) : Grows (visit e file reported) :=
  fun t => t.le_visit e file reported

end Vraxel.Ansible
