import Vraxel.Ansible.Executor
/-
  Include cycles (`dealIncludeTasks`, `execSubBlocks` in `lib/ansible/executor/block.go`).

  The executor of a block, rescue or always section does not get the include stack: what was included
  above the section is no longer seen below it.
-/

namespace Vraxel.Ansible

open Bounded

namespace Visit

/-- The file is not active only above a section. -/
def Open (v : Visit) : Prop := v.file ∈ v.active → v.file ∈ v.includeStack

/-- The include is reported exactly if it is recursive. -/
def Exact (v : Visit) : Prop := v.reported = true ↔ v.file ∈ v.active

end Visit

def BlockExecutor.top (e : BlockExecutor) : BlockExecutor := { e with includeStack := [], active := [] }

def BlockExecutor.execActive (src : Source) (w : World) (n : Nat) (e : BlockExecutor) (blocks : List Block) : Run :=
  execBlocks (dealIncludeTasks (·.active) src w n) w e blocks

/-- The run ends, and each include that it reaches is reported exactly if it is recursive. -/
def CyclesCaught (src : Source) (w : World) (e : BlockExecutor) (blocks : List Block) : Prop :=
  ∃ n, (e.exec src w n blocks .empty).1 ≠ .pending ∧ ∀ v ∈ (e.exec src w n blocks .empty).2.visits, v.Exact

/-! What an executor searches is among what is active. -/

def StackActive (e : BlockExecutor) : Prop := e.includeStack ⊆ e.active

theorem stackActive_top (e : BlockExecutor) : StackActive e.top := List.Subset.refl []

variable {e : BlockExecutor}

theorem StackActive.push (h : StackActive e) (file : String) : StackActive (e.push file) :=
  List.append_subset.2 ⟨List.Subset.trans h (List.subset_append_left _ _), List.subset_append_right _ _⟩

section Leaves

variable {w : World}

theorem leaves_agrees {G : Trace → Prop} (hG : ∀ s t, s ≤ t → G t → G s) : Leaves (Agrees G) StackActive w w where
  congr := congr_agrees hG
  note x := ⟨grows_note x, fun _ _ => rfl⟩
  task e base spec _ := ⟨grows_dealTask w e base spec, fun _ _ => rfl⟩
  inherit _ _ _ h := h
  sub _ _ _ _ := List.nil_subset _
  role _ _ _ h := h

theorem leaves_completes : Leaves Completes (fun _ => True) w w where
  congr := congr_completes
  note _ _ _ := rfl
  task _ _ _ _ _ _ := rfl
  inherit _ _ _ h := h
  sub _ _ _ h := h
  role _ _ _ h := h

theorem leaves_keeps {P : Visit → Prop} : Leaves (Keeps fun t => ∀ v ∈ t.visits, P v) (fun _ => True) w w where
  congr := congr_keeps
  note x t ht := by cases x <;> exact ht
  task _ _ _ _ _ ht := ht
  inherit _ _ _ h := h
  sub _ _ _ h := h
  role _ _ _ h := h

theorem leaves_ends (active : List String) : Leaves Ends (fun e => e.active = active) w w where
  congr := congr_ends
  note _ _ := nofun
  task _ _ _ _ _ := nofun
  inherit _ _ _ h := h
  sub _ _ _ h := h
  role _ _ _ h := h

end Leaves

/-! Two executors that search different lists. -/

def AllOpen (t : Trace) : Prop := ∀ v ∈ t.visits, v.Open

theorem allOpen_of_le (s t : Trace) (h : s ≤ t) (ht : AllOpen t) : AllOpen s :=
  fun v hv => ht v (h.2.2.2.subset hv)

section Agree

variable {stack stack' : BlockExecutor → List String} {src : Source} {w : World}

/-- If the include is not hidden by a section, both lists decide it alike. -/
def Alike (stack stack' : BlockExecutor → List String) : Prop :=
  ∀ e file, StackActive e → (file ∈ e.active → file ∈ e.includeStack) → (file ∈ stack e ↔ file ∈ stack' e)

theorem agrees_visit (e : BlockExecutor) (file : String) (reported : Bool) :
    Agrees AllOpen (visit e file reported) (visit e file reported) :=
  ⟨grows_visit e file reported, fun _ _ => rfl⟩

theorem agrees_includeStep (halike : Alike stack stack') (e : BlockExecutor) (file : String) (k k' : List Block → Run)
    (he : StackActive e) (hk : ∀ bs, Agrees AllOpen (k bs) (k' bs)) :
    Agrees AllOpen (includeStep stack src e file k) (includeStep stack' src e file k') := by
  have hsame : Agrees AllOpen (includeStep stack src e file k) (includeStep stack src e file k') :=
    includeStep_rel (congr_agrees allOpen_of_le) src (fun reported _ => agrees_visit e file reported) hk
  by_cases hopen : file ∈ e.active → file ∈ e.includeStack
  · -- both lists have the file, or none has
    have heq : includeStep stack' src e file k' = includeStep stack src e file k' := by
      unfold includeStep
      simp [halike e file he hopen]
    rw [heq]
    exact hsame
  · -- the include is recorded, so that the run is not a good one
    refine ⟨hsame.1, ?_⟩
    intro t ht
    have hvisit : ∃ reported, t.visit e file reported ≤ (includeStep stack src e file k t).2 := by
      unfold includeStep
      split
      · exact ⟨true, le_refl _⟩
      · cases src.blocks file with
        | error err => exact ⟨false, le_refl _⟩
        | ok blocks => exact ⟨false, (hk blocks).1 _⟩
    obtain ⟨reported, hle⟩ := hvisit
    have hmem : ⟨file, e.includeStack, e.active, reported⟩ ∈ (t.visit e file reported).visits := by simp [Trace.visit]
    exact absurd (allOpen_of_le _ _ hle ht _ hmem) hopen

theorem agrees_of_stacks (halike : Alike stack stack') (n : Nat) {e : BlockExecutor} (he : StackActive e) (blocks : List Block) :
    Agrees AllOpen (execBlocks (dealIncludeTasks stack src w n) w e blocks)
      (execBlocks (dealIncludeTasks stack' src w n) w e blocks) := by
  have hleaves : Leaves (Agrees AllOpen) StackActive w w := leaves_agrees allOpen_of_le
  refine execBlocks_rel hleaves ?_ he blocks
  exact dealIncludeTasks_rel hleaves (fun e file h => h.push file) ⟨fun t => le_refl t, fun _ _ => rfl⟩
    (agrees_includeStep halike) n

theorem alike_active : Alike (·.includeStack) (·.active) :=
  fun _ _ he hopen => ⟨fun h => he h, hopen⟩

theorem alike_includeStack : Alike (·.active) (·.includeStack) :=
  fun _ _ he hopen => ⟨hopen, fun h => he h⟩

end Agree

/-! What is recorded of an include. -/

section Record

variable (stack : BlockExecutor → List String) (seen : Visit → List String)

theorem reported_iff (hseen : ∀ (e : BlockExecutor) file reported, seen ⟨file, e.includeStack, e.active, reported⟩ = stack e)
    (src : Source) (w : World) (n : Nat) (e : BlockExecutor) (blocks : List Block) :
    ∀ v ∈ (execBlocks (dealIncludeTasks stack src w n) w e blocks .empty).2.visits,
      v.reported = true ↔ v.file ∈ seen v := by
  have hleaves : Leaves (Keeps fun t => ∀ v ∈ t.visits, v.reported = true ↔ v.file ∈ seen v) (fun _ => True) w w :=
    leaves_keeps
  have hvisit : ∀ (t : Trace) (e : BlockExecutor) file reported, (reported = true ↔ file ∈ stack e) →
      (∀ v ∈ t.visits, v.reported = true ↔ v.file ∈ seen v) →
      ∀ v ∈ (t.visit e file reported).visits, v.reported = true ↔ v.file ∈ seen v := by
    intro t e file reported hreported ht v hv
    rcases List.mem_append.1 hv with hv | hv
    · exact ht v hv
    · rw [List.mem_singleton.1 hv, hseen]
      exact hreported
  have hkeeps : Keeps (fun t => ∀ v ∈ t.visits, v.reported = true ↔ v.file ∈ seen v)
      (execBlocks (dealIncludeTasks stack src w n) w e blocks) (execBlocks (dealIncludeTasks stack src w n) w e blocks) := by
    refine execBlocks_rel hleaves (dealIncludeTasks_rel hleaves (fun _ _ h => h) (fun _ ht => ht) ?_ n) trivial blocks
    exact fun e file _ _ _ hk =>
      includeStep_rel congr_keeps src (fun reported hreported t => hvisit t e file reported hreported) hk
  exact hkeeps .empty (by simp [Trace.empty])

end Record

/-! More includes inside each other. -/

variable {blocks : List Block}

section Bound

variable {stack : BlockExecutor → List String} {src : Source} {w : World}

theorem dealIncludeTasks_completes (n d : Nat) (e : BlockExecutor) (file : String) :
    Completes (dealIncludeTasks stack src w n e file) (dealIncludeTasks stack src w (n + d) e file) := by
  induction n generalizing e file with
  | zero => exact fun _ h => absurd rfl h
  | succ n ih =>
    rw [Nat.succ_add]
    refine includeStep_rel congr_completes src (fun _ _ _ _ => rfl) fun bs => ?_
    exact execBlocks_rel leaves_completes (fun e file _ => ih e file) trivial bs

theorem run_eq_of_done {n n' : Nat} (h : n ≤ n') {e : BlockExecutor} {t : Trace}
    (hdone : (execBlocks (dealIncludeTasks stack src w n) w e blocks t).1 ≠ .pending) :
    execBlocks (dealIncludeTasks stack src w n') w e blocks t = execBlocks (dealIncludeTasks stack src w n) w e blocks t := by
  obtain ⟨d, rfl⟩ := Nat.exists_eq_add_of_le h
  exact execBlocks_rel leaves_completes (fun e file _ => dealIncludeTasks_completes n d e file) trivial blocks t hdone

theorem run_eq_of_done_done {n n' : Nat} {e : BlockExecutor} {t : Trace}
    (hdone : (execBlocks (dealIncludeTasks stack src w n) w e blocks t).1 ≠ .pending)
    (hdone' : (execBlocks (dealIncludeTasks stack src w n') w e blocks t).1 ≠ .pending) :
    execBlocks (dealIncludeTasks stack src w n) w e blocks t = execBlocks (dealIncludeTasks stack src w n') w e blocks t := by
  rcases Nat.le_total n n' with h | h
  · exact (run_eq_of_done h hdone).symm
  · exact run_eq_of_done h hdone'

end Bound

/-! The executor that searches all active files ends. -/

section Termination

variable {src : Source} {w : World}

/-- The active files are different files of the project. -/
def ActiveFiles (src : Source) (active : List String) : Prop := active.Nodup ∧ active ⊆ src.map (·.1)

theorem ActiveFiles.length_le {active : List String} (h : ActiveFiles src active) : active.length ≤ src.length := by
  have := (List.subperm_of_subset h.1 h.2).length_le
  simpa using this

theorem mem_names_of_blocks {file : String} (h : src.blocks file = .ok blocks) :
    file ∈ src.map (·.1) := by
  by_contra hmem
  have hnone : src.lookup file = none := by
    rw [List.lookup_eq_none_iff]
    intro p hp
    have hne : file ≠ p.1 := fun heq => hmem (heq ▸ List.mem_map_of_mem hp)
    simpa using hne
  simp [Source.blocks, hnone] at h

theorem ActiveFiles.push {active : List String} (h : ActiveFiles src active) {file : String} (hfile : file ∉ active) (hblocks : src.blocks file = .ok blocks) : ActiveFiles src (active ++ [file]) := by
  refine ⟨?_, ?_⟩
  · rw [List.nodup_append]
    refine ⟨h.1, List.nodup_singleton file, ?_⟩
    intro a ha b hb heq
    exact hfile (by rw [← List.mem_singleton.1 hb, ← heq]; exact ha)
  · refine List.append_subset.2 ⟨h.2, ?_⟩
    intro x hx
    rw [List.mem_singleton.1 hx]
    exact mem_names_of_blocks hblocks

theorem dealIncludeTasks_ends (n : Nat) : ∀ (e : BlockExecutor) (file : String), ActiveFiles src e.active →
    src.length < e.active.length + n →
    Ends (dealIncludeTasks (·.active) src w n e file) (dealIncludeTasks (·.active) src w n e file) := by
  -- each include inside another takes a file that was not active, so that the bound outlasts them
  induction n with
  | zero =>
    intro e file hactive hlength
    exact absurd hactive.length_le (by omega)
  | succ n ih =>
    intro e file hactive hlength t
    rw [dealIncludeTasks, includeStep]
    split
    · exact nofun
    · next hmem =>
      cases hblocks : src.blocks file with
      | error err => exact nofun
      | ok blocks =>
        have hdeal : ∀ e' file', e'.active = e.active ++ [file] →
            Ends (dealIncludeTasks (·.active) src w n e' file') (dealIncludeTasks (·.active) src w n e' file') := by
          intro e' file' he'
          refine ih e' file' ?_ ?_
          · rw [he']
            exact hactive.push hmem hblocks
          · rw [he', List.length_append, List.length_singleton]
            omega
        exact execBlocks_rel (leaves_ends (e.active ++ [file])) hdeal rfl blocks _

theorem ends_of_active (e : BlockExecutor) (blocks : List Block) :
    Ends (e.top.execActive src w (src.length + 1) blocks) (e.top.execActive src w (src.length + 1) blocks) := by
  refine execBlocks_rel (leaves_ends []) ?_ rfl blocks
  intro e' file he'
  refine dealIncludeTasks_ends _ e' file ?_ ?_
  · rw [he']
    exact ⟨List.nodup_nil, List.nil_subset _⟩
  · rw [he']
    simp

end Termination

/-- The code ends and reports exactly the recursive includes, if and only if the run that searches all
active files meets no include of a file that is active only above a section. -/
theorem includes_caught_iff (src : Source) (w : World) (e : BlockExecutor) (blocks : List Block) :
    CyclesCaught src w e.top blocks ↔
      ∀ v ∈ (e.top.execActive src w (src.length + 1) blocks .empty).2.visits, v.Open := by
  have hstack := reported_iff (·.includeStack) (·.includeStack) (fun _ _ _ => rfl) src w
  have hactive := reported_iff (·.active) (·.active) (fun _ _ _ => rfl) src w
  constructor
  · intro ⟨n, hdone, hexact⟩
    have hopen : AllOpen (e.top.exec src w n blocks .empty).2 :=
      fun v hv hmem => (hstack n e.top blocks v hv).1 ((hexact v hv).2 hmem)
    have heq : e.top.execActive src w n blocks .empty = e.top.exec src w n blocks .empty :=
      (agrees_of_stacks alike_active n (stackActive_top e) blocks).2 .empty hopen
    have hsame : e.top.execActive src w n blocks .empty = e.top.execActive src w (src.length + 1) blocks .empty :=
      run_eq_of_done_done (by rw [← heq] at hdone; exact hdone) (ends_of_active e blocks .empty)
    rw [← hsame, heq]
    exact hopen
  · intro hopen
    have heq : e.top.exec src w (src.length + 1) blocks .empty = e.top.execActive src w (src.length + 1) blocks .empty :=
      (agrees_of_stacks alike_includeStack (src.length + 1) (stackActive_top e) blocks).2 .empty hopen
    refine ⟨src.length + 1, ?_, ?_⟩
    · rw [heq]
      exact ends_of_active e blocks .empty
    · rw [heq]
      exact hactive (src.length + 1) e.top blocks

/-! A file that includes itself inside of a block. -/

def plainBase : BlockBase := ⟨"", false, false, none, [], []⟩

def noTask : Task := ⟨"", none, [], [], [], 0⟩

def includeOf (file : String) : Block := .mk plainBase noTask file [] [] []

def blockOf (blocks : List Block) : Block := .mk plainBase noTask "" blocks [] []

def plainExecutor : BlockExecutor := ⟨["node"], none, [], [], [], [], "", 1, false, [], [], false⟩

def quietAttempt : Attempt := ⟨true, .ok true, .ok (), "", "", none, .ok false, .ok false, true⟩

def quietWorld : World := fun _ => ⟨fun _ => 0, fun _ => ⟨1, none, fun _ _ => quietAttempt⟩⟩

def selfIncluding : Source := [("a.yml", .ok [blockOf [includeOf "a.yml"]])]

def Unfiltered (e : BlockExecutor) : Prop := e.playTags = [] ∧ e.playSkipTags = []

theorem Unfiltered.enabled (h : Unfiltered e) : e.enabled = true := by
  simp [BlockExecutor.enabled, Tags.isEnabled, h.1, h.2]

theorem execBlock_includeOf (deal : BlockExecutor → String → Run) (w : World) (he : Unfiltered e) :
    execBlock deal w e (includeOf "a.yml") = deal (e.inherit plainBase e.hosts) "a.yml" := by
  have henabled : (e.inherit plainBase e.hosts).enabled = true := Unfiltered.enabled he
  rw [includeOf, execBlock]
  simp [plainBase, BlockExecutor.hostsOf] at henabled ⊢
  simp [henabled]

theorem selfIncluding_pending (n : Nat) (he : Unfiltered e) (hstack : e.includeStack = []) (t : Trace) :
    ∃ u, dealIncludeTasks (·.includeStack) selfIncluding quietWorld n e "a.yml" t = (.pending, u) := by
  induction n generalizing e t with
  | zero => exact ⟨t, rfl⟩
  | succ n ih =>
    -- the section's executor has an empty stack again
    have hchild : Unfiltered ((e.push "a.yml").sub plainBase e.hosts) := he
    obtain ⟨u, hu⟩ := @ih (((e.push "a.yml").sub plainBase e.hosts).inherit plainBase e.hosts) hchild rfl
      (t.visit e "a.yml" false)
    refine ⟨u, ?_⟩
    have hinner : execBlocks (dealIncludeTasks (·.includeStack) selfIncluding quietWorld n) quietWorld
        ((e.push "a.yml").sub plainBase e.hosts) [includeOf "a.yml"] (t.visit e "a.yml" false) = (.pending, u) := by
      rw [execBlocks, execBlock_includeOf _ _ hchild]
      exact Act.bind_pending hu _
    have houter : execBlocks (dealIncludeTasks (·.includeStack) selfIncluding quietWorld n) quietWorld (e.push "a.yml")
        [blockOf [includeOf "a.yml"]] (t.visit e "a.yml" false) = (.pending, u) := by
      exact Act.bind_pending (Act.bind_pending (Act.bind_pending hinner _) _) _
    have hmem : ¬ "a.yml" ∈ e.includeStack := by
      rw [hstack]
      exact List.not_mem_nil
    rw [dealIncludeTasks, includeStep, if_neg hmem]
    exact houter

/-- However many includes are allowed inside each other, the run is not at its end. -/
theorem section_hides_cycle : ¬ CyclesCaught selfIncluding quietWorld plainExecutor.top [includeOf "a.yml"] := by
  intro ⟨n, hdone, _⟩
  obtain ⟨u, hu⟩ := selfIncluding_pending n (e := plainExecutor.top.inherit plainBase plainExecutor.top.hosts) ⟨rfl, rfl⟩ rfl
    .empty
  refine hdone ?_
  exact congrArg Prod.fst (Act.bind_pending hu _)

end Vraxel.Ansible
