import Vraxel.Go.Strconv
/-
  Playbooks (`lib/ansible/types.go`, `lib/ansible/converter`): what the executor reads of them.

  A block is one record for three forms, as in the source: a task, an `include_tasks` and a
  block/rescue/always section. A task's module is `""` if none of its unknown fields is one.
-/

namespace Vraxel.Ansible

abbrev Tags := List String

def alwaysTag : String := "always"
def neverTag : String := "never"
def allTag : String := "all"
def taggedTag : String := "tagged"

def isdisjoint (a b : List String) : Bool := a.all fun s => !b.contains s

namespace Tags

def isEnabled (t : Tags) (onlyTags skipTags : List String) : Bool :=
  let shouldRun :=
    if onlyTags.isEmpty then true
    else if t.contains alwaysTag then true
    else if onlyTags.contains allTag && !t.contains neverTag then true
    else if onlyTags.contains taggedTag && !t.contains neverTag then true
    else !isdisjoint onlyTags t
  if shouldRun && !skipTags.isEmpty then
    if skipTags.contains allTag && (!t.contains alwaysTag || !skipTags.contains alwaysTag) then false
    else if !isdisjoint skipTags t then false
    else !(skipTags.contains taggedTag && !t.isEmpty)
  else shouldRun

def joinTag (t other : Tags) : Tags :=
  other.foldl (fun result tag => if result.contains tag then result else result ++ [tag]) t

variable (t onlyTags skipTags : List String)

/-- What Ansible selects: `always` in any case, and `never` only by another of its tags. -/
def Selected : Prop :=
  alwaysTag ∈ t ∨ ((onlyTags = [] ∨ allTag ∈ onlyTags) ∧ neverTag ∉ t) ∨
    (taggedTag ∈ onlyTags ∧ t ≠ [] ∧ neverTag ∉ t) ∨ ∃ tag ∈ onlyTags, tag ∈ t

def Unskipped : Prop :=
  if allTag ∈ skipTags then alwaysTag ∈ t ∧ alwaysTag ∉ skipTags
  else (∀ tag ∈ skipTags, tag ∉ t) ∧ (t ≠ [] → taggedTag ∉ skipTags)

/-- No item tagged `always` meets a skip of `all` alone. Of the items that are not skipped none is tagged
`never` where nothing is selected, and none is without tags where only `tagged` is. -/
def Unambiguous : Prop :=
  (alwaysTag ∈ t → allTag ∈ skipTags → alwaysTag ∈ skipTags) ∧
    (Unskipped t skipTags → (onlyTags = [] → neverTag ∈ t → alwaysTag ∈ t) ∧
      (taggedTag ∈ onlyTags → t = [] → allTag ∈ onlyTags))

theorem isEnabled_iff : isEnabled t onlyTags skipTags ↔
    (onlyTags = [] ∨ alwaysTag ∈ t ∨ ((allTag ∈ onlyTags ∨ taggedTag ∈ onlyTags) ∧ neverTag ∉ t) ∨
      ∃ tag ∈ onlyTags, tag ∈ t) ∧
    allTag ∉ skipTags ∧ (∀ tag ∈ skipTags, tag ∉ t) ∧ (t ≠ [] → taggedTag ∉ skipTags) := by
  have hshared (a : List String) : isdisjoint a t = true ↔ ∀ tag ∈ a, tag ∉ t := by
    simp [isdisjoint]
  simp only [isEnabled]
  grind

/-- **Tag selection.** An item runs exactly if Ansible selects it and does not skip it, if and only if its
tags and the two filters are unambiguous. -/
theorem enabled_as_ansible_iff :
    (isEnabled t onlyTags skipTags = true ↔ Selected t onlyTags ∧ Unskipped t skipTags) ↔
      Unambiguous t onlyTags skipTags := by
  rw [isEnabled_iff, Unambiguous]
  by_cases halways : alwaysTag ∈ t
  · have ht : t ≠ [] := List.ne_nil_of_mem halways
    by_cases hall : allTag ∈ skipTags <;> simp [Selected, Unskipped, hall, halways, ht]
  by_cases hall : allTag ∈ skipTags
  · simp [Unskipped, hall, halways]
  simp only [Selected, Unskipped, hall, halways]
  by_cases honly : onlyTags = []
  · simp [honly]
  by_cases ht : t = []
  · simp [honly, ht]
  · simp [honly, ht, or_and_right, or_assoc]

/-- A task tagged `never` runs where no tags are given. -/
theorem never_runs : isEnabled [neverTag] [] [] = true ∧ ¬ Selected [neverTag] [] := by
  simp [isEnabled, Selected, alwaysTag, neverTag]

end Tags

def mergeWhen (parent child : List String) : List String :=
  if child.isEmpty then parent
  else if parent.isEmpty then child
  else child.foldl (fun result c => if result.contains c then result else result ++ [c]) parent

structure BlockBase where
  name : String
  noLog : Bool
  runOnce : Bool
  ignoreErrors : Option Bool
  when : List String
  tags : Tags

inductive LoopKind where
  | loop
  | items
  | dict
  deriving DecidableEq

structure Task where
  module : String
  loop : Option LoopKind
  failedWhen : List String
  changedWhen : List String
  until' : List String
  retries : Int

inductive Block where
  | mk (base : BlockBase) (task : Task) (includeTasks : String) (block rescue always : List Block)

mutual

def countBlock : Block → Nat
  | .mk _ _ _ block rescue always =>
    if block.isEmpty then 1 else countBlocks block + countBlocks rescue + countBlocks always
termination_by structural b => b

def countBlocks : List Block → Nat
  | [] => 0
  | b :: bs => countBlock b + countBlocks bs
termination_by structural bs => bs

end

inductive Role where
  | mk (role : String) (when : List String) (dependencies : List Role) (blocks : List Block)

structure Play where
  name : String
  noLog : Bool
  ignoreErrors : Option Bool
  gatherFacts : Bool
  roles : List Role
  preTasks : List Block
  tasks : List Block
  postTasks : List Block

structure TaskSpec where
  name : String
  module : String
  hosts : List String
  when : List String
  failedWhen : List String
  changedWhen : List String
  until' : List String
  loop : Option LoopKind
  retries : Int
  ignoreErrors : Option Bool
  deriving DecidableEq

/-- `BlockToTaskSpec`, with the conditions and `ignore_errors` that `dealTask` puts in. -/
def blockToTaskSpec (base : BlockBase) (task : Task) (hosts when : List String) (ignoreErrors : Option Bool) : TaskSpec where
  name := base.name
  module := task.module
  hosts := hosts
  when := when
  failedWhen := task.failedWhen
  changedWhen := task.changedWhen
  until' := task.until'
  loop := task.loop
  retries := task.retries
  ignoreErrors := ignoreErrors

end Vraxel.Ansible
