import Vraxel.Go.Strconv
import Vraxel.Go.Strings
import Mathlib.Data.List.Nodup
import Mathlib.Data.List.Perm.Basic
/-
  Which hosts a play runs on, in which batches (`lib/ansible/planner/planner.go`,
  `lib/ansible/variable/getter.go`, `variable/helper.go`, `lib/ansible/converter/converter.go`).

  Go walks a map in an order of its own each time: an `Iteration` is the keys of the two maps of an
  inventory in the order in which they come.
-/

namespace Vraxel.Ansible.Planner

open Strings Strconv

structure Group where
  groups : List String
  hosts : List String

/-- The keys of the hosts and the groups, which are the keys of maps. -/
structure Inventory where
  hosts : List String
  groups : List (String × Group)
  nodup : hosts.Nodup
  nodupGroups : (groups.map Prod.fst).Nodup

structure Iteration (inv : Inventory) where
  hosts : List String
  groups : List String
  perm : hosts.Perm inv.hosts
  permGroups : groups.Perm (inv.groups.map Prod.fst)

variable (inv : Inventory)

def Inventory.known (name : String) : Bool :=
  inv.hosts.contains name || inv.groups.any fun g => g.2.hosts.contains name

def combineSlice (s1 s2 : List String) : List String :=
  s2.foldl (fun result v => if v ∈ result then result else result ++ [v]) s1

/-- The hosts of a group, those of its subgroups first; `visited` goes along with the recursion. -/
def resolveGroupHosts (inv : Inventory) : Nat → String → List String → List String × List String
  | 0, _, visited => ([], visited)
  | fuel + 1, groupName, visited =>
    if groupName ∈ visited then ([], visited)
    else
      match inv.groups.lookup groupName with
      | none => ([], groupName :: visited)
      | some group =>
        let r := group.groups.foldl (fun (r : List String × List String) subGroup =>
          let sub := resolveGroupHosts inv fuel subGroup r.2
          (combineSlice r.1 sub.1, sub.2)) ([], groupName :: visited)
        (combineSlice r.1 group.hosts, r.2)

def groupHosts (groupName : String) : List String :=
  (resolveGroupHosts inv (inv.groups.length + 1) groupName []).1

def convertGroup (it : Iteration inv) : List (String × List String) :=
  let groups := it.groups.foldl (fun m groupName => (groupName, groupHosts inv groupName) :: m) [("all", it.hosts)]
  let grouped := it.groups.flatMap (groupHosts inv)
  ("ungrouped", it.hosts.filter (· ∉ grouped)) :: groups

/-- A name of the form `group[0]`: the group and the index, if it is an `int`. -/
def indexed (name : String) : Option (String × Nat) :=
  match name.toList.reverse with
  | ']' :: rest =>
    let digits := (rest.takeWhile Char.isDigit).reverse
    match rest.dropWhile Char.isDigit with
    | '[' :: group =>
      -- the dot of the expression does not match the end of a line
      if digits = [] ∨ '\n' ∈ group then none
      else
        match parseInt (String.ofList digits) with
        | some i => some (String.ofList group.reverse, i.toNat)
        | none => none
    | _ => none
  | _ => none

def resolveHostnameIndexed (groups : List (String × List String)) (name : String) (result : List String) : List String :=
  match indexed name with
  | none => result
  | some (group, index) =>
    match (groups.lookup group).bind (·[index]?) with
    | some host => combineSlice result [host]
    | none => result

def resolveHostname (groups : List (String × List String)) (name : String) (result : List String) :
    List String :=
  let result := if inv.known name then combineSlice result [name] else result
  let result :=
    match groups.lookup name with
    | some hosts => combineSlice result hosts
    | none => result
  resolveHostnameIndexed groups name result

def getHostnames (it : Iteration inv) (names : List String) : List String :=
  names.foldl (fun result name => resolveHostname inv (convertGroup inv it) (trimSpace name) result) []

inductive Serial
  | int (i : Int)
  | str (s : String)
  | other

def Serial.text : Serial → String
  | .int i => formatInt i
  | .str s => s
  | .other => ""

/-- `percent s n` is the number of hosts out of `n` that the text before the percent sign stands for. -/
abbrev Percent := String → Nat → Except String Int

variable (percent : Percent)

def groupHostBySerialSize (hostCount : Nat) : Serial → Except String Int
  | .int i => .ok i
  | .str s =>
    if hasSuffix s "%" then percent s hostCount
    else
      match parseInt s with
      | some i => .ok i
      | none => .error ("convert serial " ++ quote s ++ " to int")
  | .other => .error "unknown serial type: only int or percentage string supported"

def groupHostBySerialSizes (percent : Percent) (hostCount : Nat) : List Serial → Except String (List Nat)
  | [] => .ok []
  | a :: serial => do
    let size ← groupHostBySerialSize percent hostCount a
    if size ≤ 0 then .error ("serial " ++ a.text ++ " must be positive")
    else .ok (size.toNat :: (← groupHostBySerialSizes percent hostCount serial))

def slices (hosts : List String) : List Nat → List (List String)
  | [] => []
  | size :: sizes => hosts.take size :: slices (hosts.drop size) sizes

def groupHostBySerial (hosts : List String) (serial : List Serial) : Except String (List (List String)) :=
  if serial = [] ∨ hosts = [] then .ok [hosts]
  else do
    let sizes ← groupHostBySerialSizes percent hosts.length serial
    -- the last size again, as often as the hosts that are left need it
    let last := sizes.getLast?.getD 0
    let more := (hosts.length - sizes.foldl (· + ·) 0 + last - 1) / last
    .ok (slices hosts (sizes ++ List.replicate more last))

structure PlayPlan where
  playIndex : Nat
  batchIndex : Nat
  hosts : List String
  runOnceTarget : String
  deriving DecidableEq

structure Play where
  hosts : List String
  serial : List Serial

def planPlay (inv : Inventory) (it : Iteration inv) (playIndex : Nat) (play : Play) :
    Except String (List PlayPlan) :=
  let hosts := getHostnames inv it play.hosts
  if hosts = [] then .ok []
  else
    match groupHostBySerial percent hosts play.serial with
    | .error e => .error ("serial batching: " ++ e)
    | .ok batches => .ok (batches.mapIdx fun i batch => ⟨playIndex, i, batch, batch.head?.getD ""⟩)

/-! What is determined. -/

def Inventory.ungrouped (host : String) : Bool :=
  !(inv.groups.any fun g => (groupHosts inv g.1).contains host)

def chosen (group : String) : Option (String → Bool) :=
  if group = "ungrouped" then some inv.ungrouped
  else if group = "all" ∧ inv.groups.lookup "all" = none then some fun _ => true
  else none

def walked (group : String) : Option (List String) :=
  (chosen inv group).map fun c => inv.hosts.filter c

def direct (name : String) : List String := if inv.known name then [name] else []

def settled (name : String) : List String :=
  combineSlice (direct inv name)
    (if (inv.groups.lookup name).isSome ∧ name ≠ "ungrouped" then groupHosts inv name else [])

/-- The name brings the same hosts in every walk: as a group at most one that is not settled, and by
an index only one that is settled, or the only one there is. -/
def Determined (name : String) : Prop :=
  (∀ hosts, walked inv name = some hosts → (hosts.filter (· ∉ settled inv name)).length ≤ 1) ∧
  ∀ group index hosts, indexed name = some (group, index) → walked inv group = some hosts → index < hosts.length →
    hosts.length ≤ 1 ∨ ∀ host ∈ hosts, host ∈ settled inv name

/-! The recursion over groups ends. -/

def unvisited (visited : List String) : Nat :=
  ((inv.groups.map Prod.fst).filter (· ∉ visited)).length

variable {inv : Inventory} {it it' : Iteration inv} {name group : String} {visited : List String}

theorem subset_resolveGroupHosts (inv : Inventory) (fuel : Nat) (name : String) (visited : List String) :
    visited ⊆ (resolveGroupHosts inv fuel name visited).2 := by
  induction fuel generalizing name visited with
  | zero => exact List.Subset.refl _
  | succ fuel ih =>
    unfold resolveGroupHosts
    split
    · exact List.Subset.refl _
    · split
      · exact List.subset_cons_self _ _
      · next group _ =>
        have hfold (subs : List String) (r : List String × List String) :
            r.2 ⊆ (subs.foldl (fun (r : List String × List String) subGroup =>
              let sub := resolveGroupHosts inv fuel subGroup r.2
              (combineSlice r.1 sub.1, sub.2)) r).2 := by
          induction subs generalizing r with
          | nil => exact List.Subset.refl _
          | cons sub subs ihs => exact List.Subset.trans (ih sub r.2) (ihs (combineSlice r.1 (resolveGroupHosts inv fuel sub r.2).1, _))
        exact List.Subset.trans (List.subset_cons_self _ _) (hfold group.groups ([], name :: visited))

theorem unvisited_mono {visited visited' : List String} (h : visited ⊆ visited') :
    unvisited inv visited' ≤ unvisited inv visited := by
  apply List.Sublist.length_le
  apply List.monotone_filter_right
  intro x hx
  simp only [decide_eq_true_eq] at hx ⊢
  exact fun hmem => hx (h hmem)

theorem lookup_eq_none {α : Type} {m : List (String × α)} {k : String} : m.lookup k = none ↔ k ∉ m.map Prod.fst := by
  induction m with
  | nil => simp
  | cons x m ih =>
    rw [List.lookup_cons, List.map_cons, List.mem_cons, not_or]
    by_cases hk : k = x.1
    · simp [hk]
    · have hbeq : (k == x.1) = false := beq_eq_false_iff_ne.mpr hk
      simp only [hbeq, hk, not_false_eq_true, true_and]
      exact ih

theorem unvisited_cons_lt {g : Group} (hlookup : inv.groups.lookup name = some g) (hname : name ∉ visited) :
    unvisited inv (name :: visited) < unvisited inv visited := by
  have hkey : name ∈ inv.groups.map Prod.fst := by
    by_contra hnone
    rw [lookup_eq_none.mpr hnone] at hlookup
    cases hlookup
  have hfilter : (inv.groups.map Prod.fst).filter (· ∉ name :: visited)
      = ((inv.groups.map Prod.fst).filter (· ∉ visited)).filter (· ≠ name) := by
    simp [not_or]
  unfold unvisited
  rw [hfilter]
  apply List.length_filter_lt_length_iff_exists.mpr
  exact ⟨name, List.mem_filter.mpr ⟨hkey, by simpa using hname⟩, by simp⟩

theorem resolveGroupHosts_fuel {fuel fuel' : Nat} (h : unvisited inv visited < fuel) (h' : unvisited inv visited < fuel') :
    resolveGroupHosts inv fuel name visited = resolveGroupHosts inv fuel' name visited := by
  induction fuel generalizing fuel' name visited with
  | zero => exact absurd h (Nat.not_lt_zero _)
  | succ fuel ih =>
    cases fuel' with
    | zero => exact absurd h' (Nat.not_lt_zero _)
    | succ fuel' =>
      unfold resolveGroupHosts
      split
      · rfl
      · next hname =>
        split
        · rfl
        · next group hlookup =>
          have hlt := unvisited_cons_lt hlookup hname
          -- the subgroups are visited with at least this group in the set
          have hfold (subs : List String) (r : List String × List String) (hr : unvisited inv r.2 ≤ unvisited inv (name :: visited)) :
              subs.foldl (fun (r : List String × List String) subGroup =>
                let sub := resolveGroupHosts inv fuel subGroup r.2
                (combineSlice r.1 sub.1, sub.2)) r
              = subs.foldl (fun (r : List String × List String) subGroup =>
                let sub := resolveGroupHosts inv fuel' subGroup r.2
                (combineSlice r.1 sub.1, sub.2)) r := by
            induction subs generalizing r with
            | nil => rfl
            | cons sub subs ihs =>
              have hsub : resolveGroupHosts inv fuel sub r.2 = resolveGroupHosts inv fuel' sub r.2 :=
                ih (by omega) (by omega)
              have hgrow : unvisited inv (resolveGroupHosts inv fuel' sub r.2).2 ≤ unvisited inv r.2 :=
                unvisited_mono (subset_resolveGroupHosts inv fuel' sub r.2)
              simp only [List.foldl_cons, hsub]
              exact ihs _ (Nat.le_trans hgrow hr)
          rw [hfold group.groups _ (Nat.le_refl _)]

/-! The lists of the groups. -/

theorem groupHosts_fuel {fuel : Nat} (h : inv.groups.length < fuel) :
    groupHosts inv name = (resolveGroupHosts inv fuel name []).1 := by
  have hlt : unvisited inv [] < inv.groups.length + 1 := by simp [unvisited]
  rw [groupHosts, resolveGroupHosts_fuel hlt (by simp [unvisited]; omega)]

def ring : Inventory := ⟨["web"], [("a", ⟨["b"], []⟩), ("b", ⟨["a"], ["web"]⟩)], by decide, by decide⟩

theorem ring_ends : groupHosts ring "a" = (resolveGroupHosts ring 9 "a" []).1 := groupHosts_fuel (by decide)

theorem lookup_foldl_cons (f : String → List String) (names : List String) (m : List (String × List String)) (k : String) :
    (names.foldl (fun m name => (name, f name) :: m) m).lookup k = if k ∈ names then some (f k) else m.lookup k := by
  induction names generalizing m with
  | nil => simp
  | cons name names ih =>
    rw [List.foldl_cons, ih, List.lookup_cons]
    by_cases hk : k = name
    · simp [hk]
    · have hbeq : (k == name) = false := beq_eq_false_iff_ne.mpr hk
      simp [hk, hbeq]

theorem ungrouped_eq (it : Iteration inv) :
    it.hosts.filter (· ∉ it.groups.flatMap (groupHosts inv)) = it.hosts.filter inv.ungrouped := by
  apply List.filter_congr
  intro host _
  have hmem : host ∈ it.groups.flatMap (groupHosts inv) ↔ ∃ g ∈ inv.groups, host ∈ groupHosts inv g.1 := by
    simp only [List.mem_flatMap, it.permGroups.mem_iff, List.mem_map]
    constructor
    · rintro ⟨_, ⟨g, hg, rfl⟩, hhost⟩
      exact ⟨g, hg, hhost⟩
    · rintro ⟨g, hg, hhost⟩
      exact ⟨g.1, ⟨g, hg, rfl⟩, hhost⟩
  rw [decide_not, Bool.eq_iff_iff]
  simp [Inventory.ungrouped, hmem]

theorem lookup_convertGroup (it : Iteration inv) (name : String) :
    (convertGroup inv it).lookup name =
      match chosen inv name with
      | some c => some (it.hosts.filter c)
      | none => if (inv.groups.lookup name).isSome then some (groupHosts inv name) else none := by
  unfold convertGroup chosen
  rw [List.lookup_cons]
  by_cases hun : name = "ungrouped"
  · simp only [hun, beq_self_eq_true, if_true]
    rw [ungrouped_eq]
  · have hbeq : (name == "ungrouped") = false := beq_eq_false_iff_ne.mpr hun
    have hkey : name ∈ it.groups ↔ (inv.groups.lookup name).isSome := by
      rw [it.permGroups.mem_iff, Option.isSome_iff_ne_none, ne_eq, lookup_eq_none, not_not]
    simp only [hbeq, if_neg hun, lookup_foldl_cons, hkey]
    by_cases hsome : (inv.groups.lookup name).isSome = true
    · have hall : ¬(name = "all" ∧ inv.groups.lookup "all" = none) := by
        rintro ⟨rfl, hnone⟩
        simp [hnone] at hsome
      simp [if_pos hsome, if_neg hall]
    · by_cases hname : name = "all"
      · subst hname
        have hnone : inv.groups.lookup "all" = none := Option.not_isSome_iff_eq_none.mp hsome
        simp [hnone]
      · simp [hsome, hname]

variable {r l : List String} {c : String → Bool}

theorem mem_combineSlice {x : String} : x ∈ combineSlice r l ↔ x ∈ r ∨ x ∈ l := by
  unfold combineSlice
  induction l generalizing r with
  | nil => simp
  | cons v l ih =>
    rw [List.foldl_cons, ih, List.mem_cons]
    split
    · next hv =>
      constructor
      · rintro (h | h)
        · exact Or.inl h
        · exact Or.inr (Or.inr h)
      · rintro (h | rfl | h)
        · exact Or.inl h
        · exact Or.inl hv
        · exact Or.inr h
    · rw [List.mem_append, List.mem_singleton, or_assoc]

theorem combineSlice_of_nodup (hl : l.Nodup) : combineSlice r l = r ++ l.filter (· ∉ r) := by
  unfold combineSlice
  induction l generalizing r with
  | nil => simp
  | cons v l ih =>
    rw [List.nodup_cons] at hl
    rw [List.foldl_cons, ih hl.2]
    by_cases hv : v ∈ r
    · simp [hv]
    · rw [if_neg hv, List.filter_cons_of_pos (by simpa using hv), List.append_assoc]
      congr 1
      rw [List.singleton_append]
      congr 1
      apply List.filter_congr
      intro x hx
      have hne : x ≠ v := fun h => hl.1 (h ▸ hx)
      simp [hne]

theorem combineSlice_singleton_of_mem {x : String} (hx : x ∈ r) : combineSlice r [x] = r := by
  simp [combineSlice, hx]

theorem combineSlice_singleton {x : String} (hx : x ∉ r) : combineSlice r [x] = r ++ [x] := by
  simp [combineSlice, hx]

theorem eq_of_perm {xs ys : List String} (hone : xs.length ≤ 1) (h : xs.Perm ys) : xs = ys := by
  match xs, hone with
  | [], _ => exact (List.perm_nil.mp h.symm).symm
  | [x], _ => exact (List.perm_singleton.mp h.symm).symm

theorem combineSlice_congr {l' : List String} (hl : l.Nodup) (hperm : l.Perm l')
    (hone : (l.filter (· ∉ r)).length ≤ 1) : combineSlice r l = combineSlice r l' := by
  rw [combineSlice_of_nodup hl, combineSlice_of_nodup (hperm.nodup_iff.mp hl)]
  congr 1
  have hfilter := hperm.filter (· ∉ r)
  exact eq_of_perm hone hfilter

theorem combineSlice_direct (r : List String) (name : String) :
    (if inv.known name then combineSlice r [name] else r) = combineSlice r (direct inv name) := by
  unfold direct
  split <;> rfl

theorem resolveHostname_eq (it : Iteration inv) (name : String) (r : List String) :
    resolveHostname inv (convertGroup inv it) name r =
      resolveHostnameIndexed (convertGroup inv it) name
        (combineSlice (combineSlice r (direct inv name)) (((convertGroup inv it).lookup name).getD [])) := by
  unfold resolveHostname
  rw [← combineSlice_direct]
  cases (convertGroup inv it).lookup name <;> rfl

theorem nodup_filter (it : Iteration inv) (c : String → Bool) : (it.hosts.filter c).Nodup :=
  (it.perm.nodup_iff.mpr inv.nodup).filter c

theorem perm_filter (it : Iteration inv) (c : String → Bool) : (it.hosts.filter c).Perm (inv.hosts.filter c) :=
  it.perm.filter c

theorem settled_of_chosen_none (it : Iteration inv) (h : chosen inv name = none) :
    settled inv name = combineSlice (direct inv name) (((convertGroup inv it).lookup name).getD []) := by
  have hun : name ≠ "ungrouped" := by
    rintro rfl
    simp [chosen] at h
  rw [lookup_convertGroup, h]
  by_cases hsome : (inv.groups.lookup name).isSome = true <;> simp [settled, hun, hsome]

theorem settled_of_chosen (h : chosen inv name = some c) : settled inv name = direct inv name := by
  have hcond : ¬((inv.groups.lookup name).isSome ∧ name ≠ "ungrouped") := by
    rintro ⟨hsome, hun⟩
    simp only [chosen, if_neg hun] at h
    split at h
    · next hall =>
      rw [hall.1, hall.2] at hsome
      cases hsome
    · cases h
  rw [settled, if_neg hcond]
  rfl

theorem walked_of_chosen (h : chosen inv name = some c) :
    walked inv name = some (inv.hosts.filter c) := by
  rw [walked, h]
  rfl

theorem indexed_of_chosen (h : chosen inv name = some c) : indexed name = none := by
  unfold chosen at h
  split at h
  · next hun =>
    rw [hun]
    decide
  · split at h
    · next hall =>
      rw [hall.1]
      decide
    · cases h

theorem lookup_congr (it it' : Iteration inv) (h : chosen inv name = none) :
    (convertGroup inv it).lookup name = (convertGroup inv it').lookup name := by
  rw [lookup_convertGroup, lookup_convertGroup, h]

theorem resolveHostname_congr (h : Determined inv name) (it it' : Iteration inv) (r : List String) :
    resolveHostname inv (convertGroup inv it) name r = resolveHostname inv (convertGroup inv it') name r := by
  rw [resolveHostname_eq, resolveHostname_eq]
  obtain ⟨hgroup, hindex⟩ := h
  cases hchosen : chosen inv name with
  | some c =>
    -- the name of a group: at most one host is new
    have hone := hgroup _ (walked_of_chosen hchosen)
    rw [settled_of_chosen hchosen] at hone
    have hcongr : combineSlice (combineSlice r (direct inv name)) (it.hosts.filter c)
        = combineSlice (combineSlice r (direct inv name)) (it'.hosts.filter c) := by
      apply combineSlice_congr (nodup_filter it c) ((perm_filter it c).trans (perm_filter it' c).symm)
      refine Nat.le_trans ?_ hone
      rw [((perm_filter it c).filter _).length_eq]
      apply List.Sublist.length_le
      apply List.monotone_filter_right
      intro x hx
      simp only [decide_eq_true_eq, mem_combineSlice, not_or] at hx ⊢
      exact hx.2
    simp [resolveHostnameIndexed, indexed_of_chosen hchosen, lookup_convertGroup, hchosen, hcongr]
  | none =>
    rw [lookup_congr it it' hchosen]
    have hsettled : ∀ host ∈ settled inv name,
        host ∈ combineSlice (combineSlice r (direct inv name)) (((convertGroup inv it').lookup name).getD []) := by
      intro host hhost
      rw [settled_of_chosen_none it' hchosen, mem_combineSlice] at hhost
      rw [mem_combineSlice, mem_combineSlice]
      tauto
    generalize combineSlice (combineSlice r (direct inv name)) (((convertGroup inv it').lookup name).getD []) = r'
      at hsettled ⊢
    unfold resolveHostnameIndexed
    cases hindexed : indexed name with
    | none => rfl
    | some gi =>
      obtain ⟨group, index⟩ := gi
      simp only
      cases hgroup' : chosen inv group with
      | none => rw [lookup_congr it it' hgroup']
      | some c =>
        have hperm := perm_filter it c
        have hperm' := perm_filter it' c
        simp only [lookup_convertGroup, hgroup', Option.bind_some]
        by_cases hlt : index < (inv.hosts.filter c).length
        · cases hindex group index _ hindexed (walked_of_chosen hgroup') hlt with
          | inl hone => rw [eq_of_perm (hperm.length_eq ▸ hone) (hperm.trans hperm'.symm)]
          | inr hall =>
            -- whichever host it is, it is there already
            have hsame {l : List String} (hl : l.Perm (inv.hosts.filter c)) :
                (match l[index]? with
                  | some host => combineSlice r' [host]
                  | none => r') = r' := by
              cases hget : l[index]? with
              | none => rfl
              | some host =>
                have hmem := hl.subset (List.mem_of_getElem? hget)
                exact combineSlice_singleton_of_mem (hsettled host (hall host hmem))
            rw [hsame hperm, hsame hperm']
        · have hnone {l : List String} (hl : l.Perm (inv.hosts.filter c)) : l[index]? = none := by
            rw [List.getElem?_eq_none_iff, hl.length_eq]
            omega
          rw [hnone hperm, hnone hperm']

theorem exists_iteration (inv : Inventory) (c : String → Bool) (hl : l.Perm (inv.hosts.filter c)) :
    ∃ it : Iteration inv, it.hosts.filter c = l := by
  have hperm : (l ++ inv.hosts.filter fun x => !c x).Perm inv.hosts :=
    (hl.append_right _).trans (List.filter_append_perm c inv.hosts)
  refine ⟨⟨_, _, hperm, List.Perm.refl _⟩, ?_⟩
  have hkeep : l.filter c = l := by
    rw [List.filter_eq_self]
    intro x hx
    exact (List.mem_filter.mp (hl.subset hx)).2
  have hdrop : (inv.hosts.filter fun x => !c x).filter c = [] := by
    rw [List.filter_filter, List.filter_eq_nil_iff]
    intro x _
    cases c x <;> simp
  simp [hkeep]

def Alike (inv : Inventory) (name : String) : Prop :=
  ∀ it it' : Iteration inv, resolveHostname inv (convertGroup inv it) name [] = resolveHostname inv (convertGroup inv it') name []

theorem nil_combineSlice_direct (inv : Inventory) (name : String) : combineSlice [] (direct inv name) = direct inv name := by
  unfold direct
  split <;> rfl

theorem settled_of_alike (hchosen : chosen inv name = some c) (h : Alike inv name) :
    ((inv.hosts.filter c).filter (· ∉ direct inv name)).length ≤ 1 := by
  by_contra hmany
  -- two walks that begin with two of the new hosts, one way and the other
  have hresult {l : List String} (hl : l.Perm (inv.hosts.filter c)) : ∃ it : Iteration inv,
      resolveHostname inv (convertGroup inv it) name [] = direct inv name ++ l.filter (· ∉ direct inv name) := by
    obtain ⟨it, hit⟩ := exists_iteration inv c hl
    refine ⟨it, ?_⟩
    rw [resolveHostname_eq, lookup_convertGroup, hchosen]
    simp only [resolveHostnameIndexed, indexed_of_chosen hchosen, Option.getD_some, nil_combineSlice_direct]
    rw [combineSlice_of_nodup (nodup_filter it c), hit]
  have hsplit := List.filter_append_perm (· ∉ direct inv name) (inv.hosts.filter c)
  have hnodup := (inv.nodup.filter c).filter (· ∉ direct inv name)
  have hnew : ∀ x ∈ (inv.hosts.filter c).filter (· ∉ direct inv name), x ∉ direct inv name := by
    intro x hx
    simpa using (List.mem_filter.mp hx).2
  have hold : ∀ x ∈ (inv.hosts.filter c).filter (fun x => !decide (x ∉ direct inv name)), x ∈ direct inv name := by
    intro x hx
    simpa using (List.mem_filter.mp hx).2
  generalize (inv.hosts.filter c).filter (· ∉ direct inv name) = new at hmany hsplit hnodup hnew
  generalize (inv.hosts.filter c).filter (fun x => !decide (x ∉ direct inv name)) = old at hsplit hold
  match new, hmany with
  | a :: b :: rest, _ =>
    have hfilter {xs : List String} (hxs : xs.Perm (a :: b :: rest)) :
        (xs ++ old).filter (· ∉ direct inv name) = xs := by
      rw [List.filter_append, List.filter_eq_self.mpr fun x hx => by simpa using hnew x (hxs.subset hx),
        List.filter_eq_nil_iff.mpr fun x hx => by simpa using hold x hx, List.append_nil]
    obtain ⟨it, hit⟩ := hresult hsplit
    obtain ⟨it', hit'⟩ := hresult (((List.Perm.swap a b rest).append_right old).trans hsplit)
    have hsame := h it it'
    rw [hit, hit', hfilter (List.Perm.refl _), hfilter (List.Perm.swap a b rest), List.append_cancel_left_eq] at hsame
    have hab : a = b := (List.cons.inj hsame).1
    simp [hab] at hnodup
  | [], hmany => simp at hmany
  | [a], hmany => simp at hmany

/-- A host that is not settled, among others, is picked by its index in some walk and not in another. -/
theorem mem_settled_of_alike {index : Nat} (hindexed : indexed name = some (group, index))
    (hchosen : chosen inv group = some c) (hlt : index < (inv.hosts.filter c).length)
    (hmany : 1 < (inv.hosts.filter c).length) (h : Alike inv name) :
    ∀ host ∈ inv.hosts.filter c, host ∈ settled inv name := by
  intro host hhost
  by_contra hnew
  have hname : chosen inv name = none := by
    cases hc : chosen inv name with
    | none => rfl
    | some c' =>
      rw [indexed_of_chosen hc] at hindexed
      cases hindexed
  -- any host can stand at the index
  have hresult {x : String} (hx : x ∈ inv.hosts.filter c) : ∃ it : Iteration inv,
      resolveHostname inv (convertGroup inv it) name [] = combineSlice (settled inv name) [x] := by
    have hlen := List.length_erase_of_mem hx
    have hperm : (((inv.hosts.filter c).erase x).insertIdx index x).Perm (inv.hosts.filter c) :=
      (List.perm_insertIdx _ _ (by omega)).trans (List.perm_cons_erase hx).symm
    obtain ⟨it, hit⟩ := exists_iteration inv c hperm
    refine ⟨it, ?_⟩
    rw [resolveHostname_eq, nil_combineSlice_direct, ← settled_of_chosen_none it hname]
    simp only [resolveHostnameIndexed, hindexed, lookup_convertGroup, hchosen, Option.bind_some, hit]
    rw [List.getElem?_insertIdx_self, if_pos (by omega)]
  obtain ⟨other, hother, hne⟩ : ∃ other ∈ inv.hosts.filter c, other ≠ host := by
    by_contra hall
    have hsub : inv.hosts.filter c ⊆ [host] := by
      intro x hx
      by_contra hx'
      exact hall ⟨x, hx, by simpa using hx'⟩
    have hle := ((inv.nodup.filter c).subperm hsub).length_le
    rw [List.length_singleton] at hle
    omega
  obtain ⟨it, hit⟩ := hresult hhost
  obtain ⟨it', hit'⟩ := hresult hother
  have hsame := h it it'
  rw [hit, hit', combineSlice_singleton hnew] at hsame
  by_cases hin : other ∈ settled inv name
  · rw [combineSlice_singleton_of_mem hin] at hsame
    simp at hsame
  · rw [combineSlice_singleton hin, List.append_cancel_left_eq] at hsame
    exact hne (List.cons.inj hsame).1.symm

theorem getHostnames_congr {names : List String} (h : ∀ name ∈ names, Determined inv (trimSpace name))
    (it it' : Iteration inv) : getHostnames inv it names = getHostnames inv it' names := by
  unfold getHostnames
  generalize ([] : List String) = r
  induction names generalizing r with
  | nil => rfl
  | cons name names ih =>
    rw [List.forall_mem_cons] at h
    rw [List.foldl_cons, List.foldl_cons, resolveHostname_congr h.1 it it']
    exact ih h.2 _

theorem getHostnames_singleton (it : Iteration inv) (name : String) :
    getHostnames inv it [name] = resolveHostname inv (convertGroup inv it) (trimSpace name) [] := by
  rw [getHostnames, List.foldl_cons, List.foldl_nil]

theorem hosts_of_planPlay {percent : Percent} {i : Nat} {names : List String}
    (h : planPlay percent inv it i ⟨names, []⟩ = planPlay percent inv it' i ⟨names, []⟩) :
    getHostnames inv it names = getHostnames inv it' names := by
  unfold planPlay at h
  simp only [groupHostBySerial, true_or, if_true, List.mapIdx_cons, List.mapIdx_nil] at h
  split at h <;> split at h
  · next h1 h2 => rw [h1, h2]
  · simp at h
  · simp at h
  · simp only [Except.ok.injEq, List.cons.injEq, PlayPlan.mk.injEq, and_true, true_and] at h
    exact h.1

/-- The plays over the given patterns are planned alike in every two walks over the inventory's maps
exactly if every pattern is determined. -/
theorem planned_alike_iff (percent : Percent) (inv : Inventory) (patterns : List String) :
    (∀ (i : Nat) (play : Play), (∀ name ∈ play.hosts, name ∈ patterns) → ∀ it it' : Iteration inv,
      planPlay percent inv it i play = planPlay percent inv it' i play) ↔
    ∀ name ∈ patterns, Determined inv (trimSpace name) := by
  constructor
  · intro h name hname
    have halike : Alike inv (trimSpace name) := by
      intro it it'
      have hplan := h 0 ⟨[name], []⟩ (by simpa using hname) it it'
      rw [← getHostnames_singleton, ← getHostnames_singleton]
      exact hosts_of_planPlay hplan
    constructor
    · intro hosts hwalked
      obtain ⟨c, hchosen, rfl⟩ := Option.map_eq_some_iff.mp hwalked
      rw [settled_of_chosen hchosen]
      exact settled_of_alike hchosen halike
    · intro group index hosts hindexed hwalked hlt
      obtain ⟨c, hchosen, rfl⟩ := Option.map_eq_some_iff.mp hwalked
      by_cases hmany : (inv.hosts.filter c).length ≤ 1
      · exact Or.inl hmany
      · exact Or.inr (mem_settled_of_alike hindexed hchosen hlt (by omega) halike)
  · intro h i play hplay it it'
    unfold planPlay
    rw [getHostnames_congr (fun name hname => h name (hplay name hname)) it it']

def pair : Inventory := ⟨["web1", "web2"], [], by decide, by decide⟩

def pairAhead : Iteration pair := ⟨["web1", "web2"], [], by decide, by decide⟩

def pairBack : Iteration pair := ⟨["web2", "web1"], [], by decide, by decide⟩

def noPercent : Percent := fun s _ => .error ("convert serial " ++ quote s ++ " to float")

/-- A play on all hosts, one at a time: each walk has its own first batch, and its own host for `run_once`. -/
theorem all_hosts_in_walk_order :
    planPlay noPercent pair pairAhead 0 ⟨["all"], [.int 1]⟩ = .ok [⟨0, 0, ["web1"], "web1"⟩, ⟨0, 1, ["web2"], "web2"⟩] ∧
      planPlay noPercent pair pairBack 0 ⟨["all"], [.int 1]⟩ = .ok [⟨0, 0, ["web2"], "web2"⟩, ⟨0, 1, ["web1"], "web1"⟩] := by
  constructor <;> decide

end Vraxel.Ansible.Planner
