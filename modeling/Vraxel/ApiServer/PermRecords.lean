import Vraxel.ApiServer.Route
import Vraxel.Lib.Txn
/-
  Registration of resources, and the permission records the server derives from them
  (`lib/apiserver/server.go`, `resource.go`, `meta.go`).
-/

namespace Vraxel.ApiServer

open Strings

/-- A definition as a module declares it; its parents are found at registration. -/
structure Declaration where
  parent : String
  resource : ResourceDef

structure Registered where
  relPath : String
  resource : ResourceDef

def resolveParent (regs : List Registered) (group parent : String) : Except String (Option Registered) :=
  if parent = "" then .ok none
  else match regs.find? fun reg => reg.resource.group = group && reg.relPath = parent with
    | some reg => .ok (some reg)
    | none => .error ("apiserver: resource parent " ++ quoted parent ++ " not registered in group " ++ quoted group
        ++ " (register parents first)")

def addResource (regs : List Registered) (reg : Registered) : Except String (List Registered) :=
  if regs.any fun other => other.resource.group = reg.resource.group && other.relPath = reg.relPath
      && other.resource.scopes &&& reg.resource.scopes ≠ 0 then
    .error ("apiserver: duplicate resource " ++ quoted reg.relPath ++ " in group " ++ quoted reg.resource.group
      ++ " (overlapping scopes)")
  else .ok (regs ++ [reg])

def Registered.chain (reg : Registered) : List Ancestor :=
  reg.resource.ancestors ++ [⟨reg.resource.name, reg.resource.itemParam⟩]

variable (decl : Declaration) (parent : Option Registered)

def Declaration.registered : Registered where
  relPath := match parent with
    | some p => p.relPath ++ "/" ++ decl.resource.name
    | none => decl.resource.name
  resource := { decl.resource with
    scopes := if decl.resource.scopes = 0 then scopePlatform else decl.resource.scopes
    ancestors := match parent with
      | some p => p.chain
      | none => [] }

def registerNext (regs : List Registered) (decl : Declaration) : Except String (List Registered) := do
  checkDef decl.resource
  let parent ← resolveParent regs decl.resource.group decl.parent
  addResource regs (decl.registered parent)

def registerFrom (regs : List Registered) : List Declaration → Except String (List Registered)
  | [] => .ok regs
  | decl :: decls => do
    let regs ← registerNext regs decl
    registerFrom regs decls

def registerAll (decls : List Declaration) : Except String (List Registered) := registerFrom [] decls

def routes (regs : List Registered) : List Route :=
  regs.flatMap fun reg => match register reg.resource with
    | .ok rts => rts
    | .error _ => []

structure PermRecord where
  code : String
  method : String
  path : String
  scope : String

def verbMethods (verb : String) : String :=
  ([("list", "GET"), ("get", "GET"), ("create", "POST"), ("update", "PUT"), ("patch", "PATCH"),
    ("delete", "DELETE"), ("deleteCollection", "DELETE")].lookup verb).getD ""

def scopesUpTo (natural : String) : List String :=
  if natural = "namespace" then ["namespace", "workspace", "platform"]
  else if natural = "workspace" then ["workspace", "platform"]
  else ["platform"]

def rbacIDParam (name : String) : String := trimSuffix name "s" ++ "Id"

namespace ResourceDef

variable (d : ResourceDef)

def naturalScope : Scope := if d.permScope ≠ 0 then d.permScope else d.scopes.deepest

def permBasePath : String :=
  d.basePath ++ String.join (d.ancestors.map fun a => "/" ++ a.name ++ "/\x7b" ++ rbacIDParam a.name ++ "\x7d")
    ++ "/" ++ d.name

def regVerbs : List String :=
  (if d.singletonGet then ["list"] else []) ++ d.ops.verbs
    ++ (if d.verbs ≠ [] && !d.ops.get then ["get"] else [])

def verbCodes : List String := d.regVerbs.map (permCode d.group d.nameChain)

def fanOut (code method path : String) : List PermRecord :=
  (scopesUpTo d.naturalScope.name).map fun scope => ⟨code, method, path, scope⟩

def itemBase : String := d.permBasePath ++ "/\x7b" ++ rbacIDParam d.name ++ "\x7d"

def verbRecords : List PermRecord :=
  if d.permissionTargets ≠ [] then []
  else d.regVerbs.flatMap fun verb => d.fanOut (permCode d.group d.nameChain verb) (verbMethods verb)
    (if verb ∈ ["list", "create", "deleteCollection"] then d.permBasePath else d.itemBase)

def leading (seen : List String) : List ActionDef → List ActionDef
  | [] => []
  | a :: rest => if a.name ∈ seen then leading seen rest else a :: leading (a.name :: seen) rest

def leadingActions : List ActionDef := leading [] d.actions

def actionRecords (covered : String → Bool) : List PermRecord :=
  d.leadingActions.flatMap fun a => (a.permission.filter fun target => !covered target).flatMap fun target =>
    d.fanOut target a.method (if a.onItem then d.itemBase ++ "/" ++ a.name else d.permBasePath ++ "/" ++ a.name)

end ResourceDef

def covered (group : List ResourceDef) (code : String) : Bool :=
  group.any fun d => d.permissionTargets = [] && code ∈ d.verbCodes

def groupRecords (group : List ResourceDef) : List PermRecord :=
  group.flatMap (·.verbRecords) ++ group.flatMap (·.actionRecords (covered group))

def modules (regs : List Registered) : List String :=
  regs.foldl (fun groups reg => if reg.resource.group ∈ groups then groups else groups ++ [reg.resource.group]) []

def ofGroup (regs : List Registered) (group : String) : List ResourceDef :=
  (regs.map (·.resource)).filter fun d => d.group = group

def assign {α : Type} (out : List (String × α)) (key : String) (value : α) : List (String × α) :=
  out.filter (fun e => e.1 ≠ key) ++ [(key, value)]

def permRecordsByModule (regs : List Registered) : List (String × List PermRecord) :=
  (modules regs).foldl (fun out group => assign out (moduleName group) (groupRecords (ofGroup regs group))) []

def permRecords (regs : List Registered) : List PermRecord := (permRecordsByModule regs).flatMap (·.2)

/-! Which groups keep their records. -/

def Kept (regs : List Registered) (group : String) : Prop :=
  ∃ before after, modules regs = before ++ group :: after ∧ ∀ g ∈ after, moduleName g ≠ moduleName group

theorem mem_foldl_assign {κ α : Type} {name : κ → String} {value : κ → α} {ks : List κ} {out : List (String × α)}
    {e : String × α} : e ∈ ks.foldl (fun out k => assign out (name k) (value k)) out ↔
      (e ∈ out ∧ ∀ k ∈ ks, name k ≠ e.1) ∨
      ∃ before k after, ks = before ++ k :: after ∧ e = (name k, value k) ∧ ∀ k' ∈ after, name k' ≠ name k := by
  induction ks generalizing out with
  | nil => simp
  | cons k ks ih =>
    rw [List.foldl_cons, ih]
    simp only [assign, List.mem_append, List.mem_filter, decide_eq_true_eq, List.mem_cons, List.not_mem_nil, or_false,
      forall_eq_or_imp]
    constructor
    · rintro (⟨⟨hout, hne⟩ | rfl, hks⟩ | ⟨before, k', after, rfl, rfl, hafter⟩)
      · exact .inl ⟨hout, fun h => hne h.symm, hks⟩
      · exact .inr ⟨[], k, ks, rfl, rfl, hks⟩
      · exact .inr ⟨k :: before, k', after, rfl, rfl, hafter⟩
    · rintro (⟨hout, hne, hks⟩ | ⟨before, k', after, heq, rfl, hafter⟩)
      · exact .inl ⟨.inl ⟨hout, fun h => hne h.symm⟩, hks⟩
      · cases before with
        | nil =>
          obtain ⟨rfl, rfl⟩ := List.cons.inj heq
          exact .inl ⟨.inr rfl, hafter⟩
        | cons b before =>
          obtain ⟨rfl, rfl⟩ := List.cons.inj heq
          exact .inr ⟨before, k', after, rfl, rfl, hafter⟩

variable {regs : List Registered} {code : String} {decls : List Declaration}

theorem mem_permRecords {rec : PermRecord} :
    rec ∈ permRecords regs ↔ ∃ group, Kept regs group ∧ rec ∈ groupRecords (ofGroup regs group) := by
  simp only [permRecords, permRecordsByModule, List.mem_flatMap, mem_foldl_assign, List.not_mem_nil, false_and,
    false_or]
  constructor
  · rintro ⟨e, ⟨before, group, after, hmods, rfl, hafter⟩, hrec⟩
    exact ⟨group, ⟨before, after, hmods, hafter⟩, hrec⟩
  · rintro ⟨group, ⟨before, after, hmods, hafter⟩, hrec⟩
    exact ⟨_, ⟨before, group, after, hmods, rfl, hafter⟩, hrec⟩

/-! Which codes are recorded. -/

/-- The resource has records of the code: a verb has it, or no verb of the group does and the first
action of a name names it. -/
def Yields (regs : List Registered) (d : ResourceDef) (code : String) : Prop :=
  Kept regs d.group ∧ ((d.permissionTargets = [] ∧ code ∈ d.verbCodes) ∨
    covered (ofGroup regs d.group) code = false ∧ ∃ a ∈ d.leadingActions, code ∈ a.permission)

theorem ResourceDef.mem_fanOut {d : ResourceDef} {method path : String} {rec : PermRecord} :
    rec ∈ d.fanOut code method path ↔
      rec.scope ∈ scopesUpTo d.naturalScope.name ∧ rec = ⟨code, method, path, rec.scope⟩ := by
  simp only [fanOut, List.mem_map]
  constructor
  · rintro ⟨scope, hscope, rfl⟩
    exact ⟨hscope, rfl⟩
  · rintro ⟨hscope, hrec⟩
    exact ⟨rec.scope, hscope, hrec.symm⟩

theorem ResourceDef.exists_verbRecords_iff {d : ResourceDef} {scope : String} :
    (∃ rec ∈ d.verbRecords, rec.code = code ∧ rec.scope = scope) ↔
      (d.permissionTargets = [] ∧ code ∈ d.verbCodes) ∧ scope ∈ scopesUpTo d.naturalScope.name := by
  by_cases ht : d.permissionTargets = []
  · simp only [verbRecords, ht, ne_eq, not_true_eq_false, if_false, List.mem_flatMap, mem_fanOut, verbCodes,
      List.mem_map, true_and]
    constructor
    · rintro ⟨rec, ⟨verb, hverb, hscope, hrec⟩, rfl, rfl⟩
      rw [hrec]
      exact ⟨⟨verb, hverb, rfl⟩, hscope⟩
    · rintro ⟨⟨verb, hverb, rfl⟩, hscope⟩
      exact ⟨⟨_, _, _, scope⟩, ⟨verb, hverb, hscope, rfl⟩, rfl, rfl⟩
  · simp [verbRecords, ht]

theorem ResourceDef.exists_actionRecords_iff {d : ResourceDef} {cov : String → Bool} {scope : String} :
    (∃ rec ∈ d.actionRecords cov, rec.code = code ∧ rec.scope = scope) ↔
      (cov code = false ∧ ∃ a ∈ d.leadingActions, code ∈ a.permission) ∧ scope ∈ scopesUpTo d.naturalScope.name := by
  simp only [actionRecords, List.mem_flatMap, List.mem_filter, mem_fanOut]
  constructor
  · rintro ⟨rec, ⟨a, ha, target, ⟨htarget, hcov⟩, hscope, hrec⟩, rfl, rfl⟩
    rw [hrec]
    exact ⟨⟨by simpa using hcov, a, ha, htarget⟩, hscope⟩
  · rintro ⟨⟨hcov, a, ha, htarget⟩, hscope⟩
    exact ⟨⟨_, _, _, scope⟩, ⟨a, ha, code, ⟨htarget, by simpa using hcov⟩, hscope, rfl⟩, rfl, rfl⟩

/-- A code is recorded at a scope exactly if a resource has records of it whose natural scope is at
least as deep. -/
theorem mem_permRecords_iff {scope : String} :
    (∃ rec ∈ permRecords regs, rec.code = code ∧ rec.scope = scope) ↔
      ∃ reg ∈ regs, Yields regs reg.resource code ∧ scope ∈ scopesUpTo reg.resource.naturalScope.name := by
  have hgroup (group : String) : (∃ rec ∈ groupRecords (ofGroup regs group), rec.code = code ∧ rec.scope = scope) ↔
      ∃ d ∈ ofGroup regs group, ((d.permissionTargets = [] ∧ code ∈ d.verbCodes) ∨
        covered (ofGroup regs group) code = false ∧ ∃ a ∈ d.leadingActions, code ∈ a.permission) ∧
        scope ∈ scopesUpTo d.naturalScope.name := by
    simp only [groupRecords, List.mem_append, List.mem_flatMap]
    constructor
    · rintro ⟨rec, ⟨d, hd, hrec⟩ | ⟨d, hd, hrec⟩, hcode⟩
      · obtain ⟨h, hscope⟩ := ResourceDef.exists_verbRecords_iff.1 ⟨rec, hrec, hcode⟩
        exact ⟨d, hd, .inl h, hscope⟩
      · obtain ⟨h, hscope⟩ := ResourceDef.exists_actionRecords_iff.1 ⟨rec, hrec, hcode⟩
        exact ⟨d, hd, .inr h, hscope⟩
    · rintro ⟨d, hd, h | h, hscope⟩
      · obtain ⟨rec, hrec, hcode⟩ := ResourceDef.exists_verbRecords_iff.2 ⟨h, hscope⟩
        exact ⟨rec, .inl ⟨d, hd, hrec⟩, hcode⟩
      · obtain ⟨rec, hrec, hcode⟩ := ResourceDef.exists_actionRecords_iff.2 ⟨h, hscope⟩
        exact ⟨rec, .inr ⟨d, hd, hrec⟩, hcode⟩
  constructor
  · rintro ⟨rec, hrec, hcode⟩
    obtain ⟨group, hkept, hrec⟩ := mem_permRecords.1 hrec
    obtain ⟨d, hd, hyields, hscope⟩ := (hgroup group).1 ⟨rec, hrec, hcode⟩
    obtain ⟨hmem, hg⟩ := List.mem_filter.1 hd
    obtain ⟨reg, hreg, rfl⟩ := List.mem_map.1 hmem
    rw [← of_decide_eq_true hg] at hkept hyields
    exact ⟨reg, hreg, ⟨hkept, hyields⟩, hscope⟩
  · rintro ⟨reg, hreg, ⟨hkept, hyields⟩, hscope⟩
    have hmem : reg.resource ∈ ofGroup regs reg.resource.group :=
      List.mem_filter.2 ⟨List.mem_map_of_mem hreg, by simp⟩
    obtain ⟨rec, hrec, hcode⟩ := (hgroup reg.resource.group).2 ⟨reg.resource, hmem, hyields, hscope⟩
    exact ⟨rec, mem_permRecords.2 ⟨reg.resource.group, hkept, hrec⟩, hcode⟩

theorem checkDef_registered :
    checkDef (decl.registered parent).resource = checkDef decl.resource := rfl

theorem Declaration.registered_scopes_ne_zero :
    (decl.registered parent).resource.scopes ≠ 0 := by
  show (if decl.resource.scopes = 0 then scopePlatform else decl.resource.scopes) ≠ 0
  split
  · decide
  · assumption

/-- The definition passed the checks, and has at least one bit for a level. -/
def Registered.Accepted (reg : Registered) : Prop := checkDef reg.resource = .ok () ∧ reg.resource.scopes ≠ 0

theorem registerNext_accepted {regs' : List Registered} {decl : Declaration}
    (h : registerNext regs decl = .ok regs') (hregs : ∀ reg ∈ regs, reg.Accepted) : ∀ reg ∈ regs', reg.Accepted := by
  obtain ⟨u, hcheck, h⟩ := Txn.except_bind_ok_iff.1 h
  obtain ⟨parent, -, h⟩ := Txn.except_bind_ok_iff.1 h
  simp only [addResource] at h
  split at h
  · cases h
  · cases h
    intro reg hreg
    rcases List.mem_append.1 hreg with hreg | hreg
    · exact hregs reg hreg
    · rw [List.mem_singleton.1 hreg]
      exact ⟨(checkDef_registered decl parent).trans hcheck, decl.registered_scopes_ne_zero parent⟩

theorem registerFrom_accepted {regs' : List Registered}
    (h : registerFrom regs decls = .ok regs') (hregs : ∀ reg ∈ regs, reg.Accepted) : ∀ reg ∈ regs', reg.Accepted := by
  induction decls generalizing regs with
  | nil =>
    cases h
    exact hregs
  | cons decl decls ih =>
    obtain ⟨regs₁, hnext, h⟩ := Txn.except_bind_ok_iff.1 h
    exact ih h (registerNext_accepted hnext hregs)

theorem registerAll_accepted (h : registerAll decls = .ok regs) :
    ∀ reg ∈ regs, reg.Accepted := registerFrom_accepted h fun _ hreg => absurd hreg List.not_mem_nil

theorem register_of_accepted {reg : Registered} (h : reg.Accepted) :
    register reg.resource = .ok (reg.resource.scopes.levels.flatMap reg.resource.scopedRoutes) := by
  simp [register, h.1, h.2, bind, Except.bind, pure, Except.pure]

theorem mem_routes_iff (h : registerAll decls = .ok regs)
    {rt : Route} : rt ∈ routes regs ↔
      ∃ reg ∈ regs, ∃ lv ∈ reg.resource.scopes.levels, rt ∈ reg.resource.scopedRoutes lv := by
  simp only [routes, List.mem_flatMap]
  refine exists_congr fun reg => and_congr_right fun hreg => ?_
  rw [register_of_accepted (registerAll_accepted h reg hreg)]
  exact List.mem_flatMap

end Vraxel.ApiServer
