import Vraxel.ApiServer.Authz
import Vraxel.ApiServer.PermRecords
import Vraxel.Iam.Roles
/-
  Whether what the routes check can be granted: a role of a scope can only hold rules that match a
  code recorded at that scope (`ValidateRuleScopes`).
-/

namespace Vraxel.Iam

open ApiServer Strings

/-! The codes that are checked. -/

def probe : PermissionChecker (List String) where
  isPlatformAdmin _ asked := (.ok false, asked)
  checkAnyPermission _ codes _ _ _ asked := (.ok false, asked ++ codes)
  getAccessibleWorkspaceIDs _ asked := (.ok [], asked)
  getAccessibleNamespaceIDs _ asked := (.ok [], asked)

variable (skipCodes : List String) (regs : List Registered)

/-- On some request the authorization link of the route asks for the code. -/
def Checks (m : RouteMeta) (code : String) : Prop :=
  ∃ r : Request, code ∈ (authzMiddleware ⟨some probe, skipCodes⟩ m r []).2

/-- The link never asks: the only code is whitelisted, the list is filtered by bindings, or the hook
lets every user through. -/
def Exempt (m : RouteMeta) : Prop :=
  (⟨some probe, skipCodes⟩ : Server (List String)).skips m = true ∨ m.accessScope ≠ "" ∨
    ∀ (r : Request) (userID : Int), r.userID = some userID → m.hookAllows r userID = true

theorem checks_iff {skipCodes : List String} {m : RouteMeta} {code : String} :
    Checks skipCodes m code ↔ code ∈ m.permCodes ∧ ¬Exempt skipCodes m := by
  constructor
  · rintro ⟨r, h⟩
    simp only [authzMiddleware] at h
    split at h
    · cases h
    · rename_i hskip
      cases hu : r.userID with
      | none => simp [hu] at h
      | some userID =>
        simp only [hu] at h
        split at h
        · cases h
        · rename_i hhook
          by_cases hacc : m.accessScope = ""
          · have hcode : code ∈ m.permCodes := by
              simpa [probe, hacc, checkScope] using h
            refine ⟨hcode, ?_⟩
            rintro (hs | ha | hall)
            · exact hskip hs
            · exact ha hacc
            · exact hhook (hall r userID hu)
          · by_cases hw : m.accessScope = "workspaces"
            · simp [probe, accessFiltered, hw] at h
            · simp [probe, hacc, accessFiltered, hw] at h
  · rintro ⟨hcode, hex⟩
    simp only [Exempt, not_or, not_forall] at hex
    obtain ⟨hskip, hacc, r, userID, hu, hhook⟩ := hex
    have hrun : authzMiddleware ⟨some probe, skipCodes⟩ m r [] = checkScope probe m r userID [] := by
      simp only [authzMiddleware, if_neg hskip, hu, if_neg hhook]
      exact if_neg hacc
    exact ⟨r, by rw [hrun]; simpa [checkScope, probe] using hcode⟩

/-! The claim of the records. -/

/-- Every star-free code that is checked is recorded at the level of the route, and every recorded
code is checked. -/
def RecordsCover : Prop :=
  (∀ rt ∈ routes regs, ∀ code, StarFree code → Checks skipCodes rt.info code →
    ∃ rec ∈ permRecords regs, rec.code = code ∧ rec.scope = rt.info.scopeLevel.name) ∧
  ∀ rec ∈ permRecords regs, ∃ rt ∈ routes regs, Checks skipCodes rt.info rec.code

/-- The resource does not record the code itself: a later group of the same module replaces the
records of its group, or only actions name the code and either a verb of the group has it or each of
them repeats the name of an earlier one. -/
def Shadowed (d : ResourceDef) (code : String) : Prop :=
  ¬Kept regs d.group ∨ (code ∉ d.verbCodes ∧
    (covered (ofGroup regs d.group) code = true ∨ ∀ a ∈ d.leadingActions, code ∉ a.permission))

/-- All the routes of the resource that name the code are exempt; in particular if it has no level. -/
def Unchecked (d : ResourceDef) (code : String) : Prop :=
  ∀ lv ∈ d.scopes.levels, ∀ rt ∈ d.scopedRoutes lv, code ∈ rt.info.permCodes → Exempt skipCodes rt.info

/-- What is shadowed is recorded elsewhere, at least as deep as the route; what a resource records
and does not check is checked elsewhere. -/
def Accounted : Prop :=
  (∀ reg ∈ regs, ∀ lv ∈ reg.resource.scopes.levels, ∀ rt ∈ reg.resource.scopedRoutes lv, ∀ code, StarFree code →
    Checks skipCodes rt.info code → Shadowed regs reg.resource code →
    ∃ other ∈ regs, Yields regs other.resource code ∧ lv.name ∈ scopesUpTo other.resource.naturalScope.name) ∧
  ∀ reg ∈ regs, ∀ code, Yields regs reg.resource code → Unchecked skipCodes reg.resource code →
    ∃ rt ∈ routes regs, Checks skipCodes rt.info code

/-- The override of the natural scope is at least as deep as the deepest level. -/
def PermScopeDeep (d : ResourceDef) : Prop :=
  d.permScope ≠ 0 → d.scopes.deepest.name ∈ scopesUpTo d.permScope.name

theorem yields_of_not_shadowed {regs : List Registered} {d : ResourceDef} {code : String}
    (ht : d.permissionTargets = []) (h : ¬Shadowed regs d code) : Yields regs d code := by
  simp only [Shadowed, not_or, not_and, not_not] at h
  obtain ⟨hkept, hrest⟩ := h
  refine ⟨hkept, ?_⟩
  by_cases hverb : code ∈ d.verbCodes
  · exact .inl ⟨ht, hverb⟩
  · obtain ⟨hcov, hlead⟩ := hrest hverb
    simp only [not_forall, not_not] at hlead
    obtain ⟨a, ha, hcode⟩ := hlead
    exact .inr ⟨by simpa using hcov, a, ha, hcode⟩

theorem level_mem_scopesUpTo {d : ResourceDef} (hdeep : PermScopeDeep d) {lv : ApiServer.Scope}
    (hlv : lv ∈ d.scopes.levels) : lv.name ∈ scopesUpTo d.naturalScope.name := by
  have hdeepest : d.scopes.deepest.name ∈ scopesUpTo d.naturalScope.name := by
    rw [ResourceDef.naturalScope]
    split <;> rename_i h
    · exact hdeep h
    · unfold Scope.deepest
      repeat' split
      all_goals decide
  simp only [ApiServer.Scope.levels, List.mem_filter, List.mem_cons, List.not_mem_nil, or_false,
    decide_eq_true_eq] at hlv
  obtain ⟨rfl | rfl | rfl, hbit⟩ := hlv
  · -- platform is in every fan-out
    unfold scopesUpTo
    repeat' split
    all_goals decide
  · unfold scopesUpTo at hdeepest ⊢
    by_cases hns : d.scopes &&& scopeNamespace ≠ 0
    · rw [Scope.deepest, if_pos hns] at hdeepest
      split at hdeepest <;> rename_i hnat
      · rw [if_pos hnat]
        decide
      · split at hdeepest
        · exact absurd hdeepest (by decide)
        · exact absurd hdeepest (by decide)
    · rw [Scope.deepest, if_neg hns, if_pos hbit] at hdeepest
      exact hdeepest
  · rw [Scope.deepest, if_pos hbit] at hdeepest
    exact hdeepest

theorem recordsCover_iff (skipCodes : List String) (decls : List Declaration) (regs : List Registered)
    (hreg : registerAll decls = .ok regs) (htargets : ∀ reg ∈ regs, reg.resource.permissionTargets = [])
    (hdeep : ∀ reg ∈ regs, PermScopeDeep reg.resource) :
    RecordsCover skipCodes regs ↔ Accounted skipCodes regs := by
  have hroutes {rt : Route} : rt ∈ routes regs ↔
      ∃ reg ∈ regs, ∃ lv ∈ reg.resource.scopes.levels, rt ∈ reg.resource.scopedRoutes lv := mem_routes_iff hreg
  constructor
  · rintro ⟨hrecorded, hchecked⟩
    refine ⟨fun reg hmem lv hlv rt hrt code hstar hchk _ => ?_, fun reg hmem code hyields _ => ?_⟩
    · have hlevel : rt.info.scopeLevel = lv := (scopedRoutes_spec hrt).level
      have hrec := hrecorded rt (hroutes.2 ⟨reg, hmem, lv, hlv, hrt⟩) code hstar hchk
      rw [hlevel] at hrec
      exact mem_permRecords_iff.1 hrec
    · have hplatform : "platform" ∈ scopesUpTo reg.resource.naturalScope.name := by
        unfold scopesUpTo
        repeat' split
        all_goals decide
      obtain ⟨rec, hrec, rfl, -⟩ := mem_permRecords_iff.2 ⟨reg, hmem, hyields, hplatform⟩
      exact hchecked rec hrec
  · rintro ⟨hrecorded, hchecked⟩
    refine ⟨fun rt hrt code hstar hchk => ?_, fun rec hrec => ?_⟩
    · obtain ⟨reg, hmem, lv, hlv, hrt⟩ := hroutes.1 hrt
      rw [(scopedRoutes_spec hrt).level]
      refine mem_permRecords_iff.2 ?_
      by_cases hsh : Shadowed regs reg.resource code
      · exact hrecorded reg hmem lv hlv rt hrt code hstar hchk hsh
      · exact ⟨reg, hmem, yields_of_not_shadowed (htargets reg hmem) hsh, level_mem_scopesUpTo (hdeep reg hmem) hlv⟩
    · obtain ⟨reg, hmem, hyields, -⟩ := mem_permRecords_iff.1 ⟨rec, hrec, rfl, rfl⟩
      by_cases hun : Unchecked skipCodes reg.resource rec.code
      · exact hchecked reg hmem rec.code hyields hun
      · simp only [Unchecked, not_forall] at hun
        obtain ⟨lv, hlv, rt, hrt, hcode, hex⟩ := hun
        exact ⟨rt, hroutes.2 ⟨reg, hmem, lv, hlv, hrt⟩, checks_iff.2 ⟨hcode, hex⟩⟩

def plainDef (group name : String) (scopes : ApiServer.Scope) (ops : Ops) (actions : List ActionDef) : ResourceDef where
  group := group
  version := ""
  name := name
  scopes := scopes
  ancestors := []
  idParam := ""
  ops := ops
  actions := actions
  verbs := []
  singletonGet := false
  permissionTargets := []
  sensitive := false
  extraAllow := none
  listAccessScope := ""
  permScope := 0
  itemScopeResolver := none

def imagesAndMachines : List Declaration := [
  ⟨"", plainDef "lab" "images" scopePlatform { list := true } []⟩,
  ⟨"", plainDef "lab" "machines" scopeWorkspace { get := true }
    [⟨"rebuild", "POST", true, 0, false, false, ["lab:images:list"]⟩]⟩]

def imagesAndMachinesRegs : List Registered := [
  ⟨"images", plainDef "lab" "images" scopePlatform { list := true } []⟩,
  ⟨"machines", plainDef "lab" "machines" scopeWorkspace { get := true }
    [⟨"rebuild", "POST", true, 0, false, false, ["lab:images:list"]⟩]⟩]

theorem imagesAndMachines_accepted : registerAll imagesAndMachines = .ok imagesAndMachinesRegs := by rfl

theorem imagesAndMachines_plain : (∀ reg ∈ imagesAndMachinesRegs, reg.resource.permissionTargets = []) ∧
    ∀ reg ∈ imagesAndMachinesRegs, PermScopeDeep reg.resource := by
  refine ⟨?_, ?_⟩
  · intro reg hreg
    simp only [imagesAndMachinesRegs, List.mem_cons, List.not_mem_nil, or_false] at hreg
    rcases hreg with rfl | rfl <;> rfl
  · intro reg hreg h
    simp only [imagesAndMachinesRegs, List.mem_cons, List.not_mem_nil, or_false] at hreg
    rcases hreg with rfl | rfl <;> exact absurd rfl h

theorem recordsCover_imagesAndMachines_iff :
    RecordsCover [] imagesAndMachinesRegs ↔ Accounted [] imagesAndMachinesRegs :=
  recordsCover_iff [] imagesAndMachines imagesAndMachinesRegs imagesAndMachines_accepted imagesAndMachines_plain.1
    imagesAndMachines_plain.2

theorem shallow_verb_not_covered :
    registerAll imagesAndMachines = .ok imagesAndMachinesRegs ∧ ¬RecordsCover [] imagesAndMachinesRegs := by
  refine ⟨by rfl, fun h => ?_⟩
  have hrt : ∃ rt ∈ routes imagesAndMachinesRegs, rt.info.scopeLevel = scopeWorkspace ∧
      Checks [] rt.info "lab:images:list" := by
    refine ⟨_, List.mem_of_getElem? (show (routes imagesAndMachinesRegs)[2]? = some _ from rfl), rfl, ?_⟩
    exact ⟨⟨[], [], some 7, ""⟩, by decide⟩
  obtain ⟨rt, hrt, hlevel, hchk⟩ := hrt
  obtain ⟨rec, hrec, hcode, hscope⟩ := h.1 rt hrt "lab:images:list" (by decide) hchk
  rw [hlevel] at hscope
  have hnone : ∀ rec ∈ permRecords imagesAndMachinesRegs, rec.code = "lab:images:list" →
      rec.scope ≠ ApiServer.Scope.name scopeWorkspace := by decide
  exact hnone rec hrec hcode hscope

end Vraxel.Iam
