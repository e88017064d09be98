import Vraxel.ApiServer.Route
/-
  The authorization link of a route (`lib/apiserver/middleware.go`), over any permission checker. A
  checker has a state of its own, which the link threads through its calls.
-/

namespace Vraxel.ApiServer

structure AccessFilter where
  workspaceIDs : Option (List Int)
  namespaceIDs : Option (List Int)

structure PermissionChecker (σ : Type) where
  isPlatformAdmin : (userID : Int) → σ → Except String Bool × σ
  checkAnyPermission : (userID : Int) → (permCodes : List String) → (scope : String) →
    (workspaceID namespaceID : Int) → σ → Except String Bool × σ
  getAccessibleWorkspaceIDs : (userID : Int) → σ → Except String (List Int) × σ
  getAccessibleNamespaceIDs : (userID : Int) → σ → Except String (List Int) × σ

/-- The parts of the server that authorization reads. No checker means that
authorization is disabled. -/
structure Server (σ : Type) where
  checker : Option (PermissionChecker σ)
  skipCodes : List String

/-- What becomes of a request: the next handler runs, or a 403 with a message. -/
inductive Verdict where
  | next (access : Option AccessFilter)
  | forbidden (message : String)

def Verdict.admits : Verdict → Bool
  | .next _ => true
  | .forbidden _ => false

variable {σ : Type}

def Server.skips (s : Server σ) (m : RouteMeta) : Bool :=
  m.permCodes.length == 1 && s.skipCodes.contains (m.permCodes.headD "")

def RouteMeta.hookAllows (m : RouteMeta) (r : Request) (userID : Int) : Bool :=
  match m.extraAllow with
  | some hook => hook r userID
  | none => false

/-- The list routes of workspaces and namespaces: everyone may call them, and
sees what they hold bindings for. -/
def accessFiltered (c : PermissionChecker σ) (m : RouteMeta) (userID : Int) (st : σ) : Verdict × σ :=
  if m.accessScope = "workspaces" then
    match c.getAccessibleWorkspaceIDs userID st with
    | (.error _, st) => (.forbidden "failed to check accessible workspaces", st)
    | (.ok ids, st) => (.next (some ⟨some ids, none⟩), st)
  else
    match c.getAccessibleNamespaceIDs userID st with
    | (.error _, st) => (.forbidden "failed to check accessible namespaces", st)
    | (.ok ids, st) => (.next (some ⟨none, some ids⟩), st)

def checkScope (c : PermissionChecker σ) (m : RouteMeta) (r : Request) (userID : Int) (st : σ) : Verdict × σ :=
  let scope := m.scope r
  match c.checkAnyPermission userID m.permCodes scope.level.name scope.workspaceID scope.namespaceID st with
  | (.error _, st) => (.forbidden "failed to check permissions", st)
  | (.ok false, st) => (.forbidden ("access denied: requires " ++ m.permCodes.headD ""), st)
  | (.ok true, st) => (.next none, st)

def authzMiddleware (s : Server σ) (m : RouteMeta) (r : Request) (st : σ) : Verdict × σ :=
  match s.checker with
  | none => (.next none, st)
  | some c =>
    if s.skips m then (.next none, st)
    else match r.userID with
      | none => (.forbidden "no authenticated user", st)
      | some userID =>
        if m.hookAllows r userID then (.next none, st)
        else match c.isPlatformAdmin userID st with
          | (.error _, st) => (.forbidden "failed to check permissions", st)
          | (.ok true, st) => (.next none, st)
          | (.ok false, st) =>
            if m.accessScope ≠ "" then accessFiltered c m userID st else checkScope c m r userID st

/-- A route whose requests go through the permission check: not whitelisted,
no hook, not a filtered list. -/
structure Server.Checks (s : Server σ) (m : RouteMeta) : Prop where
  notSkipped : s.skips m = false
  noHook : m.extraAllow = none
  noAccessScope : m.accessScope = ""

theorem authzMiddleware_next_iff {s : Server σ} {c : PermissionChecker σ} {m : RouteMeta} {r : Request} {st : σ}
    (hc : s.checker = some c) (hm : s.Checks m) :
    (authzMiddleware s m r st).1.admits ↔
      ∃ userID, r.userID = some userID ∧
        ((c.isPlatformAdmin userID st).1 = .ok true ∨
          ((c.isPlatformAdmin userID st).1 = .ok false ∧
            (c.checkAnyPermission userID m.permCodes (m.scope r).level.name (m.scope r).workspaceID
              (m.scope r).namespaceID (c.isPlatformAdmin userID st).2).1 = .ok true)) := by
  simp only [authzMiddleware, hc, hm.notSkipped, Bool.false_eq_true, if_false]
  cases hu : r.userID with
  | none => simp [Verdict.admits]
  | some userID =>
    simp only [RouteMeta.hookAllows, hm.noHook, hm.noAccessScope, ne_eq, not_true_eq_false,
      Bool.false_eq_true, if_false, Option.some.injEq, exists_eq_left']
    -- the administrator check can fail, say yes, or say no
    rcases hA : c.isPlatformAdmin userID st with ⟨e | _ | _, st'⟩
    · simp [Verdict.admits]
    · simp only [checkScope, Except.ok.injEq, Bool.false_eq_true, false_or, true_and]
      split <;> simp_all [Verdict.admits]
    · simp [Verdict.admits]

structure PermissionChecker.Keeps (c : PermissionChecker σ) (I : σ → Prop) : Prop where
  isPlatformAdmin : ∀ u st, I st → I (c.isPlatformAdmin u st).2
  checkAnyPermission : ∀ u codes scope w n st, I st → I (c.checkAnyPermission u codes scope w n st).2
  getAccessibleWorkspaceIDs : ∀ u st, I st → I (c.getAccessibleWorkspaceIDs u st).2
  getAccessibleNamespaceIDs : ∀ u st, I st → I (c.getAccessibleNamespaceIDs u st).2

theorem accessFiltered_keeps {c : PermissionChecker σ} {I : σ → Prop} (hc : c.Keeps I) (m : RouteMeta)
    (userID : Int) {st : σ} (h : I st) : I (accessFiltered c m userID st).2 := by
  unfold accessFiltered
  by_cases hw : m.accessScope = "workspaces"
  · have hI := hc.getAccessibleWorkspaceIDs userID st h
    rcases heq : c.getAccessibleWorkspaceIDs userID st with ⟨_ | _, st'⟩ <;> rw [heq] at hI <;>
      simpa [hw, heq] using hI
  · have hI := hc.getAccessibleNamespaceIDs userID st h
    rcases heq : c.getAccessibleNamespaceIDs userID st with ⟨_ | _, st'⟩ <;> rw [heq] at hI <;>
      simpa [hw, heq] using hI

theorem checkScope_keeps {c : PermissionChecker σ} {I : σ → Prop} (hc : c.Keeps I) (m : RouteMeta) (r : Request)
    (userID : Int) {st : σ} (h : I st) : I (checkScope c m r userID st).2 := by
  have hI := hc.checkAnyPermission userID m.permCodes (m.scope r).level.name (m.scope r).workspaceID
    (m.scope r).namespaceID st h
  unfold checkScope
  rcases heq : c.checkAnyPermission userID m.permCodes (m.scope r).level.name (m.scope r).workspaceID
    (m.scope r).namespaceID st with ⟨_ | _ | _, st'⟩ <;> rw [heq] at hI <;> simpa [heq] using hI

theorem authzMiddleware_keeps {s : Server σ} {I : σ → Prop} (hs : ∀ c, s.checker = some c → c.Keeps I)
    (m : RouteMeta) (r : Request) {st : σ} (h : I st) : I (authzMiddleware s m r st).2 := by
  unfold authzMiddleware
  cases hc : s.checker with
  | none => exact h
  | some c =>
    by_cases hskip : s.skips m = true
    · simpa [hskip] using h
    simp only [hskip]
    cases r.userID with
    | none => exact h
    | some userID =>
      by_cases hhook : m.hookAllows r userID = true
      · simpa [hhook] using h
      have hA := (hs c hc).isPlatformAdmin userID st h
      rcases heq : c.isPlatformAdmin userID st with ⟨e | _ | _, st'⟩ <;> rw [heq] at hA
      · simpa [hhook, heq] using hA
      · -- not an administrator: a filtered list, or the check at the request scope
        by_cases ha : m.accessScope = ""
        · simpa [hhook, heq, ha] using checkScope_keeps (hs c hc) m r userID hA
        · simpa [hhook, heq, ha] using accessFiltered_keeps (hs c hc) m userID hA
      · simpa [hhook, heq] using hA

end Vraxel.ApiServer
