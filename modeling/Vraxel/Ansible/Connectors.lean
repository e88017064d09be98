import Vraxel.Go.Strconv
import Vraxel.Go.Strings
import Mathlib.Data.List.Nodup
import Mathlib.Data.List.Perm.Basic
/-
  The connectors of a playbook (`lib/ansible/executor/playbook.go`, `registry.go`, `task.go`).

  While a play runs, the workers of its tasks ask for connectors, and one that is not there is made
  under a lock.
-/

namespace Vraxel.Ansible.Connectors

open Strconv Strings

inductive Dialed
  | ok
  | createFailed (e : String)
  | initFailed (e : String)

/-- The outcome of each attempt to make a connector, by its number. -/
abbrev World := Nat → Dialed

structure Pool where
  /-- By host, the number of its connector. -/
  registry : List (String × Nat)
  dials : Nat
  opened : List Nat
  closed : List Nat
  deriving DecidableEq

namespace Pool

def get (p : Pool) (host : String) : Option Nat := p.registry.lookup host

def has (p : Pool) (host : String) : Bool := (p.get host).isSome

def put (p : Pool) (host : String) (id : Nat) : Pool :=
  { p with registry := (host, id) :: p.registry.filter (·.1 ≠ host) }

end Pool

variable (w : World)

def initConnector (p : Pool) (host : String) : Pool × Option String :=
  let tried := { p with dials := p.dials + 1 }
  match w p.dials with
  | .createFailed e => (tried, some ("create connector for " ++ host ++ ": " ++ e))
  | .initFailed e => (tried, some ("init connector for " ++ host ++ ": " ++ e))
  | .ok => ({ tried with opened := p.dials :: p.opened }.put host p.dials, none)

def initConnectors (w : World) (p : Pool) : List String → Pool × Option String
  | [] => (p, none)
  | host :: hosts =>
    if p.has host then initConnectors w p hosts
    else
      match initConnector w p host with
      | (p, some e) => (p, some e)
      | (p, none) => initConnectors w p hosts

def connectorForDelegate (p : Pool) (host : String) : Pool × Except String (Option Nat) :=
  match p.get host with
  | some id => (p, .ok (some id))
  | none =>
    match initConnector w p host with
    | (p, some e) => (p, .error e)
    | (p, none) => (p, .ok (p.get host))

structure Request where
  host : String
  /-- The text of `delegate_to`, and what it is rendered to for the host. -/
  delegateTo : String
  rendered : Except String String
  /-- The look into the registry found nothing, whatever is there now. -/
  stale : Bool

def connectorFor (p : Pool) (host : String) (stale : Bool) : Pool × Except String (Option Nat) :=
  if p.has host && !stale then (p, .ok (p.get host)) else connectorForDelegate w p host

def taskConnector (p : Pool) (r : Request) : Pool × Except String (Option Nat) :=
  if r.delegateTo = "" then connectorFor w p r.host r.stale
  else
    match r.rendered with
    | .error e => (p, .error ("render delegate_to: " ++ e))
    | .ok target =>
      let target := trimSpace target
      if target = "" then (p, .error ("delegate_to " ++ quote r.delegateTo ++ " rendered empty"))
      else
        match connectorFor w p target r.stale with
        | (p, .error e) => (p, .error ("delegate_to " ++ quote target ++ ": " ++ e))
        | (p, .ok id) => (p, .ok id)

def closeConnectors (p : Pool) : Pool :=
  { p with registry := [], closed := p.registry.map Prod.snd ++ p.closed }

/-- A play: its batches, what its tasks ask for, and the error it ends with after the connectors are
there (of the facts or of a batch). -/
structure PlayRun where
  name : String
  plan : Except String (List (List String))
  requests : List Request
  err : Option String

def runRequests (p : Pool) (requests : List Request) : Pool :=
  requests.foldl (fun p r => (taskConnector w p r).1) p

def execPlay (p : Pool) (play : PlayRun) : Pool × Option String :=
  match play.plan with
  | .error e => (p, some e)
  | .ok [] => (p, none)
  | .ok plan =>
    match initConnectors w p plan.flatten with
    | (p, some e) => (p, some e)
    -- from here on the connectors are closed when the play returns
    | (p, none) => (closeConnectors (runRequests w p play.requests), play.err)

def executeFrom (w : World) (i : Nat) (p : Pool) : List PlayRun → Pool × Option String
  | [] => (p, none)
  | play :: plays =>
    match execPlay w p play with
    | (p, some e) => (p, some ("play " ++ formatInt (i + 1) ++ " '" ++ play.name ++ "': " ++ e))
    | (p, none) => executeFrom w (i + 1) p plays

def execute (p : Pool) (playbook : List PlayRun) : Pool × Option String := executeFrom w 0 p playbook

/-- Every connector that was opened is registered once or closed once. -/
structure Pool.Tidy (p : Pool) : Prop where
  accounted : p.opened.Perm (p.registry.map Prod.snd ++ p.closed)
  nodup : p.opened.Nodup
  dialed : ∀ id ∈ p.opened, id < p.dials

/-- A registry in use: any earlier calls may have left it so. -/
abbrev TidyPool := { p : Pool // p.Tidy }

/-- Every connector that was opened since `before` has been closed once and is not registered. -/
def ClosedOnce (before after : Pool) : Prop :=
  ∀ id ∈ after.opened, id ∉ before.opened → after.closed.count id = 1 ∧ id ∉ after.registry.map Prod.snd

/-- All connectors of the play can be made, or the first one that is tried cannot. -/
def Connects (p : Pool) (play : PlayRun) : Prop :=
  match play.plan with
  | .error _ => True
  | .ok plan => (initConnectors w p plan.flatten).2 = none ∨ w p.dials ≠ .ok

def Steady (w : World) (p : Pool) : List PlayRun → Prop
  | [] => True
  | play :: plays => Connects w p play ∧ ((execPlay w p play).2 = none → Steady w (execPlay w p play).1 plays)

structure Grows (p p' : Pool) (news : List (String × Nat)) : Prop where
  registry : p'.registry = news ++ p.registry
  opened : p'.opened = news.map Prod.snd ++ p.opened
  closed : p'.closed = p.closed
  dials : p.dials ≤ p'.dials
  fresh : ∀ id ∈ news.map Prod.snd, p.dials ≤ id ∧ id < p'.dials
  nodup : (news.map Prod.snd).Nodup

variable {w : World} {p p' q : Pool} {host : String} {news more : List (String × Nat)}

theorem Grows.refl (p : Pool) : Grows p p [] := ⟨rfl, rfl, rfl, Nat.le_refl _, by simp, List.nodup_nil⟩

theorem Grows.trans (h : Grows p p' news) (h' : Grows p' q more) : Grows p q (more ++ news) where
  registry := by rw [h'.registry, h.registry, List.append_assoc]
  opened := by rw [h'.opened, h.opened, List.map_append, List.append_assoc]
  closed := h'.closed.trans h.closed
  dials := Nat.le_trans h.dials h'.dials
  fresh := by
    intro id hid
    rw [List.map_append, List.mem_append] at hid
    have hle := h.dials
    have hle' := h'.dials
    cases hid with
    | inl hmore =>
      have := h'.fresh id hmore
      omega
    | inr hnews =>
      have := h.fresh id hnews
      omega
  nodup := by
    rw [List.map_append]
    refine h'.nodup.append h.nodup ?_
    intro id hmore hnews
    have hlt := (h.fresh id hnews).2
    have hge := (h'.fresh id hmore).1
    omega

theorem Grows.not_mem (h : Grows p p' news) (hp : p.Tidy) {id : Nat} (hid : id ∈ news.map Prod.snd) : id ∉ p.opened := by
  intro hold
  have hlt := hp.dialed id hold
  have hge := (h.fresh id hid).1
  omega

theorem Grows.tidy (h : Grows p p' news) (hp : p.Tidy) : p'.Tidy where
  accounted := by
    rw [h.opened, h.registry, h.closed, List.map_append, List.append_assoc]
    exact hp.accounted.append_left _
  nodup := by
    rw [h.opened]
    exact h.nodup.append hp.nodup fun id hnews => h.not_mem hp hnews
  dialed := by
    intro id hid
    rw [h.opened, List.mem_append] at hid
    cases hid with
    | inl hnews => exact (h.fresh id hnews).2
    | inr hold => exact Nat.lt_of_lt_of_le (hp.dialed id hold) h.dials

theorem registry_put (hhost : p.has host = false) (id : Nat) : (p.put host id).registry = (host, id) :: p.registry := by
  have hnone : p.registry.lookup host = none := by simpa [Pool.has, Pool.get] using hhost
  rw [List.lookup_eq_none_iff] at hnone
  unfold Pool.put
  simp only [List.cons.injEq, true_and]
  rw [List.filter_eq_self]
  intro x hx
  have := hnone x hx
  simp at this ⊢
  exact fun h => this h.symm

theorem initConnector_spec (w : World) (hhost : p.has host = false) :
    ((initConnector w p host).2 = none ∧ w p.dials = .ok ∧ Grows p (initConnector w p host).1 [(host, p.dials)]) ∨
    ((initConnector w p host).2 ≠ none ∧ w p.dials ≠ .ok ∧ Grows p (initConnector w p host).1 []) := by
  have htried : Grows p { p with dials := p.dials + 1 } [] :=
    ⟨rfl, rfl, rfl, Nat.le_succ _, by simp, List.nodup_nil⟩
  unfold initConnector
  cases hw : w p.dials with
  | createFailed e => exact Or.inr ⟨by simp, by simp, htried⟩
  | initFailed e => exact Or.inr ⟨by simp, by simp, htried⟩
  | ok =>
    refine Or.inl ⟨rfl, rfl, ?_⟩
    exact ⟨registry_put (p := { p with dials := p.dials + 1, opened := p.dials :: p.opened }) hhost p.dials, rfl, rfl,
      Nat.le_succ _, by simp [Pool.put], List.nodup_singleton _⟩

theorem initConnectors_spec (w : World) (p : Pool) (hosts : List String) :
    ∃ news, Grows p (initConnectors w p hosts).1 news ∧
      ((initConnectors w p hosts).2 ≠ none → (news = [] ↔ w p.dials ≠ .ok)) := by
  induction hosts generalizing p with
  | nil => exact ⟨[], .refl p, fun h => absurd rfl h⟩
  | cons host hosts ih =>
    unfold initConnectors
    by_cases hhost : p.has host = true
    · rw [if_pos hhost]
      exact ih p
    · rw [if_neg hhost]
      cases initConnector_spec w (by simpa using hhost) with
      | inl hok =>
        obtain ⟨herr, hw, hgrows⟩ := hok
        generalize initConnector w p host = r at herr hgrows ⊢
        obtain ⟨p', err⟩ := r
        subst herr
        obtain ⟨news, hnews, -⟩ := ih p'
        exact ⟨news ++ [(host, p.dials)], hgrows.trans hnews, fun _ => by simp [hw]⟩
      | inr hfail =>
        obtain ⟨herr, hw, hgrows⟩ := hfail
        generalize initConnector w p host = r at herr hgrows ⊢
        obtain ⟨p', err⟩ := r
        obtain ⟨e, rfl⟩ := Option.ne_none_iff_exists'.mp herr
        exact ⟨[], hgrows, fun _ => by simp [hw]⟩

theorem connectorForDelegate_grows (w : World) (p : Pool) (host : String) :
    ∃ news, Grows p (connectorForDelegate w p host).1 news := by
  unfold connectorForDelegate
  cases hget : p.get host with
  | some id => exact ⟨[], .refl p⟩
  | none =>
    have hhost : p.has host = false := by simp [Pool.has, hget]
    have hgrows : ∃ news, Grows p (initConnector w p host).1 news := by
      cases initConnector_spec w hhost with
      | inl hok => exact ⟨_, hok.2.2⟩
      | inr hfail => exact ⟨_, hfail.2.2⟩
    generalize initConnector w p host = r at hgrows ⊢
    obtain ⟨p', err⟩ := r
    cases err <;> exact hgrows

theorem connectorFor_grows (w : World) (p : Pool) (host : String) (stale : Bool) :
    ∃ news, Grows p (connectorFor w p host stale).1 news := by
  unfold connectorFor
  split
  · exact ⟨[], .refl p⟩
  · exact connectorForDelegate_grows w p host

theorem taskConnector_grows (w : World) (p : Pool) (r : Request) : ∃ news, Grows p (taskConnector w p r).1 news := by
  unfold taskConnector
  split
  · exact connectorFor_grows w p r.host r.stale
  · split
    · exact ⟨[], .refl p⟩
    · next target _ =>
      simp only
      split
      · exact ⟨[], .refl p⟩
      · have hgrows := connectorFor_grows w p (trimSpace target) r.stale
        generalize connectorFor w p (trimSpace target) r.stale = x at hgrows ⊢
        obtain ⟨p', res⟩ := x
        cases res <;> exact hgrows

theorem runRequests_grows (w : World) (p : Pool) (requests : List Request) :
    ∃ news, Grows p (runRequests w p requests) news := by
  induction requests generalizing p with
  | nil => exact ⟨[], .refl p⟩
  | cons r requests ih =>
    obtain ⟨news, hnews⟩ := taskConnector_grows w p r
    obtain ⟨more, hmore⟩ := ih (taskConnector w p r).1
    exact ⟨more ++ news, hnews.trans hmore⟩

theorem closeConnectors_tidy (hp : p.Tidy) : (closeConnectors p).Tidy :=
  ⟨hp.accounted, hp.nodup, hp.dialed⟩

/-- What a play comes to: nothing is connected, or not everything is, or all of it is closed again. -/
inductive Played (w : World) (p : Pool) (play : PlayRun) (p' : Pool) (err : Option String) : Prop
  | skipped (hpool : p' = p) (hconnects : Connects w p play)
  | broken (news : List (String × Nat)) (hgrows : Grows p p' news) (herr : err ≠ none)
      (hconnects : Connects w p play ↔ news = [])
  | ran (q : Pool) (news : List (String × Nat)) (hgrows : Grows p q news) (hpool : p' = closeConnectors q)
      (hconnects : Connects w p play)

theorem execPlay_spec (w : World) (p : Pool) (play : PlayRun) :
    Played w p play (execPlay w p play).1 (execPlay w p play).2 := by
  unfold execPlay
  split
  · next hplan => exact .skipped rfl (by simp [Connects, hplan])
  · next hplan => exact .skipped rfl (by simp [Connects, hplan, initConnectors])
  · next plan _ hplan =>
    obtain ⟨news, hgrows, hfirst⟩ := initConnectors_spec w p plan.flatten
    have hconnects : Connects w p play ↔ (initConnectors w p plan.flatten).2 = none ∨ w p.dials ≠ .ok := by
      simp [Connects, hplan]
    generalize initConnectors w p plan.flatten = r at hgrows hfirst hconnects ⊢
    obtain ⟨q, err⟩ := r
    cases err with
    | some e =>
      refine .broken news hgrows (by simp) (hconnects.trans ?_)
      simp [hfirst]
    | none =>
      obtain ⟨more, hmore⟩ := runRequests_grows w q play.requests
      exact .ran _ _ (hgrows.trans hmore) rfl (hconnects.mpr (Or.inl rfl))

variable {before : Pool}

theorem closedOnce_iff (hp : p.Tidy) :
    ClosedOnce before p ↔ ∀ id ∈ p.registry.map Prod.snd, id ∈ before.opened := by
  have hmem (id : Nat) : id ∈ p.opened ↔ id ∈ p.registry.map Prod.snd ∨ id ∈ p.closed := by
    rw [hp.accounted.mem_iff, List.mem_append]
  have hnodup : p.closed.Nodup := ((hp.accounted.nodup_iff.mp hp.nodup).of_append_right)
  constructor
  · intro h id hid
    by_contra hold
    exact (h id ((hmem id).mpr (Or.inl hid)) hold).2 hid
  · intro h id hid hold
    have hnot : id ∉ p.registry.map Prod.snd := fun hreg => hold (h id hreg)
    have hclosed : id ∈ p.closed := ((hmem id).mp hid).resolve_left hnot
    exact ⟨List.count_eq_one_of_mem hnodup hclosed, hnot⟩

/-- Between two plays: the account is kept, and what is registered is older than the call. -/
structure Between (before p : Pool) : Prop where
  tidy : p.Tidy
  old : ∀ id ∈ p.registry.map Prod.snd, id ∈ before.opened
  opened : ∀ id ∈ before.opened, id ∈ p.opened

theorem between_closeConnectors (h : Between before p) (hgrows : Grows p q news) :
    Between before (closeConnectors q) where
  tidy := closeConnectors_tidy (hgrows.tidy h.tidy)
  old := by simp [closeConnectors]
  opened := by
    intro id hid
    rw [closeConnectors, hgrows.opened]
    exact List.mem_append_right _ (h.opened id hid)

theorem closedOnce_of_grows (h : Between before p) (hgrows : Grows p q news) :
    ClosedOnce before q ↔ news = [] := by
  rw [closedOnce_iff (hgrows.tidy h.tidy), hgrows.registry, List.map_append]
  constructor
  · intro hold
    by_contra hne
    obtain ⟨x, hx⟩ := List.exists_mem_of_ne_nil _ hne
    have hid : x.2 ∈ news.map Prod.snd := List.mem_map_of_mem hx
    exact hgrows.not_mem h.tidy hid (h.opened _ (hold _ (List.mem_append_left _ hid)))
  · rintro rfl
    simpa using h.old

theorem executeFrom_iff (w : World) (i : Nat) (h : Between before p) (plays : List PlayRun) :
    ClosedOnce before (executeFrom w i p plays).1 ↔ Steady w p plays := by
  induction plays generalizing p i with
  | nil =>
    simp only [executeFrom, Steady, iff_true]
    exact (closedOnce_iff h.tidy).mpr h.old
  | cons play plays ih =>
    have hspec := execPlay_spec w p play
    unfold executeFrom Steady
    generalize execPlay w p play = r at hspec ⊢
    obtain ⟨p', err⟩ := r
    change Played w p play p' err at hspec
    -- the play leaves a registry between two plays, or ends the run
    have hgo (hbetween : Between before p') (hconnects : Connects w p play) :
        ClosedOnce before (match (p', err) with
          | (p, some e) => (p, some ("play " ++ formatInt (i + 1) ++ " '" ++ play.name ++ "': " ++ e))
          | (p, none) => executeFrom w (i + 1) p plays).1 ↔
        Connects w p play ∧ (err = none → Steady w p' plays) := by
      cases err with
      | some e =>
        simp only [hconnects, reduceCtorEq, false_implies, and_true, iff_true]
        exact (closedOnce_iff hbetween.tidy).mpr hbetween.old
      | none =>
        simp only [hconnects, true_and, true_implies]
        exact ih (i + 1) hbetween
    cases hspec with
    | skipped hpool hconnects => exact hgo (hpool ▸ h) hconnects
    | ran q news hgrows hpool hconnects => exact hgo (hpool ▸ between_closeConnectors h hgrows) hconnects
    | broken news hgrows herr hconnects =>
      obtain ⟨e, rfl⟩ := Option.ne_none_iff_exists'.mp herr
      simp only [reduceCtorEq, false_implies, and_true, hconnects]
      exact closedOnce_of_grows h hgrows

/-- Everything a call of `Execute` opens has been closed once when it returns exactly if in every play
that is reached all connectors can be made or the first cannot. -/
theorem closed_once_iff (w : World) (before : TidyPool) (playbook : List PlayRun) :
    ClosedOnce before.1 (execute w before.1 playbook).1 ↔ Steady w before.1 playbook := by
  apply executeFrom_iff w 0
  refine ⟨before.2, ?_, fun id hid => hid⟩
  intro id hid
  rw [before.2.accounted.mem_iff]
  exact List.mem_append_left _ hid

def halfThere : PlayRun := ⟨"site", .ok [["web1", "web2"]], [], none⟩

def secondDown : World := fun n => if n = 1 then .initFailed "dial tcp: i/o timeout" else .ok

/-- The connection to the first one stays open. -/
theorem first_host_stays_open :
    execute secondDown ⟨[], 0, [], []⟩ [halfThere]
        = (⟨[("web1", 0)], 2, [0], []⟩, some "play 1 'site': init connector for web2: dial tcp: i/o timeout") ∧
      ¬ClosedOnce ⟨[], 0, [], []⟩ (execute secondDown ⟨[], 0, [], []⟩ [halfThere]).1 := by
  have hrun : execute secondDown ⟨[], 0, [], []⟩ [halfThere]
      = (⟨[("web1", 0)], 2, [0], []⟩, some "play 1 'site': init connector for web2: dial tcp: i/o timeout") := by
    decide
  refine ⟨hrun, ?_⟩
  rw [hrun]
  intro h
  exact (h 0 (by simp) (by simp)).2 (by simp)

end Vraxel.Ansible.Connectors
