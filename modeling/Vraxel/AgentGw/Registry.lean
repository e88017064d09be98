import Vraxel.AgentGw.Gateway
/-
  The two maps of the registry, in every interleaving of `Add` and `Remove`. There may be current
  sessions of several agents for one host; `byHost` names one.
-/

namespace Vraxel.AgentGw

open Relational Api Db Txn Interleave

structure Registry.Sound (r : Registry) : Prop where
  byHost : ∀ h sess, r.byHost h = some sess → sess.hostID = h ∧ r.byAgent sess.agentID = some sess
  byAgent : ∀ a sess, r.byAgent a = some sess → sess.agentID = a

variable {sess : Session}

namespace Registry

theorem sound_empty : empty.Sound := by
  constructor
  · intro h sess hsess
    cases hsess
  · intro a sess hsess
    cases hsess

variable {r : Registry}

theorem byHost_add (r : Registry) (sess : Session) (h : Int) :
    (r.add sess).byHost h =
      if h = sess.hostID then some sess
      else if ∃ prev ∈ r.byAgent sess.agentID, prev.hostID = h then none else r.byHost h := by
  by_cases hh : h = sess.hostID
  · simp [add, hh]
  rw [if_neg hh]
  simp only [add, Function.update_of_ne hh]
  cases r.byAgent sess.agentID with
  | none => simp
  | some prev =>
    by_cases hprev : prev.hostID = h
    · simp [hprev, hh]
    · by_cases hmoved : prev.hostID = sess.hostID
      · simp [hmoved, Ne.symm hh]
      · simp [hmoved, hprev, Function.update_of_ne (Ne.symm hprev)]

theorem byAgent_add (r : Registry) (sess : Session) (a : String) :
    (r.add sess).byAgent a = if a = sess.agentID then some sess else r.byAgent a := by
  by_cases ha : a = sess.agentID <;> simp [add, ha, Function.update_of_ne]

theorem byAgent_remove (hcurrent : r.current sess) (a : String) :
    (r.remove sess).byAgent a = if a = sess.agentID then none else r.byAgent a := by
  rw [remove, if_pos hcurrent]
  by_cases ha : a = sess.agentID <;> simp [ha, Function.update_of_ne]

theorem byHost_remove (hcurrent : r.current sess) (h : Int) :
    (r.remove sess).byHost h = if h = sess.hostID ∧ r.byHost h = some sess then none else r.byHost h := by
  rw [remove, if_pos hcurrent]
  by_cases hh : h = sess.hostID
  · by_cases hsess : r.byHost sess.hostID = some sess <;> simp [hh, hsess]
  · by_cases hsess : r.byHost sess.hostID = some sess <;> simp [hh, hsess]

theorem remove_of_not_current (h : ¬ r.current sess) : r.remove sess = r := if_neg h

theorem current_iff : r.current sess ↔ r.byAgent sess.agentID = some sess := decide_eq_true_iff

theorem current_of_add {x y : Session} (h : (r.add x).current y) : y = x ∨ r.current y := by
  rw [current_iff, byAgent_add] at h
  split at h
  · exact .inl (Option.some.inj h).symm
  · exact .inr (current_iff.2 h)

theorem current_of_remove {x y : Session} (h : (r.remove x).current y) : r.current y := by
  by_cases hcurrent : r.current x
  · rw [current_iff, byAgent_remove hcurrent] at h
    split at h
    · cases h
    · exact current_iff.2 h
  · exact remove_of_not_current hcurrent ▸ h

theorem byHost_of_add {x y : Session} {h : Int} (hy : (r.add x).byHost h = some y) : y = x ∨ r.byHost h = some y := by
  rw [byHost_add] at hy
  split at hy
  · exact .inl (Option.some.inj hy).symm
  split at hy
  · cases hy
  · exact .inr hy

theorem byHost_of_remove {x y : Session} {h : Int} (hy : (r.remove x).byHost h = some y) : r.byHost h = some y := by
  by_cases hcurrent : r.current x
  · rw [byHost_remove hcurrent] at hy
    split at hy
    · cases hy
    · exact hy
  · exact remove_of_not_current hcurrent ▸ hy

theorem Sound.add (hr : r.Sound) (sess : Session) : (r.add sess).Sound := by
  constructor
  · intro h other hother
    rw [byHost_add] at hother
    rw [byAgent_add]
    split at hother
    next hh =>
      cases hother
      exact ⟨hh.symm, if_pos rfl⟩
    next hh =>
      split at hother
      · cases hother
      next hprev =>
        obtain ⟨hhost, hcurrent⟩ := hr.byHost h other hother
        -- the agent's previous session has no entry left, so the entry is another agent's
        have hagent : other.agentID ≠ sess.agentID := by
          intro heq
          exact hprev ⟨other, heq ▸ hcurrent, hhost⟩
        exact ⟨hhost, (if_neg hagent).trans hcurrent⟩
  · intro a other hother
    rw [byAgent_add] at hother
    split at hother
    next ha =>
      cases hother
      exact ha.symm
    · exact hr.byAgent a other hother

theorem Sound.remove (hr : r.Sound) (sess : Session) : (r.remove sess).Sound := by
  by_cases hcurrent : r.current sess
  · constructor
    · intro h other hother
      rw [byHost_remove hcurrent] at hother
      rw [byAgent_remove hcurrent]
      split at hother
      · cases hother
      next hsess =>
        obtain ⟨hhost, hbyAgent⟩ := hr.byHost h other hother
        have hagent : other.agentID ≠ sess.agentID := by
          intro heq
          have hsame : other = sess := by
            rw [heq, current_iff.1 hcurrent] at hbyAgent
            exact (Option.some.inj hbyAgent).symm
          exact hsess ⟨hhost.symm.trans (congrArg Session.hostID hsame), hsame ▸ hother⟩
        exact ⟨hhost, (if_neg hagent).trans hbyAgent⟩
    · intro a other hother
      rw [byAgent_remove hcurrent] at hother
      split at hother
      · cases hother
      · exact hr.byAgent a other hother
  · rw [remove_of_not_current hcurrent]
    exact hr

end Registry

section Runs

variable (cfg : GwConfig)

theorem exec_markOnline (sess : Session) (skew : Int) (s : GwState) :
    ((GwStmt.markOnline sess skew).sem cfg).exec s = s.markOnline cfg sess skew ∨
      ((GwStmt.markOnline sess skew).sem cfg).exec s = s := by
  simp only [GwStmt.sem, M.exec, M.run, stmt]
  by_cases hrow : s.agents.exists? (GwState.ofHost sess.hostID) <;> simp [hrow]

theorem registry_sem (q : GwStmt) (s : GwState) :
    ((q.sem cfg).exec s).registry = match q with
      | .add sess => s.registry.add sess
      | .remove sess => s.registry.remove sess
      | _ => s.registry := by
  cases q with
  | markOnline sess skew => rcases exec_markOnline cfg sess skew s with h | h <;> simp [h, GwState.markOnline]
  | _ => rfl

theorem added_sem (q : GwStmt) (s : GwState) :
    ((q.sem cfg).exec s).added = match q with
      | .add sess => sess :: s.added
      | _ => s.added := by
  cases q with
  | markOnline sess skew => rcases exec_markOnline cfg sess skew s with h | h <;> simp [h, GwState.markOnline]
  | _ => rfl

theorem sound_sem (q : GwStmt) (s : GwState) (h : s.registry.Sound) : ((q.sem cfg).exec s).registry.Sound := by
  rw [registry_sem]
  split
  · exact h.add _
  · exact h.remove _
  · exact h

/-- An entry of `byHost` is a session of that host and the entry of its agent, and an entry of `byAgent`
is a session of that agent. -/
theorem maps_agree (agents : Table HostAgentRow) (now : Clock) (es : List (Event RegistryCall)) :
    ∀ st ∈ Transition.states (registrySystem cfg).step (.init (.init agents now)) es,
      (∀ h sess, st.store.registry.byHost h = some sess →
        sess.hostID = h ∧ st.store.registry.byAgent sess.agentID = some sess) ∧
      ∀ a sess, st.store.registry.byAgent a = some sess → sess.agentID = a := by
  intro st hst
  have hstep : ∀ (st : Pool GwState gwSig Err Unit) (e : Event RegistryCall), st.store.registry.Sound →
      ((registrySystem cfg).step st e).store.registry.Sound :=
    fun st e => System.inv_store_step (I := fun s => s.registry.Sound) (fun q s => sound_sem cfg q s) st e
  have hsound : st.store.registry.Sound := Transition.forall_states_of_step hstep Registry.sound_empty es st hst
  exact ⟨hsound.byHost, hsound.byAgent⟩

end Runs

/-! Two agents on one host. -/

def twoHosts : Table HostAgentRow :=
  .ofRows [withKey (.fresh 1 "agent-b" "" ⟨"", "", [], "", none⟩) 1, withKey (.fresh 2 "agent-a" "" ⟨"", "", [], "", none⟩) 2] 3
    (by decide)

def noon : Clock := ⟨43200000000, by decide⟩

def oneInstance : GwConfig := ⟨"gw-1", fun _ _ => true⟩

def sessionA : Session := ⟨0, "agent-a", 1, "1.0"⟩
def sessionB : Session := ⟨1, "agent-b", 1, "1.0"⟩
def movedA : Session := ⟨2, "agent-a", 2, "1.0"⟩

def addAlone (sess : Session) (n : Nat) : List (Event RegistryCall) :=
  [.call (.add sess 0), .step n, .step n, .step n, .step n]

def removeAlone (sess : Session) (n : Nat) : List (Event RegistryCall) :=
  [.call (.remove sess), .step n, .step n, .step n, .step n]

theorem two_agents_agree :
    let st := Transition.run (registrySystem oneInstance).step (.init (.init twoHosts noon))
      (addAlone sessionA 0 ++ addAlone sessionB 1)
    st.store.registry.byHost 1 = some sessionB ∧
      (∀ h sess, st.store.registry.byHost h = some sess →
        sess.hostID = h ∧ st.store.registry.byAgent sess.agentID = some sess) ∧
      ∀ a sess, st.store.registry.byAgent a = some sess → sess.agentID = a :=
  ⟨by decide, maps_agree oneInstance twoHosts noon _ _ (Transition.run_mem_states _ _ _)⟩

def Registry.currentFor (r : Registry) (h : Int) (sess : Session) : Bool := sess.hostID = h ∧ r.current sess

/-- `GetByHost` finds the session that was added last, of the current ones for the host. -/
def LatestByHost (s : GwState) : Prop :=
  ∀ h sess, s.registry.currentFor h sess →
    ∃ latest, s.registry.getByHost h = some latest ∧ s.added.find? (s.registry.currentFor h) = some latest

def AloneOn (s : GwState) (agentID : String) (h : Int) : Prop :=
  ∀ other ∈ s.added, s.registry.currentFor h other → other.agentID = agentID

/-- The statement deletes no entry of a host for which another agent has a current session. -/
def SparesOthers : GwStmt → GwState → Prop
  | .add sess, s =>
    ∀ prev ∈ s.registry.byAgent sess.agentID, prev.hostID ≠ sess.hostID → AloneOn s sess.agentID prev.hostID
  | .remove sess, s =>
    s.registry.current sess → s.registry.byHost sess.hostID = some sess → AloneOn s sess.agentID sess.hostID
  | _, _ => True

/-- What completeness rests on: the maps agree, and current sessions were added. -/
structure Recorded (s : GwState) : Prop where
  sound : s.registry.Sound
  added : ∀ sess, s.registry.current sess → sess ∈ s.added

section Completeness

open Registry

variable {s : GwState} {h : Int} {sess other : Session}

theorem currentFor_iff {r : Registry} : r.currentFor h sess ↔ sess.hostID = h ∧ r.byAgent sess.agentID = some sess := by
  simp [currentFor, current]

theorem find?_of_imp {α : Type} {p q : α → Bool} {xs : List α} {a : α} (hp : xs.find? p = some a) (hq : q a)
    (himp : ∀ x, q x → p x) : xs.find? q = some a := by
  induction xs with
  | nil => cases hp
  | cons x xs ih =>
    by_cases hx : p x
    · rw [List.find?_cons_of_pos hx] at hp
      cases hp
      exact List.find?_cons_of_pos hq
    · rw [List.find?_cons_of_neg hx] at hp
      rw [List.find?_cons_of_neg fun hqx => hx (himp x hqx)]
      exact ih hp

theorem latestByHost_iff (hs : Recorded s) :
    LatestByHost s ↔ ∀ h, s.registry.byHost h = s.added.find? (s.registry.currentFor h) := by
  constructor
  · intro hlatest h
    cases hentry : s.registry.byHost h with
    | some sess =>
      obtain ⟨latest, hget, hfind⟩ := hlatest h sess (currentFor_iff.2 (hs.sound.byHost h sess hentry))
      rw [hfind, ← hget]
      exact hentry.symm
    | none =>
      symm
      apply List.find?_eq_none.2
      intro sess _ hsess
      obtain ⟨latest, hget, -⟩ := hlatest h sess hsess
      cases hentry.symm.trans hget
  · intro heq h sess hsess
    have hmem : sess ∈ s.added := hs.added sess (current_iff.2 (currentFor_iff.1 hsess).2)
    obtain ⟨latest, hfind⟩ := Option.isSome_iff_exists.1 (List.find?_isSome.2 ⟨sess, hmem, hsess⟩)
    exact ⟨latest, (heq h).trans hfind, hfind⟩

theorem agent_ne_of_currentFor (hother : s.registry.currentFor h other)
    (hnone : ¬ ∃ prev ∈ s.registry.byAgent sess.agentID, prev.hostID = h) : other.agentID ≠ sess.agentID := by
  obtain ⟨hhost, hcurrent⟩ := currentFor_iff.1 hother
  intro heq
  exact hnone ⟨other, heq ▸ hcurrent, hhost⟩

/-- Without the sessions of one agent, no current session for the host is left exactly if
no other agent has one. -/
theorem find?_others_eq_none {r' : Registry} {a : String}
    (hcurrent : ∀ x, r'.currentFor h x ↔ x.agentID ≠ a ∧ s.registry.currentFor h x) :
    s.added.find? (r'.currentFor h) = none ↔ AloneOn s a h := by
  rw [List.find?_eq_none]
  constructor
  · intro hnone x hx hxcurrent
    by_contra hagent
    exact hnone x hx ((hcurrent x).2 ⟨hagent, hxcurrent⟩)
  · intro halone x hx hxcurrent
    obtain ⟨hagent, hx'⟩ := (hcurrent x).1 hxcurrent
    exact hagent (halone x hx hx')

theorem currentFor_add (hh : h ≠ sess.hostID) :
    (s.registry.add sess).currentFor h other ↔ other.agentID ≠ sess.agentID ∧ s.registry.currentFor h other := by
  rw [currentFor_iff, currentFor_iff, byAgent_add]
  by_cases hagent : other.agentID = sess.agentID
  · rw [if_pos hagent]
    refine iff_of_false ?_ fun hne => hne.1 hagent
    rintro ⟨hhost, hsame⟩
    cases hsame
    exact hh hhost.symm
  · rw [if_neg hagent]
    exact (and_iff_right hagent).symm

theorem currentFor_remove (hcurrent : s.registry.current sess) :
    (s.registry.remove sess).currentFor h other ↔ other.agentID ≠ sess.agentID ∧ s.registry.currentFor h other := by
  rw [currentFor_iff, currentFor_iff, byAgent_remove hcurrent]
  by_cases hagent : other.agentID = sess.agentID
  · rw [if_pos hagent]
    refine iff_of_false ?_ fun hne => hne.1 hagent
    rintro ⟨-, hsame⟩
    cases hsame
  · rw [if_neg hagent]
    exact (and_iff_right hagent).symm

theorem find?_congr_currentFor {r' : Registry} {a : String}
    (hcurrent : ∀ x, r'.currentFor h x ↔ x.agentID ≠ a ∧ s.registry.currentFor h x)
    (hagent : ∀ x, s.registry.currentFor h x → x.agentID ≠ a) :
    s.added.find? (r'.currentFor h) = s.added.find? (s.registry.currentFor h) := by
  have hsame : r'.currentFor h = s.registry.currentFor h := by
    funext x
    apply Bool.eq_iff_iff.2
    exact (hcurrent x).trans ⟨fun hx => hx.2, fun hx => ⟨hagent x hx, hx⟩⟩
  rw [hsame]

theorem latest_add_iff (hlatest : ∀ h, s.registry.byHost h = s.added.find? (s.registry.currentFor h)) (sess : Session) :
    (∀ h, (s.registry.add sess).byHost h = (sess :: s.added).find? ((s.registry.add sess).currentFor h)) ↔
      SparesOthers (.add sess) s := by
  have hhere : (s.registry.add sess).currentFor sess.hostID sess := currentFor_iff.2 ⟨rfl, by rw [byAgent_add, if_pos rfl]⟩
  have hthere {h : Int} (hh : h ≠ sess.hostID) : ¬ (s.registry.add sess).currentFor h sess := fun hsess =>
    hh (currentFor_iff.1 hsess).1.symm
  constructor
  · intro hafter prev hprev hmoved
    have h := hafter prev.hostID
    rw [byHost_add, if_neg hmoved, if_pos ⟨prev, hprev, rfl⟩, List.find?_cons_of_neg (hthere hmoved)] at h
    exact (find?_others_eq_none fun x => currentFor_add hmoved).1 h.symm
  · intro hspares h
    by_cases hh : h = sess.hostID
    · subst hh
      rw [byHost_add, if_pos rfl, List.find?_cons_of_pos hhere]
    rw [byHost_add, if_neg hh, List.find?_cons_of_neg (hthere hh)]
    by_cases hprev : ∃ prev ∈ s.registry.byAgent sess.agentID, prev.hostID = h
    · rw [if_pos hprev]
      obtain ⟨prev, hprev, rfl⟩ := hprev
      exact ((find?_others_eq_none fun x => currentFor_add hh).2 (hspares prev hprev hh)).symm
    · rw [if_neg hprev, find?_congr_currentFor (fun x => currentFor_add hh) fun x hx => agent_ne_of_currentFor hx hprev]
      exact hlatest h

theorem latest_remove_iff (hs : Recorded s) (hlatest : ∀ h, s.registry.byHost h = s.added.find? (s.registry.currentFor h))
    (sess : Session) :
    (∀ h, (s.registry.remove sess).byHost h = s.added.find? ((s.registry.remove sess).currentFor h)) ↔
      SparesOthers (.remove sess) s := by
  by_cases hcurrent : s.registry.current sess
  · constructor
    · intro hafter _ hentry
      have h := hafter sess.hostID
      rw [byHost_remove hcurrent, if_pos ⟨rfl, hentry⟩] at h
      exact (find?_others_eq_none fun x => currentFor_remove hcurrent).1 h.symm
    · intro hspares h
      rw [byHost_remove hcurrent]
      -- the one session of the agent that is current
      have hsame {x : Session} (hx : s.registry.currentFor h x) (hagent : x.agentID = sess.agentID) : x = sess := by
        have hx := (currentFor_iff.1 hx).2
        rw [hagent, current_iff.1 hcurrent] at hx
        exact (Option.some.inj hx).symm
      by_cases hh : h = sess.hostID
      · subst hh
        by_cases hentry : s.registry.byHost sess.hostID = some sess
        · rw [if_pos ⟨rfl, hentry⟩]
          exact ((find?_others_eq_none fun x => currentFor_remove hcurrent).2 (hspares hcurrent hentry)).symm
        · rw [if_neg fun hboth => hentry hboth.2]
          -- the entry is a later session of another agent, and stays the latest one
          have hmem := hs.added sess hcurrent
          obtain ⟨latest, hfind⟩ := Option.isSome_iff_exists.1
            (List.find?_isSome.2 ⟨sess, hmem, currentFor_iff.2 ⟨rfl, current_iff.1 hcurrent⟩⟩)
          have hlatest' := List.find?_some hfind
          have hagent : latest.agentID ≠ sess.agentID := by
            intro heq
            rw [hsame hlatest' heq] at hfind
            exact hentry ((hlatest sess.hostID).trans hfind)
          rw [hlatest, hfind]
          exact (find?_of_imp hfind ((currentFor_remove hcurrent).2 ⟨hagent, hlatest'⟩)
            fun x hx => ((currentFor_remove hcurrent).1 hx).2).symm
      · rw [if_neg fun hboth => hh hboth.1, find?_congr_currentFor (fun x => currentFor_remove hcurrent)]
        · exact hlatest h
        · intro x hx hagent
          rw [hsame hx hagent] at hx
          exact hh (currentFor_iff.1 hx).1.symm
  · rw [remove_of_not_current hcurrent]
    exact iff_of_true hlatest fun h => absurd h hcurrent

end Completeness

section CompleteRuns

variable (cfg : GwConfig)

theorem recorded_sem (q : GwStmt) (s : GwState) (hs : Recorded s) : Recorded ((q.sem cfg).exec s) := by
  refine ⟨sound_sem cfg q s hs.sound, fun sess hsess => ?_⟩
  rw [registry_sem] at hsess
  rw [added_sem]
  cases q with
  | add x =>
    rcases Registry.current_of_add hsess with rfl | hsess
    · exact List.mem_cons_self
    · exact List.mem_cons_of_mem x (hs.added sess hsess)
  | remove x => exact hs.added sess (Registry.current_of_remove hsess)
  | _ => exact hs.added sess hsess

theorem latestByHost_sem_iff (q : GwStmt) (s : GwState) (hs : Recorded s) (h : LatestByHost s) :
    LatestByHost ((q.sem cfg).exec s) ↔ SparesOthers q s := by
  rw [latestByHost_iff (recorded_sem cfg q s hs), registry_sem, added_sem]
  have hlatest := (latestByHost_iff hs).1 h
  cases q with
  | add sess => exact latest_add_iff hlatest sess
  | remove sess => exact latest_remove_iff hs hlatest sess
  | _ => exact iff_of_true hlatest trivial

/-- `GetByHost` stays at the session of each host that was added last, of the current ones, exactly if
no critical section deletes the entry of a host for which another agent has a current session. -/
theorem latest_by_host_iff (agents : Table HostAgentRow) (now : Clock) (es : List (Event RegistryCall)) :
    (∀ st ∈ Transition.states (registrySystem cfg).step (.init (.init agents now)) es,
      ∀ h sess, st.store.registry.currentFor h sess → ∃ latest, st.store.registry.getByHost h = some latest ∧
        st.store.added.find? (st.store.registry.currentFor h) = some latest) ↔
      Transition.Along (registrySystem cfg).step ((registrySystem cfg).Meets SparesOthers) (.init (.init agents now)) es := by
  have hrecorded : Recorded (.init agents now) :=
    ⟨Registry.sound_empty, fun sess hsess => by cases Registry.current_iff.1 hsess⟩
  have hlatest : LatestByHost (.init agents now) := fun h sess hsess => by cases (currentFor_iff.1 hsess).2
  exact System.forall_stores_iff (I := LatestByHost) (recorded_sem cfg) (latestByHost_sem_iff cfg) hrecorded hlatest es

end CompleteRuns

/-- When agent A comes back under host 2, the session of agent B loses its entry; and when agent B
leaves instead, the session of agent A has none. -/
theorem live_session_unreachable :
    let both := addAlone sessionA 0 ++ addAlone sessionB 1
    let moved := Transition.run (registrySystem oneInstance).step (.init (.init twoHosts noon)) (both ++ addAlone movedA 2)
    let left := Transition.run (registrySystem oneInstance).step (.init (.init twoHosts noon)) (both ++ removeAlone sessionB 2)
    (moved.store.registry.currentFor 1 sessionB ∧ moved.store.registry.getByHost 1 = none) ∧
      left.store.registry.currentFor 1 sessionA ∧ left.store.registry.getByHost 1 = none := by
  decide

end Vraxel.AgentGw
