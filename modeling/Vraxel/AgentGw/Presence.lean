import Vraxel.AgentGw.Registry
import Vraxel.Lib.Rely
/-
  Whether a departing session marks a live host offline: the mutex that `Remove` holds is the
  agent's, and the row is the host's.
-/

namespace Vraxel.AgentGw

open Relational Api Db Txn Interleave

namespace Presence

def holds : GwStmt → Option String
  | .add sess | .markOnline sess _ | .remove sess | .markOffline sess | .unlockAgent sess => some sess.agentID
  | _ => none

/-- No session is removed from beside a claim of another one, and no row is claimed while
a session of its host is leaving. -/
def KeepsApart : GwStmt → GwState → Prop
  | .remove sess, s =>
    s.registry.current sess → ∀ other ∈ s.registry.byHost sess.hostID, other = sess ∨ s.claim other = none
  | .markOnline sess _, s => ∀ other ∈ s.leaving, other.hostID ≠ sess.hostID
  | _, _ => True

instance : (q : GwStmt) → (s : GwState) → Decidable (KeepsApart q s)
  | .remove sess, s => inferInstanceAs (Decidable (_ → ∀ other ∈ s.registry.byHost sess.hostID, _))
  | .markOnline _ _, s => inferInstanceAs (Decidable (∀ other ∈ s.leaving, _))
  | .lockAgent _, _ | .unlockAgent _, _ | .add _, _ | .touch _ _, _ | .markOffline _, _ | .markStaleOffline, _
  | .newSession _ _ _, _ | .setEpoch _ _, _ | .epoch _ _, _ | .addTokenGen _ _ _, _ | .writeToken _ _ _ _, _
  | .storeTokenSent _ _ _, _ | .loadTokenSent _, _ | .readMessage _, _ | .tick _, _ => .isTrue trivial

/-- The host of a session that is leaving has no entry, or one that has not claimed its row. -/
structure Departed (s : GwState) : Prop where
  sound : s.registry.Sound
  unclaimed : ∀ sess ∈ s.leaving, ∀ other, s.registry.byHost sess.hostID = some other → s.claim other = none

/-! What the statements leave alone. -/

/-- The state of the agents other than `own`: their mutexes stay locked and their sessions stay leaving. -/
def Spares (own : Option String) (s s' : GwState) : Prop :=
  ∀ a, own ≠ some a → (s.connLock a → s'.connLock a) ∧ ∀ sess ∈ s.leaving, sess.agentID = a → sess ∈ s'.leaving

section Statements

variable (cfg : GwConfig)

variable {s : GwState}

theorem spares_of_eq {own : Option String} {s' : GwState} (hlock : s'.connLock = s.connLock)
    (hleaving : s'.leaving = s.leaving) : Spares own s s' := by
  intro a _
  rw [hlock, hleaving]
  exact ⟨id, fun sess hsess _ => hsess⟩

theorem spares_sem (q : GwStmt) (s : GwState) : Spares (holds q) s ((q.sem cfg).exec s) := by
  cases q with
  | lockAgent x =>
    intro a _
    refine ⟨fun ha => ?_, fun sess hsess _ => hsess⟩
    show Function.update s.connLock x.agentID true a
    by_cases hx : a = x.agentID
    · simp [hx]
    · rw [Function.update_of_ne hx]
      exact ha
  | unlockAgent x =>
    intro a ha
    refine ⟨fun hlock => ?_, fun sess hsess _ => hsess⟩
    show Function.update s.connLock x.agentID false a
    rw [Function.update_of_ne fun hx => ha (congrArg some hx.symm)]
    exact hlock
  | remove x =>
    intro a _
    refine ⟨id, fun sess hsess _ => ?_⟩
    show sess ∈ (s.remove x).leaving
    unfold GwState.remove
    split
    · exact List.mem_cons_of_mem x hsess
    · exact hsess
  | markOffline x =>
    intro a ha
    refine ⟨id, fun sess hsess hagent => ?_⟩
    refine List.mem_filter.2 ⟨hsess, decide_eq_true fun hx => ha ?_⟩
    rw [← hagent, hx]
    rfl
  | markOnline x skew =>
    rcases exec_markOnline cfg x skew s with hexec | hexec <;> rw [hexec] <;> exact spares_of_eq rfl rfl
  | _ => exact spares_of_eq rfl rfl

/-! Where a session may leave. -/

theorem departed_of_eq {s' : GwState} (h : Departed s) (hregistry : s'.registry = s.registry)
    (hclaim : s'.claim = s.claim) (hleaving : ∀ sess ∈ s'.leaving, sess ∈ s.leaving) : Departed s' := by
  refine ⟨hregistry ▸ h.sound, fun sess hsess other hother => ?_⟩
  rw [hregistry] at hother
  rw [hclaim]
  exact h.unclaimed sess (hleaving sess hsess) other hother

theorem departed_add (h : Departed s) (x : Session) : Departed (s.add x) := by
  refine ⟨h.sound.add x, fun sess hsess other hother => ?_⟩
  simp only [GwState.add]
  by_cases hother' : other = x
  · rw [hother', Function.update_self]
  · rw [Function.update_of_ne hother']
    exact h.unclaimed sess hsess other ((Registry.byHost_of_add hother).resolve_left hother')

theorem departed_remove (h : Departed s) (x : Session) (hx : KeepsApart (.remove x) s) :
    Departed (s.remove x) := by
  refine ⟨h.sound.remove x, fun sess hsess other hother => ?_⟩
  by_cases hcurrent : s.registry.current x
  · simp only [GwState.remove, Registry.byHost_remove hcurrent] at hother ⊢
    split at hother
    · cases hother
    next hgone =>
      rw [GwState.remove, if_pos hcurrent] at hsess
      rcases List.mem_cons.1 hsess with hsess | hsess
      · subst hsess
        rcases hx hcurrent other hother with hsame | hclaim
        · exact absurd ⟨rfl, hsame ▸ hother⟩ hgone
        · exact hclaim
      · exact h.unclaimed sess hsess other hother
  · simp only [GwState.remove, hcurrent, Registry.remove_of_not_current hcurrent, Bool.false_eq_true, if_false] at hsess hother ⊢
    exact h.unclaimed sess hsess other hother

theorem departed_markOnline (h : Departed s) (x : Session) (skew : Int) (hx : KeepsApart (.markOnline x skew) s) :
    Departed (s.markOnline cfg x skew) := by
  refine ⟨h.sound, fun sess hsess other hother => ?_⟩
  have hne : other ≠ x := by
    intro heq
    have hhost := (h.sound.byHost sess.hostID other hother).1
    exact hx sess hsess (heq ▸ hhost.symm)
  simp only [GwState.markOnline, Function.update_of_ne hne]
  exact h.unclaimed sess hsess other hother

theorem departed_sem (q : GwStmt) (s : GwState) (h : Departed s) (hq : KeepsApart q s) : Departed ((q.sem cfg).exec s) := by
  cases q with
  | add x => exact departed_add h x
  | remove x => exact departed_remove h x hq
  | markOnline x skew =>
    rcases exec_markOnline cfg x skew s with hexec | hexec <;> rw [hexec]
    · exact departed_markOnline cfg h x skew hq
    · exact h
  | markOffline x => exact departed_of_eq h rfl rfl fun sess hsess => List.mem_of_mem_filter hsess
  | _ => exact departed_of_eq h rfl rfl fun _ hsess => hsess

end Statements

/-- A call owns the agent whose mutex it holds. -/
def discipline : Discipline GwState gwSig Err String where
  take
    | .lockAgent x, _, _ => some x.agentID
    | .unlockAgent _, _, _ => none
    | _, _, v => v
  owned s a := s.connLock a
  rely v s s' := ∀ a, v = some a → (s.connLock a → s'.connLock a) ∧ ∀ sess ∈ s.leaving, sess.agentID = a → sess ∈ s'.leaving
  pre v q s := (∀ a, holds q = some a → v = some a) ∧ ∀ x, q = .markOffline x → x ∈ s.leaving

section Calls

variable (cfg : GwConfig)

theorem connLock_markOnline (x : Session) (skew : Int) (s : GwState) :
    (((GwStmt.markOnline x skew).sem cfg).exec s).connLock = s.connLock := by
  rcases exec_markOnline cfg x skew s with hexec | hexec <;> simp [hexec, GwState.markOnline]

theorem sound_discipline : discipline.Sound (registrySystem cfg) Departed KeepsApart fun _ _ => False where
  refl v s a _ := ⟨id, fun _ h _ => h⟩
  trans v s s' s'' h h' a ha := ⟨fun hl => (h' a ha).1 ((h a ha).1 hl), fun x hx hxa => (h' a ha).2 x ((h a ha).2 x hx hxa) hxa⟩
  owned k s s' h := (h k rfl).1
  inv q s v hs _ _ hq _ := departed_sem cfg q s hs hq
  take q s v k _ _ hready _ howned htake := by
    cases q with
    | lockAgent x =>
      cases htake
      -- the mutex was free
      exact ⟨Function.update_self (β := fun _ => Bool) x.agentID true s.connLock,
        .inr (by simpa [discipline, registrySystem, GwStmt.ready] using hready)⟩
    | unlockAgent x => cases htake
    | markOnline x skew =>
      refine ⟨?_, .inl htake⟩
      show (((GwStmt.markOnline x skew).sem cfg).exec s).connLock k
      rw [connLock_markOnline]
      exact howned k htake
    | _ => exact ⟨howned k htake, .inl htake⟩
  others q s v v' _ hpre _ _ hne a ha := spares_sem cfg q s a fun hq => hne a (hpre.1 a hq) ha
  need _ _ _ _ _ _ _ _ h := h.elim

theorem safe_registryProg (c : RegistryCall) (s : GwState) :
    discipline.Safe (registrySystem cfg) Departed KeepsApart (fun _ _ _ => True) none s (registryProg c) := by
  have hother {q : GwStmt} {s : GwState} {a : String} (hq : ∀ y, q ≠ .markOffline y) (ha : holds q = some a) :
      discipline.pre (some a) q s := ⟨fun b hb => ha.symm.trans hb, fun y hy => absurd hy (hq y)⟩
  have hfirst {x : Session} {s : GwState} : discipline.pre none (.lockAgent x) s := ⟨nofun, nofun⟩
  cases c with
  | add x skew =>
    refine fun s₁ _ _ => ⟨hfirst, fun _ _ => ?_⟩
    refine fun s₂ _ _ => ⟨hother nofun rfl, fun _ _ => ?_⟩
    refine fun s₃ _ _ => ⟨hother nofun rfl, fun _ _ => ?_⟩
    generalize (((registrySystem cfg).sem (.markOnline x skew)).result s₃) = r
    cases r <;> exact fun s₄ _ _ => ⟨hother nofun rfl, fun _ _ => trivial⟩
  | remove x =>
    refine fun s₁ _ _ => ⟨hfirst, fun _ _ => ?_⟩
    refine fun s₂ _ _ => ⟨hother nofun rfl, fun _ _ => ?_⟩
    show discipline.Safe _ _ _ _ (some x.agentID) (s₂.remove x) (Gw.removed x (s₂.registry.current x))
    cases hcurrent : s₂.registry.current x with
    | true =>
      refine fun s₃ h₃ _ => ⟨⟨fun a ha => ha, fun y hy => ?_⟩, fun _ _ => ?_⟩
      · cases hy
        exact (h₃ _ rfl).2 x (by simp [GwState.remove, hcurrent]) rfl
      · exact fun s₄ _ _ => ⟨hother nofun rfl, fun _ _ => trivial⟩
    | false => exact fun s₃ _ _ => ⟨hother nofun rfl, fun _ _ => trivial⟩

/-- If every `Remove` that finds its session current finds no entry of its host that belongs to another
session and has claimed the row, and no session claims the row of a host while a `Remove` for it is
before its `MarkOffline`, then no `MarkOffline` is issued while another session that has completed its
`MarkOnline` is registered for the host. -/
theorem live_host_not_marked_offline (agents : Table HostAgentRow) (now : Clock) (es : List (Event RegistryCall))
    (h : Transition.Along (registrySystem cfg).step ((registrySystem cfg).Meets KeepsApart) (.init (.init agents now)) es) :
    ∀ st ∈ Transition.states (registrySystem cfg).step (.init (.init agents now)) es,
      ∀ i sess, st.next? i = some (.markOffline sess) →
        ¬ ∃ other, other ≠ sess ∧ st.store.registry.byHost sess.hostID = some other ∧ (st.store.claim other).isSome := by
  intro st hst i sess hnext
  have hinit : Departed (.init agents now) := ⟨Registry.sound_empty, fun sess hsess => by cases hsess⟩
  obtain ⟨hdeparted, ps, hps, hsafe, -⟩ := (sound_discipline cfg).forall_safe (fun _ _ _ _ h _ => h) (safe_registryProg cfg)
    hinit (fun _ => id) h st hst
  obtain ⟨p, hp, hpnext⟩ := Option.bind_eq_some_iff.1 hnext
  have hleaving : sess ∈ st.store.leaving := by
    rw [← hps] at hp
    obtain ⟨x, hx, rfl⟩ := List.mem_map.1 (List.mem_of_getElem? hp)
    exact ((sound_discipline cfg).pre (hsafe x hx).1 hpnext hdeparted).2 sess rfl
  rintro ⟨other, -, hentry, hclaim⟩
  rw [hdeparted.unclaimed sess hleaving other hentry] at hclaim
  cases hclaim

end Calls

/-! The first of two agents leaves. -/

theorem host_marked_offline_before_next :
    let es := addAlone sessionA 0 ++ removeAlone sessionA 1 ++ addAlone sessionB 2
    Transition.Along (registrySystem oneInstance).step ((registrySystem oneInstance).Meets KeepsApart)
        (.init (.init twoHosts noon)) es ∧
      ∀ st ∈ Transition.states (registrySystem oneInstance).step (.init (.init twoHosts noon)) es,
        ∀ i sess, st.next? i = some (.markOffline sess) →
          ¬ ∃ other, other ≠ sess ∧ st.store.registry.byHost sess.hostID = some other ∧ (st.store.claim other).isSome := by
  have h : Transition.Along (registrySystem oneInstance).step ((registrySystem oneInstance).Meets KeepsApart)
      (.init (.init twoHosts noon)) (addAlone sessionA 0 ++ removeAlone sessionA 1 ++ addAlone sessionB 2) := by
    decide
  exact ⟨h, live_host_not_marked_offline oneInstance twoHosts noon _ h⟩

/-- `Remove` of agent A's session up to its `MarkOffline`, as the program with number `n`. -/
def beginRemove (sess : Session) (n : Nat) : List (Event RegistryCall) := [.call (.remove sess), .step n, .step n]

/-- When agent A leaves, the row goes offline, and agent B's session is still the one of the host. -/
theorem live_host_marked_offline :
    let before := Transition.run (registrySystem oneInstance).step (.init (.init twoHosts noon))
      (addAlone sessionA 0 ++ addAlone sessionB 1 ++ beginRemove sessionA 2)
    let after := (registrySystem oneInstance).step before (.step 2)
    before.next? 2 = some (.markOffline sessionA) ∧
      before.store.registry.byHost 1 = some sessionB ∧ (before.store.claim sessionB).isSome ∧
      (before.store.agents.get? 1).map HostAgentRow.status = some .online ∧
      (after.store.agents.get? 1).map HostAgentRow.status = some .offline := by
  decide

end Presence

end Vraxel.AgentGw
