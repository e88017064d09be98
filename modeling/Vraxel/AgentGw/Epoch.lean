import Vraxel.AgentGw.Registry
import Vraxel.Lib.Rely
/-
  The epoch of session tokens: a token carries the `connected_at` of its session's claim on the row,
  and `authSession` compares it with the row.
-/

namespace Vraxel.AgentGw

open Relational Api Db Txn Interleave

variable {x : Session} {s : GwState}

namespace Epoch

def handles : GwStmt → Option Session
  | .lockAgent x | .unlockAgent x | .add x | .remove x | .markOnline x _ | .touch x _ | .markOffline x
  | .setEpoch x _ | .epoch x .handler | .addTokenGen x .handler _ | .writeToken x .handler _ _
  | .storeTokenSent x .handler _ | .loadTokenSent x | .readMessage x => some x
  | _ => none

/-- The row is not taken from a session that is registered and has claimed it, and a token
has the epoch of its session. -/
def KeepsEpoch : GwStmt → GwState → Prop
  | .markOnline sess _, s => ∀ other ∈ s.registry.byHost sess.hostID, other = sess ∨ s.claim other = none
  | .writeToken sess _ connEpoch _, s => s.epoch sess = connEpoch
  | _, _ => True

instance : (q : GwStmt) → (s : GwState) → Decidable (KeepsEpoch q s)
  | .markOnline sess _, s => inferInstanceAs (Decidable (∀ other ∈ s.registry.byHost sess.hostID, _))
  | .writeToken sess _ connEpoch _, s => inferInstanceAs (Decidable (s.epoch sess = connEpoch))
  | .lockAgent _, _ | .unlockAgent _, _ | .add _, _ | .remove _, _ | .touch _ _, _ | .markOffline _, _
  | .markStaleOffline, _ | .newSession _ _ _, _ | .setEpoch _ _, _ | .epoch _ _, _ | .addTokenGen _ _ _, _
  | .storeTokenSent _ _ _, _ | .loadTokenSent _, _ | .readMessage _, _ | .tick _, _ => .isTrue trivial

def waits : GwStmt → Bool
  | .readMessage _ => true
  | _ => false

def NoRow (s : GwState) (x : Session) : Prop := ∀ row ∈ s.agents, row.hostID ≠ x.hostID

structure Claimed (s : GwState) (x : Session) (t : Int) : Prop where
  claim : s.claim x = some t
  epoch : s.epoch x = t

def Fresh (s : GwState) (x : Session) : Prop :=
  ∃ c rest, s.tokens x = c :: rest ∧ c.connEpoch = s.epoch x ∧ c.hostID = x.hostID

/-- The session has claimed the row and has the epoch, or there is no row. -/
def Ready (s : GwState) (x : Session) : Prop := (∃ t, Claimed s x t) ∨ NoRow s x

/-- The last token is good, or there is no row to be good for. -/
def Settled (s : GwState) (x : Session) : Prop := (∃ t, Claimed s x t) ∧ Fresh s x ∨ NoRow s x

/-- Claims stand in the rows, as long as their sessions are registered. -/
structure Stands (s : GwState) : Prop where
  sound : s.registry.Sound
  made : ∀ x, s.registry.current x → x.ref < s.sessions
  pos : ∀ x t, s.claim x = some t → 0 < t
  row : ∀ h x t, s.registry.byHost h = some x → s.claim x = some t →
    ∀ row ∈ s.agents, row.hostID = h → row.connectedAt = some t

/-! What a statement leaves alone. -/

theorem noRow_update {s' : GwState} {p : HostAgentRow → Bool} {f : HostAgentRow → HostAgentRow}
    (hs' : s'.agents = s.agents.update p f) (hf : ∀ r, (f r).hostID = r.hostID) (h : NoRow s x) : NoRow s' x := by
  intro row hrow
  rw [hs'] at hrow
  obtain ⟨r, hr, rfl⟩ := Table.mem_update.1 hrow
  split
  · exact fun heq => h r hr ((hf r).symm.trans heq)
  · exact h r hr

theorem connectedAt_update {t : Table HostAgentRow} {p : HostAgentRow → Bool} {f : HostAgentRow → HostAgentRow}
    (hf : ∀ r, (f r).hostID = r.hostID ∧ (f r).connectedAt = r.connectedAt) :
    ∀ row ∈ t.update p f, ∃ row' ∈ t, row'.hostID = row.hostID ∧ row'.connectedAt = row.connectedAt := by
  intro row hrow
  obtain ⟨r, hr, rfl⟩ := Table.mem_update.1 hrow
  refine ⟨r, hr, ?_⟩
  split
  · exact ⟨(hf r).1.symm, (hf r).2.symm⟩
  · exact ⟨rfl, rfl⟩

structure Leaves (x : Session) (s s' : GwState) : Prop where
  sessions : s.sessions ≤ s'.sessions
  noRow : NoRow s x → NoRow s' x
  current : s'.registry.current x → s.registry.current x
  claim : s'.claim x = s.claim x
  epoch : s'.epoch x = s.epoch x
  fresh : Fresh s x → Fresh s' x

section Leaves

variable {x : Session} {s s' s'' : GwState} {t : Int}

theorem Leaves.trans (h : Leaves x s s') (h' : Leaves x s' s'') : Leaves x s s'' :=
  ⟨h.sessions.trans h'.sessions, fun hr => h'.noRow (h.noRow hr), fun hc => h.current (h'.current hc),
    h'.claim.trans h.claim, h'.epoch.trans h.epoch, fun hf => h'.fresh (h.fresh hf)⟩

theorem leaves_of_eq (hsessions : s.sessions ≤ s'.sessions) (hrow : NoRow s x → NoRow s' x)
    (hcurrent : s'.registry.current x → s.registry.current x) (hclaim : s'.claim x = s.claim x) (hepoch : s'.epoch x = s.epoch x)
    (htokens : s'.tokens x = s.tokens x) : Leaves x s s' :=
  ⟨hsessions, hrow, hcurrent, hclaim, hepoch, fun ⟨c, rest, hc, he, hh⟩ => ⟨c, rest, htokens.trans hc, he.trans hepoch.symm, hh⟩⟩

theorem Ready.leaves (h : Ready s x) (hl : Leaves x s s') : Ready s' x :=
  h.imp (fun ⟨t, h⟩ => ⟨t, hl.claim.trans h.claim, hl.epoch.trans h.epoch⟩) hl.noRow

theorem Settled.ready (h : Settled s x) : Ready s x := h.imp And.left id

theorem Settled.leaves (h : Settled s x) (hl : Leaves x s s') : Settled s' x :=
  h.imp (fun ⟨⟨t, h⟩, hf⟩ => ⟨⟨t, hl.claim.trans h.claim, hl.epoch.trans h.epoch⟩, hl.fresh hf⟩) hl.noRow

end Leaves

section Statements

variable (cfg : GwConfig)

theorem current_of_sem {q : GwStmt} (hq : q ≠ .add x)
    (h : ((q.sem cfg).exec s).registry.current x) : s.registry.current x := by
  rw [registry_sem] at h
  cases q with
  | add y => exact (Registry.current_of_add h).resolve_left fun heq => hq (heq ▸ rfl)
  | remove y => exact Registry.current_of_remove h
  | _ => exact h

theorem run_markOnline (skew : Int) (hrow : s.agents.exists? (GwState.ofHost x.hostID)) :
    ((GwStmt.markOnline x skew).sem cfg).run s = (.ok s.now.micros, s.markOnline cfg x skew) := by
  simp [GwStmt.sem, M.run, stmt, hrow]

theorem run_markOnline_of_noRow (skew : Int)
    (hrow : s.agents.exists? (GwState.ofHost x.hostID) = false) :
    ((GwStmt.markOnline x skew).sem cfg).run s = (.error (notFound x.hostID), s) := by
  simp [GwStmt.sem, M.run, stmt, hrow]

theorem leaves_sem {q : GwStmt} (hx : handles q ≠ some x) (hq : KeepsEpoch q s) :
    Leaves x s ((q.sem cfg).exec s) := by
  have hcurrent := current_of_sem cfg (q := q) (s := s) (x := x) fun h => hx (by rw [h]; rfl)
  have hne {y : Session} (h : some y ≠ some x) : x ≠ y := fun heq => h (congrArg some heq.symm)
  cases q with
  | add y => exact leaves_of_eq le_rfl id hcurrent (Function.update_of_ne (hne hx) _ _) rfl rfl
  | markOnline y skew =>
    rcases exec_markOnline cfg y skew s with hexec | hexec
    · rw [hexec] at hcurrent ⊢
      exact leaves_of_eq le_rfl (noRow_update rfl fun _ => rfl) hcurrent (Function.update_of_ne (hne hx) _ _) rfl rfl
    · rw [hexec]
      exact leaves_of_eq le_rfl id id rfl rfl rfl
  | touch y skew => exact leaves_of_eq le_rfl (noRow_update rfl fun _ => rfl) hcurrent rfl rfl rfl
  | markOffline y => exact leaves_of_eq le_rfl (noRow_update rfl fun _ => rfl) hcurrent rfl rfl rfl
  | markStaleOffline => exact leaves_of_eq le_rfl (noRow_update rfl fun _ => rfl) hcurrent rfl rfl rfl
  | newSession a h v => exact leaves_of_eq (Nat.le_succ _) id hcurrent rfl rfl rfl
  | setEpoch y t => exact leaves_of_eq le_rfl id hcurrent rfl (Function.update_of_ne (hne hx) _ _) rfl
  | writeToken y issuer e gen =>
    by_cases heq : x = y
    · subst heq
      exact ⟨le_rfl, id, hcurrent, rfl, rfl, fun _ => ⟨_, _, Function.update_self _ _ _, hq.symm, rfl⟩⟩
    · exact leaves_of_eq le_rfl id hcurrent rfl rfl (Function.update_of_ne heq _ _)
  | _ => exact leaves_of_eq le_rfl id hcurrent rfl rfl rfl

theorem stands_of_rows {s' : GwState} (h : Stands s) (hregistry : s'.registry = s.registry)
    (hsessions : s.sessions ≤ s'.sessions) (hclaim : s'.claim = s.claim)
    (hrows : ∀ row ∈ s'.agents, ∃ row' ∈ s.agents, row'.hostID = row.hostID ∧ row'.connectedAt = row.connectedAt) :
    Stands s' := by
  refine ⟨hregistry ▸ h.sound, fun x hx => ?_, fun x t ht => ?_, fun host x t hx ht row hrow hhost => ?_⟩
  · rw [hregistry] at hx
    exact lt_of_lt_of_le (h.made x hx) hsessions
  · rw [hclaim] at ht
    exact h.pos x t ht
  · rw [hregistry] at hx
    rw [hclaim] at ht
    obtain ⟨row', hrow', hhost', hconnected⟩ := hrows row hrow
    rw [← hconnected]
    exact h.row host x t hx ht row' hrow' (hhost'.trans hhost)

theorem stands_markOnline {skew : Int} (h : Stands s) (hq : KeepsEpoch (.markOnline x skew) s) :
    Stands (s.markOnline cfg x skew) := by
  refine ⟨h.sound, h.made, fun y t ht => ?_, fun host y t hy ht row hrow hhost => ?_⟩
  · simp only [GwState.markOnline, Function.update_apply] at ht
    split at ht
    · cases ht
      exact s.now.pos
    · exact h.pos y t ht
  · obtain ⟨hhost', -⟩ := h.sound.byHost host y hy
    obtain ⟨r, hr, rfl⟩ := Table.mem_update.1 hrow
    simp only [GwState.markOnline, Function.update_apply] at ht
    have hmine : GwState.ofHost x.hostID r ↔ r.hostID = x.hostID := decide_eq_true_iff
    by_cases hp : GwState.ofHost x.hostID r
    · rw [if_pos hp] at hhost ⊢
      have hsame : host = x.hostID := hhost.symm.trans (hmine.1 hp)
      split at ht
      · cases ht
        rfl
      next hyx =>
        -- another session is registered for the host, so it has not claimed the row
        rcases hq y (hsame ▸ hy) with heq | hnone
        · exact absurd heq hyx
        · cases hnone.symm.trans ht
    · rw [if_neg hp] at hhost ⊢
      split at ht
      next hyx => exact absurd (hmine.2 (hhost.trans (hhost'.symm.trans (congrArg Session.hostID hyx)))) hp
      · exact h.row host y t hy ht r hr hhost

theorem stands_add (h : Stands s) (hx : x.ref < s.sessions) : Stands (s.add x) := by
  refine ⟨h.sound.add x, fun y hy => ?_, fun y t ht => ?_, fun host y t hy ht row hrow hhost => ?_⟩
  · rcases Registry.current_of_add hy with rfl | hy
    · exact hx
    · exact h.made y hy
  · simp only [GwState.add, Function.update_apply] at ht
    split at ht
    · cases ht
    · exact h.pos y t ht
  · simp only [GwState.add, Function.update_apply] at ht
    split at ht
    · cases ht
    next hyx => exact h.row host y t ((Registry.byHost_of_add hy).resolve_left hyx) ht row hrow hhost

theorem stands_remove (h : Stands s) : Stands (s.remove x) :=
  ⟨h.sound.remove x, fun y hy => h.made y (Registry.current_of_remove hy), h.pos,
    fun host y t hy => h.row host y t (Registry.byHost_of_remove hy)⟩

theorem stands_sem (q : GwStmt) (s : GwState) (h : Stands s) (hq : KeepsEpoch q s) (hadd : ∀ x, q = .add x → x.ref < s.sessions) :
    Stands ((q.sem cfg).exec s) := by
  have hsame : ∀ row ∈ s.agents, ∃ row' ∈ s.agents, row'.hostID = row.hostID ∧ row'.connectedAt = row.connectedAt :=
    fun row hrow => ⟨row, hrow, rfl, rfl⟩
  cases q with
  | add x => exact stands_add h (hadd x rfl)
  | remove x => exact stands_remove h
  | markOnline x skew =>
    rcases exec_markOnline cfg x skew s with hexec | hexec <;> rw [hexec]
    · exact stands_markOnline cfg h hq
    · exact h
  | touch x skew => exact stands_of_rows h rfl le_rfl rfl (connectedAt_update fun _ => ⟨rfl, rfl⟩)
  | markOffline x => exact stands_of_rows h rfl le_rfl rfl (connectedAt_update fun _ => ⟨rfl, rfl⟩)
  | markStaleOffline => exact stands_of_rows h rfl le_rfl rfl (connectedAt_update fun _ => ⟨rfl, rfl⟩)
  | newSession a host v => exact stands_of_rows h rfl (Nat.le_succ _) rfl hsame
  | _ => exact stands_of_rows h rfl le_rfl rfl hsame

end Statements

section Programs

variable (cfg : GwConfig) {q : GwStmt} {s : GwState} {x : Session}

def Registered (s : GwState) (x : Session) : Prop := s.registry.byHost x.hostID = some x

theorem registered_of_sem (h : Registered ((q.sem cfg).exec s) x) :
    Registered s x ∨ q = .add x := by
  unfold Registered at h ⊢
  rw [registry_sem] at h
  cases q with
  | add y => exact (Registry.byHost_of_add h).symm.imp id fun heq => congrArg GwStmt.add heq.symm
  | remove y => exact .inl (Registry.byHost_of_remove h)
  | _ => exact .inl h

/-- The handler of a channel owns its session. -/
def discipline : Discipline GwState gwSig Err Session where
  take
    | .newSession _ _ _, .ok x, _ => some x
    | _, _, v => v
  owned s x := x.ref < s.sessions
  rely v s s' := ∀ x, v = some x → Leaves x s s'
  pre v q s := (∀ x, handles q = some x → v = some x) ∧ (∀ x, q = .readMessage x → Settled s x) ∧
    ∀ a h w, q = .newSession a h w → v = none

theorem take_of_owns {v : Option Session} {r : Except Err q.Ans} (hpre : discipline.pre v q s) (hv : v ≠ none) :
    discipline.take q r v = v := by
  cases q with
  | newSession a h w => exact absurd (hpre.2.2 a h w rfl) hv
  | _ => rfl

theorem sessions_sem (q : GwStmt) (s : GwState) : s.sessions ≤ ((q.sem cfg).exec s).sessions := by
  cases q with
  | newSession a h v => exact Nat.le_succ _
  | markOnline x skew => rcases exec_markOnline cfg x skew s with hexec | hexec <;> simp [hexec, GwState.markOnline]
  | _ => exact le_rfl

theorem sound_discipline : discipline.Sound (channelSystem cfg) Stands KeepsEpoch Registered where
  refl v s x _ := leaves_of_eq le_rfl id id rfl rfl rfl
  trans v s s' s'' h h' x hx := (h x hx).trans (h' x hx)
  owned x s s' h hx := lt_of_lt_of_le hx (h x rfl).sessions
  inv q s v hs hpre _ hq hv := stands_sem cfg q s hs hq fun x hx => hv x (hpre.1 x (by rw [hx]; rfl))
  take q s v x hs hpre _ hq hv htake := by
    have hkept (h : v = some x) : x.ref < ((q.sem cfg).exec s).sessions := lt_of_lt_of_le (hv x h) (sessions_sem cfg q s)
    cases q with
    | newSession a h w =>
      cases htake
      exact ⟨Nat.lt_succ_self _, .inr (lt_irrefl _)⟩
    | _ => exact ⟨hkept htake, .inl htake⟩
  others q s v v' _ hpre _ hq hne x hx := leaves_sem cfg (fun h => hne x (hpre.1 x h) hx) hq
  need q s v x _ hpre _ _ hx := by
    by_cases hv : v = some x
    · exact .inl ((take_of_owns hpre (by simp [hv])).trans hv)
    · rcases registered_of_sem cfg hx with hbefore | hadd
      · exact .inr ⟨hbefore, hv⟩
      · exact absurd (hpre.1 x (by rw [hadd]; rfl)) hv

abbrev Safe (Q : Option Session → GwState → Except Err Unit → Prop) (v : Option Session) (s : GwState) (p : Gw.GwM Unit) : Prop :=
  discipline.Safe (channelSystem cfg) Stands KeepsEpoch Q v s p

/-- The handler is ready for the next frame. -/
def Served (x : Session) (v : Option Session) (s : GwState) (r : Except Err Unit) : Prop := r = .ok () ∧ v = some x ∧ Settled s x

/-- The session of a handler that has ended is not registered. -/
def Gone (v : Option Session) (s : GwState) (_ : Except Err Unit) : Prop := ∀ x, v = some x → ¬ s.registry.current x

theorem pre_of_handles (hx : handles q = some x) (hread : ∀ y, q ≠ .readMessage y) : discipline.pre (some x) q s :=
  ⟨fun y hy => hx.symm.trans hy, fun y hy => absurd hy (hread y), fun a h w hq => by rw [hq] at hx; cases hx⟩

theorem pre_of_none {v : Option Session} (hx : handles q = none) (hnew : ∀ a h w, q ≠ .newSession a h w) :
    discipline.pre v q s := by
  refine ⟨fun y hy => ?_, fun y hy => ?_, fun a h w hq => absurd hq (hnew a h w)⟩
  · cases hx.symm.trans hy
  · rw [hy] at hx
    cases hx

theorem safe_issue (h : Ready s x) : Safe cfg (Served x) (some x) s (Gw.issueSessionToken x .handler) := by
  refine fun s₁ h₁ hs₁ => ⟨pre_of_handles rfl nofun, fun _ _ => ?_⟩
  have hready := h.leaves (h₁ x rfl)
  show Safe cfg (Served x) (some x) s₁ (Gw.mintFor x .handler (s₁.epoch x))
  unfold Gw.mintFor
  split
  · rename_i he
    refine ⟨rfl, rfl, .inr (hready.resolve_left fun ⟨t, ht⟩ => ?_)⟩
    -- a claim has a time after 1970
    have hpos := hs₁.pos x t ht.claim
    rw [← ht.epoch, he] at hpos
    exact absurd hpos (lt_irrefl 0)
  · refine fun s₂ h₂ _ => ⟨pre_of_handles rfl nofun, fun _ _ => ?_⟩
    refine fun s₃ h₃ _ => ⟨pre_of_handles rfl nofun, fun _ hq => ?_⟩
    have hready := (hready.leaves (h₂ x rfl)).leaves (.trans (by exact leaves_of_eq le_rfl id id rfl rfl rfl) (h₃ x rfl))
    have hsettled : Settled (s₃.writeToken cfg x (s₁.epoch x)) x :=
      hready.imp (fun ⟨t, ht⟩ => ⟨⟨t, ht.claim, ht.epoch⟩, _, _, Function.update_self _ _ _, hq.symm, rfl⟩) id
    refine fun s₄ h₄ _ => ⟨pre_of_handles rfl nofun, fun _ _ => ⟨rfl, rfl, ?_⟩⟩
    exact hsettled.leaves ((h₄ x rfl).trans (leaves_of_eq le_rfl id id rfl rfl rfl))

theorem safe_claimed {t : Int} (h : s.claim x = some t) : Safe cfg (Served x) (some x) s (Gw.claimed x t) := by
  refine fun s₁ h₁ _ => ⟨pre_of_handles rfl nofun, fun _ _ => safe_issue cfg (.inl ⟨t, ?_, Function.update_self _ _ _⟩)⟩
  exact (h₁ x rfl).claim.trans h

theorem safe_retryToken (h : Settled s x) : Safe cfg (Served x) (some x) s (Gw.retryToken x) := by
  refine fun s₁ h₁ _ => ⟨pre_of_handles rfl nofun, fun _ _ => ?_⟩
  have hsettled := h.leaves (h₁ x rfl)
  show Safe cfg (Served x) (some x) s₁ (Gw.issueUnless x (s₁.tokenSent x))
  unfold Gw.issueUnless
  split
  · exact ⟨rfl, rfl, hsettled⟩
  · exact safe_issue cfg hsettled.ready

/-- After `MarkOnline` the row is claimed, or there is none. -/
theorem safe_markOnline {Q : Option Session → GwState → Except Err Unit → Prop} (skew : Int) {next : Except Err Int → Gw.GwM Unit}
    (hok : ∀ t s', s'.claim x = some t → Safe cfg Q (some x) s' (next (.ok t)))
    (herror : ∀ e s', NoRow s' x → Safe cfg Q (some x) s' (next (.error e))) :
    Safe cfg Q (some x) s (.exec (G := gwSig) (.markOnline x skew) next) := by
  refine Discipline.safe_exec (fun _ _ _ => pre_of_handles rfl nofun) fun s₁ r _ _ _ _ _ hrun => ?_
  cases hrow : s₁.agents.exists? (GwState.ofHost x.hostID) with
  | true =>
    cases (run_markOnline cfg skew hrow).symm.trans hrun
    exact hok _ _ (Function.update_self _ _ _)
  | false =>
    cases (run_markOnline_of_noRow cfg skew hrow).symm.trans hrun
    refine herror _ _ fun row hmem hhost => ?_
    have := Table.exists?_eq_false.1 hrow row hmem
    simp [GwState.ofHost, hhost] at this

theorem safe_touch (skew : Int) (h : Settled s x) : Safe cfg (Served x) (some x) s (Gw.touch x skew) := by
  refine fun s₁ h₁ _ => ⟨pre_of_handles rfl nofun, fun _ _ => ?_⟩
  have hsettled : Settled (((GwStmt.touch x skew).sem cfg).exec s₁) x :=
    (h.leaves (h₁ x rfl)).leaves (leaves_of_eq le_rfl (noRow_update rfl fun _ => rfl) id rfl rfl rfl)
  show Safe cfg (Served x) (some x) _ (Gw.reclaimUnless x skew (s₁.agents.exists? _) >>= Gw.afterTouch x)
  cases s₁.agents.exists? (HostAgentRow.touchable x.hostID cfg.instanceID) with
  | true => exact safe_retryToken cfg hsettled
  | false =>
    exact safe_markOnline cfg skew (fun t s' ht => safe_claimed cfg ht) fun e s' hrow => safe_retryToken cfg (.inr hrow)

theorem not_current_remove {r : Registry} (x : Session) : ¬ (r.remove x).current x := by
  by_cases hcurrent : r.current x
  · rw [Registry.current_iff, Registry.byAgent_remove hcurrent, if_pos rfl]
    exact fun h => by cases h
  · rw [Registry.remove_of_not_current hcurrent]
    exact hcurrent

theorem safe_remove (x : Session) (s : GwState) : Safe cfg Gone (some x) s (Gw.remove x) := by
  have hunlock {s : GwState} (h : ¬ s.registry.current x) : Safe cfg Gone (some x) s (Gw.unlockAfterRemove x) := by
    refine fun s₁ h₁ _ => ⟨pre_of_handles rfl nofun, fun _ _ y hy => ?_⟩
    cases hy
    exact fun hcurrent => h ((h₁ x rfl).current hcurrent)
  refine fun s₁ _ _ => ⟨pre_of_handles rfl nofun, fun _ _ => ?_⟩
  refine fun s₂ _ _ => ⟨pre_of_handles rfl nofun, fun _ _ => ?_⟩
  have hout : ¬ (s₂.remove x).registry.current x := not_current_remove x
  show Safe cfg Gone (some x) (s₂.remove x) (Gw.removed x (s₂.registry.current x))
  cases s₂.registry.current x with
  | true =>
    refine fun s₃ h₃ _ => ⟨pre_of_handles rfl nofun, fun _ _ => hunlock ?_⟩
    exact fun hcurrent => hout ((h₃ x rfl).current hcurrent)
  | false => exact hunlock hout

theorem pre_readMessage (h : Settled s x) : discipline.pre (some x) (.readMessage x) s :=
  ⟨fun _ hy => hy, fun y hy => by cases hy; exact h, nofun⟩

theorem safe_serve (fs : List Frame) (h : Settled s x) : Safe cfg Gone (some x) s (Gw.serve x fs) := by
  induction fs generalizing s with
  | nil => exact fun s₁ h₁ _ => ⟨pre_readMessage (h.leaves (h₁ x rfl)), fun _ _ => safe_remove cfg x s₁⟩
  | cons f fs ih =>
    refine fun s₁ h₁ _ => ⟨pre_readMessage (h.leaves (h₁ x rfl)), fun _ _ => ?_⟩
    have hsettled := h.leaves (h₁ x rfl)
    show Safe cfg Gone (some x) s₁ (Gw.handleFrame x f >>= fun _ => Gw.serve x fs)
    refine Discipline.Safe.bind (Q := Served x) ?_ (fun v s a hserved => ?_) fun v s e hserved => by cases hserved.1
    · cases f with
      | beat skew => exact safe_touch cfg skew hsettled
      | other => exact ⟨rfl, rfl, hsettled⟩
    · rw [hserved.2.1]
      exact ih hserved.2.2

theorem safe_open (x : Session) (skew : Int) (fs : List Frame) (s : GwState) :
    Safe cfg Gone (some x) s (Gw.add x skew >>= Gw.opened x fs) := by
  refine fun s₁ _ _ => ⟨pre_of_handles rfl nofun, fun _ _ => ?_⟩
  refine fun s₂ _ _ => ⟨pre_of_handles rfl nofun, fun _ _ => ?_⟩
  apply safe_markOnline cfg skew
  · refine fun t s₃ ht s₄ h₄ _ => ⟨pre_of_handles rfl nofun, fun _ _ => ?_⟩
    refine Discipline.Safe.bind (Q := Served x) (safe_claimed cfg ((h₄ x rfl).claim.trans ht)) (fun v s a hserved => ?_)
      fun v s e hserved => by cases hserved.1
    rw [hserved.2.1]
    exact safe_serve cfg fs hserved.2.2
  · refine fun e s₃ hrow s₄ h₄ _ => ⟨pre_of_handles rfl nofun, fun _ _ => ?_⟩
    exact safe_serve cfg fs (.inr ((h₄ x rfl).noRow hrow))

theorem safe_refresh (x : Session) (n : Nat) (s : GwState) : Safe cfg Gone none s (Gw.refreshSessionToken x n) := by
  induction n generalizing s with
  | zero => exact nofun
  | succ n ih =>
    refine Discipline.Safe.bind (Q := fun v _ r => v = none ∧ r = .ok ()) ?_ (fun v s a h => h.1 ▸ ih s) fun v s e h => by cases h.2
    refine fun s₁ _ _ => ⟨pre_of_none rfl nofun, fun _ _ => ?_⟩
    show Safe cfg _ none s₁ (Gw.mintFor x .refresher (s₁.epoch x))
    unfold Gw.mintFor
    split
    · exact ⟨rfl, rfl⟩
    · refine fun s₂ _ _ => ⟨pre_of_none rfl nofun, fun _ _ => ?_⟩
      refine fun s₃ _ _ => ⟨pre_of_none rfl nofun, fun _ _ => ?_⟩
      exact fun s₄ _ _ => ⟨pre_of_none rfl nofun, fun _ _ => ⟨rfl, rfl⟩⟩

theorem safe_channelProg (c : ChannelCall) (s : GwState) : Safe cfg Gone none s (channelProg c) := by
  cases c with
  | handleChannel a h w skew fs =>
    exact fun s₁ _ _ => ⟨⟨nofun, nofun, fun _ _ _ _ => rfl⟩, fun _ _ => safe_open cfg ⟨s₁.sessions, a, h, w⟩ skew fs _⟩
  | refreshSessionToken x n => exact safe_refresh cfg x n s
  | markStaleOffline => exact fun s₁ _ _ => ⟨pre_of_none rfl nofun, fun _ _ => nofun⟩
  | tick d => exact fun s₁ _ _ => ⟨pre_of_none rfl nofun, fun _ _ => nofun⟩

/-- No call is running: handlers wait for a frame. -/
def Quiet (st : Pool GwState gwSig Err Unit) : Prop := ∀ p ∈ st.threads, ∀ q ∈ p.next?, waits q

instance (st : Pool GwState gwSig Err Unit) : Decidable (Quiet st) :=
  inferInstanceAs (Decidable (∀ p ∈ st.threads, ∀ q ∈ p.next?, waits q))

/-- If no session claims the row of a host while another session that has claimed it is registered for
the host, and no token is sent with another epoch than its session has by then, then in every quiet
state the last token issued on the session registered for a host is valid for the host's row, if that is
online. -/
theorem epochs_agree (agents : Table HostAgentRow) (now : Clock) (es : List (Event ChannelCall))
    (h : Transition.Along (channelSystem cfg).step ((channelSystem cfg).Meets KeepsEpoch) (.init (.init agents now)) es) :
    ∀ st ∈ Transition.states (channelSystem cfg).step (.init (.init agents now)) es, Quiet st →
      ∀ host sess, st.store.registry.byHost host = some sess →
        ∀ row ∈ st.store.agents, row.hostID = host → row.status = .online →
          ∃ claims rest, st.store.tokens sess = claims :: rest ∧ claims.hostID = host ∧
            row.connectedAt = some claims.connEpoch ∧ sessionRowValid claims row := by
  intro st hst hquiet host sess hentry row hrow hhost honline
  have hinit : Stands (.init agents now) := by
    refine ⟨Registry.sound_empty, fun x hx => ?_, fun x t ht => ?_, fun h x t hx => ?_⟩
    · cases Registry.current_iff.1 hx
    · cases ht
    · cases hx
  have hgone (v : Option Session) (s s' : GwState) (r : Except Err Unit) (hv : Gone v s r) (hs : discipline.rely v s s') :
      Gone v s' r := fun x hx hcurrent => hv x hx ((hs x hx).current hcurrent)
  obtain ⟨hstands, ps, hps, hsafe, -, hheld⟩ := (sound_discipline cfg).forall_safe hgone (safe_channelProg cfg) hinit nofun h st hst
  obtain ⟨hsess, hcurrent⟩ := hstands.sound.byHost host sess hentry
  subst hsess
  obtain ⟨⟨p, v⟩, hp, hv⟩ := hheld sess hentry
  have hmem : p ∈ st.threads := hps ▸ List.mem_map_of_mem hp
  cases hv
  cases p with
  | done r => exact absurd (Registry.current_iff.2 hcurrent) ((hsafe _ hp).1 sess rfl)
  | exec q next =>
    -- the handler of the session waits for a frame
    have hwaits := hquiet _ hmem q rfl
    have hpre := (sound_discipline cfg).pre (hsafe _ hp).1 rfl hstands
    cases q with
    | readMessage x =>
      cases hpre.1 x rfl
      rcases hpre.2.1 sess rfl with ⟨⟨t, hclaimed⟩, claims, rest, htokens, hepoch, hclaims⟩ | hnorow
      · have hconnected := hstands.row _ _ t hentry hclaimed.claim row hrow hhost
        rw [hclaimed.epoch] at hepoch
        refine ⟨claims, rest, htokens, hclaims, by rw [hepoch, hconnected], ?_⟩
        simp [sessionRowValid, honline, hconnected, hepoch]
      · exact absurd hhost (hnorow row hrow)
    | _ => cases hwaits

end Programs

/-! Two agents at once, and a renewal at the wrong time. -/

def steps (n k : Nat) : List (Event ChannelCall) := List.replicate k (.step n)

def connect (agentID : String) : List (Event ChannelCall) := [.call (.handleChannel agentID 1 "1.0" 0 [.beat 0])]

def later (n d : Nat) : List (Event ChannelCall) := [.call (.tick d), .step n]

def sweep (n : Nat) : List (Event ChannelCall) := [.call .markStaleOffline, .step n]

def renew (sess : Session) : List (Event ChannelCall) := [.call (.refreshSessionToken sess 1)]

def heartbeatOfA : List (Event ChannelCall) := connect "agent-a" ++ steps 0 13

theorem epoch_kept :
    Transition.Along (channelSystem oneInstance).step ((channelSystem oneInstance).Meets KeepsEpoch)
        (.init (.init twoHosts noon)) heartbeatOfA ∧
      (∀ st ∈ Transition.states (channelSystem oneInstance).step (.init (.init twoHosts noon)) heartbeatOfA, Quiet st →
        ∀ host sess, st.store.registry.byHost host = some sess →
          ∀ row ∈ st.store.agents, row.hostID = host → row.status = .online →
            ∃ claims rest, st.store.tokens sess = claims :: rest ∧ claims.hostID = host ∧
              row.connectedAt = some claims.connEpoch ∧ sessionRowValid claims row) ∧
      let st := Transition.run (channelSystem oneInstance).step (.init (.init twoHosts noon)) heartbeatOfA
      Quiet st ∧ st.store.registry.byHost 1 = some sessionA := by
  have h : Transition.Along (channelSystem oneInstance).step ((channelSystem oneInstance).Meets KeepsEpoch)
      (.init (.init twoHosts noon)) heartbeatOfA := by decide
  exact ⟨h, epochs_agree oneInstance twoHosts noon _ h, by decide⟩

/-- Agent A is registered, then agent B connects, and a second later agent A claims the row. -/
def connectBoth : List (Event ChannelCall) :=
  connect "agent-a" ++ steps 0 3 ++ connect "agent-b" ++ steps 1 10 ++ later 2 1000000 ++ steps 0 7

/-- The renewal has read its epoch. Then a sweep marks the row offline, the heartbeat claims it again,
and the renewal goes on. -/
def renewLate : List (Event ChannelCall) :=
  connect "agent-a" ++ steps 0 10 ++ renew sessionA ++ steps 1 1 ++ later 2 120000000 ++ sweep 3 ++ steps 0 8 ++ steps 1 3

/-- The row is online in the end, and the last token of the session registered for the host is not valid
for it. -/
theorem epoch_lost :
    let both := Transition.run (channelSystem oneInstance).step (.init (.init twoHosts noon)) connectBoth
    let late := Transition.run (channelSystem oneInstance).step (.init (.init twoHosts noon)) renewLate
    (Quiet both ∧ both.store.registry.byHost 1 = some sessionB ∧
      (both.store.agents.get? 1).map (fun r => (r.status, r.connectedAt)) = some (.online, some 43201000000) ∧
      (both.store.tokens sessionB).map SessionClaims.connEpoch = [43200000000]) ∧
    Quiet late ∧ late.store.registry.byHost 1 = some sessionA ∧
      (late.store.agents.get? 1).map (fun r => (r.status, r.connectedAt)) = some (.online, some 43320000000) ∧
      (late.store.tokens sessionA).map SessionClaims.connEpoch = [43200000000, 43320000000, 43200000000] := by
  decide

end Epoch

end Vraxel.AgentGw
