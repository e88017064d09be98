import Vraxel.Lib.Interleave
/-
  Programs that follow a protocol: which statements a program may execute in a phase, and which phase
  an answer leads to, whatever the answers are. In a pool whose programs follow a protocol an
  argument about the store needs to look at the phases only.
-/

namespace Interleave

open Txn Transition

/-- What may be executed in a phase, and the phase after an answer. -/
structure Protocol (G : Sig) (E K : Type) where
  allows : G.Stmt → K → Prop
  next : (q : G.Stmt) → Except E (G.Ans q) → K → K

namespace Protocol

variable {G : Sig} {S E C K V α β : Type} (pr : Protocol G E K)

/-- From the phase `k` the program keeps to the protocol, and `Q` holds of the phase and the
result at its end. -/
def Follows (Q : K → Except E α → Prop) : K → Prog G E α → Prop
  | k, .done r => Q k r
  | k, .exec q next => pr.allows q k ∧ ∀ r, Follows Q (pr.next q r k) (next r)

section Composition

variable {pr} {k : K} {Q : K → Except E α → Prop} {Q' : K → Except E β → Prop}

variable {p : Prog G E α}

theorem Follows.mono {Q₁ : K → Except E α → Prop} (h : pr.Follows Q k p)
    (hq : ∀ k r, Q k r → Q₁ k r) : pr.Follows Q₁ k p := by
  induction p generalizing k with
  | done r => exact hq k r h
  | exec q next ih => exact ⟨h.1, fun r => ih r (h.2 r)⟩

theorem Follows.bind {f : α → Prog G E β} (h : pr.Follows Q k p)
    (hok : ∀ k a, Q k (.ok a) → pr.Follows Q' k (f a)) (herror : ∀ k e, Q k (.error e) → Q' k (.error e)) :
    pr.Follows Q' k (p >>= f) := by
  induction p generalizing k with
  | done r =>
    cases r with
    | ok a => exact hok k a h
    | error e => exact herror k e h
  | exec q next ih => exact ⟨h.1, fun r => ih r (h.2 r)⟩

theorem Follows.mapErr (g : E → E) (h : pr.Follows Q k p) :
    pr.Follows (fun k r => ∃ r', r = r'.mapError g ∧ Q k r') k (p.mapErr g) := by
  induction p generalizing k with
  | done r => exact ⟨r, rfl, h⟩
  | exec q next ih => exact ⟨h.1, fun r => ih r (h.2 r)⟩

theorem Follows.attempt (h : pr.Follows Q k p) :
    pr.Follows (fun k r => ∃ r', r = .ok r' ∧ Q k r') k p.attempt := by
  induction p generalizing k with
  | done r => exact ⟨r, rfl, h⟩
  | exec q next ih => exact ⟨h.1, fun r => ih r (h.2 r)⟩

end Composition

/-- Each program follows the protocol from its phase. -/
def Tracks (Q : K → Except E α → Prop) (threads : List (Prog G E α)) (ks : List K) : Prop :=
  ∃ ps : List (Prog G E α × K), ps.map Prod.fst = threads ∧ ps.map Prod.snd = ks ∧ ∀ x ∈ ps, pr.Follows Q x.2 x.1

section Tracks

variable {pr} {Q : K → Except E α → Prop} {threads : List (Prog G E α)} {ks : List K}

theorem tracks_nil : pr.Tracks Q ([] : List (Prog G E α)) [] := ⟨[], rfl, rfl, by simp⟩

variable (h : pr.Tracks Q threads ks)

include h

theorem Tracks.append {p : Prog G E α} {k : K} (hp : pr.Follows Q k p) :
    pr.Tracks Q (threads ++ [p]) (ks ++ [k]) := by
  obtain ⟨ps, rfl, rfl, hall⟩ := h
  exact ⟨ps ++ [(p, k)], by simp, by simp, forall_mem_concat hall hp⟩

theorem Tracks.get {i : Nat} {p : Prog G E α} (hi : threads[i]? = some p) :
    ∃ k, ks[i]? = some k ∧ pr.Follows Q k p := by
  obtain ⟨ps, rfl, rfl, hall⟩ := h
  rw [List.getElem?_map, Option.map_eq_some_iff] at hi
  obtain ⟨x, hx, rfl⟩ := hi
  refine ⟨x.2, ?_, hall x (List.mem_of_getElem? hx)⟩
  rw [List.getElem?_map, hx, Option.map_some]

theorem Tracks.set (i : Nat) {p : Prog G E α} {k : K} (hp : pr.Follows Q k p) :
    pr.Tracks Q (threads.set i p) (ks.set i k) := by
  obtain ⟨ps, rfl, rfl, hall⟩ := h
  refine ⟨ps.set i (p, k), by rw [List.map_set], by rw [List.map_set], ?_⟩
  exact forall_mem_set hp fun j x _ hj => hall x (List.mem_of_getElem? hj)

theorem Tracks.of_mem {k : K} (hk : k ∈ ks) : ∃ p ∈ threads, pr.Follows Q k p := by
  obtain ⟨ps, rfl, rfl, hall⟩ := h
  obtain ⟨x, hx, rfl⟩ := List.mem_map.1 hk
  exact ⟨x.1, List.mem_map_of_mem hx, hall x hx⟩

theorem ends_of_done (hdone : ∀ p ∈ threads, p.next? = none) :
    ∀ k ∈ ks, ∃ r, Q k r := by
  intro k hk
  obtain ⟨p, hp, hfollows⟩ := h.of_mem hk
  cases p with
  | done r => exact ⟨r, hfollows⟩
  | exec q next =>
    have hend := hdone _ hp
    cases hend

end Tracks

section Runs

variable (sys : System S G E α C) {Q : K → Except E α → Prop} {start : C → K} {P : G.Stmt → S → Prop} {D : C → Prop}

variable {es : List (Event C)}

/-- A run of programs that follow the protocol is a run of their phases. The calls of the
run meet `D`, and its statements `P`. -/
theorem forall_tracked {J : S → List K → Prop} (hprog : ∀ c, pr.Follows Q (start c) (sys.prog c))
    (hcall : ∀ c s ks, D c → J s ks → J s (ks ++ [start c]))
    (hstep : ∀ q s ks i k, J s ks → ks[i]? = some k → pr.allows q k → sys.ready q s → P q s →
      J ((sys.sem q).exec s) (ks.set i (pr.next q ((sys.sem q).result s) k)))
    {s : S} (hs : J s []) (hcalls : ∀ c, .call c ∈ es → D c)
    (hes : Along sys.step (sys.Meets P) (.init s) es) :
    ∀ st ∈ states sys.step (.init s) es, ∃ ks, pr.Tracks Q st.threads ks ∧ J st.store ks := by
  have hmem : ∀ e ∈ es, ∀ c, e = .call c → D c := by
    rintro e he c rfl
    exact hcalls c he
  refine forall_states_of_along ?_ ⟨[], tracks_nil, hs⟩ (hes.and (along_of_mem sys.step hmem))
  intro st e ⟨ks, htracks, hJ⟩ ⟨hmeets, hD⟩
  cases e with
  | call c => exact ⟨ks ++ [start c], htracks.append (hprog c), hcall c st.store ks (hD c rfl) hJ⟩
  | step i =>
    rcases sys.step_cases st i with heq | ⟨q, next, hthread, hready, hq, heq⟩
    · rw [heq]
      exact ⟨ks, htracks, hJ⟩
    · obtain ⟨k, hk, hallows, hnext⟩ := htracks.get hthread
      rw [heq]
      exact ⟨_, htracks.set i (hnext _), hstep q st.store ks i k hJ hk hallows hready (hmeets q hq)⟩

/-- An invariant `I` of the store and an assertion `R` about each phase. A step takes them to the next
ones, what its phase comes to own was nobody's, and it leaves the assertions about the phases that own
something else. -/
theorem forall_phases (own : K → Option V) {I : S → Prop} {R : S → K → Prop}
    (hprog : ∀ c, pr.Follows Q (start c) (sys.prog c))
    (hcall : ∀ c s, D c → I s → R s (start c) ∧ own (start c) = none)
    (hown : ∀ q s k, I s → R s k → pr.allows q k → sys.ready q s → P q s →
      I ((sys.sem q).exec s) ∧ R ((sys.sem q).exec s) (pr.next q ((sys.sem q).result s) k) ∧
        ∀ v, own (pr.next q ((sys.sem q).result s) k) = some v → own k = some v ∨ ∀ k', R s k' → own k' ≠ some v)
    (hothers : ∀ q s k k', I s → R s k → pr.allows q k → R s k' → sys.ready q s → P q s →
      (∀ v, own k = some v → own k' ≠ some v) → R ((sys.sem q).exec s) k')
    {s : S} (hs : I s) (hcalls : ∀ c, .call c ∈ es → D c)
    (hes : Along sys.step (sys.Meets P) (.init s) es) :
    ∀ st ∈ states sys.step (.init s) es, I st.store ∧
      ∃ ks, pr.Tracks Q st.threads ks ∧ (∀ k ∈ ks, R st.store k) ∧ Separate own ks := by
  have hall := forall_tracked pr sys (J := fun s ks => I s ∧ (∀ k ∈ ks, R s k) ∧ Separate own ks) hprog ?_ ?_
    ⟨hs, by simp, fun i j k k' v hi => by simp at hi⟩ hcalls hes
  · intro st hst
    obtain ⟨ks, htracks, hI, hrest⟩ := hall st hst
    exact ⟨hI, ks, htracks, hrest⟩
  · intro c s ks hD ⟨hI, hR, hsep⟩
    obtain ⟨hnew, hnew'⟩ := hcall c s hD hI
    exact ⟨hI, forall_mem_concat hR hnew, separate_append hsep hnew'⟩
  · intro q s ks i k ⟨hI, hR, hsep⟩ hi hallows hready hP
    have hRk := hR k (List.mem_of_getElem? hi)
    obtain ⟨hI', hR', hfresh⟩ := hown q s k hI hRk hallows hready hP
    refine ⟨hI', forall_mem_set hR' ?_, separate_set hsep hi ?_⟩
    · intro j k' hij hj
      apply hothers q s k k' hI hRk hallows (hR k' (List.mem_of_getElem? hj)) hready hP
      intro v hv hv'
      exact hij (hsep i j k k' v hi hj hv hv')
    · intro v hv
      exact (hfresh v hv).imp id fun h k'' hk'' => h k'' (hR k'' hk'')

/-- What the store needs is held by a phase, if a step that comes by a need holds it and a step from a
phase that holds one passes it on or meets it. -/
theorem forall_needs (tok : K → Option V) {need : S → V → Prop} (hprog : ∀ c, pr.Follows Q (start c) (sys.prog c))
    (hstep : ∀ q s k, pr.allows q k → sys.ready q s → P q s → ∀ v, need ((sys.sem q).exec s) v →
      tok (pr.next q ((sys.sem q).result s) k) = some v ∨ need s v ∧ tok k ≠ some v)
    {s : S} (hs : ∀ v, ¬ need s v) (hcalls : ∀ c, .call c ∈ es → D c)
    (hes : Along sys.step (sys.Meets P) (.init s) es) :
    ∀ st ∈ states sys.step (.init s) es,
      ∃ ks, pr.Tracks Q st.threads ks ∧ ∀ v, need st.store v → ∃ k ∈ ks, tok k = some v := by
  refine forall_tracked pr sys (J := fun s ks => ∀ v, need s v → ∃ k ∈ ks, tok k = some v) hprog ?_ ?_
    (fun v hv => absurd hv (hs v)) hcalls hes
  · intro c s ks _ hheld v hv
    obtain ⟨k, hk, htok⟩ := hheld v hv
    exact ⟨k, List.mem_append_left _ hk, htok⟩
  · intro q s ks i k hheld hi hallows hready hP
    exact held_set hheld hi (hstep q s k hallows hready hP)

end Runs

end Protocol

end Interleave
