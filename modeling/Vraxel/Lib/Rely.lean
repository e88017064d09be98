import Vraxel.Lib.Interleave
/-
  Programs beside others, by rely and guarantee.

  A program of a pool owns a token or none. What the others do between two of its statements
  is bounded by `rely`; in return every statement is executed where `pre` says so. `Safe` is the
  weakest precondition of a program under such interference.
-/

namespace Interleave

open Txn Transition

/-- What a statement and its answer make of the token, which tokens are owned in a state, what the others
keep for the owner of one, and where a statement is executed. -/
structure Discipline (S : Type) (G : Sig) (E K : Type) where
  take : (q : G.Stmt) → Except E (G.Ans q) → Option K → Option K
  owned : S → K → Prop
  rely : Option K → S → S → Prop
  pre : Option K → G.Stmt → S → Prop

namespace Discipline

variable {S : Type} {G : Sig} {E K C α β : Type} (d : Discipline S G E K) (sys : System S G E α C)
  (I : S → Prop) (P : G.Stmt → S → Prop)

/-- From this state on, whatever the others do: every statement of the program is executed where it may be,
and at the end `Q` holds. -/
def Safe (Q : Option K → S → Except E β → Prop) : Option K → S → Prog G E β → Prop
  | v, s, .done r => Q v s r
  | v, s, .exec q next => ∀ s', d.rely v s s' → I s' → d.pre v q s' ∧ (sys.ready q s' → P q s' →
      Safe Q (d.take q ((sys.sem q).result s') v) ((sys.sem q).exec s') (next ((sys.sem q).result s')))

/-- The rules that make a discipline sound; `need` are the tokens that some program has to own. -/
structure Sound (need : S → K → Prop) : Prop where
  refl : ∀ v s, d.rely v s s
  trans : ∀ v s s' s'', d.rely v s s' → d.rely v s' s'' → d.rely v s s''
  owned : ∀ k s s', d.rely (some k) s s' → d.owned s k → d.owned s' k
  inv : ∀ q s v, I s → d.pre v q s → sys.ready q s → P q s → (∀ k, v = some k → d.owned s k) → I ((sys.sem q).exec s)
  take : ∀ q s v k, I s → d.pre v q s → sys.ready q s → P q s → (∀ k, v = some k → d.owned s k) →
    d.take q ((sys.sem q).result s) v = some k → d.owned ((sys.sem q).exec s) k ∧ (v = some k ∨ ¬ d.owned s k)
  others : ∀ q s v v', I s → d.pre v q s → sys.ready q s → P q s → (∀ k, v = some k → v' ≠ some k) →
    d.rely v' s ((sys.sem q).exec s)
  need : ∀ q s v k, I s → d.pre v q s → sys.ready q s → P q s → need ((sys.sem q).exec s) k →
    d.take q ((sys.sem q).result s) v = some k ∨ need s k ∧ v ≠ some k

variable {d sys I P} {need : S → K → Prop} {Q : Option K → S → Except E β → Prop} {v : Option K} {s s' : S}

variable {p : Prog G E β}

theorem Safe.bind {γ : Type} {Q' : Option K → S → Except E γ → Prop} {f : β → Prog G E γ} (h : d.Safe sys I P Q v s p)
    (hok : ∀ v s a, Q v s (.ok a) → d.Safe sys I P Q' v s (f a)) (herror : ∀ v s e, Q v s (.error e) → Q' v s (.error e)) :
    d.Safe sys I P Q' v s (p >>= f) := by
  induction p generalizing v s with
  | done r =>
    cases r with
    | ok a => exact hok v s a h
    | error e => exact herror v s e h
  | exec q next ih =>
    intro s' hs' hI
    obtain ⟨hpre, hnext⟩ := h s' hs' hI
    exact ⟨hpre, fun hready hP => ih _ (hnext hready hP)⟩

theorem Safe.attempt (h : d.Safe sys I P Q v s p) :
    d.Safe sys I P (fun v s r => ∃ r', r = .ok r' ∧ Q v s r') v s p.attempt := by
  induction p generalizing v s with
  | done r => exact ⟨r, rfl, h⟩
  | exec q next ih =>
    intro s' hs' hI
    obtain ⟨hpre, hnext⟩ := h s' hs' hI
    exact ⟨hpre, fun hready hP => ih _ (hnext hready hP)⟩

/-- The next statement, with its answer. -/
theorem safe_exec {q : G.Stmt} {next : Except E (G.Ans q) → Prog G E β} (hpre : ∀ s', d.rely v s s' → I s' → d.pre v q s')
    (h : ∀ s' r s'', d.rely v s s' → I s' → sys.ready q s' → P q s' → (sys.sem q).run s' = (r, s'') →
      d.Safe sys I P Q (d.take q r v) s'' (next r)) : d.Safe sys I P Q v s (.exec q next) :=
  fun s' hs' hI => ⟨hpre s' hs' hI, fun hready hP => h s' _ _ hs' hI hready hP rfl⟩

theorem Sound.safe (hd : d.Sound sys I P need) (hQ : ∀ v s s' r, Q v s r → d.rely v s s' → Q v s' r)
    (h : d.Safe sys I P Q v s p) (hs : d.rely v s s') : d.Safe sys I P Q v s' p := by
  cases p with
  | done r => exact hQ v s s' r h hs
  | exec q next => exact fun s'' hs'' hI => h s'' (hd.trans v s s' s'' hs hs'') hI

theorem Sound.pre (hd : d.Sound sys I P need) {q : G.Stmt} (h : d.Safe sys I P Q v s p)
    (hq : p.next? = some q) (hs : I s) : d.pre v q s := by
  cases p with
  | done r => cases hq
  | exec q' next =>
    cases hq
    exact (h s (hd.refl v s) hs).1

/-- In a run of safe programs the invariant holds, every program is safe with a token of its own, and
every token that is needed is owned. -/
theorem Sound.forall_safe (hd : d.Sound sys I P need) {Q : Option K → S → Except E α → Prop}
    (hQ : ∀ v s s' r, Q v s r → d.rely v s s' → Q v s' r) (hcall : ∀ c s, d.Safe sys I P Q none s (sys.prog c))
    (hs : I s) (hnone : ∀ k, ¬ need s k) {es : List (Event C)} (hes : Along sys.step (sys.Meets P) (.init s) es) :
    ∀ st ∈ states sys.step (.init s) es, I st.store ∧ ∃ ps : List (Prog G E α × Option K), ps.map Prod.fst = st.threads ∧
      (∀ x ∈ ps, d.Safe sys I P Q x.2 st.store x.1 ∧ ∀ k, x.2 = some k → d.owned st.store k) ∧ Separate Prod.snd ps ∧
      ∀ k, need st.store k → ∃ x ∈ ps, x.2 = some k := by
  refine forall_states_of_along ?_ ⟨hs, [], rfl, by simp, fun i j a a' v hi => by simp at hi, fun k hk => absurd hk (hnone k)⟩ hes
  intro st e ⟨hI, ps, hps, hsafe, hsep, hheld⟩ hmeets
  cases e with
  | call c =>
    refine ⟨hI, ps ++ [(sys.prog c, none)], by simp [hps, System.step], ?_, separate_append hsep rfl, fun k hk => ?_⟩
    · exact forall_mem_concat hsafe ⟨hcall c st.store, fun k hk => by cases hk⟩
    · obtain ⟨x, hx, hk⟩ := hheld k hk
      exact ⟨x, List.mem_append_left _ hx, hk⟩
  | step i =>
    rcases sys.step_cases st i with heq | ⟨q, next, hthread, hready, hq, heq⟩
    · rw [heq]
      exact ⟨hI, ps, hps, hsafe, hsep, hheld⟩
    · rw [← hps, List.getElem?_map, Option.map_eq_some_iff] at hthread
      obtain ⟨⟨p, v⟩, hx, hp⟩ := hthread
      subst hp
      have hP := hmeets q hq
      obtain ⟨hself, howned⟩ := hsafe _ (List.mem_of_getElem? hx)
      obtain ⟨hpre, hnext⟩ := hself st.store (hd.refl v st.store) hI
      have htake := fun k => hd.take q st.store v k hI hpre hready hP howned
      rw [heq]
      refine ⟨hd.inv q _ v hI hpre hready hP howned, ps.set i (next _, d.take q ((sys.sem q).result st.store) v), by rw [List.map_set, hps], ?_, ?_, ?_⟩
      · refine forall_mem_set ⟨hnext hready hP, fun k hk => (htake k hk).1⟩ fun j y hij hj => ?_
        -- the others rely on what this statement keeps
        have hrely := hd.others q st.store v y.2 hI hpre hready hP fun k hk hk' => hij (hsep i j _ y k hx hj hk hk')
        obtain ⟨hy, hyowned⟩ := hsafe y (List.mem_of_getElem? hj)
        refine ⟨hd.safe hQ hy hrely, fun k hk => ?_⟩
        rw [hk] at hrely
        exact hd.owned k _ _ hrely (hyowned k hk)
      · exact separate_set hsep hx fun k hk => (htake k hk).2.imp id fun hfree y hy hyk => hfree ((hsafe y hy).2 k hyk)
      · exact held_set hheld hx fun k hk => hd.need q st.store v k hI hpre hready hP hk

end Discipline

end Interleave
