import Mathlib.Data.List.Basic
/-
  Runs of a deterministic transition system.

  A failing operation is one that returns the state it was given. `states` lists every state a run
  passes through, the first one included, and `Along C` says that every action meets the condition
  `C` in the state in which it is taken.
-/

namespace Transition

variable {S A : Type} (step : S → A → S)

def run (s : S) : List A → S
  | [] => s
  | a :: as => run (step s a) as

def states (s : S) : List A → List S
  | [] => [s]
  | a :: as => s :: states (step s a) as

/-- Every action of the run meets `C` in the state in which it is taken. -/
def Along (C : S → A → Prop) (s : S) : List A → Prop
  | [] => True
  | a :: as => C s a ∧ Along C (step s a) as

instance decidableAlong (C : S → A → Prop) [∀ s a, Decidable (C s a)] :
    (s : S) → (as : List A) → Decidable (Along step C s as)
  | _, [] => .isTrue trivial
  | s, a :: as =>
    have := decidableAlong C (step s a) as
    inferInstanceAs (Decidable (C s a ∧ Along step C (step s a) as))

variable (s : S) {as : List A}

@[simp] theorem run_nil : run step s [] = s := rfl

@[simp] theorem run_cons (a : A) (as : List A) :
    run step s (a :: as) = run step (step s a) as := rfl

@[simp] theorem along_nil (C : S → A → Prop) (s : S) : Along step C s [] := trivial

@[simp] theorem along_cons (C : S → A → Prop) (s : S) (a : A) (as : List A) :
    Along step C s (a :: as) ↔ C s a ∧ Along step C (step s a) as := Iff.rfl

variable {step} in
theorem along_of_forall {C : S → A → Prop} (h : ∀ s a, C s a) {s : S} : Along step C s as := by
  induction as generalizing s with
  | nil => exact trivial
  | cons a as ih => exact ⟨h s a, ih⟩

variable {step} in
theorem Along.mono {C C' : S → A → Prop} (h : ∀ s a, C s a → C' s a) {s : S}
    (has : Along step C s as) : Along step C' s as := by
  induction as generalizing s with
  | nil => exact trivial
  | cons a as ih => exact ⟨h s a has.1, ih has.2⟩

variable {step} in
theorem Along.and {C C' : S → A → Prop} {s : S} (h : Along step C s as) (h' : Along step C' s as) :
    Along step (fun s a => C s a ∧ C' s a) s as := by
  induction as generalizing s with
  | nil => exact trivial
  | cons a as ih => exact ⟨⟨h.1, h'.1⟩, ih h.2 h'.2⟩

theorem along_of_mem {P : A → Prop} {s : S} (h : ∀ a ∈ as, P a) : Along step (fun _ a => P a) s as := by
  induction as generalizing s with
  | nil => exact trivial
  | cons a as ih => exact ⟨h a List.mem_cons_self, ih fun b hb => h b (List.mem_cons_of_mem a hb)⟩

theorem head_mem_states (as : List A) : s ∈ states step s as := by
  cases as <;> simp [states]

theorem run_mem_states (as : List A) : run step s as ∈ states step s as := by
  induction as generalizing s with
  | nil => simp [states]
  | cons a as ih => exact List.mem_cons_of_mem s (ih (step s a))

section Rules

variable {step} {Inv : S → Prop} {C : S → A → Prop}

variable {s : S}

theorem forall_states_of_step (hstep : ∀ s a, Inv s → Inv (step s a)) (hs : Inv s)
    (as : List A) : ∀ s' ∈ states step s as, Inv s' := by
  induction as generalizing s with
  | nil => simpa [states] using hs
  | cons a as ih =>
    intro s' hs'
    rcases List.mem_cons.1 hs' with rfl | hs'
    · exact hs
    · exact ih (hstep s a hs) s' hs'

/-- What every step that meets the condition keeps holds in every state of a run
whose steps all meet it. -/
theorem forall_states_of_along (hstep : ∀ s a, Inv s → C s a → Inv (step s a)) (hs : Inv s)
    {as : List A} (has : Along step C s as) : ∀ s' ∈ states step s as, Inv s' := by
  induction as generalizing s with
  | nil => simpa [states] using hs
  | cons a as ih =>
    intro s' hs'
    rcases List.mem_cons.1 hs' with rfl | hs'
    · exact hs
    · exact ih (hstep s a hs has.1) has.2 s' hs'

/-- If a step between two states with a property meets the condition, the steps of a run all of whose
states have the property meet it. -/
theorem along_of_states (hstep : ∀ s a, Inv s → Inv (step s a) → C s a) {as : List A}
    (h : ∀ s' ∈ states step s as, Inv s') : Along step C s as := by
  induction as generalizing s with
  | nil => exact trivial
  | cons a as ih =>
    have hrest : ∀ s' ∈ states step (step s a) as, Inv s' := fun s' hs' => h s' (List.mem_cons_of_mem s hs')
    exact ⟨hstep s a (h s (head_mem_states step s (a :: as))) (hrest _ (head_mem_states step (step s a) as)), ih hrest⟩

theorem run_inv_of_step (hstep : ∀ s a, Inv s → Inv (step s a)) (hs : Inv s) (as : List A) :
    Inv (run step s as) :=
  forall_states_of_step hstep hs as _ (run_mem_states step s as)

/-- Where a step from a good state is good exactly if it meets the condition,
a run is good throughout exactly if all of its steps meet it. `Q` is what
every step keeps and the argument about one step may use. -/
theorem forall_states_iff {Q : S → Prop} (hsound : ∀ s a, Q s → Q (step s a))
    (hstep : ∀ s a, Q s → Inv s → (Inv (step s a) ↔ C s a)) (hs : Q s) (hi : Inv s)
    (as : List A) : (∀ s' ∈ states step s as, Inv s') ↔ Along step C s as := by
  induction as generalizing s with
  | nil => simpa [states] using hi
  | cons a as ih =>
    have hmem : step s a ∈ states step (step s a) as := head_mem_states step (step s a) as
    constructor
    · intro h
      -- the state after `a` is one of the run's states, so `a` met the condition
      have hnext : Inv (step s a) := h _ (List.mem_cons_of_mem s hmem)
      exact ⟨(hstep s a hs hi).1 hnext,
        (ih (hsound s a hs) hnext).1 fun s' hs' => h s' (List.mem_cons_of_mem s hs')⟩
    · rintro ⟨hc, hrest⟩ s' hs'
      rcases List.mem_cons.1 hs' with rfl | hs'
      · exact hi
      · exact (ih (hsound s a hs) ((hstep s a hs hi).2 hc)).2 hrest s' hs'

/-- If an invariant that the steps which meet the condition keep makes a state good, and a step from it
to a good state meets the condition, then a run is good throughout exactly if all of its steps meet it.
`D` is what the actions of the run have in common. -/
theorem forall_states_iff_of_inv {Good : S → Prop} {D : A → Prop} (hgood : ∀ s, Inv s → Good s)
    (hstep : ∀ s a, Inv s → D a → C s a → Inv (step s a)) (hmeets : ∀ s a, Inv s → D a → Good (step s a) → C s a) (hs : Inv s) {as : List A} (hD : ∀ a ∈ as, D a) : (∀ s' ∈ states step s as, Good s') ↔ Along step C s as := by
  induction as generalizing s with
  | nil => simpa [states] using hgood s hs
  | cons a as ih =>
    have hDa := hD a List.mem_cons_self
    have hDas : ∀ b ∈ as, D b := fun b hb => hD b (List.mem_cons_of_mem a hb)
    constructor
    · intro h
      have hc := hmeets s a hs hDa (h _ (List.mem_cons_of_mem s (head_mem_states step (step s a) as)))
      exact ⟨hc, (ih (hstep s a hs hDa hc) hDas).1 fun s' hs' => h s' (List.mem_cons_of_mem s hs')⟩
    · intro ⟨hc, hrest⟩ s' hs'
      rcases List.mem_cons.1 hs' with rfl | hs'
      · exact hgood s' hs
      · exact (ih (hstep s a hs hDa hc) hDas).2 hrest s' hs'

end Rules

end Transition
