import Mathlib.Data.Nat.Basic
/-
  What a system cannot but come to.

  A system moves by steps of its own and by steps of its environment. `Inevitable own env P s`: from
  `s` the system comes to a state in which `P` holds, however the two kinds of steps are interleaved,
  if it goes on as long as it has a step of its own; the environment is not relied upon.
-/

namespace Progress

variable {S : Type} (own env : S → S → Prop)

inductive Inevitable (P : S → Prop) : S → Prop
  | now {s : S} (h : P s) : Inevitable P s
  | next {s : S} (hown : ∃ t, own s t) (hnext : ∀ t, own s t ∨ env s t → Inevitable P t) : Inevitable P s

variable {own env} {P : S → Prop}

theorem inevitable_of_measure {I : S → Prop} (μ : S → Nat) (hgo : ∀ s, I s → ¬ P s → ∃ t, own s t)
    (hkeep : ∀ s t, I s → own s t ∨ env s t → I t) (hless : ∀ s t, I s → own s t ∨ env s t → μ t < μ s) {s : S} (hs : I s) :
    Inevitable own env P s := by
  induction hn : μ s using Nat.strong_induction_on generalizing s with
  | _ n ih =>
    by_cases hP : P s
    · exact .now hP
    · refine .next (hgo s hs hP) fun t ht => ?_
      exact ih (μ t) (hn ▸ hless s t hs ht) (hkeep s t hs ht) rfl

theorem not_inevitable_of_trap {T : S → Prop} (hnot : ∀ s, T s → ¬ P s) (hstay : ∀ s t, T s → own s t → T t) {s : S} (hs : T s) :
    ¬ Inevitable own env P s := by
  intro h
  induction h with
  | now h => exact hnot _ hs h
  | next hown _ ih =>
    obtain ⟨t, ht⟩ := hown
    exact ih t (Or.inl ht) (hstay _ t hs ht)

end Progress
