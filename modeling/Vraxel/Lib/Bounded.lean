import Mathlib.Order.Defs.PartialOrder
/-
  Computations that may not have come to an end.

  An action `Act S α` runs on a state of `S` and either is done, with a value, or is still
  pending when the bound that it was given is used up; the state it has reached is there in both
  cases. `bind` goes on with the value and leaves a pending action as it is.
-/

namespace Bounded

inductive Res (α : Type) where
  | pending
  | done (a : α)

abbrev Act (S α : Type) := S → Res α × S

namespace Act

variable {S α : Type}

def pure (a : α) : Act S α := fun s => (.done a, s)

def bind (m : Act S α) (k : α → Act S α) : Act S α := fun s =>
  match m s with
  | (.pending, s) => (.pending, s)
  | (.done a, s) => k a s

theorem bind_pending {m : Act S α} {s t : S} (h : m s = (.pending, t)) (k : α → Act S α) :
    m.bind k s = (.pending, t) := by
  simp [bind, h]

theorem bind_done {m : Act S α} {s t : S} {a : α} (h : m s = (.done a, t)) (k : α → Act S α) :
    m.bind k s = k a t := by
  simp [bind, h]

theorem bind_cases {m : Act S α} {k : α → Act S α} {s : S} {P : Res α × S → Prop}
    (hpending : ∀ t, m s = (.pending, t) → P (.pending, t))
    (hdone : ∀ a t, m s = (.done a, t) → P (k a t)) : P (m.bind k s) := by
  rcases hm : m s with ⟨r, t⟩
  cases r with
  | pending =>
    rw [bind_pending hm]
    exact hpending t hm
  | done a =>
    rw [bind_done hm]
    exact hdone a t hm

end Act

/-- The relation is respected by the ways to put actions together. -/
structure Congr {S α : Type} (R : Act S α → Act S α → Prop) : Prop where
  pure : ∀ a, R (.pure a) (.pure a)
  bind : ∀ {m m' : Act S α} {k k' : α → Act S α}, R m m' → (∀ a, R (k a) (k' a)) → R (m.bind k) (m'.bind k')

section Relations

variable {S α : Type}

def Ends (m _m' : Act S α) : Prop := ∀ s, (m s).1 ≠ .pending

theorem congr_ends : Congr (Ends (S := S) (α := α)) where
  pure a s := nofun
  bind := by
    intro m m' k k' hm hk s
    refine Act.bind_cases (P := fun x => x.1 ≠ .pending) ?_ ?_
    · intro t ht _
      exact hm s (by rw [ht])
    · intro a t _
      exact hk a t

def Keeps (I : S → Prop) (m _m' : Act S α) : Prop := ∀ s, I s → I (m s).2

theorem congr_keeps {I : S → Prop} : Congr (Keeps (α := α) I) where
  pure a s hs := hs
  bind := by
    intro m m' k k' hm hk s hs
    refine Act.bind_cases (P := fun x => I x.2) ?_ ?_
    · intro t ht
      have := hm s hs
      rwa [ht] at this
    · intro a t ht
      have := hm s hs
      rw [ht] at this
      exact hk a t this

def Completes (m m' : Act S α) : Prop := ∀ s, (m s).1 ≠ .pending → m' s = m s

theorem congr_completes : Congr (Completes (S := S) (α := α)) where
  pure a s _ := rfl
  bind := by
    intro m m' k k' hm hk s
    refine Act.bind_cases (P := fun x => x.1 ≠ .pending → m'.bind k' s = x) ?_ ?_
    · intro t _ h
      exact absurd rfl h
    · intro a t ht h
      have hm' : m' s = (.done a, t) := by rw [hm s (by simp [ht]), ht]
      rw [Act.bind_done hm']
      exact hk a t h

variable [Preorder S]

def Grows (m : Act S α) : Prop := ∀ s, s ≤ (m s).2

theorem le_bind {m : Act S α} {k : α → Act S α} (hk : ∀ a, Grows (k a)) (s : S) : (m s).2 ≤ (m.bind k s).2 := by
  refine Act.bind_cases (P := fun x => (m s).2 ≤ x.2) ?_ ?_
  · intro t ht
    rw [ht]
  · intro a t ht
    rw [ht]
    exact hk a t

theorem Grows.bind {m : Act S α} {k : α → Act S α} (hm : Grows m) (hk : ∀ a, Grows (k a)) : Grows (m.bind k) :=
  fun s => le_trans (hm s) (le_bind hk s)

/-- `G` is a good state: what is good was good before. -/
def Agrees (G : S → Prop) (m m' : Act S α) : Prop :=
  Grows m ∧ ∀ s, G (m s).2 → m' s = m s

theorem congr_agrees {G : S → Prop} (hG : ∀ s t, s ≤ t → G t → G s) : Congr (Agrees (α := α) G) where
  pure a := ⟨fun s => le_refl s, fun _ _ => rfl⟩
  bind := by
    intro m m' k k' hm hk
    refine ⟨hm.1.bind fun a => (hk a).1, ?_⟩
    intro s
    refine Act.bind_cases (P := fun x => G x.2 → m'.bind k' s = x) ?_ ?_
    · intro t ht hgood
      have hm' : m' s = (.pending, t) := by rw [hm.2 s (by rw [ht]; exact hgood), ht]
      exact Act.bind_pending hm' k'
    · intro a t ht hgood
      have hmid : G t := hG t _ ((hk a).1 t) hgood
      have hm' : m' s = (.done a, t) := by rw [hm.2 s (by rw [ht]; exact hmid), ht]
      rw [Act.bind_done hm']
      exact (hk a).2 t hgood

/-- `B` says that the point is not yet reached, `F` is what the two states are like behind it. -/
def Forks (B : S → Prop) (F : S → S → Prop) (m m' : Act S α) : Prop :=
  Grows m ∧ Grows m' ∧ ∀ s, B s →
    (B (m s).2 ∧ m' s = m s) ∨ ∃ t t', F t t' ∧ t ≤ (m s).2 ∧ t' ≤ (m' s).2

theorem congr_forks {B : S → Prop} {F : S → S → Prop} : Congr (Forks (α := α) B F) where
  pure a := ⟨fun s => le_refl s, fun s => le_refl s, fun _ hs => Or.inl ⟨hs, rfl⟩⟩
  bind := by
    intro m m' k k' hm hk
    refine ⟨hm.1.bind fun a => (hk a).1, hm.2.1.bind fun a => (hk a).2.1, ?_⟩
    intro s hs
    rcases hm.2.2 s hs with ⟨hmid, heq⟩ | ⟨t, t', hfork, ht, ht'⟩
    · rcases hr : m s with ⟨r, u⟩
      rw [hr] at heq hmid
      cases r with
      | pending =>
        rw [Act.bind_pending hr, Act.bind_pending heq]
        exact Or.inl ⟨hmid, rfl⟩
      | done a =>
        rw [Act.bind_done hr, Act.bind_done heq]
        exact (hk a).2.2 u hmid
    · exact Or.inr ⟨t, t', hfork, le_trans ht (le_bind (fun a => (hk a).1) s),
        le_trans ht' (le_bind (fun a => (hk a).2.1) s)⟩

end Relations

end Bounded
