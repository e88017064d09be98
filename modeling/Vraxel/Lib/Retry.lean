import Mathlib.Order.Basic
/-
  A bounded number of attempts, until one of them ends it.

  The attempts have numbers; `stop` says which of them end the loop. `tries stop i n` is how many
  attempts are made from the one with number `i` on, if there may be `n`: they are `i`, `i + 1`, …
-/

namespace Retry

def tries (stop : Nat → Bool) (i : Nat) : Nat → Nat
  | 0 => 0
  | n + 1 => if stop i then 1 else tries stop (i + 1) n + 1

variable {stop : Nat → Bool} {i n k : Nat}

theorem tries_le : tries stop i n ≤ n := by
  induction n generalizing i with
  | zero => exact Nat.le_refl 0
  | succ n ih =>
    have h := ih (i := i + 1)
    unfold tries
    split <;> omega

theorem tries_pos (hn : 0 < n) : 0 < tries stop i n := by
  cases n with
  | zero => exact absurd hn (Nat.lt_irrefl 0)
  | succ n =>
    unfold tries
    split <;> omega

/-- All attempts but the last do not end the loop, and the last one does or is the last that there may be. -/
theorem exists_tries (stop : Nat → Bool) (i : Nat) (hn : 0 < n) : ∃ k < n, tries stop i n = k + 1 ∧ (∀ j < k, stop (i + j) = false) ∧
    (k + 1 < n → stop (i + k) = true) := by
  induction n generalizing i with
  | zero => exact absurd hn (Nat.lt_irrefl 0)
  | succ n ih =>
    unfold tries
    by_cases hi : stop i
    · exact ⟨0, hn, if_pos hi, fun j hj => absurd hj (Nat.not_lt_zero j), fun _ => hi⟩
    rw [if_neg hi]
    have hfirst : stop i = false := by simpa using hi
    rcases Nat.eq_zero_or_pos n with rfl | hpos
    · exact ⟨0, hn, rfl, fun j hj => absurd hj (Nat.not_lt_zero j), fun h => absurd h (by omega)⟩
    · obtain ⟨k, hk, heq, hbefore, hlast⟩ := ih (i + 1) hpos
      refine ⟨k + 1, by omega, by rw [heq], fun j hj => ?_, fun h => ?_⟩
      · cases j with
        | zero => exact hfirst
        | succ j =>
          have := hbefore j (by omega)
          rwa [Nat.add_assoc, Nat.add_comm 1 j] at this
      · have := hlast (by omega)
        rwa [Nat.add_assoc, Nat.add_comm 1 k] at this

theorem lt_tries (hk : k < n) (h : ∀ j < k, stop (i + j) = false) : k < tries stop i n := by
  obtain ⟨m, hm, heq, _, hlast⟩ := exists_tries stop i (Nat.zero_lt_of_lt hk)
  rcases Nat.lt_or_ge m k with hlt | hge
  · have := hlast (by omega)
    rw [h m hlt] at this
    cases this
  · omega

theorem tries_eq_of_stop (hk : k < n) (h : ∀ j < k, stop (i + j) = false) (hstop : stop (i + k) = true) :
    tries stop i n = k + 1 := by
  have hlt := lt_tries hk h
  obtain ⟨m, hm, heq, hbefore, _⟩ := exists_tries stop i (Nat.zero_lt_of_lt hk)
  rcases Nat.lt_or_ge k m with hmore | hle
  · rw [hbefore k hmore] at hstop
    cases hstop
  · omega

end Retry
