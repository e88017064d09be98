import Vraxel.Go.Strconv
/-
  Rounding in Go's int64 arithmetic, in which sums and products wrap and a quotient is cut
  off towards zero.
-/

namespace Vraxel.Rounding

open Strconv

def roundDown (x step : Int) : Int := toInt64 (toInt64 (x.tdiv step) * step)

def alignUp (x step : Int) : Int := roundDown (toInt64 (x + step - 1)) step

section Positive

variable {x step : Int} (hstep : 0 < step)
include hstep

theorem tdiv_mul_of_nonneg (hx : 0 ≤ x) : 0 ≤ x.tdiv step * step ∧ x.tdiv step * step ≤ x ∧ x < x.tdiv step * step + step := by
  have hsum := Int.mul_tdiv_add_tmod x step
  have hlow := Int.tmod_nonneg step hx
  have hhigh := Int.tmod_lt_of_pos x hstep
  have hdiv := Int.tdiv_nonneg hx (Int.le_of_lt hstep)
  have hprod : 0 ≤ x.tdiv step * step := Int.mul_nonneg hdiv (Int.le_of_lt hstep)
  rw [Int.mul_comm] at hsum
  exact ⟨hprod, by omega, by omega⟩

theorem tdiv_mul_of_neg (hx : x < 0) : x ≤ x.tdiv step * step ∧ x.tdiv step * step < x + step ∧ x.tdiv step * step ≤ 0 := by
  obtain ⟨hlow, hhigh, hpos⟩ := tdiv_mul_of_nonneg hstep (show 0 ≤ -x by omega)
  have hneg : (-x).tdiv step * step = -(x.tdiv step * step) := by rw [Int.neg_tdiv, Int.neg_mul]
  omega

theorem isInt64_tdiv_mul (hx : IsInt64 x) : IsInt64 (x.tdiv step) ∧ IsInt64 (x.tdiv step * step) := by
  obtain ⟨hmin, hmax⟩ := hx
  unfold IsInt64
  -- a quotient is not farther from zero than its multiple
  by_cases hneg : x < 0
  · obtain ⟨hlow, _, hnonpos⟩ := tdiv_mul_of_neg hstep hneg
    have hle : x.tdiv step ≤ 0 := by
      by_contra h
      have := Int.mul_pos (show 0 < x.tdiv step by omega) hstep
      omega
    have hmul : x.tdiv step * step ≤ x.tdiv step := by nlinarith
    omega
  · obtain ⟨hnonneg, hhigh, _⟩ := tdiv_mul_of_nonneg hstep (show 0 ≤ x by omega)
    have hge : 0 ≤ x.tdiv step := Int.tdiv_nonneg (by omega) (Int.le_of_lt hstep)
    have hmul : x.tdiv step ≤ x.tdiv step * step := by nlinarith
    omega

theorem roundDown_eq (hx : IsInt64 x) : roundDown x step = x.tdiv step * step := by
  obtain ⟨hquot, hmul⟩ := isInt64_tdiv_mul hstep hx
  rw [roundDown, toInt64_eq_self hquot, toInt64_eq_self hmul]

theorem alignUp_eq : alignUp x step = (toInt64 (x + step - 1)).tdiv step * step :=
  roundDown_eq hstep (isInt64_toInt64 _)

theorem roundDown_le_iff (hx : IsInt64 x) : roundDown x step ≤ x ↔ 0 ≤ x ∨ step ∣ x := by
  rw [roundDown_eq hstep hx]
  by_cases hneg : x < 0
  · obtain ⟨hlow, _, _⟩ := tdiv_mul_of_neg hstep hneg
    constructor
    · intro h
      exact .inr ⟨x.tdiv step, by rw [Int.mul_comm]; omega⟩
    · intro h
      rcases h with h | h
      · omega
      · rw [Int.tdiv_mul_cancel h]
  · exact iff_of_true (tdiv_mul_of_nonneg hstep (by omega)).2.1 (.inl (by omega))

end Positive

end Vraxel.Rounding
