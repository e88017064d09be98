import Vraxel.Go.Rounding
/-
  Which buckets the agent answers a metrics query with (`lib/agent/nodemetrics/derive.go`,
  `ring.go`). All numbers are int64; a result that does not fit wraps.
-/

namespace Vraxel.Agent

open Strconv Rounding

def metricsMaxPoints : Int := 2000
def fineStepMs : Int := 15000
def coarseStepMs : Int := 60000
def fineSlots : Int := 240

structure Grid where
  fine : Bool
  fromMs : Int
  stepMs : Int
  count : Int
  deriving DecidableEq

inductive QueryResult where
  | panics
  | badWindow
  | tooManyPoints
  | grid (g : Grid)
  deriving DecidableEq

namespace Ring

def requestedMs (stepSec : Int) : Int := toInt64 ((if stepSec ≤ 0 then 60 else stepSec) * 1000)

def isFine (newestMs fromMs stepSec : Int) : Bool :=
  requestedMs stepSec < coarseStepMs ∧ fromMs ≥ toInt64 (newestMs - (fineSlots + 4) * fineStepMs)

def queryStep (newestMs fromMs stepSec : Int) : Int :=
  let tierMs := if isFine newestMs fromMs stepSec then fineStepMs else coarseStepMs
  if requestedMs stepSec > tierMs then alignUp (requestedMs stepSec) tierMs else tierMs

def bucketCount (fromMs toMs stepMs : Int) : Int :=
  toInt64 ((toInt64 (alignUp toMs stepMs - roundDown fromMs stepMs)).tdiv stepMs)

/-- The grid of a query; `newestMs` is the time of the newest sample. -/
def query (newestMs fromMs toMs stepSec : Int) : QueryResult :=
  let stepMs := queryStep newestMs fromMs stepSec
  let count := bucketCount fromMs toMs stepMs
  if toMs ≤ fromMs then .badWindow
  else if stepMs = 0 then .panics
  else if count ≤ 0 then .badWindow
  else if count > metricsMaxPoints then .tooManyPoints
  else .grid ⟨isFine newestMs fromMs stepSec, roundDown fromMs stepMs, stepMs, count⟩

end Ring

/-- The buckets are as many as they may be and cover the window. -/
def Grid.Covers (g : Grid) (fromMs toMs : Int) : Prop :=
  1 ≤ g.count ∧ g.count ≤ metricsMaxPoints ∧ g.fromMs ≤ fromMs ∧ toMs ≤ g.fromMs + g.count * g.stepMs

namespace Ring

theorem queryStep_ne_zero (newestMs fromMs stepSec : Int) : queryStep newestMs fromMs stepSec ≠ 0 := by
  have hreq : IsInt64 (requestedMs stepSec) := isInt64_toInt64 _
  unfold queryStep
  generalize htier : (if isFine newestMs fromMs stepSec then fineStepMs else coarseStepMs) = tierMs
  have hbounds : 15000 ≤ tierMs ∧ tierMs ≤ 60000 := by
    rw [← htier]
    unfold fineStepMs coarseStepMs
    split <;> omega
  obtain ⟨hlow, hhigh⟩ := hreq
  dsimp only
  split
  · rw [alignUp_eq (by omega)]
    -- the sum is far from zero, whether it wraps or not
    by_cases hwrap : requestedMs stepSec + tierMs - 1 < 2 ^ 63
    · rw [toInt64_eq_self ⟨by omega, hwrap⟩]
      have hmul := tdiv_mul_of_nonneg (by omega : 0 < tierMs) (by omega : 0 ≤ requestedMs stepSec + tierMs - 1)
      omega
    · have hwrapped : toInt64 (requestedMs stepSec + tierMs - 1) = requestedMs stepSec + tierMs - 1 - 2 ^ 64 := by
        unfold toInt64
        omega
      rw [hwrapped]
      have hmul := tdiv_mul_of_neg (by omega : 0 < tierMs) (by omega : requestedMs stepSec + tierMs - 1 - 2 ^ 64 < 0)
      omega
  · omega

theorem query_ne_panics (newestMs fromMs toMs stepSec : Int) : query newestMs fromMs toMs stepSec ≠ .panics := by
  have hstep := queryStep_ne_zero newestMs fromMs stepSec
  unfold query
  dsimp only
  split_ifs <;> simp

/-- The roundings of the window wrap together or not at all, and the buckets are not too many. -/
def Fits (fromMs toMs stepMs : Int) : Prop :=
  let low := fromMs.tdiv stepMs * stepMs
  let sum := toMs + stepMs - 1
  if sum < 2 ^ 63 then
    sum.tdiv stepMs * stepMs - low < 2 ^ 63 ∧ sum.tdiv stepMs - fromMs.tdiv stepMs ≤ metricsMaxPoints
  else
    (sum - 2 ^ 64).tdiv stepMs * stepMs - low < -2 ^ 63 ∧
      ((sum - 2 ^ 64).tdiv stepMs * stepMs - low + 2 ^ 64) / stepMs ≤ metricsMaxPoints

section Grids

variable {fromMs toMs stepMs : Int}

theorem toInt64_mul_sub_tdiv {a b s : Int} (hs : 0 < s) (h : IsInt64 (a * s - b * s)) :
    toInt64 ((toInt64 (a * s - b * s)).tdiv s) = a - b := by
  rw [toInt64_eq_self h, ← Int.sub_mul, Int.mul_tdiv_cancel _ (by omega)]
  apply toInt64_eq_self
  obtain ⟨hlow, hhigh⟩ := h
  rw [← Int.sub_mul] at hlow hhigh
  unfold IsInt64
  rcases lt_or_ge (a - b) 0 with hneg | hnonneg
  · have : (a - b) * s ≤ a - b := by nlinarith
    omega
  · have : a - b ≤ (a - b) * s := by nlinarith
    omega

theorem bucketCount_nonpos (hs : 0 < stepMs) (h : toInt64 (alignUp toMs stepMs - roundDown fromMs stepMs) < 0) :
    bucketCount fromMs toMs stepMs ≤ 0 := by
  rw [bucketCount, toInt64_eq_self (isInt64_tdiv_mul hs (isInt64_toInt64 _)).1]
  by_contra hpos
  have hmul := (tdiv_mul_of_neg hs h).2.2
  have := Int.mul_pos (Int.not_le.1 hpos) hs
  omega

/-- What is left to say of buckets that do not start after the window. -/
def Reaches (fromMs toMs stepMs : Int) : Prop :=
  1 ≤ bucketCount fromMs toMs stepMs ∧ bucketCount fromMs toMs stepMs ≤ metricsMaxPoints ∧
    toMs ≤ roundDown fromMs stepMs + bucketCount fromMs toMs stepMs * stepMs

variable (hs : 0 < stepMs) (hfrom : IsInt64 fromMs) (hto : IsInt64 toMs) (hwindow : fromMs < toMs)
  (hle : roundDown fromMs stepMs ≤ fromMs)

include hs hfrom hto hwindow hle

theorem reaches_iff_of_lt (hsum : toMs + stepMs - 1 < 2 ^ 63) :
    Reaches fromMs toMs stepMs ↔
      (toMs + stepMs - 1).tdiv stepMs * stepMs - fromMs.tdiv stepMs * stepMs < 2 ^ 63 ∧
        (toMs + stepMs - 1).tdiv stepMs - fromMs.tdiv stepMs ≤ metricsMaxPoints := by
  have hfit : IsInt64 (toMs + stepMs - 1) := by
    unfold IsInt64 at hto ⊢
    omega
  have halign : alignUp toMs stepMs = (toMs + stepMs - 1).tdiv stepMs * stepMs := by
    rw [alignUp_eq hs, toInt64_eq_self hfit]
  have hround := roundDown_eq hs hfrom
  have hlow := (isInt64_tdiv_mul hs hfrom).2
  have hhigh := (isInt64_tdiv_mul hs hfit).2
  -- what was rounded up is behind the end of the window
  have hup : toMs ≤ (toMs + stepMs - 1).tdiv stepMs * stepMs := by
    by_cases hneg : toMs + stepMs - 1 < 0
    · have h := (tdiv_mul_of_neg hs hneg).1
      omega
    · have h := (tdiv_mul_of_nonneg hs (show 0 ≤ toMs + stepMs - 1 by omega)).2.2
      omega
  by_cases hwidth : (toMs + stepMs - 1).tdiv stepMs * stepMs - fromMs.tdiv stepMs * stepMs < 2 ^ 63
  · rw [Reaches, bucketCount, halign, hround]
    rw [hround] at hle
    generalize (toMs + stepMs - 1).tdiv stepMs = b at hup hwidth ⊢
    generalize fromMs.tdiv stepMs = a at hle hwidth ⊢
    rw [toInt64_mul_sub_tdiv hs ⟨by omega, hwidth⟩]
    have hend : a * stepMs + (b - a) * stepMs = b * stepMs := by ring
    have hpos : 0 < b - a := by
      by_contra h
      have : (b - a) * stepMs ≤ 0 := by nlinarith
      omega
    rw [hend]
    exact ⟨fun h => ⟨hwidth, h.2.1⟩, fun h => ⟨by omega, h.2, hup⟩⟩
  · -- the width wraps
    have hcount : bucketCount fromMs toMs stepMs ≤ 0 := by
      apply bucketCount_nonpos hs
      unfold IsInt64 at hlow hhigh
      unfold toInt64
      omega
    exact iff_of_false (fun h => hcount.not_gt h.1) (fun h => hwidth h.1)

theorem reaches_iff_of_ge (hstep : IsInt64 stepMs) (hsum : ¬ toMs + stepMs - 1 < 2 ^ 63) {up low : Int}
    (hu : (toMs + stepMs - 1 - 2 ^ 64).tdiv stepMs * stepMs = up) (hl : fromMs.tdiv stepMs * stepMs = low) :
    Reaches fromMs toMs stepMs ↔ up - low < -2 ^ 63 ∧ (up - low + 2 ^ 64) / stepMs ≤ metricsMaxPoints := by
  have hwrapped : toInt64 (toMs + stepMs - 1) = toMs + stepMs - 1 - 2 ^ 64 := by
    unfold IsInt64 at hto hstep
    unfold toInt64
    omega
  have halign : alignUp toMs stepMs = up := by
    rw [alignUp_eq hs, hwrapped, hu]
  have hround : roundDown fromMs stepMs = low := (roundDown_eq hs hfrom).trans hl
  have hlow := (isInt64_tdiv_mul hs hfrom).2
  obtain ⟨hup, _, hnonpos⟩ := tdiv_mul_of_neg hs (x := toMs + stepMs - 1 - 2 ^ 64) (by unfold IsInt64 at hto hstep; omega)
  rw [hu] at hup hnonpos
  rw [hl] at hlow
  rw [hround] at hle
  unfold IsInt64 at hto hstep hfrom hlow
  by_cases hwidth : up - low < -2 ^ 63
  · -- the width wraps too, and that is the width as it should be
    have hy : toInt64 (alignUp toMs stepMs - roundDown fromMs stepMs) = up - low + 2 ^ 64 := by
      unfold toInt64
      omega
    have hcount : bucketCount fromMs toMs stepMs = (up - low + 2 ^ 64) / stepMs := by
      rw [bucketCount, toInt64_eq_self (isInt64_tdiv_mul hs (isInt64_toInt64 _)).1, hy, Int.tdiv_eq_ediv_of_nonneg (by omega)]
    rw [Reaches, hcount, hround]
    have hdiv := Int.mul_ediv_add_emod (up - low + 2 ^ 64) stepMs
    have hrem := Int.emod_lt_of_pos (up - low + 2 ^ 64) hs
    rw [Int.mul_comm] at hdiv
    generalize hn : (up - low + 2 ^ 64) / stepMs = n at hdiv ⊢
    have hend : toMs ≤ low + n * stepMs := by omega
    have hpos : 0 < n := by
      by_contra h
      have : n * stepMs ≤ 0 := by nlinarith
      omega
    exact ⟨fun h => ⟨hwidth, h.2.1⟩, fun h => ⟨by omega, h.2, hend⟩⟩
  · refine iff_of_false ?_ (fun h => hwidth h.1)
    intro ⟨hone, _, hend⟩
    by_cases hmax : up - low < 2 ^ 63
    · -- the buckets end before the epoch
      rw [← hu, ← hl] at hmax hwidth
      rw [bucketCount, halign, hround, ← hu, ← hl, toInt64_mul_sub_tdiv hs ⟨by omega, hmax⟩, Int.sub_mul] at hend
      omega
    · have hcount : bucketCount fromMs toMs stepMs ≤ 0 := by
        apply bucketCount_nonpos hs
        unfold toInt64
        omega
      omega

omit hs hle

/-- A grid covers its window exactly if its step is positive, the window starts on the grid or
not before the epoch, and the roundings fit. -/
theorem covers_iff (fine : Bool) (hstep : IsInt64 stepMs) :
    (Grid.mk fine (roundDown fromMs stepMs) stepMs (bucketCount fromMs toMs stepMs)).Covers fromMs toMs ↔
      0 < stepMs ∧ (0 ≤ fromMs ∨ stepMs ∣ fromMs) ∧ Fits fromMs toMs stepMs := by
  by_cases hs : 0 < stepMs
  · rw [← roundDown_le_iff hs hfrom]
    unfold Grid.Covers Fits
    dsimp only
    constructor
    · intro ⟨hone, hmax, hle, hend⟩
      refine ⟨hs, hle, ?_⟩
      split
      · exact (reaches_iff_of_lt hs hfrom hto hwindow hle ‹_›).1 ⟨hone, hmax, hend⟩
      · exact (reaches_iff_of_ge hs hfrom hto hwindow hle hstep ‹_› rfl rfl).1 ⟨hone, hmax, hend⟩
    · intro ⟨_, hle, hfits⟩
      split at hfits
      · obtain ⟨hone, hmax, hend⟩ := (reaches_iff_of_lt hs hfrom hto hwindow hle ‹_›).2 hfits
        exact ⟨hone, hmax, hle, hend⟩
      · obtain ⟨hone, hmax, hend⟩ := (reaches_iff_of_ge hs hfrom hto hwindow hle hstep ‹_› rfl rfl).2 hfits
        exact ⟨hone, hmax, hle, hend⟩
  · refine iff_of_false ?_ (fun h => hs h.1)
    intro ⟨hone, _, hle, hend⟩
    dsimp only at hone hle hend
    -- buckets of such a step go backwards
    have hback : bucketCount fromMs toMs stepMs * stepMs ≤ 0 := by nlinarith
    omega

end Grids

theorem query_eq_grid_iff {newestMs fromMs toMs stepSec : Int} (hfrom : IsInt64 fromMs) (hto : IsInt64 toMs)
    (hwindow : fromMs < toMs) :
    (∃ g, query newestMs fromMs toMs stepSec = .grid g ∧ g.Covers fromMs toMs) ↔
      0 < queryStep newestMs fromMs stepSec ∧
        (0 ≤ fromMs ∨ queryStep newestMs fromMs stepSec ∣ fromMs) ∧
          Fits fromMs toMs (queryStep newestMs fromMs stepSec) := by
  have hzero := queryStep_ne_zero newestMs fromMs stepSec
  have hstep : IsInt64 (queryStep newestMs fromMs stepSec) := by
    have htier : IsInt64 (if isFine newestMs fromMs stepSec then fineStepMs else coarseStepMs) := by
      split <;> decide
    unfold queryStep
    dsimp only
    generalize (if isFine newestMs fromMs stepSec then fineStepMs else coarseStepMs) = tierMs at htier ⊢
    split
    · exact isInt64_toInt64 _
    · exact htier
  rw [← covers_iff hfrom hto hwindow (isFine newestMs fromMs stepSec) hstep]
  unfold query
  rw [if_neg (show ¬ toMs ≤ fromMs by omega), if_neg hzero]
  constructor
  · rintro ⟨g, hg, hcovers⟩
    split_ifs at hg
    cases hg
    exact hcovers
  · intro hcovers
    refine ⟨_, ?_, hcovers⟩
    obtain ⟨hone, hmax, _⟩ := hcovers
    dsimp only at hone hmax
    rw [if_neg (by omega), if_neg (by omega)]

end Ring

end Vraxel.Agent
