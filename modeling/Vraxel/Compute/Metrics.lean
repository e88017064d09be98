import Vraxel.Agent.Ring
import Vraxel.Api.Errors
import Vraxel.Go.Strings
/-
  The window of a metrics request (`pkg/apis/compute/metrics.go`), from the query
  parameters to the agent's ring.
-/

namespace Vraxel.Compute

open Api Strconv Rounding Agent

variable (filters : List (String × String)) (newestMs : Int)

def filterInt64 (key : String) : Option Int :=
  (filters.find? (·.1 = key)).bind fun kv => parseInt kv.2

def filterStr (key : String) : Option String :=
  ((filters.find? (·.1 = key)).map (·.2)).filter (· ≠ "")

structure MetricsParams where
  fromMs : Option Int
  toMs : Option Int
  stepSec : Option Int
  series : Option String

def metricsParams : MetricsParams where
  fromMs := filterInt64 filters "from_ms"
  toMs := filterInt64 filters "to_ms"
  stepSec := filterInt64 filters "step_sec"
  series := filterStr filters "series"

structure MetricsRequest where
  fromMs : Int
  toMs : Int
  stepSec : Int
  series : List String
  deriving DecidableEq

def splitCSV (s : String) : List String := (Strings.split s ',').filter (· ≠ "")

def hourMs : Int := 3600000

def metricsRequest (nowMs : Int) (p : MetricsParams) : MetricsRequest where
  fromMs := p.fromMs.getD (nowMs - hourMs)
  toMs := p.toMs.getD nowMs
  stepSec := p.stepSec.getD 60
  series := (p.series.map splitCSV).getD []

inductive SeriesOutcome where
  | panics
  | failed (e : Err)
  | refused (message : String)
  | forwarded (req : MetricsRequest)
  deriving DecidableEq

def tooManyPoints (points : Int) : String :=
  "the window at this step is " ++ formatInt points ++ " points; the limit is " ++ formatInt metricsMaxPoints

def checkWindow (req : MetricsRequest) : SeriesOutcome :=
  let stepMs := toInt64 (req.stepSec * 1000)
  if req.toMs ≤ req.fromMs then .refused "to_ms must be after from_ms"
  else if req.stepSec < 1 then .refused "step_sec must be at least 1"
  else if stepMs = 0 then .panics
  else if Ring.bucketCount req.fromMs req.toMs stepMs > metricsMaxPoints then
    .refused (tooManyPoints (Ring.bucketCount req.fromMs req.toMs stepMs))
  else .forwarded req

/-- Up to the request to the backend; `host` is the read of the host. -/
def series (nowMs : Int) (host : Except Err Unit) (filters : List (String × String)) : SeriesOutcome :=
  match host with
  | .error e => .failed e
  | .ok _ => checkWindow (metricsRequest nowMs (metricsParams filters))

/-- Nothing panics, and the agent answers a request that it gets with buckets that cover it. -/
def Answered (out : SeriesOutcome) : Prop :=
  out ≠ .panics ∧ ∀ req, out = .forwarded req →
    Ring.query newestMs req.fromMs req.toMs req.stepSec ≠ .panics ∧
      ∃ g, Ring.query newestMs req.fromMs req.toMs req.stepSec = .grid g ∧ g.Covers req.fromMs req.toMs

/-- The server refuses the window; or its step does not wrap to zero, and the server finds too
many points in it or the agent's step is positive, the window starts on the grid or not before
the epoch, and its roundings fit. -/
def Answerable (req : MetricsRequest) : Prop :=
  let stepMs := Ring.queryStep newestMs req.fromMs req.stepSec
  req.toMs ≤ req.fromMs ∨ req.stepSec < 1 ∨ toInt64 (req.stepSec * 1000) ≠ 0 ∧
    (metricsMaxPoints < Ring.bucketCount req.fromMs req.toMs (toInt64 (req.stepSec * 1000)) ∨
      0 < stepMs ∧ (0 ≤ req.fromMs ∨ stepMs ∣ req.fromMs) ∧ Ring.Fits req.fromMs req.toMs stepMs)

theorem isInt64_filterInt64 {filters : List (String × String)} {key : String} {i : Int}
    (h : filterInt64 filters key = some i) : IsInt64 i := by
  obtain ⟨kv, _, hkv⟩ := Option.bind_eq_some_iff.1 h
  exact isInt64_of_parseInt hkv

theorem isInt64_metricsRequest {nowMs : Int} (hnow : IsInt64 nowMs) (hhour : IsInt64 (nowMs - hourMs))
    (filters : List (String × String)) :
    IsInt64 (metricsRequest nowMs (metricsParams filters)).fromMs ∧
      IsInt64 (metricsRequest nowMs (metricsParams filters)).toMs := by
  have hget : ∀ key default, IsInt64 default → IsInt64 ((filterInt64 filters key).getD default) := by
    intro key default hdefault
    cases h : filterInt64 filters key with
    | none => exact hdefault
    | some i => exact isInt64_filterInt64 h
  exact ⟨hget "from_ms" _ hhour, hget "to_ms" _ hnow⟩

theorem answered_checkWindow_iff {req : MetricsRequest} (hfrom : IsInt64 req.fromMs) (hto : IsInt64 req.toMs) :
    Answered newestMs (checkWindow req) ↔ Answerable newestMs req := by
  unfold checkWindow Answerable
  -- a refusal is an answer
  have hrefused : ∀ m, Answered newestMs (.refused m) := fun m => ⟨by simp, fun req h => by cases h⟩
  by_cases hwindow : req.toMs ≤ req.fromMs
  · rw [if_pos hwindow]
    exact iff_of_true (hrefused _) (.inl hwindow)
  by_cases hstep : req.stepSec < 1
  · rw [if_neg hwindow, if_pos hstep]
    exact iff_of_true (hrefused _) (.inr (.inl hstep))
  simp only [hwindow, hstep, false_or]
  by_cases hzero : toInt64 (req.stepSec * 1000) = 0
  · rw [if_pos hzero]
    exact iff_of_false (fun h => h.1 rfl) (fun h => h.1 hzero)
  rw [if_neg hzero]
  by_cases hmany : Ring.bucketCount req.fromMs req.toMs (toInt64 (req.stepSec * 1000)) > metricsMaxPoints
  · rw [if_pos hmany]
    exact iff_of_true (hrefused _) ⟨hzero, .inl hmany⟩
  rw [if_neg hmany, ← Ring.query_eq_grid_iff hfrom hto (Int.not_le.1 hwindow)]
  constructor
  · intro h
    exact ⟨hzero, .inr (h.2 req rfl).2⟩
  · intro ⟨_, h⟩
    rcases h with h | h
    · exact absurd h hmany
    · refine ⟨by simp, ?_⟩
      intro req' heq
      cases heq
      exact ⟨Ring.query_ne_panics _ _ _ _, h⟩

/-- Exactly the requests that are answered, for every clock, query and state of the ring. -/
theorem series_answered_iff (nowMs newestMs : Int) (hnow : IsInt64 nowMs) (hhour : IsInt64 (nowMs - hourMs))
    (host : Except Err Unit) (filters : List (String × String)) :
    Answered newestMs (series nowMs host filters) ↔
      (host = .ok () → Answerable newestMs (metricsRequest nowMs (metricsParams filters))) := by
  obtain ⟨hfrom, hto⟩ := isInt64_metricsRequest hnow hhour filters
  cases host with
  | error e => exact iff_of_true ⟨by simp [series], fun req h => by cases h⟩ (fun h => by cases h)
  | ok u =>
    rw [series, answered_checkWindow_iff newestMs hfrom hto]
    exact ⟨fun h _ => h, fun h => h rfl⟩

def firstHour : List (String × String) := [("from_ms", "0"), ("to_ms", "3600000"), ("step_sec", "15")]

theorem first_hour_answered :
    series 1800000000000 (.ok ()) firstHour = .forwarded ⟨0, 3600000, 15, []⟩ ∧
      Answered 3600000 (series 1800000000000 (.ok ()) firstHour) := by
  refine ⟨by decide, (series_answered_iff 1800000000000 3600000 (by decide) (by decide) (.ok ()) firstHour).2 ?_⟩
  intro _
  refine .inr (.inr ⟨by decide, .inr ⟨by decide, .inl (by decide), ?_⟩⟩)
  unfold Ring.Fits
  decide

/-- A step whose milliseconds wrap to zero, a window that ends at the last millisecond, one
before the epoch, and one whose steps the agent rounds up by a second. -/
theorem accepted_window_unanswered :
    series 1800000000000 (.ok ()) [("from_ms", "0"), ("to_ms", "1000"), ("step_sec", "2305843009213693952")] = .panics ∧
      (series 1800000000000 (.ok ()) [("from_ms", "0"), ("to_ms", "9223372036854775807"), ("step_sec", "60")] =
          .forwarded ⟨0, 9223372036854775807, 60, []⟩ ∧
        Ring.query 3600000 0 9223372036854775807 60 = .badWindow) ∧
      (series 1800000000000 (.ok ()) [("from_ms", "-1000"), ("to_ms", "0"), ("step_sec", "60")] =
          .forwarded ⟨-1000, 0, 60, []⟩ ∧
        Ring.query 3600000 (-1000) 0 60 = .badWindow) ∧
      (series 1800000000000 (.ok ()) [("from_ms", "59999999"), ("to_ms", "120000000001"), ("step_sec", "59999")] =
          .forwarded ⟨59999999, 120000000001, 59999, []⟩ ∧
        Ring.query 3600000 59999999 120000000001 59999 = .tooManyPoints) := by
  decide

end Vraxel.Compute
