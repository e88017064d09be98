import Vraxel.Lib.Run
import Vraxel.Agent.Wire
/-
  The probe runner of an agent (`lib/agent/probe/runner.go`).

  The workers are a list in place of Go's map: `States` sorts by name, so the order of the map is
  not seen.
-/

namespace Vraxel.Agent

open Json Strconv Transition

structure ProbeSpec where
  name : Bytes
  type : Bytes
  port : Int := 0
  path : Bytes := []
  command : List Bytes := []
  initialDelaySec : Int := 0
  periodSec : Int := 0
  timeoutSec : Int := 0
  successThreshold : Int := 0
  failureThreshold : Int := 0
  deriving DecidableEq

def ProbeSpec.needsSuccesses (s : ProbeSpec) : Int := if s.successThreshold > 0 then s.successThreshold else 1

def ProbeSpec.needsFailures (s : ProbeSpec) : Int := if s.failureThreshold > 0 then s.failureThreshold else 3

/-- What the machine answers: the error of a dial, the error or the status of a request, the error
and the output of a command. -/
structure Answer where
  dial : Option Bytes := none
  http : Except Bytes Int := .ok 200
  exec : Option (Bytes × Bytes) := none

def trim (s : Bytes) : Bytes := if s.length ≤ 256 then s else s.take 256 ++ ascii "..."

variable (spec : ProbeSpec) (results : List (Option Bytes))

def probe (quote : Bytes → Bytes) (spec : ProbeSpec) (answer : Answer) : Option Bytes :=
  if spec.type = ascii "tcp" then answer.dial
  else if spec.type = ascii "http" then
    match answer.http with
    | .error err => some err
    | .ok status => if status < 200 ∨ 400 ≤ status then some (ascii ("http status " ++ formatInt status)) else none
  else if spec.type = ascii "exec" then
    if spec.command = [] then some (ascii "exec probe has no command")
    else answer.exec.map fun r => r.1 ++ ascii ": " ++ trim r.2
  else some (ascii "unknown probe type " ++ quote spec.type)

structure Worker where
  spec : ProbeSpec
  cur : ProbeState
  streak : Int := 0
  streakOK : Bool := false

def newWorker : Worker where
  spec := spec
  cur := { name := spec.name, message := ascii "not yet probed" }

/-- The verdict after a check; `enough` results in a row have gone the same way. -/
def Worker.verdict (w : Worker) (err : Option Bytes) (enough : Bool) (now : Int) : ProbeState :=
  if err.isNone ≠ w.cur.healthy ∧ enough then
    { name := w.spec.name, healthy := err.isNone, message := err.getD [], changedUnixMs := now }
  -- the latest reason stays visible while the probe fails
  else if w.cur.healthy = false then { w.cur with message := err.getD [] }
  else w.cur

def Worker.check (quote : Bytes → Bytes) (w : Worker) (answer : Answer) (now : Int) : Worker :=
  let err := probe quote w.spec answer
  let streak := if err.isNone = w.streakOK then toInt32 (w.streak + 1) else 1
  let need := if err.isNone then w.spec.needsSuccesses else w.spec.needsFailures
  { w with cur := w.verdict err (need ≤ streak) now, streak, streakOK := err.isNone }

structure Runner where
  workers : List Worker := []

namespace Runner

def wanted (specs : List ProbeSpec) : List ProbeSpec :=
  specs.foldl (fun m s => if s.name = [] then m else m.filter (fun s' => s'.name ≠ s.name) ++ [s]) []

def setSpecs (r : Runner) (specs : List ProbeSpec) : Runner :=
  let kept := r.workers.filter fun w => w.spec ∈ wanted specs
  let added := (wanted specs).filter fun s => kept.all fun w => w.spec.name ≠ s.name
  { workers := kept ++ added.map newWorker }

def states (r : Runner) : List ProbeState :=
  (r.workers.map Worker.cur).insertionSort fun a b => a.name ≤ b.name

def close (_ : Runner) : Runner := { workers := [] }

end Runner

inductive RunnerEvent where
  | setSpecs (specs : List ProbeSpec)
  | check (name : Bytes) (answer : Answer) (now : Int)
  | close

def Runner.step (quote : Bytes → Bytes) (r : Runner) : RunnerEvent → Runner
  | .setSpecs specs => r.setSpecs specs
  | .check name answer now =>
    { workers := r.workers.map fun w => if w.spec.name = name then w.check quote answer now else w }
  | .close => r.close

def ProbeSpec.needs (s : ProbeSpec) (ok : Bool) : Int := if ok then s.needsSuccesses else s.needsFailures

def Worker.reports (quote : Bytes → Bytes) (w : Worker) (answer : Answer) (now : Int) : List ProbeState :=
  let err := probe quote w.spec answer
  let checked := w.check quote answer now
  -- the streak counts this result already
  if err.isNone ≠ w.cur.healthy ∧ w.spec.needs err.isNone ≤ checked.streak then [checked.cur] else []

/-- The length of the run of results of one kind at the end of a list. -/
def trailing (ok : Bool) (results : List (Option Bytes)) : Nat := (results.reverse.takeWhile fun r => r.isNone == ok).length

/-- A run of enough successes was completed, and since then none of enough failures. -/
def Favours : Prop :=
  ∃ p, p <+: results ∧ spec.needs true ≤ trailing true p ∧
    ∀ q, q <+: results → p <+: q → trailing false q < spec.needs false

def lastError : Bytes := (results.reverse.findSome? id).getD (ascii "not yet probed")

theorem trailing_concat (ok : Bool) (rs : List (Option Bytes)) (r : Option Bytes) :
    trailing ok (rs ++ [r]) = if r.isNone = ok then trailing ok rs + 1 else 0 := by
  simp only [trailing, List.reverse_append, List.reverse_singleton, List.singleton_append, List.takeWhile_cons]
  split <;> simp_all

theorem needs_pos (ok : Bool) : 0 < spec.needs ok := by
  cases ok <;> simp only [ProbeSpec.needs, ProbeSpec.needsSuccesses, ProbeSpec.needsFailures] <;> split_ifs <;> omega

/-- The result decides if it completes a run, and changes nothing otherwise. -/
theorem favours_concat (rs : List (Option Bytes)) (r : Option Bytes) :
    Favours spec (rs ++ [r]) ↔
      if spec.needs r.isNone ≤ trailing r.isNone (rs ++ [r]) then r.isNone = true else Favours spec rs := by
  have hother (ok : Bool) (h : ¬r.isNone = ok) : trailing ok (rs ++ [r]) < spec.needs ok := by
    rw [trailing_concat, if_neg h]
    exact needs_pos spec ok
  split_ifs with hrun
  · cases hr : r.isNone with
    | false =>
      rw [hr] at hrun
      simp only [Bool.false_eq_true, iff_false]
      intro ⟨p, hp, _, hq⟩
      have := hq _ List.prefix_rfl hp
      omega
    | true =>
      rw [hr] at hrun
      simp only [iff_true]
      refine ⟨_, List.prefix_rfl, hrun, fun q hq hp => ?_⟩
      rw [hq.eq_of_length_le hp.length_le]
      exact hother false (by simp [hr])
  · have hshort (ok : Bool) : trailing ok (rs ++ [r]) < spec.needs ok := by
      by_cases h : r.isNone = ok
      · subst h
        omega
      · exact hother ok h
    constructor
    · intro ⟨p, hp, hs, hq⟩
      rcases List.prefix_concat_iff.1 hp with rfl | hp'
      · have := hshort true
        omega
      · exact ⟨p, hp', hs, fun q hq' => hq q (hq'.trans (List.prefix_append _ _))⟩
    · intro ⟨p, hp, hs, hq⟩
      refine ⟨p, hp.trans (List.prefix_append _ _), hs, fun q hq' hpq => ?_⟩
      rcases List.prefix_concat_iff.1 hq' with rfl | hq'
      · exact hshort false
      · exact hq q hq' hpq

/-- The worker after these results. -/
structure Tracks (w : Worker) (rs : List (Option Bytes)) : Prop where
  streak : w.streak = toInt32 (trailing w.streakOK rs)
  other : ∀ ok, ok ≠ w.streakOK → trailing ok rs = 0
  short : w.streakOK ≠ w.cur.healthy → trailing w.streakOK rs < w.spec.needs w.streakOK
  healthy : w.cur.healthy = true ↔ Favours w.spec rs
  message : w.cur.healthy = false → w.cur.message = (rs.getLast?.map (·.getD [])).getD (ascii "not yet probed")

section Tracks

variable {quote : Bytes → Bytes} {w : Worker} {rs : List (Option Bytes)}

theorem tracks_newWorker (spec : ProbeSpec) : Tracks (newWorker spec) [] where
  streak := by simp [newWorker, trailing, toInt32]
  other := by simp [trailing]
  short := fun h => absurd rfl h
  healthy := by
    simp only [newWorker, Bool.false_eq_true, false_iff]
    intro ⟨p, hp, hs, _⟩
    rw [List.prefix_nil.1 hp] at hs
    exact absurd hs (Int.not_le.2 (needs_pos spec true))
  message := fun _ => by simp [newWorker]

/-- Thresholds are of type `int32`. -/
def ProbeSpec.Fits (spec : ProbeSpec) : Prop := ∀ ok, spec.needs ok < 2 ^ 31

theorem Tracks.streak_check (h : Tracks w rs) (quote : Bytes → Bytes) (answer : Answer) (now : Int) :
    (w.check quote answer now).streak =
      toInt32 (trailing (probe quote w.spec answer).isNone (rs ++ [probe quote w.spec answer])) := by
  generalize hr : probe quote w.spec answer = r
  simp only [Worker.check, hr, trailing_concat, if_true]
  split_ifs with hok
  · rw [h.streak, hok]
    unfold toInt32
    omega
  · rw [h.other _ hok]
    rfl

/-- The streak wraps around only in the direction of the verdict, so it decides as the run does. -/
theorem Tracks.flip_iff (h : Tracks w rs) (hfits : w.spec.Fits) (r : Option Bytes) :
    (r.isNone ≠ w.cur.healthy ∧ w.spec.needs r.isNone ≤ toInt32 (trailing r.isNone (rs ++ [r]))) ↔
      r.isNone ≠ w.cur.healthy ∧ w.spec.needs r.isNone ≤ trailing r.isNone (rs ++ [r]) := by
  refine and_congr_right fun hne => ?_
  have hshort : trailing r.isNone rs < w.spec.needs r.isNone := by
    by_cases hok : r.isNone = w.streakOK
    · rw [hok]
      exact h.short (hok ▸ hne)
    · rw [h.other _ hok]
      exact needs_pos w.spec _
  have := hfits r.isNone
  rw [trailing_concat, if_pos rfl, toInt32_eq_self_iff.2 (by omega)]

theorem Tracks.check (h : Tracks w rs) (quote : Bytes → Bytes) (hfits : w.spec.Fits) (answer : Answer) (now : Int) :
    Tracks (w.check quote answer now) (rs ++ [probe quote w.spec answer]) ∧
      w.reports quote answer now = if (w.check quote answer now).cur.healthy = w.cur.healthy then []
        else [(w.check quote answer now).cur] := by
  have hstreak := h.streak_check quote answer now
  have hcur : (w.check quote answer now).cur = w.verdict (probe quote w.spec answer)
    (w.spec.needs (probe quote w.spec answer).isNone ≤ (w.check quote answer now).streak) now := rfl
  have hok : (w.check quote answer now).streakOK = (probe quote w.spec answer).isNone := rfl
  have hspec : (w.check quote answer now).spec = w.spec := rfl
  unfold Worker.reports
  generalize probe quote w.spec answer = r at *
  generalize w.check quote answer now = w' at *
  have hflip := h.flip_iff hfits r
  have hhealthy := favours_concat w.spec rs r
  rw [← hstreak] at hflip
  simp only [Worker.verdict, decide_eq_true_eq, hflip] at hcur
  simp only [hflip]
  have hother (ok : Bool) (hne : ok ≠ w'.streakOK) : trailing ok (rs ++ [r]) = 0 := by
    rw [trailing_concat, if_neg (hok ▸ hne.symm)]
  by_cases hcase : r.isNone ≠ w.cur.healthy ∧ w.spec.needs r.isNone ≤ trailing r.isNone (rs ++ [r])
  · rw [if_pos hcase] at hcur
    rw [if_pos hcase.2] at hhealthy
    refine ⟨⟨by rw [hstreak, hok], hother, ?_, ?_, ?_⟩, ?_⟩
    · simp [hcur, hok]
    · simp [hcur, hspec, hhealthy]
    · simp [hcur]
    · simp [hcur, hcase]
  · have hsame : w'.cur.healthy = w.cur.healthy := by
      rw [hcur, if_neg hcase]
      split_ifs <;> rfl
    refine ⟨⟨by rw [hstreak, hok], hother, ?_, ?_, ?_⟩, ?_⟩
    · rw [hok, hsame, hspec]
      intro hne
      exact Int.not_le.1 fun hle => hcase ⟨hne, hle⟩
    · rw [hsame, hspec, hhealthy]
      split_ifs with hrun
      · rw [show r.isNone = w.cur.healthy by by_contra hne; exact hcase ⟨hne, hrun⟩]
      · exact h.healthy
    · rw [hsame]
      intro hdown
      rw [hcur, if_neg hcase, if_pos hdown]
      simp
    · rw [if_neg hcase, if_pos hsame]

def Worker.after (quote : Bytes → Bytes) (w : Worker) (answers : List (Answer × Int)) : Worker :=
  answers.foldl (fun w a => w.check quote a.1 a.2) w

theorem tracks_after (quote : Bytes → Bytes) (spec : ProbeSpec) (hfits : spec.Fits) (answers : List (Answer × Int)) :
    ((newWorker spec).after quote answers).spec = spec ∧
      Tracks ((newWorker spec).after quote answers) (answers.map fun a => probe quote spec a.1) := by
  induction answers using List.reverseRecOn with
  | nil => exact ⟨rfl, tracks_newWorker spec⟩
  | append_singleton answers a ih =>
    obtain ⟨hspec, h⟩ := ih
    have hnext := (h.check quote (by rw [hspec]; exact hfits) a.1 a.2).1
    rw [hspec] at hnext
    simp only [Worker.after, List.foldl_append, List.foldl_cons, List.foldl_nil, List.map_append, List.map_cons, List.map_nil]
    exact ⟨hspec, hnext⟩

end Tracks

/-- The verdict is the one of the runs, a check reports the new state exactly if it changes the verdict,
and while the probe is unhealthy the message is the last error exactly if no success came after it, or
it is empty. -/
theorem verdict_hysteresis_iff (quote : Bytes → Bytes) (spec : ProbeSpec) (hfits : spec.Fits)
    (answers : List (Answer × Int)) (answer : Answer) (now : Int) :
    let results := answers.map fun a => probe quote spec a.1
    let w := (newWorker spec).after quote answers
    let w' := w.check quote answer now
    (w.cur.healthy = true ↔ Favours spec results) ∧
      w.reports quote answer now = (if w'.cur.healthy = w.cur.healthy then [] else [w'.cur]) ∧
      ((w.cur.healthy = false → w.cur.message = lastError results) ↔
        w.cur.healthy = true ∨ results.getLast? ≠ some none ∨ lastError results = []) := by
  intro results w w'
  obtain ⟨hspec, h⟩ := tracks_after quote spec hfits answers
  refine ⟨?_, (h.check quote (by rw [hspec]; exact hfits) answer now).2, ?_⟩
  · have hhealthy := h.healthy
    rwa [hspec] at hhealthy
  · have hmessage := h.message
    change w.cur.healthy = false → w.cur.message = (results.getLast?.map (·.getD [])).getD _ at hmessage
    cases hw : w.cur.healthy with
    | true => simp
    | false =>
      simp only [hmessage hw, forall_const, Bool.false_eq_true, false_or]
      rcases List.eq_nil_or_concat' results with hnil | ⟨rs, r, hconcat⟩
      · simp [hnil, lastError]
      · rw [hconcat]
        cases r with
        | none => simp
        | some err => simp [lastError]

def twoSuccesses : ProbeSpec := ⟨[97], ascii "tcp", 80, [], [], 0, 0, 0, 2, 3⟩

def flaky : List (Answer × Int) := [(⟨some (ascii "refused"), .ok 200, none⟩, 1), (⟨none, .ok 200, none⟩, 2)]

theorem flaky_verdict :
    ((newWorker twoSuccesses).after id flaky).cur.healthy = true ↔
      Favours twoSuccesses (flaky.map fun a => probe id twoSuccesses a.1) :=
  (verdict_hysteresis_iff id twoSuccesses (by unfold ProbeSpec.Fits; decide) flaky ⟨none, .ok 200, none⟩ 3).1

/-- The first success blanks the reason of a probe that is still unhealthy. -/
theorem reason_blanked :
    ((newWorker twoSuccesses).after id flaky).cur.healthy = false ∧
      ((newWorker twoSuccesses).after id flaky).cur.message = [] ∧
      lastError (flaky.map fun a => probe id twoSuccesses a.1) = ascii "refused" := by
  decide

end Vraxel.Agent
