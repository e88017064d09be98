import Mathlib.Data.Finmap
import Vraxel.Agent.Guard
/-
  The loops of the metrics scraper (`refresh`, `record` and `sameTarget` of
  `lib/agent/scrape/scraper.go`, `round` of `target.go`).

  A refresh that got a target list and a round that hands in its result are one step each, under
  `s.mu`. A loop is its target's URL and the number of the refresh that made it (`born`); Go's maps
  are functions from the URL. The pushes, the agent's own series and `stopAll` are left out.
-/

namespace Vraxel.Agent

open Net Strconv Interleave Transition

structure ScrapeTarget where
  url : String
  labels : Finmap fun _ : String => String
  deriving DecidableEq

structure ScrapeTargetsResponse where
  targets : List ScrapeTarget
  pushURL : String
  intervalSec : Int

structure TargetLoop where
  target : ScrapeTarget
  interval : Int
  born : Nat
  deriving DecidableEq

structure ScrapeResult where
  labels : Finmap fun _ : String => String
  up : Bool
  duration : Int

/-- `running` are the loops that were started and not stopped. -/
structure Scraper where
  targets : String → Option TargetLoop := fun _ => none
  results : String → Option (TargetLoop × ScrapeResult) := fun _ => none
  running : TargetLoop → Bool := fun _ => false
  refreshes : Nat := 0
  latest : Option (ScrapeTargetsResponse × Network) := none

def sameTarget (a b : ScrapeTarget) : Bool :=
  a.url = b.url ∧ a.labels.keys.card = b.labels.keys.card ∧
    -- a key that is missing reads as the empty string
    ∀ k ∈ a.labels.keys, (b.labels.lookup k).getD "" = (a.labels.lookup k).getD ""

def defaultInterval : Int := 15 * second

def ScrapeTargetsResponse.interval (resp : ScrapeTargetsResponse) : Int :=
  if resp.intervalSec > 0 then toInt64 (resp.intervalSec * second) else defaultInterval

inductive ScrapeRound where
  | poolFull
  | scraped (err : Option String) (duration : Int)

def TargetLoop.outcome (l : TargetLoop) : ScrapeRound → ScrapeResult
  | .poolFull => ⟨l.target.labels, false, 0⟩
  | .scraped err duration => ⟨l.target.labels, err.isNone, duration⟩

inductive ScrapeEvent where
  | refresh (resp : ScrapeTargetsResponse) (net : Network)
  | refreshFails
  | record (l : TargetLoop) (r : ScrapeRound)

section Refresh

variable (hostname : String → Option String) (net : Network) (resp : ScrapeTargetsResponse)

/-- The lookup for the `i`-th target of the list. -/
def checkLoopback (i : Nat) (url : String) : Bool :=
  match hostname url with
  | none => false
  | some host =>
    (((Tunnel.resolveHost host).alone (TunnelStmt.sem net)).result { TunnelState.init [] with lookups := i }).isOk

def loopbackTargets : List ScrapeTarget :=
  (resp.targets.zipIdx.filter fun t => checkLoopback hostname net t.2 t.1.url).map Prod.fst

def wantedTargets : String → Option ScrapeTarget :=
  (loopbackTargets hostname net resp).foldl (fun m t => Function.update m t.url (some t)) fun _ => none

def keepsLoop (l : TargetLoop) : Bool :=
  match wantedTargets hostname net resp l.target.url with
  | some t => resp.pushURL ≠ "" ∧ sameTarget l.target t ∧ l.interval = resp.interval
  | none => false

namespace Scraper

variable (s : Scraper)

def kept (url : String) : Option TargetLoop := (s.targets url).filter (keepsLoop hostname net resp)

def started (url : String) : Option TargetLoop :=
  if resp.pushURL ≠ "" ∧ s.kept hostname net resp url = none then
    (wantedTargets hostname net resp url).map fun t => ⟨t, resp.interval, s.refreshes⟩
  else none

def refresh : Scraper where
  targets url := (s.kept hostname net resp url).or (s.started hostname net resp url)
  results url := if (s.targets url).isSome ∧ s.kept hostname net resp url = none then none else s.results url
  running l :=
    s.started hostname net resp l.target.url = some l ∨
      s.running l ∧ ¬(s.targets l.target.url = some l ∧ s.kept hostname net resp l.target.url = none)
  refreshes := s.refreshes + 1
  latest := some (resp, net)

def record (l : TargetLoop) (r : ScrapeResult) : Scraper :=
  if s.targets l.target.url = some l then { s with results := Function.update s.results l.target.url (some (l, r)) }
  else s

end Scraper

end Refresh

namespace Scraper

def step (hostname : String → Option String) (s : Scraper) : ScrapeEvent → Scraper
  | .refresh resp net => s.refresh hostname net resp
  | .refreshFails => s
  | .record l r => s.record l (l.outcome r)

end Scraper

theorem sameTarget_self (a : ScrapeTarget) : sameTarget a a := by simp [sameTarget]

/-- Where no empty label has disappeared, unchanged labels are equal ones. -/
theorem eq_of_sameTarget {a b : ScrapeTarget} (h : sameTarget a b)
    (hblank : ∀ k, a.labels.lookup k = some "" → b.labels.lookup k ≠ none) : a = b := by
  simp only [sameTarget, decide_eq_true_eq] at h
  obtain ⟨hurl, hcard, hsame⟩ := h
  have hlookup (k : String) (hk : k ∈ a.labels.keys) : b.labels.lookup k = a.labels.lookup k := by
    obtain ⟨v, hv⟩ := Finmap.mem_iff.1 (Finmap.mem_keys.1 hk)
    have hs := hsame k hk
    cases hb : b.labels.lookup k with
    | none =>
      have hempty : v = "" := by simpa [hb, hv] using hs.symm
      exact absurd hb (hblank k (hempty ▸ hv))
    | some v' => simp_all
  have hsub : a.labels.keys ⊆ b.labels.keys := by
    intro k hk
    obtain ⟨v, hv⟩ := Finmap.mem_iff.1 (Finmap.mem_keys.1 hk)
    exact Finmap.mem_keys.2 (Finmap.mem_of_lookup_eq_some (by rw [hlookup k hk, hv]))
  have hkeys : a.labels.keys = b.labels.keys := Finset.eq_of_subset_of_card_le hsub hcard.ge
  have hlabels : a.labels = b.labels := by
    apply Finmap.ext_lookup
    intro k
    by_cases hk : k ∈ a.labels.keys
    · exact (hlookup k hk).symm
    · have hk' : k ∉ b.labels.keys := hkeys ▸ hk
      rw [Finmap.lookup_eq_none.2 hk, Finmap.lookup_eq_none.2 hk']
  cases a
  simp_all

namespace Scraper

variable {hostname : String → Option String} {net : Network} {resp : ScrapeTargetsResponse} {s : Scraper}

/-- The running loops are the registered ones, and a result was written by the loop now registered for its URL. -/
structure Tidy (s : Scraper) : Prop where
  url : ∀ url l, s.targets url = some l → l.target.url = url
  running : ∀ l, s.running l = true ↔ s.targets l.target.url = some l
  results : ∀ url l r, s.results url = some (l, r) → s.targets url = some l

variable {url : String} {l : TargetLoop}

theorem url_wantedTargets {t : ScrapeTarget} (h : wantedTargets hostname net resp url = some t) :
    t.url = url := by
  unfold wantedTargets at h
  generalize loopbackTargets hostname net resp = ts at h
  induction ts using List.reverseRecOn with
  | nil => simp at h
  | append_singleton ts t' ih =>
    rw [List.foldl_append, List.foldl_cons, List.foldl_nil, Function.update_apply] at h
    split at h
    · cases h
      exact Eq.symm ‹_›
    · exact ih h

theorem kept_eq_some :
    s.kept hostname net resp url = some l ↔ s.targets url = some l ∧ keepsLoop hostname net resp l = true :=
  Option.filter_eq_some_iff

theorem started_eq_some (h : s.started hostname net resp url = some l) :
    s.kept hostname net resp url = none ∧ resp.pushURL ≠ "" ∧ ∃ t, wantedTargets hostname net resp url = some t ∧
      l = ⟨t, resp.interval, s.refreshes⟩ := by
  unfold started at h
  split at h
  · obtain ⟨t, ht, rfl⟩ := Option.map_eq_some_iff.1 h
    exact ⟨(‹_ ∧ _› : _ ∧ _).2, (‹_ ∧ _› : _ ∧ _).1, t, ht, rfl⟩
  · cases h

theorem targets_refresh :
    (s.refresh hostname net resp).targets url = some l ↔
      s.kept hostname net resp url = some l ∨ s.started hostname net resp url = some l := by
  simp only [refresh, Option.or_eq_some_iff]
  constructor
  · rintro (h | h)
    · exact Or.inl h
    · exact Or.inr h.2
  · rintro (h | h)
    · exact Or.inl h
    · exact Or.inr ⟨(started_eq_some h).1, h⟩

theorem tidy_refresh (h : Tidy s) : Tidy (s.refresh hostname net resp) where
  url url l hl := by
    rcases targets_refresh.1 hl with hk | hs
    · exact h.url url l (kept_eq_some.1 hk).1
    · obtain ⟨_, _, t, ht, rfl⟩ := started_eq_some hs
      exact url_wantedTargets ht
  running l := by
    rw [targets_refresh]
    simp only [refresh, decide_eq_true_eq]
    constructor
    · rintro (hs | ⟨hr, hk⟩)
      · exact Or.inr hs
      · have hreg := (h.running l).1 hr
        cases hkept : s.kept hostname net resp l.target.url with
        | none => exact absurd ⟨hreg, hkept⟩ hk
        | some l' =>
          have := (kept_eq_some.1 hkept).1
          simp_all
    · rintro (hk | hs)
      · refine Or.inr ⟨(h.running l).2 (kept_eq_some.1 hk).1, ?_⟩
        simp [hk]
      · exact Or.inl hs
  results url l r hr := by
    simp only [refresh] at hr
    split at hr
    · cases hr
    · have hreg := h.results url l r hr
      rw [targets_refresh]
      cases hkept : s.kept hostname net resp url with
      | none => simp_all
      | some l' =>
        have := (kept_eq_some.1 hkept).1
        simp_all

theorem tidy_record (h : Tidy s) (l : TargetLoop) (r : ScrapeResult) : Tidy (s.record l r) := by
  unfold record
  split
  · refine ⟨h.url, h.running, fun url l' r' hr => ?_⟩
    simp only [Function.update_apply] at hr
    split at hr
    · simp_all
    · exact h.results url l' r' hr
  · exact h

theorem tidy_step (s : Scraper) (e : ScrapeEvent) (h : Tidy s) : Tidy (s.step hostname e) := by
  cases e with
  | refresh resp net => exact tidy_refresh h
  | refreshFails => exact h
  | record l r => exact tidy_record h l (l.outcome r)

/-- A loop whose target, labels and interval are those of the response goes on. -/
theorem running_refresh (h : Tidy s) (hl : s.running l = true) (hpush : resp.pushURL ≠ "")
    (ht : wantedTargets hostname net resp l.target.url = some l.target) (hi : l.interval = resp.interval) :
    (s.refresh hostname net resp).running l = true := by
  have hreg := (h.running l).1 hl
  rw [(tidy_refresh h).running, targets_refresh]
  refine Or.inl (kept_eq_some.2 ⟨hreg, ?_⟩)
  simp [keepsLoop, ht, hpush, hi, sameTarget_self]

/-! ### The latest response -/

def asked (resp : ScrapeTargetsResponse) : Int := if resp.intervalSec > 0 then resp.intervalSec * second else defaultInterval

/-- One loop for each loopback target of the latest response, with its labels and interval, and none without a push URL. -/
def Reconciled (hostname : String → Option String) (s : Scraper) : Prop :=
  ∀ resp net, s.latest = some (resp, net) → ∀ url, (s.targets url).map (fun l => (l.target, l.interval)) =
    if resp.pushURL = "" then none else (wantedTargets hostname net resp url).map fun t => (t, asked resp)

/-- The interval is a `Duration`, and no running loop has an empty label that its target now lacks. -/
def Legible (hostname : String → Option String) (s : Scraper) : ScrapeEvent → Prop
  | .refresh resp net => resp.intervalSec * second < 2 ^ 63 ∧
      ∀ l, s.running l = true → ∀ t, wantedTargets hostname net resp l.target.url = some t →
        ∀ k, l.target.labels.lookup k = some "" → t.labels.lookup k ≠ none
  | _ => True

theorem interval_eq_asked (h : resp.intervalSec * second < 2 ^ 63) : resp.interval = asked resp := by
  unfold ScrapeTargetsResponse.interval asked
  split
  · refine toInt64_eq_self ⟨?_, h⟩
    unfold second
    omega
  · rfl

theorem reconciled_refresh (h : Tidy s) (he : Legible hostname s (.refresh resp net)) :
    Reconciled hostname (s.refresh hostname net resp) := by
  intro resp' net' hlatest url
  cases hlatest
  have hi := interval_eq_asked he.1
  simp only [refresh]
  cases hkept : s.kept hostname net resp url with
  | some l =>
    obtain ⟨hreg, hkeeps⟩ := kept_eq_some.1 hkept
    have hurl := h.url url l hreg
    unfold keepsLoop at hkeeps
    split at hkeeps
    · rename_i t ht
      simp only [decide_eq_true_eq] at hkeeps
      obtain ⟨hpush, hsame, hint⟩ := hkeeps
      have hl : s.running l = true := (h.running l).2 (hurl ▸ hreg)
      have htarget : l.target = t := eq_of_sameTarget hsame (he.2 l hl t ht)
      rw [hurl] at ht
      simp [if_neg hpush, ht, htarget, hint, hi]
    · cases hkeeps
  | none =>
    by_cases hpush : resp.pushURL = ""
    · simp [started, hpush]
    · simp only [started, hkept, hpush, ne_eq, not_false_eq_true, and_self, if_true, Option.none_or, Option.map_map]
      cases wantedTargets hostname net resp url <;> simp [hi]

theorem reconciled_step (s : Scraper) (e : ScrapeEvent) (h : Tidy s ∧ Reconciled hostname s) (he : Legible hostname s e) :
    Tidy (s.step hostname e) ∧ Reconciled hostname (s.step hostname e) := by
  refine ⟨tidy_step s e h.1, ?_⟩
  cases e with
  | refresh resp net => exact reconciled_refresh h.1 he
  | refreshFails => exact h.2
  | record l r =>
    simp only [step, record]
    split <;> exact h.2

/-- In every run the running loops are the registered ones, results come from them, and an
unchanged loop is not restarted. Where every refresh is legible, the loops are those of the latest response. -/
theorem scrape_reconciled (hostname : String → Option String) (es : List ScrapeEvent) :
    (∀ s ∈ states (step hostname) {} es, Tidy s ∧ ∀ resp net l, s.running l = true → resp.pushURL ≠ "" →
      wantedTargets hostname net resp l.target.url = some l.target → l.interval = resp.interval →
        (s.refresh hostname net resp).running l = true) ∧
      (Along (step hostname) (Legible hostname) {} es → ∀ s ∈ states (step hostname) {} es, Reconciled hostname s) := by
  have hnew : Tidy {} := ⟨by simp, by simp, by simp⟩
  refine ⟨fun s hs => ?_, fun hes s hs => ?_⟩
  · have htidy : Tidy s := forall_states_of_step tidy_step hnew es s hs
    exact ⟨htidy, fun resp net l hl => running_refresh htidy hl⟩
  · have hnone : Reconciled hostname {} := by simp [Reconciled]
    exact (forall_states_of_along reconciled_step ⟨hnew, hnone⟩ hes s hs).2

/-- An empty label is dropped and another one added: the loop goes on with the old labels. -/
theorem relabelled_loop_kept :
    let net : Network := ⟨fun _ _ => .error "", fun _ => none, fun _ _ _ => .ok ()⟩
    let url := "http://127.0.0.1:9100/metrics"
    let list (labels : List (String × String)) : ScrapeTargetsResponse :=
      ⟨[⟨url, (labels.map fun l => (⟨l.1, l.2⟩ : Sigma fun _ : String => String)).toFinmap⟩], "http://vm", 15⟩
    let s := run (step fun _ => some "127.0.0.1") {} [.refresh (list [("team", "")]) net, .refresh (list [("env", "prod")]) net]
    (s.targets url).map (fun l => (l.target.labels.lookup "team", l.target.labels.lookup "env", l.born)) =
      some (some "", none, 0) ∧ ¬ Reconciled (fun _ => some "127.0.0.1") s := by
  intro net url list s
  exact ⟨by decide, fun h => absurd (h _ _ rfl url) (by decide)⟩

end Scraper

end Vraxel.Agent
