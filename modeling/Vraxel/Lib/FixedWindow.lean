import Mathlib.Data.List.Count
import Mathlib.Tactic.Linarith
/-
  Fixed-window counters. An event that is counted after the end of the window starts a new one; while
  the counter is full and its window lasts, it locks.
-/

namespace FixedWindow

structure Counter where
  count : Nat
  start : Int

def bump (window now : Int) : Option Counter → Counter
  | none => ⟨1, now⟩
  | some c => if c.start < now - window then ⟨1, now⟩ else ⟨c.count + 1, c.start⟩

def Counter.locked (limit : Nat) (window now : Int) (c : Counter) : Bool :=
  limit ≤ c.count && now < c.start + window

theorem Counter.locked_mono {limit : Nat} {window now now' : Int} {c : Counter} (hnow : now ≤ now')
    (h : c.locked limit window now') : c.locked limit window now := by
  simp only [locked, Bool.and_eq_true, decide_eq_true_eq] at h ⊢
  exact ⟨h.1, by omega⟩

def events (log : List Int) (p : Int → Prop) [DecidablePred p] : Nat := log.countP fun t => p t

section Events

variable {log : List Int} {p q : Int → Prop} [DecidablePred p] [DecidablePred q]

theorem events_mono (h : ∀ t ∈ log, p t → q t) : events log p ≤ events log q :=
  List.countP_mono_left fun t ht hp => decide_eq_true (h t ht (of_decide_eq_true hp))

theorem events_eq_zero (h : ∀ t ∈ log, ¬ p t) : events log p = 0 :=
  List.countP_eq_zero.2 fun t ht hp => h t ht (of_decide_eq_true hp)

theorem events_append (t : Int) : events (log ++ [t]) p = events log p + if p t then 1 else 0 := by
  simp [events, List.countP_append, List.countP_cons]

theorem events_append_le (t : Int) : events (log ++ [t]) p ≤ events log p + 1 := by
  rw [events_append]
  split <;> omega

end Events

structure Accounts (window : Int) (c : Option Counter) (now : Int) (log : List Int) (uncounted : Nat) : Prop where
  past : ∀ t ∈ log, t ≤ now
  single : uncounted ≤ 1
  counted : ∀ k, c = some k → events log (fun t => k.start ≤ t) ≤ k.count + uncounted
  late : ∀ k, c = some k → events log (fun t => k.start + window < t) ≤ uncounted
  recent : c = none → events log (fun t => now ≤ t) ≤ uncounted

/-- No more events in the counter's window than the limit. -/
def Within (limit : Nat) (window : Int) (c : Option Counter) (log : List Int) : Prop :=
  ∀ k, c = some k → events log (fun t => k.start ≤ t ∧ t < k.start + window) ≤ limit

variable {window now : Int} {c : Option Counter} {log : List Int} {uncounted limit : Nat}

theorem accounts_nil (window now : Int) (c : Option Counter) : Accounts window c now [] 0 :=
  ⟨by simp, by simp, by simp [events], by simp [events], by simp [events]⟩

theorem Accounts.tick (h : Accounts window c now log uncounted) (d : Nat) : Accounts window c (now + d) log uncounted := by
  refine ⟨fun t ht => ?_, h.single, h.counted, h.late, fun hc => ?_⟩
  · have := h.past t ht
    omega
  · refine le_trans (events_mono fun t _ ht => ?_) (h.recent hc)
    omega

theorem Accounts.event (h : Accounts window c now log 0) : Accounts window c now (log ++ [now]) 1 := by
  refine ⟨fun t ht => ?_, le_rfl, fun k hk => ?_, fun k hk => ?_, fun hc => ?_⟩
  · rcases List.mem_append.1 ht with ht | ht
    · exact h.past t ht
    · rw [List.mem_singleton.1 ht]
  · exact (events_append_le now).trans (Nat.add_le_add_right (h.counted k hk) 1)
  · exact (events_append_le now).trans (Nat.add_le_add_right (h.late k hk) 1)
  · exact (events_append_le now).trans (Nat.add_le_add_right (h.recent hc) 1)

variable (h : Accounts window c now log uncounted)

include h

theorem Accounts.restart
    (hc : ∀ k, c = some k → k.start < now - window) : events log (fun t => now ≤ t) ≤ uncounted := by
  cases c with
  | none => exact h.recent rfl
  | some k =>
    have hk := hc k rfl
    refine le_trans (events_mono fun t _ ht => ?_) (h.late k rfl)
    omega

/-- A count, of the event that is not counted yet (`uncounted' < uncounted`) or of
something else. -/
theorem Accounts.bump (hwindow : 0 ≤ window) {uncounted' : Nat}
    (hle : uncounted' ≤ uncounted) (hone : uncounted ≤ uncounted' + 1) :
    Accounts window (some (FixedWindow.bump window now c)) now log uncounted' := by
  have hsingle : uncounted' ≤ 1 := hle.trans h.single
  -- a window that starts now has at most the one event, and none after its end
  have hnew : ∀ hc : ∀ k, c = some k → k.start < now - window, Accounts window (some ⟨1, now⟩) now log uncounted' := by
    intro hc
    have hrestart := h.restart hc
    refine ⟨h.past, hsingle, fun k hk => ?_, fun k hk => ?_, fun hnone => by cases hnone⟩
    · cases hk
      show _ ≤ 1 + uncounted'
      exact hrestart.trans (by omega)
    · cases hk
      refine le_of_eq_of_le (events_eq_zero fun t ht hlt => ?_) (Nat.zero_le _)
      have := h.past t ht
      have hlt : now + window < t := hlt
      omega
  cases c with
  | none => exact hnew fun k hk => by cases hk
  | some k =>
    by_cases hk : k.start < now - window
    · rw [FixedWindow.bump, if_pos hk]
      exact hnew fun k' hk' => by cases hk'; exact hk
    · rw [FixedWindow.bump, if_neg hk]
      refine ⟨h.past, hsingle, fun k' hk' => ?_, fun k' hk' => ?_, fun hnone => by cases hnone⟩
      · cases hk'
        have := h.counted k rfl
        show _ ≤ k.count + 1 + uncounted'
        exact this.trans (by omega)
      · cases hk'
        refine le_of_eq_of_le (events_eq_zero fun t ht hlt => ?_) (Nat.zero_le _)
        have := h.past t ht
        have hlt : k.start + window < t := hlt
        omega

theorem Accounts.drop (hc : ∀ k, c = some k → k.start < now - window) :
    Accounts window none now log uncounted :=
  ⟨h.past, h.single, fun k hk => (by cases hk), fun k hk => (by cases hk), fun _ => h.restart hc⟩

omit h

theorem Within.event (h : Within limit window c log) (ha : Accounts window c now log 0)
    (hfree : ∀ k, c = some k → ¬ k.locked limit window now) : Within limit window c (log ++ [now]) := by
  intro k hk
  have hunlocked := hfree k hk
  simp only [Counter.locked, Bool.and_eq_true, decide_eq_true_eq, not_and, Int.not_lt] at hunlocked
  by_cases hcount : limit ≤ k.count
  · -- the window is over, the event is not in it
    rw [events_append, if_neg (by omega)]
    exact h k hk
  · have hcounted := ha.counted k hk
    calc events (log ++ [now]) (fun t => k.start ≤ t ∧ t < k.start + window)
        ≤ events log (fun t => k.start ≤ t ∧ t < k.start + window) + 1 := events_append_le now
      _ ≤ events log (fun t => k.start ≤ t) + 1 := Nat.add_le_add_right (events_mono fun _ _ ht => ht.1) 1
      _ ≤ limit := by omega

theorem Within.bump (h : Within limit window c log) (ha : Accounts window c now log uncounted) (hlimit : 0 < limit) :
    Within limit window (some (FixedWindow.bump window now c)) log := by
  have hnew : ∀ hc : ∀ k, c = some k → k.start < now - window, Within limit window (some ⟨1, now⟩) log := by
    intro hc k hk
    cases hk
    calc events log (fun t => now ≤ t ∧ t < now + window)
        ≤ events log (fun t => now ≤ t) := events_mono fun _ _ ht => ht.1
      _ ≤ uncounted := ha.restart hc
      _ ≤ limit := ha.single.trans hlimit
  cases c with
  | none => exact hnew fun k hk => by cases hk
  | some k =>
    by_cases hk : k.start < now - window
    · rw [FixedWindow.bump, if_pos hk]
      exact hnew fun k' hk' => by cases hk'; exact hk
    · rw [FixedWindow.bump, if_neg hk]
      intro k' hk'
      cases hk'
      exact h k rfl

end FixedWindow
