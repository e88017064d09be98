import Vraxel.Go.Slices
/-
  The waiters of the data hub (`pkg/apis/agentgw/datachannel.go`): for each host a slice of
  the channels that are waited on. A slice that was taken out of the map is read after the lock is
  given back, so the backing arrays are part of the state.
-/

namespace Vraxel.AgentGw

open Slices

structure WaiterMap where
  arrays : Heap Nat
  entries : Int → Option Slice
  valid : ∀ host w, entries host = some w → w.Valid arrays ∧ 0 < w.len
  apart : ∀ host host' w w', entries host = some w → entries host' = some w' → w.array = w'.array → host = host'

namespace WaiterMap

def empty : WaiterMap where
  arrays := []
  entries := fun _ => none
  valid := fun _ _ h => by cases h
  apart := fun _ _ _ _ h => by cases h

def queue (m : WaiterMap) (host : Int) : List Nat := values m.arrays (m.entries host)

def Detached (m : WaiterMap) (w : Slice) : Prop :=
  w.Valid m.arrays ∧ ∀ host w', m.entries host = some w' → w'.array ≠ w.array

theorem entries_eq_none_iff (m : WaiterMap) (host : Int) : m.entries host = none ↔ m.queue host = [] := by
  unfold queue
  cases h : m.entries host with
  | none => simp
  | some w =>
    obtain ⟨⟨_, hlen⟩, hpos⟩ := m.valid host w h
    refine iff_of_false (by simp) ?_
    intro hnil
    have hlength := congrArg List.length hnil
    rw [values_some, Slice.values, List.length_take, List.length_nil] at hlength
    omega

/-! The entry of one host changes. -/

section SetEntry

variable (m : WaiterMap) (host : Int) (arrays : Heap Nat) (entry : Option Slice)

/-- A new slice is in the host's old array or in a new one, and the slices of other arrays are
as they were. -/
structure Fits : Prop where
  valid : ∀ w, entry = some w → w.Valid arrays ∧ 0 < w.len
  array : ∀ w, entry = some w → some w.array = (m.entries host).map (·.array) ∨ w.array = m.arrays.length
  unchanged : Unchanged m.arrays arrays ((m.entries host).map (·.array))

variable {m host arrays entry}

theorem ne_array_of_ne {host' : Int} {w' : Slice} (hne : host' ≠ host) (hw' : m.entries host' = some w') :
    some w'.array ≠ (m.entries host).map (·.array) := by
  intro heq
  obtain ⟨w, hw, harray⟩ := Option.map_eq_some_iff.1 heq.symm
  exact hne (m.apart host' host w' w hw' hw harray.symm)

theorem Fits.ne_array (h : m.Fits host arrays entry) {t : Slice} (ht : t.Valid m.arrays)
    (hne : some t.array ≠ (m.entries host).map (·.array)) {w : Slice} (hw : entry = some w) : t.array ≠ w.array := by
  intro heq
  rcases h.array w hw with hold | hnew
  · exact hne (heq ▸ hold)
  · have := ht.1
    omega

def setEntry (m : WaiterMap) {host : Int} {arrays : Heap Nat} {entry : Option Slice} (h : m.Fits host arrays entry) :
    WaiterMap where
  arrays := arrays
  entries := Function.update m.entries host entry
  valid := by
    intro host' w' hw'
    by_cases heq : host' = host
    · rw [heq, Function.update_self] at hw'
      exact h.valid w' hw'
    · rw [Function.update_of_ne heq] at hw'
      obtain ⟨hvalid, hpos⟩ := m.valid host' w' hw'
      exact ⟨(h.unchanged w' hvalid (ne_array_of_ne heq hw')).1, hpos⟩
  apart := by
    intro h₁ h₂ w₁ w₂ hw₁ hw₂ harray
    by_cases heq₁ : h₁ = host <;> by_cases heq₂ : h₂ = host
    · exact heq₁.trans heq₂.symm
    · rw [heq₁, Function.update_self] at hw₁
      rw [Function.update_of_ne heq₂] at hw₂
      exact absurd harray.symm (h.ne_array (m.valid h₂ w₂ hw₂).1 (ne_array_of_ne heq₂ hw₂) hw₁)
    · rw [Function.update_of_ne heq₁] at hw₁
      rw [heq₂, Function.update_self] at hw₂
      exact absurd harray (h.ne_array (m.valid h₁ w₁ hw₁).1 (ne_array_of_ne heq₁ hw₁) hw₂)
    · rw [Function.update_of_ne heq₁] at hw₁
      rw [Function.update_of_ne heq₂] at hw₂
      exact m.apart h₁ h₂ w₁ w₂ hw₁ hw₂ harray

variable (h : m.Fits host arrays entry)

include h

theorem entries_setEntry_self : (m.setEntry h).entries host = entry := by
  show Function.update m.entries host entry host = entry
  rw [Function.update_self]

theorem entries_setEntry_of_ne {host' : Int} (hne : host' ≠ host) :
    (m.setEntry h).entries host' = m.entries host' := by
  show Function.update m.entries host entry host' = m.entries host'
  rw [Function.update_of_ne hne]

theorem queue_setEntry :
    (m.setEntry h).queue = Function.update m.queue host (values arrays entry) := by
  funext host'
  by_cases heq : host' = host
  · rw [heq, Function.update_self, queue, entries_setEntry_self]
    rfl
  · rw [Function.update_of_ne heq, queue, entries_setEntry_of_ne h heq, queue]
    cases hw' : m.entries host' with
    | none => rfl
    | some w' => exact (h.unchanged w' (m.valid host' w' hw').1 (ne_array_of_ne heq hw')).2

theorem detached_setEntry {t : Slice} (ht : m.Detached t) :
    (m.setEntry h).Detached t ∧ t.values (m.setEntry h).arrays = t.values m.arrays := by
  have hne : some t.array ≠ (m.entries host).map (·.array) := by
    intro heq
    obtain ⟨w, hw, harray⟩ := Option.map_eq_some_iff.1 heq.symm
    exact ht.2 host w hw harray
  obtain ⟨hvalid, hvalues⟩ := h.unchanged t ht.1 hne
  refine ⟨⟨hvalid, ?_⟩, hvalues⟩
  intro host' w hw
  by_cases heq : host' = host
  · rw [heq, entries_setEntry_self] at hw
    exact (h.ne_array ht.1 hne hw).symm
  · rw [entries_setEntry_of_ne h heq] at hw
    exact ht.2 host' w hw

end SetEntry

variable (m : WaiterMap) (host : Int) (ready : Nat)

theorem valid_entries {w : Slice} (hw : m.entries host = some w) : w.Valid m.arrays := (m.valid host w hw).1

section Enqueue

variable (grow : Nat → List Nat)

theorem fits_append : m.Fits host (append (grow m.arrays.length) m.arrays (m.entries host) ready).1
    (some (append (grow m.arrays.length) m.arrays (m.entries host) ready).2) := by
  obtain ⟨hvalid, hvalues, harray, hunchanged⟩ := append_spec (fun _ hw => m.valid_entries host hw) ready
  refine ⟨fun w hw => ?_, fun w hw => ?_, hunchanged⟩
  · cases hw
    refine ⟨hvalid, ?_⟩
    have hlength := congrArg List.length hvalues
    rw [Slice.values, List.length_take, List.length_append, List.length_singleton] at hlength
    omega
  · cases hw
    exact harray

/-- `grow n` is what is behind the elements of the array that is made as the `n`-th. -/
def enqueue : WaiterMap := m.setEntry (m.fits_append host ready grow)

theorem queue_enqueue : (m.enqueue host ready grow).queue = Function.update m.queue host (m.queue host ++ [ready]) := by
  rw [enqueue, queue_setEntry, values_some, (append_spec (fun _ hw => m.valid_entries host hw) ready).2.1, queue]

end Enqueue

section Delete

theorem fits_none : m.Fits host m.arrays none :=
  ⟨fun _ hw => (by cases hw), fun _ hw => (by cases hw), fun _ ht _ => ⟨ht, rfl⟩⟩

def delete : WaiterMap := m.setEntry (m.fits_none host)

theorem queue_delete : (m.delete host).queue = Function.update m.queue host [] := queue_setEntry _

theorem detached_of_entries {w : Slice} (hw : m.entries host = some w) : (m.delete host).Detached w := by
  refine ⟨m.valid_entries host hw, ?_⟩
  intro host' w' hw' harray
  by_cases heq : host' = host
  · rw [heq, delete, entries_setEntry_self] at hw'
    cases hw'
  · rw [delete, entries_setEntry_of_ne _ heq] at hw'
    exact heq (m.apart host' host w' w hw' hw harray)

end Delete

section Cancel

def removeWaiter (arrays : Heap Nat) (list : Option Slice) (ready : Nat) : Heap Nat × Option Slice :=
  match list with
  | none => (arrays, none)
  | some list =>
    match (list.values arrays).idxOf? ready with
    | none => (arrays, some list)
    | some i => ((removeAt arrays list i).1, some (removeAt arrays list i).2)

def dropEmpty (list : Option Slice) : Option Slice := list.filter (·.len ≠ 0)

theorem values_dropEmpty (arrays : Heap Nat) (list : Option Slice) : values arrays (dropEmpty list) = values arrays list := by
  cases list with
  | none => rfl
  | some w =>
    by_cases hlen : w.len = 0
    · simp [dropEmpty, Option.filter, hlen, Slice.values]
    · simp [dropEmpty, Option.filter, hlen]

theorem removeWaiter_spec : values (removeWaiter m.arrays (m.entries host) ready).1 (removeWaiter m.arrays (m.entries host) ready).2 =
      (m.queue host).erase ready ∧
    (∀ w, (removeWaiter m.arrays (m.entries host) ready).2 = some w → w.Valid (removeWaiter m.arrays (m.entries host) ready).1 ∧
      some w.array = (m.entries host).map (·.array)) ∧
    Unchanged m.arrays (removeWaiter m.arrays (m.entries host) ready).1 ((m.entries host).map (·.array)) := by
  unfold queue
  cases hlist : m.entries host with
  | none => exact ⟨rfl, fun w hw => (by cases hw), fun t ht _ => ⟨ht, rfl⟩⟩
  | some list =>
    have hvalid := m.valid_entries host hlist
    cases hi : (list.values m.arrays).idxOf? ready with
    | none =>
      have herase : (list.values m.arrays).erase ready = list.values m.arrays :=
        List.erase_of_not_mem (List.idxOf?_eq_none_iff.1 hi)
      simp only [removeWaiter, hi, values_some, herase]
      refine ⟨trivial, fun w hw => ?_, fun t ht _ => ⟨ht, rfl⟩⟩
      cases hw
      exact ⟨hvalid, rfl⟩
    | some i =>
      have hmem := List.isSome_idxOf?.1 (Option.isSome_iff_exists.2 ⟨i, hi⟩)
      have hidx : i = (list.values m.arrays).idxOf ready := by
        rw [List.idxOf_eq_getD_idxOf?, hi, Option.getD_some]
      have hlt : i < list.len := by
        have := List.idxOf_lt_length_of_mem hmem
        rw [← hidx, Slice.values, List.length_take] at this
        omega
      obtain ⟨hvalid', hvalues, harray, hunchanged⟩ := removeAt_spec hvalid hlt
      simp only [removeWaiter, hi, values_some]
      refine ⟨?_, fun w hw => ?_, hunchanged⟩
      · rw [hvalues, List.erase_eq_eraseIdx_of_idxOf hidx.symm]
      · cases hw
        exact ⟨hvalid', by rw [harray, Option.map_some]⟩

theorem fits_removeWaiter : m.Fits host (removeWaiter m.arrays (m.entries host) ready).1
    (dropEmpty (removeWaiter m.arrays (m.entries host) ready).2) := by
  obtain ⟨_, hvalid, hunchanged⟩ := m.removeWaiter_spec host ready
  refine ⟨fun w hw => ?_, fun w hw => ?_, hunchanged⟩
  · obtain ⟨hw, hlen⟩ := Option.filter_eq_some_iff.1 hw
    exact ⟨(hvalid w hw).1, Nat.pos_of_ne_zero (by simpa using hlen)⟩
  · exact .inl (hvalid w (Option.filter_eq_some_iff.1 hw).1).2

def cancelWaiter : WaiterMap := m.setEntry (m.fits_removeWaiter host ready)

theorem queue_cancelWaiter : (m.cancelWaiter host ready).queue = Function.update m.queue host ((m.queue host).erase ready) := by
  rw [cancelWaiter, queue_setEntry, values_dropEmpty, (m.removeWaiter_spec host ready).1]

end Cancel

end WaiterMap

end Vraxel.AgentGw
