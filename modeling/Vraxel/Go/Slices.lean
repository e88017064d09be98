import Mathlib.Data.List.Basic
import Mathlib.Tactic.Common
/-
  Slices and their backing arrays. A slice is a window at the start of an array; an append writes
  into the array while there is room behind the window and moves to a new array otherwise.
-/

namespace Vraxel.Slices

/-- The backing arrays; the capacity of an array is its length. -/
abbrev Heap (α : Type) := List (List α)

structure Slice where
  array : Nat
  len : Nat

variable {α : Type}

def Heap.array (heap : Heap α) (s : Slice) : List α := (heap[s.array]?).getD []

/-- The slice is a window of its array. -/
def Slice.Valid (heap : Heap α) (s : Slice) : Prop := s.array < heap.length ∧ s.len ≤ (heap.array s).length

def Slice.values (heap : Heap α) (s : Slice) : List α := (heap.array s).take s.len

def values (heap : Heap α) (s : Option Slice) : List α := (s.map (·.values heap)).getD []

@[simp] theorem values_none (heap : Heap α) : values heap none = [] := rfl

@[simp] theorem values_some (heap : Heap α) (s : Slice) : values heap (some s) = s.values heap := rfl

/-- `append(s, x)`. A new array has the elements, the new one, and `room` behind them. -/
def append (room : List α) (heap : Heap α) (s : Option Slice) (x : α) : Heap α × Slice :=
  match s with
  | none => (heap ++ [x :: room], ⟨heap.length, 1⟩)
  | some s =>
    if s.len < (heap.array s).length then
      (heap.set s.array ((heap.array s).set s.len x), ⟨s.array, s.len + 1⟩)
    else (heap ++ [s.values heap ++ x :: room], ⟨heap.length, s.len + 1⟩)

/-- `append(s[:i], s[i+1:]...)`: the elements behind `i` move down by one, in place. -/
def removeAt (heap : Heap α) (s : Slice) (i : Nat) : Heap α × Slice :=
  let array := heap.array s
  (heap.set s.array (array.take i ++ (array.take s.len).drop (i + 1) ++ array.drop (s.len - 1)), ⟨s.array, s.len - 1⟩)

/-! Heaps that grow or change in one array. -/

section Frames

variable {heap : Heap α} {s t : Slice}

theorem array_set_self (h : s.array < heap.length) (xs : List α) (len : Nat) :
    Heap.array (heap.set s.array xs) ⟨s.array, len⟩ = xs := by
  rw [Heap.array, List.getElem?_set_self h, Option.getD_some]

theorem array_set_of_ne (h : s.array ≠ t.array) (xs : List α) : Heap.array (heap.set s.array xs) t = heap.array t := by
  rw [Heap.array, List.getElem?_set_ne h, Heap.array]

theorem array_append_of_lt (h : t.array < heap.length) (xs : List α) : Heap.array (heap ++ [xs]) t = heap.array t := by
  rw [Heap.array, List.getElem?_append_left h, Heap.array]

theorem array_append_last (xs : List α) (len : Nat) : Heap.array (heap ++ [xs]) ⟨heap.length, len⟩ = xs := by
  rw [Heap.array, List.getElem?_concat_length, Option.getD_some]

/-- The slices of other arrays hold what they held. -/
def Unchanged (heap heap' : Heap α) (array : Option Nat) : Prop :=
  ∀ t : Slice, t.Valid heap → some t.array ≠ array → t.Valid heap' ∧ t.values heap' = t.values heap

theorem unchanged_set (s : Slice) (xs : List α) : Unchanged heap (heap.set s.array xs) (some s.array) := by
  intro t ht hne
  have harray : Heap.array (heap.set s.array xs) t = heap.array t :=
    array_set_of_ne (fun heq => hne (congrArg some heq.symm)) xs
  unfold Slice.Valid Slice.values
  rw [harray, List.length_set]
  exact ⟨ht, rfl⟩

theorem unchanged_append (xs : List α) (array : Option Nat) : Unchanged heap (heap ++ [xs]) array := by
  intro t ht _
  have harray := array_append_of_lt ht.1 xs
  unfold Slice.Valid Slice.values
  rw [harray, List.length_append]
  exact ⟨⟨Nat.lt_add_right _ ht.1, ht.2⟩, rfl⟩

end Frames

theorem append_spec {room : List α} {heap : Heap α} {s : Option Slice} (hs : ∀ t, s = some t → t.Valid heap) (x : α) :
    (append room heap s x).2.Valid (append room heap s x).1 ∧
      (append room heap s x).2.values (append room heap s x).1 = values heap s ++ [x] ∧
      (some (append room heap s x).2.array = s.map (·.array) ∨ (append room heap s x).2.array = heap.length) ∧
      Unchanged heap (append room heap s x).1 (s.map (·.array)) := by
  cases s with
  | none =>
    refine ⟨⟨by simp [append], ?_⟩, ?_, .inr rfl, unchanged_append _ _⟩
    · rw [append, array_append_last]
      simp
    · rw [append, Slice.values, array_append_last]
      simp
  | some t =>
    obtain ⟨harray, hlen⟩ := hs t rfl
    by_cases hroom : t.len < (heap.array t).length
    · simp only [append, hroom, if_true]
      refine ⟨⟨by simpa using harray, ?_⟩, ?_, .inl rfl, unchanged_set _ _⟩
      · rw [array_set_self harray, List.length_set]
        exact hroom
      · rw [Slice.values, array_set_self harray, values_some, Slice.values]
        -- the element goes right behind the window
        rw [List.take_add_one, List.take_set_of_le (Nat.le_refl _), List.getElem?_set_self hroom]
        rfl
    · have hvalues : (t.values heap).length = t.len := by simp [Slice.values, hlen]
      rw [append, if_neg hroom]
      refine ⟨⟨by simp, ?_⟩, ?_, .inr rfl, unchanged_append _ _⟩
      · rw [array_append_last]
        simp [hvalues]
      · rw [Slice.values, array_append_last, values_some, ← hvalues, List.take_length_add_append]
        rfl

theorem removeAt_spec {heap : Heap α} {s : Slice} (hs : s.Valid heap) {i : Nat} (hi : i < s.len) :
    (removeAt heap s i).2.Valid (removeAt heap s i).1 ∧
      (removeAt heap s i).2.values (removeAt heap s i).1 = (s.values heap).eraseIdx i ∧
      (removeAt heap s i).2.array = s.array ∧ Unchanged heap (removeAt heap s i).1 (some s.array) := by
  obtain ⟨harray, hlen⟩ := hs
  have htake : (heap.array s).take i = ((heap.array s).take s.len).take i := by
    rw [List.take_take, Nat.min_eq_left (Nat.le_of_lt hi)]
  have hlength : ((heap.array s).take i ++ ((heap.array s).take s.len).drop (i + 1)).length = s.len - 1 := by
    simp
    omega
  refine ⟨⟨by simpa [removeAt] using harray, ?_⟩, ?_, rfl, unchanged_set _ _⟩
  · rw [removeAt, array_set_self harray, List.length_append, hlength]
    simp
  · rw [removeAt, Slice.values, array_set_self harray, List.take_left' hlength, Slice.values, List.eraseIdx_eq_take_drop_succ, htake]

end Vraxel.Slices
