import Vraxel.Lib.Table
import Vraxel.Lib.Txn
/-
  Statements on the tables of a store. A `Slot` is one table; a statement that violates a constraint
  fails and writes nothing.
-/

namespace Relational

open Txn

structure Slot (S Row : Type) [Keyed Row] where
  get : S → Table Row
  set : Table Row → S → S
  get_set : ∀ t s, get (set t s) = t
  set_get : ∀ s, set (get s) s = s

namespace Slot

variable {S E Row : Type} [Keyed Row] (slot : Slot S Row)

def insert (check : S → Except E Unit) (row : Row) : M S E Row :=
  stmt fun s => (check s).map fun _ => ((slot.get s).inserted row, slot.set ((slot.get s).insert row) s)

/-- `INSERT ... ON CONFLICT DO NOTHING`, with the number of rows inserted. A row
that is not inserted is not tested either. -/
def insertIfNew (conflict : Row → Bool) (check : S → Except E Unit) (row : Row) : M S E Nat :=
  stmt fun s =>
    if (slot.get s).exists? conflict then .ok (0, s)
    else (check s).map fun _ => (1, slot.set ((slot.get s).insert row) s)

/-- `INSERT ... ON CONFLICT DO UPDATE SET`: the rows in conflict are updated, or
the row is inserted. -/
def upsert (conflict : Row → Bool) (check : S → Except E Unit) (row : Row) (f : Row → Row) : M S E Unit :=
  stmt fun s =>
    if (slot.get s).exists? conflict then .ok ((), slot.set ((slot.get s).update conflict f) s)
    else (check s).map fun _ => ((), slot.set ((slot.get s).insert row) s)

def delete (p : S → Row → Bool) : M S E Nat :=
  stmt fun s => .ok ((slot.get s).count (p s), slot.set ((slot.get s).delete (p s)) s)

/-- `UPDATE ... SET ... WHERE`, with the number of rows updated. The constraints
are only tested if there is a row to update. -/
def update (p : Row → Bool) (check : S → Except E Unit) (f : Row → Row) : M S E Nat :=
  stmt fun s =>
    if (slot.get s).exists? p then
      (check s).map fun _ => ((slot.get s).count p, slot.set ((slot.get s).update p f) s)
    else .ok (0, s)

variable {slot} {s s' : S} {row : Row} {check : S → Except E Unit} {n : Nat}

theorem insert_ok_iff {r : Row} : (slot.insert check row).run s = (.ok r, s') ↔
    check s = .ok () ∧ (slot.get s).inserted row = r ∧ slot.set ((slot.get s).insert row) s = s' := by
  rw [insert, stmt_ok_iff]
  rcases check s with e | ⟨⟩ <;> simp [Except.map]

theorem exec_insert [Decidable (check s = .ok ())] : (slot.insert check row).exec s =
    if check s = .ok () then slot.set ((slot.get s).insert row) s else s := by
  split <;> rename_i h
  · simp [M.exec, M.run, insert, stmt, h, Except.map]
  · rcases hchk : check s with e | ⟨⟩
    · simp [M.exec, M.run, insert, stmt, hchk, Except.map]
    · exact absurd hchk h

theorem run_insert_of_error {e : E} (h : check s = .error e) : (slot.insert check row).run s = (.error e, s) := by
  simp only [insert, M.run, stmt, h]
  rfl

theorem insert_cases (slot : Slot S Row) (check : S → Except E Unit) (row : Row) (s : S) :
    (slot.insert check row).run s = (.ok ((slot.get s).inserted row), slot.set ((slot.get s).insert row) s) ∨
      ∃ e, (slot.insert check row).run s = (.error e, s) := by
  cases h : check s with
  | ok u => exact .inl (insert_ok_iff.2 ⟨h, rfl, rfl⟩)
  | error e => exact .inr ⟨e, run_insert_of_error h⟩

theorem insertIfNew_ok_iff {conflict : Row → Bool} :
    (slot.insertIfNew conflict check row).run s = (.ok n, s') ↔
      ((slot.get s).exists? conflict ∧ 0 = n ∧ s = s') ∨
      ((slot.get s).exists? conflict = false ∧ check s = .ok () ∧ 1 = n ∧
        slot.set ((slot.get s).insert row) s = s') := by
  rw [insertIfNew, stmt_ok_iff]
  cases h : (slot.get s).exists? conflict
  · rcases check s with e | ⟨⟩ <;> simp [Except.map]
  · simp

variable {f : Row → Row}

theorem upsert_ok_iff {conflict : Row → Bool} {a : Unit} :
    (slot.upsert conflict check row f).run s = (.ok a, s') ↔
      ((slot.get s).exists? conflict ∧ slot.set ((slot.get s).update conflict f) s = s') ∨
      ((slot.get s).exists? conflict = false ∧ check s = .ok () ∧
        slot.set ((slot.get s).insert row) s = s') := by
  rw [upsert, stmt_ok_iff]
  cases h : (slot.get s).exists? conflict
  · rcases check s with e | ⟨⟩ <;> simp [Except.map]
  · simp

theorem run_delete {p : S → Row → Bool} : (slot.delete p : M S E Nat).run s =
    (.ok ((slot.get s).count (p s)), slot.set ((slot.get s).delete (p s)) s) := rfl

theorem update_ok_iff {p : Row → Bool} :
    (slot.update p check f).run s = (.ok n, s') ↔
      ((slot.get s).exists? p → check s = .ok ()) ∧ (slot.get s).count p = n ∧
        slot.set ((slot.get s).update p f) s = s' := by
  rw [update, stmt_ok_iff]
  cases h : (slot.get s).exists? p
  · have hno := Table.exists?_eq_false.1 h
    have hcount : (slot.get s).count p = 0 := Table.count_eq_zero.2 fun r hr => by simp [hno r hr]
    simp [Table.update_eq_self hno, slot.set_get, hcount]
  · rcases check s with e | ⟨⟩ <;> simp [Except.map]

theorem exec_update {p : Row → Bool} [Decidable (check s = .ok ())] :
    (slot.update p check f).exec s = if check s = .ok () then slot.set ((slot.get s).update p f) s else s := by
  split <;> rename_i hchk
  · rw [M.exec, update_ok_iff.2 ⟨fun _ => hchk, rfl, rfl⟩]
  · simp only [M.exec, M.run, update, stmt]
    split <;> rename_i h
    · split at h
      · cases hc : check s with
        | error e =>
          rw [hc] at h
          cases h
        | ok u => exact absurd hc hchk
      · cases h
        rfl
    · rfl

theorem run_update_of_error {p : Row → Bool} {e : E} (hp : (slot.get s).exists? p)
    (h : check s = .error e) : (slot.update p check f).run s = (.error e, s) := by
  simp only [update, M.run, stmt, if_pos hp, h]
  rfl

theorem update_cases (slot : Slot S Row) (p : Row → Bool) (check : S → Except E Unit) (f : Row → Row) (s : S) :
    (∃ n, (slot.update p check f).run s = (.ok n, slot.set ((slot.get s).update p f) s)) ∨
      ∃ e, (slot.update p check f).run s = (.error e, s) := by
  by_cases hp : (slot.get s).exists? p
  · cases h : check s with
    | ok u => exact .inl ⟨_, update_ok_iff.2 ⟨fun _ => h, rfl, rfl⟩⟩
    | error e => exact .inr ⟨e, run_update_of_error hp h⟩
  · exact .inl ⟨_, update_ok_iff.2 ⟨fun h => absurd h hp, rfl, rfl⟩⟩

end Slot

end Relational
