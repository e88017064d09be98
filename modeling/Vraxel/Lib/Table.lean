import Mathlib.Data.List.Nodup
import Mathlib.Data.List.Lemmas
/-
  Tables with a serial primary key: the rows in insertion order, and the next value of the key
  sequence. Its invariants are fields of the structure, so a value of `Table` is a table a database
  could hold.
-/

namespace Relational

class Keyed (Row : Type) where
  key : Row → Int
  withKey : Row → Int → Row
  key_withKey : ∀ r i, key (withKey r i) = i
  withKey_key : ∀ r, withKey r (key r) = r

export Keyed (key withKey)

attribute [simp] Keyed.key_withKey Keyed.withKey_key

structure Table (Row : Type) [Keyed Row] where
  rows : List Row
  next : Int
  pos : 0 < next
  nodup : (rows.map key).Nodup
  range : ∀ r ∈ rows, 0 < key r ∧ key r < next

namespace Table

variable {Row : Type} [Keyed Row]

instance [DecidableEq Row] : DecidableEq (Table Row) := fun s t =>
  decidable_of_iff (s.rows = t.rows ∧ s.next = t.next) <| by
    cases s; cases t; simp

instance : Membership Row (Table Row) := ⟨fun t r => r ∈ t.rows⟩

theorem mem_def (t : Table Row) (r : Row) : r ∈ t ↔ r ∈ t.rows := Iff.rfl

instance [DecidableEq Row] (t : Table Row) (r : Row) : Decidable (r ∈ t) :=
  inferInstanceAs (Decidable (r ∈ t.rows))

instance (t : Table Row) (p : Row → Prop) [DecidablePred p] : Decidable (∀ r ∈ t, p r) :=
  inferInstanceAs (Decidable (∀ r ∈ t.rows, p r))

instance (t : Table Row) (p : Row → Prop) [DecidablePred p] : Decidable (∃ r ∈ t, p r) :=
  inferInstanceAs (Decidable (∃ r ∈ t.rows, p r))

variable {r : Row} {t : Table Row} {p : Row → Bool} {f : Row → Row}

theorem eq_of_key_eq (t : Table Row) {s : Row} (hr : r ∈ t) (hs : s ∈ t) (h : key r = key s) :
    r = s := List.inj_on_of_nodup_map t.nodup hr hs h

def empty : Table Row := ⟨[], 1, by simp, by simp, by simp⟩

/-- The rows can stand together in a table with this next key. -/
abbrev Admissible (rows : List Row) (next : Int) : Prop :=
  0 < next ∧ (rows.map key).Nodup ∧ ∀ r ∈ rows, 0 < key r ∧ key r < next

def ofRows (rows : List Row) (next : Int) (h : Admissible rows next) : Table Row :=
  ⟨rows, next, h.1, h.2.1, h.2.2⟩

@[simp] theorem rows_ofRows {rows : List Row} {next : Int} (h : Admissible rows next) :
    (ofRows rows next h).rows = rows := rfl

/-! Reading: the first row that meets a condition, or all of them. -/

def find? (t : Table Row) (p : Row → Bool) : Option Row := t.rows.find? p

def get? (t : Table Row) (i : Int) : Option Row := t.find? fun r => key r == i

def select (t : Table Row) (p : Row → Bool) : List Row := t.rows.filter p

def exists? (t : Table Row) (p : Row → Bool) : Bool := t.rows.any p

@[simp] theorem mem_select :
    r ∈ t.select p ↔ r ∈ t ∧ p r := List.mem_filter

@[simp] theorem exists?_iff : t.exists? p ↔ ∃ r ∈ t, p r :=
  List.any_eq_true

theorem exists?_eq_false :
    t.exists? p = false ↔ ∀ r ∈ t, p r = false := by
  simp [exists?, mem_def]

theorem find?_some (h : t.find? p = some r) :
    r ∈ t ∧ p r := ⟨List.mem_of_find?_eq_some h, List.find?_some h⟩

theorem find?_none : t.find? p = none ↔ ∀ r ∈ t, ¬ p r := by
  simp [find?, mem_def]

theorem get?_eq_some_iff {i : Int} :
    t.get? i = some r ↔ r ∈ t ∧ key r = i := by
  constructor
  · intro h
    obtain ⟨hm, hk⟩ := find?_some h
    exact ⟨hm, by simpa using hk⟩
  · rintro ⟨hm, rfl⟩
    cases h : t.get? (key r) with
    | none => exact absurd (by simp) (find?_none.1 h r hm)
    | some s =>
      obtain ⟨hs, hk⟩ := find?_some h
      rw [t.eq_of_key_eq hs hm (by simpa using hk)]

theorem get?_eq_none_iff {i : Int} : t.get? i = none ↔ ∀ r ∈ t, key r ≠ i := by
  simp [get?, find?_none]

def insert (t : Table Row) (r : Row) : Table Row where
  rows := t.rows ++ [withKey r t.next]
  next := t.next + 1
  pos := by
    have := t.pos
    omega
  nodup := by
    rw [List.map_append, List.nodup_append]
    refine ⟨t.nodup, by simp, ?_⟩
    intro i hi j hj
    obtain ⟨s, hs, rfl⟩ := List.mem_map.1 hi
    have := t.range s hs
    simp only [List.map_cons, List.map_nil, Keyed.key_withKey, List.mem_singleton] at hj
    omega
  range := by
    intro s hs
    have := t.pos
    rcases List.mem_append.1 hs with hs | hs
    · have := t.range s hs
      omega
    · rw [List.mem_singleton.1 hs, Keyed.key_withKey]
      omega

def inserted (t : Table Row) (r : Row) : Row := withKey r t.next

def delete (t : Table Row) (p : Row → Bool) : Table Row where
  rows := t.rows.filter fun r => !p r
  next := t.next
  pos := t.pos
  nodup := t.nodup.sublist (List.filter_sublist.map key)
  range := fun r hr => t.range r (List.mem_of_mem_filter hr)

def update (t : Table Row) (p : Row → Bool) (f : Row → Row) : Table Row where
  rows := t.rows.map fun r => if p r then withKey (f r) (key r) else r
  next := t.next
  pos := t.pos
  nodup := by
    have hkey : (t.rows.map fun r => if p r then withKey (f r) (key r) else r).map key
        = t.rows.map key := by
      rw [List.map_map]
      refine List.map_congr_left fun r _ => ?_
      by_cases hp : p r = true <;> simp [hp]
    rw [hkey]
    exact t.nodup
  range := by
    intro s hs
    obtain ⟨r, hr, rfl⟩ := List.mem_map.1 hs
    have := t.range r hr
    by_cases hp : p r = true <;> simpa [hp] using this

@[simp] theorem mem_insert {s : Row} :
    s ∈ t.insert r ↔ s ∈ t ∨ s = t.inserted r := by
  simp [mem_def, insert, inserted]

@[simp] theorem mem_delete :
    r ∈ t.delete p ↔ r ∈ t ∧ p r = false := by
  simp [mem_def, delete]

@[simp] theorem mem_update {s : Row} :
    s ∈ t.update p f ↔ ∃ r ∈ t, s = if p r then withKey (f r) (key r) else r := by
  simp only [mem_def, update, List.mem_map]
  exact exists_congr fun r => and_congr_right fun _ => eq_comm

theorem key_inserted (t : Table Row) (r : Row) : key (t.inserted r) = t.next :=
  Keyed.key_withKey r t.next

theorem key_ne_next (h : r ∈ t) : key r ≠ t.next :=
  (t.range r h).2.ne

theorem key_pos (h : r ∈ t) : 0 < key r := (t.range r h).1

theorem mem_update_insert {s : Row}
    (hp : ∀ u, p u ↔ key u = t.next) :
    s ∈ (t.insert r).update p f ↔ s ∈ t ∨ s = withKey (f (t.inserted r)) t.next := by
  have hnew : p (t.inserted r) := (hp _).2 (key_inserted t r)
  have hold : ∀ u ∈ t, ¬ p u := fun u hu h => key_ne_next hu ((hp u).1 h)
  simp only [mem_update, mem_insert]
  constructor
  · rintro ⟨u, hu | rfl, rfl⟩
    · rw [if_neg (hold u hu)]
      exact .inl hu
    · rw [if_pos hnew, key_inserted]
      exact .inr rfl
  · rintro (hs | rfl)
    · exact ⟨s, .inl hs, (if_neg (hold s hs)).symm⟩
    · exact ⟨_, .inr rfl, by rw [if_pos hnew, key_inserted]⟩

@[simp] theorem not_mem_empty (r : Row) : r ∉ (empty : Table Row) := by
  simp [mem_def, empty]

/-- The number of rows a `DELETE` or a `SELECT count(*)` with condition `p` reports. -/
def count (t : Table Row) (p : Row → Bool) : Nat := t.rows.countP p

theorem count_eq_zero : t.count p = 0 ↔ ∀ r ∈ t, ¬ p r :=
  List.countP_eq_zero

theorem count_pos : 0 < t.count p ↔ ∃ r ∈ t, p r :=
  List.countP_pos_iff

theorem rows_nodup (t : Table Row) : t.rows.Nodup := List.Nodup.of_map key t.nodup

theorem count_eq_one :
    t.count p = 1 ↔ ∃ r ∈ t, p r ∧ ∀ s ∈ t, p s → s = r := by
  rw [count, List.countP_eq_length_filter, List.length_eq_one_iff]
  constructor
  · rintro ⟨r, hr⟩
    have hmem : ∀ s, s ∈ t ∧ p s ↔ s = r := fun s => by
      rw [mem_def, ← List.mem_filter, hr, List.mem_singleton]
    exact ⟨r, ((hmem r).2 rfl).1, ((hmem r).2 rfl).2, fun s hs hp => (hmem s).1 ⟨hs, hp⟩⟩
  · rintro ⟨r, hr, hp, honly⟩
    have hperm : (t.rows.filter p).Perm [r] :=
      (List.perm_ext_iff_of_nodup (t.rows_nodup.filter p) (List.nodup_singleton r)).2 fun s => by
        rw [List.mem_filter, List.mem_singleton]
        exact ⟨fun h => honly s h.1 h.2, fun h => h ▸ ⟨hr, hp⟩⟩
    exact ⟨r, List.perm_singleton.1 hperm⟩

theorem delete_congr {q : Row → Bool} (h : ∀ r ∈ t, p r = q r) :
    t.delete p = t.delete q := by
  have hrows : t.rows.filter (fun r => !p r) = t.rows.filter fun r => !q r :=
    List.filter_congr fun r hr => by rw [h r hr]
  simp [delete, hrows]

theorem delete_eq_self (h : ∀ r ∈ t, p r = false) :
    t.delete p = t := by
  have hrows : t.rows.filter (fun r => !p r) = t.rows :=
    List.filter_eq_self.2 fun r hr => by simp [h r hr]
  cases t
  simp [delete] at hrows ⊢
  exact hrows

theorem eq_of_rows {s : Table Row} (hrows : s.rows = t.rows) (hnext : s.next = t.next) : s = t := by
  cases s
  cases t
  simp only [mk.injEq]
  exact ⟨hrows, hnext⟩

theorem update_congr {q : Row → Bool} (h : ∀ r ∈ t, p r = q r) :
    t.update p f = t.update q f :=
  eq_of_rows (List.map_congr_left fun r hr => by rw [h r hr]) rfl

theorem update_eq_self (h : ∀ r ∈ t, p r = false) :
    t.update p f = t := by
  have hrows : (t.rows.map fun r => if p r then withKey (f r) (key r) else r) = t.rows :=
    (List.map_congr_left fun r hr => by simp [h r hr]).trans (List.map_id t.rows)
  cases t
  simp [update] at hrows ⊢
  exact hrows

end Table

end Relational
