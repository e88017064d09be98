import Vraxel.Lib.Interleave
/-
  Programs whose statements can fail at any time.

  A failure of the store writes nothing. A list says what becomes of the statements to come, an error
  or nothing out of the ordinary; a program runs over the store together with this list.
-/

namespace Interleave

open Txn

variable {G : Sig} {S E α β : Type}

/-- A store and the failures of the statements to come; a missing entry is none. -/
abbrev Faulty (S E : Type) : Type := S × List (Option E)

def call (x : M S E α) : M (Faulty S E) E α := fun s =>
  match s.2 with
  | some e :: faults => (.error e, (s.1, faults))
  | _ => (x.result s.1, (x.exec s.1, s.2.tail))

def reliably (x : M S E α) : M (Faulty S E) E α := fun s => (x.result s.1, (x.exec s.1, s.2))

theorem run_call_cases (x : M S E α) (s : Faulty S E) :
    (∃ e, (call x).run s = (.error e, (s.1, s.2.tail))) ∨
      (call x).run s = (x.result s.1, (x.exec s.1, s.2.tail)) := by
  obtain ⟨s, faults⟩ := s
  match faults with
  | some e :: faults => exact .inl ⟨e, rfl⟩
  | none :: faults => exact .inr rfl
  | [] => exact .inr rfl

theorem call_ok {x : M S E α} {s s' : Faulty S E} {a : α} (h : (call x).run s = (.ok a, s')) :
    x.run s.1 = (.ok a, s'.1) := by
  rcases run_call_cases x s with ⟨e, hrun⟩ | hrun
  · rw [hrun] at h
    cases h
  · rw [hrun] at h
    obtain ⟨hr, rfl⟩ := Prod.mk.inj h
    exact Prod.ext hr rfl

theorem keeps_call {I : S → Prop} {x : M S E α} (h : Keeps I x) : Keeps (fun s => I s.1) (call x) := by
  intro s hs
  rcases run_call_cases x s with ⟨e, hrun⟩ | hrun
  · rw [M.exec, hrun]
    exact hs
  · rw [M.exec, hrun]
    exact h s.1 hs

theorem allOrNothing_call {x : M S E α} (h : AllOrNothing id x) :
    AllOrNothing (fun s : Faulty S E => s.1) (call x) := by
  intro s
  rcases run_call_cases x s with ⟨e, hrun⟩ | hrun
  · rw [M.exec, hrun]
    exact .inl rfl
  · rw [M.exec, M.result, hrun]
    exact h s.1

namespace Prog

variable (sem : (q : G.Stmt) → M S E (G.Ans q))

def faulty (p : Prog G E α) : M (Faulty S E) E α := p.alone fun q => call (sem q)

@[simp] theorem faulty_bind (p : Prog G E α) (f : α → Prog G E β) :
    (p >>= f).faulty sem = p.faulty sem >>= fun a => (f a).faulty sem := alone_bind _ p f

@[simp] theorem faulty_mapErr (g : E → E) (p : Prog G E α) :
    (p.mapErr g).faulty sem = Txn.mapErr g (p.faulty sem) := alone_mapErr _ g p

/-- The failure of a statement ends the program. -/
def Strict : Prog G E α → Prop
  | done _ => True
  | exec _ next => (∀ e, ∃ e', next (.error e) = done (.error e')) ∧ ∀ a, (next (.ok a)).Strict

theorem strict_ask (q : G.Stmt) : (ask q : Prog G E (G.Ans q)).Strict :=
  ⟨fun e => ⟨e, rfl⟩, fun _ => trivial⟩

theorem Strict.bind {p : Prog G E α} {f : α → Prog G E β} (h : p.Strict) (hf : ∀ a, (f a).Strict) :
    (p >>= f).Strict := by
  induction p with
  | done r =>
    cases r with
    | ok a => exact hf a
    | error e => trivial
  | exec q next ih =>
    refine ⟨fun e => ?_, fun a => ih (.ok a) (h.2 a)⟩
    obtain ⟨e', he⟩ := h.1 e
    exact ⟨e', congrArg (·.bind' f) he⟩

theorem Strict.mapErr {p : Prog G E α} (h : p.Strict) (g : E → E) : (p.mapErr g).Strict := by
  induction p with
  | done r => trivial
  | exec q next ih =>
    refine ⟨fun e => ?_, fun a => ih (.ok a) (h.2 a)⟩
    obtain ⟨e', he⟩ := h.1 e
    exact ⟨g e', congrArg (·.mapErr g) he⟩

variable {sem}

theorem Strict.run_ok {p : Prog G E α} (h : p.Strict) {s s' : Faulty S E} {a : α}
    (hrun : (p.faulty sem).run s = (.ok a, s')) : (p.alone sem).run s.1 = (.ok a, s'.1) := by
  induction p generalizing s with
  | done r =>
    obtain ⟨rfl, rfl⟩ := lift_ok_iff.1 hrun
    rfl
  | exec q next ih =>
    have hstep : ((next ((call (sem q)).result s)).faulty sem).run ((call (sem q)).exec s) = (.ok a, s') := hrun
    rcases hcall : (call (sem q)).run s with ⟨e | b, t⟩
    · obtain ⟨e', he⟩ := h.1 e
      rw [M.result, M.exec, hcall, he] at hstep
      cases hstep
    · rw [M.result, M.exec, hcall] at hstep
      rw [run_alone_of_ok sem (call_ok hcall)]
      exact ih (.ok b) (h.2 b) hstep

variable (sem)

/-- The program ends with the first failure, and writes nothing. -/
structure Reads (p : Prog G E α) : Prop where
  strict : p.Strict
  keeps : ∀ s, Keeps (fun t : Faulty S E => t.1 = s) (p.faulty sem)

/-- The program ends with the first failure, and writes nothing if it fails. -/
structure Clean (p : Prog G E α) : Prop where
  strict : p.Strict
  clean : AllOrNothing (fun s : Faulty S E => s.1) (p.faulty sem)

variable {sem}

namespace Reads

theorem done (r : Except E α) : Reads sem (.done r : Prog G E α) := ⟨trivial, fun _ => .lift r⟩

theorem ask {q : G.Stmt} (h : ReadsOnly (sem q)) : Reads sem (ask q : Prog G E (G.Ans q)) :=
  ⟨strict_ask q, fun s => keeps_call (h.keeps (· = s))⟩

theorem bind {p : Prog G E α} {f : α → Prog G E β} (h : Reads sem p) (hf : ∀ a, Reads sem (f a)) :
    Reads sem (p >>= f) where
  strict := h.strict.bind fun a => (hf a).strict
  keeps s := by
    rw [faulty_bind]
    exact (h.keeps s).bind fun a => (hf a).keeps s

theorem mapErr {p : Prog G E α} (h : Reads sem p) (g : E → E) : Reads sem (p.mapErr g) where
  strict := h.strict.mapErr g
  keeps s := by
    rw [faulty_mapErr]
    exact (h.keeps s).mapErr

theorem store_eq {p : Prog G E α} (h : Reads sem p) {s s' : Faulty S E} {r : Except E α}
    (hrun : (p.faulty sem).run s = (r, s')) : s'.1 = s.1 := by
  have hs := h.keeps s.1 s rfl
  rwa [M.exec, hrun] at hs

end Reads

namespace Clean

theorem ask {q : G.Stmt} (h : AllOrNothing id (sem q)) : Clean sem (ask q : Prog G E (G.Ans q)) :=
  ⟨strict_ask q, allOrNothing_call h⟩

variable {p : Prog G E α}

theorem of_reads (h : Reads sem p) : Clean sem p := ⟨h.strict, .of_keeps h.keeps⟩

theorem bind {f : α → Prog G E β} (h : Reads sem p) (hf : ∀ a, Clean sem (f a)) :
    Clean sem (p >>= f) where
  strict := h.strict.bind fun a => (hf a).strict
  clean := by
    rw [faulty_bind]
    exact .bind h.keeps fun a => (hf a).clean

theorem answer (h : Clean sem p) (g : α → β) : Clean sem (p >>= fun a => pure (g a)) where
  strict := h.strict.bind fun _ => trivial
  clean := by
    rw [faulty_bind]
    exact h.clean.answer g

theorem mapErr (h : Clean sem p) (g : E → E) : Clean sem (p.mapErr g) where
  strict := h.strict.mapErr g
  clean := by
    rw [faulty_mapErr]
    exact h.clean.mapErr g

theorem run_cases (h : Clean sem p) (s : Faulty S E) :
    (∃ e s', (p.faulty sem).run s = (.error e, s') ∧ s'.1 = s.1) ∨
      ∃ a s', (p.faulty sem).run s = (.ok a, s') ∧ (p.alone sem).run s.1 = (.ok a, s'.1) := by
  have hs := h.clean s
  rw [M.exec, M.result] at hs
  rcases hrun : (p.faulty sem).run s with ⟨e | a, s'⟩
  · rw [hrun] at hs
    exact .inl ⟨e, s', rfl, hs.resolve_right (by simp)⟩
  · exact .inr ⟨a, s', rfl, h.strict.run_ok hrun⟩

end Clean

/-! Programs that go on after a failure. -/

def faultyBut (safe : G.Stmt → Bool) (sem : (q : G.Stmt) → M S E (G.Ans q)) (p : Prog G E α) : M (Faulty S E) E α :=
  p.alone fun q => if safe q then reliably (sem q) else call (sem q)

/-- From a store with `I` the program ends with `Q`. -/
def Ends (safe : G.Stmt → Bool) (sem : (q : G.Stmt) → M S E (G.Ans q)) (p : Prog G E α) (I : S → Prop)
    (Q : Except E α → S → Prop) : Prop :=
  ∀ s : Faulty S E, I s.1 → Q ((p.faultyBut safe sem).result s) ((p.faultyBut safe sem).exec s).1

section Ends

variable {safe : G.Stmt → Bool} {I : S → Prop} {R : Except E α → S → Prop} {Q : Except E β → S → Prop}

theorem ends_done {r : Except E α} (h : ∀ s, I s → R r s) : Ends safe sem (.done r : Prog G E α) I R := fun s hs => h s.1 hs

theorem ends_ask {q : G.Stmt} {R : Except E (G.Ans q) → S → Prop}
    (h : ∀ s, I s → R ((sem q).result s) ((sem q).exec s)) (hfail : safe q = false → ∀ e s, I s → R (.error e) s) :
    Ends safe sem (ask q : Prog G E (G.Ans q)) I R := by
  intro s hs
  rw [faultyBut, alone_ask]
  by_cases hq : safe q
  · rw [if_pos hq]
    exact h s.1 hs
  · rw [if_neg hq]
    rcases run_call_cases (sem q) s with ⟨e, hrun⟩ | hrun
    · rw [M.result, M.exec, hrun]
      exact hfail (by simpa using hq) e s.1 hs
    · rw [M.result, M.exec, hrun]
      exact h s.1 hs

theorem Ends.bind {p : Prog G E α} {f : α → Prog G E β} (hp : Ends safe sem p I R)
    (hf : ∀ a, Ends safe sem (f a) (R (.ok a)) Q) (hfail : ∀ e s, R (.error e) s → Q (.error e) s) :
    Ends safe sem (p >>= f) I Q := by
  intro s hs
  have h := hp s hs
  rw [faultyBut, alone_bind, M.result, M.exec, run_bind]
  rw [M.result, M.exec, faultyBut] at h
  rcases hrun : (p.alone _).run s with ⟨e | a, s'⟩
  · rw [hrun] at h
    exact hfail e s'.1 h
  · rw [hrun] at h
    exact hf a s' h

theorem Ends.attempt_bind {p : Prog G E α} {f : Except E α → Prog G E β} (hp : Ends safe sem p I R)
    (hf : ∀ r, Ends safe sem (f r) (R r) Q) : Ends safe sem (p.attempt >>= f) I Q := by
  intro s hs
  have h := hp s hs
  rw [faultyBut, alone_bind, alone_attempt, M.result, M.exec, run_bind]
  exact hf _ _ h

end Ends

end Prog

end Interleave
