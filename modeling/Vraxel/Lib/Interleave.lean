import Vraxel.Lib.Run
import Vraxel.Lib.Txn
/-
  Programs that run at the same time over one store.

  One statement is one step, so other programs can come in between any two statements of a program
  and nowhere else. A statement that is not ready (it waits for a lock) does not run.
-/

namespace Interleave

open Txn Transition

structure Sig where
  Stmt : Type
  Ans : Stmt → Type

def Sig.sum (G H : Sig) : Sig := ⟨G.Stmt ⊕ H.Stmt, Sum.elim G.Ans H.Ans⟩

inductive Prog (G : Sig) (E α : Type) : Type
  | done (r : Except E α)
  | exec (q : G.Stmt) (next : Except E (G.Ans q) → Prog G E α)

variable {G : Sig} {S E C K α β : Type}

namespace Prog

def bind' : Prog G E α → (α → Prog G E β) → Prog G E β
  | done (.ok a), f => f a
  | done (.error e), _ => done (.error e)
  | exec q next, f => exec q fun r => (next r).bind' f

instance : Monad (Prog G E) where
  pure a := done (.ok a)
  bind := bind'

def fail (e : E) : Prog G E α := done (.error e)

def lift (r : Except E α) : Prog G E α := done r

def ask (q : G.Stmt) : Prog G E (G.Ans q) := exec q done

def mapErr (g : E → E) : Prog G E α → Prog G E α
  | done r => done (r.mapError g)
  | exec q next => exec q fun r => (next r).mapErr g

def attempt : Prog G E α → Prog G E (Except E α)
  | done r => done (.ok r)
  | exec q next => exec q fun r => (next r).attempt

def next? : Prog G E α → Option G.Stmt
  | done _ => none
  | exec q _ => some q

/-! A program with nobody in between. -/

variable (sem : (q : G.Stmt) → M S E (G.Ans q))

def alone : Prog G E α → M S E α
  | done r => Txn.lift r
  | exec q next => fun s => (next ((sem q).result s)).alone ((sem q).exec s)

@[simp] theorem alone_done (r : Except E α) : (done r : Prog G E α).alone sem = Txn.lift r := rfl

@[simp] theorem alone_pure (a : α) : (pure a : Prog G E α).alone sem = pure a := rfl

@[simp] theorem alone_fail (e : E) : (fail e : Prog G E α).alone sem = Txn.fail e := rfl

@[simp] theorem alone_lift (r : Except E α) : (lift r : Prog G E α).alone sem = Txn.lift r := rfl

@[simp] theorem alone_ask (q : G.Stmt) : (ask q : Prog G E (G.Ans q)).alone sem = sem q := rfl

theorem run_alone_of_ok {q : G.Stmt} {next : Except E (G.Ans q) → Prog G E α} {s s' : S} {a : G.Ans q}
    (h : (sem q).run s = (.ok a, s')) :
    ((exec q next).alone sem).run s = ((next (.ok a)).alone sem).run s' := by
  show ((next ((sem q).result s)).alone sem).run ((sem q).exec s) = _
  rw [M.result, M.exec, h]

@[simp] theorem alone_bind (p : Prog G E α) (f : α → Prog G E β) :
    (p >>= f).alone sem = p.alone sem >>= fun a => (f a).alone sem := by
  induction p with
  | done r => cases r <;> rfl
  | exec q next ih =>
    funext s
    exact congrFun (ih ((sem q).result s)) ((sem q).exec s)

theorem alone_bind_congr {p : Prog G E α} {x : M S E α} {f : α → Prog G E β} {g : α → M S E β}
    (h : p.alone sem = x) (hf : ∀ a, (f a).alone sem = g a) : (p >>= f).alone sem = x >>= g := by
  rw [alone_bind, h, funext hf]

@[simp] theorem alone_mapErr (g : E → E) (p : Prog G E α) :
    (p.mapErr g).alone sem = Txn.mapErr g (p.alone sem) := by
  induction p with
  | done r => cases r <;> rfl
  | exec q next ih =>
    funext s
    exact congrFun (ih ((sem q).result s)) ((sem q).exec s)

@[simp] theorem alone_attempt (p : Prog G E α) : p.attempt.alone sem = Txn.attempt (p.alone sem) := by
  induction p with
  | done r => rfl
  | exec q next ih =>
    funext s
    exact congrFun (ih ((sem q).result s)) ((sem q).exec s)

/-! Programs over two kinds of statements. -/

def inl (H : Sig) : Prog G E α → Prog (G.sum H) E α
  | done r => done r
  | exec q next => exec (G := G.sum H) (.inl q) fun r => (next r).inl H

def inr (H : Sig) : Prog G E α → Prog (H.sum G) E α
  | done r => done r
  | exec q next => exec (G := H.sum G) (.inr q) fun r => (next r).inr H

end Prog

/-! What each element of a list owns, or holds. -/

section Owning

variable {L V : Type} {own : L → Option V} {l : List L} {i : Nat} {a a' : L}

/-- No two elements own the same thing. -/
def Separate (own : L → Option V) (l : List L) : Prop :=
  ∀ (i j : Nat) (a a' : L) (v : V), l[i]? = some a → l[j]? = some a' → own a = some v → own a' = some v → i = j

theorem separate_append (h : Separate own l) (ha : own a = none) : Separate own (l ++ [a]) := by
  have hmem : ∀ (i : Nat) (b : L) (v : V), (l ++ [a])[i]? = some b → own b = some v → l[i]? = some b := by
    intro i b v hi hv
    rw [List.getElem?_append] at hi
    split at hi
    · exact hi
    · rw [List.mem_singleton.1 (List.mem_of_getElem? hi), ha] at hv
      cases hv
  intro i j b b' v hi hj h₁ h₂
  exact h i j b b' v (hmem i b v hi h₁) (hmem j b' v hj h₂) h₁ h₂

theorem separate_set (h : Separate own l) (hi : l[i]? = some a)
    (ha' : ∀ v, own a' = some v → own a = some v ∨ ∀ b ∈ l, own b ≠ some v) : Separate own (l.set i a') := by
  have hlt := (List.getElem?_eq_some_iff.1 hi).1
  -- of the new element and another one, only one can own something
  have hmoved : ∀ (j : Nat) b v, i ≠ j → l[j]? = some b → own a' = some v → own b ≠ some v := by
    intro j b v hij hj hv hv'
    rcases ha' v hv with hold | hfree
    · exact hij (h i j a b v hi hj hold hv')
    · exact hfree b (List.mem_of_getElem? hj) hv'
  intro j₁ j₂ b₁ b₂ v h₁ h₂ hv₁ hv₂
  by_cases hij₁ : i = j₁ <;> by_cases hij₂ : i = j₂
  · exact hij₁.symm.trans hij₂
  · subst hij₁
    rw [List.getElem?_set_self hlt] at h₁
    rw [List.getElem?_set_ne hij₂] at h₂
    cases h₁
    exact absurd hv₂ (hmoved j₂ b₂ v hij₂ h₂ hv₁)
  · subst hij₂
    rw [List.getElem?_set_ne hij₁] at h₁
    rw [List.getElem?_set_self hlt] at h₂
    cases h₂
    exact absurd hv₁ (hmoved j₁ b₁ v hij₁ h₁ hv₂)
  · rw [List.getElem?_set_ne hij₁] at h₁
    rw [List.getElem?_set_ne hij₂] at h₂
    exact h j₁ j₂ b₁ b₂ v h₁ h₂ hv₁ hv₂

theorem forall_mem_concat {R : L → Prop} (h : ∀ b ∈ l, R b) (ha : R a) : ∀ b ∈ l ++ [a], R b := by
  simpa [or_imp, forall_and] using ⟨h, ha⟩

theorem forall_mem_set {R : L → Prop} (ha : R a) (hothers : ∀ (j : Nat) b, i ≠ j → l[j]? = some b → R b) :
    ∀ b ∈ l.set i a, R b := by
  intro b hb
  obtain ⟨j, hj⟩ := List.mem_iff_getElem?.1 hb
  by_cases hij : i = j
  · subst hij
    rw [List.getElem?_set_self (by simpa using (List.getElem?_eq_some_iff.1 hj).1)] at hj
    cases hj
    exact ha
  · rw [List.getElem?_set_ne hij] at hj
    exact hothers j b hij hj

/-- What was needed was held; what a step needs is held by the new element, or was needed
before and not held by the one it replaces. -/
theorem held_set {need need' : V → Prop} (h : ∀ v, need v → ∃ b ∈ l, own b = some v) (hi : l[i]? = some a)
    (hstep : ∀ v, need' v → own a' = some v ∨ need v ∧ own a ≠ some v) :
    ∀ v, need' v → ∃ b ∈ l.set i a', own b = some v := by
  intro v hv
  rcases hstep v hv with hkept | ⟨hneed, hother⟩
  · exact ⟨a', List.mem_set (List.getElem?_eq_some_iff.1 hi).1 _, hkept⟩
  · -- the element that holds it is another one
    obtain ⟨b, hb, htok⟩ := h v hneed
    obtain ⟨j, hj⟩ := List.mem_iff_getElem?.1 hb
    have hij : i ≠ j := by
      rintro rfl
      cases hi.symm.trans hj
      exact hother htok
    exact ⟨b, List.mem_of_getElem? ((List.getElem?_set_ne hij).trans hj), htok⟩

end Owning

structure Pool (S : Type) (G : Sig) (E α : Type) where
  store : S
  threads : List (Prog G E α)

/-- What can happen: a call, or a step of the program with this number. -/
inductive Event (C : Type) where
  | call (c : C)
  | step (i : Nat)

/-- The meaning of the statements, when they can run, and the program of a call. -/
structure System (S : Type) (G : Sig) (E α C : Type) where
  sem : (q : G.Stmt) → M S E (G.Ans q)
  ready : G.Stmt → S → Bool
  prog : C → Prog G E α

namespace Pool

def init (s : S) : Pool S G E α := ⟨s, []⟩

def next? (st : Pool S G E α) (i : Nat) : Option G.Stmt := st.threads[i]?.bind Prog.next?

theorem done_mem_set {threads : List (Prog G E α)} {i : Nat} {q : G.Stmt} {next : Except E (G.Ans q) → Prog G E α}
    (hi : threads[i]? = some (.exec q next)) (p : Prog G E α) (r : Except E α) :
    .done r ∈ threads.set i p ↔ .done r ∈ threads ∨ .done r = p := by
  have hlt := (List.getElem?_eq_some_iff.1 hi).1
  constructor
  · exact fun h => List.mem_or_eq_of_mem_set h
  · rintro (h | h)
    · obtain ⟨j, hj⟩ := List.mem_iff_getElem?.1 h
      have hij : i ≠ j := by
        intro heq
        subst heq
        cases hi.symm.trans hj
      exact List.mem_iff_getElem?.2 ⟨j, (List.getElem?_set_ne hij).trans hj⟩
    · rw [h]
      exact List.mem_set hlt p

end Pool

namespace System

variable (sys : System S G E α C)

variable (st : Pool S G E α)

def step : Event C → Pool S G E α
  | .call c => ⟨st.store, st.threads ++ [sys.prog c]⟩
  | .step i =>
    match st.threads[i]? with
    | some (.exec q next) =>
      if sys.ready q st.store then
        ⟨(sys.sem q).exec st.store, st.threads.set i (next ((sys.sem q).result st.store))⟩
      else st
    | _ => st

def executes? : Event C → Option G.Stmt
  | .call _ => none
  | .step i => (st.next? i).filter fun q => sys.ready q st.store

/-- An event executes no statement, or one that meets the condition. -/
def Meets (P : G.Stmt → S → Prop) (st : Pool S G E α) (e : Event C) : Prop :=
  ∀ q, sys.executes? st e = some q → P q st.store

instance (P : G.Stmt → S → Prop) [∀ q s, Decidable (P q s)] (st : Pool S G E α) (e : Event C) :
    Decidable (sys.Meets P st e) :=
  inferInstanceAs (Decidable (∀ q ∈ sys.executes? st e, P q st.store))

theorem executes?_step {st : Pool S G E α} {i : Nat} {q : G.Stmt} :
    sys.executes? st (.step i) = some q ↔
      ∃ next, st.threads[i]? = some (.exec q next) ∧ sys.ready q st.store := by
  simp only [executes?, Pool.next?, Option.filter_eq_some_iff, Option.bind_eq_some_iff]
  constructor
  · rintro ⟨⟨p, hp, hq⟩, hready⟩
    cases p with
    | done r => cases hq
    | exec q' next =>
      cases hq
      exact ⟨next, hp, hready⟩
  · rintro ⟨next, hp, hready⟩
    exact ⟨⟨_, hp, rfl⟩, hready⟩

theorem step_of_run {st : Pool S G E α} {i : Nat} {q : G.Stmt} {next : Except E (G.Ans q) → Prog G E α}
    (hi : st.threads[i]? = some (.exec q next)) (hready : sys.ready q st.store) {r : Except E (G.Ans q)} {s : S}
    (hrun : (sys.sem q).run st.store = (r, s)) : sys.step st (.step i) = ⟨s, st.threads.set i (next r)⟩ := by
  have hexec : (sys.sem q).exec st.store = s := congrArg Prod.snd hrun
  have hresult : (sys.sem q).result st.store = r := congrArg Prod.fst hrun
  simp [step, hi, hready, hexec, hresult]

/-- A step executes the next statement of its program, or does nothing. -/
theorem step_cases (i : Nat) : sys.step st (.step i) = st ∨
    ∃ q next, st.threads[i]? = some (.exec q next) ∧ sys.ready q st.store ∧ sys.executes? st (.step i) = some q ∧
      sys.step st (.step i) = ⟨(sys.sem q).exec st.store, st.threads.set i (next ((sys.sem q).result st.store))⟩ := by
  rcases hthread : st.threads[i]? with _ | (r | ⟨q, next⟩)
  · exact .inl (by simp [step, hthread])
  · exact .inl (by simp [step, hthread])
  · by_cases hready : sys.ready q st.store
    · exact .inr ⟨q, next, rfl, hready, (executes?_step sys).2 ⟨next, hthread, hready⟩,
        sys.step_of_run hthread hready rfl⟩
    · exact .inl (by simp [step, hthread, hready])

theorem step_idle {st : Pool S G E α} {i : Nat} (h : st.next? i = none) (P : G.Stmt → S → Prop) :
    sys.step st (.step i) = st ∧ sys.Meets P st (.step i) := by
  rcases hthread : st.threads[i]? with _ | (r | ⟨q, next⟩)
  · refine ⟨by simp [step, hthread], fun q hq => ?_⟩
    simp [executes?, h] at hq
  · refine ⟨by simp [step, hthread], fun q hq => ?_⟩
    simp [executes?, h] at hq
  · simp [Pool.next?, hthread, Prog.next?] at h

theorem meets_call (P : G.Stmt → S → Prop) (st : Pool S G E α) (c : C) : sys.Meets P st (.call c) := by
  intro q hq
  cases hq

theorem meets_step (P : G.Stmt → S → Prop) {st : Pool S G E α} {i : Nat} {q : G.Stmt}
    {next : Except E (G.Ans q) → Prog G E α} (hi : st.threads[i]? = some (.exec q next)) (hready : sys.ready q st.store) :
    sys.Meets P st (.step i) ↔ P q st.store := by
  have hexecutes := (executes?_step sys).2 ⟨next, hi, hready⟩
  exact ⟨fun h => h q hexecutes, fun h q' hq' => Option.some.inj (hexecutes.symm.trans hq') ▸ h⟩

theorem store_step (e : Event C) :
    (sys.step st e).store = match sys.executes? st e with
      | some q => (sys.sem q).exec st.store
      | none => st.store := by
  cases e with
  | call c => rfl
  | step i =>
    simp only [step, executes?, Pool.next?]
    rcases st.threads[i]? with _ | (r | ⟨q, next⟩)
    · rfl
    · rfl
    · simp only [Option.bind_some, Prog.next?, Option.filter]
      split <;> simp

variable {sys} {I Q : S → Prop} {P : G.Stmt → S → Prop}

theorem inv_store_step (h : ∀ q s, I s → I ((sys.sem q).exec s)) (st : Pool S G E α) (e : Event C)
    (hst : I st.store) : I (sys.step st e).store := by
  rw [store_step]
  split
  · exact h _ _ hst
  · exact hst

/-- A run keeps the invariant of the store exactly if each statement it executes
meets the condition under which the statement keeps it. -/
theorem forall_stores_iff (hsound : ∀ q s, Q s → Q ((sys.sem q).exec s))
    (hstep : ∀ q s, Q s → I s → (I ((sys.sem q).exec s) ↔ P q s)) {st : Pool S G E α}
    (hs : Q st.store) (hi : I st.store) (es : List (Event C)) :
    (∀ st' ∈ states sys.step st es, I st'.store) ↔ Along sys.step (sys.Meets P) st es := by
  refine forall_states_iff (fun st e h => inv_store_step hsound st e h) ?_ hs hi es
  intro st e hs hi
  rw [store_step, Meets]
  cases hq : sys.executes? st e with
  | none => exact iff_of_true hi fun q hq' => by cases hq'
  | some q => exact (hstep q st.store hs hi).trans ⟨fun h q' hq' => by cases hq'; exact h, fun h => h q rfl⟩

end System

end Interleave
