import Mathlib.Logic.Basic
/-
  Programs over a store that can fail. A failure does not undo the writes made before it;
  `atomically` is a transaction, which does.
-/

namespace Txn

def M (S E α : Type) : Type := S → Except E α × S

variable {S E α β : Type}

def M.run (x : M S E α) (s : S) : Except E α × S := x s

def M.exec (x : M S E α) (s : S) : S := (x.run s).2

def M.result (x : M S E α) (s : S) : Except E α := (x.run s).1

def pure' (a : α) : M S E α := fun s => (.ok a, s)

def bind' (x : M S E α) (f : α → M S E β) : M S E β := fun s =>
  match x s with
  | (.ok a, s') => f a s'
  | (.error e, s') => (.error e, s')

instance : Monad (M S E) where
  pure := pure'
  bind := bind'

def fail (e : E) : M S E α := fun s => (.error e, s)

def read (f : S → α) : M S E α := fun s => (.ok (f s), s)

def lift (r : Except E α) : M S E α := fun s => (r, s)

def query (f : S → Except E α) : M S E α := fun s => (f s, s)

def write (f : S → S) : M S E Unit := fun s => (.ok (), f s)

def stmt (f : S → Except E (α × S)) : M S E α := fun s =>
  match f s with
  | .ok (a, s') => (.ok a, s')
  | .error e => (.error e, s)

def atomically (x : M S E α) : M S E α := fun s =>
  match x s with
  | (.ok a, s') => (.ok a, s')
  | (.error e, _) => (.error e, s)

def mapErr (f : E → E) (x : M S E α) : M S E α := fun s =>
  match x s with
  | (.ok a, s') => (.ok a, s')
  | (.error e, s') => (.error (f e), s')

def attempt (x : M S E α) : M S E (Except E α) := fun s => (.ok (x s).1, (x s).2)

def forEach (xs : List β) (body : β → M S E Unit) : M S E Unit :=
  match xs with
  | [] => pure ()
  | x :: xs => body x >>= fun _ => forEach xs body

@[simp] theorem run_pure (a : α) (s : S) : (pure a : M S E α).run s = (.ok a, s) := rfl

theorem run_bind (x : M S E α) (f : α → M S E β) (s : S) :
    (x >>= f).run s = match x.run s with
      | (.ok a, s') => (f a).run s'
      | (.error e, s') => (.error e, s') := rfl

@[simp] theorem run_fail (e : E) (s : S) : (fail e : M S E α).run s = (.error e, s) := rfl

@[simp] theorem run_read (f : S → α) (s : S) : (read f : M S E α).run s = (.ok (f s), s) := rfl

variable {a : α} {x : M S E α} {s' : S}

theorem run_read_of_eq {f : S → α} {s : S} (h : f s = a) : (read f : M S E α).run s = (.ok a, s) := by
  rw [run_read, h]

@[simp] theorem run_lift (r : Except E α) (s : S) : (lift r : M S E α).run s = (r, s) := rfl

@[simp] theorem run_query (f : S → Except E α) (s : S) : (query f).run s = (f s, s) := rfl

@[simp] theorem run_write (f : S → S) (s : S) : (write f : M S E Unit).run s = (.ok (), f s) := rfl

theorem lift_ok_bind (a : α) (f : α → M S E β) : (lift (.ok a) : M S E α) >>= f = f a := rfl

theorem bind_assoc {γ : Type} (x : M S E α) (f : α → M S E β) (g : β → M S E γ) :
    x >>= f >>= g = x >>= fun a => f a >>= g := by
  funext s
  show bind' (bind' x f) g s = bind' x (fun a => bind' (f a) g) s
  simp only [bind']
  rcases x s with ⟨e | a, t⟩ <;> rfl

theorem run_map (f : α → β) (x : M S E α) (s : S) :
    (f <$> x).run s = ((x.run s).1.map f, (x.run s).2) := by
  show (x >>= fun a => pure (f a)).run s = _
  rw [run_bind]
  rcases x.run s with ⟨e | a, t⟩ <;> rfl

/-! One equation for each way the first half of a sequence can go. -/

theorem run_bind_of_ok {f : α → M S E β} {s : S}
    (h : x.run s = (.ok a, s')) : (x >>= f).run s = (f a).run s' := by
  rw [run_bind, h]

theorem run_bind_of_error {f : α → M S E β} {s : S} {e : E}
    (h : x.run s = (.error e, s')) : (x >>= f).run s = (.error e, s') := by
  rw [run_bind, h]

@[simp] theorem run_pure_bind (a : α) (f : α → M S E β) (s : S) :
    ((pure a : M S E α) >>= f).run s = (f a).run s := rfl

@[simp] theorem run_read_bind (g : S → α) (f : α → M S E β) (s : S) :
    ((read g : M S E α) >>= f).run s = (f (g s)).run s := rfl

@[simp] theorem run_write_bind (g : S → S) (f : Unit → M S E β) (s : S) :
    ((write g : M S E Unit) >>= f).run s = (f ()).run (g s) := rfl

@[simp] theorem run_fail_bind (e : E) (f : α → M S E β) (s : S) :
    ((fail e : M S E α) >>= f).run s = (.error e, s) := rfl

@[simp] theorem run_forEach_nil (body : β → M S E Unit) (s : S) :
    (forEach [] body).run s = (.ok (), s) := rfl

theorem forEach_cons (x : β) (xs : List β) (body : β → M S E Unit) :
    forEach (x :: xs) body = (body x >>= fun _ => forEach xs body) := rfl

theorem run_atomically (x : M S E α) (s : S) :
    (atomically x).run s = match x.run s with
      | (.ok a, s') => (.ok a, s')
      | (.error e, _) => (.error e, s) := rfl

theorem run_mapErr (g : E → E) (x : M S E α) (s : S) :
    (mapErr g x).run s = match x.run s with
      | (.ok a, s') => (.ok a, s')
      | (.error e, s') => (.error (g e), s') := rfl

theorem atomically_error {s : S} {e : E} (h : (atomically x).run s = (.error e, s')) :
    s' = s := by
  rw [run_atomically] at h
  split at h
  · cases h
  · exact (Prod.mk.inj h).2.symm

/-! How a program that returned a value ran. -/

theorem except_bind_ok_iff {x : Except E α} {f : α → Except E β} {b : β} :
    (x >>= f) = .ok b ↔ ∃ a, x = .ok a ∧ f a = .ok b := by
  cases x <;> simp [bind, Except.bind]

theorem pure_ok_iff {b : α} {s : S} :
    (pure a : M S E α).run s = (.ok b, s') ↔ a = b ∧ s = s' := by
  simp

theorem bind_ok_iff {f : α → M S E β} {s : S} {b : β} :
    (x >>= f).run s = (.ok b, s') ↔ ∃ a t, x.run s = (.ok a, t) ∧ (f a).run t = (.ok b, s') := by
  rw [run_bind]
  rcases x.run s with ⟨e | a, t⟩
  · simp
  · exact ⟨fun h => ⟨a, t, rfl, h⟩, fun ⟨_, _, heq, h⟩ => by cases heq; exact h⟩

theorem lift_ok_iff {r : Except E α} {s : S} :
    (lift r : M S E α).run s = (.ok a, s') ↔ r = .ok a ∧ s = s' := by
  simp

theorem exec_stmt (f : S → Except E (α × S)) (s : S) :
    (stmt f).exec s = s ∨ ∃ a, f s = .ok (a, (stmt f).exec s) := by
  unfold M.exec M.run stmt
  cases f s with
  | error e => exact .inl rfl
  | ok x => exact .inr ⟨x.1, rfl⟩

theorem stmt_ok_iff {f : S → Except E (α × S)} {s : S} :
    (stmt f).run s = (.ok a, s') ↔ f s = .ok (a, s') := by
  simp only [M.run, stmt]
  rcases f s with e | ⟨b, t⟩ <;> simp

theorem mapErr_ok_iff {g : E → E} {s : S} :
    (mapErr g x).run s = (.ok a, s') ↔ x.run s = (.ok a, s') := by
  simp only [M.run, mapErr]
  rcases x s with ⟨e | b, t⟩ <;> simp

theorem atomically_ok_iff {s : S} :
    (atomically x).run s = (.ok a, s') ↔ x.run s = (.ok a, s') := by
  rw [run_atomically]
  rcases x.run s with ⟨e | b, t⟩ <;> simp

theorem forEach_total {xs : List β} {body : β → M S E Unit} (h : ∀ x ∈ xs, ∀ s, ∃ s', (body x).run s = (.ok (), s'))
    (s : S) : ∃ s', (forEach xs body).run s = (.ok (), s') := by
  induction xs generalizing s with
  | nil => exact ⟨s, rfl⟩
  | cons x xs ih =>
    rw [List.forall_mem_cons] at h
    obtain ⟨s₁, hx⟩ := h.1 s
    obtain ⟨s', hxs⟩ := ih h.2 s₁
    exact ⟨s', bind_ok_iff.2 ⟨(), s₁, hx, hxs⟩⟩

theorem forall_of_forEach_ok {xs : List β} {body : β → M S E Unit} {P : β → Prop} {s : S}
    (hbody : ∀ x s s', (body x).run s = (.ok (), s') → P x) (h : (forEach xs body).run s = (.ok (), s')) :
    ∀ x ∈ xs, P x := by
  induction xs generalizing s with
  | nil => simp
  | cons x xs ih =>
    obtain ⟨u, s₁, hx, hxs⟩ := bind_ok_iff.1 h
    exact List.forall_mem_cons.2 ⟨hbody x s s₁ hx, ih hxs⟩

/-! Programs that keep a property of the store. -/

/-- `x` takes stores where `I` holds to stores where `I` holds. -/
def Keeps (I : S → Prop) (x : M S E α) : Prop := ∀ s, I s → I (x.exec s)

namespace Keeps

variable {I : S → Prop}

theorem pure (a : α) : Keeps I (Pure.pure a : M S E α) := fun _ h => h

theorem fail (e : E) : Keeps I (Txn.fail e : M S E α) := fun _ h => h

theorem read (f : S → α) : Keeps I (Txn.read f : M S E α) := fun _ h => h

theorem lift (r : Except E α) : Keeps I (Txn.lift r : M S E α) := fun _ h => h

theorem bind {x : M S E α} {f : α → M S E β} (hx : Keeps I x) (hf : ∀ a, Keeps I (f a)) :
    Keeps I (x >>= f) := by
  intro s hs
  have hx' := hx s hs
  simp only [M.exec, run_bind] at hx' ⊢
  split <;> rename_i heq <;> rw [heq] at hx'
  · exact hf _ _ hx'
  · exact hx'

theorem mapErr {g : E → E} {x : M S E α} (hx : Keeps I x) : Keeps I (Txn.mapErr g x) := by
  intro s hs
  have hx' := hx s hs
  simp only [M.exec, M.run, Txn.mapErr] at hx' ⊢
  split <;> rename_i heq <;> rw [heq] at hx' <;> exact hx'

theorem attempt {x : M S E α} (hx : Keeps I x) : Keeps I (Txn.attempt x) := hx

end Keeps

/-! The store a program leaves. -/

def ReadsOnly (x : M S E α) : Prop := ∀ s, x.exec s = s

theorem ReadsOnly.of_keeps (h : ∀ I, Keeps I x) : ReadsOnly x := fun s => h (· = s) s rfl

theorem ReadsOnly.keeps (h : ReadsOnly x) (I : S → Prop) : Keeps I x := fun s hs => by
  rwa [h s]

theorem ReadsOnly.store_eq (hx : ReadsOnly x) {s : S} {r : Except E α} (h : x.run s = (r, s')) :
    s' = s := by
  have heq := hx s
  rwa [M.exec, h] at heq

theorem exec_bind (x : M S E α) (f : α → M S E β) (s : S) :
    (x >>= f).exec s = match x.result s with
      | .ok a => (f a).exec (x.exec s)
      | .error _ => x.exec s := by
  simp only [M.exec, M.result, run_bind]
  rcases x.run s with ⟨e | a, t⟩ <;> rfl

theorem exec_bind_of_readsOnly {f : α → M S E β} (hf : ∀ a, ReadsOnly (f a)) (s : S) :
    (x >>= f).exec s = x.exec s := by
  rw [exec_bind]
  split
  · exact hf _ _
  · rfl

theorem ReadsOnly.exec_bind (hx : ReadsOnly x) (f : α → M S E β) (s : S) :
    (x >>= f).exec s = match x.result s with
      | .ok a => (f a).exec s
      | .error _ => s := by
  rw [Txn.exec_bind, hx s]

theorem exec_lift_bind (r : Except E Unit) [Decidable (r = .ok ())] (f : Unit → M S E β) (s : S) :
    (lift r >>= f).exec s = if r = .ok () then (f ()).exec s else s := by
  rcases r with e | ⟨⟩
  · exact (if_neg (by simp)).symm
  · exact (if_pos rfl).symm

@[simp] theorem exec_mapErr (g : E → E) (x : M S E α) (s : S) : (mapErr g x).exec s = x.exec s := by
  simp only [M.exec, run_mapErr]
  rcases x.run s with ⟨e | a, t⟩ <;> rfl

/-! Programs that fail without a trace. -/

section AllOrNothing

variable {T : Type}

/-- A run of `x` that fails changes nothing of what the view shows. -/
def AllOrNothing (view : S → T) (x : M S E α) : Prop := ∀ s, view (x.exec s) = view s ∨ ∃ a, x.result s = .ok a

namespace AllOrNothing

variable {view : S → T}

theorem of_keeps {x : M S E α} (h : ∀ t, Keeps (view · = t) x) : AllOrNothing view x := fun s => .inl (h _ s rfl)

theorem atomically (x : M S E α) : AllOrNothing view (Txn.atomically x) := by
  intro s
  simp only [M.exec, M.result, run_atomically]
  rcases x.run s with ⟨e | a, t⟩
  · exact .inl rfl
  · exact .inr ⟨a, rfl⟩

theorem mapErr {x : M S E α} (h : AllOrNothing view x) (g : E → E) : AllOrNothing view (Txn.mapErr g x) := by
  intro s
  rw [exec_mapErr]
  refine (h s).imp_right fun ⟨a, ha⟩ => ⟨a, ?_⟩
  simp only [M.result, run_mapErr] at ha ⊢
  rcases hx : x.run s with ⟨e | b, t⟩ <;> rw [hx] at ha
  · cases ha
  · exact ha

theorem bind {x : M S E α} {f : α → M S E β} (hx : ∀ t, Keeps (view · = t) x) (hf : ∀ a, AllOrNothing view (f a)) :
    AllOrNothing view (x >>= f) := by
  intro s
  have hs := hx _ s rfl
  rw [M.exec] at hs
  rcases hx : x.run s with ⟨e | a, t⟩ <;> rw [hx] at hs <;> simp only [M.exec, M.result, run_bind, hx]
  · exact .inl hs
  · rw [← hs]
    exact hf a t

theorem answer {x : M S E α} (h : AllOrNothing view x) (g : α → β) :
    AllOrNothing view (x >>= fun a => pure (g a)) := by
  intro s
  rw [exec_bind_of_readsOnly fun _ _ => rfl]
  refine (h s).imp_right fun ⟨a, ha⟩ => ⟨g a, ?_⟩
  simp only [M.result, run_bind] at ha ⊢
  rcases hx : x.run s with ⟨e | b, t⟩ <;> rw [hx] at ha
  · cases ha
  · cases ha
    rfl

end AllOrNothing

end AllOrNothing

end Txn
