import Vraxel.AgentGw.DataHub
/-
  The rendezvous of the data hub, in every interleaving of any calls.

  Nothing else writes to the array of the slice that a `register` has drained: a channel is parked
  for one host or was drained by one `register`.
-/

namespace Vraxel.AgentGw

open Slices Txn Interleave Transition

variable {number : Nat}

namespace DataHub

def parkedOn (h : DataHub) (hostID : Int) : List Nat := (h.parked.filter (·.1 = hostID)).map Prod.snd

structure Sound (h : DataHub) : Prop where
  queue : ∀ hostID, h.waiters.queue hostID = h.parkedOn hostID
  nodup : (h.parked.map Prod.snd ++ h.drained.map Prod.snd).Nodup
  made : ∀ ch ∈ h.parked.map Prod.snd ++ h.drained.map Prod.snd, ch < h.made
  numbers : ∀ w ∈ h.drained, w.1 < h.registers
  closes : ∀ w ∈ h.closes, w ∈ h.drained
  once : (h.closes.map Prod.snd).Nodup

/-- What a `register` has to close is what it has closed and `chs`. -/
structure Pending (h : DataHub) (number : Nat) (chs : List Nat) : Prop where
  lt : number < h.registers
  drained : ∀ ch, (number, ch) ∈ h.drained ↔ (number, ch) ∈ h.closes ∨ ch ∈ chs
  unclosed : ∀ ch ∈ chs, (number, ch) ∉ h.closes
  nodup : chs.Nodup

theorem sound_empty : empty.Sound where
  queue := fun _ => rfl
  nodup := List.nodup_nil
  made := fun _ h => by cases h
  numbers := fun _ h => by cases h
  closes := fun _ h => by cases h
  once := List.nodup_nil

section Steps

variable {h : DataHub} (hostID : Int)

/-! The waiters of a host after a statement. -/

theorem parkedOn_swap (sess : Nat) : (h.swap hostID sess).parkedOn = Function.update h.parkedOn hostID [] := by
  funext hostID'
  by_cases heq : hostID' = hostID
  · subst heq
    rw [Function.update_self, parkedOn, swap, List.filter_filter]
    simp
  · rw [Function.update_of_ne heq, parkedOn, parkedOn, swap, List.filter_filter]
    congr 1
    apply List.filter_congr
    intro w _
    by_cases hw : w.1 = hostID' <;> simp [hw, heq]

theorem parkedOn_enqueue (grow : Nat → List Nat) :
    (h.enqueue hostID grow).parkedOn = Function.update h.parkedOn hostID (h.parkedOn hostID ++ [h.made]) := by
  funext hostID'
  by_cases heq : hostID' = hostID
  · subst heq
    simp [parkedOn, enqueue]
  · simp [parkedOn, enqueue, heq, Ne.symm heq]

theorem nodup_parkedOn (hs : h.Sound) : (h.parkedOn hostID).Nodup :=
  (List.nodup_append.1 hs.nodup).1.sublist (List.filter_sublist.map Prod.snd)

theorem parkedOn_cancelled (hs : h.Sound) (ready : Nat) :
    (h.cancelled hostID ready).parkedOn = Function.update h.parkedOn hostID ((h.parkedOn hostID).erase ready) := by
  funext hostID'
  by_cases heq : hostID' = hostID
  · subst heq
    rw [Function.update_self, (nodup_parkedOn hostID' hs).erase_eq_filter, parkedOn, parkedOn, cancelled, List.filter_map,
      List.filter_filter, List.filter_filter]
    congr 1
    apply List.filter_congr
    intro w _
    by_cases hw : w.1 = hostID' <;> simp [hw, Prod.ext_iff, bne, Bool.beq_eq_decide_eq]
  · rw [Function.update_of_ne heq, parkedOn, parkedOn, cancelled, List.filter_filter]
    congr 1
    apply List.filter_congr
    intro w _
    by_cases hw : w.1 = hostID' <;> simp [hw, heq, Prod.ext_iff]

/-! Each statement keeps the invariant. -/

theorem sound_swap (hs : h.Sound) (sess : Nat) : (h.swap hostID sess).Sound := by
  -- the channels are the same, in another order
  have hperm : List.Perm ((h.swap hostID sess).parked.map Prod.snd ++ (h.swap hostID sess).drained.map Prod.snd)
      (h.parked.map Prod.snd ++ h.drained.map Prod.snd) := by
    have hsplit := (List.filter_append_perm (fun w => decide (w.1 ≠ hostID)) h.parked).map Prod.snd
    simp only [swap, List.map_append, List.map_map, Function.comp_def, decide_not, Bool.not_not] at hsplit ⊢
    refine (List.perm_append_comm.append_left _).trans ?_
    rw [← List.append_assoc]
    exact hsplit.append_right _
  refine ⟨?_, hperm.nodup_iff.2 hs.nodup, fun ch hch => hs.made ch (hperm.mem_iff.1 hch), ?_, ?_, hs.once⟩
  · intro hostID'
    rw [parkedOn_swap, ← funext hs.queue]
    exact congrFun (h.waiters.queue_delete hostID) hostID'
  · intro w hw
    rcases List.mem_append.1 hw with hw | hw
    · exact Nat.lt_succ_of_lt (hs.numbers w hw)
    · obtain ⟨w', _, rfl⟩ := List.mem_map.1 hw
      exact Nat.lt_succ_self _
  · exact fun w hw => List.mem_append_left _ (hs.closes w hw)

theorem sound_enqueue (hs : h.Sound) (grow : Nat → List Nat) : (h.enqueue hostID grow).Sound := by
  have hperm : List.Perm ((h.enqueue hostID grow).parked.map Prod.snd ++ (h.enqueue hostID grow).drained.map Prod.snd)
      (h.made :: (h.parked.map Prod.snd ++ h.drained.map Prod.snd)) := by
    simp only [enqueue, List.map_append, List.append_assoc]
    exact List.perm_middle
  refine ⟨?_, hperm.nodup_iff.2 (List.nodup_cons.2 ⟨fun hmem => Nat.lt_irrefl _ (hs.made _ hmem), hs.nodup⟩), ?_, hs.numbers, hs.closes, hs.once⟩
  · intro hostID'
    rw [parkedOn_enqueue, ← funext hs.queue]
    exact congrFun (h.waiters.queue_enqueue hostID h.made grow) hostID'
  · intro ch hch
    rcases List.mem_cons.1 (hperm.mem_iff.1 hch) with rfl | hch
    · exact Nat.lt_succ_self _
    · exact Nat.lt_succ_of_lt (hs.made ch hch)

theorem sound_cancelled (hs : h.Sound) (ready : Nat) : (h.cancelled hostID ready).Sound := by
  have hsub : List.Sublist ((h.cancelled hostID ready).parked.map Prod.snd ++ h.drained.map Prod.snd)
      (h.parked.map Prod.snd ++ h.drained.map Prod.snd) :=
    List.Sublist.append (List.filter_sublist.map Prod.snd) (List.Sublist.refl _)
  refine ⟨?_, hs.nodup.sublist hsub, fun ch hch => hs.made ch (hsub.mem hch), hs.numbers, hs.closes, hs.once⟩
  intro hostID'
  rw [parkedOn_cancelled hostID hs, ← funext hs.queue]
  exact congrFun (h.waiters.queue_cancelWaiter hostID ready) hostID'

theorem drop_eq (h : DataHub) (hostID : Int) (sess : Nat) : ∃ sessions, h.drop hostID sess = { h with sessions := sessions } := by
  unfold drop
  split
  · exact ⟨_, rfl⟩
  · exact ⟨h.sessions, rfl⟩

theorem sound_drop (hs : h.Sound) (sess : Nat) : (h.drop hostID sess).Sound := by
  obtain ⟨sessions, hdrop⟩ := h.drop_eq hostID sess
  rw [hdrop]
  exact ⟨hs.queue, hs.nodup, hs.made, hs.numbers, hs.closes, hs.once⟩

theorem eq_of_drained (hs : h.Sound) {n₁ n₂ ch : Nat} (h₁ : (n₁, ch) ∈ h.drained) (h₂ : (n₂, ch) ∈ h.drained) : n₁ = n₂ := by
  have hnodup := (List.nodup_append.1 hs.nodup).2.1
  have := List.inj_on_of_nodup_map hnodup h₁ h₂ rfl
  exact congrArg Prod.fst this

theorem sound_close (hs : h.Sound) {ch : Nat} (hmem : (number, ch) ∈ h.drained) (hopen : (number, ch) ∉ h.closes) :
    (h.close number ch).Sound := by
  refine ⟨hs.queue, hs.nodup, hs.made, hs.numbers, ?_, ?_⟩
  · intro w hw
    rcases List.mem_append.1 hw with hw | hw
    · exact hs.closes w hw
    · rw [List.mem_singleton.1 hw]
      exact hmem
  · -- another close of the channel would be one of the same `register`
    have hfresh : ch ∉ h.closes.map Prod.snd := by
      intro hclosed
      obtain ⟨w, hw, rfl⟩ := List.mem_map.1 hclosed
      have hnumber := eq_of_drained hs (hs.closes w hw) hmem
      exact hopen (hnumber ▸ hw)
    rw [close, List.map_append]
    refine List.nodup_append.2 ⟨hs.once, List.nodup_singleton _, ?_⟩
    intro ch' hch' ch'' hch'' heq
    rw [heq, List.mem_singleton.1 hch''] at hch'
    exact hfresh hch'

/-! What is left to a `register`. -/

theorem pending_swap (hs : h.Sound) (sess : Nat) : (h.swap hostID sess).Pending h.registers (h.parkedOn hostID) := by
  have hold : ∀ ch, (h.registers, ch) ∉ h.drained := fun ch hmem => Nat.lt_irrefl _ (hs.numbers _ hmem)
  refine ⟨Nat.lt_succ_self _, fun ch => ?_, fun ch _ hclosed => hold ch (hs.closes _ hclosed), nodup_parkedOn hostID hs⟩
  have hdrained : (h.registers, ch) ∈ (h.swap hostID sess).drained ↔ ch ∈ h.parkedOn hostID := by
    simp [swap, hold, parkedOn]
  rw [hdrained]
  exact ⟨.inr, fun hor => hor.resolve_left fun hclosed => hold ch (hs.closes _ hclosed)⟩

theorem Pending.close {number ch : Nat} {chs : List Nat} (hp : h.Pending number (ch :: chs)) :
    (h.close number ch).Pending number chs := by
  obtain ⟨hnot, hnodup⟩ := List.nodup_cons.1 hp.nodup
  refine ⟨hp.lt, fun ch' => ?_, fun ch' hch' hclosed => ?_, hnodup⟩
  · have hiff := hp.drained ch'
    rw [List.mem_cons, ← or_assoc] at hiff
    rw [DataHub.close, List.mem_append, List.mem_singleton, Prod.mk.injEq]
    simpa using hiff
  · rcases List.mem_append.1 hclosed with hclosed | hclosed
    · exact hp.unclosed ch' (List.mem_cons_of_mem _ hch') hclosed
    · cases List.mem_singleton.1 hclosed
      exact hnot hch'

end Steps

end DataHub

variable {q : HubStmt}

section Runs

variable (grow : Nat → List Nat)

theorem exec_enqueue (h : DataHub) (hostID : Int) :
    ((HubStmt.sem grow (.enqueue hostID)).run h = (.ok (.parked h.made), h.enqueue hostID grow)) ∨
      ∃ sess, (HubStmt.sem grow (.enqueue hostID)).run h = (.ok (.session sess), h) := by
  cases hsess : h.sessions hostID with
  | none => exact .inl (by simp [HubStmt.sem, M.run, hsess])
  | some sess => exact .inr ⟨sess, by simp [HubStmt.sem, M.run, hsess]⟩

/-! A `register` owns its number, and an `await` its waiter. -/

/-- The others leave alone what was drained and closed for the program's number, and the slices that are not in
the map. -/
structure Keeps (v : Option (Nat ⊕ Int × Nat)) (h h' : DataHub) : Prop where
  made : h.made ≤ h'.made
  registers : h.registers ≤ h'.registers
  drained : ∀ number ch, number < h.registers → ((number, ch) ∈ h'.drained ↔ (number, ch) ∈ h.drained)
  closes : ∀ number ch, v = some (.inl number) → ((number, ch) ∈ h'.closes ↔ (number, ch) ∈ h.closes)
  waiters : ∀ w, h.waiters.Detached w → h'.waiters.Detached w ∧ w.values h'.waiters.arrays = w.values h.waiters.arrays

def DataHub.Owned (h : DataHub) : Nat ⊕ Int × Nat → Prop
  | .inl number => number < h.registers
  | .inr w => w.2 < h.made

/-- What the hub needs: each `register` that has begun, and each waiter that is parked. -/
def DataHub.Needs (h : DataHub) : Nat ⊕ Int × Nat → Prop
  | .inl number => number < h.registers
  | .inr w => w ∈ h.parked

def rendezvousRule : Discipline DataHub hubSig String (Nat ⊕ Int × Nat) where
  take
    | .swap _ _, .ok taken, _ => some (.inl taken.number)
    | .enqueue hostID, .ok (.parked ready), _ => some (.inr (hostID, ready))
    | .cancelWaiter _ _, _, _ => none
    | _, _, v => v
  owned := DataHub.Owned
  rely := Keeps
  pre
    | v, .swap _ _, _ | v, .drop _ _, _ | v, .enqueue _, _ => v = none
    | v, .closeSession number _, _ | v, .load number _ _, _ => v = some (.inl number)
    | v, .close number ch, h => v = some (.inl number) ∧ (number, ch) ∈ h.drained ∧ (number, ch) ∉ h.closes
    | v, .trigger hostID _, _ | v, .get hostID, _ => ∃ ready, v = some (.inr (hostID, ready))
    | v, .select hostID ready _, _ | v, .cancelWaiter hostID ready, _ => v = some (.inr (hostID, ready))

section Rules

variable {v : Option (Nat ⊕ Int × Nat)} {h h' : DataHub}

theorem Keeps.refl (v : Option (Nat ⊕ Int × Nat)) (h : DataHub) : Keeps v h h :=
  ⟨le_rfl, le_rfl, fun _ _ _ => Iff.rfl, fun _ _ _ => Iff.rfl, fun _ hw => ⟨hw, rfl⟩⟩

theorem Keeps.trans {h'' : DataHub} (h₁ : Keeps v h h') (h₂ : Keeps v h' h'') : Keeps v h h'' := by
  refine ⟨h₁.made.trans h₂.made, h₁.registers.trans h₂.registers, fun number ch hlt => ?_, fun number ch hv => ?_, fun w hw => ?_⟩
  · exact (h₂.drained number ch (hlt.trans_le h₁.registers)).trans (h₁.drained number ch hlt)
  · exact (h₂.closes number ch hv).trans (h₁.closes number ch hv)
  · obtain ⟨hw', hvalues⟩ := h₁.waiters w hw
    exact ⟨(h₂.waiters w hw').1, (h₂.waiters w hw').2.trans hvalues⟩

theorem Keeps.owned (hk : Keeps v h h') (k : Nat ⊕ Int × Nat) (ho : h.Owned k) : h'.Owned k := by
  cases k with
  | inl number => exact ho.trans_le hk.registers
  | inr w => exact ho.trans_le hk.made

theorem DataHub.Pending.keeps {chs : List Nat} (hp : h.Pending number chs)
    (hk : Keeps (some (.inl number)) h h') : h'.Pending number chs := by
  refine ⟨hp.lt.trans_le hk.registers, fun ch => ?_, fun ch hch => ?_, hp.nodup⟩
  · rw [hk.drained number ch hp.lt, hk.closes number ch rfl]
    exact hp.drained ch
  · rw [hk.closes number ch rfl]
    exact hp.unclosed ch hch

theorem keeps_exec (h : DataHub) (hq : ∀ number ch, q = .close number ch → v ≠ some (.inl number)) :
    Keeps v h ((q.sem grow).exec h) := by
  cases q with
  | swap hostID sess =>
    refine ⟨le_rfl, Nat.le_succ _, fun number ch hlt => ?_, fun _ _ _ => Iff.rfl,
      fun w hw => WaiterMap.detached_setEntry (h.waiters.fits_none hostID) hw⟩
    -- the waiters that are drained are those of a new number
    show (number, ch) ∈ h.drained ++ _ ↔ _
    rw [List.mem_append]
    refine ⟨fun hor => hor.resolve_right ?_, .inl⟩
    intro hmem
    obtain ⟨w, _, hw⟩ := List.mem_map.1 hmem
    exact Nat.ne_of_gt hlt (congrArg Prod.fst hw)
  | close number ch =>
    refine ⟨le_rfl, le_rfl, fun _ _ _ => Iff.rfl, fun number' ch' hv => ?_, fun w hw => ⟨hw, rfl⟩⟩
    show (number', ch') ∈ h.closes ++ _ ↔ _
    rw [List.mem_append]
    refine ⟨fun hor => hor.resolve_right ?_, .inl⟩
    intro hmem
    cases List.mem_singleton.1 hmem
    exact hq _ _ rfl hv
  | drop hostID sess =>
    show Keeps v h (h.drop hostID sess)
    obtain ⟨sessions, hdrop⟩ := h.drop_eq hostID sess
    rw [hdrop]
    exact ⟨le_rfl, le_rfl, fun _ _ _ => Iff.rfl, fun _ _ _ => Iff.rfl, fun _ hw => ⟨hw, rfl⟩⟩
  | enqueue hostID =>
    unfold M.exec
    rcases exec_enqueue grow h hostID with hrun | ⟨sess, hrun⟩
    · rw [hrun]
      exact ⟨Nat.le_succ _, le_rfl, fun _ _ _ => Iff.rfl, fun _ _ _ => Iff.rfl,
        fun w hw => WaiterMap.detached_setEntry (h.waiters.fits_append hostID h.made grow) hw⟩
    · rw [hrun]
      exact .refl v h
  | cancelWaiter hostID ready =>
    exact ⟨le_rfl, le_rfl, fun _ _ _ => Iff.rfl, fun _ _ _ => Iff.rfl,
      fun w hw => WaiterMap.detached_setEntry (h.waiters.fits_removeWaiter hostID ready) hw⟩
  | _ => exact .refl v h

theorem sound_exec (hs : h.Sound) (hpre : rendezvousRule.pre v q h) : ((q.sem grow).exec h).Sound := by
  cases q with
  | swap hostID sess => exact DataHub.sound_swap hostID hs sess
  | close number ch => exact DataHub.sound_close hs hpre.2.1 hpre.2.2
  | drop hostID sess => exact DataHub.sound_drop hostID hs sess
  | enqueue hostID =>
    unfold M.exec
    rcases exec_enqueue grow h hostID with hrun | ⟨sess, hrun⟩
    · rw [hrun]
      exact DataHub.sound_enqueue hostID hs grow
    · rw [hrun]
      exact hs
  | cancelWaiter hostID ready => exact DataHub.sound_cancelled hostID hs ready
  | _ => exact hs

theorem owned_of_take {k : Nat ⊕ Int × Nat} (hv : ∀ k, v = some k → h.Owned k)
    (hk : rendezvousRule.take q ((q.sem grow).result h) v = some k) :
    ((q.sem grow).exec h).Owned k ∧ (v = some k ∨ ¬ h.Owned k) := by
  have hkept (hk : v = some k) : ((q.sem grow).exec h).Owned k ∧ (v = some k ∨ ¬ h.Owned k) :=
    ⟨(keeps_exec (v := none) grow h fun _ _ _ hv => by cases hv).owned k (hv k hk), .inl hk⟩
  cases q with
  | swap hostID sess =>
    cases hk
    exact ⟨Nat.lt_succ_self _, .inr (Nat.lt_irrefl _)⟩
  | enqueue hostID =>
    unfold M.result at hk
    rcases exec_enqueue grow h hostID with hrun | ⟨sess, hrun⟩
    · rw [hrun] at hk
      cases hk
      unfold M.exec
      rw [hrun]
      exact ⟨Nat.lt_succ_self _, .inr (Nat.lt_irrefl _)⟩
    · rw [hrun] at hk
      exact hkept hk
  | cancelWaiter hostID ready => cases hk
  | _ => exact hkept hk

theorem needs_exec (hpre : rendezvousRule.pre v q h) {k : Nat ⊕ Int × Nat}
    (hk : ((q.sem grow).exec h).Needs k) :
    rendezvousRule.take q ((q.sem grow).result h) v = some k ∨ h.Needs k ∧ v ≠ some k := by
  have hkept (hneed : h.Needs k) : v = some k ∨ h.Needs k ∧ v ≠ some k :=
    (Classical.em (v = some k)).imp id fun hv => ⟨hneed, hv⟩
  cases q with
  | swap hostID sess =>
    cases hpre
    cases k with
    | inl number =>
      rcases Nat.lt_succ_iff_lt_or_eq.1 hk with hlt | heq
      · exact .inr ⟨hlt, nofun⟩
      · exact .inl (congrArg (fun n => some (Sum.inl n)) heq.symm)
    | inr w => exact .inr ⟨List.mem_of_mem_filter hk, nofun⟩
  | drop hostID sess =>
    cases hpre
    refine .inr ⟨?_, nofun⟩
    obtain ⟨sessions, hdrop⟩ := h.drop_eq hostID sess
    have hk : (h.drop hostID sess).Needs k := hk
    rw [hdrop] at hk
    cases k <;> exact hk
  | enqueue hostID =>
    cases hpre
    unfold M.exec M.result at *
    rcases exec_enqueue grow h hostID with hrun | ⟨sess, hrun⟩
    · rw [hrun] at hk ⊢
      cases k with
      | inl number => exact .inr ⟨hk, nofun⟩
      | inr w =>
        rcases List.mem_append.1 hk with hmem | hmem
        · exact .inr ⟨hmem, nofun⟩
        · rw [List.mem_singleton.1 hmem]
          exact .inl rfl
    · rw [hrun] at hk ⊢
      exact .inr ⟨hk, nofun⟩
  | cancelWaiter hostID ready =>
    cases hpre
    -- the waiter is not parked any more
    cases k with
    | inl number => exact .inr ⟨hk, nofun⟩
    | inr w =>
      obtain ⟨hmem, hne⟩ := List.mem_filter.1 hk
      refine .inr ⟨hmem, fun heq => ?_⟩
      cases heq
      simp at hne
  | close number ch => cases k <;> exact hkept hk
  | _ => exact hkept hk

theorem rendezvousRule_sound :
    rendezvousRule.Sound (hubSystem grow) DataHub.Sound (fun _ _ => True) DataHub.Needs where
  refl := .refl
  trans _ _ _ _ h h' := h.trans h'
  owned k _ _ h := h.owned k
  inv _ _ _ hs hpre _ _ _ := sound_exec grow hs hpre
  take _ _ _ _ _ _ _ _ hv hk := owned_of_take grow hv hk
  others q h v v' _ hpre _ _ hne := keeps_exec grow h fun number ch hq => by
    subst hq
    exact hne _ hpre.1
  need _ _ _ _ _ hpre _ _ hk := needs_exec grow hpre hk

end Rules

/-- How a program ends: a `register` has closed what it drained. -/
def HubEnds (v : Option (Nat ⊕ Int × Nat)) (h : DataHub) (r : Except String Answer) : Prop :=
  match v with
  | none => ∀ number, r ≠ .ok (.registered number)
  | some (.inl number) => r = .ok (.registered number) ∧ h.Pending number []
  | some (.inr _) => False

abbrev SafeHub {α : Type} (Q : Option (Nat ⊕ Int × Nat) → DataHub → Except String α → Prop) :
    Option (Nat ⊕ Int × Nat) → DataHub → Prog hubSig String α → Prop :=
  rendezvousRule.Safe (hubSystem grow) DataHub.Sound (fun _ _ => True) Q

section Programs

variable {h : DataHub}

theorem safe_closeFrom {k n : Nat} {w : Slice} (hw : h.waiters.Detached w)
    (hn : n = ((w.values h.waiters.arrays).drop k).length) (hp : h.Pending number ((w.values h.waiters.arrays).drop k)) :
    SafeHub grow (fun v h r => v = some (.inl number) ∧ r = .ok () ∧ h.Pending number []) (some (.inl number)) h
      (closeFrom number w k n) := by
  induction n generalizing h k with
  | zero => exact ⟨rfl, rfl, List.eq_nil_of_length_eq_zero hn.symm ▸ hp⟩
  | succ n ih =>
    have hlt : k < (w.values h.waiters.arrays).length := by
      rw [List.length_drop] at hn
      omega
    rw [List.drop_eq_getElem_cons hlt] at hn hp
    refine fun h₁ hk₁ _ => ⟨rfl, fun _ _ => ?_⟩
    obtain ⟨hw₁, hvalues₁⟩ := hk₁.waiters w hw
    show SafeHub grow _ _ h₁ (do
      Prog.ask (G := hubSig) (.close number (((w.values h₁.waiters.arrays)[k]?).getD 0))
      closeFrom number w (k + 1) n)
    rw [hvalues₁, List.getElem?_eq_getElem hlt, Option.getD_some]
    have hp₁ := hp.keeps hk₁
    refine fun h₂ hk₂ _ => ⟨⟨rfl, ?_, ?_⟩, fun _ _ => ?_⟩
    · exact ((hp₁.keeps hk₂).drained _).2 (.inr List.mem_cons_self)
    · exact (hp₁.keeps hk₂).unclosed _ List.mem_cons_self
    · obtain ⟨hw₂, hvalues₂⟩ := hk₂.waiters w hw₁
      have hvalues := hvalues₂.trans hvalues₁
      refine ih hw₂ ?_ ?_
      · exact (Nat.succ_inj.1 hn).trans (congrArg (fun l => (l.drop (k + 1)).length) hvalues.symm)
      · exact congrArg (List.drop (k + 1)) hvalues ▸ (hp₁.keeps hk₂).close

theorem safe_register (hostID : Int) (sess : Nat) : SafeHub grow HubEnds none h (register hostID sess) := by
  refine fun h₁ _ hs => ⟨rfl, fun _ _ => ?_⟩
  have hp := DataHub.pending_swap hostID hs sess
  refine Discipline.Safe.bind (Q := fun v h r => v = some (.inl h₁.registers) ∧ r = .ok () ∧ Keeps v (h₁.swap hostID sess) h)
    ?_ (fun v h u ⟨hv, _, hkeeps⟩ => ?_) fun v h e ⟨_, hr, _⟩ => by cases hr
  · unfold closeSuperseded
    split
    · exact ⟨rfl, rfl, .refl _ _⟩
    · exact fun h₂ hk₂ _ => ⟨rfl, fun _ _ => ⟨rfl, rfl, hk₂⟩⟩
  subst hv
  refine Discipline.Safe.bind (Q := fun v h r => v = some (.inl h₁.registers) ∧ r = .ok () ∧ h.Pending h₁.registers [])
    ?_ (fun v h u ⟨hv, _, hp⟩ => hv ▸ ⟨rfl, hp⟩) fun v h e ⟨_, hr, _⟩ => by cases hr
  have hvalues : values h₁.waiters.arrays (h₁.waiters.entries hostID) = h₁.parkedOn hostID := hs.queue hostID
  cases hw : h₁.waiters.entries hostID with
  | none =>
    rw [hw] at hvalues
    have hnil : h₁.parkedOn hostID = [] := hvalues.symm
    exact ⟨rfl, rfl, (hnil ▸ hp).keeps hkeeps⟩
  | some w =>
    rw [hw, values_some] at hvalues
    obtain ⟨hdetached, hkept⟩ := hkeeps.waiters w (h₁.waiters.detached_of_entries hostID hw)
    have hkept : w.values h.waiters.arrays = w.values h₁.waiters.arrays := hkept
    have hlen := (h₁.waiters.valid_entries hostID hw).2
    refine safe_closeFrom grow hdetached ?_ ?_
    · rw [hkept, List.drop_zero, Slice.values, List.length_take]
      exact (Nat.min_eq_left hlen).symm
    · rw [hkept, List.drop_zero, hvalues]
      exact hp.keeps hkeeps

theorem safe_await (hostID : Int) (sent : Except String Unit) (wake : Wake) :
    SafeHub grow HubEnds none h (await hostID sent wake) := by
  refine Discipline.safe_exec (fun _ _ _ => rfl) fun h₁ r h₂ _ _ _ _ hrun => ?_
  rcases exec_enqueue grow h₁ hostID with hrun' | ⟨sess, hrun'⟩
  · cases hrun'.symm.trans hrun
    refine Discipline.Safe.bind (Q := fun v _ (r : Except String (Except String Answer)) =>
      v = some (.inr (hostID, h₁.made)) ∧ ∃ r', r = .ok r' ∧ ∀ number, r' ≠ .ok (.registered number)) ?_ (fun v h r ⟨hv, r', hr, hne⟩ => ?_)
      fun v h e ⟨_, _, hr, _⟩ => by cases hr
    · refine Discipline.safe_exec (fun _ _ _ => ⟨_, rfl⟩) fun _ r _ _ _ _ _ _ => ?_
      cases r with
      | error e => exact ⟨rfl, _, rfl, fun number hr => by cases hr⟩
      | ok u =>
        refine Discipline.safe_exec (fun _ _ _ => rfl) fun _ r _ _ _ _ _ _ => ?_
        cases r with
        | error e => exact ⟨rfl, _, rfl, fun number hr => by cases hr⟩
        | ok u =>
          refine Discipline.safe_exec (fun _ _ _ => ⟨_, rfl⟩) fun _ r _ _ _ _ _ _ => ?_
          cases r with
          | error e => exact ⟨rfl, _, rfl, fun number hr => by cases hr⟩
          | ok sess => cases sess <;> exact ⟨rfl, _, rfl, fun number hr => by cases hr⟩
    · cases hv
      cases hr
      exact fun h₃ _ _ => ⟨rfl, fun _ _ => hne⟩
  · cases hrun'.symm.trans hrun
    exact fun number hr => by cases hr

theorem safe_prog (c : HubCall) (h : DataHub) : SafeHub grow HubEnds none h ((hubSystem grow).prog c) := by
  cases c with
  | register hostID sess => exact safe_register grow hostID sess
  | unregister hostID sess => exact fun _ _ _ => ⟨rfl, fun _ _ number hr => by cases hr⟩
  | await hostID sent wake => exact safe_await grow hostID sent wake

end Programs

/-- An `await` that has enqueued its waiter and not cancelled it. -/
def Waiting (p : HubProg) : Bool :=
  match p.next? with
  | some (.trigger _ _) | some (.select _ _ _) | some (.get _) | some (.cancelWaiter _ _) => true
  | _ => false

end Runs

namespace HubStmt

/-- The statement of a `register` with this number that has taken its waiters. -/
def closesFor (number : Nat) : HubStmt → Bool
  | closeSession n _ => n = number
  | load n _ _ => n = number
  | close n _ => n = number
  | _ => false

/-- The session of the host is registered anew, or unregistered. -/
def Replaces (hostID : Int) (sess : Nat) : HubStmt → Prop
  | swap hostID' _ => hostID' = hostID
  | drop hostID' sess' => hostID' = hostID ∧ sess' = sess
  | _ => False

theorem sessions_exec (grow : Nat → List Nat) {hostID : Int} {sess : Nat} (hq : ¬ q.Replaces hostID sess)
    {h : DataHub} (hsess : h.sessions hostID = some sess) : ((q.sem grow).exec h).sessions hostID = some sess := by
  cases q with
  | swap hostID' sess' =>
    show Function.update h.sessions hostID' (some sess') hostID = some sess
    rw [Function.update_of_ne (fun heq => hq heq.symm)]
    exact hsess
  | drop hostID' sess' =>
    show (h.drop hostID' sess').sessions hostID = some sess
    unfold DataHub.drop
    split
    · rename_i hcurrent
      -- it is the session of another host
      have hne : hostID ≠ hostID' := by
        intro heq
        subst heq
        rw [hsess] at hcurrent
        exact hq ⟨rfl, (Option.some.inj hcurrent).symm⟩
      exact (Function.update_of_ne hne none h.sessions).trans hsess
    · exact hsess
  | enqueue hostID' =>
    unfold M.exec
    rcases exec_enqueue grow h hostID' with hrun | ⟨sess', hrun⟩ <;> rw [hrun] <;> exact hsess
  | _ => exact hsess

end HubStmt

section Results

variable (grow : Nat → List Nat) {st : Pool DataHub hubSig String Answer}

theorem replacement_stays {hostID : Int} {sess : Nat} (hsess : st.store.sessions hostID = some sess) {es : List (Event HubCall)}
    (hes : Along (hubSystem grow).step ((hubSystem grow).Meets fun q _ => ¬ q.Replaces hostID sess) st es) :
    (run (hubSystem grow).step st es).store.sessions hostID = some sess := by
  have hstep : ∀ (st : Pool DataHub hubSig String Answer) e, st.store.sessions hostID = some sess →
      (hubSystem grow).Meets (fun q _ => ¬ q.Replaces hostID sess) st e →
      ((hubSystem grow).step st e).store.sessions hostID = some sess := by
    intro st e hsess hmeets
    rw [System.store_step]
    cases hq : (hubSystem grow).executes? st e with
    | none => exact hsess
    | some q => exact HubStmt.sessions_exec grow (hmeets q hq) hsess
  exact forall_states_of_along hstep hsess hes _ (run_mem_states _ st es)

theorem forall_owners (es : List (Event HubCall)) :
    ∀ st ∈ states (hubSystem grow).step (.init .empty) es, st.store.Sound ∧
      (∀ p ∈ st.threads, ∃ v, SafeHub grow HubEnds v st.store p) ∧
      ∀ k, st.store.Needs k → ∃ p ∈ st.threads, SafeHub grow HubEnds (some k) st.store p := by
  have hstable : ∀ v h h' r, HubEnds v h r → Keeps v h h' → HubEnds v h' r := by
    intro v h h' r hends hkeeps
    match v, hends with
    | none, hends => exact hends
    | some (.inl number), hends => exact ⟨hends.1, hends.2.keeps hkeeps⟩
    | some (.inr w), hends => exact hends.elim
  have hnone : ∀ k, ¬ DataHub.empty.Needs k := by
    intro k hk
    cases k with
    | inl number => exact Nat.not_lt_zero _ hk
    | inr w => cases hk
  have hall := (rendezvousRule_sound grow).forall_safe hstable (safe_prog grow) DataHub.sound_empty hnone
    (show Along _ _ _ es from along_of_forall fun _ _ _ _ => trivial)
  intro st hst
  obtain ⟨hs, ps, hps, hsafe, _, hheld⟩ := hall st hst
  rw [← hps]
  refine ⟨hs, fun p hp => ?_, fun k hk => ?_⟩
  · obtain ⟨x, hx, rfl⟩ := List.mem_map.1 hp
    exact ⟨x.2, (hsafe x hx).1⟩
  · obtain ⟨x, hx, hxk⟩ := hheld k hk
    exact ⟨x.1, List.mem_map_of_mem hx, hxk ▸ (hsafe x hx).1⟩

theorem closed_of_registered (hsafe : ∀ p ∈ st.threads, ∃ v, SafeHub grow HubEnds v st.store p)
    (hdone : .done (.ok (.registered number)) ∈ st.threads) (ch : Nat) :
    (number, ch) ∈ st.store.drained ↔ (number, ch) ∈ st.store.closes := by
  obtain ⟨v, hends⟩ := hsafe _ hdone
  match v, hends with
  | none, hends => exact absurd rfl (hends number)
  | some (.inl n), hends =>
    cases hends.1
    simpa using hends.2.drained ch
  | some (.inr w), hends => exact hends.elim

theorem registered_or_closes (hs : st.store.Sound) {p : HubProg} (hp : p ∈ st.threads)
    (hsafe : SafeHub grow HubEnds (some (.inl number)) st.store p) :
    ∃ i, st.threads[i]? = some (.done (.ok (.registered number))) ∨
      ∃ q, (hubSystem grow).executes? st (.step i) = some q ∧ q.closesFor number := by
  obtain ⟨i, hi⟩ := List.mem_iff_getElem?.1 hp
  refine ⟨i, ?_⟩
  cases p with
  | done r =>
    cases hsafe.1
    exact .inl hi
  | exec q next =>
    have hpre := (rendezvousRule_sound grow).pre hsafe rfl hs
    have hcloses : q.closesFor number ∧ q.ready st.store := by
      cases q with
      | closeSession n sess => cases hpre; simp [HubStmt.closesFor, HubStmt.ready]
      | load n w k => cases hpre; simp [HubStmt.closesFor, HubStmt.ready]
      | close n ch => cases hpre.1; simp [HubStmt.closesFor, HubStmt.ready]
      | trigger hostID sent => obtain ⟨_, heq⟩ := hpre; cases heq
      | get hostID => obtain ⟨_, heq⟩ := hpre; cases heq
      | _ => cases hpre
    exact .inr ⟨q, (System.executes?_step _).2 ⟨next, hi, hcloses.2⟩, hcloses.1⟩

theorem waiting_of_safe (hs : st.store.Sound) {w : Int × Nat} {p : HubProg}
    (hsafe : SafeHub grow HubEnds (some (.inr w)) st.store p) : Waiting p := by
  cases p with
  | done r => exact hsafe.elim
  | exec q next =>
    have hpre := (rendezvousRule_sound grow).pre hsafe rfl hs
    cases q with
    | trigger hostID sent => rfl
    | select hostID ready wake => rfl
    | get hostID => rfl
    | cancelWaiter hostID ready => rfl
    | close number ch => cases hpre.1
    | _ => cases hpre

/-- In every run: no channel is closed twice. A `register` that has begun has returned or can
go on, and one that has returned has closed the waiters that it found, and no other channel. A
session stays in the map until it is unregistered itself or replaced. Without an `await` in
progress no host has waiters. -/
theorem rendezvous (es : List (Event HubCall)) :
    ∀ st ∈ states (hubSystem grow).step (.init .empty) es,
      (st.store.closes.map Prod.snd).Nodup ∧
      (∀ number < st.store.registers, ∃ i, st.threads[i]? = some (.done (.ok (.registered number))) ∨
        ∃ q, (hubSystem grow).executes? st (.step i) = some q ∧ q.closesFor number) ∧
      (∀ number, .done (.ok (.registered number)) ∈ st.threads →
        ∀ ch, (number, ch) ∈ st.store.drained ↔ (number, ch) ∈ st.store.closes) ∧
      (∀ hostID sess, st.store.sessions hostID = some sess → ∀ es',
        Along (hubSystem grow).step ((hubSystem grow).Meets fun q _ => ¬ q.Replaces hostID sess) st es' →
          (run (hubSystem grow).step st es').store.sessions hostID = some sess) ∧
      ((∀ p ∈ st.threads, ¬ Waiting p) → ∀ hostID, st.store.waiters.entries hostID = none) := by
  intro st hst
  obtain ⟨hs, hsafe, hheld⟩ := forall_owners grow es st hst
  refine ⟨hs.once, fun number hnumber => ?_, fun number hdone => closed_of_registered grow hsafe hdone,
    fun hostID sess hsess es' => replacement_stays grow hsess, fun hnone hostID => ?_⟩
  · obtain ⟨p, hp, hself⟩ := hheld (.inl number) hnumber
    exact registered_or_closes grow hs hp hself
  have hparked : st.store.parked = [] := by
    apply List.eq_nil_iff_forall_not_mem.2
    intro w hw
    obtain ⟨p, hp, hself⟩ := hheld (.inr w) hw
    exact hnone p hp (waiting_of_safe grow hs hself)
  rw [WaiterMap.entries_eq_none_iff, hs.queue, DataHub.parkedOn, hparked]
  rfl

/-- Two requests wait for the host 7, the second gives up while its channel is being closed,
and the agent of the host connects again afterwards. -/
def twoWaiters : List (Event HubCall) :=
  [.call (.await 7 (.ok ()) .ready), .step 0, .call (.await 7 (.ok ()) .timeout), .step 1, .call (.register 7 5), .step 2,
    .step 2, .step 2, .step 1, .step 1, .step 1, .step 2, .step 2, .step 0, .step 0, .step 0, .step 0,
    .call (.register 7 6), .step 3, .step 3, .call (.unregister 7 5), .step 4]

theorem two_waiters_closed :
    ((run (hubSystem fun _ => [0]).step (.init .empty) twoWaiters).store.closes = [(0, 0), (0, 1)] ∧
      (run (hubSystem fun _ => [0]).step (.init .empty) twoWaiters).store.sessions 7 = some 6) ∧
    ∀ number, .done (.ok (.registered number)) ∈ (run (hubSystem fun _ => [0]).step (.init .empty) twoWaiters).threads →
      ∀ ch, (number, ch) ∈ (run (hubSystem fun _ => [0]).step (.init .empty) twoWaiters).store.drained ↔
        (number, ch) ∈ (run (hubSystem fun _ => [0]).step (.init .empty) twoWaiters).store.closes :=
  ⟨by decide, (rendezvous (fun _ => [0]) twoWaiters _ (run_mem_states _ _ _)).2.2.1⟩

end Results

end Vraxel.AgentGw
