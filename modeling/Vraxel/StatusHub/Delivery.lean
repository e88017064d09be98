import Vraxel.StatusHub.Hub
/-
  Who is offered an event (`lib/statushub/hub.go`), over every interleaving of `Subscribe`,
  `unsubscribe` and `Publish`.

  `Publish` holds the lock for reading while it goes through its keys and, for each, through the
  map; the sections of `Subscribe` and `unsubscribe` wait until no `Publish` is under way.
-/

namespace Vraxel.StatusHub

/-- A call of `Publish`: the subscribers it finds, the keys that are left, and the channels of the
first of them it has been through. -/
structure Publishing where
  event : Event
  audience : Finset (String × Nat)
  keys : List String
  visited : Finset Nat
  active : Bool

/-- The map of the hub, with a channel as the number of its `make`; the channels whose `once` has
run, those that are closed, every call of `Publish`, and which channel was offered which call's
event. -/
structure Live where
  subscribers : Finset (String × Nat)
  channels : Nat
  removed : Finset Nat
  closed : Finset Nat
  publishes : List Publishing
  offers : List (Nat × Nat)

inductive Move where
  | subscribe (key : String)
  | remove (key : String) (c : Nat)
  | close (c : Nat)
  | publish (e : Event)
  | send (n c : Nat)
  | next (n : Nat)
  | finish (n : Nat)

namespace Live

def init : Live := ⟨∅, 0, ∅, ∅, [], []⟩

def Unlocked (st : Live) : Prop := ∀ p ∈ st.publishes, p.active = false

instance (st : Live) : Decidable st.Unlocked := inferInstanceAs (Decidable (∀ p ∈ st.publishes, _))

def step (st : Live) : Move → Live
  | .subscribe key =>
    if st.Unlocked then
      { st with subscribers := insert (key, st.channels) st.subscribers, channels := st.channels + 1 }
    else st
  | .remove key c =>
    -- a second call finds the `once` done
    if st.Unlocked ∧ (key, c) ∈ st.subscribers then
      { st with subscribers := st.subscribers.erase (key, c), removed := insert c st.removed }
    else st
  | .close c => if c ∈ st.removed then { st with closed := insert c st.closed } else st
  | .publish e =>
    let audience := st.subscribers.filter (·.1 ∈ visibilityKeys e)
    { st with publishes := st.publishes ++ [⟨e, audience, visibilityKeys e, ∅, true⟩] }
  | .send n c =>
    match st.publishes[n]? with
    | some ⟨e, audience, key :: keys, visited, active⟩ =>
      if (key, c) ∈ st.subscribers ∧ c ∉ visited then
        { st with
          publishes := st.publishes.set n ⟨e, audience, key :: keys, insert c visited, active⟩
          offers := st.offers ++ [(n, c)] }
      else st
    | _ => st
  | .next n =>
    match st.publishes[n]? with
    | some ⟨e, audience, key :: keys, visited, active⟩ =>
      if ∀ x ∈ st.subscribers, x.1 = key → x.2 ∈ visited then
        { st with publishes := st.publishes.set n ⟨e, audience, keys, ∅, active⟩ }
      else st
    | _ => st
  | .finish n =>
    match st.publishes[n]? with
    | some ⟨e, audience, [], visited, _⟩ =>
      { st with publishes := st.publishes.set n ⟨e, audience, [], visited, false⟩ }
    | _ => st

end Live

/-- The event was offered to the subscribers of the keys that are done, and to those of the current
key that were visited. -/
structure Publishing.Offered (p : Publishing) (offers : List (Nat × Nat)) (n : Nat) : Prop where
  keys : ∃ done, visibilityKeys p.event = done ++ p.keys ∧
    ∀ c, (n, c) ∈ offers ↔ ∃ k, (k, c) ∈ p.audience ∧ (k ∈ done ∨ (p.keys.head? = some k ∧ c ∈ p.visited))
  visible : ∀ x ∈ p.audience, x.1 ∈ visibilityKeys p.event
  finished : p.active = false → p.keys = []

structure Sound (st : Live) : Prop where
  made : ∀ x ∈ st.subscribers, x.2 < st.channels
  single : ∀ x ∈ st.subscribers, ∀ y ∈ st.subscribers, x.2 = y.2 → x = y
  gone : ∀ c ∈ st.removed, c < st.channels ∧ ∀ k, (k, c) ∉ st.subscribers
  shut : st.closed ⊆ st.removed
  once : st.offers.Nodup
  known : ∀ o ∈ st.offers, o.1 < st.publishes.length
  offered : ∀ n (p : Publishing), st.publishes[n]? = some p → p.Offered st.offers n
  held : ∀ p ∈ st.publishes, p.active → p.audience = st.subscribers.filter (·.1 ∈ visibilityKeys p.event)

section Offered

variable {p : Publishing} {offers : List (Nat × Nat)} {n c : Nat} {key : String} {keys : List String}

theorem Publishing.Offered.append (h : p.Offered offers n) {m : Nat} (hne : m ≠ n) : p.Offered (offers ++ [(m, c)]) n := by
  obtain ⟨⟨done, hkeys, hiff⟩, hvisible, hfinished⟩ := h
  exact ⟨⟨done, hkeys, by simp [← hiff, hne.symm]⟩, hvisible, hfinished⟩

/-- A channel is in the map under one key, so no earlier key was its own. -/
theorem Publishing.Offered.send (h : p.Offered offers n) (hkeys : p.keys = key :: keys)
    (hsingle : ∀ x ∈ p.audience, ∀ y ∈ p.audience, x.2 = y.2 → x = y) (hc : (key, c) ∈ p.audience) (hfresh : c ∉ p.visited) :
    (n, c) ∉ offers ∧ { p with visited := insert c p.visited }.Offered (offers ++ [(n, c)]) n := by
  obtain ⟨⟨done, hall, hiff⟩, hvisible, hfinished⟩ := h
  have hnodup := visibilityKeys_nodup p.event
  rw [hall, hkeys] at hnodup
  have hkey : ∀ k, (k, c) ∈ p.audience → k = key := fun k hk => congrArg Prod.fst (hsingle _ hk _ hc rfl)
  refine ⟨by grind, ⟨done, hall, fun c' => ?_⟩, hvisible, hfinished⟩
  grind

theorem Publishing.Offered.next (h : p.Offered offers n) (hkeys : p.keys = key :: keys)
    (hall : ∀ c, (key, c) ∈ p.audience → c ∈ p.visited) : { p with keys, visited := ∅ }.Offered offers n := by
  obtain ⟨⟨done, hdone, hiff⟩, hvisible, hfinished⟩ := h
  refine ⟨⟨done ++ [key], by simp [hdone, hkeys], fun c => ?_⟩, hvisible, by simp_all⟩
  grind

end Offered

theorem sound_init : Sound .init := by
  constructor <;> simp [Live.init]

/-- A call that has keys left holds the lock, so the subscribers are still those it found. -/
theorem Sound.audience_eq {st : Live} (h : Sound st) {n : Nat} {p : Publishing} (hp : st.publishes[n]? = some p)
    (hkeys : p.keys ≠ []) : p.audience = st.subscribers.filter (·.1 ∈ visibilityKeys p.event) := by
  refine h.held p (List.mem_of_getElem? hp) ?_
  by_contra hactive
  exact hkeys ((h.offered n p hp).finished (by simpa using hactive))

theorem Sound.set {st : Live} (h : Sound st) {n : Nat} {p q : Publishing} (hp : st.publishes[n]? = some p)
    {offers : List (Nat × Nat)} (honce : offers.Nodup) (hknown : ∀ o ∈ offers, o.1 < st.publishes.length)
    (hothers : ∀ m (p : Publishing), m ≠ n → p.Offered st.offers m → p.Offered offers m) (hq : q.Offered offers n)
    (hheld : q.active → p.active ∧ q.event = p.event ∧ q.audience = p.audience) :
    Sound { st with publishes := st.publishes.set n q, offers } := by
  refine ⟨h.made, h.single, h.gone, h.shut, honce, by simpa using hknown, fun m p' hm => ?_, fun p' hm hactive => ?_⟩
  · rw [List.getElem?_set] at hm
    split_ifs at hm with heq hlt
    · cases hm
      exact heq ▸ hq
    · exact hothers m p' (Ne.symm heq) (h.offered m p' hm)
  · rcases List.mem_or_eq_of_mem_set hm with hm | rfl
    · exact h.held p' hm hactive
    · obtain ⟨hp', hevent, haudience⟩ := hheld hactive
      rw [hevent, haudience]
      exact h.held p (List.mem_of_getElem? hp) hp'

theorem sound_step (st : Live) (m : Move) (h : Sound st) : Sound (st.step m) := by
  cases m with
  | subscribe key =>
    simp only [Live.step]
    split
    · constructor <;> grind [Sound, Live.Unlocked]
    · exact h
  | remove key c =>
    simp only [Live.step]
    split
    · constructor <;> grind [Sound, Live.Unlocked]
    · exact h
  | close c =>
    simp only [Live.step]
    split
    · constructor <;> grind [Sound]
    · exact h
  | publish e =>
    refine ⟨h.made, h.single, h.gone, h.shut, h.once, ?_, fun n p hp => ?_, ?_⟩
    · grind [Sound, Live.step]
    · rw [Live.step, List.getElem?_append] at hp
      split at hp
      · exact h.offered n p hp
      · next hn =>
        have hzero := (List.getElem?_eq_some_iff.1 hp).1
        simp only [List.length_singleton] at hzero
        have hnone (c : Nat) : (n, c) ∉ st.offers := fun hc => hn (h.known _ hc)
        obtain rfl : _ = p := by simpa [show n - st.publishes.length = 0 by omega] using hp
        exact ⟨⟨[], rfl, by simpa [Live.step] using hnone⟩, by simp, by simp⟩
    · grind [Sound, Live.step]
  | send n c =>
    simp only [Live.step]
    split
    · next e audience key keys visited active hp =>
      split
      · next hsend =>
        have haudience := h.audience_eq hp (List.cons_ne_nil _ _)
        have hkey : key ∈ visibilityKeys e := by
          obtain ⟨done, hdone, _⟩ := (h.offered n _ hp).keys
          simp [hdone]
        obtain ⟨hnew, hoffered⟩ := (h.offered n _ hp).send (c := c) rfl (by grind [Sound]) (by grind) hsend.2
        exact h.set hp (by grind [Sound]) (by grind [Sound]) (fun m p hne hm => hm.append hne.symm) hoffered
          fun hactive => ⟨hactive, rfl, rfl⟩
      · exact h
    · exact h
  | next n =>
    simp only [Live.step]
    split
    · next e audience key keys visited active hp =>
      split
      · next hall =>
        have haudience := h.audience_eq hp (List.cons_ne_nil _ _)
        dsimp only at haudience
        exact h.set hp h.once h.known (fun m p _ hm => hm) ((h.offered n _ hp).next rfl (by grind))
          fun hactive => ⟨hactive, rfl, rfl⟩
      · exact h
    · exact h
  | finish n =>
    simp only [Live.step]
    split
    · next e audience visited active hp =>
      exact h.set hp h.once h.known (fun m p _ hm => hm) { h.offered n _ hp with finished := fun _ => rfl } (by simp)
    · exact h

/-- In every state of every run: no channel is offered the event of a call twice; the event is offered
to none but the subscribers the call found, and to all of them when no key is left; a channel whose
`unsubscribe` ran is in the map no more, so that none is closed to which an event is sent. -/
theorem events_offered_once (ms : List Move) :
    let st := Transition.run Live.step .init ms
    st.offers.Nodup ∧
      (∀ n (p : Publishing), st.publishes[n]? = some p →
        (p.active → p.audience = st.subscribers.filter (·.1 ∈ visibilityKeys p.event)) ∧
        (∀ c, (n, c) ∈ st.offers → ∃ key, (key, c) ∈ p.audience) ∧
        (p.keys = [] → ∀ key c, (key, c) ∈ p.audience → (n, c) ∈ st.offers)) ∧
      (∀ c ∈ st.removed, ∀ key, (key, c) ∉ st.subscribers) ∧
      (∀ n c, (st.step (.send n c)).offers ≠ st.offers → c ∉ st.closed) ∧
      ∀ e w n, "platform" ∈ visibilityKeys e ∧
        (wsKey w ∈ visibilityKeys e ↔ (e.scope = "workspace" ∧ e.workspaceID = some w) ∨
          (e.scope = "namespace" ∧ e.workspaceID = some w ∧ e.namespaceID.isSome)) ∧
        (nsKey w n ∈ visibilityKeys e ↔ e.scope = "namespace" ∧ e.workspaceID = some w ∧ e.namespaceID = some n) := by
  intro st
  have h : Sound st := Transition.run_inv_of_step sound_step sound_init ms
  refine ⟨h.once, fun n p hp => ⟨h.held p (List.mem_of_getElem? hp), ?_⟩, fun c hc => (h.gone c hc).2, fun n c hsend => ?_,
    fun e w n => ⟨mem_visibilityKeys_platform e, mem_visibilityKeys_wsKey, mem_visibilityKeys_nsKey⟩⟩
  · obtain ⟨⟨done, hdone, hiff⟩, hvisible, _⟩ := h.offered n p hp
    refine ⟨fun c hc => ?_, fun hkeys key c hc => ?_⟩
    · obtain ⟨key, hkey, _⟩ := (hiff c).1 hc
      exact ⟨key, hkey⟩
    · rw [hkeys, List.append_nil] at hdone
      exact (hiff c).2 ⟨key, hc, .inl (hdone ▸ hvisible _ hc)⟩
  · grind [Sound, Live.step]

end Vraxel.StatusHub
