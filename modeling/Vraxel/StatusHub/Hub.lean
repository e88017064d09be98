import Vraxel.Lib.Run
import Vraxel.Go.Strconv
import Vraxel.Go.Strings
/-
  The status hub (`lib/statushub/hub.go`): an in-process fan-out from "this
  entity changed" to the subscribers whose scope can see the entity.

  The hub is a state machine.
-/

namespace Vraxel.StatusHub

open Strconv

structure Event where
  entityType : String
  entityID : Int
  deleted : Bool
  scope : String
  workspaceID : Option Int
  namespaceID : Option Int
  deriving DecidableEq

def wsKey (w : Int) : String := "ws:" ++ formatInt w

def nsKey (w n : Int) : String := "ns:" ++ formatInt w ++ ":" ++ formatInt n

def visibilityKeys (e : Event) : List String :=
  if e.scope = "namespace" then
    match e.workspaceID, e.namespaceID with
    | some w, some n => [nsKey w n, wsKey w, "platform"]
    | _, _ => ["platform"]
  else if e.scope = "workspace" then
    match e.workspaceID with
    | some w => [wsKey w, "platform"]
    | none => ["platform"]
  else ["platform"]

def scopeKey (scope : String) (wsID nsID : Option Int) : String :=
  if scope = "workspace" then
    match wsID with
    | some w => wsKey w
    | none => "platform"
  else if scope = "namespace" then
    match wsID, nsID with
    | some w, some n => nsKey w n
    | _, _ => "platform"
  else "platform"

/-! Keys do not collide: a formatted integer holds no colon. -/

theorem colon_not_mem_formatInt (i : Int) : ':' ∉ (formatInt i).toList := by
  intro h
  have := mem_formatInt h
  revert this
  decide

theorem wsKey_injective {w w' : Int} (h : wsKey w = wsKey w') : w = w' := by
  have h' := congrArg String.toList h
  simp only [wsKey, String.toList_append, List.append_cancel_left_eq] at h'
  exact formatInt_injective (String.toList_inj.1 h')

theorem nsKey_injective {w w' n n' : Int} (h : nsKey w n = nsKey w' n') : w = w' ∧ n = n' := by
  have h' := congrArg String.toList h
  simp only [nsKey, String.toList_append, List.append_assoc, List.append_cancel_left_eq] at h'
  obtain ⟨h₁, h₂⟩ := Strings.append_sep_inj (colon_not_mem_formatInt w) (colon_not_mem_formatInt w') h'
  exact ⟨formatInt_injective (String.toList_inj.1 h₁), formatInt_injective (String.toList_inj.1 h₂)⟩

theorem wsKey_ne_nsKey (w w' n' : Int) : wsKey w ≠ nsKey w' n' := by
  intro h
  have h' := congrArg String.toList h
  simp [wsKey, nsKey, String.toList_append] at h'

theorem wsKey_ne_platform (w : Int) : wsKey w ≠ "platform" := by
  intro h
  have h' := congrArg String.toList h
  simp [wsKey, String.toList_append] at h'

theorem nsKey_ne_platform (w n : Int) : nsKey w n ≠ "platform" := by
  intro h
  have h' := congrArg String.toList h
  simp [nsKey, String.toList_append] at h'

/-! Which events a key can see. -/

theorem mem_visibilityKeys_platform (e : Event) : "platform" ∈ visibilityKeys e := by
  unfold visibilityKeys
  repeat' split
  all_goals simp

variable {e : Event}

theorem mem_visibilityKeys_wsKey {w : Int} :
    wsKey w ∈ visibilityKeys e ↔
      (e.scope = "workspace" ∧ e.workspaceID = some w) ∨
      (e.scope = "namespace" ∧ e.workspaceID = some w ∧ e.namespaceID.isSome) := by
  have hinj : ∀ w', wsKey w = wsKey w' ↔ w' = w :=
    fun w' => ⟨fun h => (wsKey_injective h).symm, fun h => h ▸ rfl⟩
  unfold visibilityKeys
  split
  · cases e.workspaceID <;> cases e.namespaceID <;>
      simp_all [wsKey_ne_nsKey, wsKey_ne_platform]
  · split
    · cases e.workspaceID <;> simp_all [wsKey_ne_platform]
    · simp_all [wsKey_ne_platform]

theorem mem_visibilityKeys_nsKey {w n : Int} :
    nsKey w n ∈ visibilityKeys e ↔
      e.scope = "namespace" ∧ e.workspaceID = some w ∧ e.namespaceID = some n := by
  have hinj : ∀ w' n', nsKey w n = nsKey w' n' ↔ w' = w ∧ n' = n :=
    fun w' n' => ⟨fun h => ⟨(nsKey_injective h).1.symm, (nsKey_injective h).2.symm⟩,
      fun ⟨hw, hn⟩ => hw ▸ hn ▸ rfl⟩
  unfold visibilityKeys
  split
  · cases e.workspaceID <;> cases e.namespaceID <;>
      simp_all [(wsKey_ne_nsKey _ _ _).symm, nsKey_ne_platform]
  · split
    · cases e.workspaceID <;> simp_all [(wsKey_ne_nsKey _ _ _).symm, nsKey_ne_platform]
    · simp_all [nsKey_ne_platform]

/-! The hub as a state machine. -/

def channelBufferSize : Nat := 64

/-- A subscription: its key, its channel, and what was taken out of the channel so far. -/
structure Subscriber where
  key : String
  channel : List Event
  registered : Bool
  received : List Event

/-- Every subscription ever made, in order; its position is its identity. -/
abbrev Hub := List Subscriber

inductive Action where
  | subscribe (key : String)
  | unsubscribe (id : Nat)
  | publish (e : Event)
  | receive (id : Nat)

namespace Subscriber

def offer (e : Event) (s : Subscriber) : Subscriber :=
  if s.channel.length < channelBufferSize then { s with channel := s.channel ++ [e] } else s

def receive (s : Subscriber) : Subscriber :=
  match s.channel with
  | [] => s
  | e :: rest => { s with channel := rest, received := s.received ++ [e] }

end Subscriber

/-- The inner loop of `Publish`: the registered subscribers of one key. -/
def publishTo (e : Event) (key : String) (hub : Hub) : Hub :=
  hub.map fun s => if s.registered ∧ s.key = key then s.offer e else s

def publish (e : Event) (hub : Hub) : Hub :=
  (visibilityKeys e).foldl (fun hub key => publishTo e key hub) hub

def step (hub : Hub) : Action → Hub
  | .subscribe key => hub ++ [⟨key, [], true, []⟩]
  | .unsubscribe id => hub.modify id fun s => { s with registered := false }
  | .publish e => publish e hub
  | .receive id => hub.modify id Subscriber.receive

/-! A publish offers the event once to each registered subscriber that can see it. -/

namespace Subscriber

@[simp] theorem offer_key (e : Event) (s : Subscriber) : (s.offer e).key = s.key := by
  unfold offer
  split <;> rfl

@[simp] theorem offer_registered (e : Event) (s : Subscriber) : (s.offer e).registered = s.registered := by
  unfold offer
  split <;> rfl

@[simp] theorem receive_key (s : Subscriber) : s.receive.key = s.key := by
  unfold receive
  split <;> rfl

end Subscriber

theorem visibilityKeys_nodup (e : Event) : (visibilityKeys e).Nodup := by
  unfold visibilityKeys
  repeat' split
  all_goals simp [wsKey_ne_platform, nsKey_ne_platform, (wsKey_ne_nsKey _ _ _).symm]

theorem foldl_publishTo (e : Event) {keys : List String} (hkeys : keys.Nodup) (hub : Hub) :
    keys.foldl (fun hub key => publishTo e key hub) hub
      = hub.map fun s => if s.registered ∧ s.key ∈ keys then s.offer e else s := by
  induction keys generalizing hub with
  | nil => simp
  | cons key keys ih =>
    obtain ⟨hnot, hkeys⟩ := List.nodup_cons.1 hkeys
    rw [List.foldl_cons, ih hkeys, publishTo, List.map_map]
    refine List.map_congr_left fun s _ => ?_
    -- the subscriber's only key is this one, a later one, or none of them
    by_cases hr : s.registered = true
    · by_cases hk : s.key = key
      · simp [hr, hk, hnot]
      · simp [hr, hk]
    · simp [hr]

theorem publish_eq_map (e : Event) (hub : Hub) :
    publish e hub = hub.map fun s => if s.registered ∧ s.key ∈ visibilityKeys e then s.offer e else s :=
  foldl_publishTo e (visibilityKeys_nodup e) hub

/-! Confinement, over every run. -/

/-- A subscriber holds only events its key can see, in its channel and received. -/
def Subscriber.Confined (s : Subscriber) : Prop :=
  ∀ e, e ∈ s.channel ∨ e ∈ s.received → s.key ∈ visibilityKeys e

theorem Subscriber.Confined.offer {s : Subscriber} (hs : s.Confined) (he : s.key ∈ visibilityKeys e) :
    (s.offer e).Confined := by
  unfold Subscriber.offer
  split
  · intro e' h
    simp only [List.mem_append, List.mem_singleton] at h
    rcases h with (h | rfl) | h
    · exact hs e' (.inl h)
    · exact he
    · exact hs e' (.inr h)
  · exact hs

theorem Subscriber.Confined.receive {s : Subscriber} (hs : s.Confined) : s.receive.Confined := by
  unfold Subscriber.receive
  split
  · exact hs
  · rename_i e rest hchannel
    intro e' h
    simp only [List.mem_append, List.mem_singleton] at h
    refine hs e' ?_
    rw [hchannel]
    rcases h with h | h | rfl
    · exact .inl (List.mem_cons_of_mem e h)
    · exact .inr h
    · exact .inl List.mem_cons_self

theorem mem_modify {α : Type} {f : α → α} {l : List α} {i : Nat} {x : α} (h : x ∈ l.modify i f) :
    x ∈ l ∨ ∃ y ∈ l, x = f y := by
  obtain ⟨j, hj⟩ := List.mem_iff_getElem?.1 h
  rw [List.getElem?_modify] at hj
  obtain ⟨y, hy, rfl⟩ := Option.map_eq_some_iff.1 hj
  have hmem := List.mem_of_getElem? hy
  split
  · exact .inr ⟨y, hmem, rfl⟩
  · exact .inl hmem

def Confined (hub : Hub) : Prop := ∀ s ∈ hub, s.Confined

theorem step_confined (hub : Hub) (a : Action) (h : Confined hub) : Confined (step hub a) := by
  intro s hs
  cases a with
  | subscribe key =>
    rcases List.mem_append.1 hs with hs | hs
    · exact h s hs
    · rw [List.mem_singleton.1 hs]
      simp [Subscriber.Confined]
  | unsubscribe id =>
    rcases mem_modify hs with hs | ⟨s', hs', rfl⟩
    · exact h s hs
    · exact h s' hs'
  | publish e =>
    rw [step, publish_eq_map] at hs
    obtain ⟨s', hs', rfl⟩ := List.mem_map.1 hs
    split
    · rename_i hkey
      exact (h s' hs').offer hkey.2
    · exact h s' hs'
  | receive id =>
    rcases mem_modify hs with hs | ⟨s', hs', rfl⟩
    · exact h s hs
    · exact (h s' hs').receive

/-- The subscriber at a position has the given key. -/
def HasKey (id : Nat) (key : String) (hub : Hub) : Prop := (hub[id]?).map (·.key) = some key

theorem step_hasKey {id : Nat} {key : String} (hub : Hub) (a : Action) (h : HasKey id key hub) :
    HasKey id key (step hub a) := by
  unfold HasKey
  obtain ⟨s, hs, rfl⟩ := Option.map_eq_some_iff.1 h
  cases a with
  | subscribe key' =>
    rw [step, List.getElem?_append_left (List.getElem?_eq_some_iff.1 hs).1, hs]
    rfl
  | unsubscribe id' =>
    rw [step, List.getElem?_modify, hs]
    split <;> rfl
  | publish e =>
    rw [step, publish_eq_map, List.getElem?_map, hs]
    simp only [Option.map_some]
    split <;> simp
  | receive id' =>
    rw [step, List.getElem?_modify, hs]
    split <;> simp

def receivedBy (id : Nat) (hub : Hub) : List Event := ((hub[id]?).map (·.received)).getD []

/-- A subscriber receives only events that its key can see, whatever happened
before it subscribed and whatever happens after. -/
theorem received_visible {before after : List Action} {key : String}
    (h : e ∈ receivedBy (Transition.run step [] before).length
      (Transition.run step (step (Transition.run step [] before) (.subscribe key)) after)) :
    key ∈ visibilityKeys e := by
  have hbefore : Confined (Transition.run step [] before) :=
    Transition.run_inv_of_step step_confined (fun s hs => absurd hs List.not_mem_nil) before
  have hconf := Transition.run_inv_of_step step_confined
    (step_confined _ (.subscribe key) hbefore) after
  have hfirst : HasKey (Transition.run step [] before).length key
      (step (Transition.run step [] before) (.subscribe key)) := by
    simp [HasKey, step]
  have hkey := Transition.run_inv_of_step step_hasKey hfirst after
  obtain ⟨s, hs, hskey⟩ := Option.map_eq_some_iff.1 hkey
  rw [receivedBy, hs] at h
  rw [← hskey]
  exact hconf s (List.mem_of_getElem? hs) e (.inr h)

theorem receives_published (hub : Hub) {key : String} (h : key ∈ visibilityKeys e) :
    e ∈ receivedBy hub.length
      (Transition.run step (step hub (.subscribe key)) [.publish e, .receive hub.length]) := by
  simp [Transition.run, step, publish_eq_map, receivedBy, h, Subscriber.offer, Subscriber.receive,
    channelBufferSize]

end Vraxel.StatusHub
