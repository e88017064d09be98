import Vraxel.AgentGw.Identity
import Vraxel.AgentGw.Gateway
/-
  The admission of a control channel (`pkg/apis/agentgw/channel.go`: `verifyMachine`,
  `identityContended`), and what it does to the row of one host.

  Attempts and heartbeats come one after another and every store call succeeds.
-/

namespace Vraxel.AgentGw

open Db Transition

def identityConflictCooldown : Int := 15 * 60 * second

structure Hello where
  agentVersion : String
  bootNonce : String
  clockSkewMs : Int
  fingerprint : MachineFingerprint

structure Attempt where
  hello : Hello
  instanceID : String
  serverNow : Int
  delay : Nat

def Attempt.fingerprint (a : Attempt) : Fingerprint := newFingerprint "" a.hello.fingerprint a.serverNow

structure HostState where
  row : HostAgentRow
  now : Int

/-- How an attempt ends; `added` is one that reaches `Registry.Add`. -/
inductive Admission where
  | foreign
  | contended
  | added
  deriving DecidableEq

variable (s : HostState)

namespace Handler

def verifyMachine (row : HostAgentRow) (fp : Fingerprint) (now : Int) : Bool × HostAgentRow :=
  match AgentGw.verifyMachine row fp with
  | .foreignMachine => (false, row.recordForeignMachine fp.productUUID now)
  | .machineIDReset => (true, row.refreshFingerprint (fp.toStore row.identitySource))
  | .hardwareChanged => (true, row.refreshFingerprint (fp.toStore row.identitySource))
  | .sameMachine => (true, row)
  | .unverifiable => (true, row)

def identityContended (row : HostAgentRow) (bootNonce : String) (now : Int) : Bool × HostAgentRow :=
  let row := row.checkIdentity (clampBootNonce bootNonce) now
  (row.contended now identityConflictCooldown, row)

def add (row : HostAgentRow) (a : Attempt) : HostState :=
  let now := s.now + a.delay
  ⟨row.markOnline a.instanceID (clampVersion a.hello.agentVersion) a.hello.clockSkewMs now, now⟩

def handleChannel (a : Attempt) : Admission × HostState :=
  match verifyMachine s.row a.fingerprint s.now with
  | (false, row) => (.foreign, { s with row := row })
  | (true, row) =>
    match identityContended row a.hello.bootNonce s.now with
    | (true, row) => (.contended, { s with row := row })
    | (false, row) => (.added, add s row a)

end Handler

/-- `Registry.Touch`: a row that the session's instance does not hold is claimed again. -/
def HostState.touch (s : HostState) (instanceID version : String) (clockSkewMs : Int) : HostState :=
  if HostAgentRow.touchable s.row.hostID instanceID s.row then { s with row := s.row.touch clockSkewMs s.now }
  else { s with row := s.row.markOnline instanceID (clampVersion version) clockSkewMs s.now }

def HostState.markOfflineIf (p : HostAgentRow → Bool) : HostState :=
  if p s.row then { s with row := s.row.markOffline } else s

inductive HostAct where
  | attempt (a : Attempt)
  | heartbeat (instanceID version : String) (clockSkewMs : Int)
  | closed (instanceID : String)
  | sweep
  | tick (d : Nat)

def HostState.step : HostAct → HostState
  | .attempt a => (Handler.handleChannel s a).2
  | .heartbeat instanceID version clockSkewMs => s.touch instanceID version clockSkewMs
  | .closed instanceID => s.markOfflineIf (HostAgentRow.departing s.row.hostID instanceID)
  | .sweep => s.markOfflineIf (HostAgentRow.stale agentStaleAfter s.now)
  | .tick d => { s with now := s.now + d }

def HostState.admission (a : Attempt) : Admission := (Handler.handleChannel s a).1

def HostState.verdict (a : Attempt) : MachineVerdict := verifyMachine s.row a.fingerprint

/-- Two attempts of a machine whose UUID and machine id have not changed. -/
def Attempt.SameMachine (a b : Attempt) : Prop :=
  b.fingerprint.productUUID = a.fingerprint.productUUID ∧ b.fingerprint.machineID = a.fingerprint.machineID

instance (a b : Attempt) : Decidable (a.SameMachine b) := inferInstanceAs (Decidable (_ ∧ _))

/-- The same machine after a reset of its machine id. -/
def Attempt.ResetMachine (a b : Attempt) : Prop :=
  b.fingerprint.productUUID = a.fingerprint.productUUID ∧ b.fingerprint.machineID ≠ "" ∧
    b.fingerprint.machineID ≠ a.fingerprint.machineID

def OnlyMachine (a : Attempt) (_ : HostState) : HostAct → Prop
  | .attempt b => a.SameMachine b
  | _ => True

instance (a : Attempt) (s : HostState) (act : HostAct) : Decidable (OnlyMachine a s act) := by
  unfold OnlyMachine
  split <;> infer_instance

variable {row : HostAgentRow} {fp : Fingerprint}

theorem verifyMachine_eq_hardwareChanged_iff :
    verifyMachine row fp = .hardwareChanged ↔ row.productUUID ≠ "" ∧ fp.productUUID ≠ "" ∧
      sameProductUUID fp.productUUID row.productUUID = false ∧ fp.machineID ≠ "" ∧ fp.machineID = row.machineID := by
  unfold verifyMachine
  split_ifs <;> grind

theorem verifyMachine_eq_foreignMachine_iff :
    verifyMachine row fp = .foreignMachine ↔ row.productUUID ≠ "" ∧ fp.productUUID ≠ "" ∧
      sameProductUUID fp.productUUID row.productUUID = false ∧
        ¬ (fp.machineID ≠ "" ∧ row.machineID ≠ "" ∧ fp.machineID = row.machineID) := by
  unfold verifyMachine
  split_ifs <;> grind

theorem verifyMachine_congr {row' : HostAgentRow} {fp' : Fingerprint} (hu : row'.productUUID = row.productUUID)
    (hm : row'.machineID = row.machineID) (hfu : fp'.productUUID = fp.productUUID)
    (hfm : fp'.machineID = fp.machineID) : verifyMachine row' fp' = verifyMachine row fp := by
  simp [verifyMachine, hu, hm, hfu, hfm]

theorem verifyMachine_identity (row : HostAgentRow) (fp : Fingerprint) (now : Int) :
    (Handler.verifyMachine row fp now).2.productUUID = row.productUUID ∧
      ((Handler.verifyMachine row fp now).2.machineID = row.machineID ∨
        (Handler.verifyMachine row fp now).2.machineID = fp.machineID) := by
  unfold Handler.verifyMachine
  cases verifyMachine row fp with
  | foreignMachine => exact ⟨rfl, .inl rfl⟩
  | sameMachine => exact ⟨rfl, .inl rfl⟩
  | unverifiable => exact ⟨rfl, .inl rfl⟩
  | machineIDReset => exact ⟨rfl, .inr rfl⟩
  | hardwareChanged => exact ⟨rfl, .inr rfl⟩

theorem handleChannel_identity (a : Attempt) :
    (Handler.handleChannel s a).2.row.productUUID = (Handler.verifyMachine s.row a.fingerprint s.now).2.productUUID ∧
      (Handler.handleChannel s a).2.row.machineID = (Handler.verifyMachine s.row a.fingerprint s.now).2.machineID := by
  unfold Handler.handleChannel
  rcases Handler.verifyMachine s.row a.fingerprint s.now with ⟨_ | _, row⟩
  · exact ⟨rfl, rfl⟩
  · simp only [Handler.identityContended]
    cases (row.checkIdentity (clampBootNonce a.hello.bootNonce) s.now).contended s.now identityConflictCooldown with
    | true => exact ⟨rfl, rfl⟩
    | false => exact ⟨rfl, rfl⟩

theorem touch_identity (instanceID version : String) (clockSkewMs : Int) :
    (s.touch instanceID version clockSkewMs).row.productUUID = s.row.productUUID ∧
      (s.touch instanceID version clockSkewMs).row.machineID = s.row.machineID := by
  unfold HostState.touch
  split_ifs
  · exact ⟨rfl, rfl⟩
  · exact ⟨rfl, rfl⟩

theorem markOfflineIf_identity (p : HostAgentRow → Bool) :
    (s.markOfflineIf p).row.productUUID = s.row.productUUID ∧
      (s.markOfflineIf p).row.machineID = s.row.machineID := by
  unfold HostState.markOfflineIf
  split_ifs
  · exact ⟨rfl, rfl⟩
  · exact ⟨rfl, rfl⟩

theorem step_identity (act : HostAct) :
    (s.step act).row.productUUID = s.row.productUUID ∧
      ((s.step act).row.machineID = s.row.machineID ∨
        ∃ a, act = .attempt a ∧ (s.step act).row.machineID = a.fingerprint.machineID) := by
  cases act with
  | attempt a =>
    obtain ⟨hu, hm⟩ := handleChannel_identity s a
    obtain ⟨hvu, hvm⟩ := verifyMachine_identity s.row a.fingerprint s.now
    refine ⟨hu.trans hvu, ?_⟩
    rcases hvm with hvm | hvm
    · exact .inl (hm.trans hvm)
    · exact .inr ⟨a, rfl, hm.trans hvm⟩
  | heartbeat instanceID version clockSkewMs =>
    obtain ⟨hu, hm⟩ := touch_identity s instanceID version clockSkewMs
    exact ⟨hu, .inl hm⟩
  | closed instanceID =>
    obtain ⟨hu, hm⟩ := markOfflineIf_identity s (HostAgentRow.departing s.row.hostID instanceID)
    exact ⟨hu, .inl hm⟩
  | sweep =>
    obtain ⟨hu, hm⟩ := markOfflineIf_identity s (HostAgentRow.stale agentStaleAfter s.now)
    exact ⟨hu, .inl hm⟩
  | tick d => exact ⟨rfl, .inl rfl⟩

/-- A machine whose hardware has changed is judged so again: the UUID of the row is not written. -/
theorem changed_step {a : Attempt} (s : HostState) (act : HostAct) (hs : s.verdict a = .hardwareChanged)
    (hact : OnlyMachine a s act) : (s.step act).verdict a = .hardwareChanged := by
  obtain ⟨hu, hm⟩ := step_identity s act
  -- the machine id that a refresh writes is the one the row has
  have hid : a.fingerprint.machineID = s.row.machineID := (verifyMachine_eq_hardwareChanged_iff.1 hs).2.2.2.2
  have hkeep : (s.step act).row.machineID = s.row.machineID := by
    rcases hm with hm | ⟨b, rfl, hm⟩
    · exact hm
    · exact hm.trans (hact.2.trans hid)
  exact (verifyMachine_congr hu hkeep rfl rfl).trans hs

theorem foreign_of_reset {a b : Attempt} {s : HostState} (hs : s.verdict a = .hardwareChanged)
    (hb : a.ResetMachine b) : s.verdict b = .foreignMachine := by
  obtain ⟨hrow, hfp, hdiff, _, hid⟩ := verifyMachine_eq_hardwareChanged_iff.1 hs
  obtain ⟨hu, _, hm⟩ := hb
  apply verifyMachine_eq_foreignMachine_iff.2
  rw [hu]
  refine ⟨hrow, hfp, hdiff, ?_⟩
  rintro ⟨_, _, hsame⟩
  exact hm (hsame.trans hid.symm)

theorem admission_of_foreign {s : HostState} {b : Attempt} (hb : s.verdict b = .foreignMachine) :
    s.admission b = .foreign := by
  unfold HostState.admission Handler.handleChannel Handler.verifyMachine
  rw [show verifyMachine s.row b.fingerprint = .foreignMachine from hb]

/-- After a hardware change and any further connections of the same machine, it is judged
changed once more, and a reset of its machine id has it refused as foreign. -/
theorem hardware_change_never_settles (s : HostState) (a : Attempt) (hchanged : s.verdict a = .hardwareChanged)
    (acts : List HostAct) (hacts : Along HostState.step (OnlyMachine a) (s.step (.attempt a)) acts) :
    let later := run HostState.step (s.step (.attempt a)) acts
    (∀ b, a.SameMachine b → later.verdict b = .hardwareChanged) ∧
      ∀ b, a.ResetMachine b → later.verdict b = .foreignMachine ∧ later.admission b = .foreign := by
  intro later
  have hfirst : (s.step (.attempt a)).verdict a = .hardwareChanged := changed_step s (.attempt a) hchanged ⟨rfl, rfl⟩
  have hlater : later.verdict a = .hardwareChanged :=
    forall_states_of_along changed_step hfirst hacts later (run_mem_states HostState.step _ acts)
  constructor
  · intro b hb
    exact (verifyMachine_congr rfl rfl hb.1 hb.2).trans hlater
  · intro b hb
    have hforeign := foreign_of_reset hlater hb
    exact ⟨hforeign, admission_of_foreign hforeign⟩

def registeredHost : HostState where
  row := HostAgentRow.fresh 1 "agent-a" "1.0.0"
    ⟨"8c1e4d56-f7c1-65c9-b323-12015fb893e2", "image-1", [], identitySourceProductUUID, none⟩
  now := 100 * second

def attemptOf (productUUID machineID bootNonce : String) : Attempt where
  hello := ⟨"1.0.0", bootNonce, 0, ⟨machineID, productUUID, [], 0⟩⟩
  instanceID := "gw-1"
  serverNow := 0
  delay := 0

def movedMachine : Attempt := attemptOf "11112222-3333-4444-5555-666677778888" "image-1" "boot-1"
def movedAndReset : Attempt := attemptOf "11112222-3333-4444-5555-666677778888" "image-2" "boot-2"

theorem changed_machine_changed_again :
    registeredHost.verdict movedMachine = .hardwareChanged ∧
      (run HostState.step (registeredHost.step (.attempt movedMachine))
        [.tick 5, .closed "gw-1", .attempt movedMachine]).verdict movedMachine = .hardwareChanged :=
  ⟨by decide +kernel,
    (hardware_change_never_settles registeredHost movedMachine (by decide +kernel)
      [.tick 5, .closed "gw-1", .attempt movedMachine] (by decide +kernel)).1 movedMachine (by decide +kernel)⟩

theorem changed_machine_refused :
    registeredHost.verdict movedMachine = .hardwareChanged ∧
      (registeredHost.step (.attempt movedMachine)).verdict movedMachine ≠ .sameMachine ∧
        (registeredHost.step (.attempt movedMachine)).verdict movedAndReset ≠ .machineIDReset ∧
          (registeredHost.step (.attempt movedMachine)).admission movedAndReset ≠ .added := by
  decide +kernel

/-- The nonce that the row has just retired is back. -/
def HostState.Raises (a : Attempt) : Prop :=
  s.verdict a ≠ .foreignMachine ∧ clampBootNonce a.hello.bootNonce ≠ "" ∧
    clampBootNonce a.hello.bootNonce = s.row.prevBootNonce

instance (s : HostState) (a : Attempt) : Decidable (s.Raises a) := inferInstanceAs (Decidable (_ ∧ _))

/-- The fingerprint of the row is not refreshed. -/
def HostState.Unrefreshed (a : Attempt) : Prop :=
  s.verdict a ≠ .machineIDReset ∧ s.verdict a ≠ .hardwareChanged

instance (s : HostState) (a : Attempt) : Decidable (s.Unrefreshed a) := inferInstanceAs (Decidable (_ ∧ _))

/-- A step that does not forget the conflict: no attempt refreshes the fingerprint, and a
heartbeat finds the row held by its instance. -/
def KeepsConflict : HostAct → Prop
  | .attempt a => s.Unrefreshed a
  | .heartbeat instanceID _ _ => HostAgentRow.touchable s.row.hostID instanceID s.row
  | _ => True

instance (s : HostState) (act : HostAct) : Decidable (KeepsConflict s act) := by
  unfold KeepsConflict
  split <;> infer_instance

/-- A conflict was raised at `t` or later. -/
def ConflictSince (t : Int) (row : HostAgentRow) : Prop := ∃ c, row.conflictAt = some c ∧ t ≤ c

/-- Until the cooldown after `t` is over the row has a conflict since `t`. -/
def Cooling (t : Int) (s : HostState) : Prop :=
  t ≤ s.now ∧ (s.now < t + identityConflictCooldown → ConflictSince t s.row)

theorem contended_of_conflictSince {t now : Int} (hrow : ConflictSince t row)
    (hnow : now < t + identityConflictCooldown) : row.contended now identityConflictCooldown := by
  obtain ⟨c, hc, hle⟩ := hrow
  unfold HostAgentRow.contended
  rw [hc]
  apply decide_eq_true
  omega

theorem conflictSince_checkIdentity {t now : Int} (bootNonce : String) (ht : t ≤ now)
    (hrow : ConflictSince t row) : ConflictSince t (row.checkIdentity bootNonce now) := by
  obtain ⟨c, hc, hle⟩ := hrow
  by_cases hback : bootNonce ≠ "" ∧ bootNonce = row.prevBootNonce
  · exact ⟨now, if_pos hback, ht⟩
  · exact ⟨c, (if_neg hback).trans hc, hle⟩

theorem conflictAt_verifyMachine {now : Int}
    (hreset : verifyMachine row fp ≠ .machineIDReset) (hchanged : verifyMachine row fp ≠ .hardwareChanged) :
    (Handler.verifyMachine row fp now).2.conflictAt = row.conflictAt := by
  unfold Handler.verifyMachine
  cases hv : verifyMachine row fp with
  | machineIDReset => exact absurd hv hreset
  | hardwareChanged => exact absurd hv hchanged
  | foreignMachine => rfl
  | sameMachine => rfl
  | unverifiable => rfl

theorem attempt_of_conflictSince {t : Int} {s : HostState} {a : Attempt} (ht : t ≤ s.now)
    (hnow : s.now < t + identityConflictCooldown)
    (hrow : ConflictSince t (Handler.verifyMachine s.row a.fingerprint s.now).2) :
    s.admission a ≠ .added ∧ (s.step (.attempt a)).now = s.now ∧ ConflictSince t (s.step (.attempt a)).row := by
  show (Handler.handleChannel s a).1 ≠ .added ∧ (Handler.handleChannel s a).2.now = s.now ∧
    ConflictSince t (Handler.handleChannel s a).2.row
  unfold Handler.handleChannel
  generalize Handler.verifyMachine s.row a.fingerprint s.now = verified at hrow
  obtain ⟨_ | _, row⟩ := verified
  · exact ⟨Admission.noConfusion, rfl, hrow⟩
  · have hchecked := conflictSince_checkIdentity (clampBootNonce a.hello.bootNonce) ht hrow
    have hcontended := contended_of_conflictSince hchecked hnow
    simp only [Handler.identityContended, hcontended]
    exact ⟨Admission.noConfusion, trivial, hchecked⟩

theorem now_le_handleChannel (a : Attempt) : s.now ≤ (Handler.handleChannel s a).2.now := by
  unfold Handler.handleChannel
  rcases Handler.verifyMachine s.row a.fingerprint s.now with ⟨_ | _, row⟩
  · exact le_refl _
  · dsimp only
    generalize Handler.identityContended row a.hello.bootNonce s.now = checked
    obtain ⟨_ | _, row'⟩ := checked
    · show s.now ≤ s.now + a.delay
      omega
    · exact le_refl _

theorem cooling_step {t : Int} (s : HostState) (act : HostAct) (hs : Cooling t s) (hact : KeepsConflict s act) :
    Cooling t (s.step act) := by
  obtain ⟨ht, hrow⟩ := hs
  cases act with
  | attempt a =>
    have hle : s.now ≤ (s.step (.attempt a)).now := now_le_handleChannel s a
    refine ⟨ht.trans hle, ?_⟩
    intro hnow
    have hnow' : s.now < t + identityConflictCooldown := lt_of_le_of_lt hle hnow
    obtain ⟨c, hc, hlec⟩ := hrow hnow'
    have hkept : ConflictSince t (Handler.verifyMachine s.row a.fingerprint s.now).2 :=
      ⟨c, (conflictAt_verifyMachine hact.1 hact.2).trans hc, hlec⟩
    exact (attempt_of_conflictSince ht hnow' hkept).2.2
  | heartbeat instanceID version clockSkewMs =>
    have htouch : s.step (.heartbeat instanceID version clockSkewMs) =
        { s with row := s.row.touch clockSkewMs s.now } := if_pos hact
    rw [htouch]
    exact ⟨ht, hrow⟩
  | closed instanceID =>
    show Cooling t (s.markOfflineIf _)
    unfold HostState.markOfflineIf
    split_ifs
    · exact ⟨ht, hrow⟩
    · exact ⟨ht, hrow⟩
  | sweep =>
    show Cooling t (s.markOfflineIf _)
    unfold HostState.markOfflineIf
    split_ifs
    · exact ⟨ht, hrow⟩
    · exact ⟨ht, hrow⟩
  | tick d =>
    show t ≤ s.now + d ∧ (s.now + d < t + identityConflictCooldown → ConflictSince t s.row)
    refine ⟨by omega, ?_⟩
    intro hnow
    exact hrow (by omega)

theorem verifyMachine_of_ne_foreign (now : Int)
    (hv : verifyMachine row fp ≠ .foreignMachine) :
    ∃ row', Handler.verifyMachine row fp now = (true, row') ∧ row'.prevBootNonce = row.prevBootNonce := by
  unfold Handler.verifyMachine
  cases h : verifyMachine row fp with
  | foreignMachine => exact absurd h hv
  | machineIDReset => exact ⟨_, rfl, rfl⟩
  | hardwareChanged => exact ⟨_, rfl, rfl⟩
  | sameMachine => exact ⟨_, rfl, rfl⟩
  | unverifiable => exact ⟨_, rfl, rfl⟩

theorem cooling_of_raises {s : HostState} {a : Attempt} (h : s.Raises a) :
    s.admission a = .contended ∧ Cooling s.now (s.step (.attempt a)) := by
  obtain ⟨hv, hne, hback⟩ := h
  obtain ⟨row, hrow, hprev⟩ := verifyMachine_of_ne_foreign s.now hv
  have hconflict : ConflictSince s.now (row.checkIdentity (clampBootNonce a.hello.bootNonce) s.now) :=
    ⟨s.now, if_pos ⟨hne, hback.trans hprev.symm⟩, le_refl _⟩
  have hcontended := contended_of_conflictSince hconflict (lt_add_of_pos_right s.now (by decide : 0 < identityConflictCooldown))
  show (Handler.handleChannel s a).1 = .contended ∧ Cooling s.now (Handler.handleChannel s a).2
  unfold Handler.handleChannel
  simp only [hrow, Handler.identityContended, hcontended]
  exact ⟨trivial, le_refl _, fun _ => hconflict⟩

/-- From the attempt that raises a conflict on, no attempt is admitted for the cooldown,
unless the fingerprint of the row is refreshed or a heartbeat claims the row again. -/
theorem contended_until_cooldown (s : HostState) (a : Attempt) (hraises : s.Raises a) (acts : List HostAct)
    (hacts : Along HostState.step KeepsConflict (s.step (.attempt a)) acts) (b : Attempt)
    (hb : (run HostState.step (s.step (.attempt a)) acts).Unrefreshed b)
    (hnow : (run HostState.step (s.step (.attempt a)) acts).now < s.now + identityConflictCooldown) :
    s.admission a = .contended ∧ (run HostState.step (s.step (.attempt a)) acts).admission b ≠ .added := by
  obtain ⟨hcontended, hfirst⟩ := cooling_of_raises hraises
  refine ⟨hcontended, ?_⟩
  obtain ⟨ht, hrow⟩ : Cooling s.now (run HostState.step (s.step (.attempt a)) acts) :=
    forall_states_of_along cooling_step hfirst hacts _ (run_mem_states HostState.step _ acts)
  obtain ⟨c, hc, hle⟩ := hrow hnow
  apply (attempt_of_conflictSince ht hnow _).1
  exact ⟨c, (conflictAt_verifyMachine hb.1 hb.2).trans hc, hle⟩

def processOf (bootNonce : String) : HostAct := .attempt (attemptOf "8c1e4d56-f7c1-65c9-b323-12015fb893e2" "image-1" bootNonce)

def twoProcesses : HostState := run HostState.step registeredHost [processOf "boot-1", .tick 5, processOf "boot-2", .tick 5]

def firstProcess : Attempt := attemptOf "8c1e4d56-f7c1-65c9-b323-12015fb893e2" "image-1" "boot-1"

theorem first_process_waits :
    twoProcesses.Raises firstProcess ∧ twoProcesses.admission firstProcess = .contended ∧
      (run HostState.step (twoProcesses.step (.attempt firstProcess)) [.closed "gw-1", .tick 840000000]).admission
        firstProcess ≠ .added :=
  ⟨by decide +kernel,
    contended_until_cooldown twoProcesses firstProcess (by decide +kernel) [.closed "gw-1", .tick 840000000]
      (by decide +kernel) firstProcess (by decide +kernel) (by decide +kernel)⟩

/-- The conflict is raised at `t`; fourteen minutes later an attempt is refused, and the next
one after two more minutes is admitted. -/
theorem admitted_after_contended :
    (let raised := twoProcesses.step (.attempt firstProcess)
     let refused := run HostState.step raised [.closed "gw-1", .tick 840000000]
     let next := run HostState.step refused [.attempt firstProcess, .tick 120000000]
     refused.admission firstProcess = .contended ∧ refused.Unrefreshed firstProcess ∧
       next.now < refused.now + identityConflictCooldown ∧ next.Unrefreshed firstProcess ∧
         next.admission firstProcess = .added) := by
  decide +kernel

end Vraxel.AgentGw
