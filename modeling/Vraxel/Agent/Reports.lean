import Vraxel.Agent.Probe
/-
  The reports of an agent (`lib/agent/client/channel.go`): the heartbeat, and the inventories that are
  sent when they have changed. A heartbeat that does not fit into a frame of 64 KiB ends the session,
  and an inventory that does not fit is not sent.

  The transport accepts every frame that `EncodeFrame` accepts. The samples are parameters of the
  events: what the machine's files and supervisor say is any data.
-/

namespace Vraxel.Agent

open Json Strconv Transition

def maxHeartbeatProbes : Nat := 128
def maxFactsListEntries : Nat := 128
def inventoryBudget : Nat := 48 * 1024
def accountsUsersBudget : Nat := 32 * 1024
def accountsGroupsBudget : Nat := 8 * 1024
def accountsRulesBudget : Nat := 8 * 1024
def accountsSSHDListBudget : Nat := 1024

section Caps

variable {T : Type}

def capFacts (items : List T) (what : String) : List T × List String :=
  if items.length ≤ maxFactsListEntries then (items, [])
  else (items.take maxFactsListEntries,
    ["host inventory: reporting " ++ toString maxFactsListEntries ++ " of " ++ toString items.length ++ " " ++ what ++
      "; the rest exceed the control frame limit"])

/-- The length to try after a list of `n` entries that takes `size` bytes. -/
def nextLength (n budget size : Nat) : Nat :=
  if n ≤ n * budget / size then n - 1 else n * budget / size

/-- The loop of `capBySize`, for at most as many rounds as there are entries. -/
def trimToBudget [ToJson T] (budget : Nat) : Nat → List T → List T
  | 0, items => items
  | rounds + 1, items =>
    if items = [] then items
    else match marshal (list items) with
      | .error _ => items
      | .ok b =>
        if b.length ≤ budget then items
        else trimToBudget budget rounds (items.take (nextLength items.length budget b.length))

def capBySize [ToJson T] (items : List T) (budget : Nat) (what : String) : List T × List String :=
  let kept := trimToBudget budget items.length items
  (kept, if kept.length < items.length then
      ["host inventory: reporting " ++ toString kept.length ++ " of " ++ toString items.length ++ " " ++ what ++
        "; the rest exceed the " ++ toString budget ++ "-byte frame budget"]
    else [])

def capBoth [ToJson T] (items : List T) (budget : Nat) (what : String) : List T × List String :=
  let few := capFacts items what
  let small := capBySize few.1 budget what
  (small.1, few.2 ++ small.2)

end Caps

def collect (keep : ProbeState → Bool) (out states : List ProbeState) : List ProbeState :=
  states.foldl (fun out s => if keep s ∧ out.length < maxHeartbeatProbes then out ++ [s] else out) out

def probeStates (states : List ProbeState) : List ProbeState × List String :=
  if states.length ≤ maxHeartbeatProbes then (states, [])
  else
    let out := collect (·.healthy) (collect (fun s => !s.healthy) [] states) states
    (out, ["control channel: " ++ toString states.length ++ " probes exceed the heartbeat digest cap; reporting " ++
      toString out.length])

variable (f : HostFacts)

def sampleFacts : HostFacts × List String :=
  let nics := capFacts f.nics "nics"
  let filesystems := capFacts f.filesystems "filesystems"
  let blockDevices := capFacts f.blockDevices "block devices"
  ({ f with nics := nics.1, filesystems := filesystems.1, blockDevices := blockDevices.1 },
    nics.2 ++ filesystems.2 ++ blockDevices.2)

def sampleProcesses (p : HostProcesses) : HostProcesses × List String :=
  let groups := capBoth p.groups inventoryBudget "process groups"
  ({ p with groups := groups.1 }, groups.2)

def capSSHDLists (c : SSHDConfig) : SSHDConfig × List String :=
  let allowUsers := capBySize c.allowUsers accountsSSHDListBudget "sshd allowUsers"
  let allowGroups := capBySize c.allowGroups accountsSSHDListBudget "sshd allowGroups"
  let denyUsers := capBySize c.denyUsers accountsSSHDListBudget "sshd denyUsers"
  let denyGroups := capBySize c.denyGroups accountsSSHDListBudget "sshd denyGroups"
  ({ c with allowUsers := allowUsers.1, allowGroups := allowGroups.1, denyUsers := denyUsers.1, denyGroups := denyGroups.1 },
    allowUsers.2 ++ allowGroups.2 ++ denyUsers.2 ++ denyGroups.2)

variable (a : HostAccounts)

def sampleAccounts : HostAccounts × List String :=
  let users := capBoth a.users accountsUsersBudget "accounts"
  let groups := capBoth a.groups accountsGroupsBudget "groups"
  let sudoRules := capBoth a.sudoRules accountsRulesBudget "sudo rules"
  let sshd := a.sshd.map capSSHDLists
  ({ users := users.1, groups := groups.1, sudoRules := sudoRules.1, sshd := sshd.map (·.1) },
    users.2 ++ groups.2 ++ sudoRules.2 ++ (sshd.map (·.2)).getD [])

def factsFrame : Frame := { type := "host.facts", id := "facts-1", facts := some f }

def processesFrame (p : HostProcesses) : Frame := { type := "host.processes", id := "processes-1", processes := some p }

def accountsFrame : Frame := { type := "host.accounts", id := "accounts-1", accounts := some a }

/-- One inventory in a session: what was sent last, and the last sample. -/
structure Loop where
  sent : Bytes := []
  sampled : Option Value := none

structure Round where
  loop : Loop
  wire : List Bytes := []
  log : List String := []

def reportOnChange {T : Type} [ToJson T] (l : Loop) (what : String) (v : T) (build : T → Frame) : Round :=
  match marshal (toJson v) with
  | .error err => { loop := { l with sampled := toJson v }, log := ["control channel: encode " ++ what ++ ": " ++ err] }
  | .ok encoded =>
    if encoded = l.sent then { loop := { l with sampled := toJson v } }
    else match encodeFrame (build v) with
      | .error err => { loop := { l with sampled := toJson v }, log := ["control channel: send " ++ what ++ ": " ++ err] }
      | .ok data => { loop := { sent := encoded, sampled := toJson v }, wire := [data] }

structure Reporter where
  runner : Runner := {}
  up : Bool := true
  seq : Nat := 0
  facts : Loop := {}
  processes : Loop := {}
  accounts : Loop := {}
  wire : List Bytes := []
  log : List String := []

variable (r : Reporter)

namespace Reporter

def heartbeat (r : Reporter) (now : Int) (metrics : Option MetricsSummary) : Frame where
  type := "heartbeat"
  id := "hb-" ++ formatInt (r.seq + 1 : Nat)
  clockUnixMs := now
  probeStates := (probeStates r.runner.states).1
  metrics := metrics

def beat (now : Int) (metrics : Option MetricsSummary) : Reporter :=
  let log := r.log ++ (probeStates r.runner.states).2
  match encodeFrame (r.heartbeat now metrics) with
  | .error err =>
    { r with seq := r.seq + 1, up := false, log := log ++ ["control channel: heartbeat failed (" ++ err ++ "); reconnecting"] }
  | .ok data => { r with seq := r.seq + 1, wire := r.wire ++ [data], log }

end Reporter

inductive ReporterEvent where
  | probe (e : RunnerEvent)
  | connect
  | beat (now : Int) (metrics : Option MetricsSummary)
  | facts (f : HostFacts)
  | processes (p : HostProcesses)
  | accounts (a : HostAccounts)

def Reporter.step (quote : Bytes → Bytes) (r : Reporter) : ReporterEvent → Reporter
  | .probe e => { r with runner := r.runner.step quote e }
  | .connect => { runner := r.runner, wire := r.wire, log := r.log }
  | .beat now metrics => if r.up then r.beat now metrics else r
  | .facts f =>
    if r.up then
      let round := reportOnChange r.facts "host facts" (sampleFacts f).1 factsFrame
      { r with facts := round.loop, wire := r.wire ++ round.wire, log := r.log ++ (sampleFacts f).2 ++ round.log }
    else r
  | .processes p =>
    if r.up then
      let round := reportOnChange r.processes "host processes" (sampleProcesses p).1 processesFrame
      { r with processes := round.loop, wire := r.wire ++ round.wire, log := r.log ++ (sampleProcesses p).2 ++ round.log }
    else r
  | .accounts a =>
    if r.up then
      let round := reportOnChange r.accounts "host accounts" (sampleAccounts a).1 accountsFrame
      { r with accounts := round.loop, wire := r.wire ++ round.wire, log := r.log ++ (sampleAccounts a).2 ++ round.log }
    else r

def Loop.Current (l : Loop) : Prop := ∀ v, l.sampled = some v → marshal v = .ok l.sent

structure Reporter.Reports (r : Reporter) : Prop where
  up : r.up = true
  facts : r.facts.Current
  processes : r.processes.Current
  accounts : r.accounts.Current

/-! What has to fit. -/

variable (s : ProbeState)

def ProbeState.bytes : Nat :=
  (escape 0 s.name).length + 22 + (if s.healthy then 4 else 5)
    + (if s.message = [] then 0 else (escape 0 s.message).length + 13)
    + if s.changedUnixMs = 0 then 0 else (formatInt s.changedUnixMs).length + 17

def heartbeatBytes (seq : Nat) (now : Int) (metrics : Option MetricsSummary) (states : List ProbeState) : Nat :=
  31 + (formatInt seq).length + (if now = 0 then 0 else (formatInt now).length + 15)
    + (metrics.map fun m => (toJson m).size + 11).getD 0
    + if states = [] then 0 else (states.map fun s => s.bytes + 1).sum + 16

/-- The numbers of a value are finite, and its frame is not too long with it; the rest of the frame has `rest` bytes. -/
def Fits (v : Value) (rest : Nat) : Prop := v.unsupported = none ∧ v.size + rest ≤ maxFrameBytes

/-- The report of an event, after the caps, fits its frame. -/
def Room : ReporterEvent → Prop
  | .probe _ | .connect => True
  | .beat now metrics =>
    (∀ m, metrics = some m → (toJson m).unsupported = none) ∧
      heartbeatBytes (r.seq + 1) now metrics (probeStates r.runner.states).1 ≤ maxFrameBytes
  | .facts f => Fits (toJson (sampleFacts f).1) 45
  | .processes p => Fits (toJson (sampleProcesses p).1) 57
  | .accounts a => Fits (toJson (sampleAccounts a).1) 54

def envelope (type id key : String) (v : Value) : Value :=
  .obj [("type", .str (ascii type)), ("id", .str (ascii id)), (key, v)]

theorem toJson_frame (f : Frame) : toJson f = struct [⟨"type", .str (ascii f.type), false⟩, ⟨"id", .str (ascii f.id), true⟩,
    ⟨"clockUnixMs", .int f.clockUnixMs, true⟩, ⟨"metrics", pointer f.metrics, true⟩,
    ⟨"probeStates", list f.probeStates, true⟩, ⟨"facts", pointer f.facts, true⟩,
    ⟨"processes", pointer f.processes, true⟩, ⟨"accounts", pointer f.accounts, true⟩] := rfl

theorem toJson_factsFrame :
    toJson (factsFrame f) = envelope "host.facts" "facts-1" "facts" (toJson f) := by
  have hid : (ascii "facts-1").isEmpty = false := rfl
  have hfacts : (toJson f).isEmpty = false := rfl
  simp [toJson_frame, factsFrame, struct, Field.kept, pointer, list, hid, hfacts, envelope]

variable (p : HostProcesses)

theorem toJson_processesFrame :
    toJson (processesFrame p) = envelope "host.processes" "processes-1" "processes" (toJson p) := by
  have hid : (ascii "processes-1").isEmpty = false := rfl
  have hprocesses : (toJson p).isEmpty = false := rfl
  simp [toJson_frame, processesFrame, struct, Field.kept, pointer, list, hid, hprocesses, envelope]

theorem toJson_accountsFrame :
    toJson (accountsFrame a) = envelope "host.accounts" "accounts-1" "accounts" (toJson a) := by
  have hid : (ascii "accounts-1").isEmpty = false := rfl
  have haccounts : (toJson a).isEmpty = false := rfl
  simp [toJson_frame, accountsFrame, struct, Field.kept, pointer, list, hid, haccounts, envelope]

def envelopeBytes (type id key : String) : Nat :=
  (escape 0 (ascii type)).length + (escape 0 (ascii id)).length + (escape 0 (ascii key)).length + 23

theorem size_envelope (type id key : String) (v : Value) :
    (envelope type id key v).size = v.size + envelopeBytes type id key := by
  have htype : (escape 0 (ascii "type")).length = 4 := rfl
  have hid : (escape 0 (ascii "id")).length = 2 := rfl
  simp only [envelope, Value.size, Value.sizeFields, htype, hid, envelopeBytes]
  omega

theorem unsupported_envelope (type id key : String) (v : Value) :
    (envelope type id key v).unsupported = none ↔ v.unsupported = none := by
  rw [envelope, Value.unsupported, Value.unsupportedFields_eq_none]
  simp [Value.unsupported]

theorem encodeFrame_envelope {frame : Frame} {type id key : String} {v : Value} (h : toJson frame = envelope type id key v) :
    (encodeFrame frame).isOk = true ↔ Fits v (envelopeBytes type id key) := by
  rw [encodeFrame_isOk_iff, h, unsupported_envelope, size_envelope]
  exact Iff.rfl

theorem toJson_probeState : toJson s = struct [⟨"name", .str s.name, false⟩, ⟨"healthy", .bool s.healthy, false⟩,
    ⟨"message", .str s.message, true⟩, ⟨"changedUnixMs", .int s.changedUnixMs, true⟩] := rfl

theorem unsupported_probeState : (toJson s).unsupported = none := by
  rw [toJson_probeState, unsupported_struct]
  simp [Value.unsupported]

theorem size_probeState : (toJson s).size = s.bytes := by
  have hname : Field.size ⟨"name", .str s.name, false⟩ = (escape 0 s.name).length + 10 := by
    have hkey : (escape 0 (ascii "name")).length = 4 := rfl
    simp only [Field.size, Field.kept, Bool.false_and, Bool.not_false, if_true, hkey, Value.size]
    omega
  have hhealthy : Field.size ⟨"healthy", .bool s.healthy, false⟩ = 11 + if s.healthy then 4 else 5 := by
    have hkey : (escape 0 (ascii "healthy")).length = 7 := rfl
    simp [Field.size, Field.kept, hkey, Value.size]
  have hmessage : Field.size ⟨"message", .str s.message, true⟩ =
      if s.message = [] then 0 else (escape 0 s.message).length + 13 := by
    have hkey : (escape 0 (ascii "message")).length = 7 := rfl
    by_cases hm : s.message = []
    · simp [Field.size, Field.kept, hm]
    · simp [Field.size, Field.kept, hm, hkey, Value.size]
      omega
  have hchanged : Field.size ⟨"changedUnixMs", .int s.changedUnixMs, true⟩ =
      if s.changedUnixMs = 0 then 0 else (formatInt s.changedUnixMs).length + 17 := by
    have hkey : (escape 0 (ascii "changedUnixMs")).length = 13 := rfl
    by_cases hc : s.changedUnixMs = 0
    · simp [Field.size, Field.kept, hc]
    · simp [Field.size, Field.kept, hc, hkey, Value.size]
      omega
  rw [toJson_probeState, size_struct_cons rfl]
  simp only [List.map_cons, List.map_nil, List.sum_cons, List.sum_nil, add_zero, hname, hhealthy, hmessage, hchanged, ProbeState.bytes]
  omega

theorem sizeElems_probeStates (states : List ProbeState) :
    Value.sizeElems (states.map toJson) = (states.map fun s => s.bytes + 1).sum := by
  induction states with
  | nil => rfl
  | cons s states ih => simp [Value.sizeElems, size_probeState, ih]

theorem length_heartbeatID (n : Nat) : (escape 0 (ascii ("hb-" ++ formatInt n))).length = (formatInt n).length + 3 := by
  have hplain : ∀ b ∈ ascii ("hb-" ++ formatInt n), plain b := by
    intro b hb
    rw [ascii, String.toList_append, List.map_append, List.mem_append] at hb
    rcases hb with hb | hb
    · have hhb : ∀ b ∈ ("hb-".toList.map fun c => UInt8.ofNat c.toNat), plain b := by decide +kernel
      exact hhb b hb
    · obtain ⟨c, hc, rfl⟩ := List.mem_map.1 hb
      exact plain_toDigits n c (toList_formatInt_ofNat n ▸ hc)
  rw [escape_of_plain hplain, length_ascii, String.length_append]
  exact Nat.add_comm 3 _

theorem size_heartbeat (now : Int) (metrics : Option MetricsSummary) :
    (toJson (r.heartbeat now metrics)).size = heartbeatBytes (r.seq + 1) now metrics (probeStates r.runner.states).1 := by
  have htype : Field.size ⟨"type", .str (ascii "heartbeat"), false⟩ = 19 := rfl
  have hid : Field.size ⟨"id", .str (ascii ("hb-" ++ formatInt (r.seq + 1 : Nat))), true⟩ =
      (formatInt (r.seq + 1 : Nat)).length + 11 := by
    have hkey : (escape 0 (ascii "id")).length = 2 := rfl
    have hlen := length_heartbeatID (r.seq + 1)
    have hne : (ascii ("hb-" ++ formatInt (r.seq + 1 : Nat))).isEmpty = false := by
      rw [ascii, String.toList_append]
      rfl
    simp only [Field.size, Field.kept, Value.isEmpty_str, hne, Bool.and_false, Bool.not_false, if_true, hkey, Value.size, hlen]
    omega
  have hclock : Field.size ⟨"clockUnixMs", .int now, true⟩ = if now = 0 then 0 else (formatInt now).length + 15 := by
    have hkey : (escape 0 (ascii "clockUnixMs")).length = 11 := rfl
    by_cases hc : now = 0
    · simp [Field.size, Field.kept, hc]
    · simp [Field.size, Field.kept, hc, hkey, Value.size]
      omega
  have hmetrics : Field.size ⟨"metrics", pointer metrics, true⟩ = (metrics.map fun m => (toJson m).size + 11).getD 0 := by
    cases metrics with
    | none => simp [Field.size, Field.kept, pointer]
    | some m =>
      have hkey : (escape 0 (ascii "metrics")).length = 7 := rfl
      have hm : (toJson m).isEmpty = false := rfl
      simp [Field.size, Field.kept, pointer, hm, hkey]
      omega
  have hprobes : Field.size ⟨"probeStates", list (probeStates r.runner.states).1, true⟩ =
      if (probeStates r.runner.states).1 = [] then 0
      else ((probeStates r.runner.states).1.map fun s => s.bytes + 1).sum + 16 := by
    generalize (probeStates r.runner.states).1 = states
    have hkey : (escape 0 (ascii "probeStates")).length = 11 := rfl
    by_cases hs : states = []
    · simp [Field.size, Field.kept, list, hs]
    · have hmap : states.map toJson ≠ [] := by simpa using hs
      simp [Field.size, Field.kept, list, hs, hkey, Value.size_arr hmap, sizeElems_probeStates]
      omega
  have hnone : Field.size ⟨"facts", .null, true⟩ = 0 ∧ Field.size ⟨"processes", .null, true⟩ = 0 ∧
      Field.size ⟨"accounts", .null, true⟩ = 0 := ⟨rfl, rfl, rfl⟩
  have hkept : Field.kept ⟨"type", .str (ascii "heartbeat"), false⟩ = true := rfl
  rw [toJson_frame]
  simp only [Reporter.heartbeat]
  rw [size_struct_cons hkept]
  simp only [pointer_none, List.map_cons, List.map_nil, List.sum_cons, List.sum_nil, add_zero, htype, hid, hclock, hmetrics, hprobes,
    hnone, heartbeatBytes]
  omega

theorem unsupported_heartbeat (now : Int) (metrics : Option MetricsSummary) :
    (toJson (r.heartbeat now metrics)).unsupported = none ↔ ∀ m, metrics = some m → (toJson m).unsupported = none := by
  have hstates : (list (probeStates r.runner.states).1).unsupported = none := by
    rw [list, Value.unsupported, Value.unsupportedElems_eq_none]
    intro v hv
    obtain ⟨s, -, rfl⟩ := List.mem_map.1 hv
    exact unsupported_probeState s
  rw [toJson_frame, unsupported_struct]
  cases metrics with
  | none => simp [Reporter.heartbeat, Value.unsupported, Field.kept, hstates]
  | some m =>
    have hm : (toJson m).isEmpty = false := rfl
    simp [Reporter.heartbeat, Value.unsupported, Field.kept, hstates, hm]

theorem beat_up_iff (now : Int) (metrics : Option MetricsSummary) (hup : r.up = true) :
    (r.beat now metrics).up = true ↔ Room r (.beat now metrics) := by
  have hok := encodeFrame_isOk_iff (r.heartbeat now metrics)
  rw [unsupported_heartbeat, size_heartbeat] at hok
  rw [Room, ← hok, Reporter.beat]
  cases encodeFrame (r.heartbeat now metrics) with
  | error err => simp [Except.isOk, Except.toBool]
  | ok data => simp [Except.isOk, Except.toBool, hup]

def Loop.Bounded (l : Loop) (rest : Nat) : Prop := l.sent.length + rest ≤ maxFrameBytes

theorem bounded_start {rest : Nat} (h : rest ≤ maxFrameBytes) : Loop.Bounded {} rest := by
  simpa [Loop.Bounded] using h

section Round

variable {T : Type} [ToJson T] {l : Loop} (what : String) {v : T} {build : T → Frame} {rest : Nat}

theorem current_reportOnChange (hframe : (encodeFrame (build v)).isOk = true ↔ Fits (toJson v) rest) (hl : l.Bounded rest) :
    (reportOnChange l what v build).loop.Current ↔ Fits (toJson v) rest := by
  unfold reportOnChange Loop.Current
  cases hm : marshal (toJson v) with
  | error err =>
    have hunsupported : ¬ Fits (toJson v) rest := by
      intro hfits
      rw [marshal, hfits.1] at hm
      cases hm
    simp [hm, hunsupported]
  | ok encoded =>
    obtain ⟨hsupported, hencoded⟩ := marshal_ok_iff.1 hm
    by_cases hsent : encoded = l.sent
    · -- nothing is sent, since what was sent last has these bytes and has fitted
      have hfits : Fits (toJson v) rest := by
        refine ⟨hsupported, ?_⟩
        rw [← Value.length_encode, hencoded, hsent]
        exact hl
      simp [hsent, hm, hfits]
    · cases hf : encodeFrame (build v) with
      | error err =>
        rw [hf] at hframe
        have hnot : ¬ Fits (toJson v) rest := by simpa [Except.isOk, Except.toBool] using hframe
        simp [hsent, hm, hnot]
      | ok data =>
        have hfits : Fits (toJson v) rest := hframe.1 (by rw [hf]; rfl)
        simp [hsent, hm, hfits]

theorem bounded_reportOnChange (hframe : (encodeFrame (build v)).isOk = true ↔ Fits (toJson v) rest) (hl : l.Bounded rest) :
    (reportOnChange l what v build).loop.Bounded rest := by
  unfold reportOnChange
  cases hm : marshal (toJson v) with
  | error err => exact hl
  | ok encoded =>
    by_cases hsent : encoded = l.sent
    · simp only [hsent, if_true]
      exact hl
    · simp only [hsent, if_false]
      cases hf : encodeFrame (build v) with
      | error err => exact hl
      | ok data =>
        have hfits : Fits (toJson v) rest := hframe.1 (by rw [hf]; rfl)
        have hlen := hfits.2
        rw [← Value.length_encode, (marshal_ok_iff.1 hm).2] at hlen
        exact hlen

end Round

structure Reporter.Bounded (r : Reporter) : Prop where
  facts : r.facts.Bounded 45
  processes : r.processes.Bounded 57
  accounts : r.accounts.Bounded 54

theorem encodeFrame_facts : (encodeFrame (factsFrame f)).isOk = true ↔ Fits (toJson f) 45 := by
  have hbytes : envelopeBytes "host.facts" "facts-1" "facts" = 45 := by decide
  rw [encodeFrame_envelope (toJson_factsFrame f), hbytes]

theorem encodeFrame_processes : (encodeFrame (processesFrame p)).isOk = true ↔ Fits (toJson p) 57 := by
  have hbytes : envelopeBytes "host.processes" "processes-1" "processes" = 57 := by decide
  rw [encodeFrame_envelope (toJson_processesFrame p), hbytes]

theorem encodeFrame_accounts : (encodeFrame (accountsFrame a)).isOk = true ↔ Fits (toJson a) 54 := by
  have hbytes : envelopeBytes "host.accounts" "accounts-1" "accounts" = 54 := by decide
  rw [encodeFrame_envelope (toJson_accountsFrame a), hbytes]

section Step

variable (quote : Bytes → Bytes)

theorem bounded_step (r : Reporter) (e : ReporterEvent) (h : r.Bounded) : (r.step quote e).Bounded := by
  cases e with
  | probe e => exact ⟨h.facts, h.processes, h.accounts⟩
  | connect => exact ⟨bounded_start (by decide), bounded_start (by decide), bounded_start (by decide)⟩
  | beat now metrics =>
    by_cases hup : r.up
    · simp only [Reporter.step, hup, if_true, Reporter.beat]
      cases encodeFrame (r.heartbeat now metrics) with
      | error err => exact ⟨h.facts, h.processes, h.accounts⟩
      | ok data => exact ⟨h.facts, h.processes, h.accounts⟩
    · simpa [Reporter.step, hup] using h
  | facts f =>
    by_cases hup : r.up
    · simp only [Reporter.step, hup, if_true]
      exact ⟨bounded_reportOnChange "host facts" (encodeFrame_facts _) h.facts, h.processes, h.accounts⟩
    · simpa [Reporter.step, hup] using h
  | processes p =>
    by_cases hup : r.up
    · simp only [Reporter.step, hup, if_true]
      exact ⟨h.facts, bounded_reportOnChange "host processes" (encodeFrame_processes _) h.processes, h.accounts⟩
    · simpa [Reporter.step, hup] using h
  | accounts a =>
    by_cases hup : r.up
    · simp only [Reporter.step, hup, if_true]
      exact ⟨h.facts, h.processes, bounded_reportOnChange "host accounts" (encodeFrame_accounts _) h.accounts⟩
    · simpa [Reporter.step, hup] using h

theorem reports_step_iff (r : Reporter) (e : ReporterEvent) (hb : r.Bounded) (h : r.Reports) :
    (r.step quote e).Reports ↔ Room r e := by
  have hup := h.up
  cases e with
  | probe e => exact ⟨fun _ => trivial, fun _ => ⟨h.up, h.facts, h.processes, h.accounts⟩⟩
  | connect =>
    refine ⟨fun _ => trivial, fun _ => ⟨rfl, ?_, ?_, ?_⟩⟩ <;>
    · intro v hv
      cases hv
  | beat now metrics =>
    have hbeat := beat_up_iff r now metrics hup
    simp only [Reporter.step, hup, if_true]
    constructor
    · intro h'
      exact hbeat.1 h'.up
    · intro hroom
      have hup' := hbeat.2 hroom
      revert hup'
      unfold Reporter.beat
      cases encodeFrame (r.heartbeat now metrics) with
      | error err => simp
      | ok data => exact fun hup' => ⟨hup', h.facts, h.processes, h.accounts⟩
  | facts f =>
    have hround := current_reportOnChange "host facts" (encodeFrame_facts (sampleFacts f).1) hb.facts
    simp only [Reporter.step, hup, if_true]
    exact ⟨fun h' => hround.1 h'.facts, fun hroom => ⟨rfl, hround.2 hroom, h.processes, h.accounts⟩⟩
  | processes p =>
    have hround := current_reportOnChange "host processes" (encodeFrame_processes (sampleProcesses p).1) hb.processes
    simp only [Reporter.step, hup, if_true]
    exact ⟨fun h' => hround.1 h'.processes, fun hroom => ⟨rfl, h.facts, hround.2 hroom, h.accounts⟩⟩
  | accounts a =>
    have hround := current_reportOnChange "host accounts" (encodeFrame_accounts (sampleAccounts a).1) hb.accounts
    simp only [Reporter.step, hup, if_true]
    exact ⟨fun h' => hround.1 h'.accounts, fun hroom => ⟨rfl, h.facts, h.processes, hround.2 hroom⟩⟩

theorem up_of_not_room {r : Reporter} {now : Int} {metrics : Option MetricsSummary} (hup : r.up = true)
    (h : ¬ Room r (.beat now metrics)) : (r.step quote (.beat now metrics)).up = false := by
  simpa [Reporter.step, hup] using (beat_up_iff r now metrics hup).not.2 h

theorem not_current_of_not_room {r : Reporter} {p : HostProcesses} (hb : r.Bounded) (hup : r.up = true)
    (h : ¬ Room r (.processes p)) : ¬ (r.step quote (.processes p)).processes.Current := by
  have hround := current_reportOnChange "host processes" (encodeFrame_processes (sampleProcesses p).1) hb.processes
  simp only [Reporter.step, hup, if_true]
  exact fun hcurrent => h (hround.1 hcurrent)

end Step

theorem size_processes :
    (toJson p).size = Field.size ⟨"groups", list p.groups, true⟩ + Field.size ⟨"units", list p.units, true⟩ - 1 + 2 := by
  have hjson : toJson p = struct [⟨"groups", list p.groups, true⟩, ⟨"units", list p.units, true⟩] := rfl
  rw [hjson, size_struct]
  simp

theorem units_le_size {c : Nat} (h : ∀ u ∈ p.units, c ≤ (toJson u).size) :
    p.units.length * (c + 1) ≤ (toJson p).size := by
  have hlist : (p.units.map toJson).length * (c + 1) ≤ Value.sizeElems (p.units.map toJson) :=
    Value.le_sizeElems (List.forall_mem_map.2 h)
  rw [List.length_map] at hlist
  by_cases hne : p.units = []
  · simp [hne]
  · have hkept : Field.kept ⟨"units", list p.units, true⟩ = true := by simp [Field.kept, list, hne]
    have hsize : (list p.units).size = Value.sizeElems (p.units.map toJson) + 1 := Value.size_arr (by simpa using hne)
    rw [size_processes]
    simp only [Field.size, hkept, if_true, hsize]
    omega

def garbledProbe (i : Nat) : ProbeSpec := { name := [UInt8.ofNat (i + 65)], type := ascii "exec", command := [ascii "check"] }

def garbled : Answer := { exec := some (ascii "exit status 1", List.replicate 256 0x1B) }

def garbledProbes : List ReporterEvent :=
  .probe (.setSpecs ((List.range 48).map garbledProbe)) ::
    (List.range 48).map fun i => .probe (.check (garbledProbe i).name garbled 0)

def pipeline : String := "Background worker of the order pipeline, one instance for each partition of the queue"

def instances : HostProcesses where
  units := (List.range 420).map fun i => {
    name := ascii ("worker@" ++ toString i ++ ".service"), enabled := ascii "enabled", active := ascii "active",
    sub := ascii "running", description := ascii pipeline }

theorem size_instances : maxFrameBytes < (toJson (sampleProcesses instances).1).size + 57 := by
  have hunits : (sampleProcesses instances).1.units = instances.units := rfl
  have hlen : instances.units.length = 420 := by simp [instances]
  have hunit : ∀ u ∈ instances.units, 157 ≤ (toJson u).size := by
    intro u hu
    obtain ⟨i, -, rfl⟩ := List.mem_map.1 hu
    have hkept : Field.kept ⟨"name", .str (ascii ("worker@" ++ toString i ++ ".service")), false⟩ = true := rfl
    -- the name is the only text that depends on the instance
    have hrest : (([⟨"enabled", .str (ascii "enabled"), true⟩, ⟨"active", .str (ascii "active"), true⟩,
        ⟨"sub", .str (ascii "running"), true⟩, ⟨"description", .str (ascii pipeline), true⟩] :
        List Field).map Field.size).sum = 156 := by decide
    change 157 ≤ (struct _).size
    rw [size_struct_cons hkept, hrest, Nat.add_assoc]
    exact Nat.le_add_left _ _
  have hsize := units_le_size (sampleProcesses instances).1 (hunits ▸ hunit)
  rw [hunits, hlen] at hsize
  exact Nat.lt_of_lt_of_le (by decide) (Nat.add_le_add_right hsize 57)

theorem garbled_output_too_long : maxFrameBytes <
    heartbeatBytes ((run (Reporter.step id) {} garbledProbes).seq + 1) 1 none
      (probeStates (run (Reporter.step id) {} garbledProbes).runner.states).1 := by
  decide +kernel

end Vraxel.Agent
