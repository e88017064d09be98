import Vraxel.Go.Json
/-
  What an agent reports on the control channel (`lib/agent/types`: `protocol.go`, `probe.go`,
  `metrics.go`, `facts.go`, `runtime.go`): the frames with all of their data, and `EncodeFrame`. The
  instances give the fields in the order of the structs, with the keys and `omitempty` of their tags.
-/

namespace Vraxel.Agent

open Json

structure ProbeState where
  name : Bytes := []
  healthy : Bool := false
  message : Bytes := []
  changedUnixMs : Int := 0
  deriving DecidableEq

instance : ToJson ProbeState where
  toJson v := struct [
    ⟨"name", .str v.name, false⟩,
    ⟨"healthy", .bool v.healthy, false⟩,
    ⟨"message", .str v.message, true⟩,
    ⟨"changedUnixMs", .int v.changedUnixMs, true⟩]

structure MetricsSummary where
  sampledAtMs : Int := 0
  cpuUsedPct : Float64 := .zero
  memUsedPct : Float64 := .zero
  diskUsedPct : Float64 := .zero
  diskUsedPath : Bytes := []
  diskUsedBytes : Int := 0
  diskTotalBytes : Int := 0
  load1 : Float64 := .zero
  load5 : Float64 := .zero
  load15 : Float64 := .zero
  netRxBps : Float64 := .zero
  netTxBps : Float64 := .zero
  cpuTrend : List Float64 := []

def metricValue : Float64 → Value
  | .nan | .inf _ => .null
  | f => .float f

instance : ToJson MetricsSummary where
  toJson v := struct [
    ⟨"sampledAtMs", .int v.sampledAtMs, false⟩,
    ⟨"cpuUsedPct", .float v.cpuUsedPct, false⟩,
    ⟨"memUsedPct", .float v.memUsedPct, false⟩,
    ⟨"diskUsedPct", .float v.diskUsedPct, false⟩,
    ⟨"diskUsedPath", .str v.diskUsedPath, true⟩,
    ⟨"diskUsedBytes", .int v.diskUsedBytes, true⟩,
    ⟨"diskTotalBytes", .int v.diskTotalBytes, true⟩,
    ⟨"load1", .float v.load1, false⟩,
    ⟨"load5", .float v.load5, false⟩,
    ⟨"load15", .float v.load15, false⟩,
    ⟨"netRxBps", .float v.netRxBps, false⟩,
    ⟨"netTxBps", .float v.netTxBps, false⟩,
    ⟨"cpuTrend", .arr (v.cpuTrend.map metricValue), true⟩]

structure NIC where
  name : Bytes := []
  mac : Bytes := []
  ipv4 : List Bytes := []
  ipv6 : List Bytes := []
  speedMbps : Int := 0
  mtu : Int := 0
  state : Bytes := []
  duplex : Bytes := []
  driver : Bytes := []
  kind : Bytes := []
  master : Bytes := []

instance : ToJson NIC where
  toJson v := struct [
    ⟨"name", .str v.name, false⟩,
    ⟨"mac", .str v.mac, true⟩,
    ⟨"ipv4", list v.ipv4, true⟩,
    ⟨"ipv6", list v.ipv6, true⟩,
    ⟨"speedMbps", .int v.speedMbps, true⟩,
    ⟨"mtu", .int v.mtu, true⟩,
    ⟨"state", .str v.state, true⟩,
    ⟨"duplex", .str v.duplex, true⟩,
    ⟨"driver", .str v.driver, true⟩,
    ⟨"kind", .str v.kind, true⟩,
    ⟨"master", .str v.master, true⟩]

structure Filesystem where
  mount : Bytes := []
  device : Bytes := []
  fstype : Bytes := []
  sizeBytes : Int := 0
  usedBytes : Int := 0
  inodesTotal : Int := 0
  inodesUsed : Int := 0
  readOnly : Bool := false

instance : ToJson Filesystem where
  toJson v := struct [
    ⟨"mount", .str v.mount, false⟩,
    ⟨"device", .str v.device, true⟩,
    ⟨"fstype", .str v.fstype, true⟩,
    ⟨"sizeBytes", .int v.sizeBytes, true⟩,
    ⟨"usedBytes", .int v.usedBytes, true⟩,
    ⟨"inodesTotal", .int v.inodesTotal, true⟩,
    ⟨"inodesUsed", .int v.inodesUsed, true⟩,
    ⟨"readOnly", .bool v.readOnly, true⟩]

structure BlockDevice where
  name : Bytes := []
  sizeBytes : Int := 0
  rotational : Bool := false
  vendor : Bytes := []
  model : Bytes := []
  serial : Bytes := []

instance : ToJson BlockDevice where
  toJson v := struct [
    ⟨"name", .str v.name, false⟩,
    ⟨"sizeBytes", .int v.sizeBytes, true⟩,
    ⟨"rotational", .bool v.rotational, true⟩,
    ⟨"vendor", .str v.vendor, true⟩,
    ⟨"model", .str v.model, true⟩,
    ⟨"serial", .str v.serial, true⟩]

structure Swap where
  device : Bytes := []
  kind : Bytes := []
  sizeBytes : Int := 0
  priority : Int := 0

instance : ToJson Swap where
  toJson v := struct [
    ⟨"device", .str v.device, false⟩,
    ⟨"kind", .str v.kind, true⟩,
    ⟨"sizeBytes", .int v.sizeBytes, true⟩,
    ⟨"priority", .int v.priority, true⟩]

structure CPUMitigation where
  name : Bytes := []
  status : Bytes := []

instance : ToJson CPUMitigation where
  toJson v := struct [
    ⟨"name", .str v.name, false⟩,
    ⟨"status", .str v.status, false⟩]

structure SSHKey where
  type : Bytes := []
  fingerprint : Bytes := []
  comment : Bytes := []

instance : ToJson SSHKey where
  toJson v := struct [
    ⟨"type", .str v.type, false⟩,
    ⟨"fingerprint", .str v.fingerprint, false⟩,
    ⟨"comment", .str v.comment, true⟩]

structure HostFacts where
  virtualization : Bytes := []
  cpuModel : Bytes := []
  cpuSockets : Int := 0
  cpuCoresPerSocket : Int := 0
  cpuThreadsPerCore : Int := 0
  kernelVersion : Bytes := []
  osID : Bytes := []
  osVersionID : Bytes := []
  systemVendor : Bytes := []
  productName : Bytes := []
  biosVersion : Bytes := []
  biosDate : Bytes := []
  boardName : Bytes := []
  boardSerial : Bytes := []
  chassisType : Bytes := []
  serialNumber : Bytes := []
  assetTag : Bytes := []
  timezone : Bytes := []
  defaultGateway : Bytes := []
  kernelCmdline : Bytes := []
  clockSync : Bytes := []
  nics : List NIC := []
  filesystems : List Filesystem := []
  blockDevices : List BlockDevice := []
  swaps : List Swap := []
  dnsServers : List Bytes := []
  dnsSearch : List Bytes := []
  cpuMitigations : List CPUMitigation := []
  sshHostKeys : List SSHKey := []

instance : ToJson HostFacts where
  toJson v := struct [
    ⟨"virtualization", .str v.virtualization, true⟩,
    ⟨"cpuModel", .str v.cpuModel, true⟩,
    ⟨"cpuSockets", .int v.cpuSockets, true⟩,
    ⟨"cpuCoresPerSocket", .int v.cpuCoresPerSocket, true⟩,
    ⟨"cpuThreadsPerCore", .int v.cpuThreadsPerCore, true⟩,
    ⟨"kernelVersion", .str v.kernelVersion, true⟩,
    ⟨"osId", .str v.osID, true⟩,
    ⟨"osVersionId", .str v.osVersionID, true⟩,
    ⟨"systemVendor", .str v.systemVendor, true⟩,
    ⟨"productName", .str v.productName, true⟩,
    ⟨"biosVersion", .str v.biosVersion, true⟩,
    ⟨"biosDate", .str v.biosDate, true⟩,
    ⟨"boardName", .str v.boardName, true⟩,
    ⟨"boardSerial", .str v.boardSerial, true⟩,
    ⟨"chassisType", .str v.chassisType, true⟩,
    ⟨"serialNumber", .str v.serialNumber, true⟩,
    ⟨"assetTag", .str v.assetTag, true⟩,
    ⟨"timezone", .str v.timezone, true⟩,
    ⟨"defaultGateway", .str v.defaultGateway, true⟩,
    ⟨"kernelCmdline", .str v.kernelCmdline, true⟩,
    ⟨"clockSync", .str v.clockSync, true⟩,
    ⟨"nics", list v.nics, true⟩,
    ⟨"filesystems", list v.filesystems, true⟩,
    ⟨"blockDevices", list v.blockDevices, true⟩,
    ⟨"swaps", list v.swaps, true⟩,
    ⟨"dnsServers", list v.dnsServers, true⟩,
    ⟨"dnsSearch", list v.dnsSearch, true⟩,
    ⟨"cpuMitigations", list v.cpuMitigations, true⟩,
    ⟨"sshHostKeys", list v.sshHostKeys, true⟩]

structure ListenPort where
  proto : Bytes := []
  addr : Bytes := []
  port : Int := 0

instance : ToJson ListenPort where
  toJson v := struct [
    ⟨"proto", .str v.proto, false⟩,
    ⟨"addr", .str v.addr, true⟩,
    ⟨"port", .int v.port, false⟩]

/-- One workload; `cpuPct` and `rssBytes` are only filled in on the stream of live statistics. -/
structure ProcessGroup where
  name : Bytes := []
  user : Bytes := []
  count : Int := 0
  unit : Bytes := []
  container : Bool := false
  ports : List ListenPort := []
  exe : Bytes := []
  startedAtMs : Int := 0
  cpuPct : Float64 := .zero
  rssBytes : Int := 0

instance : ToJson ProcessGroup where
  toJson v := struct [
    ⟨"name", .str v.name, false⟩,
    ⟨"user", .str v.user, true⟩,
    ⟨"count", .int v.count, false⟩,
    ⟨"unit", .str v.unit, true⟩,
    ⟨"container", .bool v.container, true⟩,
    ⟨"ports", list v.ports, true⟩,
    ⟨"exe", .str v.exe, true⟩,
    ⟨"startedAtMs", .int v.startedAtMs, true⟩,
    ⟨"cpuPct", .float v.cpuPct, true⟩,
    ⟨"rssBytes", .int v.rssBytes, true⟩]

structure SystemdUnit where
  name : Bytes := []
  enabled : Bytes := []
  active : Bytes := []
  sub : Bytes := []
  description : Bytes := []

instance : ToJson SystemdUnit where
  toJson v := struct [
    ⟨"name", .str v.name, false⟩,
    ⟨"enabled", .str v.enabled, true⟩,
    ⟨"active", .str v.active, true⟩,
    ⟨"sub", .str v.sub, true⟩,
    ⟨"description", .str v.description, true⟩]

structure HostProcesses where
  groups : List ProcessGroup := []
  units : List SystemdUnit := []

instance : ToJson HostProcesses where
  toJson v := struct [
    ⟨"groups", list v.groups, true⟩,
    ⟨"units", list v.units, true⟩]

structure Account where
  name : Bytes := []
  uid : Int := 0
  gid : Int := 0
  group : Bytes := []
  home : Bytes := []
  shell : Bytes := []
  canLogin : Bool := false
  password : Bytes := []
  groups : List Bytes := []
  privileges : List Bytes := []
  sshKeys : List SSHKey := []
  fullName : Bytes := []
  passwordChangedAtMs : Int := 0
  expiresAtMs : Int := 0
  lastLoginAtMs : Int := 0

instance : ToJson Account where
  toJson v := struct [
    ⟨"name", .str v.name, false⟩,
    ⟨"uid", .int v.uid, false⟩,
    ⟨"gid", .int v.gid, false⟩,
    ⟨"group", .str v.group, true⟩,
    ⟨"home", .str v.home, true⟩,
    ⟨"shell", .str v.shell, true⟩,
    ⟨"canLogin", .bool v.canLogin, true⟩,
    ⟨"password", .str v.password, true⟩,
    ⟨"groups", list v.groups, true⟩,
    ⟨"privileges", list v.privileges, true⟩,
    ⟨"sshKeys", list v.sshKeys, true⟩,
    ⟨"fullName", .str v.fullName, true⟩,
    ⟨"passwordChangedAtMs", .int v.passwordChangedAtMs, true⟩,
    ⟨"expiresAtMs", .int v.expiresAtMs, true⟩,
    ⟨"lastLoginAtMs", .int v.lastLoginAtMs, true⟩]

structure SSHDConfig where
  ports : List Int := []
  permitRootLogin : Bytes := []
  passwordAuth : Bool := false
  kbdInteractiveAuth : Bool := false
  pubkeyAuth : Bool := false
  permitEmptyPasswords : Bool := false
  maxAuthTries : Int := 0
  allowUsers : List Bytes := []
  allowGroups : List Bytes := []
  denyUsers : List Bytes := []
  denyGroups : List Bytes := []
  matchBlocks : Int := 0

instance : ToJson SSHDConfig where
  toJson v := struct [
    ⟨"ports", .arr (v.ports.map .int), true⟩,
    ⟨"permitRootLogin", .str v.permitRootLogin, true⟩,
    ⟨"passwordAuth", .bool v.passwordAuth, false⟩,
    ⟨"kbdInteractiveAuth", .bool v.kbdInteractiveAuth, false⟩,
    ⟨"pubkeyAuth", .bool v.pubkeyAuth, false⟩,
    ⟨"permitEmptyPasswords", .bool v.permitEmptyPasswords, false⟩,
    ⟨"maxAuthTries", .int v.maxAuthTries, true⟩,
    ⟨"allowUsers", list v.allowUsers, true⟩,
    ⟨"allowGroups", list v.allowGroups, true⟩,
    ⟨"denyUsers", list v.denyUsers, true⟩,
    ⟨"denyGroups", list v.denyGroups, true⟩,
    ⟨"matchBlocks", .int v.matchBlocks, true⟩]

structure UserGroup where
  name : Bytes := []
  gid : Int := 0
  members : List Bytes := []

instance : ToJson UserGroup where
  toJson v := struct [
    ⟨"name", .str v.name, false⟩,
    ⟨"gid", .int v.gid, false⟩,
    ⟨"members", list v.members, true⟩]

structure HostAccounts where
  users : List Account := []
  groups : List UserGroup := []
  sudoRules : List Bytes := []
  sshd : Option SSHDConfig := none

instance : ToJson HostAccounts where
  toJson v := struct [
    ⟨"users", list v.users, true⟩,
    ⟨"groups", list v.groups, true⟩,
    ⟨"sudoRules", list v.sudoRules, true⟩,
    ⟨"sshd", pointer v.sshd, true⟩]

/-- The envelope of the control channel. The fields that no report sets are left out: they are empty and omitted. -/
structure Frame where
  type : String
  id : String := ""
  clockUnixMs : Int := 0
  metrics : Option MetricsSummary := none
  probeStates : List ProbeState := []
  facts : Option HostFacts := none
  processes : Option HostProcesses := none
  accounts : Option HostAccounts := none

instance : ToJson Frame where
  toJson v := struct [
    ⟨"type", .str (ascii v.type), false⟩,
    ⟨"id", .str (ascii v.id), true⟩,
    ⟨"clockUnixMs", .int v.clockUnixMs, true⟩,
    ⟨"metrics", pointer v.metrics, true⟩,
    ⟨"probeStates", list v.probeStates, true⟩,
    ⟨"facts", pointer v.facts, true⟩,
    ⟨"processes", pointer v.processes, true⟩,
    ⟨"accounts", pointer v.accounts, true⟩]
def maxFrameBytes : Nat := 64 * 1024

def encodeFrame (f : Frame) : Except String Bytes :=
  match marshal (toJson f) with
  | .error err => .error ("marshal " ++ f.type ++ " frame: " ++ err)
  | .ok data =>
    if maxFrameBytes < data.length then
      .error (f.type ++ " frame is " ++ toString data.length ++ " bytes, exceeds " ++ toString maxFrameBytes ++ " limit")
    else .ok data

theorem encodeFrame_isOk_iff (f : Frame) :
    (encodeFrame f).isOk = true ↔ (toJson f).unsupported = none ∧ (toJson f).size ≤ maxFrameBytes := by
  unfold encodeFrame marshal
  cases (toJson f).unsupported with
  | some t => simp [Except.isOk, Except.toBool]
  | none =>
    simp only [Value.length_encode, true_and]
    by_cases h : maxFrameBytes < (toJson f).size
    · simp [h, Except.isOk, Except.toBool]
    · simp [h, Except.isOk, Except.toBool, Nat.le_of_not_lt h]

end Vraxel.Agent
