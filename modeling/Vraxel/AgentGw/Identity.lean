import Vraxel.Go.Hex
import Vraxel.Db.HostAgents
/-
  The machine identity (`pkg/apis/agentgw/identity.go`): what a machine reports about
  itself, which row a registration claims, and whether a reconnect comes from the same machine.

  Times are microseconds. `strings.ToLower` is modelled on ASCII letters: no other letter becomes a
  digit of a UUID, and the addresses (`MACs`) are never compared. The findings about an image
  (`ClassifyImageGroup`) are only logged and are left out.
-/

namespace Vraxel.AgentGw

open Db Base64

def maxFingerprintMACs : Nat := 8

structure MachineFingerprint where
  machineID : String
  productUUID : String
  macs : List String
  uptimeSeconds : Int

/-- The normalised evidence; the empty text and `none` are what was not reported. -/
structure Fingerprint where
  productUUID : String
  machineID : String
  macs : List String
  bootAt : Option Int

def uuidShape (v : String) : Bool :=
  let parts := Strings.split v '-'
  parts.map (·.toList.length) == [8, 4, 4, 4, 12] && parts.all fun p => p.toList.all Hex.isLower

def junkProductUUIDs : List String :=
  ["00000000-0000-0000-0000-000000000000", "ffffffff-ffff-ffff-ffff-ffffffffffff",
    "03000200-0400-0500-0006-000700080009"]

@[irreducible] def normaliseProductUUID (v : String) : String :=
  let v := Strings.toLower (Strings.trimSpace v)
  if !uuidShape v || junkProductUUIDs.contains v then "" else v

def clampIdentity (v : String) : String := clamp 64 (Strings.trimSpace v)

def maxUptimeSeconds : Int := 100 * 365 * 24 * 3600

/-- `machineID` is the field of a registration; the fingerprint's own wins. -/
def newFingerprint (machineID : String) (fp : MachineFingerprint) (now : Int) : Fingerprint where
  machineID := clampIdentity (if fp.machineID ≠ "" then fp.machineID else machineID)
  productUUID := normaliseProductUUID fp.productUUID
  macs := ((fp.macs.map fun m => clampIdentity (Strings.toLower m)).filter (· ≠ "")).take maxFingerprintMACs
  bootAt :=
    if 0 < fp.uptimeSeconds ∧ fp.uptimeSeconds < maxUptimeSeconds then some (now - fp.uptimeSeconds * 1000000)
    else none

def swapUUIDByteOrder (v : String) : String :=
  match Strings.split v '-' with
  | [a, b, c, d, e] =>
    match Hex.flipBytes a, Hex.flipBytes b, Hex.flipBytes c with
    | some a, some b, some c => Strings.join [a, b, c, d, e] "-"
    | _, _, _ => v
  | _ => v

def sameProductUUID (a b : String) : Bool :=
  if a = "" ∨ b = "" then false else a = b ∨ a = swapUUIDByteOrder b

def identitySourceProductUUID : String := "product_uuid"
def identitySourceNone : String := "none"

structure MatchOutcome where
  agentID : String
  hostID : Int
  source : String
  claimUUIDs : List String
  why : String

variable (fp : Fingerprint)

def Fingerprint.claimUUIDs : List String := [fp.productUUID, swapUUIDByteOrder fp.productUUID]

def liveElsewhere (prev : HostAgentRow) (aliveCutoff : Int) : Bool :=
  prev.machineID ≠ "" ∧ fp.machineID ≠ "" ∧ prev.machineID ≠ fp.machineID ∧ prev.status = .online ∧
    prev.lastSeenAt.any (aliveCutoff < ·)

def matchMachine (candidates : List HostAgentRow) (aliveCutoff : Int) : MatchOutcome :=
  if fp.productUUID = "" then
    ⟨"", 0, identitySourceNone, [], "machine reports no usable SMBIOS UUID; it cannot be recognised automatically"⟩
  else
    match candidates.filter fun c => sameProductUUID fp.productUUID c.productUUID with
    | [] => ⟨"", 0, identitySourceProductUUID, fp.claimUUIDs, "no host claims this machine's SMBIOS UUID"⟩
    | [prev] =>
      if liveElsewhere fp prev aliveCutoff then
        ⟨"", 0, identitySourceNone, [],
          "another machine is online with the same SMBIOS UUID but a different /etc/machine-id, so the UUID is not unique here"⟩
      else ⟨prev.agentID, prev.hostID, identitySourceProductUUID, fp.claimUUIDs, "same SMBIOS UUID as this host"⟩
    | _ :: _ :: _ =>
      ⟨"", 0, identitySourceNone, [],
        "this SMBIOS UUID is already claimed by several hosts, so it identifies a hardware batch rather than a machine"⟩

def Fingerprint.nameSeed : String :=
  if fp.productUUID ≠ "" then fp.productUUID else fp.machineID

def Fingerprint.toStore (source : String) : FingerprintInput where
  productUUID := fp.productUUID
  machineID := fp.machineID
  macs := fp.macs
  source := source
  bootAt := fp.bootAt

inductive MachineVerdict where
  | sameMachine
  | machineIDReset
  | hardwareChanged
  | foreignMachine
  | unverifiable
  deriving DecidableEq

def verifyMachine (row : HostAgentRow) (fp : Fingerprint) : MachineVerdict :=
  if row.productUUID = "" ∨ fp.productUUID = "" then .unverifiable
  else if sameProductUUID fp.productUUID row.productUUID then
    if fp.machineID ≠ "" ∧ row.machineID ≠ "" ∧ fp.machineID ≠ row.machineID then .machineIDReset
    else .sameMachine
  else if fp.machineID ≠ "" ∧ row.machineID ≠ "" ∧ fp.machineID = row.machineID then .hardwareChanged
  else .foreignMachine

/-! The two spellings of a UUID. -/

theorem uuidShape_iff {v : String} :
    uuidShape v ↔ (Strings.split v '-').map (·.toList.length) = [8, 4, 4, 4, 12] ∧
      ∀ p ∈ Strings.split v '-', ∀ c ∈ p.toList, Hex.isLower c := by
  simp [uuidShape]

structure UUIDParts where
  a : String
  b : String
  c : String
  d : String
  e : String
  lengths : [a, b, c, d, e].map (·.toList.length) = [8, 4, 4, 4, 12]
  lower : ∀ p ∈ [a, b, c, d, e], ∀ ch ∈ p.toList, Hex.isLower ch

namespace UUIDParts

variable (u : UUIDParts)

def text : String := Strings.join [u.a, u.b, u.c, u.d, u.e] "-"

theorem split_text : Strings.split u.text '-' = [u.a, u.b, u.c, u.d, u.e] := by
  apply Strings.split_join _ (by simp)
  intro p hp hdash
  exact absurd (u.lower p hp '-' hdash) (by decide)

theorem uuidShape_text : uuidShape u.text := by
  apply uuidShape_iff.2
  rw [split_text]
  exact ⟨u.lengths, u.lower⟩

theorem exists_of_uuidShape {v : String} (hv : uuidShape v) : ∃ u : UUIDParts, v = u.text := by
  obtain ⟨hlen, hlower⟩ := uuidShape_iff.1 hv
  have hjoin : v = Strings.join (Strings.split v '-') "-" := (Strings.join_split v '-').symm
  match hsplit : Strings.split v '-' with
  | [a, b, c, d, e] =>
    rw [hsplit] at hlen hlower hjoin
    exact ⟨⟨a, b, c, d, e, hlen, hlower⟩, hjoin⟩
  | [] | [_] | [_, _] | [_, _, _] | [_, _, _, _] | _ :: _ :: _ :: _ :: _ :: _ :: _ =>
    rw [hsplit] at hlen
    simp at hlen

theorem exists_swap :
    ∃ w : UUIDParts, swapUUIDByteOrder u.text = w.text ∧ swapUUIDByteOrder w.text = u.text := by
  have hlen := u.lengths
  simp only [List.map_cons, List.map_nil, List.cons.injEq, and_true] at hlen
  obtain ⟨ha, hb, hc, hd, he⟩ := hlen
  obtain ⟨a, hfa, hga, hla, hloa⟩ := Hex.flipBytes_flipBytes (u.lower u.a (by simp)) (by omega)
  obtain ⟨b, hfb, hgb, hlb, hlob⟩ := Hex.flipBytes_flipBytes (u.lower u.b (by simp)) (by omega)
  obtain ⟨c, hfc, hgc, hlc, hloc⟩ := Hex.flipBytes_flipBytes (u.lower u.c (by simp)) (by omega)
  have hlengths : [a, b, c, u.d, u.e].map (·.toList.length) = [8, 4, 4, 4, 12] := by
    simp [hla, hlb, hlc, ha, hb, hc, hd, he]
  have hlower : ∀ p ∈ [a, b, c, u.d, u.e], ∀ ch ∈ p.toList, Hex.isLower ch := by
    intro p hp
    simp only [List.mem_cons, List.not_mem_nil, or_false] at hp
    rcases hp with rfl | rfl | rfl | rfl | rfl
    · exact hloa
    · exact hlob
    · exact hloc
    · exact u.lower _ (by simp)
    · exact u.lower _ (by simp)
  refine ⟨⟨a, b, c, u.d, u.e, hlengths, hlower⟩, ?_, ?_⟩
  · simp only [swapUUIDByteOrder, split_text, hfa, hfb, hfc]
    rfl
  · simp only [swapUUIDByteOrder, split_text, hga, hgb, hgc]
    rfl

end UUIDParts

theorem swapUUIDByteOrder_swap {v : String} (hv : uuidShape v) :
    uuidShape (swapUUIDByteOrder v) ∧ swapUUIDByteOrder (swapUUIDByteOrder v) = v := by
  obtain ⟨u, rfl⟩ := UUIDParts.exists_of_uuidShape hv
  obtain ⟨w, hw, hback⟩ := u.exists_swap
  rw [hw]
  exact ⟨w.uuidShape_text, hback⟩

theorem ne_empty_of_uuidShape {v : String} (hv : uuidShape v) : v ≠ "" := by
  intro h
  rw [h] at hv
  exact absurd hv (by decide)

theorem sameProductUUID_iff {a b : String} (ha : uuidShape a) (hb : uuidShape b) :
    sameProductUUID a b ↔ b ∈ [a, swapUUIDByteOrder a] := by
  have hne : ¬ (a = "" ∨ b = "") := not_or.2 ⟨ne_empty_of_uuidShape ha, ne_empty_of_uuidShape hb⟩
  rw [sameProductUUID, if_neg hne, decide_eq_true_eq, List.mem_cons, List.mem_singleton]
  constructor
  · intro h
    rcases h with h | h
    · exact .inl h.symm
    · exact .inr (by rw [h, (swapUUIDByteOrder_swap hb).2])
  · intro h
    rcases h with h | h
    · exact .inl h.symm
    · exact .inr (by rw [h, (swapUUIDByteOrder_swap ha).2])

theorem productUUID_newFingerprint (machineID : String) (fp : MachineFingerprint) (now : Int)
    (hne : (newFingerprint machineID fp now).productUUID ≠ "") :
    uuidShape (newFingerprint machineID fp now).productUUID ∧
      (newFingerprint machineID fp now).productUUID ∉ junkProductUUIDs := by
  simp only [newFingerprint, normaliseProductUUID] at hne ⊢
  split at hne
  · exact absurd rfl hne
  · rename_i hok
    rw [if_neg hok]
    simpa using hok

end Vraxel.AgentGw
