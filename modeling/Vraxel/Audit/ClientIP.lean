import Vraxel.Go.Netip
/-
  The address of a client (`lib/audit/helpers.go`) and the configuration of trusted
  proxies (`lib/config/config.go`).
-/

namespace Vraxel.Audit

open Strings Netip

def isTrusted (trustedProxies : List Prefix) (addr : Addr) : Bool := trustedProxies.any fun p => p.contains addr

def parseTrustedProxies : List String → Except String (List Prefix)
  | [] => .ok []
  | raw :: rest =>
    let raw := trimSpace raw
    if raw = "" then parseTrustedProxies rest
    else match parsePrefix raw with
    | some p => (parseTrustedProxies rest).map (p :: ·)
    | none =>
      match parseAddr raw with
      | none => .error ("server.trustedProxies " ++ Strconv.quote raw ++ ": not an IP or CIDR")
      | some addr => (parseTrustedProxies rest).map (prefixFrom addr addr.bitLen le_rfl :: ·)

structure Request where
  remoteAddr : String
  xForwardedFor : List String
  xRealIP : List String

def headerGet (lines : List String) : String := lines.head?.getD ""

def remoteAddrHost (r : Request) : String :=
  match splitHostPort r.remoteAddr with
  | some (host, _) => host
  | none => r.remoteAddr

section Client

variable (trustedProxies : List Prefix)

def lastUntrusted : List String → Option Addr
  | [] => none
  | part :: rest =>
    match parseAddr (trimSpace part) with
    | none => lastUntrusted rest
    | some hop => if !isTrusted trustedProxies hop then some hop else lastUntrusted rest

variable (r : Request) {parts : List String}

def forwarded : Option Addr :=
  let xff := headerGet r.xForwardedFor
  if xff ≠ "" then lastUntrusted trustedProxies (split xff ',').reverse else none

def realIP : Option Addr :=
  let xri := trimSpace (headerGet r.xRealIP)
  if xri ≠ "" then parseAddr xri else none

def peerTrusted : Bool :=
  match parseAddr (remoteAddrHost r) with
  | some addr => isTrusted trustedProxies addr
  | none => false

def clientIP : String :=
  if !peerTrusted trustedProxies r then remoteAddrHost r
  else match forwarded trustedProxies r with
  | some hop => hop.string
  | none =>
    match realIP r with
    | some hop => hop.string
    | none => remoteAddrHost r

/-! What the headers say. -/

def elements (lines : List String) : List String := lines.flatMap fun line => split line ','

/-- An element that is an address which is not trusted. -/
def Untrusted (part : String) (addr : Addr) : Prop :=
  parseAddr (trimSpace part) = some addr ∧ isTrusted trustedProxies addr = false

def Trusted (part : String) : Prop := ∃ addr, parseAddr (trimSpace part) = some addr ∧ isTrusted trustedProxies addr

/-- The last hop that the trusted proxies have seen: only trusted ones follow. -/
def LastHop (parts : List String) (addr : Addr) : Prop :=
  ∃ left part right, parts = left ++ part :: right ∧ Untrusted trustedProxies part addr ∧
    ∀ r ∈ right, Trusted trustedProxies r

/-- The client's address is the peer's, or the last hop's behind a trusted peer. -/
def Unforged : Prop :=
  (peerTrusted trustedProxies r = false → clientIP trustedProxies r = remoteAddrHost r) ∧
    (peerTrusted trustedProxies r → ∀ addr, LastHop trustedProxies (elements r.xForwardedFor) addr →
      clientIP trustedProxies r = addr.string)

variable {trustedProxies}

theorem lastUntrusted_append {rest : List String} (h : ∀ r ∈ parts, Trusted trustedProxies r) :
    lastUntrusted trustedProxies (parts ++ rest) = lastUntrusted trustedProxies rest := by
  induction parts with
  | nil => rfl
  | cons part parts ih =>
    obtain ⟨addr, hparse, htrusted⟩ := h part List.mem_cons_self
    simp only [List.cons_append, lastUntrusted, hparse, htrusted, Bool.not_true, Bool.false_eq_true, if_false]
    exact ih fun r hr => h r (List.mem_cons_of_mem _ hr)

theorem lastUntrusted_of_lastHop {addr : Addr} (h : LastHop trustedProxies parts addr) :
    lastUntrusted trustedProxies parts.reverse = some addr := by
  obtain ⟨left, part, right, rfl, ⟨hparse, huntrusted⟩, hright⟩ := h
  have hreverse : (left ++ part :: right).reverse = right.reverse ++ part :: left.reverse := by
    simp
  rw [hreverse, lastUntrusted_append fun r hr => hright r (List.mem_reverse.1 hr)]
  simp [lastUntrusted, hparse, huntrusted]

theorem LastHop.of_append {rest : List String} {addr : Addr} (h : LastHop trustedProxies (parts ++ rest) addr)
    (hrest : ∀ addr, ¬ LastHop trustedProxies rest addr) : LastHop trustedProxies parts addr := by
  obtain ⟨left, part, right, heq, huntrusted, hright⟩ := h
  rcases List.append_eq_append_iff.1 heq with ⟨middle, hleft, hrest'⟩ | ⟨middle, hparts, hmiddle⟩
  · exact absurd ⟨middle, part, right, hrest', huntrusted, hright⟩ (hrest addr)
  · cases middle with
    | nil => exact absurd ⟨[], part, right, hmiddle.symm, huntrusted, hright⟩ (hrest addr)
    | cons part' right' =>
      obtain ⟨rfl, rfl⟩ := List.cons.inj hmiddle
      exact ⟨left, part, right', hparts, huntrusted, fun r hr => hright r (List.mem_append_left _ hr)⟩

theorem ne_empty_of_lastHop {line : String} {addr : Addr} (h : LastHop trustedProxies (split line ',') addr) :
    line ≠ "" := by
  rintro rfl
  obtain ⟨left, part, right, heq, ⟨hparse, -⟩, -⟩ := h
  have hpart : part ∈ split "" ',' := by
    rw [heq]
    exact List.mem_append_right _ List.mem_cons_self
  have hempty : split "" ',' = [""] := by decide
  rw [hempty, List.mem_singleton] at hpart
  subst hpart
  cases hparse

theorem clientIP_of_realIP {remoteAddr : String} {rest : List String} {xri : String} {hop : Addr}
    (hpeer : peerTrusted trustedProxies ⟨remoteAddr, "" :: rest, [xri]⟩) (hxri : trimSpace xri ≠ "")
    (hhop : parseAddr (trimSpace xri) = some hop) :
    clientIP trustedProxies ⟨remoteAddr, "" :: rest, [xri]⟩ = hop.string := by
  have hforwarded : forwarded trustedProxies ⟨remoteAddr, "" :: rest, [xri]⟩ = none := by
    simp [forwarded, headerGet]
  have hreal : realIP ⟨remoteAddr, "" :: rest, [xri]⟩ = some hop := (if_pos hxri).trans hhop
  simp [clientIP, hpeer, hforwarded, hreal]

theorem unforged_of_lastHop {r : Request}
    (h : ∀ addr, LastHop trustedProxies (elements r.xForwardedFor) addr → forwarded trustedProxies r = some addr) :
    Unforged trustedProxies r := by
  refine ⟨fun hpeer => ?_, fun hpeer addr hlast => ?_⟩
  · simp [clientIP, hpeer]
  · simp [clientIP, hpeer, h addr hlast]

variable (trustedProxies)

/-- The client's address is right for every first line and every `X-Real-IP`, exactly if the peer is not
trusted or the other lines have no last hop of their own. Without any line it is right. -/
theorem client_address_iff (remoteAddr : String) (rest : List String) :
    ((∀ first xRealIP, Unforged trustedProxies ⟨remoteAddr, first :: rest, xRealIP⟩) ↔
        (peerTrusted trustedProxies ⟨remoteAddr, [], []⟩ → ∀ addr, ¬ LastHop trustedProxies (elements rest) addr)) ∧
      ∀ xRealIP, Unforged trustedProxies ⟨remoteAddr, [], xRealIP⟩ := by
  refine ⟨⟨fun h hpeer addr hlast => ?_, fun h first xRealIP => ?_⟩, fun xRealIP => ?_⟩
  · -- behind an empty first line, `X-Real-IP` decides, whatever the last hop is
    obtain ⟨left, part, right, heq, hpart⟩ := hlast
    have hlast' : LastHop trustedProxies (elements ("" :: rest)) addr := by
      refine ⟨split "" ',' ++ left, part, right, ?_, hpart⟩
      exact congrArg _ heq
    have hone := (h "" ["192.0.2.1"]).2 hpeer addr hlast'
    have htwo := (h "" ["192.0.2.2"]).2 hpeer addr hlast'
    have hparse : parseAddr (trimSpace "192.0.2.1") = some (.v4 0xC0000201#32) := by decide
    have hparse' : parseAddr (trimSpace "192.0.2.2") = some (.v4 0xC0000202#32) := by decide
    rw [clientIP_of_realIP hpeer (by decide) hparse] at hone
    rw [clientIP_of_realIP hpeer (by decide) hparse'] at htwo
    have hne : (Addr.v4 0xC0000201#32).string ≠ (Addr.v4 0xC0000202#32).string := by decide
    exact hne (hone.trans htwo.symm)
  · by_cases hpeer : peerTrusted trustedProxies ⟨remoteAddr, first :: rest, xRealIP⟩
    · refine unforged_of_lastHop fun addr hlast => ?_
      have hfirst : LastHop trustedProxies (split first ',') addr := LastHop.of_append hlast (h hpeer)
      exact (if_pos (ne_empty_of_lastHop hfirst)).trans (lastUntrusted_of_lastHop hfirst)
    · exact ⟨fun hno => by simp [clientIP, hno], fun hyes => absurd hyes hpeer⟩
  · refine unforged_of_lastHop fun addr ⟨left, part, right, heq, _⟩ => ?_
    simp [elements] at heq

end Client

def tenNet : Prefix := prefixFrom (.v4 0x0A000000#32) 8 (by decide)

/-- The client's own line is believed, although the trusted proxy adds one with the address that it
sees. With one line for both it is not. -/
theorem client_address_forged :
    parseTrustedProxies ["10.0.0.0/8"] = .ok [tenNet] ∧
      clientIP [tenNet] ⟨"10.0.0.1:4711", ["198.51.100.7", "203.0.113.9"], []⟩ = "198.51.100.7" ∧
      ¬ Unforged [tenNet] ⟨"10.0.0.1:4711", ["198.51.100.7", "203.0.113.9"], []⟩ ∧
      clientIP [tenNet] ⟨"10.0.0.1:4711", ["198.51.100.7, 203.0.113.9"], []⟩ = "203.0.113.9" := by
  refine ⟨by decide, by decide, fun h => ?_, by decide⟩
  have hlast : LastHop [tenNet] (elements ["198.51.100.7", "203.0.113.9"]) (.v4 0xCB007109#32) :=
    ⟨["198.51.100.7"], "203.0.113.9", [], by decide, ⟨by decide, by decide⟩, fun r hr => by cases hr⟩
  exact absurd (h.2 (by decide) _ hlast) (by decide)

end Vraxel.Audit
