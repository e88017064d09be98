import Vraxel.Go.Base64
import Vraxel.Go.Netip
/-
  `net.IP`, and the way from a text to a connection: `ParseIP`, `To4`, `IsLoopback`,
  `String`, `JoinHostPort`, and the addresses a `net.Dialer` connects to. An IP is a byte slice of any
  length.
-/

namespace Vraxel.Net

open Strings Netip Strconv

abbrev IP := List UInt8

namespace IP

def v4InV6Prefix : List UInt8 := List.replicate 10 0 ++ [0xff, 0xff]

def ipv6loopback : IP := List.replicate 15 0 ++ [1]

def to4 (ip : IP) : Option (List UInt8) :=
  if ip.length = 4 then some ip
  else if ip.length = 16 ∧ ip.take 12 = v4InV6Prefix then some (ip.drop 12)
  else none

def isLoopback (ip : IP) : Bool :=
  match to4 ip with
  | some b => b.head? = some 127
  | none => ip = ipv6loopback

def bytes (width n : Nat) : List UInt8 := (List.range width).map fun i => UInt8.ofNat (n >>> (8 * (width - 1 - i)))

def ofAddr : Addr → IP
  | .v4 bits => v4InV6Prefix ++ bytes 4 bits.toNat
  | .v6 bits _ => bytes 16 bits.toNat

def parse (s : String) : Option IP :=
  match parseAddr s with
  | some (.v4 bits) => some (ofAddr (.v4 bits))
  | some (.v6 bits zone) => if zone = "" then some (ofAddr (.v6 bits zone)) else none
  | none => none

def number (ip : IP) : Nat := ofDigits 256 (ip.map UInt8.toNat)

def string (ip : IP) : String :=
  if ip = [] then "<nil>"
  else
    match to4 ip with
    | some b => dotted (number b)
    | none => if ip.length = 16 then (Addr.v6 (BitVec.ofNat 128 (number ip)) "").string else "?" ++ Base64.hexEncode ip

end IP

/-! Addresses with a port. -/

def joinHostPort (host port : String) : String :=
  if ':' ∈ host.toList then "[" ++ host ++ "]:" ++ port else host ++ ":" ++ port

structure TCPAddr where
  ip : IP
  port : Nat
  zone : String
  deriving DecidableEq

structure Network where
  lookupIP : Nat → String → Except String (List IP)
  service : String → Option Nat
  connect : Nat → Int → List TCPAddr → Except String Unit

/-- A decimal port number; `none` is a name. A sign alone, and nothing at all, are zero. -/
def parsePort (service : String) : Option Int :=
  match service.toList with
  | '+' :: cs => (readDigits 0 cs).map Int.ofNat
  | '-' :: cs => (readDigits 0 cs).map fun n : Nat => -Int.ofNat n
  | cs => (readDigits 0 cs).map Int.ofNat

variable (net : Network)

def lookupPort (service : String) : Option Nat :=
  match parsePort service with
  | some n => if 0 ≤ n ∧ n ≤ 65535 then some n.toNat else none
  | none => net.service service

/-- The addresses a dialer tries for `host:port`: a literal IP address is taken as it is,
a name is looked up (the lookup has number `n`), and no host means this machine. -/
def tcpAddrs (n : Nat) (address : String) : Except String (List TCPAddr) :=
  match splitHostPort address with
  | none => .error ("address " ++ address ++ ": missing port in address")
  | some (host, service) =>
    match lookupPort net service with
    | none => .error ("lookup tcp/" ++ service ++ ": unknown port")
    | some port =>
      if host = "" then .ok [⟨[], port, ""⟩]
      else
        match parseAddr host with
        | some (.v4 bits) => .ok [⟨IP.ofAddr (.v4 bits), port, ""⟩]
        | some (.v6 bits zone) => .ok [⟨IP.ofAddr (.v6 bits zone), port, zone⟩]
        | none => (net.lookupIP n host).map fun ips => ips.map fun ip => ⟨ip, port, ""⟩

theorem not_mem_port {hostport host port : String} (h : splitHostPort hostport = some (host, port)) :
    ':' ∉ port.toList ∧ '[' ∉ port.toList ∧ ']' ∉ port.toList := by
  unfold splitHostPort at h
  split at h
  · cases h
  next tail before hcut =>
    have hcolon : ':' ∉ tail.reverse := by
      simpa using (cutAt_eq_some_iff.1 hcut).2
    dsimp only at h
    split at h
    · split at h
      · split at h
        · cases h
        next hbrackets =>
          simp only [not_or] at hbrackets
          cases h
          simpa using ⟨by simpa using hcolon, by simpa using hbrackets.2⟩
      · cases h
    · split at h
      · cases h
      next hbrackets =>
        simp only [List.mem_append, not_or] at hbrackets
        cases h
        simpa using ⟨by simpa using hcolon, by simpa using hbrackets.2.1.2, by simpa using hbrackets.2.2.2⟩

theorem splitHostPort_joinHostPort {host port : String} (hhost : '[' ∉ host.toList ∧ ']' ∉ host.toList)
    (hport : ':' ∉ port.toList ∧ '[' ∉ port.toList ∧ ']' ∉ port.toList) :
    splitHostPort (joinHostPort host port) = some (host, port) := by
  by_cases hcolon : ':' ∈ host.toList
  · -- the host is in brackets
    have hcut : cutAt ':' (joinHostPort host port).toList.reverse =
        some (port.toList.reverse, (['['] ++ host.toList ++ [']']).reverse) := by
      refine cutAt_eq_some_iff.2 ⟨?_, by simpa using hport.1⟩
      simp [joinHostPort, hcolon]
    have hinner : cutAt ']' (host.toList ++ [']']) = some (host.toList, []) :=
      cutAt_eq_some_iff.2 ⟨rfl, hhost.2⟩
    simp only [splitHostPort, hcut, List.reverse_reverse, List.cons_append, List.nil_append, hinner]
    simp [hhost.1, hport.2.1, hport.2.2]
  · have hcut : cutAt ':' (joinHostPort host port).toList.reverse = some (port.toList.reverse, host.toList.reverse) := by
      refine cutAt_eq_some_iff.2 ⟨?_, by simpa using hport.1⟩
      simp [joinHostPort, hcolon]
    simp only [splitHostPort, hcut, List.reverse_reverse]
    split
    next inner heq => exact absurd (heq ▸ List.mem_cons_self) hhost.1
    · simp [hcolon, hhost.1, hhost.2, hport.2.1, hport.2.2]

/-! The text of a loopback address. -/

theorem octet_toDigits {n : Nat} (h : n ≤ 255) : octet (Nat.toDigits 10 n) = some n := by
  have hread : parseUint (Nat.toDigits 10 n) = some n := parseUint_toDigits n
  have hfields : ∀ n ≤ 255, ipv4Field (Nat.toDigits 10 n) := by decide +kernel
  rw [octet, if_pos (hfields n h), hread]

theorem not_mem_toDigits {c : Char} (hc : c.isDigit = false) (n : Nat) : c ∉ Nat.toDigits 10 n := by
  intro hmem
  rw [Nat.isDigit_of_mem_toDigits (by omega) (by omega) hmem] at hc
  cases hc

theorem number_four (a b c d : UInt8) :
    IP.number [a, b, c, d] = ((a.toNat * 256 + b.toNat) * 256 + c.toNat) * 256 + d.toNat := by
  simp only [IP.number, ofDigits, List.map, List.foldl]
  omega

theorem toList_dotted (a b c d : UInt8) :
    (dotted (IP.number [a, b, c, d])).toList =
      ['.'].intercalate ([a, b, c, d].map fun x => Nat.toDigits 10 x.toNat) := by
  have ha := a.toNat_lt
  have hb := b.toNat_lt
  have hc := c.toNat_lt
  have hd := d.toNat_lt
  have hfields : [24, 16, 8, 0].map (fun i => IP.number [a, b, c, d] >>> i % 256) =
      [a.toNat, b.toNat, c.toNat, d.toNat] := by
    simp only [List.map, Nat.shiftRight_eq_div_pow, number_four]
    refine congrArg₂ _ ?_ (congrArg₂ _ ?_ (congrArg₂ _ ?_ (congrArg₂ _ ?_ rfl))) <;> omega
  have htexts : [24, 16, 8, 0].map (fun i => toString (IP.number [a, b, c, d] >>> i % 256)) =
      [a.toNat, b.toNat, c.toNat, d.toNat].map toString := by
    rw [← hfields, List.map_map]
    rfl
  rw [dotted, htexts, join, String.toList_intercalate]
  simp

theorem parseAddr_dotted (a b c d : UInt8) :
    parseAddr (dotted (IP.number [a, b, c, d])) = some (.v4 (BitVec.ofNat 32 (IP.number [a, b, c, d]))) := by
  have htext := toList_dotted a b c d
  have hfields : (dotted (IP.number [a, b, c, d])).toList.splitOn '.' =
      [a, b, c, d].map fun x => Nat.toDigits 10 x.toNat := by
    rw [htext]
    refine List.splitOn_intercalate '.' ?_ (by simp)
    intro field hfield
    obtain ⟨x, -, rfl⟩ := List.mem_map.1 hfield
    exact not_mem_toDigits rfl x.toNat
  have hdigits (x : UInt8) : octet (Nat.toDigits 10 x.toNat) = some x.toNat :=
    octet_toDigits (Nat.le_of_lt_succ x.toNat_lt)
  have hfour : parseIPv4 (dotted (IP.number [a, b, c, d])).toList = some ([a, b, c, d].map UInt8.toNat) := by
    simp [parseIPv4, hfields, hdigits]
  -- the first delimiter is the dot after the first field
  have hkind : (dotted (IP.number [a, b, c, d])).toList.find? (fun x => x = '.' || x = ':' || x = '%') = some '.' := by
    have hnone : (Nat.toDigits 10 a.toNat).find? (fun x => x = '.' || x = ':' || x = '%') = none := by
      refine List.find?_eq_none.2 fun x hx => ?_
      have hdigit := Nat.isDigit_of_mem_toDigits (b := 10) (by omega) (by omega) hx
      intro hdelim
      simp only [Bool.or_eq_true, decide_eq_true_eq, or_assoc] at hdelim
      rcases hdelim with rfl | rfl | rfl <;> cases hdigit
    rw [htext, List.map_cons, List.map_cons, List.intercalate_cons_cons, List.append_assoc, List.find?_append, hnone]
    rfl
  simp only [parseAddr, hkind, hfour, Option.map_some]
  rfl

theorem isLoopback_ofAddr_v4 {bits : BitVec 32} (h : bits.toNat >>> 24 = 127) : (IP.ofAddr (.v4 bits)).isLoopback := by
  have h4 : (IP.ofAddr (.v4 bits)).to4 = some (IP.bytes 4 bits.toNat) := by
    simp [IP.to4, IP.ofAddr, IP.v4InV6Prefix, IP.bytes]
  have hfirst : (IP.bytes 4 bits.toNat).head? = some 127 := by
    show some (UInt8.ofNat (bits.toNat >>> 24)) = _
    rw [h]
    rfl
  simp [IP.isLoopback, h4, hfirst]

theorem parseAddr_string_of_isLoopback {ip : IP} (h : ip.isLoopback) :
    ('[' ∉ ip.string.toList ∧ ']' ∉ ip.string.toList) ∧
      ∃ addr, parseAddr ip.string = some addr ∧ addr.withoutZone = addr ∧ (IP.ofAddr addr).isLoopback := by
  have hne : ip ≠ [] := by
    rintro rfl
    cases h
  unfold IP.isLoopback at h
  cases h4 : ip.to4 with
  | some octets =>
    rw [h4] at h
    have hlength : octets.length = 4 := by
      unfold IP.to4 at h4
      split at h4
      next hfour => exact Option.some.inj h4 ▸ hfour
      · split at h4
        next hsixteen => exact Option.some.inj h4 ▸ by simp [hsixteen.1]
        · cases h4
    obtain ⟨a, b, c, d, rfl⟩ := List.length_eq_four.1 hlength
    have ha : a = 127 := by simpa using h
    have hstring : ip.string = dotted (IP.number [a, b, c, d]) := by simp [IP.string, hne, h4]
    rw [hstring]
    refine ⟨?_, _, parseAddr_dotted a b c d, rfl, ?_⟩
    · rw [toList_dotted]
      have hnot (x : Char) (hdigit : x.isDigit = false) (hdot : x ≠ '.') :
          x ∉ ['.'].intercalate ([a, b, c, d].map fun x => Nat.toDigits 10 x.toNat) := by
        simp [not_mem_toDigits hdigit, hdot]
      exact ⟨hnot '[' rfl (by decide), hnot ']' rfl (by decide)⟩
    · have hb := b.toNat_lt
      have hc := c.toNat_lt
      have hd := d.toNat_lt
      apply isLoopback_ofAddr_v4
      rw [BitVec.toNat_ofNat, number_four, ha, Nat.shiftRight_eq_div_pow]
      show (((127 * 256 + b.toNat) * 256 + c.toNat) * 256 + d.toNat) % 2 ^ 32 / 2 ^ 24 = 127
      omega
  | none =>
    rw [h4] at h
    have hip : ip = IP.ipv6loopback := by simpa using h
    subst hip
    exact ⟨by decide, .v6 1 "", by decide, rfl, by decide⟩

theorem parseSigned_cases {cs : List Char} {port : Int} (h : parseSigned cs = some port) :
    (∃ rest n, cs = '+' :: rest ∧ parseUint rest = some n ∧ Int.ofNat n = port) ∨
      (∃ rest n, cs = '-' :: rest ∧ parseUint rest = some n ∧ -Int.ofNat n = port) ∨
        (∀ rest, cs ≠ '+' :: rest) ∧ (∀ rest, cs ≠ '-' :: rest) ∧ ∃ n, parseUint cs = some n ∧ Int.ofNat n = port := by
  unfold parseSigned at h
  split at h <;> obtain ⟨n, hn, hport⟩ := Option.map_eq_some_iff.1 h
  · exact .inl ⟨_, n, rfl, hn, hport⟩
  · exact .inr (.inl ⟨_, n, rfl, hn, hport⟩)
  next hplus hminus => exact .inr (.inr ⟨hplus, hminus, n, hn, hport⟩)

theorem lookupPort_of_parseInt {service : String} {port : Int} (h : parseInt service = some port)
    (hrange : 1 ≤ port ∧ port ≤ 65535) : lookupPort net service = some port.toNat := by
  have hsigned : parseSigned service.toList = some port := (Option.filter_eq_some_iff.1 h).1
  have huint {cs : List Char} {n : Nat} (hcs : parseUint cs = some n) : readDigits 0 cs = some n := by
    cases cs with
    | nil => cases hcs
    | cons c cs => exact hcs
  have hport : parsePort service = some port := by
    unfold parsePort
    rcases parseSigned_cases hsigned with ⟨rest, n, hcs, hn, hport⟩ | ⟨rest, n, hcs, hn, hport⟩ | ⟨hplus, hminus, n, hn, hport⟩
    · rw [hcs]
      show (readDigits 0 rest).map Int.ofNat = some port
      rw [huint hn, ← hport]
      rfl
    · rw [hcs]
      show (readDigits 0 rest).map (fun n : Nat => -Int.ofNat n) = some port
      rw [huint hn, ← hport]
      rfl
    · split
      next rest hcs => exact absurd hcs (hplus rest)
      next rest hcs => exact absurd hcs (hminus rest)
      · rw [huint hn, ← hport]
        rfl
  rw [lookupPort, hport]
  exact if_pos ⟨by omega, hrange.2⟩

theorem tcpAddrs_joinHostPort (n : Nat) {ip : IP} {service : String} {port : Int} (hip : ip.isLoopback)
    (hservice : ':' ∉ service.toList ∧ '[' ∉ service.toList ∧ ']' ∉ service.toList)
    (hport : parseInt service = some port) (hrange : 1 ≤ port ∧ port ≤ 65535) :
    ∃ ip' : IP, ip'.isLoopback ∧ tcpAddrs net n (joinHostPort ip.string service) = .ok [⟨ip', port.toNat, ""⟩] := by
  obtain ⟨hbrackets, addr, hparse, hzone, hloopback⟩ := parseAddr_string_of_isLoopback hip
  have hnonempty : ip.string ≠ "" := by
    intro hempty
    rw [hempty] at hparse
    cases hparse
  refine ⟨IP.ofAddr addr, hloopback, ?_⟩
  simp only [tcpAddrs, splitHostPort_joinHostPort hbrackets hservice, lookupPort_of_parseInt net hport hrange,
    hnonempty, if_false, hparse]
  cases addr with
  | v4 bits => rfl
  | v6 bits zone =>
    have : zone = "" := by
      cases hzone
      rfl
    rw [this]

end Vraxel.Net
