import Vraxel.Go.Net
import Vraxel.Go.Strings
/-
  The parts of `net/netip` and `net` for client addresses: `netip.Addr` with `ParseAddr`
  and `String`, `netip.Prefix` with `ParsePrefix`, `PrefixFrom` and `Contains`, and
  `net.SplitHostPort`.

  An IPv4 address is no IPv6 address, not even as `::ffff:a.b.c.d`: a prefix contains only addresses
  of its own length, and none with a zone.
-/

namespace Vraxel.Netip

open Strings

inductive Addr where
  | v4 (bits : BitVec 32)
  | v6 (bits : BitVec 128) (zone : String)
  deriving DecidableEq

namespace Addr

def bitLen : Addr → Nat
  | v4 _ => 32
  | v6 _ _ => 128

def withoutZone : Addr → Addr
  | v4 bits => v4 bits
  | v6 bits _ => v6 bits ""

end Addr

variable (cs : List Char)

def octet : Option Nat := if Net.ipv4Field cs then Strconv.parseUint cs else none

def parseIPv4 : Option (List Nat) :=
  let fields := cs.splitOn '.'
  if fields.length = 4 then fields.mapM octet else none

def ofDigits (base : Nat) (ds : List Nat) : Nat := ds.foldl (fun n d => base * n + d) 0

def hexVal (c : Char) : Nat :=
  if c.isDigit then c.toNat - '0'.toNat else if 'a' ≤ c then c.toNat - 'a'.toNat + 10 else c.toNat - 'A'.toNat + 10

/-- The groups of a part of an IPv6 address; `v4` allows an IPv4 address at its end. -/
def parseGroups (v4 : Bool) : List (List Char) → Option (List Nat)
  | [] => some []
  | [g] =>
    if Net.ipv6Group g then some [ofDigits 16 (g.map hexVal)]
    else if v4 then (parseIPv4 g).map fun b => [ofDigits 256 (b.take 2), ofDigits 256 (b.drop 2)]
    else none
  | g :: gs => if Net.ipv6Group g then (parseGroups v4 gs).map (ofDigits 16 (g.map hexVal) :: ·) else none

def parseIPv6 : Option (List Nat) :=
  let side (v4 : Bool) (cs : List Char) : Option (List Nat) := if cs = [] then some [] else parseGroups v4 (cs.splitOn ':')
  match Net.cutEllipsis cs with
  | none => (side true cs).filter fun gs => gs.length = 8
  | some (before, after) =>
    match side false before, side true after with
    | some gs, some gs' =>
      if gs.length + gs'.length < 8 then some (gs ++ List.replicate (8 - gs.length - gs'.length) 0 ++ gs') else none
    | _, _ => none

/-- `netip.ParseAddr`; `none` is an error. The first of these characters decides which kind it is. -/
def parseAddr (s : String) : Option Addr :=
  let cs := s.toList
  match cs.find? fun c => c = '.' || c = ':' || c = '%' with
  | some '.' => (parseIPv4 cs).map fun b => .v4 (BitVec.ofNat 32 (ofDigits 256 b))
  | some ':' =>
    match cutAt '%' cs with
    | some (_, []) => none
    | some (addr, zone) => (parseIPv6 addr).map fun gs => .v6 (BitVec.ofNat 128 (ofDigits 65536 gs)) (String.ofList zone)
    | none => (parseIPv6 cs).map fun gs => .v6 (BitVec.ofNat 128 (ofDigits 65536 gs)) ""
  | _ => none

def dotted (bits : Nat) : String :=
  join ([24, 16, 8, 0].map fun i => toString (bits >>> i % 256)) "."

def longestZeros (gs : List Nat) : Nat × Nat :=
  (List.range 8).foldl (fun best i =>
    let n := ((gs.drop i).takeWhile (· = 0)).length
    if 2 ≤ n ∧ best.2 < n then (i, n) else best) (0, 0)

def hexGroups (gs : List Nat) : String := join (gs.map fun g => String.ofList (Nat.toDigits 16 g)) ":"

def Addr.string : Addr → String
  | .v4 bits => dotted bits.toNat
  | .v6 bits zone =>
    let gs := (List.range 8).map fun i => bits.toNat >>> (112 - 16 * i) % 65536
    let text :=
      if bits.toNat >>> 32 = 0xffff then "::ffff:" ++ dotted bits.toNat
      else
        let (i, n) := longestZeros gs
        if n = 0 then hexGroups gs else hexGroups (gs.take i) ++ "::" ++ hexGroups (gs.drop (i + n))
    if zone = "" then text else text ++ "%" ++ zone

structure Prefix where
  addr : Addr
  bits : Nat
  valid : bits ≤ addr.bitLen
  deriving DecidableEq

def prefixFrom (addr : Addr) (bits : Nat) (h : bits ≤ addr.bitLen) : Prefix :=
  ⟨addr.withoutZone, bits, by cases addr <;> exact h⟩

def parseBits : Option Nat :=
  if 1 < cs.length && cs.head? = some '0' then none else Strconv.parseUint cs

/-- `netip.ParsePrefix`: the part after the last slash is the length. -/
def parsePrefix (s : String) : Option Prefix :=
  match cutAt '/' s.toList.reverse with
  | none => none
  | some (bits, addr) =>
    match parseAddr (String.ofList addr.reverse), parseBits bits.reverse with
    | some a, some n => if h : a.withoutZone = a ∧ n ≤ a.bitLen then some (prefixFrom a n h.2) else none
    | _, _ => none

def Prefix.contains (p : Prefix) (ip : Addr) : Bool :=
  match p.addr, ip with
  | .v4 a, .v4 b => (a ^^^ b) >>> (32 - p.bits) = 0
  | .v6 a _, .v6 b zone => zone = "" && (a ^^^ b) >>> (128 - p.bits) = 0
  | _, _ => false

def splitHostPort (hostport : String) : Option (String × String) :=
  -- the port starts after the last colon
  match cutAt ':' hostport.toList.reverse with
  | none => none
  | some (port, before) =>
    let port := port.reverse
    let host := before.reverse
    match host with
    | '[' :: inner =>
      -- the first closing bracket ends the host, and no other bracket follows
      match cutAt ']' inner with
      | some (name, []) =>
        if '[' ∈ name ∨ '[' ∈ port ∨ ']' ∈ port then none else some (String.ofList name, String.ofList port)
      | _ => none
    | _ =>
      if ':' ∈ host ∨ '[' ∈ host ++ port ∨ ']' ∈ host ++ port then none
      else some (String.ofList host, String.ofList port)

end Vraxel.Netip
