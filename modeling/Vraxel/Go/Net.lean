import Vraxel.Go.Strconv
/-
  `net.ParseIP`, as far as the server uses it: whether a text is an IP address.

  An IPv4 address is four decimal fields up to 255 without leading zeros. An IPv6 address is eight
  groups of one to four hexadecimal digits; one `::` may stand for one or more groups of zeros, and
  the last two groups may be written as an IPv4 address.
-/

namespace Vraxel.Net

variable (cs : List Char)

def ipv4Field : Bool :=
  match Strconv.parseUint cs with
  | some n => n ≤ 255 && (cs.length = 1 || cs.head? ≠ some '0')
  | none => false

def isIPv4 : Bool :=
  let fields := cs.splitOn '.'
  fields.length = 4 && fields.all ipv4Field

def isHexDigit (c : Char) : Bool :=
  c.isDigit || ('a' ≤ c && c ≤ 'f') || ('A' ≤ c && c ≤ 'F')

def ipv6Group : Bool := 1 ≤ cs.length && cs.length ≤ 4 && cs.all isHexDigit

/-- The number of groups of a part of an address; `v4` allows an IPv4 address at its end. -/
def countGroups (v4 : Bool) : List (List Char) → Option Nat
  | [] => some 0
  | [g] => if ipv6Group g then some 1 else if v4 && isIPv4 g then some 2 else none
  | g :: gs => if ipv6Group g then (countGroups v4 gs).map (· + 1) else none

def cutEllipsis : List Char → Option (List Char × List Char)
  | ':' :: ':' :: cs => some ([], cs)
  | c :: cs => (cutEllipsis cs).map fun p => (c :: p.1, p.2)
  | [] => none

def isIPv6 : Bool :=
  let side (v4 : Bool) (cs : List Char) : Option Nat :=
    if cs = [] then some 0 else countGroups v4 (cs.splitOn ':')
  match cutEllipsis cs with
  | none => side true cs = some 8
  | some (before, after) =>
    match side false before, side true after with
    | some a, some b => a + b < 8
    | _, _ => false

def parseIP (s : String) : Bool :=
  let cs := s.toList
  if ':' ∈ cs then isIPv6 cs else isIPv4 cs

end Vraxel.Net
