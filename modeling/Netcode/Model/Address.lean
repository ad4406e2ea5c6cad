/-
**Addresses as text.**

`ParseAddress` and `String` of `address.go`. A Go string is the list of its bytes. `net/netip` enters
as a parameter: `parseAddr` gives an IPv4 or an IPv6 address (`Is6` holds for any with 16 bytes, also
IPv4-mapped ones), or an error. Only `String` needs more of it, `NetipText`: how it prints a 16 byte
address, and that it reads back what is printed.

The brackets of an IPv6 address are only looked at to strip them: what is left may be an IPv4 address
all the same.
-/

import Netcode.Lib.Decimal
import Netcode.Model.Basic

namespace Netcode

def maxAddressStringLength : Nat := 256

/-- What `netip.ParseAddr` returns; the zone of an IPv6 address is not looked at. -/
inductive NetipAddr where
  | ip4 (raw : FixedBytes 4)
  | ip6 (raw : FixedBytes 16)
  deriving DecidableEq

/-- The functions of `net/netip` that the code calls. -/
structure Netip where
  parseAddr : Bytes → Option NetipAddr

/-- The errors of `ParseAddress`, with the string they quote. -/
inductive AddressError where
  | invalidPort (addressString : Bytes)
  | failedToParse (addressString : Bytes)
  deriving DecidableEq

/-- The characters `ParseAddress` looks for. -/
def leftBracket : UInt8 := 91
def rightBracket : UInt8 := 93
def colon : UInt8 := 58

/-- The loop of `parsePort` over the digits. -/
def parsePortDigits : (value : Nat) → Bytes → Option Nat
  | value, [] => some value
  | value, digit :: rest =>
    if digit < 48 ∨ 57 < digit then none
    else if 65535 < value * 10 + (digit - 48).toNat then none
    else parsePortDigits (value * 10 + (digit - 48).toNat) rest

def parsePort (s : Bytes) : Option UInt16 :=
  if s.length = 0 then none else (parsePortDigits 0 s).map UInt16.ofNat

/-- The eight groups of the 16 bytes of an IPv6 address. -/
def groupsOf (raw : FixedBytes 16) : List.Vector UInt16 8 :=
  .ofFn fun i => (raw.bytes.getD (i * 2) 0).toUInt16 <<< 8 ||| (raw.bytes.getD (i * 2 + 1) 0).toUInt16

section Parse

variable (addressString s : Bytes)

/-- The search for a port from the end of `s`, for `steps` more characters, from the `i`-th one on.
It breaks off below the index `lowest`; where `isPort` holds, what follows is the port and is cut
off, with `before` more characters. -/
def cutPort (lowest before : Nat) (isPort : Nat → Bool) (port : UInt16) :
    (steps i : Nat) → Except AddressError (Bytes × UInt16)
  | 0, _ => .ok (s, port)
  | steps + 1, i =>
    let index := s.length - 1 - i
    if s.length < i + 1 + lowest then .ok (s, port)
    else if isPort index then
      match parsePort (s.drop (index + 1)) with
      | none => .error (.invalidPort addressString)
      | some port => .ok (s.take (index - before), port)
    else cutPort lowest before isPort port steps (i + 1)

/-- The port of "[addr]:port". -/
def cutBracketPort : Except AddressError (Bytes × UInt16) :=
  cutPort addressString s 3 1
    (fun index => s[index]? = some colon && s[index - 1]? = some rightBracket) 0 6 0

/-- The port of "addr:port", if there is one. -/
def cutPlainPort (port : UInt16) : Except AddressError (Bytes × UInt16) :=
  cutPort addressString s 0 0 (fun index => s[index]? = some colon) port 6 0

end Parse

/-- `strings.TrimSuffix(s, "]")`. -/
def trimBracket (s : Bytes) : Bytes :=
  if s.getLast? = some rightBracket then s.dropLast else s

/-- The part of `ParseAddress` for a string that starts with a bracket. -/
def stripBrackets (s : Bytes) : Except AddressError (Bytes × UInt16) := do
  let (stripped, port) ← cutBracketPort s s
  return ((trimBracket stripped).tail, port)

def parseAddress (netip : Netip) (addressString : Bytes) : Except AddressError Address := do
  let addressString := addressString.take (maxAddressStringLength - 1)
  let (s, port) ← (if addressString.head? = some leftBracket then stripBrackets addressString
    else .ok (addressString, 0))
  match netip.parseAddr s with
  | some (.ip6 raw) =>
    return { Address.none with type := AddressIPv6, ipv6 := groupsOf raw, port := port }
  | _ =>
    let (s, port) ← cutPlainPort addressString s port
    match netip.parseAddr s with
    | some (.ip4 raw) => return { Address.none with type := AddressIPv4, ipv4 := raw, port := port }
    | _ => .error (.failedToParse addressString)

/-! ### Printing -/

/-- The 16 bytes of an IPv6 address, as `toNetip` makes them of its groups. -/
def rawOf (groups : List.Vector UInt16 8) : FixedBytes 16 :=
  ⟨(groups.toList.map fun group : UInt16 => [(group >>> 8).toUInt8, group.toUInt8]).flatten, by
    rw [List.length_flatten, List.map_map]
    show (groups.toList.map fun _ => 2).sum = 16
    rw [List.map_const', List.sum_replicate, groups.toList_length]
    rfl⟩

def dot : UInt8 := 46

/-- `fmt.Sprintf("%d.%d.%d.%d", ...)` of the four bytes. -/
def dotted (ipv4 : FixedBytes 4) : Bytes :=
  [dot].intercalate (ipv4.bytes.map fun part => Decimal.text part.toNat)

/-- **What is assumed of `net/netip`.** `addrString` is `Addr.String` of a 16 byte address without a
zone. `ParseAddr` reads it back, and dotted decimals, but not a dotted decimal with a port; an
address prints as a short text without brackets, and not as the empty one. -/
structure NetipText extends Netip where
  addrString : FixedBytes 16 → Bytes
  parse_addrString : ∀ raw, parseAddr (addrString raw) = some (.ip6 raw)
  parse_dotted : ∀ ipv4, parseAddr (dotted ipv4) = some (.ip4 ipv4)
  parse_dotted_port : ∀ ipv4 (port : UInt16),
    parseAddr (dotted ipv4 ++ colon :: Decimal.text port.toNat) = none
  addrString_brackets : ∀ raw, leftBracket ∉ addrString raw ∧ rightBracket ∉ addrString raw
  addrString_short : ∀ raw, (addrString raw).length < 50
  addrString_ne_nil : ∀ raw, addrString raw ≠ []

/-- `String`; a zero port is left out. -/
def Address.string (netip : NetipText) (address : Address) : Bytes :=
  if address.type = AddressIPv6 then
    if address.port = 0 then netip.addrString (rawOf address.ipv6)
    else leftBracket :: netip.addrString (rawOf address.ipv6) ++
      rightBracket :: colon :: Decimal.text address.port.toNat
  else if address.type = AddressIPv4 then
    if address.port ≠ 0 then dotted address.ipv4 ++ colon :: Decimal.text address.port.toNat
    else dotted address.ipv4
  else [78, 79, 78, 69] -- "NONE"

end Netcode
