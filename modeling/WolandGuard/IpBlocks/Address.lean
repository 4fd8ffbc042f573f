import WolandGuard.Data.Values

/-!
# Addresses and networks

The part of the standard library's `ipaddress` that the block policy uses:
strict parsing of IPv4 and IPv6 texts, the canonical text of an address,
membership in a network and the special-purpose properties of an address.
-/

set_option autoImplicit false

namespace WolandGuard.IpBlocks

/-- A parsed address. Only IPv6 addresses may carry a scope. -/
inductive IpAddress where
  | v4 (value : BitVec 32)
  | v6 (value : BitVec 128) (scopeId : Option String)
  deriving DecidableEq, Repr

/-- A network by its base address and the length of its prefix. -/
inductive IpNetwork where
  | v4 (base : BitVec 32) (length : Nat)
  | v6 (base : BitVec 128) (length : Nat)
  deriving DecidableEq, Repr

/-- `address in network`. -/
def IpNetwork.contains : IpNetwork → IpAddress → Bool
  | .v4 base length, .v4 value => value >>> (32 - length) == base >>> (32 - length)
  | .v6 base length, .v6 value _ => value >>> (128 - length) == base >>> (128 - length)
  | _, _ => false

/-! ## Parsing -/

/-- The number that digits of a base spell. -/
def spelled (base : Nat) (digits : List Nat) : Nat :=
  digits.foldl (fun number digit => number * base + digit) 0

def hexValue (char : Char) : Option Nat :=
  if char.isDigit then some (char.toNat - '0'.toNat)
  else if 'a' ≤ char ∧ char ≤ 'f' then some (char.toNat - 'a'.toNat + 10)
  else if 'A' ≤ char ∧ char ≤ 'F' then some (char.toNat - 'A'.toNat + 10)
  else none

theorem isUpper_iff {c : Char} : c.isUpper = true ↔ 65 ≤ c.toNat ∧ c.toNat ≤ 90 := by
  change decide ('A'.val ≤ c.val ∧ c.val ≤ 'Z'.val) = true ↔ _
  simp [UInt32.le_iff_toNat_le]

/-- `_parse_octet`: up to three digits without a leading zero. -/
def parseOctet (chars : List Char) : Option Nat :=
  if chars = [] ∨ chars.any (!·.isDigit) ∨ 3 < chars.length then none
  else if chars ≠ ['0'] ∧ chars.head? = some '0' then none
  else
    let number := spelled 10 (chars.map fun char => char.toNat - '0'.toNat)
    if 255 < number then none else some number

/-- `IPv4Address`. -/
def parseIPv4 (chars : List Char) : Option (BitVec 32) :=
  let octets := chars.splitOn '.'
  if octets.length ≠ 4 then none
  else (octets.mapM parseOctet).map fun values => BitVec.ofNat 32 (spelled 256 values)

/-- `_parse_hextet`. -/
def parseHextet (chars : List Char) : Option Nat :=
  if chars = [] ∨ 4 < chars.length then none else (chars.mapM hexValue).map (spelled 16)

/-- The text of a number in lower-case hexadecimal. -/
def hexNumber (number : Nat) : List Char := Nat.toDigits 16 number

/-- An IPv4 suffix becomes two hexadecimal parts. -/
def expandSuffix (parts : List (List Char)) : Option (List (List Char)) :=
  match parts.getLast? with
  | none => some parts
  | some last =>
      if '.' ∈ last then
        (parseIPv4 last).map fun value =>
          parts.dropLast ++ [hexNumber (value.toNat / 65536), hexNumber (value.toNat % 65536)]
      else some parts

/-- The places of empty parts other than the first and the last. -/
def skipPlaces (parts : List (List Char)) : List Nat :=
  (List.range parts.length).filter fun place =>
    0 < place && place + 1 < parts.length && parts.getD place [] == []

/-- The eight hextets that the parts stand for. -/
def hextetsOf (parts : List (List Char)) : Option (List Nat) :=
  match skipPlaces parts with
  | [] => if parts.length = 8 then parts.mapM parseHextet else none
  | [skip] =>
      let before := parts.take skip
      let after := parts.drop (skip + 1)
      -- an empty end is allowed next to the double colon only
      if before.head? = some [] ∧ before ≠ [[]] ∨ after.getLast? = some [] ∧ after ≠ [[]] then none
      else
        let high := before.filter (· ≠ [])
        let low := after.filter (· ≠ [])
        if 8 ≤ high.length + low.length then none
        else do
          let highValues ← high.mapM parseHextet
          let lowValues ← low.mapM parseHextet
          some (highValues ++ List.replicate (8 - (high.length + low.length)) 0 ++ lowValues)
  | _ => none

/-- `IPv6Address` without a scope. -/
def parseIPv6 (chars : List Char) : Option (BitVec 128) :=
  let split := chars.splitOn ':'
  if split.length < 3 then none
  else do
    let parts ← expandSuffix split
    if 9 < parts.length then none
    else (hextetsOf parts).map fun values => BitVec.ofNat 128 (spelled 65536 values)

/-- `ip_address`. -/
def parseAddress (text : String) : Option IpAddress :=
  match parseIPv4 text.toList with
  | some value => some (.v4 value)
  | none =>
      if '/' ∈ text.toList then none
      else
        match text.toList.splitOn '%' with
        | [address] => (parseIPv6 address).map fun value => .v6 value none
        | [address, scope] =>
            if scope = [] then none
            else (parseIPv6 address).map fun value => .v6 value (some (String.ofList scope))
        | _ => none

/-! ## Text -/

/-- The longest run of zeros, the first of them: where it starts and how long
it is. -/
def longestZeroRun : List Nat → Nat → Nat × Nat → Nat × Nat → Nat × Nat
  | [], _, _, best => best
  | hextet :: rest, place, (start, length), best =>
      if hextet = 0 then
        let start := if length = 0 then place else start
        let run := (start, length + 1)
        longestZeroRun rest (place + 1) run (if best.2 < length + 1 then run else best)
      else longestZeroRun rest (place + 1) (0, 0) best

def joinHextets (hextets : List Nat) : String :=
  ":".intercalate (hextets.map fun hextet => String.ofList (hexNumber hextet))

/-- `_string_from_ip_int` of an IPv6 address. -/
def ipv6Text (value : BitVec 128) : String :=
  let hextets := (List.range 8).map fun place => value.toNat / 65536 ^ (7 - place) % 65536
  let (start, length) := longestZeroRun hextets 0 (0, 0) (0, 0)
  if 1 < length then
    joinHextets (hextets.take start) ++ "::" ++ joinHextets (hextets.drop (start + length))
  else joinHextets hextets

/-- `str(address)`. -/
def IpAddress.text : IpAddress → String
  | .v4 value =>
      ".".intercalate ((List.range 4).map fun place =>
        toString (value.toNat / 256 ^ (3 - place) % 256))
  | .v6 value scopeId => ipv6Text value ++ scopeId.elim "" ("%" ++ ·)

example : (parseAddress "2001:DB8:0:0:1::192.0.2.1").map IpAddress.text =
    some "2001:db8::1:0:c000:201" := by decide +kernel

example : parseAddress "203.0.113.07" = none := by decide +kernel

/-! ## Properties

Of addresses that are not IPv4-mapped; the policy rejects those first. -/

/-- `is_loopback`. -/
def IpAddress.isLoopback : IpAddress → Bool
  | .v4 value => (IpNetwork.v4 0x7f000000 8).contains (.v4 value)
  | .v6 value _ => value == 1

/-- `is_link_local`. -/
def IpAddress.isLinkLocal (address : IpAddress) : Bool :=
  (IpNetwork.v4 0xa9fe0000 16).contains address ||
    (IpNetwork.v6 (0xfe80 <<< 112) 10).contains address

/-- `is_multicast`. -/
def IpAddress.isMulticast (address : IpAddress) : Bool :=
  (IpNetwork.v4 0xe0000000 4).contains address || (IpNetwork.v6 (0xff00 <<< 112) 8).contains address

/-- `is_unspecified`. -/
def IpAddress.isUnspecified : IpAddress → Bool
  | .v4 value => value == 0
  | .v6 value _ => value == 0

/-- The networks of `is_reserved`. -/
def reservedNetworks : List IpNetwork :=
  [.v4 0xf0000000 4,
    .v6 0 8, .v6 (0x0100 <<< 112) 8, .v6 (0x0200 <<< 112) 7, .v6 (0x0400 <<< 112) 6,
    .v6 (0x0800 <<< 112) 5, .v6 (0x1000 <<< 112) 4, .v6 (0x4000 <<< 112) 3,
    .v6 (0x6000 <<< 112) 3, .v6 (0x8000 <<< 112) 3, .v6 (0xa000 <<< 112) 3,
    .v6 (0xc000 <<< 112) 3, .v6 (0xe000 <<< 112) 4, .v6 (0xf000 <<< 112) 5,
    .v6 (0xf800 <<< 112) 6, .v6 (0xfe00 <<< 112) 9]

/-- `is_reserved`. -/
def IpAddress.isReserved (address : IpAddress) : Bool :=
  reservedNetworks.any (·.contains address)

/-- The networks of `is_private`. -/
def privateNetworks : List IpNetwork :=
  [.v4 0 8, .v4 0x0a000000 8, .v4 0x7f000000 8, .v4 0xa9fe0000 16, .v4 0xac100000 12,
    .v4 0xc0000000 24, .v4 0xc00000aa 31, .v4 0xc0000200 24, .v4 0xc0a80000 16,
    .v4 0xc6120000 15, .v4 0xc6336400 24, .v4 0xcb007100 24, .v4 0xf0000000 4,
    .v4 0xffffffff 32,
    .v6 1 128, .v6 0 128, .v6 (0xffff <<< 32) 96, .v6 (0x0064ff9b0001 <<< 80) 48,
    .v6 (0x0100 <<< 112) 64, .v6 (0x2001 <<< 112) 23, .v6 (0x20010db8 <<< 96) 32,
    .v6 (0x2002 <<< 112) 16, .v6 (0xfc00 <<< 112) 7, .v6 (0xfe80 <<< 112) 10]

/-- The exceptions of `is_private`. -/
def publicExceptions : List IpNetwork :=
  [.v4 0xc0000009 32, .v4 0xc000000a 32,
    .v6 (0x20010001 <<< 96 ||| 1) 128, .v6 (0x20010001 <<< 96 ||| 2) 128,
    .v6 (0x20010003 <<< 96) 32, .v6 (0x200100040112 <<< 80) 48, .v6 (0x20010020 <<< 96) 28,
    .v6 (0x20010030 <<< 96) 28]

/-- `is_private`. -/
def IpAddress.isPrivate (address : IpAddress) : Bool :=
  privateNetworks.any (·.contains address) && !publicExceptions.any (·.contains address)

/-- `address.ipv4_mapped is not None`. -/
def IpAddress.isIPv4Mapped : IpAddress → Bool
  | .v4 _ => false
  | .v6 value _ => value >>> 32 == 0xffff

end WolandGuard.IpBlocks
