import Mathlib.Data.List.Basic

/-!
# IP addresses and their texts

The textual forms of `core::net`. A dotted IPv4 address has four decimal octets without
leading zeros. An IPv6 address has eight hexadecimal groups, of which one run of zero groups
may be left out; its last two groups may be written as an IPv4 address. A reader takes what
it accepts off the front of a text and leaves the rest, or accepts nothing.
-/

namespace Encoding

/-! ## Numbers -/

/-- `char::to_digit`. -/
def toDigit (radix : Nat) (letter : Char) : Option Nat :=
  let digit :=
    if '0' ≤ letter ∧ letter ≤ '9' then some (letter.toNat - '0'.toNat)
    else if 'a' ≤ letter ∧ letter ≤ 'z' then some (letter.toNat - 'a'.toNat + 10)
    else if 'A' ≤ letter ∧ letter ≤ 'Z' then some (letter.toNat - 'A'.toNat + 10)
    else none
  digit.filter (· < radix)

/-- What a reader accepts and what it leaves. -/
abbrev Reader (α : Type) := List Char → Option (α × List Char)

/-- The loop of `read_number`: the digits that come next, at most so many. -/
def scanDigits (radix maxDigits : Nat) :
    (value count : Nat) → List Char → Option (Nat × Nat × List Char)
  | value, count, [] => some (value, count, [])
  | value, count, letter :: rest =>
    match toDigit radix letter with
    | none => some (value, count, letter :: rest)
    | some digit =>
      if maxDigits < count + 1 then none
      else scanDigits radix maxDigits (value * radix + digit) (count + 1) rest

/-- `read_number`, for a number below `bound`. -/
def readNumber (radix maxDigits bound : Nat) (allowZeroPrefix : Bool) : Reader Nat := fun text =>
  match scanDigits radix maxDigits 0 0 text with
  | none => none
  | some (value, count, rest) =>
    if count = 0 then none
    else if !allowZeroPrefix && text.head? = some '0' && 1 < count then none
    else if value < bound then some (value, rest)
    else none

/-- `read_separator`: every element but the first comes behind a separator. -/
def readSeparator {α : Type} (separator : Char) (index : Nat) (inner : Reader α) : Reader α :=
  fun text =>
    if 0 < index then
      match text with
      | letter :: rest => if letter = separator then inner rest else none
      | [] => none
    else inner text

/-! ## Addresses -/

/-- Four octets, most significant first. -/
structure Ipv4Addr where
  a : UInt8
  b : UInt8
  c : UInt8
  d : UInt8
  deriving DecidableEq, Repr

/-- Eight groups of 16 bits, most significant first. -/
structure Ipv6Addr where
  segments : List UInt16
  counted : segments.length = 8
  deriving DecidableEq, Repr

/-- An address of either family. -/
inductive IpAddr where
  | v4 (address : Ipv4Addr)
  | v6 (address : Ipv6Addr)
  deriving DecidableEq, Repr

/-- `Ipv4Addr::is_unspecified`. -/
def Ipv4Addr.isUnspecified (address : Ipv4Addr) : Bool := address = ⟨0, 0, 0, 0⟩

/-- `Ipv4Addr::is_multicast`. -/
def Ipv4Addr.isMulticast (address : Ipv4Addr) : Bool := 224 ≤ address.a ∧ address.a ≤ 239

/-- `Ipv6Addr::is_unspecified`. -/
def Ipv6Addr.isUnspecified (address : Ipv6Addr) : Bool :=
  address.segments = List.replicate 8 0

/-- `Ipv6Addr::is_multicast`. -/
def Ipv6Addr.isMulticast (address : Ipv6Addr) : Bool :=
  address.segments.head?.any fun segment => segment &&& 0xff00 = 0xff00

/-- `IpAddr::is_unspecified`. -/
def IpAddr.isUnspecified : IpAddr → Bool
  | .v4 address => address.isUnspecified
  | .v6 address => address.isUnspecified

/-- `IpAddr::is_multicast`. -/
def IpAddr.isMulticast : IpAddr → Bool
  | .v4 address => address.isMulticast
  | .v6 address => address.isMulticast

/-- The group whose bytes these are. -/
def groupOf (high low : UInt8) : UInt16 := UInt16.ofNat (high.toNat * 256 + low.toNat)

/-- `Ipv4Addr::to_ipv6_mapped`. -/
def Ipv4Addr.toIpv6Mapped (address : Ipv4Addr) : Ipv6Addr where
  segments := [0, 0, 0, 0, 0, 0xffff, groupOf address.a address.b, groupOf address.c address.d]
  counted := rfl

/-- `Ipv6Addr::to_ipv4_mapped`. -/
def Ipv6Addr.toIpv4Mapped (address : Ipv6Addr) : Option Ipv4Addr :=
  match address.segments with
  | [0, 0, 0, 0, 0, 0xffff, ab, cd] =>
    some ⟨(ab >>> 8).toUInt8, ab.toUInt8, (cd >>> 8).toUInt8, cd.toUInt8⟩
  | _ => none

/-! ## Reading -/

/-- `read_ipv4_addr`. A leading zero would suggest octal numbers. -/
def readIpv4Addr : Reader Ipv4Addr := fun text => do
  let octet := readNumber 10 3 256 false
  let (a, text) ← readSeparator '.' 0 octet text
  let (b, text) ← readSeparator '.' 1 octet text
  let (c, text) ← readSeparator '.' 2 octet text
  let (d, text) ← readSeparator '.' 3 octet text
  return (⟨.ofNat a, .ofNat b, .ofNat c, .ofNat d⟩, text)

/-- The loop of `read_groups`: the groups read, whether an IPv4 address ended them, and the
rest. -/
def readGroupsFrom (limit : Nat) :
    (rounds : Nat) → List UInt16 → List Char → List UInt16 × Bool × List Char
  | 0, groups, text => (groups, false, text)
  | rounds + 1, groups, text =>
    let index := groups.length
    let embedded :=
      if index + 1 < limit then readSeparator ':' index readIpv4Addr text else none
    match embedded with
    | some (address, rest) =>
      (groups ++ [groupOf address.a address.b, groupOf address.c address.d], true, rest)
    | none =>
      match readSeparator ':' index (readNumber 16 4 65536 true) text with
      | some (group, rest) => readGroupsFrom limit rounds (groups ++ [.ofNat group]) rest
      | none => (groups, false, text)

/-- `read_groups`, for at most `limit` groups. -/
def readGroups (limit : Nat) (text : List Char) : List UInt16 × Bool × List Char :=
  readGroupsFrom limit limit [] text

/-- The address of these groups, if there are eight. -/
def Ipv6Addr.ofGroups (groups : List UInt16) : Option Ipv6Addr :=
  if counted : groups.length = 8 then some ⟨groups, counted⟩ else none

/-- `read_ipv6_addr`. What `::` leaves out is at least one group. -/
def readIpv6Addr : Reader Ipv6Addr := fun text =>
  let (head, embedded, behind) := readGroups 8 text
  if head.length = 8 then (Ipv6Addr.ofGroups head).map fun address => (address, behind)
  else if embedded then none
  else
    match behind with
    | ':' :: ':' :: behind =>
      let (tail, _, rest) := readGroups (8 - (head.length + 1)) behind
      let zeroes := List.replicate (8 - head.length - tail.length) 0
      (Ipv6Addr.ofGroups (head ++ zeroes ++ tail)).map fun address => (address, rest)
    | _ => none

/-- `read_ip_addr`. -/
def readIpAddr : Reader IpAddr := fun text =>
  match readIpv4Addr text with
  | some (address, rest) => some (.v4 address, rest)
  | none => (readIpv6Addr text).map fun (address, rest) => (.v6 address, rest)

/-- `IpAddr::from_str`: nothing may be left. -/
def parseIpAddr (text : List Char) : Option IpAddr :=
  match readIpAddr text with
  | some (address, []) => some address
  | _ => none

/-! ## Printing -/

/-- The parts with the separator between them. -/
def joinWith (separator : Char) : List (List Char) → List Char
  | [] => []
  | [part] => part
  | part :: parts => part ++ separator :: joinWith separator parts

/-- `Ipv4Addr::fmt`. -/
def Ipv4Addr.toText (address : Ipv4Addr) : List Char :=
  joinWith '.' ([address.a, address.b, address.c, address.d].map fun octet =>
    Nat.toDigits 10 octet.toNat)

/-- Some groups in a row: the place of the first and how many they are. -/
structure Span where
  start : Nat
  length : Nat
  deriving DecidableEq, Repr

/-- The loop of `Ipv6Addr::fmt` that finds the longest run of zero groups, the first one of
several. -/
def longestZeroes : (index : Nat) → (current longest : Span) → List UInt16 → Span
  | _, _, longest, [] => longest
  | index, current, longest, segment :: rest =>
    if segment = 0 then
      let start := if current.length = 0 then index else current.start
      let current := ⟨start, current.length + 1⟩
      let longest := if longest.length < current.length then current else longest
      longestZeroes (index + 1) current longest rest
    else longestZeroes (index + 1) ⟨0, 0⟩ longest rest

/-- `fmt_subslice`. -/
def groupsText (segments : List UInt16) : List Char :=
  joinWith ':' (segments.map fun segment => Nat.toDigits 16 segment.toNat)

/-- `Ipv6Addr::fmt`. -/
def Ipv6Addr.toText (address : Ipv6Addr) : List Char :=
  match address.toIpv4Mapped with
  | some ipv4 => "::ffff:".toList ++ ipv4.toText
  | none =>
    let zeroes := longestZeroes 0 ⟨0, 0⟩ ⟨0, 0⟩ address.segments
    if 1 < zeroes.length then
      groupsText (address.segments.take zeroes.start) ++ "::".toList ++
        groupsText (address.segments.drop (zeroes.start + zeroes.length))
    else groupsText address.segments

/-- `IpAddr::fmt`. -/
def IpAddr.toText : IpAddr → List Char
  | .v4 address => address.toText
  | .v6 address => address.toText

end Encoding
