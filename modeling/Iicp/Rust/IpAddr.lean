import Mathlib.Tactic

/-!
# Internet addresses

The address types of the standard library and its parser of address texts. A text is an IPv4 address
if it has four decimal octets without leading zeros, or an IPv6 address: eight groups of at most
four hexadecimal digits, of which one run may be left out with a double colon, and the last two
groups may be written as an IPv4 address. `parseIpAddr` accepts nothing before or after the address.
-/

namespace Iicp.Rust

structure Ipv4Addr where
  (a b c d : UInt8)
  deriving DecidableEq, Repr

/-- An IPv6 address: its eight segments. -/
structure Ipv6Addr where
  (s0 s1 s2 s3 s4 s5 s6 s7 : UInt16)
  deriving DecidableEq, Repr

inductive IpAddr where
  | v4 (address : Ipv4Addr)
  | v6 (address : Ipv6Addr)
  deriving DecidableEq, Repr

/-! ### Classes of addresses -/

namespace Ipv4Addr

variable (address : Ipv4Addr)

def isLoopback : Bool := address.a == 127

def isPrivate : Bool :=
  address.a == 10 || (address.a == 172 && 16 ≤ address.b && address.b ≤ 31) ||
    (address.a == 192 && address.b == 168)

def isLinkLocal : Bool := address.a == 169 && address.b == 254

def isBroadcast : Bool := address == ⟨255, 255, 255, 255⟩

def isUnspecified : Bool := address == ⟨0, 0, 0, 0⟩

def isMulticast : Bool := 224 ≤ address.a && address.a ≤ 239

end Ipv4Addr

namespace Ipv6Addr

variable (address : Ipv6Addr)

def isLoopback : Bool := address == ⟨0, 0, 0, 0, 0, 0, 0, 1⟩

def isMulticast : Bool := address.s0 &&& 0xff00 == 0xff00

def isUnspecified : Bool := address == ⟨0, 0, 0, 0, 0, 0, 0, 0⟩

def isUnicastLinkLocal : Bool := address.s0 &&& 0xffc0 == 0xfe80

def toIpv4Mapped : Option Ipv4Addr :=
  match address with
  | ⟨0, 0, 0, 0, 0, 0xffff, high, low⟩ =>
    some ⟨(high >>> 8).toUInt8, high.toUInt8, (low >>> 8).toUInt8, low.toUInt8⟩
  | _ => none

def ofSegments : List UInt16 → Option Ipv6Addr
  | [s0, s1, s2, s3, s4, s5, s6, s7] => some ⟨s0, s1, s2, s3, s4, s5, s6, s7⟩
  | _ => none

end Ipv6Addr

/-! ### Address texts -/

def digitValue (radix : ℕ) (char : Char) : Option ℕ :=
  let value :=
    if '0' ≤ char ∧ char ≤ '9' then some (char.toNat - '0'.toNat)
    else if 'a' ≤ char ∧ char ≤ 'z' then some (char.toNat - 'a'.toNat + 10)
    else if 'A' ≤ char ∧ char ≤ 'Z' then some (char.toNat - 'A'.toNat + 10)
    else none
  value.filter (· < radix)

def readNumber (radix maxDigits limit : ℕ) (allowZeroPrefix : Bool) (chars : List Char) :
    Option (ℕ × List Char) :=
  let digits := chars.takeWhile fun char ↦ (digitValue radix char).isSome
  let value := (digits.filterMap (digitValue radix)).foldl (fun total digit ↦ total * radix + digit) 0
  if digits = [] then none
  else if maxDigits < digits.length then none
  else if limit ≤ value then none
  else if !allowZeroPrefix && digits.head? == some '0' && 1 < digits.length then none
  else some (value, chars.drop digits.length)

def readGivenChar (char : Char) : List Char → Option (List Char)
  | first :: rest => if first = char then some rest else none
  | [] => none

/-- Skips the separator before every element but the first. -/
def readSeparator (separator : Char) (index : ℕ) (chars : List Char) : Option (List Char) :=
  if index = 0 then some chars else readGivenChar separator chars

def readIpv4Addr (chars : List Char) : Option (Ipv4Addr × List Char) := do
  let (a, chars) ← readNumber 10 3 256 false chars
  let (b, chars) ← readNumber 10 3 256 false (← readGivenChar '.' chars)
  let (c, chars) ← readNumber 10 3 256 false (← readGivenChar '.' chars)
  let (d, chars) ← readNumber 10 3 256 false (← readGivenChar '.' chars)
  some (⟨.ofNat a, .ofNat b, .ofNat c, .ofNat d⟩, chars)

def Ipv4Addr.segments (address : Ipv4Addr) : List UInt16 :=
  [address.a.toUInt16 <<< 8 ||| address.b.toUInt16, address.c.toUInt16 <<< 8 ||| address.d.toUInt16]

/-- Reads at most `left` groups, of which the first has the given index. An IPv4 address ends the
groups if two of them are left; the answer tells whether it did. -/
def readGroups : (left index : ℕ) → List Char → List UInt16 × Bool × List Char
  | 0, _, chars => ([], false, chars)
  | left + 1, index, chars =>
    match if left = 0 then none else (readSeparator ':' index chars).bind readIpv4Addr with
    | some (address, rest) => (address.segments, true, rest)
    | none =>
      match (readSeparator ':' index chars).bind (readNumber 16 4 (2 ^ 16) true) with
      | some (group, rest) =>
        let (groups, embedded, rest) := readGroups left (index + 1) rest
        (.ofNat group :: groups, embedded, rest)
      | none => ([], false, chars)

/-- Reads an IPv6 address. The double colon stands for one group of zeros at least. -/
def readIpv6Addr (chars : List Char) : Option (Ipv6Addr × List Char) := do
  let (head, embedded, chars) := readGroups 8 0 chars
  if head.length = 8 then return (← Ipv6Addr.ofSegments head, chars)
  if embedded then none
  let chars ← readGivenChar ':' (← readGivenChar ':' chars)
  let (tail, _, chars) := readGroups (7 - head.length) 0 chars
  let zeros := List.replicate (8 - head.length - tail.length) 0
  return (← Ipv6Addr.ofSegments (head ++ zeros ++ tail), chars)

def parseIpAddr (text : String) : Option IpAddr :=
  match readIpv4Addr text.toList with
  | some (address, rest) => if rest = [] then some (.v4 address) else none
  | none =>
    match readIpv6Addr text.toList with
    | some (address, rest) => if rest = [] then some (.v6 address) else none
    | none => none

example : parseIpAddr "93.184.216.34" = some (.v4 ⟨93, 184, 216, 34⟩) := by decide

example : parseIpAddr "::ffff:10.0.0.1" = some (.v6 ⟨0, 0, 0, 0, 0, 0xffff, 0x0a00, 1⟩) := by decide

example : parseIpAddr "010.0.0.1" = none := by decide

/-! ### Socket addresses -/

structure SocketAddr where
  ip : IpAddr
  port : UInt16
  deriving DecidableEq, Repr

/-- The place of a socket address in the order of the standard library: IPv4 first, then by address,
then by port. -/
def SocketAddr.rank (address : SocketAddr) : ℕ :=
  let port := address.port.toNat
  match address.ip with
  | .v4 ip => (((ip.a.toNat * 256 + ip.b.toNat) * 256 + ip.c.toNat) * 256 + ip.d.toNat) * 2 ^ 16 + port
  | .v6 ip =>
    let segments := [ip.s0, ip.s1, ip.s2, ip.s3, ip.s4, ip.s5, ip.s6, ip.s7]
    (segments.foldl (fun total segment ↦ total * 2 ^ 16 + segment.toNat) 1) * 2 ^ 16 + port

/-- The elements of an ordered set of socket addresses. -/
def SocketAddr.unique (addresses : List SocketAddr) : List SocketAddr :=
  addresses.dedup.insertionSort fun first second ↦ first.rank ≤ second.rank

@[simp] lemma SocketAddr.mem_unique {address : SocketAddr} {addresses : List SocketAddr} :
    address ∈ unique addresses ↔ address ∈ addresses := by
  rw [unique, List.mem_insertionSort, List.mem_dedup]

end Iicp.Rust
