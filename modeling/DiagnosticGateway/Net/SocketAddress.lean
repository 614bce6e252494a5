import DiagnosticGateway.Text.Numeral
import DiagnosticGateway.Text.Scan

/-! # Socket addresses

The text of an address and a port. A version 4 address is four decimal octets without leading
zeros. A version 6 address is eight hexadecimal groups in brackets, perhaps with a scope; the
longest run of two or more zero groups, the first of several, is written as `::`, and an embedded
version 4 address in dotted form. Reading also takes other spellings of a version 6 address, and
leading zeros in a port. A flow label has no written form.
-/

namespace DiagnosticGateway.Net

/-- A version 4 address. -/
structure Ipv4 where
  a : UInt8
  b : UInt8
  c : UInt8
  d : UInt8
deriving Repr, DecidableEq

/-- A version 6 address: eight groups of sixteen bits. -/
structure Ipv6 where
  groups : List UInt16
  length_eq : groups.length = 8
deriving DecidableEq

/-- An address with a port. -/
inductive SocketAddress where
  | v4 (host : Ipv4) (port : UInt16)
  /-- A version 6 address, with its flow label and its scope. -/
  | v6 (host : Ipv6) (flowLabel scope : UInt32) (port : UInt16)
deriving DecidableEq

/-! ### Writing -/

def decimal (n : Nat) : List Char := Nat.toDigits 10 n

/-- Four decimal octets. -/
def Ipv4.text (ip : Ipv4) : List Char :=
  decimal ip.a.toNat ++ '.' :: decimal ip.b.toNat ++ '.' :: decimal ip.c.toNat
    ++ '.' :: decimal ip.d.toNat

/-- Groups in hexadecimal, with colons between them. -/
def groupsText : List UInt16 → List Char
  | [] => []
  | [g] => Nat.toDigits 16 g.toNat
  | g :: rest => Nat.toDigits 16 g.toNat ++ ':' :: groupsText rest

/-- The number of zero groups at the start. -/
def leadingZeros (groups : List UInt16) : Nat := (groups.takeWhile (· == 0)).length

/-- Where the longest run of zero groups starts, and how long it is. Of several the first wins. -/
def longestZeros : List UInt16 → Nat × Nat
  | [] => (0, 0)
  | g :: rest =>
    let (start, length) := longestZeros rest
    let here := leadingZeros (g :: rest)
    if length ≤ here then (0, here) else (start + 1, length)

/-- The version 4 address embedded in a version 6 address. -/
def Ipv6.mapped? (ip : Ipv6) : Option Ipv4 :=
  match ip.groups with
  | [0, 0, 0, 0, 0, 0xFFFF, hi, lo] =>
    some ⟨.ofNat (hi.toNat / 256), .ofNat (hi.toNat % 256),
      .ofNat (lo.toNat / 256), .ofNat (lo.toNat % 256)⟩
  | _ => none

/-- The shortest form of the eight groups. -/
def Ipv6.text (ip : Ipv6) : List Char :=
  match ip.mapped? with
  | some v4 => [':', ':', 'f', 'f', 'f', 'f', ':'] ++ v4.text
  | none =>
    let (start, length) := longestZeros ip.groups
    if 1 < length then
      groupsText (ip.groups.take start)
        ++ ':' :: ':' :: groupsText (ip.groups.drop (start + length))
    else groupsText ip.groups

/-- The text of a scope; scope zero has none. -/
def scopeText (scope : UInt32) : List Char :=
  if scope = 0 then [] else '%' :: decimal scope.toNat

/-- The text of an address and a port. -/
def SocketAddress.text : SocketAddress → List Char
  | .v4 host port => host.text ++ ':' :: decimal port.toNat
  | .v6 host _ scope port =>
    '[' :: host.text ++ scopeText scope ++ ']' :: ':' :: decimal port.toNat

/-! ### Reading -/

/-- Takes the digits of the radix at the front: at most `maxDigits` of them, without a leading
zero unless that is allowed, and with a value of at most `bound`. -/
def number? (radix bound : Nat) (maxDigits : Option Nat) (leadingZero : Bool) (cs : List Char) :
    Option (Nat × List Char) := do
  let isDigit := fun c => (Numeral.digit? radix c).isSome
  let digits := cs.takeWhile isDigit
  let value ← Numeral.plain? radix digits
  guard (maxDigits.all (digits.length ≤ ·))
  guard (leadingZero || digits.length ≤ 1 || digits.head? != some '0')
  guard (value ≤ bound)
  return (value, cs.dropWhile isDigit)

def octet? (cs : List Char) : Option (UInt8 × List Char) := do
  let (n, rest) ← number? 10 255 (some 3) false cs
  return (.ofNat n, rest)

def ipv4? (cs : List Char) : Option (Ipv4 × List Char) := do
  let (a, cs) ← octet? cs
  let (b, cs) ← octet? (← Scan.char? '.' cs)
  let (c, cs) ← octet? (← Scan.char? '.' cs)
  let (d, cs) ← octet? (← Scan.char? '.' cs)
  return (⟨a, b, c, d⟩, cs)

def group? (cs : List Char) : Option (UInt16 × List Char) := do
  let (n, rest) ← number? 16 0xFFFF (some 4) true cs
  return (.ofNat n, rest)

/-- Takes a colon, unless at the start of a list. -/
def colon? (first : Bool) (cs : List Char) : Option (List Char) :=
  if first then some cs else Scan.char? ':' cs

/-- The groups at the front of a text. -/
structure Groups where
  groups : List UInt16
  /-- Whether the last two groups were written as a version 4 address. -/
  dotted : Bool
  rest : List Char

/-- Takes at most `n` groups with colons between them. A version 4 address counts as two groups
and ends the list. -/
def groups (first : Bool) : Nat → List Char → Groups
  | 0, cs => ⟨[], false, cs⟩
  | n + 1, cs =>
    match if n = 0 then none else colon? first cs >>= ipv4? with
    | some (ip, rest) =>
      ⟨[.ofNat (256 * ip.a.toNat + ip.b.toNat), .ofNat (256 * ip.c.toNat + ip.d.toNat)],
        true, rest⟩
    | none =>
      match colon? first cs >>= group? with
      | some (g, rest) =>
        let more := groups false n rest
        ⟨g :: more.groups, more.dotted, more.rest⟩
      | none => ⟨[], false, cs⟩

/-- The version 6 address of these groups, if there are eight. -/
def Ipv6.ofGroups? (groups : List UInt16) : Option Ipv6 :=
  if h : groups.length = 8 then some ⟨groups, h⟩ else none

def ipv6? (cs : List Char) : Option (Ipv6 × List Char) := do
  let front := groups true 8 cs
  if front.groups.length = 8 then
    return (← Ipv6.ofGroups? front.groups, front.rest)
  guard (!front.dotted)
  let cs ← Scan.char? ':' (← Scan.char? ':' front.rest)
  -- The two colons stand for one group at least.
  let back := groups true (7 - front.groups.length) cs
  let zeros := List.replicate (8 - front.groups.length - back.groups.length) 0
  return (← Ipv6.ofGroups? (front.groups ++ zeros ++ back.groups), back.rest)

def port? (cs : List Char) : Option (UInt16 × List Char) := do
  let (n, rest) ← number? 10 0xFFFF none true (← Scan.char? ':' cs)
  return (.ofNat n, rest)

/-- Takes a percent sign and a scope, if they are there. -/
def scope (cs : List Char) : UInt32 × List Char :=
  match Scan.char? '%' cs >>= number? 10 0xFFFFFFFF none true with
  | some (n, rest) => (.ofNat n, rest)
  | none => (0, cs)

/-- Takes a version 4 address with a port. -/
def SocketAddress.v4? (cs : List Char) : Option (SocketAddress × List Char) := do
  let (host, cs) ← ipv4? cs
  let (port, cs) ← port? cs
  return (.v4 host port, cs)

/-- Takes a version 6 address in brackets with a port. -/
def SocketAddress.v6? (cs : List Char) : Option (SocketAddress × List Char) := do
  let (host, cs) ← ipv6? (← Scan.char? '[' cs)
  let (scope, cs) := scope cs
  let (port, cs) ← port? (← Scan.char? ']' cs)
  return (.v6 host 0 scope port, cs)

/-- Reads an address with a port, and nothing else. -/
def SocketAddress.ofText? (cs : List Char) : Option SocketAddress :=
  match (SocketAddress.v4? cs).orElse fun () => SocketAddress.v6? cs with
  | some (address, []) => some address
  | _ => none

end DiagnosticGateway.Net
