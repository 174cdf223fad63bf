import Mathlib.Algebra.Group.Nat.Defs
import PaybondKit.Foundation.JsonLoads

/-!
# Address literals

`ipaddress.ip_address` reads four decimal octets, or up to eight groups of hexadecimal digits of
which one run of zeroes may be left out and the last two may be written as four octets. A network is
given by its first address and the length of its prefix.
-/

namespace PaybondKit

/-- The literals of an octet. -/
instance neZero_octet : @NeZero ℕ Zero.ofOfNat0 256 := ⟨by decide⟩

structure IPv4Address where
  first : Fin 256
  second : Fin 256
  third : Fin 256
  fourth : Fin 256
  deriving DecidableEq, Repr

structure IPv6Address where
  ip : ℕ
  scopeId : Option String
  deriving DecidableEq, Repr

inductive IpAddress where
  | v4 (address : IPv4Address)
  | v6 (address : IPv6Address)
  deriving DecidableEq, Repr

/-! ## Reading -/

section Reading

/-- `_parse_octet`. -/
def parseOctet (chars : List Char) : Option (Fin 256) :=
  if chars = [] ∨ ¬chars.all Char.isDigit ∨ 3 < chars.length ∨
      (chars ≠ ['0'] ∧ chars.head? = some '0') then none
  else
    let octet := Nat.ofDigitChars 10 chars 0
    if hoctet : octet < 256 then some ⟨octet, hoctet⟩ else none

def parseIPv4 (chars : List Char) : Option IPv4Address :=
  match (chars.splitOn '.').mapM parseOctet with
  | some [first, second, third, fourth] => some ⟨first, second, third, fourth⟩
  | _ => none

def IPv4Address.value (address : IPv4Address) : ℕ :=
  ((address.first * 256 + address.second) * 256 + address.third) * 256 + address.fourth

/-- `_parse_hextet`. -/
def parseHextet (chars : List Char) : Option ℕ :=
  if chars = [] ∨ 4 < chars.length then none
  else (chars.mapM hexValue).map fun digits => digits.foldl (fun value digit => 16 * value + digit) 0

/-- An IPv4 suffix is converted to hexadecimal. -/
def hexSuffix (parts : List (List Char)) : Option (List (List Char)) :=
  match parts.getLast? with
  | some last =>
      if '.' ∈ last then
        (parseIPv4 last).map fun address => parts.dropLast ++
          [Nat.toDigits 16 (address.value / 2 ^ 16), Nat.toDigits 16 (address.value % 2 ^ 16)]
      else some parts
  | none => some parts

def joinHextets (value : ℕ) (hextets : List ℕ) : ℕ :=
  hextets.foldl (fun value hextet => value * 2 ^ 16 + hextet) value

/-- The groups before or after a run that is left out; the empty one belongs to the run. -/
def outerParts (parts : List (List Char)) (outermost : Option (List Char)) :
    Option (List (List Char)) :=
  if outermost = some [] then if parts.length = 1 then some [] else none else some parts

/-- `_ip_int_from_string` of an IPv6 address. -/
def parseIPv6Groups (chars : List Char) : Option ℕ := do
  let parts := chars.splitOn ':'
  if parts.length < 3 then none
  let parts ← hexSuffix parts
  if 9 < parts.length then none
  let skipped := (List.range parts.length).filter fun i =>
    0 < i ∧ i + 1 < parts.length ∧ parts[i]? = some []
  match skipped with
  | [] =>
      if parts.length ≠ 8 then none
      return joinHextets 0 (← parts.mapM parseHextet)
  | [i] =>
      let high ← outerParts (parts.take i) parts.head?
      let low ← outerParts (parts.drop (i + 1)) parts.getLast?
      if 8 ≤ high.length + low.length then none
      let highValue := joinHextets 0 (← high.mapM parseHextet)
      let lowHextets ← low.mapM parseHextet
      return joinHextets (highValue * 2 ^ (16 * (8 - (high.length + low.length)))) lowHextets
  | _ => none

/-- An IPv6 address with its scope. -/
def parseIPv6 (chars : List Char) : Option IPv6Address :=
  if '/' ∈ chars then none
  else
    match chars.span (· ≠ '%') with
    | (address, []) => (parseIPv6Groups address).map fun ip => ⟨ip, none⟩
    | (address, _ :: scope) =>
        if scope = [] ∨ '%' ∈ scope then none
        else (parseIPv6Groups address).map fun ip => ⟨ip, some (String.ofList scope)⟩

/-- `ipaddress.ip_address(text)`; `none` stands for `ValueError`. -/
def ipAddress (text : String) : Option IpAddress :=
  match parseIPv4 text.toList with
  | some address => some (.v4 address)
  | none => (parseIPv6 text.toList).map .v6

end Reading

/-! ## Networks -/

section Networks

/-- The address is in the network with this first address and prefix length. -/
def IPv4Address.Within (network : IPv4Address) (prefixLength : ℕ) (address : IPv4Address) : Prop :=
  address.value / 2 ^ (32 - prefixLength) = network.value / 2 ^ (32 - prefixLength)

/-- 127.0.0.0/8. -/
def IPv4Address.isLoopback (address : IPv4Address) : Bool := address.first = 127

/-- The IPv4 address that an IPv6 address maps. -/
def IPv6Address.ipv4Mapped (address : IPv6Address) : Option IPv4Address :=
  if address.ip / 2 ^ 32 = 0xffff then
    let value := address.ip % 2 ^ 32
    some ⟨Fin.ofNat 256 (value / 2 ^ 24), Fin.ofNat 256 (value / 2 ^ 16),
      Fin.ofNat 256 (value / 2 ^ 8), Fin.ofNat 256 value⟩
  else none

def IPv6Address.isLoopback (address : IPv6Address) : Bool :=
  match address.ipv4Mapped with
  | some mapped => mapped.isLoopback
  | none => address.ip = 1

def IpAddress.isLoopback : IpAddress → Bool
  | .v4 address => address.isLoopback
  | .v6 address => address.isLoopback

theorem IPv4Address.isLoopback_iff {address : IPv4Address} :
    address.isLoopback = true ↔ Within ⟨127, 0, 0, 0⟩ 8 address := by
  obtain ⟨first, second, third, fourth⟩ := address
  simp only [isLoopback, Within, value, decide_eq_true_eq, Fin.ext_iff]
  omega

end Networks

end PaybondKit
