import Mathlib.Tactic.Common

/-!
# Reading IP addresses

The texts that are accepted as an address, of either version, with the numbers they stand for.
-/

namespace DeepOrc.Lib.IpAddress

abbrev Text := List Char

/-- The value of digits in a base. -/
def value (base : Nat) (digit : Char → Nat) (text : Text) : Nat :=
  text.foldl (fun total c => total * base + digit c) 0

def hexDigit (c : Char) : Nat :=
  if c.isDigit then c.toNat - '0'.toNat else if c.isLower then c.toNat - 'a'.toNat + 10 else c.toNat - 'A'.toNat + 10

def isHexDigit (c : Char) : Bool := c.isDigit || ('a' ≤ c && c ≤ 'f') || ('A' ≤ c && c ≤ 'F')

/-- One to three digits without a leading zero, at most 255. -/
def parseOctet (text : Text) : Option Nat :=
  let octet := value 10 hexDigit text
  if text = [] ∨ !text.all Char.isDigit ∨ 3 < text.length then none
  else if text ≠ ['0'] ∧ text.head? = some '0' then none
  else if 255 < octet then none
  else some octet

def parseIpv4 (text : Text) : Option Nat := do
  guard ('/' ∉ text)
  let octets := text.splitOn '.'
  guard (octets.length = 4)
  let values ← octets.mapM parseOctet
  return values.foldl (fun total octet => total * 256 + octet) 0

def parseHextet (text : Text) : Option Nat :=
  if text ≠ [] ∧ text.all isHexDigit ∧ text.length ≤ 4 then some (value 16 hexDigit text) else none

/-- The fields between colons, an IPv4 ending turned into two. -/
def hextetTexts (text : Text) : Option (List Text) := do
  let parts := text.splitOn ':'
  guard (3 ≤ parts.length)
  let last := parts.getLastD []
  let parts ←
    if '.' ∈ last then
      (parseIpv4 last).map fun ip =>
        parts.dropLast ++ [Nat.toDigits 16 (ip / 65536 % 65536), Nat.toDigits 16 (ip % 65536)]
    else some parts
  guard (parts.length ≤ 9)
  return parts

/-- The places of the empty fields, the ends left out. -/
def emptyInside (parts : List Text) : List Nat :=
  (List.range parts.length).filter fun i => 0 < i && i + 1 < parts.length && parts.getD i [] == []

/-- The hextets on each side of the gap that `::` leaves, and how many it stands for. -/
def splitHextets (parts : List Text) : Option (List Text × Nat × List Text) :=
  match emptyInside parts with
  | [] => if parts.length = 8 ∧ parts.headD [] ≠ [] ∧ parts.getLastD [] ≠ [] then some (parts, 0, []) else none
  | [skip] => do
      let high := if parts.headD [] = [] then skip - 1 else skip
      let low := if parts.getLastD [] = [] then parts.length - skip - 2 else parts.length - skip - 1
      guard (parts.headD [] = [] → high = 0)
      guard (parts.getLastD [] = [] → low = 0)
      guard (high + low < 8)
      return (parts.take high, 8 - (high + low), parts.drop (parts.length - low))
  | _ => none

/-- The address and the scope after `%`, which is neither empty nor holds another one. -/
def splitScopeId (text : Text) : Option (Text × Option Text) :=
  let scope := (text.dropWhile (· ≠ '%')).drop 1
  if '%' ∉ text then some (text, none)
  else if scope = [] ∨ '%' ∈ scope then none
  else some (text.takeWhile (· ≠ '%'), some scope)

def parseIpv6 (text : Text) : Option Nat := do
  guard ('/' ∉ text)
  let (address, _) ← splitScopeId text
  let (high, skipped, low) ← splitHextets (← hextetTexts address)
  let high ← high.mapM parseHextet
  let low ← low.mapM parseHextet
  return (high ++ List.replicate skipped 0 ++ low).foldl (fun total hextet => total * 65536 + hextet) 0

/-- The number that `ip_address` reads; `none` where it raises `ValueError`. -/
def ipAddress (text : Text) : Option Nat := parseIpv4 text <|> parseIpv6 text

/-- An address with a gap, a scope and an IPv4 ending. -/
example : ipAddress "2001:db8::192.0.2.1%eth0".toList = some 0x20010db80000000000000000c0000201 := by decide +kernel

end DeepOrc.Lib.IpAddress
