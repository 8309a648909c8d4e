import Mathlib.Data.List.Nodup
import Mathlib.Tactic.Common
import Mathlib.Algebra.Group.Nat.Defs

/-! # IPv4 networks: an address is the integer behind its dotted text -/

namespace DeepOrc.Lib.Ipv4

def dotted (ip : Nat) : String := s!"{ip / 16777216}.{ip / 65536 % 256}.{ip / 256 % 256}.{ip % 256}"

/-- The addresses that agree with `address` on the first `bits` bits. -/
structure Network where
  address : Nat
  bits : Nat
deriving DecidableEq, Repr

namespace Network

def size (network : Network) : Nat := 2 ^ (32 - network.bits)

def contains (network : Network) (ip : Nat) : Bool := ip / network.size == network.address / network.size

def first (network : Network) : Nat := network.address / network.size * network.size

def broadcast (network : Network) : Nat := network.first + network.size - 1

/-- Every address but the first and the last, in networks that have more than two. -/
def hosts (network : Network) : List Nat :=
  if 31 ≤ network.bits then List.range' network.first network.size
  else List.range' (network.first + 1) (network.size - 2)

def text (network : Network) : String := s!"{dotted network.address}/{network.bits}"

theorem size_pos (network : Network) : 0 < network.size := Nat.two_pow_pos _

theorem contains_iff {network : Network} {ip : Nat} :
    network.contains ip = true ↔ network.first ≤ ip ∧ ip ≤ network.broadcast := by
  have positive := network.size_pos
  rw [contains, beq_iff_eq, broadcast, first, Nat.div_eq_iff positive]

theorem contains_self (network : Network) : network.contains network.address = true := beq_self_eq_true _

theorem nodup_hosts (network : Network) : network.hosts.Nodup := by
  unfold hosts
  split <;> exact List.nodup_range'

theorem le_broadcast_of_mem_hosts {network : Network} {ip : Nat} (member : ip ∈ network.hosts) :
    ip ≤ network.broadcast := by
  have positive := network.size_pos
  unfold hosts at member
  unfold broadcast
  split at member <;> rw [List.mem_range'_1] at member <;> omega

end Network

end DeepOrc.Lib.Ipv4
