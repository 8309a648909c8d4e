import DeepOrc.Lib.Ipv4

/-! # The routes of the WireGuard peers -/

namespace DeepOrc.Wg

open Lib.Ipv4 (Network)

/-- The IPv4 half of `0.0.0.0/0, ::/0`. -/
def backhaulGatewayPeerAllowedIps : List Network := [⟨0, 0⟩]

/-- What an exit host routes into a gateway's tunnel: the gateway's /24. -/
def ipv4AllowedIpsBackhaulUplink (wgSubnet : Nat) : Network := ⟨wgSubnet, 24⟩

def Disjoint (one other : Network) : Prop := ∀ ip, one.contains ip = true → other.contains ip = false

theorem disjoint_uplinks_iff {one other : Nat} :
    Disjoint (ipv4AllowedIpsBackhaulUplink one) (ipv4AllowedIpsBackhaulUplink other) ↔ one / 256 ≠ other / 256 := by
  constructor
  · intro apart same
    have outside := apart one (Network.contains_self _)
    simp [Network.contains, Network.size, ipv4AllowedIpsBackhaulUplink, same] at outside
  · intro different ip inside
    simp only [Network.contains, Network.size, ipv4AllowedIpsBackhaulUplink, beq_iff_eq, beq_eq_false_iff_ne] at inside ⊢
    rw [inside]
    exact different

/-- Every IPv4 address is inside the full tunnel. -/
theorem contains_fullTunnel {ip : Nat} (small : ip < 2 ^ 32) :
    backhaulGatewayPeerAllowedIps.any (fun network => network.contains ip) = true := by
  rw [backhaulGatewayPeerAllowedIps, List.any_cons, Bool.or_eq_true]
  refine .inl ?_
  simp only [Network.contains, Network.size, beq_iff_eq]
  omega

end DeepOrc.Wg
