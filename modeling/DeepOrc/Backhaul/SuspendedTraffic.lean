import DeepOrc.Backhaul.Keys
import DeepOrc.Wg.Routes

/-!
# What suspending the backhaul peer drops

The peer is a full tunnel: every destination goes to it. The drop rule of a suspension matches one destination,
the peer's own tunnel address.
-/

namespace DeepOrc.Backhaul

open Models Services Agent
open Lib (Table)
open Lib.Ipv4 (Network)

structure Packet where
  destination : Nat
  destination_lt : destination < 2 ^ 32

inductive Verdict where
  | accept
  | drop
deriving DecidableEq

/-- The forward chain: `ip daddr … drop` for each suspension, and `policy accept`. -/
def forwardChain : List Nat → Packet → Verdict
  | [], _ => .accept
  | daddr :: rules, packet => if packet.destination = daddr then .drop else forwardChain rules packet

def Vm.forward (vm : Vm) (packet : Packet) : Verdict :=
  forwardChain (vm.suspended.toList.map fun rule => rule.2) packet

/-- Every `wg set` of the orchestrator and of the routing script passes the same networks. -/
def Vm.allowedIps (vm : Vm) (publicKey : String) : List Network :=
  if publicKey ∈ vm.wg0 then Wg.backhaulGatewayPeerAllowedIps else []

/-- WireGuard hands the packet to the peer. -/
def Vm.hands (vm : Vm) (publicKey : String) (packet : Packet) : Bool :=
  (vm.allowedIps publicKey).any fun network => network.contains packet.destination

theorem forwardChain_drop_iff {rules : List Nat} {packet : Packet} :
    forwardChain rules packet = .drop ↔ packet.destination ∈ rules := by
  induction rules with
  | nil => simp [forwardChain]
  | cons daddr rules later =>
      rw [forwardChain, List.mem_cons]
      split
      · rename_i same
        simp [same]
      · rename_i different
        rw [later, or_iff_right different]

theorem forward_drop_iff {vm : Vm} {packet : Packet} :
    vm.forward packet = .drop ↔ dropRule vm.suspended packet.destination := by
  rw [Vm.forward, forwardChain_drop_iff, List.mem_map]
  constructor
  · rintro ⟨⟨handle, daddr⟩, member, same⟩
    exact ⟨handle, by rw [← same]; exact Table.mem_toList.mp member⟩
  · rintro ⟨handle, present⟩
    exact ⟨(handle, _), Table.mem_toList.mpr present, rfl⟩

/-- No destination is outside the tunnel. -/
theorem hands_iff {vm : Vm} {publicKey : String} {packet : Packet} :
    vm.hands publicKey packet = true ↔ publicKey ∈ vm.wg0 := by
  unfold Vm.hands Vm.allowedIps
  split
  · rename_i configured
    simp only [configured, iff_true]
    exact Wg.contains_fullTunnel packet.destination_lt
  · rename_i absent
    simp [absent]

theorem peerOnReadyGateway_of_ready {db : Db} {peerId : Nat} {peer : Peer} {gateway : Gateway}
    (present : db.peers.get peerId = some peer) (ready : readyGateway db peer.gatewayId = .ok gateway) :
    peerOnReadyGateway db peerId = .ok peer := by
  rw [peerOnReadyGateway, present]
  dsimp only
  rw [ready]
  rfl

/-- A creation leaves its gateway ready for the next operation. -/
theorem ready_created {calls : CreatePeerCalls} {db after : Db} {gatewayId : Nat} {name : String}
    (peer : PeerCreated calls db after gatewayId name) : readyGateway after gatewayId = .ok peer.gateway := by
  have gateways : after.gateways = db.gateways := (congrArg Db.gateways peer.same).trans rfl
  have ready := peer.ready
  unfold readyGateway at ready ⊢
  rw [gateways]
  exact ready

/-- Suspending the peer that was created drops, of all that WireGuard hands to it, what goes to its own address,
besides what was dropped before. -/
theorem suspended_peer_packet_dropped_iff {gatewayId peerId : Nat} {s t u : State} {name : String}
    {key : WireGuardKey} {allocation : Nat} {peer : Peer}
    (created : createPeer ⟨key.b64Encode, allocation, .ok (), .ok ()⟩ s.db gatewayId name = .ok t.db)
    (create : step gatewayId s (.create name key allocation) = some t)
    (present : t.db.peers.get peerId = some peer) (own : peer.gatewayId = gatewayId)
    (suspend : step gatewayId t (.suspend peerId) = some u) (packet : Packet) :
    u.vm.hands peer.publicKey packet = true ∧
      (u.vm.forward packet = .drop ↔ packet.destination = peer.allowedIp ∨ s.vm.forward packet = .drop) := by
  obtain ⟨new⟩ := createPeer_ok created
  have ready : readyGateway t.db peer.gatewayId = .ok new.gateway := by rw [own]; exact ready_created new
  have found := peerOnReadyGateway_of_ready present ready
  have gateway := get_of_readyGateway new.ready
  have vm : t.vm = { s.vm with
      wg0 := addPeer s.vm.wg0 key.b64Encode
      exitEnv := setGatewayUplinkPeer s.db new.gateway key.b64Encode s.vm.exitEnv } := by
    simp only [step, createStep, created, gateway] at create
    exact (congrArg State.vm (Option.some.inj create)).symm
  have after : u.vm = { t.vm with suspended := suspendPeerIp t.vm.suspended peer.allowedIp } := by
    simp only [step, onPeer, found, own, if_true, suspendStep, Services.suspendPeer, Except.map] at suspend
    cases suspend
    rfl
  constructor
  · rw [hands_iff, after, vm]
    refine mem_addPeer.mpr (.inr ?_)
    have row := present
    rw [congrArg Db.peers new.same, Table.get_insert] at row
    split at row
    · cases row
      rfl
    · exact absurd own (new.first peerId peer row)
  · rw [forward_drop_iff, forward_drop_iff, after, vm]
    exact dropRule_suspendPeerIp

/-! ### One destination of many -/

def suspendedPeer : State := suspendStep createdPeer firstPeer 1

theorem createdPeer_db : createPeer ⟨(repeatedKey 0).b64Encode, 0, .ok (), .ok ()⟩ freshGateway.db 1 "gw-000-link" =
    .ok createdPeer.db := rfl

theorem suspendedPeer_step : step 1 createdPeer (.suspend 1) = some suspendedPeer := rfl

/-- A packet for 8.8.8.8 still leaves through the suspended peer. -/
theorem suspended_peer_forwards :
    ∃ s t u peer packet, Initial 1 s ∧ step 1 s (.create "gw-000-link" (repeatedKey 0) 0) = some t ∧
      t.db.peers.get 1 = some peer ∧ peer.gatewayId = 1 ∧ step 1 t (.suspend 1) = some u ∧
        u.vm.hands peer.publicKey packet = true ∧ u.vm.forward packet = .accept := by
  refine ⟨freshGateway, createdPeer, suspendedPeer, firstPeer, ⟨134744072, by decide⟩, freshGateway_initial, rfl, rfl,
    rfl, rfl, ?_, ?_⟩
  · decide +kernel
  · decide +kernel

theorem tunnel_address_dropped : suspendedPeer.vm.hands firstPeer.publicKey ⟨174325762, by decide⟩ = true ∧
    suspendedPeer.vm.forward ⟨174325762, by decide⟩ = .drop := by
  have parts := suspended_peer_packet_dropped_iff createdPeer_db rfl firstPeer_get rfl suspendedPeer_step ⟨174325762, by decide⟩
  exact ⟨parts.1, parts.2.mpr (.inl rfl)⟩

end DeepOrc.Backhaul
