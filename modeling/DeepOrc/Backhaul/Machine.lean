import DeepOrc.Agent.Client
import DeepOrc.Agent.SuspendChain
import DeepOrc.Lib.EnvFile
import DeepOrc.Lib.Machine
import DeepOrc.Services.PeerService

/-!
# The backhaul peer of one gateway

A peer is kept in the database, in the WireGuard interface of the gateway's VM, in its `exit.env` and,
while suspended, in its drop rules. Every call to the VM succeeds here.
-/

namespace DeepOrc.Backhaul

open Models Services Agent
open Lib (Table)

structure Vm where
  wg0 : List String
  exitEnv : Lib.EnvFile.Text
  suspended : SuspendChain

/-- `revoked` tells that a key was regenerated or deleted since the last peer was created; no operation reads it. -/
structure State where
  db : Db
  vm : Vm
  revoked : Bool

inductive Event where
  | create (name : String) (key : WireGuardKey) (allocation : Nat)
  | regenerate (peerId : Nat) (key : WireGuardKey)
  | delete (peerId : Nat)
  | suspend (peerId : Nat)
  | resume (peerId : Nat)
  | reboot

/-- `wg set wg0 peer … allowed-ips …` -/
def addPeer (wg0 : List String) (publicKey : String) : List String :=
  if publicKey ∈ wg0 then wg0 else wg0 ++ [publicKey]

/-- `wg set wg0 peer … remove` -/
def removePeer (wg0 : List String) (publicKey : String) : List String := wg0.filter fun other => other ≠ publicKey

def uplinkPeer : Lib.EnvFile.Text := "UPLINK_PEER".toList

def setGatewayUplinkPeer (db : Db) (gateway : Gateway) (publicKey : String) (exitEnv : Lib.EnvFile.Text) :
    Lib.EnvFile.Text :=
  match db.workers.get gateway.workerId with
  | none => exitEnv
  | some _ => Lib.EnvFile.setVariable uplinkPeer publicKey.toList exitEnv

/-- `_apply_wg_peer` of the routing script; its loop over the peers it finds only sets their addresses again. -/
def applyWgPeer (exitEnv : Lib.EnvFile.Text) (wg0 : List String) : List String :=
  let peer := Lib.EnvFile.getVariable uplinkPeer exitEnv
  if peer ≠ [] ∧ wg0 = [] then addPeer wg0 (String.ofList peer) else wg0

/-- The interface and the rule table live in the kernel; the routing script fills the interface again. -/
def Vm.reboot (vm : Vm) : Vm := { vm with wg0 := applyWgPeer vm.exitEnv [], suspended := Table.empty }

def createStep (gatewayId : Nat) (s : State) (name : String) (key : WireGuardKey) (allocation : Nat) : State :=
  match createPeer ⟨key.b64Encode, allocation, .ok (), .ok ()⟩ s.db gatewayId name, s.db.gateways.get gatewayId with
  | .ok db, some gateway =>
      { db
        vm := { s.vm with
          wg0 := addPeer s.vm.wg0 key.b64Encode
          exitEnv := setGatewayUplinkPeer s.db gateway key.b64Encode s.vm.exitEnv }
        revoked := false }
  | _, _ => s

/-- The agent is told before the new key is written, so a refused write leaves the interface changed. -/
def regenerateStep (s : State) (peer : Peer) (peerId : Nat) (key : WireGuardKey) : State :=
  let vm := { s.vm with wg0 := addPeer (removePeer s.vm.wg0 peer.publicKey) key.b64Encode }
  match regeneratePeerKeys s.db peerId key.b64Encode with
  | .error _ => { s with vm }
  | .ok (db, _) => ⟨db, vm, true⟩

def deleteStep (s : State) (peer : Peer) (peerId : Nat) : State :=
  match deletePeer s.db peerId with
  | .error _ => s
  | .ok (db, _) => ⟨db, { s.vm with wg0 := removePeer s.vm.wg0 peer.publicKey }, true⟩

def suspendStep (s : State) (peer : Peer) (peerId : Nat) : State :=
  match suspendPeer s.db peerId with
  | .error _ => s
  | .ok (db, _) => { s with db, vm := { s.vm with suspended := suspendPeerIp s.vm.suspended peer.allowedIp } }

def resumeStep (s : State) (peer : Peer) (peerId : Nat) : State :=
  match resumePeer s.db peerId with
  | .error _ => s
  | .ok (db, _) => { s with db, vm := { s.vm with suspended := resumePeerIp s.vm.suspended peer.allowedIp } }

/-- An operation on a peer that the gateway does not have, or on one that is not ready, raises first of all. -/
def onPeer (gatewayId : Nat) (s : State) (peerId : Nat) (act : Peer → State) : Option State :=
  match peerOnReadyGateway s.db peerId with
  | .error _ => some s
  | .ok peer => if peer.gatewayId = gatewayId then some (act peer) else none

def step (gatewayId : Nat) (s : State) : Event → Option State
  | .create name key allocation => some (createStep gatewayId s name key allocation)
  | .regenerate peerId key => onPeer gatewayId s peerId fun peer => regenerateStep s peer peerId key
  | .delete peerId => onPeer gatewayId s peerId fun peer => deleteStep s peer peerId
  | .suspend peerId => onPeer gatewayId s peerId fun peer => suspendStep s peer peerId
  | .resume peerId => onPeer gatewayId s peerId fun peer => resumeStep s peer peerId
  | .reboot => some { s with vm := s.vm.reboot }

/-- A gateway as it was set up: any database in which it has no peer yet, and a VM that knows of none. -/
structure Initial (gatewayId : Nat) (s : State) : Prop where
  worker : ∀ gateway, s.db.gateways.get gatewayId = some gateway →
    (s.db.workers.get gateway.workerId).isSome
  peers : ∀ id row, s.db.peers.get id = some row → row.gatewayId ≠ gatewayId
  wg0 : s.vm.wg0 = []
  uplink : Lib.EnvFile.getVariable uplinkPeer s.vm.exitEnv = []
  rules : ∀ ip, ¬dropRule s.vm.suspended ip

/-! ### What one step did -/

theorem mem_addPeer {wg0 : List String} {publicKey other : String} :
    other ∈ addPeer wg0 publicKey ↔ other ∈ wg0 ∨ other = publicKey := by
  unfold addPeer
  split
  · constructor
    · exact .inl
    · rintro (inside | rfl)
      · exact inside
      · assumption
  · simp

theorem mem_removePeer {wg0 : List String} {publicKey other : String} :
    other ∈ removePeer wg0 publicKey ↔ other ∈ wg0 ∧ other ≠ publicKey := by
  simp [removePeer]

theorem newline_not_mem_b64Encode (key : WireGuardKey) : '\n' ∉ key.b64Encode.toList := by
  intro member
  rw [WireGuardKey.b64Encode, String.toList_ofList] at member
  rcases Lib.Base64.mem_encode key.bytes '\n' member with same | letter
  · exact absurd same (by decide)
  · exact absurd letter (by decide)

theorem uplink_setGatewayUplinkPeer {db : Db} {gateway : Gateway} {worker : Worker}
    (assigned : db.workers.get gateway.workerId = some worker) (key : WireGuardKey) (exitEnv : Lib.EnvFile.Text) :
    Lib.EnvFile.getVariable uplinkPeer (setGatewayUplinkPeer db gateway key.b64Encode exitEnv) =
      key.b64Encode.toList := by
  rw [setGatewayUplinkPeer, assigned]
  exact Lib.EnvFile.getVariable_setVariable (by decide) (newline_not_mem_b64Encode key) exitEnv

/-- What an accepted step did to the database, the VM and the mark. -/
inductive Effect (gatewayId : Nat) (s t : State) : Event → Prop where
  | none {event : Event} (same : t = s) : Effect gatewayId s t event
  | created {name : String} {key : WireGuardKey} {allocation : Nat} {calls : CreatePeerCalls} {gateway : Gateway}
      (peer : PeerCreated calls s.db t.db gatewayId name) (called : calls.publicKey = key.b64Encode)
      (present : s.db.gateways.get gatewayId = some gateway)
      (vm : t.vm = { s.vm with
        wg0 := addPeer s.vm.wg0 key.b64Encode
        exitEnv := setGatewayUplinkPeer s.db gateway key.b64Encode s.vm.exitEnv })
      (mark : t.revoked = false) : Effect gatewayId s t (.create name key allocation)
  | regenerated {peerId : Nat} {key : WireGuardKey} {peer : Peer} (present : s.db.peers.get peerId = some peer)
      (own : peer.gatewayId = gatewayId)
      (db : t.db = { s.db with peers := s.db.peers.modify peerId fun row => { row with publicKey := key.b64Encode } })
      (vm : t.vm = { s.vm with wg0 := addPeer (removePeer s.vm.wg0 peer.publicKey) key.b64Encode })
      (mark : t.revoked = true) : Effect gatewayId s t (.regenerate peerId key)
  | collided {peerId : Nat} {key : WireGuardKey} {peer other : Peer} {otherId : Nat}
      (different : otherId ≠ peerId) (taken : s.db.peers.get otherId = some other)
      (same : other.publicKey = key.b64Encode) (db : t.db = s.db)
      (vm : t.vm = { s.vm with wg0 := addPeer (removePeer s.vm.wg0 peer.publicKey) key.b64Encode }) :
      Effect gatewayId s t (.regenerate peerId key)
  | deleted {peerId : Nat} {peer : Peer} (present : s.db.peers.get peerId = some peer)
      (own : peer.gatewayId = gatewayId)
      (db : t.db = { s.db with peers := s.db.peers.delete peerId, ipAllocations := t.db.ipAllocations })
      (vm : t.vm = { s.vm with wg0 := removePeer s.vm.wg0 peer.publicKey })
      (mark : t.revoked = true) : Effect gatewayId s t (.delete peerId)
  | suspended {peerId : Nat} {peer : Peer} (present : s.db.peers.get peerId = some peer)
      (own : peer.gatewayId = gatewayId)
      (after : t = ⟨setSuspended s.db peerId true,
        { s.vm with suspended := suspendPeerIp s.vm.suspended peer.allowedIp }, s.revoked⟩) :
      Effect gatewayId s t (.suspend peerId)
  | resumed {peerId : Nat} {peer : Peer} (present : s.db.peers.get peerId = some peer)
      (own : peer.gatewayId = gatewayId)
      (after : t = ⟨setSuspended s.db peerId false,
        { s.vm with suspended := resumePeerIp s.vm.suspended peer.allowedIp }, s.revoked⟩) :
      Effect gatewayId s t (.resume peerId)
  | rebooted (after : t = { s with vm := s.vm.reboot }) : Effect gatewayId s t .reboot

theorem onPeer_some {gatewayId peerId : Nat} {s t : State} {act : Peer → State}
    (acted : onPeer gatewayId s peerId act = some t) :
    t = s ∨ ∃ peer, s.db.peers.get peerId = some peer ∧ peer.gatewayId = gatewayId ∧ t = act peer ∧
      peerOnReadyGateway s.db peerId = .ok peer := by
  unfold onPeer at acted
  split at acted
  · cases acted
    exact .inl rfl
  · rename_i peer found
    split at acted
    · rename_i own
      cases acted
      exact .inr ⟨peer, peerOnReadyGateway_ok found, own, rfl, found⟩
    · cases acted

theorem create_effect (gatewayId : Nat) (s : State) (name : String) (key : WireGuardKey) (allocation : Nat) :
    Effect gatewayId s (createStep gatewayId s name key allocation) (.create name key allocation) := by
  unfold createStep
  split
  · rename_i db gateway created present
    obtain ⟨peer⟩ := createPeer_ok created
    exact .created peer rfl present rfl rfl
  · exact .none rfl

theorem regenerate_effect {gatewayId peerId : Nat} {s : State} {peer : Peer} (key : WireGuardKey)
    (found : peerOnReadyGateway s.db peerId = .ok peer) (own : peer.gatewayId = gatewayId) :
    Effect gatewayId s (regenerateStep s peer peerId key) (.regenerate peerId key) := by
  unfold regenerateStep
  cases done : regeneratePeerKeys s.db peerId key.b64Encode with
  | error error =>
      unfold regeneratePeerKeys at done
      simp only [found] at done
      split at done
      · rename_i taken
        obtain ⟨⟨otherId, other⟩, member, clash⟩ := List.any_eq_true.mp taken
        simp only [Bool.and_eq_true, decide_eq_true_eq] at clash
        exact .collided clash.1 (Table.mem_toList.mp member) clash.2 rfl rfl
      · cases done
  | ok pair =>
      obtain ⟨db, row⟩ := pair
      obtain ⟨-, changed⟩ := regeneratePeerKeys_ok done
      exact .regenerated (peerOnReadyGateway_ok found) own changed rfl rfl

theorem step_effect {gatewayId : Nat} {s t : State} {event : Event} (stepped : step gatewayId s event = some t) :
    Effect gatewayId s t event := by
  cases event with
  | create name key allocation =>
      cases stepped
      exact create_effect gatewayId s name key allocation
  | regenerate peerId key =>
      rcases onPeer_some stepped with same | ⟨peer, -, own, rfl, found⟩
      · exact .none same
      · exact regenerate_effect key found own
  | delete peerId =>
      rcases onPeer_some stepped with same | ⟨peer, present, own, rfl, found⟩
      · exact .none same
      · unfold deleteStep
        cases done : deletePeer s.db peerId with
        | error error => exact .none rfl
        | ok pair =>
            obtain ⟨db, row⟩ := pair
            obtain ⟨-, changed⟩ := deletePeer_ok done
            exact .deleted present own changed rfl rfl
  | suspend peerId =>
      rcases onPeer_some stepped with same | ⟨peer, present, own, rfl, found⟩
      · exact .none same
      · unfold suspendStep
        cases done : suspendPeer s.db peerId with
        | error error => exact .none rfl
        | ok pair =>
            obtain ⟨db, row⟩ := pair
            obtain ⟨-, changed⟩ := suspendPeer_ok done
            exact .suspended present own (by rw [← changed])
  | resume peerId =>
      rcases onPeer_some stepped with same | ⟨peer, present, own, rfl, found⟩
      · exact .none same
      · unfold resumeStep
        cases done : resumePeer s.db peerId with
        | error error => exact .none rfl
        | ok pair =>
            obtain ⟨db, row⟩ := pair
            obtain ⟨-, changed⟩ := resumePeer_ok done
            exact .resumed present own (by rw [← changed])
  | reboot =>
      cases stepped
      exact .rebooted rfl

end DeepOrc.Backhaul
