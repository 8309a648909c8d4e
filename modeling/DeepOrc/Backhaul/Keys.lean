import DeepOrc.Backhaul.Machine

/-!
# Keys on the interface

The interface of a gateway should know the keys of that gateway's peers and no others. `exit.env` keeps the
key of the last created peer, and a reboot puts that key back.
-/

namespace DeepOrc.Backhaul

open Models Services Agent
open Lib (Table Reaches)

def HoldsKey (gatewayId : Nat) (db : Db) (publicKey : String) : Prop :=
  ∃ id peer, db.peers.get id = some peer ∧ peer.gatewayId = gatewayId ∧ peer.publicKey = publicKey

def KeysCurrent (gatewayId : Nat) (s : State) : Prop := ∀ publicKey ∈ s.vm.wg0, HoldsKey gatewayId s.db publicKey

/-- No reboot while the last created peer's key is revoked, and no new key that another peer already has. -/
def RevocationsSettled (s : State) : Event → Prop
  | .reboot => s.revoked = false
  | .regenerate peerId key => ∀ id row, s.db.peers.get id = some row → row.publicKey = key.b64Encode → id = peerId
  | _ => True

structure Current (gatewayId : Nat) (s : State) : Prop where
  worker : ∀ gateway, s.db.gateways.get gatewayId = some gateway → (s.db.workers.get gateway.workerId).isSome
  configured : KeysCurrent gatewayId s
  uplink : s.revoked = false → Lib.EnvFile.getVariable uplinkPeer s.vm.exitEnv = [] ∨
    HoldsKey gatewayId s.db (String.ofList (Lib.EnvFile.getVariable uplinkPeer s.vm.exitEnv))

theorem current_initial {gatewayId : Nat} {s : State} (initial : Initial gatewayId s) : Current gatewayId s where
  worker := initial.worker
  configured := by
    intro publicKey member
    rw [initial.wg0] at member
    cases member
  uplink := fun _ => .inl initial.uplink

/-- A peer row that only had its mark changed still holds its key. -/
theorem holdsKey_setSuspended {gatewayId : Nat} {db : Db} {publicKey : String} (peerId : Nat) (mark : Bool)
    (held : HoldsKey gatewayId db publicKey) : HoldsKey gatewayId (setSuspended db peerId mark) publicKey := by
  obtain ⟨id, peer, present, own, same⟩ := held
  by_cases changed : id = peerId
  · subst changed
    refine ⟨id, { peer with suspended := mark }, ?_, own, same⟩
    simp [setSuspended, present]
  · refine ⟨id, peer, ?_, own, same⟩
    rw [setSuspended, Table.get_modify_of_ne changed, present]

theorem create_current {gatewayId : Nat} {s t : State} {name : String} {key : WireGuardKey} {calls : CreatePeerCalls}
    {gateway : Gateway} (current : Current gatewayId s) (peer : PeerCreated calls s.db t.db gatewayId name)
    (called : calls.publicKey = key.b64Encode) (present : s.db.gateways.get gatewayId = some gateway)
    (vm : t.vm = { s.vm with
      wg0 := addPeer s.vm.wg0 key.b64Encode
      exitEnv := setGatewayUplinkPeer s.db gateway key.b64Encode s.vm.exitEnv }) :
    Current gatewayId t := by
  have created : HoldsKey gatewayId t.db key.b64Encode := by
    refine ⟨s.db.peers.next, ⟨gatewayId, name, calls.publicKey, peer.address, false⟩, ?_, rfl, called⟩
    have table := congrArg Db.peers peer.same
    rw [table]
    exact Table.get_insert_self _ _
  refine ⟨?_, ?_, ?_⟩
  · rw [peer.same]
    exact current.worker
  · intro publicKey member
    rw [vm, mem_addPeer] at member
    rcases member with older | rfl
    · obtain ⟨id, row, found, own, -⟩ := current.configured publicKey older
      exact absurd own (peer.first id row found)
    · exact created
  · intro _
    obtain ⟨worker, assigned⟩ := Option.isSome_iff_exists.mp (current.worker gateway present)
    rw [vm, uplink_setGatewayUplinkPeer assigned, String.ofList_toList]
    exact .inr created

theorem regenerate_current {gatewayId peerId : Nat} {s t : State} {key : WireGuardKey} {peer : Peer}
    (current : Current gatewayId s) (present : s.db.peers.get peerId = some peer) (own : peer.gatewayId = gatewayId)
    (db : t.db = { s.db with peers := s.db.peers.modify peerId fun row => { row with publicKey := key.b64Encode } })
    (vm : t.vm = { s.vm with wg0 := addPeer (removePeer s.vm.wg0 peer.publicKey) key.b64Encode })
    (mark : t.revoked = true) : Current gatewayId t := by
  refine ⟨by rw [db]; exact current.worker, ?_, by simp [mark]⟩
  intro publicKey member
  rw [vm, mem_addPeer, mem_removePeer] at member
  rw [db]
  rcases member with ⟨older, kept⟩ | rfl
  · obtain ⟨id, row, found, mine, rfl⟩ := current.configured publicKey older
    have other : id ≠ peerId := by
      rintro rfl
      rw [present] at found
      exact kept (by rw [Option.some.inj found])
    exact ⟨id, row, by rw [Table.get_modify_of_ne other, found], mine, rfl⟩
  · exact ⟨peerId, { peer with publicKey := key.b64Encode }, by simp [present], own, rfl⟩

theorem delete_current {gatewayId peerId : Nat} {s t : State} {peer : Peer} (current : Current gatewayId s)
    (present : s.db.peers.get peerId = some peer)
    (db : t.db = { s.db with peers := s.db.peers.delete peerId, ipAllocations := t.db.ipAllocations })
    (vm : t.vm = { s.vm with wg0 := removePeer s.vm.wg0 peer.publicKey }) (mark : t.revoked = true) :
    Current gatewayId t := by
  refine ⟨by rw [db]; exact current.worker, ?_, by simp [mark]⟩
  intro publicKey member
  rw [vm, mem_removePeer] at member
  obtain ⟨older, kept⟩ := member
  obtain ⟨id, row, found, mine, rfl⟩ := current.configured publicKey older
  have other : id ≠ peerId := by
    rintro rfl
    rw [present] at found
    exact kept (by rw [Option.some.inj found])
  rw [db]
  exact ⟨id, row, by rw [Table.get_delete_of_ne other, found], mine, rfl⟩

/-- A change of the suspension mark and the drop rules does not concern keys. -/
theorem mark_current {gatewayId peerId : Nat} {s : State} (current : Current gatewayId s) (mark : Bool)
    (rules : SuspendChain) :
    Current gatewayId ⟨setSuspended s.db peerId mark, { s.vm with suspended := rules }, s.revoked⟩ where
  worker := current.worker
  configured := fun publicKey member => holdsKey_setSuspended peerId mark (current.configured publicKey member)
  uplink := fun clean => (current.uplink clean).imp_right (holdsKey_setSuspended peerId mark)

theorem reboot_current {gatewayId : Nat} {s : State} (current : Current gatewayId s) (clean : s.revoked = false) :
    Current gatewayId { s with vm := s.vm.reboot } := by
  refine ⟨current.worker, ?_, current.uplink⟩
  intro publicKey member
  unfold Vm.reboot applyWgPeer at member
  dsimp only at member
  split at member
  · rename_i named
    rw [mem_addPeer] at member
    rcases member with impossible | rfl
    · cases impossible
    · exact (current.uplink clean).resolve_left named.1
  · cases member

theorem step_current {gatewayId : Nat} {s t : State} {event : Event} (current : Current gatewayId s)
    (settled : RevocationsSettled s event) (stepped : step gatewayId s event = some t) : Current gatewayId t := by
  cases step_effect stepped with
  | none same => exact same ▸ current
  | created peer called present vm _ => exact create_current current peer called present vm
  | regenerated present own db vm mark => exact regenerate_current current present own db vm mark
  | collided different taken same _ _ => exact absurd (settled _ _ taken same) different
  | deleted present _ db vm mark => exact delete_current current present db vm mark
  | suspended _ _ after => exact after ▸ mark_current current true _
  | resumed _ _ after => exact after ▸ mark_current current false _
  | rebooted after => exact after ▸ reboot_current current settled

/-- As long as no reboot falls between a revocation and the next peer, the interface knows current keys only. -/
theorem keys_current_while_settled {gatewayId : Nat} {s t : State} (initial : Initial gatewayId s)
    (reached : Reaches (step gatewayId) RevocationsSettled s t) : KeysCurrent gatewayId t :=
  (reached.invariant (current_initial initial) fun _ _ _ current settled stepped =>
    step_current current settled stepped).configured

/-! ### A revoked key that comes back -/

def freshExitEnv : Lib.EnvFile.Text :=
  "WG_SUBNET=10.100.1.0/24\nWG_GW=10.100.1.1\nVM_IP=10.10.2.10\nEXIT_MTU=1420\nUPLINK_PEER=\n".toList

def readyGatewayRow : Gateway :=
  ⟨1, "gw-000", "gw-gw-000", 168427530, 51820, 174325760, "100.64.0.1", "gw-000", .ready, none⟩

def freshGateway : State where
  db := { Db.empty with
    workers := Table.empty.insert ⟨"w1", "w1", "https://w1:8443", true, some 0, 51820, 51920, 168427775, 168427530⟩
    gateways := Table.empty.insert readyGatewayRow }
  vm := ⟨[], freshExitEnv, Table.empty⟩
  revoked := false

def repeatedKey (byte : UInt8) : WireGuardKey := ⟨List.replicate 32 byte, List.length_replicate⟩

theorem freshGateway_initial : Initial 1 freshGateway where
  worker := by
    intro gateway found
    cases found
    rfl
  peers := by
    intro id row found
    cases found
  wg0 := rfl
  uplink := by decide +kernel
  rules := by
    rintro ip ⟨handle, found⟩
    cases found

def firstPeer : Peer := ⟨1, "gw-000-link", (repeatedKey 0).b64Encode, 174325762, false⟩

def createdPeer : State := createStep 1 freshGateway "gw-000-link" (repeatedKey 0) 0

theorem firstPeer_get : createdPeer.db.peers.get 1 = some firstPeer := rfl

/-- Creating a peer, regenerating its keys and rebooting leaves the interface with the old key. -/
theorem regenerated_key_returns :
    ∃ s t, Initial 1 s ∧ Reaches (step 1) (fun _ _ => True) s t ∧ ¬KeysCurrent 1 t := by
  let events : List Event := [.create "gw-000-link" (repeatedKey 0) 0, .regenerate 1 (repeatedKey 1), .reboot]
  have ran : (Lib.run (step 1) (fun _ _ => true) freshGateway events).any (fun t =>
      decide (t.vm.wg0 = [(repeatedKey 0).b64Encode] ∧
        ∀ entry ∈ t.db.peers.toList, entry.2.publicKey ≠ (repeatedKey 0).b64Encode)) = true := by decide +kernel
  obtain ⟨t, arrived, stale⟩ := Lib.exists_of_any ran
  obtain ⟨configured, gone⟩ := of_decide_eq_true stale
  refine ⟨freshGateway, t, freshGateway_initial, Lib.reaches_of_run (fun _ _ _ => trivial) arrived, ?_⟩
  intro current
  obtain ⟨id, peer, present, -, same⟩ := current (repeatedKey 0).b64Encode (by simp [configured])
  exact gone (id, peer) (Table.mem_toList.mpr present) same

theorem rebooted_keys_current :
    ∃ t, Reaches (step 1) RevocationsSettled freshGateway t ∧ t.vm.wg0 = [(repeatedKey 0).b64Encode] ∧
      KeysCurrent 1 t := by
  let events : List Event := [.create "gw-000-link" (repeatedKey 0) 0, .reboot]
  have ran : (Lib.run (step 1) (fun s event => match event with
      | .reboot => !s.revoked
      | .regenerate _ _ => false
      | _ => true) freshGateway events).any (fun t =>
      decide (t.vm.wg0 = [(repeatedKey 0).b64Encode])) = true := by decide +kernel
  obtain ⟨t, arrived, configured⟩ := Lib.exists_of_any ran
  have reached : Reaches (step 1) RevocationsSettled freshGateway t := by
    refine Lib.reaches_of_run ?_ arrived
    intro s event checked
    cases event with
    | reboot => simpa [RevocationsSettled] using checked
    | regenerate peerId key => cases checked
    | _ => trivial
  exact ⟨t, reached, of_decide_eq_true configured, keys_current_while_settled freshGateway_initial reached⟩

end DeepOrc.Backhaul
