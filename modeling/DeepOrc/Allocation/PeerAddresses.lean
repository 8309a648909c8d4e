import DeepOrc.Allocation.Leaks
import DeepOrc.Lib.Ipv4

/-!
# Addresses of peers, with ids that come again

A deleted gateway leaves the row of its peer's address behind. Whether or not that row goes on naming the gateway,
and whether or not another gateway gets its id, no two rows that name a gateway have one address, and a gateway is
named by at most one.
-/

namespace DeepOrc.Allocation

open Models Repositories Services
open Lib (Table Reaches)

/-- Without enforced foreign keys the rows go on naming the deleted gateway. -/
def keepNames (before : Db) (gatewayId : Nat) (after : Db) : Db :=
  match before.gateways.get gatewayId with
  | none => after
  | some gateway =>
      let released :=
        Incus.releaseUdpPort (Incus.releaseVmIp before gateway.workerId gateway.vmIp) gateway.workerId gateway.udpPort
      { after with ipAllocations := released.ipAllocations, portAllocations := released.portAllocations }

inductive AddressEvent where
  | usual (operation : Operation)
  | deleteKeeping (calls : DeletionCalls) (gatewayId : Nat) (jobId : Option Nat)
  | reuseIds (least : Nat)

def AddressEvent.perform (base : Nat) (db : Db) : AddressEvent → Option Db
  | .usual operation => operation.perform base db
  | .deleteKeeping calls gatewayId jobId =>
      (Services.executeDeleteGateway calls db gatewayId jobId).toOption.map (keepNames db gatewayId)
  | .reuseIds least => some { db with gateways := db.gateways.renumber least }

/-! ### The rows that name a gateway -/

structure PeerRows (base : Nat) (db : Db) : Prop where
  subnet : ∀ id row, db.gateways.get id = some row → row.wgSubnet = allocateWgSubnet base id
  ip_unique : db.ipAllocations.Unique fun row => (row.workerId, row.address)
  vm_row : ∀ id gateway, db.gateways.get id = some gateway → ∃ allocation row,
    db.ipAllocations.get allocation = some row ∧ row.workerId = gateway.workerId ∧ row.address = gateway.vmIp ∧
      row.gatewayId = none
  vm_unique : db.gateways.Unique fun row => (row.workerId, row.vmIp)
  named : ∀ id row gatewayId, db.ipAllocations.get id = some row → row.gatewayId = some gatewayId →
    row.address ∈ Wg.peerHosts (allocateWgSubnet base gatewayId) ∧ row.peerId = none
  single : ∀ first second one other gatewayId, db.ipAllocations.get first = some one →
    db.ipAllocations.get second = some other → one.gatewayId = some gatewayId → other.gatewayId = some gatewayId →
      first = second
  apart : ∀ first second one other, db.ipAllocations.get first = some one → db.ipAllocations.get second = some other →
    one.gatewayId.isSome = true → other.gatewayId.isSome = true → one.address = other.address → first = second
  peer_gateway : ∀ id peer, db.peers.get id = some peer → (db.gateways.get peer.gatewayId).isSome = true
  peer_row : ∀ id peer, db.peers.get id = some peer → ∃ allocation row,
    db.ipAllocations.get allocation = some row ∧ row.gatewayId = some peer.gatewayId ∧ row.address = peer.allowedIp
  peer_unique : db.peers.Unique Peer.gatewayId

theorem peerRows_unused {base : Nat} {db : Db} (unused : Unused db) : PeerRows base db := by
  constructor
  · intro id row present
    simp [unused.gateways] at present
  · intro first second one other present
    simp [unused.ipAllocations] at present
  · intro id gateway present
    simp [unused.gateways] at present
  · intro first second one other present
    simp [unused.gateways] at present
  · intro id row gatewayId present
    simp [unused.ipAllocations] at present
  · intro first second one other gatewayId present
    simp [unused.ipAllocations] at present
  · intro first second one other present
    simp [unused.ipAllocations] at present
  · intro id peer present
    simp [unused.peers] at present
  · intro id peer present
    simp [unused.peers] at present
  · intro first second one other present
    simp [unused.peers] at present

/-! ### Creations -/

theorem peerRows_created {base now : Nat} {preauth : Except PyError Unit} {request : CreateGatewayRequest} {db after : Db}
    {gatewayId jobId : Nat} (rows : PeerRows base db)
    (made : Created (Operation.creationCalls base now preauth) request db after gatewayId jobId) : PeerRows base after := by
  -- the new row names no gateway
  have older : ∀ id row, after.ipAllocations.get id = some row → row.gatewayId.isSome = true →
      db.ipAllocations.get id = some row := by
    intro id row present names
    rw [made.ipAllocations, Table.get_insert] at present
    split at present
    · cases present
      cases names
    · exact present
  constructor
  · intro id row present
    rw [made.gateways, Table.get_insert] at present
    split at present
    · rename_i new
      cases present
      rw [new, ← made.gateway_id]
      rfl
    · exact rows.subnet id row present
  · exact made.addresses_unique rows.ip_unique
  · intro id gateway present
    rw [made.gateways, Table.get_insert] at present
    split at present
    · cases present
      refine ⟨db.ipAllocations.next, ⟨made.workerId, made.vmIp, none, none⟩, ?_, rfl, rfl, rfl⟩
      rw [made.ipAllocations]
      exact Table.get_insert_self _ _
    · obtain ⟨allocation, row, stored, facts⟩ := rows.vm_row id gateway present
      exact ⟨allocation, row, made.address_kept stored, facts⟩
  · exact made.vmIps_unique rows.vm_unique
  · intro id row gatewayId present names
    exact rows.named id row gatewayId (older id row present (by rw [names]; rfl)) names
  · intro first second one other gatewayId present present' names names'
    exact rows.single first second one other gatewayId (older first one present (by rw [names]; rfl))
      (older second other present' (by rw [names']; rfl)) names names'
  · intro first second one other present present' names names'
    exact rows.apart first second one other (older first one present names) (older second other present' names') names names'
  · intro id peer present
    rw [made.peers] at present
    obtain ⟨gateway, alive⟩ := Option.isSome_iff_exists.mp (rows.peer_gateway id peer present)
    rw [made.gateway_kept alive]
    rfl
  · intro id peer present
    rw [made.peers] at present
    obtain ⟨allocation, row, stored, facts⟩ := rows.peer_row id peer present
    exact ⟨allocation, row, made.address_kept stored, facts⟩
  · rw [made.peers]
    exact rows.peer_unique

/-! ### Deletions of gateways -/

/-- What goes with a gateway, whether or not the rows left go on naming it. -/
structure GatewayRemoved (db after : Db) (gatewayId : Nat) (gateway : Gateway) : Prop where
  gateways : after.gateways = db.gateways.delete gatewayId
  peers : ∀ id peer, after.peers.get id = some peer ↔ db.peers.get id = some peer ∧ peer.gatewayId ≠ gatewayId
  left : ∀ id row, after.ipAllocations.get id = some row → ∃ before, db.ipAllocations.get id = some before ∧
    row.workerId = before.workerId ∧ row.address = before.address ∧ row.peerId = before.peerId ∧
      (row.gatewayId = before.gatewayId ∨ row.gatewayId = none)
  kept : ∀ id row, db.ipAllocations.get id = some row → (row.workerId, row.address) ≠ (gateway.workerId, gateway.vmIp) →
    row.gatewayId ≠ some gatewayId → after.ipAllocations.get id = some row

theorem peerRows_removed {base gatewayId : Nat} {db after : Db} {gateway : Gateway} (rows : PeerRows base db)
    (present : db.gateways.get gatewayId = some gateway) (removed : GatewayRemoved db after gatewayId gateway) :
    PeerRows base after := by
  have before : ∀ id row gatewayId, after.ipAllocations.get id = some row → row.gatewayId = some gatewayId →
      ∃ old, db.ipAllocations.get id = some old ∧ row.address = old.address ∧ row.peerId = old.peerId ∧
        old.gatewayId = some gatewayId := by
    intro id row gatewayId stored names
    obtain ⟨old, found, -, address, peer, same | forgotten⟩ := removed.left id row stored
    · exact ⟨old, found, address, peer, same.symm.trans names⟩
    · rw [forgotten] at names
      cases names
  constructor
  · intro id row stored
    rw [removed.gateways] at stored
    exact rows.subnet id row (Table.get_delete_some stored).2
  · apply rows.ip_unique.of_rows
    intro id row stored
    obtain ⟨old, found, worker, address, -⟩ := removed.left id row stored
    exact ⟨old, found, by rw [worker, address]⟩
  · intro id other stored
    rw [removed.gateways] at stored
    obtain ⟨different, alive⟩ := Table.get_delete_some stored
    obtain ⟨allocation, row, found, worker, address, unnamed⟩ := rows.vm_row id other alive
    refine ⟨allocation, row, removed.kept allocation row found ?_ ?_, worker, address, unnamed⟩
    · intro same
      rw [worker, address] at same
      exact different (rows.vm_unique id gatewayId other gateway alive present same)
    · rw [unnamed]
      exact fun impossible => nomatch impossible
  · rw [removed.gateways]
    apply rows.vm_unique.of_rows
    intro id row stored
    exact ⟨row, (Table.get_delete_some stored).2, rfl⟩
  · intro id row name stored names
    obtain ⟨old, found, address, peer, named⟩ := before id row name stored names
    rw [address, peer]
    exact rows.named id old name found named
  · intro first second one other name stored stored' names names'
    obtain ⟨old, found, -, -, named⟩ := before first one name stored names
    obtain ⟨old', found', -, -, named'⟩ := before second other name stored' names'
    exact rows.single first second old old' name found found' named named'
  · intro first second one other stored stored' names names' same
    obtain ⟨name, names⟩ := Option.isSome_iff_exists.mp names
    obtain ⟨name', names'⟩ := Option.isSome_iff_exists.mp names'
    obtain ⟨old, found, address, -, named⟩ := before first one name stored names
    obtain ⟨old', found', address', -, named'⟩ := before second other name' stored' names'
    exact rows.apart first second old old' found found' (by rw [named]; rfl) (by rw [named']; rfl)
      (address.symm.trans (same.trans address'))
  · intro id peer stored
    obtain ⟨attached, other⟩ := (removed.peers id peer).mp stored
    rw [removed.gateways, Table.get_delete_of_ne other]
    exact rows.peer_gateway id peer attached
  · intro id peer stored
    obtain ⟨attached, other⟩ := (removed.peers id peer).mp stored
    obtain ⟨allocation, row, found, named, address⟩ := rows.peer_row id peer attached
    refine ⟨allocation, row, removed.kept allocation row found ?_ ?_, named, address⟩
    · -- the row of the gateway's own address names no gateway
      intro same
      obtain ⟨own, vm, found', worker, vmIp, unnamed⟩ := rows.vm_row gatewayId gateway present
      have key : (vm.workerId, vm.address) = (row.workerId, row.address) := by rw [same, worker, vmIp]
      have matched := rows.ip_unique own allocation vm row found' found key
      subst matched
      rw [found] at found'
      cases found'
      rw [unnamed] at named
      cases named
    · rw [named]
      exact fun owned => other (Option.some.inj owned)
  · apply rows.peer_unique.of_rows
    intro id peer stored
    exact ⟨peer, ((removed.peers id peer).mp stored).1, rfl⟩

theorem gatewayRemoved_forgetting {db : Db} (unique : db.ipAllocations.Unique fun row => (row.workerId, row.address))
    (gatewayId : Nat) (gateway : Gateway) (jobId : Option Nat) :
    GatewayRemoved db (completeJob (removeGateway db gatewayId gateway) jobId) gatewayId gateway where
  gateways := by rw [gateways_completeJob, gateways_removeGateway]
  peers := fun _ _ => removed_peer
  left := by
    intro id row stored
    obtain ⟨before, found, -, rfl⟩ := (removed_ip unique).mp stored
    refine ⟨before, found, (forgetGateway_key _ _).1, (forgetGateway_key _ _).2, ?_⟩
    unfold IpAllocation.forgetGateway
    split
    · exact ⟨rfl, .inr rfl⟩
    · exact ⟨rfl, .inl rfl⟩
  kept := by
    intro id row found other elsewhere
    refine (removed_ip unique).mpr ⟨row, found, ?_, if_neg elsewhere⟩
    by_contra matched
    simp only [Bool.not_eq_false, Bool.and_eq_true, decide_eq_true_eq] at matched
    exact other (by rw [matched.1, matched.2])

theorem gatewayRemoved_keeping {db : Db} (unique : db.ipAllocations.Unique fun row => (row.workerId, row.address))
    {gatewayId : Nat} {gateway : Gateway} (present : db.gateways.get gatewayId = some gateway) (jobId : Option Nat) :
    GatewayRemoved db (keepNames db gatewayId (completeJob (removeGateway db gatewayId gateway) jobId)) gatewayId gateway := by
  have forgetting := gatewayRemoved_forgetting unique gatewayId gateway jobId
  have rows : ∀ id row, (Incus.releaseVmIp db gateway.workerId gateway.vmIp).ipAllocations.get id = some row ↔ _ :=
    fun id row => Incus.get_releaseVmIp unique
  rw [keepNames, present]
  dsimp only
  rw [Incus.releaseUdpPort_eq]
  refine ⟨forgetting.gateways, forgetting.peers, ?_, ?_⟩
  · intro id row stored
    exact ⟨row, ((rows id row).mp stored).1, rfl, rfl, rfl, .inl rfl⟩
  · intro id row found other _
    refine (rows id row).mpr ⟨found, ?_⟩
    by_contra matched
    simp only [Bool.not_eq_false, Bool.and_eq_true, decide_eq_true_eq] at matched
    exact other (by rw [matched.1, matched.2])

/-! ### Peers -/

/-- What the search for a peer's address does: the row that names the gateway is taken up, or a new one is made. -/
theorem allocatePeerIp_cases {db after : Db} {gatewayId choice ip : Nat} {gateway : Gateway}
    (allocated : Wg.allocatePeerIp db gatewayId gateway choice = .ok (after, ip)) :
    (after = db ∧ ∃ id row, db.ipAllocations.get id = some row ∧
      Wg.reusableAllocation gatewayId (Wg.peerAddresses db gatewayId) row = true ∧ row.address = ip) ∨
    ((∀ id row, db.ipAllocations.get id = some row →
        Wg.reusableAllocation gatewayId (Wg.peerAddresses db gatewayId) row = false) ∧
      ip ∈ Wg.peerHosts gateway.wgSubnet ∧ ip ∉ Wg.peerAddresses db gatewayId ∧
      (∀ id row, db.ipAllocations.get id = some row → row.address ≠ ip) ∧
      after = { db with ipAllocations := db.ipAllocations.insert ⟨gateway.workerId, ip, some gatewayId, none⟩ }) := by
  unfold Wg.allocatePeerIp at allocated
  dsimp only at allocated
  split at allocated
  · rename_i id row found
    cases allocated
    obtain ⟨stored, reusable⟩ := Table.get_of_anyRow found
    exact .inl ⟨rfl, id, row, stored, reusable, rfl⟩
  · rename_i nothing
    split at allocated
    · rename_i found search
      cases allocated
      have unused := Wg.freePeerIp_not_mem search
      rw [List.mem_append, not_or] at unused
      refine .inr ⟨Table.anyRow_eq_none.mp nothing, ?_, unused.1, ?_, rfl⟩
      · unfold Wg.freePeerIp at search
        split at search
        · rename_i candidate first
          cases search
          exact List.mem_of_find?_eq_some first
        · cases search
      · intro id row present same
        exact unused.2 (List.mem_map.mpr ⟨(id, row), Table.mem_toList.mpr present, same⟩)
    · cases allocated

theorem peerRows_allocated {base gatewayId choice ip : Nat} {db after : Db} {gateway : Gateway} (rows : PeerRows base db)
    (alive : db.gateways.get gatewayId = some gateway) (first : ∀ id peer, db.peers.get id = some peer → peer.gatewayId ≠ gatewayId)
    (allocated : Wg.allocatePeerIp db gatewayId gateway choice = .ok (after, ip)) :
    PeerRows base after ∧ ∃ id row, after.ipAllocations.get id = some row ∧ row.gatewayId = some gatewayId ∧
      row.address = ip := by
  rcases allocatePeerIp_cases allocated with ⟨rfl, id, row, stored, reusable, address⟩ | ⟨unusable, host, -, fresh, rfl⟩
  · simp only [Wg.reusableAllocation, Bool.and_eq_true, decide_eq_true_eq] at reusable
    exact ⟨rows, id, row, stored, reusable.1.1, address⟩
  -- without peers every row that names the gateway could be taken up
  have unnamed : ∀ id row, db.ipAllocations.get id = some row → row.gatewayId ≠ some gatewayId := by
    intro id row stored names
    have refused := unusable id row stored
    have none_attached : row.address ∉ Wg.peerAddresses db gatewayId := by
      intro used
      obtain ⟨peerId, peer, attached, owned, -⟩ := Wg.mem_peerAddresses.mp used
      exact first peerId peer attached owned
    simp [Wg.reusableAllocation, names, (rows.named id row gatewayId stored names).2, none_attached] at refused
  have kept : ∀ id row, db.ipAllocations.get id = some row →
      (db.ipAllocations.insert ⟨gateway.workerId, ip, some gatewayId, none⟩).get id = some row := by
    intro id row present
    exact Table.get_insert_of_get present _
  refine ⟨?_, db.ipAllocations.next, _, Table.get_insert_self _ _, rfl, rfl⟩
  refine { rows with ip_unique := ?_, vm_row := ?_, named := ?_, single := ?_, apart := ?_, peer_row := ?_ }
  · apply rows.ip_unique.insert
    intro id other present same
    exact fresh id other present (congrArg Prod.snd same)
  · intro id other present
    obtain ⟨allocation, row, stored, facts⟩ := rows.vm_row id other present
    exact ⟨allocation, row, kept allocation row stored, facts⟩
  · intro id row name stored names
    dsimp only at stored
    rw [Table.get_insert] at stored
    split at stored
    · cases stored
      cases names
      rw [← rows.subnet gatewayId gateway alive]
      exact ⟨host, rfl⟩
    · exact rows.named id row name stored names
  · intro one other row row' name stored stored' names names'
    dsimp only at stored stored'
    rw [Table.get_insert] at stored stored'
    split at stored
    · rename_i new
      cases stored
      split at stored'
      · rename_i new'
        exact new.trans new'.symm
      · cases names
        exact absurd names' (unnamed other row' stored')
    · split at stored'
      · cases stored'
        cases names'
        exact absurd names (unnamed one row stored)
      · exact rows.single one other row row' name stored stored' names names'
  · intro one other row row' stored stored' names names' same
    dsimp only at stored stored'
    rw [Table.get_insert] at stored stored'
    split at stored
    · rename_i new
      cases stored
      split at stored'
      · rename_i new'
        exact new.trans new'.symm
      · exact absurd same.symm (fresh other row' stored')
    · split at stored'
      · cases stored'
        exact absurd same (fresh one row stored)
      · exact rows.apart one other row row' stored stored' names names' same
  · intro id peer present
    obtain ⟨allocation, row, stored, facts⟩ := rows.peer_row id peer present
    exact ⟨allocation, row, kept allocation row stored, facts⟩

theorem peerRows_peerCreated {base gatewayId : Nat} {calls : CreatePeerCalls} {db after : Db} {name : String}
    (rows : PeerRows base db) (created : createPeer calls db gatewayId name = .ok after) : PeerRows base after := by
  obtain ⟨gateway, allocated, address, ready, first, allocation, insertion⟩ := createPeer_steps created
  have alive := get_of_readyGateway ready
  obtain ⟨rows, row_id, row, stored, names, same⟩ := peerRows_allocated rows alive first allocation
  have tables := Wg.allocatePeerIp_tables allocation
  have peers : allocated.peers = db.peers := by rw [tables]
  have gateways : allocated.gateways = db.gateways := by rw [tables]
  obtain ⟨rfl, -⟩ := insertPeer_ok insertion
  refine { rows with peer_gateway := ?_, peer_row := ?_, peer_unique := ?_ }
  · intro id peer present
    dsimp only at present
    rw [Table.get_insert] at present
    split at present
    · cases present
      rw [gateways, alive]
      rfl
    · exact rows.peer_gateway id peer present
  · intro id peer present
    dsimp only at present
    rw [Table.get_insert] at present
    split at present
    · cases present
      exact ⟨row_id, row, stored, names, same⟩
    · exact rows.peer_row id peer present
  · apply rows.peer_unique.insert
    intro id other present
    rw [peers] at present
    exact first id other present

theorem peerRows_peerDeleted {base peerId : Nat} {db : Db} {peer : Peer} (rows : PeerRows base db)
    (present : db.peers.get peerId = some peer) :
    PeerRows base { Wg.releasePeerIp db peer.gatewayId peer.allowedIp with peers := db.peers.delete peerId } := by
  have released : ∀ id row, (Wg.releasePeerIp db peer.gatewayId peer.allowedIp).ipAllocations.get id = some row ↔
      db.ipAllocations.get id = some row ∧ (row.gatewayId = some peer.gatewayId && row.address = peer.allowedIp) = false := by
    intro id row
    apply Wg.get_releasePeerIp
    intro first second one other found found' names names' _
    exact rows.single first second one other peer.gatewayId found found' names names'
  rw [Wg.releasePeerIp_eq] at released ⊢
  have older : ∀ id row, _ → db.ipAllocations.get id = some row := fun id row stored => ((released id row).mp stored).1
  refine { rows with
    ip_unique := ?_, vm_row := ?_, named := ?_, single := ?_, apart := ?_, peer_gateway := ?_, peer_row := ?_,
    peer_unique := ?_ }
  · apply rows.ip_unique.of_rows
    intro id row stored
    exact ⟨row, older id row stored, rfl⟩
  · intro id gateway alive
    obtain ⟨allocation, row, found, worker, address, unnamed⟩ := rows.vm_row id gateway alive
    exact ⟨allocation, row, (released allocation row).mpr ⟨found, by simp [unnamed]⟩, worker, address, unnamed⟩
  · intro id row name stored names
    exact rows.named id row name (older id row stored) names
  · intro first second one other name stored stored' names names'
    exact rows.single first second one other name (older first one stored) (older second other stored') names names'
  · intro first second one other stored stored' names names' same
    exact rows.apart first second one other (older first one stored) (older second other stored') names names' same
  · intro id other attached
    exact rows.peer_gateway id other (Table.get_delete_some attached).2
  · intro id other attached
    obtain ⟨different, attached⟩ := Table.get_delete_some attached
    obtain ⟨allocation, row, found, named, address⟩ := rows.peer_row id other attached
    refine ⟨allocation, row, (released allocation row).mpr ⟨found, ?_⟩, named, address⟩
    by_contra matched
    simp only [Bool.not_eq_false, Bool.and_eq_true, decide_eq_true_eq] at matched
    rw [named] at matched
    exact different (rows.peer_unique id peerId other peer attached present (Option.some.inj matched.1))
  · apply rows.peer_unique.of_rows
    intro id other attached
    exact ⟨other, (Table.get_delete_some attached).2, rfl⟩

/-! ### Runs -/

theorem peerRows_status {base : Nat} {db : Db} (rows : PeerRows base db) (gatewayId : Nat) (status : GatewayStatus)
    (error : Option String) : PeerRows base (updateGatewayStatus db gatewayId status error) := by
  have before : ∀ id row, (updateGatewayStatus db gatewayId status error).gateways.get id = some row →
      ∃ old, db.gateways.get id = some old ∧ row.wgSubnet = old.wgSubnet ∧ row.workerId = old.workerId ∧ row.vmIp = old.vmIp := by
    intro id row stored
    obtain ⟨old, found, rfl⟩ := Table.get_modify_some stored
    refine ⟨old, found, ?_⟩
    split <;> exact ⟨rfl, rfl, rfl⟩
  refine { rows with subnet := ?_, vm_row := ?_, vm_unique := ?_, peer_gateway := ?_ }
  · intro id row stored
    obtain ⟨old, found, subnet, -⟩ := before id row stored
    rw [subnet]
    exact rows.subnet id old found
  · intro id row stored
    obtain ⟨old, found, -, worker, vmIp⟩ := before id row stored
    rw [worker, vmIp]
    exact rows.vm_row id old found
  · apply rows.vm_unique.of_rows
    intro id row stored
    obtain ⟨old, found, -, worker, vmIp⟩ := before id row stored
    exact ⟨old, found, by rw [worker, vmIp]⟩
  · intro id peer attached
    obtain ⟨gateway, alive⟩ := Option.isSome_iff_exists.mp (rows.peer_gateway id peer attached)
    rw [get_updateGatewayStatus, alive]
    split <;> rfl

theorem peerRows_completeJob {base : Nat} {db : Db} (rows : PeerRows base db) (jobId : Option Nat) :
    PeerRows base (completeJob db jobId) := by
  cases jobId with
  | none => exact rows
  | some job => exact { rows with }

theorem peerRows_perform {base : Nat} {db after : Db} {event : AddressEvent} (rows : PeerRows base db)
    (done : event.perform base db = some after) : PeerRows base after := by
  cases event with
  | usual operation =>
      replace done : operation.perform base db = some after := done
      cases operation with
      | createGateway now preauth request =>
          obtain ⟨gatewayId, jobId, ⟨made⟩⟩ := created_of_perform done
          exact peerRows_created rows made
      | executeDeleteGateway calls gatewayId jobId =>
          rcases deleted_of_perform done with ⟨-, rfl⟩ | ⟨gateway, present, rfl⟩
          · exact peerRows_completeJob rows jobId
          · exact peerRows_removed rows present (gatewayRemoved_forgetting rows.ip_unique gatewayId gateway jobId)
      | createPeer calls gatewayId name => exact peerRows_peerCreated rows (toOption_some done)
      | deletePeer peerId =>
          obtain ⟨peer, present, rfl⟩ := peerDeleted_of_perform done
          exact peerRows_peerDeleted rows present
      | setGatewayStatus gatewayId status error =>
          cases done
          exact peerRows_status rows gatewayId status error
  | deleteKeeping calls gatewayId jobId =>
      obtain ⟨deleted, succeeded, rfl⟩ := Option.map_eq_some_iff.mp done
      rcases executeDeleteGateway_ok (toOption_some succeeded) with ⟨absent, rfl⟩ | ⟨gateway, present, rfl⟩
      · rw [keepNames, absent]
        exact peerRows_completeJob rows jobId
      · exact peerRows_removed rows present (gatewayRemoved_keeping rows.ip_unique present jobId)
  | reuseIds least =>
      cases done
      exact { rows with }

/-! ### The address that is returned -/

theorem peer_address_in_subnet {base gatewayId choice ip : Nat} {db after : Db} {gateway : Gateway} (rows : PeerRows base db)
    (alive : db.gateways.get gatewayId = some gateway)
    (allocated : Wg.allocatePeerIp db gatewayId gateway choice = .ok (after, ip)) :
    ip ∈ Wg.peerHosts gateway.wgSubnet := by
  rcases allocatePeerIp_cases allocated with ⟨-, id, row, stored, reusable, rfl⟩ | ⟨-, host, -⟩
  · simp only [Wg.reusableAllocation, Bool.and_eq_true, decide_eq_true_eq] at reusable
    rw [rows.subnet gatewayId gateway alive]
    exact (rows.named id row gatewayId stored reusable.1.1).1
  · exact host

theorem peer_address_unused {base gatewayId choice ip : Nat} {db after : Db} {gateway : Gateway} (rows : PeerRows base db)
    (allocated : Wg.allocatePeerIp db gatewayId gateway choice = .ok (after, ip)) {peerId : Nat} {peer : Peer}
    (attached : db.peers.get peerId = some peer) : peer.allowedIp ≠ ip := by
  obtain ⟨allocation, own, found, named, address⟩ := rows.peer_row peerId peer attached
  rcases allocatePeerIp_cases allocated with ⟨-, id, row, stored, reusable, rfl⟩ | ⟨-, -, -, fresh, -⟩
  · simp only [Wg.reusableAllocation, Bool.and_eq_true, decide_eq_true_eq, Bool.not_eq_true', List.contains_eq_mem,
      decide_eq_false_iff_not] at reusable
    obtain ⟨⟨names, -⟩, unused⟩ := reusable
    intro same
    have own_row := rows.apart allocation id own row found stored (by rw [named]; rfl) (by rw [names]; rfl)
      (address.trans same)
    subst own_row
    rw [stored] at found
    cases found
    rw [names] at named
    exact unused (Wg.mem_peerAddresses.mpr ⟨peerId, peer, attached, (Option.some.inj named).symm, same⟩)
  · rw [← address]
    exact fresh allocation own found

/-- One row can be taken up now, whichever is met first. -/
theorem peer_address_again {base gatewayId choice ip : Nat} {db after : Db} {gateway : Gateway} (rows : PeerRows base db)
    (allocated : Wg.allocatePeerIp db gatewayId gateway choice = .ok (after, ip)) (later : Nat) :
    Wg.allocatePeerIp after gatewayId gateway later = .ok (after, ip) := by
  have found : ∃ id row, after.ipAllocations.anyRow
      (Wg.reusableAllocation gatewayId (Wg.peerAddresses after gatewayId)) later = some (id, row) ∧ row.address = ip := by
    rcases allocatePeerIp_cases allocated with ⟨rfl, id, row, stored, reusable, address⟩ | ⟨unusable, -, unused, -, rfl⟩
    · refine ⟨id, row, Table.anyRow_of_single stored reusable ?_ later, address⟩
      intro other value present matching
      simp only [Wg.reusableAllocation, Bool.and_eq_true, decide_eq_true_eq] at reusable matching
      exact rows.single other id value row gatewayId present stored matching.1.1 reusable.1.1
    · refine ⟨_, _, Table.anyRow_of_single (Table.get_insert_self _ _) ?_ ?_ later, rfl⟩
      · show Wg.reusableAllocation gatewayId (Wg.peerAddresses db gatewayId) ⟨gateway.workerId, ip, some gatewayId, none⟩ = true
        simp [Wg.reusableAllocation, unused]
      · intro other value present matching
        by_contra old
        rw [Table.get_insert_of_ne old] at present
        have refused : Wg.reusableAllocation gatewayId (Wg.peerAddresses db gatewayId) value = true := matching
        rw [unusable other value present] at refused
        cases refused
  obtain ⟨id, row, search, address⟩ := found
  unfold Wg.allocatePeerIp
  simp only [search, address]

/-- In every state of every run. -/
theorem peer_address_sound {base : Nat} {start db : Db} (unused : Unused start)
    (reached : Reaches (AddressEvent.perform base) (fun _ _ => True) start db) {gatewayId : Nat} {gateway : Gateway}
    (alive : db.gateways.get gatewayId = some gateway) {choice ip : Nat} {after : Db}
    (allocated : Wg.allocatePeerIp db gatewayId gateway choice = .ok (after, ip)) :
    let subnet : Lib.Ipv4.Network := ⟨gateway.wgSubnet, 24⟩
    subnet.contains ip = true ∧ ip ≠ subnet.first ∧ ip ≠ subnet.broadcast ∧ ip ≠ subnet.first + 1 ∧
      (∀ id peer, db.peers.get id = some peer → peer.allowedIp ≠ ip) ∧
        ∀ later, Wg.allocatePeerIp after gatewayId gateway later = .ok (after, ip) := by
  intro subnet
  have rows : PeerRows base db := by
    apply reached.invariant (peerRows_unused unused)
    exact fun _ _ _ earlier _ done => peerRows_perform earlier done
  have host := peer_address_in_subnet rows alive allocated
  rw [Wg.peerHosts, List.mem_range'_1] at host
  have size : subnet.size = 256 := rfl
  have aligned : subnet.first = gateway.wgSubnet := by
    have cut := rows.subnet gatewayId gateway alive
    rw [Lib.Ipv4.Network.first, size]
    show gateway.wgSubnet / 256 * 256 = gateway.wgSubnet
    unfold allocateWgSubnet at cut
    omega
  have last : subnet.broadcast = gateway.wgSubnet + 255 := by
    rw [Lib.Ipv4.Network.broadcast, size, aligned]
    omega
  refine ⟨Lib.Ipv4.Network.contains_iff.mpr ⟨by omega, by omega⟩, by omega, by omega, by omega, ?_, ?_⟩
  · intro id peer attached
    exact peer_address_unused rows allocated attached
  · exact peer_address_again rows allocated

/-- The gateway is deleted with its peer, and the next one has its id and takes up the row it left. -/
def reusedGateway : List AddressEvent :=
  linkedGateway.map .usual ++ [.deleteKeeping ⟨.ok (), .ok ()⟩ 1 none, .reuseIds 1] ++
    [.usual (.createGateway 0 (.ok ()) ⟨none, none, some 1⟩)]

/-- The address and whether a row was added for it. -/
def firstAddress (db : Db) : Option (Gateway × Db × Nat) :=
  (db.gateways.get 1).bind fun gateway =>
    (Wg.allocatePeerIp db 1 gateway 0).toOption.map fun found => (gateway, found.1, found.2)

theorem peer_address_sound_reused :
    ∃ db gateway after ip, Reaches (AddressEvent.perform 2624) (fun _ _ => True) oneWorkerDb db ∧
      db.gateways.get 1 = some gateway ∧ Wg.allocatePeerIp db 1 gateway 0 = .ok (after, ip) ∧
      after.ipAllocations.next = db.ipAllocations.next ∧
      ∀ later, Wg.allocatePeerIp after 1 gateway later = .ok (after, ip) := by
  have ran : (Lib.run (AddressEvent.perform 2624) (fun _ _ => true) oneWorkerDb reusedGateway).any (fun db =>
      (firstAddress db).any fun found => decide (found.2.1.ipAllocations.next = db.ipAllocations.next)) = true := by
    decide +kernel
  obtain ⟨db, arrived, first⟩ := Lib.exists_of_any ran
  obtain ⟨entry, found, same⟩ := Lib.exists_of_any first
  obtain ⟨gateway, alive, result⟩ := Option.bind_eq_some_iff.mp found
  obtain ⟨⟨after, ip⟩, allocated, rfl⟩ := Option.map_eq_some_iff.mp result
  have reached := Lib.reaches_of_run (fun _ _ _ => trivial) arrived
  have sound := peer_address_sound oneWorkerDb_unused reached alive (toOption_some allocated)
  exact ⟨db, gateway, after, ip, reached, alive, toOption_some allocated, of_decide_eq_true same, sound.2.2.2.2.2⟩

end DeepOrc.Allocation
