import DeepOrc.Allocation.Operations

/-!
# Allocation rows of gateways and peers that are gone

Deleting a gateway takes its peers with it, but the address of a peer is released only when the peer itself is
deleted. What is kept besides is that every gateway and every peer has exactly one row, and every row an owner.
-/

namespace DeepOrc.Allocation

open Models Repositories Services
open Lib (Table Reaches)

/-! ### Rows in use -/

def IpInUse (db : Db) (row : IpAllocation) : Prop :=
  (∃ id gateway, db.gateways.get id = some gateway ∧ gateway.workerId = row.workerId ∧ gateway.vmIp = row.address) ∨
    ∃ id peer gateway, db.peers.get id = some peer ∧ db.gateways.get peer.gatewayId = some gateway ∧
      gateway.workerId = row.workerId ∧ peer.allowedIp = row.address

def PortInUse (db : Db) (row : PortAllocation) : Prop :=
  ∃ id gateway, db.gateways.get id = some gateway ∧ gateway.workerId = row.workerId ∧ gateway.udpPort = row.udpPort

structure NoLeaks (db : Db) : Prop where
  ips : ∀ id row, db.ipAllocations.get id = some row → IpInUse db row
  ports : ∀ id row, db.portAllocations.get id = some row → PortInUse db row

/-- No gateway is deleted that still has a peer. -/
def PeersDeleted (db : Db) : Operation → Prop
  | .executeDeleteGateway _ gatewayId _ => ∀ id peer, db.peers.get id = some peer → peer.gatewayId ≠ gatewayId
  | _ => True

/-! ### Every row has an owner -/

/-- The columns of a gateway that allocations are about. -/
structure Place where
  workerId : Nat
  vmIp : Nat
  udpPort : Nat

def place (row : Gateway) : Place := ⟨row.workerId, row.vmIp, row.udpPort⟩

def placeOf (db : Db) (gatewayId : Nat) : Option Place := (db.gateways.get gatewayId).map place

/-- A gateway's own row names no gateway; the row of a peer names the peer's. -/
inductive IpOwner (db : Db) (row : IpAllocation) : Prop
  | gateway {gatewayId : Nat} {own : Place} (alive : placeOf db gatewayId = some own)
      (worker : own.workerId = row.workerId) (address : own.vmIp = row.address) (untagged : row.gatewayId = none)
  | peer {id : Nat} {peer : Peer} {own : Place} (alive : db.peers.get id = some peer)
      (gateway : placeOf db peer.gatewayId = some own) (worker : own.workerId = row.workerId)
      (address : peer.allowedIp = row.address) (tagged : row.gatewayId = some peer.gatewayId)

structure Accounted (db : Db) : Prop where
  ip_owner : ∀ id row, db.ipAllocations.get id = some row → IpOwner db row
  ip_unique : db.ipAllocations.Unique fun row => (row.workerId, row.address)
  vm_row : ∀ gatewayId own, placeOf db gatewayId = some own → ∃ id row, db.ipAllocations.get id = some row ∧
    row.workerId = own.workerId ∧ row.address = own.vmIp ∧ row.gatewayId = none
  vm_unique : db.gateways.Unique fun row => (row.workerId, row.vmIp)
  peer_row : ∀ id peer, db.peers.get id = some peer → ∃ own allocation row,
    placeOf db peer.gatewayId = some own ∧ db.ipAllocations.get allocation = some row ∧
      row.workerId = own.workerId ∧ row.address = peer.allowedIp ∧ row.gatewayId = some peer.gatewayId
  peer_unique : db.peers.Unique Peer.gatewayId
  port_owner : ∀ id row, db.portAllocations.get id = some row → PortInUse db row
  port_unique : db.portAllocations.Unique fun row => (row.workerId, row.udpPort)

theorem placeOf_some {db : Db} {gatewayId : Nat} {own : Place} (alive : placeOf db gatewayId = some own) :
    ∃ gateway, db.gateways.get gatewayId = some gateway ∧ place gateway = own := Option.map_eq_some_iff.mp alive

theorem placeOf_of_get {db : Db} {gatewayId : Nat} {gateway : Gateway}
    (alive : db.gateways.get gatewayId = some gateway) : placeOf db gatewayId = some (place gateway) := by
  rw [placeOf, alive]
  rfl

theorem Accounted.noLeaks {db : Db} (accounted : Accounted db) : NoLeaks db where
  ips := by
    intro id row present
    cases accounted.ip_owner id row present with
    | gateway alive worker address untagged =>
        obtain ⟨gateway, found, rfl⟩ := placeOf_some alive
        exact .inl ⟨_, gateway, found, worker, address⟩
    | peer alive gateway worker address tagged =>
        obtain ⟨row, found, rfl⟩ := placeOf_some gateway
        exact .inr ⟨_, _, row, alive, found, worker, address⟩
  ports := accounted.port_owner

theorem accounted_unused {db : Db} (unused : Unused db) : Accounted db := by
  have places : ∀ id, placeOf db id = none := by
    intro id
    rw [placeOf, unused.gateways]
    rfl
  constructor
  · intro id row present
    simp [unused.ipAllocations] at present
  · intro first second one other present
    simp [unused.ipAllocations] at present
  · intro gatewayId own alive
    simp [places] at alive
  · intro first second one other present
    simp [unused.gateways] at present
  · intro id peer present
    simp [unused.peers] at present
  · intro first second one other present
    simp [unused.peers] at present
  · intro id row present
    simp [unused.portAllocations] at present
  · intro first second one other present
    simp [unused.portAllocations] at present

/-- The row of a gateway's own address names no gateway. -/
theorem Accounted.untagged {db : Db} (accounted : Accounted db) {gatewayId id : Nat} {own : Place} {row : IpAllocation}
    (alive : placeOf db gatewayId = some own) (stored : db.ipAllocations.get id = some row)
    (worker : row.workerId = own.workerId) (address : row.address = own.vmIp) : row.gatewayId = none := by
  obtain ⟨id', row', stored', worker', address', untagged⟩ := accounted.vm_row gatewayId own alive
  have same := accounted.ip_unique id id' row row' stored stored'
    (Prod.ext (worker.trans worker'.symm) (address.trans address'.symm))
  subst same
  rw [stored] at stored'
  cases stored'
  exact untagged

/-- Owners stay owners while no gateway and no peer goes. -/
theorem IpOwner.grow {db after : Db} {row : IpAllocation} (owner : IpOwner db row)
    (places : ∀ id own, placeOf db id = some own → placeOf after id = some own)
    (peers : ∀ id peer, db.peers.get id = some peer → after.peers.get id = some peer) : IpOwner after row := by
  cases owner with
  | gateway alive worker address untagged => exact .gateway (places _ _ alive) worker address untagged
  | peer alive gateway worker address tagged =>
      exact .peer (peers _ _ alive) (places _ _ gateway) worker address tagged

/-! ### Creations -/

theorem placeOf_created {calls : CreationCalls} {request : CreateGatewayRequest} {db after : Db}
    {gatewayId jobId : Nat} (made : Created calls request db after gatewayId jobId) (id : Nat) :
    placeOf after id =
      if id = db.gateways.next then some ⟨made.workerId, made.vmIp, made.udpPort⟩ else placeOf db id := by
  rw [placeOf, made.gateways, Table.get_insert]
  split <;> rfl

theorem accounted_created {calls : CreationCalls} {request : CreateGatewayRequest} {db after : Db}
    {gatewayId jobId : Nat} (accounted : Accounted db) (made : Created calls request db after gatewayId jobId) :
    Accounted after := by
  have places := placeOf_created made
  have newPlace : placeOf after db.gateways.next = some ⟨made.workerId, made.vmIp, made.udpPort⟩ := by
    rw [places, if_pos rfl]
  have kept : ∀ id own, placeOf db id = some own → placeOf after id = some own := by
    intro id own alive
    obtain ⟨gateway, found, -⟩ := placeOf_some alive
    rw [places, if_neg (Nat.ne_of_lt (Table.lt_next_of_get found))]
    exact alive
  constructor
  · intro id row present
    rw [made.ipAllocations, Table.get_insert] at present
    split at present
    · cases present
      exact .gateway newPlace rfl rfl rfl
    · refine (accounted.ip_owner id row present).grow kept ?_
      rw [made.peers]
      exact fun _ _ alive => alive
  · exact made.addresses_unique accounted.ip_unique
  · intro id own alive
    rw [places] at alive
    split at alive
    · cases alive
      refine ⟨db.ipAllocations.next, ⟨made.workerId, made.vmIp, none, none⟩, ?_, rfl, rfl, rfl⟩
      rw [made.ipAllocations]
      exact Table.get_insert_self _ _
    · obtain ⟨allocation, row, present, facts⟩ := accounted.vm_row id own alive
      exact ⟨allocation, row, made.address_kept present, facts⟩
  · exact made.vmIps_unique accounted.vm_unique
  · intro id peer present
    rw [made.peers] at present
    obtain ⟨own, allocation, row, alive, stored, facts⟩ := accounted.peer_row id peer present
    exact ⟨own, allocation, row, kept _ own alive, made.address_kept stored, facts⟩
  · rw [made.peers]
    exact accounted.peer_unique
  · intro id row present
    have old : ∀ row, PortInUse db row → PortInUse after row := by
      rintro row ⟨gatewayId, gateway, alive, facts⟩
      exact ⟨gatewayId, gateway, made.gateway_kept alive, facts⟩
    rcases made.port_allocated with ⟨-, inserted⟩ | ⟨-, same⟩
    · rw [inserted, Table.get_insert] at present
      split at present
      · cases present
        refine ⟨db.gateways.next, newGateway calls gatewayId made.workerId made.name made.vmIp made.udpPort, ?_, rfl, rfl⟩
        rw [made.gateways]
        exact Table.get_insert_self _ _
      · exact old row (accounted.port_owner id row present)
    · rw [same] at present
      exact old row (accounted.port_owner id row present)
  · rcases made.port_allocated with ⟨free, inserted⟩ | ⟨-, same⟩
    · rw [inserted]
      apply accounted.port_unique.insert
      intro id other present same
      simp only [Prod.mk.injEq] at same
      exact free (Incus.mem_allocatedPorts.mpr ⟨id, other, present, same⟩)
    · rw [same]
      exact accounted.port_unique

/-! ### Deletions of gateways -/

theorem placeOf_removed (db : Db) (gatewayId : Nat) (gateway : Gateway) (jobId : Option Nat) (id : Nat) :
    placeOf (completeJob (removeGateway db gatewayId gateway) jobId) id =
      if id = gatewayId then none else placeOf db id := by
  rw [placeOf, gateways_completeJob, gateways_removeGateway]
  split
  · rename_i same
    rw [same, Table.get_delete_self]
    rfl
  · rename_i other
    rw [Table.get_delete_of_ne other]
    rfl

theorem completeJob_tables (db : Db) (jobId : Option Nat) :
    (completeJob db jobId).ipAllocations = db.ipAllocations ∧
      (completeJob db jobId).portAllocations = db.portAllocations ∧ (completeJob db jobId).peers = db.peers := by
  cases jobId <;> exact ⟨rfl, rfl, rfl⟩

/-- What goes with a gateway: the rows of its address and its port, and its peers. -/
theorem removed_ip {db : Db} (unique : db.ipAllocations.Unique fun row => (row.workerId, row.address)) {gatewayId : Nat}
    {gateway : Gateway} {jobId : Option Nat} {id : Nat} {row : IpAllocation} :
    (completeJob (removeGateway db gatewayId gateway) jobId).ipAllocations.get id = some row ↔
      ∃ before, db.ipAllocations.get id = some before ∧
        (before.workerId = gateway.workerId && before.address = gateway.vmIp) = false ∧
          IpAllocation.forgetGateway gatewayId before = row := by
  have table : (completeJob (removeGateway db gatewayId gateway) jobId).ipAllocations =
      (Incus.releaseVmIp db gateway.workerId gateway.vmIp).ipAllocations.map
        (IpAllocation.forgetGateway gatewayId) := by
    rw [(completeJob_tables _ jobId).1, removeGateway, Incus.releaseUdpPort_eq]
    rfl
  rw [table, Table.get_map, Option.map_eq_some_iff]
  simp only [Incus.get_releaseVmIp unique, and_assoc]

theorem removed_port {db : Db} (unique : db.portAllocations.Unique fun row => (row.workerId, row.udpPort))
    {gatewayId : Nat} {gateway : Gateway} {jobId : Option Nat} {id : Nat} {row : PortAllocation} :
    (completeJob (removeGateway db gatewayId gateway) jobId).portAllocations.get id = some row ↔
      ∃ before, db.portAllocations.get id = some before ∧
        (before.workerId = gateway.workerId && before.udpPort = gateway.udpPort) = false ∧
          PortAllocation.forgetGateway gatewayId before = row := by
  have table : (completeJob (removeGateway db gatewayId gateway) jobId).portAllocations =
      (Incus.releaseUdpPort db gateway.workerId gateway.udpPort).portAllocations.map
        (PortAllocation.forgetGateway gatewayId) := by
    rw [(completeJob_tables _ jobId).2.1, removeGateway, Incus.releaseUdpPort_eq, Incus.releaseUdpPort_eq,
      Incus.releaseVmIp_eq]
    rfl
  rw [table, Table.get_map, Option.map_eq_some_iff]
  simp only [Incus.get_releaseUdpPort unique, and_assoc]

theorem removed_peer {db : Db} {gatewayId : Nat} {gateway : Gateway} {jobId : Option Nat} {id : Nat} {peer : Peer} :
    (completeJob (removeGateway db gatewayId gateway) jobId).peers.get id = some peer ↔
      db.peers.get id = some peer ∧ peer.gatewayId ≠ gatewayId := by
  have table : (completeJob (removeGateway db gatewayId gateway) jobId).peers =
      db.peers.deleteWhere fun _ peer => peer.gatewayId = gatewayId := by
    rw [(completeJob_tables _ jobId).2.2, removeGateway, Incus.releaseUdpPort_eq, Incus.releaseVmIp_eq]
    rfl
  rw [table, Table.get_deleteWhere, Option.filter_eq_some_iff]
  simp

theorem forgetGateway_key (gatewayId : Nat) (row : IpAllocation) :
    (IpAllocation.forgetGateway gatewayId row).workerId = row.workerId ∧
      (IpAllocation.forgetGateway gatewayId row).address = row.address := by
  unfold IpAllocation.forgetGateway
  split <;> exact ⟨rfl, rfl⟩

theorem forgetGateway_port_key (gatewayId : Nat) (row : PortAllocation) :
    (PortAllocation.forgetGateway gatewayId row).workerId = row.workerId ∧
      (PortAllocation.forgetGateway gatewayId row).udpPort = row.udpPort := by
  unfold PortAllocation.forgetGateway
  split <;> exact ⟨rfl, rfl⟩

theorem accounted_removed {db : Db} {gatewayId : Nat} {gateway : Gateway} {jobId : Option Nat}
    (accounted : Accounted db) (present : db.gateways.get gatewayId = some gateway)
    (noPeers : ∀ id peer, db.peers.get id = some peer → peer.gatewayId ≠ gatewayId) :
    Accounted (completeJob (removeGateway db gatewayId gateway) jobId) := by
  have places := placeOf_removed db gatewayId gateway jobId
  have kept : ∀ id own, id ≠ gatewayId → placeOf db id = some own →
      placeOf (completeJob (removeGateway db gatewayId gateway) jobId) id = some own := by
    intro id own other alive
    rw [places, if_neg other]
    exact alive
  -- without peers no row names the gateway, so none is changed
  have unnamed : ∀ id row, db.ipAllocations.get id = some row → IpAllocation.forgetGateway gatewayId row = row := by
    intro id row stored
    apply if_neg
    cases accounted.ip_owner id row stored with
    | gateway alive worker address untagged =>
        rw [untagged]
        exact fun impossible => nomatch impossible
    | peer alive gateway worker address tagged =>
        rw [tagged]
        exact fun same => noPeers _ _ alive (Option.some.inj same)
  have keptIp : ∀ id row, db.ipAllocations.get id = some row →
      (row.workerId = gateway.workerId && row.address = gateway.vmIp) = false →
        (completeJob (removeGateway db gatewayId gateway) jobId).ipAllocations.get id = some row := by
    intro id row stored unmatched
    exact (removed_ip accounted.ip_unique).mpr ⟨row, stored, unmatched, unnamed id row stored⟩
  constructor
  · intro id row stored
    obtain ⟨before, found, unmatched, rfl⟩ := (removed_ip accounted.ip_unique).mp stored
    rw [unnamed id before found]
    cases accounted.ip_owner id before found with
    | gateway alive worker address untagged =>
        refine .gateway (kept _ _ ?_ alive) worker address untagged
        rintro rfl
        rw [placeOf_of_get present] at alive
        cases alive
        simp [place] at worker address
        simp [worker, address] at unmatched
    | peer alive gateway worker address tagged =>
        have other := noPeers _ _ alive
        exact .peer (removed_peer.mpr ⟨alive, other⟩) (kept _ _ other gateway) worker address tagged
  · apply accounted.ip_unique.of_rows
    intro id row stored
    obtain ⟨before, found, -, rfl⟩ := (removed_ip accounted.ip_unique).mp stored
    exact ⟨before, found, by simp [forgetGateway_key]⟩
  · intro id own alive
    rw [places] at alive
    split at alive
    · cases alive
    · rename_i other
      obtain ⟨allocation, row, stored, worker, address, untagged⟩ := accounted.vm_row id own alive
      refine ⟨allocation, row, keptIp allocation row stored ?_, worker, address, untagged⟩
      -- another gateway of this worker has another address
      by_contra matched
      simp only [Bool.not_eq_false, Bool.and_eq_true, decide_eq_true_eq] at matched
      obtain ⟨found, live, rfl⟩ := placeOf_some alive
      refine other (accounted.vm_unique id gatewayId found gateway live present ?_)
      exact Prod.ext (worker.symm.trans matched.1) (address.symm.trans matched.2)
  · rw [gateways_completeJob, gateways_removeGateway]
    apply accounted.vm_unique.of_rows
    intro id row stored
    exact ⟨row, (Table.get_delete_some stored).2, rfl⟩
  · intro id peer alive
    obtain ⟨alive, other⟩ := removed_peer.mp alive
    obtain ⟨own, allocation, row, gatewayAlive, stored, worker, address, tagged⟩ := accounted.peer_row id peer alive
    refine ⟨own, allocation, row, kept _ own other gatewayAlive, keptIp allocation row stored ?_, worker, address, tagged⟩
    by_contra matched
    simp only [Bool.not_eq_false, Bool.and_eq_true, decide_eq_true_eq] at matched
    rw [accounted.untagged (placeOf_of_get present) stored matched.1 matched.2] at tagged
    cases tagged
  · apply accounted.peer_unique.of_rows
    intro id peer alive
    exact ⟨peer, (removed_peer.mp alive).1, rfl⟩
  · intro id row stored
    obtain ⟨before, found, unmatched, rfl⟩ := (removed_port accounted.port_unique).mp stored
    obtain ⟨user, row, alive, worker, port⟩ := accounted.port_owner id before found
    have other : user ≠ gatewayId := by
      rintro rfl
      rw [present] at alive
      cases alive
      simp [worker, port] at unmatched
    refine ⟨user, row, ?_, ?_⟩
    · rw [gateways_completeJob, gateways_removeGateway, Table.get_delete_of_ne other]
      exact alive
    · rw [(forgetGateway_port_key gatewayId before).1, (forgetGateway_port_key gatewayId before).2]
      exact ⟨worker, port⟩
  · apply accounted.port_unique.of_rows
    intro id row stored
    obtain ⟨before, found, -, rfl⟩ := (removed_port accounted.port_unique).mp stored
    exact ⟨before, found, by simp [forgetGateway_port_key]⟩

/-! ### Peers -/

theorem accounted_peerCreated {calls : CreatePeerCalls} {db after : Db} {gatewayId : Nat} {name : String}
    (accounted : Accounted db) (created : createPeer calls db gatewayId name = .ok after) : Accounted after := by
  obtain ⟨gateway, allocated, address, ready, first, allocation, insertion⟩ := createPeer_steps created
  have alive := placeOf_of_get (get_of_readyGateway ready)
  have unnamed : ∀ id row, db.ipAllocations.get id = some row → row.gatewayId ≠ some gatewayId := by
    intro id row stored
    cases accounted.ip_owner id row stored with
    | gateway alive worker address untagged =>
        rw [untagged]
        exact fun impossible => nomatch impossible
    | peer alive gateway worker address tagged =>
        rw [tagged]
        exact fun same => first _ _ alive (Option.some.inj same)
  obtain ⟨rfl, fresh⟩ := Wg.allocatePeerIp_fresh unnamed allocation
  obtain ⟨rfl, -⟩ := insertPeer_ok insertion
  have keptPeer : ∀ (row : Peer) id peer, db.peers.get id = some peer → (db.peers.insert row).get id = some peer := by
    intro row id peer present
    exact Table.get_insert_of_get present row
  have keptIp : ∀ (row : IpAllocation) id other, db.ipAllocations.get id = some other →
      (db.ipAllocations.insert row).get id = some other := by
    intro row id other present
    exact Table.get_insert_of_get present row
  refine { accounted with ip_owner := ?_, ip_unique := ?_, vm_row := ?_, peer_row := ?_, peer_unique := ?_ }
  · intro id row stored
    dsimp only at stored
    rw [Table.get_insert] at stored
    split at stored
    · cases stored
      exact .peer (Table.get_insert_self _ _) alive rfl rfl rfl
    · exact (accounted.ip_owner id row stored).grow (fun _ _ alive => alive) (keptPeer _)
  · apply accounted.ip_unique.insert
    intro id other stored same
    exact fresh id other stored (congrArg Prod.snd same)
  · intro id own alive
    obtain ⟨allocation, row, stored, facts⟩ := accounted.vm_row id own alive
    exact ⟨allocation, row, keptIp _ allocation row stored, facts⟩
  · intro id peer present
    dsimp only at present
    rw [Table.get_insert] at present
    split at present
    · cases present
      exact ⟨_, _, _, alive, Table.get_insert_self _ _, rfl, rfl, rfl⟩
    · obtain ⟨own, allocation, row, gatewayAlive, stored, facts⟩ := accounted.peer_row id peer present
      exact ⟨own, allocation, row, gatewayAlive, keptIp _ allocation row stored, facts⟩
  · apply accounted.peer_unique.insert
    intro id other present same
    exact first id other present same

theorem accounted_peerDeleted {db : Db} {peerId : Nat} {peer : Peer} (accounted : Accounted db)
    (present : db.peers.get peerId = some peer) :
    Accounted { Wg.releasePeerIp db peer.gatewayId peer.allowedIp with peers := db.peers.delete peerId } := by
  obtain ⟨own, allocation, named, gatewayAlive, stored, worker, address, tagged⟩ := accounted.peer_row peerId peer present
  -- rows that name the peer's gateway belong to the peer
  have single : ∀ id row, db.ipAllocations.get id = some row → row.gatewayId = some peer.gatewayId → id = allocation := by
    intro id row found names
    cases accounted.ip_owner id row found with
    | gateway alive worker' address' untagged =>
        rw [untagged] at names
        cases names
    | @peer other owner _ alive gateway worker' address' tagged' =>
        rw [tagged'] at names
        have same := accounted.peer_unique other peerId owner peer alive present (Option.some.inj names)
        subst same
        rw [present] at alive
        cases alive
        rw [gatewayAlive] at gateway
        cases gateway
        exact accounted.ip_unique id allocation row named found stored
          (Prod.ext (worker'.symm.trans worker.symm) (address'.symm.trans address.symm))
  have released : ∀ id row, (Wg.releasePeerIp db peer.gatewayId peer.allowedIp).ipAllocations.get id = some row ↔
      db.ipAllocations.get id = some row ∧ (row.gatewayId = some peer.gatewayId && row.address = peer.allowedIp) = false := by
    intro id row
    apply Wg.get_releasePeerIp
    intro first second one other found found' names names' _
    exact (single first one found names).trans (single second other found' names').symm
  rw [Wg.releasePeerIp_eq] at released ⊢
  refine { accounted with ip_owner := ?_, ip_unique := ?_, vm_row := ?_, peer_row := ?_, peer_unique := ?_ }
  · intro id row kept
    obtain ⟨found, unmatched⟩ := (released id row).mp kept
    cases accounted.ip_owner id row found with
    | gateway alive worker address untagged => exact .gateway alive worker address untagged
    | @peer other owner _ alive gateway worker' address' tagged' =>
        have different : other ≠ peerId := by
          rintro rfl
          rw [present] at alive
          cases alive
          simp [tagged', address'] at unmatched
        exact .peer ((Table.get_delete_of_ne different _).trans alive) gateway worker' address' tagged'
  · apply accounted.ip_unique.of_rows
    intro id row kept
    exact ⟨row, ((released id row).mp kept).1, rfl⟩
  · intro id other alive
    obtain ⟨vm, row, found, worker', address', untagged⟩ := accounted.vm_row id other alive
    exact ⟨vm, row, (released vm row).mpr ⟨found, by simp [untagged]⟩, worker', address', untagged⟩
  · intro id other alive
    obtain ⟨different, alive⟩ := Table.get_delete_some alive
    obtain ⟨place, own, row, gateway, found, worker', address', tagged'⟩ := accounted.peer_row id other alive
    refine ⟨place, own, row, gateway, (released own row).mpr ⟨found, ?_⟩, worker', address', tagged'⟩
    by_contra matched
    simp only [Bool.not_eq_false, Bool.and_eq_true, decide_eq_true_eq] at matched
    rw [tagged'] at matched
    exact different (accounted.peer_unique id peerId other peer alive present (Option.some.inj matched.1))
  · apply accounted.peer_unique.of_rows
    intro id other alive
    exact ⟨other, (Table.get_delete_some alive).2, rfl⟩

/-! ### Whole runs -/

theorem placeOf_updateGatewayStatus (db : Db) (gatewayId : Nat) (status : GatewayStatus) (error : Option String)
    (id : Nat) : placeOf (updateGatewayStatus db gatewayId status error) id = placeOf db id := by
  rw [placeOf, get_updateGatewayStatus]
  split
  · rw [Option.map_map]
    rfl
  · rfl

theorem accounted_status {db : Db} (accounted : Accounted db) (gatewayId : Nat) (status : GatewayStatus)
    (error : Option String) : Accounted (updateGatewayStatus db gatewayId status error) := by
  have places := placeOf_updateGatewayStatus db gatewayId status error
  refine { accounted with ip_owner := ?_, vm_row := ?_, vm_unique := ?_, peer_row := ?_, port_owner := ?_ }
  · intro id row stored
    refine (accounted.ip_owner id row stored).grow ?_ (fun _ _ alive => alive)
    intro other own alive
    rw [places]
    exact alive
  · intro id own alive
    rw [places] at alive
    exact accounted.vm_row id own alive
  · apply accounted.vm_unique.of_rows
    intro id row stored
    obtain ⟨before, found, rfl⟩ := Table.get_modify_some stored
    refine ⟨before, found, ?_⟩
    split <;> rfl
  · intro id peer present
    obtain ⟨own, allocation, row, alive, facts⟩ := accounted.peer_row id peer present
    refine ⟨own, allocation, row, ?_, facts⟩
    rw [places]
    exact alive
  · intro id row stored
    obtain ⟨user, gateway, alive, facts⟩ := accounted.port_owner id row stored
    have kept := placeOf_of_get alive
    rw [← places] at kept
    obtain ⟨after, found, same⟩ := placeOf_some kept
    refine ⟨user, after, found, ?_⟩
    simp only [place, Place.mk.injEq] at same
    rw [same.1, same.2.2]
    exact facts

theorem accounted_perform {base : Nat} {db after : Db} {operation : Operation} (accounted : Accounted db)
    (allowed : PeersDeleted db operation) (done : operation.perform base db = some after) : Accounted after := by
  cases operation with
  | createGateway now preauth request =>
      obtain ⟨gatewayId, jobId, ⟨made⟩⟩ := created_of_perform done
      exact accounted_created accounted made
  | executeDeleteGateway calls gatewayId jobId =>
      rcases deleted_of_perform done with ⟨-, rfl⟩ | ⟨gateway, present, rfl⟩
      · cases jobId with
        | none => exact accounted
        | some job => exact { accounted with ip_owner := fun id row stored =>
            (accounted.ip_owner id row stored).grow (fun _ _ alive => alive) fun _ _ alive => alive }
      · exact accounted_removed accounted present allowed
  | createPeer calls gatewayId name => exact accounted_peerCreated accounted (toOption_some done)
  | deletePeer peerId =>
      obtain ⟨peer, present, rfl⟩ := peerDeleted_of_perform done
      exact accounted_peerDeleted accounted present
  | setGatewayStatus gatewayId status error =>
      cases done
      exact accounted_status accounted gatewayId status error

/-- The row of a peer that goes with its gateway stays, and nobody uses its address. -/
theorem leak_of_removed {db : Db} {gatewayId id : Nat} {gateway : Gateway} {jobId : Option Nat} {peer : Peer}
    (accounted : Accounted db) (present : db.gateways.get gatewayId = some gateway)
    (attached : db.peers.get id = some peer) (owned : peer.gatewayId = gatewayId) :
    ¬ NoLeaks (completeJob (removeGateway db gatewayId gateway) jobId) := by
  subst owned
  intro tidy
  obtain ⟨own, allocation, row, alive, stored, worker, address, tagged⟩ := accounted.peer_row id peer attached
  have unmatched : (row.workerId = gateway.workerId && row.address = gateway.vmIp) = false := by
    by_contra matched
    simp only [Bool.not_eq_false, Bool.and_eq_true, decide_eq_true_eq] at matched
    rw [accounted.untagged (placeOf_of_get present) stored matched.1 matched.2] at tagged
    cases tagged
  have left : (completeJob (removeGateway db peer.gatewayId gateway) jobId).ipAllocations.get allocation = some
      (IpAllocation.forgetGateway peer.gatewayId row) := (removed_ip accounted.ip_unique).mpr ⟨row, stored, unmatched, rfl⟩
  rcases tidy.ips allocation _ left with ⟨other, user, found, worker', address'⟩ | ⟨other, user, host, found, hosted, worker', address'⟩
  · -- another gateway's address would have a row that names no gateway
    rw [gateways_completeJob, gateways_removeGateway] at found
    obtain ⟨-, found⟩ := Table.get_delete_some found
    rw [(forgetGateway_key _ row).1] at worker'
    rw [(forgetGateway_key _ row).2] at address'
    rw [accounted.untagged (placeOf_of_get found) stored worker'.symm address'.symm] at tagged
    cases tagged
  · -- another peer's row would name its own gateway
    obtain ⟨found, elsewhere⟩ := removed_peer.mp found
    rw [gateways_completeJob, gateways_removeGateway] at hosted
    obtain ⟨-, hosted⟩ := Table.get_delete_some hosted
    obtain ⟨place', allocation', row', alive', stored', worker'', address'', tagged'⟩ :=
      accounted.peer_row other user found
    rw [placeOf_of_get hosted] at alive'
    cases alive'
    rw [(forgetGateway_key _ row).1] at worker'
    rw [(forgetGateway_key _ row).2] at address'
    have same := accounted.ip_unique allocation allocation' row row' stored stored'
      (Prod.ext (worker'.symm.trans worker''.symm) (address'.symm.trans address''.symm))
    subst same
    rw [stored] at stored'
    cases stored'
    rw [tagged] at tagged'
    exact elsewhere (Option.some.inj tagged').symm

/-- No row leaks in runs that delete a gateway's peer before the gateway; the first gateway deleted with its
peer leaks one. -/
theorem no_leaks_while_peers_deleted {base : Nat} {start db : Db} (unused : Unused start)
    (reached : Reaches (Operation.perform base) PeersDeleted start db) :
    NoLeaks db ∧ ∀ calls gatewayId jobId after,
      (Operation.executeDeleteGateway calls gatewayId jobId).perform base db = some after →
        (NoLeaks after ↔ PeersDeleted db (.executeDeleteGateway calls gatewayId jobId)) := by
  have accounted : Accounted db := by
    apply reached.invariant (accounted_unused unused)
    exact fun _ _ _ earlier allowed done => accounted_perform earlier allowed done
  refine ⟨accounted.noLeaks, ?_⟩
  intro calls gatewayId jobId after done
  constructor
  · intro tidy id peer attached owned
    obtain ⟨own, allocation, row, alive, -⟩ := accounted.peer_row id peer attached
    obtain ⟨gateway, found, -⟩ := placeOf_some alive
    rw [owned] at found
    rcases deleted_of_perform done with ⟨absent, -⟩ | ⟨gateway', present, rfl⟩
    · rw [absent] at found
      cases found
    · exact leak_of_removed accounted present attached owned tidy
  · intro allowed
    exact (accounted_perform accounted allowed done).noLeaks

/-! ### A gateway with its peer, there and gone -/

def peersDeletedB (db : Db) : Operation → Bool
  | .executeDeleteGateway _ gatewayId _ => db.peers.toList.all fun entry => entry.2.gatewayId ≠ gatewayId
  | _ => true

theorem peersDeleted_of_check (db : Db) (operation : Operation) (checked : peersDeletedB db operation = true) :
    PeersDeleted db operation := by
  cases operation with
  | executeDeleteGateway calls gatewayId jobId =>
      intro id peer present
      have other := List.all_eq_true.mp checked (id, peer) (Table.mem_toList.mpr present)
      simpa using other
  | _ => trivial

def linkedGateway : List Operation :=
  [.createGateway 0 (.ok ()) ⟨none, none, some 1⟩, .setGatewayStatus 1 .ready none,
    .createPeer ⟨"key", 0, .ok (), .ok ()⟩ 1 "gw-000-link"]

def deleteGateway1 : Operation := .executeDeleteGateway ⟨.ok (), .ok ()⟩ 1 none

/-- The address of the peer stays taken. -/
theorem deleted_gateway_leaks_peer_address :
    ∃ db, Reaches (Operation.perform 2624) (fun _ _ => True) oneWorkerDb db ∧ ¬ NoLeaks db := by
  have ran : (Lib.run (Operation.perform 2624) (fun _ _ => true) oneWorkerDb (linkedGateway ++ [deleteGateway1])).any
      (fun db => decide (db.gateways.toList = [] ∧ db.peers.toList = [] ∧
        (db.ipAllocations.get 2).isSome = true)) = true := by
    decide +kernel
  obtain ⟨db, arrived, left⟩ := Lib.exists_of_any ran
  obtain ⟨noGateway, noPeer, row⟩ := of_decide_eq_true left
  refine ⟨db, Lib.reaches_of_run (fun _ _ _ => trivial) arrived, ?_⟩
  intro tidy
  obtain ⟨allocation, stored⟩ := Option.isSome_iff_exists.mp row
  rcases tidy.ips 2 allocation stored with ⟨id, gateway, present, -⟩ | ⟨id, peer, gateway, present, -⟩
  · have member := Table.mem_toList.mpr present
    rw [noGateway] at member
    cases member
  · have member := Table.mem_toList.mpr present
    rw [noPeer] at member
    cases member

theorem peer_deleted_first_leaks_nothing :
    ∃ db, Reaches (Operation.perform 2624) PeersDeleted oneWorkerDb db ∧ db.gateways.toList = [] ∧ NoLeaks db := by
  have ran : (Lib.run (Operation.perform 2624) peersDeletedB oneWorkerDb
      (linkedGateway ++ [.deletePeer 1, deleteGateway1])).any (fun db => decide (db.gateways.toList = [])) = true := by
    decide +kernel
  obtain ⟨db, arrived, gone⟩ := Lib.exists_of_any ran
  have reached := Lib.reaches_of_run peersDeleted_of_check arrived
  exact ⟨db, reached, of_decide_eq_true gone, (no_leaks_while_peers_deleted oneWorkerDb_unused reached).1⟩

end DeepOrc.Allocation
