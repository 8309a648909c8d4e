import DeepOrc.Repositories
import DeepOrc.Services.GatewayCreation
import DeepOrc.Wg.Ipam

/-! # Backhaul peers: what each operation does to the database -/

namespace DeepOrc.Services

open Models Repositories

def maxPeersPerGateway : Nat := 1

def listByGateway (db : Db) (gatewayId : Nat) : List (Nat × Peer) :=
  db.peers.toList.filter fun entry => entry.2.gatewayId = gatewayId

/-- The checks of `_get_agent`. -/
def readyGateway (db : Db) (gatewayId : Nat) : Except PyError Gateway :=
  match db.gateways.get gatewayId with
  | none => .error (.value s!"Gateway {gatewayId} not found")
  | some gateway =>
      if gateway.status ≠ .ready then .error (.value s!"Gateway {gateway.name} is not ready") else .ok gateway

/-- The generated key, which reusable allocation comes first, and how the two remote calls end. -/
structure CreatePeerCalls where
  publicKey : String
  allocation : Nat
  addPeer : Except PyError Unit
  uplinkPeer : Except PyError Unit

def insertPeer (db : Db) (peer : Peer) : Except PyError Db :=
  if db.peers.toList.any fun entry => entry.2.publicKey = peer.publicKey then
    .error (.integrity "UNIQUE constraint failed: peers.public_key")
  else .ok { db with peers := db.peers.insert peer }

/-- A failed call comes back with what the session holds at that point, for a caller that goes on using it. -/
def createPeer (calls : CreatePeerCalls) (db : Db) (gatewayId : Nat) (peerName : String) :
    Except (PyError × Db) Db :=
  match readyGateway db gatewayId with
  | .error error => .error (error, db)
  | .ok gateway =>
      let existing := listByGateway db gatewayId
      if maxPeersPerGateway ≤ existing.length then
        let first := (existing.head?.map fun entry => entry.2.name).getD ""
        .error (.value s!"Gateway {gateway.name} already has the backhaul peer ({first})", db)
      else if existing.any fun entry => entry.2.name = peerName then
        .error (.value s!"Peer {peerName} already exists on gateway {gateway.name}", db)
      else
        match Wg.allocatePeerIp db gatewayId gateway calls.allocation with
        | .error error => .error (error, db)
        | .ok (allocated, peerIp) =>
            match insertPeer allocated ⟨gatewayId, peerName, calls.publicKey, peerIp, false⟩ with
            | .error error => .error (error, allocated)
            | .ok inserted =>
                match calls.addPeer, calls.uplinkPeer with
                | .error error, _ => .error (error, inserted)
                | .ok _, .error error => .error (error, inserted)
                | .ok _, .ok _ => .ok inserted

def defaultBackhaulPeerName (gatewayName : String) : String := gatewayName ++ "-link"

/-- `ensure_backhaul_peer`: nothing to do for a gateway that is not ready or has its peer. -/
def ensureBackhaulPeer (calls : CreatePeerCalls) (db : Db) (gatewayId : Nat) : Except (PyError × Db) Db :=
  match db.gateways.get gatewayId with
  | none => .ok db
  | some gateway =>
      if gateway.status ≠ .ready ∨ listByGateway db gatewayId ≠ [] then .ok db
      else createPeer calls db gatewayId (defaultBackhaulPeerName gateway.name)

/-- The lookups `delete_peer`, `suspend_peer`, `resume_peer` and `regenerate_peer_keys` begin with. -/
def peerOnReadyGateway (db : Db) (peerId : Nat) : Except PyError Peer :=
  match db.peers.get peerId with
  | none => .error (.value s!"Peer {peerId} not found")
  | some peer => (readyGateway db peer.gatewayId).map fun _ => peer

def deletePeer (db : Db) (peerId : Nat) : Except PyError (Db × Peer) :=
  (peerOnReadyGateway db peerId).map fun peer =>
    let released := Wg.releasePeerIp db peer.gatewayId peer.allowedIp
    ({ released with peers := released.peers.delete peerId }, peer)

def setSuspended (db : Db) (peerId : Nat) (suspended : Bool) : Db :=
  { db with peers := db.peers.modify peerId fun row => { row with suspended } }

def suspendPeer (db : Db) (peerId : Nat) : Except PyError (Db × Peer) :=
  (peerOnReadyGateway db peerId).map fun peer => (setSuspended db peerId true, peer)

def resumePeer (db : Db) (peerId : Nat) : Except PyError (Db × Peer) :=
  (peerOnReadyGateway db peerId).map fun peer => (setSuspended db peerId false, peer)

def regeneratePeerKeys (db : Db) (peerId : Nat) (publicKey : String) : Except PyError (Db × Peer) :=
  match peerOnReadyGateway db peerId with
  | .error error => .error error
  | .ok peer =>
      if db.peers.toList.any fun entry => entry.1 ≠ peerId && entry.2.publicKey = publicKey then
        .error (.integrity "UNIQUE constraint failed: peers.public_key")
      else .ok ({ db with peers := db.peers.modify peerId fun row => { row with publicKey } }, peer)

theorem get_of_readyGateway {db : Db} {gatewayId : Nat} {gateway : Gateway}
    (ready : readyGateway db gatewayId = .ok gateway) : db.gateways.get gatewayId = some gateway := by
  unfold readyGateway at ready
  split at ready
  · cases ready
  · rename_i row present
    split at ready
    · cases ready
    · cases ready
      exact present

theorem insertPeer_ok {db after : Db} {peer : Peer} (inserted : insertPeer db peer = .ok after) :
    after = { db with peers := db.peers.insert peer } ∧
      ∀ id row, db.peers.get id = some row → row.publicKey ≠ peer.publicKey := by
  unfold insertPeer at inserted
  split at inserted
  · cases inserted
  · rename_i unique
    cases inserted
    refine ⟨rfl, ?_⟩
    intro id row present same
    exact unique (List.any_eq_true.mpr ⟨(id, row), Lib.Table.mem_toList.mpr present, by simpa using same⟩)

theorem mem_listByGateway {db : Db} {gatewayId id : Nat} {row : Peer} :
    (id, row) ∈ listByGateway db gatewayId ↔ db.peers.get id = some row ∧ row.gatewayId = gatewayId := by
  simp [listByGateway, Lib.Table.mem_toList]

structure PeerCreated (calls : CreatePeerCalls) (db after : Db) (gatewayId : Nat) (name : String) where
  gateway : Gateway
  address : Nat
  ready : readyGateway db gatewayId = .ok gateway
  first : ∀ id row, db.peers.get id = some row → row.gatewayId ≠ gatewayId
  same : after = { db with
    peers := db.peers.insert ⟨gatewayId, name, calls.publicKey, address, false⟩
    ipAllocations := after.ipAllocations }

/-- The three steps of a successful creation. -/
theorem createPeer_steps {calls : CreatePeerCalls} {db after : Db} {gatewayId : Nat} {name : String}
    (created : createPeer calls db gatewayId name = .ok after) :
    ∃ gateway allocated address, readyGateway db gatewayId = .ok gateway ∧
      (∀ id row, db.peers.get id = some row → row.gatewayId ≠ gatewayId) ∧
      Wg.allocatePeerIp db gatewayId gateway calls.allocation = .ok (allocated, address) ∧
      insertPeer allocated ⟨gatewayId, name, calls.publicKey, address, false⟩ = .ok after := by
  unfold createPeer at created
  split at created
  · cases created
  · rename_i gateway ready
    dsimp only at created
    split at created
    · cases created
    · rename_i room
      have first : ∀ id row, db.peers.get id = some row → row.gatewayId ≠ gatewayId := by
        intro id row present same
        have member := List.length_pos_of_mem (mem_listByGateway.mpr ⟨present, same⟩)
        unfold maxPeersPerGateway at room
        omega
      split at created
      · cases created
      · split at created
        · cases created
        · rename_i allocated address allocation
          split at created
          · cases created
          · rename_i inserted insertion
            split at created
            · cases created
            · cases created
            · cases created
              exact ⟨gateway, allocated, address, ready, first, allocation, insertion⟩

theorem createPeer_ok {calls : CreatePeerCalls} {db after : Db} {gatewayId : Nat} {name : String}
    (created : createPeer calls db gatewayId name = .ok after) :
    Nonempty (PeerCreated calls db after gatewayId name) := by
  obtain ⟨gateway, allocated, address, ready, first, allocation, insertion⟩ := createPeer_steps created
  obtain ⟨rfl, -⟩ := insertPeer_ok insertion
  have tables := Wg.allocatePeerIp_tables allocation
  refine ⟨⟨gateway, address, ready, first, ?_⟩⟩
  rw [tables]

theorem peerOnReadyGateway_ok {db : Db} {peerId : Nat} {peer : Peer} (found : peerOnReadyGateway db peerId = .ok peer) :
    db.peers.get peerId = some peer := by
  unfold peerOnReadyGateway at found
  split at found
  · cases found
  · rename_i row present
    cases ready : readyGateway db row.gatewayId with
    | error error =>
        rw [ready] at found
        cases found
    | ok gateway =>
        rw [ready] at found
        cases found
        exact present

theorem deletePeer_ok {db after : Db} {peerId : Nat} {peer : Peer} (deleted : deletePeer db peerId = .ok (after, peer)) :
    db.peers.get peerId = some peer ∧
      after = { db with peers := db.peers.delete peerId, ipAllocations := after.ipAllocations } := by
  obtain ⟨found, located, result⟩ := map_ok deleted
  cases result
  refine ⟨peerOnReadyGateway_ok located, ?_⟩
  dsimp only
  rw [Wg.releasePeerIp_eq]

theorem suspendPeer_ok {db after : Db} {peerId : Nat} {peer : Peer} (done : suspendPeer db peerId = .ok (after, peer)) :
    db.peers.get peerId = some peer ∧ after = setSuspended db peerId true := by
  obtain ⟨found, located, result⟩ := map_ok done
  cases result
  exact ⟨peerOnReadyGateway_ok located, rfl⟩

theorem resumePeer_ok {db after : Db} {peerId : Nat} {peer : Peer} (done : resumePeer db peerId = .ok (after, peer)) :
    db.peers.get peerId = some peer ∧ after = setSuspended db peerId false := by
  obtain ⟨found, located, result⟩ := map_ok done
  cases result
  exact ⟨peerOnReadyGateway_ok located, rfl⟩

theorem regeneratePeerKeys_ok {db after : Db} {peerId : Nat} {publicKey : String} {peer : Peer}
    (done : regeneratePeerKeys db peerId publicKey = .ok (after, peer)) :
    db.peers.get peerId = some peer ∧
      after = { db with peers := db.peers.modify peerId fun row => { row with publicKey } } := by
  unfold regeneratePeerKeys at done
  split at done
  · cases done
  · rename_i found located
    split at done
    · cases done
    · cases done
      exact ⟨peerOnReadyGateway_ok located, rfl⟩

/-- Creating a peer touches the peer and allocation tables only, whether or not it succeeds. -/
theorem createPeer_tables (calls : CreatePeerCalls) (db : Db) (gatewayId : Nat) (name : String) :
    match createPeer calls db gatewayId name with
    | .ok after => after.gateways = db.gateways ∧ after.jobs = db.jobs
    | .error (_, after) => after.gateways = db.gateways ∧ after.jobs = db.jobs := by
  unfold createPeer
  cases readyGateway db gatewayId with
  | error error => exact ⟨rfl, rfl⟩
  | ok gateway =>
      dsimp only
      split_ifs
      · exact ⟨rfl, rfl⟩
      · exact ⟨rfl, rfl⟩
      · cases allocation : Wg.allocatePeerIp db gatewayId gateway calls.allocation with
        | error error => exact ⟨rfl, rfl⟩
        | ok pair =>
            obtain ⟨allocated, ip⟩ := pair
            have kept : allocated.gateways = db.gateways ∧ allocated.jobs = db.jobs := by
              rw [Wg.allocatePeerIp_tables allocation]
              exact ⟨rfl, rfl⟩
            dsimp only
            cases insertion : insertPeer allocated ⟨gatewayId, name, calls.publicKey, ip, false⟩ with
            | error error => exact kept
            | ok inserted =>
                obtain ⟨rfl, -⟩ := insertPeer_ok insertion
                dsimp only
                cases calls.addPeer <;> cases calls.uplinkPeer <;> exact kept

end DeepOrc.Services
