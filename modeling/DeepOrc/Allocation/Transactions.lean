import DeepOrc.Services.GatewayService
import DeepOrc.Services.PeerService

/-!
# The allocating transactions, statement by statement

A transaction is where its program stands between two database statements, with the values it has read and the
rows it has inserted. A SELECT reads the committed rows: no program reads a table that it wrote before. An
INSERT is refused when a committed row has its key and waits while another session's uncommitted row has it.
Ids come from sequences, so one that was drawn is not drawn again even after a rollback.
-/

namespace DeepOrc.Allocation

open Models Repositories Services
open Lib (Table)

/-- What `create_gateway` has decided before it allocates. -/
structure Plan where
  calls : CreationCalls
  request : CreateGatewayRequest
  name : String
  workerId : Nat
  worker : Worker

inductive Txn where
  -- create_gateway
  | naming (calls : CreationCalls) (request : CreateGatewayRequest)
  | nameChosen (calls : CreationCalls) (request : CreateGatewayRequest) (name : String)
  | nameUnused (calls : CreationCalls) (request : CreateGatewayRequest) (name : String)
  | workerChosen (plan : Plan)
  | vmIpsRead (plan : Plan) (used : List Nat)
  | addressesRead (plan : Plan) (used : List Nat)
  | vmIpAllocated (plan : Plan) (ip vmIp : Nat)
  | udpPortsRead (plan : Plan) (ip vmIp : Nat) (used : List Nat)
  | portRowsRead (plan : Plan) (ip vmIp : Nat) (used : List Nat)
  | udpPortChosen (plan : Plan) (ip vmIp : Nat) (port : Option Nat) (udpPort : Nat)
  | gatewayInserted (plan : Plan) (ip vmIp : Nat) (port : Option Nat) (udpPort gatewayId : Nat)
  -- execute_delete_gateway
  | deleting (gatewayId : Nat) (jobId : Option Nat)
  | gatewayLoaded (gatewayId : Nat) (jobId : Option Nat) (gateway : Gateway)
  | vmIpFound (gatewayId : Nat) (jobId : Option Nat) (gateway : Gateway) (ip : Option Nat)
  | udpPortFound (gatewayId : Nat) (jobId : Option Nat) (gateway : Gateway) (ip port : Option Nat)
  -- create_peer
  | peerRequested (gatewayId : Nat) (name publicKey : String)
  | peerGatewayRead (gatewayId : Nat) (name publicKey : String) (gateway : Gateway)
  | peerAdmitted (gatewayId : Nat) (name publicKey : String) (gateway : Gateway)
  | peerIpsRead (gatewayId : Nat) (name publicKey : String) (gateway : Gateway) (used : List Nat)
  | peerIpFree (gatewayId : Nat) (name publicKey : String) (gateway : Gateway) (address : Nat)
  | peerIpChosen (gatewayId : Nat) (name publicKey : String) (ip : Option (Nat × IpAllocation)) (address : Nat)
  | peerInserted (ip : Option (Nat × IpAllocation)) (peer : Nat × Peer)
  -- delete_peer
  | peerDeleting (peerId : Nat)
  | peerLoaded (peerId : Nat) (peer : Peer)
  | peerReleasing (peerId : Nat) (peer : Peer)
  | peerIpFound (peerId : Nat) (ip : Option Nat)

namespace Txn

/-! ### Rows inserted and not committed -/

def ip : Txn → Option (Nat × IpAllocation)
  | vmIpAllocated plan ip vmIp | udpPortsRead plan ip vmIp _ | portRowsRead plan ip vmIp _
  | udpPortChosen plan ip vmIp _ _ | gatewayInserted plan ip vmIp _ _ _ =>
      some (ip, ⟨plan.workerId, vmIp, none, none⟩)
  | peerIpChosen _ _ _ ip _ | peerInserted ip _ => ip
  | _ => none

def port : Txn → Option (Nat × PortAllocation)
  | udpPortChosen plan _ _ port udpPort | gatewayInserted plan _ _ port udpPort _ =>
      port.map fun id => (id, ⟨plan.workerId, udpPort, none⟩)
  | _ => none

def gateway : Txn → Option (Nat × Gateway)
  | gatewayInserted plan _ vmIp _ udpPort gatewayId =>
      some (gatewayId, newGateway plan.calls gatewayId plan.workerId plan.name vmIp udpPort)
  | _ => none

def peer : Txn → Option (Nat × Peer)
  | peerInserted _ peer => some peer
  | _ => none

/-! ### What a deletion found -/

/-- The gateway whose deletion this is. -/
def deletes : Txn → Option Nat
  | deleting gatewayId _ | gatewayLoaded gatewayId _ _ | vmIpFound gatewayId _ _ _
  | udpPortFound gatewayId _ _ _ _ => some gatewayId
  | _ => none

def loaded : Txn → Option Gateway
  | gatewayLoaded _ _ gateway | vmIpFound _ _ gateway _ | udpPortFound _ _ gateway _ _ => some gateway
  | _ => none

/-- The allocation row that goes with the commit. -/
def doomed : Txn → Option Nat
  | vmIpFound _ _ _ ip | udpPortFound _ _ _ ip _ | peerIpFound _ ip => ip
  | _ => none

end Txn

structure State where
  db : Db
  sessions : Table Txn

namespace State

def open_ {α : Type} (s : State) (row : Txn → Option (Nat × α)) : List α :=
  s.sessions.toList.filterMap fun entry => (row entry.2).map Prod.snd

def become (s : State) (session : Nat) (txn : Txn) : State :=
  { s with sessions := s.sessions.modify session fun _ => txn }

def close (s : State) (session : Nat) : State := { s with sessions := s.sessions.delete session }

end State

inductive Admission where
  | admitted
  | blocked
  | refused
deriving DecidableEq

/-- A unique constraint at the moment of an INSERT. -/
def admission {α : Type} (stored : Table α) (uncommitted : List α) (clashes : α → Bool) : Admission :=
  if stored.toList.any fun entry => clashes entry.2 then .refused
  else if uncommitted.any clashes then .blocked
  else .admitted

/-- An `IntegrityError` ends the transaction. -/
def State.admit (s : State) (session : Nat) (admission : Admission) (inserted : State) : Option State :=
  match admission with
  | .admitted => some inserted
  | .blocked => none
  | .refused => some (s.close session)

/-- The committed rows with a transaction's own insertions. -/
def stored (db : Db) (txn : Txn) : Db :=
  { db with
    ipAllocations := db.ipAllocations.putOption txn.ip
    portAllocations := db.portAllocations.putOption txn.port
    gateways := db.gateways.putOption txn.gateway
    peers := db.peers.putOption txn.peer }

def insertIp (s : State) (session : Nat) (row : IpAllocation) (next : Nat → Txn) : Option State :=
  s.admit session
    (admission s.db.ipAllocations (s.open_ Txn.ip) fun other =>
      other.workerId = row.workerId && other.address = row.address)
    ({ s with db := { s.db with ipAllocations := s.db.ipAllocations.reserve } }.become session
      (next s.db.ipAllocations.next))

def insertPort (s : State) (session : Nat) (row : PortAllocation) (next : Nat → Txn) :
    Option State :=
  s.admit session
    (admission s.db.portAllocations (s.open_ Txn.port) fun other =>
      other.workerId = row.workerId && other.udpPort = row.udpPort)
    ({ s with db := { s.db with portAllocations := s.db.portAllocations.reserve } }.become session
      (next s.db.portAllocations.next))

def insertGatewayRow (s : State) (session : Nat) (row : Gateway) (next : Nat → Txn) : Option State :=
  s.admit session
    (admission s.db.gateways (s.open_ Txn.gateway) fun other =>
      other.name = row.name || (other.workerId = row.workerId && other.udpPort = row.udpPort))
    ({ s with db := { s.db with gateways := s.db.gateways.reserve } }.become session
      (next s.db.gateways.next))

def insertPeerRow (s : State) (session : Nat) (row : Peer) (next : Nat → Txn) : Option State :=
  s.admit session
    (admission s.db.peers (s.open_ Txn.peer) fun other => other.publicKey = row.publicKey)
    ({ s with db := { s.db with peers := s.db.peers.reserve } }.become session (next s.db.peers.next))

/-! ### What admission means -/

theorem admission_admitted {α : Type} {stored : Table α} {uncommitted : List α} {clashes : α → Bool}
    (admitted : admission stored uncommitted clashes = .admitted) :
    (∀ id row, stored.get id = some row → clashes row = false) ∧ ∀ row ∈ uncommitted, clashes row = false := by
  unfold admission at admitted
  split at admitted
  · cases admitted
  · rename_i committed
    split at admitted
    · cases admitted
    · rename_i waiting
      constructor
      · intro id row present
        by_contra clash
        exact committed (List.any_eq_true.mpr ⟨(id, row), Table.mem_toList.mpr present, by simpa using clash⟩)
      · intro row member
        by_contra clash
        exact waiting (List.any_eq_true.mpr ⟨row, member, by simpa using clash⟩)

theorem admit_some {s t inserted : State} {session : Nat} {admission : Admission}
    (done : s.admit session admission inserted = some t) :
    t = s.close session ∨ admission = .admitted ∧ t = inserted := by
  cases admission with
  | admitted =>
      cases done
      exact .inr ⟨rfl, rfl⟩
  | blocked => cases done
  | refused =>
      cases done
      exact .inl rfl

theorem mem_open {α : Type} {s : State} {row : Txn → Option (Nat × α)} {session : Nat} {txn : Txn} {entry : Nat × α}
    (present : s.sessions.get session = some txn) (opened : row txn = some entry) : entry.2 ∈ s.open_ row :=
  List.mem_filterMap.mpr ⟨(session, txn), Table.mem_toList.mpr present, by simp [opened]⟩

/-! ### The next statement of each program -/

def createNext (s : State) (session : Nat) : Txn → Option State
  | .naming calls request =>
      match requestedName s.db request with
      | .error _ => none
      | .ok name => some (s.become session (.nameChosen calls request name))
  | .nameChosen calls request name =>
      match checkNameUnused s.db name, preauthKey calls.preauth with
      | .ok _, .ok _ => some (s.become session (.nameUnused calls request name))
      | _, _ => none
  | .nameUnused calls request name =>
      match resolveWorkerForGateway s.db calls.now request.workerId with
      | .error _ => none
      | .ok (workerId, worker) => some (s.become session (.workerChosen ⟨calls, request, name, workerId, worker⟩))
  | .workerChosen plan => some (s.become session (.vmIpsRead plan (Incus.gatewayVmIps s.db plan.workerId)))
  | .vmIpsRead plan used =>
      some (s.become session (.addressesRead plan (used ++ Incus.allocatedAddresses s.db plan.workerId)))
  | .addressesRead plan used =>
      match Incus.freeVmIp plan.worker used with
      | .error _ => none
      | .ok address => insertIp s session ⟨plan.workerId, address, none, none⟩ fun ip => .vmIpAllocated plan ip address
  | .vmIpAllocated plan ip vmIp =>
      match plan.request.udpPort.filter (· ≠ 0) with
      | some udpPort => some (s.become session (.udpPortChosen plan ip vmIp none udpPort))
      | none => some (s.become session (.udpPortsRead plan ip vmIp (Incus.gatewayUdpPorts s.db plan.workerId)))
  | .udpPortsRead plan ip vmIp used =>
      some (s.become session (.portRowsRead plan ip vmIp (used ++ Incus.allocatedPorts s.db plan.workerId)))
  | .portRowsRead plan ip vmIp used =>
      match Incus.freeUdpPort plan.worker used with
      | .error _ => none
      | .ok udpPort =>
          insertPort s session ⟨plan.workerId, udpPort, none⟩ fun port =>
            .udpPortChosen plan ip vmIp (some port) udpPort
  | .udpPortChosen plan ip vmIp port udpPort =>
      insertGatewayRow s session (newGateway plan.calls s.db.gateways.next plan.workerId plan.name vmIp udpPort)
        (.gatewayInserted plan ip vmIp port udpPort)
  | .gatewayInserted plan ip vmIp port udpPort gatewayId =>
      let db := stored s.db (.gatewayInserted plan ip vmIp port udpPort gatewayId)
      some ({ s with db := (createJob db .createGateway gatewayId).1 }.close session)
  | _ => none

/-- The rows to delete were looked up before and go by their ids. -/
def deleteRows (db : Db) (gatewayId : Nat) (jobId ip port : Option Nat) : Db :=
  completeJob (deleteGateway { db with
    ipAllocations := db.ipAllocations.deleteOption ip
    portAllocations := db.portAllocations.deleteOption port } gatewayId) jobId

def deleteNext (s : State) (session : Nat) : Txn → Option State
  | .deleting gatewayId jobId =>
      match s.db.gateways.get gatewayId with
      | none => some ({ s with db := completeJob s.db jobId }.close session)
      | some gateway => some (s.become session (.gatewayLoaded gatewayId jobId gateway))
  | .gatewayLoaded gatewayId jobId gateway =>
      let ip := (Incus.vmIpAllocation s.db gateway.workerId gateway.vmIp).map Prod.fst
      some (s.become session (.vmIpFound gatewayId jobId gateway ip))
  | .vmIpFound gatewayId jobId gateway ip =>
      let port := (Incus.udpPortAllocation s.db gateway.workerId gateway.udpPort).map Prod.fst
      some (s.become session (.udpPortFound gatewayId jobId gateway ip port))
  | .udpPortFound gatewayId jobId _ ip port =>
      some ({ s with db := deleteRows s.db gatewayId jobId ip port }.close session)
  | _ => none

/-- The allocations are read without an order; `choice` tells which reusable one is met first. -/
def createPeerNext (s : State) (session choice : Nat) : Txn → Option State
  | .peerRequested gatewayId name publicKey =>
      match readyGateway s.db gatewayId with
      | .error _ => none
      | .ok gateway => some (s.become session (.peerGatewayRead gatewayId name publicKey gateway))
  | .peerGatewayRead gatewayId name publicKey gateway =>
      let existing := listByGateway s.db gatewayId
      if maxPeersPerGateway ≤ existing.length then none
      else if existing.any fun entry => entry.2.name = name then none
      else some (s.become session (.peerAdmitted gatewayId name publicKey gateway))
  | .peerAdmitted gatewayId name publicKey gateway =>
      some (s.become session (.peerIpsRead gatewayId name publicKey gateway (Wg.peerAddresses s.db gatewayId)))
  | .peerIpsRead gatewayId name publicKey gateway used =>
      match s.db.ipAllocations.anyRow (Wg.reusableAllocation gatewayId used) choice with
      | some (_, row) => some (s.become session (.peerIpChosen gatewayId name publicKey none row.address))
      | none =>
          match Wg.freePeerIp gateway (used ++ s.db.ipAllocations.toList.map fun entry => entry.2.address) with
          | .error _ => none
          | .ok address => some (s.become session (.peerIpFree gatewayId name publicKey gateway address))
  | .peerIpFree gatewayId name publicKey gateway address =>
      let row : IpAllocation := ⟨gateway.workerId, address, some gatewayId, none⟩
      insertIp s session row fun ip => .peerIpChosen gatewayId name publicKey (some (ip, row)) address
  | .peerIpChosen gatewayId name publicKey ip address =>
      let row : Peer := ⟨gatewayId, name, publicKey, address, false⟩
      insertPeerRow s session row fun peer => .peerInserted ip (peer, row)
  | .peerInserted ip peer => some ({ s with db := stored s.db (.peerInserted ip peer) }.close session)
  | _ => none

def deletePeerNext (s : State) (session : Nat) : Txn → Option State
  | .peerDeleting peerId =>
      match s.db.peers.get peerId with
      | none => none
      | some peer => some (s.become session (.peerLoaded peerId peer))
  | .peerLoaded peerId peer =>
      match readyGateway s.db peer.gatewayId with
      | .error _ => none
      | .ok _ => some (s.become session (.peerReleasing peerId peer))
  | .peerReleasing peerId peer =>
      let ip := (Wg.peerIpAllocation s.db peer.gatewayId peer.allowedIp).map Prod.fst
      some (s.become session (.peerIpFound peerId ip))
  | .peerIpFound peerId ip =>
      let db := { s.db with
        ipAllocations := s.db.ipAllocations.deleteOption ip
        peers := s.db.peers.delete peerId }
      some ({ s with db }.close session)
  | _ => none

inductive Event where
  | create (calls : CreationCalls) (request : CreateGatewayRequest)
  | delete (gatewayId : Nat) (jobId : Option Nat)
  | createPeer (gatewayId : Nat) (name publicKey : String)
  | deletePeer (peerId : Nat)
  | next (session choice : Nat)
  | abandon (session : Nat) (committed : Bool)
  -- the workers' commits between them
  | setGatewayStatus (gatewayId : Nat) (status : GatewayStatus) (error : Option String)

def begin_ (s : State) (txn : Txn) : State := { s with sessions := s.sessions.insert txn }

/-- At most one deletion of a gateway runs. A transaction may be left at any point: by a rollback, or by an
error that its caller handles before it commits what was flushed. -/
def step (s : State) : Event → Option State
  | .create calls request => some (begin_ s (.naming calls request))
  | .delete gatewayId jobId =>
      if s.sessions.toList.any fun entry => entry.2.deletes = some gatewayId then none
      else some (begin_ s (.deleting gatewayId jobId))
  | .createPeer gatewayId name publicKey => some (begin_ s (.peerRequested gatewayId name publicKey))
  | .deletePeer peerId => some (begin_ s (.peerDeleting peerId))
  | .next session choice =>
      match s.sessions.get session with
      | none => none
      | some txn =>
          (createNext s session txn).or ((deleteNext s session txn).or
            ((createPeerNext s session choice txn).or (deletePeerNext s session txn)))
  | .abandon session committed =>
      match s.sessions.get session with
      | none => none
      | some txn => some ({ s with db := if committed then stored s.db txn else s.db }.close session)
  | .setGatewayStatus gatewayId status error => some { s with db := updateGatewayStatus s.db gatewayId status error }

/-- No gateway and no allocation yet, and nobody at work; any workers. -/
structure Initial (s : State) : Prop where
  gateways : ∀ id, s.db.gateways.get id = none
  allocations : ∀ id, s.db.ipAllocations.get id = none
  sessions : ∀ id, s.sessions.get id = none

end DeepOrc.Allocation
