import DeepOrc.Naming
import DeepOrc.Repositories
import DeepOrc.Incus.Network
import DeepOrc.Services.WorkerService

/-! # `create_gateway` -/

namespace DeepOrc.Services

open Models Repositories

def exitNodePending : String := "pending"

structure CreateGatewayRequest where
  gatewayName : Option String
  udpPort : Option Nat
  workerId : Option Nat
deriving DecidableEq, Repr

/-- What a creation reads outside the database: the clock, the first two octets of every WireGuard
subnet and the answer to the pre-auth key request. -/
structure CreationCalls where
  now : Nat
  wgSubnetBase : Nat
  preauth : Except PyError Unit

def nextGatewayName (db : Db) : Except PyError String :=
  match Naming.nextSequentialName Naming.gatewayPrefix (db.gateways.toList.map fun entry => entry.2.name)
      Naming.sequentialWidth with
  | .ok name => .ok name
  | .error text => .error (.value text)

/-- `request.gateway_name or self._next_gateway_name()` -/
def requestedName (db : Db) (request : CreateGatewayRequest) : Except PyError String :=
  match request.gatewayName with
  | some name => if name = "" then nextGatewayName db else .ok name
  | none => nextGatewayName db

def requestedPort (db : Db) (request : CreateGatewayRequest) (workerId : Nat) (worker : Worker) :
    Except PyError (Db × Nat) :=
  match request.udpPort with
  | some port => if port = 0 then Incus.allocateUdpPort db workerId worker none else .ok (db, port)
  | none => Incus.allocateUdpPort db workerId worker none

def checkNameUnused (db : Db) (name : String) : Except PyError Unit :=
  if (getByName db name).isSome then .error (.value s!"Gateway {name} already exists") else .ok ()

def preauthKey (preauth : Except PyError Unit) : Except PyError Unit :=
  match preauth with
  | .error (.headscale text) => .error (.value s!"Failed to create Headscale preauth key: {text}")
  | outcome => outcome

/-- `allocate_wg_subnet`: a /24 picked by the gateway's id. -/
def allocateWgSubnet (base gatewayId : Nat) : Nat := base * 65536 + (gatewayId % 253 + 1) * 256

def newGateway (calls : CreationCalls) (gatewayId workerId : Nat) (name : String) (vmIp udpPort : Nat) : Gateway where
  workerId := workerId
  name := name
  incusInstance := "gw-" ++ name
  vmIp := vmIp
  udpPort := udpPort
  wgSubnet := allocateWgSubnet calls.wgSubnetBase gatewayId
  exitNodeId := exitNodePending
  tailscaleHostname := name
  status := .pending
  errorMessage := none

/-- The rows a creation commits last: the gateway, under its unique columns, and its create job. -/
def insertGateway (db : Db) (row : Gateway) : Except PyError (Db × Nat × Nat) :=
  if row.udpPort ∈ Incus.gatewayUdpPorts db row.workerId then
    .error (.integrity "UNIQUE constraint failed: gateways.worker_id, gateways.udp_port")
  else
    let gatewayId := db.gateways.next
    let (db, jobId) := createJob { db with gateways := db.gateways.insert row } .createGateway gatewayId
    .ok (db, gatewayId, jobId)

/-- The committed database with the new gateway's and job's ids. An error leaves nothing behind. -/
def createGateway (calls : CreationCalls) (request : CreateGatewayRequest) (db : Db) :
    Except PyError (Db × Nat × Nat) := do
  let name ← requestedName db request
  checkNameUnused db name
  preauthKey calls.preauth
  let (workerId, worker) ← resolveWorkerForGateway db calls.now request.workerId
  let (db, vmIp) ← Incus.allocateVmIp db workerId worker
  let (db, udpPort) ← requestedPort db request workerId worker
  insertGateway db (newGateway calls db.gateways.next workerId name vmIp udpPort)

/-! ### What a successful creation did -/

theorem bind_ok {α β : Type} {first : Except PyError α} {next : α → Except PyError β} {result : β}
    (succeeded : (first >>= next) = .ok result) : ∃ value, first = .ok value ∧ next value = .ok result := by
  cases first with
  | error => cases succeeded
  | ok value => exact ⟨value, rfl, succeeded⟩

theorem map_ok {ε α β : Type} {result : Except ε α} {change : α → β} {value : β}
    (mapped : result.map change = .ok value) :
    ∃ before, result = .ok before ∧ change before = value := by
  cases result with
  | error error => cases mapped
  | ok before =>
      cases mapped
      exact ⟨before, rfl, rfl⟩

/-- Everything a successful creation changed and every check it passed. -/
structure Created (calls : CreationCalls) (request : CreateGatewayRequest) (before after : Db)
    (gatewayId jobId : Nat) where
  workerId : Nat
  worker : Worker
  name : String
  vmIp : Nat
  udpPort : Nat
  named : requestedName before request = .ok name
  unused : getByName before name = none
  resolved : before.workers.get workerId = some worker
  vmIp_free : vmIp ∉ Incus.gatewayVmIps before workerId ∧ vmIp ∉ Incus.allocatedAddresses before workerId
  port_free : udpPort ∉ Incus.gatewayUdpPorts before workerId
  port_allocated :
    (udpPort ∉ Incus.allocatedPorts before workerId ∧
        after.portAllocations = before.portAllocations.insert ⟨workerId, udpPort, none⟩) ∨
      (request.udpPort = some udpPort ∧ after.portAllocations = before.portAllocations)
  gateway_id : gatewayId = before.gateways.next
  job_id : jobId = before.jobs.next
  workers : after.workers = before.workers
  gateways : after.gateways = before.gateways.insert (newGateway calls gatewayId workerId name vmIp udpPort)
  jobs : after.jobs = before.jobs.insert ⟨.createGateway, gatewayId, .pending, none, none⟩
  peers : after.peers = before.peers
  ipAllocations : after.ipAllocations = before.ipAllocations.insert ⟨workerId, vmIp, none, none⟩

theorem allocateVmIp_ok {db after : Db} {workerId ip : Nat} {worker : Worker}
    (allocated : Incus.allocateVmIp db workerId worker = .ok (after, ip)) :
    (ip ∉ Incus.gatewayVmIps db workerId ∧ ip ∉ Incus.allocatedAddresses db workerId) ∧
      after = { db with ipAllocations := db.ipAllocations.insert ⟨workerId, ip, none, none⟩ } := by
  unfold Incus.allocateVmIp at allocated
  split at allocated
  · rename_i candidate found
    cases allocated
    have free := Incus.freeVmIp_not_mem found
    rw [List.mem_append, not_or] at free
    exact ⟨free, rfl⟩
  · cases allocated

theorem allocateUdpPort_ok {db after : Db} {workerId port : Nat} {worker : Worker} {gatewayId : Option Nat}
    (allocated : Incus.allocateUdpPort db workerId worker gatewayId = .ok (after, port)) :
    (port ∉ Incus.gatewayUdpPorts db workerId ∧ port ∉ Incus.allocatedPorts db workerId) ∧
      after = { db with portAllocations := db.portAllocations.insert ⟨workerId, port, gatewayId⟩ } := by
  unfold Incus.allocateUdpPort at allocated
  split at allocated
  · rename_i candidate found
    cases allocated
    have free := Incus.freeUdpPort_not_mem found
    rw [List.mem_append, not_or] at free
    exact ⟨free, rfl⟩
  · cases allocated

theorem requestedPort_ok {db after : Db} {request : CreateGatewayRequest} {workerId port : Nat} {worker : Worker}
    (allocated : requestedPort db request workerId worker = .ok (after, port)) :
    (port ∉ Incus.allocatedPorts db workerId ∧
        after = { db with portAllocations := db.portAllocations.insert ⟨workerId, port, none⟩ }) ∨
      (request.udpPort = some port ∧ after = db) := by
  unfold requestedPort at allocated
  split at allocated
  · rename_i chosen given
    split at allocated
    · obtain ⟨free, rfl⟩ := allocateUdpPort_ok allocated
      exact .inl ⟨free.2, rfl⟩
    · cases allocated
      exact .inr ⟨given, rfl⟩
  · obtain ⟨free, rfl⟩ := allocateUdpPort_ok allocated
    exact .inl ⟨free.2, rfl⟩

theorem checkNameUnused_ok {db : Db} {name : String} {result : Unit}
    (checked : checkNameUnused db name = .ok result) : getByName db name = none := by
  unfold checkNameUnused at checked
  split at checked
  · cases checked
  · rename_i absent
    simpa using absent

theorem createGateway_ok {calls : CreationCalls} {request : CreateGatewayRequest} {before after : Db}
    {gatewayId jobId : Nat} (created : createGateway calls request before = .ok (after, gatewayId, jobId)) :
    Nonempty (Created calls request before after gatewayId jobId) := by
  unfold createGateway at created
  obtain ⟨name, named, afterName⟩ := bind_ok created
  obtain ⟨_, checked, afterCheck⟩ := bind_ok afterName
  obtain ⟨-, -, afterKey⟩ := bind_ok afterCheck
  obtain ⟨⟨workerId, worker⟩, resolved, afterWorker⟩ := bind_ok afterKey
  obtain ⟨⟨allocated, vmIp⟩, address, afterAddress⟩ := bind_ok afterWorker
  obtain ⟨⟨ported, udpPort⟩, port, inserted⟩ := bind_ok afterAddress
  obtain ⟨vmIp_free, rfl⟩ := allocateVmIp_ok address
  have unused := checkNameUnused_ok checked
  have known := get_of_resolveWorkerForGateway resolved
  simp only [insertGateway] at inserted
  split at inserted
  · cases inserted
  · rename_i port_free
    cases inserted
    rcases requestedPort_ok port with ⟨unallocated, rfl⟩ | ⟨given, rfl⟩
    · exact ⟨⟨workerId, worker, name, vmIp, udpPort, named, unused, known, vmIp_free, port_free,
        .inl ⟨unallocated, rfl⟩, rfl, rfl, rfl, rfl, rfl, rfl, rfl⟩⟩
    · exact ⟨⟨workerId, worker, name, vmIp, udpPort, named, unused, known, vmIp_free, port_free,
        .inr ⟨given, rfl⟩, rfl, rfl, rfl, rfl, rfl, rfl, rfl⟩⟩

namespace Created

variable {calls : CreationCalls} {request : CreateGatewayRequest} {before after : Db} {gatewayId jobId id : Nat}

theorem gateway_kept (made : Created calls request before after gatewayId jobId) {row : Gateway}
    (present : before.gateways.get id = some row) : after.gateways.get id = some row := by
  rw [made.gateways]
  exact Lib.Table.get_insert_of_get present _

theorem address_kept (made : Created calls request before after gatewayId jobId) {row : IpAllocation}
    (present : before.ipAllocations.get id = some row) : after.ipAllocations.get id = some row := by
  rw [made.ipAllocations]
  exact Lib.Table.get_insert_of_get present _

theorem addresses_unique (made : Created calls request before after gatewayId jobId)
    (unique : before.ipAllocations.Unique fun row => (row.workerId, row.address)) :
    after.ipAllocations.Unique fun row => (row.workerId, row.address) := by
  rw [made.ipAllocations]
  apply unique.insert
  intro id other present same
  simp only [Prod.mk.injEq] at same
  exact made.vmIp_free.2 (Incus.mem_allocatedAddresses.mpr ⟨id, other, present, same⟩)

theorem vmIps_unique (made : Created calls request before after gatewayId jobId)
    (unique : before.gateways.Unique fun row => (row.workerId, row.vmIp)) :
    after.gateways.Unique fun row => (row.workerId, row.vmIp) := by
  rw [made.gateways]
  apply unique.insert
  intro id other present same
  simp only [newGateway, Prod.mk.injEq] at same
  exact made.vmIp_free.1 (Incus.mem_gatewayVmIps.mpr ⟨id, other, present, same⟩)

end Created

/-! ### When a creation succeeds -/

theorem insertGateway_of_free {db : Db} {row : Gateway} (free : row.udpPort ∉ Incus.gatewayUdpPorts db row.workerId) :
    insertGateway db row =
      .ok ((createJob { db with gateways := db.gateways.insert row } .createGateway db.gateways.next).1,
        db.gateways.next, db.jobs.next) := by
  rw [insertGateway, if_neg free]
  rfl

theorem createGateway_of_checks {calls : CreationCalls} {request : CreateGatewayRequest} {db : Db} {name : String}
    {workerId vmIp port : Nat} {worker : Worker} {ported : Db} (named : requestedName db request = .ok name)
    (unused : getByName db name = none) (key : preauthKey calls.preauth = .ok ())
    (resolved : resolveWorkerForGateway db calls.now request.workerId = .ok (workerId, worker))
    (address : Incus.freeVmIp worker (Incus.gatewayVmIps db workerId ++ Incus.allocatedAddresses db workerId) = .ok vmIp)
    (chosen : requestedPort { db with ipAllocations := db.ipAllocations.insert ⟨workerId, vmIp, none, none⟩ } request
      workerId worker = .ok (ported, port)) :
    createGateway calls request db =
      insertGateway ported (newGateway calls ported.gateways.next workerId name vmIp port) := by
  have checked : checkNameUnused db name = .ok () := by simp [checkNameUnused, unused]
  have allocated : Incus.allocateVmIp db workerId worker =
      .ok ({ db with ipAllocations := db.ipAllocations.insert ⟨workerId, vmIp, none, none⟩ }, vmIp) := by
    simp only [Incus.allocateVmIp, address]
  unfold createGateway
  rw [named]
  simp only [bind, Except.bind, checked, key, resolved, allocated, chosen]

end DeepOrc.Services
