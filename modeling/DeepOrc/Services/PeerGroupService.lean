import DeepOrc.Lan.Ipam
import DeepOrc.Services.CreationRoutes

/-!
# Creating several gateways in a peer group

Every gateway of a batch is created and committed by itself. How many come about is decided by what each creation
uses up: one name, one VM address and one port.
-/

namespace DeepOrc.Services

open Models Repositories Lan
open Lib (Table)

-- irreducible so that no unfolding of the loop goes on to evaluate the search for a name
@[irreducible] def groupRequest (group : PeerGroup) : CreateGatewayRequest := ⟨none, none, some group.workerId⟩

def storeLan (s : GroupDb) (db : Db) (gatewayId groupId : Nat) (lanIp : Address) (slot : Int) : GroupDb :=
  { s with
    db
    lan := Function.update s.lan gatewayId ⟨some groupId, some lanIp, some slot⟩ }

/-- One creation with its address. The slot is read before it begins; the row is refused at its INSERT, with which
everything else is rolled back. -/
def createAt (groupId : Nat) (group : PeerGroup) (calls : CreationCalls) (s : GroupDb) (lanIp : Address) :
    Except PyError (GroupDb × Nat × Nat) :=
  match lanIp.macvlanSlot with
  | .error error => .error error
  | .ok slot =>
      match createGateway calls (groupRequest group) s.db with
      | .error error => .error error
      | .ok (db, gatewayId, jobId) =>
          if s.sizes.takes lanIp slot then .ok (storeLan s db gatewayId groupId lanIp slot, gatewayId, jobId)
          else .error (.other "DataError")

def addResult (result : Nat × Nat) :
    GroupDb × Except PyError (List (Nat × Nat)) → GroupDb × Except PyError (List (Nat × Nat))
  | (t, outcome) => (t, outcome.map (result :: ·))

/-- The loop of `create_gateways`: what is committed, and the results or the error that ended it. -/
def createEach (groupId : Nat) (group : PeerGroup) :
    Nat → (Nat → CreationCalls) → GroupDb → GroupDb × Except PyError (List (Nat × Nat))
  | 0, _, s => (s, .ok [])
  | count + 1, calls, s =>
      match allocateLanIp s groupId group with
      | .error error => (s, .error error)
      | .ok lanIp =>
          match createAt groupId group (calls 0) s lanIp with
          | .error error => (s, .error error)
          | .ok (t, result) => addResult result (createEach groupId group count (fun later => calls (later + 1)) t)

/-- The checks of `create_gateways` before its loop. -/
def checkBatch (s : GroupDb) (groupId count : Nat) : Except PyError PeerGroup :=
  if count < 1 then .error (.value "Count must be at least 1")
  else if 64 < count then .error (.value "Count cannot exceed 64 per request")
  else
    match s.groups.get groupId with
    | none => .error (.value s!"Peer group {groupId} not found")
    | some group =>
        match remainingLanCapacity s groupId group with
        | .error error => .error error
        | .ok available =>
            if available < count then
              .error (.value s!"Only {available} LAN address(es) left in group {group.name} ({group.lanSubnet.text})")
            else .ok group

/-- The calls of the creations are numbered from 0. -/
def createGateways (calls : Nat → CreationCalls) (s : GroupDb) (groupId count : Nat) :
    GroupDb × Except PyError (List (Nat × Nat)) :=
  match checkBatch s groupId count with
  | .error error => (s, .error error)
  | .ok group => createEach groupId group count calls s

/-! ### What is left for a creation -/

def namePool : List String :=
  (List.range (10 ^ Naming.sequentialWidth)).map fun index =>
    Naming.formatSequentialName Naming.gatewayPrefix index Naming.sequentialWidth

def vmIpPool (worker : Worker) : List Nat := List.range' worker.ipPoolStart (worker.ipPoolBroadcast - worker.ipPoolStart)

def portPool (worker : Worker) : List Nat :=
  List.range' worker.portPoolStart (worker.portPoolEnd + 1 - worker.portPoolStart)

def takenNames (db : Db) : List String := db.gateways.toList.map fun entry => entry.2.name

def takenVmIps (db : Db) (workerId : Nat) : List Nat := Incus.gatewayVmIps db workerId ++ Incus.allocatedAddresses db workerId

def takenPorts (db : Db) (workerId : Nat) : List Nat := Incus.gatewayUdpPorts db workerId ++ Incus.allocatedPorts db workerId

/-- The creation numbered `index` gets its key and its worker, and finds something left after the `index` before it. -/
def Provided (calls : Nat → CreationCalls) (workerId : Nat) (db : Db) (index : Nat) : Prop :=
  preauthKey (calls index).preauth = .ok () ∧
    ∃ worker, resolveWorkerForGateway db (calls index).now (some workerId) = .ok (workerId, worker) ∧
      index < (Lib.Pool.left namePool (takenNames db)).length ∧
      index < (Lib.Pool.left (vmIpPool worker) (takenVmIps db workerId)).length ∧
      index < (Lib.Pool.left (portPool worker) (takenPorts db workerId)).length

/-- Its address, the next after those of the creations before it, has a slot, and the columns take both. -/
def Slotted (s : GroupDb) (groupId : Nat) (group : PeerGroup) (index : Nat) : Prop :=
  ∀ lanIp, (freeLanIps s groupId group)[index]? = some lanIp →
    ∃ slot, lanIp.macvlanSlot = .ok slot ∧ s.sizes.takes lanIp slot = true

def Served (calls : Nat → CreationCalls) (s : GroupDb) (groupId : Nat) (group : PeerGroup) (index : Nat) : Prop :=
  Provided calls group.workerId s.db index ∧ Slotted s groupId group index

/-- Checks passed before the first creation. -/
def Admitted (s : GroupDb) (groupId count : Nat) (group : PeerGroup) : Prop :=
  1 ≤ count ∧ count ≤ 64 ∧ s.groups.get groupId = some group ∧
    ∃ available, remainingLanCapacity s groupId group = .ok available ∧ count ≤ available

theorem checkBatch_ok_iff {s : GroupDb} {groupId count : Nat} {group : PeerGroup} :
    checkBatch s groupId count = .ok group ↔ Admitted s groupId count group := by
  unfold checkBatch Admitted
  constructor
  · intro checked
    split_ifs at checked
    split at checked
    · cases checked
    · rename_i stored present
      split at checked
      · cases checked
      · rename_i available counted
        split_ifs at checked
        cases checked
        exact ⟨by omega, by omega, present, available, counted, by omega⟩
  · rintro ⟨some_asked, few, present, available, counted, enough⟩
    rw [if_neg (by omega), if_neg (by omega), present]
    dsimp only
    rw [counted]
    dsimp only
    rw [if_neg (by omega)]

/-- The new gateways and jobs of a batch, and nothing else new in their tables. -/
structure Added (before after : Db) (results : List (Nat × Nat)) : Prop where
  gateways_distinct : (results.map Prod.fst).Nodup
  jobs_distinct : (results.map Prod.snd).Nodup
  gateway : ∀ entry ∈ results, before.gateways.get entry.1 = none ∧
    ∃ row, after.gateways.get entry.1 = some row ∧ row.status = .pending
  job : ∀ entry ∈ results, before.jobs.get entry.2 = none ∧
    after.jobs.get entry.2 = some ⟨.createGateway, entry.1, .pending, none, none⟩
  gateways_same : ∀ id, id ∉ results.map Prod.fst → after.gateways.get id = before.gateways.get id
  jobs_same : ∀ id, id ∉ results.map Prod.snd → after.jobs.get id = before.jobs.get id

def AllOrNothing (before : GroupDb) (count : Nat) : GroupDb × Except PyError (List (Nat × Nat)) → Prop
  | (after, .ok results) => results.length = count ∧ Added before.db after.db results
  | (after, .error _) => SameRows before.db after.db

/-! ### One creation -/

theorem namePool_nodup : namePool.Nodup := by
  refine List.Nodup.map ?_ List.nodup_range
  intro first second same
  exact Naming.formatSequentialName_injective same

theorem vmIpPool_nodup (worker : Worker) : (vmIpPool worker).Nodup := List.nodup_range'

theorem portPool_nodup (worker : Worker) : (portPool worker).Nodup := List.nodup_range'

theorem mem_left_of_nextGatewayName {db : Db} {name : String} (chosen : nextGatewayName db = .ok name) :
    name ∈ Lib.Pool.left namePool (takenNames db) := by
  unfold nextGatewayName at chosen
  split at chosen
  · rename_i found next
    cases chosen
    obtain ⟨index, small, rfl⟩ := Naming.nextSequentialName_form next
    exact Lib.Pool.mem_left.mpr
      ⟨List.mem_map.mpr ⟨index, List.mem_range.mpr small, rfl⟩, Naming.nextSequentialName_not_mem next⟩
  · cases chosen

theorem nextGatewayName_of_left {db : Db} (some : 0 < (Lib.Pool.left namePool (takenNames db)).length) :
    ∃ name, nextGatewayName db = .ok name := by
  obtain ⟨name, free⟩ := List.exists_mem_of_length_pos some
  obtain ⟨member, unused⟩ := Lib.Pool.mem_left.mp free
  obtain ⟨index, small, rfl⟩ := List.mem_map.mp member
  unfold nextGatewayName Naming.nextSequentialName
  split
  · exact ⟨_, rfl⟩
  · rename_i search
    split at search
    · cases search
    · rename_i none
      have taken := List.find?_eq_none.mp none index small
      simp only [Bool.not_eq_true, Bool.not_eq_false', List.contains_iff_mem] at taken
      exact absurd taken unused

theorem mem_left_of_freeVmIp {worker : Worker} {used : List Nat} {vmIp : Nat}
    (found : Incus.freeVmIp worker used = .ok vmIp) : vmIp ∈ Lib.Pool.left (vmIpPool worker) used := by
  unfold Incus.freeVmIp at found
  split at found
  · rename_i candidate search
    cases found
    exact Lib.Pool.mem_left_of_find? search
  · cases found

theorem freeVmIp_of_left {worker : Worker} {used : List Nat} (some : 0 < (Lib.Pool.left (vmIpPool worker) used).length) :
    ∃ vmIp, Incus.freeVmIp worker used = .ok vmIp := by
  unfold Incus.freeVmIp
  split
  · exact ⟨_, rfl⟩
  · rename_i none
    have empty := Lib.Pool.find?_eq_none_iff.mp none
    unfold vmIpPool at some
    omega

theorem mem_left_of_freeUdpPort {worker : Worker} {used : List Nat} {port : Nat}
    (found : Incus.freeUdpPort worker used = .ok port) : port ∈ Lib.Pool.left (portPool worker) used := by
  unfold Incus.freeUdpPort at found
  split at found
  · rename_i candidate search
    cases found
    exact Lib.Pool.mem_left_of_find? search
  · cases found

theorem freeUdpPort_of_left {worker : Worker} {used : List Nat}
    (some : 0 < (Lib.Pool.left (portPool worker) used).length) : ∃ port, Incus.freeUdpPort worker used = .ok port := by
  unfold Incus.freeUdpPort
  split
  · exact ⟨_, rfl⟩
  · rename_i none
    have empty := Lib.Pool.find?_eq_none_iff.mp none
    unfold portPool at some
    omega

theorem resolved_id {db : Db} {now workerId id : Nat} {worker : Worker}
    (resolved : resolveWorkerForGateway db now (some workerId) = .ok (id, worker)) : id = workerId := by
  unfold resolveWorkerForGateway at resolved
  simp only at resolved
  split at resolved
  · cases resolved
  · split_ifs at resolved
    cases resolved
    rfl

/-- A creation for a given worker with everything else chosen for it. -/
structure AutomaticCreation (calls : CreationCalls) (workerId : Nat) (db after : Db) (gatewayId jobId : Nat) where
  worker : Worker
  name : String
  vmIp : Nat
  port : Nat
  key : preauthKey calls.preauth = .ok ()
  resolved : resolveWorkerForGateway db calls.now (some workerId) = .ok (workerId, worker)
  name_free : name ∈ Lib.Pool.left namePool (takenNames db)
  vmIp_free : vmIp ∈ Lib.Pool.left (vmIpPool worker) (takenVmIps db workerId)
  port_free : port ∈ Lib.Pool.left (portPool worker) (takenPorts db workerId)
  gateway_id : gatewayId = db.gateways.next
  job_id : jobId = db.jobs.next
  same : after = { db with
    gateways := db.gateways.insert (newGateway calls db.gateways.next workerId name vmIp port)
    jobs := db.jobs.insert ⟨.createGateway, db.gateways.next, .pending, none, none⟩
    ipAllocations := db.ipAllocations.insert ⟨workerId, vmIp, none, none⟩
    portAllocations := db.portAllocations.insert ⟨workerId, port, none⟩ }

theorem automatic_of_created {calls : CreationCalls} {workerId : Nat} {db after : Db} {gatewayId jobId : Nat}
    (created : createGateway calls ⟨none, none, some workerId⟩ db = .ok (after, gatewayId, jobId)) :
    Nonempty (AutomaticCreation calls workerId db after gatewayId jobId) := by
  unfold createGateway at created
  obtain ⟨name, named, created⟩ := bind_ok created
  obtain ⟨_, -, created⟩ := bind_ok created
  obtain ⟨_, key, created⟩ := bind_ok created
  obtain ⟨⟨id, worker⟩, resolved, created⟩ := bind_ok created
  obtain ⟨⟨allocated, vmIp⟩, address, created⟩ := bind_ok created
  obtain ⟨⟨ported, port⟩, chosen, inserted⟩ := bind_ok created
  have own := resolved_id resolved
  subst own
  have free : vmIp ∈ Lib.Pool.left (vmIpPool worker) (takenVmIps db id) ∧
      allocated = { db with ipAllocations := db.ipAllocations.insert ⟨id, vmIp, none, none⟩ } := by
    unfold Incus.allocateVmIp at address
    split at address
    · rename_i candidate found
      cases address
      exact ⟨mem_left_of_freeVmIp found, rfl⟩
    · cases address
  obtain ⟨vmIp_free, rfl⟩ := free
  have port_free : port ∈ Lib.Pool.left (portPool worker) (takenPorts db id) ∧
      ported = { db with
        ipAllocations := db.ipAllocations.insert ⟨id, vmIp, none, none⟩
        portAllocations := db.portAllocations.insert ⟨id, port, none⟩ } := by
    simp only [requestedPort, Incus.allocateUdpPort] at chosen
    split at chosen
    · rename_i candidate found
      cases chosen
      exact ⟨mem_left_of_freeUdpPort found, rfl⟩
    · cases chosen
  obtain ⟨port_free, rfl⟩ := port_free
  simp only [insertGateway] at inserted
  split at inserted
  · cases inserted
  · cases inserted
    exact ⟨⟨worker, name, vmIp, port, key, resolved, mem_left_of_nextGatewayName named, vmIp_free, port_free, rfl, rfl, rfl⟩⟩

theorem created_of_provided {calls : Nat → CreationCalls} {workerId : Nat} {db : Db} (provided : Provided calls workerId db 0) :
    ∃ after gatewayId jobId, createGateway (calls 0) ⟨none, none, some workerId⟩ db = .ok (after, gatewayId, jobId) := by
  obtain ⟨key, worker, resolved, names, vmIps, ports⟩ := provided
  obtain ⟨name, named⟩ := nextGatewayName_of_left names
  obtain ⟨vmIp, address⟩ := freeVmIp_of_left vmIps
  obtain ⟨port, chosen⟩ := freeUdpPort_of_left ports
  have unused : getByName db name = none := by
    have free := (Lib.Pool.mem_left.mp (mem_left_of_nextGatewayName named)).2
    refine List.find?_eq_none.mpr ?_
    intro entry member
    simp only [decide_eq_true_eq]
    exact fun same => free (List.mem_map.mpr ⟨entry, member, same⟩)
  have requested : requestedPort { db with ipAllocations := db.ipAllocations.insert ⟨workerId, vmIp, none, none⟩ }
      ⟨none, none, some workerId⟩ workerId worker = .ok ({ db with
        ipAllocations := db.ipAllocations.insert ⟨workerId, vmIp, none, none⟩
        portAllocations := db.portAllocations.insert ⟨workerId, port, none⟩ }, port) := by
    simp only [takenPorts, Incus.gatewayUdpPorts, Incus.allocatedPorts] at chosen
    simp only [requestedPort, Incus.allocateUdpPort, Incus.gatewayUdpPorts, Incus.allocatedPorts, chosen]
  have planned : createGateway (calls 0) ⟨none, none, some workerId⟩ db = insertGateway _ _ :=
    createGateway_of_checks named unused key resolved address requested
  have free : port ∉ Incus.gatewayUdpPorts db workerId := by
    intro member
    exact (Lib.Pool.mem_left.mp (mem_left_of_freeUdpPort chosen)).2 (List.mem_append_left _ member)
  exact ⟨_, _, _, planned.trans (insertGateway_of_free free)⟩

/-! ### What a creation uses up -/

theorem takenNames_after {calls : CreationCalls} {workerId : Nat} {db after : Db} {gatewayId jobId : Nat}
    (made : AutomaticCreation calls workerId db after gatewayId jobId) (name : String) :
    name ∈ takenNames after ↔ name ∈ takenNames db ∨ name = made.name := by
  have gateways : after.gateways = _ := congrArg Db.gateways made.same
  rw [takenNames, gateways, Table.toList_insert]
  simp [takenNames, newGateway]

theorem takenVmIps_after {calls : CreationCalls} {workerId : Nat} {db after : Db} {gatewayId jobId : Nat}
    (made : AutomaticCreation calls workerId db after gatewayId jobId) (ip : Nat) :
    ip ∈ takenVmIps after workerId ↔ ip ∈ takenVmIps db workerId ∨ ip = made.vmIp := by
  have gateways : after.gateways = _ := congrArg Db.gateways made.same
  have allocations : after.ipAllocations = _ := congrArg Db.ipAllocations made.same
  have vmIps : ip ∈ Incus.gatewayVmIps after workerId ↔ ip ∈ Incus.gatewayVmIps db workerId ∨ ip = made.vmIp := by
    rw [Incus.gatewayVmIps, gateways]
    exact Table.mem_column_insert (fun row : Gateway => row.workerId = workerId) (decide_eq_true rfl) Gateway.vmIp ip
  have addresses : ip ∈ Incus.allocatedAddresses after workerId ↔
      ip ∈ Incus.allocatedAddresses db workerId ∨ ip = made.vmIp := by
    rw [Incus.allocatedAddresses, allocations]
    exact Table.mem_column_insert (fun row : IpAllocation => row.workerId = workerId) (decide_eq_true rfl) IpAllocation.address ip
  rw [takenVmIps, takenVmIps, List.mem_append, List.mem_append, vmIps, addresses]
  tauto

theorem takenPorts_after {calls : CreationCalls} {workerId : Nat} {db after : Db} {gatewayId jobId : Nat}
    (made : AutomaticCreation calls workerId db after gatewayId jobId) (port : Nat) :
    port ∈ takenPorts after workerId ↔ port ∈ takenPorts db workerId ∨ port = made.port := by
  have gateways : after.gateways = _ := congrArg Db.gateways made.same
  have allocations : after.portAllocations = _ := congrArg Db.portAllocations made.same
  have udpPorts : port ∈ Incus.gatewayUdpPorts after workerId ↔
      port ∈ Incus.gatewayUdpPorts db workerId ∨ port = made.port := by
    rw [Incus.gatewayUdpPorts, gateways]
    exact Table.mem_column_insert (fun row : Gateway => row.workerId = workerId) (decide_eq_true rfl) Gateway.udpPort port
  have rows : port ∈ Incus.allocatedPorts after workerId ↔ port ∈ Incus.allocatedPorts db workerId ∨ port = made.port := by
    rw [Incus.allocatedPorts, allocations]
    exact Table.mem_column_insert (fun row : PortAllocation => row.workerId = workerId) (decide_eq_true rfl) PortAllocation.udpPort port
  rw [takenPorts, takenPorts, List.mem_append, List.mem_append, udpPorts, rows]
  tauto

theorem resolve_after {calls : CreationCalls} {workerId : Nat} {db after : Db} {gatewayId jobId : Nat}
    (made : AutomaticCreation calls workerId db after gatewayId jobId) (now : Nat) :
    resolveWorkerForGateway after now (some workerId) = resolveWorkerForGateway db now (some workerId) := by
  have workers : after.workers = _ := congrArg Db.workers made.same
  simp only [resolveWorkerForGateway, workers]

/-- What was provided for the next creation is provided for the first one after this. -/
theorem provided_after {calls : Nat → CreationCalls} {workerId : Nat} {db after : Db} {gatewayId jobId : Nat}
    (made : AutomaticCreation (calls 0) workerId db after gatewayId jobId) (index : Nat) :
    Provided (fun later => calls (later + 1)) workerId after index ↔ Provided calls workerId db (index + 1) := by
  have names := Lib.Pool.length_left_take namePool_nodup made.name_free (takenNames_after made)
  have vmIps := Lib.Pool.length_left_take (vmIpPool_nodup made.worker) made.vmIp_free (takenVmIps_after made)
  have ports := Lib.Pool.length_left_take (portPool_nodup made.worker) made.port_free (takenPorts_after made)
  have single : ∀ {now other}, resolveWorkerForGateway db now (some workerId) = .ok (workerId, other) →
      other = made.worker := by
    intro now other resolved
    have stored := get_of_resolveWorkerForGateway resolved
    rw [get_of_resolveWorkerForGateway made.resolved] at stored
    exact (Option.some.inj stored).symm
  unfold Provided
  simp only [resolve_after made]
  constructor
  · rintro ⟨key, worker, resolved, some_name, some_vmIp, some_port⟩
    cases single resolved
    exact ⟨key, made.worker, resolved, by omega, by omega, by omega⟩
  · rintro ⟨key, worker, resolved, some_name, some_vmIp, some_port⟩
    cases single resolved
    exact ⟨key, made.worker, resolved, by omega, by omega, by omega⟩

theorem provided_of_automatic {calls : Nat → CreationCalls} {workerId : Nat} {db after : Db} {gatewayId jobId : Nat}
    (made : AutomaticCreation (calls 0) workerId db after gatewayId jobId) : Provided calls workerId db 0 :=
  ⟨made.key, made.worker, made.resolved, List.length_pos_of_mem made.name_free, List.length_pos_of_mem made.vmIp_free,
    List.length_pos_of_mem made.port_free⟩

/-! ### One creation in a group -/

/-- What the loop has done when it goes on. -/
structure GroupCreation (calls : CreationCalls) (groupId : Nat) (group : PeerGroup) (s t : GroupDb) (gatewayId jobId : Nat)
    where
  lanIp : Address
  slot : Int
  after : Db
  allocated : allocateLanIp s groupId group = .ok lanIp
  read : lanIp.macvlanSlot = .ok slot
  fits : s.sizes.takes lanIp slot = true
  made : AutomaticCreation calls group.workerId s.db after gatewayId jobId
  same : t = storeLan s after gatewayId groupId lanIp slot

theorem createAt_ok {calls : CreationCalls} {groupId gatewayId jobId : Nat} {group : PeerGroup} {s t : GroupDb}
    {lanIp : Address} (allocated : allocateLanIp s groupId group = .ok lanIp)
    (created : createAt groupId group calls s lanIp = .ok (t, gatewayId, jobId)) :
    Nonempty (GroupCreation calls groupId group s t gatewayId jobId) := by
  unfold createAt at created
  split at created
  · cases created
  · rename_i slot read
    split at created
    · cases created
    · rename_i after gateway job done
      split_ifs at created with fits
      cases created
      rw [groupRequest] at done
      obtain ⟨made⟩ := automatic_of_created done
      exact ⟨⟨lanIp, slot, after, allocated, read, fits, made, rfl⟩⟩

section Creation

variable {calls : CreationCalls} {groupId gatewayId jobId : Nat} {group : PeerGroup} {s t : GroupDb}
  (created : GroupCreation calls groupId group s t gatewayId jobId)

include created

theorem GroupCreation.older {id : Nat} (present : id ∈ s.db.gateways.toList.map Prod.fst) : id ≠ gatewayId := by
  obtain ⟨entry, stored, rfl⟩ := List.mem_map.mp present
  rw [created.made.gateway_id]
  exact Nat.ne_of_lt (Table.lt_next_of_get (Table.mem_toList.mp stored))

theorem GroupCreation.db : t.db = created.after := congrArg GroupDb.db created.same

theorem GroupCreation.lan_new : t.lan gatewayId = ⟨some groupId, some created.lanIp, some created.slot⟩ :=
  (congrFun (congrArg GroupDb.lan created.same) gatewayId).trans (Function.update_self ..)

theorem GroupCreation.lan_old {id : Nat} (other : id ≠ gatewayId) : t.lan id = s.lan id :=
  (congrFun (congrArg GroupDb.lan created.same) id).trans (Function.update_of_ne other ..)

theorem GroupCreation.gateways : t.db.gateways = s.db.gateways.insert (newGateway calls s.db.gateways.next group.workerId
    created.made.name created.made.vmIp created.made.port) :=
  (congrArg (fun t => t.db.gateways) created.same).trans (congrArg Db.gateways created.made.same)

/-- One more gateway in the group. -/
theorem GroupCreation.grouped : groupGateways t groupId = groupGateways s groupId ++ [gatewayId] := by
  have same : ∀ id ∈ s.db.gateways.toList.map Prod.fst, (t.lan id).inGroup groupId = (s.lan id).inGroup groupId := by
    intro id member
    rw [created.lan_old (created.older member)]
  have listed : t.db.gateways.toList.map Prod.fst = s.db.gateways.toList.map Prod.fst ++ [gatewayId] := by
    rw [created.gateways, Table.toList_insert, List.map_append]
    exact congrArg (fun id => s.db.gateways.toList.map Prod.fst ++ [id]) created.made.gateway_id.symm
  rw [groupGateways, listed, List.filter_append, List.filter_congr same, groupGateways]
  simp [created.lan_new, LanColumns.inGroup]

theorem GroupCreation.used : usedLanIps t groupId = usedLanIps s groupId ++ [created.lanIp] := by
  have same : ∀ id ∈ groupGateways s groupId, (t.lan id).lanIp = (s.lan id).lanIp := by
    intro id member
    rw [created.lan_old (created.older (List.mem_filter.mp member).1)]
  rw [usedLanIps, created.grouped, List.filterMap_append, List.filterMap_congr same, usedLanIps]
  simp [created.lan_new]

/-- The first free address is taken. -/
theorem GroupCreation.left : freeLanIps t groupId group = (freeLanIps s groupId group).tail := by
  apply Lib.Pool.left_tail (nodup_lanCandidates group) (allocateLanIp_ok created.allocated).2
  intro other
  rw [created.used, List.mem_append, List.mem_singleton]

theorem GroupCreation.first : (freeLanIps s groupId group)[0]? = some created.lanIp := by
  have first := (allocateLanIp_ok created.allocated).2
  rw [Lib.Pool.find?_eq_head?, List.head?_eq_getElem?] at first
  exact first

theorem GroupCreation.slotted : Slotted s groupId group 0 := by
  intro lanIp free
  rw [created.first] at free
  cases free
  exact ⟨created.slot, created.read, created.fits⟩

theorem GroupCreation.slotted_after (index : Nat) : Slotted t groupId group index ↔ Slotted s groupId group (index + 1) := by
  have sizes : t.sizes = s.sizes := (congrArg GroupDb.sizes created.same).trans rfl
  simp only [Slotted, created.left, sizes, List.getElem?_tail]

end Creation

theorem GroupCreation.served {calls : Nat → CreationCalls} {groupId gatewayId jobId : Nat} {group : PeerGroup}
    {s t : GroupDb} (created : GroupCreation (calls 0) groupId group s t gatewayId jobId) :
    Served calls s groupId group 0 :=
  ⟨provided_of_automatic created.made, created.slotted⟩

/-- What was served for the next creation is served for the first one after this. -/
theorem GroupCreation.served_after {calls : Nat → CreationCalls} {groupId gatewayId jobId : Nat} {group : PeerGroup}
    {s t : GroupDb} (created : GroupCreation (calls 0) groupId group s t gatewayId jobId) (index : Nat) :
    Served (fun later => calls (later + 1)) t groupId group index ↔ Served calls s groupId group (index + 1) := by
  rw [Served, Served, created.slotted_after, created.db, provided_after created.made]

/-! ### The batch -/

/-- A round of the loop, where the LAN has room: it ends the loop or creates a gateway. -/
theorem createEach_round {groupId count : Nat} {group : PeerGroup} {calls : Nat → CreationCalls} {s : GroupDb}
    (valid : validateLanStartIp group.lanSubnet group.lanStartIp = .ok ())
    (room : (groupGateways s groupId).length < (lanHosts group).length) :
    (¬ Served calls s groupId group 0 ∧
        ∃ error, createEach groupId group (count + 1) calls s = (s, .error error)) ∨
      ∃ t gatewayId jobId, Nonempty (GroupCreation (calls 0) groupId group s t gatewayId jobId) ∧
          createEach groupId group (count + 1) calls s = addResult (gatewayId, jobId)
            (createEach groupId group count (fun later => calls (later + 1)) t) := by
  obtain ⟨lanIp, found⟩ := allocateLanIp_of_capacity valid room
  simp only [createEach, found]
  cases created : createAt groupId group (calls 0) s lanIp with
  | ok result =>
      obtain ⟨t, gatewayId, jobId⟩ := result
      exact .inr ⟨t, gatewayId, jobId, createAt_ok found created, rfl⟩
  | error error =>
      refine .inl ⟨?_, error, rfl⟩
      rintro ⟨provided, slotted⟩
      have first := (allocateLanIp_ok found).2
      rw [Lib.Pool.find?_eq_head?, List.head?_eq_getElem?] at first
      obtain ⟨slot, read, fits⟩ := slotted lanIp first
      obtain ⟨after, gatewayId, jobId, done⟩ := created_of_provided provided
      simp only [createAt, read, groupRequest, done, fits, if_true] at created
      cases created

theorem room_after {calls : CreationCalls} {groupId count gatewayId jobId : Nat} {group : PeerGroup} {s t : GroupDb}
    (created : GroupCreation calls groupId group s t gatewayId jobId)
    (room : (groupGateways s groupId).length + (count + 1) ≤ (lanHosts group).length) :
    (groupGateways t groupId).length + count ≤ (lanHosts group).length := by
  rw [created.grouped, List.length_append, List.length_singleton]
  omega

/-- A batch succeeds when every one of its creations is served. -/
theorem createEach_ok_iff {groupId : Nat} {group : PeerGroup}
    (valid : validateLanStartIp group.lanSubnet group.lanStartIp = .ok ()) (count : Nat) :
    ∀ (calls : Nat → CreationCalls) (s : GroupDb),
      (groupGateways s groupId).length + count ≤ (lanHosts group).length →
        ((∃ results, (createEach groupId group count calls s).2 = .ok results) ↔
          ∀ index < count, Served calls s groupId group index) := by
  induction count with
  | zero =>
      intro calls s _
      constructor
      · intro _ index small
        exact absurd small (Nat.not_lt_zero index)
      · intro _
        exact ⟨[], by simp only [createEach]⟩
  | succ count later =>
      intro calls s room
      have first : (groupGateways s groupId).length < (lanHosts group).length := by omega
      rcases createEach_round valid first with ⟨unserved, error, failed⟩ | ⟨t, gatewayId, jobId, ⟨created⟩, continued⟩
      · rw [failed]
        constructor
        · rintro ⟨results, succeeded⟩
          cases succeeded
        · intro served
          exact absurd (served 0 (Nat.succ_pos count)) unserved
      · have rest := later (fun index => calls (index + 1)) t (room_after created room)
        rw [continued]
        constructor
        · rintro ⟨results, succeeded⟩ index small
          obtain ⟨tail, ran, -⟩ := map_ok succeeded
          cases index with
          | zero => exact created.served
          | succ index => exact (created.served_after index).mp (rest.mp ⟨tail, ran⟩ index (by omega))
        · intro served
          obtain ⟨tail, ran⟩ := rest.mpr fun index small =>
            (created.served_after index).mpr (served (index + 1) (by omega))
          exact ⟨(gatewayId, jobId) :: tail, by simp only [addResult, ran]; rfl⟩

/-- The first creation's gateway is there to stay. -/
theorem createEach_keeps {groupId : Nat} {group : PeerGroup}
    (valid : validateLanStartIp group.lanSubnet group.lanStartIp = .ok ()) (count : Nat) :
    ∀ (calls : Nat → CreationCalls) (s : GroupDb),
      (groupGateways s groupId).length + count ≤ (lanHosts group).length →
        ∀ id row, s.db.gateways.get id = some row →
          (createEach groupId group count calls s).1.db.gateways.get id = some row := by
  induction count with
  | zero =>
      intro calls s _ id row present
      simp only [createEach, present]
  | succ count later =>
      intro calls s room id row present
      have first : (groupGateways s groupId).length < (lanHosts group).length := by omega
      rcases createEach_round valid first with ⟨-, error, failed⟩ | ⟨t, gatewayId, jobId, ⟨created⟩, continued⟩
      · rw [failed]
        exact present
      · rw [continued]
        apply later _ _ (room_after created room) id row
        rw [created.gateways]
        exact Table.get_insert_of_get present _

/-- A new gateway with its job in front of those created after it. -/
theorem Added.cons {calls : CreationCalls} {workerId : Nat} {before middle after : Db} {gatewayId jobId : Nat}
    {results : List (Nat × Nat)} (made : AutomaticCreation calls workerId before middle gatewayId jobId)
    (added : Added middle after results) : Added before after ((gatewayId, jobId) :: results) := by
  obtain ⟨worker, name, vmIp, port, -, -, -, -, -, gateway_id, job_id, same⟩ := made
  have created : middle.gateways.get gatewayId =
      some (newGateway calls before.gateways.next workerId name vmIp port) := by
    rw [same, gateway_id]
    exact Table.get_insert_self _ _
  have queued : middle.jobs.get jobId = some ⟨.createGateway, gatewayId, .pending, none, none⟩ := by
    rw [same, job_id, gateway_id]
    exact Table.get_insert_self _ _
  have gateway_other : ∀ id, id ≠ gatewayId → middle.gateways.get id = before.gateways.get id := by
    intro id other
    rw [same]
    exact Table.get_insert_of_ne (by rw [← gateway_id]; exact other) _
  have job_other : ∀ id, id ≠ jobId → middle.jobs.get id = before.jobs.get id := by
    intro id other
    rw [same]
    exact Table.get_insert_of_ne (by rw [← job_id]; exact other) _
  have gateway_first : gatewayId ∉ results.map Prod.fst := by
    intro member
    obtain ⟨entry, listed, same⟩ := List.mem_map.mp member
    have absent := (added.gateway entry listed).1
    rw [same, created] at absent
    cases absent
  have job_first : jobId ∉ results.map Prod.snd := by
    intro member
    obtain ⟨entry, listed, same⟩ := List.mem_map.mp member
    have absent := (added.job entry listed).1
    rw [same, queued] at absent
    cases absent
  refine ⟨List.nodup_cons.mpr ⟨gateway_first, added.gateways_distinct⟩,
    List.nodup_cons.mpr ⟨job_first, added.jobs_distinct⟩, ?_, ?_, ?_, ?_⟩
  · intro entry listed
    rcases List.mem_cons.mp listed with rfl | listed
    · refine ⟨?_, _, (added.gateways_same gatewayId gateway_first).trans created, rfl⟩
      rw [gateway_id]
      exact Table.get_next _
    · obtain ⟨absent, present⟩ := added.gateway entry listed
      have other : entry.1 ≠ gatewayId := by
        intro same
        rw [same, created] at absent
        cases absent
      rw [gateway_other entry.1 other] at absent
      exact ⟨absent, present⟩
  · intro entry listed
    rcases List.mem_cons.mp listed with rfl | listed
    · refine ⟨?_, (added.jobs_same jobId job_first).trans queued⟩
      rw [job_id]
      exact Table.get_next _
    · obtain ⟨absent, present⟩ := added.job entry listed
      have other : entry.2 ≠ jobId := by
        intro same
        rw [same, queued] at absent
        cases absent
      rw [job_other entry.2 other] at absent
      exact ⟨absent, present⟩
  · intro id unlisted
    simp only [List.map_cons, List.mem_cons, not_or] at unlisted
    rw [added.gateways_same id unlisted.2, gateway_other id unlisted.1]
  · intro id unlisted
    simp only [List.map_cons, List.mem_cons, not_or] at unlisted
    rw [added.jobs_same id unlisted.2, job_other id unlisted.1]

theorem Added.nil (db : Db) : Added db db [] where
  gateways_distinct := List.nodup_nil
  jobs_distinct := List.nodup_nil
  gateway := fun _ listed => nomatch listed
  job := fun _ listed => nomatch listed
  gateways_same := fun _ _ => rfl
  jobs_same := fun _ _ => rfl

theorem createEach_added {groupId : Nat} {group : PeerGroup}
    (valid : validateLanStartIp group.lanSubnet group.lanStartIp = .ok ()) (count : Nat) :
    ∀ (calls : Nat → CreationCalls) (s : GroupDb) (results : List (Nat × Nat)),
      (groupGateways s groupId).length + count ≤ (lanHosts group).length →
        (createEach groupId group count calls s).2 = .ok results →
          results.length = count ∧ Added s.db (createEach groupId group count calls s).1.db results := by
  induction count with
  | zero =>
      intro calls s results _ done
      simp only [createEach] at done ⊢
      cases done
      exact ⟨rfl, .nil s.db⟩
  | succ count later =>
      intro calls s results room done
      have first : (groupGateways s groupId).length < (lanHosts group).length := by omega
      rcases createEach_round valid first with ⟨-, error, failed⟩ | ⟨t, gatewayId, jobId, ⟨created⟩, continued⟩
      · rw [failed] at done
        cases done
      · rw [continued] at done ⊢
        obtain ⟨rest, ran, rfl⟩ := map_ok done
        obtain ⟨length, added⟩ := later _ _ rest (room_after created room) ran
        refine ⟨congrArg (· + 1) length, .cons created.made ?_⟩
        rw [← created.db]
        exact added

theorem createEach_allOrNothing_iff {groupId count : Nat} {group : PeerGroup} {calls : Nat → CreationCalls} {s : GroupDb}
    (valid : validateLanStartIp group.lanSubnet group.lanStartIp = .ok ()) (positive : 0 < count)
    (room : (groupGateways s groupId).length + count ≤ (lanHosts group).length) :
    AllOrNothing s count (createEach groupId group count calls s) ↔
      (Served calls s groupId group 0 → ∀ index < count, Served calls s groupId group index) := by
  have succeeds := createEach_ok_iff valid count calls s room
  obtain ⟨later, rfl⟩ := Nat.exists_eq_succ_of_ne_zero (Nat.ne_of_gt positive)
  have first : (groupGateways s groupId).length < (lanHosts group).length := by omega
  constructor
  · intro whole served
    apply succeeds.mp
    rcases createEach_round valid first with ⟨unserved, -⟩ | ⟨t, gatewayId, jobId, ⟨created⟩, continued⟩
    · exact absurd served unserved
    · -- an error would come after the first gateway was committed
      have present : (createEach groupId group (later + 1) calls s).1.db.gateways.get s.db.gateways.next =
          some (newGateway (calls 0) s.db.gateways.next group.workerId created.made.name created.made.vmIp
            created.made.port) := by
        rw [continued]
        apply createEach_keeps valid later _ _ (room_after created room) _ _
        rw [created.gateways]
        exact Table.get_insert_self _ _
      generalize createEach groupId group (later + 1) calls s = outcome at whole present ⊢
      obtain ⟨t, ended⟩ := outcome
      cases ended with
      | ok results => exact ⟨results, rfl⟩
      | error error =>
          rw [whole.gateways, Table.get_next] at present
          cases present
  · intro all
    by_cases served : Served calls s groupId group 0
    · obtain ⟨results, done⟩ := succeeds.mpr (all served)
      have added := createEach_added valid _ calls s results room done
      generalize createEach groupId group (later + 1) calls s = outcome at done added ⊢
      obtain ⟨t, ended⟩ := outcome
      cases done
      exact added
    · rcases createEach_round valid first with ⟨-, error, failed⟩ | ⟨t, gatewayId, jobId, ⟨created⟩, -⟩
      · rw [failed]
        exact .refl s.db
      · exact absurd created.served served

/-- A batch is all or nothing unless its first creation is served and a later one is not. -/
theorem batch_all_or_nothing_iff (calls : Nat → CreationCalls) (s : GroupDb) (groupId count : Nat) :
    AllOrNothing s count (createGateways calls s groupId count) ↔
      ∀ group, Admitted s groupId count group → Served calls s groupId group 0 →
        ∀ index < count, Served calls s groupId group index := by
  unfold createGateways
  cases checked : checkBatch s groupId count with
  | error error =>
      refine ⟨?_, fun _ => .refl s.db⟩
      intro _ group admitted
      rw [checkBatch_ok_iff.mpr admitted] at checked
      cases checked
  | ok group =>
      have admitted := checkBatch_ok_iff.mp checked
      obtain ⟨some_asked, -, -, available, counted, enough⟩ := admitted
      obtain ⟨valid, room⟩ := remainingLanCapacity_ok counted
      have fits : (groupGateways s groupId).length + count ≤ (lanHosts group).length := by omega
      dsimp only
      rw [createEach_allOrNothing_iff valid (by omega) fits]
      constructor
      · intro whole other admitted'
        have same := (checkBatch_ok_iff.mpr admitted').symm.trans checked
        cases same
        exact whole
      · exact fun whole => whole group (checkBatch_ok_iff.mp checked)

/-- A worker with one port, and a group on it. -/
def onePortGroup : GroupDb where
  db := { Db.empty with
    workers := Table.empty.insert ⟨"w1", "w1", "https://w1:8443", true, some 0, 51820, 51820, 168427775, 168427530⟩ }
  groups := Table.empty.insert ⟨"g", 1, .v4 ⟨3232238848, 24⟩, .v4 3232238948, "192.168.13.254", none⟩
  lan := fun _ => ⟨none, none, none⟩
  sizes := .unlimited

def granted (_ : Nat) : CreationCalls := ⟨0, 2624, .ok ()⟩

/-- The batch raised after it had committed a gateway. -/
def partlyDone : GroupDb × Except PyError (List (Nat × Nat)) → Bool
  | (t, .error _) => (t.db.gateways.get 1).isSome
  | (_, .ok _) => false

/-- Two gateways were asked for; one is there when the port of the second cannot be found. -/
theorem batch_half_done : ¬ AllOrNothing onePortGroup 2 (createGateways granted onePortGroup 1 2) := by
  have ran : partlyDone (createGateways granted onePortGroup 1 2) = true := by decide +kernel
  generalize createGateways granted onePortGroup 1 2 = outcome at ran ⊢
  intro whole
  obtain ⟨t, ended⟩ := outcome
  cases ended with
  | ok results => cases ran
  | error error =>
      have absent : t.db.gateways.get 1 = none := whole.gateways 1
      simp [partlyDone, absent] at ran

end DeepOrc.Services
