import DeepOrc.Models

/-! # Incus address and port pools -/

namespace DeepOrc.Incus

open Models

def gatewayVmIps (db : Db) (workerId : Nat) : List Nat :=
  (db.gateways.toList.filter fun entry => entry.2.workerId = workerId).map fun entry => entry.2.vmIp

def allocatedAddresses (db : Db) (workerId : Nat) : List Nat :=
  (db.ipAllocations.toList.filter fun entry => entry.2.workerId = workerId).map fun entry => entry.2.address

def gatewayUdpPorts (db : Db) (workerId : Nat) : List Nat :=
  (db.gateways.toList.filter fun entry => entry.2.workerId = workerId).map fun entry => entry.2.udpPort

def allocatedPorts (db : Db) (workerId : Nat) : List Nat :=
  (db.portAllocations.toList.filter fun entry => entry.2.workerId = workerId).map fun entry => entry.2.udpPort

/-- The first host from the pool's start up to, not including, the broadcast address that is not in use. -/
def freeVmIp (worker : Worker) (used : List Nat) : Except PyError Nat :=
  match (List.range' worker.ipPoolStart (worker.ipPoolBroadcast - worker.ipPoolStart)).find?
      fun candidate => !used.contains candidate with
  | some candidate => .ok candidate
  | none => .error (.value s!"No available VM IPs in pool for worker {worker.name}")

def freeUdpPort (worker : Worker) (used : List Nat) : Except PyError Nat :=
  match (List.range' worker.portPoolStart (worker.portPoolEnd + 1 - worker.portPoolStart)).find?
      fun port => !used.contains port with
  | some port => .ok port
  | none => .error (.value s!"No available UDP ports in pool for worker {worker.name}")

def allocateVmIp (db : Db) (workerId : Nat) (worker : Worker) : Except PyError (Db × Nat) :=
  match freeVmIp worker (gatewayVmIps db workerId ++ allocatedAddresses db workerId) with
  | .ok candidate =>
      .ok ({ db with ipAllocations := db.ipAllocations.insert ⟨workerId, candidate, none, none⟩ }, candidate)
  | .error error => .error error

def allocateUdpPort (db : Db) (workerId : Nat) (worker : Worker) (gatewayId : Option Nat) :
    Except PyError (Db × Nat) :=
  match freeUdpPort worker (gatewayUdpPorts db workerId ++ allocatedPorts db workerId) with
  | .ok port =>
      .ok ({ db with portAllocations := db.portAllocations.insert ⟨workerId, port, gatewayId⟩ }, port)
  | .error error => .error error

def vmIpAllocation (db : Db) (workerId ip : Nat) : Option (Nat × IpAllocation) :=
  db.ipAllocations.toList.find? fun entry => entry.2.workerId = workerId && entry.2.address = ip

def udpPortAllocation (db : Db) (workerId port : Nat) : Option (Nat × PortAllocation) :=
  db.portAllocations.toList.find? fun entry => entry.2.workerId = workerId && entry.2.udpPort = port

def releaseVmIp (db : Db) (workerId ip : Nat) : Db :=
  match vmIpAllocation db workerId ip with
  | some (allocationId, _) => { db with ipAllocations := db.ipAllocations.delete allocationId }
  | none => db

def releaseUdpPort (db : Db) (workerId port : Nat) : Db :=
  match udpPortAllocation db workerId port with
  | some (allocationId, _) => { db with portAllocations := db.portAllocations.delete allocationId }
  | none => db

/-! ### What the searches return -/

theorem releaseVmIp_eq (db : Db) (workerId ip : Nat) : releaseVmIp db workerId ip =
    { db with ipAllocations := db.ipAllocations.deleteOption ((vmIpAllocation db workerId ip).map Prod.fst) } := by
  unfold releaseVmIp
  split <;> rename_i found <;> rw [found] <;> rfl

theorem releaseUdpPort_eq (db : Db) (workerId port : Nat) : releaseUdpPort db workerId port =
    { db with portAllocations :=
        db.portAllocations.deleteOption ((udpPortAllocation db workerId port).map Prod.fst) } := by
  unfold releaseUdpPort
  split <;> rename_i found <;> rw [found] <;> rfl

theorem get_releaseVmIp {db : Db} {workerId ip : Nat}
    (unique : db.ipAllocations.Unique fun row => (row.workerId, row.address)) {id : Nat} {row : IpAllocation} :
    (releaseVmIp db workerId ip).ipAllocations.get id = some row ↔
      db.ipAllocations.get id = some row ∧ (row.workerId = workerId && row.address = ip) = false := by
  rw [releaseVmIp_eq]
  refine Lib.Table.get_deleteOption_find (fun row : IpAllocation => row.workerId = workerId && row.address = ip) ?_
  intro first second one other present present' same same'
  simp only [Bool.and_eq_true, decide_eq_true_eq] at same same'
  exact unique first second one other present present' (by simp [same, same'])

theorem get_releaseUdpPort {db : Db} {workerId port : Nat}
    (unique : db.portAllocations.Unique fun row => (row.workerId, row.udpPort)) {id : Nat} {row : PortAllocation} :
    (releaseUdpPort db workerId port).portAllocations.get id = some row ↔
      db.portAllocations.get id = some row ∧ (row.workerId = workerId && row.udpPort = port) = false := by
  rw [releaseUdpPort_eq]
  refine Lib.Table.get_deleteOption_find (fun row : PortAllocation => row.workerId = workerId && row.udpPort = port) ?_
  intro first second one other present present' same same'
  simp only [Bool.and_eq_true, decide_eq_true_eq] at same same'
  exact unique first second one other present present' (by simp [same, same'])

theorem mem_gatewayVmIps {db : Db} {workerId ip : Nat} :
    ip ∈ gatewayVmIps db workerId ↔
      ∃ id row, db.gateways.get id = some row ∧ row.workerId = workerId ∧ row.vmIp = ip := by
  simp only [gatewayVmIps, List.mem_map, List.mem_filter, decide_eq_true_eq, Prod.exists, Lib.Table.mem_toList, and_assoc]

theorem mem_allocatedAddresses {db : Db} {workerId ip : Nat} :
    ip ∈ allocatedAddresses db workerId ↔
      ∃ id row, db.ipAllocations.get id = some row ∧ row.workerId = workerId ∧ row.address = ip := by
  simp only [allocatedAddresses, List.mem_map, List.mem_filter, decide_eq_true_eq, Prod.exists, Lib.Table.mem_toList, and_assoc]

theorem mem_gatewayUdpPorts {db : Db} {workerId port : Nat} :
    port ∈ gatewayUdpPorts db workerId ↔
      ∃ id row, db.gateways.get id = some row ∧ row.workerId = workerId ∧ row.udpPort = port := by
  simp only [gatewayUdpPorts, List.mem_map, List.mem_filter, decide_eq_true_eq, Prod.exists, Lib.Table.mem_toList, and_assoc]

theorem mem_allocatedPorts {db : Db} {workerId port : Nat} :
    port ∈ allocatedPorts db workerId ↔
      ∃ id row, db.portAllocations.get id = some row ∧ row.workerId = workerId ∧ row.udpPort = port := by
  simp only [allocatedPorts, List.mem_map, List.mem_filter, decide_eq_true_eq, Prod.exists, Lib.Table.mem_toList, and_assoc]

theorem freeVmIp_not_mem {worker : Worker} {used : List Nat} {ip : Nat} (found : freeVmIp worker used = .ok ip) :
    ip ∉ used := by
  unfold freeVmIp at found
  split at found
  · rename_i candidate search
    cases found
    simpa using List.find?_some search
  · cases found

theorem freeUdpPort_not_mem {worker : Worker} {used : List Nat} {port : Nat}
    (found : freeUdpPort worker used = .ok port) : port ∉ used := by
  unfold freeUdpPort at found
  split at found
  · rename_i candidate search
    cases found
    simpa using List.find?_some search
  · cases found

/-- Any address of the pool that is not in use is enough for the search to succeed. -/
theorem freeVmIp_of_unused {worker : Worker} {used : List Nat} {ip : Nat} (start : worker.ipPoolStart ≤ ip)
    (before : ip < worker.ipPoolBroadcast) (unused : ip ∉ used) : ∃ found, freeVmIp worker used = .ok found := by
  unfold freeVmIp
  split
  · exact ⟨_, rfl⟩
  · rename_i missing
    have taken := List.find?_eq_none.mp missing ip (List.mem_range'_1.mpr ⟨start, by omega⟩)
    simp [unused] at taken

end DeepOrc.Incus
