import DeepOrc.Models

/-! # Queries and updates of the gateway and job repositories -/

namespace DeepOrc.Repositories

open Models

/-! ### Gateways -/

def getByName (db : Db) (name : String) : Option (Nat × Gateway) :=
  db.gateways.toList.find? fun entry => entry.2.name = name

def getByTailscaleHostname (db : Db) (hostname : String) : Option (Nat × Gateway) :=
  db.gateways.toList.find? fun entry => entry.2.tailscaleHostname = hostname

def updateGatewayStatus (db : Db) (gatewayId : Nat) (status : GatewayStatus) (errorMessage : Option String) : Db :=
  { db with gateways := db.gateways.modify gatewayId fun row => { row with status, errorMessage } }

/-- `ondelete="SET NULL"` -/
def IpAllocation.forgetGateway (gatewayId : Nat) (row : IpAllocation) : IpAllocation :=
  if row.gatewayId = some gatewayId then { row with gatewayId := none } else row

def PortAllocation.forgetGateway (gatewayId : Nat) (row : PortAllocation) : PortAllocation :=
  if row.gatewayId = some gatewayId then { row with gatewayId := none } else row

/-- Deleting a gateway row takes its peers and jobs with it and clears the references to it. -/
def deleteGateway (db : Db) (gatewayId : Nat) : Db :=
  { db with
    gateways := db.gateways.delete gatewayId
    jobs := db.jobs.deleteWhere fun _ job => job.gatewayId = gatewayId
    peers := db.peers.deleteWhere fun _ peer => peer.gatewayId = gatewayId
    ipAllocations := db.ipAllocations.map (IpAllocation.forgetGateway gatewayId)
    portAllocations := db.portAllocations.map (PortAllocation.forgetGateway gatewayId) }

/-! ### Jobs -/

def createJob (db : Db) (type : JobType) (gatewayId : Nat) : Db × Nat :=
  ({ db with jobs := db.jobs.insert ⟨type, gatewayId, .pending, none, none⟩ }, db.jobs.next)

/-- `update_status`: an absent error leaves the column as it is. -/
def updateJobStatus (db : Db) (jobId : Nat) (status : JobStatus) (error : Option String) : Db :=
  { db with jobs := db.jobs.modify jobId fun row => { row with status, error := error.or row.error } }

def updateStage (db : Db) (jobId : Nat) (stage : String) : Db :=
  { db with jobs := db.jobs.modify jobId fun row => { row with stage := some stage } }

/-- The query has no order: any pending job of the gateway may come back, of either type. -/
def getPendingForGateway (db : Db) (gatewayId choice : Nat) : Option (Nat × Job) :=
  db.jobs.anyRow (fun job => job.gatewayId = gatewayId && job.status = .pending) choice

def getLatestCreateJob (db : Db) (gatewayId : Nat) : Option (Nat × Job) :=
  db.jobs.latest fun job => job.gatewayId = gatewayId && job.type = .createGateway

def getLatestDeleteJob (db : Db) (gatewayId : Nat) : Option (Nat × Job) :=
  db.jobs.latest fun job => job.gatewayId = gatewayId && job.type = .deleteGateway

/-- `reset_failed_job`: the latest create job back to pending, if there is one. -/
def resetFailedJob (db : Db) (gatewayId : Nat) : Db × Option Nat :=
  match getLatestCreateJob db gatewayId with
  | none => (db, none)
  | some (jobId, _) =>
      ({ db with jobs := db.jobs.modify jobId fun row =>
          if row.status = .pending then row else { row with status := .pending, error := none } }, some jobId)

/-! ### What an update leaves alone -/

@[simp] theorem gateways_updateStage (db : Db) (jobId : Nat) (stage : String) :
    (updateStage db jobId stage).gateways = db.gateways := rfl

@[simp] theorem gateways_updateJobStatus (db : Db) (jobId : Nat) (status : JobStatus) (error : Option String) :
    (updateJobStatus db jobId status error).gateways = db.gateways := rfl

@[simp] theorem jobs_updateGatewayStatus (db : Db) (gatewayId : Nat) (status : GatewayStatus)
    (error : Option String) : (updateGatewayStatus db gatewayId status error).jobs = db.jobs := rfl

@[simp] theorem get_updateGatewayStatus (db : Db) (gatewayId : Nat) (status : GatewayStatus) (error : Option String)
    (id : Nat) :
    (updateGatewayStatus db gatewayId status error).gateways.get id =
      if id = gatewayId then (db.gateways.get id).map fun row => { row with status, errorMessage := error }
      else db.gateways.get id := rfl

@[simp] theorem get_updateJobStatus (db : Db) (jobId : Nat) (status : JobStatus) (error : Option String) (id : Nat) :
    (updateJobStatus db jobId status error).jobs.get id =
      if id = jobId then (db.jobs.get id).map fun row => { row with status, error := error.or row.error }
      else db.jobs.get id := rfl

@[simp] theorem get_updateStage (db : Db) (jobId : Nat) (stage : String) (id : Nat) :
    (updateStage db jobId stage).jobs.get id =
      if id = jobId then (db.jobs.get id).map fun row => { row with stage := some stage } else db.jobs.get id := rfl

/-! ### Lookups by a unique column -/

theorem name_ne_of_getByName {db : Db} {name : String} (absent : getByName db name = none) {id : Nat}
    {row : Gateway} (present : db.gateways.get id = some row) : row.name ≠ name := by
  have unmatched := List.find?_eq_none.mp absent _ (Lib.Table.mem_toList.mpr present)
  simpa using unmatched

theorem get_of_getByTailscaleHostname {db : Db} {hostname : String} {id : Nat} {row : Gateway}
    (found : getByTailscaleHostname db hostname = some (id, row)) :
    db.gateways.get id = some row ∧ row.tailscaleHostname = hostname := by
  have matching := List.find?_some found
  exact ⟨Lib.Table.mem_toList.mp (List.mem_of_find?_eq_some found), by simpa using matching⟩

theorem hostname_ne_of_getByTailscaleHostname {db : Db} {hostname : String}
    (absent : getByTailscaleHostname db hostname = none) {id : Nat} {row : Gateway}
    (present : db.gateways.get id = some row) : row.tailscaleHostname ≠ hostname := by
  have unmatched := List.find?_eq_none.mp absent _ (Lib.Table.mem_toList.mpr present)
  simpa using unmatched

end DeepOrc.Repositories
