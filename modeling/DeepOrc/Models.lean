import DeepOrc.Lib.Table

/-!
# The rows of the orchestrator's database

Each record holds the columns the modelled services read or write. Addresses are the integers behind
their texts. Ids come from the tables' counters, so a deleted row's id is not given out again.
-/

namespace DeepOrc.Models

open Lib (Table)

/-- The exception classes the services tell apart. -/
inductive PyError where
  | value (text : String)
  | headscale (text : String)
  | integrity (text : String)
  | other (text : String)
deriving DecidableEq, Repr

def PyError.text : PyError → String
  | value text | headscale text | integrity text | other text => text

inductive GatewayStatus where
  | pending
  | provisioning
  | ready
  | error
  | deleting
deriving DecidableEq, Repr

structure Gateway where
  workerId : Nat
  name : String
  incusInstance : String
  vmIp : Nat
  udpPort : Nat
  wgSubnet : Nat
  exitNodeId : String
  tailscaleHostname : String
  status : GatewayStatus
  errorMessage : Option String
deriving DecidableEq, Repr

inductive JobType where
  | createGateway
  | deleteGateway
deriving DecidableEq, Repr

inductive JobStatus where
  | pending
  | running
  | completed
  | failed
deriving DecidableEq, Repr

structure Job where
  type : JobType
  gatewayId : Nat
  status : JobStatus
  error : Option String
  stage : Option String
deriving DecidableEq, Repr

structure Worker where
  name : String
  displayName : String
  incusUrl : String
  enabled : Bool
  lastSeenAt : Option Nat
  portPoolStart : Nat
  portPoolEnd : Nat
  ipPoolBroadcast : Nat
  ipPoolStart : Nat
deriving DecidableEq, Repr

def Worker.isLocal (worker : Worker) : Bool := worker.incusUrl.isEmpty

structure Peer where
  gatewayId : Nat
  name : String
  publicKey : String
  allowedIp : Nat
  suspended : Bool
deriving DecidableEq, Repr

structure IpAllocation where
  workerId : Nat
  address : Nat
  gatewayId : Option Nat
  peerId : Option Nat
deriving DecidableEq, Repr

structure PortAllocation where
  workerId : Nat
  udpPort : Nat
  gatewayId : Option Nat
deriving DecidableEq, Repr

structure Db where
  workers : Table Worker
  gateways : Table Gateway
  jobs : Table Job
  peers : Table Peer
  ipAllocations : Table IpAllocation
  portAllocations : Table PortAllocation

def Db.empty : Db :=
  ⟨Table.empty, Table.empty, Table.empty, Table.empty, Table.empty, Table.empty⟩

/-- The tables hold the same rows; ids may have been given out in between. -/
structure SameRows (before after : Db) : Prop where
  workers : ∀ id, after.workers.get id = before.workers.get id
  gateways : ∀ id, after.gateways.get id = before.gateways.get id
  jobs : ∀ id, after.jobs.get id = before.jobs.get id
  peers : ∀ id, after.peers.get id = before.peers.get id
  ipAllocations : ∀ id, after.ipAllocations.get id = before.ipAllocations.get id
  portAllocations : ∀ id, after.portAllocations.get id = before.portAllocations.get id

theorem SameRows.refl (db : Db) : SameRows db db :=
  ⟨fun _ => rfl, fun _ => rfl, fun _ => rfl, fun _ => rfl, fun _ => rfl, fun _ => rfl⟩

end DeepOrc.Models
