import DeepOrc.Lib.Machine
import DeepOrc.Services.GatewayService
import DeepOrc.Services.PeerService

/-!
# Operations on gateways and peers, one after another

Each operation runs in a transaction of its own. One that raises is rolled back and is not a step. Every
gateway's WireGuard subnet is cut from the configured base.
-/

namespace DeepOrc.Allocation

open Models Repositories Services
open Lib (Table Reaches)

inductive Operation where
  | createGateway (now : Nat) (preauth : Except PyError Unit) (request : CreateGatewayRequest)
  | executeDeleteGateway (calls : DeletionCalls) (gatewayId : Nat) (jobId : Option Nat)
  | createPeer (calls : CreatePeerCalls) (gatewayId : Nat) (name : String)
  | deletePeer (peerId : Nat)
  -- the workers' commits between them
  | setGatewayStatus (gatewayId : Nat) (status : GatewayStatus) (error : Option String)

namespace Operation

def creationCalls (base now : Nat) (preauth : Except PyError Unit) : CreationCalls := ⟨now, base, preauth⟩

def perform (base : Nat) (db : Db) : Operation → Option Db
  | createGateway now preauth request =>
      match Services.createGateway (creationCalls base now preauth) request db with
      | .ok (after, _, _) => some after
      | .error _ => none
  | executeDeleteGateway calls gatewayId jobId => (Services.executeDeleteGateway calls db gatewayId jobId).toOption
  | createPeer calls gatewayId name => (Services.createPeer calls db gatewayId name).toOption
  | deletePeer peerId => (Services.deletePeer db peerId).toOption.map Prod.fst
  | setGatewayStatus gatewayId status error => some (updateGatewayStatus db gatewayId status error)

end Operation

/-- No gateway and no peer, hence no allocation; any workers, and any ids given out before. -/
structure Unused (db : Db) : Prop where
  gateways : ∀ id, db.gateways.get id = none
  peers : ∀ id, db.peers.get id = none
  ipAllocations : ∀ id, db.ipAllocations.get id = none
  portAllocations : ∀ id, db.portAllocations.get id = none

def poolWorker : Worker :=
  ⟨"w1", "w1", "https://w1:8443", true, some 0, 51820, 51920, 168427775, 168427530⟩

def oneWorkerDb : Db := { Db.empty with workers := Table.empty.insert poolWorker }

theorem oneWorkerDb_unused : Unused oneWorkerDb := ⟨fun _ => rfl, fun _ => rfl, fun _ => rfl, fun _ => rfl⟩

/-! ### What each operation did -/

theorem toOption_some {ε α : Type} {result : Except ε α} {value : α} (succeeded : result.toOption = some value) :
    result = .ok value := by
  cases result with
  | error => cases succeeded
  | ok found =>
      cases succeeded
      rfl

theorem created_of_perform {base now : Nat} {preauth : Except PyError Unit} {request : CreateGatewayRequest}
    {db after : Db} (done : (Operation.createGateway now preauth request).perform base db = some after) :
    ∃ gatewayId jobId,
      Nonempty (Created (Operation.creationCalls base now preauth) request db after gatewayId jobId) := by
  simp only [Operation.perform] at done
  split at done
  · rename_i result gatewayId jobId created
    cases done
    exact ⟨gatewayId, jobId, createGateway_ok created⟩
  · cases done

theorem deleted_of_perform {base gatewayId : Nat} {calls : DeletionCalls} {jobId : Option Nat} {db after : Db}
    (done : (Operation.executeDeleteGateway calls gatewayId jobId).perform base db = some after) :
    (db.gateways.get gatewayId = none ∧ after = completeJob db jobId) ∨
      ∃ gateway, db.gateways.get gatewayId = some gateway ∧
        after = completeJob (removeGateway db gatewayId gateway) jobId :=
  executeDeleteGateway_ok (toOption_some done)

theorem peerDeleted_of_perform {base peerId : Nat} {db after : Db}
    (done : (Operation.deletePeer peerId).perform base db = some after) :
    ∃ peer, db.peers.get peerId = some peer ∧
      after = { Wg.releasePeerIp db peer.gatewayId peer.allowedIp with peers := db.peers.delete peerId } := by
  obtain ⟨⟨result, peer⟩, deleted, same⟩ := Option.map_eq_some_iff.mp done
  cases same
  obtain ⟨found, located, result⟩ := map_ok (toOption_some deleted)
  cases result
  refine ⟨peer, peerOnReadyGateway_ok located, ?_⟩
  rw [Wg.releasePeerIp_eq]

end DeepOrc.Allocation
