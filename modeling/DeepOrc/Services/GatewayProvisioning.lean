import DeepOrc.Services.GatewayService
import DeepOrc.Services.PeerService

/-! # `provision_gateway`, one definition for each of its commits -/

namespace DeepOrc.Services

open Models Repositories Headscale

/-! ### Commits -/

/-- `set_provision_stage` with the job's new status. -/
def beginJob (db : Db) (jobId : Nat) : Db := updateStage (updateJobStatus db jobId .running none) jobId "preparing"

def beginProvisioning (db : Db) (gatewayId jobId : Nat) : Db :=
  updateStage (updateGatewayStatus db gatewayId .provisioning none) jobId "vm_launch"

def markReady (db : Db) (gatewayId : Nat) : Db := updateGatewayStatus db gatewayId .ready none

def finishJob (db : Db) (jobId : Nat) : Db := updateStage (updateJobStatus db jobId .completed none) jobId "done"

/-- The handler of `process_provisioning_job`: nothing is written unless both rows are still there. -/
def failJob (db : Db) (gatewayId jobId : Nat) (text : String) : Db :=
  if (db.jobs.get jobId).isSome ∧ (db.gateways.get gatewayId).isSome then
    updateJobStatus (updateGatewayStatus db gatewayId .error (some text)) jobId .failed (some text)
  else db

/-! ### The agent's health -/

structure Health where
  wgOnline : Option Bool
  tailscaleOnline : Option Bool
  exitNodeConfigured : Option Bool
deriving DecidableEq, Repr

def Health.online (health : Health) : Bool := health.wgOnline.getD false && health.tailscaleOnline.getD false

/-- `wait_until_healthy`: each poll happens at its time and counts only before the deadline. -/
def waitUntilHealthy (deadline : Nat) : List (Nat × Except PyError Health) → Bool
  | [] => false
  | (time, answer) :: later =>
      if time < deadline then
        match answer with
        | .ok health => if health.online then true else waitUntilHealthy deadline later
        | .error _ => waitUntilHealthy deadline later
      else false

def pyBool : Option Bool → String
  | none => "None"
  | some true => "True"
  | some false => "False"

def timeoutDetail (answer : Except PyError Health) : String :=
  let detail := "Agent health check timed out (WireGuard or Tailscale not online)"
  match answer with
  | .ok health =>
      detail ++ ": wg=" ++ pyBool health.wgOnline ++ " ts=" ++ pyBool health.tailscaleOnline ++ " exit=" ++
        pyBool health.exitNodeConfigured
  | .error _ => detail

/-! ### The whole operation -/

/-- How every call of one provisioning ends. -/
structure ProvisionCalls where
  render : Except PyError Unit
  launch : Except PyError Unit
  deadline : Nat
  polls : List (Nat × Except PyError Health)
  lastHealth : Except PyError Health
  register : Except PyError Unit
  finalize : FinalizeCalls
  peer : CreatePeerCalls

/-- The backhaul peer step. A `ValueError` leaves what the session holds for the next commit, any other
exception rolls back, and the exit setup after it is only logged. -/
def setUpPeer (calls : CreatePeerCalls) (db : Db) (gatewayId : Nat) : Db :=
  match ensureBackhaulPeer calls db gatewayId with
  | .ok after => after
  | .error (.value _, after) => after
  | .error (_, _) => db

/-- `provision_gateway` once the agent is healthy. -/
def registerGateway (calls : ProvisionCalls) (db : Db) (gatewayId jobId : Nat) (gateway : Gateway) :
    Db × Option PyError :=
  match calls.register with
  | .error error => (db, some error)
  | .ok _ =>
      match finalizeExitNode calls.finalize db gatewayId gateway with
      | .error error =>
          (updateGatewayStatus db gatewayId .error (some s!"Exit node advertise failed: {error.text}"), none)
      | .ok finalized =>
          (setUpPeer calls.peer (updateStage (markReady finalized gatewayId) jobId "peer_setup") gatewayId, none)

/-- The database as last committed, with the exception that ended the call if there was one. -/
def provisionGateway (calls : ProvisionCalls) (db : Db) (gatewayId jobId : Nat) : Db × Option PyError :=
  match db.gateways.get gatewayId, calls.render with
  | none, _ => (db, some (.value s!"Gateway {gatewayId} not found"))
  | some _, .error error => (db, some error)
  | some gateway, .ok _ =>
      let db := beginProvisioning db gatewayId jobId
      match calls.launch with
      | .error error => (db, some error)
      | .ok _ =>
          let db := updateStage (updateStage db jobId "cloud_init") jobId "agent_wait"
          if waitUntilHealthy calls.deadline calls.polls then
            registerGateway calls (updateStage db jobId "register") gatewayId jobId gateway
          else (updateGatewayStatus db gatewayId .error (some (timeoutDetail calls.lastHealth)), none)

def settleJob (result : Db × Option PyError) (gatewayId jobId : Nat) : Db :=
  match result with
  | (db, none) => finishJob db jobId
  | (db, some error) => failJob db gatewayId jobId error.text

/-- `process_provisioning_job` -/
def processProvisioningJob (calls : ProvisionCalls) (db : Db) (jobId gatewayId : Nat) : Db :=
  match db.jobs.get jobId, db.gateways.get gatewayId with
  | some _, some _ => settleJob (provisionGateway calls (beginJob db jobId) gatewayId jobId) gatewayId jobId
  | _, _ => db

/-! ### What a provisioning does to its row -/

theorem setUpPeer_tables (calls : CreatePeerCalls) (db : Db) (gatewayId : Nat) :
    (setUpPeer calls db gatewayId).gateways = db.gateways ∧ (setUpPeer calls db gatewayId).jobs = db.jobs := by
  unfold setUpPeer ensureBackhaulPeer
  cases db.gateways.get gatewayId with
  | none => exact ⟨rfl, rfl⟩
  | some gateway =>
      dsimp only
      split_ifs
      · exact ⟨rfl, rfl⟩
      · have tables := createPeer_tables calls db gatewayId (defaultBackhaulPeerName gateway.name)
        cases created : createPeer calls db gatewayId (defaultBackhaulPeerName gateway.name) with
        | ok after => simpa only [created] using tables
        | error pair =>
            obtain ⟨error, after⟩ := pair
            rw [created] at tables
            cases error
            · exact tables
            · exact ⟨rfl, rfl⟩
            · exact ⟨rfl, rfl⟩
            · exact ⟨rfl, rfl⟩

theorem get_setExitNode (db : Db) (gatewayId : Nat) (address : Option String) (id : Nat) :
    (setExitNode db gatewayId address).gateways.get id =
      if id = gatewayId then (db.gateways.get id).map fun row => { row with exitNodeId := address.getD row.exitNodeId }
      else db.gateways.get id := by
  cases address with
  | some ip => rfl
  | none =>
      simp only [setExitNode, Option.getD_none]
      split <;> simp

/-- What a provisioning can make of its gateway's row, however it ends. -/
structure ProvisionedRow (calls : ProvisionCalls) (gateway row : Gateway) : Prop where
  name : row.name = gateway.name
  hostname : row.tailscaleHostname = gateway.tailscaleHostname
  incusInstance : row.incusInstance = gateway.incusInstance
  exit : row.exitNodeId = gateway.exitNodeId ∨ resolveExitNode calls.finalize gateway = .ok (some row.exitNodeId)

/-- The gateways after a provisioning, with what it made of its own. -/
def RowProvisioned (calls : ProvisionCalls) (db after : Db) (gatewayId : Nat) (gateway : Gateway) : Prop :=
  after.gateways.next = db.gateways.next ∧
    ∃ row, ProvisionedRow calls gateway row ∧
      ∀ id, after.gateways.get id = if id = gatewayId then some row else db.gateways.get id

section Row

variable {calls : ProvisionCalls} {db : Db} {gatewayId : Nat} {gateway : Gateway}

theorem rowProvisioned_refl (present : db.gateways.get gatewayId = some gateway) :
    RowProvisioned calls db db gatewayId gateway := by
  refine ⟨rfl, gateway, ⟨rfl, rfl, rfl, .inl rfl⟩, fun id => ?_⟩
  split_ifs with same
  · rw [same, present]
  · rfl

theorem RowProvisioned.status {after : Db} (done : RowProvisioned calls db after gatewayId gateway)
    (status : GatewayStatus) (text : Option String) :
    RowProvisioned calls db (updateGatewayStatus after gatewayId status text) gatewayId gateway := by
  obtain ⟨next, row, kept, rows⟩ := done
  refine ⟨next, { row with status, errorMessage := text }, ⟨kept.name, kept.hostname, kept.incusInstance, kept.exit⟩,
    fun id => ?_⟩
  rw [get_updateGatewayStatus, rows]
  split_ifs with same
  · rfl
  · rfl

theorem RowProvisioned.congr {after later : Db} (done : RowProvisioned calls db after gatewayId gateway)
    (same : later.gateways = after.gateways) : RowProvisioned calls db later gatewayId gateway := by
  unfold RowProvisioned
  rw [same]
  exact done

theorem RowProvisioned.exitNode {after : Db} (done : RowProvisioned calls db after gatewayId gateway)
    {address : Option String} (resolved : resolveExitNode calls.finalize gateway = .ok address) :
    RowProvisioned calls db (setExitNode after gatewayId address) gatewayId gateway := by
  obtain ⟨next, row, kept, rows⟩ := done
  refine ⟨?_, { row with exitNodeId := address.getD row.exitNodeId },
    ⟨kept.name, kept.hostname, kept.incusInstance, ?_⟩, fun id => ?_⟩
  · rw [← next]
    cases address <;> rfl
  · cases address with
    | none => exact kept.exit
    | some ip => exact .inr resolved
  · rw [get_setExitNode, rows]
    split_ifs with same
    · rfl
    · rfl

theorem registerGateway_row {after : Db} (done : RowProvisioned calls db after gatewayId gateway) (jobId : Nat) :
    RowProvisioned calls db (registerGateway calls after gatewayId jobId gateway).1 gatewayId gateway := by
  unfold registerGateway
  cases calls.register with
  | error error => exact done
  | ok _ =>
      cases finalized : finalizeExitNode calls.finalize after gatewayId gateway with
      | error error => exact done.status .error _
      | ok stored =>
          obtain ⟨address, resolved, rfl⟩ := finalizeExitNode_ok finalized
          exact ((done.exitNode resolved).status .ready none).congr (setUpPeer_tables ..).1

theorem provisionGateway_row (present : db.gateways.get gatewayId = some gateway) (jobId : Nat) :
    RowProvisioned calls db (provisionGateway calls db gatewayId jobId).1 gatewayId gateway := by
  have start := @rowProvisioned_refl calls db gatewayId gateway present
  have begun : RowProvisioned calls db (beginProvisioning db gatewayId jobId) gatewayId gateway :=
    (start.status .provisioning none).congr rfl
  unfold provisionGateway
  rw [present]
  cases calls.render with
  | error error => exact start
  | ok _ =>
      dsimp only
      cases calls.launch with
      | error error => exact begun
      | ok _ =>
          dsimp only
          split
          · refine registerGateway_row ?_ jobId
            exact begun.congr rfl
          · exact (begun.congr rfl).status .error _

end Row

end DeepOrc.Services
