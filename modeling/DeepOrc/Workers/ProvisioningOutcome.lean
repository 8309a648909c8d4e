import DeepOrc.Services.GatewayProvisioning

/-! # Whether a finished provisioning job agrees with its gateway -/

namespace DeepOrc.Workers

open Models Repositories Services Headscale

/-! ### When the exit node step raises -/

def isHeadscaleError : PyError → Bool
  | .headscale _ => true
  | _ => false

/-- An outcome that gets past an `except HeadscaleError: pass`. -/
def escapes (outcome : Except PyError Unit) : Bool :=
  match outcome with
  | .error error => !isHeadscaleError error
  | .ok _ => false

def failed {α : Type} (outcome : Except PyError α) : Bool :=
  match outcome with
  | .error _ => true
  | .ok _ => false

def listed (outcome : Except PyError (List Node)) : List Node :=
  match outcome with
  | .error _ => []
  | .ok nodes => nodes

/-- Read off the calls alone: some call of the exit node step raises out of it. -/
def finalizeFails (calls : FinalizeCalls) (gateway : Gateway) : Bool :=
  let node := findGatewayHeadscaleNode (listed calls.listing) none [gateway.tailscaleHostname, gateway.name]
  let address := getNodeTailscaleIpByHostname (listed calls.hostnameListing) gateway.tailscaleHostname
  failed calls.advertise || failed calls.listing || ((node.bind Node.id).isSome && escapes calls.approveNode) ||
    escapes calls.approveTagged || failed calls.hostnameListing ||
    ((address.filter (· ≠ "")).isNone && failed calls.nameListing)

theorem passHeadscaleError_error_iff (outcome : Except PyError Unit) :
    failed (passHeadscaleError outcome) = escapes outcome := by
  cases outcome with
  | ok _ => rfl
  | error error => cases error <;> rfl

theorem failed_then {α β : Type} (first : Except PyError α) (next : Except PyError β) :
    failed (first >>= fun _ => next) = (failed first || failed next) := by
  cases first <;> rfl

theorem failed_bind_listed {β : Type} (first : Except PyError (List Node)) (next : List Node → Except PyError β) :
    failed (first >>= next) = (failed first || failed (next (listed first))) := by
  cases first <;> rfl

theorem failed_bind_ok {α β : Type} (first : Except PyError α) (change : α → β) :
    failed (first >>= fun value => .ok (change value)) = failed first := by
  cases first <;> rfl

theorem approveOwnNode_fails (approval : Except PyError Unit) (node : Option Node) :
    failed (approveOwnNode approval node) = ((node.bind Node.id).isSome && escapes approval) := by
  unfold approveOwnNode
  cases (node.bind Node.id).isSome with
  | false => rfl
  | true => exact passHeadscaleError_error_iff approval

theorem resolveExitNode_fails (calls : FinalizeCalls) (gateway : Gateway) :
    failed (resolveExitNode calls gateway) =
      (failed calls.hostnameListing ||
        (((getNodeTailscaleIpByHostname (listed calls.hostnameListing) gateway.tailscaleHostname).filter
          (· ≠ "")).isNone && failed calls.nameListing)) := by
  unfold resolveExitNode
  rw [failed_bind_listed]
  cases address : (getNodeTailscaleIpByHostname (listed calls.hostnameListing) gateway.tailscaleHostname).filter
      (· ≠ "") with
  | some ip => rfl
  | none => cases calls.nameListing <;> rfl

theorem finalizeExitNode_fails (calls : FinalizeCalls) (db : Db) (gatewayId : Nat) (gateway : Gateway) :
    failed (finalizeExitNode calls db gatewayId gateway) = finalizeFails calls gateway := by
  have last : failed (resolveExitNode calls gateway >>= fun address => pure (setExitNode db gatewayId address)) = _ :=
    (failed_bind_ok _ _).trans (resolveExitNode_fails calls gateway)
  unfold finalizeExitNode finalizeFails
  rw [failed_then, failed_bind_listed, failed_then, failed_then]
  rw [last, approveOwnNode_fails, passHeadscaleError_error_iff]
  simp only [Bool.or_assoc]

/-! ### The two rows together -/

/-- The job's status and stage and the gateway's status, while both rows exist. -/
def outcome (db : Db) (jobId gatewayId : Nat) : Option (JobStatus × Option String × GatewayStatus) :=
  (db.jobs.get jobId).bind fun job =>
    (db.gateways.get gatewayId).map fun gateway => (job.status, job.stage, gateway.status)

def Agrees (db : Db) (jobId gatewayId : Nat) : Prop :=
  ∀ status stage gatewayStatus, outcome db jobId gatewayId = some (status, stage, gatewayStatus) →
    ((status = .completed ∧ stage = some "done") ↔ gatewayStatus = .ready) ∧
      (status = .failed ↔ gatewayStatus = .error)

theorem outcome_congr (db other : Db) (jobs : other.jobs = db.jobs)
    (statuses : ∀ id, (other.gateways.get id).map Gateway.status = (db.gateways.get id).map Gateway.status)
    (jobId gatewayId : Nat) : outcome other jobId gatewayId = outcome db jobId gatewayId := by
  have same := statuses gatewayId
  unfold outcome
  rw [jobs]
  cases db.jobs.get jobId with
  | none => rfl
  | some job =>
      cases left : other.gateways.get gatewayId <;> cases right : db.gateways.get gatewayId <;>
        simp_all

@[simp] theorem outcome_updateStage (db : Db) (jobId gatewayId : Nat) (stage : String) :
    outcome (updateStage db jobId stage) jobId gatewayId =
      (outcome db jobId gatewayId).map fun rows => (rows.1, some stage, rows.2.2) := by
  cases job : db.jobs.get jobId <;> cases gateway : db.gateways.get gatewayId <;> simp [outcome, job, gateway]

@[simp] theorem outcome_updateJobStatus (db : Db) (jobId gatewayId : Nat) (status : JobStatus)
    (error : Option String) :
    outcome (updateJobStatus db jobId status error) jobId gatewayId =
      (outcome db jobId gatewayId).map fun rows => (status, rows.2.1, rows.2.2) := by
  cases job : db.jobs.get jobId <;> cases gateway : db.gateways.get gatewayId <;> simp [outcome, job, gateway]

@[simp] theorem outcome_updateGatewayStatus (db : Db) (jobId gatewayId : Nat) (status : GatewayStatus)
    (error : Option String) :
    outcome (updateGatewayStatus db gatewayId status error) jobId gatewayId =
      (outcome db jobId gatewayId).map fun rows => (rows.1, rows.2.1, status) := by
  cases job : db.jobs.get jobId <;> cases gateway : db.gateways.get gatewayId <;> simp [outcome, job, gateway]

@[simp] theorem outcome_setExitNode (db : Db) (jobId gatewayId : Nat) (address : Option String) :
    outcome (setExitNode db gatewayId address) jobId gatewayId = outcome db jobId gatewayId := by
  cases address with
  | none => rfl
  | some ip =>
      refine outcome_congr db (setExitNode db gatewayId (some ip)) rfl (fun id => ?_) jobId gatewayId
      simp only [setExitNode, Lib.Table.get_modify]
      split <;> cases db.gateways.get id <;> rfl

@[simp] theorem outcome_setUpPeer (calls : CreatePeerCalls) (db : Db) (jobId gatewayId : Nat) :
    outcome (setUpPeer calls db gatewayId) jobId gatewayId = outcome db jobId gatewayId := by
  obtain ⟨gateways, jobs⟩ := setUpPeer_tables calls db gatewayId
  exact outcome_congr db _ jobs (fun id => by rw [gateways]) jobId gatewayId

theorem outcome_failJob {db : Db} {jobId gatewayId : Nat} {rows : JobStatus × Option String × GatewayStatus}
    (present : outcome db jobId gatewayId = some rows) (text : String) :
    outcome (failJob db gatewayId jobId text) jobId gatewayId = some (.failed, rows.2.1, .error) := by
  have both : (db.jobs.get jobId).isSome ∧ (db.gateways.get gatewayId).isSome := by
    cases job : db.jobs.get jobId <;> cases gateway : db.gateways.get gatewayId <;> simp_all [outcome]
  rw [failJob, if_pos both, outcome_updateJobStatus, outcome_updateGatewayStatus, present]
  rfl

/-! ### The claim of the log line -/

/-- The calls after which `provision_gateway` returns with the gateway in error: launched, and then either
not healthy in time, or healthy and registered with a failing exit node step. -/
def swallowsFailure (calls : ProvisionCalls) (gateway : Gateway) : Bool :=
  !failed calls.render && !failed calls.launch &&
    (!waitUntilHealthy calls.deadline calls.polls ||
      (!failed calls.register && finalizeFails calls.finalize gateway))

theorem outcome_registerGateway (calls : ProvisionCalls) {db : Db} {jobId gatewayId : Nat} (gateway : Gateway)
    {stage : Option String} (rows : outcome db jobId gatewayId = some (.running, stage, .provisioning)) :
    outcome (settleJob (registerGateway calls db gatewayId jobId gateway) gatewayId jobId) jobId gatewayId =
      some (if failed calls.register then (.failed, stage, .error)
        else (.completed, some "done", if finalizeFails calls.finalize gateway then .error else .ready)) := by
  unfold registerGateway
  cases registered : calls.register with
  | error error => exact outcome_failJob rows error.text
  | ok _ =>
      have fails := finalizeExitNode_fails calls.finalize db gatewayId gateway
      cases finalized : finalizeExitNode calls.finalize db gatewayId gateway with
      | error error =>
          rw [finalized] at fails
          simp [← fails, failed, settleJob, finishJob, rows]
      | ok after =>
          obtain ⟨address, -, rfl⟩ := finalizeExitNode_ok finalized
          rw [finalized] at fails
          simp [← fails, failed, settleJob, finishJob, markReady, rows]

/-- Where a job and its gateway end up. -/
theorem outcome_processProvisioningJob (calls : ProvisionCalls) {db : Db} {jobId gatewayId : Nat} {job : Job}
    {gateway : Gateway} (queued : db.jobs.get jobId = some job) (present : db.gateways.get gatewayId = some gateway) :
    ∃ stage,
      outcome (processProvisioningJob calls db jobId gatewayId) jobId gatewayId =
        some (if swallowsFailure calls gateway then (.completed, some "done", .error)
          else if failed calls.render || failed calls.launch || failed calls.register then (.failed, stage, .error)
          else (.completed, some "done", .ready)) := by
  have begun : (beginJob db jobId).gateways.get gatewayId = some gateway := present
  have start : outcome (beginJob db jobId) jobId gatewayId = some (.running, some "preparing", gateway.status) := by
    simp [beginJob, outcome, queued, present]
  unfold processProvisioningJob provisionGateway
  simp only [queued, present, begun]
  cases rendered : calls.render with
  | error error =>
      exact ⟨_, by simpa [swallowsFailure, rendered, failed, settleJob] using outcome_failJob start error.text⟩
  | ok _ =>
      have rows : outcome (beginProvisioning (beginJob db jobId) gatewayId jobId) jobId gatewayId =
          some (.running, some "vm_launch", .provisioning) := by
        simp [beginProvisioning, start]
      cases launched : calls.launch with
      | error error =>
          exact ⟨_, by
            simpa [swallowsFailure, rendered, launched, failed, settleJob] using outcome_failJob rows error.text⟩
      | ok _ =>
          cases healthy : waitUntilHealthy calls.deadline calls.polls with
          | false =>
              exact ⟨none, by simp [swallowsFailure, rendered, launched, failed, healthy, settleJob, finishJob, rows]⟩
          | true =>
              have waiting : outcome (updateStage (updateStage (updateStage (beginProvisioning (beginJob db jobId)
                  gatewayId jobId) jobId "cloud_init") jobId "agent_wait") jobId "register") jobId gatewayId =
                  some (.running, some "register", .provisioning) := by
                simp [rows]
              refine ⟨some "register", ?_⟩
              simp only [if_true]
              rw [outcome_registerGateway calls gateway waiting]
              cases registered : calls.register <;> cases fails : finalizeFails calls.finalize gateway <;>
                simp [swallowsFailure, failed, rendered, launched, healthy, registered, fails]

/-- The job reports what became of the gateway exactly when no failure was swallowed on the way. -/
theorem job_agrees_with_gateway_iff (calls : ProvisionCalls) {db : Db} {jobId gatewayId : Nat} {job : Job}
    {gateway : Gateway} (queued : db.jobs.get jobId = some job) (present : db.gateways.get gatewayId = some gateway) :
    Agrees (processProvisioningJob calls db jobId gatewayId) jobId gatewayId ↔ swallowsFailure calls gateway = false := by
  obtain ⟨stage, settled⟩ := outcome_processProvisioningJob calls queued present
  unfold Agrees
  rw [settled]
  split_ifs with swallowed failure
  · simp [swallowed]
  · simp [swallowed]
  · simp [swallowed]

/-! ### A timeout reported as success -/

def queuedGateway : Gateway where
  workerId := 1
  name := "gw-000"
  incusInstance := "gw-gw-000"
  vmIp := 168427530
  udpPort := 51820
  wgSubnet := 174326272
  exitNodeId := exitNodePending
  tailscaleHostname := "gw-000"
  status := .pending
  errorMessage := none

def queuedDb : Db :=
  { Db.empty with
    gateways := Lib.Table.empty.insert queuedGateway
    jobs := Lib.Table.empty.insert ⟨.createGateway, 1, .pending, none, some "queued"⟩ }

/-- Every call succeeds, but WireGuard is not up in any poll before the deadline. -/
def silentTimeout : ProvisionCalls where
  render := .ok ()
  launch := .ok ()
  deadline := 300
  polls := [(0, .ok ⟨some false, some true, some true⟩), (305, .ok ⟨some true, some true, some true⟩)]
  lastHealth := .ok ⟨some false, some true, some true⟩
  register := .ok ()
  finalize := ⟨.ok (), .ok [], .ok (), .ok (), .ok [], .ok []⟩
  peer := ⟨"key", 0, .ok (), .ok ()⟩

theorem timed_out_job_completed :
    outcome (processProvisioningJob silentTimeout queuedDb 1 1) 1 1 = some (.completed, some "done", .error) ∧
      ¬ Agrees (processProvisioningJob silentTimeout queuedDb 1 1) 1 1 := by
  have settled : outcome (processProvisioningJob silentTimeout queuedDb 1 1) 1 1 =
      some (.completed, some "done", .error) := by decide
  refine ⟨settled, fun agrees => ?_⟩
  have ready := (agrees _ _ _ settled).1.mp ⟨rfl, rfl⟩
  cases ready

theorem healthy_job_agrees :
    Agrees (processProvisioningJob { silentTimeout with deadline := 600 } queuedDb 1 1) 1 1 :=
  (job_agrees_with_gateway_iff { silentTimeout with deadline := 600 } (show queuedDb.jobs.get 1 = _ from rfl)
    (show queuedDb.gateways.get 1 = _ from rfl)).mpr (by decide)

end DeepOrc.Workers
