import DeepOrc.Workers.Lifecycle

/-!
# Statuses and jobs

The workers decide by the status of a gateway and by the gateway, the type and the status of a job. These
are the only columns the lifecycle proofs look at.
-/

namespace DeepOrc.Workers

open Models Repositories Services
open Lib (Table)

structure Card where
  gatewayId : Nat
  type : JobType
  status : JobStatus
deriving DecidableEq, Repr

def isOpen : JobStatus → Bool
  | .pending | .running => true
  | .completed | .failed => false

def cardOfJob (job : Job) : Card := ⟨job.gatewayId, job.type, job.status⟩

def statusOf (db : Db) (gatewayId : Nat) : Option GatewayStatus := (db.gateways.get gatewayId).map Gateway.status

def cardOf (db : Db) (jobId : Nat) : Option Card := (db.jobs.get jobId).map cardOfJob

theorem statusOf_isSome (db : Db) (gatewayId : Nat) :
    (statusOf db gatewayId).isSome = (db.gateways.get gatewayId).isSome := by
  simp [statusOf]

theorem cardOf_isSome (db : Db) (jobId : Nat) : (cardOf db jobId).isSome = (db.jobs.get jobId).isSome := by
  simp [cardOf]

theorem statusOf_of_get {db : Db} {gatewayId : Nat} {gateway : Gateway}
    (present : db.gateways.get gatewayId = some gateway) : statusOf db gatewayId = some gateway.status := by
  rw [statusOf, present]
  rfl

theorem cardOf_of_get {db : Db} {jobId : Nat} {job : Job} (present : db.jobs.get jobId = some job) :
    cardOf db jobId = some (cardOfJob job) := by
  rw [cardOf, present]
  rfl

theorem lt_next_of_status {db : Db} {gatewayId : Nat} {status : GatewayStatus}
    (present : statusOf db gatewayId = some status) : gatewayId < db.gateways.next := by
  obtain ⟨row, found, -⟩ := Option.map_eq_some_iff.mp present
  exact Table.lt_next_of_get found

theorem lt_next_of_card {db : Db} {jobId : Nat} {card : Card} (present : cardOf db jobId = some card) :
    jobId < db.jobs.next := by
  obtain ⟨row, found, -⟩ := Option.map_eq_some_iff.mp present
  exact Table.lt_next_of_get found

theorem cardOf_eq_none {db : Db} {jobId : Nat} (beyond : db.jobs.next ≤ jobId) : cardOf db jobId = none := by
  rw [cardOf, Table.get, db.jobs.unused jobId beyond]
  rfl

theorem statusOf_eq_none {db : Db} {gatewayId : Nat} (beyond : db.gateways.next ≤ gatewayId) :
    statusOf db gatewayId = none := by
  rw [statusOf, Table.get, db.gateways.unused gatewayId beyond]
  rfl

/-! ### Single updates -/

@[simp] theorem statusOf_updateGatewayStatus (db : Db) (gatewayId : Nat) (status : GatewayStatus)
    (error : Option String) (id : Nat) :
    statusOf (updateGatewayStatus db gatewayId status error) id =
      if id = gatewayId then (statusOf db id).map fun _ => status else statusOf db id := by
  simp only [statusOf, get_updateGatewayStatus]
  split
  · cases db.gateways.get id <;> rfl
  · rfl

@[simp] theorem cardOf_updateGatewayStatus (db : Db) (gatewayId : Nat) (status : GatewayStatus)
    (error : Option String) (id : Nat) : cardOf (updateGatewayStatus db gatewayId status error) id = cardOf db id := rfl

@[simp] theorem statusOf_updateJobStatus (db : Db) (jobId : Nat) (status : JobStatus) (error : Option String)
    (id : Nat) : statusOf (updateJobStatus db jobId status error) id = statusOf db id := rfl

@[simp] theorem cardOf_updateJobStatus (db : Db) (jobId : Nat) (status : JobStatus) (error : Option String)
    (id : Nat) :
    cardOf (updateJobStatus db jobId status error) id =
      if id = jobId then (cardOf db id).map fun card => { card with status } else cardOf db id := by
  simp only [cardOf, get_updateJobStatus]
  split
  · cases db.jobs.get id <;> rfl
  · rfl

@[simp] theorem cardOf_updateStage (db : Db) (jobId : Nat) (stage : String) (id : Nat) :
    cardOf (updateStage db jobId stage) id = cardOf db id := by
  simp only [cardOf, get_updateStage]
  split
  · cases db.jobs.get id <;> rfl
  · rfl

theorem cardOf_createJob (db : Db) (type : JobType) (gatewayId id : Nat) :
    cardOf (createJob db type gatewayId).1 id =
      if id = db.jobs.next then some ⟨gatewayId, type, .pending⟩ else cardOf db id := by
  simp only [cardOf, createJob, Table.get_insert]
  split <;> rfl

@[simp] theorem statusOf_setExitNode (db : Db) (gatewayId : Nat) (address : Option String) (id : Nat) :
    statusOf (setExitNode db gatewayId address) id = statusOf db id := by
  cases address with
  | none => rfl
  | some ip =>
      simp only [statusOf, setExitNode, Table.get_modify]
      split
      · cases db.gateways.get id <;> rfl
      · rfl

@[simp] theorem cardOf_setExitNode (db : Db) (gatewayId : Nat) (address : Option String) (id : Nat) :
    cardOf (setExitNode db gatewayId address) id = cardOf db id := by
  cases address <;> rfl

@[simp] theorem next_setExitNode (db : Db) (gatewayId : Nat) (address : Option String) :
    (setExitNode db gatewayId address).gateways.next = db.gateways.next ∧
      (setExitNode db gatewayId address).jobs.next = db.jobs.next := by
  cases address <;> exact ⟨rfl, rfl⟩

@[simp] theorem statusOf_setUpPeer (calls : CreatePeerCalls) (db : Db) (gatewayId id : Nat) :
    statusOf (setUpPeer calls db gatewayId) id = statusOf db id := by
  rw [statusOf, (setUpPeer_tables calls db gatewayId).1, statusOf]

@[simp] theorem cardOf_setUpPeer (calls : CreatePeerCalls) (db : Db) (gatewayId id : Nat) :
    cardOf (setUpPeer calls db gatewayId) id = cardOf db id := by
  rw [cardOf, (setUpPeer_tables calls db gatewayId).2, cardOf]

theorem failJob_present {db : Db} {gatewayId jobId : Nat}
    (present : (db.jobs.get jobId).isSome ∧ (db.gateways.get gatewayId).isSome) (text : String) :
    failJob db gatewayId jobId text =
      updateJobStatus (updateGatewayStatus db gatewayId .error (some text)) jobId .failed (some text) :=
  if_pos present

/-! ### Creating and removing a gateway -/

theorem statusOf_created {calls : CreationCalls} {request : CreateGatewayRequest} {db after : Db}
    {gatewayId jobId : Nat} (created : Created calls request db after gatewayId jobId) (id : Nat) :
    statusOf after id = if id = db.gateways.next then some .pending else statusOf db id := by
  rw [statusOf, created.gateways, Table.get_insert]
  split <;> rfl

theorem cardOf_created {calls : CreationCalls} {request : CreateGatewayRequest} {db after : Db}
    {gatewayId jobId : Nat} (created : Created calls request db after gatewayId jobId) (id : Nat) :
    cardOf after id = if id = db.jobs.next then some ⟨gatewayId, .createGateway, .pending⟩ else cardOf db id := by
  rw [cardOf, created.jobs, Table.get_insert]
  split <;> rfl


theorem jobs_releases (db : Db) (workerId address port : Nat) :
    (Incus.releaseUdpPort (Incus.releaseVmIp db workerId address) workerId port).jobs = db.jobs := by
  unfold Incus.releaseUdpPort Incus.releaseVmIp
  split <;> split <;> rfl

theorem statusOf_removeGateway (db : Db) (gatewayId : Nat) (gateway : Gateway) (id : Nat) :
    statusOf (removeGateway db gatewayId gateway) id = if id = gatewayId then none else statusOf db id := by
  rw [statusOf, gateways_removeGateway]
  by_cases removed : id = gatewayId
  · rw [if_pos removed, removed, Table.get_delete_self]
    rfl
  · rw [if_neg removed, Table.get_delete_of_ne removed, statusOf]

theorem cardOf_removeGateway (db : Db) (gatewayId : Nat) (gateway : Gateway) (id : Nat) :
    cardOf (removeGateway db gatewayId gateway) id = (cardOf db id).filter fun card => card.gatewayId ≠ gatewayId := by
  simp only [cardOf, removeGateway, deleteGateway, Table.get_deleteWhere, jobs_releases]
  cases db.jobs.get id with
  | none => rfl
  | some job => by_cases own : job.gatewayId = gatewayId <;> simp [Option.filter, cardOfJob, own]

theorem next_removeGateway (db : Db) (gatewayId : Nat) (gateway : Gateway) :
    (removeGateway db gatewayId gateway).jobs.next = db.jobs.next ∧
      (removeGateway db gatewayId gateway).gateways.next = db.gateways.next := by
  constructor
  · have table := congrArg Table.next (jobs_releases db gateway.workerId gateway.vmIp gateway.udpPort)
    exact table
  · rw [gateways_removeGateway]
    rfl

/-! ### Lookups -/

theorem latestCreate_some {db : Db} {gatewayId jobId : Nat} {job : Job}
    (latest : getLatestCreateJob db gatewayId = some (jobId, job)) :
    cardOf db jobId = some ⟨gatewayId, .createGateway, job.status⟩ := by
  obtain ⟨found, wanted⟩ := Table.get_of_latest latest
  simp only [Bool.and_eq_true, decide_eq_true_eq] at wanted
  rw [cardOf_of_get found, cardOfJob, wanted.1, wanted.2]

theorem latestCreate_none {db : Db} {gatewayId : Nat} (latest : getLatestCreateJob db gatewayId = none) {jobId : Nat}
    {card : Card} (present : cardOf db jobId = some card) (own : card.gatewayId = gatewayId) :
    card.type = .deleteGateway := by
  obtain ⟨job, found, rfl⟩ := Option.map_eq_some_iff.mp present
  have unwanted := Table.latest_eq_none.mp latest jobId job found
  cases type : job.type with
  | createGateway => simp_all [cardOfJob]
  | deleteGateway => exact type

theorem latestDelete_some {db : Db} {gatewayId jobId : Nat} {job : Job}
    (latest : getLatestDeleteJob db gatewayId = some (jobId, job)) :
    cardOf db jobId = some ⟨gatewayId, .deleteGateway, job.status⟩ := by
  obtain ⟨found, wanted⟩ := Table.get_of_latest latest
  simp only [Bool.and_eq_true, decide_eq_true_eq] at wanted
  rw [cardOf_of_get found, cardOfJob, wanted.1, wanted.2]

theorem latestDelete_le {db : Db} {gatewayId jobId other : Nat} {job : Job} {card : Card}
    (latest : getLatestDeleteJob db gatewayId = some (jobId, job)) (present : cardOf db other = some card)
    (own : card.gatewayId = gatewayId) (type : card.type = .deleteGateway) : other ≤ jobId := by
  obtain ⟨row, found, rfl⟩ := Option.map_eq_some_iff.mp present
  apply Table.le_of_latest latest found
  simp only [cardOfJob] at own type
  simp [own, type]

theorem latestDelete_none {db : Db} {gatewayId : Nat} (latest : getLatestDeleteJob db gatewayId = none) {jobId : Nat}
    {card : Card} (present : cardOf db jobId = some card) (own : card.gatewayId = gatewayId) :
    card.type = .createGateway := by
  obtain ⟨job, found, rfl⟩ := Option.map_eq_some_iff.mp present
  have unwanted := Table.latest_eq_none.mp latest jobId job found
  cases type : job.type with
  | createGateway => exact type
  | deleteGateway => simp_all [cardOfJob]

theorem pending_some {db : Db} {gatewayId choice jobId : Nat} {job : Job}
    (pending : getPendingForGateway db gatewayId choice = some (jobId, job)) :
    cardOf db jobId = some ⟨gatewayId, job.type, .pending⟩ := by
  obtain ⟨found, wanted⟩ := Table.get_of_anyRow pending
  simp only [Bool.and_eq_true, decide_eq_true_eq] at wanted
  rw [cardOf_of_get found, cardOfJob, wanted.1, wanted.2]

theorem pending_none {db : Db} {gatewayId choice : Nat} (pending : getPendingForGateway db gatewayId choice = none)
    {jobId : Nat} {card : Card} (present : cardOf db jobId = some card) (own : card.gatewayId = gatewayId) :
    card.status ≠ .pending := by
  obtain ⟨job, found, rfl⟩ := Option.map_eq_some_iff.mp present
  have unwanted := Table.anyRow_eq_none.mp pending jobId job found
  simp only [cardOfJob] at own
  simp only [own, decide_true, Bool.true_and, decide_eq_false_iff_not] at unwanted
  exact unwanted

theorem startPending_some {db : Db} {gatewayId choice : Nat} {start : Start}
    (started : startPending db gatewayId choice = some start) :
    ∃ jobId type, start = .provisioning gatewayId jobId ∧ cardOf db jobId = some ⟨gatewayId, type, .pending⟩ := by
  obtain ⟨⟨jobId, job⟩, found, rfl⟩ := Option.map_eq_some_iff.mp started
  exact ⟨jobId, job.type, rfl, pending_some found⟩

/-! ### `prepare_provisioning` -/

theorem reopenGateway_ledger (db : Db) (gatewayId : Nat) (gateway : Gateway) :
    (reopenGateway db gatewayId gateway).jobs = db.jobs ∧
      (reopenGateway db gatewayId gateway).gateways.next = db.gateways.next ∧
      (reopenGateway db gatewayId gateway = db ∨
        ((gateway.status = .error ∨ gateway.status = .provisioning) ∧
          ∀ id, statusOf (reopenGateway db gatewayId gateway) id =
            if id = gatewayId then (statusOf db id).map fun _ => .pending else statusOf db id)) := by
  unfold reopenGateway
  split
  · exact ⟨rfl, rfl, .inr ⟨.inl ‹_›, statusOf_updateGatewayStatus db gatewayId .pending none⟩⟩
  · split
    · split
      · exact ⟨rfl, rfl, .inr ⟨.inr ‹_›, statusOf_updateGatewayStatus db gatewayId .pending none⟩⟩
      · exact ⟨rfl, rfl, .inl rfl⟩
    · exact ⟨rfl, rfl, .inl rfl⟩
  · exact ⟨rfl, rfl, .inl rfl⟩

/-- The gateway is open again or as it was, and one create job of it is pending: its latest, or a first one. -/
structure PrepareEffect (db after : Db) (gatewayId jobId : Nat) : Prop where
  present : ∃ before status, statusOf db gatewayId = some before ∧ statusOf after gatewayId = some status ∧
    (status = before ∨ (status = .pending ∧ (before = .error ∨ before = .provisioning)))
  others : ∀ id, id ≠ gatewayId → statusOf after id = statusOf db id
  gateways_next : after.gateways.next = db.gateways.next
  job : cardOf after jobId = some ⟨gatewayId, .createGateway, .pending⟩
  jobs : ∀ id, id ≠ jobId → cardOf after id = cardOf db id
  origin : (after.jobs.next = db.jobs.next ∧ ∃ status, cardOf db jobId = some ⟨gatewayId, .createGateway, status⟩) ∨
    (after.jobs.next = db.jobs.next + 1 ∧ jobId = db.jobs.next ∧
      ∀ id card, cardOf db id = some card → card.gatewayId = gatewayId → card.type = .deleteGateway)

theorem reopenGateway_status {db : Db} {gatewayId : Nat} {gateway : Gateway}
    (present : db.gateways.get gatewayId = some gateway) :
    (∃ status, statusOf (reopenGateway db gatewayId gateway) gatewayId = some status ∧
      (status = gateway.status ∨
        (status = .pending ∧ (gateway.status = .error ∨ gateway.status = .provisioning)))) ∧
    ∀ id, id ≠ gatewayId → statusOf (reopenGateway db gatewayId gateway) id = statusOf db id := by
  obtain ⟨-, -, same | ⟨reason, statuses⟩⟩ := reopenGateway_ledger db gatewayId gateway
  · rw [same]
    exact ⟨⟨_, statusOf_of_get present, .inl rfl⟩, fun _ _ => rfl⟩
  · refine ⟨⟨.pending, ?_, .inr ⟨rfl, reason⟩⟩, ?_⟩
    · rw [statuses, if_pos rfl, statusOf_of_get present]
      rfl
    · intro id different
      rw [statuses, if_neg different]

theorem prepareProvisioning_ok {db after : Db} {gatewayId : Nat} (prepared : prepareProvisioning db gatewayId = .ok after) :
    ∃ jobId, PrepareEffect db after gatewayId jobId := by
  unfold prepareProvisioning at prepared
  cases present : db.gateways.get gatewayId with
  | none =>
      rw [present] at prepared
      cases prepared
  | some gateway =>
      simp only [present] at prepared
      obtain ⟨jobs, next, -⟩ := reopenGateway_ledger db gatewayId gateway
      obtain ⟨⟨status, settled, change⟩, others⟩ := reopenGateway_status present
      have cards : ∀ id, cardOf (reopenGateway db gatewayId gateway) id = cardOf db id := by
        intro id
        rw [cardOf, jobs, cardOf]
      have before := statusOf_of_get present
      unfold resetFailedJob at prepared
      cases latest : getLatestCreateJob (reopenGateway db gatewayId gateway) gatewayId with
      | none =>
          simp only [latest] at prepared
          cases prepared
          refine ⟨(reopenGateway db gatewayId gateway).jobs.next, ⟨gateway.status, status, before, settled, change⟩,
            others, next, ?_, ?_, .inr ⟨?_, ?_, ?_⟩⟩
          · rw [cardOf_createJob, if_pos rfl]
          · intro id different
            rw [cardOf_createJob, if_neg different, cards]
          · change (reopenGateway db gatewayId gateway).jobs.next + 1 = _
            rw [jobs]
          · rw [jobs]
          · intro id card found own
            exact latestCreate_none latest (by rw [cards, found]) own
      | some entry =>
          obtain ⟨jobId, job⟩ := entry
          simp only [latest] at prepared
          cases prepared
          have found := latestCreate_some latest
          have jobs_next : (reopenGateway db gatewayId gateway).jobs.next = db.jobs.next := by rw [jobs]
          refine ⟨jobId, ⟨gateway.status, status, before, settled, change⟩, others, next, ?_, ?_,
            .inl ⟨jobs_next, job.status, by rw [← cards, found]⟩⟩
          · obtain ⟨row, stored, card⟩ := Option.map_eq_some_iff.mp found
            simp only [cardOfJob, Card.mk.injEq] at card
            obtain ⟨own, type, -⟩ := card
            simp only [cardOf, Table.get_modify_self, stored, Option.map_some]
            split
            · rename_i pending
              rw [cardOfJob, own, type, pending]
            · rw [cardOfJob, own, type]
          · intro id different
            rw [← cards]
            simp only [cardOf, Table.get_modify_of_ne different]

end DeepOrc.Workers
