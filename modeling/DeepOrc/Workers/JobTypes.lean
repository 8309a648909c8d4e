import DeepOrc.Workers.DeletionStands

/-!
# Which jobs are provisioned

Create and delete jobs share one table and one set of statuses, and a pending job is looked for by its gateway only. The
lookup finds a create job as long as no delete job becomes pending between the preparation of a gateway and the lookup.
-/

namespace DeepOrc.Workers

open Models Repositories Services
open Lib (Table Reaches)

/-! ### When a delete job gets in the way -/

def PendingDelete (db : Db) (gatewayId : Nat) : Prop :=
  ∃ jobId job, db.jobs.get jobId = some job ∧ job.gatewayId = gatewayId ∧ job.type = .deleteGateway ∧
    job.status = .pending

/-- What is left to do begins with a lookup of the gateway's pending job. -/
def Task.awaitsJob : Task → Option Nat
  | .retryTail gatewayId | .sweepTail gatewayId _ | .sweepStart gatewayId _ => some gatewayId
  | _ => none

/-- A thread, a retry or a sweep has prepared the gateway and is about to look for its pending job. -/
def AwaitsJob (s : State) (gatewayId : Nat) : Prop :=
  (∃ thread, s.prov gatewayId = some thread ∧ thread.pc = .prepared) ∨
    ∃ id task, s.tasks.get id = some task ∧ task.awaitsJob = some gatewayId

/-- `_maybe_enqueue_provisioning` prepares the gateway. -/
def RetryPrepares (db : Db) (gatewayId : Nat) : Prop :=
  ∃ gateway, db.gateways.get gatewayId = some gateway ∧ needsProvisioning gateway = true ∧
    ∀ jobId job, getLatestCreateJob db gatewayId = some (jobId, job) →
      job.status = .failed ∨ gateway.status = .error ∨ job.status = .running

/-- A sweep prepares the gateway when it visits it and no thread is active. -/
def SweepPrepares (db : Db) (gatewayId : Nat) : Prop :=
  ∃ gateway, db.gateways.get gatewayId = some gateway ∧ needsProvisioning gateway = true ∧
    ∀ jobId job, getLatestCreateJob db gatewayId = some (jobId, job) → job.status = .running

/-- A thread whose job is gone or stale prepares the gateway. -/
def ThreadPrepares (stale : Bool) (db : Db) (gatewayId : Nat) (thread : ProvThread) : Prop :=
  thread.pc = .started ∧ ∃ gateway, db.gateways.get gatewayId = some gateway ∧ needsProvisioning gateway = true ∧
    ∀ job, db.jobs.get thread.jobId = some job → job.status = .running ∧ stale = true

/-- No delete request commits between a preparation and the lookup that follows it, and no gateway is prepared while a
delete job of it is pending. -/
def Untangled (s : State) : Event → Prop
  | .requestDelete gatewayId => ¬ AwaitsJob s gatewayId
  | .retry gatewayId => RetryPrepares s.db gatewayId → ¬ PendingDelete s.db gatewayId
  | .task id _ _ => ∀ gatewayId todo, s.tasks.get id = some (.sweep (gatewayId :: todo)) → s.prov gatewayId = none →
      SweepPrepares s.db gatewayId → ¬ PendingDelete s.db gatewayId
  | .prov gatewayId stale _ _ => ∀ thread, s.prov gatewayId = some thread →
      ThreadPrepares stale s.db gatewayId thread → ¬ PendingDelete s.db gatewayId
  | _ => True

/-! ### Jobs keep their gateway and type -/

/-- The gateway is not being deleted, and a pending job of it is a create job. -/
structure Calm (db : Db) (gatewayId : Nat) : Prop where
  status : statusOf db gatewayId ≠ some .deleting
  jobs : ∀ jobId card, cardOf db jobId = some card → card.gatewayId = gatewayId → card.status = .pending →
    card.type = .createGateway

/-- The id was given out, and the job, if it is still there, has this type and gateway. -/
def TypedJob (db : Db) (type : JobType) (gatewayId jobId : Nat) : Prop :=
  jobId < db.jobs.next ∧ ∀ card, cardOf db jobId = some card → card.gatewayId = gatewayId ∧ card.type = type

/-- Ids are not given out again, a job that is still there has its gateway and type, and all gateways stay calm but
`opens`. -/
structure Keeps (db after : Db) (opens : Option Nat) : Prop where
  next : db.jobs.next ≤ after.jobs.next
  cards : ∀ jobId card, jobId < db.jobs.next → cardOf after jobId = some card →
    ∃ status, cardOf db jobId = some { card with status }
  calm : ∀ gatewayId, opens ≠ some gatewayId → Calm db gatewayId → Calm after gatewayId

section Keeps

variable {db middle after : Db} {opens : Option Nat} {gatewayId jobId : Nat}

theorem typedJob_of_card {type : JobType} {status : JobStatus} (found : cardOf db jobId = some ⟨gatewayId, type, status⟩) :
    TypedJob db type gatewayId jobId := by
  refine ⟨lt_next_of_card found, ?_⟩
  intro card present
  rw [found] at present
  cases present
  exact ⟨rfl, rfl⟩

theorem TypedJob.keep {type : JobType} (typed : TypedJob db type gatewayId jobId) (keeps : Keeps db after opens) :
    TypedJob after type gatewayId jobId := by
  refine ⟨Nat.lt_of_lt_of_le typed.1 keeps.next, ?_⟩
  intro card found
  obtain ⟨status, stored⟩ := keeps.cards jobId card typed.1 found
  exact typed.2 { card with status } stored

theorem Keeps.trans (first : Keeps db middle opens) (second : Keeps middle after opens) : Keeps db after opens where
  next := Nat.le_trans first.next second.next
  cards := by
    intro jobId card known found
    obtain ⟨status, between⟩ := second.cards jobId card (Nat.lt_of_lt_of_le known first.next) found
    obtain ⟨earlier, stored⟩ := first.cards jobId _ known between
    exact ⟨earlier, stored⟩
  calm := fun gatewayId other calm => second.calm gatewayId other (first.calm gatewayId other calm)

theorem calm_of_same (statuses : statusOf after gatewayId = statusOf db gatewayId)
    (cards : ∀ id, cardOf after id = cardOf db id) (calm : Calm db gatewayId) : Calm after gatewayId where
  status := by
    rw [statuses]
    exact calm.status
  jobs := by
    intro jobId card found
    rw [cards] at found
    exact calm.jobs jobId card found

theorem keeps_of_same (next : after.jobs.next = db.jobs.next) (statuses : ∀ id, statusOf after id = statusOf db id)
    (cards : ∀ id, cardOf after id = cardOf db id) : Keeps db after opens where
  next := next.ge
  cards := by
    intro jobId card _ found
    rw [cards] at found
    exact ⟨card.status, found⟩
  calm := fun gatewayId _ calm => calm_of_same (statuses gatewayId) cards calm

theorem Keeps.refl (db : Db) : Keeps db db opens := keeps_of_same rfl (fun _ => rfl) fun _ => rfl

theorem keeps_updateGatewayStatus (status : GatewayStatus) (allowed : status = .deleting → opens = some gatewayId)
    (error : Option String) : Keeps db (updateGatewayStatus db gatewayId status error) opens where
  next := Nat.le_refl _
  cards := fun jobId card _ found => ⟨card.status, found⟩
  calm := by
    intro other blocked calm
    refine ⟨?_, calm.jobs⟩
    rw [statusOf_updateGatewayStatus]
    split
    · rename_i same
      intro deleting
      obtain ⟨before, -, rfl⟩ := Option.map_eq_some_iff.mp deleting
      exact blocked (same ▸ allowed rfl)
    · exact calm.status

theorem keeps_updateStage (db : Db) (jobId : Nat) (stage : String) : Keeps db (updateStage db jobId stage) opens :=
  keeps_of_same rfl (fun _ => rfl) (cardOf_updateStage db jobId stage)

/-- A delete job becomes pending only while its gateway is being deleted. -/
theorem keeps_updateJobStatus {status : JobStatus} (error : Option String) (allowed : status = .pending →
      ∀ card, cardOf db jobId = some card → statusOf db card.gatewayId = some .deleting) :
    Keeps db (updateJobStatus db jobId status error) opens where
  next := Nat.le_refl _
  cards := by
    intro other card _ found
    rw [cardOf_updateJobStatus] at found
    split at found
    · obtain ⟨before, stored, same⟩ := Option.map_eq_some_iff.mp found
      refine ⟨before.status, ?_⟩
      rw [stored, ← same]
    · exact ⟨card.status, found⟩
  calm := by
    intro gatewayId _ calm
    refine ⟨calm.status, ?_⟩
    intro other card found own pending
    rw [cardOf_updateJobStatus] at found
    split at found
    · rename_i same
      obtain ⟨before, stored, rfl⟩ := Option.map_eq_some_iff.mp found
      rw [same] at stored
      have deleting := allowed pending before stored
      exact absurd (own ▸ deleting) calm.status
    · exact calm.jobs other card found own pending

theorem keeps_createJob (allowed : statusOf db gatewayId = some .deleting ∨ opens = some gatewayId) :
    Keeps db (createJob db .deleteGateway gatewayId).1 opens where
  next := Nat.le_succ _
  cards := by
    intro jobId card known found
    rw [cardOf_createJob, if_neg (Nat.ne_of_lt known)] at found
    exact ⟨card.status, found⟩
  calm := by
    intro other blocked calm
    refine ⟨calm.status, ?_⟩
    intro jobId card found own pending
    rw [cardOf_createJob] at found
    split at found
    · cases found
      rcases allowed with deleting | opened
      · exact absurd (own ▸ deleting) calm.status
      · exact absurd (own ▸ opened) blocked
    · exact calm.jobs jobId card found own pending

theorem keeps_created {calls : CreationCalls} {request : CreateGatewayRequest}
    (created : Created calls request db after gatewayId jobId) : Keeps db after opens where
  next := by
    rw [created.jobs]
    exact Nat.le_succ _
  cards := by
    intro other card known found
    rw [cardOf_created created, if_neg (Nat.ne_of_lt known)] at found
    exact ⟨card.status, found⟩
  calm := by
    intro other _ calm
    constructor
    · rw [statusOf_created created]
      split
      · simp
      · exact calm.status
    · intro jobId card found own pending
      rw [cardOf_created created] at found
      split at found
      · cases found
        rfl
      · exact calm.jobs jobId card found own pending

theorem keeps_prepared (effect : PrepareEffect db after gatewayId jobId) : Keeps db after opens where
  next := by
    rcases effect.origin with ⟨same, -⟩ | ⟨grown, -⟩ <;> omega
  cards := by
    intro other card known found
    by_cases own : other = jobId
    · subst own
      rcases effect.origin with ⟨-, status, stored⟩ | ⟨-, new, -⟩
      · rw [effect.job] at found
        cases found
        exact ⟨status, stored⟩
      · omega
    · rw [effect.jobs other own] at found
      exact ⟨card.status, found⟩
  calm := by
    intro other _ calm
    constructor
    · by_cases same : other = gatewayId
      · subst same
        obtain ⟨before, status, stored, settled, change⟩ := effect.present
        rw [settled]
        rcases change with rfl | ⟨rfl, -⟩
        · rw [← stored]
          exact calm.status
        · simp
      · rw [effect.others other same]
        exact calm.status
    · intro id card found own pending
      by_cases new : id = jobId
      · rw [new, effect.job] at found
        cases found
        rfl
      · rw [effect.jobs id new] at found
        exact calm.jobs id card found own pending

/-- A gateway that is prepared while no delete job of it is pending is calm. -/
theorem calm_prepared (effect : PrepareEffect db after gatewayId jobId)
    (kept : statusOf db gatewayId ≠ some .deleting) (free : ¬ PendingDelete db gatewayId) : Calm after gatewayId := by
  have before : Calm db gatewayId := by
    refine ⟨kept, ?_⟩
    intro id card found own pending
    obtain ⟨job, stored, rfl⟩ := Option.map_eq_some_iff.mp found
    cases type : job.type with
    | createGateway => exact type
    | deleteGateway => exact absurd ⟨id, job, stored, own, type, pending⟩ free
  have keeps : Keeps db after none := keeps_prepared effect
  exact keeps.calm gatewayId nofun before

theorem keeps_removeGateway (db : Db) (gatewayId : Nat) (gateway : Gateway) :
    Keeps db (removeGateway db gatewayId gateway) opens where
  next := (next_removeGateway db gatewayId gateway).1.ge
  cards := by
    intro jobId card _ found
    rw [cardOf_removeGateway] at found
    exact ⟨card.status, (Option.filter_eq_some_iff.mp found).1⟩
  calm := by
    intro other _ calm
    constructor
    · rw [statusOf_removeGateway]
      split
      · simp
      · exact calm.status
    · intro jobId card found
      rw [cardOf_removeGateway] at found
      exact calm.jobs jobId card (Option.filter_eq_some_iff.mp found).1

theorem keeps_completeJob (db : Db) (jobId : Option Nat) : Keeps db (completeJob db jobId) opens := by
  cases jobId with
  | none => exact .refl db
  | some id => exact keeps_updateJobStatus none nofun

theorem keeps_setUpPeer (calls : CreatePeerCalls) (db : Db) (gatewayId : Nat) :
    Keeps db (setUpPeer calls db gatewayId) opens :=
  keeps_of_same (congrArg Table.next (setUpPeer_tables calls db gatewayId).2) (statusOf_setUpPeer calls db gatewayId)
    (cardOf_setUpPeer calls db gatewayId)

theorem keeps_finalized {calls : FinalizeCalls} {gateway : Gateway}
    (finalized : finalizeExitNode calls db gatewayId gateway = .ok after) : Keeps db after opens := by
  obtain ⟨address, -, rfl⟩ := finalizeExitNode_ok finalized
  exact keeps_of_same (next_setExitNode db gatewayId address).2 (statusOf_setExitNode db gatewayId address)
    (cardOf_setExitNode db gatewayId address)

theorem keeps_deleted {calls : DeletionCalls} {jobId : Option Nat}
    (deleted : executeDeleteGateway calls db gatewayId jobId = .ok after) : Keeps db after opens := by
  rcases executeDeleteGateway_ok deleted with ⟨-, rfl⟩ | ⟨gateway, -, rfl⟩
  · exact keeps_completeJob db jobId
  · exact (keeps_removeGateway db gatewayId gateway).trans (keeps_completeJob _ jobId)

end Keeps

/-! ### The provisioning thread -/

/-- The thread holds create jobs, and the job that it is about to look for is one. Only a run that is `careful` about
delete requests promises this; the rest of the invariant holds in every run. -/
structure ProvTyped (db : Db) (gatewayId : Nat) (thread : ProvThread) : Prop where
  requested : TypedJob db .createGateway gatewayId thread.requested
  job : TypedJob db .createGateway gatewayId thread.jobId
  calm : thread.pc = .prepared → Calm db gatewayId

structure ProvStep (careful : Prop) (db : Db) (gatewayId : Nat) (result : Db × Option ProvThread) : Prop where
  keeps : Keeps db result.1 none
  typed : careful → ∀ next, result.2 = some next → ProvTyped result.1 gatewayId next

section Provisioning

variable {careful : Prop} {db after : Db} {gatewayId : Nat} {thread : ProvThread}

theorem provStep_end (keeps : Keeps db after none) : ProvStep careful db gatewayId (after, none) := ⟨keeps, fun _ => nofun⟩

theorem provStep_to {pc : ProvPc} (typed : careful → ProvTyped db gatewayId thread) (keeps : Keeps db after none)
    (settled : pc ≠ .prepared) : ProvStep careful db gatewayId (after, some (thread.to pc)) := by
  refine ⟨keeps, ?_⟩
  intro strict next continued
  obtain rfl := Option.some.inj continued
  have before := typed strict
  exact ⟨before.requested.keep keeps, before.job.keep keeps, fun prepared => absurd prepared settled⟩

theorem failThread_step (typed : careful → ProvTyped db gatewayId thread) (text : String) :
    ProvStep careful db gatewayId (failThread db gatewayId thread text) := by
  unfold failThread
  split
  · rename_i present
    rw [failJob_present present]
    have erred : Keeps db (updateGatewayStatus db gatewayId .error (some text)) none :=
      keeps_updateGatewayStatus .error nofun (some text)
    exact provStep_to typed (erred.trans (keeps_updateJobStatus (some text) nofun)) nofun
  · exact provStep_end (.refl db)

theorem finishThread_step (typed : careful → ProvTyped db gatewayId thread) :
    ProvStep careful db gatewayId (finishThread db thread) := by
  unfold finishThread
  split
  · have completed : Keeps db (updateJobStatus db thread.jobId .completed none) none := keeps_updateJobStatus none nofun
    exact provStep_to typed (completed.trans (keeps_updateStage _ thread.jobId "done")) nofun
  · exact provStep_end (.refl db)

theorem reprepareThread_step (typed : careful → ProvTyped db gatewayId thread) (kept : statusOf db gatewayId ≠ some .deleting)
    (free : careful → ¬ PendingDelete db gatewayId) : ProvStep careful db gatewayId (reprepareThread db gatewayId thread) := by
  unfold reprepareThread
  split
  · exact provStep_end (.refl db)
  · rename_i after prepared
    obtain ⟨jobId, effect⟩ := prepareProvisioning_ok prepared
    have keeps : Keeps db after none := keeps_prepared effect
    refine ⟨keeps, ?_⟩
    intro strict next continued
    obtain rfl := Option.some.inj continued
    have before := typed strict
    exact ⟨before.requested.keep keeps, before.job.keep keeps, fun _ => calm_prepared effect kept (free strict)⟩

theorem enqueueThread_step {jobId : Nat} (typed : careful → ProvTyped db gatewayId thread)
    (job : careful → TypedJob db .createGateway gatewayId jobId) : ProvStep careful db gatewayId (enqueueThread db thread jobId) := by
  have staged : Keeps db (updateStage db jobId "queued") none := keeps_updateStage db jobId "queued"
  refine ⟨staged, ?_⟩
  intro strict next continued
  obtain rfl := Option.some.inj continued
  exact ⟨(typed strict).requested.keep staged, (job strict).keep staged, nofun⟩

theorem status_of_needs {gateway : Gateway} (present : db.gateways.get gatewayId = some gateway)
    (needs : needsProvisioning gateway = true) : statusOf db gatewayId ≠ some .deleting := by
  intro deleting
  rw [statusOf_of_get present] at deleting
  rw [needsProvisioning, Option.some.inj deleting] at needs
  cases needs

theorem startThread_step (typed : careful → ProvTyped db gatewayId thread) (stale : Bool) (started : thread.pc = .started)
    (free : careful → ThreadPrepares stale db gatewayId thread → ¬ PendingDelete db gatewayId) :
    ProvStep careful db gatewayId (startThread stale db gatewayId thread) := by
  have ended : ProvStep careful db gatewayId (db, none) := provStep_end (.refl db)
  unfold startThread
  cases present : db.gateways.get gatewayId with
  | none => exact ended
  | some gateway =>
      cases needs : needsProvisioning gateway with
      | false => simpa [needs] using ended
      | true =>
          have reprepared (prepares : ∀ job, db.jobs.get thread.jobId = some job → job.status = .running ∧ stale = true) :
              ProvStep careful db gatewayId (reprepareThread db gatewayId thread) :=
            reprepareThread_step typed (status_of_needs present needs) fun strict =>
              free strict ⟨started, gateway, present, needs, prepares⟩
          cases found : db.jobs.get thread.jobId with
          | none => simpa [needs] using reprepared (by simp [found])
          | some job =>
              cases status : job.status with
              | running =>
                  cases stale with
                  | true => simpa [needs, status] using reprepared (by simp [found, status])
                  | false => simpa [needs, status] using ended
              | pending => simpa [needs, status] using enqueueThread_step typed fun strict => (typed strict).job
              | completed => simpa [needs, status] using ended
              | failed => simpa [needs, status] using ended

theorem typedJob_pending {choice jobId : Nat} {job : Job} (calm : Calm db gatewayId)
    (found : getPendingForGateway db gatewayId choice = some (jobId, job)) : TypedJob db .createGateway gatewayId jobId := by
  have stored := pending_some found
  have type : job.type = .createGateway := calm.jobs jobId _ stored rfl rfl
  rw [type] at stored
  exact typedJob_of_card stored

theorem provNext_step (calls : ProvisionCalls) (stale : Bool) (choice : Nat) (typed : careful → ProvTyped db gatewayId thread)
    (free : careful → ThreadPrepares stale db gatewayId thread → ¬ PendingDelete db gatewayId) :
    ProvStep careful db gatewayId (provNext calls stale choice db gatewayId thread) := by
  have ended : ProvStep careful db gatewayId (db, none) := provStep_end (.refl db)
  have erred (error : Option String) : Keeps db (updateGatewayStatus db gatewayId .error error) none :=
    keeps_updateGatewayStatus .error nofun error
  obtain ⟨requested, jobId, pc⟩ := thread
  unfold provNext
  cases pc with
  | started => exact startThread_step typed stale rfl free
  | prepared =>
      dsimp only
      split
      · exact ended
      · rename_i found
        exact enqueueThread_step typed fun strict => typedJob_pending ((typed strict).calm rfl) found
  | queued =>
      dsimp only
      split
      · have begun : Keeps db (updateJobStatus db jobId .running none) none := keeps_updateJobStatus none nofun
        exact provStep_to typed (begun.trans (keeps_updateStage _ jobId "preparing")) nofun
      · exact ended
  | preparing =>
      dsimp only
      split
      · exact failThread_step typed _
      · exact failThread_step typed _
      · have opened : Keeps db (updateGatewayStatus db gatewayId .provisioning none) none :=
          keeps_updateGatewayStatus .provisioning nofun none
        exact provStep_to typed (opened.trans (keeps_updateStage _ jobId "vm_launch")) nofun
  | launching =>
      dsimp only
      split
      · exact ended
      · exact failThread_step typed _
      · exact provStep_to typed (keeps_updateStage db jobId "cloud_init") nofun
  | cloudInit =>
      dsimp only
      split
      · exact ended
      · exact provStep_to typed (keeps_updateStage db jobId "agent_wait") nofun
  | agentWait =>
      dsimp only
      split
      · exact provStep_to typed (keeps_updateStage db jobId "register") nofun
      · split
        · exact ended
        · exact provStep_to typed (erred _) nofun
  | registering =>
      dsimp only
      split
      · exact ended
      · exact failThread_step typed _
      · split
        · exact provStep_to typed (erred _) nofun
        · rename_i finalized
          exact provStep_to typed ((keeps_finalized finalized).trans (keeps_updateGatewayStatus .ready nofun none)) nofun
  | ready => exact provStep_to typed (keeps_updateStage db jobId "peer_setup") nofun
  | peerSetup => exact provStep_to typed (keeps_setUpPeer calls.peer db gatewayId) nofun
  | peerDone => exact finishThread_step typed
  | erred => exact finishThread_step typed
  | finished => exact ended
  | closing => exact ended

end Provisioning

/-! ### The deletion thread -/

structure DelStep (db : Db) (gatewayId : Nat) (result : Db × Option DelThread) : Prop where
  keeps : Keeps db result.1 none
  typed : ∀ next, result.2 = some next → TypedJob result.1 .deleteGateway gatewayId next.jobId

section Deletion

variable {db after : Db} {gatewayId : Nat} {thread : DelThread}

theorem delStep_end (db : Db) : DelStep db gatewayId (db, none) := ⟨.refl db, nofun⟩

theorem delStep_to {pc : DelPc} (typed : TypedJob db .deleteGateway gatewayId thread.jobId)
    (keeps : Keeps db after none) : DelStep db gatewayId (after, some { thread with pc }) := by
  refine ⟨keeps, ?_⟩
  intro next continued
  obtain rfl := Option.some.inj continued
  exact typed.keep keeps

theorem runDeletion_step (typed : TypedJob db .deleteGateway gatewayId thread.jobId) :
    DelStep db gatewayId (runDeletion db thread) := delStep_to typed (keeps_updateJobStatus none nofun)

theorem startDeletionThread_step (typed : TypedJob db .deleteGateway gatewayId thread.jobId) (stale : Bool) :
    DelStep db gatewayId (startDeletionThread stale db gatewayId thread) := by
  have ended : DelStep db gatewayId (db, none) := delStep_end db
  unfold startDeletionThread
  split
  · exact ended
  · split
    · exact ended
    · exact delStep_to typed (keeps_completeJob db (some thread.jobId))
  · exact ended
  · rename_i gateway job present found
    split
    · exact ended
    · rename_i deleting
      have status : statusOf db gatewayId = some .deleting := by rw [statusOf_of_get present, not_not.mp deleting]
      split
      · split
        · refine delStep_to typed (keeps_updateJobStatus none ?_)
          intro _ card stored
          rw [(typed.2 card stored).1]
          exact status
        · exact runDeletion_step typed
      · exact runDeletion_step typed
      · exact ended
      · exact ended

theorem delNext_step (calls : DeletionCalls) (stale : Bool) (typed : TypedJob db .deleteGateway gatewayId thread.jobId) :
    DelStep db gatewayId (delNext calls stale db gatewayId thread) := by
  unfold delNext
  split
  · exact startDeletionThread_step typed stale
  · split
    · exact runDeletion_step typed
    · exact delStep_end db
  · split
    · rename_i deleted
      exact delStep_to typed (keeps_deleted deleted)
    · rename_i error _
      have failed : Keeps db (updateJobStatus db thread.jobId .failed (some error.text)) none :=
        keeps_updateJobStatus (some error.text) nofun
      exact delStep_to typed (failed.trans (keeps_updateGatewayStatus .error nofun _))
  · exact delStep_end db

end Deletion

/-! ### Requests and sweeps -/

def TaskTyped (careful : Prop) (db : Db) : Task → Prop
  | .createTail gatewayId jobId => careful → TypedJob db .createGateway gatewayId jobId
  | .deleteTail gatewayId jobId | .deletionTail gatewayId jobId _ | .deletionStart gatewayId jobId _ =>
      TypedJob db .deleteGateway gatewayId jobId
  | .retryTail gatewayId | .sweepTail gatewayId _ | .sweepStart gatewayId _ => careful → Calm db gatewayId
  | .sweep _ | .deletionSweep _ => True

def StartTyped (careful : Prop) (db : Db) : Start → Prop
  | .provisioning gatewayId jobId => careful → TypedJob db .createGateway gatewayId jobId
  | .deletion gatewayId jobId => TypedJob db .deleteGateway gatewayId jobId

structure TaskStep (careful : Prop) (db : Db) (outcome : Outcome) : Prop where
  keeps : Keeps db outcome.db none
  start : ∀ start, outcome.start = some start → StartTyped careful outcome.db start
  task : ∀ task, outcome.task = some task → TaskTyped careful outcome.db task

section Tasks

variable {careful : Prop} {db : Db} {gatewayId : Nat}

theorem TaskTyped.keep {after : Db} {opens : Option Nat} {task : Task} (typed : TaskTyped careful db task)
    (keeps : Keeps db after opens) (idle : careful → ∀ gatewayId, task.awaitsJob = some gatewayId → opens ≠ some gatewayId) :
    TaskTyped careful after task := by
  cases task with
  | createTail => exact fun strict => (typed strict).keep keeps
  | deleteTail => exact TypedJob.keep typed keeps
  | deletionTail => exact TypedJob.keep typed keeps
  | deletionStart => exact TypedJob.keep typed keeps
  | retryTail gatewayId => exact fun strict => keeps.calm gatewayId (idle strict gatewayId rfl) (typed strict)
  | sweepTail gatewayId => exact fun strict => keeps.calm gatewayId (idle strict gatewayId rfl) (typed strict)
  | sweepStart gatewayId => exact fun strict => keeps.calm gatewayId (idle strict gatewayId rfl) (typed strict)
  | sweep => trivial
  | deletionSweep => trivial

theorem taskStep_rest {start : Option Start} {task : Option Task}
    (startTyped : ∀ value, start = some value → StartTyped careful db value)
    (taskTyped : ∀ value, task = some value → TaskTyped careful db value) : TaskStep careful db ⟨db, start, task⟩ :=
  ⟨.refl db, startTyped, taskTyped⟩

theorem taskStep_sweep (db : Db) (todo : List Nat) : TaskStep careful db ⟨db, none, some (.sweep todo)⟩ := by
  refine taskStep_rest nofun ?_
  intro value next
  obtain rfl := Option.some.inj next
  trivial

theorem taskStep_deletionSweep (db : Db) (todo : List Nat) : TaskStep careful db ⟨db, none, some (.deletionSweep todo)⟩ := by
  refine taskStep_rest nofun ?_
  intro value next
  obtain rfl := Option.some.inj next
  trivial

theorem startPending_typed {choice : Nat} (calm : careful → Calm db gatewayId) :
    ∀ start, startPending db gatewayId choice = some start → StartTyped careful db start := by
  intro start started
  obtain ⟨⟨jobId, job⟩, found, rfl⟩ := Option.map_eq_some_iff.mp started
  exact fun strict => typedJob_pending (calm strict) found

/-- What comes after a preparation finds the gateway calm. -/
theorem prepareThen_step {task : Task} (kept : careful → statusOf db gatewayId ≠ some .deleting)
    (free : careful → ¬ PendingDelete db gatewayId)
    (awaits : ∀ after, (careful → Calm after gatewayId) → TaskTyped careful after task) :
    TaskStep careful db (prepareThen db gatewayId task) := by
  unfold prepareThen
  split
  · exact taskStep_rest nofun nofun
  · rename_i after prepared
    obtain ⟨jobId, effect⟩ := prepareProvisioning_ok prepared
    refine ⟨keeps_prepared effect, nofun, ?_⟩
    intro later next
    obtain rfl := Option.some.inj next
    exact awaits after fun strict => calm_prepared effect (kept strict) (free strict)

theorem startIfPresent_step {jobId : Nat} {start : Start} {task : Option Task} (startTyped : StartTyped careful db start)
    (taskTyped : ∀ value, task = some value → TaskTyped careful db value) : TaskStep careful db (startIfPresent db jobId start task) := by
  unfold startIfPresent
  split
  · refine taskStep_rest ?_ taskTyped
    intro value started
    obtain rfl := Option.some.inj started
    exact startTyped
  · exact taskStep_rest nofun nofun

theorem retryNext_step (free : careful → RetryPrepares db gatewayId → ¬ PendingDelete db gatewayId) :
    TaskStep careful db (retryNext db gatewayId) := by
  have nothing : TaskStep careful db ⟨db, none, none⟩ := taskStep_rest nofun nofun
  unfold retryNext
  cases present : db.gateways.get gatewayId with
  | none => exact nothing
  | some gateway =>
      simp only
      split
      · exact nothing
      · rename_i open_
        have needs : needsProvisioning gateway = true := by simpa using open_
        have prepared (reason : ∀ jobId job, getLatestCreateJob db gatewayId = some (jobId, job) →
            job.status = .failed ∨ gateway.status = .error ∨ job.status = .running) :
            TaskStep careful db (prepareThen db gatewayId (.retryTail gatewayId)) :=
          prepareThen_step (fun _ => status_of_needs present needs)
            (fun strict => free strict ⟨gateway, present, needs, reason⟩) fun _ calm => calm
        split
        · rename_i none_
          exact prepared (by simp [none_])
        · rename_i jobId job latest
          split
          · rename_i reason
            apply prepared
            intro other row found
            rw [latest] at found
            cases found
            exact reason
          · split
            · refine taskStep_rest ?_ nofun
              intro value started
              obtain rfl := Option.some.inj started
              exact fun _ => typedJob_of_card (latestCreate_some latest)
            · exact nothing

theorem sweepVisit_step {active : Nat → Bool} {todo : List Nat}
    (free : careful → active gatewayId = false → SweepPrepares db gatewayId → ¬ PendingDelete db gatewayId) :
    TaskStep careful db (sweepVisit active db gatewayId todo) := by
  unfold sweepVisit
  cases present : db.gateways.get gatewayId with
  | none => exact taskStep_rest nofun nofun
  | some gateway =>
      simp only
      split
      · exact taskStep_sweep db todo
      · rename_i open_
        simp only [Bool.or_eq_true, Bool.not_eq_true', not_or, Bool.not_eq_false, Bool.not_eq_true] at open_
        obtain ⟨needs, inactive⟩ := open_
        have prepared {task : Task} (awaits : ∀ after, (careful → Calm after gatewayId) → TaskTyped careful after task)
            (reason : ∀ jobId job, getLatestCreateJob db gatewayId = some (jobId, job) → job.status = .running) :
            TaskStep careful db (prepareThen db gatewayId task) :=
          prepareThen_step (fun _ => status_of_needs present needs)
            (fun strict => free strict inactive ⟨gateway, present, needs, reason⟩) awaits
        split
        · rename_i none_
          exact prepared (fun _ calm => calm) (by simp [none_])
        · rename_i jobId latest found
          split
          · rename_i running
            refine prepared (fun _ calm => calm) ?_
            intro other row again
            rw [found] at again
            cases again
            exact running
          · refine taskStep_rest ?_ (taskStep_sweep db todo).task
            intro value started
            obtain rfl := Option.some.inj started
            exact fun _ => typedJob_of_card (latestCreate_some found)
          · exact taskStep_sweep db todo
          · exact taskStep_sweep db todo

theorem deletionVisit_step {active : Nat → Bool} {stale : Bool} {todo : List Nat} :
    TaskStep careful db (deletionVisit active stale db gatewayId todo) := by
  unfold deletionVisit
  cases present : db.gateways.get gatewayId with
  | none => exact taskStep_rest nofun nofun
  | some gateway =>
      simp only
      split
      · exact taskStep_deletionSweep db todo
      · rename_i idle
        rw [not_or, not_not] at idle
        have deleting : statusOf db gatewayId = some .deleting := by rw [statusOf_of_get present, idle.1]
        split
        · refine ⟨keeps_createJob (.inl deleting), nofun, ?_⟩
          intro value next
          obtain rfl := Option.some.inj next
          exact typedJob_of_card ((cardOf_createJob _ _ _ _).trans (if_pos rfl))
        · rename_i jobId latest found
          have stored := typedJob_of_card (latestDelete_some found)
          split
          · split
            · have reopened : Keeps db (updateJobStatus db jobId .pending none) none := by
                apply keeps_updateJobStatus none
                intro _ card present
                rw [(stored.2 card present).1]
                exact deleting
              refine ⟨reopened, nofun, ?_⟩
              intro value next
              obtain rfl := Option.some.inj next
              exact stored.keep reopened
            · exact taskStep_deletionSweep db todo
          · refine taskStep_rest ?_ (taskStep_deletionSweep db todo).task
            intro value started
            obtain rfl := Option.some.inj started
            exact stored
          · exact taskStep_deletionSweep db todo
          · exact taskStep_deletionSweep db todo

theorem taskNext_step {task : Task} (typed : TaskTyped careful db task) (provActive delActive : Nat → Bool) (stale : Bool)
    (choice : Nat) (free : careful → ∀ gatewayId todo, task = .sweep (gatewayId :: todo) → provActive gatewayId = false →
      SweepPrepares db gatewayId → ¬ PendingDelete db gatewayId) :
    TaskStep careful db (taskNext provActive delActive stale choice db task) := by
  cases task with
  | createTail gatewayId jobId => exact startIfPresent_step typed nofun
  | retryTail gatewayId => exact taskStep_rest (startPending_typed typed) nofun
  | deleteTail gatewayId jobId => exact startIfPresent_step typed nofun
  | sweep todo =>
      cases todo with
      | nil => exact taskStep_rest nofun nofun
      | cons gatewayId todo => exact sweepVisit_step fun strict => free strict gatewayId todo rfl
  | sweepTail gatewayId todo =>
      have calm : careful → Calm db gatewayId := typed
      simp only [taskNext]
      split
      · rename_i start started
        refine taskStep_rest ?_ (taskStep_sweep db todo).task
        intro value again
        obtain rfl := Option.some.inj again
        exact startPending_typed calm start started
      · refine prepareThen_step (fun strict => (calm strict).status) ?_ fun _ calm => calm
        rintro strict ⟨jobId, job, stored, own, type, pending⟩
        have create := (calm strict).jobs jobId _ (cardOf_of_get stored) own pending
        rw [cardOfJob, type] at create
        cases create
  | sweepStart gatewayId todo => exact taskStep_rest (startPending_typed typed) (taskStep_sweep db todo).task
  | deletionSweep todo =>
      cases todo with
      | nil => exact taskStep_rest nofun nofun
      | cons gatewayId todo => exact deletionVisit_step
  | deletionTail gatewayId jobId todo =>
      simp only [taskNext]
      split
      · exact taskStep_rest nofun nofun
      · split
        · refine taskStep_rest ?_ (taskStep_deletionSweep db todo).task
          intro value started
          obtain rfl := Option.some.inj started
          exact typed
        · exact taskStep_deletionSweep db todo
  | deletionStart gatewayId jobId todo => exact startIfPresent_step typed (taskStep_deletionSweep db todo).task

theorem requestDeleteGateway_keeps {after : Db} {jobId : Nat}
    (requested : requestDeleteGateway db gatewayId = .ok (after, jobId)) :
    Keeps db after (some gatewayId) ∧ TypedJob after .deleteGateway gatewayId jobId := by
  have marked : Keeps db (updateGatewayStatus db gatewayId .deleting none) (some gatewayId) :=
    keeps_updateGatewayStatus .deleting (fun _ => rfl) none
  have created : Keeps db (createJob (updateGatewayStatus db gatewayId .deleting none) .deleteGateway gatewayId).1
      (some gatewayId) := marked.trans (keeps_createJob (.inr rfl))
  have newest : TypedJob (createJob (updateGatewayStatus db gatewayId .deleting none) .deleteGateway gatewayId).1
      .deleteGateway gatewayId db.jobs.next := typedJob_of_card ((cardOf_createJob _ _ _ _).trans (if_pos rfl))
  unfold requestDeleteGateway at requested
  cases present : db.gateways.get gatewayId with
  | none =>
      rw [present] at requested
      cases requested
  | some gateway =>
      simp only [present] at requested
      cases latest : getLatestDeleteJob db gatewayId with
      | none =>
          simp only [latest, Except.ok.injEq] at requested
          cases requested
          exact ⟨created, newest⟩
      | some entry =>
          obtain ⟨existingId, existing⟩ := entry
          have stored := typedJob_of_card (latestDelete_some latest)
          simp only [latest] at requested
          split at requested
          · simp only [Except.ok.injEq, Prod.mk.injEq] at requested
            obtain ⟨rfl, rfl⟩ := requested
            exact ⟨.refl db, stored⟩
          · split at requested
            · simp only [Except.ok.injEq, Prod.mk.injEq] at requested
              obtain ⟨rfl, rfl⟩ := requested
              exact ⟨marked, stored.keep marked⟩
            · simp only [Except.ok.injEq] at requested
              cases requested
              exact ⟨created, newest⟩

end Tasks

/-! ### Runs -/

/-- Provisionings hold create jobs and deletions delete jobs of their gateway, and whoever is about to look for a pending
job finds the gateway calm. -/
structure Typed (careful : Prop) (s : State) : Prop where
  prov : careful → ∀ gatewayId thread, s.prov gatewayId = some thread → ProvTyped s.db gatewayId thread
  del : ∀ gatewayId thread, s.del gatewayId = some thread → TypedJob s.db .deleteGateway gatewayId thread.jobId
  tasks : ∀ id task, s.tasks.get id = some task → TaskTyped careful s.db task

section Runs

variable {careful : Prop} {s t : State}

theorem Typed.withDb {after : Db} {opens : Option Nat} (typed : Typed careful s) (keeps : Keeps s.db after opens)
    (idle : careful → ∀ gatewayId, opens = some gatewayId → ¬ AwaitsJob s gatewayId) : Typed careful { s with db := after } where
  prov := by
    intro strict gatewayId thread active
    obtain ⟨requested, job, calm⟩ := typed.prov strict gatewayId thread active
    refine ⟨requested.keep keeps, job.keep keeps, fun prepared => keeps.calm gatewayId ?_ (calm prepared)⟩
    intro opened
    exact idle strict gatewayId opened (.inl ⟨thread, active, prepared⟩)
  del := fun gatewayId thread active => (typed.del gatewayId thread active).keep keeps
  tasks := by
    intro id task found
    refine (typed.tasks id task found).keep keeps ?_
    intro strict gatewayId awaits opened
    exact idle strict gatewayId opened (.inr ⟨id, task, found, awaits⟩)

/-- No gateway is opened. -/
theorem Typed.kept {after : Db} (typed : Typed careful s) (keeps : Keeps s.db after none) :
    Typed careful { s with db := after } := by
  apply typed.withDb keeps
  intro strict gatewayId opened
  cases opened

theorem Typed.setProv {gatewayId : Nat} {result : Db × Option ProvThread} (typed : Typed careful s)
    (stepped : ProvStep careful s.db gatewayId result) : Typed careful (s.setProv gatewayId result) := by
  have before := typed.kept stepped.keeps
  refine ⟨?_, before.del, before.tasks⟩
  intro strict other thread active
  obtain ⟨rfl, own⟩ | ⟨-, earlier⟩ := prov_setProv_some active
  · exact stepped.typed strict thread own
  · exact before.prov strict other thread earlier

theorem Typed.setDel {gatewayId : Nat} {result : Db × Option DelThread} (typed : Typed careful s)
    (stepped : DelStep s.db gatewayId result) : Typed careful (s.setDel gatewayId result) := by
  have before := typed.kept stepped.keeps
  refine ⟨before.prov, ?_, before.tasks⟩
  intro other thread active
  obtain ⟨rfl, own⟩ | ⟨-, earlier⟩ := del_setDel_some active
  · exact stepped.typed thread own
  · exact before.del other thread earlier

theorem Typed.startThread {start : Option Start} (typed : Typed careful s)
    (ok : ∀ value, start = some value → StartTyped careful s.db value) : Typed careful (s.startThread start) where
  prov := by
    intro strict gatewayId thread active
    rw [db_startThread]
    obtain before | ⟨jobId, started, rfl⟩ := prov_startThread_some active
    · exact typed.prov strict gatewayId thread before
    · have job : TypedJob s.db .createGateway gatewayId jobId := ok _ started strict
      exact ⟨job, job, nofun⟩
  del := by
    intro gatewayId thread active
    rw [db_startThread]
    obtain before | ⟨jobId, started, rfl⟩ := del_startThread_some active
    · exact typed.del gatewayId thread before
    · exact ok _ started
  tasks := by
    intro id task found
    rw [tasks_startThread] at found
    rw [db_startThread]
    exact typed.tasks id task found

theorem Typed.tasked (typed : Typed careful s) (db : t.db = s.db) (prov : t.prov = s.prov) (del : t.del = s.del)
    (tasks : ∀ id task, t.tasks.get id = some task → s.tasks.get id = some task ∨ TaskTyped careful s.db task) : Typed careful t := by
  refine ⟨?_, ?_, ?_⟩
  · rw [db, prov]
    exact typed.prov
  · rw [db, del]
    exact typed.del
  · intro id task found
    rw [db]
    exact (tasks id task found).elim (typed.tasks id task) fun fine => fine

theorem Typed.addTask {task : Option Task} (typed : Typed careful s) (ok : ∀ value, task = some value → TaskTyped careful s.db value) :
    Typed careful (s.addTask task) := by
  apply typed.tasked (db_addTask s task) (prov_addTask s task) (del_addTask s task)
  intro id value found
  exact (tasks_addTask_some found).imp_right (ok value)

theorem Typed.setTask {id : Nat} {task : Option Task} (typed : Typed careful s)
    (ok : ∀ value, task = some value → TaskTyped careful s.db value) : Typed careful (s.setTask id task) := by
  apply typed.tasked (db_setTask s id task) (prov_setTask s id task) (del_setTask s id task)
  intro other value found
  exact (tasks_setTask_some found).imp_right (ok value)

/-! ### One step of each kind -/

theorem create_typed {calls : CreationCalls} {request : CreateGatewayRequest} (typed : Typed careful s)
    (stepped : step s (.create calls request) = some t) : Typed careful t := by
  simp only [step] at stepped
  cases created : createGateway calls request s.db with
  | error failure =>
      rw [created] at stepped
      cases stepped
      exact typed
  | ok made =>
      obtain ⟨db, gatewayId, jobId⟩ := made
      rw [created] at stepped
      cases stepped
      obtain ⟨effect⟩ := createGateway_ok created
      have keeps : Keeps s.db db none := keeps_created effect
      refine (typed.kept keeps).addTask ?_
      intro value new
      obtain rfl := Option.some.inj new
      exact fun _ => typedJob_of_card (by rw [cardOf_created effect, if_pos effect.job_id])

theorem retry_typed {gatewayId : Nat} (typed : Typed careful s) (permitted : careful → Untangled s (.retry gatewayId))
    (stepped : step s (.retry gatewayId) = some t) : Typed careful t := by
  cases stepped
  have next := retryNext_step permitted
  refine ((typed.kept next.keeps).addTask next.task).startThread ?_
  simpa using next.start

theorem requestDelete_typed {gatewayId : Nat} (typed : Typed careful s) (permitted : careful → Untangled s (.requestDelete gatewayId))
    (stepped : step s (.requestDelete gatewayId) = some t) : Typed careful t := by
  simp only [step] at stepped
  cases requested : requestDeleteGateway s.db gatewayId with
  | error failure =>
      rw [requested] at stepped
      cases stepped
      exact typed
  | ok made =>
      obtain ⟨db, jobId⟩ := made
      rw [requested] at stepped
      cases stepped
      obtain ⟨keeps, job⟩ := requestDeleteGateway_keeps requested
      have before : Typed careful { s with db } := by
        apply typed.withDb keeps
        intro strict other opened
        obtain rfl := Option.some.inj opened
        exact permitted strict
      apply before.addTask
      intro value new
      obtain rfl := Option.some.inj new
      exact job

theorem addTask_typed {task : Task} (typed : Typed careful s) (fine : TaskTyped careful s.db task) : Typed careful (s.addTask (some task)) := by
  apply typed.addTask
  intro value new
  obtain rfl := Option.some.inj new
  exact fine

theorem task_typed {id choice : Nat} {stale : Bool} (typed : Typed careful s) (permitted : careful → Untangled s (.task id stale choice))
    (stepped : step s (.task id stale choice) = some t) : Typed careful t := by
  obtain ⟨task, found, rfl⟩ := Option.map_eq_some_iff.mp stepped
  have next := taskNext_step (typed.tasks id task found) (fun g => (s.prov g).isSome) (fun g => (s.del g).isSome)
    stale choice (by
      intro strict gatewayId todo same inactive
      rw [same] at found
      exact permitted strict gatewayId todo found (by simpa using inactive))
  refine ((typed.kept next.keeps).setTask next.task).startThread ?_
  simpa using next.start

theorem prov_typed {gatewayId choice : Nat} {stale : Bool} {calls : ProvisionCalls} (typed : Typed careful s)
    (permitted : careful → Untangled s (.prov gatewayId stale choice calls))
    (stepped : step s (.prov gatewayId stale choice calls) = some t) : Typed careful t := by
  obtain ⟨thread, active, rfl⟩ := Option.map_eq_some_iff.mp stepped
  have before := fun strict => typed.prov strict gatewayId thread active
  exact typed.setProv (provNext_step calls stale choice before fun strict => permitted strict thread active)

theorem provRaise_typed {gatewayId : Nat} {text : String} (typed : Typed careful s)
    (stepped : step s (.provRaise gatewayId text) = some t) : Typed careful t := by
  obtain ⟨thread, active, raised⟩ := Option.bind_eq_some_iff.mp stepped
  split at raised
  · obtain rfl := Option.some.inj raised
    exact typed.setProv (failThread_step (fun strict => typed.prov strict gatewayId thread active) text)
  · cases raised

theorem provRestart_typed {gatewayId : Nat} (typed : Typed careful s) (stepped : step s (.provRestart gatewayId) = some t) :
    Typed careful t := by
  obtain ⟨thread, active, rfl⟩ := Option.map_eq_some_iff.mp stepped
  refine typed.setProv ⟨.refl s.db, ?_⟩
  intro strict next again
  obtain rfl := Option.some.inj again
  have requested := (typed.prov strict gatewayId thread active).requested
  exact ⟨requested, requested, nofun⟩

theorem delRestart_typed {gatewayId : Nat} (typed : Typed careful s) (stepped : step s (.delRestart gatewayId) = some t) :
    Typed careful t := by
  obtain ⟨thread, active, rfl⟩ := Option.map_eq_some_iff.mp stepped
  refine typed.setDel ⟨.refl s.db, ?_⟩
  intro next again
  obtain rfl := Option.some.inj again
  exact typed.del gatewayId thread active

theorem step_typed {event : Event} (typed : Typed careful s) (permitted : careful → Untangled s event) (stepped : step s event = some t) :
    Typed careful t := by
  cases event with
  | create calls request => exact create_typed typed stepped
  | retry gatewayId => exact retry_typed typed permitted stepped
  | requestDelete gatewayId => exact requestDelete_typed typed permitted stepped
  | beginSweep =>
      cases stepped
      exact addTask_typed typed trivial
  | beginDeletionSweep =>
      cases stepped
      exact addTask_typed typed trivial
  | task id stale choice => exact task_typed typed permitted stepped
  | taskStop id =>
      obtain ⟨task, found, rfl⟩ := Option.map_eq_some_iff.mp stepped
      exact typed.setTask nofun
  | prov gatewayId stale choice calls => exact prov_typed typed permitted stepped
  | provRaise gatewayId text => exact provRaise_typed typed stepped
  | provStop gatewayId =>
      obtain ⟨thread, active, rfl⟩ := Option.map_eq_some_iff.mp stepped
      exact typed.setProv (provStep_end (.refl s.db))
  | provRestart gatewayId => exact provRestart_typed typed stepped
  | del gatewayId stale calls =>
      obtain ⟨thread, active, rfl⟩ := Option.map_eq_some_iff.mp stepped
      exact typed.setDel (delNext_step calls stale (typed.del gatewayId thread active))
  | delStop gatewayId =>
      obtain ⟨thread, active, rfl⟩ := Option.map_eq_some_iff.mp stepped
      exact typed.setDel (delStep_end s.db)
  | delRestart gatewayId => exact delRestart_typed typed stepped
  | crash =>
      cases stepped
      exact ⟨fun _ => nofun, nofun, nofun⟩

theorem typed_initial (initial : Initial s) : Typed careful s where
  prov := by
    intro _ gatewayId thread active
    rw [initial.prov gatewayId] at active
    cases active
  del := by
    intro gatewayId thread active
    rw [initial.del gatewayId] at active
    cases active
  tasks := by
    intro id task found
    rw [initial.tasks id] at found
    cases found

theorem typed_of_reaches {start : State} (initial : Initial start) (reached : Reaches step (fun s event => careful →
    Untangled s event) start t) : Typed careful t :=
  reached.invariant (typed_initial initial) fun _ _ _ typed permitted stepped => step_typed typed permitted stepped

end Runs

/-- `process_provisioning_job` only runs with create jobs of its gateway. -/
def RunsOwnCreateJobs (s : State) : Prop :=
  ∀ gatewayId thread job, s.prov gatewayId = some thread → thread.pc.hasJob = true →
    s.db.jobs.get thread.jobId = some job → job.type = .createGateway ∧ job.gatewayId = gatewayId

/-- In an untangled run, every provisioning runs with a create job of its gateway. -/
theorem provisioning_runs_create_jobs {start t : State} (initial : Initial start)
    (reached : Reaches step Untangled start t) : RunsOwnCreateJobs t := by
  have typed : Typed True t := typed_of_reaches initial (reached.mono fun _ _ permitted _ => permitted)
  intro gatewayId thread job active _ stored
  obtain ⟨own, type⟩ := (typed.prov trivial gatewayId thread active).job.2 _ (cardOf_of_get stored)
  exact ⟨type, own⟩

/-! ### Delete requests after and before the lookup -/

def noPendingDelete (db : Db) (gatewayId : Nat) : Bool :=
  db.jobs.toList.all fun entry =>
    !(entry.2.gatewayId = gatewayId && entry.2.type = .deleteGateway && entry.2.status = .pending)

/-- Enough for a step to be untangled, and computable. -/
def plainlyUntangled (s : State) : Event → Bool
  | .requestDelete gatewayId => (s.prov gatewayId).all (fun thread => thread.pc ≠ .prepared) &&
      s.tasks.toList.all fun entry => entry.2.awaitsJob ≠ some gatewayId
  | .retry gatewayId | .prov gatewayId _ _ _ => noPendingDelete s.db gatewayId
  | .task id _ _ => (s.tasks.get id).all fun task =>
      match task with
      | .sweep _ => false
      | _ => true
  | _ => true

theorem not_pendingDelete {db : Db} {gatewayId : Nat} (none_ : noPendingDelete db gatewayId = true) :
    ¬ PendingDelete db gatewayId := by
  rintro ⟨jobId, job, stored, own, type, pending⟩
  have entry := List.all_eq_true.mp none_ (jobId, job) (Table.mem_toList.mpr stored)
  simp [own, type, pending] at entry

theorem untangled_of_plainly {s : State} {event : Event} (plain : plainlyUntangled s event = true) :
    Untangled s event := by
  cases event with
  | requestDelete gatewayId =>
      obtain ⟨thread, tasks⟩ := (Bool.and_eq_true _ _).mp plain
      rintro (⟨other, active, prepared⟩ | ⟨id, task, found, awaits⟩)
      · rw [active] at thread
        exact of_decide_eq_true thread prepared
      · exact of_decide_eq_true (List.all_eq_true.mp tasks (id, task) (Table.mem_toList.mpr found)) awaits
  | retry gatewayId => exact fun _ => not_pendingDelete plain
  | task id stale choice =>
      intro gatewayId todo found
      simp only [plainlyUntangled, found, Option.all_some] at plain
      cases plain
  | prov gatewayId stale choice calls => exact fun _ _ _ => not_pendingDelete plain
  | _ => trivial

/-- The wait for the agent times out, the retry takes the create job up again, and a delete request commits after that. -/
theorem retried_gateway_provisioned :
    ∃ s, s.prov 1 = some ⟨1, 1, .queued⟩ ∧ ¬ noPendingDelete s.db 1 = true ∧ RunsOwnCreateJobs s := by
  have ran : (Lib.run step plainlyUntangled oneWorker
      [createFirst, .task 1 false 0, advanceFirst, advanceFirst, advanceFirst, advanceFirst, advanceFirst, advanceFirst,
        advanceFirst, advanceFirst, .retry 1, .task 2 false 0, advanceFirst, .requestDelete 1]).any
      (fun s => decide (s.prov 1 = some ⟨1, 1, .queued⟩) && !noPendingDelete s.db 1) = true := by
    decide +kernel
  obtain ⟨s, arrived, facts⟩ := Lib.exists_of_any ran
  obtain ⟨queued, pending⟩ := (Bool.and_eq_true _ _).mp facts
  refine ⟨s, of_decide_eq_true queued, by simpa using pending, ?_⟩
  exact provisioning_runs_create_jobs oneWorker_initial (Lib.reaches_of_run (fun _ _ => untangled_of_plainly) arrived)

/-- The wait for the agent times out after a delete request and leaves the gateway in error. The retry finds the pending
delete job first. -/
theorem delete_job_provisioned :
    ∃ start s, Initial start ∧ Reaches step (fun _ _ => True) start s ∧ ¬ RunsOwnCreateJobs s := by
  have ran : (Lib.run step (fun _ _ => true) oneWorker
      [createFirst, .task 1 false 0, advanceFirst, advanceFirst, advanceFirst, advanceFirst, advanceFirst,
        .requestDelete 1, advanceFirst, advanceFirst, advanceFirst, .retry 1, .task 3 false 1, advanceFirst]).any
      (fun s => decide (s.prov 1 = some ⟨2, 2, .queued⟩) &&
        decide ((s.db.jobs.get 2).map Job.type = some .deleteGateway)) = true := by
    decide +kernel
  obtain ⟨s, arrived, facts⟩ := Lib.exists_of_any ran
  obtain ⟨thread, job⟩ := (Bool.and_eq_true _ _).mp facts
  have active := of_decide_eq_true thread
  have typed := of_decide_eq_true job
  obtain ⟨row, stored, type⟩ := Option.map_eq_some_iff.mp typed
  refine ⟨oneWorker, s, oneWorker_initial, Lib.reaches_of_run (fun _ _ _ => trivial) arrived, ?_⟩
  intro runs
  have created := (runs 1 _ row active rfl stored).1
  rw [type] at created
  cases created

/-- A request between a thread's preparation and its lookup: the thread goes on with the delete job. -/
example : (Lib.run step (fun _ _ => true) oneWorker
    [createFirst, .task 1 false 0, advanceFirst, advanceFirst, .provRestart 1, .prov 1 true 0 neverHealthy,
      .requestDelete 1, .prov 1 false 1 neverHealthy]).any (fun s =>
        decide (s.prov 1 = some ⟨1, 2, .queued⟩) &&
          decide ((s.db.jobs.get 2).map Job.type = some .deleteGateway)) = true := by
  decide +kernel

end DeepOrc.Workers
