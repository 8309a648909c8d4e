import DeepOrc.Workers.Deletions

/-!
# A requested deletion stands

A delete request only writes the status; a provisioning thread of the gateway that has checked the status
once does not look at it again before it writes its own. A request is safe while no status is left to write.
-/

namespace DeepOrc.Workers

open Models Repositories Services
open Lib (Table Reaches)

/-! ### What threads and tasks rely on -/

/-- From its check of the gateway's status to its last own write of it. -/
def ProvPc.willWrite : ProvPc → Bool
  | .prepared | .queued | .preparing | .launching | .cloudInit | .agentWait | .registering => true
  | .started | .ready | .peerSetup | .peerDone | .erred | .finished | .closing => false

/-- The thread has settled on its job. -/
def ProvPc.hasJob : ProvPc → Bool
  | .started | .prepared => false
  | _ => true

def JobOf (db : Db) (gatewayId jobId : Nat) : Prop :=
  jobId < db.jobs.next ∧ ∀ card, cardOf db jobId = some card → card.gatewayId = gatewayId

def DeleteJobOf (db : Db) (gatewayId jobId : Nat) : Prop :=
  JobOf db gatewayId jobId ∧ ∀ card, cardOf db jobId = some card → card.type = .deleteGateway

structure ProvOk (db : Db) (gatewayId : Nat) (thread : ProvThread) : Prop where
  requested : JobOf db gatewayId thread.requested
  job : JobOf db gatewayId thread.jobId
  creates : thread.pc.hasJob = true → ∀ card, cardOf db thread.jobId = some card → card.type = .createGateway
  window : thread.pc.willWrite = true → statusOf db gatewayId ≠ some .deleting

structure DelOk (db : Db) (gatewayId : Nat) (thread : DelThread) : Prop where
  job : DeleteJobOf db gatewayId thread.jobId
  opened : thread.pc = .reset ∨ thread.pc = .running →
    (∃ card, cardOf db thread.jobId = some card ∧ isOpen card.status = true) ∨
      (gatewayId < db.gateways.next ∧ statusOf db gatewayId = none)

def TaskOk (db : Db) : Task → Prop
  | .createTail gatewayId jobId => JobOf db gatewayId jobId
  | .deleteTail gatewayId jobId => DeleteJobOf db gatewayId jobId
  | .deletionTail gatewayId jobId _ => DeleteJobOf db gatewayId jobId
  | .deletionStart gatewayId jobId _ => DeleteJobOf db gatewayId jobId
  | _ => True

def StartOk (db : Db) : Start → Prop
  | .provisioning gatewayId jobId => JobOf db gatewayId jobId
  | .deletion gatewayId jobId => DeleteJobOf db gatewayId jobId

structure Inv (s : State) : Prop where
  coherent : Coherent s.db
  prov : ∀ gatewayId thread, s.prov gatewayId = some thread → ProvOk s.db gatewayId thread
  del : ∀ gatewayId thread, s.del gatewayId = some thread → DelOk s.db gatewayId thread
  tasks : ∀ id task, s.tasks.get id = some task → TaskOk s.db task

section Change

variable {db after : Db} {starts fails : Option Nat} {gatewayId : Nat}

theorem JobOf.change {jobId : Nat} (own : JobOf db gatewayId jobId) (change : Change db after starts fails) :
    JobOf after gatewayId jobId := by
  refine ⟨Nat.lt_of_lt_of_le own.1 change.jobs_next, ?_⟩
  intro card found
  obtain ⟨status, stored, -⟩ := change.before found own.1
  exact own.2 { card with status } stored

theorem DeleteJobOf.change {jobId : Nat} (own : DeleteJobOf db gatewayId jobId)
    (change : Change db after starts fails) : DeleteJobOf after gatewayId jobId := by
  refine ⟨own.1.change change, ?_⟩
  intro card found
  obtain ⟨status, stored, -⟩ := change.before found own.1.1
  exact own.2 { card with status } stored

theorem ProvOk.change {thread : ProvThread} (ok : ProvOk db gatewayId thread) (change : Change db after starts fails)
    (clear : starts = some gatewayId → thread.pc.willWrite = false) : ProvOk after gatewayId thread where
  requested := ok.requested.change change
  job := ok.job.change change
  creates := by
    intro holds card found
    obtain ⟨status, stored, -⟩ := change.before found ok.job.1
    exact ok.creates holds { card with status } stored
  window := by
    intro writes deleting
    rcases change.deleting deleting with before | started
    · exact ok.window writes before
    · rw [clear started] at writes
      cases writes

theorem DelOk.change {thread : DelThread} (coherent : Coherent db) (ok : DelOk db gatewayId thread)
    (change : Change db after starts fails) (other : fails ≠ some gatewayId) : DelOk after gatewayId thread where
  job := ok.job.change change
  opened := by
    intro running
    rcases ok.opened running with ⟨card, found, opened⟩ | ⟨known, gone⟩
    · have own := ok.job.1.2 card found
      have known : gatewayId < db.gateways.next := by
        obtain ⟨status, present⟩ := Option.isSome_iff_exists.mp (coherent.owned _ card found)
        rw [← own]
        exact lt_next_of_status present
      rcases change.kept found with ⟨status, stored⟩ | gone
      · obtain ⟨before, earlier, still⟩ := change.before stored ok.job.1.1
        have same : card.status = before := congrArg Card.status (Option.some.inj (found.symm.trans earlier))
        rcases still (ok.job.2 card found) (by rw [← same]; exact opened) with isopen | failed
        · exact .inl ⟨_, stored, isopen⟩
        · exact absurd (failed.trans (congrArg some own)) other
      · exact .inr ⟨Nat.lt_of_lt_of_le known change.gateways_next, by rw [← own, gone]⟩
    · exact .inr ⟨Nat.lt_of_lt_of_le known change.gateways_next, change.gone known gone⟩

theorem TaskOk.change {task : Task} (ok : TaskOk db task) (change : Change db after starts fails) :
    TaskOk after task := by
  cases task with
  | createTail => exact JobOf.change ok change
  | deleteTail => exact DeleteJobOf.change ok change
  | deletionTail => exact DeleteJobOf.change ok change
  | deletionStart => exact DeleteJobOf.change ok change
  | _ => trivial

theorem StartOk.change {start : Start} (ok : StartOk db start) (change : Change db after starts fails) :
    StartOk after start := by
  cases start with
  | provisioning => exact JobOf.change ok change
  | deletion => exact DeleteJobOf.change ok change

end Change

theorem jobOf_of_card {db : Db} {jobId : Nat} {card : Card} (found : cardOf db jobId = some card) :
    JobOf db card.gatewayId jobId := by
  refine ⟨lt_next_of_card found, ?_⟩
  intro other found'
  rw [found] at found'
  cases found'
  rfl

theorem deleteJobOf_of_card {db : Db} {gatewayId jobId : Nat} {status : JobStatus}
    (found : cardOf db jobId = some ⟨gatewayId, .deleteGateway, status⟩) : DeleteJobOf db gatewayId jobId := by
  refine ⟨jobOf_of_card found, ?_⟩
  intro other found'
  rw [found] at found'
  cases found'
  rfl

/-! ### The provisioning thread -/

def Advances (db : Db) (gatewayId : Nat) (result : Db × Option ProvThread) : Prop :=
  Quiet db result.1 ∧ ∀ thread, result.2 = some thread → ProvOk result.1 gatewayId thread

section Provisioning

variable {db after : Db} {gatewayId : Nat} {thread : ProvThread}

theorem ProvOk.to {pc : ProvPc} (ok : ProvOk db gatewayId thread)
    (writes : pc.willWrite = true → thread.pc.willWrite = true) (holds : pc.hasJob = true → thread.pc.hasJob = true) :
    ProvOk db gatewayId (thread.to pc) :=
  ⟨ok.requested, ok.job, fun has => ok.creates (holds has), fun will => ok.window (writes will)⟩

theorem advances_end (quiet : Quiet db after) : Advances db gatewayId (after, none) := ⟨quiet, nofun⟩

theorem advances_to {pc : ProvPc} (ok : ProvOk db gatewayId thread) (quiet : Quiet db after)
    (writes : pc.willWrite = true → thread.pc.willWrite = true)
    (holds : pc.hasJob = true → thread.pc.hasJob = true) : Advances db gatewayId (after, some (thread.to pc)) := by
  refine ⟨quiet, ?_⟩
  intro later next
  cases next
  exact (ok.change (.quiet quiet) nofun).to writes holds

theorem ProvOk.quiet_job (ok : ProvOk db gatewayId thread) (holds : thread.pc.hasJob = true) (status : JobStatus)
    (error : Option String) : Quiet db (updateJobStatus db thread.jobId status error) := by
  refine quiet_updateJobStatus ?_ error
  intro card found type
  rw [ok.creates holds card found] at type
  cases type

theorem failThread_advances (ok : ProvOk db gatewayId thread) (holds : thread.pc.hasJob = true)
    (kept : statusOf db gatewayId ≠ some .deleting) (text : String) :
    Advances db gatewayId (failThread db gatewayId thread text) := by
  unfold failThread
  split
  · rename_i present
    rw [failJob_present present]
    have erred := quiet_updateGatewayStatus kept (show GatewayStatus.error ≠ .deleting by decide) (some text)
    have failed := (ok.change (.quiet erred) nofun).quiet_job holds .failed (some text)
    exact advances_to ok (erred.trans failed) nofun fun _ => holds
  · exact advances_end (.refl db)

theorem finishThread_advances (ok : ProvOk db gatewayId thread) (holds : thread.pc.hasJob = true) :
    Advances db gatewayId (finishThread db thread) := by
  unfold finishThread
  split
  · have completed := ok.quiet_job holds .completed none
    exact advances_to ok (completed.trans (quiet_updateStage _ _ _)) nofun fun _ => holds
  · exact advances_end (.refl db)

theorem reprepareThread_advances (ok : ProvOk db gatewayId thread) (kept : statusOf db gatewayId ≠ some .deleting) :
    Advances db gatewayId (reprepareThread db gatewayId thread) := by
  unfold reprepareThread
  split
  · exact advances_end (.refl db)
  · rename_i after prepared
    obtain ⟨jobId, effect⟩ := prepareProvisioning_ok prepared
    have quiet := effect.quiet
    refine ⟨quiet, ?_⟩
    rintro later ⟨⟩
    exact ⟨ok.requested.change (.quiet quiet), ok.job.change (.quiet quiet), nofun,
      fun _ deleting => kept ((quiet.deleting gatewayId).mp deleting)⟩

/-- Under any other status than deleting, a pending job of the gateway is a create job. -/
theorem enqueueThread_advances {jobId : Nat} {type : JobType} (coherent : Coherent db)
    (ok : ProvOk db gatewayId thread) (kept : statusOf db gatewayId ≠ some .deleting)
    (pending : cardOf db jobId = some ⟨gatewayId, type, .pending⟩) :
    Advances db gatewayId (enqueueThread db thread jobId) := by
  have staged := quiet_updateStage db jobId "queued"
  refine ⟨staged, ?_⟩
  rintro later ⟨⟩
  have own : JobOf db gatewayId jobId := jobOf_of_card pending
  refine ⟨ok.requested.change (.quiet staged), own.change (.quiet staged), ?_, ?_⟩
  · intro _ card found
    have stored := (cardOf_updateStage db jobId "queued" jobId).symm.trans found
    rw [pending] at stored
    cases stored
    cases type with
    | createGateway => rfl
    | deleteGateway => exact absurd (coherent.deleting jobId _ pending rfl rfl) kept
  · intro _ deleting
    exact kept deleting

theorem startThread_advances (coherent : Coherent db) (ok : ProvOk db gatewayId thread) (stale : Bool) :
    Advances db gatewayId (startThread stale db gatewayId thread) := by
  unfold startThread
  cases present : db.gateways.get gatewayId with
  | none => exact advances_end (.refl db)
  | some gateway =>
      simp only
      split
      · exact advances_end (.refl db)
      · rename_i needs
        have kept : statusOf db gatewayId ≠ some .deleting := by
          intro deleting
          rw [statusOf_of_get present] at deleting
          rw [needsProvisioning, Option.some.inj deleting] at needs
          exact needs rfl
        split
        · exact reprepareThread_advances ok kept
        · rename_i job found
          have card := cardOf_of_get found
          split
          · split
            · exact reprepareThread_advances ok kept
            · exact advances_end (.refl db)
          · rename_i pending
            have own := ok.job.2 (cardOfJob job) card
            rw [show cardOfJob job = ⟨gatewayId, job.type, .pending⟩ by rw [← own, ← pending]; rfl] at card
            exact enqueueThread_advances coherent ok kept card
          · exact advances_end (.refl db)
          · exact advances_end (.refl db)

theorem quiet_beginProvisioning (kept : statusOf db gatewayId ≠ some .deleting) (jobId : Nat) :
    Quiet db (beginProvisioning db gatewayId jobId) :=
  (quiet_updateGatewayStatus kept (by decide) none).trans
    (quiet_updateStage _ _ _)

theorem quiet_setExitNode (db : Db) (gatewayId : Nat) (address : Option String) :
    Quiet db (setExitNode db gatewayId address) := by
  obtain ⟨gateways, jobs⟩ := next_setExitNode db gatewayId address
  exact quiet_of_same gateways jobs (statusOf_setExitNode db gatewayId address) (cardOf_setExitNode db gatewayId address)

theorem quiet_setUpPeer (calls : CreatePeerCalls) (db : Db) (gatewayId : Nat) :
    Quiet db (setUpPeer calls db gatewayId) := by
  obtain ⟨gateways, jobs⟩ := setUpPeer_tables calls db gatewayId
  exact quiet_of_same (congrArg Table.next gateways) (congrArg Table.next jobs) (statusOf_setUpPeer calls db gatewayId)
    (cardOf_setUpPeer calls db gatewayId)

theorem provNext_advances (calls : ProvisionCalls) (stale : Bool) (choice : Nat) (coherent : Coherent db)
    (ok : ProvOk db gatewayId thread) : Advances db gatewayId (provNext calls stale choice db gatewayId thread) := by
  have ended : Advances db gatewayId (db, none) := advances_end (.refl db)
  obtain ⟨requested, jobId, pc⟩ := thread
  unfold provNext
  cases pc with
  | started => exact startThread_advances coherent ok stale
  | prepared =>
      dsimp only
      split
      · exact ended
      · rename_i found
        exact enqueueThread_advances coherent ok (ok.window rfl) (pending_some found)
  | queued =>
      dsimp only
      split
      · have begun := ok.quiet_job rfl .running none
        exact advances_to ok (begun.trans (quiet_updateStage _ _ _)) (fun _ => rfl) fun _ => rfl
      · exact ended
  | preparing =>
      dsimp only
      split
      · exact failThread_advances ok rfl (ok.window rfl) _
      · exact failThread_advances ok rfl (ok.window rfl) _
      · exact advances_to ok (quiet_beginProvisioning (ok.window rfl) jobId) (fun _ => rfl) fun _ => rfl
  | launching =>
      dsimp only
      split
      · exact ended
      · exact failThread_advances ok rfl (ok.window rfl) _
      · exact advances_to ok (quiet_updateStage _ _ _) (fun _ => rfl) fun _ => rfl
  | cloudInit =>
      dsimp only
      split
      · exact ended
      · exact advances_to ok (quiet_updateStage _ _ _) (fun _ => rfl) fun _ => rfl
  | agentWait =>
      dsimp only
      split
      · exact advances_to ok (quiet_updateStage _ _ _) (fun _ => rfl) fun _ => rfl
      · split
        · exact ended
        · exact advances_to ok (quiet_updateGatewayStatus (ok.window rfl) (by decide) _) nofun fun _ => rfl
  | registering =>
      dsimp only
      split
      · exact ended
      · exact failThread_advances ok rfl (ok.window rfl) _
      · split
        · exact advances_to ok (quiet_updateGatewayStatus (ok.window rfl) (by decide) _) nofun fun _ => rfl
        · rename_i finalized
          obtain ⟨address, -, rfl⟩ := finalizeExitNode_ok finalized
          have stored := quiet_setExitNode db gatewayId address
          have kept : statusOf (setExitNode db gatewayId address) gatewayId ≠ some .deleting := by
            rw [statusOf_setExitNode]
            exact ok.window rfl
          exact advances_to ok (stored.trans (quiet_updateGatewayStatus kept (by decide) none)) nofun fun _ => rfl
  | ready => exact advances_to ok (quiet_updateStage _ _ _) nofun fun _ => rfl
  | peerSetup => exact advances_to ok (quiet_setUpPeer _ _ _) nofun fun _ => rfl
  | peerDone => exact finishThread_advances ok rfl
  | erred => exact finishThread_advances ok rfl
  | finished => exact ended
  | closing => exact ended

end Provisioning

/-! ### The deletion thread -/

/-- A deletion thread fails no deletion but its own. -/
def DelAdvances (db : Db) (gatewayId : Nat) (result : Db × Option DelThread) : Prop :=
  ∃ fails, Change db result.1 none fails ∧ (∀ other, fails = some other → other = gatewayId) ∧
    ∀ thread, result.2 = some thread → DelOk result.1 gatewayId thread

section Deletion

variable {db after : Db} {gatewayId : Nat} {thread : DelThread}

theorem delAdvances_end (quiet : Quiet db after) : DelAdvances db gatewayId (after, none) :=
  ⟨none, .quiet quiet, nofun, nofun⟩

theorem delAdvances_closing {fails : Option Nat} (ok : DelOk db gatewayId thread) (change : Change db after none fails)
    (own : ∀ other, fails = some other → other = gatewayId) :
    DelAdvances db gatewayId (after, some { thread with pc := .closing }) := by
  refine ⟨fails, change, own, ?_⟩
  rintro later ⟨⟩
  exact ⟨ok.job.change change, by rintro (impossible | impossible) <;> cases impossible⟩

/-- A delete job that is open stays open when its status is written anew. -/
theorem delAdvances_reopened {pc : DelPc} {status : JobStatus} {card : Card} (ok : DelOk db gatewayId thread)
    (found : cardOf db thread.jobId = some card) (opened : isOpen card.status = true) (reopened : isOpen status = true) :
    DelAdvances db gatewayId (updateJobStatus db thread.jobId status none, some { thread with pc }) := by
  have quiet : Quiet db (updateJobStatus db thread.jobId status none) := by
    refine quiet_updateJobStatus ?_ none
    intro other stored _
    rw [found] at stored
    cases stored
    exact ⟨reopened, opened⟩
  refine ⟨none, .quiet quiet, nofun, ?_⟩
  rintro later ⟨⟩
  refine ⟨ok.job.change (.quiet quiet), fun _ => .inl ⟨{ card with status }, ?_, reopened⟩⟩
  rw [cardOf_updateJobStatus, if_pos rfl, found]
  rfl

theorem startDeletionThread_advances (coherent : Coherent db) (ok : DelOk db gatewayId thread) (stale : Bool) :
    DelAdvances db gatewayId (startDeletionThread stale db gatewayId thread) := by
  have ended : DelAdvances db gatewayId (db, none) := delAdvances_end (.refl db)
  unfold startDeletionThread
  split
  · exact ended
  · rename_i job absent found
    -- a job never outlives its gateway
    have card := cardOf_of_get found
    have owner := coherent.owned _ _ card
    rw [ok.job.1.2 _ card, statusOf_isSome, absent] at owner
    cases owner
  · exact ended
  · rename_i gateway job present found
    have card := cardOf_of_get found
    split
    · exact ended
    · split
      · rename_i running
        have opened : isOpen (cardOfJob job).status = true := by
          rw [cardOfJob, running]
          rfl
        split
        · exact delAdvances_reopened ok card opened rfl
        · exact delAdvances_reopened ok card opened rfl
      · rename_i pending
        have opened : isOpen (cardOfJob job).status = true := by
          rw [cardOfJob, pending]
          rfl
        exact delAdvances_reopened ok card opened rfl
      · exact ended
      · exact ended

theorem removed_removeGateway {jobId : Nat} {gateway : Gateway}
    (own : ∀ card, cardOf db jobId = some card → card.gatewayId = gatewayId) :
    Removed db (completeJob (removeGateway db gatewayId gateway) (some jobId)) gatewayId where
  gateways_next := (next_removeGateway db gatewayId gateway).2
  jobs_next := (next_removeGateway db gatewayId gateway).1
  statuses := statusOf_removeGateway db gatewayId gateway
  cards := by
    intro id
    rw [completeJob, cardOf_updateJobStatus, cardOf_removeGateway]
    split
    · rename_i same
      subst same
      cases found : cardOf db id with
      | none => rfl
      | some card => simp [Option.filter, own card found]
    · rfl

theorem failed_failDeletion {jobId : Nat} {card : Card} (job : DeleteJobOf db gatewayId jobId)
    (found : cardOf db jobId = some card) (opened : isOpen card.status = true) (text : String) :
    Failed db (failDeletion db gatewayId jobId text) gatewayId jobId where
  own := by
    intro other stored
    refine ⟨job.1.2 other stored, job.2 other stored, ?_⟩
    rw [found] at stored
    cases stored
    exact opened
  gateways_next := rfl
  jobs_next := rfl
  present := fun _ => by
    rw [found]
    rfl
  statuses := by
    intro id
    rw [failDeletion, statusOf_updateGatewayStatus, statusOf_updateJobStatus]
  cards := by
    intro id
    rw [failDeletion, cardOf_updateGatewayStatus, cardOf_updateJobStatus]

/-- An exception needs the gateway to be there, so its job is there too. -/
theorem present_of_executeDeleteGateway_error {calls : DeletionCalls} {jobId : Option Nat} {error : PyError}
    (raised : executeDeleteGateway calls db gatewayId jobId = .error error) : statusOf db gatewayId ≠ none := by
  intro gone
  have absent := Option.map_eq_none_iff.mp gone
  unfold executeDeleteGateway at raised
  rw [absent] at raised
  cases raised

theorem delNext_advances (calls : DeletionCalls) (stale : Bool) (coherent : Coherent db)
    (ok : DelOk db gatewayId thread) : DelAdvances db gatewayId (delNext calls stale db gatewayId thread) := by
  have ended : DelAdvances db gatewayId (db, none) := delAdvances_end (.refl db)
  obtain ⟨jobId, pc⟩ := thread
  unfold delNext
  cases pc with
  | started => exact startDeletionThread_advances coherent ok stale
  | reset =>
      dsimp only
      split
      · rename_i present
        rcases ok.opened (.inl rfl) with ⟨card, found, opened⟩ | ⟨-, gone⟩
        · exact delAdvances_reopened ok found opened rfl
        · rw [← cardOf_isSome] at present
          obtain ⟨card, found⟩ := Option.isSome_iff_exists.mp present
          have owner := coherent.owned _ card found
          rw [ok.job.1.2 card found, gone] at owner
          cases owner
      · exact ended
  | running =>
      dsimp only
      split
      · rename_i after deleted
        rcases executeDeleteGateway_ok deleted with ⟨absent, rfl⟩ | ⟨gateway, -, rfl⟩
        · refine delAdvances_closing ok (.quiet (quiet_updateJobStatus ?_ none)) nofun
          intro card found
          have owner := coherent.owned _ card found
          rw [ok.job.1.2 card found, statusOf_isSome, absent] at owner
          cases owner
        · exact delAdvances_closing ok (.removed (removed_removeGateway ok.job.1.2)) nofun
      · rename_i error raised
        have present := present_of_executeDeleteGateway_error raised
        rcases ok.opened (.inr rfl) with ⟨card, found, opened⟩ | ⟨-, gone⟩
        · apply delAdvances_closing ok (.failed (failed_failDeletion ok.job found opened error.text))
          rintro other ⟨⟩
          rfl
        · exact absurd gone present
  | closing => exact ended

end Deletion

/-! ### Requests and sweeps -/

theorem settled_of_latest {db : Db} {gatewayId jobId : Nat} {job : Job} (coherent : Coherent db)
    (latest : getLatestDeleteJob db gatewayId = some (jobId, job))
    (ended : ¬(statusOf db gatewayId = some .deleting ∧ isOpen job.status = true)) :
    ∀ other card, cardOf db other = some card → card.gatewayId = gatewayId → card.type = .deleteGateway →
      isOpen card.status = false := by
  intro other card found own type
  by_contra opened
  have isopen : isOpen card.status = true := by simpa using opened
  have deleting := coherent.deleting other card found type isopen
  rw [own] at deleting
  have stored := latestDelete_some latest
  have after := coherent.latest other card found type isopen jobId _ stored own.symm rfl
  have before := latestDelete_le latest found own type
  have same : other = jobId := Nat.le_antisymm before after
  rw [same, stored] at found
  cases found
  exact ended ⟨deleting, isopen⟩

theorem requested_createJob {db marked : Db} {gatewayId : Nat} (present : (statusOf db gatewayId).isSome)
    (settled : ∀ other card, cardOf db other = some card → card.gatewayId = gatewayId → card.type = .deleteGateway →
      isOpen card.status = false)
    (jobs : marked.jobs = db.jobs) (next : marked.gateways.next = db.gateways.next)
    (statuses : ∀ id, statusOf marked id = if id = gatewayId then some .deleting else statusOf db id) :
    Requested db (createJob marked .deleteGateway gatewayId).1 gatewayId db.jobs.next where
  present := present
  settled := settled
  job_id := rfl
  gateways_next := next
  jobs_next := congrArg (fun table => Table.next table + 1) jobs
  statuses := statuses
  cards := by
    intro id
    rw [cardOf_createJob, jobs, cardOf, jobs, cardOf]

theorem Requested.standing_new {db after : Db} {gatewayId jobId : Nat}
    (requested : Requested db after gatewayId jobId) : Standing after gatewayId jobId where
  gateway := by
    obtain ⟨status, present⟩ := Option.isSome_iff_exists.mp requested.present
    rw [requested.gateways_next]
    exact lt_next_of_status present
  job := by
    have fresh := requested.job_id
    have grown := requested.jobs_next
    omega
  outcome := .inr (.inr ⟨by rw [requested.statuses, if_pos rfl], .pending, by rw [requested.cards, if_pos rfl], rfl⟩)

/-- A delete request starts a deletion or finds one under way. -/
theorem requestDeleteGateway_change {db after : Db} {gatewayId jobId : Nat} (coherent : Coherent db)
    (requested : requestDeleteGateway db gatewayId = .ok (after, jobId)) :
    ∃ starts, Change db after starts none ∧ (starts = none ∨ starts = some gatewayId) ∧
      Standing after gatewayId jobId ∧ DeleteJobOf after gatewayId jobId := by
  have started {other : Nat} (effect : Requested db after gatewayId other) (same : other = jobId) :
      ∃ starts, Change db after starts none ∧ (starts = none ∨ starts = some gatewayId) ∧
        Standing after gatewayId jobId ∧ DeleteJobOf after gatewayId jobId := by
    subst same
    have newest := deleteJobOf_of_card ((effect.cards other).trans (if_pos rfl))
    exact ⟨some gatewayId, .requested effect, .inr rfl, effect.standing_new, newest⟩
  unfold requestDeleteGateway at requested
  cases present : db.gateways.get gatewayId with
  | none =>
      rw [present] at requested
      cases requested
  | some gateway =>
      have status := statusOf_of_get present
      have marked : ∀ id, statusOf (updateGatewayStatus db gatewayId .deleting none) id =
          if id = gatewayId then some .deleting else statusOf db id := by
        intro id
        rw [statusOf_updateGatewayStatus]
        split
        · rename_i same
          rw [same, status]
          rfl
        · rfl
      have exists_ : (statusOf db gatewayId).isSome := by
        rw [status]
        rfl
      simp only [present] at requested
      cases latest : getLatestDeleteJob db gatewayId with
      | none =>
          simp only [latest, Except.ok.injEq] at requested
          obtain ⟨rfl, rfl⟩ := requested
          refine started (requested_createJob exists_ ?_ rfl rfl marked) rfl
          intro other card found own type
          rw [latestDelete_none latest found own] at type
          cases type
      | some entry =>
          obtain ⟨existingId, existing⟩ := entry
          have stored := latestDelete_some latest
          simp only [latest] at requested
          split at requested
          · rename_i ongoing
            simp only [Except.ok.injEq, Prod.mk.injEq] at requested
            obtain ⟨rfl, rfl⟩ := requested
            refine ⟨none, .quiet (.refl _), .inl rfl, ⟨lt_next_of_status status, lt_next_of_card stored, .inr (.inr ?_)⟩,
              deleteJobOf_of_card stored⟩
            refine ⟨by rw [status, ongoing.1], existing.status, stored, ?_⟩
            rcases ongoing.2 with pending | running
            · rw [pending]
              rfl
            · rw [running]
              rfl
          · rename_i finished
            have settled := settled_of_latest coherent latest (by
              rintro ⟨deleting, opened⟩
              rw [status] at deleting
              refine finished ⟨Option.some.inj deleting, ?_⟩
              cases job : existing.status <;> simp_all [isOpen])
            split at requested
            · rename_i pending
              have ended := settled existingId _ stored rfl rfl
              simp only [pending, isOpen] at ended
              cases ended
            · simp only [Except.ok.injEq] at requested
              obtain ⟨rfl, rfl⟩ := requested
              exact started (requested_createJob exists_ settled rfl rfl marked) rfl

/-- What a request or sweep does up to its next commit starts a deletion at most of a gateway that is deleting. -/
structure Yields (db : Db) (outcome : Outcome) (starts : Option Nat) : Prop where
  change : Change db outcome.db starts none
  deleting : ∀ gatewayId, starts = some gatewayId → statusOf db gatewayId = some .deleting
  start : ∀ start, outcome.start = some start → StartOk outcome.db start
  task : ∀ task, outcome.task = some task → TaskOk outcome.db task

section Tasks

variable {db : Db} {gatewayId : Nat}

theorem yields_rest {start : Option Start} {task : Option Task} (startOk : ∀ value, start = some value → StartOk db value)
    (taskOk : ∀ value, task = some value → TaskOk db value) : Yields db ⟨db, start, task⟩ none :=
  ⟨.quiet (.refl db), nofun, startOk, taskOk⟩

theorem startPending_ok {choice : Nat} : ∀ start, startPending db gatewayId choice = some start → StartOk db start := by
  intro start started
  obtain ⟨jobId, type, rfl, found⟩ := startPending_some started
  exact jobOf_of_card found

theorem prepareThen_yields {task : Task} (harmless : ∀ db, TaskOk db task) :
    Yields db (prepareThen db gatewayId task) none := by
  unfold prepareThen
  split
  · exact yields_rest nofun nofun
  · rename_i after prepared
    obtain ⟨jobId, effect⟩ := prepareProvisioning_ok prepared
    refine ⟨.quiet effect.quiet, nofun, nofun, ?_⟩
    rintro later ⟨⟩
    exact harmless after

theorem startIfPresent_yields {jobId : Nat} {start : Start} {task : Option Task} (startOk : StartOk db start)
    (taskOk : ∀ value, task = some value → TaskOk db value) : Yields db (startIfPresent db jobId start task) none := by
  unfold startIfPresent
  split
  · refine yields_rest ?_ taskOk
    rintro value ⟨⟩
    exact startOk
  · exact yields_rest nofun nofun

theorem retryNext_yields : Yields db (retryNext db gatewayId) none := by
  have nothing : Yields db ⟨db, none, none⟩ none := yields_rest nofun nofun
  unfold retryNext
  split
  · exact nothing
  · split
    · exact nothing
    · split
      · exact prepareThen_yields fun _ => trivial
      · rename_i jobId job latest
        split
        · exact prepareThen_yields fun _ => trivial
        · split
          · refine yields_rest ?_ nofun
            rintro value ⟨⟩
            exact jobOf_of_card (latestCreate_some latest)
          · exact nothing

theorem sweepVisit_yields {active : Nat → Bool} {todo : List Nat} :
    Yields db (sweepVisit active db gatewayId todo) none := by
  have next : Yields db ⟨db, none, some (.sweep todo)⟩ none := by
    refine yields_rest nofun ?_
    rintro value ⟨⟩
    trivial
  unfold sweepVisit
  split
  · exact yields_rest nofun nofun
  · split
    · exact next
    · split
      · exact prepareThen_yields fun _ => trivial
      · rename_i jobId latest found
        split
        · exact prepareThen_yields fun _ => trivial
        · apply yields_rest
          · rintro value ⟨⟩
            exact jobOf_of_card (latestCreate_some found)
          · rintro value ⟨⟩
            trivial
        · exact next
        · exact next

theorem deletionVisit_yields {active : Nat → Bool} {stale : Bool} {todo : List Nat} :
    ∃ starts, Yields db (deletionVisit active stale db gatewayId todo) starts := by
  have next : ∃ starts, Yields db ⟨db, none, some (.deletionSweep todo)⟩ starts := by
    refine ⟨none, yields_rest nofun ?_⟩
    rintro value ⟨⟩
    trivial
  unfold deletionVisit
  cases present : db.gateways.get gatewayId with
  | none => exact ⟨none, yields_rest nofun nofun⟩
  | some gateway =>
      simp only
      split
      · exact next
      · rename_i idle
        rw [not_or, not_not] at idle
        have deleting : statusOf db gatewayId = some .deleting := by rw [statusOf_of_get present, idle.1]
        cases latest : getLatestDeleteJob db gatewayId with
        | none =>
            have effect : Requested db (createJob db .deleteGateway gatewayId).1 gatewayId db.jobs.next := by
              refine requested_createJob (by rw [deleting]; rfl) ?_ rfl rfl ?_
              · intro other card found own type
                rw [latestDelete_none latest found own] at type
                cases type
              · intro id
                split
                · rename_i same
                  rw [same, deleting]
                · rfl
            refine ⟨some gatewayId, .requested effect, ?_, nofun, ?_⟩
            · rintro other ⟨⟩
              exact deleting
            · rintro value ⟨⟩
              exact deleteJobOf_of_card (by rw [effect.cards]; exact if_pos rfl)
        | some entry =>
            obtain ⟨jobId, job⟩ := entry
            have stored := latestDelete_some latest
            simp only
            split
            · rename_i running
              split
              · have quiet : Quiet db (updateJobStatus db jobId .pending none) := by
                  refine quiet_updateJobStatus ?_ none
                  intro card found _
                  rw [stored] at found
                  cases found
                  simp only [running]
                  exact ⟨rfl, rfl⟩
                refine ⟨none, .quiet quiet, nofun, nofun, ?_⟩
                rintro value ⟨⟩
                exact (deleteJobOf_of_card stored).change (.quiet quiet)
              · exact next
            · refine ⟨none, yields_rest ?_ ?_⟩
              · rintro value ⟨⟩
                exact deleteJobOf_of_card stored
              · rintro value ⟨⟩
                trivial
            · exact next
            · exact next

theorem taskNext_yields {task : Task} (ok : TaskOk db task) (provActive delActive : Nat → Bool) (stale : Bool)
    (choice : Nat) : ∃ starts, Yields db (taskNext provActive delActive stale choice db task) starts := by
  have ended : Yields db ⟨db, none, none⟩ none := yields_rest nofun nofun
  cases task with
  | createTail gatewayId jobId => exact ⟨none, startIfPresent_yields ok nofun⟩
  | retryTail gatewayId => exact ⟨none, yields_rest startPending_ok nofun⟩
  | deleteTail gatewayId jobId => exact ⟨none, startIfPresent_yields ok nofun⟩
  | sweep todo =>
      cases todo with
      | nil => exact ⟨none, ended⟩
      | cons gatewayId todo => exact ⟨none, sweepVisit_yields⟩
  | sweepTail gatewayId todo =>
      refine ⟨none, ?_⟩
      simp only [taskNext]
      split
      · rename_i start started
        apply yields_rest
        · rintro value ⟨⟩
          exact startPending_ok start started
        · rintro value ⟨⟩
          trivial
      · exact prepareThen_yields fun _ => trivial
  | sweepStart gatewayId todo =>
      refine ⟨none, yields_rest startPending_ok ?_⟩
      rintro value ⟨⟩
      trivial
  | deletionSweep todo =>
      cases todo with
      | nil => exact ⟨none, ended⟩
      | cons gatewayId todo => exact deletionVisit_yields
  | deletionTail gatewayId jobId todo =>
      simp only [taskNext]
      split
      · exact ⟨none, ended⟩
      · split
        · refine ⟨none, yields_rest ?_ ?_⟩
          · rintro value ⟨⟩
            exact ok
          · rintro value ⟨⟩
            trivial
        · refine ⟨none, yields_rest nofun ?_⟩
          rintro value ⟨⟩
          trivial
  | deletionStart gatewayId jobId todo =>
      refine ⟨none, startIfPresent_yields ok ?_⟩
      rintro value ⟨⟩
      trivial

end Tasks

/-! ### Runs -/

/-- No delete request meets a thread of its gateway that has checked the status and will still write it, and no
exception of a provisioning is recorded once its gateway is deleting. -/
def Uncontested (s : State) : Event → Prop
  | .requestDelete gatewayId => ∀ thread, s.prov gatewayId = some thread → thread.pc.willWrite = false
  | .provRaise gatewayId _ => statusOf s.db gatewayId ≠ some .deleting
  | _ => True

section Steps

variable {s : State}

theorem inv_initial (initial : Initial s) : Inv s where
  coherent := by
    have empty : ∀ jobId card, cardOf s.db jobId ≠ some card := by
      intro jobId card found
      rw [cardOf, initial.jobs jobId] at found
      cases found
    exact ⟨fun _ _ found => absurd found (empty _ _), fun _ _ found => absurd found (empty _ _),
      fun _ _ found => absurd found (empty _ _)⟩
  prov := by
    intro gatewayId thread active
    rw [initial.prov gatewayId] at active
    cases active
  del := by
    intro gatewayId thread active
    rw [initial.del gatewayId] at active
    cases active
  tasks := by
    intro id task found
    rw [initial.tasks id] at found
    cases found

theorem Inv.withDb {after : Db} {starts : Option Nat} (inv : Inv s) (change : Change s.db after starts none)
    (clear : ∀ gatewayId thread, starts = some gatewayId → s.prov gatewayId = some thread →
      thread.pc.willWrite = false) : Inv { s with db := after } where
  coherent := change.coherent inv.coherent
  prov := fun gatewayId thread active =>
    (inv.prov gatewayId thread active).change change fun started => clear gatewayId thread started active
  del := fun gatewayId thread active => (inv.del gatewayId thread active).change inv.coherent change nofun
  tasks := fun id task found => (inv.tasks id task found).change change

theorem Inv.setProv {gatewayId : Nat} {result : Db × Option ProvThread} (inv : Inv s)
    (advances : Advances s.db gatewayId result) : Inv (s.setProv gatewayId result) where
  coherent := advances.1.coherent inv.coherent
  prov := by
    intro other thread active
    obtain ⟨rfl, own⟩ | ⟨-, before⟩ := prov_setProv_some active
    · exact advances.2 thread own
    · exact (inv.prov other thread before).change (.quiet advances.1) nofun
  del := fun other thread active => (inv.del other thread active).change inv.coherent (.quiet advances.1) nofun
  tasks := fun id task found => (inv.tasks id task found).change (.quiet advances.1)

theorem Inv.setDel {gatewayId : Nat} {result : Db × Option DelThread} (inv : Inv s)
    (advances : DelAdvances s.db gatewayId result) : Inv (s.setDel gatewayId result) := by
  obtain ⟨fails, change, own, ok⟩ := advances
  refine ⟨change.coherent inv.coherent, fun other thread active => (inv.prov other thread active).change change nofun,
    ?_, fun id task found => (inv.tasks id task found).change change⟩
  intro other thread active
  obtain ⟨rfl, mine⟩ | ⟨different, before⟩ := del_setDel_some active
  · exact ok thread mine
  · exact (inv.del other thread before).change inv.coherent change fun failed => different (own other failed)

theorem Inv.startThread {start : Option Start} (inv : Inv s)
    (ok : ∀ value, start = some value → StartOk s.db value) : Inv (s.startThread start) where
  coherent := by
    rw [db_startThread]
    exact inv.coherent
  prov := by
    intro gatewayId thread active
    rw [db_startThread]
    obtain before | ⟨jobId, started, rfl⟩ := prov_startThread_some active
    · exact inv.prov gatewayId thread before
    · have job : JobOf s.db gatewayId jobId := ok _ started
      exact ⟨job, job, nofun, nofun⟩
  del := by
    intro gatewayId thread active
    rw [db_startThread]
    obtain before | ⟨jobId, started, rfl⟩ := del_startThread_some active
    · exact inv.del gatewayId thread before
    · exact ⟨ok _ started, by rintro (impossible | impossible) <;> cases impossible⟩
  tasks := by
    intro id task found
    rw [tasks_startThread] at found
    rw [db_startThread]
    exact inv.tasks id task found

/-- The database and the threads stay, and a task that is new is fine. -/
theorem Inv.tasked {t : State} (inv : Inv s) (db : t.db = s.db) (prov : t.prov = s.prov) (del : t.del = s.del)
    (tasks : ∀ id task, t.tasks.get id = some task → s.tasks.get id = some task ∨ TaskOk s.db task) : Inv t := by
  refine ⟨?_, ?_, ?_, ?_⟩
  · rw [db]
    exact inv.coherent
  · rw [db, prov]
    exact inv.prov
  · rw [db, del]
    exact inv.del
  · intro id task found
    rw [db]
    exact (tasks id task found).elim (inv.tasks id task) fun fine => fine

theorem Inv.addTask {task : Option Task} (inv : Inv s) (ok : ∀ value, task = some value → TaskOk s.db value) :
    Inv (s.addTask task) := by
  apply inv.tasked (db_addTask s task) (prov_addTask s task) (del_addTask s task)
  intro id value found
  exact (tasks_addTask_some found).imp_right (ok value)

theorem Inv.setTask {id : Nat} {task : Option Task} (inv : Inv s)
    (ok : ∀ value, task = some value → TaskOk s.db value) : Inv (s.setTask id task) := by
  apply inv.tasked (db_setTask s id task) (prov_setTask s id task) (del_setTask s id task)
  intro other value found
  exact (tasks_setTask_some found).imp_right (ok value)

/-- A gateway that is deleting has no thread that will still write its status. -/
theorem Inv.clear {starts : Option Nat} (inv : Inv s)
    (deleting : ∀ gatewayId, starts = some gatewayId → statusOf s.db gatewayId = some .deleting) :
    ∀ gatewayId thread, starts = some gatewayId → s.prov gatewayId = some thread → thread.pc.willWrite = false := by
  intro gatewayId thread started active
  by_contra writes
  exact (inv.prov gatewayId thread active).window (by simpa using writes) (deleting gatewayId started)

/-- An uncontested step keeps the invariant and makes one of the known changes to the database. -/
theorem step_kept {event : Event} {t : State} (inv : Inv s) (permitted : Uncontested s event)
    (stepped : step s event = some t) : Inv t ∧ ∃ starts fails, Change s.db t.db starts fails := by
  have same : ∃ starts fails, Change s.db s.db starts fails := ⟨none, none, .quiet (.refl _)⟩
  cases event with
  | create calls request =>
      simp only [step] at stepped
      split at stepped
      · cases stepped
        exact ⟨inv, same⟩
      · rename_i db gatewayId jobId created
        cases stepped
        obtain ⟨effect⟩ := createGateway_ok created
        have quiet := quiet_created effect
        refine ⟨(inv.withDb (.quiet quiet) nofun).addTask ?_, none, none, by simpa using Change.quiet quiet⟩
        rintro value ⟨⟩
        exact jobOf_of_card (by rw [cardOf_created effect, if_pos effect.job_id])
  | retry gatewayId =>
      cases stepped
      have yields : Yields s.db (retryNext s.db gatewayId) none := retryNext_yields
      refine ⟨((inv.withDb yields.change nofun).addTask yields.task).startThread ?_, none, none, by
        simpa using yields.change⟩
      simpa using yields.start
  | requestDelete gatewayId =>
      simp only [step] at stepped
      split at stepped
      · cases stepped
        exact ⟨inv, same⟩
      · rename_i db jobId requested
        cases stepped
        obtain ⟨starts, change, own, -, job⟩ := requestDeleteGateway_change inv.coherent requested
        refine ⟨(inv.withDb change ?_).addTask ?_, starts, none, by simpa using change⟩
        · intro other thread started active
          rcases own with none_ | mine
          · rw [none_] at started
            cases started
          · rw [mine] at started
            cases started
            exact permitted thread active
        · rintro value ⟨⟩
          exact job
  | beginSweep =>
      cases stepped
      refine ⟨inv.addTask ?_, same⟩
      rintro value ⟨⟩
      trivial
  | beginDeletionSweep =>
      cases stepped
      refine ⟨inv.addTask ?_, same⟩
      rintro value ⟨⟩
      trivial
  | task id stale choice =>
      obtain ⟨task, found, rfl⟩ := Option.map_eq_some_iff.mp stepped
      obtain ⟨starts, yields⟩ := taskNext_yields (inv.tasks id task found) (fun g => (s.prov g).isSome)
        (fun g => (s.del g).isSome) stale choice
      refine ⟨((inv.withDb yields.change (inv.clear yields.deleting)).setTask yields.task).startThread ?_, starts, none,
        by simpa using yields.change⟩
      simpa using yields.start
  | taskStop id =>
      obtain ⟨task, found, rfl⟩ := Option.map_eq_some_iff.mp stepped
      exact ⟨inv.setTask nofun, same⟩
  | prov gatewayId stale choice calls =>
      obtain ⟨thread, active, rfl⟩ := Option.map_eq_some_iff.mp stepped
      have advances := provNext_advances calls stale choice inv.coherent (inv.prov gatewayId thread active)
      exact ⟨inv.setProv advances, none, none, .quiet advances.1⟩
  | provRaise gatewayId text =>
      obtain ⟨thread, active, raised⟩ := Option.bind_eq_some_iff.mp stepped
      split at raised
      · rename_i inside
        cases raised
        have holds : thread.pc.hasJob = true := by
          cases pc : thread.pc <;> simp_all [ProvPc.inTry, ProvPc.hasJob]
        have advances := failThread_advances (inv.prov gatewayId thread active) holds permitted text
        exact ⟨inv.setProv advances, none, none, .quiet advances.1⟩
      · cases raised
  | provStop gatewayId =>
      obtain ⟨thread, active, rfl⟩ := Option.map_eq_some_iff.mp stepped
      exact ⟨inv.setProv (advances_end (.refl _)), same⟩
  | provRestart gatewayId =>
      obtain ⟨thread, active, rfl⟩ := Option.map_eq_some_iff.mp stepped
      have requested := (inv.prov gatewayId thread active).requested
      refine ⟨inv.setProv ⟨.refl _, ?_⟩, same⟩
      rintro later ⟨⟩
      exact ⟨requested, requested, nofun, nofun⟩
  | del gatewayId stale calls =>
      obtain ⟨thread, active, rfl⟩ := Option.map_eq_some_iff.mp stepped
      have advances := delNext_advances calls stale inv.coherent (inv.del gatewayId thread active)
      obtain ⟨fails, change, own⟩ := advances
      exact ⟨inv.setDel ⟨fails, change, own⟩, none, fails, change⟩
  | delStop gatewayId =>
      obtain ⟨thread, active, rfl⟩ := Option.map_eq_some_iff.mp stepped
      exact ⟨inv.setDel (delAdvances_end (.refl _)), same⟩
  | delRestart gatewayId =>
      obtain ⟨thread, active, rfl⟩ := Option.map_eq_some_iff.mp stepped
      have job := (inv.del gatewayId thread active).job
      refine ⟨inv.setDel ⟨none, .quiet (.refl _), nofun, ?_⟩, same⟩
      rintro later ⟨⟩
      exact ⟨job, by rintro (impossible | impossible) <;> cases impossible⟩
  | crash =>
      cases stepped
      exact ⟨⟨inv.coherent, nofun, nofun, nofun⟩, same⟩

end Steps

theorem inv_of_reaches {start s : State} (initial : Initial start) (reached : Reaches step Uncontested start s) :
    Inv s :=
  reached.invariant (inv_initial initial) fun _ _ _ inv permitted stepped => (step_kept inv permitted stepped).1

theorem standing_of_reaches {s t : State} {gatewayId jobId : Nat} (inv : Inv s)
    (standing : Standing s.db gatewayId jobId) (ran : Reaches step Uncontested s t) :
    Inv t ∧ Standing t.db gatewayId jobId := by
  induction ran with
  | refl => exact ⟨inv, standing⟩
  | tail _ next earlier =>
      obtain ⟨event, permitted, stepped⟩ := next
      obtain ⟨inv', starts, fails, change⟩ := step_kept earlier.1 permitted stepped
      exact ⟨inv', change.standing earlier.1.coherent earlier.2⟩

/-- After an uncontested delete request the gateway is deleting until its row is gone or the job has failed. -/
theorem requested_deletion_stands {start s requested t : State} {gatewayId jobId : Nat} {db : Db}
    (initial : Initial start) (reached : Reaches step Uncontested start s)
    (accepted : requestDeleteGateway s.db gatewayId = .ok (db, jobId))
    (permitted : Uncontested s (.requestDelete gatewayId))
    (stepped : step s (.requestDelete gatewayId) = some requested) (ran : Reaches step Uncontested requested t) :
    Stands t.db gatewayId jobId := by
  have inv := inv_of_reaches initial reached
  have inv' := (step_kept inv permitted stepped).1
  have standing : Standing requested.db gatewayId jobId := by
    obtain ⟨_, -, -, standing, -⟩ := requestDeleteGateway_change inv.coherent accepted
    simp only [step, accepted, Option.some.injEq] at stepped
    rw [← stepped, db_addTask]
    exact standing
  exact (standing_of_reaches inv' standing ran).2.stands

/-! ### Requests before and after the check -/

/-- The request arrives while the thread is still to check the status. -/
theorem deletion_before_check_stands :
    ∃ s db requested t, Reaches step Uncontested oneWorker s ∧ requestDeleteGateway s.db 1 = .ok (db, 2) ∧
      step s (.requestDelete 1) = some requested ∧ Reaches step Uncontested requested t ∧ t.prov 1 = none ∧
      statusOf t.db 1 = some .deleting ∧ Stands t.db 1 2 := by
  let before : List Event := [createFirst, .task 1 false 0]
  let check (s : State) : Event → Bool
    | .requestDelete gatewayId => (s.prov gatewayId).all fun thread => !thread.pc.willWrite
    | .provRaise gatewayId _ => statusOf s.db gatewayId ≠ some .deleting
    | _ => true
  have sound : ∀ s event, check s event = true → Uncontested s event := by
    intro s event checked
    cases event with
    | requestDelete gatewayId =>
        intro thread active
        simpa [check, active] using checked
    | provRaise gatewayId text =>
        have kept : statusOf s.db gatewayId ≠ some .deleting := of_decide_eq_true checked
        exact kept
    | _ => trivial
  have ran : (Lib.run step check oneWorker before).any (fun s =>
      (step s (.requestDelete 1)).any (fun requested => check s (.requestDelete 1) &&
        (match requestDeleteGateway s.db 1 with
          | .ok (_, jobId) => jobId = 2
          | .error _ => false) &&
        (Lib.run step check requested [advanceFirst, .retry 1, .task 2 false 0, .del 1 false ⟨.ok (), .ok ()⟩]).any
          (fun t => t.prov 1 = none && statusOf t.db 1 = some .deleting))) = true := by
    decide +kernel
  obtain ⟨s, arrived, later⟩ := Lib.exists_of_any ran
  obtain ⟨requested, stepped, facts⟩ := Lib.exists_of_any later
  simp only [Bool.and_eq_true] at facts
  obtain ⟨⟨permitted, accepted⟩, final⟩ := facts
  obtain ⟨t, ended, state⟩ := Lib.exists_of_any final
  simp only [Bool.and_eq_true, decide_eq_true_eq] at state
  have reached := Lib.reaches_of_run sound arrived
  have continued := Lib.reaches_of_run sound ended
  split at accepted
  · rename_i db jobId answer
    have job : jobId = 2 := of_decide_eq_true accepted
    subst job
    exact ⟨s, db, requested, t, reached, answer, stepped, continued, state.1, state.2,
      requested_deletion_stands oneWorker_initial reached answer (sound _ _ permitted) stepped continued⟩
  · cases accepted

/-- The thread has checked the status and is about to start its job when the request commits. -/
theorem deletion_after_check_undone :
    ∃ start s db requested t, Initial start ∧ Reaches step (fun _ _ => True) start s ∧
      requestDeleteGateway s.db 1 = .ok (db, 2) ∧ step s (.requestDelete 1) = some requested ∧
      Reaches step (fun _ _ => True) requested t ∧ statusOf t.db 1 = some .provisioning ∧ ¬Stands t.db 1 2 := by
  have ran : (Lib.run step (fun _ _ => true) oneWorker [createFirst, .task 1 false 0, advanceFirst]).any (fun s =>
      (step s (.requestDelete 1)).any (fun requested =>
        (match requestDeleteGateway s.db 1 with
          | .ok (_, jobId) => jobId = 2
          | .error _ => false) &&
        (Lib.run step (fun _ _ => true) requested [advanceFirst, advanceFirst]).any
          (fun t => statusOf t.db 1 = some .provisioning && cardOf t.db 2 = some ⟨1, .deleteGateway, .pending⟩))) =
      true := by
    decide +kernel
  obtain ⟨s, arrived, later⟩ := Lib.exists_of_any ran
  obtain ⟨requested, stepped, facts⟩ := Lib.exists_of_any later
  obtain ⟨accepted, final⟩ := Bool.and_eq_true_iff.mp facts
  obtain ⟨t, ended, state⟩ := Lib.exists_of_any final
  simp only [Bool.and_eq_true, decide_eq_true_eq] at state
  obtain ⟨status, job⟩ := state
  split at accepted
  · rename_i db jobId answer
    have same : jobId = 2 := of_decide_eq_true accepted
    subst same
    refine ⟨oneWorker, s, db, requested, t, oneWorker_initial, Lib.reaches_of_run (fun _ _ _ => trivial) arrived,
      answer, stepped, Lib.reaches_of_run (fun _ _ _ => trivial) ended, status, ?_⟩
    rintro (gone | ⟨card, found, failed⟩ | deleting)
    · rw [status] at gone
      cases gone
    · rw [job] at found
      cases found
      cases failed
    · rw [status] at deleting
      cases deleting
  · cases accepted

end DeepOrc.Workers
