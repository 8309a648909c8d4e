import DeepOrc.Workers.JobTypes

/-!
# What is left of a deletion

The job of a deletion is a child of the gateway it deletes: the cascade takes it along before it is completed.
-/

namespace DeepOrc.Workers

open Models Repositories Services
open Lib (Table Reaches)

/-- `GET /jobs/{job_id}` -/
def getJob (db : Db) (jobId : Nat) : Except (Nat × String) Job :=
  match db.jobs.get jobId with
  | none => .error (404, "Job not found")
  | some job => .ok job

structure DeletionRecorded (db : Db) (gatewayId jobId : Nat) : Prop where
  gateway : db.gateways.get gatewayId = none
  job : ∃ job, getJob db jobId = .ok job ∧ job.status = .completed

theorem getJob_ok_iff {db : Db} {jobId : Nat} {job : Job} : getJob db jobId = .ok job ↔ db.jobs.get jobId = some job := by
  unfold getJob
  cases db.jobs.get jobId <;> simp

theorem get_completeJob (db : Db) (jobId : Nat) :
    (completeJob db (some jobId)).jobs.get jobId =
      (db.jobs.get jobId).map fun row => { row with status := .completed, error := none.or row.error } :=
  (get_updateJobStatus db jobId .completed none jobId).trans (if_pos rfl)

theorem job_removeGateway (db : Db) (gatewayId : Nat) (gateway : Gateway) (jobId : Nat) :
    (removeGateway db gatewayId gateway).jobs.get jobId =
      (db.jobs.get jobId).filter fun job => !decide (job.gatewayId = gatewayId) := by
  simp only [removeGateway, deleteGateway, Table.get_deleteWhere, jobs_releases]

theorem job_completed_iff (db : Db) (jobId : Nat) :
    (∃ job, getJob (completeJob db (some jobId)) jobId = .ok job ∧ job.status = .completed) ↔
      (db.jobs.get jobId).isSome = true := by
  simp only [getJob_ok_iff, get_completeJob]
  cases db.jobs.get jobId <;> simp

/-- The gateway is gone and the job is completed exactly if the job was there and no child of the gateway. -/
theorem deletion_recorded_iff {calls : DeletionCalls} {db after : Db} {gatewayId jobId : Nat}
    (deleted : executeDeleteGateway calls db gatewayId (some jobId) = .ok after) :
    DeletionRecorded after gatewayId jobId ↔
      ∃ job, db.jobs.get jobId = some job ∧ (job.gatewayId = gatewayId → db.gateways.get gatewayId = none) := by
  rcases executeDeleteGateway_ok deleted with ⟨absent, rfl⟩ | ⟨gateway, present, rfl⟩
  · have gone : (completeJob db (some jobId)).gateways.get gatewayId = none := by
      rw [gateways_completeJob]
      exact absent
    constructor
    · intro recorded
      obtain ⟨job, stored⟩ := Option.isSome_iff_exists.mp ((job_completed_iff db jobId).mp recorded.job)
      exact ⟨job, stored, fun _ => absent⟩
    · intro stored
      obtain ⟨job, found, -⟩ := stored
      exact ⟨gone, (job_completed_iff db jobId).mpr (by rw [found]; rfl)⟩
  · have gone : (completeJob (removeGateway db gatewayId gateway) (some jobId)).gateways.get gatewayId = none := by
      rw [gateways_completeJob, gateways_removeGateway, Table.get_delete_self]
    have kept : ((removeGateway db gatewayId gateway).jobs.get jobId).isSome = true ↔
        ∃ job, db.jobs.get jobId = some job ∧ (job.gatewayId = gatewayId → db.gateways.get gatewayId = none) := by
      rw [job_removeGateway, present]
      cases db.jobs.get jobId with
      | none => simp
      | some job => by_cases own : job.gatewayId = gatewayId <;> simp [own]
    rw [← kept, ← job_completed_iff]
    exact ⟨fun recorded => recorded.job, fun job => ⟨gone, job⟩⟩

/-- No deletion of a run is recorded: the job of a deletion thread belongs to its gateway. -/
theorem deletion_never_recorded {start s : State} {calls : DeletionCalls} {after : Db} {gatewayId : Nat}
    {thread : DelThread} (initial : Initial start) (reached : Reaches step (fun _ _ => True) start s)
    (active : s.del gatewayId = some thread) (present : s.db.gateways.get gatewayId ≠ none)
    (deleted : executeDeleteGateway calls s.db gatewayId (some thread.jobId) = .ok after) :
    ¬ DeletionRecorded after gatewayId thread.jobId := by
  intro recorded
  rcases executeDeleteGateway_ok deleted with ⟨absent, -⟩ | ⟨gateway, -, rfl⟩
  · exact present absent
  · have left := (job_completed_iff _ _).mp recorded.job
    rw [job_removeGateway] at left
    obtain ⟨job, kept⟩ := Option.isSome_iff_exists.mp left
    obtain ⟨stored, foreign⟩ := Option.filter_eq_some_iff.mp kept
    have typed : Typed False s := typed_of_reaches initial (reached.mono fun _ _ _ => False.elim)
    have own : job.gatewayId = gatewayId := ((typed.del gatewayId thread active).2 _ (cardOf_of_get stored)).1
    simp [own] at foreign

def quietDeletion : DeletionCalls := ⟨.ok (), .ok ()⟩

theorem deleted_job_unknown :
    ∃ start s after, Initial start ∧ Reaches step (fun _ _ => True) start s ∧ s.del 1 = some ⟨2, .running⟩ ∧
      executeDeleteGateway quietDeletion s.db 1 (some 2) = .ok after ∧
      getJob after 2 = .error (404, "Job not found") ∧ ¬ DeletionRecorded after 1 2 := by
  have ran : (Lib.run step (fun _ _ => true) oneWorker
      [createFirst, .requestDelete 1, .task 2 false 0, .del 1 false quietDeletion]).any (fun s =>
        decide (s.del 1 = some ⟨2, .running⟩) &&
          (executeDeleteGateway quietDeletion s.db 1 (some 2)).toOption.any fun after =>
            decide (after.jobs.get 2 = none)) = true := by
    decide +kernel
  obtain ⟨s, arrived, facts⟩ := Lib.exists_of_any ran
  obtain ⟨running, outcome⟩ := (Bool.and_eq_true _ _).mp facts
  obtain ⟨after, committed, erased⟩ := Lib.exists_of_any outcome
  have gone := of_decide_eq_true erased
  have unknown : getJob after 2 = .error (404, "Job not found") := by
    unfold getJob
    rw [gone]
  have deleted : executeDeleteGateway quietDeletion s.db 1 (some 2) = .ok after := by
    cases result : executeDeleteGateway quietDeletion s.db 1 (some 2) with
    | error error =>
        rw [result] at committed
        cases committed
    | ok db =>
        rw [result] at committed
        cases committed
        rfl
  refine ⟨oneWorker, s, after, oneWorker_initial, Lib.reaches_of_run (fun _ _ _ => trivial) arrived,
    of_decide_eq_true running, deleted, unknown, ?_⟩
  intro recorded
  obtain ⟨job, found, -⟩ := recorded.job
  rw [unknown] at found
  cases found

def createSecond : Event := .create ⟨0, 2661, .ok ()⟩ ⟨some "b", none, some 1⟩

/-- Under the job of another gateway the outcome can be read. -/
theorem foreign_job_completed :
    ∃ db after, (db.gateways.get 1).isSome = true ∧ executeDeleteGateway quietDeletion db 1 (some 2) = .ok after ∧
      DeletionRecorded after 1 2 := by
  have ran : (Lib.run step (fun _ _ => true) oneWorker [createFirst, createSecond]).any (fun s =>
      decide ((s.db.gateways.get 1).isSome = true) && decide ((s.db.jobs.get 2).map Job.gatewayId = some 2) &&
        (executeDeleteGateway quietDeletion s.db 1 (some 2)).isOk) = true := by
    decide +kernel
  obtain ⟨s, -, facts⟩ := Lib.exists_of_any ran
  simp only [Bool.and_eq_true] at facts
  obtain ⟨⟨present, foreign⟩, committed⟩ := facts
  obtain ⟨job, stored, owner⟩ := Option.map_eq_some_iff.mp (of_decide_eq_true foreign)
  cases deleted : executeDeleteGateway quietDeletion s.db 1 (some 2) with
  | error error =>
      rw [deleted] at committed
      cases committed
  | ok after =>
      refine ⟨s.db, after, of_decide_eq_true present, deleted, (deletion_recorded_iff deleted).mpr ⟨job, stored, ?_⟩⟩
      intro own
      omega

end DeepOrc.Workers
