import DeepOrc.Lib.Machine
import DeepOrc.Services.GatewayProvisioning

/-!
# The provisioning and deletion workers at commit granularity

What a session does between two of its commits happens at once; between them every other thread, sweep
and request may commit. A thread stands at its last commit, and the sets of active threads are the
threads there are.
-/

namespace DeepOrc.Workers

open Models Repositories Services
open Lib (Table)

/-! ### The provisioning thread -/

inductive ProvPc where
  | started
  | prepared
  | queued
  | preparing
  | launching
  | cloudInit
  | agentWait
  | registering
  | ready
  | peerSetup
  | peerDone
  | erred
  | finished
  | closing
deriving DecidableEq, Repr

/-- `requested` is the thread's argument, `jobId` the job it works on. -/
structure ProvThread where
  requested : Nat
  jobId : Nat
  pc : ProvPc
deriving DecidableEq, Repr

def ProvThread.to (thread : ProvThread) (pc : ProvPc) : ProvThread := { thread with pc }

/-- The commits inside the `try` of `process_provisioning_job`. -/
def ProvPc.inTry : ProvPc → Bool
  | .started | .prepared | .queued | .closing => false
  | _ => true

/-- The handler of `process_provisioning_job`; without both rows nothing is committed and the thread ends. -/
def failThread (db : Db) (gatewayId : Nat) (thread : ProvThread) (text : String) : Db × Option ProvThread :=
  if (db.jobs.get thread.jobId).isSome ∧ (db.gateways.get gatewayId).isSome then
    (failJob db gatewayId thread.jobId text, some (thread.to .closing))
  else (db, none)

def finishThread (db : Db) (thread : ProvThread) : Db × Option ProvThread :=
  if (db.jobs.get thread.jobId).isSome then (finishJob db thread.jobId, some (thread.to .finished)) else (db, none)

def reprepareThread (db : Db) (gatewayId : Nat) (thread : ProvThread) : Db × Option ProvThread :=
  match prepareProvisioning db gatewayId with
  | .error _ => (db, none)
  | .ok db => (db, some (thread.to .prepared))

def enqueueThread (db : Db) (thread : ProvThread) (jobId : Nat) : Db × Option ProvThread :=
  (updateStage db jobId "queued", some { thread with jobId, pc := .queued })

/-- The checks at the start of `_run_gateway_provisioning_once`. -/
def startThread (stale : Bool) (db : Db) (gatewayId : Nat) (thread : ProvThread) : Db × Option ProvThread :=
  match db.gateways.get gatewayId with
  | none => (db, none)
  | some gateway =>
      if !needsProvisioning gateway then (db, none)
      else
        match db.jobs.get thread.jobId with
        | none => reprepareThread db gatewayId thread
        | some job =>
            match job.status with
            | .running => if stale then reprepareThread db gatewayId thread else (db, none)
            | .pending => enqueueThread db thread thread.jobId
            | .completed | .failed => (db, none)

/-- What the thread does up to its next commit. `stale` tells whether a running job it meets is old. -/
def provNext (calls : ProvisionCalls) (stale : Bool) (choice : Nat) (db : Db) (gatewayId : Nat)
    (thread : ProvThread) : Db × Option ProvThread :=
  match thread.pc with
  | .started => startThread stale db gatewayId thread
  | .prepared =>
      match getPendingForGateway db gatewayId choice with
      | none => (db, none)
      | some (jobId, _) => enqueueThread db thread jobId
  | .queued =>
      match db.jobs.get thread.jobId, db.gateways.get gatewayId with
      | some _, some _ => (beginJob db thread.jobId, some (thread.to .preparing))
      | _, _ => (db, none)
  | .preparing =>
      match db.gateways.get gatewayId, calls.render with
      | none, _ => failThread db gatewayId thread s!"Gateway {gatewayId} not found"
      | some _, .error error => failThread db gatewayId thread error.text
      | some _, .ok _ => (beginProvisioning db gatewayId thread.jobId, some (thread.to .launching))
  | .launching =>
      match db.gateways.get gatewayId, calls.launch with
      | none, _ => (db, none)
      | some _, .error error => failThread db gatewayId thread error.text
      | some _, .ok _ => (updateStage db thread.jobId "cloud_init", some (thread.to .cloudInit))
  | .cloudInit =>
      match db.gateways.get gatewayId with
      | none => (db, none)
      | some _ => (updateStage db thread.jobId "agent_wait", some (thread.to .agentWait))
  | .agentWait =>
      if waitUntilHealthy calls.deadline calls.polls then
        (updateStage db thread.jobId "register", some (thread.to .registering))
      else
        match db.gateways.get gatewayId with
        | none => (db, none)
        | some _ =>
            (updateGatewayStatus db gatewayId .error (some (timeoutDetail calls.lastHealth)), some (thread.to .erred))
  | .registering =>
      match db.gateways.get gatewayId, calls.register with
      | none, _ => (db, none)
      | some _, .error error => failThread db gatewayId thread error.text
      | some gateway, .ok _ =>
          match finalizeExitNode calls.finalize db gatewayId gateway with
          | .error error =>
              (updateGatewayStatus db gatewayId .error (some s!"Exit node advertise failed: {error.text}"),
                some (thread.to .erred))
          | .ok finalized => (markReady finalized gatewayId, some (thread.to .ready))
  | .ready => (updateStage db thread.jobId "peer_setup", some (thread.to .peerSetup))
  | .peerSetup => (setUpPeer calls.peer db gatewayId, some (thread.to .peerDone))
  | .peerDone | .erred => finishThread db thread
  | .finished | .closing => (db, none)

/-! ### The deletion thread -/

inductive DelPc where
  | started
  | reset
  | running
  | closing
deriving DecidableEq, Repr

structure DelThread where
  jobId : Nat
  pc : DelPc
deriving DecidableEq, Repr

/-- The handler of `process_deletion_job`: each row is written if it is still there. -/
def failDeletion (db : Db) (gatewayId jobId : Nat) (text : String) : Db :=
  updateGatewayStatus (updateJobStatus db jobId .failed (some text)) gatewayId .error
    (some s!"Deletion failed: {text}")

def runDeletion (db : Db) (thread : DelThread) : Db × Option DelThread :=
  (updateJobStatus db thread.jobId .running none, some { thread with pc := .running })

/-- The checks of `_run_gateway_deletion_once`. -/
def startDeletionThread (stale : Bool) (db : Db) (gatewayId : Nat) (thread : DelThread) : Db × Option DelThread :=
  match db.gateways.get gatewayId, db.jobs.get thread.jobId with
  | none, none => (db, none)
  | none, some job =>
      if job.status = .completed then (db, none)
      else (completeJob db (some thread.jobId), some { thread with pc := .closing })
  | some _, none => (db, none)
  | some gateway, some job =>
      if gateway.status ≠ .deleting then (db, none)
      else
        match job.status with
        | .running =>
            if stale then (updateJobStatus db thread.jobId .pending none, some { thread with pc := .reset })
            else runDeletion db thread
        | .pending => runDeletion db thread
        | .completed | .failed => (db, none)

def delNext (calls : DeletionCalls) (stale : Bool) (db : Db) (gatewayId : Nat) (thread : DelThread) :
    Db × Option DelThread :=
  match thread.pc with
  | .started => startDeletionThread stale db gatewayId thread
  | .reset => if (db.jobs.get thread.jobId).isSome then runDeletion db thread else (db, none)
  | .running =>
      match executeDeleteGateway calls db gatewayId (some thread.jobId) with
      | .ok after => (after, some { thread with pc := .closing })
      | .error error => (failDeletion db gatewayId thread.jobId error.text, some { thread with pc := .closing })
  | .closing => (db, none)

/-! ### Requests and sweeps -/

/-- What a request or a sweep still has to do after a commit; `todo` are the gateways left to visit. -/
inductive Task where
  | createTail (gatewayId jobId : Nat)
  | retryTail (gatewayId : Nat)
  | deleteTail (gatewayId jobId : Nat)
  | sweep (todo : List Nat)
  | sweepTail (gatewayId : Nat) (todo : List Nat)
  | sweepStart (gatewayId : Nat) (todo : List Nat)
  | deletionSweep (todo : List Nat)
  | deletionTail (gatewayId jobId : Nat) (todo : List Nat)
  | deletionStart (gatewayId jobId : Nat) (todo : List Nat)
deriving DecidableEq, Repr

/-- A thread to start, with the id of its job. -/
inductive Start where
  | provisioning (gatewayId jobId : Nat)
  | deletion (gatewayId jobId : Nat)
deriving DecidableEq, Repr

structure Outcome where
  db : Db
  start : Option Start
  task : Option Task

/-- `prepare_provisioning` and its commit; without the gateway it raises and the session ends. -/
def prepareThen (db : Db) (gatewayId : Nat) (task : Task) : Outcome :=
  match prepareProvisioning db gatewayId with
  | .error _ => ⟨db, none, none⟩
  | .ok db => ⟨db, none, some task⟩

/-- `_maybe_enqueue_provisioning` -/
def retryNext (db : Db) (gatewayId : Nat) : Outcome :=
  match db.gateways.get gatewayId with
  | none => ⟨db, none, none⟩
  | some gateway =>
      if !needsProvisioning gateway then ⟨db, none, none⟩
      else
        match getLatestCreateJob db gatewayId with
        | none => prepareThen db gatewayId (.retryTail gatewayId)
        | some (jobId, job) =>
            if job.status = .failed ∨ gateway.status = .error ∨ job.status = .running then
              prepareThen db gatewayId (.retryTail gatewayId)
            else if job.status = .pending then ⟨db, some (.provisioning gatewayId jobId), none⟩
            else ⟨db, none, none⟩

/-- One gateway of `resume_incomplete_provisioning`. -/
def sweepVisit (active : Nat → Bool) (db : Db) (gatewayId : Nat) (todo : List Nat) : Outcome :=
  match db.gateways.get gatewayId with
  | none => ⟨db, none, none⟩
  | some gateway =>
      if !needsProvisioning gateway || active gatewayId then ⟨db, none, some (.sweep todo)⟩
      else
        match getLatestCreateJob db gatewayId with
        | none => prepareThen db gatewayId (.sweepStart gatewayId todo)
        | some (jobId, latest) =>
            match latest.status with
            | .running => prepareThen db gatewayId (.sweepTail gatewayId todo)
            | .pending => ⟨db, some (.provisioning gatewayId jobId), some (.sweep todo)⟩
            | .completed | .failed => ⟨db, none, some (.sweep todo)⟩

/-- One gateway of `resume_incomplete_deletions`. -/
def deletionVisit (active : Nat → Bool) (stale : Bool) (db : Db) (gatewayId : Nat) (todo : List Nat) : Outcome :=
  match db.gateways.get gatewayId with
  | none => ⟨db, none, none⟩
  | some gateway =>
      if gateway.status ≠ .deleting ∨ active gatewayId then ⟨db, none, some (.deletionSweep todo)⟩
      else
        match getLatestDeleteJob db gatewayId with
        | none =>
            let (db, jobId) := createJob db .deleteGateway gatewayId
            ⟨db, none, some (.deletionStart gatewayId jobId todo)⟩
        | some (jobId, latest) =>
            match latest.status with
            | .running =>
                if stale then
                  ⟨updateJobStatus db jobId .pending none, none, some (.deletionTail gatewayId jobId todo)⟩
                else ⟨db, none, some (.deletionSweep todo)⟩
            | .pending => ⟨db, some (.deletion gatewayId jobId), some (.deletionSweep todo)⟩
            | .completed | .failed => ⟨db, none, some (.deletionSweep todo)⟩

def startPending (db : Db) (gatewayId choice : Nat) : Option Start :=
  (getPendingForGateway db gatewayId choice).map fun entry => .provisioning gatewayId entry.1

/-- A job of a gateway deleted meanwhile is gone, and reading its id raises. -/
def startIfPresent (db : Db) (jobId : Nat) (start : Start) (task : Option Task) : Outcome :=
  if (db.jobs.get jobId).isSome then ⟨db, some start, task⟩ else ⟨db, none, none⟩

def taskNext (provActive delActive : Nat → Bool) (stale : Bool) (choice : Nat) (db : Db) : Task → Outcome
  | .createTail gatewayId jobId => startIfPresent db jobId (.provisioning gatewayId jobId) none
  | .retryTail gatewayId => ⟨db, startPending db gatewayId choice, none⟩
  | .deleteTail gatewayId jobId => startIfPresent db jobId (.deletion gatewayId jobId) none
  | .sweep [] => ⟨db, none, none⟩
  | .sweep (gatewayId :: todo) => sweepVisit provActive db gatewayId todo
  | .sweepTail gatewayId todo =>
      match startPending db gatewayId choice with
      | some start => ⟨db, some start, some (.sweep todo)⟩
      | none => prepareThen db gatewayId (.sweepStart gatewayId todo)
  | .sweepStart gatewayId todo => ⟨db, startPending db gatewayId choice, some (.sweep todo)⟩
  | .deletionSweep [] => ⟨db, none, none⟩
  | .deletionSweep (gatewayId :: todo) => deletionVisit delActive stale db gatewayId todo
  | .deletionTail gatewayId jobId todo =>
      match db.jobs.get jobId with
      | none => ⟨db, none, none⟩
      | some job =>
          if job.status = .pending then ⟨db, some (.deletion gatewayId jobId), some (.deletionSweep todo)⟩
          else ⟨db, none, some (.deletionSweep todo)⟩
  | .deletionStart gatewayId jobId todo =>
      startIfPresent db jobId (.deletion gatewayId jobId) (some (.deletionSweep todo))

/-! ### The system -/

structure State where
  db : Db
  prov : Nat → Option ProvThread
  del : Nat → Option DelThread
  tasks : Table Task

/-- `provStop` and `provRestart` are an exception that leaves `_run_gateway_provisioning_once`: a locked
database lets the thread start over. A crash ends every thread, sweep and request. -/
inductive Event where
  | create (calls : CreationCalls) (request : CreateGatewayRequest)
  | retry (gatewayId : Nat)
  | requestDelete (gatewayId : Nat)
  | beginSweep
  | beginDeletionSweep
  | task (id : Nat) (stale : Bool) (choice : Nat)
  | taskStop (id : Nat)
  | prov (gatewayId : Nat) (stale : Bool) (choice : Nat) (calls : ProvisionCalls)
  | provRaise (gatewayId : Nat) (text : String)
  | provStop (gatewayId : Nat)
  | provRestart (gatewayId : Nat)
  | del (gatewayId : Nat) (stale : Bool) (calls : DeletionCalls)
  | delStop (gatewayId : Nat)
  | delRestart (gatewayId : Nat)
  | crash

/-- `start_provisioning` and `start_deletion` leave a thread that is already active alone. -/
def State.startThread (s : State) : Option Start → State
  | none => s
  | some (.provisioning gatewayId jobId) =>
      if (s.prov gatewayId).isSome then s
      else { s with prov := Function.update s.prov gatewayId (some ⟨jobId, jobId, .started⟩) }
  | some (.deletion gatewayId jobId) =>
      if (s.del gatewayId).isSome then s
      else { s with del := Function.update s.del gatewayId (some ⟨jobId, .started⟩) }

def State.addTask (s : State) (task : Option Task) : State :=
  match task with
  | none => s
  | some task => { s with tasks := s.tasks.insert task }

def State.setTask (s : State) (id : Nat) (task : Option Task) : State :=
  match task with
  | none => { s with tasks := s.tasks.delete id }
  | some task => { s with tasks := s.tasks.modify id fun _ => task }

def State.setProv (s : State) (gatewayId : Nat) (result : Db × Option ProvThread) : State :=
  { s with db := result.1, prov := Function.update s.prov gatewayId result.2 }

def State.setDel (s : State) (gatewayId : Nat) (result : Db × Option DelThread) : State :=
  { s with db := result.1, del := Function.update s.del gatewayId result.2 }

@[simp] theorem db_startThread (s : State) (start : Option Start) : (s.startThread start).db = s.db := by
  unfold State.startThread
  split
  · rfl
  · split <;> rfl
  · split <;> rfl

@[simp] theorem db_addTask (s : State) (task : Option Task) : (s.addTask task).db = s.db := by
  cases task <;> rfl

@[simp] theorem db_setTask (s : State) (id : Nat) (task : Option Task) : (s.setTask id task).db = s.db := by
  cases task <;> rfl

@[simp] theorem tasks_startThread (s : State) (start : Option Start) : (s.startThread start).tasks = s.tasks := by
  unfold State.startThread
  split
  · rfl
  · split <;> rfl
  · split <;> rfl

@[simp] theorem prov_addTask (s : State) (task : Option Task) : (s.addTask task).prov = s.prov := by
  cases task <;> rfl

@[simp] theorem del_addTask (s : State) (task : Option Task) : (s.addTask task).del = s.del := by
  cases task <;> rfl

@[simp] theorem prov_setTask (s : State) (id : Nat) (task : Option Task) : (s.setTask id task).prov = s.prov := by
  cases task <;> rfl

@[simp] theorem del_setTask (s : State) (id : Nat) (task : Option Task) : (s.setTask id task).del = s.del := by
  cases task <;> rfl

section Updates

variable {s : State} {gatewayId other : Nat}

/-- A thread after an update is the new one of the gateway or an earlier one of another gateway. -/
theorem update_some {α : Type} {threads : Nat → Option α} {value : Option α} {thread : α}
    (active : Function.update threads gatewayId value other = some thread) :
    other = gatewayId ∧ value = some thread ∨ other ≠ gatewayId ∧ threads other = some thread := by
  by_cases same : other = gatewayId
  · subst same
    rw [Function.update_self] at active
    exact .inl ⟨rfl, active⟩
  · rw [Function.update_of_ne same] at active
    exact .inr ⟨same, active⟩

theorem prov_startThread_some {start : Option Start} {thread : ProvThread}
    (active : (s.startThread start).prov gatewayId = some thread) :
    s.prov gatewayId = some thread ∨
      ∃ jobId, start = some (.provisioning gatewayId jobId) ∧ thread = ⟨jobId, jobId, .started⟩ := by
  unfold State.startThread at active
  split at active
  · exact .inl active
  · rename_i started jobId
    split at active
    · exact .inl active
    · obtain ⟨rfl, new⟩ | ⟨-, before⟩ := update_some active
      · exact .inr ⟨jobId, rfl, (Option.some.inj new).symm⟩
      · exact .inl before
  · split at active
    · exact .inl active
    · exact .inl active

theorem del_startThread_some {start : Option Start} {thread : DelThread}
    (active : (s.startThread start).del gatewayId = some thread) :
    s.del gatewayId = some thread ∨ ∃ jobId, start = some (.deletion gatewayId jobId) ∧ thread = ⟨jobId, .started⟩ := by
  unfold State.startThread at active
  split at active
  · exact .inl active
  · split at active
    · exact .inl active
    · exact .inl active
  · rename_i started jobId
    split at active
    · exact .inl active
    · obtain ⟨rfl, new⟩ | ⟨-, before⟩ := update_some active
      · exact .inr ⟨jobId, rfl, (Option.some.inj new).symm⟩
      · exact .inl before

theorem prov_setProv_some {result : Db × Option ProvThread} {thread : ProvThread}
    (active : (s.setProv gatewayId result).prov other = some thread) :
    other = gatewayId ∧ result.2 = some thread ∨ other ≠ gatewayId ∧ s.prov other = some thread := update_some active

theorem del_setDel_some {result : Db × Option DelThread} {thread : DelThread}
    (active : (s.setDel gatewayId result).del other = some thread) :
    other = gatewayId ∧ result.2 = some thread ∨ other ≠ gatewayId ∧ s.del other = some thread := update_some active

theorem tasks_addTask_some {task : Option Task} {id : Nat} {value : Task}
    (found : (s.addTask task).tasks.get id = some value) : s.tasks.get id = some value ∨ task = some value := by
  cases task with
  | none => exact .inl found
  | some new =>
      simp only [State.addTask, Lib.Table.get_insert] at found
      split at found
      · exact .inr found
      · exact .inl found

theorem tasks_setTask_some {task : Option Task} {id changed : Nat} {value : Task}
    (found : (s.setTask changed task).tasks.get id = some value) : s.tasks.get id = some value ∨ task = some value := by
  cases task with
  | none => exact .inl (Lib.Table.get_delete_some found).2
  | some new =>
      obtain ⟨before, stored, rfl⟩ := Lib.Table.get_modify_some found
      split
      · exact .inr rfl
      · exact .inl stored

end Updates

theorem startThread_active (s : State) (gatewayId jobId : Nat) :
    ((s.startThread (some (.provisioning gatewayId jobId))).prov gatewayId).isSome = true := by
  unfold State.startThread
  dsimp only
  split
  · assumption
  · simp

def gatewayIds (db : Db) : List Nat := db.gateways.toList.map Prod.fst

def step (s : State) : Event → Option State
  | .create calls request =>
      match createGateway calls request s.db with
      | .error _ => some s
      | .ok (db, gatewayId, jobId) => some ({ s with db }.addTask (some (.createTail gatewayId jobId)))
  | .retry gatewayId =>
      let next := retryNext s.db gatewayId
      some (({ s with db := next.db }.addTask next.task).startThread next.start)
  | .requestDelete gatewayId =>
      match requestDeleteGateway s.db gatewayId with
      | .error _ => some s
      | .ok (db, jobId) => some ({ s with db }.addTask (some (.deleteTail gatewayId jobId)))
  | .beginSweep => some (s.addTask (some (.sweep (gatewayIds s.db))))
  | .beginDeletionSweep => some (s.addTask (some (.deletionSweep (gatewayIds s.db))))
  | .task id stale choice =>
      (s.tasks.get id).map fun task =>
        let next := taskNext (fun g => (s.prov g).isSome) (fun g => (s.del g).isSome) stale choice s.db task
        ({ s with db := next.db }.setTask id next.task).startThread next.start
  | .taskStop id => (s.tasks.get id).map fun _ => s.setTask id none
  | .prov gatewayId stale choice calls =>
      (s.prov gatewayId).map fun thread => s.setProv gatewayId (provNext calls stale choice s.db gatewayId thread)
  | .provRaise gatewayId text =>
      (s.prov gatewayId).bind fun thread =>
        if thread.pc.inTry then some (s.setProv gatewayId (failThread s.db gatewayId thread text)) else none
  | .provStop gatewayId => (s.prov gatewayId).map fun _ => s.setProv gatewayId (s.db, none)
  | .provRestart gatewayId =>
      (s.prov gatewayId).map fun thread =>
        s.setProv gatewayId (s.db, some ⟨thread.requested, thread.requested, .started⟩)
  | .del gatewayId stale calls =>
      (s.del gatewayId).map fun thread => s.setDel gatewayId (delNext calls stale s.db gatewayId thread)
  | .delStop gatewayId => (s.del gatewayId).map fun _ => s.setDel gatewayId (s.db, none)
  | .delRestart gatewayId =>
      (s.del gatewayId).map fun thread => s.setDel gatewayId (s.db, some { thread with pc := .started })
  | .crash => some { s with prov := fun _ => none, del := fun _ => none, tasks := Table.empty }

/-- An orchestrator with workers but no gateway yet. -/
structure Initial (s : State) : Prop where
  gateways : ∀ id, s.db.gateways.get id = none
  jobs : ∀ id, s.db.jobs.get id = none
  prov : ∀ id, s.prov id = none
  del : ∀ id, s.del id = none
  tasks : ∀ id, s.tasks.get id = none

/-! ### Sample events -/

def oneWorker : State where
  db := { Db.empty with
    workers := Table.empty.insert ⟨"w1", "w1", "https://w1:8443", true, some 0, 51820, 51920, 168427775, 168427530⟩ }
  prov := fun _ => none
  del := fun _ => none
  tasks := Table.empty

theorem oneWorker_initial : Initial oneWorker where
  gateways := fun _ => rfl
  jobs := fun _ => rfl
  prov := fun _ => rfl
  del := fun _ => rfl
  tasks := fun _ => rfl

def createFirst : Event := .create ⟨0, 2660, .ok ()⟩ ⟨some "a", none, some 1⟩

/-- Every call succeeds, but the agent is not up before the deadline. -/
def neverHealthy : ProvisionCalls where
  render := .ok ()
  launch := .ok ()
  deadline := 0
  polls := []
  lastHealth := .error (.other "no answer")
  register := .ok ()
  finalize := ⟨.ok (), .ok [], .ok (), .ok (), .ok [], .ok []⟩
  peer := ⟨"key", 0, .ok (), .ok ()⟩

def advanceFirst : Event := .prov 1 false 0 neverHealthy

end DeepOrc.Workers
