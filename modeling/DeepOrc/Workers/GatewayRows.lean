import DeepOrc.Workers.Ledger

/-!
# Gateways with one job

While nothing is deleted, a gateway has its create job and no other. A gateway that waits has the job open, and
the place of its thread tells what the thread has written last.
-/

namespace DeepOrc.Workers

open Models Repositories Services
open Lib (Table)

/-! ### A gateway and its job -/

def isWaiting : GatewayStatus → Bool
  | .pending | .provisioning => true
  | .ready | .error | .deleting => false

structure Row (db : Db) (gatewayId : Nat) (status : GatewayStatus) (jobId : Nat) (job : JobStatus) : Prop where
  stored : statusOf db gatewayId = some status
  card : cardOf db jobId = some ⟨gatewayId, .createGateway, job⟩
  only : ∀ other card, cardOf db other = some card → card.gatewayId = gatewayId → other = jobId
  opened : isWaiting status = true → isOpen job = true

/-- Nothing of another gateway changes. -/
structure Local (db after : Db) (gatewayId : Nat) : Prop where
  statuses : ∀ other, other ≠ gatewayId → statusOf after other = statusOf db other
  kept : ∀ jobId card, cardOf db jobId = some card → card.gatewayId ≠ gatewayId → cardOf after jobId = some card
  back : ∀ jobId card, cardOf after jobId = some card → card.gatewayId ≠ gatewayId → cardOf db jobId = some card

structure Writes (db after : Db) (gatewayId : Nat) (status : GatewayStatus) (jobId : Nat) (job : JobStatus) :
    Prop where
  loc : Local db after gatewayId
  row : Row after gatewayId status jobId job

theorem Row.unique {db : Db} {gatewayId jobId other : Nat} {status : GatewayStatus} {job : JobStatus} {card : Card}
    (row : Row db gatewayId status jobId job) (found : cardOf db other = some card) (own : card.gatewayId = gatewayId) :
    other = jobId ∧ card = ⟨gatewayId, .createGateway, job⟩ := by
  have same := row.only other card found own
  subst same
  rw [row.card] at found
  exact ⟨rfl, (Option.some.inj found).symm⟩

theorem Local.trans {db middle after : Db} {gatewayId : Nat} (first : Local db middle gatewayId)
    (second : Local middle after gatewayId) : Local db after gatewayId where
  statuses := fun other different => (second.statuses other different).trans (first.statuses other different)
  kept := fun jobId card found other => second.kept jobId card (first.kept jobId card found other) other
  back := fun jobId card found other => first.back jobId card (second.back jobId card found other) other

theorem Local.row {db after : Db} {gatewayId other jobId : Nat} {status : GatewayStatus} {job : JobStatus}
    (loc : Local db after gatewayId) (different : other ≠ gatewayId) (row : Row db other status jobId job) :
    Row after other status jobId job where
  stored := (loc.statuses other different).trans row.stored
  card := loc.kept jobId _ row.card different
  only := fun id card found own => row.only id card (loc.back id card found (by rw [own]; exact different)) own
  opened := row.opened

theorem Writes.trans {db middle after : Db} {gatewayId jobId other : Nat} {status status' : GatewayStatus}
    {job job' : JobStatus} (first : Writes db middle gatewayId status jobId job)
    (second : Writes middle after gatewayId status' other job') : Writes db after gatewayId status' other job' :=
  ⟨first.loc.trans second.loc, second.row⟩

theorem local_of_same {db after : Db} (statuses : ∀ id, statusOf after id = statusOf db id)
    (cards : ∀ id, cardOf after id = cardOf db id) (gatewayId : Nat) : Local db after gatewayId where
  statuses := fun other _ => statuses other
  kept := fun jobId _ found _ => (cards jobId).trans found
  back := fun jobId _ found _ => (cards jobId).symm.trans found

section Row

variable {db after : Db} {gatewayId jobId : Nat} {status : GatewayStatus} {job : JobStatus}

theorem Row.same (row : Row db gatewayId status jobId job) (statuses : ∀ id, statusOf after id = statusOf db id)
    (cards : ∀ id, cardOf after id = cardOf db id) : Writes db after gatewayId status jobId job := by
  refine ⟨local_of_same statuses cards gatewayId, (statuses gatewayId).trans row.stored, (cards jobId).trans row.card,
    ?_, row.opened⟩
  intro other card found
  exact row.only other card ((cards other).symm.trans found)

theorem Row.stage (row : Row db gatewayId status jobId job) (stage : String) :
    Writes db (updateStage db jobId stage) gatewayId status jobId job :=
  row.same (fun _ => rfl) (cardOf_updateStage db jobId stage)

theorem Row.writeStatus (row : Row db gatewayId status jobId job) (later : GatewayStatus)
    (opened : isWaiting later = true → isOpen job = true) (error : Option String) :
    Writes db (updateGatewayStatus db gatewayId later error) gatewayId later jobId job where
  loc := by
    refine ⟨?_, fun _ _ found _ => found, fun _ _ found _ => found⟩
    intro other different
    rw [statusOf_updateGatewayStatus, if_neg different]
  row := by
    refine ⟨?_, row.card, row.only, opened⟩
    rw [statusOf_updateGatewayStatus, if_pos rfl, row.stored]
    rfl

theorem Row.writeJob (row : Row db gatewayId status jobId job) (later : JobStatus)
    (opened : isWaiting status = true → isOpen later = true) (error : Option String) :
    Writes db (updateJobStatus db jobId later error) gatewayId status jobId later where
  loc := by
    refine ⟨fun _ _ => rfl, ?_, ?_⟩
    · intro other card found different
      rw [cardOf_updateJobStatus, if_neg, found]
      rintro rfl
      rw [row.card] at found
      cases found
      exact different rfl
    · intro other card found different
      rw [cardOf_updateJobStatus] at found
      split at found
      · rename_i same
        subst same
        rw [row.card] at found
        cases found
        exact absurd rfl different
      · exact found
  row := by
    refine ⟨row.stored, ?_, ?_, opened⟩
    · rw [cardOf_updateJobStatus, if_pos rfl, row.card]
      rfl
    · intro other card found own
      rw [cardOf_updateJobStatus] at found
      split at found
      · assumption
      · exact row.only other card found own

/-- `prepare_provisioning` opens the gateway's only job. -/
theorem Row.prepared (row : Row db gatewayId status jobId job) {other : Nat}
    (effect : PrepareEffect db after gatewayId other) :
    ∃ later, Writes db after gatewayId later jobId .pending ∧
      (later = status ∨ (later = .pending ∧ (status = .error ∨ status = .provisioning))) := by
  have same : other = jobId := by
    rcases effect.origin with ⟨-, before, found⟩ | ⟨-, -, none_⟩
    · exact row.only other _ found rfl
    · have type := none_ jobId _ row.card rfl
      cases type
  subst same
  obtain ⟨before, later, stored, settled, change⟩ := effect.present
  rw [row.stored] at stored
  cases stored
  refine ⟨later, ⟨⟨effect.others, ?_, ?_⟩, settled, effect.job, ?_, fun _ => rfl⟩, change⟩
  · intro id card found different
    rw [effect.jobs id, found]
    rintro rfl
    rw [row.card] at found
    cases found
    exact different rfl
  · intro id card found different
    rw [effect.jobs id] at found
    · exact found
    · rintro rfl
      rw [effect.job] at found
      cases found
      exact different rfl
  · intro id card found own
    by_contra different
    rw [effect.jobs id different] at found
    exact different (row.only id card found own)

end Row

/-! ### Threads and tasks beside it -/

/-- What the place of a thread tells about its gateway and job. -/
def ThreadFits (status : GatewayStatus) (job : JobStatus) (jobId : Nat) : Option ProvThread → Prop
  | none => True
  | some thread => thread.requested = jobId ∧ thread.jobId = jobId ∧
      match thread.pc with
      | .preparing | .launching | .cloudInit | .agentWait | .registering => isOpen job = true
      | .ready | .peerSetup | .peerDone => status = .ready
      | .erred => status = .error
      | .started | .prepared | .queued | .finished | .closing => True

def AllPresent (db : Db) (todo : List Nat) : Prop := ∀ id ∈ todo, (statusOf db id).isSome

def Belongs (db : Db) (gatewayId jobId : Nat) : Prop := ∃ card, cardOf db jobId = some card ∧ card.gatewayId = gatewayId

def TaskFits (db : Db) : Task → Prop
  | .createTail gatewayId jobId => Belongs db gatewayId jobId
  | .retryTail _ => True
  | .sweep todo => AllPresent db todo
  | .sweepTail gatewayId todo => (statusOf db gatewayId).isSome ∧ AllPresent db todo
  | .sweepStart gatewayId todo => (statusOf db gatewayId).isSome ∧ AllPresent db todo
  | .deleteTail _ _ | .deletionSweep _ | .deletionTail _ _ _ | .deletionStart _ _ _ => False

def StartFits (db : Db) : Start → Prop
  | .provisioning gatewayId jobId => Belongs db gatewayId jobId
  | .deletion _ _ => False

structure Orderly (s : State) : Prop where
  rows : ∀ gatewayId status, statusOf s.db gatewayId = some status →
    ∃ jobId job, Row s.db gatewayId status jobId job ∧ ThreadFits status job jobId (s.prov gatewayId)
  owned : ∀ jobId card, cardOf s.db jobId = some card → (statusOf s.db card.gatewayId).isSome
  threads : ∀ gatewayId, (s.prov gatewayId).isSome → (statusOf s.db gatewayId).isSome
  tasks : ∀ id task, s.tasks.get id = some task → TaskFits s.db task

/-- No gateway and no job disappears, and a job keeps its gateway. -/
structure Grows (db after : Db) : Prop where
  present : ∀ id, (statusOf db id).isSome → (statusOf after id).isSome
  belongs : ∀ gatewayId jobId, Belongs db gatewayId jobId → Belongs after gatewayId jobId

theorem Grows.refl (db : Db) : Grows db db := ⟨fun _ found => found, fun _ _ own => own⟩

theorem Writes.grows {db after : Db} {gatewayId jobId : Nat} {status before : GatewayStatus} {job was : JobStatus}
    (writes : Writes db after gatewayId status jobId job) (row : Row db gatewayId before jobId was) :
    Grows db after where
  present := by
    intro id found
    by_cases same : id = gatewayId
    · rw [same, writes.row.stored]
      rfl
    · rwa [writes.loc.statuses id same]
  belongs := by
    rintro other id ⟨card, found, own⟩
    by_cases same : other = gatewayId
    · rw [same] at own ⊢
      rw [row.only id card found own]
      exact ⟨_, writes.row.card, rfl⟩
    · exact ⟨card, writes.loc.kept id card found (by rw [own]; exact same), own⟩

theorem Grows.taskFits {db after : Db} (grows : Grows db after) {task : Task} (fits : TaskFits db task) :
    TaskFits after task := by
  have all {todo : List Nat} (present : AllPresent db todo) : AllPresent after todo :=
    fun id member => grows.present id (present id member)
  cases task with
  | createTail gatewayId jobId => exact grows.belongs gatewayId jobId fits
  | retryTail gatewayId => trivial
  | sweep todo => exact all fits
  | sweepTail gatewayId todo => exact ⟨grows.present gatewayId fits.1, all fits.2⟩
  | sweepStart gatewayId todo => exact ⟨grows.present gatewayId fits.1, all fits.2⟩
  | deleteTail => exact fits
  | deletionSweep => exact fits
  | deletionTail => exact fits
  | deletionStart => exact fits

/-! ### The provisioning thread -/

/-- The commit of a thread keeps its gateway's row in order, and its new place fits. -/
def Leads (db : Db) (gatewayId jobId : Nat) (result : Db × Option ProvThread) : Prop :=
  ∃ status job, Writes db result.1 gatewayId status jobId job ∧ ThreadFits status job jobId result.2

section Provisioning

variable {db : Db} {gatewayId jobId : Nat} {status : GatewayStatus} {job : JobStatus}

theorem Row.refl (row : Row db gatewayId status jobId job) : Writes db db gatewayId status jobId job :=
  row.same (fun _ => rfl) fun _ => rfl

theorem leads_end (row : Row db gatewayId status jobId job) : Leads db gatewayId jobId (db, none) :=
  ⟨status, job, row.refl, trivial⟩

theorem failThread_leads (row : Row db gatewayId status jobId job) {thread : ProvThread}
    (requested : thread.requested = jobId) (own : thread.jobId = jobId) (text : String) :
    Leads db gatewayId jobId (failThread db gatewayId thread text) := by
  subst own
  unfold failThread
  split
  · rename_i present
    rw [failJob_present present]
    have erred := row.writeStatus .error nofun (some text)
    exact ⟨.error, .failed, erred.trans (erred.row.writeJob .failed (by decide) (some text)), requested, rfl, trivial⟩
  · exact leads_end row

theorem finishThread_leads (row : Row db gatewayId status jobId job) {thread : ProvThread}
    (requested : thread.requested = jobId) (own : thread.jobId = jobId) (settled : isWaiting status = false) :
    Leads db gatewayId jobId (finishThread db thread) := by
  subst own
  unfold finishThread
  split
  · have completed := row.writeJob .completed (by rw [settled]; nofun) none
    exact ⟨status, .completed, completed.trans (completed.row.stage "done"), requested, rfl, trivial⟩
  · exact leads_end row

theorem reprepareThread_leads (row : Row db gatewayId status jobId job) {thread : ProvThread}
    (requested : thread.requested = jobId) (own : thread.jobId = jobId) :
    Leads db gatewayId jobId (reprepareThread db gatewayId thread) := by
  unfold reprepareThread
  split
  · exact leads_end row
  · rename_i after prepared
    obtain ⟨other, effect⟩ := prepareProvisioning_ok prepared
    obtain ⟨later, writes, -⟩ := row.prepared effect
    exact ⟨later, .pending, writes, requested, own, trivial⟩

theorem startThread_leads (row : Row db gatewayId status jobId job) {thread : ProvThread}
    (requested : thread.requested = jobId) (own : thread.jobId = jobId) (stale : Bool) :
    Leads db gatewayId jobId (startThread stale db gatewayId thread) := by
  unfold startThread
  split
  · exact leads_end row
  · split
    · exact leads_end row
    · split
      · exact reprepareThread_leads row requested own
      · split
        · split
          · exact reprepareThread_leads row requested own
          · exact leads_end row
        · subst own
          exact ⟨status, job, row.stage "queued", requested, rfl, trivial⟩
        · exact leads_end row
        · exact leads_end row

theorem provNext_leads (calls : ProvisionCalls) (stale : Bool) (choice : Nat)
    (row : Row db gatewayId status jobId job) {thread : ProvThread}
    (fits : ThreadFits status job jobId (some thread)) :
    Leads db gatewayId jobId (provNext calls stale choice db gatewayId thread) := by
  have ended : Leads db gatewayId jobId (db, none) := leads_end row
  obtain ⟨requested, own, pc⟩ := thread
  obtain ⟨rfl, same, place⟩ := fits
  dsimp only at same place
  subst same
  have staged (stage : String) (pc : ProvPc) (place : ThreadFits status job own (some ⟨own, own, pc⟩)) :
      Leads db gatewayId own (updateStage db own stage, some ⟨own, own, pc⟩) :=
    ⟨status, job, row.stage stage, place⟩
  have failed (text : String) (pc : ProvPc) : Leads db gatewayId own (failThread db gatewayId ⟨own, own, pc⟩ text) :=
    failThread_leads row rfl rfl text
  have erred (text : String) : Leads db gatewayId own
      (updateGatewayStatus db gatewayId .error (some text), some ⟨own, own, .erred⟩) :=
    ⟨.error, job, row.writeStatus .error nofun (some text), rfl, rfl, rfl⟩
  unfold provNext
  cases pc with
  | started => exact startThread_leads row rfl rfl stale
  | prepared =>
      dsimp only
      split
      · exact ended
      · rename_i found
        obtain ⟨rfl, -⟩ := row.unique (pending_some found) rfl
        exact staged "queued" .queued ⟨rfl, rfl, trivial⟩
  | queued =>
      dsimp only
      split
      · have begun := row.writeJob .running (fun _ => rfl) none
        exact ⟨status, .running, begun.trans (begun.row.stage "preparing"), rfl, rfl, rfl⟩
      · exact ended
  | preparing =>
      dsimp only
      split
      · exact failed _ _
      · exact failed _ _
      · have provisioning := row.writeStatus .provisioning (fun _ => place) none
        exact ⟨.provisioning, job, provisioning.trans (provisioning.row.stage "vm_launch"), rfl, rfl, place⟩
  | launching =>
      dsimp only
      split
      · exact ended
      · exact failed _ _
      · exact staged "cloud_init" .cloudInit ⟨rfl, rfl, place⟩
  | cloudInit =>
      dsimp only
      split
      · exact ended
      · exact staged "agent_wait" .agentWait ⟨rfl, rfl, place⟩
  | agentWait =>
      dsimp only
      split
      · exact staged "register" .registering ⟨rfl, rfl, place⟩
      · split
        · exact ended
        · exact erred _
  | registering =>
      dsimp only
      split
      · exact ended
      · exact failed _ _
      · split
        · exact erred _
        · rename_i finalized
          obtain ⟨address, -, rfl⟩ := finalizeExitNode_ok finalized
          have stored := row.same (statusOf_setExitNode db gatewayId address) (cardOf_setExitNode db gatewayId address)
          exact ⟨.ready, job, stored.trans (stored.row.writeStatus .ready nofun none), rfl, rfl, rfl⟩
  | ready => exact staged "peer_setup" .peerSetup ⟨rfl, rfl, place⟩
  | peerSetup =>
      have same := row.same (statusOf_setUpPeer calls.peer db gatewayId) (cardOf_setUpPeer calls.peer db gatewayId)
      exact ⟨status, job, same, rfl, rfl, place⟩
  | peerDone => exact finishThread_leads row rfl rfl (by rw [show status = .ready from place]; rfl)
  | erred => exact finishThread_leads row rfl rfl (by rw [show status = .error from place]; rfl)
  | finished => exact ended
  | closing => exact ended

end Provisioning

end DeepOrc.Workers
