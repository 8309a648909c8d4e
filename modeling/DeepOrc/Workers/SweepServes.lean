import DeepOrc.Workers.GatewayRows

/-!
# Every waiting gateway is served

The next pass of the sweep starts a thread for every gateway that waits. Only a retry or sweep that opens a
gateway again between the error commit of its thread and the completion of the job leaves it waiting with a
completed job, which no pass takes up.
-/

namespace DeepOrc.Workers

open Models Repositories Services
open Lib (Table Reaches)

/-! ### The runs in question -/

/-- The deletion worker and the requests to it are not part of these runs. -/
def Event.isDeletion : Event → Bool
  | .requestDelete _ | .beginDeletionSweep | .del _ _ _ | .delStop _ | .delRestart _ => true
  | _ => false

def Erred (s : State) (gatewayId : Nat) : Prop := ∃ thread, s.prov gatewayId = some thread ∧ thread.pc = .erred

/-- No `prepare_provisioning` of a retry or a sweep meets a thread between its error commit and the next. -/
def Undisturbed (s : State) : Event → Prop
  | .retry gatewayId => ¬Erred s gatewayId
  | .task id _ choice => ∀ gatewayId todo, s.tasks.get id = some (.sweepTail gatewayId todo) →
      startPending s.db gatewayId choice = none → ¬Erred s gatewayId
  | _ => True

def Serving (s : State) (event : Event) : Prop := event.isDeletion = false ∧ Undisturbed s event

/-- A pass that is not cut short by an exception of its own or by a crash. -/
def Passing (pass : Nat) (s : State) (event : Event) : Prop :=
  Serving s event ∧ event ≠ .crash ∧ event ≠ .taskStop pass

/-! ### Requests and sweeps -/

/-- What the row of a gateway without a thread may become in one step. -/
def Reopened (status later : GatewayStatus) (job after : JobStatus) : Prop :=
  (later = status ∧ after = job) ∨ (after = .pending ∧ (later = status ∨ later = .pending))

/-- A request or sweep changes the database only by preparing one gateway, whose thread is not at its error. -/
structure Tidy (s : State) (outcome : Outcome) : Prop where
  change : outcome.db = s.db ∨
    ∃ gatewayId jobId, PrepareEffect s.db outcome.db gatewayId jobId ∧ ¬Erred s gatewayId
  start : ∀ start, outcome.start = some start → StartFits outcome.db start
  task : ∀ task, outcome.task = some task → TaskFits outcome.db task

section Tasks

variable {s : State} {gatewayId : Nat}

theorem tidy_rest {start : Option Start} {task : Option Task}
    (startFits : ∀ value, start = some value → StartFits s.db value)
    (taskFits : ∀ value, task = some value → TaskFits s.db value) : Tidy s ⟨s.db, start, task⟩ :=
  ⟨.inl rfl, startFits, taskFits⟩

theorem startPending_fits {choice : Nat} :
    ∀ start, startPending s.db gatewayId choice = some start → StartFits s.db start := by
  intro start started
  obtain ⟨jobId, type, rfl, found⟩ := startPending_some started
  exact ⟨_, found, rfl⟩

theorem Orderly.prepared {after : Db} {jobId : Nat} (orderly : Orderly s)
    (effect : PrepareEffect s.db after gatewayId jobId) :
    ∃ status job later, Row s.db gatewayId status jobId job ∧ ThreadFits status job jobId (s.prov gatewayId) ∧
      Writes s.db after gatewayId later jobId .pending ∧
      (later = status ∨ (later = .pending ∧ (status = .error ∨ status = .provisioning))) := by
  obtain ⟨status, _, stored, -⟩ := effect.present
  obtain ⟨own, job, row, fits⟩ := orderly.rows gatewayId status stored
  obtain ⟨later, writes, change⟩ := row.prepared effect
  have same : jobId = own := (writes.row.unique effect.job rfl).1
  subst same
  exact ⟨status, job, later, row, fits, writes, change⟩

theorem prepareThen_tidy (orderly : Orderly s) (calm : ¬Erred s gatewayId) {task : Task}
    (fits : TaskFits s.db task) : Tidy s (prepareThen s.db gatewayId task) := by
  unfold prepareThen
  split
  · exact tidy_rest nofun nofun
  · rename_i after prepared
    obtain ⟨jobId, effect⟩ := prepareProvisioning_ok prepared
    obtain ⟨status, job, later, row, -, writes, -⟩ := orderly.prepared effect
    refine ⟨.inr ⟨gatewayId, jobId, effect, calm⟩, nofun, ?_⟩
    rintro value ⟨⟩
    exact (writes.grows row).taskFits fits

theorem startIfPresent_tidy {jobId : Nat} {start : Start} (fits : StartFits s.db start) :
    Tidy s (startIfPresent s.db jobId start none) := by
  unfold startIfPresent
  split
  · refine tidy_rest ?_ nofun
    rintro value ⟨⟩
    exact fits
  · exact tidy_rest nofun nofun

theorem retryNext_tidy (orderly : Orderly s) (calm : ¬Erred s gatewayId) : Tidy s (retryNext s.db gatewayId) := by
  unfold retryNext
  split
  · exact tidy_rest nofun nofun
  · split
    · exact tidy_rest nofun nofun
    · split
      · exact prepareThen_tidy orderly calm trivial
      · rename_i jobId job latest
        split
        · exact prepareThen_tidy orderly calm trivial
        · split
          · refine tidy_rest ?_ nofun
            rintro value ⟨⟩
            exact ⟨_, latestCreate_some latest, rfl⟩
          · exact tidy_rest nofun nofun

theorem sweepVisit_tidy (orderly : Orderly s) {todo : List Nat} (present : (statusOf s.db gatewayId).isSome)
    (rest : AllPresent s.db todo) : Tidy s (sweepVisit (fun g => (s.prov g).isSome) s.db gatewayId todo) := by
  have next : Tidy s ⟨s.db, none, some (.sweep todo)⟩ := by
    refine tidy_rest nofun ?_
    rintro value ⟨⟩
    exact rest
  unfold sweepVisit
  split
  · exact tidy_rest nofun nofun
  · split
    · exact next
    · rename_i idle
      have calm : ¬Erred s gatewayId := by
        rintro ⟨thread, active, -⟩
        simp [active] at idle
      split
      · exact prepareThen_tidy orderly calm ⟨present, rest⟩
      · rename_i jobId latest found
        split
        · exact prepareThen_tidy orderly calm ⟨present, rest⟩
        · apply tidy_rest
          · rintro value ⟨⟩
            exact ⟨_, latestCreate_some found, rfl⟩
          · rintro value ⟨⟩
            exact rest
        · exact next
        · exact next

theorem taskNext_tidy (orderly : Orderly s) {task : Task} (fits : TaskFits s.db task) (stale : Bool) (choice : Nat)
    (calm : ∀ gatewayId todo, task = .sweepTail gatewayId todo → startPending s.db gatewayId choice = none →
      ¬Erred s gatewayId) :
    Tidy s (taskNext (fun g => (s.prov g).isSome) (fun g => (s.del g).isSome) stale choice s.db task) := by
  cases task with
  | createTail gatewayId jobId => exact startIfPresent_tidy fits
  | retryTail gatewayId => exact tidy_rest startPending_fits nofun
  | sweep todo =>
      cases todo with
      | nil => exact tidy_rest nofun nofun
      | cons gatewayId todo =>
          exact sweepVisit_tidy orderly (fits gatewayId List.mem_cons_self)
            fun id member => fits id (List.mem_cons_of_mem _ member)
  | sweepTail gatewayId todo =>
      simp only [taskNext]
      split
      · rename_i start started
        apply tidy_rest
        · rintro value ⟨⟩
          exact startPending_fits start started
        · rintro value ⟨⟩
          exact fits.2
      · rename_i none_
        exact prepareThen_tidy orderly (calm gatewayId todo rfl none_) fits
  | sweepStart gatewayId todo =>
      apply tidy_rest startPending_fits
      rintro value ⟨⟩
      exact fits.2
  | deleteTail => exact fits.elim
  | deletionSweep => exact fits.elim
  | deletionTail => exact fits.elim
  | deletionStart => exact fits.elim

end Tasks

/-! ### Steps -/

/-- A step keeps the order, and a gateway without a thread is at most opened again. -/
structure Kept (s t : State) : Prop where
  orderly : Orderly t
  rows : ∀ gatewayId status jobId job, s.prov gatewayId = none → Row s.db gatewayId status jobId job →
    ∃ later after, Row t.db gatewayId later jobId after ∧ Reopened status later job after

section Steps

variable {s : State}

theorem orderly_initial (initial : Initial s) : Orderly s where
  rows := by
    intro gatewayId status found
    rw [statusOf, initial.gateways gatewayId] at found
    cases found
  owned := by
    intro jobId card found
    rw [cardOf, initial.jobs jobId] at found
    cases found
  threads := by
    intro gatewayId active
    rw [initial.prov gatewayId] at active
    cases active
  tasks := by
    intro id task found
    rw [initial.tasks id] at found
    cases found

theorem Orderly.kept (orderly : Orderly s) : Kept s s :=
  ⟨orderly, fun _ status _ job _ row => ⟨status, job, row, .inl ⟨rfl, rfl⟩⟩⟩

/-- A commit on one gateway, with its thread's new place. -/
theorem Orderly.write {after : Db} {gatewayId jobId : Nat} {status : GatewayStatus} {job : JobStatus}
    {prov : Nat → Option ProvThread} (orderly : Orderly s) (grows : Grows s.db after)
    (writes : Writes s.db after gatewayId status jobId job)
    (others : ∀ other, other ≠ gatewayId → prov other = s.prov other)
    (fits : ThreadFits status job jobId (prov gatewayId)) : Orderly { s with db := after, prov } where
  rows := by
    intro other stored found
    by_cases same : other = gatewayId
    · subst same
      rw [writes.row.stored] at found
      cases found
      exact ⟨jobId, job, writes.row, fits⟩
    · dsimp only at found
      rw [writes.loc.statuses other same] at found
      obtain ⟨id, own, mine, place⟩ := orderly.rows other stored found
      refine ⟨id, own, writes.loc.row same mine, ?_⟩
      dsimp only
      rw [others other same]
      exact place
  owned := by
    intro id card found
    by_cases same : card.gatewayId = gatewayId
    · rw [same, writes.row.stored]
      rfl
    · exact grows.present _ (orderly.owned id card (writes.loc.back id card found same))
  threads := by
    intro other active
    by_cases same : other = gatewayId
    · rw [same, writes.row.stored]
      rfl
    · dsimp only at active
      rw [others other same] at active
      exact grows.present _ (orderly.threads other active)
  tasks := fun id task found => grows.taskFits (orderly.tasks id task found)

theorem Orderly.setProv {gatewayId jobId : Nat} {before : GatewayStatus} {was : JobStatus}
    {result : Db × Option ProvThread} (orderly : Orderly s) (row : Row s.db gatewayId before jobId was)
    (leads : Leads s.db gatewayId jobId result) {thread : ProvThread} (active : s.prov gatewayId = some thread) :
    Kept s (s.setProv gatewayId result) := by
  obtain ⟨status, job, writes, fits⟩ := leads
  refine ⟨orderly.write (writes.grows row) writes (fun other same => Function.update_of_ne same _ _) ?_, ?_⟩
  · simpa [State.setProv] using fits
  · intro other stored id own idle mine
    have same : other ≠ gatewayId := by
      rintro rfl
      rw [active] at idle
      cases idle
    exact ⟨stored, own, writes.loc.row same mine, .inl ⟨rfl, rfl⟩⟩

/-- An opened gateway still fits the place of its thread, unless the thread is at its error. -/
theorem ThreadFits.reopened {status later : GatewayStatus} {job : JobStatus} {jobId : Nat}
    {thread : Option ProvThread} (fits : ThreadFits status job jobId thread)
    (calm : ∀ active, thread = some active → active.pc ≠ .erred)
    (change : later = status ∨ (later = .pending ∧ (status = .error ∨ status = .provisioning))) :
    ThreadFits later .pending jobId thread := by
  cases thread with
  | none => trivial
  | some active =>
      obtain ⟨requested, own, place⟩ := fits
      refine ⟨requested, own, ?_⟩
      have away := calm active rfl
      have still : status = .ready → later = .ready := by
        rintro rfl
        rcases change with same | ⟨-, impossible | impossible⟩
        · exact same
        · cases impossible
        · cases impossible
      cases pc : active.pc <;> simp only [pc] at place away ⊢
      · rfl
      · rfl
      · rfl
      · rfl
      · rfl
      · exact still place
      · exact still place
      · exact still place
      · exact absurd rfl away

theorem Orderly.tidy {outcome : Outcome} (orderly : Orderly s) (tidy : Tidy s outcome) :
    Kept s { s with db := outcome.db } := by
  rcases tidy.change with same | ⟨gatewayId, jobId, effect, calm⟩
  · rw [same]
    exact orderly.kept
  · obtain ⟨status, job, later, row, fits, writes, change⟩ := orderly.prepared effect
    have away : ∀ active, s.prov gatewayId = some active → active.pc ≠ .erred :=
      fun active found erred => calm ⟨active, found, erred⟩
    refine ⟨orderly.write (writes.grows row) writes (fun _ _ => rfl) (fits.reopened away change), ?_⟩
    intro other stored id own idle mine
    by_cases same : other = gatewayId
    · subst same
      obtain ⟨rfl, eq⟩ := row.unique mine.card rfl
      cases eq
      have was : stored = status := Option.some.inj (mine.stored.symm.trans row.stored)
      subst was
      refine ⟨later, .pending, writes.row, .inr ⟨rfl, ?_⟩⟩
      rcases change with same | ⟨pending, -⟩
      · exact .inl same
      · exact .inr pending
    · exact ⟨stored, own, writes.loc.row same mine, .inl ⟨rfl, rfl⟩⟩

theorem Orderly.startThread {start : Option Start} (orderly : Orderly s)
    (fits : ∀ value, start = some value → StartFits s.db value) : Orderly (s.startThread start) := by
  cases start with
  | none => exact orderly
  | some value =>
      cases value with
      | deletion gatewayId jobId => exact (fits _ rfl).elim
      | provisioning gatewayId jobId =>
          obtain ⟨card, found, own⟩ := fits _ rfl
          obtain ⟨status, stored⟩ := Option.isSome_iff_exists.mp (orderly.owned jobId card found)
          rw [own] at stored
          obtain ⟨id, job, row, -⟩ := orderly.rows gatewayId status stored
          have same : jobId = id := row.only jobId card found own
          subst same
          unfold State.startThread
          dsimp only
          split
          · exact orderly
          · refine orderly.write (.refl _) row.refl (fun other different => Function.update_of_ne different _ _) ?_
            simp only [Function.update_self]
            exact ⟨rfl, rfl, trivial⟩

/-- The database and the threads stay, and a task that is new fits. -/
theorem Orderly.tasked {t : State} (orderly : Orderly s) (db : t.db = s.db) (prov : t.prov = s.prov)
    (tasks : ∀ id task, t.tasks.get id = some task → s.tasks.get id = some task ∨ TaskFits s.db task) : Orderly t := by
  refine ⟨?_, ?_, ?_, ?_⟩
  · rw [db, prov]
    exact orderly.rows
  · rw [db]
    exact orderly.owned
  · rw [db, prov]
    exact orderly.threads
  · intro id task found
    rw [db]
    exact (tasks id task found).elim (orderly.tasks id task) fun fine => fine

theorem Orderly.addTask {task : Option Task} (orderly : Orderly s)
    (fits : ∀ value, task = some value → TaskFits s.db value) : Orderly (s.addTask task) := by
  apply orderly.tasked (db_addTask s task) (prov_addTask s task)
  intro id value found
  exact (tasks_addTask_some found).imp_right (fits value)

theorem Orderly.setTask {id : Nat} {task : Option Task} (orderly : Orderly s)
    (fits : ∀ value, task = some value → TaskFits s.db value) : Orderly (s.setTask id task) := by
  apply orderly.tasked (db_setTask s id task) (prov_setTask s id task)
  intro other value found
  exact (tasks_setTask_some found).imp_right (fits value)

theorem Orderly.row_of_thread {gatewayId : Nat} {thread : ProvThread} (orderly : Orderly s)
    (active : s.prov gatewayId = some thread) :
    ∃ jobId status job, Row s.db gatewayId status jobId job ∧ ThreadFits status job jobId (some thread) := by
  obtain ⟨status, stored⟩ := Option.isSome_iff_exists.mp (orderly.threads gatewayId (by rw [active]; rfl))
  obtain ⟨jobId, job, row, fits⟩ := orderly.rows gatewayId status stored
  rw [active] at fits
  exact ⟨jobId, status, job, row, fits⟩

theorem Kept.of_db {middle t : State} (kept : Kept s middle) (orderly : Orderly t) (db : t.db = middle.db) :
    Kept s t :=
  ⟨orderly, fun gatewayId status jobId job idle row => by
    rw [db]
    exact kept.rows gatewayId status jobId job idle row⟩

theorem grows_created {calls : CreationCalls} {request : CreateGatewayRequest} {db after : Db} {gatewayId jobId : Nat}
    (created : Created calls request db after gatewayId jobId) : Grows db after where
  present := by
    intro id found
    rw [statusOf_created created]
    split
    · rfl
    · exact found
  belongs := by
    rintro other id ⟨card, found, own⟩
    refine ⟨card, ?_, own⟩
    rw [cardOf_created created, if_neg, found]
    have known := lt_next_of_card found
    omega

theorem Orderly.created {calls : CreationCalls} {request : CreateGatewayRequest} {after : Db} {gatewayId jobId : Nat}
    (orderly : Orderly s) (created : Created calls request s.db after gatewayId jobId) :
    Kept s { s with db := after } := by
  have statuses := statusOf_created created
  have cards := cardOf_created created
  have absent : statusOf s.db gatewayId = none := statusOf_eq_none (Nat.le_of_eq created.gateway_id.symm)
  have fresh : cardOf s.db jobId = none := cardOf_eq_none (Nat.le_of_eq created.job_id.symm)
  rw [← created.gateway_id] at statuses
  rw [← created.job_id] at cards
  have writes : Writes s.db after gatewayId .pending jobId .pending := by
    refine ⟨⟨?_, ?_, ?_⟩, by rw [statuses, if_pos rfl], by rw [cards, if_pos rfl], ?_, fun _ => rfl⟩
    · intro other different
      rw [statuses, if_neg different]
    · intro id card found _
      rw [cards, if_neg, found]
      rintro rfl
      rw [fresh] at found
      cases found
    · intro id card found different
      rw [cards] at found
      split at found
      · cases found
        exact absurd rfl different
      · exact found
    · intro id card found own
      rw [cards] at found
      split at found
      · assumption
      · have owner := orderly.owned id card found
        rw [own, absent] at owner
        cases owner
  have idle : s.prov gatewayId = none := by
    by_contra active
    have present := orderly.threads gatewayId (Option.isSome_iff_ne_none.mpr active)
    rw [absent] at present
    cases present
  refine ⟨orderly.write (grows_created created) writes (fun _ _ => rfl) (by rw [idle]; trivial), ?_⟩
  intro other status id job _ row
  refine ⟨status, job, writes.loc.row ?_ row, .inl ⟨rfl, rfl⟩⟩
  rintro rfl
  rw [row.stored] at absent
  cases absent

theorem step_keeps_order {event : Event} {t : State} (orderly : Orderly s) (serving : Serving s event)
    (stepped : step s event = some t) : Kept s t := by
  obtain ⟨creating, undisturbed⟩ := serving
  cases event with
  | create calls request =>
      simp only [step] at stepped
      split at stepped
      · cases stepped
        exact orderly.kept
      · rename_i db gatewayId jobId created
        cases stepped
        obtain ⟨effect⟩ := createGateway_ok created
        have kept := orderly.created effect
        refine kept.of_db (kept.orderly.addTask ?_) (db_addTask _ _)
        rintro value ⟨⟩
        exact ⟨_, (cardOf_created effect jobId).trans (if_pos effect.job_id), rfl⟩
  | retry gatewayId =>
      cases stepped
      have tidy := retryNext_tidy orderly undisturbed
      have kept := orderly.tidy tidy
      refine kept.of_db ((kept.orderly.addTask tidy.task).startThread ?_) (by simp)
      simpa using tidy.start
  | requestDelete => cases creating
  | beginSweep =>
      cases stepped
      refine orderly.kept.of_db (orderly.addTask ?_) rfl
      rintro value ⟨⟩ id member
      obtain ⟨entry, listed, rfl⟩ := List.mem_map.mp member
      rw [statusOf_isSome, Table.mem_toList.mp listed]
      rfl
  | beginDeletionSweep => cases creating
  | task id stale choice =>
      obtain ⟨task, found, rfl⟩ := Option.map_eq_some_iff.mp stepped
      have tidy := taskNext_tidy orderly (orderly.tasks id task found) stale choice (by
        rintro gatewayId todo rfl none_
        exact undisturbed gatewayId todo found none_)
      have kept := orderly.tidy tidy
      refine kept.of_db ((kept.orderly.setTask tidy.task).startThread ?_) (by simp)
      simpa using tidy.start
  | taskStop id =>
      obtain ⟨task, found, rfl⟩ := Option.map_eq_some_iff.mp stepped
      exact orderly.kept.of_db (orderly.setTask nofun) rfl
  | prov gatewayId stale choice calls =>
      obtain ⟨thread, active, rfl⟩ := Option.map_eq_some_iff.mp stepped
      obtain ⟨jobId, status, job, row, fits⟩ := orderly.row_of_thread active
      exact orderly.setProv row (provNext_leads calls stale choice row fits) active
  | provRaise gatewayId text =>
      obtain ⟨thread, active, raised⟩ := Option.bind_eq_some_iff.mp stepped
      split at raised
      · cases raised
        obtain ⟨jobId, status, job, row, fits⟩ := orderly.row_of_thread active
        exact orderly.setProv row (failThread_leads row fits.1 fits.2.1 text) active
      · cases raised
  | provStop gatewayId =>
      obtain ⟨thread, active, rfl⟩ := Option.map_eq_some_iff.mp stepped
      obtain ⟨jobId, status, job, row, fits⟩ := orderly.row_of_thread active
      exact orderly.setProv row (leads_end row) active
  | provRestart gatewayId =>
      obtain ⟨thread, active, rfl⟩ := Option.map_eq_some_iff.mp stepped
      obtain ⟨jobId, status, job, row, fits⟩ := orderly.row_of_thread active
      exact orderly.setProv row ⟨status, job, row.refl, fits.1, fits.1, trivial⟩ active
  | del => cases creating
  | delStop => cases creating
  | delRestart => cases creating
  | crash =>
      cases stepped
      refine orderly.kept.of_db ⟨?_, orderly.owned, nofun, nofun⟩ rfl
      intro gatewayId status found
      obtain ⟨jobId, job, row, -⟩ := orderly.rows gatewayId status found
      exact ⟨jobId, job, row, trivial⟩

end Steps

theorem orderly_of_reaches {start s : State} (initial : Initial start) (reached : Reaches step Serving start s) :
    Orderly s :=
  reached.invariant (orderly_initial initial) fun _ _ _ orderly serving stepped =>
    (step_keeps_order orderly serving stepped).orderly

/-! ### A pass -/

/-- The gateway is still to be visited, or it was just prepared and its thread is started next. -/
def Remaining (gatewayId : Nat) (job : JobStatus) : Task → Prop
  | .sweep todo => gatewayId ∈ todo
  | .sweepTail visited todo => gatewayId ∈ todo ∨ (visited = gatewayId ∧ job = .pending)
  | .sweepStart _ todo => gatewayId ∈ todo
  | _ => False

structure Unserved (gatewayId pass : Nat) (s : State) : Prop where
  idle : s.prov gatewayId = none
  waiting : ∃ status jobId job, Row s.db gatewayId status jobId job ∧ isWaiting status = true ∧
    ∃ task, s.tasks.get pass = some task ∧ Remaining gatewayId job task

section Pass

variable {s : State} {gatewayId jobId : Nat} {status : GatewayStatus} {job : JobStatus}

theorem prepareThen_task (task : Task) (present : (statusOf s.db gatewayId).isSome) :
    (prepareThen s.db gatewayId task).start = none ∧ (prepareThen s.db gatewayId task).task = some task ∧
      ∃ id, PrepareEffect s.db (prepareThen s.db gatewayId task).db gatewayId id := by
  unfold prepareThen
  cases prepared : prepareProvisioning s.db gatewayId with
  | error error =>
      rw [statusOf_isSome] at present
      obtain ⟨gateway, found⟩ := Option.isSome_iff_exists.mp present
      unfold prepareProvisioning at prepared
      simp only [found] at prepared
      split at prepared <;> cases prepared
  | ok after => exact ⟨rfl, rfl, prepareProvisioning_ok prepared⟩

theorem sweepVisit_rest (active : Nat → Bool) (todo : List Nat) (present : (statusOf s.db gatewayId).isSome) :
    ∃ task, (sweepVisit active s.db gatewayId todo).task = some task ∧
      (task = .sweep todo ∨ task = .sweepTail gatewayId todo ∨ task = .sweepStart gatewayId todo) := by
  unfold sweepVisit
  split
  · rename_i absent
    rw [statusOf_isSome, absent] at present
    cases present
  · split
    · exact ⟨_, rfl, .inl rfl⟩
    · split
      · exact ⟨_, (prepareThen_task _ present).2.1, .inr (.inr rfl)⟩
      · split
        · exact ⟨_, (prepareThen_task _ present).2.1, .inr (.inl rfl)⟩
        · exact ⟨_, rfl, .inl rfl⟩
        · exact ⟨_, rfl, .inl rfl⟩
        · exact ⟨_, rfl, .inl rfl⟩

/-- A waiting gateway is started at its visit, or prepared to be started next. -/
theorem sweepVisit_waiting (active : Nat → Bool) (todo : List Nat) (row : Row s.db gatewayId status jobId job)
    (waiting : isWaiting status = true) (idle : active gatewayId = false) :
    (∃ id, (sweepVisit active s.db gatewayId todo).start = some (.provisioning gatewayId id)) ∨
      ((sweepVisit active s.db gatewayId todo).task = some (.sweepTail gatewayId todo) ∧
        cardOf (sweepVisit active s.db gatewayId todo).db jobId = some ⟨gatewayId, .createGateway, .pending⟩) := by
  have opened := row.opened waiting
  obtain ⟨gateway, found, same⟩ := Option.map_eq_some_iff.mp row.stored
  have needs : needsProvisioning gateway = true := by
    cases stored : gateway.status <;> rw [stored] at same <;> subst same <;> simp_all [needsProvisioning, isWaiting]
  unfold sweepVisit
  simp only [found, needs, idle, Bool.not_true, Bool.or_false, Bool.false_eq_true, if_false]
  cases latest : getLatestCreateJob s.db gatewayId with
  | none =>
      have type := latestCreate_none latest row.card rfl
      cases type
  | some entry =>
      obtain ⟨id, latestJob⟩ := entry
      obtain ⟨rfl, eq⟩ := row.unique (latestCreate_some latest) rfl
      have stands : latestJob.status = job := congrArg Card.status eq
      rw [← stands] at opened
      have present : (statusOf s.db gatewayId).isSome := by
        rw [row.stored]
        rfl
      simp only
      split
      · obtain ⟨-, task, other, effect⟩ := prepareThen_task (.sweepTail gatewayId todo) present
        obtain ⟨later, writes, -⟩ := row.prepared effect
        exact .inr ⟨task, writes.row.card⟩
      · exact .inl ⟨_, rfl⟩
      · rename_i completed
        rw [completed] at opened
        cases opened
      · rename_i failed
        rw [failed] at opened
        cases opened

/-- The pass's own step starts the gateway's thread or leaves the gateway to do. -/
theorem taskNext_remaining {task : Task} (row : Row s.db gatewayId status jobId job) (waiting : isWaiting status = true)
    (idle : s.prov gatewayId = none) (remaining : Remaining gatewayId job task) (fits : TaskFits s.db task)
    (stale : Bool) (choice : Nat) :
    let outcome := taskNext (fun g => (s.prov g).isSome) (fun g => (s.del g).isSome) stale choice s.db task
    (∃ id, outcome.start = some (.provisioning gatewayId id)) ∨
      ∃ later, outcome.task = some later ∧ ∀ after,
        cardOf outcome.db jobId = some ⟨gatewayId, .createGateway, after⟩ → Remaining gatewayId after later := by
  cases task with
  | sweep todo =>
      cases todo with
      | nil => cases remaining
      | cons visited todo =>
          by_cases here : visited = gatewayId
          · subst here
            have inactive : (fun g => (s.prov g).isSome) visited = false := by
              dsimp only
              rw [idle]
              rfl
            rcases sweepVisit_waiting (fun g => (s.prov g).isSome) todo row waiting inactive with started | ⟨tail, card⟩
            · exact .inl started
            · refine .inr ⟨_, tail, ?_⟩
              intro after found
              have same := found.symm.trans card
              exact .inr ⟨rfl, congrArg Card.status (Option.some.inj same)⟩
          · have later : gatewayId ∈ todo := by
              rcases List.mem_cons.mp remaining with same | rest
              · exact absurd same.symm here
              · exact rest
            obtain ⟨task, next, form⟩ := sweepVisit_rest (fun g => (s.prov g).isSome) todo
              (fits visited List.mem_cons_self)
            refine .inr ⟨task, next, fun after _ => ?_⟩
            rcases form with rfl | rfl | rfl
            · exact later
            · exact .inl later
            · exact later
  | sweepTail visited todo =>
      simp only [taskNext]
      split
      · rename_i start started
        obtain ⟨id, type, rfl, -⟩ := startPending_some started
        by_cases here : visited = gatewayId
        · subst here
          exact .inl ⟨id, rfl⟩
        · refine .inr ⟨_, rfl, fun after _ => ?_⟩
          rcases remaining with later | ⟨same, -⟩
          · exact later
          · exact absurd same here
      · rename_i none_
        refine .inr ⟨_, (prepareThen_task _ fits.1).2.1, fun after _ => ?_⟩
        rcases remaining with later | ⟨rfl, rfl⟩
        · exact later
        · exact absurd rfl (pending_none (Option.map_eq_none_iff.mp none_) row.card rfl)
  | sweepStart visited todo => exact .inr ⟨_, rfl, fun _ _ => remaining⟩
  | createTail => exact remaining.elim
  | retryTail => exact remaining.elim
  | deleteTail => exact remaining.elim
  | deletionSweep => exact remaining.elim
  | deletionTail => exact remaining.elim
  | deletionStart => exact remaining.elim

theorem task_addTask {id : Nat} {task : Task} (found : s.tasks.get id = some task) (other : Option Task) :
    (s.addTask other).tasks.get id = some task := by
  cases other with
  | none => exact found
  | some other => exact Table.get_insert_of_get found other

theorem task_setTask {id other : Nat} {task : Task} (found : s.tasks.get id = some task) (different : id ≠ other)
    (next : Option Task) : (s.setTask other next).tasks.get id = some task := by
  cases next with
  | none => exact (Table.get_delete_of_ne different s.tasks).trans found
  | some next => exact (Table.get_modify_of_ne different s.tasks _).trans found

/-- Only the pass's own step takes it further. -/
theorem task_kept {event : Event} {t : State} {pass : Nat} {task : Task} (passing : Passing pass s event)
    (other : ∀ stale choice, event ≠ .task pass stale choice) (found : s.tasks.get pass = some task)
    (stepped : step s event = some t) : t.tasks.get pass = some task := by
  obtain ⟨⟨creating, -⟩, alive, unstopped⟩ := passing
  cases event with
  | create calls request =>
      simp only [step] at stepped
      split at stepped
      · cases stepped
        exact found
      · cases stepped
        refine task_addTask ?_ _
        exact found
  | retry gatewayId =>
      cases stepped
      rw [tasks_startThread]
      refine task_addTask ?_ _
      exact found
  | beginSweep =>
      cases stepped
      exact task_addTask found _
  | task id stale choice =>
      obtain ⟨_, _, rfl⟩ := Option.map_eq_some_iff.mp stepped
      rw [tasks_startThread]
      refine task_setTask ?_ ?_ _
      · exact found
      · rintro rfl
        exact other stale choice rfl
  | taskStop id =>
      obtain ⟨_, _, rfl⟩ := Option.map_eq_some_iff.mp stepped
      refine task_setTask found ?_ none
      rintro rfl
      exact unstopped rfl
  | prov =>
      obtain ⟨_, _, rfl⟩ := Option.map_eq_some_iff.mp stepped
      exact found
  | provRaise =>
      obtain ⟨_, _, raised⟩ := Option.bind_eq_some_iff.mp stepped
      split at raised <;> cases raised
      exact found
  | provStop =>
      obtain ⟨_, _, rfl⟩ := Option.map_eq_some_iff.mp stepped
      exact found
  | provRestart =>
      obtain ⟨_, _, rfl⟩ := Option.map_eq_some_iff.mp stepped
      exact found
  | crash => exact absurd rfl alive
  | requestDelete => cases creating
  | beginDeletionSweep => cases creating
  | del => cases creating
  | delStop => cases creating
  | delRestart => cases creating

theorem waiting_reopened {later : GatewayStatus} {after : JobStatus} (waiting : isWaiting status = true)
    (reopened : Reopened status later job after) : isWaiting later = true := by
  rcases reopened with ⟨rfl, -⟩ | ⟨-, rfl | rfl⟩
  · exact waiting
  · exact waiting
  · rfl

theorem Remaining.reopened {later : GatewayStatus} {after : JobStatus} {task : Task}
    (remaining : Remaining gatewayId job task) (reopened : Reopened status later job after) :
    Remaining gatewayId after task := by
  rcases reopened with ⟨-, rfl⟩ | ⟨rfl, -⟩
  · exact remaining
  · cases task with
    | sweepTail visited todo =>
        rcases remaining with rest | ⟨here, -⟩
        · exact .inl rest
        · exact .inr ⟨here, rfl⟩
    | _ => exact remaining

/-- In one step of the pass the gateway gets its thread or stays to do. -/
theorem step_serves {event : Event} {t : State} {pass : Nat} (orderly : Orderly s) (unserved : Unserved gatewayId pass s)
    (passing : Passing pass s event) (stepped : step s event = some t) :
    (t.prov gatewayId).isSome ∨ Unserved gatewayId pass t := by
  obtain ⟨idle, status, jobId, job, row, waiting, task, found, remaining⟩ := unserved
  cases still : t.prov gatewayId with
  | some thread => exact .inl rfl
  | none =>
      obtain ⟨later, after, row', reopened⟩ :=
        (step_keeps_order orderly passing.1 stepped).rows gatewayId status jobId job idle row
      refine .inr ⟨still, later, jobId, after, row', waiting_reopened waiting reopened, ?_⟩
      by_cases own : ∃ stale choice, event = .task pass stale choice
      · obtain ⟨stale, choice, rfl⟩ := own
        simp only [step, found, Option.map_some, Option.some.injEq] at stepped
        rcases taskNext_remaining row waiting idle remaining (orderly.tasks pass task found) stale choice with
          ⟨id, started⟩ | ⟨next, tasked, remains⟩
        · have active := startThread_active ({ s with db := (taskNext (fun g => (s.prov g).isSome)
            (fun g => (s.del g).isSome) stale choice s.db task).db }.setTask pass (taskNext (fun g => (s.prov g).isSome)
            (fun g => (s.del g).isSome) stale choice s.db task).task) gatewayId id
          rw [← started, stepped, still] at active
          cases active
        · rw [← stepped, db_startThread, db_setTask] at row'
          refine ⟨next, ?_, remains after row'.card⟩
          rw [← stepped, tasks_startThread, tasked]
          simp [State.setTask, found]
      · refine ⟨task, task_kept passing ?_ found stepped, remaining.reopened reopened⟩
        intro stale choice same
        exact own ⟨stale, choice, same⟩

theorem pass_serves {t : State} {pass : Nat} (orderly : Orderly s) (unserved : Unserved gatewayId pass s)
    (ran : Reaches step (Passing pass) s t) :
    (∃ u, Reaches step (Passing pass) s u ∧ Reaches step (Passing pass) u t ∧ (u.prov gatewayId).isSome) ∨
      (Orderly t ∧ Unserved gatewayId pass t) := by
  induction ran with
  | refl => exact .inr ⟨orderly, unserved⟩
  | @tail middle t earlier next ih =>
      rcases ih with ⟨u, before, after, served⟩ | ⟨orderly, unserved⟩
      · exact .inl ⟨u, before, Relation.ReflTransGen.tail after next, served⟩
      · obtain ⟨event, passing, stepped⟩ := next
        rcases step_serves orderly unserved passing stepped with served | still
        · exact .inl ⟨t, Relation.ReflTransGen.tail earlier ⟨event, passing, stepped⟩, .refl, served⟩
        · exact .inr ⟨(step_keeps_order orderly passing.1 stepped).orderly, still⟩

end Pass

/-- A gateway that waits without a thread is given one by the time the next pass has ended. -/
theorem sweep_serves_waiting {start s begun t : State} {gatewayId : Nat} {status : GatewayStatus}
    (initial : Initial start) (reached : Reaches step Serving start s)
    (stored : statusOf s.db gatewayId = some status) (waiting : status = .pending ∨ status = .provisioning)
    (idle : s.prov gatewayId = none) (started : step s .beginSweep = some begun)
    (ran : Reaches step (Passing s.tasks.next) begun t) (ended : t.tasks.get s.tasks.next = none) :
    ∃ u, Reaches step (Passing s.tasks.next) begun u ∧ Reaches step (Passing s.tasks.next) u t ∧
      (u.prov gatewayId).isSome := by
  have orderly := orderly_of_reaches initial reached
  have serving : Serving s .beginSweep := ⟨rfl, trivial⟩
  have orderly' : Orderly begun := (step_keeps_order orderly serving started).orderly
  obtain ⟨jobId, job, row, -⟩ := orderly.rows gatewayId status stored
  cases started
  have listed : gatewayId ∈ gatewayIds s.db := by
    obtain ⟨gateway, found, -⟩ := Option.map_eq_some_iff.mp stored
    exact List.mem_map.mpr ⟨(gatewayId, gateway), Table.mem_toList.mpr found, rfl⟩
  have waits : isWaiting status = true := by
    rcases waiting with rfl | rfl
    · rfl
    · rfl
  have unserved : Unserved gatewayId s.tasks.next (s.addTask (some (.sweep (gatewayIds s.db)))) :=
    ⟨idle, status, jobId, job, row, waits, _, Table.get_insert_self _ _, listed⟩
  rcases pass_serves orderly' unserved ran with served | ⟨-, -, _, _, _, _, _, task, found, -⟩
  · exact served
  · rw [ended] at found
    cases found

/-! ### Two passes -/

/-- A decidable condition enough for `Serving`: no retry at all, and no sweep between a preparation and the start. -/
def isCalm (s : State) : Event → Bool
  | .create _ _ | .beginSweep | .prov _ _ _ _ | .crash => true
  | .task id _ _ =>
      match s.tasks.get id with
      | some (.sweepTail _ _) => false
      | _ => true
  | _ => false

theorem serving_of_isCalm (s : State) (event : Event) (calm : isCalm s event = true) : Serving s event := by
  cases event with
  | create => exact ⟨rfl, trivial⟩
  | beginSweep => exact ⟨rfl, trivial⟩
  | prov => exact ⟨rfl, trivial⟩
  | crash => exact ⟨rfl, trivial⟩
  | task id stale choice =>
      refine ⟨rfl, ?_⟩
      intro gatewayId todo found
      simp [isCalm, found] at calm
  | _ => cases calm

/-- The process dies before the thread of a new gateway is started; the first pass starts it. -/
theorem crashed_creation_served :
    ∃ s begun t u, Reaches step Serving oneWorker s ∧ statusOf s.db 1 = some .pending ∧ s.prov 1 = none ∧
      step s .beginSweep = some begun ∧ Reaches step (Passing 1) begun t ∧ t.tasks.get 1 = none ∧
      Reaches step (Passing 1) begun u ∧ Reaches step (Passing 1) u t ∧ (u.prov 1).isSome := by
  let isSweepStep (s : State) (event : Event) : Bool := isCalm s event && event matches .task _ _ _
  have created : (Lib.run step isCalm oneWorker [createFirst, .crash]).any
      (fun s => statusOf s.db 1 = some .pending && s.prov 1 = none && s.tasks.next = 1 &&
        (step s .beginSweep).any fun begun =>
          (Lib.run step isSweepStep begun [.task 1 false 0, .task 1 false 0]).any fun t =>
            t.tasks.get 1 = none) = true := by
    decide +kernel
  obtain ⟨s, arrived, facts⟩ := Lib.exists_of_any created
  simp only [Bool.and_eq_true, decide_eq_true_eq] at facts
  obtain ⟨⟨⟨stored, idle⟩, next⟩, later⟩ := facts
  obtain ⟨begun, started, passed⟩ := Lib.exists_of_any later
  obtain ⟨t, swept, gone⟩ := Lib.exists_of_any passed
  have reached := Lib.reaches_of_run serving_of_isCalm arrived
  have ran : Reaches step (Passing 1) begun t := by
    refine Lib.reaches_of_run ?_ swept
    intro s event checked
    obtain ⟨calm, form⟩ := Bool.and_eq_true_iff.mp checked
    refine ⟨serving_of_isCalm s event calm, ?_, ?_⟩
    · rintro rfl
      cases form
    · rintro rfl
      cases form
  have ended : t.tasks.get 1 = none := of_decide_eq_true gone
  rw [← next] at ran ended
  obtain ⟨u, before, after, served⟩ :=
    sweep_serves_waiting oneWorker_initial reached stored (.inl rfl) idle started ran ended
  rw [next] at ran ended before after
  exact ⟨s, begun, t, u, reached, stored, idle, started, ran, ended, before, after, served⟩

/-- A retry opens the gateway between the timeout and the completion of its job; the next pass does nothing. -/
theorem reopened_gateway_stuck :
    ∃ start s begun middle t, Initial start ∧ Reaches step (fun _ event => event.isDeletion = false) start s ∧
      statusOf s.db 1 = some .pending ∧ s.prov 1 = none ∧ step s .beginSweep = some begun ∧
      step begun (.task 3 false 0) = some middle ∧ step middle (.task 3 false 0) = some t ∧ t.tasks.get 3 = none ∧
      begun.prov 1 = none ∧ middle.prov 1 = none ∧ t.prov 1 = none := by
  have ran : (Lib.run step (fun _ event => !event.isDeletion) oneWorker
      [createFirst, .task 1 false 0, advanceFirst, advanceFirst, advanceFirst, advanceFirst, advanceFirst, advanceFirst,
        .retry 1, .task 2 false 0, advanceFirst, advanceFirst]).any (fun s =>
      statusOf s.db 1 = some .pending && s.prov 1 = none &&
        (step s .beginSweep).any fun begun =>
          (step begun (.task 3 false 0)).any fun middle =>
            (step middle (.task 3 false 0)).any fun t =>
              t.tasks.get 3 = none && begun.prov 1 = none && middle.prov 1 = none && t.prov 1 = none) = true := by
    decide +kernel
  obtain ⟨s, arrived, facts⟩ := Lib.exists_of_any ran
  simp only [Bool.and_eq_true, decide_eq_true_eq] at facts
  obtain ⟨⟨stored, idle⟩, later⟩ := facts
  obtain ⟨begun, started, visit⟩ := Lib.exists_of_any later
  obtain ⟨middle, visited, rest⟩ := Lib.exists_of_any visit
  obtain ⟨t, swept, idles⟩ := Lib.exists_of_any rest
  simp only [Bool.and_eq_true, decide_eq_true_eq] at idles
  obtain ⟨⟨⟨gone, first⟩, second⟩, third⟩ := idles
  have reached : Reaches step (fun _ event => event.isDeletion = false) oneWorker s :=
    Lib.reaches_of_run (fun _ event checked => by simpa using checked) arrived
  exact ⟨oneWorker, s, begun, middle, t, oneWorker_initial, reached, stored, idle, started, visited, swept, gone, first,
    second, third⟩

end DeepOrc.Workers
