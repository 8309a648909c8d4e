import DeepOrc.Enrollment.Enrollments
import DeepOrc.Lib.Machine

/-!
# Enrollment calls statement by statement

Each call runs in its own session; between two of its statements other sessions may run, and time passes. A session sees
what the others have committed. A name another session has inserted makes an insert wait for that session's end.
-/

namespace DeepOrc.Enrollment

open Lib (Reaches Table)
open Models (PyError Worker)

/-- A completion that has read its enrollment. -/
structure Completing where
  token : String
  request : CompleteEnrollmentRequest
  addRemote : Except PyError Unit
  id : Nat
  row : WorkerEnrollment

/-- The statement a call has reached. -/
inductive Session where
  | registerSelect (request : RegisterWorkerRequest)
  | registerInsert (worker : Worker)
  | registerCommit (worker : Worker)
  | enrollLatest (calls : EnrollCalls)
  | enrollWorkers (calls : EnrollCalls)
  | enrollNames (calls : EnrollCalls) (workers : List Worker)
  | enrollSelect (calls : EnrollCalls) (identity : String × String)
  | enrollInsert (row : WorkerEnrollment)
  | enrollCommit (row : WorkerEnrollment)
  | refreshUpdate (id : Nat) (token key : String)
  | refreshCommit (id : Nat) (token key : String)
  | completeSelect (token : String) (request : CompleteEnrollmentRequest) (addRemote : Except PyError Unit)
  | completeCheck (completing : Completing)
  | completeInsert (completing : Completing) (checkedAt : Nat)
  | completeUpdate (completing : Completing) (checkedAt : Nat) (worker : Worker)
  | completeCommit (completing : Completing) (checkedAt : Nat) (worker : Worker) (usedAt : Nat)

/-- The name of the worker row a session has inserted and not committed. -/
def Session.pendingName : Session → Option String
  | .registerCommit worker => some worker.name
  | .completeUpdate _ _ worker => some worker.name
  | .completeCommit _ _ worker _ => some worker.name
  | _ => none

/-- What a commit writes. -/
inductive Write where
  | register (worker : Worker)
  | enroll (row : WorkerEnrollment)
  | refresh (id : Nat) (token key : String)
  | complete (completing : Completing) (checkedAt : Nat) (worker : Worker) (usedAt : Nat)

/-- What the next statement of a session leads to. -/
inductive Advance where
  | to (session : Session)
  | raise
  | return
  | wait
  | commit (write : Write)

def Call.session : Call → Session
  | .register request => .registerSelect request
  | .create calls => .enrollLatest calls
  | .complete token request addRemote => .completeSelect token request addRemote

/-- `INSERT INTO workers` -/
def insertWorker (workers : Table Worker) (locked : String → Bool) (worker : Worker) (inserted : Session) : Advance :=
  if (getByName workers worker.name).isSome then .raise
  else if locked worker.name then .wait
  else .to inserted

def orRaise {α : Type} (outcome : Except PyError α) (next : α → Advance) : Advance :=
  match outcome with
  | .ok value => next value
  | .error _ => .raise

/-- `locked` tells which names other sessions have inserted. -/
def advance (settings : WorkerSettings) (now : Nat) (tables : Tables) (locked : String → Bool) : Session → Advance
  | .registerSelect request =>
      orRaise (checkWorkerName tables.workers request.name) fun _ => .to (.registerInsert (registeredWorker settings request))
  | .registerInsert worker => insertWorker tables.workers locked worker (.registerCommit worker)
  | .registerCommit worker => .commit (.register worker)
  | .enrollLatest calls =>
      match getLatestActive tables.enrollments now calls.choice with
      | some (id, existing) =>
          match existing.secrets with
          | some _ => .return
          | none => orRaise calls.key fun key => .to (.refreshUpdate id calls.token key)
      | none => .to (.enrollWorkers calls)
  | .enrollWorkers calls => .to (.enrollNames calls (tables.workers.toList.map Prod.snd))
  | .enrollNames calls workers =>
      orRaise (nextWorkerIdentity workers (listActiveNames tables.enrollments now)) fun identity =>
        .to (.enrollSelect calls identity)
  | .enrollSelect calls identity =>
      orRaise (checkWorkerName tables.workers identity.1) fun _ =>
        orRaise calls.key fun key => .to (.enrollInsert (newEnrollment now identity calls.token key))
  | .enrollInsert row => orRaise (checkToken tables.enrollments row.tokenHash) fun _ => .to (.enrollCommit row)
  | .enrollCommit row => .commit (.enroll row)
  | .refreshUpdate id token key =>
      orRaise (checkToken tables.enrollments token) fun _ => .to (.refreshCommit id token key)
  | .refreshCommit id token key => .commit (.refresh id token key)
  | .completeSelect token request addRemote =>
      orRaise (openEnrollment tables.enrollments token) fun entry =>
        .to (.completeCheck ⟨token, request, addRemote, entry.1, entry.2⟩)
  | .completeCheck completing =>
      orRaise (checkUnexpired now completing.row) fun _ =>
        orRaise (checkWorkerName tables.workers completing.row.name) fun _ => .to (.completeInsert completing now)
  | .completeInsert completing checkedAt =>
      orRaise completing.addRemote fun _ =>
        orRaise (enrolledWorker settings completing.row completing.request) fun worker =>
          insertWorker tables.workers locked worker (.completeUpdate completing checkedAt worker)
  | .completeUpdate completing checkedAt worker => .to (.completeCommit completing checkedAt worker now)
  | .completeCommit completing checkedAt worker usedAt => .commit (.complete completing checkedAt worker usedAt)

/-- A worker that was committed for an enrollment. -/
structure Completion where
  token : String
  enrollmentId : Nat
  workerId : Nat
  checkedAt : Nat
  expiresAt : Nat
  usedAt : Nat
  completedAt : Nat
deriving DecidableEq, Repr

/-- The committed tables, the open sessions, the enrollment each committed token was issued for, and the completions. -/
structure Enrolling where
  clock : Nat
  tables : Tables
  sessions : Table Session
  issued : String → Option Nat
  completions : List Completion

/-- A token is drawn once: no commit issues one a second time. -/
def Enrolling.write (s : Enrolling) : Write → Option Enrolling
  | .register worker => some { s with tables := { s.tables with workers := s.tables.workers.insert worker } }
  | .enroll row =>
      if (s.issued row.tokenHash).isSome then none
      else
        some { s with
          tables := { s.tables with enrollments := s.tables.enrollments.insert row }
          issued := Function.update s.issued row.tokenHash (some s.tables.enrollments.next) }
  | .refresh id token key =>
      if (s.issued token).isSome then none
      else
        some { s with
          tables := { s.tables with
            enrollments := s.tables.enrollments.modify id (WorkerEnrollment.refresh token key) }
          issued := Function.update s.issued token (some id) }
  | .complete completing checkedAt worker usedAt =>
      let workerId := s.tables.workers.next
      some { s with
        tables := {
          workers := s.tables.workers.insert worker
          enrollments := s.tables.enrollments.modify completing.id (WorkerEnrollment.use usedAt workerId) }
        completions := ⟨completing.token, completing.id, workerId, checkedAt, completing.row.expiresAt, usedAt, s.clock⟩ ::
          s.completions }

inductive SessionEvent where
  | tick (now : Nat)
  | begin (call : Call)
  | advance (session : Nat)
  | abort (session : Nat)

def Enrolling.locked (s : Enrolling) (own : Nat) (name : String) : Bool :=
  s.sessions.toList.any fun entry => entry.1 != own && entry.2.pendingName == some name

def stepSession (settings : WorkerSettings) (s : Enrolling) : SessionEvent → Option Enrolling
  | .tick now => if now < s.clock then none else some { s with clock := now }
  | .begin call => some { s with sessions := s.sessions.insert call.session }
  | .advance id =>
      (s.sessions.get id).bind fun session =>
        match advance settings s.clock s.tables (s.locked id) session with
        | .to next => some { s with sessions := s.sessions.modify id fun _ => next }
        | .raise | .return => some { s with sessions := s.sessions.delete id }
        | .wait => none
        | .commit write => { s with sessions := s.sessions.delete id }.write write
  | .abort id => (s.sessions.get id).map fun _ => { s with sessions := s.sessions.delete id }

/-- No session is open; every stored token was issued for its row. -/
structure Unopened (s : Enrolling) : Prop where
  names : s.tables.workers.Unique Worker.name
  issued : ∀ id row, s.tables.enrollments.get id = some row → s.issued row.tokenHash = some id
  known : ∀ token id, s.issued token = some id → (s.tables.enrollments.get id).isSome = true
  sessions : ∀ id, s.sessions.get id = none
  completions : s.completions = []

/-! ### What one statement does -/

theorem orRaise_to {α : Type} {outcome : Except PyError α} {next : α → Advance} {session : Session}
    (advanced : orRaise outcome next = .to session) : ∃ value, outcome = .ok value ∧ next value = .to session := by
  cases outcome with
  | error error => cases advanced
  | ok value => exact ⟨value, rfl, advanced⟩

theorem orRaise_commit {α : Type} {outcome : Except PyError α} {next : α → Advance} {write : Write}
    (advanced : orRaise outcome next = .commit write) : ∃ value, outcome = .ok value ∧ next value = .commit write := by
  cases outcome with
  | error error => cases advanced
  | ok value => exact ⟨value, rfl, advanced⟩

theorem insertWorker_to {workers : Table Worker} {locked : String → Bool} {worker : Worker} {inserted session : Session}
    (advanced : insertWorker workers locked worker inserted = .to session) :
    session = inserted ∧ (∀ id other, workers.get id = some other → other.name ≠ worker.name) ∧
      locked worker.name = false := by
  unfold insertWorker at advanced
  split at advanced
  · cases advanced
  · rename_i absent
    split at advanced
    · cases advanced
    · rename_i unlocked
      cases advanced
      refine ⟨rfl, getByName_none_iff.mp ?_, by simpa using unlocked⟩
      cases found : getByName workers worker.name with
      | none => rfl
      | some entry =>
          rw [found] at absent
          exact absurd rfl absent

theorem insertWorker_not_commit {workers : Table Worker} {locked : String → Bool} {worker : Worker} {inserted : Session}
    {write : Write} : insertWorker workers locked worker inserted ≠ .commit write := by
  unfold insertWorker
  split
  · exact fun same => by cases same
  · split
    · exact fun same => by cases same
    · exact fun same => by cases same

end DeepOrc.Enrollment
