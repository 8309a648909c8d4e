import DeepOrc.Lib.Text
import DeepOrc.Models
import DeepOrc.Naming
import Mathlib.Data.List.MinMax

/-!
# Worker enrollments

An enrollment reserves the name of a worker to come for a day. Tokens stand for their hashes and keys for their
encryptions: hashing is free of collisions, and what was encrypted decrypts to itself.
-/

namespace DeepOrc.Enrollment

open Lib (Table)
open Models (PyError Worker)

structure WorkerEnrollment where
  tokenHash : String
  name : String
  displayName : String
  tailscaleHostname : String
  expiresAt : Nat
  enrollTokenEnc : Option String
  headscaleAuthKeyEnc : Option String
  usedAt : Option Nat
  workerId : Option Nat
  createdAt : Nat
deriving DecidableEq, Repr

structure Tables where
  workers : Table Worker
  enrollments : Table WorkerEnrollment

structure WorkerSettings where
  portPoolStart : Nat
  portPoolEnd : Nat
  ipPoolBroadcast : Nat
  ipPoolStart : Nat

/-! ### Queries -/

/-- `used_at IS NULL AND expires_at > now` -/
def WorkerEnrollment.active (now : Nat) (row : WorkerEnrollment) : Bool := row.usedAt.isNone && decide (now < row.expiresAt)

def getByName (workers : Table Worker) (name : String) : Option (Nat × Worker) :=
  workers.toList.find? fun entry => entry.2.name = name

def getByTokenHash (enrollments : Table WorkerEnrollment) (tokenHash : String) : Option (Nat × WorkerEnrollment) :=
  enrollments.toList.find? fun entry => entry.2.tokenHash = tokenHash

def listActiveNames (enrollments : Table WorkerEnrollment) (now : Nat) : List String :=
  (enrollments.toList.filter fun entry => entry.2.active now).map fun entry => entry.2.name

/-- `ORDER BY created_at DESC LIMIT 1`: among rows created at the same time any may come back. -/
def getLatestActive (enrollments : Table WorkerEnrollment) (now choice : Nat) : Option (Nat × WorkerEnrollment) :=
  enrollments.anyRow (fun row => row.active now &&
    enrollments.toList.all fun other => !other.2.active now || decide (other.2.createdAt ≤ row.createdAt)) choice

/-! ### `register_worker` -/

structure RegisterWorkerRequest where
  name : String
  displayName : Option String
  incusUrl : Option String
  portPoolStart : Option Nat
  portPoolEnd : Option Nat
  ipPoolBroadcast : Option Nat
  ipPoolStart : Option Nat

/-- Python's `or`: zero counts as missing. -/
def orNat (value : Option Nat) (default : Nat) : Nat := (value.filter (· ≠ 0)).getD default

def registeredWorker (settings : WorkerSettings) (request : RegisterWorkerRequest) : Worker where
  name := request.name
  displayName := (Lib.Text.given request.displayName).getD request.name
  incusUrl := request.incusUrl.getD ""
  enabled := true
  lastSeenAt := none
  portPoolStart := orNat request.portPoolStart settings.portPoolStart
  portPoolEnd := orNat request.portPoolEnd settings.portPoolEnd
  ipPoolBroadcast := orNat request.ipPoolBroadcast settings.ipPoolBroadcast
  ipPoolStart := orNat request.ipPoolStart settings.ipPoolStart

/-- The check that no worker has the name. -/
def checkWorkerName (workers : Table Worker) (name : String) : Except PyError Unit :=
  if (getByName workers name).isSome then .error (.value s!"Worker {name} already exists") else .ok ()

def registerWorker (settings : WorkerSettings) (tables : Tables) (request : RegisterWorkerRequest) :
    Except PyError Tables := do
  checkWorkerName tables.workers request.name
  return { tables with workers := tables.workers.insert (registeredWorker settings request) }

/-! ### `create_enrollment` -/

def workerName (index : Nat) : String := "worker" ++ toString index

def workerIndices : List Nat := (List.range 999).map (· + 1)

/-- The names of the local workers do not count as taken. -/
def nextWorkerIdentity (workers : List Worker) (activeNames : List String) : Except PyError (String × String) :=
  let taken := (workers.filter fun worker => !worker.isLocal).map Worker.name ++ activeNames
  match workerIndices.find? fun index => !taken.contains (workerName index) with
  | some index => .ok (workerName index, "Worker " ++ toString index)
  | none => .error (.value "No available worker name")

/-- A day in microseconds. -/
def enrollmentLifetime : Nat := 24 * 3600 * 1000000

def newEnrollment (now : Nat) (identity : String × String) (token key : String) : WorkerEnrollment where
  tokenHash := token
  name := identity.1
  displayName := identity.2
  tailscaleHostname := identity.1
  expiresAt := now + enrollmentLifetime
  enrollTokenEnc := some token
  headscaleAuthKeyEnc := some key
  usedAt := none
  workerId := none
  createdAt := now

def WorkerEnrollment.refresh (token key : String) (row : WorkerEnrollment) : WorkerEnrollment :=
  { row with tokenHash := token, enrollTokenEnc := some token, headscaleAuthKeyEnc := some key }

/-- What a call draws from outside: the row a query without a full order returns, the preauth key and the token. -/
structure EnrollCalls where
  choice : Nat
  preauth : Except PyError String
  token : String

/-- `create_worker_preauth_key`, where a `HeadscaleError` becomes a `ValueError`. -/
def EnrollCalls.key (calls : EnrollCalls) : Except PyError String :=
  match calls.preauth with
  | .ok key => .ok key
  | .error (.headscale text) => .error (.value s!"Failed to create Tailscale auth key: {text}")
  | .error error => .error error

structure EnrollWorkerResult where
  enrollToken : String
  tailscaleAuthKey : String
  name : String
  displayName : String
  tailscaleHostname : String
deriving DecidableEq, Repr

def enrollmentResult (enrollment : WorkerEnrollment) (token key : String) : EnrollWorkerResult :=
  ⟨token, key, enrollment.name, enrollment.displayName, enrollment.tailscaleHostname⟩

/-- The token and the key of an enrollment that still has both. -/
def WorkerEnrollment.secrets (row : WorkerEnrollment) : Option (String × String) :=
  match row.enrollTokenEnc, row.headscaleAuthKeyEnc with
  | some token, some key => if token = "" ∨ key = "" then none else some (token, key)
  | _, _ => none

/-- The unique constraint on the hashes. -/
def checkToken (enrollments : Table WorkerEnrollment) (token : String) : Except PyError Unit :=
  if (getByTokenHash enrollments token).isSome then .error (.integrity "UNIQUE constraint failed") else .ok ()

def refreshEnrollment (calls : EnrollCalls) (tables : Tables) (id : Nat) (row : WorkerEnrollment) :
    Except PyError (Tables × Nat × EnrollWorkerResult) := do
  let key ← calls.key
  checkToken tables.enrollments calls.token
  return ({ tables with enrollments := tables.enrollments.modify id (WorkerEnrollment.refresh calls.token key) }, id,
    enrollmentResult row calls.token key)

/-- The result comes with the id of the enrollment it is about. -/
def createEnrollment (now : Nat) (calls : EnrollCalls) (tables : Tables) :
    Except PyError (Tables × Nat × EnrollWorkerResult) :=
  match getLatestActive tables.enrollments now calls.choice with
  | some (id, existing) =>
      match existing.secrets with
      | some (token, key) => .ok (tables, id, enrollmentResult existing token key)
      | none => refreshEnrollment calls tables id existing
  | none => do
      let identity ← nextWorkerIdentity (tables.workers.toList.map Prod.snd) (listActiveNames tables.enrollments now)
      checkWorkerName tables.workers identity.1
      let key ← calls.key
      checkToken tables.enrollments calls.token
      let row := newEnrollment now identity calls.token key
      return ({ tables with enrollments := tables.enrollments.insert row }, tables.enrollments.next,
        enrollmentResult row calls.token key)

/-! ### `complete_enrollment` -/

structure CompleteEnrollmentRequest where
  tailscaleIp : String
  incusTrustToken : String
  publicIp : String

def strip (text : String) : String := String.ofList (Naming.strip text.toList)

def openEnrollment (enrollments : Table WorkerEnrollment) (token : String) : Except PyError (Nat × WorkerEnrollment) :=
  match getByTokenHash enrollments token with
  | none => .error (.value "Invalid enrollment token")
  | some (id, row) =>
      if row.usedAt.isSome then .error (.value "Enrollment token already used") else .ok (id, row)

def checkUnexpired (now : Nat) (row : WorkerEnrollment) : Except PyError Unit :=
  if row.expiresAt ≤ now then .error (.value "Enrollment token expired") else .ok ()

/-- The remote is added under the worker's name with its address and trust token; `addRemote` is how that ends. -/
def enrolledWorker (settings : WorkerSettings) (row : WorkerEnrollment) (request : CompleteEnrollmentRequest) :
    Except PyError Worker :=
  if strip request.publicIp = "" then .error (.value "Worker public IP is required")
  else
    .ok {
      name := row.name
      displayName := row.displayName
      incusUrl := "https://" ++ strip request.tailscaleIp ++ ":8443"
      enabled := true
      lastSeenAt := none
      portPoolStart := settings.portPoolStart
      portPoolEnd := settings.portPoolEnd
      ipPoolBroadcast := settings.ipPoolBroadcast
      ipPoolStart := settings.ipPoolStart }

def WorkerEnrollment.use (now workerId : Nat) (row : WorkerEnrollment) : WorkerEnrollment :=
  { row with usedAt := some now, workerId := some workerId }

def completeEnrollment (settings : WorkerSettings) (now : Nat) (tables : Tables) (token : String)
    (request : CompleteEnrollmentRequest) (addRemote : Except PyError Unit) : Except PyError Tables := do
  let (id, row) ← openEnrollment tables.enrollments token
  checkUnexpired now row
  checkWorkerName tables.workers row.name
  addRemote
  let worker ← enrolledWorker settings row request
  return {
    workers := tables.workers.insert worker
    enrollments := tables.enrollments.modify id (WorkerEnrollment.use now tables.workers.next) }

inductive Call where
  | register (request : RegisterWorkerRequest)
  | create (calls : EnrollCalls)
  | complete (token : String) (request : CompleteEnrollmentRequest) (addRemote : Except PyError Unit)

/-! ### What the queries find -/

theorem getByName_none_iff {workers : Table Worker} {name : String} :
    getByName workers name = none ↔ ∀ id worker, workers.get id = some worker → worker.name ≠ name := by
  unfold getByName
  rw [List.find?_eq_none]
  constructor
  · intro absent id worker present
    simpa using absent (id, worker) (Table.mem_toList.mpr present)
  · intro absent entry member
    simpa using absent entry.1 entry.2 (Table.mem_toList.mp member)

theorem checkWorkerName_ok_iff {workers : Table Worker} {name : String} :
    checkWorkerName workers name = .ok () ↔ ∀ id worker, workers.get id = some worker → worker.name ≠ name := by
  rw [← getByName_none_iff]
  unfold checkWorkerName
  cases getByName workers name <;> simp

theorem getByTokenHash_some {enrollments : Table WorkerEnrollment} {tokenHash : String} {id : Nat}
    {row : WorkerEnrollment} (found : getByTokenHash enrollments tokenHash = some (id, row)) :
    enrollments.get id = some row ∧ row.tokenHash = tokenHash := by
  refine ⟨Table.mem_toList.mp (List.mem_of_find?_eq_some found), ?_⟩
  simpa using List.find?_some found

theorem checkToken_ok_iff {enrollments : Table WorkerEnrollment} {token : String} :
    checkToken enrollments token = .ok () ↔
      ∀ id row, enrollments.get id = some row → row.tokenHash ≠ token := by
  unfold checkToken getByTokenHash
  constructor
  · intro passed id row present same
    have member := Table.mem_toList.mpr present
    cases found : enrollments.toList.find? fun entry => entry.2.tokenHash = token with
    | none =>
        have other := List.find?_eq_none.mp found (id, row) member
        exact other (by simpa using same)
    | some entry =>
        rw [found] at passed
        cases passed
  · intro fresh
    have missing : enrollments.toList.find? (fun entry => entry.2.tokenHash = token) = none := by
      rw [List.find?_eq_none]
      intro entry member
      simpa using fresh entry.1 entry.2 (Table.mem_toList.mp member)
    rw [missing]
    rfl

theorem active_iff {now : Nat} {row : WorkerEnrollment} :
    row.active now = true ↔ row.usedAt = none ∧ now < row.expiresAt := by
  simp [WorkerEnrollment.active]

theorem getLatestActive_some {enrollments : Table WorkerEnrollment} {now choice id : Nat} {row : WorkerEnrollment}
    (found : getLatestActive enrollments now choice = some (id, row)) :
    enrollments.get id = some row ∧ row.active now = true := by
  obtain ⟨present, wanted⟩ := Table.get_of_anyRow found
  exact ⟨present, ((Bool.and_eq_true _ _).mp wanted).1⟩

theorem getLatestActive_none_iff {enrollments : Table WorkerEnrollment} {now choice : Nat} :
    getLatestActive enrollments now choice = none ↔
      ∀ id row, enrollments.get id = some row → row.active now = false := by
  unfold getLatestActive
  rw [Table.anyRow_eq_none]
  constructor
  · intro none_ id row present
    by_contra isActive
    have member : (id, row) ∈ enrollments.toList.filter fun entry => entry.2.active now :=
      List.mem_filter.mpr ⟨Table.mem_toList.mpr present, by simpa using isActive⟩
    cases newest : (enrollments.toList.filter fun entry => entry.2.active now).argmax fun entry => entry.2.createdAt with
    | none =>
        rw [List.argmax_eq_none] at newest
        rw [newest] at member
        cases member
    | some entry =>
        obtain ⟨stored, active⟩ := List.mem_filter.mp (List.argmax_mem newest)
        have unwanted := none_ entry.1 entry.2 (Table.mem_toList.mp stored)
        rw [active, Bool.true_and, List.all_eq_false] at unwanted
        obtain ⟨other, listed, later⟩ := unwanted
        simp only [Bool.or_eq_true, Bool.not_eq_true', decide_eq_true_eq, not_or, Bool.not_eq_false] at later
        have bound := List.le_of_mem_argmax (List.mem_filter.mpr ⟨listed, later.1⟩) newest
        exact later.2 bound
  · intro idle id row present
    rw [idle id row present]
    rfl

end DeepOrc.Enrollment
