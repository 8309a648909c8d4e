import DeepOrc.Enrollment.Enrollments
import DeepOrc.Lib.Machine

/-!
# Whether an enrollment can be used

Three notions of a taken name meet: an identity avoids the names of the workers with an Incus URL, the check after it
those of all workers, and an enrollment handed out again is not checked at all.
-/

namespace DeepOrc.Enrollment

open Lib (Reaches Table)
open Models (PyError Worker)

/-! ### One call after another -/

structure State where
  clock : Nat
  tables : Tables

def perform (settings : WorkerSettings) (now : Nat) (tables : Tables) : Call → Except PyError Tables
  | .register request => registerWorker settings tables request
  | .create calls => (createEnrollment now calls tables).map Prod.fst
  | .complete token request addRemote => completeEnrollment settings now tables token request addRemote

/-- A call happens at a time. One that raises is rolled back. -/
def step (settings : WorkerSettings) (s : State) (event : Nat × Call) : Option State :=
  if event.1 < s.clock then none
  else
    match perform settings event.1 s.tables event.2 with
    | .ok tables => some ⟨event.1, tables⟩
    | .error _ => some ⟨event.1, s.tables⟩

/-! ### Usable enrollments -/

/-- The call returns an unused and unexpired enrollment under the name of no worker. -/
def Usable (now : Nat) (calls : EnrollCalls) (tables : Tables) : Prop :=
  ∃ after id result row, createEnrollment now calls tables = .ok (after, id, result) ∧
    after.enrollments.get id = some row ∧ row.active now = true ∧ result.name = row.name ∧
      ∀ worker entry, after.workers.get worker = some entry → entry.name ≠ row.name

def workerNamed (tables : Tables) (name : String) : Prop := ∃ id worker, tables.workers.get id = some worker ∧ worker.name = name

/-- A worker that counts as taken for the next identity. -/
def remoteNamed (tables : Tables) (name : String) : Prop :=
  ∃ id worker, tables.workers.get id = some worker ∧ worker.name = name ∧ worker.isLocal = false

/-- No worker took the name of an active enrollment meanwhile. Without one, the first name that no remote worker has is
not a local worker's. -/
structure NamesAgree (now : Nat) (tables : Tables) : Prop where
  reserved : ∀ id row, tables.enrollments.get id = some row → row.active now = true → ¬ workerNamed tables row.name
  first : (∀ id row, tables.enrollments.get id = some row → row.active now = false) →
    ∀ index, 1 ≤ index → index ≤ 999 → ¬ remoteNamed tables (workerName index) →
      (∀ earlier, 1 ≤ earlier → earlier < index → remoteNamed tables (workerName earlier)) →
        ¬ workerNamed tables (workerName index)

/-- Some name is used by no worker and no active enrollment. -/
def SomeNameFree (now : Nat) (tables : Tables) : Prop :=
  ∃ index, 1 ≤ index ∧ index ≤ 999 ∧ ¬ workerNamed tables (workerName index) ∧
    ∀ id row, tables.enrollments.get id = some row → row.active now = true → row.name ≠ workerName index

/-! ### The next identity -/

theorem mem_workerIndices {index : Nat} : index ∈ workerIndices ↔ 1 ≤ index ∧ index ≤ 999 := by
  unfold workerIndices
  rw [List.mem_map]
  constructor
  · intro listed
    obtain ⟨below, member, same⟩ := listed
    have small := List.mem_range.mp member
    omega
  · intro bounds
    exact ⟨index - 1, List.mem_range.mpr (by omega), by omega⟩

theorem remote_taken_iff {tables : Tables} {name : String} :
    name ∈ ((tables.workers.toList.map Prod.snd).filter fun worker => !worker.isLocal).map Worker.name ↔
      remoteNamed tables name := by
  rw [List.mem_map]
  constructor
  · intro taken
    obtain ⟨worker, member, same⟩ := taken
    obtain ⟨listed, remote⟩ := List.mem_filter.mp member
    obtain ⟨⟨id, row⟩, stored, rfl⟩ := List.mem_map.mp listed
    exact ⟨id, row, Table.mem_toList.mp stored, same, by simpa using remote⟩
  · intro taken
    obtain ⟨id, worker, present, same, remote⟩ := taken
    have listed := List.mem_map_of_mem (f := Prod.snd) (Table.mem_toList.mpr present)
    exact ⟨worker, List.mem_filter.mpr ⟨listed, by simp [remote]⟩, same⟩

theorem find_workerIndices {accepts : Nat → Bool} {index : Nat} (found : workerIndices.find? accepts = some index) :
    accepts index = true ∧ 1 ≤ index ∧ index ≤ 999 ∧
      ∀ earlier, 1 ≤ earlier → earlier < index → accepts earlier = false := by
  obtain ⟨accepted, before, after, split, rejected⟩ := List.find?_eq_some_iff_append.mp found
  have bounds := mem_workerIndices.mp (List.mem_of_find?_eq_some found)
  refine ⟨accepted, bounds.1, bounds.2, ?_⟩
  intro earlier positive smaller
  have member : earlier ∈ before ++ index :: after := by
    rw [← split]
    exact mem_workerIndices.mpr ⟨positive, by omega⟩
  have ordered : (before ++ index :: after).Pairwise (· < ·) := by
    rw [← split, workerIndices, List.pairwise_map]
    exact List.pairwise_lt_range.imp fun smaller => by omega
  rcases List.mem_append.mp member with front | back
  · simpa using rejected earlier front
  · obtain ⟨-, tail, -⟩ := List.pairwise_append.mp ordered
    rcases List.mem_cons.mp back with same | rest
    · omega
    · have := (List.pairwise_cons.mp tail).1 earlier rest
      omega

theorem listActiveNames_idle {enrollments : Table WorkerEnrollment} {now : Nat}
    (idle : ∀ id row, enrollments.get id = some row → row.active now = false) : listActiveNames enrollments now = [] := by
  unfold listActiveNames
  rw [List.map_eq_nil_iff, List.filter_eq_nil_iff]
  intro entry member
  rw [idle entry.1 entry.2 (Table.mem_toList.mp member)]
  exact Bool.false_ne_true

/-- Without an active enrollment the next identity is the first name that no remote worker has. -/
theorem nextWorkerIdentity_idle {tables : Tables} {now : Nat}
    (idle : ∀ id row, tables.enrollments.get id = some row → row.active now = false) (free : SomeNameFree now tables) :
    ∃ index, 1 ≤ index ∧ index ≤ 999 ∧ ¬ remoteNamed tables (workerName index) ∧
      (∀ earlier, 1 ≤ earlier → earlier < index → remoteNamed tables (workerName earlier)) ∧
        nextWorkerIdentity (tables.workers.toList.map Prod.snd) (listActiveNames tables.enrollments now) =
          .ok (workerName index, "Worker " ++ toString index) := by
  unfold nextWorkerIdentity
  rw [listActiveNames_idle idle, List.append_nil]
  dsimp only
  cases found : workerIndices.find? fun index => !(((tables.workers.toList.map Prod.snd).filter fun worker =>
      !worker.isLocal).map Worker.name).contains (workerName index) with
  | none =>
      obtain ⟨index, positive, small, unused, -⟩ := free
      have taken := List.find?_eq_none.mp found index (mem_workerIndices.mpr ⟨positive, small⟩)
      simp only [Bool.not_eq_true', Bool.not_eq_false, List.contains_iff_mem] at taken
      obtain ⟨id, worker, present, same, -⟩ := remote_taken_iff.mp taken
      exact absurd ⟨id, worker, present, same⟩ unused
  | some index =>
      obtain ⟨accepted, positive, small, earlier⟩ := find_workerIndices found
      simp only [Bool.not_eq_false', List.contains_iff_mem] at earlier
      refine ⟨index, positive, small, ?_, fun other one less => remote_taken_iff.mp (earlier other one less), rfl⟩
      intro taken
      have listed := remote_taken_iff.mpr taken
      rw [Bool.not_eq_true', ← Bool.not_eq_true, List.contains_iff_mem] at accepted
      exact accepted listed

/-! ### What a call creates -/

theorem not_workerNamed_iff {tables : Tables} {name : String} :
    ¬ workerNamed tables name ↔ ∀ id worker, tables.workers.get id = some worker → worker.name ≠ name := by
  unfold workerNamed
  push Not
  rfl

theorem checkToken_fresh {enrollments : Table WorkerEnrollment} {token : String}
    (fresh : ∀ id row, enrollments.get id = some row → row.tokenHash ≠ token) : checkToken enrollments token = .ok () :=
  checkToken_ok_iff.mpr fresh

/-- An active enrollment is handed out again under its name. -/
theorem createEnrollment_again {now id : Nat} {calls : EnrollCalls} {tables : Tables} {row : WorkerEnrollment} {key : String}
    (latest : getLatestActive tables.enrollments now calls.choice = some (id, row)) (keys : calls.preauth = .ok key)
    (fresh : ∀ id row, tables.enrollments.get id = some row → row.tokenHash ≠ calls.token) :
    ∃ after result kept, createEnrollment now calls tables = .ok (after, id, result) ∧
      after.workers = tables.workers ∧ after.enrollments.get id = some kept ∧ kept.active now = true ∧
        kept.name = row.name ∧ result.name = row.name := by
  obtain ⟨present, active⟩ := getLatestActive_some latest
  unfold createEnrollment
  rw [latest]
  cases secrets : row.secrets with
  | some pair =>
      exact ⟨tables, enrollmentResult row pair.1 pair.2, row, by simp only [secrets], rfl, present, active, rfl, rfl⟩
  | none =>
      have drawn : calls.key = .ok key := by simp only [EnrollCalls.key, keys]
      refine ⟨{ tables with enrollments := tables.enrollments.modify id (WorkerEnrollment.refresh calls.token key) },
        enrollmentResult row calls.token key, row.refresh calls.token key, ?_, rfl, ?_, active, rfl, rfl⟩
      · simp only [secrets, refreshEnrollment, drawn, checkToken_fresh fresh]
        rfl
      · rw [Table.get_modify_self, present]
        rfl

theorem usable_again_iff {now id : Nat} {calls : EnrollCalls} {tables : Tables} {row : WorkerEnrollment} {key : String}
    (latest : getLatestActive tables.enrollments now calls.choice = some (id, row)) (keys : calls.preauth = .ok key)
    (fresh : ∀ id row, tables.enrollments.get id = some row → row.tokenHash ≠ calls.token) :
    Usable now calls tables ↔ ¬ workerNamed tables row.name := by
  obtain ⟨after, result, kept, created, workers, stored, active, same, named⟩ :=
    createEnrollment_again latest keys fresh
  rw [not_workerNamed_iff]
  constructor
  · intro usable worker entry present
    obtain ⟨other, otherId, otherResult, otherRow, created', stored', -, -, unnamed⟩ := usable
    rw [created] at created'
    obtain ⟨rfl, rfl, rfl⟩ : after = other ∧ id = otherId ∧ result = otherResult := by
      simpa using created'
    rw [stored] at stored'
    obtain rfl := Option.some.inj stored'
    rw [← same]
    exact unnamed worker entry (by rw [workers]; exact present)
  · intro unnamed
    refine ⟨after, id, result, kept, created, stored, active, named.trans same.symm, ?_⟩
    intro worker entry present
    rw [workers] at present
    rw [same]
    exact unnamed worker entry present

theorem createEnrollment_new {now : Nat} {calls : EnrollCalls} {tables : Tables} {identity : String × String} {key : String}
    (idle : ∀ id row, tables.enrollments.get id = some row → row.active now = false)
    (next : nextWorkerIdentity (tables.workers.toList.map Prod.snd) (listActiveNames tables.enrollments now) = .ok identity)
    (keys : calls.preauth = .ok key)
    (fresh : ∀ id row, tables.enrollments.get id = some row → row.tokenHash ≠ calls.token) :
    createEnrollment now calls tables = (checkWorkerName tables.workers identity.1).map fun _ =>
      ({ tables with enrollments := tables.enrollments.insert (newEnrollment now identity calls.token key) },
        tables.enrollments.next, enrollmentResult (newEnrollment now identity calls.token key) calls.token key) := by
  have none_ : getLatestActive tables.enrollments now calls.choice = none := getLatestActive_none_iff.mpr idle
  have drawn : calls.key = .ok key := by simp only [EnrollCalls.key, keys]
  unfold createEnrollment
  rw [none_]
  dsimp only
  rw [next]
  cases checked : checkWorkerName tables.workers identity.1 with
  | error error => simp only [bind, Except.bind, checked, Except.map]
  | ok _ =>
      simp only [bind, Except.bind, checked, drawn, checkToken_fresh fresh, Except.map]
      rfl

theorem active_newEnrollment (now : Nat) (identity : String × String) (token key : String) :
    (newEnrollment now identity token key).active now = true := by
  rw [active_iff]
  simp [newEnrollment, enrollmentLifetime]

theorem usable_new_iff {now : Nat} {calls : EnrollCalls} {tables : Tables} {identity : String × String} {key : String}
    (idle : ∀ id row, tables.enrollments.get id = some row → row.active now = false)
    (next : nextWorkerIdentity (tables.workers.toList.map Prod.snd) (listActiveNames tables.enrollments now) = .ok identity)
    (keys : calls.preauth = .ok key)
    (fresh : ∀ id row, tables.enrollments.get id = some row → row.tokenHash ≠ calls.token) :
    Usable now calls tables ↔ ¬ workerNamed tables identity.1 := by
  have created := createEnrollment_new idle next keys fresh
  rw [not_workerNamed_iff, ← checkWorkerName_ok_iff]
  constructor
  · intro usable
    obtain ⟨after, id, result, row, returned, -⟩ := usable
    rw [created] at returned
    cases checked : checkWorkerName tables.workers identity.1 with
    | ok _ => rfl
    | error error =>
        rw [checked] at returned
        cases returned
  · intro checked
    rw [checked] at created
    exact ⟨_, _, _, _, created, Table.get_insert_self _ _, active_newEnrollment _ _ _ _, rfl,
      checkWorkerName_ok_iff.mp checked⟩

/-! ### Runs -/

theorem active_of_later {now later : Nat} {row : WorkerEnrollment} (after : now ≤ later) (active : row.active later = true) :
    row.active now = true := by
  obtain ⟨unused, unexpired⟩ := active_iff.mp active
  exact active_iff.mpr ⟨unused, by omega⟩

/-- At most one enrollment is active. -/
def Single (now : Nat) (enrollments : Table WorkerEnrollment) : Prop :=
  ∀ first second one other, enrollments.get first = some one → enrollments.get second = some other →
    one.active now = true → other.active now = true → first = second

theorem Single.later {now later : Nat} {enrollments : Table WorkerEnrollment} (single : Single now enrollments)
    (after : now ≤ later) : Single later enrollments := by
  intro first second one other present present' active active'
  exact single first second one other present present' (active_of_later after active) (active_of_later after active')

theorem Single.modify {now id : Nat} {enrollments : Table WorkerEnrollment} {change : WorkerEnrollment → WorkerEnrollment}
    (single : Single now enrollments) (keeps : ∀ row, (change row).active now = true → row.active now = true) :
    Single now (enrollments.modify id change) := by
  intro first second one other present present' active active'
  obtain ⟨before, stored, changed⟩ := Table.get_modify_some present
  obtain ⟨before', stored', changed'⟩ := Table.get_modify_some present'
  apply single first second before before' stored stored'
  · rw [changed] at active
    split at active
    · exact keeps before active
    · exact active
  · rw [changed'] at active'
    split at active'
    · exact keeps before' active'
    · exact active'

theorem Single.insert {now : Nat} {enrollments : Table WorkerEnrollment} (row : WorkerEnrollment)
    (idle : ∀ id row, enrollments.get id = some row → row.active now = false) : Single now (enrollments.insert row) := by
  have newest : ∀ id other, (enrollments.insert row).get id = some other → other.active now = true →
      id = enrollments.next := by
    intro id other present active
    by_contra older
    rw [Table.get_insert_of_ne older] at present
    rw [idle id other present] at active
    cases active
  intro first second one other present present' active active'
  exact (newest first one present active).trans (newest second other present' active').symm

theorem single_createEnrollment {now : Nat} {calls : EnrollCalls} {tables after : Tables}
    {result : Nat × EnrollWorkerResult} (single : Single now tables.enrollments)
    (created : createEnrollment now calls tables = .ok (after, result)) : Single now after.enrollments := by
  unfold createEnrollment at created
  split at created
  · split at created
    · cases created
      exact single
    · unfold refreshEnrollment at created
      simp only [bind, Except.bind] at created
      split at created
      · cases created
      · split at created
        · cases created
        · cases created
          exact single.modify fun row active => active
  · rename_i latest
    have idle := getLatestActive_none_iff.mp latest
    simp only [bind, Except.bind] at created
    split at created
    · cases created
    · split at created
      · cases created
      · split at created
        · cases created
        · split at created
          · cases created
          · cases created
            exact Single.insert _ idle

theorem single_completeEnrollment {settings : WorkerSettings} {now : Nat} {tables after : Tables} {token : String}
    {request : CompleteEnrollmentRequest} {addRemote : Except PyError Unit} (single : Single now tables.enrollments)
    (completed : completeEnrollment settings now tables token request addRemote = .ok after) :
    Single now after.enrollments := by
  unfold completeEnrollment at completed
  simp only [bind, Except.bind] at completed
  split at completed
  · cases completed
  · split at completed
    · cases completed
    · split at completed
      · cases completed
      · split at completed
        · cases completed
        · split at completed
          · cases completed
          · cases completed
            apply single.modify
            intro row active
            have unused := (active_iff.mp active).1
            cases unused

theorem single_step {settings : WorkerSettings} {s t : State} {event : Nat × Call} (single : Single s.clock s.tables.enrollments)
    (stepped : step settings s event = some t) : Single t.clock t.tables.enrollments := by
  unfold step at stepped
  split at stepped
  · cases stepped
  · rename_i later
    have kept := single.later (Nat.le_of_not_lt later)
    split at stepped
    · rename_i tables performed
      cases stepped
      unfold perform at performed
      split at performed
      · unfold registerWorker at performed
        simp only [bind, Except.bind] at performed
        split at performed
        · cases performed
        · cases performed
          exact kept
      · rename_i calls _
        cases created : createEnrollment event.1 calls s.tables with
        | error error =>
            rw [created] at performed
            cases performed
        | ok made =>
            rw [created] at performed
            cases performed
            exact single_createEnrollment kept created
      · exact single_completeEnrollment kept performed
    · cases stepped
      exact kept

/-- Any workers and enrollments, but at most one of them active. -/
structure Initial (s : State) : Prop where
  single : Single s.clock s.tables.enrollments

theorem single_of_reaches {settings : WorkerSettings} {s t : State} (initial : Initial s)
    (reached : Reaches (step settings) (fun _ _ => True) s t) : Single t.clock t.tables.enrollments :=
  reached.invariant initial.single fun _ _ _ single _ stepped => single_step single stepped

/-- In a reachable state with a free name, and with a preauth key and a new token, a call returns a usable enrollment
exactly if the names taken by workers and by enrollments agree. -/
theorem enrollment_usable_iff {settings : WorkerSettings} {s t : State} {now : Nat} {calls : EnrollCalls} {key : String}
    (initial : Initial s) (reached : Reaches (step settings) (fun _ _ => True) s t) (later : t.clock ≤ now)
    (keys : calls.preauth = .ok key)
    (fresh : ∀ id row, t.tables.enrollments.get id = some row → row.tokenHash ≠ calls.token)
    (free : SomeNameFree now t.tables) : Usable now calls t.tables ↔ NamesAgree now t.tables := by
  have single := (single_of_reaches initial reached).later later
  cases latest : getLatestActive t.tables.enrollments now calls.choice with
  | some entry =>
      obtain ⟨id, row⟩ := entry
      obtain ⟨present, active⟩ := getLatestActive_some latest
      rw [usable_again_iff latest keys fresh]
      constructor
      · intro unnamed
        refine ⟨fun other otherRow present' active' => ?_, fun idle => ?_⟩
        · obtain rfl := single id other row otherRow present present' active active'
          rw [present] at present'
          obtain rfl := Option.some.inj present'
          exact unnamed
        · rw [idle id row present] at active
          cases active
      · intro agree
        exact agree.reserved id row present active
  | none =>
      have idle := getLatestActive_none_iff.mp latest
      obtain ⟨index, positive, small, unremote, earlier, next⟩ := nextWorkerIdentity_idle idle free
      rw [usable_new_iff idle next keys fresh]
      constructor
      · intro unnamed
        refine ⟨fun id row present active => ?_, fun _ other positive' small' unremote' earlier' => ?_⟩
        · rw [idle id row present] at active
          cases active
        · have same : other = index := by
            rcases Nat.lt_trichotomy other index with less | equal | more
            · exact absurd (earlier other positive' less) unremote'
            · exact equal
            · exact absurd (earlier' index positive more) unremote
          rw [same]
          exact unnamed
      · intro agree
        exact agree.first idle index positive small unremote earlier

/-! ### Names that do not agree -/

def defaultSettings : WorkerSettings := ⟨51001, 52000, 168493055, 168427786⟩

def noWorkers : State := ⟨0, Table.empty, Table.empty⟩

theorem noWorkers_initial : Initial noWorkers where
  single := by
    intro first second one other present
    cases present

def firstWorker (incusUrl : Option String) : RegisterWorkerRequest :=
  ⟨workerName 1, none, incusUrl, none, none, none, none⟩

def firstToken : EnrollCalls := ⟨0, .ok "hskey-auth-1", "token-1"⟩

theorem get_only {α : Type} {row other : α} {id : Nat} (found : (Table.empty.insert row).get id = some other) :
    other = row := by
  rw [Table.get_insert] at found
  split at found
  · exact (Option.some.inj found).symm
  · cases found

/-- A worker without an Incus URL is registered under the first name. -/
theorem enrollment_blocked_by_local_worker :
    ∃ s t, Initial s ∧ Reaches (step defaultSettings) (fun _ _ => True) s t ∧ t.clock ≤ 20 ∧
      (∀ id row, t.tables.enrollments.get id = some row → row.tokenHash ≠ firstToken.token) ∧
        SomeNameFree 20 t.tables ∧ createEnrollment 20 firstToken t.tables = .error (.value "Worker worker1 already exists") ∧
          ¬ Usable 20 firstToken t.tables := by
  let registered : State := ⟨10, ⟨Table.empty.insert (registeredWorker defaultSettings (firstWorker none)), Table.empty⟩⟩
  have stepped : step defaultSettings noWorkers (10, .register (firstWorker none)) = some registered := rfl
  have refused : createEnrollment 20 firstToken registered.tables = .error (.value "Worker worker1 already exists") := by
    have message : (match createEnrollment 20 firstToken registered.tables with
        | .error error => decide (error = .value "Worker worker1 already exists")
        | .ok _ => false) = true := by decide +kernel
    split at message
    · rename_i error failed
      have text := of_decide_eq_true message
      rw [failed, text]
    · cases message
  refine ⟨noWorkers, registered, noWorkers_initial, Reaches.tail .refl trivial stepped, by decide, ?_, ?_, refused, ?_⟩
  · intro id row present
    cases present
  · refine ⟨2, by decide, by decide, ?_, ?_⟩
    · intro named
      obtain ⟨id, worker, present, same⟩ := named
      rw [get_only present] at same
      revert same
      decide +kernel
    · intro id row present
      cases present
  · intro usable
    obtain ⟨after, id, result, row, created, -⟩ := usable
    rw [refused] at created
    cases created

theorem first_enrollment_usable : Usable 20 firstToken noWorkers.tables := by
  have unnamed (name : String) : ¬ workerNamed noWorkers.tables name := by
    intro named
    obtain ⟨id, worker, present, -⟩ := named
    cases present
  have fresh : ∀ id row, noWorkers.tables.enrollments.get id = some row → row.tokenHash ≠ firstToken.token := by
    intro id row present
    cases present
  have free : SomeNameFree 20 noWorkers.tables := by
    refine ⟨1, by decide, by decide, unnamed _, ?_⟩
    intro id row present
    cases present
  have settled : Reaches (step defaultSettings) (fun _ _ => True) noWorkers noWorkers := .refl
  refine (enrollment_usable_iff noWorkers_initial settled (by decide) rfl fresh free).mpr ⟨?_, ?_⟩
  · intro id row present
    cases present
  · intro _ index _ _ _ _
    exact unnamed _

end DeepOrc.Enrollment
