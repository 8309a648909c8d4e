import DeepOrc.Enrollment.Sessions

/-!
# One worker for an enrollment token

Two completions of one enrollment may pass all checks together. They insert the same name, which only one of them can
commit.
-/

namespace DeepOrc.Enrollment

open Lib (Reaches Table)
open Models (PyError Worker)

/-! ### What is kept -/

/-- Workers stay, enrollments keep their names and stay used, and tokens keep the enrollment they were issued for. -/
structure Grows (s t : Enrolling) : Prop where
  workers : ∀ id worker, s.tables.workers.get id = some worker → t.tables.workers.get id = some worker
  enrollments : ∀ id row, s.tables.enrollments.get id = some row →
    ∃ now, t.tables.enrollments.get id = some now ∧ now.name = row.name ∧ (row.usedAt ≠ none → now.usedAt ≠ none)
  issued : ∀ token id, s.issued token = some id → t.issued token = some id

theorem grows_of_same {s t : Enrolling} (tables : t.tables = s.tables) (issued : t.issued = s.issued) : Grows s t := by
  refine ⟨fun id worker present => ?_, fun id row present => ⟨row, ?_, rfl, fun used => used⟩, fun token id known => ?_⟩
  · rw [tables]
    exact present
  · rw [tables]
    exact present
  · rw [issued]
    exact known

/-- The enrollment of a completion's token is there, under the name the completion has read, and was not used at the
start. -/
structure Held (start s : Enrolling) (completing : Completing) : Prop where
  issued : s.issued completing.token = some completing.id
  row : ∃ row, s.tables.enrollments.get completing.id = some row ∧ row.name = completing.row.name
  unused : ∀ before, start.tables.enrollments.get completing.id = some before → before.usedAt = none

def SessionOk (start s : Enrolling) : Session → Prop
  | .enrollInsert row => row.usedAt = none
  | .enrollCommit row => row.usedAt = none
  | .refreshUpdate id _ _ => (s.tables.enrollments.get id).isSome = true
  | .refreshCommit id _ _ => (s.tables.enrollments.get id).isSome = true
  | .completeCheck completing => Held start s completing
  | .completeInsert completing checkedAt => Held start s completing ∧ checkedAt < completing.row.expiresAt
  | .completeUpdate completing checkedAt worker =>
      Held start s completing ∧ checkedAt < completing.row.expiresAt ∧ worker.name = completing.row.name
  | .completeCommit completing checkedAt worker _ =>
      Held start s completing ∧ checkedAt < completing.row.expiresAt ∧ worker.name = completing.row.name
  | _ => True

/-- The worker and the used enrollment are there, each with the other. -/
structure Together (s : Enrolling) (completion : Completion) : Prop where
  rows : ∃ worker row, s.tables.workers.get completion.workerId = some worker ∧
    s.tables.enrollments.get completion.enrollmentId = some row ∧ worker.name = row.name ∧
      row.usedAt = some completion.usedAt ∧ row.workerId = some completion.workerId
  issued : s.issued completion.token = some completion.enrollmentId

theorem Held.grows {start s t : Enrolling} {completing : Completing} (held : Held start s completing) (grows : Grows s t) :
    Held start t completing := by
  obtain ⟨row, present, name⟩ := held.row
  obtain ⟨now, present', kept, -⟩ := grows.enrollments _ row present
  exact ⟨grows.issued _ _ held.issued, ⟨now, present', kept.trans name⟩, held.unused⟩

theorem present_grows {s t : Enrolling} {id : Nat} (present : (s.tables.enrollments.get id).isSome = true)
    (grows : Grows s t) : (t.tables.enrollments.get id).isSome = true := by
  obtain ⟨row, found⟩ := Option.isSome_iff_exists.mp present
  obtain ⟨now, found', -⟩ := grows.enrollments id row found
  rw [found']
  rfl

theorem SessionOk.grows {start s t : Enrolling} {session : Session} (ok : SessionOk start s session) (grows : Grows s t) :
    SessionOk start t session := by
  cases session with
  | enrollInsert row => exact ok
  | enrollCommit row => exact ok
  | refreshUpdate id token key => exact present_grows ok grows
  | refreshCommit id token key => exact present_grows ok grows
  | completeCheck completing => exact Held.grows ok grows
  | completeInsert completing checkedAt => exact ⟨ok.1.grows grows, ok.2⟩
  | completeUpdate completing checkedAt worker => exact ⟨ok.1.grows grows, ok.2⟩
  | completeCommit completing checkedAt worker usedAt => exact ⟨ok.1.grows grows, ok.2⟩
  | _ => trivial

theorem enrollments_modify {enrollments : Table WorkerEnrollment} {id : Nat} {change : WorkerEnrollment → WorkerEnrollment}
    (keeps : ∀ row, (change row).name = row.name ∧ (row.usedAt ≠ none → (change row).usedAt ≠ none)) {other : Nat} {row : WorkerEnrollment}
    (present : enrollments.get other = some row) :
    ∃ now, (enrollments.modify id change).get other = some now ∧ now.name = row.name ∧
      (row.usedAt ≠ none → now.usedAt ≠ none) := by
  rw [Table.get_modify, present]
  split
  · exact ⟨change row, rfl, keeps row⟩
  · exact ⟨row, rfl, rfl, fun used => used⟩

theorem write_grows {s t : Enrolling} {write : Write} (written : s.write write = some t) : Grows s t := by
  have keepsUse (now workerId : Nat) (row : WorkerEnrollment) : (row.use now workerId).name = row.name ∧
      (row.usedAt ≠ none → (row.use now workerId).usedAt ≠ none) := ⟨rfl, fun _ => Option.some_ne_none now⟩
  have keepsRefresh (token key : String) (row : WorkerEnrollment) : (row.refresh token key).name = row.name ∧
      (row.usedAt ≠ none → (row.refresh token key).usedAt ≠ none) := ⟨rfl, fun used => used⟩
  have issuedUpdate {token : String} {value : Nat} (unissued : (s.issued token).isSome ≠ true) (other : String) (id : Nat)
      (known : s.issued other = some id) : Function.update s.issued token (some value) other = some id := by
    by_cases same : other = token
    · subst same
      rw [known] at unissued
      exact absurd rfl unissued
    · rw [Function.update_of_ne same]
      exact known
  cases write with
  | register worker =>
      obtain rfl := Option.some.inj written
      exact ⟨fun id other present => Table.get_insert_of_get present worker,
        fun id row present => ⟨row, present, rfl, fun used => used⟩, fun token id known => known⟩
  | enroll row =>
      simp only [Enrolling.write] at written
      split at written
      · cases written
      · rename_i unissued
        obtain rfl := Option.some.inj written
        exact ⟨fun id other present => present,
          fun id other present => ⟨other, Table.get_insert_of_get present row, rfl, fun used => used⟩,
          issuedUpdate unissued⟩
  | refresh id token key =>
      simp only [Enrolling.write] at written
      split at written
      · cases written
      · rename_i unissued
        obtain rfl := Option.some.inj written
        exact ⟨fun id other present => present,
          fun other row present => enrollments_modify (keepsRefresh token key) present, issuedUpdate unissued⟩
  | complete completing checkedAt worker usedAt =>
      obtain rfl := Option.some.inj written
      exact ⟨fun id other present => Table.get_insert_of_get present worker,
        fun other row present => enrollments_modify (keepsUse usedAt s.tables.workers.next) present,
        fun token id known => known⟩

/-! ### One statement -/

/-- The session that commits a write. -/
def Write.session : Write → Session
  | .register worker => .registerCommit worker
  | .enroll row => .enrollCommit row
  | .refresh id token key => .refreshCommit id token key
  | .complete completing checkedAt worker usedAt => .completeCommit completing checkedAt worker usedAt

section Advance

variable {settings : WorkerSettings} {start s : Enrolling} {now : Nat} {locked : String → Bool} {session next : Session}

theorem held_of_openEnrollment {token : String} {id : Nat} {row : WorkerEnrollment}
    (issued : ∀ id row, s.tables.enrollments.get id = some row → s.issued row.tokenHash = some id)
    (stays : ∀ id before, start.tables.enrollments.get id = some before → before.usedAt ≠ none →
      ∃ row, s.tables.enrollments.get id = some row ∧ row.usedAt ≠ none)
    (opened : openEnrollment s.tables.enrollments token = .ok (id, row)) (request : CompleteEnrollmentRequest)
    (addRemote : Except PyError Unit) : Held start s ⟨token, request, addRemote, id, row⟩ := by
  unfold openEnrollment at opened
  split at opened
  · cases opened
  · rename_i found
    split at opened
    · cases opened
    · rename_i free
      cases opened
      obtain ⟨present, same⟩ := getByTokenHash_some found
      refine ⟨same ▸ issued id row present, ⟨row, present, rfl⟩, fun before earlier => ?_⟩
      by_contra used
      obtain ⟨now, present', used'⟩ := stays id before earlier used
      rw [present] at present'
      cases present'
      exact used' (Option.not_isSome_iff_eq_none.mp free)

theorem name_enrolledWorker {row : WorkerEnrollment} {request : CompleteEnrollmentRequest} {worker : Worker}
    (made : enrolledWorker settings row request = .ok worker) : worker.name = row.name := by
  unfold enrolledWorker at made
  split at made
  · cases made
  · cases made
    rfl

/-- A name that a session has inserted was new to the committed workers and to the other sessions. -/
def NameOk (s : Enrolling) (locked : String → Bool) (session next : Session) : Prop :=
  ∀ name, next.pendingName = some name → session.pendingName = some name ∨
    (∀ id worker, s.tables.workers.get id = some worker → worker.name ≠ name) ∧ locked name = false

theorem nameOk_none (pending : next.pendingName = none) : NameOk s locked session next := by
  intro name inserted
  rw [pending] at inserted
  cases inserted

theorem advance_to (issued : ∀ id row, s.tables.enrollments.get id = some row → s.issued row.tokenHash = some id)
    (stays : ∀ id before, start.tables.enrollments.get id = some before → before.usedAt ≠ none →
      ∃ row, s.tables.enrollments.get id = some row ∧ row.usedAt ≠ none)
    (ok : SessionOk start s session) (advanced : advance settings now s.tables locked session = .to next) :
    SessionOk start s next ∧ NameOk s locked session next := by
  cases session with
  | registerSelect request =>
      obtain ⟨_, -, advanced⟩ := orRaise_to advanced
      cases advanced
      exact ⟨trivial, nameOk_none rfl⟩
  | registerInsert worker =>
      obtain ⟨rfl, fresh, unlocked⟩ := insertWorker_to advanced
      refine ⟨trivial, fun name inserted => ?_⟩
      obtain rfl := Option.some.inj inserted
      exact .inr ⟨fresh, unlocked⟩
  | registerCommit worker => cases advanced
  | enrollLatest calls =>
      simp only [advance] at advanced
      split at advanced
      · rename_i id existing latest
        split at advanced
        · cases advanced
        · obtain ⟨_, -, advanced⟩ := orRaise_to advanced
          cases advanced
          refine ⟨?_, nameOk_none rfl⟩
          change (s.tables.enrollments.get id).isSome = true
          rw [(getLatestActive_some latest).1]
          rfl
      · cases advanced
        exact ⟨trivial, nameOk_none rfl⟩
  | enrollWorkers calls =>
      cases advanced
      exact ⟨trivial, nameOk_none rfl⟩
  | enrollNames calls workers =>
      simp only [advance] at advanced
      obtain ⟨_, -, advanced⟩ := orRaise_to advanced
      cases advanced
      exact ⟨trivial, nameOk_none rfl⟩
  | enrollSelect calls identity =>
      obtain ⟨_, -, advanced⟩ := orRaise_to advanced
      obtain ⟨_, -, advanced⟩ := orRaise_to advanced
      cases advanced
      exact ⟨rfl, nameOk_none rfl⟩
  | enrollInsert row =>
      obtain ⟨_, -, advanced⟩ := orRaise_to advanced
      cases advanced
      exact ⟨ok, nameOk_none rfl⟩
  | enrollCommit row => cases advanced
  | refreshUpdate id token key =>
      obtain ⟨_, -, advanced⟩ := orRaise_to advanced
      cases advanced
      exact ⟨ok, nameOk_none rfl⟩
  | refreshCommit id token key => cases advanced
  | completeSelect token request addRemote =>
      obtain ⟨entry, opened, advanced⟩ := orRaise_to advanced
      cases advanced
      exact ⟨held_of_openEnrollment issued stays opened request addRemote, nameOk_none rfl⟩
  | completeCheck completing =>
      obtain ⟨_, unexpired, advanced⟩ := orRaise_to advanced
      obtain ⟨_, -, advanced⟩ := orRaise_to advanced
      cases advanced
      have early : now < completing.row.expiresAt := by
        unfold checkUnexpired at unexpired
        split at unexpired
        · cases unexpired
        · omega
      exact ⟨⟨ok, early⟩, nameOk_none rfl⟩
  | completeInsert completing checkedAt =>
      obtain ⟨_, -, advanced⟩ := orRaise_to advanced
      obtain ⟨worker, made, advanced⟩ := orRaise_to advanced
      obtain ⟨rfl, fresh, unlocked⟩ := insertWorker_to advanced
      refine ⟨⟨ok.1, ok.2, name_enrolledWorker made⟩, fun name inserted => ?_⟩
      obtain rfl := Option.some.inj inserted
      exact .inr ⟨fresh, unlocked⟩
  | completeUpdate completing checkedAt worker =>
      cases advanced
      exact ⟨ok, fun name inserted => .inl inserted⟩
  | completeCommit completing checkedAt worker usedAt => cases advanced

theorem advance_commit {write : Write} (advanced : advance settings now s.tables locked session = .commit write) :
    session = write.session := by
  cases session with
  | registerSelect request =>
      obtain ⟨_, -, advanced⟩ := orRaise_commit advanced
      cases advanced
  | registerInsert worker => exact absurd advanced insertWorker_not_commit
  | registerCommit worker =>
      cases advanced
      rfl
  | enrollLatest calls =>
      simp only [advance] at advanced
      split at advanced
      · split at advanced
        · cases advanced
        · obtain ⟨_, -, advanced⟩ := orRaise_commit advanced
          cases advanced
      · cases advanced
  | enrollWorkers calls => cases advanced
  | enrollNames calls workers =>
      simp only [advance] at advanced
      obtain ⟨_, -, advanced⟩ := orRaise_commit advanced
      cases advanced
  | enrollSelect calls identity =>
      obtain ⟨_, -, advanced⟩ := orRaise_commit advanced
      obtain ⟨_, -, advanced⟩ := orRaise_commit advanced
      cases advanced
  | enrollInsert row =>
      obtain ⟨_, -, advanced⟩ := orRaise_commit advanced
      cases advanced
  | enrollCommit row =>
      cases advanced
      rfl
  | refreshUpdate id token key =>
      obtain ⟨_, -, advanced⟩ := orRaise_commit advanced
      cases advanced
  | refreshCommit id token key =>
      cases advanced
      rfl
  | completeSelect token request addRemote =>
      obtain ⟨_, -, advanced⟩ := orRaise_commit advanced
      cases advanced
  | completeCheck completing =>
      obtain ⟨_, -, advanced⟩ := orRaise_commit advanced
      obtain ⟨_, -, advanced⟩ := orRaise_commit advanced
      cases advanced
  | completeInsert completing checkedAt =>
      obtain ⟨_, -, advanced⟩ := orRaise_commit advanced
      obtain ⟨_, -, advanced⟩ := orRaise_commit advanced
      exact absurd advanced insertWorker_not_commit
  | completeUpdate completing checkedAt worker => cases advanced
  | completeCommit completing checkedAt worker usedAt =>
      cases advanced
      rfl

end Advance

/-! ### The invariant -/

structure Inv (start s : Enrolling) : Prop where
  names : s.tables.workers.Unique Worker.name
  fresh : ∀ id session name, s.sessions.get id = some session → session.pendingName = some name →
    ∀ worker row, s.tables.workers.get worker = some row → row.name ≠ name
  pending : ∀ first second one other name, s.sessions.get first = some one → s.sessions.get second = some other →
    one.pendingName = some name → other.pendingName = some name → first = second
  issued : ∀ id row, s.tables.enrollments.get id = some row → s.issued row.tokenHash = some id
  known : ∀ token id, s.issued token = some id → (s.tables.enrollments.get id).isSome = true
  stays : ∀ id before, start.tables.enrollments.get id = some before → before.usedAt ≠ none →
    ∃ row, s.tables.enrollments.get id = some row ∧ row.usedAt ≠ none
  sessions : ∀ id session, s.sessions.get id = some session → SessionOk start s session
  together : ∀ completion ∈ s.completions, Together s completion
  checked : ∀ completion ∈ s.completions, completion.checkedAt < completion.expiresAt
  unused : ∀ completion ∈ s.completions, ∀ before, start.tables.enrollments.get completion.enrollmentId = some before →
    before.usedAt = none
  once : s.completions.Pairwise fun later earlier => later.enrollmentId ≠ earlier.enrollmentId
  used : ∀ id row, s.tables.enrollments.get id = some row → row.usedAt ≠ none →
    (∃ before, start.tables.enrollments.get id = some before ∧ before.usedAt ≠ none) ∨
      ∃ completion ∈ s.completions, completion.enrollmentId = id

section Steps

variable {start s t : Enrolling}

theorem inv_unopened (unopened : Unopened start) : Inv start start where
  names := unopened.names
  fresh := by
    intro id session name active
    rw [unopened.sessions id] at active
    cases active
  pending := by
    intro first second one other name active
    rw [unopened.sessions first] at active
    cases active
  issued := unopened.issued
  known := unopened.known
  stays := fun id before present used => ⟨before, present, used⟩
  sessions := by
    intro id session active
    rw [unopened.sessions id] at active
    cases active
  together := by simp [unopened.completions]
  checked := by simp [unopened.completions]
  unused := by simp [unopened.completions]
  once := by simp [unopened.completions]
  used := fun id row present used => .inl ⟨row, present, used⟩

/-- Sessions may end, and change without inserting a name. -/
theorem Inv.withSessions {sessions : Table Session} (inv : Inv start s)
    (each : ∀ id session, sessions.get id = some session → SessionOk start s session ∧
      (session.pendingName = none ∨ ∃ before, s.sessions.get id = some before ∧
        before.pendingName = session.pendingName)) :
    Inv start { s with sessions } where
  names := inv.names
  fresh := by
    intro id session name active inserted
    rcases (each id session active).2 with none_ | ⟨before, stored, same⟩
    · rw [none_] at inserted
      cases inserted
    · exact inv.fresh id before name stored (same.trans inserted)
  pending := by
    intro first second one other name active active' inserted inserted'
    rcases (each first one active).2 with none_ | ⟨before, stored, same⟩
    · rw [none_] at inserted
      cases inserted
    · rcases (each second other active').2 with none_ | ⟨before', stored', same'⟩
      · rw [none_] at inserted'
        cases inserted'
      · exact inv.pending first second before before' name stored stored' (same.trans inserted) (same'.trans inserted')
  issued := inv.issued
  known := inv.known
  stays := inv.stays
  sessions := by
    intro id session active
    have same : Grows s { s with sessions } := grows_of_same rfl rfl
    exact (each id session active).1.grows same
  together := fun completion done => ⟨(inv.together completion done).rows, (inv.together completion done).issued⟩
  checked := inv.checked
  unused := inv.unused
  once := inv.once
  used := inv.used

theorem Inv.begin (inv : Inv start s) (call : Call) :
    Inv start { s with sessions := s.sessions.insert call.session } := by
  apply inv.withSessions
  intro id session active
  rw [Table.get_insert] at active
  split at active
  · cases active
    cases call with
    | register request => exact ⟨trivial, .inl rfl⟩
    | create calls => exact ⟨trivial, .inl rfl⟩
    | complete token request addRemote => exact ⟨trivial, .inl rfl⟩
  · exact ⟨inv.sessions id session active, .inr ⟨session, active, rfl⟩⟩

theorem Inv.close (inv : Inv start s) (ended : Nat) : Inv start { s with sessions := s.sessions.delete ended } := by
  apply inv.withSessions
  intro id session active
  obtain ⟨-, stored⟩ := Table.get_delete_some active
  exact ⟨inv.sessions id session stored, .inr ⟨session, stored, rfl⟩⟩

theorem eq_of_not_locked {own id : Nat} {name : String} {session : Session} (unlocked : s.locked own name = false)
    (active : s.sessions.get id = some session) (inserted : session.pendingName = some name) : id = own := by
  by_contra other
  have found : s.locked own name = true := by
    refine List.any_eq_true.mpr ⟨(id, session), Table.mem_toList.mpr active, ?_⟩
    simp [other, inserted]
  rw [unlocked] at found
  cases found

theorem Inv.to {own : Nat} {session next : Session} (inv : Inv start s) (active : s.sessions.get own = some session)
    (ok : SessionOk start s next) (name : NameOk s (s.locked own) session next) :
    Inv start { s with sessions := s.sessions.modify own fun _ => next } := by
  have stored {id : Nat} {other : Session} (found : (s.sessions.modify own fun _ => next).get id = some other) :
      id = own ∧ other = next ∨ id ≠ own ∧ s.sessions.get id = some other := by
    by_cases same : id = own
    · subst same
      rw [Table.get_modify_self, active] at found
      exact .inl ⟨rfl, (Option.some.inj found).symm⟩
    · rw [Table.get_modify_of_ne same] at found
      exact .inr ⟨same, found⟩
  have alone {id : Nat} {other : Session} {pending : String} (found : s.sessions.get id = some other)
      (inserted : other.pendingName = some pending) (inserted' : next.pendingName = some pending) : id = own := by
    rcases name pending inserted' with before | ⟨-, unlocked⟩
    · exact inv.pending id own other session pending found active inserted before
    · exact eq_of_not_locked unlocked found inserted
  exact {
    names := inv.names
    fresh := by
      intro id other pending found inserted
      rcases stored found with ⟨rfl, rfl⟩ | ⟨-, before⟩
      · rcases name pending inserted with earlier | ⟨fresh, -⟩
        · exact inv.fresh id session pending active earlier
        · exact fresh
      · exact inv.fresh id other pending before inserted
    pending := by
      intro first second one other pending found found' inserted inserted'
      rcases stored found with ⟨rfl, rfl⟩ | ⟨-, before⟩
      · rcases stored found' with ⟨rfl, rfl⟩ | ⟨-, before'⟩
        · rfl
        · exact (alone before' inserted' inserted).symm
      · rcases stored found' with ⟨rfl, rfl⟩ | ⟨-, before'⟩
        · exact alone before inserted inserted'
        · exact inv.pending first second one other pending before before' inserted inserted'
    issued := inv.issued
    known := inv.known
    stays := inv.stays
    sessions := by
      intro id other found
      have same : Grows s { s with sessions := s.sessions.modify own fun _ => next } := grows_of_same rfl rfl
      rcases stored found with ⟨rfl, rfl⟩ | ⟨-, before⟩
      · exact ok.grows same
      · exact (inv.sessions id other before).grows same
    together := fun completion done => ⟨(inv.together completion done).rows, (inv.together completion done).issued⟩
    checked := inv.checked
    unused := inv.unused
    once := inv.once
    used := inv.used }

/-- The name a write inserts is that of no worker, and no open session has inserted it. -/
structure Clear (s : Enrolling) (name : String) : Prop where
  fresh : ∀ id worker, s.tables.workers.get id = some worker → worker.name ≠ name
  pending : ∀ id session, s.sessions.get id = some session → session.pendingName ≠ some name

theorem stays_grows (inv : Inv start s) (grows : Grows s t) {id : Nat} {before : WorkerEnrollment}
    (earlier : start.tables.enrollments.get id = some before) (used : before.usedAt ≠ none) :
    ∃ row, t.tables.enrollments.get id = some row ∧ row.usedAt ≠ none := by
  obtain ⟨row, present, used⟩ := inv.stays id before earlier used
  obtain ⟨now, present', -, keeps⟩ := grows.enrollments id row present
  exact ⟨now, present', keeps used⟩

theorem Together.grows {completion : Completion} (together : Together s completion) (grows : Grows s t)
    (kept : ∀ row, s.tables.enrollments.get completion.enrollmentId = some row → ∃ now,
      t.tables.enrollments.get completion.enrollmentId = some now ∧ now.name = row.name ∧ now.usedAt = row.usedAt ∧
        now.workerId = row.workerId) : Together t completion := by
  obtain ⟨worker, row, stored, present, name, used, by_⟩ := together.rows
  obtain ⟨now, present', name', used', by'⟩ := kept row present
  exact ⟨⟨worker, now, grows.workers _ _ stored, present', name.trans name'.symm, used'.trans used, by'.trans by_⟩,
    grows.issued _ _ together.issued⟩

theorem names_insert {worker : Worker} (inv : Inv start s) (clear : Clear s worker.name) (workers : Table Worker)
    (inserted : workers = s.tables.workers.insert worker) :
    workers.Unique Worker.name ∧ ∀ id session name, s.sessions.get id = some session → session.pendingName = some name →
      ∀ other row, workers.get other = some row → row.name ≠ name := by
  subst inserted
  refine ⟨inv.names.insert clear.fresh, fun id session name active pending other row present => ?_⟩
  rw [Table.get_insert] at present
  split at present
  · cases present
    intro same
    exact clear.pending id session active (same ▸ pending)
  · exact inv.fresh id session name active pending other row present

theorem Inv.register {worker : Worker} (inv : Inv start s) (clear : Clear s worker.name)
    (written : s.write (.register worker) = some t) : Inv start t := by
  have grows := write_grows written
  obtain rfl := Option.some.inj written
  obtain ⟨names, fresh⟩ := names_insert inv clear _ rfl
  exact {
    names := names
    fresh := fresh
    pending := inv.pending
    issued := inv.issued
    known := inv.known
    stays := inv.stays
    sessions := fun id session active => (inv.sessions id session active).grows grows
    together := fun completion done =>
      (inv.together completion done).grows grows fun row present => ⟨row, present, rfl, rfl, rfl⟩
    checked := inv.checked
    unused := inv.unused
    once := inv.once
    used := inv.used }

theorem issued_update {token other : String} {value id : Nat} (known : s.issued other = some id)
    (unissued : s.issued token = none) : Function.update s.issued token (some value) other = some id := by
  have different : other ≠ token := by
    rintro rfl
    rw [known] at unissued
    cases unissued
  rw [Function.update_of_ne different]
  exact known

theorem Inv.enroll {row : WorkerEnrollment} (inv : Inv start s) (unused : row.usedAt = none)
    (written : s.write (.enroll row) = some t) : Inv start t := by
  have grows := write_grows written
  simp only [Enrolling.write] at written
  split at written
  · cases written
  · rename_i free
    have unissued : s.issued row.tokenHash = none := Option.not_isSome_iff_eq_none.mp free
    obtain rfl := Option.some.inj written
    have present {id : Nat} {other : WorkerEnrollment}
        (found : (s.tables.enrollments.insert row).get id = some other) :
        id = s.tables.enrollments.next ∧ other = row ∨ s.tables.enrollments.get id = some other := by
      rw [Table.get_insert] at found
      split at found
      · rename_i new
        exact .inl ⟨new, (Option.some.inj found).symm⟩
      · exact .inr found
    exact {
      names := inv.names
      fresh := inv.fresh
      pending := inv.pending
      issued := by
        intro id other found
        rcases present found with ⟨rfl, rfl⟩ | before
        · exact Function.update_self _ _ _
        · exact issued_update (inv.issued id other before) unissued
      known := by
        intro token id issued
        by_cases same : token = row.tokenHash
        · subst same
          dsimp only at issued
          rw [Function.update_self] at issued
          cases issued
          simp
        · dsimp only at issued
          rw [Function.update_of_ne same] at issued
          exact present_grows (inv.known token id issued) grows
      stays := fun id before earlier used => stays_grows inv grows earlier used
      sessions := fun id session active => (inv.sessions id session active).grows grows
      together := by
        intro completion done
        refine (inv.together completion done).grows grows fun other stored => ⟨other, ?_, rfl, rfl, rfl⟩
        exact Table.get_insert_of_get stored row
      checked := inv.checked
      unused := inv.unused
      once := inv.once
      used := by
        intro id other found used
        rcases present found with ⟨-, rfl⟩ | before
        · exact absurd unused used
        · exact inv.used id other before used }

theorem Inv.refresh {id : Nat} {token key : String} (inv : Inv start s)
    (stored : (s.tables.enrollments.get id).isSome = true) (written : s.write (.refresh id token key) = some t) :
    Inv start t := by
  have grows := write_grows written
  simp only [Enrolling.write] at written
  split at written
  · cases written
  · rename_i free
    have unissued : s.issued token = none := Option.not_isSome_iff_eq_none.mp free
    obtain rfl := Option.some.inj written
    exact {
      names := inv.names
      fresh := inv.fresh
      pending := inv.pending
      issued := by
        intro other row found
        obtain ⟨before, present, changed⟩ := Table.get_modify_some found
        split at changed
        · rename_i same
          subst same
          subst changed
          exact Function.update_self _ _ _
        · subst changed
          exact issued_update (inv.issued other _ present) unissued
      known := by
        intro other enrollment issued
        by_cases same : other = token
        · subst same
          dsimp only at issued
          rw [Function.update_self] at issued
          cases issued
          exact present_grows stored grows
        · dsimp only at issued
          rw [Function.update_of_ne same] at issued
          exact present_grows (inv.known other enrollment issued) grows
      stays := fun id before earlier used => stays_grows inv grows earlier used
      sessions := fun other session active => (inv.sessions other session active).grows grows
      together := by
        intro completion done
        refine (inv.together completion done).grows grows fun row present => ?_
        dsimp only
        rw [Table.get_modify, present]
        split
        · exact ⟨row.refresh token key, rfl, rfl, rfl, rfl⟩
        · exact ⟨row, rfl, rfl, rfl, rfl⟩
      checked := inv.checked
      unused := inv.unused
      once := inv.once
      used := by
        intro other row found used
        obtain ⟨before, present, changed⟩ := Table.get_modify_some found
        apply inv.used other before present
        split at changed
        · subst changed
          exact used
        · subst changed
          exact used }

theorem Inv.complete {completing : Completing} {checkedAt usedAt : Nat} {worker : Worker} (inv : Inv start s)
    (ok : SessionOk start s (.completeCommit completing checkedAt worker usedAt)) (clear : Clear s worker.name)
    (written : s.write (.complete completing checkedAt worker usedAt) = some t) : Inv start t := by
  have grows := write_grows written
  obtain rfl := Option.some.inj written
  obtain ⟨held, early, named⟩ := ok
  obtain ⟨row, present, reserved⟩ := held.row
  obtain ⟨names, fresh⟩ := names_insert inv clear _ rfl
  -- an earlier completion of the enrollment would have left a worker with its name
  have first : ∀ completion ∈ s.completions, completing.id ≠ completion.enrollmentId := by
    intro completion done same
    obtain ⟨other, otherRow, stored, present', name, -⟩ := (inv.together completion done).rows
    rw [← same, present] at present'
    cases present'
    exact clear.fresh _ other stored ((name.trans reserved).trans named.symm)
  exact {
    names := names
    fresh := fresh
    pending := inv.pending
    issued := by
      intro other otherRow found
      obtain ⟨before, stored, changed⟩ := Table.get_modify_some found
      split at changed
      · subst changed
        exact inv.issued other before stored
      · subst changed
        exact inv.issued other otherRow stored
    known := fun token id issued => present_grows (inv.known token id issued) grows
    stays := fun id before earlier used => stays_grows inv grows earlier used
    sessions := fun id session active => (inv.sessions id session active).grows grows
    together := by
      intro completion done
      rcases List.mem_cons.mp done with rfl | earlier
      · refine ⟨⟨worker, row.use usedAt s.tables.workers.next, Table.get_insert_self _ _, ?_, ?_, rfl, rfl⟩, held.issued⟩
        · dsimp only
          rw [Table.get_modify_self, present]
          rfl
        · exact named.trans reserved.symm
      · refine (inv.together completion earlier).grows grows fun other stored => ⟨other, ?_, rfl, rfl, rfl⟩
        exact (Table.get_modify_of_ne (first completion earlier).symm _ _).trans stored
    checked := by
      intro completion done
      rcases List.mem_cons.mp done with rfl | earlier
      · exact early
      · exact inv.checked completion earlier
    unused := by
      intro completion done
      rcases List.mem_cons.mp done with rfl | earlier
      · exact held.unused
      · exact inv.unused completion earlier
    once := List.pairwise_cons.mpr ⟨first, inv.once⟩
    used := by
      intro other otherRow found used
      obtain ⟨before, stored, changed⟩ := Table.get_modify_some found
      split at changed
      · rename_i same
        subst same
        exact .inr ⟨_, List.mem_cons_self, rfl⟩
      · subst changed
        rcases inv.used other otherRow stored used with old | ⟨completion, done, same⟩
        · exact .inl old
        · exact .inr ⟨completion, List.mem_cons_of_mem _ done, same⟩ }

theorem Inv.write {write : Write} (inv : Inv start s) (ok : SessionOk start s write.session)
    (clear : ∀ name, write.session.pendingName = some name → Clear s name) (written : s.write write = some t) :
    Inv start t := by
  cases write with
  | register worker => exact inv.register (clear worker.name rfl) written
  | enroll row => exact inv.enroll ok written
  | refresh id token key => exact inv.refresh ok written
  | complete completing checkedAt worker usedAt => exact inv.complete ok (clear worker.name rfl) written

theorem Inv.step {settings : WorkerSettings} {event : SessionEvent} (inv : Inv start s)
    (stepped : stepSession settings s event = some t) : Inv start t := by
  cases event with
  | tick now =>
      simp only [stepSession] at stepped
      split at stepped
      · cases stepped
      · obtain rfl := Option.some.inj stepped
        have same : Grows s { s with clock := now } := grows_of_same rfl rfl
        exact { inv with
          sessions := fun id session active => (inv.sessions id session active).grows same
          together := fun completion done =>
            ⟨(inv.together completion done).rows, (inv.together completion done).issued⟩ }
  | begin call =>
      obtain rfl := Option.some.inj stepped
      exact inv.begin call
  | advance id =>
      obtain ⟨session, active, stepped⟩ := Option.bind_eq_some_iff.mp stepped
      have ok := inv.sessions id session active
      split at stepped
      · rename_i next advanced
        obtain rfl := Option.some.inj stepped
        obtain ⟨nextOk, name⟩ := advance_to inv.issued inv.stays ok advanced
        exact inv.to active nextOk name
      · obtain rfl := Option.some.inj stepped
        exact inv.close id
      · obtain rfl := Option.some.inj stepped
        exact inv.close id
      · cases stepped
      · rename_i write advanced
        obtain rfl := advance_commit advanced
        have same : Grows s { s with sessions := s.sessions.delete id } := grows_of_same rfl rfl
        refine (inv.close id).write (ok.grows same) (fun name inserted => ⟨?_, ?_⟩) stepped
        · exact inv.fresh id _ name active inserted
        · intro other session found inserted'
          obtain ⟨different, stored⟩ := Table.get_delete_some found
          exact different (inv.pending other id session _ name stored active inserted' inserted)
  | abort id =>
      obtain ⟨_, -, rfl⟩ := Option.map_eq_some_iff.mp stepped
      exact inv.close id

end Steps

/-- In every interleaving of the calls each token has at most one worker. The worker is there exactly if its enrollment is
used, and the expiry was checked in time, though not again when the worker was committed. -/
theorem token_completed_once {settings : WorkerSettings} {start s : Enrolling} (unopened : Unopened start)
    (reached : Reaches (stepSession settings) (fun _ _ => True) start s) :
    (s.completions.map Completion.token).Nodup ∧
      (∀ completion ∈ s.completions, Together s completion ∧ completion.checkedAt < completion.expiresAt ∧
        ∀ before, start.tables.enrollments.get completion.enrollmentId = some before → before.usedAt = none) ∧
        ∀ id row, s.tables.enrollments.get id = some row → row.usedAt ≠ none →
          (∃ before, start.tables.enrollments.get id = some before ∧ before.usedAt ≠ none) ∨
            ∃ completion ∈ s.completions, completion.enrollmentId = id := by
  have kept : ∀ s event t, Inv start s → True → stepSession settings s event = some t → Inv start t :=
    fun s event t inv _ stepped => inv.step stepped
  have inv : Inv start s := reached.invariant (inv_unopened unopened) kept
  refine ⟨?_, fun completion done => ⟨inv.together completion done, inv.checked completion done, inv.unused completion done⟩,
    inv.used⟩
  have apart : s.completions.Pairwise fun later earlier => later.token ≠ earlier.token := by
    apply inv.once.imp_of_mem
    intro later earlier done done' different same
    have one := (inv.together later done).issued
    rw [same, (inv.together earlier done').issued] at one
    exact different (Option.some.inj one).symm
  exact List.pairwise_map.mpr apart

/-! ### A slow completion -/

def noEnrollments : Enrolling := ⟨0, ⟨Table.empty, Table.empty⟩, Table.empty, fun _ => none, []⟩

theorem noEnrollments_unopened : Unopened noEnrollments where
  names := by
    intro first second one other present
    cases present
  issued := by
    intro id row present
    cases present
  known := by
    intro token id issued
    cases issued
  sessions := fun id => rfl
  completions := rfl

def firstCompletion : CompleteEnrollmentRequest := ⟨"100.64.0.7", "trust", "203.0.113.7"⟩

/-- An enrollment is made, and a completion of it is checked. -/
def checkedCompletion : List SessionEvent :=
  .begin (.create ⟨0, .ok "hskey-auth-1", "token-1"⟩) :: List.replicate 6 (.advance 1) ++
    .begin (.complete "token-1" firstCompletion (.ok ())) :: List.replicate 2 (.advance 2)

def completionSettings : WorkerSettings := ⟨51001, 52000, 168493055, 168427786⟩

theorem reaches_of_events {settings : WorkerSettings} {start s : Enrolling} {events : List SessionEvent}
    (ran : Lib.run (stepSession settings) (fun _ _ => true) start events = some s) :
    Reaches (stepSession settings) (fun _ _ => True) start s :=
  Lib.reaches_of_run (fun _ _ _ => trivial) ran

/-- Adding the remote takes longer than the enrollment lasts, and the worker is committed all the same. -/
theorem completed_after_expiry :
    ∃ s, Unopened noEnrollments ∧ Reaches (stepSession completionSettings) (fun _ _ => True) noEnrollments s ∧
      ∃ completion ∈ s.completions, completion.expiresAt < completion.completedAt := by
  have late : (Lib.run (stepSession completionSettings) (fun _ _ => true) noEnrollments
      (checkedCompletion ++ .tick (enrollmentLifetime + 1) :: List.replicate 3 (.advance 2))).any (fun s =>
        s.completions.any fun completion => decide (completion.expiresAt < completion.completedAt)) = true := by
    decide +kernel
  obtain ⟨s, ran, late⟩ := Lib.exists_of_any late
  obtain ⟨completion, done, after⟩ := List.any_eq_true.mp late
  exact ⟨s, noEnrollments_unopened, reaches_of_events ran, completion, done, of_decide_eq_true after⟩

theorem token_completed_once_run :
    ∃ s, Reaches (stepSession completionSettings) (fun _ _ => True) noEnrollments s ∧ s.completions.length = 1 ∧
      (s.completions.map Completion.token).Nodup := by
  have completed : (Lib.run (stepSession completionSettings) (fun _ _ => true) noEnrollments
      (checkedCompletion ++ List.replicate 3 (.advance 2))).any (fun s => decide (s.completions.length = 1)) = true := by
    decide +kernel
  obtain ⟨s, ran, one⟩ := Lib.exists_of_any completed
  have reached := reaches_of_events ran
  have once := token_completed_once noEnrollments_unopened reached
  exact ⟨s, reached, of_decide_eq_true one, once.1⟩

end DeepOrc.Enrollment
