import DeepOrc.Lib.Machine
import DeepOrc.Registration.Requests

/-!
# Outcomes of registration requests

Approving and rejecting act on whatever row the key has, so an outcome can be overturned and a key can be registered that
nobody asked for.
-/

namespace DeepOrc.Registration

open Lib (Reaches Table)

/-- The table, the committed changes of status, and the keys given to Headscale with the status their request had. -/
structure State where
  requests : Table RegistrationRequest
  changes : List (RequestStatus × RequestStatus)
  submissions : List (String × Option RequestStatus)

inductive Event where
  | visit (registrationKey : String) (draws : Nat → Fin 1000000)
  | approve (registrationKey : String) (calls : ApprovalCalls)
  | reject (registrationKey : String)

def statusChanges (before after : Table RegistrationRequest) : List (RequestStatus × RequestStatus) :=
  before.toList.filterMap fun entry =>
    match after.get entry.1 with
    | some row => if entry.2.status = row.status then none else some (entry.2.status, row.status)
    | none => none

def submitted (requests : Table RegistrationRequest) (commands : List (String × CommandRun)) :
    List (String × Option RequestStatus) :=
  (commands.filter fun entry => entry.2.starts).map fun entry => (entry.1, statusOf requests entry.1)

def State.record (s : State) (after : Table RegistrationRequest) (commands : List (String × CommandRun)) : State :=
  ⟨after, statusChanges s.requests after ++ s.changes, submitted s.requests commands ++ s.submissions⟩

/-- The table after a request, and the commands that were given a key. -/
def handle (requests : Table RegistrationRequest) : Event → Table RegistrationRequest × List (String × CommandRun)
  | .visit registrationKey draws => (registerPage requests registrationKey draws, [])
  | .approve registrationKey calls => approveRegistrationUi requests registrationKey calls
  | .reject registrationKey => (rejectRegistrationUi requests registrationKey, [])

def step (s : State) (event : Event) : Option State :=
  some (s.record (handle s.requests event).1 (handle s.requests event).2)

/-- Any requests with distinct keys, nothing decided or submitted yet. -/
structure Initial (s : State) : Prop where
  unique : s.requests.Unique RegistrationRequest.registrationKey
  changes : s.changes = []
  submissions : s.submissions = []

def FromPending (change : RequestStatus × RequestStatus) : Prop :=
  change.1 = .pending ∧ (change.2 = .approved ∨ change.2 = .rejected)

structure Absorbing (s : State) : Prop where
  changes : ∀ change ∈ s.changes, FromPending change
  submissions : ∀ submission ∈ s.submissions, submission.2 = some .pending

/-- A valid key is approved only while its request is pending, and no approved request is rejected. -/
def Undecided (s : State) : Event → Prop
  | .visit _ _ => True
  | .approve registrationKey calls =>
      isValidRegistrationKey (normalizeRegistrationKey registrationKey) = true → calls.authRegister.starts = true →
        statusOf s.requests (normalizeRegistrationKey registrationKey) = some .pending
  | .reject registrationKey => statusOf s.requests (normalizeRegistrationKey registrationKey) ≠ some .approved

/-! ### What one request records -/

theorem mem_statusChanges {before after : Table RegistrationRequest} {change : RequestStatus × RequestStatus} :
    change ∈ statusChanges before after ↔ ∃ id row now, before.get id = some row ∧ after.get id = some now ∧
      row.status ≠ now.status ∧ change = (row.status, now.status) := by
  unfold statusChanges
  rw [List.mem_filterMap]
  constructor
  · intro recorded
    obtain ⟨⟨id, row⟩, member, found⟩ := recorded
    split at found
    · rename_i now present
      split at found
      · cases found
      · rename_i different
        exact ⟨id, row, now, Table.mem_toList.mp member, present, different, (Option.some.inj found).symm⟩
    · cases found
  · intro changed
    obtain ⟨id, row, now, present, present', different, same⟩ := changed
    refine ⟨(id, row), Table.mem_toList.mpr present, ?_⟩
    dsimp only
    rw [present']
    dsimp only
    rw [if_neg different, same]

theorem statusChanges_of_kept {before after : Table RegistrationRequest}
    (kept : ∀ id row, before.get id = some row → after.get id = some row) : statusChanges before after = [] := by
  rw [List.eq_nil_iff_forall_not_mem]
  intro change recorded
  obtain ⟨id, row, now, present, present', different, -⟩ := mem_statusChanges.mp recorded
  rw [kept id row present] at present'
  cases present'
  exact different rfl

theorem absorbing_record_iff {s : State} {after : Table RegistrationRequest} {commands : List (String × CommandRun)} :
    Absorbing (s.record after commands) ↔ Absorbing s ∧
      ((∀ change ∈ statusChanges s.requests after, FromPending change) ∧
        ∀ entry ∈ commands, entry.2.starts = true → statusOf s.requests entry.1 = some .pending) := by
  constructor
  · intro absorbing
    refine ⟨⟨?_, ?_⟩, ?_, ?_⟩
    · intro change earlier
      exact absorbing.changes change (List.mem_append_right _ earlier)
    · intro submission earlier
      exact absorbing.submissions submission (List.mem_append_right _ earlier)
    · intro change new
      exact absorbing.changes change (List.mem_append_left _ new)
    · intro entry member starts
      have given : (entry.1, statusOf s.requests entry.1) ∈ submitted s.requests commands :=
        List.mem_map_of_mem (List.mem_filter.mpr ⟨member, starts⟩)
      exact absorbing.submissions _ (List.mem_append_left _ given)
  · intro both
    obtain ⟨earlier, changes, submissions⟩ := both
    constructor
    · intro change member
      rcases List.mem_append.mp member with new | old
      · exact changes change new
      · exact earlier.changes change old
    · intro submission member
      rcases List.mem_append.mp member with new | old
      · obtain ⟨entry, given, same⟩ := List.mem_map.mp new
        obtain ⟨listed, starts⟩ := List.mem_filter.mp given
        rw [← same]
        exact submissions entry listed starts
      · exact earlier.submissions submission old

/-- Marking changes the status of the one request with the key. -/
theorem statusChanges_mark_iff {requests : Table RegistrationRequest} (key : String)
    {change : RegistrationRequest → RegistrationRequest} {outcome : RequestStatus}
    (marks : ∀ row, (change row).status = outcome) (decided : outcome = .approved ∨ outcome = .rejected) :
    (∀ entry ∈ statusChanges requests (mark requests key change), FromPending entry) ↔
      ∀ status, statusOf requests key = some status → status = outcome ∨ status = .pending := by
  rcases mark_cases requests key change with ⟨missing, same⟩ | ⟨id, row, found, modified⟩
  · rw [same, statusChanges_of_kept fun _ _ present => present]
    refine iff_of_true (fun _ member => by cases member) ?_
    intro status present
    rw [statusOf, missing] at present
    cases present
  · obtain ⟨present, -⟩ := getByKey_some found
    have status : statusOf requests key = some row.status := by rw [statusOf, found]; rfl
    rw [modified, status]
    constructor
    · intro proper other same
      cases same
      by_cases settled : row.status = outcome
      · exact .inl settled
      · have changed : (row.status, outcome) ∈ statusChanges requests (requests.modify id change) := by
          refine mem_statusChanges.mpr ⟨id, row, change row, present, ?_, ?_, ?_⟩
          · rw [Table.get_modify_self, present]
            rfl
          · rw [marks]
            exact settled
          · rw [marks]
        exact .inr (proper _ changed).1
    · intro allowed entry recorded
      obtain ⟨other, before, now, stored, stored', different, same⟩ := mem_statusChanges.mp recorded
      obtain ⟨earlier, earlierStored, changed⟩ := Table.get_modify_some stored'
      rw [stored] at earlierStored
      cases earlierStored
      split at changed
      · rename_i marked
        subst marked
        rw [stored] at present
        obtain rfl := Option.some.inj present
        rw [same, changed, marks]
        rw [changed, marks] at different
        rcases allowed _ rfl with settled | pending
        · exact absurd settled different
        · exact ⟨pending, decided⟩
      · rw [changed] at different
        exact absurd rfl different

theorem absorbing_visit_iff (s : State) (registrationKey : String) (draws : Nat → Fin 1000000) :
    Absorbing (s.record (registerPage s.requests registrationKey draws) []) ↔ Absorbing s := by
  have kept : ∀ id row, s.requests.get id = some row →
      (registerPage s.requests registrationKey draws).get id = some row := by
    intro id row present
    rcases registerPage_cases s.requests registrationKey draws with same | ⟨new, -, inserted⟩
    · rw [same]
      exact present
    · rw [inserted]
      exact Table.get_insert_of_get present new
  rw [absorbing_record_iff, statusChanges_of_kept kept]
  simp

theorem absorbing_approve_iff (s : State) (registrationKey : String) (calls : ApprovalCalls) {key : String}
    (normalized : normalizeRegistrationKey registrationKey = key) :
    Absorbing (s.record (approveRegistrationUi s.requests registrationKey calls).1
        (approveRegistrationUi s.requests registrationKey calls).2) ↔
      Absorbing s ∧ (isValidRegistrationKey key = true → calls.authRegister.starts = true →
        statusOf s.requests key = some .pending) := by
  have unchanged : statusChanges s.requests s.requests = [] := statusChanges_of_kept fun _ _ present => present
  rcases approveRegistrationUi_cases s.requests registrationKey calls normalized with ⟨invalid, nothing⟩ |
    ⟨valid, after, commands, ran, idle, outcome⟩
  · rw [nothing, absorbing_record_iff, unchanged]
    simp [invalid]
  · rw [ran, absorbing_record_iff]
    apply and_congr_right
    intro _
    cases starts : calls.authRegister.starts with
    | false =>
        obtain ⟨single, same⟩ := idle starts
        rw [same, single, unchanged]
        simp [starts]
    | true =>
        constructor
        · intro both _ _
          exact both.2 _ List.mem_cons_self starts
        · intro allowed
          have pending := allowed valid rfl
          constructor
          · rcases outcome with same | ⟨node, marked⟩
            · rw [same, unchanged]
              intro change member
              cases member
            · rw [marked]
              have marks (row : RegistrationRequest) : (row.approve node).status = .approved := rfl
              refine (statusChanges_mark_iff key marks (.inl rfl)).mpr fun status found => ?_
              rw [pending] at found
              cases found
              exact .inr rfl
          · intro entry member _
            obtain ⟨command, -, same⟩ := List.mem_map.mp member
            rw [← same]
            exact pending

theorem absorbing_reject_iff (s : State) (registrationKey : String) :
    Absorbing (s.record (rejectRegistrationUi s.requests registrationKey) []) ↔
      Absorbing s ∧ statusOf s.requests (normalizeRegistrationKey registrationKey) ≠ some .approved := by
  rw [absorbing_record_iff]
  apply and_congr_right
  intro _
  have marks (row : RegistrationRequest) : row.reject.status = .rejected := rfl
  unfold rejectRegistrationUi markRejected
  rw [statusChanges_mark_iff (normalizeRegistrationKey registrationKey) marks (.inr rfl)]
  cases statusOf s.requests (normalizeRegistrationKey registrationKey) with
  | none => simp
  | some status => cases status <;> simp

theorem absorbing_step_iff {s t : State} {event : Event} (stepped : step s event = some t) :
    Absorbing t ↔ Absorbing s ∧ Undecided s event := by
  rw [← Option.some.inj stepped]
  cases event with
  | visit registrationKey draws =>
      simp only [handle, Undecided, and_true]
      exact absorbing_visit_iff s registrationKey draws
  | approve registrationKey calls =>
      simp only [handle, Undecided]
      exact absorbing_approve_iff s registrationKey calls rfl
  | reject registrationKey =>
      simp only [handle, Undecided]
      exact absorbing_reject_iff s registrationKey

/-- The unique constraint holds in every run, so the row a request finds is the only one with its key. -/
theorem unique_of_reaches {s t : State} (initial : Initial s) (reached : Reaches step (fun _ _ => True) s t) :
    t.requests.Unique RegistrationRequest.registrationKey := by
  have kept : ∀ s event t, s.requests.Unique RegistrationRequest.registrationKey → True → step s event = some t →
      t.requests.Unique RegistrationRequest.registrationKey := by
    intro s event t unique _ stepped
    rw [← Option.some.inj stepped]
    cases event with
    | visit registrationKey draws =>
        simp only [State.record, handle]
        exact unique_registerPage unique registrationKey draws
    | approve registrationKey calls =>
        simp only [State.record, handle]
        rcases approveRegistrationUi_cases s.requests registrationKey calls rfl with ⟨-, nothing⟩ |
          ⟨-, after, commands, ran, -, same | ⟨node, marked⟩⟩
        · rw [nothing]
          exact unique
        · rw [ran, same]
          exact unique
        · rw [ran, marked]
          have keeps (row : RegistrationRequest) : (row.approve node).registrationKey = row.registrationKey := rfl
          exact unique_mark unique _ keeps
    | reject registrationKey =>
        simp only [State.record, handle]
        have keeps (row : RegistrationRequest) : row.reject.registrationKey = row.registrationKey := rfl
        exact unique_mark unique _ keeps
  exact reached.invariant initial.unique kept

/-- Outcomes are absorbing exactly in the runs in which valid keys are approved only while pending, and no approved
request is rejected. -/
theorem registration_outcomes_absorbing_iff {s t : State} (initial : Initial s)
    (reached : Reaches step (fun _ _ => True) s t) : Absorbing t ↔ Reaches step Undecided s t := by
  refine Reaches.unrestricted_exact_iff Absorbing reached ?_ fun _ _ _ _ stepped => absorbing_step_iff stepped
  refine ⟨?_, ?_⟩
  · rw [initial.changes]
    intro change member
    cases member
  · rw [initial.submissions]
    intro submission member
    cases member

def noRequests : State := ⟨Table.empty, [], []⟩

theorem noRequests_initial : Initial noRequests where
  unique := by
    intro first second row other present
    cases present
  changes := rfl
  submissions := rfl

def phoneKey : String := "hskey-authreq-fj0dD26nCDZe-PIzCv4rddLK"

/-- Headscale registers the phone at once. -/
def acceptingCalls : ApprovalCalls where
  authRegister := .printed ⟨some 9, none, none, some "android-phone", none, none, some ["100.64.0.9", "fd7a::9"]⟩
  nodesRegister := .failed "unknown key"
  approveRoutes := .ok ()
  listing := .ok []
  rename := .ok ()

/-- A rejected phone is approved after all, and its key goes to Headscale. -/
theorem rejected_request_approved :
    ∃ s t, Initial s ∧ Reaches step (fun _ _ => True) s t ∧ (.rejected, .approved) ∈ t.changes ∧
      (phoneKey, some .rejected) ∈ t.submissions ∧ ¬ Absorbing t := by
  have ran : (Lib.run step (fun _ _ => true) noRequests
      [.visit phoneKey fun _ => 0, .reject phoneKey, .approve phoneKey acceptingCalls]).any (fun t =>
        decide ((.rejected, .approved) ∈ t.changes ∧ (phoneKey, some .rejected) ∈ t.submissions)) = true := by
    decide +kernel
  obtain ⟨t, arrived, facts⟩ := Lib.exists_of_any ran
  obtain ⟨changed, submitted⟩ := of_decide_eq_true facts
  have reached : Reaches step (fun _ _ => True) noRequests t := Lib.reaches_of_run (fun _ _ _ => trivial) arrived
  refine ⟨noRequests, t, noRequests_initial, reached, changed, submitted, ?_⟩
  intro absorbing
  have pending := absorbing.submissions _ submitted
  cases pending

theorem pending_request_approved :
    ∃ t, (.pending, .approved) ∈ t.changes ∧ (phoneKey, some .pending) ∈ t.submissions ∧
      (Absorbing t ↔ Reaches step Undecided noRequests t) := by
  have ran : (Lib.run step (fun _ _ => true) noRequests
      [.visit phoneKey fun _ => 0, .approve phoneKey acceptingCalls]).any (fun t =>
        decide ((.pending, .approved) ∈ t.changes ∧ (phoneKey, some .pending) ∈ t.submissions)) = true := by
    decide +kernel
  obtain ⟨t, arrived, facts⟩ := Lib.exists_of_any ran
  obtain ⟨changed, submitted⟩ := of_decide_eq_true facts
  have reached : Reaches step (fun _ _ => True) noRequests t := Lib.reaches_of_run (fun _ _ _ => trivial) arrived
  exact ⟨t, changed, submitted, registration_outcomes_absorbing_iff noRequests_initial reached⟩

end DeepOrc.Registration
