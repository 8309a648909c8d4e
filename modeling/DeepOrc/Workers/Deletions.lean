import DeepOrc.Workers.Ledger

/-!
# Deletions in the database

The commits of the orchestrator by what they do to deletions: start one, end one by an error or by removing
the gateway, or leave all of them as they are.
-/

namespace DeepOrc.Workers

open Models Repositories Services
open Lib (Table)

/-- An open delete job is the gateway's latest, and the gateway is deleting. -/
structure Coherent (db : Db) : Prop where
  owned : ∀ jobId card, cardOf db jobId = some card → (statusOf db card.gatewayId).isSome
  deleting : ∀ jobId card, cardOf db jobId = some card → card.type = .deleteGateway → isOpen card.status = true →
    statusOf db card.gatewayId = some .deleting
  latest : ∀ jobId card, cardOf db jobId = some card → card.type = .deleteGateway → isOpen card.status = true →
    ∀ other row, cardOf db other = some row → row.gatewayId = card.gatewayId → row.type = .deleteGateway →
      other ≤ jobId

/-- A commit that neither starts nor ends a deletion. -/
structure Quiet (db after : Db) : Prop where
  gateways_next : db.gateways.next ≤ after.gateways.next
  jobs_next : db.jobs.next ≤ after.jobs.next
  present : ∀ id, (statusOf db id).isSome → (statusOf after id).isSome
  born : ∀ id, (statusOf after id).isSome → (statusOf db id).isSome ∨ db.gateways.next ≤ id
  deleting : ∀ id, statusOf after id = some .deleting ↔ statusOf db id = some .deleting
  kept : ∀ jobId card, cardOf db jobId = some card → ∃ status, cardOf after jobId = some { card with status } ∧
    (card.type = .deleteGateway → status = card.status ∨ (isOpen status = true ∧ isOpen card.status = true))
  fresh : ∀ jobId card, cardOf after jobId = some card → cardOf db jobId = none →
    db.jobs.next ≤ jobId ∧ card.type = .createGateway ∧ (statusOf after card.gatewayId).isSome

theorem Quiet.trans {db middle after : Db} (first : Quiet db middle) (second : Quiet middle after) :
    Quiet db after where
  gateways_next := Nat.le_trans first.gateways_next second.gateways_next
  jobs_next := Nat.le_trans first.jobs_next second.jobs_next
  present := fun id found => second.present id (first.present id found)
  born := by
    intro id found
    rcases second.born id found with earlier | beyond
    · exact first.born id earlier
    · exact .inr (Nat.le_trans first.gateways_next beyond)
  deleting := fun id => (second.deleting id).trans (first.deleting id)
  kept := by
    intro jobId card found
    obtain ⟨status, between, same⟩ := first.kept jobId card found
    obtain ⟨last, stored, same'⟩ := second.kept jobId _ between
    refine ⟨last, stored, ?_⟩
    intro type
    rcases same type with rfl | ⟨opened, was⟩
    · exact same' type
    · rcases same' type with rfl | ⟨still, -⟩
      · exact .inr ⟨opened, was⟩
      · exact .inr ⟨still, was⟩
  fresh := by
    intro jobId card found absent
    cases between : cardOf middle jobId with
    | none =>
        obtain ⟨beyond, type, owner⟩ := second.fresh jobId card found between
        exact ⟨Nat.le_trans first.jobs_next beyond, type, owner⟩
    | some row =>
        obtain ⟨beyond, type, owner⟩ := first.fresh jobId row between absent
        obtain ⟨status, stored, -⟩ := second.kept jobId row between
        rw [found] at stored
        cases stored
        exact ⟨beyond, type, second.present _ owner⟩

/-- What was stored under a job's id before, unless the id is new. -/
theorem Quiet.before {db after : Db} (quiet : Quiet db after) {jobId : Nat} {card : Card}
    (found : cardOf after jobId = some card) :
    (∃ status, cardOf db jobId = some { card with status } ∧
        (card.type = .deleteGateway → card.status = status ∨ (isOpen card.status = true ∧ isOpen status = true))) ∨
      (db.jobs.next ≤ jobId ∧ card.type = .createGateway ∧ (statusOf after card.gatewayId).isSome) := by
  cases earlier : cardOf db jobId with
  | none => exact .inr (quiet.fresh jobId card found earlier)
  | some row =>
      obtain ⟨status, stored, same⟩ := quiet.kept jobId row earlier
      rw [found] at stored
      cases stored
      exact .inl ⟨row.status, rfl, same⟩

theorem Quiet.coherent {db after : Db} (quiet : Quiet db after) (coherent : Coherent db) : Coherent after where
  owned := by
    intro jobId card found
    rcases quiet.before found with ⟨status, stored, -⟩ | ⟨-, -, owner⟩
    · exact quiet.present _ (coherent.owned jobId { card with status } stored)
    · exact owner
  deleting := by
    intro jobId card found type opened
    rcases quiet.before found with ⟨status, stored, same⟩ | ⟨-, created, -⟩
    · refine (quiet.deleting _).mpr (coherent.deleting jobId { card with status } stored type ?_)
      rcases same type with eq | ⟨-, was⟩
      · rwa [← eq]
      · exact was
    · rw [type] at created
      cases created
  latest := by
    intro jobId card found type opened other row found' own type'
    rcases quiet.before found with ⟨status, stored, same⟩ | ⟨-, created, -⟩
    · rcases quiet.before found' with ⟨_, stored', -⟩ | ⟨-, created', -⟩
      · refine coherent.latest jobId { card with status } stored type ?_ other _ stored' own type'
        rcases same type with eq | ⟨-, was⟩
        · rwa [← eq]
        · exact was
      · rw [type'] at created'
        cases created'
    · rw [type] at created
      cases created

/-! ### Quiet commits -/

theorem quiet_of_same {db after : Db} (gateways_next : after.gateways.next = db.gateways.next)
    (jobs_next : after.jobs.next = db.jobs.next) (statuses : ∀ id, statusOf after id = statusOf db id)
    (cards : ∀ id, cardOf after id = cardOf db id) : Quiet db after where
  gateways_next := Nat.le_of_eq gateways_next.symm
  jobs_next := Nat.le_of_eq jobs_next.symm
  present := fun id found => by rwa [statuses]
  born := fun id found => .inl (by rwa [statuses] at found)
  deleting := fun id => by rw [statuses]
  kept := fun jobId card found => ⟨card.status, by rw [cards, found], fun _ => .inl rfl⟩
  fresh := fun jobId card found absent => by
    rw [cards, absent] at found
    cases found

theorem Quiet.refl (db : Db) : Quiet db db := quiet_of_same rfl rfl (fun _ => rfl) fun _ => rfl

theorem quiet_updateStage (db : Db) (jobId : Nat) (stage : String) : Quiet db (updateStage db jobId stage) :=
  quiet_of_same rfl rfl (fun _ => rfl) (cardOf_updateStage db jobId stage)

theorem quiet_updateGatewayStatus {db : Db} {gatewayId : Nat} {status : GatewayStatus}
    (before : statusOf db gatewayId ≠ some .deleting) (other : status ≠ .deleting) (error : Option String) :
    Quiet db (updateGatewayStatus db gatewayId status error) where
  gateways_next := Nat.le_refl _
  jobs_next := Nat.le_refl _
  present := by
    intro id found
    rw [statusOf_updateGatewayStatus]
    split
    · simpa using found
    · exact found
  born := by
    intro id found
    rw [statusOf_updateGatewayStatus] at found
    split at found
    · exact .inl (by simpa using found)
    · exact .inl found
  deleting := by
    intro id
    rw [statusOf_updateGatewayStatus]
    split
    · rename_i same
      subst same
      cases stored : statusOf db id with
      | none => simp
      | some row =>
          rw [stored] at before
          simpa [other] using before
    · rfl
  kept := fun jobId card found => ⟨card.status, found, fun _ => .inl rfl⟩
  fresh := fun jobId card found absent => by
    rw [cardOf_updateGatewayStatus, absent] at found
    cases found

theorem quiet_updateJobStatus {db : Db} {jobId : Nat} {status : JobStatus}
    (harmless : ∀ card, cardOf db jobId = some card → card.type = .deleteGateway →
      isOpen status = true ∧ isOpen card.status = true) (error : Option String) :
    Quiet db (updateJobStatus db jobId status error) where
  gateways_next := Nat.le_refl _
  jobs_next := Nat.le_refl _
  present := fun id found => found
  born := fun id found => .inl found
  deleting := fun id => Iff.rfl
  kept := by
    intro id card found
    rw [cardOf_updateJobStatus]
    split
    · rename_i same
      subst same
      exact ⟨status, by rw [found]; rfl, fun type => .inr (harmless card found type)⟩
    · exact ⟨card.status, found, fun _ => .inl rfl⟩
  fresh := fun id card found absent => by
    rw [cardOf_updateJobStatus, absent] at found
    split at found <;> cases found

theorem PrepareEffect.quiet {db after : Db} {gatewayId jobId : Nat}
    (prepared : PrepareEffect db after gatewayId jobId) : Quiet db after := by
  obtain ⟨before, status, stored, settled, change⟩ := prepared.present
  refine ⟨Nat.le_of_eq prepared.gateways_next.symm, ?_, ?_, ?_, ?_, ?_, ?_⟩
  · rcases prepared.origin with ⟨same, -⟩ | ⟨more, -⟩ <;> omega
  · intro id found
    by_cases own : id = gatewayId
    · rw [own, settled]
      rfl
    · rwa [prepared.others id own]
  · intro id found
    by_cases own : id = gatewayId
    · rw [own, stored]
      exact .inl rfl
    · rw [prepared.others id own] at found
      exact .inl found
  · intro id
    by_cases own : id = gatewayId
    · rw [own, stored, settled]
      rcases change with rfl | ⟨rfl, rfl | rfl⟩ <;> simp
    · rw [prepared.others id own]
  · intro id card found
    by_cases own : id = jobId
    · subst own
      rcases prepared.origin with ⟨-, was, earlier⟩ | ⟨-, fresh, -⟩
      · rw [earlier] at found
        cases found
        exact ⟨.pending, prepared.job, nofun⟩
      · rw [cardOf_eq_none (Nat.le_of_eq fresh.symm)] at found
        cases found
    · exact ⟨card.status, by rw [prepared.jobs id own, found], fun _ => .inl rfl⟩
  · intro id card found absent
    by_cases own : id = jobId
    · subst own
      rw [prepared.job] at found
      cases found
      rcases prepared.origin with ⟨-, was, earlier⟩ | ⟨-, fresh, -⟩
      · rw [earlier] at absent
        cases absent
      · exact ⟨Nat.le_of_eq fresh.symm, rfl, by rw [settled]; rfl⟩
    · rw [prepared.jobs id own, absent] at found
      cases found

theorem quiet_created {calls : CreationCalls} {request : CreateGatewayRequest} {db after : Db}
    {gatewayId jobId : Nat} (created : Created calls request db after gatewayId jobId) : Quiet db after := by
  have statuses := statusOf_created created
  have cards := cardOf_created created
  refine ⟨?_, ?_, ?_, ?_, ?_, ?_, ?_⟩
  · rw [created.gateways]
    exact Nat.le_succ _
  · rw [created.jobs]
    exact Nat.le_succ _
  · intro id found
    rw [statuses]
    split
    · rfl
    · exact found
  · intro id found
    rw [statuses] at found
    split at found
    · exact .inr (by omega)
    · exact .inl found
  · intro id
    rw [statuses]
    split
    · rename_i fresh
      rw [statusOf_eq_none (Nat.le_of_eq fresh.symm)]
      simp
    · rfl
  · intro id card found
    rw [cards]
    split
    · rename_i fresh
      rw [cardOf_eq_none (Nat.le_of_eq fresh.symm)] at found
      cases found
    · exact ⟨card.status, found, fun _ => .inl rfl⟩
  · intro id card found absent
    rw [cards] at found
    split at found
    · rename_i fresh
      cases found
      refine ⟨Nat.le_of_eq fresh.symm, rfl, ?_⟩
      rw [statuses, if_pos created.gateway_id]
      rfl
    · rw [absent] at found
      cases found

/-! ### The other commits -/

/-- A first open delete job under a status of deleting. -/
structure Requested (db after : Db) (gatewayId jobId : Nat) : Prop where
  present : (statusOf db gatewayId).isSome
  settled : ∀ other card, cardOf db other = some card → card.gatewayId = gatewayId → card.type = .deleteGateway →
    isOpen card.status = false
  job_id : jobId = db.jobs.next
  gateways_next : after.gateways.next = db.gateways.next
  jobs_next : after.jobs.next = db.jobs.next + 1
  statuses : ∀ id, statusOf after id = if id = gatewayId then some .deleting else statusOf db id
  cards : ∀ id, cardOf after id = if id = jobId then some ⟨gatewayId, .deleteGateway, .pending⟩ else cardOf db id

/-- The handler of a deletion on an open job. -/
structure Failed (db after : Db) (gatewayId jobId : Nat) : Prop where
  own : ∀ card, cardOf db jobId = some card →
    card.gatewayId = gatewayId ∧ card.type = .deleteGateway ∧ isOpen card.status = true
  gateways_next : after.gateways.next = db.gateways.next
  jobs_next : after.jobs.next = db.jobs.next
  present : (statusOf db gatewayId).isSome → (cardOf db jobId).isSome
  statuses : ∀ id, statusOf after id = if id = gatewayId then (statusOf db id).map fun _ => .error else statusOf db id
  cards : ∀ id, cardOf after id =
    if id = jobId then (cardOf db id).map fun card => { card with status := .failed } else cardOf db id

structure Removed (db after : Db) (gatewayId : Nat) : Prop where
  gateways_next : after.gateways.next = db.gateways.next
  jobs_next : after.jobs.next = db.jobs.next
  statuses : ∀ id, statusOf after id = if id = gatewayId then none else statusOf db id
  cards : ∀ id, cardOf after id = (cardOf db id).filter fun card => card.gatewayId ≠ gatewayId

/-- Indexed by the gateway whose deletion the commit starts and the one whose deletion it fails. -/
inductive Change (db after : Db) : Option Nat → Option Nat → Prop where
  | quiet (quiet : Quiet db after) : Change db after none none
  | requested {gatewayId jobId : Nat} (requested : Requested db after gatewayId jobId) :
      Change db after (some gatewayId) none
  | failed {gatewayId jobId : Nat} (failed : Failed db after gatewayId jobId) : Change db after none (some gatewayId)
  | removed {gatewayId : Nat} (removed : Removed db after gatewayId) : Change db after none none

theorem Removed.before {db after : Db} {gatewayId : Nat} (removed : Removed db after gatewayId) {jobId : Nat}
    {card : Card} (found : cardOf after jobId = some card) :
    cardOf db jobId = some card ∧ card.gatewayId ≠ gatewayId := by
  rw [removed.cards] at found
  obtain ⟨stored, other⟩ := Option.filter_eq_some_iff.mp found
  exact ⟨stored, of_decide_eq_true other⟩

theorem Failed.before {db after : Db} {gatewayId failedId : Nat} (failed : Failed db after gatewayId failedId)
    {jobId : Nat} {card : Card} (found : cardOf after jobId = some card) (opened : isOpen card.status = true) :
    jobId ≠ failedId ∧ cardOf db jobId = some card := by
  rw [failed.cards] at found
  split at found
  · obtain ⟨row, -, rfl⟩ := Option.map_eq_some_iff.mp found
    cases opened
  · exact ⟨‹_›, found⟩

theorem Failed.earlier {db after : Db} {gatewayId failedId : Nat} (failed : Failed db after gatewayId failedId)
    {jobId : Nat} {card : Card} (found : cardOf after jobId = some card) :
    ∃ status, cardOf db jobId = some { card with status } := by
  rw [failed.cards] at found
  split at found
  · obtain ⟨row, stored, rfl⟩ := Option.map_eq_some_iff.mp found
    exact ⟨row.status, stored⟩
  · exact ⟨card.status, found⟩

theorem Requested.coherent {db after : Db} {gatewayId jobId : Nat} (requested : Requested db after gatewayId jobId)
    (coherent : Coherent db) : Coherent after where
  owned := by
    intro id card found
    rw [requested.cards] at found
    rw [requested.statuses]
    split
    · rfl
    · rename_i other
      split at found
      · cases found
        exact absurd rfl other
      · exact coherent.owned id card found
  deleting := by
    intro id card found type opened
    rw [requested.cards] at found
    rw [requested.statuses]
    split
    · rfl
    · rename_i other
      split at found
      · cases found
        exact absurd rfl other
      · exact coherent.deleting id card found type opened
  latest := by
    intro id card found type opened other row found' own type'
    rw [requested.cards] at found found'
    split at found
    · rename_i newest
      split at found'
      · omega
      · have earlier := lt_next_of_card found'
        have last := requested.job_id
        omega
    · split at found'
      · cases found'
        rw [requested.settled id card found own.symm type] at opened
        cases opened
      · exact coherent.latest id card found type opened other row found' own type'

theorem Failed.coherent {db after : Db} {gatewayId jobId : Nat} (failed : Failed db after gatewayId jobId)
    (coherent : Coherent db) : Coherent after where
  owned := by
    intro id card found
    obtain ⟨status, stored⟩ := failed.earlier found
    have owner := coherent.owned id { card with status } stored
    rw [failed.statuses]
    split
    · simpa using owner
    · exact owner
  deleting := by
    intro id card found type opened
    obtain ⟨different, stored⟩ := failed.before found opened
    have deleting := coherent.deleting id card stored type opened
    rw [failed.statuses, if_neg]
    · exact deleting
    · -- the gateway of the failed job has no other open delete job
      intro own
      obtain ⟨row, present⟩ := Option.isSome_iff_exists.mp (failed.present (by rw [← own, deleting]; rfl))
      obtain ⟨owner, deletes, wasOpen⟩ := failed.own row present
      have after := coherent.latest id card stored type opened jobId row present (owner.trans own.symm) deletes
      have before := coherent.latest jobId row present deletes wasOpen id card stored (own.trans owner.symm) type
      omega
  latest := by
    intro id card found type opened other row found' own type'
    obtain ⟨-, stored⟩ := failed.before found opened
    obtain ⟨status, stored'⟩ := failed.earlier found'
    exact coherent.latest id card stored type opened other { row with status } stored' own type'

theorem Removed.coherent {db after : Db} {gatewayId : Nat} (removed : Removed db after gatewayId)
    (coherent : Coherent db) : Coherent after where
  owned := by
    intro id card found
    obtain ⟨stored, other⟩ := removed.before found
    rw [removed.statuses, if_neg other]
    exact coherent.owned id card stored
  deleting := by
    intro id card found type opened
    obtain ⟨stored, other⟩ := removed.before found
    rw [removed.statuses, if_neg other]
    exact coherent.deleting id card stored type opened
  latest := by
    intro id card found type opened other row found' own type'
    exact coherent.latest id card (removed.before found).1 type opened other row (removed.before found').1 own type'

theorem Change.coherent {db after : Db} {starts fails : Option Nat} (change : Change db after starts fails)
    (coherent : Coherent db) : Coherent after := by
  cases change with
  | quiet quiet => exact quiet.coherent coherent
  | requested requested => exact requested.coherent coherent
  | failed failed => exact failed.coherent coherent
  | removed removed => exact removed.coherent coherent

theorem Change.jobs_next {db after : Db} {starts fails : Option Nat} (change : Change db after starts fails) :
    db.jobs.next ≤ after.jobs.next := by
  cases change with
  | quiet quiet => exact quiet.jobs_next
  | requested requested => exact Nat.le_of_lt (by rw [requested.jobs_next]; exact Nat.lt_succ_self _)
  | failed failed => exact Nat.le_of_eq failed.jobs_next.symm
  | removed removed => exact Nat.le_of_eq removed.jobs_next.symm

/-- A job keeps its gateway and its type; an open deletion stays open unless the commit fails it. -/
theorem Change.before {db after : Db} {starts fails : Option Nat} (change : Change db after starts fails)
    {jobId : Nat} {card : Card} (found : cardOf after jobId = some card) (known : jobId < db.jobs.next) :
    ∃ status, cardOf db jobId = some { card with status } ∧
      (card.type = .deleteGateway → isOpen status = true → isOpen card.status = true ∨ fails = some card.gatewayId) := by
  cases change with
  | quiet quiet =>
      rcases quiet.before found with ⟨status, stored, same⟩ | ⟨beyond, -⟩
      · refine ⟨status, stored, fun type opened => .inl ?_⟩
        rcases same type with eq | ⟨still, -⟩
        · rwa [eq]
        · exact still
      · omega
  | requested requested =>
      rw [requested.cards] at found
      split at found
      · have fresh := requested.job_id
        omega
      · exact ⟨card.status, found, fun _ opened => .inl opened⟩
  | failed failed =>
      have stored := found
      rw [failed.cards] at stored
      split at stored
      · rename_i same
        obtain ⟨row, earlier, rfl⟩ := Option.map_eq_some_iff.mp stored
        subst same
        exact ⟨row.status, earlier, fun _ _ => .inr (by rw [(failed.own row earlier).1])⟩
      · exact ⟨card.status, stored, fun _ opened => .inl opened⟩
  | removed removed => exact ⟨card.status, (removed.before found).1, fun _ opened => .inl opened⟩

theorem Change.deleting {db after : Db} {starts fails : Option Nat} (change : Change db after starts fails)
    {gatewayId : Nat} (deleting : statusOf after gatewayId = some .deleting) :
    statusOf db gatewayId = some .deleting ∨ starts = some gatewayId := by
  cases change with
  | quiet quiet => exact .inl ((quiet.deleting gatewayId).mp deleting)
  | requested requested =>
      rw [requested.statuses] at deleting
      split at deleting
      · rename_i same
        exact .inr (by rw [same])
      · exact .inl deleting
  | failed failed =>
      rw [failed.statuses] at deleting
      split at deleting
      · obtain ⟨_, _, impossible⟩ := Option.map_eq_some_iff.mp deleting
        cases impossible
      · exact .inl deleting
  | removed removed =>
      rw [removed.statuses] at deleting
      split at deleting
      · cases deleting
      · exact .inl deleting

theorem Change.gateways_next {db after : Db} {starts fails : Option Nat} (change : Change db after starts fails) :
    db.gateways.next ≤ after.gateways.next := by
  cases change with
  | quiet quiet => exact quiet.gateways_next
  | requested requested => exact Nat.le_of_eq requested.gateways_next.symm
  | failed failed => exact Nat.le_of_eq failed.gateways_next.symm
  | removed removed => exact Nat.le_of_eq removed.gateways_next.symm

/-- A gateway that is gone does not come back. -/
theorem Change.gone {db after : Db} {starts fails : Option Nat} (change : Change db after starts fails)
    {gatewayId : Nat} (known : gatewayId < db.gateways.next) (gone : statusOf db gatewayId = none) :
    statusOf after gatewayId = none := by
  cases change with
  | quiet quiet =>
      by_contra back
      rcases quiet.born gatewayId (Option.isSome_iff_ne_none.mpr back) with present | beyond
      · rw [gone] at present
        cases present
      · omega
  | requested requested =>
      rw [requested.statuses, if_neg, gone]
      rintro rfl
      have present := requested.present
      rw [gone] at present
      cases present
  | failed failed =>
      rw [failed.statuses, gone]
      split <;> rfl
  | removed removed =>
      rw [removed.statuses, gone]
      split <;> rfl

/-- A job is kept as long as its gateway is. -/
theorem Change.kept {db after : Db} {starts fails : Option Nat} (change : Change db after starts fails)
    {jobId : Nat} {card : Card} (found : cardOf db jobId = some card) :
    (∃ status, cardOf after jobId = some { card with status }) ∨ statusOf after card.gatewayId = none := by
  cases change with
  | quiet quiet =>
      obtain ⟨status, stored, -⟩ := quiet.kept jobId card found
      exact .inl ⟨status, stored⟩
  | requested requested =>
      have known := lt_next_of_card found
      have fresh := requested.job_id
      exact .inl ⟨card.status, by rw [requested.cards, if_neg (by omega), found]⟩
  | failed failed =>
      left
      rw [failed.cards, found]
      split
      · exact ⟨.failed, rfl⟩
      · exact ⟨card.status, rfl⟩
  | @removed gatewayId removed =>
      by_cases own : card.gatewayId = gatewayId
      · exact .inr (by rw [removed.statuses, if_pos own])
      · exact .inl ⟨card.status, by rw [removed.cards, found]; simp [Option.filter, own]⟩

/-! ### A deletion under way -/

/-- What a requested deletion comes to: the gateway is gone, the job has failed, or the gateway is deleting. -/
def Stands (db : Db) (gatewayId jobId : Nat) : Prop :=
  statusOf db gatewayId = none ∨ (∃ card, cardOf db jobId = some card ∧ card.status = .failed) ∨
    statusOf db gatewayId = some .deleting

structure Standing (db : Db) (gatewayId jobId : Nat) : Prop where
  gateway : gatewayId < db.gateways.next
  job : jobId < db.jobs.next
  outcome : statusOf db gatewayId = none ∨ cardOf db jobId = some ⟨gatewayId, .deleteGateway, .failed⟩ ∨
    (statusOf db gatewayId = some .deleting ∧
      ∃ status, cardOf db jobId = some ⟨gatewayId, .deleteGateway, status⟩ ∧ isOpen status = true)

theorem Standing.stands {db : Db} {gatewayId jobId : Nat} (standing : Standing db gatewayId jobId) :
    Stands db gatewayId jobId := by
  rcases standing.outcome with gone | failed | ⟨deleting, -⟩
  · exact .inl gone
  · exact .inr (.inl ⟨_, failed, rfl⟩)
  · exact .inr (.inr deleting)

theorem Quiet.standing {db after : Db} {gatewayId jobId : Nat} (quiet : Quiet db after)
    (standing : Standing db gatewayId jobId) : Standing after gatewayId jobId := by
  refine ⟨Nat.lt_of_lt_of_le standing.gateway quiet.gateways_next,
    Nat.lt_of_lt_of_le standing.job quiet.jobs_next, ?_⟩
  rcases standing.outcome with gone | failed | ⟨deleting, status, opened, isopen⟩
  · exact .inl ((Change.quiet quiet).gone standing.gateway gone)
  · obtain ⟨status, stored, same⟩ := quiet.kept jobId _ failed
    rcases same rfl with rfl | ⟨-, impossible⟩
    · exact .inr (.inl stored)
    · cases impossible
  · obtain ⟨later, stored, same⟩ := quiet.kept jobId _ opened
    refine .inr (.inr ⟨(quiet.deleting gatewayId).mpr deleting, later, stored, ?_⟩)
    rcases same rfl with rfl | ⟨still, -⟩
    · exact isopen
    · exact still

theorem Requested.standing {db after : Db} {gatewayId jobId other newest : Nat}
    (requested : Requested db after other newest) (standing : Standing db gatewayId jobId) :
    Standing after gatewayId jobId := by
  have fresh := requested.job_id
  have known := standing.job
  have kept : cardOf after jobId = cardOf db jobId := by rw [requested.cards, if_neg (by omega)]
  refine ⟨by rw [requested.gateways_next]; exact standing.gateway, by rw [requested.jobs_next]; omega, ?_⟩
  rw [kept, requested.statuses]
  by_cases same : gatewayId = other
  · subst same
    rcases standing.outcome with gone | failed | ⟨deleting, opened⟩
    · have present := requested.present
      rw [gone] at present
      cases present
    · exact .inr (.inl failed)
    · exact .inr (.inr ⟨if_pos rfl, opened⟩)
  · rw [if_neg same]
    exact standing.outcome

theorem Failed.standing {db after : Db} {gatewayId jobId other failedId : Nat} (coherent : Coherent db)
    (failed : Failed db after other failedId) (standing : Standing db gatewayId jobId) :
    Standing after gatewayId jobId := by
  refine ⟨by rw [failed.gateways_next]; exact standing.gateway, by rw [failed.jobs_next]; exact standing.job, ?_⟩
  rw [failed.statuses, failed.cards]
  rcases standing.outcome with gone | ended | ⟨deleting, status, opened, isopen⟩
  · rw [gone]
    exact .inl (by simp)
  · refine .inr (.inl ?_)
    rw [ended]
    split <;> rfl
  · by_cases same : gatewayId = other
    · -- a gateway's open delete job is its latest, so this is the one that failed
      subst same
      obtain ⟨row, present⟩ := Option.isSome_iff_exists.mp (failed.present (by rw [deleting]; rfl))
      obtain ⟨owner, deletes, wasOpen⟩ := failed.own row present
      have before := coherent.latest jobId _ opened rfl isopen failedId row present owner deletes
      have after := coherent.latest failedId row present deletes wasOpen jobId _ opened owner.symm rfl
      have eq : jobId = failedId := Nat.le_antisymm after before
      refine .inr (.inl ?_)
      rw [if_pos eq, opened]
      rfl
    · refine .inr (.inr ⟨by rw [if_neg same, deleting], status, ?_, isopen⟩)
      rw [if_neg, opened]
      intro eq
      subst eq
      exact same (failed.own _ opened).1

theorem Removed.standing {db after : Db} {gatewayId jobId other : Nat} (removed : Removed db after other)
    (standing : Standing db gatewayId jobId) : Standing after gatewayId jobId := by
  refine ⟨by rw [removed.gateways_next]; exact standing.gateway, by rw [removed.jobs_next]; exact standing.job, ?_⟩
  rw [removed.statuses, removed.cards]
  by_cases same : gatewayId = other
  · exact .inl (if_pos same)
  · rw [if_neg same]
    rcases standing.outcome with gone | ended | ⟨deleting, status, opened, isopen⟩
    · exact .inl gone
    · exact .inr (.inl (by rw [ended]; simp [Option.filter, same]))
    · exact .inr (.inr ⟨deleting, status, by rw [opened]; simp [Option.filter, same], isopen⟩)

theorem Change.standing {db after : Db} {starts fails : Option Nat} {gatewayId jobId : Nat} (coherent : Coherent db)
    (change : Change db after starts fails) (standing : Standing db gatewayId jobId) :
    Standing after gatewayId jobId := by
  cases change with
  | quiet quiet => exact quiet.standing standing
  | requested requested => exact requested.standing standing
  | failed failed => exact failed.standing coherent standing
  | removed removed => exact removed.standing standing

end DeepOrc.Workers
