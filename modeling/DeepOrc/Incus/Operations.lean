import DeepOrc.Models
import Mathlib.Data.Finset.Basic
import Mathlib.Data.List.GetD
import Mathlib.Logic.Function.Iterate

/-!
# Incus operations and the threads that wait for them

An asynchronous answer names an operation, which `_wait_operation` polls until it reports one of two statuses. The
thread that waits is the one that gives up its gateway in the active set.
-/

namespace DeepOrc.Incus

open Models (PyError)

/-! ### Polling one operation -/

/-- The fields of the answer's `metadata` that the loop reads; `ρ` is what an operation gives back. -/
structure Operation (ρ : Type) where
  status : Option String
  metadata : Option ρ
  err : Option String

/-- The answers to the polls in turn. A poll raises where the transport fails or the status is no success. -/
abbrev Polls (ρ : Type) := Nat → Except PyError (Operation ρ)

variable {ρ : Type}

/-- What one pass of the loop returns or raises; `none` where it sleeps and polls again. -/
def poll : Except PyError (Operation ρ) → Option (Except PyError (Option ρ))
  | .error error => some (.error error)
  | .ok operation =>
      if operation.status = some "Success" then some (.ok operation.metadata)
      else if operation.status = some "Failure" then
        some (.error (.other ("Incus operation failed: " ++ operation.err.getD "unknown error")))
      else none

/-- `_wait_operation` for at most `fuel` polls; `none` where the loop still runs. -/
def waitOperation : Nat → Polls ρ → Option (Except PyError (Option ρ))
  | 0, _ => none
  | fuel + 1, polls =>
      match poll (polls 0) with
      | some result => some result
      | none => waitOperation fuel fun n => polls (n + 1)

/-- The loop returns or raises after finitely many polls. -/
def Ends (polls : Polls ρ) : Prop := ∃ fuel, (waitOperation fuel polls).isSome = true

theorem poll_isSome_iff (operation : Operation ρ) :
    (poll (.ok operation)).isSome = true ↔
      operation.status = some "Success" ∨ operation.status = some "Failure" := by
  unfold poll
  split
  · simp_all
  · split <;> simp_all

theorem waitOperation_isSome_iff (fuel : Nat) (polls : Polls ρ) :
    (waitOperation fuel polls).isSome = true ↔ ∃ n < fuel, (poll (polls n)).isSome = true := by
  induction fuel generalizing polls with
  | zero => simp [waitOperation]
  | succ fuel ih =>
      cases first : poll (polls 0) with
      | some result =>
          simp only [waitOperation, first, Option.isSome_some, true_iff]
          exact ⟨0, Nat.succ_pos fuel, by rw [first]; rfl⟩
      | none =>
          simp only [waitOperation, first, ih]
          constructor
          · rintro ⟨n, below, ended⟩
            exact ⟨n + 1, by omega, ended⟩
          · rintro ⟨n, below, ended⟩
            cases n with
            | zero => simp [first] at ended
            | succ n => exact ⟨n, by omega, ended⟩

theorem ends_iff (polls : Polls ρ) : Ends polls ↔ ∃ n, (poll (polls n)).isSome = true := by
  simp only [Ends, waitOperation_isSome_iff]
  constructor
  · rintro ⟨_, n, -, ended⟩
    exact ⟨n, ended⟩
  · rintro ⟨n, ended⟩
    exact ⟨n + 1, n, by omega, ended⟩

/-! ### The waiting thread -/

inductive Response (ρ : Type) where
  | sync (metadata : Option ρ)
  | async (polls : Polls ρ)

/-- A provisioning or deletion thread: the requests it makes, each chosen by the results of those before it. -/
inductive Thread (ρ : Type) where
  | finished
  | request (response : Response ρ) (next : Except PyError (Option ρ) → Thread ρ)

namespace Thread

/-- One answer of the Incus server. -/
def step : Thread ρ → Thread ρ
  | finished => finished
  | request (.sync metadata) next => next (.ok metadata)
  | request (.async polls) next =>
      match poll (polls 0) with
      | some result => next result
      | none => request (.async fun n => polls (n + 1)) next

def isFinished : Thread ρ → Bool
  | finished => true
  | request _ _ => false

/-- Every operation the thread comes to wait for ends. -/
def Finishes : Thread ρ → Prop
  | finished => True
  | request (.sync metadata) next => (next (.ok metadata)).Finishes
  | request (.async polls) next => ∃ fuel result, waitOperation fuel polls = some result ∧ (next result).Finishes

/-- `_active` after some answers: the `finally` of the thread discards its gateway. -/
def activeAfter (thread : Thread ρ) (gatewayId answers : Nat) (active : Finset Nat) : Finset Nat :=
  if (step^[answers] thread).isFinished then active.erase gatewayId else active

/-- The thread gives up its gateway at last. -/
def Releases (thread : Thread ρ) (gatewayId : Nat) (active : Finset Nat) : Prop :=
  ∃ answers, gatewayId ∉ thread.activeAfter gatewayId answers active

theorem isFinished_iff {thread : Thread ρ} : thread.isFinished = true ↔ thread = finished := by
  cases thread <;> simp [isFinished]

theorem finishes_step_iff (thread : Thread ρ) : thread.step.Finishes ↔ thread.Finishes := by
  cases thread with
  | finished => rfl
  | request response next =>
      cases response with
      | sync metadata => rfl
      | async polls =>
          cases first : poll (polls 0) with
          | some result =>
              simp only [step, first, Finishes]
              constructor
              · intro finishes
                exact ⟨1, result, by simp [waitOperation, first], finishes⟩
              · rintro ⟨fuel, ended, waited, finishes⟩
                cases fuel with
                | zero => simp [waitOperation] at waited
                | succ fuel =>
                    simp only [waitOperation, first, Option.some.injEq] at waited
                    rw [waited]
                    exact finishes
          | none =>
              simp only [step, first, Finishes]
              constructor
              · rintro ⟨fuel, ended, waited, finishes⟩
                exact ⟨fuel + 1, ended, by simpa only [waitOperation, first] using waited, finishes⟩
              · rintro ⟨fuel, ended, waited, finishes⟩
                cases fuel with
                | zero => simp [waitOperation] at waited
                | succ fuel => exact ⟨fuel, ended, by simpa only [waitOperation, first] using waited, finishes⟩

/-- The polls of one operation are so many answers to the thread. -/
theorem iterate_waitOperation (next : Except PyError (Option ρ) → Thread ρ) {fuel : Nat} {polls : Polls ρ}
    {result : Except PyError (Option ρ)} (waited : waitOperation fuel polls = some result) :
    ∃ answers, step^[answers] (request (.async polls) next) = next result := by
  induction fuel generalizing polls with
  | zero => simp [waitOperation] at waited
  | succ fuel ih =>
      cases first : poll (polls 0) with
      | some ended =>
          simp only [waitOperation, first, Option.some.injEq] at waited
          refine ⟨1, ?_⟩
          simp only [Function.iterate_one, step, first, waited]
      | none =>
          simp only [waitOperation, first] at waited
          obtain ⟨answers, arrived⟩ := ih waited
          refine ⟨answers + 1, ?_⟩
          rw [Function.iterate_succ_apply]
          simpa only [step, first] using arrived

/-- A thread comes to its end exactly if every operation it waits for does. -/
theorem finishes_iff (thread : Thread ρ) : thread.Finishes ↔ ∃ answers, step^[answers] thread = finished := by
  constructor
  · intro finishes
    induction thread with
    | finished => exact ⟨0, rfl⟩
    | request response next ih =>
        cases response with
        | sync metadata =>
            obtain ⟨answers, arrived⟩ := ih (.ok metadata) finishes
            exact ⟨answers + 1, arrived⟩
        | async polls =>
            obtain ⟨fuel, result, waited, rest⟩ := finishes
            obtain ⟨before, arrived⟩ := iterate_waitOperation next waited
            obtain ⟨after, done⟩ := ih result rest
            exact ⟨after + before, by rw [Function.iterate_add_apply, arrived, done]⟩
  · rintro ⟨answers, arrived⟩
    induction answers generalizing thread with
    | zero =>
        subst arrived
        trivial
    | succ answers ih =>
        rw [Function.iterate_succ_apply] at arrived
        exact (finishes_step_iff thread).mp (ih _ arrived)

theorem releases_iff {thread : Thread ρ} {gatewayId : Nat} {active : Finset Nat} (held : gatewayId ∈ active) :
    thread.Releases gatewayId active ↔ thread.Finishes := by
  have released (answers : Nat) : gatewayId ∉ thread.activeAfter gatewayId answers active ↔
      step^[answers] thread = finished := by
    unfold activeAfter
    rw [← isFinished_iff]
    split <;> simp_all
  simp only [Releases, released, finishes_iff]

end Thread

/-! ### Operations that stay in a terminal status -/

/-- The statuses an Incus operation never leaves. -/
def terminalStatuses : List String := ["Success", "Failure", "Cancelled"]

/-- The polls report the listed statuses in turn and the last one for ever after. -/
def Reports (polls : Polls ρ) (sequence : List String) (terminal : String) : Prop :=
  ∀ n, ∃ operation, polls n = .ok operation ∧ operation.status = some (sequence.getD n terminal)

theorem ends_iff_of_reports {polls : Polls ρ} {sequence : List String} {terminal : String}
    (reported : Reports polls sequence terminal) :
    Ends polls ↔ ∃ n, sequence.getD n terminal = "Success" ∨ sequence.getD n terminal = "Failure" := by
  rw [ends_iff]
  apply exists_congr
  intro n
  obtain ⟨operation, answered, status⟩ := reported n
  rw [answered, poll_isSome_iff, status]
  simp only [Option.some.injEq]

theorem exists_getD_iff {sequence : List String} {terminal status : String} :
    (∃ n, sequence.getD n terminal = status) ↔ status ∈ sequence ∨ terminal = status := by
  constructor
  · rintro ⟨n, found⟩
    by_cases below : n < sequence.length
    · rw [List.getD_eq_getElem _ _ below] at found
      exact .inl (found ▸ List.getElem_mem below)
    · rw [List.getD_eq_default _ _ (Nat.le_of_not_lt below)] at found
      exact .inr found
  · rintro (member | rfl)
    · obtain ⟨n, below, found⟩ := List.mem_iff_getElem.mp member
      exact ⟨n, by rw [List.getD_eq_getElem _ _ below, found]⟩
    · exact ⟨sequence.length, List.getD_eq_default _ _ (Nat.le_refl _)⟩

/-- The loop ends and the thread that waits in it lets go of its gateway, whatever comes after, exactly if the
operation is not cancelled before it succeeded or failed. -/
theorem waitOperation_ends_iff {polls : Polls ρ} {sequence : List String} {terminal : String}
    (reported : Reports polls sequence terminal) (last : terminal ∈ terminalStatuses) :
    (Ends polls ∧ ∀ (next : Except PyError (Option ρ) → Thread ρ) (gatewayId : Nat) (active : Finset Nat),
      (∀ result, (next result).Finishes) → gatewayId ∈ active →
        (Thread.request (.async polls) next).Releases gatewayId active) ↔
      terminal ≠ "Cancelled" ∨ "Success" ∈ sequence ∨ "Failure" ∈ sequence := by
  have loop : Ends polls ↔ terminal ≠ "Cancelled" ∨ "Success" ∈ sequence ∨ "Failure" ∈ sequence := by
    rw [ends_iff_of_reports reported, exists_or, exists_getD_iff, exists_getD_iff]
    simp only [terminalStatuses, List.mem_cons, List.not_mem_nil, or_false] at last
    rcases last with rfl | rfl | rfl <;> simp
  rw [← loop]
  constructor
  · exact fun both => both.1
  · intro ends
    refine ⟨ends, fun next gatewayId active rest held => ?_⟩
    obtain ⟨fuel, ended⟩ := ends
    obtain ⟨result, waited⟩ := Option.isSome_iff_exists.mp ended
    exact (Thread.releases_iff held).mpr ⟨fuel, result, waited, rest result⟩

/-- An operation that answers the given status to every poll. -/
def settled (status : String) : Polls Unit := fun _ => .ok ⟨some status, none, none⟩

theorem waitOperation_ends_iff_failed :
    "Failure" ∈ terminalStatuses ∧ (Ends (settled "Failure") ∧
      ∀ (next : Except PyError (Option Unit) → Thread Unit) (gatewayId : Nat) (active : Finset Nat),
        (∀ result, (next result).Finishes) → gatewayId ∈ active →
          (Thread.request (.async (settled "Failure")) next).Releases gatewayId active) :=
  ⟨by decide,
    (@waitOperation_ends_iff Unit (settled "Failure") [] "Failure" (fun _ => ⟨_, rfl, rfl⟩) (by decide)).mpr
      (.inl (by decide))⟩

/-- The operation is running when first polled and cancelled ever after. -/
def cancelled : Polls Unit := fun n => .ok ⟨some (["Running"].getD n "Cancelled"), none, none⟩

theorem waitOperation_never_ends : ¬ ∀ (polls : Polls Unit) (sequence : List String) (terminal : String),
    Reports polls sequence terminal → terminal ∈ terminalStatuses → Ends polls ∧
      ∀ (gatewayId : Nat) (active : Finset Nat), gatewayId ∈ active →
        (Thread.request (.async polls) fun _ => .finished).Releases gatewayId active := by
  intro claimed
  have reported : Reports cancelled ["Running"] "Cancelled" := fun n => ⟨_, rfl, rfl⟩
  have ends := (claimed cancelled ["Running"] "Cancelled" reported (by decide)).1
  rw [ends_iff_of_reports reported, exists_or, exists_getD_iff, exists_getD_iff] at ends
  revert ends
  decide

end DeepOrc.Incus
