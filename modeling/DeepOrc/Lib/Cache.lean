import Mathlib.Data.List.Induction
import Mathlib.Logic.Function.Basic

/-!
# Caches with expiry

A cache keeps what a source has answered for a time. A call carries what the source would answer if it were asked now,
so that a run is a list of calls. A source that has no answer is asked again by the next call.
-/

namespace DeepOrc.Lib.Cache

structure Call (κ ν : Type*) where
  key : κ
  now : Nat
  answer : Option ν

/-- The value and when it was answered. -/
abbrev Store (κ ν : Type*) := κ → Option (ν × Nat)

variable {κ ν : Type*} {lifetime : Nat} {store : Store κ ν} {call : Call κ ν}

/-- A clock that was set back makes no value older. -/
def kept (lifetime : Nat) (store : Store κ ν) (call : Call κ ν) : Option ν :=
  ((store call.key).filter fun entry => call.now - entry.2 < lifetime).map Prod.fst

def asks (lifetime : Nat) (store : Store κ ν) (call : Call κ ν) : Bool := (kept lifetime store call).isNone

def reply (lifetime : Nat) (store : Store κ ν) (call : Call κ ν) : Option ν := (kept lifetime store call).or call.answer

/-! ### What a cache holds -/

/-- The values come from the calls that asked, and for each of these that was answered there is one no older. -/
structure Holds (store : Store κ ν) (log : List (Call κ ν)) : Prop where
  entry : ∀ key value time, store key = some (value, time) →
    ∃ call ∈ log, call.key = key ∧ call.now = time ∧ call.answer = some value
  latest : ∀ call ∈ log, call.answer.isSome = true →
    ∃ value time, store call.key = some (value, time) ∧ call.now ≤ time

theorem holds_empty : Holds (fun _ => none : Store κ ν) [] where
  entry := by simp
  latest := by simp

theorem Holds.append_unanswered {log : List (Call κ ν)} (holds : Holds store log) (answered : call.answer = none) :
    Holds store (log ++ [call]) := by
  refine ⟨fun key value time stored => ?_, fun other listed found => ?_⟩
  · obtain ⟨source, listed, facts⟩ := holds.entry key value time stored
    exact ⟨source, List.mem_append_left _ listed, facts⟩
  · rcases List.mem_append.mp listed with earlier | now
    · exact holds.latest other earlier found
    · rw [List.mem_singleton.mp now, answered] at found
      cases found

theorem kept_eq_some_iff {value : ν} :
    kept lifetime store call = some value ↔
      ∃ time, store call.key = some (value, time) ∧ call.now - time < lifetime := by
  unfold kept
  constructor
  · intro found
    obtain ⟨⟨held, time⟩, filtered, rfl⟩ := Option.map_eq_some_iff.mp found
    obtain ⟨stored, recent⟩ := Option.filter_eq_some_iff.mp filtered
    exact ⟨time, stored, of_decide_eq_true recent⟩
  · rintro ⟨time, stored, recent⟩
    rw [stored, Option.filter_some, if_pos (decide_eq_true recent)]
    rfl

/-- A stored value of a call that asks is too old. -/
theorem expired_of_asks (asking : asks lifetime store call = true) {value : ν} {time : Nat}
    (stored : store call.key = some (value, time)) : lifetime ≤ call.now - time := by
  by_contra recent
  have held : kept lifetime store call = some value := kept_eq_some_iff.mpr ⟨time, stored, by omega⟩
  rw [asks, held] at asking
  cases asking

/-- A run asks exactly where no answer to an earlier call of the key is recent. -/
theorem Holds.asks_iff {log : List (Call κ ν)} (holds : Holds store log) (call : Call κ ν) :
    asks lifetime store call = true ↔
      ∀ earlier ∈ log, earlier.key = call.key → earlier.answer.isSome = true → lifetime ≤ call.now - earlier.now := by
  constructor
  · intro asking earlier listed same found
    obtain ⟨value, time, stored, newer⟩ := holds.latest earlier listed found
    rw [same] at stored
    have expired := expired_of_asks asking stored
    omega
  · intro old
    cases held : kept lifetime store call with
    | none => rw [asks, held, Option.isNone_none]
    | some value =>
        obtain ⟨time, stored, recent⟩ := kept_eq_some_iff.mp held
        obtain ⟨source, listed, same, rfl, answered⟩ := holds.entry call.key value time stored
        have expired := old source listed same (by rw [answered, Option.isSome_some])
        omega

/-- A reply is the answer to a call of the key that is recent, or to the call itself. -/
theorem Holds.reply_source {log : List (Call κ ν)} (holds : Holds store log) (positive : 0 < lifetime) {call : Call κ ν}
    {value : ν} (replied : reply lifetime store call = some value) :
    ∃ source ∈ log ++ (if asks lifetime store call then [call] else []),
      source.key = call.key ∧ source.answer = some value ∧ call.now - source.now < lifetime := by
  cases held : kept lifetime store call with
  | none =>
      rw [reply, held, Option.none_or] at replied
      have asking : asks lifetime store call = true := by rw [asks, held, Option.isNone_none]
      rw [asking, if_pos rfl]
      exact ⟨call, List.mem_append_right _ (List.mem_singleton_self call), rfl, replied, by omega⟩
  | some found =>
      rw [reply, held, Option.some_or] at replied
      obtain ⟨time, stored, recent⟩ := kept_eq_some_iff.mp held
      obtain ⟨source, listed, same, rfl, answered⟩ := holds.entry call.key found time stored
      exact ⟨source, List.mem_append_left _ listed, same, answered.trans replied, recent⟩

/-! ### Runs -/

variable [DecidableEq κ]

def after (lifetime : Nat) (store : Store κ ν) (call : Call κ ν) : Store κ ν :=
  if asks lifetime store call then
    match call.answer with
    | some value => Function.update store call.key (some (value, call.now))
    | none => store
  else store

def afterAll (lifetime : Nat) (store : Store κ ν) (calls : List (Call κ ν)) : Store κ ν :=
  calls.foldl (after lifetime) store

/-- The calls of a run that ask the source. -/
def asked (lifetime : Nat) (store : Store κ ν) : List (Call κ ν) → List (Call κ ν)
  | [] => []
  | call :: rest => (if asks lifetime store call then [call] else []) ++ asked lifetime (after lifetime store call) rest

theorem after_of_not_asks (quiet : asks lifetime store call = false) : after lifetime store call = store := by
  rw [after, quiet, if_neg Bool.false_ne_true]

theorem after_answered (asking : asks lifetime store call = true) {value : ν} (answered : call.answer = some value) :
    after lifetime store call = Function.update store call.key (some (value, call.now)) := by
  rw [after, asking, if_pos rfl, answered]

theorem after_unanswered (asking : asks lifetime store call = true) (answered : call.answer = none) :
    after lifetime store call = store := by
  rw [after, asking, if_pos rfl, answered]

/-- The value that a new answer replaces is older. -/
theorem Holds.append_answered {log : List (Call κ ν)} (holds : Holds store log)
    (asking : asks lifetime store call = true) (positive : 0 < lifetime) {value : ν}
    (answered : call.answer = some value) :
    Holds (Function.update store call.key (some (value, call.now))) (log ++ [call]) := by
  refine ⟨fun key held time stored => ?_, fun other listed found => ?_⟩
  · by_cases same : key = call.key
    · subst same
      rw [Function.update_self, Option.some.injEq, Prod.mk.injEq] at stored
      obtain ⟨rfl, rfl⟩ := stored
      exact ⟨call, List.mem_append_right _ (List.mem_singleton_self call), rfl, rfl, answered⟩
    · rw [Function.update_of_ne same] at stored
      obtain ⟨source, listed, facts⟩ := holds.entry key held time stored
      exact ⟨source, List.mem_append_left _ listed, facts⟩
  · by_cases same : other.key = call.key
    · refine ⟨value, call.now, by rw [same, Function.update_self], ?_⟩
      rcases List.mem_append.mp listed with earlier | now
      · obtain ⟨old, time, stored, newer⟩ := holds.latest other earlier found
        rw [same] at stored
        have expired := expired_of_asks asking stored
        omega
      · exact Nat.le_of_eq (congrArg Call.now (List.mem_singleton.mp now))
    · rcases List.mem_append.mp listed with earlier | now
      · rw [Function.update_of_ne same]
        exact holds.latest other earlier found
      · exact absurd (congrArg Call.key (List.mem_singleton.mp now)) same

theorem Holds.after {log : List (Call κ ν)} (holds : Holds store log) (positive : 0 < lifetime) (call : Call κ ν) :
    Holds (after lifetime store call) (log ++ if asks lifetime store call then [call] else []) := by
  cases asking : asks lifetime store call with
  | false =>
      rw [after_of_not_asks asking, if_neg Bool.false_ne_true, List.append_nil]
      exact holds
  | true =>
      rw [if_pos rfl]
      cases answered : call.answer with
      | none =>
          rw [after_unanswered asking answered]
          exact holds.append_unanswered answered
      | some value =>
          rw [after_answered asking answered]
          exact holds.append_answered asking positive answered

theorem Holds.afterAll {log : List (Call κ ν)} (holds : Holds store log) (positive : 0 < lifetime)
    (calls : List (Call κ ν)) : Holds (afterAll lifetime store calls) (log ++ asked lifetime store calls) := by
  induction calls generalizing store log with
  | nil =>
      rw [asked, List.append_nil]
      exact holds
  | cons call rest ih =>
      have later := ih (holds.after positive call)
      rw [List.append_assoc] at later
      exact later

theorem asked_append (store : Store κ ν) (calls : List (Call κ ν)) (call : Call κ ν) :
    asked lifetime store (calls ++ [call]) = asked lifetime store calls ++
      if asks lifetime (afterAll lifetime store calls) call then [call] else [] := by
  induction calls generalizing store with
  | nil =>
      rw [List.nil_append, asked, asked, asked, List.append_nil, List.nil_append]
      rfl
  | cons first rest ih =>
      rw [List.cons_append, asked, asked, ih, List.append_assoc]
      rfl

/-- No answer is asked for again within its lifetime. -/
theorem asked_spaced (positive : 0 < lifetime) (calls : List (Call κ ν)) :
    (asked lifetime (fun _ => none) calls).Pairwise fun earlier later =>
      earlier.key = later.key → earlier.answer.isSome = true → lifetime ≤ later.now - earlier.now := by
  induction calls using List.reverseRecOn with
  | nil => exact List.Pairwise.nil
  | append_singleton calls call ih =>
      rw [asked_append]
      have holds := holds_empty.afterAll positive calls
      rw [List.nil_append] at holds
      cases asking : asks lifetime (afterAll lifetime (fun _ => none) calls) call with
      | false =>
          rw [if_neg Bool.false_ne_true, List.append_nil]
          exact ih
      | true =>
          rw [if_pos rfl, List.pairwise_append]
          refine ⟨ih, List.pairwise_singleton _ call, fun earlier listed later now => ?_⟩
          rw [List.mem_singleton.mp now]
          exact holds.asks_iff call |>.mp asking earlier listed

end DeepOrc.Lib.Cache
