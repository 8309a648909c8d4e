import Mathlib.Data.List.Basic
import Mathlib.Tactic.Common

/-!
# The status of a list of commands

Commands joined with `;` in a shell with `pipefail`. With `errexit` the first failure ends the list; where the list stands
on the left of `||`, the shell ignores `errexit` and the last status is the status of all.
-/

namespace DeepOrc.Lib.ShellStatus

/-- A pipeline, or a command with another one to run if it fails. -/
inductive AndOr where
  | pipeline (commands : List String)
  | orElse (first fallback : String)
deriving DecidableEq, Repr

namespace AndOr

def text : AndOr → String
  | .pipeline commands => " | ".intercalate commands
  | .orElse first fallback => first ++ " || " ++ fallback

@[simp] theorem text_single (command : String) : (AndOr.pipeline [command]).text = command := by
  simp [AndOr.text]

@[simp] theorem text_pair (first second : String) : (AndOr.pipeline [first, second]).text = first ++ " | " ++ second := by
  apply String.toList_inj.mp
  simp [AndOr.text]

@[simp] theorem text_orElse (first fallback : String) : (AndOr.orElse first fallback).text = first ++ " || " ++ fallback := rfl

/-- The commands work or fail by their position. -/
def succeeds (works : Nat → Bool) : AndOr → Bool
  | .pipeline commands => (List.range commands.length).all works
  | .orElse _ _ => works 0 || works 1

/-- The commands that fail without a `||` behind them. What stands behind a `||` counts if `behind` says so. -/
def failed (behind : Bool) (works : Nat → Bool) : AndOr → List String
  | .pipeline commands => (commands.zipIdx.filter fun command => !works command.2).map Prod.fst
  | .orElse _ fallback => if behind && !(works 0 || works 1) then [fallback] else []

end AndOr

/-- The commands of list `n` work as `works n` says. -/
def run (errexit : Bool) (works : Nat → Nat → Bool) (n : Nat) (status : Bool) : List AndOr → Bool
  | [] => status
  | list :: rest =>
      let ok := list.succeeds (works n)
      if errexit && !ok then false else run errexit works (n + 1) ok rest

def failures (behind : Bool) (works : Nat → Nat → Bool) (n : Nat) : List AndOr → List String
  | [] => []
  | list :: rest => list.failed behind (works n) ++ failures behind works (n + 1) rest

/-- The last list fails; without a list nothing does. -/
def lastFails (works : Nat → Nat → Bool) (lists : List AndOr) : Bool :=
  lists.getLast?.any fun list => !list.succeeds (works (lists.length - 1))

variable {works : Nat → Nat → Bool} {behind : Bool}

theorem run_append (first : List AndOr) (list : AndOr) (n : Nat) (status : Bool) :
    run false works n status (first ++ [list]) = list.succeeds (works (n + first.length)) := by
  induction first generalizing n status with
  | nil => rfl
  | cons other first ih =>
      show run false works (n + 1) (other.succeeds (works n)) (first ++ [list]) = _
      rw [ih, List.length_cons, Nat.add_right_comm, Nat.add_assoc]

/-- Without `errexit` the last list alone decides. -/
theorem run_false (lists : List AndOr) : run false works 0 true lists = !lastFails works lists := by
  rcases List.eq_nil_or_concat lists with rfl | ⟨first, list, rfl⟩
  · rfl
  · rw [List.concat_eq_append, run_append, lastFails, List.getLast?_concat, List.length_append, List.length_singleton, Nat.add_sub_cancel,
      Nat.zero_add, Option.any_some, Bool.not_not]

theorem failed_eq_nil_iff {works : Nat → Bool} {list : AndOr} :
    list.failed true works = [] ↔ list.succeeds works = true := by
  cases list with
  | pipeline commands =>
      rw [AndOr.failed, AndOr.succeeds, List.map_eq_nil_iff, List.filter_eq_nil_iff, List.all_eq_true]
      constructor
      · intro working position member
        have bound := List.mem_range.mp member
        have inside : (commands[position], position) ∈ commands.zipIdx :=
          List.mk_mem_zipIdx_iff_getElem?.mpr (by simp [bound])
        simpa using working _ inside
      · intro working command member
        have bound := List.snd_lt_of_mem_zipIdx member
        simpa using working command.2 (List.mem_range.mpr bound)
  | orElse first fallback =>
      cases ok : works 0 || works 1 with
      | false => simp [AndOr.failed, AndOr.succeeds, ok]
      | true => simp [AndOr.failed, AndOr.succeeds, ok]

/-- With `errexit` a list comes to its end exactly if nothing fails. -/
theorem run_true (lists : List AndOr) (n : Nat) : run true works n true lists = true ↔ failures true works n lists = [] := by
  induction lists generalizing n with
  | nil => exact ⟨fun _ => rfl, fun _ => rfl⟩
  | cons list rest ih =>
      rw [failures, List.append_eq_nil_iff, failed_eq_nil_iff, ← ih (n + 1), run]
      cases list.succeeds (works n) with
      | false => simp
      | true => simp

end DeepOrc.Lib.ShellStatus
