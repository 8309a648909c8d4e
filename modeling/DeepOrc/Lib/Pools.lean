import Mathlib.Data.List.Nodup
import Mathlib.Data.List.Perm.Subperm
import Mathlib.Tactic.Common

/-!
# Pools from which the first unused element is taken

Taking an element uses up exactly one, so the number of elements left decides how often the search succeeds.
-/

namespace DeepOrc.Lib.Pool

variable {α : Type*} [DecidableEq α]

def left (pool used : List α) : List α := pool.filter fun candidate => !used.contains candidate

theorem mem_left {pool used : List α} {candidate : α} : candidate ∈ left pool used ↔ candidate ∈ pool ∧ candidate ∉ used := by
  simp [left]

/-- The search returns the first element left. -/
theorem find?_eq_head? (pool used : List α) :
    (pool.find? fun candidate => !used.contains candidate) = (left pool used).head? :=
  List.head?_filter.symm

theorem mem_left_of_find? {pool used : List α} {candidate : α}
    (found : (pool.find? fun candidate => !used.contains candidate) = some candidate) : candidate ∈ left pool used := by
  rw [find?_eq_head?] at found
  exact List.mem_of_mem_head? found

theorem find?_eq_none_iff {pool used : List α} :
    (pool.find? fun candidate => !used.contains candidate) = none ↔ (left pool used).length = 0 := by
  rw [find?_eq_head?, List.head?_eq_none_iff, List.length_eq_zero_iff]

theorem left_erase {pool used after : List α} {candidate : α} (distinct : pool.Nodup)
    (taken : ∀ other, other ∈ after ↔ other ∈ used ∨ other = candidate) :
    left pool after = (left pool used).erase candidate := by
  have kept : (left pool used).Nodup := distinct.filter _
  rw [kept.erase_eq_filter, left, left, List.filter_filter]
  apply List.filter_congr
  intro other _
  by_cases same : other = candidate
  · simp [taken, same]
  · simp [taken, same]

theorem length_left_take {pool used after : List α} {candidate : α} (distinct : pool.Nodup)
    (free : candidate ∈ left pool used) (taken : ∀ other, other ∈ after ↔ other ∈ used ∨ other = candidate) :
    (left pool after).length + 1 = (left pool used).length := by
  rw [left_erase distinct taken, List.length_erase_of_mem free]
  have some := List.length_pos_of_mem free
  omega

/-- Taking the first one left. -/
theorem left_tail {pool used after : List α} {candidate : α} (distinct : pool.Nodup)
    (first : (pool.find? fun candidate => !used.contains candidate) = some candidate)
    (taken : ∀ other, other ∈ after ↔ other ∈ used ∨ other = candidate) : left pool after = (left pool used).tail := by
  rw [find?_eq_head?] at first
  obtain ⟨rest, whole⟩ := List.head?_eq_some_iff.mp first
  rw [left_erase distinct taken, whole, List.erase_cons_head, List.tail_cons]

/-- Fewer uses than elements leave an element. -/
theorem left_ne_nil {pool used : List α} (distinct : pool.Nodup) (more : used.length < pool.length) :
    left pool used ≠ [] := by
  intro nothing
  have covered : pool ⊆ used := by
    intro candidate member
    by_contra free
    have kept := mem_left.mpr ⟨member, free⟩
    rw [nothing] at kept
    cases kept
  have short := (List.subperm_of_subset distinct covered).length_le
  omega

end DeepOrc.Lib.Pool
