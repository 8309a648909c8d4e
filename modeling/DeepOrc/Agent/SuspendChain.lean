import DeepOrc.Lib.Table
import Mathlib.Data.String.Basic
import Mathlib.Algebra.Group.Nat.Defs
import Mathlib.Data.List.Infix

/-!
# The suspend chain

The agent appends one drop rule for each suspension and removes rules by searching the printed chain.
A rule is the address it drops; its handle is its id.
-/

namespace DeepOrc.Agent

open Lib (Table)

abbrev SuspendChain := Table Nat

def ipText (ip : Nat) : String :=
  s!"{ip / 2 ^ 24 % 256}.{ip / 2 ^ 16 % 256}.{ip / 2 ^ 8 % 256}.{ip % 256}"

/-- A rule as `nft -a list chain` prints it. -/
def ruleLine (handle daddr : Nat) : List Char :=
  ("\t\tip daddr " ++ ipText daddr ++ " drop # handle").toList ++ ' ' :: (toString handle).toList

def contains (text part : List Char) : Bool := decide (part <:+: text)

theorem contains_iff {text part : List Char} : contains text part = true ↔ part <:+: text := decide_eq_true_iff

def isBlank (c : Char) : Bool := c ∈ [' ', '\t', '\n', '\x0b', '\x0c', '\r']

/-- The last of `strings.Fields`. -/
def lastField (line : List Char) : List Char :=
  (((line.splitOnP isBlank).filter fun field => field ≠ []).getLast?).getD []

def suspendPeerIp (chain : SuspendChain) (ip : Nat) : SuspendChain := chain.insert ip

/-- The handles come from the lines that contain the address text and `drop`. -/
def handlesToDelete (chain : SuspendChain) (ip : Nat) : List (List Char) :=
  ((chain.toList.map fun entry => ruleLine entry.1 entry.2).filter fun line =>
    contains line (ipText ip).toList && contains line "drop".toList).map lastField

def resumePeerIp (chain : SuspendChain) (ip : Nat) : SuspendChain :=
  chain.deleteWhere fun handle _ => (handlesToDelete chain ip).contains (toString handle).toList

def dropRule (chain : SuspendChain) (ip : Nat) : Prop := ∃ handle, chain.get handle = some ip

theorem digit_not_blank {c : Char} (digit : c.isDigit = true) : isBlank c = false := by
  rw [Bool.eq_false_iff]
  intro blank
  simp only [isBlank, List.mem_cons, List.not_mem_nil, or_false, decide_eq_true_eq] at blank
  rcases blank with rfl | rfl | rfl | rfl | rfl | rfl <;> exact absurd digit (by decide)

theorem lastField_ruleLine (handle daddr : Nat) : lastField (ruleLine handle daddr) = (toString handle).toList := by
  have digits : ∀ c ∈ (toString handle).toList, isBlank c = false := by
    intro c member
    rw [Nat.toString_eq_repr, Nat.toList_repr] at member
    exact digit_not_blank (Nat.isDigit_of_mem_toDigits (by decide) (by decide) member)
  rw [lastField, ruleLine, List.splitOnP_append_cons _ _ (by decide), List.splitOnP_eq_singleton digits]
  simp

/-- Every rule that drops exactly the resumed address goes. -/
theorem not_dropRule_resumePeerIp (chain : SuspendChain) (ip : Nat) : ¬dropRule (resumePeerIp chain ip) ip := by
  rintro ⟨handle, kept⟩
  rw [resumePeerIp, Table.get_deleteWhere, Option.filter_eq_some_iff] at kept
  obtain ⟨present, spared⟩ := kept
  have address : contains (ruleLine handle ip) (ipText ip).toList = true := by
    refine decide_eq_true ⟨"\t\tip daddr ".toList, " drop # handle".toList ++ ' ' :: (toString handle).toList, ?_⟩
    simp [ruleLine]
  have drop : contains (ruleLine handle ip) "drop".toList = true := by
    refine decide_eq_true ⟨("\t\tip daddr " ++ ipText ip ++ " ").toList, " # handle".toList ++ ' ' :: (toString handle).toList, ?_⟩
    simp [ruleLine]
  have listed : (toString handle).toList ∈ handlesToDelete chain ip := by
    rw [← lastField_ruleLine handle ip]
    refine List.mem_map.mpr ⟨_, List.mem_filter.mpr ⟨?_, by rw [address, drop]; rfl⟩, rfl⟩
    exact List.mem_map.mpr ⟨(handle, ip), Table.mem_toList.mpr present, rfl⟩
  rw [List.contains_iff_mem.mpr listed] at spared
  cases spared

theorem dropRule_of_resumePeerIp {chain : SuspendChain} {ip other : Nat}
    (kept : dropRule (resumePeerIp chain ip) other) : dropRule chain other := by
  obtain ⟨handle, present⟩ := kept
  rw [resumePeerIp, Table.get_deleteWhere, Option.filter_eq_some_iff] at present
  exact ⟨handle, present.1⟩

theorem dropRule_suspendPeerIp {chain : SuspendChain} {ip other : Nat} :
    dropRule (suspendPeerIp chain ip) other ↔ other = ip ∨ dropRule chain other := by
  constructor
  · rintro ⟨handle, present⟩
    rw [suspendPeerIp, Table.get_insert] at present
    split at present
    · exact .inl (Option.some.inj present).symm
    · exact .inr ⟨handle, present⟩
  · rintro (rfl | ⟨handle, present⟩)
    · exact ⟨chain.next, Table.get_insert_self chain other⟩
    · exact ⟨handle, Table.get_insert_of_get present ip⟩

end DeepOrc.Agent
