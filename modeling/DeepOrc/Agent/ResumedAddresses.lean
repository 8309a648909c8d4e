import DeepOrc.Agent.SuspendChain
import DeepOrc.Lib.Text
import DeepOrc.Naming

/-!
# What resuming one address removes

Both agents read the printed chain once and delete the rules of the lines they picked one after another.
-/

namespace DeepOrc.Agent

open Lib (Table)

/-- The chain as `nft -a list chain inet wg_suspend forward` prints it, line by line. -/
def listing (chain : SuspendChain) : List (List Char) :=
  ["table inet wg_suspend \x7b".toList, "\tchain forward \x7b # handle 1".toList,
    "\t\ttype filter hook forward priority filter; policy accept;".toList] ++
  (chain.toList.map fun entry => ruleLine entry.1 entry.2) ++
  ["\t\x7d".toList, "\x7d".toList]

def picked (ip : Nat) (line : List Char) : Bool := contains line (ipText ip).toList && contains line "drop".toList

/-- `nft delete rule inet wg_suspend forward handle …`, which fails where no rule has the handle. -/
def deleteRule (chain : SuspendChain) (handle : List Char) : Option SuspendChain :=
  match chain.toList.find? fun entry => (toString entry.1).toList == handle with
  | some entry => some (chain.delete entry.1)
  | none => none

namespace Go

/-- `_ = runOK(…)`: a delete that fails is passed over. -/
def resumePeerIP (chain : SuspendChain) (ip : Nat) : SuspendChain :=
  ((listing chain).filter (picked ip)).foldl (fun chain line => (deleteRule chain (lastField line)).getD chain) chain

end Go

namespace Python

/-- `line.strip().split()[-1]` -/
def lastWord (line : List Char) : List Char :=
  ((((Naming.strip line).splitOnP Naming.isSpace).filter fun word => word ≠ []).getLast?).getD []

/-- The chain and whether `_run_nft` raised; the lines after a failed delete are not reached. -/
def deleteLines : List (List Char) → SuspendChain → SuspendChain × Bool
  | [], chain => (chain, false)
  | line :: lines, chain =>
      match deleteRule chain (lastWord line) with
      | some chain => deleteLines lines chain
      | none => (chain, true)

def resumePeerIp (chain : SuspendChain) (ip : Nat) : SuspendChain × Bool :=
  deleteLines ((listing chain).filter (picked ip)) chain

end Python

/-! ### Both agents delete the picked rules -/

def pickedRule (ip : Nat) (entry : Nat × Nat) : Bool := picked ip (ruleLine entry.1 entry.2)

theorem filter_rules (entries : List (Nat × Nat)) (ip : Nat) :
    (entries.map fun entry => ruleLine entry.1 entry.2).filter (picked ip) =
      (entries.filter (pickedRule ip)).map fun entry => ruleLine entry.1 entry.2 := by
  have same : picked ip ∘ (fun entry : Nat × Nat => ruleLine entry.1 entry.2) = pickedRule ip := by
    funext entry
    rw [Function.comp_apply, pickedRule]
  rw [List.filter_map, same]

theorem filter_listing (chain : SuspendChain) (ip : Nat) :
    (listing chain).filter (picked ip) =
      (chain.toList.filter (pickedRule ip)).map fun entry => ruleLine entry.1 entry.2 := by
  have frame : ∀ lines : List (List Char), (∀ line ∈ lines, contains line "drop".toList = false) →
      lines.filter (picked ip) = [] := by
    intro lines quiet
    rw [List.filter_eq_nil_iff]
    intro line member
    rw [picked, quiet line member, Bool.and_false]
    exact Bool.false_ne_true
  have head := frame ["table inet wg_suspend \x7b".toList, "\tchain forward \x7b # handle 1".toList,
    "\t\ttype filter hook forward priority filter; policy accept;".toList] (by decide)
  have foot := frame ["\t\x7d".toList, "\x7d".toList] (by decide)
  rw [listing, List.filter_append, List.filter_append, head, foot, List.nil_append, List.append_nil, filter_rules]

theorem strip_ruleLine (handle daddr : Nat) :
    Naming.strip (ruleLine handle daddr) =
      ("ip daddr " ++ ipText daddr ++ " drop # handle").toList ++ ' ' :: (toString handle).toList := by
  have front : (ruleLine handle daddr).dropWhile Naming.isSpace =
      ("ip daddr " ++ ipText daddr ++ " drop # handle").toList ++ ' ' :: (toString handle).toList := by
    have line : ruleLine handle daddr = '\t' :: '\t' :: 'i' ::
        (("p daddr " ++ ipText daddr ++ " drop # handle").toList ++ ' ' :: (toString handle).toList) := by
      simp [ruleLine]
    rw [line, List.dropWhile_cons_of_pos (by decide), List.dropWhile_cons_of_pos (by decide),
      List.dropWhile_cons_of_neg (by decide)]
    simp
  have filled : (toString handle).toList ≠ [] := by
    rw [Nat.toString_eq_repr, Nat.toList_repr]
    exact Nat.toDigits_ne_nil
  rw [Naming.strip_eq_rdropWhile, front, List.rdropWhile_eq_self_iff]
  intro _
  rw [List.getLast_append_of_ne_nil _ (List.cons_ne_nil _ _), List.getLast_cons filled]
  rw [Naming.isSpace_of_isDigit (Lib.Text.isDigit_of_mem_numeral (List.getLast_mem filled))]
  exact Bool.false_ne_true

theorem lastWord_ruleLine (handle daddr : Nat) : Python.lastWord (ruleLine handle daddr) = (toString handle).toList := by
  have digits : ∀ c ∈ (toString handle).toList, Naming.isSpace c = false := by
    intro c member
    exact Naming.isSpace_of_isDigit (Lib.Text.isDigit_of_mem_numeral member)
  rw [Python.lastWord, strip_ruleLine, List.splitOnP_append_cons _ _ (by decide), List.splitOnP_eq_singleton digits]
  simp

theorem deleteRule_listed {chain : SuspendChain} {handle daddr : Nat} (present : chain.get handle = some daddr) :
    deleteRule chain (toString handle).toList = some (chain.delete handle) := by
  have found : (chain.toList.find? fun entry => (toString entry.1).toList == (toString handle).toList).isSome := by
    rw [List.find?_isSome]
    exact ⟨(handle, daddr), Table.mem_toList.mpr present, beq_self_eq_true _⟩
  obtain ⟨entry, first⟩ := Option.isSome_iff_exists.mp found
  have same : entry.1 = handle := Lib.Text.numeral_injective (by simpa using List.find?_some first)
  rw [deleteRule, first]
  simp [same]

def deleteEach (chain : SuspendChain) (handles : List Nat) : SuspendChain := handles.foldl Table.delete chain

theorem get_deleteEach (chain : SuspendChain) (handles : List Nat) (handle : Nat) :
    (deleteEach chain handles).get handle = if handle ∈ handles then none else chain.get handle := by
  induction handles generalizing chain with
  | nil => simp [deleteEach]
  | cons first handles ih =>
      have step : (deleteEach chain (first :: handles)).get handle = (deleteEach (chain.delete first) handles).get handle := rfl
      rw [step, ih]
      by_cases same : handle = first
      · simp [same]
      · simp [same, Table.get_delete_of_ne same]

/-- The rules of `entries` are in the chain, each under its own handle. -/
def Listed (chain : SuspendChain) (entries : List (Nat × Nat)) : Prop :=
  (entries.map Prod.fst).Nodup ∧ ∀ entry ∈ entries, chain.get entry.1 = some entry.2

theorem Listed.tail {chain : SuspendChain} {first : Nat × Nat} {entries : List (Nat × Nat)}
    (listed : Listed chain (first :: entries)) : Listed (chain.delete first.1) entries := by
  obtain ⟨distinct, present⟩ := listed
  rw [List.map_cons, List.nodup_cons] at distinct
  refine ⟨distinct.2, ?_⟩
  intro entry member
  have other : entry.1 ≠ first.1 := by
    intro same
    exact distinct.1 (same ▸ List.mem_map_of_mem member)
  rw [Table.get_delete_of_ne other]
  exact present entry (List.mem_cons_of_mem _ member)

theorem listed_filter (chain : SuspendChain) (wanted : Nat × Nat → Bool) : Listed chain (chain.toList.filter wanted) := by
  constructor
  · rw [List.Nodup, List.pairwise_map]
    exact ((Table.toList_sorted chain).filter wanted).imp Nat.ne_of_lt
  · intro entry member
    exact Table.mem_toList.mp (List.mem_filter.mp member).1

theorem goDeletes {chain : SuspendChain} {entries : List (Nat × Nat)} (listed : Listed chain entries) :
    (entries.map fun entry => ruleLine entry.1 entry.2).foldl
      (fun chain line => (deleteRule chain (lastField line)).getD chain) chain =
    deleteEach chain (entries.map Prod.fst) := by
  induction entries generalizing chain with
  | nil => rfl
  | cons first entries ih =>
      have present := listed.2 first List.mem_cons_self
      rw [List.map_cons, List.foldl_cons, lastField_ruleLine, deleteRule_listed present, Option.getD_some, ih listed.tail]
      rfl

theorem pythonDeletes {chain : SuspendChain} {entries : List (Nat × Nat)} (listed : Listed chain entries) :
    Python.deleteLines (entries.map fun entry => ruleLine entry.1 entry.2) chain =
      (deleteEach chain (entries.map Prod.fst), false) := by
  induction entries generalizing chain with
  | nil => rfl
  | cons first entries ih =>
      have present := listed.2 first List.mem_cons_self
      rw [List.map_cons, Python.deleteLines, lastWord_ruleLine, deleteRule_listed present]
      exact ih listed.tail

theorem next_deleteEach (chain : SuspendChain) (handles : List Nat) : (deleteEach chain handles).next = chain.next := by
  induction handles generalizing chain with
  | nil => rfl
  | cons first handles ih => exact ih (chain.delete first)

theorem mem_filter_handles {chain : SuspendChain} {handle daddr : Nat} (present : chain.get handle = some daddr)
    (wanted : Nat × Nat → Bool) :
    handle ∈ (chain.toList.filter wanted).map Prod.fst ↔ wanted (handle, daddr) = true := by
  constructor
  · intro member
    obtain ⟨entry, kept, rfl⟩ := List.mem_map.mp member
    obtain ⟨stored, matching⟩ := List.mem_filter.mp kept
    have same : entry.2 = daddr := Option.some.inj ((Table.mem_toList.mp stored).symm.trans present)
    rw [← same]
    exact matching
  · intro matching
    exact List.mem_map.mpr ⟨(handle, daddr), List.mem_filter.mpr ⟨Table.mem_toList.mpr present, matching⟩, rfl⟩

theorem handlesToDelete_eq (chain : SuspendChain) (ip : Nat) :
    handlesToDelete chain ip =
      ((chain.toList.filter (pickedRule ip)).map Prod.fst).map fun handle => (toString handle).toList := by
  unfold handlesToDelete
  generalize chain.toList = entries
  have fields : ((entries.map fun entry => ruleLine entry.1 entry.2).filter (picked ip)).map lastField =
      ((entries.filter (pickedRule ip)).map Prod.fst).map fun handle => (toString handle).toList := by
    rw [filter_rules, List.map_map, List.map_map]
    apply List.map_congr_left
    intro entry _
    simp only [Function.comp_apply, lastField_ruleLine]
  exact fields

/-- One batch of deletes, by the handles picked from the whole listing. -/
theorem deleteEach_picked (chain : SuspendChain) (ip : Nat) :
    deleteEach chain ((chain.toList.filter (pickedRule ip)).map Prod.fst) = resumePeerIp chain ip := by
  refine Table.ext (next_deleteEach chain _) ?_
  intro handle
  have texts : (handlesToDelete chain ip).contains (toString handle).toList = true ↔
      handle ∈ (chain.toList.filter (pickedRule ip)).map Prod.fst := by
    rw [handlesToDelete_eq, List.contains_iff_mem, List.mem_map_of_injective Lib.Text.numeral_injective]
  rw [get_deleteEach, resumePeerIp, Table.get_deleteWhere]
  by_cases gone : handle ∈ (chain.toList.filter (pickedRule ip)).map Prod.fst
  · rw [if_pos gone, texts.mpr gone]
    cases chain.get handle <;> rfl
  · rw [if_neg gone, Bool.eq_false_iff.mpr (mt texts.mp gone)]
    cases chain.get handle <;> rfl

theorem go_resumePeerIP (chain : SuspendChain) (ip : Nat) : Go.resumePeerIP chain ip = resumePeerIp chain ip := by
  rw [Go.resumePeerIP, filter_listing, goDeletes (listed_filter chain _), deleteEach_picked]

theorem python_resumePeerIp (chain : SuspendChain) (ip : Nat) :
    Python.resumePeerIp chain ip = (resumePeerIp chain ip, false) := by
  rw [Python.resumePeerIp, filter_listing, pythonDeletes (listed_filter chain _), deleteEach_picked]

/-! ### Which rules are picked -/

/-- What the text search takes for the resumed address: the two inner octets are the same, the first one
ends and the last one begins with the digits of the other. -/
def TextWithin (ip other : Nat) : Prop :=
  (toString (ip / 2 ^ 24 % 256)).toList <:+ (toString (other / 2 ^ 24 % 256)).toList ∧
  ip / 2 ^ 16 % 256 = other / 2 ^ 16 % 256 ∧ ip / 2 ^ 8 % 256 = other / 2 ^ 8 % 256 ∧
  (toString (ip % 256)).toList <+: (toString (other % 256)).toList

instance (ip other : Nat) : Decidable (TextWithin ip other) := inferInstanceAs (Decidable (_ ∧ _))

theorem textWithin_self (ip : Nat) : TextWithin ip ip := ⟨List.suffix_rfl, rfl, rfl, List.prefix_rfl⟩

theorem ipText_fields (ip : Nat) :
    (ipText ip).toList = (toString (ip / 2 ^ 24 % 256)).toList ++ '.' :: ((toString (ip / 2 ^ 16 % 256)).toList ++
      '.' :: ((toString (ip / 2 ^ 8 % 256)).toList ++ '.' :: (toString (ip % 256)).toList)) := by
  simp [ipText, show toString "." = "." from rfl]

theorem ipText_infix_iff (ip other : Nat) :
    (ipText ip).toList <:+: (ipText other).toList ↔ TextWithin ip other := by
  have dotless : ∀ n : Nat, '.' ∉ (toString n).toList := fun n => Lib.Text.notMem_numeral rfl
  have undotted : ∀ n : Nat, (toString n).toList.count '.' = 0 := fun n => List.count_eq_zero.mpr (dotless n)
  have inner : ∀ n m : Nat, (toString n).toList = (toString m).toList ↔ n = m := fun n m =>
    Lib.Text.numeral_injective.eq_iff
  rw [ipText_fields, ipText_fields, Lib.Text.infix_of_count (dotless _) (dotless _)]
  · rw [Lib.Text.prefix_append_cons (dotless _) (dotless _), Lib.Text.prefix_append_cons (dotless _) (dotless _),
      inner, inner]
    rfl
  · simp only [List.count_append, List.count_cons_self, undotted]

theorem picked_iff (ip handle daddr : Nat) : pickedRule ip (handle, daddr) = true ↔ TextWithin ip daddr := by
  have blankless : ' ' ∉ (ipText ip).toList := by
    have digits : ∀ n : Nat, ' ' ∉ (toString n).toList := fun n => Lib.Text.notMem_numeral rfl
    rw [ipText_fields]
    simp only [List.mem_append, List.mem_cons, digits]
    decide
  have dotted : '.' ∈ (ipText ip).toList := by
    rw [ipText_fields]
    simp
  have line : ruleLine handle daddr = "\t\tip".toList ++ ' ' :: ("daddr".toList ++ ' ' :: ((ipText daddr).toList ++
      ' ' :: ("drop".toList ++ ' ' :: ("#".toList ++ ' ' :: ("handle".toList ++ ' ' :: (toString handle).toList))))) := by
    simp [ruleLine]
  have drop : contains (ruleLine handle daddr) "drop".toList = true := by
    rw [contains_iff, line]
    exact ⟨"\t\tip daddr ".toList ++ (ipText daddr).toList ++ [' '], " # handle ".toList ++ (toString handle).toList, by simp⟩
  have absent : ∀ text : List Char, '.' ∉ text → ¬(ipText ip).toList <:+: text := fun _ undotted =>
    Lib.Text.not_infix_of_notMem dotted undotted
  rw [pickedRule, picked, drop, Bool.and_true, contains_iff, line]
  simp only [Lib.Text.infix_append_cons blankless]
  rw [ipText_infix_iff]
  simp only [absent "\t\tip".toList (by decide), absent "daddr".toList (by decide), absent "drop".toList (by decide),
    absent "#".toList (by decide), absent "handle".toList (by decide), absent _ (Lib.Text.notMem_numeral rfl),
    false_or, or_false]

theorem get_resumePeerIp {chain : SuspendChain} {handle daddr : Nat} (present : chain.get handle = some daddr) (ip : Nat) :
    (resumePeerIp chain ip).get handle = if TextWithin ip daddr then none else some daddr := by
  rw [← deleteEach_picked, get_deleteEach, present]
  apply if_congr _ rfl rfl
  rw [mem_filter_handles present, picked_iff]

/-! ### Only the resumed address -/

/-- The rules of the resumed address are gone and every other rule is where it was. -/
def ResumesOnly (chain after : SuspendChain) (ip : Nat) : Prop :=
  ∀ handle daddr, chain.get handle = some daddr → after.get handle = if daddr = ip then none else some daddr

theorem resumesOnly_iff (chain : SuspendChain) (ip : Nat) :
    ResumesOnly chain (Go.resumePeerIP chain ip) ip ∧ ResumesOnly chain (Python.resumePeerIp chain ip).1 ip ↔
      ∀ handle other, chain.get handle = some other → other ≠ ip → ¬TextWithin ip other := by
  rw [go_resumePeerIP, python_resumePeerIp, and_self]
  constructor
  · intro only handle other present different within
    have kept := only handle other present
    rw [get_resumePeerIp present, if_pos within, if_neg different] at kept
    cases kept
  · intro apart handle daddr present
    rw [get_resumePeerIp present]
    by_cases same : daddr = ip
    · rw [if_pos same, if_pos (same ▸ textWithin_self daddr)]
    · rw [if_neg same, if_neg (apart handle daddr present same)]

/-- Resuming 10.0.0.1 lets 10.0.0.10 through as well. -/
theorem resumes_other_address :
    let chain := suspendPeerIp (suspendPeerIp Table.empty 167772170) 167772161
    ipText 167772161 = "10.0.0.1" ∧ ipText 167772170 = "10.0.0.10" ∧ chain.get 1 = some 167772170 ∧
      ¬ResumesOnly chain (Go.resumePeerIP chain 167772161) 167772161 ∧
      ¬ResumesOnly chain (Python.resumePeerIp chain 167772161).1 167772161 := by
  intro chain
  have suspended : chain.get 1 = some 167772170 := by decide
  have within : TextWithin 167772161 167772170 := by decide
  have other : ¬ResumesOnly chain (resumePeerIp chain 167772161) 167772161 := by
    intro only
    have kept := only 1 167772170 suspended
    rw [get_resumePeerIp suspended, if_pos within, if_neg (by decide)] at kept
    cases kept
  refine ⟨by decide, by decide, suspended, ?_, ?_⟩
  · rw [go_resumePeerIP]
    exact other
  · rw [python_resumePeerIp]
    exact other

end DeepOrc.Agent
