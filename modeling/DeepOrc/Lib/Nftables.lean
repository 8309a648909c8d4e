import DeepOrc.Lib.Fields
import DeepOrc.Lib.Processes
import DeepOrc.Lib.Text
import Mathlib.Data.Bool.AllAny
import Mathlib.Data.List.Nodup

/-!
# Rules of a packet filter and their handles

A rule is deleted by its handle, and the handle is found in the printed chain. The kernel numbers what is made in a
table and never uses a number again while the table is there, so that a handle which was read some time ago is that of
the same rule or of none.
-/

namespace DeepOrc.Lib.Nftables

open Fields (Text fields decimal)

structure Rule where
  handle : Nat
  text : Text
  deriving DecidableEq

/-- As `nft -a list chain` prints it. -/
def Rule.line (rule : Rule) : Text := "\t\t".toList ++ rule.text ++ " # handle".toList ++ ' ' :: decimal rule.handle

/-- `head` are the lines above the rules. -/
structure Chain where
  head : List Text
  rules : List Rule

def Chain.listing (chain : Chain) : List Text := chain.head ++ chain.rules.map Rule.line ++ ["\t\x7d".toList, "\x7d".toList]

/-- A chain of a table. -/
structure Place where
  table : String
  chain : String
  deriving DecidableEq

/-- `next` is the number for what is made next in a table. -/
structure Ruleset where
  next : String → Option Nat
  chain : Place → Option Chain

namespace Ruleset

def rules (s : Ruleset) (place : Place) : List Rule := (s.chain place).elim [] Chain.rules

def listing (s : Ruleset) (place : Place) : List Text := (s.chain place).elim [] Chain.listing

/-- The rules of a chain that is there are others now. -/
def setRules (s : Ruleset) (place : Place) (rules : List Rule) : Ruleset :=
  { s with chain := Function.update s.chain place ((s.chain place).map fun chain => ⟨chain.head, rules⟩) }

/-- The number for a new rule, and that it is used. -/
def number (s : Ruleset) (place : Place) : Nat := (s.next place.table).getD 0

def numbered (s : Ruleset) (place : Place) : Ruleset :=
  { s with next := Function.update s.next place.table ((s.next place.table).map (· + 1)) }

/-- `nft add table` -/
def addTable (s : Ruleset) (table : String) : Ruleset :=
  { s with next := Function.update s.next table ((s.next table).or (some 1)) }

/-- `nft delete table` -/
def deleteTable (s : Ruleset) (table : String) : Ruleset where
  next := Function.update s.next table none
  chain := fun place => if place.table = table then none else s.chain place

/-- `nft add chain`; a chain that is there stays. -/
def addChain (s : Ruleset) (place : Place) (head : List Text) : Ruleset :=
  if (s.chain place).isSome then s
  else { s.numbered place with chain := Function.update s.chain place (some ⟨head, []⟩) }

/-- `nft add rule` -/
def addRule (s : Ruleset) (place : Place) (text : Text) : Ruleset :=
  (s.numbered place).setRules place (s.rules place ++ [⟨s.number place, text⟩])

/-- `nft insert rule` -/
def insertRule (s : Ruleset) (place : Place) (text : Text) : Ruleset :=
  (s.numbered place).setRules place (⟨s.number place, text⟩ :: s.rules place)

/-- `nft delete rule … handle` -/
def deleteRule (s : Ruleset) (place : Place) (handle : Text) : Ruleset :=
  s.setRules place ((s.rules place).filter fun rule => decimal rule.handle ≠ handle)

end Ruleset

/-! ### Commands -/

def addTable (table : String) : Process Ruleset Bool := .command (fun _ => true) fun s => s.addTable table

def deleteTable (table : String) : Process Ruleset Bool :=
  .command (fun s => (s.next table).isSome) fun s => s.deleteTable table

def addChain (place : Place) (head : List Text) : Process Ruleset Bool :=
  .command (fun s => (s.next place.table).isSome) fun s => s.addChain place head

def addRule (place : Place) (text : Text) : Process Ruleset Bool :=
  .command (fun s => (s.chain place).isSome) fun s => s.addRule place text

def insertRule (place : Place) (text : Text) : Process Ruleset Bool :=
  .command (fun s => (s.chain place).isSome) fun s => s.insertRule place text

def deleteRule (place : Place) (handle : Text) : Process Ruleset Bool :=
  .command (fun s => (s.rules place).any fun rule => decimal rule.handle = handle) fun s => s.deleteRule place handle

/-- The last field of a line. -/
def lastField (blank : Char → Bool) (line : Text) : Text := (fields blank [] line).getLast?.getD []

/-- Whether the text is a number, without a sign. -/
def numeric (text : Text) : Bool := text ≠ [] && text.all Char.isDigit

/-- The rule with the handle at the end of the first line that is wanted is deleted. -/
def deleteFirst (blank : Char → Bool) (place : Place) (wanted : Text → Bool) : Process Ruleset Bool :=
  (Process.read fun s => (s.listing place).any wanted).bind fun found =>
    if found then
      (Process.read fun s => (((s.listing place).find? wanted).map (lastField blank)).getD []).bind fun handle =>
        if numeric handle then deleteRule place handle else .done false
    else .done false

/-- As long as the printed chain has such a line. -/
def deleteFound (blank : Char → Bool) (rounds : Nat) (place : Place) (wanted : Text → Bool) : Process Ruleset Bool :=
  .repeated rounds (deleteFirst blank place wanted)

/-- The chain is printed once, and every rule with a handle at the end of a wanted line is deleted. -/
def deleteMatching (blank : Char → Bool) (isHandle : Text → Bool) (place : Place) (wanted : Text → Bool) :
    Process Ruleset Bool :=
  (Process.read fun s => (((s.listing place).filter wanted).map (lastField blank)).filter isHandle).bind fun handles =>
    .inOrder false (handles.map fun handle => (deleteRule place handle).anyway)

/-! ### Printed rules -/

section Printed

variable {blank : Char → Bool}

theorem fields_append_word {word : Text} (filled : word ≠ []) (solid : ∀ c ∈ word, blank c = false)
    (space : blank ' ' = true) (front field : Text) :
    ∃ earlier, fields blank field (front ++ ' ' :: word) = earlier ++ [word] := by
  have last : fields blank [] word = [word] := by
    have run := Fields.fields_word solid [] []
    rw [List.append_nil, List.append_nil] at run
    rw [run, fields, if_neg (by simpa using filled), List.reverse_reverse]
  induction front generalizing field with
  | nil =>
      rw [List.nil_append, fields, if_pos space, last]
      split
      · exact ⟨[], rfl⟩
      · exact ⟨[field.reverse], rfl⟩
  | cons c front ih =>
      rw [List.cons_append, fields]
      split
      · obtain ⟨earlier, split_⟩ := ih []
        rw [split_]
        split
        · exact ⟨earlier, rfl⟩
        · exact ⟨field.reverse :: earlier, rfl⟩
      · exact ih (c :: field)

theorem lastField_line (solid : ∀ c, c.isDigit = true → blank c = false) (space : blank ' ' = true) (rule : Rule) :
    lastField blank rule.line = decimal rule.handle := by
  obtain ⟨earlier, found⟩ := fields_append_word (Fields.decimal_ne_nil rule.handle)
    (fun c member => solid c (Fields.isDigit_of_mem_decimal member)) space ("\t\t".toList ++ rule.text ++ " # handle".toList) []
  rw [lastField, Rule.line, found, List.getLast?_concat]
  rfl

theorem numeric_decimal (n : Nat) : numeric (decimal n) = true := by
  unfold numeric
  rw [Bool.and_eq_true, decide_eq_true_eq, List.all_eq_true]
  exact ⟨Fields.decimal_ne_nil n, fun c member => Fields.isDigit_of_mem_decimal member⟩

theorem decimal_injective : Function.Injective decimal := by
  intro n m same
  have read := congrArg (fun text => text.foldl (fun total c => total * 10 + (c.toNat - '0'.toNat)) 0) same
  simpa only [Fields.foldl_decimal] using read

/-- What no blank is in is not found across the handle. -/
theorem infix_line_iff {part : Text} (tab : '\t' ∉ part) (space : ' ' ∉ part) (hash : '#' ∉ part)
    (digits : ∃ c ∈ part, c.isDigit = false) (word : ¬part <:+: "handle".toList) (rule : Rule) :
    part <:+: rule.line ↔ part <:+: rule.text := by
  obtain ⟨other, member, letter⟩ := digits
  have line : rule.line = '\t' :: '\t' :: (rule.text ++ ' ' :: ("#".toList ++ ' ' :: ("handle".toList ++ ' ' :: decimal rule.handle))) := by
    simp [Rule.line]
  have front : ∀ text : Text, part <:+: '\t' :: text ↔ part <:+: text := by
    intro text
    have cut : part <:+: [] ++ '\t' :: text ↔ part <:+: [] ∨ part <:+: text := Text.infix_append_cons tab
    rw [List.nil_append] at cut
    rw [cut, List.infix_nil, or_iff_right (List.ne_nil_of_mem member)]
  have mark : ¬part <:+: "#".toList := by
    intro inside
    have same := inside.subset member
    rw [List.mem_singleton.mp same] at member
    exact hash member
  have number : ¬part <:+: decimal rule.handle := by
    intro inside
    rw [Fields.isDigit_of_mem_decimal (inside.subset member)] at letter
    cases letter
  rw [line, front, front, Text.infix_append_cons space, Text.infix_append_cons space, Text.infix_append_cons space]
  tauto

end Printed

/-! ### What the operations do to the rules of a chain -/

namespace Ruleset

variable {s : Ruleset} {place other : Place}

theorem rules_eq_nil (absent : s.chain place = none) : s.rules place = [] := by rw [rules, absent, Option.elim_none]

theorem rules_of_chain {chain : Chain} (there : s.chain place = some chain) : s.rules place = chain.rules := by
  rw [rules, there, Option.elim_some]

theorem mem_listing {line : Text} (member : line ∈ s.listing place) :
    ∃ chain, s.chain place = some chain ∧
      (line ∈ chain.head ∨ (∃ rule ∈ s.rules place, rule.line = line) ∨ line ∈ ["\t\x7d".toList, "\x7d".toList]) := by
  unfold listing at member
  cases there : s.chain place with
  | none =>
      rw [there] at member
      cases member
  | some chain =>
      rw [there] at member
      refine ⟨chain, rfl, ?_⟩
      rw [rules_of_chain there]
      rcases List.mem_append.mp member with member | closing
      · rcases List.mem_append.mp member with head | member
        · exact .inl head
        · exact .inr (.inl (List.mem_map.mp member))
      · exact .inr (.inr closing)

theorem chain_setRules_self (s : Ruleset) (place : Place) (rules : List Rule) :
    (s.setRules place rules).chain place = (s.chain place).map fun chain => ⟨chain.head, rules⟩ :=
  Function.update_self ..

theorem chain_setRules_of_ne (s : Ruleset) (rules : List Rule) (elsewhere : other ≠ place) :
    (s.setRules place rules).chain other = s.chain other :=
  Function.update_of_ne elsewhere ..

theorem rules_setRules_self (s : Ruleset) {rules : List Rule} (there : s.chain place ≠ none ∨ rules = []) :
    (s.setRules place rules).rules place = rules := by
  unfold Ruleset.rules
  rw [chain_setRules_self]
  cases found : s.chain place with
  | none =>
      rcases there with there | rfl
      · exact absurd found there
      · rfl
  | some chain => rfl

theorem rules_setRules_of_ne (s : Ruleset) (rules : List Rule) (elsewhere : other ≠ place) :
    (s.setRules place rules).rules other = s.rules other := by
  unfold Ruleset.rules
  rw [chain_setRules_of_ne s rules elsewhere]

end Ruleset

/-! ### Handles over time -/

section Handles

variable (owned : Place → Text → Bool) (shared : Place → Prop)

/-- Chains are in tables; where handles are used, every rule has a number of its own, and only rules are printed in lines
that are owned. -/
structure Orderly (s : Ruleset) : Prop where
  tables : ∀ place, s.chain place ≠ none → ∃ next, s.next place.table = some next
  used : ∀ place, shared place → ∀ rule ∈ s.rules place, ∃ next, s.next place.table = some next ∧ rule.handle < next
  apart : ∀ place, shared place → ((s.rules place).map Rule.handle).Nodup
  frame : ∀ place, shared place → ∀ chain, s.chain place = some chain →
    ∀ line ∈ chain.head ++ ["\t\x7d".toList, "\x7d".toList], owned place line = false

/-- The tables stay, and what is new in them has a number that was not used before. -/
structure Aged (s t : Ruleset) : Prop where
  next : ∀ place, shared place → ∀ n, s.next place.table = some n → ∃ m, t.next place.table = some m ∧ n ≤ m
  rules : ∀ place, shared place → ∀ n, s.next place.table = some n →
    ∀ rule ∈ t.rules place, rule ∈ s.rules place ∨ n ≤ rule.handle

/-- The rules in lines that are not owned. -/
def Ruleset.foreign (s : Ruleset) (place : Place) : List Rule := (s.rules place).filter fun rule => !owned place rule.line

/-- What a command may do. -/
structure Changed (s t : Ruleset) : Prop where
  aged : Aged shared s t
  orderly : Orderly owned shared s → Orderly owned shared t
  foreign : ∀ place, t.foreign owned place = s.foreign owned place

/-- Whichever rule has the handle, it is owned. -/
structure Known (place : Place) (handle : Text) (s : Ruleset) : Prop where
  used : ∃ n next, handle = decimal n ∧ s.next place.table = some next ∧ n < next
  owned : ∀ rule ∈ s.rules place, decimal rule.handle = handle → owned place rule.line = true

variable {owned shared} {s t u : Ruleset} {place : Place} {handle text : Text}

theorem Aged.refl (shared : Place → Prop) (s : Ruleset) : Aged shared s s :=
  ⟨fun _ _ n there => ⟨n, there, Nat.le_refl n⟩, fun _ _ _ _ _ member => .inl member⟩

theorem Aged.trans (first : Aged shared s t) (second : Aged shared t u) : Aged shared s u where
  next := by
    intro place used n there
    obtain ⟨m, later, le⟩ := first.next place used n there
    obtain ⟨k, last, le'⟩ := second.next place used m later
    exact ⟨k, last, Nat.le_trans le le'⟩
  rules := by
    intro place used n there rule member
    obtain ⟨m, later, le⟩ := first.next place used n there
    rcases second.rules place used m later rule member with earlier | fresh
    · exact first.rules place used n there rule earlier
    · exact .inr (Nat.le_trans le fresh)

theorem Changed.refl (s : Ruleset) : Changed owned shared s s := ⟨.refl shared s, id, fun _ => rfl⟩

theorem Changed.trans (first : Changed owned shared s t) (second : Changed owned shared t u) : Changed owned shared s u where
  aged := first.aged.trans second.aged
  orderly := fun orderly => second.orderly (first.orderly orderly)
  foreign := fun place => (second.foreign place).trans (first.foreign place)

/-- A handle stays that of the same rule or of none. -/
theorem Known.after (known : Known owned place handle s) (used : shared place) (aged : Aged shared s t) :
    Known owned place handle t := by
  obtain ⟨n, next, numeral, there, small⟩ := known.used
  obtain ⟨next', there', le⟩ := aged.next place used next there
  refine ⟨⟨n, next', numeral, there', Nat.lt_of_lt_of_le small le⟩, fun rule member same => ?_⟩
  rcases aged.rules place used next there rule member with earlier | fresh
  · exact known.owned rule earlier same
  · have equal := decimal_injective (same.trans numeral)
    omega

/-- The handle at the end of a line that is owned. -/
theorem known_of_line {blank : Char → Bool} (solid : ∀ c, c.isDigit = true → blank c = false) (space : blank ' ' = true)
    (orderly : Orderly owned shared s) (used : shared place) {line : Text} (listed : line ∈ s.listing place)
    (own : owned place line = true) : Known owned place (lastField blank line) s := by
  obtain ⟨chain, there, place_⟩ := s.mem_listing listed
  have silent : line ∉ chain.head ++ ["\t\x7d".toList, "\x7d".toList] := by
    intro framed
    rw [orderly.frame place used chain there line framed] at own
    cases own
  rcases place_ with head | ⟨rule, member, rfl⟩ | closing
  · exact absurd (List.mem_append_left _ head) silent
  · rw [lastField_line solid space]
    obtain ⟨next, there', small⟩ := orderly.used place used rule member
    refine ⟨⟨rule.handle, next, rfl, there', small⟩, fun other listed' same => ?_⟩
    have equal := List.inj_on_of_nodup_map (orderly.apart place used) listed' member (decimal_injective same)
    rw [equal]
    exact own
  · exact absurd (List.mem_append_right _ closing) silent

/-! ### What the commands keep -/

/-- The chains of a table that nobody searches. -/
theorem changed_addTable (s : Ruleset) (table : String) : Changed owned shared s (s.addTable table) := by
  have next : ∀ place, ∀ n, s.next place = some n → (s.addTable table).next place = some n := by
    intro place n there
    unfold Ruleset.addTable
    dsimp only
    rw [Function.update_apply]
    split
    · rename_i same
      rw [same] at there
      rw [there]
      rfl
    · exact there
  refine ⟨⟨fun place _ n there => ⟨n, next _ n there, Nat.le_refl n⟩, fun _ _ _ _ _ member => .inl member⟩, fun orderly => ?_,
    fun _ => rfl⟩
  refine ⟨fun place there => ?_, fun place used rule member => ?_, orderly.apart, orderly.frame⟩
  · obtain ⟨n, there⟩ := orderly.tables place there
    exact ⟨n, next _ n there⟩
  · obtain ⟨n, there, small⟩ := orderly.used place used rule member
    exact ⟨n, next _ n there, small⟩

theorem changed_deleteTable {table : String} (s : Ruleset) (unused : ∀ place, shared place → place.table ≠ table)
    (own : ∀ place, place.table = table → ∀ line, owned place line = true) :
    Changed owned shared s (s.deleteTable table) := by
  have next : ∀ place, shared place → (s.deleteTable table).next place.table = s.next place.table :=
    fun place used => Function.update_of_ne (unused place used) ..
  have chain : ∀ place, shared place → (s.deleteTable table).chain place = s.chain place :=
    fun place used => if_neg (unused place used)
  have rules : ∀ place, shared place → (s.deleteTable table).rules place = s.rules place := by
    intro place used
    unfold Ruleset.rules
    rw [chain place used]
  refine ⟨⟨fun place used n there => ⟨n, (next place used).trans there, Nat.le_refl n⟩, fun place used _ _ rule member => ?_⟩,
    fun orderly => ⟨fun place there => ?_, fun place used rule member => ?_, fun place used => ?_,
      fun place used found there => ?_⟩, fun place => ?_⟩
  · exact .inl (rules place used ▸ member)
  · unfold Ruleset.deleteTable at there ⊢
    dsimp only at there ⊢
    by_cases same : place.table = table
    · rw [if_pos same] at there
      exact absurd rfl there
    · rw [if_neg same] at there
      rw [Function.update_of_ne same]
      exact orderly.tables place there
  · obtain ⟨n, there, small⟩ := orderly.used place used rule (rules place used ▸ member)
    exact ⟨n, (next place used).trans there, small⟩
  · rw [rules place used]
    exact orderly.apart place used
  · exact orderly.frame place used found ((chain place used).symm.trans there)
  · by_cases same : place.table = table
    · have none_ : ∀ rules : List Rule, rules.filter (fun rule => !owned place rule.line) = [] := by
        intro rules
        rw [List.filter_eq_nil_iff]
        intro rule _
        rw [own place same]
        decide
      unfold Ruleset.foreign
      rw [none_, none_]
    · unfold Ruleset.foreign Ruleset.rules Ruleset.deleteTable
      dsimp only
      rw [if_neg same]

theorem next_numbered (s : Ruleset) (place other : Place) {n : Nat} (there : s.next other.table = some n) :
    ∃ m, (s.numbered place).next other.table = some m ∧ n ≤ m := by
  unfold Ruleset.numbered
  dsimp only
  rw [Function.update_apply]
  split
  · rename_i same
    rw [← same, there]
    exact ⟨n + 1, rfl, Nat.le_succ n⟩
  · exact ⟨n, there, Nat.le_refl n⟩

/-- Other rules in one chain, and perhaps a number used. -/
theorem changed_setRules {rules : List Rule} (chains : t.chain = s.chain)
    (later : ∀ other : Place, ∀ n, s.next other.table = some n → ∃ m, t.next other.table = some m ∧ n ≤ m)
    (fresh : ∀ n, s.next place.table = some n → ∀ rule ∈ rules, rule ∈ s.rules place ∨ n ≤ rule.handle)
    (used : shared place → Orderly owned shared s → s.chain place ≠ none →
      (∀ rule ∈ rules, ∃ next, t.next place.table = some next ∧ rule.handle < next) ∧ (rules.map Rule.handle).Nodup)
    (same : s.chain place ≠ none → rules.filter (fun rule => !owned place rule.line) = s.foreign owned place) :
    Changed owned shared s (t.setRules place rules) := by
  have elsewhere : ∀ other, other ≠ place → (t.setRules place rules).rules other = s.rules other := by
    intro other apart
    rw [Ruleset.rules_setRules_of_ne t rules apart, Ruleset.rules, chains]
    rfl
  have absent : s.chain place = none → (t.setRules place rules).rules place = [] := by
    intro gone
    rw [Ruleset.rules, Ruleset.chain_setRules_self, chains, gone]
    rfl
  have present : s.chain place ≠ none → (t.setRules place rules).rules place = rules := by
    intro there
    exact t.rules_setRules_self (.inl (chains ▸ there))
  refine ⟨⟨fun other _ => later other, ?_⟩, fun orderly => ⟨?_, ?_, ?_, ?_⟩, ?_⟩
  · intro other _ n there rule member
    by_cases here : other = place
    · subst here
      by_cases gone : s.chain other = none
      · rw [absent gone] at member
        cases member
      · rw [present gone] at member
        exact fresh n there rule member
    · exact .inl (elsewhere other here ▸ member)
  · intro other there
    have before : s.chain other ≠ none := by
      intro gone
      apply there
      by_cases here : other = place
      · subst here
        rw [Ruleset.chain_setRules_self, chains, gone]
        rfl
      · rw [t.chain_setRules_of_ne rules here, chains, gone]
    obtain ⟨n, there⟩ := orderly.tables other before
    obtain ⟨m, there', -⟩ := later other n there
    exact ⟨m, there'⟩
  · intro other use rule member
    by_cases here : other = place
    · subst here
      by_cases gone : s.chain other = none
      · rw [absent gone] at member
        cases member
      · rw [present gone] at member
        exact (used use orderly gone).1 rule member
    · rw [elsewhere other here] at member
      obtain ⟨n, there, small⟩ := orderly.used other use rule member
      obtain ⟨m, there', le⟩ := later other n there
      exact ⟨m, there', Nat.lt_of_lt_of_le small le⟩
  · intro other use
    by_cases here : other = place
    · subst here
      by_cases gone : s.chain other = none
      · rw [absent gone]
        exact List.nodup_nil
      · rw [present gone]
        exact (used use orderly gone).2
    · rw [elsewhere other here]
      exact orderly.apart other use
  · intro other use chain there line member
    by_cases here : other = place
    · subst here
      rw [Ruleset.chain_setRules_self, chains, Option.map_eq_some_iff] at there
      obtain ⟨before, found, rfl⟩ := there
      exact orderly.frame other use before found line member
    · rw [t.chain_setRules_of_ne rules here, chains] at there
      exact orderly.frame other use chain there line member
  · intro other
    by_cases here : other = place
    · subst here
      unfold Ruleset.foreign
      by_cases gone : s.chain other = none
      · rw [absent gone, s.rules_eq_nil gone]
      · rw [present gone]
        exact same gone
    · unfold Ruleset.foreign
      rw [elsewhere other here]

/-- A rule of its own, first or last. -/
theorem changed_newRule {rules : List Rule} (s : Ruleset)
    (placed : rules.Perm (⟨s.number place, text⟩ :: s.rules place))
    (filtered : rules.filter (fun rule => !owned place rule.line) = s.foreign owned place) :
    Changed owned shared s ((s.numbered place).setRules place rules) := by
  refine changed_setRules rfl (fun other n there => next_numbered s place other there) ?_ ?_ fun _ => filtered
  · intro n there rule member
    rcases List.mem_cons.mp (placed.mem_iff.mp member) with rfl | earlier
    · unfold Ruleset.number
      rw [there]
      exact .inr (Nat.le_refl n)
    · exact .inl earlier
  · intro use orderly there
    obtain ⟨next, there⟩ := orderly.tables place there
    have number : s.number place = next := by
      unfold Ruleset.number
      rw [there]
      rfl
    have after : (s.numbered place).next place.table = some (next + 1) := by
      unfold Ruleset.numbered
      dsimp only
      rw [Function.update_self, there]
      rfl
    have below : ∀ rule ∈ s.rules place, rule.handle < next := by
      intro rule member
      obtain ⟨n, there', small⟩ := orderly.used place use rule member
      cases there.symm.trans there'
      exact small
    constructor
    · intro rule member
      refine ⟨next + 1, after, ?_⟩
      rcases List.mem_cons.mp (placed.mem_iff.mp member) with rfl | earlier
      · exact number ▸ Nat.lt_succ_self _
      · exact Nat.lt_succ_of_lt (below rule earlier)
    · rw [(placed.map Rule.handle).nodup_iff, List.map_cons, List.nodup_cons]
      refine ⟨fun member => ?_, orderly.apart place use⟩
      obtain ⟨rule, earlier, same⟩ := List.mem_map.mp member
      have small := below rule earlier
      rw [same, number] at small
      exact Nat.lt_irrefl _ small

theorem changed_addRule (s : Ruleset) (own : ∀ handle, owned place (Rule.line ⟨handle, text⟩) = true) :
    Changed owned shared s (s.addRule place text) := by
  apply changed_newRule s (List.perm_append_singleton _ _)
  unfold Ruleset.foreign
  rw [List.filter_append, List.filter_cons_of_neg (by rw [own]; decide), List.filter_nil, List.append_nil]

theorem changed_insertRule (s : Ruleset) (own : ∀ handle, owned place (Rule.line ⟨handle, text⟩) = true) :
    Changed owned shared s (s.insertRule place text) := by
  apply changed_newRule s (List.Perm.refl _)
  rw [List.filter_cons_of_neg (by rw [own]; decide)]
  rfl

theorem changed_deleteRule (own : ∀ rule ∈ s.rules place, decimal rule.handle = handle → owned place rule.line = true) :
    Changed owned shared s (s.deleteRule place handle) := by
  refine changed_setRules rfl (fun other n there => ⟨n, there, Nat.le_refl n⟩) ?_ ?_ fun _ => ?_
  · exact fun _ _ rule member => .inl (List.mem_of_mem_filter member)
  · intro use orderly _
    refine ⟨fun rule member => orderly.used place use rule (List.mem_of_mem_filter member), ?_⟩
    exact (List.filter_sublist.map Rule.handle).nodup (orderly.apart place use)
  · unfold Ruleset.foreign
    rw [List.filter_filter]
    apply List.filter_congr
    intro rule member
    by_cases same : decimal rule.handle = handle
    · rw [own rule member same]
      rfl
    · simp [same]

theorem changed_addChain {head : List Text} (unused : ¬shared place) (table : (s.next place.table).isSome = true) :
    Changed owned shared s (s.addChain place head) := by
  unfold Ruleset.addChain
  split
  · exact .refl s
  · rename_i absent
    have gone : s.chain place = none := by simpa using absent
    have chain : ∀ other, shared other → Function.update s.chain place (some ⟨head, []⟩) other = s.chain other := by
      intro other used
      refine Function.update_of_ne (fun same => unused ?_) ..
      rw [← same]
      exact used
    have rules : ∀ other, (⟨(s.numbered place).next, Function.update s.chain place (some ⟨head, []⟩)⟩ : Ruleset).rules other =
        s.rules other := by
      intro other
      unfold Ruleset.rules
      dsimp only
      rw [Function.update_apply]
      split
      · rename_i same
        rw [same, gone]
        rfl
      · rfl
    refine ⟨⟨fun other _ n there => next_numbered s place other there, fun other _ _ _ rule member => .inl (rules other ▸ member)⟩,
      fun orderly => ⟨fun other there => ?_, fun other used rule member => ?_, fun other used => ?_,
        fun other used found there => ?_⟩, fun other => ?_⟩
    · have known : ∃ n, s.next other.table = some n := by
        by_cases same : other = place
        · rw [same]
          exact Option.isSome_iff_exists.mp table
        · dsimp only at there
          rw [Function.update_of_ne same] at there
          exact orderly.tables other there
      obtain ⟨n, found⟩ := known
      obtain ⟨m, found', -⟩ := next_numbered s place other found
      exact ⟨m, found'⟩
    · obtain ⟨n, found, small⟩ := orderly.used other used rule (rules other ▸ member)
      obtain ⟨m, found', le⟩ := next_numbered s place other found
      exact ⟨m, found', Nat.lt_of_lt_of_le small le⟩
    · rw [rules other]
      exact orderly.apart other used
    · exact orderly.frame other used found ((chain other used).symm.trans there)
    · unfold Ruleset.foreign
      rw [rules other]

/-! ### What the processes keep -/

/-- What a process relies on, and what it guarantees. -/
def Sparing (owned : Place → Text → Bool) (shared : Place → Prop) (process : Process Ruleset Bool) : Prop :=
  ∀ s, process.Since (Orderly owned shared) (Aged shared) (Changed owned shared) (fun _ _ => True) s

theorem sparing_command {works : Ruleset → Bool} {effect : Ruleset → Ruleset}
    (changed : ∀ s, works s = true → Changed owned shared s (effect s)) : Sparing owned shared (.command works effect) :=
  fun _ => Process.since_command (fun t _ => .refl t) fun t _ _ => changed t

theorem since_deleteRule (used : shared place) (known : Known owned place handle s) :
    (deleteRule place handle).Since (Orderly owned shared) (Aged shared) (Changed owned shared) (fun _ _ => True) s :=
  Process.since_command (fun t _ => .refl t) fun _ _ aged _ => changed_deleteRule (known.after used aged).owned

/-- Where every rule is owned, whatever handle it is. -/
theorem sparing_deleteRule (own : ∀ line, owned place line = true) : Sparing owned shared (deleteRule place handle) :=
  sparing_command fun _ _ => changed_deleteRule fun rule _ _ => own rule.line

variable {blank : Char → Bool} {wanted : Text → Bool} (solid : ∀ c, c.isDigit = true → blank c = false) (space : blank ' ' = true)

include solid space

theorem sparing_deleteFound (rounds : Nat) (used : shared place) (own : ∀ line, wanted line = true → owned place line = true) :
    Sparing owned shared (deleteFound blank rounds place wanted) := by
  apply Process.since_repeated rounds
  intro s
  have searched : (Process.read fun s : Ruleset => (s.listing place).any wanted).Since (Orderly owned shared) (Aged shared)
      (Changed owned shared) (fun _ _ => True) s := Process.since_read (fun t _ => .refl t) fun _ _ _ => trivial
  apply searched.bind
  intro found t _
  split
  · have told : ∀ u, Orderly owned shared u → Aged shared t u →
        (∃ line, (u.listing place).find? wanted = some line) → Known owned place
          ((((u.listing place).find? wanted).map (lastField blank)).getD []) u := by
      rintro u orderly - ⟨line, first⟩
      rw [first]
      exact known_of_line solid space orderly used (List.mem_of_find?_eq_some first) (own line (List.find?_some first))
    have picked : (Process.read fun s : Ruleset => (((s.listing place).find? wanted).map (lastField blank)).getD []).Since
        (Orderly owned shared) (Aged shared) (Changed owned shared)
          (fun handle u => numeric handle = true → Known owned place handle u) t := by
      refine Process.since_read (fun u _ => .refl u) fun u orderly aged number => ?_
      cases first : (u.listing place).find? wanted with
      | none =>
          rw [first] at number
          cases number
      | some line =>
          have here := told u orderly aged ⟨line, first⟩
          rw [first] at here
          exact here
    apply picked.bind
    intro handle u known
    split
    · rename_i number
      exact since_deleteRule used (known number)
    · trivial
  · trivial

theorem sparing_deleteMatching (isHandle : Text → Bool) (used : shared place)
    (own : ∀ line, wanted line = true → owned place line = true) :
    Sparing owned shared (deleteMatching blank isHandle place wanted) := by
  intro s
  have printed : (Process.read fun s : Ruleset => (((s.listing place).filter wanted).map (lastField blank)).filter isHandle).Since
      (Orderly owned shared) (Aged shared) (Changed owned shared)
        (fun handles u => ∀ handle ∈ handles, Known owned place handle u) s := by
    refine Process.since_read (fun u _ => .refl u) fun u orderly _ handle member => ?_
    obtain ⟨line, listed, rfl⟩ := List.mem_map.mp (List.mem_of_mem_filter member)
    obtain ⟨listed, want⟩ := List.mem_filter.mp listed
    exact known_of_line solid space orderly used listed (own line want)
  apply printed.bind
  intro handles u known
  refine Process.since_inOrder_after (Aged.refl shared) (fun _ _ _ => Aged.trans) (fun _ _ changed => changed.aged)
    fun process listed t aged => ?_
  obtain ⟨handle, member, rfl⟩ := List.mem_map.mp listed
  exact (since_deleteRule used ((known handle member).after used aged)).anyway

omit solid space

theorem Sparing.anyway {process : Process Ruleset Bool} (sparing : Sparing owned shared process) :
    Sparing owned shared process.anyway :=
  fun s => (sparing s).anyway

theorem sparing_done (result : Bool) : Sparing owned shared (.done result) := fun _ => trivial

theorem sparing_inOrder {strict : Bool} {processes : List (Process Ruleset Bool)}
    (all : ∀ process ∈ processes, Sparing owned shared process) : Sparing owned shared (.inOrder strict processes) :=
  Process.since_inOrder all

theorem sparing_pair {strict : Bool} {first second : Process Ruleset Bool} (one : Sparing owned shared first)
    (other : Sparing owned shared second) : Sparing owned shared (.inOrder strict [first, second]) := by
  apply sparing_inOrder
  intro process member
  rcases List.mem_cons.mp member with rfl | member
  · exact one
  · obtain rfl := List.mem_singleton.mp member
    exact other

/-- A look, and then what is done for each answer. -/
theorem sparing_read {α : Type} {look : Ruleset → α} {then_ : α → Process Ruleset Bool}
    (all : ∀ answer, Sparing owned shared (then_ answer)) : Sparing owned shared ((Process.read look).bind then_) := by
  intro s
  have looked : (Process.read look).Since (Orderly owned shared) (Aged shared) (Changed owned shared) (fun _ _ => True) s :=
    Process.since_read (fun t _ => .refl t) fun _ _ _ => trivial
  exact looked.bind fun answer t _ => all answer t

section Mono

variable {more : Place → Text → Bool} (wider : ∀ place line, owned place line = true → more place line = true)
    (same : ∀ place, shared place → ∀ line, more place line = owned place line)

include same in
theorem Orderly.congr (orderly : Orderly owned shared s) : Orderly more shared s :=
  ⟨orderly.tables, orderly.used, orderly.apart, fun place used chain there line member =>
    (same place used line).trans (orderly.frame place used chain there line member)⟩

include wider same

theorem Changed.mono (changed : Changed owned shared s t) : Changed more shared s t where
  aged := changed.aged
  orderly := by
    intro orderly
    have before : Orderly owned shared s := orderly.congr fun place used line => (same place used line).symm
    exact (changed.orderly before).congr same
  foreign := by
    have fewer : ∀ u : Ruleset, ∀ place, u.foreign more place = (u.foreign owned place).filter fun rule => !more place rule.line := by
      intro u place
      unfold Ruleset.foreign
      rw [List.filter_filter]
      apply List.filter_congr
      intro rule _
      cases mine : owned place rule.line with
      | true =>
          rw [wider place rule.line mine]
          rfl
      | false => rw [Bool.not_false, Bool.and_true]
    intro place
    rw [fewer t, fewer s, changed.foreign place]

/-- What spares the rules of others spares those that are nobody's. -/
theorem Sparing.mono {process : Process Ruleset Bool} (sparing : Sparing owned shared process) :
    Sparing more shared process := by
  intro s
  have since := (sparing s).weaken fun _ _ changed => changed.mono wider same
  exact since.strengthen fun t orderly => orderly.congr fun place used line => (same place used line).symm

end Mono

/-- What others may do: they use no number twice, and keep these rules in their order. -/
structure Outside (owned : Place → Text → Bool) (shared : Place → Prop) (place : Place) (kept : List Rule)
    (s t : Ruleset) : Prop where
  aged : Aged shared s t
  orderly : Orderly owned shared s → Orderly owned shared t
  kept : kept.Sublist (s.rules place) → kept.Sublist (t.rules place)

variable {kept : List Rule}

theorem Changed.outside (changed : Changed owned shared s t) (foreign : ∀ rule ∈ kept, owned place rule.line = false) :
    Outside owned shared place kept s t where
  aged := changed.aged
  orderly := changed.orderly
  kept := by
    intro there
    have all : kept.filter (fun rule => !owned place rule.line) = kept := by
      rw [List.filter_eq_self]
      intro rule member
      rw [foreign rule member]
      rfl
    have spared := there.filter fun rule => !owned place rule.line
    rw [all] at spared
    have same := changed.foreign place
    unfold Ruleset.foreign at same
    rw [← same] at spared
    exact spared.trans List.filter_sublist

theorem outside_agreement {programs : Process Ruleset Bool → Prop}
    (sparing : ∀ process, programs process → Sparing owned shared process)
    (foreign : ∀ rule ∈ kept, owned place rule.line = false) :
    Pool.Agreement programs (Outside owned shared place kept) (Orderly owned shared) (Aged shared)
      (Outside owned shared place kept) where
  refl := Aged.refl shared
  trans := fun _ _ _ => Aged.trans
  relies := fun _ _ outside => outside.aged
  kept := fun _ _ orderly outside => outside.orderly orderly
  known := fun process known s => (sparing process known s).weaken fun _ _ changed => changed.outside foreign
  permitted := fun _ _ _ outside => outside

/-- Rules that are not owned stay, whoever deletes what in between. -/
theorem kept_of_reaches {programs : Process Ruleset Bool → Prop} {pool : Pool Ruleset Bool}
    (sparing : ∀ process, programs process → Sparing owned shared process)
    (foreign : ∀ rule ∈ kept, owned place rule.line = false) (orderly : Orderly owned shared s)
    (there : kept.Sublist (s.rules place))
    (reached : Pool.Reaches programs (Outside owned shared place kept) ⟨s, []⟩ pool) :
    kept.Sublist (pool.shared.rules place) :=
  (reached.invariant (fun t => kept.Sublist (t.rules place)) (outside_agreement sparing foreign) (Pool.safe_start orderly)
    (fun _ _ _ before outside => outside.kept before) there).2

theorem Sparing.run {process : Process Ruleset Bool} (sparing : Sparing owned shared process)
    (orderly : Orderly owned shared s) : Changed owned shared s (process.run s).2 :=
  (sparing s).run (Aged.refl shared) (fun _ _ orderly changed => changed.orderly orderly) Changed.refl
    (fun _ _ _ => Changed.trans) orderly

end Handles

/-! ### Without handles -/

/-- The lines above the rules and the rules of each chain. -/
@[ext]
structure Content where
  tables : String → Bool
  chains : Place → Option (List Text × List Text)

namespace Content

def addTable (c : Content) (table : String) : Content := { c with tables := Function.update c.tables table true }

def deleteTable (c : Content) (table : String) : Content where
  tables := Function.update c.tables table false
  chains := fun place => if place.table = table then none else c.chains place

def addChain (c : Content) (place : Place) (head : List Text) : Content :=
  { c with chains := Function.update c.chains place ((c.chains place).or (some (head, []))) }

def change (c : Content) (place : Place) (rules : List Text → List Text) : Content :=
  { c with chains := Function.update c.chains place ((c.chains place).map fun chain => (chain.1, rules chain.2)) }

end Content

theorem Content.change_change (c : Content) (place : Place) (first second : List Text → List Text) :
    (c.change place first).change place second = c.change place fun texts => second (first texts) := by
  unfold Content.change
  dsimp only
  rw [Function.update_self, Function.update_idem, Option.map_map]
  rfl

theorem Content.isSome_change (c : Content) (place : Place) (edit : List Text → List Text) :
    ((c.change place edit).chains place).isSome = (c.chains place).isSome := by
  unfold Content.change
  dsimp only
  rw [Function.update_self, Option.isSome_map]

def Ruleset.content (s : Ruleset) : Content where
  tables := fun table => (s.next table).isSome
  chains := fun place => (s.chain place).map fun chain => (chain.head, chain.rules.map Rule.text)

section Content

variable {s t : Ruleset} {place : Place} {text : Text}

theorem content_addTable (s : Ruleset) (table : String) : (s.addTable table).content = s.content.addTable table := by
  unfold Ruleset.content Ruleset.addTable Content.addTable
  dsimp only
  congr 1
  funext other
  rw [Function.update_apply, Function.update_apply]
  split
  · cases s.next table <;> rfl
  · rfl

theorem content_deleteTable (s : Ruleset) (table : String) : (s.deleteTable table).content = s.content.deleteTable table := by
  unfold Ruleset.content Ruleset.deleteTable Content.deleteTable
  dsimp only
  congr 1
  · funext other
    rw [Function.update_apply, Function.update_apply]
    split <;> rfl
  · funext place
    split <;> rfl

theorem tables_numbered (s : Ruleset) (place : Place) (table : String) :
    ((s.numbered place).next table).isSome = (s.next table).isSome := by
  unfold Ruleset.numbered
  dsimp only
  rw [Function.update_apply]
  split
  · rename_i same
    rw [same, Option.isSome_map]
  · rfl

theorem content_addChain (s : Ruleset) (place : Place) (head : List Text) :
    (s.addChain place head).content = s.content.addChain place head := by
  unfold Ruleset.addChain
  split
  · rename_i there
    obtain ⟨chain, found⟩ := Option.isSome_iff_exists.mp there
    unfold Ruleset.content Content.addChain
    dsimp only
    rw [found, Option.map_some, Option.some_or, Function.update_eq_self_iff.mpr]
    rw [found]
    rfl
  · rename_i absent
    have gone : s.chain place = none := by simpa using absent
    unfold Ruleset.content Content.addChain
    dsimp only
    congr 1
    · exact funext (tables_numbered s place)
    · funext other
      rw [Function.update_apply, Function.update_apply]
      split
      · rw [gone]
        rfl
      · rfl

theorem content_setRules {rules : List Rule} {edit : List Text → List Text} (chains : t.chain = s.chain)
    (tables : ∀ table, (t.next table).isSome = (s.next table).isSome)
    (edited : rules.map Rule.text = edit ((s.rules place).map Rule.text)) :
    (t.setRules place rules).content = s.content.change place edit := by
  unfold Ruleset.content Content.change
  dsimp only
  congr 1
  · exact funext tables
  · funext other
    rw [Function.update_apply]
    split
    · rename_i same
      subst same
      rw [Ruleset.chain_setRules_self, chains]
      cases found : s.chain other with
      | none => rfl
      | some chain =>
          rw [s.rules_of_chain found] at edited
          rw [Option.map_some, Option.map_some, Option.map_some, Option.map_some, edited]
    · rename_i elsewhere
      rw [Ruleset.chain_setRules_of_ne t rules elsewhere, chains]

theorem content_addRule (s : Ruleset) (place : Place) (text : Text) :
    (s.addRule place text).content = s.content.change place fun texts => texts ++ [text] :=
  content_setRules rfl (tables_numbered s place) (List.map_append ..)

theorem content_insertRule (s : Ruleset) (place : Place) (text : Text) :
    (s.insertRule place text).content = s.content.change place fun texts => text :: texts :=
  content_setRules rfl (tables_numbered s place) rfl

theorem setRules_self (s : Ruleset) (place : Place) : s.setRules place (s.rules place) = s := by
  have same : ((s.chain place).map fun chain => (⟨chain.head, s.rules place⟩ : Chain)) = s.chain place := by
    cases found : s.chain place with
    | none => rfl
    | some chain => rw [s.rules_of_chain found, Option.map_some]
  unfold Ruleset.setRules
  rw [same, Function.update_eq_self]

theorem setRules_setRules (s : Ruleset) (place : Place) (first second : List Rule) :
    (s.setRules place first).setRules place second = s.setRules place second := by
  unfold Ruleset.setRules
  dsimp only
  rw [Function.update_self, Function.update_idem, Option.map_map]
  rfl

/-! ### Processes from content to content -/

variable {owned : Place → Text → Bool} {shared : Place → Prop} {blank : Char → Bool} {wanted : Text → Bool}

/-- The first of the lines that are wanted is that of a rule. -/
theorem exists_of_found (orderly : Orderly owned shared s) (used : shared place)
    (own : ∀ line, wanted line = true → owned place line = true) {line : Text}
    (first : (s.listing place).find? wanted = some line) : ∃ rule ∈ s.rules place, rule.line = line := by
  obtain ⟨chain, there, head | rule | closing⟩ := Ruleset.mem_listing (List.mem_of_find?_eq_some first)
  · have silent := orderly.frame place used chain there line (List.mem_append_left _ head)
    rw [own line (List.find?_some first)] at silent
    cases silent
  · exact rule
  · have silent := orderly.frame place used chain there line (List.mem_append_right _ closing)
    rw [own line (List.find?_some first)] at silent
    cases silent

theorem line_mem_listing {rule : Rule} (member : rule ∈ s.rules place) : rule.line ∈ s.listing place := by
  unfold Ruleset.rules at member
  unfold Ruleset.listing
  cases there : s.chain place with
  | none =>
      rw [there] at member
      cases member
  | some chain =>
      rw [there] at member
      exact List.mem_append_left _ (List.mem_append_right _ (List.mem_map_of_mem member))

theorem run_deleteFirst_of_none (none_ : ∀ line ∈ s.listing place, wanted line = false) :
    (deleteFirst blank place wanted).run s = (false, s) := by
  have absent : (s.listing place).any wanted = false := by
    rw [List.any_eq_false]
    intro line listed
    rw [none_ line listed]
    decide
  unfold deleteFirst
  rw [Process.run_bind, Process.run_read]
  dsimp only
  rw [absent]
  rfl

theorem run_deleteFirst (solid : ∀ c, c.isDigit = true → blank c = false) (space : blank ' ' = true) {rule : Rule}
    (member : rule ∈ s.rules place) (first : (s.listing place).find? wanted = some rule.line) :
    (deleteFirst blank place wanted).run s = (true, s.deleteRule place (decimal rule.handle)) := by
  have present : (s.listing place).any wanted = true :=
    List.any_eq_true.mpr ⟨_, line_mem_listing member, List.find?_some first⟩
  have works : (s.rules place).any (fun other => decimal other.handle = decimal rule.handle) = true :=
    List.any_eq_true.mpr ⟨rule, member, decide_eq_true rfl⟩
  unfold deleteFirst
  rw [Process.run_bind, Process.run_read]
  dsimp only
  rw [if_pos present, Process.run_bind, Process.run_read]
  dsimp only
  rw [first, Option.map_some, Option.getD_some, lastField_line solid space, if_pos (numeric_decimal _)]
  unfold deleteRule
  rw [Process.run_command, works]
  rfl

theorem setRules_filter_of_none (none_ : ∀ rule ∈ s.rules place, wanted rule.line = false) :
    s.setRules place ((s.rules place).filter fun rule => !wanted rule.line) = s := by
  have all : ((s.rules place).filter fun rule => !wanted rule.line) = s.rules place := by
    rw [List.filter_eq_self]
    intro rule member
    rw [none_ rule member]
    rfl
  rw [all, setRules_self]

/-- One rule that is wanted is deleted in each round. -/
theorem run_deleteFound (solid : ∀ c, c.isDigit = true → blank c = false) (space : blank ' ' = true) {rounds : Nat}
    (orderly : Orderly owned shared s) (used : shared place) (own : ∀ line, wanted line = true → owned place line = true)
    (enough : ((s.rules place).filter fun rule => wanted rule.line).length ≤ rounds) :
    (deleteFound blank rounds place wanted).run s =
      (true, s.setRules place ((s.rules place).filter fun rule => !wanted rule.line)) := by
  induction rounds generalizing s with
  | zero =>
      have empty := List.eq_nil_of_length_eq_zero (Nat.le_zero.mp enough)
      rw [setRules_filter_of_none fun rule member => by simpa using List.filter_eq_nil_iff.mp empty rule member]
      rfl
  | succ rounds ih =>
      unfold deleteFound at ih ⊢
      rw [Process.run_repeated_succ]
      cases first : (s.listing place).find? wanted with
      | none =>
          have silent : ∀ line ∈ s.listing place, wanted line = false := by
            intro line listed
            simpa using List.find?_eq_none.mp first line listed
          rw [run_deleteFirst_of_none silent, setRules_filter_of_none fun rule member => silent _ (line_mem_listing member)]
          rfl
      | some line =>
          obtain ⟨rule, member, rfl⟩ := exists_of_found orderly used own first
          have want : wanted rule.line = true := List.find?_some first
          have known := known_of_line solid space orderly used (line_mem_listing member) (own _ want)
          rw [lastField_line solid space] at known
          have same : ∀ other ∈ s.rules place, decimal other.handle = decimal rule.handle → other = rule :=
            fun other listed equal => List.inj_on_of_nodup_map (orderly.apart place used) listed member (decimal_injective equal)
          have rules : (s.deleteRule place (decimal rule.handle)).rules place =
              (s.rules place).filter fun other => decimal other.handle ≠ decimal rule.handle := by
            refine s.rules_setRules_self (.inl fun gone => ?_)
            rw [s.rules_eq_nil gone] at member
            cases member
          have fewer : (((s.deleteRule place (decimal rule.handle)).rules place).filter fun rule => wanted rule.line).length ≤
              rounds := by
            rw [rules, List.filter_comm]
            have less : (((s.rules place).filter fun rule => wanted rule.line).filter fun other =>
                decimal other.handle ≠ decimal rule.handle).length < ((s.rules place).filter fun rule => wanted rule.line).length := by
              rw [List.length_filter_lt_length_iff_exists]
              exact ⟨rule, List.mem_filter.mpr ⟨member, want⟩, by simp⟩
            omega
          have unwanted : (((s.deleteRule place (decimal rule.handle)).rules place).filter fun rule => !wanted rule.line) =
              (s.rules place).filter fun rule => !wanted rule.line := by
            rw [rules, List.filter_filter]
            apply List.filter_congr
            intro other listed
            by_cases equal : decimal other.handle = decimal rule.handle
            · rw [same other listed equal, want]
              rfl
            · simp [equal]
          rw [run_deleteFirst solid space member first, if_pos rfl]
          dsimp only
          rw [ih ((changed_deleteRule known.owned).orderly orderly) fewer, unwanted]
          unfold Ruleset.deleteRule
          rw [setRules_setRules]

/-- Nothing in between, a process with all of its commands working turns the one content into the other. -/
def Turns (owned : Place → Text → Bool) (shared : Place → Prop) (process : Process Ruleset Bool) (c d : Content) : Prop :=
  ∀ s, Orderly owned shared s → s.content = c →
    (process.run s).1 = true ∧ Orderly owned shared (process.run s).2 ∧ (process.run s).2.content = d

variable {c d e : Content} {process : Process Ruleset Bool}

theorem turns_of_sparing (sparing : Sparing owned shared process)
    (turned : ∀ s, Orderly owned shared s → s.content = c → (process.run s).1 = true ∧ (process.run s).2.content = d) :
    Turns owned shared process c d := by
  intro s orderly same
  obtain ⟨works, content⟩ := turned s orderly same
  exact ⟨works, (sparing.run orderly).orderly orderly, content⟩

theorem turns_done (c : Content) : Turns owned shared (.done true) c c := fun _ orderly same => ⟨rfl, orderly, same⟩

theorem turns_cons {strict : Bool} {first : Process Ruleset Bool} {rest : List (Process Ruleset Bool)}
    (one : Turns owned shared first c d) (others : Turns owned shared (.inOrder strict rest) d e) :
    Turns owned shared (.inOrder strict (first :: rest)) c e := by
  intro s orderly same
  obtain ⟨works, orderly', content⟩ := one s orderly same
  have after := others _ orderly' content
  rw [Process.run_inOrder_cons, works]
  simpa using after

theorem turns_addTable (c : Content) (table : String) : Turns owned shared (addTable table) c (c.addTable table) := by
  refine turns_of_sparing (sparing_command fun s _ => changed_addTable s table) fun s _ same => ⟨rfl, ?_⟩
  unfold addTable
  rw [Process.run_command, if_pos rfl, content_addTable, same]

theorem turns_deleteTable {table : String} (sparing : Sparing owned shared (deleteTable table)) (c : Content) :
    Turns owned shared (deleteTable table).anyway c (c.deleteTable table) := by
  apply turns_of_sparing sparing.anyway
  intro s orderly same
  rw [Process.run_anyway]
  refine ⟨rfl, ?_⟩
  unfold deleteTable
  rw [Process.run_command]
  dsimp only
  split
  · rw [content_deleteTable, same]
  · rename_i absent
    have gone : s.next table = none := by simpa using absent
    rw [← same, Content.deleteTable, Ruleset.content]
    dsimp only
    congr 1
    · rw [Function.update_eq_self_iff.mpr]
      rw [gone]
      rfl
    · funext place
      split
      · rename_i here
        cases there : s.chain place with
        | none => rfl
        | some chain =>
            obtain ⟨next, known⟩ := orderly.tables place (by rw [there]; exact Option.some_ne_none chain)
            rw [here, gone] at known
            cases known
      · rfl

theorem turns_addChain {head : List Text} (sparing : Sparing owned shared (addChain place head))
    (table : c.tables place.table = true) : Turns owned shared (addChain place head) c (c.addChain place head) := by
  apply turns_of_sparing sparing
  intro s _ same
  have works : (s.next place.table).isSome = true := by
    rw [← same] at table
    exact table
  unfold addChain
  rw [Process.run_command, if_pos works, content_addChain, same]
  exact ⟨works, rfl⟩

theorem isSome_chain (same : s.content = c) : (s.chain place).isSome = (c.chains place).isSome := by
  rw [← same, Ruleset.content, Option.isSome_map]

theorem turns_addRule (sparing : Sparing owned shared (addRule place text)) (there : (c.chains place).isSome = true) :
    Turns owned shared (addRule place text) c (c.change place fun texts => texts ++ [text]) := by
  apply turns_of_sparing sparing
  intro s _ same
  have works := (isSome_chain same).trans there
  unfold addRule
  rw [Process.run_command, if_pos works, content_addRule, same]
  exact ⟨works, rfl⟩

theorem turns_insertRule (sparing : Sparing owned shared (insertRule place text)) (there : (c.chains place).isSome = true) :
    Turns owned shared (insertRule place text) c (c.change place fun texts => text :: texts) := by
  apply turns_of_sparing sparing
  intro s _ same
  have works := (isSome_chain same).trans there
  unfold insertRule
  rw [Process.run_command, if_pos works, content_insertRule, same]
  exact ⟨works, rfl⟩

/-- Rules are picked by their text. -/
theorem turns_deleteFound (solid : ∀ c, c.isDigit = true → blank c = false) (space : blank ' ' = true) {rounds : Nat}
    (used : shared place) (own : ∀ line, wanted line = true → owned place line = true) {picks : Text → Bool}
    (picked : ∀ rule : Rule, wanted rule.line = picks rule.text)
    (enough : ∀ chain, c.chains place = some chain → (chain.2.filter picks).length ≤ rounds) :
    Turns owned shared (deleteFound blank rounds place wanted) c
      (c.change place fun texts => texts.filter fun text => !picks text) := by
  apply turns_of_sparing (sparing_deleteFound solid space rounds used own)
  intro s orderly same
  have few : ((s.rules place).filter fun rule => wanted rule.line).length ≤ rounds := by
    cases there : s.chain place with
    | none =>
        rw [s.rules_eq_nil there]
        exact Nat.zero_le rounds
    | some chain =>
        have printed : c.chains place = some (chain.head, chain.rules.map Rule.text) := by
          rw [← same, Ruleset.content]
          dsimp only
          rw [there]
          rfl
        have listed := enough _ printed
        have count : ((chain.rules.map Rule.text).filter picks).length = (chain.rules.filter fun rule => wanted rule.line).length := by
          rw [List.filter_map, List.length_map]
          refine congrArg List.length (List.filter_congr fun rule _ => ?_)
          rw [picked]
          rfl
        rw [s.rules_of_chain there, ← count]
        exact listed
  rw [run_deleteFound solid space orderly used own few]
  refine ⟨rfl, ?_⟩
  rw [content_setRules rfl fun _ => rfl, same]
  rw [List.filter_map]
  refine congrArg (List.map Rule.text) (List.filter_congr fun rule _ => ?_)
  rw [picked]
  rfl

end Content

end DeepOrc.Lib.Nftables
