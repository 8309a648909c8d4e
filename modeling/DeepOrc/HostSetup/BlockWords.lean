import DeepOrc.HostSetup.Rendering

/-!
# What a gateway's block takes on the exit host

The macvlan interface, the routing table and the rule priorities, as words of the block's commands.
-/

namespace DeepOrc.HostSetup

open Lib.ShellStatus (AndOr)
open Lib.Text (given)

/-- The word behind the start of a command. -/
def wordAfter (start command : String) : Option String :=
  if start.toList.isPrefixOf command.toList then
    some (String.ofList ((command.toList.drop start.toList.length).takeWhile (· ≠ ' ')))
  else none

def lastWord (command : String) : String := String.ofList (command.toList.reverse.takeWhile (· ≠ ' ')).reverse

def macvlans (block : List AndOr) : List String := (block.map AndOr.text).filterMap (wordAfter "ip link add ")

def priorities (block : List AndOr) : List String := (block.map AndOr.text).filterMap (wordAfter "ip rule add pref ")

def tables (block : List AndOr) : List String :=
  ((block.map AndOr.text).filter fun command => (wordAfter "ip route replace " command).isSome).map lastWord

/-! ### Reading one command -/

theorem takeWhile_word {word rest : List Char} (solid : ' ' ∉ word) (behind : rest.head? = some ' ') :
    (word ++ rest).takeWhile (· ≠ ' ') = word := by
  have kept : ∀ c ∈ word, decide (c ≠ ' ') = true := by
    intro c member
    exact decide_eq_true fun blank => solid (blank ▸ member)
  obtain ⟨tail, rfl⟩ := List.head?_eq_some_iff.mp behind
  rw [List.takeWhile_append_of_pos kept, List.takeWhile_cons_of_neg (by simp), List.append_nil]

/-- The text begins with the start of a command and a word. -/
def Opens (start word text : String) : Prop := ∃ rest, text.toList = start.toList ++ (word.toList ++ ' ' :: rest)

theorem opens_word {start word rest : String} (behind : rest.toList.head? = some ' ') :
    Opens start word (start ++ (word ++ rest)) := by
  obtain ⟨tail, text⟩ := List.head?_eq_some_iff.mp behind
  refine ⟨tail, ?_⟩
  rw [String.toList_append, String.toList_append, text]

theorem Opens.wordAfter {start word text : String} (opens : Opens start word text) (solid : ' ' ∉ word.toList) :
    wordAfter start text = some word := by
  obtain ⟨tail, whole⟩ := opens
  have front : start.toList.isPrefixOf (start.toList ++ (word.toList ++ ' ' :: tail)) = true :=
    List.isPrefixOf_iff_prefix.mpr (List.prefix_append _ _)
  rw [HostSetup.wordAfter, whole, front, if_pos rfl, List.drop_left, takeWhile_word solid rfl, String.ofList_toList]

theorem wordAfter_isSome {start front : String} (within : start.toList.isPrefixOf front.toList = true) (rest : String) :
    (wordAfter start (front ++ rest)).isSome = true := by
  have longer : start.toList.isPrefixOf (front ++ rest).toList = true := by
    rw [List.isPrefixOf_iff_prefix, String.toList_append] at *
    exact within.trans (List.prefix_append _ _)
  rw [wordAfter, longer, if_pos rfl]
  rfl

theorem lastWord_append {front word : String} (before : front.toList.getLast? = some ' ') (solid : ' ' ∉ word.toList) :
    lastWord (front ++ word) = word := by
  have reversed : front.toList.reverse.head? = some ' ' := by rw [List.head?_reverse, before]
  have backwards : ' ' ∉ word.toList.reverse := fun member => solid (List.mem_reverse.mp member)
  rw [lastWord, String.toList_append, List.reverse_append, takeWhile_word backwards reversed, List.reverse_reverse,
    String.ofList_toList]

theorem endsWith_append {front rest : String} {c : Char} (ending : rest.toList.getLast? = some c) :
    (front ++ rest).toList.getLast? = some c := by
  rw [String.toList_append, List.getLast?_append, ending]
  rfl

/-- Two texts that differ at some place. -/
def Differs (one other : String) : Prop := ((one.toList.zip other.toList).any fun pair => pair.1 != pair.2) = true

instance (one other : String) : Decidable (Differs one other) := inferInstanceAs (Decidable (_ = true))

theorem Differs.append {one front : String} (apart : Differs one front) (rest : String) : Differs one (front ++ rest) := by
  unfold Differs at apart ⊢
  rw [String.toList_append]
  generalize one.toList = one at apart
  generalize front.toList = front at apart
  induction one generalizing front with
  | nil => cases apart
  | cons c one ih =>
      cases front with
      | nil => cases apart
      | cons d front =>
          simp only [List.cons_append, List.zip_cons_cons, List.any_cons, Bool.or_eq_true] at apart ⊢
          exact apart.imp id (ih front)

theorem wordAfter_of_differs {start command : String} (apart : Differs start command) : wordAfter start command = none := by
  have other : start.toList.isPrefixOf command.toList = false := by
    rw [← Bool.not_eq_true, List.isPrefixOf_iff_prefix]
    rintro ⟨rest, whole⟩
    unfold Differs at apart
    rw [← whole] at apart
    generalize start.toList = start at apart
    induction start with
    | nil => cases apart
    | cons c start ih =>
        simp only [List.cons_append, List.zip_cons_cons, List.any_cons, Bool.or_eq_true, bne_self_eq_false,
          Bool.false_eq_true, false_or] at apart
        exact ih apart
  rw [wordAfter, other, if_neg Bool.false_ne_true]

theorem solid_intText (n : Int) : ' ' ∉ (toString n).toList := Lib.Text.notMem_intNumeral rfl (by decide)

theorem solid_macText (slot : Int) : ' ' ∉ (macText slot).toList := by
  show ' ' ∉ ("mac_" ++ toString slot).toList
  rw [String.toList_append, List.mem_append]
  rintro (front | digits)
  · exact absurd front (by decide)
  · exact solid_intText slot digits

/-! ### Reading the lines of a block -/

section Macvlan

variable {group : Lan.PeerGroup} {gatewayName lanIp : String} {slot : Int} {line : AndOr}
  (member : line ∈ macvlanLines group gatewayName lanIp slot)

include member

theorem macvlan_macvlanLines :
    wordAfter "ip link add " line.text = none ∨ wordAfter "ip link add " line.text = some (macText slot) := by
  simp only [macvlanLines, List.mem_cons, List.not_mem_nil, or_false] at member
  rcases member with rfl | rfl | rfl | rfl | rfl | rfl | rfl | rfl | rfl | rfl | rfl
  all_goals simp only [AndOr.text_single, AndOr.text_orElse, String.append_assoc]
  case inr.inr.inl => exact .inr ((opens_word (by decide)).wordAfter (solid_macText slot))
  all_goals exact .inl (wordAfter_of_differs (Differs.append (by decide +kernel) _))

theorem priority_macvlanLines :
    wordAfter "ip rule add pref " line.text = none ∨
      wordAfter "ip rule add pref " line.text = some (toString (32000 + slot)) := by
  simp only [macvlanLines, List.mem_cons, List.not_mem_nil, or_false] at member
  rcases member with rfl | rfl | rfl | rfl | rfl | rfl | rfl | rfl | rfl | rfl | rfl
  all_goals simp only [AndOr.text_single, AndOr.text_orElse, String.append_assoc]
  case inr.inr.inr.inr.inr.inr.inr.inr.inr.inl =>
    exact .inr ((opens_word (startsWith_append (by decide))).wordAfter (solid_intText _))
  all_goals exact .inl (wordAfter_of_differs (Differs.append (by decide +kernel) _))

theorem table_macvlanLines :
    wordAfter "ip route replace " line.text = none ∨ lastWord line.text = toString slot := by
  simp only [macvlanLines, List.mem_cons, List.not_mem_nil, or_false] at member
  rcases member with rfl | rfl | rfl | rfl | rfl | rfl | rfl | rfl | rfl | rfl | rfl
  case inr.inr.inr.inr.inr.inr.inl =>
    rw [AndOr.text_single]
    exact .inr (lastWord_append (endsWith_append (by decide)) (solid_intText slot))
  case inr.inr.inr.inr.inr.inr.inr.inl =>
    rw [AndOr.text_single]
    exact .inr (lastWord_append (endsWith_append (by decide)) (solid_intText slot))
  all_goals
    simp only [AndOr.text_single, AndOr.text_orElse, String.append_assoc]
    exact .inl (wordAfter_of_differs (Differs.append (by decide +kernel) _))

end Macvlan

/-- A command that takes nothing but, perhaps, the priority of a rule. -/
structure Aside (line : AndOr) : Prop where
  macvlan : wordAfter "ip link add " line.text = none
  table : wordAfter "ip route replace " line.text = none

section Backhaul

variable {gatewayName conf : String} {slot : Int} {line : AndOr} (member : line ∈ wireguardLines gatewayName slot conf)

include member

theorem aside_wireguardLines : Aside line := by
  simp only [wireguardLines, writeWgConfLines, List.mem_append, List.mem_cons, List.not_mem_nil, or_false] at member
  rcases member with (rfl | rfl | rfl | rfl) | rfl | rfl | rfl | rfl | rfl | rfl | rfl
  all_goals
    constructor
    all_goals simp only [AndOr.text_single, AndOr.text_pair, AndOr.text_orElse, String.append_assoc, toString]
  case inl.inl.macvlan => exact wordAfter_of_differs (by decide +kernel)
  case inl.inl.table => exact wordAfter_of_differs (by decide +kernel)
  all_goals exact wordAfter_of_differs (Differs.append (by decide +kernel) _)

theorem priority_wireguardLines :
    wordAfter "ip rule add pref " line.text = none ∨
      wordAfter "ip rule add pref " line.text = some (toString (32500 + slot)) := by
  simp only [wireguardLines, writeWgConfLines, List.mem_append, List.mem_cons, List.not_mem_nil, or_false] at member
  rcases member with (rfl | rfl | rfl | rfl) | rfl | rfl | rfl | rfl | rfl | rfl | rfl
  all_goals simp only [AndOr.text_single, AndOr.text_pair, AndOr.text_orElse, String.append_assoc, toString]
  case inr.inr.inr.inr.inl =>
    exact .inr ((opens_word (startsWith_append (by decide))).wordAfter (solid_intText _))
  case inl.inl => exact .inl (wordAfter_of_differs (by decide +kernel))
  all_goals exact .inl (wordAfter_of_differs (Differs.append (by decide +kernel) _))

end Backhaul

/-- The lines about WireGuard are those of the interface or one that only prints. -/
theorem backhaulLines_cases {gateway : ScriptGateway} {slot : Int} {wgConf : Option String} {line : AndOr}
    (member : line ∈ backhaulLines gateway slot wgConf) :
    (gateway.status = .ready ∧ validWgConf wgConf = true ∧ line ∈ wireguardLines gateway.name slot (wgConf.getD "")) ∨
      ∀ start, Differs start "echo '  skip WireGuard: " → wordAfter start line.text = none := by
  unfold backhaulLines at member
  split_ifs at member with waiting valid
  · obtain rfl := List.mem_singleton.mp member
    refine .inr fun start apart => ?_
    simp only [AndOr.text_single, String.append_assoc]
    exact wordAfter_of_differs (Differs.append apart _)
  · exact .inl ⟨not_not.mp waiting, valid, member⟩
  · obtain rfl := List.mem_singleton.mp member
    refine .inr fun start apart => ?_
    simp only [AndOr.text_single, String.append_assoc]
    exact wordAfter_of_differs (Differs.append apart _)

theorem aside_backhaulLines {gateway : ScriptGateway} {slot : Int} {wgConf : Option String} {line : AndOr}
    (member : line ∈ backhaulLines gateway slot wgConf) : Aside line := by
  obtain ⟨-, -, started⟩ | skipped := backhaulLines_cases member
  · exact aside_wireguardLines started
  · exact ⟨skipped _ (by decide +kernel), skipped _ (by decide +kernel)⟩

/-! ### Reading a block -/

theorem mem_words {start word : String} {block : List AndOr} {line : AndOr} (member : line ∈ block)
    (read : wordAfter start line.text = some word) : word ∈ (block.map AndOr.text).filterMap (wordAfter start) :=
  List.mem_filterMap.mpr ⟨line.text, List.mem_map_of_mem member, read⟩

section Block

variable {group : Lan.PeerGroup} {entry : Entry} {lanIp : String} {slot : Int}
  (address : given entry.1.lanIp = some lanIp) (place : entry.1.macvlanSlot = some slot)

include address place

theorem mem_macvlans_iff {name : String} : name ∈ macvlans (blockLists group entry) ↔ name = macText slot := by
  rw [macvlans, blockLists_eq group address place]
  constructor
  · intro listed
    obtain ⟨text, found, read⟩ := List.mem_filterMap.mp listed
    obtain ⟨line, member, rfl⟩ := List.mem_map.mp found
    obtain own | backhaul := List.mem_append.mp member
    · obtain other | same := macvlan_macvlanLines own
      · rw [other] at read
        cases read
      · rw [same] at read
        exact (Option.some.inj read).symm
    · rw [(aside_backhaulLines backhaul).macvlan] at read
      cases read
  · rintro rfl
    have added : .pipeline [s!"ip link add {macText slot} link \"$\x7bPARENT_IFACE\x7d\" type macvlan mode bridge"] ∈
        macvlanLines group entry.1.name lanIp slot := by simp [macvlanLines]
    apply mem_words (List.mem_append_left _ added)
    simp only [AndOr.text_single, String.append_assoc]
    exact (opens_word (by decide)).wordAfter (solid_macText slot)

theorem mem_tables_iff {table : String} : table ∈ tables (blockLists group entry) ↔ table = toString slot := by
  rw [tables, blockLists_eq group address place, List.mem_map]
  constructor
  · rintro ⟨text, found, rfl⟩
    obtain ⟨listed, replaces⟩ := List.mem_filter.mp found
    obtain ⟨line, member, rfl⟩ := List.mem_map.mp listed
    obtain own | backhaul := List.mem_append.mp member
    · obtain other | same := table_macvlanLines own
      · rw [other] at replaces
        cases replaces
      · exact same
    · rw [(aside_backhaulLines backhaul).table] at replaces
      cases replaces
  · rintro rfl
    have replaced : .pipeline [s!"ip route replace default via \"$\x7bLAN_GW\x7d\" dev {macText slot} table {slot}"] ∈
        macvlanLines group entry.1.name lanIp slot := by simp [macvlanLines]
    refine ⟨_, List.mem_filter.mpr ⟨List.mem_map_of_mem (List.mem_append_left _ replaced), ?_⟩, ?_⟩
    · simp only [AndOr.text_single, String.append_assoc]
      exact wordAfter_isSome (by decide +kernel) _
    · rw [AndOr.text_single]
      exact lastWord_append (endsWith_append (by decide)) (solid_intText slot)

theorem mem_priorities_iff {pref : String} : pref ∈ priorities (blockLists group entry) ↔
    pref = toString (32000 + slot) ∨
      entry.1.status = .ready ∧ validWgConf entry.2 = true ∧ pref = toString (32500 + slot) := by
  rw [priorities, blockLists_eq group address place]
  constructor
  · intro listed
    obtain ⟨text, found, read⟩ := List.mem_filterMap.mp listed
    obtain ⟨line, member, rfl⟩ := List.mem_map.mp found
    obtain own | backhaul := List.mem_append.mp member
    · obtain other | same := priority_macvlanLines own
      · rw [other] at read
        cases read
      · rw [same] at read
        exact .inl (Option.some.inj read).symm
    · obtain ⟨ready, valid, started⟩ | skipped := backhaulLines_cases backhaul
      · obtain other | same := priority_wireguardLines started
        · rw [other] at read
          cases read
        · rw [same] at read
          exact .inr ⟨ready, valid, (Option.some.inj read).symm⟩
      · rw [skipped _ (by decide +kernel)] at read
        cases read
  · rintro (rfl | ⟨ready, valid, rfl⟩)
    · have added : .pipeline [s!"ip rule add pref {32000 + slot} from {lanIp}/32 lookup {slot}"] ∈
          macvlanLines group entry.1.name lanIp slot := by simp [macvlanLines]
      apply mem_words (List.mem_append_left _ added)
      simp only [AndOr.text_single, String.append_assoc]
      exact (opens_word (startsWith_append (by decide))).wordAfter (solid_intText _)
    · have lines : backhaulLines entry.1 slot entry.2 = wireguardLines entry.1.name slot (entry.2.getD "") := by
        rw [backhaulLines, if_neg (not_not.mpr ready), if_pos valid]
      have added : .pipeline [s!"ip rule add pref {32500 + slot} iif {interfaceName entry.1.name} lookup {slot}"] ∈
          backhaulLines entry.1 slot entry.2 := by
        rw [lines, wireguardLines]
        simp
      apply mem_words (List.mem_append_right _ added)
      simp only [AndOr.text_single, String.append_assoc]
      exact (opens_word (startsWith_append (by decide))).wordAfter (solid_intText _)

end Block

end DeepOrc.HostSetup
