import Mathlib.Data.Finset.Card
import Mathlib.Data.Finset.Range
import DeepOrc.Headscale.Client
import DeepOrc.Naming

/-!
# Sequential names for exit nodes

`sync_exit_node_names` walks over Headscale's nodes by id and renames exit nodes that have no `ex-NNN` name yet. The
names it gives out are the least ones that are free.
-/

namespace DeepOrc.Headscale

open Naming

/-- A node with what tells an exit node; an entry that is no list counts as missing. -/
structure RawNode extends Node where
  tags : Option (List String)
  tagsUpper : Option (List String)
  validTags : Option (List String)
  validTagsSnake : Option (List String)
  approvedRoutes : Option (List String)
  approvedRoutesSnake : Option (List String)
  availableRoutes : Option (List String)
  availableRoutesSnake : Option (List String)
deriving DecidableEq, Repr

def exitNodePrefix : String := "ex-"

/-- `^ex-\d{3}$`, where `$` also matches before a final newline. -/
def isExitNodeName (name : String) : Bool :=
  match name.toList with
  | ['e', 'x', '-', a, b, c] => isDecimal a && isDecimal b && isDecimal c
  | ['e', 'x', '-', a, b, c, '\n'] => isDecimal a && isDecimal b && isDecimal c
  | _ => false

def exitNodeRoutes : List String := ["0.0.0.0/0", "::/0"]

def hasExitRoute (routes : List String) : Bool := routes.any fun route => exitNodeRoutes.contains route

def firstList : List (Option (List String)) → List String
  | [] => []
  | some value :: _ => value
  | none :: rest => firstList rest

def nodeTags (node : RawNode) : List String :=
  firstList [node.tags, node.tagsUpper, node.validTags, node.validTagsSnake]

def nodeHasExitTag (exitTag : String) (node : RawNode) : Bool := (nodeTags node).contains exitTag

def exitAdvertised (node : RawNode) : Bool :=
  hasExitRoute (firstList [node.approvedRoutes, node.approvedRoutesSnake]) ||
    hasExitRoute (firstList [node.availableRoutes, node.availableRoutesSnake])

def collectExitNodeNames (nodes : List RawNode) : List String :=
  (nodes.map fun node => headscaleNodeName node.toNode).filter isExitNodeName

/-- `nodes rename` of Headscale. -/
def renameHeadscaleNode (nodeId : Nat) (name : String) (node : RawNode) : RawNode :=
  if node.id = some nodeId then { node with givenName := some name } else node

/-- Headscale's nodes, the names that are taken, and how many nodes were renamed. -/
structure Sync where
  nodes : List RawNode
  taken : List String
  renamed : Nat

/-- One round of the loop; the node is as it was before the first round. -/
def syncStep (exitTag : String) (gatewayNames : List String) (s : Sync) (node : RawNode) : Except String Sync :=
  match node.id with
  | none => .ok s
  | some nodeId =>
      let current := headscaleNodeName node.toNode
      if isExitNodeName current then .ok s
      else if isGatewayName current || gatewayNames.contains current then .ok s
      else if !nodeHasExitTag exitTag node && !exitAdvertised node then .ok s
      else
        match nextSequentialName exitNodePrefix s.taken sequentialWidth with
        | .error message => .error message
        | .ok name => .ok ⟨s.nodes.map (renameHeadscaleNode nodeId name), name :: s.taken, s.renamed + 1⟩

/-- No gateway names at all are the same as an empty set of them. -/
def takenNames (gatewayNames : List String) (nodes : List RawNode) : List String :=
  collectExitNodeNames nodes ++ gatewayNames.filter fun name => name != ""

def byId (a b : RawNode) : Bool := a.id.getD 0 ≤ b.id.getD 0

def syncExitNodeNames (exitTag : String) (gatewayNames : List String) (nodes : List RawNode) : Except String Sync :=
  (nodes.mergeSort byId).foldlM (syncStep exitTag gatewayNames) ⟨nodes, takenNames gatewayNames nodes, 0⟩

/-! ### What it is for -/

/-- The node needs a name: it has an id, is an exit node by tag or route, and its name is none of those that stay. -/
def needsName (exitTag : String) (gatewayNames : List String) (node : RawNode) : Bool :=
  let current := headscaleNodeName node.toNode
  node.id.isSome && (nodeHasExitTag exitTag node || exitAdvertised node) &&
    !(isExitNodeName current || isGatewayName current || gatewayNames.contains current)

/-- The numbers whose `ex-NNN` name is free. -/
def freeNumbers (taken : List String) : Finset Nat :=
  (Finset.range (10 ^ sequentialWidth)).filter fun index =>
    formatSequentialName exitNodePrefix index sequentialWidth ∉ taken

/-- Ids are unique, as Headscale's are. -/
def UniqueIds (nodes : List RawNode) : Prop := nodes.Pairwise fun a b => ∀ id, a.id = some id → b.id ≠ some id

/-- What becomes of one node. -/
def Outcome (exitTag : String) (gatewayNames : List String) (before after : RawNode) : Prop :=
  if needsName exitTag gatewayNames before then
    ∃ name, after = { before with givenName := some name } ∧ headscaleNodeName after.toNode = name ∧
      isExitNodeName name = true ∧ name ∉ gatewayNames
  else after = before

variable {exitTag : String} {gatewayNames : List String}

theorem isExitNodeName_of_next {taken : List String} {name : String}
    (chosen : nextSequentialName exitNodePrefix taken sequentialWidth = .ok name) : isExitNodeName name = true := by
  obtain ⟨index, small, rfl⟩ := nextSequentialName_form chosen
  obtain ⟨a, b, c, digits, first, second, third⟩ := zeroPadded_three (show index < 1000 from small)
  simp only [isExitNodeName, formatSequentialName, exitNodePrefix, sequentialWidth, String.toList_append, digits]
  simp [first, second, third]

theorem ne_empty_of_isExitNodeName {name : String} (exit : isExitNodeName name = true) : name ≠ "" := by
  rintro rfl
  cases exit

/-! ### Free names -/

/-- Taking a name leaves one less. -/
theorem card_freeNumbers_cons {taken : List String} {name : String}
    (chosen : nextSequentialName exitNodePrefix taken sequentialWidth = .ok name) :
    (freeNumbers (name :: taken)).card + 1 = (freeNumbers taken).card := by
  have unused := nextSequentialName_not_mem chosen
  obtain ⟨index, small, rfl⟩ := nextSequentialName_form chosen
  have member : index ∈ freeNumbers taken := by
    rw [freeNumbers, Finset.mem_filter, Finset.mem_range]
    exact ⟨small, unused⟩
  have erased : freeNumbers (formatSequentialName exitNodePrefix index sequentialWidth :: taken) =
      (freeNumbers taken).erase index := by
    ext other
    have same : formatSequentialName exitNodePrefix other sequentialWidth =
        formatSequentialName exitNodePrefix index sequentialWidth ↔ other = index :=
      ⟨formatSequentialName_injective, fun equal => by rw [equal]⟩
    simp only [freeNumbers, Finset.mem_filter, Finset.mem_erase, List.mem_cons, not_or, same]
    exact and_left_comm
  rw [erased, Finset.card_erase_add_one member]

theorem next_of_free {taken : List String} (free : 0 < (freeNumbers taken).card) :
    ∃ name, nextSequentialName exitNodePrefix taken sequentialWidth = .ok name := by
  obtain ⟨index, member⟩ := Finset.card_pos.mp free
  rw [freeNumbers, Finset.mem_filter, Finset.mem_range] at member
  exact nextSequentialName_of_free member.1 member.2

/-! ### The loop -/

theorem syncStep_of_not_needsName {s : Sync} {node : RawNode} (settled : needsName exitTag gatewayNames node = false) :
    syncStep exitTag gatewayNames s node = .ok s := by
  unfold syncStep
  split
  · rfl
  · rename_i nodeId known
    rw [needsName, known] at settled
    simp only [Option.isSome_some, Bool.true_and, Bool.and_eq_false_iff, Bool.or_eq_false_iff, Bool.not_eq_false',
      Bool.or_eq_true] at settled
    rcases settled with ⟨untagged, unadvertised⟩ | (exit | gateway) | given
    · simp only [untagged, unadvertised, Bool.not_false, Bool.and_self, if_true, ite_self]
    · simp only [exit, if_true]
    · simp only [gateway, Bool.true_or, if_true, ite_self]
    · simp only [given, Bool.or_true, if_true, ite_self]

theorem syncStep_of_needsName {s : Sync} {node : RawNode} (wanting : needsName exitTag gatewayNames node = true)
    {name : String} (chosen : nextSequentialName exitNodePrefix s.taken sequentialWidth = .ok name) :
    ∃ nodeId, node.id = some nodeId ∧ syncStep exitTag gatewayNames s node =
      .ok ⟨s.nodes.map (renameHeadscaleNode nodeId name), name :: s.taken, s.renamed + 1⟩ := by
  simp only [needsName, Bool.and_eq_true, Option.isSome_iff_exists, Bool.not_eq_true', Bool.or_eq_false_iff] at wanting
  obtain ⟨⟨⟨nodeId, known⟩, exit⟩, ⟨unnamed, foreign⟩, ungiven⟩ := wanting
  have exits : (!nodeHasExitTag exitTag node && !exitAdvertised node) = false := by
    rw [← Bool.not_or, exit]
    rfl
  refine ⟨nodeId, known, ?_⟩
  simp only [syncStep, known, unnamed, foreign, ungiven, exits, chosen, Bool.or_self, Bool.false_eq_true, if_false]

/-- What the log of renamings makes of a node. -/
def renameAll (log : List (Nat × String)) (node : RawNode) : RawNode :=
  log.foldl (fun node entry => renameHeadscaleNode entry.1 entry.2 node) node

/-- The renamings of a run: which ids, and fresh names for them. -/
structure Log (taken : List String) (ids : List Nat) (log : List (Nat × String)) : Prop where
  ids : log.map Prod.fst = ids
  distinct : (log.map Prod.snd).Nodup
  fresh : ∀ entry ∈ log, entry.2 ∉ taken
  named : ∀ entry ∈ log, isExitNodeName entry.2 = true

/-- With enough free names the loop renames exactly the nodes that need a name. -/
theorem foldlM_syncStep {order : List RawNode} {s : Sync}
    (enough : order.countP (needsName exitTag gatewayNames) ≤ (freeNumbers s.taken).card) :
    ∃ log, Log s.taken ((order.filter (needsName exitTag gatewayNames)).filterMap fun node => node.id) log ∧
      order.foldlM (syncStep exitTag gatewayNames) s =
        .ok ⟨s.nodes.map (renameAll log), (log.map Prod.snd).reverse ++ s.taken,
          s.renamed + order.countP (needsName exitTag gatewayNames)⟩ := by
  induction order generalizing s with
  | nil =>
      refine ⟨[], ⟨rfl, List.nodup_nil, by simp, by simp⟩, ?_⟩
      have same : s.nodes.map (renameAll []) = s.nodes := List.map_id _
      rw [same]
      rfl
  | cons node order ih =>
      by_cases wanting : needsName exitTag gatewayNames node = true
      · rw [List.countP_cons_of_pos wanting] at enough
        obtain ⟨name, chosen⟩ := next_of_free (show 0 < (freeNumbers s.taken).card by omega)
        obtain ⟨nodeId, known, stepped⟩ := syncStep_of_needsName wanting chosen
        have left := card_freeNumbers_cons chosen
        obtain ⟨log, made, ran⟩ := ih (s := ⟨s.nodes.map (renameHeadscaleNode nodeId name), name :: s.taken, s.renamed + 1⟩)
          (show _ ≤ (freeNumbers (name :: s.taken)).card by omega)
        refine ⟨(nodeId, name) :: log, ⟨?_, ?_, ?_, ?_⟩, ?_⟩
        · rw [List.filter_cons_of_pos wanting, List.map_cons, made.ids]
          exact (List.filterMap_cons_some (f := fun node : RawNode => node.id) known).symm
        · rw [List.map_cons, List.nodup_cons]
          refine ⟨fun member => ?_, made.distinct⟩
          obtain ⟨entry, inside, same⟩ := List.mem_map.mp member
          exact made.fresh entry inside (same ▸ List.mem_cons_self)
        · refine List.forall_mem_cons.mpr ⟨nextSequentialName_not_mem chosen, fun entry inside => ?_⟩
          exact fun member => made.fresh entry inside (List.mem_cons_of_mem name member)
        · exact List.forall_mem_cons.mpr ⟨isExitNodeName_of_next chosen, made.named⟩
        · have moved : (s.nodes.map (renameHeadscaleNode nodeId name)).map (renameAll log) =
              s.nodes.map (renameAll ((nodeId, name) :: log)) := List.map_map
          rw [List.foldlM_cons, stepped]
          apply ran.trans
          rw [moved, List.countP_cons_of_pos wanting, Nat.add_right_comm, List.map_cons, List.reverse_cons,
            List.append_assoc]
          rfl
      · have settled : needsName exitTag gatewayNames node = false := by simpa using wanting
        rw [List.countP_cons_of_neg wanting] at enough
        obtain ⟨log, made, ran⟩ := ih enough
        refine ⟨log, ⟨?_, made.distinct, made.fresh, made.named⟩, ?_⟩
        · rw [List.filter_cons_of_neg wanting, made.ids]
        · rw [List.foldlM_cons, syncStep_of_not_needsName settled, List.countP_cons_of_neg wanting]
          exact ran

theorem foldlM_syncStep_settled {order : List RawNode} (s : Sync)
    (settled : ∀ node ∈ order, needsName exitTag gatewayNames node = false) :
    order.foldlM (syncStep exitTag gatewayNames) s = .ok s := by
  induction order with
  | nil => rfl
  | cons node order ih =>
      obtain ⟨here, later⟩ := List.forall_mem_cons.mp settled
      rw [List.foldlM_cons, syncStep_of_not_needsName here]
      exact ih later

/-! ### The renamed nodes -/

@[simp] theorem renameHeadscaleNode_id (nodeId : Nat) (name : String) (node : RawNode) :
    (renameHeadscaleNode nodeId name node).id = node.id := by
  unfold renameHeadscaleNode
  split <;> rfl

theorem renameAll_of_notMem {log : List (Nat × String)} {node : RawNode}
    (absent : ∀ entry ∈ log, node.id ≠ some entry.1) : renameAll log node = node := by
  induction log with
  | nil => rfl
  | cons entry log ih =>
      obtain ⟨here, later⟩ := List.forall_mem_cons.mp absent
      have same : renameHeadscaleNode entry.1 entry.2 node = node := if_neg here
      rw [renameAll, List.foldl_cons, same]
      exact ih later

theorem renameAll_of_mem {log : List (Nat × String)} {node : RawNode} {nodeId : Nat} {name : String}
    (unique : (log.map Prod.fst).Nodup) (member : (nodeId, name) ∈ log) (known : node.id = some nodeId) :
    renameAll log node = { node with givenName := some name } := by
  induction log with
  | nil => cases member
  | cons entry log ih =>
      rw [List.map_cons, List.nodup_cons] at unique
      rw [renameAll, List.foldl_cons]
      rcases List.mem_cons.mp member with rfl | inside
      · have done : renameHeadscaleNode nodeId name node = { node with givenName := some name } := if_pos known
        rw [done]
        refine renameAll_of_notMem fun entry inside same => unique.1 ?_
        have equal : nodeId = entry.1 := Option.some.inj (known.symm.trans same)
        exact List.mem_map.mpr ⟨entry, inside, equal.symm⟩
      · have other : node.id ≠ some entry.1 := by
          intro same
          have equal : nodeId = entry.1 := Option.some.inj (known.symm.trans same)
          exact unique.1 (List.mem_map.mpr ⟨_, inside, equal⟩)
        have same : renameHeadscaleNode entry.1 entry.2 node = node := if_neg other
        rw [same]
        exact ih unique.2 inside

theorem headscaleNodeName_given {name : String} (filled : name ≠ "") (node : RawNode) :
    headscaleNodeName { node with givenName := some name }.toNode = name := by
  simp [headscaleNodeName, firstFilled, filled]

theorem apart_of_index {nodes : List RawNode} (unique : UniqueIds nodes) {i j : Nat} (different : i ≠ j)
    {node other : RawNode} (found : nodes[i]? = some node) (found' : nodes[j]? = some other) :
    ∀ id, node.id = some id → other.id ≠ some id := by
  obtain ⟨bound, rfl⟩ := List.getElem?_eq_some_iff.mp found
  obtain ⟨bound', rfl⟩ := List.getElem?_eq_some_iff.mp found'
  have pairs := List.pairwise_iff_getElem.mp unique
  rcases Nat.lt_or_gt_of_ne different with less | more
  · exact pairs i j bound bound' less
  · exact fun id known known' => pairs j i bound' bound more id known' known

theorem eq_of_id {nodes : List RawNode} (unique : UniqueIds nodes) {a b : RawNode} (first : a ∈ nodes)
    (second : b ∈ nodes) {id : Nat} (known : a.id = some id) (known' : b.id = some id) : a = b := by
  obtain ⟨i, found⟩ := List.getElem?_of_mem first
  obtain ⟨j, found'⟩ := List.getElem?_of_mem second
  by_cases same : i = j
  · subst same
    exact Option.some.inj (found.symm.trans found')
  · exact absurd known' (apart_of_index unique same found found' id known)

theorem nodup_ids {nodes : List RawNode} (unique : UniqueIds nodes) :
    (nodes.filterMap fun node => node.id).Nodup := by
  rw [List.Nodup, List.pairwise_filterMap]
  refine List.Pairwise.imp (fun apart id known id' known' same => ?_) unique
  exact apart id known (same ▸ known')

section

variable {nodes order : List RawNode} {taken : List String} {log : List (Nat × String)}

/-- The log of a run over the nodes, in whatever order they are taken. -/
structure LogOf (exitTag : String) (gatewayNames : List String) (nodes order : List RawNode) (taken : List String)
    (log : List (Nat × String)) : Prop where
  unique : UniqueIds nodes
  perm : order.Perm nodes
  made : Log taken ((order.filter (needsName exitTag gatewayNames)).filterMap fun node => node.id) log

theorem LogOf.nodup (run : LogOf exitTag gatewayNames nodes order taken log) : (log.map Prod.fst).Nodup := by
  rw [run.made.ids]
  have all : (order.filterMap fun node => node.id).Nodup :=
    (run.perm.filterMap fun node => node.id).nodup_iff.mpr (nodup_ids run.unique)
  exact all.sublist (List.filter_sublist.filterMap _)

theorem LogOf.id_mem (run : LogOf exitTag gatewayNames nodes order taken log) {nodeId : Nat} :
    nodeId ∈ log.map Prod.fst ↔
      ∃ node ∈ nodes, needsName exitTag gatewayNames node = true ∧ node.id = some nodeId := by
  rw [run.made.ids, List.mem_filterMap]
  constructor
  · rintro ⟨node, member, known⟩
    obtain ⟨inside, wanting⟩ := List.mem_filter.mp member
    exact ⟨node, run.perm.mem_iff.mp inside, wanting, known⟩
  · rintro ⟨node, inside, wanting, known⟩
    exact ⟨node, List.mem_filter.mpr ⟨run.perm.mem_iff.mpr inside, wanting⟩, known⟩

theorem LogOf.renamed (run : LogOf exitTag gatewayNames nodes order taken log) {node : RawNode} (member : node ∈ nodes)
    (wanting : needsName exitTag gatewayNames node = true) : ∃ nodeId name, (nodeId, name) ∈ log ∧
      node.id = some nodeId ∧ renameAll log node = { node with givenName := some name } := by
  have identified : node.id.isSome = true := by
    simp only [needsName, Bool.and_eq_true] at wanting
    exact wanting.1.1
  obtain ⟨nodeId, known⟩ := Option.isSome_iff_exists.mp identified
  obtain ⟨⟨_, name⟩, inside, rfl⟩ := List.mem_map.mp (run.id_mem.mpr ⟨node, member, wanting, known⟩)
  exact ⟨_, name, inside, known, renameAll_of_mem run.nodup inside known⟩

theorem LogOf.unchanged (run : LogOf exitTag gatewayNames nodes order taken log) {node : RawNode} (member : node ∈ nodes)
    (settled : needsName exitTag gatewayNames node = false) : renameAll log node = node := by
  apply renameAll_of_notMem
  intro entry inside known
  obtain ⟨other, otherMember, wanting, otherKnown⟩ := run.id_mem.mp (List.mem_map_of_mem inside)
  rw [eq_of_id run.unique otherMember member otherKnown known, settled] at wanting
  cases wanting

/-- The name of a renamed node is in the log and of no other entry's. -/
theorem LogOf.name (run : LogOf exitTag gatewayNames nodes order taken log) {node : RawNode} (member : node ∈ nodes)
    (wanting : needsName exitTag gatewayNames node = true) : ∃ nodeId, node.id = some nodeId ∧
      (nodeId, headscaleNodeName (renameAll log node).toNode) ∈ log := by
  obtain ⟨nodeId, name, inside, known, renamed⟩ := run.renamed member wanting
  have filled := ne_empty_of_isExitNodeName (run.made.named _ inside)
  refine ⟨nodeId, known, ?_⟩
  rw [renamed, headscaleNodeName_given filled]
  exact inside

theorem LogOf.settled (run : LogOf exitTag gatewayNames nodes order taken log) {node : RawNode} (member : node ∈ nodes) :
    needsName exitTag gatewayNames (renameAll log node) = false := by
  by_cases wanting : needsName exitTag gatewayNames node = true
  · obtain ⟨nodeId, -, inside⟩ := run.name member wanting
    have exit := run.made.named _ inside
    simp only [needsName, exit, Bool.true_or, Bool.not_true, Bool.and_false]
  · have settled : needsName exitTag gatewayNames node = false := by simpa using wanting
    rw [run.unchanged member settled, settled]

theorem LogOf.outcome (run : LogOf exitTag gatewayNames nodes order (takenNames gatewayNames nodes) log)
    {node : RawNode} (member : node ∈ nodes) : Outcome exitTag gatewayNames node (renameAll log node) := by
  unfold Outcome
  split
  · rename_i wanting
    obtain ⟨nodeId, name, inside, known, renamed⟩ := run.renamed member wanting
    have exit : isExitNodeName name = true := run.made.named _ inside
    have filled := ne_empty_of_isExitNodeName exit
    have unused : name ∉ takenNames gatewayNames nodes := run.made.fresh _ inside
    refine ⟨name, renamed, by rw [renamed, headscaleNodeName_given filled], exit, fun given => unused ?_⟩
    exact List.mem_append_right _ (List.mem_filter.mpr ⟨given, by simpa using filled⟩)
  · rename_i settled
    exact run.unchanged member (by simpa using settled)

/-- A new name is the name of no other node afterwards. -/
theorem LogOf.distinct (run : LogOf exitTag gatewayNames nodes order (takenNames gatewayNames nodes) log)
    {node other : RawNode} (member : node ∈ nodes) (otherMember : other ∈ nodes)
    (apart : ∀ id, node.id = some id → other.id ≠ some id) (wanting : needsName exitTag gatewayNames node = true) :
    headscaleNodeName (renameAll log node).toNode ≠ headscaleNodeName (renameAll log other).toNode := by
  obtain ⟨nodeId, known, inside⟩ := run.name member wanting
  intro same
  by_cases otherWanting : needsName exitTag gatewayNames other = true
  · obtain ⟨otherId, otherKnown, otherInside⟩ := run.name otherMember otherWanting
    have entries := List.inj_on_of_nodup_map run.made.distinct inside otherInside same
    exact apart nodeId known (by rw [otherKnown, (Prod.mk.inj entries).1])
  · have settled : needsName exitTag gatewayNames other = false := by simpa using otherWanting
    rw [run.unchanged otherMember settled] at same
    have exit : isExitNodeName (headscaleNodeName (renameAll log node).toNode) = true := run.made.named _ inside
    refine run.made.fresh _ inside (List.mem_append_left _ (List.mem_filter.mpr ⟨?_, exit⟩))
    exact same ▸ List.mem_map_of_mem otherMember

end

/-- What a run of `sync_exit_node_names` makes of the nodes. -/
structure Synced (exitTag : String) (gatewayNames : List String) (nodes after : List RawNode) : Prop where
  outcomes : List.Forall₂ (Outcome exitTag gatewayNames) nodes after
  distinct : ∀ (i j : Nat) (node first second : RawNode), i ≠ j → nodes[i]? = some node →
    needsName exitTag gatewayNames node = true → after[i]? = some first → after[j]? = some second →
    headscaleNodeName first.toNode ≠ headscaleNodeName second.toNode

theorem synced_of_log {nodes order : List RawNode} {log : List (Nat × String)}
    (run : LogOf exitTag gatewayNames nodes order (takenNames gatewayNames nodes) log) :
    Synced exitTag gatewayNames nodes (nodes.map (renameAll log)) where
  outcomes := by
    rw [List.forall₂_map_right_iff, List.forall₂_same]
    exact fun node member => run.outcome member
  distinct := by
    intro i j node first second different found wanting foundFirst foundSecond
    rw [List.getElem?_map, found] at foundFirst
    rw [List.getElem?_map] at foundSecond
    obtain ⟨other, found', rfl⟩ := Option.map_eq_some_iff.mp foundSecond
    obtain rfl := Option.some.inj foundFirst
    exact run.distinct (List.mem_of_getElem? found) (List.mem_of_getElem? found')
      (apart_of_index run.unique different found found') wanting

/-- With enough free names the nodes that need a name get one of their own, all others stay, and a second run renames
nothing. -/
theorem syncExitNodeNames_correct {nodes : List RawNode} (unique : UniqueIds nodes)
    (enough : nodes.countP (needsName exitTag gatewayNames) ≤ (freeNumbers (takenNames gatewayNames nodes)).card) :
    ∃ done, syncExitNodeNames exitTag gatewayNames nodes = .ok done ∧
      Synced exitTag gatewayNames nodes done.nodes ∧ done.renamed = nodes.countP (needsName exitTag gatewayNames) ∧
      ∃ again, syncExitNodeNames exitTag gatewayNames done.nodes = .ok again ∧ again.nodes = done.nodes ∧
        again.renamed = 0 := by
  have order := List.mergeSort_perm nodes byId
  have free : (nodes.mergeSort byId).countP (needsName exitTag gatewayNames) ≤
      (freeNumbers (Sync.mk nodes (takenNames gatewayNames nodes) 0).taken).card := by rwa [order.countP_eq]
  obtain ⟨log, made, ran⟩ := foldlM_syncStep free
  have run : LogOf exitTag gatewayNames nodes (nodes.mergeSort byId) (takenNames gatewayNames nodes) log :=
    ⟨unique, order, made⟩
  have settled : ∀ node ∈ (nodes.map (renameAll log)).mergeSort byId, needsName exitTag gatewayNames node = false := by
    intro node member
    obtain ⟨before, inside, rfl⟩ := List.mem_map.mp ((List.mergeSort_perm _ byId).mem_iff.mp member)
    exact run.settled inside
  rw [order.countP_eq] at ran
  exact ⟨_, ran, synced_of_log run, Nat.zero_add _, _, foldlM_syncStep_settled _ settled, rfl, rfl⟩

def listedNode (id : Nat) (name : String) (tags : List String) : RawNode :=
  ⟨⟨some id, none, none, some name, none, none, none⟩, some tags, none, none, none, none, none, none, none⟩

def listedNodes : List RawNode :=
  [listedNode 2 "android-phone" ["tag:exit"], listedNode 3 "ex-000" ["tag:exit"], listedNode 4 "gw-000" []]

theorem uniqueIds_listedNodes : UniqueIds listedNodes := by
  simp [UniqueIds, listedNodes, listedNode]

theorem free_listedNodes : listedNodes.countP (needsName "tag:exit" ["gw-000"]) ≤
    (freeNumbers (takenNames ["gw-000"] listedNodes)).card := by
  have one : listedNodes.countP (needsName "tag:exit" ["gw-000"]) = 1 := by decide +kernel
  have free : 1 < 10 ^ sequentialWidth ∧
      formatSequentialName exitNodePrefix 1 sequentialWidth ∉ takenNames ["gw-000"] listedNodes := by decide +kernel
  rw [one]
  refine Finset.card_pos.mpr ⟨1, ?_⟩
  rw [freeNumbers, Finset.mem_filter, Finset.mem_range]
  exact free

theorem syncExitNodeNames_correct_listed :
    ∃ done, syncExitNodeNames "tag:exit" ["gw-000"] listedNodes = .ok done ∧
      Synced "tag:exit" ["gw-000"] listedNodes done.nodes ∧
      done.renamed = listedNodes.countP (needsName "tag:exit" ["gw-000"]) ∧
      ∃ again, syncExitNodeNames "tag:exit" ["gw-000"] done.nodes = .ok again ∧ again.nodes = done.nodes ∧
        again.renamed = 0 :=
  syncExitNodeNames_correct uniqueIds_listedNodes free_listedNodes

end DeepOrc.Headscale
