import DeepOrc.Headscale.ExitNodeNames
import DeepOrc.Lib.Machine

/-!
# Approval of exit routes

The periodic maintenance asks Headscale to approve the exit route of every tagged node that advertises one and has none
approved. A command that fails ends the round, and the next round starts over from a new listing.
-/

namespace DeepOrc.Headscale

open Lib (Reaches)

def approvedRoutesOf (node : RawNode) : List String := firstList [node.approvedRoutes, node.approvedRoutesSnake]

def availableRoutesOf (node : RawNode) : List String := firstList [node.availableRoutes, node.availableRoutesSnake]

/-- The node that `_approve_exit_route_if_needed` sends the command for. -/
def needsApproval (node : RawNode) : Option Nat :=
  if hasExitRoute (approvedRoutesOf node) then none
  else if !hasExitRoute (availableRoutesOf node) then none
  else node.id

/-- `nodes approve-routes` of Headscale; `granted` is what it then lists as approved. -/
def setApprovedRoutes (granted : List String) (nodeId : Nat) (node : RawNode) : RawNode :=
  if node.id = some nodeId then { node with approvedRoutes := some granted } else node

/-- Headscale's nodes and how many were approved. -/
structure Approval where
  nodes : List RawNode
  approved : Nat

/-- One round of the loop; `works` tells for which nodes the command does not fail. -/
def approveStep (granted : List String) (exitTag : String) (works : Nat → Bool) (s : Approval) (node : RawNode) :
    Except Approval Approval :=
  if !nodeHasExitTag exitTag node then .ok s
  else
    match needsApproval node with
    | none => .ok s
    | some nodeId =>
        if works nodeId then .ok ⟨s.nodes.map (setApprovedRoutes granted nodeId), s.approved + 1⟩ else .error s

/-- What was approved before a command failed stays. -/
def approveExitRoutesForTaggedNodes (granted : List String) (exitTag : String) (works : Nat → Bool)
    (nodes : List RawNode) : Except Approval Approval :=
  nodes.foldlM (approveStep granted exitTag works) ⟨nodes, 0⟩

/-- Either way Headscale has these nodes. -/
def nodesAfter : Except Approval Approval → List RawNode
  | .ok s => s.nodes
  | .error s => s.nodes

/-- The rounds of the maintenance, and what others do between them: a node joins without an approved exit route, or
advertises other routes. -/
inductive RouteEvent where
  | sync (works : Nat → Bool)
  | join (node : RawNode)
  | advertise (nodeId : Nat) (routes : List String)

def advertiseRoutes (nodeId : Nat) (routes : List String) (node : RawNode) : RawNode :=
  if node.id = some nodeId then { node with availableRoutes := some routes } else node

def routeStep (granted : List String) (exitTag : String) (nodes : List RawNode) : RouteEvent → Option (List RawNode)
  | .sync works => some (nodesAfter (approveExitRoutesForTaggedNodes granted exitTag works nodes))
  | .join node =>
      if nodes.all (fun other => other.id ≠ node.id) && !hasExitRoute (approvedRoutesOf node) then
        some (nodes ++ [node])
      else none
  | .advertise nodeId routes => some (nodes.map (advertiseRoutes nodeId routes))

/-! ### One round is one update -/

/-- The ids a round sends commands for, in order. -/
def exitRouteTodo (exitTag : String) (nodes : List RawNode) : List Nat :=
  (nodes.filter (nodeHasExitTag exitTag)).filterMap needsApproval

def grantAll (granted : List String) (ids : List Nat) (node : RawNode) : RawNode :=
  if node.id.any ids.contains then { node with approvedRoutes := some granted } else node

theorem grantAll_nil (granted : List String) : grantAll granted [] = id := by
  funext node
  unfold grantAll
  cases node.id with
  | none => rfl
  | some nodeId => rfl

theorem grantAll_setApprovedRoutes (granted : List String) (nodeId : Nat) (ids : List Nat) (node : RawNode) :
    grantAll granted ids (setApprovedRoutes granted nodeId node) = grantAll granted (nodeId :: ids) node := by
  unfold grantAll setApprovedRoutes
  cases identified : node.id with
  | none => simp [identified]
  | some id =>
      by_cases same : id = nodeId
      · subst same
        simp [identified]
      · simp [identified, same]

variable {granted : List String} {exitTag : String} {works : Nat → Bool}

theorem exitRouteTodo_skip {node : RawNode} (skipped : nodeHasExitTag exitTag node = false ∨ needsApproval node = none)
    (rest : List RawNode) : exitRouteTodo exitTag (node :: rest) = exitRouteTodo exitTag rest := by
  unfold exitRouteTodo
  cases tagged : nodeHasExitTag exitTag node with
  | false => rw [List.filter_cons_of_neg (by rw [tagged]; exact Bool.false_ne_true)]
  | true =>
      rcases skipped with untagged | settled
      · rw [tagged] at untagged
        cases untagged
      · rw [List.filter_cons_of_pos tagged, List.filterMap_cons_none settled]

theorem exitRouteTodo_needed {node : RawNode} {nodeId : Nat} (tagged : nodeHasExitTag exitTag node = true)
    (needed : needsApproval node = some nodeId) (rest : List RawNode) :
    exitRouteTodo exitTag (node :: rest) = nodeId :: exitRouteTodo exitTag rest := by
  unfold exitRouteTodo
  rw [List.filter_cons_of_pos tagged, List.filterMap_cons_some needed]

theorem approveStep_skip {node : RawNode} (skipped : nodeHasExitTag exitTag node = false ∨ needsApproval node = none)
    (s : Approval) : approveStep granted exitTag works s node = .ok s := by
  unfold approveStep
  rcases skipped with untagged | settled
  · rw [untagged]
    rfl
  · rw [settled]
    split <;> rfl

theorem approveStep_needed {node : RawNode} {nodeId : Nat} (tagged : nodeHasExitTag exitTag node = true)
    (needed : needsApproval node = some nodeId) (s : Approval) :
    approveStep granted exitTag works s node =
      if works nodeId then .ok ⟨s.nodes.map (setApprovedRoutes granted nodeId), s.approved + 1⟩ else .error s := by
  rw [approveStep, tagged, needed]
  rfl

theorem skipped_or_needed (exitTag : String) (node : RawNode) :
    (nodeHasExitTag exitTag node = false ∨ needsApproval node = none) ∨
      nodeHasExitTag exitTag node = true ∧ ∃ nodeId, needsApproval node = some nodeId := by
  cases nodeHasExitTag exitTag node with
  | false => exact .inl (.inl rfl)
  | true =>
      cases needsApproval node with
      | none => exact .inl (.inr rfl)
      | some nodeId => exact .inr ⟨rfl, nodeId, rfl⟩

/-- The commands up to the first that fails took effect. -/
theorem nodesAfter_foldlM (order : List RawNode) (s : Approval) :
    nodesAfter (order.foldlM (approveStep granted exitTag works) s) =
      s.nodes.map (grantAll granted ((exitRouteTodo exitTag order).takeWhile works)) := by
  induction order generalizing s with
  | nil =>
      show s.nodes = s.nodes.map (grantAll granted [])
      rw [grantAll_nil, List.map_id]
  | cons node rest ih =>
      rw [List.foldlM_cons]
      rcases skipped_or_needed exitTag node with skipped | ⟨tagged, nodeId, needed⟩
      · rw [approveStep_skip skipped, exitRouteTodo_skip skipped]
        exact ih s
      · rw [approveStep_needed tagged needed, exitRouteTodo_needed tagged needed]
        cases answer : works nodeId with
        | false =>
            rw [List.takeWhile_cons_of_neg (by rw [answer]; exact Bool.false_ne_true), grantAll_nil, List.map_id]
            rfl
        | true =>
            have composed :
                grantAll granted ((exitRouteTodo exitTag rest).takeWhile works) ∘ setApprovedRoutes granted nodeId =
                  grantAll granted (nodeId :: (exitRouteTodo exitTag rest).takeWhile works) :=
              funext fun node => grantAll_setApprovedRoutes granted nodeId _ node
            rw [List.takeWhile_cons_of_pos answer, ← composed, ← List.map_map]
            exact ih _

theorem foldlM_approveStep_counts {order : List RawNode}
    (working : ∀ nodeId ∈ exitRouteTodo exitTag order, works nodeId = true) (s : Approval) :
    ∃ nodes, order.foldlM (approveStep granted exitTag works) s =
      .ok ⟨nodes, s.approved + (exitRouteTodo exitTag order).length⟩ := by
  induction order generalizing s with
  | nil => exact ⟨s.nodes, rfl⟩
  | cons node rest ih =>
      rw [List.foldlM_cons]
      rcases skipped_or_needed exitTag node with skipped | ⟨tagged, nodeId, needed⟩
      · rw [approveStep_skip skipped, exitRouteTodo_skip skipped]
        rw [exitRouteTodo_skip skipped] at working
        exact ih working s
      · rw [approveStep_needed tagged needed, exitRouteTodo_needed tagged needed]
        rw [exitRouteTodo_needed tagged needed] at working
        rw [if_pos (working nodeId List.mem_cons_self)]
        obtain ⟨nodes, ran⟩ := ih (fun id listed => working id (List.mem_cons_of_mem nodeId listed))
          ⟨s.nodes.map (setApprovedRoutes granted nodeId), s.approved + 1⟩
        refine ⟨nodes, ?_⟩
        have counted : s.approved + (nodeId :: exitRouteTodo exitTag rest).length =
            s.approved + 1 + (exitRouteTodo exitTag rest).length := by
          rw [List.length_cons]
          omega
        rw [counted]
        exact ran

/-- A round in which no command fails. -/
theorem foldlM_approveStep {order : List RawNode}
    (working : ∀ nodeId ∈ exitRouteTodo exitTag order, works nodeId = true) (s : Approval) :
    order.foldlM (approveStep granted exitTag works) s =
      .ok ⟨s.nodes.map (grantAll granted (exitRouteTodo exitTag order)),
        s.approved + (exitRouteTodo exitTag order).length⟩ := by
  have after := @nodesAfter_foldlM granted exitTag works order s
  obtain ⟨nodes, ran⟩ := @foldlM_approveStep_counts granted exitTag works order working s
  rw [List.takeWhile_eq_self_iff.mpr working, ran] at after
  have same : nodes = s.nodes.map (grantAll granted (exitRouteTodo exitTag order)) := after
  rw [ran, same]

/-! ### What a round leaves to do -/

theorem needsApproval_eq_some_iff {node : RawNode} {nodeId : Nat} :
    needsApproval node = some nodeId ↔
      hasExitRoute (approvedRoutesOf node) = false ∧ hasExitRoute (availableRoutesOf node) = true ∧
        node.id = some nodeId := by
  unfold needsApproval
  cases hasExitRoute (approvedRoutesOf node) <;> cases hasExitRoute (availableRoutesOf node) <;> simp

theorem mem_exitRouteTodo {nodes : List RawNode} {nodeId : Nat} :
    nodeId ∈ exitRouteTodo exitTag nodes ↔
      ∃ node ∈ nodes, nodeHasExitTag exitTag node = true ∧ needsApproval node = some nodeId := by
  unfold exitRouteTodo
  rw [List.mem_filterMap]
  constructor
  · rintro ⟨node, listed, needed⟩
    obtain ⟨among, tagged⟩ := List.mem_filter.mp listed
    exact ⟨node, among, tagged, needed⟩
  · rintro ⟨node, among, tagged, needed⟩
    exact ⟨node, List.mem_filter.mpr ⟨among, tagged⟩, needed⟩

theorem grantAll_id (granted : List String) (ids : List Nat) (node : RawNode) :
    (grantAll granted ids node).id = node.id := by
  unfold grantAll
  split <;> rfl

theorem nodeHasExitTag_grantAll (exitTag : String) (granted : List String) (ids : List Nat) (node : RawNode) :
    nodeHasExitTag exitTag (grantAll granted ids node) = nodeHasExitTag exitTag node := by
  unfold grantAll
  split <;> rfl

theorem grantAll_of_mem {ids : List Nat} {node : RawNode} {nodeId : Nat} (known : node.id = some nodeId)
    (listed : nodeId ∈ ids) : grantAll granted ids node = { node with approvedRoutes := some granted } := by
  have found : node.id.any ids.contains = true := by
    rw [known]
    exact List.contains_iff_mem.mpr listed
  exact if_pos found

theorem grantAll_of_not_mem {ids : List Nat} {node : RawNode}
    (absent : ∀ nodeId, node.id = some nodeId → nodeId ∉ ids) : grantAll granted ids node = node := by
  apply if_neg
  intro found
  cases known : node.id with
  | none =>
      rw [known] at found
      cases found
  | some nodeId =>
      rw [known] at found
      exact absent nodeId known (List.contains_iff_mem.mp found)

theorem grantAll_of_id_not_mem {ids : List Nat} {node : RawNode} {nodeId : Nat} (known : node.id = some nodeId)
    (absent : nodeId ∉ ids) : grantAll granted ids node = node := by
  apply grantAll_of_not_mem
  intro other same
  rw [Option.some.inj (same.symm.trans known)]
  exact absent

theorem grantAll_grantAll {first second all : List Nat}
    (parts : ∀ nodeId, nodeId ∈ all ↔ nodeId ∈ first ∨ nodeId ∈ second) (node : RawNode) :
    grantAll granted second (grantAll granted first node) = grantAll granted all node := by
  by_cases early : ∃ nodeId ∈ first, node.id = some nodeId
  · obtain ⟨nodeId, listed, known⟩ := early
    rw [grantAll_of_mem known listed, grantAll_of_mem known ((parts nodeId).mpr (.inl listed)), grantAll]
    split <;> rfl
  · have kept : grantAll granted first node = node :=
      grantAll_of_not_mem fun nodeId known listed => early ⟨nodeId, listed, known⟩
    rw [kept]
    by_cases late : ∃ nodeId ∈ second, node.id = some nodeId
    · obtain ⟨nodeId, listed, known⟩ := late
      rw [grantAll_of_mem known listed, grantAll_of_mem known ((parts nodeId).mpr (.inr listed))]
    · rw [grantAll_of_not_mem fun nodeId known listed => late ⟨nodeId, listed, known⟩]
      refine (grantAll_of_not_mem fun nodeId known listed => ?_).symm
      rcases (parts nodeId).mp listed with before | after
      · exact early ⟨nodeId, before, known⟩
      · exact late ⟨nodeId, after, known⟩

section Grants

variable (grants : hasExitRoute granted = true)

include grants

theorem mem_todo_after {nodes : List RawNode} {ids : List Nat} {nodeId : Nat} :
    nodeId ∈ exitRouteTodo exitTag (nodes.map (grantAll granted ids)) ↔
      nodeId ∈ exitRouteTodo exitTag nodes ∧ nodeId ∉ ids := by
  rw [mem_exitRouteTodo, mem_exitRouteTodo]
  constructor
  · rintro ⟨after, listed, tagged, needed⟩
    obtain ⟨node, among, rfl⟩ := List.mem_map.mp listed
    obtain ⟨unapproved, -, known⟩ := needsApproval_eq_some_iff.mp needed
    rw [grantAll_id] at known
    have absent : nodeId ∉ ids := by
      intro approved
      rw [grantAll_of_mem known approved] at unapproved
      exact Bool.false_ne_true (unapproved.symm.trans grants)
    rw [grantAll_of_id_not_mem known absent] at tagged needed
    exact ⟨⟨node, among, tagged, needed⟩, absent⟩
  · rintro ⟨⟨node, among, tagged, needed⟩, absent⟩
    have kept : grantAll granted ids node = node :=
      grantAll_of_id_not_mem (needsApproval_eq_some_iff.mp needed).2.2 absent
    exact ⟨node, List.mem_map.mpr ⟨node, among, kept⟩, tagged, needed⟩

theorem todo_after_all (nodes : List RawNode) :
    exitRouteTodo exitTag (nodes.map (grantAll granted (exitRouteTodo exitTag nodes))) = [] := by
  apply List.eq_nil_iff_forall_not_mem.mpr
  intro nodeId left
  obtain ⟨listed, absent⟩ := (mem_todo_after grants).mp left
  exact absent listed

/-- A round that failed halfway is made up for by the next one. -/
theorem grants_after_failure (works : Nat → Bool) (nodes : List RawNode) :
    (nodes.map (grantAll granted ((exitRouteTodo exitTag nodes).takeWhile works))).map
        (grantAll granted (exitRouteTodo exitTag
          (nodes.map (grantAll granted ((exitRouteTodo exitTag nodes).takeWhile works))))) =
      nodes.map (grantAll granted (exitRouteTodo exitTag nodes)) := by
  rw [List.map_map]
  refine List.map_congr_left fun node _ => grantAll_grantAll (fun nodeId => ?_) node
  rw [mem_todo_after grants]
  constructor
  · intro listed
    by_cases early : nodeId ∈ (exitRouteTodo exitTag nodes).takeWhile works
    · exact .inl early
    · exact .inr ⟨listed, early⟩
  · rintro (early | ⟨listed, -⟩)
    · exact (List.takeWhile_sublist works).subset early
    · exact listed

theorem approved_after_all {nodes : List RawNode} {node : RawNode}
    (listed : node ∈ nodes.map (grantAll granted (exitRouteTodo exitTag nodes))) (known : node.id.isSome = true)
    (tagged : nodeHasExitTag exitTag node = true) (advertised : hasExitRoute (availableRoutesOf node) = true) :
    hasExitRoute (approvedRoutesOf node) = true := by
  by_contra unapproved
  obtain ⟨nodeId, identified⟩ := Option.isSome_iff_exists.mp known
  have needed : needsApproval node = some nodeId :=
    needsApproval_eq_some_iff.mpr ⟨Bool.eq_false_iff.mpr unapproved, advertised, identified⟩
  have left : nodeId ∈ exitRouteTodo exitTag (nodes.map (grantAll granted (exitRouteTodo exitTag nodes))) :=
    mem_exitRouteTodo.mpr ⟨node, listed, tagged, needed⟩
  rw [todo_after_all grants] at left
  cases left

end Grants

/-! ### Runs -/

def NumberedApart (nodes : List RawNode) : Prop := (nodes.map fun node => node.id).Nodup

/-- Only tagged nodes come to have an approved exit route. -/
structure Approvals (exitTag : String) (start nodes : List RawNode) : Prop where
  apart : NumberedApart nodes
  tagged : ∀ node ∈ nodes, hasExitRoute (approvedRoutesOf node) = true →
    nodeHasExitTag exitTag node = true ∨
      ∃ first ∈ start, first.id = node.id ∧ hasExitRoute (approvedRoutesOf first) = true

theorem approvals_initial {start : List RawNode} (apart : NumberedApart start) : Approvals exitTag start start where
  apart := apart
  tagged := fun node listed approved => .inr ⟨node, listed, rfl, approved⟩

theorem numberedApart_map {nodes : List RawNode} (apart : NumberedApart nodes) {change : RawNode → RawNode}
    (same : ∀ node, (change node).id = node.id) : NumberedApart (nodes.map change) := by
  unfold NumberedApart
  rw [List.map_map]
  exact (List.map_congr_left fun node _ => same node) ▸ apart

theorem approvals_sync {start nodes : List RawNode} (approvals : Approvals exitTag start nodes) (works : Nat → Bool) :
    Approvals exitTag start (nodes.map (grantAll granted ((exitRouteTodo exitTag nodes).takeWhile works))) where
  apart := numberedApart_map approvals.apart (grantAll_id granted _)
  tagged := by
    intro after listed approved
    obtain ⟨node, among, rfl⟩ := List.mem_map.mp listed
    rw [nodeHasExitTag_grantAll, grantAll_id]
    by_cases early : ∃ nodeId ∈ (exitRouteTodo exitTag nodes).takeWhile works, node.id = some nodeId
    · obtain ⟨nodeId, sent, known⟩ := early
      obtain ⟨other, present, tagged, needed⟩ :=
        mem_exitRouteTodo.mp ((List.takeWhile_sublist works).subset sent)
      have identified : other.id = node.id := (needsApproval_eq_some_iff.mp needed).2.2.trans known.symm
      obtain rfl := List.inj_on_of_nodup_map approvals.apart present among identified
      exact .inl tagged
    · rw [grantAll_of_not_mem fun nodeId known sent => early ⟨nodeId, sent, known⟩] at approved
      exact approvals.tagged node among approved

theorem approvals_advertise {start nodes : List RawNode} (approvals : Approvals exitTag start nodes) (nodeId : Nat)
    (routes : List String) : Approvals exitTag start (nodes.map (advertiseRoutes nodeId routes)) where
  apart := numberedApart_map approvals.apart fun node => by unfold advertiseRoutes; split <;> rfl
  tagged := by
    intro after listed
    obtain ⟨node, among, rfl⟩ := List.mem_map.mp listed
    have before := approvals.tagged node among
    unfold advertiseRoutes
    split
    · exact before
    · exact before

theorem approvals_join {start nodes : List RawNode} (approvals : Approvals exitTag start nodes) {node : RawNode}
    (fresh : ∀ other ∈ nodes, other.id ≠ node.id) (unapproved : hasExitRoute (approvedRoutesOf node) = false) :
    Approvals exitTag start (nodes ++ [node]) where
  apart := by
    unfold NumberedApart
    rw [List.map_append, List.nodup_append']
    refine ⟨approvals.apart, List.nodup_singleton _, List.disjoint_singleton.mpr fun listed => ?_⟩
    obtain ⟨other, among, same⟩ := List.mem_map.mp listed
    exact fresh other among same
  tagged := by
    intro other listed approved
    rcases List.mem_append.mp listed with before | now
    · exact approvals.tagged other before approved
    · rw [List.mem_singleton.mp now, unapproved] at approved
      cases approved

theorem nodesAfter_round (granted : List String) (exitTag : String) (works : Nat → Bool) (nodes : List RawNode) :
    nodesAfter (approveExitRoutesForTaggedNodes granted exitTag works nodes) =
      nodes.map (grantAll granted ((exitRouteTodo exitTag nodes).takeWhile works)) :=
  nodesAfter_foldlM nodes ⟨nodes, 0⟩

theorem approvals_reaches {start nodes : List RawNode} (apart : NumberedApart start)
    (reached : Reaches (routeStep granted exitTag) (fun _ _ => True) start nodes) :
    Approvals exitTag start nodes := by
  apply reached.invariant (approvals_initial apart)
  intro nodes event after approvals _ stepped
  cases event with
  | sync works =>
      obtain rfl := Option.some.inj stepped
      rw [nodesAfter_round]
      exact approvals_sync approvals works
  | join node =>
      rw [routeStep] at stepped
      split at stepped
      · rename_i welcome
        obtain rfl := Option.some.inj stepped
        obtain ⟨fresh, unapproved⟩ := Bool.and_eq_true_iff.mp welcome
        refine approvals_join approvals (fun other listed => ?_) ((Bool.not_eq_true' _).mp unapproved)
        exact of_decide_eq_true (List.all_eq_true.mp fresh other listed)
      · cases stepped
  | advertise nodeId routes =>
      obtain rfl := Option.some.inj stepped
      exact approvals_advertise approvals nodeId routes

/-- In any run only tagged nodes come to have an approved exit route. A round in which no command fails leaves every
tagged node that advertises an exit with it approved, whatever rounds failed halfway before, and the next round sends
nothing. -/
theorem exit_routes_settle (grants : hasExitRoute granted = true) {start nodes : List RawNode}
    (apart : NumberedApart start) (reached : Reaches (routeStep granted exitTag) (fun _ _ => True) start nodes) :
    (∀ node ∈ nodes, hasExitRoute (approvedRoutesOf node) = true →
        nodeHasExitTag exitTag node = true ∨
          ∃ first ∈ start, first.id = node.id ∧ hasExitRoute (approvedRoutesOf first) = true) ∧
      ∃ after, approveExitRoutesForTaggedNodes granted exitTag (fun _ => true) nodes = .ok after ∧
        (∀ node ∈ after.nodes, node.id.isSome = true → nodeHasExitTag exitTag node = true →
          hasExitRoute (availableRoutesOf node) = true → hasExitRoute (approvedRoutesOf node) = true) ∧
        (∀ works, nodesAfter (approveExitRoutesForTaggedNodes granted exitTag (fun _ => true)
          (nodesAfter (approveExitRoutesForTaggedNodes granted exitTag works nodes))) = after.nodes) ∧
        ∀ works, approveExitRoutesForTaggedNodes granted exitTag works after.nodes = .ok ⟨after.nodes, 0⟩ := by
  have ran : approveExitRoutesForTaggedNodes granted exitTag (fun _ => true) nodes =
      .ok ⟨nodes.map (grantAll granted (exitRouteTodo exitTag nodes)), 0 + (exitRouteTodo exitTag nodes).length⟩ :=
    foldlM_approveStep (fun _ _ => rfl) ⟨nodes, 0⟩
  have settled := @todo_after_all granted exitTag grants nodes
  refine ⟨(approvals_reaches apart reached).tagged, _, ran, fun node listed => approved_after_all grants listed,
    fun works => ?_, fun works => ?_⟩
  · rw [nodesAfter_round, nodesAfter_round, List.takeWhile_eq_self_iff.mpr fun _ _ => rfl]
    exact grants_after_failure grants works nodes
  · have quiet := @foldlM_approveStep granted exitTag works
      (nodes.map (grantAll granted (exitRouteTodo exitTag nodes)))
      (fun nodeId listed => by rw [settled] at listed; cases listed)
      ⟨nodes.map (grantAll granted (exitRouteTodo exitTag nodes)), 0⟩
    rw [settled, grantAll_nil, List.map_id] at quiet
    exact quiet

def exitCandidate : RawNode where
  id := some 7
  givenName := some "gw-exit"
  givenNameCamel := none
  name := none
  hostname := none
  ipAddressesCamel := none
  ipAddresses := some ["100.64.0.7"]
  tags := some ["tag:exit"]
  tagsUpper := none
  validTags := none
  validTagsSnake := none
  approvedRoutes := some []
  approvedRoutesSnake := none
  availableRoutes := some ["0.0.0.0/0", "::/0"]
  availableRoutesSnake := none

theorem exit_candidate_approved :
    ∃ after, approveExitRoutesForTaggedNodes ["0.0.0.0/0"] "tag:exit" (fun _ => true) [exitCandidate] = .ok after ∧
      after.approved = 1 ∧
      ∀ works, approveExitRoutesForTaggedNodes ["0.0.0.0/0"] "tag:exit" works after.nodes = .ok ⟨after.nodes, 0⟩ := by
  have joined : Reaches (routeStep ["0.0.0.0/0"] "tag:exit") (fun _ _ => True) [] [exitCandidate] :=
    Lib.reaches_of_run (fun _ _ _ => trivial) (show Lib.run (routeStep ["0.0.0.0/0"] "tag:exit") (fun _ _ => true) []
      [.join exitCandidate] = some [exitCandidate] by decide)
  have none : NumberedApart [] := List.nodup_nil
  obtain ⟨-, after, ran, -, -, quiet⟩ := exit_routes_settle (by decide) none joined
  have counted : approveExitRoutesForTaggedNodes ["0.0.0.0/0"] "tag:exit" (fun _ => true) [exitCandidate] =
      .ok ⟨[{ exitCandidate with approvedRoutes := some ["0.0.0.0/0"] }], 1⟩ := rfl
  have same := Except.ok.inj (ran.symm.trans counted)
  exact ⟨after, ran, congrArg Approval.approved same, quiet⟩

end DeepOrc.Headscale
