import Mathlib.Data.List.Nodup
import DeepOrc.Headscale.Client
import DeepOrc.Services.GatewayCreation

/-!
# Exit nodes on the dashboard

The dashboard shows each gateway with its exit node, and below them the nodes that no gateway has. The two are computed
apart, from the addresses, the names here and the names in Headscale.
-/

namespace DeepOrc.Web

open Models (Gateway)
open Services (exitNodePending)

/-! ### The exit nodes Headscale lists -/

/-- An entry of the listing, with its state, tags and routes read under the keys that Headscale uses for them. -/
structure ListedNode extends Headscale.Node where
  online : Bool
  tags : List String
  approvedRoutes : List String
  availableRoutes : List String

structure HeadscaleNode where
  nodeId : Nat
  hostname : String
  tailscaleIp : String
  online : Bool
  exitApproved : Bool
  exitTagged : Bool
  exitAdvertised : Bool
  named : hostname ≠ ""
deriving DecidableEq

def exitNodeRoutes : List String := ["0.0.0.0/0", "::/0"]

def hasExitRoute (routes : List String) : Bool := routes.any exitNodeRoutes.contains

/-- A node without a name goes by its address. -/
def parseHeadscaleNode (exitTag : String) (node : ListedNode) : Option HeadscaleNode :=
  match Headscale.nodeIpv4 node.toNode with
  | none => none
  | some ipv4 =>
      if filled : ipv4 = "" then none
      else
        let exitTagged := node.tags.contains exitTag
        let exitAdvertised := hasExitRoute node.approvedRoutes || hasExitRoute node.availableRoutes
        if exitTagged || exitAdvertised then
          let name := Headscale.headscaleNodeName node.toNode
          some {
            nodeId := node.id.getD 0
            hostname := if name = "" then ipv4 else name
            tailscaleIp := ipv4
            online := node.online
            exitApproved := hasExitRoute node.approvedRoutes
            exitTagged := exitTagged
            exitAdvertised := exitAdvertised
            named := by split <;> assumption }
        else none

/-- The first node of each address. -/
def keepUnseen (exitTag : String) : List String → List ListedNode → List HeadscaleNode
  | _, [] => []
  | seen, node :: rest =>
      match parseHeadscaleNode exitTag node with
      | none => keepUnseen exitTag seen rest
      | some parsed =>
          if parsed.tailscaleIp ∈ seen then keepUnseen exitTag seen rest
          else parsed :: keepUnseen exitTag (parsed.tailscaleIp :: seen) rest

/-- The routes are listed only when the nodes have no exit node among them. -/
def listExitNodes (exitTag : String) (nodes routes : List ListedNode) : List HeadscaleNode :=
  match keepUnseen exitTag [] nodes with
  | [] => keepUnseen exitTag [] routes
  | result => result

/-! ### The two views -/

/-- `{node.tailscale_ip: node for node in nodes}` keeps the last node of an address. -/
def nodesByIp (nodes : List HeadscaleNode) (ip : String) : Option HeadscaleNode :=
  nodes.reverse.find? fun node => node.tailscaleIp = ip

def nodesByHostname (nodes : List HeadscaleNode) (hostname : String) : Option HeadscaleNode :=
  nodes.reverse.find? fun node => node.hostname = hostname

/-- `exit_node_id not in {"", "pending"}` -/
def exitNodeKnown (gateway : Gateway) : Bool := gateway.exitNodeId != "" && gateway.exitNodeId != exitNodePending

def matchGatewayExitNode (gateway : Gateway) (byIp byHostname : String → Option HeadscaleNode) :
    Option HeadscaleNode :=
  match (if exitNodeKnown gateway then byIp gateway.exitNodeId else none) with
  | some node => some node
  | none =>
      [gateway.tailscaleHostname, gateway.name].findSome? fun key => if key = "" then none else byHostname key

/-- The order of the keys `(not node.online, node.hostname.lower())`. -/
def sortsBefore (lower : String → String) (a b : HeadscaleNode) : Bool :=
  if a.online = b.online then decide (lower a.hostname ≤ lower b.hostname) else a.online

/-- The nodes no gateway has, and the nodes by address without those named like a gateway. -/
def partitionExitNodes (lower : String → String) (headscaleNodes : List HeadscaleNode) (gateways : List Gateway) :
    List HeadscaleNode × (String → Option HeadscaleNode) :=
  let gatewayHostnames := gateways.map Gateway.name
  let assignedIps := (gateways.filter exitNodeKnown).map Gateway.exitNodeId
  let kept := headscaleNodes.filter fun node => !gatewayHostnames.contains node.hostname
  let unassigned := kept.filter fun node => !assignedIps.contains node.tailscaleIp
  (unassigned.mergeSort (sortsBefore lower), nodesByIp kept)

/-- The exit node of each gateway, and the unassigned nodes. -/
def dashboardExitNodes (lower : String → String) (headscaleNodes : List HeadscaleNode) (gateways : List Gateway) :
    (Gateway → Option HeadscaleNode) × List HeadscaleNode :=
  (fun gateway => matchGatewayExitNode gateway (nodesByIp headscaleNodes) (nodesByHostname headscaleNodes),
    (partitionExitNodes lower headscaleNodes gateways).1)

/-! ### What the listing guarantees -/

theorem keepUnseen_distinct (exitTag : String) (nodes : List ListedNode) (seen : List String) :
    ((keepUnseen exitTag seen nodes).map HeadscaleNode.tailscaleIp).Nodup ∧
      ∀ node ∈ keepUnseen exitTag seen nodes, node.tailscaleIp ∉ seen := by
  induction nodes generalizing seen with
  | nil => exact ⟨List.nodup_nil, fun node member => absurd member List.not_mem_nil⟩
  | cons node rest ih =>
      unfold keepUnseen
      cases parseHeadscaleNode exitTag node with
      | none => exact ih seen
      | some parsed =>
          dsimp only
          split
          · exact ih seen
          · rename_i new
            obtain ⟨distinct, unseen⟩ := ih (parsed.tailscaleIp :: seen)
            constructor
            · rw [List.map_cons, List.nodup_cons]
              refine ⟨?_, distinct⟩
              intro again
              obtain ⟨later, member, same⟩ := List.mem_map.mp again
              exact unseen later member (same ▸ List.mem_cons_self)
            · intro kept member
              obtain rfl | later := List.mem_cons.mp member
              · exact new
              · exact fun old => unseen kept later (List.mem_cons_of_mem _ old)

theorem listExitNodes_distinct (exitTag : String) (nodes routes : List ListedNode) :
    ((listExitNodes exitTag nodes routes).map HeadscaleNode.tailscaleIp).Nodup := by
  unfold listExitNodes
  split
  · exact (keepUnseen_distinct exitTag routes []).1
  · exact (keepUnseen_distinct exitTag nodes []).1

/-! ### Lookups -/

section lookups

variable {κ : Type} [DecidableEq κ] (key : HeadscaleNode → κ)

theorem find_last_some {nodes : List HeadscaleNode} {wanted : κ} {node : HeadscaleNode}
    (found : (nodes.reverse.find? fun entry => key entry = wanted) = some node) : node ∈ nodes ∧ key node = wanted := by
  have matched := List.find?_some found
  exact ⟨List.mem_reverse.mp (List.mem_of_find?_eq_some found), by simpa using matched⟩

theorem find_last_of_mem {nodes : List HeadscaleNode} (distinct : (nodes.map key).Nodup)
    {node : HeadscaleNode} (member : node ∈ nodes) :
    (nodes.reverse.find? fun entry => key entry = key node) = some node := by
  cases found : nodes.reverse.find? fun entry => key entry = key node with
  | none =>
      have differs := List.find?_eq_none.mp found node (List.mem_reverse.mpr member)
      simp at differs
  | some entry =>
      obtain ⟨listed, same⟩ := find_last_some key found
      exact congrArg some (List.inj_on_of_nodup_map distinct listed member same)

end lookups

theorem nodesByIp_eq_none {nodes : List HeadscaleNode} {ip : String} (missing : nodesByIp nodes ip = none) :
    ∀ node ∈ nodes, node.tailscaleIp ≠ ip := by
  intro node member
  have differs := List.find?_eq_none.mp missing node (List.mem_reverse.mpr member)
  simpa using differs

theorem matchGatewayExitNode_cases {gateway : Gateway} {byIp byHostname : String → Option HeadscaleNode}
    {node : HeadscaleNode} (matched : matchGatewayExitNode gateway byIp byHostname = some node) :
    (exitNodeKnown gateway = true ∧ byIp gateway.exitNodeId = some node) ∨
      ((exitNodeKnown gateway = true → byIp gateway.exitNodeId = none) ∧
        (byHostname gateway.tailscaleHostname = some node ∨ byHostname gateway.name = some node)) := by
  unfold matchGatewayExitNode at matched
  split at matched
  · rename_i resolved found
    cases matched
    split at found
    · rename_i known
      exact .inl ⟨known, found⟩
    · cases found
  · rename_i missing
    refine .inr ⟨fun known => ?_, ?_⟩
    · rw [if_pos known] at missing
      exact missing
    · obtain ⟨key, member, found⟩ := List.exists_of_findSome?_eq_some matched
      split at found
      · cases found
      · simp only [List.mem_cons, List.not_mem_nil, or_false] at member
        obtain rfl | rfl := member
        · exact .inl found
        · exact .inr found

theorem matchGatewayExitNode_of_ip {gateway : Gateway} {byIp : String → Option HeadscaleNode} {node : HeadscaleNode}
    (known : exitNodeKnown gateway = true) (found : byIp gateway.exitNodeId = some node)
    (byHostname : String → Option HeadscaleNode) : matchGatewayExitNode gateway byIp byHostname = some node := by
  unfold matchGatewayExitNode
  rw [if_pos known, found]

/-- A gateway whose own name a node has is matched with some node. -/
theorem matchGatewayExitNode_of_name {gateway : Gateway} {byHostname : String → Option HeadscaleNode}
    {node : HeadscaleNode} (found : byHostname gateway.name = some node) (filled : gateway.name ≠ "")
    (byIp : String → Option HeadscaleNode) : ∃ other, matchGatewayExitNode gateway byIp byHostname = some other := by
  unfold matchGatewayExitNode
  split
  · rename_i resolved _
    exact ⟨resolved, rfl⟩
  · rw [← Option.isSome_iff_exists, List.findSome?_isSome_iff]
    refine ⟨gateway.name, by simp, ?_⟩
    rw [if_neg filled, found]
    rfl

theorem mem_unassigned {lower : String → String} {nodes : List HeadscaleNode} {gateways : List Gateway}
    {node : HeadscaleNode} :
    node ∈ (partitionExitNodes lower nodes gateways).1 ↔ node ∈ nodes ∧ node.hostname ∉ gateways.map Gateway.name ∧
      ∀ gateway ∈ gateways, exitNodeKnown gateway = true → node.tailscaleIp ≠ gateway.exitNodeId := by
  unfold partitionExitNodes
  simp only [List.mem_mergeSort, List.mem_filter, Bool.not_eq_true', List.contains_eq_mem, decide_eq_false_iff_not,
    List.mem_map, not_exists, not_and, and_assoc]
  have each : (∀ gateway, gateway ∈ gateways → exitNodeKnown gateway = true → ¬ gateway.exitNodeId = node.tailscaleIp) ↔
      ∀ gateway ∈ gateways, exitNodeKnown gateway = true → node.tailscaleIp ≠ gateway.exitNodeId := by
    constructor
    · intro unassigned gateway member known same
      exact unassigned gateway member known same.symm
    · intro unassigned gateway member known same
      exact unassigned gateway member known same.symm
  exact and_congr_right fun _ => and_congr_right fun _ => each

/-! ### Agreement -/

/-- The gateway is found only by the name it was given in Headscale, which is no gateway's name here, at an address that
is no gateway's exit node. -/
structure FoundRenamed (nodes : List HeadscaleNode) (gateways : List Gateway) (gateway : Gateway) : Prop where
  unresolved : exitNodeKnown gateway = true → ∀ node ∈ nodes, node.tailscaleIp ≠ gateway.exitNodeId
  listed : ∃ node ∈ nodes, node.hostname = gateway.tailscaleHostname ∧
    ∀ other ∈ gateways, exitNodeKnown other = true → node.tailscaleIp ≠ other.exitNodeId
  renamed : gateway.tailscaleHostname ∉ gateways.map Gateway.name

/-- A matched node is listed as unassigned only if it was found by a new name. -/
theorem listed_of_match {lower : String → String} {nodes : List HeadscaleNode} {gateways : List Gateway}
    {gateway : Gateway} {node : HeadscaleNode} (member : gateway ∈ gateways)
    (matched : (dashboardExitNodes lower nodes gateways).1 gateway = some node)
    (free : node ∈ (dashboardExitNodes lower nodes gateways).2) : FoundRenamed nodes gateways gateway := by
  obtain ⟨-, unnamed, unassigned⟩ := mem_unassigned.mp free
  obtain ⟨known, found⟩ | ⟨unresolved, found | found⟩ := matchGatewayExitNode_cases matched
  · have address := (find_last_some HeadscaleNode.tailscaleIp found).2
    exact absurd address (unassigned gateway member known)
  · obtain ⟨listed, same⟩ := find_last_some HeadscaleNode.hostname found
    exact ⟨fun known => nodesByIp_eq_none (unresolved known), ⟨node, listed, same, unassigned⟩, same ▸ unnamed⟩
  · have same := (find_last_some HeadscaleNode.hostname found).2
    exact absurd (List.mem_map.mpr ⟨gateway, member, same.symm⟩) unnamed

/-- A node outside the list is some gateway's, or it is the own node of a gateway that has another one. -/
theorem match_of_unlisted {lower : String → String} {nodes : List HeadscaleNode} {gateways : List Gateway}
    (ips : (nodes.map HeadscaleNode.tailscaleIp).Nodup) (hostnames : (nodes.map HeadscaleNode.hostname).Nodup)
    {node : HeadscaleNode} (present : node ∈ nodes) (unlisted : node ∉ (dashboardExitNodes lower nodes gateways).2) :
    (∃ gateway ∈ gateways, (dashboardExitNodes lower nodes gateways).1 gateway = some node) ∨
      ∃ gateway ∈ gateways, gateway.name = node.hostname ∧
        ∃ other ≠ node, (dashboardExitNodes lower nodes gateways).1 gateway = some other := by
  by_cases assigned : ∃ gateway ∈ gateways, exitNodeKnown gateway = true ∧ node.tailscaleIp = gateway.exitNodeId
  · obtain ⟨gateway, member, known, same⟩ := assigned
    have found : nodesByIp nodes gateway.exitNodeId = some node := by
      rw [← same]
      exact find_last_of_mem HeadscaleNode.tailscaleIp ips present
    exact .inl ⟨gateway, member, matchGatewayExitNode_of_ip known found _⟩
  · have named : node.hostname ∈ gateways.map Gateway.name := by
      by_contra unnamed
      refine unlisted (mem_unassigned.mpr ⟨present, unnamed, ?_⟩)
      intro gateway member known same
      exact assigned ⟨gateway, member, known, same⟩
    obtain ⟨gateway, member, same⟩ := List.mem_map.mp named
    have found : nodesByHostname nodes gateway.name = some node := by
      rw [same]
      exact find_last_of_mem HeadscaleNode.hostname hostnames present
    have filled : gateway.name ≠ "" := same ▸ node.named
    obtain ⟨other, matched⟩ := matchGatewayExitNode_of_name found filled (nodesByIp nodes)
    by_cases own : other = node
    · subst own
      exact .inl ⟨gateway, member, matched⟩
    · exact .inr ⟨gateway, member, same, other, own, matched⟩

/-- The two views agree up to gateways renamed in Headscale and the own nodes of gateways. -/
theorem dashboard_views_agree (lower : String → String) (nodes : List HeadscaleNode) (gateways : List Gateway)
    (ips : (nodes.map HeadscaleNode.tailscaleIp).Nodup) (hostnames : (nodes.map HeadscaleNode.hostname).Nodup) :
    (∀ gateway ∈ gateways, ∀ node, (dashboardExitNodes lower nodes gateways).1 gateway = some node →
      ¬ FoundRenamed nodes gateways gateway → node ∉ (dashboardExitNodes lower nodes gateways).2) ∧
    ∀ node ∈ nodes, node ∉ (dashboardExitNodes lower nodes gateways).2 →
      (∃ gateway ∈ gateways, (dashboardExitNodes lower nodes gateways).1 gateway = some node) ∨
        ∃ gateway ∈ gateways, gateway.name = node.hostname ∧
          ∃ other ≠ node, (dashboardExitNodes lower nodes gateways).1 gateway = some other := by
  constructor
  · intro gateway member node matched known free
    exact known (listed_of_match member matched free)
  · intro node present unlisted
    exact match_of_unlisted ips hostnames present unlisted

/-! ### A gateway with an exit node and a node of its own -/

def ownGateway : Gateway :=
  ⟨1, "gw-00", "gw-gw-00", 0x0A0A0002, 51001, 0x0A400000, "100.64.0.5", "gw-00", .ready, none⟩

def androidExit : HeadscaleNode := ⟨1, "android-1", "100.64.0.5", true, true, true, true, by decide⟩

def androidFree : HeadscaleNode := ⟨2, "android-2", "100.64.0.6", true, true, true, true, by decide⟩

def ownNode : HeadscaleNode := ⟨3, "gw-00", "100.64.0.10", true, false, false, false, by decide⟩

example : (dashboardExitNodes id [androidExit, androidFree, ownNode] [ownGateway]).2 = [androidFree] := by
  decide +kernel

/-- The gateway's own node is in neither view. -/
theorem own_node_unmatched : ¬ ∀ lower nodes gateways, (nodes.map HeadscaleNode.tailscaleIp).Nodup →
    (nodes.map HeadscaleNode.hostname).Nodup → ∀ node ∈ nodes,
      (∃ gateway ∈ gateways, (dashboardExitNodes lower nodes gateways).1 gateway = some node) ↔
        node ∉ (dashboardExitNodes lower nodes gateways).2 := by
  intro agree
  have views := agree id [androidExit, androidFree, ownNode] [ownGateway] (by decide) (by decide) ownNode (by simp)
  obtain ⟨gateway, member, matched⟩ := views.mpr (by decide +kernel)
  obtain rfl := List.mem_singleton.mp member
  exact absurd matched (by decide +kernel)

theorem dashboard_views_agree_own :
    (∃ gateway ∈ [ownGateway],
      (dashboardExitNodes id [androidExit, androidFree, ownNode] [ownGateway]).1 gateway = some ownNode) ∨
        ∃ gateway ∈ [ownGateway], gateway.name = ownNode.hostname ∧ ∃ other ≠ ownNode,
          (dashboardExitNodes id [androidExit, androidFree, ownNode] [ownGateway]).1 gateway = some other :=
  (dashboard_views_agree id [androidExit, androidFree, ownNode] [ownGateway] (by decide) (by decide)).2 ownNode
    (by simp) (by decide +kernel)

end DeepOrc.Web
