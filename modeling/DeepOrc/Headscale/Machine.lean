import DeepOrc.Headscale.Registry
import DeepOrc.Lib.Machine
import DeepOrc.Services.GatewayProvisioning

/-!
# Gateways and their Headscale nodes

Operations, one after another, on the gateway table and the node registry. A provisioning may end in any way; the
other operations that fail change nothing. Every listing an operation reads is the registry's nodes in some order.
-/

namespace DeepOrc.Headscale

open Models Repositories Services

structure State where
  db : Db
  registry : Registry

inductive Event where
  | create (calls : CreationCalls) (request : CreateGatewayRequest)
  | provision (gatewayId jobId : Nat) (joining : Option Node) (calls : ProvisionCalls)
  | rename (gatewayId : Nat) (displayName : String) (calls : RenameCalls)
  | delete (gatewayId : Nat) (jobId : Option Nat) (listing : List Node) (calls : DeletionCalls)

/-- A listing that came back shows the registry. -/
def shows (registry : Registry) (answer : Except PyError (List Node)) : Bool :=
  match answer with
  | .ok listing => decide (registry.Lists listing)
  | .error _ => true

/-- The machine of a gateway may register one new node while it is provisioned. -/
def joinNode (registry : Registry) (joining : Option Node) (gatewayId : Nat) : Option Registry :=
  match joining with
  | none => some registry
  | some node => registry.join node (some gatewayId)

/-- However it ends, what the provisioning committed stays, and so does the node of a machine that had joined. -/
def provisionStep (s : State) (gatewayId jobId : Nat) (joining : Option Node) (calls : ProvisionCalls) :
    Option State :=
  match s.db.gateways.get gatewayId, joinNode s.registry joining gatewayId with
  | some _, some registry =>
      if shows registry calls.finalize.hostnameListing && shows registry calls.finalize.nameListing then
        some ⟨(provisionGateway calls s.db gatewayId jobId).1, registry⟩
      else none
  | _, _ => none

def renameStep (s : State) (gatewayId : Nat) (displayName : String) (calls : RenameCalls) : Option State :=
  if shows s.registry calls.listing && shows s.registry calls.namesListing then
    match renameTailscaleDisplayName calls s.db gatewayId displayName with
    | .error _ => none
    | .ok (db, none) => some ⟨db, s.registry⟩
    | .ok (db, some (nodeId, newName)) => (s.registry.rename nodeId newName).map fun registry => ⟨db, registry⟩
  else none

/-- The node found in the listing is gone afterwards unless the Headscale call failed. -/
def removeFound (registry : Registry) (outcome : Except PyError Unit) (found : Option Nat) : Registry :=
  match outcome, found with
  | .ok _, some nodeId => registry.remove nodeId
  | _, _ => registry

def deleteStep (s : State) (gatewayId : Nat) (jobId : Option Nat) (listing : List Node) (calls : DeletionCalls) :
    Option State :=
  if s.registry.Lists listing then
    match s.db.gateways.get gatewayId with
    | none => none
    | some gateway =>
        match executeDeleteGateway calls s.db gatewayId jobId with
        | .error _ => none
        | .ok db => some ⟨db, removeFound s.registry calls.headscale (headscaleNodeToDelete listing gateway)⟩
  else none

def step (s : State) : Event → Option State
  | .create calls request =>
      match createGateway calls request s.db with
      | .error _ => none
      | .ok (db, _, _) => some { s with db }
  | .provision gatewayId jobId joining calls => provisionStep s gatewayId jobId joining calls
  | .rename gatewayId displayName calls => renameStep s gatewayId displayName calls
  | .delete gatewayId jobId listing calls => deleteStep s gatewayId jobId listing calls

/-- No gateways yet; any workers, and any nodes that belong to no gateway. -/
structure Initial (s : State) : Prop where
  gateways : ∀ id, s.db.gateways.get id = none
  foreign : ∀ entry ∈ s.registry.nodes, entry.owner = none

/-! ### What one step did -/

structure Provisioned (s t : State) (gatewayId : Nat) (joining : Option Node) where
  gateway : Gateway
  row : Gateway
  present : s.db.gateways.get gatewayId = some gateway
  joined : joinNode s.registry joining gatewayId = some t.registry
  name : row.name = gateway.name
  hostname : row.tailscaleHostname = gateway.tailscaleHostname
  incusInstance : row.incusInstance = gateway.incusInstance
  source : row.exitNodeId = gateway.exitNodeId ∨
    ∃ entry ∈ t.registry.nodes, nodeIpv4 entry.node = some row.exitNodeId ∧
      (headscaleNodeName entry.node = gateway.tailscaleHostname ∨ headscaleNodeName entry.node = gateway.name)
  next : t.db.gateways.next = s.db.gateways.next
  gateways : ∀ id, t.db.gateways.get id = if id = gatewayId then some row else s.db.gateways.get id

theorem mem_of_shows {registry : Registry} {answer : Except PyError (List Node)} {listing : List Node}
    (shown : shows registry answer = true) (listed : answer = .ok listing) {node : Node} (member : node ∈ listing) :
    ∃ entry ∈ registry.nodes, entry.node = node := by
  rw [listed] at shown
  exact Registry.mem_of_lists (of_decide_eq_true shown) member

theorem lists_of_shows {registry : Registry} {answer : Except PyError (List Node)} {listing : List Node}
    (shown : shows registry answer = true) (listed : answer = .ok listing) : registry.Lists listing := by
  rw [listed] at shown
  exact of_decide_eq_true shown

theorem provisionStep_some {s t : State} {gatewayId jobId : Nat} {joining : Option Node} {calls : ProvisionCalls}
    (stepped : provisionStep s gatewayId jobId joining calls = some t) :
    Nonempty (Provisioned s t gatewayId joining) := by
  unfold provisionStep at stepped
  split at stepped
  · rename_i gateway registry present joined
    split at stepped
    · rename_i shown
      simp only [Bool.and_eq_true] at shown
      cases stepped
      obtain ⟨next, row, kept, rows⟩ := @provisionGateway_row calls s.db gatewayId gateway present jobId
      refine ⟨⟨gateway, row, present, joined, kept.name, kept.hostname, kept.incusInstance, ?_, next, rows⟩⟩
      rcases kept.exit with same | resolved
      · exact .inl same
      · rcases resolveExitNode_some resolved with ⟨listing, listed, node, member, name, ip4⟩ |
          ⟨listing, listed, node, member, name, ip4⟩ | same
        · obtain ⟨entry, inside, rfl⟩ := mem_of_shows shown.1 listed member
          exact .inr ⟨entry, inside, ip4, .inl name⟩
        · obtain ⟨entry, inside, rfl⟩ := mem_of_shows shown.2 listed member
          exact .inr ⟨entry, inside, ip4, .inr name⟩
        · exact .inl same.symm
    · cases stepped
  · cases stepped

theorem joinNode_some {registry joined : Registry} {joining : Option Node} {gatewayId : Nat}
    (accepted : joinNode registry joining gatewayId = some joined) {entry : Registered} :
    entry ∈ joined.nodes ↔
      entry ∈ registry.nodes ∨ (joining = some entry.node ∧ entry.owner = some gatewayId) := by
  cases joining with
  | none =>
      cases accepted
      simp
  | some node =>
      simp only [joinNode, Registry.join] at accepted
      split at accepted
      · cases accepted
        simp only [List.mem_cons, Option.some.injEq]
        constructor
        · rintro (rfl | older)
          · exact .inr ⟨rfl, rfl⟩
          · exact .inl older
        · rintro (older | ⟨rfl, owned⟩)
          · exact .inr older
          · exact .inl (by rw [← owned])
      · cases accepted

/-- The exit address after a provisioning was known before, or belongs to a node under one of the two names. -/
theorem knownExitNode_provisioned {s t : State} {gatewayId : Nat} {joining : Option Node}
    (done : Provisioned s t gatewayId joining) {ip : String} (known : knownExitNode done.row = some ip) :
    knownExitNode done.gateway = some ip ∨
      ∃ entry ∈ t.registry.nodes, nodeIpv4 entry.node = some ip ∧
        (headscaleNodeName entry.node = done.gateway.tailscaleHostname ∨
          headscaleNodeName entry.node = done.gateway.name) := by
  have stored := knownExitNode_some known
  rcases done.source with same | source
  · refine .inl ?_
    rw [← known, knownExitNode, knownExitNode, same]
  · rw [stored] at source
    exact .inr source

structure Renamed (s t : State) (gatewayId : Nat) (displayName : String) where
  gateway : Gateway
  newName : String
  nodeId : Nat
  listing : List Node
  present : s.db.gateways.get gatewayId = some gateway
  valid : Naming.validateTailscaleDisplayName displayName = .ok newName
  different : newName ≠ gateway.tailscaleHostname
  lists : s.registry.Lists listing
  found : headscaleNodeToRename listing gateway = .ok nodeId
  hostname_free : ∀ id row, id ≠ gatewayId → s.db.gateways.get id = some row → row.tailscaleHostname ≠ newName
  name_free : ∀ entry ∈ s.registry.nodes, entry.node.id ≠ some nodeId → headscaleNodeName entry.node ≠ newName
  db : t.db = setTailscaleHostname s.db gatewayId newName
  filled : newName ≠ ""
  nodes : t.registry.nodes = s.registry.nodes.map (Registry.renamed nodeId newName)

theorem rename_some {registry renamed : Registry} {nodeId : Nat} {name : String}
    (accepted : registry.rename nodeId name = some renamed) :
    name ≠ "" ∧ renamed.nodes = registry.nodes.map (Registry.renamed nodeId name) := by
  unfold Registry.rename at accepted
  split at accepted
  · rename_i free
    cases accepted
    exact ⟨free.1, rfl⟩
  · cases accepted

theorem renameStep_some {s t : State} {gatewayId : Nat} {displayName : String} {calls : RenameCalls}
    (stepped : renameStep s gatewayId displayName calls = some t) :
    t = s ∨ Nonempty (Renamed s t gatewayId displayName) := by
  unfold renameStep at stepped
  split at stepped
  · rename_i shown
    simp only [Bool.and_eq_true] at shown
    split at stepped
    · cases stepped
    · rename_i db renamed
      cases stepped
      rcases renameTailscaleDisplayName_ok renamed with ⟨rfl, -⟩ | ⟨_, _, _, _, _, _, _, _, _, _, _, _, impossible⟩
      · exact .inl rfl
      · cases impossible
    · rename_i db nodeId newName renamed
      rcases renameTailscaleDisplayName_ok renamed with ⟨-, impossible⟩ |
        ⟨gateway, _, _, nodes, names, present, valid, different, listed, named, checked, rfl, change⟩
      · cases impossible
      · cases change
        obtain ⟨registry, accepted, rfl⟩ := Option.map_eq_some_iff.mp stepped
        obtain ⟨filled, renamedNodes⟩ := rename_some accepted
        have lists := lists_of_shows shown.2 named
        refine .inr ⟨⟨gateway, newName, nodeId, nodes, present, valid, different, lists_of_shows shown.1 listed,
          checked.node, checked.hostname_free, ?_, rfl, filled, renamedNodes⟩⟩
        intro entry inside other
        exact checked.name_free entry.node (lists.mem_iff.mpr (List.mem_map_of_mem inside)) other
  · cases stepped

/-! ### A small deployment -/

def plainNode (id : Nat) (name ip : String) : Node := ⟨some id, some name, none, none, none, none, some [ip]⟩

def onlineWorker : Worker := ⟨"w1", "w1", "https://w1:8443", true, some 0, 51820, 51920, 168427775, 168427530⟩

def emptyDeployment : State :=
  ⟨{ Db.empty with workers := Lib.Table.empty.insert onlineWorker }, ⟨[], .nil⟩⟩

def createAutomatic : Event := .create ⟨0, 2660, .ok ()⟩ ⟨none, none, none⟩

def provisionHealthy (gatewayId : Nat) (joining : Option Node) (listing : List Node) : Event :=
  .provision gatewayId gatewayId joining {
    render := .ok ()
    launch := .ok ()
    deadline := 300
    polls := [(0, .ok ⟨some true, some true, some true⟩)]
    lastHealth := .ok ⟨some true, some true, some true⟩
    register := .ok ()
    finalize := ⟨.ok (), .ok listing, .ok (), .ok (), .ok listing, .ok listing⟩
    peer := ⟨"key", 0, .ok (), .ok ()⟩ }

def renameListed (gatewayId : Nat) (displayName : String) (listing : List Node) : Event :=
  .rename gatewayId displayName ⟨.ok listing, .ok listing, .ok ()⟩

theorem emptyDeployment_initial : Initial emptyDeployment where
  gateways := fun _ => rfl
  foreign := by
    intro entry inside
    cases inside

end DeepOrc.Headscale
