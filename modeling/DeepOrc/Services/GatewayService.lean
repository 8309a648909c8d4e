import DeepOrc.Headscale.Client
import DeepOrc.Services.GatewayCreation

/-! # Gateway operations after creation, as functions from one committed database to the next -/

namespace DeepOrc.Services

open Models Repositories Headscale

/-- `exit_node_id` when it is an address and not a placeholder. -/
def knownExitNode (gateway : Gateway) : Option String :=
  if gateway.exitNodeId = "" ∨ gateway.exitNodeId = exitNodePending then none else some gateway.exitNodeId

/-- `_gateway_headscale_hostnames`: each non-empty name once, in this order. -/
def gatewayHeadscaleHostnames (gateway : Gateway) : List String :=
  ([gateway.tailscaleHostname, gateway.name, gateway.incusInstance].foldl
    (fun names value => if value = "" ∨ value ∈ names then names else names ++ [value]) [])

/-! ### Provisioning requests -/

def needsProvisioning (gateway : Gateway) : Bool :=
  match gateway.status with
  | .pending | .error | .provisioning => true
  | .ready | .deleting => false

/-- The status part of `prepare_provisioning`. -/
def reopenGateway (db : Db) (gatewayId : Nat) (gateway : Gateway) : Db :=
  match gateway.status with
  | .error => updateGatewayStatus db gatewayId .pending none
  | .provisioning =>
      match getLatestCreateJob db gatewayId with
      | some (_, latest) => if latest.status = .failed then updateGatewayStatus db gatewayId .pending none else db
      | none => db
  | _ => db

def prepareProvisioning (db : Db) (gatewayId : Nat) : Except PyError Db :=
  match db.gateways.get gatewayId with
  | none => .error (.value s!"Gateway {gatewayId} not found")
  | some gateway =>
      match resetFailedJob (reopenGateway db gatewayId gateway) gatewayId with
      | (db, some _) => .ok db
      | (db, none) => .ok (createJob db .createGateway gatewayId).1

/-! ### Deletion -/

def requestDeleteGateway (db : Db) (gatewayId : Nat) : Except PyError (Db × Nat) :=
  match db.gateways.get gatewayId with
  | none => .error (.value s!"Gateway {gatewayId} not found")
  | some gateway =>
      match getLatestDeleteJob db gatewayId with
      | some (jobId, existing) =>
          if gateway.status = .deleting ∧ (existing.status = .pending ∨ existing.status = .running) then .ok (db, jobId)
          else
            let db := updateGatewayStatus db gatewayId .deleting none
            if existing.status = .pending then .ok (db, jobId)
            else .ok (createJob db .deleteGateway gatewayId)
      | none => .ok (createJob (updateGatewayStatus db gatewayId .deleting none) .deleteGateway gatewayId)

/-- How the calls of a deletion end: the Headscale lookup and removal, and `delete_gateway_vm`. -/
structure DeletionCalls where
  headscale : Except PyError Unit
  incus : Except PyError Unit

/-- `delete_gateway_headscale_node`: the id it removes, when a node with an id is found. -/
def headscaleNodeToDelete (nodes : List Node) (gateway : Gateway) : Option Nat :=
  (findGatewayHeadscaleNode nodes (knownExitNode gateway) (gatewayHeadscaleHostnames gateway)).bind Node.id

/-- Releases the address and the port, then deletes the row with its peers and jobs. -/
def removeGateway (db : Db) (gatewayId : Nat) (gateway : Gateway) : Db :=
  deleteGateway
    (Incus.releaseUdpPort (Incus.releaseVmIp db gateway.workerId gateway.vmIp) gateway.workerId gateway.udpPort)
    gatewayId

def completeJob (db : Db) (jobId : Option Nat) : Db :=
  match jobId with
  | none => db
  | some id => updateJobStatus db id .completed none

def executeDeleteGateway (calls : DeletionCalls) (db : Db) (gatewayId : Nat) (jobId : Option Nat) :
    Except PyError Db :=
  match db.gateways.get gatewayId with
  | none => .ok (completeJob db jobId)
  | some gateway =>
      match calls.headscale with
      -- only a `HeadscaleError` is logged and passed over
      | .error (.value text) => .error (.value text)
      | .error (.integrity text) => .error (.integrity text)
      | .error (.other text) => .error (.other text)
      | _ =>
          match db.workers.get gateway.workerId with
          | none => .error (.value s!"Worker {gateway.workerId} not found")
          -- whatever `delete_gateway_vm` raises is ignored
          | some _ => .ok (completeJob (removeGateway db gatewayId gateway) jobId)

/-! ### Headscale names -/

/-- The three lookups of `_finalize_exit_node` see the node list as it is at that moment. -/
structure FinalizeCalls where
  advertise : Except PyError Unit
  listing : Except PyError (List Node)
  approveNode : Except PyError Unit
  approveTagged : Except PyError Unit
  hostnameListing : Except PyError (List Node)
  nameListing : Except PyError (List Node)

def passHeadscaleError (outcome : Except PyError Unit) : Except PyError Unit :=
  match outcome with
  | .error (.headscale _) => .ok ()
  | outcome => outcome

def approveOwnNode (approval : Except PyError Unit) (node : Option Node) : Except PyError Unit :=
  if (node.bind Node.id).isSome then passHeadscaleError approval else .ok ()

/-- The address `_finalize_exit_node` stores, if it finds one. -/
def exitNodeAddress (gateway : Gateway) (byHostname byName : List Node) : Option String :=
  match (getNodeTailscaleIpByHostname byHostname gateway.tailscaleHostname).filter (· ≠ "") with
  | some ip => some ip
  | none =>
      match (getNodeTailscaleIpByHostname byName gateway.name).filter (· ≠ "") with
      | some ip => some ip
      | none => knownExitNode gateway

/-- The gateway is looked up by name only when its hostname gave no address. -/
def resolveExitNode (calls : FinalizeCalls) (gateway : Gateway) : Except PyError (Option String) := do
  let byHostname ← calls.hostnameListing
  if ((getNodeTailscaleIpByHostname byHostname gateway.tailscaleHostname).filter (· ≠ "")).isSome then
    .ok (exitNodeAddress gateway byHostname [])
  else calls.nameListing.map (exitNodeAddress gateway byHostname)

def setExitNode (db : Db) (gatewayId : Nat) (address : Option String) : Db :=
  match address with
  | some ip => { db with gateways := db.gateways.modify gatewayId fun row => { row with exitNodeId := ip } }
  | none => db

def finalizeExitNode (calls : FinalizeCalls) (db : Db) (gatewayId : Nat) (gateway : Gateway) : Except PyError Db := do
  calls.advertise
  let nodes ← calls.listing
  approveOwnNode calls.approveNode
    (findGatewayHeadscaleNode nodes none [gateway.tailscaleHostname, gateway.name])
  passHeadscaleError calls.approveTagged
  let address ← resolveExitNode calls gateway
  return setExitNode db gatewayId address

/-- The outcomes `rename_tailscale_display_name` depends on; the agent's answer to the new hostname is ignored. -/
structure RenameCalls where
  listing : Except PyError (List Node)
  namesListing : Except PyError (List Node)
  rename : Except PyError Unit

def checkHostnameUnused (db : Db) (gatewayId : Nat) (newName : String) : Except PyError Unit :=
  match getByTailscaleHostname db newName with
  | none => .ok ()
  | some (otherId, other) =>
      if otherId ≠ gatewayId then
        .error (.value s!"Headscale name {newName} is already used by gateway {other.name}")
      else .ok ()

/-- The id of the node that a rename takes for the gateway's. -/
def headscaleNodeToRename (nodes : List Node) (gateway : Gateway) : Except PyError Nat :=
  match findGatewayHeadscaleNode nodes (knownExitNode gateway) [gateway.tailscaleHostname, gateway.name] with
  | none =>
      .error (.value (s!"Gateway {gateway.name} not found on Headscale" ++
        " — wait for Tailscale to come online"))
  | some node =>
      match node.id with
      | none => .error (.value "Headscale did not return a node id")
      | some nodeId => .ok nodeId

def checkNodeNameFree (names : List Node) (nodeId : Nat) (newName : String) : Except PyError Unit :=
  if names.any fun existing => existing.id != some nodeId && headscaleNodeName existing = newName then
    .error (.value s!"Headscale name {newName} is already taken")
  else .ok ()

def raiseAsValueError (outcome : Except PyError Unit) : Except PyError Unit :=
  match outcome with
  | .error (.headscale text) => .error (.value text)
  | outcome => outcome

/-- The checks of a rename to an already validated, different name, and the node it renames. -/
def renameTarget (calls : RenameCalls) (db : Db) (gatewayId : Nat) (gateway : Gateway) (newName : String) :
    Except PyError Nat := do
  checkHostnameUnused db gatewayId newName
  let nodes ← calls.listing
  let nodeId ← headscaleNodeToRename nodes gateway
  let names ← calls.namesListing
  checkNodeNameFree names nodeId newName
  raiseAsValueError calls.rename
  return nodeId

def setTailscaleHostname (db : Db) (gatewayId : Nat) (newName : String) : Db :=
  { db with gateways := db.gateways.modify gatewayId fun row => { row with tailscaleHostname := newName } }

/-- The database after a rename, with the node that got the name; `none` when the name did not change. -/
def renameTailscaleDisplayName (calls : RenameCalls) (db : Db) (gatewayId : Nat) (displayName : String) :
    Except PyError (Db × Option (Nat × String)) :=
  match db.gateways.get gatewayId with
  | none => .error (.value s!"Gateway {gatewayId} not found")
  | some gateway =>
      if gateway.status ≠ .ready then .error (.value s!"Gateway {gateway.name} is not ready")
      else
        match Naming.validateTailscaleDisplayName displayName with
        | .error text => .error (.value text)
        | .ok newName =>
            if newName = gateway.tailscaleHostname then .ok (db, none)
            else
              match renameTarget calls db gatewayId gateway newName with
              | .error error => .error error
              | .ok nodeId => .ok (setTailscaleHostname db gatewayId newName, some (nodeId, newName))

/-! ### What a success implies -/

theorem mem_gatewayHeadscaleHostnames {gateway : Gateway} {name : String}
    (member : name ∈ gatewayHeadscaleHostnames gateway) :
    name = gateway.tailscaleHostname ∨ name = gateway.name ∨ name = gateway.incusInstance := by
  have added : ∀ (names : List String) (value : String),
      name ∈ (if value = "" ∨ value ∈ names then names else names ++ [value]) → name ∈ names ∨ name = value := by
    intro names value within
    split_ifs at within
    · exact .inl within
    · exact (List.mem_append.mp within).imp_right List.mem_singleton.mp
  unfold gatewayHeadscaleHostnames at member
  obtain earlier | instanceName := added _ _ member
  · obtain first | gatewayName := added _ _ earlier
    · obtain nothing | hostname := added _ _ first
      · cases nothing
      · exact .inl hostname
    · exact .inr (.inl gatewayName)
  · exact .inr (.inr instanceName)

theorem knownExitNode_some {gateway : Gateway} {ip : String} (known : knownExitNode gateway = some ip) :
    gateway.exitNodeId = ip := by
  unfold knownExitNode at known
  split_ifs at known
  exact Option.some.inj known

theorem exitNodeAddress_some {gateway : Gateway} {byHostname byName : List Node} {ip : String}
    (found : exitNodeAddress gateway byHostname byName = some ip) :
    (∃ node ∈ byHostname, headscaleNodeName node = gateway.tailscaleHostname ∧ nodeIpv4 node = some ip) ∨
      (∃ node ∈ byName, headscaleNodeName node = gateway.name ∧ nodeIpv4 node = some ip) ∨
      gateway.exitNodeId = ip := by
  unfold exitNodeAddress at found
  split at found
  · rename_i address first
    cases found
    exact .inl (getNodeTailscaleIpByHostname_some (Option.filter_eq_some_iff.mp first).1)
  · split at found
    · rename_i address second
      cases found
      exact .inr (.inl (getNodeTailscaleIpByHostname_some (Option.filter_eq_some_iff.mp second).1))
    · exact .inr (.inr (knownExitNode_some found))

/-- Both lookups read a listing, so an address comes from a listed node or is the one stored before. -/
theorem resolveExitNode_some {calls : FinalizeCalls} {gateway : Gateway} {ip : String}
    (resolved : resolveExitNode calls gateway = .ok (some ip)) :
    (∃ listing, calls.hostnameListing = .ok listing ∧
        ∃ node ∈ listing, headscaleNodeName node = gateway.tailscaleHostname ∧ nodeIpv4 node = some ip) ∨
      (∃ listing, calls.nameListing = .ok listing ∧
        ∃ node ∈ listing, headscaleNodeName node = gateway.name ∧ nodeIpv4 node = some ip) ∨
      gateway.exitNodeId = ip := by
  unfold resolveExitNode at resolved
  obtain ⟨byHostname, listed, looked⟩ := bind_ok resolved
  split at looked
  · have found := exitNodeAddress_some (Except.ok.inj looked)
    rcases found with first | ⟨node, member, -⟩ | kept
    · exact .inl ⟨byHostname, listed, first⟩
    · cases member
    · exact .inr (.inr kept)
  · cases second : calls.nameListing with
    | error error =>
        rw [second] at looked
        cases looked
    | ok byName =>
        rw [second] at looked
        rcases exitNodeAddress_some (Except.ok.inj looked) with first | other | kept
        · exact .inl ⟨byHostname, listed, first⟩
        · exact .inr (.inl ⟨byName, rfl, other⟩)
        · exact .inr (.inr kept)

theorem finalizeExitNode_ok {calls : FinalizeCalls} {db after : Db} {gatewayId : Nat} {gateway : Gateway}
    (finalized : finalizeExitNode calls db gatewayId gateway = .ok after) :
    ∃ address, resolveExitNode calls gateway = .ok address ∧ after = setExitNode db gatewayId address := by
  unfold finalizeExitNode at finalized
  obtain ⟨_, -, afterAdvertise⟩ := bind_ok finalized
  obtain ⟨_, -, afterListing⟩ := bind_ok afterAdvertise
  obtain ⟨_, -, afterApproval⟩ := bind_ok afterListing
  obtain ⟨_, -, afterTagged⟩ := bind_ok afterApproval
  obtain ⟨address, resolved, stored⟩ := bind_ok afterTagged
  cases stored
  exact ⟨address, resolved, rfl⟩

/-- A rename that goes through found its node in a listing, and the new name is free on both sides. -/
structure RenameChecked (db : Db) (gatewayId : Nat) (gateway : Gateway) (newName : String) (nodes names : List Node)
    (nodeId : Nat) : Prop where
  node : headscaleNodeToRename nodes gateway = .ok nodeId
  hostname_free : ∀ id row, id ≠ gatewayId → db.gateways.get id = some row → row.tailscaleHostname ≠ newName
  name_free : ∀ node ∈ names, node.id ≠ some nodeId → headscaleNodeName node ≠ newName

theorem checkNodeNameFree_ok {names : List Node} {nodeId : Nat} {newName : String} {result : Unit}
    (checked : checkNodeNameFree names nodeId newName = .ok result) :
    ∀ node ∈ names, node.id ≠ some nodeId → headscaleNodeName node ≠ newName := by
  unfold checkNodeNameFree at checked
  split at checked
  · cases checked
  · rename_i free
    intro node member other same
    exact free (List.any_eq_true.mpr ⟨node, member, by simp [other, same]⟩)

theorem checkHostnameUnused_ok {db : Db} {gatewayId : Nat} {gateway : Gateway} {newName : String} {result : Unit}
    (present : db.gateways.get gatewayId = some gateway) (different : newName ≠ gateway.tailscaleHostname)
    (checked : checkHostnameUnused db gatewayId newName = .ok result) :
    ∀ id row, db.gateways.get id = some row → row.tailscaleHostname ≠ newName := by
  unfold checkHostnameUnused at checked
  cases search : getByTailscaleHostname db newName with
  | none => exact fun id row found => hostname_ne_of_getByTailscaleHostname search found
  | some entry =>
      obtain ⟨otherId, other⟩ := entry
      obtain ⟨found, named⟩ := get_of_getByTailscaleHostname search
      simp only [search] at checked
      split at checked
      · cases checked
      · rename_i same
        rw [not_not.mp same, present] at found
        cases found
        exact absurd named.symm different

theorem renameTarget_ok {calls : RenameCalls} {db : Db} {gatewayId nodeId : Nat} {gateway : Gateway} {newName : String}
    (present : db.gateways.get gatewayId = some gateway) (different : newName ≠ gateway.tailscaleHostname)
    (renamed : renameTarget calls db gatewayId gateway newName = .ok nodeId) :
    ∃ nodes names, calls.listing = .ok nodes ∧ calls.namesListing = .ok names ∧
      RenameChecked db gatewayId gateway newName nodes names nodeId := by
  unfold renameTarget at renamed
  obtain ⟨_, unused, afterHostname⟩ := bind_ok renamed
  obtain ⟨nodes, listed, afterListing⟩ := bind_ok afterHostname
  obtain ⟨found, node, afterNode⟩ := bind_ok afterListing
  obtain ⟨names, named, afterNames⟩ := bind_ok afterNode
  obtain ⟨_, free, afterFree⟩ := bind_ok afterNames
  obtain ⟨_, -, answered⟩ := bind_ok afterFree
  cases answered
  have hostnames := checkHostnameUnused_ok present different unused
  exact ⟨nodes, names, listed, named, node, fun id row _ found => hostnames id row found, checkNodeNameFree_ok free⟩

theorem renameTailscaleDisplayName_ok {calls : RenameCalls} {db after : Db} {gatewayId : Nat} {displayName : String}
    {change : Option (Nat × String)}
    (renamed : renameTailscaleDisplayName calls db gatewayId displayName = .ok (after, change)) :
    (after = db ∧ change = none) ∨
      ∃ gateway newName nodeId nodes names,
        db.gateways.get gatewayId = some gateway ∧ Naming.validateTailscaleDisplayName displayName = .ok newName ∧
        newName ≠ gateway.tailscaleHostname ∧ calls.listing = .ok nodes ∧ calls.namesListing = .ok names ∧
        RenameChecked db gatewayId gateway newName nodes names nodeId ∧
        after = setTailscaleHostname db gatewayId newName ∧ change = some (nodeId, newName) := by
  unfold renameTailscaleDisplayName at renamed
  cases present : db.gateways.get gatewayId with
  | none =>
      rw [present] at renamed
      cases renamed
  | some gateway =>
      simp only [present] at renamed
      split at renamed
      · cases renamed
      · split at renamed
        · cases renamed
        · rename_i newName valid
          split at renamed
          · cases renamed
            exact .inl ⟨rfl, rfl⟩
          · rename_i different
            cases target : renameTarget calls db gatewayId gateway newName with
            | error error =>
                rw [target] at renamed
                cases renamed
            | ok nodeId =>
                rw [target] at renamed
                cases renamed
                obtain ⟨nodes, names, listed, named, checked⟩ := renameTarget_ok present different target
                exact .inr ⟨gateway, newName, nodeId, nodes, names, rfl, valid, different, listed, named, checked,
                  rfl, rfl⟩

theorem headscaleNodeToRename_ok {nodes : List Node} {gateway : Gateway} {nodeId : Nat}
    (found : headscaleNodeToRename nodes gateway = .ok nodeId) :
    ∃ node ∈ nodes, node.id = some nodeId ∧
      ((∃ ip, knownExitNode gateway = some ip ∧ nodeIpv4 node = some ip) ∨
        headscaleNodeName node = gateway.tailscaleHostname ∨ headscaleNodeName node = gateway.name) := by
  unfold headscaleNodeToRename at found
  split at found
  · cases found
  · rename_i node search
    obtain ⟨member, matched⟩ := findGatewayHeadscaleNode_some search
    split at found
    · cases found
    · rename_i id identified
      cases found
      refine ⟨node, member, identified, ?_⟩
      rcases matched with address | named
      · exact .inl address
      · have names : headscaleNodeName node = gateway.tailscaleHostname ∨ headscaleNodeName node = gateway.name := by
          simpa using named
        exact .inr names

theorem headscaleNodeToDelete_some {nodes : List Node} {gateway : Gateway} {nodeId : Nat}
    (found : headscaleNodeToDelete nodes gateway = some nodeId) :
    ∃ node ∈ nodes, node.id = some nodeId ∧
      ((∃ ip, knownExitNode gateway = some ip ∧ nodeIpv4 node = some ip) ∨
        headscaleNodeName node = gateway.tailscaleHostname ∨ headscaleNodeName node = gateway.name ∨
        headscaleNodeName node = gateway.incusInstance) := by
  obtain ⟨node, search, identified⟩ := Option.bind_eq_some_iff.mp found
  obtain ⟨member, matched⟩ := findGatewayHeadscaleNode_some search
  refine ⟨node, member, identified, ?_⟩
  rcases matched with address | named
  · exact .inl address
  · exact .inr (mem_gatewayHeadscaleHostnames named)

theorem gateways_removeGateway (db : Db) (gatewayId : Nat) (gateway : Gateway) :
    (removeGateway db gatewayId gateway).gateways = db.gateways.delete gatewayId := by
  rw [removeGateway, deleteGateway, Incus.releaseUdpPort_eq, Incus.releaseVmIp_eq]

theorem gateways_completeJob (db : Db) (jobId : Option Nat) : (completeJob db jobId).gateways = db.gateways := by
  cases jobId <;> rfl

theorem executeDeleteGateway_ok {calls : DeletionCalls} {db after : Db} {gatewayId : Nat} {jobId : Option Nat}
    (deleted : executeDeleteGateway calls db gatewayId jobId = .ok after) :
    (db.gateways.get gatewayId = none ∧ after = completeJob db jobId) ∨
      ∃ gateway, db.gateways.get gatewayId = some gateway ∧
        after = completeJob (removeGateway db gatewayId gateway) jobId := by
  unfold executeDeleteGateway at deleted
  cases present : db.gateways.get gatewayId with
  | none =>
      rw [present] at deleted
      cases deleted
      exact .inl ⟨rfl, rfl⟩
  | some gateway =>
      simp only [present] at deleted
      split at deleted
      · cases deleted
      · cases deleted
      · cases deleted
      · split at deleted
        · cases deleted
        · cases deleted
          exact .inr ⟨gateway, rfl, rfl⟩

theorem gateways_executeDeleteGateway {calls : DeletionCalls} {db after : Db} {gatewayId : Nat} {jobId : Option Nat}
    {gateway : Gateway} (present : db.gateways.get gatewayId = some gateway)
    (deleted : executeDeleteGateway calls db gatewayId jobId = .ok after) :
    after.gateways = db.gateways.delete gatewayId := by
  rcases executeDeleteGateway_ok deleted with ⟨absent, -⟩ | ⟨row, -, rfl⟩
  · rw [present] at absent
    cases absent
  · rw [gateways_completeJob, gateways_removeGateway]

end DeepOrc.Services
