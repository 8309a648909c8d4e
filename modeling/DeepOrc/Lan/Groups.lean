import DeepOrc.Lan.Ipam

/-! # Creating a peer group -/

namespace DeepOrc.Lan

open Lib.Text (given)
open Models

/-- `ip_network(f"{host}/{prefix}", strict=False)`; clearing host bits loses the scope. -/
def inferLanSubnet (startIp : Address) : Subnet :=
  match startIp with
  | .v4 ip => .v4 ⟨ip / 2 ^ 8 * 2 ^ 8, 24⟩
  | .v6 ip scope => .v6 ⟨ip / 2 ^ 104 * 2 ^ 104, 24⟩ (if ip % 2 ^ 104 = 0 then scope else none)

def hostBits (subnet : Subnet) : Nat :=
  match subnet with
  | .v4 network => network.address % network.size
  | .v6 network _ => network.address % network.size

/-- `ip_network(subnet)` -/
def strictNetwork (subnet : Subnet) : Except PyError Subnet :=
  if hostBits subnet = 0 then .ok subnet else .error (.value s!"{subnet.text} has host bits set")

def lastHost (subnet : Subnet) : Except PyError String :=
  match subnet.hosts.getLast? with
  | some host => .ok (String.ofList (subnet.address host).text)
  | none => .error (.value s!"No host addresses in subnet {subnet.text}")

def defaultLanGateway (subnet : Subnet) : Except PyError String :=
  let candidate := subnet.networkAddress + 254
  match subnet.overflow candidate with
  | some error => .error error
  | none =>
      if subnet.contains (subnet.address candidate) then .ok (String.ofList (subnet.address candidate).text)
      else lastHost subnet

structure CreatePeerGroupRequest where
  name : String
  workerId : Nat
  lanStartIp : Address
  lanSubnet : Option Subnet
  lanGateway : Option String
  parentIface : Option String

def strip (text : String) : String := String.ofList (Naming.strip text.toList)

def requestedSubnet (request : CreatePeerGroupRequest) : Except PyError Subnet :=
  match request.lanSubnet with
  | some subnet => strictNetwork subnet
  | none => .ok (inferLanSubnet request.lanStartIp)

def requestedGateway (request : CreatePeerGroupRequest) (subnet : Subnet) : Except PyError String :=
  match given request.lanGateway with
  | some gateway => .ok gateway
  | none => defaultLanGateway subnet

/-- `taken` are the names of the groups there are. -/
def createGroup (taken : List String) (db : Db) (request : CreatePeerGroupRequest) : Except PyError PeerGroup :=
  let name := strip request.name
  if name = "" then .error (.value "Group name is required")
  else if taken.contains name then .error (.value s!"Peer group {name} already exists")
  else if (db.workers.get request.workerId).isNone then .error (.value s!"Worker {request.workerId} not found")
  else do
    let lanSubnet ← requestedSubnet request
    validateLanStartIp lanSubnet request.lanStartIp
    let lanGateway ← requestedGateway request lanSubnet
    .ok ⟨name, request.workerId, lanSubnet, request.lanStartIp.strip, lanGateway, (given request.parentIface).map strip⟩

/-! ### What an accepted group looks like -/

theorem createGroup_parts {taken : List String} {db : Db} {request : CreatePeerGroupRequest} {group : PeerGroup}
    (accepted : createGroup taken db request = .ok group) :
    requestedSubnet request = .ok group.lanSubnet ∧ group.lanSubnet.contains request.lanStartIp = true ∧
      requestedGateway request group.lanSubnet = .ok group.lanGateway ∧ group.name = strip request.name ∧
      group.lanStartIp = request.lanStartIp.strip ∧ group.parentIface = (given request.parentIface).map strip := by
  unfold createGroup at accepted
  dsimp only at accepted
  split_ifs at accepted
  cases subnet : requestedSubnet request with
  | error error =>
      rw [subnet] at accepted
      cases accepted
  | ok lanSubnet =>
      rw [subnet] at accepted
      cases valid : validateLanStartIp lanSubnet request.lanStartIp with
      | error error => simp [bind, Except.bind, valid] at accepted
      | ok checked =>
          cases gateway : requestedGateway request lanSubnet with
          | error error => simp [bind, Except.bind, valid, gateway] at accepted
          | ok lanGateway =>
              simp only [bind, Except.bind, valid, gateway] at accepted
              cases accepted
              exact ⟨rfl, (validateLanStartIp_ok valid).2, gateway, rfl, rfl, rfl⟩

theorem accepted_start_inside {taken : List String} {db : Db} {request : CreatePeerGroupRequest} {group : PeerGroup}
    (accepted : createGroup taken db request = .ok group) : group.lanSubnet.contains group.lanStartIp = true := by
  obtain ⟨-, inside, -, -, start, -⟩ := createGroup_parts accepted
  rw [start, Subnet.contains_strip]
  exact inside

theorem accepted_start_valid {taken : List String} {db : Db} {request : CreatePeerGroupRequest} {group : PeerGroup}
    (accepted : createGroup taken db request = .ok group) (readable : group.lanStartIp.readable = true) :
    validateLanStartIp group.lanSubnet group.lanStartIp = .ok () := by
  rw [validateLanStartIp, readable, accepted_start_inside accepted]
  rfl

/-! ### The router of an accepted group -/

theorem defaultLanGateway_filled {subnet : Subnet} {text : String} (found : defaultLanGateway subnet = .ok text) :
    text ≠ "" := by
  unfold defaultLanGateway lastHost at found
  dsimp only at found
  split at found
  · cases found
  · split_ifs at found
    · rw [← Except.ok.inj found]
      exact (subnet.address _).ofList_text_ne_empty
    · split at found
      · rw [← Except.ok.inj found]
        exact (subnet.address _).ofList_text_ne_empty
      · cases found

theorem requestedGateway_filled {request : CreatePeerGroupRequest} {subnet : Subnet} {text : String}
    (requested : requestedGateway request subnet = .ok text) : text ≠ "" := by
  unfold requestedGateway at requested
  split at requested
  · rename_i gateway chosen
    cases requested
    exact Lib.Text.ne_empty_of_given chosen
  · exact defaultLanGateway_filled requested

theorem accepted_lanGateway {taken : List String} {db : Db} {request : CreatePeerGroupRequest} {group : PeerGroup}
    (accepted : createGroup taken db request = .ok group) : group.lanGateway ≠ "" :=
  requestedGateway_filled (createGroup_parts accepted).2.2.1

end DeepOrc.Lan
