import DeepOrc.Lan.Address
import DeepOrc.Lib.Pools

/-! # LAN addresses of the gateways in a peer group -/

namespace DeepOrc.Lan

open Models
open Lib (Table)

/-- The row of a group. -/
structure PeerGroup where
  name : String
  workerId : Nat
  lanSubnet : Subnet
  lanStartIp : Address
  lanGateway : String
  parentIface : Option String
deriving DecidableEq, Repr

/-- The columns of a gateway's row that only groups use. -/
structure LanColumns where
  peerGroupId : Option Nat
  lanIp : Option Address
  macvlanSlot : Option Int
deriving DecidableEq, Repr

def LanColumns.inGroup (columns : LanColumns) (groupId : Nat) : Bool := columns.peerGroupId = some groupId

/-- Which addresses and slots the database's columns hold; the sizes are the database's own. -/
structure ColumnSizes where
  takes : Address → Int → Bool
  octets : ∀ ip : Nat, takes (.v4 ip) (ip % 256 : Nat) = true

def ColumnSizes.unlimited : ColumnSizes := ⟨fun _ _ => true, fun _ => rfl⟩

/-- The database with its groups; `lan` holds the LAN columns of the gateways by their ids. -/
structure GroupDb where
  db : Db
  groups : Table PeerGroup
  lan : Nat → LanColumns
  sizes : ColumnSizes

/-- The start is read again from its column. -/
def validateLanStartIp (subnet : Subnet) (startIp : Address) : Except PyError Unit :=
  if !startIp.readable then
    .error (.value s!"\x27{String.ofList startIp.text}\x27 does not appear to be an IPv4 or IPv6 address")
  else if subnet.contains startIp then .ok ()
  else .error (.value s!"Start IP {String.ofList startIp.text} is not inside subnet {subnet.text}")

def groupGateways (s : GroupDb) (groupId : Nat) : List Nat :=
  (s.db.gateways.toList.map Prod.fst).filter fun id => (s.lan id).inGroup groupId

def usedLanIps (s : GroupDb) (groupId : Nat) : List Address :=
  (groupGateways s groupId).filterMap fun id => (s.lan id).lanIp

/-- The addresses the walk from the start tries while it is inside the network. -/
def lanCandidates (group : PeerGroup) : List Address :=
  (List.range (group.lanSubnet.broadcast + 1 - group.lanStartIp.value)).map group.lanStartIp.plus

def freeLanIps (s : GroupDb) (groupId : Nat) (group : PeerGroup) : List Address :=
  Lib.Pool.left (lanCandidates group) (usedLanIps s groupId)

/-- Past the last address there is, the step itself raises. -/
def lanExhausted (group : PeerGroup) : PyError :=
  (group.lanSubnet.overflow (group.lanSubnet.broadcast + 1)).getD
    (.value s!"No free LAN addresses left in group {group.name} ({group.lanSubnet.text})")

def allocateLanIp (s : GroupDb) (groupId : Nat) (group : PeerGroup) : Except PyError Address := do
  validateLanStartIp group.lanSubnet group.lanStartIp
  match (lanCandidates group).find? fun ip => !(usedLanIps s groupId).contains ip with
  | some ip => .ok ip
  | none => .error (lanExhausted group)

/-- The hosts from the start on. -/
def lanHosts (group : PeerGroup) : List Nat := group.lanSubnet.hosts.filter fun host => group.lanStartIp.value ≤ host

def remainingLanCapacity (s : GroupDb) (groupId : Nat) (group : PeerGroup) : Except PyError Nat := do
  validateLanStartIp group.lanSubnet group.lanStartIp
  .ok ((lanHosts group).length - (groupGateways s groupId).length)

theorem validateLanStartIp_ok {subnet : Subnet} {startIp : Address} {result : Unit}
    (valid : validateLanStartIp subnet startIp = .ok result) :
    startIp.readable = true ∧ subnet.contains startIp = true := by
  unfold validateLanStartIp at valid
  split_ifs at valid with unreadable inside
  exact ⟨by simpa using unreadable, inside⟩

theorem remainingLanCapacity_ok {s : GroupDb} {groupId capacity : Nat} {group : PeerGroup}
    (counted : remainingLanCapacity s groupId group = .ok capacity) :
    validateLanStartIp group.lanSubnet group.lanStartIp = .ok () ∧
      capacity = (lanHosts group).length - (groupGateways s groupId).length := by
  unfold remainingLanCapacity at counted
  cases valid : validateLanStartIp group.lanSubnet group.lanStartIp with
  | error =>
      rw [valid] at counted
      cases counted
  | ok =>
      rw [valid] at counted
      cases counted
      exact ⟨rfl, rfl⟩

/-- What the walk returns is the first of its candidates that no gateway holds. -/
theorem allocateLanIp_ok {s : GroupDb} {groupId : Nat} {group : PeerGroup} {ip : Address}
    (allocated : allocateLanIp s groupId group = .ok ip) :
    group.lanSubnet.contains group.lanStartIp = true ∧
      (lanCandidates group).find? (fun ip => !(usedLanIps s groupId).contains ip) = some ip := by
  unfold allocateLanIp at allocated
  cases valid : validateLanStartIp group.lanSubnet group.lanStartIp with
  | error error =>
      rw [valid] at allocated
      cases allocated
  | ok checked =>
      rw [valid] at allocated
      cases search : (lanCandidates group).find? fun ip => !(usedLanIps s groupId).contains ip with
      | none =>
          simp only [bind, Except.bind, search] at allocated
          cases allocated
      | some found =>
          simp only [bind, Except.bind, search] at allocated
          cases allocated
          exact ⟨(validateLanStartIp_ok valid).2, rfl⟩

theorem nodup_lanCandidates (group : PeerGroup) : (lanCandidates group).Nodup :=
  List.nodup_range.map group.lanStartIp.plus_injective

/-- No more hosts than candidates. -/
theorem length_lanHosts_le (group : PeerGroup) : (lanHosts group).length ≤ (lanCandidates group).length := by
  have distinct : (lanHosts group).Nodup := group.lanSubnet.nodup_hosts.filter _
  have covered : lanHosts group ⊆
      List.range' group.lanStartIp.value (group.lanSubnet.broadcast + 1 - group.lanStartIp.value) := by
    intro host member
    obtain ⟨listed, above⟩ := List.mem_filter.mp member
    have last := group.lanSubnet.le_broadcast_of_mem_hosts listed
    have later : group.lanStartIp.value ≤ host := of_decide_eq_true above
    rw [List.mem_range'_1]
    omega
  have few := (List.subperm_of_subset distinct covered).length_le
  rw [List.length_range'] at few
  rw [lanCandidates, List.length_map, List.length_range]
  exact few

/-- Where the count of hosts leaves room, the walk finds an address. -/
theorem allocateLanIp_of_capacity {s : GroupDb} {groupId : Nat} {group : PeerGroup}
    (valid : validateLanStartIp group.lanSubnet group.lanStartIp = .ok ())
    (room : (groupGateways s groupId).length < (lanHosts group).length) : ∃ ip, allocateLanIp s groupId group = .ok ip := by
  have fewer : (usedLanIps s groupId).length < (lanCandidates group).length := by
    have used : (usedLanIps s groupId).length ≤ (groupGateways s groupId).length := List.length_filterMap_le _ _
    have hosts := length_lanHosts_le group
    omega
  obtain ⟨candidate, free⟩ := List.exists_mem_of_ne_nil _ (Lib.Pool.left_ne_nil (nodup_lanCandidates group) fewer)
  obtain ⟨member, unused⟩ := Lib.Pool.mem_left.mp free
  unfold allocateLanIp
  rw [valid]
  cases search : (lanCandidates group).find? fun ip => !(usedLanIps s groupId).contains ip with
  | some ip => exact ⟨ip, by simp only [bind, Except.bind]⟩
  | none =>
      have taken := List.find?_eq_none.mp search candidate member
      simp [unused] at taken

end DeepOrc.Lan
