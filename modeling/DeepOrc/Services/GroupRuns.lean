import DeepOrc.Services.LanRounds

/-!
# Runs of `create_gateways` on a group

Without deletions the gateways of a group hold the addresses from its start on, in the order they were created.
-/

namespace DeepOrc.Services

open Models Lan
open Lib (Table)
open Lib.Ipv4 (dotted)

/-- The first `n` addresses are the gateways', in this order. -/
def Filled (s : GroupDb) (groupId : Nat) (start : Address) (n : Nat) : Prop :=
  (groupGateways s groupId).map s.lan = (List.range n).map fun place => lanColumns groupId (start.plus place)

section Filled

variable {s : GroupDb} {groupId n : Nat} {start : Address} (filled : Filled s groupId start n)

include filled

theorem Filled.length : (groupGateways s groupId).length = n := by
  have same := congrArg List.length filled
  rwa [List.length_map, List.length_map, List.length_range] at same

theorem Filled.used : usedLanIps s groupId = (List.range n).map start.plus := by
  have columns : usedLanIps s groupId = ((groupGateways s groupId).map s.lan).filterMap LanColumns.lanIp := by
    rw [List.filterMap_map]
    rfl
  rw [columns, filled, List.filterMap_map]
  show (List.range n).filterMap (some ∘ start.plus) = _
  rw [List.filterMap_eq_map]

/-- A gateway of the group is one of them, at its place. -/
theorem Filled.place {id : Nat} (member : id ∈ groupGateways s groupId) :
    ∃ place < n, (groupGateways s groupId)[place]? = some id ∧ s.lan id = lanColumns groupId (start.plus place) := by
  obtain ⟨place, found⟩ := List.mem_iff_getElem?.mp member
  obtain ⟨inside, -⟩ := List.getElem?_eq_some_iff.mp found
  have short : place < n := filled.length ▸ inside
  have columns := congrArg (fun list => list[place]?) filled
  simp only [List.getElem?_map, found, List.getElem?_range short, Option.map_some] at columns
  exact ⟨place, short, found, Option.some.inj columns⟩

theorem Filled.holder {place : Nat} (short : place < n) :
    ∃ id ∈ groupGateways s groupId, s.lan id = lanColumns groupId (start.plus place) := by
  have listed : lanColumns groupId (start.plus place) ∈ (groupGateways s groupId).map s.lan := by
    rw [filled]
    exact List.mem_map.mpr ⟨place, List.mem_range.mpr short, rfl⟩
  obtain ⟨id, member, columns⟩ := List.mem_map.mp listed
  exact ⟨id, member, columns⟩

end Filled

theorem filled_none {s : GroupDb} {groupId : Nat} (fresh : groupGateways s groupId = []) (start : Address) :
    Filled s groupId start 0 := by
  rw [Filled, fresh]
  rfl

/-- The walk past the addresses in use. -/
theorem find_next (start : Address) (length n : Nat) :
    ((List.range length).map start.plus).find? (fun ip => !((List.range n).map start.plus).contains ip) =
      if n < length then some (start.plus n) else none := by
  have used : ∀ place, ((List.range n).map start.plus).contains (start.plus place) = decide (place < n) := by
    intro place
    rw [Bool.eq_iff_iff, List.contains_iff_mem, List.mem_map_of_injective start.plus_injective, List.mem_range,
      decide_eq_true_eq]
  have free : (fun ip => !((List.range n).map start.plus).contains ip) ∘ start.plus = fun place => !decide (place < n) :=
    funext fun place => congrArg not (used place)
  rw [List.find?_map, free]
  split
  · rename_i short
    have found : (List.range length).find? (fun place => !decide (place < n)) = some n := by
      rw [List.find?_range_eq_some]
      refine ⟨by simp, List.mem_range.mpr short, ?_⟩
      intro place before
      simp [before]
    rw [found]
    rfl
  · rename_i exhausted
    have none_ : (List.range length).find? (fun place => !decide (place < n)) = none := by
      refine List.find?_eq_none.mpr ?_
      intro place listed
      have short := List.mem_range.mp listed
      simp only [Bool.not_eq_true', decide_eq_false_iff_not, not_not]
      omega
    rw [none_]
    rfl

theorem Filled.allocateLanIp {s : GroupDb} {groupId n : Nat} {group : PeerGroup} {ip : Address}
    (filled : Filled s groupId group.lanStartIp n) (allocated : allocateLanIp s groupId group = .ok ip) :
    ip = group.lanStartIp.plus n := by
  obtain ⟨-, search⟩ := allocateLanIp_ok allocated
  rw [filled.used, lanCandidates, find_next] at search
  split_ifs at search
  exact (Option.some.inj search).symm

theorem Filled.created {s t : GroupDb} {groupId n gatewayId jobId : Nat} {group : PeerGroup} {calls : CreationCalls}
    (filled : Filled s groupId group.lanStartIp n) (created : GroupCreation calls groupId group s t gatewayId jobId) :
    Filled t groupId group.lanStartIp (n + 1) := by
  have older : ∀ id ∈ groupGateways s groupId, t.lan id = s.lan id := fun id member =>
    created.lan_old (created.older (List.mem_filter.mp member).1)
  have newest : t.lan gatewayId = lanColumns groupId (group.lanStartIp.plus n) := by
    rw [← filled.allocateLanIp created.allocated]
    exact created.added.columns
  rw [Filled, created.grouped, List.map_append, List.map_congr_left older, filled, List.range_succ, List.map_append,
    List.map_singleton, List.map_singleton, newest]

/-! ### The loop and its runs -/

theorem createEach_fills {groupId : Nat} {group : PeerGroup} (count : Nat) :
    ∀ (calls : Nat → CreationCalls) (s : GroupDb) (n : Nat), Filled s groupId group.lanStartIp n →
      ∃ m ≤ n + count, Filled (createEach groupId group count calls s).1 groupId group.lanStartIp m := by
  induction count with
  | zero =>
      intro calls s n filled
      exact ⟨n, Nat.le_refl n, by simpa only [createEach] using filled⟩
  | succ count ih =>
      intro calls s n filled
      simp only [createEach]
      split
      · exact ⟨n, Nat.le_add_right n _, filled⟩
      · rename_i lanIp allocated
        split
        · exact ⟨n, Nat.le_add_right n _, filled⟩
        · rename_i t result done
          obtain ⟨gatewayId, jobId⟩ := result
          obtain ⟨created⟩ := createAt_ok allocated done
          obtain ⟨m, few, filled⟩ := ih (fun later => calls (later + 1)) t (n + 1) (filled.created created)
          exact ⟨m, by omega, filled⟩

theorem createAt_groups {groupId : Nat} {group : PeerGroup} {calls : CreationCalls} {s t : GroupDb} {lanIp : Address}
    {result : Nat × Nat} (done : createAt groupId group calls s lanIp = .ok (t, result)) : t.groups = s.groups := by
  unfold createAt at done
  split at done
  · cases done
  · split at done
    · cases done
    · split_ifs at done
      cases done
      rfl

theorem createEach_groups {groupId : Nat} {group : PeerGroup} (count : Nat) :
    ∀ (calls : Nat → CreationCalls) (s : GroupDb), (createEach groupId group count calls s).1.groups = s.groups := by
  induction count with
  | zero =>
      intro calls s
      simp only [createEach]
  | succ count ih =>
      intro calls s
      simp only [createEach]
      split
      · rfl
      · split
        · rfl
        · rename_i t result done
          exact (ih _ t).trans (createAt_groups done)

theorem createGateways_groups (calls : Nat → CreationCalls) (s : GroupDb) (groupId count : Nat) :
    (createGateways calls s groupId count).1.groups = s.groups := by
  unfold createGateways
  split
  · rfl
  · exact createEach_groups count calls s

/-- Each call with its creations and its count. -/
abbrev Batch := (Nat → CreationCalls) × Nat

def afterBatches (groupId : Nat) (s : GroupDb) (batches : List Batch) : GroupDb :=
  batches.foldl (fun s batch => (createGateways batch.1 s groupId batch.2).1) s

/-- What holds after every call. -/
def FilledWithin (groupId : Nat) (group : PeerGroup) (s : GroupDb) : Prop :=
  s.groups.get groupId = some group ∧ ∃ n ≤ (lanHosts group).length, Filled s groupId group.lanStartIp n

theorem createGateways_fills {groupId count : Nat} {group : PeerGroup} {calls : Nat → CreationCalls} {s : GroupDb}
    (within : FilledWithin groupId group s) : FilledWithin groupId group (createGateways calls s groupId count).1 := by
  obtain ⟨stored, n, fits, filled⟩ := within
  refine ⟨by rw [createGateways_groups, stored], ?_⟩
  unfold createGateways
  split
  · exact ⟨n, fits, filled⟩
  · rename_i other checked
    obtain ⟨-, -, present, available, counted, enough⟩ := checkBatch_ok_iff.mp checked
    rw [stored] at present
    cases present
    have room := (remainingLanCapacity_ok counted).2
    rw [filled.length] at room
    obtain ⟨m, few, grown⟩ := createEach_fills count calls s n filled
    exact ⟨m, by omega, grown⟩

theorem afterBatches_fills {groupId : Nat} {group : PeerGroup} {s : GroupDb} (within : FilledWithin groupId group s)
    (batches : List Batch) : FilledWithin groupId group (afterBatches groupId s batches) := by
  induction batches generalizing s with
  | nil => exact within
  | cons batch batches ih => exact ih (createGateways_fills within)

/-! ### Usable addresses -/

/-- No gateway of the group is given an address that is not a host's or is the router's. -/
def LanIpsUsable (s : GroupDb) (groupId : Nat) (network : Lib.Ipv4.Network) (lanGateway : String) : Prop :=
  ∀ id ∈ groupGateways s groupId, ∀ lanIp, (s.lan id).lanIp = some lanIp →
    lanIp ≠ .v4 network.first ∧ lanIp ≠ .v4 network.broadcast ∧ String.ofList lanIp.text ≠ lanGateway

theorem Filled.lanIpsUsable_iff {s : GroupDb} {groupId n start : Nat} {network : Lib.Ipv4.Network} {lanGateway : String}
    (filled : Filled s groupId (.v4 start) n) :
    LanIpsUsable s groupId network lanGateway ↔ ∀ ip ∈ List.range' start n,
      ip ≠ network.first ∧ ip ≠ network.broadcast ∧ dotted ip ≠ lanGateway := by
  have addresses : ∀ lanIp, lanIp ∈ usedLanIps s groupId ↔ ∃ ip ∈ List.range' start n, lanIp = .v4 ip := by
    intro lanIp
    simp only [filled.used, List.mem_map, List.mem_range, List.mem_range'_1, Address.plus_v4]
    constructor
    · rintro ⟨place, short, rfl⟩
      exact ⟨start + place, by omega, rfl⟩
    · rintro ⟨ip, within, rfl⟩
      exact ⟨ip - start, by omega, by rw [Nat.add_sub_of_le within.1]⟩
  have text : ∀ ip, String.ofList (Address.v4 ip).text = dotted ip := fun ip => String.ofList_toList
  constructor
  · intro usable ip within
    obtain ⟨id, member, held⟩ := mem_usedLanIps.mp ((addresses (.v4 ip)).mpr ⟨ip, within, rfl⟩)
    obtain ⟨first, last, router⟩ := usable id member _ held
    rw [text] at router
    exact ⟨fun same => first (by rw [same]), fun same => last (by rw [same]), router⟩
  · intro usable id member lanIp held
    obtain ⟨ip, within, rfl⟩ := (addresses lanIp).mp (mem_usedLanIps.mpr ⟨id, member, held⟩)
    obtain ⟨first, last, router⟩ := usable ip within
    rw [text]
    exact ⟨fun same => first (Address.v4.inj same), fun same => last (Address.v4.inj same), router⟩

section Version4

variable {group : PeerGroup} {network : Lib.Ipv4.Network} {start : Nat} (subnet : group.lanSubnet = .v4 network)
  (starting : group.lanStartIp = .v4 start)

include subnet starting

theorem mem_lanHosts (wide : network.bits ≤ 30) {host : Nat} (member : host ∈ lanHosts group) :
    start ≤ host ∧ host < network.broadcast := by
  rw [lanHosts, subnet, starting] at member
  obtain ⟨listed, above⟩ := List.mem_filter.mp member
  have room := network.size_pos
  rw [Subnet.hosts, Lib.Ipv4.Network.hosts, if_neg (by omega), List.mem_range'_1] at listed
  unfold Lib.Ipv4.Network.broadcast
  exact ⟨of_decide_eq_true above, by omega⟩

/-- The hosts from the start on end below the broadcast address. -/
theorem below_broadcast (wide : network.bits ≤ 30) {n : Nat} (fits : n ≤ (lanHosts group).length) {ip : Nat}
    (member : ip ∈ List.range' start n) : ip ≠ network.broadcast := by
  have distinct : (lanHosts group).Nodup := group.lanSubnet.nodup_hosts.filter _
  have covered : lanHosts group ⊆ List.range' start (network.broadcast - start) := by
    intro host listed
    obtain ⟨above, below⟩ := mem_lanHosts subnet starting wide listed
    rw [List.mem_range'_1]
    omega
  have few := (List.subperm_of_subset distinct covered).length_le
  rw [List.length_range'] at few
  rw [List.mem_range'_1] at member
  omega

end Version4

/-- From a group without gateways, after any calls of `create_gateways`. -/
theorem lan_ips_usable_iff {taken : List String} {db : Db} {request : CreatePeerGroupRequest} {group : PeerGroup}
    (accepted : createGroup taken db request = .ok group) {network : Lib.Ipv4.Network} {start : Nat}
    (subnet : group.lanSubnet = .v4 network) (starting : group.lanStartIp = .v4 start) (wide : network.bits ≤ 30)
    {s : GroupDb} {groupId : Nat} (stored : s.groups.get groupId = some group) (fresh : groupGateways s groupId = [])
    (batches : List Batch) :
    let t := afterBatches groupId s batches
    let n := (groupGateways t groupId).length
    LanIpsUsable t groupId network group.lanGateway ↔
      (n = 0 ∨ start ≠ network.first) ∧ ∀ ip ∈ List.range' start n, dotted ip ≠ group.lanGateway := by
  intro t n
  have inside := accepted_start_inside accepted
  rw [subnet, starting] at inside
  have above := Lib.Ipv4.Network.contains_iff.mp inside
  have within : FilledWithin groupId group s := ⟨stored, 0, Nat.zero_le _, filled_none fresh _⟩
  obtain ⟨-, m, fits, filled⟩ := afterBatches_fills within batches
  have count : n = m := filled.length
  rw [starting] at filled
  rw [filled.lanIpsUsable_iff, count]
  constructor
  · intro usable
    refine ⟨?_, fun ip member => (usable ip member).2.2⟩
    by_contra network
    rw [not_or, not_not] at network
    exact (usable start (by rw [List.mem_range'_1]; omega)).1 network.2
  · rintro ⟨network, gateway⟩ ip member
    refine ⟨?_, below_broadcast subnet starting wide fits member, gateway ip member⟩
    rw [List.mem_range'_1] at member
    omega

/-- In 192.168.13.0/24, with the router that is inferred. -/
def groupAt (lanStartIp : Nat) : PeerGroup := ⟨"g", 1, .v4 ⟨3232238848, 24⟩, .v4 lanStartIp, "192.168.13.254", none⟩

def startingAt (lanStartIp : Nat) : GroupDb := { onePortGroup with groups := Table.empty.insert (groupAt lanStartIp) }

def requestAt (lanStartIp : Nat) : CreatePeerGroupRequest := ⟨"g", 1, .v4 lanStartIp, none, none, none⟩

/-- From 192.168.13.100 on, with the network and the router inferred. -/
theorem lan_ips_usable_iff_inferred :
    let t := afterBatches 1 (startingAt 3232238948) [(granted, 1)]
    let n := (groupGateways t 1).length
    LanIpsUsable t 1 ⟨3232238848, 24⟩ "192.168.13.254" ↔
      (n = 0 ∨ 3232238948 ≠ Lib.Ipv4.Network.first ⟨3232238848, 24⟩) ∧
        ∀ ip ∈ List.range' 3232238948 n, dotted ip ≠ "192.168.13.254" := by
  have accepted : createGroup [] onePortGroup.db (requestAt 3232238948) = .ok (groupAt 3232238948) := by rfl
  exact lan_ips_usable_iff accepted rfl rfl (by decide) rfl rfl [(granted, 1)]

/-- The start may be the network's own address, or the router that is inferred with it. -/
theorem network_and_router_given_out :
    (createGroup [] onePortGroup.db (requestAt 3232238848)).isOk = true ∧
      ¬LanIpsUsable (afterBatches 1 (startingAt 3232238848) [(granted, 1)]) 1 ⟨3232238848, 24⟩ "192.168.13.254" ∧
    (createGroup [] onePortGroup.db (requestAt 3232239102)).isOk = true ∧
      ¬LanIpsUsable (afterBatches 1 (startingAt 3232239102) [(granted, 1)]) 1 ⟨3232238848, 24⟩ "192.168.13.254" := by
  have ran : ∀ start ∈ [3232238848, 3232239102],
      1 ∈ groupGateways (afterBatches 1 (startingAt start) [(granted, 1)]) 1 ∧
        ((afterBatches 1 (startingAt start) [(granted, 1)]).lan 1).lanIp = some (.v4 start) := by
    decide +kernel
  refine ⟨rfl, ?_, rfl, ?_⟩
  · obtain ⟨member, held⟩ := ran 3232238848 (by decide)
    intro usable
    exact (usable 1 member _ held).1 rfl
  · obtain ⟨member, held⟩ := ran 3232239102 (by decide)
    intro usable
    exact (usable 1 member _ held).2.2 rfl

end DeepOrc.Services
