import DeepOrc.Lan.Groups
import DeepOrc.Services.PeerGroupService

/-!
# Rounds of allocating a LAN address and creating its gateway

The capacity counts gateways and the walk looks at addresses. Every gateway holds at most one address, so while
gateways are fewer than hosts the walk finds an address.
-/

namespace DeepOrc.Services

open Models Lan
open Lib (Table)

/-- The columns a creation stores. -/
def lanColumns (groupId : Nat) (lanIp : Address) : LanColumns := ⟨some groupId, some lanIp, lanIp.macvlanSlot.toOption⟩

/-- A new gateway of the group with the address, and no other change to a gateway. -/
structure GatewayAdded (groupId : Nat) (lanIp : Address) (id : Nat) (s t : GroupDb) : Prop where
  fresh : s.db.gateways.get id = none
  stored : (t.db.gateways.get id).isSome = true
  columns : t.lan id = lanColumns groupId lanIp
  gateways : ∀ other, other ≠ id → t.db.gateways.get other = s.db.gateways.get other
  lan : ∀ other, other ≠ id → t.lan other = s.lan other

/-- The addresses of some rounds, in their order. -/
inductive Rounds (groupId : Nat) (group : PeerGroup) : GroupDb → List Address → GroupDb → Prop where
  | done (s : GroupDb) : Rounds groupId group s [] s
  | round {s t u : GroupDb} {ip : Address} {id : Nat} {ips : List Address} (allocated : allocateLanIp s groupId group = .ok ip)
      (added : GatewayAdded groupId ip id s t) (rest : Rounds groupId group t ips u) : Rounds groupId group s (ip :: ips) u

/-! ### The gateways of a group and their addresses -/

theorem mem_groupGateways {s : GroupDb} {groupId id : Nat} :
    id ∈ groupGateways s groupId ↔ (s.db.gateways.get id).isSome = true ∧ (s.lan id).inGroup groupId = true := by
  have listed : id ∈ s.db.gateways.toList.map Prod.fst ↔ (s.db.gateways.get id).isSome = true := by
    rw [Option.isSome_iff_exists, List.mem_map]
    constructor
    · rintro ⟨entry, member, rfl⟩
      exact ⟨entry.2, Table.mem_toList.mp member⟩
    · rintro ⟨row, present⟩
      exact ⟨(id, row), Table.mem_toList.mpr present, rfl⟩
  rw [groupGateways, List.mem_filter, listed]

theorem nodup_groupGateways (s : GroupDb) (groupId : Nat) : (groupGateways s groupId).Nodup := by
  have distinct : (s.db.gateways.toList.map Prod.fst).Nodup := by
    rw [List.Nodup, List.pairwise_map]
    exact (Table.toList_sorted s.db.gateways).imp Nat.ne_of_lt
  exact distinct.filter _

theorem mem_usedLanIps {s : GroupDb} {groupId : Nat} {ip : Address} :
    ip ∈ usedLanIps s groupId ↔ ∃ id, id ∈ groupGateways s groupId ∧ (s.lan id).lanIp = some ip := by
  simp only [usedLanIps, List.mem_filterMap]

section Added

variable {groupId id : Nat} {ip : Address} {s t : GroupDb} (added : GatewayAdded groupId ip id s t)

include added

theorem mem_groupGateways_added (other : Nat) :
    other ∈ groupGateways t groupId ↔ other = id ∨ other ∈ groupGateways s groupId := by
  rw [mem_groupGateways, mem_groupGateways]
  by_cases same : other = id
  · subst same
    simp [added.stored, added.columns, lanColumns, LanColumns.inGroup]
  · simp [same, added.gateways other same, added.lan other same]

theorem notMem_groupGateways_added : id ∉ groupGateways s groupId := by
  rw [mem_groupGateways, added.fresh]
  simp

theorem length_groupGateways_added : (groupGateways t groupId).length = (groupGateways s groupId).length + 1 := by
  have distinct : (id :: groupGateways s groupId).Nodup :=
    List.nodup_cons.mpr ⟨notMem_groupGateways_added added, nodup_groupGateways s groupId⟩
  have same : (groupGateways t groupId).Perm (id :: groupGateways s groupId) := by
    rw [List.perm_ext_iff_of_nodup (nodup_groupGateways t groupId) distinct]
    intro other
    rw [mem_groupGateways_added added, List.mem_cons]
  rw [same.length_eq, List.length_cons]

theorem mem_usedLanIps_added (other : Address) :
    other ∈ usedLanIps t groupId ↔ other = ip ∨ other ∈ usedLanIps s groupId := by
  rw [mem_usedLanIps, mem_usedLanIps]
  constructor
  · intro used
    obtain ⟨holder, member, held⟩ := used
    by_cases new : holder = id
    · rw [new, added.columns] at held
      exact .inl (Option.some.inj held).symm
    · have older := ((mem_groupGateways_added added holder).mp member).resolve_left new
      rw [added.lan holder new] at held
      exact .inr ⟨holder, older, held⟩
  · rintro (rfl | ⟨holder, member, held⟩)
    · exact ⟨id, (mem_groupGateways_added added id).mpr (.inl rfl), by rw [added.columns, lanColumns]⟩
    · have other_id : holder ≠ id := by
        rintro rfl
        exact notMem_groupGateways_added added member
      exact ⟨holder, (mem_groupGateways_added added holder).mpr (.inr member), by rw [added.lan holder other_id, held]⟩

end Added

/-- What the walk returns. -/
theorem allocateLanIp_spec {s : GroupDb} {groupId : Nat} {ip : Address} {group : PeerGroup}
    (allocated : allocateLanIp s groupId group = .ok ip) :
    group.lanSubnet.contains ip = true ∧ group.lanStartIp.value ≤ ip.value ∧ ip ∉ usedLanIps s groupId := by
  obtain ⟨within, search⟩ := allocateLanIp_ok allocated
  have free := List.find?_some search
  obtain ⟨place, listed, rfl⟩ := List.mem_map.mp (List.mem_of_find?_eq_some search)
  have short := List.mem_range.mp listed
  refine ⟨Subnet.contains_plus within (by omega), ?_, by simpa using free⟩
  rw [group.lanStartIp.value_plus]
  omega

/-! ### Rounds -/

theorem length_groupGateways_rounds {groupId : Nat} {group : PeerGroup} {s t : GroupDb} {ips : List Address}
    (rounds : Rounds groupId group s ips t) :
    (groupGateways t groupId).length = (groupGateways s groupId).length + ips.length := by
  induction rounds with
  | done s => rfl
  | round allocated added rest ih =>
      rw [ih, length_groupGateways_added added, List.length_cons]
      omega

theorem rounds_addresses {groupId : Nat} {group : PeerGroup} {s t : GroupDb} {ips : List Address}
    (rounds : Rounds groupId group s ips t) :
    ips.Nodup ∧ ∀ ip ∈ ips, group.lanSubnet.contains ip = true ∧ group.lanStartIp.value ≤ ip.value ∧ ip ∉ usedLanIps s groupId := by
  induction rounds with
  | done s => exact ⟨List.nodup_nil, fun _ member => nomatch member⟩
  | @round s t u ip id ips allocated added rest ih =>
      obtain ⟨distinct, later⟩ := ih
      have unused : ∀ other ∈ ips, other ≠ ip ∧ other ∉ usedLanIps s groupId := by
        intro other member
        have free := (later other member).2.2
        rw [mem_usedLanIps_added added, not_or] at free
        exact free
      constructor
      · exact List.nodup_cons.mpr ⟨fun member => (unused ip member).1 rfl, distinct⟩
      · intro other member
        rcases List.mem_cons.mp member with rfl | member
        · exact allocateLanIp_spec allocated
        · obtain ⟨inside, above, -⟩ := later other member
          exact ⟨inside, above, (unused other member).2⟩

/-! ### Gateways that can be added -/

/-- The row inserted by itself. -/
theorem gatewayAdded_insert (s : GroupDb) (groupId : Nat) (lanIp : Address) (row : Gateway) :
    GatewayAdded groupId lanIp s.db.gateways.next s
      { s with
        db := { s.db with gateways := s.db.gateways.insert row }
        lan := Function.update s.lan s.db.gateways.next (lanColumns groupId lanIp) } where
  fresh := Table.get_next _
  stored := by
    show ((s.db.gateways.insert row).get s.db.gateways.next).isSome = true
    rw [Table.get_insert_self]
    rfl
  columns := Function.update_self ..
  gateways := fun _ other => Table.get_insert_of_ne other row
  lan := fun _ other => Function.update_of_ne other ..

/-- `create_gateway` with the columns of the group. -/
theorem GroupCreation.added {calls : CreationCalls} {groupId gatewayId jobId : Nat} {group : PeerGroup} {s t : GroupDb}
    (created : GroupCreation calls groupId group s t gatewayId jobId) :
    GatewayAdded groupId created.lanIp gatewayId s t where
  fresh := created.made.gateway_id ▸ Table.get_next _
  stored := by
    have present := Table.get_insert_self s.db.gateways (newGateway calls s.db.gateways.next group.workerId
      created.made.name created.made.vmIp created.made.port)
    rw [← created.gateways, ← created.made.gateway_id] at present
    rw [present]
    rfl
  columns := by
    rw [created.lan_new, lanColumns, created.read]
    rfl
  gateways := by
    intro other different
    rw [created.gateways]
    exact Table.get_insert_of_ne (created.made.gateway_id ▸ different) _
  lan := fun _ other => created.lan_old other

/-- The loop of `create_gateways`, when it gets through, makes its rounds. -/
theorem rounds_of_createEach {groupId : Nat} {group : PeerGroup} (count : Nat) :
    ∀ (calls : Nat → CreationCalls) (s t : GroupDb) (results : List (Nat × Nat)),
      createEach groupId group count calls s = (t, .ok results) →
        ∃ ips, ips.length = count ∧ Rounds groupId group s ips t := by
  induction count with
  | zero =>
      intro calls s t results ran
      simp only [createEach, Prod.mk.injEq] at ran
      exact ⟨[], rfl, ran.1 ▸ .done s⟩
  | succ count ih =>
      intro calls s t results ran
      simp only [createEach] at ran
      split at ran
      · cases ran
      · rename_i lanIp allocated
        split at ran
        · cases ran
        · rename_i next result done
          obtain ⟨gatewayId, jobId⟩ := result
          obtain ⟨created⟩ := createAt_ok allocated done
          generalize rest : createEach groupId group count (fun later => calls (later + 1)) next = outcome at ran
          obtain ⟨u, ended⟩ := outcome
          cases ended with
          | error error => cases ran
          | ok tail =>
              cases ran
              obtain ⟨ips, length, rounds⟩ := ih _ _ _ _ rest
              exact ⟨created.lanIp :: ips, by rw [List.length_cons, length], .round created.allocated created.added rounds⟩

/-! ### The capacity -/

structure CapacityKept (groupId : Nat) (group : PeerGroup) (s : GroupDb) (capacity k : Nat) : Prop where
  never_short : ∀ ips t, Rounds groupId group s ips t → ips.length < k → ∃ ip, allocateLanIp t groupId group = .ok ip
  served : ∃ ips t, ips.length = k ∧ Rounds groupId group s ips t
  /-- The service goes through all of them unless something else runs out. -/
  created : ∀ calls, (∀ index < k, Provided calls group.workerId s.db index) →
    ∃ t results ips, createEach groupId group k calls s = (t, .ok results) ∧ ips.length = k ∧ Rounds groupId group s ips t
  addresses : ∀ ips t, ips.length = k → Rounds groupId group s ips t →
    ips.Nodup ∧ (∀ ip ∈ ips, group.lanSubnet.contains ip = true ∧ group.lanStartIp.value ≤ ip.value ∧ ip ∉ usedLanIps s groupId) ∧
      remainingLanCapacity t groupId group = .ok (capacity - k)

/-- Every IPv4 address has its slot. -/
theorem slotted_v4 {group : PeerGroup} {start : Nat} (ipv4 : group.lanStartIp = .v4 start) (s : GroupDb) (groupId index : Nat) :
    Slotted s groupId group index := by
  intro lanIp free
  have candidate := (Lib.Pool.mem_left.mp (List.mem_of_getElem? free)).1
  obtain ⟨place, -, rfl⟩ := List.mem_map.mp candidate
  rw [ipv4, Address.plus_v4]
  exact ⟨_, Address.macvlanSlot_v4 _, s.sizes.octets _⟩

theorem remainingLanCapacity_valid {s : GroupDb} {groupId : Nat} {group : PeerGroup}
    (valid : validateLanStartIp group.lanSubnet group.lanStartIp = .ok ()) :
    remainingLanCapacity s groupId group = .ok ((lanHosts group).length - (groupGateways s groupId).length) := by
  rw [remainingLanCapacity, valid]
  rfl

theorem exists_rounds {groupId : Nat} {group : PeerGroup}
    (valid : validateLanStartIp group.lanSubnet group.lanStartIp = .ok ()) (k : Nat) :
    ∀ s : GroupDb, (groupGateways s groupId).length + k ≤ (lanHosts group).length →
      ∃ ips t, ips.length = k ∧ Rounds groupId group s ips t := by
  induction k with
  | zero =>
      intro s _
      exact ⟨[], s, rfl, .done s⟩
  | succ k ih =>
      intro s room
      have first : (groupGateways s groupId).length < (lanHosts group).length := by omega
      obtain ⟨ip, allocated⟩ := allocateLanIp_of_capacity valid first
      have row : Gateway := ⟨0, "", "", 0, 0, 0, "", "", .pending, none⟩
      have added := gatewayAdded_insert s groupId ip row
      have later := length_groupGateways_added added
      obtain ⟨ips, t, length, rounds⟩ := ih _ (by rw [later]; omega)
      exact ⟨ip :: ips, t, by rw [List.length_cons, length], .round allocated added rounds⟩

/-- For a group that was accepted, in whatever state its gateways are. -/
theorem lan_capacity_sound {taken : List String} {db : Db} {request : CreatePeerGroupRequest} {group : PeerGroup}
    (accepted : createGroup taken db request = .ok group) {start : Nat} (ipv4 : group.lanStartIp = .v4 start) (s : GroupDb)
    (groupId : Nat) :
    ∃ capacity, remainingLanCapacity s groupId group = .ok capacity ∧
      ∀ k ≤ capacity, CapacityKept groupId group s capacity k := by
  have valid : validateLanStartIp group.lanSubnet group.lanStartIp = .ok () :=
    accepted_start_valid accepted (by rw [ipv4]; rfl)
  refine ⟨_, remainingLanCapacity_valid valid, ?_⟩
  intro k enough
  by_cases none_asked : k = 0
  · subst none_asked
    refine ⟨fun _ _ _ short => absurd short (Nat.not_lt_zero _), ⟨[], s, rfl, .done s⟩, ?_, ?_⟩
    · intro calls _
      exact ⟨s, [], [], by simp only [createEach], rfl, .done s⟩
    · intro ips t length rounds
      obtain ⟨distinct, fine⟩ := rounds_addresses rounds
      have more := length_groupGateways_rounds rounds
      rw [remainingLanCapacity_valid valid, more, length]
      exact ⟨distinct, fine, rfl⟩
  have room : (groupGateways s groupId).length + k ≤ (lanHosts group).length := by omega
  refine ⟨?_, exists_rounds valid k s room, ?_, ?_⟩
  · intro ips t rounds short
    have more := length_groupGateways_rounds rounds
    exact allocateLanIp_of_capacity valid (by omega)
  · intro calls provided
    obtain ⟨results, ran⟩ := (createEach_ok_iff valid k calls s room).mpr fun index small =>
      ⟨provided index small, slotted_v4 ipv4 s groupId index⟩
    generalize whole : createEach groupId group k calls s = outcome at ran
    obtain ⟨t, ended⟩ := outcome
    replace ran : ended = .ok results := ran
    subst ran
    obtain ⟨ips, length, rounds⟩ := rounds_of_createEach k calls s t results whole
    exact ⟨t, results, ips, rfl, length, rounds⟩
  · intro ips t length rounds
    obtain ⟨distinct, fine⟩ := rounds_addresses rounds
    have more := length_groupGateways_rounds rounds
    refine ⟨distinct, fine, ?_⟩
    rw [remainingLanCapacity_valid valid, more, length, Nat.sub_add_eq]

def nearBroadcast : CreatePeerGroupRequest := ⟨" g1 ", 1, .v4 3232238858, some (.v4 ⟨3232238848, 28⟩), none, none⟩

/-- 192.168.13.10 to 192.168.13.14 in a /28. -/
theorem lan_capacity_sound_nearBroadcast :
    let group : PeerGroup := ⟨"g1", 1, .v4 ⟨3232238848, 28⟩, .v4 3232238858, "192.168.13.14", none⟩
    ∃ capacity, remainingLanCapacity onePortGroup 1 group = .ok capacity ∧
      ∀ k ≤ capacity, CapacityKept 1 group onePortGroup capacity k := by
  intro group
  have accepted : createGroup [] onePortGroup.db nearBroadcast = .ok group := by rfl
  exact lan_capacity_sound accepted rfl onePortGroup 1

end DeepOrc.Services
