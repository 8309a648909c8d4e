import DeepOrc.Models

/-! # WireGuard peer addresses -/

namespace DeepOrc.Wg

open Models

def peerAddresses (db : Db) (gatewayId : Nat) : List Nat :=
  (db.peers.toList.filter fun entry => entry.2.gatewayId = gatewayId).map fun entry => entry.2.allowedIp

/-- An allocation of this gateway that no peer of it uses. -/
def reusableAllocation (gatewayId : Nat) (peerIps : List Nat) (row : IpAllocation) : Bool :=
  row.gatewayId = some gatewayId && row.peerId.isNone && !peerIps.contains row.address

/-- The hosts of the /24 after `.1`, which is the gateway's own. -/
def peerHosts (subnet : Nat) : List Nat := List.range' (subnet + 2) 253

def freePeerIp (gateway : Gateway) (used : List Nat) : Except PyError Nat :=
  match (peerHosts gateway.wgSubnet).find? fun ip => !used.contains ip with
  | some ip => .ok ip
  | none => .error (.value s!"No available peer IPs in subnet {gateway.wgSubnet}")

/-- The allocations are read without an order, so any reusable one may be met first. -/
def allocatePeerIp (db : Db) (gatewayId : Nat) (gateway : Gateway) (choice : Nat) : Except PyError (Db × Nat) :=
  let peerIps := peerAddresses db gatewayId
  match db.ipAllocations.anyRow (reusableAllocation gatewayId peerIps) choice with
  | some (_, row) => .ok (db, row.address)
  | none =>
      match freePeerIp gateway (peerIps ++ db.ipAllocations.toList.map fun entry => entry.2.address) with
      | .ok ip =>
          .ok ({ db with ipAllocations := db.ipAllocations.insert ⟨gateway.workerId, ip, some gatewayId, none⟩ }, ip)
      | .error error => .error error

def peerIpAllocation (db : Db) (gatewayId ip : Nat) : Option (Nat × IpAllocation) :=
  db.ipAllocations.toList.find? fun entry => entry.2.gatewayId = some gatewayId && entry.2.address = ip

def releasePeerIp (db : Db) (gatewayId ip : Nat) : Db :=
  match peerIpAllocation db gatewayId ip with
  | some (allocationId, _) => { db with ipAllocations := db.ipAllocations.delete allocationId }
  | none => db

theorem mem_peerAddresses {db : Db} {gatewayId ip : Nat} :
    ip ∈ peerAddresses db gatewayId ↔
      ∃ id row, db.peers.get id = some row ∧ row.gatewayId = gatewayId ∧ row.allowedIp = ip := by
  simp only [peerAddresses, List.mem_map, List.mem_filter, decide_eq_true_eq, Prod.exists, Lib.Table.mem_toList,
    and_assoc]

/-- The allocation step leaves every other table alone. -/
theorem allocatePeerIp_tables {db after : Db} {gatewayId choice ip : Nat} {gateway : Gateway}
    (allocated : allocatePeerIp db gatewayId gateway choice = .ok (after, ip)) :
    after = { db with ipAllocations := after.ipAllocations } := by
  unfold allocatePeerIp at allocated
  dsimp only at allocated
  split at allocated
  · cases allocated
    rfl
  · split at allocated
    · cases allocated
      rfl
    · cases allocated

theorem releasePeerIp_eq (db : Db) (gatewayId ip : Nat) : releasePeerIp db gatewayId ip =
    { db with ipAllocations := db.ipAllocations.deleteOption ((peerIpAllocation db gatewayId ip).map Prod.fst) } := by
  unfold releasePeerIp
  split <;> rename_i found <;> rw [found] <;> rfl

theorem freePeerIp_not_mem {gateway : Gateway} {used : List Nat} {ip : Nat} (found : freePeerIp gateway used = .ok ip) :
    ip ∉ used := by
  unfold freePeerIp at found
  split at found
  · rename_i candidate search
    cases found
    simpa using List.find?_some search
  · cases found

/-- Without an allocation to reuse, the address is new everywhere. -/
theorem allocatePeerIp_fresh {db after : Db} {gatewayId choice ip : Nat} {gateway : Gateway}
    (nothing : ∀ id row, db.ipAllocations.get id = some row → row.gatewayId ≠ some gatewayId)
    (allocated : allocatePeerIp db gatewayId gateway choice = .ok (after, ip)) :
    after = { db with
      ipAllocations := db.ipAllocations.insert ⟨gateway.workerId, ip, some gatewayId, none⟩ } ∧
        ∀ id row, db.ipAllocations.get id = some row → row.address ≠ ip := by
  have absent : db.ipAllocations.anyRow (reusableAllocation gatewayId (peerAddresses db gatewayId)) choice = none := by
    apply Lib.Table.anyRow_eq_none.mpr
    intro id row present
    simp [reusableAllocation, nothing id row present]
  unfold allocatePeerIp at allocated
  simp only [absent] at allocated
  split at allocated
  · rename_i found search
    cases allocated
    have unused := freePeerIp_not_mem search
    rw [List.mem_append, not_or] at unused
    refine ⟨rfl, ?_⟩
    intro id row present same
    exact unused.2 (List.mem_map.mpr ⟨(id, row), Lib.Table.mem_toList.mpr present, same⟩)
  · cases allocated

theorem get_releasePeerIp {db : Db} {gatewayId ip : Nat}
    (unique : ∀ first second one other, db.ipAllocations.get first = some one →
      db.ipAllocations.get second = some other → one.gatewayId = some gatewayId → other.gatewayId = some gatewayId →
        one.address = other.address → first = second) {id : Nat} {row : IpAllocation} :
    (releasePeerIp db gatewayId ip).ipAllocations.get id = some row ↔
      db.ipAllocations.get id = some row ∧ (row.gatewayId = some gatewayId && row.address = ip) = false := by
  rw [releasePeerIp_eq]
  refine Lib.Table.get_deleteOption_find
    (fun row : IpAllocation => row.gatewayId = some gatewayId && row.address = ip) ?_
  intro first second one other present present' same same'
  simp only [Bool.and_eq_true, decide_eq_true_eq] at same same'
  exact unique first second one other present present' same.1 same'.1 (same.2.trans same'.2.symm)

end DeepOrc.Wg
