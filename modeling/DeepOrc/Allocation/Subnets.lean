import DeepOrc.Allocation.Operations
import DeepOrc.Wg.Routes

/-!
# WireGuard subnets of gateways alive together

A subnet is a function of the gateway's id modulo 253. The ids of a run only grow, so two gateways alive together
may have ids that agree modulo 253.
-/

namespace DeepOrc.Allocation

open Models Repositories Services
open Lib (Table Reaches)

/-- The uplink routes exported for any two gateways have no address in common. -/
def SubnetsDisjoint (db : Db) : Prop :=
  ∀ first second one other, db.gateways.get first = some one → db.gateways.get second = some other → first ≠ second →
    Wg.Disjoint (Wg.ipv4AllowedIpsBackhaulUplink one.wgSubnet) (Wg.ipv4AllowedIpsBackhaulUplink other.wgSubnet)

/-- No gateway alive has the residue of the id a creation is about to get. -/
def FreshOctet (db : Db) : Operation → Prop
  | .createGateway _ _ _ => ∀ id row, db.gateways.get id = some row → id % 253 ≠ db.gateways.next % 253
  | _ => True

def SubnetsById (base : Nat) (db : Db) : Prop :=
  ∀ id row, db.gateways.get id = some row → row.wgSubnet = allocateWgSubnet base id

theorem disjoint_allocated_iff {base first second : Nat} :
    Wg.Disjoint (Wg.ipv4AllowedIpsBackhaulUplink (allocateWgSubnet base first))
      (Wg.ipv4AllowedIpsBackhaulUplink (allocateWgSubnet base second)) ↔ first % 253 ≠ second % 253 := by
  rw [Wg.disjoint_uplinks_iff, allocateWgSubnet, allocateWgSubnet]
  omega

theorem subnetsDisjoint_iff {base : Nat} {db : Db} (byId : SubnetsById base db) :
    SubnetsDisjoint db ↔ ∀ first second one other, db.gateways.get first = some one →
      db.gateways.get second = some other → first ≠ second → first % 253 ≠ second % 253 := by
  constructor
  · intro apart first second one other present present' different
    have disjoint := apart first second one other present present' different
    rw [byId first one present, byId second other present'] at disjoint
    exact disjoint_allocated_iff.mp disjoint
  · intro apart first second one other present present' different
    rw [byId first one present, byId second other present']
    exact disjoint_allocated_iff.mpr (apart first second one other present present' different)

/-! ### What an operation does to the gateways -/

/-- The gateways after an operation: one more, one less, or the same with another status. -/
inductive GatewayChange (base : Nat) (db after : Db) : Operation → Prop
  | created {now : Nat} {preauth : Except PyError Unit} {request : CreateGatewayRequest} {row : Gateway}
      (subnet : row.wgSubnet = allocateWgSubnet base db.gateways.next)
      (inserted : after.gateways = db.gateways.insert row) :
      GatewayChange base db after (.createGateway now preauth request)
  | deleted {operation : Operation} (gatewayId : Nat) (removed : after.gateways = db.gateways.delete gatewayId) :
      GatewayChange base db after operation
  | same {operation : Operation} (unchanged : after.gateways = db.gateways) : GatewayChange base db after operation
  | status {operation : Operation} (gatewayId : Nat) (status : GatewayStatus) (error : Option String)
      (updated : after = updateGatewayStatus db gatewayId status error) : GatewayChange base db after operation

theorem gatewayChange {base : Nat} {db after : Db} {operation : Operation}
    (done : operation.perform base db = some after) : GatewayChange base db after operation := by
  cases operation with
  | createGateway now preauth request =>
      obtain ⟨gatewayId, jobId, ⟨made⟩⟩ := created_of_perform done
      exact .created (congrArg (allocateWgSubnet base) made.gateway_id) made.gateways
  | executeDeleteGateway calls gatewayId jobId =>
      rcases deleted_of_perform done with ⟨-, rfl⟩ | ⟨gateway, -, rfl⟩
      · exact .same (gateways_completeJob db jobId)
      · refine .deleted gatewayId ?_
        rw [gateways_completeJob, gateways_removeGateway]
  | createPeer calls gatewayId name =>
      have tables := createPeer_tables calls db gatewayId name
      rw [toOption_some done] at tables
      exact .same tables.1
  | deletePeer peerId =>
      obtain ⟨peer, -, rfl⟩ := peerDeleted_of_perform done
      refine .same ?_
      dsimp only
      rw [Wg.releasePeerIp_eq]
  | setGatewayStatus gatewayId status error =>
      cases done
      exact .status gatewayId status error rfl

theorem subnetsById_perform {base : Nat} {db after : Db} {operation : Operation} (byId : SubnetsById base db)
    (done : operation.perform base db = some after) : SubnetsById base after := by
  intro id row present
  cases gatewayChange done with
  | @created _ _ _ made subnet inserted =>
      rw [inserted, Table.get_insert] at present
      split at present
      · rename_i new
        cases present
        rw [new, subnet]
      · exact byId id row present
  | deleted gatewayId removed =>
      rw [removed] at present
      exact byId id row (Table.get_delete_some present).2
  | same unchanged =>
      rw [unchanged] at present
      exact byId id row present
  | status gatewayId status error updated =>
      rw [updated] at present
      obtain ⟨before, found, rfl⟩ := Table.get_modify_some present
      have subnet := byId id before found
      split <;> exact subnet

/-- A gateway alive after an operation was alive before it or is the one just created. -/
theorem alive_before_or_created {base : Nat} {db after : Db} {operation : Operation}
    (done : operation.perform base db = some after) {id : Nat} {row : Gateway}
    (present : after.gateways.get id = some row) :
    (∃ before, db.gateways.get id = some before) ∨
      id = db.gateways.next ∧ ∃ now preauth request, operation = .createGateway now preauth request := by
  cases gatewayChange done with
  | @created now preauth request made subnet inserted =>
      rw [inserted, Table.get_insert] at present
      split at present
      · rename_i new
        exact .inr ⟨new, now, preauth, request, rfl⟩
      · exact .inl ⟨row, present⟩
  | deleted gatewayId removed =>
      rw [removed] at present
      exact .inl ⟨row, (Table.get_delete_some present).2⟩
  | same unchanged =>
      rw [unchanged] at present
      exact .inl ⟨row, present⟩
  | status gatewayId status error updated =>
      rw [updated] at present
      obtain ⟨before, found, -⟩ := Table.get_modify_some present
      exact .inl ⟨before, found⟩

theorem subnetsDisjoint_perform {base : Nat} {db after : Db} {operation : Operation} (byId : SubnetsById base db)
    (apart : SubnetsDisjoint db) (fresh : FreshOctet db operation) (done : operation.perform base db = some after) :
    SubnetsDisjoint after := by
  rw [subnetsDisjoint_iff (subnetsById_perform byId done)]
  intro first second one other present present' different
  rcases alive_before_or_created done present with ⟨before, old⟩ | ⟨new, created⟩
  · rcases alive_before_or_created done present' with ⟨before', old'⟩ | ⟨new', now, preauth, request, rfl⟩
    · exact (subnetsDisjoint_iff byId).mp apart first second before before' old old' different
    · rw [new']
      exact fresh first before old
  · rcases alive_before_or_created done present' with ⟨before', old'⟩ | ⟨new', -⟩
    · obtain ⟨now, preauth, request, rfl⟩ := created
      rw [new]
      exact (fresh second before' old').symm
    · exact absurd (new.trans new'.symm) different

/-- The other way round: a creation whose residue is taken makes two subnets meet. -/
theorem freshOctet_of_disjoint {base now : Nat} {preauth : Except PyError Unit} {request : CreateGatewayRequest}
    {db after : Db} (byId : SubnetsById base db) (apart : SubnetsDisjoint after)
    (done : (Operation.createGateway now preauth request).perform base db = some after) :
    FreshOctet db (.createGateway now preauth request) := by
  intro id row present
  obtain ⟨gatewayId, jobId, ⟨made⟩⟩ := created_of_perform done
  have older := Table.lt_next_of_get present
  have kept : after.gateways.get id = some row := by
    rw [made.gateways, Table.get_insert_of_ne (Nat.ne_of_lt older)]
    exact present
  have added := Table.get_insert_self db.gateways
    (newGateway (Operation.creationCalls base now preauth) gatewayId made.workerId made.name made.vmIp made.udpPort)
  rw [← made.gateways] at added
  exact (subnetsDisjoint_iff (subnetsById_perform byId done)).mp apart id _ row _ kept added (Nat.ne_of_lt older)

/-- Subnets stay apart while every new gateway's id has a residue that no gateway alive has, and no longer. -/
theorem subnets_disjoint_with_fresh_octets {base : Nat} {start db : Db} (unused : Unused start)
    (reached : Reaches (Operation.perform base) FreshOctet start db) :
    SubnetsDisjoint db ∧ ∀ now preauth request after,
      (Operation.createGateway now preauth request).perform base db = some after →
        (SubnetsDisjoint after ↔ FreshOctet db (.createGateway now preauth request)) := by
  have kept : SubnetsById base db ∧ SubnetsDisjoint db := by
    induction reached with
    | refl =>
        constructor
        · intro id row present
          rw [unused.gateways] at present
          cases present
        · intro first second one other present
          rw [unused.gateways] at present
          cases present
    | tail _ next earlier =>
        obtain ⟨operation, fresh, done⟩ := next
        exact ⟨subnetsById_perform earlier.1 done, subnetsDisjoint_perform earlier.1 earlier.2 fresh done⟩
  refine ⟨kept.2, ?_⟩
  intro now preauth request after done
  exact ⟨fun apart => freshOctet_of_disjoint kept.1 apart done, fun fresh =>
    subnetsDisjoint_perform kept.1 kept.2 fresh done⟩

/-! ### 253 ids later -/

def resident : Gateway := newGateway (Operation.creationCalls 2624 0 (.ok ())) 1 1 "gw-000" 168427530 51820

/-- One gateway, with id 1, and `next` the id of the next one. -/
structure Parked (next : Nat) (db : Db) : Prop where
  next : db.gateways.next = next
  worker : db.workers.get 1 = some poolWorker
  resident : db.gateways.get 1 = some resident
  alone : ∀ id row, db.gateways.get id = some row → id = 1
  addresses : ∀ id row, db.ipAllocations.get id = some row → row.workerId = 1 ∧ row.address = 168427530

def settle : Operation := .createGateway 0 (.ok ()) ⟨some "gw-000", some 51820, some 1⟩

def visit : Operation := .createGateway 0 (.ok ()) ⟨some "spare", some 51821, some 1⟩

def leave (gatewayId : Nat) : Operation := .executeDeleteGateway ⟨.ok (), .ok ()⟩ gatewayId none

theorem settled : ∃ db, settle.perform 2624 oneWorkerDb = some db ∧ Parked 2 db := by
  refine ⟨_, rfl, rfl, rfl, rfl, ?_, ?_⟩
  · intro id row present
    have stored : (oneWorkerDb.gateways.insert resident).get id = some row := present
    rw [Table.get_insert] at stored
    split at stored
    · rename_i new
      exact new
    · cases stored
  · intro id row present
    have stored : (oneWorkerDb.ipAllocations.insert ⟨1, 168427530, none, none⟩).get id = some row := present
    rw [Table.get_insert] at stored
    split at stored
    · cases stored
      exact ⟨rfl, rfl⟩
    · cases stored

/-- What the visitor's creation leaves: the second gateway and its address. -/
theorem visit_performs {next : Nat} {db : Db} (parked : Parked next db) :
    ∃ vmIp ≠ 168427530, ∃ after, visit.perform 2624 db = some after ∧ after.workers = db.workers ∧
      after.gateways = db.gateways.insert
        (newGateway (Operation.creationCalls 2624 0 (.ok ())) next 1 "spare" vmIp 51821) ∧
      after.ipAllocations = db.ipAllocations.insert ⟨1, vmIp, none, none⟩ := by
  have onlyResident : ∀ id row, db.gateways.get id = some row → row = resident := by
    intro id row present
    have first := parked.alone id row present
    subst first
    exact Option.some.inj (present.symm.trans parked.resident)
  have unused : getByName db "spare" = none := by
    refine List.find?_eq_none.mpr ?_
    rintro ⟨id, row⟩ member
    rw [onlyResident id row (Table.mem_toList.mp member)]
    exact of_decide_eq_false rfl
  have used : ∀ ip ∈ Incus.gatewayVmIps db 1 ++ Incus.allocatedAddresses db 1, ip = 168427530 := by
    intro ip member
    rcases List.mem_append.mp member with taken | taken
    · obtain ⟨id, row, present, -, rfl⟩ := Incus.mem_gatewayVmIps.mp taken
      rw [onlyResident id row present]
      rfl
    · obtain ⟨id, row, present, -, rfl⟩ := Incus.mem_allocatedAddresses.mp taken
      exact (parked.addresses id row present).2
  have free : 168427531 ∉ Incus.gatewayVmIps db 1 ++ Incus.allocatedAddresses db 1 := by
    intro member
    exact absurd (used _ member) (by decide)
  obtain ⟨vmIp, found⟩ : ∃ vmIp, Incus.freeVmIp poolWorker _ = .ok vmIp :=
    Incus.freeVmIp_of_unused (by decide) (by decide) free
  have different : vmIp ≠ 168427530 := by
    rintro rfl
    have residentUses : 168427530 ∈ Incus.gatewayVmIps db 1 :=
      Incus.mem_gatewayVmIps.mpr ⟨1, resident, parked.resident, rfl, rfl⟩
    exact Incus.freeVmIp_not_mem found (List.mem_append_left _ residentUses)
  have port : 51821 ∉ Incus.gatewayUdpPorts db 1 := by
    intro member
    obtain ⟨id, row, present, -, same⟩ := Incus.mem_gatewayUdpPorts.mp member
    rw [onlyResident id row present] at same
    cases same
  have resolved : resolveWorkerForGateway db 0 (some 1) = .ok (1, poolWorker) := by
    simp only [resolveWorkerForGateway, parked.worker]
    rfl
  have planned : createGateway (Operation.creationCalls 2624 0 (.ok ())) ⟨some "spare", some 51821, some 1⟩ db =
      insertGateway _ _ := createGateway_of_checks rfl unused rfl resolved found rfl
  have created := planned.trans (insertGateway_of_free port)
  refine ⟨vmIp, different, ?_⟩
  simp only [visit, Operation.perform, created]
  refine ⟨_, rfl, rfl, ?_, rfl⟩
  rw [← parked.next]
  rfl

/-- A visitor comes and goes, and only the counter shows it. -/
theorem visited {next : Nat} {db : Db} (parked : Parked next db) :
    ∃ middle after, visit.perform 2624 db = some middle ∧ (leave next).perform 2624 middle = some after ∧
      Parked (next + 1) after := by
  obtain ⟨vmIp, different, middle, came, workers, gateways, allocations⟩ := visit_performs parked
  have later : 1 < next := by
    have known := Table.lt_next_of_get parked.resident
    rw [parked.next] at known
    exact known
  let row := newGateway (Operation.creationCalls 2624 0 (.ok ())) next 1 "spare" vmIp 51821
  have present : middle.gateways.get next = some row := by
    rw [gateways, Table.get_insert, if_pos parked.next.symm]
  have left : (leave next).perform 2624 middle = some (removeGateway middle next row) := by
    simp only [leave, Operation.perform, executeDeleteGateway, present]
    rw [show middle.workers.get row.workerId = some poolWorker by rw [workers]; exact parked.worker]
    rfl
  have removed : (removeGateway middle next row).gateways = middle.gateways.delete next :=
    gateways_removeGateway middle next row
  refine ⟨middle, _, came, left, ?_, ?_, ?_, ?_, ?_⟩
  · rw [removed, gateways]
    exact congrArg (· + 1) parked.next
  · rw [removeGateway, Incus.releaseUdpPort_eq, Incus.releaseVmIp_eq]
    exact (congrArg (fun table => table.get 1) workers).trans parked.worker
  · rw [removed, Table.get_delete_of_ne (Nat.ne_of_lt later), gateways,
      Table.get_insert_of_ne (by rw [parked.next]; exact Nat.ne_of_lt later)]
    exact parked.resident
  · intro id other found
    rw [removed] at found
    obtain ⟨another, found⟩ := Table.get_delete_some found
    rw [gateways, Table.get_insert_of_ne (by rw [parked.next]; exact another)] at found
    exact parked.alone id other found
  · intro id other found
    rw [removeGateway, Incus.releaseUdpPort_eq, Incus.releaseVmIp_eq] at found
    obtain ⟨before, kept, rfl⟩ := Option.map_eq_some_iff.mp found
    have unique : ∀ first second one other, middle.ipAllocations.get first = some one →
        middle.ipAllocations.get second = some other → (one.workerId = 1 && one.address = vmIp) = true →
        (other.workerId = 1 && other.address = vmIp) = true → first = second := by
      have newest : ∀ id one, middle.ipAllocations.get id = some one → (one.workerId = 1 && one.address = vmIp) = true →
          id = db.ipAllocations.next := by
        intro id one stored matching
        rw [allocations, Table.get_insert] at stored
        split at stored
        · rename_i new
          exact new
        · simp [(parked.addresses id one stored).2, Ne.symm different] at matching
      intro first second one other stored stored' matching matching'
      exact (newest first one stored matching).trans (newest second other stored' matching').symm
    obtain ⟨stored, unmatched⟩ := (Table.get_deleteOption_find _ unique).mp kept
    rw [allocations, Table.get_insert] at stored
    have old : before.workerId = 1 ∧ before.address = 168427530 := by
      split at stored
      · cases stored
        simp at unmatched
      · exact parked.addresses id before stored
    unfold IpAllocation.forgetGateway
    split <;> exact old

theorem parked_later (count : Nat) :
    ∃ db, Reaches (Operation.perform 2624) (fun _ _ => True) oneWorkerDb db ∧
      Parked (count + 2) db := by
  induction count with
  | zero =>
      obtain ⟨db, done, parked⟩ := settled
      exact ⟨db, Reaches.tail .refl trivial done, parked⟩
  | succ count earlier =>
      obtain ⟨db, reached, parked⟩ := earlier
      obtain ⟨middle, after, came, left, parked'⟩ := visited parked
      exact ⟨after, (reached.tail trivial came).tail trivial left, parked'⟩

/-- After 252 short-lived gateways the next one gets the subnet of the first, which is still there. -/
theorem wg_subnet_shared :
    ∃ db, Reaches (Operation.perform 2624) (fun _ _ => True) oneWorkerDb db ∧
      ¬ SubnetsDisjoint db := by
  obtain ⟨db, reached, parked⟩ := parked_later 252
  have visitor := visit_performs parked
  obtain ⟨vmIp, -, after, came, -, gateways, -⟩ := visitor
  refine ⟨after, reached.tail trivial came, ?_⟩
  intro apart
  have first : after.gateways.get 1 = some resident := by
    rw [gateways, Table.get_insert_of_ne (by rw [parked.next]; decide)]
    exact parked.resident
  have second := Table.get_insert_self db.gateways
    (newGateway (Operation.creationCalls 2624 0 (.ok ())) 254 1 "spare" vmIp 51821)
  rw [← gateways, parked.next] at second
  have meeting := apart 1 254 _ _ first second (by decide)
  exact disjoint_allocated_iff.mp meeting rfl

/-- The first two gateways of a deployment have subnets of their own. -/
theorem first_subnets_disjoint :
    ∃ db, Reaches (Operation.perform 2624) FreshOctet oneWorkerDb db ∧
      (∀ id ∈ [1, 2], (db.gateways.get id).isSome) ∧ SubnetsDisjoint db := by
  have first := settled
  obtain ⟨db, done, parked⟩ := first
  have second := visit_performs parked
  obtain ⟨vmIp, -, after, came, -, gateways, -⟩ := second
  have alone : FreshOctet oneWorkerDb settle := by
    intro id row present
    cases present
  have fresh : FreshOctet db visit := by
    intro id row present
    rw [parked.alone id row present, parked.next]
    decide
  have reached : Reaches (Operation.perform 2624) FreshOctet oneWorkerDb after :=
    (Reaches.tail .refl alone done).tail fresh came
  refine ⟨after, reached, ?_, (subnets_disjoint_with_fresh_octets oneWorkerDb_unused reached).1⟩
  intro id known
  rw [gateways, Table.get_insert, parked.next]
  rcases List.mem_cons.mp known with rfl | other
  · rw [if_neg (by decide), parked.resident]
    rfl
  · cases List.mem_singleton.mp other
    rfl

end DeepOrc.Allocation
