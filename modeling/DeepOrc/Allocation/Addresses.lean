import DeepOrc.Allocation.Transactions
import DeepOrc.Lib.Leases
import DeepOrc.Lib.Machine

/-!
# VM addresses are distinct

The gateways table does not keep `vm_ip` unique. What does is the allocation row behind each gateway: the
transactions follow the discipline of leases, with allocations as leases and gateways as their holders.
-/

namespace DeepOrc.Allocation

open Models Repositories Services
open Lib (Table Reaches)
open Lib.Leases (Lease Footprint Ledger)

def lease (row : IpAllocation) : Lease (Nat × Nat) := ⟨(row.workerId, row.address), row.gatewayId.isSome⟩

def vmAddress (row : Gateway) : Nat × Nat := (row.workerId, row.vmIp)

def Txn.footprint (txn : Txn) : Footprint (Nat × Nat) where
  lease := txn.ip.map fun entry => (entry.1, lease entry.2)
  holder := txn.gateway.map fun entry => (entry.1, vmAddress entry.2)
  removing := txn.deletes
  loaded := txn.loaded.map vmAddress
  doomed := txn.doomed

def State.ledger (s : State) : Ledger (Nat × Nat) where
  leases := s.db.ipAllocations.map lease
  holders := s.db.gateways.map vmAddress
  sessions := fun session => ((s.sessions.get session).map Txn.footprint).getD .idle

def Simulates (s t : State) : Prop := Relation.ReflTransGen Ledger.Step s.ledger t.ledger

/-! ### Sessions in the ledger -/

theorem sessions_of_get {s : State} {session : Nat} {txn : Txn} (present : s.sessions.get session = some txn) :
    s.ledger.sessions session = txn.footprint := by
  simp [State.ledger, present]

theorem ledger_become {s : State} {session : Nat} {txn : Txn} (present : s.sessions.get session = some txn)
    (db : Db) (after : Txn) : (State.become ⟨db, s.sessions⟩ session after).ledger =
      (State.ledger ⟨db, s.sessions⟩).become session after.footprint := by
  simp only [State.ledger, State.become, Ledger.become, Ledger.mk.injEq, true_and]
  funext other
  by_cases here : other = session
  · subst here
    simp [present]
  · simp [Table.get_modify_of_ne here, here]

theorem ledger_close (s : State) (session : Nat) : (s.close session).ledger = s.ledger.become session .idle := by
  simp only [State.ledger, State.close, Ledger.become, Ledger.mk.injEq, true_and]
  funext other
  by_cases here : other = session
  · subst here
    simp
  · simp [Table.get_delete_of_ne here, here]

theorem ledger_begin (s : State) (txn : Txn) :
    (begin_ s txn).ledger = s.ledger.become s.sessions.next txn.footprint := by
  simp only [State.ledger, begin_, Ledger.become, Ledger.mk.injEq, true_and]
  funext other
  by_cases here : other = s.sessions.next
  · subst here
    simp
  · simp [Table.get_insert_of_ne here, here]

theorem become_same {ledger : Ledger (Nat × Nat)} {session : Nat} {footprint : Footprint (Nat × Nat)}
    (same : ledger.sessions session = footprint) : ledger.become session footprint = ledger := by
  rw [Ledger.become, ← same, Function.update_eq_self]

/-- A statement that opens and closes nothing. -/
theorem simulates_become {s : State} {session : Nat} {txn after : Txn} (present : s.sessions.get session = some txn)
    (same : after.footprint = txn.footprint) : Simulates s (s.become session after) := by
  rw [Simulates, ledger_become present s.db, become_same (by rw [same]; exact sessions_of_get present)]

theorem simulates_close (s : State) (session : Nat) : Simulates s (s.close session) := by
  rw [Simulates, ledger_close]
  exact .single (.close _ _)

theorem begin_simulates (s : State) {txn : Txn} (fresh : txn.footprint = .idle) : Simulates s (begin_ s txn) := by
  rw [Simulates, ledger_begin, fresh, become_same (by simp [State.ledger])]

/-- Changes of other tables do not show in the ledger. -/
theorem simulates_of_tables {s t : State} {db : Db} (simulated : Simulates s t) (gateways : db.gateways = t.db.gateways)
    (allocations : db.ipAllocations = t.db.ipAllocations) : Simulates s { t with db } := by
  have same : ({ t with db } : State).ledger = t.ledger := by
    simp only [State.ledger, gateways, allocations]
  rw [Simulates, same]
  exact simulated

/-- A status is not in the ledger. -/
theorem setGatewayStatus_simulates (s : State) (gatewayId : Nat) (status : GatewayStatus) (error : Option String) :
    Simulates s { s with db := updateGatewayStatus s.db gatewayId status error } := by
  have holders : (updateGatewayStatus s.db gatewayId status error).gateways.map vmAddress =
      s.db.gateways.map vmAddress := by
    refine Table.map_modify_of_eq ?_ s.db.gateways gatewayId
    intro row
    rfl
  have same : ({ s with db := updateGatewayStatus s.db gatewayId status error } : State).ledger = s.ledger := by
    simp only [State.ledger, holders]
    rfl
  rw [Simulates, same]

/-! ### Insertions -/

/-- A session that has a lease open in the ledger has an allocation row open. -/
theorem open_of_lease {s : State} {session id : Nat} {row : Lease (Nat × Nat)}
    (opened : (s.ledger.sessions session).lease = some (id, row)) :
    ∃ ip ∈ s.open_ Txn.ip, row = lease ip := by
  cases present : s.sessions.get session with
  | none => simp [State.ledger, present, Footprint.idle] at opened
  | some txn =>
      rw [sessions_of_get present] at opened
      obtain ⟨entry, inserted, same⟩ := Option.map_eq_some_iff.mp opened
      cases same
      exact ⟨entry.2, mem_open present inserted, rfl⟩

theorem insertIp_simulates {s t : State} {session : Nat} {txn : Txn} {row : IpAllocation} {next : Nat → Txn}
    (present : s.sessions.get session = some txn) (fresh : txn.footprint = .idle)
    (opens : ∀ id, (next id).footprint = .inserting id (lease row) none)
    (inserted : insertIp s session row next = some t) : Simulates s t := by
  rcases admit_some inserted with rfl | ⟨admitted, rfl⟩
  · exact simulates_close s session
  · obtain ⟨free, uncontended⟩ := admission_admitted admitted
    have step : Ledger.Step s.ledger _ := .insertLease (lease row) ((sessions_of_get present).trans fresh) ?_ ?_
    · rw [Simulates, ledger_become present, opens]
      exact .single step
    · intro id other found same
      obtain ⟨ip, stored, rfl⟩ := Option.map_eq_some_iff.mp found
      have clash := free id ip stored
      simp only [lease, Prod.mk.injEq] at same
      simp [same.1, same.2] at clash
    · intro other id opened same opens
      obtain ⟨ip, member, rfl⟩ := open_of_lease same
      have clash := uncontended ip member
      simp only [lease, Prod.mk.injEq] at opens
      simp [opens.1, opens.2] at clash

theorem footprint_gatewayInserted (plan : Plan) (ip vmIp : Nat) (port : Option Nat) (udpPort gatewayId : Nat) :
    (Txn.gatewayInserted plan ip vmIp port udpPort gatewayId).footprint =
      .inserting ip ⟨(plan.workerId, vmIp), false⟩ (some (gatewayId, (plan.workerId, vmIp))) := rfl

theorem insertGatewayRow_simulates {s t : State} {session ip : Nat} {txn : Txn} {row : Gateway} {next : Nat → Txn}
    (present : s.sessions.get session = some txn)
    (leased : txn.footprint = .inserting ip ⟨vmAddress row, false⟩ none)
    (opens : ∀ id, (next id).footprint = .inserting ip ⟨vmAddress row, false⟩ (some (id, vmAddress row)))
    (inserted : insertGatewayRow s session row next = some t) : Simulates s t := by
  rcases admit_some inserted with rfl | ⟨-, rfl⟩
  · exact simulates_close s session
  · have step : Ledger.Step s.ledger _ := .insertHolder ((sessions_of_get present).trans leased) rfl
    rw [Simulates, ledger_become present, opens]
    exact .single step

/-- A reserved id of another table does not show either. -/
theorem insertPort_simulates {s t : State} {session : Nat} {txn : Txn} {row : PortAllocation} {next : Nat → Txn}
    (present : s.sessions.get session = some txn) (same : ∀ id, (next id).footprint = txn.footprint)
    (inserted : insertPort s session row next = some t) : Simulates s t := by
  rcases admit_some inserted with rfl | ⟨-, rfl⟩
  · exact simulates_close s session
  · exact simulates_of_tables (simulates_become present (same _)) rfl rfl

theorem insertPeerRow_simulates {s t : State} {session : Nat} {txn : Txn} {row : Peer} {next : Nat → Txn}
    (present : s.sessions.get session = some txn) (same : ∀ id, (next id).footprint = txn.footprint)
    (inserted : insertPeerRow s session row next = some t) : Simulates s t := by
  rcases admit_some inserted with rfl | ⟨-, rfl⟩
  · exact simulates_close s session
  · exact simulates_of_tables (simulates_become present (same _)) rfl rfl

/-! ### Commits -/

theorem stored_simulates {s : State} {session : Nat} {txn : Txn} (present : s.sessions.get session = some txn) :
    Simulates s ({ s with db := stored s.db txn }.close session) := by
  have rows : ({ s with db := stored s.db txn } : State).ledger = { s.ledger with
      leases := s.ledger.leases.putOption (s.ledger.sessions session).lease
      holders := s.ledger.holders.putOption (s.ledger.sessions session).holder } := by
    rw [sessions_of_get present]
    simp only [State.ledger, stored, Table.map_putOption, Txn.footprint]
  rw [Simulates, ledger_close, rows]
  exact .single (.commit s.ledger session)

/-- Clearing the references to a deleted gateway only takes tags away. -/
theorem untag_forgetGateway (ledger : Ledger (Nat × Nat)) (allocations : Table IpAllocation) (gatewayId : Nat)
    (same : ledger.leases = allocations.map lease) :
    Ledger.Step ledger
      { ledger with leases := (allocations.map (IpAllocation.forgetGateway gatewayId)).map lease } := by
  refine .untag _ (by rw [same]; rfl) ?_ ?_
  · intro id missing
    simp only [same, Table.get_map, Option.map_eq_none_iff] at missing ⊢
    exact missing
  · intro id row found
    rw [same, Table.get_map] at found
    obtain ⟨ip, present, rfl⟩ := Option.map_eq_some_iff.mp found
    refine ⟨lease (IpAllocation.forgetGateway gatewayId ip), by simp [present], ?_, ?_⟩
    · unfold IpAllocation.forgetGateway
      split <;> rfl
    · unfold IpAllocation.forgetGateway
      split
      · intro _
        rfl
      · exact fun own => own

theorem deleteRows_simulates {s : State} {session gatewayId : Nat} {jobId port : Option Nat} {txn : Txn}
    (present : s.sessions.get session = some txn) (removing : txn.deletes = some gatewayId) :
    Simulates s ({ s with db := deleteRows s.db gatewayId jobId txn.doomed port }.close session) := by
  let removed : Ledger (Nat × Nat) := Ledger.become { s.ledger with
    leases := s.ledger.leases.deleteOption (s.ledger.sessions session).doomed
    holders := s.ledger.holders.delete gatewayId } session .idle
  have removal : Ledger.Step s.ledger removed := .commitRemoval (by rw [sessions_of_get present]; exact removing)
  have leases : removed.leases = (s.db.ipAllocations.deleteOption txn.doomed).map lease := by
    rw [Table.map_deleteOption]
    simp only [removed, Ledger.become, sessions_of_get present]
    rfl
  have after : ({ s with db := deleteRows s.db gatewayId jobId txn.doomed port }.close session).ledger =
      { removed with leases :=
        ((s.db.ipAllocations.deleteOption txn.doomed).map (IpAllocation.forgetGateway gatewayId)).map lease } := by
    rw [ledger_close]
    cases jobId <;> simp [State.ledger, deleteRows, deleteGateway, completeJob, updateJobStatus, Table.map_delete,
      removed, Ledger.become]
  rw [Simulates, after]
  exact (Relation.ReflTransGen.single removal).tail (untag_forgetGateway removed _ gatewayId leases)

theorem release_simulates {s : State} {session peerId : Nat} {txn : Txn} (present : s.sessions.get session = some txn)
    (released : txn.deletes = none) :
    Simulates s ({ s with db := { s.db with
      ipAllocations := s.db.ipAllocations.deleteOption txn.doomed
      peers := s.db.peers.delete peerId } }.close session) := by
  have rows : ({ s with db := { s.db with
      ipAllocations := s.db.ipAllocations.deleteOption txn.doomed
      peers := s.db.peers.delete peerId } } : State).ledger = { s.ledger with
        leases := s.ledger.leases.deleteOption (s.ledger.sessions session).doomed } := by
    rw [sessions_of_get present]
    simp only [State.ledger, Table.map_deleteOption, Txn.footprint]
  rw [Simulates, ledger_close, rows]
  exact .single (.commitRelease (by rw [sessions_of_get present]; exact released))

/-! ### Each statement -/

theorem createNext_simulates {s t : State} {session : Nat} {txn : Txn} (present : s.sessions.get session = some txn)
    (advanced : createNext s session txn = some t) : Simulates s t := by
  cases txn with
  | naming calls request =>
      simp only [createNext] at advanced
      split at advanced
      · cases advanced
      · cases advanced
        exact simulates_become present rfl
  | nameChosen calls request name =>
      simp only [createNext] at advanced
      split at advanced
      · cases advanced
        exact simulates_become present rfl
      · cases advanced
  | nameUnused calls request name =>
      simp only [createNext] at advanced
      split at advanced
      · cases advanced
      · cases advanced
        exact simulates_become present rfl
  | workerChosen plan =>
      cases advanced
      exact simulates_become present rfl
  | vmIpsRead plan used =>
      cases advanced
      exact simulates_become present rfl
  | addressesRead plan used =>
      simp only [createNext] at advanced
      split at advanced
      · cases advanced
      · exact insertIp_simulates present rfl (fun _ => rfl) advanced
  | vmIpAllocated plan ip vmIp =>
      simp only [createNext] at advanced
      split at advanced
      · cases advanced
        exact simulates_become present rfl
      · cases advanced
        exact simulates_become present rfl
  | udpPortsRead plan ip vmIp used =>
      cases advanced
      exact simulates_become present rfl
  | portRowsRead plan ip vmIp used =>
      simp only [createNext] at advanced
      split at advanced
      · cases advanced
      · refine insertPort_simulates present ?_ advanced
        intro id
        rfl
  | udpPortChosen plan ip vmIp port udpPort =>
      simp only [createNext] at advanced
      exact insertGatewayRow_simulates present rfl (fun id => footprint_gatewayInserted plan ip vmIp port udpPort id) advanced
  | gatewayInserted plan ip vmIp port udpPort gatewayId =>
      cases advanced
      exact stored_simulates present
  | _ => cases advanced

theorem deleteNext_simulates {s t : State} {session : Nat} {txn : Txn} (present : s.sessions.get session = some txn)
    (advanced : deleteNext s session txn = some t) : Simulates s t := by
  cases txn with
  | deleting gatewayId jobId =>
      simp only [deleteNext] at advanced
      split at advanced
      · cases advanced
        refine simulates_of_tables (simulates_close s session) ?_ ?_ <;> cases jobId <;> rfl
      · rename_i gateway stored
        cases advanced
        have held : s.ledger.holders.get gatewayId = some (vmAddress gateway) := by simp [State.ledger, stored]
        have step : Ledger.Step s.ledger _ := .load (sessions_of_get present) held
        rw [Simulates, ledger_become present s.db]
        exact .single step
  | gatewayLoaded gatewayId jobId gateway =>
      cases advanced
      cases found : Incus.vmIpAllocation s.db gateway.workerId gateway.vmIp with
      | none => exact simulates_become present rfl
      | some entry =>
          obtain ⟨id, row⟩ := entry
          have stored := Table.mem_toList.mp (List.mem_of_find?_eq_some found)
          have matching := List.find?_some found
          simp only [Bool.and_eq_true, decide_eq_true_eq] at matching
          have key : (lease row).key = vmAddress gateway := Prod.ext matching.1 matching.2
          have loaded : s.ledger.sessions session = .remover gatewayId (some (lease row).key) none := by
            rw [sessions_of_get present, key]
            rfl
          have leased : s.ledger.leases.get id = some (lease row) := by simp [State.ledger, stored]
          have step : Ledger.Step s.ledger _ := .doom loaded leased
          rw [Simulates, ledger_become present s.db]
          rw [key] at step
          exact .single step
  | vmIpFound gatewayId jobId gateway ip =>
      cases advanced
      exact simulates_become present rfl
  | udpPortFound gatewayId jobId gateway ip port =>
      cases advanced
      exact deleteRows_simulates present rfl
  | _ => cases advanced

theorem createPeerNext_simulates {s t : State} {session choice : Nat} {txn : Txn}
    (present : s.sessions.get session = some txn) (advanced : createPeerNext s session choice txn = some t) :
    Simulates s t := by
  cases txn with
  | peerRequested gatewayId name publicKey =>
      simp only [createPeerNext] at advanced
      split at advanced
      · cases advanced
      · cases advanced
        exact simulates_become present rfl
  | peerGatewayRead gatewayId name publicKey gateway =>
      simp only [createPeerNext] at advanced
      split_ifs at advanced
      cases advanced
      exact simulates_become present rfl
  | peerAdmitted gatewayId name publicKey gateway =>
      cases advanced
      exact simulates_become present rfl
  | peerIpsRead gatewayId name publicKey gateway used =>
      simp only [createPeerNext] at advanced
      split at advanced
      · cases advanced
        exact simulates_become present rfl
      · split at advanced
        · cases advanced
        · cases advanced
          exact simulates_become present rfl
  | peerIpFree gatewayId name publicKey gateway address =>
      simp only [createPeerNext] at advanced
      refine insertIp_simulates present rfl ?_ advanced
      intro id
      rfl
  | peerIpChosen gatewayId name publicKey ip address =>
      simp only [createPeerNext] at advanced
      refine insertPeerRow_simulates present ?_ advanced
      intro id
      rfl
  | peerInserted ip peer =>
      cases advanced
      exact stored_simulates present
  | _ => cases advanced

theorem deletePeerNext_simulates {s t : State} {session : Nat} {txn : Txn}
    (present : s.sessions.get session = some txn) (advanced : deletePeerNext s session txn = some t) :
    Simulates s t := by
  cases txn with
  | peerDeleting peerId =>
      simp only [deletePeerNext] at advanced
      split at advanced
      · cases advanced
      · cases advanced
        exact simulates_become present rfl
  | peerLoaded peerId peer =>
      simp only [deletePeerNext] at advanced
      split at advanced
      · cases advanced
      · cases advanced
        exact simulates_become present rfl
  | peerReleasing peerId peer =>
      cases advanced
      cases found : Wg.peerIpAllocation s.db peer.gatewayId peer.allowedIp with
      | none => exact simulates_become present rfl
      | some entry =>
          obtain ⟨id, row⟩ := entry
          have stored := Table.mem_toList.mp (List.mem_of_find?_eq_some found)
          have matching := List.find?_some found
          simp only [Bool.and_eq_true, decide_eq_true_eq] at matching
          have leased : s.ledger.leases.get id = some (lease row) := by simp [State.ledger, stored]
          have step : Ledger.Step s.ledger _ :=
            .doomTagged (sessions_of_get present) leased (by simp [lease, matching.1])
          rw [Simulates, ledger_become present s.db]
          exact .single step
  | peerIpFound peerId ip =>
      cases advanced
      exact release_simulates present rfl
  | _ => cases advanced

theorem step_simulates {s t : State} {event : Event} (stepped : step s event = some t) : Simulates s t := by
  cases event with
  | create calls request =>
      cases stepped
      exact begin_simulates s rfl
  | delete gatewayId jobId =>
      simp only [step] at stepped
      split at stepped
      · cases stepped
      · rename_i alone
        cases stepped
        have fresh : s.ledger.sessions s.sessions.next = .idle := by simp [State.ledger]
        have single : ∀ other, (s.ledger.sessions other).removing ≠ some gatewayId := by
          intro other removing
          cases present : s.sessions.get other with
          | none => simp [State.ledger, present, Footprint.idle] at removing
          | some txn =>
              rw [sessions_of_get present] at removing
              exact alone (List.any_eq_true.mpr ⟨(other, txn), Table.mem_toList.mpr present, decide_eq_true removing⟩)
        have step : Ledger.Step s.ledger _ := .beginRemoval fresh single
        rw [Simulates, ledger_begin]
        exact .single step
  | createPeer gatewayId name publicKey =>
      cases stepped
      exact begin_simulates s rfl
  | deletePeer peerId =>
      cases stepped
      exact begin_simulates s rfl
  | next session choice =>
      simp only [step] at stepped
      split at stepped
      · cases stepped
      · rename_i txn present
        rcases Option.or_eq_some_iff.mp stepped with created | ⟨-, rest⟩
        · exact createNext_simulates present created
        · rcases Option.or_eq_some_iff.mp rest with deleted | ⟨-, rest⟩
          · exact deleteNext_simulates present deleted
          · rcases Option.or_eq_some_iff.mp rest with created | ⟨-, deleted⟩
            · exact createPeerNext_simulates present created
            · exact deletePeerNext_simulates present deleted
  | abandon session committed =>
      simp only [step] at stepped
      split at stepped
      · cases stepped
      · rename_i txn present
        cases stepped
        cases committed with
        | true => exact stored_simulates present
        | false => exact simulates_close s session
  | setGatewayStatus gatewayId status error =>
      cases stepped
      exact setGatewayStatus_simulates s gatewayId status error

/-- A run of the transactions is a run of the lease discipline. -/
theorem reaches_simulates {s t : State} (reached : Reaches step (fun _ _ => True) s t) : Simulates s t := by
  induction reached with
  | refl => exact .refl
  | tail _ next earlier =>
      obtain ⟨event, -, stepped⟩ := next
      exact earlier.trans (step_simulates stepped)

theorem sound_initial {s : State} (initial : Initial s) : s.ledger.Sound := by
  apply Ledger.sound_of_empty
  · intro id
    simp [State.ledger, initial.allocations]
  · intro id
    simp [State.ledger, initial.gateways]
  · intro id
    simp [State.ledger, initial.sessions]

def VmIpsDistinct (db : Db) : Prop :=
  ∀ first second one other, db.gateways.get first = some one → db.gateways.get second = some other →
    one.workerId = other.workerId → one.vmIp = other.vmIp → first = second

/-- However the transactions interleave, committed gateways of one worker have different addresses. -/
theorem vm_ips_distinct {s t : State} (initial : Initial s) (reached : Reaches step (fun _ _ => True) s t) :
    VmIpsDistinct t.db := by
  have sound := (sound_initial initial).reaches (reaches_simulates reached)
  intro first second one other found found' worker address
  apply sound.committed.holders_unique first second (vmAddress one) (by simp [State.ledger, found])
  simp [State.ledger, found', vmAddress, worker, address]

/-! ### Two creations at once -/

def emptyState : State where
  db := { Db.empty with
    workers := Table.empty.insert ⟨"w1", "w1", "https://w1:8443", true, some 0, 51820, 51920, 168427775, 168427530⟩ }
  sessions := Table.empty

/-- The second creation chose the first one's address and is refused. The first gateway's peer comes and goes, with
an allocation of its own in the same table, while the third creation is under way. -/
theorem racing_creations_distinct :
    ∃ t, Reaches step (fun _ _ => True) emptyState t ∧
      (t.db.gateways.toList.map fun entry => entry.2.vmIp) = [168427530, 168427531] ∧ t.db.peers.next = 2 ∧
        t.db.peers.toList.length = 0 ∧ VmIpsDistinct t.db := by
  let create : Event := .create ⟨0, 2660, .ok ()⟩ ⟨none, none, none⟩
  let events : List Event :=
    [create, create] ++ List.replicate 5 (.next 1 0) ++ List.replicate 5 (.next 2 0) ++
      List.replicate 6 (.next 1 0) ++ [.next 2 0, .setGatewayStatus 1 .ready none, .createPeer 1 "peer" "k1"] ++
        List.replicate 5 (.next 3 0) ++ [create] ++ List.replicate 5 (.next 4 0) ++ List.replicate 2 (.next 3 0) ++
          [.deletePeer 1] ++ List.replicate 3 (.next 5 0) ++ List.replicate 6 (.next 4 0) ++ [.next 5 0]
  have ran : (Lib.run step (fun _ _ => true) emptyState events).any (fun t =>
      decide ((t.db.gateways.toList.map fun entry => entry.2.vmIp) = [168427530, 168427531] ∧ t.db.peers.next = 2 ∧
        t.db.peers.toList.length = 0)) = true := by
    decide +kernel
  obtain ⟨t, arrived, facts⟩ := Lib.exists_of_any ran
  obtain ⟨addresses, added, deleted⟩ := of_decide_eq_true facts
  have reached : Reaches step (fun _ _ => True) emptyState t := Lib.reaches_of_run (fun _ _ _ => trivial) arrived
  have initial : Initial emptyState := ⟨fun _ => rfl, fun _ => rfl, fun _ => rfl⟩
  exact ⟨t, reached, addresses, added, deleted, vm_ips_distinct initial reached⟩

end DeepOrc.Allocation
