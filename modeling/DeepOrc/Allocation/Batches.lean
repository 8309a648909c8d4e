import DeepOrc.Allocation.Transactions
import DeepOrc.Services.PeerGroupService

/-!
# Batches of creations, statement by statement

A call of `create_gateways` reads the group, counts its addresses and then, for each gateway, reads the addresses
in use, reads the slot in its address and runs the creation in a transaction of its own. Between any two statements other calls may move.
-/

namespace DeepOrc.Allocation

open Models Repositories Services Lan
open Lib (Table)

inductive BatchCall where
  | requested (groupId count : Nat)
  | groupRead (groupId count : Nat) (group : PeerGroup)
  | allocating (groupId : Nat) (group : PeerGroup) (remaining : Nat)
  -- `create_gateway` runs in `session`; `remaining` more are to follow
  | creating (groupId : Nat) (group : PeerGroup) (remaining : Nat) (lanIp : Address) (slot : Int) (session : Nat)

structure BatchState where
  txns : State
  groups : Table PeerGroup
  lan : Nat → LanColumns
  calls : Table BatchCall
  sizes : ColumnSizes

namespace BatchState

def view (s : BatchState) : GroupDb := ⟨s.txns.db, s.groups, s.lan, s.sizes⟩

def become (s : BatchState) (call : Nat) (stage : BatchCall) : BatchState :=
  { s with calls := s.calls.modify call fun _ => stage }

def finish (s : BatchState) (call : Nat) : BatchState := { s with calls := s.calls.delete call }

end BatchState

inductive BatchEvent where
  | request (groupId count : Nat)
  | next (call : Nat) (creation : CreationCalls)
  | fail (call : Nat) (committed : Bool)

/-- The INSERT of the gateway's row with an address or a slot that its column does not take. -/
def refusesRow (sizes : ColumnSizes) (lanIp : Address) (slot : Int) : Txn → Bool
  | .udpPortChosen .. => !sizes.takes lanIp slot
  | _ => false

/-- A statement of the creation that a call is waiting for. The LAN columns are part of the gateway's row. -/
def creationNext (s : BatchState) (call groupId : Nat) (group : PeerGroup) (remaining : Nat) (lanIp : Address) (slot : Int)
    (session : Nat) : Option BatchState :=
  match s.txns.sessions.get session with
  -- refused by a unique constraint
  | none => some (s.finish call)
  | some txn =>
      if refusesRow s.sizes lanIp slot txn then some ({ s with txns := s.txns.close session }.finish call)
      else
        match createNext s.txns session txn with
        | none => none
        | some txns =>
            match txn with
            | .gatewayInserted _ _ _ _ _ gatewayId =>
                some ({ s with
                  txns
                  lan := Function.update s.lan gatewayId ⟨some groupId, some lanIp, some slot⟩ }.become
                    call (.allocating groupId group remaining))
            | _ => some { s with txns }

def callNext (s : BatchState) (call : Nat) (creation : CreationCalls) : BatchCall → Option BatchState
  | .requested groupId count =>
      if count < 1 ∨ 64 < count then some (s.finish call)
      else
        match s.groups.get groupId with
        | none => some (s.finish call)
        | some group => some (s.become call (.groupRead groupId count group))
  | .groupRead groupId count group =>
      match remainingLanCapacity s.view groupId group with
      | .error _ => some (s.finish call)
      | .ok available =>
          if available < count then some (s.finish call) else some (s.become call (.allocating groupId group count))
  | .allocating _ _ 0 => some (s.finish call)
  | .allocating groupId group (remaining + 1) =>
      match allocateLanIp s.view groupId group with
      | .error _ => some (s.finish call)
      | .ok lanIp =>
          match lanIp.macvlanSlot with
          | .error _ => some (s.finish call)
          | .ok slot =>
              some ({ s with txns := begin_ s.txns (.naming creation (groupRequest group)) }.become call
                (.creating groupId group remaining lanIp slot s.txns.sessions.next))
  | .creating groupId group remaining lanIp slot session => creationNext s call groupId group remaining lanIp slot session

/-- An exception may end a call at any point. A route that answers it commits what the creation has flushed by
then; once the gateway is flushed nothing is answered any more. -/
def callFail (s : BatchState) (call : Nat) (committed : Bool) : BatchCall → Option BatchState
  | .creating _ _ _ _ _ session =>
      match s.txns.sessions.get session with
      | none => some (s.finish call)
      | some txn =>
          if committed && txn.gateway.isSome then none
          else
            let db := if committed then stored s.txns.db txn else s.txns.db
            some ({ s with txns := State.close { s.txns with db } session }.finish call)
  | _ => some (s.finish call)

def batchStep (s : BatchState) : BatchEvent → Option BatchState
  | .request groupId count => some { s with calls := s.calls.insert (.requested groupId count) }
  | .next call creation =>
      match s.calls.get call with
      | none => none
      | some stage => callNext s call creation stage
  | .fail call committed =>
      match s.calls.get call with
      | none => none
      | some stage => callFail s call committed stage

/-! ### What a creation's statement does to names and gateways -/

namespace Txn

/-- The name a creation has settled on. -/
def chosenName : Txn → Option String
  | nameChosen _ _ name | nameUnused _ _ name => some name
  | workerChosen plan | vmIpsRead plan _ | addressesRead plan _ | vmIpAllocated plan _ _ | udpPortsRead plan _ _ _
  | portRowsRead plan _ _ _ | udpPortChosen plan _ _ _ _ | gatewayInserted plan _ _ _ _ _ => some plan.name
  | _ => none

end Txn

def Named (db : Db) (name : String) : Prop := ∃ id row, db.gateways.get id = some row ∧ row.name = name

/-- The name a creation without a name of its own would get now. -/
def LowestFree (db : Db) (name : String) : Prop :=
  ∃ index, name = Naming.formatSequentialName Naming.gatewayPrefix index Naming.sequentialWidth ∧ ¬ Named db name ∧
    ∀ lower < index, Named db (Naming.formatSequentialName Naming.gatewayPrefix lower Naming.sequentialWidth)

theorem LowestFree.unique {db : Db} {one other : String} (first : LowestFree db one) (second : LowestFree db other) :
    one = other := by
  obtain ⟨index, rfl, free, below⟩ := first
  obtain ⟨index', rfl, free', below'⟩ := second
  rcases Nat.lt_trichotomy index index' with less | same | greater
  · exact absurd (below' index less) free
  · rw [same]
  · exact absurd (below index' greater) free'

theorem named_congr {db after : Db} (same : ∀ id, after.gateways.get id = db.gateways.get id) {name : String} :
    Named after name ↔ Named db name := by
  simp only [Named, same]

theorem lowestFree_congr {db after : Db} (same : ∀ id, after.gateways.get id = db.gateways.get id) {name : String} :
    LowestFree after name ↔ LowestFree db name := by
  simp only [LowestFree, named_congr same]

theorem named_iff {db : Db} {name : String} :
    Named db name ↔ name ∈ db.gateways.toList.map fun entry => entry.2.name := by
  simp only [Named, List.mem_map, Prod.exists, Table.mem_toList]

theorem lowestFree_of_requestedName {db : Db} {request : CreateGatewayRequest} {name : String}
    (automatic : request.gatewayName = none) (chosen : requestedName db request = .ok name) : LowestFree db name := by
  have plain : requestedName db request = nextGatewayName db := by simp only [requestedName, automatic]
  rw [plain] at chosen
  unfold nextGatewayName at chosen
  split at chosen
  · rename_i found next
    cases chosen
    obtain ⟨index, rfl, lower⟩ := Naming.nextSequentialName_least next
    refine ⟨index, rfl, ?_, fun other less => named_iff.mpr (lower other less)⟩
    rw [named_iff]
    exact Naming.nextSequentialName_not_mem next
  · cases chosen

inductive CreationEffect (s : State) (session : Nat) (txn : Txn) (t : State) : Prop
  | named {calls : CreationCalls} {request : CreateGatewayRequest} {name : String}
      (reading : txn = .naming calls request) (chosen : requestedName s.db request = .ok name)
      (same : t = s.become session (.nameChosen calls request name))
  | moved {after : Txn} (chosen : after.chosenName = txn.chosenName) (known : txn.chosenName ≠ none)
      (before : txn.gateway = none) (still : after.gateway = none)
      (gateways : ∀ id, t.db.gateways.get id = s.db.gateways.get id)
      (sessions : t.sessions = s.sessions.modify session fun _ => after)
  | inserted {after : Txn} {id : Nat} {row : Gateway} (chosen : after.chosenName = txn.chosenName)
      (known : txn.chosenName = some row.name) (before : txn.gateway = none) (opened : after.gateway = some (id, row))
      (unused : s.db.gateways.get id = none) (unnamed : ¬ Named s.db row.name)
      (alone : ∀ other ∈ s.open_ Txn.gateway, other.name ≠ row.name)
      (gateways : ∀ id, t.db.gateways.get id = s.db.gateways.get id)
      (sessions : t.sessions = s.sessions.modify session fun _ => after)
  | refused (before : txn.gateway = none) (gateways : ∀ id, t.db.gateways.get id = s.db.gateways.get id)
      (sessions : t.sessions = s.sessions.delete session)
  | committed {plan : Plan} {ip vmIp udpPort id : Nat} {port : Option Nat} {row : Gateway}
      (inserted : txn = .gatewayInserted plan ip vmIp port udpPort id) (opened : txn.gateway = some (id, row))
      (gateways : t.db.gateways = s.db.gateways.put id row) (sessions : t.sessions = s.sessions.delete session)

theorem become_moves {s : State} {session : Nat} {txn after : Txn} (chosen : after.chosenName = txn.chosenName)
    (known : txn.chosenName ≠ none) (before : txn.gateway = none) (still : after.gateway = none) :
    CreationEffect s session txn (s.become session after) :=
  .moved chosen known before still (fun _ => rfl) rfl

theorem insertIp_moves {s t : State} {session : Nat} {txn : Txn} {row : IpAllocation} {next : Nat → Txn}
    (chosen : ∀ id, (next id).chosenName = txn.chosenName) (known : txn.chosenName ≠ none)
    (before : txn.gateway = none) (still : ∀ id, (next id).gateway = none)
    (inserted : insertIp s session row next = some t) : CreationEffect s session txn t := by
  unfold insertIp State.admit at inserted
  split at inserted
  · cases inserted
    exact .moved (chosen _) known before (still _) (fun _ => rfl) rfl
  · cases inserted
  · cases inserted
    exact .refused before (fun _ => rfl) rfl

theorem insertPort_moves {s t : State} {session : Nat} {txn : Txn} {row : PortAllocation} {next : Nat → Txn}
    (chosen : ∀ id, (next id).chosenName = txn.chosenName) (known : txn.chosenName ≠ none)
    (before : txn.gateway = none) (still : ∀ id, (next id).gateway = none)
    (inserted : insertPort s session row next = some t) : CreationEffect s session txn t := by
  unfold insertPort State.admit at inserted
  split at inserted
  · cases inserted
    exact .moved (chosen _) known before (still _) (fun _ => rfl) rfl
  · cases inserted
  · cases inserted
    exact .refused before (fun _ => rfl) rfl

theorem insertGatewayRow_effect {s t : State} {session : Nat} {txn : Txn} {next : Nat → Txn}
    (row : Nat → Gateway) (chosen : ∀ id, (next id).chosenName = txn.chosenName)
    (known : ∀ id, txn.chosenName = some (row id).name) (before : txn.gateway = none)
    (opened : ∀ id, (next id).gateway = some (id, row id))
    (inserted : insertGatewayRow s session (row s.db.gateways.next) next = some t) : CreationEffect s session txn t := by
  rcases admit_some inserted with rfl | ⟨admitted, rfl⟩
  · exact .refused before (fun _ => rfl) rfl
  · obtain ⟨free, uncontended⟩ := admission_admitted admitted
    refine .inserted (chosen _) (known _) before (opened _) (Table.get_next _) ?_ ?_ (fun _ => rfl) rfl
    · rintro ⟨id, other, present, same⟩
      have clash := free id other present
      simp [same] at clash
    · intro other member same
      have clash := uncontended other member
      simp [same] at clash

/-- Each statement of a creation, by what it does to names and gateways. -/
theorem creationEffect {s t : State} {session : Nat} {txn : Txn} (advanced : createNext s session txn = some t) :
    CreationEffect s session txn t := by
  cases txn with
  | naming calls request =>
      simp only [createNext] at advanced
      split at advanced
      · cases advanced
      · rename_i name chosen
        cases advanced
        exact .named rfl chosen rfl
  | nameChosen calls request name =>
      simp only [createNext] at advanced
      split at advanced
      · cases advanced
        exact become_moves rfl nofun rfl rfl
      · cases advanced
  | nameUnused calls request name =>
      simp only [createNext] at advanced
      split at advanced
      · cases advanced
      · cases advanced
        exact become_moves rfl nofun rfl rfl
  | workerChosen plan =>
      cases advanced
      exact become_moves rfl nofun rfl rfl
  | vmIpsRead plan used =>
      cases advanced
      exact become_moves rfl nofun rfl rfl
  | addressesRead plan used =>
      simp only [createNext] at advanced
      split at advanced
      · cases advanced
      · refine insertIp_moves ?_ nofun rfl ?_ advanced <;> exact fun _ => rfl
  | vmIpAllocated plan ip vmIp =>
      simp only [createNext] at advanced
      split at advanced
      · cases advanced
        exact become_moves rfl nofun rfl rfl
      · cases advanced
        exact become_moves rfl nofun rfl rfl
  | udpPortsRead plan ip vmIp used =>
      cases advanced
      exact become_moves rfl nofun rfl rfl
  | portRowsRead plan ip vmIp used =>
      simp only [createNext] at advanced
      split at advanced
      · cases advanced
      · refine insertPort_moves ?_ nofun rfl ?_ advanced <;> exact fun _ => rfl
  | udpPortChosen plan ip vmIp port udpPort =>
      refine insertGatewayRow_effect (fun id => newGateway plan.calls id plan.workerId plan.name vmIp udpPort)
        ?_ ?_ rfl ?_ advanced <;> exact fun _ => rfl
  | gatewayInserted plan ip vmIp port udpPort gatewayId =>
      cases advanced
      exact .committed rfl rfl rfl rfl
  | _ => cases advanced

end DeepOrc.Allocation
