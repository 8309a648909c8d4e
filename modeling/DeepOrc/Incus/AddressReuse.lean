import DeepOrc.Incus.Instances
import DeepOrc.Lib.Machine
import DeepOrc.Services.GatewayProvisioning

/-!
# Reused addresses and ports

Creations, provisionings and deletions of gateways, one after another, with every call to a worker's Incus
free to fail. A deletion gives the address and the port back whatever became of the instance.
-/

namespace DeepOrc.Incus

open Models Repositories Services
open Lib (Table Reaches)

structure State where
  db : Db
  hosts : Nat → Host

inductive Event where
  | create (calls : CreationCalls) (request : CreateGatewayRequest)
  | provision (gatewayId jobId : Nat) (launch : LaunchCalls) (calls : ProvisionCalls)
  | delete (gatewayId : Nat) (jobId : Option Nat) (removal : RemovalCalls) (calls : DeletionCalls)

def provisionStep (s : State) (gatewayId jobId : Nat) (launch : LaunchCalls) (calls : ProvisionCalls) : State :=
  match s.db.jobs.get jobId, s.db.gateways.get gatewayId, calls.render with
  | some _, some gateway, .ok _ =>
      let launched := launchGatewayVm launch gateway.incusInstance gateway.vmIp gateway.udpPort
        (s.hosts gateway.workerId)
      { db := processProvisioningJob { calls with launch := launched.2 } s.db jobId gatewayId
        hosts := Function.update s.hosts gateway.workerId launched.1 }
  | _, _, _ => { s with db := processProvisioningJob calls s.db jobId gatewayId }

/-- What makes a deletion fail comes before its call to Incus. -/
def deleteStep (s : State) (gatewayId : Nat) (jobId : Option Nat) (removal : RemovalCalls) (calls : DeletionCalls) :
    State :=
  match s.db.gateways.get gatewayId with
  | none => { s with db := completeJob s.db jobId }
  | some gateway =>
      let removed := deleteGatewayVm removal gateway.incusInstance (s.hosts gateway.workerId)
      match executeDeleteGateway { calls with incus := removed.2 } s.db gatewayId jobId with
      | .error _ => s
      | .ok db => { db, hosts := Function.update s.hosts gateway.workerId removed.1 }

def step (s : State) : Event → Option State
  | .create calls request =>
      match createGateway calls request s.db with
      | .error _ => some s
      | .ok (db, _, _) => some { s with db }
  | .provision gatewayId jobId launch calls => some (provisionStep s gatewayId jobId launch calls)
  | .delete gatewayId jobId removal calls => some (deleteStep s gatewayId jobId removal calls)

/-- No gateway yet, and no instance with an address or a port of the pools. -/
structure Initial (s : State) : Prop where
  gateways : ∀ id, s.db.gateways.get id = none
  hosts : ∀ worker name row, s.hosts worker name = some row → Bare row

structure AddressesSafe (s : State) : Prop where
  distinct : ∀ worker first second one other, s.hosts worker first = some one → s.hosts worker second = some other →
    first ≠ second → (∀ ip, one.staticIp = some ip → other.staticIp ≠ some ip) ∧
      ∀ port, one.proxyPort = some port → other.proxyPort ≠ some port
  kept : ∀ worker name row, s.hosts worker name = some row →
    (∀ ip, row.staticIp = some ip → ip ∈ gatewayVmIps s.db worker) ∧
      ∀ port, row.proxyPort = some port → port ∈ gatewayUdpPorts s.db worker

/-- A deletion that reaches Incus deletes the instance or finds none with an address or a port. -/
def InstanceGone (s : State) : Event → Prop
  | .delete gatewayId _ removal calls => passHeadscaleError calls.headscale = .ok () →
      (removal.connect = .done ∧ ∀ error, removal.deleteInstance ≠ .failed error) ∨
        ∀ gateway row, s.db.gateways.get gatewayId = some gateway →
          s.hosts gateway.workerId gateway.incusInstance = some row → Bare row
  | _ => True

/-! ### What stays with a gateway row -/

structure Resources where
  workerId : Nat
  name : String
  incusInstance : String
  vmIp : Nat
  udpPort : Nat

def resources (row : Gateway) : Resources := ⟨row.workerId, row.name, row.incusInstance, row.vmIp, row.udpPort⟩

def resourcesOf (db : Db) (id : Nat) : Option Resources := (db.gateways.get id).map resources

theorem resourcesOf_modify {db after : Db} {id : Nat} {change : Gateway → Gateway}
    (changed : after.gateways = db.gateways.modify id change) (same : ∀ row, resources (change row) = resources row) :
    resourcesOf after = resourcesOf db := by
  funext other
  rw [resourcesOf, changed, Table.get_modify]
  split
  · rw [Option.map_map]
    exact congrArg (fun f => Option.map f _) (funext same)
  · rfl

theorem resourcesOf_updateGatewayStatus (db : Db) (id : Nat) (status : GatewayStatus) (error : Option String) :
    resourcesOf (updateGatewayStatus db id status error) = resourcesOf db :=
  resourcesOf_modify rfl fun _ => rfl

theorem resourcesOf_setExitNode (db : Db) (id : Nat) (address : Option String) :
    resourcesOf (setExitNode db id address) = resourcesOf db := by
  cases address with
  | none => rfl
  | some ip => exact resourcesOf_modify rfl fun _ => rfl

theorem resourcesOf_of_gateways {db after : Db} (same : after.gateways = db.gateways) :
    resourcesOf after = resourcesOf db := by
  funext id
  rw [resourcesOf, same, resourcesOf]

theorem resourcesOf_failJob (db : Db) (gatewayId jobId : Nat) (text : String) :
    resourcesOf (failJob db gatewayId jobId text) = resourcesOf db := by
  unfold failJob
  split
  · exact resourcesOf_updateGatewayStatus db gatewayId .error (some text)
  · rfl

theorem resourcesOf_registerGateway (calls : ProvisionCalls) (db : Db) (gatewayId jobId : Nat) (gateway : Gateway) :
    resourcesOf (registerGateway calls db gatewayId jobId gateway).1 = resourcesOf db := by
  unfold registerGateway
  split
  · rfl
  · split
    · exact resourcesOf_updateGatewayStatus _ _ _ _
    · rename_i finalized done
      obtain ⟨address, -, rfl⟩ := finalizeExitNode_ok done
      rw [resourcesOf_of_gateways (setUpPeer_tables _ _ _).1]
      exact (resourcesOf_updateGatewayStatus _ _ _ _).trans (resourcesOf_setExitNode _ _ _)

theorem resourcesOf_provisionGateway (calls : ProvisionCalls) (db : Db) (gatewayId jobId : Nat) :
    resourcesOf (provisionGateway calls db gatewayId jobId).1 = resourcesOf db := by
  unfold provisionGateway
  split
  · rfl
  · rfl
  · dsimp only
    split
    · exact resourcesOf_updateGatewayStatus _ _ _ _
    · split
      · rw [resourcesOf_registerGateway]
        exact resourcesOf_updateGatewayStatus _ _ _ _
      · exact (resourcesOf_updateGatewayStatus _ _ _ _).trans (resourcesOf_updateGatewayStatus _ _ _ _)

theorem resourcesOf_processProvisioningJob (calls : ProvisionCalls) (db : Db) (jobId gatewayId : Nat) :
    resourcesOf (processProvisioningJob calls db jobId gatewayId) = resourcesOf db := by
  unfold processProvisioningJob
  split
  · have provisioned := resourcesOf_provisionGateway calls (beginJob db jobId) gatewayId jobId
    unfold settleJob
    split
    · rename_i after ended
      rw [ended] at provisioned
      exact provisioned
    · rename_i after error ended
      rw [ended] at provisioned
      rw [resourcesOf_failJob]
      exact provisioned
  · rfl

/-! ### Who holds an address -/

structure Owned (s : State) : Prop where
  instances : ∀ id r, resourcesOf s.db id = some r → r.incusInstance = "gw-" ++ r.name
  names : ∀ first second one other, resourcesOf s.db first = some one → resourcesOf s.db second = some other →
    one.name = other.name → first = second
  vmIps : ∀ first second one other, resourcesOf s.db first = some one → resourcesOf s.db second = some other →
    one.workerId = other.workerId → one.vmIp = other.vmIp → first = second
  udpPorts : ∀ first second one other, resourcesOf s.db first = some one → resourcesOf s.db second = some other →
    one.workerId = other.workerId → one.udpPort = other.udpPort → first = second
  held : ∀ worker name row, s.hosts worker name = some row → Bare row ∨
    ∃ id r, resourcesOf s.db id = some r ∧ r.workerId = worker ∧ r.incusInstance = name ∧ Fits r.vmIp r.udpPort row

theorem owned_initial {s : State} (initial : Initial s) : Owned s := by
  have none_yet : ∀ id, resourcesOf s.db id = none := by
    intro id
    rw [resourcesOf, initial.gateways]
    rfl
  refine ⟨?_, ?_, ?_, ?_, fun worker name row found => .inl (initial.hosts worker name row found)⟩ <;>
    simp [none_yet]

theorem gateway_of_resourcesOf {db : Db} {id : Nat} {r : Resources} (found : resourcesOf db id = some r) :
    ∃ gateway, db.gateways.get id = some gateway ∧ resources gateway = r :=
  Option.map_eq_some_iff.mp found

theorem create_owned {s : State} {db : Db} {calls : CreationCalls} {request : CreateGatewayRequest}
    {gatewayId jobId : Nat} (owned : Owned s) (created : createGateway calls request s.db = .ok (db, gatewayId, jobId)) :
    Owned { s with db } := by
  obtain ⟨done⟩ := createGateway_ok created
  have rows : ∀ id r, resourcesOf db id = some r →
      id = s.db.gateways.next ∧ r = ⟨done.workerId, done.name, "gw-" ++ done.name, done.vmIp, done.udpPort⟩ ∨
        resourcesOf s.db id = some r := by
    intro id r found
    rw [resourcesOf, done.gateways, Table.get_insert] at found
    split at found
    · cases found
      exact .inl ⟨‹_›, rfl⟩
    · exact .inr found
  -- Two rows that agree in a column the new row is unique in are the same row.
  have apart (column : Resources → Resources → Prop) (symmetric : ∀ one other, column one other → column other one)
      (earlier : ∀ first second one other, resourcesOf s.db first = some one → resourcesOf s.db second = some other →
        column one other → first = second)
      (fresh : ∀ id r, resourcesOf s.db id = some r →
        ¬column ⟨done.workerId, done.name, "gw-" ++ done.name, done.vmIp, done.udpPort⟩ r) :
      ∀ first second one other, resourcesOf db first = some one → resourcesOf db second = some other →
        column one other → first = second := by
    intro first second one other found found' same
    rcases rows first one found with ⟨rfl, rfl⟩ | old <;> rcases rows second other found' with ⟨rfl, rfl⟩ | old'
    · rfl
    · exact absurd same (fresh second other old')
    · exact absurd (symmetric _ _ same) (fresh first one old)
    · exact earlier first second one other old old' same
  refine ⟨?_, ?_, ?_, ?_, ?_⟩
  · intro id r found
    rcases rows id r found with ⟨-, rfl⟩ | old
    · rfl
    · exact owned.instances id r old
  · refine apart (fun one other => one.name = other.name) (fun _ _ => Eq.symm) owned.names ?_
    intro id r old same
    obtain ⟨gateway, present, rfl⟩ := gateway_of_resourcesOf old
    exact name_ne_of_getByName done.unused present same.symm
  · have distinct := apart (fun one other => one.workerId = other.workerId ∧ one.vmIp = other.vmIp)
      (fun _ _ same => ⟨same.1.symm, same.2.symm⟩)
      (fun first second one other old old' same => owned.vmIps first second one other old old' same.1 same.2) ?_
    · exact fun first second one other found found' worker ip => distinct first second one other found found' ⟨worker, ip⟩
    · intro id r old same
      obtain ⟨gateway, present, rfl⟩ := gateway_of_resourcesOf old
      exact done.vmIp_free.1 (mem_gatewayVmIps.mpr ⟨id, gateway, present, same.1.symm, same.2.symm⟩)
  · have distinct := apart (fun one other => one.workerId = other.workerId ∧ one.udpPort = other.udpPort)
      (fun _ _ same => ⟨same.1.symm, same.2.symm⟩)
      (fun first second one other old old' same => owned.udpPorts first second one other old old' same.1 same.2) ?_
    · exact fun first second one other found found' worker port =>
        distinct first second one other found found' ⟨worker, port⟩
    · intro id r old same
      obtain ⟨gateway, present, rfl⟩ := gateway_of_resourcesOf old
      exact done.port_free (mem_gatewayUdpPorts.mpr ⟨id, gateway, present, same.1.symm, same.2.symm⟩)
  · intro worker name row found
    rcases owned.held worker name row found with bare | ⟨id, r, present, rest⟩
    · exact .inl bare
    · refine .inr ⟨id, r, ?_, rest⟩
      have other : id ≠ s.db.gateways.next := by
        rintro rfl
        rw [resourcesOf, Table.get_next] at present
        cases present
      rw [resourcesOf, done.gateways, Table.get_insert_of_ne other]
      exact present

/-- The instance a gateway names holds nothing that belongs to another gateway. -/
theorem fits_own {s : State} {gatewayId : Nat} {gateway : Gateway} (owned : Owned s)
    (present : s.db.gateways.get gatewayId = some gateway) {row : Instance}
    (found : s.hosts gateway.workerId gateway.incusInstance = some row) : Fits gateway.vmIp gateway.udpPort row := by
  have mine : resourcesOf s.db gatewayId = some (resources gateway) := by
    rw [resourcesOf, present]
    rfl
  rcases owned.held _ _ row found with bare | ⟨id, r, stored, -, named, fits⟩
  · exact fits_of_bare bare _ _
  · have same : r.name = gateway.name := by
      have names : "gw-" ++ r.name = "gw-" ++ gateway.name := by
        rw [← owned.instances id r stored, named]
        exact owned.instances gatewayId _ mine
      exact (String.append_right_inj "gw-").mp names
    obtain rfl := owned.names id gatewayId r (resources gateway) stored mine same
    rw [mine] at stored
    cases stored
    exact fits

theorem provision_owned {s : State} (owned : Owned s) (gatewayId jobId : Nat) (launch : LaunchCalls)
    (calls : ProvisionCalls) : Owned (provisionStep s gatewayId jobId launch calls) := by
  unfold provisionStep
  split
  · rename_i gateway _ _ present _
    have rows (launched : Except PyError Unit) : resourcesOf
        (processProvisioningJob { calls with launch := launched } s.db jobId gatewayId) = resourcesOf s.db :=
      resourcesOf_processProvisioningJob _ _ _ _
    have fits : ∀ row, s.hosts gateway.workerId gateway.incusInstance = some row →
        Fits gateway.vmIp gateway.udpPort row := fun row found => fits_own owned present found
    have launched := launched_launchGatewayVm launch fits
    refine ⟨?_, ?_, ?_, ?_, ?_⟩
    · simpa only [rows] using owned.instances
    · simpa only [rows] using owned.names
    · simpa only [rows] using owned.vmIps
    · simpa only [rows] using owned.udpPorts
    · simp only [rows]
      intro worker name row found
      by_cases here : worker = gateway.workerId
      · subst here
        rw [Function.update_self] at found
        by_cases own : name = gateway.incusInstance
        · subst own
          refine .inr ⟨gatewayId, resources gateway, ?_, rfl, rfl, launched.2 row found⟩
          rw [resourcesOf, present]
          rfl
        · rw [launched.1 name own] at found
          exact owned.held _ name row found
      · rw [Function.update_of_ne here] at found
        exact owned.held worker name row found
  · have rows := resourcesOf_processProvisioningJob calls s.db jobId gatewayId
    refine ⟨?_, ?_, ?_, ?_, ?_⟩
    · simpa only [rows] using owned.instances
    · simpa only [rows] using owned.names
    · simpa only [rows] using owned.vmIps
    · simpa only [rows] using owned.udpPorts
    · simpa only [rows] using owned.held

theorem executeDeleteGateway_passes {calls : DeletionCalls} {db after : Db} {gatewayId : Nat} {jobId : Option Nat}
    {gateway : Gateway} (present : db.gateways.get gatewayId = some gateway)
    (deleted : executeDeleteGateway calls db gatewayId jobId = .ok after) :
    passHeadscaleError calls.headscale = .ok () := by
  unfold executeDeleteGateway at deleted
  simp only [present] at deleted
  cases outcome : calls.headscale with
  | ok value => rfl
  | error error =>
      rw [outcome] at deleted
      cases error with
      | headscale text => rfl
      | value text => cases deleted
      | integrity text => cases deleted
      | other text => cases deleted

theorem delete_owned {s : State} (owned : Owned s) {gatewayId : Nat} {jobId : Option Nat} {removal : RemovalCalls}
    {calls : DeletionCalls} (gone : InstanceGone s (.delete gatewayId jobId removal calls)) :
    Owned (deleteStep s gatewayId jobId removal calls) := by
  unfold deleteStep
  split
  · have rows : resourcesOf (completeJob s.db jobId) = resourcesOf s.db :=
      resourcesOf_of_gateways (gateways_completeJob s.db jobId)
    refine ⟨?_, ?_, ?_, ?_, ?_⟩
    · simpa only [rows] using owned.instances
    · simpa only [rows] using owned.names
    · simpa only [rows] using owned.vmIps
    · simpa only [rows] using owned.udpPorts
    · simpa only [rows] using owned.held
  · rename_i gateway present
    dsimp only
    split
    · exact owned
    · rename_i db deleted
      have reached := gone (executeDeleteGateway_passes present deleted)
      have gateways := gateways_executeDeleteGateway present deleted
      have fewer : ∀ id r, resourcesOf db id = some r → id ≠ gatewayId ∧ resourcesOf s.db id = some r := by
        intro id r found
        obtain ⟨row, stored, rfl⟩ := gateway_of_resourcesOf found
        rw [gateways] at stored
        obtain ⟨other, earlier⟩ := Table.get_delete_some stored
        exact ⟨other, by rw [resourcesOf, earlier]; rfl⟩
      refine ⟨?_, ?_, ?_, ?_, ?_⟩
      · exact fun id r found => owned.instances id r (fewer id r found).2
      · exact fun first second one other found found' =>
          owned.names first second one other (fewer first one found).2 (fewer second other found').2
      · exact fun first second one other found found' =>
          owned.vmIps first second one other (fewer first one found).2 (fewer second other found').2
      · exact fun first second one other found found' =>
          owned.udpPorts first second one other (fewer first one found).2 (fewer second other found').2
      · intro worker name row found
        dsimp only at found
        have left : s.hosts worker name = some row ∧
            (worker = gateway.workerId → name = gateway.incusInstance → Bare row) := by
          by_cases here : worker = gateway.workerId
          · subst here
            rw [Function.update_self] at found
            have earlier := deleteGatewayVm_some found
            refine ⟨earlier, ?_⟩
            rintro - rfl
            rcases reached with ⟨connected, effective⟩ | bare
            · rw [deleteGatewayVm_self connected effective] at found
              cases found
            · exact bare gateway row present earlier
          · rw [Function.update_of_ne here] at found
            exact ⟨found, fun same => absurd same here⟩
        rcases owned.held worker name row left.1 with bare | ⟨id, r, stored, rfl, rfl, fits⟩
        · exact .inl bare
        · by_cases own : id = gatewayId
          · subst own
            rw [resourcesOf, present] at stored
            cases stored
            exact .inl (left.2 rfl rfl)
          · refine .inr ⟨id, r, ?_, rfl, rfl, fits⟩
            rw [resourcesOf, gateways, Table.get_delete_of_ne own]
            exact stored

theorem step_owned {s t : State} {event : Event} (owned : Owned s) (gone : InstanceGone s event)
    (stepped : step s event = some t) : Owned t := by
  cases event with
  | create calls request =>
      simp only [step] at stepped
      split at stepped
      · cases stepped
        exact owned
      · rename_i db gatewayId jobId created
        cases stepped
        exact create_owned owned created
  | provision gatewayId jobId launch calls =>
      cases stepped
      exact provision_owned owned gatewayId jobId launch calls
  | delete gatewayId jobId removal calls =>
      cases stepped
      exact delete_owned owned gone

theorem safe_of_owned {s : State} (owned : Owned s) : AddressesSafe s where
  distinct := by
    intro worker first second one other found found' different
    have apart (same : ∃ id r, resourcesOf s.db id = some r ∧ r.incusInstance = first ∧ r.incusInstance = second) :
        False := by
      obtain ⟨id, r, -, rfl, same⟩ := same
      exact different same
    rcases owned.held worker first one found with bare | ⟨id, r, stored, rfl, named, fits⟩
    · refine ⟨?_, ?_⟩
      · intro ip held
        rw [bare.1] at held
        cases held
      · intro port held
        rw [bare.2] at held
        cases held
    · rcases owned.held _ second other found' with bare | ⟨id', r', stored', worker, named', fits'⟩
      · refine ⟨?_, ?_⟩
        · intro ip _ held
          rw [bare.1] at held
          cases held
        · intro port _ held
          rw [bare.2] at held
          cases held
      · refine ⟨?_, ?_⟩
        · intro ip held held'
          obtain rfl := owned.vmIps id id' r r' stored stored' worker.symm (by rw [← fits.1 ip held, ← fits'.1 ip held'])
          rw [stored] at stored'
          cases stored'
          exact apart ⟨id, r, stored, named, named'⟩
        · intro port held held'
          obtain rfl := owned.udpPorts id id' r r' stored stored' worker.symm
            (by rw [← fits.2 port held, ← fits'.2 port held'])
          rw [stored] at stored'
          cases stored'
          exact apart ⟨id, r, stored, named, named'⟩
  kept := by
    intro worker name row found
    rcases owned.held worker name row found with bare | ⟨id, r, stored, rfl, -, fits⟩
    · refine ⟨?_, ?_⟩
      · intro ip held
        rw [bare.1] at held
        cases held
      · intro port held
        rw [bare.2] at held
        cases held
    · obtain ⟨gateway, present, rfl⟩ := gateway_of_resourcesOf stored
      exact ⟨fun ip held => mem_gatewayVmIps.mpr ⟨id, gateway, present, rfl, (fits.1 ip held).symm⟩,
        fun port held => mem_gatewayUdpPorts.mpr ⟨id, gateway, present, rfl, (fits.2 port held).symm⟩⟩

/-- As long as every deletion gets rid of its instance, addresses and ports in use are neither free nor shared. -/
theorem addresses_safe_while_instances_gone {s t : State} (initial : Initial s)
    (reached : Reaches step InstanceGone s t) : AddressesSafe t :=
  safe_of_owned (reached.invariant (owned_initial initial) fun _ _ _ owned gone stepped =>
    step_owned owned gone stepped)

/-! ### An instance that outlives its gateway -/

def allDone : LaunchCalls := ⟨.done, .done, .done, .done, .done, .done, .done, .done, .done, .done⟩

def createNamed (name : String) : Event := .create ⟨0, 2660, .ok ()⟩ ⟨some name, none, none⟩

def provisionUnhealthy (gatewayId : Nat) : Event :=
  .provision gatewayId gatewayId allDone {
    render := .ok ()
    launch := .ok ()
    deadline := 0
    polls := []
    lastHealth := .error (.other "no answer")
    register := .ok ()
    finalize := ⟨.ok (), .ok [], .ok (), .ok (), .ok [], .ok []⟩
    peer := ⟨"key", 0, .ok (), .ok ()⟩ }

def deleteRemoving (gatewayId : Nat) (outcome : CallOutcome) : Event :=
  .delete gatewayId none ⟨.done, outcome⟩ ⟨.ok (), .ok ()⟩

def emptyWorker : State where
  db := { Db.empty with
    workers := Table.empty.insert ⟨"w1", "w1", "https://w1:8443", true, some 0, 51820, 51920, 168427775, 168427530⟩ }
  hosts := fun _ _ => none

theorem emptyWorker_initial : Initial emptyWorker where
  gateways := fun _ => rfl
  hosts := by
    intro worker name row found
    cases found

/-- When Incus refuses to delete the first gateway's instance, the second gateway's gets the same address and port. -/
theorem leftover_instance_shares_address :
    ∃ s t, Initial s ∧ Reaches step (fun _ _ => True) s t ∧ ¬AddressesSafe t := by
  let events : List Event := [createNamed "a", provisionUnhealthy 1,
    deleteRemoving 1 (.failed (.other "Incus operation failed")), createNamed "b", provisionUnhealthy 2]
  have ran : (Lib.run step (fun _ _ => true) emptyWorker events).any (fun t =>
      decide (t.hosts 1 "gw-a" = some ⟨some 168427530, some 51820⟩ ∧
        t.hosts 1 "gw-b" = some ⟨some 168427530, some 51820⟩)) = true := by
    decide +kernel
  obtain ⟨t, arrived, shared⟩ := Lib.exists_of_any ran
  obtain ⟨first, second⟩ := of_decide_eq_true shared
  refine ⟨emptyWorker, t, emptyWorker_initial, Lib.reaches_of_run (fun _ _ _ => trivial) arrived, ?_⟩
  intro safe
  exact (safe.distinct 1 "gw-a" "gw-b" _ _ first second (by decide)).1 168427530 rfl rfl

theorem removed_instance_address_reused :
    ∃ t, Reaches step InstanceGone emptyWorker t ∧ t.hosts 1 "gw-a" = none ∧
      t.hosts 1 "gw-b" = some ⟨some 168427530, some 51820⟩ ∧ AddressesSafe t := by
  let events : List Event := [createNamed "a", provisionUnhealthy 1,
    deleteRemoving 1 .done, createNamed "b", provisionUnhealthy 2]
  have ran : (Lib.run step (fun _ event => match event with
      | .delete _ _ removal _ => removal.connect = .done && removal.deleteInstance = .done
      | _ => true) emptyWorker events).any (fun t =>
      decide (t.hosts 1 "gw-a" = none ∧ t.hosts 1 "gw-b" = some ⟨some 168427530, some 51820⟩)) = true := by
    decide +kernel
  obtain ⟨t, arrived, reused⟩ := Lib.exists_of_any ran
  have reached : Reaches step InstanceGone emptyWorker t := by
    refine Lib.reaches_of_run ?_ arrived
    intro s event checked
    cases event with
    | delete gatewayId jobId removal calls =>
        simp only [Bool.and_eq_true, decide_eq_true_eq] at checked
        refine fun _ => .inl ⟨checked.1, ?_⟩
        intro error failed
        rw [checked.2] at failed
        cases failed
    | _ => trivial
  obtain ⟨gone, given⟩ := of_decide_eq_true reused
  exact ⟨t, reached, gone, given, addresses_safe_while_instances_gone emptyWorker_initial reached⟩

end DeepOrc.Incus
